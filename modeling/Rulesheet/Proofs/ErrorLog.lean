import Mathlib.Tactic.SplitIfs
import Rulesheet.ErrorLog
import Rulesheet.Proofs.Files.Addressing
import Rulesheet.Proofs.Files.Placing

/- What a flush of error records leaves behind. It makes its directory and writes one line a record
   behind what its file holds already, or it fails and says why; nothing else changes. It fails with
   some of the lines written when a record has a text that no file holds. -/
namespace Rulesheet

namespace ErrorRecord

theorem newline_absent_hexDigits (width n : Nat) : '\n' ∉ Text.hexDigits width n := by
  induction width generalizing n with
  | zero => exact List.not_mem_nil
  | succ width ih =>
    have digit : ∀ d < 16, Text.hexDigit d ≠ '\n' := by decide
    rw [Text.hexDigits, List.mem_append, List.mem_singleton, not_or]
    exact ⟨ih _, (digit _ (Nat.mod_lt n (by decide))).symm⟩

theorem newline_absent_escapeChar (c : Char) : '\n' ∉ escapeChar c := by
  unfold escapeChar
  by_cases newline : c = '\n'
  · rw [newline]
    decide
  · split_ifs <;> simp [newline_absent_hexDigits, Ne.symm newline]

theorem newline_absent_jsonString (s : String) : '\n' ∉ jsonString s := by
  unfold jsonString
  intro member
  rcases List.mem_append.mp member with opened | closing
  · rcases List.mem_cons.mp opened with quote | inside
    · cases quote
    · obtain ⟨c, _, escaped⟩ := List.mem_flatMap.mp inside
      exact newline_absent_escapeChar c escaped
  · cases List.mem_singleton.mp closing

theorem newline_absent_jsonLine (r : ErrorRecord) : '\n' ∉ r.jsonLine.toList := by
  have field (key value : String) : '\n' ∉
      (String.ofList (jsonString key) ++ ": " ++ String.ofList (jsonString value)).toList := by
    simp [newline_absent_jsonString]
  unfold jsonLine
  simp only [String.toList_append, String.toList_intercalate, List.mem_append, not_or]
  refine ⟨⟨by decide, ?_⟩, by decide⟩
  intro member
  rcases Text.mem_intercalate member with between | ⟨_, listed, inside⟩
  · exact absurd between (by decide)
  · obtain ⟨_, written, rfl⟩ := List.mem_map.mp listed
    obtain ⟨⟨key, value⟩, _, rfl⟩ := List.mem_map.mp written
    exact field key value inside

end ErrorRecord

namespace ErrorLog

def place (home : Location) : Location := home ++ ["logs"]

def filePlace (home : Location) (stamp : String) : Location :=
  home ++ ["logs", "errors-" ++ stamp ++ ".log"]

theorem resolve_directory (home : Location) :
    Location.resolve home ⟨"", ["logs"]⟩ = place home := by
  have down : "logs" ≠ ".." := by decide
  simp [Location.resolve, Location.step_into down, place]

theorem resolve_file (home : Location) (stamp : String) :
    Location.resolve home (Path.mk "" ["logs"] ++ fileName stamp) = filePlace home stamp := by
  have down : "errors-" ++ stamp ++ ".log" ≠ ".." := by
    intro same
    have chars := congrArg String.toList same
    simp at chars
  change Location.resolve home ⟨"", ["logs"] ++ ["errors-" ++ stamp ++ ".log"]⟩ = _
  rw [Location.resolve_append home ⟨"", ["logs"]⟩, resolve_directory]
  simp [Location.step_into down, place, filePlace]

theorem grows_flush {t : FileTree} (stands : t.node? t.workingDirectory = some .directory)
    (records : List ErrorRecord) (stamp : String) :
    t.Grows (flush { buffered := records } t stamp).tree (· = place t.workingDirectory)
      (· = filePlace t.workingDirectory stamp) := by
  have made : t.Grows (t.makeDirectories ⟨"", ["logs"]⟩).tree (· = place t.workingDirectory)
      (· = filePlace t.workingDirectory stamp) := by
    refine (t.grows_makeDirectories ⟨"", ["logs"]⟩ _).mono ?_ fun _ => id
    rintro l free ⟨segments, before, rfl⟩
    rcases List.prefix_cons_iff.mp before with rfl | ⟨rest, rfl, last⟩
    · change t.node? t.workingDirectory = none at free
      rw [stands] at free
      cases free
    · rw [List.prefix_nil.mp last]
      exact resolve_directory _
  unfold flush
  split
  · exact .refl _ _ _
  dsimp only
  split
  · exact made
  · have written := made.trans ((FileTree.grows_appendTexts (t.makeDirectories ⟨"", ["logs"]⟩).tree
      (Path.mk "" ["logs"] ++ fileName stamp) (lines records) (· = place t.workingDirectory)).mono
        (fun _ _ => id) fun l here => by
          rw [here, made.workingDirectory]
          exact resolve_file _ _)
    unfold flushTo
    dsimp only
    split
    · exact written
    · exact written

/-! What is written to the file. -/

theorem cut_written (records : List ErrorRecord) :
    Text.cut '\n' (written records) = records.map ErrorRecord.jsonLine ++ [""] := by
  have lines : Text.cutChars '\n' (written records).toList =
      records.map (fun r => r.jsonLine.toList) ++ [[]] := by
    unfold written
    induction records with
    | nil => rfl
    | cons r rs ih =>
      have split : (String.join (lines (r :: rs))).toList =
          r.jsonLine.toList ++ '\n' :: (String.join (lines rs)).toList := by
        simp [lines, String.toList_join]
      rw [split, Text.cutChars_append r.newline_absent_jsonLine, ih]
      rfl
  rw [Text.cut, lines, List.map_append, List.map_map]
  simp only [Function.comp_def, String.ofList_toList, List.map_cons, List.map_nil, String.ofList_nil]

end ErrorLog

/-! Records with bytes. -/

namespace ErrorRecord

def HasBytes (r : ErrorRecord) : Prop := ∀ field ∈ r.fields, Encodable field.2

instance (r : ErrorRecord) : Decidable r.HasBytes :=
  inferInstanceAs (Decidable (∀ field ∈ r.fields, Encodable field.2))

theorem isHalf_of_ascii {c : Char} (ascii : c.toNat < 0x80) : Utf8.isHalf c = false := by
  have below : ¬ Text.surrogateBase ≤ c.toNat := by
    unfold Text.surrogateBase
    omega
  simp [Utf8.isHalf, Text.surrogate?, below]

theorem ascii_of_mem_hexDigits {width n : Nat} {d : Char} (member : d ∈ Text.hexDigits width n) :
    d.toNat < 0x80 := by
  induction width generalizing n with
  | zero => exact absurd member List.not_mem_nil
  | succ width ih =>
    have digit : ∀ k < 16, (Text.hexDigit k).toNat < 0x80 := by decide
    rcases List.mem_append.mp member with before | last
    · exact ih before
    · rw [List.mem_singleton.mp last]
      exact digit _ (Nat.mod_lt n (by decide))

theorem mem_escapeChar (c : Char) :
    (∀ d ∈ escapeChar c, d = c ∨ d.toNat < 0x80) ∧ (0x80 ≤ c.toNat → c ∈ escapeChar c) := by
  unfold escapeChar
  split_ifs with quote slash newline ret tab back feed low
  · subst quote; simp
  · subst slash; simp
  · subst newline; simp
  · subst ret; simp
  · subst tab; simp
  · subst back; simp
  · subst feed; simp
  · refine ⟨?_, fun high => absurd low (by omega)⟩
    intro d member
    right
    rcases List.mem_cons.mp member with rfl | later
    · decide
    · rcases List.mem_cons.mp later with rfl | digit
      · decide
      · exact ascii_of_mem_hexDigits digit
  · exact ⟨fun d member => .inl (List.mem_singleton.mp member), fun _ => List.mem_singleton_self c⟩

theorem encodable_jsonString {s : String} :
    Encodable (String.ofList (jsonString s)) ↔ Encodable s := by
  have quote : Utf8.isHalf '"' = false := by decide
  unfold Encodable jsonString
  rw [String.toList_ofList, List.forall_mem_append, List.forall_mem_cons, List.forall_mem_singleton,
    List.forall_mem_flatMap]
  simp only [quote, true_and, and_true]
  apply forall₂_congr
  intro c _
  obtain ⟨escape, itself⟩ := mem_escapeChar c
  constructor
  · intro whole
    by_cases ascii : c.toNat < 0x80
    · exact isHalf_of_ascii ascii
    · exact whole c (itself (Nat.le_of_not_lt ascii))
  · intro whole d member
    rcases escape d member with rfl | ascii
    · exact whole
    · exact isHalf_of_ascii ascii

theorem encodable_line {r : ErrorRecord} : Encodable (r.jsonLine ++ "\n") ↔ r.HasBytes := by
  have braces : Encodable "\x7b" ∧ Encodable "\x7d" ∧ Encodable "\n" ∧ Encodable ": " ∧
      Encodable ", " := by decide
  obtain ⟨opening, closing, newline, colon, comma⟩ := braces
  have keys : ∀ field ∈ r.fields, Encodable field.1 := by
    simp only [fields, List.forall_mem_cons]
    decide
  unfold jsonLine HasBytes
  rw [encodable_append, encodable_append, encodable_append]
  simp only [opening, closing, newline, true_and, and_true]
  change Encodable (Text.join ", " _) ↔ _
  rw [encodable_join comma, List.forall_mem_map]
  apply forall₂_congr
  rintro ⟨key, value⟩ member
  dsimp only
  rw [encodable_append, encodable_append, encodable_jsonString, encodable_jsonString]
  exact and_iff_right ⟨keys _ member, colon⟩

end ErrorRecord

namespace ErrorLog

def writable (records : List ErrorRecord) : List ErrorRecord :=
  records.takeWhile fun r => r.HasBytes

theorem textFault?_line (r : ErrorRecord) :
    (Utf8.textFault? (r.jsonLine ++ "\n")).isNone = decide r.HasBytes := by
  rw [Bool.eq_iff_iff, Option.isNone_iff_eq_none, textFault?_eq_none, ErrorRecord.encodable_line,
    decide_eq_true_eq]

theorem encodable_lines (records : List ErrorRecord) :
    FileTree.encodable (lines records) = lines (writable records) := by
  unfold FileTree.encodable lines writable
  rw [List.takeWhile_map]
  simp only [Function.comp_def, textFault?_line]

theorem fault_lines {records : List ErrorRecord} :
    (lines records).findSome? Utf8.textFault? = none ↔ ∀ r ∈ records, r.HasBytes := by
  unfold lines
  rw [List.findSome?_eq_none_iff, List.forall_mem_map]
  apply forall₂_congr
  intro r _
  rw [textFault?_eq_none, ErrorRecord.encodable_line]

theorem writable_eq_self {records : List ErrorRecord} :
    writable records = records ↔ ∀ r ∈ records, r.HasBytes := by
  unfold writable
  rw [List.takeWhile_eq_self_iff]
  simp only [decide_eq_true_eq]

def grown (before : Option Content) (records : List ErrorRecord) : Content :=
  FileTree.Content.append (before.getD (.text "")) (written records)

inductive Appended (t : FileTree) (p : Path) (records : List ErrorRecord) : FileTree.Attempt → Prop
    where
  | unopened {e : FileError} (failed : t.openForWriting p = .error e) :
    Appended t p records ⟨t, some e⟩
  | torn {l : Location} {e : EncodeError} (opened : t.openForWriting p = .ok l)
    (lost : ¬ ∀ r ∈ records, r.HasBytes) :
    Appended t p records ⟨t.put l (.file (grown (t.file? l) (writable records))),
      some (.unencodable e)⟩
  | whole {l : Location} (opened : t.openForWriting p = .ok l)
    (sound : ∀ r ∈ records, r.HasBytes) :
    Appended t p records ⟨t.put l (.file (grown (t.file? l) records)), none⟩

theorem appended (t : FileTree) (p : Path) (records : List ErrorRecord) :
    Appended t p records (t.appendTexts p (lines records)) := by
  unfold FileTree.appendTexts
  split
  · rename_i failed
    exact .unopened failed
  · rename_i opened
    rw [encodable_lines]
    cases fault : (lines records).findSome? Utf8.textFault? with
    | some e =>
      refine .torn opened ?_
      rw [← fault_lines, fault]
      simp
    | none =>
      have sound := fault_lines.mp fault
      rw [writable_eq_self.mpr sound]
      exact .whole opened sound

structure Writable (t : FileTree) (stamp : String) : Prop where
  way : t.Clear ⟨"", ["logs"]⟩
  usable : FileTree.Usable (Path.mk "" ["logs"] ++ fileName stamp)
  short : FileTree.Short ("errors-" ++ stamp ++ ".log")
  place : t.node? (filePlace t.workingDirectory stamp) ≠ some .directory

/-- What becomes of records: there are none, or they stand behind what their file has held, or
    something is in the way, or one of them has no bytes and only those before it are written, or the
    file's name is none that the system takes. -/
inductive Flushes (t : FileTree) (stamp : String) (records : List ErrorRecord) :
    FileTree → Except FileError (Option Path) → Prop where
  | nothing (empty : records = []) : Flushes t stamp records t (.ok none)
  | recorded {t' : FileTree} (filled : records ≠ []) (free : Writable t stamp)
    (sound : ∀ r ∈ records, r.HasBytes)
    (file : t'.node? (filePlace t.workingDirectory stamp) =
      some (.file (grown (t.file? (filePlace t.workingDirectory stamp)) records))) :
    Flushes t stamp records t' (.ok (some (Path.mk "" ["logs"] ++ fileName stamp)))
  | failed {t' : FileTree} {e : FileError} (filled : records ≠ []) (obstructed : ¬ Writable t stamp)
    (named : t.Clear ⟨"", ["logs"]⟩ → Addressable stamp) (reported : e.isFault = true) :
    Flushes t stamp records t' (.error e)
  | torn {t' : FileTree} {e : EncodeError} (free : Writable t stamp)
    (lost : ¬ ∀ r ∈ records, r.HasBytes)
    (file : t'.node? (filePlace t.workingDirectory stamp) =
      some (.file (grown (t.file? (filePlace t.workingDirectory stamp)) (writable records)))) :
    Flushes t stamp records t' (.error (.unencodable e))
  | unnamed {t' : FileTree} {e : FileError} (filled : records ≠ []) (way : t.Clear ⟨"", ["logs"]⟩)
    (unnamed : ¬ Addressable stamp) (other : e.isFault = false) :
    Flushes t stamp records t' (.error e)

theorem filePlace_off_the_way (home : Location) (stamp : String) :
    ¬ FileTree.OnTheWay home ⟨"", ["logs"]⟩ (filePlace home stamp) := by
  rintro ⟨segments, before, same⟩
  rcases List.prefix_cons_iff.mp before with rfl | ⟨rest, rfl, last⟩
  · have length := congrArg List.length same
    simp [filePlace, Location.resolve] at length
  · rw [List.prefix_nil.mp last, resolve_directory] at same
    have length := congrArg List.length same
    simp [filePlace, place] at length

theorem resolve_made (t : FileTree) (stamp : String) :
    Location.resolve (t.makeDirectories ⟨"", ["logs"]⟩).tree.workingDirectory
      (Path.mk "" ["logs"] ++ fileName stamp) = filePlace t.workingDirectory stamp := by
  have grows := t.grows_makeDirectories ⟨"", ["logs"]⟩ fun _ => False
  rw [grows.workingDirectory, resolve_file]

theorem node?_made (t : FileTree) (stamp : String) :
    (t.makeDirectories ⟨"", ["logs"]⟩).tree.node? (filePlace t.workingDirectory stamp) =
      t.node? (filePlace t.workingDirectory stamp) :=
  FileTree.node?_makeDirectories_of_off (filePlace_off_the_way _ stamp)

theorem Writable.opens {t : FileTree} {stamp : String} (writable : Writable t stamp)
    (grounded : t.Grounded) :
    (t.makeDirectories ⟨"", ["logs"]⟩).error = none ∧
      (t.makeDirectories ⟨"", ["logs"]⟩).tree.openForWriting
        (Path.mk "" ["logs"] ++ fileName stamp) = .ok (filePlace t.workingDirectory stamp) := by
  have done := (FileTree.makeDirectories_done_iff grounded _).mpr writable.way
  have there := FileTree.isDirectory?_makeDirectories done
  have walked := FileTree.walk_below there writable.usable writable.short
  have place : Location.resolve (t.makeDirectories ⟨"", ["logs"]⟩).tree.workingDirectory
      ⟨"", ["logs"] ++ ["errors-" ++ stamp ++ ".log"]⟩ = filePlace t.workingDirectory stamp :=
    resolve_made t stamp
  rw [place] at walked
  have above : (filePlace t.workingDirectory stamp).dropLast =
      ErrorLog.place t.workingDirectory := by
    simp [filePlace, ErrorLog.place, List.dropLast_append_of_ne_nil]
  have on : FileTree.OnTheWay t.workingDirectory ⟨"", ["logs"]⟩
      (ErrorLog.place t.workingDirectory) :=
    ⟨["logs"], List.prefix_rfl, (resolve_directory _).symm⟩
  have same := node?_made t stamp
  exact ⟨done, FileTree.openForWriting_eq_ok.mpr ⟨walked, same ▸ writable.place, fun _ =>
    above ▸ FileTree.node?_makeDirectories_of_on done on⟩⟩

theorem writable_of_opened {t : FileTree} {stamp : String} {l : Location} (grounded : t.Grounded)
    (done : (t.makeDirectories ⟨"", ["logs"]⟩).error = none)
    (opened : (t.makeDirectories ⟨"", ["logs"]⟩).tree.openForWriting
      (Path.mk "" ["logs"] ++ fileName stamp) = .ok l) :
    Writable t stamp ∧ l = filePlace t.workingDirectory stamp := by
  obtain ⟨walked, free, _⟩ := FileTree.openForWriting_eq_ok.mp opened
  have place : l = filePlace t.workingDirectory stamp := by
    rw [FileTree.walk_eq_resolve walked, resolve_made]
  subst place
  obtain ⟨usable, walked⟩ := FileTree.walk_eq_ok.mp walked
  have names := FileTree.short_of_walkFrom walked
  refine ⟨⟨(FileTree.makeDirectories_done_iff grounded _).mp done, usable, ?_, ?_⟩, rfl⟩
  · exact names _ (Path.mem_segments_append_right List.mem_cons_self)
  · rw [← node?_made]
    exact free

theorem addressable_file {stamp : String} :
    Addressable (Path.mk "" ["logs"] ++ fileName stamp).text ↔ Addressable stamp := by
  have around : Addressable "" ∧ Addressable "logs" ∧ Addressable "errors-" ∧
      Addressable ".log" := by decide
  obtain ⟨root, logs, head, tail⟩ := around
  change Addressable (Path.mk "" ["logs", "errors-" ++ stamp ++ ".log"]).text ↔ _
  rw [Path.addressable_text, List.forall_mem_cons, List.forall_mem_singleton, addressable_append,
    addressable_append]
  exact ⟨fun all => all.2.2.1.2, fun named => ⟨root, logs, ⟨head, named⟩, tail⟩⟩

theorem file_put {t : FileTree} {stamp : String} (records : List ErrorRecord) :
    ((t.makeDirectories ⟨"", ["logs"]⟩).tree.put (filePlace t.workingDirectory stamp)
      (.file (grown ((t.makeDirectories ⟨"", ["logs"]⟩).tree.file?
        (filePlace t.workingDirectory stamp)) records))).node?
          (filePlace t.workingDirectory stamp) =
      some (.file (grown (t.file? (filePlace t.workingDirectory stamp)) records)) := by
  have filled : filePlace t.workingDirectory stamp ≠ [] := by simp [filePlace]
  rw [FileTree.node?_put, if_neg filled, if_pos rfl, FileTree.file?, node?_made]
  rfl

theorem flushes {t : FileTree} (grounded : t.Grounded) (stamp : String)
    (records : List ErrorRecord) :
    Flushes t stamp records (flush { buffered := records } t stamp).tree
      (flush { buffered := records } t stamp).outcome := by
  unfold flush
  split
  · rename_i empty
    exact .nothing empty
  rename_i filled
  dsimp only
  cases made : (t.makeDirectories ⟨"", ["logs"]⟩).error with
  | some e =>
    have blocked : ¬ t.Clear ⟨"", ["logs"]⟩ := by
      intro way
      cases made.symm.trans ((FileTree.makeDirectories_done_iff grounded _).mpr way)
    exact .failed filled (fun writable => blocked writable.way) (fun way => absurd way blocked)
      (FileTree.isFault_of_makeDirectories (by decide) made)
  | none =>
    have appended := appended (t.makeDirectories ⟨"", ["logs"]⟩).tree
      (Path.mk "" ["logs"] ++ fileName stamp) records
    unfold flushTo
    dsimp only
    revert appended
    generalize (t.makeDirectories ⟨"", ["logs"]⟩).tree.appendTexts
      (Path.mk "" ["logs"] ++ fileName stamp) (lines records) = attempt
    intro appended
    cases appended with
    | @unopened e failed =>
      cases reported : e.isFault with
      | true =>
        refine .failed filled ?_ ?_ reported
        · intro writable
          cases failed.symm.trans (writable.opens grounded).2
        · intro _
          exact addressable_file.mp (FileTree.addressable_of_isFault failed reported)
      | false =>
        refine .unnamed filled ((FileTree.makeDirectories_done_iff grounded _).mp made) ?_ reported
        intro named
        have fault := FileTree.isFault_of_openForWriting (addressable_file.mpr named) failed
        cases reported.symm.trans fault
    | torn opened lost =>
      obtain ⟨free, rfl⟩ := writable_of_opened grounded made opened
      exact .torn free lost (file_put _)
    | whole opened sound =>
      obtain ⟨free, rfl⟩ := writable_of_opened grounded made opened
      exact .recorded filled free sound (file_put _)

/-- Records do not end the program: they have bytes if their file can be written, and the system
    takes the name of the file if its directory can be made. -/
structure Loggable (t : FileTree) (stamp : String) (records : List ErrorRecord) : Prop where
  named : records ≠ [] → t.Clear ⟨"", ["logs"]⟩ → Addressable stamp
  sound : Writable t stamp → ∀ r ∈ records, r.HasBytes

theorem Flushes.loggable_iff {t t' : FileTree} {stamp : String} {records : List ErrorRecord}
    {outcome : Except FileError (Option Path)} (flushes : Flushes t stamp records t' outcome) :
    (∀ e, outcome = .error e → e.isFault = true) ↔ Loggable t stamp records := by
  cases flushes with
  | nothing empty =>
    subst empty
    exact iff_of_true (by simp) ⟨fun filled => absurd rfl filled, by simp⟩
  | recorded filled free sound file =>
    exact iff_of_true (by simp) ⟨fun _ _ => addressable_file.mp free.usable.1, fun _ => sound⟩
  | failed filled obstructed named reported =>
    refine iff_of_true ?_ ⟨fun _ => named, fun free => absurd free obstructed⟩
    rintro _ ⟨⟩
    exact reported
  | torn free lost file =>
    refine iff_of_false ?_ fun loggable => lost (loggable.sound free)
    intro reported
    cases reported _ rfl
  | unnamed filled way unnamed other =>
    refine iff_of_false ?_ fun loggable => unnamed (loggable.named filled way)
    intro reported
    cases other.symm.trans (reported _ rfl)

end ErrorLog
end Rulesheet
