import Rulesheet.Proofs.Files.Editing
import Rulesheet.Proofs.Output.Completion

/- What stands where after a writing. Names that are spelled differently may lead to one place; of
   the documents that lead there the last one stands there, each later one is announced with the
   macro whose document it replaces, and no other file changes. Besides the failures of a file
   system only a name or a content without bytes ends a writing early. Then the results before it
   have been treated so, and of the document with such a content an empty file is left. -/
namespace Rulesheet.Writing

variable {home l m : Location} {directory : Path} {t : FileTree} {w : Writing} {r : MacroResult}
  {handled rs : List MacroResult}

def documentsAt (home : Location) (directory : Path) (rs : List MacroResult) (l : Location) :
    List MacroResult :=
  rs.filter fun r => !isAstray home directory r && target home directory r = l

def overwriting (earlier r : MacroResult) : LogEntry :=
  .warning (r.fileName ++ " produced by " ++ earlier.macroName ++ " is overwritten by " ++
    r.macroName)

/-- What is said of a result behind others: that it is refused, or which document it replaces. -/
def remark (home : Location) (directory : Path) (before : List MacroResult) (r : MacroResult) :
    List LogEntry :=
  if isAstray home directory r then [refusal directory r]
  else match (documentsAt home directory before (target home directory r)).getLast? with
    | some earlier => [overwriting earlier r]
    | none => []

def remarks (home : Location) (directory : Path) (before : List MacroResult) :
    List MacroResult → List LogEntry
  | [] => []
  | r :: rest => remark home directory before r ++ remarks home directory (before ++ [r]) rest

/-- What a writing on a tree makes of the results that it has come to. -/
structure Deposits (home : Location) (directory : Path) (t : FileTree)
    (handled : List MacroResult) (w : Writing) : Prop where
  deliverable : ∀ r ∈ handled, Deliverable home directory r
  last : ∀ l r, (documentsAt home directory handled l).getLast? = some r →
    w.tree.node? l = some (.file (.text r.content))
  others : ∀ l, documentsAt home directory handled l = [] → ∀ c,
    w.tree.node? l = some (.file c) ↔ t.node? l = some (.file c)
  written : w.written = (handled.filter fun r => !isAstray home directory r).map
    fun r => directory ++ .ofString r.fileName
  refused : w.refused = (handled.filter (isAstray home directory)).length
  entries : w.entries = remarks home directory [] handled
  sound : w.error = none

/-- A content that no file holds ends a writing behind some results. Its file has been emptied, or
    made, and the document that it replaces has been named. -/
structure Empties (home : Location) (directory : Path) (handled : List MacroResult) (w : Writing)
    (r : MacroResult) (w' : Writing) : Prop where
  named : Addressable r.fileName
  inside : isAstray home directory r = false
  empty : w'.tree.node? (target home directory r) = some (.file (.text ""))
  others : ∀ l, l ≠ target home directory r → ∀ c,
    w'.tree.node? l = some (.file c) ↔ w.tree.node? l = some (.file c)
  written : w'.written = w.written
  refused : w'.refused = w.refused
  entries : w'.entries = w.entries ++ remark home directory handled r
  error : ∃ e, Utf8.textFault? r.content = some e ∧ w'.error = some (.unencodable e)

/-- How a writing that the file system does not fail comes to its end: with the last result, or at
    an output directory, a next name or a next content without bytes. -/
inductive Halts (home : Location) (directory : Path) (handled : List MacroResult) (w : Writing) :
    List MacroResult → Writing → Prop where
  | ended : Halts home directory handled w [] w
  | nowhere {rest : List MacroResult} {e : FileError}
    (bad : FileError.ofName? directory.text = some e) (idle : handled = []) :
    Halts home directory handled w rest { w with error := some e }
  | unnamed {r : MacroResult} {rest : List MacroResult} {e : FileError}
    (bad : (directory ++ .ofString r.fileName).unresolvable? = some e)
    (unnamed : ¬ Addressable r.fileName) :
    Halts home directory handled w (r :: rest) { w with error := some e }
  | torn {r : MacroResult} {rest : List MacroResult} {w' : Writing}
    (empties : Empties home directory handled w r w') :
    Halts home directory handled w (r :: rest) w'

/-! One more result. -/

theorem documentsAt_of_astray (astray : isAstray home directory r = true) (l : Location) :
    documentsAt home directory (handled ++ [r]) l = documentsAt home directory handled l := by
  simp [documentsAt, List.filter_append, astray]

theorem documentsAt_of_inside (inside : isAstray home directory r = false) (l : Location) :
    documentsAt home directory (handled ++ [r]) l =
      if target home directory r = l then documentsAt home directory handled l ++ [r]
      else documentsAt home directory handled l := by
  by_cases here : target home directory r = l <;>
    simp [documentsAt, List.filter_append, inside, here]

theorem remarks_concat (before rs : List MacroResult) (r : MacroResult) :
    remarks home directory before (rs ++ [r]) =
      remarks home directory before rs ++ remark home directory (before ++ rs) r := by
  induction rs generalizing before with
  | nil => simp [remarks]
  | cons first rest ih =>
    rw [List.cons_append, remarks, remarks, ih, List.append_assoc, List.append_assoc,
      List.singleton_append]

/-- A writing underway knows the last writer of each place. -/
structure Underway (home : Location) (directory : Path) (t : FileTree)
    (handled : List MacroResult) (w : Writing) : Prop
    extends Deposits home directory t handled w where
  at_home : w.tree.workingDirectory = home
  seen : ∀ l, w.lastWriter? l =
    (documentsAt home directory handled l).getLast?.map MacroResult.macroName

theorem Underway.begun (t : FileTree) (directory : Path) :
    Underway t.workingDirectory directory t [] { tree := (t.makeDirectories directory).tree } := by
  have made := t.grows_makeDirectories directory fun _ => False
  exact { deliverable := fun _ member => absurd member List.not_mem_nil
          last := fun _ _ none => by cases none
          others := fun l _ c => ⟨(made.change l).file_before id, (made.change l).file_after id⟩
          written := rfl
          refused := rfl
          entries := rfl
          at_home := made.workingDirectory
          sound := rfl
          seen := fun _ => rfl }

theorem lastWriter?_claim (w : Writing) (r : MacroResult) (l m : Location) :
    (w.claim r l).lastWriter? m = if l = m then some r.macroName else w.lastWriter? m := by
  by_cases here : l = m <;> simp [lastWriter?, claim, here]

structure Holds (t t' : FileTree) (l : Location) (text : String) : Prop where
  workingDirectory : t'.workingDirectory = t.workingDirectory
  here : t'.node? l = some (.file (.text text))
  elsewhere : ∀ m, m ≠ l → ∀ c, t'.node? m = some (.file c) ↔ t.node? m = some (.file c)

theorem holds_of_opened {text : String} (plain : ".." ∉ l) (filled : l ≠ []) {place : Location}
    (opened : (t.makeDirectories ⟨"/", l.dropLast⟩).tree.openForWriting ⟨"/", l⟩ = .ok place) :
    Holds t ((t.makeDirectories ⟨"/", l.dropLast⟩).tree.put place (.file (.text text))) l text := by
  have made := t.grows_makeDirectories ⟨"/", l.dropLast⟩ (· = l)
  have grows : FileTree.Grows _ _ (fun _ => False) _ :=
    FileTree.grows_opened (c := .text text) opened
  have here := (FileTree.openForWriting_ok opened).1
  rw [Location.resolve_rooted plain] at grows here
  refine ⟨made.workingDirectory, ?_, ?_⟩
  · rw [here, FileTree.node?_put, if_neg filled, if_pos rfl]
  · intro m other c
    constructor
    · exact fun file => (made.change m).file_before other ((grows.change m).file_before other file)
    · exact fun file => (grows.change m).file_after other ((made.change m).file_after other file)

theorem deliverable_concat (before : ∀ r ∈ handled, Deliverable home directory r)
    (next : Deliverable home directory r) : ∀ r' ∈ handled ++ [r], Deliverable home directory r' :=
  List.forall_mem_append.mpr ⟨before, List.forall_mem_singleton.mpr next⟩

theorem Underway.refuse (under : Underway home directory t handled w)
    (astray : isAstray home directory r = true) (named : Addressable r.fileName) :
    Underway home directory t (handled ++ [r]) (w.refuse r directory) where
  deliverable := deliverable_concat under.deliverable
    ⟨named, fun inside => absurd inside (by simp [astray])⟩
  last l := by
    rw [documentsAt_of_astray astray]
    exact under.last l
  others l := by
    rw [documentsAt_of_astray astray]
    exact under.others l
  written := by
    rw [List.filter_append, List.filter_cons_of_neg (by simp [astray]), List.filter_nil,
      List.append_nil]
    exact under.written
  refused := by
    rw [List.filter_append, List.filter_cons_of_pos astray, List.filter_nil, List.length_append,
      ← under.refused]
    rfl
  entries := by
    rw [remarks_concat, ← under.entries, remark, if_pos astray]
    rfl
  at_home := under.at_home
  sound := under.sound
  seen l := by
    rw [documentsAt_of_astray astray]
    exact under.seen l

theorem entries_claim (under : Underway home directory t handled w)
    (inside : isAstray home directory r = false) :
    (w.claim r (target home directory r)).entries =
      w.entries ++ remark home directory handled r := by
  rw [remark, inside, if_neg Bool.false_ne_true, claim]
  simp only [under.seen]
  cases (documentsAt home directory handled (target home directory r)).getLast? <;> rfl

inductive Stores (w : Writing) (r : MacroResult) (directory : Path) (l : Location) :
    Writing → Prop where
  | failed {t : FileTree} {e : FileError}
    (fault : Addressable (Path.mk "/" l).text → e.isFault = true) :
    Stores w r directory l { w with tree := t, error := some e }
  | emptied {t : FileTree} {e : EncodeError} (holds : Holds w.tree t l "")
    (bad : Utf8.textFault? r.content = some e) :
    Stores w r directory l { w with tree := t, error := some (.unencodable e) }
  | whole {t : FileTree} (holds : Holds w.tree t l r.content) (content : Encodable r.content) :
    Stores w r directory l
      { w with tree := t, written := w.written ++ [directory ++ .ofString r.fileName] }

theorem stores (w : Writing) (r : MacroResult) (directory : Path) (plain : ".." ∉ l)
    (filled : l ≠ []) : Stores w r directory l (w.store r directory l) := by
  unfold store
  dsimp only
  split
  · rename_i made
    refine .failed fun named => FileTree.isFault_of_makeDirectories ?_ made
    obtain ⟨root, names⟩ := Path.addressable_text.mp named
    exact Path.addressable_text.mpr
      ⟨root, fun name member => names name (List.dropLast_subset l member)⟩
  · have wrote := FileTree.wrote (w.tree.makeDirectories ⟨"/", l.dropLast⟩).tree ⟨"/", l⟩ r.content
    revert wrote
    generalize (w.tree.makeDirectories ⟨"/", l.dropLast⟩).tree.writeText ⟨"/", l⟩ r.content = wrote
    intro wrote
    cases wrote with
    | unopened failed => exact .failed fun named => FileTree.isFault_of_openForWriting named failed
    | emptied opened bad => exact .emptied (holds_of_opened plain filled opened) bad
    | whole opened content => exact .whole (holds_of_opened plain filled opened) content

theorem Underway.store (under : Underway home directory t handled w)
    (inside : isAstray home directory r = false) (named : Addressable r.fileName)
    (content : Encodable r.content) {t' : FileTree}
    (holds : Holds w.tree t' (target home directory r) r.content) :
    Underway home directory t (handled ++ [r])
      { w.claim r (target home directory r) with
        tree := t', written := w.written ++ [directory ++ .ofString r.fileName] } := by
  obtain ⟨kept, here, elsewhere⟩ := holds
  refine { deliverable := deliverable_concat under.deliverable ⟨named, fun _ => content⟩,
           last := ?_, others := ?_, written := ?_, refused := ?_, entries := ?_,
           at_home := kept.trans under.at_home, sound := under.sound, seen := ?_ }
  · intro l earlier
    rw [documentsAt_of_inside inside]
    split
    · rename_i same
      rw [List.getLast?_append, List.getLast?_singleton, Option.some_or, Option.some.injEq]
      rintro rfl
      exact same ▸ here
    · rename_i other
      intro standing
      exact (elsewhere l (Ne.symm other) _).mpr (under.last l earlier standing)
  · intro l none c
    rw [documentsAt_of_inside inside] at none
    split at none
    · simp at none
    · rename_i other
      exact (elsewhere l (Ne.symm other) c).trans (under.others l none c)
  · rw [List.filter_append, List.filter_cons_of_pos (by simp [inside]), List.filter_nil,
      List.map_append, ← under.written]
    rfl
  · rw [List.filter_append, List.filter_cons_of_neg (by simp [inside]), List.filter_nil,
      List.append_nil]
    exact under.refused
  · rw [remarks_concat, ← under.entries]
    exact entries_claim under inside
  · intro l
    change (w.claim r (target home directory r)).lastWriter? l = _
    rw [lastWriter?_claim, documentsAt_of_inside inside, under.seen]
    split <;> simp

theorem addressable_target (clean : ∀ name ∈ home, Path.Storable name)
    (given : Addressable directory.text) (named : Addressable r.fileName) :
    Addressable (Path.mk "/" (target home directory r)).text := by
  have rooted : Addressable "/" := by decide
  refine Path.addressable_text.mpr ⟨rooted, ?_⟩
  intro name member
  rcases Location.mem_resolve member with above | segment
  · exact (clean name above).2.1
  · rcases Path.mem_segments_append segment with before | inside
    · exact (Path.addressable_text.mp given).2 name before
    · exact Path.addressable_ofString.mpr named name inside

theorem Underway.write (under : Underway home directory t handled w)
    (clean : ∀ name ∈ home, Path.Storable name) (given : Addressable directory.text)
    (unfailing : ∀ e, (write directory (Location.resolve home directory) w r).error = some e →
      e.isFault = false) (rest : List MacroResult) :
    Underway home directory t (handled ++ [r])
        (write directory (Location.resolve home directory) w r) ∨
      Halts home directory handled w (r :: rest)
          (write directory (Location.resolve home directory) w r) ∧
        (write directory (Location.resolve home directory) w r).error ≠ none := by
  have plain : ".." ∉ home := fun member => (clean ".." member).1.2.2.1 rfl
  cases bad : (directory ++ .ofString r.fileName).unresolvable? with
  | some e =>
    have unnamed : ¬ Addressable r.fileName := by
      rw [← Path.unresolvable?_below given, bad]
      simp
    have kept : Writing.write directory (Location.resolve home directory) w r =
        { w with error := some e } := by
      unfold Writing.write
      simp only [under.sound, bad]
    rw [kept]
    exact .inr ⟨.unnamed bad unnamed, by simp⟩
  | none =>
    have named := (Path.unresolvable?_below given).mp bad
    rw [write_of_resolvable under.at_home under.sound bad] at unfailing ⊢
    cases astray : isAstray home directory r with
    | true => exact .inl (under.refuse astray named)
    | false =>
      rw [astray, if_neg Bool.false_ne_true] at unfailing
      rw [if_neg Bool.false_ne_true]
      have below : ".." ∉ target home directory r := Location.plain_resolve plain _
      have stores := stores (w.claim r (target home directory r)) r directory below
        (target_ne_nil astray)
      revert unfailing stores
      generalize (w.claim r (target home directory r)).store r directory
        (target home directory r) = w'
      intro unfailing stores
      cases stores with
      | failed fault =>
        have other := unfailing _ rfl
        rw [fault (addressable_target clean given named)] at other
        cases other
      | @emptied _ e holds bad =>
        refine .inr ⟨.torn ?_, by simp⟩
        exact { named := named, inside := astray, empty := holds.here, others := holds.elsewhere,
                written := rfl, refused := rfl, entries := entries_claim under astray,
                error := ⟨e, bad, rfl⟩ }
      | whole holds content => exact .inl (under.store astray named content holds)

/-! A whole writing. -/

theorem foldl_of_error {root : Location} (failed : w.error ≠ none)
    (rs : List MacroResult) : rs.foldl (Writing.write directory root) w = w := by
  induction rs with
  | nil => rfl
  | cons r rs ih =>
    have still : w.write directory root r = w := by
      unfold Writing.write
      cases error : w.error with
      | none => exact absurd error failed
      | some e => rfl
    rw [List.foldl_cons, still, ih]

theorem Underway.foldl (under : Underway home directory t handled w)
    (clean : ∀ name ∈ home, Path.Storable name) (given : Addressable directory.text)
    (unfailing : ∀ e, (rs.foldl (Writing.write directory (Location.resolve home directory))
      w).error = some e → e.isFault = false) :
    ∃ first rest before, rs = first ++ rest ∧ Deposits home directory t (handled ++ first) before ∧
      Halts home directory (handled ++ first) before rest
        (rs.foldl (Writing.write directory (Location.resolve home directory)) w) := by
  -- what the writing has come to is general, with the state that it has left
  induction rs generalizing handled w with
  | nil =>
    refine ⟨[], [], w, rfl, ?_⟩
    rw [List.append_nil]
    exact ⟨under.toDeposits, .ended⟩
  | cons r rs ih =>
    rw [List.foldl_cons] at unfailing ⊢
    have unfailing' : ∀ e, (w.write directory (Location.resolve home directory) r).error = some e →
        e.isFault = false := by
      intro e failed
      rw [foldl_of_error (by simp [failed])] at unfailing
      exact unfailing e failed
    rcases under.write clean given unfailing' rs with on | ⟨halts, failed⟩
    · obtain ⟨first, rest, before, split, deposits, halts⟩ := ih on unfailing
      rw [List.append_assoc, List.singleton_append] at deposits halts
      exact ⟨r :: first, rest, before, congrArg (r :: ·) split, deposits, halts⟩
    · refine ⟨[], r :: rs, w, rfl, ?_⟩
      rw [foldl_of_error failed, List.append_nil]
      exact ⟨under.toDeposits, halts⟩

/-- A writing that the file system does not fail treats the successes of a run one after another,
    to the last one or to the first without bytes for its name or its content. Each place that
    documents lead to holds the last of them and no other file has changed, but that a content
    without bytes leaves its file empty; every document that is not refused is listed as written,
    the refused ones are counted, and the log says of each result in order that it is refused or
    which document it replaces, if it does. -/
theorem writing_deposits {t : FileTree} (clean : ∀ name ∈ t.workingDirectory, Path.Storable name)
    (directory : Path) (run : RunResult)
    (unfailing : ∀ cause p, (all t directory run.results).error ≠ some (.fault cause p)) :
    ∃ handled rest before, run.successes = handled ++ rest ∧
      Deposits t.workingDirectory directory t handled before ∧
      Halts t.workingDirectory directory handled before rest
        (all t directory run.results) := by
  have begun := Underway.begun t directory
  have other : ∀ e, (all t directory run.results).error = some e → e.isFault = false := by
    intro e failed
    cases e with
    | fault cause p => exact absurd failed (unfailing cause p)
    | nulInPath | unencodable e => rfl
  cases done : (t.makeDirectories directory).error with
  | some e =>
    have whole : all t directory run.results =
        { tree := (t.makeDirectories directory).tree, error := some e } := by
      unfold all
      simp only [done]
    rw [whole] at other ⊢
    have unaddressable := FileTree.ofName?_of_makeDirectories done (other e rfl)
    exact ⟨[], run.successes, _, rfl, begun.toDeposits, .nowhere unaddressable rfl⟩
  | none =>
    have whole : all t directory run.results = run.successes.foldl
        (write directory (Location.resolve t.workingDirectory directory))
        { tree := (t.makeDirectories directory).tree } := by
      unfold all
      simp only [done]
      rfl
    have given := (FileTree.way_of_isDirectory? (FileTree.isDirectory?_makeDirectories done)).1.1
    rw [whole] at other ⊢
    exact begun.foldl clean given other

/-! Two spellings of one file, a name that leads out of the directory, a failed macro and a name
    with a NUL that keeps the last document from being written. -/

def respelledStore : FileTree where
  entries := [(["home"], .directory), (["home", "out"], .directory),
    (["home", "out", "a.xml"], .file (.text "before")),
    (["home", "out", "kept.xml"], .file (.text "kept"))]
  workingDirectory := ["home"]

def respelledRun : RunResult where
  results := [.document "<First/>" "a.xml" "A", .document "<Astray/>" "../x.xml" "A",
    .failed "no output file template configured" "B", .document "<Second/>" "./a.xml" "C",
    .document "<Unnamed/>" "b\x00.xml" "D", .document "<Last/>" "c.xml" "E"]

theorem writing_deposits_respelled :
    let w := all respelledStore (.ofString "out") respelledRun.results
    (∀ name ∈ respelledStore.workingDirectory, Path.Storable name) ∧
    (∀ cause p, w.error ≠ some (.fault cause p)) ∧
    (∃ handled rest before, respelledRun.successes = handled ++ rest ∧
      Deposits ["home"] (.ofString "out") respelledStore handled before ∧
      Halts ["home"] (.ofString "out") handled before rest w) ∧
    w.error = some .nulInPath ∧
    w.tree.node? ["home", "out", "a.xml"] = some (.file (.text "<Second/>")) ∧
    w.tree.node? ["home", "out", "kept.xml"] = some (.file (.text "kept")) ∧
    w.tree.node? ["home", "out", "c.xml"] = none ∧
    w.entries = [.error "macro A: refusing to write '../x.xml' outside out",
      .warning "./a.xml produced by A is overwritten by C"] := by
  intro w
  have clean : ∀ name ∈ respelledStore.workingDirectory, Path.Storable name := by decide
  have facts : w.error = some .nulInPath ∧
      w.tree.node? ["home", "out", "a.xml"] = some (.file (.text "<Second/>")) ∧
      w.tree.node? ["home", "out", "kept.xml"] = some (.file (.text "kept")) ∧
      w.tree.node? ["home", "out", "c.xml"] = none ∧
      w.entries = [.error "macro A: refusing to write '../x.xml' outside out",
        .warning "./a.xml produced by A is overwritten by C"] := by
    decide +kernel
  have unfailing : ∀ cause p, w.error ≠ some (.fault cause p) := by
    intro cause p failed
    rw [facts.1] at failed
    cases failed
  exact ⟨clean, unfailing, writing_deposits clean (.ofString "out") respelledRun unfailing, facts⟩

example :
    let half := String.singleton (Text.ofSurrogate 0xD83D)
    let w := all respelledStore (.ofString "out") [.document "<First/>" "b.xml" "A",
      .document half "./b.xml" "C", .document "<Last/>" "c.xml" "E"]
    w.tree.node? ["home", "out", "b.xml"] = some (.file (.text "")) ∧
      w.tree.node? ["home", "out", "c.xml"] = none ∧ w.written = [.ofString "out/b.xml"] ∧
      w.entries = [.warning "./b.xml produced by A is overwritten by C"] := by
  decide +kernel

end Rulesheet.Writing
