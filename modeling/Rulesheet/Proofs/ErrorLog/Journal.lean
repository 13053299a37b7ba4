import Rulesheet.Proofs.ErrorLog
import Rulesheet.Proofs.ErrorLog.Reading
import Rulesheet.Proofs.Text.Utf8

/- An error log in use. Records come in, flushes succeed or fail, and others change the file tree as
   they like. At every moment the records that came in are those of the flushes that succeeded
   followed by those that are buffered. A flush that does not come to open the file leaves buffer and
   files as they were. One that comes upon a record without bytes has written the records before it
   and keeps them buffered, so that they are written again: this is the only way in which a record
   is written twice, and none is lost. -/
namespace Rulesheet.FileTree

variable {t t' : FileTree} {l : Location} {makes writes : Location → Prop}

theorem file?_eq_some {c : Content} : t.file? l = some c ↔ t.node? l = some (.file c) := by
  unfold file?
  split
  · rename_i at_l
    rw [at_l, Option.some.injEq, Option.some.injEq, Node.file.injEq]
  · rename_i no_file
    exact iff_of_false (by simp) (no_file c)

theorem Grows.file?_eq (grows : t.Grows t' makes writes) (unwritten : ¬ writes l) :
    t'.file? l = t.file? l := by
  ext c
  rw [file?_eq_some, file?_eq_some]
  exact ⟨(grows.change l).file_before unwritten, (grows.change l).file_after unwritten⟩

theorem file?_put_opened {p : Path} {c : Content} (opened : t.openForWriting p = .ok l)
    (l' : Location) : (t.put l (.file c)).file? l' =
      if Location.resolve t.workingDirectory p = l' then some c else t.file? l' := by
  obtain ⟨rfl, before⟩ := openForWriting_ok opened
  split
  · rename_i here
    rw [file?_eq_some, ← here, node?_put, if_neg (ne_root_of_node? before), if_pos rfl]
  · rename_i elsewhere
    have grows : t.Grows (t.put _ (.file c)) (fun _ => False) _ := grows_opened opened
    exact grows.file?_eq (Ne.symm elsewhere)

end Rulesheet.FileTree

namespace Rulesheet.ErrorLog

variable {log : ErrorLog} {t t' : FileTree} {p : Path} {moment : String}

/-- The path of the file after an access. Once it is fixed it stays; before, there must be a
    directory for it. -/
def access (log : ErrorLog) (t : FileTree) (moment : String) : Option Path :=
  match log.file with
  | some p => some p
  | none => match (t.makeDirectories log.directory).error with
    | none => some (log.directory ++ fileName moment)
    | some _ => none

def prepared (log : ErrorLog) (t : FileTree) : FileTree :=
  match log.file with
  | some _ => t
  | none => (t.makeDirectories log.directory).tree

def putDown (log : ErrorLog) (t : FileTree) (moment : String) : List ErrorRecord :=
  match log.access t moment with
  | none => []
  | some p => match (log.prepared t).openForWriting p with
    | .error _ => []
    | .ok _ => writable log.buffered

/-- What a flush does, with the records that it writes. -/
inductive Effect (log : ErrorLog) (t : FileTree) (moment : String) :
    Flush → List ErrorRecord → Prop where
  | idle (empty : log.buffered = []) : Effect log t moment ⟨log, t, .ok none⟩ []
  | stopped {t' : FileTree} {e : FileError} (filled : log.buffered ≠ [])
    (home : t'.workingDirectory = t.workingDirectory) (files : ∀ l, t'.file? l = t.file? l) :
    Effect log t moment ⟨{ log with file := log.access t moment }, t', .error e⟩ []
  | torn {t' : FileTree} {p : Path} {e : EncodeError} (lost : ¬ ∀ r ∈ log.buffered, r.HasBytes)
    (fixed : log.access t moment = some p) (home : t'.workingDirectory = t.workingDirectory)
    (files : ∀ l, t'.file? l = if Location.resolve t.workingDirectory p = l then
      some (grown (t.file? l) (writable log.buffered)) else t.file? l) :
    Effect log t moment ⟨{ log with file := some p }, t', .error (.unencodable e)⟩
      (writable log.buffered)
  | stored {t' : FileTree} {p : Path} (filled : log.buffered ≠ [])
    (sound : ∀ r ∈ log.buffered, r.HasBytes)
    (fixed : log.access t moment = some p) (home : t'.workingDirectory = t.workingDirectory)
    (files : ∀ l, t'.file? l = if Location.resolve t.workingDirectory p = l then
      some (grown (t.file? l) log.buffered) else t.file? l) :
    Effect log t moment ⟨{ log with buffered := [], file := some p }, t', .ok (some p)⟩
      log.buffered

theorem written_append (rs rs' : List ErrorRecord) :
    written (rs ++ rs') = written rs ++ written rs' := by
  simp [written, lines]

theorem append_append (c : Content) (s s' : String) :
    FileTree.Content.append (FileTree.Content.append c s) s' =
      FileTree.Content.append c (s ++ s') := by
  cases c with
  | text v => exact congrArg Content.text (String.append_assoc ..)
  | bytes b =>
    simp only [FileTree.Content.append, Utf8.toUTF8_toList, String.toList_append,
      List.flatMap_append, List.append_assoc]
  | workbook sheets => rfl

theorem grown_grown (before : Option Content) (rs rs' : List ErrorRecord) :
    grown (some (grown before rs)) rs' = grown before (rs ++ rs') := by
  rw [grown, grown, grown, Option.getD_some, append_append, written_append]

theorem file?_put_grown {l : Location} (opened : t.openForWriting p = .ok l)
    (records : List ErrorRecord) (l' : Location) :
    (t.put l (.file (grown (t.file? l) records))).file? l' =
      if Location.resolve t.workingDirectory p = l' then some (grown (t.file? l') records)
      else t.file? l' := by
  rw [FileTree.file?_put_opened opened]
  split
  · rename_i here
    rw [(FileTree.openForWriting_ok opened).1, here]
  · rfl

theorem effect_flushTo (filled : log.buffered ≠ []) {before : FileTree}
    (home : t.workingDirectory = before.workingDirectory)
    (files : ∀ l, t.file? l = before.file? l) (fixed : log.access before moment = some p)
    (ready : log.prepared before = t) :
    Effect log before moment (log.flushTo t p) (log.putDown before moment) := by
  have appended := appended t p log.buffered
  unfold flushTo putDown
  simp only [fixed, ready]
  revert appended
  generalize t.appendTexts p (lines log.buffered) = attempt
  intro appended
  cases appended with
  | unopened failed =>
    simp only [failed]
    rw [← fixed]
    exact .stopped filled home files
  | torn opened lost =>
    simp only [opened]
    refine .torn lost fixed home ?_
    intro l
    rw [file?_put_grown opened, home, files]
  | whole opened sound =>
    simp only [opened, writable_eq_self.mpr sound]
    refine .stored filled sound fixed home ?_
    intro l
    rw [file?_put_grown opened, home, files]

theorem effect_flush (log : ErrorLog) (t : FileTree) (moment : String) :
    Effect log t moment (log.flush t moment) (log.putDown t moment) := by
  have grows := t.grows_makeDirectories log.directory fun _ => False
  unfold flush
  split
  · rename_i empty
    have none : log.putDown t moment = [] := by
      unfold putDown
      rw [empty]
      split
      · rfl
      · split <;> rfl
    rw [none]
    exact .idle empty
  · rename_i filled
    split
    · rename_i p named
      exact effect_flushTo filled rfl (fun _ => rfl) (by rw [access, named]) (by rw [prepared, named])
    · rename_i unnamed
      dsimp only
      split
      · rename_i e failed
        have closed : log.access t moment = none := by
          rw [access, unnamed, failed]
        have kept : log = { log with file := log.access t moment } := by
          rw [closed, ← unnamed]
        have stopped : Effect log t moment ⟨{ log with file := log.access t moment },
            (t.makeDirectories log.directory).tree, .error e⟩ [] :=
          .stopped filled grows.workingDirectory fun l => grows.file?_eq id
        rw [← kept] at stopped
        rw [putDown, closed]
        exact stopped
      · rename_i made
        exact effect_flushTo filled grows.workingDirectory (fun l => grows.file?_eq id)
          (by rw [access, unnamed, made]) (by rw [prepared, unnamed])

end Rulesheet.ErrorLog

namespace Rulesheet

inductive Event where
  | append (r : ErrorRecord)
  | flush (moment : String)
  | others (tree : FileTree)

/-- A log in use, with the records of the flushes that have succeeded, and with all records as they
    have been written. -/
structure Journal where
  log : ErrorLog
  tree : FileTree
  settled : List ErrorRecord := []
  written : List ErrorRecord := []

namespace Event

def record? : Event → Option ErrorRecord
  | append r => some r
  | _ => none

def isOwn : Event → Bool
  | others _ => false
  | _ => true

end Event

namespace Journal

variable {j j' j'' : Journal} {es : List Event}

def step (j : Journal) : Event → Journal
  | .append r => { j with log := j.log.append r }
  | .flush moment =>
    let flushed := j.log.flush j.tree moment
    { log := flushed.log
      tree := flushed.tree
      settled := match flushed.outcome with
        | .ok _ => j.settled ++ j.log.buffered
        | .error _ => j.settled
      written := j.written ++ j.log.putDown j.tree moment }
  | .others tree => { j with tree }

def run (j : Journal) (es : List Event) : Journal := es.foldl step j

inductive Growth (before : Option Content) : List ErrorRecord → Option Content → Prop where
  | untouched : Growth before [] before
  | opened (batch : List ErrorRecord) : Growth before batch (some (ErrorLog.grown before batch))

theorem Growth.trans {before between after : Option Content} {batch batch' : List ErrorRecord}
    (first : Growth before batch between) (second : Growth between batch' after) :
    Growth before (batch ++ batch') after := by
  cases second with
  | untouched =>
    rw [List.append_nil]
    exact first
  | opened =>
    cases first with
    | untouched => exact .opened batch'
    | opened =>
      rw [ErrorLog.grown_grown]
      exact .opened (batch ++ batch')

/-- What a part of a history makes of the files if nobody else changes them. -/
structure Grew (j j' : Journal) (batch : List ErrorRecord) : Prop where
  home : j'.tree.workingDirectory = j.tree.workingDirectory
  written : j'.written = j.written ++ batch
  fixed : ∀ p, j.log.file = some p → j'.log.file = some p
  unnamed : j'.log.file = none → batch = []
  place : ∀ p, j'.log.file = some p →
    Growth (j.tree.file? (Location.resolve j.tree.workingDirectory p)) batch
      (j'.tree.file? (Location.resolve j.tree.workingDirectory p))
  elsewhere : ∀ l, (∀ p, j'.log.file = some p → Location.resolve j.tree.workingDirectory p ≠ l) →
    j'.tree.file? l = j.tree.file? l

theorem Grew.refl (j : Journal) : Grew j j [] where
  home := rfl
  written := (List.append_nil _).symm
  fixed _ := id
  unnamed _ := rfl
  place _ _ := .untouched
  elsewhere _ _ := rfl

theorem Grew.trans {batch batch' : List ErrorRecord} (first : Grew j j' batch)
    (second : Grew j' j'' batch') : Grew j j'' (batch ++ batch') where
  home := second.home.trans first.home
  written := by rw [second.written, first.written, List.append_assoc]
  fixed p named := second.fixed p (first.fixed p named)
  unnamed none := by
    have before : j'.log.file = Option.none := by
      by_contra named
      obtain ⟨p, named⟩ := Option.ne_none_iff_exists'.mp named
      cases none.symm.trans (second.fixed p named)
    rw [first.unnamed before, second.unnamed none, List.append_nil]
  place p named := by
    have later := second.place p named
    rw [first.home] at later
    refine Growth.trans ?_ later
    cases before : j'.log.file with
    | some q =>
      cases named.symm.trans (second.fixed q before)
      exact first.place p before
    | none =>
      -- the file got its path in the second part, so that the first has left all files alone
      have same := first.elsewhere (Location.resolve j.tree.workingDirectory p) fun q named => by
        cases before.symm.trans named
      rw [first.unnamed before, same]
      exact .untouched
  elsewhere l apart := by
    have later : j''.tree.file? l = j'.tree.file? l := by
      apply second.elsewhere
      rw [first.home]
      exact apart
    rw [later]
    exact first.elsewhere l fun q named => apart q (second.fixed q named)

theorem grew_of_files {p : Path} {batch : List ErrorRecord}
    (home : j'.tree.workingDirectory = j.tree.workingDirectory)
    (written : j'.written = j.written ++ batch)
    (fixed : ∀ q, j.log.file = some q → j'.log.file = some q) (named : j'.log.file = some p)
    (files : ∀ l, j'.tree.file? l = if Location.resolve j.tree.workingDirectory p = l then
      some (ErrorLog.grown (j.tree.file? l) batch) else j.tree.file? l) : Grew j j' batch where
  home := home
  written := written
  fixed := fixed
  unnamed none := by cases named.symm.trans none
  place q other := by
    cases named.symm.trans other
    rw [files, if_pos rfl]
    exact .opened batch
  elsewhere l apart := by
    rw [files, if_neg (apart p named)]

theorem grew_step (j : Journal) {e : Event} (own : e.isOwn = true) :
    ∃ batch, Grew j (j.step e) batch := by
  cases e with
  | append r => exact ⟨[], { Grew.refl j with }⟩
  | others tree => cases own
  | flush moment =>
    have effect := ErrorLog.effect_flush j.log j.tree moment
    have fixed : ∀ p, j.log.file = some p → j.log.access j.tree moment = some p := by
      intro p named
      rw [ErrorLog.access, named]
    refine ⟨j.log.putDown j.tree moment, ?_⟩
    unfold step
    dsimp only
    revert effect
    generalize j.log.flush j.tree moment = flushed
    generalize j.log.putDown j.tree moment = batch
    intro effect
    cases effect with
    | idle empty =>
      rw [List.append_nil, empty]
      exact { Grew.refl j with written := (List.append_nil _).symm }
    | stopped filled home files =>
      exact { home := home
              written := rfl
              fixed := fixed
              unnamed := fun _ => rfl
              place := fun p _ => by
                dsimp only
                rw [files]
                exact .untouched
              elsewhere := fun l _ => files l }
    | torn lost named home files =>
      exact grew_of_files home rfl (fun q before => named.symm.trans (fixed q before)) rfl files
    | stored filled sound named home files =>
      exact grew_of_files home rfl (fun q before => named.symm.trans (fixed q before)) rfl files

theorem grew_run (j : Journal) {es : List Event} (own : ∀ e ∈ es, e.isOwn = true) :
    ∃ batch, Grew j (j.run es) batch := by
  induction es generalizing j with
  | nil => exact ⟨[], .refl j⟩
  | cons e es ih =>
    obtain ⟨first, grew⟩ := j.grew_step (own e List.mem_cons_self)
    obtain ⟨rest, more⟩ := ih (j.step e) fun e member => own e (List.mem_cons_of_mem _ member)
    exact ⟨first ++ rest, grew.trans more⟩

/-! Whole histories. -/

theorem order_step (j : Journal) (e : Event) :
    (j.step e).settled ++ (j.step e).log.buffered =
      j.settled ++ j.log.buffered ++ e.record?.toList := by
  cases e with
  | append r => exact (List.append_assoc _ _ _).symm
  | others tree => exact (List.append_nil _).symm
  | flush moment =>
    have effect := ErrorLog.effect_flush j.log j.tree moment
    unfold step
    dsimp only
    generalize j.log.flush j.tree moment = flushed at effect
    generalize j.log.putDown j.tree moment = batch at effect
    cases effect with
    | idle empty => simp [empty, Event.record?]
    | stopped => exact (List.append_nil _).symm
    | torn => exact (List.append_nil _).symm
    | stored => rfl

theorem order_run (j : Journal) (es : List Event) :
    (j.run es).settled ++ (j.run es).log.buffered =
      j.settled ++ j.log.buffered ++ es.filterMap Event.record? := by
  induction es generalizing j with
  | nil => exact (List.append_nil _).symm
  | cons e es ih =>
    have first := ih (j.step e)
    rw [order_step, List.append_assoc] at first
    cases came : e.record? with
    | some r =>
      rw [List.filterMap_cons_some came]
      rw [came] at first
      exact first
    | none =>
      rw [List.filterMap_cons_none came]
      rw [came] at first
      exact first

theorem fixed_step (j : Journal) (e : Event) {p : Path} (named : j.log.file = some p) :
    (j.step e).log.file = some p := by
  cases own : e.isOwn with
  | true =>
    obtain ⟨_, grew⟩ := j.grew_step own
    exact grew.fixed p named
  | false =>
    cases e with
    | others tree => exact named
    | append r => cases own
    | flush moment => cases own

theorem fixed_run (j : Journal) (es : List Event) {p : Path} (named : j.log.file = some p) :
    (j.run es).log.file = some p := by
  induction es generalizing j with
  | nil => exact named
  | cons e es ih => exact ih (j.step e) (j.fixed_step e named)

/-- A flush that fails with lines written. -/
def Tears (j : Journal) (e : Event) : Prop :=
  ∃ moment cause, e = .flush moment ∧ (j.log.flush j.tree moment).outcome = .error cause ∧
    j.log.putDown j.tree moment ≠ []

theorem not_tears_of_bytes (sound : ∀ r ∈ j.log.buffered, r.HasBytes) (e : Event) :
    ¬ j.Tears e := by
  rintro ⟨moment, cause, rfl, failed, lines⟩
  have effect := ErrorLog.effect_flush j.log j.tree moment
  revert effect failed lines
  generalize j.log.flush j.tree moment = flushed
  generalize j.log.putDown j.tree moment = batch
  intro failed lines effect
  cases effect with
  | idle => cases failed
  | stopped => exact lines rfl
  | torn lost => exact lost sound
  | stored => cases failed

theorem eq_append_iff {settled written batch : List ErrorRecord} (once : settled.Sublist written) :
    written ++ batch = settled ↔ written = settled ∧ batch = [] := by
  constructor
  · intro same
    have length := congrArg List.length same
    have short := once.length_le
    rw [List.length_append] at length
    have none : batch = [] := List.length_eq_zero_iff.mp (by omega)
    rw [none, List.append_nil] at same
    exact ⟨same, none⟩
  · rintro ⟨same, none⟩
    rw [none, List.append_nil]
    exact same

theorem once_step (once : j.settled.Sublist j.written) (e : Event) :
    (j.step e).settled.Sublist (j.step e).written ∧
      ((j.step e).written = (j.step e).settled ↔ j.written = j.settled ∧ ¬ j.Tears e) := by
  cases e with
  | append r =>
    have none : ¬ j.Tears (.append r) := by
      rintro ⟨moment, cause, other, _⟩
      cases other
    exact ⟨once, (and_iff_left none).symm⟩
  | others tree =>
    have none : ¬ j.Tears (.others tree) := by
      rintro ⟨moment, cause, other, _⟩
      cases other
    exact ⟨once, (and_iff_left none).symm⟩
  | flush moment =>
    have effect := ErrorLog.effect_flush j.log j.tree moment
    have tears : j.Tears (.flush moment) ↔ (∃ cause,
        (j.log.flush j.tree moment).outcome = .error cause) ∧
          j.log.putDown j.tree moment ≠ [] := by
      constructor
      · rintro ⟨_, cause, same, failed, lines⟩
        cases same
        exact ⟨⟨cause, failed⟩, lines⟩
      · rintro ⟨⟨cause, failed⟩, lines⟩
        exact ⟨moment, cause, rfl, failed, lines⟩
    rw [tears]
    unfold step
    dsimp only
    revert effect
    generalize j.log.flush j.tree moment = flushed
    generalize j.log.putDown j.tree moment = batch
    intro effect
    cases effect with
    | idle empty => simp [empty, once]
    | stopped => simp [once]
    | torn =>
      refine ⟨once.trans (List.sublist_append_left _ _), ?_⟩
      simp [eq_append_iff once]
    | stored =>
      refine ⟨once.append_right _, ?_⟩
      simp

theorem forall_split_cons {α : Type} {first : α} {rest : List α} {holds : List α → α → Prop} :
    (∀ before x after, first :: rest = before ++ x :: after → holds before x) ↔
      holds [] first ∧
        ∀ before x after, rest = before ++ x :: after → holds (first :: before) x := by
  constructor
  · intro each
    exact ⟨each [] first rest rfl, fun before x after split =>
      each (first :: before) x after (congrArg (first :: ·) split)⟩
  · rintro ⟨head, tail⟩ before x after split
    cases before with
    | nil =>
      rw [List.nil_append, List.cons.injEq] at split
      exact split.1 ▸ head
    | cons other before =>
      rw [List.cons_append, List.cons.injEq] at split
      obtain ⟨rfl, split⟩ := split
      exact tail before x after split

theorem once_run (once : j.settled.Sublist j.written) (es : List Event) :
    (j.run es).settled.Sublist (j.run es).written ∧
      ((j.run es).written = (j.run es).settled ↔ j.written = j.settled ∧
        ∀ before e after, es = before ++ e :: after → ¬ (j.run before).Tears e) := by
  -- the journal is general: what one event tears stays torn after the others
  induction es generalizing j with
  | nil => exact ⟨once, by simp [run]⟩
  | cons e es ih =>
    obtain ⟨first, same⟩ := once_step once e
    obtain ⟨whole, exactly⟩ := ih first
    refine ⟨whole, ?_⟩
    change ((j.step e).run es).written = ((j.step e).run es).settled ↔ _
    rw [exactly, same, and_assoc, forall_split_cons]
    rfl

def opened (directory : Path) (t : FileTree) : Journal := { log := { directory }, tree := t }

structure Kept (j : Journal) (es : List Event) : Prop where
  order : es.filterMap Event.record? = (j.run es).settled ++ (j.run es).log.buffered
  once : (j.run es).settled.Sublist (j.run es).written
  twice : (j.run es).written = (j.run es).settled ↔
    ∀ before e after, es = before ++ e :: after → ¬ (j.run before).Tears e
  sound : (∀ r ∈ es.filterMap Event.record?, r.HasBytes) → (j.run es).written = (j.run es).settled
  readable : ∃ lines, Text.cut '\n' (ErrorLog.written (j.run es).written) = lines ++ [""] ∧
    lines.map ErrorRecord.read? = (j.run es).written.map some
  flush : ∀ moment, ErrorLog.Effect (j.run es).log (j.run es).tree moment
    ((j.run es).log.flush (j.run es).tree moment)
    ((j.run es).log.putDown (j.run es).tree moment)
  fixed : ∀ p, (j.run es).log.file = some p → ∀ more, (j.run (es ++ more)).log.file = some p
  growth : ∀ more, (∀ e ∈ more, e.isOwn = true) →
    ∃ batch, Grew (j.run es) (j.run (es ++ more)) batch

theorem run_append (j : Journal) (es more : List Event) :
    j.run (es ++ more) = (j.run es).run more := List.foldl_append

theorem twice_opened (directory : Path) (t : FileTree) (es : List Event) :
    ((opened directory t).run es).written = ((opened directory t).run es).settled ↔
      ∀ before e after, es = before ++ e :: after →
        ¬ ((opened directory t).run before).Tears e := by
  have start : (opened directory t).settled.Sublist (opened directory t).written :=
    List.Sublist.refl []
  rw [(once_run start es).2]
  exact and_iff_right rfl

/-- A log loses nothing, whatever happens to it and around it, and what it has written is what it
    has settled, but for the lines of flushes that tear. -/
theorem log_kept (directory : Path) (t : FileTree) (es : List Event) :
    Kept (opened directory t) es where
  order := ((opened directory t).order_run es).symm
  once := (once_run (List.Sublist.refl []) es).1
  twice := twice_opened directory t es
  sound := by
    intro bytes
    rw [twice_opened]
    intro before e after split
    apply not_tears_of_bytes
    intro r buffered
    have came := (opened directory t).order_run before
    have member : r ∈ before.filterMap Event.record? := by
      change _ = [] ++ [] ++ _ at came
      rw [List.nil_append, List.nil_append] at came
      rw [← came]
      exact List.mem_append_right _ buffered
    apply bytes
    rw [split, List.filterMap_append]
    exact List.mem_append_left _ member
  readable := by
    refine ⟨_, ErrorLog.cut_written _, ?_⟩
    simp only [List.map_map, Function.comp_def, ErrorRecord.read?_jsonLine]
  flush moment := ErrorLog.effect_flush _ _ moment
  fixed p named more := by
    rw [run_append]
    exact fixed_run _ more named
  growth more own := by
    rw [run_append]
    exact grew_run _ own

/-! A file in the place of the directory keeps one flush from writing; the next one makes up for it.
    A record without bytes, the half of a pair, has the one before it written again and again. -/

example :
    let r : ErrorRecord := ⟨"T", "A", "S", "", "X", "\x01\n\"\\é"⟩
    let half : ErrorRecord := ⟨"T", String.singleton (Text.ofSurrogate 0xDCFF), "S", "", "X", ""⟩
    let blocked : FileTree := ⟨[(["home"], .directory), (["home", "logs"], .file (.text ""))], ["home"]⟩
    let free : FileTree := ⟨[(["home"], .directory)], ["home"]⟩
    let j := (opened ⟨"", ["logs"]⟩ blocked).run
      [.append r, .flush "S", .others free, .append r, .flush "S'"]
    let torn := (opened ⟨"", ["logs"]⟩ free).run
      [.append r, .append half, .flush "S", .flush "S'"]
    (j.log.buffered = [] ∧ j.settled = [r, r] ∧ j.written = [r, r] ∧
      j.tree.file? ["home", "logs", "errors-S'.log"] =
        some (.text (r.jsonLine ++ "\n" ++ r.jsonLine ++ "\n"))) ∧
    torn.log.buffered = [r, half] ∧ torn.settled = [] ∧ torn.written = [r, r] ∧
      torn.tree.file? ["home", "logs", "errors-S.log"] =
        some (.text (r.jsonLine ++ "\n" ++ r.jsonLine ++ "\n")) := by
  decide +kernel

end Journal
end Rulesheet
