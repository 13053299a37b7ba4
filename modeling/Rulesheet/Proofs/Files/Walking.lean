import Rulesheet.Files.Decoding
import Rulesheet.Proofs.Text.Encoding

/- Where paths lead. A walk that succeeds ends where the segments lead at their word, so that only
   the directories on the way matter to it, and a file is read from its own place alone. -/
namespace Rulesheet

theorem toOption_congr {x : Except ε α} {y : Except ε' α}
    (same : ∀ a, x = .ok a ↔ y = .ok a) : x.toOption = y.toOption := by
  apply Option.ext
  intro a
  have iff := same a
  cases x <;> cases y <;> simp_all [Except.toOption]

namespace Location

theorem step_up (l : Location) : l.step ".." = l.dropLast := if_pos rfl

theorem step_into {segment : String} (down : segment ≠ "..") (l : Location) :
    l.step segment = l ++ [segment] := if_neg down

theorem resolve_append (l : Location) (p : Path) (segments : List String) :
    resolve l ⟨p.root, p.segments ++ segments⟩ = segments.foldl step (resolve l p) := by
  simp only [resolve, List.foldl_append]

theorem isBelow_iff {l root : Location} : l.isBelow root = true ↔ root <+: l ∧ l ≠ root := by
  simp [isBelow]

/-! A location is plain when no double point is a name in it. -/

theorem plain_step {l : Location} (plain : ".." ∉ l) (segment : String) :
    ".." ∉ l.step segment := by
  by_cases up : segment = ".."
  · rw [up, step_up]
    exact fun member => plain ((List.dropLast_subset l) member)
  · rw [step_into up, List.mem_append, List.mem_singleton, not_or]
    exact ⟨plain, Ne.symm up⟩

theorem plain_foldl {l : Location} (plain : ".." ∉ l) (segments : List String) :
    ".." ∉ segments.foldl step l := by
  induction segments generalizing l with
  | nil => exact plain
  | cons segment rest ih => exact ih (plain_step plain segment)

theorem plain_resolve {directory : Location} (plain : ".." ∉ directory) (p : Path) :
    ".." ∉ resolve directory p := by
  unfold resolve
  split
  · exact plain_foldl plain p.segments
  · exact plain_foldl List.not_mem_nil p.segments

theorem foldl_step_of_plain {segments : List String} (plain : ".." ∉ segments) (l : Location) :
    segments.foldl step l = l ++ segments := by
  induction segments generalizing l with
  | nil => simp
  | cons segment rest ih =>
    rw [List.mem_cons, not_or] at plain
    obtain ⟨first, later⟩ := plain
    rw [List.foldl_cons, step_into (Ne.symm first), ih later, List.append_assoc,
      List.singleton_append]

theorem resolve_rooted {l : Location} (plain : ".." ∉ l) (directory : Location) :
    resolve directory ⟨"/", l⟩ = l := by
  have rooted : ("/" : String) ≠ "" := by decide
  rw [resolve, if_neg rooted, foldl_step_of_plain plain, List.nil_append]

end Location

namespace FileTree

variable {t t' : FileTree} {p : Path} {start l : Location}

theorem walkFrom_cons_eq_ok {segment : String} {rest : List String} :
    t.walkFrom start (segment :: rest) = .ok l ↔
      t.node? start = some .directory ∧ (segment = ".." ∨ Utf8.nameSize segment ≤ maxName) ∧
        t.walkFrom (start.step segment) rest = .ok l := by
  rw [walkFrom]
  cases at_start : t.node? start with
  | none => simp
  | some node =>
    cases node with
    | file content => simp
    | directory =>
      by_cases up : segment = ".."
      · simp [up, Location.step_up]
      · by_cases long : maxName < Utf8.nameSize segment
        · simp [up, long, Nat.not_le_of_lt long]
        · simp [up, long, Location.step_into up, Nat.le_of_not_lt long]

theorem walkFrom_cons_tooLong {segment : String} {rest : List String} :
    t.walkFrom start (segment :: rest) = .error .nameTooLong ↔
      t.node? start = some .directory ∧ (segment = ".." ∨ Utf8.nameSize segment ≤ maxName →
        t.walkFrom (start.step segment) rest = .error .nameTooLong) := by
  rw [walkFrom]
  cases at_start : t.node? start with
  | none => simp
  | some node =>
    cases node with
    | file content => simp
    | directory =>
      by_cases up : segment = ".."
      · simp [up, Location.step_up]
      · by_cases long : maxName < Utf8.nameSize segment
        · simp [up, long, Nat.not_le_of_lt long]
        · simp [up, long, Location.step_into up, Nat.le_of_not_lt long]

theorem walkFrom_eq_foldl {segments : List String} (walked : t.walkFrom start segments = .ok l) :
    l = segments.foldl Location.step start := by
  induction segments generalizing start with
  | nil => exact (Except.ok.inj walked).symm
  | cons segment rest ih => exact ih (walkFrom_cons_eq_ok.mp walked).2.2

def Usable (p : Path) : Prop := Addressable p.text ∧ Utf8.nameSize p.text ≤ maxPath

theorem walk_of_ofName? {e : FileError} (bad : FileError.ofName? p.text = some e) :
    t.walk p = .error e := by
  rw [walk, bad]

theorem walk_of_addressable (named : Addressable p.text) :
    t.walk p = if maxPath < Utf8.nameSize p.text then .error (.fault .nameTooLong p)
      else (t.walkFrom (if p.root = "" then t.workingDirectory else []) p.segments).mapError
        (.fault · p) := by
  rw [walk, ofName?_eq_none.mpr named]
  dsimp only
  split
  · rfl
  · cases t.walkFrom (if p.root = "" then t.workingDirectory else []) p.segments <;> rfl

theorem walk_eq_ok : t.walk p = .ok l ↔ Usable p ∧
    t.walkFrom (if p.root = "" then t.workingDirectory else []) p.segments = .ok l := by
  cases bad : FileError.ofName? p.text with
  | some e =>
    have unnamed : ¬ Addressable p.text := by
      rw [← ofName?_eq_none, bad]
      simp
    simp [walk_of_ofName? bad, Usable, unnamed]
  | none =>
    have named := ofName?_eq_none.mp bad
    rw [walk_of_addressable named, Usable]
    by_cases long : maxPath < Utf8.nameSize p.text
    · simp [long, Nat.not_le_of_lt long]
    · rw [if_neg long]
      simp only [named, Nat.le_of_not_lt long, true_and]
      cases t.walkFrom (if p.root = "" then t.workingDirectory else []) p.segments <;>
        simp [Except.mapError]

theorem walk_eq_resolve (walked : t.walk p = .ok l) :
    l = Location.resolve t.workingDirectory p :=
  walkFrom_eq_foldl (walk_eq_ok.mp walked).2

theorem isFault_of_walk {e : FileError} (named : Addressable p.text)
    (failed : t.walk p = .error e) : e.isFault = true := by
  rw [walk_of_addressable named] at failed
  split at failed
  · rw [← Except.error.inj failed]
    rfl
  · cases walked : t.walkFrom (if p.root = "" then t.workingDirectory else []) p.segments with
    | ok l =>
      rw [walked] at failed
      cases failed
    | error cause =>
      rw [walked] at failed
      rw [← Except.error.inj failed]
      rfl

theorem lookup_eq_ok {n : Node} :
    t.lookup p = .ok n ↔ ∃ l, t.walk p = .ok l ∧ t.node? l = some n := by
  unfold lookup
  cases walked : t.walk p with
  | error e => simp [bind, Except.bind]
  | ok l =>
    cases at_l : t.node? l <;> simp [bind, Except.bind, at_l]

theorem test_eq_error {sort : Node → Bool} {e : FileError} :
    t.test sort p = .error e ↔ t.walk p = .error e ∧ ∃ q, e = .fault .nameTooLong q := by
  unfold test lookup
  cases walked : t.walk p with
  | ok l => cases at_l : t.node? l <;> simp [bind, Except.bind, at_l]
  | error cause =>
    simp only [bind, Except.bind, Except.error.injEq]
    constructor
    · intro failed
      split at failed
      · contradiction
      · rename_i q same
        rw [Except.error.inj same, ← Except.error.inj failed]
        exact ⟨rfl, q, rfl⟩
      · contradiction
    · rintro ⟨rfl, q, rfl⟩
      rfl

theorem readText_eq_ok {s : String} :
    t.readText p = .ok s ↔ ∃ c text, t.lookup p = .ok (.file c) ∧ c.decode = .ok text ∧
      String.ofList (Text.unifyNewlines text.toList) = s := by
  unfold readText read
  cases t.lookup p with
  | error e => simp
  | ok node =>
    cases node with
    | directory => simp
    | file c => cases decoded : c.decode <;> simp [decoded]

structure SameDirectories (t t' : FileTree) : Prop where
  workingDirectory : t'.workingDirectory = t.workingDirectory
  directories : ∀ l, t'.node? l = some .directory ↔ t.node? l = some .directory

theorem SameDirectories.walkFrom (same : t.SameDirectories t') {segments : List String} :
    t'.walkFrom start segments = .ok l ↔ t.walkFrom start segments = .ok l := by
  induction segments generalizing start with
  | nil => exact Iff.rfl
  | cons segment rest ih =>
    rw [walkFrom_cons_eq_ok, walkFrom_cons_eq_ok, same.directories, ih]

theorem SameDirectories.walk (same : t.SameDirectories t') :
    t'.walk p = .ok l ↔ t.walk p = .ok l := by
  rw [walk_eq_ok, walk_eq_ok, same.workingDirectory, same.walkFrom]

theorem SameDirectories.walkFrom_tooLong (same : t.SameDirectories t') {segments : List String} :
    t'.walkFrom start segments = .error .nameTooLong ↔
      t.walkFrom start segments = .error .nameTooLong := by
  induction segments generalizing start with
  | nil => exact iff_of_false nofun nofun
  | cons segment rest ih =>
    rw [walkFrom_cons_tooLong, walkFrom_cons_tooLong, same.directories, ih]

theorem SameDirectories.walk_tooLong (same : t.SameDirectories t') {q : Path} :
    t'.walk p = .error (.fault .nameTooLong q) ↔ t.walk p = .error (.fault .nameTooLong q) := by
  have from_ (t : FileTree) (start : Location) :
      (t.walkFrom start p.segments).mapError (FileError.fault · p) =
        .error (.fault .nameTooLong q) ↔
      t.walkFrom start p.segments = .error .nameTooLong ∧ p = q := by
    cases t.walkFrom start p.segments <;> simp [Except.mapError]
  cases bad : FileError.ofName? p.text with
  | some e => rw [walk_of_ofName? bad, walk_of_ofName? bad]
  | none =>
    have named := ofName?_eq_none.mp bad
    rw [walk_of_addressable named, walk_of_addressable named, same.workingDirectory]
    split
    · exact Iff.rfl
    · rw [from_, from_, same.walkFrom_tooLong]

theorem SameDirectories.test (same : t.SameDirectories t') {sort : Node → Bool} :
    (∃ b, t'.test sort p = .ok b) ↔ ∃ b, t.test sort p = .ok b := by
  have answered (t : FileTree) : (∃ b, t.test sort p = .ok b) ↔
      ∀ q, t.walk p ≠ .error (.fault .nameTooLong q) := by
    cases tested : t.test sort p with
    | ok b =>
      simp only [Except.ok.injEq, exists_eq', ne_eq, true_iff]
      intro q failed
      rw [test_eq_error.mpr ⟨failed, q, rfl⟩] at tested
      cases tested
    | error e =>
      obtain ⟨failed, q, rfl⟩ := test_eq_error.mp tested
      simp only [reduceCtorEq, exists_false, ne_eq, false_iff, not_forall, not_not]
      exact ⟨q, failed⟩
  rw [answered, answered]
  apply forall_congr'
  intro q
  exact not_congr same.walk_tooLong

/-- Trees that differ in the file at one place, which either may lack. -/
structure SameBut (t t' : FileTree) (place : Location) : Prop where
  workingDirectory : t'.workingDirectory = t.workingDirectory
  elsewhere : ∀ l, l ≠ place → t'.node? l = t.node? l
  before : t.node? place ≠ some .directory
  after : t'.node? place ≠ some .directory

theorem SameBut.sameDirectories {place : Location} (same : t.SameBut t' place) :
    t.SameDirectories t' where
  workingDirectory := same.workingDirectory
  directories := by
    intro l
    by_cases here : l = place
    · rw [here]
      exact iff_of_false same.after same.before
    · rw [same.elsewhere l here]

theorem SameBut.lookup {place : Location} (same : t.SameBut t' place)
    (apart : Location.resolve t.workingDirectory p ≠ place) {n : Node} :
    t'.lookup p = .ok n ↔ t.lookup p = .ok n := by
  rw [lookup_eq_ok, lookup_eq_ok]
  apply exists_congr
  intro l
  rw [same.sameDirectories.walk]
  apply and_congr_right
  intro walked
  rw [← walk_eq_resolve walked] at apart
  rw [same.elsewhere l apart]

theorem SameBut.readText {place : Location} (same : t.SameBut t' place)
    (apart : Location.resolve t.workingDirectory p ≠ place) {s : String} :
    t'.readText p = .ok s ↔ t.readText p = .ok s := by
  simp only [readText_eq_ok, same.lookup apart]

end FileTree
end Rulesheet
