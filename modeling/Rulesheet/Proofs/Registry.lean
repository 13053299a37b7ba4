import Mathlib.Data.List.Sort
import Rulesheet.Proofs.Files.Making
import Rulesheet.Proofs.Files.Naming
import Rulesheet.Proofs.Text.Pieces
import Rulesheet.Registry

/- What a store lists and where its documents stand. A name is listed for the file that bears it
   with the suffix, each name once and in ascending order, and it is loaded from that file, so
   that a change of one document is not seen through another name. The listing asks about
   everything in the store: without an answer for one entry it has no name at all. -/
namespace Rulesheet

namespace FileTree

def Named (t : FileTree) : Prop :=
  ∀ l, (t.node? l).isSome → ∀ name ∈ l, Path.IsFileName name

variable {t : FileTree} {p : Path} {l : Location} {entry : String}

theorem node?_isSome (filled : l ≠ []) :
    (t.node? l).isSome ↔ ∃ e ∈ t.entries, e.1 = l := by
  rw [node?, if_neg filled, Option.isSome_map, List.find?_isSome]
  simp only [decide_eq_true_eq]

theorem named_of_entries (valid : ∀ e ∈ t.entries, ∀ name ∈ e.1, Path.IsFileName name) :
    t.Named := by
  intro l present
  by_cases root : l = []
  · simp [root]
  · obtain ⟨e, member, rfl⟩ := (node?_isSome root).mp present
    exact valid e member

theorem entry_of_location {place : Location} :
    (if place ≠ [] ∧ place.dropLast = l then place.getLast? else none) = some entry ↔
      place = l ++ [entry] := by
  constructor
  · intro last
    split at last
    · rename_i inside
      rw [← inside.2]
      exact (List.dropLast_append_getLast? entry last).symm
    · contradiction
  · rintro rfl
    simp

theorem list_eq_ok {names : List String} (listed : t.list p = .ok names) :
    ∃ l, t.walk p = .ok l ∧ t.node? l = some .directory ∧
      ∀ entry, entry ∈ names ↔ (t.node? (l ++ [entry])).isSome := by
  unfold list at listed
  cases walked : t.walk p with
  | error e => simp [walked, bind, Except.bind] at listed
  | ok l =>
    simp only [walked, bind, Except.bind] at listed
    split at listed
    · contradiction
    · contradiction
    · rename_i directory
      refine ⟨l, rfl, directory, ?_⟩
      intro entry
      rw [← Except.ok.inj listed, List.mem_filterMap, node?_isSome (by simp)]
      simp only [entry_of_location]

theorem isFault_of_list {e : FileError} (named : Addressable p.text)
    (failed : t.list p = .error e) : e.isFault = true := by
  unfold list at failed
  cases walked : t.walk p with
  | error cause =>
    rw [walked] at failed
    rw [← Except.error.inj failed]
    exact isFault_of_walk named walked
  | ok l =>
    simp only [walked, bind, Except.bind] at failed
    split at failed
    · rw [← Except.error.inj failed]
      rfl
    · rw [← Except.error.inj failed]
      rfl
    · cases failed

theorem isFile?_eq_true : t.isFile? p = .ok true ↔ ∃ c, t.lookup p = .ok (.file c) := by
  rw [isFile?, test]
  cases looked : t.lookup p with
  | ok node => cases node <;> simp [Node.isFile]
  | error e =>
    cases e with
    | nulInPath | unencodable e => simp
    | fault cause q => cases cause <;> simp

theorem filesAmong_eq_ok {names files : List String} :
    t.filesAmong p names = .ok files ↔
      (∀ name ∈ names, ∃ here, t.isFile? (p ++ (⟨"", [name]⟩ : Path)) = .ok here) ∧
        files = names.filter fun name => t.isFile? (p ++ (⟨"", [name]⟩ : Path)) = .ok true := by
  induction names generalizing files with
  | nil => simp [filesAmong, eq_comm]
  | cons name names ih =>
    rw [filesAmong, List.forall_mem_cons, List.filter_cons]
    cases first : t.isFile? (p ++ (⟨"", [name]⟩ : Path)) with
    | error e => simp [bind, Except.bind]
    | ok here =>
      cases rest : t.filesAmong p names with
      | error e =>
        have stuck : ¬ ∀ name ∈ names,
            ∃ here, t.isFile? (p ++ (⟨"", [name]⟩ : Path)) = .ok here := by
          intro each
          have whole := ih.mpr ⟨each, rfl⟩
          rw [rest] at whole
          cases whole
        simp only [bind, Except.bind, reduceCtorEq, stuck, and_false, false_and]
      | ok others =>
        obtain ⟨each, same⟩ := ih.mp rest
        simp only [bind, Except.bind, ← same, Except.ok.injEq, exists_eq', true_and, decide_eq_true_eq]
        rw [and_iff_right each, eq_comm]

theorem isFault_of_filesAmong {names : List String} {e : FileError}
    (failed : t.filesAmong p names = .error e) : e.isFault = true := by
  induction names with
  | nil => cases failed
  | cons name names ih =>
    unfold filesAmong at failed
    cases first : t.isFile? (p ++ (⟨"", [name]⟩ : Path)) with
    | error cause =>
      rw [first] at failed
      obtain ⟨_, q, rfl⟩ := test_eq_error.mp first
      rw [← Except.error.inj failed]
      rfl
    | ok here =>
      cases rest : t.filesAmong p names with
      | error cause =>
        rw [first, rest] at failed
        obtain rfl : cause = e := Except.error.inj failed
        exact ih rest
      | ok files =>
        rw [first, rest] at failed
        cases failed

end FileTree

namespace Registry

theorem mem_insertName {m n : String} {ns : List String} :
    m ∈ insertName n ns ↔ m = n ∨ m ∈ ns := by
  induction ns with
  | nil => simp [insertName]
  | cons first rest ih =>
    unfold insertName
    split
    · simp
    split
    · rename_i _ same
      simp [same]
    · rw [List.mem_cons, ih, List.mem_cons, or_left_comm]

theorem insertName_ascending {n : String} {ns : List String} (sorted : ns.Pairwise (· < ·)) :
    (insertName n ns).Pairwise (· < ·) := by
  induction ns with
  | nil => exact List.pairwise_singleton _ _
  | cons first rest ih =>
    obtain ⟨least, later⟩ := List.pairwise_cons.mp sorted
    unfold insertName
    split
    · rename_i before
      apply List.pairwise_cons.mpr
      refine ⟨?_, sorted⟩
      intro m member
      rcases List.mem_cons.mp member with rfl | inside
      · exact before
      · exact String.lt_trans before (least m inside)
    split
    · exact sorted
    · rename_i notBefore other
      apply List.pairwise_cons.mpr
      refine ⟨?_, ih later⟩
      intro m member
      rcases mem_insertName.mp member with rfl | inside
      · by_contra notAfter
        exact other (String.le_antisymm (String.not_lt.mp notAfter) (String.not_lt.mp notBefore))
      · exact least m inside

theorem mem_ascending {m : String} {ns : List String} : m ∈ ascending ns ↔ m ∈ ns := by
  induction ns with
  | nil => exact Iff.rfl
  | cons first rest ih =>
    change m ∈ insertName first (ascending rest) ↔ _
    rw [mem_insertName, ih, List.mem_cons]

theorem ascending_pairwise (ns : List String) : (ascending ns).Pairwise (· < ·) := by
  induction ns with
  | nil => exact List.Pairwise.nil
  | cons first rest ih => exact insertName_ascending ih

variable {r : Registry} {t t' : FileTree} {m n : String}

theorem names_ascending (r : Registry) (t : FileTree) : (r.names t).Pairwise (· < ·) := by
  unfold names listing
  cases t.list r.directory with
  | error e => exact List.Pairwise.nil
  | ok entries =>
    cases among : t.filesAmong r.directory entries with
    | error e => simp only [bind, Except.bind, among, List.Pairwise.nil]
    | ok files =>
      simp only [bind, Except.bind, among]
      exact ascending_pairwise _

theorem nameOf?_eq_some {entry : String} :
    r.nameOf? entry = some m ↔
      Path.splitName entry = (m, r.suffix) ∧ r.isReserved m = false := by
  unfold nameOf?
  obtain ⟨stem, suffix⟩ := Path.splitName entry
  simp only [Bool.and_eq_true, beq_iff_eq, Bool.not_eq_eq_eq_not, Bool.not_true,
    Option.ite_none_right_eq_some, Option.some.injEq, Prod.mk.injEq]
  constructor
  · rintro ⟨⟨same, free⟩, rfl⟩
    exact ⟨⟨rfl, same⟩, free⟩
  · rintro ⟨⟨rfl, same⟩, free⟩
    exact ⟨⟨same, free⟩, rfl⟩

def store (r : Registry) (t : FileTree) : Location :=
  Location.resolve t.workingDirectory r.directory

def entryPath (r : Registry) (entry : String) : Path := r.directory ++ ⟨"", [entry]⟩

/-- The system says of everything in the store whether it is a file. -/
def Answers (r : Registry) (t : FileTree) : Prop :=
  ∀ entry, (t.node? (r.store t ++ [entry])).isSome →
    ∃ here, t.isFile? (r.entryPath entry) = .ok here

theorem mem_names : m ∈ r.names t ↔ t.isDirectory? r.directory = .ok true ∧ r.Answers t ∧
    ∃ entry c, r.nameOf? entry = some m ∧ t.lookup (r.entryPath entry) = .ok (.file c) ∧
      (t.node? (r.store t ++ [entry])).isSome := by
  unfold names listing
  cases listed : t.list r.directory with
  | error e =>
    have absent : t.isDirectory? r.directory ≠ .ok true := by
      intro there
      obtain ⟨l, walked, directory⟩ := FileTree.isDirectory?_eq_true.mp there
      simp [FileTree.list, walked, directory, bind, Except.bind] at listed
    simp [bind, Except.bind, absent]
  | ok entries =>
    obtain ⟨l, walked, directory, inside⟩ := FileTree.list_eq_ok listed
    have there := FileTree.isDirectory?_eq_true.mpr ⟨l, walked, directory⟩
    obtain rfl : l = r.store t := FileTree.walk_eq_resolve walked
    have answers : r.Answers t ↔
        ∀ entry ∈ entries, ∃ here, t.isFile? (r.entryPath entry) = .ok here := by
      simp only [Answers, inside]
    simp only [bind, Except.bind, there, true_and]
    cases among : t.filesAmong r.directory entries with
    | error e =>
      have stuck : ¬ r.Answers t := by
        rw [answers]
        intro each
        have whole := FileTree.filesAmong_eq_ok.mpr ⟨each, rfl⟩
        rw [among] at whole
        cases whole
      simp [stuck]
    | ok files =>
      obtain ⟨each, rfl⟩ := FileTree.filesAmong_eq_ok.mp among
      simp only [mem_ascending, List.mem_filterMap, List.mem_filter, decide_eq_true_eq,
        FileTree.isFile?_eq_true, inside, answers.mpr each, true_and, entryPath, exists_and_left]
      constructor
      · rintro ⟨entry, ⟨present, found⟩, name⟩
        exact ⟨entry, name, found.imp fun c file => ⟨file, present⟩⟩
      · rintro ⟨entry, name, c, file, present⟩
        exact ⟨entry, ⟨present, c, file⟩, name⟩

theorem names_of_silent (silent : ¬ r.Answers t) : r.names t = [] :=
  List.eq_nil_iff_forall_not_mem.mpr fun _ listed => silent (mem_names.mp listed).2.1

theorem isFault_of_listing {e : FileError} (given : Addressable r.directory.text)
    (failed : r.listing t = .error e) : e.isFault = true := by
  unfold listing at failed
  cases listed : t.list r.directory with
  | error cause =>
    rw [listed] at failed
    rw [← Except.error.inj failed]
    exact FileTree.isFault_of_list given listed
  | ok entries =>
    simp only [listed, bind, Except.bind] at failed
    cases among : t.filesAmong r.directory entries with
    | error cause =>
      rw [among] at failed
      rw [← Except.error.inj failed]
      exact FileTree.isFault_of_filesAmong among
    | ok files =>
      rw [among] at failed
      cases failed

theorem names?_eq (r : Registry) (t : FileTree) :
    r.names? t = match FileError.ofName? r.directory.text with
      | some e => .error e
      | none => .ok (r.names t) := by
  cases bad : FileError.ofName? r.directory.text with
  | some e =>
    have failed : r.listing t = .error e := by
      rw [listing, FileTree.list, FileTree.walk_of_ofName? bad]
      rfl
    simp [names?, failed, isFault_of_ofName? bad]
  | none =>
    unfold names? names
    cases listed : r.listing t with
    | ok names => rfl
    | error e => simp [isFault_of_listing (ofName?_eq_none.mp bad) listed]

def place (r : Registry) (t : FileTree) (name : String) : Location :=
  r.store t ++ [name ++ r.suffix]

theorem resolve_entry (r : Registry) (t : FileTree) (entry : String) :
    Location.resolve t.workingDirectory (r.entryPath entry) = (r.store t).step entry :=
  Location.resolve_append _ r.directory [entry]

theorem step_ne_place {entry : String} (other : entry ≠ n ++ r.suffix) :
    (r.store t).step entry ≠ r.place t n := by
  intro same
  by_cases up : entry = ".."
  · rw [up, Location.step_up] at same
    have length := congrArg List.length same
    simp only [place, List.length_dropLast, List.length_append, List.length_singleton] at length
    omega
  · rw [Location.step_into up, place] at same
    simp [other] at same

theorem store_of_sameDirectories (same : t.SameDirectories t') : r.store t' = r.store t := by
  rw [store, store, same.workingDirectory]

theorem answers_of_sameBut (same : t.SameBut t' (r.place t n)) (answers : r.Answers t) :
    r.Answers t' ↔ ((t'.node? (r.place t n)).isSome →
      ∃ here, t'.isFile? (r.entryPath (n ++ r.suffix)) = .ok here) := by
  have directories := same.sameDirectories
  unfold Answers
  rw [store_of_sameDirectories directories]
  constructor
  · exact fun all => all (n ++ r.suffix)
  · intro changed entry present
    by_cases here : entry = n ++ r.suffix
    · subst here
      exact changed present
    · -- every other entry is tested as before, the directories being the same
      have apart : r.store t ++ [entry] ≠ r.place t n := by
        simpa [place] using here
      rw [same.elsewhere _ apart] at present
      exact directories.test.mpr (answers entry present)

theorem mem_names_of_sameBut (same : t.SameBut t' (r.place t n))
    (answers : r.Answers t' ↔ r.Answers t) (other : m ≠ n) : m ∈ r.names t' ↔ m ∈ r.names t := by
  have there : t'.isDirectory? r.directory = .ok true ↔ t.isDirectory? r.directory = .ok true := by
    simp only [FileTree.isDirectory?_eq_true, same.sameDirectories.walk,
      same.sameDirectories.directories]
  rw [mem_names, mem_names, there, answers, store_of_sameDirectories same.sameDirectories]
  apply and_congr_right
  intro _
  apply and_congr_right
  intro _
  apply exists_congr
  intro entry
  apply exists_congr
  intro c
  apply and_congr_right
  intro name
  have foreign : entry ≠ n ++ r.suffix := by
    rw [← Path.splitName_append (nameOf?_eq_some.mp name).1]
    simpa using other
  have apart : r.store t ++ [entry] ≠ r.place t n := by
    simpa [place] using foreign
  have away : Location.resolve t.workingDirectory (r.entryPath entry) ≠ r.place t n := by
    rw [resolve_entry]
    exact step_ne_place foreign
  rw [same.lookup away, same.elsewhere _ apart]

theorem names_of_sameBut (same : t.SameBut t' (r.place t n))
    (answers : r.Answers t' ↔ r.Answers t) :
    (r.names t').filter (· ≠ n) = (r.names t).filter (· ≠ n) := by
  apply List.Pairwise.eq_of_mem_iff
    ((names_ascending r t').filter _) ((names_ascending r t).filter _)
  intro m
  simp only [List.mem_filter, decide_eq_true_eq]
  exact and_congr_left (mem_names_of_sameBut same answers)

theorem path_of_mem_names (named : t.Named) (listed : m ∈ r.names t) :
    r.path m = r.entryPath (m ++ r.suffix) := by
  obtain ⟨_, _, entry, _, name, _, present⟩ := mem_names.mp listed
  have whole := Path.splitName_append (nameOf?_eq_some.mp name).1
  have valid := named _ present entry (by simp)
  rw [path, whole, Path.ofString_fileName valid, entryPath]

theorem load_eq_ok {d : Definition} :
    r.load t m = .ok d ↔ ∃ source, t.readText (r.path m) = .ok source ∧
      .parse source (r.path m).stem = d := by
  unfold load readDefinition
  cases t.readText (r.path m) <;> simp [Except.map]

theorem load?_of_sameBut (named : t.Named) (same : t.SameBut t' (r.place t n))
    (listed : m ∈ r.names t) (other : m ≠ n) : r.load? t' m = r.load? t m := by
  have apart : Location.resolve t.workingDirectory (r.path m) ≠ r.place t n := by
    rw [path_of_mem_names named listed, resolve_entry]
    exact step_ne_place (by simpa using other)
  apply toOption_congr
  intro d
  simp only [load_eq_ok, same.readText apart]

end Registry
end Rulesheet
