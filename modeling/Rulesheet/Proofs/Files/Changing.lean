import Rulesheet.Proofs.Files.Walking

/- What operations change in a file tree. A node that is put changes its own place and no other; a
   directory is only made where nothing stands and only along the path that is asked for; a file is
   only written at its own place. An operation that stops half-way is no exception. -/
namespace Rulesheet.FileTree

variable {t t' : FileTree} {p : Path} {l : Location} {n : Node}

theorem find?_putEntry (es : List (Location × Node)) (l' : Location) :
    (putEntry l n es).find? (·.1 = l') =
      if l' = l then some (l, n) else es.find? (·.1 = l') := by
  induction es with
  | nil =>
    by_cases here : l' = l
    · simp [putEntry, here]
    · simp [putEntry, here, Ne.symm here]
  | cons e es ih =>
    unfold putEntry
    by_cases taken : e.1 = l
    · rw [if_pos taken]
      by_cases here : l' = l
      · simp [here]
      · have other : e.1 ≠ l' := fun same => here (same.symm.trans taken)
        simp [here, Ne.symm here, other]
    · rw [if_neg taken]
      by_cases first : e.1 = l'
      · have other : l' ≠ l := fun same => taken (first.trans same)
        simp [first, other]
      · simp [first, ih]

theorem node?_put (l' : Location) :
    (t.put l n).node? l' =
      if l' = [] then some .directory else if l' = l then some n else t.node? l' := by
  unfold node? put
  by_cases root : l' = []
  · rw [if_pos root, if_pos root]
  · rw [if_neg root, if_neg root, if_neg root, find?_putEntry]
    by_cases here : l' = l
    · simp [here]
    · simp [here]

theorem sameBut_put {c : Content} (filled : l ≠ []) (before : t.node? l ≠ some .directory) :
    t.SameBut (t.put l (.file c)) l where
  workingDirectory := rfl
  elsewhere := by
    intro l' other
    rw [node?_put, if_neg other]
    split
    · rename_i root
      rw [root, node?, if_pos rfl]
    · rfl
  before := before
  after := by
    rw [node?_put, if_neg filled, if_pos rfl]
    simp

/-- What may become of a place: nothing, a new directory where one may be made, or a file where one
    may be written. No directory turns into a file. -/
inductive Change (made written : Prop) : Option Node → Option Node → Prop where
  | kept {n : Option Node} : Change made written n n
  | directory (here : made) : Change made written none (some .directory)
  | file {n : Option Node} {c : Content} (here : written) (before : n ≠ some .directory) :
      Change made written n (some (.file c))

section Change

variable {made made' written written' : Prop} {a b c : Option Node}

theorem Change.trans (first : Change made written a b) (second : Change made written b c) :
    Change made written a c := by
  cases first with
  | kept => exact second
  | directory here =>
    cases second with
    | kept => exact .directory here
    | file _ before => exact absurd rfl before
  | file here before =>
    cases second with
    | kept => exact .file here before
    | file _ _ => exact .file here before

theorem Change.mono (change : Change made written a b) (makes : a = none → made → made')
    (writes : written → written') : Change made' written' a b := by
  cases change with
  | kept => exact .kept
  | directory here => exact .directory (makes rfl here)
  | file here before => exact .file (writes here) before

theorem Change.file_before {content : Content} (change : Change made written a b)
    (unwritten : ¬ written) (file : b = some (.file content)) : a = some (.file content) := by
  cases change with
  | kept => exact file
  | directory here => cases file
  | file here _ => exact absurd here unwritten

theorem Change.file_after {content : Content} (change : Change made written a b)
    (unwritten : ¬ written) (file : a = some (.file content)) : b = some (.file content) := by
  cases change with
  | kept => exact file
  | directory here => cases file
  | file here _ => exact absurd here unwritten

theorem Change.eq (change : Change made written a b) (unmade : ¬ made) (unwritten : ¬ written) :
    b = a := by
  cases change with
  | kept => rfl
  | directory here => exact absurd here unmade
  | file here _ => exact absurd here unwritten

end Change

/-- One tree comes from another by directories made at some places and files written at others. -/
structure Grows (t t' : FileTree) (makes writes : Location → Prop) : Prop where
  workingDirectory : t'.workingDirectory = t.workingDirectory
  change : ∀ l, Change (makes l) (writes l) (t.node? l) (t'.node? l)

section Grows

variable {t'' : FileTree} {makes makes' writes writes' : Location → Prop}

theorem Grows.refl (t : FileTree) (makes writes : Location → Prop) : t.Grows t makes writes :=
  ⟨rfl, fun _ => .kept⟩

theorem Grows.trans (first : t.Grows t' makes writes) (second : t'.Grows t'' makes writes) :
    t.Grows t'' makes writes :=
  ⟨second.workingDirectory.trans first.workingDirectory,
    fun l => (first.change l).trans (second.change l)⟩

theorem Grows.mono (grows : t.Grows t' makes writes)
    (makes_of : ∀ l, t.node? l = none → makes l → makes' l)
    (writes_of : ∀ l, writes l → writes' l) : t.Grows t' makes' writes' :=
  ⟨grows.workingDirectory, fun l => (grows.change l).mono (makes_of l) (writes_of l)⟩

theorem Grows.directory (grows : t.Grows t' makes writes) (before : t.node? l = some .directory) :
    t'.node? l = some .directory := by
  have change := grows.change l
  rw [before] at change
  cases same : t'.node? l with
  | none => rw [same] at change; cases change
  | some node =>
    rw [same] at change
    cases change with
    | kept => rfl
    | file _ file => exact absurd rfl file

theorem ne_root_of_node? (node : t.node? l ≠ some .directory) : l ≠ [] := by
  rintro rfl
  exact node (if_pos rfl)

theorem grows_put_directory (free : t.node? l = none) :
    t.Grows (t.put l .directory) (· = l) writes := by
  have below : l ≠ [] := ne_root_of_node? (t := t) (by simp [free])
  refine ⟨rfl, fun l' => ?_⟩
  by_cases here : l' = l
  · rw [here, free, node?_put, if_neg below, if_pos rfl]
    exact .directory rfl
  · have same : (t.put l .directory).node? l' = t.node? l' := by
      rw [node?_put, if_neg here]
      split
      · rename_i root
        rw [root, node?, if_pos rfl]
      · rfl
    rw [same]
    exact .kept

theorem grows_put_file {c : Content} (before : t.node? l ≠ some .directory) :
    t.Grows (t.put l (.file c)) makes (· = l) := by
  have below : l ≠ [] := ne_root_of_node? before
  have same : t.SameBut (t.put l (.file c)) l := sameBut_put below before
  refine ⟨rfl, fun l' => ?_⟩
  by_cases here : l' = l
  · rw [here, node?_put, if_neg below, if_pos rfl]
    exact .file rfl before
  · rw [same.elsewhere l' here]
    exact .kept

/-! Making directories. -/

theorem makeDirectory_eq_ok : t.makeDirectory p = .ok t' ↔
    ∃ l, t.walk p = .ok l ∧ t.node? l = none ∧ t.node? l.dropLast = some .directory ∧
      t' = t.put l .directory := by
  unfold makeDirectory
  cases walked : t.walk p with
  | error e => simp [bind, Except.bind]
  | ok l =>
    cases at_l : t.node? l with
    | some node => simp [bind, Except.bind, at_l]
    | none =>
      cases above : t.node? l.dropLast with
      | none => simp [bind, Except.bind, at_l, above]
      | some node =>
        cases node <;> simp [bind, Except.bind, at_l, above, eq_comm]

/-- The places on the way of a path as it is written, its own with them. -/
def OnTheWay (directory : Location) (p : Path) (l : Location) : Prop :=
  ∃ segments, segments <+: p.segments ∧ l = Location.resolve directory ⟨p.root, segments⟩

theorem grows_makeDirectory (made : t.makeDirectory p = .ok t') (writes : Location → Prop) :
    t.Grows t' (OnTheWay t.workingDirectory p) writes := by
  obtain ⟨l, walked, free, _, rfl⟩ := makeDirectory_eq_ok.mp made
  refine (grows_put_directory free).mono ?_ fun _ => id
  rintro l' _ rfl
  exact ⟨p.segments, List.prefix_rfl, walk_eq_resolve walked⟩

theorem forgive_tree (t : FileTree) (p : Path) (e : FileError) : (t.forgive p e).tree = t := by
  unfold forgive
  split <;> rfl

theorem grows_makeDirectoriesFrom (root : String) (before : List String) (t : FileTree)
    (writes : Location → Prop) :
    t.Grows (makeDirectoriesFrom root before t).tree
      (OnTheWay t.workingDirectory ⟨root, before.reverse⟩) writes := by
  -- the segments are taken from the end: what the path above makes is on the way as well
  induction before generalizing t with
  | nil =>
    unfold makeDirectoriesFrom
    split
    · rename_i made
      exact grows_makeDirectory made writes
    · rw [forgive_tree]
      exact .refl _ _ _
  | cons last before ih =>
    have above : t.Grows (makeDirectoriesFrom root before t).tree
        (OnTheWay t.workingDirectory ⟨root, (last :: before).reverse⟩) writes := by
      refine (ih t).mono ?_ fun _ => id
      rintro l _ ⟨segments, before, rfl⟩
      exact ⟨segments, before.trans (by simp), rfl⟩
    unfold makeDirectoriesFrom
    dsimp only
    split
    · rename_i made
      exact grows_makeDirectory made writes
    · split
      · exact above
      · rename_i made
        have last := grows_makeDirectory made writes
        rw [above.workingDirectory] at last
        exact above.trans last
      · exact above
      · rw [forgive_tree]
        exact above
    · rw [forgive_tree]
      exact .refl _ _ _

theorem grows_makeDirectories (t : FileTree) (p : Path) (writes : Location → Prop) :
    t.Grows (t.makeDirectories p).tree (OnTheWay t.workingDirectory p) writes := by
  have grows := grows_makeDirectoriesFrom p.root p.segments.reverse t writes
  rw [List.reverse_reverse] at grows
  exact grows

/-! Writing files. -/

theorem openForWriting_ok (opened : t.openForWriting p = .ok l) :
    l = Location.resolve t.workingDirectory p ∧ t.node? l ≠ some .directory := by
  unfold openForWriting at opened
  cases walked : t.walk p with
  | error e =>
    rw [walked] at opened
    cases opened
  | ok place =>
    rw [walked] at opened
    simp only [bind, Except.bind] at opened
    have resolved := walk_eq_resolve walked
    split at opened
    · cases opened
    · rename_i content at_place
      cases opened
      exact ⟨resolved, by simp [at_place]⟩
    · rename_i at_place
      split at opened
      · cases opened
        exact ⟨resolved, by simp [at_place]⟩
      · cases opened
      · cases opened

theorem grows_opened {c : Content} (opened : t.openForWriting p = .ok l) :
    t.Grows (t.put l (.file c)) makes (· = Location.resolve t.workingDirectory p) := by
  obtain ⟨rfl, before⟩ := openForWriting_ok opened
  exact grows_put_file before

inductive Wrote (t : FileTree) (p : Path) (s : String) : Attempt → Prop where
  | unopened {e : FileError} (failed : t.openForWriting p = .error e) : Wrote t p s ⟨t, some e⟩
  | emptied {l : Location} {e : EncodeError} (opened : t.openForWriting p = .ok l)
    (fault : Utf8.textFault? s = some e) :
    Wrote t p s ⟨t.put l (.file (.text "")), some (.unencodable e)⟩
  | whole {l : Location} (opened : t.openForWriting p = .ok l) (sound : Encodable s) :
    Wrote t p s ⟨t.put l (.file (.text s)), none⟩

theorem wrote (t : FileTree) (p : Path) (s : String) : Wrote t p s (t.writeText p s) := by
  unfold writeText
  split
  · rename_i failed
    exact .unopened failed
  · rename_i opened
    split
    · rename_i fault
      exact .emptied opened fault
    · rename_i sound
      exact .whole opened (textFault?_eq_none.mp sound)

theorem grows_writeText (t : FileTree) (p : Path) (s : String) (makes : Location → Prop) :
    t.Grows (t.writeText p s).tree makes (· = Location.resolve t.workingDirectory p) := by
  have wrote := wrote t p s
  revert wrote
  generalize t.writeText p s = attempt
  intro wrote
  cases wrote with
  | unopened failed => exact .refl _ _ _
  | emptied opened fault => exact grows_opened opened
  | whole opened sound => exact grows_opened opened

theorem grows_appendTexts (t : FileTree) (p : Path) (texts : List String)
    (makes : Location → Prop) :
    t.Grows (t.appendTexts p texts).tree makes (· = Location.resolve t.workingDirectory p) := by
  unfold appendTexts
  split
  · exact .refl _ _ _
  · rename_i opened
    exact grows_opened opened

end Grows
end Rulesheet.FileTree
