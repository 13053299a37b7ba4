import Mathlib.Data.List.Infix
import Rulesheet.Proofs.Files.Changing
import Rulesheet.Proofs.Text.Pieces

/- When directories can be made. A directory comes to be, with the missing ones above it, exactly
   if a system call takes its path and no file stands on its way. Then the whole way consists of
   directories, and everything else is as it was. -/
namespace Rulesheet

namespace FileTree

variable {t t' : FileTree} {p : Path} {start l : Location}

/-- A name that a directory takes. Double points are no name. -/
def Short (name : String) : Prop := name = ".." ∨ Utf8.nameSize name ≤ maxName

instance (name : String) : Decidable (Short name) := inferInstanceAs (Decidable (_ ∨ _))

instance (p : Path) : Decidable (Usable p) := inferInstanceAs (Decidable (_ ∧ _))

theorem text_below {root name : String} {segments : List String}
    (filled : ¬ (root = "" ∧ segments = [])) :
    (Path.mk root (segments ++ [name])).text =
      (Path.mk root segments).text ++ (if segments = [] then "" else "/") ++ name := by
  by_cases bare : segments = []
  · have rooted : root ≠ "" := fun here => filled ⟨here, bare⟩
    simp [Path.text, bare, Text.join, rooted]
  · simp [Path.text, bare, Text.join_concat "/" bare, String.append_assoc]

theorem Usable.above {root name : String} {segments : List String}
    (usable : Usable ⟨root, segments ++ [name]⟩) : Usable ⟨root, segments⟩ := by
  by_cases here : root = "" ∧ segments = []
  · rw [here.1, here.2]
    decide
  · obtain ⟨named, size⟩ := usable
    rw [text_below here, String.append_assoc] at named size
    rw [Utf8.nameSize_append] at size
    exact ⟨(addressable_append.mp named).1, Nat.le_trans (Nat.le_add_right _ _) size⟩

theorem Usable.below {root name : String} {segments : List String}
    (usable : Usable ⟨root, segments⟩) (named : Addressable name)
    (size : Utf8.nameSize (Path.mk root (segments ++ [name])).text ≤ maxPath) :
    Usable ⟨root, segments ++ [name]⟩ := by
  refine ⟨?_, size⟩
  by_cases here : root = "" ∧ segments = []
  · simpa [here, Path.text, Text.join] using named
  · rw [text_below here, addressable_append, addressable_append]
    refine ⟨⟨usable.1, ?_⟩, named⟩
    split <;> decide

/-! Walks, one segment after another. -/

theorem walkFrom_append (segments rest : List String) :
    t.walkFrom start (segments ++ rest) =
      (t.walkFrom start segments).bind fun l => t.walkFrom l rest := by
  induction segments generalizing start with
  | nil => rfl
  | cons segment segments ih =>
    rw [List.cons_append, walkFrom, walkFrom]
    cases t.node? start with
    | none => rfl
    | some node =>
      cases node with
      | file content => rfl
      | directory =>
        dsimp only
        split
        · exact ih
        · split
          · rfl
          · exact ih

theorem walkFrom_step (at_start : t.node? start = some .directory) {segment : String}
    (short : Short segment) : t.walkFrom start [segment] = .ok (start.step segment) :=
  walkFrom_cons_eq_ok.mpr ⟨at_start, short, rfl⟩

theorem walkFrom_into_nothing (at_start : t.node? start = none) (segment : String) :
    t.walkFrom start [segment] = .error .noEntry := by
  rw [walkFrom, at_start]

def origin (t : FileTree) (p : Path) : Location := if p.root = "" then t.workingDirectory else []

/-- The working directory and everything above it is there. -/
def Grounded (t : FileTree) : Prop :=
  ∀ l, l <+: t.workingDirectory → t.node? l = some .directory

instance (t : FileTree) : Decidable t.Grounded :=
  decidable_of_iff (∀ l ∈ t.workingDirectory.inits, t.node? l = some .directory)
    (by simp only [List.mem_inits, Grounded])

theorem Grows.grounded {makes writes : Location → Prop} (grows : t.Grows t' makes writes)
    (grounded : t.Grounded) : t'.Grounded := by
  intro l above
  rw [grows.workingDirectory] at above
  exact grows.directory (grounded l above)

theorem Grounded.origin (grounded : t.Grounded) (p : Path) :
    ∀ l, l <+: t.origin p → t.node? l = some .directory := by
  unfold FileTree.origin
  split
  · exact grounded
  · intro l above
    rw [List.prefix_nil.mp above]
    exact if_pos rfl

theorem above_of_walkFrom (above : ∀ l, l <+: start → l ≠ start → t.node? l = some .directory)
    {segments : List String} (walked : t.walkFrom start segments = .ok l) :
    ∀ l', l' <+: l → l' ≠ l → t.node? l' = some .directory := by
  induction segments generalizing start with
  | nil =>
    rw [← Except.ok.inj walked]
    exact above
  | cons segment rest ih =>
    obtain ⟨at_start, _, walked⟩ := walkFrom_cons_eq_ok.mp walked
    refine ih ?_ walked
    intro l' before other
    by_cases up : segment = ".."
    · rw [up, Location.step_up] at before other
      have before' := before.trans (List.dropLast_prefix start)
      refine above l' before' ?_
      rintro rfl
      exact other (before.eq_of_length_le (List.dropLast_prefix _).length_le)
    · rw [Location.step_into up] at before other
      rcases List.prefix_concat_iff.mp before with same | before
      · exact absurd same other
      · by_cases here : l' = start
        · rw [here]
          exact at_start
        · exact above l' before here

theorem above_of_walk (grounded : t.Grounded) (walked : t.walk p = .ok l) :
    ∀ l', l' <+: l → l' ≠ l → t.node? l' = some .directory :=
  above_of_walkFrom (fun l' above _ => grounded.origin p l' above) (walk_eq_ok.mp walked).2

theorem Grows.walkFrom {makes writes : Location → Prop} (grows : t.Grows t' makes writes)
    {segments : List String} (walked : t.walkFrom start segments = .ok l) :
    t'.walkFrom start segments = .ok l := by
  induction segments generalizing start with
  | nil => exact walked
  | cons segment rest ih =>
    obtain ⟨at_start, short, walked⟩ := walkFrom_cons_eq_ok.mp walked
    exact walkFrom_cons_eq_ok.mpr ⟨grows.directory at_start, short, ih walked⟩

theorem Grows.walk {makes writes : Location → Prop} (grows : t.Grows t' makes writes)
    (walked : t.walk p = .ok l) : t'.walk p = .ok l := by
  obtain ⟨usable, walked⟩ := walk_eq_ok.mp walked
  refine walk_eq_ok.mpr ⟨usable, ?_⟩
  rw [grows.workingDirectory]
  exact grows.walkFrom walked

theorem isDirectory?_eq_true :
    t.isDirectory? p = .ok true ↔ ∃ l, t.walk p = .ok l ∧ t.node? l = some .directory := by
  rw [← lookup_eq_ok, isDirectory?, test]
  cases looked : t.lookup p with
  | ok node => cases node <;> simp [Node.isDirectory]
  | error e =>
    cases e with
    | nulInPath | unencodable e => simp
    | fault cause q => cases cause <;> simp

theorem short_of_walkFrom {segments : List String} (walked : t.walkFrom start segments = .ok l) :
    ∀ name ∈ segments, Short name := by
  induction segments generalizing start with
  | nil => exact fun _ member => absurd member List.not_mem_nil
  | cons segment rest ih =>
    obtain ⟨_, short, walked⟩ := walkFrom_cons_eq_ok.mp walked
    exact List.forall_mem_cons.mpr ⟨short, ih walked⟩

theorem way_of_isDirectory? (there : t.isDirectory? p = .ok true) :
    Usable p ∧ (∀ name ∈ p.segments, Short name) ∧
      ∀ l, OnTheWay t.workingDirectory p l → t.node? l = some .directory := by
  obtain ⟨place, walked, at_place⟩ := isDirectory?_eq_true.mp there
  obtain ⟨usable, walked⟩ := walk_eq_ok.mp walked
  refine ⟨usable, short_of_walkFrom walked, ?_⟩
  rintro l ⟨segments, ⟨rest, split⟩, rfl⟩
  rw [← split, walkFrom_append] at walked
  cases first : t.walkFrom (if p.root = "" then t.workingDirectory else []) segments with
  | error cause =>
    rw [first] at walked
    cases walked
  | ok l =>
    rw [first] at walked
    rw [Location.resolve, ← walkFrom_eq_foldl first]
    cases rest with
    | nil =>
      rw [Except.ok.inj walked]
      exact at_place
    | cons name rest => exact (walkFrom_cons_eq_ok.mp walked).1

/-! Making directories. -/

/-- A system call takes the path, and no file stands on its way. -/
structure Clear (t : FileTree) (p : Path) : Prop where
  usable : Usable p
  short : ∀ name ∈ p.segments, Short name
  free : ∀ l, OnTheWay t.workingDirectory p l → ∀ c, t.node? l ≠ some (.file c)

theorem onTheWay_above {root name : String} {segments : List String} {home : Location}
    (on : OnTheWay home ⟨root, segments⟩ l) : OnTheWay home ⟨root, segments ++ [name]⟩ l := by
  obtain ⟨taken, before, rfl⟩ := on
  exact ⟨taken, before.trans (List.prefix_append _ _), rfl⟩

theorem onTheWay_end (home : Location) (p : Path) :
    OnTheWay home p (Location.resolve home p) :=
  ⟨p.segments, List.prefix_rfl, rfl⟩

theorem Clear.above {root name : String} {segments : List String}
    (clear : t.Clear ⟨root, segments ++ [name]⟩) : t.Clear ⟨root, segments⟩ where
  usable := clear.usable.above
  short := fun name member => clear.short name (List.mem_append_left _ member)
  free := fun l on => clear.free l (onTheWay_above on)

theorem Clear.walk {root : String} {segments : List String} (clear : t.Clear ⟨root, segments⟩) :
    (∃ l, t.walk ⟨root, segments⟩ = .ok l) ∨
      t.walk ⟨root, segments⟩ = .error (.fault .noEntry ⟨root, segments⟩) := by
  have walks : ∀ taken, taken <+: segments →
      (∃ l, t.walkFrom (t.origin ⟨root, segments⟩) taken = .ok l) ∨
        t.walkFrom (t.origin ⟨root, segments⟩) taken = .error .noEntry := by
    intro taken
    induction taken using List.reverseRecOn with
    | nil => exact fun _ => .inl ⟨_, rfl⟩
    | append_singleton taken name ih =>
      intro before
      have shorter : taken <+: segments := (List.prefix_append _ _).trans before
      have short : Short name := clear.short name (before.subset (by simp))
      rw [walkFrom_append]
      rcases ih shorter with ⟨l, walked⟩ | missing
      · have place : l = Location.resolve t.workingDirectory ⟨root, taken⟩ :=
          walkFrom_eq_foldl walked
        have free := clear.free l ⟨taken, shorter, place⟩
        rw [walked]
        cases at_l : t.node? l with
        | none => exact .inr (walkFrom_into_nothing at_l name)
        | some node =>
          cases node with
          | file c => exact absurd at_l (free c)
          | directory => exact .inl ⟨_, walkFrom_step at_l short⟩
      · rw [missing]
        exact .inr rfl
  obtain ⟨named, size⟩ := clear.usable
  rw [walk_of_addressable named, if_neg (Nat.not_lt_of_le size)]
  rcases walks segments List.prefix_rfl with ⟨l, walked⟩ | missing
  · rw [origin] at walked
    rw [walked]
    exact .inl ⟨l, rfl⟩
  · rw [origin] at missing
    rw [missing]
    exact .inr rfl

def Settles (t : FileTree) (p : Path) : Prop :=
  (∃ t', t.makeDirectory p = .ok t') ∨
    (t.makeDirectory p = .error (.fault .alreadyThere p) ∧ t.isDirectory? p = .ok true)

theorem settles_of_walk (grounded : t.Grounded) (walked : t.walk p = .ok l)
    (free : ∀ c, t.node? l ≠ some (.file c)) : t.Settles p := by
  cases at_l : t.node? l with
  | none =>
    have below : l ≠ [] := ne_root_of_node? (t := t) (by simp [at_l])
    have apart : l.dropLast ≠ l := by
      intro same
      have length := congrArg List.length same
      have filled := List.length_pos_iff.mpr below
      rw [List.length_dropLast] at length
      omega
    have above := above_of_walk grounded walked l.dropLast (List.dropLast_prefix l) apart
    exact .inl ⟨_, makeDirectory_eq_ok.mpr ⟨l, walked, at_l, above, rfl⟩⟩
  | some node =>
    cases node with
    | file c => exact absurd at_l (free c)
    | directory =>
      refine .inr ⟨?_, isDirectory?_eq_true.mpr ⟨l, walked, at_l⟩⟩
      simp [makeDirectory, walked, bind, Except.bind, at_l]

theorem forgive_of_directory {cause : FileFault} {q : Path} (there : t.isDirectory? p = .ok true) :
    t.forgive p (.fault cause q) = ⟨t, none⟩ := by
  unfold forgive
  rw [there]

theorem forgive_done {e : FileError} (done : (t.forgive p e).error = none) :
    t.isDirectory? p = .ok true := by
  unfold forgive at done
  split at done
  · assumption
  · cases done

theorem isDirectory?_of_made (made : t.makeDirectory p = .ok t') :
    t'.isDirectory? p = .ok true := by
  have grows := grows_makeDirectory made fun _ => False
  obtain ⟨l, walked, free, _, rfl⟩ := makeDirectory_eq_ok.mp made
  have below : l ≠ [] := ne_root_of_node? (t := t) (by simp [free])
  refine isDirectory?_eq_true.mpr ⟨l, grows.walk walked, ?_⟩
  rw [node?_put, if_neg below, if_pos rfl]

def IsMissing (e : FileError) : Prop := ∃ q, e = .fault .noEntry q

/-- What becomes of a directory: it is made at once, or after those above it, or forgiven, or it
    fails. -/
inductive Making (t : FileTree) (p : Path) (above : Attempt) : Attempt → Prop where
  | made {t' : FileTree} (at_once : t.makeDirectory p = .ok t') : Making t p above ⟨t', none⟩
  | forgiven {e : FileError} (failed : t.makeDirectory p = .error e) (other : ¬ IsMissing e) :
    Making t p above (t.forgive p e)
  | stopped {e cause : FileError} (failed : t.makeDirectory p = .error e) (missing : IsMissing e)
    (stops : above.error = some cause) : Making t p above above
  | after {e : FileError} {t' : FileTree} (failed : t.makeDirectory p = .error e)
    (missing : IsMissing e) (done : above.error = none)
    (made : above.tree.makeDirectory p = .ok t') : Making t p above ⟨t', none⟩
  | failed {e e' : FileError} (failed : t.makeDirectory p = .error e) (missing : IsMissing e)
    (done : above.error = none) (again : above.tree.makeDirectory p = .error e')
    (still : IsMissing e') : Making t p above ⟨above.tree, some e'⟩
  | forgivenAfter {e e' : FileError} (failed : t.makeDirectory p = .error e)
    (missing : IsMissing e) (done : above.error = none)
    (again : above.tree.makeDirectory p = .error e') (other : ¬ IsMissing e') :
    Making t p above (above.tree.forgive p e')

theorem making_cons (root last : String) (before : List String) (t : FileTree) :
    Making t ⟨root, (last :: before).reverse⟩ (makeDirectoriesFrom root before t)
      (makeDirectoriesFrom root (last :: before) t) := by
  rw [makeDirectoriesFrom]
  dsimp only
  split
  · rename_i made
    exact .made made
  · rename_i missing
    split
    · rename_i stops
      exact .stopped missing ⟨_, rfl⟩ stops
    · rename_i done made
      exact .after missing ⟨_, rfl⟩ done made
    · rename_i done still
      exact .failed missing ⟨_, rfl⟩ done still ⟨_, rfl⟩
    · rename_i other done again
      exact .forgivenAfter missing ⟨_, rfl⟩ done again fun gone => Exists.elim gone other
  · rename_i other failed
    exact .forgiven failed fun gone => Exists.elim gone other

theorem Making.done {above attempt : Attempt} (making : Making t p above attempt)
    (done : above.error = none)
    (first : t.Settles p ∨ t.makeDirectory p = .error (.fault .noEntry p))
    (second : above.tree.Settles p) : attempt.error = none := by
  cases making with
  | made => rfl
  | after => rfl
  | stopped _ _ stops => cases stops.symm.trans done
  | forgiven failed other =>
    rcases first with (⟨_, made⟩ | ⟨already, there⟩) | missing
    · cases made.symm.trans failed
    · cases already.symm.trans failed
      exact congrArg Attempt.error (forgive_of_directory there)
    · cases missing.symm.trans failed
      exact absurd ⟨_, rfl⟩ other
  | failed _ _ _ again still =>
    rcases second with ⟨_, made⟩ | ⟨already, _⟩
    · cases made.symm.trans again
    · cases already.symm.trans again
      obtain ⟨_, same⟩ := still
      cases same
  | forgivenAfter _ _ _ again _ =>
    rcases second with ⟨_, made⟩ | ⟨already, there⟩
    · cases made.symm.trans again
    · cases already.symm.trans again
      exact congrArg Attempt.error (forgive_of_directory there)

theorem isDirectory?_of_done {root : String} {before : List String}
    (done : (makeDirectoriesFrom root before t).error = none) :
    (makeDirectoriesFrom root before t).tree.isDirectory? ⟨root, before.reverse⟩ = .ok true := by
  have forgiven : ∀ t : FileTree, ∀ p e, (t.forgive p e).error = none →
      (t.forgive p e).tree.isDirectory? p = .ok true := by
    intro t p e done
    rw [forgive_tree]
    exact forgive_done done
  cases before with
  | nil =>
    unfold makeDirectoriesFrom at done ⊢
    cases made : t.makeDirectory ⟨root, []⟩ with
    | ok t' => exact isDirectory?_of_made made
    | error e =>
      rw [made] at done
      exact forgiven t _ e done
  | cons last before =>
    have making := making_cons root last before t
    revert done making
    generalize makeDirectoriesFrom root (last :: before) t = attempt
    intro done making
    cases making with
    | made made => exact isDirectory?_of_made made
    | forgiven => exact forgiven _ _ _ done
    | stopped _ _ stops => cases stops.symm.trans done
    | after _ _ _ made => exact isDirectory?_of_made made
    | failed => cases done
    | forgivenAfter => exact forgiven _ _ _ done

theorem Grows.not_file {makes : Location → Prop} (grows : t.Grows t' makes fun _ => False)
    (free : ∀ c, t.node? l ≠ some (.file c)) (c : Content) : t'.node? l ≠ some (.file c) :=
  fun file => free c ((grows.change l).file_before id file)

theorem walk_below {root last : String} {segments : List String}
    (there : t.isDirectory? ⟨root, segments⟩ = .ok true)
    (usable : Usable ⟨root, segments ++ [last]⟩) (short : Short last) :
    t.walk ⟨root, segments ++ [last]⟩ =
      .ok (Location.resolve t.workingDirectory ⟨root, segments ++ [last]⟩) := by
  obtain ⟨l, walked, at_l⟩ := isDirectory?_eq_true.mp there
  have place := walk_eq_resolve walked
  have first := (walk_eq_ok.mp walked).2
  refine walk_eq_ok.mpr ⟨usable, ?_⟩
  have steps := Location.resolve_append t.workingDirectory ⟨root, segments⟩ [last]
  change Location.resolve t.workingDirectory ⟨root, segments ++ [last]⟩ = _ at steps
  rw [steps, ← place, walkFrom_append]
  change (t.walkFrom (if root = "" then t.workingDirectory else []) segments).bind _ = _
  rw [first]
  exact walkFrom_step at_l short

theorem done_of_clear (grounded : t.Grounded) {root : String} {before : List String}
    (clear : t.Clear ⟨root, before.reverse⟩) :
    (makeDirectoriesFrom root before t).error = none := by
  -- on the segments from the last one up: the directory above is made first
  induction before with
  | nil =>
    unfold makeDirectoriesFrom
    have walked : t.walk ⟨root, []⟩ = .ok (t.origin ⟨root, []⟩) :=
      walk_eq_ok.mpr ⟨clear.usable, rfl⟩
    have free := clear.free _ (onTheWay_end _ _)
    rcases settles_of_walk grounded walked free with ⟨_, made⟩ | ⟨failed, there⟩
    · rw [made]
    · rw [failed]
      exact congrArg Attempt.error (forgive_of_directory there)
  | cons last before ih =>
    have shape : (last :: before).reverse = before.reverse ++ [last] := List.reverse_cons
    have making := making_cons root last before t
    rw [shape] at clear making
    have done := ih clear.above
    have free := clear.free _ (onTheWay_end _ _)
    have first : t.Settles ⟨root, before.reverse ++ [last]⟩ ∨
        t.makeDirectory ⟨root, before.reverse ++ [last]⟩ =
          .error (.fault .noEntry ⟨root, before.reverse ++ [last]⟩) := by
      rcases clear.walk with ⟨l, walked⟩ | missing
      · rw [← walk_eq_resolve walked] at free
        exact .inl (settles_of_walk grounded walked free)
      · right
        rw [makeDirectory, missing]
        rfl
    have grows := grows_makeDirectoriesFrom root before t fun _ => False
    have short : Short last := clear.short last (List.mem_append_right _ List.mem_cons_self)
    have walked := walk_below (isDirectory?_of_done done) clear.usable short
    rw [grows.workingDirectory] at walked
    have second := settles_of_walk (grows.grounded grounded) walked (grows.not_file free)
    exact making.done done first second

theorem isDirectory?_makeDirectories (done : (t.makeDirectories p).error = none) :
    (t.makeDirectories p).tree.isDirectory? p = .ok true := by
  have there := isDirectory?_of_done done
  rw [List.reverse_reverse] at there
  exact there

theorem node?_makeDirectories_of_on (done : (t.makeDirectories p).error = none)
    (on : OnTheWay t.workingDirectory p l) :
    (t.makeDirectories p).tree.node? l = some .directory := by
  obtain ⟨_, _, way⟩ := way_of_isDirectory? (isDirectory?_makeDirectories done)
  have grows := t.grows_makeDirectories p fun _ => False
  rw [← grows.workingDirectory] at on
  exact way l on

theorem node?_makeDirectories_of_off (off : ¬ OnTheWay t.workingDirectory p l) :
    (t.makeDirectories p).tree.node? l = t.node? l :=
  ((t.grows_makeDirectories p fun _ => False).change l).eq off id

/-- A directory comes to be exactly if its way is clear. -/
theorem makeDirectories_done_iff (grounded : t.Grounded) (p : Path) :
    (t.makeDirectories p).error = none ↔ t.Clear p := by
  constructor
  · intro done
    obtain ⟨usable, short, _⟩ := way_of_isDirectory? (isDirectory?_makeDirectories done)
    refine ⟨usable, short, ?_⟩
    intro l on c file
    have grows := t.grows_makeDirectories p fun _ => False
    have directory := node?_makeDirectories_of_on done on
    have kept := (grows.change l).file_after id file
    cases directory.symm.trans kept
  · intro clear
    refine done_of_clear grounded ?_
    rw [List.reverse_reverse]
    exact clear

end FileTree
end Rulesheet
