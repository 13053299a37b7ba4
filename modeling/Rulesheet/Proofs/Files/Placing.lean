import Rulesheet.Proofs.Files.Making

/- When files can be placed. A file comes to stand at a place, below directories that are made for
   it, exactly if a system call takes the place, no file stands above it and no directory at it.
   Several files can be placed, in whatever order, exactly if each one can alone and none stands
   above another one. -/
namespace Rulesheet.FileTree

variable {t t' : FileTree} {l m : Location} {s : String}

theorem prefix_dropLast_iff (filled : l ≠ []) :
    m <+: l.dropLast ↔ l.isBelow m = true := by
  rw [Location.isBelow_iff]
  have split := List.dropLast_concat_getLast filled
  constructor
  · intro before
    refine ⟨before.trans (List.dropLast_prefix l), ?_⟩
    rintro rfl
    have length := before.length_le
    have positive := List.length_pos_iff.mpr filled
    rw [List.length_dropLast] at length
    omega
  · rintro ⟨before, other⟩
    rw [← split] at before
    rcases List.prefix_concat_iff.mp before with same | shorter
    · rw [split] at same
      exact absurd same.symm other
    · exact shorter

theorem onTheWay_parent_iff (home : Location) (plain : ".." ∉ l) (filled : l ≠ []) :
    OnTheWay home ⟨"/", l.dropLast⟩ m ↔ l.isBelow m = true := by
  rw [← prefix_dropLast_iff filled]
  constructor
  · rintro ⟨segments, before, rfl⟩
    have inside : segments <+: l.dropLast := before
    have apart : ".." ∉ segments := fun member =>
      plain ((List.dropLast_prefix l).subset (inside.subset member))
    rw [Location.resolve_rooted apart]
    exact inside
  · intro before
    have apart : ".." ∉ m := fun member =>
      plain ((List.dropLast_prefix l).subset (before.subset member))
    exact ⟨m, before, (Location.resolve_rooted apart home).symm⟩

/-! Writing at a place. -/

theorem openForWriting_eq_ok {p : Path} : t.openForWriting p = .ok l ↔
    t.walk p = .ok l ∧ t.node? l ≠ some .directory ∧
      (t.node? l = none → t.node? l.dropLast = some .directory) := by
  unfold openForWriting
  cases walked : t.walk p with
  | error e => simp [bind, Except.bind]
  | ok place =>
    simp only [bind, Except.bind, Except.ok.injEq]
    constructor
    · intro opened
      split at opened
      · cases opened
      · cases opened
        simp [*]
      · split at opened
        · cases opened
          simp [*]
        · cases opened
        · cases opened
    · rintro ⟨rfl, before, above⟩
      cases at_place : t.node? place with
      | some node => cases node <;> simp_all
      | none => simp [above at_place]

theorem writeText_of_opened {p : Path} (opened : t.openForWriting p = .ok l)
    (sound : Encodable s) : t.writeText p s = ⟨t.put l (.file (.text s)), none⟩ := by
  rw [writeText, opened]
  simp only [textFault?_eq_none.mpr sound]

structure Placeable (t : FileTree) (l : Location) : Prop where
  usable : Usable ⟨"/", l⟩
  short : ∀ name ∈ l, Short name
  free : ∀ above, l.isBelow above = true → ∀ c, t.node? above ≠ some (.file c)
  place : t.node? l ≠ some .directory

structure Placed (t t' : FileTree) (l : Location) (s : String) : Prop where
  workingDirectory : t'.workingDirectory = t.workingDirectory
  file : t'.node? l = some (.file (.text s))
  above : ∀ above, l.isBelow above = true → t'.node? above = some .directory
  elsewhere : ∀ other, other ≠ l → l.isBelow other = false → t'.node? other = t.node? other

theorem Placeable.clear (placeable : t.Placeable l) (plain : ".." ∉ l) (filled : l ≠ []) :
    t.Clear ⟨"/", l.dropLast⟩ := by
  have split := List.dropLast_concat_getLast filled
  refine ⟨?_, ?_, ?_⟩
  · have usable := placeable.usable
    rw [← split] at usable
    exact usable.above
  · exact fun name member => placeable.short name (List.dropLast_subset l member)
  · intro above on
    exact placeable.free above ((onTheWay_parent_iff _ plain filled).mp on)

theorem not_isBelow_self (l : Location) : l.isBelow l = false := by
  rw [← Bool.not_eq_true, Location.isBelow_iff]
  exact fun below => below.2 rfl

theorem node?_parents (plain : ".." ∉ l) (filled : l ≠ []) (apart : l.isBelow m = false) :
    (t.makeDirectories ⟨"/", l.dropLast⟩).tree.node? m = t.node? m := by
  apply node?_makeDirectories_of_off
  rw [onTheWay_parent_iff _ plain filled, apart]
  exact Bool.false_ne_true

theorem placed_of_put {made : FileTree} (plain : ".." ∉ l) (filled : l ≠ [])
    (done : (t.makeDirectories ⟨"/", l.dropLast⟩).error = none)
    (same : made = (t.makeDirectories ⟨"/", l.dropLast⟩).tree) :
    t.Placed (made.put l (.file (.text s))) l s := by
  subst same
  refine ⟨(t.grows_makeDirectories _ fun _ => False).workingDirectory, ?_, ?_, ?_⟩
  · rw [node?_put, if_neg filled, if_pos rfl]
  · intro above below
    have there := node?_makeDirectories_of_on done
      ((onTheWay_parent_iff t.workingDirectory plain filled).mpr below)
    have other := (Location.isBelow_iff.mp below).2
    rw [node?_put, there]
    by_cases root : above = []
    · rw [if_pos root]
    · rw [if_neg root, if_neg (Ne.symm other)]
  · intro other apart outside
    rw [node?_put, if_neg apart, node?_parents plain filled outside]
    by_cases root : other = []
    · rw [if_pos root, root, node?, if_pos rfl]
    · rw [if_neg root]

theorem Placeable.placed (placeable : t.Placeable l) (grounded : t.Grounded) (plain : ".." ∉ l)
    (filled : l ≠ []) (sound : Encodable s) :
    (t.makeDirectories ⟨"/", l.dropLast⟩).error = none ∧
      ∃ t', (t.makeDirectories ⟨"/", l.dropLast⟩).tree.writeText ⟨"/", l⟩ s = ⟨t', none⟩ ∧
        t.Placed t' l s := by
  have done := (makeDirectories_done_iff grounded _).mpr (placeable.clear plain filled)
  have split := List.dropLast_concat_getLast filled
  have there := isDirectory?_makeDirectories done
  have walked := walk_below there (split.symm ▸ placeable.usable)
    (placeable.short _ (List.getLast_mem filled))
  rw [split, Location.resolve_rooted plain] at walked
  have same := node?_parents (t := t) plain filled (not_isBelow_self l)
  have above : (t.makeDirectories ⟨"/", l.dropLast⟩).tree.node? l.dropLast = some .directory := by
    obtain ⟨place, walked, at_place⟩ := isDirectory?_eq_true.mp there
    have apart : ".." ∉ l.dropLast := fun member => plain (List.dropLast_subset l member)
    rw [walk_eq_resolve walked, Location.resolve_rooted apart] at at_place
    exact at_place
  have opened := openForWriting_eq_ok.mpr ⟨walked, same ▸ placeable.place, fun _ => above⟩
  exact ⟨done, _, writeText_of_opened opened sound, placed_of_put plain filled done rfl⟩

theorem placeable_of_written (grounded : t.Grounded) (plain : ".." ∉ l) (filled : l ≠ [])
    (done : (t.makeDirectories ⟨"/", l.dropLast⟩).error = none)
    (written : ((t.makeDirectories ⟨"/", l.dropLast⟩).tree.writeText ⟨"/", l⟩ s).error = none) :
    Encodable s ∧ t.Placeable l ∧
      t.Placed ((t.makeDirectories ⟨"/", l.dropLast⟩).tree.writeText ⟨"/", l⟩ s).tree l s := by
  have wrote := wrote (t.makeDirectories ⟨"/", l.dropLast⟩).tree ⟨"/", l⟩ s
  revert written wrote
  generalize (t.makeDirectories ⟨"/", l.dropLast⟩).tree.writeText ⟨"/", l⟩ s = attempt
  intro written wrote
  cases wrote with
  | unopened => cases written
  | emptied => cases written
  | @whole place opened sound =>
    obtain ⟨walked, before, _⟩ := openForWriting_eq_ok.mp opened
    have here : place = l := by
      rw [walk_eq_resolve walked, Location.resolve_rooted plain]
    subst here
    have clear := (makeDirectories_done_iff grounded _).mp done
    obtain ⟨usable, walked⟩ := walk_eq_ok.mp walked
    refine ⟨sound, ⟨usable, short_of_walkFrom walked, ?_, ?_⟩,
      placed_of_put plain filled done rfl⟩
    · intro above below
      exact clear.free above ((onTheWay_parent_iff _ plain filled).mpr below)
    · rw [node?_parents plain filled (not_isBelow_self place)] at before
      exact before

/-! Several files. -/

/-- Each file can be placed alone, and none stands above another one. -/
structure Fits (t : FileTree) (places : List Location) : Prop where
  placeable : ∀ l ∈ places, t.Placeable l
  apart : ∀ l ∈ places, ∀ above ∈ places, l.isBelow above = false

theorem Fits.nil (t : FileTree) : t.Fits [] :=
  ⟨fun _ member => absurd member List.not_mem_nil, fun _ member => absurd member List.not_mem_nil⟩

/-- A file that has been placed is in the way of what would stand below it, and the directories
    above it in the way of what would stand there. -/
theorem Placed.placeable_iff (placed : t.Placed t' l s) (placeable : t.Placeable l) :
    t'.Placeable m ↔ t.Placeable m ∧ l.isBelow m = false ∧ m.isBelow l = false := by
  constructor
  · intro other
    have above : l.isBelow m = false := by
      rw [← Bool.not_eq_true]
      exact fun below => other.place (placed.above m below)
    have below : m.isBelow l = false := by
      rw [← Bool.not_eq_true]
      exact fun below => other.free l below _ placed.file
    refine ⟨⟨other.usable, other.short, ?_, ?_⟩, above, below⟩
    · intro place inside c file
      by_cases shared : l.isBelow place = true
      · exact placeable.free place shared c file
      · have apart : place ≠ l := by
          rintro rfl
          exact absurd inside (by simp [below])
        rw [← placed.elsewhere place apart (by simpa using shared)] at file
        exact other.free place inside c file
    · by_cases same : m = l
      · rw [same]
        exact placeable.place
      · rw [← placed.elsewhere m same above]
        exact other.place
  · rintro ⟨other, above, below⟩
    refine ⟨other.usable, other.short, ?_, ?_⟩
    · intro place inside c file
      by_cases shared : l.isBelow place = true
      · cases (placed.above place shared).symm.trans file
      · have apart : place ≠ l := by
          rintro rfl
          exact absurd inside (by simp [below])
        rw [placed.elsewhere place apart (by simpa using shared)] at file
        exact other.free place inside c file
    · by_cases same : m = l
      · rw [same, placed.file]
        exact fun directory => by cases directory
      · rw [placed.elsewhere m same above]
        exact other.place

theorem Placed.fits_iff (placed : t.Placed t' l s) (placeable : t.Placeable l)
    (places : List Location) : t.Fits (l :: places) ↔ t'.Fits places := by
  constructor
  · rintro ⟨each, apart⟩
    refine ⟨?_, ?_⟩
    · intro m member
      have later := List.mem_cons_of_mem l member
      exact (placed.placeable_iff placeable).mpr
        ⟨each m later, apart l List.mem_cons_self m later, apart m later l List.mem_cons_self⟩
    · intro m member above other
      exact apart m (List.mem_cons_of_mem l member) above (List.mem_cons_of_mem l other)
  · rintro ⟨each, apart⟩
    have around := fun m member => (placed.placeable_iff placeable).mp (each m member)
    refine ⟨?_, ?_⟩
    · exact List.forall_mem_cons.mpr ⟨placeable, fun m member => (around m member).1⟩
    · refine List.forall_mem_cons.mpr ⟨?_, ?_⟩
      · exact List.forall_mem_cons.mpr
          ⟨not_isBelow_self l, fun m member => (around m member).2.1⟩
      · intro m member
        exact List.forall_mem_cons.mpr ⟨(around m member).2.2, apart m member⟩

theorem placeable_made_iff {p : Path} (grounded : t.Grounded)
    (done : (t.makeDirectories p).error = none) :
    (t.makeDirectories p).tree.Placeable l ↔
      t.Placeable l ∧ ¬ OnTheWay t.workingDirectory p l := by
  have clear := (makeDirectories_done_iff grounded p).mp done
  have free : ∀ place c, (t.makeDirectories p).tree.node? place = some (.file c) ↔
      t.node? place = some (.file c) := by
    intro place c
    by_cases on : OnTheWay t.workingDirectory p place
    · rw [node?_makeDirectories_of_on done on]
      exact ⟨fun file => (by cases file), fun file => absurd file (clear.free place on c)⟩
    · rw [node?_makeDirectories_of_off on]
  constructor
  · intro placeable
    have off : ¬ OnTheWay t.workingDirectory p l :=
      fun on => placeable.place (node?_makeDirectories_of_on done on)
    refine ⟨⟨placeable.usable, placeable.short, ?_, ?_⟩, off⟩
    · exact fun above below c file => placeable.free above below c ((free above c).mpr file)
    · rw [← node?_makeDirectories_of_off off]
      exact placeable.place
  · rintro ⟨placeable, off⟩
    refine ⟨placeable.usable, placeable.short, ?_, ?_⟩
    · exact fun above below c file => placeable.free above below c ((free above c).mp file)
    · rw [node?_makeDirectories_of_off off]
      exact placeable.place

theorem fits_made_iff {p : Path} (grounded : t.Grounded)
    (done : (t.makeDirectories p).error = none) (places : List Location) :
    (t.makeDirectories p).tree.Fits places ↔
      t.Fits places ∧ ∀ l ∈ places, ¬ OnTheWay t.workingDirectory p l := by
  constructor
  · rintro ⟨each, apart⟩
    have before := fun l member => (placeable_made_iff grounded done).mp (each l member)
    exact ⟨⟨fun l member => (before l member).1, apart⟩, fun l member => (before l member).2⟩
  · rintro ⟨⟨each, apart⟩, off⟩
    exact ⟨fun l member => (placeable_made_iff grounded done).mpr ⟨each l member, off l member⟩,
      apart⟩

end Rulesheet.FileTree
