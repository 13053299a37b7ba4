import Mathlib.Tactic.Ring
import Rulesheet.Proofs.Files.Making

/- Paths that the system does not take, for a NUL or for the half of a pair that stands for no byte.
   It takes a path exactly if it takes the names in it. Operations on a path that it takes fail
   for its own reasons alone, but for a text that a file does not hold. -/
namespace Rulesheet

namespace Path

theorem addressable_text {p : Path} :
    Addressable p.text ↔ Addressable p.root ∧ ∀ name ∈ p.segments, Addressable name := by
  unfold text
  split
  · rename_i bare
    rw [bare.1, bare.2]
    exact iff_of_true (by decide) ⟨by decide, fun _ none => absurd none List.not_mem_nil⟩
  · rw [addressable_append, addressable_join (by decide)]

theorem addressable_ofString {s : String} :
    (∀ name ∈ (ofString s).segments, Addressable name) ↔ Addressable s := by
  have slash : Utf8.fitsName '/' = true := by decide
  rw [← addressable_cut slash]
  constructor
  · intro names piece listed
    by_cases kept : piece ≠ "" ∧ piece ≠ "."
    · exact names piece (List.mem_filter.mpr ⟨listed, by simpa using kept⟩)
    · rw [not_and_or, not_not, not_not] at kept
      rcases kept with rfl | rfl <;> decide
  · intro pieces name member
    exact pieces name (List.mem_filter.mp member).1

theorem mem_segments_append {p q : Path} {name : String}
    (member : name ∈ (p ++ q).segments) : name ∈ p.segments ∨ name ∈ q.segments := by
  change name ∈ (append p q).segments at member
  unfold append at member
  split at member
  · exact List.mem_append.mp member
  · exact .inr member

theorem mem_segments_append_right {p q : Path} {name : String} (member : name ∈ q.segments) :
    name ∈ (p ++ q).segments := by
  change name ∈ (append p q).segments
  unfold append
  split
  · exact List.mem_append_right _ member
  · exact member

theorem addressable_climb {root : String} {spelled : List String}
    (sound : ∀ name ∈ spelled, Addressable name) :
    ∀ name ∈ climb root spelled, Addressable name := by
  unfold climb
  split
  · rw [List.forall_mem_append]
    refine ⟨sound, ?_⟩
    intro name up
    rw [List.mem_singleton.mp up]
    decide
  · exact fun name member => sound name (List.dropLast_subset spelled member)

theorem unresolvableFrom?_eq_none {root : String} {spelled segments : List String}
    (rooted : Addressable root) (sound : ∀ name ∈ spelled, Addressable name) :
    unresolvableFrom? root spelled segments = none ↔ ∀ name ∈ segments, Addressable name := by
  -- on the names to come; those spelled already have been taken
  induction segments generalizing spelled with
  | nil => simp [unresolvableFrom?]
  | cons name rest ih =>
    rw [unresolvableFrom?, List.forall_mem_cons]
    by_cases up : name = ".."
    · have dots : Addressable name := up ▸ by decide
      rw [if_pos up, ih (addressable_climb sound)]
      exact (and_iff_right dots).symm
    · have taken : FileError.ofName? (text ⟨root, spelled ++ [name]⟩) = none ↔
          Addressable name := by
        rw [ofName?_eq_none, addressable_text, List.forall_mem_append, List.forall_mem_singleton]
        exact ⟨fun all => all.2.2, fun here => ⟨rooted, sound, here⟩⟩
      rw [if_neg up]
      cases bad : FileError.ofName? (text ⟨root, spelled ++ [name]⟩) with
      | some e =>
        have stopped : ¬ Addressable name := by simp [← taken, bad]
        simp [stopped]
      | none =>
        have here := taken.mp bad
        dsimp only
        rw [ih (List.forall_mem_append.mpr ⟨sound, List.forall_mem_singleton.mpr here⟩)]
        exact (and_iff_right here).symm

theorem unresolvable?_eq_none {p : Path} :
    p.unresolvable? = none ↔ ∀ name ∈ p.segments, Addressable name := by
  apply unresolvableFrom?_eq_none
  · split <;> decide
  · exact fun _ none => absurd none List.not_mem_nil

theorem unresolvable?_below {directory : Path} (given : Addressable directory.text) {name : String} :
    (directory ++ ofString name).unresolvable? = none ↔ Addressable name := by
  rw [unresolvable?_eq_none, ← addressable_ofString]
  constructor
  · exact fun all segment member => all segment (mem_segments_append_right member)
  · intro named segment member
    rcases mem_segments_append member with before | inside
    · exact (addressable_text.mp given).2 segment before
    · exact named segment inside

end Path

namespace Location

theorem mem_foldl_step {segments : List String} {l : Location} {name : String}
    (member : name ∈ segments.foldl step l) : name ∈ l ∨ name ∈ segments := by
  induction segments generalizing l with
  | nil => exact .inl member
  | cons segment rest ih =>
    rcases ih member with before | later
    · unfold step at before
      split at before
      · exact .inl (List.dropLast_subset l before)
      · rcases List.mem_append.mp before with above | here
        · exact .inl above
        · exact .inr (List.mem_singleton.mp here ▸ List.mem_cons_self)
    · exact .inr (List.mem_cons_of_mem segment later)

theorem mem_resolve {home : Location} {p : Path} {name : String}
    (member : name ∈ resolve home p) : name ∈ home ∨ name ∈ p.segments := by
  unfold resolve at member
  split at member
  · exact mem_foldl_step member
  · exact (mem_foldl_step member).imp_left fun nowhere => absurd nowhere List.not_mem_nil

end Location

namespace FileTree

variable {t : FileTree} {p : Path} {e : FileError}

theorem isFault_of_makeDirectory (named : Addressable p.text)
    (failed : t.makeDirectory p = .error e) : e.isFault = true := by
  unfold makeDirectory at failed
  cases walked : t.walk p with
  | error cause =>
    rw [walked] at failed
    rw [← Except.error.inj failed]
    exact isFault_of_walk named walked
  | ok l =>
    rw [walked] at failed
    simp only [bind, Except.bind] at failed
    split at failed
    · rw [← Except.error.inj failed]
      rfl
    · split at failed
      · cases failed
      · rw [← Except.error.inj failed]
        rfl
      · rw [← Except.error.inj failed]
        rfl

theorem error_of_forgive {cause : FileError} (failed : (t.forgive p cause).error = some e) :
    e = cause := by
  unfold forgive at failed
  split at failed
  · cases failed
  · exact (Option.some.inj failed).symm

theorem isFault_of_makeDirectoriesFrom {root : String} {before : List String}
    (named : Addressable (Path.mk root before.reverse).text)
    (failed : (makeDirectoriesFrom root before t).error = some e) : e.isFault = true := by
  induction before with
  | nil =>
    unfold makeDirectoriesFrom at failed
    split at failed
    · cases failed
    · rename_i stopped
      rw [← error_of_forgive failed] at stopped
      exact isFault_of_makeDirectory named stopped
  | cons last before ih =>
    have making := making_cons root last before t
    have above : Addressable (Path.mk root before.reverse).text := by
      rw [Path.addressable_text, List.reverse_cons, List.forall_mem_append] at named
      exact Path.addressable_text.mpr ⟨named.1, named.2.1⟩
    revert failed making
    generalize makeDirectoriesFrom root (last :: before) t = attempt
    intro failed making
    cases making with
    | made => cases failed
    | after => cases failed
    | stopped => exact ih above failed
    | forgiven stopped =>
      rw [← error_of_forgive failed] at stopped
      exact isFault_of_makeDirectory named stopped
    | failed _ _ _ again =>
      rw [Option.some.inj failed] at again
      exact isFault_of_makeDirectory named again
    | forgivenAfter _ _ _ again =>
      rw [← error_of_forgive failed] at again
      exact isFault_of_makeDirectory named again

theorem isFault_of_makeDirectories (named : Addressable p.text)
    (failed : (t.makeDirectories p).error = some e) : e.isFault = true := by
  apply isFault_of_makeDirectoriesFrom ?_ failed
  rw [List.reverse_reverse]
  exact named

theorem makeDirectories_of_ofName? (bad : FileError.ofName? p.text = some e) :
    t.makeDirectories p = ⟨t, some e⟩ := by
  have other := isFault_of_ofName? bad
  have failed : t.makeDirectory p = .error e := by
    rw [makeDirectory, walk_of_ofName? bad]
    rfl
  have kept : t.forgive p e = ⟨t, some e⟩ := by
    unfold forgive
    split
    · cases other
    · rfl
  unfold makeDirectories
  obtain ⟨root, segments⟩ := p
  cases before : segments.reverse with
  | nil =>
    rw [List.reverse_eq_nil_iff.mp before] at failed kept
    rw [makeDirectoriesFrom, failed]
    exact kept
  | cons last above =>
    have spelled : (last :: above).reverse = segments := by
      rw [← before, List.reverse_reverse]
    rw [makeDirectoriesFrom]
    dsimp only
    rw [spelled, failed]
    split
    · rename_i made
      cases made
    · rename_i missing
      rw [Except.error.inj missing] at other
      cases other
    · rename_i stopped
      rw [← Except.error.inj stopped]
      exact kept

theorem ofName?_of_makeDirectories (failed : (t.makeDirectories p).error = some e)
    (other : e.isFault = false) : FileError.ofName? p.text = some e := by
  cases bad : FileError.ofName? p.text with
  | none =>
    have fault := isFault_of_makeDirectories (ofName?_eq_none.mp bad) failed
    cases other.symm.trans fault
  | some e' =>
    rw [makeDirectories_of_ofName? bad] at failed
    exact failed

theorem isFault_of_openForWriting (named : Addressable p.text)
    (failed : t.openForWriting p = .error e) : e.isFault = true := by
  unfold openForWriting at failed
  cases walked : t.walk p with
  | error cause =>
    rw [walked] at failed
    rw [← Except.error.inj failed]
    exact isFault_of_walk named walked
  | ok l =>
    rw [walked] at failed
    simp only [bind, Except.bind] at failed
    split at failed
    · rw [← Except.error.inj failed]
      rfl
    · cases failed
    · split at failed
      · cases failed
      · rw [← Except.error.inj failed]
        rfl
      · rw [← Except.error.inj failed]
        rfl

theorem openForWriting_of_ofName? (bad : FileError.ofName? p.text = some e) :
    t.openForWriting p = .error e := by
  rw [openForWriting, walk_of_ofName? bad]
  rfl

theorem addressable_of_isFault (failed : t.openForWriting p = .error e)
    (fault : e.isFault = true) : Addressable p.text := by
  by_contra unnamed
  obtain ⟨x, bad⟩ := Option.ne_none_iff_exists'.mp (mt ofName?_eq_none.mp unnamed)
  cases failed.symm.trans (openForWriting_of_ofName? bad)
  cases fault.symm.trans (isFault_of_ofName? bad)

end FileTree

/-! A path that goes into a directory, and out and in again any number of times, names the
    directory as long as the system takes it. -/

namespace Path

def detour (name : String) : Nat → List String
  | 0 => [name]
  | n + 1 => detour name n ++ ["..", name]

variable {name : String}

theorem detour_ne_nil (n : Nat) : detour name n ≠ [] := by
  cases n <;> simp [detour]

theorem addressable_detour (named : Addressable name) (n : Nat) :
    Addressable (Path.mk "" (detour name n)).text := by
  have relative : Addressable "" := by decide
  refine addressable_text.mpr ⟨relative, ?_⟩
  induction n with
  | zero => exact List.forall_mem_singleton.mpr named
  | succ n ih =>
    have back : Addressable ".." := by decide
    simpa only [detour, List.forall_mem_append, List.forall_mem_cons, back, true_and] using
      ⟨ih, named, fun _ none => absurd none List.not_mem_nil⟩

theorem nameSize_detour (n : Nat) : Utf8.nameSize (Path.mk "" (detour name n)).text =
    Utf8.nameSize name + n * (Utf8.nameSize name + 4) := by
  induction n with
  | zero => simp [detour, text, Text.join]
  | succ n ih =>
    have filled : detour name n ≠ [] := detour_ne_nil n
    have shape : detour name (n + 1) = (detour name n ++ [".."]) ++ [name] := by simp [detour]
    have slash : Utf8.nameSize "/" = 1 := by decide
    have dots : Utf8.nameSize ".." = 2 := by decide
    rw [shape, FileTree.text_below (by simp), if_neg (by simp), FileTree.text_below (by simp [filled]),
      if_neg filled]
    simp only [Utf8.nameSize_append, ih, slash, dots]
    ring

end Path

namespace FileTree

variable {t : FileTree} {name : String}

theorem walkFrom_detour {home : Location} (down : name ≠ "..") (short : Short name)
    (at_home : t.node? home = some .directory)
    (inside : t.node? (home ++ [name]) = some .directory) (n : Nat) :
    t.walkFrom home (Path.detour name n) = .ok (home ++ [name]) := by
  have enter : t.walkFrom home [name] = .ok (home ++ [name]) := by
    rw [walkFrom_step at_home short, Location.step_into down]
  induction n with
  | zero => exact enter
  | succ n ih =>
    have back : t.walkFrom (home ++ [name]) ["..", name] = .ok (home ++ [name]) := by
      refine walkFrom_cons_eq_ok.mpr ⟨inside, .inl rfl, ?_⟩
      rw [Location.step_up, List.dropLast_concat]
      exact enter
    rw [Path.detour, walkFrom_append, ih]
    exact back

theorem walk_detour (named : Addressable name) (down : name ≠ "..") (short : Short name)
    (at_home : t.node? t.workingDirectory = some .directory)
    (inside : t.node? (t.workingDirectory ++ [name]) = some .directory) {n : Nat}
    (size : Utf8.nameSize name + n * (Utf8.nameSize name + 4) ≤ maxPath) :
    t.walk ⟨"", Path.detour name n⟩ = .ok (t.workingDirectory ++ [name]) := by
  have usable : Usable ⟨"", Path.detour name n⟩ :=
    ⟨Path.addressable_detour named n, (Path.nameSize_detour n).trans_le size⟩
  exact walk_eq_ok.mpr ⟨usable, walkFrom_detour down short at_home inside n⟩

end FileTree
end Rulesheet
