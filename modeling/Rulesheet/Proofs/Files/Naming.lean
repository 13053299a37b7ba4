import Rulesheet.Files.Path
import Rulesheet.Proofs.Text.Pieces

/- File names and their parts. A name is its stem and its suffix, which begins at the last point
   with characters on both sides; a name without such a point has no suffix. -/
namespace Rulesheet.Path

def IsFileName (name : String) : Prop :=
  name ≠ "" ∧ name ≠ "." ∧ name ≠ ".." ∧ '/' ∉ name.toList

instance (name : String) : Decidable (IsFileName name) :=
  inferInstanceAs (Decidable (_ ∧ _))

theorem ofString_fileName {name : String} (valid : IsFileName name) :
    ofString name = ⟨"", [name]⟩ := by
  obtain ⟨filled, here, _, single⟩ := valid
  have root : rootOf name.toList = "" := by
    cases chars : name.toList with
    | nil => rfl
    | cons c rest =>
      have other : c ≠ '/' := by
        rintro rfl
        simp [chars] at single
      simp [rootOf, other]
  simp [ofString, root, Text.cut, Text.cutChars_of_absent single, filled, here]

theorem split_last_point {cs tail : List Char}
    (last : tail = (cs.reverse.takeWhile (· ≠ '.')).reverse) (inside : tail.length + 1 ≤ cs.length) :
    cs.take (cs.length - tail.length - 1) ++ '.' :: tail = cs := by
  have split : cs.reverse.takeWhile (· ≠ '.') ++ cs.reverse.dropWhile (· ≠ '.') = cs.reverse :=
    List.takeWhile_append_dropWhile
  cases rest : cs.reverse.dropWhile (· ≠ '.') with
  | nil =>
    rw [rest, List.append_nil] at split
    have length := congrArg List.length split
    rw [List.length_reverse, ← List.length_reverse, ← last] at length
    omega
  | cons c more =>
    have point : c = '.' := by
      have first := List.head?_dropWhile_not (· ≠ '.') cs.reverse
      rw [rest] at first
      simpa using first
    rw [rest, point] at split
    have whole := congrArg List.reverse split
    rw [List.reverse_append, ← last, List.reverse_reverse, List.reverse_cons] at whole
    have count : cs.length - tail.length - 1 = more.reverse.length := by
      rw [← whole]
      simp only [List.length_append, List.length_reverse, List.length_singleton]
      omega
    rw [count]
    conv => lhs; rw [← whole]
    simp [← whole]

theorem last_point (front : List Char) {tail : List Char} (absent : '.' ∉ tail) :
    ((front ++ '.' :: tail).reverse.takeWhile (· ≠ '.')).reverse = tail := by
  rw [List.reverse_append, List.reverse_cons, List.append_assoc, List.takeWhile_append_of_pos]
  · simp
  · intro c member
    have other : c ≠ '.' := by
      rintro rfl
      exact absent (List.mem_reverse.mp member)
    simpa using other

theorem splitName_append {name stem suffix : String} (split : splitName name = (stem, suffix)) :
    stem ++ suffix = name := by
  unfold splitName at split
  simp only at split
  split at split
  · cases split
    exact String.append_empty
  · rename_i parts
    cases split
    simp only [Bool.or_eq_true, List.isEmpty_iff, not_or] at parts
    have inside := mt List.take_eq_nil_iff.mpr parts.2
    rw [← String.ofList_append, split_last_point rfl (by omega), String.ofList_toList]

def IsSuffix (suffix : String) : Prop :=
  ∃ tail, suffix.toList = '.' :: tail ∧ tail ≠ [] ∧ '.' ∉ tail

/-- A suffix is left out only if nothing but itself could stand before it. -/
structure Splits (name stem suffix : String) : Prop where
  whole : stem ++ suffix = name
  parts : stem ≠ "" ∧ IsSuffix suffix ∨
    suffix = "" ∧ ∀ front rest, front ++ rest = name → IsSuffix rest → front = ""

variable {name stem suffix : String}

theorem splits_of_splitName (split : splitName name = (stem, suffix)) :
    Splits name stem suffix := by
  refine ⟨splitName_append split, ?_⟩
  unfold splitName at split
  simp only at split
  split at split
  · rename_i whole
    cases split
    refine .inr ⟨rfl, ?_⟩
    rintro front rest rfl ⟨tail, point, filled, absent⟩
    have count : (front.toList ++ '.' :: tail).length - tail.length - 1 = front.toList.length := by
      rw [List.length_append, List.length_cons]
      omega
    rw [String.toList_append, point, last_point _ absent, count, List.take_left] at whole
    simpa [filled] using whole
  · rename_i parts
    cases split
    rw [Bool.or_eq_true, List.isEmpty_iff, List.isEmpty_iff, not_or] at parts
    refine .inl ⟨?_, _, String.toList_ofList, parts.1, ?_⟩
    · exact fun none => parts.2 (String.ofList_eq_empty_iff.mp none)
    · intro member
      have other := List.mem_takeWhile_imp (List.mem_reverse.mp member)
      simp at other

theorem Splits.unique {stem' suffix' : String} (split : Splits name stem suffix)
    (split' : Splits name stem' suffix') : stem = stem' ∧ suffix = suffix' := by
  obtain ⟨whole, parts⟩ := split
  obtain ⟨whole', parts'⟩ := split'
  rcases parts with ⟨named, tail, point, filled, absent⟩ | ⟨rfl, none⟩
  · rcases parts' with ⟨named', tail', point', filled', absent'⟩ | ⟨rfl, none'⟩
    · have chars : stem.toList ++ '.' :: tail = stem'.toList ++ '.' :: tail' := by
        rw [← point, ← point', ← String.toList_append, ← String.toList_append, whole, whole']
      have tails : tail = tail' := by
        rw [← last_point stem.toList absent, chars, last_point _ absent']
      subst tails
      exact ⟨String.toList_inj.mp (List.append_cancel_right chars),
        String.toList_inj.mp (point.trans point'.symm)⟩
    · exact absurd (none' _ _ whole ⟨tail, point, filled, absent⟩) named
  · rcases parts' with ⟨named', tail', point', filled', absent'⟩ | ⟨rfl, none'⟩
    · exact absurd (none _ _ whole' ⟨tail', point', filled', absent'⟩) named'
    · exact ⟨String.append_empty.symm.trans ((whole.trans whole'.symm).trans String.append_empty),
        rfl⟩

theorem splitName_eq_iff : splitName name = (stem, suffix) ↔ Splits name stem suffix := by
  constructor
  · exact splits_of_splitName
  · intro split
    obtain ⟨same, same'⟩ := split.unique (splits_of_splitName (Prod.eta (splitName name)).symm)
    rw [same, same']

theorem splits_append_iff (proper : IsSuffix suffix) :
    Splits (stem ++ suffix) stem suffix ↔ stem ≠ "" := by
  constructor
  · rintro ⟨_, ⟨named, _⟩ | ⟨rfl, _⟩⟩
    · exact named
    · obtain ⟨tail, point, _⟩ := proper
      cases point
  · intro named
    exact ⟨rfl, .inl ⟨named, proper⟩⟩

end Rulesheet.Path
