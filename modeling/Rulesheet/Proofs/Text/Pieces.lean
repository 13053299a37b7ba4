import Mathlib.Data.List.DropRight
import Rulesheet.Text.Pieces

/- Laws of cutting and trimming. A piece without the separator is cut off whole, and trimming
   twice is trimming once, so that declared names are trimmed texts that are not empty. -/
namespace Rulesheet.Text

theorem cutChars_of_absent {sep : Char} {piece : List Char} (absent : sep ∉ piece) :
    cutChars sep piece = [piece] := by
  induction piece with
  | nil => rfl
  | cons c rest ih =>
    simp only [List.mem_cons, not_or] at absent
    rw [cutChars, if_neg (Ne.symm absent.1), ih absent.2]

theorem cutChars_append_cons (sep : Char) (s rest : List Char) :
    cutChars sep (s ++ sep :: rest) = cutChars sep s ++ cutChars sep rest := by
  induction s with
  | nil => simp [cutChars]
  | cons c more ih =>
    rw [List.cons_append, cutChars, cutChars, ih]
    by_cases same : c = sep
    · rw [if_pos same, if_pos same, List.cons_append]
    · rw [if_neg same, if_neg same]
      cases cut : cutChars sep more with
      | nil => exact absurd cut (cutChars_ne_nil sep more)
      | cons piece pieces => rfl

theorem cutChars_append {sep : Char} {piece : List Char} (absent : sep ∉ piece)
    (rest : List Char) : cutChars sep (piece ++ sep :: rest) = piece :: cutChars sep rest := by
  rw [cutChars_append_cons, cutChars_of_absent absent, List.singleton_append]

theorem not_mem_of_mem_cutChars {sep : Char} {s piece : List Char}
    (listed : piece ∈ cutChars sep s) : sep ∉ piece := by
  induction s generalizing piece with
  | nil =>
    rw [List.mem_singleton.mp listed]
    exact List.not_mem_nil
  | cons c rest ih =>
    unfold cutChars at listed
    by_cases same : c = sep
    · rw [if_pos same, List.mem_cons] at listed
      rcases listed with rfl | later
      · exact List.not_mem_nil
      · exact ih later
    · rw [if_neg same] at listed
      cases cut : cutChars sep rest with
      | nil => exact absurd cut (cutChars_ne_nil sep rest)
      | cons first pieces =>
        rw [cut] at listed ih
        rcases List.mem_cons.mp listed with rfl | later
        · rw [List.mem_cons, not_or]
          exact ⟨Ne.symm same, ih List.mem_cons_self⟩
        · exact ih (List.mem_cons_of_mem first later)

theorem length_cutChars (sep : Char) (s : List Char) :
    (cutChars sep s).length = s.count sep + 1 := by
  induction s with
  | nil => rfl
  | cons c rest ih =>
    unfold cutChars
    by_cases same : c = sep
    · rw [if_pos same, List.length_cons, ih, same, List.count_cons_self]
    · rw [if_neg same, List.count_cons_of_ne same, ← ih]
      cases cut : cutChars sep rest with
      | nil => exact absurd cut (cutChars_ne_nil sep rest)
      | cons piece pieces => rfl

theorem cutChars_join {sep : Char} {pieces : List (List Char)} (filled : pieces ≠ []) :
    cutChars sep (List.intercalate [sep] pieces) = pieces.flatMap (cutChars sep) := by
  induction pieces with
  | nil => exact absurd rfl filled
  | cons piece rest ih =>
    cases rest with
    | nil => rw [List.intercalate_singleton, List.flatMap_singleton]
    | cons next more =>
      rw [List.intercalate_cons_cons, List.append_assoc, List.singleton_append,
        cutChars_append_cons, List.flatMap_cons, ih (List.cons_ne_nil _ _)]

theorem cutChars_intercalate {sep : Char} {pieces : List (List Char)} (filled : pieces ≠ [])
    (absent : ∀ piece ∈ pieces, sep ∉ piece) :
    cutChars sep (List.intercalate [sep] pieces) = pieces := by
  rw [cutChars_join filled, List.flatMap_congr fun piece member =>
    cutChars_of_absent (absent piece member), List.flatMap_singleton']

theorem toList_join (sep : String) (pieces : List String) :
    (join sep pieces).toList = sep.toList.intercalate (pieces.map String.toList) :=
  String.toList_intercalate

theorem mem_intercalate {sep : List Char} {pieces : List (List Char)} {c : Char}
    (member : c ∈ List.intercalate sep pieces) : c ∈ sep ∨ ∃ piece ∈ pieces, c ∈ piece := by
  induction pieces with
  | nil => cases member
  | cons piece rest ih =>
    cases rest with
    | nil =>
      rw [List.intercalate_singleton] at member
      exact .inr ⟨piece, List.mem_cons_self, member⟩
    | cons next more =>
      rw [List.intercalate_cons_cons, List.append_assoc, List.mem_append, List.mem_append] at member
      rcases member with first | between | later
      · exact .inr ⟨piece, List.mem_cons_self, first⟩
      · exact .inl between
      · rcases ih later with between | ⟨other, listed, inside⟩
        · exact .inl between
        · exact .inr ⟨other, List.mem_cons_of_mem piece listed, inside⟩

theorem mem_of_mem_intercalate {sep : List Char} {pieces : List (List Char)}
    {piece : List Char} (listed : piece ∈ pieces) {c : Char} (inside : c ∈ piece) :
    c ∈ List.intercalate sep pieces := by
  induction pieces with
  | nil => cases listed
  | cons first rest ih =>
    cases rest with
    | nil =>
      rw [List.intercalate_singleton, ← List.mem_singleton.mp listed]
      exact inside
    | cons next more =>
      rw [List.intercalate_cons_cons, List.append_assoc, List.mem_append, List.mem_append]
      rcases List.mem_cons.mp listed with rfl | later
      · exact .inl inside
      · exact .inr (.inr (ih later))

theorem intercalate_cutChars (sep : Char) (s : List Char) :
    List.intercalate [sep] (cutChars sep s) = s := by
  induction s with
  | nil => rfl
  | cons c rest ih =>
    unfold cutChars
    cases pieces : cutChars sep rest with
    | nil => exact absurd pieces (cutChars_ne_nil sep rest)
    | cons piece more =>
      rw [pieces] at ih
      split
      · rename_i here
        rw [List.intercalate_cons_cons, ih, here]
        rfl
      · cases more with
        | nil =>
          rw [List.intercalate_singleton] at ih ⊢
          rw [ih]
        | cons next others =>
          rw [List.intercalate_cons_cons] at ih ⊢
          rw [← ih]
          rfl

theorem join_cut (sep : Char) (s : String) : join (String.singleton sep) (cut sep s) = s := by
  apply String.toList_inj.mp
  rw [toList_join, cut, List.map_map, String.toList_singleton]
  have same : String.toList ∘ String.ofList = id := funext fun _ => String.toList_ofList
  rw [same, List.map_id, intercalate_cutChars]

theorem intercalate_concat (sep : List Char) {pieces : List (List Char)} (filled : pieces ≠ [])
    (piece : List Char) :
    sep.intercalate (pieces ++ [piece]) = sep.intercalate pieces ++ sep ++ piece := by
  induction pieces with
  | nil => exact absurd rfl filled
  | cons first more ih =>
    cases more with
    | nil =>
      rw [List.singleton_append, List.intercalate_cons_cons, List.intercalate_singleton,
        List.intercalate_singleton]
    | cons second more =>
      rw [List.cons_append, List.cons_append, List.intercalate_cons_cons, ← List.cons_append,
        ih (List.cons_ne_nil _ _), List.intercalate_cons_cons]
      simp only [List.append_assoc]

theorem join_concat (sep : String) {pieces : List String} (filled : pieces ≠ [])
    (piece : String) : join sep (pieces ++ [piece]) = join sep pieces ++ sep ++ piece := by
  apply String.toList_inj.mp
  rw [String.toList_append, String.toList_append, toList_join, toList_join, List.map_append,
    List.map_singleton, intercalate_concat _ (by simpa using filled)]

theorem join_eq_empty_iff {pieces : List String} (filled : ∀ piece ∈ pieces, piece ≠ "")
    (sep : String) : join sep pieces = "" ↔ pieces = [] := by
  constructor
  · intro empty
    cases pieces with
    | nil => rfl
    | cons piece rest =>
      have named := filled piece List.mem_cons_self
      have chars := congrArg String.toList empty
      rw [toList_join, List.map_cons] at chars
      cases rest with
      | nil =>
        rw [List.map_nil, List.intercalate_singleton] at chars
        exact absurd (String.toList_inj.mp chars) named
      | cons next more =>
        rw [List.map_cons, List.intercalate_cons_cons, List.append_assoc] at chars
        exact absurd (String.toList_inj.mp (List.append_eq_nil_iff.mp chars).1) named
  · rintro rfl
    rfl

theorem cut_join {sep : Char} {pieces : List String} (filled : pieces ≠ []) :
    cut sep (join (String.singleton sep) pieces) = pieces.flatMap (cut sep) := by
  have chars : (String.singleton sep).toList = [sep] := String.toList_singleton sep
  rw [cut, toList_join, chars, cutChars_join (by simpa using filled), List.flatMap_map,
    List.map_flatMap]
  rfl

theorem length_cut (sep : Char) (s : String) : (cut sep s).length = s.toList.count sep + 1 := by
  rw [cut, List.length_map, length_cutChars]

theorem length_flatMap_cut (sep : Char) (pieces : List String) :
    (pieces.flatMap (cut sep)).length =
      pieces.length + (pieces.flatMap String.toList).count sep := by
  induction pieces with
  | nil => rfl
  | cons piece rest ih =>
    rw [List.flatMap_cons, List.length_append, length_cut, ih, List.flatMap_cons,
      List.count_append, List.length_cons]
    omega

theorem count_flatMap_eq_zero_iff {sep : Char} {pieces : List String} :
    (pieces.flatMap String.toList).count sep = 0 ↔ ∀ piece ∈ pieces, sep ∉ piece.toList := by
  rw [List.count_eq_zero, List.mem_flatMap]
  simp only [not_exists, not_and]

theorem cut_of_absent {sep : Char} {s : String} (absent : sep ∉ s.toList) : cut sep s = [s] := by
  rw [cut, cutChars_of_absent absent, List.map_singleton, String.ofList_toList]

theorem flatMap_cut_eq_self_iff {sep : Char} {pieces : List String} :
    pieces.flatMap (cut sep) = pieces ↔ ∀ piece ∈ pieces, sep ∉ piece.toList := by
  constructor
  · intro same
    have length := congrArg List.length same
    rw [length_flatMap_cut] at length
    exact count_flatMap_eq_zero_iff.mp (by omega)
  · intro absent
    have whole : ∀ piece ∈ pieces, cut sep piece = [piece] :=
      fun piece member => cut_of_absent (absent piece member)
    rw [List.flatMap_congr whole, List.flatMap_singleton']

theorem cut_append (sep : Char) (a b : String) :
    cut sep (a ++ String.singleton sep ++ b) = cut sep a ++ cut sep b := by
  rw [cut, String.toList_append, String.toList_append, String.toList_singleton, List.append_assoc,
    List.singleton_append, cutChars_append_cons, List.map_append]
  rfl

theorem cut_join_of_absent {sep : Char} {pieces : List String} (filled : pieces ≠ [])
    (absent : ∀ piece ∈ pieces, sep ∉ piece.toList) :
    cut sep (join (String.singleton sep) pieces) = pieces := by
  rw [cut_join filled, flatMap_cut_eq_self_iff.mpr absent]

theorem not_mem_of_mem_cut {sep : Char} {s piece : String} (listed : piece ∈ cut sep s) :
    sep ∉ piece.toList := by
  obtain ⟨chars, inside, rfl⟩ := List.mem_map.mp listed
  rw [String.toList_ofList]
  exact not_mem_of_mem_cutChars inside

theorem trimStartChars_trimChars (s : List Char) :
    trimStartChars (trimChars s) = trimChars s := by
  apply List.dropWhile_eq_self_iff.mpr
  intro nonempty
  -- The trimmed text is a prefix of the text that starts without a blank, so it has the same head.
  have kept : trimChars s <+: trimStartChars s := List.rdropWhile_prefix isBlank _
  have start : trimStartChars (trimStartChars s) = trimStartChars s :=
    List.dropWhile_idempotent isBlank s
  have longer : 0 < (trimStartChars s).length := Nat.lt_of_lt_of_le nonempty kept.length_le
  rw [kept.getElem nonempty]
  exact List.dropWhile_eq_self_iff.mp start longer

theorem trimChars_trimChars (s : List Char) : trimChars (trimChars s) = trimChars s := by
  rw [trimChars, trimStartChars_trimChars]
  exact List.rdropWhile_idempotent isBlank (trimStartChars s)

@[simp]
theorem trim_trim (s : String) : trim (trim s) = trim s := by
  simp [trim, trimChars_trimChars]

theorem isBlank_last_trimChars {s : List Char} {c : Char}
    (last : c ∈ (trimChars s).getLast?) : isBlank c = false := by
  have filled : trimChars s ≠ [] := by
    intro empty
    simp [empty] at last
  have ends := List.rdropWhile_last_not isBlank (trimStartChars s) filled
  rw [List.getLast?_eq_some_getLast filled, Option.mem_some_iff] at last
  rw [← last]
  exact eq_false_of_ne_true ends

theorem withoutFinalNewline_concat (s : List Char) : withoutFinalNewline (s ++ ['\n']) = s := by
  simp [withoutFinalNewline]

theorem withoutFinalNewline_of_last {s : List Char} (last : '\n' ∉ s.getLast?) :
    withoutFinalNewline s = s := if_neg last

theorem withoutFinalNewline_cases (s : List Char) :
    '\n' ∉ s.getLast? ∧ withoutFinalNewline s = s ∨ s = withoutFinalNewline s ++ ['\n'] := by
  by_cases last : '\n' ∈ s.getLast?
  · right
    rw [withoutFinalNewline, if_pos (Option.mem_def.mp last)]
    exact (List.dropLast_append_getLast? '\n' last).symm
  · exact .inl ⟨last, withoutFinalNewline_of_last last⟩

/-- What holds of a text or of all of it but a line feed at its end. -/
def UpToNewline (P : List Char → Prop) (s : List Char) : Prop := P s ∨ ∃ t, P t ∧ s = t ++ ['\n']

theorem withoutFinalNewline_iff {P : List Char → Prop} (free : ∀ t, P t → '\n' ∉ t)
    {s : List Char} : P (withoutFinalNewline s) ↔ UpToNewline P s := by
  constructor
  · intro holds
    rcases withoutFinalNewline_cases s with ⟨_, whole⟩ | ended
    · rw [whole] at holds
      exact .inl holds
    · exact .inr ⟨_, holds, ended⟩
  · rintro (holds | ⟨t, holds, rfl⟩)
    · have last : '\n' ∉ s.getLast? := fun last => free s holds (List.mem_of_getLast? last)
      rwa [withoutFinalNewline_of_last last]
    · rwa [withoutFinalNewline_concat]

theorem UpToNewline.whole_iff {P : List Char → Prop} {s : List Char} (holds : UpToNewline P s)
    (free : ∀ t, P t → '\n' ∉ t) : P s ↔ '\n' ∉ s := by
  refine ⟨free s, fun absent => ?_⟩
  rcases holds with holds | ⟨t, _, rfl⟩
  · exact holds
  · exact absurd (List.mem_append_right t (List.mem_singleton_self _)) absent

theorem withoutFinalNewline_trimChars (s : List Char) :
    withoutFinalNewline (trimChars s) = trimChars s := by
  apply withoutFinalNewline_of_last
  intro last
  exact absurd (isBlank_last_trimChars last) (by decide)

/-! Letters and digits, ASCII alone. -/

def IsLetter (c : Char) : Prop := 'A' ≤ c ∧ c ≤ 'Z' ∨ 'a' ≤ c ∧ c ≤ 'z'

def IsDigit (c : Char) : Prop := '0' ≤ c ∧ c ≤ '9'

instance (c : Char) : Decidable (IsLetter c) := inferInstanceAs (Decidable (_ ∨ _))

instance (c : Char) : Decidable (IsDigit c) := inferInstanceAs (Decidable (_ ∧ _))

theorem isUpper_iff (c : Char) : c.isUpper = true ↔ 'A' ≤ c ∧ c ≤ 'Z' := decide_eq_true_iff

theorem isLower_iff (c : Char) : c.isLower = true ↔ 'a' ≤ c ∧ c ≤ 'z' :=
  Bool.and_eq_true_iff.trans (and_congr decide_eq_true_iff decide_eq_true_iff)

theorem isAlpha_iff (c : Char) : c.isAlpha = true ↔ IsLetter c :=
  Bool.or_eq_true_iff.trans (or_congr (isUpper_iff c) (isLower_iff c))

theorem isDigit_iff (c : Char) : c.isDigit = true ↔ IsDigit c :=
  Bool.and_eq_true_iff.trans (and_congr decide_eq_true_iff decide_eq_true_iff)

theorem isAlphanum_iff (c : Char) : c.isAlphanum = true ↔ IsLetter c ∨ IsDigit c := by
  rw [Char.isAlphanum, Bool.or_eq_true, isAlpha_iff, isDigit_iff]

theorem digit_of_mem_repr {n : Nat} {c : Char} (member : c ∈ n.repr.toList) :
    c.isDigit = true := by
  rw [Nat.toList_repr] at member
  exact Nat.isDigit_of_mem_toDigits (by decide) (by decide) member

theorem mem_toString {n : Int} {c : Char} (member : c ∈ (toString n).toList) :
    c.isDigit = true ∨ c = '-' := by
  rw [Int.toString_eq_repr, Int.repr_eq_if] at member
  split at member
  · exact Or.inl (digit_of_mem_repr member)
  · rw [String.toList_append, List.mem_append] at member
    rcases member with sign | inside
    · exact Or.inr (by simpa using sign)
    · exact Or.inl (digit_of_mem_repr inside)

/-! Names. -/

theorem trim_of_mem_names {raw name : String} (member : name ∈ names raw) : trim name = name := by
  obtain ⟨piece, _, eq⟩ := List.mem_map.mp (List.mem_filter.mp member).1
  rw [← eq, trim_trim]

theorem map_trim_names (raw : String) : (names raw).map trim = names raw :=
  (List.map_congr_left fun _ member => trim_of_mem_names member).trans (List.map_id' _)

theorem ne_empty_of_mem_names {raw name : String} (member : name ∈ names raw) : name ≠ "" := by
  simpa using (List.mem_filter.mp member).2

end Rulesheet.Text
