import Mathlib.Data.List.Infix
import Rulesheet.Definition.Declaration

/- The words of a line. Gaps in front do not show, a word ends where no word character follows, and
   the words end at an equals sign. A keyword and a name are read in any case of ASCII letters. -/
namespace Rulesheet

namespace Text

theorem toLower_of_not_ascii {c : Char} (beyond : 128 ≤ c.toNat) : c.toLower = c := by
  refine dif_neg fun upper => ?_
  have below : c.toNat ≤ 'Z'.toNat := UInt32.le_iff_toNat_le.mp upper.2
  have last : 'Z'.toNat < 128 := by decide
  omega

theorem isWord_toLower (c : Char) : isWord c.toLower = isWord c := by
  have each : ∀ n < 128, isWord (Char.ofNat n).toLower = isWord (Char.ofNat n) := by
    decide +kernel
  by_cases ascii : c.toNat < 128
  · have here := each c.toNat ascii
    rwa [Char.ofNat_toNat] at here
  · rw [toLower_of_not_ascii (Nat.le_of_not_lt ascii)]

theorem ascii_of_toLower {c : Char} (ascii : c.toLower.toNat < 128) : c.toNat < 128 := by
  by_contra beyond
  rw [toLower_of_not_ascii (Nat.le_of_not_lt beyond)] at ascii
  exact beyond ascii

theorem lowerFrom_cons_ascii {c : Char} (ascii : c.toNat < 128) (before rest : List Char) :
    lowerFrom before (c :: rest) = c.toLower :: lowerFrom (c :: before) rest := by
  have plain : (c == '\u03a3') = false := by
    rw [beq_eq_false_iff_ne]
    rintro rfl
    exact absurd ascii (by decide)
  rw [lowerFrom]
  simp only [plain, Bool.false_eq_true, if_false]
  rw [lowerChar, if_pos ascii, List.singleton_append]

theorem lowerFrom_ascii {s : List Char} (ascii : ∀ c ∈ s, c.toNat < 128) (before : List Char) :
    lowerFrom before s = s.map Char.toLower := by
  induction s generalizing before with
  | nil => rfl
  | cons c rest ih =>
    rw [List.forall_mem_cons] at ascii
    rw [lowerFrom_cons_ascii ascii.1, ih ascii.2, List.map_cons]

end Text

namespace Declaration

theorem isWord_of_isGap {c : Char} (gap : isGap c = true) : Text.isWord c = false := by
  simp only [isGap, Bool.or_eq_true, beq_iff_eq] at gap
  rcases gap with rfl | rfl <;> decide

theorem isGap_of_isWord {c : Char} (word : Text.isWord c = true) : isGap c = false := by
  by_contra gap
  rw [isWord_of_isGap (by simpa using gap)] at word
  cases word

theorem words_gap {gap : List Char} (blank : ∀ c ∈ gap, isGap c = true) (s : List Char) :
    words (gap ++ s) = words s := by
  have skip : (gap ++ s).dropWhile isGap = s.dropWhile isGap :=
    List.dropWhile_append_of_pos blank
  rw [words, skip]
  conv_rhs => rw [words]

theorem takeWhile_word {w rest : List Char} (word : ∀ c ∈ w, Text.isWord c = true)
    (ended : ∀ c ∈ rest.head?, Text.isWord c = false) :
    (w ++ rest).takeWhile Text.isWord = w := by
  rw [List.takeWhile_append_of_pos word]
  cases rest with
  | nil => simp
  | cons c rest => simp [ended c rfl]

theorem dropWhile_word {w rest : List Char} (word : ∀ c ∈ w, Text.isWord c = true)
    (ended : ∀ c ∈ rest.head?, Text.isWord c = false) :
    (w ++ rest).dropWhile Text.isWord = rest := by
  rw [List.dropWhile_append_of_pos word]
  cases rest with
  | nil => rfl
  | cons c rest => simp [ended c rfl]

theorem words_word {w rest : List Char} (filled : w ≠ []) (word : ∀ c ∈ w, Text.isWord c = true)
    (ended : ∀ c ∈ rest.head?, Text.isWord c = false) :
    words (w ++ rest) = (w :: (words rest).1, (words rest).2) := by
  have start : (w ++ rest).dropWhile isGap = w ++ rest := by
    obtain ⟨c, more, rfl⟩ := List.exists_cons_of_ne_nil filled
    rw [List.cons_append, List.dropWhile_cons_of_neg]
    simp [isGap_of_isWord (word c List.mem_cons_self)]
  rw [words, start, takeWhile_word word ended, dropWhile_word word ended, if_neg filled]

theorem words_word_space {w gap : List Char} (filled : w ≠ [])
    (word : ∀ c ∈ w, Text.isWord c = true) (spaced : gap ≠ []) (blank : ∀ c ∈ gap, isGap c = true)
    (rest : List Char) :
    words (w ++ gap ++ rest) = (w :: (words rest).1, (words rest).2) := by
  rw [List.append_assoc, words_word filled word, words_gap blank]
  obtain ⟨c, more, rfl⟩ := List.exists_cons_of_ne_nil spaced
  simpa using isWord_of_isGap (blank c List.mem_cons_self)

theorem words_equals (rest : List Char) : words ('=' :: rest) = ([], '=' :: rest) := by
  have start : ('=' :: rest).dropWhile isGap = '=' :: rest :=
    List.dropWhile_cons_of_neg (by decide)
  have none : ('=' :: rest).takeWhile Text.isWord = [] :=
    List.takeWhile_cons_of_neg (by decide)
  rw [words, start, if_pos none]

theorem head_gap {gap : List Char} (blank : ∀ c ∈ gap, isGap c = true) (rest : List Char) :
    ∀ c ∈ (gap ++ '=' :: rest).head?, Text.isWord c = false := by
  cases gap with
  | nil => simp [show Text.isWord '=' = false by decide]
  | cons c more => simpa using isWord_of_isGap (blank c List.mem_cons_self)

/-- What a line declares, by the words before its equals sign and the value behind it. -/
theorem ofLine?_of_words {line after : List Char} {ws : List (List Char)}
    (read : words line = (ws, '=' :: after)) :
    ofLine? line = match textValue? (after.dropWhile isGap), flagValue? (after.dropWhile isGap) with
      | some s, _ => (name? "string".toList ws).map fun n =>
          ⟨String.ofList (Text.lowerFrom [] n), .text (String.ofList s)⟩
      | none, some b => (name? "boolean".toList ws).map fun n =>
          ⟨String.ofList (Text.lowerFrom [] n), .flag b⟩
      | none, none => none := by
  unfold ofLine?
  rw [read]
  rfl

/-! Keywords. -/

theorem isKeyword_lowered (word : List Char) : isKeyword (word.map Char.toLower) word = true := by
  induction word with
  | nil => rfl
  | cons c rest ih => simp [isKeyword, readsAs, ih]

theorem length_of_isKeyword {keyword word : List Char} (reads : isKeyword keyword word = true) :
    keyword.length = word.length := by
  induction keyword generalizing word with
  | nil =>
    cases word with
    | nil => rfl
    | cons c rest => cases reads
  | cons k keyword ih =>
    cases word with
    | nil => cases reads
    | cons c rest =>
      rw [isKeyword, Bool.and_eq_true] at reads
      rw [List.length_cons, List.length_cons, ih reads.2]

end Declaration
end Rulesheet
