import Mathlib.Data.List.Basic
import Mathlib.Data.List.TakeWhile
import Rulesheet.Text.Utf8

/- Decoding gives a text back exactly from its encoding. A character has a first byte that tells how
   many follow, and bytes that fit after it spell one character only. -/
namespace Rulesheet.Utf8

def codes (c : Char) : List Nat := (String.utf8EncodeChar c).map UInt8.toNat

def codePoint (b : Nat) (next : List Nat) : Nat :=
  next.foldl (fun c x => c * 64 + (x - 0x80)) (leadBits b next.length)

structure IsPiece (b : Nat) (next : List Nat) : Prop where
  followers : followers? b = some next.length
  fits : fitting b next = next.length

theorem toNat_ofNat {n : Nat} (valid : n.isValidChar) : (Char.ofNat n).toNat = n := by
  rw [Char.ofNat, dif_pos valid]
  rfl

theorem codes_eq (c : Char) :
    codes c =
      if c.toNat ≤ 0x7F then [c.toNat]
      else if c.toNat ≤ 0x7FF then [0xC0 + c.toNat / 64, 0x80 + c.toNat % 64]
      else if c.toNat ≤ 0xFFFF then
        [0xE0 + c.toNat / 4096, 0x80 + c.toNat / 64 % 64, 0x80 + c.toNat % 64]
      else [0xF0 + c.toNat / 262144, 0x80 + c.toNat / 4096 % 64, 0x80 + c.toNat / 64 % 64,
        0x80 + c.toNat % 64] := by
  have valid : c.toNat < 0xD800 ∨ 0xDFFF < c.toNat ∧ c.toNat < 0x110000 := c.valid
  unfold codes String.utf8EncodeChar
  simp only [Char.toNat_val]
  generalize c.toNat = v at valid
  by_cases one : v ≤ 0x7F
  · simp only [if_pos one, List.map_cons, List.map_nil, UInt8.toNat_ofNat', List.cons.injEq,
      and_true]
    omega
  rw [if_neg one, if_neg one]
  by_cases two : v ≤ 0x7FF
  · simp only [if_pos two, List.map_cons, List.map_nil, UInt8.toNat_ofNat', List.cons.injEq,
      and_true]
    omega
  rw [if_neg two, if_neg two]
  by_cases three : v ≤ 0xFFFF
  · simp only [if_pos three, List.map_cons, List.map_nil, UInt8.toNat_ofNat', List.cons.injEq,
      and_true]
    omega
  rw [if_neg three, if_neg three]
  simp only [List.map_cons, List.map_nil, UInt8.toNat_ofNat', List.cons.injEq, and_true]
  omega

theorem followers?_eq_some {b n : Nat} :
    followers? b = some n ↔ n = 0 ∧ b < 0x80 ∨ n = 1 ∧ 0xC2 ≤ b ∧ b < 0xE0 ∨
      n = 2 ∧ 0xE0 ≤ b ∧ b < 0xF0 ∨ n = 3 ∧ 0xF0 ≤ b ∧ b < 0xF5 := by
  unfold followers?
  split
  · simp only [Option.some.injEq]; omega
  split
  · simp only [Option.some.injEq]; omega
  split
  · simp only [Option.some.injEq]; omega
  split
  · simp only [Option.some.injEq]; omega
  · simp only [reduceCtorEq, false_iff]; omega

theorem fitsSecond_iff {b x : Nat} :
    fitsSecond b x = true ↔ 0x80 ≤ x ∧ x < 0xC0 ∧ (b = 0xE0 → 0xA0 ≤ x) ∧ (b = 0xED → x < 0xA0) ∧
      (b = 0xF0 → 0x90 ≤ x) ∧ (b = 0xF4 → x < 0x90) := by
  unfold fitsSecond
  split
  · simp only [Bool.and_eq_true, decide_eq_true_eq]; omega
  split
  · simp only [Bool.and_eq_true, decide_eq_true_eq]; omega
  split
  · simp only [Bool.and_eq_true, decide_eq_true_eq]; omega
  split
  · simp only [Bool.and_eq_true, decide_eq_true_eq]; omega
  · simp only [Bool.and_eq_true, decide_eq_true_eq]; omega

theorem fitsLater_iff {x : Nat} : fitsLater x = true ↔ 0x80 ≤ x ∧ x < 0xC0 := by
  simp [fitsLater]

theorem fitting_cons (b x : Nat) (rest : List Nat) :
    fitting b (x :: rest) =
      if fitsSecond b x then 1 + (rest.takeWhile fitsLater).length else 0 := rfl

theorem fitting_le (b : Nat) (next : List Nat) : fitting b next ≤ next.length := by
  cases next with
  | nil => exact Nat.le_refl 0
  | cons x rest =>
    have some := (List.takeWhile_prefix (l := rest) fitsLater).length_le
    rw [fitting_cons, List.length_cons]
    split <;> omega

theorem fitting_eq_length_iff {b x : Nat} {rest : List Nat} :
    fitting b (x :: rest) = (x :: rest).length ↔
      fitsSecond b x = true ∧ ∀ y ∈ rest, fitsLater y = true := by
  have all : (rest.takeWhile fitsLater).length = rest.length ↔ ∀ y ∈ rest, fitsLater y = true := by
    rw [← List.takeWhile_eq_self_iff]
    constructor
    · intro long
      exact (List.takeWhile_prefix fitsLater).eq_of_length long
    · intro same
      rw [same]
  rw [fitting_cons]
  by_cases second : fitsSecond b x = true
  · rw [if_pos second, ← all, List.length_cons]
    constructor
    · intro long
      exact ⟨second, by omega⟩
    · rintro ⟨_, long⟩
      omega
  · rw [if_neg second]
    simp [second]

theorem codes_of_piece {b : Nat} {next : List Nat} (piece : IsPiece b next) :
    codes (Char.ofNat (codePoint b next)) = b :: next := by
  obtain ⟨followers, fits⟩ := piece
  rcases followers?_eq_some.mp followers with
    ⟨none, range⟩ | ⟨one, range⟩ | ⟨two, range⟩ | ⟨three, range⟩
  · obtain rfl := List.length_eq_zero_iff.mp none
    have point : codePoint b [] = b := rfl
    have value := toNat_ofNat (n := codePoint b []) (by rw [point]; exact .inl (by omega))
    rw [codes_eq, value, point, if_pos (by omega)]
  · obtain ⟨x, rfl⟩ := List.length_eq_one_iff.mp one
    obtain ⟨second, _⟩ := fitting_eq_length_iff.mp fits
    rw [fitsSecond_iff] at second
    have point : codePoint b [x] = (b - 0xC0) * 64 + (x - 0x80) := rfl
    have value := toNat_ofNat (n := codePoint b [x]) (by rw [point]; exact .inl (by omega))
    rw [codes_eq, value, point, if_neg (by omega), if_pos (by omega)]
    simp only [List.cons.injEq, and_true]
    omega
  · obtain ⟨x, y, rfl⟩ := List.length_eq_two.mp two
    obtain ⟨second, later⟩ := fitting_eq_length_iff.mp fits
    have third := fitsLater_iff.mp (later y (by simp))
    rw [fitsSecond_iff] at second
    have point : codePoint b [x, y] = ((b - 0xE0) * 64 + (x - 0x80)) * 64 + (y - 0x80) := rfl
    have value := toNat_ofNat (n := codePoint b [x, y]) (by rw [point, Nat.isValidChar]; omega)
    rw [codes_eq, value, point, if_neg (by omega), if_neg (by omega), if_pos (by omega)]
    simp only [List.cons.injEq, and_true]
    omega
  · obtain ⟨x, y, z, rfl⟩ := List.length_eq_three.mp three
    obtain ⟨second, later⟩ := fitting_eq_length_iff.mp fits
    have third := fitsLater_iff.mp (later y (by simp))
    have fourth := fitsLater_iff.mp (later z (by simp))
    rw [fitsSecond_iff] at second
    have point : codePoint b [x, y, z] =
        (((b - 0xF0) * 64 + (x - 0x80)) * 64 + (y - 0x80)) * 64 + (z - 0x80) := rfl
    have value := toNat_ofNat (n := codePoint b [x, y, z]) (by rw [point, Nat.isValidChar]; omega)
    rw [codes_eq, value, point, if_neg (by omega), if_neg (by omega), if_neg (by omega)]
    simp only [List.cons.injEq, and_true]
    omega

theorem piece_of_codes {b : Nat} {next : List Nat} {c : Char} (spelled : codes c = b :: next) :
    IsPiece b next ∧ codePoint b next = c.toNat := by
  have valid : c.toNat < 0xD800 ∨ 0xDFFF < c.toNat ∧ c.toNat < 0x110000 := c.valid
  rw [codes_eq] at spelled
  generalize c.toNat = v at valid spelled
  split at spelled
  · obtain ⟨rfl, rfl⟩ := List.cons.inj spelled
    exact ⟨⟨followers?_eq_some.mpr (.inl ⟨rfl, by omega⟩), rfl⟩, rfl⟩
  split at spelled
  · obtain ⟨rfl, rfl⟩ := List.cons.inj spelled
    refine ⟨⟨followers?_eq_some.mpr (.inr (.inl ⟨rfl, by omega, by omega⟩)), ?_⟩, ?_⟩
    · rw [fitting_eq_length_iff, fitsSecond_iff]
      exact ⟨by omega, by simp⟩
    · change (0xC0 + v / 64 - 0xC0) * 64 + (0x80 + v % 64 - 0x80) = v
      omega
  split at spelled
  · obtain ⟨rfl, rfl⟩ := List.cons.inj spelled
    refine ⟨⟨followers?_eq_some.mpr (.inr (.inr (.inl ⟨rfl, by omega, by omega⟩))), ?_⟩, ?_⟩
    · rw [fitting_eq_length_iff, fitsSecond_iff]
      refine ⟨by omega, ?_⟩
      simp only [List.mem_singleton, forall_eq, fitsLater_iff]
      omega
    · change ((0xE0 + v / 4096 - 0xE0) * 64 + (0x80 + v / 64 % 64 - 0x80)) * 64 +
        (0x80 + v % 64 - 0x80) = v
      omega
  · obtain ⟨rfl, rfl⟩ := List.cons.inj spelled
    refine ⟨⟨followers?_eq_some.mpr (.inr (.inr (.inr ⟨rfl, by omega, by omega⟩))), ?_⟩, ?_⟩
    · rw [fitting_eq_length_iff, fitsSecond_iff]
      refine ⟨by omega, ?_⟩
      simp only [List.mem_cons, List.not_mem_nil, or_false, forall_eq_or_imp, forall_eq,
        fitsLater_iff]
      omega
    · change (((0xF0 + v / 262144 - 0xF0) * 64 + (0x80 + v / 4096 % 64 - 0x80)) * 64 +
        (0x80 + v / 64 % 64 - 0x80)) * 64 + (0x80 + v % 64 - 0x80) = v
      omega

theorem ofNat_codePoint {b : Nat} {next : List Nat} {c : Char} (spelled : codes c = b :: next) :
    Char.ofNat (codePoint b next) = c := by
  rw [(piece_of_codes spelled).2, Char.ofNat_toNat]

theorem codes_ne_nil (c : Char) : codes c ≠ [] := by
  intro none
  exact String.utf8EncodeChar_ne_nil (List.map_eq_nil_iff.mp none)

variable {position fuel : Nat} {acc out : List Char}

theorem decodeFrom_cons_eq_ok {b : Nat} {rest : List Nat} :
    decodeFrom position (fuel + 1) (b :: rest) acc = .ok out ↔
      ∃ next more, rest = next ++ more ∧ IsPiece b next ∧
        decodeFrom (position + next.length + 1) fuel more
          (Char.ofNat (codePoint b next) :: acc) = .ok out := by
  rw [decodeFrom]
  cases known : followers? b with
  | none =>
    simp only [reduceCtorEq, false_iff]
    rintro ⟨next, more, _, piece, _⟩
    rw [piece.followers] at known
    cases known
  | some n =>
    have most := fitting_le b (rest.take n)
    rw [List.length_take] at most
    by_cases short : fitting b (rest.take n) < n
    · simp only [if_pos short, reduceCtorEq, false_iff]
      rintro ⟨next, more, rfl, piece, _⟩
      have count : next.length = n := Option.some.inj (piece.followers.symm.trans known)
      rw [← count, List.take_left, piece.fits] at short
      exact Nat.lt_irrefl _ short
    · simp only [if_neg short]
      have count : (rest.take n).length = n := by
        rw [List.length_take]
        omega
      constructor
      · intro later
        refine ⟨rest.take n, rest.drop n, (List.take_append_drop n rest).symm, ⟨?_, ?_⟩, ?_⟩
        · rw [count, known]
        · rw [count]
          omega
        · rwa [codePoint, count]
      · rintro ⟨next, more, rfl, piece, later⟩
        have same : next.length = n := Option.some.inj (piece.followers.symm.trans known)
        rw [← same, List.take_left, List.drop_left]
        exact later

theorem decodeFrom_nil_eq_ok :
    decodeFrom position fuel [] acc = .ok out ↔
      ∃ cs, cs.flatMap codes = [] ∧ out = acc.reverse ++ cs := by
  have none (cs : List Char) : cs.flatMap codes = [] ↔ cs = [] := by
    cases cs with
    | nil => simp
    | cons c cs => simp [List.flatMap_cons, codes_ne_nil]
  have stops : decodeFrom position fuel [] acc = .ok acc.reverse := by
    cases fuel <;> rfl
  simp only [stops, none, Except.ok.injEq, exists_eq_left, List.append_nil]
  exact eq_comm

theorem decodeFrom_eq_ok {bytes : List Nat} (enough : bytes.length ≤ fuel) :
    decodeFrom position fuel bytes acc = .ok out ↔
      ∃ cs, cs.flatMap codes = bytes ∧ out = acc.reverse ++ cs := by
  -- every piece takes a byte at least, so that the fuel lasts
  induction fuel generalizing position bytes acc with
  | zero =>
    obtain rfl := List.length_eq_zero_iff.mp (Nat.le_zero.mp enough)
    exact decodeFrom_nil_eq_ok
  | succ fuel ih =>
    cases bytes with
    | nil => exact decodeFrom_nil_eq_ok
    | cons b rest =>
      rw [decodeFrom_cons_eq_ok]
      constructor
      · rintro ⟨next, more, rfl, piece, later⟩
        rw [List.length_cons, List.length_append] at enough
        obtain ⟨cs, spelled, rfl⟩ := (ih (by omega)).mp later
        refine ⟨Char.ofNat (codePoint b next) :: cs, ?_, ?_⟩
        · rw [List.flatMap_cons, codes_of_piece piece, spelled, List.cons_append]
        · rw [List.reverse_cons, List.append_assoc, List.singleton_append]
      · rintro ⟨cs, spelled, rfl⟩
        cases cs with
        | nil => cases spelled
        | cons c cs =>
          rw [List.flatMap_cons] at spelled
          cases first : codes c with
          | nil => exact absurd first (codes_ne_nil c)
          | cons b' next =>
            rw [first, List.cons_append] at spelled
            obtain ⟨rfl, rfl⟩ := List.cons.inj spelled
            rw [List.length_cons, List.length_append] at enough
            refine ⟨next, cs.flatMap codes, rfl, (piece_of_codes first).1, ?_⟩
            rw [ofNat_codePoint first]
            refine (ih (by omega)).mpr ⟨cs, rfl, ?_⟩
            rw [List.reverse_cons, List.append_assoc, List.singleton_append]

theorem toList_loop (bytes : ByteArray) (i : Nat) (before : List UInt8) :
    ByteArray.toList.loop bytes i before = before.reverse ++ bytes.data.toList.drop i := by
  fun_induction ByteArray.toList.loop bytes i before with
  | case1 i before inside ih =>
    have within : i < bytes.data.toList.length := by simpa using inside
    rw [ih, List.drop_eq_getElem_cons (l := bytes.data.toList) within]
    simp [ByteArray.get!, inside]
  | case2 i before outside =>
    rw [List.drop_eq_nil_of_le (by simpa using Nat.le_of_not_lt outside), List.append_nil]

theorem toUTF8_toList (s : String) :
    s.toUTF8.toList = s.toList.flatMap String.utf8EncodeChar := by
  have bytes : s.toUTF8 = (s.toList.flatMap String.utf8EncodeChar).toByteArray := by
    conv => lhs; rw [← String.ofList_toList (s := s)]
    exact String.toByteArray_ofList
  rw [bytes, ByteArray.toList, toList_loop, List.toList_data_toByteArray]
  rfl

/-- Bytes decode to the text of which they are the encoding, if they are one. -/
theorem decode_eq_ok {bytes : List UInt8} {s : String} :
    decode bytes = .ok s ↔ s.toUTF8.toList = bytes := by
  have spelled (cs : List Char) :
      cs.flatMap codes = bytes.map UInt8.toNat ↔ cs.flatMap String.utf8EncodeChar = bytes := by
    have codes_map : cs.flatMap codes = (cs.flatMap String.utf8EncodeChar).map UInt8.toNat :=
      List.map_flatMap.symm
    rw [codes_map, List.map_inj_right fun _ _ => UInt8.toNat_inj.mp]
  have run (out : List Char) :
      decodeFrom 0 bytes.length (bytes.map UInt8.toNat) [] = .ok out ↔
        out.flatMap String.utf8EncodeChar = bytes := by
    rw [decodeFrom_eq_ok (by rw [List.length_map])]
    simp only [List.reverse_nil, List.nil_append, exists_eq_right', spelled]
  rw [toUTF8_toList, ← run, decode]
  cases decodeFrom 0 bytes.length (bytes.map UInt8.toNat) [] with
  | error e => simp [Except.map]
  | ok out =>
    simp only [Except.map, Except.ok.injEq]
    constructor
    · rintro rfl
      exact String.toList_ofList.symm
    · rintro rfl
      exact String.ofList_toList

end Rulesheet.Utf8
