import Rulesheet.Proofs.Binary64
import Rulesheet.Proofs.Displayed
import Rulesheet.Worksheet.Frame

/- Sheets that come through frames. Of the cells that are empty or hold a truth value, a text or an
   integer, a frame changes integers only, in columns of integers with a gap, and what it shows for
   them is the integer that 53 binary digits hold next to theirs. So the texts of a grid are kept
   exactly if no such column has an integer that does not fit, whatever the rule is by which columns
   are kept from widening. -/
namespace Rulesheet

def Cell.isPlain : Cell → Bool
  | empty | boolean _ | integer _ | text _ => true
  | _ => false

namespace Frame

/-- Columns that become floating-point numbers: integers beside at least one gap, if no rule keeps
    them. -/
structure Widens (keeps : List Cell → Bool) (cells : List Cell) : Prop where
  numeric : ∀ cell ∈ cells, cell = .empty ∨ ∃ n, cell = .integer n
  gap : .empty ∈ cells
  free : keeps cells = false

def widenedText (n : Int) : String :=
  if Binary64.rounded n.natAbs < Binary64.bound then toString (Binary64.roundedInt n)
  else if n < 0 then "-inf" else "inf"

variable {keeps : List Cell → Bool} {rows : List (List Cell)} {cells : List Cell} {row col : Nat} {name : String}

theorem column_pad (rows : List (List Cell)) (col : Nat) :
    column (pad .empty rows) col = column rows col := by
  rw [pad, column, List.map_map, column]
  apply List.map_congr_left
  intro cells _
  simp only [Function.comp_apply, padTo]
  by_cases inside : col < cells.length
  · rw [List.getElem?_append_left inside]
  · rw [List.getElem?_append_right (by omega), List.getElem?_replicate,
      List.getElem?_eq_none (by omega : cells.length ≤ col)]
    split
    · rfl
    · rfl

theorem length_le_width (member : cells ∈ rows) : cells.length ≤ width (pad .empty rows) := by
  have padded : padTo (width rows) .empty cells ∈ pad .empty rows := List.mem_map_of_mem member
  have wide : (padTo (width rows) .empty cells).length ≤ width (pad .empty rows) :=
    Worksheet.le_foldl_max (Or.inl (List.mem_map_of_mem padded))
  have longer : cells.length ≤ (padTo (width rows) .empty cells).length := by
    simp only [padTo, List.length_append]
    omega
  omega

theorem getElem?_column (rows : List (List Cell)) (row col : Nat) :
    (column rows col)[row]?.getD .empty = ((rows[row]?.getD [])[col]?).getD .empty := by
  rw [column, List.getElem?_map]
  cases rows[row]? with
  | none => rfl
  | some cells => rfl

theorem cell_mapColumns (f : List Cell → List Cell) (inside : row < rows.length) :
    (((mapColumns f rows)[row]?.getD [])[col]?).getD .empty =
      if col < width rows then (f (column rows col))[row]?.getD .empty else .empty := by
  rw [mapColumns, List.getElem?_map, List.getElem?_range inside]
  simp only [Option.map_some, Option.getD_some, List.getElem?_map]
  by_cases narrow : col < width rows
  · rw [List.getElem?_range narrow, if_pos narrow]
    rfl
  · rw [List.getElem?_eq_none (by simpa using narrow), if_neg narrow]
    rfl

theorem display?_clear (cell : Cell) : (clear cell).display? = cell.display? := by
  unfold clear
  split
  · rename_i missing
    cases cell with
    | float x => cases x <;> first | rfl | contradiction
    | empty | noTime => rfl
    | _ => contradiction
  · rfl

theorem isPlain_column (plain : ∀ cells ∈ rows, ∀ cell ∈ cells, cell.isPlain = true) :
    ∀ cell ∈ column rows col, cell.isPlain = true := by
  intro cell member
  obtain ⟨cells, listed, rfl⟩ := List.mem_map.mp member
  cases found : cells[col]? with
  | none => rfl
  | some cell => exact plain cells listed cell (List.mem_of_getElem? found)

theorem any_holdsInt {p : Int → Bool} :
    cells.any (holdsInt p) = false ↔ ∀ n, .integer n ∈ cells → p n = false := by
  rw [List.any_eq_false]
  constructor
  · intro none n member
    simpa [holdsInt] using none (.integer n) member
  · intro none cell member
    cases cell with
    | integer n => simp [holdsInt, none n member]
    | _ => simp [holdsInt]

theorem isSigned_iff {n : Int} : isSigned n = true ↔ -2 ^ 63 ≤ n ∧ n < 2 ^ 63 := by
  have power : (Binary64.pow2 63 : Int) = 2 ^ 63 := rfl
  simp only [isSigned, power, Bool.and_eq_true, decide_eq_true_eq]

theorem isUnsigned_iff {n : Int} : isUnsigned n = true ↔ 2 ^ 63 ≤ n ∧ n < 2 ^ 64 := by
  have low : (Binary64.pow2 63 : Int) = 2 ^ 63 := rfl
  have high : (Binary64.pow2 64 : Int) = 2 ^ 64 := rfl
  simp only [isUnsigned, low, high, Bool.and_eq_true, decide_eq_true_eq]

theorem outgrowsIntegers_iff : outgrowsIntegers cells = false ↔
    (∀ n, .integer n ∈ cells → -2 ^ 63 ≤ n ∧ n < 2 ^ 63) ∨
      ∀ n, .integer n ∈ cells → 0 ≤ n ∧ n < 2 ^ 64 := by
  have typed (n : Int) : (!isSigned n && !isUnsigned n) = false ↔
      (-2 ^ 63 ≤ n ∧ n < 2 ^ 63) ∨ (2 ^ 63 ≤ n ∧ n < 2 ^ 64) := by
    rw [Bool.and_eq_false_iff, Bool.not_eq_false', Bool.not_eq_false', isSigned_iff,
      isUnsigned_iff]
  have negative (n : Int) : (isSigned n && decide (n < 0)) = false ↔
      ¬((-2 ^ 63 ≤ n ∧ n < 2 ^ 63) ∧ n < 0) := by
    rw [← Bool.not_eq_true, Bool.and_eq_true, isSigned_iff, decide_eq_true_eq]
  have large (n : Int) : isUnsigned n = false ↔ ¬(2 ^ 63 ≤ n ∧ n < 2 ^ 64) := by
    rw [← Bool.not_eq_true, isUnsigned_iff]
  rw [outgrowsIntegers, Bool.or_eq_false_iff, Bool.and_eq_false_iff, any_holdsInt, any_holdsInt,
    any_holdsInt]
  simp only [typed, negative, large]
  constructor
  · intro holds
    obtain ⟨typed, unmixed⟩ := holds
    rcases unmixed with positive | small
    · right
      intro n member
      have := typed n member
      have := positive n member
      omega
    · left
      intro n member
      have := typed n member
      have := small n member
      omega
  · intro fits
    rcases fits with signed | unsigned
    · refine ⟨fun n member => .inl (signed n member), .inr ?_⟩
      intro n member
      have := signed n member
      omega
    · refine ⟨?_, .inl ?_⟩
      · intro n member
        have := unsigned n member
        omega
      · intro n member
        have := unsigned n member
        omega

theorem widens_iff (plain : ∀ cell ∈ cells, cell.isPlain = true) :
    (cells.all isNumeric && cells.any needsFloat && !keeps cells) = true ↔
      Widens keeps cells := by
  have numeric : cells.all isNumeric = true ↔
      ∀ cell ∈ cells, cell = .empty ∨ ∃ n, cell = .integer n := by
    rw [List.all_eq_true]
    apply forall₂_congr
    intro cell member
    have := plain cell member
    cases cell <;> simp_all [isNumeric, Cell.isPlain]
  have gap : cells.any needsFloat = true ↔ .empty ∈ cells := by
    rw [List.any_eq_true]
    constructor
    · intro some
      obtain ⟨cell, member, float⟩ := some
      have := plain cell member
      cases cell <;> simp_all [needsFloat, Cell.isPlain]
    · intro member
      exact ⟨.empty, member, rfl⟩
  rw [Bool.and_eq_true, Bool.and_eq_true, numeric, gap, Bool.not_eq_true']
  constructor
  · intro holds
    exact ⟨holds.1.1, holds.1.2, holds.2⟩
  · intro widens
    exact ⟨⟨widens.numeric, widens.gap⟩, widens.free⟩

theorem not_isDuration_widen (plain : ∀ cell ∈ cells, cell.isPlain = true) :
    (widen keeps cells).any isDuration = false := by
  have none : ∀ cell ∈ cells, isDuration cell = false ∧ isDuration (toFloat cell) = false := by
    intro cell member
    have := plain cell member
    cases cell <;> simp_all [isDuration, toFloat, Cell.isPlain]
  rw [List.any_eq_false, widen]
  intro cell member
  split at member
  · obtain ⟨before, listed, rfl⟩ := List.mem_map.mp member
    simp [none before listed]
  · simp [none cell member]

theorem spellDurations_widen (plain : ∀ cell ∈ cells, cell.isPlain = true) :
    spellDurations (widen keeps cells) = widen keeps cells := by
  rw [spellDurations, not_isDuration_widen plain]
  rfl

theorem widen_of_widens (plain : ∀ cell ∈ cells, cell.isPlain = true)
    (widens : Widens keeps cells) : spellDurations (widen keeps cells) = cells.map toFloat := by
  rw [spellDurations_widen plain, widen, if_pos ((widens_iff plain).mpr widens)]

theorem widen_of_not_widens (plain : ∀ cell ∈ cells, cell.isPlain = true)
    (kept : ¬Widens keeps cells) : spellDurations (widen keeps cells) = cells.map id := by
  rw [spellDurations_widen plain, widen, if_neg (mt (widens_iff plain).mp kept), List.map_id]

theorem getD_map {α β : Type} (f : α → β) (xs : List α) (i : Nat) {a : α} {b : β}
    (same : f a = b) : (xs.map f)[i]?.getD b = f (xs[i]?.getD a) := by
  rw [List.getElem?_map]
  cases xs[i]? with
  | none => exact same.symm
  | some x => rfl

theorem cell_normalised (rows : List (List Cell)) (row col : Nat) :
    (((normalised keeps rows)[row]?.getD [])[col]?).getD .empty =
      clear ((((mapColumns (spellDurations ∘ widen keeps) (pad .empty rows))[row]?.getD
        [])[col]?).getD .empty) := by
  have blank : clear .empty = .empty := rfl
  have none : [].map clear = [] := rfl
  rw [normalised, getD_map (List.map clear) _ row none, getD_map clear _ col blank]

theorem rowCount_ofFrameBy (keeps : List Cell → Bool) (name : String) (rows : List (List Cell)) :
    (Worksheet.ofFrameBy keeps name rows).rowCount = rows.length := by
  simp [Worksheet.ofFrameBy, Worksheet.rowCount, normalised, mapColumns, pad]

theorem text?_ofFrameBy {change : Cell → Cell} (name : String) (blank : change .empty = .empty)
    (cells : spellDurations (widen keeps (column rows col)) = (column rows col).map change) :
    (Worksheet.ofFrameBy keeps name rows).text? row col =
      (change ((Worksheet.mk name rows).cell row col)).display? := by
  by_cases inside : row < rows.length
  · have padded : row < (pad .empty rows).length := by
      simpa only [pad, List.length_map] using inside
    change Cell.display? ((((normalised keeps rows)[row]?.getD [])[col]?).getD .empty) = _
    rw [cell_normalised, display?_clear, cell_mapColumns _ padded, column_pad,
      Function.comp_apply, cells, getD_map change _ row blank, getElem?_column]
    -- behind the end of its row a column is padded
    split
    · rfl
    · rename_i wide
      have beyond : (rows[row]?.getD [])[col]? = none := by
        rw [List.getElem?_eq_getElem inside, Option.getD_some]
        have short := length_le_width (List.getElem_mem inside)
        exact List.getElem?_eq_none (by omega)
      rw [Worksheet.cell, beyond, Option.getD_none, blank]
  · have count := rowCount_ofFrameBy keeps name rows
    rw [Worksheet.text?, Worksheet.cell_of_rowCount_le _ (by omega),
      Worksheet.cell_of_rowCount_le _ (Nat.le_of_not_lt inside), blank]

/-! What is shown for an integer that became a floating-point number. -/

theorem two_pow_le_pow10 {i j : Nat} (short : i ≤ j) : 2 ^ i ≤ Binary64.pow10 j :=
  Nat.le_trans (Nat.pow_le_pow_right (by decide) short) (Nat.pow_le_pow_left (by decide) j)

theorem display?_integer {n : Int} (small : n.natAbs < Binary64.bound) :
    (Cell.integer n).display? = .ok (toString n) := by
  have legible : n.natAbs < Binary64.pow10 digitLimit := by
    rw [Binary64.bound_eq rfl] at small
    exact Nat.lt_of_lt_of_le small (two_pow_le_pow10 (by decide))
  simp only [Cell.display?, Cell.whenLegible, Cell.isLegible, Cell.integer?, Cell.display,
    Cell.integerText, legible, decide_true, if_true]

theorem display?_toFloat (n : Int) :
    (toFloat (.integer n)).display? = .ok (widenedText n) := by
  unfold widenedText
  split
  · rename_i small
    have size : (Binary64.roundedInt n).natAbs < Binary64.bound := by
      rwa [Binary64.natAbs_roundedInt]
    rw [toFloat, display?_float (Binary64.toInt?_ofInt small), display?_integer size]
  · rename_i large
    rw [toFloat, Binary64.ofInt_of_bound_le (Nat.le_of_not_lt large)]
    by_cases negative : n < 0 <;> simp only [negative] <;> rfl

theorem toString_ne_infinite (n : Int) : toString n ≠ "inf" ∧ toString n ≠ "-inf" := by
  have absent : 'n' ∉ (toString n).toList := by
    intro member
    rcases Text.mem_toString member with digit | sign
    · exact absurd digit (by decide)
    · exact absurd sign (by decide)
  constructor
  · intro same
    exact absent (same ▸ by decide)
  · intro same
    exact absent (same ▸ by decide)

theorem widenedText_iff (n : Int) : .ok (widenedText n) = (Cell.integer n).display? ↔
    Binary64.Holds n.natAbs ∧ n.natAbs < Binary64.bound := by
  constructor
  · intro same
    have written : (Cell.integer n).display? = .ok (toString n) := by
      rw [Cell.display?, Cell.whenLegible] at same ⊢
      split at same
      · rename_i legible
        rw [if_pos legible, Cell.display, Cell.integerText]
        simp only [Cell.isLegible, Cell.integer?, decide_eq_true_eq] at legible
        rw [if_pos legible]
      · cases same
    rw [written, Except.ok.injEq, widenedText] at same
    split at same
    · rename_i small
      rw [Int.toString_eq_repr, Int.toString_eq_repr, Int.repr_inj] at same
      have held := (Binary64.roundedInt_eq_iff n).mp same
      rw [(Binary64.rounded_eq_iff _).mpr held] at small
      exact ⟨held, small⟩
    · obtain ⟨positive, negative⟩ := toString_ne_infinite n
      split at same
      · exact absurd same.symm negative
      · exact absurd same.symm positive
  · rintro ⟨held, small⟩
    have whole : Binary64.rounded n.natAbs = n.natAbs := (Binary64.rounded_eq_iff _).mpr held
    rw [display?_integer small, widenedText, whole, if_pos small,
      (Binary64.roundedInt_eq_iff n).mpr held]

end Frame

namespace Worksheet
open Rulesheet.Frame Rulesheet.Binary64

variable {keeps : List Cell → Bool} {rows : List (List Cell)} {name : String} {row col : Nat}
  {n : Int}

theorem text?_of_integer (plain : ∀ cells ∈ rows, ∀ cell ∈ cells, cell.isPlain = true)
    (widens : Widens keeps (column rows col)) (found : (mk name rows).cell row col = .integer n) :
    (ofFrameBy keeps name rows).text? row col = .ok (widenedText n) := by
  rw [text?_ofFrameBy name rfl (widen_of_widens (isPlain_column plain) widens), found,
    display?_toFloat]

theorem text?_of_other (plain : ∀ cells ∈ rows, ∀ cell ∈ cells, cell.isPlain = true)
    (other : ∀ n, (mk name rows).cell row col = .integer n → ¬Widens keeps (column rows col)) :
    (ofFrameBy keeps name rows).text? row col = (mk name rows).text? row col := by
  by_cases widens : Widens keeps (column rows col)
  · rw [text?_ofFrameBy name rfl (widen_of_widens (isPlain_column plain) widens), text?]
    cases found : (mk name rows).cell row col with
    | integer n => exact absurd widens (other n found)
    | _ => rfl
  · exact text?_ofFrameBy name rfl (widen_of_not_widens (isPlain_column plain) widens)

theorem text?_of_integer_iff (plain : ∀ cells ∈ rows, ∀ cell ∈ cells, cell.isPlain = true)
    (widens : Widens keeps (column rows col)) (found : (mk name rows).cell row col = .integer n) :
    (ofFrameBy keeps name rows).text? row col = (mk name rows).text? row col ↔
      Holds n.natAbs ∧ n.natAbs < bound := by
  rw [text?_of_integer plain widens found, text?, found, widenedText_iff]

def Fits (keeps : List Cell → Bool) (rows : List (List Cell)) : Prop :=
  ∀ row col n, (mk "" rows).cell row col = .integer n → Widens keeps (column rows col) →
    Holds n.natAbs ∧ n.natAbs < bound

theorem showsSame_iff_fits (plain : ∀ cells ∈ rows, ∀ cell ∈ cells, cell.isPlain = true) :
    (ofFrameBy keeps name rows).ShowsSame (mk name rows) ↔ Fits keeps rows := by
  constructor
  · intro same row col n found widens
    exact (text?_of_integer_iff plain widens found).mp (same.text row col).symm
  · intro fits
    refine ⟨(rowCount_ofFrameBy keeps name rows).symm, ?_⟩
    intro row col
    by_cases number : ∃ n, (mk name rows).cell row col = .integer n ∧
        Widens keeps (column rows col)
    · obtain ⟨n, found, widens⟩ := number
      exact ((text?_of_integer_iff plain widens found).mpr (fits row col n found widens)).symm
    · refine (text?_of_other plain ?_).symm
      intro n found widens
      exact number ⟨n, found, widens⟩

/-- Of a grid of plain cells, a frame keeps every text but those of integers in columns that widen.
    There it shows the integer rounded to, which is the same text exactly if 53 binary digits hold
    the integer and it is below 2^1024. So a frame shows the grid exactly if all such integers fit,
    and then no document changes. Integers up to 2^53 fit, and none that fits is nearer than the one
    shown. By its own rule a frame keeps a column whose integers no type of 64 bits holds together. -/
theorem frame_texts (keeps : List Cell → Bool) (name : String) (rows : List (List Cell))
    (plain : ∀ cells ∈ rows, ∀ cell ∈ cells, cell.isPlain = true) :
    (∀ row col, (∀ n, (mk name rows).cell row col = .integer n →
        ¬Widens keeps (column rows col)) →
      (ofFrameBy keeps name rows).text? row col = (mk name rows).text? row col) ∧
    (∀ row col n, (mk name rows).cell row col = .integer n → Widens keeps (column rows col) →
      (ofFrameBy keeps name rows).text? row col = .ok (widenedText n) ∧
      ((ofFrameBy keeps name rows).text? row col = (mk name rows).text? row col ↔
        Holds n.natAbs ∧ n.natAbs < bound)) ∧
    ((ofFrameBy keeps name rows).ShowsSame (mk name rows) ↔ Fits keeps rows) ∧
    (Fits keeps rows → ∀ (c : MacroConfig) (book : Workbook) (release : String) (s : Settings)
      (macroName : String), book.sheet? name = some (ofFrameBy keeps name rows) →
        executeMacro c (book.replace (mk name rows)) release s macroName =
          executeMacro c book release s macroName) ∧
    (∀ n g, Holds g → distance (rounded n) n ≤ distance g n) ∧
    (∀ n ≤ 2 ^ 53, Holds n ∧ n < bound) ∧
    (ofFrame name rows = ofFrameBy outgrowsIntegers name rows ∧
      ∀ cells, outgrowsIntegers cells = false ↔
        (∀ n, .integer n ∈ cells → -2 ^ 63 ≤ n ∧ n < 2 ^ 63) ∨
          ∀ n, .integer n ∈ cells → 0 ≤ n ∧ n < 2 ^ 64) := by
  refine ⟨?_, ?_, showsSame_iff_fits plain, ?_, ?_, ?_, rfl, fun _ => outgrowsIntegers_iff⟩
  · intro row col other
    exact text?_of_other plain other
  · intro row col n found widens
    exact ⟨text?_of_integer plain widens found, text?_of_integer_iff plain widens found⟩
  · intro fits c book release s macroName found
    have shows : (ofFrameBy keeps name rows).ShowsSame (mk name rows) :=
      (showsSame_iff_fits plain).mpr fits
    exact executeMacro_of_showsSame (Workbook.showsSame_replace found shows)
  · intro n g held
    exact rounded_nearest n held
  · intro n small
    exact ⟨holds_of_le small, lt_bound_of_le small⟩

/-! An integer of 54 binary digits above a gap; and one of 65 below a gap, in a column that the rule
    for integers that outgrow keeps. -/

def longNumbers : List (List Cell) :=
  [[.integer 9007199254740993, .text "first"], [.empty, .integer 9007199254740993]]

def outgrown : List (List Cell) := [[.empty], [.integer 18446744073709551617]]

theorem frame_texts_rounded :
    (∀ cells ∈ longNumbers, ∀ cell ∈ cells, cell.isPlain = true) ∧
    (mk "Rules" longNumbers).text? 0 0 = .ok "9007199254740993" ∧
    (ofFrame "Rules" longNumbers).text? 0 0 = .ok "9007199254740992" ∧
    (ofFrame "Rules" longNumbers).text? 1 1 = .ok "9007199254740993" ∧
    ¬(ofFrame "Rules" longNumbers).ShowsSame (mk "Rules" longNumbers) ∧
    (∀ cells ∈ outgrown, ∀ cell ∈ cells, cell.isPlain = true) ∧
    (ofFrame "Rules" outgrown).text? 1 0 = .ok "18446744073709551617" ∧
    (ofFrameBy (fun _ => false) "Rules" outgrown).text? 1 0 = .ok "18446744073709551616" := by
  have plain : ∀ cells ∈ longNumbers, ∀ cell ∈ cells, cell.isPlain = true := by decide
  have widens : Widens outgrowsIntegers (column longNumbers 0) :=
    ⟨by simp [column, longNumbers], by decide, by decide⟩
  have kept : ¬Widens outgrowsIntegers (column longNumbers 1) := by
    intro widens
    have text := widens.numeric (.text "first") (by decide)
    simp at text
  obtain ⟨other, integer, _⟩ := frame_texts outgrowsIntegers "Rules" longNumbers plain
  have grid : (mk "Rules" longNumbers).text? 0 0 = .ok "9007199254740993" := by decide +kernel
  have rounded : (ofFrame "Rules" longNumbers).text? 0 0 = .ok "9007199254740992" :=
    (integer 0 0 9007199254740993 rfl widens).1.trans (by decide +kernel)
  have lost : ¬(ofFrame "Rules" longNumbers).ShowsSame (mk "Rules" longNumbers) := by
    intro same
    have texts := same.text 0 0
    rw [grid, rounded] at texts
    exact absurd (Except.ok.inj texts) (by decide)
  have plain' : ∀ cells ∈ outgrown, ∀ cell ∈ cells, cell.isPlain = true := by decide
  have widens' : Widens (fun _ => false) (column outgrown 0) :=
    ⟨by simp [column, outgrown], by decide, rfl⟩
  have kept' : ¬Widens outgrowsIntegers (column outgrown 0) := by
    intro widens
    exact absurd widens.free (by decide)
  refine ⟨plain, grid, rounded, (other 1 1 fun _ _ => kept).trans (by decide +kernel), lost,
    plain', ?_, ?_⟩
  · exact ((frame_texts outgrowsIntegers "Rules" outgrown plain').1 1 0 fun _ _ => kept').trans
      (by decide +kernel)
  · exact ((frame_texts _ "Rules" outgrown plain').2.1 1 0 18446744073709551617 rfl widens').1.trans
      (by decide +kernel)

end Worksheet
end Rulesheet
