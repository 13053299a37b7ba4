import Mathlib.Data.List.Basic
import Rulesheet.Execution
import Rulesheet.Proofs.Scan

/- Sheets as lists of rows. What an execution takes from a row depends on the cells of that row
   alone, so that header rows, sequences and passes can be told from the rows without numbers. -/
namespace Rulesheet

def Worksheet.single (cells : List Cell) : Worksheet := ⟨"", [cells]⟩

def rowText (cells : List Cell) (col : Nat) : String := (cells[col]?.getD .empty).display

def cellIsLegible (cells : List Cell) (col : Nat) : Bool := (cells[col]?.getD .empty).isLegible

def upTo (p : α → Bool) : List α → List α
  | [] => []
  | x :: rest => if p x then [x] else x :: upTo p rest

theorem upTo_map (p : β → Bool) (f : α → β) (xs : List α) :
    upTo p (xs.map f) = (upTo (fun x => p (f x)) xs).map f := by
  induction xs with
  | nil => rfl
  | cons x rest ih =>
    rw [List.map_cons, upTo, upTo, ih]
    split <;> rfl

theorem upTo_range' (p : Nat → Bool) (start n : Nat) :
    upTo p (List.range' start n) =
      List.range' start ((((List.range' start n).find? p).map (· + 1 - start)).getD n) := by
  induction n generalizing start with
  | zero => rfl
  | succ n ih =>
    rw [List.range'_succ, upTo, List.find?_cons]
    cases here : p start with
    | true => simp
    | false =>
      rw [ih]
      cases found : (List.range' (start + 1) n).find? p with
      | none => simp [List.range'_succ]
      | some row =>
        have above := (List.mem_range'_1.mp (List.mem_of_find?_eq_some found)).1
        have length : row + 1 - start = row + 1 - (start + 1) + 1 := by omega
        simp [length, List.range'_succ]

/-- The rule of a row by itself, if the row qualifies and says something. -/
def rowRule? (l : Layout) (f : Filter) (inputs : List (Option Nat)) (cells : List Cell) :
    Option Triple :=
  let w := Worksheet.single cells
  if w.qualifies l f 0 ∧ (w.extract l inputs 0).isEmpty = false then some (w.extract l inputs 0)
  else none

namespace Worksheet

variable {w : Worksheet} {l : Layout} {f : Filter} {inputs : List (Option Nat)}
  {row : Nat} {cells : List Cell}

theorem text_single (cells : List Cell) (col : Nat) : (single cells).text 0 col = rowText cells col :=
  rfl

theorem text_of_row (at_row : w.rows[row]? = some cells) (col : Nat) :
    w.text row col = rowText cells col := by
  simp only [text, cell, at_row, rowText, Option.getD_some]

theorem qualifies_of_row (at_row : w.rows[row]? = some cells) :
    w.qualifies l f row = (single cells).qualifies l f 0 := by
  simp only [qualifies, text_of_row at_row, text_single]

theorem extract_of_row (at_row : w.rows[row]? = some cells) :
    w.extract l inputs row = (single cells).extract l inputs 0 := by
  have texts : w.text row = (single cells).text 0 := by
    funext col
    rw [text_of_row at_row, text_single]
  simp only [extract, joined, texts]

theorem drop_rows (w : Worksheet) (start : Nat) :
    w.rows.drop start =
      (List.range' start (w.rowCount - start)).map fun r => w.rows[r]?.getD [] := by
  apply List.ext_getElem?
  intro i
  rw [List.getElem?_drop, List.getElem?_map]
  by_cases inside : start + i < w.rowCount
  · rw [List.getElem?_range' (by omega), Nat.one_mul, Option.map_some,
      List.getElem?_eq_getElem inside, Option.getD_some]
  · rw [List.getElem?_eq_none (by simp only [rowCount] at inside; omega),
      List.getElem?_eq_none (by simp only [List.length_range']; omega), Option.map_none]

theorem rows_eq_map (w : Worksheet) :
    w.rows = (List.range w.rowCount).map fun r => w.rows[r]?.getD [] := by
  rw [List.range_eq_range']
  exact w.drop_rows 0

theorem triples_of_rows (start : Nat) :
    (w.ruleRows f l inputs start).map (w.extract l inputs) =
      (w.rows.drop start).filterMap (rowRule? l f inputs) := by
  rw [drop_rows, List.filterMap_map, ruleRows_eq, qualifyingRows, List.filter_filter]
  rw [← List.filterMap_eq_map, List.filterMap_filter]
  apply List.filterMap_congr
  intro r member
  have inside : r < w.rows.length := by
    have bounds := List.mem_range'_1.mp member
    simp only [rowCount] at bounds
    omega
  have at_row : w.rows[r]? = some (w.rows[r]?.getD []) := by
    rw [List.getElem?_eq_getElem inside, Option.getD_some]
  simp only [Function.comp_apply, rowRule?, ← qualifies_of_row at_row, ← extract_of_row at_row,
    Bool.and_eq_true, Bool.not_eq_eq_eq_not, Bool.not_true, and_comm]

theorem firstColumn_of_rows : w.firstColumn = w.rows.map fun cells => rowText cells 0 := by
  apply List.ext_getElem?
  intro r
  simp only [firstColumn, rowCount, List.getElem?_map]
  by_cases inside : r < w.rows.length
  · rw [List.getElem?_range inside, List.getElem?_eq_getElem inside, Option.map_some,
      Option.map_some, text_of_row (List.getElem?_eq_getElem inside)]
  · rw [List.getElem?_eq_none (by simpa using inside),
      List.getElem?_eq_none (by simpa using inside), Option.map_none, Option.map_none]

theorem headerRow_of_rows (anchor : String) :
    w.headerRow anchor = if Text.trim anchor = "" then 0
      else (w.rows.findIdx? fun cells => rowText cells 0 == Text.trim anchor).getD 0 := by
  unfold headerRow
  by_cases blank : Text.trim anchor = ""
  · simp [blank]
  · simp only [if_neg blank]
    congr 1
    apply Option.ext
    intro r
    rw [rowCount, List.find?_range_eq_some, List.findIdx?_eq_some_iff_getElem, List.mem_range]
    constructor
    · rintro ⟨shows, inside, before⟩
      refine ⟨inside, ?_, ?_⟩
      · rwa [text_of_row (List.getElem?_eq_getElem inside)] at shows
      · intro j earlier
        have inside_j := Nat.lt_trans earlier inside
        have refused := before j earlier
        rw [text_of_row (List.getElem?_eq_getElem inside_j)] at refused
        simpa using refused
    · rintro ⟨inside, shows, before⟩
      refine ⟨?_, inside, ?_⟩
      · rwa [text_of_row (List.getElem?_eq_getElem inside)]
      · intro j earlier
        have inside_j := Nat.lt_trans earlier inside
        rw [text_of_row (List.getElem?_eq_getElem inside_j)]
        simpa using before j earlier

/-! The same of the cells that are looked at. -/

theorem rowIsLegible_of_row (at_row : w.rows[row]? = some cells) :
    w.rowIsLegible l f inputs row = (single cells).rowIsLegible l f inputs 0 := by
  have cellsLegible : w.isLegible row = (single cells).isLegible 0 := by
    funext col
    simp only [isLegible, cell, at_row, single, List.getElem?_cons_zero]
  simp only [rowIsLegible, qualifies_of_row at_row, cellsLegible]

theorem scanIsLegible_of_rows (start : Nat) (token : String) :
    w.scanIsLegible start f l token = (w.rows.drop start).all fun cells =>
      (single cells).rowIsLegible l f (l.inputColumns token) 0 := by
  rw [drop_rows, List.all_map, scanIsLegible, Bool.eq_iff_iff, List.all_eq_true, List.all_eq_true]
  apply forall_congr'
  intro r
  apply imp_congr_right
  intro member
  have bounds := List.mem_range'_1.mp member
  have inside : r < w.rows.length := by
    simp only [rowCount] at bounds
    omega
  have at_row : w.rows[r]? = some (w.rows[r]?.getD []) := by
    rw [List.getElem?_eq_getElem inside, Option.getD_some]
  rw [rowIsLegible_of_row at_row, Function.comp_apply]

theorem firstColumn_isLegible_of_rows :
    ((List.range w.rowCount).all fun r => w.isLegible r 0) =
      w.rows.all fun cells => cellIsLegible cells 0 := by
  conv_rhs => rw [rows_eq_map, List.all_map]
  rfl

theorem anchorIsLegible_eq (w : Worksheet) (anchor : String) :
    w.anchorIsLegible anchor = (decide (Text.trim anchor = "") ||
      (upTo (fun r => w.text r 0 == Text.trim anchor) (List.range w.rowCount)).all
        fun r => w.isLegible r 0) := by
  rw [List.range_eq_range', upTo_range']
  simp only [anchorIsLegible, List.range_eq_range', Nat.sub_zero]

theorem anchorIsLegible_of_rows (anchor : String) :
    w.anchorIsLegible anchor = (decide (Text.trim anchor = "") ||
      (upTo (fun cells => rowText cells 0 == Text.trim anchor) w.rows).all
        fun cells => cellIsLegible cells 0) := by
  rw [anchorIsLegible_eq]
  conv_rhs => rw [rows_eq_map, upTo_map, List.all_map]
  rfl

theorem le_foldl_max {n start : Nat} {ns : List Nat} (within : n ∈ ns ∨ n ≤ start) :
    n ≤ ns.foldl max start := by
  induction ns generalizing start with
  | nil => simpa using within
  | cons m ns ih =>
    apply ih
    rcases within with member | small
    · rcases List.mem_cons.mp member with rfl | later
      · exact Or.inr (Nat.le_max_right start n)
      · exact Or.inl later
    · exact Or.inr (Nat.le_trans small (Nat.le_max_left start m))

theorem length_row_le (w : Worksheet) (row : Nat) :
    (w.rows[row]?.getD []).length ≤ w.columnCount := by
  cases at_row : w.rows[row]? with
  | none => exact Nat.zero_le _
  | some cells => exact le_foldl_max (Or.inl (List.mem_map_of_mem (List.mem_of_getElem? at_row)))

theorem all_isLegible_iff {cells : List Cell} :
    cells.all Cell.isLegible = true ↔ ∀ col, cellIsLegible cells col = true := by
  rw [List.all_eq_true]
  constructor
  · intro each col
    unfold cellIsLegible
    cases here : cells[col]? with
    | none => rfl
    | some cell => exact each cell (List.mem_of_getElem? here)
  · intro each cell member
    obtain ⟨col, here⟩ := List.mem_iff_getElem?.mp member
    have legible := each col
    rwa [cellIsLegible, here, Option.getD_some] at legible

theorem headerIsLegible_of_row (w : Worksheet) (row : Nat) :
    w.headerIsLegible row = (w.rows[row]?.getD []).all Cell.isLegible := by
  have width := length_row_le w row
  have cells : w.isLegible row = cellIsLegible (w.rows[row]?.getD []) := rfl
  rw [headerIsLegible, cells]
  generalize w.rows[row]?.getD [] = cells at width
  rw [Bool.eq_iff_iff, all_isLegible_iff, List.all_eq_true]
  constructor
  · intro each col
    by_cases inside : col < cells.length
    · exact each col (List.mem_range.mpr (Nat.lt_of_lt_of_le inside width))
    · rw [cellIsLegible, List.getElem?_eq_none (Nat.le_of_not_lt inside)]
      rfl
  · exact fun each col _ => each col

theorem header_of_row (w : Worksheet) (row : Nat) :
    w.header row = (w.rows[row]?.getD []).map Cell.display ++
      List.replicate (w.columnCount - (w.rows[row]?.getD []).length) "" := by
  have texts : w.text row = rowText (w.rows[row]?.getD []) := rfl
  have width := length_row_le w row
  rw [header, texts]
  generalize w.rows[row]?.getD [] = cells at width
  apply List.ext_getElem?
  intro col
  rw [List.getElem?_map]
  by_cases inside : col < cells.length
  · rw [List.getElem?_range (by omega), List.getElem?_append_left (by simpa using inside),
      List.getElem?_map, List.getElem?_eq_getElem inside, Option.map_some, Option.map_some,
      rowText, List.getElem?_eq_getElem inside, Option.getD_some]
  · rw [List.getElem?_append_right (by simpa using inside), List.length_map,
      List.getElem?_replicate]
    by_cases narrow : col < w.columnCount
    · rw [List.getElem?_range narrow, if_pos (by omega), Option.map_some, rowText,
        List.getElem?_eq_none (by omega)]
      rfl
    · rw [List.getElem?_eq_none (by simpa using narrow), if_neg (by omega), Option.map_none]

end Worksheet

theorem position?_append [DecidableEq α] {a : α} {xs ys : List α} (absent : a ∉ ys) :
    position? a (xs ++ ys) = position? a xs := by
  induction xs with
  | nil => exact position?_eq_none_iff.mpr absent
  | cons x xs ih => simp only [List.cons_append, position?, ih]

theorem position?_header {w : Worksheet} {row : Nat} {name : String} (named : name ≠ "") :
    position? name (w.header row) =
      position? name ((w.rows[row]?.getD []).map Cell.display) := by
  rw [Worksheet.header_of_row]
  apply position?_append
  intro member
  exact named (List.eq_of_mem_replicate member)

end Rulesheet
