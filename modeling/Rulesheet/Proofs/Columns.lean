import Mathlib.Order.Bounds.Basic
import Rulesheet.Columns
import Rulesheet.Proofs.Text.Pieces

/- What a column map finds on a sheet. The header row is the least row that shows the first source
   name, a column the least one of the header row that shows its name; names find their columns by
   the least place they are declared at. What is found is a column of the sheet with that header. -/
namespace Rulesheet

section

variable {α : Type} [DecidableEq α] {a : α} {xs : List α} {i : Nat}

theorem position?_le (here : xs[i]? = some a) : ∃ j ≤ i, position? a xs = some j := by
  induction xs generalizing i with
  | nil => simp at here
  | cons x xs ih =>
    rw [position?]
    by_cases same : x = a
    · exact ⟨0, Nat.zero_le i, if_pos same⟩
    · cases i with
      | zero => exact absurd (Option.some.inj here) same
      | succ i =>
        obtain ⟨j, le, found⟩ := ih here
        refine ⟨j + 1, Nat.succ_le_succ le, ?_⟩
        rw [if_neg same, found, Option.map_some]

theorem position?_eq_some_iff : position? a xs = some i ↔ IsLeast {j | xs[j]? = some a} i := by
  constructor
  · intro found
    refine ⟨getElem?_of_position? found, ?_⟩
    intro j here
    obtain ⟨k, le, first⟩ := position?_le here
    rw [found] at first
    exact Option.some.inj first ▸ le
  · intro least
    obtain ⟨j, le, found⟩ := position?_le least.1
    have above := least.2 (getElem?_of_position? found)
    rw [found, Nat.le_antisymm le above]

end

namespace Worksheet

variable {w : Worksheet} {anchor name : String} {row col : Nat}

theorem header_getElem? :
    (w.header row)[col]? = some name ↔ col < w.columnCount ∧ w.text row col = name := by
  rw [header, List.getElem?_map]
  by_cases inside : col < w.columnCount
  · rw [List.getElem?_range inside]
    simp [inside]
  · rw [List.getElem?_eq_none (by simpa using inside)]
    simp [inside]

def columnsOf (w : Worksheet) (row : Nat) (name : String) : Set Nat :=
  {col | col < w.columnCount ∧ w.text row col = name}

def rowsOf (w : Worksheet) (anchor : String) : Set Nat :=
  {row | row < w.rowCount ∧ w.text row 0 = anchor}

theorem position?_header_iff :
    position? name (w.header row) = some col ↔ IsLeast (w.columnsOf row name) col := by
  rw [position?_eq_some_iff]
  simp only [header_getElem?]
  rfl

theorem position?_header_eq_none_iff :
    position? name (w.header row) = none ↔ w.columnsOf row name = ∅ := by
  rw [position?_eq_none_iff, header, List.mem_map, Set.eq_empty_iff_forall_notMem]
  simp only [List.mem_range, not_exists]
  rfl

theorem headerRow_of_isLeast (named : Text.trim anchor ≠ "")
    (least : IsLeast (w.rowsOf (Text.trim anchor)) row) : w.headerRow anchor = row := by
  have found : ((List.range w.rowCount).find? fun r => w.text r 0 == Text.trim anchor) =
      some row := by
    rw [List.find?_range_eq_some, List.mem_range]
    refine ⟨by simpa using least.1.2, least.1.1, ?_⟩
    intro earlier before
    by_contra shown
    have := least.2 (show earlier ∈ w.rowsOf (Text.trim anchor) from
      ⟨Nat.lt_trans before least.1.1, by simpa using shown⟩)
    omega
  rw [headerRow]
  simp only [if_neg named, found, Option.getD_some]

theorem headerRow_of_absent
    (absent : Text.trim anchor ≠ "" → w.rowsOf (Text.trim anchor) = ∅) :
    w.headerRow anchor = 0 := by
  rw [headerRow]
  by_cases named : Text.trim anchor = ""
  · simp only [if_pos named]
  · have missing : ((List.range w.rowCount).find? fun r => w.text r 0 == Text.trim anchor) =
        none := by
      apply List.find?_eq_none.mpr
      intro row inside shown
      have member : row ∈ w.rowsOf (Text.trim anchor) :=
        ⟨List.mem_range.mp inside, by simpa using shown⟩
      rw [absent named] at member
      exact member
    simp only [if_neg named, missing, Option.getD_none]

end Worksheet

namespace ColumnMap

/-- Where a map has the declared names of a sheet. -/
structure Locates (m : ColumnMap) (source logical : List String) (w : Worksheet) : Prop where
  headerRow_least : ∀ anchor row, source.head? = some anchor → Text.trim anchor ≠ "" →
    IsLeast (w.rowsOf (Text.trim anchor)) row → m.headerRow = row
  headerRow_zero : (∀ anchor, source.head? = some anchor → Text.trim anchor ≠ "" →
    w.rowsOf (Text.trim anchor) = ∅) → m.headerRow = 0
  length_columns : m.columns.length = source.length
  column_least : ∀ (i : Nat) name col, source[i]? = some name →
    (m.columns[i]? = some (some col) ↔ IsLeast (w.columnsOf m.headerRow (Text.trim name)) col)
  column_none : ∀ (i : Nat) name, source[i]? = some name →
    (m.columns[i]? = some none ↔ w.columnsOf m.headerRow (Text.trim name) = ∅)
  bySource_declared : ∀ (i : Nat) name declared, source[i]? = some declared →
    Text.trim declared = Text.trim name → m.columns[i]? = some (m.bySource name)
  bySource_undeclared : ∀ name, Text.trim name ∉ source.map Text.trim → m.bySource name = none
  byLogical_paired : ∀ i name, IsLeast {p | (logical.map Text.trim)[p]? = some (Text.trim name)} i →
    i < source.length → m.columns[i]? = some (m.byLogical name)
  byLogical_unpaired : ∀ name,
    (∀ i, IsLeast {p | (logical.map Text.trim)[p]? = some (Text.trim name)} i →
      source.length ≤ i) → m.byLogical name = none
  column_shows : ∀ (i : Nat) name col, source[i]? = some name →
    m.columns[i]? = some (some col) →
      col < w.columnCount ∧ w.text m.headerRow col = Text.trim name
  bySource_shows : ∀ name col, m.bySource name = some col →
    Text.trim name ∈ source.map Text.trim ∧ col < w.columnCount ∧
      w.text m.headerRow col = Text.trim name
  byLogical_shows : ∀ name col, m.byLogical name = some col →
    ∃ (i : Nat) (declared : String), (logical.map Text.trim)[i]? = some (Text.trim name) ∧
      source[i]? = some declared ∧ col < w.columnCount ∧
      w.text m.headerRow col = Text.trim declared

variable {source logical : List String} {w : Worksheet} {name : String} {i : Nat}

theorem headerRow_ofSheet (anchor : String) (more : List String) :
    (ofSheet (anchor :: more) logical w).headerRow = w.headerRow (Text.trim anchor) := by
  simp only [ofSheet, List.map_cons]

theorem ofSheet_eq (source logical : List String) (w : Worksheet) :
    ofSheet source logical w =
      { headerRow := (ofSheet source logical w).headerRow
        sourceFields := source.map Text.trim
        logicalFields := logical.map Text.trim
        columns := (source.map Text.trim).map fun name =>
          position? name (w.header (ofSheet source logical w).headerRow) } := rfl

theorem headerRow_of_head {anchor : String} (first : source.head? = some anchor) :
    (ofSheet source logical w).headerRow = w.headerRow (Text.trim anchor) := by
  obtain ⟨more, rfl⟩ := List.head?_eq_some_iff.mp first
  exact headerRow_ofSheet anchor more

/-- The column of a name as the header has it, declared or not. -/
def columnFor (m : ColumnMap) (w : Worksheet) (name : String) : Option Nat :=
  position? (Text.trim name) (w.header m.headerRow)

theorem columns_getElem? (i : Nat) : (ofSheet source logical w).columns[i]? =
    source[i]?.map ((ofSheet source logical w).columnFor w) := by
  rw [ofSheet_eq, List.map_map, List.getElem?_map]
  rfl

theorem columnFor_eq_some_iff {m : ColumnMap} {col : Nat} :
    m.columnFor w name = some col ↔ IsLeast (w.columnsOf m.headerRow (Text.trim name)) col :=
  Worksheet.position?_header_iff

theorem columnFor_eq_none_iff {m : ColumnMap} :
    m.columnFor w name = none ↔ w.columnsOf m.headerRow (Text.trim name) = ∅ :=
  Worksheet.position?_header_eq_none_iff

theorem columnFor_congr {m : ColumnMap} {declared : String}
    (same : Text.trim declared = Text.trim name) : m.columnFor w declared = m.columnFor w name := by
  rw [columnFor, columnFor, same]

theorem bySource_of_mem (declared : Text.trim name ∈ source.map Text.trim) :
    (ofSheet source logical w).bySource name = (ofSheet source logical w).columnFor w name := by
  have present : position? (Text.trim name) (source.map Text.trim) ≠ none :=
    mt position?_eq_none_iff.mp (not_not.mpr declared)
  obtain ⟨i, place⟩ := Option.ne_none_iff_exists'.mp present
  have at_i := getElem?_of_position? place
  rw [List.getElem?_map] at at_i
  obtain ⟨found, here, same⟩ := Option.map_eq_some_iff.mp at_i
  have fields : (ofSheet source logical w).sourceFields = source.map Text.trim := rfl
  rw [bySource, fields, place]
  simp only [columns_getElem?, here, Option.map_some, Option.join_some]
  exact columnFor_congr same

theorem bySource_of_not_mem (undeclared : Text.trim name ∉ source.map Text.trim) :
    (ofSheet source logical w).bySource name = none := by
  have fields : (ofSheet source logical w).sourceFields = source.map Text.trim := rfl
  rw [bySource, fields, position?_eq_none_iff.mpr undeclared]

theorem byLogical_eq_join (first : position? (Text.trim name) (logical.map Text.trim) = some i) :
    (ofSheet source logical w).byLogical name = ((ofSheet source logical w).columns[i]?).join := by
  have fields : (ofSheet source logical w).logicalFields = logical.map Text.trim := rfl
  rw [byLogical, fields, first]

theorem byLogical_of_none (absent : position? (Text.trim name) (logical.map Text.trim) = none) :
    (ofSheet source logical w).byLogical name = none := by
  have fields : (ofSheet source logical w).logicalFields = logical.map Text.trim := rfl
  rw [byLogical, fields, absent]

theorem byLogical_eq_some {col : Nat} (found : (ofSheet source logical w).byLogical name = some col) :
    ∃ (i : Nat) (declared : String), (logical.map Text.trim)[i]? = some (Text.trim name) ∧
      source[i]? = some declared ∧
      (ofSheet source logical w).columnFor w declared = some col := by
  cases first : position? (Text.trim name) (logical.map Text.trim) with
  | none => rw [byLogical_of_none first] at found; contradiction
  | some i =>
    rw [byLogical_eq_join first, columns_getElem?] at found
    cases here : source[i]? with
    | none => rw [here] at found; contradiction
    | some declared =>
      rw [here, Option.map_some, Option.join_some] at found
      exact ⟨i, declared, getElem?_of_position? first, here, found⟩

/-- On every sheet, a map locates its names by the least row and the least columns that show
    them. -/
theorem ofSheet_locates (source logical : List String) (w : Worksheet) :
    (ofSheet source logical w).Locates source logical w where
  headerRow_least := by
    intro anchor row first named least
    rw [headerRow_of_head first]
    rw [← Text.trim_trim] at named least
    exact Worksheet.headerRow_of_isLeast named least
  headerRow_zero := by
    intro absent
    cases first : source.head? with
    | none =>
      rw [List.head?_eq_none_iff.mp first]
      rfl
    | some anchor =>
      rw [headerRow_of_head first]
      apply Worksheet.headerRow_of_absent
      rw [Text.trim_trim]
      exact absent anchor first
  length_columns := by simp [ofSheet]
  column_least := by
    intro i name col here
    rw [columns_getElem?, here, Option.map_some, Option.some.injEq, columnFor_eq_some_iff]
  column_none := by
    intro i name here
    rw [columns_getElem?, here, Option.map_some, Option.some.injEq, columnFor_eq_none_iff]
  bySource_declared := by
    intro i name declared here same
    have member : Text.trim name ∈ source.map Text.trim :=
      same ▸ List.mem_map_of_mem (List.mem_of_getElem? here)
    rw [columns_getElem?, here, Option.map_some, bySource_of_mem member, columnFor_congr same]
  bySource_undeclared := fun _ undeclared => bySource_of_not_mem undeclared
  byLogical_paired := by
    intro i name first inside
    rw [byLogical_eq_join (position?_eq_some_iff.mpr first), columns_getElem?,
      List.getElem?_eq_getElem inside, Option.map_some, Option.join_some]
  byLogical_unpaired := by
    intro name beyond
    cases first : position? (Text.trim name) (logical.map Text.trim) with
    | none => exact byLogical_of_none first
    | some i =>
      have outside := beyond i (position?_eq_some_iff.mp first)
      rw [byLogical_eq_join first, columns_getElem?, List.getElem?_eq_none outside]
      rfl
  column_shows := by
    intro i name col here found
    rw [columns_getElem?, here, Option.map_some, Option.some.injEq] at found
    exact (columnFor_eq_some_iff.mp found).1
  bySource_shows := by
    intro name col found
    by_cases declared : Text.trim name ∈ source.map Text.trim
    · rw [bySource_of_mem declared] at found
      exact ⟨declared, (columnFor_eq_some_iff.mp found).1⟩
    · rw [bySource_of_not_mem declared] at found
      contradiction
  byLogical_shows := by
    intro name col found
    obtain ⟨i, declared, place, here, column⟩ := byLogical_eq_some found
    exact ⟨i, declared, place, here, (columnFor_eq_some_iff.mp column).1⟩

example :
    ofSheet [" Key", "Offer", "Line", "Key"] ["K", "O"]
      ⟨"Rules", [[.text "Title"], [.text "Key ", .text "Offer", .text "Offer"]]⟩ =
      ⟨1, ["Key", "Offer", "Line", "Key"], ["K", "O"], [some 0, some 1, none, some 0]⟩ := by
  decide

end ColumnMap
end Rulesheet
