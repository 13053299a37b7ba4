import Rulesheet.Text.Pieces
import Rulesheet.Worksheet

/- Header detection and the columns of declared fields. Source names are the names in the sheet's
   header row; logical names run parallel to them. A field without a column has none. -/
namespace Rulesheet

def position? [DecidableEq α] (a : α) : List α → Option Nat
  | [] => none
  | b :: rest => if b = a then some 0 else (position? a rest).map (· + 1)

theorem getElem?_of_position? [DecidableEq α] {a : α} {xs : List α} {i : Nat}
    (h : position? a xs = some i) : xs[i]? = some a := by
  induction xs generalizing i with
  | nil => simp [position?] at h
  | cons b rest ih =>
    unfold position? at h
    split at h
    · cases h; simp_all
    · obtain ⟨j, hj, rfl⟩ := Option.map_eq_some_iff.mp h
      simpa using ih hj

theorem position?_eq_none_iff [DecidableEq α] {a : α} {xs : List α} :
    position? a xs = none ↔ a ∉ xs := by
  induction xs with
  | nil => simp [position?]
  | cons b rest ih =>
    unfold position?
    by_cases same : b = a
    · simp [same]
    · simp [same, ih, Ne.symm same]

def Worksheet.headerRow (w : Worksheet) (anchor : String) : Nat :=
  let anchor := Text.trim anchor
  if anchor = "" then 0
  else ((List.range w.rowCount).find? fun r => w.text r 0 == anchor).getD 0

def Worksheet.header (w : Worksheet) (row : Nat) : List String :=
  (List.range w.columnCount).map (w.text row)

/-- Rows are looked at down to the anchor, and all of them for an anchor that is not there. -/
def Worksheet.anchorIsLegible (w : Worksheet) (anchor : String) : Bool :=
  let anchor := Text.trim anchor
  anchor = "" ||
    let found := (List.range w.rowCount).find? fun r => w.text r 0 == anchor
    (List.range ((found.map (· + 1)).getD w.rowCount)).all fun r => w.isLegible r 0

def Worksheet.headerIsLegible (w : Worksheet) (row : Nat) : Bool :=
  (List.range w.columnCount).all (w.isLegible row)

structure ColumnMap where
  headerRow : Nat
  sourceFields : List String
  logicalFields : List String
  columns : List (Option Nat)
  deriving DecidableEq, Repr

namespace ColumnMap

/-- Every source name finds the leftmost header cell that shows it. -/
def ofSheet (source logical : List String) (w : Worksheet) : ColumnMap :=
  let source := source.map Text.trim
  let row := match source with
    | [] => 0
    | anchor :: _ => w.headerRow anchor
  { headerRow := row
    sourceFields := source
    logicalFields := logical.map Text.trim
    columns := source.map fun name => position? name (w.header row) }

def areLegible (source : List String) (w : Worksheet) : Bool :=
  (match source with
    | [] => true
    | anchor :: _ => w.anchorIsLegible anchor) &&
  w.headerIsLegible (ofSheet source [] w).headerRow

def bySource (m : ColumnMap) (name : String) : Option Nat :=
  match position? (Text.trim name) m.sourceFields with
  | some i => (m.columns[i]?).join
  | none => none

/-- A logical name beyond the source names has no column. -/
def byLogical (m : ColumnMap) (name : String) : Option Nat :=
  match position? (Text.trim name) m.logicalFields with
  | some i => (m.columns[i]?).join
  | none => none

def resolve (m : ColumnMap) (names : List String) : List (Option Nat) := names.map m.byLogical

end ColumnMap
end Rulesheet
