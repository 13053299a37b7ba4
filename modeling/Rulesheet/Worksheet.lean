import Rulesheet.Cell

/- Worksheets as grids of cells addressed from zero, and workbooks as sheets in order. Outside
   the grid every cell is empty; rows may differ in length. -/
namespace Rulesheet

structure Worksheet where
  name : String
  rows : List (List Cell)
  deriving DecidableEq, Repr

namespace Worksheet

def rowCount (w : Worksheet) : Nat := w.rows.length

def columnCount (w : Worksheet) : Nat := (w.rows.map List.length).foldl max 0

def lastRow (w : Worksheet) : Int := (w.rowCount : Int) - 1

def lastColumn (w : Worksheet) : Int := (w.columnCount : Int) - 1

def cell (w : Worksheet) (row col : Nat) : Cell := ((w.rows[row]?.getD [])[col]?).getD .empty

def cellAt (w : Worksheet) (row col : Int) : Cell :=
  if row < 0 ∨ col < 0 then .empty else w.cell row.toNat col.toNat

def text (w : Worksheet) (row col : Nat) : String := (w.cell row col).display

def text? (w : Worksheet) (row col : Nat) : Except ValueFault String := (w.cell row col).display?

def isLegible (w : Worksheet) (row col : Nat) : Bool := (w.cell row col).isLegible

theorem cell_of_rowCount_le (w : Worksheet) {row : Nat} (h : w.rowCount ≤ row) (col : Nat) :
    w.cell row col = .empty := by
  have : w.rows[row]? = none := List.getElem?_eq_none h
  simp [cell, this]

end Worksheet

structure Workbook where
  sheets : List Worksheet
  deriving DecidableEq, Repr

namespace Workbook

/-- A repeated name keeps its first place and takes the later sheet. -/
def put (w : Worksheet) : List Worksheet → List Worksheet
  | [] => [w]
  | v :: rest => if v.name = w.name then w :: rest else v :: put w rest

def ofSheets (sheets : List Worksheet) : Workbook := ⟨sheets.foldl (fun acc w => put w acc) []⟩

def names (b : Workbook) : List String := b.sheets.map Worksheet.name

def sheet? (b : Workbook) (name : String) : Option Worksheet := b.sheets.find? (·.name = name)

def has (b : Workbook) (name : String) : Bool := (b.sheet? name).isSome

theorem name_of_sheet? {b : Workbook} {name : String} {w : Worksheet}
    (h : b.sheet? name = some w) : w.name = name := by
  have := List.find?_some h
  simpa using this

end Workbook

def sheetNotFoundMessage (name : String) : String :=
  "Worksheet \"" ++ name ++ "\" not found in workbook"

end Rulesheet
