import Rulesheet.Text.Pieces
import Rulesheet.Worksheet

/- Workbooks as text, for the program's own files: a line `sheet`, a tab and a name begins a sheet,
   and a line `row` with a tab before every cell adds a row to it. Cells are texts; an empty one is
   no cell. A text with any other line is no workbook. -/
namespace Rulesheet.Grid

inductive Line where
  | sheet (name : String)
  | row (cells : List String)
  deriving DecidableEq, Repr

def Line.ofString? (s : String) : Option Line :=
  match Text.cut '\t' s with
  | ["sheet", name] => some (.sheet name)
  | "row" :: cells => some (.row cells)
  | _ => none

def cell (s : String) : Cell := if s = "" then .empty else .text s

/-- Sheets are collected from the last line to the first; `rows` stand before their sheet is known. -/
def sheetsFrom : List Line → List (List Cell) × List Worksheet
  | [] => ([], [])
  | .row cells :: rest =>
    let (rows, sheets) := sheetsFrom rest
    (cells.map cell :: rows, sheets)
  | .sheet name :: rest =>
    let (rows, sheets) := sheetsFrom rest
    ([], ⟨name, rows⟩ :: sheets)

/-- The first line must begin a sheet; an empty line at the end does not count. -/
def read? (s : String) : Option (List Worksheet) := do
  let pieces := Text.cut '\n' s
  let lines ← (if pieces.getLast? = some "" then pieces.dropLast else pieces).mapM Line.ofString?
  match sheetsFrom lines with
  | ([], sheet :: sheets) => some (sheet :: sheets)
  | _ => none

end Rulesheet.Grid
