import Rulesheet.Text.Pieces
import Rulesheet.Worksheet

/- The sequence of passes: the texts in the first column of a sheet, joined by semicolons. -/
namespace Rulesheet

def Worksheet.firstColumn (w : Worksheet) : List String :=
  (List.range w.rowCount).map fun r => w.text r 0

def Workbook.sequence (b : Workbook) (name : String) : String :=
  if name = "" then ""
  else match b.sheet? name with
    | some w => Text.join ";" (w.firstColumn.filter (· ≠ ""))
    | none => ""

def Workbook.sequenceIsLegible (b : Workbook) (name : String) : Bool :=
  name = "" ||
    match b.sheet? name with
    | some w => (List.range w.rowCount).all fun r => w.isLegible r 0
    | none => true

/-- One token a pass. The empty sequence is one pass without a token. -/
def sequenceTokens (sequence : String) : List String :=
  if sequence = "" then [""] else Text.cut ';' sequence

end Rulesheet
