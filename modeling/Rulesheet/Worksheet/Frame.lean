import Rulesheet.Worksheet

/- Frames: grids whose columns are typed as wholes. Short rows are padded, a numeric column that
   has gaps or fractions becomes binary64 throughout, a column of durations shows them with their
   days, and missing values become empty cells. Which numeric columns are kept from becoming binary64
   is a parameter. -/
namespace Rulesheet.Frame

def width (rows : List (List Cell)) : Nat := (rows.map List.length).foldl max 0

def padTo (n : Nat) (fill : Cell) (row : List Cell) : List Cell :=
  row ++ List.replicate (n - row.length) fill

def pad (fill : Cell) (rows : List (List Cell)) : List (List Cell) :=
  rows.map (padTo (width rows) fill)

def column (rows : List (List Cell)) (i : Nat) : List Cell := rows.map fun r => r[i]?.getD .empty

def mapColumns (f : List Cell → List Cell) (rows : List (List Cell)) : List (List Cell) :=
  let columns := (List.range (width rows)).map fun i => f (column rows i)
  (List.range rows.length).map fun r => columns.map fun cells => cells[r]?.getD .empty

def isNumeric : Cell → Bool
  | .empty | .integer _ | .float _ => true
  | _ => false

def needsFloat : Cell → Bool
  | .empty | .float _ => true
  | _ => false

def toFloat : Cell → Cell
  | .integer n => .float (.ofInt n)
  | c => c

def isSigned (n : Int) : Bool := -(Binary64.pow2 63 : Int) ≤ n && n < Binary64.pow2 63

/-- An integer of 64 bits that only fits without a sign. -/
def isUnsigned (n : Int) : Bool := Binary64.pow2 63 ≤ n && n < Binary64.pow2 64

def holdsInt (p : Int → Bool) : Cell → Bool
  | .integer n => p n
  | _ => false

/-- No integer column holds these: a number beyond 64 bits, or a negative one beside one that
    only fits without a sign. -/
def outgrowsIntegers (cells : List Cell) : Bool :=
  cells.any (holdsInt fun n => !isSigned n && !isUnsigned n) ||
    (cells.any (holdsInt fun n => isSigned n && n < 0) && cells.any (holdsInt isUnsigned))

def widen (keeps : List Cell → Bool) (cells : List Cell) : List Cell :=
  if cells.all isNumeric && cells.any needsFloat && !keeps cells then cells.map toFloat
  else cells

def isDuration : Cell → Bool
  | .duration _ => true
  | _ => false

def spellDuration : Cell → Cell
  | .duration n => .text (durationLongText n)
  | c => c

def isLongDuration : Cell → Bool
  | .duration n => Binary64.pow2 63 ≤ n.natAbs
  | _ => false

def spellDurations (cells : List Cell) : List Cell :=
  if cells.any isDuration && !cells.any isLongDuration &&
      cells.all fun c => isDuration c || c.isMissing then
    cells.map spellDuration
  else cells

def clear (c : Cell) : Cell := if c.isMissing then .empty else c

def normalised (keeps : List Cell → Bool) (rows : List (List Cell)) : List (List Cell) :=
  (mapColumns (spellDurations ∘ widen keeps) (pad .empty rows)).map fun r => r.map clear

end Rulesheet.Frame

namespace Rulesheet

def Worksheet.ofFrameBy (keeps : List Cell → Bool) (name : String) (rows : List (List Cell)) :
    Worksheet :=
  ⟨name, Frame.normalised keeps rows⟩

/-- Integers that outgrow an integer column keep the cells as they are. -/
def Worksheet.ofFrame (name : String) (rows : List (List Cell)) : Worksheet :=
  ofFrameBy Frame.outgrowsIntegers name rows

end Rulesheet
