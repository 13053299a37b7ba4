import Rulesheet.Numeral
import Rulesheet.Text.Pieces
import Rulesheet.Worksheet.Frame
import Rulesheet.Worksheet.Serial
import Rulesheet.Worksheet.SheetName

/- Sheets as a workbook file stores them. A file knows no empty cells: gaps are blank texts, and
   rows and columns end with the last cell that is not blank. A column that reads as numbers or
   as truth values throughout becomes a column of those. -/
namespace Rulesheet.Stored

def errorCodes : List String :=
  ["#NULL!", "#DIV/0!", "#VALUE!", "#REF!", "#NAME?", "#NUM!", "#N/A"]

/-- Formulas are stored without a value, and the texts of cell errors as errors. Of a text the
    first 32767 characters are kept, and lines end in line feeds. -/
def ofText (s : String) : Cell :=
  if s.toList.head? = some '=' ∧ 1 < s.toList.length then .text ""
  else if errorCodes.contains s then .float .notANumber
  else .text (String.ofList (Text.unifyNewlines (s.toList.take 32767)))

/-- Nothing is stored of what is no number. An integral number is read as an integer. -/
def ofNumber (x : Binary64) : Cell :=
  match x with
  | .finite _ _ _ =>
    match (Serial.stored x).toInt? with
    | some n => .integer n
    | none => .float (Serial.stored x)
  | _ => .text ""

def ofCell : Cell → Cell
  | .empty | .noTime => .text ""
  | .text s => ofText s
  | .integer n => ofNumber (.ofInt n)
  | .float x => ofNumber x
  | .date d => Serial.dateTime ⟨d, ⟨0, 0, 0, 0⟩⟩
  | .dateTime t => Serial.dateTime t
  | .time t => Serial.time t
  | .boolean b => .boolean b
  | .duration n => Serial.duration n

def isBlank (c : Cell) : Bool := c = .text ""

def dropBlankEnd (row : List Cell) : List Cell := (row.reverse.dropWhile isBlank).reverse

def trimmed (rows : List (List Cell)) : List (List Cell) :=
  ((rows.map dropBlankEnd).reverse.dropWhile List.isEmpty).reverse

/-! Numbers written as text: blanks around, a sign, digits with an optional point and an optional
exponent. -/

def withoutSpace (s : List Char) : List Char :=
  ((s.dropWhile Numeral.isSpace).reverse.dropWhile Numeral.isSpace).reverse

def isInteger (s : List Char) : Bool :=
  let (_, ds) := Binary64.readSign (withoutSpace s)
  !ds.isEmpty && ds.all Char.isDigit

def float? (s : List Char) : Option Binary64 :=
  let (negative, rest) := Binary64.readSign (withoutSpace s)
  match Binary64.ofUnsignedLiteral? negative rest with
  | some x => some x
  | none => (Binary64.ofLiteral? s).filter (· ≠ .notANumber)

inductive Reading where
  | whole (n : Int)
  | float (x : Binary64)
  | flag (b : Bool)
  deriving DecidableEq, Repr

def Reading.ofText? (s : String) : Option Reading :=
  if isInteger s.toList then
    ((Numeral.integer 10 s).toOption.filter fun n => Frame.isSigned n || Frame.isUnsigned n).map
      .whole
  else (float? s.toList).map .float

def Reading.ofCell? : Cell → Option Reading
  | .integer n => some (.whole n)
  | .float x => some (.float x)
  | .boolean b => some (.flag b)
  | .text s => ofText? s
  | _ => none

def Reading.isHuge : Reading → Bool
  | .whole n => !Frame.isSigned n && !Frame.isUnsigned n
  | _ => false

def Reading.isFloat : Reading → Bool
  | .float _ => true
  | r => r.isHuge

def Reading.isFlag : Reading → Bool
  | .flag _ => true
  | _ => false

def Reading.isWhole : Reading → Bool
  | .whole _ => true
  | _ => false

def Reading.holdsInt (p : Int → Bool) : Reading → Bool
  | .whole n => p n
  | _ => false

/-- A number that only fits without a sign goes neither with a negative one nor with an error. -/
def Reading.clash (rs : List Reading) : Bool :=
  rs.any (holdsInt Frame.isUnsigned) &&
    rs.any fun r => r = .float .notANumber || holdsInt (fun n => Frame.isSigned n && n < 0) r

def Reading.asFloat : Reading → Cell
  | .whole n => .float (.ofInt n)
  | .float x => .float x
  | .flag b => .float (.ofInt (if b then 1 else 0))

def Reading.asWhole : Reading → Cell
  | .whole n => .integer n
  | .float x => .float x
  | .flag b => .integer (if b then 1 else 0)

def Reading.asFlag : Reading → Cell
  | .whole n => .integer n
  | .float x => .float x
  | .flag b => .boolean b

/-- Beside integers of more than 64 bits truth values say nothing. -/
def Reading.asHuge : Reading → Cell
  | .flag _ => .float .notANumber
  | r => r.asFloat

def Reading.conflict (rs : List Reading) : Bool :=
  clash rs || (rs.any isHuge && (rs.takeWhile fun r => !r.isHuge).any isFlag)

def Reading.columnOf (rs : List Reading) : List Cell :=
  if rs.any isHuge then rs.map asHuge
  else if rs.any isFloat then rs.map asFloat
  else if rs.any isWhole then rs.map asWhole
  else rs.map asFlag

def flag? : Cell → Option Cell
  | .boolean b => some (.boolean b)
  | .float .notANumber => some (.float .notANumber)
  | .text s =>
    if s = "true" ∨ s = "True" ∨ s = "TRUE" then some (.boolean true)
    else if s = "false" ∨ s = "False" ∨ s = "FALSE" then some (.boolean false)
    else none
  | _ => none

def numberOf : Cell → Cell
  | .boolean b => .integer (if b then 1 else 0)
  | c => c

def unified (cells : List Cell) : List Cell :=
  cells.map fun c => (cells.find? fun d => numberOf d = numberOf c).getD c

def flags (cells : List Cell) : List Cell :=
  match cells with
  | .boolean _ :: _ => cells
  | _ => (cells.mapM flag?).getD cells

/-- Numbers if all cells read as numbers, truth values if all read as those, else as stored. -/
def typed (cells : List Cell) : List Cell :=
  match cells.mapM Reading.ofCell? with
  | some rs => if Reading.conflict rs then cells else Reading.columnOf rs
  | none => flags (unified cells)

/-- A byte order mark goes, and with it the quotes around the text behind it. A quote that is not
    closed makes the text unreadable. -/
def withoutMark? (s : String) : Option String :=
  match s.toList with
  | '\ufeff' :: '"' :: rest =>
    let inner := rest.takeWhile (· ≠ '"')
    match rest.drop inner.length with
    | _ :: after => some (String.ofList (inner ++ after))
    | [] => none
  | '\ufeff' :: rest => some (String.ofList rest)
  | _ => some s

def unmarked? (grid : List (List Cell)) : Option (List (List Cell)) :=
  match grid with
  | (.text s :: row) :: more => (withoutMark? s).map fun t => (.text t :: row) :: more
  | _ => some grid

def rows? (grid : List (List Cell)) : Option (List (List Cell)) :=
  (unmarked? (Frame.pad (.text "") (trimmed (grid.map fun r => r.map ofCell)))).map
    (Frame.mapColumns typed)

def sheet? (w : Worksheet) : Option Worksheet := (rows? w.rows).map (.ofFrame w.name)

def named (sheets : List Worksheet) : List Worksheet :=
  (sheets.zip (SheetName.stored (sheets.map Worksheet.name))).map fun (w, name) => ⟨name, w.rows⟩

def workbook? (sheets : List Worksheet) (wanted : Option (List String)) : Option Workbook :=
  (((named (Workbook.ofSheets sheets).sheets).filter fun w =>
    match wanted with
    | none => true
    | some names => names.contains w.name).mapM sheet?).map .ofSheets

end Rulesheet.Stored
