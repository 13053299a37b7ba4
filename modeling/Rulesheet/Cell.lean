import Rulesheet.Binary64.Shortest
import Rulesheet.Calendar
import Rulesheet.Data.Fault
import Rulesheet.Text.Blank

/- Typed worksheet cells and their text. The display text is what every comparison and every
   document uses; the plain text keeps the point of integral floats and the case of booleans. An
   integer with more digits than are written has neither. -/
namespace Rulesheet

inductive Cell where
  | empty
  | boolean (value : Bool)
  | integer (value : Int)
  | float (value : Binary64)
  | text (value : String)
  | noTime
  | dateTime (value : DateTime)
  | date (value : Date)
  | time (value : TimeOfDay)
  | duration (microseconds : Int)
  deriving DecidableEq, Repr

namespace Cell

def isEmpty : Cell → Bool
  | empty => true
  | _ => false

def isMissing : Cell → Bool
  | empty => true
  | noTime => true
  | float .notANumber => true
  | _ => false

def integer? : Cell → Option Int
  | integer n => some n
  | float x => x.toInt?
  | _ => none

def isLegible (c : Cell) : Bool :=
  match c.integer? with
  | some n => n.natAbs < Binary64.pow10 digitLimit
  | none => true

def integerText (n : Int) : String :=
  if n.natAbs < Binary64.pow10 digitLimit then toString n else ""

/-- The text of a legible cell. -/
def display : Cell → String
  | empty => ""
  | noTime => ""
  | boolean b => if b then "TRUE" else "FALSE"
  | integer n => integerText n
  | float .notANumber => ""
  | float x => match x.toInt? with
    | some n => integerText n
    | none => x.text
  | text s => Text.trim s
  | dateTime t => t.displayText
  | date d => d.text
  | time t => t.text
  | duration n => durationText n

def plain : Cell → String
  | empty => ""
  | noTime => "NaT"
  | boolean b => if b then "True" else "False"
  | integer n => toString n
  | float x => x.text
  | text s => s
  | dateTime t => t.text
  | date d => d.text
  | time t => t.text
  | duration n => durationText n

def whenLegible (c : Cell) (text : String) : Except ValueFault String :=
  if c.isLegible then .ok text else .error .longInteger

def display? (c : Cell) : Except ValueFault String := c.whenLegible c.display

def plain? (c : Cell) : Except ValueFault String := c.whenLegible c.plain

end Cell
end Rulesheet
