import Rulesheet.Log
import Rulesheet.Text.Pieces
import Rulesheet.Text.Quoted

/- Default values of a list block: groups `container,field,marker,value` with bars between them.
   A group without a marker, or whose field is not an element name, is dropped. Fields are trimmed
   before they are looked at, since the test of a name lets a final line feed by. -/
namespace Rulesheet

structure DefaultValue where
  container : String
  field : String
  marker : String
  value : String
  deriving DecidableEq, Repr

namespace DefaultValue

/-- The marker that keeps a default out of the document, also as a value. -/
def suppressed : String := "-"

def literal (d : DefaultValue) : String := if d.value = "" then d.marker else d.value

def emitted (d : DefaultValue) : Bool :=
  d.field ≠ "" ∧ d.marker ≠ suppressed ∧ d.literal ≠ "" ∧ d.literal ≠ suppressed

def isElementName (name : String) : Bool :=
  match name.toList with
  | [] => false
  | c :: rest =>
    (c.isAlpha || c == '_') && rest.all fun c => c.isAlphanum || c == '.' || c == '_' || c == '-'

/-- An element name, or one with a line feed behind it. -/
def fitsName (field : String) : Bool :=
  isElementName (String.ofList (Text.withoutFinalNewline field.toList))

inductive Group where
  | tooShort
  | invalidName (field : String)
  | entry (value : DefaultValue)
  deriving DecidableEq, Repr

def Group.ofParts : List String → Group
  | container :: field :: marker :: more =>
    if field = "" ∨ fitsName field then .entry ⟨container, field, marker, more.headD ""⟩
    else .invalidName field
  | _ => .tooShort

def Group.value? : Group → Option DefaultValue
  | .entry d => some d
  | _ => none

def Group.warning? : Group → Option LogEntry
  | .invalidName field =>
    some (.warning ("default value skipped: invalid element name " ++ Text.quoted field))
  | _ => none

def groups (spec : String) : List Group :=
  (Text.cut '|' spec).map fun group => .ofParts ((Text.cut ',' group).map Text.trim)

def parse (spec : String) : List DefaultValue := (groups spec).filterMap Group.value?

def warnings (spec : String) : List LogEntry := (groups spec).filterMap Group.warning?

end DefaultValue
end Rulesheet
