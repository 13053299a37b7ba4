import Rulesheet.Numeral
import Rulesheet.Text.Pieces
import Rulesheet.Yaml.Timestamp

/- Kinds of YAML 1.1 nodes, and the kind of a scalar that has no tag, which its form decides. A form
   may have a line feed behind it. -/
namespace Rulesheet.Yaml

inductive Tag where
  | null
  | bool
  | int
  | float
  | binary
  | timestamp
  | omap
  | pairs
  | set
  | str
  | seq
  | map
  | merge
  | value
  | unknown
  deriving DecidableEq, Repr

namespace Tag

def names : List (String × Tag) :=
  [("null", null), ("bool", bool), ("int", int), ("float", float), ("binary", binary),
    ("timestamp", timestamp), ("omap", omap), ("pairs", pairs), ("set", set), ("str", str),
    ("seq", seq), ("map", map), ("merge", merge), ("value", value)]

def namespaceUri : String := "tag:yaml.org,2002:"

def ofUri (uri : String) : Tag :=
  ((names.find? fun (name, _) => namespaceUri ++ name = uri).map Prod.snd).getD unknown

/-! Forms of scalars. -/

def truthTexts : List String :=
  ["yes", "Yes", "YES", "no", "No", "NO", "true", "True", "TRUE", "false", "False", "FALSE",
    "on", "On", "ON", "off", "Off", "OFF"]

def nullTexts : List String := ["~", "null", "Null", "NULL"]

def isDigitOrLowLine (c : Char) : Bool := c.isDigit || c == '_'

def isNumeral (s : List Char) : Bool := s.head?.any Char.isDigit && s.all isDigitOrLowLine

def withoutSign (s : List Char) : List Char := (Binary64.readSign s).2

def isSixtieth (s : List Char) : Bool :=
  match s with
  | [a] => a.isDigit
  | [a, b] => '0' ≤ a && a ≤ '5' && b.isDigit
  | _ => false

def isSexagesimal (s : List Char) : Bool :=
  match Text.cutChars ':' s with
  | lead :: minute :: minutes => isNumeral lead && (minute :: minutes).all isSixtieth
  | _ => false

def isExponentOrEnd (s : List Char) : Bool :=
  match s with
  | [] => true
  | e :: sign :: ds =>
    (e == 'e' || e == 'E') && (sign == '+' || sign == '-') && !ds.isEmpty && ds.all Char.isDigit
  | _ => false

/-- Digits, a point and digits; a sign needs a digit before the point. -/
def isDecimal (s : List Char) : Bool :=
  let u := withoutSign s
  let whole := u.takeWhile isDigitOrLowLine
  match u.drop whole.length with
  | '.' :: rest =>
    let fraction := rest.takeWhile isDigitOrLowLine
    (isNumeral whole || (whole = [] && s = u && isNumeral fraction)) &&
      isExponentOrEnd (rest.drop fraction.length)
  | _ => false

def isSexagesimalFraction (s : List Char) : Bool :=
  match Text.cutChars '.' (withoutSign s) with
  | [whole, fraction] => isSexagesimal whole && fraction.all isDigitOrLowLine
  | _ => false

def isFloat (s : List Char) : Bool :=
  [".inf", ".Inf", ".INF"].contains (String.ofList (withoutSign s)) ||
    [".nan", ".NaN", ".NAN"].contains (String.ofList s) || isDecimal s || isSexagesimalFraction s

def isNumeralIn (base : Nat) (s : List Char) : Bool :=
  s ≠ [] && s.all fun c => Numeral.isDigitIn base c || c == '_'

def isInteger (s : List Char) : Bool :=
  match withoutSign s with
  | ['0'] => true
  | '0' :: 'b' :: ds => isNumeralIn 2 ds
  | '0' :: 'x' :: ds => isNumeralIn 16 ds
  | '0' :: ds => isNumeralIn 8 ds
  | ds => isNumeral ds || isSexagesimal ds

/-- The kind of a scalar by its form. What is written like an anchor is of no kind. -/
def ofForm (text : String) : Tag :=
  let s := Text.withoutFinalNewline text.toList
  let form := String.ofList s
  if text = "" then null
  else if truthTexts.contains form then bool
  else if isFloat s then float
  else if isInteger s then int
  else if form = "<<" then merge
  else if nullTexts.contains form then null
  else if Timestamp.isPlain s then timestamp
  else if form = "=" then value
  else if ["!", "&", "*"].contains form then unknown
  else str

end Tag
end Rulesheet.Yaml
