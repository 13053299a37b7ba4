import Rulesheet.Binary64
import Rulesheet.Text.Digit
import Rulesheet.Text.Lower

/- Names of the sheets in a workbook file. No two of them may be equal when case is ignored; a name
   that is taken goes on with a number. -/
namespace Rulesheet.SheetName

def defaultName : String := "Sheet"

def sameLetter (c d : Char) : Bool :=
  Text.lower (String.singleton c) = Text.lower (String.singleton d)

def startsWith : List Char → List Char → Bool
  | [], _ => true
  | c :: name, d :: rest => sameLetter c d && startsWith name rest
  | _ :: _, [] => false

/-- The greatest number behind an occurrence of a name, from a place on where `skip` characters
    belong to an earlier one. -/
def highest (name : List Char) : Nat → List Char → Nat
  | _, [] => 0
  | skip + 1, _ :: rest => highest name skip rest
  | 0, c :: rest =>
    if startsWith name (c :: rest) then
      let digits := ((c :: rest).drop name.length).takeWhile Text.isDecimal
      let n := digits.foldl (fun n d => 10 * n + (Text.digit? d).getD 0) 0
      max n (highest name (name.length - 1 + digits.length) rest)
    else highest name 0 rest

def available (taken : List String) (name : String) : String :=
  let name := if name = "" then defaultName else name
  if taken.any fun other => Text.lower other = Text.lower name then
    name ++ toString (highest name.toList 0 (",".intercalate taken).toList + 1)
  else name

def stored (names : List String) : List String :=
  names.foldl (fun taken name => taken ++ [available taken name]) []

end Rulesheet.SheetName
