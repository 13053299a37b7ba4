import Rulesheet.Binary64
import Rulesheet.Data.Fault
import Rulesheet.Text.Blank
import Rulesheet.Text.Digit

/- Numbers written out: integers in a base, and decimal fractions. The digits may be of any script,
   and blanks may stand around a number. -/
namespace Rulesheet.Numeral

def isSpace (c : Char) : Bool := c == ' ' || ('\t' ≤ c && c ≤ '\r')

def plainChar (c : Char) : Char :=
  if c.toNat < 127 then c
  else if Text.isBlank c then ' '
  else match Text.digit? c with
    | some n => Char.ofNat (48 + n)
    | none => '?'

def digitIn? (base : Nat) (c : Char) : Option Nat :=
  let n := if c.isDigit then some (c.toNat - 48)
    else if 'a' ≤ c ∧ c ≤ 'z' then some (c.toNat - 87)
    else if 'A' ≤ c ∧ c ≤ 'Z' then some (c.toNat - 55)
    else none
  n.filter (· < base)

def isDigitIn (base : Nat) (c : Char) : Bool := (digitIn? base c).isSome

def natIn (base : Nat) (ds : List Char) : Nat :=
  ds.foldl (fun n c => base * n + (digitIn? base c).getD 0) 0

def baseLetter? (base : Nat) : Option Char :=
  if base = 2 then some 'b' else if base = 8 then some 'o' else if base = 16 then some 'x'
  else none

def withoutBaseMark (base : Nat) (s : List Char) : List Char :=
  match s with
  | '0' :: c :: rest => if baseLetter? base = some c.toLower then rest else s
  | _ => s

/-- Only decimal digits are limited in number, and too many are reported before what follows
    them. -/
def integer (base : Nat) (text : String) : Except ValueFault Int :=
  let s := (text.toList.map plainChar).dropWhile isSpace
  let (negative, s) := Binary64.readSign s
  let s := withoutBaseMark base s
  let ds := s.takeWhile (isDigitIn base)
  let rest := s.dropWhile (isDigitIn base)
  if base = 10 ∧ digitLimit < ds.length then .error (.longNumeral ds.length)
  else if ds = [] ∨ !rest.all isSpace then .error (.noInteger base text)
  else
    let n : Int := natIn base ds
    .ok (if negative then -n else n)

def float (text : String) : Except ValueFault Binary64 :=
  let s := (text.toList.map plainChar).dropWhile isSpace
  match Binary64.ofLiteral? (s.reverse.dropWhile isSpace).reverse with
  | some x => .ok x
  | none => .error (.noFloat text)

end Rulesheet.Numeral
