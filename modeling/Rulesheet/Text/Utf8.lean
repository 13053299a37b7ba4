import Rulesheet.Text.Quoted

/- UTF-8, without shortcuts and without surrogates: decoding, and what cannot be encoded. The first
   fault is named with its place. -/
namespace Rulesheet

inductive DecodeFault where
  | invalidStart
  | invalidContinuation
  | unexpectedEnd
  deriving DecidableEq, Repr

def DecodeFault.description : DecodeFault → String
  | invalidStart => "invalid start byte"
  | invalidContinuation => "invalid continuation byte"
  | unexpectedEnd => "unexpected end of data"

/-- `count` bytes from `position` on begin a character and do not complete it. -/
structure DecodeError where
  fault : DecodeFault
  position : Nat
  count : Nat
  first : UInt8
  deriving DecidableEq, Repr

def DecodeError.message (e : DecodeError) : String :=
  let place := if e.count = 1 then
      "byte 0x" ++ String.ofList (Text.hexDigits 2 e.first.toNat) ++ " in position " ++
        toString e.position
    else "bytes in position " ++ toString e.position ++ "-" ++
      toString (e.position + e.count - 1)
  "'utf-8' codec can't decode " ++ place ++ ": " ++ e.fault.description

/-- From `position` on, `count` halves of surrogate pairs have no bytes; `first` is the code of the
    first of them. -/
structure EncodeError where
  position : Nat
  count : Nat
  first : Nat
  deriving DecidableEq, Repr

def EncodeError.message (e : EncodeError) : String :=
  let place := if e.count = 1 then
      "character '\\u" ++ String.ofList (Text.hexDigits 4 e.first) ++ "' in position " ++
        toString e.position
    else "characters in position " ++ toString e.position ++ "-" ++
      toString (e.position + e.count - 1)
  "'utf-8' codec can't encode " ++ place ++ ": surrogates not allowed"

namespace Utf8

def followers? (b : Nat) : Option Nat :=
  if b < 0x80 then some 0
  else if 0xC2 ≤ b ∧ b < 0xE0 then some 1
  else if 0xE0 ≤ b ∧ b < 0xF0 then some 2
  else if 0xF0 ≤ b ∧ b < 0xF5 then some 3
  else none

def fitsSecond (first b : Nat) : Bool :=
  if first = 0xE0 then 0xA0 ≤ b && b < 0xC0
  else if first = 0xED then 0x80 ≤ b && b < 0xA0
  else if first = 0xF0 then 0x90 ≤ b && b < 0xC0
  else if first = 0xF4 then 0x80 ≤ b && b < 0x90
  else 0x80 ≤ b && b < 0xC0

def fitsLater (b : Nat) : Bool := 0x80 ≤ b && b < 0xC0

/-- How many of the following bytes fit, the second byte having a range of its own. -/
def fitting (first : Nat) : List Nat → Nat
  | [] => 0
  | b :: rest =>
    if fitsSecond first b then 1 + (rest.takeWhile fitsLater).length else 0

def leadBits (first followers : Nat) : Nat :=
  if followers = 0 then first
  else if followers = 1 then first - 0xC0
  else if followers = 2 then first - 0xE0
  else first - 0xF0

def decodeFrom (position : Nat) : Nat → List Nat → List Char → Except DecodeError (List Char)
  | _, [], acc => .ok acc.reverse
  | 0, _ :: _, acc => .ok acc.reverse
  | fuel + 1, b :: rest, acc =>
    match followers? b with
    | none => .error ⟨.invalidStart, position, 1, b.toUInt8⟩
    | some n =>
      let next := rest.take n
      let fit := fitting b next
      if fit < n then
        let fault := if fit = rest.length then .unexpectedEnd else .invalidContinuation
        .error ⟨fault, position, fit + 1, b.toUInt8⟩
      else
        let code := next.foldl (fun c x => c * 64 + (x - 0x80)) (leadBits b n)
        decodeFrom (position + n + 1) fuel (rest.drop n) (Char.ofNat code :: acc)

def decode (bytes : List UInt8) : Except DecodeError String :=
  (decodeFrom 0 bytes.length (bytes.map UInt8.toNat) []).map String.ofList

def isHalf (c : Char) : Bool := (Text.surrogate? c).isSome

/-- A byte outside ASCII that is no part of a character stands in a file name as the half of a
    pair. -/
def standsForByte (c : Char) : Bool :=
  match Text.surrogate? c with
  | some code => 0xDC80 ≤ code && code < 0xDD00
  | none => false

/-- The first half that is not spared. With it all halves behind it are at fault. -/
def encodeFault? (spared : Char → Bool) (position : Nat) : List Char → Option EncodeError
  | [] => none
  | c :: rest =>
    match Text.surrogate? c, spared c with
    | some code, false => some ⟨position, 1 + (rest.takeWhile isHalf).length, code⟩
    | _, _ => encodeFault? spared (position + 1) rest

def textFault? (s : String) : Option EncodeError := encodeFault? (fun _ => false) 0 s.toList

def nameFault? (s : String) : Option EncodeError := encodeFault? standsForByte 0 s.toList

def nameSize (s : String) : Nat :=
  s.toList.foldr (fun c size => (if standsForByte c then 1 else c.utf8Size) + size) 0

end Utf8

end Rulesheet
