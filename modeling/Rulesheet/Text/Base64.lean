/- Base64 text: four digits of six bits make three bytes. Characters that are no digits are passed
   over, and padding that completes a group ends the text. -/
namespace Rulesheet.Base64

def digit? (c : Char) : Option Nat :=
  if 'A' ≤ c ∧ c ≤ 'Z' then some (c.toNat - 65)
  else if 'a' ≤ c ∧ c ≤ 'z' then some (c.toNat - 71)
  else if '0' ≤ c ∧ c ≤ '9' then some (c.toNat + 4)
  else if c = '+' then some 62
  else if c = '/' then some 63
  else none

/-- `filled` digits of a group have been read, of which `bits` are left over for the next byte. -/
structure Group where
  filled : Nat := 0
  bits : Nat := 0
  pads : Nat := 0

def Group.push (g : Group) (d : Nat) : Group × List UInt8 :=
  match g.filled with
  | 0 => (⟨1, d, 0⟩, [])
  | 1 => (⟨2, d % 16, 0⟩, [(4 * g.bits + d / 16).toUInt8])
  | 2 => (⟨3, d % 4, 0⟩, [(16 * g.bits + d / 4).toUInt8])
  | _ => ({}, [(64 * g.bits + d).toUInt8])

def decodeFrom (g : Group) : List Char → Option (List UInt8)
  | [] => if g.filled = 0 then some [] else none
  | c :: rest =>
    if c = '=' then
      if g.filled < 2 then decodeFrom g rest
      else if 4 ≤ g.filled + g.pads + 1 then some []
      else decodeFrom { g with pads := g.pads + 1 } rest
    else match digit? c with
      | none => decodeFrom g rest
      | some d => (decodeFrom (g.push d).1 rest).map ((g.push d).2 ++ ·)

def decode? (s : String) : Option (List UInt8) := decodeFrom {} s.toList

end Rulesheet.Base64
