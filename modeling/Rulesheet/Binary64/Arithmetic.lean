import Rulesheet.Binary64

/- Sums, products and quotients of floating-point numbers. The exact result is formed as a fraction
   and rounded once. -/
namespace Rulesheet.Binary64

def fraction? (x : Binary64) : Option (Int × Nat) :=
  x.magnitude?.map fun (n, d) => (if x.isNegative then -(n : Int) else n, d)

def ofFraction (num : Int) (den : Nat) : Binary64 := ofRatio (num < 0) num.natAbs den

def isZero : Binary64 → Bool
  | finite _ m _ => m = 0
  | _ => false

/-- A sum of zeros is negative when both are; opposite infinities have no sum. -/
def add (x y : Binary64) : Binary64 :=
  match x, y, x.fraction?, y.fraction? with
  | notANumber, _, _, _ => notANumber
  | _, notANumber, _, _ => notANumber
  | infinite s, infinite t, _, _ => if s = t then infinite s else notANumber
  | infinite s, _, _, _ => infinite s
  | _, infinite s, _, _ => infinite s
  | _, _, some (n, d), some (m, e) =>
    if n = 0 ∧ m = 0 then finite (x.isNegative && y.isNegative) 0 (-1074)
    else ofFraction (n * e + m * d) (d * e)
  | _, _, _, _ => notANumber

def mul (x y : Binary64) : Binary64 :=
  let negative := x.isNegative != y.isNegative
  match x, y, x.magnitude?, y.magnitude? with
  | notANumber, _, _, _ => notANumber
  | _, notANumber, _, _ => notANumber
  | infinite _, _, _, _ => if y.isZero then notANumber else infinite negative
  | _, infinite _, _, _ => if x.isZero then notANumber else infinite negative
  | _, _, some (n, d), some (m, e) => ofRatio negative (n * m) (d * e)
  | _, _, _, _ => notANumber

def divNat (x : Binary64) (n : Nat) : Binary64 :=
  match x.magnitude? with
  | some (num, den) => ofRatio x.isNegative num (den * n)
  | none => x

def neg : Binary64 → Binary64
  | finite s m q => finite (!s) m q
  | infinite s => infinite (!s)
  | notANumber => notANumber

def floor? (x : Binary64) : Option Int := x.fraction?.map fun (n, d) => n.fdiv d

def nearestInt (num : Int) (den : Nat) : Int :=
  let n : Int := roundQuotient num.natAbs den
  if num < 0 then -n else n

def nearestInt? (x : Binary64) : Option Int := x.fraction?.map fun (n, d) => nearestInt n d

end Rulesheet.Binary64
