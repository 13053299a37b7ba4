/- Binary floating point of double precision as exact data: sign, significand and power of two.
   Rounding is to nearest with ties to the even significand, computed in unbounded Nat.
   No machine float takes part. -/
namespace Rulesheet

/-- `finite negative m q` stands for `± m · 2 ^ q`, where `m` has 53 bits or `q` is the least
    exponent, -1074. -/
inductive Binary64 where
  | finite (negative : Bool) (significand : Nat) (exponent : Int)
  | infinite (negative : Bool)
  | notANumber
  deriving DecidableEq, Repr

namespace Binary64

def pow2 (n : Nat) : Nat := Nat.pow 2 n

def pow10 (n : Nat) : Nat := Nat.pow 10 n

def zero : Binary64 := finite false 0 (-1074)

/-- The quotient to the nearest integer, a half to the even one. -/
def roundQuotient (num den : Nat) : Nat :=
  let n := num / den
  let r := num % den
  if 2 * r < den then n
  else if den < 2 * r then n + 1
  else if n % 2 = 0 then n else n + 1

def scaled (num den : Nat) (q : Int) : Nat × Nat :=
  if 0 ≤ q then (num, den * pow2 q.toNat) else (num * pow2 (-q).toNat, den)

/-- The exponent under which `num / den` has 53 bits before the point, or the least one. -/
def exponentOf (num den : Nat) : Int :=
  let low := (num.log2 : Int) - den.log2 - 53
  let (n, d) := scaled num den low
  max (-1074) (if n / d < pow2 53 then low else low + 1)

def ofRatio (negative : Bool) (num den : Nat) : Binary64 :=
  if num = 0 ∨ den = 0 then finite negative 0 (-1074)
  else
    let q := exponentOf num den
    let (n, d) := scaled num den q
    let m := roundQuotient n d
    let (m, q) := if m = pow2 53 then (pow2 52, q + 1) else (m, q)
    if 971 < q then infinite negative else finite negative m q

def ofInt (n : Int) : Binary64 := ofRatio (n < 0) n.natAbs 1

/-- `± digits · 10 ^ power`. Far outside the range no power is computed. -/
def ofDecimal (negative : Bool) (digits : Nat) (power : Int) : Binary64 :=
  let size := (Nat.toDigits 10 digits).length
  if digits = 0 then finite negative 0 (-1074)
  else if 400 < power + size then infinite negative
  else if power + size < -400 then finite negative 0 (-1074)
  else if 0 ≤ power then ofRatio negative (digits * pow10 power.toNat) 1
  else ofRatio negative digits (pow10 (-power).toNat)

def magnitude? : Binary64 → Option (Nat × Nat)
  | finite _ m q => some (if 0 ≤ q then (m * pow2 q.toNat, 1) else (m, pow2 (-q).toNat))
  | _ => none

def isNegative : Binary64 → Bool
  | finite s _ _ => s
  | infinite s => s
  | notANumber => false

def toInt? (x : Binary64) : Option Int :=
  match x.magnitude? with
  | some (num, den) =>
    if num % den = 0 then
      let n : Int := (num / den : Nat)
      some (if x.isNegative then -n else n)
    else none
  | none => none

def digitValue (c : Char) : Nat := c.toNat - '0'.toNat

def natOfDigits (ds : List Char) : Nat := ds.foldl (fun n c => 10 * n + digitValue c) 0

def readSign : List Char → Bool × List Char
  | '-' :: rest => (true, rest)
  | '+' :: rest => (false, rest)
  | rest => (false, rest)

def ofUnsignedLiteral? (negative : Bool) (s : List Char) : Option Binary64 :=
  let whole := s.takeWhile Char.isDigit
  let rest := s.dropWhile Char.isDigit
  let (fraction, rest) := match rest with
    | '.' :: r => (r.takeWhile Char.isDigit, r.dropWhile Char.isDigit)
    | r => ([], r)
  let digits := natOfDigits (whole ++ fraction)
  let power : Int := -(fraction.length : Int)
  if whole.isEmpty && fraction.isEmpty then none
  else match rest with
    | [] => some (ofDecimal negative digits power)
    | e :: r =>
      let (down, r) := readSign r
      if (e == 'e' || e == 'E') && !r.isEmpty && r.all Char.isDigit then
        let n : Int := natOfDigits r
        some (ofDecimal negative digits (power + if down then -n else n))
      else none

def ofLiteral? (s : List Char) : Option Binary64 :=
  let (negative, rest) := readSign s
  let word := String.ofList (rest.map Char.toLower)
  if word = "inf" ∨ word = "infinity" then some (infinite negative)
  else if word = "nan" then some notANumber
  else ofUnsignedLiteral? negative rest

end Binary64
end Rulesheet
