import Rulesheet.Binary64

/- Decimal text of floating-point numbers with the fewest digits that read back. Among decimals
   of that many digits the nearest is taken, an exact tie going to the even last digit. -/
namespace Rulesheet.Binary64

structure Decimal where
  digits : Nat
  power : Int
  deriving DecidableEq, Repr

/-- The reals that round to `m · 2 ^ q`, as fractions over `4 · den`; the ends belong to the
    interval iff `closed`. -/
structure Interval where
  low : Nat
  mid : Nat
  high : Nat
  den : Nat
  closed : Bool

def Interval.around (m : Nat) (q : Int) : Interval :=
  let unit := if 0 ≤ q then pow2 q.toNat else 1
  { low := 4 * m * unit - (if m = pow2 52 ∧ -1074 < q then unit else 2 * unit)
    mid := 4 * m * unit
    high := 4 * m * unit + 2 * unit
    den := if 0 ≤ q then 1 else pow2 (-q).toNat
    closed := m % 2 = 0 }

def Interval.holds (i : Interval) (c : Nat) (power : Int) : Bool :=
  let up := pow10 power.toNat
  let down := pow10 (-power).toNat
  let x := 4 * i.den * c * up
  if i.closed then i.low * down ≤ x && x ≤ i.high * down
  else i.low * down < x && x < i.high * down

def Interval.neighbour? (i : Interval) (power : Int) : Option Nat :=
  let up := pow10 power.toNat
  let down := pow10 (-power).toNat
  let num := i.mid * down
  let den := 4 * i.den * up
  let c := num / den
  match i.holds c power, i.holds (c + 1) power with
  | false, false => none
  | true, false => some c
  | false, true => some (c + 1)
  | true, true =>
    let r := 2 * (num % den)
    if r < den then some c else if den < r then some (c + 1)
    else some (if c % 2 = 0 then c else c + 1)

def pointPosition (num den : Nat) : Int :=
  if den ≤ num then (Nat.toDigits 10 (num / den)).length
  else 1 - (leadingZeros 400 num : Nat)
where
  leadingZeros : Nat → Nat → Nat
    | 0, _ => 0
    | fuel + 1, n => if den ≤ n then 0 else leadingZeros fuel (10 * n) + 1

def withoutTrailingZeros (digits : Nat) (power : Int) : Nat → Decimal
  | 0 => ⟨digits, power⟩
  | fuel + 1 =>
    if digits % 10 = 0 ∧ digits ≠ 0 then withoutTrailingZeros (digits / 10) (power + 1) fuel
    else ⟨digits, power⟩

def shortestFrom (i : Interval) (point : Int) : Nat → Nat → Decimal
  | size, 0 => ⟨i.mid * pow10 size / (4 * i.den), -size⟩
  | size, fuel + 1 =>
    match i.neighbour? (point - size) with
    | some c => withoutTrailingZeros c (point - size) 20
    | none => shortestFrom i point (size + 1) fuel

/-- The shortest decimal that reads back as `m · 2 ^ q`; seventeen digits always do. -/
def shortest (m : Nat) (q : Int) : Decimal :=
  if m = 0 then ⟨0, 0⟩
  else
    let i := Interval.around m q
    shortestFrom i (pointPosition i.mid (4 * i.den)) 1 17

/-- Positional from `0.0001` up to sixteen digits before the point, with `.0` after an integer;
    else one digit before the point and an exponent of at least two digits. -/
def Decimal.text (d : Decimal) : String :=
  let ds := Nat.toDigits 10 d.digits
  let point : Int := ds.length + d.power
  if d.digits = 0 then "0.0"
  else if -4 < point ∧ point ≤ 16 then
    if point ≤ 0 then
      "0." ++ String.ofList (List.replicate (-point).toNat '0' ++ ds)
    else if ds.length ≤ point.toNat then
      String.ofList (ds ++ List.replicate (point.toNat - ds.length) '0') ++ ".0"
    else String.ofList (ds.take point.toNat ++ '.' :: ds.drop point.toNat)
  else
    let e := point - 1
    let mark := if e < 0 then "e-" else "e+"
    let width := if e.natAbs < 10 then "0" else ""
    let lead := match ds with
      | [] => []
      | [c] => [c]
      | c :: more => c :: '.' :: more
    String.ofList lead ++ mark ++ width ++ toString e.natAbs

def text : Binary64 → String
  | finite s m q => (if s then "-" else "") ++ (shortest m q).text
  | infinite s => if s then "-inf" else "inf"
  | notANumber => "nan"

end Rulesheet.Binary64
