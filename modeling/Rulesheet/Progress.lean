import Rulesheet.Binary64

/- Progress over the macros of a run. The bar is there on a terminal only and until it is closed;
   the counters go on without it. -/
namespace Rulesheet

/-- A bar's counter and its texts; a description set later is followed by a colon. -/
structure ProgressBar where
  total : Int
  count : Nat
  description : String
  postfixText : Option String
  deriving DecidableEq, Repr

def ProgressBar.describe (b : ProgressBar) (s : String) : ProgressBar :=
  { b with description := if s = "" then "" else s ++ ": " }

structure Progress where
  total : Int
  description : String
  current : Nat
  executed : Nat
  enabled : Bool
  bar : Option ProgressBar
  deriving DecidableEq, Repr

namespace Progress

def start (total : Int) (description : String) (terminal : Bool) : Progress :=
  { total := total
    description := description
    current := 0
    executed := 0
    enabled := terminal
    bar := if terminal then some ⟨total, 0, description, none⟩ else none }

def startMacro (p : Progress) (name : String) : Progress :=
  { p with
    current := p.current + 1
    bar := p.bar.map fun b => b.describe (p.description ++ " (" ++ name ++ ")") }

def finishMacro (p : Progress) (executed : Bool) : Progress :=
  { p with
    executed := if executed then p.executed + 1 else p.executed
    bar := p.bar.map fun b => { b with count := b.count + 1 }.describe p.description }

def fractionText (n : Nat) : String :=
  if n % 100 = 0 then ""
  else if n % 10 = 0 then "." ++ toString (n / 10 % 10)
  else "." ++ toString (n / 10 % 10) ++ toString (n % 10)

def roundedText (n : Nat) : String :=
  let exact := ((Binary64.ofInt n).toInt?.getD n).natAbs
  let power := (Nat.toDigits 10 exact).length - 1
  let m := Binary64.roundQuotient exact (Binary64.pow10 (power - 2))
  let (m, power) := if m = 1000 then (100, power + 1) else (m, power)
  toString (m / 100) ++ fractionText m ++ "e+" ++ toString power

def countText (n : Int) : String :=
  let sign := if n < 0 then "-" else ""
  let full := toString n.natAbs
  let rounded := roundedText n.natAbs
  sign ++ (if 3 < full.length ∧ rounded.length < full.length then rounded else full)

def setCounts (p : Progress) (counts : List (String × Int)) : Progress :=
  let text := ", ".intercalate ((counts.mergeSort fun a b => a.1 ≤ b.1).map fun (name, n) =>
    name ++ "=" ++ countText n)
  { p with bar := p.bar.map fun b => { b with postfixText := some text } }

def close (p : Progress) : Progress := { p with bar := none }

end Progress
end Rulesheet
