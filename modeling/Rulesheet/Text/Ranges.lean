/- Character classes given as ascending inclusive ranges of code points. -/
namespace Rulesheet.Text

abbrev Ranges := List (Nat × Nat)

/-- Membership of a character; the search stops at the first range that ends at or after it. -/
def Ranges.contains : Ranges → Char → Bool
  | [], _ => false
  | (lo, hi) :: rest, c => if hi < c.toNat then contains rest c else lo ≤ c.toNat

end Rulesheet.Text
