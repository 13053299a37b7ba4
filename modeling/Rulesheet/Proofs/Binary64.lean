import Mathlib
import Rulesheet.Binary64

/- Integers as floating-point numbers. An integer goes to a nearest one of those that 53 binary
   digits and a power of two make, and stays as it is exactly if it is one of them; up to 2^53 all
   integers are. From 2^1024 on there are no numbers: what is rounded to there is infinite. -/
namespace Rulesheet.Binary64

/-- Natural numbers that a significand of 53 digits holds. -/
def Holds (n : Nat) : Prop := ∃ m k, m < 2 ^ 53 ∧ n = m * 2 ^ k

/-- The step between the numbers held that have as many binary digits as `n`. -/
def unit (n : Nat) : Nat := 2 ^ (n.log2 - 52)

/-- The number that `n` is rounded to, a half going to the even multiple of the step. -/
def rounded (n : Nat) : Nat := roundQuotient n (unit n) * unit n

def distance (a b : Nat) : Nat := a - b + (b - a)

theorem unit_pos (n : Nat) : 0 < unit n := Nat.two_pow_pos _

theorem roundQuotient_cases (num den : Nat) :
    roundQuotient num den = num / den ∧ 2 * (num % den) ≤ den ∨
      roundQuotient num den = num / den + 1 ∧ den ≤ 2 * (num % den) := by
  unfold roundQuotient
  simp only
  split
  · exact .inl ⟨rfl, by omega⟩
  · split
    · exact .inr ⟨rfl, by omega⟩
    · split
      · exact .inl ⟨rfl, by omega⟩
      · exact .inr ⟨rfl, by omega⟩

theorem roundQuotient_of_dvd {num den : Nat} (positive : 0 < den) (divides : den ∣ num) :
    roundQuotient num den * den = num := by
  have none : num % den = 0 := Nat.mod_eq_zero_of_dvd divides
  rcases roundQuotient_cases num den with ⟨down, _⟩ | ⟨_, half⟩
  · rw [down, Nat.div_mul_cancel divides]
  · omega

theorem roundQuotient_nearest {num den : Nat} (positive : 0 < den) (k : Nat) :
    distance (roundQuotient num den * den) num ≤ distance (k * den) num := by
  have split : den * (num / den) + num % den = num := Nat.div_add_mod num den
  have small : num % den < den := Nat.mod_lt num positive
  rw [Nat.mul_comm] at split
  -- a multiple is at or below that of the quotient, or at least one step above it
  have other : k * den ≤ num / den * den ∨ num / den * den + den ≤ k * den := by
    rcases Nat.lt_or_ge (num / den) k with high | low
    · have := Nat.mul_le_mul_right den (Nat.succ_le_of_lt high)
      rw [Nat.succ_mul] at this
      exact .inr this
    · exact .inl (Nat.mul_le_mul_right den low)
  unfold distance
  rcases roundQuotient_cases num den with ⟨down, half⟩ | ⟨up, half⟩
  · rw [down]
    omega
  · rw [up, Nat.add_mul, Nat.one_mul]
    omega

theorem lt_of_log2 (n : Nat) : n < 2 ^ 53 * unit n := by
  have bound : n < 2 ^ (n.log2 + 1) := Nat.lt_log2_self
  have within : 2 ^ (n.log2 + 1) ≤ 2 ^ (53 + (n.log2 - 52)) :=
    Nat.pow_le_pow_right (by decide) (by omega)
  rw [unit, ← Nat.pow_add]
  omega

theorem unit_dvd_of_holds {n g : Nat} (held : Holds g) (above : 2 ^ n.log2 ≤ g) : unit n ∣ g := by
  obtain ⟨m, k, short, rfl⟩ := held
  have step : n.log2 - 52 ≤ k := by
    apply Nat.le_of_not_lt
    intro beyond
    have product : m * 2 ^ k < 2 ^ 53 * 2 ^ k :=
      Nat.mul_lt_mul_of_pos_right short (Nat.two_pow_pos k)
    have power : 2 ^ 53 * 2 ^ k ≤ 2 ^ n.log2 := by
      rw [← Nat.pow_add]
      exact Nat.pow_le_pow_right (by decide) (by omega)
    omega
  exact Nat.dvd_trans (Nat.pow_dvd_pow 2 step) (Nat.dvd_mul_left _ m)

theorem holds_mul_unit {m n : Nat} (short : m ≤ 2 ^ 53) : Holds (m * unit n) := by
  by_cases full : m = 2 ^ 53
  · refine ⟨1, 53 + (n.log2 - 52), by decide, ?_⟩
    rw [full, unit, Nat.pow_add, Nat.one_mul]
  · exact ⟨m, n.log2 - 52, by omega, rfl⟩

theorem roundQuotient_le (n : Nat) : roundQuotient n (unit n) ≤ 2 ^ 53 := by
  have short : n / unit n < 2 ^ 53 := (Nat.div_lt_iff_lt_mul (unit_pos n)).mpr (lt_of_log2 n)
  rcases roundQuotient_cases n (unit n) with ⟨down, _⟩ | ⟨up, _⟩
  · omega
  · omega

theorem le_roundQuotient {n : Nat} (long : 52 ≤ n.log2) : 2 ^ 52 ≤ roundQuotient n (unit n) := by
  have nonzero : n ≠ 0 := by
    intro zero
    rw [zero] at long
    exact absurd long (by decide)
  have below : 2 ^ 52 * unit n ≤ n := by
    rw [unit, ← Nat.pow_add, Nat.add_sub_cancel' long]
    exact Nat.log2_self_le nonzero
  have least : 2 ^ 52 ≤ n / unit n := (Nat.le_div_iff_mul_le (unit_pos n)).mpr below
  rcases roundQuotient_cases n (unit n) with ⟨down, _⟩ | ⟨up, _⟩
  · omega
  · omega

theorem holds_rounded (n : Nat) : Holds (rounded n) := holds_mul_unit (roundQuotient_le n)

theorem rounded_of_dvd {n : Nat} (divides : unit n ∣ n) : rounded n = n :=
  roundQuotient_of_dvd (unit_pos n) divides

theorem rounded_of_short {n : Nat} (short : n.log2 ≤ 52) : rounded n = n := by
  have step : unit n = 1 := by
    rw [unit, Nat.sub_eq_zero_of_le short, Nat.pow_zero]
  exact rounded_of_dvd (step ▸ Nat.one_dvd n)

theorem rounded_eq_iff (n : Nat) : rounded n = n ↔ Holds n := by
  constructor
  · intro same
    exact same ▸ holds_rounded n
  · intro held
    by_cases zero : n = 0
    · subst zero
      rfl
    · exact rounded_of_dvd (unit_dvd_of_holds held (Nat.log2_self_le zero))

/-- No number held is nearer than the one rounded to. -/
theorem rounded_nearest {g : Nat} (n : Nat) (held : Holds g) :
    distance (rounded n) n ≤ distance g n := by
  by_cases large : 52 ≤ n.log2
  · have nonzero : n ≠ 0 := by
      intro zero
      rw [zero] at large
      exact absurd large (by decide)
    by_cases above : 2 ^ n.log2 ≤ g
    · obtain ⟨k, multiple⟩ := unit_dvd_of_holds held above
      rw [multiple, Nat.mul_comm]
      exact roundQuotient_nearest (unit_pos n) k
    · have power : 2 ^ 52 * unit n = 2 ^ n.log2 := by
        rw [unit, ← Nat.pow_add]
        congr 1
        omega
      have near : distance (rounded n) n ≤ distance (2 ^ 52 * unit n) n :=
        roundQuotient_nearest (unit_pos n) (2 ^ 52)
      have below : 2 ^ n.log2 ≤ n := Nat.log2_self_le nonzero
      rw [power] at near
      unfold rounded distance at *
      omega
  · rw [rounded_of_short (by omega)]
    simp [distance]

theorem holds_of_le {n : Nat} (small : n ≤ 2 ^ 53) : Holds n := by
  have held := holds_mul_unit (n := 0) small
  have step : unit 0 = 1 := by decide
  rwa [step, Nat.mul_one] at held

def roundedInt (n : Int) : Int := if n < 0 then -(rounded n.natAbs : Int) else rounded n.natAbs

theorem natAbs_roundedInt (n : Int) : (roundedInt n).natAbs = rounded n.natAbs := by
  unfold roundedInt
  split
  · omega
  · omega

theorem roundedInt_eq_iff (n : Int) : roundedInt n = n ↔ Holds n.natAbs := by
  rw [← rounded_eq_iff, roundedInt]
  split
  · omega
  · omega

theorem toInt?_finite (negative : Bool) (m k : Nat) :
    (finite negative m k).toInt? =
      some (if negative then -((m * 2 ^ k : Nat) : Int) else (m * 2 ^ k : Nat)) := by
  have whole : (0 : Int) ≤ k := by omega
  simp only [toInt?, magnitude?, if_pos whole, Nat.mod_one, Nat.div_one, if_true, isNegative,
    Int.toNat_natCast]
  rfl

theorem toInt?_fraction (negative : Bool) (n : Nat) {k : Nat} (positive : 0 < k) :
    (finite negative (n * 2 ^ k) (-k : Int)).toInt? = some (if negative then -(n : Int) else n) := by
  have part : ¬(0 : Int) ≤ -k := by omega
  have units : (-(-k : Int)).toNat = k := by omega
  have power : pow2 k = 2 ^ k := rfl
  simp only [toInt?, magnitude?, if_neg part, units, power, Nat.mul_mod_left,
    Nat.mul_div_cancel n (Nat.two_pow_pos k), if_true, isNegative]

theorem toInt?_zero {k : Nat} (positive : 0 < k) :
    (finite false 0 (-k : Int)).toInt? = some 0 := by
  have nothing := toInt?_fraction false 0 positive
  rwa [Nat.zero_mul] at nothing

theorem scaled_one (n : Nat) (k : Nat) : scaled n 1 k = (n, 2 ^ k) := by
  have whole : (0 : Int) ≤ k := by omega
  rw [scaled, if_pos whole, Nat.one_mul, Int.toNat_natCast]
  rfl

theorem scaled_one_neg (n : Nat) {k : Nat} (positive : 0 < k) :
    scaled n 1 (-k : Int) = (n * 2 ^ k, 1) := by
  have part : ¬(0 : Int) ≤ -k := by omega
  have units : (-(-k : Int)).toNat = k := by omega
  rw [scaled, if_neg part, units]
  rfl

theorem exponentOf_one {n : Nat} (nonzero : n ≠ 0) : exponentOf n 1 = (n.log2 : Int) - 52 := by
  have below : 2 ^ n.log2 ≤ n := Nat.log2_self_le nonzero
  have digits : ¬(scaled n 1 (n.log2 - 53)).1 / (scaled n 1 (n.log2 - 53)).2 < pow2 53 := by
    by_cases large : 53 ≤ n.log2
    · have low : (n.log2 : Int) - 53 = (n.log2 - 53 : Nat) := by omega
      have power : 2 ^ 53 * 2 ^ (n.log2 - 53) = 2 ^ n.log2 := by
        rw [← Nat.pow_add]
        congr 1
        omega
      rw [low, scaled_one, Nat.not_lt, Nat.le_div_iff_mul_le (Nat.two_pow_pos _)]
      exact Nat.le_trans (Nat.le_of_eq power) below
    · have low : (n.log2 : Int) - 53 = -((53 - n.log2 : Nat) : Int) := by omega
      have power : 2 ^ n.log2 * 2 ^ (53 - n.log2) = 2 ^ 53 := by
        rw [← Nat.pow_add]
        congr 1
        omega
      rw [low, scaled_one_neg n (by omega), Nat.div_one, Nat.not_lt]
      exact Nat.le_trans (Nat.le_of_eq power.symm) (Nat.mul_le_mul_right _ below)
  have one : (Nat.log2 1 : Int) = 0 := by decide
  simp only [exponentOf, one, Int.sub_zero, if_neg digits]
  omega

theorem ofRatio_eq (negative : Bool) {n : Nat} (nonzero : n ≠ 0) :
    ofRatio negative n 1 =
      let (num, den) := scaled n 1 ((n.log2 : Int) - 52)
      let (m, q) := if roundQuotient num den = 2 ^ 53 then (2 ^ 52, (n.log2 : Int) - 52 + 1)
        else (roundQuotient num den, (n.log2 : Int) - 52)
      if 971 < q then infinite negative else finite negative m q := by
  have given : ¬(n = 0 ∨ 1 = 0) := by omega
  rw [ofRatio, if_neg given, exponentOf_one nonzero]
  rfl

def bound : Nat := 2 ^ 1024

theorem bound_eq {k : Nat} (whole : 1024 = k) : bound = 2 ^ k := by
  subst whole
  exact Eq.refl bound

theorem mul_two_pow_lt {m i : Nat} (least : 2 ^ i ≤ m) (short : m < 2 ^ (i + 1)) (j k : Nat) :
    m * 2 ^ k < 2 ^ (i + 1 + j) ↔ k ≤ j := by
  constructor
  · intro small
    by_contra large
    have power : 2 ^ (j + 1) ≤ 2 ^ k := Nat.pow_le_pow_right (by decide) (by omega)
    have beyond : 2 ^ i * 2 ^ (j + 1) ≤ m * 2 ^ k := Nat.mul_le_mul least power
    have exponent : i + (j + 1) = i + 1 + j := by omega
    rw [← Nat.pow_add, exponent] at beyond
    exact Nat.not_lt.mpr beyond small
  · intro small
    have power : 2 ^ k ≤ 2 ^ j := Nat.pow_le_pow_right (by decide) small
    calc m * 2 ^ k < 2 ^ (i + 1) * 2 ^ k := Nat.mul_lt_mul_of_pos_right short (Nat.two_pow_pos k)
      _ ≤ 2 ^ (i + 1) * 2 ^ j := Nat.mul_le_mul_left _ power
      _ = 2 ^ (i + 1 + j) := (Nat.pow_add 2 (i + 1) j).symm

theorem mul_two_pow_lt_bound {m : Nat} (least : 2 ^ 52 ≤ m) (short : m < 2 ^ 53) (k : Nat) :
    m * 2 ^ k < bound ↔ k ≤ 971 := by
  have exponent : 1024 = 52 + 1 + 971 := rfl
  rw [bound_eq exponent]
  exact mul_two_pow_lt least short 971 k

theorem two_pow_le_bound {k : Nat} (small : k ≤ 1024) : 2 ^ k ≤ bound := by
  obtain ⟨j, whole⟩ := Nat.exists_eq_add_of_le small
  rw [bound_eq whole]
  exact Nat.pow_le_pow_right (by decide) (Nat.le_add_right k j)

theorem lt_bound_of_short {n : Nat} (short : n.log2 ≤ 52) : n < bound :=
  Nat.lt_of_lt_of_le Nat.lt_log2_self (two_pow_le_bound (by omega))

theorem lt_bound_of_le {n : Nat} (small : n ≤ 2 ^ 53) : n < bound := by
  have power : 2 ^ 54 ≤ bound := two_pow_le_bound (by decide)
  omega

theorem ofRatio_long (negative : Bool) {n : Nat} (long : 52 ≤ n.log2) :
    ∃ m k : Nat, rounded n = m * 2 ^ k ∧ ofRatio negative n 1 =
      if rounded n < bound then finite negative m k else infinite negative := by
  have nonzero : n ≠ 0 := by
    intro zero
    rw [zero] at long
    exact absurd long (by decide)
  have exponent : (n.log2 : Int) - 52 = (n.log2 - 52 : Nat) := by omega
  have least : 2 ^ 52 ≤ roundQuotient n (2 ^ (n.log2 - 52)) := le_roundQuotient long
  have most : roundQuotient n (2 ^ (n.log2 - 52)) ≤ 2 ^ 53 := roundQuotient_le n
  rw [ofRatio_eq negative nonzero, exponent, scaled_one]
  by_cases full : roundQuotient n (2 ^ (n.log2 - 52)) = 2 ^ 53
  · have carried : rounded n = 2 ^ 52 * 2 ^ (n.log2 - 52 + 1) := by
      rw [rounded, unit, full, Nat.pow_succ 2 (n.log2 - 52)]
      omega
    refine ⟨2 ^ 52, n.log2 - 52 + 1, carried, ?_⟩
    have range : rounded n < bound ↔ ¬(971 : Int) < (n.log2 - 52 : Nat) + 1 := by
      rw [carried, mul_two_pow_lt_bound (by decide) (by decide)]
      omega
    simp only [if_pos full, range, ite_not]
    rfl
  · refine ⟨roundQuotient n (2 ^ (n.log2 - 52)), n.log2 - 52, rfl, ?_⟩
    have range : rounded n < bound ↔ ¬(971 : Int) < (n.log2 - 52 : Nat) := by
      rw [rounded, unit, mul_two_pow_lt_bound least (by omega)]
      omega
    simp only [if_neg full, range, ite_not]

theorem toInt?_ofRatio_short (negative : Bool) {n : Nat} (nonzero : n ≠ 0) (short : n.log2 < 52) :
    (ofRatio negative n 1).toInt? = some (if negative then -(n : Int) else n) := by
  have exponent : (n.log2 : Int) - 52 = -((52 - n.log2 : Nat) : Int) := by omega
  have whole : roundQuotient (n * 2 ^ (52 - n.log2)) 1 = n * 2 ^ (52 - n.log2) := by
    have kept : roundQuotient (n * 2 ^ (52 - n.log2)) 1 * 1 = n * 2 ^ (52 - n.log2) :=
      roundQuotient_of_dvd (by decide) (Nat.one_dvd _)
    rwa [Nat.mul_one] at kept
  have below : ¬n * 2 ^ (52 - n.log2) = 2 ^ 53 := by
    have power : 2 ^ (n.log2 + 1) * 2 ^ (52 - n.log2) = 2 ^ 53 := by
      rw [← Nat.pow_add]
      congr 1
      omega
    have less : n * 2 ^ (52 - n.log2) < 2 ^ (n.log2 + 1) * 2 ^ (52 - n.log2) :=
      Nat.mul_lt_mul_of_pos_right Nat.lt_log2_self (Nat.two_pow_pos _)
    omega
  have finite : ¬(971 : Int) < -((52 - n.log2 : Nat) : Int) := by omega
  rw [ofRatio_eq negative nonzero, exponent, scaled_one_neg n (by omega)]
  simp only [whole, if_neg below, if_neg finite]
  exact toInt?_fraction negative n (by omega)

/-- Integers become the integers they are rounded to, if there are numbers for these. -/
theorem toInt?_ofInt {n : Int} (small : rounded n.natAbs < bound) :
    (ofInt n).toInt? = some (roundedInt n) := by
  have sign : (if decide (n < 0) = true then -(rounded n.natAbs : Int) else rounded n.natAbs) =
      roundedInt n := by
    simp only [decide_eq_true_eq, roundedInt]
  by_cases long : 52 ≤ n.natAbs.log2
  · obtain ⟨m, k, same, number⟩ := ofRatio_long (n < 0) long
    rw [ofInt, number, if_pos small, toInt?_finite, ← same, sign]
  · by_cases zero : n = 0
    · subst zero
      exact toInt?_zero (show 0 < 1074 by decide)
    · have nonzero : n.natAbs ≠ 0 := by omega
      rw [ofInt, toInt?_ofRatio_short _ nonzero (by omega), ← sign, rounded_of_short (by omega)]

theorem ofInt_of_bound_le {n : Int} (large : bound ≤ rounded n.natAbs) :
    ofInt n = infinite (n < 0) := by
  by_cases long : 52 ≤ n.natAbs.log2
  · obtain ⟨m, k, _, number⟩ := ofRatio_long (n < 0) long
    rw [ofInt, number, if_neg (Nat.not_lt.mpr large)]
  · rw [rounded_of_short (by omega)] at large
    exact absurd (lt_bound_of_short (by omega)) (Nat.not_lt.mpr large)

end Rulesheet.Binary64
