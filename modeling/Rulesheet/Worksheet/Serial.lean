import Rulesheet.Binary64.Arithmetic
import Rulesheet.Binary64.Shortest
import Rulesheet.Cell

/- Time in workbook files: a number of days, since the end of 1899 for dates, with sixteen significant
   digits. Reading rounds to milliseconds. The year 1900 is counted as a leap year, so that its
   first sixty days have numbers one less. -/
namespace Rulesheet.Serial

def stored (x : Binary64) : Binary64 :=
  match x.magnitude? with
  | none => x
  | some (num, den) =>
    if num = 0 then x
    else
      let power := Binary64.pointPosition num den - 16
      let digits := Binary64.roundQuotient (num * Binary64.pow10 (-power).toNat)
        (den * Binary64.pow10 power.toNat)
      Binary64.ofDecimal x.isNegative digits power

def secondsPerDay : Nat := 86400

def millisecondsPerDay : Int := 86400000

def epoch : Int := (⟨1899, 12, 30⟩ : Date).ordinal

def outOfRange : Cell := .float .notANumber

def dayPart (t : TimeOfDay) : Binary64 :=
  let fraction := Binary64.ofFraction (t.nanosecond / 1000 : Nat) 1000000
  ((Binary64.ofInt t.seconds).add fraction).divNat secondsPerDay

def ofDate (d : Date) : Int :=
  let days := d.ordinal - epoch
  if 0 < days ∧ days ≤ 60 then days - 1 else days

def ofDateTime (t : DateTime) : Binary64 := (Binary64.ofInt (ofDate t.date)).add (dayPart t.time)

def timeOfMilliseconds (n : Int) : TimeOfDay :=
  .ofSeconds (n / 1000).toNat ((n % 1000).toNat * 1000000)

def momentAt (days milliseconds : Int) : Cell :=
  let ordinal := epoch + days + milliseconds.fdiv millisecondsPerDay
  if ordinal < 1 ∨ Date.lastOrdinal < ordinal then outOfRange
  else .dateTime ⟨.ofOrdinal ordinal.toNat,
    timeOfMilliseconds (milliseconds.fmod millisecondsPerDay)⟩

def millisecondsOf (fraction : Binary64) : Int :=
  ((fraction.mul (.ofInt secondsPerDay)).mul (.ofInt 1000)).nearestInt?.getD 0

/-- A number below one is a time of day alone, unless it fills up the day. -/
def read (x : Binary64) : Cell :=
  match x.floor? with
  | none => outOfRange
  | some days =>
    let milliseconds := millisecondsOf (x.add (.ofInt (-days)))
    if days = 0 ∧ milliseconds < millisecondsPerDay then .time (timeOfMilliseconds milliseconds)
    else
      let isEarly := (0 < days ∨ (days = 0 ∧ !x.isZero)) ∧ days < 60
      momentAt (if isEarly then days + 1 else days) milliseconds

def time (t : TimeOfDay) : Cell := read (stored (dayPart t))

def dateTime (t : DateTime) : Cell := read (stored (ofDateTime t))

/-! Durations. -/

def durationLimit : Int := 999999999

def isDuration (microseconds : Int) : Bool :=
  (microseconds.fdiv microsecondsPerDay).natAbs ≤ durationLimit

/-- The microseconds of a number of days. The whole days are exact, and what a product of the rest
    leaves is rounded at the end. -/
def microsecondsOf (x : Binary64) : Option Int := do
  let (num, den) ← x.fraction?
  let whole := num.tdiv den
  let rest := Binary64.ofFraction (num - whole * den) den
  let (n, d) ← (rest.mul (.ofInt microsecondsPerDay)).fraction?
  some (whole * microsecondsPerDay + Binary64.nearestInt n d)

/-- A fraction of a second is rounded to milliseconds, the whole seconds being those of the nearest
    floating-point number. -/
def roundedDuration (microseconds : Int) : Int :=
  let fraction := microseconds.fmod 1000000
  if fraction = 0 then microseconds
  else
    let seconds := (Binary64.ofFraction microseconds 1000000).floor?.getD 0
    seconds * 1000000 + Binary64.nearestInt fraction 1000 * 1000

def duration (microseconds : Int) : Cell :=
  let days := (Binary64.ofFraction microseconds 1000000).divNat secondsPerDay
  match microsecondsOf (stored days) with
  | none => outOfRange
  | some n =>
    let r := roundedDuration n
    if isDuration n && isDuration r then .duration r else outOfRange

end Rulesheet.Serial
