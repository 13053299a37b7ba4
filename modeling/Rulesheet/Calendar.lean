/- Dates, times of day and durations, with the forms in which messages and documents show them. -/
namespace Rulesheet

def paddedNat (width n : Nat) : String :=
  let ds := Nat.toDigits 10 n
  String.ofList (List.replicate (width - ds.length) '0' ++ ds)

structure Date where
  year : Nat
  month : Nat
  day : Nat
  deriving DecidableEq, Repr

structure TimeOfDay where
  hour : Nat
  minute : Nat
  second : Nat
  nanosecond : Nat
  deriving DecidableEq, Repr

structure DateTime where
  date : Date
  time : TimeOfDay
  deriving DecidableEq, Repr

def Date.isLeap (year : Nat) : Bool := year % 4 = 0 && (year % 100 ≠ 0 || year % 400 = 0)

def Date.daysIn (year month : Nat) : Nat :=
  if month = 2 then (if isLeap year then 29 else 28)
  else if month = 4 ∨ month = 6 ∨ month = 9 ∨ month = 11 then 30
  else 31

def Date.daysBeforeYear (year : Nat) : Nat :=
  365 * (year - 1) + (year - 1) / 4 - (year - 1) / 100 + (year - 1) / 400

/-- The number of the day, the first of January of the year 1 being 1. -/
def Date.ordinal (d : Date) : Nat :=
  daysBeforeYear d.year +
    ((List.range (d.month - 1)).map fun m => daysIn d.year (m + 1)).foldl (· + ·) 0 + d.day

def Date.lastOrdinal : Nat := 3652059

def Date.inYear (year : Nat) : Nat → Nat → Nat → Date
  | 0, month, day => ⟨year, month, day + 1⟩
  | fuel + 1, month, day =>
    if day < daysIn year month then ⟨year, month, day + 1⟩
    else inYear year fuel (month + 1) (day - daysIn year month)

/-- The date of a day by its number. Its year is the last of a few candidates to begin before it. -/
def Date.ofOrdinal (n : Nat) : Date :=
  let guess := 400 * (n - 1) / 146097
  let year := ((List.range 4).map (guess + ·)).foldl
    (fun best y => if 0 < y ∧ daysBeforeYear y < n then y else best) 1
  inYear year 11 1 (n - 1 - daysBeforeYear year)

def Date.text (d : Date) : String :=
  paddedNat 4 d.year ++ "-" ++ paddedNat 2 d.month ++ "-" ++ paddedNat 2 d.day

def Date.shortText (d : Date) : String :=
  toString d.year ++ "-" ++ paddedNat 2 d.month ++ "-" ++ paddedNat 2 d.day

def TimeOfDay.wholeSeconds (t : TimeOfDay) : String :=
  paddedNat 2 t.hour ++ ":" ++ paddedNat 2 t.minute ++ ":" ++ paddedNat 2 t.second

/-- Six fraction digits when there are microseconds, nine when there are nanoseconds. -/
def TimeOfDay.text (t : TimeOfDay) : String :=
  if t.nanosecond = 0 then t.wholeSeconds
  else if t.nanosecond % 1000 = 0 then
    t.wholeSeconds ++ "." ++ paddedNat 6 (t.nanosecond / 1000)
  else t.wholeSeconds ++ "." ++ paddedNat 9 t.nanosecond

def TimeOfDay.ofSeconds (seconds nanosecond : Nat) : TimeOfDay :=
  ⟨seconds / 3600, seconds / 60 % 60, seconds % 60, nanosecond⟩

def TimeOfDay.seconds (t : TimeOfDay) : Nat := 3600 * t.hour + 60 * t.minute + t.second

def TimeOfDay.isMidnight (t : TimeOfDay) : Bool :=
  t.hour = 0 ∧ t.minute = 0 ∧ t.second = 0 ∧ t.nanosecond / 1000 = 0

def DateTime.text (t : DateTime) : String := t.date.text ++ " " ++ t.time.text

/-- The date alone at midnight; otherwise date and time to the second. -/
def DateTime.displayText (t : DateTime) : String :=
  if t.time.isMidnight then t.date.shortText
  else t.date.shortText ++ " " ++ t.time.wholeSeconds

def DateTime.instant (t : DateTime) : Int :=
  (86400 * t.date.ordinal + t.time.seconds : Nat) * 1000000 + (t.time.nanosecond / 1000 : Nat)

def offsetText (seconds : Int) : String :=
  let minutes := seconds.natAbs / 60
  (if seconds < 0 then "-" else "+") ++ paddedNat 2 (minutes / 60) ++ ":" ++
    paddedNat 2 (minutes % 60)

/-! Durations are counted in microseconds. -/

def microsecondsPerDay : Int := 86400000000

def fractionText (microseconds : Nat) : String :=
  if microseconds = 0 then "" else "." ++ paddedNat 6 microseconds

/-- Whole days counted toward the past, then hours, minutes and seconds of one day. -/
def durationText (microseconds : Int) : String :=
  let days := microseconds.fdiv microsecondsPerDay
  let micro := (microseconds.fmod microsecondsPerDay).toNat
  let rest := micro / 1000000
  let clock := toString (rest / 3600) ++ ":" ++ paddedNat 2 (rest / 60 % 60) ++ ":" ++
    paddedNat 2 (rest % 60) ++ fractionText (micro % 1000000)
  if days = 0 then clock
  else toString days ++ (if days.natAbs = 1 then " day, " else " days, ") ++ clock

def durationLongText (microseconds : Int) : String :=
  let days := microseconds.fdiv microsecondsPerDay
  let micro := (microseconds.fmod microsecondsPerDay).toNat
  toString days ++ (if days < 0 then " days +" else " days ") ++
    (TimeOfDay.ofSeconds (micro / 1000000) 0).wholeSeconds ++ fractionText (micro % 1000000)

end Rulesheet
