import Rulesheet.Data.Scalar

/- Dates and times of YAML 1.1. A date may have a time behind it, a time a fraction and an offset. -/
namespace Rulesheet.Yaml

structure Timestamp where
  date : Date
  time : Option TimeOfDay
  offset : Option Int
  deriving DecidableEq, Repr

namespace Timestamp

def digits? (least most : Nat) (s : List Char) : Option (Nat × List Char) :=
  let ds := (s.take most).takeWhile Char.isDigit
  if ds.length < least then none else some (Binary64.natOfDigits ds, s.drop ds.length)

def exactly? (c : Char) (s : List Char) : Option (List Char) :=
  match s with
  | d :: rest => if d = c then some rest else none
  | [] => none

def isGap (c : Char) : Bool := c == ' ' || c == '\t'

def isEnd (s : List Char) : Bool := s = [] || s = ['\n']

def offset? (s : List Char) : Option (Option Int) :=
  match s with
  | 'Z' :: rest => if isEnd rest then some (some 0) else none
  | sign :: rest =>
    if sign == '+' || sign == '-' then do
      let (hours, rest) ← digits? 1 2 rest
      let (minutes, rest) ← match rest with
        | ':' :: rest => digits? 2 2 rest
        | _ => some (0, rest)
      let n : Int := hours * 3600 + minutes * 60
      if isEnd rest then some (some (if sign == '-' then -n else n)) else none
    else none
  | [] => none

def clock? (s : List Char) : Option (TimeOfDay × List Char) := do
  let (hour, s) ← digits? 1 2 s
  let (minute, s) ← digits? 2 2 (← exactly? ':' s)
  let (second, s) ← digits? 2 2 (← exactly? ':' s)
  match s with
  | '.' :: rest =>
    let ds := rest.takeWhile Char.isDigit
    let micro := (ds ++ List.replicate 6 '0').take 6
    some (⟨hour, minute, second, Binary64.natOfDigits micro * 1000⟩, rest.drop ds.length)
  | _ => some (⟨hour, minute, second, 0⟩, s)

def read? (s : List Char) : Option Timestamp := do
  let (year, r) ← digits? 4 4 s
  let (month, r) ← digits? 1 2 (← exactly? '-' r)
  let (day, r) ← digits? 1 2 (← exactly? '-' r)
  let date : Date := ⟨year, month, day⟩
  if isEnd r then some ⟨date, none, none⟩
  else
    let r ← match r with
      | 'T' :: rest | 't' :: rest => some rest
      | c :: rest => if isGap c then some (rest.dropWhile isGap) else none
      | [] => none
    let (time, r) ← clock? r
    if isEnd r then some ⟨date, some time, none⟩
    else some ⟨date, some time, ← offset? (r.dropWhile isGap)⟩

/-- Whether an untagged text reads as a date or a time. A date alone has all its ten characters. -/
def isPlain (s : List Char) : Bool :=
  !s.contains '\n' && match read? s with
    | some ⟨_, none, _⟩ => s.length = 10
    | some _ => true
    | none => false

def dateFault? (d : Date) : Option ValueFault :=
  if d.year = 0 then some .yearOutOfRange
  else if d.month = 0 ∨ 12 < d.month then some .monthOutOfRange
  else if d.day = 0 ∨ Date.daysIn d.year d.month < d.day then some .dayOutOfRange
  else none

def timeFault? (t : TimeOfDay) : Option ValueFault :=
  if 23 < t.hour then some .hourOutOfRange
  else if 59 < t.minute then some .minuteOutOfRange
  else if 59 < t.second then some .secondOutOfRange
  else none

def offsetFault? (offset : Option Int) : Option ValueFault :=
  offset.bind fun n => if 86400 ≤ n.natAbs then some (.offsetOutOfRange n) else none

def fault? (t : Timestamp) : Option ValueFault :=
  offsetFault? t.offset <|> dateFault? t.date <|> t.time.bind timeFault?

def value (t : Timestamp) : Except ValueFault Scalar :=
  match t.fault?, t.time with
  | some fault, _ => .error fault
  | none, some time => .ok (.dateTime ⟨t.date, time⟩ t.offset)
  | none, none => .ok (.date t.date)

end Timestamp
end Rulesheet.Yaml
