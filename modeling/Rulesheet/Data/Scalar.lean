import Rulesheet.Binary64.Arithmetic
import Rulesheet.Binary64.Shortest
import Rulesheet.Calendar
import Rulesheet.Data.Fault

/- Scalar values of configuration data, when they are the same, their order, and the forms in which
   they are shown. -/
namespace Rulesheet

/-- What is not a number equals nothing but itself, and the mark tells which one it is. -/
inductive Scalar where
  | null
  | boolean (value : Bool)
  | integer (value : Int)
  | float (value : Binary64)
  | notANumber (mark : Nat)
  | text (value : String)
  | bytes (value : List UInt8)
  | date (value : Date)
  | dateTime (value : DateTime) (offset : Option Int)
  deriving DecidableEq, Repr

namespace Scalar

def ofFloat (mark : Nat) : Binary64 → Scalar
  | .notANumber => .notANumber mark
  | x => .float x

def number? : Scalar → Option (Int × Nat)
  | boolean b => some (if b then 1 else 0, 1)
  | integer n => some (n, 1)
  | float x => x.fraction?
  | _ => none

def moment? : Scalar → Option Int
  | dateTime t (some offset) => some (t.instant - offset * 1000000)
  | _ => none

/-- Numbers agree when their values do, and times with offsets when they are the same moment. -/
def same (a b : Scalar) : Bool :=
  match a.number?, b.number?, a.moment?, b.moment? with
  | some (n, d), some (m, e), _, _ => n * e = m * d
  | some _, none, _, _ => false
  | none, some _, _, _ => false
  | none, none, some t, some u => t = u
  | none, none, _, _ => a = b

def agrees (a b : Scalar) : Bool :=
  match a, b with
  | boolean p, boolean q => p = q
  | boolean _, _ => false
  | _, boolean _ => false
  | _, _ => a.same b

/-- Where a value lies among the numbers: before them all, at a fraction, or behind them all. -/
inductive Level where
  | least
  | at (num : Int) (den : Nat)
  | greatest
  | nowhere

def level? (s : Scalar) : Option Level :=
  match s, s.number? with
  | _, some (n, d) => some (.at n d)
  | float (.infinite true), _ => some .least
  | float (.infinite false), _ => some .greatest
  | notANumber _, _ => some .nowhere
  | _, _ => none

def Level.below : Level → Level → Bool
  | nowhere, _ => false
  | _, nowhere => false
  | least, least => false
  | least, _ => true
  | greatest, _ => false
  | .at n d, .at m e => n * e < m * d
  | .at _ _, greatest => true
  | .at _ _, least => false

def below? (a b : Scalar) : Option Bool :=
  match a.level?, b.level?, a, b with
  | some x, some y, _, _ => some (x.below y)
  | _, _, text s, text t => some (s < t)
  | _, _, bytes s, bytes t => some (s < t)
  | _, _, date s, date t => some (s.ordinal < t.ordinal)
  | _, _, dateTime s none, dateTime t none => some (s.instant < t.instant)
  | _, _, dateTime _ (some _), dateTime _ (some _) =>
    some ((a.moment?.getD 0) < (b.moment?.getD 0))
  | _, _, _, _ => none

def isLong : Scalar → Bool
  | integer n => Binary64.pow10 digitLimit ≤ n.natAbs
  | _ => false

def zoneText (offset : Int) : String :=
  if offset = 0 then "datetime.timezone.utc"
  else "datetime.timezone(" ++ deltaText offset ++ ")"

def shown : Scalar → String
  | null => "None"
  | boolean b => if b then "True" else "False"
  | integer n => toString n
  | float x => x.text
  | notANumber _ => "nan"
  | text s => Text.quoted s
  | bytes b => Text.quotedBytes b
  | date d =>
    "datetime.date(" ++ ", ".intercalate ([d.year, d.month, d.day].map toString) ++ ")"
  | dateTime t offset =>
    let micro := t.time.nanosecond / 1000
    let tail := if micro ≠ 0 then [t.time.second, micro]
      else if t.time.second ≠ 0 then [t.time.second] else []
    let fields := [t.date.year, t.date.month, t.date.day, t.time.hour, t.time.minute] ++ tail
    let zone := match offset with
      | none => ""
      | some n => ", tzinfo=" ++ zoneText n
    "datetime.datetime(" ++ ", ".intercalate (fields.map toString) ++ zone ++ ")"

/-- A text itself, dates and times in their written form, and else what is shown. -/
def plain : Scalar → String
  | text s => s
  | date d => d.text
  | dateTime t none => t.text
  | dateTime t (some n) => t.text ++ offsetText n
  | s => s.shown

/-- Long integers are not written. -/
def whenWritten (s : Scalar) (written : String) : Except ValueFault String :=
  if s.isLong then .error .longInteger else .ok written

def kind : Scalar → String
  | null => "NoneType"
  | boolean _ => "bool"
  | integer _ => "int"
  | float _ | notANumber _ => "float"
  | text _ => "str"
  | bytes _ => "bytes"
  | date _ => "date"
  | dateTime _ _ => "datetime"

def isFalsy : Scalar → Bool
  | null => true
  | text s => s = ""
  | bytes b => b = []
  | s => match s.number? with
    | some (n, _) => n = 0
    | none => false

end Scalar
end Rulesheet
