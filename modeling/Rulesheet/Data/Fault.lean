import Rulesheet.Text.Quoted

/- Causes why a text stands for no value of the kind that is asked for, or why a value cannot be
   shown or compared. -/
namespace Rulesheet

/-- Decimal integers are neither read nor written with more digits. -/
def digitLimit : Nat := 4300

inductive ValueFault where
  | noInteger (base : Nat) (text : String)
  | noFloat (text : String)
  | noDigits
  | longNumeral (digits : Nat)
  | longInteger
  | hugeInteger
  | noTruthValue (text : String)
  | noTimestamp
  | mappingForTimestamp
  | yearOutOfRange
  | monthOutOfRange
  | dayOutOfRange
  | hourOutOfRange
  | minuteOutOfRange
  | secondOutOfRange
  | offsetOutOfRange (seconds : Int)
  | noCharacter
  | noCharacterCode
  | endless
  | deep
  deriving DecidableEq, Repr

def deltaText (seconds : Int) : String :=
  let days := seconds.fdiv 86400
  let rest := seconds.fmod 86400
  let parts := (if days = 0 then [] else ["days=" ++ toString days]) ++
    (if rest = 0 then [] else ["seconds=" ++ toString rest])
  "datetime.timedelta(" ++ ", ".intercalate parts ++ ")"

namespace ValueFault

def excerpt (text : String) : String := String.ofList ((Text.quoted text).toList.take 200)

def limitText : String := "Exceeds the limit (" ++ toString digitLimit ++
  " digits) for integer string conversion"

def limitAdvice : String := "; use sys.set_int_max_str_digits() to increase the limit"

def message : ValueFault → String
  | noInteger base text =>
    "invalid literal for int() with base " ++ toString base ++ ": " ++ excerpt text
  | noFloat text => "could not convert string to float: " ++ Text.quoted text
  | noDigits => "string index out of range"
  | longNumeral digits =>
    limitText ++ ": value has " ++ toString digits ++ " digits" ++ limitAdvice
  | longInteger => limitText ++ limitAdvice
  | hugeInteger => "int too large to convert to float"
  | noTruthValue text => Text.quoted text
  | noTimestamp => "'NoneType' object has no attribute 'groupdict'"
  | mappingForTimestamp => "expected string or bytes-like object, got 'list'"
  | yearOutOfRange => "year 0 is out of range"
  | monthOutOfRange => "month must be in 1..12"
  | dayOutOfRange => "day is out of range for month"
  | hourOutOfRange => "hour must be in 0..23"
  | minuteOutOfRange => "minute must be in 0..59"
  | secondOutOfRange => "second must be in 0..59"
  | offsetOutOfRange seconds => "offset must be a timedelta strictly between " ++
      "-timedelta(hours=24) and timedelta(hours=24), not " ++ deltaText seconds ++ "."
  | noCharacter => "chr() arg not in range(0x110000)"
  | noCharacterCode => "Python int too large to convert to C int"
  | endless => "maximum recursion depth exceeded in comparison"
  | deep => "maximum recursion depth exceeded"

end ValueFault
end Rulesheet
