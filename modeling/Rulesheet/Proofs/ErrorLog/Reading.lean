import Mathlib.Algebra.Group.Nat.Defs
import Rulesheet.ErrorLog
import Rulesheet.Numeral
import Rulesheet.Proofs.Text.Pieces

/- Reading the lines of an error log. A JSON text is taken character by character into marks and
   strings, and an object of strings is read off these. A line that a record is written to gives
   back the record, whatever its fields hold. -/
namespace Rulesheet.Json

inductive Token where
  | mark (c : Char)
  | text (s : String)
  deriving DecidableEq, Repr

/-- Where a reader stands: between tokens, or in a string with the codes that it has read there; and
    then maybe in an escape, with the digits that still follow the next one. -/
inductive Mode where
  | between
  | inside (codes : List Nat)
  | escape (codes : List Nat)
  | digits (codes : List Nat) (more value : Nat)
  deriving DecidableEq, Repr

structure Reader where
  mode : Mode := .between
  tokens : List Token := []
  deriving DecidableEq, Repr

def isBlank (c : Char) : Bool := c = ' ' || c = '\t' || c = '\n' || c = '\r'

def marks : List Char := ['\x7b', '\x7d', '[', ']', ':', ',']

def escaped? : Char → Option Char
  | '"' => some '"' | '\\' => some '\\' | '/' => some '/' | 'b' => some '\x08' | 'f' => some '\x0c'
  | 'n' => some '\n' | 'r' => some '\r' | 't' => some '\t' | _ => none

def isHigh (code : Nat) : Bool := 0xD800 ≤ code && code < 0xDC00

def isLow (code : Nat) : Bool := 0xDC00 ≤ code && code < 0xE000

def character (code : Nat) : Char :=
  if isHigh code || isLow code then Text.ofSurrogate code else Char.ofNat code

def characters : List Nat → List Char
  | [] => []
  | [code] => [character code]
  | high :: low :: rest =>
    if isHigh high && isLow low then
      Char.ofNat (0x10000 + 0x400 * (high - 0xD800) + (low - 0xDC00)) :: characters rest
    else character high :: characters (low :: rest)

def Reader.read (r : Reader) (c : Char) : Option Reader :=
  match r.mode with
  | .between =>
    if c = '"' then some { r with mode := .inside [] }
    else if isBlank c then some r
    else if c ∈ marks then some { r with tokens := r.tokens ++ [.mark c] }
    else none
  | .inside codes =>
    if c = '"' then
      some { mode := .between, tokens := r.tokens ++ [.text (String.ofList (characters codes))] }
    else if c = '\\' then some { r with mode := .escape codes }
    else if c.toNat < 0x20 then none
    else some { r with mode := .inside (codes ++ [c.toNat]) }
  | .escape codes =>
    if c = 'u' then some { r with mode := .digits codes 3 0 }
    else (escaped? c).map fun d => { r with mode := .inside (codes ++ [d.toNat]) }
  | .digits codes more value =>
    (Numeral.digitIn? 16 c).map fun digit =>
      match more with
      | 0 => { r with mode := .inside (codes ++ [16 * value + digit]) }
      | more + 1 => { r with mode := .digits codes more (16 * value + digit) }

def Reader.run (r : Reader) (s : List Char) : Option Reader := s.foldlM Reader.read r

def tokens? (s : List Char) : Option (List Token) :=
  match Reader.run {} s with
  | some ⟨.between, tokens⟩ => some tokens
  | _ => none

def members? : List Token → Option (List (String × String))
  | [.text key, .mark ':', .text value, .mark '\x7d'] => some [(key, value)]
  | .text key :: .mark ':' :: .text value :: .mark ',' :: rest =>
    (members? rest).map ((key, value) :: ·)
  | _ => none

def object? (s : String) : Option (List (String × String)) := do
  match ← tokens? s.toList with
  | [.mark '\x7b', .mark '\x7d'] => some []
  | .mark '\x7b' :: rest => members? rest
  | _ => none

/-! Strings. -/

theorem character_toNat (c : Char) : character c.toNat = c := by
  have valid := c.valid
  have code : isHigh c.toNat = false ∧ isLow c.toNat = false := by
    simp only [isHigh, isLow, Bool.and_eq_false_iff, decide_eq_false_iff_not]
    change c.toNat.isValidChar at valid
    unfold Nat.isValidChar at valid
    omega
  rw [character, code.1, code.2, Bool.or_false, if_neg Bool.false_ne_true, Char.ofNat_toNat]

theorem characters_toNat (s : List Char) : characters (s.map Char.toNat) = s := by
  induction s with
  | nil => rfl
  | cons c rest ih =>
    cases rest with
    | nil => exact congrArg ([·]) (character_toNat c)
    | cons d rest =>
      have low : isHigh c.toNat = false := by
        have valid := c.valid
        change c.toNat.isValidChar at valid
        unfold Nat.isValidChar at valid
        simp only [isHigh, Bool.and_eq_false_iff, decide_eq_false_iff_not]
        omega
      rw [List.map_cons, List.map_cons, characters, low, Bool.false_and,
        if_neg Bool.false_ne_true, character_toNat]
      exact congrArg (c :: ·) ih

theorem Reader.run_cons {r r' : Reader} {c : Char} (reads : r.read c = some r') (s : List Char) :
    r.run (c :: s) = r'.run s := by
  rw [run, List.foldlM_cons, reads]
  rfl

theorem Reader.run_append {r r' : Reader} {s : List Char} (runs : r.run s = some r')
    (s' : List Char) : r.run (s ++ s') = r'.run s' := by
  rw [run] at runs
  rw [run, List.foldlM_append, runs]
  rfl

variable {codes : List Nat} {ts : List Token}

theorem digitIn?_hexDigit : ∀ n < 16, Numeral.digitIn? 16 (Text.hexDigit n) = some n := by
  decide

theorem read_digit {n : Nat} (digit : n < 16) (more value : Nat) :
    (Reader.mk (.digits codes (more + 1) value) ts).read (Text.hexDigit n) =
      some ⟨.digits codes more (16 * value + n), ts⟩ := by
  simp only [Reader.read, digitIn?_hexDigit n digit, Option.map_some]

theorem read_last_digit {n : Nat} (digit : n < 16) (value : Nat) :
    (Reader.mk (.digits codes 0 value) ts).read (Text.hexDigit n) =
      some ⟨.inside (codes ++ [16 * value + n]), ts⟩ := by
  simp only [Reader.read, digitIn?_hexDigit n digit, Option.map_some]

theorem run_hexDigits (width more n value : Nat) :
    (Reader.mk (.digits codes (width + more) value) ts).run (Text.hexDigits width n) =
      some ⟨.digits codes more (16 ^ width * value + n % 16 ^ width), ts⟩ := by
  induction width generalizing more n with
  | zero => simp [Reader.run, Text.hexDigits, Nat.mod_one]
  | succ width ih =>
    have place : width + 1 + more = width + (more + 1) := by omega
    have value_eq : 16 * (16 ^ width * value + n / 16 % 16 ^ width) + n % 16 =
        16 ^ (width + 1) * value + n % 16 ^ (width + 1) := by
      rw [Nat.pow_succ', Nat.mod_mul, Nat.mul_add, Nat.mul_assoc]
      omega
    rw [Text.hexDigits, place, Reader.run_append (ih (more + 1) (n / 16)),
      Reader.run_cons (read_digit (Nat.mod_lt n (by decide)) _ _), value_eq]
    rfl

theorem run_escapeChar (c : Char) :
    (Reader.mk (.inside codes) ts).run (ErrorRecord.escapeChar c) =
      some ⟨.inside (codes ++ [c.toNat]), ts⟩ := by
  unfold ErrorRecord.escapeChar
  split
  · subst c; rfl
  split
  · subst c; rfl
  split
  · subst c; rfl
  split
  · subst c; rfl
  split
  · subst c; rfl
  split
  · subst c; rfl
  split
  · subst c; rfl
  split
  · -- a control character without an escape of its own has four digits
    have begins : (Reader.mk (.inside codes) ts).run ['\\', 'u'] =
        some ⟨.digits codes (3 + 0) 0, ts⟩ := rfl
    have digit : c.toNat % 16 < 16 := Nat.mod_lt _ (by decide)
    have value : 16 * (16 ^ 3 * 0 + c.toNat / 16 % 16 ^ 3) + c.toNat % 16 = c.toNat := by omega
    change (Reader.mk (.inside codes) ts).run (['\\', 'u'] ++ Text.hexDigits 4 c.toNat) = _
    rw [Reader.run_append begins, Text.hexDigits,
      Reader.run_append (run_hexDigits 3 0 (c.toNat / 16) 0),
      Reader.run_cons (read_last_digit digit _), value]
    rfl
  · rename_i quote backslash _ _ _ _ _ control
    have reads : (Reader.mk (.inside codes) ts).read c =
        some ⟨.inside (codes ++ [c.toNat]), ts⟩ := by
      simp only [Reader.read, quote, backslash, control, if_false]
    exact Reader.run_cons reads []

theorem run_escapeChars (s : List Char) :
    (Reader.mk (.inside codes) ts).run (s.flatMap ErrorRecord.escapeChar) =
      some ⟨.inside (codes ++ s.map Char.toNat), ts⟩ := by
  induction s generalizing codes with
  | nil => simp [Reader.run]
  | cons c rest ih =>
    rw [List.flatMap_cons, Reader.run_append (run_escapeChar c), ih, List.append_assoc]
    rfl

theorem run_jsonString (s : String) :
    (Reader.mk .between ts).run (ErrorRecord.jsonString s) =
      some ⟨.between, ts ++ [.text s]⟩ := by
  have opens : (Reader.mk .between ts).read '"' = some ⟨.inside [], ts⟩ := rfl
  have closes : (Reader.mk (.inside (s.toList.map Char.toNat)) ts).read '"' =
      some ⟨.between, ts ++ [.text (String.ofList (characters (s.toList.map Char.toNat)))]⟩ := rfl
  rw [characters_toNat, String.ofList_toList] at closes
  rw [ErrorRecord.jsonString, List.cons_append, Reader.run_cons opens,
    Reader.run_append (run_escapeChars s.toList), List.nil_append, Reader.run_cons closes]
  rfl

/-! Objects. -/

def memberChars (m : String × String) : List Char :=
  ErrorRecord.jsonString m.1 ++ ':' :: ' ' :: ErrorRecord.jsonString m.2

def memberTokens (m : String × String) : List Token := [.text m.1, .mark ':', .text m.2]

theorem run_memberChars (m : String × String) :
    (Reader.mk .between ts).run (memberChars m) = some ⟨.between, ts ++ memberTokens m⟩ := by
  have colon (ts : List Token) :
      (Reader.mk .between ts).read ':' = some ⟨.between, ts ++ [.mark ':']⟩ := rfl
  have blank (ts : List Token) : (Reader.mk .between ts).read ' ' = some ⟨.between, ts⟩ := rfl
  rw [memberChars, Reader.run_append (run_jsonString m.1), Reader.run_cons (colon _),
    Reader.run_cons (blank _), run_jsonString]
  simp [memberTokens]

def moreChars (ms : List (String × String)) : List Char :=
  ms.flatMap fun m => ',' :: ' ' :: memberChars m

def moreTokens (ms : List (String × String)) : List Token :=
  ms.flatMap fun m => .mark ',' :: memberTokens m

theorem run_moreChars (ms : List (String × String)) :
    (Reader.mk .between ts).run (moreChars ms) = some ⟨.between, ts ++ moreTokens ms⟩ := by
  induction ms generalizing ts with
  | nil => simp [Reader.run, moreChars, moreTokens]
  | cons m rest ih =>
    have comma : (Reader.mk .between ts).read ',' = some ⟨.between, ts ++ [.mark ',']⟩ := rfl
    have blank : (Reader.mk .between (ts ++ [.mark ','])).read ' ' =
        some ⟨.between, ts ++ [.mark ',']⟩ := rfl
    have first : (Reader.mk .between ts).run (',' :: ' ' :: memberChars m) =
        some ⟨.between, ts ++ .mark ',' :: memberTokens m⟩ := by
      rw [Reader.run_cons comma, Reader.run_cons blank, run_memberChars, List.append_assoc]
      rfl
    rw [moreChars, List.flatMap_cons, Reader.run_append first]
    change (Reader.mk .between _).run (moreChars rest) = _
    rw [ih, List.append_assoc]
    rfl

theorem members?_tokens (m : String × String) (ms : List (String × String)) :
    members? (memberTokens m ++ moreTokens ms ++ [.mark '\x7d']) = some (m :: ms) := by
  induction ms generalizing m with
  | nil => rfl
  | cons next rest ih =>
    have tokens : memberTokens m ++ moreTokens (next :: rest) ++ [.mark '\x7d'] =
        .text m.1 :: .mark ':' :: .text m.2 :: .mark ',' ::
          (memberTokens next ++ moreTokens rest ++ [.mark '\x7d']) := rfl
    rw [tokens, members?, ih]
    rfl

theorem object?_of_members {s : String} {m : String × String} {ms : List (String × String)}
    (chars : s.toList = '\x7b' :: (memberChars m ++ moreChars ms ++ ['\x7d'])) :
    object? s = some (m :: ms) := by
  have opens : Reader.read {} '\x7b' = some ⟨.between, [.mark '\x7b']⟩ := rfl
  have closes (ts : List Token) :
      (Reader.mk .between ts).read '\x7d' = some ⟨.between, ts ++ [.mark '\x7d']⟩ := rfl
  have tokens : tokens? s.toList =
      some (.mark '\x7b' :: (memberTokens m ++ moreTokens ms ++ [.mark '\x7d'])) := by
    have runs : Reader.run {} s.toList =
        some ⟨.between, [.mark '\x7b'] ++ memberTokens m ++ moreTokens ms ++ [.mark '\x7d']⟩ := by
      rw [chars, Reader.run_cons opens, List.append_assoc, Reader.run_append (run_memberChars m),
        Reader.run_append (run_moreChars ms), Reader.run_cons (closes _)]
      rfl
    rw [tokens?, runs]
    rfl
  unfold object?
  rw [tokens]
  exact members?_tokens m ms

end Rulesheet.Json

namespace Rulesheet.ErrorRecord

def ofMembers? : List (String × String) → Option ErrorRecord
  | [("timestamp", timestamp), ("macro", macroName), ("sheet", sheet), ("partition", part),
      ("error_type", errorType), ("message", message)] =>
    some ⟨timestamp, macroName, sheet, part, errorType, message⟩
  | _ => none

def read? (line : String) : Option ErrorRecord := (Json.object? line).bind ofMembers?

theorem object?_jsonLine (r : ErrorRecord) : Json.object? r.jsonLine = some r.fields := by
  have chars : r.jsonLine.toList = '\x7b' :: (Json.memberChars ("timestamp", r.timestamp) ++
      Json.moreChars r.fields.tail ++ ['\x7d']) := by
    simp [jsonLine, fields, Json.memberChars, Json.moreChars]
  exact Json.object?_of_members chars

/-- A line gives back its record with all fields, whatever these hold. -/
theorem read?_jsonLine (r : ErrorRecord) : read? r.jsonLine = some r := by
  rw [read?, object?_jsonLine]
  rfl

end Rulesheet.ErrorRecord
