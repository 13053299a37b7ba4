import Rulesheet.Text.Lower
import Rulesheet.Text.Pieces
import Rulesheet.Text.Word

/- Constant declarations in free text, one a line:
   `[Public|Private|Global|Dim] [Const] name [As String] = "value"` and the same with
   `As Boolean` and `True` or `False`. Keywords go in any case. Names are known by their
   lower-case form. Text after the value does not matter; nothing may stand before. -/
namespace Rulesheet

inductive DeclaredValue where
  | text (value : String)
  | flag (value : Bool)
  deriving DecidableEq, Repr

structure Declaration where
  name : String
  value : DeclaredValue
  deriving DecidableEq, Repr

namespace Declaration

def isGap (c : Char) : Bool := c == ' ' || c == '\t'

/-- The long s reads as an s; the dotted capital and the dotless small i read as an i. -/
def readsAs (letter c : Char) : Bool :=
  c.toLower == letter || (letter == 's' && c == '\u017f') ||
    (letter == 'i' && (c == '\u0130' || c == '\u0131'))

def isKeyword : List Char → List Char → Bool
  | [], [] => true
  | k :: keyword, c :: word => readsAs k c && isKeyword keyword word
  | _, _ => false

def isModifier (word : List Char) : Bool :=
  isKeyword "public".toList word || isKeyword "private".toList word ||
    isKeyword "global".toList word || isKeyword "dim".toList word

theorem length_dropWhile_le (p : Char → Bool) (s : List Char) :
    (s.dropWhile p).length ≤ s.length := (List.dropWhile_sublist p).length_le

theorem length_dropWhile_lt {p : Char → Bool} {s : List Char} (h : s.takeWhile p ≠ []) :
    (s.dropWhile p).length < s.length := by
  have split := congrArg List.length (List.takeWhile_append_dropWhile (p := p) (l := s))
  rw [List.length_append] at split
  have := List.length_pos_iff.mpr h
  omega

/-- The words that a line begins with and what follows them and their gaps. -/
def words (s : List Char) : List (List Char) × List Char :=
  if (s.dropWhile isGap).takeWhile Text.isWord = [] then ([], s.dropWhile isGap)
  else
    let more := words ((s.dropWhile isGap).dropWhile Text.isWord)
    ((s.dropWhile isGap).takeWhile Text.isWord :: more.1, more.2)
termination_by s.length
decreasing_by exact Nat.lt_of_lt_of_le (length_dropWhile_lt ‹_›) (length_dropWhile_le _ _)

/-- Takes a final `As type` away when a word stands before it. -/
def withoutType (type : List Char) (ws : List (List Char)) : List (List Char) :=
  match ws.reverse with
  | t :: as :: name :: before =>
    if isKeyword "as".toList as && isKeyword type t then (name :: before).reverse else ws
  | _ => ws

def name? (type : List Char) (ws : List (List Char)) : Option (List Char) :=
  match withoutType type ws with
  | [name] => some name
  | [lead, name] => if isModifier lead || isKeyword "const".toList lead then some name else none
  | [lead, const, name] =>
    if isModifier lead && isKeyword "const".toList const then some name else none
  | _ => none

def textValue? : List Char → Option (List Char)
  | '"' :: rest =>
    match rest.dropWhile fun c => c ≠ '"' && c ≠ '\r' with
    | '"' :: _ => some (rest.takeWhile fun c => c ≠ '"' && c ≠ '\r')
    | _ => none
  | _ => none

/-- A truth value ends where a word ends. -/
def flagValue? (s : List Char) : Option Bool :=
  let word := s.takeWhile Text.isWord
  if isKeyword "true".toList word then some true
  else if isKeyword "false".toList word then some false
  else none

def ofLine? (line : List Char) : Option Declaration :=
  let (ws, rest) := words line
  match rest with
  | '=' :: after =>
    let v := after.dropWhile isGap
    match textValue? v, flagValue? v with
    | some s, _ =>
      (name? "string".toList ws).map fun n =>
        ⟨String.ofList (Text.lowerFrom [] n), .text (String.ofList s)⟩
    | none, some b =>
      (name? "boolean".toList ws).map fun n => ⟨String.ofList (Text.lowerFrom [] n), .flag b⟩
    | none, none => none
  | _ => none

/-- The declarations of a document in order; lines end at line feeds only. -/
def all (text : String) : List Declaration :=
  (Text.cutChars '\n' text.toList).filterMap ofLine?

def lastText? (name : String) (ds : List Declaration) : Option String :=
  ds.foldl (fun found d => match d.value with
    | .text s => if d.name = name then some s else found
    | .flag _ => found) none

def lastFlag? (name : String) (ds : List Declaration) : Option Bool :=
  ds.foldl (fun found d => match d.value with
    | .flag b => if d.name = name then some b else found
    | .text _ => found) none

end Declaration
end Rulesheet
