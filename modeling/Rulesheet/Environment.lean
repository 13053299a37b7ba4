import Rulesheet.Settings
import Rulesheet.Text.Lower
import Rulesheet.Text.Pieces

/- Environment variables, what they override, and files of assignments
   `[export] NAME=value # comment`, whose values may be quoted and may mention variables. -/
namespace Rulesheet

structure Environment where
  entries : List (String × String) := []
  deriving DecidableEq, Repr

namespace Environment

def get? (e : Environment) (name : String) : Option String :=
  (e.entries.find? (·.1 = name)).map Prod.snd

def putIn (name value : String) : List (String × String) → List (String × String)
  | [] => [(name, value)]
  | (n, v) :: rest => if n = name then (n, value) :: rest else (n, v) :: putIn name value rest

def put (e : Environment) (name value : String) : Environment :=
  ⟨putIn name value e.entries⟩

def nonEmpty? (e : Environment) (name : String) : Option String := (e.get? name).filter (· ≠ "")

end Environment

namespace Settings

def macrosVariable : String := "NRT_MACROS_DIR"

def outputVariable : String := "NRT_OUTPUT_DIR"

def overriddenBy (s : Settings) (e : Environment) : Settings :=
  { s with
    macrosDirectory := (e.nonEmpty? macrosVariable).getD s.macrosDirectory
    outputDirectory := (e.nonEmpty? outputVariable).getD s.outputDirectory }

end Settings

namespace Assignments

def isNewline (c : Char) : Bool := c == '\n' || c == '\r'

def isGap (c : Char) : Bool := Text.isBlank c && !isNewline c

def skipGap (s : List Char) : List Char := s.dropWhile isGap

def skipLine (s : List Char) : List Char :=
  match s.dropWhile fun c => !isNewline c with
  | _ :: rest => rest
  | [] => []

/-- Text up to the closing quote and what follows it. A backslash goes with the character after it,
    which a line feed cannot be. -/
def untilQuote (quote : Char) : List Char → Option (List Char × List Char)
  | '\\' :: c :: rest =>
    if c = '\n' then none
    else (untilQuote quote rest).map fun (inner, after) => ('\\' :: c :: inner, after)
  | c :: rest =>
    if c = quote then some ([], rest)
    else if c = '\\' then none
    else (untilQuote quote rest).map fun (inner, after) => (c :: inner, after)
  | [] => none

def escape? (double : Bool) (c : Char) : Option Char :=
  if c == '\\' || c == '\'' then some c
  else if !double then none
  else match c with
    | '"' => some '"' | 'a' => some '\x07' | 'b' => some '\x08' | 'f' => some '\x0c'
    | 'n' => some '\n' | 'r' => some '\r' | 't' => some '\t' | 'v' => some '\x0b' | _ => none

def unescape (double : Bool) : List Char → List Char
  | '\\' :: c :: rest =>
    match escape? double c with
    | some d => d :: unescape double rest
    | none => '\\' :: unescape double (c :: rest)
  | c :: rest => c :: unescape double rest
  | [] => []

def withoutComment : List Char → List Char
  | [] => []
  | c :: rest =>
    if Text.isBlank c && (rest.dropWhile Text.isBlank).head? == some '#' then []
    else c :: withoutComment rest

def value? (s : List Char) : Option (List Char × List Char) :=
  match s with
  | '\'' :: rest => (untilQuote '\'' rest).map fun (v, after) => (unescape false v, after)
  | '"' :: rest => (untilQuote '"' rest).map fun (v, after) => (unescape true v, after)
  | _ =>
    let line := s.takeWhile fun c => !isNewline c
    some (Text.trimEndChars (withoutComment line), s.drop line.length)

def name? (s : List Char) : Option (Option (List Char) × List Char) :=
  match s with
  | '#' :: _ => some (none, s)
  | '\'' :: rest =>
    let name := rest.takeWhile (· ≠ '\'')
    match rest.drop name.length with
    | _ :: after => if name = [] then none else some (some name, after)
    | [] => none
  | _ =>
    let name := s.takeWhile fun c => !(c == '=' || c == '#' || Text.isBlank c)
    if name = [] then none else some (some name, s.drop name.length)

def skipExport (s : List Char) : List Char :=
  match s with
  | 'e' :: 'x' :: 'p' :: 'o' :: 'r' :: 't' :: c :: rest =>
    if isGap c then skipGap rest else s
  | _ => s

/-- A value behind an equals sign, if there is one, or the place where the reading stops. A number
    sign that blanks part from the equals sign begins a comment. -/
def valuePart (s : List Char) : Except (List Char) (Option (List Char) × List Char) :=
  match s with
  | '=' :: rest =>
    let start := skipGap rest
    if start.head? = some '#' ∧ start ≠ rest then .ok (some [], start)
    else match value? start with
      | some (v, after) => .ok (some v, after)
      | none => .error start
  | _ => .ok (none, s)

def skipComment (s : List Char) : List Char :=
  match skipGap s with
  | '#' :: rest => rest.dropWhile fun c => !isNewline c
  | _ => s

def lineEnd? (s : List Char) : Option (List Char) :=
  match skipGap s with
  | [] => some []
  | '\r' :: '\n' :: rest => some rest
  | c :: rest => if isNewline c then some rest else none

def binding (s : List Char) : Except (List Char) (Option (String × Option String) × List Char) :=
  let s := skipExport s
  match name? s with
  | none => .error s
  | some (name, s) => do
    let (v, s) ← valuePart (skipGap s)
    let s := skipComment s
    match lineEnd? s with
    | some rest => .ok (name.map fun n => (String.ofList n, v.map String.ofList), rest)
    | none => .error s

/-- The bindings of a file; a line that is none is passed over. -/
def bindings : Nat → List Char → List (String × Option String)
  | 0, _ => []
  | fuel + 1, s =>
    let s := s.dropWhile Text.isBlank
    if s = [] then []
    else match binding s with
      | .error place => bindings fuel (skipLine place)
      | .ok (some b, rest) => b :: bindings fuel rest
      | .ok (none, rest) => bindings fuel rest

def mentioned : List Char → List String
  | '$' :: '\x7b' :: rest =>
    String.ofList (rest.takeWhile fun c => c ≠ '\x7d' && c ≠ ':') :: mentioned rest
  | _ :: rest => mentioned rest
  | [] => []

def expand (lookup : String → Option String) : Nat → List Char → List Char
  | 0, s => s
  | _, [] => []
  | fuel + 1, '$' :: '\x7b' :: rest =>
    let name := rest.takeWhile fun c => c ≠ '\x7d' && c ≠ ':'
    match rest.drop name.length with
    | '\x7d' :: after =>
      ((lookup (String.ofList name)).getD "").toList ++ expand lookup fuel after
    | ':' :: '-' :: more =>
      let default := more.takeWhile (· ≠ '\x7d')
      match more.drop default.length with
      | _ :: after =>
        ((lookup (String.ofList name)).getD (String.ofList default)).toList ++
          expand lookup fuel after
      | [] => '$' :: '\x7b' :: expand lookup fuel rest
    | _ => '$' :: '\x7b' :: expand lookup fuel rest
  | fuel + 1, c :: rest => c :: expand lookup fuel rest

def bind (name : String) (value : Option String) :
    List (String × Option String) → List (String × Option String)
  | [] => [(name, value)]
  | (n, v) :: rest => if n = name then (n, value) :: rest else (n, v) :: bind name value rest

def withoutMark : List Char → List Char
  | '\ufeff' :: rest => rest
  | s => s

/-- Values by name; a mentioned variable takes its value from earlier lines, then from `e`. A name
    without a value hides the variable of that name. -/
def resolved (e : Environment) (text : String) : List (String × Option String) :=
  let s := withoutMark text.toList
  let step := fun (acc : List (String × Option String)) (b : String × Option String) =>
    let lookup := fun name => match acc.find? (·.1 = name) with
      | some (_, v) => some (v.getD "")
      | none => e.get? name
    bind b.1 (b.2.map fun v => String.ofList (expand lookup v.toList.length v.toList)) acc
  (bindings s.length s).foldl step []

end Assignments

inductive VariableFault where
  | nulInside
  | equalsInName
  deriving DecidableEq, Repr

def VariableFault.message : VariableFault → String
  | nulInside => "embedded null byte"
  | equalsInName => "illegal environment variable name"

namespace Environment

def fault? (name value : String) : Option VariableFault :=
  if name.toList.contains '\x00' || value.toList.contains '\x00' then some .nulInside
  else if name.toList.contains '=' then some .equalsInName
  else none

/-- Puts values one by one, up to the first that cannot be set. -/
def putAll (e : Environment) : List (String × Option String) → Environment × Option VariableFault
  | [] => (e, none)
  | (_, none) :: rest => e.putAll rest
  | (name, some value) :: rest => match fault? name value with
    | some fault => (e, some fault)
    | none => (e.put name value).putAll rest

def disablingVariable : String := "PYTHON_DOTENV_DISABLED"

def affirmations : List String := ["1", "true", "t", "yes", "y"]

def foldLongS (c : Char) : Char := if c = 'ſ' then 's' else c

def forbidsFiles (e : Environment) : Bool :=
  match e.get? disablingVariable with
  | some v => affirmations.contains ((Text.lower v).map foldLongS)
  | none => false

def assign (e : Environment) (text : String) : Environment × Option VariableFault :=
  e.putAll (Assignments.resolved e text)

end Environment
end Rulesheet
