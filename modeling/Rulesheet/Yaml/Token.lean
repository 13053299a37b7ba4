import Rulesheet.Data.Fault
import Rulesheet.Numeral
import Rulesheet.Text.Utf8

/- Tokens of YAML 1.1 text. Block structure comes out as explicit starts and ends, found from the
   columns of lines. A scalar that turns out to be a key has its key token put in front of it,
   which is possible on one line and over 1024 characters at most. A fault of the text is the last
   token; a reader that stops before it never learns of it. -/
namespace Rulesheet.Yaml

/-- Text that is no YAML, or a part of it that no value corresponds to. -/
inductive LoadFault where
  | invalid
  | value (fault : ValueFault)
  deriving DecidableEq, Repr

abbrev Scan := Except LoadFault

def refused {α : Type} : Scan α := .error .invalid

inductive Directive where
  | version (major : Int)
  | tag (handle uri : String)
  | other
  deriving DecidableEq, Repr

inductive Token where
  | directive (d : Directive)
  | documentStart
  | documentEnd
  | blockSequenceStart
  | blockMappingStart
  | blockEnd
  | flowSequenceStart
  | flowSequenceEnd
  | flowMappingStart
  | flowMappingEnd
  | flowEntry
  | blockEntry
  | key
  | value
  | alias (name : String)
  | anchor (name : String)
  | tag (handle : Option String) (suffix : String)
  | scalar (isPlain : Bool) (text : String)
  | broken (fault : LoadFault)
  deriving DecidableEq, Repr

def isBreak (c : Char) : Bool :=
  c == '\n' || c == '\r' || c == '\u0085' || c == '\u2028' || c == '\u2029'

/-- Stands for the end of the text, in which it cannot occur. -/
def endMark : Char := '\x00'

def endsLine (c : Char) : Bool := c == endMark || isBreak c

def endsWord (c : Char) : Bool := c == ' ' || c == '\t' || endsLine c

def isAllowed (c : Char) : Bool :=
  let n := c.toNat
  n == 0x09 || n == 0x0A || n == 0x0D || (0x20 ≤ n && n ≤ 0x7E) || n == 0x85 ||
    (0xA0 ≤ n && n ≤ 0xD7FF) || (0xE000 ≤ n && n ≤ 0xFFFD) || 0x10000 ≤ n

/-- A place where a key may have begun. A required one must turn out to be a key. -/
structure KeyPlace where
  level : Nat
  position : Nat
  required : Bool
  index : Nat
  line : Nat
  column : Nat
  deriving Repr

structure Lexer where
  rest : List Char
  index : Nat := 0
  line : Nat := 0
  column : Nat := 0
  indent : Int := -1
  indents : List Int := []
  level : Nat := 0
  keyAllowed : Bool := true
  places : List KeyPlace := []
  tokens : Array Token := #[]

namespace Lexer

def peek (s : Lexer) : Char := s.rest.headD endMark

def peekAt (s : Lexer) (n : Nat) : Char := (s.rest[n]?).getD endMark

def advance (s : Lexer) : Lexer :=
  match s.rest with
  | [] => s
  | c :: rest =>
    if isBreak c && !(c == '\r' && rest.head? == some '\n') then
      { s with rest := rest, index := s.index + 1, line := s.line + 1, column := 0 }
    else
      { s with rest := rest, index := s.index + 1,
               column := if c == '\ufeff' then s.column else s.column + 1 }

def skip : Nat → Lexer → Lexer
  | 0, s => s
  | n + 1, s => skip n s.advance

def skipWhile (p : Char → Bool) (s : Lexer) : Lexer := skip (s.rest.takeWhile p).length s

def emit (s : Lexer) (t : Token) : Lexer := { s with tokens := s.tokens.push t }

def takeBreak (s : Lexer) : List Char × Lexer :=
  match s.rest with
  | '\r' :: '\n' :: _ => (['\n'], skip 2 s)
  | c :: _ =>
    if c == '\u2028' || c == '\u2029' then ([c], s.advance)
    else if isBreak c then (['\n'], s.advance)
    else ([], s)
  | [] => ([], s)

def atSeparator (s : Lexer) : Bool :=
  match s.rest with
  | '-' :: '-' :: '-' :: _ => endsWord (s.peekAt 3)
  | '.' :: '.' :: '.' :: _ => endsWord (s.peekAt 3)
  | _ => false

/-! Places of keys and indentation. -/

/-- Forgets places out of reach; a required one must not be among them. -/
def dropStale (s : Lexer) : Scan Lexer :=
  let stale := fun (k : KeyPlace) => k.line ≠ s.line || 1024 < s.index - k.index
  if s.places.any fun k => stale k && k.required then refused
  else .ok { s with places := s.places.filter fun k => !stale k }

def place? (s : Lexer) : Option KeyPlace := s.places.find? (·.level = s.level)

def dropPlace (s : Lexer) : Scan Lexer :=
  match s.place? with
  | some k => if k.required then refused
    else .ok { s with places := s.places.filter (·.level ≠ s.level) }
  | none => .ok s

def savePlace (s : Lexer) : Scan Lexer :=
  if s.keyAllowed then do
    let s ← s.dropPlace
    let k : KeyPlace := ⟨s.level, s.tokens.size, s.level = 0 ∧ s.indent = s.column, s.index, s.line,
      s.column⟩
    .ok { s with places := k :: s.places }
  else .ok s

def unwindFrom (column : Int) : List Int → Lexer → Lexer
  | [], s => s
  | outer :: more, s =>
    if column < s.indent then
      unwindFrom column more ({ s with indent := outer, indents := more }.emit .blockEnd)
    else s

def unwind (s : Lexer) (column : Int) : Lexer :=
  if s.level = 0 then unwindFrom column s.indents s else s

def openBlock (s : Lexer) (column : Nat) (start : Token) : Lexer :=
  if s.indent < column then
    { s with indents := s.indent :: s.indents, indent := column }.emit start
  else s

def allowKey (s : Lexer) (allowed : Bool) : Lexer := { s with keyAllowed := allowed }

/-! Between tokens. -/

def toNextToken : Nat → Lexer → Lexer
  | 0, s => s
  | fuel + 1, s =>
    let s := if s.index = 0 ∧ s.peek = '\ufeff' then s.advance else s
    let s := s.skipWhile (· == ' ')
    let s := if s.peek = '#' then s.skipWhile fun c => !endsLine c else s
    match s.takeBreak with
    | ([], _) => s
    | (_, after) => toNextToken fuel (if s.level = 0 then after.allowKey true else after)

/-! Scalars. -/

def plainRun (inFlow : Bool) : List Char → List Char
  | [] => []
  | c :: rest =>
    let next := rest.headD endMark
    if endsWord c then []
    else if c == ':' && (endsWord next || (inFlow && ",[]\x7b\x7d".toList.contains next)) then []
    else if inFlow && ",?[]\x7b\x7d".toList.contains c then []
    else c :: plainRun inFlow rest

/-- Line breaks in a scalar: a single one is a blank, more are as many less one. -/
def foldBreaks (first : List Char) (more : List Char) : List Char :=
  if first ≠ ['\n'] then first ++ more
  else if more = [] then [' ']
  else more

def plainBreaks : Nat → List Char → Lexer → Option (List Char) × Lexer
  | 0, acc, s => (some acc, s)
  | fuel + 1, acc, s =>
    if s.peek = ' ' then plainBreaks fuel acc s.advance
    else match s.takeBreak with
      | ([], _) => (some acc, s)
      | (b, s) => if s.atSeparator then (none, s) else plainBreaks fuel (acc ++ b) s

def plainSpaces (s : Lexer) : List Char × Lexer :=
  let blanks := s.rest.takeWhile (· == ' ')
  let s := skip blanks.length s
  match s.takeBreak with
  | ([], _) => (blanks, s)
  | (b, s) =>
    let s := s.allowKey true
    if s.atSeparator then ([], s)
    else match plainBreaks s.rest.length [] s with
      | (some more, s) => (foldBreaks b more, s)
      | (none, s) => ([], s)

def plainScalar (indent : Int) : Nat → List Char → List Char → Lexer → List Char × Lexer
  | 0, acc, _, s => (acc, s)
  | fuel + 1, acc, spaces, s =>
    let run := if s.peek = '#' then [] else plainRun (s.level ≠ 0) s.rest
    if run = [] then (acc, s)
    else
      let s := skip run.length (s.allowKey false)
      let (more, s) := s.plainSpaces
      if more = [] ∨ s.peek = '#' ∨ (s.level = 0 ∧ (s.column : Int) < indent) then
        (acc ++ spaces ++ run, s)
      else plainScalar indent fuel (acc ++ spaces ++ run) more s

def isHexDigit (c : Char) : Bool := Numeral.isDigitIn 16 c

def hexValue (cs : List Char) : Nat := Numeral.natIn 16 cs

def ofCode (code : Nat) : Scan Char :=
  if 0x80000000 ≤ code then .error (.value .noCharacterCode)
  else if 0x110000 ≤ code then .error (.value .noCharacter)
  else if 0xD800 ≤ code ∧ code < 0xE000 then .ok (Text.ofSurrogate code)
  else .ok (Char.ofNat code)

def escape? (c : Char) : Option Char :=
  match c with
  | '0' => some '\x00' | 'a' => some '\x07' | 'b' => some '\x08' | 't' => some '\t'
  | '\t' => some '\t' | 'n' => some '\n' | 'v' => some '\x0b' | 'f' => some '\x0c'
  | 'r' => some '\r' | 'e' => some '\x1b' | ' ' => some ' ' | '"' => some '"'
  | '\\' => some '\\' | '/' => some '/' | 'N' => some '\u0085' | '_' => some '\u00a0'
  | 'L' => some '\u2028' | 'P' => some '\u2029' | _ => none

def escapeLength? (c : Char) : Option Nat :=
  match c with
  | 'x' => some 2 | 'u' => some 4 | 'U' => some 8 | _ => none

def quotedBreaks : Nat → List Char → Lexer → Scan (List Char × Lexer)
  | 0, acc, s => .ok (acc, s)
  | fuel + 1, acc, s =>
    if s.atSeparator then refused
    else
      let s := s.skipWhile fun c => c == ' ' || c == '\t'
      match s.takeBreak with
      | ([], _) => .ok (acc, s)
      | (b, s) => quotedBreaks fuel (acc ++ b) s

def quotedScalar (double : Bool) : Nat → List Char → Lexer → Scan (List Char × Lexer)
  | 0, _, _ => refused
  | fuel + 1, acc, s =>
    match s.rest with
    | [] => refused
    | c :: _ =>
      if c == ' ' || c == '\t' || isBreak c then
        let blanks := s.rest.takeWhile fun c => c == ' ' || c == '\t'
        let s := skip blanks.length s
        match s.takeBreak with
        | ([], _) => if s.rest = [] then refused else quotedScalar double fuel (acc ++ blanks) s
        | (b, s) => do
          let (more, s) ← quotedBreaks (s.rest.length + 1) [] s
          quotedScalar double fuel (acc ++ foldBreaks b more) s
      else if double then
        if c == '"' then .ok (acc, s.advance)
        else if c == '\\' then
          let s := s.advance
          let e := s.peek
          match escape? e, escapeLength? e with
          | some d, _ => quotedScalar double fuel (acc ++ [d]) s.advance
          | none, some n =>
            let digits := s.advance.rest.take n
            if digits.length = n ∧ digits.all isHexDigit then do
              let d ← ofCode (hexValue digits)
              quotedScalar double fuel (acc ++ [d]) (skip (n + 1) s)
            else refused
          | none, none =>
            if isBreak e then do
              let (more, s) ← quotedBreaks (s.rest.length + 1) [] s.takeBreak.2
              quotedScalar double fuel (acc ++ more) s
            else refused
        else quotedScalar double fuel (acc ++ [c]) s.advance
      else if c == '\'' then
        if s.peekAt 1 = '\'' then quotedScalar double fuel (acc ++ [c]) (skip 2 s)
        else .ok (acc, s.advance)
      else quotedScalar double fuel (acc ++ [c]) s.advance

/-- Header of a block scalar: what to do with the final line breaks, and the indentation. -/
def blockHeader (s : Lexer) : Scan (Option Bool × Option Nat × Lexer) :=
  let chomp := fun (c : Char) =>
    if c == '+' then some true else if c == '-' then some false else none
  let size := fun (c : Char) => if c.isDigit then some (c.toNat - 48) else none
  let (keep, increment, s) :=
    match chomp s.peek with
    | some keep =>
      let s := s.advance
      match size s.peek with
      | some n => (some keep, some n, s.advance)
      | none => (some keep, none, s)
    | none => match size s.peek with
      | some n =>
        let s := s.advance
        match chomp s.peek with
        | some keep => (some keep, some n, s.advance)
        | none => (none, some n, s)
      | none => (none, none, s)
  if increment = some 0 then refused
  else if !(s.peek == ' ' || endsLine s.peek) then refused
  else
    let s := s.skipWhile (· == ' ')
    let s := if s.peek = '#' then s.skipWhile fun c => !endsLine c else s
    if endsLine s.peek then .ok (keep, increment, s.takeBreak.2) else refused

def blockIndentation : Nat → List Char → Nat → Lexer → List Char × Nat × Lexer
  | 0, acc, widest, s => (acc, widest, s)
  | fuel + 1, acc, widest, s =>
    if s.peek = ' ' then
      let s := s.advance
      blockIndentation fuel acc (max widest s.column) s
    else match s.takeBreak with
      | ([], _) => (acc, widest, s)
      | (b, s) => blockIndentation fuel (acc ++ b) widest s

def skipIndent (indent : Int) : Nat → Lexer → Lexer
  | 0, s => s
  | fuel + 1, s =>
    if (s.column : Int) < indent ∧ s.peek = ' ' then skipIndent indent fuel s.advance else s

def blockBreaks (indent : Int) : Nat → List Char → Lexer → List Char × Lexer
  | 0, acc, s => (acc, s)
  | fuel + 1, acc, s =>
    let s := skipIndent indent s.rest.length s
    match s.takeBreak with
    | ([], _) => (acc, s)
    | (b, s) => blockBreaks indent fuel (acc ++ b) s

/-- Lines of a block scalar: the text so far, the last line's break and the breaks after it. -/
def blockLines (folded : Bool) (indent : Int) :
    Nat → List Char → List Char → List Char → Lexer → List Char × List Char × List Char × Lexer
  | 0, acc, lineBreak, breaks, s => (acc, lineBreak, breaks, s)
  | fuel + 1, acc, lineBreak, breaks, s =>
    if (s.column : Int) = indent ∧ s.rest ≠ [] then
      let leading := s.peek = ' ' ∨ s.peek = '\t'
      let line := s.rest.takeWhile fun c => !endsLine c
      let acc := acc ++ breaks ++ line
      let (lineBreak, s) := (skip line.length s).takeBreak
      let (breaks, s) := blockBreaks indent (s.rest.length + 1) [] s
      if (s.column : Int) = indent ∧ s.rest ≠ [] then
        let joined := folded ∧ lineBreak = ['\n'] ∧ ¬ leading ∧ ¬ (s.peek = ' ' ∨ s.peek = '\t')
        let acc := if joined then (if breaks = [] then acc ++ [' '] else acc) else acc ++ lineBreak
        blockLines folded indent fuel acc lineBreak breaks s
      else (acc, lineBreak, breaks, s)
    else (acc, lineBreak, breaks, s)

def blockScalar (folded : Bool) (s : Lexer) : Scan (List Char × Lexer) := do
  let (keep, increment, s) ← s.advance.blockHeader
  let least : Int := max 1 (s.indent + 1)
  let fuel := s.rest.length + 1
  let (breaks, indent, s) := match increment with
    | none =>
      let (breaks, widest, s) := blockIndentation fuel [] 0 s
      (breaks, max least widest, s)
    | some n =>
      let indent := least + n - 1
      let (breaks, s) := blockBreaks indent fuel [] s
      (breaks, indent, s)
  let (acc, lineBreak, breaks, s) := blockLines folded indent fuel [] [] breaks s
  let acc := if keep = some false then acc else acc ++ lineBreak
  .ok (if keep = some true then acc ++ breaks else acc, s)

/-! Anchors, tags and directives. -/

def isNameChar (c : Char) : Bool := c.isAlphanum || c == '-' || c == '_'

def name (s : Lexer) : Scan (String × Lexer) :=
  let cs := s.rest.takeWhile isNameChar
  if cs = [] then refused else .ok (String.ofList cs, skip cs.length s)

def anchorName (s : Lexer) : Scan (String × Lexer) := do
  let (name, s) ← s.name
  if endsWord s.peek || "?:,]\x7d%@`".toList.contains s.peek then .ok (name, s) else refused

def isUriChar (c : Char) : Bool := c.isAlphanum || "-;/?:@&=+$,_.!~*'()[]".toList.contains c

def escapedBytes : Nat → Lexer → Scan (List UInt8 × Lexer)
  | 0, s => .ok ([], s)
  | fuel + 1, s =>
    if s.peek ≠ '%' then .ok ([], s)
    else
      let ds := s.advance.rest.take 2
      if ds.length = 2 ∧ ds.all isHexDigit then do
        let (more, s) ← escapedBytes fuel (skip 3 s)
        .ok ((hexValue ds).toUInt8 :: more, s)
      else refused

def uriText : Nat → Lexer → Scan (List Char × Lexer)
  | 0, s => .ok ([], s)
  | fuel + 1, s => do
    let run := s.rest.takeWhile isUriChar
    let s := skip run.length s
    if s.peek = '%' then
      let (bytes, s) ← escapedBytes s.rest.length s
      match Utf8.decode bytes with
      | .ok t =>
        let (more, s) ← uriText fuel s
        .ok (run ++ t.toList ++ more, s)
      | .error _ => refused
    else .ok (run, s)

def uri (s : Lexer) : Scan (String × Lexer) := do
  let (cs, after) ← uriText s.rest.length s
  if cs = [] then refused else .ok (String.ofList cs, after)

def tagHandle (s : Lexer) : Scan (String × Lexer) :=
  if s.peek ≠ '!' then refused
  else if s.peekAt 1 = ' ' then .ok ("!", s.advance)
  else
    let name := s.advance.rest.takeWhile isNameChar
    let after := skip (name.length + 1) s
    if after.peek = '!' then .ok ("!" ++ String.ofList name ++ "!", after.advance) else refused

def tagToken (s : Lexer) : Scan (Token × Lexer) := do
  let next := s.peekAt 1
  let word := (s.rest.drop 1).takeWhile fun c => !(c == ' ' || endsLine c)
  let (token, s) ←
    if next = '<' then do
      let (suffix, s) ← (skip 2 s).uri
      if s.peek = '>' then .ok (Token.tag none suffix, s.advance) else refused
    else if endsWord next then .ok (Token.tag none "!", s.advance)
    else do
      let (handle, s) ← if word.contains '!' then s.tagHandle else .ok ("!", s.advance)
      let (suffix, s) ← s.uri
      .ok (Token.tag (some handle) suffix, s)
  if s.peek = ' ' ∨ endsLine s.peek then .ok (token, s) else refused

def number (s : Lexer) : Scan (Int × Lexer) := do
  let ds := s.rest.takeWhile Char.isDigit
  if ds = [] then refused
  else
    let n ← (Numeral.integer 10 (String.ofList ds)).mapError .value
    .ok (n, skip ds.length s)

def directiveBody (name : String) (s : Lexer) : Scan (Directive × Lexer) := do
  let blank := fun (c : Char) => c == ' '
  if name = "YAML" then
    let (major, s) ← (s.skipWhile blank).number
    if s.peek ≠ '.' then refused
    else
      let (_, s) ← s.advance.number
      if s.peek = ' ' ∨ endsLine s.peek then .ok (.version major, s) else refused
  else if name = "TAG" then
    let (handle, s) ← (s.skipWhile blank).tagHandle
    if s.peek ≠ ' ' then refused
    else
      let (uri, s) ← (s.skipWhile blank).uri
      if s.peek = ' ' ∨ endsLine s.peek then .ok (.tag handle uri, s) else refused
  else .ok (.other, s.skipWhile fun c => !endsLine c)

def directiveToken (s : Lexer) : Scan (Token × Lexer) := do
  let (name, s) ← s.advance.name
  if !(s.peek == ' ' || endsLine s.peek) then refused
  else
    let (d, s) ← s.directiveBody name
    let s := s.skipWhile (· == ' ')
    let s := if s.peek = '#' then s.skipWhile fun c => !endsLine c else s
    if endsLine s.peek then .ok (.directive d, s.takeBreak.2) else refused

/-! One token and all tokens. -/

def startsPlain (s : Lexer) : Bool :=
  let c := s.peek
  !(endsWord c || "-?:,[]\x7b\x7d#&*!|>'\"%@`".toList.contains c) ||
    (!endsWord (s.peekAt 1) && (c == '-' || (s.level == 0 && (c == '?' || c == ':'))))

def openFlow (s : Lexer) (t : Token) : Scan Lexer := do
  let s ← s.savePlace
  .ok ({ s with level := s.level + 1, keyAllowed := true }.advance.emit t)

/-- An end without a start can never be parsed. -/
def closeFlow (s : Lexer) (t : Token) : Scan Lexer := do
  let s ← s.dropPlace
  if s.level = 0 then refused
  else .ok ({ s with level := s.level - 1, keyAllowed := false }.advance.emit t)

def blockIndicator (s : Lexer) (start t : Token) (keyAfter : Bool) : Scan Lexer := do
  let s ← if s.level ≠ 0 then .ok s
    else if s.keyAllowed then .ok (s.openBlock s.column start)
    else refused
  let s ← (s.allowKey keyAfter).dropPlace
  .ok (s.advance.emit t)

def insertAt (tokens : Array Token) (i : Nat) (ts : List Token) : Array Token :=
  ((tokens.toList.take i) ++ ts ++ (tokens.toList.drop i)).toArray

def valueIndicator (s : Lexer) : Scan Lexer :=
  match s.place? with
  | some k =>
    let s := { s with places := s.places.filter (·.level ≠ s.level), keyAllowed := false }
    let opens := s.level = 0 ∧ s.indent < (k.column : Int)
    let tokens := insertAt s.tokens k.position
      (if opens then [.blockMappingStart, .key] else [.key])
    let s := if opens then { s with indents := s.indent :: s.indents, indent := k.column } else s
    .ok ({ s with tokens := tokens }.advance.emit .value)
  | none => s.blockIndicator .blockMappingStart .value (s.level = 0)

def separator (s : Lexer) (t : Token) : Scan Lexer := do
  let s ← (s.unwind (-1)).dropPlace
  .ok ((skip 3 (s.allowKey false)).emit t)

def marked (s : Lexer) (scan : Lexer → Scan (Token × Lexer)) : Scan Lexer := do
  let s ← s.savePlace
  let (t, s) ← scan (s.allowKey false)
  .ok (s.emit t)

def next (s : Lexer) : Scan Lexer :=
  let c := s.peek
  let after := s.peekAt 1
  let inFlow := s.level ≠ 0
  if c = '%' ∧ s.column = 0 then do
    let s ← (s.unwind (-1)).dropPlace
    let (t, s) ← (s.allowKey false).directiveToken
    .ok (s.emit t)
  else if c = '-' ∧ s.column = 0 ∧ s.atSeparator then s.separator .documentStart
  else if c = '.' ∧ s.column = 0 ∧ s.atSeparator then s.separator .documentEnd
  else if c = '[' then s.openFlow .flowSequenceStart
  else if c = '\x7b' then s.openFlow .flowMappingStart
  else if c = ']' then s.closeFlow .flowSequenceEnd
  else if c = '\x7d' then s.closeFlow .flowMappingEnd
  else if c = ',' then do
    let s ← (s.allowKey true).dropPlace
    .ok (s.advance.emit .flowEntry)
  else if c = '-' ∧ endsWord after then s.blockIndicator .blockSequenceStart .blockEntry true
  else if c = '?' ∧ (inFlow ∨ endsWord after) then
    s.blockIndicator .blockMappingStart .key (s.level = 0)
  else if c = ':' ∧ (inFlow ∨ endsWord after) then s.valueIndicator
  else if c = '*' then s.marked fun s => do
    let (name, s) ← s.advance.anchorName
    .ok (.alias name, s)
  else if c = '&' then s.marked fun s => do
    let (name, s) ← s.advance.anchorName
    .ok (.anchor name, s)
  else if c = '!' then s.marked tagToken
  else if (c = '|' ∨ c = '>') ∧ ¬ inFlow then do
    let s ← (s.allowKey true).dropPlace
    let (text, s) ← s.blockScalar (c = '>')
    .ok (s.emit (.scalar false (String.ofList text)))
  else if c = '\'' ∨ c = '"' then s.marked fun s => do
    let (text, s) ← quotedScalar (c = '"') (s.rest.length + 1) [] s.advance
    .ok (.scalar false (String.ofList text), s)
  else if s.startsPlain then s.marked fun s =>
    let (text, s) := plainScalar (s.indent + 1) (s.rest.length + 1) [] [] s
    .ok (.scalar true (String.ofList text), s)
  else refused

def step (s : Lexer) : Scan (Lexer × Bool) := do
  let s ← (toNextToken (s.rest.length + 1) s).dropStale
  let s := s.unwind s.column
  if s.rest = [] then
    let s ← (s.unwind (-1)).dropPlace
    .ok (s, true)
  else .ok (← s.next, false)

/-- The tokens that are certain. Where a key may still turn out to begin, and from there on, none
    is. -/
def certain (s : Lexer) : List Token :=
  match s.dropStale with
  | .ok s => match (s.places.map KeyPlace.position).min? with
    | some n => s.tokens.toList.take n
    | none => s.tokens.toList
  | .error _ => s.tokens.toList

def run : Nat → Lexer → List Token
  | 0, s => s.certain ++ [.broken .invalid]
  | fuel + 1, s => match s.step with
    | .error fault => s.certain ++ [.broken fault]
    | .ok (s, true) => s.tokens.toList
    | .ok (s, false) => run fuel s

end Lexer

/-- The tokens of a text. Every token takes a character at least. -/
def Token.scan (text : String) : List Token :=
  let cs := text.toList
  if cs.all isAllowed then Lexer.run (cs.length + 1) { rest := cs } else [.broken .invalid]

end Rulesheet.Yaml
