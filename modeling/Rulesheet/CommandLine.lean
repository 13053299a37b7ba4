import Rulesheet.Files.Path
import Rulesheet.Text.Digit
import Rulesheet.Text.Pieces
import Rulesheet.Text.Quoted

/- The command line: one workbook at most and a few options, which may be abbreviated as long as
   one option alone is meant. A value follows its option or stands behind an equals sign in it.
   What begins with a hyphen is an option unless it is a negative number or holds a space; behind
   a double hyphen nothing is. -/
namespace Rulesheet

/-- What stands for an option: it may be left out, and a double hyphen behind the equals sign is
    no value. -/
inductive Given (α : Type) where
  | leftOut
  | withoutValue
  | value (a : α)
  deriving DecidableEq, Repr

namespace Given

def value? {α : Type} : Given α → Option α
  | value a => some a
  | _ => none

def map {α β : Type} (f : α → β) : Given α → Given β
  | leftOut => leftOut
  | withoutValue => withoutValue
  | value a => value (f a)

end Given

structure Arguments where
  workbook : Option String := none
  release : Given String := .leftOut
  config : Given Path := .leftOut
  outputDirectory : Given Path := .leftOut
  dryRun : Bool := false
  listMacros : Bool := false
  debug : Bool := false
  deriving DecidableEq, Repr

/-- A release that is left out is the empty one; none is named by an option without a value. -/
def Arguments.release? (a : Arguments) : Option String :=
  match a.release with
  | .leftOut => some ""
  | .withoutValue => none
  | .value s => some s

namespace CommandLine

inductive Flag where
  | help
  | release
  | config
  | outputDirectory
  | dryRun
  | listMacros
  | debug
  deriving DecidableEq, Repr

def spellings : List (String × Flag) :=
  [("-h", .help), ("--help", .help), ("--release", .release), ("--config", .config),
    ("--output-dir", .outputDirectory), ("--dry-run", .dryRun), ("--list-macros", .listMacros),
    ("--debug", .debug)]

def Flag.name (f : Flag) : String :=
  "/".intercalate ((spellings.filter (·.2 = f)).map Prod.fst)

def Flag.takesValue : Flag → Bool
  | .release | .config | .outputDirectory => true
  | _ => false

inductive Outcome where
  | run (a : Arguments)
  | help
  | refused (message : String)
  deriving DecidableEq, Repr

inductive Word where
  | operand (s : String)
  | separator
  | option (f : Flag) (value : Option String)
  | letters (f : Flag) (rest : List Char)
  | unknown (s : String)
  deriving DecidableEq, Repr

def Word.text : Word → String
  | operand s => s
  | separator => "--"
  | option _ _ => ""
  | letters _ _ => ""
  | unknown s => s

def spelled? (s : List Char) : Option Flag :=
  (spellings.find? (·.1.toList = s)).map Prod.snd

def cutEquals (s : List Char) : List Char × Option (List Char) :=
  let before := s.takeWhile (· ≠ '=')
  match s.drop before.length with
  | _ :: after => (before, some after)
  | [] => (before, none)

/-- The options that a word may stand for: behind two hyphens an abbreviated name, with a value
    or without; behind one a letter with more run on to it. -/
def candidates (s : List Char) : List (String × Word) :=
  match s with
  | '-' :: '-' :: _ =>
    let (start, value) := cutEquals s
    (spellings.filter fun (name, _) => start.isPrefixOf name.toList).map fun (name, f) =>
      (name, .option f (value.map String.ofList))
  | _ =>
    (spellings.filter fun (name, _) => s.take 2 = name.toList).map fun (name, f) =>
      (name, .letters f (s.drop 2))

/-- A hyphen and digits of any script with an optional point, at least one digit at the end. A final
    line feed does not count. -/
def isNegativeNumber (s : List Char) : Bool :=
  match Text.withoutFinalNewline s with
  | '-' :: rest =>
    let tail := rest.dropWhile Text.isDecimal
    (tail.isEmpty && !rest.isEmpty) ||
      (match tail with
        | '.' :: more => !more.isEmpty && more.all Text.isDecimal
        | _ => false)
  | _ => false

def classify (text : String) : Except String Word :=
  let s := text.toList
  let (start, value) := cutEquals s
  if s.head? ≠ some '-' then .ok (.operand text)
  else match spelled? s with
    | some f => .ok (.option f none)
    | none =>
      if s.length = 1 then .ok (.operand text)
      else match value, spelled? start with
        | some v, some f =>
          if start.length = 2 ∧ v ≠ [] then .ok (.letters f v)
          else .ok (.option f (some (String.ofList v)))
        | _, _ =>
          match candidates s with
          | [(_, w)] => .ok w
          | [] =>
            if isNegativeNumber s || s.contains ' ' then .ok (.operand text)
            else .ok (.unknown text)
          | several => .error ("ambiguous option: " ++ text ++ " could match " ++
              ", ".intercalate (several.map Prod.fst))

def words : List String → Except String (List Word)
  | [] => .ok []
  | "--" :: rest => .ok (.separator :: rest.map .operand)
  | s :: rest => do
    let w ← classify s
    let ws ← words rest
    .ok (w :: ws)

structure Progress where
  arguments : Arguments := {}
  workbookTaken : Bool := false
  extras : List String := []

def refuse (f : Flag) (message : String) : Outcome :=
  .refused ("argument " ++ f.name ++ ": " ++ message)

def setValue (a : Arguments) (f : Flag) (v : String) : Arguments :=
  let given : Given String := if v = "--" then .withoutValue else .value v
  match f with
  | .release => { a with release := given }
  | .config => { a with config := given.map .ofString }
  | .outputDirectory => { a with outputDirectory := given.map .ofString }
  | _ => a

def setSwitch (a : Arguments) (f : Flag) : Arguments :=
  match f with
  | .dryRun => { a with dryRun := true }
  | .listMacros => { a with listMacros := true }
  | .debug => { a with debug := true }
  | _ => a

def refuseValue (f : Flag) (v : List Char) : Outcome :=
  refuse f ("ignored explicit argument " ++ Text.quoted (String.ofList v))

def runOn (f : Flag) : List Char → Outcome
  | [] => .help
  | 'h' :: rest => runOn f rest
  | rest => refuseValue f rest

def isOption : Word → Bool
  | .option _ _ => true
  | .letters _ _ => true
  | .unknown _ => true
  | _ => false

def operands (p : Progress) (ws : List Word) : Outcome :=
  let finish := fun (p : Progress) (rest : List Word) =>
    let extras := p.extras ++ rest.map Word.text
    if extras = [] then Outcome.run p.arguments
    else .refused ("unrecognized arguments: " ++ " ".intercalate extras)
  let take := fun (s : String) => { p with arguments := { p.arguments with workbook := some s } }
  if p.workbookTaken then finish p ws
  else match ws with
    | .separator :: .operand s :: rest => finish (take s) rest
    | .separator :: rest => finish p rest
    | .operand s :: .separator :: rest => finish (take s) rest
    | .operand s :: rest => finish (take s) rest
    | rest => finish p rest

def consume : List Word → Progress → Outcome
  | [], p => operands p []
  | .option f none :: ws, p =>
    if f = .help then .help
    else if f.takesValue then
      match ws with
      | .operand v :: rest => consume rest { p with arguments := setValue p.arguments f v }
      | _ => refuse f "expected one argument"
    else consume ws { p with arguments := setSwitch p.arguments f }
  | .option f (some v) :: ws, p =>
    if f.takesValue then consume ws { p with arguments := setValue p.arguments f v }
    else refuseValue f v.toList
  | .letters f rest :: _, _ => runOn f rest
  | .unknown s :: ws, p => consume ws { p with extras := p.extras ++ [s] }
  | w :: ws, p =>
    if ws.any isOption then
      if p.workbookTaken then consume ws { p with extras := p.extras ++ [w.text] }
      else consume ws { p with
        arguments := { p.arguments with workbook := some w.text }, workbookTaken := true }
    else operands p (w :: ws)

def parse (argv : List String) : Outcome :=
  match words argv with
  | .error message => .refused message
  | .ok ws => consume ws {}

def program : String := "nrt-macros"

def usage : String :=
  "usage: nrt-macros [-h] [--release RELEASE] [--config CONFIG]\n" ++
  "                  [--output-dir OUTPUT_DIR] [--dry-run] [--list-macros]\n" ++
  "                  [--debug]\n" ++
  "                  [workbook]\n"

def helpText : String :=
  usage ++
  "\nGenerate NRT DVM ruleset XML from a workbook using macro definitions\n" ++
  "\npositional arguments:\n" ++
  "  workbook              Excel workbook (.xlsx) to process\n" ++
  "\noptions:\n" ++
  "  -h, --help            show this help message and exit\n" ++
  "  --release RELEASE     Release identifier, e.g. R2.1 or 202109\n" ++
  "  --config CONFIG       Engine config (default: config/nrt_macros.yml)\n" ++
  "  --output-dir OUTPUT_DIR\n" ++
  "                        Directory for produced XML files\n" ++
  "  --dry-run             Run macros without writing files\n" ++
  "  --list-macros         Print registered macro names then exit\n" ++
  "  --debug               Enable debug logging"

def refusalText (message : String) : String :=
  usage ++ program ++ ": error: " ++ message ++ "\n"

end CommandLine
end Rulesheet
