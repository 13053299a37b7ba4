import Rulesheet.ErrorLog
import Rulesheet.Execution
import Rulesheet.Registry

/- A run: every registered macro, in registry order, on one workbook. A macro without a readable
   definition, without a target sheet or without that sheet in the workbook is skipped. A failed
   macro leaves an error record and does not stop the others. -/
namespace Rulesheet

inductive SkipReason where
  | definitionNotFound
  | noTargetSheet
  | sheetNotFound (sheet : String)
  deriving DecidableEq, Repr

namespace SkipReason

def cause : SkipReason → String
  | definitionNotFound => "definition not found"
  | noTargetSheet => "no target sheet configured"
  | sheetNotFound _ => "sheet not found"

def account (r : SkipReason) (name : String) : String :=
  name ++ " (" ++ r.cause ++ (match r with
    | sheetNotFound sheet => ": \"" ++ sheet ++ "\""
    | _ => "") ++ ")"

def entry (r : SkipReason) (name : String) : LogEntry :=
  .info ("skip macro=" ++ name ++ " reason=" ++ r.cause ++ (match r with
    | sheetNotFound sheet => " sheet=" ++ sheet
    | _ => ""))

end SkipReason

/-- What the macros of a run see; `now` is the time that error records bear. There may be no
    release at all. -/
structure RunContext where
  registry : Registry
  tree : FileTree
  book : Workbook
  release : Option String
  settings : Settings
  now : String

namespace RunContext

def results (x : RunContext) (c : MacroConfig) (name : String) : List MacroResult :=
  match x.release with
  | some release => executeMacro c x.book release x.settings name
  | none => executeUnreleased c x.book x.settings name

def entries (x : RunContext) (c : MacroConfig) (name : String) : List LogEntry :=
  match x.release with
  | some release => executionEntries c x.book release x.settings name
  | none => unreleasedEntries c x.book x.settings name

end RunContext

structure Run where
  result : RunResult := {}
  errors : List ErrorRecord := []
  entries : List LogEntry := []
  deriving DecidableEq, Repr

namespace Run

def skip (run : Run) (name : String) (r : SkipReason) : Run :=
  { run with
    result := { run.result with skipped := run.result.skipped ++ [r.account name] }
    entries := run.entries ++ [r.entry name] }

def recordFailure (x : RunContext) (name sheet : String) (run : Run) (r : MacroResult) : Run :=
  if r.success then run
  else
    let message := r.error.getD ""
    { run with
      errors := run.errors ++ [⟨x.now, name, sheet, "", "MACRO_EXECUTION_ERROR", message⟩]
      entries := run.entries ++
        [.error ("macro " ++ name ++ " failed: " ++ r.error.getD "None")] }

def countsEntry (name sheet : String) (results : List MacroResult) : LogEntry :=
  .info ("macro=" ++ name ++ " sheet=" ++ sheet ++
    " documents=" ++ toString (results.filter MacroResult.success).length ++
    " failed=" ++ toString (results.filter fun r => !r.success).length)

def execute (run : Run) (x : RunContext) (name : String) (c : MacroConfig) : Run :=
  let results := x.results c name
  let run := { run with
    result := { run.result with executed := run.result.executed ++ [name] }
    entries := run.entries ++ x.entries c name }
  let run := results.foldl (recordFailure x name c.sheet) run
  { run with
    result := { run.result with results := run.result.results ++ results }
    entries := run.entries ++ [countsEntry name c.sheet results] }

def step (x : RunContext) (run : Run) (name : String) : Run :=
  let run := { run with entries := run.entries ++ x.registry.loadEntries x.tree name }
  match x.registry.load? x.tree name with
  | none => run.skip name .definitionNotFound
  | some d =>
    if d.config.sheet = "" then run.skip name .noTargetSheet
    else if x.book.has d.config.sheet then run.execute x name d.config
    else run.skip name (.sheetNotFound d.config.sheet)

def all (x : RunContext) : Run :=
  (x.registry.names x.tree).foldl (step x) { entries := x.registry.listingEntries x.tree }

def all? (x : RunContext) : Except FileError Run :=
  (x.registry.names? x.tree).map fun _ => all x

end Run
end Rulesheet
