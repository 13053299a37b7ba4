/- Results of macro executions, one a document or one for a failed macro, and the account of a
   whole run. -/
namespace Rulesheet

structure MacroResult where
  content : String
  fileName : String
  success : Bool
  error : Option String
  macroName : String
  deriving DecidableEq, Repr

namespace MacroResult

def document (content fileName macroName : String) : MacroResult :=
  ⟨content, fileName, true, none, macroName⟩

def failed (message macroName : String) : MacroResult := ⟨"", "", false, some message, macroName⟩

end MacroResult

structure RunResult where
  results : List MacroResult := []
  executed : List String := []
  skipped : List String := []
  deriving DecidableEq, Repr

namespace RunResult

def successes (r : RunResult) : List MacroResult := r.results.filter MacroResult.success

def failures (r : RunResult) : List MacroResult := r.results.filter fun x => !x.success

def allFailed (r : RunResult) : Bool := !r.results.isEmpty && r.successes.isEmpty

def summary (r : RunResult) (registered : Int) : String :=
  "macros=" ++ toString r.executed.length ++ "/" ++ toString registered ++
    " skipped=" ++ toString r.skipped.length ++
    " documents=" ++ toString r.successes.length ++
    " failed=" ++ toString r.failures.length

end RunResult
end Rulesheet
