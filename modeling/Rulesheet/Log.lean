/- Log levels, labelled lines and the application's logger. Levels are numbers; five of them and
   the summary level between information and warning have labels. Loggers stand in a tree, and what
   is said at one of them is heard by the handlers there and above. -/
namespace Rulesheet

abbrev Level := Int

namespace Level

def debug : Level := 10
def info : Level := 20
def summary : Level := 25
def warning : Level := 30
def error : Level := 40
def critical : Level := 50

def label (level : Level) : String :=
  if level = debug then "DEBUG"
  else if level = info then "INFO"
  else if level = summary then "SUMMARY"
  else if level = warning then "WARN"
  else if level = error then "ERROR"
  else if level = critical then "CRITICAL"
  else "Level " ++ toString level

end Level

structure LogEntry where
  level : Level
  message : String
  deriving DecidableEq, Repr

namespace LogEntry

def debug (message : String) : LogEntry := ⟨Level.debug, message⟩
def info (message : String) : LogEntry := ⟨Level.info, message⟩
def warning (message : String) : LogEntry := ⟨Level.warning, message⟩
def error (message : String) : LogEntry := ⟨Level.error, message⟩

def text (e : LogEntry) : String := e.level.label ++ " " ++ e.message

def shown (threshold : Level) (entries : List LogEntry) : List String :=
  (entries.filter fun e => threshold ≤ e.level).map text

end LogEntry

structure Handler where
  level : Level
  format : LogEntry → String

def Handler.labelled (level : Level) : Handler := ⟨level, LogEntry.text⟩

/-- A place in the tree of loggers. Level 0 leaves the choice to the place above, and what reaches a
    place goes on to the handlers above it, unless the place keeps it to itself. -/
structure Channel where
  level : Level := 0
  handlers : List Handler := []
  propagate : Bool := true

namespace Channel

def threshold : List Channel → Level
  | [] => 0
  | c :: above => if c.level = 0 then threshold above else c.level

def audience : List Channel → List Handler
  | [] => []
  | c :: above => c.handlers ++ if c.propagate then audience above else []

/-- Every handler whose level the entry reaches writes one line. Entries of level 0 or less are
    dropped at every place. -/
def write (way : List Channel) (e : LogEntry) : List String :=
  if 0 < e.level ∧ threshold way ≤ e.level then
    ((audience way).filter fun h => h.level ≤ e.level).map fun h => h.format e
  else []

end Channel

/-- The application's logger, below the root of the tree. Only configuring replaces its handlers; a
    reset forgets that it was configured and nothing else. -/
structure Logger extends Channel where
  configured : Bool := false
  root : Channel := { level := Level.warning }

/-- What the parts of a program ask of the logger. Modules say something at loggers of their own, any
    number of places below the application's, that are never set to anything. -/
inductive LogCall where
  | setUp (level : Level)
  | get
  | lowerToDebug
  | reset
  | summary (message : String)
  | say (depth : Nat) (e : LogEntry)
  deriving DecidableEq, Repr

namespace Logger

def configure (g : Logger) (level : Level) : Logger :=
  if g.configured then g
  else { g with
    configured := true
    level := level
    handlers := [.labelled level]
    propagate := false }

def ensureConfigured (g : Logger) : Logger := g.configure Level.info

def lowerToDebug (g : Logger) : Logger :=
  { g with
    level := Level.debug
    handlers := g.handlers.map fun h => { h with level := Level.debug } }

def reset (g : Logger) : Logger := { g with configured := false }

def threshold (g : Logger) : Level := Channel.threshold [g.toChannel, g.root]

def say (g : Logger) (depth : Nat) (e : LogEntry) : List String :=
  Channel.write (List.replicate depth ({} : Channel) ++ [g.toChannel, g.root]) e

def write (g : Logger) (e : LogEntry) : List String := g.say 0 e

def step (g : Logger) : LogCall → Logger
  | .setUp level => g.configure level
  | .get => g.ensureConfigured
  | .lowerToDebug => g.lowerToDebug
  | .reset => g.reset
  | .summary _ => g.ensureConfigured
  | .say _ _ => g

def lines (g : Logger) : LogCall → List String
  | .summary message => g.ensureConfigured.write ⟨Level.summary, message⟩
  | .say depth e => g.say depth e
  | _ => []

end Logger
end Rulesheet
