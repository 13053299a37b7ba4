import Rulesheet.CommandLine
import Rulesheet.Files.Workbook
import Rulesheet.Output
import Rulesheet.Run
import Rulesheet.Settings.Loading

/- One invocation of the command as a function of its arguments, the environment, the file tree
   and the time. It ends with an exit code, or with a failure that nothing reports. -/
namespace Rulesheet

structure Moment where
  timestamp : String
  stamp : String
  deriving DecidableEq, Repr

inductive OutputLine where
  | raw (text : String)
  | entry (e : LogEntry)
  deriving DecidableEq, Repr

inductive Escape where
  | file (e : FileError)
  | load (e : LoadError)
  | noConfigPath
  deriving DecidableEq, Repr

def Escape.message : Escape → String
  | file e => e.message
  | load e => e.message
  | noConfigPath => "'list' object has no attribute 'exists'"

inductive Ending where
  | exit (code : Nat)
  | escaped (e : Escape)
  deriving DecidableEq, Repr

structure Session where
  tree : FileTree
  lines : List OutputLine
  errorText : Option String
  ending : Ending
  deriving DecidableEq, Repr

namespace Session

def success : Nat := 0
def fatal : Nat := 1
def partialFailure : Nat := 2

def defaultConfig : Path := ⟨"", ["config", "nrt_macros.yml"]⟩

def environmentFile : Path := ⟨"", [".env"]⟩

def shown (threshold : Level) (lines : List OutputLine) : List String :=
  lines.flatMap fun line => match line with
    | .raw text => [text]
    | .entry e => LogEntry.shown threshold [e]

def environmentWarning (message : String) : OutputLine :=
  .raw ("WARNING: failed to load .env via python-dotenv: " ++ message)

def environment (t : FileTree) (e : Environment) : Environment × List OutputLine :=
  if e.forbidsFiles then (e, [])
  else match t.readText environmentFile with
  | .ok text => match e.assign text with
    | (e, none) => (e, [])
    | (e, some fault) => (e, [environmentWarning fault.message])
  | .error (.decode fault) => (e, [environmentWarning fault.message])
  | .error (.file _) => (e, [])

/-- A named configuration must be there; the default one need not. -/
def settings (t : FileTree) (e : Environment) (config : Given Path) :
    Except Escape Settings :=
  match config with
  | .value p => (Settings.load t e p).mapError .load
  | .withoutValue => .error .noConfigPath
  | .leftOut => match t.exists? defaultConfig with
    | .ok true => (Settings.load t e defaultConfig).mapError .load
    | .ok false => .ok (Settings.overriddenBy {} e)
    | .error x => .error (.file x)

def entryLines (entries : List LogEntry) : List OutputLine := entries.map .entry

/-- What is said of a flush. A failure that is not the system's is not caught. -/
def recordedEntries : Except FileError (Option Path) → Except FileError (List LogEntry)
  | .ok none => .ok []
  | .ok (some p) => .ok [.warning ("errors recorded in " ++ p.text)]
  | .error e =>
    if e.isFault then .ok [.warning ("error log flush failed: " ++ e.message)] else .error e

def conclude (t : FileTree) (a : Arguments) (s : Settings) (m : Moment) (registered : Nat)
    (run : Run) (before : List OutputLine) : Session :=
  let skips := run.result.skipped.map fun skip => LogEntry.info ("skipped: " ++ skip)
  let lines := before ++ entryLines (run.entries ++ skips)
  let directory := a.outputDirectory.value?.getD (.ofString s.outputDirectory)
  let writing := if a.dryRun then { tree := t } else Writing.all t directory run.result.results
  match writing.error with
  | some e => ⟨writing.tree, lines ++ entryLines writing.entries, none, .escaped (.file e)⟩
  | none =>
    let wrote := writing.written.map fun p => LogEntry.info ("wrote " ++ p.text)
    let lines := lines ++ entryLines (writing.entries ++ wrote)
    let log : ErrorLog := { buffered := run.errors }
    let flush := log.flush writing.tree m.stamp
    match recordedEntries flush.outcome with
    | .error e => ⟨flush.tree, lines, none, .escaped (.file e)⟩
    | .ok recorded =>
      let summary : LogEntry := ⟨Level.summary, run.result.summary registered⟩
      let failed := !run.result.failures.isEmpty || 0 < writing.refused
      ⟨flush.tree, lines ++ entryLines (recorded ++ [summary]), none,
        .exit (if failed then partialFailure else success)⟩

def process (t : FileTree) (a : Arguments) (s : Settings) (m : Moment) (p : Path)
    (lines : List OutputLine) : Session :=
  let stop := fun (message : String) =>
    (⟨t, lines ++ [.entry (.error message)], none, .exit fatal⟩ : Session)
  match t.exists? p with
  | .error e => ⟨t, lines, none, .escaped (.file e)⟩
  | .ok false => stop ("workbook not found: " ++ p.text)
  | .ok true => match t.readWorkbook p none with
    | .error fault => stop ("workbook: " ++ fault.message)
    | .ok book =>
      let registry := Registry.ofSettings s
      let release := (a.release?.filter (· ≠ "")).getD "-"
      let begun := lines ++ entryLines (.info ("Processing workbook: " ++ p.name ++ " release=" ++
        release) :: registry.listingEntries t)
      let run := Run.all ⟨registry, t, book, a.release?, s, m.timestamp⟩
      conclude t a s m (registry.names t).length run begun

def start (t : FileTree) (e : Environment) (m : Moment) (a : Arguments) : Session :=
  let (e, warnings) := environment t e
  let lines := warnings ++
    (if a.debug then [.entry (.debug "debug mode enabled")] else [])
  let stop := fun (message : String) =>
    (⟨t, lines ++ [.entry (.error message)], none, .exit fatal⟩ : Session)
  match settings t e a.config with
  | .error (.load (.config fault)) => stop ("config: " ++ fault.message)
  | .error escape => ⟨t, lines, none, .escaped escape⟩
  | .ok s =>
    let registry := Registry.ofSettings s
    match t.isDirectory? registry.directory with
    | .error x => ⟨t, lines, none, .escaped (.file x)⟩
    | .ok false => stop ("macros directory not found: " ++ registry.directory.text)
    | .ok true =>
      if a.listMacros then
        ⟨t, lines ++ entryLines (registry.listingEntries t) ++ (registry.names t).map .raw, none,
          .exit success⟩
      else match a.workbook with
        | none => stop "workbook: no workbook given"
        | some "" => stop "workbook: no workbook given"
        | some name => process t a s m (.ofString name) lines

def threshold (a : Arguments) : Level := if a.debug then Level.debug else Level.info

structure Report where
  tree : FileTree
  output : List String
  errorText : Option String
  ending : Ending
  deriving DecidableEq, Repr

def run (argv : List String) (e : Environment) (t : FileTree) (m : Moment) : Report :=
  match CommandLine.parse argv with
  | .help => ⟨t, [CommandLine.helpText], some "", .exit success⟩
  | .refused message => ⟨t, [], some (CommandLine.refusalText message), .exit 2⟩
  | .run a =>
    let s := start t e m a
    ⟨s.tree, shown (threshold a) s.lines, s.errorText, s.ending⟩

end Session
end Rulesheet
