import Rulesheet.Files.Tree
import Rulesheet.Text.Quoted

/- Error records and the buffer that writes them, one JSON object a line, to a log file. The first
   flush that finds something to write makes the directory and fixes the file's name; later ones
   append to it. -/
namespace Rulesheet

structure ErrorRecord where
  timestamp : String
  macroName : String
  sheet : String
  partition : String
  errorType : String
  message : String
  deriving DecidableEq, Repr

namespace ErrorRecord

def escapeChar (c : Char) : List Char :=
  if c = '"' then ['\\', '"']
  else if c = '\\' then ['\\', '\\']
  else if c = '\n' then ['\\', 'n']
  else if c = '\r' then ['\\', 'r']
  else if c = '\t' then ['\\', 't']
  else if c = '\x08' then ['\\', 'b']
  else if c = '\x0c' then ['\\', 'f']
  else if c.toNat < 0x20 then '\\' :: 'u' :: Text.hexDigits 4 c.toNat
  else [c]

def jsonString (s : String) : List Char := '"' :: s.toList.flatMap escapeChar ++ ['"']

def fields (r : ErrorRecord) : List (String × String) :=
  [("timestamp", r.timestamp), ("macro", r.macroName), ("sheet", r.sheet),
    ("partition", r.partition), ("error_type", r.errorType), ("message", r.message)]

def jsonLine (r : ErrorRecord) : String :=
  "\x7b" ++ ", ".intercalate (r.fields.map fun (key, value) =>
    String.ofList (jsonString key) ++ ": " ++ String.ofList (jsonString value)) ++ "\x7d"

end ErrorRecord

structure ErrorLog where
  directory : Path := ⟨"", ["logs"]⟩
  buffered : List ErrorRecord := []
  file : Option Path := none
  deriving DecidableEq, Repr

namespace ErrorLog

def append (log : ErrorLog) (r : ErrorRecord) : ErrorLog :=
  { log with buffered := log.buffered ++ [r] }

/-- `moment` is a time in the form `YYYYMMDD-HHMMSS`. -/
def fileName (moment : String) : Path := ⟨"", ["errors-" ++ moment ++ ".log"]⟩

def lines (rs : List ErrorRecord) : List String := rs.map fun r => r.jsonLine ++ "\n"

def written (rs : List ErrorRecord) : String := String.join (lines rs)

/-- What a flush leaves behind: the buffer, the tree, and the file written to or the failure. -/
structure Flush where
  log : ErrorLog
  tree : FileTree
  outcome : Except FileError (Option Path)

/-- Writes the buffer to a file that is there or can be made. Only when all is written the buffer
    empties. -/
def flushTo (log : ErrorLog) (t : FileTree) (p : Path) : Flush :=
  let log := { log with file := some p }
  let attempt := t.appendTexts p (lines log.buffered)
  match attempt.error with
  | some e => ⟨log, attempt.tree, .error e⟩
  | none => ⟨{ log with buffered := [] }, attempt.tree, .ok (some p)⟩

/-- The file is named when it is first needed; then its directory is made. -/
def flush (log : ErrorLog) (t : FileTree) (moment : String) : Flush :=
  if log.buffered = [] then ⟨log, t, .ok none⟩
  else match log.file with
    | some p => log.flushTo t p
    | none =>
      let made := t.makeDirectories log.directory
      match made.error with
      | some e => ⟨log, made.tree, .error e⟩
      | none => log.flushTo made.tree (log.directory ++ fileName moment)

end ErrorLog
end Rulesheet
