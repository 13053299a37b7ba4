import Rulesheet.Environment
import Rulesheet.Files.Decoding
import Rulesheet.Settings.Draft
import Rulesheet.Yaml.Value

/- Loading a configuration file: YAML, checked against the schema, with defaults for what it leaves
   out and the environment's word in the end. -/
namespace Rulesheet

inductive ConfigFault where
  | fileNotFound (path : Path)
  | invalidYaml
  | topLevel (kind : String)
  | schema (message : String)
  deriving DecidableEq, Repr

def ConfigFault.message : ConfigFault → String
  | fileNotFound path => "config file not found: " ++ path.text
  | invalidYaml => "invalid yaml"
  | topLevel kind => "config validation failed: top level must be a mapping, got " ++ kind
  | schema message => "config validation failed: " ++ message

inductive LoadError where
  | config (fault : ConfigFault)
  | read (e : ReadError)
  | draft (fault : DraftFault)
  deriving DecidableEq, Repr

def LoadError.message : LoadError → String
  | config fault => fault.message
  | read e => e.message
  | draft fault => fault.message

namespace Settings

def ofData (data : Data) : Except LoadError Settings :=
  match Schema.message? data.store data.root with
  | .error fault => .error (.draft (.value fault))
  | .ok (some message) => .error (.config (.schema message))
  | .ok none => match DraftSettings.ofDatum data.store data.root with
    | .ok draft => .ok (draft.settings data.store)
    | .error fault => .error (.draft fault)

/-- Null, false, zero and empty documents stand for an empty mapping. -/
def ofDocument (data : Data) : Except LoadError Settings :=
  if data.store.isFalsy data.root then .ok {}
  else match data.store.entries? data.root with
    | some _ => ofData data
    | none => .error (.config (.topLevel (data.store.kind data.root)))

def ofYaml (text : String) : Except LoadError Settings :=
  match Yaml.load text with
  | .error .invalid => .error (.config .invalidYaml)
  | .error (.value fault) => .error (.draft (.value fault))
  | .ok data => ofDocument data

def load (t : FileTree) (e : Environment) (p : Path) : Except LoadError Settings :=
  match t.exists? p with
  | .error x => .error (.read (.file x))
  | .ok false => .error (.config (.fileNotFound p))
  | .ok true => match t.readText p with
    | .error x => .error (.read x)
    | .ok text => (ofYaml text).map fun s => s.overriddenBy e

end Settings
end Rulesheet
