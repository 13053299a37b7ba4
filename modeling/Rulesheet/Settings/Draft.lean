import Rulesheet.Settings
import Rulesheet.Settings.Schema

/- Settings as data give them. A value stands for the text of its own, but for the return code, which
   is written out; lists are made of what the values for them hold. -/
namespace Rulesheet

structure DraftSettings where
  macrosDirectory : Datum
  definitionSuffix : Datum
  reservedDefinitions : List Datum
  legacyTokens : List Datum
  legacyPrefixes : List Datum
  wildcard : Datum
  outputExtension : Datum
  returnCode : String
  outputDirectory : Datum
  deriving DecidableEq, Repr

inductive DraftFault where
  | noMapping (kind : String)
  | noList (kind : String)
  | value (fault : ValueFault)
  deriving DecidableEq, Repr

def DraftFault.message : DraftFault → String
  | noMapping kind => Text.quoted kind ++ " object has no attribute 'get'"
  | noList kind => Text.quoted kind ++ " object is not iterable"
  | value fault => fault.message

namespace DraftSettings

def text (s : String) : Datum := .scalar (.text s)

/-- What a value holds: items, members, keys, or the characters of a text. -/
def parts? (st : Store) (d : Datum) : Option (List Datum) :=
  match d, st.container? d with
  | .scalar (.text s), _ => some (s.toList.map fun c => text (String.ofList [c]))
  | .scalar (.bytes b), _ => some (b.map fun n => .scalar (.integer n.toNat))
  | _, some (.list items) => some items
  | _, some (.tuple items) => some items
  | _, some (.mapping entries) => some (entries.map fun (k, _) => .scalar k)
  | _, some (.set members) => some (members.map .scalar)
  | _, none => none

def ofDatum (st : Store) (d : Datum) : Except DraftFault DraftSettings := do
  let defaults : Settings := {}
  let entries ← match st.entries? d with
    | some entries => .ok entries
    | none => .error (.noMapping (st.kind d))
  let value := fun key default => (Schema.find? entries key).getD (text default)
  let list := fun key (default : List String) => match Schema.find? entries key with
    | none => .ok (default.map text)
    | some d => match parts? st d with
      | some parts => .ok parts
      | none => .error (DraftFault.noList (st.kind d))
  let reserved ← list "reserved_definitions" defaults.reservedDefinitions
  let tokens ← list "legacy_release_tokens" defaults.legacyTokens
  let prefixes ← list "legacy_release_prefixes" defaults.legacyPrefixes
  let code ← (st.plain (value "default_return_code" defaults.returnCode)).mapError .value
  pure
    { macrosDirectory := value "macros_directory" defaults.macrosDirectory
      definitionSuffix := value "definition_suffix" defaults.definitionSuffix
      reservedDefinitions := reserved
      legacyTokens := tokens
      legacyPrefixes := prefixes
      wildcard := value "wildcard" defaults.wildcard
      outputExtension := value "output_extension" defaults.outputExtension
      returnCode := code
      outputDirectory := value "output_directory" defaults.outputDirectory }

/-- The settings of a draft, what is no text counting by the text of its value. -/
def settings (st : Store) (d : DraftSettings) : Settings :=
  let plain := fun d => ((st.plain d).toOption).getD ""
  { macrosDirectory := plain d.macrosDirectory
    definitionSuffix := plain d.definitionSuffix
    reservedDefinitions := d.reservedDefinitions.map plain
    legacyTokens := d.legacyTokens.map plain
    legacyPrefixes := d.legacyPrefixes.map plain
    wildcard := plain d.wildcard
    outputExtension := plain d.outputExtension
    returnCode := d.returnCode
    outputDirectory := plain d.outputDirectory }

end DraftSettings
end Rulesheet
