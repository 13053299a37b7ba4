import Rulesheet.Definition.Declaration
import Rulesheet.Text.Quoted

/- Macro definitions: what a definition document configures. Every setting has a constant that
   declares it, some an alias besides; a setting that nothing declares is empty or off. -/
namespace Rulesheet

inductive Setting where
  | sheet
  | sourceFields
  | logicalFields
  | textField
  | filterField
  | legacyValues
  | currentValues
  | inputFields
  | sequenceSheet
  | documentName
  | fileName
  | returnCode
  | container
  | outputFields
  | defaults
  | loop
  deriving DecidableEq, Repr

def Setting.all : List Setting :=
  [.sheet, .sourceFields, .logicalFields, .textField, .filterField, .legacyValues,
    .currentValues, .inputFields, .sequenceSheet, .documentName, .fileName, .returnCode,
    .container, .outputFields, .defaults, .loop]

def Setting.label : Setting → String
  | .sheet => "xl_sheet"
  | .sourceFields => "all_xl_fields"
  | .logicalFields => "all_fields"
  | .textField => "in_xl_text"
  | .filterField => "in_xl_filter"
  | .legacyValues => "in_xl_filter_values_old"
  | .currentValues => "in_xl_filter_values_new"
  | .inputFields => "in_fields"
  | .sequenceSheet => "in_fields_seq_tab"
  | .documentName => "out_dvm"
  | .fileName => "out_file"
  | .returnCode => "out_return_code"
  | .container => "out_bc"
  | .outputFields => "out_fields"
  | .defaults => "out_default"
  | .loop => "out_loop"

inductive ConstantKind where
  | text
  | flag
  deriving DecidableEq, Repr

def ConstantKind.label : ConstantKind → String
  | .text => "string"
  | .flag => "boolean"

/-- A constant name that declares a setting. An alias counts only without its canonical name. -/
structure Constant where
  name : String
  setting : Setting
  kind : ConstantKind
  isAlias : Bool
  deriving DecidableEq, Repr

def Constant.canonical (name : String) (setting : Setting) : Constant :=
  ⟨name, setting, .text, false⟩

def Constant.all : List Constant :=
  [canonical "gcsXLSheet" .sheet,
    canonical "gcsAllXLFields" .sourceFields,
    canonical "gcsAllFields" .logicalFields,
    canonical "gcsInXLText" .textField,
    canonical "gcsInXLFilter" .filterField,
    canonical "gcsInXLFilterValuesOld" .legacyValues,
    canonical "gcsInXLFilterValuesNew" .currentValues,
    canonical "gcsInFields" .inputFields,
    canonical "gcsInFieldsSeqTab" .sequenceSheet,
    canonical "gcsOutDVM" .documentName,
    canonical "gcsOutFile" .fileName,
    canonical "gcsOutReturnCode" .returnCode,
    canonical "gcsOutBC" .container,
    canonical "gcsOutFields" .outputFields,
    canonical "gcsOutDefault" .defaults,
    ⟨"gcbOutLoop", .loop, .flag, false⟩,
    ⟨"gcsInXLFilterValues", .currentValues, .text, true⟩,
    ⟨"gcbLoop", .loop, .flag, true⟩]

/-- What the documents declare, an absent setting being empty or off. -/
structure MacroConfig where
  sheet : String := ""
  sourceFields : String := ""
  logicalFields : String := ""
  textField : String := ""
  filterField : String := ""
  legacyValues : String := ""
  currentValues : String := ""
  inputFields : String := ""
  sequenceSheet : String := ""
  documentName : String := ""
  fileName : String := ""
  returnCode : String := ""
  container : String := ""
  outputFields : String := ""
  defaults : String := ""
  loop : Bool := false
  deriving DecidableEq, Repr

namespace MacroConfig

def namesOf (setting : Setting) : List String :=
  (Constant.all.filter (·.setting = setting)).map fun c => Text.lower c.name

def textOf (ds : List Declaration) (setting : Setting) : Option String :=
  (namesOf setting).findSome? fun name => Declaration.lastText? name ds

def flagOf (ds : List Declaration) (setting : Setting) : Option Bool :=
  (namesOf setting).findSome? fun name => Declaration.lastFlag? name ds

def ofDeclarations (ds : List Declaration) : MacroConfig :=
  let text := fun setting => (textOf ds setting).getD ""
  { sheet := text .sheet
    sourceFields := text .sourceFields
    logicalFields := text .logicalFields
    textField := text .textField
    filterField := text .filterField
    legacyValues := text .legacyValues
    currentValues := text .currentValues
    inputFields := text .inputFields
    sequenceSheet := text .sequenceSheet
    documentName := text .documentName
    fileName := text .fileName
    returnCode := text .returnCode
    container := text .container
    outputFields := text .outputFields
    defaults := text .defaults
    loop := (flagOf ds .loop).getD false }

def isDeclared (ds : List Declaration) : Setting → Bool
  | .loop => (flagOf ds .loop).isSome
  | setting => (textOf ds setting).isSome

end MacroConfig

structure Definition where
  name : String
  config : MacroConfig
  source : String
  deriving DecidableEq, Repr

namespace Definition

def parse (source name : String) : Definition :=
  ⟨name, .ofDeclarations (Declaration.all source), source⟩

def recognised (source : String) : List String :=
  let ds := Declaration.all source
  ((Setting.all.filter (MacroConfig.isDeclared ds)).map Setting.label).mergeSort

end Definition
end Rulesheet
