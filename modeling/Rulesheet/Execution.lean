import Rulesheet.Definition
import Rulesheet.Document
import Rulesheet.Result
import Rulesheet.Sequence
import Rulesheet.Settings

/- Execution of one macro on one workbook. The plan says what is scanned and how; there is one
   production a partition, in declaration order. There may be no plan: for want of a file template or
   of the sheet, because a cell that is looked at has no text, or because nothing can be told legacy
   by a prefix without a release. Then the macro has one failed result. -/
namespace Rulesheet

inductive MacroFailure where
  | noFileTemplate
  | sheetNotFound (name : String)
  | noRelease
  | illegible (fault : ValueFault)
  deriving DecidableEq, Repr

def MacroFailure.message : MacroFailure → String
  | noFileTemplate => "no output file template configured"
  | sheetNotFound name => sheetNotFoundMessage name
  | noRelease => "'list' object has no attribute 'startswith'"
  | illegible fault => fault.message

namespace MacroConfig

def filterValues (c : MacroConfig) (release : String) (s : Settings) : String :=
  if s.isLegacy release then c.legacyValues else c.currentValues

def columnMap (c : MacroConfig) (w : Worksheet) : ColumnMap :=
  .ofSheet (Text.names c.sourceFields) (Text.names c.logicalFields) w

def layout (c : MacroConfig) (w : Worksheet) : Layout :=
  let columns := c.columnMap w
  { columns := columns
    textColumn := columns.bySource c.textField
    filterColumn := columns.bySource c.filterField
    outputColumns := columns.resolve (Text.names c.outputFields)
    inputFields := Text.names c.inputFields }

end MacroConfig

structure Plan where
  config : MacroConfig
  sheet : Worksheet
  layout : Layout
  tokens : List String
  partitions : List Partition
  returnCode : String
  extension : String

structure Production where
  partition : Partition
  passes : List Pass
  content : String
  fileName : String
  deriving DecidableEq, Repr

namespace Plan

/-- The plan before a cell is looked at. -/
def draft (c : MacroConfig) (book : Workbook) (values : String) (s : Settings) :
    Except MacroFailure Plan :=
  if c.fileName = "" then .error .noFileTemplate
  else match book.sheet? c.sheet with
    | none => .error (.sheetNotFound c.sheet)
    | some w => .ok
      { config := c
        sheet := w
        layout := c.layout w
        tokens := sequenceTokens (book.sequence c.sequenceSheet)
        partitions := Partition.ofValues values s.wildcard
        returnCode := if c.returnCode = "" then s.returnCode else c.returnCode
        extension := s.outputExtension }

def passes (p : Plan) (part : Partition) : List Pass :=
  p.tokens.mapIdx fun i token =>
    p.sheet.scanPass (p.layout.columns.headerRow + 1) part.filter p.layout (i + 1) token

def columnsAreLegible (p : Plan) : Bool :=
  ColumnMap.areLegible (Text.names p.config.sourceFields) p.sheet

def passIsLegible (p : Plan) (part : Partition) (token : String) : Bool :=
  p.sheet.scanIsLegible (p.layout.columns.headerRow + 1) part.filter p.layout token

def partitionIsLegible (p : Plan) (part : Partition) : Bool :=
  p.tokens.all (p.passIsLegible part)

/-- Whether every cell has a text that is looked at before the first row is. -/
def isSettled (p : Plan) (book : Workbook) : Bool :=
  p.columnsAreLegible && book.sequenceIsLegible p.config.sequenceSheet

def isLegible (p : Plan) (book : Workbook) : Bool :=
  p.isSettled book && p.partitions.all p.partitionIsLegible

def ofValues (c : MacroConfig) (book : Workbook) (values : String) (s : Settings) :
    Except MacroFailure Plan := do
  let p ← draft c book values s
  if p.isLegible book then .ok p else .error (.illegible .longInteger)

def prepare (c : MacroConfig) (book : Workbook) (release : String) (s : Settings) :
    Except MacroFailure Plan :=
  ofValues c book (c.filterValues release s) s

/-- Without a release the current values count, unless there are prefixes to compare with. -/
def prepareUnreleased (c : MacroConfig) (book : Workbook) (s : Settings) :
    Except MacroFailure Plan :=
  if s.legacyPrefixes = [] then ofValues c book c.currentValues s
  else do
    let p ← draft c book c.currentValues s
    .error (if p.isSettled book then .noRelease else .illegible .longInteger)

def produce (p : Plan) (part : Partition) : Production :=
  let passes := p.passes part
  { partition := part
    passes := passes
    content := Document.assemble (part.fill p.config.documentName) p.config.container
      p.returnCode p.config.defaults passes p.config.loop
    fileName := part.fill p.config.fileName ++ p.extension }

def productions (p : Plan) : List Production := p.partitions.map p.produce

end Plan

def Plan.results (plan : Except MacroFailure Plan) (name : String) : List MacroResult :=
  match plan with
  | .error failure => [.failed failure.message name]
  | .ok plan => plan.productions.map fun d => .document d.content d.fileName name

def executeMacro (c : MacroConfig) (book : Workbook) (release : String) (s : Settings)
    (name : String) : List MacroResult :=
  Plan.results (Plan.prepare c book release s) name

def executeUnreleased (c : MacroConfig) (book : Workbook) (s : Settings) (name : String) :
    List MacroResult :=
  Plan.results (Plan.prepareUnreleased c book s) name

/-! What an execution says in the log. -/

def columnNumber (column : Option Nat) : String :=
  match column with
  | some n => toString n
  | none => "-1"

/-- A repeated name keeps its first place and takes the later column. -/
def ColumnMap.listing (m : ColumnMap) : List (String × Option Nat) :=
  (m.sourceFields.zip m.columns).foldl put []
where
  put : List (String × Option Nat) → String × Option Nat → List (String × Option Nat)
    | [], entry => [entry]
    | (name, column) :: rest, entry =>
      if name = entry.1 then entry :: rest else (name, column) :: put rest entry

def ColumnMap.text (m : ColumnMap) : String :=
  "\x7b" ++ Text.join ", " (m.listing.map fun (name, column) =>
    Text.quoted name ++ ": " ++ columnNumber column) ++ "\x7d"

def Pass.entry (p : Pass) (sheetName : String) (f : Filter) : LogEntry :=
  .debug ("sheet=" ++ sheetName ++ " pass=" ++ toString p.sequence ++
    " token=" ++ Text.quoted p.token ++ " filter=" ++ f.expression ++
    " rows=" ++ toString p.triples.length)

def Production.entries (d : Production) (p : Plan) (name : String) : List LogEntry :=
  d.passes.map (fun pass => pass.entry p.sheet.name d.partition.filter) ++
  Document.entries p.config.defaults p.config.inputFields p.config.loop ++
  [.debug ("macro=" ++ name ++ " partition=" ++ d.partition.value ++ " file=" ++ d.fileName ++
    " rules=" ++ toString (d.passes.foldl (fun n pass => n + pass.triples.length) 0))]

def Plan.layoutEntry (p : Plan) (name : String) : LogEntry :=
  .debug ("macro=" ++ name ++ " sheet=" ++ p.sheet.name ++
    " header_row=" ++ toString p.layout.columns.headerRow ++
    " columns=" ++ p.layout.columns.text ++
    " text_col=" ++ columnNumber p.layout.textColumn ++
    " filter_col=" ++ columnNumber p.layout.filterColumn)

def Plan.entries (p : Plan) (book : Workbook) (name : String) : List LogEntry :=
  if !p.columnsAreLegible then []
  else p.layoutEntry name ::
    if !p.isSettled book then []
    else
      let legible := p.partitions.takeWhile p.partitionIsLegible
      let passes := match p.partitions.drop legible.length with
        | [] => []
        | part :: _ => (p.passes part).takeWhile (p.passIsLegible part ·.token) |>.map
          fun pass => pass.entry p.sheet.name part.filter
      (legible.map p.produce).flatMap (fun d => d.entries p name) ++ passes

def MacroFailure.entry (f : MacroFailure) (name : String) : LogEntry :=
  .debug ("macro=" ++ name ++ " failed: " ++ f.message)

def failureEntries (plan : Except MacroFailure Plan) (name : String) : List LogEntry :=
  match plan with
  | .error failure => [failure.entry name]
  | .ok _ => []

def executionEntries (c : MacroConfig) (book : Workbook) (release : String) (s : Settings)
    (name : String) : List LogEntry :=
  (match Plan.draft c book (c.filterValues release s) s with
    | .error _ => []
    | .ok p => p.entries book name) ++
  failureEntries (Plan.prepare c book release s) name

def unreleasedEntries (c : MacroConfig) (book : Workbook) (s : Settings) (name : String) :
    List LogEntry :=
  (match Plan.draft c book c.currentValues s with
    | .error _ => []
    | .ok p =>
      if s.legacyPrefixes = [] then p.entries book name
      else if p.columnsAreLegible then [p.layoutEntry name] else []) ++
  failureEntries (Plan.prepareUnreleased c book s) name

end Rulesheet
