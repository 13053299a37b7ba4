import Rulesheet.Execution
import Rulesheet.Proofs.Scan

/- What a successful execution returns. A run succeeds exactly when its plan can be prepared, and
   then the documents are those of the partitions, in order: each pass holds the extractions of
   the rows below the header that the partition lets through and that are not empty. -/
namespace Rulesheet

def Workbook.Legible (book : Workbook) : Prop :=
  ∀ w ∈ book.sheets, ∀ row ∈ w.rows, ∀ cell ∈ row, cell.isLegible = true

instance (book : Workbook) : Decidable book.Legible :=
  inferInstanceAs (Decidable (∀ w ∈ book.sheets, ∀ row ∈ w.rows, ∀ cell ∈ row, cell.isLegible = true))

theorem Workbook.Legible.cell {book : Workbook} (legible : book.Legible) {name : String}
    {w : Worksheet} (found : book.sheet? name = some w) (row col : Nat) :
    w.isLegible row col = true := by
  have member := List.mem_of_find?_eq_some found
  unfold Worksheet.isLegible Worksheet.cell
  cases here : (w.rows[row]?.getD [])[col]? with
  | none => rfl
  | some cell =>
    cases inside : w.rows[row]? with
    | none => simp [inside] at here
    | some cells =>
      rw [inside, Option.getD_some] at here
      exact legible w member cells (List.mem_of_getElem? inside) cell (List.mem_of_getElem? here)

namespace MacroConfig

/-- The input columns of a pass: the fields that its token names, or the declared ones. -/
def inputColumns (c : MacroConfig) (w : Worksheet) (token : String) : List Nat :=
  (if Text.trim token = "" then Text.names c.inputFields else Text.names token).filterMap
    (c.columnMap w).byLogical

def outputColumns (c : MacroConfig) (w : Worksheet) : List Nat :=
  (Text.names c.outputFields).filterMap (c.columnMap w).byLogical

def extraction (c : MacroConfig) (w : Worksheet) (token : String) (row : Nat) : Triple where
  text := match (c.columnMap w).bySource c.textField with
    | none => ""
    | some col => w.text row col
  inputs := Text.join "," ((c.inputColumns w token).map (w.text row))
  outputs := Text.join "," ((c.outputColumns w).map (w.text row))

/-- The rows that a partition and a token make rules of. -/
structure Selects (c : MacroConfig) (w : Worksheet) (part : Partition) (token : String)
    (row : Nat) : Prop where
  below : (c.columnMap w).headerRow < row
  inside : (row : Int) ≤ w.lastRow
  accepted : ∀ col, (c.columnMap w).bySource c.filterField = some col →
    part.filter.accepts (w.text row col) = true
  filled : (c.extraction w token row).isEmpty = false

def passesOver (c : MacroConfig) (w : Worksheet) (tokens : List String)
    (rows : String → List Nat) : List Pass :=
  tokens.mapIdx fun i token => ⟨i + 1, token, (rows token).map (c.extraction w token)⟩

def documentOver (c : MacroConfig) (s : Settings) (part : Partition) (passes : List Pass)
    (name : String) : MacroResult :=
  .document
    (Document.assemble (part.fill c.documentName) c.container
      (if c.returnCode = "" then s.returnCode else c.returnCode) c.defaults passes c.loop)
    (part.fill c.fileName ++ s.outputExtension) name

def planFor (c : MacroConfig) (book : Workbook) (values : String) (s : Settings)
    (w : Worksheet) : Plan where
  config := c
  sheet := w
  layout := c.layout w
  tokens := sequenceTokens (book.sequence c.sequenceSheet)
  partitions := Partition.ofValues values s.wildcard
  returnCode := if c.returnCode = "" then s.returnCode else c.returnCode
  extension := s.outputExtension

def planOn (c : MacroConfig) (book : Workbook) (release : String) (s : Settings)
    (w : Worksheet) : Plan := c.planFor book (c.filterValues release s) s w

theorem resolve_filterMap (c : MacroConfig) (w : Worksheet) (fields : List String) :
    ((c.columnMap w).resolve fields).filterMap id = fields.filterMap (c.columnMap w).byLogical := by
  rw [ColumnMap.resolve, List.filterMap_map]
  rfl

theorem extract_layout (c : MacroConfig) (w : Worksheet) (token : String) :
    w.extract (c.layout w) ((c.layout w).inputColumns token) = c.extraction w token := by
  funext row
  simp only [Worksheet.extract, Worksheet.joined, Layout.inputColumns, extraction, inputColumns,
    outputColumns, ← resolve_filterMap]
  rfl

theorem qualifies_layout (c : MacroConfig) (w : Worksheet) (f : Filter) (row : Nat) :
    w.qualifies (c.layout w) f row = true ↔
      ∀ col, (c.columnMap w).bySource c.filterField = some col →
        f.accepts (w.text row col) = true := by
  have column : (c.layout w).filterColumn = (c.columnMap w).bySource c.filterField := rfl
  rw [Worksheet.qualifies, column]
  cases (c.columnMap w).bySource c.filterField <;> simp

end MacroConfig

namespace Plan

variable {c : MacroConfig} {book : Workbook} {release : String} {s : Settings}

def ruleRows (p : Plan) (part : Partition) (token : String) : List Nat :=
  p.sheet.ruleRows part.filter p.layout (p.layout.inputColumns token)
    (p.layout.columns.headerRow + 1)

theorem passes_eq (p : Plan) (part : Partition) :
    p.passes part = p.tokens.mapIdx fun i token =>
      ⟨i + 1, token, (p.ruleRows part token).map
        (p.sheet.extract p.layout (p.layout.inputColumns token))⟩ := by
  simp only [passes, Worksheet.scanPass_eq]
  rfl

theorem draft_eq_ok_iff {values : String} {p : Plan} :
    draft c book values s = .ok p ↔
      c.fileName ≠ "" ∧ ∃ w, book.sheet? c.sheet = some w ∧ p = c.planFor book values s w := by
  unfold draft
  by_cases template : c.fileName = ""
  · simp [template]
  · rw [if_neg template]
    cases book.sheet? c.sheet with
    | none => simp
    | some w =>
      simp only [Except.ok.injEq, Option.some.injEq, exists_eq_left', ne_eq, template,
        not_false_eq_true, true_and]
      exact eq_comm

theorem ofValues_of_sheet {values : String} {w : Worksheet} (template : c.fileName ≠ "")
    (found : book.sheet? c.sheet = some w) :
    ofValues c book values s = if (c.planFor book values s w).isLegible book
      then .ok (c.planFor book values s w) else .error (.illegible .longInteger) := by
  rw [ofValues, draft_eq_ok_iff.mpr ⟨template, w, found, rfl⟩]
  rfl

theorem ofValues_eq_ok_iff {values : String} {p : Plan} :
    ofValues c book values s = .ok p ↔
      c.fileName ≠ "" ∧ ∃ w, book.sheet? c.sheet = some w ∧ p = c.planFor book values s w ∧
        p.isLegible book = true := by
  constructor
  · intro planned
    cases drafted : draft c book values s with
    | error failure =>
      rw [ofValues, drafted] at planned
      cases planned
    | ok q =>
      obtain ⟨template, w, found, _⟩ := draft_eq_ok_iff.mp drafted
      rw [ofValues_of_sheet template found] at planned
      split at planned
      · rename_i legible
        cases planned
        exact ⟨template, w, found, rfl, legible⟩
      · cases planned
  · rintro ⟨template, w, found, rfl, legible⟩
    exact (ofValues_of_sheet template found).trans (if_pos legible)

theorem prepare_eq_ok_iff {p : Plan} :
    prepare c book release s = .ok p ↔
      c.fileName ≠ "" ∧ ∃ w, book.sheet? c.sheet = some w ∧ p = c.planOn book release s w ∧
        p.isLegible book = true :=
  ofValues_eq_ok_iff

theorem isLegible_of_workbook (legible : book.Legible) {w : Worksheet}
    (found : book.sheet? c.sheet = some w) (values : String) :
    (c.planFor book values s w).isLegible book = true := by
  have cell : ∀ row col, w.isLegible row col = true := legible.cell found
  have optional : ∀ (col : Option Nat) row, col.all (w.isLegible row) = true := by
    intro col row
    cases col <;> simp [cell]
  have columns : ColumnMap.areLegible (Text.names c.sourceFields) w = true := by
    unfold ColumnMap.areLegible
    cases Text.names c.sourceFields <;>
      simp [Worksheet.anchorIsLegible, Worksheet.headerIsLegible, cell]
  have sequence : book.sequenceIsLegible c.sequenceSheet = true := by
    unfold Workbook.sequenceIsLegible
    cases found : book.sheet? c.sequenceSheet with
    | none => simp
    | some w' => simp [legible.cell found]
  have rows : ∀ part, (c.planFor book values s w).partitionIsLegible part = true := by
    intro part
    simp [partitionIsLegible, passIsLegible, Worksheet.scanIsLegible, Worksheet.rowIsLegible,
      MacroConfig.planFor, optional]
  simp only [isLegible, isSettled, columnsAreLegible, Bool.and_eq_true, List.all_eq_true]
  exact ⟨⟨columns, sequence⟩, fun part _ => rows part⟩

theorem mem_ruleRows_planOn {w : Worksheet} {part : Partition} {token : String} {row : Nat} :
    row ∈ (c.planOn book release s w).ruleRows part token ↔ c.Selects w part token row := by
  rw [ruleRows, Worksheet.mem_ruleRows]
  change (c.columnMap w).headerRow + 1 ≤ row ∧ row < w.rowCount ∧
    w.qualifies (c.layout w) part.filter row = true ∧
    (w.extract (c.layout w) ((c.layout w).inputColumns token) row).isEmpty = false ↔ _
  rw [MacroConfig.qualifies_layout, MacroConfig.extract_layout]
  constructor
  · rintro ⟨below, inside, accepted, filled⟩
    exact ⟨below, by simp only [Worksheet.lastRow]; omega, accepted, filled⟩
  · rintro ⟨below, inside, accepted, filled⟩
    exact ⟨below, by simp only [Worksheet.lastRow] at inside; omega, accepted, filled⟩

end Plan

section

variable {c : MacroConfig} {book : Workbook} {release : String} {s : Settings} {name : String}

theorem executeMacro_success_iff :
    (∀ x ∈ executeMacro c book release s name, x.success = true) ↔
      ∃ p, Plan.prepare c book release s = .ok p := by
  unfold executeMacro
  cases Plan.prepare c book release s with
  | error failure => simp [Plan.results, MacroResult.failed]
  | ok p => simp [Plan.results, MacroResult.document]

theorem executeMacro_of_plan {p : Plan} (planned : Plan.prepare c book release s = .ok p) :
    executeMacro c book release s name =
      p.productions.map fun d => .document d.content d.fileName name := by
  rw [executeMacro, planned, Plan.results]

theorem Partition.map_value_ofValues (values wildcard : String) :
    (Partition.ofValues values wildcard).map Partition.value =
      if Text.names values = [] then [wildcard] else Text.names values := by
  unfold Partition.ofValues
  cases Text.names values with
  | nil => rfl
  | cons first more =>
    rw [if_neg (List.cons_ne_nil first more), List.map_map]
    conv => rhs; rw [← List.map_id (first :: more)]
    apply List.map_congr_left
    intro value _
    simp only [Function.comp_apply, ofValue]
    split <;> rfl

theorem passes_planOn (w : Worksheet) (part : Partition) :
    (c.planOn book release s w).passes part =
      c.passesOver w (sequenceTokens (book.sequence c.sequenceSheet))
        ((c.planOn book release s w).ruleRows part) := by
  rw [Plan.passes_eq, MacroConfig.passesOver]
  simp only [← MacroConfig.extract_layout]
  rfl

theorem productions_planOn (w : Worksheet) :
    (c.planOn book release s w).productions.map
        (fun d => MacroResult.document d.content d.fileName name) =
      (Partition.ofValues (c.filterValues release s) s.wildcard).map fun part =>
        c.documentOver s part (c.passesOver w (sequenceTokens (book.sequence c.sequenceSheet))
          ((c.planOn book release s w).ruleRows part)) name := by
  rw [Plan.productions, List.map_map]
  apply List.map_congr_left
  intro part _
  simp only [Function.comp_apply, Plan.produce, MacroConfig.documentOver, passes_planOn]
  rfl

theorem executeMacro_of_sheet {w : Worksheet} (found : book.sheet? c.sheet = some w)
    (template : c.fileName ≠ "") (legible : (c.planOn book release s w).isLegible book = true) :
    executeMacro c book release s name =
      (Partition.ofValues (c.filterValues release s) s.wildcard).map fun part =>
        c.documentOver s part (c.passesOver w (sequenceTokens (book.sequence c.sequenceSheet))
          ((c.planOn book release s w).ruleRows part)) name := by
  have planned : Plan.prepare c book release s = .ok (c.planOn book release s w) :=
    Plan.prepare_eq_ok_iff.mpr ⟨template, w, found, rfl, legible⟩
  rw [executeMacro_of_plan planned, productions_planOn]

/-- The documents of a successful run. Ascending lists with these members are unique, so that
    neither a row at or above the header nor a row that is not selected makes a rule, and no
    selected row is lost, repeated or moved. -/
theorem executeMacro_documents
    (success : ∀ x ∈ executeMacro c book release s name, x.success = true) :
    ∃ (w : Worksheet) (rows : Partition → String → List Nat),
      book.sheet? c.sheet = some w ∧
      (∀ part token, (rows part token).Pairwise (· < ·) ∧
        ∀ row, row ∈ rows part token ↔ c.Selects w part token row) ∧
      (Partition.ofValues (c.filterValues release s) s.wildcard).map Partition.value =
        (if Text.names (c.filterValues release s) = [] then [s.wildcard]
          else Text.names (c.filterValues release s)) ∧
      executeMacro c book release s name =
        (Partition.ofValues (c.filterValues release s) s.wildcard).map fun part =>
          c.documentOver s part
            (c.passesOver w (sequenceTokens (book.sequence c.sequenceSheet)) (rows part)) name := by
  obtain ⟨p, planned⟩ := executeMacro_success_iff.mp success
  obtain ⟨template, w, found, rfl, legible⟩ := Plan.prepare_eq_ok_iff.mp planned
  refine ⟨w, (c.planOn book release s w).ruleRows, found, ?_, ?_, ?_⟩
  · intro part token
    exact ⟨Worksheet.ruleRows_ascending _, fun _ => Plan.mem_ruleRows_planOn⟩
  · exact Partition.map_value_ofValues _ _
  · exact executeMacro_of_sheet found template legible

/-! A sheet with a title above its header and a blank row among its data. -/

def sampleSheet : Worksheet where
  name := "Rules"
  rows := [[.text "Eligibility"],
    [.text "Key", .text "Line", .text "Text", .text "Offer"],
    [.text "k1", .text "Mobile", .text "first", .integer 7],
    [],
    [.text "k2", .text "TV", .text "second", .empty]]

def sampleConfig (values : String) : MacroConfig where
  sheet := "Rules"
  sourceFields := "Key,Line,Text,Offer"
  logicalFields := "Key,Line,Text,Offer"
  textField := "Text"
  filterField := "Line"
  currentValues := values
  inputFields := "Key,Line"
  documentName := "Doc%"
  fileName := "doc%"
  container := "Container"
  outputFields := "Offer"

def samplePlan (values : String) : Plan :=
  (sampleConfig values).planOn ⟨[sampleSheet]⟩ "R2" {} sampleSheet

theorem prepare_sample (values : String) :
    Plan.prepare (sampleConfig values) ⟨[sampleSheet]⟩ "R2" {} = .ok (samplePlan values) :=
  Plan.prepare_eq_ok_iff.mpr ⟨by simp [sampleConfig], sampleSheet, rfl, rfl,
    Plan.isLegible_of_workbook (by decide +kernel) rfl _⟩

theorem success_sample (values : String) :
    ∀ x ∈ executeMacro (sampleConfig values) ⟨[sampleSheet]⟩ "R2" {} "M", x.success = true :=
  executeMacro_success_iff.mpr ⟨samplePlan values, prepare_sample values⟩

theorem executeMacro_documents_sample :
    (∀ x ∈ executeMacro (sampleConfig "Mobile, %") ⟨[sampleSheet]⟩ "R2" {} "M",
      x.success = true) ∧
    ∃ (w : Worksheet) (rows : Partition → String → List Nat),
      Workbook.sheet? ⟨[sampleSheet]⟩ "Rules" = some w ∧
      (∀ part token, (rows part token).Pairwise (· < ·) ∧
        ∀ row, row ∈ rows part token ↔ (sampleConfig "Mobile, %").Selects w part token row) ∧
      (Partition.ofValues "Mobile, %" "%").map Partition.value =
        (if Text.names "Mobile, %" = [] then ["%"] else Text.names "Mobile, %") ∧
      executeMacro (sampleConfig "Mobile, %") ⟨[sampleSheet]⟩ "R2" {} "M" =
        (Partition.ofValues "Mobile, %" "%").map fun part =>
          (sampleConfig "Mobile, %").documentOver {} part
            ((sampleConfig "Mobile, %").passesOver w (sequenceTokens "") (rows part)) "M" :=
  ⟨success_sample _, executeMacro_documents (success_sample _)⟩

end
end Rulesheet
