import Rulesheet.Proofs.BlankEdits
import Rulesheet.Proofs.Document.Reading
import Rulesheet.Proofs.Partition

/- Blank rows among the data. Whether a row says something is decided on its joined texts, and
   two blank cells joined leave a comma. A pass with two input or two output columns therefore
   takes a blank row that its filter lets through for a rule; any other pass passes it over. -/
namespace Rulesheet

namespace Text

def commas (n : Nat) : String := String.ofList (List.replicate n ',')

theorem commas_eq_empty_iff {n : Nat} : commas n = "" ↔ n = 0 := by
  rw [commas, String.ofList_eq_empty_iff, List.replicate_eq_nil_iff]

theorem join_of_empty {pieces : List String} (empty : ∀ piece ∈ pieces, piece = "") :
    join "," pieces = commas (pieces.length - 1) := by
  induction pieces with
  | nil => rfl
  | cons first more ih =>
    have blank : first = "" := empty first List.mem_cons_self
    have rest := ih fun piece member => empty piece (List.mem_cons_of_mem first member)
    cases more with
    | nil => exact String.intercalate_singleton.trans blank
    | cons second more =>
      apply String.toList_inj.mp
      simp only [join] at rest ⊢
      rw [String.intercalate_cons_cons, rest, blank]
      simp [commas, List.replicate_succ]

end Text

theorem isEmpty_commas {n m : Nat} :
    Triple.isEmpty ⟨"", Text.commas (n - 1), Text.commas (m - 1)⟩ = false ↔ 2 ≤ n ∨ 2 ≤ m := by
  rw [Triple.isEmpty, decide_eq_false_iff_not]
  simp only [Text.commas_eq_empty_iff, true_and]
  omega

theorem Worksheet.extract_of_silent {w : Worksheet} {l : Layout} {inputs : List (Option Nat)}
    {row : Nat} (text : ∀ col, l.textColumn = some col → w.text row col = "")
    (input : ∀ col ∈ inputs.filterMap id, w.text row col = "")
    (output : ∀ col ∈ l.outputColumns.filterMap id, w.text row col = "") :
    w.extract l inputs row =
      ⟨"", Text.commas ((inputs.filterMap id).length - 1),
        Text.commas ((l.outputColumns.filterMap id).length - 1)⟩ := by
  have joined : ∀ columns, (∀ col ∈ columns.filterMap id, w.text row col = "") →
      w.joined row columns = Text.commas ((columns.filterMap id).length - 1) := by
    intro columns empty
    rw [Worksheet.joined, Text.join_of_empty, List.length_map]
    simpa using empty
  rw [extract, joined inputs input, joined l.outputColumns output]
  cases resolved : l.textColumn with
  | none => rfl
  | some col => simp only [text col resolved]

namespace MacroConfig

variable {c : MacroConfig} {w : Worksheet} {part : Partition} {token : String} {row : Nat}

/-- A row whose cells in the text column and in the columns of a pass are empty. -/
structure Silent (c : MacroConfig) (w : Worksheet) (token : String) (row : Nat) : Prop where
  text : ∀ col, (c.columnMap w).bySource c.textField = some col → w.text row col = ""
  inputs : ∀ col ∈ c.inputColumns w token, w.text row col = ""
  outputs : ∀ col ∈ c.outputColumns w, w.text row col = ""

/-- A pass that joins two cells or more into one text. -/
def Joins (c : MacroConfig) (w : Worksheet) (token : String) : Prop :=
  2 ≤ (c.inputColumns w token).length ∨ 2 ≤ (c.outputColumns w).length

/-- A pass that makes rules of blank rows. -/
structure Exposed (c : MacroConfig) (w : Worksheet) (part : Partition) (token : String) :
    Prop where
  unfiltered : (c.columnMap w).bySource c.filterField = none ∨ part.filter.kind = .exclude
  joins : c.Joins w token

theorem inputColumns_layout (c : MacroConfig) (w : Worksheet) (token : String) :
    ((c.layout w).inputColumns token).filterMap id = c.inputColumns w token :=
  resolve_filterMap c w _

theorem outputColumns_layout (c : MacroConfig) (w : Worksheet) :
    (c.layout w).outputColumns.filterMap id = c.outputColumns w :=
  resolve_filterMap c w _

theorem extraction_of_silent (silent : c.Silent w token row) :
    c.extraction w token row =
      ⟨"", Text.commas ((c.inputColumns w token).length - 1),
        Text.commas ((c.outputColumns w).length - 1)⟩ := by
  rw [← extract_layout, ← inputColumns_layout, ← outputColumns_layout]
  apply Worksheet.extract_of_silent silent.text
  · rw [inputColumns_layout]
    exact silent.inputs
  · rw [outputColumns_layout]
    exact silent.outputs

theorem filled_of_silent (silent : c.Silent w token row) :
    (c.extraction w token row).isEmpty = false ↔ c.Joins w token := by
  rw [extraction_of_silent silent, isEmpty_commas]
  rfl

/-- A silent row is selected exactly by the passes that join cells and let it through. -/
theorem selects_of_silent (silent : c.Silent w token row) :
    c.Selects w part token row ↔ (c.columnMap w).headerRow < row ∧ (row : Int) ≤ w.lastRow ∧
      (∀ col, (c.columnMap w).bySource c.filterField = some col →
        part.filter.accepts (w.text row col) = true) ∧ c.Joins w token := by
  rw [← filled_of_silent silent]
  exact ⟨fun ⟨below, inside, accepted, filled⟩ => ⟨below, inside, accepted, filled⟩,
    fun ⟨below, inside, accepted, filled⟩ => ⟨below, inside, accepted, filled⟩⟩

end MacroConfig

theorem Partition.accepts_blank {part : Partition} {values wildcard : String}
    (member : part ∈ ofValues values wildcard) :
    part.filter.accepts "" = true ↔ part.filter.kind = .exclude := by
  have blank : ¬Claimed (Text.names values) wildcard (Text.trim "") := by
    intro claimed
    exact Text.ne_empty_of_mem_names claimed.1 rfl
  constructor
  · intro accepted
    cases kind : part.filter.kind with
    | exact => exact absurd ((claimed_of_accepts member accepted).1 kind) blank
    | exclude => rfl
  · intro kind
    by_cases none : Text.names values = []
    · rw [ofValues_of_none none, List.mem_singleton] at member
      subst member
      exact accepts_everything
    · rw [ofValues_of_some none, List.mem_map] at member
      obtain ⟨value, declared, eq⟩ := member
      subst eq
      rw [accepts_ofValue declared]
      by_cases wild : value = wildcard
      · rwa [if_pos wild]
      · simp [ofValue, wild, Filter.equalTo] at kind

namespace MacroConfig

variable {c : MacroConfig} {w w' : Worksheet} {part : Partition} {token : String}

def rowRule? (c : MacroConfig) (w : Worksheet) (part : Partition) (token : String) :
    List Cell → Option Triple :=
  Rulesheet.rowRule? (c.layout w) part.filter ((c.layout w).inputColumns token)

def rules (c : MacroConfig) (w : Worksheet) (part : Partition) (token : String) : List Triple :=
  (w.rows.drop ((c.columnMap w).headerRow + 1)).filterMap (c.rowRule? w part token)

theorem qualifies_of_blank {values wildcard : String}
    (member : part ∈ Partition.ofValues values wildcard) {cells : List Cell}
    (blank : isBlankRow cells = true) :
    (Worksheet.single cells).qualifies (c.layout w) part.filter 0 = true ↔
      (c.columnMap w).bySource c.filterField = none ∨ part.filter.kind = .exclude := by
  rw [← Partition.accepts_blank member]
  have column : (c.layout w).filterColumn = (c.columnMap w).bySource c.filterField := rfl
  rw [Worksheet.qualifies, column]
  cases (c.columnMap w).bySource c.filterField with
  | none => simp
  | some col => simp [Worksheet.text_single, rowText_of_blank blank]

/-- Exposed passes, and no others, make a rule of a blank row. -/
theorem rowRule?_of_blank {values wildcard : String}
    (member : part ∈ Partition.ofValues values wildcard) {cells : List Cell}
    (blank : isBlankRow cells = true) :
    (c.rowRule? w part token cells).isSome = true ↔ c.Exposed w part token := by
  have texts : ∀ col, (Worksheet.single cells).text 0 col = "" := rowText_of_blank blank
  have filled : ((Worksheet.single cells).extract (c.layout w)
      ((c.layout w).inputColumns token) 0).isEmpty = false ↔ c.Joins w token := by
    rw [Worksheet.extract_of_silent (fun col _ => texts col) (fun col _ => texts col)
      (fun col _ => texts col), inputColumns_layout, outputColumns_layout, isEmpty_commas]
    rfl
  have lets : (Worksheet.single cells).qualifies (c.layout w) part.filter 0 = true ↔ _ :=
    qualifies_of_blank member blank
  simp only [rowRule?, Rulesheet.rowRule?]
  split
  · rename_i both
    exact iff_of_true rfl ⟨lets.mp both.1, filled.mp both.2⟩
  · rename_i either
    refine iff_of_false (by simp) ?_
    intro exposed
    exact either ⟨lets.mpr exposed.unfiltered, filled.mpr exposed.joins⟩

theorem rules_of_blankEdit (edit : w.BlankEdit (c.columnMap w).headerRow w') :
    c.rules w' part token =
      (w'.rows.drop ((c.columnMap w).headerRow + 1)).filterMap (c.rowRule? w part token) := by
  have same : c.rowRule? w' part token = c.rowRule? w part token := by
    rw [rowRule?, layout_of_blankEdit edit, rowRule?]
  rw [rules, same, columnMap_of_blankEdit edit]

theorem rules_of_unexposed {values wildcard : String}
    (member : part ∈ Partition.ofValues values wildcard)
    (edit : w.BlankEdit (c.columnMap w).headerRow w') (sheltered : ¬c.Exposed w part token) :
    c.rules w' part token = c.rules w part token := by
  have silent : ∀ cells, isBlankRow cells = true → c.rowRule? w part token cells = none := by
    intro cells blank
    rw [← rowRule?_of_blank member blank] at sheltered
    simpa using sheltered
  rw [rules_of_blankEdit edit, rules, ← filterMap_filledRows silent, edit.below,
    filterMap_filledRows silent]

theorem length_rules_of_exposed {values wildcard : String}
    (member : part ∈ Partition.ofValues values wildcard)
    (edit : w.BlankEdit (c.columnMap w).headerRow w') (exposed : c.Exposed w part token)
    (count : (c.rules w' part token).length = (c.rules w part token).length) :
    w'.rows.length = w.rows.length := by
  have loud : ∀ cells, isBlankRow cells = true →
      (c.rowRule? w part token cells).isSome = true :=
    fun cells blank => (rowRule?_of_blank member blank).mpr exposed
  rw [rules_of_blankEdit edit, rules] at count
  have before := length_filterMap_filledRows loud (w.rows.drop ((c.columnMap w).headerRow + 1))
  have after := length_filterMap_filledRows loud (w'.rows.drop ((c.columnMap w).headerRow + 1))
  rw [edit.below] at after
  have above := congrArg List.length edit.above
  simp only [List.length_take, List.length_drop] at above before after
  omega

end MacroConfig

def ListBlock.triples (block : ListBlock) : List Triple := block.rules.getD []

theorem ListBlock.triples_ofPass (returnCode : String) (defaults : List DefaultValue)
    (pass : Pass) : (ListBlock.ofPass returnCode defaults pass).triples = pass.triples := by
  simp only [triples, ofPass]
  split
  · rename_i none
    exact none.symm
  · rfl

/-- Results for a partition are the same only with the same rules in every pass. -/
theorem triples_of_same_document {c : MacroConfig} {s : Settings} {part : Partition}
    {passes passes' : List Pass} {name : String}
    (same : c.documentOver s part passes name = c.documentOver s part passes' name) :
    passes.map Pass.triples = passes'.map Pass.triples := by
  have content := congrArg MacroResult.content same
  have blocks := congrArg Ruleset.lists (Document.ofArguments_of_same_text content)
  have triples := congrArg (List.map ListBlock.triples) blocks
  simpa only [Ruleset.ofArguments, List.map_map, Function.comp_def, ListBlock.triples_ofPass]
    using triples

section

variable {c : MacroConfig} {book : Workbook} {release : String} {s : Settings} {name : String}
  {w w' : Worksheet}

def passesWith (tokens : List String) (rules : String → List Triple) : List Pass :=
  tokens.mapIdx fun i token => ⟨i + 1, token, rules token⟩

theorem passesWith_congr {tokens : List String} {rules rules' : String → List Triple}
    (same : ∀ token ∈ tokens, rules token = rules' token) :
    passesWith tokens rules = passesWith tokens rules' := by
  apply List.mapIdx_eq_mapIdx_iff.mpr
  intro i inside
  rw [same _ (List.getElem_mem inside)]

theorem passesOver_ruleRows (part : Partition) (tokens : List String) :
    c.passesOver w tokens ((c.planOn book release s w).ruleRows part) =
      passesWith tokens (c.rules w part) := by
  have each : ∀ token, ((c.planOn book release s w).ruleRows part token).map
      (c.extraction w token) = c.rules w part token := by
    intro token
    rw [← MacroConfig.extract_layout]
    exact Worksheet.triples_of_rows _
  simp only [MacroConfig.passesOver, passesWith, each]

theorem executeMacro_of_rules (found : book.sheet? c.sheet = some w)
    (template : c.fileName ≠ "") (legible : (c.planOn book release s w).isLegible book = true) :
    executeMacro c book release s name =
      (Partition.ofValues (c.filterValues release s) s.wildcard).map fun part =>
        c.documentOver s part (passesWith (sequenceTokens (book.sequence c.sequenceSheet))
          (c.rules w part)) name := by
  rw [executeMacro_of_sheet found template legible]
  simp only [passesOver_ruleRows]

theorem executeMacro_without_template (template : c.fileName = "") (book book' : Workbook) :
    executeMacro c book release s name = executeMacro c book' release s name := by
  simp only [executeMacro, Plan.prepare, Plan.ofValues, Plan.draft, if_pos template]
  rfl

theorem found_of_blankEdit {header : Nat} (found : book.sheet? c.sheet = some w)
    (edit : w.BlankEdit header w') : (book.replace w').sheet? c.sheet = some w' := by
  rw [Workbook.sheet?_replace, if_pos (edit.name.trans (Workbook.name_of_sheet? found))]

theorem executeMacro_of_blankEdit (found : book.sheet? c.sheet = some w)
    (template : c.fileName ≠ "") (legible : (c.planOn book release s w).isLegible book = true)
    (edit : w.BlankEdit (c.columnMap w).headerRow w') :
    executeMacro c (book.replace w') release s name =
      (Partition.ofValues (c.filterValues release s) s.wildcard).map fun part =>
        c.documentOver s part (passesWith (sequenceTokens (book.sequence c.sequenceSheet))
          (c.rules w' part)) name := by
  have legible' : (c.planOn (book.replace w') release s w').isLegible (book.replace w') = true :=
    (isLegible_of_blankEdit found edit _ s).trans legible
  rw [executeMacro_of_rules (found_of_blankEdit found edit) template legible',
    sequence_of_blankEdit found edit]

theorem executeMacro_of_illegible (found : book.sheet? c.sheet = some w)
    (template : c.fileName ≠ "") (illegible : (c.planOn book release s w).isLegible book ≠ true) :
    executeMacro c book release s name =
      [.failed (MacroFailure.illegible .longInteger).message name] := by
  have planned : Plan.prepare c book release s = .error (.illegible .longInteger) :=
    (Plan.ofValues_of_sheet template found).trans (if_neg illegible)
  rw [executeMacro, planned, Plan.results]

theorem executeMacro_unexposed (found : book.sheet? c.sheet = some w)
    (edit : w.BlankEdit (c.columnMap w).headerRow w')
    (sheltered : ∀ part ∈ Partition.ofValues (c.filterValues release s) s.wildcard,
      ∀ token ∈ sequenceTokens (book.sequence c.sequenceSheet), ¬c.Exposed w part token) :
    executeMacro c (book.replace w') release s name = executeMacro c book release s name := by
  by_cases template : c.fileName = ""
  · exact executeMacro_without_template template _ _
  by_cases legible : (c.planOn book release s w).isLegible book = true
  · rw [executeMacro_of_rules found template legible,
      executeMacro_of_blankEdit found template legible edit]
    apply List.map_congr_left
    intro part declared
    have passes := passesWith_congr fun token pass =>
      MacroConfig.rules_of_unexposed declared edit (sheltered part declared token pass)
    rw [passes]
  · have illegible' :
        (c.planOn (book.replace w') release s w').isLegible (book.replace w') ≠ true :=
      (isLegible_of_blankEdit found edit _ s).trans_ne legible
    rw [executeMacro_of_illegible found template legible,
      executeMacro_of_illegible (found_of_blankEdit found edit) template illegible']

theorem executeMacro_exposed (found : book.sheet? c.sheet = some w) (template : c.fileName ≠ "")
    (legible : (c.planOn book release s w).isLegible book = true)
    (edit : w.BlankEdit (c.columnMap w).headerRow w') {part : Partition} {token : String}
    (declared : part ∈ Partition.ofValues (c.filterValues release s) s.wildcard)
    (pass : token ∈ sequenceTokens (book.sequence c.sequenceSheet))
    (exposed : c.Exposed w part token) (count : w'.rows.length ≠ w.rows.length) :
    executeMacro c (book.replace w') release s name ≠ executeMacro c book release s name := by
  intro same
  rw [executeMacro_of_rules found template legible,
    executeMacro_of_blankEdit found template legible edit] at same
  -- the document tells the rules of each pass, and those of the exposed one count the rows
  have triples := triples_of_same_document (List.map_inj_left.mp same part declared)
  obtain ⟨i, inside, eq⟩ := List.getElem_of_mem pass
  have rules := congrArg (·[i]?) triples
  simp only [passesWith, List.getElem?_map, List.getElem?_mapIdx,
    List.getElem?_eq_getElem inside, eq, Option.map_some, Option.some.injEq] at rules
  exact count (MacroConfig.length_rules_of_exposed declared edit exposed
    (congrArg List.length rules))

/-- Which silent rows make rules, and when blank rows below the header can be told from the
    results. A silent row that is let through makes a rule where two columns are joined. -/
theorem blank_rows_exact (found : book.sheet? c.sheet = some w) :
    let plan := c.planOn book release s w
    (c.fileName ≠ "" → plan.isLegible book = true → executeMacro c book release s name =
      plan.partitions.map fun part =>
        c.documentOver s part (c.passesOver w plan.tokens (plan.ruleRows part)) name) ∧
    (∀ part token row, c.Silent w token row →
      c.extraction w token row =
        ⟨"", Text.commas ((c.inputColumns w token).length - 1),
          Text.commas ((c.outputColumns w).length - 1)⟩ ∧
      (row ∈ plan.ruleRows part token ↔
        (c.columnMap w).headerRow < row ∧ (row : Int) ≤ w.lastRow ∧
        (∀ col, (c.columnMap w).bySource c.filterField = some col →
          part.filter.accepts (w.text row col) = true) ∧
        (2 ≤ (c.inputColumns w token).length ∨ 2 ≤ (c.outputColumns w).length))) ∧
    ∀ w', w.BlankEdit (c.columnMap w).headerRow w' →
      ((∀ part ∈ plan.partitions, ∀ token ∈ plan.tokens, ¬c.Exposed w part token) →
        executeMacro c (book.replace w') release s name =
          executeMacro c book release s name) ∧
      (c.fileName ≠ "" → plan.isLegible book = true →
        (∃ part ∈ plan.partitions, ∃ token ∈ plan.tokens, c.Exposed w part token) →
        w'.rows.length ≠ w.rows.length →
        executeMacro c (book.replace w') release s name ≠
          executeMacro c book release s name) := by
  intro plan
  refine ⟨executeMacro_of_sheet found, ?_, ?_⟩
  · intro part token row silent
    refine ⟨MacroConfig.extraction_of_silent silent, ?_⟩
    rw [Plan.mem_ruleRows_planOn]
    exact MacroConfig.selects_of_silent silent
  · intro w' edit
    constructor
    · exact executeMacro_unexposed found edit
    · rintro template legible ⟨part, declared, token, pass, exposed⟩
      exact executeMacro_exposed found template legible edit declared pass exposed

theorem blank_rows_exact_sample :
    Workbook.sheet? ⟨[sampleSheet]⟩ "Rules" = some sampleSheet ∧
    isBlankRow [] = true ∧ sampleSheet.rows[3]? = some [] ∧
    (∃ part ∈ (samplePlan "Mobile, %").partitions, part.suffix = "" ∧
      3 ∈ (samplePlan "Mobile, %").ruleRows part "") ∧
    executeMacro (sampleConfig "Mobile, %")
        (Workbook.replace ⟨[sampleSheet]⟩ ⟨"Rules", sampleSheet.rows.eraseIdx 3⟩) "R2" {} "M" ≠
      executeMacro (sampleConfig "Mobile, %") ⟨[sampleSheet]⟩ "R2" {} "M" := by
  have found : Workbook.sheet? ⟨[sampleSheet]⟩ (sampleConfig "Mobile, %").sheet =
      some sampleSheet := rfl
  obtain ⟨_, silent, edits⟩ := @blank_rows_exact _ _ "R2" {} "M" _ found
  have wild : Partition.ofValue "%" ["Mobile", "%"] "%" ∈
      (samplePlan "Mobile, %").partitions := by decide
  have joins : (sampleConfig "Mobile, %").Joins sampleSheet "" := Or.inl (by decide)
  have header : ((sampleConfig "Mobile, %").columnMap sampleSheet).headerRow = 1 := by decide
  refine ⟨found, rfl, rfl, ⟨_, wild, by decide, ?_⟩, ?_⟩
  · apply (silent _ "" 3 ⟨fun _ _ => rfl, fun _ _ => rfl, fun _ _ => rfl⟩).2.mpr
    refine ⟨by rw [header]; decide, by decide, ?_, joins⟩
    intro col _
    change Filter.accepts _ "" = true
    decide
  · have rows : (Worksheet.mk "Rules" (sampleSheet.rows.eraseIdx 3)).rows =
        sampleSheet.rows.take 3 ++ sampleSheet.rows.drop 4 := rfl
    have blank : ∀ cells ∈ [([] : List Cell)], isBlankRow cells = true := by decide
    have edit : sampleSheet.BlankEdit 1 ⟨"Rules", sampleSheet.rows.eraseIdx 3⟩ :=
      (Worksheet.BlankEdit.insert rows (by decide) blank).symm
    rw [← header] at edit
    have legible : (samplePlan "Mobile, %").isLegible ⟨[sampleSheet]⟩ = true :=
      Plan.isLegible_of_workbook (by decide +kernel) found _
    exact (edits _ edit).2 (by simp [sampleConfig]) legible
      ⟨_, wild, "", List.mem_singleton.mpr rfl, Or.inr rfl, joins⟩ (by decide)

end

end Rulesheet
