import Rulesheet.Proofs.Document.Content

/- The elements of a list block. The return code, the sequence number and the rules have places of
   their own, but a default value may have any element name, theirs among them: then the block
   holds an element more of that name. It holds a text alone and stands between the two first
   elements and the rules. -/
namespace Rulesheet

namespace Markup.Forest

def children : Forest → List (Tag × Forest)
  | last _ => []
  | element _ tag inner rest => (tag, inner) :: rest.children

def named (name : String) (c : Forest) : List Forest :=
  (c.children.filter fun e => e.1.name = name).map Prod.snd

end Markup.Forest

namespace Document
open Markup (Forest Tag)

theorem children_field (indent name text : String) (rest : Forest) :
    (field indent name text rest).children = (⟨name, []⟩, .last text) :: rest.children := rfl

theorem children_foldr {build : α → Forest → Forest} (child : α → Tag × Forest)
    (each : ∀ a rest, (build a rest).children = child a :: rest.children)
    (items : List α) (rest : Forest) :
    (items.foldr build rest).children = items.map child ++ rest.children := by
  induction items with
  | nil => rfl
  | cons a items ih => rw [List.foldr_cons, each, ih, List.map_cons, List.cons_append]

def defaultChild (d : DefaultValue) : Tag × Forest := (⟨d.field, []⟩, .last d.literal)

def ruleChild (t : Triple) : Tag × Forest := (⟨"Rule", []⟩, tripleContent t)

def ruleLines (triples : List Triple) : Forest := triples.foldr ruleContent (.last "\n        ")

def rulesChildren (triples : List Triple) : List (Tag × Forest) :=
  if triples = [] then [] else [(⟨"Rules", []⟩, ruleLines triples)]

theorem children_ruleLines (triples : List Triple) :
    (ruleLines triples).children = triples.map ruleChild := by
  rw [ruleLines, children_foldr ruleChild fun _ _ => rfl]
  exact List.append_nil _

theorem children_rules (triples : List Triple) :
    (rulesContent triples (.last "\n      ")).children = rulesChildren triples := by
  unfold rulesContent rulesChildren
  split <;> rfl

variable {returnCode : String} {defaults : List DefaultValue} {pass : Pass}

theorem children_block : (blockContent returnCode defaults pass).children =
    (⟨"ReturnCode", []⟩, .last returnCode) ::
      (⟨"Sequence", []⟩, .last (toString pass.sequence)) ::
        (defaults.filter DefaultValue.emitted).map defaultChild ++ rulesChildren pass.triples := by
  rw [blockContent, children_field, children_field,
    children_foldr defaultChild fun _ _ => rfl, children_rules]
  rfl

/-! Counting elements. -/

def fixedCount (pass : Pass) (name : String) : Nat :=
  ["ReturnCode", "Sequence"].count name +
    if pass.triples = [] then 0 else ["Rules"].count name

def defaultCount (defaults : List DefaultValue) (name : String) : Nat :=
  (defaults.filter DefaultValue.emitted).countP fun d => d.field = name

theorem length_named (name : String) (c : Forest) :
    (c.named name).length = c.children.countP fun e => e.1.name = name := by
  rw [Forest.named, List.length_map, List.countP_eq_length_filter]

theorem countP_rulesChildren (name : String) (triples : List Triple) :
    (rulesChildren triples).countP (fun e => e.1.name = name) =
      if triples = [] then 0 else ["Rules"].count name := by
  unfold rulesChildren
  split
  · rfl
  · simp [List.count_cons, List.countP_cons]

theorem length_named_block (name : String) :
    ((blockContent returnCode defaults pass).named name).length =
      fixedCount pass name + defaultCount defaults name := by
  have defaultsCount : ((defaults.filter DefaultValue.emitted).map defaultChild).countP
      (fun e => e.1.name = name) = defaultCount defaults name := by
    rw [List.countP_map]
    rfl
  rw [length_named, children_block, List.cons_append, List.cons_append, List.countP_cons,
    List.countP_cons, List.countP_append, defaultsCount, countP_rulesChildren]
  simp only [fixedCount, List.count_cons, List.count_nil, decide_eq_true_eq, beq_iff_eq]
  omega

/-- The structure of a list block: one return code, the number of the pass once, and rules exactly
    if the pass has any, in one element, an element a rule. -/
structure Structured (returnCode : String) (pass : Pass) (block : Forest) : Prop where
  returnCode : block.named "ReturnCode" = [.last returnCode]
  sequence : block.named "Sequence" = [.last (toString pass.sequence)]
  noRules : pass.triples = [] → block.named "Rules" = []
  rules : pass.triples ≠ [] → ∃ rules, block.named "Rules" = [rules] ∧
    (rules.named "Rule").length = pass.triples.length

def structuralNames : List String := ["ReturnCode", "Sequence", "Rules"]

/-- No default value goes into the document under a name that has a meaning there. -/
def Apart (defaults : List DefaultValue) : Prop :=
  ∀ d ∈ defaults, d.emitted = true → d.field ∉ structuralNames

theorem defaultCount_eq_zero_iff {name : String} :
    defaultCount defaults name = 0 ↔ ∀ d ∈ defaults, d.emitted = true → d.field ≠ name := by
  simp [defaultCount, List.countP_eq_zero, List.mem_filter]

theorem apart_iff : Apart defaults ↔ ∀ name ∈ structuralNames, defaultCount defaults name = 0 := by
  simp only [defaultCount_eq_zero_iff]
  constructor
  · rintro apart name structural d member emitted rfl
    exact apart d member emitted structural
  · intro none d member emitted structural
    exact none d.field structural d member emitted rfl

theorem named_block_of_apart {name : String} (none : defaultCount defaults name = 0) :
    (blockContent returnCode defaults pass).named name =
      (((⟨"ReturnCode", []⟩, .last returnCode) ::
        (⟨"Sequence", []⟩, .last (toString pass.sequence)) ::
          rulesChildren pass.triples : List (Tag × Forest)).filter
            fun e => e.1.name = name).map Prod.snd := by
  have dropped : (((defaults.filter DefaultValue.emitted).map defaultChild).filter
      fun e => e.1.name = name) = [] := by
    rw [List.filter_eq_nil_iff]
    intro e member
    obtain ⟨d, filtered, rfl⟩ := List.mem_map.mp member
    obtain ⟨declared, emitted⟩ := List.mem_filter.mp filtered
    intro same
    exact defaultCount_eq_zero_iff.mp none d declared emitted (of_decide_eq_true same)
  rw [Forest.named, children_block, List.cons_append, List.cons_append, List.filter_cons,
    List.filter_cons, List.filter_append, dropped, List.nil_append, List.filter_cons,
    List.filter_cons]

theorem length_named_ruleLines (triples : List Triple) :
    ((ruleLines triples).named "Rule").length = triples.length := by
  rw [length_named, children_ruleLines, List.countP_map]
  exact (List.countP_eq_length.mpr fun _ _ => rfl)

theorem structured_of_apart (apart : Apart defaults) :
    Structured returnCode pass (blockContent returnCode defaults pass) := by
  have none := apart_iff.mp apart
  have codes : (blockContent returnCode defaults pass).named "ReturnCode" = _ :=
    named_block_of_apart (none "ReturnCode" (by decide))
  have numbers : (blockContent returnCode defaults pass).named "Sequence" = _ :=
    named_block_of_apart (none "Sequence" (by decide))
  have rules : (blockContent returnCode defaults pass).named "Rules" = _ :=
    named_block_of_apart (none "Rules" (by decide))
  by_cases empty : pass.triples = []
  · rw [rulesChildren, if_pos empty] at codes numbers rules
    exact ⟨codes, numbers, fun _ => rules, fun filled => absurd empty filled⟩
  · rw [rulesChildren, if_neg empty] at codes numbers rules
    exact ⟨codes, numbers, fun none => absurd none empty,
      fun _ => ⟨_, rules, length_named_ruleLines _⟩⟩

theorem apart_of_structured
    (structured : Structured returnCode pass (blockContent returnCode defaults pass)) :
    Apart defaults := by
  have codes := congrArg List.length structured.returnCode
  have numbers := congrArg List.length structured.sequence
  have rules : ((blockContent returnCode defaults pass).named "Rules").length =
      fixedCount pass "Rules" := by
    by_cases empty : pass.triples = []
    · rw [structured.noRules empty, fixedCount, if_pos empty]
      rfl
    · obtain ⟨_, one, _⟩ := structured.rules empty
      rw [one, fixedCount, if_neg empty]
      rfl
  rw [length_named_block] at codes numbers rules
  have codes' : fixedCount pass "ReturnCode" = 1 := by
    unfold fixedCount
    split <;> rfl
  have numbers' : fixedCount pass "Sequence" = 1 := by
    unfold fixedCount
    split <;> rfl
  rw [codes', List.length_singleton] at codes
  rw [numbers', List.length_singleton] at numbers
  rw [apart_iff]
  intro name structural
  simp only [structuralNames, List.mem_cons, List.not_mem_nil, or_false] at structural
  rcases structural with rfl | rfl | rfl <;> omega

theorem readForest?_listBlock (returnCode spec : String) (pass : Pass) :
    Markup.readForest? (listBlock returnCode (DefaultValue.parse spec) pass).toList =
      some (listContent returnCode (DefaultValue.parse spec) pass (.last "")) := by
  have plain : (listContent returnCode (DefaultValue.parse spec) pass (.last "")).Plain := by
    apply Forest.plain_iff_tagged.mpr
    refine tagged_list ?_ ?_ pass _ trivial
    · decide
    · intro d declared emitted
      exact ⟨plain_of_mem_parse declared emitted, by simp⟩
  have written := chars_list returnCode (DefaultValue.parse spec) pass (.last "")
  rw [Forest.chars_last, String.toList_empty, Markup.escapeChars, List.flatMap_nil,
    List.append_nil] at written
  rw [← written, Markup.readForest?_chars _ plain]

/-- A list block holds a return code, a sequence number, a text under the name of each emitted
    default value, and the rules of its pass. No default adds to the rules, but one may bear a name
    that the block gives a meaning: the block has its structure exactly if none does. -/
theorem listBlock_children (returnCode spec : String) (pass : Pass) :
    ∃ block : Forest,
      Markup.readForest? (listBlock returnCode (DefaultValue.parse spec) pass).toList =
        some (.element "\n      " ⟨"List", []⟩ block (.last "")) ∧
      block.children =
        (⟨"ReturnCode", []⟩, .last returnCode) ::
          (⟨"Sequence", []⟩, .last (toString pass.sequence)) ::
            ((DefaultValue.parse spec).filter DefaultValue.emitted).map defaultChild ++
              rulesChildren pass.triples ∧
      (ruleLines pass.triples).children = pass.triples.map ruleChild ∧
      (∀ name, (block.named name).length =
        fixedCount pass name + defaultCount (DefaultValue.parse spec) name) ∧
      (Structured returnCode pass block ↔ Apart (DefaultValue.parse spec)) := by
  refine ⟨_, readForest?_listBlock returnCode spec pass, children_block, children_ruleLines _,
    length_named_block, apart_of_structured, structured_of_apart⟩

theorem listBlock_children_rules :
    listBlock "1000" (DefaultValue.parse "BC,Rules,x,on") ⟨1, "", []⟩ =
      "\n      <List>\n        <ReturnCode>1000</ReturnCode>\n        <Sequence>1</Sequence>" ++
        "\n        <Rules>on</Rules>\n      </List>" ∧
    ∃ block, Markup.readForest?
        (listBlock "1000" (DefaultValue.parse "BC,Rules,x,on") ⟨1, "", []⟩).toList =
          some (.element "\n      " ⟨"List", []⟩ block (.last "")) ∧
      (block.named "Rules").length = 1 ∧ ¬ Structured "1000" ⟨1, "", []⟩ block := by
  obtain ⟨block, read, _, _, count, structured⟩ :=
    listBlock_children "1000" "BC,Rules,x,on" ⟨1, "", []⟩
  refine ⟨by decide, block, read, ?_, ?_⟩
  · rw [count]
    decide
  · rw [structured]
    intro apart
    exact apart ⟨"BC", "Rules", "x", "on"⟩ (by decide) rfl (by decide)

end Document
end Rulesheet
