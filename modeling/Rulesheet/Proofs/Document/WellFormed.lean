import Rulesheet.Proofs.Document.Content
import Rulesheet.Proofs.Execution
import Rulesheet.Proofs.Markup.WellFormed

/- Which ruleset documents are well-formed. All are nested, with names for names and with escaped
   texts, but a text is written with whatever characters it has. A control character of a cell or of
   a definition stands in the document as it is, and then the document is not well-formed; nothing
   else can go wrong. -/
namespace Rulesheet
namespace Document

theorem ascii_of_isAlphanum {c : Char} (part : c.isAlphanum = true) : c.toNat < 128 := by
  have letter_or_digit : ((c.isUpper || c.isLower) || c.isDigit) = true := part
  have bounded : ∀ last : Char, last.toNat < 128 → c.val ≤ last.val → c.toNat < 128 :=
    fun last ascii below => Nat.lt_of_le_of_lt (UInt32.le_iff_toNat_le.mp below) ascii
  rcases Bool.or_eq_true_iff.mp letter_or_digit with letter | digit
  · rcases Bool.or_eq_true_iff.mp letter with upper | lower
    · exact bounded 'Z' (by decide) (of_decide_eq_true upper).2
    · exact bounded 'z' (by decide) (of_decide_eq_true (Bool.and_eq_true_iff.mp lower).2)
  · exact bounded '9' (by decide) (of_decide_eq_true (Bool.and_eq_true_iff.mp digit).2)

theorem isName_classes {c : Char} (ascii : c.toNat < 128) :
    ((c.isAlpha || c == '_') = true → Xml.isNameStart c = true) ∧
      (Markup.isNameChar c = true → Xml.isNameChar c = true) := by
  have each : ∀ n < 128, ((Char.ofNat n).isAlpha || Char.ofNat n == '_') = true →
      Xml.isNameStart (Char.ofNat n) = true := by decide +kernel
  have part : ∀ n < 128, Markup.isNameChar (Char.ofNat n) = true →
      Xml.isNameChar (Char.ofNat n) = true := by decide +kernel
  have first := each c.toNat ascii
  have later := part c.toNat ascii
  rw [Char.ofNat_toNat] at first later
  exact ⟨first, later⟩

theorem isNameStart_of_ascii {c : Char} (start : (c.isAlpha || c == '_') = true) :
    Xml.isNameStart c = true := by
  have ascii : c.toNat < 128 := by
    rcases Bool.or_eq_true_iff.mp start with letter | line
    · exact ascii_of_isAlphanum (by simp [Char.isAlphanum, letter])
    · rw [beq_iff_eq.mp line]
      decide
  exact (isName_classes ascii).1 start

theorem isNameChar_of_ascii {c : Char} (part : Markup.isNameChar c = true) :
    Xml.isNameChar c = true := by
  have ascii : c.toNat < 128 := by
    simp only [Markup.isNameChar, Bool.or_eq_true, beq_iff_eq] at part
    rcases part with ((alphanumeric | rfl) | rfl) | rfl
    · exact ascii_of_isAlphanum alphanumeric
    all_goals decide
  exact (isName_classes ascii).2 part

theorem isName_of_isElementName {name : String}
    (valid : DefaultValue.isElementName name = true) : Xml.isName name.toList = true := by
  unfold DefaultValue.isElementName at valid
  split at valid
  · contradiction
  · rename_i first rest split
    obtain ⟨start, others⟩ := Bool.and_eq_true_iff.mp valid
    rw [split, Xml.isName, isNameStart_of_ascii start, Bool.true_and, List.all_eq_true]
    intro c member
    exact isNameChar_of_ascii (List.all_eq_true.mp others c member)

theorem isTag_of_name {name : String} (named : Xml.isName name.toList = true) :
    Xml.IsTag ⟨name, []⟩ where
  named := named
  keyed := by simp
  fresh := by simp

theorem isTag_messageTag (name : String) : Xml.IsTag (messageTag name) := by
  have root : Xml.isName "SiebelMessage".toList = true := by decide
  have keys : ∀ key ∈ ["MessageId", "MessageType", "IntObjectName"],
      Xml.isName key.toList = true := by decide
  have apart : ["MessageId".toList, "MessageType".toList, "IntObjectName".toList].Nodup := by decide
  refine ⟨root, ?_, apart⟩
  intro a member
  apply keys
  simp only [messageTag, List.mem_cons, List.not_mem_nil, or_false] at member
  rcases member with rfl | rfl | rfl <;> simp

theorem isTag_componentTag (container : String) : Xml.IsTag (componentTag container) := by
  have component : Xml.isName "BusinessComponent".toList = true := by decide
  have key : Xml.isName "Name".toList = true := by decide
  refine ⟨component, ?_, List.nodup_cons.mpr ⟨by simp, List.nodup_nil⟩⟩
  intro a member
  rw [List.mem_singleton.mp member]
  exact key

theorem tagged_parse (name container returnCode defaultSpec : String) (passes : List Pass)
    (loop : Bool) :
    (content name container returnCode (DefaultValue.parse defaultSpec) passes loop).Tagged
      Xml.IsTag := by
  have fixed : ∀ name ∈ elementNames, Xml.isName name.toList = true := by decide
  refine tagged_content ?_ (isTag_messageTag name) (isTag_componentTag container) ?_
  · intro name member
    exact isTag_of_name (fixed name member)
  · intro d declared emitted
    exact isTag_of_name (isName_of_isElementName (isElementName_of_mem_parse declared emitted))

theorem nested_assemble (name container returnCode defaultSpec : String) (passes : List Pass)
    (loop : Bool) :
    Xml.Nested (assemble name container returnCode defaultSpec passes loop).toList := by
  obtain ⟨message, inside, _⟩ := tagged_parse name container returnCode defaultSpec passes loop
  rw [toList_assemble]
  exact Xml.nested_element message inside

/-! The texts of a document that are not its own: those of the definition and those of the cells. -/

section Texts

variable {returnCode : String} {defaults : List DefaultValue} {passes : List Pass} {loop : Bool}

structure LegalRule (t : Triple) : Prop where
  text : Xml.Legal t.text
  inputs : Xml.Legal t.inputs
  outputs : Xml.Legal t.outputs

structure LegalList (returnCode : String) (defaults : List DefaultValue) (pass : Pass) : Prop where
  returnCode : Xml.Legal returnCode
  defaults : ∀ d ∈ defaults, d.emitted = true → Xml.Legal d.literal
  rules : ∀ t ∈ pass.triples, LegalRule t

structure LegalTexts (name container returnCode : String) (defaults : List DefaultValue)
    (passes : List Pass) : Prop where
  name : Xml.Legal name
  container : Xml.Legal container
  lists : ∀ pass ∈ passes, LegalList returnCode defaults pass

theorem admissible_field {indent name text : String} {rest : Markup.Forest}
    (blank : Xml.Legal indent) :
    Xml.Admissible (field indent name text rest) ↔ Xml.Legal text ∧ Xml.Admissible rest := by
  simp [field, Xml.Admissible, blank]

theorem admissible_foldr {build : α → Markup.Forest → Markup.Forest} {Legal : α → Prop}
    {items : List α}
    (each : ∀ a ∈ items, ∀ rest, Xml.Admissible (build a rest) ↔ Legal a ∧ Xml.Admissible rest)
    (rest : Markup.Forest) :
    Xml.Admissible (items.foldr build rest) ↔
      (∀ a ∈ items, Legal a) ∧ Xml.Admissible rest := by
  induction items with
  | nil => simp
  | cons a items ih =>
    have later := ih fun b member => each b (List.mem_cons_of_mem a member)
    rw [List.foldr_cons, each a (by simp), later, List.forall_mem_cons, and_assoc]

theorem admissible_rule (t : Triple) (rest : Markup.Forest) :
    Xml.Admissible (ruleContent t rest) ↔ LegalRule t ∧ Xml.Admissible rest := by
  have outer : Xml.Legal "\n          " := by decide
  have inner : Xml.Legal "\n            " := by decide
  simp only [ruleContent, tripleContent, Xml.Admissible, admissible_field inner, outer, true_and,
    and_true, List.not_mem_nil, false_implies, implies_true]
  constructor
  · rintro ⟨⟨text, inputs, outputs⟩, rest⟩
    exact ⟨⟨text, inputs, outputs⟩, rest⟩
  · rintro ⟨legal, rest⟩
    exact ⟨⟨legal.text, legal.inputs, legal.outputs⟩, rest⟩

theorem admissible_rules (triples : List Triple) (rest : Markup.Forest) :
    Xml.Admissible (rulesContent triples rest) ↔
      (∀ t ∈ triples, LegalRule t) ∧ Xml.Admissible rest := by
  have indent : Xml.Legal "\n        " := by decide
  unfold rulesContent
  split
  · rename_i none
    simp [none]
  · simp [Xml.Admissible, admissible_foldr fun t _ => admissible_rule t, indent]

theorem legal_sequence (n : Int) : Xml.Legal (toString n) := by
  intro c member
  have part : Markup.isNameChar c = true := by
    rcases Text.mem_toString member with digit | rfl
    · simp [Markup.isNameChar, Char.isAlphanum, digit]
    · decide
  exact Xml.isChar_of_isNameChar (isNameChar_of_ascii part)

theorem admissible_list (pass : Pass) (rest : Markup.Forest) :
    Xml.Admissible (listContent returnCode defaults pass rest) ↔
      LegalList returnCode defaults pass ∧ Xml.Admissible rest := by
  have outer : Xml.Legal "\n      " := by decide
  have inner : Xml.Legal "\n        " := by decide
  have each : ∀ d ∈ defaults.filter DefaultValue.emitted, ∀ rest,
      Xml.Admissible (defaultContent d rest) ↔ Xml.Legal d.literal ∧ Xml.Admissible rest :=
    fun d _ rest => admissible_field inner
  simp only [listContent, blockContent, Xml.Admissible, admissible_field inner,
    admissible_foldr each, admissible_rules, legal_sequence, outer, List.mem_filter, and_imp,
    true_and, and_true, List.not_mem_nil, false_implies, implies_true]
  constructor
  · rintro ⟨⟨code, values, rules⟩, rest⟩
    exact ⟨⟨code, values, rules⟩, rest⟩
  · rintro ⟨legal, rest⟩
    exact ⟨⟨legal.returnCode, legal.defaults, legal.rules⟩, rest⟩

theorem admissible_loop :
    Xml.Admissible (loopContent returnCode defaults passes loop) ↔
      ∀ pass ∈ passes, LegalList returnCode defaults pass := by
  have inner : Xml.Legal "\n      " := by decide
  have outer : Xml.Legal "\n    " := by decide
  have lists : ∀ ending, Xml.Admissible
      (passes.foldr (listContent returnCode defaults) (.last ending)) ↔
        (∀ pass ∈ passes, LegalList returnCode defaults pass) ∧ Xml.Admissible (.last ending) :=
    fun ending => admissible_foldr (fun pass _ => admissible_list pass) _
  unfold loopContent
  split
  · simp only [Xml.Admissible, lists, inner, outer, true_and, and_true, List.not_mem_nil,
      false_implies, implies_true]
  · simp only [Xml.Admissible, lists, outer, and_true]

theorem admissible_content {name container : String} :
    Xml.Admissible (content name container returnCode defaults passes loop) ↔
      LegalTexts name container returnCode defaults passes := by
  have blanks : Xml.Legal "" ∧ Xml.Legal "\n  " ∧ Xml.Legal "\n    " ∧ Xml.Legal "\n" ∧
    Xml.Legal "Integration Object" := by decide
  obtain ⟨empty, first, second, line, kind⟩ := blanks
  simp only [content, frame, Xml.Admissible, admissible_loop, messageTag, componentTag,
    List.mem_cons, List.not_mem_nil, or_false, forall_eq_or_imp, forall_eq, false_implies,
    implies_true, empty, first, second, line, kind, true_and, and_true]
  constructor
  · rintro ⟨named, contained, lists⟩
    exact ⟨named, contained, lists⟩
  · intro legal
    exact ⟨legal.name, legal.container, legal.lists⟩

theorem wellFormed_assemble_iff {name container defaultSpec : String} :
    Xml.WellFormed
        (assemble name container returnCode defaultSpec passes loop).toList ↔
      LegalTexts name container returnCode (DefaultValue.parse defaultSpec) passes := by
  have written := Xml.isChar_chars
    (tagged_parse name container returnCode defaultSpec passes loop)
  rw [Xml.wellFormed_iff, and_iff_right (nested_assemble _ _ _ _ _ _), toList_assemble,
    ← admissible_content, ← written]
  constructor
  · intro all c member
    exact all c (List.mem_append_right _ member)
  · intro all c member
    rcases List.mem_append.mp member with first | later
    · exact Xml.isChar_declaration c first
    · exact all c later

end Texts

end Document

variable {c : MacroConfig} {book : Workbook} {release : String} {s : Settings} {name : String}

/-- Every document is nested. It is well-formed exactly when no character stands in it that XML 1.0
    does not admit, which depends on the texts that its definition and its rules bring. -/
theorem executeMacro_wellFormed {x : MacroResult} (made : x ∈ executeMacro c book release s name)
    (success : x.success = true) :
    Xml.Nested x.content.toList ∧
      (Xml.WellFormed x.content.toList ↔ ∀ ch ∈ x.content.toList, Xml.isChar ch = true) ∧
      ∃ p part, Plan.prepare c book release s = .ok p ∧ part ∈ p.partitions ∧
        x.content = (p.produce part).content ∧
        (Xml.WellFormed x.content.toList ↔
          Document.LegalTexts (part.fill c.documentName) c.container p.returnCode
            (DefaultValue.parse c.defaults) (p.passes part)) := by
  cases planned : Plan.prepare c book release s with
  | error failure =>
    rw [executeMacro, planned] at made
    rw [List.mem_singleton.mp made] at success
    contradiction
  | ok p =>
    rw [executeMacro_of_plan planned] at made
    obtain ⟨d, produced, rfl⟩ := List.mem_map.mp made
    obtain ⟨part, declared, rfl⟩ := List.mem_map.mp produced
    obtain ⟨_, w, _, plan, _⟩ := Plan.prepare_eq_ok_iff.mp planned
    have config : p.config = c := by rw [plan]; rfl
    have nested : Xml.Nested (p.produce part).content.toList :=
      Document.nested_assemble _ _ _ _ _ _
    have written : (p.produce part).content = Document.assemble (part.fill c.documentName)
        c.container p.returnCode c.defaults (p.passes part) c.loop := by
      rw [← config]; rfl
    refine ⟨nested, ?_, p, part, rfl, declared, rfl, ?_⟩
    · exact Xml.wellFormed_iff.trans (and_iff_right nested)
    · change Xml.WellFormed (p.produce part).content.toList ↔ _
      rw [written]
      exact Document.wellFormed_assemble_iff

def controlConfig : MacroConfig := { sampleConfig "%" with container := "\x01" }

theorem executeMacro_wellFormed_sample :
    (∃ x ∈ executeMacro (sampleConfig "%") ⟨[sampleSheet]⟩ "R2" {} "M", x.success = true ∧
      Xml.WellFormed x.content.toList) ∧
    ∃ x ∈ executeMacro controlConfig ⟨[sampleSheet]⟩ "R2" {} "M", x.success = true ∧
      Xml.Nested x.content.toList ∧ ¬ Xml.WellFormed x.content.toList := by
  constructor
  · have some : ∃ x ∈ executeMacro (sampleConfig "%") ⟨[sampleSheet]⟩ "R2" {} "M",
        x.success = true := by decide +kernel
    obtain ⟨x, made, success⟩ := some
    obtain ⟨_, _, p, part, planned, declared, _, formed⟩ := executeMacro_wellFormed made success
    obtain rfl : samplePlan "%" = p := Except.ok.inj ((prepare_sample "%").symm.trans planned)
    have named : ∀ part ∈ (samplePlan "%").partitions, Xml.Legal (part.fill "Doc%") := by
      decide +kernel
    have rules : ∀ part ∈ (samplePlan "%").partitions, ∀ pass ∈ (samplePlan "%").passes part,
        ∀ t ∈ pass.triples, Xml.Legal t.text ∧ Xml.Legal t.inputs ∧ Xml.Legal t.outputs := by
      decide +kernel
    have code : Xml.Legal (samplePlan "%").returnCode := by decide +kernel
    have defaults : DefaultValue.parse "" = [] := by decide +kernel
    refine ⟨x, made, success, formed.mpr ⟨named part declared, by decide, ?_⟩⟩
    intro pass member
    refine ⟨code, ?_, fun t inside => ?_⟩
    · intro d declared
      rw [show (sampleConfig "%").defaults = "" from rfl, defaults] at declared
      exact absurd declared List.not_mem_nil
    · obtain ⟨text, inputs, outputs⟩ := rules part declared pass member t inside
      exact ⟨text, inputs, outputs⟩
  · have some : ∃ x ∈ executeMacro controlConfig ⟨[sampleSheet]⟩ "R2" {} "M",
        x.success = true := by decide +kernel
    obtain ⟨x, made, success⟩ := some
    obtain ⟨nested, _, p, part, _, _, _, formed⟩ := executeMacro_wellFormed made success
    refine ⟨x, made, success, nested, fun wellFormed => ?_⟩
    exact absurd (formed.mp wellFormed).container (by decide)

end Rulesheet
