import Rulesheet.Document
import Rulesheet.Proofs.Markup.Reading

/- The markup of ruleset documents. The text of a document is a declaration and the writing of
   one tree of elements, indents included; names are plain, whatever the default values declare. -/
namespace Rulesheet

namespace Document
open Markup (Forest Tag escapeChars)

def field (indent name text : String) (rest : Forest) : Forest :=
  .element indent ⟨name, []⟩ (.last text) rest

def tripleContent (t : Triple) : Forest :=
  field "\n            " "Text" t.text
    (field "\n            " "InList" t.inputs
      (field "\n            " "OutList" t.outputs (.last "\n          ")))

def ruleContent (t : Triple) (rest : Forest) : Forest :=
  .element "\n          " ⟨"Rule", []⟩ (tripleContent t) rest

def rulesContent (triples : List Triple) (rest : Forest) : Forest :=
  if triples = [] then rest
  else .element "\n        " ⟨"Rules", []⟩
    (triples.foldr ruleContent (.last "\n        ")) rest

def defaultContent (d : DefaultValue) (rest : Forest) : Forest :=
  field "\n        " d.field d.literal rest

def blockContent (returnCode : String) (defaults : List DefaultValue) (pass : Pass) : Forest :=
  field "\n        " "ReturnCode" returnCode
    (field "\n        " "Sequence" (toString pass.sequence)
      ((defaults.filter DefaultValue.emitted).foldr defaultContent
        (rulesContent pass.triples (.last "\n      "))))

def listContent (returnCode : String) (defaults : List DefaultValue) (pass : Pass)
    (rest : Forest) : Forest :=
  .element "\n      " ⟨"List", []⟩ (blockContent returnCode defaults pass) rest

def loopContent (returnCode : String) (defaults : List DefaultValue) (passes : List Pass)
    (loop : Bool) : Forest :=
  if loop then
    .element "\n      " ⟨"Loop", []⟩
      (passes.foldr (listContent returnCode defaults) (.last "\n      ")) (.last "\n    ")
  else passes.foldr (listContent returnCode defaults) (.last "\n    ")

def messageTag (name : String) : Tag :=
  ⟨"SiebelMessage", [("MessageId", ""), ("MessageType", "Integration Object"),
    ("IntObjectName", name)]⟩

def componentTag (container : String) : Tag := ⟨"BusinessComponent", [("Name", container)]⟩

def frame (name container : String) (inner : Forest) : Forest :=
  .element "" (messageTag name)
    (.element "\n  " ⟨"IntObject", []⟩
      (.element "\n    " (componentTag container) inner (.last "\n  ")) (.last "\n")) (.last "")

def content (name container returnCode : String) (defaults : List DefaultValue)
    (passes : List Pass) (loop : Bool) : Forest :=
  frame name container (loopContent returnCode defaults passes loop)

def declaration : String := "<?xml version=\"1.0\" encoding=\"UTF-8\"?>\n"

theorem chars_field (indent name text : String) (rest : Forest) :
    (field indent name text rest).chars =
      escapeChars indent.toList ++ (element name text).toList ++ rest.chars := by
  simp [field, Forest.chars_element, Forest.chars_last, element, Markup.escape, Tag.chars]

theorem chars_foldr {write : α → String} {build : α → Forest → Forest}
    (each : ∀ a rest, (build a rest).chars = (write a).toList ++ rest.chars)
    (items : List α) (rest : Forest) :
    (items.foldr build rest).chars = (Text.join "" (items.map write)).toList ++ rest.chars := by
  rw [Text.toList_join]
  induction items with
  | nil => rfl
  | cons a items ih =>
    rw [List.foldr_cons, each, ih]
    cases items <;> simp

theorem chars_rule (t : Triple) (rest : Forest) :
    (ruleContent t rest).chars = (rule t).toList ++ rest.chars := by
  have inner : escapeChars "\n            ".toList = _ :=
    Markup.escapeChars_of_free (by simp [Markup.reserved])
  have outer : escapeChars "\n          ".toList = _ :=
    Markup.escapeChars_of_free (by simp [Markup.reserved])
  unfold ruleContent tripleContent rule
  rw [Forest.chars_element, chars_field, chars_field, chars_field, Forest.chars_last, inner, outer]
  simp [Tag.chars]

theorem chars_rules (triples : List Triple) (rest : Forest) :
    (rulesContent triples rest).chars = (rules triples).toList ++ rest.chars := by
  have indent : escapeChars "\n        ".toList = _ :=
    Markup.escapeChars_of_free (by simp [Markup.reserved])
  unfold rulesContent rules
  split
  · simp
  · rw [Forest.chars_element, chars_foldr chars_rule, Forest.chars_last, indent]
    simp [Tag.chars]

theorem chars_default (d : DefaultValue) (rest : Forest) :
    (defaultContent d rest).chars = (defaultElement d).toList ++ rest.chars := by
  have indent : escapeChars "\n        ".toList = _ :=
    Markup.escapeChars_of_free (by simp [Markup.reserved])
  unfold defaultContent defaultElement
  rw [chars_field, indent, String.toList_append]

theorem escape_sequence (n : Int) : escapeChars (toString n).toList = (toString n).toList := by
  apply Markup.escapeChars_of_free
  intro c member
  rcases Text.mem_toString member with digit | rfl
  · intro member
    simp only [Markup.reserved, List.mem_cons, List.not_mem_nil, or_false] at member
    rcases member with rfl | rfl | rfl | rfl | rfl
    all_goals exact absurd digit (by decide)
  · decide

theorem chars_list (returnCode : String) (defaults : List DefaultValue) (pass : Pass)
    (rest : Forest) :
    (listContent returnCode defaults pass rest).chars =
      (listBlock returnCode defaults pass).toList ++ rest.chars := by
  have inner : escapeChars "\n        ".toList = _ :=
    Markup.escapeChars_of_free (by simp [Markup.reserved])
  have outer : escapeChars "\n      ".toList = _ :=
    Markup.escapeChars_of_free (by simp [Markup.reserved])
  have sequence : element "Sequence" (toString pass.sequence) =
      "<Sequence>" ++ toString pass.sequence ++ "</Sequence>" := by
    rw [element, Markup.escape, escape_sequence, String.ofList_toList, ← String.toList_inj]
    simp
  unfold listContent blockContent listBlock
  rw [Forest.chars_element, chars_field, chars_field, chars_foldr chars_default, chars_rules,
    Forest.chars_last, inner, outer, sequence]
  simp [Tag.chars]

theorem chars_loop (returnCode : String) (defaults : List DefaultValue) (passes : List Pass)
    (loop : Bool) :
    (loopContent returnCode defaults passes loop).chars =
      (if loop then loopOpening else "").toList ++
      (Text.join "" (passes.map (listBlock returnCode defaults))).toList ++
      (if loop then "\n      </Loop>" else "").toList ++ "\n    ".toList := by
  have inner : escapeChars "\n      ".toList = _ :=
    Markup.escapeChars_of_free (by simp [Markup.reserved])
  have outer : escapeChars "\n    ".toList = _ :=
    Markup.escapeChars_of_free (by simp [Markup.reserved])
  unfold loopContent
  cases loop with
  | false =>
    rw [if_neg (by decide), chars_foldr (chars_list returnCode defaults), Forest.chars_last, outer]
    simp
  | true =>
    rw [if_pos rfl, Forest.chars_element, chars_foldr (chars_list returnCode defaults),
      Forest.chars_last, Forest.chars_last, inner, outer]
    simp [Tag.chars, loopOpening]

theorem chars_messageTag (name : String) :
    '<' :: (messageTag name).chars =
      "<SiebelMessage MessageId=\"\" MessageType=\"Integration Object\" IntObjectName=\"".toList ++
        (Markup.escape name).toList ++ ['"'] := by
  have empty : escapeChars "".toList = _ := Markup.escapeChars_of_free (by simp)
  have plain : escapeChars "Integration Object".toList = _ :=
    Markup.escapeChars_of_free (by simp [Markup.reserved])
  simp only [messageTag, Tag.chars, Markup.attributeChars, List.flatMap_cons, List.flatMap_nil,
    empty, plain, Markup.escape, String.toList_ofList]
  simp

theorem chars_componentTag (container : String) :
    '<' :: (componentTag container).chars =
      "<BusinessComponent Name=\"".toList ++ (Markup.escape container).toList ++ ['"'] := by
  simp [componentTag, Tag.chars, Markup.attributeChars, Markup.escape]

theorem toList_opening (name container : String) :
    (opening name container).toList = declaration.toList ++
      '<' :: (messageTag name).chars ++ '>' :: "\n  ".toList ++
      '<' :: (Tag.mk "IntObject" []).chars ++ '>' :: "\n    ".toList ++
      '<' :: (componentTag container).chars ++ ['>'] := by
  unfold opening
  rw [List.append_assoc _ ('<' :: (messageTag name).chars), chars_messageTag]
  simp only [List.append_assoc, chars_componentTag]
  simp [declaration, Tag.chars]

theorem toList_closing (loop : Bool) :
    (closing loop).toList = (if loop then "\n      </Loop>" else "").toList ++ "\n    ".toList ++
      '<' :: '/' :: "BusinessComponent".toList ++ '>' :: "\n  ".toList ++
      '<' :: '/' :: "IntObject".toList ++ '>' :: "\n".toList ++
      '<' :: '/' :: "SiebelMessage".toList ++ ['>'] := by
  unfold closing
  rw [String.toList_append]
  simp

theorem toList_assemble (name container returnCode defaultSpec : String) (passes : List Pass)
    (loop : Bool) :
    (assemble name container returnCode defaultSpec passes loop).toList =
      declaration.toList ++
        (content name container returnCode (DefaultValue.parse defaultSpec) passes loop).chars := by
  have first : escapeChars "\n  ".toList = _ :=
    Markup.escapeChars_of_free (by simp [Markup.reserved])
  have second : escapeChars "\n    ".toList = _ :=
    Markup.escapeChars_of_free (by simp [Markup.reserved])
  have line : escapeChars "\n".toList = _ :=
    Markup.escapeChars_of_free (by simp [Markup.reserved])
  have empty : escapeChars [] = [] := rfl
  unfold content frame assemble
  rw [Forest.chars_element, Forest.chars_element, Forest.chars_element, chars_loop]
  simp only [Forest.chars_last, first, second, line, empty, String.toList_append, toList_opening,
    toList_closing, messageTag, componentTag, String.toList_empty, List.append_assoc,
    List.cons_append, List.nil_append]

/-! Names. -/

theorem plain_of_isElementName {name : String} (valid : DefaultValue.isElementName name = true) :
    Markup.Plain name := by
  intro c member
  unfold DefaultValue.isElementName at valid
  split at valid
  · contradiction
  · rename_i first rest split
    rw [split] at member
    simp only [Bool.and_eq_true, List.all_eq_true] at valid
    unfold Markup.isNameChar
    rcases List.mem_cons.mp member with rfl | later
    · rcases Bool.or_eq_true_iff.mp valid.1 with letter | line
      · simp [Char.isAlphanum, letter]
      · simp [line]
    · exact valid.2 c later

theorem fitsName_trim (field : String) :
    DefaultValue.fitsName (Text.trim field) = DefaultValue.isElementName (Text.trim field) := by
  rw [DefaultValue.fitsName, Text.trim, String.toList_ofList, Text.withoutFinalNewline_trimChars]

theorem isElementName_of_mem_parse {spec : String} {d : DefaultValue}
    (member : d ∈ DefaultValue.parse spec) (emitted : d.emitted = true) :
    DefaultValue.isElementName d.field = true := by
  obtain ⟨group, inside, value⟩ := List.mem_filterMap.mp member
  obtain ⟨text, _, rfl⟩ := List.mem_map.mp inside
  generalize Text.cut ',' text = parts at value
  match parts, value with
  | container :: field :: marker :: more, value =>
    rw [List.map_cons, List.map_cons, List.map_cons, DefaultValue.Group.ofParts,
      fitsName_trim] at value
    split at value
    · rename_i valid
      cases value
      rcases valid with empty | valid
      · simp [DefaultValue.emitted, empty] at emitted
      · exact valid
    · contradiction

theorem plain_of_mem_parse {spec : String} {d : DefaultValue}
    (member : d ∈ DefaultValue.parse spec) (emitted : d.emitted = true) :
    Markup.Plain d.field :=
  plain_of_isElementName (isElementName_of_mem_parse member emitted)

def elementNames : List String :=
  ["IntObject", "Loop", "List", "ReturnCode", "Sequence", "Rules", "Rule", "Text", "InList",
    "OutList"]

section

variable {P : Tag → Prop} {rest : Forest}

theorem tagged_foldr {build : α → Forest → Forest} {items : List α}
    (each : ∀ a ∈ items, ∀ rest : Forest, rest.Tagged P → (build a rest).Tagged P)
    (tagged : rest.Tagged P) : (items.foldr build rest).Tagged P := by
  induction items with
  | nil => exact tagged
  | cons a items ih =>
    have later := ih fun b member => each b (List.mem_cons_of_mem a member)
    exact each a (by simp) _ later

theorem tagged_field {indent name text : String} (named : P ⟨name, []⟩)
    (tagged : rest.Tagged P) : (field indent name text rest).Tagged P :=
  ⟨named, trivial, tagged⟩

theorem tagged_rule (fixed : ∀ name ∈ elementNames, P ⟨name, []⟩) (t : Triple) (rest : Forest)
    (tagged : rest.Tagged P) : (ruleContent t rest).Tagged P := by
  refine ⟨fixed _ (by decide), ?_, tagged⟩
  exact tagged_field (fixed _ (by decide)) (tagged_field (fixed _ (by decide))
    (tagged_field (fixed _ (by decide)) trivial))

theorem tagged_list {returnCode : String} {defaults : List DefaultValue}
    (fixed : ∀ name ∈ elementNames, P ⟨name, []⟩)
    (named : ∀ d ∈ defaults, d.emitted = true → P ⟨d.field, []⟩) (pass : Pass) (rest : Forest)
    (tagged : rest.Tagged P) : (listContent returnCode defaults pass rest).Tagged P := by
  have rules : (rulesContent pass.triples (.last "\n      ")).Tagged P := by
    unfold rulesContent
    split
    · trivial
    · exact ⟨fixed _ (by decide), tagged_foldr (fun t _ => tagged_rule fixed t) trivial, trivial⟩
  refine ⟨fixed _ (by decide), ?_, tagged⟩
  refine tagged_field (fixed _ (by decide)) (tagged_field (fixed _ (by decide))
    (tagged_foldr ?_ rules))
  intro d member rest tagged
  obtain ⟨declared, emitted⟩ := List.mem_filter.mp member
  exact tagged_field (named d declared emitted) tagged

theorem tagged_content {name container returnCode : String} {defaults : List DefaultValue}
    {passes : List Pass} {loop : Bool} (fixed : ∀ name ∈ elementNames, P ⟨name, []⟩)
    (message : P (messageTag name)) (component : P (componentTag container))
    (named : ∀ d ∈ defaults, d.emitted = true → P ⟨d.field, []⟩) :
    (content name container returnCode defaults passes loop).Tagged P := by
  have lists : ∀ ending,
      (passes.foldr (listContent returnCode defaults) (.last ending)).Tagged P :=
    fun ending => tagged_foldr (fun pass _ => tagged_list fixed named pass) trivial
  have inner : (loopContent returnCode defaults passes loop).Tagged P := by
    unfold loopContent
    split
    · exact ⟨fixed _ (by decide), lists _, trivial⟩
    · exact lists _
  exact ⟨message, ⟨fixed _ (by decide), ⟨component, inner, trivial⟩, trivial⟩, trivial⟩

end

theorem plain_messageTag (name : String) : (messageTag name).Plain := by
  have root : Markup.Plain "SiebelMessage" := by decide
  have keys : Markup.Plain "MessageId" ∧ Markup.Plain "MessageType" ∧
    Markup.Plain "IntObjectName" := by decide
  refine ⟨root, ?_⟩
  intro a member
  simp only [messageTag, List.mem_cons, List.not_mem_nil, or_false] at member
  rcases member with rfl | rfl | rfl
  · exact keys.1
  · exact keys.2.1
  · exact keys.2.2

theorem plain_componentTag (container : String) : (componentTag container).Plain := by
  have component : Markup.Plain "BusinessComponent" := by decide
  have key : Markup.Plain "Name" := by decide
  refine ⟨component, ?_⟩
  intro a member
  simp only [componentTag, List.mem_singleton] at member
  subst member
  exact key

theorem plain_content {name container returnCode : String} {defaults : List DefaultValue}
    {passes : List Pass} {loop : Bool}
    (named : ∀ d ∈ defaults, d.emitted = true → Markup.Plain d.field) :
    (content name container returnCode defaults passes loop).Plain := by
  apply Forest.plain_iff_tagged.mpr
  refine tagged_content ?_ (plain_messageTag name) (plain_componentTag container) ?_
  · decide
  · intro d declared emitted
    exact ⟨named d declared emitted, by simp⟩

end Document
end Rulesheet
