import Rulesheet.Proofs.Document.Content

/- Reading ruleset documents back. The reader takes the elements of a document at their own places
   and with their own indents; what it finds is what the document was made of, so that documents
   with different contents have different texts. -/
namespace Rulesheet

structure ListBlock where
  returnCode : String
  sequence : String
  defaults : List (String × String)
  rules : Option (List Triple)
  deriving DecidableEq, Repr

def ListBlock.ofPass (returnCode : String) (defaults : List DefaultValue) (pass : Pass) :
    ListBlock where
  returnCode := returnCode
  sequence := toString pass.sequence
  defaults := (defaults.filter DefaultValue.emitted).map fun d => (d.field, d.literal)
  rules := if pass.triples = [] then none else some pass.triples

/-- What a document says: its names, whether there is a loop level, and its list blocks. -/
structure Ruleset where
  name : String
  container : String
  loop : Bool
  lists : List ListBlock
  deriving DecidableEq, Repr

def Ruleset.ofArguments (name container returnCode defaultSpec : String) (passes : List Pass)
    (loop : Bool) : Ruleset where
  name := name
  container := container
  loop := loop
  lists := passes.map (.ofPass returnCode (DefaultValue.parse defaultSpec))

namespace Document
open Markup (Forest Tag)

def child? (indent name : String) : Forest → Option (Forest × Forest)
  | .last _ => none
  | .element text tag inner rest =>
    if text = indent ∧ tag = ⟨name, []⟩ then some (inner, rest) else none

def field? (indent name : String) (c : Forest) : Option (String × Forest) :=
  match child? indent name c with
  | some (.last text, rest) => some (text, rest)
  | _ => none

def triple? (c : Forest) : Option Triple := do
  let (text, c) ← field? "\n            " "Text" c
  let (inputs, c) ← field? "\n            " "InList" c
  let (outputs, c) ← field? "\n            " "OutList" c
  if c = .last "\n          " then some ⟨text, inputs, outputs⟩ else none

def rules? : Forest → Option (List Triple)
  | .last text => if text = "\n        " then some [] else none
  | .element text tag inner rest =>
    if text = "\n          " ∧ tag = ⟨"Rule", []⟩ then do
      let first ← triple? inner
      let more ← rules? rest
      some (first :: more)
    else none

/-- Default elements hold a text alone. The rules element holds elements and stands last, so that
    a default value of its name is not taken for it. -/
def defaults? : Forest → Option (List (String × String) × Option (List Triple))
  | .last text => if text = "\n      " then some ([], none) else none
  | .element text tag (.last literal) rest =>
    if text = "\n        " ∧ tag.attributes = [] then do
      let (defaults, rules) ← defaults? rest
      some ((tag.name, literal) :: defaults, rules)
    else none
  | .element text tag inner rest =>
    if text = "\n        " ∧ tag = ⟨"Rules", []⟩ ∧ rest = .last "\n      " then
      (rules? inner).map fun rules => ([], some rules)
    else none

def block? (c : Forest) : Option ListBlock := do
  let (returnCode, c) ← field? "\n        " "ReturnCode" c
  let (sequence, c) ← field? "\n        " "Sequence" c
  let (defaults, rules) ← defaults? c
  some ⟨returnCode, sequence, defaults, rules⟩

def lists? (ending : String) : Forest → Option (List ListBlock)
  | .last text => if text = ending then some [] else none
  | .element text tag inner rest =>
    if text = "\n      " ∧ tag = ⟨"List", []⟩ then do
      let first ← block? inner
      let more ← lists? ending rest
      some (first :: more)
    else none

def loop? (c : Forest) : Option (Bool × List ListBlock) :=
  match child? "\n      " "Loop" c with
  | some (inner, rest) =>
    if rest = .last "\n    " then (lists? "\n      " inner).map (true, ·) else none
  | none => (lists? "\n    " c).map (false, ·)

def ruleset? (c : Forest) : Option Ruleset :=
  match c with
  | .element _ ⟨_, [_, _, (_, name)]⟩
      (.element _ _ (.element _ ⟨_, [(_, container)]⟩ inner _) _) _ =>
    if c = frame name container inner then
      (loop? inner).map fun (loop, lists) => ⟨name, container, loop, lists⟩
    else none
  | _ => none

def read? (text : String) : Option Ruleset :=
  if declaration.toList.isPrefixOf text.toList then
    (Markup.readForest? (text.toList.drop declaration.toList.length)).bind ruleset?
  else none

theorem child?_element (indent name : String) (inner rest : Forest) :
    child? indent name (.element indent ⟨name, []⟩ inner rest) = some (inner, rest) :=
  if_pos ⟨rfl, rfl⟩

theorem field?_field (indent name text : String) (rest : Forest) :
    field? indent name (field indent name text rest) = some (text, rest) := by
  rw [field?, field, child?_element]

theorem triple?_tripleContent (t : Triple) : triple? (tripleContent t) = some t := by
  simp only [triple?, tripleContent, field?_field, Option.bind_eq_bind, Option.bind_some]
  rfl

theorem rules?_foldr (triples : List Triple) :
    rules? (triples.foldr ruleContent (.last "\n        ")) = some triples := by
  induction triples with
  | nil => exact if_pos rfl
  | cons t triples ih =>
    rw [List.foldr_cons, ruleContent, rules?, if_pos ⟨rfl, rfl⟩, triple?_tripleContent, ih]
    rfl

theorem defaults?_rules (triples : List Triple) :
    defaults? (rulesContent triples (.last "\n      ")) =
      some ([], if triples = [] then none else some triples) := by
  cases triples with
  | nil => exact if_pos rfl
  | cons t triples =>
    rw [rulesContent, if_neg (List.cons_ne_nil t triples), if_neg (List.cons_ne_nil t triples)]
    have inner := rules?_foldr (t :: triples)
    rw [List.foldr_cons, ruleContent] at inner ⊢
    rw [defaults?, if_pos ⟨rfl, rfl, rfl⟩, inner]
    · rfl
    · simp

theorem defaults?_foldr (defaults : List DefaultValue) (triples : List Triple) :
    defaults? (defaults.foldr defaultContent (rulesContent triples (.last "\n      "))) =
      some (defaults.map fun d => (d.field, d.literal),
        if triples = [] then none else some triples) := by
  induction defaults with
  | nil => exact defaults?_rules triples
  | cons d defaults ih =>
    rw [List.foldr_cons, defaultContent, field, defaults?, if_pos ⟨rfl, rfl⟩, ih]
    rfl

theorem block?_blockContent (returnCode : String) (defaults : List DefaultValue) (pass : Pass) :
    block? (blockContent returnCode defaults pass) =
      some (.ofPass returnCode defaults pass) := by
  simp only [block?, blockContent, field?_field, defaults?_foldr, Option.bind_eq_bind,
    Option.bind_some, ListBlock.ofPass]

theorem lists?_foldr (returnCode ending : String) (defaults : List DefaultValue)
    (passes : List Pass) :
    lists? ending (passes.foldr (listContent returnCode defaults) (.last ending)) =
      some (passes.map (.ofPass returnCode defaults)) := by
  induction passes with
  | nil => exact if_pos rfl
  | cons pass passes ih =>
    rw [List.foldr_cons, listContent, lists?, if_pos ⟨rfl, rfl⟩, block?_blockContent, ih]
    rfl

theorem loop?_loopContent (returnCode : String) (defaults : List DefaultValue)
    (passes : List Pass) (loop : Bool) :
    loop? (loopContent returnCode defaults passes loop) =
      some (loop, passes.map (.ofPass returnCode defaults)) := by
  cases loop with
  | true =>
    rw [loopContent, if_pos rfl, loop?, child?_element]
    simp only [↓reduceIte, lists?_foldr, Option.map_some]
  | false =>
    have first : child? "\n      " "Loop"
        (passes.foldr (listContent returnCode defaults) (.last "\n    ")) = none := by
      cases passes with
      | nil => rfl
      | cons pass passes => simp [listContent, child?]
    rw [loopContent, if_neg (by decide), loop?, first]
    simp only [lists?_foldr, Option.map_some]

theorem ruleset?_content (name container returnCode defaultSpec : String) (passes : List Pass)
    (loop : Bool) :
    ruleset? (content name container returnCode (DefaultValue.parse defaultSpec) passes loop) =
      some (.ofArguments name container returnCode defaultSpec passes loop) := by
  rw [content]
  change (if frame name container _ = frame name container _ then _ else none) = _
  rw [if_pos rfl, loop?_loopContent]
  rfl

theorem read?_assemble (name container returnCode defaultSpec : String) (passes : List Pass)
    (loop : Bool) :
    read? (assemble name container returnCode defaultSpec passes loop) =
      some (.ofArguments name container returnCode defaultSpec passes loop) := by
  have plain : (content name container returnCode (DefaultValue.parse defaultSpec) passes
      loop).Plain := plain_content fun _ => plain_of_mem_parse
  rw [read?, toList_assemble, if_pos (by simp), List.drop_left, Markup.readForest?_chars _ plain,
    Option.bind_some, ruleset?_content]

theorem ofArguments_of_same_text {name name' container container' returnCode returnCode'
    defaultSpec defaultSpec' : String} {passes passes' : List Pass} {loop loop' : Bool}
    (same : assemble name container returnCode defaultSpec passes loop =
      assemble name' container' returnCode' defaultSpec' passes' loop') :
    Ruleset.ofArguments name container returnCode defaultSpec passes loop =
      .ofArguments name' container' returnCode' defaultSpec' passes' loop' := by
  have first := read?_assemble name container returnCode defaultSpec passes loop
  rw [same, read?_assemble] at first
  exact (Option.some.inj first).symm

/-- A document is read back as what it was made of: its names, a loop level exactly on request,
    and a list block a pass with the emitted defaults and, for a pass with rules, their triples.
    No two different rulesets share a text. -/
theorem assemble_round_trip (name container returnCode defaultSpec : String)
    (passes : List Pass) (loop : Bool) :
    read? (assemble name container returnCode defaultSpec passes loop) = some
      { name := name
        container := container
        loop := loop
        lists := passes.map fun pass =>
          { returnCode := returnCode
            sequence := toString pass.sequence
            defaults := ((DefaultValue.parse defaultSpec).filter DefaultValue.emitted).map
              fun d => (d.field, d.literal)
            rules := if pass.triples = [] then none else some pass.triples } } ∧
    ∀ (name' container' returnCode' defaultSpec' : String) (passes' : List Pass) (loop' : Bool),
      assemble name container returnCode defaultSpec passes loop =
        assemble name' container' returnCode' defaultSpec' passes' loop' →
      Ruleset.ofArguments name container returnCode defaultSpec passes loop =
        .ofArguments name' container' returnCode' defaultSpec' passes' loop' := by
  constructor
  · exact read?_assemble name container returnCode defaultSpec passes loop
  · intro name' container' returnCode' defaultSpec' passes' loop' same
    exact ofArguments_of_same_text same

end Document
end Rulesheet
