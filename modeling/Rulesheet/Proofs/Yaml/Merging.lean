import Rulesheet.Proofs.Data.Tame
import Rulesheet.Yaml.Value

/- Readable documents. Every scalar stands for a value of its kind, the collections bear the tags of
   their forms, and sequences have scalars for items. Taking out the merge keys leaves a document
   readable. -/
namespace Rulesheet.Yaml
open Builder (tagAt)

/-! Nodes. -/

/-- The text stands for a value of the kind that the tag names. Tags of collections have no texts. -/
def Reads (tag : Tag) (text : String) : Prop :=
  match tag with
  | .bool => ∃ b, truthValue text = .ok b
  | .int => ∃ n, integer text = .ok n ∧ (Scalar.integer n).Short
  | .float => ∀ mark, ∃ s, float mark text = .ok s
  | .timestamp => ∃ s, timestamp text = .ok s
  | .seq | .map | .set | .omap | .pairs => False
  | .null | .binary | .str | .merge | .value | .unknown => True

inductive Kind where
  | scalar
  | sequence
  | mapping

def Shape.kind : Shape → Kind
  | .scalar _ => .scalar
  | .sequence _ => .sequence
  | .mapping _ => .mapping

def kindAt (nodes : Array Node) (i : Nat) : Option Kind := nodes[i]?.map fun n => n.shape.kind

def Node.Readable (nodes : Array Node) (n : Node) : Prop :=
  match n.shape with
  | .scalar text => Reads n.tag text
  | .sequence items => n.tag = .seq ∧ ∀ i ∈ items, kindAt nodes i = some .scalar
  | .mapping _ => n.tag = .map

def AllReadable (nodes : Array Node) : Prop :=
  ∀ (i : Nat) (n : Node), nodes[i]? = some n → n.Readable nodes

structure Kept (nodes nodes' : Array Node) : Prop where
  readable : AllReadable nodes'
  alike : ∀ i, kindAt nodes' i = kindAt nodes i

variable {nodes nodes' nodes'' : Array Node} {i : Nat}

theorem AllReadable.kept (readable : AllReadable nodes) : Kept nodes nodes := ⟨readable, fun _ => rfl⟩

theorem Kept.trans (first : Kept nodes nodes') (second : Kept nodes' nodes'') :
    Kept nodes nodes'' :=
  ⟨second.readable, fun i => (second.alike i).trans (first.alike i)⟩

theorem Node.Readable.alike {n : Node} (readable : n.Readable nodes)
    (alike : ∀ i, kindAt nodes' i = kindAt nodes i) : n.Readable nodes' := by
  unfold Node.Readable at readable ⊢
  split at readable
  · exact readable
  · refine ⟨readable.1, ?_⟩
    intro i member
    rw [alike i]
    exact readable.2 i member
  · exact readable

theorem AllReadable.kept_set (readable : AllReadable nodes) {n n' : Node} (there : nodes[i]? = some n)
    (kind : n'.shape.kind = n.shape.kind) (own : n'.Readable nodes) :
    Kept nodes (nodes.setIfInBounds i n') := by
  have inside : i < nodes.size := (Array.getElem?_eq_some_iff.mp there).1
  have alike : ∀ j, kindAt (nodes.setIfInBounds i n') j = kindAt nodes j := by
    intro j
    unfold kindAt
    by_cases here : i = j
    · subst here
      rw [Array.getElem?_setIfInBounds_self_of_lt inside, there, Option.map_some, Option.map_some,
        kind]
    · rw [Array.getElem?_setIfInBounds_ne here]
  refine ⟨?_, alike⟩
  intro j m held
  by_cases here : i = j
  · subst here
    rw [Array.getElem?_setIfInBounds_self_of_lt inside] at held
    cases held
    exact own.alike alike
  · rw [Array.getElem?_setIfInBounds_ne here] at held
    exact (readable j m held).alike alike

theorem exists_of_kindAt {kind : Kind} (known : kindAt nodes i = some kind) :
    ∃ n, nodes[i]? = some n ∧ n.shape.kind = kind := by
  obtain ⟨n, there, same⟩ := Option.map_eq_some_iff.mp known
  exact ⟨n, there, same⟩

namespace Builder

theorem kept_setEntries (readable : AllReadable nodes) (mapping : kindAt nodes i = some .mapping)
    (entries : List (Nat × Nat)) : Kept nodes (setEntries nodes i entries) := by
  obtain ⟨n, there, kind⟩ := exists_of_kindAt mapping
  have own := readable i n there
  rw [setEntries, there]
  refine readable.kept_set there kind.symm ?_
  unfold Node.Readable at own ⊢
  cases shape : n.shape with
  | scalar _ | sequence _ =>
    rw [shape] at kind
    cases kind
  | mapping _ =>
    rw [shape] at own
    exact own

theorem kept_asText (readable : AllReadable nodes) (i : Nat) : Kept nodes (asText nodes i) := by
  unfold asText
  split
  · rename_i n there
    split
    · rename_i equals
      have own := readable i n there
      refine readable.kept_set there rfl ?_
      unfold Node.Readable at own ⊢
      cases shape : n.shape with
      | scalar text => trivial
      | sequence items =>
        rw [shape, equals] at own
        cases own.1
      | mapping entries =>
        rw [shape, equals] at own
        cases own
    · exact readable.kept
  · exact readable.kept

theorem kept_asTexts (readable : AllReadable nodes) (entries : List (Nat × Nat)) :
    Kept nodes (entries.foldl (fun nodes (k, _) => asText nodes k) nodes) := by
  induction entries generalizing nodes with
  | nil => exact readable.kept
  | cons e entries ih =>
    have first := kept_asText readable e.1
    exact first.trans (ih first.readable)

def mergeInto (keys i index : Nat) (merged : List (Nat × Nat)) (v : Nat) (nodes : Array Node) :
    Scan (Array Node) :=
  match nodes[v]?.map Node.shape with
  | some (.mapping _) => do
    let nodes ← mergeFrom keys v 0 [] nodes
    mergeFrom keys i index (merged ++ entriesAt nodes v) nodes
  | some (.sequence items) => do
    let (parts, nodes) ← items.foldlM (fun (parts, nodes) n => do
      match nodes[n]?.map Node.shape with
      | some (.mapping _) =>
        let nodes ← mergeFrom keys n 0 [] nodes
        .ok (entriesAt nodes n ++ parts, nodes)
      | _ => refused) (([] : List (Nat × Nat)), nodes)
    mergeFrom keys i index (merged ++ parts) nodes
  | _ => refused

def ownEntries (nodes : Array Node) (i index : Nat) : List (Nat × Nat) :=
  ((entriesAt nodes i).drop index).takeWhile fun (k, _) => tagAt nodes k ≠ .merge

theorem mergeFrom_eq (keys i index : Nat) (merged : List (Nat × Nat)) (nodes : Array Node) :
    mergeFrom keys i index merged nodes =
      let entries := entriesAt nodes i
      let own := ownEntries nodes i index
      let nodes := own.foldl (fun nodes (k, _) => asText nodes k) nodes
      match entries.drop (index + own.length), keys with
      | [], _ => .ok (setEntries nodes i (merged ++ entries))
      | _ :: _, 0 => refused
      | (_, v) :: rest, keys + 1 => mergeInto keys i (index + own.length) merged v
        (setEntries nodes i (entries.take (index + own.length) ++ rest)) := by
  unfold mergeFrom
  rfl

theorem kindAt_of_shape {shape : Shape} (held : nodes[i]?.map Node.shape = some shape) :
    kindAt nodes i = some shape.kind := by
  obtain ⟨n, there, rfl⟩ := Option.map_eq_some_iff.mp held
  rw [kindAt, there, Option.map_some]

def KeptWith (nodes : Array Node) (p : List (Nat × Nat) × Array Node) : Prop := Kept nodes p.2

theorem kept_mergeInto {keys : Nat}
    (step : ∀ (i index : Nat) (merged : List (Nat × Nat)) (nodes : Array Node),
      AllReadable nodes → kindAt nodes i = some .mapping →
        Ends (· = .invalid) (Kept nodes) (mergeFrom keys i index merged nodes))
    (index : Nat) (merged : List (Nat × Nat)) (v : Nat) (readable : AllReadable nodes)
    (mapping : kindAt nodes i = some .mapping) :
    Ends (· = .invalid) (Kept nodes) (mergeInto keys i index merged v nodes) := by
  have goOn : ∀ (merged : List (Nat × Nat)) (nodes' : Array Node), Kept nodes nodes' →
      Ends (· = .invalid) (Kept nodes) (mergeFrom keys i index merged nodes') := by
    intro merged nodes' kept
    have next := step i index merged nodes' kept.readable ((kept.alike i).trans mapping)
    exact next.mono fun _ later => kept.trans later
  unfold mergeInto
  split
  · rename_i held
    refine (step v 0 [] nodes readable (kindAt_of_shape held)).bind ?_
    intro nodes' kept
    exact goOn _ nodes' kept
  · rename_i items _
    have start : KeptWith nodes ([], nodes) := readable.kept
    refine (Ends.foldlM start ?_).bind ?_
    · rintro ⟨parts, nodes'⟩ kept n _
      dsimp only
      split
      · rename_i held
        refine (step n 0 [] nodes' kept.readable (kindAt_of_shape held)).bind ?_
        intro nodes'' later
        exact kept.trans later
      · rfl
    · rintro ⟨parts, nodes'⟩ kept
      exact goOn _ nodes' kept
  · rfl

/-- Merging keeps the nodes readable, or it is refused. -/
theorem kept_mergeFrom (keys i index : Nat) (merged : List (Nat × Nat)) (nodes : Array Node)
    (readable : AllReadable nodes) (mapping : kindAt nodes i = some .mapping) :
    Ends (· = .invalid) (Kept nodes) (mergeFrom keys i index merged nodes) := by
  -- on the merge keys that may still come; bringing one in keeps the kinds of all nodes
  induction keys generalizing i index merged nodes with
  | zero =>
    have texts := kept_asTexts readable (ownEntries nodes i index)
    have here := (texts.alike i).trans mapping
    rw [mergeFrom_eq]
    dsimp only
    split
    · exact texts.trans (kept_setEntries texts.readable here _)
    · rfl
    · contradiction
  | succ keys ih =>
    have texts := kept_asTexts readable (ownEntries nodes i index)
    have here := (texts.alike i).trans mapping
    rw [mergeFrom_eq]
    dsimp only
    split
    · exact texts.trans (kept_setEntries texts.readable here _)
    · contradiction
    · rename_i v rest _ _ step
      cases step
      have taken := texts.trans (kept_setEntries texts.readable here
        ((entriesAt nodes i).take (index + (ownEntries nodes i index).length) ++ rest))
      have merges := kept_mergeInto ih (index + (ownEntries nodes i index).length) merged v
        taken.readable ((taken.alike i).trans mapping)
      exact merges.mono fun _ later => taken.trans later

end Builder
end Rulesheet.Yaml
