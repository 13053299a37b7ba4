import Rulesheet.Proofs.Definition.Scanning

/- How a definition can be written down. Each setting is declared on a line of its own, in any of the
   spellings that a declaration may have, and other lines stand between them; whatever the order and
   the spellings are, the document is read back as the definition that was written. -/
namespace Rulesheet

structure Cased (word : String) where
  chars : List Char
  same : chars.map Char.toLower = word.toList.map Char.toLower

structure Gap where
  chars : List Char
  blank : ∀ c ∈ chars, Declaration.isGap c = true

structure Space extends Gap where
  filled : chars ≠ []

structure Leading (keywords : List String) where
  keyword : String
  known : keyword ∈ keywords
  word : Cased keyword
  space : Space

def modifiers : List String := ["Public", "Private", "Global", "Dim"]

def ConstantKind.typeName : ConstantKind → String
  | .text => "String"
  | .flag => "Boolean"

structure TypeClause (kind : ConstantKind) where
  before : Space
  as : Cased "As"
  between : Space
  type : Cased kind.typeName

/-- How the declaration of a constant is spelled. Behind a text anything may follow its closing
    quote; behind a truth value its word must end. -/
structure Spelling (c : Constant) where
  indent : Gap
  modifier : Option (Leading modifiers)
  const : Option (Leading ["Const"])
  name : Cased c.name
  type : Option (TypeClause c.kind)
  beforeEquals : Gap
  afterEquals : Gap
  truth : (b : Bool) → Cased (if b then "True" else "False")
  tail : List Char
  single : '\n' ∉ tail
  ended : c.kind = .flag → ∀ ch ∈ tail.head?, Text.isWord ch = false

namespace Leading

def chars {keywords : List String} (l : Leading keywords) : List Char :=
  l.word.chars ++ l.space.chars

end Leading

namespace TypeClause

def chars {kind : ConstantKind} (t : TypeClause kind) : List Char :=
  t.before.chars ++ t.as.chars ++ t.between.chars ++ t.type.chars

end TypeClause

namespace Spelling

variable {c : Constant}

def optional {α : Type} (chars : α → List Char) : Option α → List Char
  | none => []
  | some a => chars a

def head (p : Spelling c) : List Char :=
  p.indent.chars ++ optional Leading.chars p.modifier ++ optional Leading.chars p.const ++
    p.name.chars ++ optional TypeClause.chars p.type ++ p.beforeEquals.chars

def written (p : Spelling c) : DeclaredValue → List Char
  | .text s => '"' :: s.toList ++ ['"']
  | .flag b => (p.truth b).chars

def line (p : Spelling c) (v : DeclaredValue) : List Char :=
  p.head ++ '=' :: p.afterEquals.chars ++ p.written v ++ p.tail

end Spelling

def DeclaredValue.Quotable : DeclaredValue → Prop
  | .text s => ∀ ch ∈ s.toList, ch ≠ '"' ∧ ch ≠ '\r' ∧ ch ≠ '\n'
  | .flag _ => True

instance : (v : DeclaredValue) → Decidable v.Quotable
  | .text s => List.decidableBAll _ s.toList
  | .flag _ => inferInstanceAs (Decidable True)

/-- A line that declares no known constant. -/
structure Remark where
  line : List Char
  single : '\n' ∉ line
  foreign : ∀ d, Declaration.ofLine? line = some d → ∀ c ∈ Constant.all,
    d.name ≠ Text.lower c.name

inductive Piece where
  | declaration (c : Constant) (spelling : Spelling c)
  | remark (r : Remark)

namespace Piece

def constant? : Piece → Option Constant
  | declaration c _ => some c
  | remark _ => none

def line (config : MacroConfig) : Piece → List Char
  | declaration c p => p.line (config.value c.setting)
  | remark r => r.line

end Piece

namespace Definition

def text (config : MacroConfig) (pieces : List Piece) : String :=
  String.ofList (List.intercalate ['\n'] (pieces.map (Piece.line config)))

end Definition

/-! A spelled line is derived from the grammar. -/

def IsPlainWord (word : String) : Prop :=
  word.toList ≠ [] ∧ ∀ ch ∈ word.toList, Text.isWord ch = true ∧ ch.toNat < 128

instance (word : String) : Decidable (IsPlainWord word) :=
  @instDecidableAnd _ _ inferInstance (List.decidableBAll _ word.toList)

namespace Cased

variable {word : String}

theorem exists_same (w : Cased word) {ch : Char} (member : ch ∈ w.chars) :
    ∃ k ∈ word.toList, k.toLower = ch.toLower := by
  have lowered := List.mem_map_of_mem (f := Char.toLower) member
  rw [w.same] at lowered
  exact List.mem_map.mp lowered

theorem filled (w : Cased word) (plain : IsPlainWord word) : w.chars ≠ [] := by
  intro empty
  have same := w.same
  rw [empty, List.map_nil, eq_comm, List.map_eq_nil_iff] at same
  exact plain.1 same

theorem isWord (w : Cased word) (plain : IsPlainWord word) :
    ∀ ch ∈ w.chars, Text.isWord ch = true := by
  intro ch member
  obtain ⟨k, known, same⟩ := w.exists_same member
  rw [← Text.isWord_toLower, ← same, Text.isWord_toLower]
  exact (plain.2 k known).1

theorem ascii (w : Cased word) (plain : IsPlainWord word) : ∀ ch ∈ w.chars, ch.toNat < 128 := by
  have lowered : ∀ n < 128, (Char.ofNat n).toLower.toNat < 128 := by decide +kernel
  intro ch member
  obtain ⟨k, known, same⟩ := w.exists_same member
  have here := lowered k.toNat (plain.2 k known).2
  rw [Char.ofNat_toNat, same] at here
  exact Text.ascii_of_toLower here

theorem isKeyword (w : Cased word) :
    Declaration.isKeyword (word.toList.map Char.toLower) w.chars = true := by
  rw [← w.same]
  exact Declaration.isKeyword_lowered w.chars

theorem isName (w : Cased word) (plain : IsPlainWord word) : Declaration.IsName w.chars :=
  ⟨w.filled plain, w.isWord plain⟩

end Cased

theorem plain_names : ∀ c ∈ Constant.all, IsPlainWord c.name := by decide

namespace Leading

variable {keywords : List String}

theorem optional_isLead {reads : List Char → Bool}
    (known : ∀ l : Leading keywords, reads l.word.chars = true) (l : Option (Leading keywords)) :
    Declaration.Maybe (Declaration.IsLead reads) (Spelling.optional chars l) := by
  cases l with
  | none => exact .inl rfl
  | some l => exact .inr (.intro (known l) ⟨l.space.filled, l.space.blank⟩)

theorem isModifier (l : Leading modifiers) : Declaration.isModifier l.word.chars = true := by
  obtain ⟨keyword, known, word, space⟩ := l
  simp only [modifiers, List.mem_cons, List.not_mem_nil, or_false] at known
  unfold Declaration.isModifier
  rcases known with rfl | rfl | rfl | rfl
  · have reads : Declaration.isKeyword "public".toList word.chars = true := word.isKeyword
    rw [reads, Bool.true_or, Bool.true_or, Bool.true_or]
  · have reads : Declaration.isKeyword "private".toList word.chars = true := word.isKeyword
    rw [reads, Bool.or_true, Bool.true_or, Bool.true_or]
  · have reads : Declaration.isKeyword "global".toList word.chars = true := word.isKeyword
    rw [reads, Bool.or_true, Bool.true_or]
  · have reads : Declaration.isKeyword "dim".toList word.chars = true := word.isKeyword
    rw [reads, Bool.or_true]

theorem isConst (l : Leading ["Const"]) :
    Declaration.isKeyword "const".toList l.word.chars = true := by
  obtain ⟨keyword, known, word, space⟩ := l
  obtain rfl := List.mem_singleton.mp known
  exact word.isKeyword

end Leading

theorem ConstantKind.lowered_typeName (kind : ConstantKind) :
    kind.typeName.toList.map Char.toLower = kind.label.toList := by
  cases kind <;> decide

theorem TypeClause.optional_isType {kind : ConstantKind} (t : Option (TypeClause kind)) :
    Declaration.Maybe (Declaration.IsType kind.label.toList)
      (Spelling.optional TypeClause.chars t) := by
  cases t with
  | none => exact .inl rfl
  | some t =>
    have as : Declaration.isKeyword "as".toList t.as.chars = true := t.as.isKeyword
    have type := t.type.isKeyword
    rw [kind.lowered_typeName] at type
    have clause := Declaration.IsType.intro ⟨t.before.filled, t.before.blank⟩ as
      ⟨t.between.filled, t.between.blank⟩ type
    refine .inr ?_
    simpa only [Spelling.optional, chars, List.append_assoc] using clause

namespace Spelling

variable {c : Constant} {v : DeclaredValue}

theorem head_derived (listed : c ∈ Constant.all) (p : Spelling c) :
    Declaration.Head c.kind.label.toList p.name.chars p.head := by
  have derived := Declaration.Head.intro p.indent.blank
    (Leading.optional_isLead Leading.isModifier p.modifier)
    (Leading.optional_isLead Leading.isConst p.const) (p.name.isName (plain_names c listed))
    (TypeClause.optional_isType p.type) p.beforeEquals.blank
  simpa only [head, List.append_assoc] using derived

theorem written_derived (p : Spelling c) (kind : v.kind = c.kind) (quotable : v.Quotable) :
    Declaration.Written v (p.written v) p.tail := by
  cases v with
  | text s =>
    have quoted : Declaration.Written (.text (String.ofList s.toList)) _ p.tail := .text quotable
    rwa [String.ofList_toList] at quoted
  | flag b =>
    refine .flag ?_ (p.ended kind.symm)
    cases b
    · exact (p.truth false).isKeyword
    · exact (p.truth true).isKeyword

theorem derived (listed : c ∈ Constant.all) (p : Spelling c) (kind : v.kind = c.kind)
    (quotable : v.Quotable) : Declaration.Derives p.name.chars v
      (p.head ++ '=' :: (p.afterEquals.chars ++ p.written v)) p.tail := by
  have head := p.head_derived listed
  rw [← kind] at head
  exact .intro head p.afterEquals.blank (p.written_derived kind quotable)

theorem line_eq (p : Spelling c) (v : DeclaredValue) :
    p.line v = (p.head ++ '=' :: (p.afterEquals.chars ++ p.written v)) ++ p.tail := by
  simp only [line, List.cons_append, List.append_assoc]

theorem lower_name (listed : c ∈ Constant.all) (p : Spelling c) :
    String.ofList (Text.lowerFrom [] p.name.chars) = Text.lower c.name := by
  have plain := plain_names c listed
  rw [Text.lower, Text.lowerFrom_ascii (p.name.ascii plain),
    Text.lowerFrom_ascii fun ch member => (plain.2 ch member).2, p.name.same]

theorem ofLine?_line (listed : c ∈ Constant.all) (p : Spelling c) (kind : v.kind = c.kind)
    (quotable : v.Quotable) : Declaration.ofLine? (p.line v) = some ⟨Text.lower c.name, v⟩ := by
  rw [Declaration.ofLine?_eq_map, p.line_eq,
    Declaration.read?_of_derives (p.derived listed kind quotable), Option.map_some,
    Declaration.ofReading, p.lower_name listed]

theorem single_line (listed : c ∈ Constant.all) (p : Spelling c) (kind : v.kind = c.kind)
    (quotable : v.Quotable) : '\n' ∉ p.line v := by
  rw [p.line_eq, List.mem_append, not_or]
  exact ⟨Declaration.single_of_derives (p.derived listed kind quotable), p.single⟩

end Spelling
end Rulesheet
