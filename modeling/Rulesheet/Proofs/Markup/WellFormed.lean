import Rulesheet.Proofs.Markup.Reading
import Rulesheet.Text.Quoted
import Rulesheet.Text.Ranges

/- Well-formed XML 1.0 documents that consist of a declaration and one element, without comments,
   sections or instructions. The grammar has the characters it admits as a parameter. With all of
   them it says how a text is nested; with those of the production `Char` it says that the text is
   well-formed. -/
namespace Rulesheet.Xml

def charRanges : Text.Ranges :=
  [(0x9, 0xA), (0xD, 0xD), (0x20, 0xD7FF), (0xE000, 0xFFFD), (0x10000, 0x10FFFF)]

/-- The production `Char`. What holds half of a surrogate pair is none. -/
def isChar (c : Char) : Bool := charRanges.contains c && (Text.surrogate? c).isNone

def nameStartRanges : Text.Ranges :=
  [(0x3A, 0x3A), (0x41, 0x5A), (0x5F, 0x5F), (0x61, 0x7A), (0xC0, 0xD6), (0xD8, 0xF6),
    (0xF8, 0x2FF), (0x370, 0x37D), (0x37F, 0x1FFF), (0x200C, 0x200D), (0x2070, 0x218F),
    (0x2C00, 0x2FEF), (0x3001, 0xD7FF), (0xF900, 0xFDCF), (0xFDF0, 0xFFFD), (0x10000, 0xEFFFF)]

def nameRanges : Text.Ranges :=
  [(0x2D, 0x2E), (0x30, 0x39), (0xB7, 0xB7), (0x300, 0x36F), (0x203F, 0x2040)]

def isNameStart (c : Char) : Bool := isChar c && nameStartRanges.contains c

def isNameChar (c : Char) : Bool := isNameStart c || (isChar c && nameRanges.contains c)

def isName : List Char → Bool
  | [] => false
  | c :: rest => isNameStart c && rest.all isNameChar

def references : List (List Char) :=
  ["&amp;".toList, "&lt;".toList, "&gt;".toList, "&quot;".toList, "&apos;".toList, "&#x27;".toList]

section Grammar

variable (admitted : Char → Prop)

/-- The text of an element or of an attribute: no reserved character stands in it but in a
    reference. -/
inductive Data : List Char → Prop where
  | nil : Data []
  | char {c : Char} {rest : List Char} (member : admitted c) (free : c ∉ Markup.reserved)
      (more : Data rest) : Data (c :: rest)
  | reference {r rest : List Char} (known : r ∈ references) (more : Data rest) : Data (r ++ rest)

inductive Attributes : List (List Char) → List Char → Prop where
  | nil : Attributes [] []
  | cons {name value rest : List Char} {names : List (List Char)} (named : isName name = true)
      (fresh : name ∉ names) (data : Data admitted value) (more : Attributes names rest) :
      Attributes (name :: names) (' ' :: name ++ '=' :: '"' :: value ++ '"' :: rest)

def elementChars (name attributes inner : List Char) : List Char :=
  '<' :: (name ++ attributes) ++ '>' :: inner ++ '<' :: '/' :: name ++ ['>']

inductive Content : List Char → Prop where
  | text {data : List Char} (text : Data admitted data) : Content data
  | element {lead name attributes inner rest : List Char} {names : List (List Char)}
      (before : Data admitted lead) (named : isName name = true)
      (attributed : Attributes admitted names attributes) (inside : Content inner)
      (behind : Content rest) : Content (lead ++ elementChars name attributes inner ++ rest)

def declaration : List Char := "<?xml version=\"1.0\" encoding=\"UTF-8\"?>\n".toList

inductive Document : List Char → Prop where
  | root {name attributes inner : List Char} {names : List (List Char)}
      (named : isName name = true) (attributed : Attributes admitted names attributes)
      (inside : Content admitted inner) :
      Document (declaration ++ elementChars name attributes inner)

end Grammar

/-- Tags match and are nested, names are names, texts are escaped; any character is admitted. -/
def Nested (s : List Char) : Prop := Document (fun _ => True) s

def WellFormed (s : List Char) : Prop := Document (fun c => isChar c = true) s

/-! A well-formed text is a nested one whose characters are all admitted. -/

section Characters

theorem isChar_of_isNameStart {c : Char} (start : isNameStart c = true) : isChar c = true :=
  (Bool.and_eq_true_iff.mp start).1

theorem isChar_of_isNameChar {c : Char} (part : isNameChar c = true) : isChar c = true := by
  rcases Bool.or_eq_true_iff.mp part with start | other
  · exact isChar_of_isNameStart start
  · exact (Bool.and_eq_true_iff.mp other).1

theorem isChar_of_isName {name : List Char} (named : isName name = true) :
    ∀ c ∈ name, isChar c = true := by
  cases name with
  | nil => simp
  | cons first rest =>
    obtain ⟨start, others⟩ := Bool.and_eq_true_iff.mp named
    intro c member
    rcases List.mem_cons.mp member with rfl | later
    · exact isChar_of_isNameStart start
    · exact isChar_of_isNameChar (List.all_eq_true.mp others c later)

theorem isChar_references : ∀ r ∈ references, ∀ c ∈ r, isChar c = true := by
  have all : (references.all fun r => r.all isChar) = true := by decide
  simpa only [List.all_eq_true] using all

theorem isChar_declaration : ∀ c ∈ declaration, isChar c = true := by
  have all : declaration.all isChar = true := by decide
  exact List.all_eq_true.mp all

theorem isChar_marks : ∀ c ∈ ['<', '>', '/', ' ', '=', '"'], isChar c = true := by
  have all : ['<', '>', '/', ' ', '=', '"'].all isChar = true := by decide
  exact List.all_eq_true.mp all

theorem isChar_element {name attributes inner : List Char}
    (named : ∀ c ∈ name, isChar c = true) (attributed : ∀ c ∈ attributes, isChar c = true)
    (inside : ∀ c ∈ inner, isChar c = true) :
    ∀ c ∈ elementChars name attributes inner, isChar c = true := by
  have marks := isChar_marks
  intro c member
  simp only [elementChars, List.cons_append, List.append_assoc, List.mem_cons, List.mem_append,
    List.not_mem_nil, or_false] at member
  grind

theorem Data.chars {s : List Char} (data : Data (fun c => isChar c = true) s) :
    ∀ c ∈ s, isChar c = true := by
  induction data with
  | nil => simp
  | char member free more ih =>
    intro d inside
    rcases List.mem_cons.mp inside with rfl | later
    · exact member
    · exact ih d later
  | reference known more ih =>
    intro d inside
    rcases List.mem_append.mp inside with here | later
    · exact isChar_references _ known d here
    · exact ih d later

theorem Attributes.chars {names : List (List Char)} {s : List Char}
    (attributed : Attributes (fun c => isChar c = true) names s) :
    ∀ c ∈ s, isChar c = true := by
  have marks := isChar_marks
  induction attributed with
  | nil => simp
  | cons named fresh data more ih =>
    have name := isChar_of_isName named
    have value := data.chars
    intro c member
    simp only [List.cons_append, List.append_assoc, List.mem_cons, List.mem_append] at member
    grind

theorem Content.chars {s : List Char} (content : Content (fun c => isChar c = true) s) :
    ∀ c ∈ s, isChar c = true := by
  induction content with
  | text text => exact text.chars
  | element before named attributed inside behind ihInside ihBehind =>
    intro c member
    rcases List.mem_append.mp member with front | last
    · rcases List.mem_append.mp front with lead | element
      · exact before.chars c lead
      · exact isChar_element (isChar_of_isName named) attributed.chars ihInside c element
    · exact ihBehind c last

theorem WellFormed.chars {s : List Char} (formed : WellFormed s) : ∀ c ∈ s, isChar c = true := by
  obtain ⟨named, attributed, inside⟩ := formed
  intro c member
  rcases List.mem_append.mp member with first | element
  · exact isChar_declaration c first
  · exact isChar_element (isChar_of_isName named) attributed.chars inside.chars c element

end Characters

section Change

variable {before after : Char → Prop}

/-! The grammar admits another set of characters where each character of the text is in it. -/

theorem Data.change {s : List Char} (data : Data before s) (all : ∀ c ∈ s, after c) :
    Data after s := by
  induction data with
  | nil => exact .nil
  | char member free more ih =>
    exact .char (all _ (by simp)) free (ih fun c later => all c (by simp [later]))
  | reference known more ih => exact .reference known (ih fun c later => all c (by simp [later]))

theorem Attributes.change {names : List (List Char)} {s : List Char}
    (attributed : Attributes before names s) (all : ∀ c ∈ s, after c) :
    Attributes after names s := by
  induction attributed with
  | nil => exact .nil
  | cons named fresh data more ih =>
    have value := data.change fun c member => all c (by simp [member])
    exact .cons named fresh value (ih fun c later => all c (by simp [later]))

theorem Content.change {s : List Char} (content : Content before s) (all : ∀ c ∈ s, after c) :
    Content after s := by
  induction content with
  | text text => exact .text (text.change all)
  | element first named attributed inside behind ihInside ihBehind =>
    refine .element (first.change ?_) named (attributed.change ?_) (ihInside ?_) (ihBehind ?_)
    all_goals
      intro c member
      exact all c (by simp [elementChars, member])

theorem Document.change {s : List Char} (document : Document before s) (all : ∀ c ∈ s, after c) :
    Document after s := by
  obtain ⟨named, attributed, inside⟩ := document
  refine .root named (attributed.change ?_) (inside.change ?_)
  all_goals
    intro c member
    exact all c (by simp [elementChars, member])

end Change

theorem wellFormed_iff {s : List Char} :
    WellFormed s ↔ Nested s ∧ ∀ c ∈ s, isChar c = true := by
  constructor
  · intro formed
    exact ⟨Document.change formed fun _ _ => trivial, formed.chars⟩
  · rintro ⟨nested, all⟩
    exact nested.change all

/-! Written markup is nested, whatever its texts are. -/

section Writing

theorem data_escapeChar (c : Char) {rest : List Char} (more : Data (fun _ => True) rest) :
    Data (fun _ => True) (Markup.escapeChar c ++ rest) := by
  unfold Markup.escapeChar
  split
  · exact .reference (by decide) more
  split
  · exact .reference (by decide) more
  split
  · exact .reference (by decide) more
  split
  · exact .reference (by decide) more
  split
  · exact .reference (by decide) more
  · exact .char trivial (by simp_all [Markup.reserved]) more

theorem data_escapeChars (s : List Char) : Data (fun _ => True) (Markup.escapeChars s) := by
  induction s with
  | nil => exact .nil
  | cons c rest ih =>
    rw [Markup.escapeChars, List.flatMap_cons]
    exact data_escapeChar c ih

structure IsTag (tag : Markup.Tag) : Prop where
  named : isName tag.name.toList = true
  keyed : ∀ a ∈ tag.attributes, isName a.1.toList = true
  fresh : (tag.attributes.map fun a => a.1.toList).Nodup

theorem attributes_chars {as : List (String × String)}
    (keyed : ∀ a ∈ as, isName a.1.toList = true) (fresh : (as.map fun a => a.1.toList).Nodup) :
    Attributes (fun _ => True) (as.map fun a => a.1.toList)
      (as.flatMap Markup.attributeChars) := by
  induction as with
  | nil => exact .nil
  | cons a as ih =>
    obtain ⟨absent, apart⟩ := List.nodup_cons.mp fresh
    have first := keyed a (by simp)
    have more := ih (fun b member => keyed b (by simp [member])) apart
    have split : (a :: as).flatMap Markup.attributeChars =
        ' ' :: a.1.toList ++ '=' :: '"' :: Markup.escapeChars a.2.toList ++
          '"' :: as.flatMap Markup.attributeChars := by
      simp [Markup.attributeChars]
    rw [split]
    exact .cons first absent (data_escapeChars _) more

theorem content_chars {c : Markup.Forest} (tagged : c.Tagged IsTag) :
    Content (fun _ => True) c.chars := by
  induction c with
  | last text =>
    rw [Markup.Forest.chars_last]
    exact .text (data_escapeChars _)
  | element text tag inner rest ihInner ihRest =>
    obtain ⟨valid, inside, behind⟩ := tagged
    have split : (Markup.Forest.element text tag inner rest).chars =
        Markup.escapeChars text.toList ++ elementChars tag.name.toList
          (tag.attributes.flatMap Markup.attributeChars) inner.chars ++ rest.chars := by
      rw [Markup.Forest.chars_element]
      simp [elementChars, Markup.Tag.chars]
    rw [split]
    exact .element (data_escapeChars _) valid.named (attributes_chars valid.keyed valid.fresh)
      (ihInner inside) (ihRest behind)

theorem nested_element {tag : Markup.Tag} {inner : Markup.Forest} (valid : IsTag tag)
    (inside : inner.Tagged IsTag) :
    Nested (declaration ++ (Markup.Forest.element "" tag inner (.last "")).chars) := by
  have split : (Markup.Forest.element "" tag inner (.last "")).chars =
      elementChars tag.name.toList (tag.attributes.flatMap Markup.attributeChars)
        inner.chars := by
    rw [Markup.Forest.chars_element, Markup.Forest.chars_last]
    simp [elementChars, Markup.Tag.chars, Markup.escapeChars]
  rw [split]
  exact .root valid.named (attributes_chars valid.keyed valid.fresh) (content_chars inside)

end Writing

/-! The characters of written markup are those of its texts, but for marks and names. -/

section Texts

def Legal (text : String) : Prop := ∀ c ∈ text.toList, isChar c = true

instance (text : String) : Decidable (Legal text) :=
  decidable_of_iff (text.toList.all isChar = true) List.all_eq_true

def Admissible : Markup.Forest → Prop
  | .last text => Legal text
  | .element text tag inner rest =>
    Legal text ∧ (∀ a ∈ tag.attributes, Legal a.2) ∧ Admissible inner ∧ Admissible rest

theorem isChar_escapeChar (c : Char) :
    (∀ d ∈ Markup.escapeChar c, isChar d = true) ↔ isChar c = true := by
  by_cases reserved : c ∈ Markup.reserved
  · have both : (Markup.reserved.all fun c => (Markup.escapeChar c).all isChar && isChar c) =
        true := by decide
    obtain ⟨written, itself⟩ := Bool.and_eq_true_iff.mp (List.all_eq_true.mp both c reserved)
    rw [List.all_eq_true] at written
    exact ⟨fun _ => itself, fun _ => written⟩
  · have single : Markup.escapeChars [c] = [c] :=
      Markup.escapeChars_of_free (by simpa using reserved)
    rw [Markup.escapeChars, List.flatMap_singleton] at single
    rw [single]
    simp

theorem isChar_escapeChars (text : String) :
    (∀ c ∈ Markup.escapeChars text.toList, isChar c = true) ↔ Legal text := by
  constructor
  · intro all c member
    refine (isChar_escapeChar c).mp fun d inside => all d ?_
    exact List.mem_flatMap.mpr ⟨c, member, inside⟩
  · intro legal d inside
    obtain ⟨c, member, written⟩ := List.mem_flatMap.mp inside
    exact (isChar_escapeChar c).mpr (legal c member) d written

theorem isChar_attributes {as : List (String × String)}
    (keyed : ∀ a ∈ as, isName a.1.toList = true) :
    (∀ c ∈ as.flatMap Markup.attributeChars, isChar c = true) ↔ ∀ a ∈ as, Legal a.2 := by
  have marks := isChar_marks
  have written : ∀ a ∈ as, (∀ c ∈ Markup.attributeChars a, isChar c = true) ↔ Legal a.2 := by
    intro a member
    have name := isChar_of_isName (keyed a member)
    rw [← isChar_escapeChars]
    simp only [Markup.attributeChars, List.cons_append, List.mem_cons, List.mem_append,
      List.not_mem_nil, or_false]
    grind
  simp only [List.mem_flatMap, forall_exists_index, and_imp]
  constructor
  · intro all a member
    exact (written a member).mp fun c inside => all c a member inside
  · intro legal c a member inside
    exact (written a member).mpr (legal a member) c inside

theorem isChar_chars {c : Markup.Forest} (tagged : c.Tagged IsTag) :
    (∀ ch ∈ c.chars, isChar ch = true) ↔ Admissible c := by
  induction c with
  | last text =>
    rw [Markup.Forest.chars_last]
    exact isChar_escapeChars text
  | element text tag inner rest ihInner ihRest =>
    obtain ⟨valid, inside, behind⟩ := tagged
    have marks := isChar_marks
    have name := isChar_of_isName valid.named
    rw [Markup.Forest.chars_element, Admissible, ← isChar_escapeChars,
      ← isChar_attributes valid.keyed, ← ihInner inside, ← ihRest behind]
    simp only [Markup.Tag.chars, List.cons_append, List.append_assoc, List.mem_cons,
      List.mem_append]
    grind

end Texts

end Rulesheet.Xml
