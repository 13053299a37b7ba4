import Rulesheet.Document.Markup
import Rulesheet.Proofs.Text.Pieces

/- Reading markup back. The reader cuts a text at its tags, compares tags as they stand, decodes
   the five entity references and keeps every blank. What is written with escaped texts and plain
   names is read back exactly, whatever the texts are. -/
namespace Rulesheet.Markup

def unescape? : List Char → Option (List Char)
  | [] => some []
  | '&' :: 'a' :: 'm' :: 'p' :: ';' :: rest => (unescape? rest).map ('&' :: ·)
  | '&' :: 'l' :: 't' :: ';' :: rest => (unescape? rest).map ('<' :: ·)
  | '&' :: 'g' :: 't' :: ';' :: rest => (unescape? rest).map ('>' :: ·)
  | '&' :: 'q' :: 'u' :: 'o' :: 't' :: ';' :: rest => (unescape? rest).map ('"' :: ·)
  | '&' :: '#' :: 'x' :: '2' :: '7' :: ';' :: rest => (unescape? rest).map ('\'' :: ·)
  | c :: rest => if c = '&' then none else (unescape? rest).map (c :: ·)

theorem unescape?_cons {c : Char} (plain : c ≠ '&') (rest : List Char) :
    unescape? (c :: rest) = (unescape? rest).map (c :: ·) := by
  rw [unescape?, if_neg plain]
  all_goals
    intros
    exact absurd ‹_› plain

theorem unescape?_escapeChar (c : Char) (rest : List Char) :
    unescape? (escapeChar c ++ rest) = (unescape? rest).map (c :: ·) := by
  unfold escapeChar
  split
  · subst c; rfl
  split
  · subst c; rfl
  split
  · subst c; rfl
  split
  · subst c; rfl
  split
  · subst c; rfl
  · rename_i plain _ _ _ _
    exact unescape?_cons plain rest

theorem unescape?_escapeChars (s : List Char) : unescape? (escapeChars s) = some s := by
  induction s with
  | nil => rfl
  | cons c rest ih =>
    rw [escapeChars, List.flatMap_cons, unescape?_escapeChar]
    change (unescape? (escapeChars rest)).map (c :: ·) = _
    rw [ih, Option.map_some]

theorem reserved_absent {c : Char} (reserved : c = '<' ∨ c = '>' ∨ c = '"') (s : List Char) :
    c ∉ escapeChars s := by
  intro member
  obtain ⟨d, _, inside⟩ := List.mem_flatMap.mp member
  unfold escapeChar at inside
  rcases reserved with rfl | rfl | rfl
  all_goals
    split at inside
    · simp at inside
    split at inside
    · simp at inside
    split at inside
    · simp at inside
    split at inside
    · simp at inside
    split at inside
    · simp at inside
    · have same := List.mem_singleton.mp inside
      subst same
      contradiction

def reserved : List Char := ['&', '<', '>', '"', '\'']

theorem escapeChars_of_free {s : List Char} (free : ∀ c ∈ s, c ∉ reserved) :
    escapeChars s = s := by
  induction s with
  | nil => rfl
  | cons c rest ih =>
    have first := free c (by simp)
    have ih := ih fun d member => free d (List.mem_cons_of_mem c member)
    simp only [reserved, List.mem_cons, not_or, List.not_mem_nil, not_false_eq_true,
      and_true] at first
    obtain ⟨amp, lt, gt, quote, apostrophe⟩ := first
    rw [escapeChars, List.flatMap_cons, escapeChar, if_neg amp, if_neg lt, if_neg gt, if_neg quote,
      if_neg apostrophe, List.singleton_append]
    exact congrArg (c :: ·) ih

structure Tag where
  name : String
  attributes : List (String × String)
  deriving DecidableEq, Repr

inductive Mark where
  | opening (tag : Tag)
  | closing (name : String)
  deriving DecidableEq, Repr

/-- What stands between two tags of a level: a text, then nothing more or an element and what
    follows it. -/
inductive Forest where
  | last (text : String)
  | element (text : String) (tag : Tag) (inner rest : Forest)
  deriving DecidableEq, Repr

/-! Writing. -/

def attributeChars (a : String × String) : List Char :=
  ' ' :: a.1.toList ++ '=' :: '"' :: escapeChars a.2.toList ++ ['"']

def Tag.chars (tag : Tag) : List Char := tag.name.toList ++ tag.attributes.flatMap attributeChars

def Mark.chars : Mark → List Char
  | opening tag => tag.chars
  | closing name => '/' :: name.toList

def piece (m : Mark × String) : List Char := m.1.chars ++ '>' :: escapeChars m.2.toList

namespace Forest

def lead : Forest → String
  | last text => text
  | element text _ _ _ => text

def marks : Forest → List (Mark × String)
  | last _ => []
  | element _ tag inner rest =>
    (.opening tag, inner.lead) :: inner.marks ++ (.closing tag.name, rest.lead) :: rest.marks

def chars (c : Forest) : List Char :=
  escapeChars c.lead.toList ++ c.marks.flatMap fun m => '<' :: piece m

theorem chars_last (text : String) : (last text).chars = escapeChars text.toList := by
  simp [chars, marks, lead]

theorem chars_element (text : String) (tag : Tag) (inner rest : Forest) :
    (element text tag inner rest).chars = escapeChars text.toList ++
      '<' :: tag.chars ++ '>' :: inner.chars ++
      '<' :: '/' :: tag.name.toList ++ '>' :: rest.chars := by
  simp [chars, marks, lead, piece, Mark.chars]

end Forest

/-! Reading. -/

def readAttributes? : List (List Char) → Option (List (String × String))
  | [[]] => some []
  | (' ' :: key) :: value :: more =>
    if key.getLast? = some '=' then do
      let value ← unescape? value
      let more ← readAttributes? more
      some ((String.ofList key.dropLast, String.ofList value) :: more)
    else none
  | _ => none

def readMark? : List Char → Option Mark
  | '/' :: name => some (.closing (String.ofList name))
  | chars => (readAttributes? (Text.cutChars '"' (chars.dropWhile (· ≠ ' ')))).map fun as =>
    .opening ⟨String.ofList (chars.takeWhile (· ≠ ' ')), as⟩

def readPiece? (chars : List Char) : Option (Mark × String) :=
  match Text.cutChars '>' chars with
  | [mark, text] => do
    let mark ← readMark? mark
    let text ← unescape? text
    some (mark, String.ofList text)
  | _ => none

/-- The levels that a text and the tags behind it make: the content of this level with the name that
    closes it, then those of the levels around it. A tag is closed by its own name only. -/
def nest? (text : String) : List (Mark × String) → Option (List (Forest × Option String))
  | [] => some [(.last text, none)]
  | (.closing name, after) :: more => (nest? after more).map ((.last text, some name) :: ·)
  | (.opening tag, after) :: more =>
    match nest? after more with
    | some ((inner, closed) :: (rest, outer) :: levels) =>
      if closed = some tag.name then some ((.element text tag inner rest, outer) :: levels)
      else none
    | _ => none

def readForest? (chars : List Char) : Option Forest :=
  match Text.cutChars '<' chars with
  | [] => none
  | lead :: pieces => do
    let lead ← unescape? lead
    let marks ← pieces.mapM readPiece?
    match nest? (String.ofList lead) marks with
    | some [(content, none)] => some content
    | _ => none

/-! The round trip. -/

def isNameChar (c : Char) : Bool := c.isAlphanum || c == '.' || c == '_' || c == '-'

def Plain (name : String) : Prop := ∀ c ∈ name.toList, isNameChar c = true

instance (name : String) : Decidable (Plain name) :=
  decidable_of_iff (name.toList.all isNameChar = true) List.all_eq_true

def Tag.Plain (tag : Tag) : Prop :=
  Markup.Plain tag.name ∧ ∀ a ∈ tag.attributes, Markup.Plain a.1

instance (tag : Tag) : Decidable tag.Plain := inferInstanceAs (Decidable (_ ∧ _))

def Mark.Plain : Mark → Prop
  | opening tag => tag.Plain
  | closing name => Markup.Plain name

def Forest.Plain : Forest → Prop
  | last _ => True
  | element _ tag inner rest => tag.Plain ∧ inner.Plain ∧ rest.Plain

def Forest.Tagged (P : Tag → Prop) : Forest → Prop
  | last _ => True
  | element _ tag inner rest => P tag ∧ inner.Tagged P ∧ rest.Tagged P

theorem Forest.plain_iff_tagged {c : Forest} : c.Plain ↔ c.Tagged Tag.Plain := by
  induction c with
  | last text => exact Iff.rfl
  | element text tag inner rest ihInner ihRest =>
    exact and_congr_right fun _ => and_congr ihInner ihRest

theorem plain_absent {name : String} (plain : Plain name) {c : Char}
    (other : isNameChar c = false) : c ∉ name.toList := by
  intro member
  rw [plain c member] at other
  contradiction

theorem readAttributes?_chars (as : List (String × String)) (plain : ∀ a ∈ as, Plain a.1) :
    readAttributes? (Text.cutChars '"' (as.flatMap attributeChars)) = some as := by
  induction as with
  | nil => rfl
  | cons a as ih =>
    obtain ⟨name, value⟩ := a
    have absent : '"' ∉ ' ' :: name.toList ++ ['='] := by
      have := plain_absent (plain (name, value) (by simp)) (c := '"') (by decide)
      simp [this]
    have split : (((name, value) :: as).flatMap attributeChars) =
        (' ' :: name.toList ++ ['=']) ++ '"' :: (escapeChars value.toList ++
          '"' :: as.flatMap attributeChars) := by
      simp [attributeChars]
    have ih := ih fun b member => plain b (List.mem_cons_of_mem _ member)
    rw [split, Text.cutChars_append absent,
      Text.cutChars_append (reserved_absent (by simp) value.toList)]
    simp [readAttributes?, unescape?_escapeChars, ih]

theorem readMark?_opening {chars : List Char} (open_ : '/' ∉ chars.head?) :
    readMark? chars = (readAttributes? (Text.cutChars '"' (chars.dropWhile (· ≠ ' ')))).map
      fun as => .opening ⟨String.ofList (chars.takeWhile (· ≠ ' ')), as⟩ := by
  unfold readMark?
  split
  · simp at open_
  · rfl

theorem name_before_attributes {name : String} (named : Plain name)
    (as : List (String × String)) :
    (name.toList ++ as.flatMap attributeChars).takeWhile (· ≠ ' ') = name.toList ∧
      (name.toList ++ as.flatMap attributeChars).dropWhile (· ≠ ' ') =
        as.flatMap attributeChars := by
  have all : ∀ c ∈ name.toList, decide (c ≠ ' ') = true := by
    intro c member
    apply decide_eq_true
    rintro rfl
    exact plain_absent named (by decide) member
  rw [List.takeWhile_append_of_pos all, List.dropWhile_append_of_pos all]
  cases as with
  | nil => simp
  | cons a as => simp [attributeChars]

theorem readMark?_chars (m : Mark) (plain : m.Plain) : readMark? m.chars = some m := by
  cases m with
  | closing name => simp [Mark.chars, readMark?]
  | opening tag =>
    obtain ⟨name, as⟩ := tag
    obtain ⟨named, keyed⟩ := plain
    have open_ : '/' ∉ (name.toList ++ as.flatMap attributeChars).head? := by
      cases h : name.toList with
      | nil => cases as <;> simp [attributeChars]
      | cons c more =>
        intro head
        have same : c = '/' := by simpa using head
        exact plain_absent named (c := '/') (by decide) (by simp [h, same])
    obtain ⟨before, behind⟩ := name_before_attributes named as
    change readMark? (name.toList ++ as.flatMap attributeChars) = _
    rw [readMark?_opening open_, before, behind, readAttributes?_chars as keyed]
    simp

theorem mark_absent {m : Mark} (plain : m.Plain) {c : Char} (bracket : c = '<' ∨ c = '>') :
    c ∉ m.chars := by
  have other : isNameChar c = false := by rcases bracket with rfl | rfl <;> decide
  have reserved : c = '<' ∨ c = '>' ∨ c = '"' := by
    rcases bracket with h | h <;> simp [h]
  have apart : c ≠ ' ' ∧ c ≠ '=' ∧ c ≠ '"' ∧ c ≠ '/' := by
    rcases bracket with rfl | rfl <;> decide
  cases m with
  | closing name =>
    simp only [Mark.chars, List.mem_cons, not_or]
    exact ⟨apart.2.2.2, plain_absent plain other⟩
  | opening tag =>
    simp only [Mark.chars, Tag.chars, List.mem_append, not_or, List.mem_flatMap, not_exists,
      not_and]
    refine ⟨plain_absent plain.1 other, ?_⟩
    intro a member
    simp only [attributeChars, List.cons_append, List.mem_cons, List.mem_append, not_or,
      List.not_mem_nil, not_false_eq_true, and_true]
    exact ⟨apart.1, ⟨plain_absent (plain.2 a member) other, apart.2.1, apart.2.2.1,
      reserved_absent reserved _⟩, apart.2.2.1⟩

theorem readPiece?_piece (m : Mark × String) (plain : m.1.Plain) :
    readPiece? (piece m) = some m := by
  obtain ⟨mark, text⟩ := m
  have split : Text.cutChars '>' (piece (mark, text)) =
      [mark.chars, escapeChars text.toList] := by
    rw [piece, Text.cutChars_append (mark_absent plain (by simp)),
      Text.cutChars_of_absent (reserved_absent (by simp) _)]
  simp only [readPiece?, split, readMark?_chars mark plain, unescape?_escapeChars]
  simp

theorem bracket_absent {m : Mark × String} (plain : m.1.Plain) : '<' ∉ piece m := by
  simp only [piece, List.mem_append, List.mem_cons, not_or]
  exact ⟨mark_absent plain (by simp), by decide, reserved_absent (by simp) _⟩

theorem cut_pieces {lead : List Char} (absent : '<' ∉ lead) (ms : List (Mark × String))
    (plain : ∀ m ∈ ms, m.1.Plain) :
    Text.cutChars '<' (lead ++ ms.flatMap fun m => '<' :: piece m) = lead :: ms.map piece := by
  induction ms generalizing lead with
  | nil => simpa using Text.cutChars_of_absent absent
  | cons m ms ih =>
    have first := plain m (by simp)
    have rest : ∀ m ∈ ms, m.1.Plain := fun x member => plain x (List.mem_cons_of_mem m member)
    rw [List.flatMap_cons, List.cons_append, Text.cutChars_append absent,
      ih (bracket_absent first) rest]
    rfl

theorem mapM_readPiece? (ms : List (Mark × String)) (plain : ∀ m ∈ ms, m.1.Plain) :
    (ms.map piece).mapM readPiece? = some ms := by
  induction ms with
  | nil => rfl
  | cons m ms ih =>
    have rest := ih fun x member => plain x (List.mem_cons_of_mem m member)
    rw [List.map_cons, List.mapM_cons, readPiece?_piece m (plain m (by simp)), rest]
    rfl

theorem marks_plain {c : Forest} (plain : c.Plain) : ∀ m ∈ c.marks, m.1.Plain := by
  induction c with
  | last text => simp [Forest.marks]
  | element text tag inner rest ihInner ihRest =>
    obtain ⟨tagged, innerPlain, restPlain⟩ := plain
    intro m member
    simp only [Forest.marks, List.cons_append, List.mem_cons, List.mem_append] at member
    rcases member with rfl | inside | rfl | behind
    · exact tagged
    · exact ihInner innerPlain m inside
    · exact tagged.1
    · exact ihRest restPlain m behind

theorem nest?_marks (c : Forest) (name after : String) (more : List (Mark × String)) :
    nest? c.lead (c.marks ++ (.closing name, after) :: more) =
      (nest? after more).map ((c, some name) :: ·) := by
  -- what stands behind the closing tag is general: it is the rest of the level around
  induction c generalizing name after more with
  | last text => rfl
  | element text tag inner rest ihInner ihRest =>
    have split : (Forest.element text tag inner rest).marks ++ (.closing name, after) :: more =
        (.opening tag, inner.lead) :: (inner.marks ++
          (.closing tag.name, rest.lead) :: (rest.marks ++ (.closing name, after) :: more)) := by
      simp [Forest.marks]
    rw [split, nest?, ihInner, ihRest]
    cases nest? after more with
    | none => rfl
    | some levels => simp [Forest.lead]

theorem nest?_all (c : Forest) : nest? c.lead c.marks = some [(c, none)] := by
  induction c with
  | last text => rfl
  | element text tag inner rest _ ihRest =>
    rw [Forest.marks, List.cons_append, nest?, nest?_marks, ihRest]
    simp [Forest.lead]

theorem readForest?_chars (c : Forest) (plain : c.Plain) :
    readForest? c.chars = some c := by
  have marks := marks_plain plain
  rw [readForest?, Forest.chars, cut_pieces (reserved_absent (by simp) _) c.marks marks]
  simp only [unescape?_escapeChars, mapM_readPiece? c.marks marks, String.ofList_toList,
    nest?_all, Option.bind_eq_bind, Option.bind_some]

end Rulesheet.Markup
