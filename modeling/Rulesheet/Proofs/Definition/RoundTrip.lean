import Mathlib.Data.List.Nodup
import Rulesheet.Proofs.Definition.Spelling

/- Reading a definition back. The lines of the document are its pieces; each canonical constant is
   declared by one of them, whose value is that of its setting, and by no other, so that every
   setting is read as it was written. -/
namespace Rulesheet

theorem Constant.eq_of_lower {c c' : Constant} (listed : c ∈ all) (listed' : c' ∈ all)
    (same : Text.lower c.name = Text.lower c'.name) : c = c' := by
  have distinct : (all.map fun c => Text.lower c.name).Nodup := by decide +kernel
  exact List.inj_on_of_nodup_map distinct listed listed' same

theorem MacroConfig.kind_value (config : MacroConfig) (s : Setting) :
    (config.value s).kind = s.kind := by
  cases s <;> rfl

theorem MacroConfig.kind_of_listed (config : MacroConfig) {c : Constant}
    (listed : c ∈ Constant.all) : (config.value c.setting).kind = c.kind := by
  rw [kind_value, Setting.kind_of_listed c listed]

namespace Definition

variable {config : MacroConfig} {pieces : List Piece}

def DeclaresAll (pieces : List Piece) : Prop :=
  (pieces.filterMap Piece.constant?).Perm (Constant.all.filter fun c => !c.isAlias)

theorem lines_text (filled : pieces ≠ [])
    (single : ∀ piece ∈ pieces, '\n' ∉ piece.line config) :
    lines (text config pieces) = pieces.map (Piece.line config) := by
  rw [lines, text, String.toList_ofList, Text.cutChars_intercalate]
  · simpa using filled
  · intro line member
    obtain ⟨piece, inside, rfl⟩ := List.mem_map.mp member
    exact single piece inside

theorem listed_of_declares (all : DeclaresAll pieces) {c : Constant} {p : Spelling c}
    (member : .declaration c p ∈ pieces) : c ∈ Constant.all := by
  have declared : c ∈ pieces.filterMap Piece.constant? :=
    List.mem_filterMap.mpr ⟨_, member, rfl⟩
  exact (List.mem_filter.mp (all.mem_iff.mp declared)).1

theorem single_piece (all : DeclaresAll pieces) (quotable : ∀ s, (config.value s).Quotable)
    {piece : Piece} (member : piece ∈ pieces) : '\n' ∉ piece.line config := by
  cases piece with
  | declaration c p =>
    have listed := listed_of_declares all member
    exact p.single_line listed (config.kind_of_listed listed) (quotable c.setting)
  | remark r => exact r.single

theorem ofLine?_declaration (all : DeclaresAll pieces)
    (quotable : ∀ s, (config.value s).Quotable) {c : Constant} {p : Spelling c}
    (member : .declaration c p ∈ pieces) :
    Declaration.ofLine? ((Piece.declaration c p).line config) =
      some ⟨Text.lower c.name, config.value c.setting⟩ := by
  have listed := listed_of_declares all member
  exact p.ofLine?_line listed (config.kind_of_listed listed) (quotable c.setting)

theorem split_declaration (all : DeclaresAll pieces) {c : Constant} (listed : c ∈ Constant.all)
    (canonical : c.isAlias = false) : ∃ before p after,
      pieces = before ++ .declaration c p :: after ∧
        c ∉ after.filterMap Piece.constant? := by
  have declared : c ∈ pieces.filterMap Piece.constant? :=
    all.mem_iff.mpr (List.mem_filter.mpr ⟨listed, by simp [canonical]⟩)
  have distinct : (pieces.filterMap Piece.constant?).Nodup :=
    all.nodup_iff.mpr (by decide)
  obtain ⟨piece, member, here⟩ := List.mem_filterMap.mp declared
  cases piece with
  | remark r => cases here
  | declaration c' p =>
    obtain rfl : c' = c := Option.some.inj here
    obtain ⟨before, after, rfl⟩ := List.append_of_mem member
    refine ⟨before, p, after, rfl, ?_⟩
    rw [List.filterMap_append, List.filterMap_cons_some here] at distinct
    exact (List.nodup_cons.mp distinct.of_append_right).1

theorem not_gives_of_other (all : DeclaresAll pieces)
    (quotable : ∀ s, (config.value s).Quotable) {c : Constant} (listed : c ∈ Constant.all)
    {piece : Piece} (member : piece ∈ pieces) (other : piece.constant? ≠ some c)
    (v : DeclaredValue) : ¬ Constant.Gives (piece.line config) c v := by
  intro gives
  have declares := gives.declares
  cases piece with
  | remark r => exact r.foreign _ declares c listed rfl
  | declaration c' p =>
    rw [ofLine?_declaration all quotable member] at declares
    have names := (Declaration.mk.inj (Option.some.inj declares)).1
    have same := Constant.eq_of_lower (listed_of_declares all member) listed names
    exact other (congrArg some same)

theorem givenLast_canonical (all : DeclaresAll pieces)
    (quotable : ∀ s, (config.value s).Quotable) {c : Constant} (listed : c ∈ Constant.all)
    (canonical : c.isAlias = false) :
    c.GivenLast (pieces.map (Piece.line config)) (config.value c.setting) := by
  obtain ⟨before, p, after, whole, last⟩ := split_declaration all listed canonical
  have here : .declaration c p ∈ pieces := by simp [whole]
  refine ⟨before.map (Piece.line config), (Piece.declaration c p).line config,
    after.map (Piece.line config), by simp [whole], ⟨?_, ?_⟩, ?_⟩
  · exact ofLine?_declaration all quotable here
  · exact config.kind_of_listed listed
  · intro line member
    obtain ⟨piece, inside, rfl⟩ := List.mem_map.mp member
    refine not_gives_of_other all quotable listed (by simp [whole, inside]) fun declares => ?_
    exact last (List.mem_filterMap.mpr ⟨piece, inside, declares⟩)

/-- A document that declares every canonical constant once, with texts that a quotation can hold, is
    read back as the definition that its declarations write, in whatever order and spelling they
    stand and whatever other lines stand between them. -/
theorem parse_text (config : MacroConfig) (pieces : List Piece) (name : String)
    (quotable : ∀ s, (config.value s).Quotable) (all : DeclaresAll pieces) :
    (parse (text config pieces) name).config = config := by
  have filled : pieces ≠ [] := by
    rintro rfl
    exact absurd all.length_eq (by decide)
  refine MacroConfig.ext_value fun s => ?_
  obtain ⟨c, _, constants, canonical, _⟩ := s.constants_eq
  have names : c.Names s false := Setting.names_iff.mpr ⟨by simp [constants], canonical⟩
  have given := givenLast_canonical all quotable names.listed canonical
  rw [names.setting] at given
  rw [value_parse, lines_text filled fun piece member => single_piece all quotable member]
  exact Setting.value_of_canonical names given

/-! A definition written from its last setting to its first, the first one with every ornament and
    below a heading. -/

def plainSpelling (c : Constant) : Spelling c where
  indent := ⟨[], by simp⟩
  modifier := none
  const := none
  name := ⟨c.name.toList, rfl⟩
  type := none
  beforeEquals := ⟨[], by simp⟩
  afterEquals := ⟨[], by simp⟩
  truth := fun b => ⟨(if b then "True" else "False").toList, rfl⟩
  tail := []
  single := by simp
  ended := by simp

def ornateSpelling : Spelling (.canonical "gcsXLSheet" .sheet) where
  indent := ⟨['\t'], by simp [Declaration.isGap]⟩
  modifier := some ⟨"Public", by decide, ⟨"PUBLIC".toList, by decide⟩, ⟨⟨[' '], by simp [Declaration.isGap]⟩, by simp⟩⟩
  const := some ⟨"Const", by decide, ⟨"const".toList, by decide⟩, ⟨⟨[' '], by simp [Declaration.isGap]⟩, by simp⟩⟩
  name := ⟨"GCSxlSHEET".toList, by decide⟩
  type := some ⟨⟨⟨[' '], by simp [Declaration.isGap]⟩, by simp⟩, ⟨"as".toList, by decide⟩,
    ⟨⟨[' ', '\t'], by simp [Declaration.isGap]⟩, by simp⟩, ⟨"STRING".toList, by decide⟩⟩
  beforeEquals := ⟨[' '], by simp [Declaration.isGap]⟩
  afterEquals := ⟨['\t'], by simp [Declaration.isGap]⟩
  truth := fun b => ⟨(if b then "True" else "False").toList, rfl⟩
  tail := " ' the sheet".toList
  single := by decide
  ended := by simp [Constant.canonical]

def heading : Remark where
  line := "# gcsXLSheet".toList
  single := by decide
  foreign := by
    intro d declared
    have nothing : Declaration.ofLine? "# gcsXLSheet".toList = none := by decide +kernel
    rw [nothing] at declared
    cases declared

def writtenConfig : MacroConfig :=
  { sheet := "Règles = 'x' \u2028", fileName := "doc%", loop := true }

def writtenPieces : List Piece :=
  ((Constant.all.filter fun c => !c.isAlias).drop 1).reverse.map
    (fun c => .declaration c (plainSpelling c)) ++
  [.remark heading, .declaration _ ornateSpelling]

theorem parse_text_sample :
    (∀ s, (writtenConfig.value s).Quotable) ∧ DeclaresAll writtenPieces ∧
    writtenPieces.getLast?.map (Piece.line writtenConfig) = some
      "\tPUBLIC const GCSxlSHEET as \tSTRING =\t\"Règles = 'x' \u2028\" ' the sheet".toList ∧
    (parse (text writtenConfig writtenPieces) "M").config = writtenConfig := by
  have quotable : ∀ s, (writtenConfig.value s).Quotable := by
    intro s
    cases s <;> decide
  have all : DeclaresAll writtenPieces := by
    unfold DeclaresAll
    decide
  exact ⟨quotable, all, by decide +kernel, parse_text writtenConfig writtenPieces "M" quotable all⟩

end Definition
end Rulesheet
