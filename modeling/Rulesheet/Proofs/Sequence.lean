import Rulesheet.Proofs.Document.Reading
import Rulesheet.Proofs.Execution
import Rulesheet.Proofs.Rows

/- The passes that a sequence sheet asks for. Its texts go through one joined text, so that a text
   that holds the separator asks for as many passes as it has pieces. Only sheets without such a
   text have one pass a row. -/
namespace Rulesheet

def Workbook.sequenceTexts (b : Workbook) (name : String) : List String :=
  match if name = "" then none else b.sheet? name with
  | some w => (w.rows.map fun cells => rowText cells 0).filter (· ≠ "")
  | none => []

section

variable {book : Workbook} {sheet : String}

theorem Workbook.sequence_eq (book : Workbook) (sheet : String) :
    book.sequence sheet = Text.join ";" (book.sequenceTexts sheet) := by
  unfold sequence sequenceTexts
  by_cases unnamed : sheet = ""
  · rw [if_pos unnamed, if_pos unnamed]
    rfl
  · rw [if_neg unnamed, if_neg unnamed]
    cases book.sheet? sheet with
    | none => rfl
    | some w => simp only [Worksheet.firstColumn_of_rows]

theorem Workbook.sequenceTexts_filled : ∀ text ∈ book.sequenceTexts sheet, text ≠ "" := by
  intro text member
  unfold sequenceTexts at member
  split at member
  · simpa using (List.mem_filter.mp member).2
  · cases member

theorem sequenceTokens_eq (book : Workbook) (sheet : String) :
    sequenceTokens (book.sequence sheet) =
      if book.sequenceTexts sheet = [] then [""]
      else (book.sequenceTexts sheet).flatMap (Text.cut ';') := by
  rw [sequenceTokens, book.sequence_eq]
  by_cases none : book.sequenceTexts sheet = []
  · rw [if_pos none, none]
    rfl
  · rw [if_neg none, if_neg (mt (Text.join_eq_empty_iff Workbook.sequenceTexts_filled _).mp none)]
    exact Text.cut_join none

theorem sequenceTokens_eq_texts_iff :
    sequenceTokens (book.sequence sheet) =
        (if book.sequenceTexts sheet = [] then [""] else book.sequenceTexts sheet) ↔
      ∀ text ∈ book.sequenceTexts sheet, ';' ∉ text.toList := by
  rw [sequenceTokens_eq]
  by_cases none : book.sequenceTexts sheet = []
  · simp [none]
  · rw [if_neg none, if_neg none, Text.flatMap_cut_eq_self_iff]

theorem length_sequenceTokens (book : Workbook) (sheet : String) :
    (sequenceTokens (book.sequence sheet)).length =
      max 1 (book.sequenceTexts sheet).length +
        ((book.sequenceTexts sheet).flatMap String.toList).count ';' := by
  rw [sequenceTokens_eq]
  by_cases none : book.sequenceTexts sheet = []
  · simp [none]
  · have filled := List.length_pos_iff.mpr none
    rw [if_neg none, Text.length_flatMap_cut, Nat.max_eq_right filled]

variable {c : MacroConfig} {release : String} {s : Settings} {name : String} {r : MacroResult}

theorem lists_of_success (member : r ∈ executeMacro c book release s name)
    (success : r.success = true) :
    ∃ ruleset, Document.read? r.content = some ruleset ∧
      ruleset.lists.map ListBlock.sequence =
        (List.range (sequenceTokens (book.sequence c.sequenceSheet)).length).map
          fun i => toString (i + 1) := by
  rw [executeMacro] at member
  cases planned : Plan.prepare c book release s with
  | error failure =>
    rw [planned, Plan.results, List.mem_singleton] at member
    subst member
    cases success
  | ok p =>
    obtain ⟨_, w, _, rfl, _⟩ := Plan.prepare_eq_ok_iff.mp planned
    rw [planned, Plan.results, List.mem_map] at member
    obtain ⟨d, produced, rfl⟩ := member
    obtain ⟨part, _, rfl⟩ := List.mem_map.mp produced
    refine ⟨_, Document.read?_assemble _ _ _ _ _ _, ?_⟩
    change List.map _ (List.map _ (Plan.passes _ part)) = _
    rw [passes_planOn, MacroConfig.passesOver, List.map_map]
    apply List.ext_getElem
    · simp
    · intro i _ _
      rw [List.getElem_map, List.getElem_mapIdx, List.getElem_map, List.getElem_range]
      rfl

/-- The tokens of a sequence sheet are the pieces of its texts, one empty token standing for a
    sheet without any. They are the texts themselves, and a document has a list block a text,
    exactly if no text holds a semicolon. -/
theorem sequence_passes (book : Workbook) (sheet : String) :
    let texts := book.sequenceTexts sheet
    let tokens := sequenceTokens (book.sequence sheet)
    tokens = (if texts = [] then [""] else texts.flatMap (Text.cut ';')) ∧
    (tokens = (if texts = [] then [""] else texts) ↔ ∀ text ∈ texts, ';' ∉ text.toList) ∧
    tokens.length = max 1 texts.length + (texts.flatMap String.toList).count ';' ∧
    ∀ c release s name, c.sequenceSheet = sheet →
      ∀ r ∈ executeMacro c book release s name, r.success = true →
        ∃ ruleset, Document.read? r.content = some ruleset ∧
          ruleset.lists.map ListBlock.sequence =
            (List.range tokens.length).map (fun i => toString (i + 1)) ∧
          (ruleset.lists.length = max 1 texts.length ↔ ∀ text ∈ texts, ';' ∉ text.toList) := by
  refine ⟨sequenceTokens_eq book sheet, sequenceTokens_eq_texts_iff,
    length_sequenceTokens book sheet, ?_⟩
  rintro c release s name rfl r member success
  obtain ⟨ruleset, read, numbers⟩ := lists_of_success member success
  refine ⟨ruleset, read, numbers, ?_⟩
  have length : ruleset.lists.length = (sequenceTokens (book.sequence c.sequenceSheet)).length := by
    simpa using congrArg List.length numbers
  rw [length, length_sequenceTokens, ← Text.count_flatMap_eq_zero_iff]
  omega

/-! A sequence sheet of two texts, the first with a semicolon. -/

def sequenceBook : Workbook := ⟨[sampleSheet, ⟨"Seq", [[.text "A;B"], [], [.text " C"]]⟩]⟩

def sequenceConfig : MacroConfig := { sampleConfig "%" with sequenceSheet := "Seq" }

theorem sequence_passes_semicolon :
    sequenceBook.sequenceTexts "Seq" = ["A;B", "C"] ∧
    sequenceTokens (sequenceBook.sequence "Seq") = ["A", "B", "C"] ∧
    ∃ r ∈ executeMacro sequenceConfig sequenceBook "R2" {} "M", r.success = true ∧
      ∃ ruleset, Document.read? r.content = some ruleset ∧
        ruleset.lists.map ListBlock.sequence = ["1", "2", "3"] ∧ ruleset.lists.length ≠ 2 := by
  have texts : sequenceBook.sequenceTexts "Seq" = ["A;B", "C"] := by decide
  obtain ⟨pieces, _, _, lists⟩ := sequence_passes sequenceBook "Seq"
  have tokens : sequenceTokens (sequenceBook.sequence "Seq") = ["A", "B", "C"] := by
    rw [pieces, texts]
    decide
  obtain ⟨r, member, success⟩ : ∃ r ∈ executeMacro sequenceConfig sequenceBook "R2" {} "M",
      r.success = true := by
    have legible : (sequenceConfig.planOn sequenceBook "R2" {} sampleSheet).isLegible
        sequenceBook = true := Plan.isLegible_of_workbook (by decide +kernel) rfl _
    rw [executeMacro_of_sheet (w := sampleSheet) rfl (by decide) legible]
    exact ⟨_, List.mem_map_of_mem (by decide : Partition.ofValue "%" ["%"] "%" ∈ _), rfl⟩
  obtain ⟨ruleset, read, numbers, each⟩ := lists sequenceConfig "R2" {} "M" rfl r member success
  rw [texts] at each
  refine ⟨texts, tokens, r, member, success, ruleset, read, ?_, ?_⟩
  · rw [numbers, tokens]
    decide
  · intro two
    exact absurd (each.mp two) (by decide)

end
end Rulesheet
