import Rulesheet.Document
import Rulesheet.Proofs.Document.Content

/- The grammar of default values. Bars part the groups of a specification and commas the parts of a
   group, and every group counts by itself, so that entries that are trimmed and hold neither mark
   are read as they were written. The test of names lets a final line feed by, but a trimmed field
   has none: the fields that go into a document are names from the first character to the last. -/
namespace Rulesheet.DefaultValue
open Text (IsLetter IsDigit UpToNewline)

/-! Names. -/

/-- The pattern `[A-Za-z_][A-Za-z0-9._-]*`, read over the whole of a text. -/
def IsName (s : List Char) : Prop :=
  ∃ first rest, s = first :: rest ∧ (IsLetter first ∨ first = '_') ∧
    ∀ c ∈ rest, IsLetter c ∨ IsDigit c ∨ c = '.' ∨ c = '_' ∨ c = '-'

theorem isElementName_iff {name : String} : isElementName name = true ↔ IsName name.toList := by
  unfold isElementName
  cases name.toList with
  | nil => simp [IsName]
  | cons first rest =>
    simp only [IsName, Bool.and_eq_true, Bool.or_eq_true, beq_iff_eq, List.all_eq_true,
      Text.isAlpha_iff, Text.isAlphanum_iff, List.cons.injEq, or_assoc]
    constructor
    · rintro ⟨start, later⟩
      exact ⟨first, rest, ⟨rfl, rfl⟩, start, later⟩
    · rintro ⟨_, _, ⟨rfl, rfl⟩, start, later⟩
      exact ⟨start, later⟩

instance (s : List Char) : Decidable (IsName s) :=
  decidable_of_iff (isElementName (String.ofList s) = true)
    (by rw [isElementName_iff, String.toList_ofList])

theorem newline_not_mem_name (s : List Char) (named : IsName s) : '\n' ∉ s := by
  obtain ⟨first, rest, rfl, start, later⟩ := named
  have letter : ¬ IsLetter '\n' := by decide
  have digit : ¬ IsDigit '\n' := by decide
  rw [List.mem_cons, not_or]
  constructor
  · rintro rfl
    rcases start with start | start
    · exact letter start
    · exact absurd start (by decide)
  · intro member
    have part := later _ member
    simp [letter, digit] at part

theorem fitsName_iff {field : String} :
    fitsName field = true ↔ UpToNewline IsName field.toList := by
  rw [fitsName, isElementName_iff, String.toList_ofList,
    Text.withoutFinalNewline_iff newline_not_mem_name]

theorem fitsName_trim_iff (field : String) :
    fitsName (Text.trim field) = true ↔ IsName (Text.trim field).toList := by
  rw [Document.fitsName_trim, isElementName_iff]

/-! Groups. -/

theorem groups_append (a b : String) : groups (a ++ "|" ++ b) = groups a ++ groups b := by
  have parted : Text.cut '|' (a ++ "|" ++ b) = Text.cut '|' a ++ Text.cut '|' b :=
    Text.cut_append '|' a b
  rw [groups, parted, List.map_append]
  rfl

theorem parse_append (a b : String) : parse (a ++ "|" ++ b) = parse a ++ parse b := by
  rw [parse, groups_append, List.filterMap_append]
  rfl

def parts (group : String) : List String := (Text.cut ',' group).map Text.trim

theorem groups_of_absent {group : String} (absent : '|' ∉ group.toList) :
    groups group = [.ofParts (parts group)] := by
  rw [groups, Text.cut_of_absent absent]
  rfl

theorem parse_of_absent {group : String} (absent : '|' ∉ group.toList) :
    parse group = (Group.ofParts (parts group)).value?.toList := by
  rw [parse, groups_of_absent absent]
  cases declared : (Group.ofParts (parts group)).value? with
  | none => exact List.filterMap_cons_none declared
  | some d => exact List.filterMap_cons_some declared

theorem parse_eq_flatMap (spec : String) : parse spec = (Text.cut '|' spec).flatMap parse := by
  have each : ∀ group ∈ Text.cut '|' spec,
      parse group = (Group.ofParts (parts group)).value?.toList :=
    fun group member => parse_of_absent (Text.not_mem_of_mem_cut member)
  rw [List.flatMap_congr each, parse, groups, List.filterMap_map, List.filterMap_eq_flatMap_toList]
  rfl

/-- A group declares nothing, for want of a marker or of a usable field, or its first four parts. -/
structure Contributes (group : String) : Prop where
  nothing : parse group = [] ↔ (parts group).length < 3 ∨
    ∃ field, (parts group)[1]? = some field ∧ field ≠ "" ∧ ¬ IsName field.toList
  entry : ∀ d ∈ parse group, parse group = [d] ∧ (parts group)[0]? = some d.container ∧
    (parts group)[1]? = some d.field ∧ (parts group)[2]? = some d.marker ∧
    (parts group)[3]?.getD "" = d.value

theorem parse_of_short {group : String} (absent : '|' ∉ group.toList)
    (short : (parts group).length < 3) : parse group = [] := by
  rw [parse_of_absent absent]
  match parts group, short with
  | [], _ | [_], _ | [_, _], _ => rfl

theorem contributes_of_absent {group : String} (absent : '|' ∉ group.toList) :
    Contributes group := by
  have declared := parse_of_absent absent
  by_cases short : (parts group).length < 3
  · have none := parse_of_short absent short
    exact ⟨iff_of_true none (.inl short), by simp [none]⟩
  have trimmed : parts group = (Text.cut ',' group).map Text.trim := rfl
  match Text.cut ',' group, trimmed with
  | [], trimmed | [_], trimmed | [_, _], trimmed =>
    rw [trimmed] at short
    exact absurd (by simp) short
  | container :: field :: marker :: more, trimmed =>
    rw [List.map_cons, List.map_cons, List.map_cons] at trimmed
    rw [trimmed] at declared short
    have named := fitsName_trim_iff field
    by_cases usable : Text.trim field = "" ∨ fitsName (Text.trim field) = true
    · rw [Group.ofParts, if_pos usable] at declared
      rw [named] at usable
      refine ⟨iff_of_false (by simp [declared, Group.value?]) ?_, ?_⟩
      · rw [trimmed]
        rintro (short' | ⟨_, second, filled, invalid⟩)
        · exact short short'
        · cases second
          exact usable.elim filled invalid
      · intro d member
        rw [declared] at member
        obtain rfl := List.mem_singleton.mp member
        rw [trimmed]
        exact ⟨declared, rfl, rfl, rfl, by cases more <;> rfl⟩
    · rw [Group.ofParts, if_neg usable] at declared
      rw [named, not_or] at usable
      refine ⟨iff_of_true declared (.inr ⟨_, ?_, usable⟩), by simp [declared, Group.value?]⟩
      rw [trimmed]
      rfl

/-! Entries written and read. -/

def written (d : DefaultValue) : String :=
  Text.join "," [d.container, d.field, d.marker, d.value]

def specification (ds : List DefaultValue) : String := Text.join "|" (ds.map written)

structure Writable (d : DefaultValue) : Prop where
  trimmed : ∀ part ∈ [d.container, d.field, d.marker, d.value], Text.trim part = part
  whole : ∀ part ∈ [d.container, d.field, d.marker, d.value],
    ',' ∉ part.toList ∧ '|' ∉ part.toList
  named : d.field = "" ∨ IsName d.field.toList

variable {d : DefaultValue} {ds : List DefaultValue}

theorem Writable.parts_written (writable : d.Writable) :
    parts d.written = [d.container, d.field, d.marker, d.value] := by
  have cut : Text.cut ',' d.written = [d.container, d.field, d.marker, d.value] :=
    Text.cut_join_of_absent (List.cons_ne_nil _ _) fun part member => (writable.whole part member).1
  rw [parts, cut]
  exact (List.map_congr_left writable.trimmed).trans (List.map_id' _)

theorem Writable.bar_not_mem (writable : d.Writable) : '|' ∉ d.written.toList := by
  rw [written, Text.toList_join]
  intro member
  rcases Text.mem_intercalate member with comma | ⟨_, listed, inside⟩
  · exact absurd comma (by decide)
  · obtain ⟨part, given, rfl⟩ := List.mem_map.mp listed
    exact (writable.whole part given).2 inside

theorem Writable.parse_written (writable : d.Writable) : parse d.written = [d] := by
  have usable : d.field = "" ∨ fitsName d.field = true :=
    writable.named.imp_right fun named => fitsName_iff.mpr (.inl named)
  rw [parse_of_absent writable.bar_not_mem, writable.parts_written, Group.ofParts, if_pos usable]
  rfl

theorem parse_specification (writable : ∀ d ∈ ds, d.Writable) :
    parse (specification ds) = ds := by
  by_cases none : ds = []
  · subst none
    decide
  · have cut : Text.cut '|' (specification ds) = ds.map written := by
      refine Text.cut_join_of_absent (by simpa using none) ?_
      intro group member
      obtain ⟨d, listed, rfl⟩ := List.mem_map.mp member
      exact (writable d listed).bar_not_mem
    rw [parse_eq_flatMap, cut, List.flatMap_map,
      List.flatMap_congr fun d listed => (writable d listed).parse_written, List.flatMap_singleton']

theorem emitted_of_parse {spec : String} (member : d ∈ parse spec) (emitted : d.emitted = true) :
    IsName d.field.toList ∧ d.literal ≠ "" ∧ d.literal ≠ "-" := by
  have emits : d.field ≠ "" ∧ d.marker ≠ suppressed ∧ d.literal ≠ "" ∧ d.literal ≠ suppressed :=
    of_decide_eq_true emitted
  exact ⟨isElementName_iff.mp (Document.isElementName_of_mem_parse member emitted), emits.2.2⟩

/-- A specification is read group by group, and parsing undoes writing. Of a group count its first
    four parts, trimmed; one with fewer than three, or with a field that is no name, counts for
    nothing. An entry goes into a document under a name, with a text of its own. -/
theorem parse_grammar :
    (∀ a b, parse (a ++ "|" ++ b) = parse a ++ parse b) ∧
    (∀ ds : List DefaultValue, (∀ d ∈ ds, d.Writable) → parse (specification ds) = ds) ∧
    (∀ spec, ∀ d ∈ parse spec, d.emitted = true →
      IsName d.field.toList ∧ d.literal ≠ "" ∧ d.literal ≠ "-") ∧
    ∀ spec, parse spec = (Text.cut '|' spec).flatMap parse ∧
      ∀ group ∈ Text.cut '|' spec, Contributes group := by
  refine ⟨parse_append, fun ds => parse_specification, fun spec d => emitted_of_parse, ?_⟩
  intro spec
  refine ⟨parse_eq_flatMap spec, ?_⟩
  intro group member
  exact contributes_of_absent (Text.not_mem_of_mem_cut member)

def sampleDefaults : List DefaultValue :=
  [⟨"BC", "Status", "x", "Active"⟩, ⟨"BC", "", "-", ""⟩, ⟨"", "Code_1.a-b", "High", ""⟩]

theorem parse_grammar_sample :
    (∀ d ∈ sampleDefaults, d.Writable) ∧
    specification sampleDefaults = "BC,Status,x,Active|BC,,-,|,Code_1.a-b,High," ∧
    parse (specification sampleDefaults) = sampleDefaults ∧
    fitsName "Status\n" = true ∧ ¬ IsName "Status\n".toList ∧
    ∃ d ∈ parse "BC,Status\n,x,on", d.emitted = true ∧ IsName d.field.toList ∧
      d.literal ≠ "" ∧ d.literal ≠ "-" := by
  obtain ⟨_, reads, emits, _⟩ := parse_grammar
  have writable : ∀ d ∈ sampleDefaults, d.Writable := by
    have trimmed : ∀ d ∈ sampleDefaults, ∀ part ∈ [d.container, d.field, d.marker, d.value],
        Text.trim part = part := by decide
    have whole : ∀ d ∈ sampleDefaults, ∀ part ∈ [d.container, d.field, d.marker, d.value],
        ',' ∉ part.toList ∧ '|' ∉ part.toList := by decide
    have named : ∀ d ∈ sampleDefaults, d.field = "" ∨ IsName d.field.toList := by decide
    exact fun d member => ⟨trimmed d member, whole d member, named d member⟩
  have listed : (⟨"BC", "Status", "x", "on"⟩ : DefaultValue) ∈ parse "BC,Status\n,x,on" := by decide
  exact ⟨writable, by decide, reads _ writable, by decide, by decide, _, listed, rfl,
    emits _ _ listed rfl⟩

end Rulesheet.DefaultValue
