import Rulesheet.Proofs.Data.Ends
import Rulesheet.Proofs.Text.Pieces
import Rulesheet.Settings.Draft

/- What the schema takes. Data are accepted if every key is known and every known value is one that
   its rule takes. The patterns for texts let a final line feed by, and the one for return codes
   counts for texts alone, so that every integer goes through, as does a float with an integral
   value. -/
namespace Rulesheet

namespace Schema
open Text (IsLetter IsDigit UpToNewline)

/-! Texts. -/

def IsExtension (s : List Char) : Prop :=
  ∃ rest, s = '.' :: rest ∧ rest ≠ [] ∧ ∀ c ∈ rest, IsLetter c ∨ IsDigit c

def IsCode (s : List Char) : Prop := s ≠ [] ∧ ∀ c ∈ s, IsDigit c

theorem newline_not_mem_extension (s : List Char) (extension : IsExtension s) : '\n' ∉ s := by
  obtain ⟨rest, rfl, _, part⟩ := extension
  have letter : ¬ IsLetter '\n' := by decide
  have digit : ¬ IsDigit '\n' := by decide
  rw [List.mem_cons, not_or]
  exact ⟨by decide, fun member => (part _ member).elim letter digit⟩

theorem newline_not_mem_code (s : List Char) (code : IsCode s) : '\n' ∉ s :=
  fun member => absurd (code.2 _ member) (by decide)

theorem isExtension_iff {s : String} :
    isExtension s = true ↔ UpToNewline IsExtension s.toList := by
  rw [← Text.withoutFinalNewline_iff newline_not_mem_extension, isExtension]
  split
  · rename_i rest split
    simp only [split, IsExtension, Bool.and_eq_true, Bool.not_eq_true', List.isEmpty_eq_false_iff,
      List.all_eq_true, Text.isAlphanum_iff, List.cons.injEq, true_and, exists_eq_left']
  · rename_i other
    refine iff_of_false Bool.false_ne_true ?_
    rintro ⟨rest, eq, _⟩
    exact other rest eq

theorem isDigits_iff {s : String} : isDigits s = true ↔ UpToNewline IsCode s.toList := by
  rw [← Text.withoutFinalNewline_iff newline_not_mem_code, isDigits]
  simp only [IsCode, Bool.and_eq_true, Bool.not_eq_true', List.isEmpty_eq_false_iff,
    List.all_eq_true, Text.isDigit_iff]

/-! Values. -/

def Rule.Takes (st : Store) (d : Datum) : Rule → Prop
  | .nonEmptyText => ∃ s, d = .scalar (.text s) ∧ s ≠ ""
  | .extension => ∃ s, d = .scalar (.text s) ∧ UpToNewline IsExtension s.toList
  | .digits => (∃ s, d = .scalar (.text s) ∧ UpToNewline IsCode s.toList) ∨ isInteger d = true
  | .texts unique => ∃ items : List String,
      st.container? d = some (.list (items.map DraftSettings.text)) ∧ (∀ s ∈ items, s ≠ "") ∧
        (unique = true → Distinct.repeats st (items.map DraftSettings.text) = .ok false)

variable {st : Store} {d : Datum} {name : String} {r : Rule}

theorem textCause?_eq_none_iff :
    textCause? d = none ↔ ∃ s, d = .scalar (.text s) ∧ s ≠ "" := by
  unfold textCause?
  split
  · simp
  · rename_i other
    refine iff_of_false (Option.some_ne_none _) ?_
    rintro ⟨s, rfl, _⟩
    exact other s rfl

theorem plainCause?_eq_none_iff (plain : ∀ unique, r ≠ .texts unique) :
    plainCause? r d = none ↔ r.Takes st d := by
  cases r with
  | nonEmptyText => exact textCause?_eq_none_iff
  | extension =>
    match d with
    | .scalar (.text s) =>
      rw [plainCause?, Rule.Takes]
      simp [← isExtension_iff]
    | .place _ | .scalar .null | .scalar (.boolean _) | .scalar (.integer _) | .scalar (.float _)
    | .scalar (.notANumber _) | .scalar (.bytes _) | .scalar (.date _)
    | .scalar (.dateTime _ _) => simp [plainCause?, Rule.Takes]
  | digits =>
    match d with
    | .scalar (.text s) =>
      rw [plainCause?, Rule.Takes]
      simp [← isDigits_iff, isInteger]
    | .place _ | .scalar .null | .scalar (.boolean _) | .scalar (.integer _) | .scalar (.float _)
    | .scalar (.notANumber _) | .scalar (.bytes _) | .scalar (.date _)
    | .scalar (.dateTime _ _) => simp [plainCause?, Rule.Takes]
  | texts unique => exact absurd rfl (plain unique)

theorem described_ne_nil {c : Cause} {f : String → Fault} :
    (describe st d c >>= fun message => pure [f message] : Checked (List Fault)) ≠ .ok [] := by
  intro empty
  obtain ⟨_, _, one⟩ := bind_eq_ok.mp empty
  cases one

theorem itemFaults_eq_nil_iff {i : Nat} {items : List Datum} :
    itemFaults st name i items = .ok [] ↔ ∀ d ∈ items, textCause? d = none := by
  induction items generalizing i with
  | nil => exact iff_of_true rfl (by simp)
  | cons d rest ih =>
    rw [itemFaults, List.forall_mem_cons]
    cases textCause? d with
    | none =>
      simp only [pure_bind, List.nil_append, bind_pure, true_and]
      exact ih
    | some c =>
      refine iff_of_false ?_ (by simp)
      intro silent
      obtain ⟨_, _, silent⟩ := bind_eq_ok.mp silent
      obtain ⟨own, one, silent⟩ := bind_eq_ok.mp silent
      obtain ⟨others, _, both⟩ := bind_eq_ok.mp silent
      obtain rfl := Except.ok.inj one
      cases both

theorem repeatFaults_eq_nil_iff {items : List Datum} :
    repeatFaults st name d items = .ok [] ↔ Distinct.repeats st items = .ok false := by
  rw [repeatFaults, bind_eq_ok]
  constructor
  · rintro ⟨answer, answered, none⟩
    cases answer with
    | false => exact answered
    | true => exact absurd none described_ne_nil
  · intro answered
    exact ⟨false, answered, rfl⟩

theorem texts_of_items {items : List Datum} (each : ∀ d ∈ items, textCause? d = none) :
    ∃ texts : List String, items = texts.map DraftSettings.text ∧ ∀ s ∈ texts, s ≠ "" := by
  induction items with
  | nil => exact ⟨[], rfl, by simp⟩
  | cons d rest ih =>
    obtain ⟨first, later⟩ := List.forall_mem_cons.mp each
    obtain ⟨s, rfl, filled⟩ := textCause?_eq_none_iff.mp first
    obtain ⟨texts, rfl, others⟩ := ih later
    exact ⟨s :: texts, rfl, List.forall_mem_cons.mpr ⟨filled, others⟩⟩

theorem textCause?_of_text {s : String} (filled : s ≠ "") :
    textCause? (DraftSettings.text s) = none := if_neg filled

theorem plainFaults_eq_nil_iff (plain : ∀ unique, r ≠ .texts unique) :
    valueFaults st name r d = .ok [] ↔ r.Takes st d := by
  rw [← plainCause?_eq_none_iff plain]
  unfold valueFaults
  split
  · exact absurd rfl (plain _)
  · rename_i r _ _ _
    cases plainCause? r d with
    | none => exact iff_of_true rfl rfl
    | some c => exact iff_of_false described_ne_nil (Option.some_ne_none c)

theorem listFaults_eq_nil_iff {unique : Bool} :
    valueFaults st name (.texts unique) d = .ok [] ↔ (Rule.texts unique).Takes st d := by
  rw [Rule.Takes]
  cases held : st.container? d with
  | none =>
    simp only [valueFaults, held, plainCause?]
    exact iff_of_false described_ne_nil (by simp)
  | some c =>
    cases c with
    | list items =>
      have ofItems : (∀ d ∈ items, textCause? d = none) ↔ ∃ texts : List String,
          Container.list items = .list (texts.map DraftSettings.text) ∧ ∀ s ∈ texts, s ≠ "" := by
        constructor
        · intro each
          obtain ⟨texts, rfl, filled⟩ := texts_of_items each
          exact ⟨texts, rfl, filled⟩
        · rintro ⟨texts, same, filled⟩ d member
          obtain rfl := Container.list.inj same
          obtain ⟨s, listed, rfl⟩ := List.mem_map.mp member
          exact textCause?_of_text (filled s listed)
      cases unique with
      | false =>
        simp only [valueFaults, held, Bool.false_eq_true, ↓reduceIte, pure_bind, List.append_nil,
          bind_pure, false_implies, and_true, Option.some.injEq]
        rw [itemFaults_eq_nil_iff, ofItems]
      | true =>
        simp only [valueFaults, held, ↓reduceIte, bind_eq_ok, true_implies, Option.some.injEq]
        constructor
        · rintro ⟨_, first, _, second, both⟩
          obtain ⟨rfl, rfl⟩ := List.append_eq_nil_iff.mp (Except.ok.inj both)
          obtain ⟨texts, same, filled⟩ := ofItems.mp (itemFaults_eq_nil_iff.mp first)
          obtain rfl := Container.list.inj same
          exact ⟨texts, rfl, filled, repeatFaults_eq_nil_iff.mp second⟩
        · rintro ⟨texts, same, filled, distinct⟩
          have each := ofItems.mpr ⟨texts, same, filled⟩
          obtain rfl := Container.list.inj same
          exact ⟨[], itemFaults_eq_nil_iff.mpr each, [], repeatFaults_eq_nil_iff.mpr distinct, rfl⟩
    | tuple _ | mapping _ | set _ =>
      simp only [valueFaults, held, plainCause?]
      exact iff_of_false described_ne_nil (by simp)

theorem valueFaults_eq_nil_iff : valueFaults st name r d = .ok [] ↔ r.Takes st d := by
  cases r with
  | texts unique => exact listFaults_eq_nil_iff
  | nonEmptyText | extension | digits => exact plainFaults_eq_nil_iff (by simp)

/-! Mappings. -/

variable {entries : List (Scalar × Datum)}

structure Accepted (st : Store) (entries : List (Scalar × Datum)) : Prop where
  known : ∀ e ∈ entries, isKnown e.1 = true
  taken : ∀ p ∈ properties, ∀ d, find? entries p.1 = some d → p.2.Takes st d

theorem mapM_eq_nil_iff {α β : Type} {f : α → Checked (List β)} {items : List α} :
    (∃ found, items.mapM f = .ok found ∧ found.flatten = []) ↔ ∀ a ∈ items, f a = .ok [] := by
  induction items with
  | nil => exact iff_of_true ⟨[], rfl, rfl⟩ (by simp)
  | cons a rest ih =>
    rw [List.forall_mem_cons, ← ih]
    constructor
    · rintro ⟨found, all, empty⟩
      rw [List.mapM_cons, bind_eq_ok] at all
      obtain ⟨first, one, all⟩ := all
      obtain ⟨others, more, all⟩ := bind_eq_ok.mp all
      obtain rfl := Except.ok.inj all
      obtain ⟨rfl, none⟩ := List.append_eq_nil_iff.mp empty
      exact ⟨one, others, more, none⟩
    · rintro ⟨one, others, more, none⟩
      refine ⟨[] :: others, ?_, none⟩
      rw [List.mapM_cons, one, more]
      rfl

theorem faults_eq_nil_iff : faults st entries = .ok [] ↔
    ∀ p ∈ properties, ∀ d, find? entries p.1 = some d → p.2.Takes st d := by
  rw [faults, bind_eq_ok]
  refine Iff.trans (exists_congr fun found => and_congr_right fun _ => ?_)
    (mapM_eq_nil_iff.trans (forall₂_congr ?_))
  · exact ⟨Except.ok.inj, congrArg Except.ok⟩
  · rintro ⟨key, r⟩ _
    dsimp only
    cases find? entries key with
    | none => exact iff_of_true rfl (by simp)
    | some d => simp [valueFaults_eq_nil_iff]

theorem first?_eq_none_iff {found : List Fault} : Fault.first? found = none ↔ found = [] := by
  constructor
  · intro unnamed
    cases found with
    | nil => rfl
    | cons f rest =>
      rw [Fault.first?, List.foldl_cons] at unnamed
      -- Once a fault is held, one is held to the end.
      refine absurd unnamed (List.foldlRecOn (motive := (· ≠ none)) rest _ (by simp) ?_)
      intro best held g _
      cases best with
      | none => exact absurd rfl held
      | some f =>
        dsimp only
        split <;> simp
  · rintro rfl
    rfl

theorem insertByText_ne_nil (text : String) (s : Scalar) (keys : List (String × Scalar)) :
    insertByText text s keys ≠ [] := by
  cases keys with
  | nil => exact List.cons_ne_nil _ _
  | cons first rest =>
    rw [insertByText]
    split <;> exact List.cons_ne_nil _ _

theorem sortedByText_eq_nil_iff {keys : List Scalar} : sortedByText keys = .ok [] ↔ keys = [] := by
  constructor
  · intro silent
    obtain ⟨texts, written, sorted⟩ := bind_eq_ok.mp silent
    cases keys with
    | nil => rfl
    | cons s rest =>
      rw [List.mapM_cons, bind_eq_ok] at written
      obtain ⟨first, _, written⟩ := written
      obtain ⟨others, _, written⟩ := bind_eq_ok.mp written
      obtain rfl := Except.ok.inj written
      have empty := List.map_eq_nil_iff.mp (Except.ok.inj sorted)
      rw [List.foldl_cons] at empty
      refine absurd empty (List.foldlRecOn (motive := (· ≠ [])) others _
        (insertByText_ne_nil _ _ _) ?_)
      intro acc _ p _
      exact insertByText_ne_nil _ _ _
  · rintro rfl
    rfl

theorem unknownMessage?_eq_none_iff :
    unknownMessage? entries = .ok none ↔ ∀ e ∈ entries, isKnown e.1 = true := by
  have unknown : (entries.map Prod.fst).filter (fun k => !isKnown k) = [] ↔
      ∀ e ∈ entries, isKnown e.1 = true := by
    simp [List.filter_eq_nil_iff]
  rw [← unknown, ← sortedByText_eq_nil_iff, unknownMessage?, bind_eq_ok]
  constructor
  · rintro ⟨keys, sorted, silent⟩
    match keys, silent with
    | [], _ => exact sorted
    | [_], silent | _ :: _ :: _, silent => cases silent
  · intro sorted
    exact ⟨[], sorted, rfl⟩

/-- Data without a message are the accepted mappings. -/
theorem message?_eq_none_iff : message? st d = .ok none ↔
    ∃ entries, st.entries? d = some entries ∧ Accepted st entries := by
  rw [message?]
  cases st.entries? d with
  | none =>
    refine iff_of_false ?_ (by simp)
    intro silent
    obtain ⟨_, _, silent⟩ := bind_eq_ok.mp silent
    cases silent
  | some entries =>
    simp only [Option.some.injEq, exists_eq_left', bind_eq_ok]
    constructor
    · rintro ⟨unknown, unknowns, found, all, silent⟩
      cases unknown with
      | some message => cases silent
      | none =>
        have unnamed := Option.map_eq_none_iff.mp (Except.ok.inj silent)
        obtain rfl := first?_eq_none_iff.mp unnamed
        exact ⟨unknownMessage?_eq_none_iff.mp unknowns, faults_eq_nil_iff.mp all⟩
    · rintro ⟨known, taken⟩
      exact ⟨none, unknownMessage?_eq_none_iff.mpr known, [], faults_eq_nil_iff.mpr taken, rfl⟩

end Schema
end Rulesheet
