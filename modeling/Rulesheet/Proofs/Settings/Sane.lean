import Rulesheet.Proofs.Document.Reading
import Rulesheet.Proofs.Execution
import Rulesheet.Proofs.Run
import Rulesheet.Proofs.Settings.Accepted
import Rulesheet.Settings.Loading

/- The settings that accepted data give. Their texts are those of the data or the defaults, and they
   name files and fill return codes of a run as they are: a line feed at the end of an extension, the
   sign of a return code or its point are found again there. -/
namespace Rulesheet
open Schema (Accepted IsCode IsExtension Rule)
open Text (UpToNewline)

/-! Return codes. -/

namespace Binary64

theorem mark_mem_text (d : Decimal) : '.' ∈ d.text.toList ∨ 'e' ∈ d.text.toList := by
  have exponent : ∀ e : Int, 'e' ∈ (if e < 0 then "e-" else "e+").toList := by
    intro e
    split <;> decide
  unfold Decimal.text
  dsimp only
  split
  · exact .inl (by decide)
  · split
    · split
      · exact .inl (by simp)
      · split <;> exact .inl (by simp)
    · simp only [String.toList_append, List.mem_append]
      exact .inr (.inl (.inl (.inr (exponent _))))

end Binary64

theorem not_isCode_text {x : Binary64} {n : Int} (integral : x.toInt? = some n) :
    ¬ IsCode x.text.toList := by
  cases x with
  | finite negative m q =>
    intro code
    have mark := Binary64.mark_mem_text (Binary64.shortest m q)
    have inside : ∀ c ∈ (Binary64.shortest m q).text.toList, Text.IsDigit c := by
      intro c member
      refine code.2 c ?_
      rw [Binary64.text, String.toList_append]
      exact List.mem_append_right _ member
    rcases mark with point | exponent
    · exact absurd (inside _ point) (by decide)
    · exact absurd (inside _ exponent) (by decide)
  | infinite _ | notANumber => cases integral

theorem isCode_toString_iff {n : Int} : IsCode (toString n).toList ↔ 0 ≤ n := by
  rw [Int.toString_eq_repr, Int.repr_eq_if]
  split
  · rename_i positive
    refine iff_of_true ⟨?_, ?_⟩ positive
    · rw [Nat.toList_repr]
      exact Nat.toDigits_ne_nil
    · intro c member
      exact (Text.isDigit_iff c).mp (Text.digit_of_mem_repr member)
  · rename_i negative
    refine iff_of_false ?_ negative
    intro code
    exact absurd (code.2 '-' (by simp)) (by decide)

inductive Coded : Datum → String → Prop where
  | text {s : String} (digits : UpToNewline IsCode s.toList) : Coded (.scalar (.text s)) s
  | integer (n : Int) : Coded (.scalar (.integer n)) (toString n)
  | float {x : Binary64} {n : Int} (integral : x.toInt? = some n) :
      Coded (.scalar (.float x)) x.text

def Whole : Datum → Prop
  | .scalar (.text s) => '\n' ∉ s.toList
  | .scalar (.integer n) => 0 ≤ n
  | _ => False

def Long (d : Datum) : Prop :=
  ∃ n : Int, d = .scalar (.integer n) ∧ Binary64.pow10 digitLimit ≤ n.natAbs

theorem not_long_of_lt {n : Int} (small : n.natAbs < 10) : ¬ Long (.scalar (.integer n)) := by
  have power : ∀ k, 1 ≤ k → 10 ≤ Binary64.pow10 k :=
    fun k positive => Nat.le_self_pow (Nat.ne_of_gt positive) 10
  rintro ⟨_, same, long⟩
  cases same
  have least := power digitLimit (by decide)
  omega

theorem Coded.isCode_iff {d : Datum} {code : String} (coded : Coded d code) :
    IsCode code.toList ↔ Whole d := by
  cases coded with
  | text digits => exact digits.whole_iff Schema.newline_not_mem_code
  | integer n => exact isCode_toString_iff
  | float integral => exact iff_of_false (not_isCode_text integral) id

theorem plain_of_takes {st : Store} {d : Datum} (taken : Rule.digits.Takes st d) :
    Long d ∧ st.plain d = .error .longInteger ∨ ∃ code, st.plain d = .ok code ∧ Coded d code := by
  rcases taken with ⟨s, rfl, digits⟩ | integral
  · exact .inr ⟨s, rfl, .text digits⟩
  · unfold Schema.isInteger at integral
    split at integral
    · rename_i n
      have written : st.plain (.scalar (.integer n)) =
          if Binary64.pow10 digitLimit ≤ n.natAbs then .error .longInteger else .ok (toString n) := by
        simp only [Store.plain, Scalar.whenWritten, Scalar.isLong, decide_eq_true_eq]
        rfl
      rw [written]
      split
      · rename_i long
        exact .inl ⟨⟨n, rfl, long⟩, rfl⟩
      · exact .inr ⟨_, rfl, .integer n⟩
    · obtain ⟨n, integral⟩ := Option.isSome_iff_exists.mp integral
      exact .inr ⟨_, rfl, .float integral⟩
    · contradiction

/-! Drafts. -/

def Settings.draft (s : Settings) : DraftSettings where
  macrosDirectory := DraftSettings.text s.macrosDirectory
  definitionSuffix := DraftSettings.text s.definitionSuffix
  reservedDefinitions := s.reservedDefinitions.map DraftSettings.text
  legacyTokens := s.legacyTokens.map DraftSettings.text
  legacyPrefixes := s.legacyPrefixes.map DraftSettings.text
  wildcard := DraftSettings.text s.wildcard
  outputExtension := DraftSettings.text s.outputExtension
  returnCode := s.returnCode
  outputDirectory := DraftSettings.text s.outputDirectory

namespace DraftSettings

theorem settings_draft (st : Store) (s : Settings) : s.draft.settings st = s := by
  have texts : ∀ items : List String,
      (items.map text).map (fun d => ((st.plain d).toOption).getD "") = items := by
    intro items
    rw [List.map_map]
    exact List.map_id' items
  rw [settings, Settings.draft]
  dsimp only
  rw [texts, texts, texts]
  rfl

def valueAt (entries : List (Scalar × Datum)) (key default : String) : Datum :=
  (Schema.find? entries key).getD (text default)

def listAt (st : Store) (entries : List (Scalar × Datum)) (key : String) (default : List String) :
    Except DraftFault (List Datum) :=
  match Schema.find? entries key with
  | none => .ok (default.map text)
  | some d => match parts? st d with
    | some parts => .ok parts
    | none => .error (.noList (st.kind d))

variable {st : Store} {d : Datum} {entries : List (Scalar × Datum)} {key : String}

theorem ofDatum_of_mapping (mapping : st.entries? d = some entries) : ofDatum st d = (do
    let reserved ← listAt st entries "reserved_definitions" ["all"]
    let tokens ← listAt st entries "legacy_release_tokens" ["202109"]
    let prefixes ← listAt st entries "legacy_release_prefixes" ["R1.0"]
    let code ← (st.plain (valueAt entries "default_return_code" "1000")).mapError .value
    pure
      { macrosDirectory := valueAt entries "macros_directory" "./macros"
        definitionSuffix := valueAt entries "definition_suffix" ".md"
        reservedDefinitions := reserved
        legacyTokens := tokens
        legacyPrefixes := prefixes
        wildcard := valueAt entries "wildcard" "%"
        outputExtension := valueAt entries "output_extension" ".xml"
        returnCode := code
        outputDirectory := valueAt entries "output_directory" "./out" }) := by
  rw [ofDatum, mapping]
  rfl

theorem takes_valueAt (accepted : Accepted st entries) {r : Rule} {default : String}
    (listed : (key, r) ∈ Schema.properties) (taken : r.Takes st (text default)) :
    r.Takes st (valueAt entries key default) := by
  unfold valueAt
  cases found : Schema.find? entries key with
  | none => exact taken
  | some d => exact accepted.taken _ listed d found

theorem listAt_of_accepted (accepted : Accepted st entries) {unique : Bool}
    {default : List String} (listed : (key, .texts unique) ∈ Schema.properties)
    (filled : ∀ s ∈ default, s ≠ "") :
    ∃ texts : List String, listAt st entries key default = .ok (texts.map text) ∧
      ∀ s ∈ texts, s ≠ "" := by
  unfold listAt
  cases found : Schema.find? entries key with
  | none => exact ⟨default, rfl, filled⟩
  | some d =>
    obtain ⟨texts, held, filled, _⟩ := accepted.taken _ listed d found
    refine ⟨texts, ?_, filled⟩
    cases d with
    | scalar s => cases held
    | place i => simp only [parts?, held]

end DraftSettings

/-! Settings. -/

structure Settings.Sane (s : Settings) : Prop where
  suffix : IsExtension s.definitionSuffix.toList
  extension : IsExtension s.outputExtension.toList
  code : IsCode s.returnCode.toList
  wildcard : s.wildcard ≠ ""
  macrosDirectory : s.macrosDirectory ≠ ""
  outputDirectory : s.outputDirectory ≠ ""
  lists : ∀ x ∈ s.reservedDefinitions ++ s.legacyTokens ++ s.legacyPrefixes, x ≠ ""

structure Settings.Admitted (s : Settings) (code : Datum) : Prop where
  suffix : UpToNewline IsExtension s.definitionSuffix.toList
  extension : UpToNewline IsExtension s.outputExtension.toList
  code : Coded code s.returnCode
  wildcard : s.wildcard ≠ ""
  macrosDirectory : s.macrosDirectory ≠ ""
  outputDirectory : s.outputDirectory ≠ ""
  lists : ∀ x ∈ s.reservedDefinitions ++ s.legacyTokens ++ s.legacyPrefixes, x ≠ ""

def codeAt (entries : List (Scalar × Datum)) : Datum :=
  DraftSettings.valueAt entries "default_return_code" "1000"

theorem Settings.Admitted.sane_iff {s : Settings} {code : Datum} (admitted : s.Admitted code) :
    s.Sane ↔ '\n' ∉ s.definitionSuffix.toList ∧ '\n' ∉ s.outputExtension.toList ∧ Whole code := by
  have suffix := admitted.suffix.whole_iff Schema.newline_not_mem_extension
  have extension := admitted.extension.whole_iff Schema.newline_not_mem_extension
  rw [← suffix, ← extension, ← admitted.code.isCode_iff]
  constructor
  · intro sane
    exact ⟨sane.suffix, sane.extension, sane.code⟩
  · rintro ⟨suffix, extension, code⟩
    exact ⟨suffix, extension, code, admitted.wildcard, admitted.macrosDirectory,
      admitted.outputDirectory, admitted.lists⟩

theorem Environment.getD_nonEmpty?_ne_empty (e : Environment) (name : String) {default : String}
    (filled : default ≠ "") : (e.nonEmpty? name).getD default ≠ "" := by
  cases held : e.nonEmpty? name with
  | none => exact filled
  | some value => simpa using (Option.filter_eq_some_iff.mp held).2

theorem Settings.Admitted.overriddenBy {s : Settings} {code : Datum} (admitted : s.Admitted code)
    (e : Environment) : (s.overriddenBy e).Admitted code where
  suffix := admitted.suffix
  extension := admitted.extension
  code := admitted.code
  wildcard := admitted.wildcard
  macrosDirectory := e.getD_nonEmpty?_ne_empty _ admitted.macrosDirectory
  outputDirectory := e.getD_nonEmpty?_ne_empty _ admitted.outputDirectory
  lists := admitted.lists

theorem draft_of_accepted {st : Store} {d : Datum} {entries : List (Scalar × Datum)}
    (accepted : Accepted st entries) (mapping : st.entries? d = some entries) :
    Long (codeAt entries) ∧ DraftSettings.ofDatum st d = .error (.value .longInteger) ∨
      ∃ s : Settings, DraftSettings.ofDatum st d = .ok s.draft ∧ s.Admitted (codeAt entries) := by
  open DraftSettings in
  have named : ∀ {key default : String}, (key, Rule.nonEmptyText) ∈ Schema.properties →
      default ≠ "" → ∃ s, valueAt entries key default = text s ∧ s ≠ "" :=
    fun listed filled => takes_valueAt accepted listed ⟨_, rfl, filled⟩
  have ending : ∀ {key default : String}, (key, Rule.extension) ∈ Schema.properties →
      Schema.isExtension default = true →
        ∃ s, valueAt entries key default = text s ∧ UpToNewline IsExtension s.toList :=
    fun listed extension =>
      takes_valueAt accepted listed ⟨_, rfl, Schema.isExtension_iff.mp extension⟩
  have code : Rule.digits.Takes st (codeAt entries) :=
    takes_valueAt accepted (by decide) (.inl ⟨"1000", rfl, Schema.isDigits_iff.mp (by decide)⟩)
  obtain ⟨reserved, reservedAt, reservedFilled⟩ :=
    listAt_of_accepted accepted (by decide : ("reserved_definitions", Rule.texts true) ∈ _)
      (by decide : ∀ s ∈ ["all"], s ≠ "")
  obtain ⟨tokens, tokensAt, tokensFilled⟩ :=
    listAt_of_accepted accepted (by decide : ("legacy_release_tokens", Rule.texts false) ∈ _)
      (by decide : ∀ s ∈ ["202109"], s ≠ "")
  obtain ⟨leads, leadsAt, leadsFilled⟩ :=
    listAt_of_accepted accepted (by decide : ("legacy_release_prefixes", Rule.texts false) ∈ _)
      (by decide : ∀ s ∈ ["R1.0"], s ≠ "")
  obtain ⟨macros, macrosAt, macrosFilled⟩ :=
    named (by decide : ("macros_directory", _) ∈ _) (by decide : "./macros" ≠ "")
  obtain ⟨output, outputAt, outputFilled⟩ :=
    named (by decide : ("output_directory", _) ∈ _) (by decide : "./out" ≠ "")
  obtain ⟨wildcard, wildcardAt, wildcardFilled⟩ :=
    named (by decide : ("wildcard", _) ∈ _) (by decide : "%" ≠ "")
  obtain ⟨suffix, suffixAt, suffixEnds⟩ :=
    ending (by decide : ("definition_suffix", _) ∈ _) (by decide : Schema.isExtension ".md" = true)
  obtain ⟨extension, extensionAt, extensionEnds⟩ :=
    ending (by decide : ("output_extension", _) ∈ _) (by decide : Schema.isExtension ".xml" = true)
  have drafted := ofDatum_of_mapping mapping
  rw [reservedAt, tokensAt, leadsAt, macrosAt, outputAt, wildcardAt, suffixAt, extensionAt]
    at drafted
  rcases plain_of_takes code with ⟨long, unwritten⟩ | ⟨written, writes, coded⟩
  · refine .inl ⟨long, ?_⟩
    rw [drafted, ← codeAt, unwritten]
    rfl
  · refine .inr ⟨⟨macros, suffix, reserved, tokens, leads, wildcard, extension, written, output⟩,
      ?_, suffixEnds, extensionEnds, coded, wildcardFilled, macrosFilled, outputFilled, ?_⟩
    · rw [drafted, ← codeAt, writes]
      rfl
    · intro x member
      rcases List.mem_append.mp member with early | lead
      · exact (List.mem_append.mp early).elim (reservedFilled x) (tokensFilled x)
      · exact leadsFilled x lead

/-! Runs. -/

namespace Plan

variable {c : MacroConfig} {book : Workbook} {values name : String} {s : Settings} {p : Plan}
  {r : MacroResult}

theorem produce_of_ofValues (planned : ofValues c book values s = .ok p) (part : Partition) :
    ∃ passes, MacroResult.document (p.produce part).content (p.produce part).fileName name =
      c.documentOver s part passes name := by
  obtain ⟨_, w, _, rfl, _⟩ := ofValues_eq_ok_iff.mp planned
  exact ⟨_, rfl⟩

theorem ofValues_of_unreleased (planned : prepareUnreleased c book s = .ok p) :
    ofValues c book c.currentValues s = .ok p := by
  unfold prepareUnreleased at planned
  split at planned
  · exact planned
  · cases drafted : draft c book c.currentValues s with
    | error failure =>
      rw [drafted] at planned
      cases planned
    | ok q =>
      rw [drafted] at planned
      cases planned

theorem documentOver_of_results {planned : Except MacroFailure Plan}
    (given : ∀ p, planned = .ok p → ofValues c book values s = .ok p)
    (member : r ∈ results planned name) (success : r.success = true) :
    ∃ part passes, r = c.documentOver s part passes name := by
  cases planned with
  | error failure =>
    obtain rfl := List.mem_singleton.mp member
    cases success
  | ok p =>
    obtain ⟨d, produced, rfl⟩ := List.mem_map.mp member
    obtain ⟨part, _, rfl⟩ := List.mem_map.mp produced
    obtain ⟨passes, same⟩ := produce_of_ofValues (given p rfl) part
    exact ⟨part, passes, same⟩

end Plan

theorem RunContext.documentOver_of_success {x : RunContext} {c : MacroConfig} {name : String}
    {r : MacroResult} (member : r ∈ x.results c name) (success : r.success = true) :
    ∃ part passes, r = c.documentOver x.settings part passes name := by
  unfold RunContext.results at member
  split at member
  · exact Plan.documentOver_of_results (fun _ => id) member success
  · exact Plan.documentOver_of_results (fun _ => Plan.ofValues_of_unreleased) member success

theorem Run.mem_results_all {x : RunContext} {r : MacroResult}
    (member : r ∈ (Run.all x).result.results) :
    ∃ name c, x.verdict name = .ok c ∧ r ∈ x.results c name := by
  rw [← Run.account_results, Run.account_all] at member
  obtain ⟨_, listed, inside⟩ := List.mem_flatMap.mp member
  obtain ⟨name, _, rfl⟩ := List.mem_map.mp listed
  unfold RunContext.contribution at inside
  split at inside
  · cases inside
  · rename_i c executed
    exact ⟨name, c, executed, inside⟩

theorem Run.document_of_success {x : RunContext} {r : MacroResult}
    (member : r ∈ (Run.all x).result.results) (success : r.success = true) :
    ∃ c stem ruleset, x.verdict r.macroName = .ok c ∧
      r.fileName = stem ++ x.settings.outputExtension ∧
      Document.read? r.content = some ruleset ∧
      ∀ l ∈ ruleset.lists,
        l.returnCode = if c.returnCode = "" then x.settings.returnCode else c.returnCode := by
  obtain ⟨name, c, executed, inside⟩ := Run.mem_results_all member
  obtain ⟨part, passes, rfl⟩ := RunContext.documentOver_of_success inside success
  refine ⟨c, _, _, executed, rfl, Document.read?_assemble _ _ _ _ _ _, ?_⟩
  intro l listed
  obtain ⟨pass, _, rfl⟩ := List.mem_map.mp listed
  rfl

/-- Data that the schema takes give settings, unless the return code is an integer too long to be
    written. All texts are filled; extensions and codes are in form up to a final line feed, and the
    code of a number is its text. The settings are sane exactly if no line feed is there and the
    code is no negative number and no float. The documents of a run have the extension and, by
    default, the code as they are. -/
theorem accepted_settings {data : Data}
    (accepted : Schema.message? data.store data.root = .ok none) :
    ∃ entries, data.store.entries? data.root = some entries ∧
      (Long (codeAt entries) ∧
          DraftSettings.ofDatum data.store data.root = .error (.value .longInteger) ∨
        ∃ s : Settings, DraftSettings.ofDatum data.store data.root = .ok s.draft ∧
          Settings.ofData data = .ok s ∧ s.Admitted (codeAt entries) ∧
          (s.Sane ↔ '\n' ∉ s.definitionSuffix.toList ∧ '\n' ∉ s.outputExtension.toList ∧
            Whole (codeAt entries)) ∧
          ∀ (e : Environment) (x : RunContext), x.settings = s.overriddenBy e →
            x.settings.Admitted (codeAt entries) ∧
            ∀ r ∈ (Run.all x).result.results, r.success = true →
              ∃ c stem ruleset, x.verdict r.macroName = .ok c ∧
                r.fileName = stem ++ s.outputExtension ∧
                Document.read? r.content = some ruleset ∧
                ∀ l ∈ ruleset.lists,
                  l.returnCode = if c.returnCode = "" then s.returnCode else c.returnCode) := by
  obtain ⟨entries, mapping, taken⟩ := Schema.message?_eq_none_iff.mp accepted
  refine ⟨entries, mapping, ?_⟩
  rcases draft_of_accepted taken mapping with long | ⟨s, drafted, admitted⟩
  · exact .inl long
  · refine .inr ⟨s, drafted, ?_, admitted, admitted.sane_iff, ?_⟩
    · rw [Settings.ofData, accepted, drafted]
      exact congrArg Except.ok (DraftSettings.settings_draft data.store s)
    · intro e x overridden
      refine ⟨overridden ▸ admitted.overriddenBy e, ?_⟩
      intro r member success
      have left := Run.document_of_success member success
      rw [overridden] at left
      exact left

def looseData : Data where
  store := ⟨#[.mapping [(.text "output_extension", .scalar (.text ".xml\n")),
    (.text "default_return_code", .scalar (.integer (-5)))]]⟩
  root := .place 0

theorem accepted_settings_loose :
    Schema.message? looseData.store looseData.root = .ok none ∧
    ∃ s, Settings.ofData looseData = .ok s ∧ s.outputExtension = ".xml\n" ∧ s.returnCode = "-5" ∧
      ¬ s.Sane ∧ ∀ x : RunContext, x.settings = s → ∀ r ∈ (Run.all x).result.results,
        r.success = true → ∃ stem, r.fileName = stem ++ ".xml\n" := by
  have accepted : Schema.message? looseData.store looseData.root = .ok none := rfl
  have given : Settings.ofData looseData =
      .ok { outputExtension := ".xml\n", returnCode := "-5" } := by decide +kernel
  obtain ⟨_, mapping, outcome⟩ := accepted_settings accepted
  obtain rfl := Option.some.inj mapping
  rcases outcome with ⟨long, _⟩ | ⟨s, _, made, _, sane, run⟩
  · exact absurd long (not_long_of_lt (by decide))
  · obtain rfl := Except.ok.inj (given.symm.trans made)
    refine ⟨accepted, _, given, rfl, rfl, ?_, ?_⟩
    · rw [sane]
      rintro ⟨_, whole, _⟩
      exact absurd whole (by decide)
    · intro x same r member success
      obtain ⟨_, stem, _, _, named, _⟩ := (run {} x same).2 r member success
      exact ⟨stem, named⟩

end Rulesheet
