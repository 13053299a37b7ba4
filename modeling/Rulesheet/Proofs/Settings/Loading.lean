import Rulesheet.Proofs.Registry.Documents
import Rulesheet.Proofs.Settings.Sane
import Rulesheet.Proofs.Yaml.Building

/- Loading a configuration file. It gives settings or a fault of the configuration, unless something
   obstructs it that no fault of the configuration stands for: a path too long, a directory, bytes
   that are no text, a value that is none of its kind, or data that cannot be judged. Legible texts
   obstruct nothing. -/
namespace Rulesheet
open Schema (Accepted)

/-! Data. -/

theorem Datum.Short.not_long {d : Datum} (short : d.Short) : ¬ Long d := by
  rintro ⟨n, rfl, long⟩
  have written : (Scalar.integer n).isLong = false := short
  rw [Scalar.isLong, decide_eq_false_iff_not] at written
  exact written long

theorem short_codeAt {entries : List (Scalar × Datum)} (short : ∀ e ∈ entries, e.2.Short) :
    (codeAt entries).Short := by
  unfold codeAt DraftSettings.valueAt
  cases found : Schema.find? entries "default_return_code" with
  | none => rfl
  | some d =>
    obtain ⟨e, listed, rfl⟩ := Schema.find?_mem found
    exact short e listed

theorem DraftSettings.ofDatum_of_long {st : Store} {d : Datum} {entries : List (Scalar × Datum)}
    (mapping : st.entries? d = some entries) (long : Long (codeAt entries))
    (draft : DraftSettings) : ofDatum st d ≠ .ok draft := by
  obtain ⟨n, code, digits⟩ := long
  have unwritten : st.plain (codeAt entries) = .error .longInteger := by
    rw [code, Store.plain, Scalar.whenWritten, Scalar.isLong, if_pos (decide_eq_true digits)]
  intro drafted
  rw [ofDatum_of_mapping mapping] at drafted
  obtain ⟨_, _, drafted⟩ := bind_eq_ok.mp drafted
  obtain ⟨_, _, drafted⟩ := bind_eq_ok.mp drafted
  obtain ⟨_, _, drafted⟩ := bind_eq_ok.mp drafted
  rw [← codeAt, unwritten] at drafted
  cases drafted

namespace Settings

abbrev Answered (x : Except LoadError Settings) : Prop :=
  Ends (fun e => ∃ fault, e = .config fault) (fun _ => True) x

theorem answered_iff {x : Except LoadError Settings} :
    Answered x ↔ (∃ s, x = .ok s) ∨ ∃ fault, x = .error (.config fault) := by
  cases x <;> simp [Ends]

theorem not_answered_draft (fault : DraftFault) : ¬ Answered (.error (.draft fault)) := by
  rintro ⟨_, same⟩
  cases same

theorem not_answered_read (e : ReadError) : ¬ Answered (.error (.read e)) := by
  rintro ⟨_, same⟩
  cases same

/-- A mapping that cannot be judged, or that is accepted with a return code too long to be
    written. -/
structure Unjudged (data : Data) (entries : List (Scalar × Datum)) : Prop where
  weighs : data.store.isFalsy data.root = false
  mapping : data.store.entries? data.root = some entries
  fails : (∃ fault, Schema.message? data.store data.root = .error fault) ∨
    Accepted data.store entries ∧ Long (codeAt entries)

theorem answered_ofData_iff {data : Data} {entries : List (Scalar × Datum)}
    (weighs : data.store.isFalsy data.root = false)
    (mapping : data.store.entries? data.root = some entries) :
    Answered (ofData data) ↔ ¬ Unjudged data entries := by
  unfold ofData
  cases judged : Schema.message? data.store data.root with
  | error fault =>
    exact iff_of_false (not_answered_draft _)
      fun free => free ⟨weighs, mapping, .inl ⟨fault, judged⟩⟩
  | ok message =>
    have unfailing : ¬ ∃ fault, Schema.message? data.store data.root = .error fault := by
      simp [judged]
    cases message with
    | some message =>
      refine iff_of_true ⟨_, rfl⟩ fun bad => ?_
      rcases bad.fails with failing | ⟨accepted, _⟩
      · exact unfailing failing
      · have silent := Schema.message?_eq_none_iff.mpr ⟨entries, mapping, accepted⟩
        cases judged.symm.trans silent
    | none =>
      obtain ⟨_, held, accepted⟩ := Schema.message?_eq_none_iff.mp judged
      obtain rfl := Option.some.inj (held.symm.trans mapping)
      rcases draft_of_accepted accepted mapping with ⟨long, failed⟩ | ⟨s, drafted, _⟩
      · dsimp only
        rw [failed]
        exact iff_of_false (not_answered_draft _)
          fun free => free ⟨weighs, mapping, .inr ⟨accepted, long⟩⟩
      · dsimp only
        rw [drafted]
        refine iff_of_true trivial fun bad => ?_
        rcases bad.fails with failing | ⟨_, long⟩
        · exact unfailing failing
        · exact DraftSettings.ofDatum_of_long mapping long _ drafted

theorem answered_ofDocument_iff {data : Data} :
    Answered (ofDocument data) ↔ ∀ entries, ¬ Unjudged data entries := by
  unfold ofDocument
  cases weighs : data.store.isFalsy data.root with
  | true =>
    refine iff_of_true trivial fun entries bad => ?_
    cases weighs.symm.trans bad.weighs
  | false =>
    cases mapping : data.store.entries? data.root with
    | none =>
      refine iff_of_true ⟨_, rfl⟩ fun entries bad => ?_
      cases mapping.symm.trans bad.mapping
    | some entries =>
      have judged := answered_ofData_iff weighs mapping
      refine judged.trans ⟨?_, fun free => free entries⟩
      intro free entries' bad
      obtain rfl := Option.some.inj (mapping.symm.trans bad.mapping)
      exact free bad

theorem not_unjudged_of_tame {data : Data} (tame : data.Tame) (entries : List (Scalar × Datum)) :
    ¬ Unjudged data entries := by
  rintro ⟨_, mapping, ⟨fault, fails⟩ | ⟨_, long⟩⟩
  · have judged := Schema.succeeds_message? tame.store tame.root
    rw [fails] at judged
    exact judged
  · have short := short_codeAt fun e member => (tame.store.entries? mapping e member).2
    exact short.not_long long

/-! Texts. -/

/-- A text in which something is no value of its kind, or data that are not judged. -/
def Troubled (text : String) : Prop :=
  (∃ fault, Yaml.load text = .error (.value fault)) ∨
    ∃ data entries, Yaml.load text = .ok data ∧ Unjudged data entries

theorem answered_ofYaml_iff {text : String} : Answered (ofYaml text) ↔ ¬ Troubled text := by
  unfold ofYaml Troubled
  cases loaded : Yaml.load text with
  | error fault =>
    cases fault with
    | invalid => exact iff_of_true ⟨_, rfl⟩ (by simp)
    | value fault =>
      exact iff_of_false (not_answered_draft _) fun free => free (.inl ⟨fault, rfl⟩)
  | ok data => simp [answered_ofDocument_iff]

theorem not_troubled_of_legible {text : String} (legible : Yaml.Legible text) :
    ¬ Troubled text := by
  have ends := legible.ends_load
  rintro (⟨fault, failed⟩ | ⟨data, entries, loaded, bad⟩)
  · rw [failed] at ends
    cases ends
  · rw [loaded] at ends
    exact not_unjudged_of_tame ends entries bad

/-! Files. -/

inductive Obstructed (t : FileTree) (p : Path) : Prop
  | tooLong {q : Path} (found : t.lookup p = .error (.fault .nameTooLong q))
  | directory (found : t.lookup p = .ok .directory)
  | noText {c : Content} (found : t.lookup p = .ok (.file c)) (unread : ∀ s, ¬ c.Spells s)
  | troubled {text : String} (reads : t.readText p = .ok text) (trouble : Troubled text)

variable {t : FileTree} {p : Path}

theorem answered_map_iff {x : Except LoadError Settings} {f : Settings → Settings} :
    Answered (x.map f) ↔ Answered x := by
  cases x <;> rfl

theorem Obstructed.of_unread {n : Node} {x : ReadError} (found : t.lookup p = .ok n)
    (unread : t.readText p = .error x) : Obstructed t p := by
  cases n with
  | directory => exact .directory found
  | file c =>
    refine .noText found ?_
    intro s spells
    have read := FileTree.readText_eq_ok.mpr ⟨c, s, found, Content.decode_eq_ok.mpr spells, rfl⟩
    cases unread.symm.trans read

theorem obstructed_iff_of_reads {text : String} (reads : t.readText p = .ok text) :
    Obstructed t p ↔ Troubled text := by
  obtain ⟨c, s, found, decoded, _⟩ := FileTree.readText_eq_ok.mp reads
  constructor
  · rintro (⟨same⟩ | ⟨same⟩ | ⟨same, unread⟩ | ⟨same, trouble⟩)
    · cases found.symm.trans same
    · cases found.symm.trans same
    · cases found.symm.trans same
      exact absurd (Content.decode_eq_ok.mp decoded) (unread s)
    · cases reads.symm.trans same
      exact trouble
  · exact .troubled reads

theorem answered_load_iff (e : Environment) : Answered (load t e p) ↔ ¬ Obstructed t p := by
  unfold load FileTree.exists? FileTree.test
  cases found : t.lookup p with
  | error x =>
    have free : (∀ q, x ≠ .fault .nameTooLong q) → ¬ Obstructed t p := by
      rintro other (⟨same⟩ | ⟨same⟩ | ⟨same, _⟩ | ⟨reads, _⟩)
      · exact other _ (Except.error.inj (found.symm.trans same))
      · cases found.symm.trans same
      · cases found.symm.trans same
      · obtain ⟨_, _, same, _⟩ := FileTree.readText_eq_ok.mp reads
        cases found.symm.trans same
    cases x with
    | nulInPath | unencodable _ => exact iff_of_true ⟨_, rfl⟩ (free (by simp))
    | fault cause q =>
      cases cause with
      | nameTooLong => exact iff_of_false (not_answered_read _) fun free => free (.tooLong found)
      | noEntry | alreadyThere | notDirectory | isDirectory =>
        exact iff_of_true ⟨_, rfl⟩ (free (by simp))
  | ok n =>
    cases reads : t.readText p with
    | error x =>
      exact iff_of_false (not_answered_read _) fun free => free (.of_unread found reads)
    | ok text =>
      rw [obstructed_iff_of_reads reads, ← answered_ofYaml_iff]
      exact answered_map_iff

end Settings
end Rulesheet
