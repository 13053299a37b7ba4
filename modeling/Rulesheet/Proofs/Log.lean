import Rulesheet.Output
import Rulesheet.Proofs.Run

/- What is said at which level. A run says of each of its names what its document and its results
   make of it, in the order of the names; at the information level it speaks of skips and of counts
   alone, and never at the level of a summary. -/
namespace Rulesheet

namespace LogEntry

def IsAside (e : LogEntry) : Prop :=
  e.level = Level.debug ∨ e.level = Level.warning ∨ e.level = Level.error

theorem aside_debug (message : String) : (LogEntry.debug message).IsAside := .inl rfl

theorem aside_warning (message : String) : (LogEntry.warning message).IsAside := .inr (.inl rfl)

theorem aside_error (message : String) : (LogEntry.error message).IsAside := .inr (.inr rfl)

def Announces (topic : String) (e : LogEntry) : Prop :=
  e.level = Level.info ∧ topic.toList <+: e.message.toList

instance (topic : String) (e : LogEntry) : Decidable (e.Announces topic) :=
  inferInstanceAs (Decidable (_ ∧ _))

variable {e : LogEntry}

theorem IsAside.level_ne (aside : e.IsAside) : e.level ≠ Level.info ∧ e.level ≠ Level.summary := by
  rcases aside with level | level | level <;> rw [level] <;> decide

theorem IsAside.silent (aside : e.IsAside) (topic : String) : ¬ e.Announces topic :=
  fun announces => aside.level_ne.1 announces.1

def Apart (topic topic' : String) : Prop :=
  ¬ topic.toList <+: topic'.toList ∧ ¬ topic'.toList <+: topic.toList

instance (topic topic' : String) : Decidable (Apart topic topic') :=
  inferInstanceAs (Decidable (_ ∧ _))

theorem silent_of_apart {topic begun rest : String} (apart : Apart topic begun) :
    ¬ (info (begun ++ rest)).Announces topic := by
  rintro ⟨_, announced⟩
  rw [info, String.toList_append] at announced
  rcases List.prefix_or_prefix_of_prefix announced (List.prefix_append _ _) with inside | around
  · exact apart.1 inside
  · exact apart.2 around

end LogEntry

open LogEntry

/-! What a document, a plan and a store say is an aside. -/

theorem DefaultValue.aside_warnings (spec : String) : ∀ e ∈ warnings spec, e.IsAside := by
  intro e said
  obtain ⟨group, _, warned⟩ := List.mem_filterMap.mp said
  cases group with
  | invalidName field =>
    rw [← Option.some.inj warned]
    exact aside_warning _
  | tooShort => cases warned
  | entry value => cases warned

theorem Document.aside_entries (spec inputFields : String) (loop : Bool) :
    ∀ e ∈ entries spec inputFields loop, e.IsAside := by
  intro e said
  rcases List.mem_append.mp said with warned | closing
  · exact DefaultValue.aside_warnings spec e warned
  · rw [List.mem_singleton.mp closing]
    exact aside_debug _

theorem Production.aside_entries (d : Production) (p : Plan) (name : String) :
    ∀ e ∈ d.entries p name, e.IsAside := by
  intro e said
  rw [Production.entries, List.mem_append, List.mem_append] at said
  rcases said with (pass | document) | produced
  · obtain ⟨pass, _, rfl⟩ := List.mem_map.mp pass
    exact aside_debug _
  · exact Document.aside_entries _ _ _ e document
  · rw [List.mem_singleton.mp produced]
    exact aside_debug _

theorem Pass.aside_entry (p : Pass) (sheetName : String) (f : Filter) :
    (p.entry sheetName f).IsAside := aside_debug _

theorem Plan.aside_entries (p : Plan) (book : Workbook) (name : String) :
    ∀ e ∈ p.entries book name, e.IsAside := by
  intro e said
  unfold entries at said
  split at said
  · cases said
  rcases List.mem_cons.mp said with rfl | later
  · exact aside_debug _
  split at later
  · cases later
  rcases List.mem_append.mp later with produced | begun
  · obtain ⟨d, _, inside⟩ := List.mem_flatMap.mp produced
    exact d.aside_entries p name e inside
  · split at begun
    · cases begun
    · obtain ⟨pass, _, rfl⟩ := List.mem_map.mp begun
      exact pass.aside_entry _ _

theorem aside_failureEntries (plan : Except MacroFailure Plan) (name : String) :
    ∀ e ∈ failureEntries plan name, e.IsAside := by
  intro e said
  cases plan with
  | error failure =>
    rw [List.mem_singleton.mp said]
    exact aside_debug _
  | ok p => cases said

theorem aside_executionEntries (c : MacroConfig) (book : Workbook) (release : String)
    (s : Settings) (name : String) :
    ∀ e ∈ executionEntries c book release s name, e.IsAside := by
  refine List.forall_mem_append.mpr ⟨?_, aside_failureEntries _ name⟩
  split
  · exact fun _ none => absurd none List.not_mem_nil
  · exact Plan.aside_entries _ book name

theorem aside_unreleasedEntries (c : MacroConfig) (book : Workbook) (s : Settings)
    (name : String) : ∀ e ∈ unreleasedEntries c book s name, e.IsAside := by
  refine List.forall_mem_append.mpr ⟨?_, aside_failureEntries _ name⟩
  split
  · exact fun _ none => absurd none List.not_mem_nil
  split
  · exact Plan.aside_entries _ book name
  split
  · exact List.forall_mem_singleton.mpr (aside_debug _)
  · exact fun _ none => absurd none List.not_mem_nil

theorem Registry.aside_loadEntries (r : Registry) (t : FileTree) (name : String) :
    ∀ e ∈ r.loadEntries t name, e.IsAside := by
  unfold loadEntries
  split
  · intro e said
    rw [List.mem_singleton.mp said]
    exact aside_debug _
  · intro e said
    rw [List.mem_singleton.mp said]
    exact aside_warning _

theorem Registry.aside_listingEntries (r : Registry) (t : FileTree) :
    ∀ e ∈ r.listingEntries t, e.IsAside := by
  unfold listingEntries
  split
  · intro e said
    cases said
  · intro e said
    rw [List.mem_singleton.mp said]
    exact aside_warning _

/-! What a run says. -/

namespace RunContext

variable {x : RunContext}

theorem aside_entries (x : RunContext) (c : MacroConfig) (name : String) :
    ∀ e ∈ x.entries c name, e.IsAside := by
  unfold RunContext.entries
  split
  · exact aside_executionEntries c x.book _ x.settings name
  · exact aside_unreleasedEntries c x.book x.settings name

def failureEntry (name : String) (r : MacroResult) : LogEntry :=
  .error ("macro " ++ name ++ " failed: " ++ r.error.getD "None")

def failureEntries (name : String) (rs : List MacroResult) : List LogEntry :=
  (rs.filter fun r => !r.success).map (failureEntry name)

def said (x : RunContext) (name : String) : List LogEntry :=
  x.registry.loadEntries x.tree name ++
  match x.verdict name with
  | .error reason => [reason.entry name]
  | .ok c => x.entries c name ++ failureEntries name (x.results c name) ++
      [Run.countsEntry name c.sheet (x.results c name)]

end RunContext

namespace Run

variable {x : RunContext}

theorem entries_recordFailure (run : Run) (name sheet : String) (r : MacroResult) :
    (recordFailure x name sheet run r).entries =
      run.entries ++ RunContext.failureEntries name [r] := by
  unfold recordFailure RunContext.failureEntries
  cases success : r.success <;> simp [success, RunContext.failureEntry]

theorem entries_records (run : Run) (name sheet : String) (rs : List MacroResult) :
    (rs.foldl (recordFailure x name sheet) run).entries =
      run.entries ++ RunContext.failureEntries name rs := by
  induction rs generalizing run with
  | nil => exact (List.append_nil _).symm
  | cons r rs ih =>
    have split : RunContext.failureEntries name (r :: rs) =
        RunContext.failureEntries name [r] ++ RunContext.failureEntries name rs := by
      rw [RunContext.failureEntries, RunContext.failureEntries, RunContext.failureEntries,
        ← List.map_append, ← List.filter_append, List.singleton_append]
    rw [List.foldl_cons, ih, entries_recordFailure, List.append_assoc, split]

theorem entries_execute (run : Run) (name : String) (c : MacroConfig) :
    (run.execute x name c).entries = run.entries ++ (x.entries c name ++
      RunContext.failureEntries name (x.results c name) ++
        [countsEntry name c.sheet (x.results c name)]) := by
  have recorded := entries_records (x := x)
    { run with
      result := { run.result with executed := run.result.executed ++ [name] }
      entries := run.entries ++ x.entries c name } name c.sheet (x.results c name)
  simp only [execute, recorded, List.append_assoc]

theorem entries_step (run : Run) (name : String) :
    (step x run name).entries = run.entries ++ x.said name := by
  unfold step RunContext.said RunContext.verdict
  cases x.registry.load? x.tree name with
  | none => simp [skip]
  | some d =>
    by_cases untargeted : d.config.sheet = ""
    · simp [untargeted, skip]
    · by_cases present : x.book.has d.config.sheet = true
      · simp only [untargeted, present, ↓reduceIte, entries_execute, List.append_assoc]
      · simp [untargeted, present, skip]

theorem entries_foldl (run : Run) (names : List String) :
    (names.foldl (step x) run).entries = run.entries ++ names.flatMap x.said := by
  induction names generalizing run with
  | nil => exact (List.append_nil _).symm
  | cons name names ih =>
    rw [List.foldl_cons, ih, entries_step, List.append_assoc, List.flatMap_cons]

theorem entries_all (x : RunContext) :
    (all x).entries = x.registry.listingEntries x.tree ++
      (x.registry.names x.tree).flatMap x.said :=
  entries_foldl _ _

inductive Speaks (e : LogEntry) : Prop where
  | aside (aside : e.IsAside)
  | skip (name : String) (reason : SkipReason) (same : e = reason.entry name)
  | counts (name sheet : String) (results : List MacroResult)
    (same : e = countsEntry name sheet results)

theorem speaks_of_said {name : String} {e : LogEntry} (said : e ∈ x.said name) : Speaks e := by
  rcases List.mem_append.mp said with loaded | rest
  · exact .aside (x.registry.aside_loadEntries x.tree name e loaded)
  · cases verdict : x.verdict name with
    | error reason =>
      rw [verdict] at rest
      exact .skip name reason (List.mem_singleton.mp rest)
    | ok c =>
      rw [verdict] at rest
      simp only [List.mem_append] at rest
      rcases rest with (entry | failed) | counts
      · exact .aside (x.aside_entries c name e entry)
      · obtain ⟨r, _, rfl⟩ := List.mem_map.mp failed
        exact .aside (aside_error _)
      · exact .counts name c.sheet _ (List.mem_singleton.mp counts)

theorem speaks_all {e : LogEntry} (said : e ∈ (all x).entries) : Speaks e := by
  rw [entries_all] at said
  rcases List.mem_append.mp said with listed | named
  · exact .aside (x.registry.aside_listingEntries x.tree e listed)
  · obtain ⟨name, _, said⟩ := List.mem_flatMap.mp named
    exact speaks_of_said said

theorem Speaks.level_ne {e : LogEntry} (speaks : Speaks e) : e.level ≠ Level.summary := by
  cases speaks with
  | aside aside => exact aside.level_ne.2
  | skip name reason same =>
    rw [same]
    exact (by decide : Level.info ≠ Level.summary)
  | counts name sheet results same =>
    rw [same]
    exact (by decide : Level.info ≠ Level.summary)

theorem Speaks.silent {e : LogEntry} {topic : String} (speaks : Speaks e)
    (skips : Apart topic "skip macro=") (counts : Apart topic "macro=") :
    ¬ e.Announces topic := by
  cases speaks with
  | aside aside => exact aside.silent topic
  | skip name reason same =>
    rw [same]
    unfold SkipReason.entry
    simp only [String.append_assoc]
    exact silent_of_apart skips
  | counts name sheet results same =>
    rw [same]
    unfold countsEntry
    simp only [String.append_assoc]
    exact silent_of_apart counts

end Run

/-! A writing speaks of what it refuses and overwrites. -/

namespace Writing

theorem aside_write {w : Writing} (asides : ∀ e ∈ w.entries, e.IsAside) (directory : Path)
    (root : Location) (r : MacroResult) :
    ∀ e ∈ (write directory root w r).entries, e.IsAside := by
  have claimed : ∀ l, ∀ e ∈ (w.claim r l).entries, e.IsAside := by
    intro l e said
    rcases List.mem_append.mp said with before | overwritten
    · exact asides e before
    · cases earlier : w.lastWriter? l with
      | none => simp [earlier] at overwritten
      | some name =>
        simp only [earlier, List.mem_singleton] at overwritten
        rw [overwritten]
        exact aside_warning _
  unfold write store
  split
  · exact asides
  split
  · exact asides
  dsimp only
  split
  · split
    · exact claimed _
    · split <;> exact claimed _
  · intro e said
    rcases List.mem_append.mp said with before | refused
    · exact asides e before
    · rw [List.mem_singleton.mp refused]
      exact aside_error _

theorem aside_foldl {w : Writing} (asides : ∀ e ∈ w.entries, e.IsAside) (directory : Path)
    (root : Location) (rs : List MacroResult) :
    ∀ e ∈ (rs.foldl (write directory root) w).entries, e.IsAside := by
  induction rs generalizing w with
  | nil => exact asides
  | cons r rs ih => exact ih (aside_write asides directory root r)

theorem aside_all (t : FileTree) (directory : Path) (results : List MacroResult) :
    ∀ e ∈ (all t directory results).entries, e.IsAside := by
  unfold all
  dsimp only
  split
  · intro e said
    cases said
  · refine aside_foldl ?_ directory _ _
    intro e said
    cases said

end Writing
end Rulesheet
