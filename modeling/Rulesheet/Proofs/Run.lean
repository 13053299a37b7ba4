import Mathlib.Data.List.Basic
import Rulesheet.Proofs.Files.Changing
import Rulesheet.Proofs.Registry.Documents
import Rulesheet.Run

/- A run as a map over the names of its store. What a name gives to the run depends on its own
   document alone, so that the lists of a run are those of its names in a row and a change of one
   document leaves what the others give. The names themselves are a matter of the whole store: one
   entry that the system cannot tell from a file takes all of them out of the run. -/
namespace Rulesheet

/-- What a run takes in, from one name or from several. -/
structure Contribution where
  skipped : List String := []
  executed : List String := []
  results : List MacroResult := []
  errors : List ErrorRecord := []
  deriving DecidableEq, Repr

namespace Contribution

def append (a b : Contribution) : Contribution where
  skipped := a.skipped ++ b.skipped
  executed := a.executed ++ b.executed
  results := a.results ++ b.results
  errors := a.errors ++ b.errors

def concat (cs : List Contribution) : Contribution where
  skipped := cs.flatMap skipped
  executed := cs.flatMap executed
  results := cs.flatMap results
  errors := cs.flatMap errors

theorem append_nil (a : Contribution) : a.append {} = a := by
  simp [append]

theorem nil_append (a : Contribution) : append {} a = a := by
  simp [append]

theorem append_assoc (a b c : Contribution) : (a.append b).append c = a.append (b.append c) := by
  simp [append]

theorem concat_cons (c : Contribution) (cs : List Contribution) :
    concat (c :: cs) = c.append (concat cs) := rfl

end Contribution

namespace RunContext

variable {x : RunContext} {name : String}

/-- Why a name is skipped, or the configuration that it is executed with. -/
def verdict (x : RunContext) (name : String) : Except SkipReason MacroConfig :=
  match x.registry.load? x.tree name with
  | none => .error .definitionNotFound
  | some d =>
    if d.config.sheet = "" then .error .noTargetSheet
    else if x.book.has d.config.sheet then .ok d.config
    else .error (.sheetNotFound d.config.sheet)

def record (x : RunContext) (name sheet : String) (r : MacroResult) : ErrorRecord :=
  ⟨x.now, name, sheet, "", "MACRO_EXECUTION_ERROR", r.error.getD ""⟩

def records (x : RunContext) (name sheet : String) (rs : List MacroResult) : List ErrorRecord :=
  (rs.filter fun r => !r.success).map (x.record name sheet)

def contribution (x : RunContext) (name : String) : Contribution :=
  match x.verdict name with
  | .error reason => { skipped := [reason.account name] }
  | .ok c =>
    { executed := [name]
      results := x.results c name
      errors := x.records name c.sheet (x.results c name) }

theorem contribution_accounts (x : RunContext) (name : String) :
    (x.contribution name).executed.length + (x.contribution name).skipped.length = 1 := by
  unfold contribution
  cases x.verdict name <;> simp

theorem contribution_congr {tree : FileTree}
    (same : x.registry.load? tree name = x.registry.load? x.tree name) :
    contribution { x with tree := tree } name = x.contribution name := by
  obtain ⟨registry, before, book, release, settings, now⟩ := x
  have verdict : verdict ⟨registry, tree, book, release, settings, now⟩ name =
      verdict ⟨registry, before, book, release, settings, now⟩ name := by
    unfold RunContext.verdict
    rw [same]
  unfold contribution
  rw [verdict]
  cases RunContext.verdict ⟨registry, before, book, release, settings, now⟩ name <;> rfl

end RunContext

namespace Run

def account (run : Run) : Contribution :=
  ⟨run.result.skipped, run.result.executed, run.result.results, run.errors⟩

theorem account_skipped (run : Run) : run.account.skipped = run.result.skipped := rfl

theorem account_executed (run : Run) : run.account.executed = run.result.executed := rfl

theorem account_results (run : Run) : run.account.results = run.result.results := rfl

theorem account_errors (run : Run) : run.account.errors = run.errors := rfl

variable {x : RunContext}

theorem account_recordFailure (run : Run) (name sheet : String) (r : MacroResult) :
    (recordFailure x name sheet run r).account =
      run.account.append { errors := x.records name sheet [r] } := by
  unfold recordFailure RunContext.records
  cases success : r.success <;>
    simp [success, account, Contribution.append, RunContext.record]

theorem account_records (run : Run) (name sheet : String) (rs : List MacroResult) :
    (rs.foldl (recordFailure x name sheet) run).account =
      run.account.append { errors := x.records name sheet rs } := by
  induction rs generalizing run with
  | nil => exact (Contribution.append_nil _).symm
  | cons r rs ih =>
    have split : x.records name sheet (r :: rs) =
        x.records name sheet [r] ++ x.records name sheet rs := by
      rw [RunContext.records, RunContext.records, RunContext.records, ← List.map_append,
        ← List.filter_append, List.singleton_append]
    rw [List.foldl_cons, ih, account_recordFailure, Contribution.append_assoc, split]
    rfl

theorem account_skip (run : Run) (name : String) (reason : SkipReason) :
    (run.skip name reason).account = run.account.append { skipped := [reason.account name] } := by
  simp [skip, account, Contribution.append]

theorem account_execute (run : Run) (name : String) (c : MacroConfig) :
    (run.execute x name c).account = run.account.append
      { executed := [name]
        results := x.results c name
        errors := x.records name c.sheet (x.results c name) } := by
  have recorded := account_records (x := x)
    { run with
      result := { run.result with executed := run.result.executed ++ [name] }
      entries := run.entries ++ x.entries c name } name c.sheet (x.results c name)
  simp only [account, Contribution.append, Contribution.mk.injEq, List.append_nil] at recorded
  obtain ⟨skipped, executed, results, errors⟩ := recorded
  simp only [account, Contribution.append, execute, Contribution.mk.injEq, List.append_nil]
  exact ⟨skipped, executed, congrArg (· ++ _) results, errors⟩

theorem account_step (run : Run) (name : String) :
    (step x run name).account = run.account.append (x.contribution name) := by
  unfold step RunContext.contribution RunContext.verdict
  cases x.registry.load? x.tree name with
  | none => exact account_skip _ name _
  | some d =>
    by_cases untargeted : d.config.sheet = ""
    · simp only [untargeted, ↓reduceIte]
      exact account_skip _ name _
    · by_cases present : x.book.has d.config.sheet = true
      · simp only [untargeted, present, ↓reduceIte]
        exact account_execute _ name d.config
      · simp only [untargeted, present, ↓reduceIte]
        exact account_skip _ name _

theorem account_foldl (run : Run) (names : List String) :
    (names.foldl (step x) run).account =
      run.account.append (.concat (names.map x.contribution)) := by
  induction names generalizing run with
  | nil => exact (Contribution.append_nil _).symm
  | cons name names ih =>
    rw [List.foldl_cons, ih, account_step, Contribution.append_assoc, List.map_cons,
      Contribution.concat_cons]

theorem account_all (x : RunContext) :
    (all x).account = .concat ((x.registry.names x.tree).map x.contribution) := by
  rw [all, account_foldl]
  exact Contribution.nil_append _

end Run

namespace RunContext

variable {x : RunContext}

theorem contribution_of_skip {n : String} {reason : SkipReason}
    (skipped : x.verdict n = .error reason) :
    x.contribution n = { skipped := [reason.account n] } := by
  unfold contribution
  rw [skipped]

theorem contribution_of_config {n : String} {c : MacroConfig} {release : String}
    (given : x.release = some release) (executed : x.verdict n = .ok c) :
    x.contribution n =
      { executed := [n]
        results := executeMacro c x.book release x.settings n
        errors := x.records n c.sheet (executeMacro c x.book release x.settings n) } := by
  have results : x.results c n = executeMacro c x.book release x.settings n := by
    unfold RunContext.results
    rw [given]
  unfold contribution
  rw [executed, ← results]

theorem length_concat (x : RunContext) (names : List String) :
    (Contribution.concat (names.map x.contribution)).executed.length +
      (Contribution.concat (names.map x.contribution)).skipped.length = names.length := by
  induction names with
  | nil => rfl
  | cons n names ih =>
    have one := x.contribution_accounts n
    simp only [List.map_cons, Contribution.concat_cons, Contribution.append, List.length_append,
      List.length_cons]
    omega

end RunContext

/-! The lists of a run, counted against each other. -/

namespace RunContext

def names (x : RunContext) : List String := x.registry.names x.tree

def skip? (x : RunContext) (name : String) : Option String :=
  match x.verdict name with
  | .error reason => some (reason.account name)
  | .ok _ => none

variable {x : RunContext}

theorem skipped_contribution (x : RunContext) (name : String) :
    (x.contribution name).skipped = (x.skip? name).toList := by
  unfold contribution skip?
  cases x.verdict name <;> rfl

theorem errors_contribution (x : RunContext) (name : String) :
    (x.contribution name).errors.length =
      ((x.contribution name).results.filter fun r => !r.success).length := by
  unfold contribution records
  cases x.verdict name with
  | error reason => rfl
  | ok c => exact List.length_map _

theorem errors_concat (x : RunContext) (names : List String) :
    (Contribution.concat (names.map x.contribution)).errors.length =
      ((Contribution.concat (names.map x.contribution)).results.filter
        fun r => !r.success).length := by
  induction names with
  | nil => rfl
  | cons name names ih =>
    rw [List.map_cons, Contribution.concat_cons, Contribution.append, List.length_append,
      List.filter_append, List.length_append, ih, errors_contribution]

end RunContext

namespace Run

variable (x : RunContext)

theorem length_all :
    (all x).result.executed.length + (all x).result.skipped.length = x.names.length := by
  have length := x.length_concat x.names
  rw [RunContext.names, ← account_all, account_executed, account_skipped] at length
  exact length

theorem length_errors : (all x).errors.length = (all x).result.failures.length := by
  have recorded := x.errors_concat x.names
  rw [RunContext.names, ← account_all, account_errors, account_results] at recorded
  exact recorded

theorem skipped_all : (all x).result.skipped = x.names.filterMap x.skip? := by
  rw [← account_skipped, account_all, Contribution.concat, List.flatMap_map,
    List.filterMap_eq_flatMap_toList]
  exact List.flatMap_congr fun name _ => x.skipped_contribution name

end Run

theorem RunResult.length_results (r : RunResult) :
    r.successes.length + r.failures.length = r.results.length :=
  (List.length_eq_length_filter_add MacroResult.success).symm

/-- A run is the map of its names, which are listed once each and in ascending order. It skips,
    executes, returns and records what the names give, in a row; a name gives its skip or its
    results and the records of the failed ones. A document that changes, appears or goes leaves
    what every other name gives; it leaves the other names as well as long as the system says of its
    entry whether it is a file, and takes all names away if not. -/
theorem run_per_definition (registry : Registry) (tree : FileTree) (book : Workbook)
    (release : String) (settings : Settings) (now : String) :
    let x : RunContext := ⟨registry, tree, book, some release, settings, now⟩
    let names := registry.names tree
    let run := Run.all x
    Run.all? x = (match FileError.ofName? registry.directory.text with
      | some e => .error e
      | none => .ok run) ∧
    names.Pairwise (· < ·) ∧
    run.result.skipped = (names.flatMap fun n => (x.contribution n).skipped) ∧
    run.result.executed = (names.flatMap fun n => (x.contribution n).executed) ∧
    run.result.results = (names.flatMap fun n => (x.contribution n).results) ∧
    run.errors = (names.flatMap fun n => (x.contribution n).errors) ∧
    run.result.executed.length + run.result.skipped.length = names.length ∧
    (∀ n reason, x.verdict n = .error reason →
      x.contribution n = ⟨[reason.account n], [], [], []⟩) ∧
    (∀ n c, x.verdict n = .ok c → x.contribution n =
      ⟨[], [n], executeMacro c book release settings n,
        ((executeMacro c book release settings n).filter fun r => !r.success).map
          fun r => ⟨now, n, c.sheet, "", "MACRO_EXECUTION_ERROR", r.error.getD ""⟩⟩) ∧
    (tree.Named → ∀ changed tree', tree.SameBut tree' (registry.place tree changed) →
      (∀ n ∈ names, n ≠ changed →
        RunContext.contribution { x with tree := tree' } n = x.contribution n) ∧
      ((registry.Answers tree' ↔ registry.Answers tree) →
        (registry.names tree').filter (· ≠ changed) = names.filter (· ≠ changed)) ∧
      (registry.Answers tree → (registry.Answers tree' ↔
        ((tree'.node? (registry.place tree changed)).isSome →
          ∃ here, tree'.isFile? (registry.entryPath (changed ++ registry.suffix)) = .ok here))) ∧
      (¬ registry.Answers tree' → registry.names tree' = [])) := by
  intro x names run
  have account : run.account = .concat (names.map x.contribution) := Run.account_all x
  have lists : run.account = ⟨_, _, _, _⟩ := account.trans
    (by rw [Contribution.concat, List.flatMap_map, List.flatMap_map, List.flatMap_map,
      List.flatMap_map])
  obtain ⟨skipped, executed, results, errors⟩ := Contribution.mk.inj lists
  refine ⟨?_, Registry.names_ascending registry tree, skipped, executed, results, errors, ?_,
    fun n reason => RunContext.contribution_of_skip,
    fun n c => RunContext.contribution_of_config rfl, ?_⟩
  · rw [Run.all?, Registry.names?_eq]
    cases FileError.ofName? registry.directory.text <;> rfl
  · have length := x.length_concat names
    rw [← account] at length
    exact length
  · intro named changed tree' same
    refine ⟨?_, Registry.names_of_sameBut same, Registry.answers_of_sameBut same,
      Registry.names_of_silent⟩
    intro n listed other
    exact RunContext.contribution_congr (Registry.load?_of_sameBut named same listed other)

/-! A store with a document for a sheet of the book, one that declares nothing, and one for an
    absent sheet; then the second is damaged. Under a path that leaves room for the names of these,
    a fourth document with a longer name takes all away. -/

def sampleBook : Workbook := ⟨[⟨"Rules", []⟩]⟩

def sampleStore : FileTree where
  entries := [(["home"], .directory), (["home", "macros"], .directory),
    (["home", "macros", "Alpha.md"], .file (.text "Const gcsXLSheet = \"Rules\"")),
    (["home", "macros", "Beta.md"], .file (.text "")),
    (["home", "macros", "Gamma.md"], .file (.text "Const gcsXLSheet = \"Other\""))]
  workingDirectory := ["home"]

def damagedStore : FileTree :=
  sampleStore.put ["home", "macros", "Beta.md"] (.file (.bytes [0xFF]))

def crowdedStore : FileTree :=
  sampleStore.put ["home", "macros", "Longer.md"] (.file (.text ""))

def sampleContext (tree : FileTree) : RunContext :=
  ⟨.ofSettings {}, tree, sampleBook, some "R2", {}, "T"⟩

theorem run_per_definition_sample :
    sampleStore.Named ∧
    sampleStore.SameBut damagedStore ((Registry.ofSettings {}).place sampleStore "Beta") ∧
    (Registry.ofSettings {}).names sampleStore = ["Alpha", "Beta", "Gamma"] ∧
    (Run.all (sampleContext sampleStore)).result.executed = ["Alpha"] ∧
    (Run.all (sampleContext sampleStore)).result.skipped =
      ["Beta (no target sheet configured)", "Gamma (sheet not found: \"Other\")"] ∧
    (Run.all (sampleContext sampleStore)).errors =
      [⟨"T", "Alpha", "Rules", "", "MACRO_EXECUTION_ERROR",
        "no output file template configured"⟩] ∧
    ((sampleContext damagedStore).contribution "Beta").skipped =
      ["Beta (definition not found)"] ∧
    (sampleContext damagedStore).contribution "Alpha" =
      (sampleContext sampleStore).contribution "Alpha" ∧
    sampleStore.SameBut crowdedStore (Registry.roundabout.place sampleStore "Longer") ∧
    "Alpha" ∈ Registry.roundabout.names sampleStore ∧
    Registry.roundabout.names crowdedStore = [] := by
  have named : sampleStore.Named := FileTree.named_of_entries (by decide)
  have same : sampleStore.SameBut damagedStore
      ((Registry.ofSettings {}).place sampleStore "Beta") :=
    FileTree.sameBut_put (by decide) (by decide)
  have names : (Registry.ofSettings {}).names sampleStore = ["Alpha", "Beta", "Gamma"] := by
    decide +kernel
  obtain ⟨_, _, skipped, executed, _, errors, _, _, _, others⟩ :=
    run_per_definition (.ofSettings {}) sampleStore sampleBook "R2" {} "T"
  obtain ⟨kept, _⟩ := others named "Beta" damagedStore same
  obtain ⟨there, store, room⟩ := Registry.roundabout_fits_iff (t := sampleStore) rfl (by decide)
    (by decide)
  obtain ⟨there', store', room'⟩ := Registry.roundabout_fits_iff (t := crowdedStore) rfl
    (by decide +kernel) (by decide +kernel)
  have sound : sampleStore.Sound := FileTree.sound_of_entries (by decide +kernel)
  have sound' : crowdedStore.Sound := FileTree.sound_of_entries (by decide +kernel)
  have fits : Registry.roundabout.Fits sampleStore := by
    apply room.mpr
    intro entry present
    obtain ⟨e, member, at_entry⟩ := (FileTree.node?_isSome (by simp)).mp present
    simp only [sampleStore, List.mem_cons, List.not_mem_nil, or_false] at member
    rcases member with rfl | rfl | rfl | rfl | rfl <;> cases at_entry <;> decide
  have silent : ¬ Registry.roundabout.Answers crowdedStore := by
    rw [Registry.answers_iff sound' there', room']
    exact fun each => absurd (each "Longer.md" (by decide +kernel)) (by decide)
  have place : Registry.roundabout.place sampleStore "Longer" = ["home", "macros", "Longer.md"] := by
    rw [Registry.place, store]
    rfl
  have crowded : sampleStore.SameBut crowdedStore
      (Registry.roundabout.place sampleStore "Longer") :=
    place ▸ FileTree.sameBut_put (by decide) (by decide)
  obtain ⟨_, _, _, _, _, _, _, _, _, others'⟩ :=
    run_per_definition Registry.roundabout sampleStore sampleBook "R2" {} "T"
  refine ⟨named, same, names, executed.trans ?_, skipped.trans ?_, errors.trans ?_,
    by decide +kernel, kept "Alpha" ?_ (by decide), crowded, ?_,
    (others' named "Longer" crowdedStore crowded).2.2.2 silent⟩
  · decide +kernel
  · decide +kernel
  · decide +kernel
  · rw [names]
    decide
  · rw [Registry.mem_names_iff sound there fits, Registry.place, store]
    exact ⟨⟨_, rfl⟩, Path.splitName_eq_iff.mp (by decide), fun _ none => absurd none List.not_mem_nil⟩

end Rulesheet
