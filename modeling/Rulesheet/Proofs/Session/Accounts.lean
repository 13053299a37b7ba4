import Rulesheet.Proofs.Session.Announcements

/- What the summary of a session counts. The numbers come from the run, from the writing and from
   the registry; a session that announces them has gone through every registered name, recorded
   every failure and written or refused every document. -/
namespace Rulesheet.Session

variable {argv : List String} {e : Environment} {t : FileTree} {m : Moment} {a : Arguments}
  {s : Settings} {name : String} {book : Workbook}

/-- The successes whose names lead out of the output directory, and the others. A dry session
    looks at none. -/
def refused (t : FileTree) (a : Arguments) (s : Settings) (results : List MacroResult) :
    List MacroResult :=
  if a.dryRun then [] else Writing.astray t.workingDirectory (outputDirectory a s) results

def accepted (t : FileTree) (a : Arguments) (s : Settings) (results : List MacroResult) :
    List MacroResult :=
  if a.dryRun then [] else (results.filter MacroResult.success).filter
    fun r => !Writing.isAstray t.workingDirectory (outputDirectory a s) r

theorem length_accepted (wet : a.dryRun = false) (t : FileTree) (s : Settings)
    (results : List MacroResult) :
    (accepted t a s results).length + (refused t a s results).length =
      (results.filter MacroResult.success).length := by
  have split := List.length_eq_length_filter_add (l := results.filter MacroResult.success)
    (Writing.isAstray t.workingDirectory (outputDirectory a s))
  simp only [accepted, refused, wet, Writing.astray, Bool.false_eq_true, if_false]
  omega

theorem writing_of_done {results : List MacroResult}
    (done : (writing t a s results).error = none) :
    (writing t a s results).refused = (refused t a s results).length ∧
      (writing t a s results).written = (accepted t a s results).map
        (fun r => outputDirectory a s ++ .ofString r.fileName) ∧
      (writing t a s results).errors =
        (refused t a s results).map (Writing.refusal (outputDirectory a s)) := by
  unfold writing refused accepted at *
  cases dry : a.dryRun with
  | true => exact ⟨rfl, rfl, rfl⟩
  | false =>
    simp only [dry, Bool.false_eq_true, if_false] at done ⊢
    obtain ⟨account, _⟩ := Writing.account_all done
    obtain ⟨counted, errors⟩ := Writing.refused_of_account done
    exact ⟨counted, account.written.trans (List.nil_append _), errors⟩

/-- What a summary says, against the run, the announcements and the end of the session. -/
structure Accounts (x : RunContext) (a : Arguments) (lines : List OutputLine) (text : String)
    (ending : Ending) : Prop where
  summary : text = (Run.all x).result.summary x.names.length
  names : (Run.all x).result.executed.length + (Run.all x).result.skipped.length = x.names.length
  results : (Run.all x).result.successes.length + (Run.all x).result.failures.length =
    (Run.all x).result.results.length
  records : (Run.all x).errors.length = (Run.all x).result.failures.length
  skips : announced skipTopic lines = (x.names.filterMap x.skip?).map (skipTopic ++ ·)
  wrote : announced writeTopic lines = (accepted x.tree a x.settings (Run.all x).result.results).map
    fun r => writeTopic ++ (outputDirectory a x.settings ++ Path.ofString r.fileName).text
  refusals : ∀ r ∈ refused x.tree a x.settings (Run.all x).result.results,
    .entry (Writing.refusal (outputDirectory a x.settings) r) ∈ lines
  documents : a.dryRun = false → (announced writeTopic lines).length +
    (refused x.tree a x.settings (Run.all x).result.results).length =
      (Run.all x).result.successes.length
  dry : a.dryRun = true → announced writeTopic lines = [] ∧
    refused x.tree a x.settings (Run.all x).result.results = []
  ends : ending = .exit (if 0 < (Run.all x).result.failures.length ∨
    0 < (refused x.tree a x.settings (Run.all x).result.results).length then 2 else 0)

theorem exitCode_of_done {run : Run}
    (done : (writing t a s run.result.results).error = none) :
    exitCode run (writing t a s run.result.results) =
      if 0 < run.result.failures.length ∨ 0 < (refused t a s run.result.results).length
        then 2 else 0 := by
  obtain ⟨counted, _⟩ := writing_of_done done
  unfold exitCode
  rw [counted]
  by_cases failed : run.result.failures = []
  · simp [failed, success, partialFailure]
  · have some : 0 < run.result.failures.length := List.length_pos_iff.mpr failed
    simp [failed, some, partialFailure]

section Completes

variable {entries : List LogEntry} (completes : Completes t m a s (work t m a s book) entries)
include completes

theorem wrote_of_completes :
    announced writeTopic (conclusion t e m a s name book).lines =
      (accepted t a s (work t m a s book).result.results).map
        fun r => writeTopic ++ (outputDirectory a s ++ Path.ofString r.fileName).text := by
  obtain ⟨_, written, _⟩ := writing_of_done completes.done
  rw [writes_of_completes completes, written, List.map_map, Function.comp_def]

theorem refusals_of_completes :
    ∀ r ∈ refused t a s (work t m a s book).result.results,
      .entry (Writing.refusal (outputDirectory a s) r) ∈
        (conclusion t e m a s name book).lines := by
  obtain ⟨_, _, errors⟩ := writing_of_done completes.done
  intro r refusal
  have error : Writing.refusal (outputDirectory a s) r ∈
      (writing t a s (work t m a s book).result.results).errors := by
    rw [errors]
    exact List.mem_map_of_mem refusal
  have said : .entry (Writing.refusal (outputDirectory a s) r) ∈ entryLines
      (writing t a s (work t m a s book).result.results).entries :=
    List.mem_map_of_mem (List.mem_filter.mp error).1
  rw [lines_of_completes completes, sayings, begun]
  simp only [List.mem_append]
  exact .inl (.inl (.inl (.inr said)))

theorem ending_of_completes :
    (conclusion t e m a s name book).ending = .exit
      (if 0 < (work t m a s book).result.failures.length ∨
        0 < (refused t a s (work t m a s book).result.results).length then 2 else 0) := by
  rw [conclusion, conclude_of_completes completes]
  exact congrArg Ending.exit (exitCode_of_done completes.done)

theorem accounts_of_completes :
    Accounts (context t m a s book) a (conclusion t e m a s name book).lines
      ((work t m a s book).result.summary (context t m a s book).names.length)
      (conclusion t e m a s name book).ending := by
  have wrote : announced writeTopic (conclusion t e m a s name book).lines = _ :=
    wrote_of_completes completes
  have skips : announced skipTopic (conclusion t e m a s name book).lines = _ :=
    skips_of_completes completes
  rw [work, Run.skipped_all] at skips
  refine ⟨rfl, Run.length_all _, RunResult.length_results _, Run.length_errors _, skips, wrote,
    refusals_of_completes completes, ?_, ?_, ending_of_completes completes⟩
  · intro wet
    rw [wrote, List.length_map]
    exact length_accepted wet t s _
  · intro dry
    rw [wrote]
    simp [accepted, refused, dry]

end Completes

def logged (argv : List String) (e : Environment) (t : FileTree) (m : Moment) :
    List OutputLine :=
  match CommandLine.parse argv with
  | .run a => (start t e m a).lines
  | _ => []

theorem logged_of_reaches (reaches : Reaches argv e t a s name book) :
    logged argv e t m = (conclusion t e m a s name book).lines := by
  rw [logged, reaches.parsed, ← start_of_reaches reaches]

theorem output_of_parsed (parsed : CommandLine.parse argv = .run a) (e : Environment)
    (t : FileTree) (m : Moment) :
    (run argv e t m).output = shown (threshold a) (logged argv e t m) := by
  simp only [run, logged, parsed]

theorem logged_of_not_reaches (short : ∀ a s name book, ¬ Reaches argv e t a s name book) :
    ∀ line ∈ logged argv e t m, IsAside line := by
  unfold logged
  split
  · rename_i a parsed
    exact (start_idle parsed (short a)).asides
  · exact fun _ member => absurd member List.not_mem_nil

/-- A session that logs a summary has come to process a workbook, and its writing has come to its
    end. The skips and the executions that it counts are all names of the registry, its documents
    and failures all results of the run, and the error log has a record for each failure. It has
    announced the skipped names in the order of the registry, and has written or refused each
    document unless it is dry. It ends with 2 if there are failures or refusals, and with 0
    otherwise. -/
theorem run_accounts {text : String}
    (summed : .entry ⟨Level.summary, text⟩ ∈ logged argv e t m) :
    ∃ a s name book, Reaches argv e t a s name book ∧
      (run argv e t m).output = shown (threshold a) (logged argv e t m) ∧
      Accounts (context t m a s book) a (logged argv e t m) text (run argv e t m).ending := by
  by_cases reach : ∃ a s name book, Reaches argv e t a s name book
  · obtain ⟨a, s, name, book, reaches⟩ := reach
    have ran := run_of_reaches (m := m) reaches
    refine ⟨a, s, name, book, reaches, output_of_parsed reaches.parsed e t m, ?_⟩
    rw [logged_of_reaches reaches] at summed ⊢
    obtain ⟨entries, completes, rfl⟩ := completes_of_summary summed
    rw [ran]
    exact accounts_of_completes completes
  · simp only [not_exists] at reach
    have aside : LogEntry.IsAside ⟨Level.summary, text⟩ := logged_of_not_reaches reach _ summed
    exact absurd rfl aside.level_ne.2

/-! A store with a definition whose document is to stand beside the output directory, one without
    a file template, one for a document and one without a target. -/

def mixedStore : FileTree where
  entries := [(["home"], .directory), (["home", "macros"], .directory),
    (["home", "macros", "Escape.md"], .file (.text
      "Const gcsXLSheet = \"Rules\"\nConst gcsOutFile = \"../escape%\"")),
    (["home", "macros", "Failing.md"], .file (.text "Const gcsXLSheet = \"Rules\"")),
    (["home", "macros", "Plain.md"], .file (.text
      "Const gcsXLSheet = \"Rules\"\nConst gcsOutFile = \"plain%\"")),
    (["home", "macros", "Untargeted.md"], .file (.text "")),
    (["home", "book.xlsx"], .file (.workbook [⟨"Rules", []⟩]))]
  workingDirectory := ["home"]

theorem run_accounts_sample :
    .entry ⟨Level.summary, "macros=3/4 skipped=1 documents=2 failed=1"⟩ ∈
      logged ["book.xlsx"] {} mixedStore ⟨"T", "S"⟩ ∧
    announced skipTopic (logged ["book.xlsx"] {} mixedStore ⟨"T", "S"⟩) =
      ["skipped: Untargeted (no target sheet configured)"] ∧
    announced writeTopic (logged ["book.xlsx"] {} mixedStore ⟨"T", "S"⟩) =
      ["wrote out/plain.xml"] ∧
    (run ["book.xlsx"] {} mixedStore ⟨"T", "S"⟩).ending = .exit 2 ∧
    ∃ a s name book, Reaches ["book.xlsx"] {} mixedStore a s name book ∧
      (run ["book.xlsx"] {} mixedStore ⟨"T", "S"⟩).output =
        shown (threshold a) (logged ["book.xlsx"] {} mixedStore ⟨"T", "S"⟩) ∧
      Accounts (context mixedStore ⟨"T", "S"⟩ a s book) a
        (logged ["book.xlsx"] {} mixedStore ⟨"T", "S"⟩)
        "macros=3/4 skipped=1 documents=2 failed=1"
        (run ["book.xlsx"] {} mixedStore ⟨"T", "S"⟩).ending := by
  have facts : .entry ⟨Level.summary, "macros=3/4 skipped=1 documents=2 failed=1"⟩ ∈
        logged ["book.xlsx"] {} mixedStore ⟨"T", "S"⟩ ∧
      announced skipTopic (logged ["book.xlsx"] {} mixedStore ⟨"T", "S"⟩) =
        ["skipped: Untargeted (no target sheet configured)"] ∧
      announced writeTopic (logged ["book.xlsx"] {} mixedStore ⟨"T", "S"⟩) =
        ["wrote out/plain.xml"] ∧
      (run ["book.xlsx"] {} mixedStore ⟨"T", "S"⟩).ending = .exit 2 := by decide +kernel
  obtain ⟨summed, skips, wrote, ended⟩ := facts
  exact ⟨summed, skips, wrote, ended, run_accounts summed⟩

end Rulesheet.Session
