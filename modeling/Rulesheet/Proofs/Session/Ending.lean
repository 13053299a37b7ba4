import Rulesheet.Proofs.Output.Completion
import Rulesheet.Proofs.Session.Accounts

/- How a session ends that comes to process a workbook. If nothing is in the way of its documents and
   the records of its failures have bytes, it flushes its error log, logs its summary as the last line
   and ends with an exit code. Otherwise a failure escapes and there is no summary: one of the writing,
   and then the failures of the run are written nowhere, or one of the flush, which stops at the first
   record that cannot be written. -/
namespace Rulesheet.Session

variable {argv : List String} {e : Environment} {t : FileTree} {m : Moment} {a : Arguments}
  {s : Settings} {name : String} {book : Workbook}

/-- Nothing is in the way of the documents, which a dry session does not write, and behind them
    nothing of the records. -/
structure Unhindered (t : FileTree) (a : Arguments) (s : Settings) (stamp : String) (ran : Run) :
    Prop where
  documents : a.dryRun = true ∨ Writing.Unobstructed t (outputDirectory a s) ran.result.results
  records : ErrorLog.Loggable (writing t a s ran.result.results).tree stamp ran.errors

theorem writing_done_iff (grounded : t.Grounded) (plain : ".." ∉ t.workingDirectory)
    (a : Arguments) (s : Settings) (results : List MacroResult) :
    (writing t a s results).error = none ↔
      (a.dryRun = true ∨ Writing.Unobstructed t (outputDirectory a s) results) := by
  unfold writing
  cases dry : a.dryRun with
  | true => exact iff_of_true rfl (.inl rfl)
  | false =>
    simp only [Bool.false_eq_true, if_false, false_or]
    exact Writing.all_done_iff grounded plain _ results

theorem flushes_writing (grounded : t.Grounded) (plain : ".." ∉ t.workingDirectory)
    (m : Moment) (a : Arguments) (s : Settings) (ran : Run) :
    let w := writing t a s ran.result.results
    ErrorLog.Flushes w.tree m.stamp ran.errors (flushing ran w m).tree
      (flushing ran w m).outcome := by
  have grows := grows_writing plain a s m.stamp ran.result.results
  exact ErrorLog.flushes (grows.grounded grounded) m.stamp _

theorem completes_iff (grounded : t.Grounded) (plain : ".." ∉ t.workingDirectory)
    (m : Moment) (a : Arguments) (s : Settings) (ran : Run) :
    (∃ entries, Completes t m a s ran entries) ↔ Unhindered t a s m.stamp ran := by
  have loggable := (flushes_writing grounded plain m a s ran).loggable_iff
  constructor
  · rintro ⟨entries, done, recorded⟩
    refine ⟨(writing_done_iff grounded plain a s _).mp done, loggable.mp ?_⟩
    intro fault failed
    by_contra uncaught
    have lost := recordedEntries_eq_error.mpr ⟨failed, by simpa using uncaught⟩
    cases lost.symm.trans recorded
  · rintro ⟨documents, records⟩
    have done := (writing_done_iff grounded plain a s _).mpr documents
    cases recorded :
        recordedEntries (flushing ran (writing t a s ran.result.results) m).outcome with
    | ok entries => exact ⟨entries, done, recorded⟩
    | error fault =>
      obtain ⟨failed, uncaught⟩ := recordedEntries_eq_error.mp recorded
      cases uncaught.symm.trans (loggable.mpr records fault failed)

structure Finishes (x : RunContext) (a : Arguments) (stamp : String) (lines : List OutputLine)
    (report : Report) : Prop where
  records : (Run.all x).errors.length = (Run.all x).result.failures.length
  written : Text.cut '\n' (ErrorLog.written (Run.all x).errors) =
    (Run.all x).errors.map ErrorRecord.jsonLine ++ [""]
  flushed : ∃ outcome entries,
    ErrorLog.Flushes (writing x.tree a x.settings (Run.all x).result.results).tree stamp
      (Run.all x).errors report.tree outcome ∧
    recordedEntries outcome = .ok entries ∧ ∀ entry ∈ entries, .entry entry ∈ lines
  summary : lines.getLast? =
    some (.entry ⟨Level.summary, (Run.all x).result.summary x.names.length⟩)
  ends : report.ending = .exit 0 ∨ report.ending = .exit 2

/-- Where a session breaks off: the writing leaves its tree, or the flush ends in a failure that is
    none of the system's. -/
inductive Breaking (x : RunContext) (a : Arguments) (stamp : String) (report : Report) : Prop where
  | writing
    (stopped : (writing x.tree a x.settings (Run.all x).result.results).error ≠ none)
    (unflushed : report.tree = (writing x.tree a x.settings (Run.all x).result.results).tree)
  | flush {fault : FileError}
    (done : (writing x.tree a x.settings (Run.all x).result.results).error = none)
    (uncaught : fault.isFault = false)
    (lost : ErrorLog.Flushes (writing x.tree a x.settings (Run.all x).result.results).tree stamp
      (Run.all x).errors report.tree (.error fault))

structure Breaks (x : RunContext) (a : Arguments) (stamp : String) (lines : List OutputLine)
    (report : Report) : Prop where
  escapes : ∃ fault, report.ending = .escaped (.file fault)
  breaking : Breaking x a stamp report
  unsummed : ∀ text, .entry ⟨Level.summary, text⟩ ∉ lines

theorem finishes_of_completes (grounded : t.Grounded) (plain : ".." ∉ t.workingDirectory)
    (reaches : Reaches argv e t a s name book) {entries : List LogEntry}
    (completes : Completes t m a s (work t m a s book) entries) :
    Finishes (context t m a s book) a m.stamp (logged argv e t m) (run argv e t m) := by
  have ran := run_of_reaches (m := m) reaches
  rw [conclusion, conclude_of_completes completes] at ran
  have logs := (logged_of_reaches (m := m) reaches).trans (lines_of_completes completes)
  have flushed := flushes_writing grounded plain m a s (work t m a s book)
  have reported : ∀ entry ∈ entries, .entry entry ∈ logged argv e t m := by
    intro entry recorded
    rw [logs]
    exact List.mem_append_left _ (List.mem_append_right _ (List.mem_map_of_mem recorded))
  have ends : (run argv e t m).ending = .exit 0 ∨ (run argv e t m).ending = .exit 2 := by
    rw [ran, exitCode_of_done completes.done]
    split
    · exact .inr rfl
    · exact .inl rfl
  refine ⟨Run.length_errors _, ErrorLog.cut_written _,
    ⟨_, entries, ran ▸ flushed, completes.recorded, reported⟩, ?_, ends⟩
  rw [logs]
  exact List.getLast?_concat

theorem breaks_of_fault (reaches : Reaches argv e t a s name book) {fault : FileError}
    (stopped : (writing t a s (work t m a s book).result.results).error = some fault) :
    Breaks (context t m a s book) a m.stamp (logged argv e t m) (run argv e t m) := by
  have ran := run_of_reaches (m := m) reaches
  rw [conclusion, conclude_of_fault stopped] at ran
  have logs := (logged_of_reaches (m := m) reaches).trans (lines_of_fault stopped)
  rw [logs, ran]
  exact ⟨⟨fault, rfl⟩, .writing (Option.ne_none_iff_exists'.mpr ⟨fault, stopped⟩) rfl,
    fun text summed => level_ne_begun summed rfl⟩

theorem breaks_of_lost (grounded : t.Grounded) (plain : ".." ∉ t.workingDirectory)
    (reaches : Reaches argv e t a s name book) {fault : FileError}
    (done : (writing t a s (work t m a s book).result.results).error = none)
    (lost : recordedEntries (flushing (work t m a s book)
      (writing t a s (work t m a s book).result.results) m).outcome = .error fault) :
    Breaks (context t m a s book) a m.stamp (logged argv e t m) (run argv e t m) := by
  have ran := run_of_reaches (m := m) reaches
  rw [conclusion, conclude_of_lost done lost] at ran
  have logs := (logged_of_reaches (m := m) reaches).trans (lines_of_lost done lost)
  have flushed := flushes_writing grounded plain m a s (work t m a s book)
  obtain ⟨failed, uncaught⟩ := recordedEntries_eq_error.mp lost
  rw [logs, ran]
  exact ⟨⟨fault, rfl⟩, .flush done uncaught (failed ▸ flushed),
    fun text summed => level_ne_sayings summed rfl⟩

/-- A session that comes to process a workbook finishes exactly if nothing is in the way of its
    documents and of the records of its failures. Then the records, one for each failure, stand in the
    error log a line each, or the log cannot be written and a warning says so. -/
theorem run_ends (grounded : t.Grounded) (plain : ".." ∉ t.workingDirectory)
    (reaches : Reaches argv e t a s name book) (m : Moment) :
    let x := context t m a s book
    let free := Unhindered t a s m.stamp (Run.all x)
    (run argv e t m).output = shown (threshold a) (logged argv e t m) ∧
    (free → Finishes x a m.stamp (logged argv e t m) (run argv e t m)) ∧
    (¬ free → Breaks x a m.stamp (logged argv e t m) (run argv e t m)) := by
  intro x free
  have exact_free : (∃ entries, Completes t m a s (work t m a s book) entries) ↔ free :=
    completes_iff grounded plain m a s _
  rw [← exact_free]
  refine ⟨output_of_parsed reaches.parsed e t m, ?_, ?_⟩
  · rintro ⟨entries, completes⟩
    exact finishes_of_completes grounded plain reaches completes
  · intro broken
    obtain ⟨fault, stopped⟩ | ⟨fault, done, lost⟩ | completes :=
      writing_cases t m a s (work t m a s book)
    · exact breaks_of_fault reaches stopped
    · exact breaks_of_lost grounded plain reaches done lost
    · exact absurd completes broken

/-! A store with a definition that fails for want of a file template: alone, with a file in the place
    of the output directory, and with the same definition in a file whose name has no bytes. -/

def failingDefinition : Node := .file (.text "Const gcsXLSheet As String = \"Rules\"\n")

def freeStore : FileTree where
  entries := [(["home"], .directory), (["home", "macros"], .directory),
    (["home", "macros", "Broken.md"], failingDefinition),
    (["home", "book.xlsx"], .file (.workbook [⟨"Rules", []⟩]))]
  workingDirectory := ["home"]

def blockedStore : FileTree := freeStore.put ["home", "out"] (.file (.text "a file\n"))

def unnamableStore : FileTree :=
  freeStore.put ["home", "macros", String.singleton (Text.ofSurrogate 0xDCFF) ++ ".md"]
    failingDefinition

def releaseArguments : Arguments := { workbook := some "book.xlsx", release := .value "R2" }

theorem parse_release :
    CommandLine.parse ["book.xlsx", "--release", "R2"] = .run releaseArguments := by
  decide +kernel

theorem reaches_release {t : FileTree}
    (configured : settings t (environment t {}).1 .leftOut = .ok {})
    (registered : t.isDirectory? (Registry.ofSettings {}).directory = .ok true)
    (stands : t.exists? (.ofString "book.xlsx") = .ok true)
    (readable : t.readWorkbook (.ofString "book.xlsx") none = .ok sampleBook) :
    Reaches ["book.xlsx", "--release", "R2"] {} t releaseArguments {} "book.xlsx" sampleBook where
  parsed := parse_release
  configured := configured
  registered := registered
  processing := rfl
  given := rfl
  named := by decide
  stands := stands
  readable := readable

theorem run_ends_sample :
    let argv := ["book.xlsx", "--release", "R2"]
    let m : Moment := ⟨"T", "S"⟩
    let blocked := context blockedStore m releaseArguments {} sampleBook
    let unnamable := context unnamableStore m releaseArguments {} sampleBook
    let free := context freeStore m releaseArguments {} sampleBook
    (blockedStore.Grounded ∧ ".." ∉ blockedStore.workingDirectory ∧
      Reaches argv {} blockedStore releaseArguments {} "book.xlsx" sampleBook ∧
      ¬ Unhindered blockedStore releaseArguments {} "S" (Run.all blocked) ∧
      (Run.all blocked).errors = [⟨"T", "Broken", "Rules", "", "MACRO_EXECUTION_ERROR",
        "no output file template configured"⟩] ∧
      (run argv {} blockedStore m).tree = blockedStore ∧
      Breaks blocked releaseArguments "S" (logged argv {} blockedStore m)
        (run argv {} blockedStore m)) ∧
    (unnamableStore.Grounded ∧ ".." ∉ unnamableStore.workingDirectory ∧
      Reaches argv {} unnamableStore releaseArguments {} "book.xlsx" sampleBook ∧
      ¬ Unhindered unnamableStore releaseArguments {} "S" (Run.all unnamable) ∧
      (run argv {} unnamableStore m).tree.node? ["home", "logs", "errors-S.log"] = some (.file
        (.text (ErrorLog.written ((Run.all unnamable).errors.take 1)))) ∧
      Breaks unnamable releaseArguments "S" (logged argv {} unnamableStore m)
        (run argv {} unnamableStore m)) ∧
    freeStore.Grounded ∧ ".." ∉ freeStore.workingDirectory ∧
      Reaches argv {} freeStore releaseArguments {} "book.xlsx" sampleBook ∧
      Unhindered freeStore releaseArguments {} "S" (Run.all free) ∧
      Finishes free releaseArguments "S" (logged argv {} freeStore m) (run argv {} freeStore m) := by
  intro argv m blocked unnamable free
  have grounded : blockedStore.Grounded := by decide
  have plain : ".." ∉ blockedStore.workingDirectory := by decide
  have grounded' : unnamableStore.Grounded := by decide +kernel
  have plain' : ".." ∉ unnamableStore.workingDirectory := by decide
  have grounded'' : freeStore.Grounded := by decide
  have plain'' : ".." ∉ freeStore.workingDirectory := by decide
  have reaches : Reaches argv {} blockedStore releaseArguments {} "book.xlsx" sampleBook :=
    reaches_release rfl rfl rfl rfl
  have reaches' : Reaches argv {} unnamableStore releaseArguments {} "book.xlsx" sampleBook :=
    reaches_release rfl rfl rfl rfl
  have reaches'' : Reaches argv {} freeStore releaseArguments {} "book.xlsx" sampleBook :=
    reaches_release rfl rfl rfl rfl
  have ends : ((run argv {} blockedStore m).ending ≠ .exit 0 ∧
        (run argv {} blockedStore m).ending ≠ .exit 2) ∧
      ((run argv {} unnamableStore m).ending ≠ .exit 0 ∧
        (run argv {} unnamableStore m).ending ≠ .exit 2) ∧
      (run argv {} freeStore m).ending = .exit 2 := by decide +kernel
  have facts : (Run.all blocked).errors = [⟨"T", "Broken", "Rules", "", "MACRO_EXECUTION_ERROR",
        "no output file template configured"⟩] ∧
      (run argv {} blockedStore m).tree = blockedStore ∧
      (run argv {} unnamableStore m).tree.node? ["home", "logs", "errors-S.log"] = some (.file
        (.text (ErrorLog.written ((Run.all unnamable).errors.take 1)))) := by
    decide +kernel
  obtain ⟨escaped, escaped', ended⟩ := ends
  obtain ⟨errors, tree, half⟩ := facts
  obtain ⟨_, finishes, breaks⟩ := run_ends grounded plain reaches m
  obtain ⟨_, finishes', breaks'⟩ := run_ends grounded' plain' reaches' m
  obtain ⟨_, finishes'', breaks''⟩ := run_ends grounded'' plain'' reaches'' m
  have hindered : ¬ Unhindered blockedStore releaseArguments {} "S" (Run.all blocked) :=
    fun free => (finishes free).ends.elim escaped.1 escaped.2
  have hindered' : ¬ Unhindered unnamableStore releaseArguments {} "S" (Run.all unnamable) :=
    fun free => (finishes' free).ends.elim escaped'.1 escaped'.2
  have unhindered : Unhindered freeStore releaseArguments {} "S" (Run.all free) := by
    by_contra hindered
    obtain ⟨fault, escapes⟩ := (breaks'' hindered).escapes
    cases ended.symm.trans escapes
  exact ⟨⟨grounded, plain, reaches, hindered, errors, tree, breaks hindered⟩,
    ⟨grounded', plain', reaches', hindered', half, breaks' hindered'⟩,
    grounded'', plain'', reaches'', unhindered, finishes'' unhindered⟩

end Rulesheet.Session
