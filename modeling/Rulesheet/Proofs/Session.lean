import Rulesheet.Proofs.ErrorLog
import Rulesheet.Proofs.Log
import Rulesheet.Proofs.Output
import Rulesheet.Session

/- What a session changes in the file tree. A session that does not come to process a workbook
   changes nothing. One that does writes its documents, unless it is dry, and then its error log;
   both stay where they belong, whatever the definitions, the workbook and the settings say. -/
namespace Rulesheet

namespace Session

/-- A session that comes to process a workbook, with its arguments, settings and workbook. -/
structure Reaches (argv : List String) (e : Environment) (t : FileTree) (a : Arguments)
    (s : Settings) (name : String) (book : Workbook) : Prop where
  parsed : CommandLine.parse argv = .run a
  configured : settings t (environment t e).1 a.config = .ok s
  registered : t.isDirectory? (Registry.ofSettings s).directory = .ok true
  processing : a.listMacros = false
  given : a.workbook = some name
  named : name ≠ ""
  stands : t.exists? (.ofString name) = .ok true
  readable : t.readWorkbook (.ofString name) none = .ok book

def outputDirectory (a : Arguments) (s : Settings) : Path :=
  a.outputDirectory.value?.getD (.ofString s.outputDirectory)

def context (t : FileTree) (m : Moment) (a : Arguments) (s : Settings) (book : Workbook) :
    RunContext :=
  ⟨Registry.ofSettings s, t, book, a.release?, s, m.timestamp⟩

def work (t : FileTree) (m : Moment) (a : Arguments) (s : Settings) (book : Workbook) : Run :=
  Run.all (context t m a s book)

variable {argv : List String} {e : Environment} {t : FileTree} {m : Moment} {a : Arguments}
  {s : Settings} {name : String} {book : Workbook}

def preamble (t : FileTree) (e : Environment) (a : Arguments) : List OutputLine :=
  (environment t e).2 ++ (if a.debug then [.entry (.debug "debug mode enabled")] else [])

def openingEntries (t : FileTree) (a : Arguments) (s : Settings) (name : String) :
    List LogEntry :=
  .info ("Processing workbook: " ++ (Path.ofString name).name ++ " release=" ++
    (a.release?.filter (· ≠ "")).getD "-") :: (Registry.ofSettings s).listingEntries t

def opening (t : FileTree) (e : Environment) (a : Arguments) (s : Settings) (name : String) :
    List OutputLine :=
  preamble t e a ++ entryLines (openingEntries t a s name)

theorem process_of_book (stands : t.exists? (.ofString name) = .ok true)
    (readable : t.readWorkbook (.ofString name) none = .ok book) (lines : List OutputLine) :
    process t a s m (.ofString name) lines =
      conclude t a s m ((Registry.ofSettings s).names t).length (work t m a s book)
        (lines ++ entryLines (openingEntries t a s name)) := by
  unfold process
  simp only [stands, readable]
  rfl

def conclusion (t : FileTree) (e : Environment) (m : Moment) (a : Arguments) (s : Settings)
    (name : String) (book : Workbook) : Session :=
  conclude t a s m ((Registry.ofSettings s).names t).length (work t m a s book)
    (opening t e a s name)

theorem start_of_reaches (reaches : Reaches argv e t a s name book) :
    start t e m a = conclusion t e m a s name book := by
  unfold start
  simp only [reaches.configured, reaches.registered, reaches.processing, reaches.given,
    Bool.false_eq_true, if_false]
  split
  · rename_i none
    cases none
  · rename_i empty
    exact absurd (Option.some.inj empty) reaches.named
  · rename_i given
    cases given
    exact process_of_book reaches.stands reaches.readable _

theorem run_of_reaches (reaches : Reaches argv e t a s name book) :
    let session := conclusion t e m a s name book
    run argv e t m = ⟨session.tree, shown (threshold a) session.lines, session.errorText,
      session.ending⟩ := by
  unfold run
  simp only [reaches.parsed, start_of_reaches reaches]

/-! A session that does not come to process a workbook. -/

def IsAside : OutputLine → Prop
  | .raw _ => True
  | .entry entry => entry.IsAside

structure Idle (t : FileTree) (session : Session) : Prop where
  tree : session.tree = t
  asides : ∀ line ∈ session.lines, IsAside line

theorem asides_preamble (t : FileTree) (e : Environment) (a : Arguments) :
    ∀ line ∈ preamble t e a, IsAside line := by
  refine List.forall_mem_append.mpr ⟨?_, ?_⟩
  · unfold environment environmentWarning
    split
    · simp
    · split
      · split <;> simp [IsAside]
      · simp [IsAside]
      · simp
  · split
    · simp [IsAside, LogEntry.aside_debug]
    · simp

theorem idle_stop {before : List OutputLine} (asides : ∀ line ∈ before, IsAside line)
    (message : String) : Idle t ⟨t, before ++ [.entry (.error message)], none, .exit fatal⟩ where
  tree := rfl
  asides := List.forall_mem_append.mpr ⟨asides, by simp [IsAside, LogEntry.aside_error]⟩

theorem process_idle {lines : List OutputLine} (asides : ∀ line ∈ lines, IsAside line)
    (unread : ∀ book, ¬ (t.exists? (.ofString name) = .ok true ∧
      t.readWorkbook (.ofString name) none = .ok book)) :
    Idle t (process t a s m (.ofString name) lines) := by
  unfold process
  dsimp only
  split
  · exact ⟨rfl, asides⟩
  · exact idle_stop asides _
  · rename_i stands
    split
    · exact idle_stop asides _
    · rename_i book readable
      exact absurd ⟨stands, readable⟩ (unread book)

theorem start_idle (parsed : CommandLine.parse argv = .run a)
    (short : ∀ s name book, ¬ Reaches argv e t a s name book) :
    Idle t (start t e m a) := by
  have asides := asides_preamble t e a
  unfold start
  dsimp only
  split
  · exact idle_stop asides _
  · exact ⟨rfl, asides⟩
  · rename_i s configured
    split
    · exact ⟨rfl, asides⟩
    · exact idle_stop asides _
    · rename_i registered
      split
      · refine ⟨rfl, List.forall_mem_append.mpr
          ⟨List.forall_mem_append.mpr ⟨asides, ?_⟩, by simp [IsAside]⟩⟩
        intro line listed
        obtain ⟨entry, said, rfl⟩ := List.mem_map.mp listed
        exact Registry.aside_listingEntries _ t entry said
      · rename_i processing
        split
        · exact idle_stop asides _
        · exact idle_stop asides _
        · rename_i name named given
          apply process_idle asides
          rintro book ⟨stands, readable⟩
          refine short s name book ⟨parsed, configured, registered, by simpa using processing,
            given, ?_, stands, readable⟩
          rintro rfl
          exact named rfl

theorem run_of_not_reaches (short : ∀ a s name book, ¬ Reaches argv e t a s name book) :
    (run argv e t m).tree = t := by
  unfold run
  split
  · rfl
  · rfl
  · rename_i a parsed
    exact (start_idle parsed (short a)).tree

/-! What follows the run of the macros. -/

inductive Makes (home : Location) (directory : Path) (dry : Bool) (l : Location) : Prop where
  | output (writes : dry = false) (here : Writing.Makes home directory l)
  | logs (here : l = ErrorLog.place home)

inductive Writes (home : Location) (directory : Path) (dry : Bool) (stamp : String)
    (l : Location) : Prop where
  | output (writes : dry = false) (here : Writing.Writes home directory l)
  | errorLog (here : l = ErrorLog.filePlace home stamp)

def writing (t : FileTree) (a : Arguments) (s : Settings) (results : List MacroResult) : Writing :=
  if a.dryRun then { tree := t } else Writing.all t (outputDirectory a s) results

theorem grows_writing (plain : ".." ∉ t.workingDirectory) (a : Arguments) (s : Settings)
    (stamp : String) (results : List MacroResult) :
    t.Grows (writing t a s results).tree
      (Makes t.workingDirectory (outputDirectory a s) a.dryRun)
      (Writes t.workingDirectory (outputDirectory a s) a.dryRun stamp) := by
  unfold writing
  cases dry : a.dryRun with
  | true => exact .refl _ _ _
  | false =>
    exact (Writing.grows_all plain (outputDirectory a s) results).mono
      (fun _ _ here => .output rfl here) fun _ here => .output rfl here

def skipEntries (run : Run) : List LogEntry :=
  run.result.skipped.map fun skip => .info ("skipped: " ++ skip)

def wroteEntries (w : Writing) : List LogEntry :=
  w.written.map fun p => .info ("wrote " ++ p.text)

def flushing (run : Run) (w : Writing) (m : Moment) : ErrorLog.Flush :=
  ErrorLog.flush { buffered := run.errors } w.tree m.stamp

theorem recordedEntries_eq_error {outcome : Except FileError (Option Path)} {fault : FileError} :
    recordedEntries outcome = .error fault ↔ outcome = .error fault ∧ fault.isFault = false := by
  cases outcome with
  | ok p => cases p <;> simp [recordedEntries]
  | error e =>
    rw [recordedEntries]
    cases caught : e.isFault with
    | true =>
      rw [if_pos rfl]
      refine iff_of_false (by simp) ?_
      rintro ⟨⟨⟩, other⟩
      cases caught.symm.trans other
    | false =>
      rw [if_neg (by simp)]
      constructor
      · rintro ⟨⟩
        exact ⟨rfl, caught⟩
      · rintro ⟨⟨⟩, _⟩
        rfl

def exitCode (run : Run) (w : Writing) : Nat :=
  if !run.result.failures.isEmpty || 0 < w.refused then partialFailure else success

section Conclude

variable {ran : Run} {before : List OutputLine} {registered : Nat}

theorem conclude_of_fault {fault : FileError}
    (stopped : (writing t a s ran.result.results).error = some fault) :
    let w := writing t a s ran.result.results
    conclude t a s m registered ran before =
      ⟨w.tree, before ++ entryLines (ran.entries ++ skipEntries ran) ++ entryLines w.entries, none,
        .escaped (.file fault)⟩ := by
  unfold conclude
  dsimp only
  split
  · rename_i other failed
    have same : some fault = some other := stopped.symm.trans failed
    cases same
    rfl
  · rename_i done
    have impossible : some fault = none := stopped.symm.trans done
    cases impossible

theorem conclude_of_lost {fault : FileError}
    (done : (writing t a s ran.result.results).error = none)
    (lost : recordedEntries (flushing ran (writing t a s ran.result.results) m).outcome =
      .error fault) :
    let w := writing t a s ran.result.results
    conclude t a s m registered ran before =
      ⟨(flushing ran w m).tree, before ++ entryLines (ran.entries ++ skipEntries ran) ++
        entryLines (w.entries ++ wroteEntries w), none, .escaped (.file fault)⟩ := by
  unfold conclude
  dsimp only
  split
  · rename_i failed
    have impossible := done.symm.trans failed
    cases impossible
  · split
    · rename_i other failed
      have same : Except.error fault = Except.error other := lost.symm.trans failed
      cases same
      rfl
    · rename_i recorded
      have impossible := lost.symm.trans recorded
      cases impossible

/-- Writing and flush come to their ends, and the entries say what has become of the flush. -/
structure Completes (t : FileTree) (m : Moment) (a : Arguments) (s : Settings) (ran : Run)
    (entries : List LogEntry) : Prop where
  done : (writing t a s ran.result.results).error = none
  recorded : recordedEntries (flushing ran (writing t a s ran.result.results) m).outcome =
    .ok entries

theorem conclude_of_completes {entries : List LogEntry}
    (completes : Completes t m a s ran entries) :
    let w := writing t a s ran.result.results
    conclude t a s m registered ran before =
      ⟨(flushing ran w m).tree, before ++ entryLines (ran.entries ++ skipEntries ran) ++
        entryLines (w.entries ++ wroteEntries w) ++
        entryLines (entries ++ [⟨Level.summary, ran.result.summary registered⟩]), none,
        .exit (exitCode ran w)⟩ := by
  unfold conclude
  dsimp only
  split
  · rename_i failed
    have impossible := completes.done.symm.trans failed
    cases impossible
  · split
    · rename_i failed
      have impossible := completes.recorded.symm.trans failed
      cases impossible
    · rename_i other recorded
      have same : Except.ok entries = Except.ok other := completes.recorded.symm.trans recorded
      cases same
      rfl

theorem writing_cases (t : FileTree) (m : Moment) (a : Arguments) (s : Settings) (ran : Run) :
    (∃ fault, (writing t a s ran.result.results).error = some fault) ∨
    (∃ fault, (writing t a s ran.result.results).error = none ∧
      recordedEntries (flushing ran (writing t a s ran.result.results) m).outcome =
        .error fault) ∨
    ∃ entries, Completes t m a s ran entries := by
  cases done : (writing t a s ran.result.results).error with
  | some fault => exact .inl ⟨fault, rfl⟩
  | none =>
    cases recorded : recordedEntries (flushing ran (writing t a s ran.result.results) m).outcome with
    | error fault => exact .inr (.inl ⟨fault, rfl, rfl⟩)
    | ok entries => exact .inr (.inr ⟨entries, done, recorded⟩)

end Conclude

theorem grows_conclude (stands : t.node? t.workingDirectory = some .directory)
    (plain : ".." ∉ t.workingDirectory) (registered : Nat) (run : Run)
    (before : List OutputLine) :
    t.Grows (conclude t a s m registered run before).tree
      (Makes t.workingDirectory (outputDirectory a s) a.dryRun)
      (Writes t.workingDirectory (outputDirectory a s) a.dryRun m.stamp) := by
  have written := grows_writing plain a s m.stamp run.result.results
  have still := written.directory stands
  rw [← written.workingDirectory] at still
  have flushed := ErrorLog.grows_flush still run.errors m.stamp
  rw [written.workingDirectory] at flushed
  have both : t.Grows (flushing run (writing t a s run.result.results) m).tree
      (Makes t.workingDirectory (outputDirectory a s) a.dryRun)
      (Writes t.workingDirectory (outputDirectory a s) a.dryRun m.stamp) :=
    written.trans (flushed.mono (fun _ _ here => .logs here) fun _ here => .errorLog here)
  obtain ⟨fault, stopped⟩ | ⟨fault, done, lost⟩ | ⟨entries, completes⟩ :=
    writing_cases t m a s run
  · rw [conclude_of_fault stopped]
    exact written
  · rw [conclude_of_lost done lost]
    exact both
  · rw [conclude_of_completes completes]
    exact both

theorem threshold_le_error (a : Arguments) : threshold a ≤ Level.error := by
  unfold threshold
  split <;> decide

theorem mem_shown {threshold : Level} {lines : List OutputLine} {entry : LogEntry}
    (member : .entry entry ∈ lines) (loud : threshold ≤ entry.level) :
    entry.text ∈ shown threshold lines := by
  refine List.mem_flatMap.mpr ⟨_, member, ?_⟩
  simp [LogEntry.shown, loud]

structure Refuses (t : FileTree) (m : Moment) (directory : Path) (run : Run) (report : Report)
    (code : Nat) : Prop where
  counted : (Writing.all t directory run.result.results).refused =
    (Writing.astray t.workingDirectory directory run.result.results).length
  unneeded : report.tree = (ErrorLog.flush { buffered := run.errors } (Writing.all t directory
    (run.result.results.filter fun r => !Writing.isAstray t.workingDirectory directory r)).tree
    m.stamp).tree
  reported : ∀ r ∈ Writing.astray t.workingDirectory directory run.result.results,
    (Writing.refusal directory r).text ∈ report.output
  unwritten : ∀ r ∈ Writing.astray t.workingDirectory directory run.result.results,
    let l := Writing.target t.workingDirectory directory r
    ∀ c, report.tree.node? l = some (.file c) →
      t.node? l = some (.file c) ∨ l = ErrorLog.filePlace t.workingDirectory m.stamp
  failing : Writing.astray t.workingDirectory directory run.result.results ≠ [] →
    code = partialFailure

theorem grows_run (stands : t.node? t.workingDirectory = some .directory)
    (plain : ".." ∉ t.workingDirectory) (reaches : Reaches argv e t a s name book) (m : Moment) :
    t.Grows (run argv e t m).tree
      (Makes t.workingDirectory (outputDirectory a s) a.dryRun)
      (Writes t.workingDirectory (outputDirectory a s) a.dryRun m.stamp) := by
  rw [run_of_reaches reaches]
  exact grows_conclude stands plain _ _ _

theorem completes_of_exit {code : Nat} (reaches : Reaches argv e t a s name book)
    (ended : (run argv e t m).ending = .exit code) :
    ∃ entries, Completes t m a s (work t m a s book) entries := by
  have ran := run_of_reaches (m := m) reaches
  obtain ⟨fault, stopped⟩ | ⟨fault, done, lost⟩ | completes :=
    writing_cases t m a s (work t m a s book)
  · rw [ran, conclusion, conclude_of_fault stopped] at ended
    cases ended
  · rw [ran, conclusion, conclude_of_lost done lost] at ended
    cases ended
  · exact completes

theorem refuses_run {code : Nat} (stands : t.node? t.workingDirectory = some .directory)
    (plain : ".." ∉ t.workingDirectory) (reaches : Reaches argv e t a s name book)
    (wet : a.dryRun = false) (ended : (run argv e t m).ending = .exit code) :
    Refuses t m (outputDirectory a s) (work t m a s book) (run argv e t m) code := by
  have grows := grows_run stands plain reaches m
  have ran := run_of_reaches (m := m) reaches
  have whole : writing t a s (work t m a s book).result.results =
      Writing.all t (outputDirectory a s) (work t m a s book).result.results := by
    rw [writing, wet]
    rfl
  obtain ⟨entries, completes⟩ := completes_of_exit reaches ended
  have done := completes.done
  rw [conclusion, conclude_of_completes completes, whole] at ran
  rw [whole] at done
  obtain ⟨counted, errors⟩ := Writing.refused_of_account done
  obtain ⟨_, agree⟩ := Writing.account_all done
  refine ⟨counted, ?_, ?_, ?_, ?_⟩
  · rw [ran, agree.tree]
    rfl
  · intro r refused
    have member : Writing.refusal (outputDirectory a s) r ∈ (Writing.all t (outputDirectory a s)
        (work t m a s book).result.results).errors := by
      rw [errors]
      exact List.mem_map_of_mem refused
    have logged : .entry (Writing.refusal (outputDirectory a s) r) ∈ entryLines
        (Writing.all t (outputDirectory a s) (work t m a s book).result.results).entries :=
      List.mem_map_of_mem (List.mem_filter.mp member).1
    rw [ran]
    refine mem_shown (List.mem_append_left _ (List.mem_append_right _ ?_)) (threshold_le_error a)
    rw [entryLines, List.map_append]
    exact List.mem_append_left _ logged
  · intro r refused l c file
    by_cases log : l = ErrorLog.filePlace t.workingDirectory m.stamp
    · exact Or.inr log
    · refine Or.inl ((grows.change l).file_before ?_ file)
      -- a file is written below the output directory or in the error log alone
      rintro (⟨_, inside⟩ | here)
      · have astray := (List.mem_filter.mp refused).2
        rw [Writing.isAstray, Bool.not_eq_true'] at astray
        exact absurd inside (by rw [Writing.Writes, astray]; simp)
      · exact log here
  · intro some
    rw [ran] at ended
    rw [← Ending.exit.inj ended]
    have refused : 0 < (Writing.all t (outputDirectory a s)
        (work t m a s book).result.results).refused := by
      rw [counted]
      exact List.length_pos_iff.mpr some
    simp [exitCode, refused]

/-- A session that does not come to process a workbook changes nothing. One that does makes
    directories and writes files below its output directory, makes that directory and the missing
    ones above it, and writes its error log; a dry one writes the log alone. If it ends with an exit
    code, the documents with names that lead elsewhere are counted and reported, leave no file and
    make the code that of a partial failure. -/
theorem run_contained (stands : t.node? t.workingDirectory = some .directory)
    (plain : ".." ∉ t.workingDirectory) (argv : List String) (e : Environment) (m : Moment) :
    ((∀ a s name book, ¬ Reaches argv e t a s name book) → (run argv e t m).tree = t) ∧
    ∀ a s name book, Reaches argv e t a s name book →
      t.Grows (run argv e t m).tree
        (Makes t.workingDirectory (outputDirectory a s) a.dryRun)
        (Writes t.workingDirectory (outputDirectory a s) a.dryRun m.stamp) ∧
      ∀ code, a.dryRun = false → (run argv e t m).ending = .exit code →
        Refuses t m (outputDirectory a s) (work t m a s book) (run argv e t m) code := by
  refine ⟨run_of_not_reaches, ?_⟩
  intro a s name book reaches
  refine ⟨grows_run stands plain reaches m, ?_⟩
  intro code wet ended
  exact refuses_run stands plain reaches wet ended

/-! A definition whose documents are to stand beside the output directory. -/

def escapingStore : FileTree where
  entries := [(["home"], .directory), (["home", "macros"], .directory),
    (["home", "macros", "Escape.md"], .file (.text
      "Const gcsXLSheet = \"Rules\"\nConst gcsOutFile = \"../escape%\"")),
    (["home", "book.xlsx"], .file (.workbook [⟨"Rules", []⟩]))]
  workingDirectory := ["home"]

def escapingArguments : Arguments := { workbook := some "book.xlsx" }

theorem reaches_escaping :
    Reaches ["book.xlsx"] {} escapingStore escapingArguments {} "book.xlsx" ⟨[⟨"Rules", []⟩]⟩ where
  parsed := by decide +kernel
  configured := by rfl
  registered := by rfl
  processing := rfl
  given := rfl
  named := by decide
  stands := by rfl
  readable := by rfl

theorem run_contained_sample :
    escapingStore.node? escapingStore.workingDirectory = some .directory ∧
    ".." ∉ escapingStore.workingDirectory ∧
    Reaches ["book.xlsx"] {} escapingStore escapingArguments {} "book.xlsx" ⟨[⟨"Rules", []⟩]⟩ ∧
    (Writing.astray ["home"] (.ofString "./out")
      (work escapingStore ⟨"T", "S"⟩ escapingArguments {} ⟨[⟨"Rules", []⟩]⟩).result.results).map
        MacroResult.fileName = ["../escape.xml"] ∧
    escapingStore.Grows (run ["book.xlsx"] {} escapingStore ⟨"T", "S"⟩).tree
      (Makes ["home"] (.ofString "./out") false) (Writes ["home"] (.ofString "./out") false "S") ∧
    Refuses escapingStore ⟨"T", "S"⟩ (.ofString "./out")
      (work escapingStore ⟨"T", "S"⟩ escapingArguments {} ⟨[⟨"Rules", []⟩]⟩)
      (run ["book.xlsx"] {} escapingStore ⟨"T", "S"⟩) 2 := by
  have stands : escapingStore.node? escapingStore.workingDirectory = some .directory := by decide
  have plain : ".." ∉ escapingStore.workingDirectory := by decide
  have astray : (Writing.astray ["home"] (.ofString "./out")
      (work escapingStore ⟨"T", "S"⟩ escapingArguments {} ⟨[⟨"Rules", []⟩]⟩).result.results).map
        MacroResult.fileName = ["../escape.xml"] := by decide +kernel
  have ended : (run ["book.xlsx"] {} escapingStore ⟨"T", "S"⟩).ending = .exit 2 := by
    decide +kernel
  obtain ⟨_, contained⟩ := run_contained stands plain ["book.xlsx"] {} ⟨"T", "S"⟩
  obtain ⟨grows, refuses⟩ := contained _ _ _ _ reaches_escaping
  exact ⟨stands, plain, reaches_escaping, astray, grows, refuses 2 rfl ended⟩

end Session
end Rulesheet
