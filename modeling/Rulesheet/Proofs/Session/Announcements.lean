import Rulesheet.Proofs.Session

/- What a session announces: the skipped names, the documents that it writes and its summary. Every
   other line is an aside or speaks of the workbook and of single macros, so that the announcements
   of a session are the lists that they are made from. -/
namespace Rulesheet.Session

def skipTopic : String := "skipped: "

def writeTopic : String := "wrote "

def announcement? (topic : String) : OutputLine → Option String
  | .raw _ => none
  | .entry e => if e.Announces topic then some e.message else none

def announced (topic : String) (lines : List OutputLine) : List String :=
  lines.filterMap (announcement? topic)

theorem announced_append (topic : String) (before after : List OutputLine) :
    announced topic (before ++ after) = announced topic before ++ announced topic after :=
  List.filterMap_append

def Quiet (topic : String) (line : OutputLine) : Prop :=
  ∀ entry, line = .entry entry → entry.level ≠ Level.summary ∧ ¬ entry.Announces topic

section Quiet

variable {topic : String}

theorem quiet_of_aside {line : OutputLine} (aside : IsAside line) (topic : String) :
    Quiet topic line := by
  rintro entry rfl
  have aside : entry.IsAside := aside
  exact ⟨aside.level_ne.2, aside.silent topic⟩

theorem quiet_entries {entries : List LogEntry} (asides : ∀ e ∈ entries, e.IsAside)
    (topic : String) : ∀ line ∈ entryLines entries, Quiet topic line := by
  intro line member
  obtain ⟨entry, said, rfl⟩ := List.mem_map.mp member
  have aside : IsAside (.entry entry) := asides entry said
  exact quiet_of_aside aside topic

theorem quiet_info {begun : String} (apart : LogEntry.Apart topic begun) (text : String) :
    Quiet topic (.entry (.info (begun ++ text))) := by
  rintro entry same
  cases same
  exact ⟨(by decide : Level.info ≠ Level.summary), LogEntry.silent_of_apart apart⟩

theorem quiet_infos {begun : String} (apart : LogEntry.Apart topic begun)
    (texts : List String) :
    ∀ line ∈ entryLines (texts.map fun text => .info (begun ++ text)), Quiet topic line := by
  intro line member
  obtain ⟨_, said, rfl⟩ := List.mem_map.mp member
  obtain ⟨text, _, rfl⟩ := List.mem_map.mp said
  exact quiet_info apart text

theorem announced_of_quiet {lines : List OutputLine}
    (quiet : ∀ line ∈ lines, Quiet topic line) : announced topic lines = [] := by
  refine List.filterMap_eq_nil_iff.mpr ?_
  intro line member
  cases line with
  | raw text => rfl
  | entry e => exact if_neg (quiet _ member e rfl).2

theorem announced_infos (topic : String) (texts : List String) :
    announced topic (entryLines (texts.map fun text => .info (topic ++ text))) =
      texts.map (topic ++ ·) := by
  induction texts with
  | nil => rfl
  | cons text texts ih =>
    have begins : (LogEntry.info (topic ++ text)).Announces topic := by
      refine ⟨rfl, ?_⟩
      rw [LogEntry.info, String.toList_append]
      exact List.prefix_append _ _
    have first : announcement? topic (.entry (.info (topic ++ text))) = some (topic ++ text) :=
      if_pos begins
    exact (List.filterMap_cons_some first).trans (congrArg ((topic ++ text) :: ·) ih)

theorem announced_summary (topic text : String) :
    announced topic [.entry ⟨Level.summary, text⟩] = [] := by
  have silent : ¬ LogEntry.Announces topic ⟨Level.summary, text⟩ :=
    fun announces => absurd announces.1 (by decide : Level.summary ≠ Level.info)
  have unsaid : announcement? topic (.entry ⟨Level.summary, text⟩) = none := by
    rw [announcement?, if_neg silent]
  exact List.filterMap_cons_none unsaid

end Quiet

/-! Nothing before the end of a session is a summary, and only the lists of the skipped names and
    of the documents announce these. -/

section Lines

variable {argv : List String} {e : Environment} {t : FileTree} {m : Moment} {a : Arguments}
  {s : Settings} {name : String} {book : Workbook} {topic : String}

def Known (topic : String) : Prop := topic = skipTopic ∨ topic = writeTopic

theorem Known.apart (known : Known topic) : ∀ begun ∈ ["Processing workbook: ", "skip macro=",
    "macro="], LogEntry.Apart topic begun := by
  rcases known with rfl | rfl <;> decide

theorem quiet_opening (known : Known topic) (t : FileTree) (e : Environment) (a : Arguments)
    (s : Settings) (name : String) : ∀ line ∈ opening t e a s name, Quiet topic line := by
  refine List.forall_mem_append.mpr ⟨?_, ?_⟩
  · intro line member
    exact quiet_of_aside (asides_preamble t e a line member) topic
  · intro line member
    rcases List.mem_cons.mp member with rfl | listed
    · simp only [String.append_assoc]
      exact quiet_info (known.apart _ (by simp)) _
    · exact quiet_entries (Registry.aside_listingEntries _ t) topic line listed

theorem quiet_work (known : Known topic) (t : FileTree) (m : Moment) (a : Arguments)
    (s : Settings) (book : Workbook) :
    ∀ line ∈ entryLines (work t m a s book).entries, Quiet topic line := by
  rintro line member entry rfl
  obtain ⟨_, said, same⟩ := List.mem_map.mp member
  cases same
  have speaks := Run.speaks_all said
  exact ⟨speaks.level_ne, speaks.silent (known.apart _ (by simp)) (known.apart _ (by simp))⟩

theorem aside_writing (t : FileTree) (a : Arguments) (s : Settings) (results : List MacroResult) :
    ∀ e ∈ (writing t a s results).entries, e.IsAside := by
  unfold writing
  split
  · intro e said
    cases said
  · exact Writing.aside_all t _ results

theorem aside_recordedEntries {outcome : Except FileError (Option Path)} {entries : List LogEntry}
    (recorded : recordedEntries outcome = .ok entries) : ∀ e ∈ entries, e.IsAside := by
  unfold recordedEntries at recorded
  split at recorded
  · cases recorded
    simp
  · cases recorded
    simp [LogEntry.aside_warning]
  · split at recorded
    · cases recorded
      simp [LogEntry.aside_warning]
    · cases recorded

theorem wroteEntries_eq (w : Writing) :
    wroteEntries w = (w.written.map Path.text).map fun text => .info (writeTopic ++ text) := by
  rw [List.map_map]
  rfl

theorem quiet_skips (run : Run) :
    ∀ line ∈ entryLines (skipEntries run), Quiet writeTopic line := by
  have quiet : ∀ line ∈ entryLines (run.result.skipped.map fun skip => .info (skipTopic ++ skip)),
      Quiet writeTopic line := quiet_infos (by decide) run.result.skipped
  exact quiet

theorem quiet_wrote (w : Writing) :
    ∀ line ∈ entryLines (wroteEntries w), Quiet skipTopic line := by
  rw [wroteEntries_eq]
  exact quiet_infos (by decide) _

theorem announced_skips (run : Run) :
    announced skipTopic (entryLines (skipEntries run)) =
      run.result.skipped.map (skipTopic ++ ·) :=
  announced_infos skipTopic run.result.skipped

theorem announced_wrote (w : Writing) :
    announced writeTopic (entryLines (wroteEntries w)) =
      w.written.map fun p => writeTopic ++ p.text := by
  rw [wroteEntries_eq, announced_infos, List.map_map]
  rfl

theorem entryLines_append (before after : List LogEntry) :
    entryLines (before ++ after) = entryLines before ++ entryLines after := List.map_append

def begun (t : FileTree) (e : Environment) (m : Moment) (a : Arguments) (s : Settings)
    (name : String) (book : Workbook) : List OutputLine :=
  let run := work t m a s book
  opening t e a s name ++ entryLines run.entries ++ entryLines (skipEntries run) ++
    entryLines (writing t a s run.result.results).entries

def sayings (t : FileTree) (e : Environment) (m : Moment) (a : Arguments) (s : Settings)
    (name : String) (book : Workbook) : List OutputLine :=
  begun t e m a s name book ++
    entryLines (wroteEntries (writing t a s (work t m a s book).result.results))

theorem lines_of_fault {fault : FileError}
    (stopped : (writing t a s (work t m a s book).result.results).error = some fault) :
    (conclusion t e m a s name book).lines = begun t e m a s name book := by
  rw [conclusion, conclude_of_fault stopped]
  simp only [entryLines_append, List.append_assoc, begun]

theorem lines_of_lost {fault : FileError}
    (done : (writing t a s (work t m a s book).result.results).error = none)
    (lost : recordedEntries (flushing (work t m a s book)
      (writing t a s (work t m a s book).result.results) m).outcome = .error fault) :
    (conclusion t e m a s name book).lines = sayings t e m a s name book := by
  rw [conclusion, conclude_of_lost done lost]
  simp only [entryLines_append, List.append_assoc, sayings, begun]

theorem lines_of_completes {entries : List LogEntry}
    (completes : Completes t m a s (work t m a s book) entries) :
    (conclusion t e m a s name book).lines = sayings t e m a s name book ++ entryLines entries ++
      [.entry ⟨Level.summary, (work t m a s book).result.summary
        (context t m a s book).names.length⟩] := by
  rw [conclusion, conclude_of_completes completes]
  simp only [entryLines_append, List.append_assoc, sayings, begun]
  rfl

theorem announced_sayings (known : Known topic) :
    announced topic (sayings t e m a s name book) =
      announced topic (entryLines (skipEntries (work t m a s book))) ++
        announced topic (entryLines
          (wroteEntries (writing t a s (work t m a s book).result.results))) := by
  simp only [sayings, begun, announced_append]
  rw [announced_of_quiet (quiet_opening known t e a s name),
    announced_of_quiet (quiet_work known t m a s book),
    announced_of_quiet (quiet_entries (aside_writing t a s _) topic)]
  simp only [List.nil_append, List.append_nil]

theorem announced_of_completes {entries : List LogEntry} (known : Known topic)
    (completes : Completes t m a s (work t m a s book) entries) :
    announced topic (conclusion t e m a s name book).lines =
      announced topic (entryLines (skipEntries (work t m a s book))) ++
        announced topic (entryLines
          (wroteEntries (writing t a s (work t m a s book).result.results))) := by
  have quiet := quiet_entries (aside_recordedEntries completes.recorded) topic
  rw [lines_of_completes completes, announced_append, announced_append, announced_of_quiet quiet,
    announced_summary, List.append_nil, List.append_nil, announced_sayings known]

theorem skips_of_completes {entries : List LogEntry}
    (completes : Completes t m a s (work t m a s book) entries) :
    announced skipTopic (conclusion t e m a s name book).lines =
      (work t m a s book).result.skipped.map (skipTopic ++ ·) := by
  rw [announced_of_completes (.inl rfl) completes, announced_skips,
    announced_of_quiet (quiet_wrote _), List.append_nil]

theorem writes_of_completes {entries : List LogEntry}
    (completes : Completes t m a s (work t m a s book) entries) :
    announced writeTopic (conclusion t e m a s name book).lines =
      (writing t a s (work t m a s book).result.results).written.map
        fun p => writeTopic ++ p.text := by
  rw [announced_of_completes (.inr rfl) completes, announced_wrote,
    announced_of_quiet (quiet_skips _), List.nil_append]

theorem level_ne_of_quiet {lines : List OutputLine} (quiet : ∀ line ∈ lines, Quiet topic line)
    {entry : LogEntry} (member : .entry entry ∈ lines) : entry.level ≠ Level.summary :=
  (quiet _ member entry rfl).1

theorem level_ne_begun {entry : LogEntry} (member : .entry entry ∈ begun t e m a s name book) :
    entry.level ≠ Level.summary := by
  have known : Known writeTopic := .inr rfl
  have quiet : ∀ line ∈ begun t e m a s name book, Quiet writeTopic line :=
    List.forall_mem_append.mpr ⟨List.forall_mem_append.mpr ⟨List.forall_mem_append.mpr
      ⟨quiet_opening known t e a s name, quiet_work known t m a s book⟩, quiet_skips _⟩,
      quiet_entries (aside_writing t a s _) writeTopic⟩
  exact level_ne_of_quiet quiet member

theorem level_ne_sayings {entry : LogEntry}
    (member : .entry entry ∈ sayings t e m a s name book) : entry.level ≠ Level.summary := by
  rcases List.mem_append.mp member with begun | wrote
  · exact level_ne_begun begun
  · exact level_ne_of_quiet (quiet_wrote _) wrote

theorem completes_of_summary {text : String}
    (summed : .entry ⟨Level.summary, text⟩ ∈ (conclusion t e m a s name book).lines) :
    ∃ entries, Completes t m a s (work t m a s book) entries ∧
      text = (work t m a s book).result.summary (context t m a s book).names.length := by
  obtain ⟨fault, stopped⟩ | ⟨fault, done, lost⟩ | ⟨entries, completes⟩ :=
    writing_cases t m a s (work t m a s book)
  · rw [lines_of_fault stopped] at summed
    exact absurd rfl (level_ne_begun summed)
  · rw [lines_of_lost done lost] at summed
    exact absurd rfl (level_ne_sayings summed)
  · refine ⟨entries, completes, ?_⟩
    rw [lines_of_completes completes] at summed
    rcases List.mem_append.mp summed with earlier | last
    · rcases List.mem_append.mp earlier with said | recorded
      · exact absurd rfl (level_ne_sayings said)
      · have quiet := quiet_entries (aside_recordedEntries completes.recorded) skipTopic
        exact absurd rfl (level_ne_of_quiet quiet recorded)
    · cases List.mem_singleton.mp last
      rfl

end Lines

end Rulesheet.Session
