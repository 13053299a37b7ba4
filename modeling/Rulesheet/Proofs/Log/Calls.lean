import Rulesheet.Session

/- A logger in use. Whatever is asked of it and in whatever order, from its first configuration on it
   has one handler, which stands at its own level, and an entry that reaches the level in force is
   written once, wherever it is made. To its callers such a logger is a switch and a level. -/
namespace Rulesheet

namespace Channel

variable {way : List Channel} {e : LogEntry}

theorem write_unset : write ({} :: way) e = write way e := by
  have threshold : threshold ({} :: way) = threshold way := if_pos rfl
  have audience : audience ({} :: way) = audience way := rfl
  rw [write, threshold, audience, ← write]

theorem write_below (depth : Nat) :
    write (List.replicate depth ({} : Channel) ++ way) e = write way e := by
  induction depth with
  | zero => rfl
  | succ depth ih => exact write_unset.trans ih

end Channel

namespace LogCall

def entry? : LogCall → Option LogEntry
  | summary message => some ⟨Level.summary, message⟩
  | say _ e => some e
  | _ => none

def setting? : LogCall → Option Level
  | setUp level => some level
  | get | summary _ => some Level.info
  | lowerToDebug | reset | say _ _ => none

end LogCall

/-- A logger as its callers know it. -/
structure Dial where
  configured : Bool
  level : Level
  deriving DecidableEq, Repr

namespace Dial

def setUp (d : Dial) (level : Level) : Dial := if d.configured then d else ⟨true, level⟩

def turn (d : Dial) : LogCall → Dial
  | .setUp level => d.setUp level
  | .get | .summary _ => d.setUp Level.info
  | .lowerToDebug => { d with level := Level.debug }
  | .reset => { d with configured := false }
  | .say _ _ => d

def inForce (d : Dial) (root : Level) : Level := if d.level = 0 then root else d.level

def due (d : Dial) (root : Level) (c : LogCall) : Option LogEntry :=
  c.entry?.filter fun e => 0 < e.level ∧ (d.turn c).inForce root ≤ e.level

def entries (root : Level) (d : Dial) : List LogCall → List LogEntry
  | [] => []
  | c :: calls => (d.due root c).toList ++ entries root (d.turn c) calls

end Dial

namespace Logger

variable {g : Logger} {c : LogCall} {calls : List LogCall}

def run (g : Logger) (calls : List LogCall) : Logger := calls.foldl step g

def transcript (g : Logger) : List LogCall → List String
  | [] => []
  | c :: calls => g.lines c ++ (g.step c).transcript calls

def dial (g : Logger) : Dial := ⟨g.configured, g.level⟩

/-- One handler, with the labels and the level of the logger, and nobody above who hears it. -/
structure Settled (g : Logger) : Prop where
  handlers : g.handlers = [.labelled g.level]
  propagate : g.propagate = false

theorem say_eq_write (g : Logger) (depth : Nat) (e : LogEntry) : g.say depth e = g.write e :=
  Channel.write_below depth

/-! What a call changes. -/

/-- A call configures, lowers the levels, forgets that the logger was configured, or changes
    nothing. -/
theorem step_cases (g : Logger) (c : LogCall) :
    (∃ level, c.setting? = some level ∧ g.step c = g.configure level) ∨
      c.setting? = none ∧ (g.step c = g.lowerToDebug ∨ g.step c = g.reset ∨ g.step c = g) := by
  cases c with
  | setUp level => exact .inl ⟨level, rfl, rfl⟩
  | get => exact .inl ⟨_, rfl, rfl⟩
  | summary message => exact .inl ⟨_, rfl, rfl⟩
  | lowerToDebug => exact .inr ⟨rfl, .inl rfl⟩
  | reset => exact .inr ⟨rfl, .inr (.inl rfl)⟩
  | say depth e => exact .inr ⟨rfl, .inr (.inr rfl)⟩

theorem configure_again (configured : g.configured = true) (level : Level) :
    g.configure level = g := if_pos configured

theorem configure_afresh (unset : g.configured = false) (level : Level) :
    g.configure level = { g with
      configured := true, level := level, handlers := [.labelled level], propagate := false } :=
  if_neg (ne_true_of_eq_false unset)

theorem root_configure (g : Logger) (level : Level) : (g.configure level).root = g.root := by
  unfold configure
  split <;> rfl

theorem dial_configure (g : Logger) (level : Level) :
    (g.configure level).dial = g.dial.setUp level := by
  cases configured : g.configured with
  | true =>
    rw [configure_again configured]
    exact (if_pos configured).symm
  | false =>
    rw [configure_afresh configured]
    exact (if_neg (ne_true_of_eq_false configured)).symm

theorem root_step (g : Logger) (c : LogCall) : (g.step c).root = g.root := by
  rcases g.step_cases c with ⟨level, _, step⟩ | ⟨_, step | step | step⟩ <;> rw [step]
  · exact g.root_configure level
  · rfl
  · rfl

theorem dial_step (g : Logger) (c : LogCall) : (g.step c).dial = g.dial.turn c := by
  cases c with
  | setUp level => exact g.dial_configure level
  | get => exact g.dial_configure _
  | summary message => exact g.dial_configure _
  | lowerToDebug => rfl
  | reset => rfl
  | say depth e => rfl

theorem settled_configure (unset : g.configured = false) (level : Level) :
    (g.configure level).Settled := by
  rw [configure_afresh unset]
  exact ⟨rfl, rfl⟩

theorem Settled.configure (settled : g.Settled) (level : Level) : (g.configure level).Settled := by
  cases configured : g.configured with
  | true => exact (configure_again configured level).symm ▸ settled
  | false => exact settled_configure configured level

theorem Settled.lowerToDebug (settled : g.Settled) : g.lowerToDebug.Settled where
  handlers := by
    rw [Logger.lowerToDebug, settled.handlers]
    rfl
  propagate := settled.propagate

theorem Settled.step (settled : g.Settled) (c : LogCall) : (g.step c).Settled := by
  rcases g.step_cases c with ⟨level, _, step⟩ | ⟨_, step | step | step⟩ <;> rw [step]
  · exact settled.configure level
  · exact settled.lowerToDebug
  · exact ⟨settled.handlers, settled.propagate⟩
  · exact settled

theorem step_unset (unset : g.configured = false) (c : LogCall) :
    if c.setting?.isSome then (g.step c).Settled else (g.step c).configured = false := by
  rcases g.step_cases c with ⟨level, setting, step⟩ | ⟨setting, step⟩
  · rw [setting, step]
    exact settled_configure unset level
  · rw [setting]
    rcases step with step | step | step <;> rw [step]
    · exact unset
    · rfl
    · exact unset

/-! What calls in a row change. -/

theorem run_concat (g : Logger) (calls : List LogCall) (c : LogCall) :
    g.run (calls ++ [c]) = (g.run calls).step c := List.foldl_append

theorem root_run (g : Logger) (calls : List LogCall) : (g.run calls).root = g.root := by
  induction calls generalizing g with
  | nil => rfl
  | cons c calls ih => exact (ih (g.step c)).trans (g.root_step c)

theorem dial_run (g : Logger) (calls : List LogCall) :
    (g.run calls).dial = calls.foldl Dial.turn g.dial := by
  induction calls generalizing g with
  | nil => rfl
  | cons c calls ih => rw [List.foldl_cons, ← dial_step, ← ih, run, run, List.foldl_cons]

theorem Settled.run (settled : g.Settled) (calls : List LogCall) : (g.run calls).Settled := by
  induction calls generalizing g with
  | nil => exact settled
  | cons c calls ih => exact ih (settled.step c)

theorem settled_run (unset : g.configured = false) (configured : ∃ c ∈ calls, c.setting?.isSome) :
    (g.run calls).Settled := by
  -- Up to the first call that configures, levels may change and foreign handlers stay.
  induction calls generalizing g with
  | nil =>
    obtain ⟨_, member, _⟩ := configured
    cases member
  | cons c calls ih =>
    have first := step_unset unset c
    split at first
    · exact first.run calls
    · rename_i leaves
      refine ih first ?_
      obtain ⟨c', member, configures⟩ := configured
      rcases List.mem_cons.mp member with rfl | later
      · exact absurd configures leaves
      · exact ⟨c', later, configures⟩

/-! What a settled logger writes. -/

theorem threshold_eq (g : Logger) : g.threshold = g.dial.inForce g.root.level := by
  have top : Channel.threshold [g.root] = g.root.level := by
    rw [Channel.threshold, Channel.threshold]
    split
    · rename_i unset
      exact unset.symm
    · rfl
  rw [threshold, Channel.threshold, top]
  rfl

theorem level_le_of_reached {level : Level} (positive : 0 < level)
    (reached : g.threshold ≤ level) : g.level ≤ level := by
  rw [threshold_eq, Dial.inForce, dial] at reached
  split at reached
  · rename_i unset
    have unset : g.level = 0 := unset
    rw [unset]
    exact Int.le_of_lt positive
  · exact reached

theorem Settled.write (settled : g.Settled) (e : LogEntry) :
    g.write e = if 0 < e.level ∧ g.threshold ≤ e.level then [e.text] else [] := by
  have audience : Channel.audience [g.toChannel, g.root] = [.labelled g.level] := by
    rw [Channel.audience, settled.handlers, settled.propagate]
    rfl
  have way : g.write e = if 0 < e.level ∧ g.threshold ≤ e.level then
      ((Channel.audience [g.toChannel, g.root]).filter fun h => h.level ≤ e.level).map
        fun h => h.format e
    else [] := rfl
  rw [way, audience]
  split
  · -- The handler asks for no more than the level in force, which may be the root's.
    rename_i reaches
    have heard : g.level ≤ e.level := level_le_of_reached reaches.1 reaches.2
    simp [Handler.labelled, heard]
  · rfl

theorem Settled.write_eq_iff (settled : g.Settled) :
    (∀ e, g.write e = if g.level ≤ e.level then [e.text] else []) ↔ 0 < g.level := by
  constructor
  · intro literal
    refine Decidable.byContradiction fun low => ?_
    have silent : g.write ⟨g.level, ""⟩ = [] := by
      rw [settled.write]
      exact if_neg fun reaches => low reaches.1
    rw [literal, if_pos (Int.le_refl _)] at silent
    cases silent
  · intro positive e
    have own : g.threshold = g.level := by
      rw [threshold_eq]
      exact if_neg (Int.ne_of_gt positive)
    have reaches : (0 < e.level ∧ g.level ≤ e.level) ↔ g.level ≤ e.level :=
      ⟨And.right, fun reached => ⟨Int.lt_of_lt_of_le positive reached, reached⟩⟩
    simp only [settled.write, own, reaches]

theorem lines_eq (g : Logger) (c : LogCall) :
    g.lines c = c.entry?.toList.flatMap (g.step c).write := by
  cases c with
  | say depth e => exact (g.say_eq_write depth e).trans (List.append_nil _).symm
  | summary message => exact (List.append_nil _).symm
  | setUp level => rfl
  | get => rfl
  | lowerToDebug => rfl
  | reset => rfl

theorem lines_of_settled (settled : (g.step c).Settled) :
    g.lines c = (g.dial.due g.root.level c).toList.map LogEntry.text := by
  rw [lines_eq, Dial.due, ← dial_step]
  cases c.entry? with
  | none => rfl
  | some e =>
    rw [Option.toList_some, List.flatMap_singleton, settled.write, threshold_eq, root_step,
      Option.filter_some]
    by_cases reaches : 0 < e.level ∧ (g.step c).dial.inForce g.root.level ≤ e.level
    · rw [if_pos reaches, if_pos (decide_eq_true reaches)]
      rfl
    · rw [if_neg reaches, if_neg (by simpa using reaches)]
      rfl

theorem transcript_of_settled (settled : (g.step c).Settled) (more : List LogCall) :
    g.transcript (c :: more) = (g.dial.entries g.root.level (c :: more)).map LogEntry.text := by
  induction more generalizing g c with
  | nil =>
    rw [transcript, lines_of_settled settled, Dial.entries, List.map_append]
    rfl
  | cons c' more ih =>
    have later := ih (settled.step c')
    rw [root_step, dial_step] at later
    rw [transcript, lines_of_settled settled, later, ← List.map_append]
    rfl

/-! From the first configuration on. -/

/-- One handler, at the logger's level, and one line of an entry that reaches the level in force.
    Setting up again changes nothing, and after a reset it replaces the handler. -/
structure Once (root : Channel) (g : Logger) : Prop where
  single : g.handlers = [.labelled g.level]
  inForce : g.threshold = if g.level = 0 then root.level else g.level
  written : ∀ depth e, g.say depth e =
    if 0 < e.level ∧ g.threshold ≤ e.level then [e.level.label ++ " " ++ e.message] else []
  -- The logger's own level is what an entry must reach if and only if it is positive.
  literal : (∀ depth e, g.say depth e =
    if g.level ≤ e.level then [e.level.label ++ " " ++ e.message] else []) ↔ 0 < g.level
  repeated : g.configured = true → ∀ level, g.step (.setUp level) = g
  replaced : g.configured = false → ∀ level,
    (g.step (.setUp level)).handlers = [.labelled level] ∧ (g.step (.setUp level)).level = level

theorem Settled.once (settled : g.Settled) : Once g.root g where
  single := settled.handlers
  inForce := g.threshold_eq
  written depth e := (g.say_eq_write depth e).trans (settled.write e)
  literal := by
    simp only [say_eq_write, forall_const]
    exact settled.write_eq_iff
  repeated := configure_again
  replaced unset level := by
    rw [Logger.step, configure_afresh unset]
    exact ⟨rfl, rfl⟩

/-- Whatever a logger was like before and whoever hears the root, from the first call on that
    configures it every entry that reaches the level in force is written once, with its label, and
    no other entry is. The level follows from the calls alone. -/
theorem written_once (start : Logger) (unset : start.configured = false) (before : List LogCall)
    (first : LogCall) (configures : first.setting?.isSome) (more : List LogCall) :
    Once start.root (start.run (before ++ first :: more)) ∧
      (start.run (before ++ first :: more)).dial =
        (before ++ first :: more).foldl Dial.turn start.dial ∧
      (start.run before).transcript (first :: more) =
        ((before.foldl Dial.turn start.dial).entries start.root.level (first :: more)).map
          LogEntry.text := by
  have configured (rest : List LogCall) : ∃ c ∈ before ++ first :: rest, c.setting?.isSome :=
    ⟨first, List.mem_append_right _ List.mem_cons_self, configures⟩
  refine ⟨?_, start.dial_run _, ?_⟩
  · rw [← start.root_run (before ++ first :: more)]
    exact (settled_run unset (configured more)).once
  · have settled : ((start.run before).step first).Settled := by
      rw [← run_concat]
      exact settled_run unset (configured [])
    rw [transcript_of_settled settled, dial_run, root_run]

def bystander : Handler := ⟨0, LogEntry.message⟩

theorem written_once_sample :
    let start : Logger := { level := 40, handlers := [bystander, bystander],
                            root := { level := 30, handlers := [bystander] } }
    let before : List LogCall := [.say 1 (.error "a"), .lowerToDebug]
    let first : LogCall := .setUp 20
    let more : List LogCall := [.setUp 40, .say 2 (.info "b"), .lowerToDebug, .say 0 (.debug "c"),
      .reset, .say 1 (.debug "d"), .summary "e", .say 0 (.debug "f")]
    start.configured = false ∧ first.setting?.isSome ∧
      start.transcript before = ["a", "a", "a"] ∧
      (start.run before).transcript (first :: more) =
        ["INFO b", "DEBUG c", "DEBUG d", "SUMMARY e"] ∧
      (start.run (before ++ first :: more)).handlers.length = 1 := by
  intro start before first more
  obtain ⟨once, _, transcript⟩ := written_once start rfl before first rfl more
  refine ⟨rfl, rfl, by decide, ?_, ?_⟩
  · rw [transcript]
    decide +kernel
  · rw [once.single]
    rfl

/-- A level that is not positive is none to compare with. Level 0 leaves the choice to the root, and
    entries of level 0 or less are written at no level. -/
theorem reached_unwritten :
    ((run {} [.setUp 0]).level ≤ Level.info ∧ (run {} [.setUp 0]).say 0 (.info "x") = []) ∧
      ((run {} [.setUp (-5)]).level ≤ -3 ∧ (run {} [.setUp (-5)]).say 0 ⟨-3, "x"⟩ = []) := by
  decide

end Logger

namespace Session

def logger (a : Arguments) : Logger :=
  Logger.run {} (.setUp Level.info :: if a.debug then [.lowerToDebug] else [])

theorem settled_logger (a : Arguments) : (logger a).Settled :=
  Logger.settled_run rfl ⟨_, List.mem_cons_self, rfl⟩

theorem level_logger (a : Arguments) : (logger a).level = threshold a := by
  unfold logger threshold
  cases a.debug <;> rfl

theorem threshold_pos (a : Arguments) : 0 < threshold a := by
  unfold threshold
  split <;> decide

/-- A session shows of its entries what its logger writes, wherever they are made. -/
theorem shown_eq_written (a : Arguments) (place : LogEntry → Nat) (lines : List OutputLine) :
    shown (threshold a) lines = lines.flatMap fun line => match line with
      | .raw text => [text]
      | .entry e => (logger a).say (place e) e := by
  refine congrArg (lines.flatMap ·) (funext fun line => ?_)
  cases line with
  | raw text => rfl
  | entry e =>
    have literal := (settled_logger a).write_eq_iff.mpr ((level_logger a).symm ▸ threshold_pos a)
    simp only [Logger.say_eq_write, literal, level_logger, LogEntry.shown, List.filter_cons,
      List.filter_nil, decide_eq_true_eq]
    split <;> rfl

end Session
end Rulesheet
