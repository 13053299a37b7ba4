import Rulesheet.Proofs.Session
import Rulesheet.Proofs.Settings.Loading

/- How a session takes its configuration. A fault of the configuration is reported, and the session
   ends with the code for it. Where the loading is obstructed, the failure escapes. Either way
   nothing is changed. -/
namespace Rulesheet.Session
open Settings (Obstructed)

variable {argv : List String} {e : Environment} {t : FileTree} {m : Moment} {a : Arguments}
  {p : Path}

inductive Configures (t : FileTree) (a : Arguments) : Path → Prop
  | named {p : Path} (given : a.config = .value p) : Configures t a p
  | default (leftOut : a.config = .leftOut) (there : t.exists? defaultConfig = .ok true) :
      Configures t a defaultConfig

theorem settings_of_configures (configures : Configures t a p) (e : Environment) :
    settings t e a.config = (Settings.load t e p).mapError .load := by
  unfold settings
  cases configures with
  | named given => simp only [given]
  | default leftOut there => simp only [leftOut, there]

theorem shown_append_error (lines : List OutputLine) (message : String) :
    shown (threshold a) (lines ++ [.entry (.error message)]) =
      shown (threshold a) lines ++ ["ERROR " ++ message] := by
  have reaches : threshold a ≤ (LogEntry.error message).level := threshold_le_error a
  have line : LogEntry.shown (threshold a) [.error message] = ["ERROR " ++ message] := by
    simp only [LogEntry.shown, List.filter_cons, decide_eq_true reaches]
    rfl
  rw [shown, List.flatMap_append, List.flatMap_singleton]
  exact congrArg (shown (threshold a) lines ++ ·) line

theorem start_of_fault {fault : ConfigFault}
    (faulty : settings t (environment t e).1 a.config = .error (.load (.config fault))) :
    start t e m a = ⟨t, preamble t e a ++ [.entry (.error ("config: " ++ fault.message))], none,
      .exit fatal⟩ := by
  unfold start
  dsimp only
  rw [faulty]
  rfl

theorem start_of_escape {x : LoadError} (other : ∀ fault, x ≠ .config fault)
    (stopped : settings t (environment t e).1 a.config = .error (.load x)) :
    start t e m a = ⟨t, preamble t e a, none, .escaped (.load x)⟩ := by
  unfold start
  dsimp only
  rw [stopped]
  cases x with
  | config fault => exact absurd rfl (other fault)
  | read _ | draft _ => rfl

theorem exists_of_obstructed (obstructed : Obstructed t p) (e : Environment) :
    ∃ x, (∀ fault, x ≠ .config fault) ∧ Settings.load t e p = .error x := by
  have unanswered : ¬ Settings.Answered (Settings.load t e p) :=
    fun answered => (Settings.answered_load_iff e).mp answered obstructed
  cases loaded : Settings.load t e p with
  | ok s =>
    rw [loaded] at unanswered
    exact absurd trivial unanswered
  | error x =>
    rw [loaded] at unanswered
    exact ⟨x, fun fault same => unanswered ⟨fault, same⟩, rfl⟩

/-- Loading gives settings or a fault of the configuration exactly if nothing obstructs it, and a
    legible text does not. A session reports the fault and ends with the code 1; what is obstructed
    escapes from it. -/
theorem configuration_answered (t : FileTree) (p : Path) :
    (∀ e, ((∃ s, Settings.load t e p = .ok s) ∨
      ∃ fault, Settings.load t e p = .error (.config fault)) ↔ ¬ Obstructed t p) ∧
    (∀ text, t.readText p = .ok text → Yaml.Legible text → ¬ Obstructed t p) ∧
    ∀ argv e m a, CommandLine.parse argv = .run a → Configures t a p →
      let begun := shown (threshold a) (preamble t e a)
      (∀ fault, Settings.load t (environment t e).1 p = .error (.config fault) →
        run argv e t m = ⟨t, begun ++ ["ERROR config: " ++ fault.message], none, .exit 1⟩) ∧
      (Obstructed t p → ∃ x, (∀ fault, x ≠ .config fault) ∧
        Settings.load t (environment t e).1 p = .error x ∧
        run argv e t m = ⟨t, begun, none, .escaped (.load x)⟩) := by
  refine ⟨?_, ?_, ?_⟩
  · intro e
    rw [← Settings.answered_iff]
    exact Settings.answered_load_iff e
  · intro text reads legible obstructed
    exact Settings.not_troubled_of_legible legible
      ((Settings.obstructed_iff_of_reads reads).mp obstructed)
  · intro argv e m a parsed configures begun
    have given := settings_of_configures configures (environment t e).1
    refine ⟨?_, ?_⟩
    · intro fault faulty
      rw [faulty] at given
      unfold run
      rw [parsed]
      dsimp only
      rw [start_of_fault given, shown_append_error, ← String.append_assoc]
      rfl
    · intro obstructed
      obtain ⟨x, other, stopped⟩ := exists_of_obstructed obstructed (environment t e).1
      refine ⟨x, other, stopped, ?_⟩
      rw [stopped] at given
      unfold run
      rw [parsed]
      dsimp only
      rw [start_of_escape other given]

/-! A byte that begins no text, a list for a mapping, and a mapping with one setting. -/

def configurationStore : FileTree where
  entries := [(["home"], .directory), (["home", "byte.yml"], .file (.bytes [0xff])),
    (["home", "list.yml"], .file (.text "- a\n")),
    (["home", "star.yml"], .file (.text "wildcard: '*'\n"))]
  workingDirectory := ["home"]

def configurationArguments (name : String) : Arguments :=
  { workbook := some "book.xlsx", config := .value ⟨"", [name]⟩ }

theorem graph_star : Yaml.Node.graph? "wildcard: '*'\n" = .ok (some (0,
    #[⟨.map, .mapping [(1, 2)]⟩, ⟨.str, .scalar "wildcard"⟩, ⟨.str, .scalar "*"⟩])) := by
  decide +kernel

theorem legible_star : Yaml.Legible "wildcard: '*'\n" := by
  rw [Yaml.Legible, graph_star]
  intro p member i n there
  obtain rfl := Option.some.inj member
  match i, there with
  | 0, there =>
    cases there
    rfl
  | 1, there | 2, there =>
    cases there
    trivial

theorem configuration_answered_sample :
    let argv := fun name => ["book.xlsx", "--config", name]
    let m : Moment := ⟨"T", "S"⟩
    (Obstructed configurationStore ⟨"", ["byte.yml"]⟩ ∧
      CommandLine.parse (argv "byte.yml") = .run (configurationArguments "byte.yml") ∧
      ∃ x, (∀ fault, x ≠ .config fault) ∧ run (argv "byte.yml") {} configurationStore m =
        ⟨configurationStore, [], none, .escaped (.load x)⟩) ∧
    (CommandLine.parse (argv "list.yml") = .run (configurationArguments "list.yml") ∧
      run (argv "list.yml") {} configurationStore m = ⟨configurationStore,
        ["ERROR config: config validation failed: top level must be a mapping, got list"], none,
        .exit 1⟩) ∧
    ¬ Obstructed configurationStore ⟨"", ["star.yml"]⟩ ∧
      Settings.load configurationStore {} ⟨"", ["star.yml"]⟩ = .ok { wildcard := "*" } := by
  intro argv m
  have parsed : CommandLine.parse (argv "byte.yml") =
        .run (configurationArguments "byte.yml") ∧
      CommandLine.parse (argv "list.yml") = .run (configurationArguments "list.yml") := by
    decide +kernel
  have unread : ∀ s : String, s.toUTF8.toList ≠ [0xff] := by
    intro s spells
    have decoded := Content.decode_eq_ok (c := .bytes [0xff]).mpr spells
    cases decoded
  have obstructed : Obstructed configurationStore ⟨"", ["byte.yml"]⟩ :=
    .noText (c := .bytes [0xff]) rfl unread
  have refused : Settings.load configurationStore {} ⟨"", ["list.yml"]⟩ =
      .error (.config (.topLevel "list")) := by decide +kernel
  have given : Settings.load configurationStore {} ⟨"", ["star.yml"]⟩ =
      .ok { wildcard := "*" } := by decide +kernel
  obtain ⟨x, other, _, escapes⟩ := ((configuration_answered configurationStore
    ⟨"", ["byte.yml"]⟩).2.2 (argv "byte.yml") {} m _ parsed.1 (.named rfl)).2 obstructed
  have reports := ((configuration_answered configurationStore
    ⟨"", ["list.yml"]⟩).2.2 (argv "list.yml") {} m _ parsed.2 (.named rfl)).1 _ refused
  have free := (configuration_answered configurationStore ⟨"", ["star.yml"]⟩).2.1
    "wildcard: '*'\n" rfl legible_star
  exact ⟨⟨obstructed, parsed.1, x, other, escapes⟩, ⟨parsed.2, reports⟩, free, given⟩

end Rulesheet.Session
