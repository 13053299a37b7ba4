import Rulesheet.Definition

/- Where a setting takes its value from. Of the lines that declare a constant with its kind of value
   the last one counts, an alias counts only where no line declares the canonical name so, and a
   setting that no line declares is empty or off. No other line of a document matters. -/
namespace Rulesheet

def DeclaredValue.kind : DeclaredValue → ConstantKind
  | .text _ => .text
  | .flag _ => .flag

namespace Setting

def kind : Setting → ConstantKind
  | .loop => .flag
  | _ => .text

def unset (s : Setting) : DeclaredValue :=
  match s.kind with
  | .text => .text ""
  | .flag => .flag false

end Setting

def MacroConfig.value (c : MacroConfig) : Setting → DeclaredValue
  | .sheet => .text c.sheet
  | .sourceFields => .text c.sourceFields
  | .logicalFields => .text c.logicalFields
  | .textField => .text c.textField
  | .filterField => .text c.filterField
  | .legacyValues => .text c.legacyValues
  | .currentValues => .text c.currentValues
  | .inputFields => .text c.inputFields
  | .sequenceSheet => .text c.sequenceSheet
  | .documentName => .text c.documentName
  | .fileName => .text c.fileName
  | .returnCode => .text c.returnCode
  | .container => .text c.container
  | .outputFields => .text c.outputFields
  | .defaults => .text c.defaults
  | .loop => .flag c.loop

theorem MacroConfig.ext_value {c c' : MacroConfig} (same : ∀ s, c.value s = c'.value s) :
    c = c' := by
  have text : ∀ {a b : String}, DeclaredValue.text a = .text b → a = b := DeclaredValue.text.inj
  cases c
  cases c'
  simp only [MacroConfig.mk.injEq]
  exact ⟨text (same .sheet), text (same .sourceFields), text (same .logicalFields),
    text (same .textField), text (same .filterField), text (same .legacyValues),
    text (same .currentValues), text (same .inputFields), text (same .sequenceSheet),
    text (same .documentName), text (same .fileName), text (same .returnCode),
    text (same .container), text (same .outputFields), text (same .defaults),
    DeclaredValue.flag.inj (same .loop)⟩

namespace Constant

structure Names (c : Constant) (s : Setting) (isAlias : Bool) : Prop where
  listed : c ∈ all
  setting : c.setting = s
  role : c.isAlias = isAlias

/-- A line gives a constant a value: it declares its name, compared in lower case, and the value is
    of its kind. -/
structure Gives (line : List Char) (c : Constant) (v : DeclaredValue) : Prop where
  declares : Declaration.ofLine? line = some ⟨Text.lower c.name, v⟩
  kind : v.kind = c.kind

def GivenLast (lines : List (List Char)) (c : Constant) (v : DeclaredValue) : Prop :=
  ∃ before line after, lines = before ++ line :: after ∧ Gives line c v ∧
    ∀ later ∈ after, ∀ w, ¬ Gives later c w

def Absent (lines : List (List Char)) (c : Constant) : Prop :=
  ∀ line ∈ lines, ∀ v, ¬ Gives line c v

end Constant

/-- Where a setting takes its value from in a document of these lines. -/
inductive Resolves (lines : List (List Char)) (s : Setting) : DeclaredValue → Prop where
  | canonical {c : Constant} {v : DeclaredValue} (names : c.Names s false)
      (given : c.GivenLast lines v) : Resolves lines s v
  | byAlias {c : Constant} {v : DeclaredValue} (names : c.Names s true)
      (without : ∀ c', Constant.Names c' s false → c'.Absent lines)
      (given : c.GivenLast lines v) : Resolves lines s v
  | unset (without : ∀ c isAlias, Constant.Names c s isAlias → c.Absent lines) :
      Resolves lines s s.unset

namespace Definition

def lines (source : String) : List (List Char) := Text.cutChars '\n' source.toList

end Definition

namespace Constant

variable {c : Constant} {s : Setting} {ds : List Declaration} {lines : List (List Char)}
  {v : DeclaredValue}

def taken? (c : Constant) (d : Declaration) : Option DeclaredValue :=
  if d.name = Text.lower c.name ∧ d.value.kind = c.kind then some d.value else none

def given? (c : Constant) (line : List Char) : Option DeclaredValue :=
  (Declaration.ofLine? line).bind c.taken?

def lastTaken? (c : Constant) (ds : List Declaration) : Option DeclaredValue :=
  (ds.filterMap c.taken?).getLast?

theorem given?_eq_some {line : List Char} : c.given? line = some v ↔ Gives line c v := by
  unfold given? taken?
  constructor
  · intro given
    obtain ⟨d, declared, taken⟩ := Option.bind_eq_some_iff.mp given
    split at taken
    · rename_i fits
      cases taken
      have named : d = ⟨Text.lower c.name, d.value⟩ := by rw [← fits.1]
      exact ⟨declared.trans (congrArg some named), fits.2⟩
    · cases taken
  · rintro ⟨declares, kind⟩
    rw [declares, Option.bind_some]
    exact if_pos ⟨rfl, kind⟩

theorem given?_eq_none {line : List Char} : c.given? line = none ↔ ∀ v, ¬ Gives line c v := by
  rw [Option.eq_none_iff_forall_ne_some]
  exact forall_congr' fun v => not_congr given?_eq_some

theorem taken?_lines (c : Constant) (lines : List (List Char)) :
    (lines.filterMap Declaration.ofLine?).filterMap c.taken? = lines.filterMap c.given? :=
  List.filterMap_filterMap

theorem lastTaken?_eq_some :
    c.lastTaken? (lines.filterMap Declaration.ofLine?) = some v ↔ c.GivenLast lines v := by
  -- the last line is the first one that a search from the end meets
  rw [lastTaken?, taken?_lines, List.getLast?_filterMap, List.findSome?_eq_some_iff]
  constructor
  · rintro ⟨after, line, before, whole, given, later⟩
    refine ⟨before.reverse, line, after.reverse, ?_, given?_eq_some.mp given, ?_⟩
    · have straight := congrArg List.reverse whole
      simpa using straight
    · intro other member
      exact given?_eq_none.mp (later other (List.mem_reverse.mp member))
  · rintro ⟨before, line, after, whole, given, later⟩
    refine ⟨after.reverse, line, before.reverse, ?_, given?_eq_some.mpr given, ?_⟩
    · rw [whole]
      simp
    · intro other member
      exact given?_eq_none.mpr (later other (List.mem_reverse.mp member))

theorem lastTaken?_eq_none :
    c.lastTaken? (lines.filterMap Declaration.ofLine?) = none ↔ c.Absent lines := by
  rw [lastTaken?, taken?_lines, List.getLast?_eq_none_iff, List.filterMap_eq_nil_iff]
  exact forall_congr' fun line => imp_congr_right fun _ => given?_eq_none

end Constant

/-! A search that keeps the later find finds the last. -/

theorem foldl_keep {α β : Type} (f : α → Option β) (xs : List α) (found : Option β) :
    xs.foldl (fun found x => (f x).or found) found = ((xs.filterMap f).getLast?).or found := by
  induction xs generalizing found with
  | nil => rfl
  | cons x xs ih =>
    rw [List.foldl_cons, ih]
    cases first : f x with
    | none => simp [first]
    | some b =>
      rw [List.filterMap_cons_some first, List.getLast?_cons]
      cases (xs.filterMap f).getLast? <;> rfl

def DeclaredValue.text? : DeclaredValue → Option String
  | .text s => some s
  | .flag _ => none

def DeclaredValue.flag? : DeclaredValue → Option Bool
  | .flag b => some b
  | .text _ => none

namespace Declaration

theorem foldl_read {α : Type} {c : Constant} (read : DeclaredValue → Option α)
    (wrap : α → DeclaredValue)
    (reads : ∀ v, (read v).map wrap = if v.kind = c.kind then some v else none)
    (ds : List Declaration) :
    (ds.foldl (fun found d =>
      (if d.name = Text.lower c.name then read d.value else none).or found) none).map wrap =
      c.lastTaken? ds := by
  have taken : ∀ d : Declaration,
      (if d.name = Text.lower c.name then read d.value else none).map wrap = c.taken? d := by
    intro d
    unfold Constant.taken?
    by_cases same : d.name = Text.lower c.name
    · simp only [same, if_true, true_and]
      exact reads d.value
    · simp [same]
  rw [foldl_keep, Option.or_none, ← List.getLast?_map, List.map_filterMap, Constant.lastTaken?]
  simp only [taken]

theorem lastText?_eq {c : Constant} (kind : c.kind = .text) (ds : List Declaration) :
    (lastText? (Text.lower c.name) ds).map .text = c.lastTaken? ds := by
  rw [← foldl_read DeclaredValue.text? .text
    (by rintro (s | b) <;> simp [DeclaredValue.text?, DeclaredValue.kind, kind])]
  refine congrArg (fun step => (ds.foldl step none).map _) ?_
  funext found d
  obtain ⟨name, value⟩ := d
  by_cases same : name = Text.lower c.name <;> cases value <;> simp [DeclaredValue.text?, same]

theorem lastFlag?_eq {c : Constant} (kind : c.kind = .flag) (ds : List Declaration) :
    (lastFlag? (Text.lower c.name) ds).map .flag = c.lastTaken? ds := by
  rw [← foldl_read DeclaredValue.flag? .flag
    (by rintro (s | b) <;> simp [DeclaredValue.flag?, DeclaredValue.kind, kind])]
  refine congrArg (fun step => (ds.foldl step none).map _) ?_
  funext found d
  obtain ⟨name, value⟩ := d
  by_cases same : name = Text.lower c.name <;> cases value <;> simp [DeclaredValue.flag?, same]

end Declaration

/-! The names of a setting. -/

namespace Setting

def constants (s : Setting) : List Constant := Constant.all.filter (·.setting = s)

theorem constants_eq (s : Setting) : ∃ c aliases, s.constants = c :: aliases ∧
    c.isAlias = false ∧ (∀ a ∈ aliases, a.isAlias = true) ∧ aliases.length ≤ 1 := by
  cases s <;> exact ⟨_, _, rfl, rfl, by decide, by decide⟩

theorem kind_of_listed : ∀ c ∈ Constant.all, c.kind = c.setting.kind := by decide

theorem kind_of_mem_constants {s : Setting} {c : Constant} (member : c ∈ s.constants) :
    c.kind = s.kind := by
  obtain ⟨listed, setting⟩ := List.mem_filter.mp member
  rw [kind_of_listed c listed, of_decide_eq_true setting]

theorem names_iff {s : Setting} {c : Constant} {isAlias : Bool} :
    c.Names s isAlias ↔ c ∈ s.constants ∧ c.isAlias = isAlias := by
  simp only [constants, List.mem_filter, decide_eq_true_eq]
  exact ⟨fun n => ⟨⟨n.listed, n.setting⟩, n.role⟩, fun n => ⟨n.1.1, n.1.2, n.2⟩⟩

end Setting

namespace MacroConfig

theorem namesOf_eq (s : Setting) :
    namesOf s = s.constants.map fun c => Text.lower c.name := rfl

theorem findSome?_congr {α β : Type} {f g : α → Option β} {xs : List α}
    (same : ∀ x ∈ xs, f x = g x) : xs.findSome? f = xs.findSome? g := by
  induction xs with
  | nil => rfl
  | cons x xs ih =>
    rw [List.findSome?_cons, List.findSome?_cons, same x List.mem_cons_self,
      ih fun x member => same x (List.mem_cons_of_mem _ member)]

theorem textOf_eq {s : Setting} (kind : s.kind = .text) (ds : List Declaration) :
    (textOf ds s).map .text = s.constants.findSome? fun c => c.lastTaken? ds := by
  rw [textOf, namesOf_eq, List.findSome?_map, List.map_findSome?]
  refine findSome?_congr fun c member => ?_
  exact Declaration.lastText?_eq ((Setting.kind_of_mem_constants member).trans kind) ds

theorem flagOf_eq {s : Setting} (kind : s.kind = .flag) (ds : List Declaration) :
    (flagOf ds s).map .flag = s.constants.findSome? fun c => c.lastTaken? ds := by
  rw [flagOf, namesOf_eq, List.findSome?_map, List.map_findSome?]
  refine findSome?_congr fun c member => ?_
  exact Declaration.lastFlag?_eq ((Setting.kind_of_mem_constants member).trans kind) ds

theorem value_ofDeclarations (ds : List Declaration) (s : Setting) :
    (ofDeclarations ds).value s =
      (s.constants.findSome? fun c => c.lastTaken? ds).getD s.unset := by
  by_cases loop : s = .loop
  · rw [loop, ← flagOf_eq rfl, Setting.unset]
    change DeclaredValue.flag ((flagOf ds .loop).getD false) = _
    cases flagOf ds .loop <;> rfl
  · have kind : s.kind = .text := by
      cases s <;> first | rfl | exact absurd rfl loop
    have text : (ofDeclarations ds).value s = .text ((textOf ds s).getD "") := by
      cases s <;> first | rfl | exact absurd rfl loop
    rw [text, ← textOf_eq kind, Setting.unset, kind]
    cases textOf ds s <;> rfl

end MacroConfig

namespace Setting

variable {s : Setting} {lines : List (List Char)} {v : DeclaredValue} {c : Constant}

def value (s : Setting) (lines : List (List Char)) : DeclaredValue :=
  (s.constants.findSome? fun c => c.lastTaken? (lines.filterMap Declaration.ofLine?)).getD s.unset

theorem canonical_eq_head {rest : List Constant} {first : Constant}
    (constants : s.constants = first :: rest) (aliases : ∀ a ∈ rest, a.isAlias = true)
    (names : c.Names s false) : c = first := by
  obtain ⟨member, role⟩ := names_iff.mp names
  rw [constants, List.mem_cons] at member
  rcases member with here | later
  · exact here
  · rw [aliases c later] at role
    cases role

theorem alias_mem_tail {rest : List Constant} {first : Constant}
    (constants : s.constants = first :: rest) (canonical : first.isAlias = false)
    (names : c.Names s true) : c ∈ rest := by
  obtain ⟨member, role⟩ := names_iff.mp names
  rw [constants, List.mem_cons] at member
  rcases member with rfl | later
  · rw [canonical] at role
    cases role
  · exact later

theorem value_of_canonical (names : c.Names s false) (given : c.GivenLast lines v) :
    s.value lines = v := by
  have last := Constant.lastTaken?_eq_some.mpr given
  obtain ⟨first, rest, constants, _, aliases, _⟩ := s.constants_eq
  rw [canonical_eq_head constants aliases names] at last
  rw [value, constants, List.findSome?_cons, last, Option.getD_some]

theorem value_of_alias (names : c.Names s true)
    (without : ∀ c', Constant.Names c' s false → c'.Absent lines) (given : c.GivenLast lines v) :
    s.value lines = v := by
  have last := Constant.lastTaken?_eq_some.mpr given
  obtain ⟨first, rest, constants, canonical, _, single⟩ := s.constants_eq
  have named : first.Names s false := names_iff.mpr ⟨by simp [constants], canonical⟩
  have none := Constant.lastTaken?_eq_none.mpr (without first named)
  have member := alias_mem_tail constants canonical names
  obtain ⟨a, rfl⟩ := List.length_eq_one_iff.mp
    (Nat.le_antisymm single (List.length_pos_of_mem member))
  rw [← List.mem_singleton.mp member] at constants
  rw [value, constants, List.findSome?_cons, none, List.findSome?_cons, last, Option.getD_some]

theorem value_of_absent (without : ∀ c isAlias, Constant.Names c s isAlias → c.Absent lines) :
    s.value lines = s.unset := by
  have none : (s.constants.findSome? fun c =>
      c.lastTaken? (lines.filterMap Declaration.ofLine?)) = none := by
    refine List.findSome?_eq_none_iff.mpr fun c member => ?_
    exact Constant.lastTaken?_eq_none.mpr (without c c.isAlias (names_iff.mpr ⟨member, rfl⟩))
  rw [value, none, Option.getD_none]

theorem given_or_absent (c : Constant) (lines : List (List Char)) :
    (∃ v, c.GivenLast lines v) ∨ c.Absent lines := by
  cases last : c.lastTaken? (lines.filterMap Declaration.ofLine?) with
  | some v => exact .inl ⟨v, Constant.lastTaken?_eq_some.mp last⟩
  | none => exact .inr (Constant.lastTaken?_eq_none.mp last)

theorem exists_resolves (s : Setting) (lines : List (List Char)) : ∃ v, Resolves lines s v := by
  obtain ⟨first, rest, constants, canonical, aliases, _⟩ := s.constants_eq
  have named : first.Names s false := names_iff.mpr ⟨by simp [constants], canonical⟩
  rcases given_or_absent first lines with ⟨v, given⟩ | absent
  · exact ⟨v, .canonical named given⟩
  have without : ∀ c, Constant.Names c s false → c.Absent lines := by
    intro c names
    rw [canonical_eq_head constants aliases names]
    exact absent
  by_cases aliased : ∃ a v, Constant.Names a s true ∧ a.GivenLast lines v
  · obtain ⟨a, v, names, given⟩ := aliased
    exact ⟨v, .byAlias names without given⟩
  · refine ⟨s.unset, .unset fun c isAlias names => ?_⟩
    cases isAlias with
    | false => exact without c names
    | true =>
      rcases given_or_absent c lines with ⟨v, given⟩ | gone
      · exact absurd ⟨c, v, names, given⟩ aliased
      · exact gone

theorem resolves_iff : Resolves lines s v ↔ s.value lines = v := by
  have value_of : ∀ {w}, Resolves lines s w → s.value lines = w := by
    intro w resolves
    cases resolves with
    | canonical names given => exact value_of_canonical names given
    | byAlias names without given => exact value_of_alias names without given
    | unset without => exact value_of_absent without
  constructor
  · exact value_of
  · rintro rfl
    obtain ⟨w, resolves⟩ := s.exists_resolves lines
    rw [value_of resolves]
    exact resolves

end Setting

namespace Constant

/-- A line gives no setting a value: it declares nothing, or an unknown name, or a known one with a
    value of the wrong kind. -/
def Mute (line : List Char) : Prop :=
  ∀ d, Declaration.ofLine? line = some d → ∀ c ∈ all, d.name = Text.lower c.name →
    d.value.kind ≠ c.kind

theorem given?_of_mute {line : List Char} (mute : Mute line) {c : Constant} (listed : c ∈ all) :
    c.given? line = none := by
  refine given?_eq_none.mpr fun v gives => ?_
  exact mute _ gives.declares c listed rfl gives.kind

theorem given?_of_declarations {lines lines' : List (List Char)} {c : Constant}
    (same : (lines'.filterMap Declaration.ofLine?).filter (·.name = Text.lower c.name) =
      (lines.filterMap Declaration.ofLine?).filter (·.name = Text.lower c.name)) :
    lines'.filterMap c.given? = lines.filterMap c.given? := by
  have named : ∀ ds : List Declaration,
      (ds.filter (·.name = Text.lower c.name)).filterMap c.taken? = ds.filterMap c.taken? := by
    intro ds
    rw [List.filterMap_filter]
    refine congrArg (fun f => ds.filterMap f) (funext fun d => ?_)
    unfold taken?
    by_cases name : d.name = Text.lower c.name <;> simp [name]
  rw [← taken?_lines, ← taken?_lines, ← named, same, named]

end Constant

namespace Definition

theorem value_parse (source name : String) (s : Setting) :
    (parse source name).config.value s = s.value (lines source) :=
  MacroConfig.value_ofDeclarations _ s

theorem config_of_given {source other : String} (name : String)
    (same : ∀ c ∈ Constant.all,
      (lines other).filterMap c.given? = (lines source).filterMap c.given?) :
    (parse other name).config = (parse source name).config := by
  refine MacroConfig.ext_value fun s => ?_
  rw [value_parse, value_parse]
  unfold Setting.value
  refine congrArg (fun found => found.getD s.unset) (MacroConfig.findSome?_congr fun c member => ?_)
  rw [Constant.lastTaken?, Constant.lastTaken?, Constant.taken?_lines, Constant.taken?_lines,
    same c (List.mem_filter.mp member).1]

/-- A setting has the value that the last line gives to its canonical name, without one that the
    last line gives to its alias, and without any the one of a setting that nothing declares. Names
    can be declared in any order as long as each has its own declarations in the same order, and
    lines that give nothing can be added anywhere. -/
theorem parse_resolves (source name : String) :
    let config := (parse source name).config
    (∀ s v, config.value s = v ↔ Resolves (lines source) s v) ∧
    (∀ other, (∀ n, (Declaration.all other).filter (·.name = n) =
        (Declaration.all source).filter (·.name = n)) →
      (parse other name).config = config) ∧
    (∀ other before added after, lines source = before ++ after →
      lines other = before ++ added ++ after → (∀ line ∈ added, Constant.Mute line) →
      (parse other name).config = config) := by
  intro config
  refine ⟨?_, ?_, ?_⟩
  · intro s v
    rw [Setting.resolves_iff, ← value_parse source name]
  · intro other same
    refine config_of_given name fun c _ => ?_
    exact Constant.given?_of_declarations (same (Text.lower c.name))
  · intro other before added after short long mute
    refine config_of_given name fun c listed => ?_
    have nothing : added.filterMap c.given? = [] :=
      List.filterMap_eq_nil_iff.mpr fun line member =>
        Constant.given?_of_mute (mute line member) listed
    rw [long, short]
    simp [nothing]

/-! Three declarations, among them an empty one of a canonical name and one of its alias; the same
    in another order; and the same with lines that give nothing. -/

def sampleSource : String :=
  "gcsXLSheet = \"Rules\"\nConst gcsInXLFilterValuesNew = \"\"\n" ++
    "Const gcsInXLFilterValues = \"a,b\""

def turnedSource : String :=
  "Const gcsInXLFilterValues = \"a,b\"\nConst gcsInXLFilterValuesNew = \"\"\n" ++
    "gcsXLSheet = \"Rules\""

def mutteredSource : String :=
  "gcsXLSheet = \"Rules\"\ngcsXLSheet = True\nConst gcsOther = \"x\"\nnothing at all\n" ++
    "Const gcsInXLFilterValuesNew = \"\"\nConst gcsInXLFilterValues = \"a,b\""

theorem parse_resolves_sample :
    Resolves (lines sampleSource) .currentValues (.text "") ∧
    (parse sampleSource "M").config = { sheet := "Rules" } ∧
    (parse turnedSource "M").config = { sheet := "Rules" } ∧
    (parse mutteredSource "M").config = { sheet := "Rules" } := by
  obtain ⟨resolves, turned, muttered⟩ := parse_resolves sampleSource "M"
  have config : (parse sampleSource "M").config = { sheet := "Rules" } := by decide +kernel
  refine ⟨(resolves .currentValues (.text "")).mp (by rw [config]; rfl), config,
    (turned turnedSource ?_).trans config, (muttered mutteredSource ?_ ?_ ?_ ?_ ?_ ?_).trans config⟩
  · have here : Declaration.all sampleSource = [⟨"gcsxlsheet", .text "Rules"⟩,
        ⟨"gcsinxlfiltervaluesnew", .text ""⟩, ⟨"gcsinxlfiltervalues", .text "a,b"⟩] := by
      decide +kernel
    have there : Declaration.all turnedSource = [⟨"gcsinxlfiltervalues", .text "a,b"⟩,
        ⟨"gcsinxlfiltervaluesnew", .text ""⟩, ⟨"gcsxlsheet", .text "Rules"⟩] := by
      decide +kernel
    intro n
    rw [here, there]
    by_cases first : "gcsxlsheet" = n
    · subst first
      decide
    · by_cases second : "gcsinxlfiltervaluesnew" = n
      · subst second
        decide
      · simp [List.filter_cons, first, second]
  · exact (lines sampleSource).take 1
  · exact ((lines mutteredSource).drop 1).take 3
  · exact (lines sampleSource).drop 1
  · decide +kernel
  · decide +kernel
  · unfold Constant.Mute
    decide +kernel

end Definition
end Rulesheet
