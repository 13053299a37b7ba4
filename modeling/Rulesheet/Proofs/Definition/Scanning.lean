import Rulesheet.Proofs.Definition.Grammar
import Rulesheet.Proofs.Definition.Pattern

/- Declarations as the matches of two patterns, one for texts and one for truth values. A search for
   either goes through a whole text at once, so that it could run from one line into the next or
   begin inside a line, and it backtracks where a keyword might be a name. It finds no more and no
   less than what the lines declare one by one. -/
namespace Rulesheet.Declaration

open Pattern

/-! The patterns. -/

def keywordPattern : List Char → Pattern
  | [] => .empty
  | letter :: keyword => .seq (.one (readsAs letter)) (keywordPattern keyword)

def atLeastOne (accepts : Char → Bool) : Pattern := .seq (.one accepts) (.many accepts)

def leadPattern (word : Pattern) : Pattern := .seq word (atLeastOne isGap)

def modifierPattern : Pattern :=
  .either (keywordPattern "public".toList) (.either (keywordPattern "private".toList)
    (.either (keywordPattern "global".toList) (keywordPattern "dim".toList)))

def typePattern (type : List Char) : Pattern :=
  .seq (atLeastOne isGap) (.seq (keywordPattern "as".toList)
    (.seq (atLeastOne isGap) (keywordPattern type)))

def isPlain (c : Char) : Bool := c ≠ '"' && c ≠ '\r' && c ≠ '\n'

def valuePattern : ConstantKind → Pattern
  | .text => .seq (.one (· == '"')) (.seq (.capture (.many isPlain)) (.one (· == '"')))
  | .flag =>
    .seq (.capture (.either (keywordPattern (truth true)) (keywordPattern (truth false))))
      .wordBoundary

def pattern (kind : ConstantKind) : Pattern :=
  .seq .lineStart (.seq (.many isGap) (.seq (.maybe (leadPattern modifierPattern))
    (.seq (.maybe (leadPattern (keywordPattern "const".toList)))
      (.seq (.capture (atLeastOne Text.isWord)) (.seq (.maybe (typePattern kind.label.toList))
        (.seq (.many isGap) (.seq (.one (· == '=')) (.seq (.many isGap) (valuePattern kind)))))))))

def valueOf (kind : ConstantKind) (written : List Char) : DeclaredValue :=
  match kind with
  | .text => .text (String.ofList written)
  | .flag => .flag (Text.lowerFrom [] written == "true".toList)

def reading (kind : ConstantKind) (captures : List (List Char)) : List Char × DeclaredValue :=
  (captures.getD 0 [], valueOf kind (captures.getD 1 []))

/-- The declarations of a kind that a search through a whole text finds, in order. -/
def scan (kind : ConstantKind) (text : String) : List Declaration :=
  ((pattern kind).search none text.toList).map fun captures => ofReading (reading kind captures)

/-! Patterns without captures. -/

/-- It reads what a production derives, wherever that stands. -/
def Silent (r : Pattern) (production : List Char → Prop) : Prop :=
  ∀ before s rest captures, r.Reads before s rest captures ↔ captures = [] ∧ production s

theorem lineStart_seq_iff {r : Pattern} {before : Option Char} {s rest : List Char}
    {captures : List (List Char)} : (Pattern.seq .lineStart r).Reads before s rest captures ↔
      startsLine before = true ∧ r.Reads before s rest captures := by
  constructor
  · rintro ⟨_, _, _, _, rfl, rfl, ⟨rfl, rfl, starts⟩, reads⟩
    exact ⟨starts, reads⟩
  · rintro ⟨starts, reads⟩
    exact ⟨[], s, [], captures, rfl, rfl, ⟨rfl, rfl, starts⟩, reads⟩

theorem silent_many (accepts : Char → Bool) :
    Silent (.many accepts) fun s => ∀ c ∈ s, accepts c = true :=
  fun _ _ _ _ => Iff.rfl

theorem silent_one (accepts : Char → Bool) :
    Silent (.one accepts) fun s => ∃ c, s = [c] ∧ accepts c = true := by
  intro before s rest captures
  constructor
  · rintro ⟨c, rfl, rfl, accepted⟩
    exact ⟨rfl, c, rfl, accepted⟩
  · rintro ⟨rfl, c, rfl, accepted⟩
    exact ⟨c, rfl, rfl, accepted⟩

section Silent

variable {r r' : Pattern} {P P' : List Char → Prop}

theorem Silent.seq_iff (silent : Silent r P) {before : Option Char} {s rest : List Char}
    {captures : List (List Char)} : (Pattern.seq r r').Reads before s rest captures ↔
      ∃ a b, s = a ++ b ∧ P a ∧ r'.Reads (lastOf before a) b rest captures := by
  constructor
  · rintro ⟨a, b, as, bs, rfl, rfl, first, second⟩
    obtain ⟨rfl, derived⟩ := (silent _ _ _ _).mp first
    exact ⟨a, b, rfl, derived, second⟩
  · rintro ⟨a, b, rfl, derived, second⟩
    exact ⟨a, b, [], captures, rfl, rfl, (silent _ _ _ _).mpr ⟨rfl, derived⟩, second⟩

theorem Silent.capture_seq_iff (silent : Silent r P) {before : Option Char} {s rest : List Char}
    {captures : List (List Char)} : (Pattern.seq (.capture r) r').Reads before s rest captures ↔
      ∃ a b more, s = a ++ b ∧ captures = a :: more ∧ P a ∧
        r'.Reads (lastOf before a) b rest more := by
  constructor
  · rintro ⟨a, b, _, more, rfl, rfl, ⟨none, rfl, first⟩, second⟩
    obtain ⟨rfl, derived⟩ := (silent _ _ _ _).mp first
    exact ⟨a, b, more, rfl, rfl, derived, second⟩
  · rintro ⟨a, b, more, rfl, rfl, derived, second⟩
    exact ⟨a, b, [a], more, rfl, rfl, ⟨[], rfl, (silent _ _ _ _).mpr ⟨rfl, derived⟩⟩, second⟩

theorem Silent.seq (silent : Silent r P) (silent' : Silent r' P') :
    Silent (.seq r r') fun s => ∃ a b, s = a ++ b ∧ P a ∧ P' b := by
  intro before s rest captures
  rw [silent.seq_iff]
  constructor
  · rintro ⟨a, b, rfl, derived, second⟩
    obtain ⟨rfl, derived'⟩ := (silent' _ _ _ _).mp second
    exact ⟨rfl, a, b, rfl, derived, derived'⟩
  · rintro ⟨rfl, a, b, rfl, derived, derived'⟩
    exact ⟨a, b, rfl, derived, (silent' _ _ _ _).mpr ⟨rfl, derived'⟩⟩

theorem Silent.either (silent : Silent r P) (silent' : Silent r' P') :
    Silent (.either r r') fun s => P s ∨ P' s := by
  intro before s rest captures
  rw [Reads, silent, silent', and_or_left]

theorem Silent.maybe (silent : Silent r P) : Silent (.maybe r) (Maybe P) := by
  intro before s rest captures
  rw [Reads, silent, Maybe, and_or_left, or_comm, and_comm]

theorem Silent.congr (silent : Silent r P) (same : ∀ s, P s ↔ P' s) : Silent r P' := by
  intro before s rest captures
  rw [silent, same]

end Silent

theorem silent_keyword (keyword : List Char) :
    Silent (keywordPattern keyword) fun s => isKeyword keyword s = true := by
  induction keyword with
  | nil =>
    intro before s rest captures
    cases s <;> simp [keywordPattern, Reads, isKeyword]
  | cons letter keyword ih =>
    refine ((silent_one _).seq ih).congr fun s => ?_
    cases s with
    | nil => simp [isKeyword]
    | cons c s =>
      constructor
      · rintro ⟨_, b, split, ⟨d, rfl, reads⟩, more⟩
        obtain ⟨rfl, rfl⟩ := List.cons.inj split
        rw [isKeyword, reads, more]
        rfl
      · intro reads
        rw [isKeyword, Bool.and_eq_true] at reads
        exact ⟨[c], s, rfl, ⟨c, rfl, reads.1⟩, reads.2⟩

theorem silent_atLeastOne (accepts : Char → Bool) :
    Silent (atLeastOne accepts) fun s => s ≠ [] ∧ ∀ c ∈ s, accepts c = true := by
  refine ((silent_one _).seq (silent_many _)).congr fun s => ?_
  constructor
  · rintro ⟨_, b, rfl, ⟨c, rfl, accepted⟩, all⟩
    exact ⟨List.cons_ne_nil c b, List.forall_mem_cons.mpr ⟨accepted, all⟩⟩
  · rintro ⟨filled, all⟩
    obtain ⟨c, b, rfl⟩ := List.exists_cons_of_ne_nil filled
    rw [List.forall_mem_cons] at all
    exact ⟨[c], b, rfl, ⟨c, rfl, all.1⟩, all.2⟩

theorem silent_space : Silent (atLeastOne isGap) IsSpace := silent_atLeastOne isGap

theorem silent_lead {word : Pattern} {reads : List Char → Bool}
    (silent : Silent word fun s => reads s = true) :
    Silent (leadPattern word) (IsLead reads) := by
  refine (silent.seq silent_space).congr fun s => ?_
  constructor
  · rintro ⟨a, b, rfl, keyword, spaced⟩
    exact .intro keyword spaced
  · rintro ⟨keyword, spaced⟩
    exact ⟨_, _, rfl, keyword, spaced⟩

theorem silent_modifier : Silent modifierPattern fun s => isModifier s = true := by
  refine ((silent_keyword _).either ((silent_keyword _).either
    ((silent_keyword _).either (silent_keyword _)))).congr fun s => ?_
  simp only [isModifier, Bool.or_eq_true, or_assoc]

theorem silent_type (type : List Char) : Silent (typePattern type) (IsType type) := by
  refine (silent_space.seq ((silent_keyword _).seq
    (silent_space.seq (silent_keyword _)))).congr fun s => ?_
  constructor
  · rintro ⟨before, _, rfl, apart, as, _, rfl, keyword, between, word, rfl, spaced, typed⟩
    exact .intro apart keyword spaced typed
  · rintro ⟨apart, keyword, spaced, typed⟩
    exact ⟨_, _, rfl, apart, _, _, rfl, keyword, _, _, rfl, spaced, typed⟩

theorem silent_equals (c : Char) : Silent (.one (· == c)) fun s => s = [c] := by
  refine (silent_one _).congr fun s => ?_
  simp only [beq_iff_eq, exists_eq_right]

/-! Truth values in lower case. -/

theorem toLower_of_readsAs {letter c : Char} (plain : letter ≠ 's' ∧ letter ≠ 'i')
    (reads : readsAs letter c = true) : c.toLower = letter := by
  simp only [readsAs, Bool.or_eq_true, Bool.and_eq_true, beq_iff_eq] at reads
  rcases reads with (lowered | long) | dotted
  · exact lowered
  · exact absurd long.1 plain.1
  · exact absurd dotted.1 plain.2

theorem map_toLower_of_isKeyword {keyword word : List Char}
    (plain : (keyword.all fun letter => letter ≠ 's' ∧ letter ≠ 'i') = true)
    (reads : isKeyword keyword word = true) : word.map Char.toLower = keyword := by
  induction keyword generalizing word with
  | nil =>
    cases word with
    | nil => rfl
    | cons c word => cases reads
  | cons letter keyword ih =>
    cases word with
    | nil => cases reads
    | cons c word =>
      rw [isKeyword, Bool.and_eq_true] at reads
      rw [List.all_cons, Bool.and_eq_true, decide_eq_true_eq] at plain
      rw [List.map_cons, toLower_of_readsAs plain.1 reads.1, ih plain.2 reads.2]

/-- A long s does not become an s, but a word that reads as false has no other first letter. -/
theorem lowerFrom_truth {word : List Char} {b : Bool} (reads : isKeyword (truth b) word = true) :
    (Text.lowerFrom [] word == "true".toList) = b := by
  cases b with
  | true =>
    have lowered := map_toLower_of_isKeyword (by decide) reads
    have letters : ((truth true).all fun letter => letter.toNat < 128) = true := by decide
    have ascii : ∀ c ∈ word, c.toNat < 128 := by
      intro c member
      have letter : c.toLower ∈ truth true := lowered ▸ List.mem_map_of_mem member
      exact Text.ascii_of_toLower (of_decide_eq_true (List.all_eq_true.mp letters _ letter))
    rw [Text.lowerFrom_ascii ascii, lowered]
    rfl
  | false =>
    cases word with
    | nil => cases reads
    | cons c word =>
      have first : readsAs 'f' c = true := (Bool.and_eq_true_iff.mp reads).1
      have lowered : c.toLower = 'f' := toLower_of_readsAs (by decide) first
      have ascii : c.toNat < 128 := Text.ascii_of_toLower (by rw [lowered]; decide)
      rw [Text.lowerFrom_cons_ascii ascii, lowered]
      rfl

/-! Matches are derivations. -/

theorem isPlain_iff (c : Char) : isPlain c = true ↔ c ≠ '"' ∧ c ≠ '\r' ∧ c ≠ '\n' := by
  simp only [isPlain, ne_eq, Bool.and_eq_true, decide_eq_true_eq, and_assoc]

theorem isWordBoundary_iff {before : Option Char} {word rest : List Char} (named : IsName word) :
    isWordBoundary (lastOf before word) rest.head? = true ↔ Ended rest := by
  have last : (lastOf before word).any Text.isWord = true := by
    rw [lastOf, List.getLast?_eq_some_getLast named.1, Option.some_or, Option.any_some]
    exact named.2 _ (List.getLast_mem named.1)
  rw [isWordBoundary, last]
  cases rest with
  | nil => simp [Ended]
  | cons c rest => simp [Ended]

theorem reads_value_text_iff {before : Option Char} {s rest : List Char}
    {captures : List (List Char)} : (valuePattern .text).Reads before s rest captures ↔
      ∃ w, captures = [w] ∧ s = '"' :: (w ++ ['"']) ∧ ∀ c ∈ w, isPlain c = true := by
  rw [valuePattern, (silent_equals '"').seq_iff]
  constructor
  · rintro ⟨_, _, rfl, rfl, inner⟩
    obtain ⟨w, _, _, rfl, rfl, plain, closing⟩ := (silent_many _).capture_seq_iff.mp inner
    obtain ⟨rfl, rfl⟩ := (silent_equals '"' _ _ _ _).mp closing
    exact ⟨w, rfl, rfl, plain⟩
  · rintro ⟨w, rfl, rfl, plain⟩
    exact ⟨['"'], w ++ ['"'], rfl, rfl, (silent_many _).capture_seq_iff.mpr
      ⟨w, ['"'], [], rfl, rfl, plain, (silent_equals '"' _ _ _ _).mpr ⟨rfl, rfl⟩⟩⟩

theorem silent_truth : Silent (.either (keywordPattern (truth true)) (keywordPattern (truth false)))
    fun s => ∃ b, isKeyword (truth b) s = true := by
  refine ((silent_keyword _).either (silent_keyword _)).congr fun s => ?_
  rw [Bool.exists_bool, or_comm]

theorem reads_value_flag_iff {before : Option Char} {s rest : List Char}
    {captures : List (List Char)} : (valuePattern .flag).Reads before s rest captures ↔
      captures = [s] ∧ (∃ b, isKeyword (truth b) s = true) ∧ Ended rest := by
  rw [valuePattern, silent_truth.capture_seq_iff]
  constructor
  · rintro ⟨w, _, _, rfl, rfl, ⟨b, keyword⟩, rfl, rfl, boundary⟩
    rw [List.append_nil]
    exact ⟨rfl, ⟨b, keyword⟩, (isWordBoundary_iff (isName_of_truth keyword)).mp boundary⟩
  · rintro ⟨rfl, ⟨b, keyword⟩, ended⟩
    exact ⟨s, [], [], (List.append_nil s).symm, rfl, ⟨b, keyword⟩, rfl, rfl,
      (isWordBoundary_iff (isName_of_truth keyword)).mpr ended⟩

theorem written_of_reads {kind : ConstantKind} {before : Option Char} {s rest : List Char}
    {captures : List (List Char)} (reads : (valuePattern kind).Reads before s rest captures) :
    ∃ w, captures = [w] ∧ (valueOf kind w).kind = kind ∧ Written (valueOf kind w) s rest := by
  cases kind with
  | text =>
    obtain ⟨w, rfl, rfl, plain⟩ := reads_value_text_iff.mp reads
    exact ⟨w, rfl, rfl, .text fun c member => (isPlain_iff c).mp (plain c member)⟩
  | flag =>
    obtain ⟨rfl, ⟨b, keyword⟩, ended⟩ := reads_value_flag_iff.mp reads
    refine ⟨s, rfl, rfl, ?_⟩
    rw [valueOf, lowerFrom_truth keyword]
    exact .flag keyword ended

theorem reads_of_written {v : DeclaredValue} {s rest : List Char} (value : Written v s rest) :
    ∃ w, valueOf v.kind w = v ∧ ∀ before, (valuePattern v.kind).Reads before s rest [w] := by
  cases value with
  | text plain =>
    rename_i value
    have inner : ∀ c ∈ value, isPlain c = true := fun c member =>
      (isPlain_iff c).mpr (plain c member)
    exact ⟨value, rfl, fun _ => reads_value_text_iff.mpr ⟨value, rfl, rfl, inner⟩⟩
  | flag keyword ended =>
    exact ⟨s, congrArg DeclaredValue.flag (lowerFrom_truth keyword), fun _ =>
      reads_value_flag_iff.mpr ⟨rfl, ⟨_, keyword⟩, ended⟩⟩

theorem derives_of_reads {kind : ConstantKind} {before : Option Char} {s rest : List Char}
    {captures : List (List Char)} (reads : (pattern kind).Reads before s rest captures) :
    startsLine before = true ∧ ∃ n v, reading kind captures = (n, v) ∧ v.kind = kind ∧
      Derives n v s rest := by
  obtain ⟨starts, reads⟩ := lineStart_seq_iff.mp reads
  obtain ⟨indent, _, rfl, indented, reads⟩ := (silent_many _).seq_iff.mp reads
  obtain ⟨modifier, _, rfl, modified, reads⟩ := (silent_lead silent_modifier).maybe.seq_iff.mp reads
  obtain ⟨const, _, rfl, constant, reads⟩ :=
    (silent_lead (silent_keyword _)).maybe.seq_iff.mp reads
  obtain ⟨name, _, _, rfl, rfl, named, reads⟩ := (silent_atLeastOne _).capture_seq_iff.mp reads
  obtain ⟨clause, _, rfl, typed, reads⟩ := (silent_type _).maybe.seq_iff.mp reads
  obtain ⟨gap, _, rfl, spaced, reads⟩ := (silent_many _).seq_iff.mp reads
  obtain ⟨_, _, rfl, rfl, reads⟩ := (silent_equals '=').seq_iff.mp reads
  obtain ⟨gap', written, rfl, spaced', reads⟩ := (silent_many _).seq_iff.mp reads
  obtain ⟨w, rfl, known, value⟩ := written_of_reads reads
  refine ⟨starts, name, valueOf kind w, rfl, known, ?_⟩
  have typed : Maybe (IsType (typeWord (valueOf kind w))) clause := by
    rw [typeWord, known]
    exact typed
  have derived := Derives.intro (.intro indented modified constant named typed spaced) spaced' value
  simpa only [List.append_assoc, List.singleton_append] using derived

theorem reads_of_derives {n s rest : List Char} {v : DeclaredValue} {before : Option Char}
    (starts : startsLine before = true) (derived : Derives n v s rest) :
    ∃ captures, (pattern v.kind).Reads before s rest captures ∧
      reading v.kind captures = (n, v) := by
  obtain ⟨⟨indented, modified, constant, named, typed, spaced⟩, spaced', value⟩ := derived
  obtain ⟨w, same, reads⟩ := reads_of_written value
  refine ⟨[n, w], ?_, Prod.ext rfl same⟩
  simp only [List.append_assoc]
  refine lineStart_seq_iff.mpr ⟨starts, ?_⟩
  refine (silent_many _).seq_iff.mpr ⟨_, _, rfl, indented, ?_⟩
  refine (silent_lead silent_modifier).maybe.seq_iff.mpr ⟨_, _, rfl, modified, ?_⟩
  refine (silent_lead (silent_keyword _)).maybe.seq_iff.mpr ⟨_, _, rfl, constant, ?_⟩
  refine (silent_atLeastOne _).capture_seq_iff.mpr ⟨n, _, [w], rfl, rfl, named, ?_⟩
  refine (silent_type _).maybe.seq_iff.mpr ⟨_, _, rfl, typed, ?_⟩
  refine (silent_many _).seq_iff.mpr ⟨_, _, rfl, spaced, ?_⟩
  refine (silent_equals '=').seq_iff.mpr ⟨['='], _, rfl, rfl, ?_⟩
  exact (silent_many _).seq_iff.mpr ⟨_, _, rfl, spaced', reads _⟩

/-! The lines of a text. -/

theorem refuses_newline (kind : ConstantKind) : (pattern kind).refuses '\n' = true := by
  cases kind <;> decide

theorem single_of_derives {n s rest : List Char} {v : DeclaredValue}
    (derived : Derives n v s rest) : '\n' ∉ s := by
  have starts : startsLine none = true := rfl
  obtain ⟨_, reads, _⟩ := reads_of_derives starts derived
  exact not_mem_of_reads (refuses_newline v.kind) reads

theorem ne_nil_of_derives {n s rest : List Char} {v : DeclaredValue}
    (derived : Derives n v s rest) : s ≠ [] := by
  cases derived
  simp

theorem ended_append {rest tail : List Char} (ends : LineEnd tail) :
    Ended (rest ++ tail) ↔ Ended rest := by
  cases rest with
  | nil =>
    cases ends with
    | ofText => rfl
    | feed =>
      have none : Text.isWord '\n' = false := by decide
      simp [Ended, none]
  | cons c rest => rfl

theorem written_append {v : DeclaredValue} {s rest tail : List Char} (ends : LineEnd tail) :
    Written v s (rest ++ tail) ↔ Written v s rest := by
  constructor
  · rintro (plain | ⟨keyword, ended⟩)
    · exact .text plain
    · exact .flag keyword ((ended_append ends).mp ended)
  · rintro (plain | ⟨keyword, ended⟩)
    · exact .text plain
    · exact .flag keyword ((ended_append ends).mpr ended)

theorem derives_append {n s rest tail : List Char} {v : DeclaredValue} (ends : LineEnd tail) :
    Derives n v s (rest ++ tail) ↔ Derives n v s rest := by
  constructor
  · rintro ⟨before, spaced, value⟩
    exact .intro before spaced ((written_append ends).mp value)
  · rintro ⟨before, spaced, value⟩
    exact .intro before spaced ((written_append ends).mpr value)

def readOf? (kind : ConstantKind) (line : List Char) : Option (List Char × DeclaredValue) :=
  (read? line).filter fun found => found.2.kind = kind

theorem readOf?_eq_some {kind : ConstantKind} {line n : List Char} {v : DeclaredValue} :
    readOf? kind line = some (n, v) ↔ read? line = some (n, v) ∧ v.kind = kind := by
  rw [readOf?, Option.filter_eq_some_iff, decide_eq_true_eq]

theorem linewise (kind : ConstantKind) :
    Linewise (pattern kind) (reading kind) (readOf? kind) where
  anchored reads := (derives_of_reads reads).1
  within reads := by
    obtain ⟨_, n, v, _, _, derived⟩ := derives_of_reads reads
    exact ⟨ne_nil_of_derives derived, single_of_derives derived⟩
  reads_iff := by
    intro before line tail meaning starts single ends
    obtain ⟨n, v⟩ := meaning
    rw [readOf?_eq_some, read?_iff single]
    constructor
    · rintro ⟨s, rest, captures, split, reads, means⟩
      obtain ⟨_, n', v', means', known, derived⟩ := derives_of_reads reads
      rw [means] at means'
      cases means'
      obtain ⟨more, rfl, rfl⟩ := prefix_of_single (single_of_derives derived) ends split
      exact ⟨⟨s, more, rfl, (derives_append ends).mp derived⟩, known⟩
    · rintro ⟨⟨s, more, rfl, derived⟩, rfl⟩
      obtain ⟨captures, reads, means⟩ :=
        reads_of_derives starts ((derives_append ends).mpr derived)
      exact ⟨s, more ++ tail, captures, List.append_assoc s more tail, reads, means⟩

/-- The search through a text finds the declarations of its kind, in their order. -/
theorem scan_eq (kind : ConstantKind) (text : String) :
    scan kind text = (all text).filter fun d => d.value.kind = kind := by
  have lines : ∀ line, (readOf? kind line).map ofReading =
      (ofLine? line).filter fun d => d.value.kind = kind := by
    intro line
    rw [readOf?, ofLine?_eq_map, Option.filter_map]
    rfl
  calc scan kind text
    _ = (((pattern kind).search none text.toList).map (reading kind)).map ofReading := by
      rw [List.map_map]
      rfl
    _ = ((Text.cutChars '\n' text.toList).filterMap (readOf? kind)).map ofReading := by
      rw [(linewise kind).search_eq rfl]
    _ = (Text.cutChars '\n' text.toList).filterMap fun line =>
        (ofLine? line).filter fun d => d.value.kind = kind := by
      rw [List.map_filterMap]
      exact List.filterMap_congr fun line _ => lines line
    _ = (all text).filter fun d => d.value.kind = kind := List.filter_filterMap.symm

/-! Lines that declare nothing. -/

theorem read?_eq_none {line rest : List Char} {ws : List (List Char)} (found : words line = (ws, rest))
    (nameless : ∀ type ls n ts, Leads ls → Types type ts → ws = ls ++ n :: ts →
      ∀ after, rest ≠ '=' :: after) : read? line = none := by
  cases read : read? line with
  | none => rfl
  | some meaning =>
    obtain ⟨ws', after, found', _, named⟩ := read?_eq_some.mp read
    obtain ⟨ls, ts, split, leads, types⟩ := name?_eq_some.mp named
    rw [found] at found'
    obtain ⟨rfl, rfl⟩ := Prod.mk.inj found'
    exact absurd rfl (nameless _ ls meaning.1 ts leads types split after)

theorem ofLine?_of_mark {indent rest : List Char} {c : Char} (indented : IsBlank indent)
    (solid : isGap c = false) (mark : Text.isWord c = false) :
    ofLine? (indent ++ c :: rest) = none := by
  have start : (c :: rest).dropWhile isGap = c :: rest := List.dropWhile_cons_of_neg (by simp [solid])
  have wordless : (c :: rest).takeWhile Text.isWord = [] :=
    List.takeWhile_cons_of_neg (by simp [mark])
  have found : words (indent ++ c :: rest) = ([], c :: rest) := by
    rw [words_gap indented, words, start, if_pos wordless]
  have nothing : read? (indent ++ c :: rest) = none := by
    refine read?_eq_none found fun type ls n ts _ _ split => ?_
    cases ls <;> cases split
  rw [ofLine?_eq_map, nothing]
  rfl

theorem ofLine?_of_statement {indent word space other : List Char} (indented : IsBlank indent)
    (named : IsName word) (modifier : isModifier word = false)
    (const : isKeyword "const".toList word = false) (spaced : IsSpace space)
    (next : ∀ c ∈ other.head?, isGap c = false ∧ c ≠ '=')
    (untyped : isKeyword "as".toList (other.takeWhile Text.isWord) = false) :
    ofLine? (indent ++ (word ++ (space ++ other))) = none := by
  have found : words (indent ++ (word ++ (space ++ other))) =
      (word :: (words other).1, (words other).2) := by
    rw [words_gap indented, ← List.append_assoc,
      words_word_space named.1 named.2 spaced.1 spaced.2]
  have ungapped : ∀ gap rest, other = gap ++ rest → IsBlank gap → gap = [] := by
    intro gap rest split blank
    cases gap with
    | nil => rfl
    | cons c gap =>
      have solid := (next c (by rw [split]; rfl)).1
      rw [blank c List.mem_cons_self] at solid
      cases solid
  have nothing : read? (indent ++ (word ++ (space ++ other))) = none := by
    refine read?_eq_none found fun type ls n ts leads types split after equals => ?_
    cases leads with
    | none =>
      obtain ⟨rfl, behind⟩ := List.cons.inj split
      have more : words other = (ts, '=' :: after) := Prod.ext behind equals
      cases types with
      | none =>
        obtain ⟨gap, split, blank⟩ := split_of_words_nil more
        rw [ungapped gap _ split blank] at split
        exact (next '=' (by rw [split]; rfl)).2 rfl
      | clause keyword _ =>
        obtain ⟨gap, s, split, blank, as_name, ended, _⟩ := split_of_words_cons more
        rw [ungapped gap _ split blank, List.nil_append] at split
        rw [split, takeWhile_word as_name.2 ended, keyword] at untyped
        cases untyped
    | modifier modifies =>
      obtain ⟨rfl, _⟩ := List.cons.inj split
      rw [modifies] at modifier
      cases modifier
    | const constant =>
      obtain ⟨rfl, _⟩ := List.cons.inj split
      rw [constant] at const
      cases const
    | both modifies _ =>
      obtain ⟨rfl, _⟩ := List.cons.inj split
      rw [modifies] at modifier
      cases modifier
  rw [ofLine?_eq_map, nothing]
  rfl

example : ofLine? ("    ".toList ++ ("If".toList ++ (" ".toList ++ "x = True Then".toList))) =
    none := by
  refine ofLine?_of_statement (by decide) (by decide) (by decide) (by decide) (by decide) ?_
    (by decide)
  intro c first
  cases first
  decide

/-- What a text declares is what its lines declare, one by one, by the grammar. -/
structure DeclaredByLine (text : String) (lines : List (List Char)) : Prop where
  all : all text = lines.filterMap ofLine?
  scanned (kind : ConstantKind) :
    scan kind text = (lines.filterMap ofLine?).filter fun d => d.value.kind = kind
  located (kind : ConstantKind) (before : Option Char) (behind : List Char) :
    ∀ m ∈ (pattern kind).runs ⟨before, behind⟩,
      startsLine before = true ∧ ∃ s, behind = s ++ m.cursor.rest ∧ '\n' ∉ s
  agreed (kind : ConstantKind) (before : Option Char) (behind : List Char) :
    ∀ m ∈ (pattern kind).runs ⟨before, behind⟩, ∀ m' ∈ (pattern kind).runs ⟨before, behind⟩,
      reading kind m.captures = reading kind m'.captures
  derived : ∀ line ∈ lines, ∀ d, ofLine? line = some d ↔
    ∃ n s rest, line = s ++ rest ∧ Derives n d.value s rest ∧
      d.name = String.ofList (Text.lowerFrom [] n)
  unique : ∀ line ∈ lines, ∀ n n' v v' s s' rest rest', line = s ++ rest → Derives n v s rest →
    line = s' ++ rest' → Derives n' v' s' rest' → n = n' ∧ v = v'
  /-- In particular no comment declares anything. -/
  mark : ∀ indent c rest, indent ++ c :: rest ∈ lines → IsBlank indent → isGap c = false →
    Text.isWord c = false → ofLine? (indent ++ c :: rest) = none
  /-- Nor does a comparison. -/
  statement : ∀ indent word space other, indent ++ (word ++ (space ++ other)) ∈ lines →
    IsBlank indent → IsName word → isModifier word = false →
    isKeyword "const".toList word = false → IsSpace space →
    (∀ c ∈ other.head?, isGap c = false ∧ c ≠ '=') →
    isKeyword "as".toList (other.takeWhile Text.isWord) = false →
      ofLine? (indent ++ (word ++ (space ++ other))) = none

theorem declared_by_line (text : String) :
    DeclaredByLine text (Text.cutChars '\n' text.toList) where
  all := rfl
  scanned kind := scan_eq kind text
  located kind _ _ _ run := (linewise kind).located run
  agreed kind _ _ _ run _ run' := (linewise kind).agree run run'
  derived := by
    intro line listed d
    have single := Text.not_mem_of_mem_cutChars listed
    rw [ofLine?_eq_map, Option.map_eq_some_iff]
    constructor
    · rintro ⟨⟨n, v⟩, read, rfl⟩
      obtain ⟨s, rest, split, derived⟩ := (read?_iff single).mp read
      exact ⟨n, s, rest, split, derived, rfl⟩
    · rintro ⟨n, s, rest, split, derived, named⟩
      refine ⟨(n, d.value), (read?_iff single).mpr ⟨s, rest, split, derived⟩, ?_⟩
      exact congrArg (Declaration.mk · d.value) named.symm
  unique := by
    intro line _ n n' v v' s s' rest rest' split derived split' derived'
    exact derives_unique derived derived' (split.symm.trans split')
  mark _ _ _ _ indented solid mark := ofLine?_of_mark indented solid mark
  statement _ _ _ _ _ indented named modifier const spaced next untyped :=
    ofLine?_of_statement indented named modifier const spaced next untyped

end Rulesheet.Declaration
