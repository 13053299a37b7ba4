import Mathlib.Data.List.TakeWhile
import Rulesheet.Proofs.Definition.Resolution
import Rulesheet.Proofs.Definition.Words

/- The grammar of declarations. A declaration is a prefix of a line, derived from the productions
   below; what follows it does not matter, except that a truth value ends where a word ends. A line
   has one reading at most, although keywords may also be names: what it is read as is what can be
   derived. -/
namespace Rulesheet.Declaration

/-! Productions. -/

def IsBlank (s : List Char) : Prop := ∀ c ∈ s, isGap c = true

def IsSpace (s : List Char) : Prop := s ≠ [] ∧ IsBlank s

def IsName (s : List Char) : Prop := s ≠ [] ∧ ∀ c ∈ s, Text.isWord c = true

instance (s : List Char) : Decidable (IsBlank s) := List.decidableBAll _ s

instance (s : List Char) : Decidable (IsSpace s) :=
  @instDecidableAnd _ _ inferInstance (List.decidableBAll _ s)

instance (s : List Char) : Decidable (IsName s) :=
  @instDecidableAnd _ _ inferInstance (List.decidableBAll _ s)

def Maybe (production : List Char → Prop) (s : List Char) : Prop := s = [] ∨ production s

inductive IsLead (reads : List Char → Bool) : List Char → Prop where
  | intro {word space : List Char} (keyword : reads word = true) (spaced : IsSpace space) :
    IsLead reads (word ++ space)

inductive IsType (type : List Char) : List Char → Prop where
  | intro {before as between word : List Char} (apart : IsSpace before)
    (keyword : isKeyword "as".toList as = true) (spaced : IsSpace between)
    (typed : isKeyword type word = true) : IsType type (before ++ (as ++ (between ++ word)))

inductive Head (type : List Char) : List Char → List Char → Prop where
  | intro {indent modifier const name clause before : List Char} (indented : IsBlank indent)
    (modified : Maybe (IsLead isModifier) modifier)
    (constant : Maybe (IsLead (isKeyword "const".toList)) const) (named : IsName name)
    (typed : Maybe (IsType type) clause) (spaced : IsBlank before) :
    Head type name (indent ++ (modifier ++ (const ++ (name ++ (clause ++ before)))))

def truth (b : Bool) : List Char := if b then "true".toList else "false".toList

inductive Written : DeclaredValue → List Char → List Char → Prop where
  | text {value rest : List Char} (plain : ∀ c ∈ value, c ≠ '"' ∧ c ≠ '\r' ∧ c ≠ '\n') :
    Written (.text (String.ofList value)) ('"' :: (value ++ ['"'])) rest
  | flag {word rest : List Char} {b : Bool} (keyword : isKeyword (truth b) word = true)
    (ended : ∀ c ∈ rest.head?, Text.isWord c = false) : Written (.flag b) word rest

def typeWord (v : DeclaredValue) : List Char := v.kind.label.toList

/-- Name and value, the prefix that they are derived from and what follows it. -/
inductive Derives : List Char → DeclaredValue → List Char → List Char → Prop where
  | intro {name head gap written rest : List Char} {v : DeclaredValue}
    (before : Head (typeWord v) name head) (spaced : IsBlank gap) (value : Written v written rest) :
    Derives name v (head ++ '=' :: (gap ++ written)) rest

def value? (after : List Char) : Option DeclaredValue :=
  match textValue? (after.dropWhile isGap), flagValue? (after.dropWhile isGap) with
  | some s, _ => some (.text (String.ofList s))
  | none, some b => some (.flag b)
  | none, none => none

def read? (line : List Char) : Option (List Char × DeclaredValue) :=
  match words line with
  | (ws, '=' :: after) => (value? after).bind fun v => (name? (typeWord v) ws).map fun n => (n, v)
  | _ => none

def ofReading : List Char × DeclaredValue → Declaration
  | (n, v) => ⟨String.ofList (Text.lowerFrom [] n), v⟩

theorem read?_of_words {line after : List Char} {ws : List (List Char)}
    (found : words line = (ws, '=' :: after)) :
    read? line = (value? after).bind fun v => (name? (typeWord v) ws).map fun n => (n, v) := by
  unfold read?
  rw [found]
  rfl

theorem read?_of_other {line : List Char}
    (other : ∀ ws after, words line ≠ (ws, '=' :: after)) : read? line = none := by
  unfold read?
  split
  · rename_i found
    exact absurd found (other _ _)
  · rfl

theorem ofLine?_of_other {line : List Char}
    (other : ∀ ws after, words line ≠ (ws, '=' :: after)) : ofLine? line = none := by
  unfold ofLine?
  split
  split
  · rename_i found
    exact absurd found (other _ _)
  · rfl

theorem ofLine?_eq_map (line : List Char) : ofLine? line = (read? line).map ofReading := by
  by_cases equals : ∃ ws after, words line = (ws, '=' :: after)
  · obtain ⟨ws, after, found⟩ := equals
    rw [ofLine?_of_words found, read?_of_words found, value?]
    cases textValue? (after.dropWhile isGap) with
    | some s =>
      simp only [Option.bind_some, Option.map_map, Function.comp_def]
      rfl
    | none =>
      cases flagValue? (after.dropWhile isGap) with
      | some b =>
        simp only [Option.bind_some, Option.map_map, Function.comp_def]
        rfl
      | none => rfl
  · have other : ∀ ws after, words line ≠ (ws, '=' :: after) :=
      fun ws after found => equals ⟨ws, after, found⟩
    rw [ofLine?_of_other other, read?_of_other other]
    rfl

theorem read?_eq_some {line n : List Char} {v : DeclaredValue} :
    read? line = some (n, v) ↔
      ∃ ws after, words line = (ws, '=' :: after) ∧ value? after = some v ∧
        name? (typeWord v) ws = some n := by
  constructor
  · intro read
    by_cases equals : ∃ ws after, words line = (ws, '=' :: after)
    · obtain ⟨ws, after, found⟩ := equals
      rw [read?_of_words found] at read
      obtain ⟨v', value, named⟩ := Option.bind_eq_some_iff.mp read
      obtain ⟨n', name, same⟩ := Option.map_eq_some_iff.mp named
      cases same
      exact ⟨ws, after, found, value, name⟩
    · rw [read?_of_other fun ws after found => equals ⟨ws, after, found⟩] at read
      cases read
  · rintro ⟨ws, after, found, value, name⟩
    rw [read?_of_words found, value, Option.bind_some, name]
    rfl

/-! Keywords. -/

theorem isWord_of_readsAs {letter c : Char} (word : Text.isWord letter = true)
    (reads : readsAs letter c = true) : Text.isWord c = true := by
  simp only [readsAs, Bool.or_eq_true, Bool.and_eq_true, beq_iff_eq] at reads
  rcases reads with (lowered | ⟨_, rfl⟩) | ⟨_, rfl | rfl⟩
  · rw [← Text.isWord_toLower, lowered]
    exact word
  · decide +kernel
  · decide +kernel
  · decide +kernel

theorem isName_of_isKeyword {keyword word : List Char} (known : IsName keyword)
    (reads : isKeyword keyword word = true) : IsName word := by
  obtain ⟨filled, letters⟩ := known
  refine ⟨?_, ?_⟩
  · rintro rfl
    exact filled (List.length_eq_zero_iff.mp (length_of_isKeyword reads))
  · clear filled
    induction keyword generalizing word with
    | nil =>
      cases word with
      | nil => simp
      | cons c rest => cases reads
    | cons k keyword ih =>
      cases word with
      | nil => simp
      | cons c rest =>
        rw [isKeyword, Bool.and_eq_true] at reads
        rw [List.forall_mem_cons] at letters ⊢
        exact ⟨isWord_of_readsAs letters.1 reads.1, ih reads.2 letters.2⟩

theorem isName_of_isModifier {word : List Char} (reads : isModifier word = true) :
    IsName word := by
  simp only [isModifier, Bool.or_eq_true] at reads
  rcases reads with ((reads | reads) | reads) | reads
  · exact isName_of_isKeyword (by decide) reads
  · exact isName_of_isKeyword (by decide) reads
  · exact isName_of_isKeyword (by decide) reads
  · exact isName_of_isKeyword (by decide) reads

theorem isName_of_const {word : List Char} (reads : isKeyword "const".toList word = true) :
    IsName word := isName_of_isKeyword (by decide) reads

theorem isName_of_as {word : List Char} (reads : isKeyword "as".toList word = true) :
    IsName word := isName_of_isKeyword (by decide) reads

theorem isName_of_truth {b : Bool} {word : List Char} (reads : isKeyword (truth b) word = true) :
    IsName word := by
  cases b
  · exact isName_of_isKeyword (by decide) reads
  · exact isName_of_isKeyword (by decide) reads

theorem not_isKeyword_of_length {keyword other word : List Char}
    (reads : isKeyword keyword word = true) (lengths : other.length ≠ keyword.length) :
    isKeyword other word = false := by
  by_contra both
  have same := length_of_isKeyword (Bool.not_eq_false _ ▸ both)
  exact lengths (same.trans (length_of_isKeyword reads).symm)

/-! Words. A keyword is no name where the words that follow leave it none. -/

inductive Leads : List (List Char) → Prop where
  | none : Leads []
  | modifier {m : List Char} (modifies : isModifier m = true) : Leads [m]
  | const {k : List Char} (constant : isKeyword "const".toList k = true) : Leads [k]
  | both {m k : List Char} (modifies : isModifier m = true)
    (constant : isKeyword "const".toList k = true) : Leads [m, k]

inductive Types (type : List Char) : List (List Char) → Prop where
  | none : Types type []
  | clause {as word : List Char} (keyword : isKeyword "as".toList as = true)
    (typed : isKeyword type word = true) : Types type [as, word]

theorem withoutType_splits (type : List Char) (ws : List (List Char)) :
    ∃ ts, Types type ts ∧ ws = withoutType type ws ++ ts := by
  unfold withoutType
  split
  · rename_i word as name before reversed
    split
    · rename_i keywords
      rw [Bool.and_eq_true] at keywords
      refine ⟨[as, word], .clause keywords.1 keywords.2, ?_⟩
      rw [← List.reverse_reverse ws, reversed]
      simp
    · exact ⟨[], .none, (List.append_nil _).symm⟩
  · exact ⟨[], .none, (List.append_nil _).symm⟩

theorem withoutType_of_leads {type n : List Char} {ls ts : List (List Char)} (leads : Leads ls)
    (types : Types type ts) : withoutType type (ls ++ n :: ts) = ls ++ [n] := by
  unfold withoutType
  cases types with
  | none =>
    cases leads with
    | none => rfl
    | modifier => rfl
    | const => rfl
    | both modifies constant =>
      have other : isKeyword "as".toList _ = false :=
        not_isKeyword_of_length constant (by decide)
      simp only [List.cons_append, List.nil_append, List.reverse_cons, List.reverse_nil, other,
        Bool.false_and, Bool.false_eq_true, if_false]
  | clause keyword typed =>
    simp only [List.reverse_append, List.reverse_cons, List.reverse_nil, List.nil_append,
      List.cons_append, keyword, typed, Bool.and_self, if_true, List.reverse_reverse]

theorem name?_eq_some {type n : List Char} {ws : List (List Char)} :
    name? type ws = some n ↔ ∃ ls ts, ws = ls ++ n :: ts ∧ Leads ls ∧ Types type ts := by
  constructor
  · intro named
    obtain ⟨ts, types, split⟩ := withoutType_splits type ws
    unfold name? at named
    split at named
    · rename_i name only
      cases named
      exact ⟨[], ts, by rw [split, only]; rfl, .none, types⟩
    · rename_i lead name two
      split at named
      · rename_i keyword
        cases named
        rw [Bool.or_eq_true] at keyword
        refine ⟨[lead], ts, by rw [split, two]; rfl, ?_, types⟩
        exact keyword.elim .modifier .const
      · cases named
    · rename_i lead const name three
      split at named
      · rename_i keywords
        cases named
        rw [Bool.and_eq_true] at keywords
        exact ⟨[lead, const], ts, by rw [split, three]; rfl, .both keywords.1 keywords.2, types⟩
      · cases named
    · cases named
  · rintro ⟨ls, ts, rfl, leads, types⟩
    unfold name?
    rw [withoutType_of_leads leads types]
    cases leads with
    | none => rfl
    | modifier modifies =>
      simp only [List.cons_append, List.nil_append, modifies, Bool.true_or, if_true]
    | const constant =>
      simp only [List.cons_append, List.nil_append, constant, Bool.or_true, if_true]
    | both modifies constant =>
      simp only [List.cons_append, List.nil_append, modifies, constant, Bool.and_self, if_true]

/-! From a head to its words. -/

theorem words_lead {reads : List Char → Bool} (name : ∀ w, reads w = true → IsName w)
    {s : List Char} (lead : Maybe (IsLead reads) s) (rest : List Char) :
    ∃ ls : List (List Char), (ls = [] ∨ ∃ w, reads w = true ∧ ls = [w]) ∧
      words (s ++ rest) = (ls ++ (words rest).1, (words rest).2) := by
  rcases lead with rfl | ⟨keyword, spaced⟩
  · exact ⟨[], .inl rfl, rfl⟩
  · rename_i word space
    have named := name word keyword
    exact ⟨[word], .inr ⟨word, keyword, rfl⟩,
      words_word_space named.1 named.2 spaced.1 spaced.2 rest⟩

theorem words_clause {type s before : List Char} (known : IsName type)
    (clause : Maybe (IsType type) s) (spaced : IsBlank before) (after : List Char) :
    ∃ ts, Types type ts ∧ words (s ++ (before ++ '=' :: after)) = (ts, '=' :: after) ∧
      ∀ c ∈ (s ++ (before ++ '=' :: after)).head?, Text.isWord c = false := by
  rcases clause with rfl | ⟨apart, keyword, between_spaced, typed⟩
  · refine ⟨[], .none, ?_, head_gap spaced after⟩
    rw [List.nil_append, words_gap spaced, words_equals]
  · rename_i apart_ as between word
    refine ⟨[as, word], .clause keyword typed, ?_, ?_⟩
    · have as_name := isName_of_as keyword
      have type_name := isName_of_isKeyword known typed
      rw [List.append_assoc, words_gap apart.2, List.append_assoc, List.append_assoc,
        ← List.append_assoc as, words_word_space as_name.1 as_name.2 between_spaced.1
          between_spaced.2,
        words_word type_name.1 type_name.2 (head_gap spaced after), words_gap spaced, words_equals]
    · obtain ⟨c, more, rfl⟩ := List.exists_cons_of_ne_nil apart.1
      intro d first
      cases first
      exact isWord_of_isGap (apart.2 c List.mem_cons_self)

theorem leads_append {ls ks : List (List Char)}
    (modifier : ls = [] ∨ ∃ w, isModifier w = true ∧ ls = [w])
    (const : ks = [] ∨ ∃ w, isKeyword "const".toList w = true ∧ ks = [w]) : Leads (ls ++ ks) := by
  rcases modifier with rfl | ⟨m, modifies, rfl⟩
  · rcases const with rfl | ⟨k, constant, rfl⟩
    · exact .none
    · exact .const constant
  · rcases const with rfl | ⟨k, constant, rfl⟩
    · exact .modifier modifies
    · exact .both modifies constant

theorem words_of_head {type name head : List Char} (known : IsName type)
    (derived : Head type name head) (after : List Char) :
    ∃ ws, words (head ++ '=' :: after) = (ws, '=' :: after) ∧ name? type ws = some name := by
  cases derived with
  | intro indented modified constant named typed spaced =>
    rename_i indent modifier const clause before
    obtain ⟨ts, types, clause_words, ended⟩ := words_clause known typed spaced after
    obtain ⟨ks, const_leads, const_words⟩ := words_lead (fun _ => isName_of_const) constant
      (name ++ (clause ++ (before ++ '=' :: after)))
    obtain ⟨ls, modifier_leads, modifier_words⟩ := words_lead (fun _ => isName_of_isModifier) modified
      (const ++ (name ++ (clause ++ (before ++ '=' :: after))))
    refine ⟨ls ++ ks ++ name :: ts, ?_,
      name?_eq_some.mpr ⟨ls ++ ks, ts, rfl, leads_append modifier_leads const_leads, types⟩⟩
    simp only [List.append_assoc]
    rw [words_gap indented, modifier_words, const_words, words_word named.1 named.2 ended,
      clause_words]

/-! From words back to a head. -/

def Ended (s : List Char) : Prop := ∀ c ∈ s.head?, Text.isWord c = false

theorem blank_takeWhile (s : List Char) : IsBlank (s.takeWhile isGap) := fun _ =>
  List.mem_takeWhile_imp

theorem ended_dropWhile (s : List Char) : Ended (s.dropWhile Text.isWord) := by
  intro c first
  have head := List.head?_dropWhile_not Text.isWord s
  rw [first] at head
  simpa using head

theorem split_of_words_nil {s rest : List Char} (found : words s = ([], rest)) :
    ∃ gap, s = gap ++ rest ∧ IsBlank gap := by
  rw [words] at found
  split at found
  · cases found
    exact ⟨s.takeWhile isGap, List.takeWhile_append_dropWhile.symm, blank_takeWhile s⟩
  · cases found

theorem split_of_words_cons {s w rest : List Char} {ws : List (List Char)}
    (found : words s = (w :: ws, rest)) :
    ∃ gap s', s = gap ++ (w ++ s') ∧ IsBlank gap ∧ IsName w ∧ Ended s' ∧
      words s' = (ws, rest) := by
  rw [words] at found
  split at found
  · cases found
  · rename_i filled
    obtain ⟨first, more⟩ := Prod.mk.inj found
    obtain ⟨rfl, rfl⟩ := List.cons.inj first
    refine ⟨s.takeWhile isGap, (s.dropWhile isGap).dropWhile Text.isWord, ?_, blank_takeWhile s,
      ⟨filled, fun _ => List.mem_takeWhile_imp⟩, ended_dropWhile _, Prod.ext rfl more⟩
    rw [List.takeWhile_append_dropWhile, List.takeWhile_append_dropWhile]

theorem split_of_next_word {s w rest : List Char} {ws : List (List Char)} (ended : Ended s)
    (found : words s = (w :: ws, rest)) :
    ∃ space s', s = space ++ (w ++ s') ∧ IsSpace space ∧ IsName w ∧ Ended s' ∧
      words s' = (ws, rest) := by
  obtain ⟨gap, s', rfl, blank, named, after, more⟩ := split_of_words_cons found
  refine ⟨gap, s', rfl, ⟨?_, blank⟩, named, after, more⟩
  -- without a gap the word before would go on
  rintro rfl
  obtain ⟨c, letters, rfl⟩ := List.exists_cons_of_ne_nil named.1
  have stops := ended c rfl
  rw [named.2 c List.mem_cons_self] at stops
  cases stops

theorem clause_of_words {type s after : List Char} {ts : List (List Char)} (ended : Ended s)
    (types : Types type ts) (found : words s = (ts, '=' :: after)) :
    ∃ clause before, s = clause ++ (before ++ '=' :: after) ∧ Maybe (IsType type) clause ∧
      IsBlank before := by
  cases types with
  | none =>
    obtain ⟨gap, rfl, blank⟩ := split_of_words_nil found
    exact ⟨[], gap, rfl, .inl rfl, blank⟩
  | clause keyword typed =>
    rename_i as word
    obtain ⟨apart, s, rfl, apart_space, _, as_ended, found⟩ := split_of_next_word ended found
    obtain ⟨between, s, rfl, space, _, _, found⟩ := split_of_next_word as_ended found
    obtain ⟨gap, rfl, blank⟩ := split_of_words_nil found
    exact ⟨apart ++ (as ++ (between ++ word)), gap, by simp only [List.append_assoc],
      .inr (.intro apart_space keyword space typed), blank⟩

theorem head_of_words {type name line after : List Char} {ws : List (List Char)}
    (found : words line = (ws, '=' :: after)) (named : name? type ws = some name) :
    ∃ head, line = head ++ '=' :: after ∧ Head type name head := by
  obtain ⟨ls, ts, rfl, leads, types⟩ := name?_eq_some.mp named
  cases leads with
  | none =>
    obtain ⟨indent, s, rfl, indented, named, ended, found⟩ := split_of_words_cons found
    obtain ⟨clause, before, rfl, typed, spaced⟩ := clause_of_words ended types found
    exact ⟨_, by simp only [List.append_assoc, List.nil_append],
      .intro indented (.inl rfl) (.inl rfl) named typed spaced⟩
  | modifier modifies =>
    obtain ⟨indent, s, rfl, indented, _, ended, found⟩ := split_of_words_cons found
    obtain ⟨space, s, rfl, apart, named, ended, found⟩ := split_of_next_word ended found
    obtain ⟨clause, before, rfl, typed, spaced⟩ := clause_of_words ended types found
    exact ⟨_, by simp only [List.append_assoc, List.nil_append],
      .intro indented (.inr (.intro modifies apart)) (.inl rfl) named typed spaced⟩
  | const constant =>
    obtain ⟨indent, s, rfl, indented, _, ended, found⟩ := split_of_words_cons found
    obtain ⟨space, s, rfl, apart, named, ended, found⟩ := split_of_next_word ended found
    obtain ⟨clause, before, rfl, typed, spaced⟩ := clause_of_words ended types found
    exact ⟨_, by simp only [List.append_assoc, List.nil_append],
      .intro indented (.inl rfl) (.inr (.intro constant apart)) named typed spaced⟩
  | both modifies constant =>
    obtain ⟨indent, s, rfl, indented, _, ended, found⟩ := split_of_words_cons found
    obtain ⟨space, s, rfl, apart, _, ended, found⟩ := split_of_next_word ended found
    obtain ⟨space', s, rfl, apart', named, ended, found⟩ := split_of_next_word ended found
    obtain ⟨clause, before, rfl, typed, spaced⟩ := clause_of_words ended types found
    exact ⟨_, by simp only [List.append_assoc],
      .intro indented (.inr (.intro modifies apart)) (.inr (.intro constant apart')) named typed
        spaced⟩

/-! Values. -/

theorem textValue?_eq_some {v s : List Char} :
    textValue? v = some s ↔
      ∃ tail, v = '"' :: (s ++ '"' :: tail) ∧ ∀ c ∈ s, c ≠ '"' ∧ c ≠ '\r' := by
  have inner : ∀ c : Char, (c ≠ '"' && c ≠ '\r') = true ↔ c ≠ '"' ∧ c ≠ '\r' := by simp
  constructor
  · intro found
    unfold textValue? at found
    split at found
    · rename_i rest
      split at found
      · rename_i tail closing
        cases found
        refine ⟨tail, by rw [← closing, List.takeWhile_append_dropWhile], ?_⟩
        intro c member
        have holds := List.mem_takeWhile_imp member
        exact (inner c).mp holds
      · cases found
    · cases found
  · rintro ⟨tail, rfl, plain⟩
    have inside : ∀ c ∈ s, (c ≠ '"' && c ≠ '\r') = true := fun c member =>
      (inner c).mpr (plain c member)
    have behind : (s ++ '"' :: tail).dropWhile (fun c => c ≠ '"' && c ≠ '\r') = '"' :: tail := by
      rw [List.dropWhile_append_of_pos inside]
      exact List.dropWhile_cons_of_neg (by decide)
    have within : (s ++ '"' :: tail).takeWhile (fun c => c ≠ '"' && c ≠ '\r') = s := by
      rw [List.takeWhile_append_of_pos inside, List.takeWhile_cons_of_neg (by decide),
        List.append_nil]
    simp only [textValue?, behind, within]

theorem textValue?_of_name {word rest : List Char} (named : IsName word) :
    textValue? (word ++ rest) = none := by
  by_contra quoted
  obtain ⟨s, found⟩ := Option.ne_none_iff_exists'.mp quoted
  obtain ⟨tail, same, _⟩ := textValue?_eq_some.mp found
  obtain ⟨c, letters, rfl⟩ := List.exists_cons_of_ne_nil named.1
  have first := named.2 c List.mem_cons_self
  rw [(List.cons.inj same).1] at first
  exact absurd first (by decide)

theorem flagValue?_eq_some {s : List Char} {b : Bool} :
    flagValue? s = some b ↔
      ∃ word rest, s = word ++ rest ∧ isKeyword (truth b) word = true ∧ Ended rest := by
  constructor
  · intro found
    refine ⟨s.takeWhile Text.isWord, s.dropWhile Text.isWord,
      List.takeWhile_append_dropWhile.symm, ?_, ended_dropWhile s⟩
    unfold flagValue? at found
    dsimp only at found
    split at found
    · cases found
      assumption
    · split at found
      · cases found
        assumption
      · cases found
  · rintro ⟨word, rest, rfl, keyword, ended⟩
    unfold flagValue?
    rw [takeWhile_word (isName_of_truth keyword).2 ended]
    cases b with
    | true => exact if_pos keyword
    | false =>
      have other : isKeyword "true".toList word = false :=
        not_isKeyword_of_length keyword (by decide)
      dsimp only
      rw [if_neg (by simpa using other)]
      exact if_pos keyword

theorem dropWhile_gap {gap s : List Char} (blank : IsBlank gap)
    (stops : ∀ c ∈ s.head?, isGap c = false) : (gap ++ s).dropWhile isGap = s := by
  rw [List.dropWhile_append_of_pos blank]
  cases s with
  | nil => rfl
  | cons c rest => exact List.dropWhile_cons_of_neg (by simp [stops c rfl])

theorem value?_of_written {v : DeclaredValue} {gap written rest : List Char} (blank : IsBlank gap)
    (value : Written v written rest) : value? (gap ++ (written ++ rest)) = some v := by
  unfold value?
  cases value with
  | text plain =>
    rename_i value
    have quoted : textValue? ('"' :: (value ++ ['"']) ++ rest) = some value :=
      textValue?_eq_some.mpr ⟨rest, by simp,
        fun c member => ⟨(plain c member).1, (plain c member).2.1⟩⟩
    have stops : ∀ c ∈ ('"' :: (value ++ ['"']) ++ rest).head?, isGap c = false := by
      intro c first
      cases first
      decide
    rw [dropWhile_gap blank stops, quoted]
  | flag keyword ended =>
    rename_i b
    have named := isName_of_truth keyword
    have stops : ∀ c ∈ (written ++ rest).head?, isGap c = false := by
      obtain ⟨c, letters, rfl⟩ := List.exists_cons_of_ne_nil named.1
      intro d first
      cases first
      exact isGap_of_isWord (named.2 c List.mem_cons_self)
    rw [dropWhile_gap blank stops, textValue?_of_name named,
      flagValue?_eq_some.mpr ⟨written, rest, rfl, keyword, ended⟩]

theorem written_of_value? {v : DeclaredValue} {after : List Char} (single : '\n' ∉ after)
    (value : value? after = some v) :
    ∃ gap written rest, after = gap ++ (written ++ rest) ∧ IsBlank gap ∧
      Written v written rest := by
  have split : after = after.takeWhile isGap ++ after.dropWhile isGap :=
    List.takeWhile_append_dropWhile.symm
  refine ⟨after.takeWhile isGap, ?_⟩
  unfold value? at value
  cases quoted : textValue? (after.dropWhile isGap) with
  | some s =>
    rw [quoted] at value
    cases value
    obtain ⟨tail, behind, plain⟩ := textValue?_eq_some.mp quoted
    rw [behind] at split
    refine ⟨'"' :: (s ++ ['"']), tail, by simpa using split, blank_takeWhile after, .text ?_⟩
    intro c member
    refine ⟨(plain c member).1, (plain c member).2, ?_⟩
    rintro rfl
    apply single
    rw [split]
    simp [member]
  | none =>
    rw [quoted] at value
    cases flagged : flagValue? (after.dropWhile isGap) with
    | none =>
      rw [flagged] at value
      cases value
    | some b =>
      rw [flagged] at value
      cases value
      obtain ⟨word, rest, behind, keyword, ended⟩ := flagValue?_eq_some.mp flagged
      rw [behind] at split
      exact ⟨word, rest, split, blank_takeWhile after, .flag keyword ended⟩

/-! Readings are derivations. -/

theorem isName_typeWord (v : DeclaredValue) : IsName (typeWord v) := by
  cases v
  · exact (by decide : IsName "string".toList)
  · exact (by decide : IsName "boolean".toList)

theorem read?_of_derives {n s rest : List Char} {v : DeclaredValue} (derived : Derives n v s rest) :
    read? (s ++ rest) = some (n, v) := by
  cases derived with
  | intro before spaced value =>
    rename_i head gap written
    obtain ⟨ws, found, named⟩ :=
      words_of_head (isName_typeWord v) before (gap ++ (written ++ rest))
    refine read?_eq_some.mpr ⟨ws, gap ++ (written ++ rest), ?_, value?_of_written spaced value, named⟩
    rw [← found]
    simp only [List.append_assoc, List.cons_append]

theorem derives_of_read? {line n : List Char} {v : DeclaredValue} (single : '\n' ∉ line)
    (read : read? line = some (n, v)) : ∃ s rest, line = s ++ rest ∧ Derives n v s rest := by
  obtain ⟨ws, after, found, value, named⟩ := read?_eq_some.mp read
  obtain ⟨head, rfl, before⟩ := head_of_words found named
  have single' : '\n' ∉ after := by
    intro member
    exact single (by simp [member])
  obtain ⟨gap, written, rest, rfl, spaced, value⟩ := written_of_value? single' value
  exact ⟨head ++ '=' :: (gap ++ written), rest, by simp only [List.append_assoc, List.cons_append],
    .intro before spaced value⟩

/-- A line is read as what can be derived from it. -/
theorem read?_iff {line n : List Char} {v : DeclaredValue} (single : '\n' ∉ line) :
    read? line = some (n, v) ↔ ∃ s rest, line = s ++ rest ∧ Derives n v s rest := by
  constructor
  · exact derives_of_read? single
  · rintro ⟨s, rest, rfl, derived⟩
    exact read?_of_derives derived

/-- Keywords can be names and names can begin with keywords, yet a text has one reading at most. -/
theorem derives_unique {n n' s s' rest rest' : List Char} {v v' : DeclaredValue}
    (first : Derives n v s rest) (second : Derives n' v' s' rest')
    (same : s ++ rest = s' ++ rest') : n = n' ∧ v = v' := by
  have read := read?_of_derives first
  rw [same, read?_of_derives second] at read
  exact Prod.mk.inj (Option.some.inj read.symm)

end Rulesheet.Declaration
