import Rulesheet.Proofs.Text.Pieces
import Rulesheet.Text.Word

/- Patterns and the search for their matches. A run of a pattern backtracks: all ways to read it
   from a place come in order of preference, and a search takes the first one, from left to right
   through a whole text. What a pattern can read is described without this order. Where all ways to
   read it at the start of a line give the same captures, a search finds what the single lines
   hold. -/
namespace Rulesheet

inductive Pattern where
  | empty
  | lineStart
  | wordBoundary
  | one (accepts : Char → Bool)
  | many (accepts : Char → Bool)
  | maybe (inner : Pattern)
  | seq (first second : Pattern)
  | either (first second : Pattern)
  | capture (inner : Pattern)

namespace Pattern

/-- A place in a text, by the character before it and the characters behind it. -/
structure Cursor where
  before : Option Char
  rest : List Char

structure Match where
  cursor : Cursor
  captures : List (List Char) := []

def startsLine : Option Char → Bool
  | none => true
  | some c => c = '\n'

def isWordBoundary (before after : Option Char) : Bool :=
  before.any Text.isWord ≠ after.any Text.isWord

/-! Running. -/

def spans (accepts : Char → Bool) : Option Char → List Char → List Cursor
  | before, [] => [⟨before, []⟩]
  | before, c :: rest =>
    (if accepts c then spans accepts (some c) rest else []) ++ [⟨before, c :: rest⟩]

def runs : Pattern → Cursor → List Match
  | empty, start => [{ cursor := start }]
  | lineStart, start => if startsLine start.before then [{ cursor := start }] else []
  | wordBoundary, start =>
    if isWordBoundary start.before start.rest.head? then [{ cursor := start }] else []
  | one accepts, start =>
    match start.rest with
    | c :: rest => if accepts c then [{ cursor := ⟨some c, rest⟩ }] else []
    | [] => []
  | many accepts, start =>
    (spans accepts start.before start.rest).map fun cursor => { cursor := cursor }
  | maybe inner, start => inner.runs start ++ [{ cursor := start }]
  | seq first second, start =>
    (first.runs start).flatMap fun m =>
      (second.runs m.cursor).map fun n => ⟨n.cursor, m.captures ++ n.captures⟩
  | either first second, start => first.runs start ++ second.runs start
  | capture inner, start =>
    (inner.runs start).map fun m =>
      ⟨m.cursor, start.rest.take (start.rest.length - m.cursor.rest.length) :: m.captures⟩

def match? (r : Pattern) (start : Cursor) : Option Match :=
  (r.runs start).find? fun m => m.cursor.rest.length < start.rest.length

/-- The captures of all matches from a place on, none overlapping the one before it. -/
def search (r : Pattern) (before : Option Char) (text : List Char) : List (List (List Char)) :=
  match _ : r.match? ⟨before, text⟩ with
  | some m => m.captures :: r.search m.cursor.before m.cursor.rest
  | none => match text with
    | [] => []
    | c :: rest => r.search (some c) rest
termination_by text.length
decreasing_by
  · have shorter := List.find?_some ‹_›
    simpa using shorter
  · exact Nat.lt_succ_self _

/-! What a pattern can read. -/

def lastOf (before : Option Char) (s : List Char) : Option Char := s.getLast?.or before

/-- Reading a text between a character and a rest, with some captures. -/
def Reads : Pattern → Option Char → List Char → List Char → List (List Char) → Prop
  | empty, _, s, _, captures => s = [] ∧ captures = []
  | lineStart, before, s, _, captures => s = [] ∧ captures = [] ∧ startsLine before = true
  | wordBoundary, before, s, rest, captures =>
    s = [] ∧ captures = [] ∧ isWordBoundary before rest.head? = true
  | one accepts, _, s, _, captures => ∃ c, s = [c] ∧ captures = [] ∧ accepts c = true
  | many accepts, _, s, _, captures => captures = [] ∧ ∀ c ∈ s, accepts c = true
  | maybe inner, before, s, rest, captures =>
    inner.Reads before s rest captures ∨ s = [] ∧ captures = []
  | seq first second, before, s, rest, captures =>
    ∃ a b as bs, s = a ++ b ∧ captures = as ++ bs ∧ first.Reads before a (b ++ rest) as ∧
      second.Reads (lastOf before a) b rest bs
  | either first second, before, s, rest, captures =>
    first.Reads before s rest captures ∨ second.Reads before s rest captures
  | capture inner, before, s, rest, captures =>
    ∃ more, captures = s :: more ∧ inner.Reads before s rest more

theorem lastOf_append (before : Option Char) (a b : List Char) :
    lastOf (lastOf before a) b = lastOf before (a ++ b) := by
  rw [lastOf, lastOf, lastOf, List.getLast?_append, Option.or_assoc]

theorem mem_spans {accepts : Char → Bool} {before : Option Char} {text : List Char}
    {cursor : Cursor} : cursor ∈ spans accepts before text ↔
      ∃ s rest, text = s ++ rest ∧ cursor = ⟨lastOf before s, rest⟩ ∧
        ∀ c ∈ s, accepts c = true := by
  induction text generalizing before with
  | nil =>
    rw [spans, List.mem_singleton]
    constructor
    · rintro rfl
      exact ⟨[], [], rfl, rfl, by simp⟩
    · rintro ⟨s, rest, split, rfl, _⟩
      obtain ⟨rfl, rfl⟩ := List.append_eq_nil_iff.mp split.symm
      rfl
  | cons c text ih =>
    rw [spans, List.mem_append, List.mem_singleton]
    constructor
    · rintro (longer | rfl)
      · split at longer
        · rename_i accepted
          obtain ⟨s, rest, rfl, rfl, all⟩ := ih.mp longer
          refine ⟨c :: s, rest, rfl, ?_, List.forall_mem_cons.mpr ⟨accepted, all⟩⟩
          rw [← List.singleton_append, ← lastOf_append]
          rfl
        · cases longer
      · exact ⟨[], c :: text, rfl, rfl, by simp⟩
    · rintro ⟨s, rest, split, rfl, all⟩
      cases s with
      | nil =>
        rw [List.nil_append] at split
        rw [split]
        exact .inr rfl
      | cons d s =>
        obtain ⟨rfl, rfl⟩ := List.cons.inj split
        rw [List.forall_mem_cons] at all
        refine .inl ?_
        rw [if_pos all.1, ih]
        refine ⟨s, rest, rfl, ?_, all.2⟩
        rw [← List.singleton_append, ← lastOf_append]
        rfl

theorem eq_still_iff {before : Option Char} {text : List Char} {m : Match} :
    m = { cursor := ⟨before, text⟩ } ↔
      ∃ s rest, text = s ++ rest ∧ m.cursor = ⟨lastOf before s, rest⟩ ∧
        s = [] ∧ m.captures = [] := by
  constructor
  · rintro rfl
    exact ⟨[], text, rfl, rfl, rfl, rfl⟩
  · rintro ⟨s, rest, rfl, cursor, rfl, captures⟩
    obtain ⟨_, _⟩ := m
    cases cursor
    cases captures
    rfl

theorem mem_guarded {holds : Bool} {m m' : Match} :
    m ∈ (if holds then [m'] else []) ↔ m = m' ∧ holds = true := by
  cases holds <;> simp

/-- The runs of a pattern are the ways to read it. -/
theorem mem_runs {r : Pattern} {before : Option Char} {text : List Char} {m : Match} :
    m ∈ r.runs ⟨before, text⟩ ↔
      ∃ s rest, text = s ++ rest ∧ m.cursor = ⟨lastOf before s, rest⟩ ∧
        r.Reads before s rest m.captures := by
  induction r generalizing before text m with
  | empty =>
    rw [runs, List.mem_singleton]
    exact eq_still_iff
  | lineStart =>
    rw [runs, mem_guarded, eq_still_iff]
    constructor
    · rintro ⟨⟨s, rest, split, cursor, none, captures⟩, starts⟩
      exact ⟨s, rest, split, cursor, none, captures, starts⟩
    · rintro ⟨s, rest, split, cursor, none, captures, starts⟩
      exact ⟨⟨s, rest, split, cursor, none, captures⟩, starts⟩
  | wordBoundary =>
    rw [runs, mem_guarded, eq_still_iff]
    constructor
    · rintro ⟨⟨s, rest, rfl, cursor, rfl, captures⟩, ends⟩
      exact ⟨[], rest, rfl, cursor, rfl, captures, ends⟩
    · rintro ⟨s, rest, rfl, cursor, rfl, captures, ends⟩
      exact ⟨⟨[], rest, rfl, cursor, rfl, captures⟩, ends⟩
  | one accepts =>
    cases text with
    | nil =>
      refine iff_of_false List.not_mem_nil ?_
      rintro ⟨s, rest, split, _, c, rfl, _⟩
      cases split
    | cons c text =>
      rw [runs, mem_guarded]
      constructor
      · rintro ⟨rfl, accepted⟩
        exact ⟨[c], text, rfl, rfl, c, rfl, rfl, accepted⟩
      · rintro ⟨s, rest, split, cursor, d, rfl, captures, accepted⟩
        obtain ⟨rfl, rfl⟩ := List.cons.inj split
        obtain ⟨_, _⟩ := m
        cases cursor
        cases captures
        exact ⟨rfl, accepted⟩
  | many accepts =>
    rw [runs, List.mem_map]
    constructor
    · rintro ⟨cursor, spanned, rfl⟩
      obtain ⟨s, rest, split, place, all⟩ := mem_spans.mp spanned
      exact ⟨s, rest, split, place, rfl, all⟩
    · rintro ⟨s, rest, split, place, captures, all⟩
      refine ⟨m.cursor, mem_spans.mpr ⟨s, rest, split, place, all⟩, ?_⟩
      obtain ⟨_, _⟩ := m
      cases captures
      rfl
  | maybe inner ih =>
    rw [runs, List.mem_append, List.mem_singleton, ih, eq_still_iff]
    simp only [Reads, ← exists_or, ← and_or_left]
  | seq first second ih ih' =>
    rw [runs, List.mem_flatMap]
    constructor
    · rintro ⟨m, first_run, more⟩
      obtain ⟨n, second_run, rfl⟩ := List.mem_map.mp more
      obtain ⟨a, rest, rfl, place, first_reads⟩ := ih.mp first_run
      rw [place, ih'] at second_run
      obtain ⟨b, rest, rfl, place', second_reads⟩ := second_run
      rw [lastOf_append] at place'
      exact ⟨a ++ b, rest, (List.append_assoc ..).symm, place', a, b, _, _, rfl, rfl, first_reads,
        second_reads⟩
    · rintro ⟨_, rest, rfl, place, a, b, as, bs, rfl, captures, first_reads, second_reads⟩
      refine ⟨⟨⟨lastOf before a, b ++ rest⟩, as⟩, ih.mpr ⟨a, b ++ rest, List.append_assoc .., rfl,
        first_reads⟩, List.mem_map.mpr ⟨⟨⟨lastOf before (a ++ b), rest⟩, bs⟩, ih'.mpr ⟨b, rest, rfl,
          by rw [lastOf_append], second_reads⟩, ?_⟩⟩
      obtain ⟨_, _⟩ := m
      cases place
      cases captures
      rfl
  | either first second ih ih' =>
    rw [runs, List.mem_append, ih, ih']
    simp only [Reads, ← exists_or, ← and_or_left]
  | capture inner ih =>
    have taken (s rest : List Char) : (s ++ rest).take ((s ++ rest).length - rest.length) = s := by
      rw [List.length_append, Nat.add_sub_cancel_right, List.take_left']
      rfl
    rw [runs, List.mem_map]
    constructor
    · rintro ⟨m, run, rfl⟩
      obtain ⟨s, rest, rfl, place, reads⟩ := ih.mp run
      refine ⟨s, rest, rfl, place, m.captures, ?_, reads⟩
      rw [place]
      exact congrArg (· :: m.captures) (taken s rest)
    · rintro ⟨s, rest, rfl, place, more, captures, reads⟩
      refine ⟨⟨m.cursor, more⟩, ih.mpr ⟨s, rest, rfl, place, reads⟩, ?_⟩
      obtain ⟨_, _⟩ := m
      cases place
      cases captures
      exact congrArg (Match.mk _) (congrArg (· :: more) (taken s rest))

def refuses (c : Char) : Pattern → Bool
  | empty | lineStart | wordBoundary => true
  | one accepts | many accepts => !accepts c
  | maybe inner | capture inner => inner.refuses c
  | seq first second | either first second => first.refuses c && second.refuses c

theorem not_mem_of_reads {r : Pattern} {c : Char} (refused : r.refuses c = true)
    {before : Option Char} {s rest : List Char} {captures : List (List Char)}
    (reads : r.Reads before s rest captures) : c ∉ s := by
  induction r generalizing before s rest captures with
  | empty | lineStart | wordBoundary =>
    rw [reads.1]
    exact List.not_mem_nil
  | one accepts =>
    obtain ⟨d, rfl, _, accepted⟩ := reads
    intro member
    rw [refuses, List.mem_singleton.mp member, accepted] at refused
    cases refused
  | many accepts =>
    intro member
    rw [refuses, reads.2 c member] at refused
    cases refused
  | maybe inner ih =>
    rcases reads with reads | ⟨rfl, _⟩
    · exact ih refused reads
    · exact List.not_mem_nil
  | seq first second ih ih' =>
    obtain ⟨a, b, _, _, rfl, _, first_reads, second_reads⟩ := reads
    rw [refuses, Bool.and_eq_true] at refused
    rw [List.mem_append, not_or]
    exact ⟨ih refused.1 first_reads, ih' refused.2 second_reads⟩
  | either first second ih ih' =>
    rw [refuses, Bool.and_eq_true] at refused
    rcases reads with reads | reads
    · exact ih refused.1 reads
    · exact ih' refused.2 reads
  | capture inner ih =>
    obtain ⟨_, _, reads⟩ := reads
    exact ih refused reads

/-! Searching line by line. -/

inductive LineEnd : List Char → Prop where
  | ofText : LineEnd []
  | feed {more : List Char} : LineEnd ('\n' :: more)

/-- All ways to read a line begin where it begins, end inside it and mean the same. -/
structure Linewise {α : Type} (r : Pattern) (decode : List (List Char) → α)
    (line? : List Char → Option α) : Prop where
  anchored {before : Option Char} {s rest : List Char} {captures : List (List Char)}
    (reads : r.Reads before s rest captures) : startsLine before = true
  within {before : Option Char} {s rest : List Char} {captures : List (List Char)}
    (reads : r.Reads before s rest captures) : s ≠ [] ∧ '\n' ∉ s
  reads_iff {before : Option Char} {line tail : List Char} {meaning : α}
    (starts : startsLine before = true) (single : '\n' ∉ line) (ends : LineEnd tail) :
    (∃ s rest captures, line ++ tail = s ++ rest ∧ r.Reads before s rest captures ∧
      decode captures = meaning) ↔ line? line = some meaning

def beyond (r : Pattern) : List Char → List (List (List Char))
  | [] => []
  | _ :: text => r.search (some '\n') text

theorem not_startsLine_lastOf {before : Option Char} {s : List Char} (filled : s ≠ [])
    (single : '\n' ∉ s) : startsLine (lastOf before s) = false := by
  rw [lastOf, List.getLast?_eq_some_getLast filled, Option.some_or, startsLine]
  refine decide_eq_false fun same => single ?_
  rw [← same]
  exact List.getLast_mem filled

theorem exists_line (text : List Char) :
    ∃ line tail, text = line ++ tail ∧ '\n' ∉ line ∧ LineEnd tail := by
  by_cases feeds : '\n' ∈ text
  · obtain ⟨line, more, split, single⟩ := List.eq_append_cons_of_mem feeds
    exact ⟨line, '\n' :: more, split, single, .feed⟩
  · exact ⟨text, [], (List.append_nil text).symm, feeds, .ofText⟩

theorem prefix_of_single {line tail s rest : List Char} (single : '\n' ∉ s) (ends : LineEnd tail)
    (split : line ++ tail = s ++ rest) : ∃ more, line = s ++ more ∧ rest = more ++ tail := by
  rcases List.append_eq_append_iff.mp split with ⟨more, whole, behind⟩ | ⟨more, whole, behind⟩
  · cases more with
    | nil => exact ⟨[], by simpa using whole.symm, by simpa using behind.symm⟩
    | cons c more =>
      cases ends with
      | ofText => cases behind
      | feed =>
        obtain ⟨rfl, _⟩ := List.cons.inj behind
        exact absurd (by simp [whole]) single
  · exact ⟨more, whole, behind⟩

theorem search_of_none {r : Pattern} {before : Option Char} {text : List Char}
    (none : r.match? ⟨before, text⟩ = none) :
    r.search before text = match text with
      | [] => []
      | c :: rest => r.search (some c) rest := by
  rw [search]
  split
  · rename_i found
    rw [none] at found
    cases found
  · rfl

theorem search_of_some {r : Pattern} {before : Option Char} {text : List Char} {m : Match}
    (found : r.match? ⟨before, text⟩ = some m) :
    r.search before text = m.captures :: r.search m.cursor.before m.cursor.rest := by
  rw [search]
  split
  · rename_i found'
    rw [found] at found'
    cases found'
    rfl
  · rename_i none
    rw [found] at none
    cases none

namespace Linewise

variable {α : Type} {r : Pattern} {decode : List (List Char) → α} {line? : List Char → Option α}

theorem match?_unanchored (lines : Linewise r decode line?) {before : Option Char}
    {text : List Char} (starts : startsLine before = false) : r.match? ⟨before, text⟩ = none := by
  refine List.find?_eq_none.mpr fun m run _ => ?_
  obtain ⟨s, rest, _, _, reads⟩ := mem_runs.mp run
  rw [lines.anchored reads] at starts
  cases starts

theorem match?_none (lines : Linewise r decode line?) {before : Option Char}
    {line tail : List Char} (starts : startsLine before = true) (single : '\n' ∉ line)
    (ends : LineEnd tail) (nothing : line? line = none) :
    r.match? ⟨before, line ++ tail⟩ = none := by
  refine List.find?_eq_none.mpr fun m run _ => ?_
  obtain ⟨s, rest, split, _, reads⟩ := mem_runs.mp run
  have found := (lines.reads_iff starts single ends).mp ⟨s, rest, _, split, reads, rfl⟩
  rw [nothing] at found
  cases found

theorem match?_some (lines : Linewise r decode line?) {before : Option Char}
    {line tail : List Char} {meaning : α} (starts : startsLine before = true)
    (single : '\n' ∉ line) (ends : LineEnd tail) (found : line? line = some meaning) :
    ∃ m more, r.match? ⟨before, line ++ tail⟩ = some m ∧ decode m.captures = meaning ∧
      startsLine m.cursor.before = false ∧ m.cursor.rest = more ++ tail ∧ '\n' ∉ more := by
  obtain ⟨s, rest, captures, split, reads, _⟩ := (lines.reads_iff starts single ends).mpr found
  have run : ⟨⟨lastOf before s, rest⟩, captures⟩ ∈ r.runs ⟨before, line ++ tail⟩ :=
    mem_runs.mpr ⟨s, rest, split, rfl, reads⟩
  have takes : (r.match? ⟨before, line ++ tail⟩).isSome := by
    refine List.find?_isSome.mpr ⟨_, run, ?_⟩
    have filled := List.length_pos_iff.mpr (lines.within reads).1
    simp only [split, List.length_append, decide_eq_true_eq]
    omega
  -- the run that comes first need not be this one, but it means the same
  obtain ⟨m, matched⟩ := Option.isSome_iff_exists.mp takes
  obtain ⟨s', rest', split', place, reads'⟩ := mem_runs.mp (List.mem_of_find?_eq_some matched)
  have inside := lines.within reads'
  obtain ⟨more, rfl, behind⟩ := prefix_of_single inside.2 ends split'
  have same := (lines.reads_iff starts single ends).mp ⟨s', rest', _, split', reads', rfl⟩
  rw [found] at same
  refine ⟨m, more, matched, (Option.some.inj same).symm, ?_, ?_,
    fun member => single (List.mem_append_right s' member)⟩
  · rw [place]
    exact not_startsLine_lastOf inside.1 inside.2
  · rw [place, behind]

theorem search_unanchored (lines : Linewise r decode line?) {before : Option Char}
    {s tail : List Char} (starts : startsLine before = false) (single : '\n' ∉ s)
    (ends : LineEnd tail) : r.search before (s ++ tail) = r.beyond tail := by
  induction s generalizing before with
  | nil =>
    rw [List.nil_append, search_of_none (lines.match?_unanchored starts)]
    cases ends <;> rfl
  | cons c s ih =>
    rw [List.cons_append, search_of_none (lines.match?_unanchored starts)]
    rw [List.mem_cons, not_or] at single
    exact ih (decide_eq_false (Ne.symm single.1)) single.2

theorem search_line (lines : Linewise r decode line?) {before : Option Char}
    {line tail : List Char} (starts : startsLine before = true) (single : '\n' ∉ line)
    (ends : LineEnd tail) : (r.search before (line ++ tail)).map decode =
      (line? line).toList ++ (r.beyond tail).map decode := by
  cases found : line? line with
  | none =>
    rw [search_of_none (lines.match?_none starts single ends found)]
    cases line with
    | nil => cases ends <;> rfl
    | cons c line =>
      rw [List.mem_cons, not_or] at single
      exact congrArg _
        (lines.search_unanchored (decide_eq_false (Ne.symm single.1)) single.2 ends)
  | some meaning =>
    obtain ⟨m, more, matched, rfl, inside, behind, single'⟩ :=
      lines.match?_some starts single ends found
    rw [search_of_some matched, behind, lines.search_unanchored inside single' ends]
    rfl

/-- A search through a text finds what its lines hold, one by one. -/
theorem search_eq (lines : Linewise r decode line?) {before : Option Char}
    (starts : startsLine before = true) (text : List Char) :
    (r.search before text).map decode = (Text.cutChars '\n' text).filterMap line? := by
  -- the induction is on the length: what follows a line feed is shorter
  induction length : text.length using Nat.strong_induction_on generalizing before text with
  | _ n ih =>
    by_cases feeds : '\n' ∈ text
    · obtain ⟨line, more, rfl, single⟩ := List.eq_append_cons_of_mem feeds
      have shorter : more.length < n := by
        rw [← length, List.length_append, List.length_cons]
        omega
      rw [lines.search_line starts single .feed, beyond, ih _ shorter rfl more rfl,
        Text.cutChars_append single, List.filterMap_cons]
      cases line? line <;> rfl
    · have only := lines.search_line starts feeds .ofText
      rw [List.append_nil] at only
      rw [only, Text.cutChars_of_absent feeds, List.filterMap_cons]
      cases line? text <;> rfl

theorem located (lines : Linewise r decode line?) {before : Option Char} {text : List Char}
    {m : Match} (run : m ∈ r.runs ⟨before, text⟩) :
    startsLine before = true ∧ ∃ s, text = s ++ m.cursor.rest ∧ '\n' ∉ s := by
  obtain ⟨s, rest, split, place, reads⟩ := mem_runs.mp run
  refine ⟨lines.anchored reads, s, ?_, (lines.within reads).2⟩
  rw [place]
  exact split

theorem agree (lines : Linewise r decode line?) {before : Option Char} {text : List Char}
    {m m' : Match} (run : m ∈ r.runs ⟨before, text⟩) (run' : m' ∈ r.runs ⟨before, text⟩) :
    decode m.captures = decode m'.captures := by
  obtain ⟨starts, _⟩ := lines.located run
  obtain ⟨line, tail, rfl, single, ends⟩ := exists_line text
  have means {m : Match} (run : m ∈ r.runs ⟨before, line ++ tail⟩) :
      line? line = some (decode m.captures) := by
    obtain ⟨s, rest, split, _, reads⟩ := mem_runs.mp run
    exact (lines.reads_iff starts single ends).mp ⟨s, rest, _, split, reads, rfl⟩
  exact Option.some.inj ((means run).symm.trans (means run'))

end Linewise
end Pattern
end Rulesheet
