import Rulesheet.Proofs.Data.Ends
import Rulesheet.Settings.Draft

/- Data that can be written out and compared. Where no integer is too long to be written, every
   value is shown; where the items of a list are scalars, comparing them comes to an end. -/
namespace Rulesheet

def Scalar.Short (s : Scalar) : Prop := s.isLong = false

def Datum.Short : Datum → Prop
  | .scalar s => s.Short
  | .place _ => True

def Datum.Plain (d : Datum) : Prop := ∃ s : Scalar, d = .scalar s ∧ s.Short

def Container.Tame : Container → Prop
  | list items => ∀ d ∈ items, d.Plain
  | tuple items => ∀ d ∈ items, d.Short
  | mapping entries => ∀ e ∈ entries, e.1.Short ∧ e.2.Short
  | set members => ∀ s ∈ members, s.Short

def Store.Tame (st : Store) : Prop := ∀ c ∈ st.containers, c.Tame

structure Data.Tame (data : Data) : Prop where
  store : data.store.Tame
  root : data.root.Short

theorem Datum.Plain.short {d : Datum} (plain : d.Plain) : d.Short := by
  obtain ⟨s, rfl, short⟩ := plain
  exact short

namespace Store

variable {st : Store} {d : Datum}

theorem succeeds_whenWritten {s : Scalar} (short : s.Short) (text : String) :
    Succeeds (s.whenWritten text) := by
  rw [Scalar.whenWritten, if_neg (by simpa [Scalar.Short] using short)]
  trivial

theorem Tame.container? (tame : st.Tame) {i : Nat} {c : Container}
    (held : st.containers[i]? = some c) : c.Tame :=
  tame c (Array.mem_of_getElem? held)

theorem Tame.entries? (tame : st.Tame) {entries : List (Scalar × Datum)}
    (held : st.entries? d = some entries) : ∀ e ∈ entries, e.1.Short ∧ e.2.Short := by
  cases d with
  | scalar s => cases held
  | place i =>
    unfold Store.entries? at held
    split at held
    · rename_i inside
      cases held
      exact tame.container? inside
    · cases held

theorem Tame.succeeds_shownWithin (tame : st.Tame) (fuel : Nat) (around : List Nat)
    (short : d.Short) : Succeeds (st.shownWithin fuel around d) := by
  -- items are shown with less fuel, inside one container more
  induction fuel generalizing around d with
  | zero =>
    cases d with
    | scalar s => exact succeeds_whenWritten short _
    | place i => trivial
  | succ fuel ih =>
    cases d with
    | scalar s => exact succeeds_whenWritten short _
    | place i =>
      have items : ∀ items : List Datum, (∀ d ∈ items, d.Short) →
          Succeeds
            (items.mapM (st.shownWithin fuel (i :: around))) :=
        fun items each => Succeeds.mapM fun d member => ih (i :: around) (each d member)
      rw [shownWithin]
      cases held : st.containers[i]? with
      | none => trivial
      | some c =>
        have inside := tame.container? held
        dsimp only
        split
        · trivial
        · split
          · rename_i ds
            exact (items ds fun d member => (inside d member).short).bind fun _ _ => trivial
          · rename_i d
            exact (ih (i :: around) (inside d List.mem_cons_self)).bind fun _ _ => trivial
          · rename_i ds _
            exact (items ds inside).bind fun _ _ => trivial
          · rename_i entries
            refine (Succeeds.mapM ?_).bind fun _ _ => trivial
            intro e member
            obtain ⟨key, value⟩ := inside e member
            refine (succeeds_whenWritten key _).bind fun _ _ => ?_
            exact (ih (i :: around) value).bind fun _ _ => trivial
          · trivial
          · rename_i members _
            refine (Succeeds.mapM ?_).bind fun _ _ => trivial
            intro s member
            exact succeeds_whenWritten (inside s member) _

theorem Tame.succeeds_shown (tame : st.Tame) (short : d.Short) : Succeeds (st.shown d) :=
  tame.succeeds_shownWithin _ _ short

end Store

/-! Comparing. -/

def Datum.IsScalar (d : Datum) : Prop := ∃ s, d = .scalar s

theorem Datum.Plain.isScalar {d : Datum} (plain : d.Plain) : d.IsScalar := by
  obtain ⟨s, rfl, _⟩ := plain
  exact ⟨s, rfl⟩

namespace Distinct

variable {st : Store}

abbrev Settles {α : Type} (holds : α → Prop) (x : Answer α) : Prop := Ends (· = .noOrder) holds x

def Decides (test : Datum → Datum → Answer Bool) : Prop :=
  ∀ d e : Datum, d.IsScalar → e.IsScalar → Settles (fun _ => True) (test d e)

theorem decides_belowItem (st : Store) (fuel : Nat) : Decides (belowItem st (fuel + 1)) := by
  rintro _ _ ⟨s, rfl⟩ ⟨t, rfl⟩
  rw [belowItem]
  split
  · rfl
  · rw [below]
    cases s.below? t with
    | none => rfl
    | some r => trivial

def isBytes : Scalar → Bool
  | .bytes _ => true
  | _ => false

theorem sequence?_scalar {s : Scalar} (other : isBytes s = false) :
    sequence? st (.scalar s) = none := by
  cases s with
  | bytes b => cases other
  | null | boolean _ | integer _ | float _ | notANumber _ | text _ | date _ | dateTime _ _ => rfl

theorem agrees_other {s t : Scalar} (other : isBytes s = false ∨ isBytes t = false) (fuel : Nat) :
    ∃ r, agrees st (fuel + 1) (.scalar s) (.scalar t) = .ok r := by
  rw [agrees]
  split
  · exact ⟨true, rfl⟩
  · rcases other with first | second
    · rw [sequence?_scalar first]
      exact ⟨_, rfl⟩
    · rw [sequence?_scalar second]
      cases sequence? st (.scalar s) <;> exact ⟨_, rfl⟩

theorem allPairs_integers (st : Store) (fuel : Nat) (as bs : List UInt8) :
    ∃ r, allPairs (agrees st (fuel + 1)) (as.map fun n => .scalar (.integer n.toNat))
      (bs.map fun n => .scalar (.integer n.toNat)) = .ok r := by
  induction as generalizing bs with
  | nil => cases bs <;> exact ⟨_, rfl⟩
  | cons a as ih =>
    cases bs with
    | nil => exact ⟨_, rfl⟩
    | cons b bs =>
      obtain ⟨same, compared⟩ : ∃ r, agrees st (fuel + 1) (.scalar (.integer a.toNat))
          (.scalar (.integer b.toNat)) = .ok r := agrees_other (.inl rfl) fuel
      rw [List.map_cons, List.map_cons, allPairs, compared]
      cases same with
      | true => exact ih bs
      | false => exact ⟨false, rfl⟩

theorem agrees_scalar (fuel : Nat) (s t : Scalar) :
    ∃ r, agrees st (fuel + 2) (.scalar s) (.scalar t) = .ok r := by
  match s, t with
  | .bytes as, .bytes bs =>
    rw [agrees]
    split
    · exact ⟨true, rfl⟩
    · obtain ⟨r, compared⟩ := allPairs_integers st fuel as bs
      simp only [sequence?]
      split
      · exact ⟨r, compared⟩
      · exact ⟨false, rfl⟩
  | .null, _ | .boolean _, _ | .integer _, _ | .float _, _ | .notANumber _, _ | .text _, _
  | .date _, _ | .dateTime _ _, _ => exact agrees_other (.inl rfl) _
  | .bytes _, .null | .bytes _, .boolean _ | .bytes _, .integer _ | .bytes _, .float _
  | .bytes _, .notANumber _ | .bytes _, .text _ | .bytes _, .date _
  | .bytes _, .dateTime _ _ => exact agrees_other (.inr rfl) _

def Compares (test : Datum → Datum → Answer Bool) : Prop :=
  ∀ d e : Datum, d.IsScalar → e.IsScalar → ∃ r, test d e = .ok r

theorem compares_agrees (fuel : Nat) : Compares (agrees st (fuel + 2)) := by
  rintro _ _ ⟨s, rfl⟩ ⟨t, rfl⟩
  exact agrees_scalar fuel s t

section

variable {test less : Datum → Datum → Answer Bool} {d last : Datum}
  {items sorted run rest : List Datum}

theorem anyNeighbours_ok (compares : Compares test) (scalars : ∀ d ∈ items, d.IsScalar) :
    ∃ r, anyNeighbours test items = .ok r := by
  induction items with
  | nil => exact ⟨_, rfl⟩
  | cons a items ih =>
    cases items with
    | nil => exact ⟨_, rfl⟩
    | cons b items =>
      obtain ⟨first, others⟩ := List.forall_mem_cons.mp scalars
      obtain ⟨same, compared⟩ := compares a b first (others b List.mem_cons_self)
      rw [anyNeighbours, compared]
      cases same with
      | true => exact ⟨true, rfl⟩
      | false => exact ih others

theorem anyAgrees_ok (compares : Compares test) (scalar : d.IsScalar)
    (scalars : ∀ e ∈ items, e.IsScalar) : ∃ r, anyAgrees test d items = .ok r := by
  induction items with
  | nil => exact ⟨_, rfl⟩
  | cons e items ih =>
    obtain ⟨first, others⟩ := List.forall_mem_cons.mp scalars
    obtain ⟨same, compared⟩ := compares e d first scalar
    rw [anyAgrees, compared]
    cases same with
    | true => exact ⟨true, rfl⟩
    | false => exact ih others

theorem anyPair_ok (compares : Compares test) {seen : List Datum}
    (before : ∀ e ∈ seen, e.IsScalar) (scalars : ∀ d ∈ items, d.IsScalar) :
    ∃ r, anyPair test seen items = .ok r := by
  induction items generalizing seen with
  | nil => exact ⟨_, rfl⟩
  | cons d items ih =>
    obtain ⟨first, others⟩ := List.forall_mem_cons.mp scalars
    obtain ⟨found, compared⟩ := anyAgrees_ok compares first before
    rw [anyPair, compared]
    cases found with
    | true => exact ⟨true, rfl⟩
    | false =>
      exact ih (List.forall_mem_append.mpr ⟨before, List.forall_mem_singleton.mpr first⟩) others

/-! Sorting keeps the items. -/

theorem runFrom_settles (decides : Decides less) (falling : Bool) (scalar : last.IsScalar)
    (before : ∀ d ∈ run, d.IsScalar) (after : ∀ d ∈ rest, d.IsScalar) :
    Settles (fun p => (∀ d ∈ p.1, d.IsScalar) ∧ ∀ d ∈ p.2, d.IsScalar)
      (runFrom less falling last run rest) := by
  induction rest generalizing last run with
  | nil => exact ⟨List.forall_mem_cons.mpr ⟨scalar, before⟩, after⟩
  | cons d rest ih =>
    obtain ⟨first, others⟩ := List.forall_mem_cons.mp after
    have taken : ∀ d ∈ last :: run, d.IsScalar := List.forall_mem_cons.mpr ⟨scalar, before⟩
    rw [runFrom]
    refine (decides d last first scalar).bind ?_
    intro lower _
    split
    · exact ih first taken others
    · exact ⟨taken, after⟩

theorem leadingRun_settles (decides : Decides less) (scalars : ∀ d ∈ items, d.IsScalar) :
    Settles (fun p => (∀ d ∈ p.1, d.IsScalar) ∧ ∀ d ∈ p.2, d.IsScalar) (leadingRun less items) := by
  match items, scalars with
  | [], scalars | [_], scalars => exact ⟨scalars, by simp⟩
  | a :: b :: rest, scalars =>
    obtain ⟨first, others⟩ := List.forall_mem_cons.mp scalars
    obtain ⟨second, others⟩ := List.forall_mem_cons.mp others
    rw [leadingRun]
    refine (decides b a second first).bind ?_
    intro falling _
    refine (runFrom_settles decides falling second (List.forall_mem_singleton.mpr first)
      others).bind ?_
    rintro ⟨run, rest⟩ ⟨taken, left⟩
    refine ⟨?_, left⟩
    cases falling with
    | true => exact taken
    | false => exact fun d member => taken d (List.mem_reverse.mp member)

theorem placeFor_settles (decides : Decides less) (scalar : d.IsScalar)
    (scalars : ∀ e ∈ sorted, e.IsScalar) (fuel low high : Nat) :
    Settles (fun _ => True) (placeFor less sorted d fuel low high) := by
  induction fuel generalizing low high with
  | zero => trivial
  | succ fuel ih =>
    rw [placeFor]
    split
    · dsimp only
      split
      · trivial
      · rename_i e found
        refine (decides d e scalar (scalars e (List.mem_of_getElem? found))).bind ?_
        intro lower _
        split
        · exact ih _ _
        · exact ih _ _
    · trivial

theorem sort_settles (decides : Decides less) (scalars : ∀ d ∈ items, d.IsScalar) :
    Settles (fun sorted => ∀ d ∈ sorted, d.IsScalar) (sort less items) := by
  rw [sort]
  refine (leadingRun_settles decides scalars).bind ?_
  rintro ⟨run, rest⟩ ⟨taken, left⟩
  refine Ends.foldlM taken ?_
  intro sorted kept d member
  refine (placeFor_settles decides (left d member) kept _ _ _).bind ?_
  intro i _ e inside
  rcases List.mem_append.mp inside with before | after
  · exact kept e (List.mem_of_mem_take before)
  · rcases List.mem_cons.mp after with rfl | after
    · exact left e member
    · exact kept e (List.mem_of_mem_drop after)

end

theorem repeats_ok (st : Store) {items : List Datum} (scalars : ∀ d ∈ items, d.IsScalar) :
    ∃ r, repeats st items = .ok r := by
  obtain ⟨fuel, enough⟩ : ∃ fuel, (st.size + 1) * (st.size + 1) = fuel + 1 :=
    Nat.exists_eq_succ_of_ne_zero (Nat.mul_ne_zero (Nat.succ_ne_zero _) (Nat.succ_ne_zero _))
  have compares : Compares (agrees st (fuel + 2)) := compares_agrees fuel
  have sorted := sort_settles (decides_belowItem st (fuel + 1)) scalars
  rw [repeats, enough]
  cases ordered : sort (belowItem st (fuel + 2)) items with
  | error trouble =>
    rw [ordered] at sorted
    obtain rfl : trouble = .noOrder := sorted
    have none : ∀ e ∈ ([] : List Datum), e.IsScalar := by simp
    obtain ⟨r, found⟩ := anyPair_ok compares none scalars
    exact ⟨r, by simp [bind, Except.bind, found]⟩
  | ok sorted' =>
    rw [ordered] at sorted
    obtain ⟨r, found⟩ := anyNeighbours_ok compares sorted
    exact ⟨r, by simp [bind, Except.bind, found]⟩

end Distinct
/-! Checking. -/

namespace Schema

variable {st : Store} {d : Datum} {name : String}

theorem succeeds_describe (tame : st.Tame) (short : d.Short) (c : Cause) :
    Succeeds (describe st d c) :=
  (tame.succeeds_shown short).bind fun _ _ => trivial

theorem succeeds_itemFaults (tame : st.Tame) {items : List Datum} (plain : ∀ d ∈ items, d.Plain)
    (i : Nat) : Succeeds (itemFaults st name i items) := by
  induction items generalizing i with
  | nil => trivial
  | cons d rest ih =>
    obtain ⟨first, others⟩ := List.forall_mem_cons.mp plain
    have later : Succeeds (itemFaults st name (i + 1) rest) := ih others (i + 1)
    rw [itemFaults]
    cases textCause? d with
    | none => exact later.bind fun _ _ => trivial
    | some c =>
      exact (succeeds_describe tame first.short c).bind fun _ _ => later.bind fun _ _ => trivial

theorem succeeds_repeatFaults (tame : st.Tame) (short : d.Short) {items : List Datum}
    (plain : ∀ d ∈ items, d.Plain) : Succeeds (repeatFaults st name d items) := by
  obtain ⟨found, answered⟩ :=
    Distinct.repeats_ok st fun d member => (plain d member).isScalar
  rw [repeatFaults, answered]
  cases found with
  | true => exact (succeeds_describe tame short _).bind fun _ _ => trivial
  | false => trivial

theorem succeeds_valueFaults (tame : st.Tame) (short : d.Short) (r : Rule) :
    Succeeds (valueFaults st name r d) := by
  unfold valueFaults
  split
  · rename_i unique items held
    have plain : ∀ d ∈ items, d.Plain := by
      cases d with
      | scalar s => cases held
      | place i => exact tame.container? held
    have each : Succeeds (itemFaults st name 0 items) := succeeds_itemFaults tame plain 0
    cases unique with
    | false => exact each.bind fun _ _ => trivial
    | true =>
      exact each.bind fun _ _ => (succeeds_repeatFaults tame short plain).bind fun _ _ => trivial
  · rename_i r _ _ _
    cases plainCause? r d with
    | none => trivial
    | some c => exact (succeeds_describe tame short c).bind fun _ _ => trivial

theorem succeeds_sortedByText {keys : List Scalar} (short : ∀ s ∈ keys, s.Short) :
    Succeeds (sortedByText keys) := by
  have texts : Succeeds (keys.mapM fun s => do pure (← s.whenWritten s.plain, s)) := by
    apply Succeeds.mapM
    intro s member
    exact (Store.succeeds_whenWritten (short s member) _).bind fun _ _ => trivial
  exact texts.bind fun _ _ => trivial

theorem succeeds_unknownMessage? {entries : List (Scalar × Datum)}
    (short : ∀ e ∈ entries, e.1.Short) : Succeeds (unknownMessage? entries) := by
  have keys : ∀ s ∈ (entries.map Prod.fst).filter fun k => !isKnown k, s.Short := by
    intro s member
    obtain ⟨e, listed, rfl⟩ := List.mem_map.mp (List.mem_filter.mp member).1
    exact short e listed
  refine (succeeds_sortedByText keys).bind ?_
  intro sorted _
  match sorted with
  | [] | [_] | _ :: _ :: _ => trivial

theorem find?_mem {entries : List (Scalar × Datum)} {key : String}
    (found : find? entries key = some d) : ∃ e ∈ entries, e.2 = d := by
  obtain ⟨e, first, rfl⟩ := Option.map_eq_some_iff.mp found
  exact ⟨e, List.mem_of_find?_eq_some first, rfl⟩

theorem succeeds_faults (tame : st.Tame) {entries : List (Scalar × Datum)}
    (short : ∀ e ∈ entries, e.2.Short) : Succeeds (faults st entries) := by
  refine (Succeeds.mapM ?_).bind fun _ _ => trivial
  rintro ⟨key, r⟩ _
  dsimp only
  cases found : find? entries key with
  | none => trivial
  | some d =>
    obtain ⟨e, listed, rfl⟩ := find?_mem found
    exact succeeds_valueFaults tame (short e listed) r

/-- Tame data are judged: the schema takes them or names a fault. -/
theorem succeeds_message? (tame : st.Tame) (short : d.Short) : Succeeds (message? st d) := by
  rw [message?]
  cases held : st.entries? d with
  | none => exact (succeeds_describe tame short _).bind fun _ _ => trivial
  | some entries =>
    have inside := tame.entries? held
    refine (succeeds_unknownMessage? fun e member => (inside e member).1).bind fun _ _ => ?_
    exact (succeeds_faults tame fun e member => (inside e member).2).bind fun _ _ => trivial

end Schema
end Rulesheet
