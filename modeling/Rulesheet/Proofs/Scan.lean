import Rulesheet.Scan

/- What a scan finds. The steps of a scan are kept as a list, so that a rule has the row it comes
   from; the rows with a rule are the qualifying rows whose extraction is not empty, in sheet
   order and each once, whatever the cursor starts at. -/
namespace Rulesheet

def ScanStep.isRule (step : ScanStep) : Bool := step.row.isSome && !step.triple.isEmpty

namespace Worksheet

def stepsFrom (w : Worksheet) (f : Filter) (l : Layout) (inputs : List (Option Nat))
    (start : Nat) : List ScanStep :=
  let step := w.scanNext start f l inputs
  step :: if step.hasMore then w.stepsFrom f l inputs step.nextRow else []
termination_by w.rowCount - start
decreasing_by
  have := scanNext_advances ‹_›
  omega

def ruleRows (w : Worksheet) (f : Filter) (l : Layout) (inputs : List (Option Nat))
    (start : Nat) : List Nat :=
  ((w.stepsFrom f l inputs start).filter ScanStep.isRule).filterMap ScanStep.row

def qualifyingRows (w : Worksheet) (l : Layout) (f : Filter) (start : Nat) : List Nat :=
  (List.range' start (w.rowCount - start)).filter (w.qualifies l f)

def stepAt (w : Worksheet) (l : Layout) (inputs : List (Option Nat)) (row : Nat) : ScanStep :=
  ⟨some row, row + 1, row + 1 < w.rowCount, w.extract l inputs row⟩

variable {w : Worksheet} {f : Filter} {l : Layout} {inputs : List (Option Nat)}

theorem mem_qualifyingRows {start row : Nat} :
    row ∈ w.qualifyingRows l f start ↔
      start ≤ row ∧ row < w.rowCount ∧ w.qualifies l f row = true := by
  have range : row ∈ List.range' start (w.rowCount - start) ↔ start ≤ row ∧ row < w.rowCount := by
    rw [List.mem_range'_1]
    omega
  rw [qualifyingRows, List.mem_filter, range, and_assoc]

theorem qualifyingRows_ascending (start : Nat) :
    (w.qualifyingRows l f start).Pairwise (· < ·) :=
  List.Pairwise.filter _ List.pairwise_lt_range'

theorem qualifyingRows_of_none {start : Nat} (none : w.nextRow? l f start = none) :
    w.qualifyingRows l f start = [] := by
  apply List.filter_eq_nil_iff.mpr
  exact List.find?_eq_none.mp none

theorem qualifyingRows_of_some {start row : Nat} (found : w.nextRow? l f start = some row) :
    w.qualifyingRows l f start = row :: w.qualifyingRows l f (row + 1) := by
  obtain ⟨lets, before, after, split, refused⟩ := List.find?_eq_some_iff_append.mp found
  obtain ⟨k, bound, hb, hr⟩ := List.range'_eq_append_iff.mp split
  obtain ⟨same, positive, tail⟩ := List.range'_eq_cons_iff.mp hr.symm
  have none_before : before.filter (w.qualifies l f) = [] := by
    apply List.filter_eq_nil_iff.mpr
    intro r member
    simpa using refused r member
  have rest : after = List.range' (row + 1) (w.rowCount - (row + 1)) := by
    rw [tail]
    congr 1
    omega
  rw [qualifyingRows, split, List.filter_append, none_before, List.nil_append,
    List.filter_cons_of_pos lets, rest, qualifyingRows]

theorem qualifyingRows_of_end {start : Nat} (finished : w.rowCount ≤ start) :
    w.qualifyingRows l f start = [] := by
  simp [qualifyingRows, Nat.sub_eq_zero_of_le finished]

theorem scanNext_of_some {start row : Nat} (found : w.nextRow? l f start = some row) :
    w.scanNext start f l inputs = w.stepAt l inputs row := by
  simp [scanNext, stepAt, found]

theorem scanNext_of_none {start : Nat} (none : w.nextRow? l f start = none) :
    w.scanNext start f l inputs = ⟨.none, w.rowCount, false, {}⟩ := by
  simp [scanNext, none]

theorem stepsFrom_of_some {start row : Nat} (found : w.nextRow? l f start = some row) :
    w.stepsFrom f l inputs start = w.stepAt l inputs row ::
      if row + 1 < w.rowCount then w.stepsFrom f l inputs (row + 1) else [] := by
  rw [stepsFrom, scanNext_of_some found]
  simp [stepAt]

theorem stepsFrom_of_none {start : Nat} (none : w.nextRow? l f start = none) :
    w.stepsFrom f l inputs start = [⟨.none, w.rowCount, false, {}⟩] := by
  rw [stepsFrom, scanNext_of_none none]
  simp

theorem stepsFrom_with_row (start : Nat) :
    (w.stepsFrom f l inputs start).filter (·.row.isSome) =
      (w.qualifyingRows l f start).map (w.stepAt l inputs) := by
  -- on the number of rows that remain
  induction h : w.rowCount - start using Nat.strongRecOn generalizing start with
  | ind k ih =>
    cases found : w.nextRow? l f start with
    | none => simp [stepsFrom_of_none found, qualifyingRows_of_none found]
    | some row =>
      have bounds := nextRow?_bounds found
      rw [stepsFrom_of_some found, qualifyingRows_of_some found]
      by_cases more : row + 1 < w.rowCount
      · have tail := ih (w.rowCount - (row + 1)) (by omega) (row + 1) rfl
        rw [if_pos more, List.filter_cons_of_pos rfl, tail, List.map_cons]
      · rw [if_neg more, qualifyingRows_of_end (by omega)]
        rfl

theorem rules_of_stepsFrom (start : Nat) :
    (w.stepsFrom f l inputs start).filter ScanStep.isRule =
      ((w.qualifyingRows l f start).filter fun r => !(w.extract l inputs r).isEmpty).map
        (w.stepAt l inputs) := by
  have rule : ScanStep.isRule = fun step => !step.triple.isEmpty && step.row.isSome := by
    funext step
    exact Bool.and_comm _ _
  rw [rule, ← List.filter_filter, stepsFrom_with_row, List.filter_map]
  rfl

theorem ruleRows_eq (start : Nat) :
    w.ruleRows f l inputs start =
      (w.qualifyingRows l f start).filter fun r => !(w.extract l inputs r).isEmpty := by
  rw [ruleRows, rules_of_stepsFrom, List.filterMap_map]
  exact List.filterMap_some

theorem mem_ruleRows {start row : Nat} :
    row ∈ w.ruleRows f l inputs start ↔ start ≤ row ∧ row < w.rowCount ∧
      w.qualifies l f row = true ∧ (w.extract l inputs row).isEmpty = false := by
  rw [ruleRows_eq, List.mem_filter, mem_qualifyingRows]
  simp only [Bool.not_eq_eq_eq_not, Bool.not_true, and_assoc]

theorem ruleRows_ascending (start : Nat) : (w.ruleRows f l inputs start).Pairwise (· < ·) := by
  rw [ruleRows_eq]
  exact (qualifyingRows_ascending start).filter _

theorem add_rule (pass : Pass) (step : ScanStep) :
    (if step.row.isSome && !step.triple.isEmpty then pass.add step.triple else pass) =
      { pass with triples := pass.triples ++
          ([step].filter ScanStep.isRule).map ScanStep.triple } := by
  change (if step.isRule then pass.add step.triple else pass) = _
  by_cases rule : step.isRule = true
  · simp [Pass.add, rule]
  · simp [rule]

theorem scanFrom_eq (start : Nat) (pass : Pass) :
    w.scanFrom f l inputs start pass =
      { pass with triples := pass.triples ++
          ((w.stepsFrom f l inputs start).filter ScanStep.isRule).map ScanStep.triple } := by
  induction h : w.rowCount - start using Nat.strongRecOn generalizing start pass with
  | ind k ih =>
    rw [scanFrom, stepsFrom]
    simp only [add_rule]
    split
    · rename_i more
      have advances := scanNext_advances more
      rw [ih (w.rowCount - (w.scanNext start f l inputs).nextRow) (by omega) _ _ rfl]
      simp only [List.append_assoc, ← List.map_append, ← List.filter_append, List.singleton_append]
    · rfl

theorem scanPass_eq (start : Int) (sequence : Int) (token : String) :
    w.scanPass start f l sequence token =
      ⟨sequence, token, (w.ruleRows f l (l.inputColumns token) start.toNat).map
        (w.extract l (l.inputColumns token))⟩ := by
  rw [scanPass, scanFrom_eq, rules_of_stepsFrom, ruleRows_eq, List.map_map, List.nil_append]
  rfl

end Worksheet
end Rulesheet
