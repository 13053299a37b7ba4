import Rulesheet.Proofs.Scan

/- Scans that a caller takes up again. Going on at the next row of each step while rows remain
   ends, finds the qualifying rows from the first cursor on, and collects the triples of a pass.
   A pass may be cut at any row into the rows before the cut and a pass from the cut. -/
namespace Rulesheet.Worksheet

/-- The steps of a caller who begins at a cursor and goes on at the next row of each step while
    rows remain. -/
inductive Resumes (w : Worksheet) (f : Filter) (l : Layout) (inputs : List (Option Nat)) :
    Int → List ScanStep → Prop where
  | last {start : Int} (ended : (w.scanNext start f l inputs).hasMore = false) :
      Resumes w f l inputs start [w.scanNext start f l inputs]
  | step {start : Int} {steps : List ScanStep}
      (more : (w.scanNext start f l inputs).hasMore = true)
      (rest : Resumes w f l inputs (w.scanNext start f l inputs).nextRow steps) :
      Resumes w f l inputs start (w.scanNext start f l inputs :: steps)

def rulesAmong (w : Worksheet) (f : Filter) (l : Layout) (inputs : List (Option Nat))
    (rows : List Nat) : List Triple :=
  ((rows.filter (w.qualifies l f)).map (w.extract l inputs)).filter (!·.isEmpty)

def rowsBetween (w : Worksheet) (start cut : Int) : List Nat :=
  (List.range w.rowCount).filter fun row => start ≤ row ∧ (row : Int) < cut

structure Traverses (w : Worksheet) (f : Filter) (l : Layout) (inputs : List (Option Nat))
    (start : Int) (steps : List ScanStep) : Prop where
  short : steps.length ≤ w.rowCount + 1
  onward : (steps.map ScanStep.nextRow).Pairwise (· < ·)
  ascending : (steps.filterMap ScanStep.row).Pairwise (· < ·)
  found_iff : ∀ row, row ∈ steps.filterMap ScanStep.row ↔
    max start 0 ≤ row ∧ (row : Int) ≤ w.lastRow ∧ w.qualifies l f row = true
  extracted : ∀ step ∈ steps, ∀ row, step.row = some row →
    step.triple = w.extract l inputs row ∧ step.nextRow = row + 1 ∧
      (step.hasMore = true ↔ (row : Int) < w.lastRow)
  collected : ∀ sequence token, l.inputColumns token = inputs →
    w.scanPass start f l sequence token =
      ⟨sequence, token, (steps.map ScanStep.triple).filter (!·.isEmpty)⟩

variable {w : Worksheet} {f : Filter} {l : Layout} {inputs : List (Option Nat)}

theorem scanNext_toNat (start : Int) :
    w.scanNext (start.toNat : Nat) f l inputs = w.scanNext start f l inputs := by
  simp only [scanNext, Int.toNat_natCast]

theorem scanNext_forward {start : Int} (more : (w.scanNext start f l inputs).hasMore = true) :
    start.toNat < (w.scanNext start f l inputs).nextRow ∧
      (w.scanNext start f l inputs).nextRow < w.rowCount := by
  rw [← scanNext_toNat] at more ⊢
  exact scanNext_advances more

theorem resumes_stepsFrom (start : Int) :
    w.Resumes f l inputs start (w.stepsFrom f l inputs start.toNat) := by
  induction h : w.rowCount - start.toNat using Nat.strongRecOn generalizing start with
  | ind k ih =>
    rw [stepsFrom]
    simp only [scanNext_toNat]
    split
    · rename_i more
      have forward := scanNext_forward more
      have rest := ih (w.rowCount - (w.scanNext start f l inputs).nextRow) (by omega)
        (w.scanNext start f l inputs).nextRow rfl
      exact .step more rest
    · rename_i ended
      exact .last (Bool.eq_false_iff.mpr ended)

namespace Resumes

variable {start : Int} {steps other : List ScanStep}

theorem unique (one : w.Resumes f l inputs start steps) (two : w.Resumes f l inputs start other) :
    other = steps := by
  induction one generalizing other with
  | last ended =>
    cases two with
    | last => rfl
    | step more => rw [ended] at more; contradiction
  | step more _ ih =>
    cases two with
    | last ended => rw [ended] at more; contradiction
    | step _ rest => rw [ih rest]

theorem eq_stepsFrom (run : w.Resumes f l inputs start steps) :
    steps = w.stepsFrom f l inputs start.toNat :=
  (resumes_stepsFrom start).unique run

theorem length_le (run : w.Resumes f l inputs start steps) :
    steps.length ≤ w.rowCount - start.toNat + 1 := by
  -- every call goes on behind the row where it began
  induction run with
  | last => simp
  | step more _ ih =>
    have forward := scanNext_forward more
    simp only [Int.toNat_natCast] at ih
    simp only [List.length_cons]
    omega

theorem lt_nextRow (run : w.Resumes f l inputs start steps) (inside : start.toNat < w.rowCount)
    {step : ScanStep} (member : step ∈ steps) : start.toNat < step.nextRow := by
  induction run with
  | @last start ended =>
    rw [List.mem_singleton.mp member]
    cases found : w.nextRow? l f start.toNat with
    | none => simpa [scanNext, found] using inside
    | some row =>
      have bounds := nextRow?_bounds found
      simp only [scanNext, found]
      omega
  | step more rest ih =>
    have forward := scanNext_forward more
    rcases List.mem_cons.mp member with first | later
    · rw [first]
      exact forward.1
    · have behind := ih (by simpa using forward.2) later
      simp only [Int.toNat_natCast] at behind
      omega

theorem onward (run : w.Resumes f l inputs start steps) :
    (steps.map ScanStep.nextRow).Pairwise (· < ·) := by
  induction run with
  | last => simp
  | step more rest ih =>
    rw [List.map_cons, List.pairwise_cons]
    refine ⟨?_, ih⟩
    intro next member
    obtain ⟨step, inside, rfl⟩ := List.mem_map.mp member
    have forward := scanNext_forward more
    exact rest.lt_nextRow (by simpa using forward.2) inside

theorem exists_cursor (run : w.Resumes f l inputs start steps) {step : ScanStep}
    (member : step ∈ steps) : ∃ cursor, step = w.scanNext cursor f l inputs := by
  induction run with
  | last => exact ⟨_, List.mem_singleton.mp member⟩
  | step _ _ ih =>
    rcases List.mem_cons.mp member with first | later
    · exact ⟨_, first⟩
    · exact ih later

theorem found (run : w.Resumes f l inputs start steps) :
    steps.filterMap ScanStep.row = w.qualifyingRows l f start.toNat := by
  have with_row : steps.filter (·.row.isSome) =
      (w.qualifyingRows l f start.toNat).map (w.stepAt l inputs) :=
    run.eq_stepsFrom ▸ stepsFrom_with_row start.toNat
  have rows := congrArg (List.filterMap ScanStep.row) with_row
  rw [List.filterMap_filter, List.filterMap_map] at rows
  have skips : (fun step : ScanStep => if step.row.isSome = true then step.row else none) =
      ScanStep.row := by
    funext step
    cases step.row <;> rfl
  have kept : ScanStep.row ∘ w.stepAt l inputs = some := rfl
  rw [skips, kept, List.filterMap_some] at rows
  exact rows

theorem isRule_iff (run : w.Resumes f l inputs start steps) {step : ScanStep}
    (member : step ∈ steps) : step.isRule = !step.triple.isEmpty := by
  obtain ⟨cursor, rfl⟩ := run.exists_cursor member
  unfold ScanStep.isRule scanNext
  split
  · rfl
  · rfl

theorem triples (run : w.Resumes f l inputs start steps) :
    (steps.map ScanStep.triple).filter (!·.isEmpty) =
      (w.ruleRows f l inputs start.toNat).map (w.extract l inputs) := by
  have rules : steps.filter ((!·.isEmpty) ∘ ScanStep.triple) = steps.filter ScanStep.isRule :=
    List.filter_congr fun step member => (run.isRule_iff member).symm
  rw [List.filter_map, rules, run.eq_stepsFrom, rules_of_stepsFrom, ruleRows_eq, List.map_map]
  rfl

theorem extracted (run : w.Resumes f l inputs start steps) {step : ScanStep}
    (member : step ∈ steps) {row : Nat} (at_row : step.row = some row) :
    step.triple = w.extract l inputs row ∧ step.nextRow = row + 1 ∧
      (step.hasMore = true ↔ (row : Int) < w.lastRow) := by
  obtain ⟨cursor, rfl⟩ := run.exists_cursor member
  cases found : w.nextRow? l f cursor.toNat with
  | none => simp [scanNext, found] at at_row
  | some other =>
    simp only [scanNext, found, Option.some.injEq] at at_row ⊢
    subst at_row
    refine ⟨rfl, rfl, ?_⟩
    simp only [decide_eq_true_eq, lastRow]
    omega

end Resumes

theorem mem_qualifyingRows_toNat {start : Int} {row : Nat} :
    row ∈ w.qualifyingRows l f start.toNat ↔
      max start 0 ≤ row ∧ (row : Int) ≤ w.lastRow ∧ w.qualifies l f row = true := by
  rw [mem_qualifyingRows, lastRow]
  have behind : start.toNat ≤ row ↔ max start 0 ≤ row := by omega
  have inside : row < w.rowCount ↔ (row : Int) ≤ w.rowCount - 1 := by omega
  rw [behind, inside]

theorem Resumes.traverses {start : Int} {steps : List ScanStep}
    (run : w.Resumes f l inputs start steps) : w.Traverses f l inputs start steps where
  short := by
    have := run.length_le
    omega
  onward := run.onward
  ascending := by
    rw [run.found]
    exact qualifyingRows_ascending _
  found_iff := by
    intro row
    rw [run.found]
    exact mem_qualifyingRows_toNat
  extracted := fun _ member _ at_row => run.extracted member at_row
  collected := by
    intro sequence token columns
    rw [scanPass_eq, columns, run.triples]

theorem scanNext_of_unqualified {start : Int}
    (unqualified : ∀ row : Nat, max start 0 ≤ row → (row : Int) ≤ w.lastRow →
      w.qualifies l f row = false) :
    w.scanNext start f l inputs = ⟨none, w.rowCount, false, {}⟩ := by
  rw [← scanNext_toNat]
  apply scanNext_of_none
  cases found : w.nextRow? l f start.toNat with
  | none => rfl
  | some row =>
    have bounds := nextRow?_bounds found
    have refused := unqualified row (by omega) (by simp only [lastRow]; omega)
    rw [List.find?_some found] at refused
    contradiction

theorem filter_range (count first cut : Nat) :
    (List.range count).filter (fun row => first ≤ row ∧ row < cut) =
      List.range' first (min count cut - first) := by
  induction count with
  | zero => simp
  | succ count ih =>
    rw [List.range_succ, List.filter_append, ih]
    by_cases inside : first ≤ count ∧ count < cut
    · have longer : min (count + 1) cut - first = min count cut - first + 1 := by omega
      have last : first + (min count cut - first) = count := by omega
      rw [longer, List.range'_1_concat, last, List.filter_cons_of_pos (by simpa using inside),
        List.filter_nil]
    · have same : min (count + 1) cut - first = min count cut - first := by omega
      rw [same, List.filter_cons_of_neg (by simpa using inside), List.filter_nil, List.append_nil]

theorem rowsBetween_eq (start cut : Int) :
    w.rowsBetween start cut =
      List.range' start.toNat (min w.rowCount cut.toNat - start.toNat) := by
  rw [← filter_range, rowsBetween]
  apply List.filter_congr
  intro row _
  simp only [decide_eq_decide]
  omega

theorem rows_cut {start cut : Int} (behind : start ≤ cut) :
    List.range' start.toNat (w.rowCount - start.toNat) =
      w.rowsBetween start cut ++ List.range' cut.toNat (w.rowCount - cut.toNat) := by
  rw [rowsBetween_eq]
  by_cases inside : cut.toNat ≤ w.rowCount
  · rw [Nat.min_eq_right inside]
    have join : List.range' start.toNat (cut.toNat - start.toNat) ++ _ = _ :=
      List.range'_append_1 (n := w.rowCount - cut.toNat)
    have middle : start.toNat + (cut.toNat - start.toNat) = cut.toNat := by omega
    have whole : cut.toNat - start.toNat + (w.rowCount - cut.toNat) =
        w.rowCount - start.toNat := by omega
    rw [middle, whole] at join
    exact join.symm
  · rw [Nat.min_eq_left (by omega), Nat.sub_eq_zero_of_le (by omega : w.rowCount ≤ cut.toNat),
      List.range'_zero, List.append_nil]

theorem rulesAmong_append (before behind : List Nat) :
    w.rulesAmong f l inputs (before ++ behind) =
      w.rulesAmong f l inputs before ++ w.rulesAmong f l inputs behind := by
  simp only [rulesAmong, List.filter_append, List.map_append]

theorem triples_scanPass (start sequence : Int) (token : String) :
    (w.scanPass start f l sequence token).triples =
      w.rulesAmong f l (l.inputColumns token)
        (List.range' start.toNat (w.rowCount - start.toNat)) := by
  rw [scanPass_eq, rulesAmong, List.filter_map, ← qualifyingRows, ruleRows_eq]
  rfl

/-- A caller who takes a scan up again comes to an end after at most one call more than there are
    rows, and in one way only. The calls find the qualifying rows from the cursor on, in order, and
    their triples are those of a pass. Without a qualifying row the first call finds nothing. A
    pass may be cut at any row at or behind its cursor. -/
theorem resumed_scan (w : Worksheet) (f : Filter) (l : Layout) (inputs : List (Option Nat))
    (start : Int) :
    (∃ steps, w.Resumes f l inputs start steps ∧
      (∀ other, w.Resumes f l inputs start other → other = steps) ∧
      w.Traverses f l inputs start steps) ∧
    ((∀ row : Nat, max start 0 ≤ row → (row : Int) ≤ w.lastRow → w.qualifies l f row = false) →
      (w.scanNext start f l inputs).row = none ∧
      (w.scanNext start f l inputs).hasMore = false ∧
      ((w.scanNext start f l inputs).nextRow : Int) = w.lastRow + 1 ∧
      (w.scanNext start f l inputs).triple = ⟨"", "", ""⟩) ∧
    ∀ (cut sequence : Int) (token : String), start ≤ cut →
      (w.scanPass start f l sequence token).triples =
        w.rulesAmong f l (l.inputColumns token) (w.rowsBetween start cut) ++
          (w.scanPass cut f l sequence token).triples := by
  refine ⟨?_, ?_, ?_⟩
  · have run : w.Resumes f l inputs start _ := resumes_stepsFrom start
    exact ⟨_, run, fun _ other => run.unique other, run.traverses⟩
  · intro unqualified
    rw [scanNext_of_unqualified unqualified]
    refine ⟨rfl, rfl, ?_, rfl⟩
    simp only [lastRow]
    omega
  · intro cut sequence token behind
    rw [triples_scanPass, triples_scanPass, rows_cut behind, rulesAmong_append]

/-! A blank row and a row of another line between two rows of one line. -/

def lineSheet : Worksheet where
  name := "Rules"
  rows := [[.text "Mobile", .text "first"], [], [.text "TV", .text "second"],
    [.text "Mobile", .integer 7]]

def lineLayout : Layout where
  columns := .ofSheet ["Line", "Text"] ["L", "T"] lineSheet
  textColumn := some 1
  filterColumn := some 0
  outputColumns := []
  inputFields := []

theorem resumed_scan_sample :
    (∀ row : Nat, max 1 0 ≤ (row : Int) → (row : Int) ≤ lineSheet.lastRow →
      lineSheet.qualifies lineLayout (.equalTo "Radio") row = false) ∧
    ((lineSheet.scanNext 1 (.equalTo "Radio") lineLayout []).nextRow : Int) = 4 ∧
    (∃ steps, lineSheet.Resumes (.equalTo "Mobile") lineLayout [] (-2) steps ∧
      steps.length ≤ 5 ∧ ∀ row, row ∈ steps.filterMap ScanStep.row ↔ row = 0 ∨ row = 3) ∧
    (lineSheet.scanPass (-2) (.noneOf []) lineLayout 1 "").triples =
      [⟨"first", "", ""⟩] ++ (lineSheet.scanPass 2 (.noneOf []) lineLayout 1 "").triples := by
  have unqualified : ∀ row : Nat, max 1 0 ≤ (row : Int) → (row : Int) ≤ lineSheet.lastRow →
      lineSheet.qualifies lineLayout (.equalTo "Radio") row = false := by
    intro row _ inside
    have refused : ∀ row < 4, lineSheet.qualifies lineLayout (.equalTo "Radio") row = false := by
      decide
    have last : lineSheet.lastRow = 3 := rfl
    exact refused row (by omega)
  have idle := (resumed_scan lineSheet (.equalTo "Radio") lineLayout [] 1).2.1 unqualified
  obtain ⟨⟨steps, run, _, traverses⟩, _, _⟩ :=
    resumed_scan lineSheet (.equalTo "Mobile") lineLayout [] (-2)
  have cut := (resumed_scan lineSheet (.noneOf []) lineLayout [] (-2)).2.2 2 1 "" (by decide)
  refine ⟨unqualified, idle.2.2.1, ⟨steps, run, traverses.short, ?_⟩, cut.trans ?_⟩
  · intro row
    rw [traverses.found_iff]
    have last : lineSheet.lastRow = 3 := rfl
    have mobile : ∀ row < 4, lineSheet.qualifies lineLayout (.equalTo "Mobile") row = true ↔
        row = 0 ∨ row = 3 := by
      decide
    constructor
    · intro found
      obtain ⟨_, inside, qualifies⟩ := found
      exact (mobile row (by omega)).mp qualifies
    · intro named
      exact ⟨by omega, by omega, (mobile row (by omega)).mpr named⟩
  · have before : lineSheet.rulesAmong (.noneOf []) lineLayout (lineLayout.inputColumns "")
        (lineSheet.rowsBetween (-2) 2) = [⟨"first", "", ""⟩] := by
      decide
    rw [before]

end Rulesheet.Worksheet
