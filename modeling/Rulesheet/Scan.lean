import Rulesheet.Columns
import Rulesheet.Filter

/- Scanning a sheet for rules. One step finds the first row at or after a cursor that a filter
   lets through and extracts its texts; a pass takes steps to the end of the sheet and keeps the
   extractions that are not empty. -/
namespace Rulesheet

/-- What one row says: the rule text, the joined inputs and the joined outputs. -/
structure Triple where
  text : String := ""
  inputs : String := ""
  outputs : String := ""
  deriving DecidableEq, Repr

def Triple.isEmpty (t : Triple) : Bool := t.text = "" ∧ t.inputs = "" ∧ t.outputs = ""

structure Pass where
  sequence : Int
  token : String
  triples : List Triple
  deriving DecidableEq, Repr

def Pass.add (p : Pass) (t : Triple) : Pass := { p with triples := p.triples ++ [t] }

/-- Columns that a macro uses. Without a filter column every row goes through. -/
structure Layout where
  columns : ColumnMap
  textColumn : Option Nat
  filterColumn : Option Nat
  outputColumns : List (Option Nat)
  inputFields : List String
  deriving DecidableEq, Repr

/-- A token names its own input fields; a blank one leaves the declared fields in force. -/
def Layout.inputColumns (l : Layout) (token : String) : List (Option Nat) :=
  l.columns.resolve (if Text.trim token = "" then l.inputFields else Text.names token)

namespace Worksheet

/-- Fields without a column leave no gap. -/
def joined (w : Worksheet) (row : Nat) (columns : List (Option Nat)) : String :=
  Text.join "," ((columns.filterMap id).map (w.text row))

def qualifies (w : Worksheet) (l : Layout) (f : Filter) (row : Nat) : Bool :=
  match l.filterColumn with
  | none => true
  | some c => f.accepts (w.text row c)

def extract (w : Worksheet) (l : Layout) (inputs : List (Option Nat)) (row : Nat) : Triple where
  text := match l.textColumn with
    | none => ""
    | some c => w.text row c
  inputs := w.joined row inputs
  outputs := w.joined row l.outputColumns

/-- Every row has its filter cell looked at, and one that it lets through those of its triple. -/
def rowIsLegible (w : Worksheet) (l : Layout) (f : Filter) (inputs : List (Option Nat))
    (row : Nat) : Bool :=
  l.filterColumn.all (w.isLegible row) &&
    (!w.qualifies l f row ||
      (l.textColumn :: inputs ++ l.outputColumns).all fun col => col.all (w.isLegible row))

def nextRow? (w : Worksheet) (l : Layout) (f : Filter) (start : Nat) : Option Nat :=
  (List.range' start (w.rowCount - start)).find? (w.qualifies l f)

theorem nextRow?_bounds {w : Worksheet} {l : Layout} {f : Filter} {start row : Nat}
    (h : w.nextRow? l f start = some row) : start ≤ row ∧ row < w.rowCount := by
  have := List.mem_of_find?_eq_some h
  rw [List.mem_range'_1] at this
  omega

end Worksheet

/-- One step of a scan: the row found, the row to go on from and whether rows remain there. -/
structure ScanStep where
  row : Option Nat
  nextRow : Nat
  hasMore : Bool
  triple : Triple
  deriving DecidableEq, Repr

namespace Worksheet

def scanNext (w : Worksheet) (start : Int) (f : Filter) (l : Layout)
    (inputs : List (Option Nat)) : ScanStep :=
  match w.nextRow? l f start.toNat with
  | some row => ⟨some row, row + 1, row + 1 < w.rowCount, w.extract l inputs row⟩
  | none => ⟨none, w.rowCount, false, {}⟩

theorem scanNext_advances {w : Worksheet} {start : Nat} {f : Filter} {l : Layout}
    {inputs : List (Option Nat)} (more : (w.scanNext start f l inputs).hasMore = true) :
    start < (w.scanNext start f l inputs).nextRow ∧
      (w.scanNext start f l inputs).nextRow < w.rowCount := by
  unfold scanNext at more ⊢
  split at more
  · next row found =>
    have := nextRow?_bounds found
    simp only [decide_eq_true_eq] at more ⊢
    simp only [Int.toNat_natCast] at this
    omega
  · simp at more

def scanFrom (w : Worksheet) (f : Filter) (l : Layout) (inputs : List (Option Nat))
    (start : Nat) (pass : Pass) : Pass :=
  let step := w.scanNext start f l inputs
  let pass := if step.row.isSome && !step.triple.isEmpty then pass.add step.triple else pass
  if step.hasMore then w.scanFrom f l inputs step.nextRow pass else pass
termination_by w.rowCount - start
decreasing_by
  have := scanNext_advances ‹_›
  omega

def scanPass (w : Worksheet) (start : Int) (f : Filter) (l : Layout) (sequence : Int)
    (token : String) : Pass :=
  w.scanFrom f l (l.inputColumns token) start.toNat ⟨sequence, token, []⟩

def scanIsLegible (w : Worksheet) (start : Nat) (f : Filter) (l : Layout) (token : String) : Bool :=
  (List.range' start (w.rowCount - start)).all (w.rowIsLegible l f (l.inputColumns token))

end Worksheet
end Rulesheet
