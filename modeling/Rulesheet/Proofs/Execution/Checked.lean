import Rulesheet.Proofs.Execution
import Rulesheet.Proofs.Rows
import Rulesheet.Proofs.Text.Pieces

/- Execution with every access checked. Here a column that is not there is the number -1, and taking
   an item of a list, searching a value in it or a sheet in a workbook, and writing a cell as text
   stops with an error text when it fails. Of these only the last one can fail, on an integer that
   is too long. So the checked execution stops for want of a file template, of the target sheet or of
   a release to compare, or at the first cell that has no text, and returns what the execution
   does. -/
namespace Rulesheet.Checked

/-! Accesses. -/

section Access

variable {α β : Type}

/-- A negative position counts from the end. -/
def item (xs : List α) (i : Int) : Except String α :=
  let i := if i < 0 then i + xs.length else i
  if i < 0 then .error "list index out of range"
  else match xs[i.toNat]? with
    | some a => .ok a
    | none => .error "list index out of range"

def itemOr (other : α) (xs : List α) (i : Int) : Except String α :=
  if i < xs.length then item xs i else .ok other

def index [DecidableEq α] (xs : List α) (a : α) : Except String Int :=
  match position? a xs with
  | some i => .ok i
  | none => .error "value is not in list"

def sheet (book : Workbook) (name : String) : Except String Worksheet :=
  match book.sheet? name with
  | some w => .ok w
  | none => .error (sheetNotFoundMessage name)

theorem ok_bind (a : α) (f : α → Except String β) : (Except.ok a >>= f) = f a := rfl

theorem item_eq_ok {xs : List α} {i : Nat} {a : α} (there : xs[i]? = some a) :
    item xs i = .ok a := by
  have front : ¬ (i : Int) < 0 := by omega
  simp only [item, if_neg front, Int.toNat_natCast, there]

theorem itemOr_eq (other : α) (xs : List α) (i : Nat) :
    itemOr other xs i = .ok (xs[i]?.getD other) := by
  unfold itemOr
  by_cases inside : i < xs.length
  · have there := List.getElem?_eq_getElem inside
    rw [if_pos (by omega), item_eq_ok there, there, Option.getD_some]
  · rw [if_neg (by omega), List.getElem?_eq_none (by omega), Option.getD_none]

def taken (legible : Bool) (a : α) : Except String α :=
  if legible then .ok a else .error ValueFault.longInteger.message

theorem taken_bind {legible legible' : Bool} {a : α} {b : β} {f : α → Except String β}
    (next : f a = taken legible' b) : (taken legible a >>= f) = taken (legible && legible') b := by
  cases legible
  · rfl
  · exact next

theorem taken_bind_ok {legible : Bool} {a : α} {b : β} {f : α → Except String β}
    (next : f a = .ok b) : (taken legible a >>= f) = taken legible b := by
  have after : f a = taken true b := next
  rw [taken_bind after, Bool.and_true]

theorem mapM_eq_taken {xs : List α} {f : α → Except String β} {legible : α → Bool} {g : α → β}
    (each : ∀ x ∈ xs, f x = taken (legible x) (g x)) :
    xs.mapM f = taken (xs.all legible) (xs.map g) := by
  induction xs with
  | nil => rfl
  | cons x rest ih =>
    have others := ih fun y member => each y (List.mem_cons_of_mem x member)
    rw [List.mapM_cons, each x List.mem_cons_self, List.all_cons]
    apply taken_bind
    rw [others]
    exact taken_bind_ok rfl

theorem mapM_eq_map {xs : List α} {f : α → Except String β} {g : α → β}
    (each : ∀ x ∈ xs, f x = .ok (g x)) : xs.mapM f = .ok (xs.map g) := by
  have all : xs.mapM f = taken (xs.all fun _ => true) (xs.map g) := mapM_eq_taken each
  rw [all, List.all_eq_true.mpr fun _ _ => rfl]
  rfl

theorem all_upTo (p each last : α → Bool) (xs : List α) :
    (upTo p xs).all (fun x => each x && (!p x || last x)) =
      ((upTo p xs).all each && (xs.find? p).all last) := by
  induction xs with
  | nil => rfl
  | cons x rest ih =>
    rw [upTo, List.find?_cons]
    cases here : p x with
    | true => simp [here]
    | false => simp [here, ih, Bool.and_assoc]

end Access

/-! Cells. -/

def cell (w : Worksheet) (row col : Int) : Except String Cell :=
  if row < 0 ∨ col < 0 ∨ (w.rowCount : Int) ≤ row then .ok .empty
  else do
    itemOr .empty (← item w.rows row) col

def text (w : Worksheet) (row col : Int) : Except String String := do
  (← cell w row col).display?.mapError ValueFault.message

theorem cell_eq (w : Worksheet) (row col : Nat) : cell w row col = .ok (w.cell row col) := by
  unfold cell
  by_cases outside : w.rowCount ≤ row
  · rw [if_pos (by omega), Worksheet.cell_of_rowCount_le w outside]
  · rw [if_neg (by omega)]
    obtain ⟨values, there⟩ : ∃ values, w.rows[row]? = some values :=
      ⟨_, List.getElem?_eq_getElem (by unfold Worksheet.rowCount at outside; omega)⟩
    rw [item_eq_ok there, ok_bind, itemOr_eq, Worksheet.cell, there, Option.getD_some]

theorem text_eq (w : Worksheet) (row col : Nat) :
    text w row col = taken (w.isLegible row col) (w.text row col) := by
  rw [text, cell_eq, ok_bind, Cell.display?, Cell.whenLegible, Worksheet.isLegible]
  cases (w.cell row col).isLegible <;> rfl

theorem text_first (w : Worksheet) (row : Nat) :
    text w row 0 = taken (w.isLegible row 0) (w.text row 0) := text_eq w row 0

/-! Header and columns. -/

def anchorRow (w : Worksheet) (anchor : String) : List Nat → Except String Nat
  | [] => .ok 0
  | row :: rest => do
    if (← text w row 0) = anchor then return row else anchorRow w anchor rest

def headerRow (w : Worksheet) (anchor : String) : Except String Nat :=
  let anchor := Text.trim anchor
  if anchor = "" then .ok 0 else anchorRow w anchor (List.range (w.lastRow + 1).toNat)

def header (w : Worksheet) (row : Nat) : Except String (List String) :=
  (List.range (w.lastColumn + 1).toNat).mapM fun (col : Nat) => text w row col

def lookup (names : List String) (name : String) (use : Int → Except String Int) :
    Except String Int :=
  if name ∈ names then do use (← index names name) else .ok (-1)

structure Columns where
  headerRow : Nat
  sourceFields : List String
  logicalFields : List String
  columns : List Int

def column (header : List String) (name : String) : Except String Int := lookup header name .ok

def headerOf (w : Worksheet) (source : List String) : Except String Nat :=
  if source = [] then .ok 0 else do headerRow w (← item source 0)

def mapColumns (source logical : List String) (w : Worksheet) : Except String Columns := do
  let source := source.map Text.trim
  let row ← headerOf w source
  let header ← header w row
  let columns ← source.mapM (column header)
  return ⟨row, source, logical.map Text.trim, columns⟩

namespace Columns

def bySource (m : Columns) (name : String) : Except String Int :=
  lookup m.sourceFields (Text.trim name) (item m.columns)

def byLogical (m : Columns) (name : String) : Except String Int :=
  lookup m.logicalFields (Text.trim name) (itemOr (-1) m.columns)

def resolve (m : Columns) (names : List String) : Except String (List Int) :=
  names.mapM m.byLogical

end Columns

def number : Option Nat → Int
  | some col => col
  | none => -1

def numbered (m : ColumnMap) : Columns where
  headerRow := m.headerRow
  sourceFields := m.sourceFields
  logicalFields := m.logicalFields
  columns := m.columns.map number

theorem anchorRow_eq (w : Worksheet) (anchor : String) (rows : List Nat) :
    anchorRow w anchor rows =
      taken ((upTo (fun r => w.text r 0 == anchor) rows).all fun r => w.isLegible r 0)
        ((rows.find? fun r => w.text r 0 == anchor).getD 0) := by
  induction rows with
  | nil => rfl
  | cons row rest ih =>
    rw [anchorRow, text_first, upTo, List.find?_cons]
    by_cases here : w.text row 0 = anchor
    · simp only [here, beq_self_eq_true, if_true, List.all_cons, List.all_nil, Bool.and_true]
      exact taken_bind_ok (if_pos rfl)
    · simp only [beq_false_of_ne here, Bool.false_eq_true, if_false, List.all_cons]
      apply taken_bind
      rw [if_neg here, ih]

theorem headerRow_eq (w : Worksheet) (anchor : String) :
    headerRow w anchor = taken (w.anchorIsLegible anchor) (w.headerRow anchor) := by
  have rows : (w.lastRow + 1).toNat = w.rowCount := by
    simp [Worksheet.lastRow]
  rw [Worksheet.anchorIsLegible_eq]
  unfold headerRow Worksheet.headerRow
  dsimp only
  by_cases blank : Text.trim anchor = ""
  · rw [if_pos blank, if_pos blank, decide_eq_true blank]
    rfl
  · rw [if_neg blank, if_neg blank, decide_eq_false blank, Bool.false_or, rows, anchorRow_eq]

theorem header_eq (w : Worksheet) (row : Nat) :
    header w row = taken (w.headerIsLegible row) (w.header row) := by
  have columns : (w.lastColumn + 1).toNat = w.columnCount := by
    simp [Worksheet.lastColumn]
  rw [header, columns]
  exact mapM_eq_taken fun col _ => text_eq w row col

theorem lookup_eq (names : List String) (name : String) (use : Int → Except String Int) :
    lookup names name use = match position? name names with
      | some i => use i
      | none => .ok (-1) := by
  unfold lookup
  by_cases member : name ∈ names
  · obtain ⟨i, found⟩ : ∃ i, position? name names = some i :=
      Option.ne_none_iff_exists'.mp fun absent => position?_eq_none_iff.mp absent member
    rw [if_pos member, index, found, ok_bind]
  · rw [if_neg member, position?_eq_none_iff.mpr member]

theorem column_eq (header : List String) (name : String) :
    column header name = .ok (number (position? name header)) := by
  rw [column, lookup_eq]
  cases position? name header <;> rfl

theorem headerOf_eq (w : Worksheet) (source logical : List String) :
    headerOf w (source.map Text.trim) =
      taken (match source with
        | [] => true
        | anchor :: _ => w.anchorIsLegible anchor) (ColumnMap.ofSheet source logical w).headerRow := by
  cases source with
  | nil => rfl
  | cons anchor rest =>
    have first : item ((anchor :: rest).map Text.trim) 0 = .ok (Text.trim anchor) :=
      item_eq_ok (i := 0) rfl
    have named : (anchor :: rest).map Text.trim ≠ [] := by simp
    rw [headerOf, if_neg named, first, ok_bind, headerRow_eq]
    simp only [ColumnMap.ofSheet, List.map_cons, Worksheet.anchorIsLegible, Text.trim_trim]

theorem mapColumns_eq (source logical : List String) (w : Worksheet) :
    mapColumns source logical w =
      taken (ColumnMap.areLegible source w) (numbered (.ofSheet source logical w)) := by
  unfold mapColumns
  dsimp only
  rw [headerOf_eq w source logical]
  apply taken_bind
  rw [header_eq]
  apply taken_bind_ok
  rw [mapM_eq_map fun name _ => column_eq _ name, ok_bind]
  simp only [pure, Except.pure, numbered, ColumnMap.ofSheet, List.map_map]
  rfl

theorem getD_number (columns : List (Option Nat)) (i : Nat) :
    (columns.map number)[i]?.getD (-1) = number (columns[i]?).join := by
  rw [List.getElem?_map]
  cases columns[i]? <;> rfl

theorem bySource_eq {m : ColumnMap} (parallel : m.columns.length = m.sourceFields.length)
    (name : String) : (numbered m).bySource name = .ok (number (m.bySource name)) := by
  have names : (numbered m).sourceFields = m.sourceFields := rfl
  have columns : (numbered m).columns = m.columns.map number := rfl
  rw [Columns.bySource, ColumnMap.bySource, lookup_eq, names, columns]
  cases found : position? (Text.trim name) m.sourceFields with
  | none => rfl
  | some i =>
    have inside := (List.getElem?_eq_some_iff.mp (getElem?_of_position? found)).1
    rw [← parallel, ← List.length_map (f := number)] at inside
    dsimp only
    rw [← getD_number, item_eq_ok (List.getElem?_eq_getElem inside),
      List.getElem?_eq_getElem inside, Option.getD_some]

theorem byLogical_eq (m : ColumnMap) (name : String) :
    (numbered m).byLogical name = .ok (number (m.byLogical name)) := by
  have names : (numbered m).logicalFields = m.logicalFields := rfl
  have columns : (numbered m).columns = m.columns.map number := rfl
  rw [Columns.byLogical, ColumnMap.byLogical, lookup_eq, names, columns]
  cases position? (Text.trim name) m.logicalFields with
  | none => rfl
  | some i =>
    dsimp only
    rw [itemOr_eq, getD_number]

theorem resolve_eq (m : ColumnMap) (names : List String) :
    (numbered m).resolve names = .ok ((m.resolve names).map number) := by
  rw [ColumnMap.resolve, List.map_map]
  exact mapM_eq_map fun name _ => byLogical_eq m name

/-! Scanning. -/

structure Positions where
  columns : Columns
  textColumn : Int
  filterColumn : Int
  outputColumns : List Int
  inputFields : List String

def positions (l : Layout) : Positions where
  columns := numbered l.columns
  textColumn := number l.textColumn
  filterColumn := number l.filterColumn
  outputColumns := l.outputColumns.map number
  inputFields := l.inputFields

def layout (c : MacroConfig) (w : Worksheet) : Except String Positions := do
  let columns ← mapColumns (Text.names c.sourceFields) (Text.names c.logicalFields) w
  let textColumn ← columns.bySource c.textField
  let filterColumn ← columns.bySource c.filterField
  let outputColumns ← columns.resolve (Text.names c.outputFields)
  return ⟨columns, textColumn, filterColumn, outputColumns, Text.names c.inputFields⟩

def Positions.inputColumns (l : Positions) (token : String) : Except String (List Int) :=
  l.columns.resolve (if Text.trim token = "" then l.inputFields else Text.names token)

def joined (w : Worksheet) (row : Nat) (columns : List Int) : Except String String := do
  return Text.join "," (← (columns.filter (· ≠ -1)).mapM (text w row))

def textIn (w : Worksheet) (row : Nat) (column : Int) : Except String String :=
  if column = -1 then .ok "" else text w row column

def accepts (f : Filter) (cellText : String) : Except String Bool :=
  match f.kind with
  | .exact => do
    let value ← itemOr "" f.values 0
    return Text.trim cellText = value
  | .exclude => return !f.values.contains (Text.trim cellText)

def qualifies (w : Worksheet) (l : Positions) (f : Filter) (row : Nat) : Except String Bool :=
  if l.filterColumn = -1 then .ok true else do accepts f (← text w row l.filterColumn)

def extract (w : Worksheet) (l : Positions) (inputs : List Int) (row : Nat) :
    Except String Triple := do
  let ruleText ← textIn w row l.textColumn
  let inputs ← joined w row inputs
  let outputs ← joined w row l.outputColumns
  return ⟨ruleText, inputs, outputs⟩

def firstRow (w : Worksheet) (l : Positions) (f : Filter) : List Nat → Except String (Option Nat)
  | [] => .ok none
  | row :: rest => do
    if ← qualifies w l f row then return some row else firstRow w l f rest

def scanNext (w : Worksheet) (start : Nat) (f : Filter) (l : Positions) (inputs : List Int) :
    Except String ScanStep := do
  let rows := (w.lastRow + 1).toNat
  match ← firstRow w l f (List.range' start (rows - start)) with
  | some row => return ⟨some row, row + 1, (row : Int) < w.lastRow, ← extract w l inputs row⟩
  | none => return ⟨none, rows, false, {}⟩

theorem mem_of_firstRow {w : Worksheet} {l : Positions} {f : Filter} {rows : List Nat} {row : Nat}
    (found : firstRow w l f rows = .ok (some row)) : row ∈ rows := by
  induction rows with
  | nil => cases found
  | cons first rest ih =>
    rw [firstRow] at found
    cases qualified : qualifies w l f first with
    | error e =>
      rw [qualified] at found
      cases found
    | ok accepted =>
      rw [qualified, ok_bind] at found
      cases accepted with
      | true =>
        cases found
        exact List.mem_cons_self
      | false => exact List.mem_cons_of_mem _ (ih found)

theorem scanNext_advances {w : Worksheet} {start : Nat} {f : Filter} {l : Positions}
    {inputs : List Int} {step : ScanStep} (done : scanNext w start f l inputs = .ok step)
    (more : step.hasMore = true) : start < step.nextRow ∧ step.nextRow < w.rowCount := by
  unfold scanNext at done
  dsimp only at done
  cases found : firstRow w l f (List.range' start ((w.lastRow + 1).toNat - start)) with
  | error e =>
    rw [found] at done
    cases done
  | ok row =>
    rw [found, ok_bind] at done
    cases row with
    | none =>
      cases done
      cases more
    | some row =>
      have inside := List.mem_range'_1.mp (mem_of_firstRow found)
      dsimp only at done
      cases extracted : extract w l inputs row with
      | error e =>
        rw [extracted] at done
        cases done
      | ok triple =>
        rw [extracted] at done
        cases done
        have before : (row : Int) < w.lastRow := of_decide_eq_true more
        unfold Worksheet.lastRow at before
        dsimp only
        omega

def scanFrom (w : Worksheet) (f : Filter) (l : Positions) (inputs : List Int) (start : Nat)
    (pass : Pass) : Except String Pass :=
  match _ : scanNext w start f l inputs with
  | .error e => .error e
  | .ok step =>
    let pass := if step.row.isSome && !step.triple.isEmpty then pass.add step.triple else pass
    if step.hasMore then scanFrom w f l inputs step.nextRow pass else .ok pass
termination_by w.rowCount - start
decreasing_by
  have := scanNext_advances ‹_› ‹_›
  omega

theorem layout_eq (c : MacroConfig) (w : Worksheet) :
    layout c w =
      taken (ColumnMap.areLegible (Text.names c.sourceFields) w) (positions (c.layout w)) := by
  have parallel : (c.columnMap w).columns.length = (c.columnMap w).sourceFields.length := by
    simp [MacroConfig.columnMap, ColumnMap.ofSheet]
  have columns : mapColumns (Text.names c.sourceFields) (Text.names c.logicalFields) w =
      taken (ColumnMap.areLegible (Text.names c.sourceFields) w) (numbered (c.columnMap w)) :=
    mapColumns_eq _ _ w
  rw [layout, columns]
  apply taken_bind_ok
  rw [bySource_eq parallel, ok_bind, bySource_eq parallel, ok_bind, resolve_eq, ok_bind]
  rfl

theorem inputColumns_eq (l : Layout) (token : String) :
    (positions l).inputColumns token = .ok ((l.inputColumns token).map number) :=
  resolve_eq l.columns _

theorem filter_number (columns : List (Option Nat)) :
    (columns.map number).filter (· ≠ -1) = (columns.filterMap id).map Nat.cast := by
  induction columns with
  | nil => rfl
  | cons column rest ih =>
    cases column with
    | none => simpa [number] using ih
    | some col =>
      have there : (col : Int) ≠ -1 := by omega
      simpa [number, there] using ih

theorem all_filterMap_id (legible : Nat → Bool) (columns : List (Option Nat)) :
    (columns.filterMap id).all legible = columns.all fun col => col.all legible := by
  induction columns with
  | nil => rfl
  | cons column rest ih => cases column <;> simp [← ih]

theorem joined_eq (w : Worksheet) (row : Nat) (columns : List (Option Nat)) :
    joined w row (columns.map number) =
      taken (columns.all fun col => col.all (w.isLegible row)) (w.joined row columns) := by
  have texts : ((columns.filterMap id).map Nat.cast).mapM (text w row) =
      taken ((columns.filterMap id).all (w.isLegible row))
        ((columns.filterMap id).map (w.text row)) := by
    rw [List.mapM_map]
    exact mapM_eq_taken fun col _ => text_eq w row col
  rw [joined, filter_number, texts, all_filterMap_id]
  exact taken_bind_ok rfl

theorem accepts_eq (f : Filter) (cellText : String) :
    accepts f cellText = .ok (f.accepts cellText) := by
  unfold accepts Filter.accepts
  cases f.kind with
  | exclude => rfl
  | exact =>
    have first : itemOr "" f.values 0 = .ok (f.values.headD "") := by
      have first := itemOr_eq "" f.values 0
      rw [← List.head?_eq_getElem?, ← List.headD_eq_head?_getD] at first
      exact first
    dsimp only
    rw [first]
    rfl

theorem number_ne (col : Nat) : number (some col) ≠ -1 := by
  change (col : Int) ≠ -1
  omega

theorem qualifies_eq (w : Worksheet) (l : Layout) (f : Filter) (row : Nat) :
    qualifies w (positions l) f row =
      taken (l.filterColumn.all (w.isLegible row)) (w.qualifies l f row) := by
  have column : (positions l).filterColumn = number l.filterColumn := rfl
  unfold qualifies Worksheet.qualifies
  rw [column]
  cases l.filterColumn with
  | none => rfl
  | some col =>
    rw [if_neg (number_ne col)]
    change (do accepts f (← text w row col)) = _
    rw [text_eq]
    exact taken_bind_ok (accepts_eq f _)

theorem textIn_eq (w : Worksheet) (row : Nat) (column : Option Nat) :
    textIn w row (number column) = taken (column.all (w.isLegible row))
      (match column with
        | none => ""
        | some col => w.text row col) := by
  cases column with
  | none => rfl
  | some col =>
    rw [textIn, if_neg (number_ne col)]
    exact text_eq w row col

def tripleIsLegible (w : Worksheet) (l : Layout) (inputs : List (Option Nat)) (row : Nat) : Bool :=
  (l.textColumn :: inputs ++ l.outputColumns).all fun col => col.all (w.isLegible row)

theorem extract_eq (w : Worksheet) (l : Layout) (inputs : List (Option Nat)) (row : Nat) :
    extract w (positions l) (inputs.map number) row =
      taken (tripleIsLegible w l inputs row) (w.extract l inputs row) := by
  have ruleText : textIn w row (positions l).textColumn = _ := textIn_eq w row l.textColumn
  have outputs : joined w row (positions l).outputColumns = _ := joined_eq w row l.outputColumns
  rw [extract, ruleText, tripleIsLegible, List.cons_append, List.all_cons, List.all_append]
  apply taken_bind
  rw [joined_eq]
  apply taken_bind
  rw [outputs]
  exact taken_bind_ok rfl

theorem firstRow_eq (w : Worksheet) (l : Layout) (f : Filter) (rows : List Nat) :
    firstRow w (positions l) f rows =
      taken ((upTo (w.qualifies l f) rows).all fun row => l.filterColumn.all (w.isLegible row))
        (rows.find? (w.qualifies l f)) := by
  induction rows with
  | nil => rfl
  | cons row rest ih =>
    rw [firstRow, qualifies_eq, upTo, List.find?_cons]
    cases w.qualifies l f row with
    | true =>
      simp only [if_true, List.all_cons, List.all_nil, Bool.and_true]
      exact taken_bind_ok rfl
    | false =>
      simp only [Bool.false_eq_true, if_false, List.all_cons]
      exact taken_bind ih

theorem scanNext_eq (w : Worksheet) (start : Nat) (f : Filter) (l : Layout)
    (inputs : List (Option Nat)) :
    scanNext w start f (positions l) (inputs.map number) =
      taken ((upTo (w.qualifies l f) (List.range' start (w.rowCount - start))).all
          (w.rowIsLegible l f inputs))
        (w.scanNext start f l inputs) := by
  have rows : (w.lastRow + 1).toNat = w.rowCount := by
    simp [Worksheet.lastRow]
  have split := all_upTo (w.qualifies l f) (fun row => l.filterColumn.all (w.isLegible row))
    (tripleIsLegible w l inputs) (List.range' start (w.rowCount - start))
  unfold scanNext Worksheet.scanNext
  dsimp only
  rw [rows, firstRow_eq, Int.toNat_natCast]
  change _ = taken ((upTo _ _).all fun row => _ && (!w.qualifies l f row || _)) _
  unfold tripleIsLegible at split
  rw [split]
  apply taken_bind
  unfold Worksheet.nextRow?
  cases (List.range' start (w.rowCount - start)).find? (w.qualifies l f) with
  | none => rfl
  | some row =>
    have last : ((row : Int) < w.lastRow) ↔ row + 1 < w.rowCount := by
      unfold Worksheet.lastRow
      omega
    dsimp only
    rw [extract_eq]
    simp only [last]
    exact taken_bind_ok rfl

theorem all_rows (w : Worksheet) (f : Filter) (l : Layout) (inputs : List (Option Nat))
    (start : Nat) (legible : Nat → Bool) :
    (List.range' start (w.rowCount - start)).all legible =
      ((upTo (w.qualifies l f) (List.range' start (w.rowCount - start))).all legible &&
        (List.range' (w.scanNext start f l inputs).nextRow
          (w.rowCount - (w.scanNext start f l inputs).nextRow)).all legible) := by
  rw [upTo_range']
  unfold Worksheet.scanNext Worksheet.nextRow?
  rw [Int.toNat_natCast]
  cases found : (List.range' start (w.rowCount - start)).find? (w.qualifies l f) with
  | none => simp
  | some row =>
    obtain ⟨above, below⟩ := List.mem_range'_1.mp (List.mem_of_find?_eq_some found)
    have split : List.range' start (w.rowCount - start) =
        List.range' start (row + 1 - start) ++ List.range' (row + 1) (w.rowCount - (row + 1)) := by
      have next : start + (row + 1 - start) = row + 1 := by omega
      have length : w.rowCount - start = (row + 1 - start) + (w.rowCount - (row + 1)) := by omega
      rw [length, ← List.range'_append_1, next]
    dsimp only [Option.map_some, Option.getD_some]
    rw [split, List.all_append]

theorem rowCount_le_nextRow {w : Worksheet} {f : Filter} {l : Layout} {inputs : List (Option Nat)}
    {start : Nat} (last : ¬ (w.scanNext start f l inputs).hasMore = true) :
    w.rowCount ≤ (w.scanNext start f l inputs).nextRow := by
  unfold Worksheet.scanNext at last ⊢
  split at last
  · simp only [decide_eq_true_eq, Nat.not_lt] at last
    exact last
  · exact Nat.le_refl _

theorem scanFrom_step (w : Worksheet) (f : Filter) (l : Positions) (inputs : List Int)
    (start : Nat) (pass : Pass) :
    scanFrom w f l inputs start pass = (scanNext w start f l inputs >>= fun step =>
      let pass := if step.row.isSome && !step.triple.isEmpty then pass.add step.triple else pass
      if step.hasMore then scanFrom w f l inputs step.nextRow pass else .ok pass) := by
  rw [scanFrom]
  split
  · rename_i failed
    rw [failed]
    rfl
  · rename_i done
    rw [done]
    rfl

theorem scanFrom_eq (w : Worksheet) (f : Filter) (l : Layout) (inputs : List (Option Nat))
    (start : Nat) (pass : Pass) :
    scanFrom w f (positions l) (inputs.map number) start pass =
      taken ((List.range' start (w.rowCount - start)).all (w.rowIsLegible l f inputs))
        (w.scanFrom f l inputs start pass) := by
  fun_induction w.scanFrom f l inputs start pass with
  | case1 start pass step pass' more ih =>
    have rows := all_rows w f l inputs start (w.rowIsLegible l f inputs)
    rw [rows, scanFrom_step, scanNext_eq]
    apply taken_bind
    rw [if_pos more]
    exact ih
  | case2 start pass step pass' last =>
    have rows := all_rows w f l inputs start (w.rowIsLegible l f inputs)
    rw [Nat.sub_eq_zero_of_le (rowCount_le_nextRow last), List.range'_zero, List.all_nil,
      Bool.and_true] at rows
    rw [rows, scanFrom_step, scanNext_eq]
    apply taken_bind_ok
    rw [if_neg last]
    rfl

/-! Sequences, defaults and documents. -/

def sequence (book : Workbook) (name : String) : Except String String :=
  if name = "" ∨ book.has name = false then .ok ""
  else do
    let w ← sheet book name
    let texts ← (List.range (w.lastRow + 1).toNat).mapM fun (row : Nat) => text w row 0
    return Text.join ";" (texts.filter (· ≠ ""))

def group (parts : List String) : Except String DefaultValue.Group :=
  if parts.length < 3 then .ok .tooShort
  else do
    let field ← item parts 1
    if field ≠ "" ∧ DefaultValue.fitsName field = false then return .invalidName field
    else
      let container ← item parts 0
      let marker ← item parts 2
      let value ← itemOr "" parts 3
      return .entry ⟨container, field, marker, value⟩

def defaults (spec : String) : Except String (List DefaultValue) := do
  let groups ← (Text.cut '|' spec).mapM fun g => group ((Text.cut ',' g).map Text.trim)
  return groups.filterMap DefaultValue.Group.value?

def assemble (name container returnCode defaultSpec : String) (passes : List Pass)
    (loop : Bool) : Except String String := do
  let defaults ← defaults defaultSpec
  return Document.opening name container ++ (if loop then Document.loopOpening else "") ++
    Text.join "" (passes.map (Document.listBlock returnCode defaults)) ++ Document.closing loop

theorem sequence_eq (book : Workbook) (name : String) :
    sequence book name = taken (book.sequenceIsLegible name) (book.sequence name) := by
  unfold sequence Workbook.sequence Workbook.sequenceIsLegible
  by_cases unnamed : name = ""
  · rw [if_pos (.inl unnamed), if_pos unnamed, decide_eq_true unnamed]
    rfl
  rw [if_neg unnamed, decide_eq_false unnamed, Bool.false_or]
  cases found : book.sheet? name with
  | none =>
    have absent : book.has name = false := by rw [Workbook.has, found]; rfl
    rw [if_pos (.inr absent)]
    rfl
  | some w =>
    have rows : (w.lastRow + 1).toNat = w.rowCount := by
      simp [Worksheet.lastRow]
    have present : ¬ (name = "" ∨ book.has name = false) := by
      simp [unnamed, Workbook.has, found]
    rw [if_neg present, sheet, found, ok_bind, rows, mapM_eq_taken fun row _ => text_first w row]
    exact taken_bind_ok rfl

theorem group_eq (parts : List String) : group parts = .ok (.ofParts parts) := by
  match parts with
  | [] | [_] | [_, _] => rfl
  | container :: field :: marker :: more =>
    have long : ¬ (container :: field :: marker :: more).length < 3 := by simp
    have first : item (container :: field :: marker :: more) 0 = .ok container :=
      item_eq_ok (i := 0) rfl
    have second : item (container :: field :: marker :: more) 1 = .ok field :=
      item_eq_ok (i := 1) rfl
    have third : item (container :: field :: marker :: more) 2 = .ok marker :=
      item_eq_ok (i := 2) rfl
    have fourth : itemOr "" (container :: field :: marker :: more) 3 = .ok (more.headD "") := by
      have fourth := itemOr_eq "" (container :: field :: marker :: more) 3
      rw [List.headD_eq_head?_getD, List.head?_eq_getElem?]
      exact fourth
    rw [group, if_neg long, second, ok_bind, DefaultValue.Group.ofParts]
    by_cases named : field = "" ∨ DefaultValue.fitsName field = true
    · have usable : ¬ (field ≠ "" ∧ DefaultValue.fitsName field = false) := by
        rintro ⟨filled, invalid⟩
        rcases named with empty | valid
        · exact filled empty
        · cases invalid.symm.trans valid
      rw [if_neg usable, if_pos named, first, ok_bind, third, ok_bind, fourth]
      rfl
    · rw [not_or, Bool.not_eq_true] at named
      rw [if_pos named, if_neg (by simp [named])]
      rfl

theorem defaults_eq (spec : String) : defaults spec = .ok (DefaultValue.parse spec) := by
  rw [defaults, mapM_eq_map fun g _ => group_eq ((Text.cut ',' g).map Text.trim)]
  rfl

theorem assemble_eq (name container returnCode defaultSpec : String) (passes : List Pass)
    (loop : Bool) : assemble name container returnCode defaultSpec passes loop =
      .ok (Document.assemble name container returnCode defaultSpec passes loop) := by
  rw [assemble, defaults_eq]
  rfl

/-! Whole executions. -/

def passes (w : Worksheet) (l : Positions) (tokens : List String) (f : Filter) :
    Except String (List Pass) :=
  tokens.zipIdx.mapM fun (token, i) => do
    let inputs ← l.inputColumns token
    scanFrom w f l inputs (l.columns.headerRow + 1) ⟨i + 1, token, []⟩

def production (c : MacroConfig) (s : Settings) (w : Worksheet) (l : Positions)
    (tokens : List String) (part : Partition) : Except String Production := do
  let passes ← passes w l tokens part.filter
  let content ← assemble (part.fill c.documentName) c.container
    (if c.returnCode = "" then s.returnCode else c.returnCode) c.defaults passes c.loop
  return ⟨part, passes, content, part.fill c.fileName ++ s.outputExtension⟩

def values (c : MacroConfig) (s : Settings) : Option String → Except String String
  | some release => .ok (c.filterValues release s)
  | none =>
    if s.legacyPrefixes = [] then .ok c.currentValues else .error MacroFailure.noRelease.message

def productions (c : MacroConfig) (book : Workbook) (release : Option String) (s : Settings) :
    Except String (List Production) :=
  if c.fileName = "" then .error MacroFailure.noFileTemplate.message
  else do
    let w ← sheet book c.sheet
    let l ← layout c w
    let sequence ← sequence book c.sequenceSheet
    let values ← values c s release
    (Partition.ofValues values s.wildcard).mapM (production c s w l (sequenceTokens sequence))

/-- Whatever stops an execution becomes its one failed result. -/
def execute (c : MacroConfig) (book : Workbook) (release : Option String) (s : Settings)
    (name : String) : List MacroResult :=
  match productions c book release s with
  | .error message => [.failed message name]
  | .ok ds => ds.map fun d => .document d.content d.fileName name

theorem passes_eq (p : Plan) (part : Partition) :
    passes p.sheet (positions p.layout) p.tokens part.filter =
      taken (p.partitionIsLegible part) (p.passes part) := by
  have tokens : p.partitionIsLegible part =
      p.tokens.zipIdx.all fun (token, _) => p.passIsLegible part token := by
    rw [Plan.partitionIsLegible]
    conv_lhs => rw [← List.zipIdx_map_fst 0 p.tokens, List.all_map]
    rfl
  rw [Plan.passes, List.mapIdx_eq_zipIdx_map, tokens]
  apply mapM_eq_taken
  rintro ⟨token, i⟩ _
  dsimp only
  rw [inputColumns_eq, ok_bind]
  exact scanFrom_eq p.sheet part.filter p.layout _ _ _

theorem production_eq (c : MacroConfig) (book : Workbook) (selected : String) (s : Settings)
    (w : Worksheet) (part : Partition) :
    production c s w (positions (c.layout w)) (sequenceTokens (book.sequence c.sequenceSheet))
        part =
      taken ((c.planFor book selected s w).partitionIsLegible part)
        ((c.planFor book selected s w).produce part) := by
  have scanned : passes w (positions (c.layout w))
      (sequenceTokens (book.sequence c.sequenceSheet)) part.filter = _ :=
    passes_eq (c.planFor book selected s w) part
  rw [production, scanned]
  apply taken_bind_ok
  rw [assemble_eq, ok_bind]
  rfl

/-- What a checked execution comes to on the target sheet: first the cells that are looked at
    whatever values are selected, then the values, then the rows of each partition. -/
theorem productions_eq (c : MacroConfig) (book : Workbook) (release : Option String) (s : Settings)
    {w : Worksheet} (template : c.fileName ≠ "") (found : book.sheet? c.sheet = some w) :
    productions c book release s =
      (taken ((c.planFor book c.currentValues s w).isSettled book) () >>= fun _ =>
        values c s release >>= fun values =>
          taken ((c.planFor book values s w).partitions.all
              (c.planFor book values s w).partitionIsLegible)
            (c.planFor book values s w).productions) := by
  have mapped : ∀ values, (Partition.ofValues values s.wildcard).mapM
      (production c s w (positions (c.layout w))
        (sequenceTokens (book.sequence c.sequenceSheet))) =
      taken ((c.planFor book values s w).partitions.all
          (c.planFor book values s w).partitionIsLegible)
        (c.planFor book values s w).productions :=
    fun values => mapM_eq_taken fun part _ => production_eq c book values s w part
  rw [productions, if_neg template, sheet, found, ok_bind, layout_eq, sequence_eq]
  change _ = (taken (ColumnMap.areLegible (Text.names c.sourceFields) w &&
    book.sequenceIsLegible c.sequenceSheet) () >>= _)
  -- the columns are looked at before the sequence sheet, and both before the values
  cases ColumnMap.areLegible (Text.names c.sourceFields) w
  · rfl
  cases book.sequenceIsLegible c.sequenceSheet
  · rfl
  simp only [taken, if_true, Bool.and_self, ok_bind, mapped]

end Rulesheet.Checked
