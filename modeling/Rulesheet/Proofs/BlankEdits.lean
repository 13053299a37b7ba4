import Rulesheet.Proofs.Columns
import Rulesheet.Proofs.Execution
import Rulesheet.Proofs.Rows
import Rulesheet.Proofs.Text.Pieces

/- Edits that put blank rows into a sheet below its header or take them out. The columns, the
   sequence of passes and the cells without a text stay as they are; only rows that make rules of
   blank cells could tell. -/
namespace Rulesheet

def isBlankRow (cells : List Cell) : Bool :=
  cells.all fun cell => cell.isLegible && cell.display = ""

theorem rowText_of_blank {cells : List Cell} (blank : isBlankRow cells = true) (col : Nat) :
    rowText cells col = "" := by
  unfold rowText
  cases at_col : cells[col]? with
  | none => rfl
  | some cell =>
    have both := List.all_eq_true.mp blank cell (List.mem_of_getElem? at_col)
    rw [Bool.and_eq_true, decide_eq_true_eq] at both
    exact both.2

theorem cellIsLegible_of_blank {cells : List Cell} (blank : isBlankRow cells = true) (col : Nat) :
    cellIsLegible cells col = true := by
  unfold cellIsLegible
  cases at_col : cells[col]? with
  | none => rfl
  | some cell =>
    have both := List.all_eq_true.mp blank cell (List.mem_of_getElem? at_col)
    rw [Bool.and_eq_true] at both
    exact both.1

def filledRows (rows : List (List Cell)) : List (List Cell) := rows.filter (!isBlankRow ·)

theorem filterMap_filledRows {rule : List Cell → Option α}
    (silent : ∀ cells, isBlankRow cells = true → rule cells = none) (rows : List (List Cell)) :
    (filledRows rows).filterMap rule = rows.filterMap rule := by
  induction rows with
  | nil => rfl
  | cons cells rows ih =>
    rw [filledRows] at ih ⊢
    cases blank : isBlankRow cells with
    | true => rw [List.filter_cons_of_neg (by simp [blank]), ih,
        List.filterMap_cons_none (silent cells blank)]
    | false => simp [List.filter_cons_of_pos, List.filterMap_cons, blank, ih]

theorem all_filledRows {good : List Cell → Bool}
    (blanks : ∀ cells, isBlankRow cells = true → good cells = true) (rows : List (List Cell)) :
    (filledRows rows).all good = rows.all good := by
  induction rows with
  | nil => rfl
  | cons cells rows ih =>
    rw [filledRows] at ih ⊢
    cases blank : isBlankRow cells with
    | true => rw [List.filter_cons_of_neg (by simp [blank]), ih, List.all_cons, blanks cells blank,
        Bool.true_and]
    | false => rw [List.filter_cons_of_pos (by simp [blank]), List.all_cons, List.all_cons, ih]

theorem all_upTo_filledRows {found good : List Cell → Bool}
    (blanks : ∀ cells, isBlankRow cells = true → found cells = false ∧ good cells = true)
    (rows : List (List Cell)) :
    (upTo found (filledRows rows)).all good = (upTo found rows).all good := by
  induction rows with
  | nil => rfl
  | cons cells rows ih =>
    rw [filledRows] at ih ⊢
    cases blank : isBlankRow cells with
    | true =>
      obtain ⟨passed, legible⟩ := blanks cells blank
      rw [List.filter_cons_of_neg (by simp [blank]), ih, upTo, passed, if_neg Bool.false_ne_true,
        List.all_cons, legible, Bool.true_and]
    | false =>
      rw [List.filter_cons_of_pos (by simp [blank]), upTo, upTo]
      cases found cells
      · simp only [Bool.false_eq_true, if_false, List.all_cons, ih]
      · rfl

theorem length_filterMap_filledRows {rule : List Cell → Option α}
    (loud : ∀ cells, isBlankRow cells = true → (rule cells).isSome = true)
    (rows : List (List Cell)) :
    (rows.filterMap rule).length + (filledRows rows).length =
      rows.length + ((filledRows rows).filterMap rule).length := by
  induction rows with
  | nil => rfl
  | cons cells rows ih =>
    rw [filledRows] at ih ⊢
    cases blank : isBlankRow cells with
    | true =>
      obtain ⟨triple, made⟩ := Option.isSome_iff_exists.mp (loud cells blank)
      rw [List.filter_cons_of_neg (by simp [blank]), List.filterMap_cons_some made,
        List.length_cons, List.length_cons]
      omega
    | false =>
      rw [List.filter_cons_of_pos (by simp [blank]), List.filterMap_cons, List.filterMap_cons]
      cases rule cells <;> simp only [List.length_cons] <;> omega

namespace Worksheet

/-- Blank rows put in or taken out below a row, in any number and at any places. -/
structure BlankEdit (w : Worksheet) (header : Nat) (w' : Worksheet) : Prop where
  name : w'.name = w.name
  above : w'.rows.take (header + 1) = w.rows.take (header + 1)
  below : filledRows (w'.rows.drop (header + 1)) = filledRows (w.rows.drop (header + 1))

variable {w w' : Worksheet} {header : Nat}

theorem BlankEdit.symm (edit : w.BlankEdit header w') : w'.BlankEdit header w :=
  ⟨edit.name.symm, edit.above.symm, edit.below.symm⟩

theorem BlankEdit.insert {head blanks rest : List (List Cell)} (rows : w.rows = head ++ rest)
    (below : header < head.length) (blank : ∀ cells ∈ blanks, isBlankRow cells = true) :
    w.BlankEdit header ⟨w.name, head ++ (blanks ++ rest)⟩ := by
  have none_filled : filledRows blanks = [] := by
    apply List.filter_eq_nil_iff.mpr
    intro cells member
    simp [blank cells member]
  refine ⟨rfl, ?_, ?_⟩
  · rw [rows, List.take_append_of_le_length below, List.take_append_of_le_length below]
  · rw [rows, List.drop_append_of_le_length below, List.drop_append_of_le_length below]
    simp only [filledRows, List.filter_append] at none_filled ⊢
    rw [none_filled, List.nil_append]

namespace BlankEdit

theorem row_of_le (edit : w.BlankEdit header w') {row : Nat} (upper : row ≤ header) :
    w'.rows[row]? = w.rows[row]? := by
  have same := congrArg (·[row]?) edit.above
  simpa only [List.getElem?_take, if_pos (Nat.lt_succ_of_le upper)] using same

theorem filled (edit : w.BlankEdit header w') : filledRows w'.rows = filledRows w.rows := by
  rw [← List.take_append_drop (header + 1) w'.rows, ← List.take_append_drop (header + 1) w.rows]
  have below := edit.below
  simp only [filledRows, List.filter_append] at below ⊢
  rw [edit.above, below]

theorem absent_below (edit : w.BlankEdit header w') {anchor : String} (named : anchor ≠ "")
    (absent : (w.rows.drop (header + 1)).findIdx? (fun cells => rowText cells 0 == anchor) =
      none) :
    (w'.rows.drop (header + 1)).findIdx? (fun cells => rowText cells 0 == anchor) = none := by
  apply List.findIdx?_eq_none_iff.mpr
  intro cells member
  cases blank : isBlankRow cells with
  | true => simpa [rowText_of_blank blank] using named.symm
  | false =>
    have kept : cells ∈ filledRows (w'.rows.drop (header + 1)) :=
      List.mem_filter.mpr ⟨member, by simp [blank]⟩
    rw [edit.below] at kept
    exact List.findIdx?_eq_none_iff.mp absent cells (List.mem_filter.mp kept).1

theorem headerRow {anchor : String} (edit : w.BlankEdit (w.headerRow anchor) w') :
    w'.headerRow anchor = w.headerRow anchor := by
  generalize known : w.headerRow anchor = header at edit
  rw [headerRow_of_rows] at known ⊢
  by_cases free : Text.trim anchor = ""
  · rw [if_pos free] at known ⊢
    exact known
  · rw [if_neg free] at known ⊢
    rw [← List.take_append_drop (header + 1) w'.rows, List.findIdx?_append, edit.above]
    rw [← List.take_append_drop (header + 1) w.rows, List.findIdx?_append] at known
    cases first : (w.rows.take (header + 1)).findIdx?
        (fun cells => rowText cells 0 == Text.trim anchor) with
    | some k =>
      rw [first] at known
      exact known
    | none =>
      rw [first] at known
      -- A row found below the header would itself be the header.
      cases later : (w.rows.drop (header + 1)).findIdx?
          (fun cells => rowText cells 0 == Text.trim anchor) with
      | none =>
        rw [later] at known
        rw [edit.absent_below free later]
        exact known
      | some k =>
        have long := List.findIdx?_eq_some_iff_getElem.mp later
        rw [later] at known
        simp only [Option.map_some, Option.none_or, Option.getD_some, List.length_take] at known
        have room : k < w.rows.length - (header + 1) := by simpa using long.1
        omega

theorem header_position (edit : w.BlankEdit header w') {row : Nat} (upper : row ≤ header) {name : String}
    (named : name ≠ "") : position? name (w'.header row) = position? name (w.header row) := by
  rw [position?_header named, position?_header named, edit.row_of_le upper]

theorem firstColumn (edit : w.BlankEdit header w') :
    w'.firstColumn.filter (· ≠ "") = w.firstColumn.filter (· ≠ "") := by
  have texts (v : Worksheet) : v.firstColumn.filter (· ≠ "") =
      (filledRows v.rows).filterMap fun cells =>
        if rowText cells 0 ≠ "" then some (rowText cells 0) else none := by
    rw [firstColumn_of_rows, filterMap_filledRows]
    · rw [← List.filterMap_eq_filter, List.filterMap_map]
      apply List.filterMap_congr
      intro cells _
      simp [Option.guard, Function.comp_apply]
    · intro cells blank
      rw [rowText_of_blank blank, if_neg (by simp)]
  rw [texts, texts, edit.filled]

theorem anchorIsLegible (edit : w.BlankEdit header w') (anchor : String) :
    w'.anchorIsLegible anchor = w.anchorIsLegible anchor := by
  rw [anchorIsLegible_of_rows, anchorIsLegible_of_rows]
  by_cases free : Text.trim anchor = ""
  · rw [decide_eq_true free, Bool.true_or, Bool.true_or]
  · have blanks : ∀ cells, isBlankRow cells = true →
        (rowText cells 0 == Text.trim anchor) = false ∧ cellIsLegible cells 0 = true := by
      intro cells blank
      rw [rowText_of_blank blank]
      exact ⟨beq_false_of_ne (Ne.symm free), cellIsLegible_of_blank blank 0⟩
    rw [← all_upTo_filledRows blanks w'.rows, ← all_upTo_filledRows blanks w.rows, edit.filled]

theorem headerIsLegible (edit : w.BlankEdit header w') {row : Nat} (upper : row ≤ header) :
    w'.headerIsLegible row = w.headerIsLegible row := by
  rw [headerIsLegible_of_row, headerIsLegible_of_row, edit.row_of_le upper]

theorem firstColumn_isLegible (edit : w.BlankEdit header w') :
    ((List.range w'.rowCount).all fun r => w'.isLegible r 0) =
      (List.range w.rowCount).all fun r => w.isLegible r 0 := by
  have blanks : ∀ cells, isBlankRow cells = true → cellIsLegible cells 0 = true :=
    fun cells blank => cellIsLegible_of_blank blank 0
  rw [firstColumn_isLegible_of_rows, firstColumn_isLegible_of_rows,
    ← all_filledRows blanks w'.rows, ← all_filledRows blanks w.rows, edit.filled]

theorem scanIsLegible (edit : w.BlankEdit header w') (f : Filter) (l : Layout) (token : String) :
    w'.scanIsLegible (header + 1) f l token = w.scanIsLegible (header + 1) f l token := by
  have blanks : ∀ cells, isBlankRow cells = true →
      (single cells).rowIsLegible l f (l.inputColumns token) 0 = true := by
    intro cells blank
    have legible : (single cells).isLegible 0 = cellIsLegible cells := rfl
    have columns : ∀ col : Option Nat, col.all ((single cells).isLegible 0) = true := by
      intro col
      rw [legible]
      cases col <;> simp [cellIsLegible_of_blank blank]
    simp [rowIsLegible, columns]
  rw [scanIsLegible_of_rows, scanIsLegible_of_rows, ← all_filledRows blanks (w'.rows.drop _),
    ← all_filledRows blanks (w.rows.drop _), edit.below]

end BlankEdit
end Worksheet

namespace ColumnMap

variable {source logical : List String} {w w' : Worksheet}

theorem ofSheet_congr (named : ∀ name ∈ source, Text.trim name ≠ "")
    (row : (ofSheet source logical w').headerRow = (ofSheet source logical w).headerRow)
    (columns : ∀ name, name ≠ "" →
      position? name (w'.header (ofSheet source logical w).headerRow) =
        position? name (w.header (ofSheet source logical w).headerRow)) :
    ofSheet source logical w' = ofSheet source logical w := by
  rw [ofSheet_eq source logical w', ofSheet_eq source logical w, row]
  congr 1
  apply List.map_congr_left
  intro name member
  obtain ⟨raw, declared, eq⟩ := List.mem_map.mp member
  exact columns name (eq ▸ named raw declared)

theorem ofSheet_of_blankEdit (named : ∀ name ∈ source, Text.trim name ≠ "")
    (edit : w.BlankEdit (ofSheet source logical w).headerRow w') :
    ofSheet source logical w' = ofSheet source logical w := by
  apply ofSheet_congr named
  · cases source with
    | nil => rfl
    | cons anchor more =>
      rw [headerRow_ofSheet] at edit
      rw [headerRow_ofSheet, headerRow_ofSheet, edit.headerRow]
  · intro name filled
    exact edit.header_position (Nat.le_refl _) filled

end ColumnMap

section

variable {c : MacroConfig} {book : Workbook} {w w' : Worksheet}

theorem trimmed_sources (c : MacroConfig) :
    ∀ name ∈ Text.names c.sourceFields, Text.trim name ≠ "" := by
  intro name member
  rw [Text.trim_of_mem_names member]
  exact Text.ne_empty_of_mem_names member

theorem columnMap_of_blankEdit (edit : w.BlankEdit (c.columnMap w).headerRow w') :
    c.columnMap w' = c.columnMap w :=
  ColumnMap.ofSheet_of_blankEdit (trimmed_sources c) edit

theorem areLegible_of_blankEdit (edit : w.BlankEdit (c.columnMap w).headerRow w') :
    ColumnMap.areLegible (Text.names c.sourceFields) w' =
      ColumnMap.areLegible (Text.names c.sourceFields) w := by
  have row (v : Worksheet) : (ColumnMap.ofSheet (Text.names c.sourceFields) [] v).headerRow =
      (c.columnMap v).headerRow := rfl
  unfold ColumnMap.areLegible
  rw [row, row, columnMap_of_blankEdit edit, edit.headerIsLegible (Nat.le_refl _)]
  cases Text.names c.sourceFields with
  | nil => rfl
  | cons anchor more => exact congrArg (· && _) (edit.anchorIsLegible anchor)

theorem layout_of_blankEdit (edit : w.BlankEdit (c.columnMap w).headerRow w') :
    c.layout w' = c.layout w := by
  simp only [MacroConfig.layout, columnMap_of_blankEdit edit]

def Workbook.replace (b : Workbook) (w : Worksheet) : Workbook := ⟨put w b.sheets⟩

theorem Workbook.sheet?_replace (book : Workbook) (w : Worksheet) (name : String) :
    (book.replace w).sheet? name = if w.name = name then some w else book.sheet? name := by
  obtain ⟨sheets⟩ := book
  simp only [replace, sheet?]
  induction sheets with
  | nil => simp [put]
  | cons v rest ih =>
    by_cases same : v.name = w.name
    · rw [put, if_pos same, List.find?_cons, List.find?_cons, same]
      by_cases asked : w.name = name <;> simp [asked]
    · rw [put, if_neg same, List.find?_cons, List.find?_cons, ih]
      by_cases asked : v.name = name
      · have other : w.name ≠ name := fun eq => same (asked.trans eq.symm)
        simp [asked, other]
      · simp [asked]

theorem sequence_of_blankEdit {sheet : String} {header : Nat} (found : book.sheet? sheet = some w)
    (edit : w.BlankEdit header w') (name : String) :
    (book.replace w').sequence name = book.sequence name := by
  have renamed : w'.name = sheet := edit.name.trans (Workbook.name_of_sheet? found)
  unfold Workbook.sequence
  by_cases unnamed : name = ""
  · rw [if_pos unnamed, if_pos unnamed]
  · rw [if_neg unnamed, if_neg unnamed, Workbook.sheet?_replace, renamed]
    by_cases same : sheet = name
    · rw [if_pos same, ← same, found]
      exact congrArg (Text.join ";") edit.firstColumn
    · rw [if_neg same]

theorem sequenceIsLegible_of_blankEdit {sheet : String} {header : Nat}
    (found : book.sheet? sheet = some w) (edit : w.BlankEdit header w') (name : String) :
    (book.replace w').sequenceIsLegible name = book.sequenceIsLegible name := by
  have renamed : w'.name = sheet := edit.name.trans (Workbook.name_of_sheet? found)
  unfold Workbook.sequenceIsLegible
  by_cases same : sheet = name
  · rw [Workbook.sheet?_replace, renamed, if_pos same, ← same, found]
    exact congrArg (_ || ·) edit.firstColumn_isLegible
  · rw [Workbook.sheet?_replace, renamed, if_neg same]

theorem isLegible_of_blankEdit (found : book.sheet? c.sheet = some w)
    (edit : w.BlankEdit (c.columnMap w).headerRow w') (values : String) (s : Settings) :
    (c.planFor (book.replace w') values s w').isLegible (book.replace w') =
      (c.planFor book values s w).isLegible book := by
  have columns : (c.planFor (book.replace w') values s w').columnsAreLegible =
      (c.planFor book values s w).columnsAreLegible := areLegible_of_blankEdit edit
  have sequence : (book.replace w').sequenceIsLegible c.sequenceSheet =
      book.sequenceIsLegible c.sequenceSheet := sequenceIsLegible_of_blankEdit found edit _
  have rows : (c.planFor (book.replace w') values s w').partitionIsLegible =
      (c.planFor book values s w).partitionIsLegible := by
    funext part
    simp only [Plan.partitionIsLegible, MacroConfig.planFor,
      sequence_of_blankEdit found edit, layout_of_blankEdit edit]
    congr 1
    funext token
    exact edit.scanIsLegible part.filter (c.layout w) token
  have isSettled : (c.planFor (book.replace w') values s w').isSettled (book.replace w') =
      (c.planFor book values s w).isSettled book := congrArg₂ (· && ·) columns sequence
  rw [Plan.isLegible, Plan.isLegible, isSettled, rows]
  rfl

end
end Rulesheet
