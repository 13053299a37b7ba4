import Mathlib.Data.List.Forall2
import Rulesheet.Proofs.BlankEdits
import Rulesheet.Proofs.Execution
import Rulesheet.Proofs.Rows

/- An execution sees cells only through their display texts. Workbooks whose sheets have as many
   rows and show the same text at every place, or none at the same places, give the same results and
   the same log, whatever the types of their cells, the lengths of their rows and the widths of their
   sheets. -/
namespace Rulesheet

namespace Cell

variable {cell cell' : Cell}

theorem display_of_illegible (illegible : cell.isLegible = false) : cell.display = "" := by
  unfold isLegible at illegible
  cases shown : cell.integer? with
  | none => simp [shown] at illegible
  | some n =>
    rw [shown, decide_eq_false_iff_not] at illegible
    have nothing : integerText n = "" := if_neg illegible
    cases cell with
    | integer m =>
      cases shown
      exact nothing
    | float x =>
      change x.toInt? = some n at shown
      cases x with
      | finite => simpa only [display, shown] using nothing
      | _ => cases shown
    | _ => cases shown

theorem display?_eq_iff : cell'.display? = cell.display? ↔
    cell'.isLegible = cell.isLegible ∧ cell'.display = cell.display := by
  unfold display? whenLegible
  constructor
  · intro same
    by_cases legible : cell.isLegible = true <;> by_cases legible' : cell'.isLegible = true
    · simpa [legible, legible'] using same
    · simp [legible, legible'] at same
    · simp [legible, legible'] at same
    · rw [Bool.not_eq_true] at legible legible'
      exact ⟨legible'.trans legible.symm,
        (display_of_illegible legible').trans (display_of_illegible legible).symm⟩
  · rintro ⟨legible, text⟩
    rw [legible, text]

end Cell

def rowText? (cells : List Cell) (col : Nat) : Except ValueFault String :=
  (cells[col]?.getD .empty).display?

/-- Rows that show the same texts. What one row lacks, the other shows as nothing. -/
inductive ShowsRow : List Cell → List Cell → Prop
  | blank {cells cells' : List Cell} (left : isBlankRow cells = true)
      (right : isBlankRow cells' = true) : ShowsRow cells cells'
  | cons {cell cell' : Cell} {cells cells' : List Cell} (shown : cell'.display? = cell.display?)
      (rest : ShowsRow cells cells') : ShowsRow (cell :: cells) (cell' :: cells')

theorem rowText?_of_blank {cells : List Cell} (blank : isBlankRow cells = true) (col : Nat) :
    rowText? cells col = .ok "" := by
  have legible := cellIsLegible_of_blank blank col
  have text := rowText_of_blank blank col
  unfold cellIsLegible at legible
  unfold rowText at text
  rw [rowText?, Cell.display?, Cell.whenLegible, if_pos legible, text]

theorem rowText?_eq_iff {cells cells' : List Cell} {col : Nat} :
    rowText? cells' col = rowText? cells col ↔
      cellIsLegible cells' col = cellIsLegible cells col ∧ rowText cells' col = rowText cells col :=
  Cell.display?_eq_iff

namespace ShowsRow

variable {cells cells' : List Cell}

theorem refl (cells : List Cell) : ShowsRow cells cells := by
  induction cells with
  | nil => exact blank rfl rfl
  | cons cell cells ih => exact cons rfl ih

theorem append_blank {blanks : List Cell} (shown : isBlankRow blanks = true)
    (cells : List Cell) : ShowsRow cells (cells ++ blanks) := by
  induction cells with
  | nil => exact blank rfl shown
  | cons cell cells ih => exact cons rfl ih

theorem rowText? (same : ShowsRow cells cells') (col : Nat) :
    rowText? cells' col = rowText? cells col := by
  induction same generalizing col with
  | blank left right => rw [rowText?_of_blank left, rowText?_of_blank right]
  | cons shown _ ih =>
    cases col with
    | zero => exact shown
    | succ col => exact ih col

theorem position (same : ShowsRow cells cells') {name : String} (named : name ≠ "") :
    position? name (cells'.map Cell.display) = position? name (cells.map Cell.display) := by
  have absent {row : List Cell} (shown : isBlankRow row = true) :
      position? name (row.map Cell.display) = none := by
    apply position?_eq_none_iff.mpr
    intro member
    obtain ⟨cell, inside, text⟩ := List.mem_map.mp member
    have both := List.all_eq_true.mp shown cell inside
    rw [Bool.and_eq_true, decide_eq_true_eq] at both
    exact named (text.symm.trans both.2)
  induction same with
  | blank left right => rw [absent left, absent right]
  | cons shown _ ih =>
    simp only [List.map_cons, position?, (Cell.display?_eq_iff.mp shown).2, ih]

end ShowsRow

theorem isBlankRow_of_rowText? {cells : List Cell}
    (nothing : ∀ col, rowText? cells col = rowText? [] col) : isBlankRow cells = true := by
  apply List.all_eq_true.mpr
  intro cell member
  obtain ⟨col, at_col⟩ := List.mem_iff_getElem?.mp member
  obtain ⟨legible, text⟩ := rowText?_eq_iff.mp (nothing col)
  rw [cellIsLegible, at_col, Option.getD_some] at legible
  rw [rowText, at_col, Option.getD_some] at text
  rw [legible, text]
  rfl

theorem showsRow_iff {cells cells' : List Cell} :
    ShowsRow cells cells' ↔ ∀ col, rowText? cells' col = rowText? cells col := by
  constructor
  · exact ShowsRow.rowText?
  · intro texts
    induction cells generalizing cells' with
    | nil => exact .blank rfl (isBlankRow_of_rowText? texts)
    | cons cell cells ih =>
      cases cells' with
      | nil => exact .blank (isBlankRow_of_rowText? fun col => (texts col).symm) rfl
      | cons cell' cells' => exact .cons (texts 0) (ih fun col => texts (col + 1))

namespace Worksheet

/-- Sheets with as many rows that show the same text at every place, or none in both. -/
structure ShowsSame (w w' : Worksheet) : Prop where
  rowCount : w'.rowCount = w.rowCount
  text : ∀ row col, w'.text? row col = w.text? row col

variable {w w' : Worksheet}

theorem text?_eq (w : Worksheet) (row col : Nat) :
    w.text? row col = rowText? (w.rows[row]?.getD []) col := rfl

theorem showsSame_iff : w.ShowsSame w' ↔ List.Forall₂ ShowsRow w.rows w'.rows := by
  rw [List.forall₂_iff_get]
  constructor
  · intro same
    refine ⟨same.rowCount.symm, ?_⟩
    intro row inside inside'
    apply showsRow_iff.mpr
    intro col
    have texts := same.text row col
    rwa [text?_eq, text?_eq, List.getElem?_eq_getElem inside,
      List.getElem?_eq_getElem inside'] at texts
  · rintro ⟨rowCount, rows⟩
    refine ⟨rowCount.symm, ?_⟩
    intro row col
    rw [text?_eq, text?_eq]
    by_cases inside : row < w.rows.length
    · have inside' : row < w'.rows.length := rowCount ▸ inside
      rw [List.getElem?_eq_getElem inside, List.getElem?_eq_getElem inside']
      exact (rows row inside inside').rowText? col
    · have below : w.rows.length ≤ row := Nat.le_of_not_lt inside
      have below' : w'.rows.length ≤ row := rowCount ▸ below
      rw [List.getElem?_eq_none below, List.getElem?_eq_none below']

namespace ShowsSame

theorem refl (w : Worksheet) : w.ShowsSame w := ⟨rfl, fun _ _ => rfl⟩

variable (same : w.ShowsSame w')
include same

theorem texts : w'.text = w.text := by
  funext row col
  exact (Cell.display?_eq_iff.mp (same.text row col)).2

theorem legibility : w'.isLegible = w.isLegible := by
  funext row col
  exact (Cell.display?_eq_iff.mp (same.text row col)).1

theorem showsRow (row : Nat) : ShowsRow (w.rows[row]?.getD []) (w'.rows[row]?.getD []) :=
  showsRow_iff.mpr (same.text row)

theorem firstColumn : w'.firstColumn = w.firstColumn := by
  rw [Worksheet.firstColumn, Worksheet.firstColumn, same.rowCount, same.texts]

theorem headerRow (anchor : String) : w'.headerRow anchor = w.headerRow anchor := by
  simp only [Worksheet.headerRow, same.rowCount, same.texts]

theorem header_position (row : Nat) {name : String} (named : name ≠ "") :
    position? name (w'.header row) = position? name (w.header row) := by
  rw [position?_header named, position?_header named]
  exact (same.showsRow row).position named

theorem extract (l : Layout) (inputs : List (Option Nat)) :
    w'.extract l inputs = w.extract l inputs := by
  funext row
  simp only [Worksheet.extract, joined, same.texts]

theorem qualifies (l : Layout) (f : Filter) : w'.qualifies l f = w.qualifies l f := by
  funext row
  simp only [Worksheet.qualifies, same.texts]

theorem ruleRows (f : Filter) (l : Layout) (inputs : List (Option Nat)) (start : Nat) :
    w'.ruleRows f l inputs start = w.ruleRows f l inputs start := by
  rw [ruleRows_eq, ruleRows_eq, qualifyingRows, qualifyingRows, same.rowCount, same.qualifies,
    same.extract]

theorem scanPass (start : Int) (f : Filter) (l : Layout) (sequence : Int) (token : String) :
    w'.scanPass start f l sequence token = w.scanPass start f l sequence token := by
  rw [scanPass_eq, scanPass_eq, same.ruleRows, same.extract]

theorem columnMap (c : MacroConfig) : c.columnMap w' = c.columnMap w := by
  apply ColumnMap.ofSheet_congr (trimmed_sources c)
  · unfold ColumnMap.ofSheet
    cases (Text.names c.sourceFields).map Text.trim with
    | nil => rfl
    | cons anchor _ => exact same.headerRow anchor
  · intro name named
    exact same.header_position _ named

theorem layout (c : MacroConfig) : c.layout w' = c.layout w := by
  simp only [MacroConfig.layout, same.columnMap]

/-! The same of the cells that are looked at. -/

theorem anchorIsLegible (anchor : String) :
    w'.anchorIsLegible anchor = w.anchorIsLegible anchor := by
  simp only [Worksheet.anchorIsLegible, same.rowCount, same.texts, same.legibility]

theorem headerIsLegible (row : Nat) : w'.headerIsLegible row = w.headerIsLegible row := by
  have cell (col : Nat) : cellIsLegible (w'.rows[row]?.getD []) col =
      cellIsLegible (w.rows[row]?.getD []) col := congrFun (congrFun same.legibility row) col
  rw [headerIsLegible_of_row, headerIsLegible_of_row, Bool.eq_iff_iff, all_isLegible_iff,
    all_isLegible_iff]
  simp only [cell]

theorem areLegible (c : MacroConfig) : ColumnMap.areLegible (Text.names c.sourceFields) w' =
    ColumnMap.areLegible (Text.names c.sourceFields) w := by
  have row (v : Worksheet) : (ColumnMap.ofSheet (Text.names c.sourceFields) [] v).headerRow =
      (c.columnMap v).headerRow := rfl
  unfold ColumnMap.areLegible
  rw [row, row, same.columnMap, same.headerIsLegible]
  cases Text.names c.sourceFields with
  | nil => rfl
  | cons anchor _ => exact congrArg (· && _) (same.anchorIsLegible anchor)

theorem rowIsLegible (l : Layout) (f : Filter) (inputs : List (Option Nat)) :
    w'.rowIsLegible l f inputs = w.rowIsLegible l f inputs := by
  funext row
  simp only [Worksheet.rowIsLegible, same.qualifies, same.legibility]

theorem scanIsLegible (start : Nat) (f : Filter) (l : Layout) (token : String) :
    w'.scanIsLegible start f l token = w.scanIsLegible start f l token := by
  simp only [Worksheet.scanIsLegible, same.rowCount, same.rowIsLegible]

end ShowsSame
end Worksheet

namespace Workbook

structure ShowsSame (book book' : Workbook) : Prop where
  names : ∀ name, name ∈ book'.names ↔ name ∈ book.names
  sheets : ∀ name w w', book.sheet? name = some w → book'.sheet? name = some w' → w.ShowsSame w'

variable {book book' : Workbook}

theorem sheet?_eq_none_iff {name : String} : book.sheet? name = none ↔ name ∉ book.names := by
  rw [sheet?, List.find?_eq_none, names, List.mem_map]
  simp

theorem exists_sheet {name : String} (listed : name ∈ book.names) :
    ∃ w, book.sheet? name = some w :=
  Option.ne_none_iff_exists'.mp fun missing => sheet?_eq_none_iff.mp missing listed

theorem ShowsSame.sheet (same : book.ShowsSame book') (name : String) :
    (book.sheet? name = none ∧ book'.sheet? name = none) ∨
      ∃ w w', book.sheet? name = some w ∧ book'.sheet? name = some w' ∧ w.ShowsSame w' := by
  by_cases listed : name ∈ book.names
  · obtain ⟨w, found⟩ := exists_sheet listed
    obtain ⟨w', found'⟩ := exists_sheet ((same.names name).mpr listed)
    exact .inr ⟨w, w', found, found', same.sheets name w w' found found'⟩
  · have listed' := mt (same.names name).mp listed
    exact .inl ⟨sheet?_eq_none_iff.mpr listed, sheet?_eq_none_iff.mpr listed'⟩

theorem ShowsSame.sequence (same : book.ShowsSame book') (name : String) :
    book'.sequence name = book.sequence name := by
  unfold Workbook.sequence
  obtain ⟨missing, missing'⟩ | ⟨w, w', found, found', shows⟩ := same.sheet name
  · rw [missing, missing']
  · rw [found, found']
    simp only [shows.firstColumn]

theorem ShowsSame.sequenceIsLegible (same : book.ShowsSame book') (name : String) :
    book'.sequenceIsLegible name = book.sequenceIsLegible name := by
  unfold Workbook.sequenceIsLegible
  obtain ⟨missing, missing'⟩ | ⟨w, w', found, found', shows⟩ := same.sheet name
  · rw [missing, missing']
  · rw [found, found']
    simp only [shows.rowCount, shows.legibility]

theorem showsSame_replace {sheet : String} {w : Worksheet} {rows : List (List Cell)}
    (found : book.sheet? sheet = some w) (shows : w.ShowsSame ⟨sheet, rows⟩) :
    book.ShowsSame (book.replace ⟨sheet, rows⟩) := by
  constructor
  · intro name
    rw [← not_iff_not, ← sheet?_eq_none_iff, ← sheet?_eq_none_iff, sheet?_replace]
    by_cases asked : sheet = name
    · subst asked
      simp [found]
    · rw [if_neg asked]
  · intro name v v' listed listed'
    rw [sheet?_replace] at listed'
    by_cases asked : sheet = name
    · rw [if_pos asked, Option.some.injEq] at listed'
      rw [← asked, found, Option.some.injEq] at listed
      exact listed ▸ listed' ▸ shows
    · rw [if_neg asked, listed, Option.some.injEq] at listed'
      exact listed' ▸ .refl v

end Workbook

section

variable {c : MacroConfig} {book book' : Workbook} {release : String} {s : Settings}
  {name : String}

theorem draft_of_showsSame (same : book.ShowsSame book') (c : MacroConfig) (values : String)
    (s : Settings) :
    (∃ failure, Plan.draft c book values s = .error failure ∧
      Plan.draft c book' values s = .error failure) ∨
    ∃ p w', Plan.draft c book values s = .ok p ∧
      Plan.draft c book' values s = .ok { p with sheet := w' } ∧
      p.sheet.ShowsSame w' ∧ w'.name = p.sheet.name := by
  unfold Plan.draft
  by_cases template : c.fileName = ""
  · exact .inl ⟨.noFileTemplate, if_pos template, if_pos template⟩
  · rw [if_neg template, if_neg template]
    obtain ⟨missing, missing'⟩ | ⟨w, w', found, found', shows⟩ := same.sheet c.sheet
    · rw [missing, missing']
      exact .inl ⟨.sheetNotFound c.sheet, rfl, rfl⟩
    · rw [found, found']
      have named : w'.name = w.name :=
        (Workbook.name_of_sheet? found').trans (Workbook.name_of_sheet? found).symm
      refine .inr ⟨_, w', rfl, ?_, shows, named⟩
      simp only [shows.layout, same.sequence]

section

variable {p : Plan} {w' : Worksheet} (shows : p.sheet.ShowsSame w')
include shows

theorem passes_of_showsSame : { p with sheet := w' : Plan }.passes = p.passes := by
  funext part
  simp only [Plan.passes, shows.scanPass]

theorem produce_of_showsSame : { p with sheet := w' : Plan }.produce = p.produce := by
  funext part
  rw [Plan.produce, Plan.produce, passes_of_showsSame shows]

theorem productions_of_showsSame : { p with sheet := w' : Plan }.productions = p.productions := by
  rw [Plan.productions, Plan.productions, produce_of_showsSame shows]

theorem columnsAreLegible_of_showsSame :
    { p with sheet := w' : Plan }.columnsAreLegible = p.columnsAreLegible := shows.areLegible _

theorem passIsLegible_of_showsSame :
    { p with sheet := w' : Plan }.passIsLegible = p.passIsLegible := by
  funext part token
  exact shows.scanIsLegible _ _ _ _

theorem partitionIsLegible_of_showsSame :
    { p with sheet := w' : Plan }.partitionIsLegible = p.partitionIsLegible := by
  funext part
  rw [Plan.partitionIsLegible, Plan.partitionIsLegible, passIsLegible_of_showsSame shows]

theorem isSettled_of_showsSame (same : book.ShowsSame book') :
    { p with sheet := w' : Plan }.isSettled book' = p.isSettled book := by
  rw [Plan.isSettled, Plan.isSettled, columnsAreLegible_of_showsSame shows,
    same.sequenceIsLegible]

theorem isLegible_of_showsSame (same : book.ShowsSame book') :
    { p with sheet := w' : Plan }.isLegible book' = p.isLegible book := by
  rw [Plan.isLegible, Plan.isLegible, isSettled_of_showsSame shows same,
    partitionIsLegible_of_showsSame shows]

theorem entries_of_showsSame (same : book.ShowsSame book') (named : w'.name = p.sheet.name) :
    { p with sheet := w' : Plan }.entries book' name = p.entries book name := by
  have layout : { p with sheet := w' : Plan }.layoutEntry name = p.layoutEntry name := by
    simp only [Plan.layoutEntry, named]
  have production (d : Production) : d.entries { p with sheet := w' } name = d.entries p name := by
    simp only [Production.entries, named]
  simp only [Plan.entries, columnsAreLegible_of_showsSame shows,
    isSettled_of_showsSame shows same, partitionIsLegible_of_showsSame shows,
    passIsLegible_of_showsSame shows, passes_of_showsSame shows, produce_of_showsSame shows,
    layout, production, named]

end

theorem ofValues_of_showsSame (same : book.ShowsSame book') (c : MacroConfig) (values : String)
    (s : Settings) : (Plan.ofValues c book' values s).map Plan.productions =
      (Plan.ofValues c book values s).map Plan.productions := by
  unfold Plan.ofValues
  obtain ⟨failure, failed, failed'⟩ | ⟨p, w', drafted, drafted', shows, _⟩ :=
    draft_of_showsSame same c values s
  · rw [failed, failed']
    rfl
  · rw [drafted, drafted']
    change Except.map _ (if _ then _ else _) = Except.map _ (if _ then _ else _)
    rw [isLegible_of_showsSame shows same]
    split
    · exact congrArg Except.ok (productions_of_showsSame shows)
    · rfl

theorem prepareUnreleased_of_showsSame (same : book.ShowsSame book') :
    (Plan.prepareUnreleased c book' s).map Plan.productions =
      (Plan.prepareUnreleased c book s).map Plan.productions := by
  unfold Plan.prepareUnreleased
  split
  · exact ofValues_of_showsSame same c c.currentValues s
  · obtain ⟨failure, failed, failed'⟩ | ⟨p, w', drafted, drafted', shows, _⟩ :=
      draft_of_showsSame same c c.currentValues s
    · rw [failed, failed']
      rfl
    · rw [drafted, drafted']
      change Except.map _ (.error _) = Except.map _ (.error _)
      rw [isSettled_of_showsSame shows same]

theorem results_of_productions {plan plan' : Except MacroFailure Plan}
    (same : plan'.map Plan.productions = plan.map Plan.productions) (name : String) :
    Plan.results plan' name = Plan.results plan name ∧
      failureEntries plan' name = failureEntries plan name := by
  cases plan with
  | error failure =>
    cases plan' with
    | error failure' =>
      cases same
      exact ⟨rfl, rfl⟩
    | ok p' => cases same
  | ok p =>
    cases plan' with
    | error failure' => cases same
    | ok p' =>
      have productions : p'.productions = p.productions := Except.ok.inj same
      exact ⟨by simp only [Plan.results, productions], rfl⟩

theorem executeMacro_of_showsSame (same : book.ShowsSame book') :
    executeMacro c book' release s name = executeMacro c book release s name :=
  (results_of_productions (ofValues_of_showsSame same c (c.filterValues release s) s) name).1

theorem executionEntries_of_showsSame (same : book.ShowsSame book') :
    executionEntries c book' release s name = executionEntries c book release s name := by
  have failures := (results_of_productions
    (ofValues_of_showsSame same c (c.filterValues release s) s) name).2
  unfold executionEntries Plan.prepare
  rw [failures]
  obtain ⟨failure, failed, failed'⟩ | ⟨p, w', drafted, drafted', shows, named⟩ :=
    draft_of_showsSame same c (c.filterValues release s) s
  · rw [failed, failed']
  · rw [drafted, drafted']
    exact congrArg (· ++ _) (entries_of_showsSame shows same named)

theorem display?_float {x : Binary64} {n : Int} (integral : x.toInt? = some n) :
    (Cell.float x).display? = (Cell.integer n).display? := by
  apply Cell.display?_eq_iff.mpr
  constructor
  · simp only [Cell.isLegible, Cell.integer?, integral]
  · cases x with
    | notANumber => cases integral
    | infinite => cases integral
    | finite => simp only [Cell.display, integral]

theorem display?_trim (text : String) :
    (Cell.text (Text.trim text)).display? = (Cell.text text).display? :=
  congrArg Except.ok (Text.trim_trim text)

/-- Workbooks that show the same give the same results and the same log, and the same results
    without a release. So rows may be given with other cells of the same display texts: an integral
    float for an integer, a trimmed text for a padded one, and any blank cells at the end of a
    row. -/
theorem results_of_display (c : MacroConfig) (release : String) (s : Settings) (name : String) :
    (∀ book book' : Workbook, book.ShowsSame book' →
      executeMacro c book' release s name = executeMacro c book release s name ∧
      executionEntries c book' release s name = executionEntries c book release s name ∧
      executeUnreleased c book' s name = executeUnreleased c book s name) ∧
    (∀ (book : Workbook) sheet w rows, book.sheet? sheet = some w →
      List.Forall₂ ShowsRow w.rows rows →
      executeMacro c (book.replace ⟨sheet, rows⟩) release s name =
        executeMacro c book release s name) ∧
    (∀ (x : Binary64) n, x.toInt? = some n →
      (Cell.float x).display? = (Cell.integer n).display?) ∧
    (∀ text, (Cell.text (Text.trim text)).display? = (Cell.text text).display?) ∧
    ∀ cells blanks, isBlankRow blanks = true → ShowsRow cells (cells ++ blanks) := by
  refine ⟨?_, ?_, ?_, display?_trim, ?_⟩
  · intro book book' same
    exact ⟨executeMacro_of_showsSame same, executionEntries_of_showsSame same,
      (results_of_productions (prepareUnreleased_of_showsSame same) name).1⟩
  · intro book sheet w rows found shown
    have shows : w.ShowsSame ⟨sheet, rows⟩ := Worksheet.showsSame_iff.mpr shown
    exact executeMacro_of_showsSame (Workbook.showsSame_replace found shows)
  · intro x n integral
    exact display?_float integral
  · intro cells blanks shown
    exact ShowsRow.append_blank shown cells

def paddedRows : List (List Cell) :=
  [[.text "Eligibility", .empty],
    [.text " Key", .text "Line", .text "Text", .text "Offer\t", .text " "],
    [.text "k1", .text "Mobile", .text "first", .float (.ofInt 7)],
    [.empty, .noTime, .empty, .empty, .empty, .empty],
    [.text "k2 ", .text "TV", .text "second"]]

theorem results_of_display_padded :
    sampleSheet.rows ≠ paddedRows ∧
    List.Forall₂ ShowsRow sampleSheet.rows paddedRows ∧
    executeMacro (sampleConfig "Mobile, %") ⟨[⟨"Rules", paddedRows⟩]⟩ "R2" {} "M" =
      executeMacro (sampleConfig "Mobile, %") ⟨[sampleSheet]⟩ "R2" {} "M" := by
  have shown : List.Forall₂ ShowsRow sampleSheet.rows paddedRows := by
    refine .cons ?title (.cons ?header (.cons ?first (.cons ?blank (.cons ?second .nil))))
    case title => exact .cons rfl (.blank rfl rfl)
    case header => exact .cons (by decide) (.cons rfl (.cons rfl (.cons (by decide)
      (.blank rfl (by decide)))))
    case first => exact .cons rfl (.cons rfl (.cons rfl (.cons (display?_float (by decide +kernel))
      (.refl []))))
    case blank => exact .blank rfl rfl
    case second => exact .cons (by decide) (.cons rfl (.cons rfl (.blank rfl rfl)))
  exact ⟨by decide, shown,
    (results_of_display _ _ _ _).2.1 ⟨[sampleSheet]⟩ "Rules" sampleSheet paddedRows rfl shown⟩

end
end Rulesheet
