import Rulesheet.Proofs.Execution.Checked

/- What an execution comes to. Its one failed result is due to the file template, to the target
   sheet, to a cell without a text that it looks at, or to a release that is not there to be
   compared; otherwise every result is a document. Nothing else of the configuration, the workbook
   or the settings makes it fail. -/
namespace Rulesheet

def executeFor (c : MacroConfig) (book : Workbook) (release : Option String) (s : Settings)
    (name : String) : List MacroResult :=
  match release with
  | some release => executeMacro c book release s name
  | none => executeUnreleased c book s name

/-- The values that are selected. None are without a release, unless no prefix is compared. -/
def MacroConfig.values? (c : MacroConfig) (s : Settings) : Option String → Option String
  | some release => some (c.filterValues release s)
  | none => if s.legacyPrefixes = [] then some c.currentValues else none

/-- The cells that an execution looks at: the first ones of the rows down to the anchor, those of the
    header row, the first column of the sequence sheet, and below the header the filter cells and
    those of the rules of the rows that a partition lets through. -/
inductive Consults (c : MacroConfig) (book : Workbook) (release : Option String) (s : Settings) :
    Worksheet → Nat → Nat → Prop where
  | anchor {w : Worksheet} {name : String} {more : List String} {row : Nat}
    (found : book.sheet? c.sheet = some w) (source : Text.names c.sourceFields = name :: more)
    (inside : row < w.rowCount) (before : ∀ r < row, w.text r 0 ≠ name) :
    Consults c book release s w row 0
  | header {w : Worksheet} {col : Nat} (found : book.sheet? c.sheet = some w)
    (inside : col < w.columnCount) :
    Consults c book release s w (c.columnMap w).headerRow col
  | sequence {w : Worksheet} {row : Nat} (named : c.sequenceSheet ≠ "")
    (found : book.sheet? c.sequenceSheet = some w) (inside : row < w.rowCount) :
    Consults c book release s w row 0
  | filter {w : Worksheet} {values : String} {part : Partition} {row col : Nat}
    (found : book.sheet? c.sheet = some w) (selected : c.values? s release = some values)
    (listed : part ∈ Partition.ofValues values s.wildcard)
    (below : (c.columnMap w).headerRow < row) (inside : row < w.rowCount)
    (column : (c.columnMap w).bySource c.filterField = some col) :
    Consults c book release s w row col
  | rule {w : Worksheet} {values token : String} {part : Partition} {row col : Nat}
    (found : book.sheet? c.sheet = some w) (selected : c.values? s release = some values)
    (listed : part ∈ Partition.ofValues values s.wildcard)
    (scanned : token ∈ sequenceTokens (book.sequence c.sequenceSheet))
    (below : (c.columnMap w).headerRow < row) (inside : row < w.rowCount)
    (accepted : ∀ col, (c.columnMap w).bySource c.filterField = some col →
      part.filter.accepts (w.text row col) = true)
    (column : (c.columnMap w).bySource c.textField = some col ∨ col ∈ c.inputColumns w token ∨
      col ∈ c.outputColumns w) :
    Consults c book release s w row col

def Legible (c : MacroConfig) (book : Workbook) (release : Option String) (s : Settings) : Prop :=
  ∀ w row col, Consults c book release s w row col → w.isLegible row col = true

theorem Worksheet.isLegible_eq_false {w : Worksheet} {row col : Nat} :
    w.isLegible row col = false ↔
      ∃ n, (w.cell row col).integer? = some n ∧ Binary64.pow10 digitLimit ≤ n.natAbs := by
  unfold isLegible Cell.isLegible
  cases (w.cell row col).integer? <;> simp

variable {c : MacroConfig} {book : Workbook} {release : Option String} {s : Settings}
  {name : String} {w : Worksheet} {values : String}

theorem anchorIsLegible_iff {anchor : String} (trimmed : Text.trim anchor = anchor)
    (filled : anchor ≠ "") : w.anchorIsLegible anchor = true ↔
      ∀ row < w.rowCount, (∀ r < row, w.text r 0 ≠ anchor) → w.isLegible row 0 = true := by
  unfold Worksheet.anchorIsLegible
  dsimp only
  rw [trimmed, decide_eq_false filled, Bool.false_or, List.all_eq_true]
  apply forall_congr'
  intro row
  rw [List.mem_range]
  cases found : (List.range w.rowCount).find? fun r => w.text r 0 == anchor with
  | none =>
    have absent : ∀ r < w.rowCount, w.text r 0 ≠ anchor := by simpa using found
    rw [Option.map_none, Option.getD_none]
    apply imp_congr_right
    intro inside
    exact (imp_iff_right fun r before => absent r (Nat.lt_trans before inside)).symm
  | some place =>
    obtain ⟨shown, inside, before⟩ := List.find?_range_eq_some.mp found
    rw [List.mem_range] at inside
    rw [Option.map_some, Option.getD_some, ← and_imp]
    apply imp_congr_left
    constructor
    · intro upper
      refine ⟨by omega, fun r below => ?_⟩
      simpa using before r (by omega)
    · rintro ⟨_, first⟩
      by_contra beyond
      exact first place (by omega) (by simpa using shown)

theorem areLegible_iff : ColumnMap.areLegible (Text.names c.sourceFields) w = true ↔
    (∀ anchor more, Text.names c.sourceFields = anchor :: more → ∀ row < w.rowCount,
      (∀ r < row, w.text r 0 ≠ anchor) → w.isLegible row 0 = true) ∧
    ∀ col < w.columnCount, w.isLegible (c.columnMap w).headerRow col = true := by
  have header : (∀ col < w.columnCount, w.isLegible (c.columnMap w).headerRow col = true) ↔
      w.headerIsLegible (c.columnMap w).headerRow = true := by
    simp [Worksheet.headerIsLegible]
  have row : (ColumnMap.ofSheet (Text.names c.sourceFields) [] w).headerRow =
      (c.columnMap w).headerRow := rfl
  unfold ColumnMap.areLegible
  rw [header, Bool.and_eq_true, row]
  apply and_congr_left
  intro _
  cases source : Text.names c.sourceFields with
  | nil => simp
  | cons anchor more =>
    have member : anchor ∈ Text.names c.sourceFields := by simp [source]
    dsimp only
    rw [anchorIsLegible_iff (Text.trim_of_mem_names member) (Text.ne_empty_of_mem_names member)]
    constructor
    · rintro each _ _ ⟨⟩
      exact each
    · exact fun each => each anchor more rfl

theorem sequenceIsLegible_iff : book.sequenceIsLegible c.sequenceSheet = true ↔
    ∀ w, c.sequenceSheet ≠ "" → book.sheet? c.sequenceSheet = some w →
      ∀ row < w.rowCount, w.isLegible row 0 = true := by
  unfold Workbook.sequenceIsLegible
  by_cases unnamed : c.sequenceSheet = ""
  · simp [unnamed]
  · cases book.sheet? c.sequenceSheet with
    | none => simp
    | some w => simp [unnamed]

theorem isSettled_iff : (c.planFor book values s w).isSettled book = true ↔
    ((∀ anchor more, Text.names c.sourceFields = anchor :: more → ∀ row < w.rowCount,
      (∀ r < row, w.text r 0 ≠ anchor) → w.isLegible row 0 = true) ∧
      ∀ col < w.columnCount, w.isLegible (c.columnMap w).headerRow col = true) ∧
    ∀ w, c.sequenceSheet ≠ "" → book.sheet? c.sequenceSheet = some w →
      ∀ row < w.rowCount, w.isLegible row 0 = true := by
  rw [← areLegible_iff, ← sequenceIsLegible_iff]
  exact Bool.and_eq_true_iff

theorem optional_isLegible_iff {row : Nat} {column : Option Nat} :
    column.all (w.isLegible row) = true ↔
      ∀ col, column = some col → w.isLegible row col = true := by
  cases column <;> simp

theorem resolved_isLegible_iff {row : Nat} (fields : List String) :
    (((c.columnMap w).resolve fields).all fun col => col.all (w.isLegible row)) = true ↔
      ∀ col ∈ fields.filterMap (c.columnMap w).byLogical, w.isLegible row col = true := by
  rw [← Checked.all_filterMap_id, MacroConfig.resolve_filterMap, List.all_eq_true]

theorem rowIsLegible_iff {f : Filter} {token : String} {row : Nat} :
    w.rowIsLegible (c.layout w) f ((c.layout w).inputColumns token) row = true ↔
      (∀ col, (c.columnMap w).bySource c.filterField = some col → w.isLegible row col = true) ∧
      ((∀ col, (c.columnMap w).bySource c.filterField = some col →
          f.accepts (w.text row col) = true) →
        ∀ col, (c.columnMap w).bySource c.textField = some col ∨ col ∈ c.inputColumns w token ∨
          col ∈ c.outputColumns w → w.isLegible row col = true) := by
  have filter : (c.layout w).filterColumn.all (w.isLegible row) = true ↔
      ∀ col, (c.columnMap w).bySource c.filterField = some col → w.isLegible row col = true :=
    optional_isLegible_iff
  have text : (c.layout w).textColumn.all (w.isLegible row) = true ↔
      ∀ col, (c.columnMap w).bySource c.textField = some col → w.isLegible row col = true :=
    optional_isLegible_iff
  have inputs : (((c.layout w).inputColumns token).all fun col => col.all (w.isLegible row)) =
      true ↔ ∀ col ∈ c.inputColumns w token, w.isLegible row col = true :=
    resolved_isLegible_iff _
  have outputs : ((c.layout w).outputColumns.all fun col => col.all (w.isLegible row)) = true ↔
      ∀ col ∈ c.outputColumns w, w.isLegible row col = true := resolved_isLegible_iff _
  unfold Worksheet.rowIsLegible
  rw [Bool.and_eq_true, filter, Bool.or_eq_true, Bool.not_eq_true', ← Bool.not_eq_true,
    MacroConfig.qualifies_layout, List.cons_append, List.all_cons, List.all_append,
    Bool.and_eq_true, Bool.and_eq_true, text, inputs, outputs, ← imp_iff_not_or]
  simp only [or_imp, forall_and]

theorem isLegible_iff : (c.planFor book values s w).isLegible book = true ↔
    (c.planFor book values s w).isSettled book = true ∧
      ∀ part ∈ Partition.ofValues values s.wildcard,
        ∀ token ∈ sequenceTokens (book.sequence c.sequenceSheet),
        ∀ row, (c.columnMap w).headerRow < row → row < w.rowCount →
          w.rowIsLegible (c.layout w) part.filter ((c.layout w).inputColumns token) row = true := by
  have inside : ∀ row, row ∈ List.range' ((c.columnMap w).headerRow + 1)
      (w.rowCount - ((c.columnMap w).headerRow + 1)) ↔
        (c.columnMap w).headerRow < row ∧ row < w.rowCount := by
    intro row
    rw [List.mem_range'_1]
    omega
  rw [Plan.isLegible, Bool.and_eq_true, List.all_eq_true]
  simp only [Plan.partitionIsLegible, Plan.passIsLegible, Worksheet.scanIsLegible,
    List.all_eq_true]
  simp only [← and_imp, ← inside]
  rfl

theorem sequenceTokens_ne_nil (sequence : String) : sequenceTokens sequence ≠ [] := by
  unfold sequenceTokens
  split
  · exact List.cons_ne_nil _ _
  · simpa [Text.cut] using Text.cutChars_ne_nil ';' sequence.toList

/-! Beside the cells of the rows, which are looked at if values are selected, there are the others. -/

theorem legible_of_settled (found : book.sheet? c.sheet = some w)
    (settled : (c.planFor book values s w).isSettled book = true)
    (rows : ∀ values', c.values? s release = some values' →
      (c.planFor book values' s w).isLegible book = true) : Legible c book release s := by
  obtain ⟨⟨anchor, header⟩, sequence⟩ := isSettled_iff.mp settled
  intro w' row col consults
  cases consults with
  | anchor found' source inside before =>
    cases found.symm.trans found'
    exact anchor _ _ source _ inside before
  | header found' inside =>
    cases found.symm.trans found'
    exact header _ inside
  | sequence named found' inside => exact sequence _ named found' _ inside
  | filter found' selected listed below inside column =>
    cases found.symm.trans found'
    have tokens : sequenceTokens (book.sequence c.sequenceSheet) ≠ [] := sequenceTokens_ne_nil _
    obtain ⟨token, scanned⟩ := List.exists_mem_of_ne_nil _ tokens
    have row := (isLegible_iff.mp (rows _ selected)).2 _ listed token scanned _ below inside
    exact (rowIsLegible_iff.mp row).1 _ column
  | rule found' selected listed scanned below inside accepted column =>
    cases found.symm.trans found'
    have row := (isLegible_iff.mp (rows _ selected)).2 _ listed _ scanned _ below inside
    exact (rowIsLegible_iff.mp row).2 accepted _ column

theorem settled_of_legible (found : book.sheet? c.sheet = some w)
    (legible : Legible c book release s) (values : String) :
    (c.planFor book values s w).isSettled book = true := by
  refine isSettled_iff.mpr ⟨⟨?_, ?_⟩, ?_⟩
  · exact fun _ _ source row inside before =>
      legible w row 0 (.anchor found source inside before)
  · exact fun col inside => legible w _ col (.header found inside)
  · exact fun w' named found' row inside => legible w' row 0 (.sequence named found' inside)

theorem isLegible_of_legible (found : book.sheet? c.sheet = some w)
    (selected : c.values? s release = some values) (legible : Legible c book release s) :
    (c.planFor book values s w).isLegible book = true := by
  refine isLegible_iff.mpr ⟨settled_of_legible found legible values, ?_⟩
  intro part listed token scanned row below inside
  refine rowIsLegible_iff.mpr ⟨fun col column => ?_, fun accepted col column => ?_⟩
  · exact legible w row col (.filter found selected listed below inside column)
  · exact legible w row col (.rule found selected listed scanned below inside accepted column)

/-! The results. -/

def Plan.prepareFor (c : MacroConfig) (book : Workbook) (release : Option String) (s : Settings) :
    Except MacroFailure Plan :=
  match release with
  | some release => Plan.prepare c book release s
  | none => Plan.prepareUnreleased c book s

theorem executeFor_eq (c : MacroConfig) (book : Workbook) (release : Option String) (s : Settings)
    (name : String) :
    executeFor c book release s name = Plan.results (Plan.prepareFor c book release s) name := by
  cases release <;> rfl

theorem prepareFor_of_values (selected : c.values? s release = some values) :
    Plan.prepareFor c book release s = Plan.ofValues c book values s := by
  cases release with
  | some release =>
    cases selected
    rfl
  | none =>
    by_cases prefixes : s.legacyPrefixes = []
    · simp only [MacroConfig.values?, if_pos prefixes, Option.some.injEq] at selected
      rw [Plan.prepareFor, Plan.prepareUnreleased, if_pos prefixes, selected]
    · simp [MacroConfig.values?, prefixes] at selected

theorem prepareFor_of_unselected (unselected : c.values? s release = none) :
    Plan.prepareFor c book release s = (Plan.draft c book c.currentValues s >>= fun p =>
      .error (if p.isSettled book then .noRelease else .illegible .longInteger)) := by
  cases release with
  | some release => cases unselected
  | none =>
    have prefixes : s.legacyPrefixes ≠ [] := by simpa [MacroConfig.values?] using unselected
    rw [Plan.prepareFor, Plan.prepareUnreleased, if_neg prefixes]

theorem prepareFor_of_undrafted {failure : MacroFailure}
    (undrafted : ∀ values, Plan.draft c book values s = .error failure) :
    Plan.prepareFor c book release s = .error failure := by
  cases selected : c.values? s release with
  | none =>
    rw [prepareFor_of_unselected selected, undrafted]
    rfl
  | some values =>
    rw [prepareFor_of_values selected, Plan.ofValues, undrafted]
    rfl

theorem prepareFor_of_noTemplate (template : c.fileName = "") :
    Plan.prepareFor c book release s = .error .noFileTemplate := by
  apply prepareFor_of_undrafted
  intro values
  rw [Plan.draft, if_pos template]

theorem prepareFor_of_noSheet (template : c.fileName ≠ "") (absent : book.sheet? c.sheet = none) :
    Plan.prepareFor c book release s = .error (.sheetNotFound c.sheet) := by
  apply prepareFor_of_undrafted
  intro values
  rw [Plan.draft, if_neg template, absent]

theorem prepareFor_of_sheet (template : c.fileName ≠ "") (found : book.sheet? c.sheet = some w) :
    Plan.prepareFor c book release s = match c.values? s release with
      | none => .error (if (c.planFor book c.currentValues s w).isSettled book then .noRelease
          else .illegible .longInteger)
      | some values => if (c.planFor book values s w).isLegible book
          then .ok (c.planFor book values s w) else .error (.illegible .longInteger) := by
  cases selected : c.values? s release with
  | none =>
    rw [prepareFor_of_unselected selected, Plan.draft_eq_ok_iff.mpr ⟨template, w, found, rfl⟩]
    rfl
  | some values => rw [prepareFor_of_values selected, Plan.ofValues_of_sheet template found]

/-- What an execution returns: one failed result, for want of a file template, of the target sheet,
    of a text for a cell that is looked at or of a release, in this order, or the documents, one for
    each value of the selected set, one in all without a value. -/
inductive Outcome (c : MacroConfig) (book : Workbook) (release : Option String) (s : Settings)
    (name : String) : List MacroResult → Prop where
  | noTemplate (empty : c.fileName = "") :
    Outcome c book release s name [.failed "no output file template configured" name]
  | noSheet (template : c.fileName ≠ "") (absent : book.sheet? c.sheet = none) :
    Outcome c book release s name
      [.failed ("Worksheet \"" ++ c.sheet ++ "\" not found in workbook") name]
  | illegible (template : c.fileName ≠ "") {w : Worksheet} (found : book.sheet? c.sheet = some w)
    (illegible : ¬ Legible c book release s) :
    Outcome c book release s name
      [.failed ("Exceeds the limit (4300 digits) for integer string conversion; " ++
        "use sys.set_int_max_str_digits() to increase the limit") name]
  | noRelease (template : c.fileName ≠ "") {w : Worksheet} (found : book.sheet? c.sheet = some w)
    (legible : Legible c book release s) (unselected : c.values? s release = none) :
    Outcome c book release s name
      [.failed "'list' object has no attribute 'startswith'" name]
  | documents (template : c.fileName ≠ "") {w : Worksheet} (found : book.sheet? c.sheet = some w)
    (legible : Legible c book release s) {values : String}
    (selected : c.values? s release = some values) (ds : List Production)
    (values_eq : ds.map (fun d => d.partition.value) =
      if Text.names values = [] then [s.wildcard] else Text.names values) :
    Outcome c book release s name (ds.map fun d => .document d.content d.fileName name)

theorem executeFor_outcome (c : MacroConfig) (book : Workbook) (release : Option String)
    (s : Settings) (name : String) :
    Outcome c book release s name (executeFor c book release s name) := by
  rw [executeFor_eq]
  by_cases template : c.fileName = ""
  · rw [prepareFor_of_noTemplate template]
    exact .noTemplate template
  cases found : book.sheet? c.sheet with
  | none =>
    rw [prepareFor_of_noSheet template found]
    exact .noSheet template found
  | some w =>
    rw [prepareFor_of_sheet template found]
    cases selected : c.values? s release with
    | none =>
      by_cases settled : (c.planFor book c.currentValues s w).isSettled book = true
      · have legible : Legible c book release s :=
          legible_of_settled found settled fun _ some => by cases selected.symm.trans some
        rw [if_pos settled]
        exact .noRelease template found legible selected
      · rw [if_neg settled]
        exact .illegible template found fun legible =>
          settled (settled_of_legible found legible c.currentValues)
    | some values =>
      dsimp only
      by_cases plan : (c.planFor book values s w).isLegible book = true
      · have legible : Legible c book release s :=
          legible_of_settled found (isLegible_iff.mp plan).1 fun _ some => by
            cases selected.symm.trans some
            exact plan
        rw [if_pos plan]
        refine .documents template found legible selected (c.planFor book values s w).productions ?_
        rw [Plan.productions, List.map_map]
        exact Partition.map_value_ofValues _ _
      · rw [if_neg plan]
        exact .illegible template found fun legible =>
          plan (isLegible_of_legible found selected legible)

theorem Outcome.failed_iff {rs : List MacroResult} (outcome : Outcome c book release s name rs) :
    (∃ r ∈ rs, r.success = false) ↔ c.fileName = "" ∨ book.sheet? c.sheet = none ∨
      ¬ Legible c book release s ∨ c.values? s release = none := by
  cases outcome with
  | noTemplate empty => exact iff_of_true ⟨_, List.mem_cons_self, rfl⟩ (.inl empty)
  | noSheet _ absent => exact iff_of_true ⟨_, List.mem_cons_self, rfl⟩ (.inr (.inl absent))
  | illegible _ _ illegible =>
    exact iff_of_true ⟨_, List.mem_cons_self, rfl⟩ (.inr (.inr (.inl illegible)))
  | noRelease _ _ _ unselected =>
    exact iff_of_true ⟨_, List.mem_cons_self, rfl⟩ (.inr (.inr (.inr unselected)))
  | documents template found legible selected ds _ =>
    refine iff_of_false ?_ (by simp [template, found, legible, selected])
    rintro ⟨r, member, failed⟩
    obtain ⟨d, _, rfl⟩ := List.mem_map.mp member
    cases failed

theorem Checked.values_eq (c : MacroConfig) (s : Settings) (release : Option String) :
    Checked.values c s release = match c.values? s release with
      | some values => .ok values
      | none => .error MacroFailure.noRelease.message := by
  cases release with
  | some release => rfl
  | none =>
    unfold Checked.values MacroConfig.values?
    by_cases prefixes : s.legacyPrefixes = [] <;> simp [prefixes]

/-- Of all accesses only the writing of a cell fails. -/
theorem Checked.productions_eq_prepareFor (c : MacroConfig) (book : Workbook)
    (release : Option String) (s : Settings) :
    Checked.productions c book release s =
      ((Plan.prepareFor c book release s).map Plan.productions).mapError MacroFailure.message := by
  by_cases template : c.fileName = ""
  · rw [prepareFor_of_noTemplate template, Checked.productions, if_pos template]
    rfl
  cases found : book.sheet? c.sheet with
  | none =>
    rw [prepareFor_of_noSheet template found, Checked.productions, if_neg template, Checked.sheet,
      found]
    rfl
  | some w =>
    rw [prepareFor_of_sheet template found, Checked.productions_eq c book release s template found,
      Checked.values_eq]
    cases c.values? s release with
    | none => cases (c.planFor book c.currentValues s w).isSettled book <;> rfl
    | some values =>
      have settled : (c.planFor book c.currentValues s w).isSettled book =
          (c.planFor book values s w).isSettled book := rfl
      dsimp only
      rw [settled, Plan.isLegible]
      cases (c.planFor book values s w).isSettled book
      · rfl
      change Checked.taken ((c.planFor book values s w).partitions.all
        (c.planFor book values s w).partitionIsLegible) _ = _
      cases (c.planFor book values s w).partitions.all
        (c.planFor book values s w).partitionIsLegible <;> rfl

theorem Checked.execute_eq (c : MacroConfig) (book : Workbook) (release : Option String)
    (s : Settings) (name : String) :
    Checked.execute c book release s name = executeFor c book release s name := by
  rw [Checked.execute, executeFor_eq, Checked.productions_eq_prepareFor]
  cases Plan.prepareFor c book release s <;> rfl

/-- An execution in which every access is checked returns the same results, and some result is a
    failed one exactly if the file template is empty, the target sheet is not there, a cell that is
    looked at is an integer of more than 4300 digits, or there is no release where prefixes are
    compared with one. Then it is the only result. -/
theorem executeMacro_all_or_nothing (c : MacroConfig) (book : Workbook) (release : Option String)
    (s : Settings) (name : String) :
    Checked.execute c book release s name = executeFor c book release s name ∧
    Outcome c book release s name (executeFor c book release s name) ∧
    ((∃ r ∈ executeFor c book release s name, r.success = false) ↔
      c.fileName = "" ∨ book.sheet? c.sheet = none ∨
        (∃ w row col, Consults c book release s w row col ∧
          ∃ n, (w.cell row col).integer? = some n ∧ Binary64.pow10 4300 ≤ n.natAbs) ∨
        (release = none ∧ s.legacyPrefixes ≠ [])) := by
  have outcome := executeFor_outcome c book release s name
  refine ⟨Checked.execute_eq c book release s name, outcome, ?_⟩
  have illegible : ¬ Legible c book release s ↔ ∃ w row col, Consults c book release s w row col ∧
      ∃ n, (w.cell row col).integer? = some n ∧ Binary64.pow10 digitLimit ≤ n.natAbs := by
    simp only [Legible, not_forall, Bool.not_eq_true, Worksheet.isLegible_eq_false, exists_prop]
  have unselected : c.values? s release = none ↔ release = none ∧ s.legacyPrefixes ≠ [] := by
    cases release <;> simp [MacroConfig.values?]
  rw [outcome.failed_iff, illegible, unselected]
  rfl

def longSheet : Worksheet :=
  { sampleSheet with rows := sampleSheet.rows ++ [[.integer (Binary64.pow10 4300), .text "TV"]] }

theorem executeMacro_illegible :
    (sampleConfig "%").fileName ≠ "" ∧ Workbook.sheet? ⟨[longSheet]⟩ "Rules" = some longSheet ∧
    executeMacro (sampleConfig "%") ⟨[longSheet]⟩ "R2" {} "M" =
      [.failed ("Exceeds the limit (4300 digits) for integer string conversion; " ++
        "use sys.set_int_max_str_digits() to increase the limit") "M"] ∧
    executeUnreleased (sampleConfig "%") ⟨[sampleSheet]⟩ {} "M" =
      [.failed "'list' object has no attribute 'startswith'" "M"] := by
  decide +kernel

end Rulesheet
