import Rulesheet.Proofs.Execution
import Rulesheet.Proofs.Rows
import Rulesheet.Proofs.Text.Pieces

/- How the declared names of a sheet pair with the names that a macro has for them. Each declaration
   drops its blank slots by itself, so a name pairs by the number of names before its slot. It has
   the column of its own slot only where both declarations have as many names before it. -/
namespace Rulesheet

section

variable {α : Type} {p : α → Bool} {a : α} {xs : List α} {i : Nat}

theorem getElem?_filter_countP (found : xs[i]? = some a) (kept : p a = true) :
    (xs.filter p)[(xs.take i).countP p]? = some a := by
  obtain ⟨inside, at_i⟩ := List.getElem?_eq_some_iff.mp found
  have split : xs = xs.take i ++ a :: xs.drop (i + 1) := by
    rw [← at_i, List.getElem_cons_drop, List.take_append_drop]
  have parts : xs.filter p = (xs.take i).filter p ++ a :: (xs.drop (i + 1)).filter p := by
    conv => lhs; rw [split]
    rw [List.filter_append, List.filter_cons_of_pos kept]
  rw [parts, List.countP_eq_length_filter, List.getElem?_append_right (Nat.le_refl _),
    Nat.sub_self, List.getElem?_cons_zero]

theorem position?_filter [DecidableEq α] (first : position? a xs = some i) (kept : p a = true) :
    position? a (xs.filter p) = some ((xs.take i).countP p) := by
  induction xs generalizing i with
  | nil => cases first
  | cons x xs ih =>
    rw [position?] at first
    by_cases same : x = a
    · rw [if_pos same, Option.some.injEq] at first
      subst first same
      rw [List.filter_cons_of_pos kept, position?, if_pos rfl, List.take_zero, List.countP_nil]
    · rw [if_neg same] at first
      obtain ⟨j, later, rfl⟩ := Option.map_eq_some_iff.mp first
      rw [List.take_succ_cons, List.countP_cons]
      by_cases keep : p x = true
      · rw [List.filter_cons_of_pos keep, position?, if_neg same, ih later, if_pos keep]
        rfl
      · rw [List.filter_cons_of_neg keep, ih later, if_neg keep, Nat.add_zero]

end

namespace Text

def slots (raw : String) : List String := (cut ',' raw).map trim

def namesBefore (raw : String) (slot : Nat) : Nat := ((slots raw).take slot).countP (· ≠ "")

theorem trim_of_mem_slots {raw name : String} (member : name ∈ slots raw) : trim name = name := by
  obtain ⟨piece, _, rfl⟩ := List.mem_map.mp member
  exact trim_trim piece

theorem names_getElem?_of_slot {raw name : String} {slot : Nat} (named : name ≠ "")
    (found : (slots raw)[slot]? = some name) :
    (names raw)[namesBefore raw slot]? = some name :=
  getElem?_filter_countP found (by simpa using named)

theorem position?_names {raw name : String} {slot : Nat} (named : name ≠ "")
    (first : position? name (slots raw) = some slot) :
    position? name (names raw) = some (namesBefore raw slot) :=
  position?_filter first (by simpa using named)

end Text

namespace MacroConfig

def slotName? (c : MacroConfig) (slot : Nat) : Option String :=
  (Text.slots c.sourceFields)[slot]?.filter (· ≠ "")

/-- The source name behind as many source names as there are logical names before a slot. -/
def pairedName? (c : MacroConfig) (slot : Nat) : Option String :=
  (Text.names c.sourceFields)[Text.namesBefore c.logicalFields slot]?

def columnOf (c : MacroConfig) (w : Worksheet) (name : String) : Option Nat :=
  position? name (w.header (c.columnMap w).headerRow)

variable {c : MacroConfig} {slot : Nat} {name : String}

theorem columnMap_eq (c : MacroConfig) (w : Worksheet) :
    c.columnMap w =
      { headerRow := (c.columnMap w).headerRow
        sourceFields := Text.names c.sourceFields
        logicalFields := Text.names c.logicalFields
        columns := (Text.names c.sourceFields).map (c.columnOf w) } := by
  conv => rhs; rw [← Text.map_trim_names c.sourceFields, ← Text.map_trim_names c.logicalFields]
  rfl

theorem bySource_eq (member : name ∈ Text.names c.sourceFields) (w : Worksheet) :
    (c.columnMap w).bySource name = c.columnOf w name := by
  have present : position? name (Text.names c.sourceFields) ≠ none :=
    mt position?_eq_none_iff.mp (not_not.mpr member)
  obtain ⟨i, place⟩ := Option.ne_none_iff_exists'.mp present
  rw [columnMap_eq, ColumnMap.bySource, Text.trim_of_mem_names member, place]
  simp only [List.getElem?_map, getElem?_of_position? place, Option.map_some, Option.join_some]

theorem byLogical_eq (named : name ≠ "")
    (first : position? name (Text.slots c.logicalFields) = some slot) (w : Worksheet) :
    (c.columnMap w).byLogical name = (c.pairedName? slot).bind (c.columnOf w) := by
  have trimmed : Text.trim name = name :=
    Text.trim_of_mem_slots (List.mem_of_getElem? (getElem?_of_position? first))
  rw [columnMap_eq, ColumnMap.byLogical, trimmed, Text.position?_names named first]
  simp only [List.getElem?_map, pairedName?]
  cases (Text.names c.sourceFields)[Text.namesBefore c.logicalFields slot]? <;> rfl

theorem headerRow_single (c : MacroConfig) (cells : List Cell) :
    (c.columnMap (.single cells)).headerRow = 0 := by
  have first (anchor : String) : (Worksheet.single cells).headerRow anchor = 0 := by
    rw [Worksheet.headerRow_of_rows, Worksheet.single, List.findIdx?_singleton]
    split
    · rfl
    · split <;> rfl
  unfold columnMap ColumnMap.ofSheet
  cases (Text.names c.sourceFields).map Text.trim with
  | nil => rfl
  | cons anchor _ => exact first anchor

theorem bind_columnOf_single {found : Option String} (trimmed : Text.trim name = name) :
    found.bind (c.columnOf (.single [.text name])) = some 0 ↔ found = some name := by
  have header : (Worksheet.single [.text name]).header 0 = [name] := congrArg ([·]) trimmed
  cases found with
  | none => simp
  | some other =>
    simp only [Option.bind_some, columnOf, headerRow_single, header, position?]
    by_cases same : name = other
    · simp [same]
    · simp [same, Ne.symm same]

theorem trim_of_slotName? (found : c.slotName? slot = some name) : Text.trim name = name :=
  Text.trim_of_mem_slots (List.mem_of_getElem? (Option.filter_eq_some_iff.mp found).1)

theorem trim_of_pairedName? (found : c.pairedName? slot = some name) : Text.trim name = name :=
  Text.trim_of_mem_names (List.mem_of_getElem? found)

/-- Sheets tell the name that a slot pairs with from the name that stands in it. -/
theorem columns_agree_iff :
    (∀ w, (c.pairedName? slot).bind (c.columnOf w) = (c.slotName? slot).bind (c.columnOf w)) ↔
      c.pairedName? slot = c.slotName? slot := by
  constructor
  · -- a sheet of one cell tells its name from every other one
    intro agree
    apply Option.ext
    intro name
    constructor
    · intro paired
      have trimmed := trim_of_pairedName? paired
      rw [← bind_columnOf_single (c := c) trimmed, ← agree]
      exact (bind_columnOf_single trimmed).mpr paired
    · intro own
      have trimmed := trim_of_slotName? own
      rw [← bind_columnOf_single (c := c) trimmed, agree]
      exact (bind_columnOf_single trimmed).mpr own
  · intro same w
    rw [same]

theorem mem_names_of_slotName? (own : c.slotName? slot = some name) :
    name ∈ Text.names c.sourceFields := by
  obtain ⟨found, named⟩ := Option.filter_eq_some_iff.mp own
  exact List.mem_filter.mpr ⟨List.mem_of_getElem? found, named⟩

theorem names_getElem?_of_slotName? (own : c.slotName? slot = some name) :
    (Text.names c.sourceFields)[Text.namesBefore c.sourceFields slot]? = some name := by
  obtain ⟨found, named⟩ := Option.filter_eq_some_iff.mp own
  exact Text.names_getElem?_of_slot (by simpa using named) found

theorem pairedName?_of_namesBefore (own : c.slotName? slot = some name)
    (level : Text.namesBefore c.sourceFields slot = Text.namesBefore c.logicalFields slot) :
    c.pairedName? slot = some name := by
  rw [pairedName?, ← level]
  exact names_getElem?_of_slotName? own

theorem namesBefore_of_pairedName? (distinct : (Text.names c.sourceFields).Nodup)
    (own : c.slotName? slot = some name) (paired : c.pairedName? slot = some name) :
    Text.namesBefore c.sourceFields slot = Text.namesBefore c.logicalFields slot := by
  have place := names_getElem?_of_slotName? own
  have inside := (List.getElem?_eq_some_iff.mp place).1
  exact (List.getElem?_inj inside distinct).mp (place.trans paired.symm)

/-- A logical name has the column of the source name that it pairs with, and on every sheet that of
    the source name in its slot only if this is the one it pairs with. A slot with a source name
    pairs with it if as many names stand before it in both declarations, and only then if no source
    name is repeated. A slot without one pairs with nothing only behind all source names. -/
theorem logical_columns (c : MacroConfig) (slot : Nat) (name : String) (named : name ≠ "")
    (first : position? name (Text.slots c.logicalFields) = some slot) :
    (∀ w, (c.columnMap w).byLogical name = (c.pairedName? slot).bind (c.columnOf w)) ∧
    ((∀ w, (c.columnMap w).byLogical name = (c.slotName? slot).bind (c.columnOf w)) ↔
      c.pairedName? slot = c.slotName? slot) ∧
    (∀ source, c.slotName? slot = some source →
      (∀ w, (c.columnMap w).bySource source = c.columnOf w source) ∧
      (Text.namesBefore c.sourceFields slot = Text.namesBefore c.logicalFields slot →
        c.pairedName? slot = c.slotName? slot) ∧
      ((Text.names c.sourceFields).Nodup → c.pairedName? slot = c.slotName? slot →
        Text.namesBefore c.sourceFields slot = Text.namesBefore c.logicalFields slot)) ∧
    (c.slotName? slot = none →
      (c.pairedName? slot = c.slotName? slot ↔
        (Text.names c.sourceFields).length ≤ Text.namesBefore c.logicalFields slot)) := by
  refine ⟨byLogical_eq named first, ?_, ?_, ?_⟩
  · simp only [byLogical_eq named first]
    exact columns_agree_iff
  · intro source own
    rw [own]
    exact ⟨bySource_eq (mem_names_of_slotName? own), pairedName?_of_namesBefore own,
      fun distinct => namesBefore_of_pairedName? distinct own⟩
  · intro blank
    rw [blank]
    exact List.getElem?_eq_none_iff

/-! Two declarations of three slots, the second source slot blank. -/

def shiftedConfig : MacroConfig where
  sourceFields := "Key,,Offer"
  logicalFields := "K,L,O"

def offerSheet : Worksheet where
  name := "Rules"
  rows := [[.text "Key", .text "Line", .text "Offer"], [.text "k1", .text "Mobile", .integer 7]]

theorem logical_columns_shifted :
    (Text.slots "Key,,Offer").length = (Text.slots "K,L,O").length ∧
    shiftedConfig.slotName? 1 = none ∧ shiftedConfig.slotName? 2 = some "Offer" ∧
    shiftedConfig.columnOf offerSheet "Offer" = some 2 ∧
    (shiftedConfig.columnMap offerSheet).byLogical "L" = some 2 ∧
    (shiftedConfig.columnMap offerSheet).byLogical "O" = none := by
  have second := (logical_columns shiftedConfig 1 "L" (by decide) (by decide)).1
  have third := (logical_columns shiftedConfig 2 "O" (by decide) (by decide)).1
  refine ⟨by decide, by decide, by decide, by decide, ?_, ?_⟩
  · rw [second]
    decide
  · rw [third]
    decide

end MacroConfig
end Rulesheet
