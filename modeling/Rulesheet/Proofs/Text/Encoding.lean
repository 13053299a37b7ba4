import Rulesheet.Files.Tree
import Rulesheet.Proofs.Text.Pieces

/- Texts that have bytes. A file holds every text without halves of surrogate pairs; a path may have
   those halves that stand for bytes, and no NUL. Nothing else of a text matters to whether it is
   encoded. -/
namespace Rulesheet

namespace Utf8

theorem encodeFault?_eq_none {spared : Char → Bool} {position : Nat} {s : List Char} :
    encodeFault? spared position s = none ↔ ∀ c ∈ s, isHalf c = true → spared c = true := by
  induction s generalizing position with
  | nil => simp [encodeFault?]
  | cons c rest ih =>
    rw [encodeFault?, List.forall_mem_cons, isHalf]
    cases half : Text.surrogate? c with
    | none => simp [ih]
    | some code => cases spared c <;> simp [ih]

def fitsName (c : Char) : Bool := c ≠ '\x00' && (!isHalf c || standsForByte c)

theorem nameSize_append (a b : String) : nameSize (a ++ b) = nameSize a + nameSize b := by
  unfold nameSize
  rw [String.toList_append, List.foldr_append]
  induction a.toList with
  | nil => exact (Nat.zero_add _).symm
  | cons c rest ih => rw [List.foldr_cons, List.foldr_cons, ih, Nat.add_assoc]

end Utf8

/-- A text that the system takes for a path, or in one. -/
def Addressable (s : String) : Prop := ∀ c ∈ s.toList, Utf8.fitsName c = true

/-- A text that a file holds. -/
def Encodable (s : String) : Prop := ∀ c ∈ s.toList, Utf8.isHalf c = false

-- Over the characters of the text, not over all that there are.
instance (s : String) : Decidable (Addressable s) :=
  List.decidableBAll (Utf8.fitsName · = true) s.toList

instance (s : String) : Decidable (Encodable s) :=
  List.decidableBAll (Utf8.isHalf · = false) s.toList

theorem textFault?_eq_none {s : String} : Utf8.textFault? s = none ↔ Encodable s := by
  simp [Utf8.textFault?, Utf8.encodeFault?_eq_none, Encodable]

theorem ofName?_eq_none {s : String} : FileError.ofName? s = none ↔ Addressable s := by
  have halves : Utf8.nameFault? s = none ↔
      ∀ c ∈ s.toList, Utf8.isHalf c = true → Utf8.standsForByte c = true :=
    Utf8.encodeFault?_eq_none
  have fits : Addressable s ↔ (∀ c ∈ s.toList, Utf8.isHalf c = true → Utf8.standsForByte c = true) ∧
      '\x00' ∉ s.toList := by
    simp only [Addressable, Utf8.fitsName, Bool.and_eq_true, Bool.or_eq_true, Bool.not_eq_true',
      decide_eq_true_eq]
    constructor
    · intro each
      refine ⟨fun c member half => ?_, fun nul => (each _ nul).1 rfl⟩
      exact (each c member).2.resolve_left (by simp [half])
    · intro each c member
      refine ⟨fun nul => each.2 (nul ▸ member), ?_⟩
      cases half : Utf8.isHalf c with
      | false => exact .inl rfl
      | true => exact .inr (each.1 c member half)
  rw [fits, ← halves, FileError.ofName?]
  cases Utf8.nameFault? s with
  | some e => simp
  | none => simp

theorem isFault_of_ofName? {s : String} {e : FileError} (bad : FileError.ofName? s = some e) :
    e.isFault = false := by
  unfold FileError.ofName? at bad
  split at bad
  · rw [← Option.some.inj bad]
    rfl
  · split at bad
    · rw [← Option.some.inj bad]
      rfl
    · cases bad

theorem encodable_append {a b : String} : Encodable (a ++ b) ↔ Encodable a ∧ Encodable b := by
  simp only [Encodable, String.toList_append, List.forall_mem_append]

theorem addressable_append {a b : String} :
    Addressable (a ++ b) ↔ Addressable a ∧ Addressable b := by
  simp only [Addressable, String.toList_append, List.forall_mem_append]

theorem forall_mem_join {good : Char → Prop} {sep : String} {pieces : List String}
    (between : ∀ c ∈ sep.toList, good c) :
    (∀ c ∈ (Text.join sep pieces).toList, good c) ↔
      ∀ piece ∈ pieces, ∀ c ∈ piece.toList, good c := by
  rw [Text.toList_join]
  constructor
  · intro whole piece listed c inside
    exact whole c (Text.mem_of_mem_intercalate (List.mem_map_of_mem listed) inside)
  · intro each c member
    rcases Text.mem_intercalate member with joint | ⟨_, listed, inside⟩
    · exact between c joint
    · obtain ⟨piece, member, rfl⟩ := List.mem_map.mp listed
      exact each piece member c inside

theorem encodable_join {sep : String} {pieces : List String} (between : Encodable sep) :
    Encodable (Text.join sep pieces) ↔ ∀ piece ∈ pieces, Encodable piece :=
  forall_mem_join between

theorem addressable_join {sep : String} {pieces : List String} (between : Addressable sep) :
    Addressable (Text.join sep pieces) ↔ ∀ piece ∈ pieces, Addressable piece :=
  forall_mem_join between

theorem addressable_cut {sep : Char} {s : String} (between : Utf8.fitsName sep = true) :
    (∀ piece ∈ Text.cut sep s, Addressable piece) ↔ Addressable s := by
  have single : Addressable (String.singleton sep) := by simpa [Addressable] using between
  rw [← addressable_join single, Text.join_cut]

end Rulesheet
