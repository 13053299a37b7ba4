import Mathlib.Data.List.Infix
import Rulesheet.Proofs.Files.Changing
import Rulesheet.Proofs.Registry

/- Trees that change from outside: nodes come, are replaced and go, with all that stands below
   them. Whatever the changes were, everything stands under names that a file system stores. -/
namespace Rulesheet

namespace Path

def Storable (name : String) : Prop :=
  IsFileName name ∧ Addressable name ∧ Utf8.nameSize name ≤ FileTree.maxName

instance (name : String) : Decidable (Storable name) :=
  inferInstanceAs (Decidable (_ ∧ _))

end Path

namespace FileTree

inductive Edit where
  | put (place : Location) (node : Node)
  | remove (place : Location)
  deriving DecidableEq, Repr

namespace Edit

def place : Edit → Location
  | put place _ => place
  | remove place => place

def apply (t : FileTree) : Edit → FileTree
  | put place node => t.putFile place node
  | remove place => t.remove place

end Edit

def after (t : FileTree) (edits : List Edit) : FileTree := edits.foldl Edit.apply t

def Sound (t : FileTree) : Prop := ∀ l, (t.node? l).isSome → ∀ name ∈ l, Path.Storable name

variable {t : FileTree} {l m : Location} {n : Node}

theorem Sound.named (sound : t.Sound) : t.Named :=
  fun l present name member => (sound l present name member).1

theorem sound_of_entries (valid : ∀ e ∈ t.entries, ∀ name ∈ e.1, Path.Storable name) :
    t.Sound := by
  intro l present
  by_cases root : l = []
  · simp [root]
  · obtain ⟨e, member, rfl⟩ := (node?_isSome root).mp present
    exact valid e member

theorem node?_foldl_above (above : List Location) (filled : m ≠ []) :
    (above.foldl (fun t d =>
        if d = [] ∨ (t.node? d).isSome then t else t.put d .directory) t).node? m =
      if m ∈ above ∧ t.node? m = none then some .directory else t.node? m := by
  -- a directory that is made is there for the places after it
  induction above generalizing t with
  | nil => simp
  | cons d above ih =>
    rw [List.foldl_cons, ih]
    by_cases kept : d = [] ∨ (t.node? d).isSome
    · rw [if_pos kept]
      have other : t.node? m = none → m ≠ d := by
        rintro missing rfl
        rcases kept with root | present
        · exact filled root
        · rw [missing] at present
          cases present
      by_cases missing : t.node? m = none
      · simp [missing, other missing]
      · simp [missing]
    · rw [if_neg kept, node?_put, if_neg filled]
      by_cases here : m = d
      · subst here
        have missing : t.node? m = none := by simpa using (not_or.mp kept).2
        simp [missing]
      · simp [here]

theorem mem_above : m ∈ (List.range l.length).map (fun i => l.take i) ↔ m <+: l ∧ m ≠ l := by
  rw [List.mem_map]
  constructor
  · rintro ⟨i, inside, rfl⟩
    refine ⟨List.take_prefix i l, ?_⟩
    intro whole
    have length := congrArg List.length whole
    rw [List.length_take] at length
    have := List.mem_range.mp inside
    omega
  · rintro ⟨upper, other⟩
    refine ⟨m.length, List.mem_range.mpr ?_, (List.prefix_iff_eq_take.mp upper).symm⟩
    exact Nat.lt_of_le_of_ne upper.length_le fun same => other (upper.eq_of_length same)

theorem node?_putFile (filled : m ≠ []) :
    (t.putFile l n).node? m =
      if m = l then some n
      else if m <+: l ∧ t.node? m = none then some .directory else t.node? m := by
  unfold putFile
  simp only
  rw [node?_put, if_neg filled]
  by_cases here : m = l
  · rw [if_pos here, if_pos here]
  · rw [if_neg here, if_neg here, node?_foldl_above _ filled]
    simp only [mem_above, here, ne_eq, not_false_eq_true, and_true]

theorem node?_remove (filled : m ≠ []) :
    (t.remove l).node? m = if l <+: m then none else t.node? m := by
  rw [node?, if_neg filled, node?, if_neg filled, remove]
  simp only [List.find?_filter]
  by_cases below : l <+: m
  · rw [if_pos below, List.find?_eq_none.mpr, Option.map_none]
    intro e _
    by_cases here : e.1 = m
    · simp [here, List.isPrefixOf_iff_prefix.mpr below]
    · simp [here]
  · rw [if_neg below]
    congr 2
    funext e
    by_cases here : e.1 = m
    · have apart : l.isPrefixOf m = false := by
        rw [← Bool.not_eq_true, List.isPrefixOf_iff_prefix]
        exact below
      simp [here, apart]
    · simp [here]

theorem Sound.apply (sound : t.Sound) {edit : Edit}
    (valid : ∀ name ∈ edit.place, Path.Storable name) : (edit.apply t).Sound := by
  intro m present
  by_cases root : m = []
  · rw [root]
    exact fun _ member => absurd member List.not_mem_nil
  cases edit with
  | put l node =>
    rw [Edit.apply, node?_putFile root] at present
    by_cases upper : m <+: l
    · exact fun name member => valid name (upper.subset member)
    · have other : m ≠ l := by
        rintro rfl
        exact upper List.prefix_rfl
      rw [if_neg other, if_neg fun above => upper above.1] at present
      exact sound m present
  | remove l =>
    rw [Edit.apply, node?_remove root] at present
    split at present
    · cases present
    · exact sound m present

theorem Sound.after (sound : t.Sound) {edits : List Edit}
    (valid : ∀ edit ∈ edits, ∀ name ∈ edit.place, Path.Storable name) : (t.after edits).Sound := by
  induction edits generalizing t with
  | nil => exact sound
  | cons edit edits ih =>
    have first := sound.apply (valid edit List.mem_cons_self)
    exact ih first fun edit later => valid edit (List.mem_cons_of_mem _ later)

end FileTree
end Rulesheet
