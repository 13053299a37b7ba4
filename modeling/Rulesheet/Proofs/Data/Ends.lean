import Mathlib.Data.List.Basic

/- How a computation that may fail can end: with a result that has a property, or with a failure
   that is admitted. What is known of its steps is put together to what is known of the whole. -/
namespace Rulesheet

theorem bind_eq_ok {α β ε : Type} {x : Except ε α} {f : α → Except ε β} {b : β} :
    (x >>= f) = .ok b ↔ ∃ a, x = .ok a ∧ f a = .ok b := by
  cases x <;> simp [bind, Except.bind]

/-- A result that has a property, or an admitted failure. -/
def Ends {α ε : Type} (fails : ε → Prop) (holds : α → Prop) : Except ε α → Prop
  | .ok a => holds a
  | .error e => fails e

namespace Ends

variable {α β ε : Type} {fails : ε → Prop} {holds : α → Prop} {after : β → Prop}

theorem mono {kept : α → Prop} {x : Except ε α} (ends : Ends fails holds x)
    (weaker : ∀ a, holds a → kept a) : Ends fails kept x := by
  cases x with
  | ok a => exact weaker a ends
  | error e => exact ends

theorem bind {x : Except ε α} {f : α → Except ε β} (ends : Ends fails holds x)
    (next : ∀ a, holds a → Ends fails after (f a)) : Ends fails after (x >>= f) := by
  cases x with
  | ok a => exact next a ends
  | error e => exact ends

theorem mapM {f : α → Except ε β} {items : List α}
    (each : ∀ a ∈ items, Ends fails after (f a)) :
    Ends fails (fun bs => ∀ b ∈ bs, after b) (items.mapM f) := by
  induction items with
  | nil =>
    intro b member
    cases member
  | cons a rest ih =>
    rw [List.mapM_cons]
    refine (each a List.mem_cons_self).bind ?_
    intro b first
    refine (ih fun a member => each a (List.mem_cons_of_mem _ member)).bind ?_
    intro bs others
    exact List.forall_mem_cons.mpr ⟨first, others⟩

theorem foldlM {f : β → α → Except ε β} {items : List α} {b : β} (start : after b)
    (step : ∀ b, after b → ∀ a ∈ items, Ends fails after (f b a)) :
    Ends fails after (items.foldlM f b) := by
  induction items generalizing b with
  | nil => exact start
  | cons a rest ih =>
    rw [List.foldlM_cons]
    refine (step b start a List.mem_cons_self).bind ?_
    intro b' kept
    exact ih kept fun b holds a member => step b holds a (List.mem_cons_of_mem _ member)

end Ends

abbrev Succeeds {α ε : Type} (x : Except ε α) : Prop := Ends (fun _ => False) (fun _ => True) x

theorem Succeeds.mapM {α β ε : Type} {f : α → Except ε β} {items : List α}
    (each : ∀ a ∈ items, Succeeds (f a)) : Succeeds (items.mapM f) :=
  (Ends.mapM each).mono fun _ _ => trivial

end Rulesheet
