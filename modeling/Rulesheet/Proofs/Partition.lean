import Rulesheet.Filter
import Rulesheet.Proofs.Text.Pieces

/- How the partitions of a declared value set divide the texts of the filter column. A declared
   text other than the wildcard goes to the partitions of that value, every other text to the
   partitions of the wildcard, each as often as the set names it. -/
namespace Rulesheet

namespace Filter

theorem accepts_equalTo {value text : String} :
    (equalTo value).accepts text = true ↔ Text.trim text = Text.trim value := by
  simp [accepts, equalTo]

theorem accepts_noneOf {values : List String} {text : String} :
    (noneOf values).accepts text = true ↔ Text.trim text ∉ values.map Text.trim := by
  simp [accepts, noneOf]

end Filter

namespace Partition

def Claimed (declared : List String) (wildcard text : String) : Prop :=
  text ∈ declared ∧ text ≠ wildcard

instance (declared : List String) (wildcard text : String) :
    Decidable (Claimed declared wildcard text) :=
  inferInstanceAs (Decidable (_ ∧ _))

variable {values wildcard text value : String}

theorem accepts_everything : (everything wildcard).filter.accepts text = true :=
  Filter.accepts_noneOf.mpr (by simp)

theorem accepts_others :
    (Filter.noneOf ((Text.names values).filter (· ≠ wildcard))).accepts text = true ↔
      ¬Claimed (Text.names values) wildcard (Text.trim text) := by
  rw [Filter.accepts_noneOf]
  have trimmed : ((Text.names values).filter (· ≠ wildcard)).map Text.trim =
      (Text.names values).filter (· ≠ wildcard) := by
    conv => rhs; rw [← List.map_id ((Text.names values).filter (· ≠ wildcard))]
    apply List.map_congr_left
    intro name member
    exact Text.trim_of_mem_names (List.mem_filter.mp member).1
  rw [trimmed, List.mem_filter, decide_eq_true_eq, Claimed]

theorem accepts_ofValue (member : value ∈ Text.names values) :
    (ofValue wildcard (Text.names values) value).filter.accepts text = true ↔
      if value = wildcard then ¬Claimed (Text.names values) wildcard (Text.trim text)
      else Text.trim text = value := by
  unfold ofValue
  by_cases wild : value = wildcard
  · rw [if_pos wild, if_pos wild]
    exact accepts_others
  · rw [if_neg wild, if_neg wild, Filter.accepts_equalTo, Text.trim_of_mem_names member]

theorem ofValues_of_none (none : Text.names values = []) :
    ofValues values wildcard = [everything wildcard] := by
  rw [ofValues, none]

theorem ofValues_of_some (some : Text.names values ≠ []) :
    ofValues values wildcard =
      (Text.names values).map (ofValue wildcard (Text.names values)) := by
  unfold ofValues
  split
  · contradiction
  · rfl

def share (values wildcard text : String) : Nat :=
  if Text.names values = [] then 1
  else if Claimed (Text.names values) wildcard text then (Text.names values).count text
  else (Text.names values).count wildcard

theorem countP_accepts :
    (ofValues values wildcard).countP (·.filter.accepts text) =
      share values wildcard (Text.trim text) := by
  unfold share
  by_cases none : Text.names values = []
  · rw [if_pos none, ofValues_of_none none, List.countP_singleton, if_pos accepts_everything]
  · rw [if_neg none, ofValues_of_some none, List.countP_map]
    split
    · rename_i claimed
      apply List.countP_congr
      intro value member
      rw [Function.comp_apply, accepts_ofValue member, beq_iff_eq]
      by_cases wild : value = wildcard
      · rw [if_pos wild, wild]
        exact ⟨fun refused => absurd claimed refused, fun same => absurd same.symm claimed.2⟩
      · rw [if_neg wild]
        exact eq_comm
    · rename_i unclaimed
      apply List.countP_congr
      intro value member
      rw [Function.comp_apply, accepts_ofValue member, beq_iff_eq]
      by_cases wild : value = wildcard
      · rw [if_pos wild]
        exact ⟨fun _ => wild, fun _ => unclaimed⟩
      · rw [if_neg wild]
        refine ⟨fun same => absurd ⟨same ▸ member, same ▸ wild⟩ unclaimed, ?_⟩
        exact fun same => absurd same wild

theorem claimed_of_accepts {part : Partition} (member : part ∈ ofValues values wildcard)
    (accepted : part.filter.accepts text = true) :
    (part.filter.kind = .exact → Claimed (Text.names values) wildcard (Text.trim text)) ∧
      (part.filter.kind = .exclude →
        ¬Claimed (Text.names values) wildcard (Text.trim text)) := by
  by_cases none : Text.names values = []
  · rw [ofValues_of_none none, List.mem_singleton] at member
    subst member
    simp [everything, Filter.noneOf, Claimed, none]
  · rw [ofValues_of_some none, List.mem_map] at member
    obtain ⟨value, declared, eq⟩ := member
    subst eq
    rw [accepts_ofValue declared] at accepted
    by_cases wild : value = wildcard
    · rw [if_pos wild] at accepted
      simp [ofValue, wild, Filter.noneOf, accepted]
    · rw [if_neg wild] at accepted
      subst accepted
      simp [ofValue, wild, Filter.equalTo, Claimed, declared]

end Partition
end Rulesheet
