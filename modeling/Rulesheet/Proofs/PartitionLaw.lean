import Mathlib.Data.List.Nodup
import Rulesheet.Proofs.Partition

/- The law of partitions. Where the wildcard is declared, every text belongs to one declared
   value, its own or the wildcard, and falls in the partitions of that value alone. A value
   declared twice has two partitions of the same rows, so that every text falls in exactly one
   partition precisely when no value is repeated. -/
namespace Rulesheet.Partition

variable {values wildcard text value : String} {declared : List String}

/-- The declared value that a text belongs to, the wildcard for a text of no other. -/
def owner (declared : List String) (wildcard text : String) : String :=
  if Claimed declared wildcard text then text else wildcard

theorem owner_mem (wild : wildcard ∈ declared) : owner declared wildcard text ∈ declared := by
  unfold owner
  split
  · rename_i claimed
    exact claimed.1
  · exact wild

theorem owner_of_mem (member : value ∈ declared) : owner declared wildcard value = value := by
  unfold owner
  split
  · rfl
  · rename_i unclaimed
    by_contra other
    exact unclaimed ⟨member, Ne.symm other⟩

theorem accepts_iff_owner (member : value ∈ Text.names values) :
    (ofValue wildcard (Text.names values) value).filter.accepts text = true ↔
      owner (Text.names values) wildcard (Text.trim text) = value := by
  rw [accepts_ofValue member, owner]
  by_cases wild : value = wildcard
  · rw [if_pos wild, wild]
    split
    · rename_i claimed
      exact iff_of_false (not_not_intro claimed) claimed.2
    · rename_i unclaimed
      exact iff_of_true unclaimed rfl
  · rw [if_neg wild]
    split
    · rfl
    · rename_i unclaimed
      refine iff_of_false ?_ (Ne.symm wild)
      rintro rfl
      exact unclaimed ⟨member, wild⟩

theorem mem_ofValues (wild : wildcard ∈ Text.names values) {part : Partition} :
    part ∈ ofValues values wildcard ↔
      ∃ value ∈ Text.names values, ofValue wildcard (Text.names values) value = part := by
  rw [ofValues_of_some (List.ne_nil_of_mem wild), List.mem_map]

theorem countP_eq_count_owner (wild : wildcard ∈ Text.names values) :
    (ofValues values wildcard).countP (·.filter.accepts text) =
      (Text.names values).count (owner (Text.names values) wildcard (Text.trim text)) := by
  rw [countP_accepts, share, if_neg (List.ne_nil_of_mem wild), owner]
  split <;> rfl

theorem existsUnique_accepts (wild : wildcard ∈ Text.names values) (text : String) :
    ∃! part, part ∈ ofValues values wildcard ∧ part.filter.accepts text = true := by
  have owned : owner (Text.names values) wildcard (Text.trim text) ∈ Text.names values :=
    owner_mem wild
  refine ⟨ofValue wildcard (Text.names values) _,
    ⟨(mem_ofValues wild).mpr ⟨_, owned, rfl⟩, (accepts_iff_owner owned).mpr rfl⟩, ?_⟩
  rintro part ⟨member, accepted⟩
  obtain ⟨value, declared, eq⟩ := (mem_ofValues wild).mp member
  subst eq
  rw [(accepts_iff_owner declared).mp accepted]

theorem refuses_iff_other (wild : wildcard ∈ Text.names values) {part : Partition}
    (member : part ∈ ofValues values wildcard) (catchAll : part.value = wildcard) :
    part.filter = .noneOf ((Text.names values).filter (· ≠ wildcard)) ∧
      ∀ text, part.filter.accepts text = false ↔
        Text.trim text ∈ Text.names values ∧ Text.trim text ≠ wildcard := by
  obtain ⟨value, _, eq⟩ := (mem_ofValues wild).mp member
  subst eq
  have same : value = wildcard := by
    by_cases wild : value = wildcard
    · exact wild
    · exact absurd catchAll (by simp [ofValue, wild])
  have filter : (ofValue wildcard (Text.names values) value).filter =
      .noneOf ((Text.names values).filter (· ≠ wildcard)) := by
    rw [ofValue, if_pos same]
  refine ⟨filter, ?_⟩
  intro text
  rw [filter, Bool.eq_false_iff, ne_eq, accepts_others, Decidable.not_not, Claimed]

/-- The partitions of a value set that declares the wildcard: the wildcard's refuses exactly the
    other declared values, one partition alone has a given text, it is listed as often as its
    value is declared, and no text falls in two exactly when no value is repeated. -/
theorem partition_law (wild : wildcard ∈ Text.names values) :
    (∀ part ∈ ofValues values wildcard, part.value = wildcard →
      part.filter = .noneOf ((Text.names values).filter (· ≠ wildcard)) ∧
      ∀ text, part.filter.accepts text = false ↔
        Text.trim text ∈ Text.names values ∧ Text.trim text ≠ wildcard) ∧
    (∀ text, ∃! part, part ∈ ofValues values wildcard ∧ part.filter.accepts text = true) ∧
    (∀ text, (ofValues values wildcard).countP (·.filter.accepts text) =
      (Text.names values).count
        (if Text.trim text ∈ Text.names values ∧ Text.trim text ≠ wildcard then Text.trim text
          else wildcard)) ∧
    ((∀ text, (ofValues values wildcard).countP (·.filter.accepts text) = 1) ↔
      (Text.names values).Nodup) := by
  refine ⟨fun part member catchAll => refuses_iff_other wild member catchAll,
    existsUnique_accepts wild, fun text => countP_eq_count_owner wild, ?_⟩
  constructor
  · intro once
    apply List.nodup_iff_count_le_one.mpr
    intro value
    by_cases member : value ∈ Text.names values
    · have count := once value
      rw [countP_eq_count_owner wild, Text.trim_of_mem_names member, owner_of_mem member] at count
      exact count.le
    · rw [List.count_eq_zero_of_not_mem member]
      exact Nat.zero_le 1
  · intro distinct text
    rw [countP_eq_count_owner wild]
    exact List.count_eq_one_of_mem distinct (owner_mem wild)

theorem partition_law_repeated :
    "%" ∈ Text.names "Mobile, Mobile,,%" ∧
    (ofValues "Mobile, Mobile,,%" "%").countP (·.filter.accepts " Mobile ") = 2 ∧
    (ofValues "Mobile, Mobile,,%" "%").countP (·.filter.accepts "TV") = 1 ∧
    ¬∀ text, (ofValues "Mobile, Mobile,,%" "%").countP (·.filter.accepts text) = 1 := by
  have wild : "%" ∈ Text.names "Mobile, Mobile,,%" := by decide
  obtain ⟨_, _, count, once⟩ := partition_law wild
  refine ⟨wild, ?_, ?_, ?_⟩
  · exact (count " Mobile ").trans (by decide)
  · exact (count "TV").trans (by decide)
  · exact fun each => absurd (once.mp each) (by decide)

end Rulesheet.Partition
