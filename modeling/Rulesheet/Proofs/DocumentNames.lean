import Mathlib.Data.List.Nodup
import Rulesheet.Proofs.Document.Reading
import Rulesheet.Proofs.Execution
import Rulesheet.Proofs.Partition

/- The names of the documents of one run. A template with a placeholder tells the suffixes of
   partitions apart, and the suffixes tell the declared values, whatever characters they hold, so
   that documents share a name exactly when their partitions share a value. -/
namespace Rulesheet

namespace Text

variable {mark : Char} {s : List Char}

theorem replaceFirst_of_mem (marked : mark ∈ s) :
    ∃ before after, ∀ insert, replaceFirst mark insert s = before ++ insert ++ after := by
  induction s with
  | nil => contradiction
  | cons c rest ih =>
    by_cases first : c = mark
    · refine ⟨[], rest, ?_⟩
      intro insert
      rw [replaceFirst, if_pos first, List.nil_append]
    · have later : mark ∈ rest := by
        rcases List.mem_cons.mp marked with same | inside
        · exact absurd same.symm first
        · exact inside
      obtain ⟨before, after, around⟩ := ih later
      refine ⟨c :: before, after, ?_⟩
      intro insert
      rw [replaceFirst, if_neg first, around, List.cons_append, List.cons_append]

theorem replaceFirst_inj (marked : mark ∈ s) {one two : List Char} :
    replaceFirst mark one s = replaceFirst mark two s ↔ one = two := by
  obtain ⟨before, after, around⟩ := replaceFirst_of_mem marked
  rw [around, around, List.append_left_inj, List.append_right_inj]

end Text

namespace Partition

variable {values wildcard template : String} {part other : Partition}

theorem fill_inj (marked : '%' ∈ template.toList) :
    part.fill template = other.fill template ↔ part.suffix = other.suffix := by
  rw [fill, fill, String.ofList_inj, Text.replaceFirst_inj marked, String.toList_inj]

theorem suffix_of_mem (member : part ∈ ofValues values wildcard) :
    part.suffix = if part.value = wildcard then "" else "-" ++ part.value := by
  by_cases none : Text.names values = []
  · rw [ofValues_of_none none, List.mem_singleton] at member
    rw [member, everything, if_pos rfl]
  · rw [ofValues_of_some none] at member
    obtain ⟨value, _, eq⟩ := List.mem_map.mp member
    subst eq
    unfold ofValue
    by_cases wild : value = wildcard
    · rw [if_pos wild, if_pos wild]
    · rw [if_neg wild, if_neg wild]

theorem suffix_eq_iff (member : part ∈ ofValues values wildcard)
    (listed : other ∈ ofValues values wildcard) :
    part.suffix = other.suffix ↔ part.value = other.value := by
  have filled (value : String) : "-" ++ value ≠ "" := by simp
  rw [suffix_of_mem member, suffix_of_mem listed]
  by_cases wild : part.value = wildcard
  · by_cases wild' : other.value = wildcard
    · rw [if_pos wild, if_pos wild', wild, wild']
      exact iff_of_true rfl rfl
    · rw [if_pos wild, if_neg wild', wild]
      exact iff_of_false (filled _).symm (Ne.symm wild')
  · by_cases wild' : other.value = wildcard
    · rw [if_neg wild, if_pos wild', wild']
      exact iff_of_false (filled _) wild
    · rw [if_neg wild, if_neg wild', String.append_right_inj]

end Partition

theorem Partition.nodup_values {values wildcard : String} (distinct : (Text.names values).Nodup) :
    ((Partition.ofValues values wildcard).map Partition.value).Nodup := by
  rw [map_value_ofValues]
  split
  · exact List.nodup_singleton wildcard
  · exact distinct

def Document.objectName? (text : String) : Option String := (read? text).map Ruleset.name

theorem Document.objectName?_assemble (name container returnCode defaultSpec : String)
    (passes : List Pass) (loop : Bool) :
    objectName? (assemble name container returnCode defaultSpec passes loop) = some name := by
  rw [objectName?, read?_assemble]
  rfl

structure NamedApart (c : MacroConfig) (part other : Partition) (x y : MacroResult) : Prop where
  file : '%' ∈ c.fileName.toList → (x.fileName = y.fileName ↔ part.value = other.value)
  object : '%' ∈ c.documentName.toList → ∃ own others,
    Document.objectName? x.content = some own ∧ Document.objectName? y.content = some others ∧
      (own = others ↔ part.value = other.value)

section

variable {c : MacroConfig} {book : Workbook} {release : String} {s : Settings} {name : String}

theorem namedApart_documentOver {part other : Partition} {values : String}
    (member : part ∈ Partition.ofValues values s.wildcard)
    (listed : other ∈ Partition.ofValues values s.wildcard) (passes passes' : List Pass) :
    NamedApart c part other (c.documentOver s part passes name)
      (c.documentOver s other passes' name) where
  file := by
    intro marked
    have names : part.fill c.fileName ++ s.outputExtension =
        other.fill c.fileName ++ s.outputExtension ↔ part.suffix = other.suffix := by
      rw [String.append_left_inj, Partition.fill_inj marked]
    exact names.trans (Partition.suffix_eq_iff member listed)
  object := by
    intro marked
    refine ⟨part.fill c.documentName, other.fill c.documentName,
      Document.objectName?_assemble .., Document.objectName?_assemble .., ?_⟩
    exact (Partition.fill_inj marked).trans (Partition.suffix_eq_iff member listed)

/-- A run has one document a partition, in order; where a template has a placeholder, two documents
    have the same name exactly when their partitions have the same value. Distinct values give
    distinct file names. -/
theorem partitions_named_apart
    (success : ∀ x ∈ executeMacro c book release s name, x.success = true) :
    (executeMacro c book release s name).length =
      (Partition.ofValues (c.filterValues release s) s.wildcard).length ∧
    (∀ (i j : Nat) part other x y,
      (Partition.ofValues (c.filterValues release s) s.wildcard)[i]? = some part →
      (Partition.ofValues (c.filterValues release s) s.wildcard)[j]? = some other →
      (executeMacro c book release s name)[i]? = some x →
      (executeMacro c book release s name)[j]? = some y → NamedApart c part other x y) ∧
    ('%' ∈ c.fileName.toList → (Text.names (c.filterValues release s)).Nodup →
      ((executeMacro c book release s name).map MacroResult.fileName).Nodup) := by
  obtain ⟨p, planned⟩ := executeMacro_success_iff.mp success
  obtain ⟨template, w, found, rfl, legible⟩ := Plan.prepare_eq_ok_iff.mp planned
  rw [executeMacro_of_sheet found template legible]
  refine ⟨List.length_map _, ?_, ?_⟩
  · intro i j part other x y at_i at_j result_i result_j
    rw [List.getElem?_map, at_i, Option.map_some, Option.some.injEq] at result_i
    rw [List.getElem?_map, at_j, Option.map_some, Option.some.injEq] at result_j
    rw [← result_i, ← result_j]
    exact namedApart_documentOver (List.mem_of_getElem? at_i) (List.mem_of_getElem? at_j) _ _
  · intro marked distinct
    have values : ((Partition.ofValues (c.filterValues release s) s.wildcard).map
        Partition.value).Nodup := Partition.nodup_values distinct
    rw [List.map_map]
    apply List.Nodup.map_on _ (List.Nodup.of_map _ values)
    intro part member other listed same
    have value := ((namedApart_documentOver member listed _ _).file marked).mp same
    exact List.inj_on_of_nodup_map values member listed value

theorem partitions_named_apart_sample :
    '%' ∈ (sampleConfig "%a,a%,%,a%").fileName.toList ∧
    ∃ results, executeMacro (sampleConfig "%a,a%,%,a%") ⟨[sampleSheet]⟩ "R2" {} "M" = results ∧
      (∀ x ∈ results, x.success = true) ∧
      ∃ x y z, results[0]? = some x ∧ results[1]? = some y ∧ results[3]? = some z ∧
        x.fileName ≠ y.fileName ∧ y.fileName = z.fileName := by
  have success := success_sample "%a,a%,%,a%"
  obtain ⟨length, apart, _⟩ := partitions_named_apart success
  have marked : '%' ∈ (sampleConfig "%a,a%,%,a%").fileName.toList := by decide
  generalize named : executeMacro (sampleConfig "%a,a%,%,a%") ⟨[sampleSheet]⟩ "R2" {} "M" =
    results at success length apart
  have four : results.length = 4 := length.trans (by decide)
  have first : results[0]? = some _ := List.getElem?_eq_getElem (by omega)
  have second : results[1]? = some _ := List.getElem?_eq_getElem (by omega)
  have fourth : results[3]? = some _ := List.getElem?_eq_getElem (by omega)
  refine ⟨marked, results, rfl, success, _, _, _, first, second, fourth, ?_, ?_⟩
  · intro same
    have value := ((apart 0 1 _ _ _ _ rfl rfl first second).file marked).mp same
    exact absurd value (by decide)
  · exact ((apart 1 3 _ _ _ _ rfl rfl second fourth).file marked).mpr rfl

end
end Rulesheet
