import Rulesheet.Proofs.Execution
import Rulesheet.Proofs.Partition

/- Where the rows of a sheet go. A row below the header that has something to say gets its rule,
   in each pass, in exactly the documents whose partition its filter text falls in. -/
namespace Rulesheet

namespace Plan

def contributes (p : Plan) (row i : Nat) (d : Production) : Bool :=
  match p.tokens[i]? with
  | some token => row ∈ p.ruleRows d.partition token
  | none => false

variable {p : Plan} {row i col : Nat} {token : String}

theorem passes_getElem? (part : Partition) (pass : p.tokens[i]? = some token) :
    (p.passes part)[i]? = some ⟨i + 1, token, (p.ruleRows part token).map
      (p.sheet.extract p.layout (p.layout.inputColumns token))⟩ := by
  rw [passes_eq, List.getElem?_mapIdx, pass]
  rfl

theorem contributes_iff_accepts (pass : p.tokens[i]? = some token)
    (filtered : p.layout.filterColumn = some col)
    (below : p.layout.columns.headerRow < row) (inside : row < p.sheet.rowCount)
    (filled : (p.sheet.extract p.layout (p.layout.inputColumns token) row).isEmpty = false)
    (d : Production) :
    p.contributes row i d = true ↔
      d.partition.filter.accepts (p.sheet.text row col) = true := by
  have qualifies : p.sheet.qualifies p.layout d.partition.filter row =
      d.partition.filter.accepts (p.sheet.text row col) := by
    simp only [Worksheet.qualifies, filtered]
  simp only [contributes, pass, decide_eq_true_eq, ruleRows, Worksheet.mem_ruleRows, qualifies]
  constructor
  · rintro ⟨_, _, accepted, _⟩
    exact accepted
  · intro accepted
    exact ⟨below, inside, accepted, filled⟩

end Plan

section

variable {c : MacroConfig} {book : Workbook} {release : String} {s : Settings} {name : String}

/-- Conservation: a row with a rule to give gives it to as many documents as its filter text has
    a share in, the wildcard's included, and never to one of the other kind. -/
theorem rows_conserved
    (success : ∀ x ∈ executeMacro c book release s name, x.success = true) :
    ∃ p, Plan.prepare c book release s = .ok p ∧
      executeMacro c book release s name =
        p.productions.map (fun d => .document d.content d.fileName name) ∧
      ∀ i token, p.tokens[i]? = some token →
        (∀ d ∈ p.productions, (p.ruleRows d.partition token).Nodup ∧
          d.passes[i]? = some ⟨i + 1, token, (p.ruleRows d.partition token).map
            (p.sheet.extract p.layout (p.layout.inputColumns token))⟩) ∧
        ∀ col, p.layout.filterColumn = some col →
        ∀ row, p.layout.columns.headerRow < row → row < p.sheet.rowCount →
          (p.sheet.extract p.layout (p.layout.inputColumns token) row).isEmpty = false →
          let text := Text.trim (p.sheet.text row col)
          let declared := Text.names (c.filterValues release s)
          p.productions.countP (p.contributes row i) =
            (if declared = [] then 1
              else if text ∈ declared ∧ text ≠ s.wildcard then declared.count text
              else declared.count s.wildcard) ∧
          ∀ d ∈ p.productions, p.contributes row i d = true →
            (d.partition.filter.kind = .exact →
              text ∈ declared ∧ text ≠ s.wildcard ∧ text ≠ "") ∧
            (d.partition.filter.kind = .exclude → ¬(text ∈ declared ∧ text ≠ s.wildcard)) := by
  obtain ⟨p, planned⟩ := executeMacro_success_iff.mp success
  have partitions : p.partitions = Partition.ofValues (c.filterValues release s) s.wildcard := by
    obtain ⟨_, w, _, rfl, _⟩ := Plan.prepare_eq_ok_iff.mp planned
    rfl
  refine ⟨p, planned, executeMacro_of_plan planned, ?_⟩
  intro i token pass
  constructor
  · intro d member
    obtain ⟨part, _, eq⟩ := List.mem_map.mp member
    subst eq
    refine ⟨?_, Plan.passes_getElem? part pass⟩
    exact (Worksheet.ruleRows_ascending _).imp Nat.ne_of_lt
  · intro col filtered row below inside filled
    have accepts := Plan.contributes_iff_accepts pass filtered below inside filled
    constructor
    · have count : (Partition.ofValues (c.filterValues release s) s.wildcard).countP
          (·.filter.accepts (p.sheet.text row col)) = _ := Partition.countP_accepts
      rw [Plan.productions, List.countP_map, partitions]
      refine Eq.trans (List.countP_congr ?_) count
      intro part _
      rw [Function.comp_apply, accepts]
      rfl
    · intro d member contributed
      obtain ⟨part, declared, eq⟩ := List.mem_map.mp member
      subst eq
      rw [partitions] at declared
      have claimed := Partition.claimed_of_accepts declared ((accepts _).mp contributed)
      constructor
      · intro exact_kind
        obtain ⟨named, tame⟩ := claimed.1 exact_kind
        exact ⟨named, tame, Text.ne_empty_of_mem_names named⟩
      · exact claimed.2

theorem rows_conserved_sample :
    (∀ x ∈ executeMacro (sampleConfig "Mobile,,%, Mobile,%") ⟨[sampleSheet]⟩ "R2" {} "M",
      x.success = true) ∧
    let p := samplePlan "Mobile,,%, Mobile,%"
    p.productions.length = 4 ∧
    p.productions.countP (p.contributes 2 0) = 2 ∧
    p.productions.countP (p.contributes 4 0) = 2 := by
  refine ⟨success_sample _, by decide, ?_, ?_⟩
  all_goals
    obtain ⟨p, planned, _, each⟩ := rows_conserved (success_sample "Mobile,,%, Mobile,%")
    cases Except.ok.inj (planned.symm.trans (prepare_sample _))
  · have row := (each 0 "" (by decide)).2 1 (by decide) 2 (by decide) (by decide) (by decide)
    exact row.1.trans (by decide)
  · have row := (each 0 "" (by decide)).2 1 (by decide) 4 (by decide) (by decide) (by decide)
    exact row.1.trans (by decide)

end
end Rulesheet
