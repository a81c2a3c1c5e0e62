import Mathlib.Algebra.BigOperators.Finprod
import Ruslock.Lib.Transition

namespace Workload
open Transition

section Total

variable {ι : Type*} {i : ι}

/-- When one party moves, no more than one is added to any finite set of them. -/
theorem finite_moved {before after : Set ι} (i : ι) (finite : before.Finite)
    (others : ∀ other ≠ i, other ∈ after → other ∈ before) : after.Finite := by
  refine (finite.insert i).subset fun other inside => ?_
  by_cases same : other = i
  · exact .inl same
  · exact .inr (others other same inside)

/-- What all parties together have left to do, where only finitely many have anything. -/
noncomputable def total (left : ι → ℕ) : ℕ := finsum left

/-- When one party moves, the total changes by what that party's share does. -/
theorem total_moved {before after : ι → ℕ} (finite : before.support.Finite)
    (others : ∀ other ≠ i, after other = before other) : total after + before i = total before + after i := by
  classical
  have grown := finite.insert i
  have old : before.support ⊆ grown.toFinset := by
    rw [Set.Finite.coe_toFinset]
    exact Set.subset_insert i _
  have new : after.support ⊆ grown.toFinset := by
    intro other inside
    rw [Set.Finite.coe_toFinset]
    by_cases same : other = i
    · exact .inl same
    · refine .inr ?_
      rw [Function.mem_support, ← others other same]
      exact inside
  have member : i ∈ grown.toFinset := grown.mem_toFinset.mpr (Set.mem_insert i _)
  have rest : ∑ other ∈ grown.toFinset.erase i, after other = ∑ other ∈ grown.toFinset.erase i, before other :=
    Finset.sum_congr rfl fun other inside => others other (Finset.ne_of_mem_erase inside)
  rw [total, total, finsum_eq_sum_of_support_subset _ old, finsum_eq_sum_of_support_subset _ new,
    ← Finset.add_sum_erase _ _ member, ← Finset.add_sum_erase _ _ member, rest]
  omega

end Total

section Runs

variable {σ α : Type*} {step : σ → α → Option σ} {allowed : σ → α → Prop} {work : σ → ℕ} {initial : σ}

/-- Where every allowed step takes away some of the work, the work bounds the
length of every run. -/
theorem length_le {actions : List α} {final : σ}
    (lessens : ∀ before action after, Reach step allowed initial before → allowed before action →
      step before action = some after → work after < work before)
    (meets : RunAllowed step allowed initial actions) (executed : run step initial actions = some final) :
    actions.length ≤ work initial := by
  induction actions generalizing initial with
  | nil => exact Nat.zero_le _
  | cons action actions ih =>
    obtain ⟨next, first, rest⟩ := Option.bind_eq_some_iff.mp executed
    have later := meets.2
    rw [first] at later
    have less := lessens initial action next .start meets.1 first
    have bounded := ih (fun before action after onward => lessens before action after
      ((Reach.next .start meets.1 first).trans onward)) later rest
    rw [List.length_cons]
    omega

/-- Where every allowed step takes away some of the work, every run can be
continued until no step is allowed any more. -/
theorem exists_settled
    (lessens : ∀ before action after, Reach step allowed initial before → allowed before action →
      step before action = some after → work after < work before) :
    ∃ last, Reach step allowed initial last ∧ ∀ action, allowed last action → step last action = none := by
  have settles : ∀ bound state, work state ≤ bound → Reach step allowed initial state →
      ∃ last, Reach step allowed initial last ∧ ∀ action, allowed last action → step last action = none := by
    intro bound
    induction bound with
    | zero =>
      intro state small reach
      refine ⟨state, reach, fun action meets => ?_⟩
      cases taken : step state action with
      | none => rfl
      | some next => exact absurd (lessens state action next reach meets taken) (by omega)
    | succ bound ih =>
      intro state small reach
      by_cases still : ∀ action, allowed state action → step state action = none
      · exact ⟨state, reach, still⟩
      · push Not at still
        obtain ⟨action, meets, moves⟩ := still
        obtain ⟨next, taken⟩ := Option.ne_none_iff_exists'.mp moves
        have less := lessens state action next reach meets taken
        exact ih next (by omega) (.next reach meets taken)
  exact settles (work initial) initial (Nat.le_refl _) .start

end Runs

end Workload
