import Mathlib.Data.Fintype.Card
import Mathlib.Data.List.Range
import Mathlib.Data.Nat.ModEq

namespace Cyclic

variable {n start : Nat} {visited : List (Fin n)}

/-- The places of a circle of `n` in the order in which a round from `start`
comes to them. -/
def InOrder (n start : Nat) (visited : List (Fin n)) : Prop :=
  visited.map Fin.val = (List.range visited.length).map fun offset => (start + offset) % n

theorem inOrder_nil (n start : Nat) : InOrder n start [] := rfl

/-- The round goes on to the next place. -/
theorem InOrder.snoc (order : InOrder n start visited) {next : Fin n}
    (atNext : next.val = (start + visited.length) % n) : InOrder n start (visited ++ [next]) := by
  have longer : (visited ++ [next]).length = visited.length + 1 := List.length_append
  rw [InOrder, longer, List.range_succ, List.map_append, List.map_append, List.map_singleton, List.map_singleton,
    atNext, order]

/-- Up to its end a round comes to no place twice. -/
theorem InOrder.nodup (order : InOrder n start visited) (within : visited.length ≤ n) : visited.Nodup := by
  refine List.Nodup.of_map Fin.val ?_
  rw [order]
  refine List.Nodup.map_on ?_ List.nodup_range
  intro first atFirst second atSecond same
  have firstWithin := List.mem_range.mp atFirst
  have secondWithin := List.mem_range.mp atSecond
  have modEq : Nat.ModEq n first second := Nat.ModEq.add_left_cancel' start same
  exact modEq.eq_of_lt_of_lt (by omega) (by omega)

/-- A round of `n` places leaves none out. -/
theorem InOrder.mem_of_length (order : InOrder n start visited) (full : visited.length = n) (place : Fin n) :
    place ∈ visited := by
  have card : visited.toFinset.card = Fintype.card (Fin n) := by
    rw [List.toFinset_card_of_nodup (order.nodup full.le), full, Fintype.card_fin]
  rw [← List.mem_toFinset, Finset.eq_univ_of_card _ card]
  exact Finset.mem_univ place

end Cyclic
