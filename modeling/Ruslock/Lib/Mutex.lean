import Mathlib.Logic.Function.Basic

namespace Mutex

variable {π : Type*} [DecidableEq π]

/-- The recorded owner of a mutex is exactly the party whose program counter
lies inside a section that the mutex guards. -/
def Owned (owner : Option π) (holds : π → Bool) : Prop :=
  ∀ party, owner = some party ↔ holds party = true

/-- What one step of a party does to a mutex, seen from the owner field and
from the party's program counter. -/
inductive Move (owner owner' : Option π) (party : π) (before after : Bool) : Prop
  | keep : owner' = owner → after = before → Move owner owner' party before after
  | acquire : owner = none → owner' = some party → after = true → Move owner owner' party before after
  | release : before = true → owner' = none → after = false → Move owner owner' party before after

variable {owner owner' : Option π} {holds holds' : π → Bool} {party other : π}

omit [DecidableEq π] in
theorem owned_none (nobody : ∀ party, holds party = false) : Owned none holds := by
  intro party
  rw [nobody party]
  exact ⟨nofun, nofun⟩

omit [DecidableEq π] in
/-- Two parties never hold the mutex at once. -/
theorem Owned.unique (owned : Owned owner holds) (first : holds party = true) (second : holds other = true) :
    party = other := by
  have atParty := (owned party).mpr first
  have atOther := (owned other).mpr second
  exact Option.some.inj (atParty.symm.trans atOther)

theorem Owned.move {after : Bool} (owned : Owned owner holds) (move : Move owner owner' party (holds party) after) :
    Owned owner' (Function.update holds party after) := by
  intro candidate
  cases move with
  | keep sameOwner sameSide =>
    rw [sameOwner, sameSide, Function.update_eq_self]
    exact owned candidate
  | acquire free taken inside =>
    rw [taken, Function.update_apply]
    have nobody : holds candidate = false := by
      rw [← Bool.not_eq_true, ← owned candidate, free]
      simp
    by_cases self : candidate = party
    · simp only [self, inside, if_true]
    · simp only [if_neg self, nobody, Option.some.injEq, Bool.false_eq_true, iff_false]
      exact fun same => self same.symm
  | release held freed outside =>
    rw [freed, Function.update_apply]
    by_cases self : candidate = party
    · simp [self, outside]
    · have others : holds candidate ≠ true := fun holding => self (owned.unique holding held)
      simp [self, others]

/-- A step after which every other party stands where it stood. -/
theorem Owned.step (owned : Owned owner holds) (others : ∀ other ≠ party, holds' other = holds other)
    (move : Move owner owner' party (holds party) (holds' party)) : Owned owner' holds' := by
  have view : holds' = Function.update holds party (holds' party) := by
    funext other
    by_cases self : other = party
    · rw [self, Function.update_self]
    · rw [Function.update_of_ne self]
      exact others other self
  rw [view]
  exact owned.move move

end Mutex
