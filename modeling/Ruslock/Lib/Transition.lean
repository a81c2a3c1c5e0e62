import Mathlib.Logic.Basic
import Mathlib.Order.Basic

namespace Transition

variable {σ τ α β : Type*}

/-- The states of the runs of `step` from `initial` in which every action is
`allowed` in the state it is taken in. -/
inductive Reach (step : σ → α → Option σ) (allowed : σ → α → Prop) (initial : σ) : σ → Prop
  | start : Reach step allowed initial initial
  | next {before after action} :
      Reach step allowed initial before → allowed before action → step before action = some after →
      Reach step allowed initial after

/-- No restriction on the actions of a run. -/
def Always (_state : σ) (_action : α) : Prop := True

section Rules

variable {step : σ → α → Option σ} {allowed stricter : σ → α → Prop} {initial middle state : σ}

theorem Reach.mono (reach : Reach step stricter initial state)
    (weaken : ∀ before action, stricter before action → allowed before action) :
    Reach step allowed initial state := by
  induction reach with
  | start => exact .start
  | next _ meets run ih => exact .next ih (weaken _ _ meets) run

theorem Reach.always (reach : Reach step stricter initial state) : Reach step Always initial state :=
  reach.mono fun _ _ _ => trivial

theorem Reach.trans (front : Reach step allowed initial middle) (back : Reach step allowed middle state) :
    Reach step allowed initial state := by
  induction back with
  | start => exact front
  | next _ meets run ih => exact .next ih meets run

/-- What holds at the start and is preserved by every allowed step holds in
every reached state. The step may use that its state is reached. -/
theorem Reach.invariant {motive : σ → Prop} (reach : Reach step allowed initial state) (base : motive initial)
    (preserved : ∀ before action after, Reach step allowed initial before → motive before →
      allowed before action → step before action = some after → motive after) : motive state := by
  induction reach with
  | start => exact base
  | next previous meets run ih => exact preserved _ _ _ previous ih meets run

/-- Every step of one system is a step of the other or leaves its state alone. -/
theorem Reach.simulate {step' : τ → β → Option τ} {allowed' : τ → β → Prop} (view : σ → τ)
    (reach : Reach step allowed initial state)
    (simulates : ∀ before action after, Reach step allowed initial before → allowed before action →
      step before action = some after → view after = view before ∨
        ∃ action', allowed' (view before) action' ∧ step' (view before) action' = some (view after)) :
    Reach step' allowed' (view initial) (view state) := by
  induction reach with
  | start => exact .start
  | next previous meets run ih =>
    rcases simulates _ _ _ previous meets run with same | ⟨action', meets', run'⟩
    · rw [same]
      exact ih
    · exact .next ih meets' run'

end Rules

/-- Executes a list of actions. -/
def run (step : σ → α → Option σ) : σ → List α → Option σ
  | state, [] => some state
  | state, action :: actions => (step state action).bind fun next => run step next actions

/-- Every action of the list is allowed in the state it is taken in. -/
def RunAllowed (step : σ → α → Option σ) (allowed : σ → α → Prop) : σ → List α → Prop
  | _, [] => True
  | state, action :: actions =>
    allowed state action ∧
      match step state action with
      | none => True
      | some next => RunAllowed step allowed next actions

theorem Reach.of_run {step : σ → α → Option σ} {allowed : σ → α → Prop} {actions : List α} {initial state : σ}
    (meets : RunAllowed step allowed initial actions) (executed : run step initial actions = some state) :
    Reach step allowed initial state := by
  induction actions generalizing initial with
  | nil =>
    cases executed
    exact .start
  | cons action actions ih =>
    obtain ⟨next, first, rest⟩ := Option.bind_eq_some_iff.mp executed
    have later := meets.2
    rw [first] at later
    exact (Reach.next .start meets.1 first).trans (ih later rest)

/-- A run that can be executed shows that a state of some kind is reached. -/
theorem Reach.exists_of_run {step : σ → α → Option σ} {allowed : σ → α → Prop} {actions : List α} {initial : σ}
    {kind : σ → Bool} (meets : RunAllowed step allowed initial actions)
    (executed : (run step initial actions).any kind = true) :
    ∃ state, Reach step allowed initial state ∧ kind state = true := by
  obtain ⟨state, final, found⟩ := (Option.any_eq_true ..).mp executed
  exact ⟨state, .of_run meets final, found⟩

theorem RunAllowed.cons {step : σ → α → Option σ} {allowed : σ → α → Prop} {state : σ} {action : α} {actions : List α}
    (meets : allowed state action) (rest : ∀ next, RunAllowed step allowed next actions) :
    RunAllowed step allowed state (action :: actions) := by
  refine ⟨meets, ?_⟩
  split
  · trivial
  · exact rest _

/-- Actions that are allowed everywhere are allowed in every order. -/
theorem RunAllowed.of_forall {step : σ → α → Option σ} {allowed : σ → α → Prop} {actions : List α}
    (free : ∀ action ∈ actions, ∀ state, allowed state action) (initial : σ) :
    RunAllowed step allowed initial actions := by
  induction actions generalizing initial with
  | nil => trivial
  | cons action actions ih =>
    exact .cons (free action List.mem_cons_self initial) fun next =>
      ih (fun later member => free later (List.mem_cons_of_mem _ member)) next

/-- A run that meets two conditions meets what follows from both. -/
theorem RunAllowed.combine {step : σ → α → Option σ} {first second allowed : σ → α → Prop} {initial : σ} {actions : List α}
    (combines : ∀ state action, first state action → second state action → allowed state action)
    (meets : RunAllowed step first initial actions) (meets' : RunAllowed step second initial actions) :
    RunAllowed step allowed initial actions := by
  induction actions generalizing initial with
  | nil => trivial
  | cons action actions ih =>
    refine ⟨combines initial action meets.1 meets'.1, ?_⟩
    have rest := meets.2
    have rest' := meets'.2
    revert rest rest'
    cases step initial action with
    | none => exact fun _ _ => trivial
    | some next => exact ih

theorem runAllowed_always (step : σ → α → Option σ) (initial : σ) (actions : List α) :
    RunAllowed step Always initial actions :=
  .of_forall (fun _ _ _ => trivial) initial

/-- A system with a history beside its state: every step writes into the
history, and no step reads it. -/
def watch (step : σ → α → Option σ) (record : σ → α → σ → τ → τ) (watched : σ × τ) (action : α) : Option (σ × τ) :=
  (step watched.1 action).map fun after => (after, record watched.1 action after watched.2)

section Watch

variable {step : σ → α → Option σ} {record : σ → α → σ → τ → τ} {allowed : σ → α → Prop}

theorem watch_eq_some {before after : σ × τ} {action : α} (run : watch step record before action = some after) :
    step before.1 action = some after.1 ∧ after.2 = record before.1 action after.1 before.2 := by
  obtain ⟨_, stepped, rfl⟩ := Option.map_eq_some_iff.mp run
  exact ⟨stepped, rfl⟩

/-- Without its history a watched run is a run. -/
theorem Reach.forget {initial watched : σ × τ}
    (reach : Reach (watch step record) (fun state action => allowed state.1 action) initial watched) :
    Reach step allowed initial.1 watched.1 :=
  reach.simulate Prod.fst fun _ action _ _ meets run => .inr ⟨action, meets, (watch_eq_some run).1⟩

end Watch

end Transition
