import Ruslock.ConnectionPending

namespace Ruslock.Connection
open Transition Wire

abbrev CountId := Nat

/-- Where a `pending_len` is. -/
inductive CountPc
  | idle
  | lockPending
  | inPending
  | returned (len : Nat)

inductive CountAction
  | start
  | lockPending
  | len

/-- A connection with the tasks that count its entries: they take the pending
mutex like everybody else. -/
structure Tasks where
  conn : State
  counts : CountId → CountPc
  /-- The count that holds the pending mutex. -/
  counting : Option CountId

def Tasks.new : Tasks := ⟨State.new, fun _ => .idle, none⟩

/-- What the tasks of one connection can do: a step of the connection, the
dropping of a call in two steps, and the steps of a `pending_len`. A call that
has been handed the mutex but has not run yet gives it back when it is dropped,
before its cleanup tries to lock. -/
inductive TaskAction
  | base (action : Action)
  | giveBack (c : CallId)
  | drop (c : CallId)
  | count (q : CountId) (action : CountAction)

def Action.drops : Action → Bool
  | .call _ .drop => true
  | _ => false

def Action.takesPending : Action → Bool
  | .call _ .lockPending => true
  | .closing _ .lockPending => true
  | .reader _ .lockPending => true
  | _ => false

def stepCount (t : Tasks) (q : CountId) : CountAction → Option Tasks
  | .start =>
    match t.counts q with
    | .idle => some { t with counts := Function.update t.counts q .lockPending }
    | _ => none
  | .lockPending =>
    match t.counts q, t.conn.pendingLock, t.counting with
    | .lockPending, none, none => some { t with counting := some q, counts := Function.update t.counts q .inPending }
    | _, _, _ => none
  | .len =>
    match t.counts q with
    | .inPending => some
      { t with counting := none, counts := Function.update t.counts q (.returned t.conn.pending.entries.length) }
    | _ => none

def stepTasks (config : Config) (t : Tasks) : TaskAction → Option Tasks
  | .base action =>
    if action.drops = true ∨ t.counting.isSome = true ∧ action.takesPending = true then none
    else (step config t.conn action).map fun conn => { t with conn := conn }
  | .giveBack c =>
    match config.backend, t.conn.calls c with
    | .aio, .inPending encoded use => some
      { t with
        conn := { t.conn with
          pendingLock := none
          calls := Function.update t.conn.calls c (.lockPending encoded use) } }
    | _, _ => none
  | .drop c =>
    (step config t.conn (.call c .drop)).map fun conn =>
      -- the cleanup's `try_lock` fails while a count holds the mutex
      { t with conn := if t.counting.isSome then { conn with pending := t.conn.pending } else conn }
  | .count q action => stepCount t q action

abbrev TasksReached (config : Config) (allowed : Tasks → TaskAction → Prop) (t : Tasks) : Prop :=
  Reach (stepTasks config) allowed Tasks.new t

/-- A drop leaves nothing of its call behind and no other call's entry touched. -/
def Tasks.Forgets (t after : Tasks) (c : CallId) (id : Id16) : Prop :=
  after.conn.pending.lookup id = none ∧
    ∀ id' other, other ≠ c → (after.conn.pending.lookup id' = some other ↔ t.conn.pending.lookup id' = some other)

/-- Nothing is filed under the id of the call, or its own entry is and nobody
holds the mutex of the map. -/
def Tasks.Removable (t : Tasks) (c : CallId) : Prop :=
  ∀ encoded, (t.conn.calls c).encoded = some encoded →
    t.conn.pending.lookup encoded.requestId = none ∨
      t.conn.pending.lookup encoded.requestId = some c ∧ t.conn.pendingLock = none ∧ t.counting = none

/-- A call is dropped only where its entry can be removed. -/
def DropsRemovable (t : Tasks) : TaskAction → Prop
  | .drop c => t.Removable c
  | _ => True

/-- A call whose entry may lie in the map under an id. -/
structure CallPc.Filed (pc : CallPc) (id : Id16) : Prop where
  fresh : pc.fresh = false
  encoded : ∀ encoded, pc.encoded = some encoded → encoded.requestId = id

/-- Entries belong to calls that have inserted them. -/
def State.Filed (s : State) : Prop := ∀ id c, s.pending.lookup id = some c → (s.calls c).Filed id

section Steps

variable {config : Config}

theorem CallStep.filed {s after : State} {c : CallId} {action : CallAction} {id : Id16}
    (taken : CallStep config s c action after) (filed : (s.calls c).Filed id) : (after.calls c).Filed id := by
  constructor
  · by_contra fresh
    rw [Bool.not_eq_false] at fresh
    have before := taken.fresh fresh
    rw [filed.fresh] at before
    cases before
  · intro encoded atEncoded
    rcases taken.encoded atEncoded with before | ⟨command, atStart, _⟩
    · exact filed.encoded encoded before
    · have fresh := filed.fresh
      rw [atStart] at fresh
      cases fresh

theorem State.Filed.step {s after : State} {action : Action} (filed : s.Filed) (taken : Step config s action after) :
    after.Filed := by
  intro id owner entry
  cases taken with
  | opening taken =>
    rw [taken.frame.pending] at entry
    rw [taken.frame.calls]
    exact filed id owner entry
  | network taken =>
    rw [taken.frame.pending] at entry
    rw [taken.frame.calls]
    exact filed id owner entry
  | closing taken =>
    rw [taken.frame.calls]
    exact filed id owner (taken.entry entry)
  | reader taken =>
    rw [taken.frame.calls]
    exact filed id owner (taken.entry entry)
  | @call c _ _ taken =>
    rcases taken.entry entry with before | ⟨encoded, _, now, rfl, rfl⟩
    · by_cases same : owner = c
      · subst same
        exact taken.filed (filed id owner before)
      · rw [(taken.frame.others owner same).1]
        exact filed id owner before
    · rw [now]
      exact ⟨rfl, fun _ same => by cases same; rfl⟩

/-- What a drop does: the call is gone, and its cleanup removes the entry only
if nobody holds the mutex. -/
theorem Tasks.drop_step {t after : Tasks} {c : CallId} (run : stepTasks config t (.drop c) = some after) :
    (t.conn.calls c).awaits = true ∧ after.conn.calls = Function.update t.conn.calls c .dropped ∧
      after.conn.pending = if t.counting.isSome then t.conn.pending else
        t.conn.cleanedPending (t.conn.calls c).cleanup := by
  obtain ⟨conn, inner, rfl⟩ := Option.map_eq_some_iff.mp run
  cases Step.of_run inner with
  | network taken => cases taken
  | call taken =>
    cases taken with
    | drop _ awaits => split <;> exact ⟨awaits, rfl, rfl⟩

theorem CallPc.fresh_of_awaits {pc : CallPc} (awaits : pc.awaits = true) (unarmed : pc.cleanup = none) :
    pc.fresh = true := by
  cases pc with
  | lockPending _ use =>
    cases use with
    | insert => rfl
    | remove => cases unarmed
  | lockWriter | writing | waiting => cases unarmed
  | _ => cases awaits

theorem CallPc.encoded_of_awaits {pc : CallPc} (awaits : pc.awaits = true) :
    ∃ encoded, pc.encoded = some encoded := by
  cases pc <;> first | exact ⟨_, rfl⟩ | cases awaits

theorem State.Filed.base {t after : Tasks} {action : Action} (filed : t.conn.Filed)
    (run : stepTasks config t (.base action) = some after) : after.conn.Filed := by
  obtain ⟨_, stepped⟩ := Option.ite_none_left_eq_some.mp run
  obtain ⟨conn, inner, rfl⟩ := Option.map_eq_some_iff.mp stepped
  exact filed.step (.of_run inner)

theorem State.Filed.tasks {t after : Tasks} {action : TaskAction} (filed : t.conn.Filed)
    (run : stepTasks config t action = some after) : after.conn.Filed := by
  cases action with
  | base action => exact filed.base run
  | giveBack c =>
    simp only [stepTasks] at run
    split at run <;> cases run
    rename_i encoded use _ atPc
    intro id owner entry
    have before := filed id owner entry
    by_cases same : owner = c
    · subst same
      rw [atPc] at before
      simp only [Function.update_self]
      cases use with
      | insert => cases before.fresh
      | remove exit => exact ⟨rfl, before.encoded⟩
    · simp only [Function.update_of_ne same]
      exact before
  | drop c =>
    obtain ⟨_, calls, pending⟩ := Tasks.drop_step run
    intro id owner entry
    have before : t.conn.pending.lookup id = some owner := by
      rw [pending] at entry
      split at entry
      · exact entry
      · exact State.entry_of_cleaned entry
    rw [calls, Function.update_apply]
    split
    · exact ⟨rfl, nofun⟩
    · exact filed id owner before
  | count q action =>
    cases action <;> simp only [stepTasks, stepCount] at run <;> split at run <;> cases run <;> exact filed

theorem Tasks.forgets_of_same {t after : Tasks} {c : CallId} {id : Id16}
    (same : after.conn.pending = t.conn.pending) : t.Forgets after c id ↔ t.conn.pending.lookup id = none := by
  unfold Tasks.Forgets
  rw [same]
  exact ⟨fun forgets => forgets.1, fun absent => ⟨absent, fun _ _ _ => Iff.rfl⟩⟩

theorem Tasks.forgets_of_erase {t after : Tasks} {c : CallId} {id : Id16}
    (erased : after.conn.pending = t.conn.pending.erase id) :
    t.Forgets after c id ↔ t.conn.pending.lookup id = none ∨ t.conn.pending.lookup id = some c := by
  unfold Tasks.Forgets
  rw [erased]
  constructor
  · rintro ⟨absent, others⟩
    cases entry : t.conn.pending.lookup id with
    | none => exact .inl rfl
    | some owner =>
      by_cases own : owner = c
      · exact .inr (by rw [own])
      · have kept := (others id owner own).mpr entry
        rw [absent] at kept
        cases kept
  · intro own
    refine ⟨AList.lookup_erase .., fun id' other apart => ⟨lookup_of_erase, fun entry => ?_⟩⟩
    have elsewhere : id' ≠ id := by
      rintro rfl
      rcases own with absent | mine
      · rw [absent] at entry
        cases entry
      · rw [mine] at entry
        exact apart (Option.some.inj entry).symm
    rw [AList.lookup_erase_ne elsewhere]
    exact entry

end Steps

theorem State.Filed.of_reach {config : Config} {allowed : Tasks → TaskAction → Prop} {t : Tasks}
    (reach : TasksReached config allowed t) : t.conn.Filed :=
  reach.invariant (motive := fun tasks => tasks.conn.Filed) (by intro id owner entry; cases entry)
    fun _ _ _ _ filed _ run => filed.tasks run

/-- A drop forgets its call exactly when the entry can be removed. -/
theorem Tasks.forgets_iff {config : Config} {t after : Tasks} {c : CallId} {encoded : EncodedCommand}
    (filed : t.conn.Filed) (run : stepTasks config t (.drop c) = some after)
    (atPc : (t.conn.calls c).encoded = some encoded) : t.Forgets after c encoded.requestId ↔ t.Removable c := by
  obtain ⟨awaits, _, pending⟩ := Tasks.drop_step run
  have removable : t.Removable c ↔ t.conn.pending.lookup encoded.requestId = none ∨
      t.conn.pending.lookup encoded.requestId = some c ∧ t.conn.pendingLock = none ∧ t.counting = none := by
    refine ⟨fun all => all encoded atPc, fun one other atOther => ?_⟩
    cases atPc.symm.trans atOther
    exact one
  rw [removable]
  by_cases held : t.counting = none ∧ t.conn.pendingLock = none
  · obtain ⟨uncounted, unlocked⟩ := held
    rw [uncounted] at pending
    cases armed : (t.conn.calls c).cleanup with
    | none =>
      rw [armed] at pending
      rw [Tasks.forgets_of_same pending]
      refine ⟨.inl, ?_⟩
      rintro (absent | ⟨mine, _⟩)
      · exact absent
      have fresh := (filed _ _ mine).fresh
      rw [CallPc.fresh_of_awaits awaits armed] at fresh
      cases fresh
    | some id =>
      obtain ⟨armedFor, atArmed, rfl⟩ := CallPc.encoded_of_cleanup armed
      cases atPc.symm.trans atArmed
      rw [armed] at pending
      simp only [State.cleanedPending, unlocked] at pending
      rw [Tasks.forgets_of_erase pending]
      simp only [unlocked, uncounted, and_self, and_true]
  · have same : after.conn.pending = t.conn.pending := by
      rw [pending]
      split
      · rfl
      · rename_i uncounted
        have locked : t.conn.pendingLock.isSome = true := by
          rw [Option.isSome_iff_ne_none]
          intro unlocked
          exact held ⟨by simpa using uncounted, unlocked⟩
        unfold State.cleanedPending
        split
        · rfl
        · rw [if_pos locked]
    rw [Tasks.forgets_of_same same]
    refine ⟨.inl, ?_⟩
    rintro (absent | ⟨_, unlocked, uncounted⟩)
    · exact absent
    · exact absurd ⟨uncounted, unlocked⟩ held

/-- No dropped call has an entry in the map. -/
def State.Swept (s : State) : Prop := ∀ c, s.calls c = .dropped → ∀ id, s.pending.lookup id ≠ some c

theorem CallStep.dropped {config : Config} {s after : State} {c : CallId} {action : CallAction}
    (taken : CallStep config s c action after) (dropped : after.calls c = .dropped) : action = .drop := by
  cases taken with
  | drop => rfl
  | enter =>
    simp only [Function.update_self, enterPc] at dropped
    repeat' split at dropped
    all_goals cases dropped
  | @remove _ exit =>
    simp only [Function.update_self] at dropped
    cases exit <;> cases dropped
  | start | lockPending | insert | lockWriter | noWriter | foundWriter | write | writeFails | writeDone | unlockWriter
  | receive | timeout | disconnected =>
    simp only [Function.update_self] at dropped
    cases dropped

theorem State.Swept.step {config : Config} {s after : State} {action : Action} (swept : s.Swept)
    (kept : action.drops ≠ true) (taken : Step config s action after) : after.Swept := by
  intro owner dropped id entry
  cases taken with
  | opening taken =>
    rw [taken.frame.calls] at dropped
    rw [taken.frame.pending] at entry
    exact swept owner dropped id entry
  | network taken =>
    rw [taken.frame.calls] at dropped
    rw [taken.frame.pending] at entry
    exact swept owner dropped id entry
  | closing taken =>
    rw [taken.frame.calls] at dropped
    exact swept owner dropped id (taken.entry entry)
  | reader taken =>
    rw [taken.frame.calls] at dropped
    exact swept owner dropped id (taken.entry entry)
  | @call c _ _ taken =>
    by_cases same : owner = c
    · subst same
      obtain rfl := taken.dropped dropped
      exact kept rfl
    · rw [(taken.frame.others owner same).1] at dropped
      rcases taken.entry entry with before | ⟨_, _, _, _, own⟩
      · exact swept owner dropped id before
      · exact same own

theorem State.Swept.tasks {config : Config} {t after : Tasks} {action : TaskAction} (swept : t.conn.Swept)
    (filed : t.conn.Filed) (meets : DropsRemovable t action) (run : stepTasks config t action = some after) :
    after.conn.Swept := by
  cases action with
  | base action =>
    obtain ⟨free, stepped⟩ := Option.ite_none_left_eq_some.mp run
    obtain ⟨conn, inner, rfl⟩ := Option.map_eq_some_iff.mp stepped
    exact swept.step (fun drops => free (.inl drops)) (.of_run inner)
  | giveBack c =>
    simp only [stepTasks] at run
    split at run <;> cases run
    intro owner dropped id entry
    by_cases same : owner = c
    · subst same
      simp only [Function.update_self] at dropped
      cases dropped
    · simp only [Function.update_of_ne same] at dropped
      exact swept owner dropped id entry
  | drop c =>
    obtain ⟨awaits, calls, pending⟩ := Tasks.drop_step run
    intro owner dropped id entry
    have before : t.conn.pending.lookup id = some owner := by
      rw [pending] at entry
      split at entry
      · exact entry
      · exact State.entry_of_cleaned entry
    by_cases same : owner = c
    · subst same
      obtain ⟨encoded, atPc⟩ := CallPc.encoded_of_awaits awaits
      have own := (filed id owner before).encoded encoded atPc
      have gone := ((Tasks.forgets_iff filed run atPc).mpr meets).1
      rw [own, entry] at gone
      cases gone
    · rw [calls, Function.update_of_ne same] at dropped
      exact swept owner dropped id before
  | count q action =>
    cases action <;> simp only [stepTasks, stepCount] at run <;> split at run <;> cases run <;> exact swept

/-- In every run each drop forgets its call exactly when the entry can be
removed, and where all drops can, no dropped call ever has an entry. -/
theorem forgotten_of_removable {config : Config} {t : Tasks} :
    (TasksReached config DropsRemovable t → ∀ c, t.conn.calls c = .dropped → ∀ id, t.conn.pending.lookup id ≠ some c) ∧
      (TasksReached config Always t → ∀ c after encoded, stepTasks config t (.drop c) = some after →
        (t.conn.calls c).encoded = some encoded → (t.Forgets after c encoded.requestId ↔ t.Removable c)) := by
  constructor
  · intro reach
    exact reach.invariant (motive := fun tasks => tasks.conn.Swept) nofun fun _ _ _ previous swept meets run =>
      swept.tasks (.of_reach previous) meets run
  · intro reach c after encoded run atPc
    exact Tasks.forgets_iff (.of_reach reach) run atPc

/-- A ping that waits for its answer. -/
def waitingPing : List TaskAction :=
  (openActions 0 0 ++ registerActions 0 ⟨Block.ofNatLE 16 7⟩ ++ writeActions 0).map .base

/-- A call that can be dropped, with its entry in the map. -/
def Tasks.entered (config : Config) (t : Tasks) (c : CallId) : Bool :=
  (stepTasks config t (.drop c)).isSome &&
    (t.conn.calls c).encoded.any fun encoded => t.conn.pending.lookup encoded.requestId = some c

theorem Tasks.entered_cases {config : Config} {t : Tasks} {c : CallId} (entered : t.entered config c = true) :
    ∃ after encoded, stepTasks config t (.drop c) = some after ∧ (t.conn.calls c).encoded = some encoded ∧
      t.conn.pending.lookup encoded.requestId = some c := by
  obtain ⟨dropped, entry⟩ := Bool.and_eq_true_iff.mp entered
  obtain ⟨after, run⟩ := Option.isSome_iff_exists.mp dropped
  obtain ⟨encoded, atPc, filed⟩ := (Option.any_eq_true ..).mp entry
  exact ⟨after, encoded, run, atPc, of_decide_eq_true filed⟩

/-- A call that is dropped while a `pending_len` holds the mutex leaves its entry. -/
theorem countedPing_not_forgotten :
    ¬ ∀ config t, TasksReached config Always t → ∀ c after encoded, stepTasks config t (.drop c) = some after →
      (t.conn.calls c).encoded = some encoded → t.Forgets after c encoded.requestId := by
  intro claim
  have executed : (run (stepTasks ⟨.aio, ""⟩) Tasks.new (waitingPing ++ [.count 0 .start, .count 0 .lockPending])).any
      (fun t => t.entered ⟨.aio, ""⟩ 0 ∧ t.counting.isSome = true) = true := by decide
  obtain ⟨t, reach, found⟩ := Reach.exists_of_run (runAllowed_always ..) executed
  obtain ⟨entered, counted⟩ := of_decide_eq_true found
  obtain ⟨after, encoded, run, atPc, entry⟩ := Tasks.entered_cases entered
  have forgets := claim _ t reach 0 after encoded run atPc
  rcases (Tasks.forgets_iff (.of_reach reach) run atPc).mp forgets encoded atPc with absent | ⟨_, _, uncounted⟩
  · rw [absent] at entry
    cases entry
  · rw [uncounted] at counted
    cases counted

/-- A call that is dropped while nobody holds the mutex is forgotten. -/
theorem forgotten_waitingPing : ∃ t after, ∃ encoded : EncodedCommand, stepTasks ⟨.aio, ""⟩ t (.drop 0) = some after ∧
    t.conn.pending.lookup encoded.requestId = some 0 ∧ t.Forgets after 0 encoded.requestId := by
  have executed : (run (stepTasks ⟨.aio, ""⟩) Tasks.new waitingPing).any
      (fun t => t.entered ⟨.aio, ""⟩ 0 ∧ t.conn.pendingLock = none ∧ t.counting = none) = true := by decide
  obtain ⟨t, reach, found⟩ := Reach.exists_of_run (runAllowed_always ..) executed
  obtain ⟨entered, unlocked, uncounted⟩ := of_decide_eq_true found
  obtain ⟨after, encoded, run, atPc, entry⟩ := Tasks.entered_cases entered
  refine ⟨t, after, encoded, run, entry, (forgotten_of_removable.2 reach 0 after encoded run atPc).mpr ?_⟩
  intro other atOther
  cases atPc.symm.trans atOther
  exact .inr ⟨entry, unlocked, uncounted⟩

end Ruslock.Connection
