import Mathlib.Algebra.Order.BigOperators.Group.List
import Mathlib.Algebra.Order.Floor.Div
import Ruslock.RetryDeadline
import Ruslock.RetryOutcome

namespace Ruslock.Replset
open Transition Wire

variable {n : Nat}

/-- Since the making of a command the time of so many rounds has passed, or its deadline. -/
def Due (createdAt deadline : Instant) (rounds : Nat) (now : Instant) : Prop :=
  deadline ≤ now ∨ createdAt + rounds * replsetRetryInterval ≤ now

/-- When its last round came to its end, a command was before its deadline. -/
def Followed (createdAt deadline : Instant) (rounds : Nat) : Prop :=
  ∀ k, rounds = k + 1 → createdAt + k * replsetRetryInterval < deadline

/-- How a loop goes with the clock, after so many rounds. -/
def SendPc.Paced (createdAt deadline now : Instant) (rounds : Nat) : SendPc n → Prop
  | .idle => False
  | .start _ => False
  | .push _ => Followed createdAt deadline rounds ∧ Due createdAt deadline rounds now
  | .readActive _ _ => Followed createdAt deadline rounds ∧ Due createdAt deadline rounds now
  | .woken _ _ => Followed createdAt deadline rounds ∧ Due createdAt deadline rounds now
  | .sleeping _ _ wakeAt => Followed createdAt deadline rounds ∧ Due createdAt deadline rounds wakeAt
  | .retry _ _ => ∃ k, rounds = k + 1 ∧ createdAt + k * replsetRetryInterval < deadline ∧
      createdAt + k * replsetRetryInterval ≤ now
  | .sleep _ _ => ∃ k, rounds = k + 1 ∧ createdAt + k * replsetRetryInterval < deadline ∧
      createdAt + k * replsetRetryInterval ≤ now
  | .setActive _ _ _ => True
  | .remove _ _ => True
  | .returned _ => True
  | _ => ∃ k, rounds = k + 1 ∧ Due createdAt deadline k now

section Clock

variable {createdAt deadline now later : Instant} {rounds : Nat}

theorem Due.mono (due : Due createdAt deadline rounds now) (past : now ≤ later) : Due createdAt deadline rounds later :=
  due.imp past.trans' past.trans'

theorem SendPc.Paced.mono {pc : SendPc n} (paced : pc.Paced createdAt deadline now rounds) (past : now ≤ later) :
    pc.Paced createdAt deadline later rounds := by
  cases pc with
  | idle | start | sleeping | setActive | remove | returned => exact paced
  | push | readActive | woken => exact ⟨paced.1, paced.2.mono past⟩
  | retry | sleep =>
    obtain ⟨k, same, before, reached⟩ := paced
    exact ⟨k, same, before, reached.trans past⟩
  | attempt | opening | connected | sending | failed | closing | redirect =>
    obtain ⟨k, same, due⟩ := paced
    exact ⟨k, same, due.mono past⟩

/-- A loop that begins to sleep wakes one interval later, or at its deadline. -/
theorem Due.of_sleep {k : Nat} (reached : createdAt + k * replsetRetryInterval ≤ now) :
    Due createdAt deadline (k + 1) (now + min (deadline - now) replsetRetryInterval) := by
  unfold Due
  rcases Nat.le_total (deadline - now) replsetRetryInterval with short | long
  · rw [Nat.min_eq_left short]
    exact .inl le_add_tsub
  · rw [Nat.min_eq_right long, Nat.succ_mul, ← Nat.add_assoc]
    exact .inr (Nat.add_le_add_right reached _)

theorem endRoundPc_paced {round : Round} {k : Nat} (atDeadline : round.pending.deadline = deadline)
    (due : Due createdAt deadline k now) : (endRoundPc now round : SendPc n).Paced createdAt deadline now (k + 1) := by
  unfold endRoundPc
  split
  · trivial
  · split
    · trivial
    · rename_i early
      rw [atDeadline] at early
      have reached : createdAt + k * replsetRetryInterval ≤ now := due.resolve_left early
      exact ⟨k, rfl, Nat.lt_of_le_of_lt reached (Nat.lt_of_not_le early), reached⟩

end Clock

/-- The rounds that a statement begins. -/
def SendAction.begins : SendAction → Nat
  | .readActive => 1
  | _ => 0

section Steps

variable {config : Config n} {s after : State n} {d : SendId} {action : SendAction} {createdAt deadline : Instant}
  {rounds : Nat}

theorem SendStep.now (taken : SendStep config s d action after) : after.now = s.now := by
  cases taken <;> rfl

/-- The statements of the loop keep its pace. -/
theorem SendStep.paced (taken : SendStep config s d action after)
    (trying : ∀ round, (s.sends d).loop = .trying round → round.pending.deadline = deadline)
    (waiting : ∀ pending, (s.sends d).loop = .waiting pending → pending.deadline = deadline)
    (paced : (s.sends d).Paced createdAt deadline s.now rounds) :
    (after.sends d).Paced createdAt deadline s.now (rounds + action.begins) := by
  cases taken with
  | start atPc | enter atPc =>
    rw [atPc] at paced
    cases paced
  | readActive atPc =>
    rw [atPc] at paced
    simp only [State.moveSend, Function.update_self]
    exact ⟨rounds, rfl, paced.2⟩
  | @opened _ _ _ outcome atPc =>
    rw [atPc] at paced
    simp only [State.moveSend, Function.update_self]
    cases outcome <;> exact paced
  | answered atPc =>
    rw [atPc] at paced
    simp only [State.moveSend, Function.update_self, answeredPc]
    split <;> split
    · exact paced
    · trivial
    · exact paced
    · trivial
  | endRound atPc =>
    rw [atPc] at paced
    obtain ⟨k, rfl, due⟩ := paced
    simp only [State.moveSend, Function.update_self]
    exact endRoundPc_paced (trying _ (by rw [atPc]; rfl)) due
  | @sleep pending lastError atPc =>
    rw [atPc] at paced
    obtain ⟨k, rfl, before, reached⟩ := paced
    simp only [State.moveSend, Function.update_self]
    rw [waiting pending (by rw [atPc]; rfl)]
    refine ⟨fun k' same => ?_, .of_sleep reached⟩
    cases same
    exact before
  | wake atPc awake =>
    rw [atPc] at paced
    simp only [State.moveSend, Function.update_self]
    exact ⟨paced.1, paced.2.mono awake⟩
  | setActive | remove =>
    simp only [State.moveSend, Function.update_self]
    trivial
  | push atPc | startOpen _ atPc | startSend atPc | startClose atPc | closed atPc | redirect atPc | retry atPc
  | woken atPc =>
    rw [atPc] at paced
    simp only [State.moveSend, State.updateRetryType, Function.update_self]
    exact paced

/-- A round is begun before the deadline of the round in front of it. -/
theorem SendStep.followed (taken : SendStep config s d action after)
    (paced : (s.sends d).Paced createdAt deadline s.now rounds) (begins : action.begins = 1) :
    Followed createdAt deadline rounds := by
  cases taken with
  | readActive atPc =>
    rw [atPc] at paced
    exact paced.1
  | _ => cases begins

end Steps

section History

variable {config : Config n} {s after : State n} {d : SendId} {log : SendLog n}

/-- The rounds that an event begins. -/
def LoopEvent.begins : LoopEvent n → Nat
  | .begun _ => 1
  | _ => 0

/-- The attempts that an event begins. -/
def LoopEvent.contacts : LoopEvent n → Nat
  | .contacted _ => 1
  | _ => 0

theorem SendLog.length_record (log : SendLog n) (now : Instant) (event : LoopEvent n) :
    (log.record now event).rounds.length = log.rounds.length + event.begins := by
  cases event <;> simp only [SendLog.record, recordRounds, LoopEvent.begins, List.length_modifyHead, List.length_cons,
    Nat.add_zero]

theorem length_attempts_onAttempt (round : RoundLog n) (change : Attempt n → Attempt n) :
    (round.onAttempt change).attempts.length = round.attempts.length := List.length_modifyHead ..

/-- An event that begins an attempt adds it to the newest round. -/
theorem SendLog.length_attempts_record (log : SendLog n) (now : Instant) (event : LoopEvent n)
    (running : event.contacts = 1 → log.rounds ≠ []) :
    (log.record now event).attempts.length = log.attempts.length + event.contacts := by
  obtain ⟨created, rounds⟩ := log
  cases event with
  | created => rfl
  | begun => simp only [SendLog.record, recordRounds, SendLog.attempts, List.flatMap_cons, List.nil_append,
      LoopEvent.contacts, Nat.add_zero]
  | contacted | sent | behaved | ended =>
    cases rounds with
    | nil => first | rfl | exact absurd rfl (running rfl)
    | cons round earlier =>
      simp only [SendLog.record, recordRounds, SendLog.attempts, List.modifyHead_cons, List.flatMap_cons,
        List.length_append, List.length_cons, length_attempts_onAttempt, LoopEvent.contacts, Nat.add_zero,
        Nat.add_right_comm]

theorem loopEvent_begins (action : SendAction) :
    ((loopEvent config s d action).elim 0 LoopEvent.begins) = action.begins := by
  cases action <;> simp only [loopEvent]
  all_goals first | rfl | (repeat' split) <;> rfl

theorem recordSend_rounds (action : SendAction) :
    ((loopEvent config s d action).elim log (log.record s.now)).rounds.length = log.rounds.length + action.begins := by
  rw [← @loopEvent_begins n config s d action]
  cases loopEvent config s d action with
  | none => rfl
  | some event => exact log.length_record s.now event

theorem SendLog.created_eq_some {event : Option (LoopEvent n)} {now createdAt : Instant} {original : PendingCommand}
    (created : (event.elim log (log.record now)).created = some (createdAt, original)) :
    log.created = some (createdAt, original) ∨ event = some (.created original) ∧ createdAt = now := by
  cases event with
  | none => exact .inl created
  | some event =>
    cases event with
    | created =>
      cases created
      exact .inr ⟨rfl, rfl⟩
    | begun | contacted | sent | behaved | ended => exact .inl created

/-- A command is made before the first round. -/
theorem SendStep.creates {action : SendAction} {original : PendingCommand} (taken : SendStep config s d action after)
    (created : loopEvent config s d action = some (.created original)) :
    (s.sends d).loop = .outside ∧ after.sends d = .push original := by
  cases taken with
  | enter atPc =>
    simp only [loopEvent, atPc] at created
    split at created
    · cases created
    · rename_i positive
      split at created <;> cases created
      rename_i made
      refine ⟨by rw [atPc]; rfl, ?_⟩
      simp only [State.moveSend, Function.update_self, enterPc, if_neg positive, made]
  | _ =>
    simp only [loopEvent] at created
    repeat' split at created
    all_goals cases created

/-- The nodes that a loop has contacted and not yet called. -/
def SendPc.unsent : SendPc n → Nat
  | .opening _ _ _ => 1
  | .connected _ _ => 1
  | _ => 0

/-- A loop calls only nodes that it has contacted. -/
theorem SendStep.tried {action : SendAction} (taken : SendStep config s d action after) :
    (after.attempts d).length + (after.sends d).unsent ≤
      (s.attempts d).length + (s.sends d).unsent + (loopEvent config s d action).elim 0 LoopEvent.contacts := by
  cases taken with
  | startOpen within atPc =>
    simp only [State.moveSend, Function.update_self, loopEvent, atPc, dif_pos within]
    exact Nat.le_refl _
  | @opened _ _ _ outcome atPc returned =>
    simp only [State.moveSend, Function.update_self, loopEvent, atPc, returned]
    cases outcome with
    | ok => exact Nat.le_refl _
    | error => exact Nat.le_succ _
  | startSend atPc =>
    simp only [State.moveSend, Function.update_self, loopEvent, atPc, List.length_append, List.length_singleton]
    exact Nat.le_add_right _ _
  | enter =>
    simp only [State.moveSend, Function.update_self, enterPc]
    repeat' split
    all_goals exact (Nat.le_add_right _ _).trans (Nat.le_add_right _ _)
  | answered =>
    simp only [State.moveSend, Function.update_self, answeredPc]
    repeat' split
    all_goals exact (Nat.le_add_right _ _).trans (Nat.le_add_right _ _)
  | endRound =>
    simp only [State.moveSend, Function.update_self, endRoundPc]
    repeat' split
    all_goals exact (Nat.le_add_right _ _).trans (Nat.le_add_right _ _)
  | _ =>
    simp only [State.moveSend, State.updateRetryType, Function.update_self]
    exact (Nat.le_add_right _ _).trans (Nat.le_add_right _ _)

theorem Retried.deadline {original : PendingCommand} {loop : Loop n} {rounds : List (RoundLog n)}
    (retried : Retried original loop rounds) :
    (∀ round, loop = .trying round → round.pending.deadline = original.deadline) ∧
      ∀ pending, loop = .waiting pending → pending.deadline = original.deadline := by
  cases retried with
  | waiting _ deadline =>
    constructor <;> intro _ same <;> cases same
    exact deadline
  | trying _ tells =>
    constructor <;> intro _ same <;> cases same
    exact tells.deadline
  | contacting | settling | decided | spent => constructor <;> intro _ same <;> cases same

/-- A round has room for every node once. -/
theorem Retried.room {original : PendingCommand} {loop : Loop n} {rounds : List (RoundLog n)}
    (retried : Retried original loop rounds) : ∀ round ∈ rounds, round.attempts.length ≤ n := by
  cases retried with
  | waiting _ _ repeated => exact fun round member => (repeated round member).full.le
  | trying repeated tells =>
    exact List.forall_mem_cons.mpr ⟨tells.within, fun round member => (repeated round member).full.le⟩
  | contacting repeated _ room =>
    exact List.forall_mem_cons.mpr ⟨room, fun round member => (repeated round member).full.le⟩
  | settling repeated decided | decided repeated decided =>
    exact List.forall_mem_cons.mpr ⟨decided.within, fun round member => (repeated round member).full.le⟩
  | spent repeated spent =>
    exact List.forall_mem_cons.mpr ⟨spent.full.le, fun round member => (repeated round member).full.le⟩

theorem SendLog.length_attempts_le (room : ∀ round ∈ log.rounds, round.attempts.length ≤ n) :
    log.attempts.length ≤ n * log.rounds.length := by
  rw [SendLog.attempts, List.length_flatMap, Nat.mul_comm, ← List.length_map fun round : RoundLog n => round.attempts.length]
  exact List.sum_le_card_nsmul _ _ (List.forall_mem_map.mpr room)

end History

section Runs

variable {config : Config n} {s after : State n} {d : SendId} {log : SendLog n}

/-- How many rounds a loop has begun by now, and how many calls it has made in them. -/
structure Spaced (s : State n) (d : SendId) (log : SendLog n) : Prop where
  paced : ∀ createdAt original, log.created = some (createdAt, original) →
    (s.sends d).Paced createdAt original.deadline s.now log.rounds.length
  followed : ∀ createdAt original, log.created = some (createdAt, original) →
    Followed createdAt original.deadline (log.rounds.length - 1)
  tried : (s.attempts d).length + (s.sends d).unsent ≤ log.attempts.length

theorem Tracked.retried (tracked : Tracked config s d log) {createdAt : Instant} {original : PendingCommand}
    (created : log.created = some (createdAt, original)) : Retried original (s.sends d).loop log.rounds := by
  cases tracked with
  | outside | rejected => cases created
  | created _ _ retried =>
    cases created
    exact retried

/-- Only a loop that goes round contacts a node, and it has begun a round for that. -/
theorem Tracked.running (tracked : Tracked config s d log) {action : SendAction} {event : LoopEvent n}
    (taken : SendStep config s d action after) (atEvent : loopEvent config s d action = some event)
    (contacts : event.contacts = 1) : log.rounds ≠ [] := by
  have move := taken.loopMove
  rw [atEvent] at move
  generalize atLoop : (s.sends d).loop = loop at move
  generalize (after.sends d).loop = loop' at move
  generalize after.activeIndex = active at move
  cases move with
  | contact =>
    cases tracked with
    | outside before | rejected before => cases atLoop.symm.trans before
    | created _ _ retried =>
      rw [atLoop] at retried
      cases retried with
      | trying => exact List.cons_ne_nil _ _
  | create | begin | send | unopened | answered | finish => cases contacts

theorem Tracked.rounds_eq_nil (tracked : Tracked config s d log) (outside : (s.sends d).loop = .outside) :
    log.rounds = [] := by
  cases tracked with
  | outside | rejected => rfl
  | created _ _ retried =>
    rw [outside] at retried
    cases retried

/-- A command that was just made has its first round before it. -/
theorem paced_created (createdAt deadline : Instant) :
    Followed createdAt deadline 0 ∧ Due createdAt deadline 0 createdAt := by
  refine ⟨fun k same => absurd same (Nat.succ_ne_zero k).symm, .inr ?_⟩
  rw [Nat.zero_mul, Nat.add_zero]

theorem SendAction.begins_eq (action : SendAction) : action.begins = 0 ∨ action.begins = 1 := by
  cases action with
  | readActive => exact .inr rfl
  | _ => exact .inl rfl

theorem Spaced.sendStep {action : SendAction} (spaced : Spaced s d log) (tracked : Tracked config s d log)
    (taken : SendStep config s d action after) :
    Spaced after d ((loopEvent config s d action).elim log (log.record s.now)) := by
  have fresh : ∀ original, loopEvent config s d action = some (.created original) →
      log.rounds.length + action.begins = 0 := by
    intro original atEvent
    have begins := @loopEvent_begins n config s d action
    rw [atEvent] at begins
    rw [tracked.rounds_eq_nil (taken.creates atEvent).1, ← begins]
    rfl
  refine ⟨?_, ?_, ?_⟩
  · intro createdAt original created
    rw [recordSend_rounds, taken.now]
    rcases SendLog.created_eq_some created with before | ⟨atEvent, rfl⟩
    · have deadline := (tracked.retried before).deadline
      exact taken.paced deadline.1 deadline.2 (spaced.paced createdAt original before)
    · rw [(taken.creates atEvent).2, fresh original atEvent]
      exact paced_created s.now original.deadline
  · intro createdAt original created
    rw [recordSend_rounds]
    rcases SendLog.created_eq_some created with before | ⟨atEvent, rfl⟩
    · rcases action.begins_eq with stays | begins
      · rw [stays]
        exact spaced.followed createdAt original before
      · rw [begins]
        exact taken.followed (spaced.paced createdAt original before) begins
    · rw [fresh original atEvent]
      exact (paced_created s.now original.deadline).1
  · have tried := taken.tried
    have counted : ((loopEvent config s d action).elim log (log.record s.now)).attempts.length =
        log.attempts.length + (loopEvent config s d action).elim 0 LoopEvent.contacts := by
      cases atEvent : loopEvent config s d action with
      | none => rfl
      | some event => exact log.length_attempts_record s.now event (tracked.running taken atEvent)
    rw [counted]
    exact tried.trans (Nat.add_le_add_right spaced.tried _)

theorem Spaced.step {action : Action n} (spaced : Spaced s d log) (tracked : Tracked config s d log)
    (taken : Step config s action after) : Spaced after d (recordSend config d s action after log) := by
  rcases taken.watched d log with ⟨action', rfl, sent, recorded⟩ | ⟨sends, _, tried, same⟩
  · rw [recorded]
    exact spaced.sendStep tracked sent
  · rw [same]
    refine ⟨fun createdAt original created => ?_, spaced.followed, ?_⟩
    · rw [sends]
      exact (spaced.paced createdAt original created).mono taken.now
    · rw [sends, tried]
      exact spaced.tried

theorem Spaced.of_reach {allowed : State n → Action n → Prop} (reach : SendReached config d allowed (State.new n) s log) :
    Spaced s d log := by
  have base : Spaced (State.new n) d ⟨none, []⟩ := ⟨nofun, nofun, Nat.le_refl _⟩
  refine Reach.invariant reach (motive := fun watched => Spaced watched.1 d watched.2) base ?_
  intro before action after previous spaced _ run
  obtain ⟨stepped, recorded⟩ := watch_eq_some run
  rw [recorded]
  exact spaced.step (.of_reach rfl previous) (.of_run stepped)

/-- A command that may wait so long goes round the nodes at most once for each
retry interval of it, and once more; so many calls are made for it at most. -/
theorem rounds_le (reach : SendReached config d Always (State.new n) s log) {createdAt : Instant}
    {original : PendingCommand} (created : log.created = some (createdAt, original)) :
    ∃ wait, responseWait config original.command = .ok wait ∧
      log.rounds.length ≤ wait ⌈/⌉ replsetRetryInterval + 1 ∧
      (s.attempts d).length ≤ n * (wait ⌈/⌉ replsetRetryInterval + 1) := by
  have tracked := Tracked.of_reach rfl reach
  have spaced := Spaced.of_reach reach
  obtain ⟨wait, waits, deadline⟩ : ∃ wait, responseWait config original.command = .ok wait ∧
      original.deadline = createdAt + wait := by
    cases tracked with
    | outside | rejected => cases created
    | created _ made =>
      cases created
      exact PendingCommand.new_deadline made
  have positive : 0 < replsetRetryInterval := by decide
  have bound : log.rounds.length ≤ wait ⌈/⌉ replsetRetryInterval + 1 := by
    have followed := spaced.followed createdAt original created
    rw [deadline] at followed
    rcases Nat.lt_or_ge log.rounds.length 2 with few | many
    · exact (Nat.lt_succ_iff.mp few).trans (Nat.le_add_left ..)
    · obtain ⟨k, same⟩ := Nat.exists_eq_add_of_le' many
      have before := Nat.lt_of_add_lt_add_left (followed k (by rw [same]; rfl))
      have within : k < wait ⌈/⌉ replsetRetryInterval := by
        rw [← Nat.not_le, ceilDiv_le_iff_le_mul positive, Nat.mul_comm, Nat.not_le]
        exact before
      omega
  refine ⟨wait, waits, bound, ?_⟩
  have tried := (Nat.le_add_right _ _).trans spaced.tried
  exact tried.trans ((SendLog.length_attempts_le (tracked.retried created).room).trans (Nat.mul_le_mul_left n bound))

end Runs

/-- No node can be reached, and after a pause the loop goes round again. -/
def missedTwice : List (Action 2) :=
  bothMissed ++ [.send 0 .retry, .send 0 .sleep, .tick replsetRetryInterval, .send 0 .wake, .send 0 .woken,
    .send 0 .readActive]

theorem rounds_le_missedTwice : ∃ (log : SendLog 2) (wait : Duration), log.rounds.length = 2 ∧
    log.rounds.length ≤ wait ⌈/⌉ replsetRetryInterval + 1 := by
  have executed : (run (watch (step pair) (recordSend pair 0)) (State.new 2, ⟨none, []⟩) missedTwice).any
      (fun watched => watched.2.created.isSome && decide (watched.2.rounds.length = 2)) = true := by decide
  obtain ⟨⟨s, log⟩, reach, found⟩ := Reach.exists_of_run (runAllowed_always ..) executed
  obtain ⟨created, twice⟩ := (Bool.and_eq_true ..).mp found
  obtain ⟨⟨createdAt, original⟩, created⟩ := Option.isSome_iff_exists.mp created
  obtain ⟨wait, _, bound, _⟩ := rounds_le reach created
  exact ⟨log, wait, of_decide_eq_true twice, bound⟩

end Ruslock.Replset
