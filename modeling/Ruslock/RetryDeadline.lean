import Ruslock.RetryOrder

namespace Ruslock.Replset
open Transition Wire

variable {n : Nat}

/-- A command is retried until its deadline: only then a state error is
returned, and a round that ends before is followed by another. -/
structure RetriesUntil (deadline : Instant) (s : State n) (d : SendId) (log : SendLog n) : Prop where
  returned : ∀ result, s.sends d = .returned (.ok result) → lockStateError result = true → deadline ≤ s.now
  repeated : ∀ round endedAt, log.rounds.head? = some round → round.endedAt = some endedAt → endedAt < deadline →
    ∃ pending, (s.sends d).loop = .waiting pending

/-- The attempts of a command with the newest first. -/
def SendLog.attempts (log : SendLog n) : List (Attempt n) := log.rounds.flatMap RoundLog.attempts

/-- The attempts after the first one. -/
def SendLog.retries (log : SendLog n) : List (Attempt n) := log.attempts.dropLast

/-- An attempt starts before the deadline, and its call waits no longer than
until then. -/
structure Attempt.InTime (deadline : Instant) (attempt : Attempt n) : Prop where
  started : attempt.startedAt < deadline
  sent : ∀ sentAt wait, attempt.sent = some (sentAt, wait) → sentAt + wait ≤ deadline

/-- A step that a loop takes by itself, or the passing of time. -/
def Action.ownOrTick (d : SendId) : Action n → Prop
  | .send moved _ => moved = d
  | .tick _ => True
  | _ => False

/-- Nothing but time keeps a loop from its next round. -/
inductive NextRound (config : Config n) (d : SendId) : State n → Prop
  | here {s round} : s.sends d = .attempt round → round.offset = 0 → NextRound config d s
  | behind {s action after} : action.ownOrTick d → step config s action = some after → NextRound config d after →
      NextRound config d s

section Waiting

variable {config : Config n} {s : State n} {d : SendId} {pending : PendingCommand} {lastError : Option SlockError}

theorem NextRound.of_send (action : SendAction) {after : State n} (run : stepSend config s d action = some after)
    (next : NextRound config d after) : NextRound config d s :=
  .behind (show (Action.send d action).ownOrTick d from rfl) run next

theorem NextRound.of_readActive (atPc : s.sends d = .readActive pending lastError) : NextRound config d s := by
  exact .of_send .readActive (by simp only [stepSend, atPc]; rfl) (.here (Function.update_self ..) rfl)

theorem NextRound.of_push (atPc : s.sends d = .push pending) : NextRound config d s := by
  exact .of_send .push (by simp only [stepSend, atPc]; rfl) (.of_readActive (Function.update_self ..))

theorem NextRound.of_woken (atPc : s.sends d = .woken pending lastError) : NextRound config d s := by
  exact .of_send .woken (by simp only [stepSend, atPc]; rfl) (.of_readActive (Function.update_self ..))

theorem NextRound.of_sleeping {wakeAt : Instant} (atPc : s.sends d = .sleeping pending lastError wakeAt) :
    NextRound config d s := by
  refine .behind (show (Action.tick (wakeAt - s.now)).ownOrTick d from trivial) rfl ?_
  have passed : wakeAt ≤ s.now + (wakeAt - s.now) := le_add_tsub
  exact .of_send .wake (by simp only [stepSend, atPc, if_pos passed]; rfl) (.of_woken (Function.update_self ..))

theorem NextRound.of_sleep (atPc : s.sends d = .sleep pending lastError) : NextRound config d s := by
  exact .of_send .sleep (by simp only [stepSend, atPc]; rfl) (.of_sleeping (Function.update_self ..))

theorem NextRound.of_retry (atPc : s.sends d = .retry pending lastError) : NextRound config d s := by
  exact .of_send .retry (by simp only [stepSend, atPc]; rfl) (.of_sleep (Function.update_self ..))

/-- A loop that waits comes to its next round. -/
theorem NextRound.of_waiting (waiting : (s.sends d).loop = .waiting pending) : NextRound config d s := by
  cases atPc : s.sends d with
  | push => exact .of_push atPc
  | readActive => exact .of_readActive atPc
  | retry => exact .of_retry atPc
  | sleep => exact .of_sleep atPc
  | sleeping => exact .of_sleeping atPc
  | woken => exact .of_woken atPc
  | idle | start | attempt | opening | connected | sending | failed | closing | redirect | setActive | remove
  | returned =>
    rw [atPc] at waiting
    cases waiting

end Waiting

section Ends

variable {config : Config n} {s : State n} {d : SendId} {log : SendLog n}

/-- A round has not ended later than now. -/
def SendLog.Past (log : SendLog n) (now : Instant) : Prop :=
  ∀ round ∈ log.rounds, ∀ endedAt, round.endedAt = some endedAt → endedAt ≤ now

theorem SendLog.Past.record {now : Instant} (past : log.Past now) (event : LoopEvent n) :
    (log.record now event).Past now := by
  cases event with
  | created => exact past
  | begun => exact List.forall_mem_cons.mpr ⟨nofun, past⟩
  | contacted | sent | behaved => exact forall_mem_modifyHead past fun _ known => known
  | ended =>
    refine forall_mem_modifyHead past fun _ _ endedAt ended => ?_
    cases ended
    exact Nat.le_refl _

theorem SendLog.Past.of_reach {allowed : State n → Action n → Prop} {initial : State n}
    (reach : SendReached config d allowed initial s log) : log.Past s.now := by
  refine Reach.invariant reach (motive := fun watched => watched.2.Past watched.1.now) (List.forall_mem_nil _) ?_
  intro before action after _ past _ run
  obtain ⟨stepped, recorded⟩ := watch_eq_some run
  have later := (Step.of_run stepped).now
  have now : (recordSend config d before.1 action after.1 before.2).Past before.1.now := by
    unfold recordSend
    split
    · split
      · cases loopEvent config before.1 d _ with
        | none => exact past
        | some event => exact past.record event
      · exact past
    · exact past
  rw [recorded]
  exact fun round member endedAt ended => (now round member endedAt ended).trans later

end Ends

/-- No node refuses the command with a state error in a round that ends before
the deadline. -/
def SendLog.Unrefused (log : SendLog n) (deadline : Instant) : Prop :=
  ∀ round ∈ log.rounds, ∀ endedAt, round.endedAt = some endedAt → endedAt < deadline →
    ∀ attempt ∈ round.attempts, ¬ attempt.Refused

section Deadline

variable {config : Config n} {initial s : State n} {d : SendId} {log : SendLog n} {createdAt : Instant}
  {original : PendingCommand}

theorem SendReached.retried {allowed : State n → Action n → Prop} (idle : initial.sends d = .idle)
    (reach : SendReached config d allowed initial s log) (created : log.created = some (createdAt, original)) :
    Retried original (s.sends d).loop log.rounds := by
  cases Tracked.of_reach idle reach with
  | outside | rejected => cases created
  | created _ _ retried =>
    cases created
    exact retried

/-- A definite result of several nodes is no state error. -/
theorem RoundLog.Decided.not_stateError {round : RoundLog n} {index : Fin n} {result : CommandResult} (several : 1 < n)
    (decided : round.Decided index (.ok result)) : lockStateError result ≠ true := by
  obtain ⟨_, _, _, _, ⟨behaviour, _, definite⟩, _⟩ := decided.newest
  intro refused
  cases behaviour with
  | unopened => cases definite
  | answered outcome =>
    cases outcome with
    | ok =>
      simp only [Behaviour.definite] at definite
      split at definite
      · cases definite
      · rename_i final
        cases definite
        exact final ⟨refused, several⟩
    | error =>
      simp only [Behaviour.definite] at definite
      split at definite <;> cases definite

/-- A command that was retried until its deadline has seen no state error
before. -/
theorem Retried.unrefused {loop : Loop n} {rounds : List (RoundLog n)} (retried : Retried original loop rounds)
    (repeated : ∀ round endedAt, rounds.head? = some round → round.endedAt = some endedAt →
      endedAt < original.deadline → ∃ pending, loop = .waiting pending)
    {round : RoundLog n} {endedAt : Instant} (member : round ∈ rounds) (ended : round.endedAt = some endedAt)
    (early : endedAt < original.deadline) : ∀ attempt ∈ round.attempts, ¬ attempt.Refused := by
  cases retried with
  | waiting _ _ earlier => exact (earlier round member).unrefused
  | trying earlier tells =>
    rcases List.mem_cons.mp member with rfl | before
    · cases tells.running.symm.trans ended
    · exact (earlier round before).unrefused
  | contacting earlier =>
    rcases List.mem_cons.mp member with rfl | before
    · cases ended
    · exact (earlier round before).unrefused
  | settling earlier decided | decided earlier decided =>
    rcases List.mem_cons.mp member with rfl | before
    · cases decided.running.symm.trans ended
    · exact (earlier round before).unrefused
  | spent earlier =>
    rcases List.mem_cons.mp member with rfl | before
    · obtain ⟨_, finished⟩ := repeated round endedAt rfl ended early
      cases finished
    · exact (earlier round before).unrefused

/-- Without a state error the last round ended in an error at the deadline. -/
theorem Retried.late_of_unrefused {outcome : Outcome CommandResult} {rounds : List (RoundLog n)}
    {round : RoundLog n} {endedAt : Instant} (retried : Retried original (.finished outcome) rounds)
    (newest : rounds.head? = some round) (ended : round.endedAt = some endedAt)
    (unrefused : endedAt < original.deadline → ∀ attempt ∈ round.attempts, ¬ attempt.Refused) :
    original.deadline ≤ endedAt := by
  cases retried with
  | decided _ decided =>
    cases newest
    cases decided.running.symm.trans ended
  | spent _ spent =>
    cases newest
    obtain ⟨now, atEnd, cause⟩ := spent.ended
    cases atEnd.symm.trans ended
    rcases cause with ⟨_, _, _, attempt, inside, refused⟩ | ⟨_, late, _⟩
    · by_contra early
      exact unrefused (Nat.lt_of_not_le early) attempt inside refused
    · exact late

/-- After a round that has ended before the deadline without a state error the
loop waits for the next one. -/
theorem Retried.waits {loop : Loop n} {rounds : List (RoundLog n)} {round : RoundLog n} {endedAt : Instant}
    (retried : Retried original loop rounds) (newest : rounds.head? = some round) (ended : round.endedAt = some endedAt)
    (early : endedAt < original.deadline) (unrefused : ∀ attempt ∈ round.attempts, ¬ attempt.Refused) :
    ∃ pending, loop = .waiting pending := by
  cases retried with
  | waiting => exact ⟨_, rfl⟩
  | trying _ tells =>
    cases newest
    cases tells.running.symm.trans ended
  | contacting =>
    cases newest
    cases ended
  | settling _ decided | decided _ decided =>
    cases newest
    cases decided.running.symm.trans ended
  | spent earlier spent =>
    have late := (Retried.spent earlier spent).late_of_unrefused newest ended fun _ => unrefused
    exact absurd early (Nat.not_lt_of_le late)

/-- On several nodes a command is retried until its deadline exactly if no round
that ends before has seen a state error; a loop that waits for its next round
comes to it. -/
theorem retriesUntil_iff_unrefused (several : 1 < n) (idle : initial.sends d = .idle)
    (reach : SendReached config d Always initial s log) (created : log.created = some (createdAt, original)) :
    (RetriesUntil original.deadline s d log ↔ log.Unrefused original.deadline) ∧
      ∀ pending, (s.sends d).loop = .waiting pending → NextRound config d s := by
  refine ⟨?_, fun _ => .of_waiting⟩
  have retried := SendReached.retried idle reach created
  have past := SendLog.Past.of_reach reach
  constructor
  · exact fun retries round member endedAt ended early => retried.unrefused retries.repeated member ended early
  · intro unrefused
    constructor
    · intro result returned refused
      have finished : (s.sends d).loop = .finished (.ok result) := by rw [returned]; rfl
      rw [finished] at retried
      rcases retried.returns created rfl with ⟨index, _, _, atRounds, decided⟩ | ⟨_, _, round, _, _, atRounds, spent⟩
      · exact absurd refused (decided.not_stateError several)
      · obtain ⟨endedAt, ended, _⟩ := spent.ended
        have newest : log.rounds.head? = some round := by rw [atRounds]; rfl
        have member := List.mem_of_head? newest
        exact (retried.late_of_unrefused newest ended (unrefused round member endedAt ended)).trans
          (past round member endedAt ended)
    · intro round endedAt newest ended early
      have quiet := unrefused round (List.mem_of_head? newest) endedAt ended early
      exact retried.waits newest ended early quiet

/-- The deadline of a command is as far from its making as its call may wait. -/
theorem PendingCommand.new_deadline {command : Command} {pending : PendingCommand}
    (made : PendingCommand.new command config.commandTimeoutGrace createdAt = .ok pending) :
    ∃ wait, responseWait config command = .ok wait ∧ pending.deadline = createdAt + wait := by
  obtain ⟨encoded, encodes, same⟩ := Outcome.bind_eq_ok.mp made
  cases same
  exact ⟨encoded.timeout + config.commandTimeoutGrace, Outcome.bind_eq_ok.mpr ⟨encoded, encodes, rfl⟩,
    Nat.add_assoc ..⟩

/-- An attempt is in time exactly if it starts before the deadline and its call,
which waits as long as any other, begins when the command is made. -/
theorem Attempt.Timed.inTime_iff {attempt : Attempt n} {wait : Duration}
    (timed : attempt.Timed config createdAt original) (waits : responseWait config original.command = .ok wait)
    (deadline : original.deadline = createdAt + wait) :
    attempt.InTime original.deadline ↔ attempt.startedAt < createdAt + wait ∧
      ∀ sentAt length, attempt.sent = some (sentAt, length) → sentAt = createdAt := by
  have own : ∀ sentAt length, attempt.sent = some (sentAt, length) →
      createdAt ≤ sentAt ∧ length = wait := by
    intro sentAt length sent
    obtain ⟨later, same⟩ := timed.sent sentAt length sent
    cases same.symm.trans waits
    exact ⟨later, rfl⟩
  rw [deadline]
  constructor
  · refine fun inTime => ⟨inTime.started, fun sentAt length sent => ?_⟩
    obtain ⟨later, rfl⟩ := own sentAt length sent
    exact Nat.le_antisymm (Nat.le_of_add_le_add_right (inTime.sent sentAt _ sent)) later
  · rintro ⟨started, atOnce⟩
    refine ⟨started, fun sentAt length sent => ?_⟩
    obtain ⟨_, rfl⟩ := own sentAt length sent
    rw [atOnce sentAt _ sent]

/-- The call of a retry waits as long as that of the first attempt. So a retry
is in time exactly if it starts before the deadline, and the clock has not
moved since the making of the command when its call begins. -/
theorem retries_inTime_iff (idle : initial.sends d = .idle) (reach : SendReached config d Always initial s log)
    (created : log.created = some (createdAt, original)) :
    ∃ wait, responseWait config original.command = .ok wait ∧ original.deadline = createdAt + wait ∧
      ∀ attempt ∈ log.retries, attempt.InTime original.deadline ↔ attempt.startedAt < createdAt + wait ∧
        ∀ sentAt length, attempt.sent = some (sentAt, length) → sentAt = createdAt := by
  cases Tracked.of_reach idle reach with
  | outside | rejected => cases created
  | created _ made _ timed =>
    cases created
    obtain ⟨wait, waits, deadline⟩ := PendingCommand.new_deadline made
    refine ⟨wait, waits, deadline, fun attempt member => ?_⟩
    obtain ⟨round, inLog, inside⟩ := List.mem_flatMap.mp (List.mem_of_mem_dropLast member)
    exact (timed round inLog attempt inside).inTime_iff waits deadline

end Deadline

/-- The first node refuses the command with a state error and the second one
cannot be reached. -/
def refusedEarly : List (Action 2) :=
  beginActions 0 ⟨Block.ofNatLE 16 7⟩ ++ openNode 0 firstNode 0 0 ++ writeNode 0 firstNode 0 ++
    answerNode 0 firstNode 0 0 ⟨Block.ofNatLE 16 7⟩ commandResultStateError ++ [.send 0 .redirect] ++
    missNode 0 secondNode 0 ++ [.send 0 .endRound, .send 0 .remove]

def SendPc.returnedStateError : SendPc n → Bool
  | .returned (.ok result) => lockStateError result
  | _ => false

set_option maxRecDepth 2000 in
/-- The state error is returned at once, the deadline far ahead. -/
theorem refusedEarly_not_retried :
    ¬ ∀ (n : Nat) (config : Config n) initial s d log createdAt original, 1 < n → initial.sends d = .idle →
      SendReached config d Always initial s log → log.created = some (createdAt, original) →
        RetriesUntil original.deadline s d log := by
  intro claim
  have executed : (run (watch (step pair) (recordSend pair 0)) (State.new 2, ⟨none, []⟩) refusedEarly).any
      (fun watched => (watched.1.sends 0).returnedStateError &&
        watched.2.created.any fun created => watched.1.now < created.2.deadline) = true := by decide
  obtain ⟨⟨s, log⟩, reach, found⟩ := Reach.exists_of_run (runAllowed_always ..) executed
  obtain ⟨stateError, early⟩ := (Bool.and_eq_true ..).mp found
  obtain ⟨⟨createdAt, original⟩, created, early⟩ := (Option.any_eq_true ..).mp early
  have retries := claim 2 pair (State.new 2) s 0 log createdAt original (by decide) rfl reach created
  unfold SendPc.returnedStateError at stateError
  split at stateError
  · rename_i result returned
    exact absurd (of_decide_eq_true early) (Nat.not_lt_of_le (retries.returned result returned stateError))
  · cases stateError

/-- Neither node can be reached. -/
def bothMissed : List (Action 2) :=
  beginActions 0 ⟨Block.ofNatLE 16 7⟩ ++ missNode 0 firstNode 0 ++ missNode 0 secondNode 0 ++ [.send 0 .endRound]

/-- The loop goes on to another round. -/
theorem retriesUntil_bothMissed : ∃ (s : State 2) (log : SendLog 2) (deadline : Instant),
    log.rounds.length = 1 ∧ ((RetriesUntil deadline s 0 log ↔ log.Unrefused deadline) ∧
      ∀ pending, (s.sends 0).loop = .waiting pending → NextRound pair 0 s) := by
  have executed : (run (watch (step pair) (recordSend pair 0)) (State.new 2, ⟨none, []⟩) bothMissed).any
      (fun watched => watched.2.created.isSome && decide (watched.2.rounds.length = 1)) = true := by decide
  obtain ⟨⟨s, log⟩, reach, found⟩ := Reach.exists_of_run (runAllowed_always ..) executed
  obtain ⟨created, once⟩ := (Bool.and_eq_true ..).mp found
  obtain ⟨⟨createdAt, original⟩, created⟩ := Option.isSome_iff_exists.mp created
  have idle : (State.new 2).sends 0 = .idle := rfl
  exact ⟨s, log, original.deadline, of_decide_eq_true once,
    retriesUntil_iff_unrefused Nat.one_lt_two idle reach created⟩

/-- The first node cannot be reached, and finding out takes some time. -/
def retryAfter (elapsed : Duration) : List (Action 2) :=
  beginActions 0 ⟨Block.ofNatLE 16 7⟩ ++ missNode 0 firstNode 0 ++ [.tick elapsed] ++ openNode 0 secondNode 0 0 ++
    [.send 0 (.startSend 0)]

/-- After a second the retry may wait until a second after the deadline. -/
theorem retryAfter_second_not_inTime :
    ¬ ∀ (n : Nat) (config : Config n) initial s d log createdAt original, initial.sends d = .idle →
      SendReached config d Always initial s log → log.created = some (createdAt, original) →
        ∀ attempt ∈ log.retries, attempt.InTime original.deadline := by
  intro claim
  have executed : (run (watch (step pair) (recordSend pair 0)) (State.new 2, ⟨none, []⟩)
      (retryAfter (Duration.fromSecs 1))).any
      (fun watched => watched.2.created.any fun created => watched.2.retries.any fun attempt =>
        attempt.sent.any fun sent => created.2.deadline < sent.1 + sent.2) = true := by decide
  obtain ⟨⟨s, log⟩, reach, found⟩ := Reach.exists_of_run (runAllowed_always ..) executed
  obtain ⟨⟨createdAt, original⟩, created, found⟩ := (Option.any_eq_true ..).mp found
  obtain ⟨attempt, member, found⟩ := List.any_eq_true.mp found
  obtain ⟨⟨sentAt, wait⟩, sent, late⟩ := (Option.any_eq_true ..).mp found
  have inTime := claim 2 pair (State.new 2) s 0 log createdAt original rfl reach created attempt member
  exact absurd (of_decide_eq_true late) (Nat.not_lt_of_le (inTime.sent sentAt wait sent))

/-- Where no time passes the retry is in time. -/
theorem retries_inTime_retryAfter_zero : ∃ (log : SendLog 2) (deadline : Instant), log.retries.length = 1 ∧
    ∀ attempt ∈ log.retries, attempt.InTime deadline := by
  have executed : (run (watch (step pair) (recordSend pair 0)) (State.new 2, ⟨none, []⟩) (retryAfter 0)).any
      (fun watched => watched.2.created.any fun created => decide (watched.2.retries.length = 1) &&
        watched.2.retries.all fun attempt => decide (attempt.startedAt < created.2.deadline) &&
          attempt.sent.all fun sent => decide (sent.1 = created.1)) = true := by decide
  obtain ⟨⟨s, log⟩, reach, found⟩ := Reach.exists_of_run (runAllowed_always ..) executed
  obtain ⟨⟨createdAt, original⟩, created, found⟩ := (Option.any_eq_true ..).mp found
  obtain ⟨once, atOnce⟩ := (Bool.and_eq_true ..).mp found
  have idle : (State.new 2).sends 0 = .idle := rfl
  obtain ⟨wait, _, deadline, inTime⟩ := retries_inTime_iff idle reach created
  refine ⟨log, original.deadline, of_decide_eq_true once, fun attempt member => (inTime attempt member).mpr ?_⟩
  obtain ⟨early, sent⟩ := (Bool.and_eq_true ..).mp (List.all_eq_true.mp atOnce attempt member)
  refine ⟨deadline ▸ of_decide_eq_true early, fun sentAt length atSent => ?_⟩
  rw [atSent] at sent
  exact of_decide_eq_true sent

end Ruslock.Replset
