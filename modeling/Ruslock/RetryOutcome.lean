import Ruslock.ConnectionOutcomes
import Ruslock.HealthyConnection
import Ruslock.RetryOrder

namespace Ruslock.Replset
open Transition

variable {n : Nat}

/-- A call or an `open` of the client of a node has returned this to a loop. -/
inductive State.Bears (s : State n) (d : SendId) (index : Fin n) : Behaviour → Prop
  | answered {c outcome} : (index, c) ∈ s.attempts d → (s.clients index).calls c = .returned outcome →
      s.Bears d index (.answered outcome)
  | unopened {o err} : (s.clients index).opens o = .returned (.error err) → s.Bears d index (.unopened err)

/-- What the nodes have done is what their clients have returned. -/
def SendLog.BorneBy (log : SendLog n) (s : State n) (d : SendId) : Prop :=
  ∀ round ∈ log.rounds, ∀ attempt ∈ round.attempts, ∀ behaviour, attempt.behaviour = some behaviour →
    s.Bears d attempt.index behaviour

/-- The wait of a call has run out before anybody has told it anything. -/
def RanOut (config : Config n) (s : State n) (index : Fin n) (c : Connection.CallId) : Prop :=
  ∃ before after, Reached config Always before ∧ (before.clients index).channel c = [] ∧
    step config before (.client index (.call c .timeout)) = some after ∧ Reach (step config) Always after s

/-- The error with which an attempt has failed. -/
def Attempt.failure (attempt : Attempt n) : Option SlockError :=
  match attempt.behaviour with
  | some (.unopened err) => some err
  | some (.answered (.error err)) => some err
  | _ => none

/-- The error that a loop has is that of its newest attempt: a state error is
returned in its place. -/
def Loop.Blames : Loop n → List (RoundLog n) → Prop
  | .trying round, current :: _ =>
    round.lastStateError = none → ∀ attempt, current.attempts.head? = some attempt → round.lastError = attempt.failure
  | .finished (.error err), current :: _ =>
    current.endedAt.isSome = true → ∀ attempt, current.attempts.head? = some attempt → attempt.failure = some err
  | _, _ => True

/-- How a command was begun. -/
structure Began (s : State n) (d : SendId) (log : SendLog n) : Prop where
  command : ∀ command, (s.sends d).command = some command → s.commands d = some command
  outside : (s.sends d).loop = .outside → s.attempts d = []
  attempted : ∀ a ∈ s.attempts d, ∃ command, (s.clients a.1).command a.2 = some command ∧ s.commands d = some command
  positive : log.created.isSome = true → 0 < n
  rejected : log.created = none → ∀ err, (s.sends d).loop = .finished (.error err) →
    err = .notConnected ∨ ∃ command, s.commands d = some command ∧ command.encode = .error err

/-- A command that no node has ended has only met nodes that fail or refuse it. -/
def SpoiledAtEnd (s : State n) (d : SendId) (log : SendLog n) : Prop :=
  ∀ outcome, (s.sends d).loop = .finished outcome →
    (∀ current, log.rounds.head? = some current → current.endedAt.isSome = true) →
    ∀ a ∈ s.attempts d, s.Spoiled a.1 a.2

section Steps

variable {config : Config n} {s after : State n} {d : SendId} {log : SendLog n} {action : Action n}

/-- The steps of a loop, with what they add to its history. -/
theorem Step.watched (taken : Step config s action after) (d : SendId) (log : SendLog n) :
    (∃ action', action = .send d action' ∧ SendStep config s d action' after ∧
      recordSend config d s action after log = (loopEvent config s d action').elim log (log.record s.now)) ∨
      after.sends d = s.sends d ∧ after.commands d = s.commands d ∧ after.attempts d = s.attempts d ∧
        recordSend config d s action after log = log := by
  rcases taken.loop d with ⟨action', rfl, sent⟩ | ⟨sends, commands, attempts⟩
  · exact .inl ⟨action', rfl, sent, recordSend_own action'⟩
  · cases action with
    | send moved action =>
      by_cases own : moved = d
      · subst own
        cases taken with | send sent => exact .inl ⟨action, rfl, sent, recordSend_own action⟩
      · exact .inr ⟨sends, commands, attempts, if_neg own⟩
    | _ => exact .inr ⟨sends, commands, attempts, rfl⟩

theorem Step.attempts_mono (taken : Step config s action after) {a : Fin n × Connection.CallId}
    (member : a ∈ s.attempts d) : a ∈ after.attempts d := by
  rcases taken.loop d with ⟨_, rfl, sent⟩ | ⟨_, _, same⟩
  · rcases sent.attempts with same | ⟨_, _, same⟩
    · exact same ▸ member
    · rw [same, Function.update_self]
      exact List.mem_append_left _ member
  · exact same ▸ member

theorem Step.open_kept (taken : Step config s action after) {index : Fin n} {o : Connection.OpenId}
    {result : Outcome Unit} (returned : (s.clients index).opens o = .returned result) :
    (after.clients index).opens o = .returned result := by
  rcases taken.client_of index with same | ⟨_, _, inner⟩
  · rw [same]
    exact returned
  · exact inner.open_kept returned

theorem State.Bears.kept {index : Fin n} {behaviour : Behaviour} (bears : s.Bears d index behaviour)
    (taken : Step config s action after) : after.Bears d index behaviour := by
  cases bears with
  | answered member returned =>
    exact .answered (taken.attempts_mono member) ((taken.call_kept (by rw [returned]; rfl)).1.trans returned)
  | unopened returned => exact .unopened (taken.open_kept returned)

/-- A wait that has run out is not repeated. -/
theorem RanOut.next {index : Fin n} {c : Connection.CallId} (ranOut : RanOut config s index c)
    (run : step config s action = some after) : RanOut config after index c := by
  obtain ⟨before, middle, reach, empty, timeout, later⟩ := ranOut
  exact ⟨before, middle, reach, empty, timeout, .next later trivial run⟩

theorem RanOut.of_reach (reach : Reached config Always s) : ∀ index c, ((s.clients index).calls c).expired = true →
    RanOut config s index c := by
  induction reach with
  | start => nofun
  | @next before after action previous _ run ih =>
    intro index c expired
    rcases (Step.of_run run).client_of index with same | ⟨inner, atAction, moved⟩
    · exact (ih index c (same ▸ expired)).next run
    · have fair := (Connection.Outcomes.of_reach (client_reached index previous)).fair c
      rcases moved.call_of c with ⟨_, rfl, call⟩ | same
      · rcases call.expired fair expired with already | ⟨rfl, _, empty⟩
        · exact (ih index c already).next run
        · cases clientAction_inside atAction rfl
          exact ⟨_, _, previous, empty, run, .start⟩
      · exact (ih index c (same ▸ expired)).next run

end Steps

section Loops

variable {config : Config n} {s : State n} {original : PendingCommand} {loop loop' : Loop n} {rounds : List (RoundLog n)}

/-- An attempt that has not ended the command has failed, if it was not refused. -/
theorem Attempt.Passed.failed {attempt : Attempt n} (passed : attempt.Passed) (unrefused : ¬ attempt.Refused) :
    ∃ err, attempt.failure = some err ∧
      (attempt.behaviour = some (.unopened err) ∨
        attempt.behaviour = some (.answered (.error err)) ∧ retryableTransportError err = true) := by
  obtain ⟨behaviour, atBehaviour, indefinite⟩ := passed
  unfold Attempt.failure
  rw [atBehaviour]
  cases behaviour with
  | unopened err => exact ⟨err, rfl, .inl rfl⟩
  | answered outcome =>
    cases outcome with
    | ok result =>
      simp only [Behaviour.definite] at indefinite
      split at indefinite
      · rename_i retry
        exact absurd ⟨_, atBehaviour, retry.1⟩ unrefused
      · cases indefinite
    | error err =>
      simp only [Behaviour.definite] at indefinite
      split at indefinite
      · rename_i retry
        exact ⟨err, rfl, .inr ⟨rfl, retry.1⟩⟩
      · cases indefinite

theorem Loop.Blames.move {event : Option (LoopEvent n)} {active' : Option Nat} (blames : loop.Blames rounds)
    (retried : Retried original loop rounds) (taken : LoopMove config s loop event loop' active') :
    loop'.Blames (event.elim rounds (recordRounds s.now rounds)) := by
  cases taken with
  | stay => exact blames
  | reject | create => cases retried
  | wake | contact | send | settle => trivial
  | begin =>
    rintro _ _ ⟨⟩
  | unopened =>
    cases retried with
    | contacting =>
      rintro _ _ ⟨⟩
      rfl
  | @answered round index outcome =>
    cases retried with
    | contacting =>
      cases outcome with
      | ok result =>
        simp only [answeredPc]
        split
        · rintro ⟨⟩
        · trivial
      | error err =>
        simp only [answeredPc]
        split
        · rintro _ _ ⟨⟩
          rfl
        · rintro ⟨⟩
  | @finish round =>
    cases retried with
    | @trying _ current _ _ tells =>
      unfold endRoundPc
      split
      · trivial
      · rename_i last
        split
        · -- the round has an error, as its newest attempt has failed
          intro _ newest first
          have member := List.mem_of_head? first
          have unrefused : ¬ newest.Refused := by
            intro refused
            have some := tells.refused.mpr ⟨newest, member, refused⟩
            rw [last] at some
            cases some
          obtain ⟨err, failure, _⟩ := (tells.passed newest member).failed unrefused
          rw [blames last newest first, failure]
          rfl
        · trivial

end Loops

section Records

variable {config : Config n} {s after : State n} {d : SendId} {log : SendLog n} {action : Action n}

theorem SendLog.BorneBy.kept (borne : log.BorneBy s d) (taken : Step config s action after) : log.BorneBy after d :=
  fun round member attempt inside behaviour atBehaviour =>
    (borne round member attempt inside behaviour atBehaviour).kept taken

/-- What is recorded of the newest attempt is what its client has returned. -/
theorem SendLog.BorneBy.record {event : LoopEvent n} (borne : log.BorneBy s d)
    (newest : ∀ behaviour, event = .behaved behaviour → ∀ round attempt, log.rounds.head? = some round →
      round.attempts.head? = some attempt → s.Bears d attempt.index behaviour) :
    (log.record s.now event).BorneBy s d := by
  cases event with
  | created => exact borne
  | begun => exact List.forall_mem_cons.mpr ⟨List.forall_mem_nil _, borne⟩
  | contacted =>
    exact forall_mem_modifyHead borne fun _ known => List.forall_mem_cons.mpr ⟨nofun, known⟩
  | sent =>
    exact forall_mem_modifyHead borne fun _ known => forall_mem_modifyHead known fun _ before => before
  | ended => exact forall_mem_modifyHead borne fun _ known => known
  | behaved behaviour =>
    refine forall_mem_modifyHead_head borne fun round first => ?_
    refine forall_mem_modifyHead_head (borne round (List.mem_of_head? first)) fun attempt last => ?_
    rintro _ ⟨⟩
    exact newest behaviour rfl round attempt first last

/-- A loop that is in touch with a node is in a round, whose newest attempt is on it. -/
theorem Tracked.contacting (tracked : Tracked config s d log) {round : Round} {index : Fin n}
    (contacting : (s.sends d).loop = .contacting round index) :
    ∃ current attempt earlier made, log.rounds = current :: earlier ∧ current.attempts = attempt :: made ∧
      attempt.index = index ∧ current.endedAt = none := by
  cases tracked with
  | outside atLoop | rejected atLoop => cases atLoop.symm.trans contacting
  | created _ _ retried =>
    rw [contacting] at retried
    cases retried with
    | contacting => exact ⟨_, _, _, _, rfl, rfl, rfl, rfl⟩

theorem Tracked.settling (tracked : Tracked config s d log) {index : Fin n} {result : CommandResult}
    (settling : (s.sends d).loop = .settling index result) :
    ∃ current earlier, log.rounds = current :: earlier ∧ current.endedAt = none := by
  cases tracked with
  | outside atLoop | rejected atLoop => cases atLoop.symm.trans settling
  | created _ _ retried =>
    rw [settling] at retried
    cases retried with
    | settling _ decided => exact ⟨_, _, rfl, decided.running⟩

theorem Tracked.newest (tracked : Tracked config s d log) {round : Round} {index : Fin n}
    (contacting : (s.sends d).loop = .contacting round index) {current : RoundLog n} {attempt : Attempt n}
    (first : log.rounds.head? = some current) (last : current.attempts.head? = some attempt) : attempt.index = index := by
  obtain ⟨_, _, _, _, atRounds, atAttempts, same, _⟩ := tracked.contacting contacting
  rw [atRounds] at first
  cases first
  rw [atAttempts] at last
  cases last
  exact same

theorem SendLog.BorneBy.step (borne : log.BorneBy s d) (tracked : Tracked config s d log) (attempts : Attempts s)
    (taken : Step config s action after) : (recordSend config d s action after log).BorneBy after d := by
  rcases taken.watched d log with ⟨action', rfl, sent, recorded⟩ | ⟨_, _, _, same⟩
  · rw [recorded]
    cases atEvent : loopEvent config s d action' with
    | none => exact borne.kept taken
    | some event =>
      refine SendLog.BorneBy.kept (borne.record ?_) taken
      rintro behaviour rfl current attempt newest last
      cases sent with
      | @opened round index o outcome atPc returned =>
        simp only [loopEvent, atPc, returned] at atEvent
        obtain rfl := tracked.newest (by rw [atPc]; rfl) newest last
        split at atEvent
        · rename_i same
          cases same
          cases atEvent
          exact .unopened returned
        · cases atEvent
      | @answered round index c outcome atPc returned =>
        simp only [loopEvent, atPc, returned] at atEvent
        obtain rfl := tracked.newest (by rw [atPc]; rfl) newest last
        cases atEvent
        exact .answered (List.mem_of_getLast? (attempts.last d round _ c atPc)) returned
      | enter atPc =>
        simp only [loopEvent, atPc] at atEvent
        split at atEvent
        · cases atEvent
        · split at atEvent <;> cases atEvent
      | startOpen within atPc =>
        simp only [loopEvent, atPc, dif_pos within] at atEvent
        cases atEvent
      | startSend atPc =>
        simp only [loopEvent, atPc] at atEvent
        split at atEvent <;> cases atEvent
      | start | push | readActive | startClose | closed | redirect | setActive | endRound | retry | sleep | wake | woken
      | remove => cases atEvent
  · rw [same]
    exact borne.kept taken

theorem SpoiledAtEnd.step (spoiled : SpoiledAtEnd s d log) (tracked : Tracked config s d log) (attempts : Attempts s)
    (taken : Step config s action after) : SpoiledAtEnd after d (recordSend config d s action after log) := by
  intro outcome finished ended
  rcases taken.watched d log with ⟨action', rfl, sent, recorded⟩ | ⟨sends, _, tried, same⟩
  · rw [recorded] at ended
    have free : (s.sends d).free = true → after.attempts d = s.attempts d → ∀ a ∈ after.attempts d,
        after.Spoiled a.1 a.2 := fun free tried a member =>
      (attempts.free d free a (tried ▸ member)).kept taken
    cases sent with
    | enter atPc => exact free (by rw [atPc]; rfl) rfl
    | endRound atPc => exact free (by rw [atPc]; rfl) rfl
    | @remove requestId _ atPc =>
      simp only [State.moveSend, Function.update_self] at finished
      have before := spoiled outcome (by rw [atPc]; exact finished) ended
      exact fun a member => (before a member).kept taken
    | @answered _ _ _ answer atPc returned =>
      -- the round that an answer ends has not come to its end
      obtain ⟨current, _, _, _, atRounds, _, _, running⟩ := tracked.contacting (by rw [atPc]; rfl)
      have past := ended (current.onAttempt fun attempt => { attempt with behaviour := some (.answered answer) }) (by
        simp only [loopEvent, atPc, returned, Option.elim_some, SendLog.record, recordRounds, atRounds]
        rfl)
      rw [show (current.onAttempt _).endedAt = none from running] at past
      cases past
    | setActive atPc =>
      obtain ⟨current, _, atRounds, running⟩ := tracked.settling (by rw [atPc]; rfl)
      have past := ended current (show log.rounds.head? = some current by rw [atRounds]; rfl)
      rw [running] at past
      cases past
    | @opened _ _ _ outcome =>
      simp only [State.moveSend, Function.update_self] at finished
      cases outcome <;> cases finished
    | start | push | readActive | startOpen | startSend | startClose | closed | redirect | retry | sleep
    | wake | woken =>
      simp only [State.moveSend, Function.update_self] at finished
      cases finished
  · rw [same] at ended
    rw [sends] at finished
    intro a member
    exact (spoiled outcome finished ended a (tried ▸ member)).kept taken

/-- Only a command that has been made counts as created. -/
theorem SendLog.created_record {event : Option (LoopEvent n)}
    (created : (event.elim log (log.record s.now)).created.isSome = true) :
    log.created.isSome = true ∨ ∃ pending, event = some (.created pending) := by
  cases event with
  | none => exact .inl created
  | some event =>
    cases event with
    | created pending => exact .inr ⟨pending, rfl⟩
    | _ => exact .inl created

/-- A command is made only where there are nodes. -/
theorem SendStep.positive {action : SendAction} {pending : PendingCommand} (taken : SendStep config s d action after)
    (created : loopEvent config s d action = some (.created pending)) : 0 < n := by
  cases taken with
  | enter atPc =>
    simp only [loopEvent, atPc] at created
    split at created
    · cases created
    · exact Nat.pos_of_ne_zero ‹_›
  | startOpen within atPc =>
    simp only [loopEvent, atPc, dif_pos within] at created
    cases created
  | @opened _ _ _ outcome atPc returned =>
    simp only [loopEvent, atPc, returned] at created
    cases outcome <;> cases created
  | startSend atPc =>
    simp only [loopEvent, atPc] at created
    split at created <;> cases created
  | answered atPc returned =>
    simp only [loopEvent, atPc, returned] at created
    cases created
  | start | push | readActive | startClose | closed | redirect | setActive | endRound | retry | sleep | wake | woken
  | remove => cases created

/-- A command is rejected where there are no nodes or it cannot be encoded. -/
theorem enterPc_rejects {now : Instant} {command : Command} {err : SlockError}
    (rejected : (enterPc config now command).loop = .finished (.error err)) :
    err = .notConnected ∨ command.encode = .error err := by
  unfold enterPc at rejected
  split at rejected
  · cases rejected
    exact .inl rfl
  · split at rejected
    · rename_i fails
      cases rejected
      rcases Outcome.bind_eq_error.mp fails with encode | ⟨_, _, made⟩
      · exact .inr encode
      · cases made
    · cases rejected

theorem SendLog.created_none {event : Option (LoopEvent n)}
    (absent : (event.elim log (log.record s.now)).created = none) : log.created = none := by
  cases event with
  | none => exact absent
  | some event =>
    cases event with
    | created => cases absent
    | _ => exact absent

/-- A loop whose command was not made has not begun, or has rejected it. -/
theorem Tracked.uncreated (tracked : Tracked config s d log) (absent : log.created = none) :
    (s.sends d).loop = .outside ∨ ∃ err, (s.sends d).loop = .finished (.error err) := by
  cases tracked with
  | outside atLoop => exact .inl atLoop
  | rejected atLoop => exact .inr ⟨_, atLoop⟩
  | created => cases absent

theorem Began.attempted_step (began : Began s d log) (commands : ∀ index, Connection.Commands (s.clients index))
    (taken : Step config s action after) :
    ∀ a ∈ after.attempts d, ∃ command, (after.clients a.1).command a.2 = some command ∧
      after.commands d = some command := by
  have kept : ∀ a ∈ s.attempts d, after.commands d = s.commands d →
      ∃ command, (after.clients a.1).command a.2 = some command ∧ after.commands d = some command := by
    intro a member same
    obtain ⟨command, own, whole⟩ := began.attempted a member
    refine ⟨command, ?_, same.trans whole⟩
    rcases taken.client_of a.1 with still | ⟨_, _, inner⟩
    · rw [still]
      exact own
    · exact (commands a.1).onward inner own
  intro a member
  rcases taken.loop d with ⟨_, rfl, sent⟩ | ⟨_, same, tried⟩
  · cases sent with
    | start atPc =>
      have empty := began.outside (by rw [atPc]; rfl)
      have old : a ∈ s.attempts d := member
      rw [empty] at old
      cases old
    | @startSend round index c client atPc inner =>
      have sent : SendStep config s d (.startSend c) _ := .startSend atPc inner
      obtain ⟨_, _, _, own, tried⟩ := sent.sending (Function.update_self ..)
      rw [tried, Function.update_self] at member
      rcases List.mem_append.mp member with old | new
      · exact kept a old rfl
      · obtain rfl := List.mem_singleton.mp new
        exact ⟨_, own, began.command _ (by rw [atPc]; rfl)⟩
    | _ => exact kept a member rfl
  · exact kept a (tried ▸ member) same

theorem Began.step (began : Began s d log) (tracked : Tracked config s d log)
    (commands : ∀ index, Connection.Commands (s.clients index)) (taken : Step config s action after) :
    Began after d (recordSend config d s action after log) := by
  refine ⟨taken.command_known began.command, ?_, began.attempted_step commands taken, ?_, ?_⟩
  · intro outside
    rcases taken.loop d with ⟨_, rfl, sent⟩ | ⟨sends, _, tried⟩
    · cases sent with
      | start atPc => exact began.outside (by rw [atPc]; rfl)
      | enter =>
        simp only [State.moveSend, Function.update_self, enterPc] at outside
        repeat' split at outside
        all_goals cases outside
      | @opened _ _ _ outcome =>
        simp only [State.moveSend, Function.update_self] at outside
        cases outcome <;> cases outside
      | @answered _ _ _ outcome =>
        simp only [State.moveSend, Function.update_self] at outside
        cases outcome <;> simp only [answeredPc] at outside <;> split at outside <;> cases outside
      | endRound =>
        simp only [State.moveSend, Function.update_self, endRoundPc] at outside
        repeat' split at outside
        all_goals cases outside
      | push | readActive | startOpen | startSend | startClose | closed | redirect | setActive | retry | sleep | wake
      | woken | remove =>
        simp only [State.moveSend, Function.update_self] at outside
        cases outside
    · rw [tried]
      exact began.outside (sends ▸ outside)
  · intro created
    rcases taken.watched d log with ⟨_, _, sent, recorded⟩ | ⟨_, _, _, same⟩
    · rw [recorded] at created
      rcases SendLog.created_record created with before | ⟨pending, made⟩
      · exact began.positive before
      · exact sent.positive made
    · exact began.positive (same ▸ created)
  · intro absent err finished
    rcases taken.watched d log with ⟨_, rfl, sent, recorded⟩ | ⟨sends, same, _, kept⟩
    · rw [recorded] at absent
      have before := SendLog.created_none absent
      have place := tracked.uncreated before
      cases sent with
      | @enter command atPc =>
        simp only [State.moveSend, Function.update_self] at finished
        refine (enterPc_rejects finished).imp_right fun fails => ?_
        exact ⟨command, began.command command (by rw [atPc]; rfl), fails⟩
      | remove atPc =>
        simp only [State.moveSend, Function.update_self] at finished
        exact began.rejected before err (by rw [atPc]; exact finished)
      | start =>
        simp only [State.moveSend, Function.update_self] at finished
        cases finished
      | push atPc | readActive atPc | startOpen _ atPc | opened atPc | startSend atPc | answered atPc | startClose atPc
      | closed atPc | redirect atPc | setActive atPc | endRound atPc | retry atPc | sleep atPc | wake atPc | woken atPc =>
        rw [atPc] at place
        rcases place with outside | ⟨_, finished⟩
        · cases outside
        · cases finished
    · rw [sends] at finished
      rw [same]
      exact began.rejected (kept ▸ absent) err finished

end Records

section Runs

variable {config : Config n} {s : State n} {d : SendId} {log : SendLog n}

/-- What is known of a loop in every run, with its history. -/
structure Accounted (config : Config n) (s : State n) (d : SendId) (log : SendLog n) : Prop where
  tracked : Tracked config s d log
  borne : log.BorneBy s d
  blames : (s.sends d).loop.Blames log.rounds
  spoiled : SpoiledAtEnd s d log
  began : Began s d log

theorem Accounted.step {after : State n} {action : Action n} (accounted : Accounted config s d log)
    (reach : Reached config Always s) (taken : Step config s action after) :
    Accounted config after d (recordSend config d s action after log) := by
  have attempts := Attempts.of_reach reach
  have commands := fun index => Connection.Commands.of_reach (client_reached index reach)
  obtain ⟨tracked, borne, blames, spoiled, began⟩ := accounted
  refine ⟨tracked.step taken, borne.step tracked attempts taken, ?_, spoiled.step tracked attempts taken,
    began.step tracked commands taken⟩
  rcases taken.watched d log with ⟨_, _, sent, recorded⟩ | ⟨sends, _, _, same⟩
  · have move := sent.loopMove
    rw [recorded, SendLog.record_rounds]
    cases tracked with
    | outside atLoop | rejected atLoop =>
      rw [atLoop] at move
      generalize loopEvent config s d _ = event at move ⊢
      generalize (after.sends d).loop = loop' at move ⊢
      generalize after.activeIndex = active at move
      cases move <;> trivial
    | created _ _ retried => exact blames.move retried move
  · rw [sends, same]
    exact blames

theorem Accounted.of_reach (reach : SendReached config d Always (State.new n) s log) : Accounted config s d log := by
  have base : Accounted config (State.new n) d ⟨none, []⟩ :=
    { tracked := .outside rfl
      borne := List.forall_mem_nil _
      blames := trivial
      spoiled := nofun
      began := ⟨nofun, fun _ => rfl, List.forall_mem_nil _, nofun, nofun⟩ }
  refine Reach.invariant reach (motive := fun watched => Accounted config watched.1 d watched.2) base ?_
  intro before action after previous accounted _ run
  obtain ⟨stepped, recorded⟩ := watch_eq_some run
  rw [recorded]
  exact accounted.step previous.forget (.of_run stepped)

end Runs

end Ruslock.Replset
