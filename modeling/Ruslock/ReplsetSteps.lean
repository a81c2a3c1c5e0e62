import Ruslock.ConnectionPending
import Ruslock.Replset

namespace Ruslock.Replset
open Transition Wire

variable {n : Nat}

/-- The client that an action steps, and how. -/
def clientAction (s : State n) : Action n → Option (Fin n × Connection.Action)
  | .send d (.startOpen o) =>
    match s.sends d with
    | .attempt round => if within : round.offset < n then some (round.index within, .opening o .start) else none
    | _ => none
  | .send d (.startSend c) =>
    match s.sends d with
    | .connected round index => some (index, .call c (.start round.pending.command))
    | _ => none
  | .send d (.startClose k) =>
    match s.sends d with
    | .failed _ index _ => some (index, .closing k .start)
    | _ => none
  | .opening u (.startOpen o) =>
    match s.opens u with
    | .attempt opened => if within : opened.index < n then some (⟨opened.index, within⟩, .opening o .start) else none
    | _ => none
  | .closing u (.startClose k) =>
    match s.closes u with
    | .attempt index => if within : index < n then some (⟨index, within⟩, .closing k .start) else none
    | _ => none
  | .client index action => some (index, action)
  | _ => none

/-- Who steps the client of a node: a retry loop, an `open` or a `close` of the
replset client, or a step inside that client. -/
inductive ClientMove (s : State n) (index : Fin n) : Action n → Connection.Action → Prop
  | loopOpens {d o} : ClientMove s index (.send d (.startOpen o)) (.opening o .start)
  | loopSends {d c round} : s.sends d = .connected round index →
      ClientMove s index (.send d (.startSend c)) (.call c (.start round.pending.command))
  | loopCloses {d k round err} : s.sends d = .failed round index err →
      ClientMove s index (.send d (.startClose k)) (.closing k .start)
  | userOpens {u o} : ClientMove s index (.opening u (.startOpen o)) (.opening o .start)
  | userCloses {u k} : ClientMove s index (.closing u (.startClose k)) (.closing k .start)
  | inside {inner} : ClientMove s index (.client index inner) inner

theorem ClientMove.of_clientAction {s : State n} {action : Action n} {index : Fin n} {inner : Connection.Action}
    (atAction : clientAction s action = some (index, inner)) : ClientMove s index action inner := by
  cases action with
  | send d action =>
    cases action with
    | startOpen =>
      simp only [clientAction] at atAction
      repeat' split at atAction
      all_goals cases atAction
      exact .loopOpens
    | startSend =>
      simp only [clientAction] at atAction
      split at atAction <;> cases atAction
      exact .loopSends ‹_›
    | startClose =>
      simp only [clientAction] at atAction
      split at atAction <;> cases atAction
      exact .loopCloses ‹_›
    | _ => cases atAction
  | opening u action =>
    cases action with
    | startOpen =>
      simp only [clientAction] at atAction
      repeat' split at atAction
      all_goals cases atAction
      exact .userOpens
    | _ => cases atAction
  | closing u action =>
    cases action with
    | startClose =>
      simp only [clientAction] at atAction
      repeat' split at atAction
      all_goals cases atAction
      exact .userCloses
    | _ => cases atAction
  | client =>
    cases atAction
    exact .inside
  | tick => cases atAction

theorem clientAction_opening {s : State n} {action : Action n} {index : Fin n} {o : Connection.OpenId}
    {inner : Connection.OpenAction} (atAction : clientAction s action = some (index, .opening o inner)) :
    (∃ d, action = .send d (.startOpen o)) ∨ (∃ u, action = .opening u (.startOpen o)) ∨
      action = .client index (.opening o inner) := by
  cases ClientMove.of_clientAction atAction with
  | loopOpens => exact .inl ⟨_, rfl⟩
  | userOpens => exact .inr (.inl ⟨_, rfl⟩)
  | inside => exact .inr (.inr rfl)

/-- A step inside a client is nobody else's. -/
theorem clientAction_inside {s : State n} {action : Action n} {index : Fin n} {inner : Connection.Action}
    (atAction : clientAction s action = some (index, inner)) (inside : inner.internal = true) :
    action = .client index inner := by
  cases ClientMove.of_clientAction atAction with
  | inside => rfl
  | loopOpens | loopSends | loopCloses | userOpens | userCloses => cases inside

/-- What one step of a `send_command` can be. -/
inductive SendStep (config : Config n) (s : State n) (d : SendId) : SendAction → State n → Prop
  | start {command} : s.sends d = .idle →
      SendStep config s d (.start command)
        { s.moveSend d (.start command) with commands := Function.update s.commands d (some command) }
  | enter {command} : s.sends d = .start command →
      SendStep config s d .enter (s.moveSend d (enterPc config s.now command))
  | push {pending} : s.sends d = .push pending →
      SendStep config s d .push
        { s.moveSend d (.readActive pending none) with pendingCommands := s.pendingCommands ++ [pending] }
  | readActive {pending lastError} : s.sends d = .readActive pending lastError →
      SendStep config s d .readActive
        (s.moveSend d (.attempt
          { pending := pending, lastError := lastError, start := s.activeIndex.getD 0, lastStateError := none,
            offset := 0 }))
  | startOpen {round o client} (within : round.offset < n) : s.sends d = .attempt round →
      Connection.step (config.client (round.index within)) (s.clients (round.index within)) (.opening o .start) =
        some client →
      SendStep config s d (.startOpen o)
        ((s.withClient (round.index within) client).moveSend d (.opening round (round.index within) o))
  | opened {round index o outcome} : s.sends d = .opening round index o →
      (s.clients index).opens o = .returned outcome →
      SendStep config s d .opened (s.moveSend d (openedPc round index outcome))
  | startSend {round index c client} : s.sends d = .connected round index →
      Connection.step (config.client index) (s.clients index) (.call c (.start round.pending.command)) = some client →
      SendStep config s d (.startSend c)
        { (s.withClient index client).moveSend d (.sending round index c) with
          attempts := Function.update s.attempts d (s.attempts d ++ [(index, c)]) }
  | answered {round index c outcome} : s.sends d = .sending round index c →
      (s.clients index).calls c = .returned outcome →
      SendStep config s d .answered (s.moveSend d (answeredPc round index outcome))
  | startClose {round index err k client} : s.sends d = .failed round index err →
      Connection.step (config.client index) (s.clients index) (.closing k .start) = some client →
      SendStep config s d (.startClose k) ((s.withClient index client).moveSend d (.closing round index err k))
  | closed {round index err k} : s.sends d = .closing round index err k → (s.clients index).closes k = .returned →
      SendStep config s d .closed (s.moveSend d (.redirect (round.transportError err)))
  | redirect {round} : s.sends d = .redirect round →
      SendStep config s d .redirect ((s.updateRetryType round.pending).moveSend d (.attempt round))
  | setActive {pending index result} : s.sends d = .setActive pending index result →
      SendStep config s d .setActive
        { s.moveSend d (.remove pending.requestId (.ok result)) with activeIndex := some index.val }
  | endRound {round} : s.sends d = .attempt round → n ≤ round.offset →
      SendStep config s d .endRound (s.moveSend d (endRoundPc s.now round))
  | retry {pending lastError} : s.sends d = .retry pending lastError →
      SendStep config s d .retry ((s.updateRetryType pending).moveSend d (.sleep pending lastError))
  | sleep {pending lastError} : s.sends d = .sleep pending lastError →
      SendStep config s d .sleep
        (s.moveSend d (.sleeping pending lastError (s.now + min (pending.deadline - s.now) replsetRetryInterval)))
  | wake {pending lastError wakeAt} : s.sends d = .sleeping pending lastError wakeAt → wakeAt ≤ s.now →
      SendStep config s d .wake (s.moveSend d (.woken { pending with retryType := .woken } lastError))
  | woken {pending lastError} : s.sends d = .woken pending lastError →
      SendStep config s d .woken ((s.updateRetryType pending).moveSend d (.readActive pending lastError))
  | remove {requestId outcome} : s.sends d = .remove requestId outcome →
      SendStep config s d .remove
        { s.moveSend d (.returned outcome) with
          pendingCommands := s.pendingCommands.filter fun pending => pending.requestId ≠ requestId }

theorem SendStep.of_run {config : Config n} {s after : State n} {d : SendId} {action : SendAction}
    (run : stepSend config s d action = some after) : SendStep config s d action after := by
  cases action
  case startOpen o =>
    simp only [stepSend] at run
    split at run
    · split at run
      · obtain ⟨_, stepped, rfl⟩ := Option.map_eq_some_iff.mp run
        obtain ⟨client, inner, rfl⟩ := Option.map_eq_some_iff.mp stepped
        exact .startOpen ‹_› ‹_› inner
      · cases run
    · cases run
  case startSend c =>
    simp only [stepSend] at run
    split at run
    · obtain ⟨_, stepped, rfl⟩ := Option.map_eq_some_iff.mp run
      obtain ⟨client, inner, rfl⟩ := Option.map_eq_some_iff.mp stepped
      exact .startSend ‹_› inner
    · cases run
  case startClose k =>
    simp only [stepSend] at run
    split at run
    · obtain ⟨_, stepped, rfl⟩ := Option.map_eq_some_iff.mp run
      obtain ⟨client, inner, rfl⟩ := Option.map_eq_some_iff.mp stepped
      exact .startClose ‹_› inner
    · cases run
  case opened | answered | closed | endRound | wake =>
    simp only [stepSend] at run
    split at run
    · split at run <;> cases run
      constructor <;> assumption
    · cases run
  all_goals
    simp only [stepSend] at run
    split at run <;> cases run
    constructor
    assumption

/-- The command that a loop works on. -/
def SendPc.command : SendPc n → Option Command
  | .idle => none
  | .start command => some command
  | .push pending => some pending.command
  | .readActive pending _ => some pending.command
  | .attempt round => some round.pending.command
  | .opening round _ _ => some round.pending.command
  | .connected round _ => some round.pending.command
  | .sending round _ _ => some round.pending.command
  | .failed round _ _ => some round.pending.command
  | .closing round _ _ _ => some round.pending.command
  | .redirect round => some round.pending.command
  | .setActive pending _ _ => some pending.command
  | .retry pending _ => some pending.command
  | .sleep pending _ => some pending.command
  | .sleeping pending _ _ => some pending.command
  | .woken pending _ => some pending.command
  | .remove _ _ => none
  | .returned _ => none

/-- A loop that may still begin another call. -/
def SendPc.free : SendPc n → Bool
  | .sending _ _ _ => false
  | .setActive _ _ _ => false
  | .remove _ _ => false
  | .returned _ => false
  | _ => true

/-- A loop that waits for a call, or is about to close the client after one. -/
def SendPc.calling : SendPc n → Bool
  | .sending _ _ _ => true
  | .failed _ _ _ => true
  | .closing _ _ _ _ => true
  | _ => false

theorem enterPc_calling (config : Config n) (now : Instant) (command : Command) :
    (enterPc config now command).calling = false := by
  unfold enterPc
  split
  · rfl
  · split <;> rfl

theorem openedPc_calling (round : Round) (index : Fin n) (outcome : Outcome Unit) :
    (openedPc round index outcome).calling = false := by
  cases outcome <;> rfl

theorem answeredPc_calling {round : Round} {index : Fin n} {outcome : Outcome CommandResult}
    (calling : (answeredPc round index outcome).calling = true) :
    ∃ err, retryableTransportError err = true ∧ outcome = .error err ∧
      answeredPc round index outcome = .failed round index err := by
  cases outcome with
  | ok => simp only [answeredPc] at calling; split at calling <;> cases calling
  | error err =>
    simp only [answeredPc] at calling ⊢
    split at calling
    · rename_i retry
      exact ⟨err, retry.1, rfl, if_pos retry⟩
    · cases calling

theorem endRoundPc_calling (now : Instant) (round : Round) : (endRoundPc now round : SendPc n).calling = false := by
  unfold endRoundPc
  split
  · rfl
  · split <;> rfl

theorem PendingCommand.new_command {command : Command} {grace : Duration} {now : Instant} {pending : PendingCommand}
    (made : PendingCommand.new command grace now = .ok pending) : pending.command = command := by
  obtain ⟨_, _, same⟩ := Outcome.bind_eq_ok.mp made
  cases same
  rfl

section Loops

variable {config : Config n} {s after : State n} {d : SendId} {action : SendAction}

theorem SendStep.frame (taken : SendStep config s d action after) {other : SendId} (apart : other ≠ d) :
    after.sends other = s.sends other ∧ after.commands other = s.commands other ∧
      after.attempts other = s.attempts other := by
  cases taken <;> exact ⟨Function.update_of_ne apart .., by first | rfl | exact Function.update_of_ne apart ..,
    by first | rfl | exact Function.update_of_ne apart ..⟩

/-- A loop keeps its command. -/
theorem SendStep.command (taken : SendStep config s d action after) {command : Command}
    (atCommand : (after.sends d).command = some command) :
    (s.sends d).command = some command ∧ after.commands = s.commands ∨
      action = .start command ∧ s.sends d = .idle ∧ after.commands = Function.update s.commands d (some command) := by
  cases taken with
  | start atPc =>
    simp only [State.moveSend, Function.update_self] at atCommand
    cases atCommand
    exact .inr ⟨rfl, atPc, rfl⟩
  | enter atPc =>
    simp only [State.moveSend, Function.update_self, enterPc] at atCommand
    rw [atPc]
    split at atCommand
    · cases atCommand
    · split at atCommand
      · cases atCommand
      · rename_i pending made
        cases atCommand
        exact .inl ⟨by rw [SendPc.command, PendingCommand.new_command made], rfl⟩
  | @opened _ _ _ outcome atPc =>
    simp only [State.moveSend, Function.update_self] at atCommand
    rw [atPc]
    cases outcome <;> exact .inl ⟨atCommand, rfl⟩
  | @answered _ _ _ outcome atPc =>
    simp only [State.moveSend, Function.update_self] at atCommand
    rw [atPc]
    cases outcome <;> simp only [answeredPc] at atCommand <;> split at atCommand <;>
      first | exact .inl ⟨atCommand, rfl⟩ | cases atCommand
  | endRound atPc =>
    simp only [State.moveSend, Function.update_self, endRoundPc] at atCommand
    rw [atPc]
    repeat' split at atCommand
    all_goals first | exact .inl ⟨atCommand, rfl⟩ | cases atCommand
  | push atPc | readActive atPc | startOpen _ atPc | startSend atPc | startClose atPc | closed atPc | redirect atPc
  | setActive atPc | retry atPc | sleep atPc | wake atPc | woken atPc | remove atPc =>
    simp only [State.moveSend, Function.update_self] at atCommand
    rw [atPc]
    first | exact .inl ⟨atCommand, rfl⟩ | cases atCommand

/-- A loop enters a call, sees it fail and begins to close its client by a step for each. -/
theorem SendStep.calling (taken : SendStep config s d action after) (calling : (after.sends d).calling = true) :
    (∃ c, action = .startSend c) ∨ action = .answered ∨ ∃ k, action = .startClose k := by
  cases taken with
  | startSend => exact .inl ⟨_, rfl⟩
  | answered => exact .inr (.inl rfl)
  | startClose => exact .inr (.inr ⟨_, rfl⟩)
  | enter => simp only [State.moveSend, Function.update_self, enterPc_calling] at calling; cases calling
  | opened => simp only [State.moveSend, Function.update_self, openedPc_calling] at calling; cases calling
  | endRound => simp only [State.moveSend, Function.update_self, endRoundPc_calling] at calling; cases calling
  | start | push | readActive | startOpen | closed | redirect | setActive | retry | sleep | wake | woken | remove =>
    simp only [State.moveSend, Function.update_self] at calling
    cases calling

/-- A loop waits for the call that it has just begun. -/
theorem SendStep.sending (taken : SendStep config s d action after) {round : Round} {index : Fin n}
    {c : Connection.CallId} (sending : after.sends d = .sending round index c) :
    s.sends d = .connected round index ∧ (s.clients index).calls c = .idle ∧
      (after.clients index).calls c ≠ .idle ∧ (after.clients index).command c = some round.pending.command ∧
      after.attempts = Function.update s.attempts d (s.attempts d ++ [(index, c)]) := by
  obtain ⟨_, rfl⟩ | rfl | ⟨_, rfl⟩ := taken.calling (by rw [sending]; rfl)
  · cases taken with
    | startSend atPc run =>
      simp only [State.moveSend, Function.update_self] at sending
      cases sending
      cases Connection.Step.of_run run with
      | network taken => cases taken
      | call taken =>
        cases taken with
        | start idle =>
          refine ⟨atPc, idle, ?_, ?_, rfl⟩ <;> simp only [State.withClient, State.moveSend, Function.update_self]
          nofun
  · cases taken
    simp only [State.moveSend, Function.update_self] at sending
    obtain ⟨_, _, _, atFailed⟩ := answeredPc_calling (by rw [sending]; rfl)
    cases atFailed.symm.trans sending
  · cases taken
    simp only [State.moveSend, Function.update_self] at sending
    cases sending

/-- A loop goes on when its call has returned. -/
theorem SendStep.returned (taken : SendStep config s d action after) {round : Round} {index : Fin n}
    {c : Connection.CallId} (sending : s.sends d = .sending round index c) :
    ∃ outcome, (s.clients index).calls c = .returned outcome ∧ after = s.moveSend d (answeredPc round index outcome) := by
  cases taken with
  | answered atPc returned =>
    cases atPc.symm.trans sending
    exact ⟨_, returned, rfl⟩
  | start atPc | enter atPc | push atPc | readActive atPc | startOpen _ atPc | opened atPc | startSend atPc
  | startClose atPc | closed atPc | redirect atPc | setActive atPc | endRound atPc | retry atPc | sleep atPc | wake atPc
  | woken atPc | remove atPc => cases atPc.symm.trans sending

/-- A loop whose attempt has failed has just seen its call return. -/
theorem SendStep.failed (taken : SendStep config s d action after) {round : Round} {index : Fin n} {err : SlockError}
    (failed : after.sends d = .failed round index err) :
    ∃ c, s.sends d = .sending round index c ∧ (s.clients index).calls c = .returned (.error err) ∧
      retryableTransportError err = true ∧ after.clients = s.clients ∧ after.attempts = s.attempts := by
  obtain ⟨_, rfl⟩ | rfl | ⟨_, rfl⟩ := taken.calling (by rw [failed]; rfl)
  · cases taken
    simp only [State.moveSend, Function.update_self] at failed
    cases failed
  · cases taken with
    | @answered round' index' c outcome atPc returned =>
      simp only [State.moveSend, Function.update_self] at failed
      obtain ⟨err', retry, rfl, atFailed⟩ := answeredPc_calling (by rw [failed]; rfl)
      cases atFailed.symm.trans failed
      exact ⟨c, atPc, returned, retry, rfl, rfl⟩
  · cases taken
    simp only [State.moveSend, Function.update_self] at failed
    cases failed

theorem SendStep.closing (taken : SendStep config s d action after) {round : Round} {index : Fin n} {err : SlockError}
    {k : Connection.CloseId} (closing : after.sends d = .closing round index err k) :
    s.sends d = .failed round index err ∧ action = .startClose k ∧ (after.clients index).closes k = .storeClosed ∧
      after.attempts = s.attempts := by
  obtain ⟨_, rfl⟩ | rfl | ⟨_, rfl⟩ := taken.calling (by rw [closing]; rfl)
  · cases taken
    simp only [State.moveSend, Function.update_self] at closing
    cases closing
  · cases taken
    simp only [State.moveSend, Function.update_self] at closing
    obtain ⟨_, _, _, atFailed⟩ := answeredPc_calling (by rw [closing]; rfl)
    cases atFailed.symm.trans closing
  · cases taken with
    | startClose atPc run =>
      simp only [State.moveSend, Function.update_self] at closing
      cases closing
      refine ⟨atPc, rfl, ?_, rfl⟩
      simp only [State.withClient, State.moveSend, Function.update_self]
      cases Connection.Step.of_run run with
      | network taken => cases taken
      | closing taken => cases taken with | start => exact Function.update_self ..

theorem SendStep.attempts (taken : SendStep config s d action after) :
    after.attempts = s.attempts ∨ ∃ attempt, (s.sends d).free = true ∧
      after.attempts = Function.update s.attempts d (s.attempts d ++ [attempt]) := by
  cases taken with
  | startSend atPc => exact .inr ⟨_, by rw [atPc]; rfl, rfl⟩
  | _ => exact .inl rfl

/-- A loop goes on after a call that has failed, or that a node has refused. -/
theorem SendStep.free (taken : SendStep config s d action after) (free : (after.sends d).free = true) :
    after.attempts = s.attempts ∧ ((s.sends d).free = true ∨
      ∃ round index c, s.sends d = .sending round index c ∧
        ((∃ err, (s.clients index).calls c = .returned (.error err) ∧ retryableTransportError err = true) ∨
          ∃ result, (s.clients index).calls c = .returned (.ok result) ∧ lockStateError result = true)) := by
  cases taken with
  | @answered round index c outcome atPc returned =>
    refine ⟨rfl, .inr ⟨round, index, c, atPc, ?_⟩⟩
    simp only [State.moveSend, Function.update_self] at free
    cases outcome with
    | ok result =>
      simp only [answeredPc] at free
      split at free
      · rename_i refused
        exact .inr ⟨result, returned, refused.1⟩
      · cases free
    | error err =>
      simp only [answeredPc] at free
      split at free
      · rename_i retry
        exact .inl ⟨err, returned, retry.1⟩
      · cases free
  | startSend | setActive | remove =>
    simp only [State.moveSend, Function.update_self] at free
    cases free
  | start atPc | enter atPc | push atPc | readActive atPc | startOpen _ atPc | opened atPc | startClose atPc | closed atPc
  | redirect atPc | endRound atPc | retry atPc | sleep atPc | wake atPc | woken atPc =>
    exact ⟨rfl, .inl (by rw [atPc]; rfl)⟩

end Loops

/-- What one step of an `open` of the replset client can be. -/
inductive OpenStep (config : Config n) (s : State n) (u : OpenId) : OpenAction → State n → Prop
  | start : s.opens u = .idle →
      OpenStep config s u .start
        (s.moveOpen u (if n = 0 then .returned (.error .notConnected) else .attempt ⟨0, none, none, none⟩))
  | startOpen {opened o client} (within : opened.index < n) : s.opens u = .attempt opened →
      Connection.step (config.client ⟨opened.index, within⟩) (s.clients ⟨opened.index, within⟩) (.opening o .start) =
        some client →
      OpenStep config s u (.startOpen o)
        ((s.withClient ⟨opened.index, within⟩ client).moveOpen u (.opening opened ⟨opened.index, within⟩ o))
  | opened {opened index o} : s.opens u = .opening opened index o → (s.clients index).opens o = .returned (.ok ()) →
      OpenStep config s u .opened (s.moveOpen u (.readInitType (opened.next (.ok ())) index))
  | unopened {opened index o err} : s.opens u = .opening opened index o →
      (s.clients index).opens o = .returned (.error err) →
      OpenStep config s u .opened (s.moveOpen u (.attempt (opened.next (.error err))))
  | readInitType {opened index} : s.opens u = .readInitType opened index →
      OpenStep config s u .readInitType (s.moveOpen u (.attempt (opened.readLeader (s.clients index).initType)))
  | choose {opened} : s.opens u = .attempt opened → n ≤ opened.index →
      OpenStep config s u .choose (s.moveOpen u (choosePc opened))
  | setActive {index} : s.opens u = .setActive index →
      OpenStep config s u .setActive { s.moveOpen u (.returned (.ok ())) with activeIndex := some index }

theorem OpenStep.of_run {config : Config n} {s after : State n} {u : OpenId} {action : OpenAction}
    (run : stepOpen config s u action = some after) : OpenStep config s u action after := by
  cases action
  case startOpen o =>
    simp only [stepOpen] at run
    split at run
    · split at run
      · obtain ⟨_, stepped, rfl⟩ := Option.map_eq_some_iff.mp run
        obtain ⟨client, inner, rfl⟩ := Option.map_eq_some_iff.mp stepped
        exact .startOpen ‹_› ‹_› inner
      · cases run
    · cases run
  case opened =>
    simp only [stepOpen] at run
    split at run
    · split at run <;> cases run
      · exact .opened ‹_› ‹_›
      · exact .unopened ‹_› ‹_›
    · cases run
  case choose =>
    simp only [stepOpen] at run
    split at run
    · split at run <;> cases run
      exact .choose ‹_› ‹_›
    · cases run
  all_goals
    simp only [stepOpen] at run
    split at run <;> cases run
    constructor
    assumption

/-- What one step of a `close` of the replset client can be. -/
inductive CloseStep (config : Config n) (s : State n) (u : CloseId) : CloseAction → State n → Prop
  | start : s.closes u = .idle → CloseStep config s u .start (s.moveClose u (.attempt 0))
  | startClose {index k client} (within : index < n) : s.closes u = .attempt index →
      Connection.step (config.client ⟨index, within⟩) (s.clients ⟨index, within⟩) (.closing k .start) = some client →
      CloseStep config s u (.startClose k)
        ((s.withClient ⟨index, within⟩ client).moveClose u (.closing ⟨index, within⟩ k))
  | closed {index k} : s.closes u = .closing index k → (s.clients index).closes k = .returned →
      CloseStep config s u .closed (s.moveClose u (.attempt (index.val + 1)))
  | endLoop {index} : s.closes u = .attempt index → n ≤ index →
      CloseStep config s u .endLoop (s.moveClose u .clearActive)
  | clearActive : s.closes u = .clearActive →
      CloseStep config s u .clearActive { s.moveClose u .returned with activeIndex := none }

theorem CloseStep.of_run {config : Config n} {s after : State n} {u : CloseId} {action : CloseAction}
    (run : stepClose config s u action = some after) : CloseStep config s u action after := by
  cases action
  case startClose k =>
    simp only [stepClose] at run
    split at run
    · split at run
      · obtain ⟨_, stepped, rfl⟩ := Option.map_eq_some_iff.mp run
        obtain ⟨client, inner, rfl⟩ := Option.map_eq_some_iff.mp stepped
        exact .startClose ‹_› ‹_› inner
      · cases run
    · cases run
  case closed | endLoop =>
    simp only [stepClose] at run
    split at run
    · split at run <;> cases run
      constructor <;> assumption
    · cases run
  all_goals
    simp only [stepClose] at run
    split at run <;> cases run
    constructor
    assumption

/-- One step of the replset client is a step of one of its users, a step
inside one of its clients, or the passing of time. -/
inductive Step (config : Config n) (s : State n) : Action n → State n → Prop
  | send {d action after} : SendStep config s d action after → Step config s (.send d action) after
  | opening {u action after} : OpenStep config s u action after → Step config s (.opening u action) after
  | closing {u action after} : CloseStep config s u action after → Step config s (.closing u action) after
  | client {index action client} : action.internal = true →
      Connection.step (config.client index) (s.clients index) action = some client →
      Step config s (.client index action) (s.withClient index client)
  | tick {elapsed} : Step config s (.tick elapsed) { s with now := s.now + elapsed }

theorem Step.of_run {config : Config n} {s after : State n} {action : Action n}
    (run : step config s action = some after) : Step config s action after := by
  cases action with
  | send d action => exact .send (.of_run run)
  | opening u action => exact .opening (.of_run run)
  | closing u action => exact .closing (.of_run run)
  | client index action =>
    obtain ⟨inside, stepped⟩ := Option.ite_none_right_eq_some.mp run
    obtain ⟨client, inner, rfl⟩ := Option.map_eq_some_iff.mp stepped
    exact .client inside inner
  | tick elapsed => cases run; exact .tick

/-- How a step moves the clients: not at all, or one of them by one step. -/
inductive ClientsStep (config : Config n) (s : State n) (action : Action n) (after : State n) : Prop
  | none : clientAction s action = none → after.clients = s.clients → ClientsStep config s action after
  | one {index inner client} : clientAction s action = some (index, inner) →
      Connection.step (config.client index) (s.clients index) inner = some client →
      after.clients = Function.update s.clients index client → ClientsStep config s action after

theorem Step.clients {config : Config n} {s after : State n} {action : Action n}
    (taken : Step config s action after) : ClientsStep config s action after := by
  cases taken with
  | tick => exact .none rfl rfl
  | client _ inner => exact .one rfl inner rfl
  | send taken =>
    cases taken with
    | startOpen within atPc inner => exact .one (by simp only [clientAction, atPc, dif_pos within]) inner rfl
    | startSend atPc inner | startClose atPc inner => exact .one (by simp only [clientAction, atPc]) inner rfl
    | _ => exact .none rfl rfl
  | opening taken =>
    cases taken with
    | startOpen within atPc inner => exact .one (by simp only [clientAction, atPc, dif_pos within]) inner rfl
    | _ => exact .none rfl rfl
  | closing taken =>
    cases taken with
    | startClose within atPc inner => exact .one (by simp only [clientAction, atPc, dif_pos within]) inner rfl
    | _ => exact .none rfl rfl

/-- How a step moves the client of a node. -/
theorem Step.client_of {config : Config n} {s after : State n} {action : Action n} (taken : Step config s action after)
    (index : Fin n) :
    after.clients index = s.clients index ∨
      ∃ inner, clientAction s action = some (index, inner) ∧
        Connection.Step (config.client index) (s.clients index) inner (after.clients index) := by
  rcases taken.clients with ⟨_, same⟩ | @⟨moved, inner, client, atAction, run, new⟩
  · exact .inl (by rw [same])
  · by_cases here : index = moved
    · subst here
      refine .inr ⟨inner, atAction, ?_⟩
      rw [new, Function.update_self]
      exact .of_run run
    · exact .inl (by rw [new, Function.update_of_ne here])

theorem Step.commands {config : Config n} {s after : State n} {action : Action n} (taken : Step config s action after) :
    after.commands = s.commands ∨ ∃ d command, action = .send d (.start command) ∧
      after.commands = Function.update s.commands d (some command) := by
  cases taken with
  | send taken =>
    cases taken with
    | start => exact .inr ⟨_, _, rfl, rfl⟩
    | _ => exact .inl rfl
  | opening taken => cases taken <;> exact .inl rfl
  | closing taken => cases taken <;> exact .inl rfl
  | client => exact .inl rfl
  | tick => exact .inl rfl

/-- Only a loop begins a call. -/
theorem Step.begins {config : Config n} {s after : State n} {action : Action n} (taken : Step config s action after)
    {index : Fin n} {c : Connection.CallId} (idle : (s.clients index).calls c = .idle)
    (busy : (after.clients index).calls c ≠ .idle) : ∃ d round, after.sends d = .sending round index c := by
  rcases taken.client_of index with same | ⟨inner, atAction, step⟩
  · rw [same] at busy
    exact absurd idle busy
  · cases step with
    | opening step => rw [step.frame.calls] at busy; exact absurd idle busy
    | closing step => rw [step.frame.calls] at busy; exact absurd idle busy
    | reader step => rw [step.frame.calls] at busy; exact absurd idle busy
    | network step => rw [step.frame.calls] at busy; exact absurd idle busy
    | @call moved action' _ step =>
      by_cases same : c = moved
      · subst same
        obtain ⟨command, rfl⟩ := step.begins idle
        clear step
        cases ClientMove.of_clientAction atAction with
        | loopSends connected =>
          cases taken with
          | send taken =>
            cases taken with
            | startSend atPc =>
              cases connected.symm.trans atPc
              exact ⟨_, _, Function.update_self ..⟩
        | inside => cases taken with | client inside => cases inside
      · rw [(step.frame.others c same).1] at busy
        exact absurd idle busy

/-- Whoever begins to close the client of a node. -/
theorem Step.closes {config : Config n} {s after : State n} {action : Action n} (taken : Step config s action after)
    {index : Fin n} {k : Connection.CloseId} (atAction : clientAction s action = some (index, .closing k .start)) :
    (∃ d round err, s.sends d = .failed round index err) ∨ ∃ u, action = .closing u (.startClose k) := by
  cases ClientMove.of_clientAction atAction with
  | loopCloses atPc => exact .inl ⟨_, _, _, atPc⟩
  | userCloses => exact .inr ⟨_, rfl⟩
  | inside => cases taken with | client inside => cases inside

/-- Only its own steps move a loop. -/
theorem Step.loop {config : Config n} {s after : State n} {action : Action n} (taken : Step config s action after)
    (d : SendId) :
    (∃ action', action = .send d action' ∧ SendStep config s d action' after) ∨
      after.sends d = s.sends d ∧ after.commands d = s.commands d ∧ after.attempts d = s.attempts d := by
  cases taken with
  | @send moved action' _ taken =>
    by_cases here : d = moved
    · subst here
      exact .inl ⟨action', rfl, taken⟩
    · exact .inr (taken.frame here)
  | opening taken => cases taken <;> exact .inr ⟨rfl, rfl, rfl⟩
  | closing taken => cases taken <;> exact .inr ⟨rfl, rfl, rfl⟩
  | client => exact .inr ⟨rfl, rfl, rfl⟩
  | tick => exact .inr ⟨rfl, rfl, rfl⟩

/-- A loop that works on the command its caller gave it goes on doing so. -/
theorem Step.command_known {config : Config n} {s after : State n} {action : Action n}
    (taken : Step config s action after) {d : SendId}
    (known : ∀ command, (s.sends d).command = some command → s.commands d = some command) :
    ∀ command, (after.sends d).command = some command → after.commands d = some command := by
  intro command atCommand
  rcases taken.loop d with ⟨_, rfl, sent⟩ | ⟨sends, commands, _⟩
  · rcases sent.command atCommand with ⟨before, same⟩ | ⟨_, _, new⟩
    · rw [same]
      exact known command before
    · rw [new, Function.update_self]
  · rw [sends] at atCommand
    rw [commands]
    exact known command atCommand

/-- What every run of the replset client does to one node is a run of the
connection to that node. -/
theorem client_reach {config : Config n} {allowed : State n → Action n → Prop}
    {allowed' : Connection.State → Connection.Action → Prop} {s later : State n} (index : Fin n)
    (reach : Reach (step config) allowed s later)
    (meets : ∀ before action inner, Reach (step config) allowed s before → allowed before action →
      clientAction before action = some (index, inner) → allowed' (before.clients index) inner) :
    Reach (Connection.step (config.client index)) allowed' (s.clients index) (later.clients index) := by
  refine reach.simulate (fun state => state.clients index) ?_
  intro before action after previous isAllowed run
  rcases (Step.of_run run).clients with ⟨_, same⟩ | @⟨moved, inner, client, atAction, stepped, new⟩
  · exact .inl (by rw [same])
  · by_cases here : index = moved
    · subst here
      have isAllowed' := meets before action inner previous isAllowed atAction
      exact .inr ⟨inner, isAllowed', by rw [new, Function.update_self, stepped]⟩
    · exact .inl (by rw [new, Function.update_of_ne here])

theorem client_reached {config : Config n} {allowed : State n → Action n → Prop} {s : State n} (index : Fin n)
    (reach : Reached config allowed s) :
    Connection.Reached (config.client index) Always (s.clients index) :=
  client_reach index reach fun _ _ _ _ _ _ => trivial

/-- A replset of two nodes. -/
def pair : Config 2 := ⟨.blocking, fun _ => "", Duration.fromSecs 120⟩

/-- A single node. -/
def sole : Config 1 := ⟨.blocking, fun _ => "", Duration.fromSecs 120⟩

def firstNode : Fin 2 := 0

def secondNode : Fin 2 := 1

def onlyNode : Fin 1 := ⟨0, Nat.one_pos⟩

/-- A `send_command` of a lock command, up to its first round. -/
def beginActions (d : SendId) (requestId : Id16) : List (Action n) :=
  [.send d (.start (.lock
      { commandType := commandTypeLock, flag := 0, dbId := 0, requestId := requestId, lockKey := ⟨Block.zero 16⟩,
        lockId := ⟨Block.zero 16⟩, timeout := ⟨5⟩, expired := ⟨10⟩, count := 0, rCount := 0, data := none })),
    .send d .enter, .send d .push, .send d .readActive]

/-- The loop opens a node. -/
def openNode (d : SendId) (index : Fin n) (o : Connection.OpenId) (stream : Connection.StreamId) : List (Action n) :=
  .send d (.startOpen o) :: ((Connection.openActions o stream).tail.map (.client index) ++ [.send d .opened])

/-- The loop cannot connect to a node. -/
def missNode (d : SendId) (index : Fin n) (o : Connection.OpenId) : List (Action n) :=
  [.send d (.startOpen o), .client index (.opening o .lockWriter), .client index (.opening o .findWriter),
    .client index (.opening o .storeClosed), .client index (.opening o (.connectFails .timedOut)), .send d .opened]

/-- The loop writes its command to a node that it has opened. -/
def writeNode (d : SendId) (index : Fin n) (c : Connection.CallId) : List (Action n) :=
  [.send d (.startSend c), .client index (.call c .enter), .client index (.call c .lockPending),
    .client index (.call c .insert)] ++ (Connection.writeActions c).map (.client index)

/-- Steps of a `close` of the client of a node. -/
def closeSteps (index : Fin n) (k : Connection.CloseId) (actions : List Connection.CloseAction) : List (Action n) :=
  actions.map fun action => .client index (.closing k action)

/-- The `close` of a client that has no writer and no entries. -/
def closeEmpty (index : Fin n) (k : Connection.CloseId) : List (Action n) :=
  closeSteps index k [.storeClosed, .lockWriter, .takeWriter, .lockPending, .finish]

end Ruslock.Replset
