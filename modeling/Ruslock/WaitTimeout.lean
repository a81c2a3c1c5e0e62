import Ruslock.RetryOutcome
import Ruslock.TreeLeafLock
import Ruslock.Event

namespace Ruslock

/-- The errors of a connection, from its connect attempt on. -/
def SlockError.ofConnection : SlockError → Bool
  | .io _ => true
  | .protocol _ => true
  | .server _ => true
  | .clientClosed => true
  | .notConnected => true
  | _ => false

namespace Replset
open Transition

variable {n : Nat}

/-- A call of `wait` of an event or of a group event. -/
inductive WaitTalk (md5 : List UInt8 → Wire.Block 16) (said : Dialogue.Transcript Effect.Answer)
    (outcome : Outcome Unit) : Prop
  | event {event after : Event} {timeout : UInt16} : Dialogue.Talk (event.wait md5 timeout) said (outcome, after) →
      WaitTalk md5 said outcome
  | groupEvent {event after : GroupEvent} {timeout : UInt16} :
      Dialogue.Talk (event.wait md5 timeout) said (outcome, after) → WaitTalk md5 said outcome

/-- A `send_command` of the replset client sends what a call asks for, and the
call gets what it has returned. -/
def Serves (s : State n) (d : SendId) (said : Dialogue.Transcript Effect.Answer) : Prop :=
  ∀ exchange ∈ exchanges said, s.commands d = some (.lock exchange.command) ∧ s.sends d = .returned exchange.answer

/-- The call of a node has come back with the node's TIMEOUT, or has waited as
long as it may. -/
inductive TimedOutAt (config : Config n) (s : State n) (index : Fin n) (c : Connection.CallId) : Prop
  | answered {stream frame result} : (s.clients index).calls c = .returned (.ok (.lock result)) →
      ⟨.response stream frame, .ok (.lock result)⟩ ∈ (s.clients index).channel c → result.result = commandResultTimeout →
      TimedOutAt config s index c
  | ranOut : (s.clients index).calls c = .returned (.error .commandTimeout) → RanOut config s index c →
      TimedOutAt config s index c

/-- The command of a loop was written to a node, and has timed out there. -/
structure WaitedAt (config : Config n) (s : State n) (d : SendId) (index : Fin n) (c : Connection.CallId) : Prop where
  attempted : (index, c) ∈ s.attempts d
  command : (s.clients index).command c = s.commands d
  written : ((s.clients index).written c).isSome = true
  timedOut : TimedOutAt config s index c

/-- A wait is only said to have timed out if some node has waited; one that has
reached no node ends with an error of a connection. -/
structure Honest (config : Config n) (s : State n) (d : SendId) (outcome : Outcome Unit) : Prop where
  waited : outcome = .error .eventWaitTimeout → ∃ index c, WaitedAt config s d index c
  unreached : (∀ a ∈ s.attempts d, (s.clients a.1).written a.2 = none) →
    ∃ err, outcome = .error err ∧ err.ofConnection = true

/-- The last node that was tried could not be connected to in time by the async
client, and no node of its round has refused the command. -/
def SendLog.ConnectTimedOut (config : Config n) (log : SendLog n) : Prop :=
  config.backend = .aio ∧ ∃ current attempt, log.rounds.head? = some current ∧ current.attempts.head? = some attempt ∧
    attempt.behaviour = some (.unopened (Connection.connectError (config.client attempt.index) .timedOut)) ∧
    ∀ attempt ∈ current.attempts, ¬ attempt.Refused

section Outcomes

theorem WaitTalk.exchange {md5 : List UInt8 → Wire.Block 16} {said : Dialogue.Transcript Effect.Answer}
    {outcome : Outcome Unit} (waits : WaitTalk md5 said outcome) :
    ∃ exchange, exchanges said = [exchange] ∧ exchange.command.flag = 0 ∧ outcome = Event.waitOutcome exchange.outcome := by
  cases waits with
  | event talk =>
    obtain ⟨exchange, atSaid, ⟨_, flag⟩, same⟩ := Event.wait_talk talk
    exact ⟨exchange, atSaid, flag, congrArg Prod.fst same⟩
  | groupEvent talk =>
    obtain ⟨exchange, atSaid, ⟨_, flag⟩, same⟩ := GroupEvent.wait_talk talk
    exact ⟨exchange, atSaid, flag, congrArg Prod.fst same⟩

/-- A command without data can be encoded. -/
theorem encode_of_flag {command : LockCommand} (flag : command.flag = 0) (err : SlockError) :
    (Command.lock command).encode ≠ .error err := by
  have bare : command.hasExtraData = false := by
    rw [LockCommand.hasExtraData, flag]
    rfl
  have extra : command.extra = .ok none := by rw [LockCommand.extra, bare]; rfl
  rw [Command.encode, extra]
  nofun

theorem waitOutcome_ok {result : CommandResult}
    (timeout : Event.waitOutcome (expectLock (.ok result) >>= resultOutcome) = .error .eventWaitTimeout) :
    ∃ lock, result = .lock lock ∧ lock.result = commandResultTimeout := by
  cases result with
  | init | ping => cases timeout
  | lock result =>
    refine ⟨result, rfl, ?_⟩
    by_contra other
    have whole : (expectLock (.ok (.lock result)) >>= resultOutcome) = resultOutcome result := rfl
    rw [whole, resultOutcome, if_neg other] at timeout
    split at timeout
    · cases timeout
    · repeat' split at timeout
      all_goals cases timeout

theorem retryable_ofConnection {err : SlockError} (retry : retryableTransportError err = true) :
    waitError err = err ∧ err.ofConnection = true := by
  cases err with
  | io | notConnected | clientClosed => exact ⟨rfl, rfl⟩
  | _ => cases retry

theorem openError_ofConnection {config : Connection.Config} {err : SlockError}
    (opens : Connection.OpenError config err) :
    config.backend = .aio ∧ err = .commandTimeout ∨ waitError err = err ∧ err.ofConnection = true := by
  cases opens with
  | io | protocol | server => exact .inr ⟨rfl, rfl⟩
  | timedOut async => exact .inl ⟨async, rfl⟩

end Outcomes

section Waits

variable {config : Config n} {s : State n} {d : SendId} {log : SendLog n} {command : LockCommand}
  {answer : Outcome CommandResult} {err : SlockError}

theorem honest_of_ofConnection (same : waitError err = err) (connection : err.ofConnection = true) :
    Honest config s d (Event.waitOutcome (expectLock (.error err) >>= resultOutcome)) := by
  have whole : Event.waitOutcome (expectLock (.error err) >>= resultOutcome) = .error err := congrArg Except.error same
  rw [whole]
  constructor
  · rintro ⟨⟩
    cases connection
  · exact fun _ => ⟨err, rfl, connection⟩

/-- What a call of a node has returned is told honestly. -/
theorem Began.honest (began : Began s d log) (reach : Reached config Always s)
    (whole : s.commands d = some (.lock command)) (flag : command.flag = 0) {index : Fin n} {c : Connection.CallId}
    (member : (index, c) ∈ s.attempts d) (returned : (s.clients index).calls c = .returned answer) :
    Honest config s d (Event.waitOutcome (expectLock answer >>= resultOutcome)) := by
  obtain ⟨_, own, same⟩ := began.attempted _ member
  have sameCommand : (s.clients index).command c = s.commands d := own.trans same.symm
  have wrote : ((s.clients index).written c).isSome = true →
      ¬ ∀ a ∈ s.attempts d, (s.clients a.1).written a.2 = none := by
    intro written unwritten
    rw [unwritten _ member] at written
    cases written
  cases (Connection.Outcomes.of_reach (client_reached index reach)).ends c answer returned with
  | answered written told =>
    refine ⟨fun timeout => ?_, fun unwritten => absurd unwritten (wrote written)⟩
    obtain ⟨result, rfl, late⟩ := waitOutcome_ok timeout
    exact ⟨index, c, member, sameCommand, written, .answered returned told late⟩
  | undecoded written =>
    exact honest_of_ofConnection rfl rfl
  | timedOut written =>
    refine ⟨fun _ => ⟨index, c, member, sameCommand, written, ?_⟩, fun unwritten => absurd unwritten (wrote written)⟩
    exact .ranOut returned (RanOut.of_reach reach index c (by rw [returned]; rfl))
  | gone retry =>
    obtain ⟨same, connection⟩ := retryable_ofConnection retry
    exact honest_of_ofConnection same connection
  | unencoded atCommand fails =>
    cases (sameCommand.symm.trans atCommand).symm.trans whole
    exact absurd fails (encode_of_flag flag _)

/-- A node that has refused a command was written to. -/
theorem SendLog.BorneBy.refused_written (borne : log.BorneBy s d) (reach : Reached config Always s)
    {round : RoundLog n} {attempt : Attempt n} (member : round ∈ log.rounds) (inside : attempt ∈ round.attempts)
    (refused : attempt.Refused) : ∃ a ∈ s.attempts d, ((s.clients a.1).written a.2).isSome = true := by
  obtain ⟨behaviour, atBehaviour, refused⟩ := refused
  cases borne round member attempt inside behaviour atBehaviour with
  | unopened => cases refused
  | @answered c outcome tried returned =>
    cases outcome with
    | error => cases refused
    | ok result =>
      cases (Connection.Outcomes.of_reach (client_reached attempt.index reach)).ends c _ returned with
      | answered written => exact ⟨_, tried, written⟩

/-- Nobody has waited where all attempts have failed or were refused. -/
theorem not_waited_of_spoiled (spoiled : ∀ a ∈ s.attempts d, s.Spoiled a.1 a.2) (index : Fin n)
    (c : Connection.CallId) : ¬ WaitedAt config s d index c := by
  intro waited
  rcases spoiled _ waited.attempted with ⟨outcome, returned, retry⟩ | ⟨result, returned, refused⟩
  · cases waited.timedOut with
    | answered late =>
      cases returned.symm.trans late
      cases retry
    | ranOut late =>
      cases returned.symm.trans late
      cases retry
  · cases waited.timedOut with
    | @answered _ _ own late _ timeout =>
      cases returned.symm.trans late
      rw [lockStateError, timeout] at refused
      cases refused
    | ranOut late => cases returned.symm.trans late

/-- A command that was spent with an error has it from its newest attempt. -/
theorem Accounted.spent_error (accounted : Accounted config s d log) (finished : (s.sends d).loop = .finished (.error err))
    {current : RoundLog n} (newest : log.rounds.head? = some current) (exhausted : current.Exhausted)
    (ended : current.endedAt.isSome = true) (unrefused : ∀ attempt ∈ current.attempts, ¬ attempt.Refused)
    (created : log.created.isSome = true) :
    ∃ attempt, current.attempts.head? = some attempt ∧
      (attempt.behaviour = some (.unopened err) ∨
        attempt.behaviour = some (.answered (.error err)) ∧ retryableTransportError err = true) := by
  have blames := accounted.blames
  rw [finished] at blames
  obtain ⟨attempt, first⟩ : ∃ attempt, current.attempts.head? = some attempt := by
    have full := exhausted.full
    have positive := accounted.began.positive created
    cases atAttempts : current.attempts with
    | nil =>
      rw [atAttempts] at full
      exact absurd full (Nat.ne_of_lt positive)
    | cons attempt made => exact ⟨attempt, rfl⟩
  have member := List.mem_of_head? first
  have failure : attempt.failure = some err := by
    cases atRounds : log.rounds with
    | nil => rw [atRounds] at newest; cases newest
    | cons =>
      rw [atRounds] at newest blames
      cases newest
      exact blames ended attempt first
  obtain ⟨err', failure', cause⟩ := (exhausted.passed attempt member).failed (unrefused attempt member)
  cases failure.symm.trans failure'
  exact ⟨attempt, first, cause⟩

theorem Behaviour.eq_of_definite {behaviour : Behaviour} (definite : behaviour.definite n = some answer) :
    behaviour = .answered answer := by
  cases behaviour with
  | unopened => cases definite
  | answered outcome =>
    cases outcome with
    | ok | error =>
      simp only [Behaviour.definite] at definite
      split at definite <;> cases definite
      rfl

/-- A command that a node has ended. -/
theorem Accounted.decided_iff (accounted : Accounted config s d log) (reach : Reached config Always s)
    (whole : s.commands d = some (.lock command)) (flag : command.flag = 0) {current : RoundLog n} {index : Fin n}
    (newest : log.rounds.head? = some current) (decided : current.Decided index answer) :
    Honest config s d (Event.waitOutcome (expectLock answer >>= resultOutcome)) ↔ ¬ log.ConnectTimedOut config := by
  obtain ⟨attempt, earlier, atAttempts, _, ⟨behaviour, atBehaviour, definite⟩, _⟩ := decided.newest
  cases Behaviour.eq_of_definite definite
  have inside : attempt ∈ current.attempts := by rw [atAttempts]; exact List.mem_cons_self
  refine iff_of_true ?_ ?_
  · cases accounted.borne current (List.mem_of_head? newest) attempt inside _ atBehaviour with
    | answered member returned => exact accounted.began.honest reach whole flag member returned
  · rintro ⟨_, _, last, newest', first, missed, _⟩
    cases newest.symm.trans newest'
    rw [atAttempts] at first
    cases first
    cases atBehaviour.symm.trans missed

/-- The async client reports a connect timeout as that of a command. -/
theorem connectError_timedOut (async : config.backend = .aio) {index : Fin n} :
    Connection.connectError (config.client index) .timedOut = .commandTimeout := by
  simp only [Connection.connectError, Config.client, async]

/-- A command that no node has ended. -/
theorem Accounted.spent_iff (accounted : Accounted config s d log) (reach : Reached config Always s)
    (created : log.created.isSome = true) (finished : (s.sends d).loop = .finished answer) {current : RoundLog n}
    {deadline : Instant} (newest : log.rounds.head? = some current) (spent : current.Spent deadline answer) :
    Honest config s d (Event.waitOutcome (expectLock answer >>= resultOutcome)) ↔ ¬ log.ConnectTimedOut config := by
  have member := List.mem_of_head? newest
  obtain ⟨now, ended, ⟨result, rfl, stateError, attempt, inside, refused⟩ | ⟨⟨err, rfl⟩, _, unrefused⟩⟩ := spent.ended
  · refine iff_of_true ⟨fun timeout => ?_, fun unwritten => ?_⟩ ?_
    · obtain ⟨lock, rfl, late⟩ := waitOutcome_ok timeout
      rw [lockStateError, late] at stateError
      cases stateError
    · obtain ⟨a, tried, written⟩ := accounted.borne.refused_written reach member inside refused
      rw [unwritten a tried] at written
      cases written
    · rintro ⟨_, _, _, newest', _, _, unrefused⟩
      cases newest.symm.trans newest'
      exact unrefused attempt inside refused
  · have past : current.endedAt.isSome = true := by rw [ended]; rfl
    obtain ⟨attempt, first, cause⟩ :=
      accounted.spent_error finished newest spent.toExhausted past unrefused created
    have inside := List.mem_of_head? first
    -- the newest attempt is the one that the condition is about
    have missed : log.ConnectTimedOut config → attempt.behaviour = some (.unopened .commandTimeout) := by
      rintro ⟨async, _, _, newest', first', atBehaviour, _⟩
      cases newest.symm.trans newest'
      cases first.symm.trans first'
      rw [atBehaviour, connectError_timedOut async]
    rcases cause with unopened | ⟨failed, retry⟩
    · cases accounted.borne current member attempt inside _ unopened with
      | @unopened o _ returned =>
        have opens := (Connection.Outcomes.of_reach (client_reached attempt.index reach)).opens o err returned
        rcases openError_ofConnection opens with ⟨async, rfl⟩ | ⟨same, connection⟩
        · refine iff_of_false (fun honest => ?_) fun fine => ?_
          · obtain ⟨index, c, waited⟩ := honest.waited rfl
            refine not_waited_of_spoiled (accounted.spoiled _ finished ?_) index c waited
            intro other newest'
            cases newest.symm.trans newest'
            exact past
          · rw [← connectError_timedOut async] at unopened
            exact fine ⟨async, current, attempt, newest, first, unopened, unrefused⟩
        · refine iff_of_true (honest_of_ofConnection same connection) fun connectTimedOut => ?_
          cases unopened.symm.trans (missed connectTimedOut)
          cases connection
    · obtain ⟨same, connection⟩ := retryable_ofConnection retry
      refine iff_of_true (honest_of_ofConnection same connection) fun connectTimedOut => ?_
      cases failed.symm.trans (missed connectTimedOut)

end Waits

/-- A wait is told honestly exactly if the connect attempt on the last node has
not timed out in the async client. -/
theorem honest_iff {config : Config n} {s : State n} {d : SendId} {log : SendLog n} {md5 : List UInt8 → Wire.Block 16}
    {said : Dialogue.Transcript Effect.Answer} {outcome : Outcome Unit}
    (reach : SendReached config d Always (State.new n) s log) (waits : WaitTalk md5 said outcome)
    (serves : Serves s d said) : Honest config s d outcome ↔ ¬ log.ConnectTimedOut config := by
  obtain ⟨exchange, atSaid, flag, rfl⟩ := waits.exchange
  obtain ⟨whole, returned⟩ := serves exchange (by rw [atSaid]; exact List.mem_singleton_self _)
  have finished : (s.sends d).loop = .finished exchange.answer := by rw [returned]; rfl
  have accounted := Accounted.of_reach reach
  cases accounted.tracked with
  | outside atLoop => cases atLoop.symm.trans finished
  | rejected atLoop =>
    unfold Exchange.outcome
    cases same : exchange.answer with
    | ok => rw [same] at finished; cases atLoop.symm.trans finished
    | error err =>
      rw [same] at finished
      rcases accounted.began.rejected rfl err finished with rfl | ⟨command, own, fails⟩
      · refine iff_of_true (honest_of_ofConnection rfl rfl) ?_
        rintro ⟨_, _, _, newest, _⟩
        cases newest
      · cases own.symm.trans whole
        exact absurd fails (encode_of_flag flag err)
  | created _ _ retried =>
    rw [finished] at retried
    cases retried with
    | decided _ decided => exact accounted.decided_iff reach.forget whole flag rfl decided
    | spent _ spent => exact accounted.spent_iff reach.forget rfl finished rfl spent

section Example

/-- A replset of one node. -/
def lone (backend : Connection.Backend) : Config 1 := ⟨backend, fun _ => "", Duration.fromSecs 120⟩

/-- An event that is set by default. -/
def waitingEvent : Event where
  lock :=
    { database := ⟨0⟩, lockKey := ⟨.zero 16⟩, lockId := .zero, timeout := ⟨5⟩, expired := ⟨10⟩, count := 0, rCount := 0,
      currentData := none }
  defaultSet := true

/-- A client that returns this for every command. -/
def returning (answer : Outcome CommandResult) : Dialogue.Partner Effect.Answer
  | _, .send _ => answer
  | _, .newId => .zero
  | _, .defaultTimeoutFlags => 0
  | _, .defaultExpiredFlags => 0

def waitCall (answer : Outcome CommandResult) : Dialogue.Transcript Effect.Answer × Outcome Unit × Event :=
  Dialogue.run (returning answer) [] (waitingEvent.wait noDigest 5)

/-- The command that the event sends. -/
def waitCommand : LockCommand where
  commandType := commandTypeLock
  flag := 0
  dbId := 0
  requestId := .zero
  lockKey := ⟨.zero 16⟩
  lockId := .zero
  timeout := .withFlags 5 0
  expired := .withFlags 0 0
  count := 0
  rCount := 0
  data := none

theorem waitCall_exchanges (answer : Outcome CommandResult) :
    exchanges (waitCall answer).1 = [⟨waitCommand, answer⟩] := by rfl

def beginsWait : List (Action 1) :=
  [.send 0 (.start (.lock waitCommand)), .send 0 .enter, .send 0 .push, .send 0 .readActive]

/-- Connecting to the node times out until the deadline of the command. -/
def missedWait : List (Action 1) :=
  beginsWait ++ missNode 0 onlyNode 0 ++ [.tick (Duration.fromSecs 125), .send 0 .endRound, .send 0 .remove]

def connectRefused : IoError := ⟨.connectionRefused, "connection refused"⟩

/-- Connecting to the node times out, and is refused in the next round. -/
def refusedWait : List (Action 1) :=
  beginsWait ++ missNode 0 onlyNode 0 ++ [.send 0 .endRound, .send 0 .retry, .send 0 .sleep,
    .tick replsetRetryInterval, .send 0 .wake, .send 0 .woken, .send 0 .readActive, .send 0 (.startOpen 1)] ++
    [Connection.OpenAction.lockWriter, .findWriter, .storeClosed, .connectFails (.io connectRefused)].map
      (fun action => .client onlyNode (.opening 1 action)) ++
    [.send 0 .opened, .tick (Duration.fromSecs 125), .send 0 .endRound, .send 0 .remove]

/-- How the node has behaved at the last attempt. -/
def SendLog.last (log : SendLog n) : Option Behaviour :=
  log.rounds.head?.bind fun round => round.attempts.head?.bind Attempt.behaviour

/-- A run of the async client at whose end it returns `answer`. -/
theorem wait_reached {actions : List (Action 1)} {answer : Outcome CommandResult} {last : Option Behaviour}
    (ended : (run (watch (step (lone .aio)) (recordSend (lone .aio) 0)) (State.new 1, ⟨none, []⟩) actions).map
      (fun watched => (watched.1.commands 0, watched.1.sends 0, watched.1.attempts 0, watched.2.last)) =
        some (some (.lock waitCommand), .returned answer, [], last)) :
    ∃ (s : State 1) (log : SendLog 1), SendReached (lone .aio) 0 Always (State.new 1) s log ∧
      Serves s 0 (waitCall answer).1 ∧ s.attempts 0 = [] ∧ log.last = last := by
  obtain ⟨⟨s, log⟩, executed, final⟩ := Option.map_eq_some_iff.mp ended
  obtain ⟨commands, sends, attempts, behaved⟩ : s.commands 0 = some (.lock waitCommand) ∧
      s.sends 0 = .returned answer ∧ s.attempts 0 = [] ∧ log.last = last :=
    ⟨congrArg Prod.fst final, congrArg (fun place => place.2.1) final, congrArg (fun place => place.2.2.1) final,
      congrArg (fun place => place.2.2.2) final⟩
  refine ⟨s, log, .of_run (runAllowed_always ..) executed, ?_, attempts, behaved⟩
  intro exchange member
  rw [waitCall_exchanges] at member
  obtain rfl := List.mem_singleton.mp member
  exact ⟨commands, sends⟩

theorem waitCall_talk (answer : Outcome CommandResult) : WaitTalk noDigest (waitCall answer).1 (waitCall answer).2.1 :=
  .event (Dialogue.Talk.of_run _ _ _)

set_option maxRecDepth 2000 in
/-- A wait times out without a node that was ever reached. -/
theorem missedWait_not_honest :
    ¬ ∀ (n : Nat) (config : Config n) (s : State n) (d : SendId) (log : SendLog n) (md5 : List UInt8 → Wire.Block 16)
      (said : Dialogue.Transcript Effect.Answer) (outcome : Outcome Unit),
      SendReached config d Always (State.new n) s log → WaitTalk md5 said outcome → Serves s d said →
      Honest config s d outcome := by
  intro claim
  have ended : (run (watch (step (lone .aio)) (recordSend (lone .aio) 0)) (State.new 1, ⟨none, []⟩) missedWait).map
      (fun watched => (watched.1.commands 0, watched.1.sends 0, watched.1.attempts 0, watched.2.last)) =
        some (some (.lock waitCommand), .returned (.error .commandTimeout), [], some (.unopened .commandTimeout)) := rfl
  obtain ⟨s, log, reach, serves, unattempted, _⟩ := wait_reached ended
  have honest := claim 1 _ s 0 log noDigest _ _ reach (waitCall_talk _) serves
  obtain ⟨index, c, waited⟩ := honest.waited rfl
  have attempted := waited.attempted
  rw [unattempted] at attempted
  cases attempted

set_option maxRecDepth 2000 in
/-- After a connect attempt that was refused it is told of the connection. -/
theorem honest_refusedWait : ∃ s : State 1, s.attempts 0 = [] ∧
    Honest (lone .aio) s 0 (waitCall (.error (.io connectRefused))).2.1 := by
  have ended : (run (watch (step (lone .aio)) (recordSend (lone .aio) 0)) (State.new 1, ⟨none, []⟩) refusedWait).map
      (fun watched => (watched.1.commands 0, watched.1.sends 0, watched.1.attempts 0, watched.2.last)) =
        some (some (.lock waitCommand), .returned (.error (.io connectRefused)), [],
          some (.unopened (.io connectRefused))) := rfl
  obtain ⟨s, log, reach, serves, unattempted, last⟩ := wait_reached ended
  refine ⟨s, unattempted, (honest_iff reach (waitCall_talk _) serves).mpr ?_⟩
  rintro ⟨_, current, attempt, newest, first, timedOut, _⟩
  simp only [SendLog.last, newest, first, Option.bind_some, timedOut] at last
  cases last

end Example

end Replset

end Ruslock
