import Ruslock.Connection

namespace Ruslock.Replset

inductive RetryType
  | origin
  | redirected
  | pending
  | woken
  deriving DecidableEq

/-- A reading of the monotonic clock, in nanoseconds. -/
abbrev Instant := Nat

structure PendingCommand where
  requestId : Id16
  command : Command
  retryType : RetryType
  deadline : Instant

/-- `PendingCommand::new`, at the time `now`. -/
def PendingCommand.new (command : Command) (grace : Duration) (now : Instant) : Outcome PendingCommand := do
  let encoded ← command.encode
  .ok { requestId := encoded.requestId, command := command, retryType := .origin,
        deadline := now + encoded.timeout + grace }

def replsetRetryInterval : Duration := Duration.fromMillis 25

def lockStateError : CommandResult → Bool
  | .lock result => result.result == commandResultStateError
  | _ => false

def retryableTransportError : SlockError → Bool
  | .io _ => true
  | .notConnected => true
  | .clientClosed => true
  | _ => false

/-- The options that all nodes share, and the addresses of the nodes. -/
structure Config (n : Nat) where
  backend : Connection.Backend
  nodes : Fin n → String
  commandTimeoutGrace : Duration

def Config.client {n : Nat} (config : Config n) (index : Fin n) : Connection.Config :=
  ⟨config.backend, config.nodes index⟩

abbrev SendId := Nat
abbrev OpenId := Nat
abbrev CloseId := Nat

/-- The locals of `send_pending_command` inside a round. -/
structure Round where
  pending : PendingCommand
  lastError : Option SlockError
  start : Nat
  lastStateError : Option CommandResult
  offset : Nat

def Round.index {n : Nat} (round : Round) (within : round.offset < n) : Fin n :=
  ⟨(round.start + round.offset) % n, Nat.mod_lt _ (Nat.zero_lt_of_lt within)⟩

/-- The locals after a node could not be opened. -/
def Round.unopened (round : Round) (err : SlockError) : Round :=
  { round with lastError := some err, offset := round.offset + 1 }

/-- The locals after a node has answered with a state error. -/
def Round.stateError (round : Round) (result : CommandResult) : Round :=
  { round with
    pending := { round.pending with retryType := .redirected }
    lastStateError := some result
    offset := round.offset + 1 }

/-- The locals after an attempt has failed and its node was closed. -/
def Round.transportError (round : Round) (err : SlockError) : Round :=
  { round with
    pending := { round.pending with retryType := .redirected }
    lastError := some err
    offset := round.offset + 1 }

/-- Where a `send_command` is: the statements of its retry loop, and the calls
of its nodes' clients that it waits for. -/
inductive SendPc (n : Nat)
  | idle
  | start (command : Command)
  | push (pending : PendingCommand)
  | readActive (pending : PendingCommand) (lastError : Option SlockError)
  | attempt (round : Round)
  | opening (round : Round) (index : Fin n) (o : Connection.OpenId)
  | connected (round : Round) (index : Fin n)
  | sending (round : Round) (index : Fin n) (c : Connection.CallId)
  | failed (round : Round) (index : Fin n) (err : SlockError)
  | closing (round : Round) (index : Fin n) (err : SlockError) (k : Connection.CloseId)
  | redirect (round : Round)
  | setActive (pending : PendingCommand) (index : Fin n) (result : CommandResult)
  | retry (pending : PendingCommand) (lastError : Option SlockError)
  | sleep (pending : PendingCommand) (lastError : Option SlockError)
  | sleeping (pending : PendingCommand) (lastError : Option SlockError) (wakeAt : Instant)
  | woken (pending : PendingCommand) (lastError : Option SlockError)
  | remove (requestId : Id16) (outcome : Outcome CommandResult)
  | returned (outcome : Outcome CommandResult)

/-- The locals of `open` in its loop over the nodes. -/
structure Opened where
  index : Nat
  lastError : Option SlockError
  firstLive : Option Nat
  leader : Option Nat

inductive OpenPc (n : Nat)
  | idle
  | attempt (opened : Opened)
  | opening (opened : Opened) (index : Fin n) (o : Connection.OpenId)
  | readInitType (opened : Opened) (index : Fin n)
  | setActive (index : Nat)
  | returned (outcome : Outcome Unit)

inductive ClosePc (n : Nat)
  | idle
  | attempt (index : Nat)
  | closing (index : Fin n) (k : Connection.CloseId)
  | clearActive
  | returned

/-- A replset client with its nodes and everybody who uses it. The history of
a run is kept in `commands` and `attempts`: the calls that a `send_command`
has made, with their nodes. -/
structure State (n : Nat) where
  clients : Fin n → Connection.State
  activeIndex : Option Nat
  pendingCommands : List PendingCommand
  now : Instant
  sends : SendId → SendPc n
  opens : OpenId → OpenPc n
  closes : CloseId → ClosePc n
  commands : SendId → Option Command
  attempts : SendId → List (Fin n × Connection.CallId)

/-- `ReplsetClient::with_options`. -/
def State.new (n : Nat) : State n where
  clients _ := Connection.State.new
  activeIndex := none
  pendingCommands := []
  now := 0
  sends _ := .idle
  opens _ := .idle
  closes _ := .idle
  commands _ := none
  attempts _ := []

inductive SendAction
  | start (command : Command)
  | enter
  | push
  | readActive
  | startOpen (o : Connection.OpenId)
  | opened
  | startSend (c : Connection.CallId)
  | answered
  | startClose (k : Connection.CloseId)
  | closed
  | redirect
  | setActive
  | endRound
  | retry
  | sleep
  | wake
  | woken
  | remove

inductive OpenAction
  | start
  | startOpen (o : Connection.OpenId)
  | opened
  | readInitType
  | choose
  | setActive

inductive CloseAction
  | start
  | startClose (k : Connection.CloseId)
  | closed
  | endLoop
  | clearActive

/-- What can happen: a step of a `send_command`, an `open` or a `close` of the
replset client, a step inside one of its clients, or the passing of time. -/
inductive Action (n : Nat)
  | send (d : SendId) (action : SendAction)
  | opening (u : OpenId) (action : OpenAction)
  | closing (u : CloseId) (action : CloseAction)
  | client (index : Fin n) (action : Connection.Action)
  | tick (elapsed : Duration)

section Step

variable {n : Nat}

def State.moveSend (s : State n) (d : SendId) (pc : SendPc n) : State n :=
  { s with sends := Function.update s.sends d pc }

def State.moveOpen (s : State n) (u : OpenId) (pc : OpenPc n) : State n :=
  { s with opens := Function.update s.opens u pc }

def State.moveClose (s : State n) (u : CloseId) (pc : ClosePc n) : State n :=
  { s with closes := Function.update s.closes u pc }

def State.withClient (s : State n) (index : Fin n) (client : Connection.State) : State n :=
  { s with clients := Function.update s.clients index client }

/-- One step of the client of a node. -/
def State.onClient (config : Config n) (s : State n) (index : Fin n) (action : Connection.Action) : Option (State n) :=
  (Connection.step (config.client index) (s.clients index) action).map (s.withClient index)

/-- `update_pending_retry_type`: the first entry under the request id. -/
def updatePendingRetryType (requestId : Id16) (retryType : RetryType) : List PendingCommand → List PendingCommand
  | [] => []
  | pending :: queue =>
    if pending.requestId = requestId then { pending with retryType := retryType } :: queue
    else pending :: updatePendingRetryType requestId retryType queue

def State.updateRetryType (s : State n) (pending : PendingCommand) : State n :=
  { s with pendingCommands := updatePendingRetryType pending.requestId pending.retryType s.pendingCommands }

/-- The checks of `send_command` before its command is queued. -/
def enterPc (config : Config n) (now : Instant) (command : Command) : SendPc n :=
  if n = 0 then .returned (.error .notConnected)
  else
    match PendingCommand.new command config.commandTimeoutGrace now with
    | .error err => .returned (.error err)
    | .ok pending => .push pending

/-- The `match` on what `client.open()` has returned. -/
def openedPc (round : Round) (index : Fin n) : Outcome Unit → SendPc n
  | .ok () => .connected round index
  | .error err => .attempt (round.unopened err)

/-- The `match` on what `client.send_command()` has returned. -/
def answeredPc (round : Round) (index : Fin n) : Outcome CommandResult → SendPc n
  | .ok result =>
    if lockStateError result = true ∧ 1 < n then .redirect (round.stateError result)
    else .setActive round.pending index result
  | .error err =>
    if retryableTransportError err = true ∧ 1 < n then .failed round index err
    else .remove round.pending.requestId (.error err)

/-- Behind the `for` loop: a state error is returned, and the deadline is checked. -/
def endRoundPc (now : Instant) (round : Round) : SendPc n :=
  match round.lastStateError with
  | some result => .remove round.pending.requestId (.ok result)
  | none =>
    if round.pending.deadline ≤ now then
      .remove round.pending.requestId (.error (round.lastError.getD .notConnected))
    else .retry { round.pending with retryType := .pending } round.lastError

def stepSend (config : Config n) (s : State n) (d : SendId) : SendAction → Option (State n)
  | .start command =>
    match s.sends d with
    | .idle => some { s.moveSend d (.start command) with commands := Function.update s.commands d (some command) }
    | _ => none
  | .enter =>
    match s.sends d with
    | .start command => some (s.moveSend d (enterPc config s.now command))
    | _ => none
  | .push =>
    match s.sends d with
    | .push pending => some
      { s.moveSend d (.readActive pending none) with pendingCommands := s.pendingCommands ++ [pending] }
    | _ => none
  | .readActive =>
    match s.sends d with
    | .readActive pending lastError => some
      (s.moveSend d (.attempt
        { pending := pending, lastError := lastError, start := s.activeIndex.getD 0, lastStateError := none,
          offset := 0 }))
    | _ => none
  | .startOpen o =>
    match s.sends d with
    | .attempt round =>
      if within : round.offset < n then
        (s.onClient config (round.index within) (.opening o .start)).map fun s =>
          s.moveSend d (.opening round (round.index within) o)
      else none
    | _ => none
  | .opened =>
    match s.sends d with
    | .opening round index o =>
      match (s.clients index).opens o with
      | .returned outcome => some (s.moveSend d (openedPc round index outcome))
      | _ => none
    | _ => none
  | .startSend c =>
    match s.sends d with
    | .connected round index =>
      (s.onClient config index (.call c (.start round.pending.command))).map fun s =>
        { s.moveSend d (.sending round index c) with
          attempts := Function.update s.attempts d (s.attempts d ++ [(index, c)]) }
    | _ => none
  | .answered =>
    match s.sends d with
    | .sending round index c =>
      match (s.clients index).calls c with
      | .returned outcome => some (s.moveSend d (answeredPc round index outcome))
      | _ => none
    | _ => none
  | .startClose k =>
    match s.sends d with
    | .failed round index err =>
      (s.onClient config index (.closing k .start)).map fun s => s.moveSend d (.closing round index err k)
    | _ => none
  | .closed =>
    match s.sends d with
    | .closing round index err k =>
      match (s.clients index).closes k with
      | .returned => some (s.moveSend d (.redirect (round.transportError err)))
      | _ => none
    | _ => none
  | .redirect =>
    match s.sends d with
    | .redirect round => some ((s.updateRetryType round.pending).moveSend d (.attempt round))
    | _ => none
  | .setActive =>
    match s.sends d with
    | .setActive pending index result => some
      { s.moveSend d (.remove pending.requestId (.ok result)) with activeIndex := some index }
    | _ => none
  | .endRound =>
    match s.sends d with
    | .attempt round => if n ≤ round.offset then some (s.moveSend d (endRoundPc s.now round)) else none
    | _ => none
  | .retry =>
    match s.sends d with
    | .retry pending lastError => some ((s.updateRetryType pending).moveSend d (.sleep pending lastError))
    | _ => none
  | .sleep =>
    match s.sends d with
    | .sleep pending lastError => some
      (s.moveSend d (.sleeping pending lastError (s.now + min (pending.deadline - s.now) replsetRetryInterval)))
    | _ => none
  | .wake =>
    match s.sends d with
    | .sleeping pending lastError wakeAt =>
      if wakeAt ≤ s.now then some (s.moveSend d (.woken { pending with retryType := .woken } lastError)) else none
    | _ => none
  | .woken =>
    match s.sends d with
    | .woken pending lastError => some ((s.updateRetryType pending).moveSend d (.readActive pending lastError))
    | _ => none
  | .remove =>
    match s.sends d with
    | .remove requestId outcome => some
      { s.moveSend d (.returned outcome) with
        pendingCommands := s.pendingCommands.filter fun pending => pending.requestId ≠ requestId }
    | _ => none

/-- The locals of `open` after a node has been opened or not. -/
def Opened.next (opened : Opened) : Outcome Unit → Opened
  | .ok () => { opened with firstLive := some (opened.firstLive.getD opened.index) }
  | .error err => { opened with lastError := some err, index := opened.index + 1 }

/-- The locals of `open` after the init type of a node has been read. -/
def Opened.readLeader (opened : Opened) (initType : UInt8) : Opened :=
  { opened with
    leader := if initType &&& initTypeFlagIsLeader ≠ 0 then some opened.index else opened.leader
    index := opened.index + 1 }

/-- Behind the loop of `open`: the leader, or the first node that is live. -/
def choosePc (opened : Opened) : OpenPc n :=
  match opened.leader.or opened.firstLive with
  | some index => .setActive index
  | none => .returned (.error (opened.lastError.getD .notConnected))

def stepOpen (config : Config n) (s : State n) (u : OpenId) : OpenAction → Option (State n)
  | .start =>
    match s.opens u with
    | .idle => some
      (s.moveOpen u (if n = 0 then .returned (.error .notConnected) else .attempt ⟨0, none, none, none⟩))
    | _ => none
  | .startOpen o =>
    match s.opens u with
    | .attempt opened =>
      if within : opened.index < n then
        (s.onClient config ⟨opened.index, within⟩ (.opening o .start)).map fun s =>
          s.moveOpen u (.opening opened ⟨opened.index, within⟩ o)
      else none
    | _ => none
  | .opened =>
    match s.opens u with
    | .opening opened index o =>
      match (s.clients index).opens o with
      | .returned (.ok ()) => some (s.moveOpen u (.readInitType (opened.next (.ok ())) index))
      | .returned (.error err) => some (s.moveOpen u (.attempt (opened.next (.error err))))
      | _ => none
    | _ => none
  | .readInitType =>
    match s.opens u with
    | .readInitType opened index => some (s.moveOpen u (.attempt (opened.readLeader (s.clients index).initType)))
    | _ => none
  | .choose =>
    match s.opens u with
    | .attempt opened => if n ≤ opened.index then some (s.moveOpen u (choosePc opened)) else none
    | _ => none
  | .setActive =>
    match s.opens u with
    | .setActive index => some { s.moveOpen u (.returned (.ok ())) with activeIndex := some index }
    | _ => none

def stepClose (config : Config n) (s : State n) (u : CloseId) : CloseAction → Option (State n)
  | .start =>
    match s.closes u with
    | .idle => some (s.moveClose u (.attempt 0))
    | _ => none
  | .startClose k =>
    match s.closes u with
    | .attempt index =>
      if within : index < n then
        (s.onClient config ⟨index, within⟩ (.closing k .start)).map fun s => s.moveClose u (.closing ⟨index, within⟩ k)
      else none
    | _ => none
  | .closed =>
    match s.closes u with
    | .closing index k =>
      match (s.clients index).closes k with
      | .returned => some (s.moveClose u (.attempt (index + 1)))
      | _ => none
    | _ => none
  | .endLoop =>
    match s.closes u with
    | .attempt index => if n ≤ index then some (s.moveClose u .clearActive) else none
    | _ => none
  | .clearActive =>
    match s.closes u with
    | .clearActive => some { s.moveClose u .returned with activeIndex := none }
    | _ => none

/-- One atomic step of the replset client. -/
def step (config : Config n) (s : State n) : Action n → Option (State n)
  | .send d action => stepSend config s d action
  | .opening u action => stepOpen config s u action
  | .closing u action => stepClose config s u action
  | .client index action => if action.internal then s.onClient config index action else none
  | .tick elapsed => some { s with now := s.now + elapsed }

end Step

/-- The states of the runs of a replset client. -/
abbrev Reached {n : Nat} (config : Config n) (allowed : State n → Action n → Prop) (s : State n) : Prop :=
  Transition.Reach (step config) allowed (State.new n) s

end Ruslock.Replset
