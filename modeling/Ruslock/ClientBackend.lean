import Ruslock.ConnectionHealth
import Ruslock.ReplsetAnswers
import Ruslock.SharedCalls

namespace Ruslock
open Wire Transition

theorem Command.Announced.typed {command : Command} (announced : command.Announced) : command.Typed := by
  cases command with
  | lock => exact announced.1
  | init | ping => trivial

/-- A server reads a command as what it is. -/
theorem Command.Announced.asks {command : Command} {request : Request} (announced : command.Announced)
    (asks : command.Asks request) : request = command.toRequest := by
  obtain ⟨encoded, run, read⟩ := asks
  have whole := parseRequest_frame [] (announced.wellFlagged run) run
  rw [List.append_nil, read] at whole
  cases whole
  rfl

section Single

variable {config : Connection.Config} {s after : Connection.State} {c : Connection.CallId} {command : Command}

theorem Connection.Step.started (taken : Connection.Step config s (.call c (.start command)) after) :
    s.calls c = .idle ∧ after.command c = some command := by
  cases taken with
  | call taken => cases taken with | start atPc => exact ⟨atPc, Function.update_self ..⟩
  | network taken => cases taken

/-- The outcome of a call that has returned. -/
def Connection.CallPc.outcome : Connection.CallPc → Option (Outcome CommandResult)
  | .returned outcome => some outcome
  | _ => none

theorem Connection.CallPc.outcome_eq_some {pc : Connection.CallPc} {outcome : Outcome CommandResult} :
    pc.outcome = some outcome ↔ pc = .returned outcome := by
  constructor
  · intro returned
    unfold Connection.CallPc.outcome at returned
    split at returned <;> cases returned
    rfl
  · rintro rfl
    rfl

/-- A `Client`, with all the bytes that it has received. -/
@[reducible] def Connection.service (config : Connection.Config) : SharedClient.Service where
  State := Connection.State × Connection.Received
  Action := Connection.Action
  Opening := Connection.OpenId
  initial := (Connection.State.new, fun _ => [])
  step := watch (Connection.step config) Connection.recordReceived
  start c command := .call c (.start command)
  identify o requestId fresh := .opening o (.identify requestId fresh)
  starts
    | .call c (.start command) => some (c, command)
    | _ => none
  identifies
    | .opening o (.identify requestId _) => some (o, requestId)
    | _ => none
  known s _ := s.1.clientId.isSome
  command s := s.1.command
  returned s c := (s.1.calls c).outcome
  dropped s c :=
    match s.1.calls c with
    | .dropped => true
    | _ => false
  Greets s := s.1.Greets

theorem Connection.service_lawful (config : Connection.Config) : (Connection.service config).Lawful where
  starts_start _ _ := rfl
  identifies_start _ _ := rfl
  starts_identify _ _ _ := rfl
  identifies_identify _ _ _ := rfl
  uncommanded _ := rfl
  ungreeted := by
    rintro id ⟨_, ⟨_, said⟩ | ⟨_, _, writing⟩⟩
    · exact Connection.InitCommand.header_nonempty _ said.symm
    · cases writing
  started := by
    intro s after c command reach run
    obtain ⟨idle, known⟩ := (Connection.Step.of_run (watch_eq_some run).1).started
    exact ⟨(Connection.Commands.of_reach (Connection.ReceivedIn.reached reach)).idle c idle, known⟩
  onward := by
    intro s after action reach run c command known
    exact (Connection.Commands.of_reach (Connection.ReceivedIn.reached reach)).onward (.of_run (watch_eq_some run).1) known
  commanded := by
    intro s after action run c command known
    rcases (Connection.Step.of_run (watch_eq_some run).1).commanded known with before | rfl
    · exact .inl before
    · exact .inr rfl
  greets := by
    intro s after action run id greets
    rcases (Connection.Step.of_run (watch_eq_some run).1).greets greets with before | ⟨o, fresh, rfl⟩
    · exact .inl before
    · exact .inr ⟨o, rfl⟩
  returned_kept := by
    intro s after action run c outcome returned
    rw [Connection.CallPc.outcome_eq_some] at returned ⊢
    rw [((Connection.Step.of_run (watch_eq_some run).1).finished_kept (by rw [returned]; rfl)).1, returned]
  labelled := by
    intro s reach c command result known returned
    obtain ⟨command', known', same⟩ :=
      (Connection.Labelled.of_reach (Connection.ReceivedIn.reached reach)).returned c result (Connection.CallPc.outcome_eq_some.mp returned)
    cases known.symm.trans known'
    exact same

end Single

section Replset

variable {n : Nat} {config : Replset.Config n} {s after : Replset.State n} {d : Replset.SendId}

def Replset.SendPc.outcome : Replset.SendPc n → Option (Outcome CommandResult)
  | .returned outcome => some outcome
  | _ => none

theorem Replset.SendPc.outcome_eq_some {pc : Replset.SendPc n} {outcome : Outcome CommandResult} :
    pc.outcome = some outcome ↔ pc = .returned outcome := by
  constructor
  · intro returned
    unfold Replset.SendPc.outcome at returned
    split at returned <;> cases returned
    rfl
  · rintro rfl
    rfl

/-- A `send_command` that has returned takes no step. -/
theorem Replset.SendStep.unreturned {action : Replset.SendAction} (taken : Replset.SendStep config s d action after)
    (outcome : Outcome CommandResult) : s.sends d ≠ .returned outcome := by
  intro returned
  cases taken with
  | start atPc | enter atPc | push atPc | readActive atPc | startOpen _ atPc | opened atPc | startSend atPc
  | answered atPc | startClose atPc | closed atPc | redirect atPc | setActive atPc | endRound atPc | retry atPc
  | sleep atPc | wake atPc | woken atPc | remove atPc => cases atPc.symm.trans returned

theorem Replset.Step.started {command : Command} (taken : Replset.Step config s (.send d (.start command)) after) :
    s.sends d = .idle ∧ after.commands d = some command := by
  cases taken with
  | send taken => cases taken with | start atPc => exact ⟨atPc, Function.update_self ..⟩

/-- A `ReplsetClient`, with all the bytes that its nodes have sent. -/
@[reducible] def Replset.service (config : Replset.Config n) : SharedClient.Service where
  State := Replset.State n × Replset.NodeReceived n
  Action := Replset.Action n
  Opening := Fin n × Connection.OpenId
  initial := (Replset.State.new n, fun _ _ => [])
  step := watch (Replset.step config) Replset.recordReceived
  start d command := .send d (.start command)
  identify o requestId fresh := .client o.1 (.opening o.2 (.identify requestId fresh))
  starts
    | .send d (.start command) => some (d, command)
    | _ => none
  identifies
    | .client index (.opening o (.identify requestId _)) => some ((index, o), requestId)
    | _ => none
  known s o := (s.1.clients o.1).clientId.isSome
  command s := s.1.commands
  returned s d := (s.1.sends d).outcome
  dropped _ _ := false
  Greets s id := ∃ index, (s.1.clients index).Greets id

theorem Replset.service_lawful (config : Replset.Config n) : (Replset.service config).Lawful where
  starts_start _ _ := rfl
  identifies_start _ _ := rfl
  starts_identify _ _ _ := rfl
  identifies_identify _ _ _ := rfl
  uncommanded _ := rfl
  ungreeted := by
    rintro id ⟨_, _, ⟨_, said⟩ | ⟨_, _, writing⟩⟩
    · exact Connection.InitCommand.header_nonempty _ said.symm
    · cases writing
  started := by
    intro s after d command reach run
    obtain ⟨idle, known⟩ := (Replset.Step.of_run (watch_eq_some run).1).started
    exact ⟨(Replset.Delivered.of_reach (Replset.ReceivedIn.reached reach)).idle d idle, known⟩
  onward := by
    intro s after action reach run d command known
    exact (Replset.Delivered.of_reach (Replset.ReceivedIn.reached reach)).commands_kept
      (.of_run (watch_eq_some run).1) known
  commanded := by
    intro s after action run d command known
    rcases (Replset.Step.of_run (watch_eq_some run).1).commanded known with before | rfl
    · exact .inl before
    · exact .inr rfl
  greets := by
    rintro s after action run id ⟨index, greets⟩
    rcases (Replset.Step.of_run (watch_eq_some run).1).greets greets with before | ⟨o, fresh, rfl⟩
    · exact .inl ⟨index, before⟩
    · exact .inr ⟨(index, o), rfl⟩
  returned_kept := by
    intro s after action run d outcome returned
    rw [Replset.SendPc.outcome_eq_some] at returned ⊢
    rcases (Replset.Step.of_run (watch_eq_some run).1).loop d with ⟨_, _, sent⟩ | ⟨sends, _, _⟩
    · exact absurd returned (sent.unreturned outcome)
    · rw [sends, returned]
  labelled := by
    intro s reach d command result known returned
    have reached := Replset.ReceivedIn.reached reach
    obtain ⟨index, c, command', _, own, atNode, atPc⟩ :=
      (Replset.Delivered.of_reach reached).call (Replset.SendPc.outcome_eq_some.mp returned)
    cases known.symm.trans own
    exact Replset.node_labelled reached atNode atPc

end Replset

/-- `ClientBackend`: what a database sends its commands with. -/
inductive ClientBackend
  | single (client : Connection.Config)
  | replset {n : Nat} (client : Replset.Config n)

@[reducible] def ClientBackend.service : ClientBackend → SharedClient.Service
  | .single client => Connection.service client
  | .replset client => Replset.service client

theorem ClientBackend.service_lawful (backend : ClientBackend) : backend.service.Lawful := by
  cases backend with
  | single client => exact Connection.service_lawful client
  | replset client => exact Replset.service_lawful client

namespace SharedClient

variable {α : Type} {idCounter : UInt32} {origin : ThreadId → Program α}

/-- Programs that share a client of either kind and the counter of the ids get
the answers to their own commands, each of them once. -/
theorem accounted_of_reach {backend : ClientBackend} {promise : Promise backend.service} {s : State backend.service α}
    (reach : Reached promise idCounter origin s) : Accounted s :=
  .of_reach backend.service_lawful reach

section Single

/-- The servers answer what they are asked, and nobody writes behind a cut frame. -/
structure Fair (serves : Request → ResponseFrame → Prop) (watched : Connection.State × Connection.Received)
    (action : Connection.Action) : Prop where
  uncut : Connection.Uncut watched.1 action
  honest : ∀ stream bytes, action = .receive stream bytes →
    Connection.Honest serves (watched.1.outbound stream) (watched.2 stream ++ bytes)

variable {config : Connection.Config} {serves : Request → ResponseFrame → Prop}

theorem Inner.served {watched : Connection.State × Connection.Received} {action : Connection.Action}
    (inner : @Inner (Connection.service config) (Fair serves) watched action) :
    Connection.Served serves watched action := by
  refine ⟨?_, ?_, ?_, ?_⟩
  · unfold Connection.OwnIds
    split
    · obtain ⟨_, unused, ungreeted⟩ := inner.starts _ _ rfl
      exact ⟨fun c earlier known same => absurd same (unused c earlier known), ungreeted⟩
    · exact inner.identifies _ _ rfl
    · trivial
  · unfold Connection.TypedCommands
    split
    · exact (inner.starts _ _ rfl).1.typed
    · trivial
  · unfold Connection.Uncut
    split
    · exact (inner.world rfl).uncut
    · trivial
  · rintro stream bytes rfl
    exact (inner.world rfl).honest stream bytes rfl

theorem Shared.served {s : State (Connection.service config) α} (shared : Shared (Fair serves) idCounter s)
    (echoes : ∀ request frame, serves request frame → frame.result.requestId = request.requestId)
    {i : ThreadId} {command : Command} {result : CommandResult} (answered : ⟨.send command, .ok result⟩ ∈ s.said i) :
    ∃ frame, serves command.toRequest frame ∧ frame.result = result := by
  obtain ⟨c, known, returned⟩ := shared.entries i command _ answered
  have served : Connection.ReceivedIn config (Connection.Served serves) s.client.1 s.client.2 :=
    shared.reached.mono fun _ _ inner => inner.served
  obtain ⟨command', request, frame, known', asks, serves, rfl⟩ :=
    Connection.served_of_returned served echoes (Connection.CallPc.outcome_eq_some.mp returned)
  cases known.symm.trans known'
  rw [(shared.commands c command known).1.asks asks] at serves
  exact ⟨frame, serves, rfl⟩

/-- Every answer that a thread gets is what a server has made of its command. -/
theorem answers_served {s : State (Connection.service config) α} (reach : Reached (Fair serves) idCounter origin s)
    (echoes : ∀ request frame, serves request frame → frame.result.requestId = request.requestId)
    {i : ThreadId} {command : Command} {result : CommandResult} (answered : ⟨.send command, .ok result⟩ ∈ s.said i) :
    ∃ frame, serves command.toRequest frame ∧ frame.result = result :=
  (Shared.of_reach (Connection.service_lawful config) reach).served echoes answered

end Single

section Replset

variable {n : Nat} {config : Replset.Config n} {serves : Fin n → Request → ResponseFrame → Prop}

/-- The nodes answer what they are asked, and nobody writes behind a cut frame. -/
structure FairNodes (serves : Fin n → Request → ResponseFrame → Prop) (watched : Replset.State n × Replset.NodeReceived n)
    (action : Replset.Action n) : Prop where
  uncut : ∀ index inner, action = .client index inner → Connection.Uncut (watched.1.clients index) inner
  honest : ∀ index stream bytes, action = .client index (.receive stream bytes) →
    Connection.Honest (serves index) ((watched.1.clients index).outbound stream) (watched.2 index stream ++ bytes)

theorem Inner.servedNodes {watched : Replset.State n × Replset.NodeReceived n} {action : Replset.Action n}
    (inner : @Inner (Replset.service config) (FairNodes serves) watched action) :
    Replset.ServedNodes serves watched action := by
  refine ⟨?_, ?_, ?_, ?_⟩
  · rintro d command rfl
    obtain ⟨announced, unused, ungreeted⟩ := inner.starts d command rfl
    exact ⟨announced.typed, unused, fun index greets => ungreeted ⟨index, greets⟩⟩
  · rintro index o requestId fresh rfl
    exact inner.identifies (index, o) requestId rfl
  · rintro index action rfl
    unfold Connection.Uncut
    split
    · exact (inner.world rfl).uncut index _ rfl
    · trivial
  · rintro index stream bytes rfl
    exact (inner.world rfl).honest index stream bytes rfl

theorem Shared.servedNodes {s : State (Replset.service config) α} (shared : Shared (FairNodes serves) idCounter s)
    (echoes : ∀ index request frame, serves index request frame → frame.result.requestId = request.requestId)
    {i : ThreadId} {command : Command} {result : CommandResult} (answered : ⟨.send command, .ok result⟩ ∈ s.said i) :
    ∃ index frame, serves index command.toRequest frame ∧ frame.result = result := by
  obtain ⟨d, known, returned⟩ := shared.entries i command _ answered
  have served : Replset.ReceivedIn config (Replset.ServedNodes serves) s.client.1 s.client.2 :=
    shared.reached.mono fun _ _ inner => inner.servedNodes
  obtain ⟨index, c, own, _, known', atNode, atPc⟩ :=
    (Replset.Delivered.of_reach served.reached).call (Replset.SendPc.outcome_eq_some.mp returned)
  cases known.symm.trans known'
  obtain ⟨command', request, frame, atNode', asks, serves, rfl⟩ :=
    Connection.served_of_returned (Replset.node_served index served) (echoes index) atPc
  cases atNode.symm.trans atNode'
  rw [(shared.commands d command known).1.asks asks] at serves
  exact ⟨index, frame, serves, rfl⟩

/-- And with a replset client it is what some node has made of its command,
whatever fails over or is tried again on the way. -/
theorem answers_servedNodes {s : State (Replset.service config) α} (reach : Reached (FairNodes serves) idCounter origin s)
    (echoes : ∀ index request frame, serves index request frame → frame.result.requestId = request.requestId)
    {i : ThreadId} {command : Command} {result : CommandResult} (answered : ⟨.send command, .ok result⟩ ∈ s.said i) :
    ∃ index frame, serves index command.toRequest frame ∧ frame.result = result :=
  (Shared.of_reach (Replset.service_lawful config) reach).servedNodes echoes answered

end Replset

section Example

theorem ping_stamped : Stamped Client.ping := .send (fun _ => ⟨rfl, trivial⟩) fun _ _ => .done

section Actions

variable (service : Service)

def drawsId (ticket : Ticket) : List (Action service α) :=
  [.count (.readClock ticket 5), .count (.draw ticket 7), .count (.fetchAdd ticket)]

/-- A thread begins its program and gets the first id of the counter. -/
def begins (program : Program α) : List (Action service α) :=
  [.begin 0 program, .draw 0 0] ++ drawsId service 0 ++ [.drawn 0]

/-- An `open` without a client id gets the next two ids. -/
def introduces (o : service.Opening) : List (Action service α) :=
  [.greet o 1, .greet o 2] ++ drawsId service 1 ++ drawsId service 2 ++ [.identify o 1 2]

end Actions

/-- The init of an `open` with the second and the third id of the counter. -/
def firstHello : InitCommand := ⟨.ofReadings 5 7 1, .ofReadings 5 7 2⟩

section Pinged

def lonely : Connection.Config := ⟨.aio, ""⟩

abbrev PingAction := Action (Connection.service lonely) (Outcome Bool)

def onConnection (actions : List Connection.Action) : List PingAction := actions.map .client

/-- The answer to a ping with the first id of the counter. -/
def firstPong : ResponseFrame := .ping (.ofReadings 5 7 0) 0 (Block.zero 44)

/-- A thread opens the client and pings the server. -/
def pinged : List PingAction :=
  begins (Connection.service lonely) Client.ping ++
    onConnection [.opening 0 .start, .opening 0 .lockWriter, .opening 0 .findWriter, .opening 0 .storeClosed,
      .opening 0 (.connect 0)] ++
    introduces (Connection.service lonely) 0 ++
    onConnection [.opening 0 .writeInit, .receive 0 Connection.acceptance.toList, .opening 0 .readInit,
      .opening 0 .split, .opening 0 .lockPublish, .opening 0 .publish, .opening 0 .spawn] ++
    [.send 0 0] ++
    onConnection ([.call 0 .enter, .call 0 .lockPending, .call 0 .insert] ++ Connection.writeActions 0 ++
      [.receive 0 firstPong.bytes, .reader 0 .readHeader, .reader 0 .lockPending, .reader 0 .deliver,
        .call 0 .receive]) ++
    [.sent 0]

abbrev unpinged : State (Connection.service lonely) (Outcome Bool) := State.new 0 fun _ => Client.ping

def Thread.succeeded : Thread (Outcome Bool) → Bool
  | .running (.done (.ok value)) _ => value
  | _ => false

theorem pinged_succeeds : (run step unpinged pinged).any (fun s => (s.threads 0).succeeded) = true := by decide

theorem accounted_of_reach_pinged :
    ∃ s : State (Connection.service lonely) (Outcome Bool), (s.threads 0).succeeded = true ∧ Accounted s := by
  have meets : RunAllowed step (Permits Always) unpinged pinged := by
    refine runAllowed_of_length (by decide) ?_ (.of_forall (fun _ _ _ _ _ => trivial) _)
    exact List.forall_mem_singleton.mpr ping_stamped
  obtain ⟨s, reach, succeeded⟩ := Reach.exists_of_run meets pinged_succeeds
  exact ⟨s, succeeded, @accounted_of_reach _ _ _ (.single lonely) _ _ reach⟩

/-- Steps of which the servers and the writers are not aware. -/
def PingAction.plain : PingAction → Bool
  | .client action => action.plain
  | _ => true

def FairStep (s : State (Connection.service lonely) (Outcome Bool)) (action : PingAction) : Prop :=
  ∀ inner, action = .client inner → Fair Connection.Pongs s.client inner

theorem fairStep_plain {s : State (Connection.service lonely) (Outcome Bool)} {action : PingAction}
    (isPlain : action.plain = true) : FairStep s action := by
  rintro inner rfl
  have served : Connection.Served Connection.Pongs s.client inner := Connection.served_of_plain isPlain
  exact ⟨served.uncut, served.honest⟩

theorem fairStep_receive {s : State (Connection.service lonely) (Outcome Bool)} {stream : Connection.StreamId}
    {bytes : List UInt8}
    (honest : Connection.Honest Connection.Pongs (s.client.1.outbound stream) (s.client.2 stream ++ bytes)) :
    FairStep s (.client (.receive stream bytes)) := by
  rintro _ ⟨⟩
  exact ⟨trivial, by rintro _ _ ⟨⟩; exact honest⟩

theorem fairStep_findWriter {s : State (Connection.service lonely) (Outcome Bool)} {c : Connection.CallId}
    (uncut : ∀ stream, s.client.1.writer = some stream → s.client.1.cut stream = false) :
    FairStep s (.client (.call c .findWriter)) := by
  rintro _ ⟨⟩
  exact ⟨uncut, nofun⟩

theorem pinged_fair : RunAllowed step FairStep unpinged pinged := by
  have plain : ∀ {s} {action : PingAction}, action.plain = true → FairStep s action := fairStep_plain
  exact ⟨plain rfl, plain rfl, plain rfl, plain rfl, plain rfl, plain rfl, plain rfl, plain rfl, plain rfl, plain rfl,
    plain rfl, plain rfl, plain rfl, plain rfl, plain rfl, plain rfl, plain rfl, plain rfl, plain rfl, plain rfl,
    plain rfl, fairStep_receive (Connection.honest_acceptance ⟨[], rfl⟩), plain rfl, plain rfl, plain rfl, plain rfl,
    plain rfl, plain rfl, plain rfl, plain rfl, plain rfl, plain rfl, fairStep_findWriter fun _ _ => rfl, plain rfl,
    plain rfl, fairStep_receive (Connection.honest_pong firstHello (.ofReadings 5 7 0) rfl rfl rfl ⟨[], rfl⟩), plain rfl,
    plain rfl, plain rfl, plain rfl, plain rfl, trivial⟩

/-- A command that was answered. -/
def answeredEntry : (Σ effect : Effect, effect.Answer) → Bool
  | ⟨.send _, .ok _⟩ => true
  | _ => false

theorem eq_of_answeredEntry {entry : Σ effect : Effect, effect.Answer} (answered : answeredEntry entry = true) :
    ∃ command result, entry = ⟨.send command, .ok result⟩ := by
  unfold answeredEntry at answered
  split at answered
  · exact ⟨_, _, rfl⟩
  · cases answered

theorem answers_served_pinged :
    ∃ (s : State (Connection.service lonely) (Outcome Bool)) (command : Command) (frame : ResponseFrame),
      (⟨.send command, .ok frame.result⟩ : Σ effect : Effect, effect.Answer) ∈ s.said 0 ∧
        Connection.Pongs command.toRequest frame := by
  have meets : RunAllowed step (Permits (Fair Connection.Pongs)) unpinged pinged :=
    runAllowed_of_length (by decide) (List.forall_mem_singleton.mpr ping_stamped) pinged_fair
  have executed : (run step unpinged pinged).any (fun s => (s.said 0).any answeredEntry) = true := by decide
  obtain ⟨s, reach, found⟩ := Reach.exists_of_run meets executed
  obtain ⟨_, member, answered⟩ := List.any_eq_true.mp found
  obtain ⟨command, result, rfl⟩ := eq_of_answeredEntry answered
  have echoes : ∀ request frame, Connection.Pongs request frame → frame.result.requestId = request.requestId := by
    rintro _ _ ⟨requestId, rfl, rfl⟩
    rfl
  obtain ⟨frame, served, rfl⟩ := answers_served reach echoes member
  exact ⟨s, command, frame, member, served⟩

end Pinged

section Locked

open Replset (pair firstNode secondNode missNode)

abbrev LockAction := Action (Replset.service Replset.pair) Primitive

/-- A server's yes to a lock command. -/
def grant (requestId : Id16) : LockResponse where
  commandType := commandTypeLock
  requestId := requestId
  result := 0
  flag := 0
  dbId := 0
  lockId := .zero
  lockKey := ⟨Block.zero 16⟩
  lCount := 1
  count := 0
  lrCount := 1
  rCount := 0
  reserved := Block.zero 4
  payload := none
  known := .inl rfl
  announced := by decide
  fits := nofun

/-- A node that says yes to everything. -/
def Grants (request : Request) (frame : ResponseFrame) : Prop := frame = .lock (grant request.requestId)

def onNodes (actions : List (Replset.Action 2)) : List LockAction := actions.map .client

/-- A lock is made and acquired. -/
def lockSession : Program Primitive :=
  Database.create noDigest ⟨0⟩ (.lock [] 5 6) >>= Dialogue.session (Primitive.perform noDigest) [.acquire]

/-- The lock gets the first id of the counter, and its command the second one. -/
def makesLock : List LockAction :=
  [.begin 0 lockSession, .flags 0 0, .flags 0 0, .draw 0 0] ++ drawsId (Replset.service Replset.pair) 0 ++
    [.drawn 0, .draw 0 3] ++ drawsId (Replset.service Replset.pair) 3 ++ [.drawn 0, .send 0 0]

/-- The init of an `open` with the ids behind those. -/
def secondHello : InitCommand := ⟨.ofReadings 5 7 2, .ofReadings 5 7 3⟩

/-- A thread makes a lock and acquires it; the first node is out of reach, and
the second says yes. -/
def lockedOver : List LockAction :=
  makesLock ++
    onNodes ([.send 0 .enter, .send 0 .push, .send 0 .readActive] ++ missNode 0 firstNode 0 ++
      [.send 0 (.startOpen 0), .client secondNode (.opening 0 .lockWriter), .client secondNode (.opening 0 .findWriter),
        .client secondNode (.opening 0 .storeClosed), .client secondNode (.opening 0 (.connect 0))]) ++
    introduces (Replset.service Replset.pair) (secondNode, 0) ++
    onNodes ([.client secondNode (.opening 0 .writeInit), .client secondNode (.receive 0 Connection.acceptance.toList),
      .client secondNode (.opening 0 .readInit), .client secondNode (.opening 0 .split),
      .client secondNode (.opening 0 .lockPublish), .client secondNode (.opening 0 .publish),
      .client secondNode (.opening 0 .spawn), .send 0 .opened, .send 0 (.startSend 0),
      .client secondNode (.call 0 .enter), .client secondNode (.call 0 .lockPending),
      .client secondNode (.call 0 .insert)] ++ (Connection.writeActions 0).map (.client secondNode) ++
      [.client secondNode (.receive 0 (ResponseFrame.lock (grant (.ofReadings 5 7 1))).bytes),
        .client secondNode (.reader 0 .readHeader), .client secondNode (.reader 0 .lockPending),
        .client secondNode (.reader 0 .deliver), .client secondNode (.call 0 .receive), .send 0 .answered,
        .send 0 .setActive, .send 0 .remove]) ++
    [.sent 0]

abbrev unlocked : State (Replset.service Replset.pair) Primitive := State.new 0 fun _ => lockSession

theorem lockedOver_answered :
    (run step unlocked lockedOver).any (fun s => (s.said 0).any answeredEntry) = true := by decide +kernel

/-- Steps of which the nodes and the writers are not aware. -/
def LockAction.plain : LockAction → Bool
  | .client (.client _ action) => action.plain
  | _ => true

def FairNodesStep (s : State (Replset.service Replset.pair) Primitive) (action : LockAction) : Prop :=
  ∀ inner, action = .client inner → FairNodes (fun _ => Grants) s.client inner

theorem fairNodesStep_plain {s : State (Replset.service Replset.pair) Primitive} {action : LockAction}
    (isPlain : action.plain = true) : FairNodesStep s action := by
  rintro inner rfl
  constructor
  · rintro index inner rfl
    have served : Connection.Served Grants (s.client.1.clients index, s.client.2 index) inner :=
      Connection.served_of_plain isPlain
    exact served.uncut
  · rintro index stream bytes rfl
    cases isPlain

theorem fairNodesStep_receive {s : State (Replset.service Replset.pair) Primitive} {index : Fin 2}
    {stream : Connection.StreamId} {bytes : List UInt8}
    (honest : Connection.Honest Grants ((s.client.1.clients index).outbound stream) (s.client.2 index stream ++ bytes)) :
    FairNodesStep s (.client (.client index (.receive stream bytes))) := by
  rintro _ ⟨⟩
  exact ⟨by rintro _ _ ⟨⟩; trivial, by rintro _ _ _ ⟨⟩; exact honest⟩

theorem fairNodesStep_findWriter {s : State (Replset.service Replset.pair) Primitive} {index : Fin 2} {c : Connection.CallId}
    (uncut : ∀ stream, (s.client.1.clients index).writer = some stream → (s.client.1.clients index).cut stream = false) :
    FairNodesStep s (.client (.client index (.call c .findWriter))) := by
  rintro _ ⟨⟩
  exact ⟨by rintro _ _ ⟨⟩; exact uncut, nofun⟩

theorem lockSession_stamped : Stamped lockSession := Primitive.session_stamped (Database.create_spoken _ _).stamped

/-- The lock that was made. -/
def madeLock : Lock where
  database := ⟨0⟩
  lockKey := .new noDigest []
  lockId := .ofReadings 5 7 0
  timeout := .withFlags 5 0
  expired := .withFlags 6 0
  count := 0
  rCount := 0
  currentData := none

/-- The command of the thread. -/
def firstLock : Command := .lock (madeLock.command commandTypeLock 0 madeLock.lockId none (.ofReadings 5 7 1))

set_option maxRecDepth 2000 in
theorem lockedOver_fair : RunAllowed step FairNodesStep unlocked lockedOver := by
  have plain : ∀ {s} {action : LockAction}, action.plain = true → FairNodesStep s action := fairNodesStep_plain
  have flagged : firstLock.WellFlagged := ⟨.inl rfl, by decide⟩
  exact ⟨plain rfl, plain rfl, plain rfl, plain rfl, plain rfl, plain rfl, plain rfl, plain rfl, plain rfl, plain rfl,
    plain rfl, plain rfl, plain rfl, plain rfl, plain rfl, plain rfl, plain rfl, plain rfl, plain rfl, plain rfl,
    plain rfl, plain rfl, plain rfl, plain rfl, plain rfl, plain rfl, plain rfl, plain rfl, plain rfl, plain rfl,
    plain rfl, plain rfl, plain rfl, plain rfl, plain rfl, plain rfl, plain rfl, plain rfl,
    fairNodesStep_receive (Connection.honest_acceptance ⟨[], rfl⟩), plain rfl, plain rfl, plain rfl, plain rfl,
    plain rfl, plain rfl, plain rfl, plain rfl, plain rfl, plain rfl, plain rfl,
    fairNodesStep_findWriter fun _ _ => rfl, plain rfl, plain rfl,
    fairNodesStep_receive (Connection.honest_answer secondHello flagged rfl rfl rfl rfl ⟨[], rfl⟩), plain rfl,
    plain rfl, plain rfl, plain rfl, plain rfl, plain rfl, plain rfl, plain rfl, trivial⟩

theorem answers_servedNodes_lockedOver :
    ∃ (s : State (Replset.service Replset.pair) Primitive) (command : Command) (frame : ResponseFrame),
      (⟨.send command, .ok frame.result⟩ : Σ effect : Effect, effect.Answer) ∈ s.said 0 ∧
        Grants command.toRequest frame := by
  have meets : RunAllowed step (Permits (FairNodes fun _ => Grants)) unlocked lockedOver :=
    runAllowed_of_length (by decide) (List.forall_mem_singleton.mpr lockSession_stamped) lockedOver_fair
  obtain ⟨s, reach, found⟩ := Reach.exists_of_run meets lockedOver_answered
  obtain ⟨_, member, answered⟩ := List.any_eq_true.mp found
  obtain ⟨command, result, rfl⟩ := eq_of_answeredEntry answered
  have echoes : ∀ (_ : Fin 2) request frame, Grants request frame → frame.result.requestId = request.requestId := by
    rintro _ _ _ rfl
    rfl
  obtain ⟨_, frame, served, rfl⟩ := answers_servedNodes reach echoes member
  exact ⟨s, command, frame, member, served⟩

end Locked

end Example

end SharedClient

end Ruslock
