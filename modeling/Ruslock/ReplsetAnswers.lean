import Ruslock.RetryOutcome
import Ruslock.ServedCalls

namespace Ruslock.Replset
open Transition Wire

variable {n : Nat}

/-- The result that a loop has at hand. -/
def SendPc.result : SendPc n → Option CommandResult
  | .attempt round => round.lastStateError
  | .opening round _ _ => round.lastStateError
  | .connected round _ => round.lastStateError
  | .sending round _ _ => round.lastStateError
  | .failed round _ _ => round.lastStateError
  | .closing round _ _ _ => round.lastStateError
  | .redirect round => round.lastStateError
  | .setActive _ _ result => some result
  | .remove _ (.ok result) => some result
  | .returned (.ok result) => some result
  | _ => none

/-- A loop has its command, its results come from calls that it has made, and
these were made with its command. -/
structure Delivered (s : State n) : Prop where
  idle : ∀ d, s.sends d = .idle → s.commands d = none
  known : ∀ d command, (s.sends d).command = some command → s.commands d = some command
  attempted : ∀ index c command, (s.clients index).command c = some command → ∃ d, s.commands d = some command
  own : ∀ d index c, (index, c) ∈ s.attempts d → ∃ command, (s.clients index).command c = some command ∧
    s.commands d = some command
  results : ∀ d result, (s.sends d).result = some result →
    ∃ index c, (index, c) ∈ s.attempts d ∧ (s.clients index).calls c = .returned (.ok result)
  sending : ∀ d round index c, s.sends d = .sending round index c → (index, c) ∈ s.attempts d

theorem Delivered.new : Delivered (State.new n) where
  idle _ _ := rfl
  known _ _ atCommand := nomatch atCommand
  attempted _ _ _ known := nomatch known
  own _ _ _ member := nomatch member
  results _ _ atResult := nomatch atResult
  sending _ _ _ _ atPc := nomatch atPc

section Steps

variable {config : Config n} {s after : State n}

theorem enterPc_result (now : Instant) (command : Command) : (enterPc config now command).result = none := by
  unfold enterPc
  split
  · rfl
  · split <;> rfl

theorem openedPc_result (round : Round) (index : Fin n) (outcome : Outcome Unit) :
    (openedPc round index outcome).result = round.lastStateError := by
  cases outcome <;> rfl

theorem answeredPc_result {round : Round} {index : Fin n} {outcome : Outcome CommandResult} {result : CommandResult}
    (atResult : (answeredPc round index outcome).result = some result) :
    round.lastStateError = some result ∨ outcome = .ok result := by
  unfold answeredPc at atResult
  split at atResult <;> split at atResult
  · exact .inr (congrArg Except.ok (Option.some.inj atResult))
  · exact .inr (congrArg Except.ok (Option.some.inj atResult))
  · exact .inl atResult
  · cases atResult

theorem endRoundPc_result {now : Instant} {round : Round} {result : CommandResult}
    (atResult : (endRoundPc now round : SendPc n).result = some result) : round.lastStateError = some result := by
  unfold endRoundPc at atResult
  split at atResult
  · rename_i found
    rw [found]
    exact atResult
  · split at atResult <;> cases atResult

/-- A loop gets a result from its own call, and from nowhere else. -/
theorem SendStep.result {d : SendId} {action : SendAction} (taken : SendStep config s d action after)
    {result : CommandResult} (atResult : (after.sends d).result = some result) :
    (s.sends d).result = some result ∨
      ∃ round index c, s.sends d = .sending round index c ∧ (s.clients index).calls c = .returned (.ok result) := by
  cases taken with
  | start | push | readActive | retry | sleep | wake | woken =>
    simp only [State.moveSend, State.updateRetryType, Function.update_self] at atResult
    cases atResult
  | enter =>
    simp only [State.moveSend, Function.update_self, enterPc_result] at atResult
    cases atResult
  | startOpen _ atPc | startSend atPc | startClose atPc | closed atPc | redirect atPc | setActive atPc =>
    simp only [State.moveSend, State.updateRetryType, Function.update_self] at atResult
    rw [atPc]
    exact .inl atResult
  | opened atPc =>
    simp only [State.moveSend, Function.update_self, openedPc_result] at atResult
    rw [atPc]
    exact .inl atResult
  | answered atPc returned =>
    simp only [State.moveSend, Function.update_self] at atResult
    rcases answeredPc_result atResult with before | rfl
    · rw [atPc]
      exact .inl before
    · exact .inr ⟨_, _, _, atPc, returned⟩
  | endRound atPc =>
    simp only [State.moveSend, Function.update_self] at atResult
    rw [atPc]
    exact .inl (endRoundPc_result atResult)
  | @remove requestId outcome atPc =>
    simp only [State.moveSend, Function.update_self] at atResult
    rw [atPc]
    cases outcome with
    | ok => exact .inl atResult
    | error => cases atResult

theorem SendStep.busy {d : SendId} {action : SendAction} (taken : SendStep config s d action after) :
    after.sends d ≠ .idle := by
  intro idle
  cases taken with
  | enter =>
    simp only [State.moveSend, Function.update_self, enterPc] at idle
    repeat' split at idle
    all_goals cases idle
  | @opened _ _ _ outcome =>
    simp only [State.moveSend, Function.update_self] at idle
    cases outcome <;> cases idle
  | answered =>
    simp only [State.moveSend, Function.update_self, answeredPc] at idle
    repeat' split at idle
    all_goals cases idle
  | endRound =>
    simp only [State.moveSend, Function.update_self, endRoundPc] at idle
    repeat' split at idle
    all_goals cases idle
  | _ =>
    simp only [State.moveSend, State.updateRetryType, Function.update_self] at idle
    cases idle

variable {action : Action n}

/-- Nobody gets another command. -/
theorem Delivered.commands_kept (delivered : Delivered s) (taken : Step config s action after) {d : SendId}
    {command : Command} (atCommand : s.commands d = some command) : after.commands d = some command := by
  rcases taken.loop d with ⟨action', rfl, sent⟩ | ⟨_, same, _⟩
  · cases sent with
    | start atPc =>
      rw [delivered.idle d atPc] at atCommand
      cases atCommand
    | _ => exact atCommand
  · rw [same]
    exact atCommand

/-- Every command that reaches a node is that of a loop. -/
theorem Delivered.commanded (delivered : Delivered s) (taken : Step config s action after) {index : Fin n}
    {c : Connection.CallId} {command : Command} (known : (after.clients index).command c = some command) :
    ∃ d, s.commands d = some command := by
  rcases taken.client_of index with same | ⟨inner, atAction, step⟩
  · rw [same] at known
    exact delivered.attempted index c command known
  · rcases step.commanded known with before | rfl
    · exact delivered.attempted index c command before
    · cases ClientMove.of_clientAction atAction with
      | loopSends atPc => exact ⟨_, delivered.known _ _ (by rw [atPc]; rfl)⟩
      | inside => cases taken with | client inside => cases inside

theorem Delivered.step (delivered : Delivered s) (commands : ∀ index, Connection.Commands (s.clients index))
    (taken : Step config s action after) : Delivered after := by
  have onward : ∀ index c command, (s.clients index).command c = some command →
      (after.clients index).command c = some command := by
    intro index c command known
    rcases taken.client_of index with same | ⟨_, _, step⟩
    · rw [same]
      exact known
    · exact (commands index).onward step known
  have returned : ∀ index c outcome, (s.clients index).calls c = .returned outcome →
      (after.clients index).calls c = .returned outcome :=
    fun index c outcome atPc => (taken.call_kept (by rw [atPc]; rfl)).1.trans atPc
  have kept : ∀ d command, s.commands d = some command → after.commands d = some command :=
    fun _ _ => delivered.commands_kept taken
  refine ⟨?_, fun d => taken.command_known (delivered.known d), ?_, ?_, ?_, ?_⟩
  · intro d idle
    rcases taken.loop d with ⟨_, _, sent⟩ | ⟨sends, same, _⟩
    · exact absurd idle sent.busy
    · rw [same]
      exact delivered.idle d (sends ▸ idle)
  · intro index c command known
    obtain ⟨d, atCommand⟩ := delivered.commanded taken known
    exact ⟨d, kept d command atCommand⟩
  · intro d index c member
    have old : (index, c) ∈ s.attempts d → ∃ command, (after.clients index).command c = some command ∧
        after.commands d = some command := by
      intro before
      obtain ⟨command, own, whole⟩ := delivered.own d index c before
      exact ⟨command, onward index c command own, kept d command whole⟩
    rcases taken.loop d with ⟨_, rfl, sent⟩ | ⟨_, _, tried⟩
    · cases sent with
      | @startSend round target call client atPc inner =>
        have sent : SendStep config s d (.startSend call) _ := .startSend atPc inner
        obtain ⟨_, _, _, own, tried⟩ := sent.sending (Function.update_self ..)
        rw [tried, Function.update_self] at member
        rcases List.mem_append.mp member with before | new
        · exact old before
        · cases List.mem_singleton.mp new
          exact ⟨_, own, delivered.known _ _ (by rw [atPc]; rfl)⟩
      | _ => exact old member
    · exact old (tried ▸ member)
  · intro d result atResult
    have old : (s.sends d).result = some result → ∃ index c, (index, c) ∈ after.attempts d ∧
        (after.clients index).calls c = .returned (.ok result) := by
      intro before
      obtain ⟨index, c, member, atPc⟩ := delivered.results d result before
      exact ⟨index, c, taken.attempts_mono member, returned index c _ atPc⟩
    rcases taken.loop d with ⟨_, _, sent⟩ | ⟨sends, _, _⟩
    · rcases sent.result atResult with before | ⟨round, index, c, atPc, ok⟩
      · exact old before
      · exact ⟨index, c, taken.attempts_mono (delivered.sending d round index c atPc), returned index c _ ok⟩
    · exact old (sends ▸ atResult)
  · intro d round index c atPc
    rcases taken.loop d with ⟨_, _, sent⟩ | ⟨sends, _, same⟩
    · obtain ⟨_, _, _, _, tried⟩ := sent.sending atPc
      rw [tried, Function.update_self]
      exact List.mem_append_right _ List.mem_cons_self
    · rw [same]
      exact delivered.sending d round index c (sends ▸ atPc)

end Steps

theorem Delivered.of_reach {config : Config n} {allowed : State n → Action n → Prop} {s : State n}
    (reach : Reached config allowed s) : Delivered s :=
  reach.invariant .new fun _ _ _ previous delivered _ run =>
    delivered.step (fun index => .of_reach (client_reached index previous)) (.of_run run)

/-- The call of a `send_command` that has succeeded. -/
theorem Delivered.call {s : State n} (delivered : Delivered s) {d : SendId} {result : CommandResult}
    (returned : s.sends d = .returned (.ok result)) :
    ∃ index c command, (index, c) ∈ s.attempts d ∧ s.commands d = some command ∧
      (s.clients index).command c = some command ∧ (s.clients index).calls c = .returned (.ok result) := by
  obtain ⟨index, c, member, atPc⟩ := delivered.results d result (by rw [returned]; rfl)
  obtain ⟨command, atNode, own⟩ := delivered.own d index c member
  exact ⟨index, c, command, member, own, atNode, atPc⟩

theorem node_labelled {config : Config n} {allowed : State n → Action n → Prop} {s : State n}
    (reach : Reached config allowed s) {index : Fin n} {c : Connection.CallId} {command : Command} {result : CommandResult}
    (known : (s.clients index).command c = some command) (returned : (s.clients index).calls c = .returned (.ok result)) :
    result.requestId = command.requestId := by
  obtain ⟨command', known', same⟩ := (Connection.Labelled.of_reach (client_reached index reach)).returned c result returned
  cases known.symm.trans known'
  exact same

/-- Whatever the nodes do, a `send_command` that succeeds hands on what a call of
its own has returned, and that bears the id of its command. -/
theorem result_of_send {config : Config n} {allowed : State n → Action n → Prop} {s : State n}
    (reach : Reached config allowed s) {d : SendId} {result : CommandResult} (returned : s.sends d = .returned (.ok result)) :
    ∃ index c command, (index, c) ∈ s.attempts d ∧ s.commands d = some command ∧
      (s.clients index).command c = some command ∧ (s.clients index).calls c = .returned (.ok result) ∧
      result.requestId = command.requestId := by
  obtain ⟨index, c, command, member, own, atNode, atPc⟩ := (Delivered.of_reach reach).call returned
  exact ⟨index, c, command, member, own, atNode, atPc, node_labelled reach atNode atPc⟩

/-- All the bytes that the streams of each node have received. -/
abbrev NodeReceived (n : Nat) := Fin n → Connection.Received

def recordReceived (s : State n) (action : Action n) (after : State n) (received : NodeReceived n) : NodeReceived n :=
  match action with
  | .client index inner =>
    Function.update received index
      (Connection.recordReceived (s.clients index) inner (after.clients index) (received index))
  | _ => received

/-- The runs of a replset client, with the bytes that its nodes have sent in them. -/
abbrev ReceivedIn (config : Config n) (allowed : State n × NodeReceived n → Action n → Prop) (s : State n)
    (received : NodeReceived n) : Prop :=
  Reach (watch (step config) recordReceived) allowed (State.new n, fun _ _ => []) (s, received)

/-- The nodes answer what they are asked, every command and every handshake has
an id of its own, and nobody writes behind a cut frame. -/
structure ServedNodes (serves : Fin n → Request → ResponseFrame → Prop) (watched : State n × NodeReceived n)
    (action : Action n) : Prop where
  starts : ∀ d command, action = .send d (.start command) → command.Typed ∧
    (∀ d' earlier, watched.1.commands d' = some earlier → earlier.requestId ≠ command.requestId) ∧
      ∀ index, ¬ (watched.1.clients index).Greets command.requestId
  greets : ∀ index o requestId fresh, action = .client index (.opening o (.identify requestId fresh)) →
    ∀ d earlier, watched.1.commands d = some earlier → earlier.requestId ≠ requestId
  uncut : ∀ index inner, action = .client index inner → Connection.Uncut (watched.1.clients index) inner
  honest : ∀ index stream bytes, action = .client index (.receive stream bytes) →
    Connection.Honest (serves index) ((watched.1.clients index).outbound stream) (watched.2 index stream ++ bytes)

/-- The commands of the loops have ids of their own, and types of the protocol. -/
structure Requests (s : State n) : Prop where
  distinct : ∀ d d' command command', s.commands d = some command → s.commands d' = some command' →
    command.requestId = command'.requestId → d = d'
  apart : ∀ d command index, s.commands d = some command → ¬ (s.clients index).Greets command.requestId
  typed : ∀ d command, s.commands d = some command → command.Typed

theorem Requests.new : Requests (State.new n) := ⟨nofun, nofun, nofun⟩

section Received

variable {config : Config n} {serves : Fin n → Request → ResponseFrame → Prop} {s after : State n}
  {received : NodeReceived n} {action : Action n}

theorem Step.commanded (taken : Step config s action after) {d : SendId} {command : Command}
    (atCommand : after.commands d = some command) :
    s.commands d = some command ∨ action = .send d (.start command) := by
  rcases taken.commands with same | ⟨started, fresh, rfl, new⟩
  · exact .inl (same ▸ atCommand)
  · rw [new, Function.update_apply] at atCommand
    split at atCommand
    · rename_i same
      subst same
      cases atCommand
      exact .inr rfl
    · exact .inl atCommand

theorem Step.greets (taken : Step config s action after) {index : Fin n} {id : Id16}
    (greets : (after.clients index).Greets id) :
    (s.clients index).Greets id ∨ ∃ o fresh, action = .client index (.opening o (.identify id fresh)) := by
  rcases taken.client_of index with same | ⟨inner, atAction, step⟩
  · exact .inl (same ▸ greets)
  · rcases step.greets greets with before | ⟨o, fresh, rfl⟩
    · exact .inl before
    · cases ClientMove.of_clientAction atAction with
      | inside => exact .inr ⟨o, fresh, rfl⟩

theorem Requests.step (requests : Requests s) (meets : ServedNodes serves (s, received) action)
    (taken : Step config s action after) : Requests after where
  distinct d d' command command' atCommand atCommand' same := by
    rcases taken.commanded atCommand with known | rfl
    · rcases taken.commanded atCommand' with known' | rfl
      · exact requests.distinct d d' command command' known known' same
      · exact absurd same ((meets.starts d' command' rfl).2.1 d command known)
    · rcases taken.commanded atCommand' with known' | started
      · exact absurd same.symm ((meets.starts d command rfl).2.1 d' command' known')
      · cases started
        rfl
  apart d command index atCommand greets := by
    rcases taken.greets greets with before | ⟨o, fresh, rfl⟩
    · rcases taken.commanded atCommand with known | rfl
      · exact requests.apart d command index known before
      · exact (meets.starts d command rfl).2.2 index before
    · rcases taken.commanded atCommand with known | started
      · exact meets.greets index o _ fresh rfl d command known rfl
      · cases started
  typed d command atCommand := by
    rcases taken.commanded atCommand with known | rfl
    · exact requests.typed d command known
    · exact (meets.starts d command rfl).1

/-- A command that is sent again to a node is the one that was sent before. -/
theorem Requests.served (requests : Requests s) (delivered : Delivered s)
    (meets : ServedNodes serves (s, received) action) (taken : Step config s action after) {index : Fin n}
    {inner : Connection.Action} (atAction : clientAction s action = some (index, inner)) :
    Connection.Served (serves index) (s.clients index, received index) inner := by
  cases ClientMove.of_clientAction atAction with
  | loopOpens | loopCloses | userOpens | userCloses => exact ⟨trivial, trivial, trivial, nofun⟩
  | @loopSends d c round atPc =>
    have known := delivered.known d round.pending.command (by rw [atPc]; rfl)
    refine ⟨⟨?_, requests.apart d _ index known⟩, requests.typed d _ known, trivial, nofun⟩
    intro c' earlier atNode same
    obtain ⟨d', known'⟩ := delivered.attempted index c' earlier atNode
    obtain rfl := requests.distinct d' d _ _ known' known same
    exact Option.some.inj (known'.symm.trans known)
  | inside =>
    cases taken with
    | client inside _ =>
      refine ⟨?_, ?_, meets.uncut index inner rfl, ?_⟩
      · unfold Connection.OwnIds
        split
        · cases inside
        · intro c earlier atNode
          obtain ⟨d, known⟩ := delivered.attempted index c earlier atNode
          exact meets.greets index _ _ _ rfl d earlier known
        · trivial
      · unfold Connection.TypedCommands
        split
        · cases inside
        · trivial
      · rintro stream bytes rfl
        exact meets.honest index stream bytes rfl

theorem recordReceived_of_clientAction {index : Fin n} {inner : Connection.Action}
    (atAction : clientAction s action = some (index, inner)) :
    recordReceived s action after received = Function.update received index
      (Connection.recordReceived (s.clients index) inner (after.clients index) (received index)) := by
  cases ClientMove.of_clientAction atAction with
  | loopOpens | loopSends | loopCloses | userOpens | userCloses => exact (Function.update_eq_self index received).symm
  | inside => rfl

theorem recordReceived_of_none (quiet : clientAction s action = none) :
    recordReceived s action after received = received := by
  cases action with
  | client => cases quiet
  | send | opening | closing | tick => rfl

theorem ReceivedIn.reached {allowed : State n × NodeReceived n → Action n → Prop}
    (reach : ReceivedIn config allowed s received) : Reached config Always s :=
  Reach.forget (reach.mono fun _ _ _ => trivial)

theorem Requests.of_reach (reach : ReceivedIn config (ServedNodes serves) s received) : Requests s := by
  refine Reach.invariant reach (motive := fun watched => Requests watched.1) .new ?_
  intro before action after _ requests meets run
  exact requests.step meets (.of_run (watch_eq_some run).1)

/-- To each of its nodes a replset client is a connection with a server that answers. -/
theorem node_served (index : Fin n) (reach : ReceivedIn config (ServedNodes serves) s received) :
    Connection.ReceivedIn (config.client index) (Connection.Served (serves index)) (s.clients index) (received index) := by
  refine reach.simulate (fun watched => (watched.1.clients index, watched.2 index)) ?_
  intro before action after previous meets run
  obtain ⟨stepped, recorded⟩ := watch_eq_some run
  have taken := Step.of_run stepped
  rcases taken.clients with ⟨quiet, same⟩ | @⟨moved, inner, client, atAction, moves, new⟩
  · rw [recordReceived_of_none quiet] at recorded
    exact .inl (by rw [same, recorded])
  · rw [recordReceived_of_clientAction atAction] at recorded
    by_cases here : index = moved
    · subst here
      refine .inr ⟨inner, (Requests.of_reach previous).served (.of_reach (ReceivedIn.reached previous)) meets taken atAction, ?_⟩
      rw [watch, moves, recorded, new, Function.update_self, Function.update_self]
      rfl
    · exact .inl (by rw [new, recorded, Function.update_of_ne here, Function.update_of_ne here])

/-- With nodes that answer requests under the id of the request, whatever fails
over, is tried again or comes in late, a `send_command` that succeeds has got
an answer of some node to its own command. -/
theorem answer_of_send (reach : ReceivedIn config (ServedNodes serves) s received)
    (echoes : ∀ index request frame, serves index request frame → frame.result.requestId = request.requestId)
    {d : SendId} {result : CommandResult} (returned : s.sends d = .returned (.ok result)) :
    ∃ index command request frame, s.commands d = some command ∧ command.Asks request ∧ serves index request frame ∧
      frame.result = result := by
  obtain ⟨index, c, command, _, own, atNode, atPc⟩ := (Delivered.of_reach reach.reached).call returned
  obtain ⟨command', request, frame, atNode', asks, serves, same⟩ :=
    Connection.served_of_returned (node_served index reach) (echoes index) atPc
  cases atNode.symm.trans atNode'
  exact ⟨index, command, request, frame, own, asks, serves, same⟩

end Received

section Example

def nodePong : Id16 := ⟨Block.ofNatLE 16 7⟩

/-- A ping that the first node is out of reach for, and that the second answers. -/
def failedOverPing : List (Action 2) :=
  [.send 0 (.start (.ping ⟨nodePong⟩)), .send 0 .enter, .send 0 .push, .send 0 .readActive] ++
    missNode 0 firstNode 0 ++ openNode 0 secondNode 0 0 ++
    [.send 0 (.startSend 0), .client secondNode (.call 0 .enter), .client secondNode (.call 0 .lockPending),
      .client secondNode (.call 0 .insert)] ++ (Connection.writeActions 0).map (.client secondNode) ++
    [.client secondNode (.receive 0 (ResponseFrame.ping nodePong 0 (Block.zero 44)).bytes),
      .client secondNode (.reader 0 .readHeader), .client secondNode (.reader 0 .lockPending),
      .client secondNode (.reader 0 .deliver), .client secondNode (.call 0 .receive), .send 0 .answered,
      .send 0 .setActive, .send 0 .remove]

def SendPc.succeeded : SendPc n → Bool
  | .returned (.ok _) => true
  | _ => false

theorem SendPc.succeeded_iff {pc : SendPc n} : pc.succeeded = true ↔ ∃ result, pc = .returned (.ok result) := by
  constructor
  · intro succeeded
    unfold SendPc.succeeded at succeeded
    split at succeeded
    · exact ⟨_, rfl⟩
    · cases succeeded
  · rintro ⟨_, rfl⟩
    rfl

theorem failedOverPing_succeeds :
    (run (watch (step pair) recordReceived) (State.new 2, fun _ _ => []) failedOverPing).any
      (fun watched => (watched.1.sends 0).succeeded) = true := by decide

/-- Steps of which the servers and the writers of new ids are not aware. -/
def Action.unseen : Action n → Bool
  | .send _ (.start _) => false
  | .client _ action => action.plain
  | _ => true

theorem servedNodes_unseen {serves : Fin n → Request → ResponseFrame → Prop} {watched : State n × NodeReceived n}
    {action : Action n} (isUnseen : action.unseen = true) : ServedNodes serves watched action := by
  refine ⟨?_, ?_, ?_, ?_⟩
  · rintro d command rfl
    cases isUnseen
  · rintro index o requestId fresh rfl
    cases isUnseen
  · rintro index inner rfl
    have served : Connection.Served (serves index) (watched.1.clients index, watched.2 index) inner :=
      Connection.served_of_plain isUnseen
    exact served.uncut
  · rintro index stream bytes rfl
    cases isUnseen

theorem servedNodes_receive {serves : Fin n → Request → ResponseFrame → Prop} {watched : State n × NodeReceived n}
    {index : Fin n} {stream : Connection.StreamId} {bytes : List UInt8}
    (honest : Connection.Honest (serves index) ((watched.1.clients index).outbound stream)
      (watched.2 index stream ++ bytes)) : ServedNodes serves watched (.client index (.receive stream bytes)) :=
  ⟨nofun, nofun, by rintro _ _ ⟨⟩; trivial, by rintro _ _ _ ⟨⟩; exact honest⟩

theorem failedOverPing_served :
    RunAllowed (watch (step pair) recordReceived) (ServedNodes fun _ => Connection.Pongs) (State.new 2, fun _ _ => [])
      failedOverPing := by
  have plain : ∀ {watched} {action : Action 2}, action.unseen = true →
      ServedNodes (fun _ => Connection.Pongs) watched action := servedNodes_unseen
  have other : ∀ d earlier, Function.update (fun _ => none) 0 (some (Command.ping ⟨nodePong⟩)) d = some earlier →
      earlier.requestId ≠ ⟨Block.zero 16⟩ := by
    intro d earlier known
    rw [Function.update_apply] at known
    split at known <;> cases known
    decide
  have first : ServedNodes (fun _ => Connection.Pongs) (State.new 2, fun _ _ => [])
      (.send 0 (.start (.ping ⟨nodePong⟩))) := by
    refine ⟨?_, nofun, nofun, nofun⟩
    rintro _ _ ⟨⟩
    refine ⟨trivial, nofun, ?_⟩
    rintro _ ⟨clientId, ⟨_, said⟩ | ⟨_, _, writing⟩⟩
    · exact Connection.InitCommand.header_nonempty _ said.symm
    · cases writing
  exact ⟨first, plain rfl, plain rfl, plain rfl, plain rfl, plain rfl, plain rfl, plain rfl, plain rfl, plain rfl,
    plain rfl, plain rfl, plain rfl, plain rfl, plain rfl, ⟨nofun, by rintro _ _ _ _ ⟨⟩; exact other,
    by rintro _ _ ⟨⟩; trivial, nofun⟩, plain rfl, servedNodes_receive (Connection.honest_acceptance ⟨[], rfl⟩),
    plain rfl, plain rfl, plain rfl, plain rfl, plain rfl, plain rfl, plain rfl, plain rfl, plain rfl, plain rfl,
    plain rfl, ⟨nofun, nofun, by rintro _ _ ⟨⟩; exact fun _ _ => rfl, nofun⟩, plain rfl, plain rfl,
    servedNodes_receive (Connection.honest_pong ⟨⟨Block.zero 16⟩, ⟨Block.zero 16⟩⟩ nodePong rfl rfl rfl ⟨[], rfl⟩),
    plain rfl, plain rfl, plain rfl, plain rfl, plain rfl, plain rfl, plain rfl, trivial⟩

theorem result_of_send_failedOverPing :
    ∃ s : State 2, ∃ result index c, s.sends 0 = .returned (.ok result) ∧ (index, c) ∈ s.attempts 0 ∧
      (s.clients index).calls c = .returned (.ok result) := by
  obtain ⟨⟨s, received⟩, reach, succeeded⟩ := Reach.exists_of_run failedOverPing_served failedOverPing_succeeds
  obtain ⟨result, returned⟩ := SendPc.succeeded_iff.mp succeeded
  obtain ⟨index, c, _, member, _, _, atPc, _⟩ := result_of_send (ReceivedIn.reached reach) returned
  exact ⟨s, result, index, c, returned, member, atPc⟩

theorem answer_of_send_failedOverPing :
    ∃ s : State 2, (s.sends 0).succeeded = true ∧ ∃ command request frame, s.commands 0 = some command ∧
      command.Asks request ∧ Connection.Pongs request frame ∧ s.sends 0 = .returned (.ok frame.result) := by
  obtain ⟨⟨s, received⟩, reach, succeeded⟩ := Reach.exists_of_run failedOverPing_served failedOverPing_succeeds
  have echoes : ∀ (_ : Fin 2) request frame, Connection.Pongs request frame → frame.result.requestId = request.requestId := by
    rintro _ _ _ ⟨requestId, rfl, rfl⟩
    rfl
  obtain ⟨result, returned⟩ := SendPc.succeeded_iff.mp succeeded
  obtain ⟨_, command, request, frame, own, asks, serves, rfl⟩ := answer_of_send reach echoes returned
  exact ⟨s, succeeded, command, request, frame, own, asks, serves, returned⟩

end Example

end Ruslock.Replset
