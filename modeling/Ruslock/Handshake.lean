import Ruslock.ServerView
import Ruslock.WholeFrames

namespace Ruslock.Connection
open Transition Wire

/-- Calls carry pings, locks and unlocks. -/
def PlainCalls (_ : State) : Action → Prop
  | .call _ (.start command) => command.Plain
  | _ => True

/-- The stream of an `open` that has yet to write its handshake. -/
def OpenPc.preparing : OpenPc → Option StreamId
  | .configure stream => some stream
  | .writeInit stream _ => some stream
  | _ => none

/-- The stream of an `open` that has written its handshake. -/
def OpenPc.greeted : OpenPc → Option StreamId
  | .readInit stream => some stream
  | .split stream => some stream
  | .lockPublish stream => some stream
  | .inPublish stream => some stream
  | .spawn stream => some stream
  | _ => none

/-- The bytes are an init frame under the client id of the connection. -/
def State.Introduces (s : State) (bytes : List UInt8) : Prop :=
  ∃ init : InitCommand, s.clientId = some init.clientId ∧ bytes = init.header.toList

/-- Every stream begins with one init frame, all under one client id, and
nothing else is written before it. -/
structure Introduced (s : State) : Prop where
  unconnected : ∀ stream, s.connected stream = false → s.handshake stream = []
  preparing : ∀ o stream, (s.opens o).preparing = some stream → s.handshake stream = []
  writing : ∀ o stream init, s.opens o = .writeInit stream init → s.clientId = some init.clientId
  handshake : ∀ stream, s.handshake stream ≠ [] → s.Introduces (s.handshake stream)
  greeted : ∀ o stream, (s.opens o).greeted = some stream → s.handshake stream ≠ []
  published : ∀ stream, s.Published stream → s.handshake stream ≠ []
  sent : ∀ stream, s.sent stream ≠ [] → s.Published stream

theorem Introduced.new : Introduced State.new where
  unconnected _ _ := rfl
  preparing _ _ atStream := nomatch atStream
  writing _ _ _ atPc := nomatch atPc
  handshake _ said := absurd rfl said
  greeted _ _ atStream := nomatch atStream
  published _ published := by
    rcases published with running | ⟨_, spawning⟩
    · exact absurd rfl running
    · cases spawning
  sent _ said := absurd rfl said

theorem OpenPc.stream_of_preparing {pc : OpenPc} {stream : StreamId} (preparing : pc.preparing = some stream) :
    pc.stream = some stream := by
  cases pc with
  | configure | writeInit => exact preparing
  | _ => cases preparing

theorem InitCommand.header_nonempty (init : InitCommand) : init.header.toList ≠ [] := by
  intro empty
  have length := init.header.length_eq
  rw [empty] at length
  cases length

section Steps

variable {config : Config} {s after : State}

/-- A client id is chosen once. -/
theorem Step.clientId_kept {action : Action} {id : Id16} (taken : Step config s action after)
    (chosen : s.clientId = some id) : after.clientId = some id := by
  cases taken with
  | call taken => exact taken.frame.clientId.trans chosen
  | closing taken => exact taken.frame.clientId.trans chosen
  | reader taken => exact taken.frame.clientId.trans chosen
  | network taken => exact taken.frame.clientId.trans chosen
  | opening taken =>
    cases taken with
    | identify =>
      dsimp only
      rw [chosen]
      rfl
    | _ => exact chosen

theorem State.Introduces.onward {action : Action} {bytes : List UInt8} (introduces : s.Introduces bytes)
    (taken : Step config s action after) : after.Introduces bytes := by
  obtain ⟨init, chosen, same⟩ := introduces
  exact ⟨init, taken.clientId_kept chosen, same⟩

/-- What an `open` writes: nothing, or the init frame that it has prepared. -/
theorem OpenStep.handshake {o : OpenId} {action : OpenAction} (taken : OpenStep config s o action after) :
    after.handshake = s.handshake ∨ ∃ stream init, s.opens o = .writeInit stream init ∧
      after.opens o = .readInit stream ∧ after.handshake = Function.update s.handshake stream init.header.toList := by
  cases taken with
  | writeInit atPc => exact .inr ⟨_, _, atPc, Function.update_self .., rfl⟩
  | _ => exact .inl rfl

theorem OpenStep.preparing {o : OpenId} {action : OpenAction} {stream : StreamId}
    (taken : OpenStep config s o action after) (preparing : (after.opens o).preparing = some stream) :
    after.handshake = s.handshake ∧ ((s.opens o).preparing = some stream ∨ s.connected stream = false) := by
  cases taken with
  | connect _ unused =>
    simp only [Function.update_self] at preparing
    cases preparing
    exact ⟨rfl, .inr unused⟩
  | identify atPc =>
    simp only [Function.update_self] at preparing
    rw [atPc]
    exact ⟨rfl, .inl preparing⟩
  | findWriter =>
    simp only [Function.update_self] at preparing
    split at preparing <;> cases preparing
  | start | lockWriter | storeClosed | connectFails | fails | writeInit | refused | accepted | split | lockPublish
  | publish | spawn =>
    simp only [Function.update_self] at preparing
    cases preparing

theorem OpenStep.writing {o : OpenId} {action : OpenAction} {stream : StreamId} {init : InitCommand}
    (taken : OpenStep config s o action after) (writing : after.opens o = .writeInit stream init) :
    after.clientId = some init.clientId := by
  cases taken with
  | identify =>
    simp only [Function.update_self] at writing
    cases writing
    rfl
  | findWriter =>
    simp only [Function.update_self] at writing
    split at writing <;> cases writing
  | start | lockWriter | storeClosed | connect | connectFails | fails | writeInit | refused | accepted | split
  | lockPublish | publish | spawn =>
    simp only [Function.update_self] at writing
    cases writing

theorem OpenStep.greeted {o : OpenId} {action : OpenAction} {stream : StreamId}
    (taken : OpenStep config s o action after) (greeted : (after.opens o).greeted = some stream) :
    (s.opens o).greeted = some stream ∧ after.handshake = s.handshake ∨
      ∃ init : InitCommand, after.handshake stream = init.header.toList := by
  cases taken with
  | writeInit =>
    simp only [Function.update_self] at greeted
    cases greeted
    exact .inr ⟨_, Function.update_self ..⟩
  | accepted atPc | split atPc | lockPublish atPc | publish atPc =>
    simp only [Function.update_self] at greeted
    rw [atPc]
    exact .inl ⟨greeted, rfl⟩
  | findWriter =>
    simp only [Function.update_self] at greeted
    split at greeted <;> cases greeted
  | start | lockWriter | storeClosed | connect | connectFails | fails | identify | refused | spawn =>
    simp only [Function.update_self] at greeted
    cases greeted

/-- An `open` comes to its last place from one where its handshake is written. -/
theorem OpenStep.published {o : OpenId} {action : OpenAction} {stream : StreamId}
    (taken : OpenStep config s o action after) (published : after.Published stream) :
    s.Published stream ∨ (s.opens o).greeted = some stream := by
  rcases published with running | ⟨o', spawning⟩
  · rcases taken.readers with same | ⟨started, atPc, new⟩
    · exact .inl (.inl (by rwa [same] at running))
    · by_cases here : stream = started
      · subst here
        exact .inl (.inr ⟨o, atPc⟩)
      · rw [new, Function.update_of_ne here] at running
        exact .inl (.inl running)
  · by_cases own : o' = o
    · subst own
      refine .inr ?_
      cases taken with
      | publish atPc =>
        simp only [Function.update_self] at spawning
        cases spawning
        rw [atPc]
        rfl
      | findWriter =>
        simp only [Function.update_self] at spawning
        split at spawning <;> cases spawning
      | start | lockWriter | storeClosed | connect | connectFails | fails | identify | writeInit | refused | accepted
      | split | lockPublish | spawn =>
        simp only [Function.update_self] at spawning
        cases spawning
    · rw [taken.frame.others o' own] at spawning
      exact .inl (.inr ⟨o', spawning⟩)

/-- A step that leaves every `open` where it is. -/
theorem Introduced.keep {action : Action} (introduced : Introduced s) (taken : Step config s action after)
    (opens : after.opens = s.opens) (connected : after.connected = s.connected)
    (handshake : after.handshake = s.handshake)
    (idle : ∀ stream, after.readers stream = .idle ↔ s.readers stream = .idle)
    (sent : ∀ stream, after.sent stream ≠ [] → s.Published stream) : Introduced after := by
  have published : ∀ stream, after.Published stream ↔ s.Published stream := by
    intro stream
    unfold State.Published
    rw [opens, Ne, idle stream]
  constructor
  · rw [connected, handshake]
    exact introduced.unconnected
  · rw [opens, handshake]
    exact introduced.preparing
  · rw [opens]
    exact fun o stream init atPc => taken.clientId_kept (introduced.writing o stream init atPc)
  · rw [handshake]
    exact fun stream said => (introduced.handshake stream said).onward taken
  · rw [opens, handshake]
    exact introduced.greeted
  · rw [handshake]
    exact fun stream isPublished => introduced.published stream ((published stream).mp isPublished)
  · exact fun stream said => (published stream).mpr (sent stream said)

theorem Introduced.openStep {o : OpenId} {action : OpenAction} (introduced : Introduced s) (streams : Streams s)
    (taken : OpenStep config s o action after) : Introduced after := by
  have frame := taken.frame
  have step : Step config s (.opening o action) after := .opening taken
  -- only the stream that the `open` owns gets a handshake
  have kept : ∀ stream, (s.opens o).stream ≠ some stream → after.handshake stream = s.handshake stream := by
    intro stream elsewhere
    rcases taken.handshake with same | ⟨written, init, atPc, _, new⟩
    · rw [same]
    · have apart : stream ≠ written := by
        rintro rfl
        exact elsewhere (by rw [atPc]; rfl)
      rw [new, Function.update_of_ne apart]
  have said : ∀ stream, s.handshake stream ≠ [] → after.handshake stream ≠ [] := by
    intro stream before
    rcases taken.handshake with same | ⟨written, init, _, _, new⟩
    · rwa [same]
    · rw [new, Function.update_apply]
      split
      · exact InitCommand.header_nonempty init
      · exact before
  constructor
  · intro stream unconnected
    have before : s.connected stream = false := by
      by_contra connected
      rw [taken.connected_kept (Bool.eq_true_of_not_eq_false connected)] at unconnected
      cases unconnected
    rw [kept stream fun owned => ?_]
    · exact introduced.unconnected stream before
    · rw [(streams.owned o stream owned).1] at before
      cases before
  · intro o' stream preparing
    by_cases own : o' = o
    · subst own
      obtain ⟨same, before | unused⟩ := taken.preparing preparing
      · rw [same]
        exact introduced.preparing o' stream before
      · rw [same]
        exact introduced.unconnected stream unused
    · rw [frame.others o' own] at preparing
      rw [kept stream fun owned => own (streams.sole o' o stream (OpenPc.stream_of_preparing preparing) owned)]
      exact introduced.preparing o' stream preparing
  · intro o' stream init writing
    by_cases own : o' = o
    · subst own
      exact taken.writing writing
    · rw [frame.others o' own] at writing
      exact step.clientId_kept (introduced.writing o' stream init writing)
  · intro stream spoken
    rcases taken.handshake with same | ⟨written, init, atPc, _, new⟩
    · rw [same] at spoken ⊢
      exact (introduced.handshake stream spoken).onward step
    · rw [new, Function.update_apply] at spoken ⊢
      split
      · exact ⟨init, step.clientId_kept (introduced.writing o written init atPc), rfl⟩
      · rename_i elsewhere
        rw [if_neg elsewhere] at spoken
        exact (introduced.handshake stream spoken).onward step
  · intro o' stream greeted
    by_cases own : o' = o
    · subst own
      rcases taken.greeted greeted with ⟨before, same⟩ | ⟨init, new⟩
      · rw [same]
        exact introduced.greeted o' stream before
      · rw [new]
        exact InitCommand.header_nonempty init
    · rw [frame.others o' own] at greeted
      exact said stream (introduced.greeted o' stream greeted)
  · intro stream published
    rcases taken.published published with before | greeted
    · exact said stream (introduced.published stream before)
    · exact said stream (introduced.greeted o stream greeted)
  · rw [frame.sent]
    exact fun stream spoken => taken.published_kept (introduced.sent stream spoken)

theorem Introduced.callStep {c : CallId} {action : CallAction} (introduced : Introduced s) (streams : Streams s)
    (taken : CallStep config s c action after) : Introduced after := by
  have frame := taken.frame
  refine introduced.keep (.call taken) frame.opens frame.connected frame.handshake (fun stream => by rw [frame.readers]) ?_
  intro stream spoken
  cases taken with
  | @write encoded target rest count atPc =>
    by_cases same : stream = target
    · subst same
      exact streams.writing c stream (by rw [atPc]; rfl)
    · simp only [Function.update_of_ne same] at spoken
      exact introduced.sent stream spoken
  | _ => exact introduced.sent stream spoken

theorem Introduced.step {action : Action} (introduced : Introduced s) (streams : Streams s)
    (taken : Step config s action after) : Introduced after := by
  have step := taken
  cases taken with
  | call taken => exact introduced.callStep streams taken
  | opening taken => exact introduced.openStep streams taken
  | closing taken =>
    have frame := taken.frame
    refine introduced.keep step frame.opens frame.connected frame.handshake (fun stream => by rw [frame.readers]) ?_
    rw [frame.sent]
    exact introduced.sent
  | network taken =>
    have frame := taken.frame
    refine introduced.keep step frame.opens frame.connected frame.handshake (fun stream => by rw [frame.readers]) ?_
    rw [frame.sent]
    exact introduced.sent
  | reader taken =>
    have frame := taken.frame
    refine introduced.keep step frame.opens frame.connected frame.handshake taken.idle_iff ?_
    rw [frame.sent]
    exact introduced.sent

theorem Introduced.of_reach {allowed : State → Action → Prop} (reach : Reached config allowed s) : Introduced s :=
  reach.invariant .new fun _ _ _ previous introduced _ run =>
    introduced.step (.of_reach previous) (.of_run run)

/-- A handshake is written once. -/
theorem Introduced.once {action : Action} {stream : StreamId} (introduced : Introduced s)
    (taken : Step config s action after) (said : s.handshake stream ≠ []) : after.handshake stream = s.handshake stream := by
  cases taken with
  | call taken => rw [taken.frame.handshake]
  | closing taken => rw [taken.frame.handshake]
  | reader taken => rw [taken.frame.handshake]
  | network taken => rw [taken.frame.handshake]
  | @opening o _ _ taken =>
    rcases taken.handshake with same | ⟨written, init, atPc, _, new⟩
    · rw [same]
    · have elsewhere : stream ≠ written := by
        rintro rfl
        exact said (introduced.preparing o stream (by rw [atPc]; rfl))
      rw [new, Function.update_of_ne elsewhere]

theorem Reading.accepted_of_published {received : Received} {stream : StreamId} (reading : Reading s received)
    (published : s.Published stream) : Accepted (received stream) := by
  rcases published with running | ⟨o, spawning⟩
  · exact (reading.reading stream running).1
  · exact (reading.shaken o stream (by rw [spawning]; rfl)).1

/-- A command comes up with the call that it is for. -/
theorem Step.commanded (taken : Step config s action after) {c : CallId} {command : Command}
    (atCommand : after.command c = some command) : s.command c = some command ∨ action = .call c (.start command) := by
  cases taken with
  | opening taken => exact .inl (taken.frame.command ▸ atCommand)
  | closing taken => exact .inl (taken.frame.command ▸ atCommand)
  | reader taken => exact .inl (taken.frame.command ▸ atCommand)
  | network taken => exact .inl (taken.frame.command ▸ atCommand)
  | @call moved _ _ taken =>
    rcases taken.command with same | ⟨started, rfl, _, _, new⟩
    · exact .inl (same ▸ atCommand)
    · rw [new, Function.update_apply] at atCommand
      split at atCommand
      · rename_i same
        subst same
        cases atCommand
        exact .inr rfl
      · exact .inl atCommand

/-- What a call has yet to write is the end of its frame. -/
theorem CallStep.unwritten {c : CallId} {action : CallAction} {encoded : EncodedCommand} {stream : StreamId}
    {rest : List UInt8} (taken : CallStep config s c action after)
    (before : ∀ encoded stream rest, s.calls c = .writing encoded stream rest → rest <:+ encoded.frame)
    (writing : after.calls c = .writing encoded stream rest) : rest <:+ encoded.frame := by
  cases taken with
  | foundWriter =>
    simp only [Function.update_self] at writing
    cases writing
    exact List.suffix_rfl
  | write atPc =>
    simp only [Function.update_self] at writing
    cases writing
    exact (List.drop_suffix ..).trans (before _ _ _ atPc)
  | enter =>
    simp only [Function.update_self, enterPc] at writing
    repeat' split at writing
    all_goals cases writing
  | @remove _ exit =>
    simp only [Function.update_self] at writing
    cases exit <;> cases writing
  | _ => simp only [Function.update_self] at writing; cases writing

theorem unwritten_of_reach {allowed : State → Action → Prop} {c : CallId} {encoded : EncodedCommand}
    {stream : StreamId} {rest : List UInt8} (reach : Reached config allowed s)
    (writing : s.calls c = .writing encoded stream rest) : rest <:+ encoded.frame := by
  induction reach generalizing encoded stream rest with
  | start => cases writing
  | next _ _ run ih =>
    cases Step.of_run run with
    | opening taken => exact ih (taken.frame.calls ▸ writing)
    | closing taken => exact ih (taken.frame.calls ▸ writing)
    | reader taken => exact ih (taken.frame.calls ▸ writing)
    | network taken => exact ih (taken.frame.calls ▸ writing)
    | @call moved _ _ taken =>
      by_cases own : c = moved
      · subst own
        exact taken.unwritten (fun _ _ _ => ih) writing
      · exact ih ((taken.frame.others c own).1 ▸ writing)

theorem plain_of_reach {c : CallId} {command : Command} (reach : Reached config PlainCalls s)
    (atCommand : s.command c = some command) : command.Plain := by
  induction reach with
  | start => cases atCommand
  | next _ meets run ih =>
    rcases (Step.of_run run).commanded atCommand with known | rfl
    · exact ih known
    · exact meets

end Steps

/-- A part of the frame of a ping, a lock or an unlock. -/
def Piece (bytes : List UInt8) : Prop :=
  ∃ (command : Command) (encoded : EncodedCommand) (request : Request), command.encode = .ok encoded ∧
    parseRequest encoded.frame = some (request, []) ∧ request.isInit = false ∧ bytes <:+: encoded.frame

/-- What a server sees of a connection: every stream begins with one init
frame, always under the same client id, and goes on only once the answer to it
was received, with pings, locks and unlocks. -/
structure Session (config : Config) (s : State) (received : Received) : Prop where
  introduced : ∀ stream, s.handshake stream ≠ [] → ∃ init : InitCommand, s.clientId = some init.clientId ∧
    parseRequest (s.handshake stream ++ s.sent stream) = some (.init init.requestId init.clientId, s.sent stream)
  /-- The init frame is written once. -/
  once : ∀ action after stream, step config s action = some after → s.handshake stream ≠ [] →
    after.handshake stream = s.handshake stream
  first : ∀ stream, s.sent stream ≠ [] → s.handshake stream ≠ [] ∧ Accepted (received stream)
  /-- What is written behind it belongs to no other init frame. -/
  pieces : ∀ action after stream, step config s action = some after →
    after.sent stream = s.sent stream ∨ ∃ bytes, Piece bytes ∧ after.sent stream = s.sent stream ++ bytes
  /-- Unless somebody writes behind a cut frame, no later request is taken for an init. -/
  single : Reached config Uncut s → ∀ stream front requests, front <+: s.sent stream →
    parseRequests front = some requests → ∀ request ∈ requests, request.isInit = false
  writer : ∀ stream, s.writer = some stream → s.handshake stream ≠ [] ∧ Accepted (received stream)
  settled : ∀ later clientId, s.clientId = some clientId → Reach (step config) Always s later →
    later.clientId = some clientId

theorem session_of_reach {config : Config} {s : State} {received : Received}
    (reach : ReceivedIn config (fun watched action => PlainCalls watched.1 action) s received) :
    Session config s received := by
  have plain : Reached config PlainCalls s := Reach.forget reach
  have introduced := Introduced.of_reach plain
  have reading := Reading.of_reach reach
  have commands := Commands.of_reach plain
  have asks : ∀ encoded, s.Frame encoded →
      ∃ request, parseRequest encoded.frame = some (request, []) ∧ request.isInit = false := by
    rintro encoded ⟨c, command, atCommand, encodes⟩
    have isPlain := plain_of_reach plain atCommand
    obtain ⟨request, _, reads⟩ := Command.parseRequest_encoded isPlain.typed encodes
    have parsed := reads []
    rw [List.append_nil] at parsed
    exact ⟨request, parsed, Command.Asks.not_init ⟨encoded, encodes, parsed⟩ isPlain⟩
  constructor
  · intro stream said
    obtain ⟨init, chosen, same⟩ := introduced.handshake stream said
    refine ⟨init, chosen, ?_⟩
    rw [same, parseRequest_append, parseBody_init]
  · exact fun action after stream run said => introduced.once (.of_run run) said
  · intro stream said
    have published := introduced.sent stream said
    exact ⟨introduced.published stream published, reading.accepted_of_published published⟩
  · intro action after stream run
    cases Step.of_run run with
    | opening taken => exact .inl (by rw [taken.frame.sent])
    | closing taken => exact .inl (by rw [taken.frame.sent])
    | reader taken => exact .inl (by rw [taken.frame.sent])
    | network taken => exact .inl (by rw [taken.frame.sent])
    | @call c _ _ taken =>
      cases taken with
      | @write encoded target rest count atPc =>
        by_cases here : stream = target
        · subst here
          obtain ⟨command, atCommand, encodes⟩ := commands.encoded c encoded (by rw [atPc]; rfl)
          obtain ⟨request, parsed, notInit⟩ := asks encoded ⟨c, command, atCommand, encodes⟩
          have within : rest.take count <:+: encoded.frame :=
            (List.take_prefix ..).isInfix.trans (unwritten_of_reach plain atPc).isInfix
          exact .inr ⟨_, ⟨command, encoded, request, encodes, parsed, notInit, within⟩, Function.update_self ..⟩
        · exact .inl (Function.update_of_ne here ..)
      | _ => exact .inl rfl
  · intro uncut stream front requests sent parsed request member
    obtain ⟨frames, known, within⟩ := (Framing.of_reach uncut).framed commands stream
    have encoded : ∀ frame ∈ frames, ∃ command : Command, command.Typed ∧ command.encode = .ok frame := by
      intro frame isFrame
      obtain ⟨c, command, atCommand, encodes⟩ := known frame isFrame
      exact ⟨command, (plain_of_reach plain atCommand).typed, encodes⟩
    obtain ⟨frame, isFrame, atFrame⟩ := requests_of_frames encoded (sent.trans within) parsed request member
    obtain ⟨asked, read, notInit⟩ := asks frame (known frame isFrame)
    rw [atFrame] at read
    cases read
    exact notInit
  · intro stream atWriter
    have published := (Streams.of_reach plain).writer stream atWriter
    exact ⟨introduced.published stream published, reading.accepted_of_published published⟩
  · intro later clientId chosen onward
    exact onward.invariant (motive := fun s => s.clientId = some clientId) chosen fun _ _ _ _ before _ run =>
      (Step.of_run run).clientId_kept before

/-- Two calls of `open` that overlap, each with a new id at hand, and a ping on one of the streams. -/
def overlapping : List Action :=
  [.opening 0 .start, .opening 0 .lockWriter, .opening 0 .findWriter, .opening 1 .start, .opening 1 .lockWriter,
    .opening 1 .findWriter, .opening 0 .storeClosed, .opening 1 .storeClosed, .opening 0 (.connect 0),
    .opening 1 (.connect 1), .opening 0 (.identify ⟨Block.ofNatLE 16 1⟩ ⟨Block.ofNatLE 16 5⟩),
    .opening 1 (.identify ⟨Block.ofNatLE 16 2⟩ ⟨Block.ofNatLE 16 6⟩), .opening 1 .writeInit, .opening 0 .writeInit,
    .receive 0 acceptance.toList, .opening 0 .readInit, .opening 0 .split, .opening 0 .lockPublish,
    .opening 0 .publish, .opening 0 .spawn] ++ registerActions 0 ⟨Block.ofNatLE 16 7⟩ ++ writeActions 0

theorem session_overlapping :
    ∃ s received, s.handshake 0 ≠ s.handshake 1 ∧ s.clientId = some ⟨Block.ofNatLE 16 5⟩ ∧ (s.sent 0).length = 64 ∧
      Session ⟨.blocking, ""⟩ s received := by
  have executed : (run (watch (step ⟨.blocking, ""⟩) recordReceived) (State.new, fun _ => []) overlapping).any
      (fun watched => watched.1.handshake 0 ≠ watched.1.handshake 1 ∧
        watched.1.clientId = some ⟨Block.ofNatLE 16 5⟩ ∧ (watched.1.sent 0).length = 64) = true := by decide
  have meets : RunAllowed (watch (step ⟨.blocking, ""⟩) recordReceived)
      (fun watched action => PlainCalls watched.1 action) (State.new, fun _ => []) overlapping := by
    refine .of_forall (fun action member _ => ?_) _
    revert action
    simp [overlapping, registerActions, writeActions, PlainCalls, Command.Plain]
  obtain ⟨⟨s, received⟩, reach, found⟩ := Reach.exists_of_run meets executed
  obtain ⟨apart, chosen, sent⟩ := of_decide_eq_true found
  exact ⟨s, received, apart, chosen, sent, session_of_reach reach⟩

end Ruslock.Connection
