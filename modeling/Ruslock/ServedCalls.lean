import Mathlib.Data.List.Infix
import Ruslock.ConnectionOutcomes
import Ruslock.Handshake
import Ruslock.OwnAnswers
import Ruslock.ServerView
import Ruslock.WholeFrames

namespace Ruslock.Connection
open Transition Wire

/-- The init frame with this request id is on a stream, or about to be written to one. -/
def State.Greets (s : State) (id : Id16) : Prop :=
  ∃ clientId, (∃ stream, s.handshake stream = (⟨id, clientId⟩ : InitCommand).header.toList) ∨
    ∃ o stream, s.opens o = .writeInit stream ⟨id, clientId⟩

/-- A request id stands for one command, which may be sent again, and for no handshake. -/
def OwnIds (s : State) : Action → Prop
  | .call _ (.start command) =>
    (∀ c earlier, s.command c = some earlier → earlier.requestId = command.requestId → earlier = command) ∧
      ¬ s.Greets command.requestId
  | .opening _ (.identify requestId _) => ∀ c earlier, s.command c = some earlier → earlier.requestId ≠ requestId
  | _ => True

/-- New commands bear a type of the protocol. -/
def TypedCommands (_s : State) : Action → Prop
  | .call _ (.start command) => command.Typed
  | _ => True

section Server

variable (serves : Request → ResponseFrame → Prop)

/-- What a server has sent that answers requests it has read: behind its answer
to the handshake whole frames, of which the last may not have arrived to its end. -/
def Honest (outbound inbound : List UInt8) : Prop :=
  ∃ header : Block 64, ∃ frames : List ResponseFrame,
    inbound <+: header.toList ++ frames.flatMap ResponseFrame.bytes ∧
    ∀ frame ∈ frames, ∃ front requests request,
      front <+: outbound ∧ parseRequests front = some requests ∧ request ∈ requests ∧ serves request frame

/-- All the bytes that were written to a stream. -/
def State.outbound (s : State) (stream : StreamId) : List UInt8 := s.handshake stream ++ s.sent stream

/-- The servers answer what they are asked, under request ids of their own, on
streams that nobody writes to behind a cut frame. -/
structure Served (watched : State × Received) (action : Action) : Prop where
  ownIds : OwnIds watched.1 action
  typed : TypedCommands watched.1 action
  uncut : Uncut watched.1 action
  honest : ∀ stream bytes, action = .receive stream bytes →
    Honest serves (watched.1.outbound stream) (watched.2 stream ++ bytes)

end Server

theorem InitCommand.header_inj {init init' : InitCommand} (same : init.header.toList = init'.header.toList) :
    init.requestId = init'.requestId := by
  have first := parseRequest_append init.header []
  rw [same, parseRequest_append, parseBody_init, parseBody_init] at first
  exact (Request.init.inj (Prod.mk.inj (Option.some.inj first)).1).1.symm

section Steps

variable {config : Config} {s after : State} {action : Action}

/-- The request id of a handshake comes up when it is identified. -/
theorem Step.greets (taken : Step config s action after) {id : Id16} (greets : after.Greets id) :
    s.Greets id ∨ ∃ o fresh, action = .opening o (.identify id fresh) := by
  obtain ⟨clientId, said⟩ := greets
  cases taken with
  | call taken => exact .inl ⟨clientId, by rw [← taken.frame.handshake, ← taken.frame.opens]; exact said⟩
  | closing taken => exact .inl ⟨clientId, by rw [← taken.frame.handshake, ← taken.frame.opens]; exact said⟩
  | reader taken => exact .inl ⟨clientId, by rw [← taken.frame.handshake, ← taken.frame.opens]; exact said⟩
  | network taken => exact .inl ⟨clientId, by rw [← taken.frame.handshake, ← taken.frame.opens]; exact said⟩
  | @opening o _ _ taken =>
    rcases said with ⟨stream, said⟩ | ⟨o', stream, writing⟩
    · rcases taken.handshake with same | ⟨written, init, atPc, _, new⟩
      · exact .inl ⟨clientId, .inl ⟨stream, by rw [← same]; exact said⟩⟩
      · rw [new, Function.update_apply] at said
        split at said
        · have same : init.requestId = id := InitCommand.header_inj said
          exact .inl ⟨init.clientId, .inr ⟨o, written, by rw [atPc, ← same]⟩⟩
        · exact .inl ⟨clientId, .inl ⟨stream, said⟩⟩
    · by_cases own : o' = o
      · subst own
        cases taken with
        | identify =>
          simp only [Function.update_self] at writing
          cases writing
          exact .inr ⟨o', _, rfl⟩
        | findWriter =>
          simp only [Function.update_self] at writing
          split at writing <;> cases writing
        | start | lockWriter | storeClosed | connect | connectFails | fails | writeInit | refused | accepted | split
        | lockPublish | publish | spawn =>
          simp only [Function.update_self] at writing
          cases writing
      · rw [taken.frame.others o' own] at writing
        exact .inl ⟨clientId, .inr ⟨o', stream, writing⟩⟩

/-- The commands of a connection have ids of their own, and types of the protocol. -/
structure Distinguished (s : State) : Prop where
  unique : ∀ c c' command command', s.command c = some command → s.command c' = some command' →
    command.requestId = command'.requestId → command = command'
  apart : ∀ c command, s.command c = some command → ¬ s.Greets command.requestId
  typed : ∀ c command, s.command c = some command → command.Typed

theorem Distinguished.step (distinguished : Distinguished s) (taken : Step config s action after)
    (ownIds : OwnIds s action) (typed : TypedCommands s action) : Distinguished after where
  unique c c' command command' atCommand atCommand' same := by
    rcases taken.commanded atCommand with known | rfl
    · rcases taken.commanded atCommand' with known' | rfl
      · exact distinguished.unique c c' command command' known known' same
      · exact ownIds.1 c command known same
    · rcases taken.commanded atCommand' with known' | started
      · exact (ownIds.1 c' command' known' same.symm).symm
      · cases started
        rfl
  apart c command atCommand greets := by
    rcases taken.greets greets with before | ⟨o, fresh, rfl⟩
    · rcases taken.commanded atCommand with known | rfl
      · exact distinguished.apart c command known before
      · exact ownIds.2 before
    · rcases taken.commanded atCommand with known | started
      · exact ownIds c command known rfl
      · cases started
  typed c command atCommand := by
    rcases taken.commanded atCommand with known | rfl
    · exact distinguished.typed c command known
    · exact typed

theorem ReaderStep.decoded_prefix {r : StreamId} {action : ReaderAction} (taken : ReaderStep s r action after)
    (stream : StreamId) : s.decoded stream <+: after.decoded stream := by
  by_cases same : stream = r
  · subst same
    cases taken with
    | deliver | discard =>
      simp only [Function.update_self]
      exact List.prefix_append _ _
    | _ => exact List.prefix_rfl
  · rw [(taken.frame.others stream same).2.2]

theorem getElem?_of_prefix {α : Type} {front whole : List α} {n : Nat} {entry : α} (within : front <+: whole)
    (found : front[n]? = some entry) : whole[n]? = some entry := by
  obtain ⟨back, rfl⟩ := within
  rw [List.getElem?_append_left (List.getElem?_eq_some_iff.mp found).1]
  exact found

/-- A response that a call was told of is the frame that it comes from. -/
def State.Told (s : State) : Prop :=
  ∀ c message r n, message ∈ s.channel c → message.origin = .response r n → (s.decoded r)[n]? = some message.result

theorem State.Told.quiet (told : s.Told) (quiet : Quiet s after) (decoded : ∀ r, s.decoded r <+: after.decoded r) :
    after.Told := by
  intro c message r n member origin
  rw [quiet.channel] at member
  exact getElem?_of_prefix (decoded r) (told c message r n member origin)

theorem State.Told.completion {id : Id16} {owner : CallId} {message : Message} (told : s.Told)
    (completion : Completion s after id owner message) (decoded : ∀ r, s.decoded r <+: after.decoded r)
    (last : ∀ r n, message.origin = .response r n → (after.decoded r)[n]? = some message.result) : after.Told := by
  intro c other r n member origin
  rcases completion.received member with before | ⟨_, rfl⟩
  · exact getElem?_of_prefix (decoded r) (told c other r n before origin)
  · exact last r n origin

theorem State.Told.step (told : s.Told) (taken : Step config s action after) : after.Told := by
  cases taken with
  | call taken =>
    unfold State.Told
    rw [taken.frame.channel, taken.frame.decoded]
    exact told
  | opening taken => exact told.quiet ⟨taken.frame.pending, taken.frame.channel⟩ fun r => taken.frame.decoded ▸ List.prefix_rfl
  | network taken => exact told.quiet ⟨taken.frame.pending, taken.frame.channel⟩ fun r => taken.frame.decoded ▸ List.prefix_rfl
  | closing taken =>
    rcases taken.completes with quiet | ⟨id, c, _, completion⟩
    · exact told.quiet quiet fun r => taken.frame.decoded ▸ List.prefix_rfl
    · exact told.completion completion (fun r => taken.frame.decoded ▸ List.prefix_rfl) nofun
  | reader taken =>
    rcases taken.completes with quiet | ⟨header, data, c, _, completion, decoded⟩ | ⟨failure, id, c, _, completion, _⟩
    · exact told.quiet quiet taken.decoded_prefix
    · refine told.completion completion taken.decoded_prefix ?_
      rintro stream n ⟨⟩
      rw [decoded, Function.update_self, List.getElem?_concat_length]
    · exact told.completion completion taken.decoded_prefix nofun

/-- What was written to a stream is never taken back, nor is anything put in front of it. -/
theorem Step.outbound_prefix (taken : Step config s action after) (introduced : Introduced s)
    (stream : StreamId) : s.outbound stream <+: after.outbound stream := by
  unfold State.outbound
  cases taken with
  | closing taken =>
    rw [taken.frame.handshake, taken.frame.sent]
  | reader taken =>
    rw [taken.frame.handshake, taken.frame.sent]
  | network taken =>
    rw [taken.frame.handshake, taken.frame.sent]
  | call taken =>
    rw [taken.frame.handshake]
    refine (List.prefix_append_right_inj _).mpr ?_
    cases taken with
    | write =>
      dsimp only
      rw [Function.update_apply]
      split
      · rename_i same
        rw [same]
        exact List.prefix_append _ _
      · exact List.prefix_rfl
    | _ => exact List.prefix_rfl
  | @opening o _ _ taken =>
    rw [taken.frame.sent]
    rcases taken.handshake with same | ⟨written, init, atPc, _, new⟩
    · rw [same]
    · rw [new, Function.update_apply]
      split
      · rename_i same
        subst same
        have silent := introduced.preparing o stream (by rw [atPc]; rfl)
        have unsent : s.sent stream = [] := by
          by_contra said
          exact introduced.published stream (introduced.sent stream said) silent
        rw [silent, unsent]
        exact List.nil_prefix
      · exact List.prefix_rfl

end Steps

section Runs

variable {serves : Request → ResponseFrame → Prop} {config : Config} {s : State} {received : Received}

theorem Honest.mono {outbound outbound' inbound : List UInt8} (honest : Honest serves outbound inbound)
    (longer : outbound <+: outbound') : Honest serves outbound' inbound := by
  obtain ⟨header, frames, within, answers⟩ := honest
  refine ⟨header, frames, within, fun frame member => ?_⟩
  obtain ⟨front, requests, request, sent, rest⟩ := answers frame member
  exact ⟨front, requests, request, sent.trans longer, rest⟩

/-- What the server of each stream has sent, and what the calls have been told. -/
structure Conversation (serves : Request → ResponseFrame → Prop) (s : State) (received : Received) : Prop where
  distinguished : Distinguished s
  told : s.Told
  honest : ∀ stream, Honest serves (s.outbound stream) (received stream)

theorem Conversation.of_reach (reach : ReceivedIn config (Served serves) s received) :
    Conversation serves s received := by
  refine Reach.invariant reach (motive := fun watched => Conversation serves watched.1 watched.2) ?_ ?_
  · exact ⟨⟨nofun, nofun, nofun⟩, nofun, fun _ => ⟨Block.zero 64, [], List.nil_prefix, List.forall_mem_nil _⟩⟩
  · intro before action after previous conversation meets run
    obtain ⟨stepped, recorded⟩ := watch_eq_some run
    have taken := Step.of_run stepped
    refine ⟨conversation.distinguished.step taken meets.ownIds meets.typed, conversation.told.step taken, ?_⟩
    intro stream
    have longer := taken.outbound_prefix (.of_reach (ReceivedIn.reached previous)) stream
    rw [recorded]
    unfold recordReceived
    split
    · rename_i target bytes
      rw [Function.update_apply]
      split
      · rename_i same
        subst same
        exact (meets.honest stream bytes rfl).mono longer
      · exact (conversation.honest stream).mono longer
    · exact (conversation.honest stream).mono longer

theorem ReceivedIn.state {allowed : State → Action → Prop} {strict : State × Received → Action → Prop}
    (reach : ReceivedIn config strict s received)
    (weaken : ∀ before action, strict before action → allowed before.1 action) : Reached config allowed s :=
  Reach.forget (reach.mono weaken)

/-- Everything on a stream are frames of an init and of commands of calls. -/
theorem outbound_frames (introduced : Introduced s) (framing : Framing s) (commands : Commands s) (stream : StreamId) :
    ∃ frames : List EncodedCommand, s.outbound stream <+: frames.flatMap EncodedCommand.frame ∧
      ∀ frame ∈ frames, s.Frame frame ∨
        ∃ init : InitCommand, s.handshake stream = init.header.toList ∧ (Command.init init).encode = .ok frame := by
  obtain ⟨frames, known, sent⟩ := framing.framed commands stream
  by_cases silent : s.handshake stream = []
  · refine ⟨frames, ?_, fun frame member => .inl (known frame member)⟩
    rw [State.outbound, silent]
    exact sent
  · obtain ⟨init, _, same⟩ := introduced.handshake stream silent
    obtain ⟨frame, encodes⟩ : ∃ frame, (Command.init init).encode = .ok frame := ⟨_, rfl⟩
    refine ⟨frame :: frames, ?_,
      List.forall_mem_cons.mpr ⟨.inr ⟨init, same, encodes⟩, fun frame member => .inl (known frame member)⟩⟩
    cases encodes
    rw [State.outbound, same, List.flatMap_cons, EncodedCommand.frame, List.append_assoc]
    exact (List.prefix_append_right_inj _).mpr sent

/-- Every request that a server has read of a stream is that of an init or of a
command of a call. -/
theorem request_origin (introduced : Introduced s) (framing : Framing s) (commands : Commands s)
    (distinguished : Distinguished s) {stream : StreamId} {front : List UInt8} {requests : List Request} {request : Request}
    (sent : front <+: s.outbound stream) (parsed : parseRequests front = some requests) (member : request ∈ requests) :
    (∃ c command, s.command c = some command ∧ command.Asks request) ∨ s.Greets request.requestId := by
  obtain ⟨frames, within, known⟩ := outbound_frames introduced framing commands stream
  have encoded : ∀ frame ∈ frames, ∃ command : Command, command.Typed ∧ command.encode = .ok frame := by
    intro frame member
    rcases known frame member with ⟨c, command, atCommand, encodes⟩ | ⟨init, _, encodes⟩
    · exact ⟨command, distinguished.typed c command atCommand, encodes⟩
    · exact ⟨.init init, trivial, encodes⟩
  obtain ⟨frame, isFrame, atFrame⟩ := requests_of_frames encoded (sent.trans within) parsed request member
  rcases known frame isFrame with ⟨c, command, atCommand, encodes⟩ | ⟨init, same, encodes⟩
  · exact .inl ⟨c, command, atCommand, frame, encodes, atFrame⟩
  · have asks : (Command.init init).Asks request := ⟨frame, encodes, atFrame⟩
    have id : request.requestId = init.requestId := asks.requestId trivial
    refine .inr ⟨init.clientId, .inl ⟨stream, ?_⟩⟩
    rw [id]
    exact same

/-- A result that a call has got is a whole frame of what a server has sent. -/
theorem Conversation.frame (conversation : Conversation serves s received) (reading : Reading s received)
    (outcomes : Outcomes config s) {c : CallId} {result : CommandResult} (returned : s.calls c = .returned (.ok result)) :
    ∃ stream front requests request frame, front <+: s.outbound stream ∧ parseRequests front = some requests ∧
      request ∈ requests ∧ serves request frame ∧ frame.result = result := by
  obtain ⟨stream, n, member⟩ : ∃ stream n, (⟨.response stream n, .ok result⟩ : Message) ∈ s.channel c := by
    cases outcomes.ends c _ returned with
    | answered _ member => exact ⟨_, _, member⟩
  have decoded := conversation.told c _ stream n member rfl
  obtain ⟨header, frames, within, answers⟩ := conversation.honest stream
  have running : s.readers stream ≠ .idle := by
    intro idle
    rw [reading.undecoded stream idle] at decoded
    cases decoded
  obtain ⟨accepted, progress⟩ := reading.reading stream running
  -- the reader begins behind the answer to the handshake
  have behind : (received stream).drop 64 <+: frames.flatMap ResponseFrame.bytes := by
    obtain ⟨more, whole⟩ := within
    have dropped := (accepted.append more).2
    rw [whole, List.drop_left' header.length_eq] at dropped
    exact ⟨more, dropped.symm⟩
  have atFrames := getElem?_of_prefix (progress.isPrefix.trans (readLoop_front behind)) decoded
  obtain ⟨frame, isFrame, same⟩ := List.mem_map.mp (List.mem_of_getElem? atFrames)
  obtain ⟨front, requests, request, sent, parsed, isRequest, served⟩ := answers frame isFrame
  exact ⟨stream, front, requests, request, frame, sent, parsed, isRequest, served, Except.ok.inj same⟩

/-- A request whose id is that of a command is the request of that command. -/
theorem request_unique (introduced : Introduced s) (framing : Framing s) (commands : Commands s)
    (distinguished : Distinguished s) {stream : StreamId} {front : List UInt8} {requests : List Request}
    {request : Request} (sent : front <+: s.outbound stream) (parsed : parseRequests front = some requests)
    (member : request ∈ requests) {c : CallId} {command : Command} (atCommand : s.command c = some command)
    (id : request.requestId = command.requestId) : command.Asks request := by
  rcases request_origin introduced framing commands distinguished sent parsed member with
    ⟨c', command', atCommand', asks⟩ | greets
  · have id' := asks.requestId (distinguished.typed c' command' atCommand')
    obtain rfl := distinguished.unique c c' command command' atCommand atCommand' (id.symm.trans id')
    exact asks
  · rw [id] at greets
    exact absurd greets (distinguished.apart c command atCommand)

/-- With servers that answer requests under the id of the request, in any order
and in any pieces, a call that succeeds has got an answer to its own command. -/
theorem served_of_returned (reach : ReceivedIn config (Served serves) s received)
    (echoes : ∀ request frame, serves request frame → frame.result.requestId = request.requestId)
    {c : CallId} {result : CommandResult} (returned : s.calls c = .returned (.ok result)) :
    ∃ command request frame, s.command c = some command ∧ command.Asks request ∧ serves request frame ∧
      frame.result = result := by
  have conversation := Conversation.of_reach reach
  have framing : Framing s := .of_reach (reach.state fun _ _ meets => meets.uncut)
  obtain ⟨stream, front, requests, request, frame, sent, parsed, member, served, rfl⟩ :=
    conversation.frame (.of_reach reach) (.of_reach reach.reached) returned
  obtain ⟨command, atCommand, id⟩ := (Labelled.of_reach reach.reached).returned c _ returned
  rw [echoes request frame served] at id
  exact ⟨command, request, frame, atCommand, request_unique (.of_reach reach.reached) framing (.of_reach reach.reached)
    conversation.distinguished sent parsed member atCommand id, served, rfl⟩

end Runs

section Example

/-- A server that answers pings. -/
def Pongs (request : Request) (frame : ResponseFrame) : Prop :=
  ∃ requestId, request = .ping requestId ∧ frame = .ping requestId 0 (Block.zero 44)

/-- Steps of which a server and the writers of new ids are not aware. -/
def Action.plain : Action → Bool
  | .call _ (.start _) => false
  | .call _ .findWriter => false
  | .opening _ (.identify _ _) => false
  | .receive _ _ => false
  | _ => true

theorem served_of_plain {serves : Request → ResponseFrame → Prop} {watched : State × Received} {action : Action}
    (isPlain : action.plain = true) : Served serves watched action := by
  constructor
  · unfold OwnIds
    split
    · cases isPlain
    · cases isPlain
    · trivial
  · unfold TypedCommands
    split
    · cases isPlain
    · trivial
  · unfold Uncut
    split
    · cases isPlain
    · trivial
  · rintro stream bytes rfl
    cases isPlain

/-- A server that has read an init and a command can answer both. -/
theorem honest_answer {serves : Request → ResponseFrame → Prop} (init : InitCommand) {command : Command}
    {answer : ResponseFrame} {greeting frame : EncodedCommand} {outbound inbound : List UInt8}
    (flagged : command.WellFlagged) (greets : (Command.init init).encode = .ok greeting)
    (asks : command.encode = .ok frame) (sent : outbound = greeting.frame ++ frame.frame)
    (answers : serves command.toRequest answer) (within : inbound <+: acceptance.toList ++ answer.bytes) :
    Honest serves outbound inbound := by
  have greetingFlagged : (Command.init init).WellFlagged := trivial
  have last : parseRequests frame.frame = some [command.toRequest] := by
    have read := parseRequest_frame [] flagged asks
    rw [List.append_nil] at read
    rw [parseRequests_cons read, parseRequests]
    rfl
  have whole := parseRequests_cons (parseRequest_frame frame.frame greetingFlagged greets)
  rw [← sent, last] at whole
  refine ⟨acceptance, [answer], by rwa [List.flatMap_singleton], List.forall_mem_singleton.mpr ?_⟩
  exact ⟨outbound, _, _, List.prefix_rfl, whole, List.mem_cons_of_mem _ (List.mem_singleton_self _), answers⟩

theorem honest_pong (init : InitCommand) (id : Id16) {greeting frame : EncodedCommand} {outbound inbound : List UInt8}
    (greets : (Command.init init).encode = .ok greeting) (asks : (Command.ping ⟨id⟩).encode = .ok frame)
    (sent : outbound = greeting.frame ++ frame.frame)
    (within : inbound <+: acceptance.toList ++ (ResponseFrame.ping id 0 (Block.zero 44)).bytes) :
    Honest Pongs outbound inbound := by
  have flagged : (Command.ping ⟨id⟩).WellFlagged := trivial
  exact honest_answer init flagged greets asks sent ⟨id, rfl, rfl⟩ within

theorem honest_acceptance {serves : Request → ResponseFrame → Prop} {outbound inbound : List UInt8}
    (within : inbound <+: acceptance.toList) : Honest serves outbound inbound :=
  ⟨acceptance, [], within.trans (List.prefix_append _ _), List.forall_mem_nil _⟩

end Example

end Ruslock.Connection
