import Ruslock.ReceivedStream
import Ruslock.RequestStream

namespace Ruslock
open Wire

section Requests

variable {input rest more : List UInt8}

theorem readExact_more {count : Nat} {block : Block count} (read : readExact count input = some (block, rest)) :
    readExact count (input ++ more) = some (block, rest ++ more) := by
  rw [readExact_eq_some read, List.append_assoc, readExact_append]

theorem parseExtra_more {extra : List UInt8} (parsed : parseExtra input = some (extra, rest)) :
    parseExtra (input ++ more) = some (extra, rest ++ more) := by
  obtain ⟨⟨lenBytes, middle⟩, first, tail⟩ := Option.bind_eq_some_iff.mp parsed
  obtain ⟨⟨payload, last⟩, second, same⟩ := Option.bind_eq_some_iff.mp tail
  cases same
  exact Option.bind_eq_some_iff.mpr
    ⟨_, readExact_more first, Option.bind_eq_some_iff.mpr ⟨_, readExact_more second, rfl⟩⟩

theorem parseBody_more {header : Block 64} {request : Request} (parsed : parseBody header input = some (request, rest)) :
    parseBody header (input ++ more) = some (request, rest ++ more) := by
  unfold parseBody at parsed ⊢
  split at parsed
  · rw [if_pos ‹_›]
    split at parsed
    · rw [if_pos ‹_›]
      cases parsed
      rfl
    rw [if_neg ‹_›]
    split at parsed
    · rw [if_pos ‹_›]
      cases parsed
      rfl
    rw [if_neg ‹_›]
    split at parsed
    · rw [if_pos ‹_›]
      split at parsed
      · rw [if_pos ‹_›]
        obtain ⟨⟨extra, last⟩, second, same⟩ := Option.bind_eq_some_iff.mp parsed
        cases same
        exact Option.bind_eq_some_iff.mpr ⟨_, parseExtra_more second, rfl⟩
      · rw [if_neg ‹_›]
        cases parsed
        rfl
    · cases parsed
  · cases parsed

/-- A request that has arrived is the same whatever arrives behind it. -/
theorem parseRequest_more {request : Request} (parsed : parseRequest input = some (request, rest)) :
    parseRequest (input ++ more) = some (request, rest ++ more) := by
  obtain ⟨⟨header, middle⟩, first, tail⟩ := Option.bind_eq_some_iff.mp parsed
  exact Option.bind_eq_some_iff.mpr ⟨_, readExact_more first, parseBody_more tail⟩

end Requests

/-- The request id that a server answers under. -/
def Request.requestId : Request → Id16
  | .init requestId _ => requestId
  | .ping requestId => requestId
  | .lock request => request.requestId

/-- A command whose header bears one of the types of the protocol. -/
def Command.Typed : Command → Prop
  | .lock command => command.commandType = commandTypeLock ∨ command.commandType = commandTypeUnlock
  | _ => True

/-- What the callers of a connection send: pings, locks and unlocks. -/
def Command.Plain : Command → Prop
  | .init _ => False
  | .ping _ => True
  | .lock command => command.commandType = commandTypeLock ∨ command.commandType = commandTypeUnlock

def Request.isInit : Request → Bool
  | .init _ _ => true
  | _ => false

theorem Command.Plain.typed {command : Command} (plain : command.Plain) : command.Typed := by
  cases command with
  | lock => exact plain
  | init | ping => trivial

/-- The request that a server reads from the frame of a command. -/
def Command.Asks (command : Command) (request : Request) : Prop :=
  ∃ encoded, command.encode = .ok encoded ∧ parseRequest encoded.frame = some (request, [])

/-- A lock command is encoded with extra bytes exactly when its flag announces them. -/
theorem LockCommand.extra_announced {command : LockCommand} {extra : Option (List UInt8)}
    (run : command.extra = .ok extra) : command.flag &&& lockFlagContainsData ≠ 0 ↔ extra.isSome = true := by
  rw [← LockCommand.hasExtraData_iff]
  unfold LockCommand.extra at run
  split at run
  · rename_i withData
    refine iff_of_true withData ?_
    split at run
    · cases run
    · obtain ⟨bytes, _, same⟩ := Outcome.bind_eq_ok.mp run
      cases same
      rfl
  · rename_i without
    cases run
    exact iff_of_false without Bool.false_ne_true

/-- A server reads the frame of a command to its end. -/
theorem Command.parseRequest_encoded {command : Command} {encoded : EncodedCommand} (typed : command.Typed)
    (run : command.encode = .ok encoded) :
    ∃ request, request.requestId = command.requestId ∧
      ∀ rest, parseRequest (encoded.frame ++ rest) = some (request, rest) := by
  simp only [EncodedCommand.frame, List.append_assoc, parseRequest_append]
  cases command with
  | init command =>
    cases run
    exact ⟨_, rfl, parseBody_init command⟩
  | ping command =>
    cases run
    exact ⟨_, rfl, parseBody_ping command⟩
  | lock command =>
    obtain ⟨extra, atExtra, _, atHeader, same⟩ := Command.encode_lock run
    have announced := LockCommand.extra_announced atExtra
    have request : (Request.lock (parseLockRequest command.header extra)).requestId = command.requestId := by
      rw [command.header_fields]
      rfl
    refine ⟨_, request, fun rest => ?_⟩
    rw [atHeader, same, parseBody_header typed]
    cases extra with
    | none =>
      have noBit : ¬ command.flag &&& lockFlagContainsData ≠ 0 := fun set => Bool.false_ne_true (announced.mp set)
      rw [if_neg noBit]
      rfl
    | some bytes =>
      obtain ⟨body, prefixed, fits⟩ := LockCommand.extra_prefixed atExtra
      have parsed := parseExtra_prefixed body rest fits
      rw [← prefixed] at parsed
      rw [if_pos (announced.mpr rfl)]
      exact Option.bind_eq_some_iff.mpr ⟨_, parsed, rfl⟩

theorem Command.Asks.requestId {command : Command} {request : Request} (asks : command.Asks request)
    (typed : command.Typed) : request.requestId = command.requestId := by
  obtain ⟨encoded, run, parsed⟩ := asks
  obtain ⟨same, id, reads⟩ := Command.parseRequest_encoded typed run
  have whole := reads []
  rw [List.append_nil, parsed] at whole
  cases whole
  exact id

/-- The frame of a ping, a lock or an unlock is not taken for an init. -/
theorem Command.Asks.not_init {command : Command} {request : Request} (asks : command.Asks request)
    (plain : command.Plain) : request.isInit = false := by
  obtain ⟨encoded, run, parsed⟩ := asks
  rw [EncodedCommand.frame, parseRequest_append] at parsed
  cases command with
  | init => exact plain.elim
  | ping command =>
    cases run
    rw [parseBody_ping] at parsed
    cases parsed
    rfl
  | lock command =>
    obtain ⟨extra, _, _, atHeader, _⟩ := Command.encode_lock run
    rw [atHeader, parseBody_header plain] at parsed
    split at parsed
    · obtain ⟨_, _, same⟩ := Option.bind_eq_some_iff.mp parsed
      rw [← (Prod.mk.inj (Option.some.inj same)).1]
      rfl
    · rw [← (Prod.mk.inj (Option.some.inj parsed)).1]
      rfl

/-- Whatever a server has read of a stream of frames, it has read the requests
of some of them. -/
theorem requests_of_frames {frames : List EncodedCommand} {front : List UInt8} {requests : List Request}
    (encoded : ∀ frame ∈ frames, ∃ command : Command, command.Typed ∧ command.encode = .ok frame)
    (sent : front <+: frames.flatMap EncodedCommand.frame) (parsed : parseRequests front = some requests) :
    ∀ request ∈ requests, ∃ frame ∈ frames, parseRequest frame.frame = some (request, []) := by
  induction frames generalizing front requests with
  | nil =>
    obtain rfl := List.prefix_nil.mp sent
    rw [parseRequests] at parsed
    cases parsed
    exact List.forall_mem_nil _
  | cons frame frames ih =>
    rw [parseRequests] at parsed
    split at parsed
    · cases parsed
      exact List.forall_mem_nil _
    · split at parsed
      · cases parsed
      · rename_i request rest first
        obtain ⟨later, behind, rfl⟩ := Option.map_eq_some_iff.mp parsed
        obtain ⟨command, typed, run⟩ := encoded frame List.mem_cons_self
        obtain ⟨same, _, reads⟩ := Command.parseRequest_encoded typed run
        obtain ⟨unread, whole⟩ := sent
        have read : parseRequest (front ++ unread) = some (request, rest ++ unread) := parseRequest_more first
        rw [whole, List.flatMap_cons, reads] at read
        obtain ⟨rfl, tail⟩ := Prod.mk.inj (Option.some.inj read)
        have alone := reads []
        rw [List.append_nil] at alone
        intro other member
        rcases List.mem_cons.mp member with rfl | member
        · exact ⟨frame, List.mem_cons_self, alone⟩
        · obtain ⟨found, isFrame, atFound⟩ := ih (fun frame member => encoded frame (List.mem_cons_of_mem _ member))
            ⟨unread, tail.symm⟩ behind other member
          exact ⟨found, List.mem_cons_of_mem _ isFrame, atFound⟩

/-- The reader that has got fewer bytes has decoded fewer frames, but the same ones. -/
theorem readLoop_results_mono (input more : List UInt8) :
    (readLoop input).results <+: (readLoop (input ++ more)).results := by
  induction input using readLoop.induct with
  | case1 input short =>
    rw [readLoop_short (readExact_eq_none.mp short)]
    exact List.nil_prefix
  | case2 input header input' read announced short =>
    rw [readExact_eq_some read, readLoop_cut announced short]
    exact List.nil_prefix
  | case3 input header input' read announced data rest extra ih =>
    rw [readExact_eq_some read, List.append_assoc, readLoop_extra announced extra]
    obtain ⟨front, rfl, reads⟩ := readExtraData_front extra
    rw [List.append_assoc, readLoop_extra announced (reads _)]
    exact (List.prefix_cons_inj _).mpr ih
  | case4 input header rest read plain ih =>
    have plain := Bool.eq_false_iff.mpr plain
    rw [readExact_eq_some read, List.append_assoc, readLoop_plain rest plain, readLoop_plain (rest ++ more) plain]
    exact (List.prefix_cons_inj _).mpr ih

theorem readLoop_results (frames : List ResponseFrame) :
    (readLoop (frames.flatMap ResponseFrame.bytes)).results = frames.map fun frame => .ok frame.result := by
  induction frames with
  | nil => rw [List.flatMap_nil, readLoop_short (show ([] : List UInt8).length < 64 by decide), List.map_nil]
  | cons frame frames ih =>
    rw [List.flatMap_cons, readLoop_frame, List.map_cons, ← ih]
    rfl

/-- What is decoded of a stream of well-formed frames are their results. -/
theorem readLoop_front {bytes : List UInt8} {frames : List ResponseFrame}
    (within : bytes <+: frames.flatMap ResponseFrame.bytes) :
    (readLoop bytes).results <+: frames.map fun frame => .ok frame.result := by
  obtain ⟨more, whole⟩ := within
  have mono := readLoop_results_mono bytes more
  rwa [whole, readLoop_results] at mono

end Ruslock
