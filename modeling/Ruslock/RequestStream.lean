import Ruslock.Codec

namespace Ruslock
open Wire

structure LockRequest where
  commandType : UInt8
  flag : UInt8
  dbId : UInt8
  requestId : Id16
  lockId : Id16
  lockKey : Key16
  timeout : PackedTime
  expired : PackedTime
  count : UInt16
  rCount : UInt8
  extra : Option (List UInt8)
  deriving DecidableEq

/-- What a server learns from one request frame. -/
inductive Request
  | init (requestId clientId : Id16)
  | ping (requestId : Id16)
  | lock (request : LockRequest)
  deriving DecidableEq

/-- The bytes after a request header: a little-endian length and that many
bytes, kept with their length prefix. -/
def parseExtra (input : List UInt8) : Option (List UInt8 × List UInt8) := do
  let (lenBytes, input) ← readExact 4 input
  let (payload, input) ← readExact (ofLE lenBytes.toList) input
  some (lenBytes.toList ++ payload.toList, input)

def parseLockRequest (header : Block 64) (extra : Option (List UInt8)) : LockRequest :=
  { commandType := header.get 2, flag := header.get 19, dbId := header.get 20, requestId := ⟨header.slice 3 16⟩,
    lockId := ⟨header.slice 21 16⟩, lockKey := ⟨header.slice 37 16⟩,
    timeout := ⟨UInt32.ofNat (ofLE (header.slice 53 4).toList)⟩,
    expired := ⟨UInt32.ofNat (ofLE (header.slice 57 4).toList)⟩,
    count := UInt16.ofNat (ofLE (header.slice 61 2).toList), rCount := header.get 63, extra := extra }

/-- The part of the reader that runs once a header has arrived. -/
def parseBody (header : Block 64) (input : List UInt8) : Option (Request × List UInt8) :=
  if header.get 0 = magic ∧ header.get 1 = version then
    if header.get 2 = commandTypeInit then
      some (.init ⟨header.slice 3 16⟩ ⟨header.slice 19 16⟩, input)
    else if header.get 2 = commandTypePing then
      some (.ping ⟨header.slice 3 16⟩, input)
    else if header.get 2 = commandTypeLock ∨ header.get 2 = commandTypeUnlock then
      if header.get 19 &&& lockFlagContainsData ≠ 0 then do
        let (extra, input) ← parseExtra input
        some (.lock (parseLockRequest header (some extra)), input)
      else some (.lock (parseLockRequest header none), input)
    else none
  else none

/-- The reader of a request stream, one frame: the sender's grammar read from
the other end of the connection. -/
def parseRequest (input : List UInt8) : Option (Request × List UInt8) := do
  let (header, input) ← readExact 64 input
  parseBody header input

theorem parseRequest_append (header : Block 64) (rest : List UInt8) :
    parseRequest (header.toList ++ rest) = parseBody header rest := by
  rw [parseRequest, readExact_append]
  rfl

theorem parseExtra_shorter {input rest extra : List UInt8} (parsed : parseExtra input = some (extra, rest)) :
    rest.length ≤ input.length := by
  obtain ⟨⟨lenBytes, middle⟩, first, tail⟩ := Option.bind_eq_some_iff.mp parsed
  obtain ⟨⟨payload, last⟩, second, same⟩ := Option.bind_eq_some_iff.mp tail
  cases same
  rw [readExact_eq_some first, readExact_eq_some second]
  simp only [List.length_append]
  omega

theorem parseBody_shorter {header : Block 64} {input rest : List UInt8} {request : Request}
    (parsed : parseBody header input = some (request, rest)) : rest.length ≤ input.length := by
  unfold parseBody at parsed
  split at parsed
  · split at parsed
    · cases parsed
      exact le_rfl
    split at parsed
    · cases parsed
      exact le_rfl
    split at parsed
    · split at parsed
      · obtain ⟨⟨extra, last⟩, second, same⟩ := Option.bind_eq_some_iff.mp parsed
        cases same
        exact parseExtra_shorter second
      · cases parsed
        exact le_rfl
    · cases parsed
  · cases parsed

theorem parseRequest_shorter {input rest : List UInt8} {request : Request}
    (parsed : parseRequest input = some (request, rest)) : rest.length < input.length := by
  obtain ⟨⟨header, middle⟩, first, tail⟩ := Option.bind_eq_some_iff.mp parsed
  have consumed := congrArg List.length (readExact_eq_some first)
  rw [List.length_append, header.length_eq] at consumed
  have kept : rest.length ≤ middle.length := parseBody_shorter tail
  omega

/-- Parses a whole stream; `none` where a frame is malformed or bytes are left over. -/
def parseRequests (input : List UInt8) : Option (List Request) :=
  if input = [] then some []
  else
    match _parsed : parseRequest input with
    | none => none
    | some (request, rest) => (parseRequests rest).map (request :: ·)
termination_by input.length
decreasing_by exact parseRequest_shorter _parsed

/-- The commands whose flag and data agree: a data bit exactly when data is
present, and a type the protocol knows. -/
def Command.WellFlagged : Command → Prop
  | .init _ => True
  | .ping _ => True
  | .lock command =>
    (command.commandType = commandTypeLock ∨ command.commandType = commandTypeUnlock) ∧
      (command.flag &&& lockFlagContainsData ≠ 0 ↔ command.data.isSome = true)

/-- The request that a command stands for. -/
def Command.toRequest : Command → Request
  | .init command => .init command.requestId command.clientId
  | .ping command => .ping command.requestId
  | .lock command =>
    .lock
      { commandType := command.commandType, flag := command.flag, dbId := command.dbId,
        requestId := command.requestId, lockId := command.lockId, lockKey := command.lockKey,
        timeout := command.timeout, expired := command.expired, count := command.count, rCount := command.rCount,
        extra := command.data.bind fun data => data.encode.toOption }

section Headers

variable (commandType : UInt8) (requestId : Id16) (command : LockCommand)

theorem commandHeader_magic : (commandHeader commandType requestId).get 0 = magic := by
  simp (disch := omega) only [commandHeader, Block.get_copyFromSlice_disjoint, Block.get_set_ne, Block.get_set_same]

theorem commandHeader_version : (commandHeader commandType requestId).get 1 = version := by
  simp (disch := omega) only [commandHeader, Block.get_copyFromSlice_disjoint, Block.get_set_ne, Block.get_set_same]

theorem commandHeader_type : (commandHeader commandType requestId).get 2 = commandType := by
  simp (disch := omega) only [commandHeader, Block.get_copyFromSlice_disjoint, Block.get_set_same]

theorem commandHeader_requestId : (commandHeader commandType requestId).slice 3 16 = requestId.bytes := by
  simp only [commandHeader, Block.slice_copyFromSlice_same]

/-- Every field of a lock command is read back from the offset it was written at. -/
theorem LockCommand.header_fields (extra : Option (List UInt8)) :
    parseLockRequest command.header extra =
      { commandType := command.commandType, flag := command.flag, dbId := command.dbId,
        requestId := command.requestId, lockId := command.lockId, lockKey := command.lockKey,
        timeout := command.timeout, expired := command.expired, count := command.count, rCount := command.rCount,
        extra := extra } := by
  have timeout := Block.ofLE_ofNatLE 4 command.timeout.bits.toNat command.timeout.bits.toNat_lt
  have expired := Block.ofLE_ofNatLE 4 command.expired.bits.toNat command.expired.bits.toNat_lt
  have count := Block.ofLE_ofNatLE 2 command.count.toNat command.count.toNat_lt
  simp (disch := omega) only [parseLockRequest, LockCommand.header, commandHeader, Block.get_set_same, Block.get_set_ne,
    Block.get_copyFromSlice_disjoint, Block.slice_copyFromSlice_same, Block.slice_copyFromSlice_disjoint,
    Block.slice_set_disjoint, timeout, expired, count, UInt32.ofNat_toNat, UInt16.ofNat_toNat]

theorem LockCommand.header_magic : command.header.get 0 = magic := by
  simp (disch := omega) only [LockCommand.header, Block.get_set_ne, Block.get_copyFromSlice_disjoint,
    commandHeader_magic]

theorem LockCommand.header_version : command.header.get 1 = version := by
  simp (disch := omega) only [LockCommand.header, Block.get_set_ne, Block.get_copyFromSlice_disjoint,
    commandHeader_version]

theorem LockCommand.header_type : command.header.get 2 = command.commandType := by
  simp (disch := omega) only [LockCommand.header, Block.get_set_ne, Block.get_copyFromSlice_disjoint,
    commandHeader_type]

theorem LockCommand.header_flag : command.header.get 19 = command.flag := by
  simp (disch := omega) only [LockCommand.header, Block.get_set_ne, Block.get_copyFromSlice_disjoint,
    Block.get_set_same]

end Headers

theorem parseExtra_prefixed (body rest : List UInt8) (fits : body.length < 256 ^ 4) :
    parseExtra (toLE 4 body.length ++ body ++ rest) = some (toLE 4 body.length ++ body, rest) := by
  have length := readExact_append (Block.ofNatLE 4 body.length) (body ++ rest)
  have value : ofLE (Block.ofNatLE 4 body.length).toList = body.length := Block.ofLE_ofNatLE _ _ fits
  have payload := readExact_append (⟨body, value.symm⟩ : Block (ofLE (Block.ofNatLE 4 body.length).toList)) rest
  simp only [parseExtra, List.append_assoc]
  exact Option.bind_eq_some_iff.mpr ⟨_, length, Option.bind_eq_some_iff.mpr ⟨_, payload, rfl⟩⟩

theorem LockCommand.hasExtraData_iff (command : LockCommand) :
    command.hasExtraData = true ↔ command.flag &&& lockFlagContainsData ≠ 0 := by
  simp only [LockCommand.hasExtraData, unlockFlagContainsData, lockFlagContainsData, Bool.or_self, bne_iff_ne]

/-- A well flagged lock command carries extra bytes exactly when it has data,
and they are the data's own encoding. -/
theorem LockCommand.extra_of_wellFlagged {command : LockCommand} {extra : Option (List UInt8)}
    (flagged : (Command.lock command).WellFlagged) (run : command.extra = .ok extra) :
    extra = (command.data.bind fun data => data.encode.toOption) ∧
      (command.flag &&& lockFlagContainsData ≠ 0 ↔ extra.isSome = true) := by
  have bit := LockCommand.hasExtraData_iff command
  unfold LockCommand.extra at run
  split at run
  · rename_i withData
    cases present : command.data with
    | none =>
      rw [present] at run
      cases run
    | some data =>
      rw [present] at run
      obtain ⟨bytes, encoded, same⟩ := Outcome.bind_eq_ok.mp run
      cases same
      rw [Option.bind_some, encoded]
      exact ⟨rfl, fun _ => rfl, fun _ => bit.mp withData⟩
  · rename_i withoutData
    cases run
    have noBit : ¬ command.flag &&& lockFlagContainsData ≠ 0 := fun set => withoutData (bit.mpr set)
    have noData : command.data = none := by
      cases present : command.data with
      | none => rfl
      | some data => exact absurd (flagged.2.mpr (by rw [present]; rfl)) noBit
    rw [noData]
    exact ⟨rfl, fun set => absurd set noBit, fun wrong => nomatch wrong⟩

theorem LockCommand.extra_prefixed {command : LockCommand} {bytes : List UInt8}
    (run : command.extra = .ok (some bytes)) :
    ∃ body, bytes = toLE 4 body.length ++ body ∧ body.length < 256 ^ 4 := by
  unfold LockCommand.extra at run
  split at run
  · cases present : command.data with
    | none =>
      rw [present] at run
      cases run
    | some data =>
      rw [present] at run
      obtain ⟨encoded, atData, same⟩ := Outcome.bind_eq_ok.mp run
      cases same
      exact LockData.encode_prefixed atData
  · cases run

theorem parseBody_init (command : InitCommand) (rest : List UInt8) :
    parseBody command.header rest = some (.init command.requestId command.clientId, rest) := by
  have client : command.header.slice 19 16 = command.clientId.bytes := Block.slice_copyFromSlice_same ..
  have magicByte : command.header.get 0 = magic := by
    rw [InitCommand.header, Block.get_copyFromSlice_disjoint _ _ _ _ _ _ (by omega), commandHeader_magic]
  have versionByte : command.header.get 1 = version := by
    rw [InitCommand.header, Block.get_copyFromSlice_disjoint _ _ _ _ _ _ (by omega), commandHeader_version]
  have typeByte : command.header.get 2 = commandTypeInit := by
    rw [InitCommand.header, Block.get_copyFromSlice_disjoint _ _ _ _ _ _ (by omega), commandHeader_type]
  have request : command.header.slice 3 16 = command.requestId.bytes := by
    rw [InitCommand.header, Block.slice_copyFromSlice_disjoint _ _ _ _ _ _ (by omega), commandHeader_requestId]
  rw [parseBody, if_pos ⟨magicByte, versionByte⟩, if_pos typeByte, client, request]

theorem parseBody_ping (command : PingCommand) (rest : List UInt8) :
    parseBody command.header rest = some (.ping command.requestId, rest) := by
  have typeByte : command.header.get 2 = commandTypePing := commandHeader_type ..
  have notInit : command.header.get 2 ≠ commandTypeInit := by
    rw [typeByte]
    decide
  have request : command.header.slice 3 16 = command.requestId.bytes := commandHeader_requestId ..
  rw [parseBody, if_pos ⟨commandHeader_magic .., commandHeader_version ..⟩, if_neg notInit, if_pos typeByte, request]

/-- Behind the header of a lock command, only its flag decides what is read. -/
theorem parseBody_header {command : LockCommand}
    (known : command.commandType = commandTypeLock ∨ command.commandType = commandTypeUnlock) (input : List UInt8) :
    parseBody command.header input =
      if command.flag &&& lockFlagContainsData ≠ 0 then
        (parseExtra input).bind fun read => some (.lock (parseLockRequest command.header (some read.1)), read.2)
      else some (.lock (parseLockRequest command.header none), input) := by
  rw [← command.header_type] at known
  have other : ∀ commandType, commandTypeLock ≠ commandType → commandTypeUnlock ≠ commandType →
      command.header.get 2 ≠ commandType := by
    intro commandType notLock notUnlock
    rcases known with isLock | isUnlock
    · rw [isLock]
      exact notLock
    · rw [isUnlock]
      exact notUnlock
  have notInit := other commandTypeInit (by decide) (by decide)
  have notPing := other commandTypePing (by decide) (by decide)
  rw [parseBody, if_pos ⟨command.header_magic, command.header_version⟩, if_neg notInit, if_neg notPing, if_pos known,
    command.header_flag]
  rfl

/-- The extra bytes of a lock command are read exactly where its flag announces them. -/
theorem parseBody_lock {command : LockCommand} {extra : Option (List UInt8)} (rest : List UInt8)
    (flagged : (Command.lock command).WellFlagged) (run : command.extra = .ok extra) :
    parseBody command.header (extra.getD [] ++ rest) = some (.lock (parseLockRequest command.header extra), rest) := by
  obtain ⟨_, bit⟩ := LockCommand.extra_of_wellFlagged flagged run
  rw [parseBody_header flagged.1]
  cases extra with
  | none =>
    have noBit : ¬ command.flag &&& lockFlagContainsData ≠ 0 := fun set => Bool.false_ne_true (bit.mp set)
    rw [if_neg noBit]
    rfl
  | some bytes =>
    obtain ⟨body, prefixed, fits⟩ := LockCommand.extra_prefixed run
    have parsed := parseExtra_prefixed body rest fits
    rw [← prefixed] at parsed
    rw [if_pos (bit.mpr rfl)]
    exact Option.bind_eq_some_iff.mpr ⟨_, parsed, rfl⟩

/-- The reader takes back one encoded command and stops at the next frame. -/
theorem parseRequest_frame {command : Command} {encoded : EncodedCommand} (rest : List UInt8)
    (flagged : command.WellFlagged) (run : command.encode = .ok encoded) :
    parseRequest (encoded.frame ++ rest) = some (command.toRequest, rest) := by
  rw [EncodedCommand.frame, List.append_assoc, parseRequest_append]
  cases command with
  | init command =>
    cases run
    exact parseBody_init command rest
  | ping command =>
    cases run
    exact parseBody_ping command rest
  | lock command =>
    obtain ⟨extra, atExtra, _, atHeader, same⟩ := Command.encode_lock run
    obtain ⟨value, _⟩ := LockCommand.extra_of_wellFlagged flagged atExtra
    rw [atHeader, same, parseBody_lock rest flagged atExtra, command.header_fields, Command.toRequest, ← value]

theorem parseRequests_cons {input rest : List UInt8} {request : Request}
    (parsed : parseRequest input = some (request, rest)) :
    parseRequests input = (parseRequests rest).map (request :: ·) := by
  have nonempty : input ≠ [] := by
    rintro rfl
    exact absurd (parseRequest_shorter parsed) (Nat.not_lt_zero _)
  rw [parseRequests, if_neg nonempty]
  split
  · rename_i failed
    rw [parsed] at failed
    cases failed
  · rename_i found
    rw [parsed] at found
    cases found
    rfl

/-- Concatenated request frames are read back as exactly the commands that
were sent, with nothing left over. -/
theorem parseRequests_frames {commands : List Command} {encoded : List EncodedCommand}
    (flagged : ∀ command ∈ commands, command.WellFlagged) (run : commands.mapM Command.encode = .ok encoded) :
    parseRequests (encoded.flatMap EncodedCommand.frame) = some (commands.map Command.toRequest) := by
  induction commands generalizing encoded with
  | nil =>
    cases run
    rw [parseRequests]
    rfl
  | cons command commands ih =>
    rw [List.mapM_cons] at run
    obtain ⟨head, atHead, run⟩ := Outcome.bind_eq_ok.mp run
    obtain ⟨tail, atTail, same⟩ := Outcome.bind_eq_ok.mp run
    cases same
    have first := parseRequest_frame (tail.flatMap EncodedCommand.frame) (flagged _ List.mem_cons_self) atHead
    have later := ih (fun command member => flagged command (List.mem_cons_of_mem _ member)) atTail
    rw [List.flatMap_cons, parseRequests_cons first, later]
    rfl

/-- A ping, then a lock command that sets the data `a`. -/
def pingThenLock : List Command :=
  [.ping ⟨⟨Block.ofNatLE 16 7⟩⟩,
    .lock
      { commandType := commandTypeLock, flag := lockFlagContainsData, dbId := 3, requestId := ⟨Block.ofNatLE 16 8⟩,
        lockKey := ⟨Block.ofNatLE 16 9⟩, lockId := ⟨Block.ofNatLE 16 10⟩, timeout := ⟨5⟩, expired := ⟨6⟩, count := 0,
        rCount := 1, data := some (.mk 0 0 0 (.bytes [97])) }]

theorem parseRequests_pingThenLock :
    ∃ encoded, pingThenLock.mapM Command.encode = .ok encoded ∧
      parseRequests (encoded.flatMap EncodedCommand.frame) = some (pingThenLock.map Command.toRequest) := by
  have flagged : ∀ command ∈ pingThenLock, command.WellFlagged := by
    intro command member
    rcases List.mem_cons.mp member with rfl | member
    · trivial
    · rw [List.mem_singleton.mp member]
      exact ⟨.inl rfl, by decide⟩
  exact ⟨_, rfl, parseRequests_frames flagged rfl⟩

end Ruslock
