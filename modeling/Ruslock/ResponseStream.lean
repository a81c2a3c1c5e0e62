import Ruslock.Codec

namespace Ruslock
open Wire

/-- Which of its two reads the reader stops at. -/
inductive ReadFailure
  | header
  | extraData
  deriving DecidableEq

/-- What the reader has decoded when a read fails, and the bytes it has not consumed. -/
structure ReadRun where
  results : List (Outcome CommandResult)
  failure : ReadFailure
  rest : List UInt8
  deriving DecidableEq

def ReadRun.cons (result : Outcome CommandResult) (run : ReadRun) : ReadRun :=
  ⟨result :: run.results, run.failure, run.rest⟩

theorem readExtraData_shorter {input rest data : List UInt8} (read : readExtraData input = some (data, rest)) :
    rest.length ≤ input.length := by
  rw [readExtraData_eq] at read
  obtain ⟨⟨payload, last⟩, prefixed, same⟩ := Option.map_eq_some_iff.mp read
  cases same
  have consumed := readPrefixed_length prefixed
  dsimp only
  omega

/-- The loop of the reader over the bytes of one connection, up to the read
that fails: a header, the extra data its type and flag announce, a decoded
result, and so on. -/
def readLoop (input : List UInt8) : ReadRun :=
  match _read : readExact 64 input with
  | none => ⟨[], .header, input⟩
  | some (header, afterHeader) =>
    if responseHasExtraData header then
      match _extra : readExtraData afterHeader with
      | none => ⟨[], .extraData, afterHeader⟩
      | some (data, afterData) => (readLoop afterData).cons (decodeResponse header (some data))
    else (readLoop afterHeader).cons (decodeResponse header none)
termination_by input.length
decreasing_by
  · have consumed := congrArg List.length (readExact_eq_some _read)
    have shorter := readExtraData_shorter _extra
    rw [List.length_append, header.length_eq] at consumed
    omega
  · have consumed := congrArg List.length (readExact_eq_some _read)
    rw [List.length_append, header.length_eq] at consumed
    omega

theorem readLoop_plain {header : Block 64} (rest : List UInt8) (plain : responseHasExtraData header = false) :
    readLoop (header.toList ++ rest) = (readLoop rest).cons (decodeResponse header none) := by
  rw [readLoop]
  split
  · rename_i failed
    rw [readExact_append] at failed
    cases failed
  · rename_i found
    rw [readExact_append] at found
    cases found
    rw [plain]
    rfl

theorem readLoop_extra {header : Block 64} {input rest data : List UInt8}
    (announced : responseHasExtraData header = true) (read : readExtraData input = some (data, rest)) :
    readLoop (header.toList ++ input) = (readLoop rest).cons (decodeResponse header (some data)) := by
  rw [readLoop]
  split
  · rename_i failed
    rw [readExact_append] at failed
    cases failed
  · rename_i found
    rw [readExact_append] at found
    cases found
    rw [if_pos announced]
    split
    · rename_i failed
      rw [read] at failed
      cases failed
    · rename_i found
      rw [read] at found
      cases found
      rfl

/-- A well-formed answer to a lock or unlock command: a payload exactly when
the data bit of the flag announces one. -/
structure LockResponse where
  commandType : UInt8
  requestId : Id16
  result : UInt8
  flag : UInt8
  dbId : UInt8
  lockId : Id16
  lockKey : Key16
  lCount : UInt16
  count : UInt16
  lrCount : UInt8
  rCount : UInt8
  reserved : Block 4
  payload : Option (List UInt8)
  known : commandType = commandTypeLock ∨ commandType = commandTypeUnlock
  announced : payload.isSome = true ↔ flag &&& lockFlagContainsData ≠ 0
  fits : ∀ bytes ∈ payload, bytes.length < 256 ^ 4

/-- A well-formed response frame. The unused bytes of a header are arbitrary. -/
inductive ResponseFrame
  | init (requestId : Id16) (result initType : UInt8) (unused : Block 43)
  | ping (requestId : Id16) (result : UInt8) (unused : Block 44)
  | lock (response : LockResponse)

/-- The fields of a lock response in their order on the wire. -/
def LockResponse.sections (response : LockResponse) : List (List UInt8) :=
  [[magic], [version], [response.commandType], response.requestId.bytes.toList, [response.result], [response.flag],
    [response.dbId], response.lockId.bytes.toList, response.lockKey.bytes.toList,
    (Block.ofNatLE 2 response.lCount.toNat).toList, (Block.ofNatLE 2 response.count.toNat).toList,
    [response.lrCount], [response.rCount], response.reserved.toList]

/-- The fields of a response header in their order on the wire. -/
def ResponseFrame.sections : ResponseFrame → List (List UInt8)
  | .init requestId result initType unused =>
    [[magic], [version], [commandTypeInit], requestId.bytes.toList, [result], [initType], unused.toList]
  | .ping requestId result unused =>
    [[magic], [version], [commandTypePing], requestId.bytes.toList, [result], unused.toList]
  | .lock response => response.sections

def ResponseFrame.header (frame : ResponseFrame) : Block 64 :=
  ⟨frame.sections.flatten, by
    cases frame <;> simp only [ResponseFrame.sections, LockResponse.sections, List.flatten_cons, List.flatten_nil,
      List.length_append, List.length_cons, List.length_nil, Block.length_eq]⟩

/-- The payload behind a header, with its length in front. -/
def ResponseFrame.extra : ResponseFrame → List UInt8
  | .lock response =>
    match response.payload with
    | some payload => toLE 4 payload.length ++ payload
    | none => []
  | _ => []

def ResponseFrame.bytes (frame : ResponseFrame) : List UInt8 := frame.header.toList ++ frame.extra

/-- What a caller is told about a frame: the fields of its own header, and its
own payload behind four zero bytes. -/
def ResponseFrame.result : ResponseFrame → CommandResult
  | .init requestId result initType _ => .init { requestId := requestId, result := result, initType := initType }
  | .ping requestId result _ => .ping { requestId := requestId, result := result }
  | .lock response =>
    .lock
      { commandType := response.commandType, requestId := response.requestId, result := response.result,
        flag := response.flag, dbId := response.dbId, lockId := response.lockId, lockKey := response.lockKey,
        lCount := response.lCount, count := response.count, lrCount := response.lrCount, rCount := response.rCount,
        data := response.payload.map fun payload => ⟨[0, 0, 0, 0] ++ payload⟩ }

/-- The buffer that the transport makes of a frame's payload. -/
def ResponseFrame.data : ResponseFrame → Option (List UInt8)
  | .lock response => response.payload.map fun payload => List.replicate 4 0 ++ payload
  | _ => none

section Layout

variable (frame : ResponseFrame)

theorem ResponseFrame.header_magic : frame.header.get 0 = magic := by
  cases frame <;> exact Block.get_of_sections 0 _ rfl rfl rfl

theorem ResponseFrame.header_version : frame.header.get 1 = version := by
  cases frame <;> exact Block.get_of_sections 1 _ rfl rfl rfl

theorem ResponseFrame.validateHeader_header : validateHeader frame.header = .ok () := by
  rw [validateHeader, if_neg (not_not.mpr frame.header_magic), if_neg (not_not.mpr frame.header_version)]

theorem ResponseFrame.header_requestId : readId (frame.header.slice 3 16) = frame.result.requestId := by
  cases frame <;> exact congrArg Id16.mk (Block.slice_of_sections 3 _ rfl rfl rfl)

theorem ResponseFrame.header_result : frame.header.get 19 = frame.result.resultCode := by
  cases frame <;> refine Block.get_of_sections 4 _ rfl rfl ?_ <;>
    simp [ResponseFrame.sections, LockResponse.sections]

end Layout

theorem readU16_ofNatLE (value : UInt16) : readU16 (Block.ofNatLE 2 value.toNat) = value := by
  rw [readU16, Block.ofLE_ofNatLE _ _ value.toNat_lt, UInt16.ofNat_toNat]

section LockLayout

variable (response : LockResponse)

theorem LockResponse.header_type : (ResponseFrame.lock response).header.get 2 = response.commandType :=
  Block.get_of_sections 2 _ rfl rfl rfl

theorem LockResponse.header_flag : (ResponseFrame.lock response).header.get 20 = response.flag := by
  refine Block.get_of_sections 5 _ rfl rfl ?_
  simp [ResponseFrame.sections, LockResponse.sections]

theorem LockResponse.header_dbId : (ResponseFrame.lock response).header.get 21 = response.dbId := by
  refine Block.get_of_sections 6 _ rfl rfl ?_
  simp [ResponseFrame.sections, LockResponse.sections]

theorem LockResponse.header_lockId : (ResponseFrame.lock response).header.slice 22 16 = response.lockId.bytes := by
  refine Block.slice_of_sections 7 _ rfl rfl ?_
  simp [ResponseFrame.sections, LockResponse.sections]

theorem LockResponse.header_lockKey : (ResponseFrame.lock response).header.slice 38 16 = response.lockKey.bytes := by
  refine Block.slice_of_sections 8 _ rfl rfl ?_
  simp [ResponseFrame.sections, LockResponse.sections]

theorem LockResponse.header_lCount :
    (ResponseFrame.lock response).header.slice 54 2 = Block.ofNatLE 2 response.lCount.toNat := by
  refine Block.slice_of_sections 9 _ rfl rfl ?_
  simp [ResponseFrame.sections, LockResponse.sections]

theorem LockResponse.header_count :
    (ResponseFrame.lock response).header.slice 56 2 = Block.ofNatLE 2 response.count.toNat := by
  refine Block.slice_of_sections 10 _ rfl rfl ?_
  simp [ResponseFrame.sections, LockResponse.sections]

theorem LockResponse.header_lrCount : (ResponseFrame.lock response).header.get 58 = response.lrCount := by
  refine Block.get_of_sections 11 _ rfl rfl ?_
  simp [ResponseFrame.sections, LockResponse.sections]

theorem LockResponse.header_rCount : (ResponseFrame.lock response).header.get 59 = response.rCount := by
  refine Block.get_of_sections 12 _ rfl rfl ?_
  simp [ResponseFrame.sections, LockResponse.sections]

end LockLayout

/-- The decoder finds the fields of every well-formed header. -/
theorem ResponseFrame.decodeResponse_header (frame : ResponseFrame) :
    decodeResponse frame.header frame.data = .ok frame.result := by
  have valid := frame.validateHeader_header
  have request := frame.header_requestId
  have code := frame.header_result
  unfold decodeResponse
  rw [valid]
  dsimp only [bind, Except.bind]
  rw [request, code]
  cases frame with
  | init requestId result initType unused =>
    have typeByte : (ResponseFrame.init requestId result initType unused).header.get 2 = commandTypeInit :=
      Block.get_of_sections 2 _ rfl rfl rfl
    have initByte : (ResponseFrame.init requestId result initType unused).header.get 20 = initType := by
      refine Block.get_of_sections 5 _ rfl rfl ?_
      simp [ResponseFrame.sections]
    rw [if_pos typeByte, initByte]
    rfl
  | ping requestId result unused =>
    have typeByte : (ResponseFrame.ping requestId result unused).header.get 2 = commandTypePing :=
      Block.get_of_sections 2 _ rfl rfl rfl
    rw [typeByte, if_neg (by decide), if_pos rfl]
    rfl
  | lock response =>
    have notInit : response.commandType ≠ commandTypeInit := by
      rcases response.known with isLock | isUnlock
      · rw [isLock]; decide
      · rw [isUnlock]; decide
    have notPing : response.commandType ≠ commandTypePing := by
      rcases response.known with isLock | isUnlock
      · rw [isLock]; decide
      · rw [isUnlock]; decide
    rw [response.header_type, if_neg notInit, if_neg notPing, if_pos response.known, response.header_flag,
      response.header_dbId, response.header_lockId, response.header_lockKey, response.header_lCount,
      response.header_count, response.header_lrCount, response.header_rCount, readU16_ofNatLE, readU16_ofNatLE,
      ResponseFrame.data, Option.map_map]
    rfl

/-- The transport's own test agrees with the grammar: an init or ping frame
announces nothing, whatever its byte 20 is. -/
theorem ResponseFrame.responseHasExtraData_header (frame : ResponseFrame) :
    responseHasExtraData frame.header = frame.data.isSome := by
  unfold responseHasExtraData
  cases frame with
  | init requestId result initType unused =>
    have typeByte : (ResponseFrame.init requestId result initType unused).header.get 2 = commandTypeInit :=
      Block.get_of_sections 2 _ rfl rfl rfl
    rw [typeByte]
    rfl
  | ping requestId result unused =>
    have typeByte : (ResponseFrame.ping requestId result unused).header.get 2 = commandTypePing :=
      Block.get_of_sections 2 _ rfl rfl rfl
    rw [typeByte]
    rfl
  | lock response =>
    have typeKnown : (response.commandType == commandTypeLock || response.commandType == commandTypeUnlock) = true := by
      simpa using response.known
    have bit : (response.flag &&& lockFlagContainsData != 0) = response.payload.isSome := by
      rw [Bool.eq_iff_iff, response.announced, bne_iff_ne]
    rw [response.header_type, response.header_flag, typeKnown, bit, Bool.true_and, ResponseFrame.data, Option.isSome_map]

/-- One well-formed frame in front of any bytes is consumed exactly. -/
theorem readLoop_frame (frame : ResponseFrame) (rest : List UInt8) :
    readLoop (frame.bytes ++ rest) = (readLoop rest).cons (.ok frame.result) := by
  have announced := frame.responseHasExtraData_header
  have decoded := frame.decodeResponse_header
  rw [ResponseFrame.bytes, List.append_assoc]
  cases present : frame.data with
  | none =>
    rw [present] at announced decoded
    have empty : frame.extra = [] := by
      cases frame with
      | init | ping => rfl
      | lock response =>
        have noPayload : response.payload = none := Option.map_eq_none_iff.mp present
        simp only [ResponseFrame.extra, noPayload]
    rw [empty, List.nil_append, readLoop_plain rest announced, decoded]
  | some data =>
    rw [present] at announced decoded
    have read : readExtraData (frame.extra ++ rest) = some (data, rest) := by
      cases frame with
      | init | ping => cases present
      | lock response =>
        obtain ⟨payload, some, rfl⟩ := Option.map_eq_some_iff.mp present
        simp only [ResponseFrame.extra, some]
        exact readExtraData_prefixed payload rest (response.fits payload some)
    rw [readLoop_extra announced read, decoded]

theorem readLoop_short {input : List UInt8} (short : input.length < 64) : readLoop input = ⟨[], .header, input⟩ := by
  rw [readLoop]
  split
  · rfl
  · rename_i found
    rw [readExact_eq_none.mpr short] at found
    cases found

/-- The reader run on concatenated frames hands out the results of exactly
those frames, in order, and then waits for a header with no byte left over;
any further bytes it reads as if they stood alone. -/
theorem readLoop_frames (frames : List ResponseFrame) :
    readLoop (frames.flatMap ResponseFrame.bytes) = ⟨frames.map fun frame => .ok frame.result, .header, []⟩ ∧
      ∀ rest, readLoop (frames.flatMap ResponseFrame.bytes ++ rest) =
        ⟨(frames.map fun frame => .ok frame.result) ++ (readLoop rest).results, (readLoop rest).failure,
          (readLoop rest).rest⟩ := by
  have aligned : ∀ rest, readLoop (frames.flatMap ResponseFrame.bytes ++ rest) =
      ⟨(frames.map fun frame => .ok frame.result) ++ (readLoop rest).results, (readLoop rest).failure,
        (readLoop rest).rest⟩ := by
    intro rest
    induction frames with
    | nil => rfl
    | cons frame frames ih =>
      rw [List.flatMap_cons, List.append_assoc, readLoop_frame, ih]
      rfl
  refine ⟨?_, aligned⟩
  have whole := aligned []
  rw [readLoop_short (show ([] : List UInt8).length < 64 by decide)] at whole
  simpa only [List.append_nil] using whole

end Ruslock
