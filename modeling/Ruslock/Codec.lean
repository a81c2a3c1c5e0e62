import Ruslock.Command

namespace Ruslock
open Wire

/-- Two lowercase hexadecimal digits, as `{:02x}` prints a byte. -/
def hexByte (byte : UInt8) : String :=
  String.ofList [Nat.digitChar (byte.toNat / 16), Nat.digitChar (byte.toNat % 16)]

def validateHeader (header : Block 64) : Outcome Unit :=
  if header.get 0 ≠ magic then
    .error (.protocol ("unknown magic " ++ hexByte (header.get 0) ++ ", expected " ++ hexByte magic))
  else if header.get 1 ≠ version then
    .error (.protocol ("unknown version " ++ hexByte (header.get 1) ++ ", expected " ++ hexByte version))
  else .ok ()

def readId (bytes : Block 16) : Id16 := ⟨bytes⟩

def readKey (bytes : Block 16) : Key16 := ⟨bytes⟩

/-- `u16::from_le_bytes` of two neighbouring header bytes. -/
def readU16 (bytes : Block 2) : UInt16 := UInt16.ofNat (ofLE bytes.toList)

def decodeResponse (header : Block 64) (data : Option (List UInt8)) : Outcome CommandResult := do
  validateHeader header
  let commandType := header.get 2
  let requestId := readId (header.slice 3 16)
  let result := header.get 19
  if commandType = commandTypeInit then
    .ok (.init { requestId := requestId, result := result, initType := header.get 20 })
  else if commandType = commandTypePing then
    .ok (.ping { requestId := requestId, result := result })
  else if commandType = commandTypeLock ∨ commandType = commandTypeUnlock then
    .ok (.lock
      { commandType := commandType, requestId := requestId, result := result, flag := header.get 20,
        dbId := header.get 21, lockId := readId (header.slice 22 16), lockKey := readKey (header.slice 38 16),
        lCount := readU16 (header.slice 54 2), count := readU16 (header.slice 56 2),
        lrCount := header.get 58, rCount := header.get 59, data := data.map LockResultData.mk })
  else .error (.protocol ("unknown command type 0x" ++ hexByte commandType))

def responseHasExtraData (header : Block 64) : Bool :=
  (header.get 2 == commandTypeLock || header.get 2 == commandTypeUnlock) &&
    header.get 20 &&& lockFlagContainsData != 0

/-- Reads the length and that many bytes into a buffer whose first four bytes
stay zero; `none` where the input is too short. -/
def readExtraData (input : List UInt8) : Option (List UInt8 × List UInt8) := do
  let (lenBytes, input) ← readExact 4 input
  let (payload, input) ← readExact (ofLE lenBytes.toList) input
  some (List.replicate 4 0 ++ payload.toList, input)

theorem readExtraData_eq (input : List UInt8) :
    readExtraData input = (readPrefixed input).map fun read => (List.replicate 4 0 ++ read.1, read.2) := by
  simp only [readExtraData, readPrefixed, Option.bind_eq_bind, Option.map_bind, Function.comp_def, Option.map_some]

theorem readExtraData_prefixed (payload rest : List UInt8) (fits : payload.length < 256 ^ 4) :
    readExtraData (toLE 4 payload.length ++ payload ++ rest) = some (List.replicate 4 0 ++ payload, rest) := by
  rw [readExtraData_eq, readPrefixed_append payload rest fits]
  rfl

/-- The request id the reader looks up: of the decoded result, or of the raw
header when the frame does not decode. -/
def responseRequestId (header : Block 64) (decoded : Outcome CommandResult) : Id16 :=
  match decoded with
  | .ok result => result.requestId
  | .error _ => ⟨header.slice 3 16⟩

theorem decodeResponse_requestId {header : Block 64} {data : Option (List UInt8)} {result : CommandResult}
    (decoded : decodeResponse header data = .ok result) : result.requestId = ⟨header.slice 3 16⟩ := by
  obtain ⟨_, _, body⟩ := Outcome.bind_eq_ok.mp decoded
  dsimp only at body
  split at body
  · cases body
    rfl
  split at body
  · cases body
    rfl
  split at body
  · cases body
    rfl
  · cases body

/-- Both branches of the lookup name the same sixteen header bytes. -/
theorem responseRequestId_eq (header : Block 64) (data : Option (List UInt8)) :
    responseRequestId header (decodeResponse header data) = ⟨header.slice 3 16⟩ := by
  unfold responseRequestId
  split
  · rename_i result decoded
    exact decodeResponse_requestId decoded
  · rfl

/-- A response that does not decode breaks the protocol. -/
theorem decodeResponse_error {header : Block 64} {data : Option (List UInt8)} {err : SlockError}
    (fails : decodeResponse header data = .error err) : ∃ message, err = .protocol message := by
  rcases Outcome.bind_eq_error.mp fails with invalid | ⟨_, _, body⟩
  · unfold validateHeader at invalid
    repeat' split at invalid
    all_goals cases invalid
    all_goals exact ⟨_, rfl⟩
  · dsimp only at body
    repeat' split at body
    all_goals cases body
    exact ⟨_, rfl⟩

end Ruslock
