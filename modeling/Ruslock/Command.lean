import Ruslock.LockData

namespace Ruslock
open Wire

structure InitCommand where
  requestId : Id16
  clientId : Id16
  deriving DecidableEq

structure PingCommand where
  requestId : Id16
  deriving DecidableEq

structure LockCommand where
  commandType : UInt8
  flag : UInt8
  dbId : UInt8
  requestId : Id16
  lockKey : Key16
  lockId : Id16
  timeout : PackedTime
  expired : PackedTime
  count : UInt16
  rCount : UInt8
  data : Option LockData

def LockCommand.hasExtraData (command : LockCommand) : Bool :=
  command.flag &&& lockFlagContainsData != 0 || command.flag &&& unlockFlagContainsData != 0

inductive Command
  | init (command : InitCommand)
  | ping (command : PingCommand)
  | lock (command : LockCommand)

def Command.requestId : Command → Id16
  | .init command => command.requestId
  | .ping command => command.requestId
  | .lock command => command.requestId

def Command.commandType : Command → UInt8
  | .init _ => commandTypeInit
  | .ping _ => commandTypePing
  | .lock command => command.commandType

structure EncodedCommand where
  requestId : Id16
  commandType : UInt8
  header : Block 64
  extra : Option (List UInt8)
  timeout : Duration
  expectsResponse : Bool
  deriving DecidableEq

def EncodedCommand.frame (encoded : EncodedCommand) : List UInt8 :=
  encoded.header.toList ++ encoded.extra.getD []

/-- The first 19 bytes that every command header has. -/
def commandHeader (commandType : UInt8) (requestId : Id16) : Block 64 :=
  ((((Block.zero 64).set 0 magic).set 1 version).set 2 commandType).copyFromSlice 3 requestId.bytes

def InitCommand.header (command : InitCommand) : Block 64 :=
  (commandHeader commandTypeInit command.requestId).copyFromSlice 19 command.clientId.bytes

def PingCommand.header (command : PingCommand) : Block 64 :=
  commandHeader commandTypePing command.requestId

def LockCommand.header (command : LockCommand) : Block 64 :=
  let header := commandHeader command.commandType command.requestId
  let header := header.set 19 command.flag
  let header := header.set 20 command.dbId
  let header := header.copyFromSlice 21 command.lockId.bytes
  let header := header.copyFromSlice 37 command.lockKey.bytes
  let header := header.copyFromSlice 53 (Block.ofNatLE 4 command.timeout.bits.toNat)
  let header := header.copyFromSlice 57 (Block.ofNatLE 4 command.expired.bits.toNat)
  let header := header.copyFromSlice 61 (Block.ofNatLE 2 command.count.toNat)
  header.set 63 command.rCount

/-- The bytes that follow the header of a lock command. -/
def LockCommand.extra (command : LockCommand) : Outcome (Option (List UInt8)) :=
  if command.hasExtraData then
    match command.data with
    | none => .error (.lockData "data flag set but data is missing")
    | some data => do
      let bytes ← data.encode
      .ok (some bytes)
  else .ok none

def Command.encode : Command → Outcome EncodedCommand
  | .init command =>
    .ok { requestId := command.requestId, commandType := commandTypeInit, header := command.header, extra := none,
          timeout := 0, expectsResponse := true }
  | .ping command =>
    .ok { requestId := command.requestId, commandType := commandTypePing, header := command.header, extra := none,
          timeout := 0, expectsResponse := true }
  | .lock command => do
    let extra ← command.extra
    .ok { requestId := command.requestId, commandType := command.commandType, header := command.header, extra := extra,
          timeout := Duration.fromSecs command.timeout.value.toNat, expectsResponse := true }

theorem Command.encode_lock {command : LockCommand} {encoded : EncodedCommand}
    (run : (Command.lock command).encode = .ok encoded) :
    ∃ extra, command.extra = .ok extra ∧ encoded.requestId = command.requestId ∧
      encoded.header = command.header ∧ encoded.extra = extra := by
  obtain ⟨extra, atExtra, same⟩ := Outcome.bind_eq_ok.mp run
  cases same
  exact ⟨extra, atExtra, rfl, rfl, rfl⟩

theorem Command.encode_requestId {command : Command} {encoded : EncodedCommand}
    (run : command.encode = .ok encoded) : encoded.requestId = command.requestId := by
  cases command with
  | init command => cases run; rfl
  | ping command => cases run; rfl
  | lock command =>
    obtain ⟨_, _, same, _⟩ := Command.encode_lock run
    exact same

theorem Command.encode_error {command : Command} {err : SlockError} (fails : command.encode = .error err) :
    err.OfLockData := by
  cases command with
  | init | ping => cases fails
  | lock command =>
    rcases Outcome.bind_eq_error.mp fails with extra | ⟨_, _, done⟩
    · unfold LockCommand.extra at extra
      split at extra
      · split at extra
        · cases extra
          exact ⟨_, rfl⟩
        · rcases Outcome.bind_eq_error.mp extra with data | ⟨_, _, done⟩
          · exact LockData.encode_error _ data
          · cases done
      · cases extra
    · cases done

end Ruslock
