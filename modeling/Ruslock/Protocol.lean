import Mathlib.Control.Monad.Basic
import Ruslock.Lib.Bytes

namespace Ruslock
open Wire

def magic : UInt8 := 0x56
def version : UInt8 := 0x01

def commandTypeInit : UInt8 := 0x00
def commandTypeLock : UInt8 := 0x01
def commandTypeUnlock : UInt8 := 0x02
def commandTypePing : UInt8 := 0x05

def commandResultSucced : UInt8 := 0x00
def commandResultLockedError : UInt8 := 0x05
def commandResultUnlockError : UInt8 := 0x06
def commandResultUnownError : UInt8 := 0x07
def commandResultTimeout : UInt8 := 0x08
def commandResultExpried : UInt8 := 0x09
def commandResultStateError : UInt8 := 0x0a

def lockFlagShowWhenLocked : UInt8 := 0x01
def lockFlagUpdateWhenLocked : UInt8 := 0x02
def lockFlagLockTreeLock : UInt8 := 0x10
def lockFlagContainsData : UInt8 := 0x20
def unlockFlagUnlockFirstLockWhenUnlocked : UInt8 := 0x01
def unlockFlagSuccedToLockWait : UInt8 := 0x08
def unlockFlagUnlockTreeLock : UInt8 := 0x10
def unlockFlagContainsData : UInt8 := 0x20

def timeoutFlagRcountIsPriority : UInt16 := 0x0010
def timeoutFlagLockWaitWhenUnlock : UInt16 := 0x0200
def timeoutFlagLessLockVersionIsLockSucced : UInt16 := 0x4000

def expriedFlagMillisecondTime : UInt16 := 0x0400

def initTypeFlagIsLeader : UInt8 := 0x04

def lockDataStageCurrent : UInt8 := 0

def lockDataCommandTypeSet : UInt8 := 0
def lockDataCommandTypeUnset : UInt8 := 1
def lockDataCommandTypeIncr : UInt8 := 2
def lockDataCommandTypeAppend : UInt8 := 3
def lockDataCommandTypeShift : UInt8 := 4
def lockDataCommandTypeExecute : UInt8 := 5
def lockDataCommandTypePipeline : UInt8 := 6
def lockDataCommandTypePush : UInt8 := 7
def lockDataCommandTypePop : UInt8 := 8

def lockDataFlagValueTypeNumber : UInt8 := 0x01
def lockDataFlagValueTypeArray : UInt8 := 0x02
def lockDataFlagValueTypeKv : UInt8 := 0x04
def lockDataFlagContainsProperty : UInt8 := 0x10

/-- Sixteen bytes that name a request, a client or a lock. -/
structure Id16 where
  bytes : Block 16
  deriving DecidableEq

def Id16.zero : Id16 := ⟨Block.zero 16⟩

structure Key16 where
  bytes : Block 16
  deriving DecidableEq

/-- `Key16::new`, with the digest that it takes of long keys. -/
def Key16.new (md5 : List UInt8 → Block 16) (key : List UInt8) : Key16 :=
  if fits : key.length ≤ 16 then ⟨Block.padLeft key fits⟩ else ⟨md5 key⟩

/-- A 16-bit time in the low half and its flags in the high half. -/
structure PackedTime where
  bits : UInt32
  deriving DecidableEq

def PackedTime.withFlags (value flags : UInt16) : PackedTime := ⟨flags.toUInt32 <<< 16 ||| value.toUInt32⟩

def PackedTime.value (time : PackedTime) : UInt16 := (time.bits &&& 0xffff).toUInt16
def PackedTime.flags (time : PackedTime) : UInt16 := (time.bits >>> 16).toUInt16

def PackedTime.mergeFlags (time : PackedTime) (flags : UInt16) : PackedTime :=
  .withFlags time.value (time.flags ||| flags)

/-- Lengths of time, in nanoseconds. -/
abbrev Duration := Nat

def Duration.fromSecs (secs : Nat) : Duration := secs * 1000000000
def Duration.fromMillis (millis : Nat) : Duration := millis * 1000000

structure LockResultData where
  raw : List UInt8
  deriving DecidableEq

structure InitCommandResult where
  requestId : Id16
  result : UInt8
  initType : UInt8
  deriving DecidableEq

structure PingCommandResult where
  requestId : Id16
  result : UInt8
  deriving DecidableEq

structure LockCommandResult where
  commandType : UInt8
  requestId : Id16
  result : UInt8
  flag : UInt8
  dbId : UInt8
  lockId : Id16
  lockKey : Key16
  lCount : UInt16
  count : UInt16
  lrCount : UInt8
  rCount : UInt8
  data : Option LockResultData
  deriving DecidableEq

inductive CommandResult
  | init (result : InitCommandResult)
  | ping (result : PingCommandResult)
  | lock (result : LockCommandResult)
  deriving DecidableEq

def CommandResult.requestId : CommandResult → Id16
  | .init result => result.requestId
  | .ping result => result.requestId
  | .lock result => result.requestId

def CommandResult.resultCode : CommandResult → UInt8
  | .init result => result.result
  | .ping result => result.result
  | .lock result => result.result

/-- The kinds of `std::io::Error` that a socket operation reports. -/
inductive IoErrorKind
  | connectionRefused | connectionReset | connectionAborted | notConnected | brokenPipe | timedOut
  | invalidInput | writeZero | interrupted | unexpectedEof | other
  deriving DecidableEq

structure IoError where
  kind : IoErrorKind
  message : String
  deriving DecidableEq

inductive SlockError
  | io (error : IoError)
  | protocol (message : String)
  | clientClosed
  | notConnected
  | commandTimeout
  | lockLocked (result : LockCommandResult)
  | lockUnlocked (result : LockCommandResult)
  | lockNotOwn (result : LockCommandResult)
  | lockTimeout (result : LockCommandResult)
  | lockExpired (result : LockCommandResult)
  | stateError (result : LockCommandResult)
  | server (result : UInt8)
  | lockData (message : String)
  | eventWaitTimeout
  deriving DecidableEq

/-- The `Result` type of the crate. -/
abbrev Outcome (α : Type) := Except SlockError α

/-- A `?` chain succeeds exactly when each of its parts does. -/
theorem Outcome.bind_eq_ok {α β : Type} {first : Outcome α} {rest : α → Outcome β} {value : β} :
    (first >>= rest) = .ok value ↔ ∃ middle, first = .ok middle ∧ rest middle = .ok value := by
  constructor
  · intro run
    cases first with
    | error err => cases run
    | ok middle => exact ⟨middle, rfl, run⟩
  · rintro ⟨middle, rfl, run⟩
    exact run

/-- A `?` chain fails with the first error among its parts. -/
theorem Outcome.bind_eq_error {α β : Type} {first : Outcome α} {rest : α → Outcome β} {err : SlockError} :
    (first >>= rest) = .error err ↔ first = .error err ∨ ∃ middle, first = .ok middle ∧ rest middle = .error err := by
  cases first with
  | error err' =>
    constructor
    · intro run
      cases run
      exact .inl rfl
    · rintro (same | ⟨_, same, _⟩)
      · cases same
        rfl
      · cases same
  | ok middle =>
    constructor
    · intro run
      exact .inr ⟨middle, rfl, run⟩
    · rintro (same | ⟨_, same, run⟩)
      · cases same
      · cases same
        exact run

end Ruslock
