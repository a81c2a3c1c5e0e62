import Ruslock.RetryDeadline

namespace Ruslock

def timeoutFlagMinuteTime : UInt16 := 0x0040
def timeoutFlagMillisecondTime : UInt16 := 0x0400

namespace PackedTime

/-- The time is in minutes. -/
def inMinutes (time : PackedTime) : Bool := time.flags &&& timeoutFlagMinuteTime != 0

/-- How long a server lets a command wait: what the unit flags of its timeout
are assumed to mean. -/
def serverWait (time : PackedTime) : Duration :=
  if time.inMinutes then Duration.fromSecs (60 * time.value.toNat)
  else if time.flags &&& timeoutFlagMillisecondTime != 0 then Duration.fromMillis time.value.toNat
  else Duration.fromSecs time.value.toNat

/-- The value as seconds, whatever its unit. -/
def asSeconds (time : PackedTime) : Duration := Duration.fromSecs time.value.toNat

variable {time : PackedTime} {grace : Duration}

theorem serverWait_of_inMinutes (minutes : time.inMinutes = true) : time.serverWait = 60 * time.asSeconds := by
  rw [serverWait, if_pos minutes, asSeconds, Duration.fromSecs, Duration.fromSecs, Nat.mul_assoc]

/-- Seconds are as long as they seem, and milliseconds are shorter. -/
theorem serverWait_le_asSeconds (other : time.inMinutes = false) : time.serverWait ≤ time.asSeconds := by
  rw [serverWait, other, if_neg Bool.false_ne_true, asSeconds]
  split
  · exact Nat.mul_le_mul_left _ (by decide)
  · exact le_rfl

/-- Only minutes can be longer than the grace makes up for. -/
theorem serverWait_le_iff :
    time.serverWait ≤ time.asSeconds + grace ↔ time.inMinutes = false ∨ 59 * time.asSeconds ≤ grace := by
  cases minutes : time.inMinutes with
  | false => exact iff_of_true ((serverWait_le_asSeconds minutes).trans (Nat.le_add_right ..)) (.inl rfl)
  | true =>
    have shift : ∀ wait grace : Nat, 60 * wait ≤ wait + grace ↔ 59 * wait ≤ grace := by omega
    rw [serverWait_of_inMinutes minutes, or_iff_right Bool.true_eq_false.mp]
    exact shift _ _

end PackedTime

namespace Replset
open Transition

variable {n : Nat} {config : Config n}

/-- A lock command is waited for its value as seconds, and the grace. -/
theorem responseWait_lock {command : LockCommand} {wait : Duration}
    (waits : responseWait config (.lock command) = .ok wait) :
    wait = command.timeout.asSeconds + config.commandTimeoutGrace := by
  obtain ⟨encoded, encodes, same⟩ := Outcome.bind_eq_ok.mp waits
  obtain ⟨extra, _, packed⟩ := Outcome.bind_eq_ok.mp encodes
  cases packed
  cases same
  rfl

/-- What the client promises the caller of a lock command: it does not give up
before the server does. -/
structure Outlasts (command : LockCommand) (now : Instant) (wait : Duration) (pending : PendingCommand) : Prop where
  wait : command.timeout.serverWait ≤ wait
  deadline : now + command.timeout.serverWait ≤ pending.deadline

theorem outlasts_iff {command : LockCommand} {now : Instant} {wait : Duration} {pending : PendingCommand}
    (waits : responseWait config (.lock command) = .ok wait) (deadline : pending.deadline = now + wait) :
    Outlasts command now wait pending ↔
      command.timeout.inMinutes = false ∨
        59 * Duration.fromSecs command.timeout.value.toNat ≤ config.commandTimeoutGrace := by
  rw [← PackedTime.asSeconds, ← PackedTime.serverWait_le_iff, ← responseWait_lock waits]
  constructor
  · exact Outlasts.wait
  · intro long
    refine ⟨long, ?_⟩
    rw [deadline]
    exact Nat.add_le_add_left long now

/-- A lock command is waited for its value as seconds and the grace, and is
retried as long; the server is outlasted exactly if the value is not in minutes,
or the grace makes up for them. -/
theorem lock_outlasts_iff (config : Config n) (command : LockCommand) (now : Instant) (wait : Duration)
    (pending : PendingCommand) (waits : responseWait config (.lock command) = .ok wait)
    (creates : PendingCommand.new (.lock command) config.commandTimeoutGrace now = .ok pending) :
    wait = Duration.fromSecs command.timeout.value.toNat + config.commandTimeoutGrace ∧
      pending.deadline = now + wait ∧
      (Outlasts command now wait pending ↔
        command.timeout.inMinutes = false ∨
          59 * Duration.fromSecs command.timeout.value.toNat ≤ config.commandTimeoutGrace) := by
  obtain ⟨_, waits', deadline⟩ := PendingCommand.new_deadline creates
  cases waits'.symm.trans waits
  exact ⟨responseWait_lock waits, deadline, outlasts_iff waits deadline⟩

section Example

/-- A lock command that a server may let wait for three minutes. -/
def threeMinutes : LockCommand :=
  { commandType := commandTypeLock, flag := 0, dbId := 0, requestId := .zero, lockKey := ⟨Wire.Block.zero 16⟩,
    lockId := .zero, timeout := .withFlags 3 timeoutFlagMinuteTime, expired := ⟨10⟩, count := 0, rCount := 0,
    data := none }

def threeSeconds : LockCommand := { threeMinutes with timeout := .withFlags 3 0 }

/-- With the default grace the client gives up after two minutes and three seconds. -/
theorem threeMinutes_not_outlasted :
    ¬ ∀ (config : Config 2) (command : LockCommand) (now : Instant) (wait : Duration) (pending : PendingCommand),
      responseWait config (.lock command) = .ok wait →
      PendingCommand.new (.lock command) config.commandTimeoutGrace now = .ok pending →
      Outlasts command now wait pending := by
  intro claim
  have outlasts := claim pair threeMinutes 0 _ _ rfl rfl
  exact absurd outlasts.wait (by decide)

theorem lock_outlasts_threeSeconds :
    Outlasts threeSeconds 0 (Duration.fromSecs 123)
      { requestId := .zero, command := .lock threeSeconds, retryType := .origin, deadline := Duration.fromSecs 123 } :=
  ((lock_outlasts_iff pair threeSeconds 0 _ _ rfl rfl).2.2).mpr (.inl rfl)

end Example

end Replset

end Ruslock
