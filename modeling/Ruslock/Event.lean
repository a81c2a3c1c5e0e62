import Ruslock.Primitives

namespace Ruslock
open Wire

structure Event where
  lock : Lock
  defaultSet : Bool
  deriving DecidableEq

/-- What an operation makes of an UNLOCK of something that may be unlocked. -/
def unlockOutcome {α : Type} : Outcome α → Outcome Unit
  | .ok _ => .ok ()
  | .error (.lockUnlocked _) => .ok ()
  | .error err => .error err

/-- The error that `wait` makes of that of its `acquire`. -/
def waitError : SlockError → SlockError
  | .lockTimeout _ => .eventWaitTimeout
  | .commandTimeout => .eventWaitTimeout
  | err => err

namespace Event

variable (md5 : List UInt8 → Block 16)

def new (database : Database) (key : List UInt8) (timeout expired : UInt16) (defaultSet : Bool) : Program Event := do
  let lock ← Lock.new md5 database key timeout expired
  pure { lock := lock, defaultSet := defaultSet }

/-- A new lock on the key of the event. -/
def freshLock (event : Event) (timeout : UInt16) : Program Lock :=
  Lock.new md5 event.lock.database event.lock.lockKey.bytes.toList timeout 0

def eventLock (event : Event) (count : UInt16) : Program Lock :=
  Lock.withLockId md5 event.lock.database event.lock.lockKey.bytes.toList ⟨event.lock.lockKey.bytes⟩
    event.lock.timeout.value event.lock.expired.value count 0

/-- The lock that `is_set` and `wait` try for. -/
def checkLock (event : Event) (timeout : UInt16) : Program Lock := do
  let lock ← event.freshLock md5 timeout
  if event.defaultSet then pure lock
  else
    let lock := { lock with timeout := .withFlags timeout timeoutFlagLockWaitWhenUnlock }
    pure (lock.setCount 1)

/-- What `is_set` makes of the outcome of its `acquire`. -/
def isSetOutcome : Outcome LockCommandResult → Outcome Bool
  | .ok _ => .ok true
  | .error (.lockTimeout _) => .ok false
  | .error (.lockNotOwn _) => .ok false
  | .error err => .error err

def isSet (event : Event) : Program (Outcome Bool × Event) := do
  let checkLock ← event.checkLock md5 0
  let (outcome, _) ← checkLock.acquire
  pure (isSetOutcome outcome, event)

def setWithData (event : Event) (data : Option LockData) : Program (Outcome Unit × Event) := do
  if event.defaultSet then
    let eventLock ← event.eventLock md5 0
    let (outcome, _) ← eventLock.releaseWithFlags 0 data
    pure (unlockOutcome outcome, event)
  else
    let eventLock ← event.eventLock md5 1
    let (outcome, _) ← eventLock.update data
    pure (outcome, event)

def set (event : Event) : Program (Outcome Unit × Event) := event.setWithData md5 none

def clear (event : Event) : Program (Outcome Unit × Event) := do
  if event.defaultSet then
    let eventLock ← event.eventLock md5 0
    let (outcome, _) ← eventLock.update none
    pure (outcome, event)
  else
    let eventLock ← event.eventLock md5 1
    let (outcome, _) ← eventLock.release
    pure (unlockOutcome outcome, event)

/-- What `wait` makes of the outcome of its `acquire`. -/
def waitOutcome : Outcome LockCommandResult → Outcome Unit
  | .ok _ => .ok ()
  | .error err => .error (waitError err)

def wait (event : Event) (timeout : UInt16) : Program (Outcome Unit × Event) := do
  let waitLock ← event.checkLock md5 timeout
  let (outcome, waitLock) ← waitLock.acquire
  -- the data is kept before the outcome is looked at
  pure (waitOutcome outcome, { event with lock := { event.lock with currentData := waitLock.currentData } })

def currentData (event : Event) : Option LockResultData := event.lock.currentData

end Event

/-- `encode_group_event_lock_id`. -/
def encodeGroupEventLockId (clientId versionId : UInt64) : Id16 :=
  ⟨((Block.zero 16).copyFromSlice 0 (Block.ofNatLE 8 versionId.toNat)).copyFromSlice 8
    (Block.ofNatLE 8 clientId.toNat)⟩

structure GroupEvent where
  lock : Lock
  clientId : UInt64
  versionId : UInt64
  deriving DecidableEq

namespace GroupEvent

variable (md5 : List UInt8 → Block 16)

/-- A version is compared, and a lower one succeeds. -/
def comparing (lock : Lock) : Lock :=
  { lock with timeout := lock.timeout.mergeFlags timeoutFlagLessLockVersionIsLockSucced }

def new (database : Database) (key : List UInt8) (clientId versionId : UInt64) (timeout expired : UInt16) :
    Program GroupEvent := do
  let lock ← Lock.withLockId md5 database key (encodeGroupEventLockId clientId versionId) timeout expired 0 0
  pure { lock := comparing lock, clientId := clientId, versionId := versionId }

/-- A lock on the key of the event under another id. -/
def lockUnder (event : GroupEvent) (lockId : Id16) (timeout expired : UInt16) : Program Lock :=
  Lock.withLockId md5 event.lock.database event.lock.lockKey.bytes.toList lockId timeout expired 0 0

/-- What `is_set` makes of the outcome of its `acquire`. -/
def isSetOutcome : Outcome LockCommandResult → Outcome Bool
  | .ok _ => .ok true
  | .error (.lockTimeout _) => .ok false
  | .error err => .error err

def isSet (event : GroupEvent) : Program (Outcome Bool × GroupEvent) := do
  let lockId ← Id16.new
  let checkLock ← event.lockUnder md5 lockId 0 0
  let (outcome, _) ← checkLock.acquire
  pure (isSetOutcome outcome, event)

def set (event : GroupEvent) : Program (Outcome Unit × GroupEvent) := do
  let eventLock ← event.lockUnder md5 .zero event.lock.timeout.value event.lock.expired.value
  let (outcome, _) ← eventLock.releaseHead none
  pure (unlockOutcome outcome, event)

def clear (event : GroupEvent) : Program (Outcome Unit × GroupEvent) := do
  let eventLock ← event.lockUnder md5 (encodeGroupEventLockId 0 event.versionId) event.lock.timeout.value
    event.lock.expired.value
  let (outcome, _) ← (comparing eventLock).update none
  pure (outcome, event)

/-- The version that the id of a lock stands for. -/
def versionOf (lockId : Id16) : UInt64 := UInt64.ofNat (ofLE (lockId.bytes.slice 0 8).toList)

/-- What `wakeup` and `wait` keep of an answer with success. -/
def adopt (event : GroupEvent) (own : Id16) (result : LockCommandResult) (data : Option LockResultData) : GroupEvent :=
  { event with
    versionId := if result.lockId ≠ own then versionOf result.lockId else event.versionId,
    lock := { event.lock with currentData := data } }

def wakeup (event : GroupEvent) (data : Option LockData) : Program (Outcome Unit × GroupEvent) := do
  let eventLock ← event.lockUnder md5 .zero event.lock.timeout.value event.lock.expired.value
  let (outcome, eventLock) ← (comparing eventLock).releaseHeadToLockWait data
  match outcome with
  | .error err => pure (.error err, event)
  | .ok result => pure (.ok (), event.adopt .zero result eventLock.currentData)

def wait (event : GroupEvent) (timeout : UInt16) : Program (Outcome Unit × GroupEvent) := do
  let waitLock ← event.lockUnder md5 (encodeGroupEventLockId event.clientId event.versionId) timeout 0
  let (outcome, waitLock) ← (comparing waitLock).acquire
  match outcome with
  | .error err => pure (.error (waitError err), event)
  | .ok result =>
    pure (.ok (), event.adopt (encodeGroupEventLockId event.clientId event.versionId) result waitLock.currentData)

def currentData (event : GroupEvent) : Option LockResultData := event.lock.currentData

end GroupEvent

section Talk

variable {md5 : List UInt8 → Block 16} {said : Dialogue.Transcript Effect.Answer} {timeout : UInt16}

theorem operates_self {ρ : Type} {commandType flag : UInt8} {read : Outcome LockCommandResult → Outcome ρ}
    {operate : Lock → Program (Outcome ρ × Lock)} (operates : ∀ lock, Operates lock commandType flag read (operate lock))
    (built : Lock) : ∃ used : Lock, used.currentData = built.currentData ∧
      Operates used commandType flag read (operate built) :=
  ⟨built, rfl, operates built⟩

namespace Event

variable {event : Event}

theorem checkLock_builds (said : Dialogue.Transcript Effect.Answer) (lock : Lock)
    (talk : Dialogue.Talk (event.checkLock md5 timeout) said lock) : exchanges said = [] ∧ lock.currentData = none := by
  obtain ⟨front, fresh, back, rfl, builds, last⟩ := Dialogue.talk_bind.mp talk
  obtain ⟨silent, _, empty⟩ := Lock.new_talk builds
  split at last
  · obtain ⟨rfl, rfl⟩ := Dialogue.talk_pure.mp last
    exact ⟨by rw [List.append_nil]; exact silent, empty⟩
  · obtain ⟨rfl, rfl⟩ := Dialogue.talk_pure.mp last
    exact ⟨by rw [List.append_nil]; exact silent, empty⟩

theorem eventLock_builds {count : UInt16} (said : Dialogue.Transcript Effect.Answer) (lock : Lock)
    (talk : Dialogue.Talk (event.eventLock md5 count) said lock) : exchanges said = [] ∧ lock.currentData = none := by
  obtain ⟨silent, _, _, empty⟩ := Lock.withLockId_talk talk
  exact ⟨silent, empty⟩

theorem isSet_talk {value : Outcome Bool × Event} (talk : Dialogue.Talk (event.isSet md5) said value) :
    ∃ exchange, exchanges said = [exchange] ∧
      (exchange.command.commandType = commandTypeLock ∧ exchange.command.flag = 0) ∧
      value = (isSetOutcome exchange.outcome, event) := by
  obtain ⟨exchange, _, back, atSaid, type, _, last⟩ :=
    talk_through checkLock_builds (operates_self fun _ => Lock.acquireWithFlags_operates) talk
  obtain ⟨rfl, rfl⟩ := Dialogue.talk_pure.mp last
  exact ⟨exchange, atSaid, type, rfl⟩

theorem wait_talk {value : Outcome Unit × Event} (talk : Dialogue.Talk (event.wait md5 timeout) said value) :
    ∃ exchange, exchanges said = [exchange] ∧
      (exchange.command.commandType = commandTypeLock ∧ exchange.command.flag = 0) ∧
      value = (waitOutcome exchange.outcome,
        { event with lock := { event.lock with currentData := exchange.dataAfter none } }) := by
  obtain ⟨exchange, after, back, atSaid, type, kept, last⟩ :=
    talk_through checkLock_builds (operates_self fun _ => Lock.acquireWithFlags_operates) talk
  obtain ⟨rfl, rfl⟩ := Dialogue.talk_pure.mp last
  exact ⟨exchange, atSaid, type, by rw [kept]; rfl⟩

/-- `set` and `clear` leave the event as it is. -/
theorem setWithData_talk {data : Option LockData} {value : Outcome Unit × Event}
    (talk : Dialogue.Talk (event.setWithData md5 data) said value) :
    ∃ exchange, exchanges said = [exchange] ∧ value.2 = event := by
  unfold setWithData at talk
  split at talk
  · exact talk_alone eventLock_builds (operates_self fun _ => Lock.releaseWithFlags_operates) (fun _ => ⟨_, rfl⟩) talk
  · exact talk_alone eventLock_builds (operates_self fun _ => Lock.update_operates) (fun _ => ⟨_, rfl⟩) talk

theorem clear_talk {value : Outcome Unit × Event} (talk : Dialogue.Talk (event.clear md5) said value) :
    ∃ exchange, exchanges said = [exchange] ∧ value.2 = event := by
  unfold clear at talk
  split at talk
  · exact talk_alone eventLock_builds (operates_self fun _ => Lock.update_operates) (fun _ => ⟨_, rfl⟩) talk
  · exact talk_alone eventLock_builds (operates_self fun _ => Lock.releaseWithFlags_operates) (fun _ => ⟨_, rfl⟩) talk

end Event

namespace GroupEvent

variable {event : GroupEvent}

theorem lockUnder_builds {lockId : Id16} {expired : UInt16} (said : Dialogue.Transcript Effect.Answer) (lock : Lock)
    (talk : Dialogue.Talk (event.lockUnder md5 lockId timeout expired) said lock) :
    exchanges said = [] ∧ lock.currentData = none := by
  obtain ⟨silent, _, _, empty⟩ := Lock.withLockId_talk talk
  exact ⟨silent, empty⟩

theorem operates_comparing {ρ : Type} {commandType flag : UInt8} {read : Outcome LockCommandResult → Outcome ρ}
    {operate : Lock → Program (Outcome ρ × Lock)} (operates : ∀ lock, Operates lock commandType flag read (operate lock))
    (built : Lock) : ∃ used : Lock, used.currentData = built.currentData ∧
      Operates used commandType flag read (operate (comparing built)) :=
  ⟨comparing built, rfl, operates (comparing built)⟩

theorem isSet_talk {value : Outcome Bool × GroupEvent} (talk : Dialogue.Talk (event.isSet md5) said value) :
    ∃ exchange, exchanges said = [exchange] ∧ value = (isSetOutcome exchange.outcome, event) := by
  obtain ⟨first, lockId, later, rfl, asks, through⟩ := Dialogue.talk_bind.mp talk
  obtain rfl := Dialogue.talk_question.mp asks
  obtain ⟨exchange, _, back, atSaid, _, _, last⟩ :=
    talk_through lockUnder_builds (operates_self fun _ => Lock.acquireWithFlags_operates) through
  obtain ⟨rfl, rfl⟩ := Dialogue.talk_pure.mp last
  exact ⟨exchange, atSaid, rfl⟩

theorem set_talk {value : Outcome Unit × GroupEvent} (talk : Dialogue.Talk (event.set md5) said value) :
    ∃ exchange, exchanges said = [exchange] ∧ value.2 = event := by
  exact talk_alone lockUnder_builds (operates_self fun _ => Lock.releaseHead_operates) (fun _ => ⟨_, rfl⟩) talk

theorem clear_talk {value : Outcome Unit × GroupEvent} (talk : Dialogue.Talk (event.clear md5) said value) :
    ∃ exchange, exchanges said = [exchange] ∧ value.2 = event := by
  exact talk_alone lockUnder_builds (operates_comparing fun _ => Lock.update_operates) (fun _ => ⟨_, rfl⟩) talk

/-- What `wakeup` and `wait` leave behind: on success the version and the data
of the result, else everything as it was. -/
def settled (event : GroupEvent) (own : Id16) (exchange : Exchange) : GroupEvent :=
  match exchange.outcome with
  | .error _ => event
  | .ok result => event.adopt own result (exchange.dataAfter none)

theorem wakeup_talk {data : Option LockData} {value : Outcome Unit × GroupEvent}
    (talk : Dialogue.Talk (event.wakeup md5 data) said value) :
    ∃ exchange, exchanges said = [exchange] ∧
      value = (exchange.outcome.map fun _ => (), event.settled .zero exchange) := by
  obtain ⟨exchange, after, back, atSaid, _, kept, last⟩ :=
    talk_through lockUnder_builds (operates_comparing fun _ => Lock.releaseWithFlags_operates) talk
  unfold settled
  cases outcome : exchange.outcome with
  | error err =>
    rw [outcome] at last
    obtain ⟨rfl, rfl⟩ := Dialogue.talk_pure.mp last
    exact ⟨exchange, atSaid, by rw [outcome]; rfl⟩
  | ok result =>
    rw [outcome] at last
    obtain ⟨rfl, rfl⟩ := Dialogue.talk_pure.mp last
    exact ⟨exchange, atSaid, by rw [outcome, kept]; rfl⟩

theorem wait_talk {value : Outcome Unit × GroupEvent} (talk : Dialogue.Talk (event.wait md5 timeout) said value) :
    ∃ exchange, exchanges said = [exchange] ∧
      (exchange.command.commandType = commandTypeLock ∧ exchange.command.flag = 0) ∧
      value = (Event.waitOutcome exchange.outcome,
        event.settled (encodeGroupEventLockId event.clientId event.versionId) exchange) := by
  obtain ⟨exchange, after, back, atSaid, type, kept, last⟩ :=
    talk_through lockUnder_builds (operates_comparing fun _ => Lock.acquireWithFlags_operates) talk
  unfold settled
  cases outcome : exchange.outcome with
  | error err =>
    rw [outcome] at last
    obtain ⟨rfl, rfl⟩ := Dialogue.talk_pure.mp last
    exact ⟨exchange, atSaid, type, by rw [outcome]; rfl⟩
  | ok result =>
    rw [outcome] at last
    obtain ⟨rfl, rfl⟩ := Dialogue.talk_pure.mp last
    exact ⟨exchange, atSaid, type, by rw [outcome, kept]; rfl⟩

end GroupEvent

end Talk

end Ruslock
