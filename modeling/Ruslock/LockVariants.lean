import Ruslock.Primitives

namespace Ruslock
open Wire

/-- `saturating_sub(1)`. -/
def oneLess (count : UInt16) : UInt16 := if count = 0 then 0 else count - 1

structure ReentrantLock where
  lock : Lock
  deriving DecidableEq

structure Semaphore where
  database : Database
  key : List UInt8
  count : UInt16
  timeout : UInt16
  expired : UInt16
  deriving DecidableEq

structure ReadWriteLock where
  database : Database
  key : List UInt8
  timeout : UInt16
  expired : UInt16
  writeLock : Lock
  readLocks : List Lock
  deriving DecidableEq

structure PriorityLock where
  lock : Lock
  priority : UInt8
  deriving DecidableEq

structure MaxConcurrentFlow where
  lock : Lock
  deriving DecidableEq

structure TokenBucketFlow where
  lock : Lock
  deriving DecidableEq

section New

variable (md5 : List UInt8 → Block 16) (database : Database) (key : List UInt8) (timeout expired : UInt16)

def ReentrantLock.new : Program ReentrantLock := do
  let lock ← Lock.new md5 database key timeout expired
  pure { lock := lock.setRCount 0xff }

def Semaphore.new (count : UInt16) : Semaphore where
  database := database
  key := key
  count := oneLess count
  timeout := timeout
  expired := expired

def ReadWriteLock.new : Program ReadWriteLock := do
  let writeLock ← Lock.new md5 database key timeout expired
  pure { database := database, key := key, timeout := timeout, expired := expired, writeLock := writeLock.setCount 0,
         readLocks := [] }

def PriorityLock.new (priority : UInt8) : Program PriorityLock := do
  let lock ← Lock.new md5 database key timeout expired
  let lock := { lock with timeout := lock.timeout.mergeFlags timeoutFlagRcountIsPriority }
  pure { lock := lock.setRCount priority, priority := priority }

def MaxConcurrentFlow.new (max : UInt16) : Program MaxConcurrentFlow := do
  let lock ← Lock.new md5 database key timeout expired
  pure { lock := lock.setCount (oneLess max) }

/-- The time that a token is kept, from its period as a rounded number: of
milliseconds if it is below three seconds, else of seconds. -/
def TokenBucketFlow.period (short : Bool) (rounded : UInt16) : UInt16 := if short then max rounded 1 else rounded

def TokenBucketFlow.new (count : UInt16) (short : Bool) (rounded : UInt16) : Program TokenBucketFlow := do
  let lock ← Lock.new md5 database key timeout (period short rounded)
  let lock := lock.setCount (oneLess count)
  if short then
    pure { lock := { lock with expired := lock.expired.mergeFlags expriedFlagMillisecondTime } }
  else pure { lock := lock }

end New

def ReentrantLock.acquire (self : ReentrantLock) : Program (Outcome LockCommandResult × ReentrantLock) := do
  let (outcome, lock) ← self.lock.acquire
  pure (outcome, { self with lock := lock })

def ReentrantLock.release (self : ReentrantLock) : Program (Outcome LockCommandResult × ReentrantLock) := do
  let (outcome, lock) ← self.lock.release
  pure (outcome, { self with lock := lock })

namespace Semaphore

variable (md5 : List UInt8 → Block 16) (semaphore : Semaphore)

def acquire : Program (Outcome LockCommandResult × Semaphore) := do
  let lock ← Lock.new md5 semaphore.database semaphore.key semaphore.timeout semaphore.expired
  let (outcome, _) ← (lock.setCount semaphore.count).acquire
  pure (outcome, semaphore)

def release : Program (Outcome Unit × Semaphore) := do
  let lock ← Lock.withLockId md5 semaphore.database semaphore.key .zero semaphore.timeout semaphore.expired
    semaphore.count 0
  let (outcome, _) ← lock.releaseHead none
  pure (outcome, semaphore)

end Semaphore

namespace ReadWriteLock

variable (md5 : List UInt8 → Block 16) (self : ReadWriteLock)

def acquireWrite : Program (Outcome LockCommandResult × ReadWriteLock) := do
  let (outcome, lock) ← self.writeLock.acquire
  pure (outcome, { self with writeLock := lock })

def releaseWrite : Program (Outcome LockCommandResult × ReadWriteLock) := do
  let (outcome, lock) ← self.writeLock.release
  pure (outcome, { self with writeLock := lock })

def acquireRead : Program (Outcome LockCommandResult × ReadWriteLock) := do
  let lock ← Lock.new md5 self.database self.key self.timeout self.expired
  let (outcome, lock) ← (lock.setCount 0xffff).acquire
  match outcome with
  | .error err => pure (.error err, self)
  | .ok result => pure (.ok result, { self with readLocks := self.readLocks ++ [lock] })

def releaseRead : Program (Outcome LockCommandResult × ReadWriteLock) :=
  match self.readLocks.getLast? with
  | none => pure (.error (.lockData "no read lock to release"), self)
  | some lock => do
    -- the lock is popped before the server is asked
    let (outcome, _) ← lock.release
    pure (outcome, { self with readLocks := self.readLocks.dropLast })

end ReadWriteLock

def PriorityLock.acquire (self : PriorityLock) : Program (Outcome LockCommandResult × PriorityLock) := do
  let (outcome, lock) ← self.lock.acquire
  pure (outcome, { self with lock := lock })

def PriorityLock.release (self : PriorityLock) : Program (Outcome LockCommandResult × PriorityLock) := do
  let (outcome, lock) ← self.lock.release
  pure (outcome, { self with lock := lock })

def MaxConcurrentFlow.acquire (self : MaxConcurrentFlow) : Program (Outcome LockCommandResult × MaxConcurrentFlow) := do
  let (outcome, lock) ← self.lock.acquire
  pure (outcome, { self with lock := lock })

def MaxConcurrentFlow.release (self : MaxConcurrentFlow) : Program (Outcome LockCommandResult × MaxConcurrentFlow) := do
  let (outcome, lock) ← self.lock.release
  pure (outcome, { self with lock := lock })

def TokenBucketFlow.acquire (self : TokenBucketFlow) : Program (Outcome LockCommandResult × TokenBucketFlow) := do
  let (outcome, lock) ← self.lock.acquire
  pure (outcome, { self with lock := lock })

end Ruslock
