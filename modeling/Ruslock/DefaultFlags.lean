import Ruslock.PrimitiveCalls

namespace Ruslock
open Wire

/-- The default flags of a database. -/
structure Defaults where
  timeout : UInt16
  expired : UInt16

/-- The answers of a database whose default flags nobody changes. -/
def Defaults.Allows (defaults : Defaults) : (effect : Effect) → effect.Answer → Prop
  | .defaultTimeoutFlags, flags => flags = defaults.timeout
  | .defaultExpiredFlags, flags => flags = defaults.expired
  | .send _, _ => True
  | .newId, _ => True

/-- The primitives that come of a factory and of calls. -/
inductive Made (md5 : List UInt8 → Block 16) (database : Database) (defaults : Defaults) (factory : Factory) :
    Primitive → Prop
  | created {said primitive} : Dialogue.Talk (database.create md5 factory) said primitive →
      (∀ entry ∈ said, defaults.Allows entry.1 entry.2) → Made md5 database defaults factory primitive
  | called {before call program said primitive} : Made md5 database defaults factory before →
      before.call md5 call = some program → Dialogue.Talk program said primitive →
      (∀ entry ∈ said, defaults.Allows entry.1 entry.2) → Made md5 database defaults factory primitive

/-- The times that a command is about, and the flags that its operation needs. -/
structure Needs where
  timeout : UInt16
  timeoutFlags : UInt16
  expired : UInt16
  expiredFlags : UInt16

/-- Times that carry the default flags, and what is needed. -/
structure Timed (defaults : Defaults) (needs : Needs) (timeout expired : PackedTime) : Prop where
  timeoutValue : timeout.value = needs.timeout
  timeoutFlags : timeout.flags = defaults.timeout ||| needs.timeoutFlags
  expiredValue : expired.value = needs.expired
  expiredFlags : expired.flags = defaults.expired ||| needs.expiredFlags

/-- A lock for a target, with the times that it needs. -/
structure Lock.About (defaults : Defaults) (needs : Needs) (target : Key16 × Id16) (lock : Lock) : Prop extends
    Timed defaults needs lock.timeout lock.expired where
  target : (lock.lockKey, lock.lockId) = target

/-- What the lock inside a primitive needs. -/
def Factory.own : Factory → Needs
  | .lock _ timeout expired => ⟨timeout, 0, expired, 0⟩
  | .event _ timeout expired _ => ⟨timeout, 0, expired, 0⟩
  | .groupEvent _ _ _ timeout expired => ⟨timeout, timeoutFlagLessLockVersionIsLockSucced, expired, 0⟩
  | .semaphore _ _ timeout expired => ⟨timeout, 0, expired, 0⟩
  | .reentrantLock _ timeout expired => ⟨timeout, 0, expired, 0⟩
  | .readWriteLock _ timeout expired => ⟨timeout, 0, expired, 0⟩
  | .priorityLock _ _ timeout expired => ⟨timeout, timeoutFlagRcountIsPriority, expired, 0⟩
  | .maxConcurrentFlow _ _ timeout expired => ⟨timeout, 0, expired, 0⟩
  | .tokenBucketFlow _ _ timeout short rounded =>
    ⟨timeout, 0, TokenBucketFlow.period short rounded, if short then expriedFlagMillisecondTime else 0⟩
  | .treeLock _ timeout expired => ⟨timeout, timeoutFlagRcountIsPriority, expired, 0⟩

/-- The lock that a command is about, and who takes or gives it back. -/
def LockCommand.target (command : LockCommand) : Key16 × Id16 := (command.lockKey, command.lockId)

/-- What the commands of an `acquire` of a leaf need: the one for the leaf itself
waits as the leaf does, and those for the check locks do not wait. Only a leaf
whose id is the key of the parent has a target in common with its check locks. -/
def TreeLeafLock.needs (own : Needs) (leaf : TreeLeafLock) (command : LockCommand) : List Needs :=
  (if command.target = (leaf.lock.lockKey, leaf.lock.lockId) then [own] else []) ++
    if command.target ∈ leaf.checkTargets then [{ own with timeout := 0 }] else []

/-- What a command of a call needs: as much as the lock inside the primitive,
unless the call sends it through a lock of its own. -/
def Primitive.needs (own : Needs) (primitive : Primitive) (call : Call) (command : LockCommand) : List Needs :=
  match primitive, call with
  | .event self, .isSet => [⟨0, if self.defaultSet then 0 else timeoutFlagLockWaitWhenUnlock, 0, 0⟩]
  | .event self, .wait timeout => [⟨timeout, if self.defaultSet then 0 else timeoutFlagLockWaitWhenUnlock, 0, 0⟩]
  | .groupEvent _, .isSet => [⟨0, 0, 0, 0⟩]
  | .groupEvent _, .set => [{ own with timeoutFlags := 0 }]
  | .groupEvent _, .wait timeout => [{ own with timeout := timeout, expired := 0 }]
  | .treeLock _, .wait timeout => [⟨timeout, 0, 0, 0⟩]
  | .treeLeafLock self, .acquire => self.needs own command
  | _, _ => [own]

/-- The calls that put a flag in the place of the default flags. -/
def Primitive.Overwrites : Primitive → Call → Prop
  | .event self, .isSet => self.defaultSet = false
  | .event self, .wait _ => self.defaultSet = false
  | _, _ => False

/-- What the commands of a call show of the default flags. -/
def Event.shown (defaults : Defaults) (self : Event) : Defaults :=
  if self.defaultSet then defaults else { defaults with timeout := 0 }

def Primitive.shown (defaults : Defaults) : Primitive → Call → Defaults
  | .event self, .isSet => self.shown defaults
  | .event self, .wait _ => self.shown defaults
  | _, _ => defaults

section PackedTime

variable (value flags : UInt16)

@[simp] theorem PackedTime.withFlags_value : (withFlags value flags).value = value := by
  apply UInt16.toBitVec_inj.mp
  ext index bound
  have ones : (65535#16)[index] = true := BitVec.getElem_allOnes index bound
  simp [withFlags, PackedTime.value, ones]

@[simp] theorem PackedTime.withFlags_flags : (withFlags value flags).flags = flags := by
  apply UInt16.toBitVec_inj.mp
  ext index bound
  have inside : 16 + index < 32 := by omega
  have within : index < 32 := by omega
  simp [withFlags, PackedTime.flags, inside, within, BitVec.getLsbD_eq_getElem bound]

end PackedTime

/-- Each command has the times that it needs. -/
def Defaults.Asks (defaults : Defaults) (needs : LockCommand → List Needs) : Effect → Prop
  | .send (.lock command) => ∃ need ∈ needs command, Timed defaults need command.timeout command.expired
  | _ => True

section Locks

variable {defaults shown : Defaults} {needs : LockCommand → List Needs} {need : Needs} {md5 : List UInt8 → Block 16}
  {database : Database} {key : List UInt8} {timeout expired count : UInt16} {rCount : UInt8} {lockId : Id16}
  {lock : Lock}

theorem Database.timeout_ensures :
    Dialogue.Ensures defaults.Allows (shown.Asks needs) (database.timeout timeout)
      (· = .withFlags timeout defaults.timeout) := by
  refine Dialogue.ensures_bind (Dialogue.ensures_question trivial fun flags same => same) ?_
  rintro flags (rfl : flags = defaults.timeout)
  exact Dialogue.ensures_pure rfl

theorem Database.expired_ensures :
    Dialogue.Ensures defaults.Allows (shown.Asks needs) (database.expired expired)
      (· = .withFlags expired defaults.expired) := by
  refine Dialogue.ensures_bind (Dialogue.ensures_question trivial fun flags same => same) ?_
  rintro flags (rfl : flags = defaults.expired)
  exact Dialogue.ensures_pure rfl

theorem Id16.new_ensures : Dialogue.Ensures defaults.Allows (shown.Asks needs) Id16.new fun _ => True :=
  Dialogue.ensures_question trivial fun _ _ => trivial

/-- Times that are packed with the default flags. -/
theorem timed_default :
    Timed defaults ⟨timeout, 0, expired, 0⟩ (.withFlags timeout defaults.timeout)
      (.withFlags expired defaults.expired) := by
  constructor <;> simp

theorem Lock.new_ensures :
    Dialogue.Ensures defaults.Allows (shown.Asks needs) (Lock.new md5 database key timeout expired)
      fun lock => Timed defaults ⟨timeout, 0, expired, 0⟩ lock.timeout lock.expired := by
  refine Dialogue.ensures_bind Database.timeout_ensures ?_
  rintro _ rfl
  refine Dialogue.ensures_bind Database.expired_ensures ?_
  rintro _ rfl
  refine Dialogue.ensures_bind Id16.new_ensures fun lockId _ => ?_
  exact Dialogue.ensures_pure timed_default

theorem Lock.withLockId_about :
    Dialogue.Ensures defaults.Allows (shown.Asks needs)
      (Lock.withLockId md5 database key lockId timeout expired count rCount)
      (Lock.About defaults ⟨timeout, 0, expired, 0⟩ (.new md5 key, lockId)) := by
  refine Dialogue.ensures_bind Database.timeout_ensures ?_
  rintro _ rfl
  refine Dialogue.ensures_bind Database.expired_ensures ?_
  rintro _ rfl
  exact Dialogue.ensures_pure ⟨timed_default, rfl⟩

theorem Lock.withLockId_ensures :
    Dialogue.Ensures defaults.Allows (shown.Asks needs)
      (Lock.withLockId md5 database key lockId timeout expired count rCount)
      fun lock => Timed defaults ⟨timeout, 0, expired, 0⟩ lock.timeout lock.expired :=
  Dialogue.ensures_imp Lock.withLockId_about fun _ about => about.toTimed

/-- A lock that is built again from the times of another. -/
theorem Lock.withLockId_again {again againExpired : UInt16} (sameTimeout : again = timeout)
    (sameExpired : againExpired = expired) :
    Dialogue.Ensures defaults.Allows (shown.Asks needs)
      (Lock.withLockId md5 database key lockId again againExpired count rCount)
      fun lock => Timed defaults ⟨timeout, 0, expired, 0⟩ lock.timeout lock.expired := by
  rw [sameTimeout, sameExpired]
  exact Lock.withLockId_ensures

/-- A flag that is merged into the timeout is added to what is needed. -/
theorem Timed.mergeTimeout {flags : UInt16} {timeout expired : PackedTime} {value expiredValue : UInt16}
    (timed : Timed shown ⟨value, 0, expiredValue, 0⟩ timeout expired) :
    Timed shown ⟨value, flags, expiredValue, 0⟩ (timeout.mergeFlags flags) expired where
  timeoutValue := by rw [PackedTime.mergeFlags, PackedTime.withFlags_value, timed.timeoutValue]
  timeoutFlags := by
    rw [PackedTime.mergeFlags, PackedTime.withFlags_flags, timed.timeoutFlags]
    exact congrArg (· ||| flags) UInt16.or_zero
  expiredValue := timed.expiredValue
  expiredFlags := timed.expiredFlags

theorem Timed.mergeExpired {flags : UInt16} {timeout expired : PackedTime} {value expiredValue : UInt16}
    (timed : Timed shown ⟨value, 0, expiredValue, 0⟩ timeout expired) :
    Timed shown ⟨value, 0, expiredValue, flags⟩ timeout (expired.mergeFlags flags) where
  timeoutValue := timed.timeoutValue
  timeoutFlags := timed.timeoutFlags
  expiredValue := by rw [PackedTime.mergeFlags, PackedTime.withFlags_value, timed.expiredValue]
  expiredFlags := by
    rw [PackedTime.mergeFlags, PackedTime.withFlags_flags, timed.expiredFlags]
    exact congrArg (· ||| flags) UInt16.or_zero

variable (timed : Timed shown need lock.timeout lock.expired) (needed : ∀ command, need ∈ needs command)

include timed needed

/-- A lock sends its own times. -/
theorem Lock.speaks_timed :
    lock.Speaks (shown.Asks needs) fun lock => Timed shown need lock.timeout lock.expired where
  newId := trivial
  send := fun _ _ _ _ => ⟨need, needed _, timed⟩
  sendHead := fun _ _ _ _ => ⟨need, needed _, timed⟩
  keeps := fun _ => timed

theorem Lock.acquireWithFlags_ensures {flag : UInt8} {data : Option LockData} :
    Dialogue.Ensures defaults.Allows (shown.Asks needs) (lock.acquireWithFlags flag data)
      fun value => Timed shown need value.2.timeout value.2.expired :=
  (Lock.speaks_timed timed needed).acquireWithFlags

theorem Lock.releaseWithFlags_ensures {flag : UInt8} {data : Option LockData} :
    Dialogue.Ensures defaults.Allows (shown.Asks needs) (lock.releaseWithFlags flag data)
      fun value => Timed shown need value.2.timeout value.2.expired :=
  (Lock.speaks_timed timed needed).releaseWithFlags

theorem Lock.show_ensures :
    Dialogue.Ensures defaults.Allows (shown.Asks needs) lock.show
      fun value => Timed shown need value.2.timeout value.2.expired :=
  (Lock.speaks_timed timed needed).show

theorem Lock.update_ensures {data : Option LockData} :
    Dialogue.Ensures defaults.Allows (shown.Asks needs) (lock.update data)
      fun value => Timed shown need value.2.timeout value.2.expired :=
  (Lock.speaks_timed timed needed).update

theorem Lock.releaseHead_ensures {data : Option LockData} :
    Dialogue.Ensures defaults.Allows (shown.Asks needs) (lock.releaseHead data)
      fun value => Timed shown need value.2.timeout value.2.expired :=
  (Lock.speaks_timed timed needed).releaseHead

end Locks

/-- What is kept of the times of a primitive as long as it lives. -/
def Factory.Fits (defaults : Defaults) : Factory → Primitive → Prop
  | .lock _ timeout expired, .lock self => Timed defaults ⟨timeout, 0, expired, 0⟩ self.timeout self.expired
  | .event _ timeout expired _, .event self =>
    Timed defaults ⟨timeout, 0, expired, 0⟩ self.lock.timeout self.lock.expired
  | .groupEvent _ _ _ timeout expired, .groupEvent self =>
    Timed defaults ⟨timeout, timeoutFlagLessLockVersionIsLockSucced, expired, 0⟩ self.lock.timeout self.lock.expired
  | .semaphore _ _ timeout expired, .semaphore self => self.timeout = timeout ∧ self.expired = expired
  | .reentrantLock _ timeout expired, .reentrantLock self =>
    Timed defaults ⟨timeout, 0, expired, 0⟩ self.lock.timeout self.lock.expired
  | .readWriteLock _ timeout expired, .readWriteLock self =>
    (self.timeout = timeout ∧ self.expired = expired) ∧
      ∀ lock ∈ self.writeLock :: self.readLocks, Timed defaults ⟨timeout, 0, expired, 0⟩ lock.timeout lock.expired
  | .priorityLock _ _ timeout expired, .priorityLock self =>
    Timed defaults ⟨timeout, timeoutFlagRcountIsPriority, expired, 0⟩ self.lock.timeout self.lock.expired
  | .maxConcurrentFlow _ _ timeout expired, .maxConcurrentFlow self =>
    Timed defaults ⟨timeout, 0, expired, 0⟩ self.lock.timeout self.lock.expired
  | .tokenBucketFlow _ _ timeout short rounded, .tokenBucketFlow self =>
    Timed defaults
      ⟨timeout, 0, TokenBucketFlow.period short rounded, if short then expriedFlagMillisecondTime else 0⟩
      self.lock.timeout self.lock.expired
  | .treeLock _ timeout expired, .treeLock self =>
    Timed defaults ⟨timeout, timeoutFlagRcountIsPriority, expired, 0⟩ self.lock.timeout self.lock.expired
  | .treeLock _ timeout expired, .treeLeafLock self =>
    ∀ lock ∈ [self.lock, self.treeLock.lock],
      Timed defaults ⟨timeout, timeoutFlagRcountIsPriority, expired, 0⟩ lock.timeout lock.expired
  | _, _ => False

section Calls

variable {defaults : Defaults} {needs : LockCommand → List Needs} {md5 : List UInt8 → Block 16} {database : Database}

theorem TreeLock.new_ensures {key : List UInt8} {timeout expired : UInt16} :
    Dialogue.Ensures defaults.Allows (defaults.Asks needs) (TreeLock.new md5 database key timeout expired)
      fun tree => Timed defaults ⟨timeout, timeoutFlagRcountIsPriority, expired, 0⟩ tree.lock.timeout
        tree.lock.expired :=
  Dialogue.ensures_bind Lock.new_ensures fun _ timed => Dialogue.ensures_pure timed.mergeTimeout

theorem Database.create_ensures (factory : Factory) :
    Dialogue.Ensures defaults.Allows (defaults.Asks needs) (database.create md5 factory) (factory.Fits defaults) := by
  cases factory with
  | lock key timeout expired => exact Dialogue.ensures_map Lock.new_ensures
  | event key timeout expired defaultSet =>
    exact Dialogue.ensures_map (Dialogue.ensures_bind Lock.new_ensures fun _ timed => Dialogue.ensures_pure timed)
  | groupEvent key clientId versionId timeout expired =>
    exact Dialogue.ensures_map
      (Dialogue.ensures_bind Lock.withLockId_ensures fun _ timed => Dialogue.ensures_pure timed.mergeTimeout)
  | semaphore key count timeout expired => exact Dialogue.ensures_pure ⟨rfl, rfl⟩
  | reentrantLock key timeout expired =>
    exact Dialogue.ensures_map (Dialogue.ensures_bind Lock.new_ensures fun _ timed => Dialogue.ensures_pure timed)
  | readWriteLock key timeout expired =>
    refine Dialogue.ensures_map (Dialogue.ensures_bind Lock.new_ensures fun _ timed => Dialogue.ensures_pure ?_)
    exact ⟨⟨rfl, rfl⟩, List.forall_mem_singleton.mpr timed⟩
  | priorityLock key priority timeout expired =>
    exact Dialogue.ensures_map
      (Dialogue.ensures_bind Lock.new_ensures fun _ timed => Dialogue.ensures_pure timed.mergeTimeout)
  | maxConcurrentFlow key max timeout expired =>
    exact Dialogue.ensures_map (Dialogue.ensures_bind Lock.new_ensures fun _ timed => Dialogue.ensures_pure timed)
  | tokenBucketFlow key count timeout short rounded =>
    refine Dialogue.ensures_map (Dialogue.ensures_bind Lock.new_ensures fun _ timed => ?_)
    cases short with
    | true => exact Dialogue.ensures_pure timed.mergeExpired
    | false => exact Dialogue.ensures_pure timed
  | treeLock key timeout expired => exact Dialogue.ensures_map TreeLock.new_ensures

/-- A call asks for what it needs, and keeps what is kept of the times. -/
def Keeps (md5 : List UInt8 → Block 16) (defaults : Defaults) (factory : Factory) (primitive : Primitive) : Prop :=
  ∀ call program, primitive.call md5 call = some program →
    Dialogue.Ensures defaults.Allows ((primitive.shown defaults call).Asks (primitive.needs factory.own call)) program
      (factory.Fits defaults)

variable {key : List UInt8} {timeout expired : UInt16}

theorem Lock.keeps {self : Lock} (fits : (Factory.lock key timeout expired).Fits defaults (.lock self)) :
    Keeps md5 defaults (.lock key timeout expired) (.lock self) := by
  have needed : LockCommand → (⟨timeout, 0, expired, 0⟩ : Needs) ∈ [(Factory.lock key timeout expired).own] :=
    fun _ => List.mem_singleton_self _
  intro call program operation
  cases call with
  | acquire | acquireWithFlags =>
    cases operation
    exact leaving_ensures (Lock.acquireWithFlags_ensures fits needed)
  | release | releaseWithFlags | releaseHeadToLockWait =>
    cases operation
    exact leaving_ensures (Lock.releaseWithFlags_ensures fits needed)
  | «show» =>
    cases operation
    exact leaving_ensures (Lock.show_ensures fits needed)
  | update =>
    cases operation
    exact leaving_ensures (Lock.update_ensures fits needed)
  | releaseHead =>
    cases operation
    exact leaving_ensures (Lock.releaseHead_ensures fits needed)
  | setCount | setRCount =>
    cases operation
    exact Dialogue.ensures_pure fits
  | _ => cases operation

section Wraps

variable {wrap : Lock → Primitive} {lock : Lock} {factory : Factory}

/-- What is kept of the times is what the lock inside needs. -/
theorem Primitive.Wraps.fits_own (wraps : Primitive.Wraps wrap) (fits : factory.Fits defaults (wrap lock))
    (later : Lock) :
    factory.Fits defaults (wrap later) ↔ Timed defaults factory.own later.timeout later.expired := by
  cases wraps with
  | reentrantLock =>
    cases factory with
    | reentrantLock => exact Iff.rfl
    | _ => exact False.elim fits
  | priorityLock =>
    cases factory with
    | priorityLock => exact Iff.rfl
    | _ => exact False.elim fits
  | maxConcurrentFlow =>
    cases factory with
    | maxConcurrentFlow => exact Iff.rfl
    | _ => exact False.elim fits
  | tokenBucketFlow =>
    cases factory with
    | tokenBucketFlow => exact Iff.rfl
    | _ => exact False.elim fits

theorem Primitive.Wraps.needs_eq (wraps : Primitive.Wraps wrap) {own : Needs} {call : Call} :
    (wrap lock).needs own call = fun _ => [own] := by
  cases wraps <;> rfl

theorem Primitive.Wraps.shown_eq (wraps : Primitive.Wraps wrap) {call : Call} :
    (wrap lock).shown defaults call = defaults := by
  cases wraps <;> rfl

theorem Primitive.Wraps.keeps (wraps : Primitive.Wraps wrap) (fits : factory.Fits defaults (wrap lock)) :
    Keeps md5 defaults factory (wrap lock) := by
  have timed : Timed defaults factory.own lock.timeout lock.expired := (wraps.fits_own fits lock).mp fits
  intro call program operation
  rw [wraps.needs_eq, wraps.shown_eq]
  exact wraps.call_ensures (Lock.speaks_timed timed fun _ => List.mem_singleton_self _).toTells
    (fun later => (wraps.fits_own fits later).mpr) operation

end Wraps

theorem Semaphore.keeps {self : Semaphore} {count : UInt16}
    (fits : (Factory.semaphore key count timeout expired).Fits defaults (.semaphore self)) :
    Keeps md5 defaults (.semaphore key count timeout expired) (.semaphore self) := by
  have needed : LockCommand → (Factory.semaphore key count timeout expired).own ∈ [(Factory.semaphore key count timeout expired).own] :=
    fun _ => List.mem_singleton_self _
  have fresh := fits
  obtain ⟨rfl, rfl⟩ := fresh
  intro call program operation
  cases call with
  | acquire =>
    cases operation
    refine leaving_ensures (Dialogue.ensures_bind Lock.new_ensures fun lock timed => ?_)
    have counted : Timed defaults _ (lock.setCount self.count).timeout (lock.setCount self.count).expired := timed
    refine Dialogue.ensures_bind (Lock.acquireWithFlags_ensures counted needed) ?_
    exact fun _ _ => Dialogue.ensures_pure fits
  | release =>
    cases operation
    refine leaving_ensures (Dialogue.ensures_bind Lock.withLockId_ensures fun lock timed => ?_)
    refine Dialogue.ensures_bind (Lock.releaseHead_ensures timed needed) ?_
    exact fun _ _ => Dialogue.ensures_pure fits
  | _ => cases operation

theorem ReadWriteLock.keeps {self : ReadWriteLock}
    (fits : (Factory.readWriteLock key timeout expired).Fits defaults (.readWriteLock self)) :
    Keeps md5 defaults (.readWriteLock key timeout expired) (.readWriteLock self) := by
  have needed : LockCommand → (Factory.readWriteLock key timeout expired).own ∈ [(Factory.readWriteLock key timeout expired).own] :=
    fun _ => List.mem_singleton_self _
  obtain ⟨⟨rfl, rfl⟩, locks⟩ := fits
  obtain ⟨write, reads⟩ := List.forall_mem_cons.mp locks
  intro call program operation
  cases call with
  | acquireWrite =>
    cases operation
    refine leaving_ensures (Dialogue.ensures_bind (Lock.acquireWithFlags_ensures write needed) fun _ later => ?_)
    exact Dialogue.ensures_pure ⟨⟨rfl, rfl⟩, List.forall_mem_cons.mpr ⟨later, reads⟩⟩
  | releaseWrite =>
    cases operation
    refine leaving_ensures (Dialogue.ensures_bind (Lock.releaseWithFlags_ensures write needed) fun _ later => ?_)
    exact Dialogue.ensures_pure ⟨⟨rfl, rfl⟩, List.forall_mem_cons.mpr ⟨later, reads⟩⟩
  | acquireRead =>
    cases operation
    refine leaving_ensures (Dialogue.ensures_bind Lock.new_ensures fun lock timed => ?_)
    have counted : Timed defaults _ (lock.setCount 0xffff).timeout (lock.setCount 0xffff).expired := timed
    refine Dialogue.ensures_bind (Lock.acquireWithFlags_ensures counted needed) ?_
    rintro ⟨outcome, taken⟩ later
    cases outcome with
    | error err => exact Dialogue.ensures_pure ⟨⟨rfl, rfl⟩, locks⟩
    | ok result =>
      refine Dialogue.ensures_pure ⟨⟨rfl, rfl⟩, List.forall_mem_cons.mpr ⟨write, ?_⟩⟩
      exact List.forall_mem_append.mpr ⟨reads, List.forall_mem_singleton.mpr later⟩
  | releaseRead =>
    cases operation
    refine leaving_ensures ?_
    unfold ReadWriteLock.releaseRead
    split
    · exact Dialogue.ensures_pure ⟨⟨rfl, rfl⟩, locks⟩
    · rename_i lock last
      refine Dialogue.ensures_bind (Lock.releaseWithFlags_ensures (reads lock (List.mem_of_getLast? last)) needed) ?_
      refine fun _ _ => Dialogue.ensures_pure ⟨⟨rfl, rfl⟩, List.forall_mem_cons.mpr ⟨write, ?_⟩⟩
      exact fun other member => reads other (List.dropLast_subset _ member)
  | _ => cases operation

theorem Event.checkLock_ensures (self : Event) (timeout : UInt16) :
    Dialogue.Ensures defaults.Allows ((self.shown defaults).Asks needs) (self.checkLock md5 timeout)
      fun lock => Timed (self.shown defaults)
        ⟨timeout, if self.defaultSet then 0 else timeoutFlagLockWaitWhenUnlock, 0, 0⟩ lock.timeout lock.expired := by
  refine Dialogue.ensures_bind Lock.new_ensures fun lock timed => ?_
  unfold Event.shown
  cases self.defaultSet with
  | true => exact Dialogue.ensures_pure timed
  | false =>
    refine Dialogue.ensures_pure ⟨?_, ?_, timed.expiredValue, timed.expiredFlags⟩
    · exact PackedTime.withFlags_value ..
    · exact (PackedTime.withFlags_flags ..).trans UInt16.zero_or.symm

theorem Event.eventLock_ensures {self : Event} {count : UInt16}
    (timed : Timed defaults ⟨timeout, 0, expired, 0⟩ self.lock.timeout self.lock.expired) :
    Dialogue.Ensures defaults.Allows (defaults.Asks needs) (self.eventLock md5 count)
      fun lock => Timed defaults ⟨timeout, 0, expired, 0⟩ lock.timeout lock.expired :=
  Lock.withLockId_again timed.timeoutValue timed.expiredValue

theorem Event.setWithData_ensures {self : Event} {data : Option LockData}
    (timed : Timed defaults ⟨timeout, 0, expired, 0⟩ self.lock.timeout self.lock.expired)
    (needed : ∀ command, ⟨timeout, 0, expired, 0⟩ ∈ needs command) :
    Dialogue.Ensures defaults.Allows (defaults.Asks needs) (self.setWithData md5 data)
      fun value => Timed defaults ⟨timeout, 0, expired, 0⟩ value.2.lock.timeout value.2.lock.expired := by
  unfold Event.setWithData
  split
  · refine Dialogue.ensures_bind (Event.eventLock_ensures timed) fun lock built => ?_
    exact Dialogue.ensures_bind (Lock.releaseWithFlags_ensures built needed) fun _ _ => Dialogue.ensures_pure timed
  · refine Dialogue.ensures_bind (Event.eventLock_ensures timed) fun lock built => ?_
    exact Dialogue.ensures_bind (Lock.update_ensures built needed) fun _ _ => Dialogue.ensures_pure timed

theorem Event.keeps {self : Event} {defaultSet : Bool}
    (fits : (Factory.event key timeout expired defaultSet).Fits defaults (.event self)) :
    Keeps md5 defaults (.event key timeout expired defaultSet) (.event self) := by
  have needed : LockCommand → (Factory.event key timeout expired defaultSet).own ∈ [(Factory.event key timeout expired defaultSet).own] :=
    fun _ => List.mem_singleton_self _
  have alone : ∀ need : Needs, LockCommand → need ∈ [need] := fun _ _ => List.mem_singleton_self _
  intro call program operation
  cases call with
  | isSet =>
    cases operation
    refine leaving_ensures (Dialogue.ensures_bind (Event.checkLock_ensures self 0) fun lock built => ?_)
    exact Dialogue.ensures_bind (Lock.acquireWithFlags_ensures built (alone _)) fun _ _ => Dialogue.ensures_pure fits
  | wait waitTimeout =>
    cases operation
    refine leaving_ensures (Dialogue.ensures_bind (Event.checkLock_ensures self waitTimeout) fun lock built => ?_)
    exact Dialogue.ensures_bind (Lock.acquireWithFlags_ensures built (alone _)) fun _ _ => Dialogue.ensures_pure fits
  | set =>
    cases operation
    exact leaving_ensures (Event.setWithData_ensures fits needed)
  | setWithData data =>
    cases operation
    exact leaving_ensures (Event.setWithData_ensures fits needed)
  | clear =>
    cases operation
    refine leaving_ensures ?_
    unfold Event.clear
    split
    · refine Dialogue.ensures_bind (Event.eventLock_ensures fits) fun lock built => ?_
      exact Dialogue.ensures_bind (Lock.update_ensures built needed) fun _ _ => Dialogue.ensures_pure fits
    · refine Dialogue.ensures_bind (Event.eventLock_ensures fits) fun lock built => ?_
      exact Dialogue.ensures_bind (Lock.releaseWithFlags_ensures built needed) fun _ _ => Dialogue.ensures_pure fits
  | _ => cases operation

theorem GroupEvent.keeps {self : GroupEvent} {clientId versionId : UInt64}
    (fits : (Factory.groupEvent key clientId versionId timeout expired).Fits defaults (.groupEvent self)) :
    Keeps md5 defaults (.groupEvent key clientId versionId timeout expired) (.groupEvent self) := by
  have needed : LockCommand → (Factory.groupEvent key clientId versionId timeout expired).own ∈ [(Factory.groupEvent key clientId versionId timeout expired).own] :=
    fun _ => List.mem_singleton_self _
  have timed : Timed defaults _ self.lock.timeout self.lock.expired := fits
  have alone : ∀ need : Needs, LockCommand → need ∈ [need] := fun _ _ => List.mem_singleton_self _
  intro call program operation
  cases call with
  | isSet =>
    cases operation
    refine leaving_ensures (Dialogue.ensures_bind Id16.new_ensures fun lockId _ => ?_)
    refine Dialogue.ensures_bind Lock.withLockId_ensures fun lock built => ?_
    exact Dialogue.ensures_bind (Lock.acquireWithFlags_ensures built (alone _)) fun _ _ => Dialogue.ensures_pure fits
  | set =>
    cases operation
    refine leaving_ensures (Dialogue.ensures_bind (Lock.withLockId_again timed.timeoutValue timed.expiredValue)
      fun lock built => ?_)
    exact Dialogue.ensures_bind (Lock.releaseHead_ensures built (alone _)) fun _ _ => Dialogue.ensures_pure fits
  | clear =>
    cases operation
    refine leaving_ensures (Dialogue.ensures_bind (Lock.withLockId_again timed.timeoutValue timed.expiredValue)
      fun lock built => ?_)
    have compared : Timed defaults _ (GroupEvent.comparing lock).timeout (GroupEvent.comparing lock).expired :=
      built.mergeTimeout
    exact Dialogue.ensures_bind (Lock.update_ensures compared needed) fun _ _ => Dialogue.ensures_pure fits
  | wakeup data =>
    cases operation
    refine leaving_ensures (Dialogue.ensures_bind (Lock.withLockId_again timed.timeoutValue timed.expiredValue)
      fun lock built => ?_)
    have compared : Timed defaults _ (GroupEvent.comparing lock).timeout (GroupEvent.comparing lock).expired :=
      built.mergeTimeout
    refine Dialogue.ensures_bind (Lock.releaseWithFlags_ensures compared needed) ?_
    rintro ⟨outcome, released⟩ _
    cases outcome <;> exact Dialogue.ensures_pure fits
  | wait waitTimeout =>
    cases operation
    refine leaving_ensures (Dialogue.ensures_bind Lock.withLockId_ensures fun lock built => ?_)
    have compared : Timed defaults _ (GroupEvent.comparing lock).timeout (GroupEvent.comparing lock).expired :=
      built.mergeTimeout
    refine Dialogue.ensures_bind (Lock.acquireWithFlags_ensures compared (alone _)) ?_
    rintro ⟨outcome, taken⟩ _
    cases outcome <;> exact Dialogue.ensures_pure fits
  | _ => cases operation

theorem TreeLock.loadChild_ensures {self : TreeLock}
    (fits : (Factory.treeLock key timeout expired).Fits defaults (.treeLock self)) {childKey : List UInt8} :
    Dialogue.Ensures defaults.Allows (defaults.Asks needs) (self.loadChild md5 childKey)
      fun child => (Factory.treeLock key timeout expired).Fits defaults (.treeLock child) := by
  have timed : Timed defaults _ self.lock.timeout self.lock.expired := fits
  refine Dialogue.ensures_bind TreeLock.new_ensures fun child built => ?_
  rw [timed.timeoutValue, timed.expiredValue] at built
  exact Dialogue.ensures_pure built

theorem TreeLock.loadLeafLock_ensures {self : TreeLock}
    (fits : (Factory.treeLock key timeout expired).Fits defaults (.treeLock self)) {lockId : Id16} :
    Dialogue.Ensures defaults.Allows (defaults.Asks needs) (self.loadLeafLock md5 lockId)
      fun leaf => (Factory.treeLock key timeout expired).Fits defaults (.treeLeafLock leaf) := by
  have timed : Timed defaults _ self.lock.timeout self.lock.expired := fits
  refine Dialogue.ensures_bind (Lock.withLockId_again timed.timeoutValue timed.expiredValue) fun lock built => ?_
  exact Dialogue.ensures_pure (List.forall_mem_cons.mpr ⟨built.mergeTimeout, List.forall_mem_singleton.mpr fits⟩)

theorem TreeLock.keeps {self : TreeLock}
    (fits : (Factory.treeLock key timeout expired).Fits defaults (.treeLock self)) :
    Keeps md5 defaults (.treeLock key timeout expired) (.treeLock self) := by
  have needed : LockCommand → (Factory.treeLock key timeout expired).own ∈ [(Factory.treeLock key timeout expired).own] :=
    fun _ => List.mem_singleton_self _
  have alone : ∀ need : Needs, LockCommand → need ∈ [need] := fun _ _ => List.mem_singleton_self _
  intro call program operation
  cases call with
  | acquire =>
    cases operation
    refine leaving_ensures (Dialogue.ensures_bind (Lock.acquireWithFlags_ensures fits needed) ?_)
    exact fun _ later => Dialogue.ensures_pure later
  | release =>
    cases operation
    refine leaving_ensures (Dialogue.ensures_bind (Lock.releaseWithFlags_ensures fits needed) ?_)
    exact fun _ later => Dialogue.ensures_pure later
  | wait waitTimeout =>
    cases operation
    refine leaving_ensures (Dialogue.ensures_bind Id16.new_ensures fun lockId _ => ?_)
    refine Dialogue.ensures_bind Lock.withLockId_ensures fun lock built => ?_
    exact Dialogue.ensures_bind (Lock.acquireWithFlags_ensures built (alone _)) fun _ _ => Dialogue.ensures_pure fits
  | newChild =>
    cases operation
    exact Dialogue.ensures_map (Dialogue.ensures_bind Id16.new_ensures fun _ _ => TreeLock.loadChild_ensures fits)
  | loadChild childKey =>
    cases operation
    exact Dialogue.ensures_map (TreeLock.loadChild_ensures fits)
  | newLeafLock =>
    cases operation
    exact Dialogue.ensures_map (Dialogue.ensures_bind Id16.new_ensures fun _ _ => TreeLock.loadLeafLock_ensures fits)
  | loadLeafLock lockId =>
    cases operation
    exact Dialogue.ensures_map (TreeLock.loadLeafLock_ensures fits)
  | _ => cases operation

section Leaf

variable {self : TreeLeafLock} {own check : Needs} {kept childKept parentKept : Lock → Prop}

theorem Lock.About.tells {lock : Lock} {target : Key16 × Id16} (about : lock.About defaults own target)
    (needed : ∀ command : LockCommand, command.target = target → own ∈ needs command) :
    lock.Tells (defaults.Asks needs) (Lock.About defaults own target) where
  newId := trivial
  send := fun _ _ _ _ => ⟨own, needed _ about.target, about.toTimed⟩
  keeps := fun _ => ⟨about.toTimed, about.target⟩

theorem releaseCheck_ensures {lock : Option Lock} (tells : ∀ taken ∈ lock, taken.Tells (defaults.Asks needs) kept) :
    Dialogue.Ensures defaults.Allows (defaults.Asks needs) (releaseCheck lock) fun _ => True := by
  cases lock with
  | none => exact Dialogue.ensures_pure trivial
  | some taken =>
    exact Dialogue.ensures_bind (tells taken rfl).releaseWithFlags fun _ _ => Dialogue.ensures_pure trivial

theorem TreeLeafLock.checkLock_ensures {checkKey lockId : Key16} {flags : UInt16}
    (timed : Timed defaults ⟨timeout, flags, expired, 0⟩ self.treeLock.lock.timeout self.treeLock.lock.expired) :
    Dialogue.Ensures defaults.Allows (defaults.Asks needs) (self.checkLock md5 checkKey lockId)
      (Lock.About defaults ⟨0, timeoutFlagRcountIsPriority, expired, 0⟩ (checkKey, ⟨lockId.bytes⟩)) := by
  refine Dialogue.ensures_bind Lock.withLockId_about fun lock built => ?_
  rw [Key16.new_bytes, timed.expiredValue] at built
  exact Dialogue.ensures_pure ⟨built.toTimed.mergeTimeout, built.target⟩

theorem TreeLeafLock.acquireOwn_ensures {childCheck parentCheck : Option Lock} (post : TreeLeafLock → Prop)
    (tells : self.lock.Tells (defaults.Asks needs) kept)
    (child : ∀ taken ∈ childCheck, taken.Tells (defaults.Asks needs) childKept)
    (parent : ∀ taken ∈ parentCheck, taken.Tells (defaults.Asks needs) parentKept)
    (holds : ∀ lock : Lock, kept lock → post { self with lock := lock }) :
    Dialogue.Ensures defaults.Allows (defaults.Asks needs) (self.acquireOwn childCheck parentCheck)
      fun value => post value.2 := by
  refine Dialogue.ensures_bind tells.acquireWithFlags ?_
  rintro ⟨outcome, lock⟩ later
  cases outcome with
  | ok result => exact Dialogue.ensures_pure (holds lock later)
  | error err =>
    refine Dialogue.ensures_bind (releaseCheck_ensures child) fun _ _ => ?_
    refine Dialogue.ensures_bind (releaseCheck_ensures parent) fun _ _ => ?_
    exact Dialogue.ensures_pure (holds lock later)

theorem TreeLeafLock.own_needed (command : LockCommand)
    (about : command.target = (self.lock.lockKey, self.lock.lockId)) : own ∈ self.needs own command :=
  List.mem_append_left _ (by rw [if_pos about]; exact List.mem_singleton_self own)

theorem TreeLeafLock.check_needed {target : Key16 × Id16} (checked : target ∈ self.checkTargets) (command : LockCommand)
    (about : command.target = target) : { own with timeout := 0 } ∈ self.needs own command :=
  List.mem_append_right _ (by rw [if_pos (about ▸ checked)]; exact List.mem_singleton_self _)

theorem TreeLeafLock.keeps (fits : (Factory.treeLock key timeout expired).Fits defaults (.treeLeafLock self)) :
    Keeps md5 defaults (.treeLock key timeout expired) (.treeLeafLock self) := by
  obtain ⟨timed, tree⟩ := List.forall_mem_cons.mp fits
  rw [List.forall_mem_singleton] at tree
  let post := fun leaf : TreeLeafLock => (Factory.treeLock key timeout expired).Fits defaults (.treeLeafLock leaf)
  have kept : ∀ lock : Lock, Timed defaults (Factory.treeLock key timeout expired).own lock.timeout lock.expired →
      post { self with lock := lock } :=
    fun lock later => List.forall_mem_cons.mpr ⟨later, List.forall_mem_singleton.mpr tree⟩
  intro call program operation
  cases call with
  | acquire =>
    cases operation
    let needs := self.needs (Factory.treeLock key timeout expired).own
    let check : Needs := ⟨0, timeoutFlagRcountIsPriority, expired, 0⟩
    have own : self.lock.Tells (defaults.Asks needs) (Lock.About defaults (Factory.treeLock key timeout expired).own
        (self.lock.lockKey, self.lock.lockId)) := Lock.About.tells ⟨timed, rfl⟩ TreeLeafLock.own_needed
    have checks : ∀ target ∈ self.checkTargets, ∀ lock : Lock, lock.About defaults check target →
        lock.Tells (defaults.Asks needs) (Lock.About defaults check target) :=
      fun _ checked _ about => about.tells (TreeLeafLock.check_needed checked)
    refine leaving_ensures ?_
    unfold TreeLeafLock.acquire
    split
    · have untaken : ∀ taken ∈ (none : Option Lock), taken.Tells (defaults.Asks needs) fun _ => True := by
        intro taken member
        cases member
      exact TreeLeafLock.acquireOwn_ensures post own untaken untaken fun lock later => kept lock later.toTimed
    · rename_i parentKey atParent
      have targets : self.checkTargets = [(self.treeLock.lock.lockKey, ⟨parentKey.bytes⟩),
          (parentKey, ⟨self.treeLock.lock.lockKey.bytes⟩)] := by rw [TreeLeafLock.checkTargets, atParent]
      rw [targets] at checks
      have ofChild := checks _ List.mem_cons_self
      have ofParent := checks _ (List.mem_cons_of_mem _ (List.mem_singleton_self _))
      refine Dialogue.ensures_bind (TreeLeafLock.checkLock_ensures tree) fun childCheck built => ?_
      refine Dialogue.ensures_bind (ofChild _ built).acquireWithFlags ?_
      rintro ⟨childOutcome, childCheck⟩ child
      have childTaken : ∀ taken ∈ some childCheck, taken.Tells (defaults.Asks needs)
          (Lock.About defaults check (self.treeLock.lock.lockKey, ⟨parentKey.bytes⟩)) := by
        rintro taken ⟨⟩
        exact ofChild _ child
      dsimp only
      split
      · exact Dialogue.ensures_pure fits
      · refine Dialogue.ensures_bind (TreeLeafLock.checkLock_ensures tree) fun parentCheck built => ?_
        refine Dialogue.ensures_bind (ofParent _ built).acquireWithFlags ?_
        rintro ⟨parentOutcome, parentCheck⟩ parent
        have parentTaken : ∀ taken ∈ some parentCheck, taken.Tells (defaults.Asks needs)
            (Lock.About defaults check (parentKey, ⟨self.treeLock.lock.lockKey.bytes⟩)) := by
          rintro taken ⟨⟩
          exact ofParent _ parent
        dsimp only
        split
        · refine Dialogue.ensures_bind (releaseCheck_ensures childTaken) fun _ _ => ?_
          exact Dialogue.ensures_pure fits
        · exact TreeLeafLock.acquireOwn_ensures post own childTaken parentTaken fun lock later => kept lock later.toTimed
  | release =>
    cases operation
    refine leaving_ensures
      (Dialogue.ensures_bind (Lock.releaseWithFlags_ensures timed fun _ => List.mem_singleton_self _) ?_)
    exact fun value later => Dialogue.ensures_pure (kept value.2 later)
  | _ => cases operation

end Leaf

theorem Factory.Fits.keeps {factory : Factory} {primitive : Primitive} (fits : factory.Fits defaults primitive) :
    Keeps md5 defaults factory primitive := by
  cases primitive with
  | lock self =>
    cases factory with
    | lock => exact Lock.keeps fits
    | _ => exact False.elim fits
  | event self =>
    cases factory with
    | event => exact Event.keeps fits
    | _ => exact False.elim fits
  | groupEvent self =>
    cases factory with
    | groupEvent => exact GroupEvent.keeps fits
    | _ => exact False.elim fits
  | semaphore self =>
    cases factory with
    | semaphore => exact Semaphore.keeps fits
    | _ => exact False.elim fits
  | reentrantLock self => exact (Primitive.Wraps.reentrantLock self).keeps fits
  | readWriteLock self =>
    cases factory with
    | readWriteLock => exact ReadWriteLock.keeps fits
    | _ => exact False.elim fits
  | priorityLock self => exact (Primitive.Wraps.priorityLock self).keeps fits
  | maxConcurrentFlow self => exact (Primitive.Wraps.maxConcurrentFlow self).keeps fits
  | tokenBucketFlow self => exact (Primitive.Wraps.tokenBucketFlow self).keeps fits
  | treeLock self =>
    cases factory with
    | treeLock => exact TreeLock.keeps fits
    | _ => exact False.elim fits
  | treeLeafLock self =>
    cases factory with
    | treeLock => exact TreeLeafLock.keeps fits
    | _ => exact False.elim fits

end Calls

section Runs

variable {md5 : List UInt8 → Block 16} {database : Database} {defaults : Defaults} {factory : Factory}
  {primitive after : Primitive} {call : Call} {program : Program Primitive}
  {said : Dialogue.Transcript Effect.Answer}

/-- Every call keeps what is kept of the times. -/
theorem Made.fits (made : Made md5 database defaults factory primitive) : factory.Fits defaults primitive := by
  induction made with
  | created talk kept =>
    have ensures : Dialogue.Ensures defaults.Allows (defaults.Asks fun _ => []) (database.create md5 factory)
        (factory.Fits defaults) := Database.create_ensures factory
    exact (ensures _ _ talk kept).2
  | called _ operation talk kept fits => exact (fits.keeps _ _ operation _ _ talk kept).2

/-- The commands of a dialogue are questions in it. -/
theorem mem_exchanges {exchange : Exchange} (member : exchange ∈ exchanges said) :
    (⟨.send (.lock exchange.command), exchange.answer⟩ : Σ effect : Effect, effect.Answer) ∈ said := by
  obtain ⟨entry, within, same⟩ := List.mem_filterMap.mp member
  split at same
  · cases same
    exact within
  · cases same

/-- A command carries the default flags, its own times, and what it needs. -/
def Carries (defaults : Defaults) (needs : LockCommand → List Needs) (command : LockCommand) : Prop :=
  ∃ need ∈ needs command, Timed defaults need command.timeout command.expired

theorem Made.carries_shown (made : Made md5 database defaults factory primitive)
    (operation : primitive.call md5 call = some program) (talk : Dialogue.Talk program said after)
    (kept : ∀ entry ∈ said, defaults.Allows entry.1 entry.2) :
    ∀ exchange ∈ exchanges said,
      Carries (primitive.shown defaults call) (primitive.needs factory.own call) exchange.command := by
  intro exchange member
  exact (made.fits.keeps _ _ operation _ _ talk kept).1 _ (mem_exchanges member)

/-- A call that overwrites the default flags sends a command. -/
theorem Primitive.Overwrites.sends (overwrites : primitive.Overwrites call)
    (operation : primitive.call md5 call = some program) (talk : Dialogue.Talk program said after) :
    ∃ exchange, exchange ∈ exchanges said := by
  cases primitive with
  | event self =>
    cases call with
    | isSet =>
      cases operation
      obtain ⟨front, _, back, rfl, runs, last⟩ := Dialogue.talk_bind.mp talk
      obtain ⟨exchange, atSaid, _⟩ := Event.isSet_talk runs
      exact ⟨exchange, by rw [exchanges_append, atSaid]; exact List.mem_append_left _ List.mem_cons_self⟩
    | wait timeout =>
      cases operation
      obtain ⟨front, _, back, rfl, runs, last⟩ := Dialogue.talk_bind.mp talk
      obtain ⟨exchange, atSaid, _⟩ := Event.wait_talk runs
      exact ⟨exchange, by rw [exchanges_append, atSaid]; exact List.mem_append_left _ List.mem_cons_self⟩
    | _ => exact False.elim overwrites
  | _ => exact False.elim overwrites

/-- A call that overwrites the default flags shows none of them, and needs a
flag of its own. -/
theorem Primitive.Overwrites.shown_needs (defaults : Defaults) (own : Needs) (overwrites : primitive.Overwrites call) :
    primitive.shown defaults call = { defaults with timeout := 0 } ∧
      ∃ timeout, primitive.needs own call = fun _ => [⟨timeout, timeoutFlagLockWaitWhenUnlock, 0, 0⟩] := by
  cases primitive with
  | event self =>
    cases call with
    | isSet =>
      have unset : self.defaultSet = false := overwrites
      exact ⟨by simp [Primitive.shown, Event.shown, unset], 0, by funext command; simp [Primitive.needs, unset]⟩
    | wait timeout =>
      have unset : self.defaultSet = false := overwrites
      exact ⟨by simp [Primitive.shown, Event.shown, unset], timeout, by funext command; simp [Primitive.needs, unset]⟩
    | _ => exact False.elim overwrites
  | _ => exact False.elim overwrites

theorem Primitive.shown_of_not_overwrites (other : ¬ primitive.Overwrites call) :
    primitive.shown defaults call = defaults := by
  unfold Primitive.shown
  split
  · rename_i self
    have set : self.defaultSet = true := by simpa [Primitive.Overwrites] using other
    rw [Event.shown, if_pos set]
  · rename_i self _
    have set : self.defaultSet = true := by simpa [Primitive.Overwrites] using other
    rw [Event.shown, if_pos set]
  · rfl

/-- Only where there is nothing to overwrite do the commands carry the default
flags all the same. -/
theorem Made.carries_overwritten_iff (made : Made md5 database defaults factory primitive)
    (overwrites : primitive.Overwrites call) (operation : primitive.call md5 call = some program)
    (talk : Dialogue.Talk program said after) (kept : ∀ entry ∈ said, defaults.Allows entry.1 entry.2) :
    (∀ exchange ∈ exchanges said, Carries defaults (primitive.needs factory.own call) exchange.command) ↔
      defaults.timeout ||| timeoutFlagLockWaitWhenUnlock = timeoutFlagLockWaitWhenUnlock := by
  have shown := made.carries_shown operation talk kept
  obtain ⟨hidden, timeout, alone⟩ := overwrites.shown_needs defaults factory.own
  rw [hidden, alone] at shown
  rw [alone]
  constructor
  · intro carries
    obtain ⟨exchange, member⟩ := overwrites.sends operation talk
    obtain ⟨need, only, timed⟩ := carries exchange member
    obtain ⟨need', only', timed'⟩ := shown exchange member
    obtain rfl := List.mem_singleton.mp only
    obtain rfl := List.mem_singleton.mp only'
    exact timed.timeoutFlags.symm.trans (timed'.timeoutFlags.trans UInt16.zero_or)
  · intro nothing exchange member
    obtain ⟨need, only, timed⟩ := shown exchange member
    obtain rfl := List.mem_singleton.mp only
    refine ⟨_, List.mem_singleton_self _, timed.timeoutValue, ?_, timed.expiredValue, timed.expiredFlags⟩
    exact timed.timeoutFlags.trans (UInt16.zero_or.trans nothing.symm)

/-- Every command carries the default flags of its database exactly if its call
does not overwrite them, or has nothing to overwrite. -/
theorem carries_iff (made : Made md5 database defaults factory primitive)
    (operation : primitive.call md5 call = some program) (talk : Dialogue.Talk program said after)
    (kept : ∀ entry ∈ said, defaults.Allows entry.1 entry.2) :
    (∀ exchange ∈ exchanges said, Carries defaults (primitive.needs factory.own call) exchange.command) ↔
      (primitive.Overwrites call →
        defaults.timeout ||| timeoutFlagLockWaitWhenUnlock = timeoutFlagLockWaitWhenUnlock) := by
  by_cases overwrites : primitive.Overwrites call
  · rw [made.carries_overwritten_iff overwrites operation talk kept]
    exact ⟨fun nothing _ => nothing, fun nothing => nothing overwrites⟩
  · have shown := made.carries_shown operation talk kept
    rw [Primitive.shown_of_not_overwrites overwrites] at shown
    exact iff_of_true shown fun overwriting => absurd overwriting overwrites

end Runs

/-- A database that keeps its default flags and is not connected. -/
def Defaults.steady (defaults : Defaults) : Dialogue.Partner Effect.Answer
  | _, .send _ => .error .notConnected
  | _, .newId => .zero
  | _, .defaultTimeoutFlags => defaults.timeout
  | _, .defaultExpiredFlags => defaults.expired

theorem Defaults.steady_allowed (defaults : Defaults) (past : Dialogue.Transcript Effect.Answer) (effect : Effect) :
    defaults.Allows effect (defaults.steady past effect) := by
  cases effect with
  | send | newId => trivial
  | defaultTimeoutFlags | defaultExpiredFlags => rfl

/-- Times in milliseconds. -/
def inMilliseconds : Defaults := ⟨0x0400, 0x0400⟩

/-- What a steady database makes. -/
def steadily (factory : Factory) : Primitive :=
  (Dialogue.run inMilliseconds.steady [] (Database.create noDigest ⟨0⟩ factory)).2

theorem steadily_allowed (program : Program Primitive) :
    ∀ entry ∈ (Dialogue.run inMilliseconds.steady [] program).1, inMilliseconds.Allows entry.1 entry.2 :=
  Dialogue.allowed_of_run inMilliseconds.steady_allowed [] program

theorem steadily_made (factory : Factory) : Made noDigest ⟨0⟩ inMilliseconds factory (steadily factory) :=
  .created (Dialogue.Talk.of_run _ _ _) (steadily_allowed _)

/-- An event that is unset by default is waited for seconds, not milliseconds. -/
theorem waitedEvent_not_carries :
    ¬ ∀ (md5 : List UInt8 → Block 16) (database : Database) (defaults : Defaults) (factory : Factory)
      (primitive after : Primitive) (call : Call) (program : Program Primitive)
      (said : Dialogue.Transcript Effect.Answer), Made md5 database defaults factory primitive →
      primitive.call md5 call = some program → Dialogue.Talk program said after →
      (∀ entry ∈ said, defaults.Allows entry.1 entry.2) →
      ∀ exchange ∈ exchanges said, Carries defaults (primitive.needs factory.own call) exchange.command := by
  intro claim
  have made := steadily_made (.event [1] 5 10 false)
  have carries := claim _ _ _ _ _ _ (.wait 100) _ _ made rfl (Dialogue.Talk.of_run _ _ _) (steadily_allowed _)
  have overwrites : (steadily (.event [1] 5 10 false)).Overwrites (.wait 100) := rfl
  have nothing :=
    (made.carries_overwritten_iff overwrites rfl (Dialogue.Talk.of_run _ _ _) (steadily_allowed _)).mp carries
  exact absurd nothing (by decide)

/-- What is said when a lock with a priority is acquired. -/
def priorityAcquired : Dialogue.Transcript Effect.Answer :=
  (Dialogue.run inMilliseconds.steady []
    (leaving .priorityLock (Dialogue.run inMilliseconds.steady [] (PriorityLock.new noDigest ⟨0⟩ [1] 5 10 7)).2.acquire)).1

theorem carries_priorityLock :
    (exchanges priorityAcquired).length = 1 ∧ ∀ exchange ∈ exchanges priorityAcquired,
      Carries inMilliseconds (fun _ => [⟨5, timeoutFlagRcountIsPriority, 10, 0⟩]) exchange.command :=
  ⟨rfl, (@carries_iff _ _ _ _ _ _ .acquire _ _ (steadily_made (.priorityLock [1] 7 5 10)) rfl (Dialogue.Talk.of_run _ _ _)
    (steadily_allowed _)).mpr False.elim⟩

end Ruslock
