import Ruslock.Event
import Ruslock.LockVariants
import Ruslock.TreeLeafLock

namespace Ruslock
open Wire

/-- Every primitive that a database makes. -/
inductive Primitive
  | lock (self : Lock)
  | event (self : Event)
  | groupEvent (self : GroupEvent)
  | semaphore (self : Semaphore)
  | reentrantLock (self : ReentrantLock)
  | readWriteLock (self : ReadWriteLock)
  | priorityLock (self : PriorityLock)
  | maxConcurrentFlow (self : MaxConcurrentFlow)
  | tokenBucketFlow (self : TokenBucketFlow)
  | treeLock (self : TreeLock)
  | treeLeafLock (self : TreeLeafLock)

/-- The ways in which a database makes a primitive, with their arguments. -/
inductive Factory
  | lock (key : List UInt8) (timeout expired : UInt16)
  | event (key : List UInt8) (timeout expired : UInt16) (defaultSet : Bool)
  | groupEvent (key : List UInt8) (clientId versionId : UInt64) (timeout expired : UInt16)
  | semaphore (key : List UInt8) (count timeout expired : UInt16)
  | reentrantLock (key : List UInt8) (timeout expired : UInt16)
  | readWriteLock (key : List UInt8) (timeout expired : UInt16)
  | priorityLock (key : List UInt8) (priority : UInt8) (timeout expired : UInt16)
  | maxConcurrentFlow (key : List UInt8) (max timeout expired : UInt16)
  | tokenBucketFlow (key : List UInt8) (count timeout : UInt16) (short : Bool) (rounded : UInt16)
  | treeLock (key : List UInt8) (timeout expired : UInt16)

def Database.create (md5 : List UInt8 → Block 16) (database : Database) : Factory → Program Primitive
  | .lock key timeout expired => .lock <$> Lock.new md5 database key timeout expired
  | .event key timeout expired defaultSet => .event <$> Event.new md5 database key timeout expired defaultSet
  | .groupEvent key clientId versionId timeout expired =>
    .groupEvent <$> GroupEvent.new md5 database key clientId versionId timeout expired
  | .semaphore key count timeout expired => pure (.semaphore (Semaphore.new database key timeout expired count))
  | .reentrantLock key timeout expired => .reentrantLock <$> ReentrantLock.new md5 database key timeout expired
  | .readWriteLock key timeout expired => .readWriteLock <$> ReadWriteLock.new md5 database key timeout expired
  | .priorityLock key priority timeout expired =>
    .priorityLock <$> PriorityLock.new md5 database key timeout expired priority
  | .maxConcurrentFlow key max timeout expired =>
    .maxConcurrentFlow <$> MaxConcurrentFlow.new md5 database key timeout expired max
  | .tokenBucketFlow key count timeout short rounded =>
    .tokenBucketFlow <$> TokenBucketFlow.new md5 database key timeout count short rounded
  | .treeLock key timeout expired => .treeLock <$> TreeLock.new md5 database key timeout expired

/-- The calls that primitives take. -/
inductive Call
  | acquire
  | release
  | acquireWithFlags (flag : UInt8) (data : Option LockData)
  | releaseWithFlags (flag : UInt8) (data : Option LockData)
  | show
  | update (data : Option LockData)
  | releaseHead (data : Option LockData)
  | releaseHeadToLockWait (data : Option LockData)
  | setCount (count : UInt16)
  | setRCount (rCount : UInt8)
  | isSet
  | set
  | setWithData (data : Option LockData)
  | clear
  | wait (timeout : UInt16)
  | wakeup (data : Option LockData)
  | acquireWrite
  | releaseWrite
  | acquireRead
  | releaseRead
  | newChild
  | loadChild (key : List UInt8)
  | newLeafLock
  | loadLeafLock (lockId : Id16)

/-- A call, of which only what it leaves behind matters. -/
def leaving {Outcome Self : Type} (wrap : Self → Primitive) (program : Program (Outcome × Self)) : Program Primitive := do
  let (_, self) ← program
  pure (wrap self)

/-- The call of a primitive: what it leaves behind, or the primitive that it
returns. A clone, such as the lock of a guard, is the primitive itself. -/
def Primitive.call (md5 : List UInt8 → Block 16) : Primitive → Call → Option (Program Primitive)
  | .lock self, .acquire => some (leaving .lock self.acquire)
  | .lock self, .release => some (leaving .lock self.release)
  | .lock self, .acquireWithFlags flag data => some (leaving .lock (self.acquireWithFlags flag data))
  | .lock self, .releaseWithFlags flag data => some (leaving .lock (self.releaseWithFlags flag data))
  | .lock self, .show => some (leaving .lock self.show)
  | .lock self, .update data => some (leaving .lock (self.update data))
  | .lock self, .releaseHead data => some (leaving .lock (self.releaseHead data))
  | .lock self, .releaseHeadToLockWait data => some (leaving .lock (self.releaseHeadToLockWait data))
  | .lock self, .setCount count => some (pure (.lock (self.setCount count)))
  | .lock self, .setRCount rCount => some (pure (.lock (self.setRCount rCount)))
  | .event self, .isSet => some (leaving .event (self.isSet md5))
  | .event self, .set => some (leaving .event (self.set md5))
  | .event self, .setWithData data => some (leaving .event (self.setWithData md5 data))
  | .event self, .clear => some (leaving .event (self.clear md5))
  | .event self, .wait timeout => some (leaving .event (self.wait md5 timeout))
  | .groupEvent self, .isSet => some (leaving .groupEvent (self.isSet md5))
  | .groupEvent self, .set => some (leaving .groupEvent (self.set md5))
  | .groupEvent self, .clear => some (leaving .groupEvent (self.clear md5))
  | .groupEvent self, .wakeup data => some (leaving .groupEvent (self.wakeup md5 data))
  | .groupEvent self, .wait timeout => some (leaving .groupEvent (self.wait md5 timeout))
  | .semaphore self, .acquire => some (leaving .semaphore (self.acquire md5))
  | .semaphore self, .release => some (leaving .semaphore (self.release md5))
  | .reentrantLock self, .acquire => some (leaving .reentrantLock self.acquire)
  | .reentrantLock self, .release => some (leaving .reentrantLock self.release)
  | .readWriteLock self, .acquireWrite => some (leaving .readWriteLock self.acquireWrite)
  | .readWriteLock self, .releaseWrite => some (leaving .readWriteLock self.releaseWrite)
  | .readWriteLock self, .acquireRead => some (leaving .readWriteLock (self.acquireRead md5))
  | .readWriteLock self, .releaseRead => some (leaving .readWriteLock self.releaseRead)
  | .priorityLock self, .acquire => some (leaving .priorityLock self.acquire)
  | .priorityLock self, .release => some (leaving .priorityLock self.release)
  | .maxConcurrentFlow self, .acquire => some (leaving .maxConcurrentFlow self.acquire)
  | .maxConcurrentFlow self, .release => some (leaving .maxConcurrentFlow self.release)
  | .tokenBucketFlow self, .acquire => some (leaving .tokenBucketFlow self.acquire)
  | .treeLock self, .acquire => some (leaving .treeLock self.acquire)
  | .treeLock self, .release => some (leaving .treeLock self.release)
  | .treeLock self, .wait timeout => some (leaving .treeLock (self.wait md5 timeout))
  | .treeLock self, .newChild => some (.treeLock <$> self.newChild md5)
  | .treeLock self, .loadChild key => some (.treeLock <$> self.loadChild md5 key)
  | .treeLock self, .newLeafLock => some (.treeLeafLock <$> self.newLeafLock md5)
  | .treeLock self, .loadLeafLock lockId => some (.treeLeafLock <$> self.loadLeafLock md5 lockId)
  | .treeLeafLock self, .acquire => some (leaving .treeLeafLock (self.acquire md5))
  | .treeLeafLock self, .release => some (leaving .treeLeafLock self.release)
  | _, _ => none

/-- The primitives that are a lock with a setting of their own. -/
inductive Primitive.Wraps : (Lock → Primitive) → Prop
  | reentrantLock (self : ReentrantLock) : Wraps fun lock => .reentrantLock { self with lock := lock }
  | priorityLock (self : PriorityLock) : Wraps fun lock => .priorityLock { self with lock := lock }
  | maxConcurrentFlow (self : MaxConcurrentFlow) : Wraps fun lock => .maxConcurrentFlow { self with lock := lock }
  | tokenBucketFlow (self : TokenBucketFlow) : Wraps fun lock => .tokenBucketFlow { self with lock := lock }

theorem talk_leaving {Outcome Self : Type} {wrap : Self → Primitive} {program : Program (Outcome × Self)}
    {said : Dialogue.Transcript Effect.Answer} {after : Primitive}
    (talk : Dialogue.Talk (leaving wrap program) said after) :
    ∃ value, Dialogue.Talk program said value ∧ after = wrap value.2 := by
  obtain ⟨front, value, back, rfl, runs, last⟩ := Dialogue.talk_bind.mp talk
  obtain ⟨rfl, rfl⟩ := Dialogue.talk_pure.mp last
  exact ⟨value, by rwa [List.append_nil], rfl⟩

section Ensures

variable {allows : (effect : Effect) → effect.Answer → Prop} {asks : Effect → Prop} {keeps : Lock → Prop} {lock : Lock}

/-- A call is over when its program is. -/
theorem leaving_ensures {Outcome Self : Type} {wrap : Self → Primitive} {program : Program (Outcome × Self)}
    {post : Primitive → Prop} (holds : Dialogue.Ensures allows asks program fun value => post (wrap value.2)) :
    Dialogue.Ensures allows asks (leaving wrap program) post :=
  Dialogue.ensures_bind holds fun _ later => Dialogue.ensures_pure later

/-- A lock that sends such commands only under its own id, and stays as it
should be whatever data it is left with. -/
structure Lock.Tells (asks : Effect → Prop) (keeps : Lock → Prop) (lock : Lock) : Prop where
  newId : asks .newId
  send : ∀ commandType flag data requestId,
    asks (.send (.lock (lock.command commandType flag lock.lockId data requestId)))
  keeps : ∀ data, keeps { lock with currentData := data }

/-- The same for the command that releases whoever holds the lock. -/
structure Lock.Speaks (asks : Effect → Prop) (keeps : Lock → Prop) (lock : Lock) : Prop extends
    Lock.Tells asks keeps lock where
  sendHead : ∀ commandType flag data requestId,
    asks (.send (.lock (lock.command commandType flag .zero data requestId)))

theorem sendLock_ensures {commandType flag : UInt8} {lockId : Id16} {data : Option LockData} (newId : asks .newId)
    (send : ∀ requestId, asks (.send (.lock (lock.command commandType flag lockId data requestId)))) :
    Dialogue.Ensures allows asks (lock.sendLock commandType flag lockId data) fun _ => True := by
  refine Dialogue.ensures_bind (Dialogue.ensures_question newId fun _ _ => trivial) fun requestId _ => ?_
  refine Dialogue.ensures_bind (Dialogue.ensures_question (send requestId) fun _ _ => trivial) ?_
  exact fun answer _ => Dialogue.ensures_pure trivial

section Tells

variable (tells : lock.Tells asks keeps)

include tells

theorem Lock.Tells.finish (outcome : Outcome LockCommandResult) : keeps (lock.finish outcome).2 := by
  cases outcome with
  | error err => exact tells.keeps lock.currentData
  | ok result => exact tells.keeps result.data

theorem Lock.Tells.acquireWithFlags {flag : UInt8} {data : Option LockData} :
    Dialogue.Ensures allows asks (lock.acquireWithFlags flag data) fun value => keeps value.2 :=
  Dialogue.ensures_bind (sendLock_ensures tells.newId (tells.send _ _ _)) fun outcome _ =>
    Dialogue.ensures_pure (tells.finish outcome)

theorem Lock.Tells.releaseWithFlags {flag : UInt8} {data : Option LockData} :
    Dialogue.Ensures allows asks (lock.releaseWithFlags flag data) fun value => keeps value.2 :=
  Dialogue.ensures_bind (sendLock_ensures tells.newId (tells.send _ _ _)) fun outcome _ =>
    Dialogue.ensures_pure (tells.finish outcome)

theorem Lock.Tells.show : Dialogue.Ensures allows asks lock.show fun value => keeps value.2 := by
  refine Dialogue.ensures_bind tells.acquireWithFlags ?_
  rintro ⟨outcome, lock⟩ later
  dsimp only
  split <;> exact Dialogue.ensures_pure later

theorem Lock.Tells.update {data : Option LockData} :
    Dialogue.Ensures allows asks (lock.update data) fun value => keeps value.2 :=
  Dialogue.ensures_bind tells.acquireWithFlags fun _ later => Dialogue.ensures_pure later

/-- A call of a primitive that passes on to the lock inside. -/
theorem Primitive.Wraps.call_ensures {wrap : Lock → Primitive} {md5 : List UInt8 → Block 16} {call : Call}
    {program : Program Primitive} {post : Primitive → Prop} (wraps : Primitive.Wraps wrap)
    (holds : ∀ later, keeps later → post (wrap later)) (operation : (wrap lock).call md5 call = some program) :
    Dialogue.Ensures allows asks program post := by
  cases wraps with
  | reentrantLock | priorityLock | maxConcurrentFlow =>
    cases call with
    | acquire =>
      cases operation
      refine leaving_ensures (Dialogue.ensures_bind tells.acquireWithFlags fun _ later => ?_)
      exact Dialogue.ensures_pure (holds _ later)
    | release =>
      cases operation
      refine leaving_ensures (Dialogue.ensures_bind tells.releaseWithFlags fun _ later => ?_)
      exact Dialogue.ensures_pure (holds _ later)
    | _ => cases operation
  | tokenBucketFlow =>
    cases call with
    | acquire =>
      cases operation
      refine leaving_ensures (Dialogue.ensures_bind tells.acquireWithFlags fun _ later => ?_)
      exact Dialogue.ensures_pure (holds _ later)
    | _ => cases operation

end Tells

theorem Lock.Speaks.releaseHead (speaks : lock.Speaks asks keeps) {data : Option LockData} :
    Dialogue.Ensures allows asks (lock.releaseHead data) fun value => keeps value.2 :=
  Dialogue.ensures_bind (sendLock_ensures speaks.newId (speaks.sendHead _ _ _)) fun outcome _ =>
    Dialogue.ensures_pure (speaks.finish outcome)

end Ensures

end Ruslock
