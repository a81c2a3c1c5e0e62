import Ruslock.DefaultFlags

namespace Ruslock
open Wire

/-- The keys that a primitive is about: its own, and for the child of a tree
that of its parent. -/
structure Place where
  own : Key16
  parent : Option Key16
  deriving DecidableEq

/-- The key that a primitive is created with. -/
def Factory.key : Factory → List UInt8
  | .lock key _ _ => key
  | .event key _ _ _ => key
  | .groupEvent key _ _ _ _ => key
  | .semaphore key _ _ _ => key
  | .reentrantLock key _ _ => key
  | .readWriteLock key _ _ => key
  | .priorityLock key _ _ _ => key
  | .maxConcurrentFlow key _ _ _ => key
  | .tokenBucketFlow key _ _ _ _ => key
  | .treeLock key _ _ => key

section Place

variable (md5 : List UInt8 → Block 16)

/-- The place of a child that is made with a key. -/
def Place.child (place : Place) (key : List UInt8) : Place := ⟨.new md5 key, some place.own⟩

/-- The place of what a call returns or leaves behind. The key of a new child is
the first thing that is asked for. -/
def Place.after (place : Place) : Call → Dialogue.Transcript Effect.Answer → Place
  | .loadChild key, _ => place.child md5 key
  | .newChild, ⟨.newId, key⟩ :: _ => place.child md5 key.bytes.toList
  | _, _ => place

/-- The primitives that come of a key and of calls, with their places. -/
inductive Reached (database : Database) : Primitive → Place → Prop
  | created {factory said primitive} : Dialogue.Talk (database.create md5 factory) said primitive →
      Reached database primitive ⟨.new md5 factory.key, none⟩
  | called {before place call program said after} : Reached database before place →
      before.call md5 call = some program → Dialogue.Talk program said after →
      Reached database after (place.after md5 call said)

end Place

/-- The keys that a primitive may send commands for. -/
def Primitive.keys (place : Place) : Primitive → List Key16
  | .treeLeafLock _ => place.own :: place.parent.toList
  | _ => [place.own]

/-- Only lock commands for these keys are sent. -/
def AsksFor (keys : List Key16) : Effect → Prop
  | .send command => ∃ lockCommand : LockCommand, command = .lock lockCommand ∧ lockCommand.lockKey ∈ keys
  | _ => True

/-- The keys inside a primitive, raw or normalised, are those of its place. -/
def Primitive.Fits (md5 : List UInt8 → Block 16) (place : Place) : Primitive → Prop
  | .lock self => self.lockKey = place.own
  | .event self => self.lock.lockKey = place.own
  | .groupEvent self => self.lock.lockKey = place.own
  | .semaphore self => Key16.new md5 self.key = place.own
  | .reentrantLock self => self.lock.lockKey = place.own
  | .readWriteLock self =>
    Key16.new md5 self.key = place.own ∧ ∀ lock ∈ self.writeLock :: self.readLocks, lock.lockKey = place.own
  | .priorityLock self => self.lock.lockKey = place.own
  | .maxConcurrentFlow self => self.lock.lockKey = place.own
  | .tokenBucketFlow self => self.lock.lockKey = place.own
  | .treeLock self => self.lock.lockKey = place.own ∧ self.parentKey = place.parent
  | .treeLeafLock self =>
    self.lock.lockKey = place.own ∧ self.treeLock.lock.lockKey = place.own ∧ self.treeLock.parentKey = place.parent

/-- A key that is normalised is not changed by normalising it again. -/
theorem Key16.new_idempotent (md5 : List UInt8 → Block 16) (key : List UInt8) :
    Key16.new md5 (Key16.new md5 key).bytes.toList = Key16.new md5 key :=
  Key16.new_bytes md5 _

/-- What a program does, whatever it is answered. -/
def Does {α : Type} (asks : Effect → Prop) (program : Program α) (post : α → Prop) : Prop :=
  Dialogue.Ensures (fun _ _ => True) asks program post

theorem Does.talk {α : Type} {asks : Effect → Prop} {program : Program α} {post : α → Prop}
    {said : Dialogue.Transcript Effect.Answer} {value : α} (does : Does asks program post)
    (talk : Dialogue.Talk program said value) : (∀ entry ∈ said, asks entry.1) ∧ post value :=
  does said value talk fun _ _ => trivial

section Locks

variable {md5 : List UInt8 → Block 16} {keys : List Key16} {own : Key16} {database : Database} {key : List UInt8}
  {timeout expired count : UInt16} {rCount : UInt8} {lockId : Id16} {lock : Lock}

theorem Id16.new_asksFor : Does (AsksFor keys) Id16.new fun _ => True :=
  Dialogue.ensures_question trivial fun _ _ => trivial

theorem Database.timeout_asksFor : Does (AsksFor keys) (database.timeout timeout) fun _ => True :=
  Dialogue.ensures_bind (Dialogue.ensures_question trivial fun _ _ => trivial) fun _ (_ : True) =>
    Dialogue.ensures_pure trivial

theorem Database.expired_asksFor : Does (AsksFor keys) (database.expired expired) fun _ => True :=
  Dialogue.ensures_bind (Dialogue.ensures_question trivial fun _ _ => trivial) fun _ (_ : True) =>
    Dialogue.ensures_pure trivial

theorem Lock.new_asksFor (normal : Key16.new md5 key = own) :
    Does (AsksFor keys) (Lock.new md5 database key timeout expired) (·.lockKey = own) := by
  refine Dialogue.ensures_bind Database.timeout_asksFor fun _ _ => ?_
  refine Dialogue.ensures_bind Database.expired_asksFor fun _ _ => ?_
  exact Dialogue.ensures_bind Id16.new_asksFor fun lockId _ => Dialogue.ensures_pure normal

theorem Lock.withLockId_asksFor (normal : Key16.new md5 key = own) :
    Does (AsksFor keys) (Lock.withLockId md5 database key lockId timeout expired count rCount) (·.lockKey = own) := by
  refine Dialogue.ensures_bind Database.timeout_asksFor fun _ _ => ?_
  exact Dialogue.ensures_bind Database.expired_asksFor fun _ _ => Dialogue.ensures_pure normal

/-- A lock that is built again from the key of another is about the same key. -/
theorem Lock.withLockId_asksFor_again (fits : lock.lockKey = own) :
    Does (AsksFor keys) (Lock.withLockId md5 database lock.lockKey.bytes.toList lockId timeout expired count rCount)
      (·.lockKey = own) :=
  Lock.withLockId_asksFor ((Key16.new_bytes md5 _).trans fits)

theorem Lock.speaks_key (fits : lock.lockKey = own) (allowed : own ∈ keys) :
    lock.Speaks (AsksFor keys) (·.lockKey = own) := by
  rw [← fits] at allowed
  exact ⟨⟨trivial, fun _ _ _ _ => ⟨_, rfl, allowed⟩, fun _ => fits⟩, fun _ _ _ _ => ⟨_, rfl, allowed⟩⟩

end Locks

section Calls

variable {md5 : List UInt8 → Block 16} {place : Place} {database : Database}

theorem TreeLock.new_asksFor {keys : List Key16} {key : List UInt8} {timeout expired : UInt16} :
    Does (AsksFor keys) (TreeLock.new md5 database key timeout expired)
      fun tree => tree.lock.lockKey = Key16.new md5 key ∧ tree.parentKey = none :=
  Dialogue.ensures_bind (Lock.new_asksFor rfl) fun _ fits => Dialogue.ensures_pure ⟨fits, rfl⟩

/-- A primitive is created at the place of its key. -/
theorem Database.create_fits (factory : Factory) :
    Does (AsksFor []) (database.create md5 factory) (Primitive.Fits md5 ⟨.new md5 factory.key, none⟩) := by
  cases factory with
  | lock => exact Dialogue.ensures_map (Lock.new_asksFor rfl)
  | event | reentrantLock | priorityLock | maxConcurrentFlow =>
    exact Dialogue.ensures_map
      (Dialogue.ensures_bind (Lock.new_asksFor rfl) fun _ fits => Dialogue.ensures_pure fits)
  | groupEvent =>
    exact Dialogue.ensures_map
      (Dialogue.ensures_bind (Lock.withLockId_asksFor rfl) fun _ fits => Dialogue.ensures_pure fits)
  | semaphore => exact Dialogue.ensures_pure rfl
  | readWriteLock =>
    refine Dialogue.ensures_map (Dialogue.ensures_bind (Lock.new_asksFor rfl) fun _ fits => Dialogue.ensures_pure ?_)
    exact ⟨rfl, List.forall_mem_singleton.mpr fits⟩
  | tokenBucketFlow key count timeout short rounded =>
    refine Dialogue.ensures_map (Dialogue.ensures_bind (Lock.new_asksFor rfl) fun _ fits => ?_)
    cases short with
    | true => exact Dialogue.ensures_pure fits
    | false => exact Dialogue.ensures_pure fits
  | treeLock => exact Dialogue.ensures_map TreeLock.new_asksFor

/-- A call sends commands for the keys of its primitive only, and what it leaves
behind or returns is at the place of the primitive. -/
def Stays (md5 : List UInt8 → Block 16) (place : Place) (primitive : Primitive) : Prop :=
  ∀ call program, primitive.call md5 call = some program →
    Does (AsksFor (primitive.keys place)) program (Primitive.Fits md5 place)

theorem Lock.stays {self : Lock} (fits : (Primitive.lock self).Fits md5 place) : Stays md5 place (.lock self) := by
  have speaks : self.Speaks (AsksFor [place.own]) (·.lockKey = place.own) :=
    Lock.speaks_key fits (List.mem_singleton_self _)
  intro call program operation
  cases call with
  | acquire | acquireWithFlags =>
    cases operation
    exact leaving_ensures speaks.acquireWithFlags
  | release | releaseWithFlags | releaseHeadToLockWait =>
    cases operation
    exact leaving_ensures speaks.releaseWithFlags
  | «show» =>
    cases operation
    exact leaving_ensures speaks.show
  | update =>
    cases operation
    exact leaving_ensures speaks.update
  | releaseHead =>
    cases operation
    exact leaving_ensures speaks.releaseHead
  | setCount | setRCount =>
    cases operation
    exact Dialogue.ensures_pure fits
  | _ => cases operation

section Wraps

variable {wrap : Lock → Primitive} {lock : Lock}

theorem Primitive.Wraps.fits_iff (wraps : Primitive.Wraps wrap) :
    (wrap lock).Fits md5 place ↔ lock.lockKey = place.own := by
  cases wraps <;> exact Iff.rfl

theorem Primitive.Wraps.keys_eq (wraps : Primitive.Wraps wrap) : (wrap lock).keys place = [place.own] := by
  cases wraps <;> rfl

theorem Primitive.Wraps.stays (wraps : Primitive.Wraps wrap) (fits : (wrap lock).Fits md5 place) :
    Stays md5 place (wrap lock) := by
  have speaks : lock.Speaks (AsksFor [place.own]) (·.lockKey = place.own) :=
    Lock.speaks_key (wraps.fits_iff.mp fits) (List.mem_singleton_self _)
  intro call program operation
  rw [wraps.keys_eq]
  exact wraps.call_ensures speaks.toTells (fun _ => wraps.fits_iff.mpr) operation

end Wraps

variable {keys : List Key16}

theorem Semaphore.stays {self : Semaphore} (fits : (Primitive.semaphore self).Fits md5 place) :
    Stays md5 place (.semaphore self) := by
  have allowed := List.mem_singleton_self place.own
  intro call program operation
  cases call with
  | acquire =>
    cases operation
    refine leaving_ensures (Dialogue.ensures_bind (Lock.new_asksFor fits) fun lock own => ?_)
    have counted : (lock.setCount self.count).lockKey = place.own := own
    exact Dialogue.ensures_bind (Lock.speaks_key counted allowed).acquireWithFlags fun _ _ =>
      Dialogue.ensures_pure fits
  | release =>
    cases operation
    refine leaving_ensures (Dialogue.ensures_bind (Lock.withLockId_asksFor fits) fun lock own => ?_)
    exact Dialogue.ensures_bind (Lock.speaks_key own allowed).releaseHead fun _ _ => Dialogue.ensures_pure fits
  | _ => cases operation

theorem ReadWriteLock.stays {self : ReadWriteLock} (fits : (Primitive.readWriteLock self).Fits md5 place) :
    Stays md5 place (.readWriteLock self) := by
  have allowed := List.mem_singleton_self place.own
  obtain ⟨raw, locks⟩ := fits
  obtain ⟨write, reads⟩ := List.forall_mem_cons.mp locks
  have speaks : self.writeLock.Speaks (AsksFor [place.own]) (·.lockKey = place.own) := Lock.speaks_key write allowed
  intro call program operation
  cases call with
  | acquireWrite =>
    cases operation
    refine leaving_ensures (Dialogue.ensures_bind speaks.acquireWithFlags fun _ later => ?_)
    exact Dialogue.ensures_pure ⟨raw, List.forall_mem_cons.mpr ⟨later, reads⟩⟩
  | releaseWrite =>
    cases operation
    refine leaving_ensures (Dialogue.ensures_bind speaks.releaseWithFlags fun _ later => ?_)
    exact Dialogue.ensures_pure ⟨raw, List.forall_mem_cons.mpr ⟨later, reads⟩⟩
  | acquireRead =>
    cases operation
    refine leaving_ensures (Dialogue.ensures_bind (Lock.new_asksFor raw) fun lock own => ?_)
    have counted : (lock.setCount 0xffff).lockKey = place.own := own
    refine Dialogue.ensures_bind (Lock.speaks_key counted allowed).acquireWithFlags ?_
    rintro ⟨outcome, taken⟩ later
    cases outcome with
    | error err => exact Dialogue.ensures_pure ⟨raw, locks⟩
    | ok result =>
      refine Dialogue.ensures_pure ⟨raw, List.forall_mem_cons.mpr ⟨write, ?_⟩⟩
      exact List.forall_mem_append.mpr ⟨reads, List.forall_mem_singleton.mpr later⟩
  | releaseRead =>
    cases operation
    refine leaving_ensures ?_
    unfold ReadWriteLock.releaseRead
    split
    · exact Dialogue.ensures_pure ⟨raw, locks⟩
    · rename_i lock last
      have own : lock.lockKey = place.own := reads lock (List.mem_of_getLast? last)
      refine Dialogue.ensures_bind (Lock.speaks_key own allowed).releaseWithFlags fun _ _ => ?_
      refine Dialogue.ensures_pure ⟨raw, List.forall_mem_cons.mpr ⟨write, ?_⟩⟩
      exact fun other member => reads other (List.dropLast_subset _ member)
  | _ => cases operation

theorem Event.checkLock_asksFor {self : Event} {timeout : UInt16} (fits : self.lock.lockKey = place.own) :
    Does (AsksFor keys) (self.checkLock md5 timeout) (·.lockKey = place.own) := by
  refine Dialogue.ensures_bind (Lock.new_asksFor ((Key16.new_bytes md5 _).trans fits)) fun lock own => ?_
  split
  · exact Dialogue.ensures_pure own
  · exact Dialogue.ensures_pure own

theorem Event.setWithData_fits {self : Event} {data : Option LockData} (fits : self.lock.lockKey = place.own) :
    Does (AsksFor [place.own]) (self.setWithData md5 data) fun value => value.2.lock.lockKey = place.own := by
  have allowed := List.mem_singleton_self place.own
  unfold Event.setWithData
  split
  · refine Dialogue.ensures_bind (Lock.withLockId_asksFor_again fits) fun lock own => ?_
    exact Dialogue.ensures_bind (Lock.speaks_key own allowed).releaseWithFlags fun _ _ => Dialogue.ensures_pure fits
  · refine Dialogue.ensures_bind (Lock.withLockId_asksFor_again fits) fun lock own => ?_
    exact Dialogue.ensures_bind (Lock.speaks_key own allowed).update fun _ _ => Dialogue.ensures_pure fits

theorem Event.stays {self : Event} (fits : (Primitive.event self).Fits md5 place) : Stays md5 place (.event self) := by
  have allowed := List.mem_singleton_self place.own
  intro call program operation
  cases call with
  | isSet | wait =>
    cases operation
    refine leaving_ensures (Dialogue.ensures_bind (Event.checkLock_asksFor fits) fun lock own => ?_)
    exact Dialogue.ensures_bind (Lock.speaks_key own allowed).acquireWithFlags fun _ _ => Dialogue.ensures_pure fits
  | set | setWithData =>
    cases operation
    exact leaving_ensures (Event.setWithData_fits fits)
  | clear =>
    cases operation
    refine leaving_ensures ?_
    unfold Event.clear
    split
    · refine Dialogue.ensures_bind (Lock.withLockId_asksFor_again fits) fun lock own => ?_
      exact Dialogue.ensures_bind (Lock.speaks_key own allowed).update fun _ _ => Dialogue.ensures_pure fits
    · refine Dialogue.ensures_bind (Lock.withLockId_asksFor_again fits) fun lock own => ?_
      exact Dialogue.ensures_bind (Lock.speaks_key own allowed).releaseWithFlags fun _ _ =>
        Dialogue.ensures_pure fits
  | _ => cases operation

theorem GroupEvent.stays {self : GroupEvent} (fits : (Primitive.groupEvent self).Fits md5 place) :
    Stays md5 place (.groupEvent self) := by
  have allowed := List.mem_singleton_self place.own
  have compared : ∀ lock : Lock, lock.lockKey = place.own →
      (GroupEvent.comparing lock).Speaks (AsksFor [place.own]) (·.lockKey = place.own) :=
    fun lock own => Lock.speaks_key own allowed
  intro call program operation
  cases call with
  | isSet =>
    cases operation
    refine leaving_ensures (Dialogue.ensures_bind Id16.new_asksFor fun lockId _ => ?_)
    refine Dialogue.ensures_bind (Lock.withLockId_asksFor_again fits) fun lock own => ?_
    exact Dialogue.ensures_bind (Lock.speaks_key own allowed).acquireWithFlags fun _ _ => Dialogue.ensures_pure fits
  | set =>
    cases operation
    refine leaving_ensures (Dialogue.ensures_bind (Lock.withLockId_asksFor_again fits) fun lock own => ?_)
    exact Dialogue.ensures_bind (Lock.speaks_key own allowed).releaseHead fun _ _ => Dialogue.ensures_pure fits
  | clear =>
    cases operation
    refine leaving_ensures (Dialogue.ensures_bind (Lock.withLockId_asksFor_again fits) fun lock own => ?_)
    exact Dialogue.ensures_bind (compared lock own).update fun _ _ => Dialogue.ensures_pure fits
  | wakeup =>
    cases operation
    refine leaving_ensures (Dialogue.ensures_bind (Lock.withLockId_asksFor_again fits) fun lock own => ?_)
    refine Dialogue.ensures_bind (compared lock own).releaseWithFlags ?_
    rintro ⟨outcome, released⟩ _
    cases outcome <;> exact Dialogue.ensures_pure fits
  | wait =>
    cases operation
    refine leaving_ensures (Dialogue.ensures_bind (Lock.withLockId_asksFor_again fits) fun lock own => ?_)
    refine Dialogue.ensures_bind (compared lock own).acquireWithFlags ?_
    rintro ⟨outcome, taken⟩ _
    cases outcome <;> exact Dialogue.ensures_pure fits
  | _ => cases operation

section Leaf

variable {self : TreeLeafLock}

theorem releaseCheck_asksFor {check : Option Lock} (own : ∀ lock ∈ check, lock.lockKey ∈ keys) :
    Does (AsksFor keys) (releaseCheck check) fun _ => True := by
  cases check with
  | none => exact Dialogue.ensures_pure trivial
  | some lock =>
    have speaks : lock.Speaks (AsksFor keys) (·.lockKey = lock.lockKey) := Lock.speaks_key rfl (own lock rfl)
    exact Dialogue.ensures_bind speaks.releaseWithFlags fun _ _ => Dialogue.ensures_pure trivial

theorem TreeLeafLock.checkLock_asksFor {key lockId : Key16} :
    Does (AsksFor keys) (self.checkLock md5 key lockId) (·.lockKey = key) :=
  Dialogue.ensures_bind (Lock.withLockId_asksFor (Key16.new_bytes md5 key)) fun _ own => Dialogue.ensures_pure own

theorem TreeLeafLock.acquireOwn_fits {childCheck parentCheck : Option Lock}
    (fits : (Primitive.treeLeafLock self).Fits md5 place) (allowed : place.own ∈ keys)
    (child : ∀ lock ∈ childCheck, lock.lockKey ∈ keys) (parent : ∀ lock ∈ parentCheck, lock.lockKey ∈ keys) :
    Does (AsksFor keys) (self.acquireOwn childCheck parentCheck)
      fun value => (Primitive.treeLeafLock value.2).Fits md5 place := by
  obtain ⟨own, tree⟩ := fits
  refine Dialogue.ensures_bind (Lock.speaks_key own allowed).acquireWithFlags ?_
  rintro ⟨outcome, lock⟩ later
  cases outcome with
  | ok result => exact Dialogue.ensures_pure ⟨later, tree⟩
  | error err =>
    refine Dialogue.ensures_bind (releaseCheck_asksFor child) fun _ _ => ?_
    refine Dialogue.ensures_bind (releaseCheck_asksFor parent) fun _ _ => ?_
    exact Dialogue.ensures_pure ⟨later, tree⟩

theorem TreeLeafLock.acquire_fits (fits : (Primitive.treeLeafLock self).Fits md5 place) :
    Does (AsksFor (place.own :: place.parent.toList)) (self.acquire md5)
      fun value => (Primitive.treeLeafLock value.2).Fits md5 place := by
  have allowed : place.own ∈ place.own :: place.parent.toList := List.mem_cons_self
  obtain ⟨_, tree, above⟩ := id fits
  unfold TreeLeafLock.acquire
  split
  · have untaken : ∀ lock ∈ (none : Option Lock), lock.lockKey ∈ place.own :: place.parent.toList :=
      fun _ member => nomatch member
    exact acquireOwn_fits fits allowed untaken untaken
  · rename_i parentKey atParent
    have parentAllowed : parentKey ∈ place.own :: place.parent.toList := by
      rw [← above, atParent]
      exact List.mem_cons_of_mem _ (List.mem_singleton_self _)
    have childAllowed : self.treeLock.lock.lockKey ∈ place.own :: place.parent.toList := by
      rw [tree]
      exact allowed
    refine Dialogue.ensures_bind checkLock_asksFor fun childCheck own => ?_
    refine Dialogue.ensures_bind (Lock.speaks_key own childAllowed).acquireWithFlags ?_
    rintro ⟨childOutcome, childCheck⟩ (childOwn : childCheck.lockKey = _)
    have childTaken : ∀ lock ∈ some childCheck, lock.lockKey ∈ place.own :: place.parent.toList := by
      rintro lock ⟨⟩
      rw [childOwn]
      exact childAllowed
    dsimp only
    split
    · exact Dialogue.ensures_pure fits
    · refine Dialogue.ensures_bind checkLock_asksFor fun parentCheck own => ?_
      refine Dialogue.ensures_bind (Lock.speaks_key own parentAllowed).acquireWithFlags ?_
      rintro ⟨parentOutcome, parentCheck⟩ (parentOwn : parentCheck.lockKey = _)
      have parentTaken : ∀ lock ∈ some parentCheck, lock.lockKey ∈ place.own :: place.parent.toList := by
        rintro lock ⟨⟩
        rw [parentOwn]
        exact parentAllowed
      dsimp only
      split
      · exact Dialogue.ensures_bind (releaseCheck_asksFor childTaken) fun _ _ => Dialogue.ensures_pure fits
      · exact acquireOwn_fits fits allowed childTaken parentTaken

theorem TreeLeafLock.stays (fits : (Primitive.treeLeafLock self).Fits md5 place) :
    Stays md5 place (.treeLeafLock self) := by
  intro call program operation
  cases call with
  | acquire =>
    cases operation
    exact leaving_ensures (TreeLeafLock.acquire_fits fits)
  | release =>
    cases operation
    refine leaving_ensures (Dialogue.ensures_bind (Lock.speaks_key fits.1 List.mem_cons_self).releaseWithFlags ?_)
    exact fun _ later => Dialogue.ensures_pure ⟨later, fits.2⟩
  | _ => cases operation

end Leaf

/-- A call sends commands for the keys of its primitive only, and what it leaves
behind or returns is where it belongs. -/
def Addresses (md5 : List UInt8 → Block 16) (place : Place) (primitive : Primitive) : Prop :=
  ∀ call program said after, primitive.call md5 call = some program → Dialogue.Talk program said after →
    (∀ entry ∈ said, AsksFor (primitive.keys place) entry.1) ∧ after.Fits md5 (place.after md5 call said)

theorem TreeLock.loadChild_fits {self : TreeLock} {key : List UInt8} (fits : (Primitive.treeLock self).Fits md5 place) :
    Does (AsksFor keys) (self.loadChild md5 key) fun child => (Primitive.treeLock child).Fits md5 (place.child md5 key) :=
  Dialogue.ensures_bind TreeLock.new_asksFor fun _ made =>
    Dialogue.ensures_pure ⟨made.1, congrArg some fits.1⟩

theorem TreeLock.loadLeafLock_fits {self : TreeLock} {lockId : Id16} (fits : (Primitive.treeLock self).Fits md5 place) :
    Does (AsksFor keys) (self.loadLeafLock md5 lockId) fun leaf => (Primitive.treeLeafLock leaf).Fits md5 place :=
  Dialogue.ensures_bind (Lock.withLockId_asksFor_again fits.1) fun _ own => Dialogue.ensures_pure ⟨own, fits⟩

theorem TreeLock.addresses {self : TreeLock} (fits : (Primitive.treeLock self).Fits md5 place) :
    Addresses md5 place (.treeLock self) := by
  have speaks : self.lock.Speaks (AsksFor [place.own]) (·.lockKey = place.own) :=
    Lock.speaks_key fits.1 (List.mem_singleton_self _)
  intro call program said after operation talk
  cases call with
  | acquire =>
    cases operation
    have does : Does (AsksFor [place.own]) (leaving .treeLock self.acquire) (Primitive.Fits md5 place) :=
      leaving_ensures (Dialogue.ensures_bind speaks.acquireWithFlags fun _ later =>
        Dialogue.ensures_pure ⟨later, fits.2⟩)
    exact does.talk talk
  | release =>
    cases operation
    have does : Does (AsksFor [place.own]) (leaving .treeLock self.release) (Primitive.Fits md5 place) :=
      leaving_ensures (Dialogue.ensures_bind speaks.releaseWithFlags fun _ later =>
        Dialogue.ensures_pure ⟨later, fits.2⟩)
    exact does.talk talk
  | wait timeout =>
    cases operation
    have does : Does (AsksFor [place.own]) (leaving .treeLock (self.wait md5 timeout)) (Primitive.Fits md5 place) := by
      refine leaving_ensures (Dialogue.ensures_bind Id16.new_asksFor fun lockId _ => ?_)
      refine Dialogue.ensures_bind (Lock.withLockId_asksFor_again fits.1) fun lock own => ?_
      exact Dialogue.ensures_bind (Lock.speaks_key own (List.mem_singleton_self _)).acquireWithFlags fun _ _ =>
        Dialogue.ensures_pure fits
    exact does.talk talk
  | newChild =>
    cases operation
    obtain ⟨child, makes, rfl⟩ := Dialogue.talk_map talk
    obtain ⟨front, key, back, rfl, asks, loads⟩ := Dialogue.talk_bind.mp makes
    obtain rfl := Dialogue.talk_question.mp asks
    have does : Does (AsksFor [place.own]) (self.loadChild md5 key.bytes.toList)
        fun child => (Primitive.treeLock child).Fits md5 (place.child md5 key.bytes.toList) :=
      TreeLock.loadChild_fits fits
    obtain ⟨silent, made⟩ := does.talk loads
    exact ⟨List.forall_mem_cons.mpr ⟨trivial, silent⟩, made⟩
  | loadChild key =>
    cases operation
    have does : Does (AsksFor [place.own]) (Primitive.treeLock <$> self.loadChild md5 key)
        (Primitive.Fits md5 (place.child md5 key)) := Dialogue.ensures_map (TreeLock.loadChild_fits fits)
    exact does.talk talk
  | newLeafLock =>
    cases operation
    have does : Does (AsksFor [place.own]) (Primitive.treeLeafLock <$> self.newLeafLock md5)
        (Primitive.Fits md5 place) :=
      Dialogue.ensures_map (Dialogue.ensures_bind Id16.new_asksFor fun _ _ => TreeLock.loadLeafLock_fits fits)
    exact does.talk talk
  | loadLeafLock lockId =>
    cases operation
    have does : Does (AsksFor [place.own]) (Primitive.treeLeafLock <$> self.loadLeafLock md5 lockId)
        (Primitive.Fits md5 place) := Dialogue.ensures_map (TreeLock.loadLeafLock_fits fits)
    exact does.talk talk
  | _ => cases operation

theorem Stays.addresses {primitive : Primitive} (stays : Stays md5 place primitive)
    (settled : ∀ call program said, primitive.call md5 call = some program → place.after md5 call said = place) :
    Addresses md5 place primitive := by
  intro call program said after operation talk
  rw [settled call program said operation]
  exact (stays call program operation).talk talk

/-- Only trees make children. -/
theorem Place.after_eq {primitive : Primitive} {call : Call} {program : Program Primitive}
    (said : Dialogue.Transcript Effect.Answer) (noTree : ∀ self, primitive ≠ .treeLock self)
    (operation : primitive.call md5 call = some program) : place.after md5 call said = place := by
  cases call with
  | loadChild | newChild =>
    cases primitive with
    | treeLock self => exact absurd rfl (noTree self)
    | _ => cases operation
  | _ => rfl

theorem Primitive.Fits.addresses {primitive : Primitive} (fits : primitive.Fits md5 place) :
    Addresses md5 place primitive := by
  cases primitive with
  | lock self => exact (Lock.stays fits).addresses fun _ _ said => Place.after_eq said nofun
  | event self => exact (Event.stays fits).addresses fun _ _ said => Place.after_eq said nofun
  | groupEvent self => exact (GroupEvent.stays fits).addresses fun _ _ said => Place.after_eq said nofun
  | semaphore self => exact (Semaphore.stays fits).addresses fun _ _ said => Place.after_eq said nofun
  | reentrantLock self =>
    exact ((Wraps.reentrantLock self).stays fits).addresses fun _ _ said => Place.after_eq said nofun
  | readWriteLock self => exact (ReadWriteLock.stays fits).addresses fun _ _ said => Place.after_eq said nofun
  | priorityLock self =>
    exact ((Wraps.priorityLock self).stays fits).addresses fun _ _ said => Place.after_eq said nofun
  | maxConcurrentFlow self =>
    exact ((Wraps.maxConcurrentFlow self).stays fits).addresses fun _ _ said => Place.after_eq said nofun
  | tokenBucketFlow self =>
    exact ((Wraps.tokenBucketFlow self).stays fits).addresses fun _ _ said => Place.after_eq said nofun
  | treeLock self => exact TreeLock.addresses fits
  | treeLeafLock self => exact (TreeLeafLock.stays fits).addresses fun _ _ said => Place.after_eq said nofun

theorem Reached.fits {primitive : Primitive} (reached : Reached md5 database primitive place) :
    primitive.Fits md5 place := by
  induction reached with
  | created talk => exact ((Database.create_fits _).talk talk).2
  | called _ operation talk ih => exact (ih.addresses _ _ _ _ operation talk).2

end Calls

/-- Whatever is called on a primitive, all its commands are for the key that it
was created with, those of a leaf also for the key of the parent; a child that
is loaded again by its normalised key is about the same key. -/
theorem commands_lockKey (md5 : List UInt8 → Block 16) (database : Database) (primitive : Primitive) (place : Place)
    (reached : Reached md5 database primitive place) :
    (∀ call program said after, primitive.call md5 call = some program → Dialogue.Talk program said after →
      ∀ entry ∈ said, AsksFor (primitive.keys place) entry.1) ∧
    (∀ child, primitive = .treeLock child → child.lock.lockKey = place.own ∧ child.parentKey = place.parent ∧
      ∀ tree above, Reached md5 database (.treeLock tree) above →
        ∀ said again, Dialogue.Talk (tree.loadChild md5 child.lock.lockKey.bytes.toList) said again →
          again.lock.lockKey = child.lock.lockKey ∧
            Reached md5 database (.treeLock again) ⟨place.own, some above.own⟩) ∧
    ∀ key, Key16.new md5 (Key16.new md5 key).bytes.toList = Key16.new md5 key := by
  refine ⟨fun call program said after operation talk => ?_, ?_, Key16.new_idempotent md5⟩
  · exact (reached.fits.addresses _ _ _ _ operation talk).1
  · rintro child rfl
    obtain ⟨own, parent⟩ := reached.fits
    refine ⟨own, parent, fun tree above reachedTree said again talk => ?_⟩
    have returned : Dialogue.Talk (Primitive.treeLock <$> tree.loadChild md5 child.lock.lockKey.bytes.toList) said
        (.treeLock again) :=
      Dialogue.talk_bind.mpr ⟨said, again, [], (List.append_nil said).symm, talk, Dialogue.talk_pure.mpr ⟨rfl, rfl⟩⟩
    have operation : (Primitive.treeLock tree).call md5 (.loadChild child.lock.lockKey.bytes.toList) =
        some (Primitive.treeLock <$> tree.loadChild md5 child.lock.lockKey.bytes.toList) := rfl
    have loaded := reachedTree.called operation returned
    have same : above.child md5 child.lock.lockKey.bytes.toList = ⟨place.own, some above.own⟩ := by
      rw [Place.child, Key16.new_bytes, own]
    rw [Place.after, same] at loaded
    obtain ⟨againOwn, _⟩ := loaded.fits
    exact ⟨againOwn.trans own.symm, loaded⟩

section Example

/-- A key that is too long to be padded. -/
def longKey : List UInt8 := List.replicate 20 1

/-- A call where the check locks are given and the lock of the leaf times out. -/
def leafCalled (primitive : Primitive) (call : Call) : Dialogue.Transcript Effect.Answer × Primitive :=
  Dialogue.run (leafTimesOut commandResultSucced) [] ((primitive.call noDigest call).getD (pure primitive))

theorem Reached.leafCalled {primitive : Primitive} {place : Place} {call : Call} {program : Program Primitive}
    (reached : Reached noDigest ⟨0⟩ primitive place) (operation : primitive.call noDigest call = some program) :
    Reached noDigest ⟨0⟩ (leafCalled primitive call).2 (place.after noDigest call (leafCalled primitive call).1) := by
  unfold Ruslock.leafCalled
  rw [operation]
  exact reached.called operation (Dialogue.Talk.of_run _ _ _)

def shortTree : Dialogue.Transcript Effect.Answer × Primitive :=
  Dialogue.run (leafTimesOut commandResultSucced) [] (Database.create noDigest ⟨0⟩ (.treeLock [1] 5 10))

def longChild : Dialogue.Transcript Effect.Answer × Primitive := leafCalled shortTree.2 (.loadChild longKey)

def longLeaf : Dialogue.Transcript Effect.Answer × Primitive :=
  leafCalled longChild.2 (.loadLeafLock childLeaf.lock.lockId)

def longLeafAcquired : Dialogue.Transcript Effect.Answer × Primitive := leafCalled longLeaf.2 .acquire

theorem longLeaf_reached :
    Reached noDigest ⟨0⟩ longLeaf.2 ⟨Key16.new noDigest longKey, some (Key16.new noDigest [1])⟩ := by
  have tree : Reached noDigest ⟨0⟩ shortTree.2 ⟨Key16.new noDigest (Factory.treeLock [1] 5 10).key, none⟩ :=
    .created (Dialogue.Talk.of_run _ _ _)
  have child : Reached noDigest ⟨0⟩ longChild.2 ⟨Key16.new noDigest longKey, some (Key16.new noDigest [1])⟩ :=
    tree.leafCalled rfl
  exact child.leafCalled rfl

/-- A leaf of the child of another key takes check locks on both keys, and gives them back. -/
theorem commands_lockKey_longLeaf :
    (exchanges longLeafAcquired.1).map (fun exchange => exchange.command.lockKey) =
      [⟨noDigest longKey⟩, .new noDigest [1], ⟨noDigest longKey⟩, ⟨noDigest longKey⟩, .new noDigest [1]] ∧
    ∀ entry ∈ longLeafAcquired.1, AsksFor [⟨noDigest longKey⟩, .new noDigest [1]] entry.1 := by
  refine ⟨by decide, ?_⟩
  exact (commands_lockKey noDigest ⟨0⟩ longLeaf.2 _ longLeaf_reached).1 .acquire _ _ longLeafAcquired.2 rfl
    (Dialogue.Talk.of_run _ _ _)

end Example

end Ruslock
