import Ruslock.LockVariants
import Ruslock.TreeLeafLock

namespace Ruslock

namespace ReadWriteLock

inductive Operation
  | acquireWrite
  | releaseWrite
  | acquireRead
  | releaseRead
  deriving DecidableEq

/-- A call, and the lock that it leaves behind. -/
def perform (md5 : List UInt8 → Wire.Block 16) : Operation → ReadWriteLock → Program ReadWriteLock
  | .acquireWrite, self => Prod.snd <$> self.acquireWrite
  | .releaseWrite, self => Prod.snd <$> self.releaseWrite
  | .acquireRead, self => Prod.snd <$> self.acquireRead md5
  | .releaseRead, self => Prod.snd <$> self.releaseRead

abbrev Past := List (Operation × Dialogue.Transcript Effect.Answer)

/-- A read lock that the server has given, and that no UNLOCK has been answered for since. -/
def Held (past : Past) (lockId : Id16) : Prop :=
  ∃ before said later, past = before ++ (.acquireRead, said) :: later ∧
    (∃ exchange ∈ exchanges said, exchange.command.lockId = lockId ∧ exchange.succeeded = true) ∧
    ∀ entry ∈ later, ∀ exchange ∈ exchanges entry.2,
      exchange.isUnlock = true → exchange.command.lockId = lockId → exchange.result = none

/-- The server answers the UNLOCK of each `release_read`. -/
def ReleasesAnswered (past : Past) : Prop :=
  ∀ entry ∈ past, entry.1 = .releaseRead → ∀ exchange ∈ exchanges entry.2, exchange.result ≠ none

def readIds (self : ReadWriteLock) : List Id16 := self.readLocks.map Lock.lockId

section Held

variable {past : Past} {operation : Operation} {said : Dialogue.Transcript Effect.Answer} {lockId : Id16}

theorem held_append (held : Held (past ++ [(operation, said)]) lockId) :
    (Held past lockId ∧ ∀ exchange ∈ exchanges said,
      exchange.isUnlock = true → exchange.command.lockId = lockId → exchange.result = none) ∨
    operation = .acquireRead ∧
      ∃ exchange ∈ exchanges said, exchange.command.lockId = lockId ∧ exchange.succeeded = true := by
  obtain ⟨before, given, later, whole, taken, kept⟩ := held
  rcases List.eq_nil_or_concat later with rfl | ⟨later', last, rfl⟩
  · obtain ⟨rfl, same⟩ := List.append_inj' whole rfl
    cases same
    exact .inr ⟨rfl, taken⟩
  · rw [List.concat_eq_append, ← List.cons_append, ← List.append_assoc] at whole
    obtain ⟨rfl, same⟩ := List.append_inj' whole rfl
    cases same
    rw [List.concat_eq_append] at kept
    obtain ⟨old, new⟩ := List.forall_mem_append.mp kept
    exact .inl ⟨⟨before, given, later', rfl, taken, old⟩, new _ (List.mem_singleton_self _)⟩

end Held

section Operations

variable {md5 : List UInt8 → Wire.Block 16} {self after : ReadWriteLock} {said : Dialogue.Transcript Effect.Answer}

theorem write_talk {operation : Operation} (write : operation = .acquireWrite ∨ operation = .releaseWrite)
    (talk : Dialogue.Talk (perform md5 operation self) said after) : after.readLocks = self.readLocks := by
  rcases write with rfl | rfl
  · obtain ⟨_, runs, rfl⟩ := Dialogue.talk_map talk
    obtain ⟨_, _, _, rfl, _, last⟩ := Dialogue.talk_bind.mp runs
    obtain ⟨rfl, rfl⟩ := Dialogue.talk_pure.mp last
    rfl
  · obtain ⟨_, runs, rfl⟩ := Dialogue.talk_map talk
    obtain ⟨_, _, _, rfl, _, last⟩ := Dialogue.talk_bind.mp runs
    obtain ⟨rfl, rfl⟩ := Dialogue.talk_pure.mp last
    rfl

/-- A read lock that is given is kept. -/
theorem acquireRead_talk (talk : Dialogue.Talk (perform md5 .acquireRead self) said after) :
    ∃ exchange lock, exchanges said = [exchange] ∧ exchange.command.lockId = lock.lockId ∧
      exchange.command.commandType = commandTypeLock ∧
      after.readLocks = if exchange.succeeded = true then self.readLocks ++ [lock] else self.readLocks := by
  obtain ⟨_, runs, rfl⟩ := Dialogue.talk_map talk
  obtain ⟨front, fresh, behind, rfl, builds, operating⟩ := Dialogue.talk_bind.mp runs
  obtain ⟨middle, ⟨outcome, lock⟩, back, rfl, acquires, last⟩ := Dialogue.talk_bind.mp operating
  obtain ⟨silent, _⟩ := Lock.new_talk builds
  obtain ⟨exchange, atSaid, of, whole⟩ := Lock.acquireWithFlags_talk acquires
  rw [Lock.finish_answer] at whole
  obtain ⟨rfl, rfl⟩ := Prod.mk.inj whole
  have id : exchange.command.lockId = fresh.lockId := congrArg Prod.snd of.target
  cases outcome : exchange.outcome with
  | error err =>
    rw [outcome] at last
    obtain ⟨rfl, rfl⟩ := Dialogue.talk_pure.mp last
    have failed : ¬ exchange.succeeded = true := by simp [Exchange.succeeded_eq_false outcome]
    exact ⟨exchange, fresh, by simp [silent, atSaid], id, of.commandType, by rw [if_neg failed]⟩
  | ok result =>
    rw [outcome] at last
    obtain ⟨rfl, rfl⟩ := Dialogue.talk_pure.mp last
    have given : exchange.succeeded = true := Exchange.succeeded_iff.mpr ⟨result, outcome⟩
    exact ⟨exchange, { fresh.setCount 0xffff with currentData := exchange.dataAfter (fresh.setCount 0xffff).currentData },
      by simp [silent, atSaid], id, of.commandType, by rw [if_pos given]⟩

/-- A read lock is given up before the server has answered. -/
theorem releaseRead_talk (talk : Dialogue.Talk (perform md5 .releaseRead self) said after) :
    (self.readLocks = [] ∧ exchanges said = [] ∧ after = self) ∨
      ∃ lock exchange, self.readLocks = after.readLocks ++ [lock] ∧ exchanges said = [exchange] ∧
        exchange.isUnlock = true ∧ exchange.command.lockId = lock.lockId := by
  obtain ⟨_, runs, rfl⟩ := Dialogue.talk_map talk
  unfold releaseRead at runs
  split at runs
  · rename_i none
    obtain ⟨rfl, rfl⟩ := Dialogue.talk_pure.mp runs
    exact .inl ⟨List.getLast?_eq_none_iff.mp none, rfl, rfl⟩
  · rename_i lock top
    obtain ⟨front, _, back, rfl, releases, last⟩ := Dialogue.talk_bind.mp runs
    obtain ⟨rfl, rfl⟩ := Dialogue.talk_pure.mp last
    obtain ⟨exchange, atSaid, of, _⟩ := Lock.releaseWithFlags_talk releases
    have id : exchange.command.lockId = lock.lockId := congrArg Prod.snd of.target
    have unlock : exchange.isUnlock = true := beq_iff_eq.mpr of.commandType
    have whole : self.readLocks = self.readLocks.dropLast ++ [lock] :=
      (List.dropLast_append_getLast? lock top).symm
    exact .inr ⟨lock, exchange, whole, by rw [List.append_nil]; exact atSaid, unlock, id⟩

/-- A `release_read` that is not answered loses a lock that is held. -/
theorem releaseRead_loses {past : Past} {lockId : Id16} {rest : List Id16}
    (talk : Dialogue.Talk (perform md5 .releaseRead self) said after)
    (unanswered : ∀ exchange ∈ exchanges said, exchange.result = none) (held : Held past lockId)
    (top : self.readIds = rest ++ [lockId]) : Held (past ++ [(.releaseRead, said)]) lockId ∧ after.readIds = rest := by
  constructor
  · obtain ⟨before, given, later, rfl, taken, kept⟩ := held
    refine ⟨before, given, later ++ [(.releaseRead, said)], by simp, taken, List.forall_mem_append.mpr ⟨kept, ?_⟩⟩
    rw [List.forall_mem_singleton]
    exact fun exchange member _ _ => unanswered exchange member
  · rcases releaseRead_talk talk with ⟨empty, _, _⟩ | ⟨lock, _, reads, _⟩
    · rw [readIds, empty] at top
      exact absurd top.symm (List.append_ne_nil_of_right_ne_nil rest (List.cons_ne_nil _ _))
    · rw [readIds, reads, List.map_append] at top
      exact (List.append_inj' top rfl).1

end Operations

/-- As long as the UNLOCK of every `release_read` is answered, the read locks
that the server has given and not taken back are at hand. -/
theorem held_mem_readLocks {md5 : List UInt8 → Wire.Block 16} {start self : ReadWriteLock} {past : Past}
    (run : Dialogue.Calls (perform md5) start past self) (answered : ReleasesAnswered past) (lockId : Id16)
    (held : Held past lockId) : lockId ∈ self.readIds := by
  induction run with
  | start =>
    obtain ⟨before, _, _, whole, _⟩ := held
    exact absurd whole.symm (List.append_ne_nil_of_right_ne_nil before (List.cons_ne_nil _ _))
  | @called past before operation said after _ talk ih =>
    have earlier : ReleasesAnswered past := fun entry member => answered entry (List.mem_append_left _ member)
    have own := answered (operation, said) (List.mem_append_right _ (List.mem_singleton_self _))
    cases operation with
    | acquireWrite | releaseWrite =>
      rcases held_append held with ⟨old, _⟩ | ⟨other, _⟩
      · have kept : after.readLocks = before.readLocks := write_talk (by simp) talk
        rw [readIds, kept]
        exact ih earlier old
      · cases other
    | acquireRead =>
      obtain ⟨exchange, lock, atSaid, id, _, reads⟩ := acquireRead_talk talk
      rw [readIds, reads]
      rcases held_append held with ⟨old, _⟩ | ⟨_, taken, member, own, given⟩
      · have kept := ih earlier old
        split
        · rw [List.map_append]
          exact List.mem_append_left _ kept
        · exact kept
      · rw [atSaid, List.mem_singleton] at member
        rw [member] at own given
        rw [if_pos given, List.map_append]
        exact List.mem_append_right _ (List.mem_singleton.mpr (own.symm.trans id))
    | releaseRead =>
      rcases held_append held with ⟨old, unanswered⟩ | ⟨other, _⟩
      · have kept := ih earlier old
        rcases releaseRead_talk talk with ⟨_, _, rfl⟩ | ⟨lock, exchange, reads, atSaid, unlock, id⟩
        · exact kept
        · have member : exchange ∈ exchanges said := by rw [atSaid]; exact List.mem_singleton_self _
          -- the lock that is given up is not the one that is held
          have other : lockId ≠ lock.lockId := fun same =>
            own rfl exchange member (unanswered exchange member unlock (id.trans same.symm))
          rw [readIds, reads, List.map_append, List.mem_append] at kept
          rcases kept with inside | last
          · exact inside
          · exact absurd (List.mem_singleton.mp last) other
      · cases other

section Example

/-- A server that grants everything for as long as it can be reached. -/
def granting (id : Id16) (reachable : Bool) : Dialogue.Partner Effect.Answer
  | _, .send (.lock command) => if reachable then answerWith command commandResultSucced else .error .notConnected
  | _, .send _ => .error .notConnected
  | _, .newId => id
  | _, .defaultTimeoutFlags => 0
  | _, .defaultExpiredFlags => 0

def created : Dialogue.Transcript Effect.Answer × ReadWriteLock :=
  Dialogue.run (granting .zero true) [] (ReadWriteLock.new noDigest ⟨0⟩ [] 5 10)

/-- A call that such a server answers. -/
def called (id : Id16) (reachable : Bool) (operation : Operation) (self : ReadWriteLock) :
    Dialogue.Transcript Effect.Answer × ReadWriteLock :=
  Dialogue.run (granting id reachable) [] (perform noDigest operation self)

def firstRead : Dialogue.Transcript Effect.Answer × ReadWriteLock := called ⟨.ofNatLE 16 1⟩ true .acquireRead created.2

def secondRead : Dialogue.Transcript Effect.Answer × ReadWriteLock :=
  called ⟨.ofNatLE 16 2⟩ true .acquireRead firstRead.2

theorem firstRead_calls : Dialogue.Calls (perform noDigest) created.2 [(.acquireRead, firstRead.1)] firstRead.2 :=
  .called .start (Dialogue.Talk.of_run _ _ _)

theorem firstRead_given :
    ∃ exchange ∈ exchanges firstRead.1, exchange.command.lockId = ⟨.ofNatLE 16 1⟩ ∧ exchange.succeeded = true := by
  decide

/-- The only read lock is lost in a release without a connection. -/
theorem lostRead_not_held_mem :
    ¬ ∀ (md5 : List UInt8 → Wire.Block 16) (database : Database) (key : List UInt8) (timeout expired : UInt16)
      (birth : Dialogue.Transcript Effect.Answer) (new self : ReadWriteLock) (past : Past),
      Dialogue.Talk (ReadWriteLock.new md5 database key timeout expired) birth new →
      Dialogue.Calls (perform md5) new past self → ∀ lockId, Held past lockId → lockId ∈ self.readIds := by
  intro claim
  have talk : Dialogue.Talk (perform noDigest .releaseRead firstRead.2)
      (called .zero false .releaseRead firstRead.2).1 (called .zero false .releaseRead firstRead.2).2 :=
    .of_run _ _ _
  have held : Held [(.acquireRead, firstRead.1)] ⟨.ofNatLE 16 1⟩ :=
    ⟨[], _, [], rfl, firstRead_given, List.forall_mem_nil _⟩
  have unanswered : ∀ exchange ∈ exchanges (called .zero false .releaseRead firstRead.2).1, exchange.result = none := by
    decide
  have top : firstRead.2.readIds = [] ++ [⟨.ofNatLE 16 1⟩] := by decide
  obtain ⟨still, empty⟩ := releaseRead_loses talk unanswered held top
  have kept := claim _ _ _ _ _ _ _ _ _ (Dialogue.Talk.of_run _ _ _) (firstRead_calls.called talk) _ still
  rw [empty] at kept
  cases kept

/-- Of two read locks, one is given back and the other is at hand. -/
theorem held_mem_readLocks_firstRead :
    (⟨.ofNatLE 16 1⟩ : Id16) ∈ (called .zero true .releaseRead secondRead.2).2.readIds := by
  have run : Dialogue.Calls (perform noDigest) created.2
      ([(.acquireRead, firstRead.1)] ++ [(.acquireRead, secondRead.1)] ++
        [(.releaseRead, (called .zero true .releaseRead secondRead.2).1)])
      (called .zero true .releaseRead secondRead.2).2 :=
    (firstRead_calls.called (Dialogue.Talk.of_run _ _ _)).called (Dialogue.Talk.of_run _ _ _)
  refine held_mem_readLocks run ?_ _ ⟨[], _, _, rfl, firstRead_given, ?_⟩
  · unfold ReleasesAnswered
    decide
  · decide

end Example

end ReadWriteLock

end Ruslock
