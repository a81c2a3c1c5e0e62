import Mathlib.Data.List.Perm.Basic
import Ruslock.Primitives

namespace Ruslock
open Wire

structure TreeLock where
  lock : Lock
  parentKey : Option Key16
  deriving DecidableEq

structure TreeLeafLock where
  treeLock : TreeLock
  lock : Lock
  deriving DecidableEq

namespace TreeLock

variable (md5 : List UInt8 → Block 16)

def new (database : Database) (key : List UInt8) (timeout expired : UInt16) : Program TreeLock := do
  let lock ← Lock.new md5 database key timeout expired
  let lock := (lock.setCount 0xffff).setRCount 1
  pure { lock := { lock with timeout := lock.timeout.mergeFlags timeoutFlagRcountIsPriority }, parentKey := none }

def loadChild (tree : TreeLock) (key : List UInt8) : Program TreeLock := do
  let child ← new md5 tree.lock.database key tree.lock.timeout.value tree.lock.expired.value
  pure { child with parentKey := some tree.lock.lockKey }

/-- A child under a new key, which is a new id. -/
def newChild (tree : TreeLock) : Program TreeLock := do
  let key ← Id16.new
  tree.loadChild md5 key.bytes.toList

def loadLeafLock (tree : TreeLock) (lockId : Id16) : Program TreeLeafLock := do
  let lock ← Lock.withLockId md5 tree.lock.database tree.lock.lockKey.bytes.toList lockId tree.lock.timeout.value
    tree.lock.expired.value 0xffff 1
  pure { treeLock := tree, lock := { lock with timeout := lock.timeout.mergeFlags timeoutFlagRcountIsPriority } }

def newLeafLock (tree : TreeLock) : Program TreeLeafLock := do
  let lockId ← Id16.new
  tree.loadLeafLock md5 lockId

def acquire (tree : TreeLock) : Program (Outcome LockCommandResult × TreeLock) := do
  let (outcome, lock) ← tree.lock.acquireWithFlags lockFlagLockTreeLock none
  pure (outcome, { tree with lock := lock })

def release (tree : TreeLock) : Program (Outcome LockCommandResult × TreeLock) := do
  let (outcome, lock) ← tree.lock.releaseWithFlags unlockFlagUnlockTreeLock none
  pure (outcome, { tree with lock := lock })

def wait (tree : TreeLock) (timeout : UInt16) : Program (Outcome LockCommandResult × TreeLock) := do
  let lockId ← Id16.new
  let checkLock ← Lock.withLockId md5 tree.lock.database tree.lock.lockKey.bytes.toList lockId timeout 0 0 0
  let (outcome, _) ← checkLock.acquire
  pure (outcome, tree)

end TreeLock

def TreeLeafLock.release (leaf : TreeLeafLock) : Program (Outcome LockCommandResult × TreeLeafLock) := do
  let (outcome, lock) ← leaf.lock.releaseWithFlags unlockFlagUnlockTreeLock none
  pure (outcome, { leaf with lock := lock })

/-- What keeps a check lock from being accepted: it may be taken now, or held
already. -/
def checkFailure : Outcome LockCommandResult → Option SlockError
  | .ok _ => none
  | .error (.lockLocked _) => none
  | .error err => some err

/-- The lock on `key` that a leaf tries for before its own. -/
def TreeLeafLock.checkLock (md5 : List UInt8 → Block 16) (leaf : TreeLeafLock) (key lockId : Key16) : Program Lock := do
  let check ← Lock.withLockId md5 leaf.treeLock.lock.database key.bytes.toList ⟨lockId.bytes⟩ 0
    leaf.treeLock.lock.expired.value 0xffff 1
  pure { check with timeout := check.timeout.mergeFlags timeoutFlagRcountIsPriority }

/-- A check lock is given back, and its answer ignored. -/
def releaseCheck : Option Lock → Program Unit
  | none => pure ()
  | some lock => do
    let _ ← lock.release
    pure ()

/-- The end of `acquire`: the lock of the leaf itself. -/
def TreeLeafLock.acquireOwn (leaf : TreeLeafLock) (childCheckLock parentCheckLock : Option Lock) :
    Program (Outcome LockCommandResult × TreeLeafLock) := do
  let (outcome, lock) ← leaf.lock.acquire
  match outcome with
  | .ok result => pure (.ok result, { leaf with lock := lock })
  | .error err => do
    releaseCheck childCheckLock
    releaseCheck parentCheckLock
    pure (.error err, { leaf with lock := lock })

def TreeLeafLock.acquire (md5 : List UInt8 → Block 16) (leaf : TreeLeafLock) :
    Program (Outcome LockCommandResult × TreeLeafLock) :=
  match leaf.treeLock.parentKey with
  | none => leaf.acquireOwn none none
  | some parentKey => do
    let childCheck ← leaf.checkLock md5 leaf.treeLock.lock.lockKey parentKey
    let (outcome, childCheck) ← childCheck.acquireWithFlags lockFlagLockTreeLock none
    match checkFailure outcome with
    | some err => pure (.error err, leaf)
    | none => do
      let parentCheck ← leaf.checkLock md5 parentKey leaf.treeLock.lock.lockKey
      let (outcome, parentCheck) ← parentCheck.acquire
      match checkFailure outcome with
      | some err => do
        releaseCheck (some childCheck)
        pure (.error err, leaf)
      | none => leaf.acquireOwn (some childCheck) (some parentCheck)

def Exchange.isLock (exchange : Exchange) : Bool := exchange.command.commandType == commandTypeLock

def Exchange.isUnlock (exchange : Exchange) : Bool := exchange.command.commandType == commandTypeUnlock

/-- The check locks that a leaf tries for before its own: that of the child and
that of the parent. -/
def TreeLeafLock.checkTargets (leaf : TreeLeafLock) : List (Key16 × Id16) :=
  match leaf.treeLock.parentKey with
  | none => []
  | some parentKey =>
    [(leaf.treeLock.lock.lockKey, ⟨parentKey.bytes⟩), (parentKey, ⟨leaf.treeLock.lock.lockKey.bytes⟩)]

/-- The LOCK commands of the check locks, which are the first ones. -/
def TreeLeafLock.checks (leaf : TreeLeafLock) (sent : List Exchange) : List Exchange :=
  (sent.filter Exchange.isLock).take leaf.checkTargets.length

/-- The LOCK commands of the leaf itself. -/
def TreeLeafLock.owns (leaf : TreeLeafLock) (sent : List Exchange) : List Exchange :=
  (sent.filter Exchange.isLock).drop leaf.checkTargets.length

/-- An `acquire` that fails gives back exactly the check locks that it has
taken, and one that succeeds gives back none. -/
structure TreeLeafLock.Compensates (leaf : TreeLeafLock) (sent : List Exchange) (outcome : Outcome LockCommandResult) :
    Prop where
  failed : ∀ err, outcome = .error err →
    ((sent.filter Exchange.isUnlock).map Exchange.target).Perm
      (((leaf.checks sent).filter Exchange.succeeded).map Exchange.target)
  acquired : ∀ result, outcome = .ok result → sent.filter Exchange.isUnlock = []

/-- No check lock is held already, or the leaf itself is taken. -/
def TreeLeafLock.Compensable (leaf : TreeLeafLock) (sent : List Exchange) : Prop :=
  (∀ check ∈ leaf.checks sent, check.locked = false) ∨ ∃ own ∈ leaf.owns sent, own.succeeded = true

section Answers

variable {exchange : Exchange}

theorem Exchange.isUnlock_of_isLock (takes : exchange.isLock = true) : exchange.isUnlock = false := by
  rw [Exchange.isLock, beq_iff_eq] at takes
  rw [Exchange.isUnlock, takes]
  rfl

theorem Exchange.isLock_of_isUnlock (undoes : exchange.isUnlock = true) : exchange.isLock = false := by
  rw [Exchange.isUnlock, beq_iff_eq] at undoes
  rw [Exchange.isLock, undoes]
  rfl

theorem Exchange.succeeded_iff : exchange.succeeded = true ↔ ∃ result, exchange.outcome = .ok result := by
  obtain ⟨command, answer⟩ := exchange
  rcases answer with err | (_ | _ | result)
  · exact ⟨nofun, fun ⟨_, same⟩ => by cases same⟩
  · exact ⟨nofun, fun ⟨_, same⟩ => by cases same⟩
  · exact ⟨nofun, fun ⟨_, same⟩ => by cases same⟩
  · have whole : (Exchange.mk command (.ok (.lock result))).outcome = resultOutcome result := rfl
    rw [whole, Exchange.succeeded, beq_iff_eq, resultOutcome]
    constructor
    · exact fun same => ⟨result, if_pos same⟩
    · rintro ⟨_, same⟩
      by_contra other
      rw [if_neg other] at same
      repeat' split at same
      all_goals cases same

theorem Exchange.locked_iff : exchange.locked = true ↔ ∃ result, exchange.outcome = .error (.lockLocked result) := by
  obtain ⟨command, answer⟩ := exchange
  rcases answer with err | (_ | _ | result)
  · cases err with
    | lockLocked result => exact ⟨fun _ => ⟨result, rfl⟩, fun _ => rfl⟩
    | _ => exact ⟨nofun, fun ⟨_, same⟩ => by cases same⟩
  · exact ⟨nofun, fun ⟨_, same⟩ => by cases same⟩
  · exact ⟨nofun, fun ⟨_, same⟩ => by cases same⟩
  · have whole : (Exchange.mk command (.ok (.lock result))).outcome = resultOutcome result := rfl
    rw [whole, Exchange.locked, beq_iff_eq, resultOutcome]
    constructor
    · intro same
      exact ⟨result, by rw [same]; rfl⟩
    · rintro ⟨_, same⟩
      repeat' split at same
      all_goals first | assumption | cases same

/-- A check lock that is accepted was taken or was held already, not both. -/
theorem Exchange.accepted_iff (accepted : checkFailure exchange.outcome = none) :
    exchange.succeeded = true ↔ exchange.locked = false := by
  rw [← Bool.not_eq_true, succeeded_iff, locked_iff]
  unfold checkFailure at accepted
  split at accepted
  · rename_i result same
    rw [same]
    refine ⟨?_, fun _ => ⟨result, rfl⟩⟩
    rintro _ ⟨_, other⟩
    cases other
  · rename_i result same
    rw [same]
    refine ⟨?_, fun unlocked => absurd ⟨result, rfl⟩ unlocked⟩
    rintro ⟨_, other⟩
    cases other
  · cases accepted

theorem Exchange.of_failure {err : SlockError} (failed : checkFailure exchange.outcome = some err) :
    exchange.succeeded = false ∧ exchange.locked = false := by
  rw [← Bool.not_eq_true, ← Bool.not_eq_true, succeeded_iff, locked_iff]
  constructor <;> rintro ⟨_, same⟩ <;> rw [same] at failed <;> cases failed

end Answers

/-- An exchange that gives back what another one was about. -/
structure Exchange.Undoes (undo taken : Exchange) : Prop where
  isUnlock : undo.isUnlock = true
  target : undo.target = taken.target

/-- What an `acquire` sends, by the answers that it gets. -/
inductive TreeLeafLock.Course (leaf : TreeLeafLock) : List Exchange → Outcome LockCommandResult → Prop
  | root {own} : leaf.checkTargets = [] → own.isLock = true → Course leaf [own] own.outcome
  | childFails {child second err} : leaf.checkTargets = [child.target, second] → child.isLock = true →
      checkFailure child.outcome = some err → Course leaf [child] (.error err)
  | parentFails {child parent undo err} : leaf.checkTargets = [child.target, parent.target] →
      child.isLock = true → checkFailure child.outcome = none → parent.isLock = true →
      checkFailure parent.outcome = some err → undo.Undoes child → Course leaf [child, parent, undo] (.error err)
  | acquired {child parent own result} : leaf.checkTargets = [child.target, parent.target] →
      child.isLock = true → parent.isLock = true → own.isLock = true → own.outcome = .ok result →
      Course leaf [child, parent, own] (.ok result)
  | ownFails {child parent own undoChild undoParent err} : leaf.checkTargets = [child.target, parent.target] →
      child.isLock = true → checkFailure child.outcome = none → parent.isLock = true →
      checkFailure parent.outcome = none → own.isLock = true → own.outcome = .error err → undoChild.Undoes child →
      undoParent.Undoes parent → Course leaf [child, parent, own, undoChild, undoParent] (.error err)

section Talk

variable {md5 : List UInt8 → Block 16} {leaf : TreeLeafLock} {said : Dialogue.Transcript Effect.Answer}

theorem TreeLeafLock.checkLock_talk {key lockId : Key16} {check : Lock}
    (talk : Dialogue.Talk (leaf.checkLock md5 key lockId) said check) :
    exchanges said = [] ∧ check.lockKey = key ∧ check.lockId = ⟨lockId.bytes⟩ := by
  obtain ⟨front, built, back, rfl, builds, last⟩ := Dialogue.talk_bind.mp talk
  obtain ⟨rfl, rfl⟩ := Dialogue.talk_pure.mp last
  obtain ⟨silent, atKey, atId, _⟩ := Lock.withLockId_talk builds
  rw [Key16.new_bytes] at atKey
  exact ⟨by rw [List.append_nil]; exact silent, atKey, atId⟩

theorem releaseCheck_talk {check : Lock} (talk : Dialogue.Talk (releaseCheck (some check)) said ()) :
    ∃ undo, exchanges said = [undo] ∧ undo.Of commandTypeUnlock check := by
  obtain ⟨front, value, back, rfl, releases, last⟩ := Dialogue.talk_bind.mp talk
  obtain ⟨rfl, _⟩ := Dialogue.talk_pure.mp last
  obtain ⟨undo, atSaid, of, _⟩ := Lock.releaseWithFlags_talk releases
  exact ⟨undo, by rw [List.append_nil]; exact atSaid, of⟩

/-- The lock of the leaf itself, after no check locks or two that were accepted. -/
theorem TreeLeafLock.acquireOwn_talk {childCheck parentCheck : Option Lock}
    {value : Outcome LockCommandResult × TreeLeafLock}
    (talk : Dialogue.Talk (leaf.acquireOwn childCheck parentCheck) said value) :
    ∃ own behind, own.isLock = true ∧ value.1 = own.outcome ∧
      ((∃ result, own.outcome = .ok result) ∧ exchanges said = [own] ∨
        (∃ err, own.outcome = .error err) ∧ exchanges said = own :: exchanges behind ∧
          Dialogue.Talk (releaseCheck childCheck >>= fun _ => releaseCheck parentCheck) behind ()) := by
  obtain ⟨front, ⟨outcome, lock⟩, back, rfl, acquires, rest⟩ := Dialogue.talk_bind.mp talk
  obtain ⟨own, atFront, of, same⟩ := Lock.acquireWithFlags_talk acquires
  have takes : own.isLock = true := beq_iff_eq.mpr of.commandType
  have atOutcome : outcome = own.outcome := (congrArg Prod.fst same).trans (Lock.finish_fst ..)
  cases outcome with
  | ok result =>
    obtain ⟨rfl, rfl⟩ := Dialogue.talk_pure.mp rest
    refine ⟨own, [], takes, atOutcome, .inl ⟨⟨result, atOutcome.symm⟩, ?_⟩⟩
    rw [List.append_nil, atFront]
  | error err =>
    obtain ⟨behind, _, last, rfl, first, rest⟩ := Dialogue.talk_bind.mp rest
    obtain ⟨behind', _, last', rfl, second, rest⟩ := Dialogue.talk_bind.mp rest
    obtain ⟨rfl, rfl⟩ := Dialogue.talk_pure.mp rest
    refine ⟨own, behind ++ behind', takes, atOutcome, .inr ⟨⟨err, atOutcome.symm⟩, ?_, ?_⟩⟩
    · rw [List.append_nil, exchanges_append, atFront]
      rfl
    · exact Dialogue.talk_bind.mpr ⟨behind, (), behind', rfl, first, second⟩

/-- A check lock is tried for with one LOCK command, and given back with one
UNLOCK command about the same. -/
theorem TreeLeafLock.tryCheck_talk {key lockId : Key16} {flag : UInt8} {β : Type}
    {rest : Outcome LockCommandResult × Lock → Program β} {value : β}
    (talk : Dialogue.Talk (do
      let check ← leaf.checkLock md5 key lockId
      let tried ← check.acquireWithFlags flag none
      rest tried) said value) :
    ∃ taken check behind, exchanges said = taken :: exchanges behind ∧ taken.isLock = true ∧
      taken.target = (key, ⟨lockId.bytes⟩) ∧ (check.lockKey, check.lockId) = taken.target ∧
      Dialogue.Talk (rest (taken.outcome, check)) behind value := by
  obtain ⟨building, check, _, rfl, builds, talk⟩ := Dialogue.talk_bind.mp talk
  obtain ⟨trying, _, behind, rfl, tries, later⟩ := Dialogue.talk_bind.mp talk
  obtain ⟨silent, atKey, atId⟩ := TreeLeafLock.checkLock_talk builds
  obtain ⟨taken, atTrying, of, rfl⟩ := Lock.acquireWithFlags_talk tries
  have outcome : (check.finish (expectLock taken.answer)).1 = taken.outcome := Lock.finish_fst ..
  have target : taken.target = (key, ⟨lockId.bytes⟩) := by rw [of.target, atKey, atId]
  refine ⟨taken, (check.finish (expectLock taken.answer)).2, behind, ?_, beq_iff_eq.mpr of.commandType, target, ?_, ?_⟩
  · rw [exchanges_append, exchanges_append, silent, atTrying]
    rfl
  · rw [of.target]
    cases expectLock taken.answer <;> rfl
  · rw [← outcome]
    exact later

theorem Exchange.Of.undoes {undo taken : Exchange} {check : Lock} (of : undo.Of commandTypeUnlock check)
    (same : (check.lockKey, check.lockId) = taken.target) : undo.Undoes taken :=
  ⟨beq_iff_eq.mpr of.commandType, of.target.trans same⟩

theorem TreeLeafLock.course {value : Outcome LockCommandResult × TreeLeafLock}
    (talk : Dialogue.Talk (leaf.acquire md5) said value) : leaf.Course (exchanges said) value.1 := by
  unfold TreeLeafLock.acquire at talk
  split at talk
  · rename_i root
    have none : leaf.checkTargets = [] := by rw [TreeLeafLock.checkTargets, root]
    obtain ⟨own, behind, takes, outcome, ⟨_, sent⟩ | ⟨_, sent, releases⟩⟩ := TreeLeafLock.acquireOwn_talk talk
    · rw [outcome, sent]
      exact .root none takes
    · obtain ⟨_, _, _, rfl, first, second⟩ := Dialogue.talk_bind.mp releases
      obtain ⟨rfl, _⟩ := Dialogue.talk_pure.mp first
      obtain ⟨rfl, _⟩ := Dialogue.talk_pure.mp second
      rw [outcome, sent]
      exact .root none takes
  · rename_i parentKey atParent
    have targets : leaf.checkTargets =
        [(leaf.treeLock.lock.lockKey, ⟨parentKey.bytes⟩), (parentKey, ⟨leaf.treeLock.lock.lockKey.bytes⟩)] := by
      rw [TreeLeafLock.checkTargets, atParent]
    obtain ⟨child, childCheck, _, sent, childTakes, childTarget, childSame, talk⟩ := TreeLeafLock.tryCheck_talk talk
    rw [← childTarget] at targets
    rw [sent]
    dsimp only at talk
    split at talk
    · rename_i err failed
      obtain ⟨rfl, rfl⟩ := Dialogue.talk_pure.mp talk
      exact .childFails targets childTakes failed
    · rename_i childAccepted
      obtain ⟨parent, parentCheck, _, sent, parentTakes, parentTarget, parentSame, talk⟩ :=
        TreeLeafLock.tryCheck_talk talk
      rw [← parentTarget] at targets
      rw [sent]
      dsimp only at talk
      split at talk
      · rename_i err failed
        obtain ⟨_, _, _, rfl, releases, talk⟩ := Dialogue.talk_bind.mp talk
        obtain ⟨rfl, rfl⟩ := Dialogue.talk_pure.mp talk
        obtain ⟨undo, sent, of⟩ := releaseCheck_talk releases
        rw [List.append_nil, sent]
        exact .parentFails targets childTakes childAccepted parentTakes failed (of.undoes childSame)
      · rename_i parentAccepted
        obtain ⟨own, behind, takes, outcome, ⟨⟨result, done⟩, sent⟩ | ⟨⟨err, failed⟩, sent, releases⟩⟩ :=
          TreeLeafLock.acquireOwn_talk talk
        · rw [outcome, sent, done]
          exact .acquired targets childTakes parentTakes takes done
        · obtain ⟨_, _, _, rfl, first, second⟩ := Dialogue.talk_bind.mp releases
          obtain ⟨undoChild, sentChild, ofChild⟩ := releaseCheck_talk first
          obtain ⟨undoParent, sentParent, ofParent⟩ := releaseCheck_talk second
          rw [outcome, sent, failed, exchanges_append, sentChild, sentParent]
          exact .ownFails targets childTakes childAccepted parentTakes parentAccepted takes failed
            (ofChild.undoes childSame) (ofParent.undoes parentSame)

end Talk

section Compensation

variable {leaf : TreeLeafLock} {sent : List Exchange} {outcome : Outcome LockCommandResult}

theorem Exchange.succeeded_eq_false {exchange : Exchange} {err : SlockError} (failed : exchange.outcome = .error err) :
    exchange.succeeded = false := by
  rw [← Bool.not_eq_true, Exchange.succeeded_iff, failed]
  rintro ⟨_, same⟩
  cases same

/-- To give back all check locks that were accepted is to give back those that
were taken exactly if none was held already. -/
theorem Exchange.undone_iff {undone accepted : List Exchange} (same : undone.map target = accepted.map target)
    (allAccepted : ∀ check ∈ accepted, checkFailure check.outcome = none) :
    (undone.map target).Perm ((accepted.filter succeeded).map target) ↔ ∀ check ∈ accepted, check.locked = false := by
  have taken : (∀ check ∈ accepted, check.locked = false) ↔ ∀ check ∈ accepted, check.succeeded = true :=
    forall₂_congr fun check member => (accepted_iff (allAccepted check member)).symm
  rw [taken, same]
  constructor
  · intro permuted
    have length := permuted.length_eq
    rw [List.length_map, List.length_map] at length
    exact List.length_filter_eq_length_iff.mp length.symm
  · intro all
    rw [List.filter_eq_self.mpr all]

/-- A call that fails compensates for the check locks that were accepted in it,
the first of those that it has tried for. -/
theorem TreeLeafLock.compensates_error_iff {err : SlockError} (accepted : List Exchange)
    (undone : (sent.filter Exchange.isUnlock).map Exchange.target = accepted.map Exchange.target)
    (allAccepted : ∀ check ∈ accepted, checkFailure check.outcome = none)
    (taken : (leaf.checks sent).filter Exchange.succeeded = accepted.filter Exchange.succeeded)
    (locked : (∀ check ∈ leaf.checks sent, check.locked = false) ↔ ∀ check ∈ accepted, check.locked = false)
    (owns : ∀ own ∈ leaf.owns sent, own.succeeded = false) :
    leaf.Compensates sent (.error err) ↔ leaf.Compensable sent := by
  have undone_iff := Exchange.undone_iff undone allAccepted
  constructor
  · intro compensates
    have permuted := compensates.failed err rfl
    rw [taken] at permuted
    exact .inl (locked.mpr (undone_iff.mp permuted))
  · rintro (unlocked | ⟨own, member, succeeded⟩)
    · refine ⟨fun _ _ => ?_, nofun⟩
      rw [taken]
      exact undone_iff.mpr (locked.mp unlocked)
    · cases succeeded.symm.trans (owns own member)

theorem TreeLeafLock.Course.compensates_iff (course : leaf.Course sent outcome) :
    leaf.Compensates sent outcome ↔ leaf.Compensable sent := by
  cases course with
  | @root own root takes =>
    have compensates : leaf.Compensates [own] own.outcome := by
      constructor <;> simp [TreeLeafLock.checks, root, Exchange.isUnlock_of_isLock takes]
    exact ⟨fun _ => .inl (by simp [TreeLeafLock.checks, root]), fun _ => compensates⟩
  | @childFails child _ err targets takes failed =>
    obtain ⟨untaken, unlocked⟩ := Exchange.of_failure failed
    have compensates : leaf.Compensates [child] (.error err) := by
      constructor <;> simp [TreeLeafLock.checks, targets, takes, Exchange.isUnlock_of_isLock takes, untaken]
    exact ⟨fun _ => .inl (by simp [TreeLeafLock.checks, targets, takes, unlocked]), fun _ => compensates⟩
  | @parentFails child parent undo err targets childTakes childAccepted parentTakes failed undoes =>
    obtain ⟨untaken, unlocked⟩ := Exchange.of_failure failed
    have undoTakes := Exchange.isLock_of_isUnlock undoes.isUnlock
    have checks : leaf.checks [child, parent, undo] = [child, parent] := by
      simp [TreeLeafLock.checks, targets, childTakes, parentTakes, undoTakes]
    have owns : leaf.owns [child, parent, undo] = [] := by
      simp [TreeLeafLock.owns, targets, childTakes, parentTakes, undoTakes]
    have unlocks : [child, parent, undo].filter Exchange.isUnlock = [undo] := by
      simp [Exchange.isUnlock_of_isLock, childTakes, parentTakes, undoes.isUnlock]
    refine TreeLeafLock.compensates_error_iff [child] ?_ ?_ ?_ ?_ ?_
    · rw [unlocks]
      simp [undoes.target]
    · simp [childAccepted]
    · rw [checks]
      simp [List.filter_cons, untaken]
    · rw [checks]
      simp [unlocked]
    · rw [owns]
      nofun
  | @acquired child parent own result targets childTakes parentTakes ownTakes done =>
    have taken : own.succeeded = true := Exchange.succeeded_iff.mpr ⟨result, done⟩
    have compensates : leaf.Compensates [child, parent, own] (.ok result) := by
      constructor <;> simp [Exchange.isUnlock_of_isLock, childTakes, parentTakes, ownTakes]
    exact ⟨fun _ => .inr ⟨own, by simp [TreeLeafLock.owns, targets, childTakes, parentTakes, ownTakes], taken⟩,
      fun _ => compensates⟩
  | @ownFails child parent own undoChild undoParent err targets childTakes childAccepted parentTakes parentAccepted
      ownTakes failed undoesChild undoesParent =>
    have undoChildTakes := Exchange.isLock_of_isUnlock undoesChild.isUnlock
    have undoParentTakes := Exchange.isLock_of_isUnlock undoesParent.isUnlock
    have checks : leaf.checks [child, parent, own, undoChild, undoParent] = [child, parent] := by
      simp [TreeLeafLock.checks, targets, childTakes, parentTakes, ownTakes, undoChildTakes, undoParentTakes]
    have owns : leaf.owns [child, parent, own, undoChild, undoParent] = [own] := by
      simp [TreeLeafLock.owns, targets, childTakes, parentTakes, ownTakes, undoChildTakes, undoParentTakes]
    have unlocks : [child, parent, own, undoChild, undoParent].filter Exchange.isUnlock = [undoChild, undoParent] := by
      simp [Exchange.isUnlock_of_isLock, childTakes, parentTakes, ownTakes, undoesChild.isUnlock, undoesParent.isUnlock]
    refine TreeLeafLock.compensates_error_iff [child, parent] ?_ ?_ ?_ ?_ ?_
    · rw [unlocks]
      simp [undoesChild.target, undoesParent.target]
    · simp [childAccepted, parentAccepted]
    · rw [checks]
    · rw [checks]
    · rw [owns]
      simp [Exchange.succeeded_eq_false failed]

/-- The check locks of a call are the ones that the leaf tries for. -/
theorem TreeLeafLock.Course.checks_targets (course : leaf.Course sent outcome) :
    (leaf.checks sent).map Exchange.target <+: leaf.checkTargets := by
  cases course with
  | root none => simp [TreeLeafLock.checks, none]
  | childFails targets takes => simp [TreeLeafLock.checks, targets, takes]
  | parentFails targets childTakes _ parentTakes | acquired targets childTakes parentTakes
  | ownFails targets childTakes _ parentTakes => simp [TreeLeafLock.checks, targets, childTakes, parentTakes]

end Compensation

/-- A call of `acquire` compensates exactly what it took if and only if no check
lock was held already, or the leaf itself is taken. -/
theorem TreeLeafLock.compensates_iff_compensable {md5 : List UInt8 → Block 16} {leaf after : TreeLeafLock}
    {said : Dialogue.Transcript Effect.Answer} {outcome : Outcome LockCommandResult}
    (talk : Dialogue.Talk (leaf.acquire md5) said (outcome, after)) :
    (leaf.checks (exchanges said)).map Exchange.target <+: leaf.checkTargets ∧
      (leaf.Compensates (exchanges said) outcome ↔ leaf.Compensable (exchanges said)) :=
  ⟨(TreeLeafLock.course talk).checks_targets, (TreeLeafLock.course talk).compensates_iff⟩

/-- A leaf of a child. -/
def childLeaf : TreeLeafLock :=
  let lock : Lock :=
    { database := ⟨0⟩, lockKey := ⟨Block.ofNatLE 16 1⟩, lockId := ⟨Block.ofNatLE 16 3⟩, timeout := ⟨5⟩, expired := ⟨10⟩,
      count := 0xffff, rCount := 1, currentData := none }
  ⟨⟨lock, some ⟨Block.ofNatLE 16 2⟩⟩, lock⟩

def noDigest (_key : List UInt8) : Block 16 := .zero 16

def answerWith (command : LockCommand) (result : UInt8) : Outcome CommandResult :=
  .ok (.lock
    { commandType := command.commandType, requestId := command.requestId, result := result, flag := 0,
      dbId := command.dbId, lockId := command.lockId, lockKey := command.lockKey, lCount := 0, count := command.count,
      lrCount := 0, rCount := command.rCount, data := none })

/-- A server that gives check locks one answer, lets the lock of the leaf time
out, and unlocks whatever it is asked to. -/
def leafTimesOut (check : UInt8) : Dialogue.Partner Effect.Answer
  | _, .send (.lock command) =>
    if command.commandType = commandTypeUnlock then answerWith command commandResultSucced
    else if command.lockId = childLeaf.lock.lockId then answerWith command commandResultTimeout
    else answerWith command check
  | _, .send _ => .error .notConnected
  | _, .newId => ⟨Block.zero 16⟩
  | _, .defaultTimeoutFlags => 0
  | _, .defaultExpiredFlags => 0

/-- The call of `acquire` that such a server answers. -/
def timedOutCall (check : UInt8) :
    Dialogue.Transcript Effect.Answer × Outcome LockCommandResult × TreeLeafLock :=
  Dialogue.run (leafTimesOut check) [] (childLeaf.acquire fun _ => Block.zero 16)

theorem timedOutCall_talk (check : UInt8) :
    Dialogue.Talk (childLeaf.acquire fun _ => Block.zero 16) (timedOutCall check).1
      ((timedOutCall check).2.1, (timedOutCall check).2.2) :=
  .of_run ..

/-- Check locks that an earlier leaf holds are given back when the leaf itself
times out. -/
theorem timedOutCall_not_compensates :
    ¬ ∀ (md5 : List UInt8 → Block 16) (leaf after : TreeLeafLock) said outcome,
      Dialogue.Talk (leaf.acquire md5) said (outcome, after) → leaf.Compensates (exchanges said) outcome := by
  intro claim
  have compensates := claim _ childLeaf _ _ _ (timedOutCall_talk commandResultLockedError)
  have fails : (timedOutCall commandResultLockedError).2.1.isOk = false := by decide
  have undone : ((exchanges (timedOutCall commandResultLockedError).1).filter Exchange.isUnlock).length = 2 := by decide
  have taken : ((childLeaf.checks (exchanges (timedOutCall commandResultLockedError).1)).filter
      Exchange.succeeded).length = 0 := by decide
  cases outcome : (timedOutCall commandResultLockedError).2.1 with
  | ok =>
    rw [outcome] at fails
    cases fails
  | error err =>
    have length := (compensates.failed err outcome).length_eq
    rw [List.length_map, List.length_map, undone, taken] at length
    cases length

/-- Check locks that were just taken are given back. -/
theorem compensates_timedOutCall :
    childLeaf.Compensates (exchanges (timedOutCall commandResultSucced).1) (timedOutCall commandResultSucced).2.1 := by
  refine (TreeLeafLock.compensates_iff_compensable (timedOutCall_talk commandResultSucced)).2.mpr (.inl ?_)
  decide

end Ruslock
