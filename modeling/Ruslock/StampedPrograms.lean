import Ruslock.CurrentData
import Ruslock.RequestStream

namespace Ruslock
open Wire

/-- The programs that are put together from new ids, default flags and lock
commands. -/
inductive Spoken : {α : Type} → Program α → Prop
  | pure {α} (value : α) : Spoken (Pure.pure value)
  | bind {α β} {program : Program α} {rest : α → Program β} :
      Spoken program → (∀ value, Spoken (rest value)) → Spoken (program >>= rest)
  | newId : Spoken Id16.new
  | timeoutFlags : Spoken (Dialogue.question Effect.defaultTimeoutFlags)
  | expiredFlags : Spoken (Dialogue.question Effect.defaultExpiredFlags)
  | sendLock {lock : Lock} {commandType flag : UInt8} {lockId : Id16} {data : Option LockData} :
      commandType = commandTypeLock ∨ commandType = commandTypeUnlock →
      Spoken (lock.sendLock commandType (flagWithData lockFlagContainsData flag data) lockId data)

section Locks

variable {md5 : List UInt8 → Block 16} {database : Database} {key : List UInt8} {timeout expired : UInt16} {lock : Lock}

theorem Spoken.map {α β : Type} {wrap : α → β} {program : Program α} (spoken : Spoken program) :
    Spoken (wrap <$> program) :=
  spoken.bind fun _ => .pure _

theorem Spoken.leaving {Outcome Self : Type} {wrap : Self → Primitive} {program : Program (Outcome × Self)}
    (spoken : Spoken program) : Spoken (Ruslock.leaving wrap program) :=
  spoken.bind fun _ => .pure _

theorem Lock.new_spoken : Spoken (Lock.new md5 database key timeout expired) := by
  refine .bind (.bind .timeoutFlags fun _ => .pure _) fun _ => ?_
  refine .bind (.bind .expiredFlags fun _ => .pure _) fun _ => ?_
  exact .bind .newId fun _ => .pure _

theorem Lock.withLockId_spoken {lockId : Id16} {count : UInt16} {rCount : UInt8} :
    Spoken (Lock.withLockId md5 database key lockId timeout expired count rCount) := by
  refine .bind (.bind .timeoutFlags fun _ => .pure _) fun _ => ?_
  exact .bind (.bind .expiredFlags fun _ => .pure _) fun _ => .pure _

theorem Lock.acquireWithFlags_spoken {flag : UInt8} {data : Option LockData} : Spoken (lock.acquireWithFlags flag data) :=
  .bind (.sendLock (.inl rfl)) fun _ => .pure _

theorem Lock.releaseWithFlags_spoken {flag : UInt8} {data : Option LockData} : Spoken (lock.releaseWithFlags flag data) :=
  .bind (.sendLock (.inr rfl)) fun _ => .pure _

theorem Lock.releaseHead_spoken {data : Option LockData} : Spoken (lock.releaseHead data) :=
  .bind (.sendLock (.inr rfl)) fun _ => .pure _

theorem Lock.acquire_spoken : Spoken lock.acquire := Lock.acquireWithFlags_spoken

theorem Lock.release_spoken : Spoken lock.release := Lock.releaseWithFlags_spoken

theorem Lock.update_spoken {data : Option LockData} : Spoken (lock.update data) :=
  .bind Lock.acquireWithFlags_spoken fun _ => .pure _

theorem Lock.show_spoken : Spoken lock.show := by
  refine .bind Lock.acquireWithFlags_spoken ?_
  rintro ⟨outcome, lock⟩
  dsimp only
  split <;> exact .pure _

end Locks

section Primitives

variable {md5 : List UInt8 → Block 16}

theorem Event.checkLock_spoken {event : Event} {timeout : UInt16} : Spoken (event.checkLock md5 timeout) := by
  refine .bind Lock.new_spoken fun lock => ?_
  split <;> exact .pure _

theorem Event.setWithData_spoken {event : Event} {data : Option LockData} : Spoken (event.setWithData md5 data) := by
  unfold Event.setWithData
  split
  · exact .bind Lock.withLockId_spoken fun _ => .bind Lock.releaseWithFlags_spoken fun _ => .pure _
  · exact .bind Lock.withLockId_spoken fun _ => .bind Lock.update_spoken fun _ => .pure _

theorem Event.clear_spoken {event : Event} : Spoken (event.clear md5) := by
  unfold Event.clear
  split
  · exact .bind Lock.withLockId_spoken fun _ => .bind Lock.update_spoken fun _ => .pure _
  · exact .bind Lock.withLockId_spoken fun _ => .bind Lock.release_spoken fun _ => .pure _

theorem GroupEvent.wakeup_spoken {event : GroupEvent} {data : Option LockData} : Spoken (event.wakeup md5 data) := by
  refine .bind Lock.withLockId_spoken fun lock => .bind Lock.releaseWithFlags_spoken ?_
  rintro ⟨outcome, lock⟩
  dsimp only
  split <;> exact .pure _

theorem GroupEvent.wait_spoken {event : GroupEvent} {timeout : UInt16} : Spoken (event.wait md5 timeout) := by
  refine .bind Lock.withLockId_spoken fun lock => .bind Lock.acquire_spoken ?_
  rintro ⟨outcome, lock⟩
  dsimp only
  split <;> exact .pure _

theorem ReadWriteLock.acquireRead_spoken {self : ReadWriteLock} : Spoken (self.acquireRead md5) := by
  refine .bind Lock.new_spoken fun lock => .bind Lock.acquire_spoken ?_
  rintro ⟨outcome, lock⟩
  dsimp only
  split <;> exact .pure _

theorem ReadWriteLock.releaseRead_spoken {self : ReadWriteLock} : Spoken self.releaseRead := by
  unfold ReadWriteLock.releaseRead
  split
  · exact .pure _
  · exact .bind Lock.release_spoken fun _ => .pure _

theorem TreeLock.loadChild_spoken {tree : TreeLock} {key : List UInt8} : Spoken (tree.loadChild md5 key) :=
  .bind (.bind Lock.new_spoken fun _ => .pure _) fun _ => .pure _

theorem TreeLock.loadLeafLock_spoken {tree : TreeLock} {lockId : Id16} : Spoken (tree.loadLeafLock md5 lockId) :=
  .bind Lock.withLockId_spoken fun _ => .pure _

theorem releaseCheck_spoken {check : Option Lock} : Spoken (releaseCheck check) := by
  cases check with
  | none => exact .pure _
  | some lock => exact .bind Lock.release_spoken fun _ => .pure _

theorem TreeLeafLock.acquireOwn_spoken {leaf : TreeLeafLock} {child parent : Option Lock} :
    Spoken (leaf.acquireOwn child parent) := by
  refine .bind Lock.acquire_spoken ?_
  rintro ⟨outcome, lock⟩
  dsimp only
  split
  · exact .pure _
  · exact .bind releaseCheck_spoken fun _ => .bind releaseCheck_spoken fun _ => .pure _

theorem TreeLeafLock.acquire_spoken {leaf : TreeLeafLock} : Spoken (leaf.acquire md5) := by
  have checked : ∀ key lockId, Spoken (leaf.checkLock md5 key lockId) :=
    fun key lockId => .bind Lock.withLockId_spoken fun _ => .pure _
  unfold TreeLeafLock.acquire
  split
  · exact TreeLeafLock.acquireOwn_spoken
  · refine .bind (checked _ _) fun check => .bind Lock.acquireWithFlags_spoken ?_
    rintro ⟨outcome, childCheck⟩
    dsimp only
    split
    · exact .pure _
    · refine .bind (checked _ _) fun check => .bind Lock.acquire_spoken ?_
      rintro ⟨outcome, parentCheck⟩
      dsimp only
      split
      · exact .bind releaseCheck_spoken fun _ => .pure _
      · exact TreeLeafLock.acquireOwn_spoken

end Primitives

section Calls

variable {md5 : List UInt8 → Block 16} {call : Call} {program : Program Primitive}

theorem Lock.call_spoken {self : Lock} (operation : (Primitive.lock self).call md5 call = some program) :
    Spoken program := by
  cases call with
  | acquire => cases operation; exact Lock.acquire_spoken.leaving
  | release => cases operation; exact Lock.release_spoken.leaving
  | acquireWithFlags => cases operation; exact Lock.acquireWithFlags_spoken.leaving
  | releaseWithFlags => cases operation; exact Lock.releaseWithFlags_spoken.leaving
  | «show» => cases operation; exact Lock.show_spoken.leaving
  | update => cases operation; exact Lock.update_spoken.leaving
  | releaseHead => cases operation; exact Lock.releaseHead_spoken.leaving
  | releaseHeadToLockWait => cases operation; exact Lock.releaseWithFlags_spoken.leaving
  | setCount | setRCount => cases operation; exact .pure _
  | _ => cases operation

theorem Event.call_spoken {self : Event} (operation : (Primitive.event self).call md5 call = some program) :
    Spoken program := by
  cases call with
  | isSet =>
    cases operation
    exact (Spoken.bind Event.checkLock_spoken fun _ => .bind Lock.acquire_spoken fun _ => .pure _).leaving
  | set | setWithData => cases operation; exact Event.setWithData_spoken.leaving
  | clear => cases operation; exact Event.clear_spoken.leaving
  | wait =>
    cases operation
    exact (Spoken.bind Event.checkLock_spoken fun _ => .bind Lock.acquire_spoken fun _ => .pure _).leaving
  | _ => cases operation

theorem GroupEvent.call_spoken {self : GroupEvent} (operation : (Primitive.groupEvent self).call md5 call = some program) :
    Spoken program := by
  cases call with
  | isSet =>
    cases operation
    refine (Spoken.bind .newId fun _ => ?_).leaving
    exact .bind Lock.withLockId_spoken fun _ => .bind Lock.acquire_spoken fun _ => .pure _
  | set =>
    cases operation
    exact (Spoken.bind Lock.withLockId_spoken fun _ => .bind Lock.releaseHead_spoken fun _ => .pure _).leaving
  | clear =>
    cases operation
    exact (Spoken.bind Lock.withLockId_spoken fun _ => .bind Lock.update_spoken fun _ => .pure _).leaving
  | wakeup => cases operation; exact GroupEvent.wakeup_spoken.leaving
  | wait => cases operation; exact GroupEvent.wait_spoken.leaving
  | _ => cases operation

theorem Semaphore.call_spoken {self : Semaphore} (operation : (Primitive.semaphore self).call md5 call = some program) :
    Spoken program := by
  cases call with
  | acquire =>
    cases operation
    exact (Spoken.bind Lock.new_spoken fun _ => .bind Lock.acquire_spoken fun _ => .pure _).leaving
  | release =>
    cases operation
    exact (Spoken.bind Lock.withLockId_spoken fun _ => .bind Lock.releaseHead_spoken fun _ => .pure _).leaving
  | _ => cases operation

theorem ReadWriteLock.call_spoken {self : ReadWriteLock}
    (operation : (Primitive.readWriteLock self).call md5 call = some program) : Spoken program := by
  cases call with
  | acquireWrite => cases operation; exact (Spoken.bind Lock.acquire_spoken fun _ => .pure _).leaving
  | releaseWrite => cases operation; exact (Spoken.bind Lock.release_spoken fun _ => .pure _).leaving
  | acquireRead => cases operation; exact ReadWriteLock.acquireRead_spoken.leaving
  | releaseRead => cases operation; exact ReadWriteLock.releaseRead_spoken.leaving
  | _ => cases operation

theorem TreeLock.call_spoken {self : TreeLock} (operation : (Primitive.treeLock self).call md5 call = some program) :
    Spoken program := by
  cases call with
  | acquire => cases operation; exact (Spoken.bind Lock.acquireWithFlags_spoken fun _ => .pure _).leaving
  | release => cases operation; exact (Spoken.bind Lock.releaseWithFlags_spoken fun _ => .pure _).leaving
  | wait =>
    cases operation
    refine (Spoken.bind .newId fun _ => ?_).leaving
    exact .bind Lock.withLockId_spoken fun _ => .bind Lock.acquire_spoken fun _ => .pure _
  | newChild => cases operation; exact (Spoken.bind .newId fun _ => TreeLock.loadChild_spoken).map
  | loadChild => cases operation; exact TreeLock.loadChild_spoken.map
  | newLeafLock => cases operation; exact (Spoken.bind .newId fun _ => TreeLock.loadLeafLock_spoken).map
  | loadLeafLock => cases operation; exact TreeLock.loadLeafLock_spoken.map
  | _ => cases operation

theorem TreeLeafLock.call_spoken {self : TreeLeafLock}
    (operation : (Primitive.treeLeafLock self).call md5 call = some program) : Spoken program := by
  cases call with
  | acquire => cases operation; exact TreeLeafLock.acquire_spoken.leaving
  | release => cases operation; exact (Spoken.bind Lock.releaseWithFlags_spoken fun _ => .pure _).leaving
  | _ => cases operation

theorem Primitive.Wraps.call_spoken {wrap : Lock → Primitive} {lock : Lock} (wraps : Primitive.Wraps wrap)
    (operation : (wrap lock).call md5 call = some program) : Spoken program := by
  cases wraps with
  | reentrantLock | priorityLock | maxConcurrentFlow =>
    cases call with
    | acquire => cases operation; exact (Spoken.bind Lock.acquire_spoken fun _ => .pure _).leaving
    | release => cases operation; exact (Spoken.bind Lock.release_spoken fun _ => .pure _).leaving
    | _ => cases operation
  | tokenBucketFlow =>
    cases call with
    | acquire => cases operation; exact (Spoken.bind Lock.acquire_spoken fun _ => .pure _).leaving
    | _ => cases operation

/-- Every call of every primitive is such a program. -/
theorem Primitive.call_spoken {self : Primitive} (operation : self.call md5 call = some program) : Spoken program := by
  cases self with
  | lock => exact Lock.call_spoken operation
  | event => exact Event.call_spoken operation
  | groupEvent => exact GroupEvent.call_spoken operation
  | semaphore => exact Semaphore.call_spoken operation
  | reentrantLock self => exact (Primitive.Wraps.reentrantLock self).call_spoken operation
  | readWriteLock => exact ReadWriteLock.call_spoken operation
  | priorityLock self => exact (Primitive.Wraps.priorityLock self).call_spoken operation
  | maxConcurrentFlow self => exact (Primitive.Wraps.maxConcurrentFlow self).call_spoken operation
  | tokenBucketFlow self => exact (Primitive.Wraps.tokenBucketFlow self).call_spoken operation
  | treeLock => exact TreeLock.call_spoken operation
  | treeLeafLock => exact TreeLeafLock.call_spoken operation

/-- And so is the making of every primitive. -/
theorem Database.create_spoken (database : Database) (factory : Factory) : Spoken (database.create md5 factory) := by
  cases factory with
  | semaphore => exact .pure _
  | lock => exact Lock.new_spoken.map
  | groupEvent => exact (Spoken.bind Lock.withLockId_spoken fun _ => .pure _).map
  | event | reentrantLock | readWriteLock | priorityLock | maxConcurrentFlow | treeLock =>
    exact (Spoken.bind Lock.new_spoken fun _ => .pure _).map
  | tokenBucketFlow key count timeout short rounded =>
    refine (Spoken.bind Lock.new_spoken fun lock => ?_).map
    dsimp only
    split <;> exact .pure _

end Calls

/-- A command whose header bears a type of the protocol and announces its data. -/
def Command.Announced : Command → Prop
  | .lock command =>
    (command.commandType = commandTypeLock ∨ command.commandType = commandTypeUnlock) ∧
      (command.data.isSome = true → command.flag &&& lockFlagContainsData ≠ 0)
  | _ => True

/-- A program that sends nothing but such commands, each under an id that it
has just drawn for it. -/
inductive Stamped {α : Type} : Program α → Prop
  | done {value} : Stamped (.done value)
  | newId {next} : (∀ id, Stamped (next id)) → Stamped (.ask .newId next)
  | timeoutFlags {next} : (∀ flags, Stamped (next flags)) → Stamped (.ask .defaultTimeoutFlags next)
  | expiredFlags {next} : (∀ flags, Stamped (next flags)) → Stamped (.ask .defaultExpiredFlags next)
  | send {command : Id16 → Command} {next : (id : Id16) → Outcome CommandResult → Program α} :
      (∀ id, (command id).requestId = id ∧ (command id).Announced) → (∀ id answer, Stamped (next id answer)) →
      Stamped (.ask .newId fun id => .ask (.send (command id)) (next id))

theorem Stamped.bind {α β : Type} {program : Program α} {rest : α → Program β} (first : Stamped program)
    (later : ∀ value, Stamped (rest value)) : Stamped (program >>= rest) := by
  induction first with
  | done => exact later _
  | newId _ ih => exact .newId ih
  | timeoutFlags _ ih => exact .timeoutFlags ih
  | expiredFlags _ ih => exact .expiredFlags ih
  | send stamps _ ih => exact .send stamps ih

theorem flagWithData_announces {flag : UInt8} {data : Option LockData} (withData : data.isSome = true) :
    flagWithData lockFlagContainsData flag data &&& lockFlagContainsData ≠ 0 := by
  intro zero
  have bits := congrArg UInt8.toBitVec zero
  rw [flagWithData, if_pos withData, UInt8.toBitVec_and, UInt8.toBitVec_or, BitVec.and_or_distrib_right,
    BitVec.and_self] at bits
  exact absurd (BitVec.or_eq_zero_iff.mp bits).2 (by decide)

theorem Lock.sendLock_stamped {lock : Lock} {commandType flag : UInt8} {lockId : Id16} {data : Option LockData}
    (known : commandType = commandTypeLock ∨ commandType = commandTypeUnlock) :
    Stamped (lock.sendLock commandType (flagWithData lockFlagContainsData flag data) lockId data) :=
  .send (fun _ => ⟨rfl, known, flagWithData_announces⟩) fun _ _ => .done

theorem Spoken.stamped {α : Type} {program : Program α} (spoken : Spoken program) : Stamped program := by
  induction spoken with
  | pure => exact .done
  | bind _ _ first later => exact first.bind later
  | newId => exact .newId fun _ => .done
  | timeoutFlags => exact .timeoutFlags fun _ => .done
  | expiredFlags => exact .expiredFlags fun _ => .done
  | sendLock known => exact Lock.sendLock_stamped known

theorem Primitive.perform_stamped {md5 : List UInt8 → Block 16} (call : Call) (self : Primitive) :
    Stamped (self.perform md5 call) := by
  unfold Primitive.perform
  cases operation : self.call md5 call with
  | none => exact .done
  | some program => exact (Primitive.call_spoken operation).stamped

/-- A primitive that is built, and called again and again. -/
theorem Primitive.session_stamped {md5 : List UInt8 → Block 16} {calls : List Call} {build : Program Primitive}
    (built : Stamped build) : Stamped (build >>= Dialogue.session (Primitive.perform md5) calls) := by
  refine built.bind fun self => ?_
  induction calls generalizing self with
  | nil => exact .done
  | cons call calls ih => exact (Primitive.perform_stamped call self).bind ih

/-- A command that announces its data and can be encoded has data exactly when
its flag says so. -/
theorem Command.Announced.wellFlagged {command : Command} {encoded : EncodedCommand} (announced : command.Announced)
    (run : command.encode = .ok encoded) : command.WellFlagged := by
  cases command with
  | init | ping => trivial
  | lock command =>
    obtain ⟨known, announces⟩ := announced
    refine ⟨known, fun bit => ?_, announces⟩
    obtain ⟨extra, atExtra, _⟩ := Command.encode_lock run
    rw [LockCommand.extra, if_pos ((LockCommand.hasExtraData_iff command).mpr bit)] at atExtra
    cases present : command.data with
    | none =>
      rw [present] at atExtra
      cases atExtra
    | some => rfl

/-- In front of every command stands the id that was drawn for it. -/
theorem Stamped.sends {α : Type} {program : Program α} {said front back : Dialogue.Transcript Effect.Answer} {value : α}
    {command : Command} {answer : Outcome CommandResult} (stamped : Stamped program)
    (talk : Dialogue.Talk program said value) (sent : said = front ++ ⟨.send command, answer⟩ :: back) :
    command.Announced ∧ ∃ earlier, front = earlier ++ [⟨.newId, command.requestId⟩] := by
  induction stamped generalizing said front with
  | done =>
    cases talk
    exact absurd sent.symm (List.append_ne_nil_of_right_ne_nil front (List.cons_ne_nil _ _))
  | newId _ ih | timeoutFlags _ ih | expiredFlags _ ih =>
    cases talk with
    | ask later =>
      cases front with
      | nil => cases sent
      | cons entry front =>
        obtain ⟨rfl, same⟩ := List.cons.inj sent
        obtain ⟨announced, earlier, rfl⟩ := ih _ later same
        exact ⟨announced, _ :: earlier, rfl⟩
  | @send stamp next stamps _ ih =>
    cases talk with
    | @ask _ _ id _ _ later =>
      cases later with
      | ask later =>
        cases front with
        | nil => cases sent
        | cons entry front =>
          obtain ⟨rfl, same⟩ := List.cons.inj sent
          cases front with
          | nil =>
            cases same
            obtain ⟨own, announced⟩ := stamps id
            exact ⟨announced, [], by rw [own]; rfl⟩
          | cons entry front =>
            obtain ⟨rfl, tail⟩ := List.cons.inj same
            obtain ⟨announced, earlier, rfl⟩ := ih _ _ later tail
            exact ⟨announced, _ :: _ :: earlier, rfl⟩

/-- Whatever a call of a primitive sends goes out under an id that was drawn
for it directly before, and a server reads back from its frame what it asks for. -/
theorem commands_of_call {md5 : List UInt8 → Block 16} {self after : Primitive} {call : Call} {program : Program Primitive}
    {said front back : Dialogue.Transcript Effect.Answer} {command : Command} {answer : Outcome CommandResult}
    (operation : self.call md5 call = some program) (talk : Dialogue.Talk program said after)
    (sent : said = front ++ ⟨.send command, answer⟩ :: back) :
    (∃ earlier, front = earlier ++ [⟨.newId, command.requestId⟩]) ∧
      ∀ encoded, command.encode = .ok encoded →
        ∀ rest, parseRequest (encoded.frame ++ rest) = some (command.toRequest, rest) := by
  obtain ⟨announced, own⟩ := (Primitive.call_spoken operation).stamped.sends talk sent
  exact ⟨own, fun encoded run rest => parseRequest_frame rest (announced.wellFlagged run) run⟩

/-- A lock that is about to be taken with the data `a`. -/
def freeLock : Lock where
  database := ⟨0⟩
  lockKey := ⟨Block.zero 16⟩
  lockId := .zero
  timeout := ⟨5⟩
  expired := ⟨6⟩
  count := 0
  rCount := 0
  currentData := none

def letterA : Option LockData := some (.mk 0 0 0 (.bytes [97]))

/-- Nobody answers its LOCK command. -/
def unanswered : Dialogue.Partner Effect.Answer
  | _, .send _ => .error .commandTimeout
  | _, .newId => ⟨Block.ofNatLE 16 7⟩
  | _, .defaultTimeoutFlags => 0
  | _, .defaultExpiredFlags => 0

theorem commands_of_call_letterA :
    ∃ encoded, (Command.lock (freeLock.command commandTypeLock 0x20 .zero letterA ⟨Block.ofNatLE 16 7⟩)).encode = .ok encoded ∧
      parseRequest (encoded.frame ++ [magic]) = some (Command.toRequest
        (.lock (freeLock.command commandTypeLock 0x20 .zero letterA ⟨Block.ofNatLE 16 7⟩)), [magic]) := by
  have operation : (Primitive.lock freeLock).call (fun _ => Block.zero 16) (.acquireWithFlags 0 letterA) =
      some (leaving .lock (freeLock.acquireWithFlags 0 letterA)) := rfl
  have talk := Dialogue.Talk.of_run unanswered [] (leaving .lock (freeLock.acquireWithFlags 0 letterA))
  have sent : (Dialogue.run unanswered [] (leaving .lock (freeLock.acquireWithFlags 0 letterA))).1 =
      [⟨.newId, ⟨Block.ofNatLE 16 7⟩⟩] ++
        ⟨.send (.lock (freeLock.command commandTypeLock 0x20 .zero letterA ⟨Block.ofNatLE 16 7⟩)),
          .error .commandTimeout⟩ :: [] := rfl
  exact ⟨_, rfl, (commands_of_call operation talk sent).2 _ rfl _⟩

end Ruslock
