import Ruslock.Command
import Ruslock.Lib.Dialogue

namespace Ruslock
open Wire

/-- What a primitive asks of its surroundings: to send a command and wait for
its result, a new id, and the default flags of its database, which others may
change at any time. -/
inductive Effect
  | send (command : Command)
  | newId
  | defaultTimeoutFlags
  | defaultExpiredFlags

abbrev Effect.Answer : Effect → Type
  | .send _ => Outcome CommandResult
  | .newId => Id16
  | .defaultTimeoutFlags => UInt16
  | .defaultExpiredFlags => UInt16

abbrev Program := Dialogue Effect.Answer

/-- `Id16::new`. -/
def Id16.new : Program Id16 := Dialogue.question Effect.newId

structure Database where
  dbId : UInt8
  deriving DecidableEq

def Database.timeout (_database : Database) (value : UInt16) : Program PackedTime := do
  let flags ← Dialogue.question Effect.defaultTimeoutFlags
  pure (.withFlags value flags)

def Database.expired (_database : Database) (value : UInt16) : Program PackedTime := do
  let flags ← Dialogue.question Effect.defaultExpiredFlags
  pure (.withFlags value flags)

def Database.sendCommand (_database : Database) (command : Command) : Program (Outcome CommandResult) :=
  Dialogue.question (Effect.send command)

structure Lock where
  database : Database
  lockKey : Key16
  lockId : Id16
  timeout : PackedTime
  expired : PackedTime
  count : UInt16
  rCount : UInt8
  currentData : Option LockResultData
  deriving DecidableEq

def Lock.new (md5 : List UInt8 → Block 16) (database : Database) (key : List UInt8) (timeout expired : UInt16) :
    Program Lock := do
  let timeout ← database.timeout timeout
  let expired ← database.expired expired
  let lockId ← Id16.new
  pure { database := database, lockKey := .new md5 key, lockId := lockId, timeout := timeout, expired := expired,
         count := 0, rCount := 0, currentData := none }

/-- `Lock::with_lock_id`. -/
def Lock.withLockId (md5 : List UInt8 → Block 16) (database : Database) (key : List UInt8) (lockId : Id16)
    (timeout expired : UInt16) (count : UInt16) (rCount : UInt8) : Program Lock := do
  let timeout ← database.timeout timeout
  let expired ← database.expired expired
  pure { database := database, lockKey := .new md5 key, lockId := lockId, timeout := timeout, expired := expired,
         count := count, rCount := rCount, currentData := none }

def Lock.setCount (lock : Lock) (count : UInt16) : Lock := { lock with count := count }

def Lock.setRCount (lock : Lock) (rCount : UInt8) : Lock := { lock with rCount := rCount }

def Lock.command (lock : Lock) (commandType flag : UInt8) (lockId : Id16) (data : Option LockData) (requestId : Id16) :
    LockCommand where
  commandType := commandType
  flag := flag
  dbId := lock.database.dbId
  requestId := requestId
  lockKey := lock.lockKey
  lockId := lockId
  timeout := lock.timeout
  expired := lock.expired
  count := lock.count
  rCount := lock.rCount
  data := data

/-- The `match` on what `Database::send_command` has returned. -/
def expectLock : Outcome CommandResult → Outcome LockCommandResult
  | .error err => .error err
  | .ok (.lock result) => .ok result
  | .ok _ => .error (.protocol "expected lock result")

def Lock.sendLock (lock : Lock) (commandType flag : UInt8) (lockId : Id16) (data : Option LockData) :
    Program (Outcome LockCommandResult) := do
  let requestId ← Id16.new
  let answer ← lock.database.sendCommand (.lock (lock.command commandType flag lockId data requestId))
  pure (expectLock answer)

/-- The outcome that a result code stands for. -/
def resultOutcome (result : LockCommandResult) : Outcome LockCommandResult :=
  if result.result = commandResultSucced then .ok result
  else if result.result = commandResultLockedError then .error (.lockLocked result)
  else if result.result = commandResultUnlockError then .error (.lockUnlocked result)
  else if result.result = commandResultUnownError then .error (.lockNotOwn result)
  else if result.result = commandResultTimeout then .error (.lockTimeout result)
  else if result.result = commandResultExpried then .error (.lockExpired result)
  else if result.result = commandResultStateError then .error (.stateError result)
  else .error (.server result.result)

def Lock.applyResult (lock : Lock) (result : LockCommandResult) : Outcome LockCommandResult × Lock :=
  (resultOutcome result, { lock with currentData := result.data })

/-- What an operation makes of the outcome of its `send_lock`. -/
def Lock.finish (lock : Lock) : Outcome LockCommandResult → Outcome LockCommandResult × Lock
  | .error err => (.error err, lock)
  | .ok result => lock.applyResult result

/-- The flag with the bit that announces data. -/
def flagWithData (containsData flag : UInt8) (data : Option LockData) : UInt8 :=
  if data.isSome then flag ||| containsData else flag

def Lock.acquireWithFlags (lock : Lock) (flag : UInt8) (data : Option LockData) :
    Program (Outcome LockCommandResult × Lock) := do
  let outcome ← lock.sendLock commandTypeLock (flagWithData lockFlagContainsData flag data) lock.lockId data
  pure (lock.finish outcome)

def Lock.releaseWithFlags (lock : Lock) (flag : UInt8) (data : Option LockData) :
    Program (Outcome LockCommandResult × Lock) := do
  let outcome ← lock.sendLock commandTypeUnlock (flagWithData unlockFlagContainsData flag data) lock.lockId data
  pure (lock.finish outcome)

def Lock.acquire (lock : Lock) : Program (Outcome LockCommandResult × Lock) := lock.acquireWithFlags 0 none

def Lock.release (lock : Lock) : Program (Outcome LockCommandResult × Lock) := lock.releaseWithFlags 0 none

def Lock.show (lock : Lock) : Program (Outcome (Option LockCommandResult) × Lock) := do
  let (outcome, lock) ← lock.acquireWithFlags lockFlagShowWhenLocked none
  match outcome with
  | .ok result => pure (.ok (some result), lock)
  | .error (.lockNotOwn result) => pure (.ok (some result), lock)
  | .error err => pure (.error err, lock)

/-- What `update` makes of the outcome of its `acquire_with_flags`. -/
def updateOutcome : Outcome LockCommandResult → Outcome Unit
  | .ok _ => .ok ()
  | .error (.lockLocked _) => .ok ()
  | .error err => .error err

def Lock.update (lock : Lock) (data : Option LockData) : Program (Outcome Unit × Lock) := do
  let (outcome, lock) ← lock.acquireWithFlags lockFlagUpdateWhenLocked data
  pure (updateOutcome outcome, lock)

def Lock.releaseHead (lock : Lock) (data : Option LockData) : Program (Outcome Unit × Lock) := do
  let outcome ← lock.sendLock commandTypeUnlock
    (flagWithData unlockFlagContainsData unlockFlagUnlockFirstLockWhenUnlocked data) .zero data
  let (outcome, lock) := lock.finish outcome
  pure (outcome.map fun _ => (), lock)

def Lock.releaseHeadToLockWait (lock : Lock) (data : Option LockData) : Program (Outcome LockCommandResult × Lock) :=
  lock.releaseWithFlags (unlockFlagUnlockFirstLockWhenUnlocked ||| unlockFlagSuccedToLockWait) data

/-- A lock command that was sent, with what `Database::send_command` has
returned for it. -/
structure Exchange where
  command : LockCommand
  answer : Outcome CommandResult

namespace Exchange

/-- The lock that a command is about, and who takes or gives it back. -/
def target (exchange : Exchange) : Key16 × Id16 := (exchange.command.lockKey, exchange.command.lockId)

/-- The command was answered with success. -/
def succeeded (exchange : Exchange) : Bool :=
  match exchange.answer with
  | .ok (.lock result) => result.result == commandResultSucced
  | _ => false

/-- The command was answered with LOCKED_ERROR. -/
def locked (exchange : Exchange) : Bool :=
  match exchange.answer with
  | .ok (.lock result) => result.result == commandResultLockedError
  | .error (.lockLocked _) => true
  | _ => false

/-- The result that was received. -/
def result (exchange : Exchange) : Option LockCommandResult :=
  match exchange.answer with
  | .ok (.lock result) => some result
  | _ => none

/-- The outcome of the operation that has sent a command. -/
def outcome (exchange : Exchange) : Outcome LockCommandResult := expectLock exchange.answer >>= resultOutcome

/-- What a lock has as its data once the command has been answered. -/
def dataAfter (exchange : Exchange) (before : Option LockResultData) : Option LockResultData :=
  match exchange.result with
  | some result => result.data
  | none => before

end Exchange

/-- The lock commands of a dialogue in their order. -/
def exchanges (said : Dialogue.Transcript Effect.Answer) : List Exchange :=
  said.filterMap fun
    | ⟨.send (.lock command), answer⟩ => some ⟨command, answer⟩
    | _ => none

@[simp] theorem exchanges_append (front back : Dialogue.Transcript Effect.Answer) :
    exchanges (front ++ back) = exchanges front ++ exchanges back :=
  List.filterMap_append

theorem Key16.new_bytes (md5 : List UInt8 → Block 16) (key : Key16) : Key16.new md5 key.bytes.toList = key := by
  have fits : key.bytes.toList.length ≤ 16 := key.bytes.length_eq.le
  have same : Block.padLeft key.bytes.toList fits = key.bytes := by
    ext1
    simp only [Block.padLeft, Block.length_eq, Nat.sub_self, List.replicate_zero, List.nil_append]
  rw [Key16.new, dif_pos fits, same]

theorem Lock.finish_fst (lock : Lock) (outcome : Outcome LockCommandResult) :
    (lock.finish outcome).1 = outcome >>= resultOutcome := by
  cases outcome <;> rfl

/-- An operation leaves the data of its result behind, and nothing else. -/
theorem Lock.finish_answer (lock : Lock) (exchange : Exchange) :
    lock.finish (expectLock exchange.answer) =
      (exchange.outcome, { lock with currentData := exchange.dataAfter lock.currentData }) := by
  obtain ⟨command, answer⟩ := exchange
  rcases answer with err | (_ | _ | result) <;> rfl

section Talk

variable {lock : Lock} {said : Dialogue.Transcript Effect.Answer}

theorem Lock.new_talk {md5 : List UInt8 → Block 16} {database : Database} {key : List UInt8}
    {timeout expired : UInt16} (talk : Dialogue.Talk (Lock.new md5 database key timeout expired) said lock) :
    exchanges said = [] ∧ lock.lockKey = .new md5 key ∧ lock.currentData = none := by
  simp only [Lock.new, Database.timeout, Database.expired, Id16.new, Dialogue.talk_bind, Dialogue.talk_question,
    Dialogue.talk_pure] at talk
  obtain ⟨_, _, _, rfl, ⟨_, _, _, rfl, rfl, rfl, rfl⟩, _, _, _, rfl, ⟨_, _, _, rfl, rfl, rfl, rfl⟩, _, _, _, rfl, rfl, rfl,
    rfl⟩ := talk
  exact ⟨rfl, rfl, rfl⟩

/-- A lock that is built sends nothing. -/
theorem Lock.withLockId_talk {md5 : List UInt8 → Block 16} {database : Database} {key : List UInt8} {lockId : Id16}
    {timeout expired count : UInt16} {rCount : UInt8}
    (talk : Dialogue.Talk (Lock.withLockId md5 database key lockId timeout expired count rCount) said lock) :
    exchanges said = [] ∧ lock.lockKey = .new md5 key ∧ lock.lockId = lockId ∧ lock.currentData = none := by
  simp only [Lock.withLockId, Database.timeout, Database.expired, Dialogue.talk_bind, Dialogue.talk_question,
    Dialogue.talk_pure] at talk
  obtain ⟨_, _, _, rfl, ⟨_, _, _, rfl, rfl, rfl, rfl⟩, _, _, _, rfl, ⟨_, _, _, rfl, rfl, rfl, rfl⟩, rfl, rfl⟩ := talk
  exact ⟨rfl, rfl, rfl, rfl⟩

/-- A lock sends one command and goes by its answer. -/
theorem Lock.sendLock_talk {commandType flag : UInt8} {lockId : Id16} {data : Option LockData}
    {outcome : Outcome LockCommandResult}
    (talk : Dialogue.Talk (lock.sendLock commandType flag lockId data) said outcome) :
    ∃ requestId answer, exchanges said = [⟨lock.command commandType flag lockId data requestId, answer⟩] ∧
      outcome = expectLock answer := by
  simp only [Lock.sendLock, Id16.new, Database.sendCommand, Dialogue.talk_bind, Dialogue.talk_question,
    Dialogue.talk_pure] at talk
  obtain ⟨_, requestId, _, rfl, rfl, _, answer, _, rfl, rfl, rfl, same⟩ := talk
  exact ⟨requestId, answer, rfl, same⟩

/-- An exchange that takes a lock, or gives it back. -/
structure Exchange.Of (exchange : Exchange) (commandType : UInt8) (lock : Lock) : Prop where
  commandType : exchange.command.commandType = commandType
  target : exchange.target = (lock.lockKey, lock.lockId)

/-- An operation sends one command about its own lock. -/
theorem Lock.operation_talk {commandType flag : UInt8} {data : Option LockData}
    {value : Outcome LockCommandResult × Lock}
    (talk : Dialogue.Talk (do
      let outcome ← lock.sendLock commandType flag lock.lockId data
      pure (lock.finish outcome)) said value) :
    ∃ exchange, exchanges said = [exchange] ∧ exchange.Of commandType lock ∧
      value = lock.finish (expectLock exchange.answer) := by
  obtain ⟨front, outcome, back, rfl, sends, last⟩ := Dialogue.talk_bind.mp talk
  obtain ⟨rfl, rfl⟩ := Dialogue.talk_pure.mp last
  obtain ⟨requestId, answer, atSaid, rfl⟩ := Lock.sendLock_talk sends
  exact ⟨_, by rw [List.append_nil]; exact atSaid, ⟨rfl, rfl⟩, rfl⟩

theorem Lock.acquireWithFlags_talk {flag : UInt8} {data : Option LockData} {value : Outcome LockCommandResult × Lock}
    (talk : Dialogue.Talk (lock.acquireWithFlags flag data) said value) :
    ∃ exchange, exchanges said = [exchange] ∧ exchange.Of commandTypeLock lock ∧
      value = lock.finish (expectLock exchange.answer) :=
  Lock.operation_talk talk

theorem Lock.releaseWithFlags_talk {flag : UInt8} {data : Option LockData} {value : Outcome LockCommandResult × Lock}
    (talk : Dialogue.Talk (lock.releaseWithFlags flag data) said value) :
    ∃ exchange, exchanges said = [exchange] ∧ exchange.Of commandTypeUnlock lock ∧
      value = lock.finish (expectLock exchange.answer) :=
  Lock.operation_talk talk

end Talk

section Operates

variable {α ρ : Type} {lock : Lock} {commandType flag : UInt8} {said : Dialogue.Transcript Effect.Answer}

/-- A program that operates a lock: it sends one command, goes by its outcome
and leaves the data of its result behind. -/
def Operates (lock : Lock) (commandType flag : UInt8) (read : Outcome LockCommandResult → Outcome ρ)
    (program : Program (Outcome ρ × Lock)) : Prop :=
  ∀ said value, Dialogue.Talk program said value →
    ∃ exchange, exchanges said = [exchange] ∧
      (exchange.command.commandType = commandType ∧ exchange.command.flag = flag) ∧
      value.1 = read exchange.outcome ∧ value.2.currentData = exchange.dataAfter lock.currentData

theorem operates_sent {lockId : Id16} {data : Option LockData} {read : Outcome LockCommandResult → Outcome ρ}
    {after : Outcome LockCommandResult → Outcome ρ × Lock}
    (finishes : ∀ exchange : Exchange, after (expectLock exchange.answer) =
      (read exchange.outcome, { lock with currentData := exchange.dataAfter lock.currentData })) :
    Operates lock commandType flag read (do
      let outcome ← lock.sendLock commandType flag lockId data
      pure (after outcome)) := by
  intro said value talk
  obtain ⟨front, outcome, back, rfl, sends, last⟩ := Dialogue.talk_bind.mp talk
  obtain ⟨rfl, rfl⟩ := Dialogue.talk_pure.mp last
  obtain ⟨requestId, answer, atSaid, rfl⟩ := Lock.sendLock_talk sends
  refine ⟨_, by rw [List.append_nil]; exact atSaid, ⟨rfl, rfl⟩, ?_⟩
  rw [finishes ⟨lock.command commandType flag lockId data requestId, answer⟩]
  exact ⟨rfl, rfl⟩

theorem Operates.map {read : Outcome LockCommandResult → Outcome ρ} {program : Program (Outcome ρ × Lock)}
    {σ : Type} {further : Outcome ρ → Outcome σ} (operates : Operates lock commandType flag read program) :
    Operates lock commandType flag (further ∘ read) (do
      let (outcome, lock) ← program
      pure (further outcome, lock)) := by
  intro said value talk
  obtain ⟨front, ⟨outcome, after⟩, back, rfl, runs, last⟩ := Dialogue.talk_bind.mp talk
  obtain ⟨rfl, rfl⟩ := Dialogue.talk_pure.mp last
  obtain ⟨exchange, atSaid, type, rfl, kept⟩ := operates _ _ runs
  exact ⟨exchange, by rw [List.append_nil]; exact atSaid, type, rfl, kept⟩

theorem Lock.acquireWithFlags_operates {flag : UInt8} {data : Option LockData} :
    Operates lock commandTypeLock (flagWithData lockFlagContainsData flag data) id
      (lock.acquireWithFlags flag data) := operates_sent lock.finish_answer

theorem Lock.releaseWithFlags_operates {flag : UInt8} {data : Option LockData} :
    Operates lock commandTypeUnlock (flagWithData unlockFlagContainsData flag data) id
      (lock.releaseWithFlags flag data) := operates_sent lock.finish_answer

theorem Lock.update_operates {data : Option LockData} :
    Operates lock commandTypeLock (flagWithData lockFlagContainsData lockFlagUpdateWhenLocked data) updateOutcome
      (lock.update data) := Lock.acquireWithFlags_operates.map

theorem Lock.releaseHead_operates {data : Option LockData} :
    Operates lock commandTypeUnlock
      (flagWithData unlockFlagContainsData unlockFlagUnlockFirstLockWhenUnlocked data) (Except.map fun _ => ())
      (lock.releaseHead data) :=
  operates_sent fun exchange =>
    congrArg (fun value => (value.1.map fun _ => (), value.2)) (lock.finish_answer exchange)

/-- A program that builds a lock, operates it and goes on with what has come of it. -/
theorem talk_through {build : Program Lock} {operate : Lock → Program (Outcome ρ × Lock)}
    {rest : Outcome ρ × Lock → Program α} {read : Outcome LockCommandResult → Outcome ρ} {value : α}
    (builds : ∀ said lock, Dialogue.Talk build said lock → exchanges said = [] ∧ lock.currentData = none)
    (operates : ∀ built : Lock, ∃ used : Lock, used.currentData = built.currentData ∧
      Operates used commandType flag read (operate built))
    (talk : Dialogue.Talk (build >>= fun lock => operate lock >>= rest) said value) :
    ∃ exchange after back, exchanges said = exchange :: exchanges back ∧
      (exchange.command.commandType = commandType ∧ exchange.command.flag = flag) ∧
      after.currentData = exchange.dataAfter none ∧
      Dialogue.Talk (rest (read exchange.outcome, after)) back value := by
  obtain ⟨front, built, behind, rfl, building, operating⟩ := Dialogue.talk_bind.mp talk
  obtain ⟨middle, ⟨outcome, after⟩, back, rfl, runs, last⟩ := Dialogue.talk_bind.mp operating
  obtain ⟨silent, empty⟩ := builds front built building
  obtain ⟨used, same, operated⟩ := operates built
  obtain ⟨exchange, atSaid, type, rfl, kept⟩ := operated _ _ runs
  rw [same, empty] at kept
  exact ⟨exchange, after, back, by simp [silent, atSaid], type, kept, last⟩

/-- Who only passes on what has come of the lock is left as it was. -/
theorem talk_alone {σ : Type} {build : Program Lock} {operate : Lock → Program (Outcome ρ × Lock)}
    {rest : Outcome ρ × Lock → Program (α × σ)} {read : Outcome LockCommandResult → Outcome ρ} {self : σ} {value : α × σ}
    (builds : ∀ said lock, Dialogue.Talk build said lock → exchanges said = [] ∧ lock.currentData = none)
    (operates : ∀ built : Lock, ∃ used : Lock, used.currentData = built.currentData ∧
      Operates used commandType flag read (operate built))
    (returns : ∀ answered, ∃ outcome, rest answered = pure (outcome, self))
    (talk : Dialogue.Talk (build >>= fun lock => operate lock >>= rest) said value) :
    ∃ exchange, exchanges said = [exchange] ∧ value.2 = self := by
  obtain ⟨exchange, after, back, atSaid, _, _, last⟩ := talk_through builds operates talk
  obtain ⟨outcome, same⟩ := returns (read exchange.outcome, after)
  rw [same] at last
  obtain ⟨rfl, rfl⟩ := Dialogue.talk_pure.mp last
  exact ⟨exchange, atSaid, rfl⟩

end Operates

end Ruslock
