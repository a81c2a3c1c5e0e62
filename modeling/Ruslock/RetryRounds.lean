import Ruslock.Lib.Cyclic
import Ruslock.ReplsetSteps

namespace Ruslock.Replset
open Transition Wire

variable {n : Nat}

/-- How long the `send_command` of a node's client waits for a response. -/
def responseWait (config : Config n) (command : Command) : Outcome Duration := do
  let encoded ← command.encode
  .ok (encoded.timeout + config.commandTimeoutGrace)

/-- What a node does to an attempt: it cannot be opened, or its `send_command`
returns. -/
inductive Behaviour
  | unopened (err : SlockError)
  | answered (outcome : Outcome CommandResult)

/-- The answer that ends a command on `n` nodes: a result that is no state
error, an error that is not of the transport, and on one node whatever its
client returns. -/
def Behaviour.definite (n : Nat) : Behaviour → Option (Outcome CommandResult)
  | .unopened _ => none
  | .answered (.ok result) => if lockStateError result = true ∧ 1 < n then none else some (.ok result)
  | .answered (.error err) => if retryableTransportError err = true ∧ 1 < n then none else some (.error err)

def Behaviour.refused : Behaviour → Bool
  | .answered (.ok result) => lockStateError result
  | _ => false

/-- An attempt on a node: when it was opened, when its `send_command` was called
and how long that call may wait, and what came of it. -/
structure Attempt (n : Nat) where
  index : Fin n
  startedAt : Instant
  sent : Option (Instant × Duration)
  behaviour : Option Behaviour

/-- A round over the nodes: the active index that it read, its attempts with
the newest first, and when it came to its end. -/
structure RoundLog (n : Nat) where
  active : Option Nat
  attempts : List (Attempt n)
  endedAt : Option Instant

/-- What a `send_command` has done: when it made its pending command, and its
rounds with the newest first. -/
structure SendLog (n : Nat) where
  created : Option (Instant × PendingCommand)
  rounds : List (RoundLog n)

inductive LoopEvent (n : Nat)
  | created (pending : PendingCommand)
  | begun (active : Option Nat)
  | contacted (index : Fin n)
  | sent (wait : Duration)
  | behaved (behaviour : Behaviour)
  | ended

/-- What a statement of a `send_command` adds to its history. -/
def loopEvent (config : Config n) (s : State n) (d : SendId) : SendAction → Option (LoopEvent n)
  | .enter =>
    match s.sends d with
    | .start command =>
      if n = 0 then none
      else
        match PendingCommand.new command config.commandTimeoutGrace s.now with
        | .ok pending => some (.created pending)
        | .error _ => none
    | _ => none
  | .readActive => some (.begun s.activeIndex)
  | .startOpen _ =>
    match s.sends d with
    | .attempt round => if within : round.offset < n then some (.contacted (round.index within)) else none
    | _ => none
  | .opened =>
    match s.sends d with
    | .opening _ index o =>
      match (s.clients index).opens o with
      | .returned (.error err) => some (.behaved (.unopened err))
      | _ => none
    | _ => none
  | .startSend _ =>
    match s.sends d with
    | .connected round _ =>
      match responseWait config round.pending.command with
      | .ok wait => some (.sent wait)
      | .error _ => none
    | _ => none
  | .answered =>
    match s.sends d with
    | .sending _ index c =>
      match (s.clients index).calls c with
      | .returned outcome => some (.behaved (.answered outcome))
      | _ => none
    | _ => none
  | .endRound => some .ended
  | _ => none

/-- What holds of all members and of the changed first one holds of all members
after the change. -/
theorem forall_mem_modifyHead_head {α : Type} {kind : α → Prop} {members : List α} {change : α → α}
    (all : ∀ member ∈ members, kind member) (changed : ∀ first, members.head? = some first → kind (change first)) :
    ∀ member ∈ members.modifyHead change, kind member := by
  cases members with
  | nil => exact all
  | cons first rest => exact List.forall_mem_cons.mpr ⟨changed first rfl, (List.forall_mem_cons.mp all).2⟩

theorem forall_mem_modifyHead {α : Type} {kind : α → Prop} {members : List α} {change : α → α}
    (all : ∀ member ∈ members, kind member) (kept : ∀ member, kind member → kind (change member)) :
    ∀ member ∈ members.modifyHead change, kind member :=
  forall_mem_modifyHead_head all fun first newest => kept first (all first (List.mem_of_head? newest))

def RoundLog.onAttempt (round : RoundLog n) (change : Attempt n → Attempt n) : RoundLog n :=
  { round with attempts := round.attempts.modifyHead change }

def recordRounds (now : Instant) (rounds : List (RoundLog n)) : LoopEvent n → List (RoundLog n)
  | .created _ => rounds
  | .begun active => ⟨active, [], none⟩ :: rounds
  | .contacted index =>
    rounds.modifyHead fun round => { round with attempts := ⟨index, now, none, none⟩ :: round.attempts }
  | .sent wait =>
    rounds.modifyHead fun round => round.onAttempt fun attempt => { attempt with sent := some (now, wait) }
  | .behaved behaviour =>
    rounds.modifyHead fun round => round.onAttempt fun attempt => { attempt with behaviour := some behaviour }
  | .ended => rounds.modifyHead fun round => { round with endedAt := some now }

def SendLog.record (log : SendLog n) (now : Instant) : LoopEvent n → SendLog n
  | .created pending => { log with created := some (now, pending) }
  | event => { log with rounds := recordRounds now log.rounds event }

/-- The history of the `send_command` of a caller. -/
def recordSend (config : Config n) (d : SendId) (s : State n) (action : Action n) (_after : State n)
    (log : SendLog n) : SendLog n :=
  match action with
  | .send moved action => if moved = d then (loopEvent config s d action).elim log (log.record s.now) else log
  | _ => log

/-- Runs of the replset client with the history of one `send_command` in them. -/
abbrev SendReached (config : Config n) (d : SendId) (allowed : State n → Action n → Prop) (initial s : State n)
    (log : SendLog n) : Prop :=
  Reach (watch (step config) (recordSend config d)) (fun state action => allowed state.1 action)
    (initial, ⟨none, []⟩) (s, log)

/-- Where a `send_command` is in its retry loop. -/
inductive Loop (n : Nat)
  | outside
  | waiting (pending : PendingCommand)
  | trying (round : Round)
  | contacting (round : Round) (index : Fin n)
  | settling (index : Fin n) (result : CommandResult)
  | finished (outcome : Outcome CommandResult)

def SendPc.loop : SendPc n → Loop n
  | .idle => .outside
  | .start _ => .outside
  | .push pending => .waiting pending
  | .readActive pending _ => .waiting pending
  | .attempt round => .trying round
  | .opening round index _ => .contacting round index
  | .connected round index => .contacting round index
  | .sending round index _ => .contacting round index
  | .failed round _ err => .trying (round.transportError err)
  | .closing round _ err _ => .trying (round.transportError err)
  | .redirect round => .trying round
  | .setActive _ index result => .settling index result
  | .retry pending _ => .waiting pending
  | .sleep pending _ => .waiting pending
  | .sleeping pending _ _ => .waiting pending
  | .woken pending _ => .waiting pending
  | .remove _ outcome => .finished outcome
  | .returned outcome => .finished outcome

/-- What one step of a `send_command` does to its loop and to the active index. -/
inductive LoopMove (config : Config n) (s : State n) : Loop n → Option (LoopEvent n) → Loop n → Option Nat → Prop
  | stay {loop} : LoopMove config s loop none loop s.activeIndex
  | reject {err} : LoopMove config s .outside none (.finished (.error err)) s.activeIndex
  | create {command pending} : PendingCommand.new command config.commandTimeoutGrace s.now = .ok pending →
      LoopMove config s .outside (some (.created pending)) (.waiting pending) s.activeIndex
  | wake {pending} : LoopMove config s (.waiting pending) none (.waiting { pending with retryType := .woken })
      s.activeIndex
  | begin {pending lastError} :
      LoopMove config s (.waiting pending) (some (.begun s.activeIndex))
        (.trying ⟨pending, lastError, s.activeIndex.getD 0, none, 0⟩) s.activeIndex
  | contact {round} (within : round.offset < n) :
      LoopMove config s (.trying round) (some (.contacted (round.index within)))
        (.contacting round (round.index within)) s.activeIndex
  | send {round index wait} : responseWait config round.pending.command = .ok wait →
      LoopMove config s (.contacting round index) (some (.sent wait)) (.contacting round index) s.activeIndex
  | unopened {round index err} :
      LoopMove config s (.contacting round index) (some (.behaved (.unopened err))) (.trying (round.unopened err))
        s.activeIndex
  | answered {round index outcome} :
      LoopMove config s (.contacting round index) (some (.behaved (.answered outcome)))
        (answeredPc round index outcome).loop s.activeIndex
  | finish {round} : n ≤ round.offset →
      LoopMove config s (.trying round) (some .ended) (endRoundPc s.now round).loop s.activeIndex
  | settle {index result} :
      LoopMove config s (.settling index result) none (.finished (.ok result)) (some index.val)

theorem SendStep.loopMove {config : Config n} {s after : State n} {d : SendId} {action : SendAction}
    (taken : SendStep config s d action after) :
    LoopMove config s (s.sends d).loop (loopEvent config s d action) (after.sends d).loop after.activeIndex := by
  cases taken with
  | enter atPc =>
    simp only [State.moveSend, Function.update_self, loopEvent, atPc, enterPc]
    split
    · exact .reject
    · split
      · rename_i made
        rw [made]
        exact .create made
      · rename_i made
        rw [made]
        exact .reject
  | readActive atPc =>
    simp only [State.moveSend, Function.update_self, atPc]
    exact .begin
  | startOpen within atPc =>
    simp only [State.moveSend, Function.update_self, loopEvent, atPc, dif_pos within]
    exact .contact within
  | @opened _ _ _ outcome atPc returned =>
    simp only [State.moveSend, Function.update_self, loopEvent, atPc, returned]
    cases outcome with
    | ok => exact .stay
    | error => exact .unopened
  | startSend atPc =>
    simp only [State.moveSend, Function.update_self, loopEvent, atPc]
    split
    · exact .send ‹_›
    · exact .stay
  | answered atPc returned =>
    simp only [State.moveSend, Function.update_self, loopEvent, atPc, returned]
    exact .answered
  | endRound atPc finished =>
    simp only [State.moveSend, Function.update_self, atPc]
    exact .finish finished
  | setActive atPc =>
    simp only [State.moveSend, Function.update_self, atPc]
    exact .settle
  | wake atPc =>
    simp only [State.moveSend, Function.update_self, atPc]
    exact .wake
  | start atPc | push atPc | startClose atPc | closed atPc | redirect atPc | retry atPc | sleep atPc | woken atPc
  | remove atPc =>
    simp only [State.moveSend, Function.update_self, atPc]
    exact .stay

/-- The node of an attempt has not ended the command. -/
def Attempt.Passed (attempt : Attempt n) : Prop :=
  ∃ behaviour, attempt.behaviour = some behaviour ∧ behaviour.definite n = none

/-- The node of an attempt has answered with a state error. -/
def Attempt.Refused (attempt : Attempt n) : Prop :=
  ∃ behaviour, attempt.behaviour = some behaviour ∧ behaviour.refused = true

/-- The nodes of a round in the order of its attempts. -/
def RoundLog.visited (round : RoundLog n) : List (Fin n) :=
  (round.attempts.map Attempt.index).reverse

/-- The attempts of a round go in a circle over the nodes. -/
def RoundLog.Cyclic (round : RoundLog n) : Prop :=
  Cyclic.InOrder n (round.active.getD 0) round.visited

/-- All nodes were tried and none has ended the command. -/
structure RoundLog.Exhausted (round : RoundLog n) : Prop where
  cyclic : round.Cyclic
  full : round.attempts.length = n
  passed : ∀ attempt ∈ round.attempts, attempt.Passed

/-- An attempt has ended the command in the middle of a round. -/
structure RoundLog.Decided (round : RoundLog n) (index : Fin n) (outcome : Outcome CommandResult) : Prop where
  cyclic : round.Cyclic
  within : round.attempts.length ≤ n
  newest : ∃ attempt earlier, round.attempts = attempt :: earlier ∧ attempt.index = index ∧
    (∃ behaviour, attempt.behaviour = some behaviour ∧ behaviour.definite n = some outcome) ∧
    ∀ attempt ∈ earlier, attempt.Passed
  running : round.endedAt = none

/-- What the locals of a round say of the attempts made so far. -/
structure Round.Tells (round : Round) (original : PendingCommand) (log : RoundLog n) (made : List (Attempt n)) :
    Prop where
  command : round.pending.command = original.command
  deadline : round.pending.deadline = original.deadline
  start : round.start = log.active.getD 0
  offset : round.offset = made.length
  within : made.length ≤ n
  cyclic : log.Cyclic
  passed : ∀ attempt ∈ made, attempt.Passed
  stateError : ∀ result, round.lastStateError = some result → lockStateError result = true
  refused : round.lastStateError.isSome = true ↔ ∃ attempt ∈ made, attempt.Refused
  running : log.endedAt = none

/-- A round that was followed by another one, or will be. -/
structure RoundLog.Repeated (round : RoundLog n) : Prop extends round.Exhausted where
  unrefused : ∀ attempt ∈ round.attempts, ¬ attempt.Refused
  ended : round.endedAt.isSome = true

/-- The last round of a command that no node has ended: after a state error it
has returned it, and else the deadline had passed. -/
structure RoundLog.Spent (round : RoundLog n) (deadline : Instant) (outcome : Outcome CommandResult) : Prop
    extends round.Exhausted where
  ended : ∃ now, round.endedAt = some now ∧
    ((∃ result, outcome = .ok result ∧ lockStateError result = true ∧ ∃ attempt ∈ round.attempts, attempt.Refused) ∨
      (∃ err, outcome = .error err) ∧ deadline ≤ now ∧ ∀ attempt ∈ round.attempts, ¬ attempt.Refused)

/-- How the rounds of a command go with its place in the loop. -/
inductive Retried (original : PendingCommand) : Loop n → List (RoundLog n) → Prop
  | waiting {pending earlier} : pending.command = original.command → pending.deadline = original.deadline →
      (∀ round ∈ earlier, round.Repeated) → Retried original (.waiting pending) earlier
  | trying {round current earlier} : (∀ round ∈ earlier, round.Repeated) →
      round.Tells original current current.attempts → Retried original (.trying round) (current :: earlier)
  | contacting {round attempt active made earlier} : (∀ round ∈ earlier, round.Repeated) →
      round.Tells original ⟨active, attempt :: made, none⟩ made → made.length < n → attempt.behaviour = none →
      Retried original (.contacting round attempt.index) (⟨active, attempt :: made, none⟩ :: earlier)
  | settling {index result current earlier} : (∀ round ∈ earlier, round.Repeated) →
      current.Decided index (.ok result) → Retried original (.settling index result) (current :: earlier)
  | decided {index outcome current earlier} : (∀ round ∈ earlier, round.Repeated) →
      current.Decided index outcome → Retried original (.finished outcome) (current :: earlier)
  | spent {outcome current earlier} : (∀ round ∈ earlier, round.Repeated) →
      current.Spent original.deadline outcome → Retried original (.finished outcome) (current :: earlier)

theorem Attempt.passed_of {attempt : Attempt n} {behaviour : Behaviour}
    (atBehaviour : attempt.behaviour = some behaviour) (indefinite : behaviour.definite n = none) : attempt.Passed :=
  ⟨behaviour, atBehaviour, indefinite⟩

theorem Attempt.refused_iff {attempt : Attempt n} {behaviour : Behaviour}
    (atBehaviour : attempt.behaviour = some behaviour) : attempt.Refused ↔ behaviour.refused = true := by
  constructor
  · rintro ⟨_, same, refused⟩
    cases atBehaviour.symm.trans same
    exact refused
  · exact fun refused => ⟨behaviour, atBehaviour, refused⟩

section Rounds

variable {config : Config n} {s : State n} {original : PendingCommand} {round round' : Round} {log : RoundLog n}
  {attempt : Attempt n} {made : List (Attempt n)} {active : Option Nat} {behaviour : Behaviour}

theorem RoundLog.visited_cons (active : Option Nat) (attempt : Attempt n) (made : List (Attempt n))
    (endedAt : Option Instant) :
    (RoundLog.mk active (attempt :: made) endedAt).visited =
      (RoundLog.mk active made endedAt).visited ++ [attempt.index] := by
  simp only [RoundLog.visited, List.map_cons, List.reverse_cons]

theorem RoundLog.visited_length (log : RoundLog n) : log.visited.length = log.attempts.length := by
  simp only [RoundLog.visited, List.length_reverse, List.length_map]

theorem Round.Tells.begin {pending : PendingCommand} (command : pending.command = original.command)
    (deadline : pending.deadline = original.deadline) (lastError : Option SlockError) (active : Option Nat) :
    Round.Tells ⟨pending, lastError, active.getD 0, none, 0⟩ original (⟨active, [], none⟩ : RoundLog n) [] where
  command := command
  deadline := deadline
  start := rfl
  offset := rfl
  within := Nat.zero_le n
  cyclic := Cyclic.inOrder_nil n _
  passed := List.forall_mem_nil _
  stateError := nofun
  refused := by simp
  running := rfl

/-- The next node of a round is the next one in the circle. -/
theorem Round.Tells.contact (tells : round.Tells original ⟨active, made, none⟩ made) (within : round.offset < n)
    (attempt : Attempt n) (atIndex : attempt.index = round.index within) :
    round.Tells original ⟨active, attempt :: made, none⟩ made := by
  refine { tells with cyclic := ?_ }
  have next : attempt.index.val = (active.getD 0 + (RoundLog.mk active made none).visited.length) % n := by
    rw [atIndex, RoundLog.visited_length, ← tells.offset, ← tells.start]
    rfl
  rw [RoundLog.Cyclic, RoundLog.visited_cons]
  exact tells.cyclic.snoc next

theorem Round.Tells.send (tells : round.Tells original ⟨active, attempt :: made, none⟩ made)
    (sent : Instant × Duration) :
    round.Tells original ⟨active, { attempt with sent := some sent } :: made, none⟩ made :=
  { tells with }

/-- An attempt that does not end the command is counted in the locals. -/
theorem Round.Tells.pass (tells : round.Tells original ⟨active, attempt :: made, none⟩ made) (room : made.length < n)
    (indefinite : behaviour.definite n = none)
    (pending : round'.pending.command = round.pending.command ∧ round'.pending.deadline = round.pending.deadline)
    (start : round'.start = round.start) (offset : round'.offset = round.offset + 1)
    (stateError : if behaviour.refused = true then ∃ result, round'.lastStateError = some result ∧
      lockStateError result = true else round'.lastStateError = round.lastStateError) :
    round'.Tells original ⟨active, { attempt with behaviour := some behaviour } :: made, none⟩
      ({ attempt with behaviour := some behaviour } :: made) where
  command := pending.1.trans tells.command
  deadline := pending.2.trans tells.deadline
  start := start.trans tells.start
  offset := by rw [offset, tells.offset, List.length_cons]
  within := room
  cyclic := by
    have order := tells.cyclic
    rw [RoundLog.Cyclic, RoundLog.visited_cons] at order ⊢
    exact order
  passed := by
    intro other member
    rcases List.mem_cons.mp member with rfl | before
    · exact Attempt.passed_of rfl indefinite
    · exact tells.passed other before
  stateError := by
    intro result atError
    split at stateError
    · obtain ⟨_, last, refused⟩ := stateError
      cases last.symm.trans atError
      exact refused
    · exact tells.stateError result (stateError.symm.trans atError)
  refused := by
    have newest : Attempt.Refused { attempt with behaviour := some behaviour } ↔ behaviour.refused = true :=
      Attempt.refused_iff rfl
    rw [List.exists_mem_cons_iff, newest]
    split at stateError
    · rename_i refused
      obtain ⟨_, last, _⟩ := stateError
      simp [last, refused]
    · rename_i refused
      rw [stateError, tells.refused]
      simp [refused]
  running := rfl

/-- An attempt that ends the command. -/
theorem Round.Tells.decide (tells : round.Tells original ⟨active, attempt :: made, none⟩ made) (room : made.length < n)
    {outcome : Outcome CommandResult} (definite : behaviour.definite n = some outcome) :
    (RoundLog.mk active ({ attempt with behaviour := some behaviour } :: made) none).Decided attempt.index outcome where
  cyclic := by
    have order := tells.cyclic
    rw [RoundLog.Cyclic, RoundLog.visited_cons] at order ⊢
    exact order
  within := room
  newest := ⟨_, _, rfl, rfl, ⟨behaviour, rfl, definite⟩, tells.passed⟩
  running := rfl

/-- The history of a loop whose attempt has got its answer. -/
theorem Retried.answered {earlier : List (RoundLog n)} (repeated : ∀ round ∈ earlier, round.Repeated)
    (tells : round.Tells original ⟨active, attempt :: made, none⟩ made) (room : made.length < n)
    (outcome : Outcome CommandResult) :
    Retried original (answeredPc round attempt.index outcome).loop
      (⟨active, { attempt with behaviour := some (.answered outcome) } :: made, none⟩ :: earlier) := by
  cases outcome with
  | ok result =>
    simp only [answeredPc]
    split
    · rename_i retry
      have indefinite : (Behaviour.answered (.ok result)).definite n = none := if_pos retry
      refine .trying repeated (tells.pass room indefinite ⟨rfl, rfl⟩ rfl rfl ?_)
      rw [if_pos (show (Behaviour.answered (.ok result)).refused = true from retry.1)]
      exact ⟨result, rfl, retry.1⟩
    · rename_i final
      exact .settling repeated (tells.decide room (if_neg final))
  | error err =>
    simp only [answeredPc]
    split
    · rename_i retry
      have indefinite : (Behaviour.answered (.error err)).definite n = none := if_pos retry
      exact .trying repeated (tells.pass room indefinite ⟨rfl, rfl⟩ rfl rfl rfl)
    · rename_i final
      exact .decided repeated (tells.decide room (if_neg final))

/-- The history of a loop that has come to the end of a round. -/
theorem Retried.finish {earlier : List (RoundLog n)} (repeated : ∀ round ∈ earlier, round.Repeated)
    (tells : round.Tells original ⟨active, made, none⟩ made) (finished : n ≤ round.offset) (now : Instant) :
    Retried original (endRoundPc now round : SendPc n).loop (⟨active, made, some now⟩ :: earlier) := by
  have exhausted : (RoundLog.mk active made (some now)).Exhausted :=
    ⟨tells.cyclic, Nat.le_antisymm tells.within (tells.offset ▸ finished), tells.passed⟩
  unfold endRoundPc
  split
  · rename_i result last
    have refused := tells.refused.mp (by rw [last]; rfl)
    exact .spent repeated ⟨exhausted, now, rfl, .inl ⟨result, rfl, tells.stateError result last, refused⟩⟩
  · rename_i last
    have unrefused : ∀ attempt ∈ made, ¬ attempt.Refused := by
      intro attempt member refused
      have some := tells.refused.mpr ⟨attempt, member, refused⟩
      rw [last] at some
      cases some
    split
    · rename_i late
      rw [tells.deadline] at late
      exact .spent repeated ⟨exhausted, now, rfl, .inr ⟨⟨_, rfl⟩, late, unrefused⟩⟩
    · refine .waiting tells.command tells.deadline fun other member => ?_
      rcases List.mem_cons.mp member with rfl | before
      · exact ⟨exhausted, unrefused, rfl⟩
      · exact repeated other before

theorem Retried.move {loop loop' : Loop n} {rounds : List (RoundLog n)} {event : Option (LoopEvent n)}
    {active' : Option Nat} (retried : Retried original loop rounds)
    (taken : LoopMove config s loop event loop' active') :
    Retried original loop' (event.elim rounds (recordRounds s.now rounds)) := by
  cases taken with
  | stay => exact retried
  | reject | create => cases retried
  | wake =>
    cases retried with
    | waiting command deadline repeated => exact .waiting command deadline repeated
  | begin =>
    cases retried with
    | waiting command deadline repeated => exact .trying repeated (.begin command deadline _ _)
  | contact within =>
    cases retried with
    | @trying _ current _ repeated tells =>
      obtain ⟨active, made, endedAt⟩ := current
      cases tells.running
      have room := within
      rw [tells.offset] at room
      have contacted := tells.contact within ⟨_, s.now, none, none⟩ rfl
      exact .contacting repeated contacted room rfl
  | @send _ _ wait =>
    cases retried with
    | contacting repeated tells room unanswered =>
      have later := Retried.contacting repeated (tells.send (s.now, wait)) room unanswered
      exact later
  | unopened =>
    cases retried with
    | contacting repeated tells room => exact .trying repeated (tells.pass room rfl ⟨rfl, rfl⟩ rfl rfl rfl)
  | answered =>
    cases retried with
    | contacting repeated tells room => exact .answered repeated tells room _
  | finish finished =>
    cases retried with
    | @trying _ current _ repeated tells =>
      obtain ⟨active, made, endedAt⟩ := current
      cases tells.running
      exact .finish repeated tells finished s.now
  | settle =>
    cases retried with
    | settling repeated decided => exact .decided repeated decided

end Rounds

/-- The times of an attempt: it is not made before its command, and its call
waits as long as the command says. -/
structure Attempt.Timed (config : Config n) (createdAt : Instant) (original : PendingCommand) (attempt : Attempt n) :
    Prop where
  started : createdAt ≤ attempt.startedAt
  sent : ∀ sentAt wait, attempt.sent = some (sentAt, wait) →
    createdAt ≤ sentAt ∧ responseWait config original.command = .ok wait

/-- The history of a `send_command` fits to its place in the loop. -/
inductive Tracked (config : Config n) (s : State n) (d : SendId) : SendLog n → Prop
  | outside : (s.sends d).loop = .outside → Tracked config s d ⟨none, []⟩
  | rejected {err} : (s.sends d).loop = .finished (.error err) → Tracked config s d ⟨none, []⟩
  | created {createdAt original rounds} : createdAt ≤ s.now →
      PendingCommand.new original.command config.commandTimeoutGrace createdAt = .ok original →
      Retried original (s.sends d).loop rounds →
      (∀ round ∈ rounds, ∀ attempt ∈ round.attempts, attempt.Timed config createdAt original) →
      Tracked config s d ⟨some (createdAt, original), rounds⟩

section Runs

variable {config : Config n} {s after : State n} {d : SendId} {log : SendLog n}

theorem Step.now {action : Action n} (taken : Step config s action after) : s.now ≤ after.now := by
  cases taken with
  | tick => exact Nat.le_add_right ..
  | send taken => cases taken <;> exact Nat.le_refl _
  | opening taken => cases taken <;> exact Nat.le_refl _
  | closing taken => cases taken <;> exact Nat.le_refl _
  | client => exact Nat.le_refl _

theorem recordSend_own (action : SendAction) :
    recordSend config d s (.send d action) after log = (loopEvent config s d action).elim log (log.record s.now) :=
  if_pos rfl

/-- Time that passes and the steps of others leave a history fitting. -/
theorem Tracked.same (tracked : Tracked config s d log) (same : after.sends d = s.sends d) (later : s.now ≤ after.now) :
    Tracked config after d log := by
  cases tracked with
  | outside atLoop => exact .outside (same ▸ atLoop)
  | rejected atLoop => exact .rejected (same ▸ atLoop)
  | created past made retried timed => exact .created (past.trans later) made (same ▸ retried) timed

/-- What is recorded of an attempt has the times of the step that does it. -/
theorem timed_record {createdAt : Instant} {original : PendingCommand} {loop loop' : Loop n}
    {rounds : List (RoundLog n)} {event : LoopEvent n} {active : Option Nat} (past : createdAt ≤ s.now)
    (retried : Retried original loop rounds) (taken : LoopMove config s loop (some event) loop' active)
    (timed : ∀ round ∈ rounds, ∀ attempt ∈ round.attempts, attempt.Timed config createdAt original) :
    ∀ round ∈ recordRounds s.now rounds event, ∀ attempt ∈ round.attempts, attempt.Timed config createdAt original := by
  cases taken with
  | create => exact timed
  | begin => exact List.forall_mem_cons.mpr ⟨List.forall_mem_nil _, timed⟩
  | contact =>
    exact forall_mem_modifyHead timed fun _ known => List.forall_mem_cons.mpr ⟨⟨past, nofun⟩, known⟩
  | @send _ _ wait waits =>
    have own : responseWait config original.command = .ok wait := by
      cases retried with
      | contacting _ tells => exact tells.command ▸ waits
    refine forall_mem_modifyHead timed fun _ known => forall_mem_modifyHead known fun _ before => ⟨before.started, ?_⟩
    rintro _ _ ⟨⟩
    exact ⟨past, own⟩
  | unopened | answered =>
    exact forall_mem_modifyHead timed fun _ known =>
      forall_mem_modifyHead known fun _ before => ⟨before.started, before.sent⟩
  | finish => exact forall_mem_modifyHead timed fun _ known => known

theorem Tracked.sendStep {action : SendAction} (tracked : Tracked config s d log)
    (taken : SendStep config s d action after) :
    Tracked config after d ((loopEvent config s d action).elim log (log.record s.now)) := by
  have move := taken.loopMove
  have later := (Step.send taken).now
  cases tracked with
  | outside atLoop =>
    rw [atLoop] at move
    generalize atEvent : loopEvent config s d action = event at move ⊢
    generalize atLoop' : (after.sends d).loop = loop' at move
    generalize after.activeIndex = active at move
    cases move with
    | stay => exact .outside atLoop'
    | reject => exact .rejected atLoop'
    | create made =>
      have same := PendingCommand.new_command made
      refine .created later (same ▸ made) ?_ (List.forall_mem_nil _)
      rw [atLoop']
      exact .waiting rfl rfl (List.forall_mem_nil _)
  | rejected atLoop =>
    rw [atLoop] at move
    generalize atEvent : loopEvent config s d action = event at move ⊢
    generalize atLoop' : (after.sends d).loop = loop' at move
    generalize after.activeIndex = active at move
    cases move with
    | stay => exact .rejected atLoop'
  | @created createdAt original rounds past made retried timed =>
    have moved := retried.move move
    cases atEvent : loopEvent config s d action with
    | none =>
      rw [atEvent] at moved
      exact .created (past.trans later) made moved timed
    | some event =>
      rw [atEvent] at moved move
      have recorded : (SendLog.mk (some (createdAt, original)) rounds).record s.now event =
          ⟨some (createdAt, original), recordRounds s.now rounds event⟩ := by
        cases event with
        | created =>
          generalize (s.sends d).loop = loop at move retried
          generalize (after.sends d).loop = loop' at move
          generalize after.activeIndex = active at move
          cases move
          cases retried
        | _ => rfl
      rw [Option.elim_some, recorded]
      exact .created (past.trans later) made moved (timed_record past retried move timed)

theorem Tracked.step {action : Action n} (tracked : Tracked config s d log) (taken : Step config s action after) :
    Tracked config after d (recordSend config d s action after log) := by
  rcases taken.loop d with ⟨own, rfl, sent⟩ | ⟨same, _⟩
  · rw [recordSend_own]
    exact tracked.sendStep sent
  · have kept := tracked.same same taken.now
    cases action with
    | send moved action =>
      by_cases own : moved = d
      · subst own
        cases taken with
        | send taken =>
          rw [recordSend_own]
          exact tracked.sendStep taken
      · rw [recordSend, if_neg own]
        exact kept
    | _ => exact kept

/-- In every run the history of a call that was not begun before fits to it. -/
theorem Tracked.of_reach {allowed : State n → Action n → Prop} {initial : State n} (idle : initial.sends d = .idle)
    (reach : SendReached config d allowed initial s log) : Tracked config s d log := by
  have base : Tracked config initial d ⟨none, []⟩ := .outside (by rw [idle]; rfl)
  refine Reach.invariant reach (motive := fun watched => Tracked config watched.1 d watched.2) base ?_
  intro before action after _ tracked _ run
  obtain ⟨stepped, recorded⟩ := watch_eq_some run
  rw [recorded]
  exact tracked.step (.of_run stepped)

end Runs

/-- A node answers the lock command that a call has written to it. -/
def answerNode (d : SendId) (index : Fin n) (stream : Connection.StreamId) (c : Connection.CallId) (requestId : Id16)
    (result : UInt8) : List (Action n) :=
  [.client index (.receive stream ((commandHeader commandTypeLock requestId).set 19 result).toList),
    .client index (.reader stream .readHeader), .client index (.reader stream .lockPending),
    .client index (.reader stream .deliver), .client index (.call c .receive), .send d .answered]

end Ruslock.Replset
