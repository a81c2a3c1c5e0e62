import Ruslock.Cancellation
import Ruslock.Quiescence
import Ruslock.RetryBound

namespace Ruslock.Replset
open Transition Wire Workload

variable {n : Nat}

/-- A step of somebody who is already at work, on the replset client or on a
node; no time passes. -/
def Action.own : Action n → Bool
  | .send _ (.start _) => false
  | .opening _ .start => false
  | .closing _ .start => false
  | .client _ action => action.own
  | .tick _ => false
  | _ => true

def Own (_ : State n) (action : Action n) : Prop := action.own = true

/-- Nobody at work can take a step. -/
def State.Still (config : Config n) (s : State n) : Prop := ∀ action, action.own = true → step config s action = none

/-- The call of a node's client that a loop waits for. -/
def SendPc.awaits : SendPc n → Option (Fin n × Connection.Party)
  | .opening _ index o => some (index, .opening o)
  | .sending _ index c => some (index, .call c)
  | .closing _ index _ k => some (index, .closing k)
  | _ => none

def OpenPc.awaits : OpenPc n → Option (Fin n × Connection.Party)
  | .opening _ index o => some (index, .opening o)
  | _ => none

def ClosePc.awaits : ClosePc n → Option (Fin n × Connection.Party)
  | .closing index k => some (index, .closing k)
  | _ => none

/-- What is waited for has begun and comes to its end. -/
structure Awaited (s : State n) : Prop where
  sends : ∀ d index party, (s.sends d).awaits = some (index, party) → (s.clients index).Begun party
  opens : ∀ u index party, (s.opens u).awaits = some (index, party) → (s.clients index).Begun party
  closes : ∀ u index party, (s.closes u).awaits = some (index, party) → (s.clients index).Begun party
  undropped : ∀ index c, (s.clients index).calls c ≠ .dropped
  /-- A loop sleeps no longer than to its deadline. -/
  sleeps : ∀ d pending lastError wakeAt, s.sends d = .sleeping pending lastError wakeAt →
    wakeAt ≤ pending.deadline ∨ wakeAt ≤ s.now

section Awaited

variable {config : Config n} {s after : State n}

theorem Step.begun_kept {action : Action n} {index : Fin n} {party : Connection.Party}
    (taken : Step config s action after) (begun : (s.clients index).Begun party) :
    (after.clients index).Begun party := by
  rcases taken.client_of index with same | ⟨_, _, step⟩
  · rw [same]
    exact begun
  · exact begun.step step

/-- A loop waits for what it has begun itself. -/
theorem SendStep.awaits {d : SendId} {action : SendAction} {index : Fin n} {party : Connection.Party}
    (taken : SendStep config s d action after) (awaits : (after.sends d).awaits = some (index, party)) :
    (after.clients index).Begun party := by
  cases taken with
  | startOpen _ _ run | startSend _ run | startClose _ run =>
    simp only [State.moveSend, Function.update_self] at awaits
    cases awaits
    simp only [State.withClient, State.moveSend, Function.update_self]
    exact (Connection.Step.of_run run).begins rfl
  | enter =>
    simp only [State.moveSend, Function.update_self, enterPc] at awaits
    repeat' split at awaits
    all_goals cases awaits
  | @opened _ _ _ outcome =>
    simp only [State.moveSend, Function.update_self] at awaits
    cases outcome <;> cases awaits
  | answered =>
    simp only [State.moveSend, Function.update_self, answeredPc] at awaits
    repeat' split at awaits
    all_goals cases awaits
  | endRound =>
    simp only [State.moveSend, Function.update_self, endRoundPc] at awaits
    repeat' split at awaits
    all_goals cases awaits
  | start | push | readActive | closed | redirect | setActive | retry | sleep | wake | woken | remove =>
    simp only [State.moveSend, Function.update_self] at awaits
    cases awaits

theorem OpenStep.awaits {u : OpenId} {action : OpenAction} {index : Fin n} {party : Connection.Party}
    (taken : OpenStep config s u action after) (awaits : (after.opens u).awaits = some (index, party)) :
    (after.clients index).Begun party := by
  cases taken with
  | startOpen _ _ run =>
    simp only [State.moveOpen, Function.update_self] at awaits
    cases awaits
    simp only [State.withClient, State.moveOpen, Function.update_self]
    exact (Connection.Step.of_run run).begins rfl
  | start =>
    simp only [State.moveOpen, Function.update_self] at awaits
    split at awaits <;> cases awaits
  | choose =>
    simp only [State.moveOpen, Function.update_self, choosePc] at awaits
    split at awaits <;> cases awaits
  | opened | unopened | readInitType | setActive =>
    simp only [State.moveOpen, Function.update_self] at awaits
    cases awaits

theorem CloseStep.awaits {u : CloseId} {action : CloseAction} {index : Fin n} {party : Connection.Party}
    (taken : CloseStep config s u action after) (awaits : (after.closes u).awaits = some (index, party)) :
    (after.clients index).Begun party := by
  cases taken with
  | startClose _ _ run =>
    simp only [State.moveClose, Function.update_self] at awaits
    cases awaits
    simp only [State.withClient, State.moveClose, Function.update_self]
    exact (Connection.Step.of_run run).begins rfl
  | start | closed | endLoop | clearActive =>
    simp only [State.moveClose, Function.update_self] at awaits
    cases awaits

/-- Calls of a node's client are not dropped. -/
theorem Step.undropped {action : Action n} {index : Fin n} {c : Connection.CallId} (taken : Step config s action after)
    (dropped : (after.clients index).calls c = .dropped) : (s.clients index).calls c = .dropped := by
  rcases taken.client_of index with same | ⟨inner, atAction, step⟩
  · rw [← same]
    exact dropped
  · cases step with
    | opening step => rw [← step.frame.calls]; exact dropped
    | closing step => rw [← step.frame.calls]; exact dropped
    | reader step => rw [← step.frame.calls]; exact dropped
    | network step => rw [← step.frame.calls]; exact dropped
    | @call moved _ _ step =>
      by_cases same : c = moved
      · subst same
        cases step.dropped dropped
        cases ClientMove.of_clientAction atAction with
        | inside => cases taken with | client inside => cases inside
      · rw [← (step.frame.others c same).1]
        exact dropped

/-- A loop begins to sleep for the time to its deadline at most. -/
theorem SendStep.sleeps {d : SendId} {action : SendAction} {pending : PendingCommand} {lastError : Option SlockError}
    {wakeAt : Instant} (taken : SendStep config s d action after)
    (sleeping : after.sends d = .sleeping pending lastError wakeAt) :
    wakeAt ≤ pending.deadline ∨ wakeAt ≤ s.now := by
  cases taken with
  | sleep =>
    simp only [State.moveSend, Function.update_self] at sleeping
    cases sleeping
    rcases Nat.le_total pending.deadline s.now with past | ahead
    · exact .inr (by rw [Nat.sub_eq_zero_of_le past, Nat.zero_min, Nat.add_zero])
    · exact .inl ((Nat.add_le_add_left (Nat.min_le_left ..) _).trans_eq (Nat.add_sub_of_le ahead))
  | enter =>
    simp only [State.moveSend, Function.update_self, enterPc] at sleeping
    repeat' split at sleeping
    all_goals cases sleeping
  | @opened _ _ _ outcome =>
    simp only [State.moveSend, Function.update_self] at sleeping
    cases outcome <;> cases sleeping
  | answered =>
    simp only [State.moveSend, Function.update_self, answeredPc] at sleeping
    repeat' split at sleeping
    all_goals cases sleeping
  | endRound =>
    simp only [State.moveSend, Function.update_self, endRoundPc] at sleeping
    repeat' split at sleeping
    all_goals cases sleeping
  | start | push | readActive | startOpen | startSend | startClose | closed | redirect | setActive | retry | wake
  | woken | remove =>
    simp only [State.moveSend, Function.update_self] at sleeping
    cases sleeping

theorem CloseStep.others {u other : CloseId} {action : CloseAction} (taken : CloseStep config s u action after)
    (apart : other ≠ u) : after.closes other = s.closes other := by
  cases taken <;> exact Function.update_of_ne apart ..

theorem Awaited.step {action : Action n} (awaited : Awaited s) (taken : Step config s action after) :
    Awaited after := by
  constructor
  · intro d index party awaits
    rcases taken.loop d with ⟨_, rfl, sent⟩ | ⟨same, _⟩
    · exact sent.awaits awaits
    · rw [same] at awaits
      exact taken.begun_kept (awaited.sends d index party awaits)
  · intro u index party awaits
    have kept : (s.opens u).awaits = some (index, party) → (after.clients index).Begun party :=
      fun before => taken.begun_kept (awaited.opens u index party before)
    cases taken with
    | @opening moved _ _ taken =>
      by_cases here : u = moved
      · subst here
        exact taken.awaits awaits
      · refine kept ?_
        rw [← taken.others here]
        exact awaits
    | send taken => cases taken <;> exact kept awaits
    | closing taken => cases taken <;> exact kept awaits
    | client | tick => exact kept awaits
  · intro u index party awaits
    have kept : (s.closes u).awaits = some (index, party) → (after.clients index).Begun party :=
      fun before => taken.begun_kept (awaited.closes u index party before)
    cases taken with
    | @closing moved _ _ taken =>
      by_cases here : u = moved
      · subst here
        exact taken.awaits awaits
      · refine kept ?_
        rw [← taken.others here]
        exact awaits
    | send taken => cases taken <;> exact kept awaits
    | opening taken => cases taken <;> exact kept awaits
    | client | tick => exact kept awaits
  · intro index c dropped
    exact awaited.undropped index c (taken.undropped dropped)
  · intro d pending lastError wakeAt sleeping
    rcases taken.loop d with ⟨_, rfl, sent⟩ | ⟨same, _⟩
    · exact (sent.sleeps sleeping).imp_right (fun past => past.trans taken.now)
    · rw [same] at sleeping
      exact (awaited.sleeps d pending lastError wakeAt sleeping).imp_right (fun past => past.trans taken.now)

theorem Awaited.new : Awaited (State.new n) where
  sends _ _ _ awaits := absurd awaits (by simp [State.new, SendPc.awaits])
  opens _ _ _ awaits := absurd awaits (by simp [State.new, OpenPc.awaits])
  closes _ _ _ awaits := absurd awaits (by simp [State.new, ClosePc.awaits])
  undropped _ _ := by simp [State.new, Connection.State.new]
  sleeps _ _ _ _ sleeping := absurd sleeping (by simp [State.new])

theorem Awaited.of_reach {allowed : State n → Action n → Prop} (reach : Reached config allowed s) : Awaited s := by
  refine reach.invariant .new ?_
  intro before action after _ awaited _ run
  exact awaited.step (.of_run run)

end Awaited

/-- More than what it takes to try a node: its client is opened, called and closed. -/
def PendingCommand.cost (pending : PendingCommand) : Nat := 31 + (Connection.CallPc.start pending.command).work

/-- What is left of a round from a node on, with its end. -/
def PendingCommand.left (n : Nat) (pending : PendingCommand) (offset : Nat) : Nat := 4 + (n - offset) * pending.cost

/-- More than the steps that a loop still takes while no time passes. A loop
that wakes behind its deadline tries one more round. -/
@[simp] def SendPc.work (now : Instant) : SendPc n → Nat
  | .start command => 7 + n * (31 + (Connection.CallPc.start command).work)
  | .push pending => 2 + pending.left n 0
  | .readActive pending _ => 1 + pending.left n 0
  | .attempt round => round.pending.left n round.offset
  | .opening round _ _ =>
    12 + (Connection.CallPc.start round.pending.command).work + round.pending.left n (round.offset + 1)
  | .connected round _ =>
    11 + (Connection.CallPc.start round.pending.command).work + round.pending.left n (round.offset + 1)
  | .sending round _ _ => 10 + round.pending.left n (round.offset + 1)
  | .failed round _ _ => 9 + round.pending.left n (round.offset + 1)
  | .closing round _ _ _ => 2 + round.pending.left n (round.offset + 1)
  | .redirect round => 1 + round.pending.left n round.offset
  | .setActive _ _ _ => 2
  | .retry pending _ => if now < pending.deadline then 3 else 5 + pending.left n 0
  | .sleep pending _ => if now < pending.deadline then 2 else 4 + pending.left n 0
  | .sleeping pending _ wakeAt => if now < wakeAt then 1 else 3 + pending.left n 0
  | .woken pending _ => 2 + pending.left n 0
  | .remove _ _ => 1
  | .idle => 0
  | .returned _ => 0

@[simp] def OpenPc.work : OpenPc n → Nat
  | .attempt opened => 3 + (n - opened.index) * 21
  | .opening opened _ _ => 5 + (n - (opened.index + 1)) * 21
  | .readInitType opened _ => 4 + (n - (opened.index + 1)) * 21
  | .setActive _ => 1
  | .idle => 0
  | .returned _ => 0

@[simp] def ClosePc.work : ClosePc n → Nat
  | .attempt index => 2 + (n - index) * 8
  | .closing index _ => 3 + (n - (index.val + 1)) * 8
  | .clearActive => 1
  | .idle => 0
  | .returned => 0

noncomputable def State.clientWork (s : State n) (index : Fin n) : Nat := (s.clients index).work

def State.sendWork (s : State n) (d : SendId) : Nat := (s.sends d).work s.now

def State.openWork (s : State n) (u : OpenId) : Nat := (s.opens u).work

def State.closeWork (s : State n) (u : CloseId) : Nat := (s.closes u).work

/-- More than the steps that all who are at work can still take. -/
noncomputable def State.work (s : State n) : Nat :=
  total s.clientWork + total s.sendWork + total s.openWork + total s.closeWork

section Work

variable {config : Config n} {s after : State n}

theorem PendingCommand.left_succ (pending : PendingCommand) {offset : Nat} (within : offset < n) :
    pending.left n offset = pending.left n (offset + 1) + pending.cost := by
  have one : n - offset = n - (offset + 1) + 1 := by omega
  rw [PendingCommand.left, PendingCommand.left, one, Nat.succ_mul]
  omega

theorem enterPc_work (command : Command) (now : Instant) :
    (enterPc config now command).work now < (SendPc.start command : SendPc n).work now := by
  unfold enterPc
  split
  · simp only [SendPc.work]
    omega
  · split
    · simp only [SendPc.work]
      omega
    · rename_i pending made
      simp only [SendPc.work, PendingCommand.left, PendingCommand.cost, PendingCommand.new_command made, Nat.sub_zero]
      omega

theorem openedPc_work (round : Round) (index : Fin n) (o : Connection.OpenId) (outcome : Outcome Unit) (now : Instant) :
    (openedPc round index outcome).work now < (SendPc.opening round index o).work now := by
  cases outcome <;> simp only [openedPc, Round.unopened, SendPc.work] <;> omega

theorem answeredPc_work (round : Round) (index : Fin n) (c : Connection.CallId) (outcome : Outcome CommandResult)
    (now : Instant) : (answeredPc round index outcome).work now < (SendPc.sending round index c).work now := by
  cases outcome with
  | ok result =>
    simp only [answeredPc]
    split
    · simp only [SendPc.work, Round.stateError, PendingCommand.left, PendingCommand.cost]
      omega
    · simp only [SendPc.work]
      omega
  | error err =>
    simp only [answeredPc]
    split <;> simp only [SendPc.work] <;> omega

theorem endRoundPc_work (round : Round) (now : Instant) :
    (endRoundPc now round : SendPc n).work now < (SendPc.attempt round : SendPc n).work now := by
  unfold endRoundPc
  split
  · simp only [SendPc.work, PendingCommand.left]
    omega
  · split
    · simp only [SendPc.work, PendingCommand.left]
      omega
    · rename_i early
      simp only [SendPc.work, PendingCommand.left, if_pos (Nat.lt_of_not_le early)]
      omega

theorem retry_work (pending : PendingCommand) (lastError : Option SlockError) (now : Instant) :
    (SendPc.sleep pending lastError : SendPc n).work now < (SendPc.retry pending lastError : SendPc n).work now := by
  simp only [SendPc.work]
  split <;> omega

/-- Before its deadline a loop falls asleep. -/
theorem sleep_work (pending : PendingCommand) (lastError : Option SlockError) (now : Instant) :
    (SendPc.sleeping pending lastError (now + min (pending.deadline - now) replsetRetryInterval) : SendPc n).work now <
      (SendPc.sleep pending lastError : SendPc n).work now := by
  simp only [SendPc.work]
  rcases Nat.lt_or_ge now pending.deadline with early | late
  · have asleep : now < now + min (pending.deadline - now) replsetRetryInterval :=
      Nat.lt_add_of_pos_right (Nat.lt_min.mpr ⟨Nat.sub_pos_of_lt early, by decide⟩)
    rw [if_pos early, if_pos asleep]
    omega
  · rw [if_neg (Nat.not_lt_of_le late), Nat.sub_eq_zero_of_le late, Nat.zero_min, Nat.add_zero,
      if_neg (Nat.lt_irrefl _)]
    omega

theorem wake_work {pending : PendingCommand} {lastError : Option SlockError} {wakeAt now : Instant}
    (awake : wakeAt ≤ now) :
    (SendPc.woken { pending with retryType := .woken } lastError : SendPc n).work now <
      (SendPc.sleeping pending lastError wakeAt : SendPc n).work now := by
  simp only [SendPc.work, if_neg (Nat.not_lt_of_le awake), PendingCommand.left, PendingCommand.cost]
  omega

/-- Whoever begins something on a node brings its work. -/
theorem State.brings {index : Fin n} {client : Connection.State} {inner : Connection.Action}
    (few : Connection.Few (s.clients index))
    (run : Connection.step (config.client index) (s.clients index) inner = some client) (begins : 0 < inner.cost)
    (moved : after.clients = Function.update s.clients index client) :
    total after.clientWork = total s.clientWork + inner.cost := by
  have brought := (Connection.Step.of_run run).brings few begins
  have others : ∀ other ≠ index, after.clientWork other = s.clientWork other := by
    intro other apart
    simp only [State.clientWork, moved, Function.update_of_ne apart]
  have total := total_moved (Set.toFinite _) others
  simp only [State.clientWork, moved, Function.update_self] at total brought
  omega

/-- A loop has less left to do, also with what it begins on a node. -/
theorem SendStep.lessens {d : SendId} {action : SendAction} (taken : SendStep config s d action after)
    (few : ∀ index, Connection.Few (s.clients index)) (own : (Action.send d action : Action n).own = true) :
    ∃ cost, total after.clientWork = total s.clientWork + cost ∧ after.sendWork d + cost < s.sendWork d := by
  cases taken with
  | start => cases own
  | @startOpen round o client within atPc run =>
    refine ⟨_, State.brings (few _) run (Nat.zero_lt_succ _) rfl, ?_⟩
    have rest := round.pending.left_succ within
    simp only [State.sendWork, State.moveSend, Function.update_self, atPc, SendPc.work, Connection.Action.cost,
      Connection.OpenPc.work]
    rw [rest, PendingCommand.cost]
    omega
  | @startSend round index c client atPc run =>
    refine ⟨_, State.brings (few _) run (Connection.CallPc.work_start _) rfl, ?_⟩
    simp only [State.sendWork, State.moveSend, Function.update_self, atPc, SendPc.work, Connection.Action.cost]
    omega
  | startClose atPc run =>
    refine ⟨_, State.brings (few _) run (Nat.zero_lt_succ _) rfl, ?_⟩
    simp only [State.sendWork, State.moveSend, Function.update_self, atPc, SendPc.work, Connection.Action.cost,
      Connection.ClosePc.work]
    omega
  | @enter command atPc =>
    refine ⟨0, rfl, ?_⟩
    simp only [State.sendWork, State.moveSend, Function.update_self, atPc]
    exact enterPc_work command s.now
  | opened atPc =>
    refine ⟨0, rfl, ?_⟩
    simp only [State.sendWork, State.moveSend, Function.update_self, atPc]
    exact openedPc_work ..
  | answered atPc =>
    refine ⟨0, rfl, ?_⟩
    simp only [State.sendWork, State.moveSend, Function.update_self, atPc]
    exact answeredPc_work ..
  | endRound atPc =>
    refine ⟨0, rfl, ?_⟩
    simp only [State.sendWork, State.moveSend, Function.update_self, atPc]
    exact endRoundPc_work ..
  | retry atPc =>
    refine ⟨0, rfl, ?_⟩
    simp only [State.sendWork, State.moveSend, State.updateRetryType, Function.update_self, atPc]
    exact retry_work ..
  | sleep atPc =>
    refine ⟨0, rfl, ?_⟩
    simp only [State.sendWork, State.moveSend, Function.update_self, atPc]
    exact sleep_work ..
  | @wake pending lastError _ atPc awake =>
    refine ⟨0, rfl, ?_⟩
    simp only [State.sendWork, State.moveSend, Function.update_self, atPc]
    exact wake_work awake
  | push atPc | readActive atPc | closed atPc | redirect atPc | setActive atPc | woken atPc | remove atPc =>
    refine ⟨0, rfl, ?_⟩
    simp only [State.sendWork, State.moveSend, State.updateRetryType, Function.update_self, atPc, SendPc.work,
      Round.transportError, PendingCommand.left, PendingCommand.cost]
    omega

theorem OpenStep.lessens {u : OpenId} {action : OpenAction} (taken : OpenStep config s u action after)
    (few : ∀ index, Connection.Few (s.clients index)) (own : (Action.opening u action : Action n).own = true) :
    ∃ cost, total after.clientWork = total s.clientWork + cost ∧ after.openWork u + cost < s.openWork u := by
  cases taken with
  | start => cases own
  | startOpen within atPc run =>
    refine ⟨_, State.brings (few _) run (Nat.zero_lt_succ _) rfl, ?_⟩
    simp only [State.openWork, State.moveOpen, Function.update_self, atPc, OpenPc.work, Connection.Action.cost,
      Connection.OpenPc.work]
    omega
  | @choose opened atPc =>
    refine ⟨0, rfl, ?_⟩
    simp only [State.openWork, State.moveOpen, Function.update_self, atPc, choosePc]
    split <;> simp only [OpenPc.work] <;> omega
  | opened atPc | unopened atPc | readInitType atPc | setActive atPc =>
    refine ⟨0, rfl, ?_⟩
    simp only [State.openWork, State.moveOpen, Function.update_self, atPc, OpenPc.work, Opened.next, Opened.readLeader]
    omega

theorem CloseStep.lessens {u : CloseId} {action : CloseAction} (taken : CloseStep config s u action after)
    (few : ∀ index, Connection.Few (s.clients index)) (own : (Action.closing u action : Action n).own = true) :
    ∃ cost, total after.clientWork = total s.clientWork + cost ∧ after.closeWork u + cost < s.closeWork u := by
  cases taken with
  | start => cases own
  | startClose within atPc run =>
    refine ⟨_, State.brings (few _) run (Nat.zero_lt_succ _) rfl, ?_⟩
    simp only [State.closeWork, State.moveClose, Function.update_self, atPc, ClosePc.work, Connection.Action.cost,
      Connection.ClosePc.work]
    omega
  | closed atPc | endLoop atPc | clearActive atPc =>
    refine ⟨0, rfl, ?_⟩
    simp only [State.closeWork, State.moveClose, Function.update_self, atPc, ClosePc.work]
    omega

/-- Only finitely many have ever begun. -/
structure Few (s : State n) : Prop where
  clients : ∀ index, Connection.Few (s.clients index)
  sends : {d | s.sends d ≠ .idle}.Finite
  opens : {u | s.opens u ≠ .idle}.Finite
  closes : {u | s.closes u ≠ .idle}.Finite

theorem Few.sendWork (few : Few s) : s.sendWork.support.Finite := by
  refine few.sends.subset fun d inside atPc => inside ?_
  rw [State.sendWork, atPc, SendPc.work]

theorem Few.openWork (few : Few s) : s.openWork.support.Finite := by
  refine few.opens.subset fun u inside atPc => inside ?_
  rw [State.openWork, atPc, OpenPc.work]

theorem Few.closeWork (few : Few s) : s.closeWork.support.Finite := by
  refine few.closes.subset fun u inside atPc => inside ?_
  rw [State.closeWork, atPc, ClosePc.work]

/-- What a step of a loop leaves alone. -/
theorem SendStep.users {d : SendId} {action : SendAction} (taken : SendStep config s d action after) :
    after.opens = s.opens ∧ after.closes = s.closes := by
  cases taken <;> exact ⟨rfl, rfl⟩

theorem OpenStep.users {u : OpenId} {action : OpenAction} (taken : OpenStep config s u action after) :
    after.now = s.now ∧ after.sends = s.sends ∧ after.closes = s.closes := by
  cases taken <;> exact ⟨rfl, rfl, rfl⟩

theorem CloseStep.users {u : CloseId} {action : CloseAction} (taken : CloseStep config s u action after) :
    after.now = s.now ∧ after.sends = s.sends ∧ after.opens = s.opens := by
  cases taken <;> exact ⟨rfl, rfl, rfl⟩

theorem Few.of_reach {allowed : State n → Action n → Prop} (reach : Reached config allowed s) : Few s := by
  refine ⟨fun index => .of_reach (client_reached index reach), ?_, ?_, ?_⟩
  · have nobody : {d | (State.new n).sends d ≠ .idle}.Finite := Set.finite_empty.subset fun _ inside => inside rfl
    refine reach.invariant (motive := fun state => {d | state.sends d ≠ .idle}.Finite) nobody ?_
    intro before action after _ few _ run
    cases Step.of_run run with
    | @send d _ _ taken =>
      refine finite_moved d few fun other apart begun => ?_
      rw [Set.mem_ofPred, ← (taken.frame apart).1]
      exact begun
    | opening taken => rw [taken.users.2.1]; exact few
    | closing taken => rw [taken.users.2.1]; exact few
    | client | tick => exact few
  · have nobody : {u | (State.new n).opens u ≠ .idle}.Finite := Set.finite_empty.subset fun _ inside => inside rfl
    refine reach.invariant (motive := fun state => {u | state.opens u ≠ .idle}.Finite) nobody ?_
    intro before action after _ few _ run
    cases Step.of_run run with
    | send taken => rw [taken.users.1]; exact few
    | @opening u _ _ taken =>
      refine finite_moved u few fun other apart begun => ?_
      rw [Set.mem_ofPred, ← taken.others apart]
      exact begun
    | closing taken => rw [taken.users.2.2]; exact few
    | client | tick => exact few
  · have nobody : {u | (State.new n).closes u ≠ .idle}.Finite := Set.finite_empty.subset fun _ inside => inside rfl
    refine reach.invariant (motive := fun state => {u | state.closes u ≠ .idle}.Finite) nobody ?_
    intro before action after _ few _ run
    cases Step.of_run run with
    | send taken => rw [taken.users.2]; exact few
    | opening taken => rw [taken.users.2.2]; exact few
    | @closing u _ _ taken =>
      refine finite_moved u few fun other apart begun => ?_
      rw [Set.mem_ofPred, ← taken.others apart]
      exact begun
    | client | tick => exact few

theorem State.openWork_congr (same : after.opens = s.opens) : after.openWork = s.openWork := by
  funext u
  rw [State.openWork, State.openWork, same]

theorem State.closeWork_congr (same : after.closes = s.closes) : after.closeWork = s.closeWork := by
  funext u
  rw [State.closeWork, State.closeWork, same]

theorem State.sendWork_congr (now : after.now = s.now) (same : after.sends = s.sends) : after.sendWork = s.sendWork := by
  funext d
  rw [State.sendWork, State.sendWork, now, same]

/-- Whoever takes a step has less left to do, with all that the step begins. -/
theorem Step.lessens {action : Action n} (taken : Step config s action after) (few : Few s)
    (own : action.own = true) : after.work < s.work := by
  unfold State.work
  cases taken with
  | @send d _ _ taken =>
    obtain ⟨opens, closes⟩ := taken.users
    obtain ⟨cost, clients, less⟩ := taken.lessens few.clients own
    have others : ∀ other ≠ d, after.sendWork other = s.sendWork other := by
      intro other apart
      rw [State.sendWork, State.sendWork, (taken.frame apart).1, taken.now]
    have moved := total_moved few.sendWork others
    rw [State.openWork_congr opens, State.closeWork_congr closes]
    omega
  | @opening u _ _ taken =>
    obtain ⟨now, sends, closes⟩ := taken.users
    obtain ⟨cost, clients, less⟩ := taken.lessens few.clients own
    have others : ∀ other ≠ u, after.openWork other = s.openWork other := by
      intro other apart
      rw [State.openWork, State.openWork, taken.others apart]
    have moved := total_moved few.openWork others
    rw [State.sendWork_congr now sends, State.closeWork_congr closes]
    omega
  | @closing u _ _ taken =>
    obtain ⟨now, sends, opens⟩ := taken.users
    obtain ⟨cost, clients, less⟩ := taken.lessens few.clients own
    have others : ∀ other ≠ u, after.closeWork other = s.closeWork other := by
      intro other apart
      rw [State.closeWork, State.closeWork, taken.others apart]
    have moved := total_moved few.closeWork others
    rw [State.sendWork_congr now sends, State.openWork_congr opens]
    omega
  | @client index action client _ run =>
    have less := (Connection.Step.of_run run).lessens (few.clients index) own
    have others : ∀ other ≠ index, (s.withClient index client).clientWork other = s.clientWork other := by
      intro other apart
      simp only [State.clientWork, State.withClient, Function.update_of_ne apart]
    have moved := total_moved (Set.toFinite _) others
    have mine : (s.withClient index client).clientWork index = client.work := by
      simp only [State.clientWork, State.withClient, Function.update_self]
    have node : s.clientWork index = (s.clients index).work := rfl
    have sends : (s.withClient index client).sendWork = s.sendWork := rfl
    have opens : (s.withClient index client).openWork = s.openWork := rfl
    have closes : (s.withClient index client).closeWork = s.closeWork := rfl
    rw [sends, opens, closes]
    omega
  | tick => cases own

end Work

/-- A call of a node's client that is still running where nobody moves: an `open`
whose handshake is not answered, or anything on a node with a deadlock. -/
def State.Hangs (s : State n) : Option (Fin n × Connection.Party) → Prop
  | none => False
  | some (index, party) => (s.clients index).Deadlock ∨ ∃ o stream, party = .opening o ∧
      (s.clients index).opens o = .readInit stream ∧ readExact 64 ((s.clients index).inbox stream) = none ∧
        (s.clients index).ended stream = none

/-- A loop sleeps before its deadline. -/
def State.Asleep (s : State n) (d : SendId) : Prop :=
  ∃ pending lastError wakeAt, s.sends d = .sleeping pending lastError wakeAt ∧ s.now < wakeAt ∧
    wakeAt ≤ pending.deadline

/-- A `send_command` has returned, sleeps, or waits for a node that hangs. -/
def State.SendRests (s : State n) (d : SendId) : Prop :=
  s.sends d = .idle ∨ (∃ outcome, s.sends d = .returned outcome) ∨ s.Asleep d ∨ s.Hangs (s.sends d).awaits

def State.OpenRests (s : State n) (u : OpenId) : Prop :=
  s.opens u = .idle ∨ (∃ outcome, s.opens u = .returned outcome) ∨ s.Hangs (s.opens u).awaits

def State.CloseRests (s : State n) (u : CloseId) : Prop :=
  s.closes u = .idle ∨ s.closes u = .returned ∨ s.Hangs (s.closes u).awaits

/-- Nobody moves while the network is silent, the clock stands still and
nobody makes a new call. -/
structure Quiescent (s : State n) : Prop where
  clients : ∀ index, Connection.Quiescent (s.clients index) ∨ (s.clients index).Deadlock
  sends : ∀ d, s.SendRests d
  opens : ∀ u, s.OpenRests u
  closes : ∀ u, s.CloseRests u

section Still

variable {config : Config n} {s : State n}

theorem State.Still.not_run {action : Action n} {after : State n} (still : s.Still config) (own : action.own = true)
    (run : step config s action = some after) : False := by
  rw [still action own] at run
  cases run

/-- Where nobody moves, nobody moves on a node. -/
theorem State.Still.client (still : s.Still config) (index : Fin n) :
    (s.clients index).Still (config.client index) := by
  intro action own
  have stuck := still (.client index action) own
  simp only [step, Connection.Action.internal_of_own own, if_true, State.onClient] at stuck
  exact Option.map_eq_none_iff.mp stuck

/-- Whoever waits for a node that rests can go on, or hangs. -/
theorem State.hangs_or_over {index : Fin n} {party : Connection.Party} {awaits : Option (Fin n × Connection.Party)}
    (clients : Connection.Quiescent (s.clients index) ∨ (s.clients index).Deadlock)
    (atParty : awaits = some (index, party)) (begun : (s.clients index).Begun party)
    (undropped : ∀ c, (s.clients index).calls c ≠ .dropped) :
    s.Hangs awaits ∨ (s.clients index).Over party := by
  rw [atParty]
  rcases clients with quiescent | deadlock
  · have resting := quiescent.resting party
    cases party with
    | reader => cases begun
    | call c =>
      rcases resting with idle | finished
      · exact absurd idle begun
      · cases atPc : (s.clients index).calls c with
        | returned outcome => exact .inr ⟨outcome, atPc⟩
        | dropped => exact absurd atPc (undropped c)
        | _ =>
          rw [atPc] at finished
          cases finished
    | opening o =>
      rcases resting with rests | ⟨stream, atPc, short, open_⟩
      · cases atPc : (s.clients index).opens o with
        | returned outcome => exact .inr ⟨outcome, atPc⟩
        | idle => exact absurd atPc begun
        | _ =>
          rw [atPc] at rests
          cases rests
      · exact .inl (.inr ⟨o, stream, rfl, atPc, short, open_⟩)
    | closing k =>
      simp only [Connection.State.Resting] at resting
      cases atPc : (s.clients index).closes k with
      | returned => exact .inr atPc
      | idle => exact absurd atPc begun
      | _ =>
        rw [atPc] at resting
        cases resting
  · exact .inl (.inl deadlock)

theorem State.Still.send (still : s.Still config) (few : Few s) (awaited : Awaited s)
    (clients : ∀ index, Connection.Quiescent (s.clients index) ∨ (s.clients index).Deadlock) (d : SendId) :
    s.SendRests d := by
  have moves (action : SendAction) {after : State n} (own : (Action.send d action : Action n).own = true)
      (run : stepSend config s d action = some after) : s.SendRests d := (still.not_run own run).elim
  have waits {index : Fin n} {party : Connection.Party} (atParty : (s.sends d).awaits = some (index, party)) :
      s.SendRests d ∨ (s.clients index).Over party := by
    have begun := awaited.sends d index party atParty
    rcases State.hangs_or_over (clients index) atParty begun (awaited.undropped index) with hangs | ended
    · exact .inl (.inr (.inr (.inr hangs)))
    · exact .inr ended
  cases atPc : s.sends d with
  | idle => exact .inl atPc
  | returned outcome => exact .inr (.inl ⟨outcome, atPc⟩)
  | start command => exact moves .enter rfl (by simp only [stepSend, atPc]; rfl)
  | push pending => exact moves .push rfl (by simp only [stepSend, atPc]; rfl)
  | readActive pending lastError => exact moves .readActive rfl (by simp only [stepSend, atPc]; rfl)
  | attempt round =>
    rcases Nat.lt_or_ge round.offset n with within | behind
    · obtain ⟨o, client, run⟩ := (few.clients (round.index within)).spareOpen (config.client (round.index within))
      exact moves (.startOpen o) rfl (by simp only [stepSend, atPc, dif_pos within, State.onClient, run]; rfl)
    · exact moves .endRound rfl (by simp only [stepSend, atPc, if_pos behind]; rfl)
  | opening round index o =>
    rcases waits (by rw [atPc]; rfl) with rests | ⟨outcome, returned⟩
    · exact rests
    · exact moves .opened rfl (by simp only [stepSend, atPc, returned]; rfl)
  | connected round index =>
    obtain ⟨c, client, run⟩ := (few.clients index).spareCall (config.client index) round.pending.command
    exact moves (.startSend c) rfl (by simp only [stepSend, atPc, State.onClient, run]; rfl)
  | sending round index c =>
    rcases waits (by rw [atPc]; rfl) with rests | ⟨outcome, returned⟩
    · exact rests
    · exact moves .answered rfl (by simp only [stepSend, atPc, returned]; rfl)
  | failed round index err =>
    obtain ⟨k, client, run⟩ := (few.clients index).spareClose (config.client index)
    exact moves (.startClose k) rfl (by simp only [stepSend, atPc, State.onClient, run]; rfl)
  | closing round index err k =>
    rcases waits (by rw [atPc]; rfl) with rests | ended
    · exact rests
    · have returned : (s.clients index).closes k = .returned := ended
      exact moves .closed rfl (by simp only [stepSend, atPc, returned]; rfl)
  | redirect round => exact moves .redirect rfl (by simp only [stepSend, atPc]; rfl)
  | setActive pending index result => exact moves .setActive rfl (by simp only [stepSend, atPc]; rfl)
  | retry pending lastError => exact moves .retry rfl (by simp only [stepSend, atPc]; rfl)
  | sleep pending lastError => exact moves .sleep rfl (by simp only [stepSend, atPc]; rfl)
  | sleeping pending lastError wakeAt =>
    rcases Nat.lt_or_ge s.now wakeAt with asleep | awake
    · have ahead := (awaited.sleeps d pending lastError wakeAt atPc).resolve_right (Nat.not_le_of_lt asleep)
      exact .inr (.inr (.inl ⟨pending, lastError, wakeAt, atPc, asleep, ahead⟩))
    · exact moves .wake rfl (by simp only [stepSend, atPc, if_pos awake]; rfl)
  | woken pending lastError => exact moves .woken rfl (by simp only [stepSend, atPc]; rfl)
  | remove requestId outcome => exact moves .remove rfl (by simp only [stepSend, atPc]; rfl)

theorem State.Still.opening (still : s.Still config) (few : Few s) (awaited : Awaited s)
    (clients : ∀ index, Connection.Quiescent (s.clients index) ∨ (s.clients index).Deadlock) (u : OpenId) :
    s.OpenRests u := by
  have moves (action : OpenAction) {after : State n} (own : (Action.opening u action : Action n).own = true)
      (run : stepOpen config s u action = some after) : s.OpenRests u := (still.not_run own run).elim
  cases atPc : s.opens u with
  | idle => exact .inl atPc
  | returned outcome => exact .inr (.inl ⟨outcome, atPc⟩)
  | attempt opened =>
    rcases Nat.lt_or_ge opened.index n with within | behind
    · obtain ⟨o, client, run⟩ := (few.clients ⟨opened.index, within⟩).spareOpen (config.client ⟨opened.index, within⟩)
      exact moves (.startOpen o) rfl (by simp only [stepOpen, atPc, dif_pos within, State.onClient, run]; rfl)
    · exact moves .choose rfl (by simp only [stepOpen, atPc, if_pos behind]; rfl)
  | opening opened index o =>
    have atParty : (s.opens u).awaits = some (index, .opening o) := by rw [atPc]; rfl
    have begun := awaited.opens u index _ atParty
    rcases State.hangs_or_over (clients index) atParty begun (awaited.undropped index) with hangs | ⟨outcome, returned⟩
    · exact .inr (.inr hangs)
    · rcases outcome with err | ⟨⟩ <;> exact moves .opened rfl (by simp only [stepOpen, atPc, returned]; rfl)
  | readInitType opened index => exact moves .readInitType rfl (by simp only [stepOpen, atPc]; rfl)
  | setActive index => exact moves .setActive rfl (by simp only [stepOpen, atPc]; rfl)

theorem State.Still.closing (still : s.Still config) (few : Few s) (awaited : Awaited s)
    (clients : ∀ index, Connection.Quiescent (s.clients index) ∨ (s.clients index).Deadlock) (u : CloseId) :
    s.CloseRests u := by
  have moves (action : CloseAction) {after : State n} (own : (Action.closing u action : Action n).own = true)
      (run : stepClose config s u action = some after) : s.CloseRests u := (still.not_run own run).elim
  cases atPc : s.closes u with
  | idle => exact .inl atPc
  | returned => exact .inr (.inl atPc)
  | attempt index =>
    rcases Nat.lt_or_ge index n with within | behind
    · obtain ⟨k, client, run⟩ := (few.clients ⟨index, within⟩).spareClose (config.client ⟨index, within⟩)
      exact moves (.startClose k) rfl (by simp only [stepClose, atPc, dif_pos within, State.onClient, run]; rfl)
    · exact moves .endLoop rfl (by simp only [stepClose, atPc, if_pos behind]; rfl)
  | closing index k =>
    have atParty : (s.closes u).awaits = some (index, .closing k) := by rw [atPc]; rfl
    have begun := awaited.closes u index _ atParty
    rcases State.hangs_or_over (clients index) atParty begun (awaited.undropped index) with hangs | ended
    · exact .inr (.inr hangs)
    · have returned : (s.clients index).closes k = .returned := ended
      exact moves .closed rfl (by simp only [stepClose, atPc, returned]; rfl)
  | clearActive => exact moves .clearActive rfl (by simp only [stepClose, atPc]; rfl)

theorem State.Still.quiescent {allowed : State n → Action n → Prop} (still : s.Still config)
    (reach : Reached config allowed s) : Quiescent s := by
  have clients index : Connection.Quiescent (s.clients index) ∨ (s.clients index).Deadlock :=
    (still.client index).quiescent (.of_reach (client_reached index reach))
  exact ⟨clients, still.send (.of_reach reach) (.of_reach reach) clients,
    still.opening (.of_reach reach) (.of_reach reach) clients,
    still.closing (.of_reach reach) (.of_reach reach) clients⟩

end Still

/-- The steps that are left to the users of a replset client are bounded. -/
theorem own_bounded {config : Config n} {s : State n} (reach : Reached config Always s) :
    ∃ bound, ∀ actions later, (∀ action ∈ actions, action.own = true) → run (step config) s actions = some later →
      actions.length ≤ bound := by
  refine ⟨s.work, fun actions later own executed => ?_⟩
  have meets : RunAllowed (step config) Own s actions := .of_forall (fun action member _ => own action member) s
  refine length_le (fun before action after onward allowed taken => ?_) meets executed
  exact (Step.of_run taken).lessens (.of_reach (reach.trans onward.always)) allowed

/-- Left to themselves the users of a replset client come to rest in every
order of their steps, and with them all its nodes. -/
theorem users_rest {config : Config n} {s : State n} (reach : Reached config Always s) :
    (∃ bound, ∀ actions later, (∀ action ∈ actions, action.own = true) → run (step config) s actions = some later →
      actions.length ≤ bound) ∧
    ∀ later, Reach (step config) Own s later → later.Still config → Quiescent later := by
  refine ⟨own_bounded reach, fun later onward still => ?_⟩
  exact still.quiescent (reach.trans onward.always)

/-- A command that waits for the answer of the first node. -/
def unansweredLock : List (Action 2) :=
  beginActions 0 ⟨Block.ofNatLE 16 7⟩ ++ openNode 0 firstNode 0 0 ++ writeNode 0 firstNode 0

set_option maxRecDepth 2000 in
theorem users_rest_unansweredLock : ∃ s : State 2, (s.sends 0).calling = true ∧
    (∃ bound, ∀ actions later, (∀ action ∈ actions, action.own = true) → run (step pair) s actions = some later →
      actions.length ≤ bound) ∧
    ∀ later, Reach (step pair) Own s later → later.Still pair → Quiescent later := by
  have executed : (run (step pair) (State.new 2) unansweredLock).any (fun s => (s.sends 0).calling) = true := by decide
  obtain ⟨s, reach, calling⟩ := Reach.exists_of_run (runAllowed_always ..) executed
  exact ⟨s, calling, users_rest reach⟩

end Ruslock.Replset
