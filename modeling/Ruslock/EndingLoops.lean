import Ruslock.ReplsetQuiescence

namespace Ruslock.Connection
open Wire

/-- What a call is certain to return. -/
def State.fate (s : State) (c : CallId) : Option (Outcome CommandResult) :=
  match s.calls c with
  | .lockPending _ (.remove exit) => some (.error exit.error)
  | .inPending _ (.remove exit) => some (.error exit.error)
  | .unlockWriter => some (.error .notConnected)
  | .waiting _ => (s.channel c).head?.map Message.result
  | .returned outcome => some outcome
  | _ => none

section Fate

variable {config : Config} {s after : State} {c : CallId} {outcome : Outcome CommandResult}

theorem State.fate_kept (calls : after.calls c = s.calls c) (channel : s.channel c <+: after.channel c)
    (certain : s.fate c = some outcome) : after.fate c = some outcome := by
  unfold State.fate at certain ⊢
  rw [calls]
  cases atPc : s.calls c with
  | waiting encoded =>
    rw [atPc] at certain
    obtain ⟨more, longer⟩ := channel
    cases told : s.channel c with
    | nil =>
      rw [told] at certain
      cases certain
    | cons message later =>
      rw [told] at certain
      rw [← longer, told]
      exact certain
  | lockPending encoded use | inPending encoded use =>
    rw [atPc] at certain
    cases use with
    | insert => cases certain
    | remove exit => exact certain
  | _ =>
    rw [atPc] at certain
    exact certain

/-- A call whose outcome is certain goes on to return it, unless it is dropped. -/
theorem CallStep.fate {action : CallAction} (taken : CallStep config s c action after)
    (certain : s.fate c = some outcome) : after.calls c = .dropped ∨ after.fate c = some outcome := by
  unfold State.fate at certain ⊢
  cases taken with
  | @lockPending encoded use atPc =>
    rw [atPc] at certain
    simp only [Function.update_self]
    cases use with
    | insert => cases certain
    | remove exit => exact .inr certain
  | @remove encoded exit atPc =>
    rw [atPc] at certain
    simp only [Function.update_self]
    cases exit <;> exact .inr certain
  | unlockWriter atPc =>
    rw [atPc] at certain
    simp only [Function.update_self]
    exact .inr certain
  | receive atPc told =>
    rw [atPc, told] at certain
    simp only [Function.update_self]
    exact .inr certain
  | timeout atPc told | disconnected atPc told =>
    rw [atPc, told] at certain
    cases certain
  | start atPc | enter atPc | insert atPc | lockWriter atPc | noWriter atPc | foundWriter atPc | write atPc
  | writeFails atPc | writeDone atPc =>
    rw [atPc] at certain
    cases certain
  | drop => exact .inl (Function.update_self ..)

theorem Step.fate {action : Action} (taken : Step config s action after) (certain : s.fate c = some outcome) :
    after.calls c = .dropped ∨ after.fate c = some outcome := by
  have kept (calls : after.calls c = s.calls c) : after.calls c = .dropped ∨ after.fate c = some outcome :=
    .inr (State.fate_kept calls (taken.channel_prefix c) certain)
  cases taken with
  | opening taken => exact kept (by rw [taken.frame.calls])
  | closing taken => exact kept (by rw [taken.frame.calls])
  | reader taken => exact kept (by rw [taken.frame.calls])
  | network taken => exact kept (by rw [taken.frame.calls])
  | @call moved _ _ taken =>
    by_cases own : c = moved
    · subst own
      exact taken.fate certain
    · exact kept (taken.frame.others c own).1

end Fate

end Ruslock.Connection

namespace Ruslock.Replset
open Transition Wire

variable {n : Nat}

/-- Behind its last node the round is the last one of its loop. -/
def Round.last (now : Instant) (round : Round) : Bool :=
  round.lastStateError.isSome || decide (round.pending.deadline ≤ now)

/-- A loop that comes to its end without the `open` of another node, whatever
comes of the call that it waits for. -/
@[simp] def SendPc.ending (now : Instant) : SendPc n → Bool
  | .idle => true
  | .start command => n == 0 || !command.encode.isOk
  | .attempt round => decide (n ≤ round.offset) && round.last now
  | .connected round _ => decide (n ≤ 1) || decide (n ≤ round.offset + 1) && round.last now
  | .sending round _ _ => decide (n ≤ 1) || decide (n ≤ round.offset + 1) && round.last now
  | .failed round _ _ => decide (n ≤ round.offset + 1) && round.last now
  | .closing round _ _ _ => decide (n ≤ round.offset + 1) && round.last now
  | .redirect round => decide (n ≤ round.offset) && round.last now
  | .setActive _ _ _ => true
  | .remove _ _ => true
  | .returned _ => true
  | _ => false

/-- A `send_command` that opens no node any more: it is on its way to its end,
or the call that it waits for is certain to take it there. -/
def State.Ending (s : State n) (d : SendId) : Prop :=
  (s.sends d).ending s.now = true ∨ ∃ round index c outcome, s.sends d = .sending round index c ∧
    (s.clients index).fate c = some outcome ∧ (answeredPc round index outcome).ending s.now = true

theorem Round.last_mono {now later : Instant} {round : Round} (last : round.last now = true) (passes : now ≤ later) :
    round.last later = true := by
  simp only [Round.last, Bool.or_eq_true, decide_eq_true_eq] at last ⊢
  exact last.imp_right fun past => past.trans passes

theorem SendPc.ending_mono {now later : Instant} {pc : SendPc n} (ending : pc.ending now = true) (passes : now ≤ later) :
    pc.ending later = true := by
  have last : ∀ round : Round, round.last now = true → round.last later = true := fun _ last => Round.last_mono last passes
  cases pc with
  | attempt round | failed round | closing round | redirect round =>
    simp only [SendPc.ending, Bool.and_eq_true] at ending ⊢
    exact ending.imp_right (last round)
  | connected round | sending round =>
    simp only [SendPc.ending, Bool.or_eq_true, Bool.and_eq_true] at ending ⊢
    exact ending.imp_right (And.imp_right (last round))
  | _ => exact ending

theorem enterPc_ending {config : Config n} {now : Instant} {command : Command}
    (ending : (SendPc.start command : SendPc n).ending now = true) : (enterPc config now command).ending now = true := by
  simp only [SendPc.ending, Bool.or_eq_true, beq_iff_eq] at ending
  unfold enterPc
  split
  · rfl
  · rename_i nodes
    cases encodes : command.encode with
    | ok encoded =>
      rw [encodes] at ending
      exact absurd ending (by simp [nodes, Except.isOk, Except.toBool])
    | error err =>
      simp only [PendingCommand.new, encodes]
      rfl

/-- Whatever a call returns, a loop that is at the last node of its last round ends. -/
theorem answeredPc_ending {now : Instant} {round : Round} {index : Fin n} {c : Connection.CallId}
    (ending : (SendPc.sending round index c).ending now = true) (outcome : Outcome CommandResult) :
    (answeredPc round index outcome).ending now = true := by
  simp only [SendPc.ending, Bool.or_eq_true, Bool.and_eq_true, decide_eq_true_eq] at ending
  cases outcome with
  | ok result =>
    simp only [answeredPc]
    split
    · rename_i again
      have behind : n ≤ round.offset + 1 := ending.elim (fun sole => absurd again.2 (Nat.not_lt_of_le sole)) And.left
      simp only [SendPc.ending, Round.stateError, Round.last, Option.isSome_some, Bool.true_or, Bool.and_true]
      exact decide_eq_true behind
    · rfl
  | error err =>
    simp only [answeredPc]
    split
    · rename_i again
      have last := ending.resolve_left (Nat.not_le_of_lt again.2)
      simp only [SendPc.ending, Bool.and_eq_true, decide_eq_true_eq]
      exact last
    · rfl

theorem endRoundPc_ending {now : Instant} {round : Round} (last : round.last now = true) :
    (endRoundPc now round : SendPc n).ending now = true := by
  simp only [Round.last, Bool.or_eq_true, decide_eq_true_eq] at last
  unfold endRoundPc
  cases known : round.lastStateError with
  | some result => rfl
  | none =>
    rw [known] at last
    rw [if_pos (last.resolve_left nofun)]
    rfl

section Steps

variable {config : Config n} {s after : State n} {action : Action n} {d : SendId}

theorem State.Ending.free {pc : SendPc n} (ending : s.Ending d) (atPc : s.sends d = pc) (free : pc.free = true) :
    pc.ending s.now = true := by
  subst atPc
  rcases ending with ending | ⟨round, index, c, _, sending, _⟩
  · exact ending
  · rw [sending] at free
    cases free

/-- A loop on its way to its end stays on it. -/
theorem SendStep.ending {action : SendAction} (taken : SendStep config s d action after) (ending : s.Ending d)
    (late : ∀ command, action = .start command → (SendPc.start command : SendPc n).ending s.now = true) :
    (after.sends d).ending s.now = true := by
  cases taken with
  | start =>
    simp only [State.moveSend, Function.update_self]
    exact late _ rfl
  | enter atPc =>
    simp only [State.moveSend, Function.update_self]
    exact enterPc_ending (ending.free atPc rfl)
  | startOpen within atPc =>
    have behind := ending.free atPc rfl
    simp only [SendPc.ending, Bool.and_eq_true, decide_eq_true_eq] at behind
    exact absurd behind.1 (Nat.not_le_of_lt within)
  | startSend atPc | startClose atPc | closed atPc | redirect atPc =>
    have before := ending.free atPc rfl
    simp only [State.moveSend, Function.update_self]
    exact before
  | @answered round index c outcome atPc returned =>
    simp only [State.moveSend, Function.update_self]
    rcases ending with ending | ⟨_, _, _, outcome', sending, certain, ending⟩
    · rw [atPc] at ending
      exact answeredPc_ending ending outcome
    · cases atPc.symm.trans sending
      simp only [Connection.State.fate, returned] at certain
      cases certain
      exact ending
  | endRound atPc =>
    have last := ending.free atPc rfl
    simp only [SendPc.ending, Bool.and_eq_true] at last
    simp only [State.moveSend, Function.update_self]
    exact endRoundPc_ending last.2
  | setActive | remove =>
    simp only [State.moveSend, Function.update_self]
    rfl
  | push atPc | readActive atPc | opened atPc | retry atPc | sleep atPc | wake atPc | woken atPc =>
    cases ending.free atPc rfl

theorem State.Ending.step (ending : s.Ending d) (awaited : Awaited s) (taken : Step config s action after)
    (late : ∀ command, action = .send d (.start command) → (SendPc.start command : SendPc n).ending s.now = true) :
    after.Ending d := by
  rcases taken.loop d with ⟨_, rfl, sent⟩ | ⟨same, _⟩
  · exact .inl (SendPc.ending_mono (sent.ending ending fun command start => late command (by rw [start])) taken.now)
  · rcases ending with ending | ⟨round, index, c, outcome, sending, certain, ending⟩
    · exact .inl (by rw [same]; exact SendPc.ending_mono ending taken.now)
    · refine .inr ⟨round, index, c, outcome, same.trans sending, ?_, SendPc.ending_mono ending taken.now⟩
      rcases taken.client_of index with unmoved | ⟨_, _, step⟩
      · rw [unmoved]
        exact certain
      · exact (step.fate certain).resolve_left fun dropped => awaited.undropped index c (taken.undropped dropped)

end Steps

/-- Every `open` of a node that is running belongs to a loop or to an `open` of the replset client. -/
def State.Owned (s : State n) : Prop :=
  ∀ index o, ((s.clients index).opens o).atRest = false →
    (∃ d round, s.sends d = .opening round index o) ∨ ∃ u opened, s.opens u = .opening opened index o

section Owned

variable {config : Config n} {s after : State n} {action : Action n}

/-- Only the start of an `open` finds it at rest. -/
theorem opening_before {client : Connection.Config} {s after : Connection.State} {inner : Connection.Action}
    {o : Connection.OpenId} (taken : Connection.Step client s inner after) (running : (after.opens o).atRest = false) :
    (s.opens o).atRest = false ∨ inner = .opening o .start := by
  cases taken with
  | call taken => exact .inl (taken.frame.opens ▸ running)
  | closing taken => exact .inl (taken.frame.opens ▸ running)
  | reader taken => exact .inl (taken.frame.opens ▸ running)
  | network taken => exact .inl (taken.frame.opens ▸ running)
  | @opening moved _ _ taken =>
    by_cases own : o = moved
    · subst own
      rcases taken.moving with ⟨rfl, _⟩ | moving
      · exact .inr rfl
      · exact .inl moving
    · exact .inl ((taken.frame.others o own) ▸ running)

/-- A loop waits for an `open` of a node until it has returned. -/
theorem Step.waits_opening {d : SendId} {round : Round} {index : Fin n} {o : Connection.OpenId}
    (taken : Step config s action after) (waits : s.sends d = .opening round index o)
    (running : ((s.clients index).opens o).atRest = false) : after.sends d = .opening round index o := by
  rcases taken.loop d with ⟨_, rfl, sent⟩ | ⟨same, _⟩
  · cases sent with
    | opened atPc returned =>
      cases waits.symm.trans atPc
      rw [returned] at running
      cases running
    | start atPc | enter atPc | push atPc | readActive atPc | startOpen _ atPc | startSend atPc | answered atPc
    | startClose atPc | closed atPc | redirect atPc | setActive atPc | endRound atPc | retry atPc | sleep atPc
    | wake atPc | woken atPc | remove atPc => cases waits.symm.trans atPc
  · exact same.trans waits

theorem Step.awaits_opening {u : OpenId} {opened : Opened} {index : Fin n} {o : Connection.OpenId}
    (taken : Step config s action after) (waits : s.opens u = .opening opened index o)
    (running : ((s.clients index).opens o).atRest = false) : after.opens u = .opening opened index o := by
  cases taken with
  | send taken => exact taken.users.1 ▸ waits
  | closing taken => exact taken.users.2.2 ▸ waits
  | client | tick => exact waits
  | @opening moved _ _ taken =>
    by_cases own : u = moved
    · subst own
      cases taken with
      | opened atPc returned | unopened atPc returned =>
        cases waits.symm.trans atPc
        rw [returned] at running
        cases running
      | start atPc | startOpen _ atPc | readInitType atPc | choose atPc | setActive atPc =>
        cases waits.symm.trans atPc
    · exact (taken.others own).trans waits

theorem State.Owned.step (owned : s.Owned) (taken : Step config s action after) : after.Owned := by
  intro index o running
  have kept : ((s.clients index).opens o).atRest = false →
      (∃ d round, after.sends d = .opening round index o) ∨ ∃ u opened, after.opens u = .opening opened index o := by
    intro before
    rcases owned index o before with ⟨d, round, waits⟩ | ⟨u, opened, waits⟩
    · exact .inl ⟨d, round, taken.waits_opening waits before⟩
    · exact .inr ⟨u, opened, taken.awaits_opening waits before⟩
  rcases taken.client_of index with same | ⟨inner, atAction, step⟩
  · exact kept (same ▸ running)
  · rcases opening_before step running with before | rfl
    · exact kept before
    · rcases clientAction_opening atAction with ⟨d, rfl⟩ | ⟨u, rfl⟩ | rfl
      · cases taken with
        | send taken =>
          cases taken with
          | startOpen within atPc =>
            simp only [clientAction, atPc, dif_pos within] at atAction
            cases atAction
            exact .inl ⟨d, _, Function.update_self ..⟩
      · cases taken with
        | opening taken =>
          cases taken with
          | startOpen within atPc =>
            simp only [clientAction, atPc, dif_pos within] at atAction
            cases atAction
            exact .inr ⟨u, _, Function.update_self ..⟩
      · cases taken with | client inside => cases inside

theorem State.Owned.of_reach {allowed : State n → Action n → Prop} (reach : Reached config allowed s) : s.Owned :=
  reach.invariant (fun _ _ running => nomatch running) fun _ _ _ _ owned _ run => owned.step (.of_run run)

end Owned

end Ruslock.Replset
