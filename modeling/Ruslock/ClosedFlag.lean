import Ruslock.ConnectionEnd

namespace Ruslock.Connection
open Transition

def ClosePc.atRest : ClosePc → Bool
  | .idle => true
  | .returned => true
  | _ => false

/-- No `close` is in progress. -/
def State.Unclosing (s : State) : Prop := ∀ k, (s.closes k).atRest = true

/-- Nobody calls `close`. -/
def NoClose (_ : State) : Action → Prop
  | .closing _ .start => False
  | _ => True

/-- A `close` that has set the flag and has yet to look at the writer. -/
def ClosePc.seeking : ClosePc → Bool
  | .lockWriter => true
  | .inWriter => true
  | _ => false

theorem ClosePc.moving_of_seeking {pc : ClosePc} (seeking : pc.seeking = true) : pc.atRest = false := by
  cases pc <;> first | rfl | cases seeking

/-- An `open` that has found or stored a writer: it returns `Ok`. -/
def OpenPc.succeeded : OpenPc → Bool
  | .spawn _ => true
  | .returned (.ok ()) => true
  | _ => false

/-- A writer is stored only while the flag is not set, or while a `close` that
has set it will still take the writer away. -/
def PublishesUnclosed (s : State) : Action → Prop
  | .opening _ .publish => s.closed = false ∨ ∃ k, (s.closes k).seeking = true
  | _ => True

/-- A stored writer goes with a flag that is not set, or is about to be taken. -/
def State.Agreed (s : State) : Prop :=
  s.writer.isSome = true → s.closed = false ∨ ∃ k, (s.closes k).seeking = true

/-- What an `open` that returned `Ok` leaves: as long as nobody closes, no
command is rejected for a closed client. -/
def State.Usable (config : Config) (s : State) : Prop :=
  ∀ later, Reach (step config) NoClose s later →
    later.closed = false ∧ ∀ command, enterPc later.closed command ≠ .returned (.error .clientClosed)

/-- A `close` that has started and has yet to look at the writer. -/
def ClosePc.ahead : ClosePc → Bool
  | .storeClosed => true
  | .lockWriter => true
  | .inWriter => true
  | _ => false

theorem ClosePc.ahead_of_seeking {pc : ClosePc} (seeking : pc.seeking = true) : pc.ahead = true := by
  cases pc <;> first | rfl | cases seeking

/-- Every `close` that has started has set the flag and has looked at the writer. -/
def State.Unthreatened (s : State) : Prop := ∀ k, (s.closes k).ahead = false

/-- An `open` finds or stores a writer only while no `close` has yet to look at
it, stores it only while the flag is not set, and no `close` starts between
the storing and the return. -/
def OpensUnclosed (s : State) : Action → Prop
  | .opening _ .findWriter => s.writer.isSome = true → s.Unthreatened
  | .opening _ .publish => s.closed = false ∧ s.Unthreatened
  | .closing _ .start => ∀ o stream, s.opens o ≠ .spawn stream
  | _ => True

/-- Where an `open` has stored its writer and has yet to return, the flag is
not set and nobody is about to set it. -/
def State.Handed (s : State) : Prop := ∀ o stream, s.opens o = .spawn stream → s.closed = false ∧ s.Unthreatened

section Steps

variable {config : Config} {s after : State} {action : Action}

theorem OpenStep.closed {o : OpenId} {action : OpenAction} (taken : OpenStep config s o action after) :
    after.closed = s.closed ∨ after.closed = false := by
  cases taken with
  | storeClosed => exact .inr rfl
  | _ => exact .inl rfl

/-- A `close` sets the flag before it looks at the writer, and ends without one. -/
theorem CloseStep.seeking {k : CloseId} {action : CloseAction} (taken : CloseStep config s k action after)
    (writing : after.writer.isSome = true) :
    (after.closed = s.closed ∨ (after.closes k).seeking = true) ∧
      ((s.closes k).seeking = true → (after.closes k).seeking = true) := by
  cases taken with
  | storeClosed atPc => exact ⟨.inr (by simp only [Function.update_self]; rfl), fun _ => by
      simp only [Function.update_self]; rfl⟩
  | lockWriter atPc => exact ⟨.inl rfl, fun _ => by simp only [Function.update_self]; rfl⟩
  | noWriter atPc absent => rw [show _ = none from absent] at writing; cases writing
  | tookWriter => cases writing
  | drain atPc => exact ⟨.inl rfl, fun seeking => seeking⟩
  | start atPc | shutdown atPc | lockPending atPc | finish atPc =>
    refine ⟨.inl rfl, fun seeking => ?_⟩
    rw [atPc] at seeking
    cases seeking

theorem State.Agreed.step (agreed : s.Agreed) (meets : PublishesUnclosed s action)
    (taken : Step config s action after) : after.Agreed := by
  intro writing
  cases taken with
  | call taken =>
    have frame := taken.frame
    rw [frame.writer] at writing
    rw [frame.closed, frame.closes]
    exact agreed writing
  | network taken =>
    have frame := taken.frame
    rw [frame.writer] at writing
    rw [frame.closed, frame.closes]
    exact agreed writing
  | reader taken =>
    have frame := taken.frame
    obtain ⟨stream, atWriter⟩ := Option.isSome_iff_exists.mp writing
    rw [frame.closed, frame.closes]
    exact agreed (Option.isSome_iff_exists.mpr ⟨stream, taken.writer_kept atWriter⟩)
  | opening taken =>
    have before : s.closed = false ∨ ∃ k, (s.closes k).seeking = true := by
      rcases taken.writer with ⟨same, _⟩ | ⟨_, rfl, _⟩
      · rw [same] at writing
        exact agreed writing
      · exact meets
    rw [taken.frame.closes]
    rcases before with unset | seeking
    · rcases taken.closed with same | cleared
      · exact .inl (same.trans unset)
      · exact .inl cleared
    · exact .inr seeking
  | @closing k _ _ taken =>
    obtain ⟨flag, seeks⟩ := taken.seeking writing
    obtain ⟨stream, atWriter⟩ := Option.isSome_iff_exists.mp writing
    rcases flag with same | seeking
    · rcases agreed (Option.isSome_iff_exists.mpr ⟨stream, taken.writer_kept atWriter⟩) with unset | ⟨other, seeking⟩
      · exact .inl (same.trans unset)
      · refine .inr ⟨other, ?_⟩
        by_cases here : other = k
        · subst here
          exact seeks seeking
        · rw [taken.frame.others other here]
          exact seeking
    · exact .inr ⟨k, seeking⟩

theorem CloseStep.ahead {k : CloseId} {action : CloseAction} (taken : CloseStep config s k action after)
    (ahead : (after.closes k).ahead = true) : action = .start ∨ (s.closes k).ahead = true := by
  cases taken with
  | start => exact .inl rfl
  | storeClosed atPc | lockWriter atPc => exact .inr (by rw [atPc]; rfl)
  | drain atPc => exact .inr ahead
  | noWriter | tookWriter | shutdown | lockPending | finish =>
    simp only [Function.update_self] at ahead
    cases ahead

theorem CloseStep.closed {k : CloseId} {action : CloseAction} (taken : CloseStep config s k action after) :
    after.closed = s.closed ∨ (s.closes k).ahead = true := by
  cases taken with
  | storeClosed atPc => exact .inr (by rw [atPc]; rfl)
  | _ => exact .inl rfl

/-- Where nobody closes and no `close` has yet to look at the writer, the flag
is not set any more. -/
theorem State.Unthreatened.step (unthreatened : s.Unthreatened) (meets : NoClose s action)
    (taken : Step config s action after) : after.Unthreatened ∧ (s.closed = false → after.closed = false) := by
  unfold State.Unthreatened
  cases taken with
  | call taken => rw [taken.frame.closes, taken.frame.closed]; exact ⟨unthreatened, id⟩
  | reader taken => rw [taken.frame.closes, taken.frame.closed]; exact ⟨unthreatened, id⟩
  | network taken => rw [taken.frame.closes, taken.frame.closed]; exact ⟨unthreatened, id⟩
  | opening taken =>
    rw [taken.frame.closes]
    refine ⟨unthreatened, fun unset => ?_⟩
    rcases taken.closed with same | cleared
    · exact same.trans unset
    · exact cleared
  | @closing k _ _ taken =>
    refine ⟨fun other => ?_, fun unset => ?_⟩
    · by_cases here : other = k
      · subst here
        cases ahead : (after.closes other).ahead with
        | false => rfl
        | true =>
          rcases taken.ahead ahead with rfl | before
          · exact meets.elim
          · exact before.symm.trans (unthreatened other)
      · rw [taken.frame.others other here]
        exact unthreatened other
    · rcases taken.closed with same | ahead
      · exact same.trans unset
      · rw [unthreatened k] at ahead
        cases ahead

theorem OpenStep.publishing {o : OpenId} {action : OpenAction} {stream : StreamId}
    (taken : OpenStep config s o action after) (stored : after.opens o = .spawn stream) : action = .publish := by
  cases taken with
  | publish => rfl
  | findWriter =>
    simp only [Function.update_self] at stored
    split at stored <;> cases stored
  | _ => simp only [Function.update_self] at stored; cases stored

theorem State.Handed.step (handed : s.Handed) (meets : OpensUnclosed s action) (taken : Step config s action after) :
    after.Handed := by
  intro o stream atSpawn
  have lift : s.closed = false ∧ s.Unthreatened → NoClose s action → after.closed = false ∧ after.Unthreatened := by
    rintro ⟨unset, unthreatened⟩ quiet
    have kept := unthreatened.step quiet taken
    exact ⟨kept.2 unset, kept.1⟩
  cases taken with
  | call taken => exact lift (handed o stream (by rw [← taken.frame.opens]; exact atSpawn)) trivial
  | reader taken => exact lift (handed o stream (by rw [← taken.frame.opens]; exact atSpawn)) trivial
  | network taken =>
    refine lift (handed o stream (by rw [← taken.frame.opens]; exact atSpawn)) ?_
    cases taken <;> trivial
  | @opening moved _ _ taken =>
    refine lift ?_ trivial
    by_cases here : o = moved
    · subst here
      cases taken.publishing atSpawn
      exact meets
    · rw [taken.frame.others o here] at atSpawn
      exact handed o stream atSpawn
  | @closing k action _ taken =>
    rw [taken.frame.opens] at atSpawn
    refine lift (handed o stream atSpawn) ?_
    cases action with
    | start => exact meets o stream atSpawn
    | _ => trivial

end Steps

theorem State.Agreed.of_reach {config : Config} {s : State} (reach : Reached config PublishesUnclosed s) : s.Agreed :=
  reach.invariant nofun fun _ _ _ _ agreed meets run => agreed.step meets (.of_run run)

theorem State.Handed.of_reach {config : Config} {s : State} (reach : Reached config OpensUnclosed s) : s.Handed :=
  reach.invariant nofun fun _ _ _ _ handed meets run => handed.step meets (.of_run run)

theorem PublishesUnclosed.of_opensUnclosed {s : State} {action : Action} (meets : OpensUnclosed s action) :
    PublishesUnclosed s action := by
  cases action with
  | opening o action =>
    cases action with
    | publish => exact .inl meets.1
    | _ => trivial
  | _ => trivial

theorem unset_of_unthreatened {config : Config} {s later : State} (unthreatened : s.Unthreatened)
    (unset : s.closed = false) (onward : Reach (step config) NoClose s later) : later.closed = false :=
  (onward.invariant (motive := fun state => state.Unthreatened ∧ state.closed = false) ⟨unthreatened, unset⟩
    fun _ _ _ _ holds meets run =>
      have kept := holds.1.step meets (.of_run run)
      ⟨kept.1, kept.2 holds.2⟩).2

theorem enterPc_unclosed (command : Command) : enterPc false command ≠ .returned (.error .clientClosed) := by
  intro rejected
  simp only [enterPc, Bool.false_eq_true, if_false] at rejected
  split at rejected
  · rename_i err fails
    cases rejected
    obtain ⟨_, same⟩ := Command.encode_error fails
    cases same
  · cases rejected

/-- An `open` succeeds with a writer in place. -/
theorem OpenStep.succeeds {config : Config} {s after : State} {o : OpenId} {action : OpenAction}
    (taken : OpenStep config s o action after) (pending : (s.opens o).succeeded = false)
    (succeeded : (after.opens o).succeeded = true) : after.writer.isSome = true := by
  cases taken with
  | findWriter atPc =>
    simp only [Function.update_self] at succeeded
    split at succeeded
    · rename_i present
      exact present
    · cases succeeded
  | publish => rfl
  | spawn atPc =>
    rw [atPc] at pending
    cases pending
  | _ => simp only [Function.update_self] at succeeded; cases succeeded

theorem unset_of_agreed {s : State} (agreed : s.Agreed) (calm : ∀ k, (s.closes k).seeking = false)
    (writing : s.writer.isSome = true) : s.closed = false := by
  rcases agreed writing with unset | ⟨k, seeking⟩
  · exact unset
  · rw [calm k] at seeking
    cases seeking

theorem usable_of_unthreatened {config : Config} {s : State} (unthreatened : s.Unthreatened) (unset : s.closed = false) :
    s.Usable config := by
  intro later onward
  have still := unset_of_unthreatened unthreatened unset onward
  refine ⟨still, fun command => ?_⟩
  rw [still]
  exact enterPc_unclosed command

/-- The flag when an `open` succeeds or returns. -/
theorem OpenStep.leaves {config : Config} {s after : State} {o : OpenId} {action : OpenAction}
    (taken : OpenStep config s o action after) (agreed : s.Agreed) (handed : s.Handed)
    (meets : OpensUnclosed s (.opening o action)) (succeeded : (after.opens o).succeeded = true) :
    after.closed = false ∧ after.Unthreatened := by
  cases taken with
  | findWriter =>
    simp only [Function.update_self] at succeeded
    split at succeeded
    · rename_i present
      have unthreatened := meets present
      refine ⟨unset_of_agreed agreed (fun k => ?_) present, unthreatened⟩
      cases seeking : (s.closes k).seeking with
      | false => rfl
      | true => exact (ClosePc.ahead_of_seeking seeking).symm.trans (unthreatened k)
    · cases succeeded
  | publish => exact meets
  | @spawn stream atPc => exact handed o stream atPc
  | _ => simp only [Function.update_self] at succeeded; cases succeeded

/-- In a run in which no writer is stored behind the back of a `close`, a
writer is left behind only with an unset flag. In a run in which no `close` is
about to look at the writer when an `open` succeeds or returns, that `open`
leaves a usable connection. -/
theorem usable_of_opensUnclosed {config : Config} {s : State} :
    (Reached config PublishesUnclosed s → s.AtRest → s.Unclosing → s.writer.isSome = true → s.closed = false) ∧
      ∀ before o action, Reached config OpensUnclosed before → OpensUnclosed before (.opening o action) →
        step config before (.opening o action) = some s → (s.opens o).succeeded = true →
          ((before.opens o).succeeded = false → s.writer.isSome = true) ∧ s.Usable config := by
  constructor
  · intro reach _ unclosing writing
    refine unset_of_agreed (.of_reach reach) (fun k => ?_) writing
    cases seeking : (s.closes k).seeking with
    | false => rfl
    | true => exact (unclosing k).symm.trans (ClosePc.moving_of_seeking seeking)
  · intro before o action reach meets run succeeded
    have taken : OpenStep config before o action s := .of_run run
    have agreed : before.Agreed := .of_reach (reach.mono fun _ _ => .of_opensUnclosed)
    have left := taken.leaves agreed (.of_reach reach) meets succeeded
    exact ⟨fun pending => taken.succeeds pending succeeded, usable_of_unthreatened left.2 left.1⟩

/-- There is only one `close`. -/
def OnlyClose (k : CloseId) (_ : State) : Action → Prop
  | .closing other _ => other = k
  | _ => True

theorem unclosing_of_onlyClose {config : Config} {s : State} {k : CloseId} (reach : Reached config (OnlyClose k) s)
    (returned : (s.closes k).atRest = true) : s.Unclosing := by
  have idle : ∀ other ≠ k, s.closes other = .idle := by
    intro other apart
    clear returned
    induction reach with
    | start => rfl
    | next _ meets run ih =>
      cases Step.of_run run with
      | call taken => rw [taken.frame.closes]; exact ih
      | opening taken => rw [taken.frame.closes]; exact ih
      | reader taken => rw [taken.frame.closes]; exact ih
      | network taken => rw [taken.frame.closes]; exact ih
      | closing taken =>
        cases meets
        rw [taken.frame.others other apart]
        exact ih
  intro other
  by_cases same : other = k
  · rw [same, returned]
  · rw [idle other same]
    rfl

/-- A `close` while the handshake of an `open` is on its way. -/
def closeInHandshake : List Action :=
  (openActions 0 0).take 7 ++
    [.closing 0 .start, .closing 0 .storeClosed, .closing 0 .lockWriter, .closing 0 .takeWriter,
      .closing 0 .lockPending, .closing 0 .finish] ++
    (openActions 0 0).drop 7

/-- Both calls are over, the `open` has succeeded, and every command is rejected. -/
theorem closeInHandshake_unusable :
    ¬ ∀ config s, Reached config Always s → s.AtRest → s.Unclosing → s.writer.isSome = true → s.closed = false := by
  intro claim
  have executed : (run (step ⟨.blocking, ""⟩) State.new closeInHandshake).any
      (fun s => (s.opens 0).atRest ∧ (s.closes 0).atRest ∧ s.writer.isSome ∧ s.closed) = true := by decide
  obtain ⟨s, final, found⟩ := (Option.any_eq_true ..).mp executed
  obtain ⟨openOver, closeOver, writing, closed⟩ := of_decide_eq_true found
  have onlyOpen : Reached ⟨.blocking, ""⟩ (OnlyOpen 0) s := by
    refine .of_run (.of_forall (fun action member _ => ?_) State.new) final
    revert action
    simp [closeInHandshake, openActions, OnlyOpen]
  have onlyClose : Reached ⟨.blocking, ""⟩ (OnlyClose 0) s := by
    refine .of_run (.of_forall (fun action member _ => ?_) State.new) final
    revert action
    simp [closeInHandshake, openActions, OnlyClose]
  have unset := claim _ s onlyOpen.always (atRest_of_onlyOpen onlyOpen openOver)
    (unclosing_of_onlyClose onlyClose closeOver) writing
  rw [unset] at closed
  cases closed

/-- An `open` that nobody disturbs, and its return. -/
theorem usable_opened : ∃ before s : State, step ⟨.aio, ""⟩ before (.opening 0 .spawn) = some s ∧
    s.writer.isSome = true ∧ s.closed = false ∧ s.Usable ⟨.aio, ""⟩ := by
  have stored : (run (step ⟨.aio, ""⟩) State.new ((openActions 0 0).take 12)).any (fun before =>
      (step ⟨.aio, ""⟩ before (.opening 0 .spawn)).any fun s =>
        (s.opens 0).succeeded ∧ (s.opens 0).atRest ∧ (s.closes 0).atRest ∧ s.writer.isSome) = true := by decide
  obtain ⟨before, final, stored⟩ := (Option.any_eq_true ..).mp stored
  obtain ⟨s, returns, found⟩ := (Option.any_eq_true ..).mp stored
  obtain ⟨succeeded, openOver, closeOver, writing⟩ := of_decide_eq_true found
  have onlyOpen : Reached ⟨.aio, ""⟩ (OnlyOpen 0) before := by
    refine .of_run (.of_forall (fun action member _ => ?_) State.new) final
    revert action
    simp [openActions, OnlyOpen]
  have onlyClose : Reached ⟨.aio, ""⟩ (OnlyClose 0) before := by
    refine .of_run (.of_forall (fun action member _ => ?_) State.new) final
    revert action
    simp [openActions, OnlyClose]
  have meets : RunAllowed (step ⟨.aio, ""⟩) OpensUnclosed State.new ((openActions 0 0).take 12) :=
    ⟨trivial, trivial, nofun, trivial, trivial, trivial, trivial, trivial, trivial, trivial, trivial,
      ⟨rfl, fun _ => rfl⟩, trivial⟩
  have reach : Reached ⟨.aio, ""⟩ OpensUnclosed before := .of_run meets final
  have published : Reached ⟨.aio, ""⟩ PublishesUnclosed s :=
    .next (reach.mono fun _ _ => .of_opensUnclosed) (show PublishesUnclosed before (.opening 0 .spawn) from trivial) returns
  have atRest : s.AtRest :=
    atRest_of_onlyOpen (.next onlyOpen (show OnlyOpen 0 before (.opening 0 .spawn) from rfl) returns) openOver
  have unclosing : s.Unclosing :=
    unclosing_of_onlyClose (.next onlyClose (show OnlyClose 0 before (.opening 0 .spawn) from trivial) returns) closeOver
  have unset := usable_of_opensUnclosed.1 published atRest unclosing writing
  have usable := usable_of_opensUnclosed.2 before 0 .spawn reach trivial returns succeeded
  exact ⟨before, s, returns, writing, unset, usable.2⟩

end Ruslock.Connection
