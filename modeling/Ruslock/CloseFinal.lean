import Ruslock.EndingLoops

namespace Ruslock.Connection
open Transition

/-- Nobody opens the connection, and no call is refused across a reader that
fails requests. -/
structure Unopened (s : State) (action : Action) : Prop where
  noOpen : NoOpen s action
  uncrossed : Uncrossed s action

/-- What a `close` that has returned leaves behind while all steps are allowed
ones: silence, and calls that come to their ends, the unanswered ones with errors. -/
structure Finished (config : Config) (allowed : State → Action → Prop) (s later : State) : Prop extends
    Silent s later where
  bounded : ∃ bound, ∀ actions final, (∀ action ∈ actions, action.own = true) →
    run (step config) later actions = some final → actions.length ≤ bound
  /-- Once nobody can take a step any more, every call that was made has returned or was dropped. -/
  returns : ∀ final, Reach (step config) (fun now action => action.own = true ∧ allowed now action) later final →
    final.Still config → ∀ c, final.calls c = .idle ∨ final.calls c = .dropped ∨
      ∃ outcome, final.calls c = .returned outcome ∧ (¬ s.Replied c → ∃ err, outcome = .error err)

theorem finished_of_spent {config : Config} {s later : State} (spent : Spent s) (reach : Reached config Uncrossed s)
    (onward : Reach (step config) Unopened s later) : Finished config Unopened s later := by
  have silent : ∀ {state}, Reach (step config) Unopened s state → Silent s state := fun between =>
    spent.silent_run reach (between.mono fun _ _ => Unopened.noOpen)
  refine ⟨silent onward, own_bounded (reach.always.trans onward.always), fun final further still c => ?_⟩
  have whole : Reach (step config) Unopened s final := onward.trans (further.mono fun _ _ meets => meets.2)
  have reached : Reached config Uncrossed final := reach.trans (whole.mono fun _ _ => Unopened.uncrossed)
  have quiescent := (still.quiescent (.of_reach reached)).resolve_right (Apart.of_reach reached).no_deadlock
  exact (quiescent.call c).imp_right (Or.imp_right fun ⟨outcome, returned⟩ =>
    ⟨outcome, returned, (silent whole).failed c outcome returned⟩)

end Ruslock.Connection

namespace Ruslock.Replset
open Transition Wire

variable {n : Nat}

/-- The `close` has come to the node. -/
def ClosePc.begun (index : Fin n) : ClosePc n → Bool
  | .idle => false
  | .attempt next => index < next
  | .closing current _ => index ≤ current
  | .clearActive => true
  | .returned => true

/-- The `close` is done with the node. -/
def ClosePc.past (index : Fin n) : ClosePc n → Bool
  | .idle => false
  | .attempt next => index < next
  | .closing current _ => index < current
  | .clearActive => true
  | .returned => true

def OpenPc.atRest : OpenPc n → Bool
  | .idle => true
  | .returned _ => true
  | _ => false

/-- When a `close` starts, every `send_command` is coming to its end and no
`open` is running; afterwards none of either is begun that would get as far as
a node; and on no node a call is refused across a reader that fails requests. -/
structure Settling (s : State n) (action : Action n) : Prop where
  starts : ∀ u, action = .closing u .start → (∀ d, s.Ending d) ∧ ∀ v, (s.opens v).atRest = true
  late : ∀ d command, action = .send d (.start command) → (∃ u, s.closes u ≠ .idle) →
    (SendPc.start command : SendPc n).ending s.now = true
  unopened : ∀ v, action = .opening v .start → ∀ u, s.closes u = .idle
  uncrossed : ∀ index inner, clientAction s action = some (index, inner) →
    Connection.Uncrossed (s.clients index) inner

/-- All who use the client are coming to their ends. -/
structure Winding (s : State n) : Prop where
  ending : ∀ d, s.Ending d
  rested : ∀ v, (s.opens v).atRest = true

/-- Nobody opens a node to which a `close` has come, and no `open` of a node is
running when a `close` comes to it. -/
structure StaysShut (s : State n) (action : Action n) : Prop where
  unopened : ∀ index o, clientAction s action = some (index, .opening o .start) →
    ∀ u, (s.closes u).begun index = false
  rested : ∀ u k index, action = .closing u (.startClose k) →
    clientAction s action = some (index, .closing k .start) → (s.clients index).AtRest

/-- Where the nodes stand that the `close` has come to. -/
structure Shut (u : CloseId) (s : State n) : Prop where
  atRest : ∀ index, (s.closes u).begun index = true → (s.clients index).AtRest
  closing : ∀ index k, s.closes u = .closing index k → Connection.Shutting k (s.clients index)
  past : ∀ index, (s.closes u).past index = true → Connection.Spent (s.clients index)

/-- An `Ok` is in the hands of the loop. -/
def SendPc.told : SendPc n → Bool
  | .attempt round => round.lastStateError.isSome
  | .opening round _ _ => round.lastStateError.isSome
  | .connected round _ => round.lastStateError.isSome
  | .sending round _ _ => round.lastStateError.isSome
  | .failed round _ _ => round.lastStateError.isSome
  | .closing round _ _ _ => round.lastStateError.isSome
  | .redirect round => round.lastStateError.isSome
  | .setActive _ _ _ => true
  | .remove _ outcome => outcome.isOk
  | .returned outcome => outcome.isOk
  | _ => false

/-- A node has answered a `send_command`, in this round or for good. -/
def State.Replied (s : State n) (d : SendId) : Prop :=
  (s.sends d).told = true ∨ ∃ round index c, s.sends d = .sending round index c ∧ (s.clients index).Replied c

section Rules

variable {config : Config n} {allowed : State n → Action n → Prop} {s after : State n} {action : Action n}

theorem ClosePc.begun_of_past {index : Fin n} {pc : ClosePc n} (past : pc.past index = true) : pc.begun index = true := by
  cases pc with
  | closing current k =>
    simp only [ClosePc.past, decide_eq_true_eq] at past
    simp only [ClosePc.begun, decide_eq_true_eq]
    exact Fin.le_of_lt past
  | _ => exact past

theorem StaysShut.noOpen {u : CloseId} {index : Fin n} {inner : Connection.Action} (meets : StaysShut s action)
    (begun : (s.closes u).begun index = true) (atAction : clientAction s action = some (index, inner)) :
    Connection.NoOpen (s.clients index) inner := by
  cases inner with
  | opening o action =>
    cases action with
    | start =>
      rw [meets.unopened index o atAction u] at begun
      cases begun
    | _ => trivial
  | _ => trivial

section Kept

variable {u : CloseId} (shut : Shut u s) (reach : Reached config allowed s) (meets : StaysShut s action)
  (taken : Step config s action after)
include shut reach meets taken

/-- What holds of a client that the `close` has come to holds after every step. -/
theorem Shut.client {index : Fin n} (begun : (s.closes u).begun index = true) :
    (after.clients index).AtRest ∧
      (∀ k, Connection.Shutting k (s.clients index) → Connection.Shutting k (after.clients index)) ∧
      (Connection.Spent (s.clients index) → Connection.Spent (after.clients index)) := by
  have atRest := shut.atRest index begun
  rcases taken.client_of index with same | ⟨_, atAction, step⟩
  · rw [same]
    exact ⟨atRest, fun _ shutting => shutting, id⟩
  · have noOpen := meets.noOpen begun atAction
    exact ⟨atRest.step noOpen step, fun _ shutting => shutting.step (client_reached index reach) noOpen step,
      fun spent => spent.step (client_reached index reach) noOpen step⟩

/-- A step of anybody else leaves the `close` where it is. -/
theorem Shut.others (same : after.closes u = s.closes u) : Shut u after := by
  constructor
  · intro index begun
    rw [same] at begun
    exact (shut.client reach meets taken begun).1
  · intro index k current
    rw [same] at current
    have begun : (s.closes u).begun index = true := by rw [current]; exact decide_eq_true (Fin.le_refl index)
    exact (shut.client reach meets taken begun).2.1 k (shut.closing index k current)
  · intro index past
    rw [same] at past
    exact (shut.client reach meets taken (ClosePc.begun_of_past past)).2.2 (shut.past index past)

end Kept

/-- All nodes are behind the `close`. -/
theorem Shut.complete {u : CloseId} (shut : Shut u s) (clients : after.clients = s.clients)
    (past : ∀ index, (s.closes u).past index = true) (done : ∀ index k, after.closes u ≠ .closing index k) :
    Shut u after := by
  constructor
  · intro index _
    rw [clients]
    exact shut.atRest index (ClosePc.begun_of_past (past index))
  · exact fun index k current => absurd current (done index k)
  · intro index _
    rw [clients]
    exact shut.past index (past index)

/-- The `close` comes to its next node. -/
theorem Shut.startClose {u : CloseId} {next : Nat} {k : Connection.CloseId} {client : Connection.State}
    (shut : Shut u s) (within : next < n) (atPc : s.closes u = .attempt next)
    (reach : Connection.Reached (config.client ⟨next, within⟩) Always (s.clients ⟨next, within⟩))
    (atRest : (s.clients ⟨next, within⟩).AtRest)
    (run : Connection.step (config.client ⟨next, within⟩) (s.clients ⟨next, within⟩) (.closing k .start) = some client) :
    Shut u ((s.withClient ⟨next, within⟩ client).moveClose u (.closing ⟨next, within⟩ k)) := by
  have taken := Connection.Step.of_run run
  have noOpen : Connection.NoOpen (s.clients ⟨next, within⟩) (.closing k .start) := trivial
  have idle : (s.clients ⟨next, within⟩).closes k = .idle := by
    cases taken with
    | network taken => cases taken
    | closing taken => cases taken with | start atPc => exact atPc
  have earlier : ∀ index : Fin n, index < ⟨next, within⟩ → (s.closes u).past index = true := by
    intro index before
    rw [atPc]
    exact decide_eq_true before
  have unmoved : ∀ index : Fin n, index < ⟨next, within⟩ →
      (s.withClient ⟨next, within⟩ client).clients index = s.clients index :=
    fun index before => Function.update_of_ne (Fin.ne_of_lt before) ..
  have moved : (s.withClient ⟨next, within⟩ client).clients ⟨next, within⟩ = client := Function.update_self ..
  have current : ((s.withClient ⟨next, within⟩ client).moveClose u (.closing ⟨next, within⟩ k)).closes u =
      .closing ⟨next, within⟩ k := Function.update_self ..
  constructor
  · intro index begun
    rw [current] at begun
    rcases Fin.lt_or_eq_of_le (of_decide_eq_true begun) with before | rfl
    · exact (unmoved index before).symm ▸ shut.atRest index (ClosePc.begun_of_past (earlier index before))
    · exact moved.symm ▸ atRest.step noOpen taken
  · intro index k' same
    cases current.symm.trans same
    have shutting : Connection.Shutting k (s.clients ⟨next, within⟩) :=
      ⟨atRest, by rw [idle]; nofun, by rw [idle]; nofun⟩
    exact moved.symm ▸ shutting.step reach noOpen taken
  · intro index past
    rw [current] at past
    have before : index < ⟨next, within⟩ := of_decide_eq_true past
    exact (unmoved index before).symm ▸ shut.past index (earlier index before)

/-- The `close` is done with a node. -/
theorem Shut.closed {u : CloseId} {current : Fin n} {k : Connection.CloseId} (shut : Shut u s)
    (atPc : s.closes u = .closing current k) (returned : (s.clients current).closes k = .returned) :
    Shut u (s.moveClose u (.attempt (current + 1))) := by
  have next : (s.moveClose u (.attempt (current + 1))).closes u = .attempt (current + 1) := Function.update_self ..
  have past : ∀ index : Fin n, index < current.val + 1 → Connection.Spent (s.clients index) := by
    intro index before
    rcases Fin.lt_or_eq_of_le (Nat.le_of_lt_succ before) with earlier | rfl
    · exact shut.past index (by rw [atPc]; exact decide_eq_true earlier)
    · exact (shut.closing index k atPc).closed returned
  constructor
  · intro index begun
    rw [next] at begun
    exact (past index (of_decide_eq_true begun)).atRest
  · intro index k' same
    cases next.symm.trans same
  · intro index isPast
    rw [next] at isPast
    exact past index (of_decide_eq_true isPast)

theorem Shut.step {u : CloseId} (shut : Shut u s) (reach : Reached config allowed s) (meets : StaysShut s action)
    (taken : Step config s action after) : Shut u after := by
  have others := shut.others reach meets taken
  cases taken with
  | send taken => cases taken <;> exact others rfl
  | opening taken => cases taken <;> exact others rfl
  | client => exact others rfl
  | tick => exact others rfl
  | @closing moved _ _ taken =>
    by_cases here : u = moved
    · subst here
      cases taken with
      | start =>
        constructor
        · intro index begun
          simp only [State.moveClose, Function.update_self, ClosePc.begun, Nat.not_lt_zero, decide_false] at begun
          cases begun
        · intro index k current
          simp only [State.moveClose, Function.update_self] at current
          cases current
        · intro index past
          simp only [State.moveClose, Function.update_self, ClosePc.past, Nat.not_lt_zero, decide_false] at past
          cases past
      | @startClose next k client within atPc run =>
        have atRest := meets.rested u k ⟨next, within⟩ rfl (by simp only [clientAction, atPc, dif_pos within])
        exact shut.startClose within atPc (client_reached _ reach) atRest run
      | closed atPc returned => exact shut.closed atPc returned
      | @endLoop next atPc all =>
        have past : ∀ index : Fin n, (s.closes u).past index = true := by
          intro index
          rw [atPc]
          exact decide_eq_true (index.isLt.trans_le all)
        refine shut.complete rfl past fun index k current => ?_
        simp only [State.moveClose, Function.update_self] at current
        cases current
      | clearActive atPc =>
        have past : ∀ index : Fin n, (s.closes u).past index = true := by
          intro index
          rw [atPc]
          rfl
        refine shut.complete rfl past fun index k current => ?_
        simp only [State.moveClose, Function.update_self] at current
        cases current
    · cases taken <;> exact others (Function.update_of_ne here ..)

theorem Step.returned_kept {u : CloseId} (taken : Step config s action after) (returned : s.closes u = .returned) :
    after.closes u = .returned := by
  cases taken with
  | send taken => cases taken <;> exact returned
  | opening taken => cases taken <;> exact returned
  | client => exact returned
  | tick => exact returned
  | @closing moved _ _ taken =>
    by_cases here : u = moved
    · subst here
      cases taken with
      | start atPc | startClose _ atPc | closed atPc | endLoop atPc | clearActive atPc => cases atPc.symm.trans returned
    · cases taken <;> exact (Function.update_of_ne here ..).trans returned

/-- An `Ok` comes into the hands of the loop by the answer of a node. -/
theorem SendStep.told {d : SendId} {action : SendAction} (taken : SendStep config s d action after)
    (told : (after.sends d).told = true) : s.Replied d := by
  have here : ∀ pc, s.sends d = pc → pc.told = true → s.Replied d := fun pc atPc told => .inl (by rw [atPc]; exact told)
  cases taken with
  | start | push | readActive | retry | sleep | wake | woken =>
    simp only [State.moveSend, Function.update_self] at told
    cases told
  | startOpen _ atPc | startSend atPc | startClose atPc | closed atPc | redirect atPc | setActive atPc | remove atPc =>
    simp only [State.moveSend, Function.update_self] at told
    exact here _ atPc told
  | enter =>
    simp only [State.moveSend, Function.update_self, enterPc] at told
    repeat' split at told
    all_goals cases told
  | @opened round index o outcome atPc =>
    simp only [State.moveSend, Function.update_self] at told
    cases outcome <;> exact here _ atPc told
  | @answered round index c outcome atPc returned =>
    cases outcome with
    | ok result => exact .inr ⟨round, index, c, atPc, .inl ⟨result, returned⟩⟩
    | error err =>
      simp only [State.moveSend, Function.update_self, answeredPc] at told
      split at told
      · exact here _ atPc told
      · cases told
  | @endRound round atPc =>
    simp only [State.moveSend, Function.update_self, endRoundPc] at told
    split at told
    · exact here _ atPc (by rw [SendPc.told, ‹round.lastStateError = _›]; rfl)
    · split at told <;> cases told

/-- No node answers any more. -/
theorem replied_before {d : SendId} (spent : ∀ index, Connection.Spent (s.clients index))
    (reach : Reached config allowed s) (taken : Step config s action after) (replied : after.Replied d) :
    s.Replied d := by
  have client : ∀ index c, (after.clients index).Replied c → (s.clients index).Replied c := by
    intro index c replied
    rcases taken.client_of index with same | ⟨_, _, inner⟩
    · rw [← same]
      exact replied
    · exact (spent index).replied (client_reached index reach) inner replied
  have same : after.sends d = s.sends d → s.Replied d := by
    intro same
    unfold State.Replied at replied
    rw [same] at replied
    rcases replied with told | ⟨round, index, c, sending, replied⟩
    · exact .inl told
    · exact .inr ⟨round, index, c, sending, client index c replied⟩
  cases taken with
  | opening taken => cases taken <;> exact same rfl
  | closing taken => cases taken <;> exact same rfl
  | client => exact same rfl
  | tick => exact same rfl
  | @send moved _ _ taken =>
    by_cases here : d = moved
    · subst here
      rcases replied with told | ⟨round, index, c, sending, replied⟩
      · exact taken.told told
      · obtain ⟨_, idle, _⟩ := taken.sending sending
        rcases client index c replied with ⟨result, returned⟩ | ⟨written, _⟩
        · cases idle.symm.trans returned
        · rw [Connection.unwritten_of_fresh (client_reached index reach) (by rw [idle]; rfl)] at written
          cases written
    · exact same (by cases taken <;> exact Function.update_of_ne here ..)

end Rules

section Winding

variable {config : Config n} {s after : State n} {action : Action n}

theorem Winding.step (winding : Winding s) (awaited : Awaited s) (taken : Step config s action after)
    (late : ∀ d command, action = .send d (.start command) → (SendPc.start command : SendPc n).ending s.now = true)
    (unopened : ∀ v, action ≠ .opening v .start) : Winding after := by
  refine ⟨fun d => (winding.ending d).step awaited taken (late d), fun v => ?_⟩
  have kept : after.opens v = s.opens v → (after.opens v).atRest = true := fun same => by
    rw [same]
    exact winding.rested v
  cases taken with
  | send taken => exact kept (by rw [taken.users.1])
  | closing taken => exact kept (by rw [taken.users.2.2])
  | client | tick => exact kept rfl
  | @opening moved _ _ taken =>
    by_cases own : v = moved
    · subst own
      have rested := winding.rested v
      cases taken with
      | start => exact absurd rfl (unopened v)
      | startOpen _ atPc | opened atPc | unopened atPc | readInitType atPc | choose atPc | setActive atPc =>
        rw [atPc] at rested
        cases rested
    · exact kept (taken.others own)

/-- The first step of a `close` is the only one that finds it idle. -/
theorem Step.close_begun {u : CloseId} (taken : Step config s action after) (begun : after.closes u ≠ .idle) :
    s.closes u ≠ .idle ∨ action = .closing u .start := by
  cases taken with
  | send taken => exact .inl (taken.users.2 ▸ begun)
  | opening taken => exact .inl (taken.users.2.2 ▸ begun)
  | client | tick => exact .inl begun
  | @closing moved _ _ taken =>
    by_cases own : u = moved
    · subst own
      cases taken with
      | start => exact .inr rfl
      | startClose _ atPc | closed atPc | endLoop atPc | clearActive atPc => exact .inl (by rw [atPc]; nofun)
    · exact .inl (taken.others own ▸ begun)

theorem Winding.of_reach (reach : Reached config Settling s) (begun : ∃ u, s.closes u ≠ .idle) : Winding s := by
  induction reach with
  | start => exact begun.elim fun _ begun => absurd rfl begun
  | @next before after action previous meets run ih =>
    have taken := Step.of_run run
    have awaited : Awaited before := .of_reach previous
    obtain ⟨u, begun⟩ := begun
    rcases taken.close_begun begun with already | rfl
    · exact (ih ⟨u, already⟩).step awaited taken (fun d command start => meets.late d command start ⟨u, already⟩)
        fun v start => already (meets.unopened v start u)
    · obtain ⟨ending, rested⟩ := meets.starts u rfl
      exact Winding.step ⟨ending, rested⟩ awaited taken nofun nofun

/-- No node is being opened. -/
theorem Winding.atRest (winding : Winding s) (owned : s.Owned) (index : Fin n) : (s.clients index).AtRest := by
  intro o
  cases running : ((s.clients index).opens o).atRest with
  | true => rfl
  | false =>
    rcases owned index o running with ⟨d, round, waits⟩ | ⟨u, opened, waits⟩
    · cases (winding.ending d).free waits rfl
    · have rested := winding.rested u
      rw [waits] at rested
      cases rested

theorem ClosePc.busy_of_begun {pc : ClosePc n} {index : Fin n} (begun : pc.begun index = true) : pc ≠ .idle := by
  rintro rfl
  cases begun

/-- Where all are coming to their ends, the nodes stay shut. -/
theorem StaysShut.of_winding (winding : (∃ u, s.closes u ≠ .idle) → Winding s) (owned : s.Owned)
    (taken : Step config s action after) : StaysShut s action := by
  constructor
  · intro index o atAction u
    cases begun : (s.closes u).begun index with
    | false => rfl
    | true =>
      have wound := winding ⟨u, ClosePc.busy_of_begun begun⟩
      exfalso
      rcases clientAction_opening atAction with ⟨d, rfl⟩ | ⟨v, rfl⟩ | rfl
      · cases taken with
        | send taken =>
          cases taken with
          | startOpen within atPc =>
            have behind := (wound.ending d).free atPc rfl
            simp only [SendPc.ending, Bool.and_eq_true, decide_eq_true_eq] at behind
            exact Nat.not_le_of_lt within behind.1
      · cases taken with
        | opening taken =>
          cases taken with
          | startOpen within atPc =>
            have rested := wound.rested v
            rw [atPc] at rested
            cases rested
      · cases taken with | client inside => cases inside
  · rintro u k index rfl _
    refine (winding ⟨u, ?_⟩).atRest owned index
    intro idle
    cases taken with
    | closing taken => cases taken with | startClose _ atPc => cases atPc.symm.trans idle

theorem staysShut_onward {first : State n} (reach : Reached config Settling first)
    (onward : Reach (step config) Settling first s) : Reach (step config) StaysShut first s := by
  induction onward with
  | start => exact .start
  | next between _ run ih =>
    have reached := reach.trans between
    exact .next ih (.of_winding (.of_reach reached) (.of_reach reached) (.of_run run)) run

theorem apart_of_settling (reach : Reached config Settling s) (index : Fin n) : Connection.Apart (s.clients index) :=
  .of_reach (client_reach index reach fun _ _ inner _ meets atAction => meets.uncrossed index inner atAction)

/-- Where nobody moves, everybody who was coming to his end has got there. -/
theorem Winding.returned {d : SendId} (winding : Winding s) (rests : s.SendRests d)
    (apart : ∀ index, Connection.Apart (s.clients index)) :
    s.sends d = .idle ∨ ∃ outcome, s.sends d = .returned outcome := by
  rcases rests with idle | returned | ⟨pending, lastError, wakeAt, asleep, _⟩ | hangs
  · exact .inl idle
  · exact .inr returned
  · cases (winding.ending d).free asleep rfl
  · exfalso
    cases atPc : s.sends d with
    | opening round index o => cases (winding.ending d).free atPc rfl
    | sending round index c =>
      rw [atPc] at hangs
      rcases hangs with deadlock | ⟨_, _, other, _⟩
      · exact (apart index).no_deadlock deadlock
      · cases other
    | closing round index err k =>
      rw [atPc] at hangs
      rcases hangs with deadlock | ⟨_, _, other, _⟩
      · exact (apart index).no_deadlock deadlock
      · cases other
    | _ =>
      rw [atPc] at hangs
      exact hangs

end Winding

/-- What a `close` of the replset client that has returned leaves behind while
all steps are allowed ones. -/
structure Silent (config : Config n) (allowed : State n → Action n → Prop) (s later : State n) : Prop where
  unopened : ∀ index, (later.clients index).connected = (s.clients index).connected
  unwritten : ∀ index, (later.clients index).sent = (s.clients index).sent
  failed : ∀ d outcome, later.sends d = .returned outcome → ¬ s.Replied d → ∃ err, outcome = .error err
  bounded : ∃ bound, ∀ actions final, (∀ action ∈ actions, action.own = true) →
    run (step config) later actions = some final → actions.length ≤ bound
  /-- Once nobody can take a step any more, every `send_command` that was made has returned. -/
  returns : ∀ final, Reach (step config) (fun now action => action.own = true ∧ allowed now action) later final →
    final.Still config → ∀ d, final.sends d = .idle ∨
      ∃ outcome, final.sends d = .returned outcome ∧ (¬ s.Replied d → ∃ err, outcome = .error err)

section Runs

variable {config : Config n} {s later : State n} {u : CloseId}

theorem Shut.of_reach (reach : Reached config StaysShut s) : Shut u s :=
  reach.invariant ⟨nofun, nofun, nofun⟩ fun _ _ _ previous shut meets run =>
    shut.step previous meets (.of_run run)

theorem returned_onward {allowed : State n → Action n → Prop} (returned : s.closes u = .returned)
    (onward : Reach (step config) allowed s later) : later.closes u = .returned :=
  onward.invariant returned fun _ _ _ _ returned _ run => (Step.of_run run).returned_kept returned

theorem spent_of_returned (reach : Reached config StaysShut s) (returned : s.closes u = .returned) (index : Fin n) :
    Connection.Spent (s.clients index) :=
  (Shut.of_reach reach).past index (by rw [returned]; rfl)

theorem client_onward (returned : s.closes u = .returned) (onward : Reach (step config) StaysShut s later)
    (index : Fin n) :
    Reach (Connection.step (config.client index)) Connection.NoOpen (s.clients index) (later.clients index) :=
  client_reach index onward fun _ _ _ between meets atAction =>
    meets.noOpen (u := u) (by rw [returned_onward returned between]; rfl) atAction

/-- What is returned after the `close` was not answered later. -/
theorem failed_of_returned (reach : Reached config StaysShut s) (returned : s.closes u = .returned)
    (onward : Reach (step config) StaysShut s later) {d : SendId} {outcome : Outcome CommandResult}
    (atEnd : later.sends d = .returned outcome) (unreplied : ¬ s.Replied d) : ∃ err, outcome = .error err := by
  have before : ∀ {state : State n}, Reach (step config) StaysShut s state → state.Replied d → s.Replied d := by
    intro state between
    induction between with
    | start => exact id
    | next between _ run ih =>
      intro replied
      have reached := reach.trans between
      have spent := spent_of_returned reached (returned_onward returned between)
      exact ih (replied_before spent reached (.of_run run) replied)
  cases outcome with
  | error err => exact ⟨err, rfl⟩
  | ok result => exact absurd (before onward (.inl (by rw [atEnd]; rfl))) unreplied

theorem silent_of_returned (reach : Reached config Settling s) (returned : s.closes u = .returned)
    (onward : Reach (step config) Settling s later) : Silent config Settling s later := by
  have shut : Reached config StaysShut s := staysShut_onward .start reach
  have nodes index : Connection.Silent (s.clients index) (later.clients index) :=
    (spent_of_returned shut returned index).silent_run (client_reached index reach)
      (client_onward returned (staysShut_onward reach onward) index)
  refine ⟨fun index => (nodes index).unopened, fun index => (nodes index).unwritten, fun d outcome atEnd unreplied => ?_,
    own_bounded (reach.always.trans onward.always), fun final further still d => ?_⟩
  · exact failed_of_returned shut returned (staysShut_onward reach onward) atEnd unreplied
  · have whole : Reach (step config) Settling s final := onward.trans (further.mono fun _ _ meets => meets.2)
    have reached : Reached config Settling final := reach.trans whole
    have closed := returned_onward returned whole
    have winding : Winding final := .of_reach reached ⟨u, by rw [closed]; nofun⟩
    exact (winding.returned ((still.quiescent reached).sends d) (apart_of_settling reached)).imp_right
      fun ⟨outcome, atEnd⟩ => ⟨outcome, atEnd, failed_of_returned shut returned (staysShut_onward reach whole) atEnd⟩

end Runs

/-- A `close` is final: of a client in runs without the deadlock, and of a replset
client whose loops are all coming to their ends when it starts. -/
theorem close_final (config : Config n) :
    (∀ (client : Connection.Config) (k : Connection.CloseId) (before s later : Connection.State),
      Connection.Reached client Connection.Uncrossed before → before.AtRest → before.closes k = .idle →
      Reach (Connection.step client) Connection.Unopened before s → s.closes k = .returned →
      Reach (Connection.step client) Connection.Unopened s later →
      Connection.Finished client Connection.Unopened s later) ∧
    ∀ (u : CloseId) (s later : State n), Reached config Settling s → s.closes u = .returned →
      Reach (step config) Settling s later → Silent config Settling s later := by
  constructor
  · intro client k before s later reach atRest idle closing returned onward
    have shutting : Connection.Shutting k s :=
      closing.invariant ⟨atRest, by rw [idle]; nofun, by rw [idle]; nofun⟩ fun _ _ _ between shutting meets run =>
        shutting.step (reach.always.trans between.always) meets.noOpen (.of_run run)
    exact Connection.finished_of_spent (shutting.closed returned)
      (reach.trans (closing.mono fun _ _ => Connection.Unopened.uncrossed)) onward
  · intro u s later reach returned onward
    exact silent_of_returned reach returned onward

def ClosePc.isReturned : ClosePc n → Bool
  | .returned => true
  | _ => false

theorem ClosePc.eq_returned {pc : ClosePc n} (returned : pc.isReturned = true) : pc = .returned := by
  cases pc <;> first | rfl | cases returned

def SendPc.isClosed : SendPc n → Bool
  | .returned (.error .clientClosed) => true
  | _ => false

theorem SendPc.eq_closed {pc : SendPc n} (closed : pc.isClosed = true) : pc = .returned (.error .clientClosed) := by
  unfold SendPc.isClosed at closed
  split at closed
  · rfl
  · cases closed

/-- Steps that no clause of `Settling` speaks of. -/
def Action.unnoticed : Action n → Bool
  | .send _ (.start _) => false
  | .opening _ .start => false
  | .closing _ .start => false
  | .client _ (.call _ .findWriter) => false
  | .client _ (.reader _ .lockPending) => false
  | _ => true

theorem settling_of_unnoticed {s : State n} {action : Action n} (unnoticed : action.unnoticed = true) : Settling s action := by
  constructor
  · rintro u rfl
    cases unnoticed
  · rintro d command rfl
    cases unnoticed
  · rintro v rfl
    cases unnoticed
  · intro index inner atAction
    cases ClientMove.of_clientAction atAction with
    | inside =>
      unfold Connection.Uncrossed
      split
      · cases unnoticed
      · cases unnoticed
      · trivial
    | _ => trivial

/-- A command that its node has yet to answer, and a `close` that has just begun. -/
def waitingClosed : List (Action 1) :=
  beginActions 0 ⟨Block.ofNatLE 16 7⟩ ++ openNode 0 onlyNode 0 0 ++ writeNode 0 onlyNode 0 ++ [.closing 0 .start]

/-- The rest of the `close`. -/
def closesSole : List (Action 1) :=
  closeSteps onlyNode 0
      [.storeClosed, .lockWriter, .takeWriter, .shutdown, .lockPending, .drain ⟨Block.ofNatLE 16 7⟩, .finish] ++
    [.closing 0 .closed, .closing 0 .endLoop, .closing 0 .clearActive]

/-- The call of the closed client fails, and the loop with it. -/
def returnsClosed : List (Action 1) :=
  [.client onlyNode (.call 0 .receive), .send 0 .answered, .send 0 .remove]

set_option maxRecDepth 2000 in
theorem waitingClosed_allowed : RunAllowed (step sole) Settling (State.new 1) waitingClosed := by
  refine And.intro ⟨nofun, fun _ _ _ ⟨_, begun⟩ => absurd rfl begun, nofun, nofun⟩ ?_
  repeat refine And.intro (settling_of_unnoticed rfl) ?_
  refine And.intro ⟨nofun, nofun, nofun, fun _ _ atAction => ?_⟩ ?_
  · cases atAction
    exact nofun
  repeat refine And.intro (settling_of_unnoticed rfl) ?_
  exact And.intro ⟨fun _ _ => ⟨fun d => .inl (by cases d <;> rfl), fun _ => rfl⟩, nofun, nofun, nofun⟩ trivial

/-- The `close` of a client that was never opened, with a ping on its way. -/
def shutRegistered : List Connection.Action :=
  [.start, .storeClosed, .lockWriter, .takeWriter, .lockPending, .drain ⟨Block.ofNatLE 16 7⟩, .finish].map (.closing 0)

set_option maxRecDepth 2000 in
theorem close_final_waitingClosed :
    (∃ s : Connection.State, (s.calls 0).finished = false ∧
      Connection.Finished ⟨.aio, ""⟩ Connection.Unopened s s) ∧
    ∃ s later : State 1, Silent sole Settling s later ∧ later.sends 0 = .returned (.error .clientClosed) := by
  constructor
  · obtain ⟨before, s, first, second, atRest, idle, returned, running⟩ : ∃ before s,
        run (Connection.step ⟨.aio, ""⟩) Connection.State.new (Connection.registerActions 0 ⟨Block.ofNatLE 16 7⟩) =
          some before ∧ run (Connection.step ⟨.aio, ""⟩) before shutRegistered = some s ∧ before.AtRest ∧
        before.closes 0 = .idle ∧ s.closes 0 = .returned ∧ (s.calls 0).finished = false :=
      ⟨_, _, rfl, rfl, fun _ => rfl, rfl, rfl, rfl⟩
    have reach : Connection.Reached ⟨.aio, ""⟩ Connection.Uncrossed before :=
      .of_run (.of_forall (by simp [Connection.registerActions, Connection.Uncrossed]) _) first
    have closing : Reach (Connection.step ⟨.aio, ""⟩) Connection.Unopened before s := by
      refine .of_run (.of_forall (fun action member _ => ?_) _) second
      obtain ⟨inner, _, rfl⟩ := List.mem_map.mp member
      exact ⟨trivial, trivial⟩
    exact ⟨s, running, (close_final sole).1 ⟨.aio, ""⟩ 0 before s s reach atRest idle closing returned .start⟩
  · have executed : (run (step sole) (State.new 1) waitingClosed).any (fun before =>
        (run (step sole) before (.closing 0 (.startClose 0) :: closesSole)).any fun s =>
          (s.closes 0).isReturned && (run (step sole) s returnsClosed).any fun later =>
            (later.sends 0).isClosed) = true := by decide
    obtain ⟨before, first, found⟩ := (Option.any_eq_true ..).mp executed
    obtain ⟨s, second, found⟩ := (Option.any_eq_true ..).mp found
    obtain ⟨returned, found⟩ := (Bool.and_eq_true ..).mp found
    obtain ⟨later, third, closed⟩ := (Option.any_eq_true ..).mp found
    have unnoticed : ∀ actions : List (Action 1), actions.all Action.unnoticed = true →
        ∀ state, RunAllowed (step sole) Settling state actions := fun actions all =>
      .of_forall fun action member _ => settling_of_unnoticed (List.all_eq_true.mp all action member)
    have reached : Reached sole Settling s :=
      (Reach.of_run waitingClosed_allowed first).trans (.of_run (unnoticed _ (by decide) before) second)
    exact ⟨s, later, (close_final sole).2 0 s later reached (ClosePc.eq_returned returned)
      (.of_run (unnoticed _ (by decide) s) third), SendPc.eq_closed closed⟩

/-- The user never opens the replset client. -/
def NoUserOpen (_ : State n) : Action n → Prop
  | .opening _ _ => False
  | _ => True

def Action.byUser : Action n → Bool
  | .opening _ _ => true
  | _ => false

/-- A loop that sleeps between two rounds while the replset client is closed. -/
def closedAsleep : List (Action 2) :=
  beginActions 0 ⟨Block.ofNatLE 16 7⟩ ++ missNode 0 firstNode 0 ++ missNode 0 secondNode 0 ++
    [.send 0 .endRound, .send 0 .retry, .send 0 .sleep, .closing 0 .start, .closing 0 (.startClose 0)] ++
    closeEmpty firstNode 0 ++ [.closing 0 .closed, .closing 0 (.startClose 0)] ++ closeEmpty secondNode 0 ++
    [.closing 0 .closed, .closing 0 .endLoop, .closing 0 .clearActive]

/-- The loop wakes up and opens the first node again. -/
def wokenOpens : List (Action 2) :=
  [.tick replsetRetryInterval, .send 0 .wake, .send 0 .woken, .send 0 .readActive] ++ openNode 0 firstNode 1 0 ++
    writeNode 0 firstNode 0

set_option maxRecDepth 2000 in
theorem wokenLoop_not_silent :
    ∃ (u : CloseId) (s later : State 2), Reached pair NoUserOpen s ∧ s.closes u = .returned ∧
      Reach (step pair) NoUserOpen s later ∧ ¬ Silent pair NoUserOpen s later := by
  have executed : (run (step pair) (State.new 2) closedAsleep).any (fun s =>
      (s.closes 0).isReturned && ((s.clients 0).sent 0).isEmpty &&
        (run (step pair) s wokenOpens).any fun later => !((later.clients 0).sent 0).isEmpty) = true := by decide
  have free : ∀ actions : List (Action 2), (actions.all fun action => !action.byUser) = true →
      ∀ s, RunAllowed (step pair) NoUserOpen s actions := by
    intro actions all s
    refine .of_forall (fun action member s => ?_) s
    have notUser := List.all_eq_true.mp all action member
    cases action with
    | opening => cases notUser
    | _ => trivial
  obtain ⟨s, first, found⟩ := (Option.any_eq_true ..).mp executed
  obtain ⟨closed, found⟩ := (Bool.and_eq_true ..).mp found
  obtain ⟨returned, unsent⟩ := (Bool.and_eq_true ..).mp closed
  obtain ⟨later, second, sent⟩ := (Option.any_eq_true ..).mp found
  refine ⟨0, s, later, .of_run (free _ (by decide) _) first, ClosePc.eq_returned returned,
    .of_run (free _ (by decide) _) second, ?_⟩
  intro silent
  rw [silent.unwritten 0, unsent] at sent
  cases sent

end Ruslock.Replset
