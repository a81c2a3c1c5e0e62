import Ruslock.ConnectionPending

namespace Ruslock.Connection
open Transition

def OpenPc.atRest : OpenPc → Bool
  | .idle => true
  | .returned _ => true
  | _ => false

def State.AtRest (s : State) : Prop := ∀ o, (s.opens o).atRest = true

/-- Nobody calls `open`. -/
def NoOpen (_ : State) : Action → Prop
  | .opening _ .start => False
  | _ => True

/-- A `close` that has looked at the writer. -/
def ClosePc.pastWriter : ClosePc → Bool
  | .shutdown _ => true
  | .lockPending => true
  | .inPending => true
  | .returned => true
  | _ => false

/-- A connection whose last `close` is over: nothing can be written any more,
and nothing that was written is waited for. -/
structure Spent (s : State) : Prop where
  atRest : s.AtRest
  writer : s.writer = none
  cleared : ∀ id c, s.pending.lookup id = some c → s.written c = none

/-- A `close` that runs where nobody opens. -/
structure Shutting (k : CloseId) (s : State) : Prop where
  atRest : s.AtRest
  taken : (s.closes k).pastWriter = true → s.writer = none
  closed : s.closes k = .returned → Spent s

/-- The response to a call has arrived: it has returned it, or will return it. -/
def State.Replied (s : State) (c : CallId) : Prop :=
  (∃ result, s.calls c = .returned (.ok result)) ∨
    (s.written c).isSome = true ∧ ∃ message ∈ s.channel c, ∃ result, message.result = .ok result

theorem OpenStep.moving {config : Config} {s after : State} {o : OpenId} {action : OpenAction}
    (taken : OpenStep config s o action after) :
    action = .start ∧ s.opens o = .idle ∨ (s.opens o).atRest = false := by
  cases taken with
  | start atPc => exact .inl ⟨rfl, atPc⟩
  | fails places => rcases places with ⟨_, atPc | ⟨_, atPc⟩ | atPc | atPc⟩ <;> exact .inr (by rw [atPc]; rfl)
  | lockWriter atPc | findWriter atPc | storeClosed atPc | connect atPc | connectFails atPc | identify atPc
  | writeInit atPc | refused atPc | accepted atPc | split atPc | lockPublish atPc | publish atPc | spawn atPc =>
    exact .inr (by rw [atPc]; rfl)

theorem CloseStep.pastWriter {config : Config} {s after : State} {k : CloseId} {action : CloseAction}
    (taken : CloseStep config s k action after) (past : (after.closes k).pastWriter = true) :
    (s.closes k).pastWriter = true ∨ after.writer = none := by
  cases taken with
  | noWriter _ absent => exact .inr absent
  | tookWriter => exact .inr rfl
  | shutdown atPc | lockPending atPc | finish atPc => exact .inl (by rw [atPc]; rfl)
  | drain => exact .inl past
  | start | storeClosed | lockWriter =>
    simp only [Function.update_self] at past
    cases past

theorem CloseStep.returned {config : Config} {s after : State} {k : CloseId} {action : CloseAction}
    (taken : CloseStep config s k action after) (returned : after.closes k = .returned) (id : Id16) :
    after.pending.lookup id = none := by
  cases taken with
  | finish _ empty => exact lookup_of_entries_nil empty id
  | drain atPc => cases atPc.symm.trans returned
  | start | storeClosed | lockWriter | noWriter | tookWriter | shutdown | lockPending =>
    simp only [Function.update_self] at returned
    cases returned

section Rules

variable {config : Config} {allowed : State → Action → Prop} {s after : State} {action : Action}

theorem State.AtRest.no_open {o : OpenId} {action : OpenAction} (atRest : s.AtRest)
    (meets : NoOpen s (.opening o action)) (taken : OpenStep config s o action after) : False := by
  rcases taken.moving with ⟨rfl, _⟩ | moving
  · exact meets
  · rw [atRest o] at moving
    cases moving

/-- Where nobody opens, no `open` runs. -/
theorem State.AtRest.step (atRest : s.AtRest) (meets : NoOpen s action) (taken : Step config s action after) :
    after.AtRest := by
  unfold State.AtRest
  cases taken with
  | call taken => rw [taken.frame.opens]; exact atRest
  | closing taken => rw [taken.frame.opens]; exact atRest
  | reader taken => rw [taken.frame.opens]; exact atRest
  | network taken => rw [taken.frame.opens]; exact atRest
  | opening taken => exact (atRest.no_open meets taken).elim

/-- Where nobody opens, a cleared writer stays cleared. -/
theorem State.AtRest.writer (atRest : s.AtRest) (meets : NoOpen s action) (taken : Step config s action after)
    (absent : s.writer = none) : after.writer = none := by
  have gone : ∀ stream, after.writer = some stream → s.writer = some stream := by
    intro stream atWriter
    cases taken with
    | call taken => rw [← taken.frame.writer]; exact atWriter
    | network taken => rw [← taken.frame.writer]; exact atWriter
    | closing taken => exact taken.writer_kept atWriter
    | reader taken => exact taken.writer_kept atWriter
    | opening taken => exact (atRest.no_open meets taken).elim
  cases atWriter : after.writer with
  | none => rfl
  | some stream => exact absurd (gone stream atWriter) (by rw [absent]; nofun)

theorem Spent.step (spent : Spent s) (reach : Reached config allowed s) (meets : NoOpen s action)
    (taken : Step config s action after) : Spent after := by
  refine ⟨spent.atRest.step meets taken, spent.atRest.writer meets taken spent.writer, ?_⟩
  intro id c entry
  cases taken with
  | network taken => rw [taken.frame.written]; exact spent.cleared id c (by rw [← taken.frame.pending]; exact entry)
  | closing taken => rw [taken.frame.written]; exact spent.cleared id c (taken.entry entry)
  | reader taken => rw [taken.frame.written]; exact spent.cleared id c (taken.entry entry)
  | opening taken => exact (spent.atRest.no_open meets taken).elim
  | call taken =>
    cases written : after.written c with
    | none => rfl
    | some stream =>
      rcases taken.entry_written reach entry written with ⟨before, already⟩ | atWriter
      · rw [spent.cleared id c before] at already
        cases already
      · rw [spent.writer] at atWriter
        cases atWriter

theorem Shutting.step {k : CloseId} (shutting : Shutting k s) (reach : Reached config allowed s)
    (meets : NoOpen s action) (taken : Step config s action after) : Shutting k after := by
  have atRest := shutting.atRest.step meets taken
  have kept : (s.closes k).pastWriter = true → after.writer = none :=
    fun past => shutting.atRest.writer meets taken (shutting.taken past)
  have spent : s.closes k = .returned → Spent after := fun returned => (shutting.closed returned).step reach meets taken
  have same : after.closes k = s.closes k → Shutting k after := fun same =>
    ⟨atRest, by rw [same]; exact kept, by rw [same]; exact spent⟩
  cases taken with
  | call taken => exact same (by rw [taken.frame.closes])
  | reader taken => exact same (by rw [taken.frame.closes])
  | network taken => exact same (by rw [taken.frame.closes])
  | opening taken => exact same (by rw [taken.frame.closes])
  | @closing moved _ _ taken =>
    by_cases here : k = moved
    · subst here
      have past : (after.closes k).pastWriter = true → after.writer = none :=
        fun past => (taken.pastWriter past).elim kept fun absent => absent
      refine ⟨atRest, past, fun returned => ⟨atRest, past (by rw [returned]; rfl), fun id c entry => ?_⟩⟩
      rw [taken.returned returned id] at entry
      cases entry
    · exact same (taken.frame.others k here)

/-- Whoever writes to a stream has it as the writer. -/
theorem Spent.not_writing {c : CallId} {stream : StreamId} (spent : Spent s) (reach : Reached config allowed s) :
    (s.calls c).stream ≠ some stream := by
  intro writing
  have atWriter := writer_of_writing reach writing
  rw [spent.writer] at atWriter
  cases atWriter

/-- Nothing is sent, and no socket is opened, on a spent connection. -/
theorem Spent.silent (spent : Spent s) (reach : Reached config allowed s) (meets : NoOpen s action)
    (taken : Step config s action after) : after.sent = s.sent ∧ after.connected = s.connected := by
  cases taken with
  | closing taken => exact ⟨taken.frame.sent, taken.frame.connected⟩
  | reader taken => exact ⟨taken.frame.sent, taken.frame.connected⟩
  | network taken => exact ⟨taken.frame.sent, taken.frame.connected⟩
  | opening taken => exact (spent.atRest.no_open meets taken).elim
  | @call c _ _ taken =>
    refine ⟨?_, taken.frame.connected⟩
    cases taken with
    | write atPc => exact absurd (by rw [atPc]; rfl) (spent.not_writing reach)
    | _ => rfl

theorem Spent.replied_call {c moved : CallId} {action : CallAction} (spent : Spent s) (reach : Reached config allowed s)
    (taken : CallStep config s moved action after) (replied : after.Replied c) : s.Replied c := by
  by_cases here : c = moved
  · subst here
    rcases replied with ⟨result, returned⟩ | ⟨isWritten, message, member, isOk⟩
    · obtain ⟨⟨encoded, waiting⟩, message, member, isOk⟩ := taken.returned_ok returned
      exact .inr ⟨(Written.of_reach reach).waiting c encoded waiting, message, member, result, isOk⟩
    · refine .inr ⟨?_, message, by rw [← taken.frame.channel]; exact member, isOk⟩
      obtain ⟨stream, atStream⟩ := Option.isSome_iff_exists.mp isWritten
      rcases taken.written atStream with already | writing
      · rw [already]
        rfl
      · exact absurd writing (spent.not_writing reach)
  · have others := taken.frame.others c here
    rcases replied with ⟨result, returned⟩ | ⟨isWritten, message, member, isOk⟩
    · exact .inl ⟨result, by rw [← others.1]; exact returned⟩
    · exact .inr ⟨by rw [← others.2.2]; exact isWritten, message, by rw [← taken.frame.channel]; exact member, isOk⟩

/-- No response arrives any more on a spent connection. -/
theorem Spent.replied {c : CallId} (spent : Spent s) (reach : Reached config allowed s)
    (taken : Step config s action after) (replied : after.Replied c) : s.Replied c := by
  have told : ∀ {id owner message}, Completion s after id owner message → after.written = s.written →
      (after.written c).isSome = true → after.channel c = s.channel c := by
    intro id owner message completion same isWritten
    rw [completion.channel, Function.update_of_ne]
    rintro rfl
    rw [same, spent.cleared id c completion.entry] at isWritten
    cases isWritten
  have quiet : after.calls = s.calls → after.written = s.written →
      ((after.written c).isSome = true → after.channel c = s.channel c) → s.Replied c := by
    intro calls same channel
    rcases replied with ⟨result, returned⟩ | ⟨isWritten, message, member, isOk⟩
    · exact .inl ⟨result, by rw [← calls]; exact returned⟩
    · exact .inr ⟨by rw [← same]; exact isWritten, message, by rw [← channel isWritten]; exact member, isOk⟩
  cases taken with
  | opening taken => exact quiet taken.frame.calls taken.frame.written fun _ => by rw [taken.frame.channel]
  | network taken => exact quiet taken.frame.calls taken.frame.written fun _ => by rw [taken.frame.channel]
  | closing taken =>
    refine quiet taken.frame.calls taken.frame.written fun isWritten => ?_
    rcases taken.completes with nothing | ⟨_, _, _, completion⟩
    · rw [nothing.channel]
    · exact told completion taken.frame.written isWritten
  | reader taken =>
    refine quiet taken.frame.calls taken.frame.written fun isWritten => ?_
    rcases taken.completes with nothing | ⟨_, _, _, _, completion, _⟩ | ⟨_, _, _, _, completion, _⟩
    · rw [nothing.channel]
    · exact told completion taken.frame.written isWritten
    · exact told completion taken.frame.written isWritten
  | call taken => exact spent.replied_call reach taken replied

end Rules

section Runs

variable {config : Config} {allowed : State → Action → Prop} {s later : State}

theorem Spent.onward (spent : Spent s) (reach : Reached config allowed s)
    (onward : Reach (Connection.step config) NoOpen s later) : Spent later :=
  onward.invariant spent fun _ _ _ between spent meets run =>
    spent.step (reach.always.trans between.always) meets (.of_run run)

/-- What a `close` that has returned leaves behind, for as long as nobody opens. -/
structure Silent (s later : State) : Prop where
  unopened : later.connected = s.connected
  unwritten : later.sent = s.sent
  failed : ∀ c outcome, later.calls c = .returned outcome → ¬ s.Replied c → ∃ err, outcome = .error err

theorem Spent.replied_run {c : CallId} (spent : Spent s) (reach : Reached config allowed s)
    (onward : Reach (Connection.step config) NoOpen s later) (replied : later.Replied c) : s.Replied c := by
  induction onward with
  | start => exact replied
  | next between _ run ih =>
    exact ih ((spent.onward reach between).replied (reach.always.trans between.always) (.of_run run) replied)

theorem Spent.silent_onward (spent : Spent s) (reach : Reached config allowed s)
    (onward : Reach (Connection.step config) NoOpen s later) :
    later.sent = s.sent ∧ later.connected = s.connected := by
  induction onward with
  | start => exact ⟨rfl, rfl⟩
  | next between meets run ih =>
    have silent := (spent.onward reach between).silent (reach.always.trans between.always) meets (.of_run run)
    exact ⟨silent.1.trans ih.1, silent.2.trans ih.2⟩

theorem Spent.silent_run (spent : Spent s) (reach : Reached config allowed s)
    (onward : Reach (Connection.step config) NoOpen s later) : Silent s later where
  unopened := (spent.silent_onward reach onward).2
  unwritten := (spent.silent_onward reach onward).1
  failed c outcome returned unreplied := by
    cases outcome with
    | error err => exact ⟨err, rfl⟩
    | ok result => exact absurd (spent.replied_run reach onward (.inl ⟨result, returned⟩)) unreplied

end Runs

/-- There is only one `open`. -/
def OnlyOpen (o : OpenId) (_ : State) : Action → Prop
  | .opening other _ => other = o
  | _ => True

theorem atRest_of_onlyOpen {config : Config} {s : State} {o : OpenId} (reach : Reached config (OnlyOpen o) s)
    (returned : (s.opens o).atRest = true) : s.AtRest := by
  have idle : ∀ other ≠ o, s.opens other = .idle := by
    intro other apart
    clear returned
    induction reach with
    | start => rfl
    | next _ meets run ih =>
      cases Step.of_run run with
      | call taken => rw [taken.frame.opens]; exact ih
      | closing taken => rw [taken.frame.opens]; exact ih
      | reader taken => rw [taken.frame.opens]; exact ih
      | network taken => rw [taken.frame.opens]; exact ih
      | opening taken =>
        cases meets
        rw [taken.frame.others other apart]
        exact ih
  intro other
  by_cases same : other = o
  · rw [same, returned]
  · rw [idle other same]
    rfl

end Ruslock.Connection
