import Ruslock.Quiescence

namespace Ruslock.Connection
open Transition Wire

/-- The connection is opened once: its only `open` starts before any `close`,
and a `close` does not start while it is running. -/
def OpenedOnce (s : State) : Action → Prop
  | .opening _ .start => (∀ o, s.opens o = .idle) ∧ ∀ k, s.closes k = .idle
  | .closing _ .start => s.AtRest
  | _ => True

/-- No `open` is running, and none will start. -/
structure Final (s : State) : Prop where
  atRest : s.AtRest
  begun : (∃ o, s.opens o ≠ .idle) ∨ ∃ k, s.closes k ≠ .idle

/-- How far the connection is on its way from its `open` to its end. -/
structure Stages (s : State) : Prop where
  sole : ∀ o o', s.opens o ≠ .idle → s.opens o' ≠ .idle → o = o'
  closing : ∀ k, s.closes k ≠ .idle → Final s
  reading : ∀ r, s.readers r ≠ .idle → Final s
  taken : ∀ k, (s.closes k).pastWriter = true → s.writer = none
  cleared : ∀ r, s.readers r = .unlockPending → s.writer = none
  closed : ∀ k, s.closes k = .returned → Spent s

theorem Stages.new : Stages State.new where
  sole _ _ begun := absurd rfl begun
  closing _ begun := absurd rfl begun
  reading _ begun := absurd rfl begun
  taken _ atPc := nomatch atPc
  cleared _ atPc := nomatch atPc
  closed _ atPc := nomatch atPc

/-- The first step of a `close` is the only one that finds it idle. -/
theorem CloseStep.moving {config : Config} {s after : State} {k : CloseId} {action : CloseAction}
    (taken : CloseStep config s k action after) : action = .start ∨ s.closes k ≠ .idle := by
  cases taken with
  | start => exact .inl rfl
  | storeClosed atPc | lockWriter atPc | noWriter atPc | tookWriter atPc | shutdown atPc | lockPending atPc | drain atPc
  | finish atPc => exact .inr (by rw [atPc]; nofun)

section Rules

variable {config : Config} {allowed : State → Action → Prop} {s after : State}

/-- The connection's only `open` is over. -/
theorem Final.noOpen {action : Action} (final : Final s) (meets : OpenedOnce s action) : NoOpen s action := by
  cases action with
  | opening o action =>
    cases action with
    | start =>
      rcases final.begun with ⟨o', begun⟩ | ⟨k, begun⟩
      · exact begun (meets.1 o')
      · exact begun (meets.2 k)
    | _ => trivial
  | _ => trivial

theorem Final.step {action : Action} (final : Final s) (meets : OpenedOnce s action)
    (taken : Step config s action after) : Final after := by
  refine ⟨final.atRest.step (final.noOpen meets) taken, ?_⟩
  cases taken with
  | call taken => rw [taken.frame.opens, taken.frame.closes]; exact final.begun
  | reader taken => rw [taken.frame.opens, taken.frame.closes]; exact final.begun
  | network taken => rw [taken.frame.opens, taken.frame.closes]; exact final.begun
  | opening taken => exact (final.atRest.no_open (final.noOpen meets) taken).elim
  | @closing k _ _ taken => exact .inr ⟨k, taken.busy⟩

theorem Stages.sole_opening {o moved : OpenId} {action : OpenAction} (stages : Stages s)
    (meets : OpenedOnce s (.opening moved action)) (taken : OpenStep config s moved action after)
    (begun : s.opens o ≠ .idle) : o = moved := by
  rcases taken.moving with ⟨rfl, _⟩ | moving
  · exact absurd (meets.1 o) begun
  · exact stages.sole o moved begun (by intro idle; rw [idle] at moving; cases moving)

theorem Stages.sole_step {action : Action} {o o' : OpenId} (stages : Stages s) (meets : OpenedOnce s action)
    (taken : Step config s action after) (first : after.opens o ≠ .idle) (second : after.opens o' ≠ .idle) : o = o' := by
  cases taken with
  | call taken => rw [taken.frame.opens] at first second; exact stages.sole o o' first second
  | closing taken => rw [taken.frame.opens] at first second; exact stages.sole o o' first second
  | reader taken => rw [taken.frame.opens] at first second; exact stages.sole o o' first second
  | network taken => rw [taken.frame.opens] at first second; exact stages.sole o o' first second
  | @opening moved _ _ taken =>
    have only : ∀ o, after.opens o ≠ .idle → o = moved := by
      intro o begun
      by_contra apart
      rw [taken.frame.others o apart] at begun
      exact apart (stages.sole_opening meets taken begun)
    rw [only o first, only o' second]

/-- A `close` runs, or starts, only where the `open` is over. -/
theorem Stages.closing_step {action : Action} {k : CloseId} (stages : Stages s) (meets : OpenedOnce s action)
    (taken : Step config s action after) (begun : after.closes k ≠ .idle) : s.AtRest ∧ NoOpen s action := by
  by_cases before : s.closes k = .idle
  · cases taken with
    | call taken => exact absurd before (taken.frame.closes ▸ begun)
    | opening taken => exact absurd before (taken.frame.closes ▸ begun)
    | reader taken => exact absurd before (taken.frame.closes ▸ begun)
    | network taken => exact absurd before (taken.frame.closes ▸ begun)
    | @closing moved _ _ taken =>
      by_cases same : k = moved
      · subst same
        rcases taken.moving with rfl | busy
        · exact ⟨meets, trivial⟩
        · exact absurd before busy
      · rw [taken.frame.others k same] at begun
        exact absurd before begun
  · have final := stages.closing k before
    exact ⟨final.atRest, final.noOpen meets⟩

theorem Stages.shutting_step {action : Action} {k : CloseId} (stages : Stages s) (reach : Reached config allowed s)
    (meets : OpenedOnce s action) (taken : Step config s action after) (begun : after.closes k ≠ .idle) :
    Shutting k after := by
  obtain ⟨atRest, noOpen⟩ := stages.closing_step meets taken begun
  have shutting : Shutting k s := ⟨atRest, stages.taken k, stages.closed k⟩
  exact shutting.step reach noOpen taken

/-- A reader runs only where the `open` is over. -/
theorem Stages.reading_step {action : Action} {r : StreamId} (stages : Stages s) (meets : OpenedOnce s action)
    (taken : Step config s action after) (begun : after.readers r ≠ .idle) : Final after := by
  by_cases before : s.readers r = .idle
  · cases taken with
    | call taken => exact absurd before (taken.frame.readers ▸ begun)
    | closing taken => exact absurd before (taken.frame.readers ▸ begun)
    | network taken => exact absurd before (taken.frame.readers ▸ begun)
    | reader taken => exact absurd ((taken.idle_iff r).mpr before) begun
    | @opening moved _ _ taken =>
      rcases taken.reader_kept r with same | ⟨_, atPc⟩
      · exact absurd before (same ▸ begun)
      · have returned := (taken.spawning atPc).2.1
        refine ⟨fun o => ?_, .inl ⟨moved, by rw [returned]; nofun⟩⟩
        by_cases same : o = moved
        · rw [same, returned]
          rfl
        · rw [taken.frame.others o same]
          by_cases idle : s.opens o = .idle
          · rw [idle]
            rfl
          · exact absurd (stages.sole_opening meets taken idle) same
  · exact (stages.reading r before).step meets taken

theorem Stages.cleared_step {action : Action} {r : StreamId} (stages : Stages s) (meets : OpenedOnce s action)
    (taken : Step config s action after) (unlocking : after.readers r = .unlockPending) : after.writer = none := by
  have kept : s.readers r = .unlockPending → after.writer = none := by
    intro before
    have final := stages.reading r (by rw [before]; nofun)
    exact final.atRest.writer (final.noOpen meets) taken (stages.cleared r before)
  cases taken with
  | call taken => exact kept (taken.frame.readers ▸ unlocking)
  | closing taken => exact kept (taken.frame.readers ▸ unlocking)
  | network taken => exact kept (taken.frame.readers ▸ unlocking)
  | @reader moved _ _ taken =>
    by_cases same : r = moved
    · subst same
      exact taken.unlocking unlocking
    · rw [(taken.frame.others r same).1] at unlocking
      exact kept unlocking
  | opening taken =>
    rcases taken.reader_kept r with same | ⟨new, _⟩
    · exact kept (same ▸ unlocking)
    · cases new.symm.trans unlocking

theorem Stages.step {action : Action} (stages : Stages s) (reach : Reached config allowed s)
    (meets : OpenedOnce s action) (taken : Step config s action after) : Stages after where
  sole _ _ first second := stages.sole_step meets taken first second
  closing k begun := by
    obtain ⟨atRest, noOpen⟩ := stages.closing_step meets taken begun
    exact ⟨atRest.step noOpen taken, .inr ⟨k, begun⟩⟩
  reading _ begun := stages.reading_step meets taken begun
  taken _ past :=
    (stages.shutting_step reach meets taken (by intro idle; rw [idle] at past; cases past)).taken past
  cleared _ unlocking := stages.cleared_step meets taken unlocking
  closed _ returned := (stages.shutting_step reach meets taken (by rw [returned]; nofun)).closed returned

end Rules

theorem Stages.of_reach {config : Config} {s : State} (reach : Reached config OpenedOnce s) : Stages s :=
  reach.invariant .new fun _ _ _ previous stages meets run => stages.step previous meets (.of_run run)

/-- Nobody else who is under way has a map entry under the request id of the call. -/
def State.Unclaimed (s : State) (c : CallId) : Prop :=
  ∀ encoded owner, (s.calls c).encoded = some encoded → s.pending.lookup encoded.requestId = some owner →
    owner = c ∨ (s.calls owner).finished = true

/-- No call puts its entry in the place of another one's, or takes out another one's. -/
def Unshared (s : State) : Action → Prop
  | .call c .insert => s.Unclaimed c
  | .call c .remove => s.Unclaimed c
  | .call c .drop => s.Unclaimed c
  | _ => True

theorem CallStep.entry_unshared {config : Config} {s after : State} {c owner : CallId} {action : CallAction} {id : Id16}
    (taken : CallStep config s c action after) (meets : Unshared s (.call c action))
    (entry : s.pending.lookup id = some owner) (apart : c ≠ owner) (running : (s.calls owner).finished = false) :
    after.pending.lookup id = some owner := by
  rcases taken.entry_kept entry with kept | ⟨encoded, atEncoded, same⟩
  · exact kept
  · have claimed : ¬ s.Unclaimed c := by
      intro unclaimed
      rcases unclaimed encoded owner atEncoded (same ▸ entry) with mine | finished
      · exact apart mine.symm
      · rw [running] at finished
        cases finished
    -- only three steps of a call touch the map
    cases taken with
    | insert | remove | drop => exact absurd meets claimed
    | _ => exact entry

theorem CallPc.running_of_encoded {pc : CallPc} {encoded : EncodedCommand} (atEncoded : pc.encoded = some encoded) :
    pc.finished = false := by
  cases pc <;> first | rfl | cases atEncoded

/-- A call that is on its way has its entry or its completion. -/
structure Tracked (s : State) : Prop where
  tracked : ∀ c encoded, (s.calls c).registered = true → (s.calls c).encoded = some encoded → s.Tracks c encoded

theorem Tracked.step {config : Config} {s after : State} {action : Action} (tracked : Tracked s)
    (meets : Unshared s action) (taken : Step config s action after) : Tracked after := by
  constructor
  intro c encoded registered atEncoded
  rcases taken.tracks (tracked.tracked c encoded) registered atEncoded with
    tracks | ⟨moved, callAction, _, rfl, apart, entry, still, _, _⟩
  · exact tracks
  · cases taken with
    | call taken => exact .inl (taken.entry_unshared meets entry apart (CallPc.running_of_encoded still))
    | network taken => cases taken

theorem Tracked.of_reach {config : Config} {s : State} (reach : Reached config Unshared s) : Tracked s :=
  reach.invariant ⟨fun _ _ registered => nomatch registered⟩ fun _ _ _ _ tracked meets run =>
    tracked.step meets (.of_run run)

/-- A call that has not yet looked at the writer. -/
def CallPc.unlooked : CallPc → Bool
  | .idle => true
  | .start _ => true
  | .lockPending _ .insert => true
  | .inPending _ .insert => true
  | .lockWriter _ => true
  | .inWriter _ => true
  | _ => false

/-- A call that has found no writer and has yet to return, or was dropped. -/
def CallPc.turning : CallPc → Bool
  | .lockPending _ (.remove .notConnected) => true
  | .inPending _ (.remove .notConnected) => true
  | .unlockWriter => true
  | .dropped => true
  | _ => false

/-- The errors of a call that never reaches a writer. -/
def State.Refusal (s : State) (c : CallId) (outcome : Outcome CommandResult) : Prop :=
  outcome = .error .notConnected ∨ outcome = .error .clientClosed ∨
    ∃ command err, s.command c = some command ∧ command.encode = .error err ∧ outcome = .error err

structure Refused (c : CallId) (s : State) : Prop where
  place : (s.calls c).unlooked = true ∨ (s.calls c).turning = true ∨
    ∃ outcome, s.calls c = .returned outcome ∧ s.Refusal c outcome

/-- A call that has looked is on its way back. -/
theorem Refused.turning {s : State} {c : CallId} {pc : CallPc} (refused : Refused c s) (atPc : s.calls c = pc)
    (looked : pc.unlooked = false) : pc.turning = true ∨ ∃ outcome, pc = .returned outcome := by
  subst atPc
  rcases refused.place with early | turning | ⟨outcome, returned, _⟩
  · rw [looked] at early
    cases early
  · exact .inl turning
  · exact .inr ⟨outcome, returned⟩

theorem State.Refusal.kept {config : Config} {s after : State} {c other : CallId} {action : CallAction}
    {outcome : Outcome CommandResult} (refusal : s.Refusal c outcome) (commands : Commands s)
    (taken : CallStep config s other action after) : after.Refusal c outcome := by
  rcases refusal with absent | closed | ⟨command, err, atCommand, fails, same⟩
  · exact .inl absent
  · exact .inr (.inl closed)
  · exact .inr (.inr ⟨command, err, commands.kept taken atCommand, fails, same⟩)

/-- Where there is no writer, a call that has not looked at it is refused. -/
theorem Refused.callStep {config : Config} {s after : State} {c : CallId} {action : CallAction} (refused : Refused c s)
    (commands : Commands s) (absent : s.writer = none) (taken : CallStep config s c action after) : Refused c after := by
  constructor
  cases taken with
  | @enter command atPc =>
    simp only [Function.update_self, enterPc]
    split
    · exact .inr (.inr ⟨_, rfl, .inr (.inl rfl)⟩)
    · split
      · rename_i err fails
        exact .inr (.inr ⟨_, rfl, .inr (.inr ⟨command, err, commands.started c command atPc, fails, rfl⟩)⟩)
      · exact .inl rfl
  | @lockPending encoded use atPc =>
    simp only [Function.update_self]
    cases use with
    | insert => exact .inl rfl
    | remove exit =>
      rcases refused.turning atPc rfl with turning | ⟨_, ⟨⟩⟩
      cases exit <;> first | exact .inr (.inl rfl) | cases turning
  | @remove encoded exit atPc =>
    simp only [Function.update_self]
    rcases refused.turning atPc rfl with turning | ⟨_, ⟨⟩⟩
    cases exit <;> first | exact .inr (.inl rfl) | cases turning
  | foundWriter _ atWriter =>
    rw [absent] at atWriter
    cases atWriter
  | unlockWriter =>
    simp only [Function.update_self]
    exact .inr (.inr ⟨_, rfl, .inl rfl⟩)
  | start | insert | lockWriter =>
    simp only [Function.update_self]
    exact .inl rfl
  | noWriter | drop =>
    simp only [Function.update_self]
    exact .inr (.inl rfl)
  | write atPc | writeFails atPc | writeDone atPc | receive atPc | timeout atPc | disconnected atPc =>
    rcases refused.turning atPc rfl with turning | ⟨_, ⟨⟩⟩
    cases turning

theorem Refused.step {config : Config} {s after : State} {c : CallId} {action : Action} (refused : Refused c s)
    (commands : Commands s) (absent : s.writer = none) (taken : Step config s action after) : Refused c after := by
  have same : after.calls = s.calls → after.command = s.command → Refused c after := by
    intro calls command
    constructor
    unfold State.Refusal
    rw [calls, command]
    exact refused.place
  cases taken with
  | opening taken => exact same taken.frame.calls taken.frame.command
  | closing taken => exact same taken.frame.calls taken.frame.command
  | reader taken => exact same taken.frame.calls taken.frame.command
  | network taken => exact same taken.frame.calls taken.frame.command
  | @call moved _ _ taken =>
    by_cases here : c = moved
    · subst here
      exact refused.callStep commands absent taken
    · constructor
      rw [(taken.frame.others c here).1]
      exact refused.place.imp_right (Or.imp_right fun ⟨outcome, returned, refusal⟩ =>
        ⟨outcome, returned, refusal.kept commands taken⟩)

/-- A `close` has returned, or the header failure handler of a reader has just finished. -/
def Ended (config : Config) (s : State) : Prop :=
  (∃ k, s.closes k = .returned) ∨
    ∃ before r, Reached config OpenedOnce before ∧ step config before (.reader r .unlockPending) = some s

/-- What holds from the end of a connection on: `s` is the state in which it
ended, `later` any state after it, and all steps are allowed ones. -/
structure Teardown (config : Config) (allowed : State → Action → Prop) (s later : State) : Prop where
  cleared : ∀ id c, later.pending.lookup id = some c → later.written c = none
  /-- Whoever has written its frame has returned or has its completion. -/
  completed : ∀ c, (later.written c).isSome = true →
    (∃ outcome, later.calls c = .returned outcome) ∨ later.calls c = .dropped ∨ later.channel c ≠ []
  /-- Nobody waits for a timeout: a waiting call has a message or has lost its sender. -/
  awake : ∀ c encoded, later.calls c = .waiting encoded →
    later.channel c ≠ [] ∨ ∀ entry ∈ later.pending.entries, entry.2 ≠ c
  absent : later.writer = none
  /-- Whoever had not looked at the writer returns a refusal and nothing else. -/
  refused : ∀ c outcome, (s.calls c).unlooked = true → later.calls c = .returned outcome → later.Refusal c outcome
  bounded : ∃ bound, ∀ actions final, (∀ action ∈ actions, action.own = true) →
    run (step config) later actions = some final → actions.length ≤ bound
  /-- Once nobody can take a step any more, every call that was made has returned or was dropped. -/
  returns : ∀ final, Reach (step config) (fun now action => action.own = true ∧ allowed now action) later final →
    final.Still config → ∀ c, final.calls c = .idle ∨ final.calls c = .dropped ∨
      ∃ outcome, final.calls c = .returned outcome ∧ ((s.calls c).unlooked = true → final.Refusal c outcome)

/-- The connection is opened once, no call touches the map entry of another
one, and no call is refused across a reader that fails requests. -/
structure Orderly (s : State) (action : Action) : Prop where
  openedOnce : OpenedOnce s action
  unshared : Unshared s action
  uncrossed : Uncrossed s action

/-- From its end on, nobody opens the connection. -/
theorem Ended.final {config : Config} {s : State} (reach : Reached config OpenedOnce s) (ended : Ended config s) :
    Final s := by
  rcases ended with ⟨k, returned⟩ | ⟨before, r, previous, run⟩
  · exact (Stages.of_reach reach).closing k (by rw [returned]; nofun)
  · have taken := Step.of_run run
    have reading : before.readers r ≠ .idle := by
      cases taken with
      | network taken => cases taken
      | reader taken =>
        cases taken with
        | unlockPending atPc => rw [atPc]; nofun
    have meets : OpenedOnce before (.reader r .unlockPending) := trivial
    exact ((Stages.of_reach previous).reading r reading).step meets taken

theorem Spent.of_ended {config : Config} {s : State} (reach : Reached config OpenedOnce s) (ended : Ended config s) :
    Spent s := by
  rcases ended with ⟨k, returned⟩ | ⟨before, r, previous, run⟩
  · exact (Stages.of_reach reach).closed k returned
  · have stages := Stages.of_reach previous
    have atPc : before.readers r = .unlockPending := by
      cases Step.of_run run with
      | network taken => cases taken
      | reader taken => cases taken with | unlockPending atPc => exact atPc
    have spent : Spent before :=
      ⟨(stages.reading r (by rw [atPc]; nofun)).atRest, stages.cleared r atPc, fun id c entry => by
        rw [empty_of_emptied previous (by rw [atPc]; rfl) id] at entry
        cases entry⟩
    have meets : NoOpen before (.reader r .unlockPending) := trivial
    exact spent.step previous meets (.of_run run)

/-- What follows the end of a connection that is opened once. -/
theorem Final.onward {config : Config} {s later : State} (final : Final s)
    (onward : Reach (Connection.step config) OpenedOnce s later) :
    Final later ∧ Reach (Connection.step config) NoOpen s later := by
  induction onward with
  | start => exact ⟨final, .start⟩
  | next _ meets run ih => exact ⟨ih.1.step meets (.of_run run), .next ih.2 (ih.1.noOpen meets) run⟩

/-- Whoever had not looked at the writer when the connection ended is refused. -/
theorem Refused.of_ended {config : Config} {s later : State} {c : CallId} (reach : Reached config OpenedOnce s)
    (ended : Ended config s) (onward : Reach (Connection.step config) OpenedOnce s later) (unlooked : (s.calls c).unlooked = true) :
    Refused c later := by
  have ending := Spent.of_ended reach ended
  have final := ended.final reach
  exact onward.invariant ⟨.inl unlooked⟩ fun _ _ _ between refused _ run =>
    refused.step (.of_reach (reach.trans between)) (ending.onward reach (final.onward between).2).writer (.of_run run)

theorem Refused.refusal {s : State} {c : CallId} {outcome : Outcome CommandResult} (refused : Refused c s)
    (returned : s.calls c = .returned outcome) : s.Refusal c outcome := by
  rcases refused.place with early | turning | ⟨outcome', returned', refusal⟩
  · rw [returned] at early
    cases early
  · rw [returned] at turning
    cases turning
  · cases returned.symm.trans returned'
    exact refusal

/-- A call that has written its frame is behind the write. -/
theorem Tracked.told {s : State} {c : CallId} (tracked : Tracked s) (written : Written s) (spent : Spent s)
    (isWritten : (s.written c).isSome = true) :
    (∃ outcome, s.calls c = .returned outcome) ∨ s.calls c = .dropped ∨ s.channel c ≠ [] := by
  have place := written.sent c isWritten
  have onItsWay : ∀ encoded, (s.calls c).registered = true → (s.calls c).encoded = some encoded → s.channel c ≠ [] := by
    intro encoded registered atEncoded
    rcases tracked.tracked c encoded registered atEncoded with entry | told
    · rw [spent.cleared _ c entry] at isWritten
      cases isWritten
    · exact told
  cases atPc : s.calls c with
  | returned outcome => exact .inl ⟨outcome, rfl⟩
  | dropped => exact .inr (.inl rfl)
  | waiting encoded => exact .inr (.inr (onItsWay encoded (by rw [atPc]; rfl) (by rw [atPc]; rfl)))
  | lockPending encoded use | inPending encoded use =>
    rw [atPc] at place
    cases use with
    | insert => cases place
    | remove exit => exact .inr (.inr (onItsWay encoded (by rw [atPc]; rfl) (by rw [atPc]; rfl)))
  | idle | start | lockWriter | inWriter | writing | unlockWriter =>
    rw [atPc] at place
    cases place

/-- In orderly runs the end of a connection leaves nobody behind. -/
theorem teardown_of_orderly {config : Config} {s later : State} (reach : Reached config Orderly s)
    (ended : Ended config s) (onward : Reach (step config) Orderly s later) : Teardown config Orderly s later := by
  have once : Reached config OpenedOnce s := reach.mono fun _ _ => Orderly.openedOnce
  have after : Reach (step config) OpenedOnce s later := onward.mono fun _ _ => Orderly.openedOnce
  have spent := (Spent.of_ended once ended).onward once ((ended.final once).onward after).2
  have reached : Reached config Orderly later := reach.trans onward
  have written := Written.of_reach reached
  have tracked : Tracked later := .of_reach (reached.mono fun _ _ => Orderly.unshared)
  constructor
  · exact spent.cleared
  · exact fun c isWritten => tracked.told written spent isWritten
  · intro c encoded waiting
    right
    rintro ⟨id, owner⟩ member rfl
    have isWritten := written.waiting owner encoded waiting
    rw [spent.cleared id owner (AList.mem_lookup_iff.mpr member)] at isWritten
    cases isWritten
  · exact spent.writer
  · exact fun c outcome unlooked returned => (Refused.of_ended once ended after unlooked).refusal returned
  · exact own_bounded reached.always
  · intro final further still c
    have orderly : Reach (step config) Orderly later final := further.mono fun _ _ meets => meets.2
    have whole : Reached config Orderly final := reached.trans orderly
    have apart : Apart final := .of_reach (whole.mono fun _ _ => Orderly.uncrossed)
    have quiescent := (still.quiescent (.of_reach whole)).resolve_right apart.no_deadlock
    have refused : (s.calls c).unlooked = true → Refused c final :=
      Refused.of_ended once ended (after.trans (orderly.mono fun _ _ => Orderly.openedOnce))
    exact (quiescent.call c).imp_right (Or.imp_right fun ⟨outcome, returned⟩ =>
      ⟨outcome, returned, fun unlooked => (refused unlooked).refusal returned⟩)

def Action.begins : Action → Bool
  | .opening _ .start => true
  | .closing _ .start => true
  | _ => false

theorem openedOnce_of_not_begins {action : Action} (s : State) (continues : action.begins = false) :
    OpenedOnce s action := by
  cases action with
  | opening o action | closing k action =>
    cases action with
    | start => cases continues
    | _ => trivial
  | _ => trivial

theorem openedOnce_of_own {action : Action} (s : State) (own : action.own = true) : OpenedOnce s action := by
  refine openedOnce_of_not_begins s ?_
  cases action with
  | opening o action | closing k action => cases action <;> first | rfl | cases own
  | _ => rfl

/-- A written ping, another one that is registered, and a reader that fails
both, up to its last step. -/
def failedPing : List Action :=
  openActions 0 0 ++ registerActions 0 ⟨Block.ofNatLE 16 7⟩ ++ writeActions 0 ++
    registerActions 1 ⟨Block.ofNatLE 16 8⟩ ++
    [.socketEnds 0 ⟨.connectionReset, "connection reset by peer"⟩, .reader 0 .headerFails, .reader 0 .checkClosed,
      .reader 0 .lockPending, .reader 0 (.drain ⟨Block.ofNatLE 16 7⟩), .reader 0 (.drain ⟨Block.ofNatLE 16 8⟩),
      .reader 0 .drained, .reader 0 .lockWriter, .reader 0 .takeWriter]

theorem teardown_failedPing : ∃ s : State, (s.written 0).isSome = true ∧ (s.calls 1).unlooked = true ∧
    Teardown ⟨.aio, ""⟩ Orderly s s := by
  have once : RunAllowed (step ⟨.aio, ""⟩) OpenedOnce State.new failedPing := by
    refine .cons ⟨fun _ => rfl, fun _ => rfl⟩ (.of_forall fun action member s => openedOnce_of_not_begins s ?_)
    revert action
    decide
  have unshared : RunAllowed (step ⟨.aio, ""⟩) Unshared State.new failedPing :=
    ⟨trivial, trivial, trivial, trivial, trivial, trivial, trivial, trivial, trivial, trivial, trivial, trivial, trivial,
      trivial, trivial, trivial, fun _ _ _ entry => (nomatch entry), trivial, trivial, trivial, trivial,
      trivial, trivial, trivial, fun _ _ same entry => (by cases same; cases entry), trivial, trivial, trivial, trivial, trivial, trivial, trivial, trivial, trivial,
      trivial⟩
  have uncrossed : RunAllowed (step ⟨.aio, ""⟩) Uncrossed State.new failedPing :=
    ⟨trivial, trivial, trivial, trivial, trivial, trivial, trivial, trivial, trivial, trivial, trivial, trivial, trivial,
      trivial, trivial, trivial, trivial, trivial, nofun, trivial, trivial,
      trivial, trivial, trivial, trivial, trivial, trivial, trivial,
      fun _ c => by rcases c with _ | _ | c <;> rfl, trivial, trivial, trivial, trivial, trivial, trivial⟩
  have meets : RunAllowed (step ⟨.aio, ""⟩) Orderly State.new failedPing :=
    .combine (fun _ _ openedOnce rest => ⟨openedOnce, rest.1, rest.2⟩) once (.combine (fun _ _ => And.intro) unshared uncrossed)
  have executed : (run (step ⟨.aio, ""⟩) State.new failedPing).any (fun before =>
      (step ⟨.aio, ""⟩ before (.reader 0 .unlockPending)).any fun s =>
        (s.written 0).isSome ∧ (s.calls 1).unlooked = true) = true := by decide
  obtain ⟨before, reach, found⟩ := Reach.exists_of_run meets executed
  obtain ⟨s, last, found⟩ := (Option.any_eq_true ..).mp found
  obtain ⟨written, unlooked⟩ := of_decide_eq_true found
  have lastMeets : Orderly before (.reader 0 .unlockPending) := ⟨trivial, trivial, trivial⟩
  have reached : Reached ⟨.aio, ""⟩ Orderly s := reach.next lastMeets last
  exact ⟨s, written, unlooked,
    teardown_of_orderly reached (.inr ⟨before, 0, reach.mono fun _ _ => Orderly.openedOnce, last⟩) .start⟩

/-- A ping is registered, its reader finds the connection not closed when its
header read fails, and a `close` runs from beginning to end. -/
def closedBehindReader : List Action :=
  openActions 0 0 ++ registerActions 0 ⟨Block.ofNatLE 16 7⟩ ++
    [.socketEnds 0 ⟨.connectionReset, "connection reset by peer"⟩, .reader 0 .headerFails, .reader 0 .checkClosed,
      .closing 0 .start, .closing 0 .storeClosed, .closing 0 .lockWriter, .closing 0 .takeWriter, .closing 0 .shutdown,
      .closing 0 .lockPending, .closing 0 (.drain ⟨Block.ofNatLE 16 7⟩), .closing 0 .finish]

/-- The ping finds no writer while the reader holds the pending mutex. -/
def refusedBehindReader : List Action :=
  [.call 0 .lockWriter, .reader 0 .lockPending, .reader 0 .drained, .call 0 .findWriter]

theorem ClosePc.returned_of_pastWriter {pc : ClosePc} (past : pc.pastWriter = true) (atRest : pc.atRest = true) :
    pc = .returned := by
  cases pc with
  | returned => rfl
  | idle => cases past
  | _ => cases atRest

/-- After the `close` has returned, the ping never does. -/
theorem closedBehindReader_not_teardown :
    ¬ ∀ config s later, Reached config OpenedOnce s → Ended config s → Reach (step config) OpenedOnce s later →
      Teardown config OpenedOnce s later := by
  intro claim
  have executed : (run (step ⟨.blocking, ""⟩) State.new closedBehindReader).any (fun s =>
      (s.closes 0).pastWriter && (s.closes 0).atRest &&
        (run (step ⟨.blocking, ""⟩) s refusedBehindReader).any fun crossed =>
          (crossed.calls 0).refusing && (crossed.readers 0).failing) = true := by decide
  have once : RunAllowed (step ⟨.blocking, ""⟩) OpenedOnce State.new closedBehindReader :=
    ⟨⟨fun _ => rfl, fun _ => rfl⟩, trivial, trivial, trivial, trivial, trivial, trivial, trivial, trivial, trivial, trivial,
      trivial, trivial, trivial, trivial, trivial, trivial, trivial, trivial, trivial,
      fun o => by cases o <;> rfl, trivial, trivial, trivial, trivial, trivial, trivial, trivial, trivial⟩
  obtain ⟨s, reach, found⟩ := Reach.exists_of_run once executed
  obtain ⟨closeOver, found⟩ := Bool.and_eq_true_iff.mp found
  obtain ⟨pastWriter, atRest⟩ := Bool.and_eq_true_iff.mp closeOver
  obtain ⟨crossed, final, found⟩ := (Option.any_eq_true ..).mp found
  obtain ⟨refused, failing⟩ := Bool.and_eq_true_iff.mp found
  have ended : Ended ⟨.blocking, ""⟩ s := .inl ⟨0, ClosePc.returned_of_pastWriter pastWriter atRest⟩
  have ownActions : ∀ action ∈ refusedBehindReader, action.own = true := by decide
  have own : Reach (step ⟨.blocking, ""⟩) Own s crossed := .of_run (.of_forall (fun action member _ => ownActions action member) s) final
  -- left to themselves, all come to a state in which nobody moves
  obtain ⟨last, further, still⟩ := exists_still (reach.always.trans own.always)
  have stays : Crossed 0 0 last := crossed_forever rfl (reach.always.trans own.always) ⟨refused, failing⟩ further.always
  have onward : Reach (step ⟨.blocking, ""⟩) (fun now action => action.own = true ∧ OpenedOnce now action) s last :=
    (own.trans further).mono fun now _ own => ⟨own, openedOnce_of_own now own⟩
  have stuck := stays.refused
  rcases (claim _ s s reach ended .start).returns last onward still 0 with idle | dropped | ⟨outcome, returned, _⟩
  · rw [idle] at stuck
    cases stuck
  · rw [dropped] at stuck
    cases stuck
  · rw [returned] at stuck
    cases stuck

end Ruslock.Connection
