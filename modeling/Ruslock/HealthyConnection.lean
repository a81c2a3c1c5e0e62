import Ruslock.ConnectionHealth
import Ruslock.ReplsetSteps

namespace Ruslock.Replset
open Transition Wire
open Connection (retryable)

variable {n : Nat}

/-- A call of a node that has returned a retryable error. -/
def State.Failed (s : State n) (index : Fin n) (c : Connection.CallId) : Prop :=
  ∃ outcome, (s.clients index).calls c = .returned outcome ∧ retryable outcome = true

/-- A loop whose call to the node has failed is about to close its client. -/
def State.Alarm (s : State n) (index : Fin n) : Prop :=
  ∃ d c, s.Failed index c ∧
    ((∃ round, s.sends d = .sending round index c) ∨ ∃ round err, s.sends d = .failed round index err)

/-- The steps at which no loop and no reader gets hold of somebody else's
connection: request ids are distinct, a stream is published on a node where
nobody has failed and nobody is closing, and a reader starts to handle a failure
only while no other stream is the writer. The user closes nothing. -/
structure Healthy (s : State n) (action : Action n) : Prop where
  fresh : ∀ d command, action = .send d (.start command) →
    ∀ d' command', s.commands d' = some command' → command'.requestId ≠ command.requestId
  publish : ∀ index o, clientAction s action = some (index, .opening o .publish) →
    Connection.Calm (s.clients index) ∧ ¬ s.Alarm index
  own : ∀ index r, clientAction s action = some (index, .reader r .checkClosed) ∧ (s.clients index).closed = false ∨
    clientAction s action = some (index, .reader r .extraFails) →
    (s.clients index).writer = none ∨ (s.clients index).writer = some r
  unclosed : ∀ u action', action ≠ .closing u action'

/-- A new command brings a request id that no earlier command has used. -/
def FreshCommands (s : State n) (action : Action n) : Prop :=
  ∀ d command, action = .send d (.start command) →
    ∀ d' command', s.commands d' = some command' → command'.requestId ≠ command.requestId

/-- The loops own the calls of the nodes, each with a command of its own. -/
structure Loops (s : State n) : Prop where
  command : ∀ d command, (s.sends d).command = some command → s.commands d = some command
  distinct : ∀ d d' command command', s.commands d = some command → s.commands d' = some command' →
    command.requestId = command'.requestId → d = d'
  owner : ∀ index c, (s.clients index).calls c ≠ .idle → ((s.clients index).calls c).finished = false →
    ∃ d round, s.sends d = .sending round index c
  made : ∀ d round index c, s.sends d = .sending round index c →
    (s.clients index).calls c ≠ .idle ∧ (s.clients index).command c = some round.pending.command

section Loops

variable {config : Config n} {allowed : State n → Action n → Prop} {s after : State n} {action : Action n}

theorem Loops.step (loops : Loops s) (reach : Reached config allowed s) (distinct : FreshCommands s action)
    (taken : Step config s action after) : Loops after := by
  constructor
  · exact fun d => taken.command_known (loops.command d)
  · rcases taken.commands with same | ⟨new, command, rfl, same⟩
    · rw [same]
      exact loops.distinct
    · -- the new request id is nobody else's
      have fresh := distinct new command rfl
      intro d d' command₁ command₂ at₁ at₂ sameId
      rw [same, Function.update_apply] at at₁ at₂
      split at at₁ <;> split at at₂
      · rw [‹d = new›, ‹d' = new›]
      · cases at₁
        exact absurd sameId.symm (fresh d' command₂ at₂)
      · cases at₂
        exact absurd sameId (fresh d command₁ at₁)
      · exact loops.distinct d d' command₁ command₂ at₁ at₂ sameId
  · intro index c busy unfinished
    by_cases idle : (s.clients index).calls c = .idle
    · exact taken.begins idle busy
    · have before : ((s.clients index).calls c).finished = false := by
        rw [Bool.eq_false_iff]
        intro finished
        rcases taken.client_of index with same | ⟨_, _, step⟩
        · rw [same, finished] at unfinished
          cases unfinished
        · rw [(step.finished_kept finished).1, finished] at unfinished
          cases unfinished
      obtain ⟨d, round, sending⟩ := loops.owner index c idle before
      refine ⟨d, round, ?_⟩
      rcases taken.loop d with ⟨_, rfl, step⟩ | ⟨sends, _⟩
      · obtain ⟨outcome, returned, _⟩ := step.returned sending
        rw [returned] at before
        cases before
      · rw [sends]
        exact sending
  · intro d round index c sending
    rcases taken.loop d with ⟨_, rfl, step⟩ | ⟨sends, _⟩
    · obtain ⟨_, _, busy, command, _⟩ := step.sending sending
      exact ⟨busy, command⟩
    · rw [sends] at sending
      obtain ⟨busy, command⟩ := loops.made d round index c sending
      rcases taken.client_of index with same | ⟨_, _, step⟩
      · rw [same]
        exact ⟨busy, command⟩
      · exact ⟨step.busy busy, (Connection.Commands.of_reach (client_reached index reach)).onward step command⟩

/-- No two calls of a node that are under way share a request id. -/
theorem Loops.apart (loops : Loops s) (reach : Reached config allowed s) {index : Fin n} {c c' : Connection.CallId}
    {encoded encoded' : EncodedCommand} (atEncoded : ((s.clients index).calls c).encoded = some encoded)
    (atEncoded' : ((s.clients index).calls c').encoded = some encoded') (same : encoded.requestId = encoded'.requestId) :
    c = c' := by
  have commands := Connection.Commands.of_reach (client_reached index reach)
  have owned : ∀ {c encoded}, ((s.clients index).calls c).encoded = some encoded → ∃ d round,
      s.sends d = .sending round index c ∧ s.commands d = some round.pending.command ∧
        round.pending.command.requestId = encoded.requestId := by
    intro c encoded atEncoded
    have busy : (s.clients index).calls c ≠ .idle ∧ ((s.clients index).calls c).finished = false := by
      cases atPc : (s.clients index).calls c with
      | idle | start | unlockWriter | returned | dropped =>
        rw [atPc] at atEncoded
        cases atEncoded
      | _ => exact ⟨nofun, rfl⟩
    obtain ⟨d, round, sending⟩ := loops.owner index c busy.1 busy.2
    obtain ⟨command, atCommand, encodes⟩ := commands.encoded c encoded atEncoded
    rw [(loops.made d round index c sending).2] at atCommand
    cases atCommand
    exact ⟨d, round, sending, loops.command d _ (by rw [sending]; rfl), (Command.encode_requestId encodes).symm⟩
  obtain ⟨d, round, sending, atCommand, sameId⟩ := owned atEncoded
  obtain ⟨d', round', sending', atCommand', sameId'⟩ := owned atEncoded'
  have loop : d = d' := loops.distinct d d' _ _ atCommand atCommand' (sameId.trans (same.trans sameId'.symm))
  rw [loop] at sending
  cases sending.symm.trans sending'
  rfl

end Loops

/-- A call that has failed, or that its node has refused. -/
def State.Spoiled (s : State n) (index : Fin n) (c : Connection.CallId) : Prop :=
  s.Failed index c ∨ ∃ result, (s.clients index).calls c = .returned (.ok result) ∧ lockStateError result = true

/-- The node on which a loop has failed, until its client is closed, and the error. -/
def SendPc.chased : SendPc n → Option (Fin n × SlockError)
  | .failed _ index err => some (index, err)
  | .closing _ index err _ => some (index, err)
  | _ => none

/-- How the attempts of a loop hang together with its place. -/
structure Attempts (s : State n) : Prop where
  last : ∀ d round index c, s.sends d = .sending round index c → (s.attempts d).getLast? = some (index, c)
  chased : ∀ d index err, (s.sends d).chased = some (index, err) → ∃ c, (s.attempts d).getLast? = some (index, c) ∧
    (s.clients index).calls c = .returned (.error err) ∧ retryableTransportError err = true
  spoiled : ∀ d a, a ∈ (s.attempts d).dropLast → s.Spoiled a.1 a.2
  free : ∀ d, (s.sends d).free = true → ∀ a ∈ s.attempts d, s.Spoiled a.1 a.2
  begun : ∀ d round index err k, s.sends d = .closing round index err k → (s.clients index).closes k ≠ .idle

section Attempts

variable {config : Config n} {s after : State n} {action : Action n}

theorem Step.call_kept (taken : Step config s action after) {index : Fin n} {c : Connection.CallId}
    (finished : ((s.clients index).calls c).finished = true) :
    (after.clients index).calls c = (s.clients index).calls c ∧
      (after.clients index).written c = (s.clients index).written c := by
  rcases taken.client_of index with same | ⟨_, _, step⟩
  · rw [same]
    exact ⟨rfl, rfl⟩
  · exact step.finished_kept finished

theorem State.Failed.kept {index : Fin n} {c : Connection.CallId} (failed : s.Failed index c)
    (taken : Step config s action after) : after.Failed index c := by
  obtain ⟨outcome, returned, retry⟩ := failed
  exact ⟨outcome, (taken.call_kept (by rw [returned]; rfl)).1.trans returned, retry⟩

theorem State.Spoiled.kept {index : Fin n} {c : Connection.CallId} (spoiled : s.Spoiled index c)
    (taken : Step config s action after) : after.Spoiled index c := by
  rcases spoiled with failed | ⟨result, returned, refused⟩
  · exact .inl (failed.kept taken)
  · exact .inr ⟨result, (taken.call_kept (by rw [returned]; rfl)).1.trans returned, refused⟩

theorem mem_of_getLast? {α : Type} {a last : α} {front : List α} (atLast : front.getLast? = some last) (member : a ∈ front) :
    a ∈ front.dropLast ∨ a = last := by
  rw [← List.dropLast_append_getLast? last atLast, List.mem_append, List.mem_singleton] at member
  exact member

theorem Attempts.step (attempts : Attempts s) (taken : Step config s action after) : Attempts after := by
  constructor
  · intro d round index c sending
    rcases taken.loop d with ⟨_, rfl, step⟩ | ⟨sends, _, same⟩
    · obtain ⟨_, _, _, _, new⟩ := step.sending sending
      rw [new, Function.update_self, List.getLast?_append]
      rfl
    · rw [sends] at sending
      rw [same]
      exact attempts.last d round index c sending
  · intro d index err chased
    have kept : ∀ c, (s.clients index).calls c = .returned (.error err) →
        (after.clients index).calls c = .returned (.error err) := fun c returned =>
      (taken.call_kept (by rw [returned]; rfl)).1.trans returned
    rcases taken.loop d with ⟨_, rfl, step⟩ | ⟨sends, _, same⟩
    · cases atPc : after.sends d with
      | failed round node err' =>
        rw [atPc] at chased
        cases chased
        obtain ⟨c, sending, returned, retry, _, same⟩ := step.failed atPc
        rw [same]
        exact ⟨c, attempts.last d round index c sending, kept c returned, retry⟩
      | closing round node err' k =>
        rw [atPc] at chased
        cases chased
        obtain ⟨before, _, _, same⟩ := step.closing atPc
        obtain ⟨c, atLast, returned, retry⟩ := attempts.chased d index err (by rw [before]; rfl)
        rw [same]
        exact ⟨c, atLast, kept c returned, retry⟩
      | _ =>
        rw [atPc] at chased
        cases chased
    · rw [sends] at chased
      rw [same]
      obtain ⟨c, atLast, returned, retry⟩ := attempts.chased d index err chased
      exact ⟨c, atLast, kept c returned, retry⟩
  · intro d a member
    rcases taken.loop d with ⟨_, rfl, step⟩ | ⟨_, _, same⟩
    · rcases step.attempts with same | ⟨new, free, same⟩
      · rw [same] at member
        exact (attempts.spoiled d a member).kept taken
      · rw [same, Function.update_self, List.dropLast_concat] at member
        exact (attempts.free d free a member).kept taken
    · rw [same] at member
      exact (attempts.spoiled d a member).kept taken
  · intro d free a member
    rcases taken.loop d with ⟨_, rfl, step⟩ | ⟨sends, _, same⟩
    · obtain ⟨same, before | ⟨round, index, c, sending, outcome⟩⟩ := step.free free
      · rw [same] at member
        exact (attempts.free d before a member).kept taken
      · rw [same] at member
        rcases mem_of_getLast? (attempts.last d round index c sending) member with earlier | rfl
        · exact (attempts.spoiled d a earlier).kept taken
        · have spoiled : s.Spoiled index c := by
            rcases outcome with ⟨err, returned, retry⟩ | ⟨result, returned, refused⟩
            · exact .inl ⟨_, returned, retry⟩
            · exact .inr ⟨result, returned, refused⟩
          exact spoiled.kept taken
    · rw [sends] at free
      rw [same] at member
      exact (attempts.free d free a member).kept taken
  · intro d round index err k closing
    rcases taken.loop d with ⟨_, rfl, step⟩ | ⟨sends, _, _⟩
    · obtain ⟨_, _, started, _⟩ := step.closing closing
      rw [started]
      nofun
    · rw [sends] at closing
      have begun := attempts.begun d round index err k closing
      rcases taken.client_of index with same | ⟨_, _, step⟩
      · rw [same]
        exact begun
      · exact step.close_busy begun

end Attempts

/-- A loop has failed on a node, and its `close` has yet to look at the writer. -/
inductive State.Chasing (s : State n) (d : SendId) (index : Fin n) (c : Connection.CallId) : Prop
  | returned {round outcome} : s.sends d = .sending round index c → (s.clients index).calls c = .returned outcome →
      retryable outcome = true → s.Chasing d index c
  | failed {round err} : s.sends d = .failed round index err → (s.attempts d).getLast? = some (index, c) →
      s.Chasing d index c
  | closing {round err k} : s.sends d = .closing round index err k → ((s.clients index).closes k).coming = true →
      (s.attempts d).getLast? = some (index, c) → s.Chasing d index c

/-- What every loop that has failed is after: the newest stream of its node,
which has failed like its call. -/
structure Pursuit (s : State n) : Prop where
  sound : ∀ index, Connection.Sound (s.Alarm index) (s.clients index)
  newest : ∀ d index c stream, s.Chasing d index c → (s.clients index).written c = some stream →
    (s.clients index).latest = some stream
  torn : ∀ d round index err k c stream own, s.sends d = .closing round index err k →
    (s.clients index).closes k = .shutdown stream → (s.attempts d).getLast? = some (index, c) →
    (s.clients index).written c = some own → own = stream

section Pursuit

variable {config : Config n} {allowed : State n → Action n → Prop} {s after : State n} {action : Action n}

theorem Attempts.failed_of_last (attempts : Attempts s) {d : SendId} {index : Fin n} {c : Connection.CallId}
    {err : SlockError} (chased : (s.sends d).chased = some (index, err)) (atLast : (s.attempts d).getLast? = some (index, c)) :
    s.Failed index c := by
  obtain ⟨c', atLast', returned, retry⟩ := attempts.chased d index err chased
  cases atLast.symm.trans atLast'
  exact ⟨_, returned, retry⟩

theorem State.Chasing.hasFailed {d : SendId} {index : Fin n} {c : Connection.CallId} (chasing : s.Chasing d index c)
    (attempts : Attempts s) : s.Failed index c := by
  cases chasing with
  | returned _ returned retry => exact ⟨_, returned, retry⟩
  | failed atPc atLast => exact attempts.failed_of_last (by rw [atPc]; rfl) atLast
  | closing atPc _ atLast => exact attempts.failed_of_last (by rw [atPc]; rfl) atLast

theorem State.Chasing.pressed {d : SendId} {index : Fin n} {c : Connection.CallId} (chasing : s.Chasing d index c)
    (attempts : Attempts s) : s.Alarm index ∨ (s.clients index).Troubled := by
  have failed := chasing.hasFailed attempts
  cases chasing with
  | returned sending => exact .inl ⟨d, c, failed, .inl ⟨_, sending⟩⟩
  | failed atPc => exact .inl ⟨d, c, failed, .inr ⟨_, _, atPc⟩⟩
  | closing _ coming => exact .inr (.inr (.inl ⟨_, coming⟩))

/-- A loop begins its pursuit when its call fails. -/
theorem State.Chasing.before {d : SendId} {index : Fin n} {c : Connection.CallId} (chasing : after.Chasing d index c)
    (attempts : Attempts s) (taken : Step config s action after) :
    s.Chasing d index c ∨ ∃ outcome, (after.clients index).calls c = .returned outcome ∧ retryable outcome = true ∧
      (s.clients index).calls c ≠ .returned outcome := by
  cases chasing with
  | @returned round outcome sending returned retry =>
    by_cases already : (s.clients index).calls c = .returned outcome
    · rcases taken.loop d with ⟨_, rfl, step⟩ | ⟨sends, _⟩
      · obtain ⟨_, idle, _⟩ := step.sending sending
        cases idle.symm.trans already
      · rw [sends] at sending
        exact .inl (.returned sending already retry)
    · exact .inr ⟨outcome, returned, retry, already⟩
  | failed atPc atLast =>
    rcases taken.loop d with ⟨_, rfl, step⟩ | ⟨sends, _, same⟩
    · obtain ⟨c', sending, returned, retry, _, same⟩ := step.failed atPc
      rw [same, attempts.last d _ index c' sending] at atLast
      cases atLast
      exact .inl (.returned sending returned retry)
    · rw [sends] at atPc
      rw [same] at atLast
      exact .inl (.failed atPc atLast)
  | closing atPc coming atLast =>
    rcases taken.loop d with ⟨_, rfl, step⟩ | ⟨sends, _, same⟩
    · obtain ⟨failed, _, _, same⟩ := step.closing atPc
      rw [same] at atLast
      exact .inl (.failed failed atLast)
    · rw [sends] at atPc
      rw [same] at atLast
      rcases taken.client_of index with unmoved | ⟨_, _, inner⟩
      · rw [unmoved] at coming
        exact .inl (.closing atPc coming atLast)
      · rcases inner.coming coming with already | ⟨_, _, idle⟩
        · exact .inl (.closing atPc already atLast)
        · exact absurd idle (attempts.begun d _ index _ _ atPc)

theorem State.Alarm.before {index : Fin n} (alarm : after.Alarm index) (taken : Step config s action after) :
    s.Alarm index ∨ Connection.FailsNow (s.clients index) (after.clients index) := by
  obtain ⟨d, c, ⟨outcome, returned, retry⟩, place⟩ := alarm
  by_cases already : (s.clients index).calls c = .returned outcome
  · have failed : s.Failed index c := ⟨outcome, already, retry⟩
    rcases taken.loop d with ⟨_, rfl, step⟩ | ⟨sends, _⟩
    · rcases place with ⟨round, sending⟩ | ⟨round, err, atPc⟩
      · obtain ⟨_, idle, _⟩ := step.sending sending
        cases idle.symm.trans already
      · obtain ⟨c', sending, returned, retry, _⟩ := step.failed atPc
        exact .inl ⟨d, c', ⟨_, returned, retry⟩, .inl ⟨round, sending⟩⟩
    · rw [sends] at place
      exact .inl ⟨d, c, failed, place⟩
  · exact .inr ⟨c, outcome, returned, retry, already⟩

theorem Healthy.guarded {index : Fin n} {inner : Connection.Action} (healthy : Healthy s action) (attempts : Attempts s)
    (loops : Loops s) (reach : Reached config allowed s) (taken : Step config s action after)
    (atAction : clientAction s action = some (index, inner)) :
    Connection.Guarded (s.Alarm index) (s.clients index) inner where
  publish o same := healthy.publish index o (by rw [atAction, same])
  close k same := by
    rcases taken.closes (k := k) (by rw [atAction, same]) with ⟨d, round, err, failed⟩ | ⟨u, user⟩
    · obtain ⟨c, _, returned, retry⟩ := attempts.chased d index err (by rw [failed]; rfl)
      exact ⟨d, c, ⟨_, returned, retry⟩, .inr ⟨round, err, failed⟩⟩
    · exact absurd user (healthy.unclosed u _)
  own r starts := healthy.own index r (starts.imp (fun ⟨same, opened⟩ => ⟨by rw [atAction, same], opened⟩)
    fun same => by rw [atAction, same])
  apart _ _ _ _ atEncoded atEncoded' same := loops.apart reach atEncoded atEncoded' same

/-- Where a loop is after a node, nothing is published on it. -/
theorem Healthy.latest_kept {index : Fin n} (healthy : Healthy s action) (taken : Step config s action after)
    (pressed : s.Alarm index ∨ (s.clients index).Troubled) :
    (after.clients index).latest = (s.clients index).latest := by
  rcases taken.client_of index with same | ⟨inner, atAction, step⟩
  · rw [same]
  · rcases step.latest_kept with same | ⟨⟨o, rfl⟩, _⟩
    · exact same
    · obtain ⟨calm, unalarmed⟩ := healthy.publish index o atAction
      exact (pressed.elim unalarmed calm.untroubled).elim

theorem Pursuit.step (pursuit : Pursuit s) (attempts : Attempts s) (loops : Loops s) (reach : Reached config allowed s)
    (healthy : Healthy s action) (taken : Step config s action after) : Pursuit after := by
  constructor
  · intro index
    rcases taken.client_of index with same | ⟨inner, atAction, step⟩
    · rw [same]
      refine (pursuit.sound index).weaken fun alarm => ?_
      rcases alarm.before taken with before | ⟨c, outcome, returned, _, new⟩
      · exact before
      · rw [same] at returned
        exact absurd returned new
    · exact (pursuit.sound index).step (client_reached index reach) (healthy.guarded attempts loops reach taken atAction) step
        fun alarm => alarm.before taken
  · intro d index c stream chasing written
    rcases chasing.before attempts taken with before | ⟨outcome, returned, retry, new⟩
    · obtain ⟨_, returned, _⟩ := before.hasFailed attempts
      rw [(taken.call_kept (by rw [returned]; rfl)).2] at written
      rw [healthy.latest_kept taken (before.pressed attempts)]
      exact pursuit.newest d index c stream before written
    · rcases taken.client_of index with same | ⟨inner, _, step⟩
      · rw [same] at returned
        exact absurd returned new
      · exact (pursuit.sound index).newest (client_reached index reach) step returned new retry written
  · intro d round index err k c stream own closing shut atLast written
    rcases taken.loop d with ⟨_, rfl, step⟩ | ⟨sends, _, same⟩
    · obtain ⟨_, _, started, _⟩ := step.closing closing
      cases started.symm.trans shut
    · rw [sends] at closing
      rw [same] at atLast
      obtain ⟨_, returned, _⟩ := attempts.failed_of_last (by rw [closing]; rfl) atLast
      rw [(taken.call_kept (by rw [returned]; rfl)).2] at written
      rcases taken.client_of index with unmoved | ⟨_, _, step⟩
      · rw [unmoved] at shut
        exact pursuit.torn d round index err k c stream own closing shut atLast written
      · rcases step.shutting shut with before | ⟨atPc, atWriter⟩
        · exact pursuit.torn d round index err k c stream own closing before atLast written
        · have chasing : s.Chasing d index c := .closing closing (by rw [atPc]; rfl) atLast
          have newest := pursuit.newest d index c own chasing written
          rw [(pursuit.sound index).latest stream atWriter] at newest
          exact (Option.some.inj newest).symm

end Pursuit

section Runs

variable {config : Config n} {s : State n}

theorem Loops.new : Loops (State.new n) where
  command _ _ atCommand := nomatch atCommand
  distinct _ _ _ _ atCommand := nomatch atCommand
  owner _ _ busy := absurd rfl busy
  made _ _ _ _ sending := nomatch sending

theorem Attempts.new : Attempts (State.new n) where
  last _ _ _ _ sending := nomatch sending
  chased _ _ _ chased := nomatch chased
  spoiled _ _ member := nomatch member
  free _ _ _ member := nomatch member
  begun _ _ _ _ _ closing := nomatch closing

theorem Pursuit.new : Pursuit (State.new n) where
  sound _ := Connection.Sound.new.weaken fun ⟨_, _, ⟨_, returned, _⟩, _⟩ => nomatch returned
  newest _ _ _ _ _ written := nomatch written
  torn _ _ _ _ _ _ _ _ closing := nomatch closing

theorem Loops.of_fresh (reach : Reached config FreshCommands s) : Loops s :=
  reach.invariant .new fun _ _ _ previous loops fresh run => loops.step previous fresh (.of_run run)

theorem Loops.of_reach (reach : Reached config Healthy s) : Loops s :=
  .of_fresh (reach.mono fun _ _ healthy => healthy.fresh)

theorem Attempts.of_reach {allowed : State n → Action n → Prop} (reach : Reached config allowed s) : Attempts s :=
  reach.invariant .new fun _ _ _ _ attempts _ run => attempts.step (.of_run run)

theorem Pursuit.of_reach (reach : Reached config Healthy s) : Pursuit s :=
  reach.invariant .new fun _ _ _ previous pursuit healthy run =>
    pursuit.step (.of_reach previous) (.of_reach previous) previous healthy (.of_run run)

end Runs

/-- Nobody suffers from somebody else's failure: a call whose frame is on a
stream that has not failed does not fail with a retryable error, its command is
sent again only if the node has refused it, and a `close` of a loop shuts down a
failed stream, that of the loop's own call where it has written one. -/
structure Undisturbed (s : State n) : Prop where
  notFailed : ∀ index c stream err, (s.clients index).written c = some stream →
    (s.clients index).faulted stream = false → (s.clients index).calls c = .returned (.error err) →
    retryableTransportError err = false
  notResent : ∀ d index c stream, (index, c) ∈ (s.attempts d).dropLast → (s.clients index).written c = some stream →
    (s.clients index).faulted stream = false →
    ∃ result, (s.clients index).calls c = .returned (.ok result) ∧ lockStateError result = true
  tearsDown : ∀ d round index err k stream, s.sends d = .closing round index err k →
    (s.clients index).closes k = .shutdown stream → (s.clients index).faulted stream = true ∧
      ∃ c, (s.attempts d).getLast? = some (index, c) ∧ (s.clients index).calls c = .returned (.error err) ∧
        ∀ own, (s.clients index).written c = some own → own = stream

theorem undisturbed_of_healthy {config : Config n} {s : State n} (reach : Reached config Healthy s) : Undisturbed s := by
  have attempts := Attempts.of_reach reach
  have pursuit := Pursuit.of_reach reach
  constructor
  · intro index c stream err written healthy returned
    by_contra retry
    have failed := (pursuit.sound index).failed c _ stream returned (Bool.eq_true_of_not_eq_false retry) written
    rw [healthy] at failed
    cases failed
  · intro d index c stream member written healthy
    rcases attempts.spoiled d _ member with ⟨outcome, returned, retry⟩ | refused
    · have failed := (pursuit.sound index).failed c outcome stream returned retry written
      rw [healthy] at failed
      cases failed
    · exact refused
  · intro d round index err k stream closing shut
    refine ⟨(pursuit.sound index).shut k stream shut, ?_⟩
    obtain ⟨c, atLast, returned, _⟩ := attempts.chased d index err (by rw [closing]; rfl)
    exact ⟨c, atLast, returned, fun own => pursuit.torn d round index err k c stream own closing shut atLast⟩

/-- The socket of a stream is reset, and its reader fails one pending request. -/
def resetNode (index : Fin n) (stream : Connection.StreamId) (requestId : Id16) : List (Action n) :=
  .client index (.socketEnds stream ⟨.connectionReset, "connection reset by peer"⟩) ::
    [.headerFails, .checkClosed, .lockPending, .drain requestId, .drained, .lockWriter, .takeWriter,
      .unlockPending].map fun action => .client index (.reader stream action)

/-- A loop fails over to the second node: its call fails with the first stream,
its `close` finds no writer. -/
def failedOver : List (Action 2) :=
  beginActions 0 ⟨Block.ofNatLE 16 7⟩ ++ openNode 0 firstNode 0 0 ++ writeNode 0 firstNode 0 ++
    resetNode firstNode 0 ⟨Block.ofNatLE 16 7⟩ ++
    [.client firstNode (.call 0 .receive), .send 0 .answered, .send 0 (.startClose 0)] ++ closeEmpty firstNode 0 ++
    [.send 0 .closed, .send 0 .redirect] ++ openNode 0 secondNode 0 0 ++ writeNode 0 secondNode 0

/-- Steps that are healthy in every state. -/
def Action.plain : Action n → Bool
  | .send _ (.start _) => false
  | .closing _ _ => false
  | .client _ (.opening _ .publish) => false
  | .client _ (.reader _ .checkClosed) => false
  | .client _ (.reader _ .extraFails) => false
  | _ => true

section Allowed

variable {s : State n}

theorem healthy_of_plain {action : Action n} (plain : action.plain = true) : Healthy s action where
  fresh := by
    rintro d command rfl
    cases plain
  publish index o atAction := by
    cases clientAction_inside atAction rfl
    cases plain
  own index r starts := by
    rcases starts with ⟨atAction, _⟩ | atAction <;> cases clientAction_inside atAction rfl <;> cases plain
  unclosed := by
    rintro u action' rfl
    cases plain

theorem healthy_of_start {d : SendId} {command : Command}
    (fresh : ∀ d' command', s.commands d' = some command' → command'.requestId ≠ command.requestId) :
    Healthy s (.send d (.start command)) where
  fresh := by
    rintro _ _ ⟨⟩
    exact fresh
  publish _ _ atAction := nomatch atAction
  own _ _ starts := by rcases starts with ⟨atAction, _⟩ | atAction <;> cases atAction
  unclosed := nofun

/-- A stream may be published on a node where no call, `close` or reader has begun. -/
theorem healthy_of_untouched {index : Fin n} {o : Connection.OpenId} (writer : (s.clients index).writer = none)
    (opened : (s.clients index).closed = false) (calls : ∀ c, (s.clients index).calls c = .idle)
    (channel : ∀ c, (s.clients index).channel c = []) (closes : ∀ k, (s.clients index).closes k = .idle)
    (readers : ∀ r, (s.clients index).readers r = .idle) : Healthy s (.client index (.opening o .publish)) where
  fresh := nofun
  publish index' o' atAction := by
    cases atAction
    refine ⟨⟨writer, opened, ?_, fun k => by rw [closes k]; rfl⟩, ?_⟩
    · rintro (⟨c, failing | ⟨_, _, member, _⟩⟩ | ⟨k, coming⟩ | ⟨r, handling⟩)
      · rw [calls c] at failing
        cases failing
      · rw [channel c] at member
        cases member
      · rw [closes k] at coming
        cases coming
      · rw [readers r] at handling
        cases handling
    · rintro ⟨_, c, ⟨_, returned, _⟩, _⟩
      cases (calls c).symm.trans returned
  own _ _ starts := by rcases starts with ⟨atAction, _⟩ | atAction <;> cases atAction
  unclosed := nofun

theorem healthy_of_own {index : Fin n} {r : Connection.StreamId} (own : (s.clients index).writer = some r) :
    Healthy s (.client index (.reader r .checkClosed)) where
  fresh := nofun
  publish _ _ atAction := nomatch atAction
  own _ _ starts := by
    rcases starts with ⟨atAction, _⟩ | atAction
    · cases atAction
      exact .inr own
    · cases atAction
  unclosed := nofun

end Allowed

set_option maxRecDepth 2000 in
theorem failedOver_allowed : RunAllowed (step pair) Healthy (State.new 2) failedOver := by
  refine And.intro (healthy_of_start fun _ _ atCommand => nomatch atCommand) ?_
  repeat refine And.intro (healthy_of_plain rfl) ?_
  refine And.intro (healthy_of_untouched rfl rfl (fun _ => rfl) (fun _ => rfl) (fun _ => rfl) fun _ => rfl) ?_
  repeat refine And.intro (healthy_of_plain rfl) ?_
  refine And.intro (healthy_of_own rfl) ?_
  repeat refine And.intro (healthy_of_plain rfl) ?_
  refine And.intro (healthy_of_untouched rfl rfl (fun _ => rfl) (fun _ => rfl) (fun _ => rfl) fun _ => rfl) ?_
  repeat refine And.intro (healthy_of_plain rfl) ?_
  trivial

set_option maxRecDepth 2000 in
theorem undisturbed_failedOver : ∃ s : State 2, Undisturbed s ∧ (s.attempts 0).length = 2 := by
  have executed : (run (step pair) (State.new 2) failedOver).any (fun s => (s.attempts 0).length == 2) = true := by
    decide
  obtain ⟨s, reach, twice⟩ := Reach.exists_of_run failedOver_allowed executed
  exact ⟨s, undisturbed_of_healthy reach, eq_of_beq twice⟩

def Action.bySend : Action n → Bool
  | .opening _ _ => false
  | .closing _ _ => false
  | _ => true

/-- Only `send_command`s run. -/
def SendsOnly (_ : State n) : Action n → Prop
  | .opening _ _ => False
  | .closing _ _ => False
  | _ => True

/-- One loop has failed and has yet to close the first node when another loop
opens it again and writes to it. -/
def closesNewer : List (Action 2) :=
  beginActions 0 ⟨Block.ofNatLE 16 7⟩ ++ openNode 0 firstNode 0 0 ++ writeNode 0 firstNode 0 ++
    beginActions 1 ⟨Block.ofNatLE 16 8⟩ ++ resetNode firstNode 0 ⟨Block.ofNatLE 16 7⟩ ++
    [.client firstNode (.call 0 .receive), .send 0 .answered] ++
    openNode 1 firstNode 1 1 ++ writeNode 1 firstNode 1 ++ [.send 0 (.startClose 0)] ++
    closeSteps firstNode 0
      [.storeClosed, .lockWriter, .takeWriter, .shutdown, .lockPending, .drain ⟨Block.ofNatLE 16 8⟩, .finish] ++
    [.client firstNode (.call 1 .receive)]

/-- A call that has returned an error on which `send_command` retries. -/
def failedRetryably : Connection.CallPc → Bool
  | .returned (.error err) => retryableTransportError err
  | _ => false

set_option maxRecDepth 2000 in
theorem closesNewer_disturbs : ∃ s : State 2, Reached pair SendsOnly s ∧ ¬ Undisturbed s := by
  have executed : (run (step pair) (State.new 2) closesNewer).any (fun s =>
      (s.clients 0).written 1 == some 1 && !(s.clients 0).faulted 1 && failedRetryably ((s.clients 0).calls 1)) = true := by
    decide
  have sends : RunAllowed (step pair) SendsOnly (State.new 2) closesNewer := by
    refine .of_forall (fun action member _ => ?_) _
    have notUser := List.all_eq_true.mp (show closesNewer.all Action.bySend = true by decide) action member
    cases action <;> trivial
  obtain ⟨s, reach, found⟩ := Reach.exists_of_run sends executed
  obtain ⟨place, failed⟩ := (Bool.and_eq_true ..).mp found
  obtain ⟨written, healthy⟩ := (Bool.and_eq_true ..).mp place
  refine ⟨s, reach, fun undisturbed => ?_⟩
  unfold failedRetryably at failed
  split at failed
  · rename_i err returned
    rw [undisturbed.notFailed 0 1 1 err (eq_of_beq written) (Bool.not_eq_true' .. ▸ healthy) returned] at failed
    cases failed
  · cases failed

end Ruslock.Replset
