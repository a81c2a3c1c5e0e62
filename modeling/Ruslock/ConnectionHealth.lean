import Ruslock.ConnectionPending
import Ruslock.Replset

namespace Ruslock.Connection
open Wire
open Replset (retryableTransportError)

/-- The outcome makes a retry loop close the client. -/
def retryable : Outcome CommandResult → Bool
  | .ok _ => false
  | .error err => retryableTransportError err

def CallPc.finished : CallPc → Bool
  | .returned _ => true
  | .dropped => true
  | _ => false

/-- A call that can only return a retryable error. -/
def CallPc.failing : CallPc → Bool
  | .lockPending _ (.remove exit) => retryableTransportError exit.error
  | .inPending _ (.remove exit) => retryableTransportError exit.error
  | .unlockWriter => true
  | _ => false

/-- A call that is about to return a retryable error. -/
def State.Doomed (s : State) (c : CallId) : Prop :=
  (s.calls c).failing = true ∨
    (s.calls c).finished = false ∧ ∃ message ∈ s.channel c, retryable message.result = true

/-- A `close` that has yet to look at the writer. -/
def ClosePc.coming : ClosePc → Bool
  | .storeClosed => true
  | .lockWriter => true
  | .inWriter => true
  | _ => false

/-- A `close` that has looked at the writer and has yet to fail the pending requests. -/
def ClosePc.tearing : ClosePc → Bool
  | .shutdown _ => true
  | .lockPending => true
  | .inPending => true
  | _ => false

/-- Somebody has failed, or is about to clear the writer. -/
def State.Troubled (s : State) : Prop :=
  (∃ c, s.Doomed c) ∨ (∃ k, (s.closes k).coming = true) ∨ ∃ r, (s.readers r).handling = true

/-- Nobody holds the connection, and nobody is about to fail it. -/
structure Calm (s : State) : Prop where
  writer : s.writer = none
  opened : s.closed = false
  untroubled : ¬ s.Troubled
  tearing : ∀ k, (s.closes k).tearing = false

/-- The steps that keep a healthy connection out of reach; `alarm` says that a
retry loop is about to close the client. -/
structure Guarded (alarm : Prop) (s : State) (action : Action) : Prop where
  publish : ∀ o, action = .opening o .publish → Calm s ∧ ¬ alarm
  close : ∀ k, action = .closing k .start → alarm
  own : ∀ r, action = .reader r .checkClosed ∧ s.closed = false ∨ action = .reader r .extraFails →
    s.writer = none ∨ s.writer = some r
  apart : ∀ c c' encoded encoded', (s.calls c).encoded = some encoded → (s.calls c').encoded = some encoded' →
    encoded.requestId = encoded'.requestId → c = c'

/-- Only streams that have failed are ever in danger. -/
structure Sound (alarm : Prop) (s : State) : Prop where
  pressed : alarm ∨ s.Troubled → ∀ stream, s.writer = some stream → s.faulted stream = true
  closed : s.closed = true → ∀ stream, s.writer = some stream → s.faulted stream = true
  torn : ∀ k, (s.closes k).tearing = true → s.writer = none
  shut : ∀ k stream, s.closes k = .shutdown stream → s.faulted stream = true
  ended : ∀ stream, (s.ended stream).isSome = true → s.faulted stream = true
  reading : ∀ r err, s.readers r = .checkClosed err → s.faulted r = true
  latest : ∀ stream, s.writer = some stream → s.latest = some stream
  pending : ∀ id c stream, s.pending.lookup id = some c → s.written c = some stream →
    s.latest = some stream ∧ (s.writer = some stream ∨ s.faulted stream = true)
  told : ∀ c message stream, message ∈ s.channel c → retryable message.result = true → s.written c = some stream →
    s.faulted stream = true ∧ ((s.calls c).finished = false → s.latest = some stream)
  failed : ∀ c outcome stream, s.calls c = .returned outcome → retryable outcome = true → s.written c = some stream →
    s.faulted stream = true
  tracked : ∀ c encoded, (s.calls c).registered = true → (s.calls c).encoded = some encoded → s.Tracks c encoded

theorem Sound.new : Sound False State.new where
  pressed := by rintro _ _ ⟨⟩
  closed := by rintro ⟨⟩
  torn := by rintro _ ⟨⟩
  shut := by rintro _ _ ⟨⟩
  ended := by rintro _ ⟨⟩
  reading := by rintro _ _ ⟨⟩
  latest := by rintro _ ⟨⟩
  pending := by rintro _ _ _ ⟨⟩
  told := by rintro _ _ _ ⟨⟩
  failed := by rintro _ _ _ ⟨⟩
  tracked := by rintro _ _ ⟨⟩

/-- A `close` tears down from its look at the writer to the end of its drain. -/
theorem CloseStep.tearing {config : Config} {s after : State} {k moved : CloseId} {action : CloseAction}
    (taken : CloseStep config s k action after) (tearing : (s.closes moved).tearing = true) :
    (after.closes moved).tearing = true ∨ s.pending.entries = [] := by
  by_cases same : moved = k
  · subst same
    cases taken with
    | start atPc | storeClosed atPc | lockWriter atPc | noWriter atPc | tookWriter atPc =>
      rw [atPc] at tearing
      cases tearing
    | shutdown | lockPending => exact .inl (by simp only [Function.update_self]; rfl)
    | drain => exact .inl tearing
    | finish _ empty => exact .inr empty
  · exact .inl (by rw [taken.frame.others moved same]; exact tearing)

/-- An entry of a written request: the writer is in place, or a `close` tears down. -/
theorem held_of_written {config : Config} {allowed : State → Action → Prop} {s : State} {id : Id16} {c : CallId}
    (reach : Reached config allowed s) (entry : s.pending.lookup id = some c) (written : (s.written c).isSome = true) :
    s.writer.isSome = true ∨ ∃ k, (s.closes k).tearing = true := by
  induction reach generalizing id c with
  | start => cases written
  | @next before after action previous _ run ih =>
    cases Step.of_run run with
    | network taken =>
      rw [taken.frame.pending] at entry
      rw [taken.frame.written] at written
      rw [taken.frame.writer, taken.frame.closes]
      exact ih entry written
    | call taken =>
      rw [taken.frame.writer, taken.frame.closes]
      obtain ⟨stream, atStream⟩ := Option.isSome_iff_exists.mp written
      rcases taken.entry_written previous entry atStream with ⟨already, wrote⟩ | atWriter
      · exact ih already (by rw [wrote]; rfl)
      · exact .inl (by rw [atWriter]; rfl)
    | opening taken =>
      rw [taken.frame.pending] at entry
      rw [taken.frame.written] at written
      rw [taken.frame.closes]
      rcases taken.writer with ⟨same, _⟩ | ⟨stream, _, _, _, new, _⟩
      · rw [same]
        exact ih entry written
      · exact .inl (by rw [new]; rfl)
    | @reader r _ _ taken =>
      rw [taken.frame.written] at written
      rw [taken.frame.closes]
      have entryBefore := taken.entry entry
      cases taken with
      | takeWriter atPc =>
        rw [empty_of_emptied previous (by rw [atPc]; rfl) id] at entryBefore
        cases entryBefore
      | _ => exact ih entryBefore written
    | @closing k _ _ taken =>
      rw [taken.frame.written] at written
      have entryBefore := taken.entry entry
      rcases ih entryBefore written with held | ⟨moved, tearing⟩
      · cases taken with
        | tookWriter => exact .inr ⟨k, by simp only [Function.update_self]; rfl⟩
        | _ => exact .inl held
      · rcases taken.tearing tearing with still | empty
        · exact .inr ⟨moved, still⟩
        · rw [lookup_of_entries_nil empty id] at entryBefore
          cases entryBefore

/-- A call that waits, and that nobody will ever tell anything. -/
def State.Lost (s : State) (c : CallId) : Prop :=
  ∃ encoded, s.calls c = .waiting encoded ∧ s.channel c = [] ∧ ∀ entry ∈ s.pending.entries, entry.2 ≠ c

theorem retryable_encode {command : Command} {err : SlockError} (fails : command.encode = .error err) :
    retryable (.error err) = false := by
  obtain ⟨message, rfl⟩ := Command.encode_error fails
  rfl

theorem retryable_decode (header : Block 64) (data : Option (List UInt8)) :
    retryable (decodeResponse header data) = false := by
  cases decoded : decodeResponse header data with
  | ok result => rfl
  | error err =>
    obtain ⟨message, rfl⟩ := decodeResponse_error decoded
    rfl

section CallSteps

variable {config : Config} {s after : State} {c : CallId} {action : CallAction}

theorem CallStep.moving (taken : CallStep config s c action after) : (s.calls c).finished = false := by
  cases taken with
  | drop _ awaits => cases atPc : s.calls c <;> rw [atPc] at awaits <;> first | rfl | cases awaits
  | start atPc | enter atPc | lockPending atPc | insert atPc | remove atPc | lockWriter atPc | noWriter atPc
  | foundWriter atPc | write atPc | writeFails atPc | writeDone atPc | unlockWriter atPc | receive atPc | timeout atPc
  | disconnected atPc => rw [atPc]; rfl

/-- Where a retryable error of a call comes from. -/
theorem CallStep.returned_retryable (taken : CallStep config s c action after) {outcome : Outcome CommandResult}
    (returned : after.calls c = .returned outcome) (retry : retryable outcome = true) :
    s.closed = true ∨ s.Doomed c ∨ s.Lost c := by
  cases taken with
  | @enter command atPc =>
    simp only [Function.update_self, enterPc] at returned
    split at returned
    · exact .inl ‹_›
    · split at returned
      · cases returned
        rw [retryable_encode ‹_›] at retry
        cases retry
      · cases returned
  | @remove encoded exit atPc =>
    simp only [Function.update_self] at returned
    right; left; left
    rw [atPc]
    cases exit <;> cases returned <;> exact retry
  | unlockWriter atPc => exact .inr (.inl (.inl (by rw [atPc]; rfl)))
  | receive atPc first =>
    simp only [Function.update_self] at returned
    cases returned
    exact .inr (.inl (.inr ⟨by rw [atPc]; rfl, _, by rw [first]; exact List.mem_cons_self, retry⟩))
  | disconnected atPc untold unlisted => exact .inr (.inr ⟨_, atPc, untold, unlisted⟩)
  | start | lockPending | insert | lockWriter | noWriter | foundWriter | write | writeFails | writeDone | timeout
  | drop =>
    simp only [Function.update_self] at returned
    cases returned

/-- A call that has written its frame fails by what it is told. -/
theorem CallStep.returned_written {allowed : State → Action → Prop} (taken : CallStep config s c action after)
    (reach : Reached config allowed s) {outcome : Outcome CommandResult} {stream : StreamId}
    (returned : after.calls c = .returned outcome) (retry : retryable outcome = true)
    (written : after.written c = some stream) :
    s.written c = some stream ∧ ((∃ message ∈ s.channel c, retryable message.result = true) ∨ s.Lost c) := by
  have early : after.written = s.written → (s.calls c).sent = false → s.written c = some stream ∧
      ((∃ message ∈ s.channel c, retryable message.result = true) ∨ s.Lost c) := by
    intro same unsent
    rw [same] at written
    rw [(Written.of_reach reach).sent c (by rw [written]; rfl)] at unsent
    cases unsent
  cases taken with
  | enter atPc | unlockWriter atPc => exact early rfl (by rw [atPc]; rfl)
  | @remove encoded exit atPc =>
    simp only [Function.update_self] at returned
    cases exit with
    | notConnected => cases returned
    | ioError err => exact early rfl (by rw [atPc]; rfl)
    | timeout => cases returned; cases retry
  | receive atPc first =>
    simp only [Function.update_self] at returned
    cases returned
    exact ⟨written, .inl ⟨_, by rw [first]; exact List.mem_cons_self, retry⟩⟩
  | disconnected atPc untold unlisted => exact ⟨written, .inr ⟨_, atPc, untold, unlisted⟩⟩
  | start | lockPending | insert | lockWriter | noWriter | foundWriter | write | writeFails | writeDone | timeout
  | drop =>
    simp only [Function.update_self] at returned
    cases returned

/-- A call dooms itself where it finds no writer, or by a write that fails. -/
theorem CallStep.doomed (taken : CallStep config s c action after) {other : CallId} (doomed : after.Doomed other) :
    s.Doomed other ∨ s.writer = none ∨ ∃ stream, (s.calls c).stream = some stream ∧ after.faulted stream = true := by
  have frame := taken.frame
  by_cases same : other = c
  · subst same
    rcases doomed with failing | ⟨_, message, member, retry⟩
    · cases taken with
      | noWriter _ absent => exact .inr (.inl absent)
      | writeFails atPc => exact .inr (.inr ⟨_, by rw [atPc]; rfl, Function.update_self ..⟩)
      | @lockPending encoded use atPc =>
        simp only [Function.update_self] at failing
        cases use with
        | insert => cases failing
        | remove exit => exact .inl (.inl (by rw [atPc]; exact failing))
      | @remove encoded exit atPc =>
        simp only [Function.update_self] at failing
        cases exit with
        | notConnected => exact .inl (.inl (by rw [atPc]; rfl))
        | ioError | timeout => cases failing
      | @enter command =>
        simp only [Function.update_self, enterPc] at failing
        repeat' split at failing
        all_goals cases failing
      | start | insert | lockWriter | foundWriter | write | writeDone | unlockWriter | receive | timeout | disconnected
      | drop =>
        simp only [Function.update_self] at failing
        cases failing
    · rw [frame.channel] at member
      exact .inl (.inr ⟨taken.moving, message, member, retry⟩)
  · unfold State.Doomed at doomed
    rw [(frame.others other same).1, frame.channel] at doomed
    exact .inl doomed

end CallSteps

theorem CloseStep.coming {config : Config} {s after : State} {k moved : CloseId} {action : CloseAction}
    (taken : CloseStep config s k action after) (coming : (after.closes moved).coming = true) :
    (s.closes moved).coming = true ∨ action = .start ∧ s.closes moved = .idle := by
  by_cases same : moved = k
  · subst same
    cases taken with
    | start atPc => exact .inr ⟨rfl, atPc⟩
    | storeClosed atPc | lockWriter atPc => exact .inl (by rw [atPc]; rfl)
    | drain => exact .inl coming
    | noWriter | tookWriter | shutdown | lockPending | finish =>
      simp only [Function.update_self] at coming
      cases coming
  · rw [taken.frame.others moved same] at coming
    exact .inl coming

/-- A `close` shuts down the stream that it has found in the writer. -/
theorem CloseStep.shutting {config : Config} {s after : State} {k moved : CloseId} {action : CloseAction}
    {stream : StreamId} (taken : CloseStep config s k action after) (shut : after.closes moved = .shutdown stream) :
    s.closes moved = .shutdown stream ∨ s.closes moved = .inWriter ∧ s.writer = some stream := by
  by_cases same : moved = k
  · subst same
    cases taken with
    | tookWriter atPc atWriter =>
      simp only [Function.update_self] at shut
      cases shut
      exact .inr ⟨atPc, atWriter⟩
    | drain => exact .inl shut
    | start | storeClosed | lockWriter | noWriter | shutdown | lockPending | finish =>
      simp only [Function.update_self] at shut
      cases shut
  · rw [taken.frame.others moved same] at shut
    exact .inl shut

theorem Completion.doomed {s after : State} {id : Id16} {owner c : CallId} {message : Message}
    (completion : Completion s after id owner message) (calls : after.calls = s.calls) (doomed : after.Doomed c) :
    s.Doomed c ∨ retryable message.result = true := by
  unfold State.Doomed at doomed
  rw [calls] at doomed
  rcases doomed with failing | ⟨unfinished, told, member, retry⟩
  · exact .inl (.inl failing)
  · rcases completion.received member with before | ⟨_, rfl⟩
    · exact .inl (.inr ⟨unfinished, told, before, retry⟩)
    · exact .inr retry

theorem Quiet.doomed {s after : State} {c : CallId} (quiet : Quiet s after) (calls : after.calls = s.calls)
    (doomed : after.Doomed c) : s.Doomed c := by
  unfold State.Doomed at doomed
  rw [calls, quiet.channel] at doomed
  exact doomed

section Rules

variable {config : Config} {allowed : State → Action → Prop} {alarm alarm' : Prop} {s after : State} {action : Action}

theorem Step.faulted_mono (taken : Step config s action after) {stream : StreamId} (faulted : s.faulted stream = true) :
    after.faulted stream = true := by
  have kept : ∀ moved, Function.update s.faulted moved true stream = true := by
    intro moved
    rw [Function.update_apply]
    split
    · rfl
    · exact faulted
  cases taken with
  | opening taken => rw [taken.frame.faulted]; exact faulted
  | closing taken => rw [taken.frame.faulted]; exact faulted
  | reader taken => rw [taken.frame.faulted]; exact faulted
  | network taken =>
    cases taken with
    | receive => exact faulted
    | socketEnds => exact kept _
  | call taken =>
    cases taken with
    | writeFails => exact kept _
    | _ => exact faulted

theorem Step.writer_kept (taken : Step config s action after) {stream : StreamId} (atWriter : after.writer = some stream) :
    s.writer = some stream ∨ ∃ o, action = .opening o .publish := by
  cases taken with
  | call taken => rw [taken.frame.writer] at atWriter; exact .inl atWriter
  | network taken => rw [taken.frame.writer] at atWriter; exact .inl atWriter
  | closing taken => exact .inl (taken.writer_kept atWriter)
  | reader taken => exact .inl (taken.writer_kept atWriter)
  | opening taken =>
    rcases taken.writer with ⟨same, _⟩ | ⟨_, rfl, _⟩
    · rw [same] at atWriter
      exact .inl atWriter
    · exact .inr ⟨_, rfl⟩

theorem Step.shutting (taken : Step config s action after) {k : CloseId} {stream : StreamId}
    (shut : after.closes k = .shutdown stream) :
    s.closes k = .shutdown stream ∨ s.closes k = .inWriter ∧ s.writer = some stream := by
  cases taken with
  | call taken => exact .inl (taken.frame.closes ▸ shut)
  | opening taken => exact .inl (taken.frame.closes ▸ shut)
  | reader taken => exact .inl (taken.frame.closes ▸ shut)
  | network taken => exact .inl (taken.frame.closes ▸ shut)
  | closing taken => exact taken.shutting shut

theorem Step.coming (taken : Step config s action after) {k : CloseId} (coming : (after.closes k).coming = true) :
    (s.closes k).coming = true ∨ ∃ moved, action = .closing moved .start ∧ s.closes k = .idle := by
  cases taken with
  | call taken => exact .inl (taken.frame.closes ▸ coming)
  | opening taken => exact .inl (taken.frame.closes ▸ coming)
  | reader taken => exact .inl (taken.frame.closes ▸ coming)
  | network taken => exact .inl (taken.frame.closes ▸ coming)
  | @closing moved _ _ taken =>
    rcases taken.coming coming with before | ⟨rfl, idle⟩
    · exact .inl before
    · exact .inr ⟨moved, rfl, idle⟩

/-- A waiting call has its entry or its completion. -/
theorem Sound.not_lost {c : CallId} (sound : Sound alarm s) (lost : s.Lost c) : False := by
  obtain ⟨encoded, waiting, untold, unlisted⟩ := lost
  rcases sound.tracked c encoded (by rw [waiting]; rfl) (by rw [waiting]; rfl) with entry | told
  · exact unlisted ⟨_, c⟩ (AList.mem_lookup_iff.mp entry) rfl
  · exact told untold

/-- A call that returns a retryable error in this step. -/
def FailsNow (s after : State) : Prop :=
  ∃ c outcome, after.calls c = .returned outcome ∧ retryable outcome = true ∧ s.calls c ≠ .returned outcome

theorem Step.failsNow (taken : Step config s action after) {c : CallId} {outcome : Outcome CommandResult}
    (returned : after.calls c = .returned outcome) (new : s.calls c ≠ .returned outcome) :
    ∃ action', action = .call c action' ∧ CallStep config s c action' after := by
  cases taken with
  | opening taken => rw [taken.frame.calls] at returned; exact absurd returned new
  | closing taken => rw [taken.frame.calls] at returned; exact absurd returned new
  | reader taken => rw [taken.frame.calls] at returned; exact absurd returned new
  | network taken => rw [taken.frame.calls] at returned; exact absurd returned new
  | @call moved action' _ taken =>
    by_cases same : c = moved
    · subst same
      exact ⟨action', rfl, taken⟩
    · rw [(taken.frame.others c same).1] at returned
      exact absurd returned new

/-- Whoever is told of a failure had its frame on the newest stream, and that has failed. -/
theorem Sound.completed (sound : Sound alarm s) {id : Id16} {owner : CallId} {message : Message} {stream : StreamId}
    (completion : Completion s after id owner message) (written : s.written owner = some stream)
    (pressed : s.writer = some stream → s.faulted stream = true) :
    s.faulted stream = true ∧ s.latest = some stream := by
  obtain ⟨newest, place⟩ := sound.pending id owner stream completion.entry written
  exact ⟨place.elim pressed fun faulted => faulted, newest⟩

section Kept

variable (sound : Sound alarm s) (reach : Reached config allowed s) (guarded : Guarded alarm s action)
  (taken : Step config s action after) (grows : alarm' → alarm ∨ FailsNow s after)
include sound guarded taken

/-- Where trouble was known, the writer stays one that has failed. -/
theorem Sound.danger (pressed : alarm ∨ s.Troubled) {stream : StreamId} (atWriter : after.writer = some stream) :
    after.faulted stream = true := by
  rcases taken.writer_kept atWriter with before | ⟨o, rfl⟩
  · exact taken.faulted_mono (sound.pressed pressed stream before)
  · obtain ⟨calm, unalarmed⟩ := guarded.publish o rfl
    exact (pressed.elim unalarmed calm.untroubled).elim

theorem Sound.closed_danger (closed : s.closed = true) {stream : StreamId} (atWriter : after.writer = some stream) :
    after.faulted stream = true := by
  rcases taken.writer_kept atWriter with before | ⟨o, rfl⟩
  · exact taken.faulted_mono (sound.closed closed stream before)
  · have opened := (guarded.publish o rfl).1.opened
    rw [closed] at opened
    cases opened

theorem Sound.torn_step {k : CloseId} (tearing : (s.closes k).tearing = true) : after.writer = none := by
  cases atWriter : after.writer with
  | none => rfl
  | some stream =>
    rcases taken.writer_kept atWriter with before | ⟨o, rfl⟩
    · rw [sound.torn k tearing] at before
      cases before
    · rw [(guarded.publish o rfl).1.tearing k] at tearing
      cases tearing

theorem Sound.handling_step {r : StreamId} (handling : (after.readers r).handling = true) {stream : StreamId}
    (atWriter : after.writer = some stream) : after.faulted stream = true := by
  have before : (s.readers r).handling = true → after.faulted stream = true := fun handling =>
    sound.danger guarded taken (.inr (.inr (.inr ⟨r, handling⟩))) atWriter
  cases taken with
  | call taken => rw [taken.frame.readers] at handling; exact before handling
  | closing taken => rw [taken.frame.readers] at handling; exact before handling
  | network taken => rw [taken.frame.readers] at handling; exact before handling
  | opening taken =>
    rcases taken.reader_kept r with same | ⟨new, _⟩
    · rw [same] at handling
      exact before handling
    · rw [new] at handling
      cases handling
  | @reader moved action' _ taken =>
    by_cases same : r = moved
    · subst same
      have own : s.faulted r = true → (s.writer = none ∨ s.writer = some r) → after.faulted stream = true := by
        intro faulted own
        have atOld := taken.writer_kept atWriter
        rcases own with absent | mine
        · rw [absent] at atOld
          cases atOld
        · rw [mine] at atOld
          cases atOld
          rw [taken.frame.faulted]
          exact faulted
      rcases taken.handling handling with already | starts
      · exact before already
      · refine own ?_ (guarded.own r (starts.imp (fun ⟨same, opened⟩ => ⟨by rw [same], opened⟩) fun same => by rw [same]))
        cases taken with
        | checkClosed atPc => exact sound.reading r _ atPc
        | extraFails _ _ ended => exact sound.ended r (by rw [ended]; rfl)
        | _ => simp at starts
    · rw [(taken.frame.others r same).1] at handling
      exact before handling

theorem Sound.closed_step (closed : after.closed = true) {stream : StreamId} (atWriter : after.writer = some stream) :
    after.faulted stream = true := by
  have before : s.closed = true → after.faulted stream = true := fun closed =>
    sound.closed_danger guarded taken closed atWriter
  cases taken with
  | call taken => exact before (taken.frame.closed ▸ closed)
  | reader taken => exact before (taken.frame.closed ▸ closed)
  | network taken => exact before (taken.frame.closed ▸ closed)
  | opening taken =>
    cases taken with
    | storeClosed => cases closed
    | _ => exact before closed
  | @closing k _ _ closing =>
    have step : Step config s _ after := .closing closing
    cases closing with
    | storeClosed atPc => exact sound.danger guarded step (.inr (.inr (.inl ⟨k, by rw [atPc]; rfl⟩))) atWriter
    | _ => exact before closed

theorem Sound.tearing_step {k : CloseId} (tearing : (after.closes k).tearing = true) : after.writer = none := by
  have before : (s.closes k).tearing = true → after.writer = none := fun tearing =>
    sound.torn_step guarded taken tearing
  cases taken with
  | call taken => exact before (taken.frame.closes ▸ tearing)
  | opening taken => exact before (taken.frame.closes ▸ tearing)
  | reader taken => exact before (taken.frame.closes ▸ tearing)
  | network taken => exact before (taken.frame.closes ▸ tearing)
  | @closing moved _ _ taken =>
    by_cases same : k = moved
    · subst same
      cases taken with
      | noWriter _ absent => exact absent
      | tookWriter => rfl
      | shutdown atPc | lockPending atPc => exact before (by rw [atPc]; rfl)
      | drain => exact before tearing
      | start | storeClosed | lockWriter | finish =>
        simp only [Function.update_self] at tearing
        cases tearing
    · exact before (taken.frame.others k same ▸ tearing)

omit guarded in
theorem Sound.shut_step {k : CloseId} {stream : StreamId} (shut : after.closes k = .shutdown stream) :
    after.faulted stream = true := by
  rcases taken.shutting shut with before | ⟨atPc, atWriter⟩
  · exact taken.faulted_mono (sound.shut k stream before)
  · exact taken.faulted_mono (sound.pressed (.inr (.inr (.inl ⟨k, by rw [atPc]; rfl⟩))) stream atWriter)

omit guarded in
theorem Sound.ended_step {stream : StreamId} (ended : (after.ended stream).isSome = true) :
    after.faulted stream = true := by
  have before : (s.ended stream).isSome = true → after.faulted stream = true := fun ended =>
    taken.faulted_mono (sound.ended stream ended)
  cases taken with
  | call taken => exact before (taken.frame.ended ▸ ended)
  | opening taken => exact before (taken.frame.ended ▸ ended)
  | reader taken => exact before (taken.frame.ended ▸ ended)
  | network taken =>
    cases taken with
    | receive => exact before ended
    | @socketEnds moved =>
      dsimp only at ended ⊢
      rw [Function.update_apply] at ended ⊢
      split
      · rfl
      · rw [if_neg ‹_›] at ended
        exact sound.ended stream ended
  | @closing k _ _ taken =>
    cases taken with
    | @shutdown moved atPc =>
      dsimp only at ended
      split at ended
      · rw [Function.update_apply] at ended
        split at ended
        · rename_i same
          rw [same]
          exact sound.shut k moved atPc
        · exact before ended
      · exact before ended
    | _ => exact before ended

omit guarded in
theorem Sound.reading_step {r : StreamId} {err : IoError} (reading : after.readers r = .checkClosed err) :
    after.faulted r = true := by
  have before : s.readers r = .checkClosed err → after.faulted r = true := fun reading =>
    taken.faulted_mono (sound.reading r err reading)
  cases taken with
  | call taken => exact before (taken.frame.readers ▸ reading)
  | closing taken => exact before (taken.frame.readers ▸ reading)
  | network taken => exact before (taken.frame.readers ▸ reading)
  | opening taken =>
    rcases taken.reader_kept r with same | ⟨new, _⟩
    · exact before (same ▸ reading)
    · rw [new] at reading
      cases reading
  | @reader moved _ _ taken =>
    by_cases same : r = moved
    · subst same
      cases taken with
      | headerFails _ _ ended => exact sound.ended r (by rw [ended]; rfl)
      | drain => exact before reading
      | readHeader | checkClosed =>
        simp only [Function.update_self] at reading
        split at reading <;> cases reading
      | readExtra | extraFails | lockPending | deliver | discard | drainedHeader | drainedExtra | lockWriter | takeWriter
      | unlockPending =>
        simp only [Function.update_self] at reading
        cases reading
    · exact before ((taken.frame.others r same).1 ▸ reading)

omit sound guarded in
/-- A step that publishes nothing leaves the newest stream the newest. -/
theorem Step.latest_kept : after.latest = s.latest ∨ (∃ o, action = .opening o .publish) ∧ after.latest = after.writer := by
  cases taken with
  | call taken => exact .inl taken.frame.latest
  | closing taken => exact .inl taken.frame.latest
  | reader taken => exact .inl taken.frame.latest
  | network taken => exact .inl taken.frame.latest
  | opening taken =>
    rcases taken.writer with ⟨_, same⟩ | ⟨_, rfl, _, _, atWriter, atLatest⟩
    · exact .inl same
    · exact .inr ⟨⟨_, rfl⟩, atLatest.trans atWriter.symm⟩

omit guarded in
theorem Sound.latest_step {stream : StreamId} (atWriter : after.writer = some stream) : after.latest = some stream := by
  rcases taken.latest_kept with same | ⟨_, newest⟩
  · rcases taken.writer_kept atWriter with before | ⟨o, rfl⟩
    · rw [same]
      exact sound.latest stream before
    · cases taken with
      | network taken => cases taken
      | opening taken => cases taken with | publish => exact atWriter
  · rw [newest]
    exact atWriter

omit sound guarded in
/-- A finished call stays as it is. -/
theorem Step.finished_kept {c : CallId} (finished : (s.calls c).finished = true) :
    after.calls c = s.calls c ∧ after.written c = s.written c := by
  cases taken with
  | opening taken => exact ⟨by rw [taken.frame.calls], by rw [taken.frame.written]⟩
  | closing taken => exact ⟨by rw [taken.frame.calls], by rw [taken.frame.written]⟩
  | reader taken => exact ⟨by rw [taken.frame.calls], by rw [taken.frame.written]⟩
  | network taken => exact ⟨by rw [taken.frame.calls], by rw [taken.frame.written]⟩
  | @call moved _ _ taken =>
    by_cases same : c = moved
    · subst same
      rw [taken.moving] at finished
      cases finished
    · exact ⟨(taken.frame.others c same).1, (taken.frame.others c same).2.2⟩

omit guarded in
theorem Sound.failed_step (reach : Reached config allowed s) {c : CallId} {outcome : Outcome CommandResult}
    {stream : StreamId} (returned : after.calls c = .returned outcome) (retry : retryable outcome = true)
    (written : after.written c = some stream) : after.faulted stream = true := by
  by_cases already : s.calls c = .returned outcome
  · rw [(taken.finished_kept (c := c) (by rw [already]; rfl)).2] at written
    exact taken.faulted_mono (sound.failed c outcome stream already retry written)
  · obtain ⟨_, rfl, call⟩ := taken.failsNow returned already
    obtain ⟨wrote, ⟨message, member, bad⟩ | lost⟩ := call.returned_written reach returned retry written
    · exact taken.faulted_mono (sound.told c message stream member bad wrote).1
    · exact (sound.not_lost lost).elim

include reach

/-- A call that is newly doomed has met a failed writer, or none. -/
theorem Sound.doomed_step {c : CallId} (doomed : after.Doomed c) {stream : StreamId}
    (atWriter : after.writer = some stream) : after.faulted stream = true := by
  have before : s.Doomed c → after.faulted stream = true := fun doomed =>
    sound.danger guarded taken (.inr (.inl ⟨c, doomed⟩)) atWriter
  cases taken with
  | opening taken => exact before (Quiet.doomed ⟨taken.frame.pending, taken.frame.channel⟩ taken.frame.calls doomed)
  | network taken => exact before (Quiet.doomed ⟨taken.frame.pending, taken.frame.channel⟩ taken.frame.calls doomed)
  | call taken =>
    rcases taken.doomed doomed with already | absent | ⟨written, writing, faulted⟩
    · exact before already
    · rw [taken.frame.writer, absent] at atWriter
      cases atWriter
    · rw [taken.frame.writer, writer_of_writing reach writing] at atWriter
      cases atWriter
      exact faulted
  | @closing k _ _ closing =>
    rcases closing.completes with quiet | ⟨_, _, atPc, _⟩
    · exact before (quiet.doomed closing.frame.calls doomed)
    · rw [sound.torn_step guarded (.closing closing) (k := k) (by rw [atPc]; rfl)] at atWriter
      cases atWriter
  | @reader r _ _ taken =>
    rcases taken.completes with quiet | ⟨header, data, _, _, completion, _⟩ | ⟨_, _, _, atPc, _⟩
    · exact before (quiet.doomed taken.frame.calls doomed)
    · rcases completion.doomed taken.frame.calls doomed with already | retry
      · exact before already
      · rw [retryable_decode] at retry
        cases retry
    · have step : Step config s _ after := .reader taken
      exact sound.danger guarded step (.inr (.inr (.inr ⟨r, by rw [atPc]; rfl⟩))) atWriter

theorem Sound.pressed_step (grows : alarm' → alarm ∨ FailsNow s after) (pressed : alarm' ∨ after.Troubled)
    (stream : StreamId) (atWriter : after.writer = some stream) : after.faulted stream = true := by
  rcases pressed with alarmed | ⟨c, doomed⟩ | ⟨k, coming⟩ | ⟨r, handling⟩
  · rcases grows alarmed with before | ⟨c, outcome, returned, retry, new⟩
    · exact sound.danger guarded taken (.inl before) atWriter
    · obtain ⟨_, _, call⟩ := taken.failsNow returned new
      rcases call.returned_retryable returned retry with closed | doomed | lost
      · exact sound.closed_danger guarded taken closed atWriter
      · exact sound.danger guarded taken (.inr (.inl ⟨c, doomed⟩)) atWriter
      · exact (sound.not_lost lost).elim
  · exact sound.doomed_step reach guarded taken doomed atWriter
  · rcases taken.coming coming with already | ⟨moved, rfl, _⟩
    · exact sound.danger guarded taken (.inr (.inr (.inl ⟨k, already⟩))) atWriter
    · exact sound.danger guarded taken (.inl (guarded.close moved rfl)) atWriter
  · exact sound.handling_step guarded taken handling atWriter

theorem Sound.pending_step {id : Id16} {c : CallId} {stream : StreamId} (entry : after.pending.lookup id = some c)
    (written : after.written c = some stream) :
    after.latest = some stream ∧ (after.writer = some stream ∨ after.faulted stream = true) := by
  -- a writer that has been cleared in the meantime was known to have failed
  have before : s.pending.lookup id = some c → s.written c = some stream → after.latest = s.latest →
      (s.writer = some stream → after.writer = some stream ∨ s.faulted stream = true) →
      after.latest = some stream ∧ (after.writer = some stream ∨ after.faulted stream = true) := by
    intro entry written latest cleared
    obtain ⟨newest, place⟩ := sound.pending id c stream entry written
    refine ⟨latest.trans newest, ?_⟩
    rcases place with atWriter | faulted
    · exact (cleared atWriter).imp_right taken.faulted_mono
    · exact .inr (taken.faulted_mono faulted)
  cases taken with
  | network taken =>
    have frame := taken.frame
    exact before (frame.pending ▸ entry) (frame.written ▸ written) frame.latest fun atWriter => .inl (frame.writer ▸ atWriter)
  | call taken =>
    have frame := taken.frame
    rcases taken.entry_written reach entry written with ⟨already, wrote⟩ | atWriter
    · exact before already wrote frame.latest fun atWriter => .inl (frame.writer ▸ atWriter)
    · exact ⟨frame.latest.trans (sound.latest stream atWriter), .inl (frame.writer ▸ atWriter)⟩
  | opening taken =>
    have frame := taken.frame
    rw [frame.pending] at entry
    rw [frame.written] at written
    rcases taken.writer with ⟨same, latest⟩ | ⟨_, rfl, _⟩
    · exact before entry written latest fun atWriter => .inl (same.trans atWriter)
    · have calm := (guarded.publish _ rfl).1
      rcases held_of_written reach entry (by rw [written]; rfl) with held | ⟨k, tearing⟩
      · rw [calm.writer] at held
        cases held
      · rw [calm.tearing k] at tearing
        cases tearing
  | @closing k _ _ taken =>
    have frame := taken.frame
    refine before (taken.entry entry) (frame.written ▸ written) frame.latest fun atWriter => ?_
    cases taken with
    | tookWriter atPc => exact .inr (sound.pressed (.inr (.inr (.inl ⟨k, by rw [atPc]; rfl⟩))) stream atWriter)
    | _ => exact .inl atWriter
  | @reader r _ _ taken =>
    have frame := taken.frame
    refine before (taken.entry entry) (frame.written ▸ written) frame.latest fun atWriter => ?_
    cases taken with
    | takeWriter atPc => exact .inr (sound.pressed (.inr (.inr (.inr ⟨r, by rw [atPc]; rfl⟩))) stream atWriter)
    | _ => exact .inl atWriter

theorem Sound.told_step {c : CallId} {message : Message} {stream : StreamId} (member : message ∈ after.channel c)
    (retry : retryable message.result = true) (written : after.written c = some stream) :
    after.faulted stream = true ∧ ((after.calls c).finished = false → after.latest = some stream) := by
  have before : message ∈ s.channel c → s.written c = some stream →
      after.faulted stream = true ∧ ((after.calls c).finished = false → after.latest = some stream) := by
    intro member written
    obtain ⟨faulted, newest⟩ := sound.told c message stream member retry written
    refine ⟨taken.faulted_mono faulted, fun unfinished => ?_⟩
    have waiting : (s.calls c).finished = false := by
      rw [Bool.eq_false_iff]
      intro finished
      rw [(taken.finished_kept finished).1, finished] at unfinished
      cases unfinished
    rcases taken.latest_kept with same | ⟨⟨o, rfl⟩, _⟩
    · rw [same]
      exact newest waiting
    · exact absurd (.inl ⟨c, .inr ⟨waiting, message, member, retry⟩⟩) (guarded.publish o rfl).1.untroubled
  cases taken with
  | opening taken => exact before (taken.frame.channel ▸ member) (taken.frame.written ▸ written)
  | network taken => exact before (taken.frame.channel ▸ member) (taken.frame.written ▸ written)
  | @call moved _ _ taken =>
    have frame := taken.frame
    rw [frame.channel] at member
    by_cases same : c = moved
    · subst same
      rcases taken.written written with wrote | writing
      · exact before member wrote
      · have atWriter := writer_of_writing reach writing
        have faulted := sound.pressed (.inr (.inl ⟨c, .inr ⟨taken.moving, message, member, retry⟩⟩)) stream atWriter
        have step : Step config s _ after := .call taken
        exact ⟨step.faulted_mono faulted, fun _ => frame.latest.trans (sound.latest stream atWriter)⟩
    · exact before member ((frame.others c same).2.2 ▸ written)
  | @closing k _ _ taken =>
    have frame := taken.frame
    rw [frame.written] at written
    rcases taken.completes with quiet | ⟨_, _, atPc, completion⟩
    · exact before (quiet.channel ▸ member) written
    · rcases completion.received member with old | ⟨rfl, _⟩
      · exact before old written
      · have torn := sound.torn k (by rw [atPc]; rfl)
        obtain ⟨faulted, newest⟩ := sound.completed completion written
          fun atWriter => absurd atWriter (by rw [torn]; nofun)
        exact ⟨frame.faulted ▸ faulted, fun _ => frame.latest.trans newest⟩
  | @reader r _ _ taken =>
    have frame := taken.frame
    rw [frame.written] at written
    rcases taken.completes with quiet | ⟨header, data, _, _, completion, _⟩ | ⟨_, _, _, atPc, completion, _⟩
    · exact before (quiet.channel ▸ member) written
    · rcases completion.received member with old | ⟨_, rfl⟩
      · exact before old written
      · rw [retryable_decode] at retry
        cases retry
    · rcases completion.received member with old | ⟨rfl, _⟩
      · exact before old written
      · have pressed := sound.pressed (.inr (.inr (.inr ⟨r, by rw [atPc]; rfl⟩)))
        obtain ⟨faulted, newest⟩ := sound.completed completion written (pressed stream)
        exact ⟨frame.faulted ▸ faulted, fun _ => frame.latest.trans newest⟩

omit reach in
theorem Sound.tracked_step {c : CallId} {encoded : EncodedCommand}
    (registered : (after.calls c).registered = true) (atEncoded : (after.calls c).encoded = some encoded) :
    after.Tracks c encoded := by
  rcases taken.tracks (sound.tracked c encoded) registered atEncoded with
    tracks | ⟨moved, _, mine, _, apart, _, still, atMine, same⟩
  · exact tracks
  · exact absurd (guarded.apart moved c mine encoded atMine still same) apart

end Kept

omit config allowed s after action in
/-- Fewer alarms, fewer dangers. -/
theorem Sound.weaken {s : State} (sound : Sound alarm s) (fewer : alarm' → alarm) : Sound alarm' s :=
  { sound with pressed := fun pressed => sound.pressed (pressed.imp_left fewer) }

/-- A call that has begun is never idle again. -/
theorem Step.busy (taken : Step config s action after) {c : CallId} (busy : s.calls c ≠ .idle) : after.calls c ≠ .idle := by
  cases taken with
  | opening taken => rw [taken.frame.calls]; exact busy
  | closing taken => rw [taken.frame.calls]; exact busy
  | reader taken => rw [taken.frame.calls]; exact busy
  | network taken => rw [taken.frame.calls]; exact busy
  | @call moved _ _ taken =>
    by_cases same : c = moved
    · subst same
      exact taken.busy
    · rw [(taken.frame.others c same).1]
      exact busy

/-- A `close` that has begun is never idle again. -/
theorem Step.close_busy (taken : Step config s action after) {k : CloseId} (busy : s.closes k ≠ .idle) :
    after.closes k ≠ .idle := by
  cases taken with
  | call taken => rw [taken.frame.closes]; exact busy
  | opening taken => rw [taken.frame.closes]; exact busy
  | reader taken => rw [taken.frame.closes]; exact busy
  | network taken => rw [taken.frame.closes]; exact busy
  | @closing moved _ _ taken =>
    by_cases same : k = moved
    · subst same
      exact taken.busy
    · rw [taken.frame.others k same]
      exact busy

/-- What is sound stays sound: an alarm is raised only by a call that fails. -/
theorem Sound.step (sound : Sound alarm s) (reach : Reached config allowed s) (guarded : Guarded alarm s action)
    (taken : Step config s action after) (grows : alarm' → alarm ∨ FailsNow s after) : Sound alarm' after where
  pressed := sound.pressed_step reach guarded taken grows
  closed closed _ := sound.closed_step guarded taken closed
  torn _ := sound.tearing_step guarded taken
  shut _ _ := sound.shut_step taken
  ended _ := sound.ended_step taken
  reading _ _ := sound.reading_step taken
  latest _ := sound.latest_step taken
  pending _ _ _ := sound.pending_step reach guarded taken
  told _ _ _ := sound.told_step reach guarded taken
  failed _ _ _ := sound.failed_step taken reach
  tracked _ _ := sound.tracked_step guarded taken

/-- A call that fails in this step has failed on the newest stream. -/
theorem Sound.newest (sound : Sound alarm s) (reach : Reached config allowed s) (taken : Step config s action after)
    {c : CallId} {outcome : Outcome CommandResult} {stream : StreamId} (returned : after.calls c = .returned outcome)
    (new : s.calls c ≠ .returned outcome) (retry : retryable outcome = true) (written : after.written c = some stream) :
    after.latest = some stream := by
  obtain ⟨_, rfl, call⟩ := taken.failsNow returned new
  rw [call.frame.latest]
  obtain ⟨wrote, ⟨message, member, bad⟩ | lost⟩ := call.returned_written reach returned retry written
  · exact (sound.told c message stream member bad wrote).2 call.moving
  · exact (sound.not_lost lost).elim

end Rules

end Ruslock.Connection
