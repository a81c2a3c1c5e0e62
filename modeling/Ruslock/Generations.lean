import Ruslock.ConnectionPending

namespace Ruslock.Connection
open Transition Wire

/-- The steps at which the generations of a connection stay apart: a stream is
published when no failure is being handled and no written request is still
pending, only the reader of the newest stream starts to handle a failure, and
it fails requests when every registered frame has been written. -/
def Separated (s : State) : Action → Prop
  | .opening _ .publish =>
    (∀ r, (s.readers r).handling = false) ∧ ∀ id c, s.pending.lookup id = some c → s.written c = none
  | .reader r .checkClosed => s.closed = false → s.latest = some r
  | .reader r .extraFails => s.latest = some r
  | .reader r .lockPending =>
    (∃ failure, s.readers r = .lockPending (.drain failure)) →
      ∀ id c, s.pending.lookup id = some c → (s.written c).isSome = true
  | _ => True

/-- Everything that is in use belongs to the newest stream. -/
structure Generations (s : State) : Prop where
  writer : ∀ stream, s.writer = some stream → s.latest = some stream
  handling : ∀ r, (s.readers r).handling = true → s.latest = some r
  pending : ∀ id c stream, s.pending.lookup id = some c → s.written c = some stream → s.latest = some stream
  draining : ∀ r failure, s.readers r = .inPending (.drain failure) →
    ∀ id c, s.pending.lookup id = some c → (s.written c).isSome = true

theorem Generations.new : Generations State.new where
  writer _ at' := nomatch at'
  handling _ at' := nomatch at'
  pending _ _ _ _ at' := nomatch at'
  draining _ _ at' := nomatch at'

/-- A reader that fails requests took the mutex for it. -/
theorem ReaderStep.draining {s after : State} {r : StreamId} {action : ReaderAction} {failure : ReadError}
    (taken : ReaderStep s r action after) (draining : after.readers r = .inPending (.drain failure)) :
    s.readers r = .inPending (.drain failure) ∨
      action = .lockPending ∧ s.readers r = .lockPending (.drain failure) ∧ after.pending = s.pending := by
  cases taken with
  | lockPending atPc =>
    simp only [Function.update_self] at draining
    cases draining
    exact .inr ⟨rfl, atPc, rfl⟩
  | drain => exact .inl draining
  | readHeader | checkClosed =>
    simp only [Function.update_self] at draining
    split at draining <;> cases draining
  | headerFails | readExtra | extraFails | deliver | discard | drainedHeader | drainedExtra | lockWriter | takeWriter
  | unlockPending =>
    simp only [Function.update_self] at draining
    cases draining

section Steps

variable {config : Config} {allowed : State → Action → Prop} {s after : State}

theorem Generations.callStep {c : CallId} {action : CallAction} (generations : Generations s)
    (reach : Reached config allowed s) (taken : CallStep config s c action after) : Generations after := by
  have frame := taken.frame
  constructor
  · rw [frame.writer, frame.latest]; exact generations.writer
  · rw [frame.readers, frame.latest]; exact generations.handling
  · intro id owner stream entry written
    rw [frame.latest]
    rcases taken.entry_written reach entry written with ⟨before, already⟩ | atWriter
    · exact generations.pending id owner stream before already
    · exact generations.writer stream atWriter
  · intro r failure draining id owner entry
    rw [frame.readers] at draining
    rcases taken.entry entry with before | ⟨encoded, atPc, _⟩
    · exact taken.written_mono owner (generations.draining r failure draining id owner before)
    · exact absurd atPc ((Locks.of_reach reach).not_inPending (by rw [draining]; rfl))

theorem Generations.openStep {o : OpenId} {action : OpenAction} (generations : Generations s)
    (meets : Separated s (.opening o action)) (taken : OpenStep config s o action after) : Generations after := by
  have frame := taken.frame
  have handling : ∀ r, (after.readers r).handling = true → (s.readers r).handling = true := by
    intro r handling
    rcases taken.reader_kept r with same | ⟨new, _⟩
    · rw [← same]; exact handling
    · rw [new] at handling
      cases handling
  have draining : ∀ r failure, after.readers r = .inPending (.drain failure) →
      ∀ id c, after.pending.lookup id = some c → (after.written c).isSome = true := by
    intro r failure draining
    rw [frame.pending, frame.written]
    rcases taken.reader_kept r with same | ⟨new, _⟩
    · exact generations.draining r failure (same.symm.trans draining)
    · cases new.symm.trans draining
  rcases taken.writer with ⟨writer, latest⟩ | ⟨stream, rfl, _, _, writer, latest⟩
  · constructor
    · rw [writer, latest]; exact generations.writer
    · rw [latest]; exact fun r busy => generations.handling r (handling r busy)
    · rw [frame.pending, frame.written, latest]; exact generations.pending
    · exact draining
  · obtain ⟨calm, settled⟩ := meets
    constructor
    · rw [writer, latest]; exact fun _ at' => at'
    · intro r busy
      have before := handling r busy
      rw [calm r] at before
      cases before
    · rw [frame.pending, frame.written]
      intro id c stream' entry written
      rw [settled id c entry] at written
      cases written
    · exact draining

theorem Generations.closeStep {k : CloseId} {action : CloseAction} (generations : Generations s)
    (taken : CloseStep config s k action after) : Generations after := by
  have frame := taken.frame
  constructor
  · rw [frame.latest]
    exact fun stream at' => generations.writer stream (taken.writer_kept at')
  · rw [frame.readers, frame.latest]; exact generations.handling
  · rw [frame.written, frame.latest]
    exact fun id c stream entry => generations.pending id c stream (taken.entry entry)
  · rw [frame.readers, frame.written]
    exact fun r failure draining id c entry => generations.draining r failure draining id c (taken.entry entry)

theorem Generations.readerStep {r : StreamId} {action : ReaderAction} (generations : Generations s)
    (meets : Separated s (.reader r action)) (taken : ReaderStep s r action after) : Generations after := by
  have frame := taken.frame
  constructor
  · rw [frame.latest]
    exact fun stream at' => generations.writer stream (taken.writer_kept at')
  · rw [frame.latest]
    intro other handling
    by_cases same : other = r
    · subst same
      rcases taken.handling handling with before | ⟨rfl, opened⟩ | rfl
      · exact generations.handling other before
      · exact meets opened
      · exact meets
    · rw [(frame.others other same).1] at handling
      exact generations.handling other handling
  · rw [frame.written, frame.latest]
    exact fun id c stream entry => generations.pending id c stream (taken.entry entry)
  · rw [frame.written]
    intro other failure draining id c entry
    have before := taken.entry entry
    by_cases same : other = r
    · subst same
      rcases taken.draining draining with already | ⟨rfl, atPc, _⟩
      · exact generations.draining other failure already id c before
      · exact meets ⟨failure, atPc⟩ id c before
    · rw [(frame.others other same).1] at draining
      exact generations.draining other failure draining id c before

theorem Generations.step {action : Action} (generations : Generations s) (reach : Reached config allowed s)
    (meets : Separated s action) (taken : Step config s action after) : Generations after := by
  cases taken with
  | call taken => exact generations.callStep reach taken
  | opening taken => exact generations.openStep meets taken
  | closing taken => exact generations.closeStep taken
  | reader taken => exact generations.readerStep meets taken
  | network taken =>
    have frame := taken.frame
    constructor
    · rw [frame.writer, frame.latest]; exact generations.writer
    · rw [frame.readers, frame.latest]; exact generations.handling
    · rw [frame.pending, frame.written, frame.latest]; exact generations.pending
    · rw [frame.readers, frame.pending, frame.written]; exact generations.draining

end Steps

theorem Generations.of_reach {config : Config} {s : State} (reach : Reached config Separated s) : Generations s :=
  reach.invariant .new fun _ _ _ previous generations meets run =>
    generations.step previous meets (.of_run run)

/-- The failure handling of a reader touches its own connection only. -/
structure Isolated (config : Config) (s : State) : Prop where
  /-- Every request that a reader fails has its frame on the stream of the reader. -/
  fails : ∀ r id c after, s.pending.lookup id = some c → step config s (.reader r (.drain id)) = some after →
    s.written c = some r
  /-- The writer that a reader clears is the one of its stream. -/
  clears : ∀ r after, step config s (.reader r .takeWriter) = some after → s.writer = none ∨ s.writer = some r

theorem isolated_of_separated {config : Config} {s : State} (reach : Reached config Separated s) :
    Isolated config s := by
  have generations := Generations.of_reach reach
  constructor
  · intro r id c after entry run
    cases Step.of_run run with
    | network taken => cases taken
    | reader taken =>
      cases taken with
      | @drain failure _ _ atPc =>
        have newest := generations.handling r (by rw [atPc]; rfl)
        obtain ⟨stream, written⟩ := Option.isSome_iff_exists.mp (generations.draining r failure atPc id c entry)
        rw [written, ← generations.pending id c stream entry written, newest]
  · intro r after run
    cases Step.of_run run with
    | network taken => cases taken
    | reader taken =>
      cases taken with
      | takeWriter atPc =>
        have newest := generations.handling r (by rw [atPc]; rfl)
        cases atWriter : s.writer with
        | none => exact .inl rfl
        | some stream =>
          rw [← newest, ← generations.writer stream atWriter]
          exact .inr rfl

def ReaderPc.draining : ReaderPc → Bool
  | .inPending (.drain _) => true
  | _ => false

/-- A written ping whose connection is reset. -/
def resetPing : List Action :=
  openActions 0 0 ++ registerActions 0 ⟨Block.ofNatLE 16 7⟩ ++ writeActions 0 ++
    [.socketEnds 0 ⟨.connectionReset, "connection reset by peer"⟩, .reader 0 .headerFails, .reader 0 .checkClosed,
      .reader 0 .lockPending]

theorem isolated_resetPing : ∃ s : State, (s.readers 0).draining = true ∧ Isolated ⟨.blocking, ""⟩ s := by
  have meets : RunAllowed (step ⟨.blocking, ""⟩) Separated State.new resetPing := by
    refine ⟨trivial, trivial, trivial, trivial, trivial, trivial, trivial, trivial, trivial, trivial, trivial,
      ⟨fun _ => rfl, fun _ _ entry => by cases entry⟩, trivial, trivial, trivial, trivial, trivial, trivial, trivial,
      trivial, trivial, trivial, trivial, fun _ => rfl, ?_, trivial⟩
    rintro - id c entry
    change (AList.insert ⟨Block.ofNatLE 16 7⟩ 0 ∅ : AList fun _ : Id16 => CallId).lookup id = some c at entry
    have owner : c = 0 := by
      by_cases same : id = ⟨Block.ofNatLE 16 7⟩
      · rw [same, AList.lookup_insert] at entry
        exact (Option.some.inj entry).symm
      · rw [AList.lookup_insert_ne same] at entry
        cases entry
    rw [owner]
    rfl
  have executed : (run (step ⟨.blocking, ""⟩) State.new resetPing).any (fun s => (s.readers 0).draining) = true := by
    decide
  obtain ⟨s, reach, draining⟩ := Reach.exists_of_run meets executed
  exact ⟨s, draining, isolated_of_separated reach⟩

/-- A close and a new `open` while the first reader has yet to notice the end
of its socket: it passes the closed check that the new `open` has reset, and
holds the pending map of the new connection. -/
def lateReader : List Action :=
  openActions 0 0 ++
    [.closing 0 .start, .closing 0 .storeClosed, .closing 0 .lockWriter, .closing 0 .takeWriter, .closing 0 .shutdown,
      .closing 0 .lockPending, .closing 0 .finish] ++
    openActions 1 1 ++ registerActions 0 ⟨Block.ofNatLE 16 7⟩ ++ writeActions 0 ++
    [.reader 0 .headerFails, .reader 0 .checkClosed, .reader 0 .lockPending]

theorem lateReader_not_isolated : ¬ ∀ config s, Reached config Always s → Isolated config s := by
  intro claim
  have executed : (run (step ⟨.blocking, ""⟩) State.new lateReader).any (fun s =>
      s.pending.lookup ⟨Block.ofNatLE 16 7⟩ = some 0 ∧ s.written 0 = some 1 ∧
        (step ⟨.blocking, ""⟩ s (.reader 0 (.drain ⟨Block.ofNatLE 16 7⟩))).isSome) = true := by decide
  obtain ⟨s, reach, found⟩ := Reach.exists_of_run (runAllowed_always ..) executed
  obtain ⟨entry, written, enabled⟩ := of_decide_eq_true found
  obtain ⟨after, run⟩ := Option.isSome_iff_exists.mp enabled
  have own := (claim _ s reach).fails 0 _ 0 after entry run
  rw [written] at own
  cases own

end Ruslock.Connection
