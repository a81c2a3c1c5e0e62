import Ruslock.ConnectionPending

namespace Ruslock.Connection
open Transition Wire

/-- A reader that goes on reading its stream. -/
def ReaderPc.running : ReaderPc → Bool
  | .readHeader => true
  | .readExtra _ => true
  | .lockPending (.deliver _ _) => true
  | .inPending (.deliver _ _) => true
  | _ => false

/-- A reader between the failure of a read and its end. -/
def ReaderPc.inFailure : ReaderPc → Bool
  | .checkClosed _ => true
  | .lockPending (.drain _) => true
  | .inPending (.drain _) => true
  | .lockWriter => true
  | .inWriter => true
  | .unlockPending => true
  | _ => false

def ReaderPc.gone : ReaderPc → Bool
  | .exited => true
  | _ => false

theorem ReaderPc.gone_iff {pc : ReaderPc} : pc.gone = true ↔ pc = .exited := by
  cases pc <;> simp [ReaderPc.gone]

/-- A `close` that has set the flag and has yet to empty the pending map. -/
def ClosePc.underway : ClosePc → Bool
  | .lockWriter => true
  | .inWriter => true
  | .shutdown _ => true
  | .lockPending => true
  | .inPending => true
  | _ => false

def State.Closing (s : State) : Prop := ∃ k, (s.closes k).underway = true

/-- The reader of the stream is running, or the `open` that has stored the
stream is about to start it. -/
def State.Listening (s : State) (stream : StreamId) : Prop :=
  (s.readers stream).running = true ∨ ∃ o, s.opens o = .spawn stream

/-- A reader that leaves without clearing the writer leaves nobody behind: its
stream is not the writer, and a `close` takes care of the requests on it. -/
def Attended (s : State) : Action → Prop
  | .reader r .checkClosed =>
    s.closed = true → s.writer ≠ some r ∧
      ∀ id c, s.pending.lookup id = some c → s.written c = some r → s.Closing
  | .reader r .drained => s.readers r = .inPending (.drain .extraData) → s.writer ≠ some r
  | _ => True

structure Attendance (s : State) : Prop where
  writer : ∀ stream, s.writer = some stream → s.readers stream ≠ .exited ∧ s.readers stream ≠ .unlockPending
  answered : ∀ id c stream, s.pending.lookup id = some c → s.written c = some stream →
    s.readers stream ≠ .exited ∨ s.Closing

theorem Attendance.new : Attendance State.new where
  writer _ atWriter := nomatch atWriter
  answered _ _ _ entry := nomatch entry

/-- A `close` that is under way stays so until it has emptied the pending map. -/
theorem CloseStep.underway {config : Config} {s after : State} {k : CloseId} {action : CloseAction}
    (taken : CloseStep config s k action after) (closing : s.Closing) :
    after.Closing ∨ ∀ id, after.pending.lookup id = none := by
  obtain ⟨other, underway⟩ := closing
  by_cases same : other = k
  · subst same
    cases taken with
    | finish _ empty => exact .inr (lookup_of_entries_nil empty)
    | drain => exact .inl ⟨other, underway⟩
    | start atPc | storeClosed atPc =>
      rw [atPc] at underway
      cases underway
    | lockWriter | noWriter | tookWriter | shutdown | lockPending =>
      refine .inl ⟨other, ?_⟩
      simp only [Function.update_self]
      rfl
  · exact .inl ⟨other, by rw [taken.frame.others other same]; exact underway⟩

/-- The three ways out of the reader's loop. -/
theorem ReaderStep.exited {s after : State} {r : StreamId} {action : ReaderAction}
    (taken : ReaderStep s r action after) (exited : after.readers r = .exited) :
    (action = .checkClosed ∧ s.closed = true ∧ after.pending = s.pending) ∨
      (action = .drained ∧ s.readers r = .inPending (.drain .extraData) ∧ ∀ id, s.pending.lookup id = none) ∨
      s.readers r = .unlockPending := by
  cases taken with
  | checkClosed =>
    simp only [Function.update_self] at exited
    split at exited
    · exact .inl ⟨rfl, by assumption, rfl⟩
    · cases exited
  | drainedExtra atPc empty => exact .inr (.inl ⟨rfl, atPc, lookup_of_entries_nil empty⟩)
  | unlockPending atPc => exact .inr (.inr atPc)
  | drain atPc => cases atPc.symm.trans exited
  | readHeader =>
    simp only [Function.update_self] at exited
    split at exited <;> cases exited
  | headerFails | readExtra | extraFails | lockPending | deliver | discard | drainedHeader | lockWriter | takeWriter =>
    simp only [Function.update_self] at exited
    cases exited

section Steps

variable {config : Config} {allowed : State → Action → Prop} {s after : State}

theorem Attendance.callStep {c : CallId} {action : CallAction} (attendance : Attendance s)
    (reach : Reached config allowed s) (taken : CallStep config s c action after) : Attendance after := by
  have frame := taken.frame
  constructor
  · rw [frame.writer, frame.readers]; exact attendance.writer
  · unfold State.Closing
    rw [frame.readers, frame.closes]
    intro id owner stream entry written
    rcases taken.entry_written reach entry written with ⟨before, already⟩ | atWriter
    · exact attendance.answered id owner stream before already
    · exact .inl (attendance.writer stream atWriter).1

theorem Attendance.openStep {o : OpenId} {action : OpenAction} (attendance : Attendance s) (streams : Streams s)
    (taken : OpenStep config s o action after) : Attendance after := by
  have frame := taken.frame
  constructor
  · intro stream atWriter
    have before : s.readers stream ≠ .exited ∧ s.readers stream ≠ .unlockPending := by
      rcases taken.writer with ⟨same, _⟩ | ⟨published, _, atPc, _, new, _⟩
      · exact attendance.writer stream (same ▸ atWriter)
      · cases atWriter.symm.trans new
        rw [(streams.owned o stream (by rw [atPc]; rfl)).2]
        exact ⟨nofun, nofun⟩
    rcases taken.reader_kept stream with same | ⟨new, _⟩
    · rw [same]; exact before
    · rw [new]; exact ⟨nofun, nofun⟩
  · unfold State.Closing
    rw [frame.pending, frame.written, frame.closes]
    intro id c stream entry written
    rcases taken.reader_kept stream with same | ⟨new, _⟩
    · rw [same]; exact attendance.answered id c stream entry written
    · rw [new]; exact .inl nofun

theorem Attendance.closeStep {k : CloseId} {action : CloseAction} (attendance : Attendance s)
    (taken : CloseStep config s k action after) : Attendance after := by
  have frame := taken.frame
  constructor
  · rw [frame.readers]
    exact fun stream atWriter => attendance.writer stream (taken.writer_kept atWriter)
  · rw [frame.readers, frame.written]
    intro id c stream entry written
    rcases attendance.answered id c stream (taken.entry entry) written with alive | closing
    · exact .inl alive
    · rcases taken.underway closing with closing | empty
      · exact .inr closing
      · rw [empty id] at entry
        cases entry

theorem Attendance.readerStep {r : StreamId} {action : ReaderAction} (attendance : Attendance s)
    (reach : Reached config allowed s) (meets : Attended s (.reader r action)) (taken : ReaderStep s r action after) :
    Attendance after := by
  have frame := taken.frame
  constructor
  · intro stream atWriter
    have before := attendance.writer stream (taken.writer_kept atWriter)
    by_cases same : stream = r
    · subst same
      constructor
      · intro exited
        rcases taken.exited exited with ⟨rfl, closed, _⟩ | ⟨rfl, atPc, _⟩ | atPc
        · exact (meets closed).1 (taken.writer_kept atWriter)
        · exact meets atPc (taken.writer_kept atWriter)
        · exact before.2 atPc
      · intro unlocking
        rw [taken.unlocking unlocking] at atWriter
        cases atWriter
    · rw [(frame.others stream same).1]
      exact before
  · unfold State.Closing
    rw [frame.written, frame.closes]
    intro id c stream entry written
    have before := taken.entry entry
    rcases attendance.answered id c stream before written with alive | closing
    · by_cases same : stream = r
      · subst same
        by_cases exited : after.readers stream = .exited
        · rcases taken.exited exited with ⟨rfl, closed, _⟩ | ⟨_, _, empty⟩ | atPc
          · exact .inr ((meets closed).2 id c before written)
          · rw [empty id] at before
            cases before
          · rw [empty_of_emptied reach (by rw [atPc]; rfl) id] at before
            cases before
        · exact .inl exited
      · rw [(frame.others stream same).1]
        exact .inl alive
    · exact .inr closing

theorem Attendance.step {action : Action} (attendance : Attendance s) (reach : Reached config allowed s)
    (meets : Attended s action) (taken : Step config s action after) : Attendance after := by
  cases taken with
  | call taken => exact attendance.callStep reach taken
  | opening taken => exact attendance.openStep (.of_reach reach) taken
  | closing taken => exact attendance.closeStep taken
  | reader taken => exact attendance.readerStep reach meets taken
  | network taken =>
    have frame := taken.frame
    constructor
    · rw [frame.writer, frame.readers]; exact attendance.writer
    · unfold State.Closing
      rw [frame.pending, frame.written, frame.readers, frame.closes]
      exact attendance.answered

end Steps

theorem Attendance.of_reach {config : Config} {s : State} (reach : Reached config Attended s) : Attendance s :=
  reach.invariant .new fun _ _ _ previous attendance meets run => attendance.step previous meets (.of_run run)

/-- A connection that looks open has somebody who reads its responses. -/
structure LiveReader (config : Config) (s : State) : Prop where
  listening : (∀ r, (s.readers r).inFailure = false) → ∀ stream, s.writer = some stream → s.Listening stream
  /-- An `open` that returns early returns to a connection with a reader. -/
  early : (∀ r, (s.readers r).inFailure = false) → ∀ o after, step config s (.opening o .findWriter) = some after →
    after.opens o = .returned (.ok ()) → ∃ stream, after.writer = some stream ∧ after.Listening stream
  /-- A request that waits on a stream has its completion, has lost its entry,
  or has somebody left who will complete it. -/
  answered : ∀ c encoded stream, s.calls c = .waiting encoded → s.written c = some stream →
    s.channel c ≠ [] ∨ (∀ entry ∈ s.pending.entries, entry.2 ≠ c) ∨ s.readers stream ≠ .exited ∨ s.Closing

/-- A reader that was started, has not left and has met no failure goes on reading. -/
theorem ReaderPc.running_of_calm {pc : ReaderPc} (started : pc ≠ .idle) (alive : pc ≠ .exited)
    (calm : pc.inFailure = false) : pc.running = true := by
  cases pc with
  | idle => exact absurd rfl started
  | exited => exact absurd rfl alive
  | readHeader | readExtra => rfl
  | lockPending use | inPending use =>
    cases use with
    | deliver => rfl
    | drain => cases calm
  | checkClosed | lockWriter | inWriter | unlockPending => cases calm

theorem Attendance.listening {s : State} {stream : StreamId} (attendance : Attendance s) (streams : Streams s)
    (calm : (s.readers stream).inFailure = false) (atWriter : s.writer = some stream) : s.Listening stream := by
  rcases streams.writer stream atWriter with started | spawning
  · exact .inl (ReaderPc.running_of_calm started (attendance.writer stream atWriter).1 calm)
  · exact .inr spawning

theorem liveReader_of_attended {config : Config} {s : State} (reach : Reached config Attended s) :
    LiveReader config s := by
  have attendance := Attendance.of_reach reach
  have listening : (∀ r, (s.readers r).inFailure = false) → ∀ stream, s.writer = some stream → s.Listening stream :=
    fun calm stream => attendance.listening (.of_reach reach) (calm stream)
  constructor
  · exact listening
  · intro calm o after run returned
    cases Step.of_run run with
    | network taken => cases taken
    | opening taken =>
      cases taken with
      | findWriter atPc =>
        simp only [Function.update_self] at returned
        cases atWriter : s.writer with
        | none =>
          rw [atWriter] at returned
          cases returned
        | some stream =>
          refine ⟨stream, rfl, ?_⟩
          rcases listening calm stream atWriter with running | ⟨o', spawning⟩
          · exact .inl running
          · refine .inr ⟨o', ?_⟩
            have apart : o' ≠ o := by
              rintro rfl
              cases atPc.symm.trans spawning
            simp only [Function.update_of_ne apart]
            exact spawning
  · intro c encoded stream _ written
    by_cases registered : ∀ entry ∈ s.pending.entries, entry.2 ≠ c
    · exact .inr (.inl registered)
    · push Not at registered
      obtain ⟨⟨id, _⟩, member, rfl⟩ := registered
      exact .inr (.inr (attendance.answered id _ stream (AList.mem_lookup_iff.mpr member) written))

/-- A connection whose header read fails while it is open. -/
def resetConnection : List Action :=
  openActions 0 0 ++
    [.socketEnds 0 ⟨.connectionReset, "connection reset by peer"⟩, .reader 0 .headerFails, .reader 0 .checkClosed,
      .reader 0 .lockPending, .reader 0 .drained, .reader 0 .lockWriter, .reader 0 .takeWriter,
      .reader 0 .unlockPending]

theorem liveReader_resetConnection : ∃ s : State, s.writer = none ∧ LiveReader ⟨.aio, ""⟩ s := by
  have meets : RunAllowed (step ⟨.aio, ""⟩) Attended State.new resetConnection :=
    ⟨trivial, trivial, trivial, trivial, trivial, trivial, trivial, trivial, trivial, trivial, trivial, trivial, trivial,
      trivial, trivial, fun ended => (by cases ended), trivial, fun ended => (by cases ended), trivial, trivial,
      trivial, trivial⟩
  have executed : (run (step ⟨.aio, ""⟩) State.new resetConnection).any
      (fun s => (s.readers 0).gone ∧ s.writer = none) = true := by decide
  obtain ⟨s, reach, found⟩ := Reach.exists_of_run meets executed
  exact ⟨s, (of_decide_eq_true found).2, liveReader_of_attended reach⟩

/-- The socket ends after the header of a response that announces extra data. -/
def cutExtraData : List Action :=
  openActions 0 0 ++
    [.receive 0 ((commandHeader commandTypeLock ⟨Block.zero 16⟩).set 20 lockFlagContainsData).toList,
      .reader 0 .readHeader, .socketEnds 0 ⟨.connectionReset, "connection reset by peer"⟩, .reader 0 .extraFails,
      .reader 0 .lockPending, .reader 0 .drained]

/-- The reader is gone, and the connection looks open. -/
theorem cutExtraData_not_liveReader : ¬ ∀ config s, Reached config Always s → LiveReader config s := by
  intro claim
  have meets : RunAllowed (step ⟨.blocking, ""⟩) (OnlyStream 0) State.new cutExtraData := by
    refine .of_forall (fun action member s => ?_) State.new
    revert action
    simp [cutExtraData, openActions, OnlyStream]
  have executed : (run (step ⟨.blocking, ""⟩) State.new cutExtraData).any
      (fun s => s.writer = some 0 ∧ (s.readers 0).gone) = true := by decide
  obtain ⟨s, reach, found⟩ := Reach.exists_of_run meets executed
  obtain ⟨atWriter, gone⟩ := of_decide_eq_true found
  have exited := ReaderPc.gone_iff.mp gone
  have calm : ∀ r, (s.readers r).inFailure = false := by
    intro r
    by_cases here : r = 0
    · rw [here, exited]
      rfl
    · rw [idle_of_onlyStream reach here]
      rfl
  rcases (claim _ s reach.always).listening calm 0 atWriter with running | ⟨o, spawning⟩
  · rw [exited] at running
    cases running
  · have idle := ((Streams.of_reach reach).owned o 0 (by rw [spawning]; rfl)).2
    cases exited.symm.trans idle

end Ruslock.Connection
