import Ruslock.ConnectionLocks

namespace Ruslock.Connection
open Transition Wire

inductive MutexName
  | writer
  | pending
  deriving DecidableEq

/-- The mutex that a party is blocked on. -/
def State.waitsFor (s : State) : Party → Option MutexName
  | .call c =>
    match s.calls c with
    | .lockPending _ _ => some .pending
    | .lockWriter _ => some .writer
    | _ => none
  | .opening o =>
    match s.opens o with
    | .lockWriter => some .writer
    | .lockPublish _ => some .writer
    | _ => none
  | .closing k =>
    match s.closes k with
    | .lockWriter => some .writer
    | .lockPending => some .pending
    | _ => none
  | .reader r =>
    match s.readers r with
    | .lockPending _ => some .pending
    | .lockWriter => some .writer
    | _ => none

/-- A cycle: the first party holds the writer mutex and waits for the pending
mutex, the second the other way round. -/
def State.CycleOf (s : State) (first second : Party) : Prop :=
  s.holdsWriter first = true ∧ s.waitsFor first = some .pending ∧
    s.holdsPending second = true ∧ s.waitsFor second = some .writer

instance (s : State) (first second : Party) : Decidable (s.CycleOf first second) :=
  inferInstanceAs (Decidable (_ ∧ _ ∧ _ ∧ _))

def State.Deadlock (s : State) : Prop := ∃ first second, s.CycleOf first second

/-- A call that found no writer and waits for the pending mutex with the
writer mutex in its hand. -/
def CallPc.refusing : CallPc → Bool
  | .lockPending _ (.remove .notConnected) => true
  | _ => false

/-- A reader that fails requests after a header error and has yet to take the writer. -/
def ReaderPc.failing : ReaderPc → Bool
  | .inPending (.drain (.header _)) => true
  | .lockWriter => true
  | _ => false

/-- Only a refused call waits for the pending mutex under the writer mutex. -/
theorem State.refusing_of_cycle {s : State} {party : Party} (holds : s.holdsWriter party = true)
    (waits : s.waitsFor party = some .pending) : ∃ c, party = .call c ∧ (s.calls c).refusing = true := by
  cases party with
  | call c =>
    refine ⟨c, rfl, ?_⟩
    simp only [State.holdsWriter, State.waitsFor] at holds waits
    cases atPc : s.calls c with
    | lockPending encoded use =>
      rw [atPc] at holds
      cases use with
      | insert => cases holds
      | remove exit =>
        cases exit with
        | notConnected => rfl
        | ioError err => cases holds
        | timeout => cases holds
    | idle | start | inPending | lockWriter | inWriter | writing | unlockWriter | waiting | returned | dropped =>
      rw [atPc] at waits
      cases waits
  | opening o =>
    simp only [State.waitsFor] at waits
    split at waits <;> cases waits
  | closing k =>
    simp only [State.holdsWriter, State.waitsFor] at holds waits
    cases atPc : s.closes k <;> simp [atPc, ClosePc.holdsWriter] at holds waits
  | reader r =>
    simp only [State.holdsWriter, State.waitsFor] at holds waits
    cases atPc : s.readers r <;> simp [atPc, ReaderPc.holdsWriter] at holds waits

/-- Only a failing reader waits for the writer mutex under the pending mutex. -/
theorem State.failing_of_cycle {s : State} {party : Party} (holds : s.holdsPending party = true)
    (waits : s.waitsFor party = some .writer) : ∃ r, party = .reader r ∧ (s.readers r).failing = true := by
  cases party with
  | call c =>
    simp only [State.holdsPending, State.waitsFor] at holds waits
    cases atPc : s.calls c <;> simp [atPc, CallPc.holdsPending] at holds waits
  | opening o => cases holds
  | closing k =>
    simp only [State.holdsPending, State.waitsFor] at holds waits
    cases atPc : s.closes k <;> simp [atPc, ClosePc.holdsPending] at holds waits
  | reader r =>
    refine ⟨r, rfl, ?_⟩
    simp only [State.holdsPending, State.waitsFor] at holds waits
    cases atPc : s.readers r <;> simp [atPc, ReaderPc.holdsPending] at holds waits
    rfl

/-- The two steps that can close the circle: a call that holds the writer mutex
finds no writer only while no reader is failing requests, and a reader starts
to fail requests only while no call is being refused. -/
def Uncrossed (s : State) : Action → Prop
  | .call _ .findWriter => s.writer = none → ∀ r, (s.readers r).failing = false
  | .reader r .lockPending =>
    (∃ err, s.readers r = .lockPending (.drain (.header err))) → ∀ c, (s.calls c).refusing = false
  | _ => True

theorem CallStep.refusing {config : Config} {s after : State} {c : CallId} {action : CallAction}
    (taken : CallStep config s c action after) (refused : (after.calls c).refusing = true) :
    action = .findWriter ∧ s.writer = none := by
  cases taken with
  | noWriter _ absent => exact ⟨rfl, absent⟩
  | @enter command =>
    simp only [Function.update_self, enterPc] at refused
    repeat' split at refused
    all_goals cases refused
  | @remove _ exit =>
    simp only [Function.update_self] at refused
    cases exit <;> cases refused
  | start | lockPending | insert | lockWriter | foundWriter | write | writeFails | writeDone | unlockWriter | receive
  | timeout | disconnected | drop =>
    simp only [Function.update_self] at refused
    cases refused

theorem ReaderStep.failing {s after : State} {r : StreamId} {action : ReaderAction}
    (taken : ReaderStep s r action after) (failing : (after.readers r).failing = true) :
    (s.readers r).failing = true ∨ action = .lockPending ∧ ∃ err, s.readers r = .lockPending (.drain (.header err)) := by
  cases taken with
  | @lockPending use atPc =>
    simp only [Function.update_self] at failing
    cases use with
    | deliver => cases failing
    | drain failure =>
      cases failure with
      | header err => exact .inr ⟨rfl, err, atPc⟩
      | extraData => cases failing
  | drain => exact .inl failing
  | drainedHeader atPc => exact .inl (by rw [atPc]; rfl)
  | readHeader | checkClosed =>
    simp only [Function.update_self] at failing
    split at failing <;> cases failing
  | headerFails | readExtra | extraFails | deliver | discard | drainedExtra | lockWriter | takeWriter | unlockPending =>
    simp only [Function.update_self] at failing
    cases failing

/-- No call is refused while a reader is failing requests. -/
def Apart (s : State) : Prop := ∀ c r, (s.calls c).refusing = true → (s.readers r).failing = false

theorem Apart.step {config : Config} {s after : State} {action : Action} (apart : Apart s)
    (meets : Uncrossed s action) (taken : Step config s action after) : Apart after := by
  intro c r refused
  cases taken with
  | network taken => rw [taken.frame.readers]; exact apart c r (by rw [← taken.frame.calls]; exact refused)
  | closing taken => rw [taken.frame.readers]; exact apart c r (by rw [← taken.frame.calls]; exact refused)
  | @call moved _ _ taken =>
    rw [taken.frame.readers]
    by_cases same : c = moved
    · subst same
      obtain ⟨rfl, absent⟩ := taken.refusing refused
      exact meets absent r
    · rw [(taken.frame.others c same).1] at refused
      exact apart c r refused
  | opening taken =>
    rw [taken.frame.calls] at refused
    rcases taken.reader_kept r with same | ⟨new, _⟩
    · rw [same]
      exact apart c r refused
    · rw [new]
      rfl
  | @reader moved _ _ taken =>
    rw [taken.frame.calls] at refused
    by_cases same : r = moved
    · subst same
      rw [← Bool.not_eq_true]
      intro failing
      rcases taken.failing failing with before | ⟨rfl, heading⟩
      · rw [apart c r refused] at before
        cases before
      · rw [meets heading c] at refused
        cases refused
    · rw [(taken.frame.others r same).1]
      exact apart c r refused

structure Crossed (c : CallId) (r : StreamId) (s : State) : Prop where
  refused : (s.calls c).refusing = true
  failing : (s.readers r).failing = true

theorem CallPc.holdsWriter_of_refusing {pc : CallPc} (refused : pc.refusing = true) : pc.holdsWriter = true := by
  cases pc with
  | lockPending encoded use =>
    cases use with
    | insert => cases refused
    | remove exit =>
      cases exit with
      | notConnected => rfl
      | ioError | timeout => cases refused
  | _ => cases refused

theorem ReaderPc.holdsPending_of_failing {pc : ReaderPc} (failing : pc.failing = true) : pc.holdsPending = true := by
  cases pc with
  | inPending | lockWriter => rfl
  | _ => cases failing

/-- A refused call of the blocking client does nothing until it has the pending mutex. -/
theorem CallStep.refusing_kept {config : Config} {s after : State} {c : CallId} {action : CallAction} {party : Party}
    (taken : CallStep config s c action after) (blocking : config.backend = .blocking)
    (refused : (s.calls c).refusing = true) (held : s.pendingLock = some party) : (after.calls c).refusing = true := by
  cases taken with
  | lockPending _ free =>
    rw [held] at free
    cases free
  | drop asynchronous =>
    rw [blocking] at asynchronous
    cases asynchronous
  | start atPc | enter atPc | insert atPc | remove atPc | lockWriter atPc | noWriter atPc | foundWriter atPc
  | write atPc | writeFails atPc | writeDone atPc | unlockWriter atPc | receive atPc | timeout atPc
  | disconnected atPc =>
    rw [atPc] at refused
    cases refused

/-- A reader that fails requests goes on doing so until it has the writer mutex. -/
theorem ReaderStep.failing_kept {s after : State} {r : StreamId} {action : ReaderAction} {party : Party}
    (taken : ReaderStep s r action after) (failing : (s.readers r).failing = true)
    (held : s.writerLock = some party) : (after.readers r).failing = true := by
  cases taken with
  | drain => exact failing
  | drainedHeader => simp only [Function.update_self, ReaderPc.failing]
  | lockWriter _ free =>
    rw [held] at free
    cases free
  | readHeader atPc | headerFails atPc | checkClosed atPc | readExtra atPc | extraFails atPc | lockPending atPc
  | deliver atPc | discard atPc | drainedExtra atPc | takeWriter atPc | unlockPending atPc =>
    rw [atPc] at failing
    cases failing

theorem Crossed.step {config : Config} {s after : State} {action : Action} {c : CallId} {r : StreamId}
    (crossed : Crossed c r s) (blocking : config.backend = .blocking) (locks : Locks s) (streams : Streams s)
    (taken : Step config s action after) : Crossed c r after := by
  have callHolds : s.writerLock = some (.call c) :=
    (locks.writer (.call c)).mpr (CallPc.holdsWriter_of_refusing crossed.refused)
  have readerHolds : s.pendingLock = some (.reader r) :=
    (locks.pending (.reader r)).mpr (ReaderPc.holdsPending_of_failing crossed.failing)
  cases taken with
  | network taken =>
    exact ⟨by rw [taken.frame.calls]; exact crossed.refused, by rw [taken.frame.readers]; exact crossed.failing⟩
  | closing taken =>
    exact ⟨by rw [taken.frame.calls]; exact crossed.refused, by rw [taken.frame.readers]; exact crossed.failing⟩
  | opening taken =>
    refine ⟨by rw [taken.frame.calls]; exact crossed.refused, ?_⟩
    rcases taken.reader_kept r with same | ⟨_, atPc⟩
    · rw [same]
      exact crossed.failing
    · have idle := (streams.owned _ r (by rw [atPc]; rfl)).2
      have failing := crossed.failing
      rw [idle] at failing
      cases failing
  | @call moved _ _ taken =>
    refine ⟨?_, by rw [taken.frame.readers]; exact crossed.failing⟩
    by_cases same : c = moved
    · subst same
      exact taken.refusing_kept blocking crossed.refused readerHolds
    · rw [(taken.frame.others c same).1]
      exact crossed.refused
  | @reader moved _ _ taken =>
    refine ⟨by rw [taken.frame.calls]; exact crossed.refused, ?_⟩
    by_cases same : r = moved
    · subst same
      exact taken.failing_kept crossed.failing callHolds
    · rw [(taken.frame.others r same).1]
      exact crossed.failing

/-- Once a call is refused while a reader fails requests, the two hold what
the other one waits for, and in the blocking client both stay so forever. -/
theorem crossed_forever {config : Config} {s later : State} {c : CallId} {r : StreamId}
    (blocking : config.backend = .blocking) (reach : Reached config Always s) (crossed : Crossed c r s)
    (onward : Reach (step config) Always s later) : Crossed c r later := by
  refine onward.invariant crossed ?_
  intro now action after onward crossed _ run
  have reached := reach.trans onward
  exact crossed.step blocking (.of_reach reached) (.of_reach reached) (.of_run run)

theorem Apart.of_reach {config : Config} {s : State} (reach : Reached config Uncrossed s) : Apart s :=
  reach.invariant (fun _ _ refused => nomatch refused) fun _ _ _ _ apart meets run => apart.step meets (.of_run run)

theorem Apart.no_deadlock {s : State} (apart : Apart s) : ¬ s.Deadlock := by
  rintro ⟨first, second, holdsWriter, waitsPending, holdsPending, waitsWriter⟩
  obtain ⟨c, _, refused⟩ := s.refusing_of_cycle holdsWriter waitsPending
  obtain ⟨r, _, failing⟩ := s.failing_of_cycle holdsPending waitsWriter
  rw [apart c r refused] at failing
  cases failing

/-- A run that never crosses the two branches never blocks a caller, a reader
and a `close` on each other. -/
theorem no_deadlock_of_uncrossed {config : Config} {s : State} (reach : Reached config Uncrossed s) :
    ¬ s.Deadlock :=
  (Apart.of_reach reach).no_deadlock

/-- A call on a connection that was never opened is refused without a deadlock. -/
theorem refused_without_deadlock : ∃ s : State, (s.calls 0).refusing = true ∧ ¬ s.Deadlock := by
  have meets : RunAllowed (step ⟨.blocking, ""⟩) Uncrossed State.new
      (registerActions 0 ⟨Block.zero 16⟩ ++ [.call 0 .lockWriter, .call 0 .findWriter]) :=
    ⟨trivial, trivial, trivial, trivial, trivial, fun _ _ => rfl, trivial⟩
  have executed : (run (step ⟨.blocking, ""⟩) State.new
      (registerActions 0 ⟨Block.zero 16⟩ ++ [.call 0 .lockWriter, .call 0 .findWriter])).any
        (fun s => (s.calls 0).refusing) = true := by decide
  obtain ⟨s, reach, refused⟩ := Reach.exists_of_run meets executed
  exact ⟨s, refused, no_deadlock_of_uncrossed reach⟩

/-- A caller passes the closed check, the reader fails and passes its own, a
`close` takes the writer between the two, and each of the first two ends up
with the mutex that the other one needs. -/
def crossedActions : List Action :=
  openActions 0 0 ++ registerActions 0 ⟨Block.ofNatLE 16 7⟩ ++
    [.socketEnds 0 ⟨.connectionReset, "connection reset by peer"⟩, .reader 0 .headerFails, .reader 0 .checkClosed,
      .closing 0 .start, .closing 0 .storeClosed, .closing 0 .lockWriter, .closing 0 .takeWriter,
      .closing 0 .shutdown, .call 0 .lockWriter, .reader 0 .lockPending, .reader 0 (.drain ⟨Block.ofNatLE 16 7⟩),
      .reader 0 .drained, .call 0 .findWriter]

/-- The blocking client reaches a deadlock of a caller and the reader. -/
theorem deadlock_reachable : ¬ ∀ config s, Reached config Always s → ¬ s.Deadlock := by
  intro claim
  have executed : (run (step ⟨.blocking, ""⟩) State.new crossedActions).any
      (fun s => decide (s.CycleOf (.call 0) (.reader 0))) = true := by decide
  obtain ⟨s, reach, cycle⟩ := Reach.exists_of_run (runAllowed_always ..) executed
  exact claim _ s reach ⟨_, _, of_decide_eq_true cycle⟩

end Ruslock.Connection
