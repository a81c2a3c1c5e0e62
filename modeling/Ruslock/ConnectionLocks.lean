import Ruslock.Lib.Mutex
import Ruslock.ConnectionStreams

namespace Ruslock.Connection
open Mutex Wire

def OpenPc.holdsWriter : OpenPc → Bool
  | .inWriter => true
  | .inPublish _ => true
  | _ => false

def ClosePc.holdsWriter : ClosePc → Bool
  | .inWriter => true
  | .shutdown _ => true
  | _ => false

def ClosePc.holdsPending : ClosePc → Bool
  | .inPending => true
  | _ => false

def ReaderPc.holdsWriter : ReaderPc → Bool
  | .inWriter => true
  | _ => false

def ReaderPc.holdsPending : ReaderPc → Bool
  | .inPending _ => true
  | .lockWriter => true
  | .inWriter => true
  | .unlockPending => true
  | _ => false

/-- The guards of the writer mutex, from the program counters alone. -/
def State.holdsWriter (s : State) : Party → Bool
  | .call c => (s.calls c).holdsWriter
  | .opening o => (s.opens o).holdsWriter
  | .closing k => (s.closes k).holdsWriter
  | .reader r => (s.readers r).holdsWriter

/-- The guards of the pending mutex, from the program counters alone. -/
def State.holdsPending (s : State) : Party → Bool
  | .call c => (s.calls c).holdsPending
  | .opening _ => false
  | .closing k => (s.closes k).holdsPending
  | .reader r => (s.readers r).holdsPending

/-- The owner fields agree with the program counters. -/
structure Locks (s : State) : Prop where
  writer : Owned s.writerLock s.holdsWriter
  pending : Owned s.pendingLock s.holdsPending

section Moves

variable {s after : State}

theorem Locks.move (locks : Locks s) (party : Party)
    (others : ∀ other ≠ party,
      after.holdsWriter other = s.holdsWriter other ∧ after.holdsPending other = s.holdsPending other)
    (writer : Move s.writerLock after.writerLock party (s.holdsWriter party) (after.holdsWriter party))
    (pending : Move s.pendingLock after.pendingLock party (s.holdsPending party) (after.holdsPending party)) :
    Locks after where
  writer := locks.writer.step (fun other apart => (others other apart).1) writer
  pending := locks.pending.step (fun other apart => (others other apart).2) pending

theorem Locks.call {c : CallId} {pc : CallPc} (locks : Locks s) (calls : after.calls = Function.update s.calls c pc)
    (others : after.opens = s.opens ∧ after.closes = s.closes ∧ after.readers = s.readers)
    (writer : Move s.writerLock after.writerLock (.call c) (s.calls c).holdsWriter pc.holdsWriter)
    (pending : Move s.pendingLock after.pendingLock (.call c) (s.calls c).holdsPending pc.holdsPending) :
    Locks after := by
  obtain ⟨opens, closes, readers⟩ := others
  refine locks.move (.call c) (fun other apart => ?_) ?_ ?_
  · cases other with
    | call moved =>
      have other : moved ≠ c := fun same => apart (congrArg Party.call same)
      simp only [State.holdsWriter, State.holdsPending, calls, Function.update_of_ne other, and_self]
    | opening | closing | reader =>
      simp only [State.holdsWriter, State.holdsPending, opens, closes, readers, and_self]
  · simpa only [State.holdsWriter, calls, Function.update_self] using writer
  · simpa only [State.holdsPending, calls, Function.update_self] using pending

theorem Locks.opening {o : OpenId} {pc : OpenPc} (locks : Locks s) (opens : after.opens = Function.update s.opens o pc)
    (others : after.calls = s.calls ∧ after.closes = s.closes)
    (readers : ∀ r, (after.readers r).holdsWriter = (s.readers r).holdsWriter ∧
      (after.readers r).holdsPending = (s.readers r).holdsPending)
    (writer : Move s.writerLock after.writerLock (.opening o) (s.opens o).holdsWriter pc.holdsWriter)
    (pending : after.pendingLock = s.pendingLock) : Locks after := by
  obtain ⟨calls, closes⟩ := others
  refine locks.move (.opening o) (fun other apart => ?_) ?_ (.keep pending rfl)
  · cases other with
    | opening moved =>
      have other : moved ≠ o := fun same => apart (congrArg Party.opening same)
      simp only [State.holdsWriter, State.holdsPending, opens, Function.update_of_ne other, and_self]
    | call | closing => simp only [State.holdsWriter, State.holdsPending, calls, closes, and_self]
    | reader r => exact readers r
  · simpa only [State.holdsWriter, opens, Function.update_self] using writer

theorem Locks.closing {k : CloseId} {pc : ClosePc} (locks : Locks s)
    (closes : after.closes = Function.update s.closes k pc)
    (others : after.calls = s.calls ∧ after.opens = s.opens ∧ after.readers = s.readers)
    (writer : Move s.writerLock after.writerLock (.closing k) (s.closes k).holdsWriter pc.holdsWriter)
    (pending : Move s.pendingLock after.pendingLock (.closing k) (s.closes k).holdsPending pc.holdsPending) :
    Locks after := by
  obtain ⟨calls, opens, readers⟩ := others
  refine locks.move (.closing k) (fun other apart => ?_) ?_ ?_
  · cases other with
    | closing moved =>
      have other : moved ≠ k := fun same => apart (congrArg Party.closing same)
      simp only [State.holdsWriter, State.holdsPending, closes, Function.update_of_ne other, and_self]
    | call | opening | reader =>
      simp only [State.holdsWriter, State.holdsPending, calls, opens, readers, and_self]
  · simpa only [State.holdsWriter, closes, Function.update_self] using writer
  · simpa only [State.holdsPending, closes, Function.update_self] using pending

theorem Locks.reader {r : StreamId} {pc : ReaderPc} (locks : Locks s)
    (readers : after.readers = Function.update s.readers r pc)
    (others : after.calls = s.calls ∧ after.opens = s.opens ∧ after.closes = s.closes)
    (writer : Move s.writerLock after.writerLock (.reader r) (s.readers r).holdsWriter pc.holdsWriter)
    (pending : Move s.pendingLock after.pendingLock (.reader r) (s.readers r).holdsPending pc.holdsPending) :
    Locks after := by
  obtain ⟨calls, opens, closes⟩ := others
  refine locks.move (.reader r) (fun other apart => ?_) ?_ ?_
  · cases other with
    | reader moved =>
      have other : moved ≠ r := fun same => apart (congrArg Party.reader same)
      simp only [State.holdsWriter, State.holdsPending, readers, Function.update_of_ne other, and_self]
    | call | opening | closing =>
      simp only [State.holdsWriter, State.holdsPending, calls, opens, closes, and_self]
  · simpa only [State.holdsWriter, readers, Function.update_self] using writer
  · simpa only [State.holdsPending, readers, Function.update_self] using pending

end Moves

theorem CallPc.holdsWriter_of_stream {pc : CallPc} {stream : StreamId} (writing : pc.stream = some stream) :
    pc.holdsWriter = true := by
  cases pc with
  | writing => rfl
  | _ => cases writing

/-- No call is at the pending map while a reader holds its mutex. -/
theorem Locks.not_inPending {s : State} {c : CallId} {r : StreamId} {encoded : EncodedCommand} {use : CallUse}
    (locks : Locks s) (reader : (s.readers r).holdsPending = true) : s.calls c ≠ .inPending encoded use := by
  intro atPc
  have byReader : s.holdsPending (.reader r) = true := reader
  have byCall : s.holdsPending (.call c) = true := by simp only [State.holdsPending, atPc, CallPc.holdsPending]
  cases locks.pending.unique byReader byCall

theorem enterPc_holds (closed : Bool) (command : Command) :
    (enterPc closed command).holdsWriter = false ∧ (enterPc closed command).holdsPending = false := by
  unfold enterPc
  split
  · exact ⟨rfl, rfl⟩
  · split <;> exact ⟨rfl, rfl⟩

theorem Locks.callStep {config : Config} {s after : State} {c : CallId} {action : CallAction} (locks : Locks s)
    (taken : CallStep config s c action after) : Locks after := by
  cases taken with
  | start atPc => exact locks.call rfl ⟨rfl, rfl, rfl⟩ (by rw [atPc]; exact .keep rfl rfl) (by rw [atPc]; exact .keep rfl rfl)
  | enter atPc =>
    exact locks.call rfl ⟨rfl, rfl, rfl⟩ (by rw [atPc]; exact .keep rfl (enterPc_holds _ _).1)
      (by rw [atPc]; exact .keep rfl (enterPc_holds _ _).2)
  | @lockPending encoded use atPc free =>
    refine locks.call rfl ⟨rfl, rfl, rfl⟩ ?_ (.acquire free rfl rfl)
    rw [atPc]
    cases use with
    | insert => exact .keep rfl rfl
    | remove exit => cases exit <;> exact .keep rfl rfl
  | insert atPc =>
    exact locks.call rfl ⟨rfl, rfl, rfl⟩ (by rw [atPc]; exact .keep rfl rfl) (by rw [atPc]; exact .release rfl rfl rfl)
  | @remove encoded exit atPc =>
    cases exit <;> exact locks.call rfl ⟨rfl, rfl, rfl⟩ (by rw [atPc]; exact .keep rfl rfl)
      (by rw [atPc]; exact .release rfl rfl rfl)
  | lockWriter atPc free =>
    exact locks.call rfl ⟨rfl, rfl, rfl⟩ (.acquire free rfl rfl) (by rw [atPc]; exact .keep rfl rfl)
  | noWriter atPc | foundWriter atPc | write atPc =>
    exact locks.call rfl ⟨rfl, rfl, rfl⟩ (by rw [atPc]; exact .keep rfl rfl) (by rw [atPc]; exact .keep rfl rfl)
  | writeFails atPc | writeDone atPc | unlockWriter atPc =>
    exact locks.call rfl ⟨rfl, rfl, rfl⟩ (by rw [atPc]; exact .release rfl rfl rfl) (by rw [atPc]; exact .keep rfl rfl)
  | receive atPc | timeout atPc | disconnected atPc =>
    exact locks.call rfl ⟨rfl, rfl, rfl⟩ (by rw [atPc]; exact .keep rfl rfl) (by rw [atPc]; exact .keep rfl rfl)
  | drop _ awaits =>
    have outside : (s.calls c).holdsPending = false := by
      cases atPc : s.calls c <;> rw [atPc] at awaits <;> first | rfl | cases awaits
    refine locks.call rfl ⟨rfl, rfl, rfl⟩ ?_ (by rw [outside]; exact .keep rfl rfl)
    cases holding : (s.calls c).holdsWriter with
    | true => exact .release rfl rfl rfl
    | false => exact .keep rfl rfl

theorem Locks.openStep {config : Config} {s after : State} {o : OpenId} {action : OpenAction} (locks : Locks s)
    (idle : ∀ stream, s.opens o = .spawn stream → s.readers stream = .idle)
    (taken : OpenStep config s o action after) : Locks after := by
  cases taken with
  | start atPc | storeClosed atPc | connect atPc | connectFails atPc | identify atPc | writeInit atPc | refused atPc
  | accepted atPc | split atPc =>
    exact locks.opening rfl ⟨rfl, rfl⟩ (fun _ => ⟨rfl, rfl⟩) (by rw [atPc]; exact .keep rfl rfl) rfl
  | lockWriter atPc free | lockPublish atPc free =>
    exact locks.opening rfl ⟨rfl, rfl⟩ (fun _ => ⟨rfl, rfl⟩) (by rw [atPc]; exact .acquire free rfl rfl) rfl
  | findWriter atPc =>
    refine locks.opening rfl ⟨rfl, rfl⟩ (fun _ => ⟨rfl, rfl⟩) ?_ rfl
    rw [atPc]
    split <;> exact .release rfl rfl rfl
  | fails atPc =>
    refine locks.opening rfl ⟨rfl, rfl⟩ (fun _ => ⟨rfl, rfl⟩) ?_ rfl
    rcases atPc with ⟨_, at' | ⟨_, at'⟩ | at' | at'⟩ <;> rw [at'] <;> exact .keep rfl rfl
  | publish atPc =>
    exact locks.opening rfl ⟨rfl, rfl⟩ (fun _ => ⟨rfl, rfl⟩) (by rw [atPc]; exact .release rfl rfl rfl) rfl
  | @spawn stream atPc =>
    refine locks.opening rfl ⟨rfl, rfl⟩ (fun r => ?_) (by rw [atPc]; exact .keep rfl rfl) rfl
    by_cases same : r = stream
    · subst same
      simp only [Function.update_self, idle r atPc]
      exact ⟨rfl, rfl⟩
    · simp only [Function.update_of_ne same, and_self]

theorem Locks.closeStep {config : Config} {s after : State} {k : CloseId} {action : CloseAction} (locks : Locks s)
    (taken : CloseStep config s k action after) : Locks after := by
  cases taken with
  | start atPc | storeClosed atPc =>
    exact locks.closing rfl ⟨rfl, rfl, rfl⟩ (by rw [atPc]; exact .keep rfl rfl) (by rw [atPc]; exact .keep rfl rfl)
  | lockWriter atPc free =>
    exact locks.closing rfl ⟨rfl, rfl, rfl⟩ (.acquire free rfl rfl) (by rw [atPc]; exact .keep rfl rfl)
  | noWriter atPc | shutdown atPc =>
    exact locks.closing rfl ⟨rfl, rfl, rfl⟩ (by rw [atPc]; exact .release rfl rfl rfl) (by rw [atPc]; exact .keep rfl rfl)
  | tookWriter atPc =>
    exact locks.closing rfl ⟨rfl, rfl, rfl⟩ (by rw [atPc]; exact .keep rfl rfl) (by rw [atPc]; exact .keep rfl rfl)
  | lockPending atPc free =>
    exact locks.closing rfl ⟨rfl, rfl, rfl⟩ (by rw [atPc]; exact .keep rfl rfl) (.acquire free rfl rfl)
  | drain atPc =>
    have stays : s.closes = Function.update s.closes k .inPending := by rw [← atPc, Function.update_eq_self]
    exact locks.closing stays ⟨rfl, rfl, rfl⟩ (by rw [atPc]; exact .keep rfl rfl) (by rw [atPc]; exact .keep rfl rfl)
  | finish atPc =>
    exact locks.closing rfl ⟨rfl, rfl, rfl⟩ (by rw [atPc]; exact .keep rfl rfl) (by rw [atPc]; exact .release rfl rfl rfl)

theorem Locks.readerStep {s after : State} {r : StreamId} {action : ReaderAction} (locks : Locks s)
    (taken : ReaderStep s r action after) : Locks after := by
  cases taken with
  | readHeader atPc | checkClosed atPc =>
    refine locks.reader rfl ⟨rfl, rfl, rfl⟩ ?_ ?_ <;> rw [atPc] <;> split <;> exact .keep rfl rfl
  | headerFails atPc | readExtra atPc | extraFails atPc | drainedHeader atPc =>
    exact locks.reader rfl ⟨rfl, rfl, rfl⟩ (by rw [atPc]; exact .keep rfl rfl) (by rw [atPc]; exact .keep rfl rfl)
  | lockPending atPc free =>
    exact locks.reader rfl ⟨rfl, rfl, rfl⟩ (by rw [atPc]; exact .keep rfl rfl) (.acquire free rfl rfl)
  | deliver atPc | discard atPc | drainedExtra atPc | unlockPending atPc =>
    exact locks.reader rfl ⟨rfl, rfl, rfl⟩ (by rw [atPc]; exact .keep rfl rfl) (by rw [atPc]; exact .release rfl rfl rfl)
  | @drain failure _ _ atPc =>
    have stays : s.readers = Function.update s.readers r (.inPending (.drain failure)) := by
      rw [← atPc, Function.update_eq_self]
    exact locks.reader stays ⟨rfl, rfl, rfl⟩ (by rw [atPc]; exact .keep rfl rfl) (by rw [atPc]; exact .keep rfl rfl)
  | lockWriter atPc free =>
    exact locks.reader rfl ⟨rfl, rfl, rfl⟩ (.acquire free rfl rfl) (by rw [atPc]; exact .keep rfl rfl)
  | takeWriter atPc =>
    exact locks.reader rfl ⟨rfl, rfl, rfl⟩ (by rw [atPc]; exact .release rfl rfl rfl) (by rw [atPc]; exact .keep rfl rfl)

theorem Locks.new : Locks State.new := by
  constructor
  · exact owned_none fun party => by cases party <;> rfl
  · exact owned_none fun party => by cases party <;> rfl

theorem Locks.step {config : Config} {s after : State} {action : Action} (locks : Locks s) (streams : Streams s)
    (taken : Step config s action after) : Locks after := by
  cases taken with
  | call taken => exact locks.callStep taken
  | opening taken => exact locks.openStep (fun stream atPc => (streams.owned _ stream (by rw [atPc]; rfl)).2) taken
  | closing taken => exact locks.closeStep taken
  | reader taken => exact locks.readerStep taken
  | network taken =>
    have frame := taken.frame
    have writerView : after.holdsWriter = s.holdsWriter := by
      funext party
      cases party <;> simp only [State.holdsWriter, frame.calls, frame.opens, frame.closes, frame.readers]
    have pendingView : after.holdsPending = s.holdsPending := by
      funext party
      cases party <;> simp only [State.holdsPending, frame.calls, frame.closes, frame.readers]
    exact ⟨by rw [frame.writerLock, writerView]; exact locks.writer,
      by rw [frame.pendingLock, pendingView]; exact locks.pending⟩

/-- The states of the runs of one connection. -/
abbrev Reached (config : Config) (allowed : State → Action → Prop) (s : State) : Prop :=
  Transition.Reach (Connection.step config) allowed State.new s

theorem Streams.of_reach {config : Config} {allowed : State → Action → Prop} {s : State}
    (reach : Reached config allowed s) : Streams s :=
  reach.invariant .new fun _ _ _ _ streams _ run => streams.step (.of_run run)

theorem Locks.of_reach {config : Config} {allowed : State → Action → Prop} {s : State}
    (reach : Reached config allowed s) : Locks s :=
  reach.invariant .new fun _ _ _ previous locks _ run => locks.step (.of_reach previous) (.of_run run)

/-- Nobody connects a stream but this one. -/
def OnlyStream (stream : StreamId) (_ : State) : Action → Prop
  | .opening _ (.connect other) => other = stream
  | _ => True

theorem idle_of_onlyStream {config : Config} {s : State} {stream r : StreamId}
    (reach : Reached config (OnlyStream stream) s) (apart : r ≠ stream) : s.readers r = .idle := by
  have unconnected : s.connected r = false := by
    induction reach with
    | start => rfl
    | @next before after action previous meets run ih =>
      cases Step.of_run run with
      | call taken => rw [taken.frame.connected]; exact ih
      | closing taken => rw [taken.frame.connected]; exact ih
      | reader taken => rw [taken.frame.connected]; exact ih
      | network taken => rw [taken.frame.connected]; exact ih
      | opening taken =>
        cases taken with
        | connect =>
          have other : r ≠ stream := apart
          rw [← show _ = stream from meets] at other
          simp only [Function.update_of_ne other]
          exact ih
        | _ => exact ih
  by_contra running
  rw [(Streams.of_reach reach).alive r running] at unconnected
  cases unconnected

/-- The header of a successful answer to the handshake. -/
def acceptance : Block 64 := ((Block.zero 64).set 0 magic).set 1 version

/-- A successful `open` from beginning to end. -/
def openActions (o : OpenId) (stream : StreamId) : List Action :=
  [.opening o .start, .opening o .lockWriter, .opening o .findWriter, .opening o .storeClosed,
    .opening o (.connect stream), .opening o (.identify ⟨Block.zero 16⟩ ⟨Block.zero 16⟩), .opening o .writeInit,
    .receive stream acceptance.toList, .opening o .readInit, .opening o .split, .opening o .lockPublish,
    .opening o .publish, .opening o .spawn]

/-- A ping up to the insertion of its entry. -/
def registerActions (c : CallId) (requestId : Id16) : List Action :=
  [.call c (.start (.ping ⟨requestId⟩)), .call c .enter, .call c .lockPending, .call c .insert]

/-- A registered ping up to the point where it waits for its answer. -/
def writeActions (c : CallId) : List Action :=
  [.call c .lockWriter, .call c .findWriter, .call c (.write 64), .call c .writeDone]

end Ruslock.Connection
