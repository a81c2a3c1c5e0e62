import Mathlib.Data.List.Infix
import Ruslock.ConnectionLocks

namespace Ruslock

/-- The loop of the reader has taken the bytes off the front of its input and
got these results from them. -/
def Consumed (bytes : List UInt8) (results : List (Outcome CommandResult)) : Prop :=
  ∀ rest, readLoop (bytes ++ rest) =
    ⟨results ++ (readLoop rest).results, (readLoop rest).failure, (readLoop rest).rest⟩

section Consumed
open Wire

variable {bytes input rest data : List UInt8} {results : List (Outcome CommandResult)} {header : Block 64}

theorem consumed_nil : Consumed [] [] := fun _ => rfl

/-- The bytes of one more frame, as a loop that starts at it reads them. -/
theorem Consumed.frame {result : Outcome CommandResult} (consumed : Consumed bytes results)
    (reads : ∀ rest, readLoop (input ++ rest) = (readLoop rest).cons result) :
    Consumed (bytes ++ input) (results ++ [result]) := by
  intro rest
  rw [List.append_assoc, consumed, reads, ReadRun.cons, List.append_assoc]
  rfl

/-- What is read as extra data is read whatever comes behind it. -/
theorem readExtraData_front (read : readExtraData input = some (data, rest)) :
    ∃ extra, input = extra ++ rest ∧ ∀ later, readExtraData (extra ++ later) = some (data, later) := by
  obtain ⟨⟨lenBytes, middle⟩, first, tail⟩ := Option.bind_eq_some_iff.mp read
  obtain ⟨⟨payload, last⟩, second, same⟩ := Option.bind_eq_some_iff.mp tail
  cases same
  refine ⟨lenBytes.toList ++ payload.toList, ?_, fun later => ?_⟩
  · rw [readExact_eq_some first, readExact_eq_some second, List.append_assoc]
  · rw [List.append_assoc, readExtraData, readExact_append]
    refine Option.bind_eq_some_iff.mpr ⟨_, rfl, Option.bind_eq_some_iff.mpr ⟨_, readExact_append payload later, rfl⟩⟩

/-- A header whose extra data is not there yet. -/
theorem readLoop_cut (announced : responseHasExtraData header = true) (short : readExtraData input = none) :
    readLoop (header.toList ++ input) = ⟨[], .extraData, input⟩ := by
  rw [readLoop]
  split
  · rename_i failed
    rw [readExact_append] at failed
    cases failed
  · rename_i found
    rw [readExact_append] at found
    cases found
    rw [if_pos announced]
    split
    · rfl
    · rename_i found
      rw [short] at found
      cases found

end Consumed

namespace Connection
open Transition Wire

/-- All the bytes that each stream has received. -/
abbrev Received := StreamId → List UInt8

def recordReceived (_s : State) (action : Action) (_after : State) (received : Received) : Received :=
  match action with
  | .receive stream bytes => Function.update received stream (received stream ++ bytes)
  | _ => received

/-- The runs of one connection, with the bytes that have been received in them. -/
abbrev ReceivedIn (config : Config) (allowed : State × Received → Action → Prop) (s : State) (received : Received) : Prop :=
  Reach (watch (step config) recordReceived) allowed (State.new, fun _ => []) (s, received)

theorem ReceivedIn.reached {config : Config} {allowed : State × Received → Action → Prop} {s : State}
    {received : Received} (reach : ReceivedIn config allowed s received) : Reached config Always s :=
  Reach.forget (reach.mono fun _ _ _ => trivial)

/-- A reader that has stopped at this read of its loop. -/
def ReaderPc.stopped : ReaderPc → ReadFailure → Bool
  | .checkClosed _, .header => true
  | .lockPending (.drain (.header _)), .header => true
  | .inPending (.drain (.header _)), .header => true
  | .lockWriter, .header => true
  | .inWriter, .header => true
  | .unlockPending, .header => true
  | .lockPending (.drain .extraData), .extraData => true
  | .inPending (.drain .extraData), .extraData => true
  | .exited, _ => true
  | _, _ => false

/-- Where the reader of a stream stands in the bytes behind the handshake. -/
inductive Progress (bytes inbox : List UInt8) (decoded : List (Outcome CommandResult)) : ReaderPc → Prop
  | between {front} : bytes = front ++ inbox → Consumed front decoded → Progress bytes inbox decoded .readHeader
  | behindHeader {front header} : bytes = front ++ (header.toList ++ inbox) → Consumed front decoded →
      responseHasExtraData header = true → Progress bytes inbox decoded (.readExtra header)
  | waiting {front header data} : bytes = front ++ inbox → Consumed front (decoded ++ [decodeResponse header data]) →
      Progress bytes inbox decoded (.lockPending (.deliver header data))
  | delivering {front header data} : bytes = front ++ inbox →
      Consumed front (decoded ++ [decodeResponse header data]) →
      Progress bytes inbox decoded (.inPending (.deliver header data))
  | stopped {pc failure} : pc.stopped failure = true → readLoop bytes = ⟨decoded, failure, inbox⟩ →
      Progress bytes inbox decoded pc

section Progress

variable {bytes inbox : List UInt8} {decoded : List (Outcome CommandResult)} {pc pc' : ReaderPc}

/-- Bytes that arrive are read after those that are there, unless the reader has stopped. -/
theorem Progress.receive (progress : Progress bytes inbox decoded pc) (more : List UInt8)
    (reads : ∀ failure, pc.stopped failure = false) : Progress (bytes ++ more) (inbox ++ more) decoded pc := by
  cases progress with
  | between same consumed => exact .between (by rw [same, List.append_assoc]) consumed
  | behindHeader same consumed announced =>
    exact .behindHeader (by rw [same, List.append_assoc, List.append_assoc]) consumed announced
  | waiting same consumed => exact .waiting (by rw [same, List.append_assoc]) consumed
  | delivering same consumed => exact .delivering (by rw [same, List.append_assoc]) consumed
  | stopped isStopped =>
    rw [reads] at isStopped
    cases isStopped

/-- What the reader has decoded is the beginning of what the loop decodes. -/
theorem Progress.isPrefix (progress : Progress bytes inbox decoded pc) : decoded <+: (readLoop bytes).results := by
  cases progress with
  | between same consumed | behindHeader same consumed =>
    rw [same, consumed]
    exact List.prefix_append _ _
  | waiting same consumed | delivering same consumed =>
    rw [same, consumed, List.append_assoc]
    exact List.prefix_append _ _
  | stopped _ whole =>
    rw [whole]

/-- A stopped reader stays so until its end. -/
theorem Progress.leave (progress : Progress bytes inbox decoded pc)
    (failed : ∃ failure, pc.stopped failure = true)
    (stays : ∀ failure, pc.stopped failure = true → pc'.stopped failure = true) : Progress bytes inbox decoded pc' := by
  obtain ⟨failure, isStopped⟩ := failed
  cases progress with
  | between | behindHeader | waiting | delivering => cases failure <;> cases isStopped
  | stopped known whole => exact .stopped (stays _ known) whole

end Progress

theorem ReaderStep.progress {s after : State} {r : StreamId} {action : ReaderAction} {bytes : List UInt8}
    (taken : ReaderStep s r action after) (progress : Progress bytes (s.inbox r) (s.decoded r) (s.readers r)) :
    Progress bytes (after.inbox r) (after.decoded r) (after.readers r) := by
  cases taken with
  | readHeader atPc read =>
    rw [atPc] at progress
    simp only [Function.update_self]
    cases progress with
    | stopped isStopped => cases isStopped
    | between same consumed =>
      rw [readExact_eq_some read] at same
      split
      · exact .behindHeader same consumed ‹_›
      · rename_i plain
        rw [← List.append_assoc] at same
        exact .waiting same (consumed.frame fun rest => readLoop_plain rest (Bool.eq_false_iff.mpr plain))
  | headerFails atPc short =>
    rw [atPc] at progress
    simp only [Function.update_self]
    cases progress with
    | stopped isStopped => cases isStopped
    | between same consumed =>
      refine .stopped (show ReaderPc.stopped _ .header = true from rfl) ?_
      rw [same, consumed, readLoop_short (readExact_eq_none.mp short), List.append_nil]
  | checkClosed atPc =>
    rw [atPc] at progress
    simp only [Function.update_self]
    refine progress.leave ⟨.header, rfl⟩ fun failure isStopped => ?_
    cases failure with
    | header => split <;> rfl
    | extraData => cases isStopped
  | readExtra atPc read =>
    rw [atPc] at progress
    simp only [Function.update_self]
    cases progress with
    | stopped isStopped => cases isStopped
    | behindHeader same consumed announced =>
      obtain ⟨extra, split, reads⟩ := readExtraData_front read
      rw [split, ← List.append_assoc, ← List.append_assoc] at same
      rw [List.append_assoc _ _ extra] at same
      refine .waiting same (consumed.frame fun rest => ?_)
      rw [List.append_assoc, readLoop_extra announced (reads rest)]
  | extraFails atPc short =>
    rw [atPc] at progress
    simp only [Function.update_self]
    cases progress with
    | stopped isStopped => cases isStopped
    | behindHeader same consumed announced =>
      refine .stopped (show ReaderPc.stopped _ .extraData = true from rfl) ?_
      rw [same, consumed, readLoop_cut announced short, List.append_nil]
  | @lockPending use atPc =>
    rw [atPc] at progress
    simp only [Function.update_self]
    cases use with
    | deliver header data =>
      cases progress with
      | waiting same consumed => exact .delivering same consumed
      | stopped isStopped => cases isStopped
    | drain failure =>
      cases failure with
      | header => exact progress.leave ⟨.header, rfl⟩ fun failure => by cases failure <;> exact id
      | extraData => exact progress.leave ⟨.extraData, rfl⟩ fun failure => by cases failure <;> exact id
  | deliver atPc | discard atPc =>
    rw [atPc] at progress
    simp only [Function.update_self, State.complete]
    cases progress with
    | delivering same consumed => exact .between same consumed
    | stopped isStopped => cases isStopped
  | drain => exact progress
  | drainedHeader atPc | lockWriter atPc | takeWriter atPc =>
    rw [atPc] at progress
    simp only [Function.update_self]
    exact progress.leave ⟨.header, rfl⟩ fun failure => by cases failure <;> exact id
  | drainedExtra atPc =>
    rw [atPc] at progress
    simp only [Function.update_self]
    exact progress.leave ⟨.extraData, rfl⟩ fun _ _ => rfl
  | unlockPending atPc =>
    rw [atPc] at progress
    simp only [Function.update_self]
    exact progress.leave ⟨.header, rfl⟩ fun _ _ => rfl

/-- The stream of an `open` that has not read the answer to its handshake. -/
def OpenPc.shaking : OpenPc → Option StreamId
  | .configure stream => some stream
  | .writeInit stream _ => some stream
  | .readInit stream => some stream
  | _ => none

/-- The stream of an `open` whose handshake the server has accepted. -/
def OpenPc.shaken : OpenPc → Option StreamId
  | .split stream => some stream
  | .lockPublish stream => some stream
  | .inPublish stream => some stream
  | .spawn stream => some stream
  | _ => none

/-- The first bytes are the header of a successful answer to a handshake. -/
def Accepted (bytes : List UInt8) : Prop :=
  ∃ header : Block 64, ∃ initType rest, initOutcome header = .ok initType ∧ bytes = header.toList ++ rest

/-- What was received on every stream is in its inbox or was read by whoever
owns the stream: its `open`, and then its reader. -/
structure Reading (s : State) (received : Received) : Prop where
  silent : ∀ stream, s.connected stream = false → received stream = [] ∧ s.inbox stream = []
  undecoded : ∀ stream, s.readers stream = .idle → s.decoded stream = []
  shaking : ∀ o stream, (s.opens o).shaking = some stream → received stream = s.inbox stream
  shaken : ∀ o stream, (s.opens o).shaken = some stream →
    Accepted (received stream) ∧ (received stream).drop 64 = s.inbox stream
  reading : ∀ stream, s.readers stream ≠ .idle → Accepted (received stream) ∧
    Progress ((received stream).drop 64) (s.inbox stream) (s.decoded stream) (s.readers stream)
  stopped : ∀ stream failure, (s.readers stream).stopped failure = true → (s.ended stream).isSome = true

theorem Reading.new : Reading State.new fun _ => [] where
  silent _ _ := ⟨rfl, rfl⟩
  undecoded _ _ := rfl
  shaking _ _ atStream := nomatch atStream
  shaken _ _ atStream := nomatch atStream
  reading _ running := absurd rfl running
  stopped _ failure isStopped := by cases failure <;> cases isStopped

theorem Accepted.append {bytes : List UInt8} (accepted : Accepted bytes) (more : List UInt8) :
    Accepted (bytes ++ more) ∧ (bytes ++ more).drop 64 = bytes.drop 64 ++ more := by
  obtain ⟨header, initType, rest, succeeded, rfl⟩ := accepted
  have long : 64 ≤ (header.toList ++ rest).length := by
    rw [List.length_append, header.length_eq]
    exact Nat.le_add_right _ _
  exact ⟨⟨header, initType, rest ++ more, succeeded, List.append_assoc _ _ _⟩, List.drop_append_of_le_length long⟩

theorem OpenPc.stream_of_shaking {pc : OpenPc} {stream : StreamId} (shaking : pc.shaking = some stream) :
    pc.stream = some stream := by
  cases pc with
  | configure | writeInit | readInit => exact shaking
  | _ => cases shaking

theorem OpenPc.stream_of_shaken {pc : OpenPc} {stream : StreamId} (shaken : pc.shaken = some stream) :
    pc.stream = some stream := by
  cases pc with
  | split | lockPublish | inPublish | spawn => exact shaken
  | _ => cases shaken

/-- The only bytes that an `open` reads are the answer to its handshake. -/
theorem OpenStep.inbox {config : Config} {s after : State} {o : OpenId} {action : OpenAction}
    (taken : OpenStep config s o action after) :
    after.inbox = s.inbox ∨ ∃ stream rest, s.opens o = .readInit stream ∧ (after.opens o).shaking = none ∧
      after.inbox = Function.update s.inbox stream rest := by
  cases taken with
  | refused atPc | accepted atPc =>
    exact .inr ⟨_, _, atPc, by simp only [Function.update_self]; rfl, rfl⟩
  | _ => exact .inl rfl

theorem OpenStep.shaking {config : Config} {s after : State} {o : OpenId} {action : OpenAction} {stream : StreamId}
    (taken : OpenStep config s o action after) (shaking : (after.opens o).shaking = some stream) :
    (s.opens o).shaking = some stream ∨ s.connected stream = false := by
  cases taken with
  | connect _ unused =>
    simp only [Function.update_self] at shaking
    cases shaking
    exact .inr unused
  | identify atPc | writeInit atPc =>
    simp only [Function.update_self] at shaking
    rw [atPc]
    exact .inl shaking
  | findWriter =>
    simp only [Function.update_self] at shaking
    split at shaking <;> cases shaking
  | start | lockWriter | storeClosed | connectFails | fails | refused | accepted | split | lockPublish | publish | spawn =>
    simp only [Function.update_self] at shaking
    cases shaking

theorem OpenStep.shaken {config : Config} {s after : State} {o : OpenId} {action : OpenAction} {stream : StreamId}
    (taken : OpenStep config s o action after) (shaken : (after.opens o).shaken = some stream) :
    (s.opens o).shaken = some stream ∧ after.inbox = s.inbox ∨
      ∃ header rest initType, s.opens o = .readInit stream ∧ readExact 64 (s.inbox stream) = some (header, rest) ∧
        initOutcome header = .ok initType ∧ after.inbox = Function.update s.inbox stream rest := by
  cases taken with
  | accepted atPc read succeeded =>
    simp only [Function.update_self] at shaken
    cases shaken
    exact .inr ⟨_, _, _, atPc, read, succeeded, rfl⟩
  | split atPc | lockPublish atPc | publish atPc =>
    simp only [Function.update_self] at shaken
    rw [atPc]
    exact .inl ⟨shaken, rfl⟩
  | findWriter =>
    simp only [Function.update_self] at shaken
    split at shaken <;> cases shaken
  | start | lockWriter | storeClosed | connect | connectFails | fails | identify | writeInit | refused | spawn =>
    simp only [Function.update_self] at shaken
    cases shaken

section Steps

variable {config : Config} {s after : State} {received : Received}

/-- A step that reads nothing and moves no `open` and no reader. -/
theorem Reading.keep (reading : Reading s received) (opens : after.opens = s.opens)
    (connected : after.connected = s.connected) (readers : after.readers = s.readers) (inbox : after.inbox = s.inbox)
    (decoded : after.decoded = s.decoded)
    (ended : ∀ stream, (s.ended stream).isSome = true → (after.ended stream).isSome = true) : Reading after received where
  silent := by rw [connected, inbox]; exact reading.silent
  undecoded := by rw [readers, decoded]; exact reading.undecoded
  shaking := by rw [opens, inbox]; exact reading.shaking
  shaken := by rw [opens, inbox]; exact reading.shaken
  reading := by rw [readers, inbox, decoded]; exact reading.reading
  stopped := by
    rw [readers]
    exact fun stream failure isStopped => ended stream (reading.stopped stream failure isStopped)

theorem Reading.networkStep {action : Action} (reading : Reading s received)
    (taken : NetworkStep s action after) : Reading after (recordReceived s action after received) := by
  cases taken with
  | @socketEnds stream _ _ _ =>
    refine reading.keep rfl rfl rfl rfl rfl fun other already => ?_
    simp only [Function.update_apply]
    split
    · rfl
    · exact already
  | @receive stream bytes connected running =>
    have reads : ∀ failure, (s.readers stream).stopped failure = false := by
      intro failure
      by_contra isStopped
      have ends := reading.stopped stream failure (Bool.eq_true_of_not_eq_false isStopped)
      rw [running] at ends
      cases ends
    constructor
    · intro other unconnected
      have apart : other ≠ stream := by
        rintro rfl
        cases connected.symm.trans unconnected
      simp only [recordReceived, Function.update_of_ne apart]
      exact reading.silent other unconnected
    · exact reading.undecoded
    · intro o other shaking
      have before := reading.shaking o other shaking
      by_cases same : other = stream
      · subst same
        simp only [recordReceived, Function.update_self, before]
      · simp only [recordReceived, Function.update_of_ne same]
        exact before
    · intro o other shaken
      have before := reading.shaken o other shaken
      by_cases same : other = stream
      · subst same
        simp only [recordReceived, Function.update_self]
        have longer := before.1.append bytes
        exact ⟨longer.1, by rw [longer.2, before.2]⟩
      · simp only [recordReceived, Function.update_of_ne same]
        exact before
    · intro other running
      have before := reading.reading other running
      by_cases same : other = stream
      · subst same
        simp only [recordReceived, Function.update_self]
        have longer := before.1.append bytes
        exact ⟨longer.1, by rw [longer.2]; exact before.2.receive bytes reads⟩
      · simp only [recordReceived, Function.update_of_ne same]
        exact before
    · exact reading.stopped

/-- The reads of an `open` are those of the stream that it owns. -/
theorem Reading.inbox_openStep {o : OpenId} {action : OpenAction} {stream : StreamId}
    (taken : OpenStep config s o action after) (elsewhere : (s.opens o).stream ≠ some stream) :
    after.inbox stream = s.inbox stream := by
  rcases taken.inbox with same | ⟨read, rest, atPc, _, new⟩
  · rw [same]
  · have apart : stream ≠ read := by
      rintro rfl
      exact elsewhere (by rw [atPc]; rfl)
    rw [new, Function.update_of_ne apart]

theorem Reading.openStep {o : OpenId} {action : OpenAction} (reading : Reading s received) (streams : Streams s)
    (taken : OpenStep config s o action after) : Reading after received := by
  have frame := taken.frame
  constructor
  · intro stream unconnected
    have before : s.connected stream = false := by
      by_contra connected
      rw [taken.connected_kept (Bool.eq_true_of_not_eq_false connected)] at unconnected
      cases unconnected
    rw [Reading.inbox_openStep taken fun owned => ?_]
    · exact reading.silent stream before
    · rw [(streams.owned o stream owned).1] at before
      cases before
  · intro stream idle
    rw [frame.decoded]
    refine reading.undecoded stream ?_
    rcases taken.reader_kept stream with same | ⟨new, _⟩
    · exact same.symm.trans idle
    · cases new.symm.trans idle
  · intro o' stream shaking
    by_cases own : o' = o
    · subst own
      have untouched : after.inbox = s.inbox := by
        rcases taken.inbox with same | ⟨_, _, _, ended, _⟩
        · exact same
        · cases ended.symm.trans shaking
      rw [untouched]
      rcases taken.shaking shaking with before | unused
      · exact reading.shaking o' stream before
      · obtain ⟨nothing, empty⟩ := reading.silent stream unused
        rw [nothing, empty]
    · rw [frame.others o' own] at shaking
      rw [Reading.inbox_openStep taken fun owned => own (streams.sole o' o stream (OpenPc.stream_of_shaking shaking) owned)]
      exact reading.shaking o' stream shaking
  · intro o' stream shaken
    by_cases own : o' = o
    · subst own
      rcases taken.shaken shaken with ⟨before, same⟩ | ⟨header, rest, initType, atPc, read, succeeded, new⟩
      · rw [same]
        exact reading.shaken o' stream before
      · have whole := reading.shaking o' stream (by rw [atPc]; rfl)
        rw [readExact_eq_some read] at whole
        rw [whole, new, Function.update_self, List.drop_left' header.length_eq]
        exact ⟨⟨header, initType, rest, succeeded, rfl⟩, rfl⟩
    · rw [frame.others o' own] at shaken
      rw [Reading.inbox_openStep taken fun owned => own (streams.sole o' o stream (OpenPc.stream_of_shaken shaken) owned)]
      exact reading.shaken o' stream shaken
  · intro stream running
    rw [frame.decoded]
    rcases taken.reader_kept stream with same | ⟨new, atPc⟩
    · rw [same] at running ⊢
      rw [Reading.inbox_openStep taken fun owned => running (streams.owned o stream owned).2]
      exact reading.reading stream running
    · have idle := (streams.owned o stream (by rw [atPc]; rfl)).2
      have untouched : after.inbox = s.inbox := by
        rcases taken.inbox with same | ⟨_, _, atRead, _⟩
        · exact same
        · cases atPc.symm.trans atRead
      obtain ⟨accepted, behind⟩ := reading.shaken o stream (by rw [atPc]; rfl)
      rw [new, untouched, behind, reading.undecoded stream idle]
      exact ⟨accepted, .between rfl consumed_nil⟩
  · intro stream failure isStopped
    rw [frame.ended]
    rcases taken.reader_kept stream with same | ⟨new, _⟩
    · exact reading.stopped stream failure (same ▸ isStopped)
    · rw [new] at isStopped
      cases isStopped

/-- A reader stops only at a read that the network fails. -/
theorem ReaderStep.ended_of_stopped {r : StreamId} {action : ReaderAction} {failure : ReadFailure}
    (taken : ReaderStep s r action after)
    (before : ∀ failure, (s.readers r).stopped failure = true → (s.ended r).isSome = true)
    (isStopped : (after.readers r).stopped failure = true) : (s.ended r).isSome = true := by
  cases taken with
  | readHeader =>
    simp only [Function.update_self] at isStopped
    split at isStopped <;> cases isStopped
  | headerFails _ _ ended | extraFails _ _ ended => rw [ended]; rfl
  | readExtra | deliver | discard =>
    simp only [Function.update_self] at isStopped
    cases isStopped
  | checkClosed atPc | drainedHeader atPc | lockWriter atPc | takeWriter atPc | unlockPending atPc =>
    exact before .header (by rw [atPc]; rfl)
  | drainedExtra atPc => exact before .extraData (by rw [atPc]; rfl)
  | drain atPc => exact before failure isStopped
  | @lockPending use atPc =>
    cases use with
    | deliver =>
      simp only [Function.update_self] at isStopped
      cases isStopped
    | drain error =>
      cases error with
      | header => exact before .header (by rw [atPc]; rfl)
      | extraData => exact before .extraData (by rw [atPc]; rfl)

theorem Reading.readerStep {r : StreamId} {action : ReaderAction} (reading : Reading s received) (streams : Streams s)
    (taken : ReaderStep s r action after) : Reading after received := by
  have frame := taken.frame
  have mine : ∀ stream, (∃ o, (s.opens o).stream = some stream) → stream ≠ r := by
    rintro _ ⟨o, owned⟩ rfl
    exact taken.running.1 (streams.owned o _ owned).2
  constructor
  · rw [frame.connected]
    intro stream unconnected
    have apart : stream ≠ r := by
      rintro rfl
      cases (streams.alive stream taken.running.1).symm.trans unconnected
    rw [(frame.others stream apart).2.1]
    exact reading.silent stream unconnected
  · intro stream idle
    have apart : stream ≠ r := by
      rintro rfl
      exact taken.running.2 idle
    rw [(frame.others stream apart).1] at idle
    rw [(frame.others stream apart).2.2]
    exact reading.undecoded stream idle
  · rw [frame.opens]
    intro o stream shaking
    rw [(frame.others stream (mine stream ⟨o, OpenPc.stream_of_shaking shaking⟩)).2.1]
    exact reading.shaking o stream shaking
  · rw [frame.opens]
    intro o stream shaken
    rw [(frame.others stream (mine stream ⟨o, OpenPc.stream_of_shaken shaken⟩)).2.1]
    exact reading.shaken o stream shaken
  · intro stream running
    by_cases same : stream = r
    · subst same
      obtain ⟨accepted, progress⟩ := reading.reading stream taken.running.1
      exact ⟨accepted, taken.progress progress⟩
    · obtain ⟨reader, inbox, decoded⟩ := frame.others stream same
      rw [reader] at running ⊢
      rw [inbox, decoded]
      exact reading.reading stream running
  · rw [frame.ended]
    intro stream failure isStopped
    by_cases same : stream = r
    · subst same
      exact taken.ended_of_stopped (reading.stopped stream) isStopped
    · rw [(frame.others stream same).1] at isStopped
      exact reading.stopped stream failure isStopped

theorem CloseStep.ended_mono {k : CloseId} {action : CloseAction} {stream : StreamId}
    (taken : CloseStep config s k action after) (already : (s.ended stream).isSome = true) :
    (after.ended stream).isSome = true := by
  cases taken with
  | shutdown =>
    dsimp only
    split
    · rw [Function.update_apply]
      split
      · rfl
      · exact already
    · exact already
  | _ => exact already

theorem Reading.step {action : Action} (reading : Reading s received) (streams : Streams s)
    (taken : Step config s action after) : Reading after (recordReceived s action after received) := by
  cases taken with
  | network taken => exact reading.networkStep taken
  | opening taken => exact reading.openStep streams taken
  | reader taken => exact reading.readerStep streams taken
  | call taken =>
    have frame := taken.frame
    exact reading.keep frame.opens frame.connected frame.readers frame.inbox frame.decoded fun stream already => by
      rw [frame.ended]
      exact already
  | closing taken =>
    have frame := taken.frame
    exact reading.keep frame.opens frame.connected frame.readers frame.inbox frame.decoded fun _ => taken.ended_mono

theorem Reading.of_reach {allowed : State × Received → Action → Prop} (reach : ReceivedIn config allowed s received) :
    Reading s received := by
  refine Reach.invariant reach (motive := fun watched => Reading watched.1 watched.2) .new ?_
  intro before action after previous reading _ run
  obtain ⟨stepped, recorded⟩ := watch_eq_some run
  rw [recorded]
  exact reading.step (.of_reach (ReceivedIn.reached previous)) (.of_run stepped)

end Steps

/-- The reader of a stream, among all that goes on around it, is the loop that
reads the bytes behind the handshake alone. -/
structure ReadsAlone (s : State) (received : Received) (r : StreamId) : Prop where
  accepted : Accepted (received r)
  isPrefix : s.decoded r <+: (readLoop ((received r).drop 64)).results
  /-- A reader that waits for more bytes has decoded every frame that is there. -/
  waiting : s.readers r = .readHeader → readExact 64 (s.inbox r) = none →
    readLoop ((received r).drop 64) = ⟨s.decoded r, .header, s.inbox r⟩
  waitingExtra : ∀ header, s.readers r = .readExtra header → readExtraData (s.inbox r) = none →
    readLoop ((received r).drop 64) = ⟨s.decoded r, .extraData, s.inbox r⟩
  /-- A reader stops at the end of its stream, where the loop stops and at the same read. -/
  stopped : (∃ failure, (s.readers r).stopped failure = true) →
    (s.ended r).isSome = true ∧ ∃ failure, (s.readers r).stopped failure = true ∧
      readLoop ((received r).drop 64) = ⟨s.decoded r, failure, s.inbox r⟩

/-- Whatever the calls and the network do meanwhile, and in whatever pieces the
bytes arrive, a reader decodes them as the loop does that is given all of them at once. -/
theorem reader_readsAlone {config : Config} {s : State} {received : Received} {r : StreamId}
    (reach : ReceivedIn config Always s received) (spawned : s.readers r ≠ .idle) :
    ReadsAlone s received r := by
  have reading := Reading.of_reach reach
  obtain ⟨accepted, progress⟩ := reading.reading r spawned
  refine ⟨accepted, progress.isPrefix, fun atPc short => ?_, fun header atPc short => ?_, ?_⟩
  · rw [atPc] at progress
    cases progress with
    | stopped isStopped => cases isStopped
    | between same consumed => rw [same, consumed, readLoop_short (readExact_eq_none.mp short), List.append_nil]
  · rw [atPc] at progress
    cases progress with
    | stopped isStopped => cases isStopped
    | behindHeader same consumed announced => rw [same, consumed, readLoop_cut announced short, List.append_nil]
  · rintro ⟨failure, isStopped⟩
    refine ⟨reading.stopped r failure isStopped, ?_⟩
    generalize s.readers r = pc at progress isStopped
    cases progress with
    | between | behindHeader | waiting | delivering => cases failure <;> cases isStopped
    | stopped known whole => exact ⟨_, known, whole⟩

/-- A frame that arrives in two pieces, and the beginning of another one. -/
def pieces : List Action :=
  openActions 0 0 ++
    [.receive 0 (acceptance.toList.take 30), .receive 0 (acceptance.toList.drop 30 ++ [magic]), .reader 0 .readHeader,
      .reader 0 .lockPending, .reader 0 .deliver]

theorem reader_readsAlone_pieces :
    ∃ s received, (s.decoded 0).length = 1 ∧ s.inbox 0 = [magic] ∧ ReadsAlone s received 0 := by
  have executed : (run (watch (step ⟨.aio, ""⟩) recordReceived) (State.new, fun _ => []) pieces).any
      (fun watched => (watched.1.decoded 0).length = 1 ∧ watched.1.inbox 0 = [magic]) = true := by decide
  obtain ⟨⟨s, received⟩, reach, found⟩ := Reach.exists_of_run
    (runAllowed_always ..) executed
  obtain ⟨decoded, inbox⟩ := of_decide_eq_true found
  have spawned : s.readers 0 ≠ .idle := by
    intro idle
    rw [(Reading.of_reach reach).undecoded 0 idle] at decoded
    cases decoded
  exact ⟨s, received, decoded, inbox, reader_readsAlone reach spawned⟩

end Connection

end Ruslock
