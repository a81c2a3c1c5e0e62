import Ruslock.Connection

namespace Ruslock.Connection
open Wire

/-- What one step of a call can be: where the call stands, what it needs, and
the state it leaves. -/
inductive CallStep (config : Config) (s : State) (c : CallId) : CallAction → State → Prop
  | start {command} : s.calls c = .idle →
      CallStep config s c (.start command)
        { s with
          calls := Function.update s.calls c (.start command)
          command := Function.update s.command c (some command) }
  | enter {command} : s.calls c = .start command →
      CallStep config s c .enter { s with calls := Function.update s.calls c (enterPc s.closed command) }
  | lockPending {encoded use} : s.calls c = .lockPending encoded use → s.pendingLock = none →
      CallStep config s c .lockPending
        { s with pendingLock := some (.call c), calls := Function.update s.calls c (.inPending encoded use) }
  | insert {encoded} : s.calls c = .inPending encoded .insert →
      CallStep config s c .insert
        { s with
          pending := s.pending.insert encoded.requestId c
          pendingLock := none
          calls := Function.update s.calls c (.lockWriter encoded) }
  | remove {encoded exit} : s.calls c = .inPending encoded (.remove exit) →
      CallStep config s c .remove
        { s with
          pending := s.pending.erase encoded.requestId
          pendingLock := none
          calls := Function.update s.calls c (removePc exit) }
  | lockWriter {encoded} : s.calls c = .lockWriter encoded → s.writerLock = none →
      CallStep config s c .lockWriter
        { s with writerLock := some (.call c), calls := Function.update s.calls c (.inWriter encoded) }
  | noWriter {encoded} : s.calls c = .inWriter encoded → s.writer = none →
      CallStep config s c .findWriter
        { s with calls := Function.update s.calls c (.lockPending encoded (.remove .notConnected)) }
  | foundWriter {encoded stream} : s.calls c = .inWriter encoded → s.writer = some stream →
      CallStep config s c .findWriter
        { s with calls := Function.update s.calls c (.writing encoded stream encoded.frame) }
  | write {encoded stream rest count} : s.calls c = .writing encoded stream rest → 0 < count → count ≤ rest.length →
      CallStep config s c (.write count)
        { s with
          sent := Function.update s.sent stream (s.sent stream ++ rest.take count)
          calls := Function.update s.calls c (.writing encoded stream (rest.drop count)) }
  | writeFails {encoded stream rest err} : s.calls c = .writing encoded stream rest →
      CallStep config s c (.writeFails err)
        { s with
          writerLock := none
          cut := s.cutBy (s.calls c)
          faulted := Function.update s.faulted stream true
          calls := Function.update s.calls c (.lockPending encoded (.remove (.ioError err))) }
  | writeDone {encoded stream} : s.calls c = .writing encoded stream [] →
      CallStep config s c .writeDone
        { s with
          writerLock := none
          written := Function.update s.written c (some stream)
          calls := Function.update s.calls c (.waiting encoded) }
  | unlockWriter : s.calls c = .unlockWriter →
      CallStep config s c .unlockWriter
        { s with writerLock := none, calls := Function.update s.calls c (.returned (.error .notConnected)) }
  | receive {encoded message later} : s.calls c = .waiting encoded → s.channel c = message :: later →
      CallStep config s c .receive { s with calls := Function.update s.calls c (.returned message.result) }
  | timeout {encoded} : s.calls c = .waiting encoded → s.channel c = [] →
      CallStep config s c .timeout
        { s with calls := Function.update s.calls c (.lockPending encoded (.remove .timeout)) }
  | disconnected {encoded} : s.calls c = .waiting encoded → s.channel c = [] →
      (∀ entry ∈ s.pending.entries, entry.2 ≠ c) →
      CallStep config s c .disconnected
        { s with calls := Function.update s.calls c (.returned (.error .clientClosed)) }
  | drop : config.backend = .aio → (s.calls c).awaits = true →
      CallStep config s c .drop
        { s with
          writerLock := if (s.calls c).holdsWriter then none else s.writerLock
          cut := s.cutBy (s.calls c)
          pending := s.cleanedPending (s.calls c).cleanup
          calls := Function.update s.calls c .dropped }

theorem CallStep.of_run {config : Config} {s after : State} {c : CallId} {action : CallAction}
    (run : stepCall config s c action = some after) : CallStep config s c action after := by
  cases action
  case write count =>
    simp only [stepCall] at run
    split at run
    · split at run <;> cases run
      rename_i bounds
      exact .write ‹_› bounds.1 bounds.2
    · cases run
  case disconnected =>
    simp only [stepCall] at run
    split at run
    · split at run <;> cases run
      exact .disconnected ‹_› ‹_› ‹_›
    · cases run
  case drop =>
    obtain ⟨allowed, same⟩ := Option.ite_none_right_eq_some.mp run
    cases same
    exact .drop allowed.1 allowed.2
  all_goals
    simp only [stepCall] at run
    split at run <;> cases run <;> constructor <;> assumption

/-- What a step of a call leaves alone. -/
structure CallFrame (s after : State) (c : CallId) : Prop where
  clientId : after.clientId = s.clientId
  initType : after.initType = s.initType
  latest : after.latest = s.latest
  closed : after.closed = s.closed
  writer : after.writer = s.writer
  channel : after.channel = s.channel
  opens : after.opens = s.opens
  closes : after.closes = s.closes
  readers : after.readers = s.readers
  connected : after.connected = s.connected
  handshake : after.handshake = s.handshake
  inbox : after.inbox = s.inbox
  ended : after.ended = s.ended
  decoded : after.decoded = s.decoded
  others : ∀ other ≠ c, after.calls other = s.calls other ∧ after.command other = s.command other ∧
    after.written other = s.written other

theorem CallStep.frame {config : Config} {s after : State} {c : CallId} {action : CallAction}
    (taken : CallStep config s c action after) : CallFrame s after c := by
  cases taken <;> constructor <;> first | rfl | skip
  all_goals
    intro other apart
    simp only [Function.update_of_ne apart, and_self]

/-- What one step of an `open` can be. -/
inductive OpenStep (config : Config) (s : State) (o : OpenId) : OpenAction → State → Prop
  | start : s.opens o = .idle →
      OpenStep config s o .start { s with opens := Function.update s.opens o .lockWriter }
  | lockWriter : s.opens o = .lockWriter → s.writerLock = none →
      OpenStep config s o .lockWriter
        { s with writerLock := some (.opening o), opens := Function.update s.opens o .inWriter }
  | findWriter : s.opens o = .inWriter →
      OpenStep config s o .findWriter
        { s with
          writerLock := none
          opens := Function.update s.opens o (if s.writer.isSome then .returned (.ok ()) else .storeClosed) }
  | storeClosed : s.opens o = .storeClosed →
      OpenStep config s o .storeClosed { s with closed := false, opens := Function.update s.opens o .connect }
  | connect {stream} : s.opens o = .connect → s.connected stream = false →
      OpenStep config s o (.connect stream)
        { s with
          connected := Function.update s.connected stream true
          opens := Function.update s.opens o (.configure stream) }
  | connectFails {failure} : s.opens o = .connect →
      OpenStep config s o (.connectFails failure)
        { s with opens := Function.update s.opens o (.returned (.error (connectError config failure))) }
  | fails {err} : (∃ stream, s.opens o = .configure stream ∨ (∃ init, s.opens o = .writeInit stream init) ∨
        s.opens o = .readInit stream ∨ s.opens o = .split stream) →
      OpenStep config s o (.fails err) { s with opens := Function.update s.opens o (.returned (.error (.io err))) }
  | identify {requestId fresh stream} : s.opens o = .configure stream →
      OpenStep config s o (.identify requestId fresh)
        { s with
          clientId := some (s.clientId.getD fresh)
          opens := Function.update s.opens o (.writeInit stream ⟨requestId, s.clientId.getD fresh⟩) }
  | writeInit {stream init} : s.opens o = .writeInit stream init →
      OpenStep config s o .writeInit
        { s with
          handshake := Function.update s.handshake stream init.header.toList
          opens := Function.update s.opens o (.readInit stream) }
  | refused {stream header rest err} : s.opens o = .readInit stream →
      readExact 64 (s.inbox stream) = some (header, rest) → initOutcome header = .error err →
      OpenStep config s o .readInit
        { s with
          inbox := Function.update s.inbox stream rest
          opens := Function.update s.opens o (.returned (.error err)) }
  | accepted {stream header rest initType} : s.opens o = .readInit stream →
      readExact 64 (s.inbox stream) = some (header, rest) → initOutcome header = .ok initType →
      OpenStep config s o .readInit
        { s with
          inbox := Function.update s.inbox stream rest
          initType := initType
          opens := Function.update s.opens o (.split stream) }
  | split {stream} : s.opens o = .split stream →
      OpenStep config s o .split { s with opens := Function.update s.opens o (.lockPublish stream) }
  | lockPublish {stream} : s.opens o = .lockPublish stream → s.writerLock = none →
      OpenStep config s o .lockPublish
        { s with writerLock := some (.opening o), opens := Function.update s.opens o (.inPublish stream) }
  | publish {stream} : s.opens o = .inPublish stream →
      OpenStep config s o .publish
        { s with
          writer := some stream
          writerLock := none
          latest := some stream
          opens := Function.update s.opens o (.spawn stream) }
  | spawn {stream} : s.opens o = .spawn stream →
      OpenStep config s o .spawn
        { s with
          readers := Function.update s.readers stream .readHeader
          opens := Function.update s.opens o (.returned (.ok ())) }

theorem OpenStep.of_run {config : Config} {s after : State} {o : OpenId} {action : OpenAction}
    (run : stepOpen config s o action = some after) : OpenStep config s o action after := by
  cases action
  case fails err =>
    simp only [stepOpen] at run
    split at run
    · cases run
      exact .fails ⟨_, .inl ‹_›⟩
    · cases run
      exact .fails ⟨_, .inr (.inl ⟨_, ‹_›⟩)⟩
    · split at run <;> cases run
      exact .fails ⟨_, .inr (.inr (.inl ‹_›))⟩
    · split at run <;> cases run
      exact .fails ⟨_, .inr (.inr (.inr ‹_›))⟩
    · cases run
  case readInit =>
    simp only [stepOpen] at run
    split at run
    · split at run
      · cases run
      · split at run <;> cases run
        · exact .refused ‹_› ‹_› ‹_›
        · exact .accepted ‹_› ‹_› ‹_›
    · cases run
  all_goals
    simp only [stepOpen] at run
    split at run <;> cases run
    constructor <;> assumption

/-- What a step of an `open` leaves alone. -/
structure OpenFrame (s after : State) (o : OpenId) : Prop where
  pending : after.pending = s.pending
  pendingLock : after.pendingLock = s.pendingLock
  calls : after.calls = s.calls
  command : after.command = s.command
  written : after.written = s.written
  channel : after.channel = s.channel
  closes : after.closes = s.closes
  sent : after.sent = s.sent
  cut : after.cut = s.cut
  ended : after.ended = s.ended
  faulted : after.faulted = s.faulted
  decoded : after.decoded = s.decoded
  others : ∀ other ≠ o, after.opens other = s.opens other

theorem OpenStep.frame {config : Config} {s after : State} {o : OpenId} {action : OpenAction}
    (taken : OpenStep config s o action after) : OpenFrame s after o := by
  cases taken <;> constructor <;> first | rfl | skip
  all_goals
    intro other apart
    simp only [Function.update_of_ne apart]

/-- What one step of a `close` can be. -/
inductive CloseStep (config : Config) (s : State) (k : CloseId) : CloseAction → State → Prop
  | start : s.closes k = .idle →
      CloseStep config s k .start { s with closes := Function.update s.closes k .storeClosed }
  | storeClosed : s.closes k = .storeClosed →
      CloseStep config s k .storeClosed { s with closed := true, closes := Function.update s.closes k .lockWriter }
  | lockWriter : s.closes k = .lockWriter → s.writerLock = none →
      CloseStep config s k .lockWriter
        { s with writerLock := some (.closing k), closes := Function.update s.closes k .inWriter }
  | noWriter : s.closes k = .inWriter → s.writer = none →
      CloseStep config s k .takeWriter
        { s with writerLock := none, closes := Function.update s.closes k .lockPending }
  | tookWriter {stream} : s.closes k = .inWriter → s.writer = some stream →
      CloseStep config s k .takeWriter
        { s with writer := none, closes := Function.update s.closes k (.shutdown stream) }
  | shutdown {stream} : s.closes k = .shutdown stream →
      CloseStep config s k .shutdown
        { s with
          writerLock := none
          ended := if config.backend = .blocking ∧ s.ended stream = none then
              Function.update s.ended stream (some ⟨.unexpectedEof, "failed to fill whole buffer"⟩)
            else s.ended
          closes := Function.update s.closes k .lockPending }
  | lockPending : s.closes k = .lockPending → s.pendingLock = none →
      CloseStep config s k .lockPending
        { s with pendingLock := some (.closing k), closes := Function.update s.closes k .inPending }
  | drain {id c} : s.closes k = .inPending → s.pending.lookup id = some c →
      CloseStep config s k (.drain id) (s.complete id c ⟨.closing k, .error .clientClosed⟩)
  | finish : s.closes k = .inPending → s.pending.entries = [] →
      CloseStep config s k .finish { s with pendingLock := none, closes := Function.update s.closes k .returned }

theorem CloseStep.of_run {config : Config} {s after : State} {k : CloseId} {action : CloseAction}
    (run : stepClose config s k action = some after) : CloseStep config s k action after := by
  cases action
  case finish =>
    simp only [stepClose] at run
    split at run
    · split at run <;> cases run
      exact .finish ‹_› ‹_›
    · cases run
  case shutdown =>
    unfold stepClose at run
    cases atPc : s.closes k <;> simp only [atPc] at run <;> cases run
    exact .shutdown atPc
  all_goals
    simp only [stepClose] at run
    split at run <;> cases run <;> constructor <;> assumption

/-- What a step of a `close` leaves alone. -/
structure CloseFrame (s after : State) (k : CloseId) : Prop where
  clientId : after.clientId = s.clientId
  initType : after.initType = s.initType
  latest : after.latest = s.latest
  calls : after.calls = s.calls
  command : after.command = s.command
  written : after.written = s.written
  opens : after.opens = s.opens
  readers : after.readers = s.readers
  connected : after.connected = s.connected
  handshake : after.handshake = s.handshake
  sent : after.sent = s.sent
  cut : after.cut = s.cut
  inbox : after.inbox = s.inbox
  faulted : after.faulted = s.faulted
  decoded : after.decoded = s.decoded
  others : ∀ other ≠ k, after.closes other = s.closes other

theorem CloseStep.frame {config : Config} {s after : State} {k : CloseId} {action : CloseAction}
    (taken : CloseStep config s k action after) : CloseFrame s after k := by
  cases taken <;> constructor <;> first | rfl | skip
  all_goals
    intro other apart
    simp only [Function.update_of_ne apart, State.complete]

/-- What one step of a reader can be. -/
inductive ReaderStep (s : State) (r : StreamId) : ReaderAction → State → Prop
  | readHeader {header rest} : s.readers r = .readHeader → readExact 64 (s.inbox r) = some (header, rest) →
      ReaderStep s r .readHeader
        { s with
          inbox := Function.update s.inbox r rest
          readers := Function.update s.readers r
            (if responseHasExtraData header then .readExtra header else .lockPending (.deliver header none)) }
  | headerFails {err} : s.readers r = .readHeader → readExact 64 (s.inbox r) = none → s.ended r = some err →
      ReaderStep s r .headerFails { s with readers := Function.update s.readers r (.checkClosed err) }
  | checkClosed {err} : s.readers r = .checkClosed err →
      ReaderStep s r .checkClosed
        { s with
          readers := Function.update s.readers r (if s.closed then .exited else .lockPending (.drain (.header err))) }
  | readExtra {header data rest} : s.readers r = .readExtra header → readExtraData (s.inbox r) = some (data, rest) →
      ReaderStep s r .readExtra
        { s with
          inbox := Function.update s.inbox r rest
          readers := Function.update s.readers r (.lockPending (.deliver header (some data))) }
  | extraFails {header err} : s.readers r = .readExtra header → readExtraData (s.inbox r) = none →
      s.ended r = some err →
      ReaderStep s r .extraFails
        { s with readers := Function.update s.readers r (.lockPending (.drain .extraData)) }
  | lockPending {use} : s.readers r = .lockPending use → s.pendingLock = none →
      ReaderStep s r .lockPending
        { s with pendingLock := some (.reader r), readers := Function.update s.readers r (.inPending use) }
  | deliver {header data c} : s.readers r = .inPending (.deliver header data) →
      s.pending.lookup (responseRequestId header (decodeResponse header data)) = some c →
      ReaderStep s r .deliver
        { s.complete (responseRequestId header (decodeResponse header data)) c
            ⟨.response r (s.decoded r).length, decodeResponse header data⟩ with
          pendingLock := none
          decoded := Function.update s.decoded r (s.decoded r ++ [decodeResponse header data])
          readers := Function.update s.readers r .readHeader }
  | discard {header data} : s.readers r = .inPending (.deliver header data) →
      s.pending.lookup (responseRequestId header (decodeResponse header data)) = none →
      ReaderStep s r .deliver
        { s with
          pendingLock := none
          decoded := Function.update s.decoded r (s.decoded r ++ [decodeResponse header data])
          readers := Function.update s.readers r .readHeader }
  | drain {failure id c} : s.readers r = .inPending (.drain failure) → s.pending.lookup id = some c →
      ReaderStep s r (.drain id) (s.complete id c ⟨.failure r, .error failure.error⟩)
  | drainedHeader {err} : s.readers r = .inPending (.drain (.header err)) → s.pending.entries = [] →
      ReaderStep s r .drained { s with readers := Function.update s.readers r .lockWriter }
  | drainedExtra : s.readers r = .inPending (.drain .extraData) → s.pending.entries = [] →
      ReaderStep s r .drained { s with pendingLock := none, readers := Function.update s.readers r .exited }
  | lockWriter : s.readers r = .lockWriter → s.writerLock = none →
      ReaderStep s r .lockWriter
        { s with writerLock := some (.reader r), readers := Function.update s.readers r .inWriter }
  | takeWriter : s.readers r = .inWriter →
      ReaderStep s r .takeWriter
        { s with writer := none, writerLock := none, readers := Function.update s.readers r .unlockPending }
  | unlockPending : s.readers r = .unlockPending →
      ReaderStep s r .unlockPending
        { s with pendingLock := none, readers := Function.update s.readers r .exited }

theorem ReaderStep.of_run {s after : State} {r : StreamId} {action : ReaderAction}
    (run : stepReader s r action = some after) : ReaderStep s r action after := by
  cases action
  case deliver =>
    simp only [stepReader, State.delivered] at run
    split at run
    · cases run
      split
      · exact .deliver ‹_› ‹_›
      · exact .discard ‹_› ‹_›
    · cases run
  case drained =>
    simp only [stepReader] at run
    split at run
    · split at run
      · split at run <;> cases run
        · exact .drainedHeader ‹_› ‹_›
        · exact .drainedExtra ‹_› ‹_›
      · cases run
    · cases run
  all_goals
    simp only [stepReader] at run
    split at run <;> cases run
    constructor <;> assumption

/-- What a step of a reader leaves alone. -/
structure ReaderFrame (s after : State) (r : StreamId) : Prop where
  clientId : after.clientId = s.clientId
  initType : after.initType = s.initType
  latest : after.latest = s.latest
  closed : after.closed = s.closed
  calls : after.calls = s.calls
  command : after.command = s.command
  written : after.written = s.written
  opens : after.opens = s.opens
  closes : after.closes = s.closes
  connected : after.connected = s.connected
  handshake : after.handshake = s.handshake
  sent : after.sent = s.sent
  cut : after.cut = s.cut
  ended : after.ended = s.ended
  faulted : after.faulted = s.faulted
  others : ∀ other ≠ r, after.readers other = s.readers other ∧ after.inbox other = s.inbox other ∧
    after.decoded other = s.decoded other

theorem ReaderStep.frame {s after : State} {r : StreamId} {action : ReaderAction}
    (taken : ReaderStep s r action after) : ReaderFrame s after r := by
  cases taken <;> constructor <;> first | rfl | skip
  all_goals
    intro other apart
    simp only [Function.update_of_ne apart, State.complete, and_self]

/-- The network's steps change nothing that a party has decided. -/
inductive NetworkStep (s : State) : Action → State → Prop
  | receive {stream bytes} : s.connected stream = true → s.ended stream = none →
      NetworkStep s (.receive stream bytes)
        { s with inbox := Function.update s.inbox stream (s.inbox stream ++ bytes) }
  | socketEnds {stream err} : s.connected stream = true → s.ended stream = none →
      NetworkStep s (.socketEnds stream err)
        { s with
          ended := Function.update s.ended stream (some err)
          faulted := Function.update s.faulted stream true }

/-- What a step of the network leaves alone. -/
structure NetworkFrame (s after : State) : Prop where
  clientId : after.clientId = s.clientId
  initType : after.initType = s.initType
  latest : after.latest = s.latest
  closed : after.closed = s.closed
  writer : after.writer = s.writer
  writerLock : after.writerLock = s.writerLock
  pending : after.pending = s.pending
  pendingLock : after.pendingLock = s.pendingLock
  calls : after.calls = s.calls
  command : after.command = s.command
  written : after.written = s.written
  channel : after.channel = s.channel
  opens : after.opens = s.opens
  closes : after.closes = s.closes
  readers : after.readers = s.readers
  connected : after.connected = s.connected
  handshake : after.handshake = s.handshake
  sent : after.sent = s.sent
  cut : after.cut = s.cut
  decoded : after.decoded = s.decoded

theorem NetworkStep.frame {s after : State} {action : Action} (taken : NetworkStep s action after) :
    NetworkFrame s after := by
  cases taken <;> constructor <;> rfl

/-- One step of the connection is a step of one party or of the network. -/
inductive Step (config : Config) (s : State) : Action → State → Prop
  | call {c action after} : CallStep config s c action after → Step config s (.call c action) after
  | opening {o action after} : OpenStep config s o action after → Step config s (.opening o action) after
  | closing {k action after} : CloseStep config s k action after → Step config s (.closing k action) after
  | reader {r action after} : ReaderStep s r action after → Step config s (.reader r action) after
  | network {action after} : NetworkStep s action after → Step config s action after

theorem Step.of_run {config : Config} {s after : State} {action : Action}
    (run : step config s action = some after) : Step config s action after := by
  cases action with
  | call c action => exact .call (.of_run run)
  | opening o action => exact .opening (.of_run run)
  | closing k action => exact .closing (.of_run run)
  | reader r action => exact .reader (.of_run run)
  | receive stream bytes =>
    obtain ⟨open_, same⟩ := Option.ite_none_right_eq_some.mp run
    cases same
    exact .network (.receive open_.1 open_.2)
  | socketEnds stream err =>
    obtain ⟨open_, same⟩ := Option.ite_none_right_eq_some.mp run
    cases same
    exact .network (.socketEnds open_.1 open_.2)

end Ruslock.Connection
