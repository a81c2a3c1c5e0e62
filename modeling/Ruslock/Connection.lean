import Mathlib.Data.List.AList
import Mathlib.Logic.Function.Basic
import Ruslock.Lib.Transition
import Ruslock.ResponseStream

namespace Ruslock.Connection
open Wire

/-- The two implementations of `Connection`. They run the same program; they
differ in cancellation, in what `close` does to the socket, and in two errors. -/
inductive Backend
  | blocking
  | aio
  deriving DecidableEq

structure Config where
  backend : Backend
  address : String

abbrev CallId := Nat
abbrev OpenId := Nat
abbrev CloseId := Nat
abbrev StreamId := Nat

/-- Whoever can hold one of the two mutexes. The reader of a stream is named
by its stream. -/
inductive Party
  | call (c : CallId)
  | opening (o : OpenId)
  | closing (k : CloseId)
  | reader (r : StreamId)
  deriving DecidableEq

/-- Why a call takes its own entry out of the pending map. -/
inductive Exit
  | notConnected
  | ioError (err : IoError)
  | timeout
  deriving DecidableEq

def Exit.error : Exit → SlockError
  | .notConnected => .notConnected
  | .ioError err => .io err
  | .timeout => .commandTimeout

/-- What a call does under the pending mutex. -/
inductive CallUse
  | insert
  | remove (exit : Exit)
  deriving DecidableEq

/-- Where a `send_command` is. A name that begins with `lock` waits for a mutex,
one that begins with `in` holds it. -/
inductive CallPc
  | idle
  | start (command : Command)
  | lockPending (encoded : EncodedCommand) (use : CallUse)
  | inPending (encoded : EncodedCommand) (use : CallUse)
  | lockWriter (encoded : EncodedCommand)
  | inWriter (encoded : EncodedCommand)
  | writing (encoded : EncodedCommand) (stream : StreamId) (rest : List UInt8)
  | unlockWriter
  | waiting (encoded : EncodedCommand)
  | returned (result : Outcome CommandResult)
  | dropped

inductive OpenPc
  | idle
  | lockWriter
  | inWriter
  | storeClosed
  | connect
  | configure (stream : StreamId)
  | writeInit (stream : StreamId) (init : InitCommand)
  | readInit (stream : StreamId)
  | split (stream : StreamId)
  | lockPublish (stream : StreamId)
  | inPublish (stream : StreamId)
  | spawn (stream : StreamId)
  | returned (result : Outcome Unit)

inductive ClosePc
  | idle
  | storeClosed
  | lockWriter
  | inWriter
  | shutdown (stream : StreamId)
  | lockPending
  | inPending
  | returned

/-- Which read of the reader failed. Only the first keeps its error. -/
inductive ReadError
  | header (err : IoError)
  | extraData

/-- The error that the failure handling sends to every pending call. -/
def ReadError.error : ReadError → SlockError
  | .header err => .io err
  | .extraData => .clientClosed

/-- What a reader does under the pending mutex. -/
inductive ReaderUse
  | deliver (header : Block 64) (data : Option (List UInt8))
  | drain (failure : ReadError)

inductive ReaderPc
  | idle
  | readHeader
  | readExtra (header : Block 64)
  | checkClosed (err : IoError)
  | lockPending (use : ReaderUse)
  | inPending (use : ReaderUse)
  | lockWriter
  | inWriter
  | unlockPending
  | exited

/-- Who sent a completion: the reader for one of its frames, the failure
handling of a reader, or a `close`. -/
inductive Origin
  | response (stream : StreamId) (frame : Nat)
  | failure (stream : StreamId)
  | closing (k : CloseId)
  deriving DecidableEq

structure Message where
  origin : Origin
  result : Outcome CommandResult
  deriving DecidableEq

/-- A connection, its sockets and everybody who uses it. The fields `clientId`
to `pendingLock` are the shared fields of the source with the owners of their
two mutexes. The history of a run is kept in `latest`, `command`, `written`,
`channel`, `cut`, `faulted` and `decoded`: a channel keeps what was sent into
it, and its call takes the first message. -/
structure State where
  clientId : Option Id16
  initType : UInt8
  closed : Bool
  writer : Option StreamId
  writerLock : Option Party
  /-- The stream that was stored in the writer last. -/
  latest : Option StreamId
  pending : AList fun _ : Id16 => CallId
  pendingLock : Option Party
  calls : CallId → CallPc
  /-- The command of each call that was made. -/
  command : CallId → Option Command
  /-- The stream on which a call has written its whole frame. -/
  written : CallId → Option StreamId
  channel : CallId → List Message
  opens : OpenId → OpenPc
  closes : CloseId → ClosePc
  readers : StreamId → ReaderPc
  connected : StreamId → Bool
  /-- The bytes of the handshake, and the bytes sent after it. -/
  handshake : StreamId → List UInt8
  sent : StreamId → List UInt8
  /-- Streams on which a call has left its frame unfinished. -/
  cut : StreamId → Bool
  /-- Received bytes that nobody has read yet. -/
  inbox : StreamId → List UInt8
  /-- The error that a read reports once the received bytes do not suffice. -/
  ended : StreamId → Option IoError
  /-- Streams that the network has ended or on which a write has failed. -/
  faulted : StreamId → Bool
  /-- What the reader of a stream has decoded. -/
  decoded : StreamId → List (Outcome CommandResult)

/-- `Connection::new`. -/
def State.new : State where
  clientId := none
  initType := 0
  closed := false
  writer := none
  writerLock := none
  latest := none
  pending := ∅
  pendingLock := none
  calls _ := .idle
  command _ := none
  written _ := none
  channel _ := []
  opens _ := .idle
  closes _ := .idle
  readers _ := .idle
  connected _ := false
  handshake _ := []
  sent _ := []
  cut _ := false
  inbox _ := []
  ended _ := none
  faulted _ := false
  decoded _ := []

/-- The statements of `send_command`, and what the scheduler can do to it. -/
inductive CallAction
  | start (command : Command)
  | enter
  | lockPending
  | insert
  | remove
  | lockWriter
  | findWriter
  | write (count : Nat)
  | writeFails (err : IoError)
  | writeDone
  | unlockWriter
  | receive
  | timeout
  | disconnected
  | drop

/-- Why a connect attempt fails. -/
inductive ConnectFailure
  | io (err : IoError)
  | unresolved
  | timedOut

inductive OpenAction
  | start
  | lockWriter
  | findWriter
  | storeClosed
  | connect (stream : StreamId)
  | connectFails (failure : ConnectFailure)
  | fails (err : IoError)
  | identify (requestId fresh : Id16)
  | writeInit
  | readInit
  | split
  | lockPublish
  | publish
  | spawn

inductive CloseAction
  | start
  | storeClosed
  | lockWriter
  | takeWriter
  | shutdown
  | lockPending
  | drain (id : Id16)
  | finish

inductive ReaderAction
  | readHeader
  | headerFails
  | checkClosed
  | readExtra
  | extraFails
  | lockPending
  | deliver
  | drain (id : Id16)
  | drained
  | lockWriter
  | takeWriter
  | unlockPending

inductive Action
  | call (c : CallId) (action : CallAction)
  | opening (o : OpenId) (action : OpenAction)
  | closing (k : CloseId) (action : CloseAction)
  | reader (r : StreamId) (action : ReaderAction)
  | receive (stream : StreamId) (bytes : List UInt8)
  | socketEnds (stream : StreamId) (err : IoError)

/-- The check of the closed flag and the encoding, before any mutex is taken. -/
def enterPc (closed : Bool) (command : Command) : CallPc :=
  if closed then .returned (.error .clientClosed)
  else
    match command.encode with
    | .error err => .returned (.error err)
    | .ok encoded => .lockPending encoded .insert

/-- After an entry is removed: the not-connected branch still holds the
writer mutex, the others return. -/
def removePc : Exit → CallPc
  | .notConnected => .unlockWriter
  | exit => .returned (.error exit.error)

def CallPc.holdsWriter : CallPc → Bool
  | .lockPending _ (.remove .notConnected) => true
  | .inPending _ (.remove .notConnected) => true
  | .inWriter _ => true
  | .writing _ _ _ => true
  | .unlockWriter => true
  | _ => false

def CallPc.holdsPending : CallPc → Bool
  | .inPending _ _ => true
  | _ => false

/-- The await points of the async `send_command`. -/
def CallPc.awaits : CallPc → Bool
  | .lockPending _ _ => true
  | .lockWriter _ => true
  | .writing _ _ _ => true
  | .waiting _ => true
  | _ => false

/-- The id that an armed `PendingCleanup` removes: armed once the entry is in. -/
def CallPc.cleanup : CallPc → Option Id16
  | .lockPending encoded (.remove _) => some encoded.requestId
  | .lockWriter encoded => some encoded.requestId
  | .writing encoded _ _ => some encoded.requestId
  | .waiting encoded => some encoded.requestId
  | _ => none

/-- A call gives up: some, but not all, of its frame may be on the stream. -/
def State.cutBy (s : State) : CallPc → StreamId → Bool
  | .writing encoded stream rest =>
    if rest = [] ∨ rest = encoded.frame then s.cut else Function.update s.cut stream true
  | _ => s.cut

/-- `PendingCleanup::drop`: it removes the entry only if `try_lock` succeeds. -/
def State.cleanedPending (s : State) (armed : Option Id16) : AList fun _ : Id16 => CallId :=
  match armed with
  | none => s.pending
  | some id => if s.pendingLock.isSome then s.pending else s.pending.erase id

def stepCall (config : Config) (s : State) (c : CallId) : CallAction → Option State
  | .start command =>
    match s.calls c with
    | .idle => some
      { s with
        calls := Function.update s.calls c (.start command)
        command := Function.update s.command c (some command) }
    | _ => none
  | .enter =>
    match s.calls c with
    | .start command => some { s with calls := Function.update s.calls c (enterPc s.closed command) }
    | _ => none
  | .lockPending =>
    match s.calls c, s.pendingLock with
    | .lockPending encoded use, none => some
      { s with
        pendingLock := some (.call c)
        calls := Function.update s.calls c (.inPending encoded use) }
    | _, _ => none
  | .insert =>
    match s.calls c with
    | .inPending encoded .insert => some
      { s with
        pending := s.pending.insert encoded.requestId c
        pendingLock := none
        calls := Function.update s.calls c (.lockWriter encoded) }
    | _ => none
  | .remove =>
    match s.calls c with
    | .inPending encoded (.remove exit) => some
      { s with
        pending := s.pending.erase encoded.requestId
        pendingLock := none
        calls := Function.update s.calls c (removePc exit) }
    | _ => none
  | .lockWriter =>
    match s.calls c, s.writerLock with
    | .lockWriter encoded, none => some
      { s with
        writerLock := some (.call c)
        calls := Function.update s.calls c (.inWriter encoded) }
    | _, _ => none
  | .findWriter =>
    match s.calls c, s.writer with
    | .inWriter encoded, none =>
      -- the writer mutex stays locked while the pending mutex is awaited
      some { s with calls := Function.update s.calls c (.lockPending encoded (.remove .notConnected)) }
    | .inWriter encoded, some stream =>
      some { s with calls := Function.update s.calls c (.writing encoded stream encoded.frame) }
    | _, _ => none
  | .write count =>
    match s.calls c with
    | .writing encoded stream rest =>
      if 0 < count ∧ count ≤ rest.length then some
        { s with
          sent := Function.update s.sent stream (s.sent stream ++ rest.take count)
          calls := Function.update s.calls c (.writing encoded stream (rest.drop count)) }
      else none
    | _ => none
  | .writeFails err =>
    match s.calls c with
    | .writing encoded stream _ => some
      { s with
        writerLock := none
        cut := s.cutBy (s.calls c)
        faulted := Function.update s.faulted stream true
        calls := Function.update s.calls c (.lockPending encoded (.remove (.ioError err))) }
    | _ => none
  | .writeDone =>
    match s.calls c with
    | .writing encoded stream [] => some
      { s with
        writerLock := none
        written := Function.update s.written c (some stream)
        calls := Function.update s.calls c (.waiting encoded) }
    | _ => none
  | .unlockWriter =>
    match s.calls c with
    | .unlockWriter => some
      { s with
        writerLock := none
        calls := Function.update s.calls c (.returned (.error .notConnected)) }
    | _ => none
  | .receive =>
    match s.calls c, s.channel c with
    | .waiting _, message :: _ => some { s with calls := Function.update s.calls c (.returned message.result) }
    | _, _ => none
  | .timeout =>
    match s.calls c, s.channel c with
    | .waiting encoded, [] => some { s with calls := Function.update s.calls c (.lockPending encoded (.remove .timeout)) }
    | _, _ => none
  | .disconnected =>
    match s.calls c, s.channel c with
    | .waiting _, [] =>
      if ∀ entry ∈ s.pending.entries, entry.2 ≠ c then
        some { s with calls := Function.update s.calls c (.returned (.error .clientClosed)) }
      else none
    | _, _ => none
  | .drop =>
    if config.backend = .aio ∧ (s.calls c).awaits then some
      { s with
        writerLock := if (s.calls c).holdsWriter then none else s.writerLock
        cut := s.cutBy (s.calls c)
        pending := s.cleanedPending (s.calls c).cleanup
        calls := Function.update s.calls c .dropped }
    else none

/-- The error of `open` for a connect attempt that fails. -/
def connectError (config : Config) : ConnectFailure → SlockError
  | .io err => .io err
  | .unresolved =>
    match config.backend with
    | .blocking => .protocol ("address " ++ config.address ++ " did not resolve")
    | .aio => .io ⟨.invalidInput, "could not resolve to any address"⟩
  | .timedOut =>
    match config.backend with
    | .blocking => .io ⟨.timedOut, "connection timed out"⟩
    | .aio => .commandTimeout

/-- The handshake's checks on the response header. -/
def initOutcome (header : Block 64) : Outcome UInt8 := do
  let response ← decodeResponse header none
  if response.resultCode ≠ commandResultSucced then .error (.server response.resultCode)
  else
    match response with
    | .init result => .ok result.initType
    | _ => .error (.protocol "expected init result")

def stepOpen (config : Config) (s : State) (o : OpenId) : OpenAction → Option State
  | .start =>
    match s.opens o with
    | .idle => some { s with opens := Function.update s.opens o .lockWriter }
    | _ => none
  | .lockWriter =>
    match s.opens o, s.writerLock with
    | .lockWriter, none => some
      { s with
        writerLock := some (.opening o)
        opens := Function.update s.opens o .inWriter }
    | _, _ => none
  | .findWriter =>
    match s.opens o with
    | .inWriter => some
      { s with
        writerLock := none
        opens := Function.update s.opens o (if s.writer.isSome then .returned (.ok ()) else .storeClosed) }
    | _ => none
  | .storeClosed =>
    match s.opens o with
    | .storeClosed => some { s with closed := false, opens := Function.update s.opens o .connect }
    | _ => none
  | .connect stream =>
    match s.opens o, s.connected stream with
    | .connect, false => some
      { s with
        connected := Function.update s.connected stream true
        opens := Function.update s.opens o (.configure stream) }
    | _, _ => none
  | .connectFails failure =>
    match s.opens o with
    | .connect => some { s with opens := Function.update s.opens o (.returned (.error (connectError config failure))) }
    | _ => none
  | .fails err =>
    match s.opens o with
    | .configure _ | .writeInit _ _ => some { s with opens := Function.update s.opens o (.returned (.error (.io err))) }
    | .readInit stream =>
      if readExact 64 (s.inbox stream) = none ∧ s.ended stream = some err then
        some { s with opens := Function.update s.opens o (.returned (.error (.io err))) }
      else none
    | .split _ =>
      -- only `try_clone` can fail; `into_split` cannot
      if config.backend = .blocking then
        some { s with opens := Function.update s.opens o (.returned (.error (.io err))) }
      else none
    | _ => none
  | .identify requestId fresh =>
    match s.opens o with
    | .configure stream => some
      { s with
        clientId := some (s.clientId.getD fresh)
        opens := Function.update s.opens o (.writeInit stream ⟨requestId, s.clientId.getD fresh⟩) }
    | _ => none
  | .writeInit =>
    match s.opens o with
    | .writeInit stream init => some
      { s with
        handshake := Function.update s.handshake stream init.header.toList
        opens := Function.update s.opens o (.readInit stream) }
    | _ => none
  | .readInit =>
    match s.opens o with
    | .readInit stream =>
      match readExact 64 (s.inbox stream) with
      | none => none
      | some (header, rest) =>
        match initOutcome header with
        | .error err => some
          { s with
            inbox := Function.update s.inbox stream rest
            opens := Function.update s.opens o (.returned (.error err)) }
        | .ok initType => some
          { s with
            inbox := Function.update s.inbox stream rest
            initType := initType
            opens := Function.update s.opens o (.split stream) }
    | _ => none
  | .split =>
    match s.opens o with
    | .split stream => some { s with opens := Function.update s.opens o (.lockPublish stream) }
    | _ => none
  | .lockPublish =>
    match s.opens o, s.writerLock with
    | .lockPublish stream, none => some
      { s with
        writerLock := some (.opening o)
        opens := Function.update s.opens o (.inPublish stream) }
    | _, _ => none
  | .publish =>
    match s.opens o with
    | .inPublish stream => some
      { s with
        writer := some stream
        writerLock := none
        latest := some stream
        opens := Function.update s.opens o (.spawn stream) }
    | _ => none
  | .spawn =>
    match s.opens o with
    | .spawn stream => some
      { s with
        readers := Function.update s.readers stream .readHeader
        opens := Function.update s.opens o (.returned (.ok ())) }
    | _ => none

/-- One entry of a `pending.drain()`: the entry goes and its call is told. -/
def State.complete (s : State) (id : Id16) (c : CallId) (message : Message) : State :=
  { s with
    pending := s.pending.erase id
    channel := Function.update s.channel c (s.channel c ++ [message]) }

def stepClose (config : Config) (s : State) (k : CloseId) : CloseAction → Option State
  | .start =>
    match s.closes k with
    | .idle => some { s with closes := Function.update s.closes k .storeClosed }
    | _ => none
  | .storeClosed =>
    match s.closes k with
    | .storeClosed => some { s with closed := true, closes := Function.update s.closes k .lockWriter }
    | _ => none
  | .lockWriter =>
    match s.closes k, s.writerLock with
    | .lockWriter, none => some
      { s with
        writerLock := some (.closing k)
        closes := Function.update s.closes k .inWriter }
    | _, _ => none
  | .takeWriter =>
    match s.closes k, s.writer with
    | .inWriter, none => some
      { s with
        writerLock := none
        closes := Function.update s.closes k .lockPending }
    | .inWriter, some stream =>
      -- the guard lives until the end of the `if let`, over the shutdown
      some { s with writer := none, closes := Function.update s.closes k (.shutdown stream) }
    | _, _ => none
  | .shutdown =>
    match s.closes k with
    | .shutdown stream => some
      { s with
        writerLock := none
        -- `Shutdown::Both` ends our own reads, the async half-close does not
        ended := if config.backend = .blocking ∧ s.ended stream = none then
            Function.update s.ended stream (some ⟨.unexpectedEof, "failed to fill whole buffer"⟩)
          else s.ended
        closes := Function.update s.closes k .lockPending }
    | _ => none
  | .lockPending =>
    match s.closes k, s.pendingLock with
    | .lockPending, none => some
      { s with
        pendingLock := some (.closing k)
        closes := Function.update s.closes k .inPending }
    | _, _ => none
  | .drain id =>
    match s.closes k, s.pending.lookup id with
    | .inPending, some c => some (s.complete id c ⟨.closing k, .error .clientClosed⟩)
    | _, _ => none
  | .finish =>
    match s.closes k with
    | .inPending =>
      if s.pending.entries = [] then
        some { s with pendingLock := none, closes := Function.update s.closes k .returned }
      else none
    | _ => none

/-- Hands a decoded frame to the call that waits for its request id, if any. -/
def State.delivered (s : State) (r : StreamId) (id : Id16) (decoded : Outcome CommandResult) : State :=
  match s.pending.lookup id with
  | some c => s.complete id c ⟨.response r (s.decoded r).length, decoded⟩
  | none => s

def stepReader (s : State) (r : StreamId) : ReaderAction → Option State
  | .readHeader =>
    match s.readers r, readExact 64 (s.inbox r) with
    | .readHeader, some (header, rest) => some
      { s with
        inbox := Function.update s.inbox r rest
        readers := Function.update s.readers r
          (if responseHasExtraData header then .readExtra header else .lockPending (.deliver header none)) }
    | _, _ => none
  | .headerFails =>
    match s.readers r, readExact 64 (s.inbox r), s.ended r with
    | .readHeader, none, some err => some { s with readers := Function.update s.readers r (.checkClosed err) }
    | _, _, _ => none
  | .checkClosed =>
    match s.readers r with
    | .checkClosed err => some
      { s with
        readers := Function.update s.readers r (if s.closed then .exited else .lockPending (.drain (.header err))) }
    | _ => none
  | .readExtra =>
    match s.readers r, readExtraData (s.inbox r) with
    | .readExtra header, some (data, rest) => some
      { s with
        inbox := Function.update s.inbox r rest
        readers := Function.update s.readers r (.lockPending (.deliver header (some data))) }
    | _, _ => none
  | .extraFails =>
    match s.readers r, readExtraData (s.inbox r), s.ended r with
    | .readExtra _, none, some _ =>
      some { s with readers := Function.update s.readers r (.lockPending (.drain .extraData)) }
    | _, _, _ => none
  | .lockPending =>
    match s.readers r, s.pendingLock with
    | .lockPending use, none => some
      { s with
        pendingLock := some (.reader r)
        readers := Function.update s.readers r (.inPending use) }
    | _, _ => none
  | .deliver =>
    match s.readers r with
    | .inPending (.deliver header data) =>
      let decoded := decodeResponse header data
      let delivered := s.delivered r (responseRequestId header decoded) decoded
      some
        { delivered with
          pendingLock := none
          decoded := Function.update s.decoded r (s.decoded r ++ [decoded])
          readers := Function.update s.readers r .readHeader }
    | _ => none
  | .drain id =>
    match s.readers r, s.pending.lookup id with
    | .inPending (.drain failure), some c => some (s.complete id c ⟨.failure r, .error failure.error⟩)
    | _, _ => none
  | .drained =>
    match s.readers r with
    | .inPending (.drain failure) =>
      if s.pending.entries = [] then
        match failure with
        | .header _ => some { s with readers := Function.update s.readers r .lockWriter }
        | .extraData => some { s with pendingLock := none, readers := Function.update s.readers r .exited }
      else none
    | _ => none
  | .lockWriter =>
    match s.readers r, s.writerLock with
    | .lockWriter, none => some
      { s with
        writerLock := some (.reader r)
        readers := Function.update s.readers r .inWriter }
    | _, _ => none
  | .takeWriter =>
    match s.readers r with
    | .inWriter => some
      { s with
        writer := none
        writerLock := none
        readers := Function.update s.readers r .unlockPending }
    | _ => none
  | .unlockPending =>
    match s.readers r with
    | .unlockPending => some { s with pendingLock := none, readers := Function.update s.readers r .exited }
    | _ => none

/-- A step inside a connection, not the beginning or the dropping of a call on it. -/
def Action.internal : Action → Bool
  | .call _ (.start _) => false
  | .call _ .drop => false
  | .opening _ .start => false
  | .closing _ .start => false
  | _ => true

/-- One atomic step of anybody: a party, the network, or the scheduler. -/
def step (config : Config) (s : State) : Action → Option State
  | .call c action => stepCall config s c action
  | .opening o action => stepOpen config s o action
  | .closing k action => stepClose config s k action
  | .reader r action => stepReader s r action
  | .receive stream bytes =>
    if s.connected stream ∧ s.ended stream = none then
      some { s with inbox := Function.update s.inbox stream (s.inbox stream ++ bytes) }
    else none
  | .socketEnds stream err =>
    if s.connected stream ∧ s.ended stream = none then
      some
        { s with
          ended := Function.update s.ended stream (some err)
          faulted := Function.update s.faulted stream true }
    else none

end Ruslock.Connection
