import Ruslock.ClosedFlag
import Ruslock.ConnectionHealth
import Ruslock.Lib.Workload
import Ruslock.LockOrder
import Ruslock.ResponseMatching

namespace Ruslock.Connection
open Transition Wire Workload

/-- A step of somebody who is already at work: not the network, and not the
beginning or the dropping of a call. -/
def Action.own : Action → Bool
  | .receive _ _ => false
  | .socketEnds _ _ => false
  | action => action.internal

theorem Action.internal_of_own {action : Action} (own : action.own = true) : action.internal = true := by
  cases action <;> first | exact own | cases own

def Own (_ : State) (action : Action) : Prop := action.own = true

/-- Nobody at work can take a step. -/
def State.Still (config : Config) (s : State) : Prop := ∀ action, action.own = true → step config s action = none

def State.owner (s : State) : MutexName → Option Party
  | .writer => s.writerLock
  | .pending => s.pendingLock

/-- A party waits for a mutex that somebody holds. -/
def State.Waits (s : State) (party : Party) : Prop :=
  ∃ mutex, s.waitsFor party = some mutex ∧ (s.owner mutex).isSome = true

/-- A party has come to its end, or reads from a socket on which nothing more
has arrived. -/
def State.Resting (s : State) : Party → Prop
  | .call c => s.calls c = .idle ∨ (s.calls c).finished = true
  | .opening o => (s.opens o).atRest = true ∨
      ∃ stream, s.opens o = .readInit stream ∧ readExact 64 (s.inbox stream) = none ∧ s.ended stream = none
  | .closing k => (s.closes k).atRest = true
  | .reader r => s.readers r = .idle ∨ s.readers r = .exited ∨
      (s.readers r = .readHeader ∧ readExact 64 (s.inbox r) = none ∨
        (∃ header, s.readers r = .readExtra header) ∧ readExtraData (s.inbox r) = none) ∧ s.ended r = none

/-- Nobody holds a mutex, and nobody will without the network or another call. -/
structure Quiescent (s : State) : Prop where
  writerLock : s.writerLock = none
  pendingLock : s.pendingLock = none
  resting : ∀ party, s.Resting party

/-- More than the steps that a call still takes. The insertion of its entry
leaves one step to whoever drains the map. -/
def CallPc.work : CallPc → Nat
  | .start command =>
    match command.encode with
    | .ok encoded => 11 + encoded.frame.length
    | .error _ => 1
  | .lockPending encoded .insert => 10 + encoded.frame.length
  | .inPending encoded .insert => 9 + encoded.frame.length
  | .lockWriter encoded => 7 + encoded.frame.length
  | .inWriter encoded => 6 + encoded.frame.length
  | .writing _ _ rest => 5 + rest.length
  | .waiting _ => 4
  | .lockPending _ (.remove _) => 3
  | .inPending _ (.remove _) => 2
  | .unlockWriter => 1
  | .idle => 0
  | .returned _ => 0
  | .dropped => 0

/-- An `open` that spawns its reader hands some of its work to it. -/
def OpenPc.work : OpenPc → Nat
  | .lockWriter => 18
  | .inWriter => 17
  | .storeClosed => 16
  | .connect => 15
  | .configure _ => 14
  | .writeInit _ _ => 13
  | .readInit _ => 12
  | .split _ => 11
  | .lockPublish _ => 10
  | .inPublish _ => 9
  | .spawn _ => 8
  | .idle => 0
  | .returned _ => 0

def ClosePc.work : ClosePc → Nat
  | .storeClosed => 6
  | .lockWriter => 5
  | .inWriter => 4
  | .shutdown _ => 3
  | .lockPending => 2
  | .inPending => 1
  | .idle => 0
  | .returned => 0

/-- The way round the loop costs less than the header that pays for it. -/
def ReaderPc.work : ReaderPc → Nat
  | .readExtra _ => 10
  | .lockPending (.deliver _ _) => 9
  | .inPending (.deliver _ _) => 8
  | .readHeader => 7
  | .checkClosed _ => 6
  | .lockPending (.drain _) => 5
  | .inPending (.drain _) => 4
  | .lockWriter => 3
  | .inWriter => 2
  | .unlockPending => 1
  | .idle => 0
  | .exited => 0

def State.callWork (s : State) (c : CallId) : Nat := (s.calls c).work

def State.openWork (s : State) (o : OpenId) : Nat := (s.opens o).work

def State.closeWork (s : State) (k : CloseId) : Nat := (s.closes k).work

/-- A reader has its bytes to read as well. -/
def State.readerWork (s : State) (r : StreamId) : Nat := (s.readers r).work + (s.inbox r).length

/-- More than the steps that all who are at work can still take. -/
noncomputable def State.work (s : State) : Nat :=
  s.pending.keys.length + total s.callWork + total s.openWork + total s.closeWork + total s.readerWork

/-- Only finitely many have ever begun. -/
structure Few (s : State) : Prop where
  calls : {c | s.calls c ≠ .idle}.Finite
  opens : {o | s.opens o ≠ .idle}.Finite
  closes : {k | s.closes k ≠ .idle}.Finite
  readers : s.readerWork.support.Finite

theorem Few.new : Few State.new := by
  constructor <;> exact Set.finite_empty.subset fun _ inside => inside rfl

section Support

variable {s : State}

theorem Few.callWork (few : Few s) : s.callWork.support.Finite := by
  refine few.calls.subset fun c inside atPc => inside ?_
  rw [State.callWork, atPc, CallPc.work]

theorem Few.openWork (few : Few s) : s.openWork.support.Finite := by
  refine few.opens.subset fun o inside atPc => inside ?_
  rw [State.openWork, atPc, OpenPc.work]

theorem Few.closeWork (few : Few s) : s.closeWork.support.Finite := by
  refine few.closes.subset fun k inside atPc => inside ?_
  rw [State.closeWork, atPc, ClosePc.work]

end Support

section Entries

variable (pending : AList fun _ : Id16 => CallId) (id : Id16)

theorem keys_insert_le (c : CallId) : (pending.insert id c).keys.length ≤ pending.keys.length + 1 := by
  rw [AList.keys_insert, List.length_cons]
  exact Nat.succ_le_succ List.length_erase_le

theorem keys_erase_le : (pending.erase id).keys.length ≤ pending.keys.length := by
  rw [AList.keys_erase]
  exact List.length_erase_le

variable {pending id} in
/-- An entry that is drained is gone. -/
theorem keys_erase_lt {c : CallId} (entry : pending.lookup id = some c) :
    (pending.erase id).keys.length < pending.keys.length := by
  have member : id ∈ pending.keys := AList.lookup_isSome.mp (by rw [entry]; rfl)
  rw [AList.keys_erase, List.length_erase_of_mem member]
  exact Nat.sub_lt (List.length_pos_of_mem member) Nat.one_pos

end Entries

section Shares

variable {s after : State}

theorem State.callWork_congr (same : after.calls = s.calls) : after.callWork = s.callWork := by
  funext c
  rw [State.callWork, State.callWork, same]

theorem State.openWork_congr (same : after.opens = s.opens) : after.openWork = s.openWork := by
  funext o
  rw [State.openWork, State.openWork, same]

theorem State.closeWork_congr (same : after.closes = s.closes) : after.closeWork = s.closeWork := by
  funext k
  rw [State.closeWork, State.closeWork, same]

theorem State.readerWork_congr (readers : after.readers = s.readers) (inbox : after.inbox = s.inbox) :
    after.readerWork = s.readerWork := by
  funext r
  rw [State.readerWork, State.readerWork, readers, inbox]

theorem CallFrame.callWork {c : CallId} (frame : CallFrame s after c) :
    ∀ other ≠ c, after.callWork other = s.callWork other := by
  intro other apart
  rw [State.callWork, State.callWork, (frame.others other apart).1]

theorem OpenFrame.openWork {o : OpenId} (frame : OpenFrame s after o) :
    ∀ other ≠ o, after.openWork other = s.openWork other := by
  intro other apart
  rw [State.openWork, State.openWork, frame.others other apart]

theorem CloseFrame.closeWork {k : CloseId} (frame : CloseFrame s after k) :
    ∀ other ≠ k, after.closeWork other = s.closeWork other := by
  intro other apart
  rw [State.closeWork, State.closeWork, frame.others other apart]

theorem ReaderFrame.readerWork {r : StreamId} (frame : ReaderFrame s after r) :
    ∀ other ≠ r, after.readerWork other = s.readerWork other := by
  intro other apart
  rw [State.readerWork, State.readerWork, (frame.others other apart).1, (frame.others other apart).2.1]

end Shares

section Steps

variable {config : Config} {s after : State}

theorem enterPc_work (closed : Bool) (command : Command) :
    (enterPc closed command).work < (CallPc.start command).work := by
  cases encodes : command.encode with
  | error err => cases closed <;> simp [enterPc, CallPc.work, encodes]
  | ok encoded => cases closed <;> simp [enterPc, CallPc.work, encodes]

theorem removePc_work (encoded : EncodedCommand) (exit : Exit) :
    (removePc exit).work < (CallPc.inPending encoded (.remove exit)).work := by
  cases exit <;> simp only [removePc, CallPc.work] <;> omega

theorem CallStep.lessens {c : CallId} {action : CallAction} (taken : CallStep config s c action after)
    (own : (Action.call c action).own = true) :
    after.pending.keys.length + after.callWork c < s.pending.keys.length + s.callWork c := by
  cases taken with
  | start | drop => cases own
  | @enter command atPc =>
    have less := enterPc_work s.closed command
    simp only [State.callWork, Function.update_self, atPc]
    omega
  | @insert encoded atPc =>
    have grown := keys_insert_le s.pending encoded.requestId c
    simp only [State.callWork, Function.update_self, atPc, CallPc.work]
    omega
  | @remove encoded exit atPc =>
    have shrunk := keys_erase_le s.pending encoded.requestId
    have less := removePc_work encoded exit
    simp only [State.callWork, Function.update_self, atPc]
    omega
  | @lockPending encoded use atPc =>
    simp only [State.callWork, Function.update_self, atPc]
    cases use <;> simp only [CallPc.work] <;> omega
  | write atPc =>
    simp only [State.callWork, Function.update_self, atPc, CallPc.work, List.length_drop]
    omega
  | lockWriter atPc | noWriter atPc | foundWriter atPc | writeFails atPc | writeDone atPc | unlockWriter atPc
  | receive atPc | timeout atPc | disconnected atPc =>
    simp only [State.callWork, Function.update_self, atPc, CallPc.work]
    omega

/-- An `open` touches the reader and the received bytes of one stream only. -/
theorem OpenStep.lessens {o : OpenId} {action : OpenAction} (taken : OpenStep config s o action after) :
    ∃ stream, (∀ other ≠ stream, after.readerWork other = s.readerWork other) ∧
      ((Action.opening o action).own = true →
        after.openWork o + after.readerWork stream < s.openWork o + s.readerWork stream) := by
  cases taken with
  | start => exact ⟨0, fun _ _ => rfl, nofun⟩
  | @refused stream header rest _ atPc read | @accepted stream header rest _ atPc read =>
    refine ⟨stream, fun other apart => by simp only [State.readerWork, Function.update_of_ne apart], fun _ => ?_⟩
    have consumed := congrArg List.length (readExact_eq_some read)
    rw [List.length_append] at consumed
    simp only [State.openWork, State.readerWork, Function.update_self, atPc, OpenPc.work]
    omega
  | @spawn stream atPc =>
    refine ⟨stream, fun other apart => by simp only [State.readerWork, Function.update_of_ne apart], fun _ => ?_⟩
    simp only [State.openWork, State.readerWork, Function.update_self, atPc, OpenPc.work, ReaderPc.work]
    omega
  | findWriter atPc =>
    refine ⟨0, fun _ _ => rfl, fun _ => ?_⟩
    simp only [State.openWork, State.readerWork, Function.update_self, atPc]
    split <;> simp only [OpenPc.work] <;> omega
  | fails places =>
    refine ⟨0, fun _ _ => rfl, fun _ => ?_⟩
    rcases places with ⟨_, atPc | ⟨_, atPc⟩ | atPc | atPc⟩ <;>
      simp only [State.openWork, State.readerWork, Function.update_self, atPc, OpenPc.work] <;> omega
  | lockWriter atPc | storeClosed atPc | connect atPc | connectFails atPc | identify atPc | writeInit atPc
  | split atPc | lockPublish atPc | publish atPc =>
    refine ⟨0, fun _ _ => rfl, fun _ => ?_⟩
    simp only [State.openWork, State.readerWork, Function.update_self, atPc, OpenPc.work]
    omega

theorem CloseStep.lessens {k : CloseId} {action : CloseAction} (taken : CloseStep config s k action after)
    (own : (Action.closing k action).own = true) :
    after.pending.keys.length + after.closeWork k < s.pending.keys.length + s.closeWork k := by
  cases taken with
  | start => cases own
  | drain _ entry =>
    have shrunk := keys_erase_lt entry
    simp only [State.closeWork, State.complete]
    omega
  | storeClosed atPc | lockWriter atPc | noWriter atPc | tookWriter atPc | shutdown atPc | lockPending atPc
  | finish atPc =>
    simp only [State.closeWork, Function.update_self, atPc, ClosePc.work]
    omega

theorem ReaderStep.lessens {r : StreamId} {action : ReaderAction} (taken : ReaderStep s r action after) :
    after.pending.keys.length + after.readerWork r < s.pending.keys.length + s.readerWork r := by
  cases taken with
  | @readHeader header rest atPc read =>
    have consumed := congrArg List.length (readExact_eq_some read)
    rw [List.length_append, Block.length_eq] at consumed
    simp only [State.readerWork, Function.update_self, atPc]
    split <;> simp only [ReaderPc.work] <;> omega
  | readExtra atPc read =>
    have consumed := readExtraData_shorter read
    simp only [State.readerWork, Function.update_self, atPc, ReaderPc.work]
    omega
  | checkClosed atPc =>
    simp only [State.readerWork, Function.update_self, atPc]
    split <;> simp only [ReaderPc.work] <;> omega
  | @lockPending use atPc =>
    simp only [State.readerWork, Function.update_self, atPc]
    cases use <;> simp only [ReaderPc.work] <;> omega
  | deliver atPc entry =>
    have shrunk := keys_erase_lt entry
    simp only [State.readerWork, State.complete, Function.update_self, atPc, ReaderPc.work]
    omega
  | drain _ entry =>
    have shrunk := keys_erase_lt entry
    simp only [State.readerWork, State.complete]
    omega
  | headerFails atPc | extraFails atPc | discard atPc | drainedHeader atPc | drainedExtra atPc | lockWriter atPc
  | takeWriter atPc | unlockPending atPc =>
    simp only [State.readerWork, Function.update_self, atPc, ReaderPc.work]
    omega

/-- The network touches the received bytes of one stream only. -/
theorem NetworkStep.readerWork {action : Action} (taken : NetworkStep s action after) :
    action.own = false ∧ ∃ stream, ∀ other ≠ stream, after.readerWork other = s.readerWork other := by
  cases taken with
  | @receive stream =>
    refine ⟨rfl, stream, fun other apart => ?_⟩
    simp only [State.readerWork, Function.update_of_ne apart]
  | socketEnds => exact ⟨rfl, 0, fun _ _ => rfl⟩

theorem Few.step {action : Action} (few : Few s) (taken : Step config s action after) : Few after := by
  have moved : ∀ (r : StreamId), (∀ other ≠ r, after.readerWork other = s.readerWork other) →
      after.readerWork.support.Finite := by
    intro r others
    refine finite_moved r few.readers fun other apart inside => ?_
    rw [Function.mem_support, ← others other apart]
    exact inside
  cases taken with
  | @call c _ _ taken =>
    have frame := taken.frame
    refine ⟨finite_moved c few.calls fun other apart begun => ?_, frame.opens ▸ few.opens, frame.closes ▸ few.closes,
      State.readerWork_congr frame.readers frame.inbox ▸ few.readers⟩
    rw [Set.mem_ofPred, ← (frame.others other apart).1]
    exact begun
  | @opening o _ _ taken =>
    obtain ⟨stream, others, _⟩ := taken.lessens
    have frame := taken.frame
    refine ⟨frame.calls ▸ few.calls, finite_moved o few.opens fun other apart begun => ?_, frame.closes ▸ few.closes,
      moved stream others⟩
    rw [Set.mem_ofPred, ← frame.others other apart]
    exact begun
  | @closing k _ _ taken =>
    have frame := taken.frame
    refine ⟨frame.calls ▸ few.calls, frame.opens ▸ few.opens, finite_moved k few.closes fun other apart begun => ?_,
      State.readerWork_congr frame.readers frame.inbox ▸ few.readers⟩
    rw [Set.mem_ofPred, ← frame.others other apart]
    exact begun
  | @reader r _ _ taken =>
    have frame := taken.frame
    exact ⟨frame.calls ▸ few.calls, frame.opens ▸ few.opens, frame.closes ▸ few.closes, moved r frame.readerWork⟩
  | network taken =>
    obtain ⟨_, stream, others⟩ := taken.readerWork
    have frame := taken.frame
    exact ⟨frame.calls ▸ few.calls, frame.opens ▸ few.opens, frame.closes ▸ few.closes, moved stream others⟩

/-- Whoever takes a step has less left to do, and gives nobody more than that. -/
theorem Step.lessens {action : Action} (taken : Step config s action after) (few : Few s)
    (own : action.own = true) : after.work < s.work := by
  unfold State.work
  cases taken with
  | call taken =>
    have frame := taken.frame
    have moved := total_moved few.callWork frame.callWork
    have less := taken.lessens own
    rw [State.openWork_congr frame.opens, State.closeWork_congr frame.closes,
      State.readerWork_congr frame.readers frame.inbox]
    omega
  | opening taken =>
    obtain ⟨stream, others, lessens⟩ := taken.lessens
    have frame := taken.frame
    have moved := total_moved few.openWork frame.openWork
    have shifted := total_moved few.readers others
    have less := lessens own
    rw [State.callWork_congr frame.calls, State.closeWork_congr frame.closes, frame.pending]
    omega
  | closing taken =>
    have frame := taken.frame
    have moved := total_moved few.closeWork frame.closeWork
    have less := taken.lessens own
    rw [State.callWork_congr frame.calls, State.openWork_congr frame.opens,
      State.readerWork_congr frame.readers frame.inbox]
    omega
  | reader taken =>
    have frame := taken.frame
    have moved := total_moved few.readers frame.readerWork
    have less := taken.lessens
    rw [State.callWork_congr frame.calls, State.openWork_congr frame.opens, State.closeWork_congr frame.closes]
    omega
  | network taken =>
    rw [taken.readerWork.1] at own
    cases own

theorem Few.of_reach {allowed : State → Action → Prop} (reach : Reached config allowed s) : Few s :=
  reach.invariant .new fun _ _ _ _ few _ run => few.step (.of_run run)

end Steps

/-- A call, an `open` or a `close` has begun. -/
def State.Begun (s : State) : Party → Prop
  | .call c => s.calls c ≠ .idle
  | .opening o => s.opens o ≠ .idle
  | .closing k => s.closes k ≠ .idle
  | .reader _ => False

/-- A call, an `open` or a `close` has returned. -/
def State.Over (s : State) : Party → Prop
  | .call c => ∃ outcome, s.calls c = .returned outcome
  | .opening o => ∃ outcome, s.opens o = .returned outcome
  | .closing k => s.closes k = .returned
  | .reader _ => False

section Begun

variable {config : Config} {s after : State}

theorem OpenStep.busy {o : OpenId} {action : OpenAction} (taken : OpenStep config s o action after) :
    after.opens o ≠ .idle := by
  cases taken with
  | findWriter =>
    simp only [Function.update_self]
    split <;> nofun
  | start | lockWriter | storeClosed | connect | connectFails | fails | identify | writeInit | refused | accepted | split
  | lockPublish | publish | spawn =>
    simp only [Function.update_self]
    nofun

/-- Who takes a step with the caller of the connection. -/
def Action.party : Action → Option Party
  | .call c _ => some (.call c)
  | .opening o _ => some (.opening o)
  | .closing k _ => some (.closing k)
  | _ => none

theorem Step.begins {action : Action} {party : Party} (taken : Step config s action after)
    (mine : action.party = some party) : after.Begun party := by
  cases taken with
  | call taken =>
    cases mine
    exact taken.busy
  | opening taken =>
    cases mine
    exact taken.busy
  | closing taken =>
    cases mine
    exact taken.busy
  | reader => cases mine
  | network taken => cases taken <;> cases mine

/-- What has begun does not become undone. -/
theorem State.Begun.step {party : Party} {action : Action} (begun : s.Begun party)
    (taken : Step config s action after) : after.Begun party := by
  cases party with
  | reader => cases begun
  | call c =>
    simp only [State.Begun] at begun ⊢
    cases taken with
    | @call moved _ _ taken =>
      by_cases same : c = moved
      · subst same
        exact taken.busy
      · rw [(taken.frame.others c same).1]
        exact begun
    | opening taken => rw [taken.frame.calls]; exact begun
    | closing taken => rw [taken.frame.calls]; exact begun
    | reader taken => rw [taken.frame.calls]; exact begun
    | network taken => rw [taken.frame.calls]; exact begun
  | opening o =>
    simp only [State.Begun] at begun ⊢
    cases taken with
    | @opening moved _ _ taken =>
      by_cases same : o = moved
      · subst same
        exact taken.busy
      · rw [taken.frame.others o same]
        exact begun
    | call taken => rw [taken.frame.opens]; exact begun
    | closing taken => rw [taken.frame.opens]; exact begun
    | reader taken => rw [taken.frame.opens]; exact begun
    | network taken => rw [taken.frame.opens]; exact begun
  | closing k =>
    simp only [State.Begun] at begun ⊢
    cases taken with
    | @closing moved _ _ taken =>
      by_cases same : k = moved
      · subst same
        exact taken.busy
      · rw [taken.frame.others k same]
        exact begun
    | call taken => rw [taken.frame.closes]; exact begun
    | opening taken => rw [taken.frame.closes]; exact begun
    | reader taken => rw [taken.frame.closes]; exact begun
    | network taken => rw [taken.frame.closes]; exact begun

/-- What a call, an `open` or a `close` costs when it begins. -/
def Action.cost : Action → Nat
  | .call _ (.start command) => (CallPc.start command).work
  | .opening _ .start => OpenPc.lockWriter.work
  | .closing _ .start => ClosePc.storeClosed.work
  | _ => 0

theorem CallPc.work_start (command : Command) : 0 < (CallPc.start command).work := by
  simp only [CallPc.work]
  split <;> omega

/-- Whoever begins brings his own work, and nobody else any. -/
theorem Step.brings {action : Action} (taken : Step config s action after) (few : Few s)
    (begins : 0 < action.cost) : after.work = s.work + action.cost := by
  unfold State.work
  cases taken with
  | call taken =>
    have frame := taken.frame
    have moved := total_moved few.callWork frame.callWork
    rw [State.openWork_congr frame.opens, State.closeWork_congr frame.closes,
      State.readerWork_congr frame.readers frame.inbox]
    cases taken with
    | start atPc =>
      have idle : CallPc.idle.work = 0 := rfl
      simp only [State.callWork, Function.update_self, atPc, idle] at moved
      simp only [Action.cost]
      omega
    | _ => cases begins
  | @opening o _ _ taken =>
    have frame := taken.frame
    have moved := total_moved few.openWork frame.openWork
    rw [State.callWork_congr frame.calls, State.closeWork_congr frame.closes, frame.pending]
    cases taken with
    | start atPc =>
      have reads : State.readerWork { s with opens := Function.update s.opens o .lockWriter } = s.readerWork := rfl
      simp only [State.openWork, Function.update_self, atPc, OpenPc.work] at moved
      simp only [Action.cost, OpenPc.work, reads]
      omega
    | _ => cases begins
  | closing taken =>
    have frame := taken.frame
    have moved := total_moved few.closeWork frame.closeWork
    rw [State.callWork_congr frame.calls, State.openWork_congr frame.opens,
      State.readerWork_congr frame.readers frame.inbox]
    cases taken with
    | start atPc =>
      simp only [State.closeWork, Function.update_self, atPc, ClosePc.work] at moved
      simp only [Action.cost, ClosePc.work]
      omega
    | _ => cases begins
  | reader => cases begins
  | network taken => cases taken <;> cases begins

/-- A connection takes one more call, `open` and `close`. -/
theorem Few.spareCall (few : Few s) (config : Config) (command : Command) :
    ∃ c client, Connection.step config s (.call c (.start command)) = some client := by
  obtain ⟨c, unused⟩ := few.calls.exists_notMem
  have idle : s.calls c = .idle := not_not.mp unused
  exact ⟨c, _, by simp only [Connection.step, stepCall, idle]; rfl⟩

theorem Few.spareOpen (few : Few s) (config : Config) :
    ∃ o client, Connection.step config s (.opening o .start) = some client := by
  obtain ⟨o, unused⟩ := few.opens.exists_notMem
  have idle : s.opens o = .idle := not_not.mp unused
  exact ⟨o, _, by simp only [Connection.step, stepOpen, idle]; rfl⟩

theorem Few.spareClose (few : Few s) (config : Config) :
    ∃ k client, Connection.step config s (.closing k .start) = some client := by
  obtain ⟨k, unused⟩ := few.closes.exists_notMem
  have idle : s.closes k = .idle := not_not.mp unused
  exact ⟨k, _, by simp only [Connection.step, stepClose, idle]; rfl⟩

end Begun

section Still

variable {config : Config} {s : State}

theorem State.Still.not_run {action : Action} {after : State} (still : s.Still config) (own : action.own = true)
    (run : step config s action = some after) : False := by
  rw [still action own] at run
  cases run

theorem State.Still.call (still : s.Still config) (c : CallId) : s.Resting (.call c) ∨ s.Waits (.call c) := by
  have moves (action : CallAction) {after : State} (own : (Action.call c action).own = true)
      (run : stepCall config s c action = some after) : s.Resting (.call c) ∨ s.Waits (.call c) :=
    (still.not_run own run).elim
  cases atPc : s.calls c with
  | idle => exact .inl (.inl atPc)
  | returned | dropped => exact .inl (.inr (by rw [atPc]; rfl))
  | start command => exact moves .enter rfl (by simp only [stepCall, atPc]; rfl)
  | lockPending encoded use =>
    cases free : s.pendingLock with
    | none => exact moves .lockPending rfl (by simp only [stepCall, atPc, free]; rfl)
    | some party => exact .inr ⟨.pending, by simp only [State.waitsFor, atPc], by rw [State.owner, free]; rfl⟩
  | inPending encoded use =>
    cases use with
    | insert => exact moves .insert rfl (by simp only [stepCall, atPc]; rfl)
    | remove exit => exact moves .remove rfl (by simp only [stepCall, atPc]; rfl)
  | lockWriter encoded =>
    cases free : s.writerLock with
    | none => exact moves .lockWriter rfl (by simp only [stepCall, atPc, free]; rfl)
    | some party => exact .inr ⟨.writer, by simp only [State.waitsFor, atPc], by rw [State.owner, free]; rfl⟩
  | inWriter encoded =>
    cases stored : s.writer <;> exact moves .findWriter rfl (by simp only [stepCall, atPc, stored]; rfl)
  | writing encoded stream rest =>
    cases rest with
    | nil => exact moves .writeDone rfl (by simp only [stepCall, atPc]; rfl)
    | cons byte rest => exact moves (.write 1) rfl (by simp [stepCall, atPc]; rfl)
  | unlockWriter => exact moves .unlockWriter rfl (by simp only [stepCall, atPc]; rfl)
  | waiting encoded =>
    cases told : s.channel c with
    | nil => exact moves .timeout rfl (by simp only [stepCall, atPc, told]; rfl)
    | cons message later => exact moves .receive rfl (by simp only [stepCall, atPc, told]; rfl)

theorem State.Still.opening (still : s.Still config) (o : OpenId) :
    s.Resting (.opening o) ∨ s.Waits (.opening o) := by
  have moves (action : OpenAction) {after : State} (own : (Action.opening o action).own = true)
      (run : stepOpen config s o action = some after) : s.Resting (.opening o) ∨ s.Waits (.opening o) :=
    (still.not_run own run).elim
  cases atPc : s.opens o with
  | idle | returned => exact .inl (.inl (by rw [atPc]; rfl))
  | lockWriter =>
    cases free : s.writerLock with
    | none => exact moves .lockWriter rfl (by simp only [stepOpen, atPc, free]; rfl)
    | some party => exact .inr ⟨.writer, by simp only [State.waitsFor, atPc], by rw [State.owner, free]; rfl⟩
  | inWriter => exact moves .findWriter rfl (by simp only [stepOpen, atPc]; rfl)
  | storeClosed => exact moves .storeClosed rfl (by simp only [stepOpen, atPc]; rfl)
  | connect => exact moves (.connectFails .timedOut) rfl (by simp only [stepOpen, atPc]; rfl)
  | configure stream => exact moves (.identify ⟨Block.zero 16⟩ ⟨Block.zero 16⟩) rfl (by simp only [stepOpen, atPc]; rfl)
  | writeInit stream init => exact moves .writeInit rfl (by simp only [stepOpen, atPc]; rfl)
  | readInit stream =>
    cases read : readExact 64 (s.inbox stream) with
    | some split =>
      cases checked : initOutcome split.1 <;>
        exact moves .readInit rfl (by simp only [stepOpen, atPc, read, checked]; rfl)
    | none =>
      cases ended : s.ended stream with
      | none => exact .inl (.inr ⟨stream, atPc, read, ended⟩)
      | some err => exact moves (.fails err) rfl (by simp only [stepOpen, atPc, read, ended, and_self, if_true]; rfl)
  | split stream => exact moves .split rfl (by simp only [stepOpen, atPc]; rfl)
  | lockPublish stream =>
    cases free : s.writerLock with
    | none => exact moves .lockPublish rfl (by simp only [stepOpen, atPc, free]; rfl)
    | some party => exact .inr ⟨.writer, by simp only [State.waitsFor, atPc], by rw [State.owner, free]; rfl⟩
  | inPublish stream => exact moves .publish rfl (by simp only [stepOpen, atPc]; rfl)
  | spawn stream => exact moves .spawn rfl (by simp only [stepOpen, atPc]; rfl)

/-- Whoever drains the pending map can go on or is done. -/
theorem drain_cases (pending : AList fun _ : Id16 => CallId) :
    pending.entries = [] ∨ ∃ id c, pending.lookup id = some c := by
  cases entries : pending.entries with
  | nil => exact .inl rfl
  | cons entry rest =>
    refine .inr ⟨entry.1, entry.2, AList.mem_lookup_iff.mpr ?_⟩
    rw [entries]
    exact List.mem_cons_self

theorem State.Still.closing (still : s.Still config) (k : CloseId) :
    s.Resting (.closing k) ∨ s.Waits (.closing k) := by
  have moves (action : CloseAction) {after : State} (own : (Action.closing k action).own = true)
      (run : stepClose config s k action = some after) : s.Resting (.closing k) ∨ s.Waits (.closing k) :=
    (still.not_run own run).elim
  cases atPc : s.closes k with
  | idle | returned => exact .inl (by rw [State.Resting, atPc]; rfl)
  | storeClosed => exact moves .storeClosed rfl (by simp only [stepClose, atPc]; rfl)
  | lockWriter =>
    cases free : s.writerLock with
    | none => exact moves .lockWriter rfl (by simp only [stepClose, atPc, free]; rfl)
    | some party => exact .inr ⟨.writer, by simp only [State.waitsFor, atPc], by rw [State.owner, free]; rfl⟩
  | inWriter =>
    cases stored : s.writer <;> exact moves .takeWriter rfl (by simp only [stepClose, atPc, stored]; rfl)
  | shutdown stream => exact moves .shutdown rfl (by simp only [stepClose, atPc]; rfl)
  | lockPending =>
    cases free : s.pendingLock with
    | none => exact moves .lockPending rfl (by simp only [stepClose, atPc, free]; rfl)
    | some party => exact .inr ⟨.pending, by simp only [State.waitsFor, atPc], by rw [State.owner, free]; rfl⟩
  | inPending =>
    rcases drain_cases s.pending with empty | ⟨id, c, entry⟩
    · exact moves .finish rfl (by simp only [stepClose, atPc, empty, if_true]; rfl)
    · exact moves (.drain id) rfl (by simp only [stepClose, atPc, entry]; rfl)

theorem State.Still.reader (still : s.Still config) (r : StreamId) :
    s.Resting (.reader r) ∨ s.Waits (.reader r) := by
  have moves (action : ReaderAction) {after : State} (own : (Action.reader r action).own = true)
      (run : stepReader s r action = some after) : s.Resting (.reader r) ∨ s.Waits (.reader r) :=
    (still.not_run own run).elim
  cases atPc : s.readers r with
  | idle => exact .inl (.inl atPc)
  | exited => exact .inl (.inr (.inl atPc))
  | readHeader =>
    cases read : readExact 64 (s.inbox r) with
    | some split => exact moves .readHeader rfl (by simp only [stepReader, atPc, read]; rfl)
    | none =>
      cases ended : s.ended r with
      | none => exact .inl (.inr (.inr ⟨.inl ⟨atPc, read⟩, ended⟩))
      | some err => exact moves .headerFails rfl (by simp only [stepReader, atPc, read, ended]; rfl)
  | readExtra header =>
    cases read : readExtraData (s.inbox r) with
    | some split => exact moves .readExtra rfl (by simp only [stepReader, atPc, read]; rfl)
    | none =>
      cases ended : s.ended r with
      | none => exact .inl (.inr (.inr ⟨.inr ⟨⟨header, atPc⟩, read⟩, ended⟩))
      | some err => exact moves .extraFails rfl (by simp only [stepReader, atPc, read, ended]; rfl)
  | checkClosed err => exact moves .checkClosed rfl (by simp only [stepReader, atPc]; rfl)
  | lockPending use =>
    cases free : s.pendingLock with
    | none => exact moves .lockPending rfl (by simp only [stepReader, atPc, free]; rfl)
    | some party => exact .inr ⟨.pending, by simp only [State.waitsFor, atPc], by rw [State.owner, free]; rfl⟩
  | inPending use =>
    cases use with
    | deliver header data => exact moves .deliver rfl (by simp only [stepReader, atPc]; rfl)
    | drain failure =>
      rcases drain_cases s.pending with empty | ⟨id, c, entry⟩
      · cases failure <;> exact moves .drained rfl (by simp only [stepReader, atPc, empty, if_true]; rfl)
      · exact moves (.drain id) rfl (by simp only [stepReader, atPc, entry]; rfl)
  | lockWriter =>
    cases free : s.writerLock with
    | none => exact moves .lockWriter rfl (by simp only [stepReader, atPc, free]; rfl)
    | some party => exact .inr ⟨.writer, by simp only [State.waitsFor, atPc], by rw [State.owner, free]; rfl⟩
  | inWriter => exact moves .takeWriter rfl (by simp only [stepReader, atPc]; rfl)
  | unlockPending => exact moves .unlockPending rfl (by simp only [stepReader, atPc]; rfl)

theorem State.Still.party (still : s.Still config) (party : Party) : s.Resting party ∨ s.Waits party := by
  cases party with
  | call c => exact still.call c
  | opening o => exact still.opening o
  | closing k => exact still.closing k
  | reader r => exact still.reader r

theorem State.Resting.holds {party : Party} (resting : s.Resting party) :
    s.holdsWriter party = false ∧ s.holdsPending party = false := by
  cases party with
  | call c =>
    simp only [State.holdsWriter, State.holdsPending]
    rcases resting with atPc | finished
    · rw [atPc]
      exact ⟨rfl, rfl⟩
    · cases atPc : s.calls c <;> rw [atPc] at finished <;> first | exact ⟨rfl, rfl⟩ | cases finished
  | opening o =>
    refine ⟨?_, rfl⟩
    simp only [State.holdsWriter]
    rcases resting with ended | ⟨stream, atPc, _⟩
    · cases atPc : s.opens o <;> rw [atPc] at ended <;> first | rfl | cases ended
    · rw [atPc]
      rfl
  | closing k =>
    simp only [State.holdsWriter, State.holdsPending]
    simp only [State.Resting] at resting
    cases atPc : s.closes k <;> rw [atPc] at resting <;> first | exact ⟨rfl, rfl⟩ | cases resting
  | reader r =>
    simp only [State.holdsWriter, State.holdsPending]
    rcases resting with atPc | atPc | ⟨⟨atPc, _⟩ | ⟨⟨header, atPc⟩, _⟩, _⟩ <;> rw [atPc] <;> exact ⟨rfl, rfl⟩

/-- Nobody waits for a mutex that he holds. -/
theorem State.waitsFor_other {party : Party} :
    (s.holdsWriter party = true → s.waitsFor party ≠ some .writer) ∧
      (s.holdsPending party = true → s.waitsFor party ≠ some .pending) := by
  cases party with
  | call c => cases atPc : s.calls c <;> simp [State.holdsWriter, State.holdsPending, State.waitsFor, atPc,
      CallPc.holdsWriter, CallPc.holdsPending]
  | opening o => cases atPc : s.opens o <;> simp [State.holdsWriter, State.holdsPending, State.waitsFor, atPc,
      OpenPc.holdsWriter]
  | closing k => cases atPc : s.closes k <;> simp [State.holdsWriter, State.holdsPending, State.waitsFor, atPc,
      ClosePc.holdsWriter, ClosePc.holdsPending]
  | reader r => cases atPc : s.readers r <;> simp [State.holdsWriter, State.holdsPending, State.waitsFor, atPc,
      ReaderPc.holdsWriter, ReaderPc.holdsPending]

/-- Where nobody moves, whoever holds the writer mutex waits for the pending mutex. -/
theorem State.Still.writer (still : s.Still config) {party : Party} (holds : s.holdsWriter party = true) :
    s.waitsFor party = some .pending ∧ s.pendingLock.isSome = true := by
  rcases still.party party with resting | ⟨mutex, waits, owned⟩
  · rw [resting.holds.1] at holds
    cases holds
  · cases mutex with
    | writer => exact absurd waits (s.waitsFor_other.1 holds)
    | pending => exact ⟨waits, owned⟩

theorem State.Still.pending (still : s.Still config) {party : Party} (holds : s.holdsPending party = true) :
    s.waitsFor party = some .writer ∧ s.writerLock.isSome = true := by
  rcases still.party party with resting | ⟨mutex, waits, owned⟩
  · rw [resting.holds.2] at holds
    cases holds
  · cases mutex with
    | writer => exact ⟨waits, owned⟩
    | pending => exact absurd waits (s.waitsFor_other.2 holds)

/-- Where nobody moves, everybody rests, or two parties wait for each other. -/
theorem State.Still.quiescent (still : s.Still config) (locks : Locks s) : Quiescent s ∨ s.Deadlock := by
  cases writer : s.writerLock with
  | some first =>
    have holdsWriter := (locks.writer first).mp writer
    obtain ⟨waitsPending, owned⟩ := still.writer holdsWriter
    obtain ⟨second, pending⟩ := Option.isSome_iff_exists.mp owned
    have holdsPending := (locks.pending second).mp pending
    exact .inr ⟨first, second, holdsWriter, waitsPending, holdsPending, (still.pending holdsPending).1⟩
  | none =>
    cases pending : s.pendingLock with
    | some second =>
      have owned := (still.pending ((locks.pending second).mp pending)).2
      rw [writer] at owned
      cases owned
    | none =>
      refine .inl ⟨writer, pending, fun party => ?_⟩
      rcases still.party party with resting | ⟨mutex, _, owned⟩
      · exact resting
      · cases mutex with
        | writer =>
          rw [State.owner, writer] at owned
          cases owned
        | pending =>
          rw [State.owner, pending] at owned
          cases owned

end Still

/-- When all is quiet every call that was made is over. -/
theorem Quiescent.call {s : State} (quiescent : Quiescent s) (c : CallId) :
    s.calls c = .idle ∨ s.calls c = .dropped ∨ ∃ outcome, s.calls c = .returned outcome := by
  rcases quiescent.resting (.call c) with idle | finished
  · exact .inl idle
  · cases atPc : s.calls c with
    | dropped => exact .inr (.inl rfl)
    | returned outcome => exact .inr (.inr ⟨outcome, rfl⟩)
    | _ =>
      rw [atPc] at finished
      cases finished

/-- The steps that are left to the parties of a connection are bounded. -/
theorem own_bounded {config : Config} {s : State} (reach : Reached config Always s) :
    ∃ bound, ∀ actions later, (∀ action ∈ actions, action.own = true) → run (step config) s actions = some later →
      actions.length ≤ bound := by
  refine ⟨s.work, fun actions later own executed => ?_⟩
  have meets : RunAllowed (step config) Own s actions := .of_forall (fun action member _ => own action member) s
  refine length_le (fun before action after onward allowed taken => ?_) meets executed
  exact (Step.of_run taken).lessens (.of_reach (reach.trans onward.always)) allowed

/-- Left to themselves the parties reach a state in which nobody moves. -/
theorem exists_still {config : Config} {s : State} (reach : Reached config Always s) :
    ∃ last, Reach (step config) Own s last ∧ last.Still config :=
  exists_settled fun _ _ _ onward own taken =>
    (Step.of_run taken).lessens (.of_reach (reach.trans onward.always)) own

theorem freshIds_of_own {action : Action} (s : State) (own : action.own = true) : FreshIds s action := by
  refine freshIds_of_not_starts s ?_
  cases action with
  | call c action => cases action <;> first | rfl | cases own
  | _ => rfl

/-- When all is quiet only dropped calls have left entries behind. -/
theorem Quiescent.dropped {config : Config} {s : State} (quiescent : Quiescent s) (reach : Reached config FreshIds s)
    {id : Id16} {c : CallId} (entry : s.pending.lookup id = some c) : s.calls c = .dropped := by
  have inside := ((Matching.of_reach reach).registered id c entry).1
  rcases quiescent.resting (.call c) with atPc | finished
  · rw [atPc] at inside
    cases inside
  · cases atPc : s.calls c with
    | dropped => rfl
    | returned =>
      rw [atPc] at inside
      cases inside
    | _ =>
      rw [atPc] at finished
      cases finished

/-- Left to themselves the parties of a connection come to rest in every order
of their steps, unless a caller and a failing reader wait for each other. -/
theorem comes_to_rest {config : Config} {s : State} (reach : Reached config Always s) :
    (∃ bound, ∀ actions later, (∀ action ∈ actions, action.own = true) → run (step config) s actions = some later →
      actions.length ≤ bound) ∧
    (∀ later, Reach (step config) Own s later → later.Still config → Quiescent later ∨ later.Deadlock) ∧
    (Reached config FreshIds s → ∀ later, Reach (step config) Own s later → Quiescent later →
      ∀ id c, later.pending.lookup id = some c → later.calls c = .dropped) := by
  refine ⟨own_bounded reach, fun later onward still => ?_, fun fresh later onward quiescent id c entry => ?_⟩
  · exact still.quiescent (.of_reach (reach.trans onward.always))
  · exact quiescent.dropped (fresh.trans (onward.mono fun now _ own => freshIds_of_own now own)) entry

/-- A ping that is made before the connection is open, and not answered. -/
def unansweredPing : List Action :=
  registerActions 0 ⟨Block.ofNatLE 16 7⟩ ++ openActions 0 0 ++ writeActions 0

theorem comes_to_rest_unansweredPing : ∃ s : State, (s.calls 0).sent = true ∧ (s.calls 0).finished = false ∧
    (∃ bound, ∀ actions later, (∀ action ∈ actions, action.own = true) →
      run (step ⟨.blocking, ""⟩) s actions = some later → actions.length ≤ bound) ∧
    (∀ later, Reach (step ⟨.blocking, ""⟩) Own s later → later.Still ⟨.blocking, ""⟩ →
      Quiescent later ∨ later.Deadlock) ∧
    ∀ later, Reach (step ⟨.blocking, ""⟩) Own s later → Quiescent later →
      ∀ id c, later.pending.lookup id = some c → later.calls c = .dropped := by
  have meets : RunAllowed (step ⟨.blocking, ""⟩) FreshIds State.new unansweredPing := by
    refine .cons (fun _ _ used => nomatch used) (.of_forall fun action member s => freshIds_of_not_starts s ?_)
    revert action
    decide
  have executed : (run (step ⟨.blocking, ""⟩) State.new unansweredPing).any
      (fun s => (s.calls 0).sent && !(s.calls 0).finished) = true := by decide
  obtain ⟨s, reach, waits⟩ := Reach.exists_of_run meets executed
  obtain ⟨sent, unfinished⟩ := Bool.and_eq_true_iff.mp waits
  obtain ⟨bounded, settles, cleaned⟩ := comes_to_rest reach.always
  exact ⟨s, sent, (Bool.not_eq_true' _).mp unfinished, bounded, settles, cleaned reach⟩

end Ruslock.Connection
