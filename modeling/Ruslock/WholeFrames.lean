import Ruslock.ConnectionPending
import Ruslock.RequestStream

namespace Ruslock.Connection
open Transition Wire

/-- The frame of a command that some call was made with. -/
def State.Frame (s : State) (encoded : EncodedCommand) : Prop :=
  ∃ c command, s.command c = some command ∧ command.encode = .ok encoded

/-- What was sent on the stream is a sequence of whole frames, and then the tail. -/
def State.SentWith (s : State) (stream : StreamId) (tail : List UInt8) : Prop :=
  ∃ frames : List EncodedCommand, (∀ encoded ∈ frames, s.Frame encoded) ∧
    s.sent stream = frames.flatMap EncodedCommand.frame ++ tail

/-- A call never finds in the writer a stream on which an earlier frame was cut. -/
def Uncut (s : State) : Action → Prop
  | .call _ .findWriter => ∀ stream, s.writer = some stream → s.cut stream = false
  | _ => True

/-- A stream is between two frames, or inside the frame of the one call that
writes to it, or was left inside a frame. -/
structure Framing (s : State) : Prop where
  settled : ∀ stream, s.cut stream = false → (∀ c, (s.calls c).stream ≠ some stream) → s.SentWith stream []
  writing : ∀ c encoded stream rest, s.calls c = .writing encoded stream rest →
    s.cut stream = false ∧ ∃ front, encoded.frame = front ++ rest ∧ s.SentWith stream front
  cut : ∀ stream, s.cut stream = true →
    ∃ encoded front, s.Frame encoded ∧ front <+: encoded.frame ∧ s.SentWith stream front

theorem Framing.new : Framing State.new where
  settled _ _ _ := ⟨[], nofun, rfl⟩
  writing _ _ _ _ atPc := nomatch atPc
  cut _ isCut := nomatch isCut

theorem CallPc.stream_eq_some {pc : CallPc} {stream : StreamId} (writing : pc.stream = some stream) :
    ∃ encoded rest, pc = .writing encoded stream rest := by
  cases pc with
  | writing encoded target rest =>
    cases writing
    exact ⟨encoded, rest, rfl⟩
  | _ => cases writing

/-- Whoever holds the writer mutex is the only one who can be writing. -/
theorem Locks.alone {s : State} {c c' : CallId} {stream : StreamId} (locks : Locks s)
    (holds : (s.calls c).holdsWriter = true) (writing : (s.calls c').stream = some stream) : c' = c := by
  have owner : s.holdsWriter (.call c) = true := holds
  have writer : s.holdsWriter (.call c') = true := CallPc.holdsWriter_of_stream writing
  exact Party.call.inj (locks.writer.unique writer owner)

section Rules

variable {s after : State}

theorem State.SentWith.mono {stream : StreamId} {tail : List UInt8} (sentWith : s.SentWith stream tail)
    (frames : ∀ encoded, s.Frame encoded → after.Frame encoded) (sent : after.sent stream = s.sent stream) :
    after.SentWith stream tail := by
  obtain ⟨before, known, same⟩ := sentWith
  exact ⟨before, fun encoded member => frames encoded (known encoded member), sent.trans same⟩

/-- A finished frame joins the whole ones. -/
theorem State.SentWith.finish {stream : StreamId} {encoded : EncodedCommand}
    (sentWith : s.SentWith stream encoded.frame) (known : s.Frame encoded) : s.SentWith stream [] := by
  obtain ⟨frames, all, same⟩ := sentWith
  refine ⟨frames ++ [encoded], List.forall_mem_append.mpr ⟨all, List.forall_mem_singleton.mpr known⟩, ?_⟩
  rw [same, List.flatMap_append, List.flatMap_singleton, List.append_nil]

theorem State.SentWith.isPrefix {stream : StreamId} {encoded : EncodedCommand} {front : List UInt8}
    (sentWith : s.SentWith stream front) (known : s.Frame encoded) (within : front <+: encoded.frame) :
    ∃ frames : List EncodedCommand, (∀ frame ∈ frames, s.Frame frame) ∧
      s.sent stream <+: frames.flatMap EncodedCommand.frame := by
  obtain ⟨frames, all, same⟩ := sentWith
  refine ⟨frames ++ [encoded], List.forall_mem_append.mpr ⟨all, List.forall_mem_singleton.mpr known⟩, ?_⟩
  rw [same, List.flatMap_append, List.flatMap_singleton]
  exact (List.prefix_append_right_inj _).mpr within

/-- A step that sends nothing and lets nobody begin or stop to write. -/
theorem Framing.keep (framing : Framing s) (frames : ∀ encoded, s.Frame encoded → after.Frame encoded)
    (sent : after.sent = s.sent) (cut : after.cut = s.cut)
    (calls : ∀ c encoded stream rest,
      after.calls c = .writing encoded stream rest ↔ s.calls c = .writing encoded stream rest) : Framing after := by
  constructor
  · intro stream uncut nobody
    rw [cut] at uncut
    refine (framing.settled stream uncut fun c writing => ?_).mono frames (by rw [sent])
    obtain ⟨encoded, rest, atPc⟩ := CallPc.stream_eq_some writing
    exact nobody c (by rw [(calls c encoded stream rest).mpr atPc]; rfl)
  · intro c encoded stream rest atPc
    obtain ⟨uncut, front, split, before⟩ := framing.writing c encoded stream rest ((calls c encoded stream rest).mp atPc)
    exact ⟨by rw [cut]; exact uncut, front, split, before.mono frames (by rw [sent])⟩
  · intro stream isCut
    rw [cut] at isCut
    obtain ⟨encoded, front, known, within, before⟩ := framing.cut stream isCut
    exact ⟨encoded, front, frames encoded known, within, before.mono frames (by rw [sent])⟩

variable {c : CallId} {encoded : EncodedCommand} {stream : StreamId} {rest : List UInt8}

/-- A call begins to write: nobody else does, and the stream is between two frames. -/
theorem Framing.enter (framing : Framing s) (locks : Locks s)
    (frames : ∀ encoded, s.Frame encoded → after.Frame encoded) (atPc : s.calls c = .inWriter encoded)
    (uncut : s.cut stream = false) (sent : after.sent = s.sent) (cut : after.cut = s.cut)
    (found : after.calls c = .writing encoded stream encoded.frame)
    (others : ∀ other ≠ c, after.calls other = s.calls other) : Framing after := by
  have nobody : ∀ c' target, (s.calls c').stream ≠ some target := by
    intro c' target writing
    rw [locks.alone (by rw [atPc]; rfl) writing, atPc] at writing
    cases writing
  have settled : ∀ target, s.cut target = false → after.SentWith target [] := fun target isUncut =>
    (framing.settled target isUncut fun c' => nobody c' target).mono frames (by rw [sent])
  constructor
  · intro target isUncut _
    exact settled target (by rw [← cut]; exact isUncut)
  · intro c' encoded' target rest writing
    by_cases same : c' = c
    · subst same
      cases found.symm.trans writing
      exact ⟨by rw [cut]; exact uncut, [], rfl, settled stream uncut⟩
    · rw [others c' same] at writing
      exact absurd (by rw [writing]; rfl) (nobody c' target)
  · intro target isCut
    obtain ⟨other, front, known, within, sentWith⟩ := framing.cut target (by rw [← cut]; exact isCut)
    exact ⟨other, front, frames other known, within, sentWith.mono frames (by rw [sent])⟩

/-- A call writes some bytes of what is left of its frame. -/
theorem Framing.advance {count : Nat} (framing : Framing s) (locks : Locks s)
    (frames : ∀ encoded, s.Frame encoded → after.Frame encoded) (atPc : s.calls c = .writing encoded stream rest)
    (sent : after.sent = Function.update s.sent stream (s.sent stream ++ rest.take count)) (cut : after.cut = s.cut)
    (advanced : after.calls c = .writing encoded stream (rest.drop count))
    (others : ∀ other ≠ c, after.calls other = s.calls other) : Framing after := by
  obtain ⟨uncut, front, split, before⟩ := framing.writing c encoded stream rest atPc
  have alone : ∀ c' target, (s.calls c').stream = some target → c' = c :=
    fun c' target => locks.alone (by rw [atPc]; rfl)
  have elsewhere : ∀ target tail, target ≠ stream → s.SentWith target tail → after.SentWith target tail :=
    fun target tail apart sentWith => sentWith.mono frames (by rw [sent, Function.update_of_ne apart])
  constructor
  · intro target isUncut nobody
    have apart : target ≠ stream := by
      rintro rfl
      exact nobody c (by rw [advanced]; rfl)
    refine elsewhere target [] apart (framing.settled target (by rw [← cut]; exact isUncut) fun c' writing => ?_)
    rw [alone c' target writing, atPc] at writing
    exact apart (Option.some.inj writing).symm
  · intro c' encoded' target rest' writing
    by_cases same : c' = c
    · subst same
      cases advanced.symm.trans writing
      refine ⟨by rw [cut]; exact uncut, front ++ rest.take count, ?_, ?_⟩
      · rw [List.append_assoc, List.take_append_drop]
        exact split
      · obtain ⟨whole, known, same⟩ := before
        refine ⟨whole, fun frame member => frames frame (known frame member), ?_⟩
        rw [sent, Function.update_self, same, List.append_assoc]
    · rw [others c' same] at writing
      exact absurd (alone c' target (by rw [writing]; rfl)) same
  · intro target isCut
    rw [cut] at isCut
    have apart : target ≠ stream := by
      rintro rfl
      rw [uncut] at isCut
      cases isCut
    obtain ⟨other, front', known, inside, sentWith⟩ := framing.cut target isCut
    exact ⟨other, front', frames other known, inside, elsewhere target front' apart sentWith⟩

/-- A call stops to write: its frame is whole, or was never begun, or is cut. -/
theorem Framing.leave (framing : Framing s) (locks : Locks s) (commands : Commands s)
    (frames : ∀ encoded, s.Frame encoded → after.Frame encoded) (atPc : s.calls c = .writing encoded stream rest)
    (sent : after.sent = s.sent) (cut : after.cut = s.cutBy (.writing encoded stream rest))
    (left : (after.calls c).stream = none) (others : ∀ other ≠ c, after.calls other = s.calls other) :
    Framing after := by
  have alone : ∀ c' target, (s.calls c').stream = some target → c' = c :=
    fun c' target => locks.alone (by rw [atPc]; rfl)
  have nobody : ∀ c' target, (after.calls c').stream ≠ some target := by
    intro c' target writing
    by_cases same : c' = c
    · rw [same, left] at writing
      cases writing
    · rw [others c' same] at writing
      exact same (alone c' target writing)
  obtain ⟨uncut, front, split, before⟩ := framing.writing c encoded stream rest atPc
  obtain ⟨command, atCommand, encodes⟩ := commands.encoded c encoded (by rw [atPc]; rfl)
  have known : s.Frame encoded := ⟨c, command, atCommand, encodes⟩
  have elsewhere : ∀ target ≠ stream, after.cut target = s.cut target := by
    intro target apart
    rw [cut, State.cutBy]
    split
    · rfl
    · rw [Function.update_of_ne apart]
  constructor
  · intro target afterUncut _
    by_cases here : target = stream
    · subst here
      rw [cut, State.cutBy] at afterUncut
      split at afterUncut
      · rename_i ends
        rcases ends with rfl | rfl
        · rw [List.append_nil] at split
          exact ((split ▸ before).finish known).mono frames (by rw [sent])
        · rw [List.self_eq_append_left.mp split] at before
          exact before.mono frames (by rw [sent])
      · rw [Function.update_self] at afterUncut
        cases afterUncut
    · rw [elsewhere target here] at afterUncut
      refine (framing.settled target afterUncut fun c' writing => ?_).mono frames (by rw [sent])
      rw [alone c' target writing, atPc] at writing
      exact here (Option.some.inj writing).symm
  · intro c' encoded' target rest' writing
    exact absurd (by rw [writing]; rfl) (nobody c' target)
  · intro target isCut
    by_cases here : target = stream
    · subst here
      exact ⟨encoded, front, frames encoded known, ⟨rest, split.symm⟩, before.mono frames (by rw [sent])⟩
    · rw [elsewhere target here] at isCut
      obtain ⟨other, front', known', within, sentWith⟩ := framing.cut target isCut
      exact ⟨other, front', frames other known', within, sentWith.mono frames (by rw [sent])⟩

end Rules

section Steps

variable {config : Config} {s after : State}

theorem Framing.callStep {c : CallId} {action : CallAction} (framing : Framing s) (locks : Locks s)
    (commands : Commands s) (meets : Uncut s (.call c action)) (taken : CallStep config s c action after) :
    Framing after := by
  have frames : ∀ encoded, s.Frame encoded → after.Frame encoded :=
    fun encoded ⟨other, command, atCommand, encodes⟩ => ⟨other, command, commands.kept taken atCommand, encodes⟩
  have others : ∀ other ≠ c, after.calls other = s.calls other := fun other apart => (taken.frame.others other apart).1
  -- a call that writes neither before nor after its step
  have aside : (s.calls c).stream = none → (after.calls c).stream = none → ∀ c' encoded stream rest,
      after.calls c' = .writing encoded stream rest ↔ s.calls c' = .writing encoded stream rest := by
    intro before later c' encoded stream rest
    by_cases same : c' = c
    · subst same
      constructor <;> intro atPc
      · rw [atPc] at later; cases later
      · rw [atPc] at before; cases before
    · rw [others c' same]
  cases taken with
  | start atPc | lockPending atPc | insert atPc | lockWriter atPc | noWriter atPc | unlockWriter atPc | receive atPc
  | timeout atPc | disconnected atPc =>
    exact framing.keep frames rfl rfl (aside (by rw [atPc]; rfl) (by simp only [Function.update_self]; rfl))
  | @enter command atPc =>
    refine framing.keep frames rfl rfl (aside (by rw [atPc]; rfl) ?_)
    simp only [Function.update_self, enterPc]
    repeat' split
    all_goals rfl
  | @remove encoded exit atPc =>
    refine framing.keep frames rfl rfl (aside (by rw [atPc]; rfl) ?_)
    simp only [Function.update_self]
    cases exit <;> rfl
  | foundWriter atPc atWriter =>
    exact framing.enter locks frames atPc (meets _ atWriter) rfl rfl (Function.update_self ..) others
  | write atPc => exact framing.advance locks frames atPc rfl rfl (Function.update_self ..) others
  | writeFails atPc =>
    exact framing.leave locks commands frames atPc rfl (by rw [atPc]) (by simp only [Function.update_self]; rfl) others
  | writeDone atPc =>
    exact framing.leave locks commands frames atPc rfl (by simp only [State.cutBy, true_or, if_true])
      (by simp only [Function.update_self]; rfl) others
  | drop =>
    cases writing : (s.calls c).stream with
    | none =>
      refine framing.keep frames rfl ?_ (aside writing (by simp only [Function.update_self]; rfl))
      cases atPc : s.calls c with
      | writing => rw [atPc] at writing; cases writing
      | _ => rfl
    | some stream =>
      obtain ⟨encoded, rest, atPc⟩ := CallPc.stream_eq_some writing
      exact framing.leave locks commands frames atPc rfl (by rw [atPc]) (by simp only [Function.update_self]; rfl) others

theorem Framing.step {action : Action} (framing : Framing s) (locks : Locks s) (commands : Commands s)
    (meets : Uncut s action) (taken : Step config s action after) : Framing after := by
  have same : after.sent = s.sent → after.cut = s.cut → after.calls = s.calls → after.command = s.command →
      Framing after := by
    intro sent cut calls command
    refine framing.keep (fun encoded known => ?_) sent cut fun c encoded stream rest => by rw [calls]
    unfold State.Frame
    rw [command]
    exact known
  cases taken with
  | call taken => exact framing.callStep locks commands meets taken
  | opening taken => exact same taken.frame.sent taken.frame.cut taken.frame.calls taken.frame.command
  | closing taken => exact same taken.frame.sent taken.frame.cut taken.frame.calls taken.frame.command
  | reader taken => exact same taken.frame.sent taken.frame.cut taken.frame.calls taken.frame.command
  | network taken => exact same taken.frame.sent taken.frame.cut taken.frame.calls taken.frame.command

/-- What was sent on a stream is the beginning of a sequence of whole frames. -/
theorem Framing.framed (framing : Framing s) (commands : Commands s) (stream : StreamId) :
    ∃ frames : List EncodedCommand, (∀ frame ∈ frames, s.Frame frame) ∧
      s.sent stream <+: frames.flatMap EncodedCommand.frame := by
  by_cases isCut : s.cut stream = true
  · obtain ⟨_, _, known, within, sentWith⟩ := framing.cut stream isCut
    exact sentWith.isPrefix known within
  · by_cases writes : ∃ c, (s.calls c).stream = some stream
    · obtain ⟨c, writing⟩ := writes
      obtain ⟨encoded, rest, atPc⟩ := CallPc.stream_eq_some writing
      obtain ⟨_, front, split, sentWith⟩ := framing.writing c encoded stream rest atPc
      obtain ⟨command, atCommand, encodes⟩ := commands.encoded c encoded (by rw [atPc]; rfl)
      exact sentWith.isPrefix ⟨c, command, atCommand, encodes⟩ ⟨rest, split.symm⟩
    · obtain ⟨frames, known, same⟩ := framing.settled stream (Bool.eq_false_iff.mpr isCut) (not_exists.mp writes)
      have whole : s.sent stream = frames.flatMap EncodedCommand.frame := same.trans (List.append_nil _)
      exact ⟨frames, known, whole ▸ List.prefix_rfl⟩

end Steps

theorem Framing.of_reach {config : Config} {s : State} (reach : Reached config Uncut s) : Framing s :=
  reach.invariant .new fun _ _ _ previous framing meets run =>
    framing.step (.of_reach previous) (.of_reach previous) meets (.of_run run)

/-- The server can cut what it receives into whole frames. -/
structure WholeFrames (config : Config) (s : State) : Prop where
  framed : ∀ stream, ∃ frames : List EncodedCommand, (∀ encoded ∈ frames, s.Frame encoded) ∧
    s.sent stream <+: frames.flatMap EncodedCommand.frame
  /-- After a frame that was cut, nothing else is written. -/
  silent : ∀ stream action after, s.cut stream = true → step config s action = some after →
    after.sent stream = s.sent stream

theorem wholeFrames_of_uncut {config : Config} {s : State} (reach : Reached config Uncut s) :
    WholeFrames config s := by
  have framing := Framing.of_reach reach
  have commands := Commands.of_reach reach
  constructor
  · exact framing.framed commands
  · intro stream action after isCut run
    cases Step.of_run run with
    | opening taken => rw [taken.frame.sent]
    | closing taken => rw [taken.frame.sent]
    | reader taken => rw [taken.frame.sent]
    | network taken => rw [taken.frame.sent]
    | @call c _ _ taken =>
      cases taken with
      | @write encoded target rest count atPc =>
        have apart : stream ≠ target := by
          rintro rfl
          rw [(framing.writing c encoded stream rest atPc).1] at isCut
          cases isCut
        simp only [Function.update_of_ne apart]
      | _ => rfl

/-- A ping whose future is dropped when the socket has taken one byte. -/
def cutPing : List Action :=
  openActions 0 0 ++ registerActions 0 ⟨Block.ofNatLE 16 7⟩ ++
    [.call 0 .lockWriter, .call 0 .findWriter, .call 0 (.write 1), .call 0 .drop]

theorem wholeFrames_cutPing : ∃ s : State, s.sent 0 = [magic] ∧ WholeFrames ⟨.aio, ""⟩ s := by
  have meets : RunAllowed (step ⟨.aio, ""⟩) Uncut State.new cutPing :=
    ⟨trivial, trivial, trivial, trivial, trivial, trivial, trivial, trivial, trivial, trivial, trivial, trivial, trivial,
      trivial, trivial, trivial, trivial, trivial, fun _ _ => rfl, trivial, trivial, trivial⟩
  have executed : (run (step ⟨.aio, ""⟩) State.new cutPing).any (fun s => s.sent 0 = [magic]) = true := by
    decide
  obtain ⟨s, reach, sent⟩ := Reach.exists_of_run meets executed
  exact ⟨s, of_decide_eq_true sent, wholeFrames_of_uncut reach⟩

theorem Command.encode_version {command : Command} {encoded : EncodedCommand} (run : command.encode = .ok encoded) :
    encoded.header.get 1 = version := by
  cases command with
  | init command =>
    cases run
    simp (disch := omega) only [InitCommand.header, Block.get_copyFromSlice_disjoint, commandHeader_version]
  | ping command =>
    cases run
    exact commandHeader_version ..
  | lock command =>
    obtain ⟨_, _, _, same, _⟩ := Command.encode_lock run
    rw [same]
    exact command.header_version

/-- The next ping is written right behind the one byte of the first. -/
def brokenPing : List Action :=
  cutPing ++ registerActions 1 ⟨Block.ofNatLE 16 8⟩ ++ writeActions 1

theorem brokenPing_not_wholeFrames : ¬ ∀ config s, Reached config Always s → WholeFrames config s := by
  intro claim
  have executed : (run (step ⟨.aio, ""⟩) State.new brokenPing).any
      (fun s => (s.sent 0).take 2 = [magic, magic]) = true := by decide
  obtain ⟨s, reach, found⟩ := Reach.exists_of_run (runAllowed_always ..) executed
  have start := of_decide_eq_true found
  have long : 2 ≤ (s.sent 0).length := by
    have length := congrArg List.length start
    rw [List.length_take] at length
    change min 2 (s.sent 0).length = 2 at length
    omega
  have sentByte : (s.sent 0)[1]? = some magic := by
    rw [← List.getElem?_take_of_lt (show 1 < 2 by omega), start]
    rfl
  obtain ⟨frames, known, tail, whole⟩ := (claim _ s reach).framed 0
  have wholeByte := congrArg (fun bytes => bytes[1]?) whole
  rw [List.getElem?_append_left (by omega), sentByte] at wholeByte
  cases frames with
  | nil => cases wholeByte
  | cons encoded frames =>
    -- every frame has the version in its second byte
    obtain ⟨c, command, _, encodes⟩ := known encoded List.mem_cons_self
    have size : encoded.header.toList.length = 64 := encoded.header.length_eq
    rw [List.flatMap_cons, EncodedCommand.frame, List.append_assoc, List.getElem?_append_left (by omega),
      encoded.header.getElem?_get 1 rfl, Command.encode_version encodes] at wholeByte
    cases wholeByte

end Ruslock.Connection
