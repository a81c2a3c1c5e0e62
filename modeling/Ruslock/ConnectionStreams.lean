import Ruslock.ConnectionSteps

namespace Ruslock.Connection
open Wire

/-- The stream that an `open` has connected and not yet given to a reader. -/
def OpenPc.stream : OpenPc → Option StreamId
  | .configure stream => some stream
  | .writeInit stream _ => some stream
  | .readInit stream => some stream
  | .split stream => some stream
  | .lockPublish stream => some stream
  | .inPublish stream => some stream
  | .spawn stream => some stream
  | _ => none

/-- The stream that a call is writing to. -/
def CallPc.stream : CallPc → Option StreamId
  | .writing _ stream _ => some stream
  | _ => none

/-- An `open` has stored the stream as the writer: its reader runs, has run, or
is about to be spawned. -/
def State.Published (s : State) (stream : StreamId) : Prop :=
  s.readers stream ≠ .idle ∨ ∃ o, s.opens o = .spawn stream

/-- Every stream belongs to one `open` until its reader is spawned, and only
published streams are ever the writer or written to. -/
structure Streams (s : State) : Prop where
  owned : ∀ o stream, (s.opens o).stream = some stream → s.connected stream = true ∧ s.readers stream = .idle
  sole : ∀ o o' stream, (s.opens o).stream = some stream → (s.opens o').stream = some stream → o = o'
  alive : ∀ stream, s.readers stream ≠ .idle → s.connected stream = true
  writer : ∀ stream, s.writer = some stream → s.Published stream
  writing : ∀ c stream, (s.calls c).stream = some stream → s.Published stream
  written : ∀ c stream, s.written c = some stream → s.Published stream

theorem Streams.new : Streams State.new where
  owned _ _ atStream := nomatch atStream
  sole _ _ _ atStream := nomatch atStream
  alive _ running := absurd rfl running
  writer _ atStream := nomatch atStream
  writing _ _ atStream := nomatch atStream
  written _ _ atStream := nomatch atStream

theorem ReaderStep.running {s after : State} {r : StreamId} {action : ReaderAction}
    (taken : ReaderStep s r action after) : s.readers r ≠ .idle ∧ after.readers r ≠ .idle := by
  cases taken with
  | readHeader atPc | checkClosed atPc =>
    refine ⟨by rw [atPc]; nofun, ?_⟩
    simp only [Function.update_self]
    split <;> nofun
  | drain atPc =>
    have running : s.readers r ≠ .idle := by rw [atPc]; nofun
    exact ⟨running, running⟩
  | headerFails atPc | readExtra atPc | extraFails atPc | lockPending atPc | deliver atPc | discard atPc
  | drainedHeader atPc | drainedExtra atPc | lockWriter atPc | takeWriter atPc | unlockPending atPc =>
    refine ⟨by rw [atPc]; nofun, ?_⟩
    simp only [Function.update_self]
    nofun

/-- A reader other than the one that steps keeps its place, and a running
reader stays so. -/
theorem ReaderStep.idle_iff {s after : State} {r : StreamId} {action : ReaderAction}
    (taken : ReaderStep s r action after) (stream : StreamId) :
    after.readers stream = .idle ↔ s.readers stream = .idle := by
  by_cases same : stream = r
  · rw [same]
    exact ⟨fun idle => absurd idle taken.running.2, fun idle => absurd idle taken.running.1⟩
  · rw [(taken.frame.others stream same).1]

/-- The only step that leaves the spawning place of an `open` starts the reader. -/
theorem OpenStep.spawning {config : Config} {s after : State} {o : OpenId} {action : OpenAction} {stream : StreamId}
    (taken : OpenStep config s o action after) (atPc : s.opens o = .spawn stream) :
    after.readers = Function.update s.readers stream .readHeader ∧ after.opens o = .returned (.ok ()) ∧
      after.writer = s.writer ∧ after.connected = s.connected := by
  cases taken with
  | spawn here =>
    cases atPc.symm.trans here
    exact ⟨rfl, Function.update_self .., rfl, rfl⟩
  | fails places =>
    rcases places with ⟨_, here | ⟨_, here⟩ | here | here⟩ <;> cases atPc.symm.trans here
  | start here | lockWriter here | findWriter here | storeClosed here | connect here | connectFails here
  | identify here | writeInit here | refused here | accepted here | split here | lockPublish here | publish here =>
    cases atPc.symm.trans here

theorem OpenStep.published_kept {config : Config} {s after : State} {o : OpenId} {action : OpenAction}
    {stream : StreamId} (taken : OpenStep config s o action after) (published : s.Published stream) :
    after.Published stream := by
  rcases published with running | ⟨o', spawning⟩
  · left
    cases taken with
    | spawn =>
      simp only [Function.update_apply]
      split
      · nofun
      · exact running
    | _ => exact running
  · by_cases same : o' = o
    · left
      rw [(taken.spawning (same ▸ spawning)).1, Function.update_self]
      nofun
    · exact .inr ⟨o', by rw [taken.frame.others o' same]; exact spawning⟩

/-- What a step of an `open` does to the streams that are in the making. -/
theorem OpenStep.stream {config : Config} {s after : State} {o : OpenId} {action : OpenAction}
    (taken : OpenStep config s o action after) :
    ((after.opens o).stream = none ∨ (after.opens o).stream = (s.opens o).stream) ∧ after.connected = s.connected ∨
      ∃ stream, s.connected stream = false ∧ (after.opens o).stream = some stream ∧
        after.connected = Function.update s.connected stream true := by
  cases taken with
  | start atPc | lockWriter atPc | storeClosed atPc | connectFails atPc | refused atPc | spawn atPc =>
    exact .inl ⟨.inl (by simp only [Function.update_self]; rfl), rfl⟩
  | fails => exact .inl ⟨.inl (by simp only [Function.update_self]; rfl), rfl⟩
  | findWriter atPc =>
    refine .inl ⟨.inl ?_, rfl⟩
    simp only [Function.update_self]
    split <;> rfl
  | connect atPc fresh => exact .inr ⟨_, fresh, by simp only [Function.update_self]; rfl, rfl⟩
  | identify atPc | writeInit atPc | accepted atPc | split atPc | lockPublish atPc | publish atPc =>
    exact .inl ⟨.inr (by simp only [Function.update_self, atPc]; rfl), rfl⟩

/-- The writer changes only when an `open` publishes its stream. -/
theorem OpenStep.writer {config : Config} {s after : State} {o : OpenId} {action : OpenAction}
    (taken : OpenStep config s o action after) :
    after.writer = s.writer ∧ after.latest = s.latest ∨
      ∃ stream, action = .publish ∧ s.opens o = .inPublish stream ∧ after.opens o = .spawn stream ∧
        after.writer = some stream ∧ after.latest = some stream := by
  cases taken with
  | publish atPc => exact .inr ⟨_, rfl, atPc, Function.update_self .., rfl, rfl⟩
  | _ => exact .inl ⟨rfl, rfl⟩

theorem OpenStep.readers {config : Config} {s after : State} {o : OpenId} {action : OpenAction}
    (taken : OpenStep config s o action after) :
    after.readers = s.readers ∨
      ∃ stream, s.opens o = .spawn stream ∧ after.readers = Function.update s.readers stream .readHeader := by
  cases taken with
  | spawn atPc => exact .inr ⟨_, atPc, rfl⟩
  | _ => exact .inl rfl

/-- A step of an `open` does nothing to a reader but start it. -/
theorem OpenStep.reader_kept {config : Config} {s after : State} {o : OpenId} {action : OpenAction}
    (taken : OpenStep config s o action after) (r : StreamId) :
    after.readers r = s.readers r ∨ after.readers r = .readHeader ∧ s.opens o = .spawn r := by
  rcases taken.readers with same | ⟨stream, atPc, new⟩
  · exact .inl (by rw [same])
  · by_cases here : r = stream
    · subst here
      exact .inr ⟨by rw [new, Function.update_self], atPc⟩
    · exact .inl (by rw [new, Function.update_of_ne here])

/-- A `close` and a reader only ever clear the writer. -/
theorem CloseStep.writer_kept {config : Config} {s after : State} {k : CloseId} {action : CloseAction}
    {stream : StreamId} (taken : CloseStep config s k action after) (atWriter : after.writer = some stream) :
    s.writer = some stream := by
  cases taken with
  | tookWriter => cases atWriter
  | _ => exact atWriter

theorem ReaderStep.writer_kept {s after : State} {r : StreamId} {action : ReaderAction} {stream : StreamId}
    (taken : ReaderStep s r action after) (atWriter : after.writer = some stream) : s.writer = some stream := by
  cases taken with
  | takeWriter => cases atWriter
  | _ => exact atWriter

/-- Every writing call found its stream in the writer. -/
theorem CallStep.stream {config : Config} {s after : State} {c : CallId} {action : CallAction}
    (taken : CallStep config s c action after) {stream : StreamId} (writing : (after.calls c).stream = some stream) :
    (s.calls c).stream = some stream ∨ s.writer = some stream := by
  cases taken with
  | @foundWriter _ found _ atWriter =>
    simp only [Function.update_self] at writing
    cases writing
    exact .inr atWriter
  | write atPc =>
    simp only [Function.update_self] at writing
    rw [atPc]
    exact .inl writing
  | @enter command =>
    simp only [Function.update_self, enterPc] at writing
    repeat' split at writing
    all_goals cases writing
  | @remove _ exit =>
    simp only [Function.update_self] at writing
    cases exit <;> cases writing
  | start | lockPending | insert | lockWriter | noWriter | writeFails | writeDone | unlockWriter | receive | timeout
  | disconnected | drop =>
    simp only [Function.update_self] at writing
    cases writing

theorem CallStep.written {config : Config} {s after : State} {c : CallId} {action : CallAction}
    (taken : CallStep config s c action after) {stream : StreamId} (written : after.written c = some stream) :
    s.written c = some stream ∨ (s.calls c).stream = some stream := by
  cases taken with
  | writeDone atPc =>
    simp only [Function.update_self] at written
    rw [atPc]
    exact .inr written
  | _ => exact .inl written

/-- A step after which every `open` and every stream stands where it stood. -/
theorem Streams.keep {s after : State} (streams : Streams s) (opens : after.opens = s.opens)
    (connected : after.connected = s.connected)
    (idle : ∀ stream, after.readers stream = .idle ↔ s.readers stream = .idle)
    (writer : ∀ stream, after.writer = some stream → s.Published stream)
    (writing : ∀ c stream, (after.calls c).stream = some stream → s.Published stream)
    (written : ∀ c stream, after.written c = some stream → s.Published stream) : Streams after := by
  have kept : ∀ stream, s.Published stream → after.Published stream := by
    rintro stream (running | spawning)
    · exact .inl fun atIdle => running ((idle stream).mp atIdle)
    · exact .inr (by rw [opens]; exact spawning)
  constructor
  · intro o stream atStream
    rw [opens] at atStream
    rw [connected, idle]
    exact streams.owned o stream atStream
  · rw [opens]
    exact streams.sole
  · intro stream running
    rw [connected]
    exact streams.alive stream fun atIdle => running ((idle stream).mpr atIdle)
  · exact fun stream atStream => kept stream (writer stream atStream)
  · exact fun c stream atStream => kept stream (writing c stream atStream)
  · exact fun c stream atStream => kept stream (written c stream atStream)

theorem Streams.callStep {config : Config} {s after : State} {c : CallId} {action : CallAction} (streams : Streams s)
    (taken : CallStep config s c action after) : Streams after := by
  have frame := taken.frame
  refine streams.keep frame.opens frame.connected (fun stream => by rw [frame.readers]) ?_ ?_ ?_
  · rw [frame.writer]
    exact streams.writer
  · intro other stream writing
    by_cases same : other = c
    · subst same
      exact (taken.stream writing).elim (streams.writing other stream) (streams.writer stream)
    · rw [(frame.others other same).1] at writing
      exact streams.writing other stream writing
  · intro other stream written
    by_cases same : other = c
    · subst same
      exact (taken.written written).elim (streams.written other stream) (streams.writing other stream)
    · rw [(frame.others other same).2.2] at written
      exact streams.written other stream written

/-- A stream of an `open` is one that it had before, or a fresh one. -/
theorem OpenStep.origin {config : Config} {s after : State} {o o' : OpenId} {action : OpenAction} {stream : StreamId}
    (taken : OpenStep config s o action after) (atStream : (after.opens o').stream = some stream) :
    (s.opens o').stream = some stream ∨
      o' = o ∧ s.connected stream = false ∧ after.connected = Function.update s.connected stream true := by
  by_cases same : o' = o
  · subst same
    rcases taken.stream with ⟨gone | same, _⟩ | ⟨fresh, unused, made, new⟩
    · rw [gone] at atStream
      cases atStream
    · exact .inl (same ▸ atStream)
    · rw [made] at atStream
      cases atStream
      exact .inr ⟨rfl, unused, new⟩
  · rw [taken.frame.others o' same] at atStream
    exact .inl atStream

theorem OpenStep.connected_kept {config : Config} {s after : State} {o : OpenId} {action : OpenAction}
    {stream : StreamId} (taken : OpenStep config s o action after) (connected : s.connected stream = true) :
    after.connected stream = true := by
  rcases taken.stream with ⟨_, same⟩ | ⟨fresh, _, _, made⟩
  · rw [same]
    exact connected
  · rw [made, Function.update_apply]
    split
    · rfl
    · exact connected

/-- A stream in the making is not the one that an `open` gives to a reader. -/
theorem Streams.idle_openStep {config : Config} {s after : State} {o o' : OpenId} {action : OpenAction}
    {stream : StreamId} (streams : Streams s) (taken : OpenStep config s o action after)
    (atStream : (after.opens o').stream = some stream) : after.readers stream = .idle := by
  have idle : s.readers stream = .idle := by
    rcases taken.origin atStream with before | ⟨_, unused, _⟩
    · exact (streams.owned o' stream before).2
    · by_contra running
      rw [streams.alive stream running] at unused
      cases unused
  rcases taken.reader_kept stream with same | ⟨_, atPc⟩
  · rw [same]
    exact idle
  · exfalso
    have owner : (s.opens o).stream = some stream := by rw [atPc]; rfl
    rcases taken.origin atStream with before | ⟨_, unused, _⟩
    · obtain rfl := streams.sole o' o stream before owner
      rw [(taken.spawning atPc).2.1] at atStream
      cases atStream
    · rw [(streams.owned o stream owner).1] at unused
      cases unused

theorem Streams.sole_openStep {config : Config} {s after : State} {o o₁ o₂ : OpenId} {action : OpenAction}
    {stream : StreamId} (streams : Streams s) (taken : OpenStep config s o action after)
    (first : (after.opens o₁).stream = some stream) (second : (after.opens o₂).stream = some stream) : o₁ = o₂ := by
  rcases taken.origin first with before₁ | ⟨self₁, unused, _⟩
  · rcases taken.origin second with before₂ | ⟨_, unused, _⟩
    · exact streams.sole o₁ o₂ stream before₁ before₂
    · rw [(streams.owned o₁ stream before₁).1] at unused
      cases unused
  · rcases taken.origin second with before₂ | ⟨self₂, _⟩
    · rw [(streams.owned o₂ stream before₂).1] at unused
      cases unused
    · rw [self₁, self₂]

theorem Streams.openStep {config : Config} {s after : State} {o : OpenId} {action : OpenAction} (streams : Streams s)
    (taken : OpenStep config s o action after) : Streams after := by
  have frame := taken.frame
  have kept : ∀ stream, s.Published stream → after.Published stream := fun _ => taken.published_kept
  constructor
  · intro o' stream atStream
    refine ⟨?_, streams.idle_openStep taken atStream⟩
    rcases taken.origin atStream with before | ⟨_, _, new⟩
    · exact taken.connected_kept (streams.owned o' stream before).1
    · rw [new, Function.update_self]
  · exact fun o₁ o₂ stream first second => streams.sole_openStep taken first second
  · intro stream running
    rcases taken.reader_kept stream with same | ⟨_, atPc⟩
    · rw [same] at running
      exact taken.connected_kept (streams.alive stream running)
    · exact taken.connected_kept (streams.owned o stream (by rw [atPc]; rfl)).1
  · intro stream atStream
    rcases taken.writer with ⟨same, _⟩ | ⟨published, _, _, spawning, new, _⟩
    · rw [same] at atStream
      exact kept stream (streams.writer stream atStream)
    · rw [new] at atStream
      cases atStream
      exact .inr ⟨o, spawning⟩
  · rw [frame.calls]
    exact fun c stream atStream => kept stream (streams.writing c stream atStream)
  · rw [frame.written]
    exact fun c stream atStream => kept stream (streams.written c stream atStream)

theorem Streams.step {config : Config} {s after : State} {action : Action} (streams : Streams s)
    (taken : Step config s action after) : Streams after := by
  cases taken with
  | call taken => exact streams.callStep taken
  | opening taken => exact streams.openStep taken
  | network taken =>
    have frame := taken.frame
    refine streams.keep frame.opens frame.connected (fun stream => by rw [frame.readers]) ?_ ?_ ?_
    · rw [frame.writer]; exact streams.writer
    · rw [frame.calls]; exact streams.writing
    · rw [frame.written]; exact streams.written
  | closing taken =>
    have frame := taken.frame
    refine streams.keep frame.opens frame.connected (fun stream => by rw [frame.readers]) ?_ ?_ ?_
    · exact fun stream atWriter => streams.writer stream (taken.writer_kept atWriter)
    · rw [frame.calls]; exact streams.writing
    · rw [frame.written]; exact streams.written
  | reader taken =>
    have frame := taken.frame
    refine streams.keep frame.opens frame.connected taken.idle_iff ?_ ?_ ?_
    · exact fun stream atWriter => streams.writer stream (taken.writer_kept atWriter)
    · rw [frame.calls]; exact streams.writing
    · rw [frame.written]; exact streams.written

end Ruslock.Connection
