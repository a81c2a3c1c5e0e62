import Ruslock.ConnectionLocks

namespace Ruslock.Connection

/-- The command that a call has encoded and not yet finished. -/
def CallPc.encoded : CallPc → Option EncodedCommand
  | .lockPending encoded _ => some encoded
  | .inPending encoded _ => some encoded
  | .lockWriter encoded => some encoded
  | .inWriter encoded => some encoded
  | .writing encoded _ _ => some encoded
  | .waiting encoded => some encoded
  | _ => none

/-- A call that has not yet inserted its entry. -/
def CallPc.fresh : CallPc → Bool
  | .idle => true
  | .start _ => true
  | .lockPending _ .insert => true
  | .inPending _ .insert => true
  | _ => false

/-- A call that may have an entry in the pending map. -/
def CallPc.registered : CallPc → Bool
  | .lockPending _ (.remove _) => true
  | .inPending _ (.remove _) => true
  | .lockWriter _ => true
  | .inWriter _ => true
  | .writing _ _ _ => true
  | .waiting _ => true
  | .dropped => true
  | _ => false

/-- A call that has written its whole frame. -/
def CallPc.sent : CallPc → Bool
  | .waiting _ => true
  | .lockPending _ (.remove .timeout) => true
  | .inPending _ (.remove .timeout) => true
  | .returned _ => true
  | .dropped => true
  | _ => false

theorem CallPc.unsent_of_fresh {pc : CallPc} (fresh : pc.fresh = true) : pc.sent = false := by
  cases pc with
  | idle | start => rfl
  | lockPending _ use | inPending _ use =>
    cases use with
    | insert => rfl
    | remove => cases fresh
  | _ => cases fresh

theorem CallPc.unregistered_of_fresh {pc : CallPc} (fresh : pc.fresh = true) : pc.registered = false := by
  cases pc with
  | idle | start => rfl
  | lockPending _ use | inPending _ use =>
    cases use with
    | insert => rfl
    | remove => cases fresh
  | _ => cases fresh

theorem enterPc_encoded {closed : Bool} {command : Command} {encoded : EncodedCommand}
    (at' : (enterPc closed command).encoded = some encoded) : command.encode = .ok encoded := by
  unfold enterPc at at'
  split at at'
  · cases at'
  · split at at'
    · cases at'
    · cases at'
      assumption

/-- A call keeps the frame it has encoded until it is done. -/
theorem CallStep.encoded {config : Config} {s after : State} {c : CallId} {action : CallAction}
    (taken : CallStep config s c action after) {encoded : EncodedCommand}
    (at' : (after.calls c).encoded = some encoded) :
    (s.calls c).encoded = some encoded ∨ ∃ command, s.calls c = .start command ∧ command.encode = .ok encoded := by
  cases taken with
  | enter atPc =>
    simp only [Function.update_self] at at'
    exact .inr ⟨_, atPc, enterPc_encoded at'⟩
  | lockPending atPc | insert atPc | lockWriter atPc | noWriter atPc | foundWriter atPc | write atPc | writeFails atPc
  | writeDone atPc | timeout atPc =>
    simp only [Function.update_self] at at'
    rw [atPc]
    exact .inl at'
  | @remove _ exit =>
    simp only [Function.update_self] at at'
    cases exit <;> cases at'
  | start | unlockWriter | receive | disconnected | drop =>
    simp only [Function.update_self] at at'
    cases at'

theorem CallStep.started {config : Config} {s after : State} {c : CallId} {action : CallAction}
    (taken : CallStep config s c action after) {command : Command} (at' : after.calls c = .start command) :
    action = .start command ∧ after.command c = some command := by
  cases taken with
  | start =>
    simp only [Function.update_self] at at' ⊢
    cases at'
    exact ⟨rfl, rfl⟩
  | @enter command =>
    simp only [Function.update_self, enterPc] at at'
    repeat' split at at'
    all_goals cases at'
  | @remove _ exit =>
    simp only [Function.update_self] at at'
    cases exit <;> cases at'
  | lockPending | insert | lockWriter | noWriter | foundWriter | write | writeFails | writeDone | unlockWriter | receive
  | timeout | disconnected | drop =>
    simp only [Function.update_self] at at'
    cases at'

/-- The command of a call is set once, where the call starts. -/
theorem CallStep.command {config : Config} {s after : State} {c : CallId} {action : CallAction}
    (taken : CallStep config s c action after) :
    after.command = s.command ∨
      ∃ command, action = .start command ∧ s.calls c = .idle ∧ after.calls c = .start command ∧
        after.command = Function.update s.command c (some command) := by
  cases taken with
  | start atPc => exact .inr ⟨_, rfl, atPc, Function.update_self .., rfl⟩
  | _ => exact .inl rfl

theorem CallStep.busy {config : Config} {s after : State} {c : CallId} {action : CallAction}
    (taken : CallStep config s c action after) : after.calls c ≠ .idle := by
  cases taken with
  | @enter command =>
    simp only [Function.update_self, enterPc]
    repeat' split
    all_goals simp
  | @remove _ exit =>
    simp only [Function.update_self]
    cases exit <;> simp [removePc]
  | start | lockPending | insert | lockWriter | noWriter | foundWriter | write | writeFails | writeDone | unlockWriter
  | receive | timeout | disconnected | drop => simp

theorem CallStep.begins {config : Config} {s after : State} {c : CallId} {action : CallAction}
    (taken : CallStep config s c action after) (idle : s.calls c = .idle) : ∃ command, action = .start command := by
  cases taken with
  | start => exact ⟨_, rfl⟩
  | drop _ awaits =>
    rw [idle] at awaits
    cases awaits
  | enter atPc | lockPending atPc | insert atPc | remove atPc | lockWriter atPc | noWriter atPc | foundWriter atPc
  | write atPc | writeFails atPc | writeDone atPc | unlockWriter atPc | receive atPc | timeout atPc
  | disconnected atPc => cases atPc.symm.trans idle

theorem CallStep.unfinished {config : Config} {s after : State} {c : CallId} {action : CallAction}
    (taken : CallStep config s c action after) (outcome : Outcome CommandResult) : s.calls c ≠ .returned outcome := by
  cases taken with
  | drop _ awaits =>
    intro returned
    rw [returned] at awaits
    cases awaits
  | start atPc | enter atPc | lockPending atPc | insert atPc | remove atPc | lockWriter atPc | noWriter atPc
  | foundWriter atPc | write atPc | writeFails atPc | writeDone atPc | unlockWriter atPc | receive atPc | timeout atPc
  | disconnected atPc =>
    rw [atPc]
    nofun

/-- A call that has yet to insert its entry has done nothing but start. -/
theorem CallStep.fresh {config : Config} {s after : State} {c : CallId} {action : CallAction}
    (taken : CallStep config s c action after) (fresh : (after.calls c).fresh = true) :
    (s.calls c).fresh = true := by
  cases taken with
  | start atPc | enter atPc => rw [atPc]; rfl
  | @lockPending _ use atPc =>
    simp only [Function.update_self] at fresh
    rw [atPc]
    cases use with
    | insert => rfl
    | remove => cases fresh
  | @remove _ exit =>
    simp only [Function.update_self] at fresh
    cases exit <;> cases fresh
  | insert | lockWriter | noWriter | foundWriter | write | writeFails | writeDone | unlockWriter | receive | timeout
  | disconnected | drop =>
    simp only [Function.update_self] at fresh
    cases fresh

/-- The only way for a call to return a result is to receive it. -/
theorem CallStep.returned_ok {config : Config} {s after : State} {c : CallId} {action : CallAction}
    (taken : CallStep config s c action after) {result : CommandResult}
    (returned : after.calls c = .returned (.ok result)) :
    (∃ encoded, s.calls c = .waiting encoded) ∧ ∃ message ∈ s.channel c, message.result = .ok result := by
  cases taken with
  | receive atPc first =>
    simp only [Function.update_self] at returned
    exact ⟨⟨_, atPc⟩, _, by rw [first]; exact List.mem_cons_self, CallPc.returned.inj returned⟩
  | @enter command =>
    simp only [Function.update_self, enterPc] at returned
    repeat' split at returned
    all_goals cases returned
  | @remove _ exit =>
    simp only [Function.update_self] at returned
    cases exit <;> cases returned
  | start | lockPending | insert | lockWriter | noWriter | foundWriter | write | writeFails | writeDone | unlockWriter
  | timeout | disconnected | drop =>
    simp only [Function.update_self] at returned
    cases returned

/-- Every call in progress works on the command it was made with. -/
structure Commands (s : State) : Prop where
  idle : ∀ c, s.calls c = .idle → s.command c = none
  started : ∀ c command, s.calls c = .start command → s.command c = some command
  encoded : ∀ c encoded, (s.calls c).encoded = some encoded →
    ∃ command, s.command c = some command ∧ command.encode = .ok encoded

theorem Commands.kept {config : Config} {s after : State} {c other : CallId} {action : CallAction} {command : Command}
    (commands : Commands s) (taken : CallStep config s c action after) (atCommand : s.command other = some command) :
    after.command other = some command := by
  rcases taken.command with same | ⟨_, _, idle, _, new⟩
  · rw [same]; exact atCommand
  · have apart : other ≠ c := by
      rintro rfl
      rw [commands.idle other idle] at atCommand
      cases atCommand
    rw [new, Function.update_of_ne apart]
    exact atCommand

theorem Commands.onward {config : Config} {s after : State} {c : CallId} {action : Action} {command : Command}
    (commands : Commands s) (taken : Step config s action after) (atCommand : s.command c = some command) :
    after.command c = some command := by
  cases taken with
  | call taken => exact commands.kept taken atCommand
  | opening taken => rw [taken.frame.command]; exact atCommand
  | closing taken => rw [taken.frame.command]; exact atCommand
  | reader taken => rw [taken.frame.command]; exact atCommand
  | network taken => rw [taken.frame.command]; exact atCommand

theorem Commands.callStep {config : Config} {s after : State} {c : CallId} {action : CallAction}
    (commands : Commands s) (taken : CallStep config s c action after) : Commands after := by
  have frame := taken.frame
  constructor
  · intro other idle
    have apart : other ≠ c := by
      rintro rfl
      exact taken.busy idle
    rw [(frame.others other apart).1] at idle
    rw [(frame.others other apart).2.1]
    exact commands.idle other idle
  · intro other command atStart
    by_cases same : other = c
    · subst same
      exact (taken.started atStart).2
    · rw [(frame.others other same).1] at atStart
      exact commands.kept taken (commands.started other command atStart)
  · intro other encoded atEncoded
    by_cases same : other = c
    · subst same
      rcases taken.encoded atEncoded with before | ⟨command, atStart, encodes⟩
      · obtain ⟨command, atCommand, encodes⟩ := commands.encoded other encoded before
        exact ⟨command, commands.kept taken atCommand, encodes⟩
      · exact ⟨command, commands.kept taken (commands.started other command atStart), encodes⟩
    · rw [(frame.others other same).1] at atEncoded
      obtain ⟨command, atCommand, encodes⟩ := commands.encoded other encoded atEncoded
      exact ⟨command, commands.kept taken atCommand, encodes⟩

theorem Commands.of_reach {config : Config} {allowed : State → Action → Prop} {s : State}
    (reach : Reached config allowed s) : Commands s := by
  have same : ∀ {before after : State}, Commands before → after.calls = before.calls →
      after.command = before.command → Commands after := by
    intro before after commands calls command
    constructor
    · rw [calls, command]; exact commands.idle
    · rw [calls, command]; exact commands.started
    · rw [calls, command]; exact commands.encoded
  induction reach with
  | start => exact ⟨fun _ _ => rfl, nofun, nofun⟩
  | next _ _ run ih =>
    cases Step.of_run run with
    | call taken => exact ih.callStep taken
    | opening taken => exact same ih taken.frame.calls taken.frame.command
    | closing taken => exact same ih taken.frame.calls taken.frame.command
    | reader taken => exact same ih taken.frame.calls taken.frame.command
    | network taken => exact same ih taken.frame.calls taken.frame.command

theorem lookup_of_erase {pending : AList fun _ : Id16 => CallId} {id removed : Id16} {owner : CallId}
    (entry : (pending.erase removed).lookup id = some owner) : pending.lookup id = some owner := by
  by_cases same : id = removed
  · rw [same, AList.lookup_erase] at entry
    cases entry
  · rw [AList.lookup_erase_ne same] at entry
    exact entry

theorem State.entry_of_cleaned {s : State} {armed : Option Id16} {id : Id16} {owner : CallId}
    (entry : (s.cleanedPending armed).lookup id = some owner) : s.pending.lookup id = some owner := by
  unfold State.cleanedPending at entry
  split at entry
  · exact entry
  split at entry
  · exact entry
  · exact lookup_of_erase entry

/-- An entry of the pending map that a step of a call leaves: either it was
there and the call did not remove it, or the call has just inserted it. -/
theorem CallStep.entry {config : Config} {s after : State} {c : CallId} {action : CallAction} {id : Id16}
    {owner : CallId} (taken : CallStep config s c action after) (entry : after.pending.lookup id = some owner) :
    s.pending.lookup id = some owner ∨
      ∃ encoded, s.calls c = .inPending encoded .insert ∧ after.calls c = .lockWriter encoded ∧
        id = encoded.requestId ∧ owner = c := by
  cases taken with
  | @insert encoded atPc =>
    by_cases same : id = encoded.requestId
    · rw [same, AList.lookup_insert] at entry
      cases entry
      exact .inr ⟨encoded, atPc, Function.update_self .., same, rfl⟩
    · rw [AList.lookup_insert_ne same] at entry
      exact .inl entry
  | remove => exact .inl (lookup_of_erase entry)
  | drop => exact .inl (State.entry_of_cleaned entry)
  | _ => exact .inl entry

theorem CallPc.encoded_of_cleanup {pc : CallPc} {id : Id16} (armed : pc.cleanup = some id) :
    ∃ encoded, pc.encoded = some encoded ∧ encoded.requestId = id := by
  cases pc with
  | lockPending encoded use =>
    cases use with
    | insert => cases armed
    | remove => exact ⟨encoded, rfl, Option.some.inj armed⟩
  | lockWriter encoded | writing encoded | waiting encoded => exact ⟨encoded, rfl, Option.some.inj armed⟩
  | _ => cases armed

/-- A step of a call takes away no entry but one under its own request id. -/
theorem CallStep.entry_kept {config : Config} {s after : State} {c : CallId} {action : CallAction} {id : Id16}
    {owner : CallId} (taken : CallStep config s c action after) (entry : s.pending.lookup id = some owner) :
    after.pending.lookup id = some owner ∨
      ∃ encoded, (s.calls c).encoded = some encoded ∧ encoded.requestId = id := by
  cases taken with
  | @insert encoded atPc =>
    by_cases same : encoded.requestId = id
    · exact .inr ⟨encoded, by rw [atPc]; rfl, same⟩
    · exact .inl ((AList.lookup_insert_ne (Ne.symm same)).trans entry)
  | @remove encoded exit atPc =>
    by_cases same : encoded.requestId = id
    · exact .inr ⟨encoded, by rw [atPc]; rfl, same⟩
    · exact .inl ((AList.lookup_erase_ne (Ne.symm same)).trans entry)
  | drop =>
    simp only [State.cleanedPending]
    split
    · exact .inl entry
    · rename_i armed isArmed
      split
      · exact .inl entry
      · by_cases same : armed = id
        · exact .inr (CallPc.encoded_of_cleanup (same ▸ isArmed))
        · exact .inl ((AList.lookup_erase_ne (Ne.symm same)).trans entry)
  | _ => exact .inl entry

/-- One call is told how its request ended, and loses its entry. -/
structure Completion (s after : State) (id : Id16) (owner : CallId) (message : Message) : Prop where
  entry : s.pending.lookup id = some owner
  pending : after.pending = s.pending.erase id
  channel : after.channel = Function.update s.channel owner (s.channel owner ++ [message])

/-- Nobody is told anything. -/
structure Quiet (s after : State) : Prop where
  pending : after.pending = s.pending
  channel : after.channel = s.channel

/-- A `close` and the failure handling of a reader only ever send errors. -/
theorem CloseStep.completes {config : Config} {s after : State} {k : CloseId} {action : CloseAction}
    (taken : CloseStep config s k action after) :
    Quiet s after ∨ ∃ id c, s.closes k = .inPending ∧ Completion s after id c ⟨.closing k, .error .clientClosed⟩ := by
  cases taken with
  | drain atPc entry => exact .inr ⟨_, _, atPc, entry, rfl, rfl⟩
  | _ => exact .inl ⟨rfl, rfl⟩

theorem CloseStep.busy {config : Config} {s after : State} {k : CloseId} {action : CloseAction}
    (taken : CloseStep config s k action after) : after.closes k ≠ .idle := by
  cases taken with
  | drain atPc =>
    change s.closes k ≠ .idle
    rw [atPc]
    nofun
  | start | storeClosed | lockWriter | noWriter | tookWriter | shutdown | lockPending | finish =>
    simp only [Function.update_self]
    nofun

theorem ReaderStep.completes {s after : State} {r : StreamId} {action : ReaderAction}
    (taken : ReaderStep s r action after) :
    Quiet s after ∨
      (∃ header data c, s.readers r = .inPending (.deliver header data) ∧
        Completion s after (responseRequestId header (decodeResponse header data)) c
          ⟨.response r (s.decoded r).length, decodeResponse header data⟩ ∧
        after.decoded = Function.update s.decoded r (s.decoded r ++ [decodeResponse header data])) ∨
      ∃ failure id c, s.readers r = .inPending (.drain failure) ∧
        Completion s after id c ⟨.failure r, .error failure.error⟩ ∧ after.decoded = s.decoded := by
  cases taken with
  | deliver atPc entry => exact .inr (.inl ⟨_, _, _, atPc, ⟨entry, rfl, rfl⟩, rfl⟩)
  | drain atPc entry => exact .inr (.inr ⟨_, _, _, atPc, ⟨entry, rfl, rfl⟩, rfl⟩)
  | _ => exact .inl ⟨rfl, rfl⟩

theorem ReaderStep.decoded_mono {s after : State} {r : StreamId} {action : ReaderAction}
    (taken : ReaderStep s r action after) (stream : StreamId) :
    (s.decoded stream).length ≤ (after.decoded stream).length := by
  by_cases same : stream = r
  · subst same
    cases taken with
    | deliver | discard => simp only [Function.update_self, List.length_append]; omega
    | _ => exact le_rfl
  · rw [(taken.frame.others stream same).2.2]

/-- What a call has written stays written. -/
theorem CallStep.written_mono {config : Config} {s after : State} {c : CallId} {action : CallAction}
    (taken : CallStep config s c action after) (other : CallId) (written : (s.written other).isSome = true) :
    (after.written other).isSome = true := by
  cases taken with
  | writeDone =>
    dsimp only
    rw [Function.update_apply]
    split
    · rfl
    · exact written
  | _ => exact written

/-- An entry that a step leaves has been there before, unless the step inserts it. -/
theorem Quiet.entry {s after : State} {id : Id16} {c : CallId} (quiet : Quiet s after)
    (entry : after.pending.lookup id = some c) : s.pending.lookup id = some c := by
  rw [← quiet.pending]
  exact entry

theorem Completion.entry_before {s after : State} {id id' : Id16} {c c' : CallId} {message : Message}
    (completion : Completion s after id' c' message) (entry : after.pending.lookup id = some c) :
    s.pending.lookup id = some c := by
  rw [completion.pending] at entry
  exact lookup_of_erase entry

theorem Completion.received {s after : State} {id : Id16} {owner c : CallId} {message told : Message}
    (completion : Completion s after id owner message) (member : told ∈ after.channel c) :
    told ∈ s.channel c ∨ c = owner ∧ told = message := by
  rw [completion.channel, Function.update_apply] at member
  split at member
  · rename_i same
    rcases List.mem_append.mp member with before | new
    · exact .inl (same ▸ before)
    · exact .inr ⟨same, List.mem_singleton.mp new⟩
  · exact .inl member

theorem Completion.channel_prefix {s after : State} {id : Id16} {owner : CallId} {message : Message}
    (completion : Completion s after id owner message) (c : CallId) : s.channel c <+: after.channel c := by
  rw [completion.channel, Function.update_apply]
  split
  · rename_i same
    rw [same]
    exact List.prefix_append ..
  · exact List.prefix_rfl

theorem Quiet.channel_prefix {s after : State} (quiet : Quiet s after) (c : CallId) :
    s.channel c <+: after.channel c :=
  quiet.channel ▸ List.prefix_rfl

/-- What was sent into a channel stays there. -/
theorem Step.channel_prefix {config : Config} {s after : State} {action : Action} (taken : Step config s action after)
    (c : CallId) : s.channel c <+: after.channel c := by
  cases taken with
  | call taken => exact taken.frame.channel ▸ List.prefix_rfl
  | opening taken => exact Quiet.channel_prefix ⟨taken.frame.pending, taken.frame.channel⟩ c
  | network taken => exact Quiet.channel_prefix ⟨taken.frame.pending, taken.frame.channel⟩ c
  | closing taken =>
    rcases taken.completes with quiet | ⟨_, _, _, completion⟩
    · exact quiet.channel_prefix c
    · exact completion.channel_prefix c
  | reader taken =>
    rcases taken.completes with quiet | ⟨_, _, _, _, completion, _⟩ | ⟨_, _, _, _, completion, _⟩
    · exact quiet.channel_prefix c
    · exact completion.channel_prefix c
    · exact completion.channel_prefix c

theorem CloseStep.entry {config : Config} {s after : State} {k : CloseId} {action : CloseAction} {id : Id16}
    {c : CallId} (taken : CloseStep config s k action after) (entry : after.pending.lookup id = some c) :
    s.pending.lookup id = some c := by
  rcases taken.completes with quiet | ⟨_, _, _, completion⟩
  · exact quiet.entry entry
  · exact completion.entry_before entry

theorem ReaderStep.entry {s after : State} {r : StreamId} {action : ReaderAction} {id : Id16} {c : CallId}
    (taken : ReaderStep s r action after) (entry : after.pending.lookup id = some c) :
    s.pending.lookup id = some c := by
  rcases taken.completes with quiet | ⟨_, _, _, _, completion, _⟩ | ⟨_, _, _, _, completion, _⟩
  · exact quiet.entry entry
  · exact completion.entry_before entry
  · exact completion.entry_before entry

theorem lookup_of_entries_nil {pending : AList fun _ : Id16 => CallId} (empty : pending.entries = []) (id : Id16) :
    pending.lookup id = none := by
  rw [AList.lookup, empty]
  rfl

/-- The calls that have written their frame are those behind the write. -/
structure Written (s : State) : Prop where
  sent : ∀ c, (s.written c).isSome = true → (s.calls c).sent = true
  waiting : ∀ c encoded, s.calls c = .waiting encoded → (s.written c).isSome = true

theorem CallStep.sent {config : Config} {s after : State} {c : CallId} {action : CallAction}
    (taken : CallStep config s c action after) (before : (s.written c).isSome = true → (s.calls c).sent = true)
    (written : (after.written c).isSome = true) : (after.calls c).sent = true := by
  cases taken with
  | start atPc | enter atPc | insert atPc | lockWriter atPc | noWriter atPc | foundWriter atPc | write atPc
  | writeFails atPc | unlockWriter atPc =>
    have early := before written
    rw [atPc] at early
    cases early
  | @lockPending encoded use atPc =>
    have early := before written
    rw [atPc] at early
    simp only [Function.update_self]
    cases use with
    | insert => cases early
    | remove exit => cases exit <;> first | rfl | cases early
  | @remove encoded exit atPc =>
    have early := before written
    rw [atPc] at early
    simp only [Function.update_self]
    cases exit <;> first | rfl | cases early
  | writeDone | receive | timeout | disconnected | drop =>
    simp only [Function.update_self]
    rfl

theorem CallStep.waiting {config : Config} {s after : State} {c : CallId} {action : CallAction}
    {encoded : EncodedCommand} (taken : CallStep config s c action after) (waiting : after.calls c = .waiting encoded) :
    (after.written c).isSome = true := by
  cases taken with
  | writeDone => simp only [Function.update_self]; rfl
  | @enter command =>
    simp only [Function.update_self, enterPc] at waiting
    repeat' split at waiting
    all_goals cases waiting
  | @remove _ exit =>
    simp only [Function.update_self] at waiting
    cases exit <;> cases waiting
  | start | lockPending | insert | lockWriter | noWriter | foundWriter | write | writeFails | unlockWriter | receive
  | timeout | disconnected | drop =>
    simp only [Function.update_self] at waiting
    cases waiting

theorem Written.of_reach {config : Config} {allowed : State → Action → Prop} {s : State}
    (reach : Reached config allowed s) : Written s := by
  have same : ∀ {before after : State}, Written before → after.calls = before.calls →
      after.written = before.written → Written after := by
    intro before after known calls written
    constructor
    · rw [calls, written]; exact known.sent
    · rw [calls, written]; exact known.waiting
  induction reach with
  | start => exact ⟨nofun, nofun⟩
  | next _ _ run ih =>
    cases Step.of_run run with
    | opening taken => exact same ih taken.frame.calls taken.frame.written
    | closing taken => exact same ih taken.frame.calls taken.frame.written
    | reader taken => exact same ih taken.frame.calls taken.frame.written
    | network taken => exact same ih taken.frame.calls taken.frame.written
    | @call moved _ _ taken =>
      constructor
      · intro c written
        by_cases here : c = moved
        · subst here
          exact taken.sent (ih.sent c) written
        · rw [(taken.frame.others c here).2.2] at written
          rw [(taken.frame.others c here).1]
          exact ih.sent c written
      · intro c encoded waiting
        by_cases here : c = moved
        · subst here
          exact taken.waiting waiting
        · rw [(taken.frame.others c here).1] at waiting
          rw [(taken.frame.others c here).2.2]
          exact ih.waiting c encoded waiting

/-- A call that has not inserted its entry has written nothing. -/
theorem unwritten_of_fresh {config : Config} {allowed : State → Action → Prop} {s : State} {c : CallId}
    (reach : Reached config allowed s) (fresh : (s.calls c).fresh = true) : s.written c = none := by
  by_contra written
  have sent := (Written.of_reach reach).sent c (Option.isSome_iff_ne_none.mpr written)
  rw [CallPc.unsent_of_fresh fresh] at sent
  cases sent

/-- The stream that a call writes to is the writer for as long as it writes. -/
theorem writer_of_writing {config : Config} {allowed : State → Action → Prop} {s : State} {c : CallId}
    {stream : StreamId} (reach : Reached config allowed s) (writing : (s.calls c).stream = some stream) :
    s.writer = some stream := by
  induction reach generalizing c stream with
  | start => cases writing
  | @next before after action previous _ run ih =>
    have locks : Locks before := .of_reach previous
    -- whoever changes the writer holds its mutex, and so does the call
    have alone : ∀ party, before.holdsWriter party = true → (before.calls c).stream = some stream → party = .call c :=
      fun party holds here => locks.writer.unique holds (CallPc.holdsWriter_of_stream here)
    cases Step.of_run run with
    | network taken => rw [taken.frame.writer]; exact ih (by rw [← taken.frame.calls]; exact writing)
    | @call moved _ _ taken =>
      rw [taken.frame.writer]
      by_cases same : c = moved
      · subst same
        exact (taken.stream writing).elim ih fun atWriter => atWriter
      · exact ih (by rw [← (taken.frame.others c same).1]; exact writing)
    | @opening o _ _ taken =>
      rw [taken.frame.calls] at writing
      rcases taken.writer with ⟨same, _⟩ | ⟨_, _, atPc, _⟩
      · rw [same]; exact ih writing
      · cases alone (.opening o) (by simp only [State.holdsWriter, atPc]; rfl) writing
    | @closing k _ _ taken =>
      rw [taken.frame.calls] at writing
      cases taken with
      | tookWriter atPc => cases alone (.closing k) (by simp only [State.holdsWriter, atPc]; rfl) writing
      | _ => exact ih writing
    | @reader r _ _ taken =>
      rw [taken.frame.calls] at writing
      cases taken with
      | takeWriter atPc => cases alone (.reader r) (by simp only [State.holdsWriter, atPc]; rfl) writing
      | _ => exact ih writing

/-- The frame of a pending request was written before the step, or to the
stream that is the writer. -/
theorem CallStep.entry_written {config : Config} {allowed : State → Action → Prop} {s after : State} {c owner : CallId}
    {action : CallAction} {id : Id16} {stream : StreamId} (taken : CallStep config s c action after)
    (reach : Reached config allowed s) (entry : after.pending.lookup id = some owner)
    (written : after.written owner = some stream) :
    s.pending.lookup id = some owner ∧ s.written owner = some stream ∨ s.writer = some stream := by
  have wrote : s.written owner = some stream ∨ s.writer = some stream := by
    by_cases same : owner = c
    · subst same
      exact (taken.written written).imp_right (writer_of_writing reach)
    · rw [(taken.frame.others owner same).2.2] at written
      exact .inl written
  rcases wrote with already | atWriter
  · rcases taken.entry entry with before | ⟨encoded, atPc, _, _, rfl⟩
    · exact .inl ⟨before, already⟩
    · rw [unwritten_of_fresh reach (by rw [atPc]; rfl)] at already
      cases already
  · exact .inr atWriter

/-- A reader that has emptied the pending map and still holds its mutex. -/
def ReaderPc.emptied : ReaderPc → Bool
  | .lockWriter => true
  | .inWriter => true
  | .unlockPending => true
  | _ => false

theorem ReaderPc.holdsPending_of_emptied {pc : ReaderPc} (emptied : pc.emptied = true) : pc.holdsPending = true := by
  cases pc with
  | lockWriter | inWriter | unlockPending => rfl
  | _ => cases emptied

/-- A reader that has emptied the map was already there, or has just seen the
map empty. -/
theorem ReaderStep.emptied {s after : State} {r : StreamId} {action : ReaderAction}
    (taken : ReaderStep s r action after) (emptied : (after.readers r).emptied = true) :
    (s.readers r).emptied = true ∨ ∀ id, s.pending.lookup id = none := by
  cases taken with
  | drainedHeader _ empty => exact .inr (lookup_of_entries_nil empty)
  | lockWriter atPc | takeWriter atPc => exact .inl (by rw [atPc]; rfl)
  | drain => exact .inl emptied
  | readHeader | checkClosed =>
    simp only [Function.update_self] at emptied
    split at emptied <;> cases emptied
  | headerFails | readExtra | extraFails | lockPending | deliver | discard | drainedExtra | unlockPending =>
    simp only [Function.update_self] at emptied
    cases emptied

theorem ReaderStep.unlocking {s after : State} {r : StreamId} {action : ReaderAction}
    (taken : ReaderStep s r action after) (unlocking : after.readers r = .unlockPending) : after.writer = none := by
  cases taken with
  | takeWriter => rfl
  | drain atPc => cases atPc.symm.trans unlocking
  | readHeader | checkClosed =>
    simp only [Function.update_self] at unlocking
    split at unlocking <;> cases unlocking
  | headerFails | readExtra | extraFails | lockPending | deliver | discard | drainedHeader | drainedExtra | lockWriter
  | unlockPending =>
    simp only [Function.update_self] at unlocking
    cases unlocking

theorem empty_of_emptied {config : Config} {allowed : State → Action → Prop} {s : State} {r : StreamId}
    (reach : Reached config allowed s) (emptied : (s.readers r).emptied = true) (id : Id16) :
    s.pending.lookup id = none := by
  induction reach generalizing r with
  | start => cases emptied
  | @next before after action previous _ run ih =>
    cases entry : after.pending.lookup id with
    | none => rfl
    | some owner =>
      cases Step.of_run run with
      | network taken =>
        rw [taken.frame.readers] at emptied
        rw [taken.frame.pending] at entry
        exact entry.symm.trans (ih emptied)
      | opening taken =>
        rw [taken.frame.pending] at entry
        rcases taken.reader_kept r with same | ⟨new, _⟩
        · exact entry.symm.trans (ih (same ▸ emptied))
        · rw [new] at emptied
          cases emptied
      | closing taken =>
        rw [taken.frame.readers] at emptied
        exact (taken.entry entry).symm.trans (ih emptied)
      | @reader moved _ _ taken =>
        by_cases same : r = moved
        · subst same
          rcases taken.emptied emptied with already | empty
          · exact (taken.entry entry).symm.trans (ih already)
          · exact (taken.entry entry).symm.trans (empty id)
        · rw [(taken.frame.others r same).1] at emptied
          exact (taken.entry entry).symm.trans (ih emptied)
      | @call c _ _ taken =>
        rw [taken.frame.readers] at emptied
        rcases taken.entry entry with already | ⟨encoded, atPc, _⟩
        · exact already.symm.trans (ih emptied)
        · exact absurd atPc ((Locks.of_reach previous).not_inPending (ReaderPc.holdsPending_of_emptied emptied))

/-- A call on its way has its entry or its completion. -/
def State.Tracks (s : State) (c : CallId) (encoded : EncodedCommand) : Prop :=
  s.pending.lookup encoded.requestId = some c ∨ s.channel c ≠ []

theorem Completion.channel_kept {s after : State} {id : Id16} {owner c : CallId} {message : Message}
    (completion : Completion s after id owner message) (told : s.channel c ≠ []) : after.channel c ≠ [] := by
  rw [completion.channel, Function.update_apply]
  split
  · exact List.append_ne_nil_of_right_ne_nil _ (List.cons_ne_nil _ _)
  · exact told

theorem Completion.tracks {s after : State} {id : Id16} {owner c : CallId} {message : Message} {encoded : EncodedCommand}
    (completion : Completion s after id owner message) (tracks : s.Tracks c encoded) : after.Tracks c encoded := by
  rcases tracks with entry | told
  · by_cases same : encoded.requestId = id
    · have self : owner = c := Option.some.inj (completion.entry.symm.trans (same ▸ entry))
      right
      rw [completion.channel, self, Function.update_self]
      exact List.append_ne_nil_of_right_ne_nil _ (List.cons_ne_nil _ _)
    · exact .inl (by rw [completion.pending, AList.lookup_erase_ne same]; exact entry)
  · exact .inr (completion.channel_kept told)

theorem CallStep.tracks {config : Config} {s after : State} {c : CallId} {action : CallAction} {encoded : EncodedCommand}
    (taken : CallStep config s c action after)
    (known : (s.calls c).registered = true → (s.calls c).encoded = some encoded → s.Tracks c encoded)
    (registered : (after.calls c).registered = true) (atEncoded : (after.calls c).encoded = some encoded) :
    after.Tracks c encoded := by
  have early : (s.calls c).registered = true → (s.calls c).encoded = some encoded → after.pending = s.pending →
      after.Tracks c encoded := by
    intro before atBefore pending
    unfold State.Tracks
    rw [pending, taken.frame.channel]
    exact known before atBefore
  cases taken with
  | insert =>
    simp only [Function.update_self] at atEncoded
    cases atEncoded
    exact .inl (AList.lookup_insert _)
  | @lockPending _ use atPc =>
    simp only [Function.update_self] at registered atEncoded
    cases use with
    | insert => cases registered
    | remove => exact early (by rw [atPc]; rfl) (by rw [atPc]; exact atEncoded) rfl
  | lockWriter atPc | noWriter atPc | foundWriter atPc | write atPc | writeFails atPc | writeDone atPc | timeout atPc =>
    simp only [Function.update_self] at atEncoded
    exact early (by rw [atPc]; rfl) (by rw [atPc]; exact atEncoded) rfl
  | @enter command =>
    simp only [Function.update_self, enterPc] at registered
    repeat' split at registered
    all_goals cases registered
  | @remove _ exit =>
    simp only [Function.update_self] at registered
    cases exit <;> cases registered
  | start | unlockWriter | receive | disconnected =>
    simp only [Function.update_self] at registered
    cases registered
  | drop =>
    simp only [Function.update_self] at atEncoded
    cases atEncoded

/-- A call loses its track only to another call with its request id. -/
theorem Step.tracks {config : Config} {s after : State} {c : CallId} {action : Action} {encoded : EncodedCommand}
    (taken : Step config s action after)
    (known : (s.calls c).registered = true → (s.calls c).encoded = some encoded → s.Tracks c encoded)
    (registered : (after.calls c).registered = true) (atEncoded : (after.calls c).encoded = some encoded) :
    after.Tracks c encoded ∨ ∃ moved callAction mine, action = .call moved callAction ∧ moved ≠ c ∧
      s.pending.lookup encoded.requestId = some c ∧ (s.calls c).encoded = some encoded ∧
      (s.calls moved).encoded = some mine ∧ mine.requestId = encoded.requestId := by
  have quiet : Quiet s after → after.calls = s.calls → after.Tracks c encoded := by
    intro quiet calls
    unfold State.Tracks
    rw [quiet.pending, quiet.channel]
    exact known (by rw [← calls]; exact registered) (by rw [← calls]; exact atEncoded)
  have completed : ∀ {id owner message}, Completion s after id owner message → after.calls = s.calls →
      after.Tracks c encoded := fun completion calls =>
    completion.tracks (known (by rw [← calls]; exact registered) (by rw [← calls]; exact atEncoded))
  cases taken with
  | opening taken => exact .inl (quiet ⟨taken.frame.pending, taken.frame.channel⟩ taken.frame.calls)
  | network taken => exact .inl (quiet ⟨taken.frame.pending, taken.frame.channel⟩ taken.frame.calls)
  | closing taken =>
    rcases taken.completes with nothing | ⟨_, _, _, completion⟩
    · exact .inl (quiet nothing taken.frame.calls)
    · exact .inl (completed completion taken.frame.calls)
  | reader taken =>
    rcases taken.completes with nothing | ⟨_, _, _, _, completion, _⟩ | ⟨_, _, _, _, completion, _⟩
    · exact .inl (quiet nothing taken.frame.calls)
    · exact .inl (completed completion taken.frame.calls)
    · exact .inl (completed completion taken.frame.calls)
  | @call moved _ _ taken =>
    by_cases same : c = moved
    · subst same
      exact .inl (taken.tracks known registered atEncoded)
    · rw [(taken.frame.others c same).1] at registered atEncoded
      rcases known registered atEncoded with entry | told
      · rcases taken.entry_kept entry with kept | ⟨mine, atMine, sameId⟩
        · exact .inl (.inl kept)
        · exact .inr ⟨moved, _, mine, rfl, Ne.symm same, entry, atEncoded, atMine, sameId⟩
      · exact .inl (.inr (by rw [taken.frame.channel]; exact told))

/-- A reader that has passed its checks and has yet to fail requests or to
clear the writer. -/
def ReaderPc.handling : ReaderPc → Bool
  | .lockPending (.drain _) => true
  | .inPending (.drain _) => true
  | .lockWriter => true
  | .inWriter => true
  | _ => false

theorem ReaderStep.handling {s after : State} {r : StreamId} {action : ReaderAction}
    (taken : ReaderStep s r action after) (handling : (after.readers r).handling = true) :
    (s.readers r).handling = true ∨ action = .checkClosed ∧ s.closed = false ∨ action = .extraFails := by
  cases taken with
  | checkClosed atPc =>
    simp only [Function.update_self] at handling
    split at handling
    · cases handling
    · rename_i opened
      exact .inr (.inl ⟨rfl, Bool.eq_false_iff.mpr opened⟩)
  | extraFails => exact .inr (.inr rfl)
  | @lockPending use atPc =>
    simp only [Function.update_self] at handling
    rw [atPc]
    cases use with
    | deliver => cases handling
    | drain => exact .inl rfl
  | drain => exact .inl handling
  | drainedHeader atPc | lockWriter atPc => exact .inl (by rw [atPc]; rfl)
  | readHeader =>
    simp only [Function.update_self] at handling
    split at handling <;> cases handling
  | headerFails | readExtra | deliver | discard | drainedExtra | takeWriter | unlockPending =>
    simp only [Function.update_self] at handling
    cases handling

end Ruslock.Connection
