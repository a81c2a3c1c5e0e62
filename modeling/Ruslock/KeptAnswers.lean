import Ruslock.HealthyConnection
import Ruslock.ReplsetAnswers
import Ruslock.ResponseMatching

namespace Ruslock.Connection
open Transition Wire

/-- No two calls that are under way have one request id. -/
def ApartIds (s : State) (_action : Action) : Prop :=
  ∀ c c' encoded encoded', (s.calls c).encoded = some encoded → (s.calls c').encoded = some encoded' →
    encoded.requestId = encoded'.requestId → c = c'

/-- The encoded command of a call whose entry is in and that has not given up. -/
def CallPc.answerable : CallPc → Option EncodedCommand
  | .lockWriter encoded => some encoded
  | .inWriter encoded => some encoded
  | .writing encoded _ _ => some encoded
  | .waiting encoded => some encoded
  | _ => none

theorem CallPc.registered_of_answerable {pc : CallPc} {encoded : EncodedCommand} (answerable : pc.answerable = some encoded) :
    pc.registered = true ∧ pc.encoded = some encoded := by
  cases pc with
  | lockWriter | inWriter | writing | waiting => exact ⟨rfl, answerable⟩
  | _ => cases answerable

/-- Whatever a call ends with that was told `outcome` while it was answerable:
if not with that, its frame was not written. -/
def Ends (outcome : Outcome CommandResult) (written : Option StreamId) (result : Outcome CommandResult) : Prop :=
  result = outcome ∨ written = none ∧ (result = .error .notConnected ∨ ∃ err, result = .error (.io err))

/-- Where a call can be that was told `outcome` while it was answerable. -/
def CallPc.Settles (outcome : Outcome CommandResult) (written : Option StreamId) : CallPc → Prop
  | .lockPending _ (.remove exit) => exit ≠ .timeout ∧ written = none
  | .inPending _ (.remove exit) => exit ≠ .timeout ∧ written = none
  | .unlockWriter => written = none
  | .returned result => Ends outcome written result
  | .dropped => True
  | pc => pc.answerable.isSome = true

/-- A call that was told how its request ended before it gave up. -/
structure Settled (s : State) (c : CallId) (message : Message) : Prop where
  first : [message] <+: s.channel c
  place : (s.calls c).Settles message.result (s.written c)

section Steps

variable {config : Config} {allowed : State → Action → Prop} {s after : State} {c : CallId} {message : Message}

theorem CallPc.settles_of_answerable {pc : CallPc} {encoded : EncodedCommand} {outcome : Outcome CommandResult}
    {written : Option StreamId} (answerable : pc.answerable = some encoded) : pc.Settles outcome written := by
  cases pc with
  | lockWriter | inWriter | writing | waiting => rfl
  | _ => cases answerable

/-- The call itself takes its message, unless it gives up before its frame is written. -/
theorem CallStep.settles {action : CallAction} (taken : CallStep config s c action after) (written : Written s)
    (settled : Settled s c message) : (after.calls c).Settles message.result (after.written c) := by
  have place := settled.place
  have unwritten : (s.calls c).sent = false → s.written c = none := by
    intro unsent
    by_contra wrote
    rw [written.sent c (Option.isSome_iff_ne_none.mpr wrote)] at unsent
    cases unsent
  cases taken with
  | start atPc | enter atPc | insert atPc =>
    rw [atPc] at place
    cases place
  | @lockPending _ use atPc =>
    rw [atPc] at place
    simp only [Function.update_self]
    cases use with
    | insert => cases place
    | remove => exact place
  | @remove _ exit atPc =>
    rw [atPc] at place
    simp only [Function.update_self]
    cases exit with
    | notConnected => exact place.2
    | ioError err => exact .inr ⟨place.2, .inr ⟨err, rfl⟩⟩
    | timeout => exact absurd rfl place.1
  | unlockWriter atPc =>
    rw [atPc] at place
    simp only [Function.update_self]
    exact .inr ⟨place, .inl rfl⟩
  | noWriter atPc | writeFails atPc =>
    simp only [Function.update_self]
    exact ⟨nofun, unwritten (by rw [atPc]; rfl)⟩
  | receive _ atChannel =>
    have first := settled.first
    rw [atChannel] at first
    simp only [Function.update_self]
    exact .inl (congrArg Message.result (List.cons_prefix_cons.mp first).1.symm)
  | timeout _ atChannel | disconnected _ atChannel =>
    have first := settled.first
    rw [atChannel] at first
    cases List.prefix_nil.mp first
  | lockWriter | foundWriter | write | writeDone =>
    simp only [Function.update_self]
    rfl
  | drop =>
    simp only [Function.update_self]
    trivial

theorem Settled.step {action : Action} (settled : Settled s c message) (written : Written s)
    (taken : Step config s action after) : Settled after c message := by
  refine ⟨settled.first.trans (taken.channel_prefix c), ?_⟩
  cases taken with
  | opening taken => rw [taken.frame.calls, taken.frame.written]; exact settled.place
  | closing taken => rw [taken.frame.calls, taken.frame.written]; exact settled.place
  | reader taken => rw [taken.frame.calls, taken.frame.written]; exact settled.place
  | network taken => rw [taken.frame.calls, taken.frame.written]; exact settled.place
  | @call moved _ _ taken =>
    by_cases same : c = moved
    · subst same
      exact taken.settles written settled
    · rw [(taken.frame.others c same).1, (taken.frame.others c same).2.2]
      exact settled.place

end Steps

section Runs

variable {config : Config} {s after later : State} {c : CallId} {encoded : EncodedCommand}

theorem tracks_of_reach (reach : Reached config ApartIds s) (registered : (s.calls c).registered = true)
    (atEncoded : (s.calls c).encoded = some encoded) : s.Tracks c encoded := by
  induction reach generalizing c encoded with
  | start => cases registered
  | next _ apart run ih =>
    rcases (Step.of_run run).tracks ih registered atEncoded with
      tracks | ⟨moved, _, mine, _, other, _, still, atMine, same⟩
    · exact tracks
    · exact absurd (apart moved c mine encoded atMine still same) other

/-- A reader hands an answer to the call that waits for it. -/
theorem settled_of_decoded {r : StreamId} {header : Block 64} {data : Option (List UInt8)}
    (reach : Reached config ApartIds s) (answerable : (s.calls c).answerable = some encoded) (untold : s.channel c = [])
    (atPc : s.readers r = .inPending (.deliver header data))
    (own : responseRequestId header (decodeResponse header data) = encoded.requestId)
    (run : step config s (.reader r .deliver) = some after) :
    Settled after c ⟨.response r (s.decoded r).length, decodeResponse header data⟩ := by
  obtain ⟨registered, atEncoded⟩ := CallPc.registered_of_answerable answerable
  have entry : s.pending.lookup encoded.requestId = some c :=
    (tracks_of_reach reach registered atEncoded).resolve_right (absurd untold)
  cases Step.of_run run with
  | network taken => cases taken
  | reader taken =>
    cases taken with
    | discard atPc' absent =>
      cases atPc.symm.trans atPc'
      rw [own, entry] at absent
      cases absent
    | @deliver _ _ owner atPc' found =>
      cases atPc.symm.trans atPc'
      rw [own, entry] at found
      cases found
      refine ⟨?_, CallPc.settles_of_answerable answerable⟩
      simp only [State.complete, Function.update_self, untold, List.nil_append]
      exact List.prefix_rfl

theorem Settled.onward {message : Message} {allowed allowed' : State → Action → Prop} (settled : Settled s c message)
    (reach : Reached config allowed s) (onward : Reach (Connection.step config) allowed' s later) :
    Settled later c message := by
  induction onward with
  | start => exact settled
  | next previous _ run ih => exact ih.step (.of_reach (reach.always.trans previous.always)) (.of_run run)

/-- An answer that a reader has decoded for a call that has not given up is
what the call returns, whatever comes afterwards, unless the call fails before
its frame is written. -/
theorem answer_of_decoded {r : StreamId} {header : Block 64} {data : Option (List UInt8)} {outcome : Outcome CommandResult}
    (reach : Reached config ApartIds s) (answerable : (s.calls c).answerable = some encoded) (untold : s.channel c = [])
    (atPc : s.readers r = .inPending (.deliver header data))
    (own : responseRequestId header (decodeResponse header data) = encoded.requestId)
    (run : step config s (.reader r .deliver) = some after) (onward : Reach (step config) Always after later)
    (returned : later.calls c = .returned outcome) :
    Ends (decodeResponse header data) (later.written c) outcome := by
  have settled := settled_of_decoded reach answerable untold atPc own run
  have place := (settled.onward (.next reach.always trivial run) onward).place
  rw [returned] at place
  exact place

/-- Calls with ids of their own are apart while they are under way. -/
theorem apartIds_of_fresh (reach : Reached config FreshIds s) (action : Action) : ApartIds s action := by
  intro c c' encoded encoded' atEncoded atEncoded' same
  obtain ⟨command, atCommand, encodes⟩ := (Commands.of_reach reach).encoded c encoded atEncoded
  obtain ⟨command', atCommand', encodes'⟩ := (Commands.of_reach reach).encoded c' encoded' atEncoded'
  refine (Matching.of_reach reach).distinct c c' command command' atCommand atCommand' ?_
  rw [← Command.encode_requestId encodes, ← Command.encode_requestId encodes', same]

theorem reached_apart (reach : Reached config FreshIds s) : Reached config ApartIds s :=
  reach.simulate id fun _ action _ previous _ run => .inr ⟨action, apartIds_of_fresh previous action, run⟩

end Runs

section Example

/-- A ping whose answer is in the hands of the reader. -/
def heldPong : List Action := answeredPing.take 24

/-- The reader and the ping go on by themselves. -/
def State.hears (s : State) : Bool :=
  match s.calls 0, s.channel 0, s.readers 0 with
  | .waiting encoded, [], .inPending (.deliver header data) =>
    responseRequestId header (decodeResponse header data) == encoded.requestId &&
      (run (step ⟨.blocking, ""⟩) s (answeredPing.drop 24)).any fun later => (later.calls 0).succeeded
  | _, _, _ => false

theorem CallPc.succeeded_iff {pc : CallPc} : pc.succeeded = true ↔ ∃ result, pc = .returned (.ok result) := by
  constructor
  · intro succeeded
    unfold CallPc.succeeded at succeeded
    split at succeeded
    · exact ⟨_, rfl⟩
    · cases succeeded
  · rintro ⟨_, rfl⟩
    rfl

theorem answer_of_decoded_heldPong : ∃ (s : State) (header : Block 64) (data : Option (List UInt8)) (result : CommandResult),
    s.calls 0 = .returned (.ok result) ∧ Ends (decodeResponse header data) (s.written 0) (.ok result) := by
  have meets : RunAllowed (step ⟨.blocking, ""⟩) FreshIds State.new heldPong := by
    refine .cons (fun _ _ used => nomatch used) (.of_forall fun action member s => freshIds_of_not_starts s ?_)
    revert action
    decide
  obtain ⟨s, reach, hears⟩ := Reach.exists_of_run meets
    (show (run (step ⟨.blocking, ""⟩) State.new heldPong).any State.hears = true by decide)
  unfold State.hears at hears
  split at hears
  · rename_i encoded header data atCall atChannel atReader
    obtain ⟨own, executed⟩ := (Bool.and_eq_true ..).mp hears
    obtain ⟨later, final, succeeded⟩ := (Option.any_eq_true ..).mp executed
    obtain ⟨after, delivered, received⟩ := Option.bind_eq_some_iff.mp final
    obtain ⟨result, returned⟩ := CallPc.succeeded_iff.mp succeeded
    exact ⟨later, header, data, result, returned, answer_of_decoded (reached_apart reach) (by rw [atCall]; rfl) atChannel
      atReader (eq_of_beq own) delivered (.of_run (runAllowed_always ..) received) returned⟩
  · cases hears

end Example

end Ruslock.Connection

namespace Ruslock.Replset
open Transition Wire

variable {n : Nat}

/-- Where a `send_command` can be whose call to a node was told `result`. -/
def SendPc.Carries (index : Fin n) (c : Connection.CallId) (result : CommandResult) : SendPc n → Prop
  | .sending _ node call => node = index ∧ call = c
  | .setActive _ _ told => told = result
  | .remove _ outcome => outcome = .ok result
  | .returned outcome => outcome = .ok result
  | _ => False

/-- A call that has failed before its frame was written. -/
def State.Unwritten (s : State n) (index : Fin n) (c : Connection.CallId) : Prop :=
  ((s.clients index).calls c).finished = true ∧ (s.clients index).written c = none

/-- A `send_command` whose call to a node was told `message` before it gave up. -/
structure Carried (s : State n) (d : SendId) (index : Fin n) (c : Connection.CallId) (message : Connection.Message)
    (result : CommandResult) (made : List (Fin n × Connection.CallId)) : Prop where
  settled : Connection.Settled (s.clients index) c message
  place : (s.sends d).Carries index c result
  attempts : s.attempts d = made

section Steps

variable {config : Config n} {s after : State n} {action : Action n} {d : SendId} {index : Fin n}
  {c : Connection.CallId} {message : Connection.Message} {result : CommandResult} {made : List (Fin n × Connection.CallId)}

theorem State.Unwritten.step (unwritten : s.Unwritten index c) (taken : Step config s action after) :
    after.Unwritten index c := by
  obtain ⟨calls, written⟩ := taken.call_kept unwritten.1
  exact ⟨by rw [calls]; exact unwritten.1, written.trans unwritten.2⟩

/-- A result that is not refused leads the loop to its end. -/
theorem SendStep.carries {action : SendAction} (taken : SendStep config s d action after)
    (carries : (s.sends d).Carries index c result) (accepted : ¬ (lockStateError result = true ∧ 1 < n))
    (settles : ∀ outcome, (s.clients index).calls c = .returned outcome → outcome = .ok result ∨ s.Unwritten index c) :
    (after.sends d).Carries index c result ∧ after.attempts = s.attempts ∨ s.Unwritten index c := by
  cases taken with
  | @answered _ _ _ outcome atPc returned =>
    rw [atPc] at carries
    obtain ⟨rfl, rfl⟩ := carries
    rcases settles outcome returned with rfl | unwritten
    · refine .inl ⟨?_, rfl⟩
      simp only [State.moveSend, Function.update_self, answeredPc, if_neg accepted]
      rfl
    · exact .inr unwritten
  | setActive atPc =>
    rw [atPc] at carries
    refine .inl ⟨?_, rfl⟩
    simp only [State.moveSend, Function.update_self]
    exact congrArg Except.ok carries
  | remove atPc =>
    rw [atPc] at carries
    refine .inl ⟨?_, rfl⟩
    simp only [State.moveSend, Function.update_self]
    exact carries
  | start atPc | enter atPc | push atPc | readActive atPc | startOpen _ atPc | opened atPc | startSend atPc
  | startClose atPc | closed atPc | redirect atPc | endRound atPc | retry atPc | sleep atPc | wake atPc | woken atPc =>
    rw [atPc] at carries
    cases carries

theorem Carried.step (carried : Carried s d index c message result made) (isResult : message.result = .ok result)
    (accepted : ¬ (lockStateError result = true ∧ 1 < n)) (written : Connection.Written (s.clients index))
    (taken : Step config s action after) :
    Carried after d index c message result made ∨ after.Unwritten index c := by
  have settled : Connection.Settled (after.clients index) c message := by
    rcases taken.client_of index with same | ⟨_, _, step⟩
    · rw [same]
      exact carried.settled
    · exact carried.settled.step written step
  rcases taken.loop d with ⟨_, rfl, step⟩ | ⟨sends, _, attempts⟩
  · have settles : ∀ outcome, (s.clients index).calls c = .returned outcome →
        outcome = .ok result ∨ s.Unwritten index c := by
      intro outcome returned
      have place := carried.settled.place
      rw [returned, isResult] at place
      exact place.imp_right fun early => ⟨by rw [returned]; rfl, early.1⟩
    rcases step.carries carried.place accepted settles with ⟨place, attempts⟩ | unwritten
    · exact .inl ⟨settled, place, by rw [attempts]; exact carried.attempts⟩
    · exact .inr (unwritten.step taken)
  · exact .inl ⟨settled, by rw [sends]; exact carried.place, attempts.trans carried.attempts⟩

end Steps

section Runs

variable {config : Config n} {s after later : State n} {d : SendId} {index : Fin n} {c : Connection.CallId}

theorem client_apart (index : Fin n) (reach : Reached config FreshCommands s) :
    Connection.Reached (config.client index) Connection.ApartIds (s.clients index) :=
  client_reach index reach fun _ _ _ previous _ _ _ _ _ _ atEncoded atEncoded' same =>
    (Loops.of_fresh previous).apart previous atEncoded atEncoded' same

theorem Carried.onward {message : Connection.Message} {result : CommandResult} {made : List (Fin n × Connection.CallId)}
    (carried : Carried s d index c message result made) (isResult : message.result = .ok result)
    (accepted : ¬ (lockStateError result = true ∧ 1 < n)) (reach : Reached config Always s)
    (onward : Reach (Replset.step config) Always s later) :
    Carried later d index c message result made ∨ later.Unwritten index c := by
  induction onward with
  | start => exact .inl carried
  | next previous _ run ih =>
    rcases ih with carried | unwritten
    · exact carried.step isResult accepted (.of_reach (client_reached index (reach.trans previous))) (.of_run run)
    · exact .inr (unwritten.step (.of_run run))

/-- An answer that the reader of a node has decoded in time for the call of a
`send_command` is what the `send_command` returns, and its command is sent to
no node again, unless the call fails before its frame is written. -/
theorem answer_not_resent {r : Connection.StreamId} {round : Round} {encoded : EncodedCommand} {header : Block 64}
    {data : Option (List UInt8)} {result : CommandResult} (reach : Reached config FreshCommands s)
    (sending : s.sends d = .sending round index c)
    (answerable : ((s.clients index).calls c).answerable = some encoded) (untold : (s.clients index).channel c = [])
    (atPc : (s.clients index).readers r = .inPending (.deliver header data))
    (decoded : decodeResponse header data = .ok result) (own : result.requestId = encoded.requestId)
    (accepted : ¬ (lockStateError result = true ∧ 1 < n))
    (run : step config s (.client index (.reader r .deliver)) = some after)
    (onward : Reach (step config) Always after later) :
    (later.attempts d = s.attempts d ∧ ∀ outcome, later.sends d = .returned outcome → outcome = .ok result) ∨
      later.Unwritten index c := by
  have first : Carried after d index c ⟨.response r ((s.clients index).decoded r).length, decodeResponse header data⟩ result
      (s.attempts d) := by
    cases Step.of_run run with
    | client _ delivered =>
      refine ⟨?_, ?_, rfl⟩
      · simp only [State.withClient, Function.update_self]
        exact Connection.settled_of_decoded (client_apart index reach) answerable untold atPc
          (by rw [responseRequestId_eq, ← own, decodeResponse_requestId decoded]) delivered
      · change (s.sends d).Carries index c result
        rw [sending]
        exact ⟨rfl, rfl⟩
  have kept := first.onward decoded accepted (.next reach.always trivial run) onward
  refine kept.imp_left fun carried => ⟨carried.attempts, fun outcome returned => ?_⟩
  have place := carried.place
  rw [returned] at place
  exact place

end Runs

section Example

/-- The answer of the second node is in the hands of its reader. -/
def State.hears (s : State 2) : Bool :=
  match s.sends 0, (s.clients secondNode).calls 0, (s.clients secondNode).channel 0, (s.clients secondNode).readers 0 with
  | .sending _ index c, .waiting encoded, [], .inPending (.deliver header data) =>
    match decodeResponse header data with
    | .ok result =>
      index == secondNode && c == 0 && result.requestId == encoded.requestId && !lockStateError result &&
        (run (step pair) s (failedOverPing.drop 35)).any fun later =>
          (later.sends 0).succeeded && (later.clients secondNode).written 0 == some 0
    | .error _ => false
  | _, _, _, _ => false

def Action.starts : Action n → Bool
  | .send _ (.start _) => true
  | _ => false

theorem freshCommands_of_not_starts {s : State n} {action : Action n} (continues : action.starts = false) :
    FreshCommands s action := by
  rintro d command rfl
  cases continues

theorem failedOverPing_freshCommands :
    RunAllowed (step pair) FreshCommands (State.new 2) (failedOverPing.take 35) := by
  refine .cons (fun _ _ _ _ _ known => nomatch known) (.of_forall (fun action member s => ?_))
  refine freshCommands_of_not_starts ?_
  have continues : ((failedOverPing.take 35).tail.all fun action => !action.starts) = true := by decide
  exact Bool.not_eq_true' _ ▸ List.all_eq_true.mp continues action member

set_option maxRecDepth 2000 in
theorem answer_not_resent_failedOverPing : ∃ (s later : State 2) (header : Block 64) (data : Option (List UInt8))
    (result : CommandResult), (s.clients secondNode).readers 0 = .inPending (.deliver header data) ∧
      decodeResponse header data = .ok result ∧ later.sends 0 = .returned (.ok result) ∧
      later.attempts 0 = s.attempts 0 := by
  obtain ⟨s, reach, hears⟩ := Reach.exists_of_run failedOverPing_freshCommands
    (show (run (step pair) (State.new 2) (failedOverPing.take 35)).any State.hears = true by decide)
  unfold State.hears at hears
  split at hears
  · rename_i round index c encoded header data atSend atCall atChannel atReader
    split at hears
    · rename_i result decoded
      simp only [Bool.and_eq_true, Bool.not_eq_true', beq_iff_eq] at hears
      obtain ⟨⟨⟨⟨rfl, rfl⟩, own⟩, accepted⟩, executed⟩ := hears
      obtain ⟨later, final, ends⟩ := (Option.any_eq_true ..).mp executed
      obtain ⟨succeeded, written⟩ := (Bool.and_eq_true ..).mp ends
      obtain ⟨after, delivered, received⟩ := Option.bind_eq_some_iff.mp final
      obtain ⟨told, returned⟩ := SendPc.succeeded_iff.mp succeeded
      rcases answer_not_resent reach atSend (by rw [atCall]; rfl) atChannel atReader decoded own
        (by rw [accepted]; nofun) delivered (.of_run (runAllowed_always ..) received) with ⟨attempts, same⟩ | ⟨_, unwritten⟩
      · exact ⟨s, later, header, data, result, atReader, decoded, by rw [returned, same _ returned], attempts⟩
      · rw [unwritten] at written
        cases written
    · cases hears
  · cases hears

end Example

end Ruslock.Replset
