import Ruslock.ConnectionEnd
import Ruslock.ConnectionHealth

namespace Ruslock.Connection
open Transition Wire
open Replset (retryableTransportError)

/-- The errors of a connect attempt and of its handshake: only the async client
takes a connect timeout for that of a command. -/
inductive OpenError (config : Config) : SlockError → Prop
  | io {err} : OpenError config (.io err)
  | protocol {message} : OpenError config (.protocol message)
  | server {result} : OpenError config (.server result)
  | timedOut : config.backend = .aio → OpenError config .commandTimeout

/-- What a call can be told: a response of its node, which may not decode, or
that the connection is gone. -/
inductive Message.Fair : Message → Prop
  | response {stream frame result} : Fair ⟨.response stream frame, .ok result⟩
  | undecoded {origin message} : Fair ⟨origin, .error (.protocol message)⟩
  | gone {origin err} : retryableTransportError err = true → Fair ⟨origin, .error err⟩

/-- How a call can end. -/
inductive State.Ends (s : State) (c : CallId) : Outcome CommandResult → Prop
  | answered {stream frame result} : (s.written c).isSome = true →
      ⟨.response stream frame, .ok result⟩ ∈ s.channel c → s.Ends c (.ok result)
  | undecoded {message} : (s.written c).isSome = true → s.Ends c (.error (.protocol message))
  | timedOut : (s.written c).isSome = true → s.Ends c (.error .commandTimeout)
  | gone {err} : retryableTransportError err = true → s.Ends c (.error err)
  | unencoded {command err} : s.command c = some command → command.encode = .error err → s.Ends c (.error err)

/-- A call whose wait has run out. -/
def CallPc.expired : CallPc → Bool
  | .lockPending _ (.remove .timeout) => true
  | .inPending _ (.remove .timeout) => true
  | .returned (.error .commandTimeout) => true
  | _ => false

/-- Every call has ended in one of these ways, and every failed `open` has its error. -/
structure Outcomes (config : Config) (s : State) : Prop where
  fair : ∀ c, ∀ message ∈ s.channel c, message.Fair
  expired : ∀ c, (s.calls c).expired = true → (s.written c).isSome = true
  ends : ∀ c outcome, s.calls c = .returned outcome → s.Ends c outcome
  opens : ∀ o err, s.opens o = .returned (.error err) → OpenError config err

section Opens

variable {config : Config}

theorem connectError_openError (failure : ConnectFailure) : OpenError config (connectError config failure) := by
  unfold connectError
  cases failure with
  | io => exact .io
  | unresolved =>
    dsimp only
    split
    · exact .protocol
    · exact .io
  | timedOut =>
    dsimp only
    split
    · exact .io
    · exact .timedOut ‹_›

theorem initOutcome_openError {header : Block 64} {err : SlockError} (fails : initOutcome header = .error err) :
    OpenError config err := by
  rcases Outcome.bind_eq_error.mp fails with undecoded | ⟨response, _, checked⟩
  · obtain ⟨message, rfl⟩ := decodeResponse_error undecoded
    exact .protocol
  · split at checked
    · cases checked
      exact .server
    · split at checked <;> cases checked
      exact .protocol

theorem OpenStep.openError {s after : State} {o : OpenId} {action : OpenAction} {err : SlockError}
    (taken : OpenStep config s o action after) (returned : after.opens o = .returned (.error err)) :
    OpenError config err := by
  cases taken with
  | connectFails =>
    simp only [Function.update_self] at returned
    cases returned
    exact connectError_openError _
  | fails =>
    simp only [Function.update_self] at returned
    cases returned
    exact .io
  | refused _ _ fails =>
    simp only [Function.update_self] at returned
    cases returned
    exact initOutcome_openError fails
  | findWriter =>
    simp only [Function.update_self] at returned
    split at returned <;> cases returned
  | start | lockWriter | storeClosed | connect | identify | writeInit | accepted | split | lockPublish | publish
  | spawn =>
    simp only [Function.update_self] at returned
    cases returned

end Opens

section Steps

variable {config : Config} {s after : State} {action : Action}

theorem Completion.channel_mono {id : Id16} {owner c : CallId} {message told : Message}
    (completion : Completion s after id owner message) (member : told ∈ s.channel c) : told ∈ after.channel c := by
  rw [completion.channel, Function.update_apply]
  split
  · rename_i same
    exact List.mem_append_left _ (same ▸ member)
  · exact member

/-- What a call has been told is never taken back. -/
theorem Step.channel_mono (taken : Step config s action after) {c : CallId} {message : Message}
    (member : message ∈ s.channel c) : message ∈ after.channel c := by
  cases taken with
  | call taken => exact taken.frame.channel ▸ member
  | opening taken => exact taken.frame.channel ▸ member
  | network taken => exact taken.frame.channel ▸ member
  | closing taken =>
    rcases taken.completes with quiet | ⟨_, _, _, completion⟩
    · exact quiet.channel ▸ member
    · exact completion.channel_mono member
  | reader taken =>
    rcases taken.completes with quiet | ⟨_, _, _, _, completion, _⟩ | ⟨_, _, _, _, completion, _⟩
    · exact quiet.channel ▸ member
    · exact completion.channel_mono member
    · exact completion.channel_mono member

/-- Whoever tells a call something tells it one of these. -/
theorem Step.fair (taken : Step config s action after) {c : CallId} (known : ∀ message ∈ s.channel c, message.Fair) :
    ∀ message ∈ after.channel c, message.Fair := by
  intro message member
  cases taken with
  | call taken => exact known message (taken.frame.channel ▸ member)
  | opening taken => exact known message (taken.frame.channel ▸ member)
  | network taken => exact known message (taken.frame.channel ▸ member)
  | closing taken =>
    rcases taken.completes with quiet | ⟨_, _, _, completion⟩
    · exact known message (quiet.channel ▸ member)
    · rcases completion.received member with before | ⟨_, rfl⟩
      · exact known message before
      · exact .gone rfl
  | reader taken =>
    rcases taken.completes with quiet | ⟨header, data, _, _, completion, _⟩ | ⟨failure, _, _, _, completion, _⟩
    · exact known message (quiet.channel ▸ member)
    · rcases completion.received member with before | ⟨_, rfl⟩
      · exact known message before
      · cases decoded : decodeResponse header data with
        | ok result => exact .response
        | error err =>
          obtain ⟨text, rfl⟩ := decodeResponse_error decoded
          exact .undecoded
    · rcases completion.received member with before | ⟨_, rfl⟩
      · exact known message before
      · cases failure <;> exact .gone rfl

theorem Step.written_mono (taken : Step config s action after) {c : CallId} (written : (s.written c).isSome = true) :
    (after.written c).isSome = true := by
  cases taken with
  | call taken => exact taken.written_mono c written
  | opening taken => exact taken.frame.written ▸ written
  | closing taken => exact taken.frame.written ▸ written
  | reader taken => exact taken.frame.written ▸ written
  | network taken => exact taken.frame.written ▸ written

/-- What has ended a call stays true. -/
theorem State.Ends.kept {c : CallId} {outcome : Outcome CommandResult} (ends : s.Ends c outcome)
    (commands : Commands s) (taken : Step config s action after) : after.Ends c outcome := by
  cases ends with
  | answered written member => exact .answered (taken.written_mono written) (taken.channel_mono member)
  | undecoded written => exact .undecoded (taken.written_mono written)
  | timedOut written => exact .timedOut (taken.written_mono written)
  | gone retry => exact .gone retry
  | unencoded atCommand fails => exact .unencoded (commands.onward taken atCommand) fails

/-- An `open` that has returned stays as it is. -/
theorem Step.open_kept (taken : Step config s action after) {o : OpenId} {result : Outcome Unit}
    (returned : s.opens o = .returned result) : after.opens o = .returned result := by
  cases taken with
  | @opening moved _ _ taken =>
    have apart : o ≠ moved := by
      rintro rfl
      rcases taken.moving with ⟨_, idle⟩ | moving
      · cases idle.symm.trans returned
      · rw [returned] at moving
        cases moving
    exact (taken.frame.others o apart).trans returned
  | call taken => exact taken.frame.opens ▸ returned
  | closing taken => exact taken.frame.opens ▸ returned
  | reader taken => exact taken.frame.opens ▸ returned
  | network taken => exact taken.frame.opens ▸ returned

/-- The step with which a call returns. -/
theorem CallStep.ends {c : CallId} {action : CallAction} (taken : CallStep config s c action after)
    (commands : Commands s) (written : Written s) (fair : ∀ message ∈ s.channel c, message.Fair)
    (expired : (s.calls c).expired = true → (s.written c).isSome = true) {outcome : Outcome CommandResult}
    (returned : after.calls c = .returned outcome) : after.Ends c outcome := by
  have step : Step config s (.call c action) after := .call taken
  cases taken with
  | @enter command atPc =>
    simp only [Function.update_self, enterPc] at returned
    split at returned
    · cases returned
      exact .gone rfl
    · split at returned
      · rename_i fails
        cases returned
        exact .unencoded (commands.onward step (commands.started c command atPc)) fails
      · cases returned
  | @remove encoded exit atPc =>
    simp only [Function.update_self] at returned
    cases exit with
    | notConnected => cases returned
    | ioError =>
      cases returned
      exact .gone rfl
    | timeout =>
      cases returned
      exact .timedOut (step.written_mono (expired (by rw [atPc]; rfl)))
  | unlockWriter =>
    simp only [Function.update_self] at returned
    cases returned
    exact .gone rfl
  | @receive encoded message later atPc first =>
    simp only [Function.update_self] at returned
    cases returned
    have wrote := step.written_mono (written.waiting c encoded atPc)
    have member : message ∈ s.channel c := by rw [first]; exact List.mem_cons_self
    have told := step.channel_mono member
    cases fair message member with
    | response => exact .answered wrote told
    | undecoded => exact .undecoded wrote
    | gone retry => exact .gone retry
  | disconnected =>
    simp only [Function.update_self] at returned
    cases returned
    exact .gone rfl
  | start | lockPending | insert | lockWriter | noWriter | foundWriter | write | writeFails | writeDone | timeout | drop =>
    simp only [Function.update_self] at returned
    cases returned

theorem enterPc_unexpired (closed : Bool) (command : Command) : (enterPc closed command).expired = false := by
  unfold enterPc
  split
  · rfl
  · split
    · rename_i fails
      obtain ⟨message, rfl⟩ := Command.encode_error fails
      rfl
    · rfl

/-- A wait runs out while the call waits and has not been told anything. -/
theorem CallStep.expired {c : CallId} {action : CallAction} (taken : CallStep config s c action after)
    (fair : ∀ message ∈ s.channel c, message.Fair) (expired : (after.calls c).expired = true) :
    (s.calls c).expired = true ∨
      action = .timeout ∧ (∃ encoded, s.calls c = .waiting encoded) ∧ s.channel c = [] := by
  cases taken with
  | timeout atPc empty => exact .inr ⟨rfl, ⟨_, atPc⟩, empty⟩
  | @lockPending encoded use atPc =>
    simp only [Function.update_self] at expired
    rw [atPc]
    cases use with
    | insert => cases expired
    | remove exit => cases exit <;> first | exact .inl rfl | cases expired
  | enter =>
    simp only [Function.update_self, enterPc_unexpired] at expired
    cases expired
  | @remove _ exit atPc =>
    simp only [Function.update_self] at expired
    rw [atPc]
    cases exit <;> first | exact .inl rfl | cases expired
  | @receive _ message _ _ first =>
    simp only [Function.update_self] at expired
    have member : message ∈ s.channel c := by rw [first]; exact List.mem_cons_self
    cases fair message member with
    | response | undecoded => cases expired
    | @gone _ err retry =>
      cases err with
      | commandTimeout => exact nomatch retry
      | _ => exact nomatch expired
  | start | insert | lockWriter | noWriter | foundWriter | write | writeFails | writeDone | unlockWriter | disconnected
  | drop =>
    simp only [Function.update_self] at expired
    cases expired

/-- Only its own steps move a call. -/
theorem Step.call_of (taken : Step config s action after) (c : CallId) :
    (∃ action', action = .call c action' ∧ CallStep config s c action' after) ∨ after.calls c = s.calls c := by
  cases taken with
  | @call moved action' _ taken =>
    by_cases same : c = moved
    · subst same
      exact .inl ⟨action', rfl, taken⟩
    · exact .inr (taken.frame.others c same).1
  | opening taken => exact .inr (by rw [taken.frame.calls])
  | closing taken => exact .inr (by rw [taken.frame.calls])
  | reader taken => exact .inr (by rw [taken.frame.calls])
  | network taken => exact .inr (by rw [taken.frame.calls])

theorem Outcomes.step (outcomes : Outcomes config s) (commands : Commands s) (written : Written s)
    (taken : Step config s action after) : Outcomes config after where
  fair c := taken.fair (outcomes.fair c)
  expired c expired := by
    rcases taken.call_of c with ⟨_, rfl, step⟩ | same
    · rcases step.expired (outcomes.fair c) expired with before | ⟨_, ⟨encoded, waiting⟩, _⟩
      · exact taken.written_mono (outcomes.expired c before)
      · exact taken.written_mono (written.waiting c encoded waiting)
    · exact taken.written_mono (outcomes.expired c (same ▸ expired))
  ends c outcome returned := by
    rcases taken.call_of c with ⟨_, rfl, step⟩ | same
    · exact step.ends commands written (outcomes.fair c) (outcomes.expired c) returned
    · exact (outcomes.ends c outcome (same ▸ returned)).kept commands taken
  opens o err returned := by
    cases taken with
    | @opening moved _ _ taken =>
      by_cases same : o = moved
      · subst same
        exact taken.openError returned
      · exact outcomes.opens o err ((taken.frame.others o same) ▸ returned)
    | call taken => exact outcomes.opens o err (taken.frame.opens ▸ returned)
    | closing taken => exact outcomes.opens o err (taken.frame.opens ▸ returned)
    | reader taken => exact outcomes.opens o err (taken.frame.opens ▸ returned)
    | network taken => exact outcomes.opens o err (taken.frame.opens ▸ returned)

end Steps

theorem Outcomes.of_reach {config : Config} {allowed : State → Action → Prop} {s : State}
    (reach : Reached config allowed s) : Outcomes config s := by
  refine reach.invariant ⟨fun _ => List.forall_mem_nil _, nofun, nofun, nofun⟩ ?_
  intro before action after previous outcomes _ run
  exact outcomes.step (.of_reach previous) (.of_reach previous) (.of_run run)

end Ruslock.Connection
