import Ruslock.IdCounter
import Ruslock.PrimitiveCalls
import Ruslock.Lib.Transition

namespace Ruslock
open Wire

/-- `Client::ping`. -/
def Client.ping : Program (Outcome Bool) := do
  let requestId ← Id16.new
  let answer ← Dialogue.question (Effect.send (.ping ⟨requestId⟩))
  pure (answer.map fun result => result.resultCode == commandResultSucced)

namespace SharedClient
open Transition

abbrev ThreadId := Nat

/-- A call of `Id16::new`. -/
abbrev Ticket := IdCounter.CallId

/-- A call of `send_command`. -/
abbrev CallId := Nat

/-- What a client is to the threads that share it: its calls send a command,
and its handshakes take ids as the commands do. -/
structure Service where
  State : Type
  Action : Type
  Opening : Type
  [decidableEq : DecidableEq Opening]
  initial : State
  step : State → Action → Option State
  start : CallId → Command → Action
  identify : Opening → Id16 → Id16 → Action
  /-- The call that an action starts. -/
  starts : Action → Option (CallId × Command)
  /-- The handshake that an action gives its request id to. -/
  identifies : Action → Option (Opening × Id16)
  /-- The client of a handshake has its client id. -/
  known : State → Opening → Bool
  command : State → CallId → Option Command
  returned : State → CallId → Option (Outcome CommandResult)
  dropped : State → CallId → Bool
  /-- A handshake was written under the id, or is about to be. -/
  Greets : State → Id16 → Prop

instance (service : Service) : DecidableEq service.Opening := service.decidableEq

/-- Whatever a client does, it does not confuse its calls. -/
structure Service.Lawful (service : Service) : Prop where
  starts_start : ∀ c command, service.starts (service.start c command) = some (c, command)
  identifies_start : ∀ c command, service.identifies (service.start c command) = none
  starts_identify : ∀ o requestId fresh, service.starts (service.identify o requestId fresh) = none
  identifies_identify : ∀ o requestId fresh,
    service.identifies (service.identify o requestId fresh) = some (o, requestId)
  uncommanded : ∀ c, service.command service.initial c = none
  ungreeted : ∀ id, ¬ service.Greets service.initial id
  started : ∀ {s after c command}, Reach service.step Always service.initial s →
    service.step s (service.start c command) = some after →
    service.command s c = none ∧ service.command after c = some command
  onward : ∀ {s after action}, Reach service.step Always service.initial s → service.step s action = some after →
    ∀ c command, service.command s c = some command → service.command after c = some command
  commanded : ∀ {s after action}, service.step s action = some after →
    ∀ c command, service.command after c = some command →
      service.command s c = some command ∨ service.starts action = some (c, command)
  greets : ∀ {s after action}, service.step s action = some after →
    ∀ id, service.Greets after id → service.Greets s id ∨ ∃ o, service.identifies action = some (o, id)
  returned_kept : ∀ {s after action}, service.step s action = some after →
    ∀ c outcome, service.returned s c = some outcome → service.returned after c = some outcome
  labelled : ∀ {s}, Reach service.step Always service.initial s → ∀ c command result,
    service.command s c = some command → service.returned s c = some (.ok result) →
    result.requestId = command.requestId

/-- Who has called `Id16::new`: a thread, which may have sent a command under
the id, or a handshake. -/
inductive Owner (service : Service)
  | thread (i : ThreadId)
  | call (c : CallId)
  | opening (o : service.Opening)
  deriving DecidableEq

/-- Where a thread is in its program. -/
inductive Thread (α : Type)
  | idle
  | running (program : Program α) (drawn : Option Ticket)
  | drawing (ticket : Ticket) (next : Id16 → Program α)
  | sending (c : CallId) (command : Command) (next : Outcome CommandResult → Program α)

/-- A process whose threads share a client: the counter of `Id16::new` with all
the ids it has made, the client, and the threads with what they have begun and
said. -/
structure State (service : Service) (α : Type) where
  counter : IdCounter.State × IdCounter.Generated
  client : service.State
  threads : ThreadId → Thread α
  owner : Ticket → Option (Owner service)
  origin : ThreadId → Program α
  said : ThreadId → Dialogue.Transcript Effect.Answer

inductive Action (service : Service) (α : Type)
  | begin (i : ThreadId) (program : Program α)
  | draw (i : ThreadId) (ticket : Ticket)
  | drawn (i : ThreadId)
  | flags (i : ThreadId) (value : UInt16)
  | send (i : ThreadId) (c : CallId)
  | sent (i : ThreadId)
  | count (action : IdCounter.Action)
  | greet (o : service.Opening) (ticket : Ticket)
  | identify (o : service.Opening) (ticket fresh : Ticket)
  | client (action : service.Action)

/-- The steps of a client that need nothing of the threads or the counter. -/
def Service.alone (service : Service) (action : service.Action) : Bool :=
  (service.starts action).isNone && (service.identifies action).isNone

section Step

variable {service : Service} {α : Type}

/-- A thread has got the answer to its question. -/
def State.answer (s : State service α) (i : ThreadId) (entry : Σ effect : Effect, effect.Answer) (program : Program α)
    (drawn : Option Ticket) : State service α :=
  { s with
    threads := Function.update s.threads i (.running program drawn)
    said := Function.update s.said i (s.said i ++ [entry]) }

/-- The id of a command that is sent belongs to its call from then on. -/
def State.handOver (s : State service α) (c : CallId) : Option Ticket → Ticket → Option (Owner service)
  | none => s.owner
  | some ticket => Function.update s.owner ticket (some (.call c))

/-- A thread that can begin a program: it has ended its last one, or that was
dropped while it was waiting. -/
def State.free (s : State service α) (i : ThreadId) : Bool :=
  match s.threads i with
  | .idle => true
  | .running (.done _) _ => true
  | .sending c _ _ => service.dropped s.client c
  | _ => false

def step (s : State service α) : Action service α → Option (State service α)
  | .begin i program =>
    if s.free i then some
      { s with
        threads := Function.update s.threads i (.running program none)
        origin := Function.update s.origin i program
        said := Function.update s.said i [] }
    else none
  | .draw i ticket =>
    match s.threads i, s.owner ticket, s.counter.1.calls ticket with
    | .running (.ask .newId next) _, none, .idle => some
      { s with
        threads := Function.update s.threads i (.drawing ticket next)
        owner := Function.update s.owner ticket (some (.thread i)) }
    | _, _, _ => none
  | .drawn i =>
    match s.threads i with
    | .drawing ticket next =>
      match s.counter.1.calls ticket with
      | .returned id => some (s.answer i ⟨.newId, id⟩ (next id) (some ticket))
      | _ => none
    | _ => none
  | .flags i value =>
    match s.threads i with
    | .running (.ask .defaultTimeoutFlags next) _ => some (s.answer i ⟨.defaultTimeoutFlags, value⟩ (next value) none)
    | .running (.ask .defaultExpiredFlags next) _ => some (s.answer i ⟨.defaultExpiredFlags, value⟩ (next value) none)
    | _ => none
  | .send i c =>
    match s.threads i with
    | .running (.ask (.send command) next) drawn =>
      (service.step s.client (service.start c command)).map fun client =>
        { s with
          client := client
          threads := Function.update s.threads i (.sending c command next)
          owner := s.handOver c drawn }
    | _ => none
  | .sent i =>
    match s.threads i with
    | .sending c command next =>
      match service.returned s.client c with
      | some outcome => some (s.answer i ⟨.send command, outcome⟩ (next outcome) none)
      | none => none
    | _ => none
  | .count action =>
    (watch IdCounter.step IdCounter.record s.counter action).map fun counter => { s with counter := counter }
  | .greet o ticket =>
    match s.owner ticket, s.counter.1.calls ticket with
    | none, .idle => some { s with owner := Function.update s.owner ticket (some (.opening o)) }
    | _, _ => none
  | .identify o ticket fresh =>
    match s.counter.1.calls ticket, s.counter.1.calls fresh with
    | .returned requestId, .returned freshId =>
      -- without a client id, the `open` has drawn two ids
      if s.owner ticket = some (.opening o) ∧ s.owner fresh = some (.opening o) ∧
          (service.known s.client o = true ∨ fresh ≠ ticket) then
        (service.step s.client (service.identify o requestId freshId)).map fun client => { s with client := client }
      else none
    | _, _ => none
  | .client action =>
    if service.alone action then (service.step s.client action).map fun client => { s with client := client } else none

/-- A process in which nobody has done anything. -/
def State.new (idCounter : UInt32) (origin : ThreadId → Program α) : State service α where
  counter := (⟨idCounter, fun _ => .idle⟩, [])
  client := service.initial
  threads _ := .idle
  owner _ := none
  origin := origin
  said _ := []

end Step

/-- What one step can be. -/
inductive Step {service : Service} {α : Type} (s : State service α) : Action service α → State service α → Prop
  | begin {i program} : s.free i = true →
      Step s (.begin i program)
        { s with
          threads := Function.update s.threads i (.running program none)
          origin := Function.update s.origin i program
          said := Function.update s.said i [] }
  | draw {i ticket next drawn} : s.threads i = .running (.ask .newId next) drawn → s.owner ticket = none →
      s.counter.1.calls ticket = .idle →
      Step s (.draw i ticket)
        { s with
          threads := Function.update s.threads i (.drawing ticket next)
          owner := Function.update s.owner ticket (some (.thread i)) }
  | drawn {i ticket next id} : s.threads i = .drawing ticket next → s.counter.1.calls ticket = .returned id →
      Step s (.drawn i) (s.answer i ⟨.newId, id⟩ (next id) (some ticket))
  | timeoutFlags {i value next drawn} : s.threads i = .running (.ask .defaultTimeoutFlags next) drawn →
      Step s (.flags i value) (s.answer i ⟨.defaultTimeoutFlags, value⟩ (next value) none)
  | expiredFlags {i value next drawn} : s.threads i = .running (.ask .defaultExpiredFlags next) drawn →
      Step s (.flags i value) (s.answer i ⟨.defaultExpiredFlags, value⟩ (next value) none)
  | send {i c command next drawn client} : s.threads i = .running (.ask (.send command) next) drawn →
      service.step s.client (service.start c command) = some client →
      Step s (.send i c)
        { s with
          client := client
          threads := Function.update s.threads i (.sending c command next)
          owner := s.handOver c drawn }
  | sent {i c command next outcome} : s.threads i = .sending c command next →
      service.returned s.client c = some outcome →
      Step s (.sent i) (s.answer i ⟨.send command, outcome⟩ (next outcome) none)
  | count {action counter} : watch IdCounter.step IdCounter.record s.counter action = some counter →
      Step s (.count action) { s with counter := counter }
  | greet {o ticket} : s.owner ticket = none → s.counter.1.calls ticket = .idle →
      Step s (.greet o ticket) { s with owner := Function.update s.owner ticket (some (.opening o)) }
  | identify {o ticket fresh requestId freshId client} : s.counter.1.calls ticket = .returned requestId →
      s.owner ticket = some (.opening o) →
      service.step s.client (service.identify o requestId freshId) = some client →
      Step s (.identify o ticket fresh) { s with client := client }
  | client {action client} : service.alone action = true → service.step s.client action = some client →
      Step s (.client action) { s with client := client }

theorem Step.of_run {service : Service} {α : Type} {s after : State service α} {action : Action service α}
    (run : step s action = some after) : Step s action after := by
  cases action with
  | begin =>
    obtain ⟨free, same⟩ := Option.ite_none_right_eq_some.mp run
    cases same
    exact .begin free
  | draw | flags =>
    simp only [step] at run
    split at run <;> cases run <;> constructor <;> assumption
  | greet =>
    simp only [step] at run
    split at run <;> cases run
    exact .greet ‹_› ‹_›
  | drawn | sent =>
    simp only [step] at run
    split at run
    · split at run <;> cases run
      constructor <;> assumption
    · cases run
  | send =>
    simp only [step] at run
    split at run
    · obtain ⟨client, stepped, rfl⟩ := Option.map_eq_some_iff.mp run
      exact .send ‹_› stepped
    · cases run
  | count =>
    obtain ⟨counter, stepped, rfl⟩ := Option.map_eq_some_iff.mp run
    exact .count stepped
  | identify =>
    simp only [step] at run
    split at run
    · obtain ⟨owned, run⟩ := Option.ite_none_right_eq_some.mp run
      obtain ⟨client, stepped, rfl⟩ := Option.map_eq_some_iff.mp run
      exact .identify ‹_› owned.1 stepped
    · cases run
  | client =>
    obtain ⟨isAlone, run⟩ := Option.ite_none_right_eq_some.mp run
    obtain ⟨client, stepped, rfl⟩ := Option.map_eq_some_iff.mp run
    exact .client isAlone stepped

end SharedClient

end Ruslock
