import Ruslock.ConnectionHealth
import Ruslock.OpenLeader
import Ruslock.OwnAnswers
import Ruslock.ResponseStream
import Ruslock.RetryOrder

namespace Ruslock.Replset
open Transition Wire

variable {n : Nat}

section Kept

variable {config : Config n} {s after : State n}

/-- An `open` that has returned stays so. -/
theorem Step.opens_kept {action : Action n} (taken : Step config s action after) {u : OpenId} {outcome : Outcome Unit}
    (returned : s.opens u = .returned outcome) : after.opens u = .returned outcome := by
  cases taken with
  | send taken => cases taken <;> exact returned
  | @opening moved _ _ taken =>
    have apart : u ≠ moved := by
      rintro rfl
      cases taken with
      | start atPc | startOpen _ atPc | opened atPc | unopened atPc | readInitType atPc | choose atPc | setActive atPc =>
        cases atPc.symm.trans returned
    rw [taken.others apart]
    exact returned
  | closing taken => cases taken <;> exact returned
  | client => exact returned
  | tick => exact returned

end Kept

/-- The node of `ReplsetClient::client`, if its index is one. -/
def State.activeNode (s : State n) : Option (Fin n) :=
  if within : s.activeIndex.getD 0 < n then some ⟨s.activeIndex.getD 0, within⟩ else none

theorem Bounded.activeNode {s : State n} (bounded : Bounded s) (none : s.activeNode = none) : n = 0 := by
  unfold State.activeNode at none
  split at none
  · cases none
  · rename_i beyond
    cases active : s.activeIndex with
    | none =>
      rw [active] at beyond
      exact Nat.eq_zero_of_not_pos beyond
    | some index =>
      rw [active] at beyond
      exact absurd (bounded.activeIndex index active) beyond

end Ruslock.Replset

namespace Ruslock.ReplsetPing
open Transition Wire
open Replset (OpenId)

variable {n : Nat}

abbrev PingId := Nat

/-- Where a `ping` is: it asks the active node and, with several nodes, if that
fails, once more behind an `open`, when it knows the `earlier` error. Without
a node it asks a client that it makes for that. -/
inductive PingPc (n : Nat)
  | idle
  | client (earlier : Option SlockError)
  | draw (target : Option (Fin n)) (earlier : Option SlockError)
  | ready (target : Option (Fin n)) (earlier : Option SlockError) (requestId : Id16)
  | sending (index : Fin n) (earlier : Option SlockError) (c : Connection.CallId)
  | alone (earlier : Option SlockError) (client : Connection.State)
  | failed (err : SlockError)
  | opening (err : SlockError) (u : OpenId)
  | returned (outcome : Outcome Bool)

/-- What a `ping` has done. -/
inductive Deed (n : Nat)
  | asked (index : Fin n) (c : Connection.CallId)
  | opened (u : OpenId)

/-- A replset client with its `ping`s and the history of what they have done. -/
structure State (n : Nat) where
  replset : Replset.State n
  pings : PingId → PingPc n
  deeds : PingId → List (Deed n)

inductive PingAction
  | start
  | client
  | draw (requestId : Id16)
  | send (c : Connection.CallId)
  | inner (action : Connection.CallAction)
  | answered
  | startOpen (u : OpenId)
  | opened

inductive Action (n : Nat)
  | ping (p : PingId) (action : PingAction)
  | replset (action : Replset.Action n)

def State.new (n : Nat) : State n where
  replset := Replset.State.new n
  pings _ := .idle
  deeds _ := []

/-- The `match` on what `self.client().ping()` has returned. -/
def answeredPc (earlier : Option SlockError) : Outcome CommandResult → PingPc n
  | .ok result => .returned (.ok (result.resultCode == commandResultSucced))
  | .error err =>
    match earlier with
    | some first => .returned (.error first)
    | none => if 1 < n then .failed err else .returned (.error err)

/-- The `?` on what `self.open()` has returned. -/
def openedPc (err : SlockError) : Outcome Unit → PingPc n
  | .ok () => .client (some err)
  | .error failure => .returned (.error failure)

def State.move (s : State n) (p : PingId) (pc : PingPc n) : State n :=
  { s with pings := Function.update s.pings p pc }

/-- A `ping` goes on behind a deed. -/
def State.act (s : State n) (p : PingId) (pc : PingPc n) (deed : Deed n) (replset : Replset.State n) : State n where
  replset := replset
  pings := Function.update s.pings p pc
  deeds := Function.update s.deeds p (s.deeds p ++ [deed])

/-- The client of `Client::with_options("", ..)`. -/
def fallback (config : Replset.Config n) : Connection.Config := ⟨config.backend, ""⟩

def stepPing (config : Replset.Config n) (s : State n) (p : PingId) : PingAction → Option (State n)
  | .start =>
    match s.pings p with
    | .idle => some (s.move p (.client none))
    | _ => none
  | .client =>
    match s.pings p with
    | .client earlier => some (s.move p (.draw s.replset.activeNode earlier))
    | _ => none
  | .draw requestId =>
    match s.pings p with
    | .draw target earlier => some (s.move p (.ready target earlier requestId))
    | _ => none
  | .send c =>
    match s.pings p with
    | .ready (some index) earlier requestId =>
      (s.replset.onClient config index (.call c (.start (.ping ⟨requestId⟩)))).map
        (s.act p (.sending index earlier c) (.asked index c))
    | .ready none earlier requestId =>
      (Connection.step (fallback config) Connection.State.new (.call 0 (.start (.ping ⟨requestId⟩)))).map
        fun client => s.move p (.alone earlier client)
    | _ => none
  | .inner action =>
    match s.pings p with
    | .alone earlier client =>
      if (Connection.Action.call 0 action).internal then
        (Connection.step (fallback config) client (.call 0 action)).map fun client => s.move p (.alone earlier client)
      else none
    | _ => none
  | .answered =>
    match s.pings p with
    | .sending index earlier c =>
      match (s.replset.clients index).calls c with
      | .returned outcome => some (s.move p (answeredPc earlier outcome))
      | _ => none
    | .alone earlier client =>
      match client.calls 0 with
      | .returned outcome => some (s.move p (answeredPc earlier outcome))
      | _ => none
    | _ => none
  | .startOpen u =>
    match s.pings p with
    | .failed err => (Replset.stepOpen config s.replset u .start).map (s.act p (.opening err u) (.opened u))
    | _ => none
  | .opened =>
    match s.pings p with
    | .opening err u =>
      match s.replset.opens u with
      | .returned outcome => some (s.move p (openedPc err outcome))
      | _ => none
    | _ => none

/-- One atomic step of a `ping`, or of the replset client for its other users. -/
def step (config : Replset.Config n) (s : State n) : Action n → Option (State n)
  | .ping p action => stepPing config s p action
  | .replset action => (Replset.step config s.replset action).map fun replset => { s with replset := replset }

/-- What one step of a `ping` can be. -/
inductive PingStep (config : Replset.Config n) (s : State n) (p : PingId) : PingAction → State n → Prop
  | start : s.pings p = .idle → PingStep config s p .start (s.move p (.client none))
  | client {earlier} : s.pings p = .client earlier →
      PingStep config s p .client (s.move p (.draw s.replset.activeNode earlier))
  | draw {target earlier requestId} : s.pings p = .draw target earlier →
      PingStep config s p (.draw requestId) (s.move p (.ready target earlier requestId))
  | send {index earlier requestId c client} : s.pings p = .ready (some index) earlier requestId →
      Connection.step (config.client index) (s.replset.clients index) (.call c (.start (.ping ⟨requestId⟩))) =
        some client →
      PingStep config s p (.send c)
        (s.act p (.sending index earlier c) (.asked index c) (s.replset.withClient index client))
  | sendAlone {earlier requestId c client} : s.pings p = .ready none earlier requestId →
      Connection.step (fallback config) Connection.State.new (.call 0 (.start (.ping ⟨requestId⟩))) = some client →
      PingStep config s p (.send c) (s.move p (.alone earlier client))
  | inner {earlier client action later} : s.pings p = .alone earlier client →
      (Connection.Action.call 0 action).internal = true →
      Connection.step (fallback config) client (.call 0 action) = some later →
      PingStep config s p (.inner action) (s.move p (.alone earlier later))
  | answered {index earlier c outcome} : s.pings p = .sending index earlier c →
      (s.replset.clients index).calls c = .returned outcome →
      PingStep config s p .answered (s.move p (answeredPc earlier outcome))
  | answeredAlone {earlier client outcome} : s.pings p = .alone earlier client → client.calls 0 = .returned outcome →
      PingStep config s p .answered (s.move p (answeredPc earlier outcome))
  | startOpen {err u replset} : s.pings p = .failed err → Replset.OpenStep config s.replset u .start replset →
      PingStep config s p (.startOpen u) (s.act p (.opening err u) (.opened u) replset)
  | opened {err u outcome} : s.pings p = .opening err u → s.replset.opens u = .returned outcome →
      PingStep config s p .opened (s.move p (openedPc err outcome))

abbrev Reached (config : Replset.Config n) (allowed : State n → Action n → Prop) (s : State n) : Prop :=
  Reach (step config) allowed (State.new n) s

theorem PingStep.of_run {config : Replset.Config n} {s after : State n} {p : PingId} {action : PingAction}
    (run : stepPing config s p action = some after) : PingStep config s p action after := by
  cases action
  case send =>
    simp only [stepPing] at run
    split at run
    · obtain ⟨_, stepped, rfl⟩ := Option.map_eq_some_iff.mp run
      obtain ⟨client, inner, rfl⟩ := Option.map_eq_some_iff.mp stepped
      exact .send ‹_› inner
    · obtain ⟨client, inner, rfl⟩ := Option.map_eq_some_iff.mp run
      exact .sendAlone ‹_› inner
    · cases run
  case inner =>
    simp only [stepPing] at run
    split at run
    · obtain ⟨inside, run⟩ := Option.ite_none_right_eq_some.mp run
      obtain ⟨later, stepped, rfl⟩ := Option.map_eq_some_iff.mp run
      exact .inner ‹_› inside stepped
    · cases run
  case answered =>
    simp only [stepPing] at run
    split at run
    · split at run <;> cases run
      exact .answered ‹_› ‹_›
    · split at run <;> cases run
      exact .answeredAlone ‹_› ‹_›
    · cases run
  case startOpen =>
    simp only [stepPing] at run
    split at run
    · obtain ⟨replset, stepped, rfl⟩ := Option.map_eq_some_iff.mp run
      exact .startOpen ‹_› (.of_run stepped)
    · cases run
  case opened =>
    simp only [stepPing] at run
    split at run
    · split at run <;> cases run
      exact .opened ‹_› ‹_›
    · cases run
  all_goals
    simp only [stepPing] at run
    split at run <;> cases run
    constructor
    assumption

section Fallback

/-- A call on a connection that nobody opens: it has failed, or goes on to. -/
def Unconnected : Connection.CallPc → Prop
  | .start command => ∃ requestId, command = .ping ⟨requestId⟩
  | .lockPending _ .insert => True
  | .inPending _ .insert => True
  | .lockWriter _ => True
  | .inWriter _ => True
  | .lockPending _ (.remove .notConnected) => True
  | .inPending _ (.remove .notConnected) => True
  | .unlockWriter => True
  | .returned outcome => outcome = .error .notConnected
  | _ => False

structure Lonely (client : Connection.State) : Prop where
  writer : client.writer = none
  closed : client.closed = false
  call : Unconnected (client.calls 0)

theorem Lonely.start {config : Connection.Config} {requestId : Id16} {client : Connection.State}
    (run : Connection.step config Connection.State.new (.call 0 (.start (.ping ⟨requestId⟩))) = some client) :
    Lonely client := by
  cases run
  exact ⟨rfl, rfl, requestId, rfl⟩

theorem Lonely.step {config : Connection.Config} {client later : Connection.State} {action : Connection.CallAction}
    (lonely : Lonely client) (inside : (Connection.Action.call 0 action).internal = true)
    (run : Connection.step config client (.call 0 action) = some later) : Lonely later := by
  have taken := Connection.CallStep.of_run run
  obtain ⟨writer, closed, call⟩ := lonely
  cases taken with
  | start | drop => cases inside
  | enter atPc =>
    rw [atPc] at call
    obtain ⟨requestId, rfl⟩ := call
    refine ⟨writer, closed, ?_⟩
    simp only [Function.update_self, Connection.enterPc, closed]
    trivial
  | @lockPending encoded use atPc =>
    rw [atPc] at call
    refine ⟨writer, closed, ?_⟩
    simp only [Function.update_self]
    cases use with
    | insert => trivial
    | remove exit =>
      cases exit with
      | notConnected => trivial
      | ioError | timeout => cases call
  | insert | lockWriter | noWriter =>
    refine ⟨writer, closed, ?_⟩
    simp only [Function.update_self]
    trivial
  | @remove encoded exit atPc =>
    rw [atPc] at call
    refine ⟨writer, closed, ?_⟩
    simp only [Function.update_self]
    cases exit with
    | notConnected => trivial
    | ioError | timeout => cases call
  | foundWriter _ found => cases writer.symm.trans found
  | unlockWriter =>
    refine ⟨writer, closed, ?_⟩
    simp only [Function.update_self]
    rfl
  | write atPc | writeFails atPc | writeDone atPc | receive atPc | timeout atPc | disconnected atPc =>
    rw [atPc] at call
    cases call

theorem Lonely.outcome {client : Connection.State} {outcome : Outcome CommandResult} (lonely : Lonely client)
    (returned : client.calls 0 = .returned outcome) : outcome = .error .notConnected := by
  have call := lonely.call
  rw [returned] at call
  exact call

end Fallback

/-- A node has answered a ping that was sent to it, under the id of the ping. -/
def Answered (s : Replset.State n) (index : Fin n) (c : Connection.CallId) (result : CommandResult) : Prop :=
  ∃ requestId, (s.clients index).command c = some (.ping ⟨requestId⟩) ∧
    (s.clients index).calls c = .returned (.ok result) ∧ result.requestId = requestId

/-- The ping of a node has failed. -/
def Failed (s : Replset.State n) (index : Fin n) (c : Connection.CallId) (err : SlockError) : Prop :=
  (s.clients index).calls c = .returned (.error err)

/-- What a `ping` has done before it asks for the first or the second time. -/
inductive Asks (s : Replset.State n) : Option SlockError → List (Deed n) → Prop
  | first : Asks s none []
  | second {index c u first} : 1 < n → Failed s index c first → s.opens u = .returned (.ok ()) →
      Asks s (some first) [.asked index c, .opened u]

/-- What a `ping` can have done, and what it is told then. -/
inductive Verdict (s : Replset.State n) : List (Deed n) → Outcome Bool → Prop
  | noNodes : n = 0 → Verdict s [] (.error .notConnected)
  | answered {index c result} : Answered s index c result →
      Verdict s [.asked index c] (.ok (result.resultCode == commandResultSucced))
  | failed {index c err} : n = 1 → Failed s index c err → Verdict s [.asked index c] (.error err)
  | unopened {index c u first err} : 1 < n → Failed s index c first → s.opens u = .returned (.error err) →
      Verdict s [.asked index c, .opened u] (.error err)
  | answeredAgain {index c u first index' c' result} : 1 < n → Failed s index c first →
      s.opens u = .returned (.ok ()) → Answered s index' c' result →
      Verdict s [.asked index c, .opened u, .asked index' c'] (.ok (result.resultCode == commandResultSucced))
  | failedAgain {index c u first index' c' second} : 1 < n → Failed s index c first →
      s.opens u = .returned (.ok ()) → Failed s index' c' second →
      Verdict s [.asked index c, .opened u, .asked index' c'] (.error first)

/-- A `ping` is where it can be behind what it has done. -/
def PingPc.Fits (s : Replset.State n) (deeds : List (Deed n)) : PingPc n → Prop
  | .idle => deeds = []
  | .client earlier => Asks s earlier deeds
  | .draw target earlier => Asks s earlier deeds ∧ (target = none → n = 0)
  | .ready target earlier _ => Asks s earlier deeds ∧ (target = none → n = 0)
  | .sending index earlier c => ∃ before requestId, Asks s earlier before ∧ deeds = before ++ [.asked index c] ∧
      (s.clients index).command c = some (.ping ⟨requestId⟩)
  | .alone earlier made => Asks s earlier deeds ∧ n = 0 ∧ Lonely made
  | .failed err => ∃ index c, deeds = [.asked index c] ∧ 1 < n ∧ Failed s index c err
  | .opening err u => ∃ index c, deeds = [.asked index c, .opened u] ∧ 1 < n ∧ Failed s index c err
  | .returned outcome => Verdict s deeds outcome

def Deed.isAsk : Deed n → Bool
  | .asked _ _ => true
  | .opened _ => false

/-- Before a `ping` asks again it has asked once at most. -/
theorem Asks.count {s : Replset.State n} {earlier : Option SlockError} {deeds : List (Deed n)}
    (asks : Asks s earlier deeds) : deeds.countP Deed.isAsk ≤ 1 := by
  cases asks with
  | first => exact Nat.zero_le 1
  | second => exact Nat.le_refl 1

theorem PingPc.Fits.count {s : Replset.State n} {deeds : List (Deed n)} {pc : PingPc n} (fits : pc.Fits s deeds) :
    deeds.countP Deed.isAsk ≤ 2 := by
  cases pc with
  | idle =>
    rw [fits]
    exact Nat.zero_le 2
  | client => exact (Asks.count fits).trans (Nat.le_succ 1)
  | draw | ready | alone => exact fits.1.count.trans (Nat.le_succ 1)
  | sending =>
    obtain ⟨before, _, asks, rfl, _⟩ := fits
    rw [List.countP_append]
    exact Nat.add_le_add_right asks.count 1
  | failed | opening =>
    obtain ⟨_, _, rfl, _⟩ := fits
    exact Nat.le_succ 1
  | returned outcome =>
    cases fits with
    | noNodes => exact Nat.zero_le 2
    | answered | failed | unopened => exact Nat.le_succ 1
    | answeredAgain | failedAgain => exact Nat.le_refl 2

/-- What the users of a replset client have been told stays so. -/
structure Onward (s after : Replset.State n) : Prop where
  command : ∀ index c command, (s.clients index).command c = some command →
    (after.clients index).command c = some command
  calls : ∀ index c outcome, (s.clients index).calls c = .returned outcome →
    (after.clients index).calls c = .returned outcome
  opens : ∀ u outcome, s.opens u = .returned outcome → after.opens u = .returned outcome

section Onward

variable {s after : Replset.State n} {deeds : List (Deed n)}

theorem Onward.refl (s : Replset.State n) : Onward s s := ⟨fun _ _ _ => id, fun _ _ _ => id, fun _ _ => id⟩

theorem Answered.mono {index : Fin n} {c : Connection.CallId} {result : CommandResult} (onward : Onward s after)
    (answered : Answered s index c result) : Answered after index c result := by
  obtain ⟨requestId, known, returned, same⟩ := answered
  exact ⟨requestId, onward.command index c _ known, onward.calls index c _ returned, same⟩

theorem Asks.mono {earlier : Option SlockError} (onward : Onward s after) (asks : Asks s earlier deeds) :
    Asks after earlier deeds := by
  cases asks with
  | first => exact .first
  | second several failed opened => exact .second several (onward.calls _ _ _ failed) (onward.opens _ _ opened)

theorem Verdict.mono {outcome : Outcome Bool} (onward : Onward s after) (verdict : Verdict s deeds outcome) :
    Verdict after deeds outcome := by
  have failed : ∀ {index c err}, Failed s index c err → Failed after index c err := onward.calls _ _ _
  cases verdict with
  | noNodes empty => exact .noNodes empty
  | answered again => exact .answered (again.mono onward)
  | failed single first => exact .failed single (failed first)
  | unopened several first opened => exact .unopened several (failed first) (onward.opens _ _ opened)
  | answeredAgain several first opened again =>
    exact .answeredAgain several (failed first) (onward.opens _ _ opened) (again.mono onward)
  | failedAgain several first opened again =>
    exact .failedAgain several (failed first) (onward.opens _ _ opened) (failed again)

theorem PingPc.Fits.mono {pc : PingPc n} (onward : Onward s after) (fits : pc.Fits s deeds) : pc.Fits after deeds := by
  cases pc with
  | idle => exact fits
  | client => exact Asks.mono onward fits
  | draw | ready => exact ⟨fits.1.mono onward, fits.2⟩
  | sending =>
    obtain ⟨before, requestId, asks, same, known⟩ := fits
    exact ⟨before, requestId, asks.mono onward, same, onward.command _ _ _ known⟩
  | alone => exact ⟨fits.1.mono onward, fits.2⟩
  | failed | opening =>
    obtain ⟨index, c, same, several, failed⟩ := fits
    exact ⟨index, c, same, several, onward.calls _ _ _ failed⟩
  | returned => exact Verdict.mono onward fits

end Onward

section Steps

variable {config : Replset.Config n} {s after : State n}

/-- What holds in every run of a replset client with `ping`s. -/
structure Tracked (config : Replset.Config n) (s : State n) : Prop where
  nodes : ∀ index, Connection.Reached (config.client index) Always (s.replset.clients index)
  bounded : Replset.Bounded s.replset
  pings : ∀ p, (s.pings p).Fits s.replset (s.deeds p)

theorem Tracked.new : Tracked config (State.new n) where
  nodes _ := .start
  bounded := ⟨nofun, fun _ => trivial⟩
  pings _ := rfl

/-- A step that moves the clients of the nodes by one step each, or not at all. -/
theorem Onward.of_moves {replset later : Replset.State n}
    (nodes : ∀ index, Connection.Reached (config.client index) Always (replset.clients index))
    (moves : ∀ index, later.clients index = replset.clients index ∨
      ∃ action, Connection.Step (config.client index) (replset.clients index) action (later.clients index))
    (opens : ∀ u outcome, replset.opens u = .returned outcome → later.opens u = .returned outcome) :
    Onward replset later := by
  refine ⟨?_, ?_, opens⟩
  · intro index c command known
    rcases moves index with same | ⟨_, step⟩
    · rw [same]
      exact known
    · exact (Connection.Commands.of_reach (nodes index)).onward step known
  · intro index c outcome returned
    rcases moves index with same | ⟨_, step⟩
    · rw [same]
      exact returned
    · rw [(step.finished_kept (by rw [returned]; rfl)).1, returned]

/-- A step of the replset client for any of its users. -/
theorem Onward.of_step {replset later : Replset.State n} {action : Replset.Action n}
    (nodes : ∀ index, Connection.Reached (config.client index) Always (replset.clients index))
    (taken : Replset.Step config replset action later) : Onward replset later := by
  refine .of_moves nodes (fun index => ?_) fun _ _ => taken.opens_kept
  exact (taken.client_of index).imp_right fun ⟨inner, _, step⟩ => ⟨inner, step⟩

/-- A ping that is sent to a node. -/
theorem Onward.of_send {replset : Replset.State n} {index : Fin n} {client : Connection.State} {action : Connection.Action}
    (nodes : ∀ index, Connection.Reached (config.client index) Always (replset.clients index))
    (taken : Connection.Step (config.client index) (replset.clients index) action client) :
    Onward replset (replset.withClient index client) := by
  refine .of_moves nodes (fun other => ?_) fun _ _ => id
  by_cases same : other = index
  · subst same
    refine .inr ⟨action, ?_⟩
    simp only [Replset.State.withClient, Function.update_self]
    exact taken
  · exact .inl (Function.update_of_ne same _ _)

theorem nodes_step {replset later : Replset.State n} {action : Replset.Action n}
    (nodes : ∀ index, Connection.Reached (config.client index) Always (replset.clients index))
    (taken : Replset.Step config replset action later) (index : Fin n) :
    Connection.Reached (config.client index) Always (later.clients index) := by
  rcases taken.clients with ⟨_, same⟩ | @⟨moved, inner, client, _, run, new⟩
  · rw [same]
    exact nodes index
  · rw [new, Function.update_apply]
    split
    · rename_i same
      subst same
      exact (nodes _).next trivial run
    · exact nodes index

/-- The other `ping`s stay where they are. -/
theorem Tracked.ping (tracked : Tracked config s) {p : PingId} (onward : Onward s.replset after.replset)
    (nodes : ∀ index, Connection.Reached (config.client index) Always (after.replset.clients index))
    (bounded : Replset.Bounded after.replset)
    (others : ∀ other ≠ p, after.pings other = s.pings other ∧ after.deeds other = s.deeds other)
    (fits : (after.pings p).Fits after.replset (after.deeds p)) : Tracked config after := by
  refine ⟨nodes, bounded, fun other => ?_⟩
  by_cases same : other = p
  · subst same
    exact fits
  · rw [(others other same).1, (others other same).2]
    exact (tracked.pings other).mono onward

/-- A `ping` that moves on and touches nothing else. -/
theorem Tracked.move (tracked : Tracked config s) {p : PingId} {pc : PingPc n}
    (fits : pc.Fits s.replset (s.deeds p)) : Tracked config (s.move p pc) := by
  refine tracked.ping (p := p) (.refl _) tracked.nodes tracked.bounded (fun other apart => ?_) ?_
  · exact ⟨Function.update_of_ne apart _ _, rfl⟩
  · simp only [State.move, Function.update_self]
    exact fits

/-- A `ping` that does something. -/
theorem Tracked.act (tracked : Tracked config s) {p : PingId} {pc : PingPc n} {deed : Deed n} {replset : Replset.State n}
    (onward : Onward s.replset replset)
    (nodes : ∀ index, Connection.Reached (config.client index) Always (replset.clients index))
    (bounded : Replset.Bounded replset) (fits : pc.Fits replset (s.deeds p ++ [deed])) :
    Tracked config (s.act p pc deed replset) := by
  refine tracked.ping (p := p) onward nodes bounded (fun other apart => ?_) ?_
  · exact ⟨Function.update_of_ne apart _ _, Function.update_of_ne apart _ _⟩
  · simp only [State.act, Function.update_self]
    exact fits

/-- Behind the answer of a node. -/
theorem answeredPc_fits {replset : Replset.State n} {index : Fin n} {c : Connection.CallId} {earlier : Option SlockError}
    {before : List (Deed n)} {requestId : Id16} {outcome : Outcome CommandResult}
    (labelled : Connection.Labelled (replset.clients index)) (asks : Asks replset earlier before)
    (known : (replset.clients index).command c = some (.ping ⟨requestId⟩))
    (returned : (replset.clients index).calls c = .returned outcome) :
    (answeredPc earlier outcome).Fits replset (before ++ [.asked index c]) := by
  cases outcome with
  | ok result =>
    obtain ⟨command, known', same⟩ := labelled.returned c result returned
    cases known.symm.trans known'
    have answered : Answered replset index c result := ⟨requestId, known, returned, same⟩
    cases asks with
    | first => exact Verdict.answered answered
    | second several failed opened => exact Verdict.answeredAgain several failed opened answered
  | error err =>
    cases asks with
    | second several failed opened => exact Verdict.failedAgain several failed opened returned
    | first =>
      simp only [answeredPc]
      split
      · exact ⟨index, c, rfl, ‹_›, returned⟩
      · rename_i single
        have one : n = 1 := Nat.le_antisymm (Nat.not_lt.mp single) (Nat.zero_lt_of_lt index.isLt)
        exact Verdict.failed one returned

theorem Tracked.pingStep {p : PingId} {action : PingAction} (tracked : Tracked config s)
    (taken : PingStep config s p action after) : Tracked config after := by
  have fits := tracked.pings p
  cases taken with
  | start atPc =>
    rw [atPc] at fits
    refine tracked.move ?_
    rw [fits]
    exact .first
  | client atPc =>
    rw [atPc] at fits
    exact tracked.move ⟨fits, tracked.bounded.activeNode⟩
  | draw atPc =>
    rw [atPc] at fits
    exact tracked.move fits
  | @send index earlier requestId c client atPc run =>
    rw [atPc] at fits
    have step := Connection.Step.of_run run
    have onward := Onward.of_send tracked.nodes step
    refine tracked.act onward (fun other => ?_) ⟨tracked.bounded.activeIndex, tracked.bounded.opens⟩ ?_
    · simp only [Replset.State.withClient, Function.update_apply]
      split
      · rename_i same
        subst same
        exact (tracked.nodes _).next trivial run
      · exact tracked.nodes other
    · refine ⟨s.deeds p, requestId, fits.1.mono onward, rfl, ?_⟩
      simp only [Replset.State.withClient, Function.update_self]
      cases step with
      | call taken => cases taken with | start => exact Function.update_self ..
      | network taken => cases taken
  | sendAlone atPc run =>
    rw [atPc] at fits
    exact tracked.move ⟨fits.1, fits.2 rfl, .start run⟩
  | inner atPc inside run =>
    rw [atPc] at fits
    exact tracked.move ⟨fits.1, fits.2.1, fits.2.2.step inside run⟩
  | @answered index earlier c outcome atPc returned =>
    rw [atPc] at fits
    obtain ⟨before, requestId, asks, same, known⟩ := fits
    refine tracked.move ?_
    rw [same]
    exact answeredPc_fits (.of_reach (tracked.nodes index)) asks known returned
  | answeredAlone atPc returned =>
    rw [atPc] at fits
    obtain ⟨asks, rfl, lonely⟩ := fits
    obtain rfl := lonely.outcome returned
    refine tracked.move ?_
    generalize s.deeds p = deeds at asks
    cases asks with
    | first => exact Verdict.noNodes rfl
    | second several => cases several
  | startOpen atPc opens =>
    rw [atPc] at fits
    obtain ⟨index, c, same, several, failed⟩ := fits
    have step : Replset.Step config s.replset (.opening _ .start) _ := .opening opens
    have onward := Onward.of_step tracked.nodes step
    refine tracked.act onward (nodes_step tracked.nodes step) (tracked.bounded.step step) ?_
    rw [same]
    exact ⟨index, c, rfl, several, onward.calls _ _ _ failed⟩
  | @opened err u outcome atPc returned =>
    rw [atPc] at fits
    obtain ⟨index, c, same, several, failed⟩ := fits
    refine tracked.move ?_
    rw [same]
    cases outcome with
    | ok => exact Asks.second several failed returned
    | error failure => exact Verdict.unopened several failed returned

theorem Tracked.step {action : Action n} (tracked : Tracked config s) (run : ReplsetPing.step config s action = some after) :
    Tracked config after := by
  cases action with
  | ping p action => exact tracked.pingStep (.of_run run)
  | replset action =>
    obtain ⟨later, stepped, rfl⟩ := Option.map_eq_some_iff.mp run
    have taken := Replset.Step.of_run stepped
    refine ⟨nodes_step tracked.nodes taken, tracked.bounded.step taken, fun p => ?_⟩
    exact (tracked.pings p).mono (.of_step tracked.nodes taken)

theorem Tracked.of_reach {allowed : State n → Action n → Prop} (reach : Reached config allowed s) : Tracked config s :=
  reach.invariant .new fun _ _ _ _ tracked _ run => tracked.step run

/-- Whatever the nodes do and whoever else uses the client, a `ping` asks at most
two nodes, with an `open` of its own between them; it succeeds with the answer
of a node to its own ping, and it fails with the error of the first node that
it has asked, or of the `open`. -/
theorem verdict_of_ping {allowed : State n → Action n → Prop} (reach : Reached config allowed s) (p : PingId) :
    (s.pings p).Fits s.replset (s.deeds p) ∧ (s.deeds p).countP Deed.isAsk ≤ 2 ∧
      ∀ outcome, s.pings p = .returned outcome → Verdict s.replset (s.deeds p) outcome := by
  have fits := (Tracked.of_reach reach).pings p
  refine ⟨fits, fits.count, fun outcome returned => ?_⟩
  rw [returned] at fits
  exact fits

end Steps

section Example

open Replset (pair firstNode secondNode)

def onReplset (actions : List (Replset.Action 2)) : List (Action 2) := actions.map .replset

/-- A call on a node that was never opened. -/
def unconnectedCall (index : Fin 2) (c : Connection.CallId) : List (Replset.Action 2) :=
  [Connection.CallAction.enter, .lockPending, .insert, .lockWriter, .findWriter, .lockPending, .remove, .unlockWriter].map
    fun action => .client index (.call c action)

def secondPing : Id16 := ⟨Block.ofNatLE 16 7⟩

/-- A node that is open answers the second ping. -/
def answeredCall : List Connection.Action :=
  [.call 0 .enter, .call 0 .lockPending, .call 0 .insert] ++ Connection.writeActions 0 ++
    [.receive 0 (ResponseFrame.ping secondPing 0 (Block.zero 44)).bytes, .reader 0 .readHeader, .reader 0 .lockPending,
      .reader 0 .deliver, .call 0 .receive]

/-- A ping of two nodes that nobody has opened: the first does not answer it,
its `open` finds the second alone, and that answers. -/
def reopenedPing : List (Action 2) :=
  [.ping 0 .start, .ping 0 .client, .ping 0 (.draw .zero), .ping 0 (.send 0)] ++ onReplset (unconnectedCall firstNode 0) ++
    [.ping 0 .answered, .ping 0 (.startOpen 0)] ++
    onReplset ([.opening 0 (.startOpen 0), .client firstNode (.opening 0 .lockWriter),
        .client firstNode (.opening 0 .findWriter), .client firstNode (.opening 0 .storeClosed),
        .client firstNode (.opening 0 (.connectFails .timedOut)), .opening 0 .opened] ++
      Replset.openedNode 0 secondNode Connection.acceptance ++ [.opening 0 .choose, .opening 0 .setActive]) ++
    [.ping 0 .opened, .ping 0 .client, .ping 0 (.draw secondPing), .ping 0 (.send 0)] ++
    onReplset (answeredCall.map (.client secondNode)) ++ [.ping 0 .answered]

def PingPc.succeeded : PingPc n → Bool
  | .returned (.ok value) => value
  | _ => false

theorem PingPc.succeeded_iff {pc : PingPc n} : pc.succeeded = true ↔ pc = .returned (.ok true) := by
  constructor
  · intro done
    unfold succeeded at done
    split at done
    · rw [done]
    · cases done
  · rintro rfl
    rfl

theorem verdict_of_ping_reopened :
    ∃ s : State 2, (s.deeds 0).length = 3 ∧ Verdict s.replset (s.deeds 0) (.ok true) := by
  have executed : (run (step pair) (State.new 2) reopenedPing).any
      (fun s => (s.pings 0).succeeded && (s.deeds 0).length == 3) = true := by decide +kernel
  obtain ⟨s, reach, found⟩ := Reach.exists_of_run (runAllowed_always ..) executed
  obtain ⟨succeeded, three⟩ := Bool.and_eq_true_iff.mp found
  exact ⟨s, beq_iff_eq.mp three, (verdict_of_ping reach 0).2.2 _ (PingPc.succeeded_iff.mp succeeded)⟩

end Example

end Ruslock.ReplsetPing
