import Ruslock.ReplsetSteps

namespace Ruslock.Connection

/-- An async `open` is dropped at one of its await points, its socket with it.
It stands where a finished call stands, and nobody asks for its result. -/
def dropOpen (s : State) (o : OpenId) : Option State :=
  match s.opens o with
  | .lockWriter | .connect | .writeInit _ _ | .readInit _ | .lockPublish _ =>
    some { s with opens := Function.update s.opens o (.returned (.error .clientClosed)) }
  | _ => none

/-- An async `close` is dropped at one of its await points. -/
def dropClose (s : State) (k : CloseId) : Option State :=
  match s.closes k with
  | .lockWriter | .lockPending => some { s with closes := Function.update s.closes k .returned }
  | .shutdown _ => some { s with writerLock := none, closes := Function.update s.closes k .returned }
  | _ => none

end Ruslock.Connection

namespace Ruslock.Replset
open Transition Wire

variable {n : Nat}

/-- A step of the replset client, or the dropping of a `send_command` future. -/
inductive DropAction (n : Nat)
  | base (action : Action n)
  | drop (d : SendId)

/-- An async `send_command` is dropped where it awaits: with it goes the call of
a node's client that it waits for. -/
def dropSend (config : Config n) (s : State n) (d : SendId) : Option (State n) :=
  let gone : SendPc n := .returned (.error .clientClosed)
  match config.backend with
  | .blocking => none
  | .aio =>
    match s.sends d with
    | .opening _ index o =>
      (Connection.dropOpen (s.clients index) o).map fun client => (s.withClient index client).moveSend d gone
    | .sending _ index c =>
      (s.onClient config index (.call c .drop)).map fun s => s.moveSend d gone
    | .closing _ index _ k =>
      (Connection.dropClose (s.clients index) k).map fun client => (s.withClient index client).moveSend d gone
    | .sleeping _ _ _ => some (s.moveSend d gone)
    | _ => none

/-- The call whose step it is. -/
def DropAction.owner : DropAction n → Option SendId
  | .base (.send d _) => some d
  | .base _ => none
  | .drop d => some d

def stepDropping (config : Config n) (s : State n) : DropAction n → Option (State n)
  | .base action => step config s action
  | .drop d => dropSend config s d

/-- The request id of a call between its push and its end. -/
def SendPc.queued : SendPc n → Option Id16
  | .idle => none
  | .start _ => none
  | .push _ => none
  | .readActive pending _ => some pending.requestId
  | .attempt round => some round.pending.requestId
  | .opening round _ _ => some round.pending.requestId
  | .connected round _ => some round.pending.requestId
  | .sending round _ _ => some round.pending.requestId
  | .failed round _ _ => some round.pending.requestId
  | .closing round _ _ _ => some round.pending.requestId
  | .redirect round => some round.pending.requestId
  | .setActive pending _ _ => some pending.requestId
  | .retry pending _ => some pending.requestId
  | .sleep pending _ => some pending.requestId
  | .sleeping pending _ _ => some pending.requestId
  | .woken pending _ => some pending.requestId
  | .remove requestId _ => some requestId
  | .returned _ => none

/-- What a call does to its own entry. -/
inductive QueueEvent
  | push (pending : PendingCommand)
  | retype (retryType : RetryType)
  | leave

/-- The queue as it should be: the entries of the calls in progress, each under
its call, in the order of their pushes. -/
abbrev Ledger := List (SendId × PendingCommand)

def Ledger.apply (ledger : Ledger) (d : SendId) : QueueEvent → Ledger
  | .push pending => ledger ++ [(d, pending)]
  | .retype retryType =>
    ledger.map fun entry => if entry.1 = d then (d, { entry.2 with retryType := retryType }) else entry
  | .leave => ledger.filter fun entry => entry.1 ≠ d

/-- What a statement of a `send_command` does to the queue. -/
def SendPc.queueEvent : SendPc n → SendAction → Option QueueEvent
  | .push pending, .push => some (.push pending)
  | .redirect round, .redirect => some (.retype round.pending.retryType)
  | .retry pending _, .retry => some (.retype pending.retryType)
  | .woken pending _, .woken => some (.retype pending.retryType)
  | .remove _ _, .remove => some .leave
  | _, _ => none

/-- How a step changes the queue as it should be: a call that is dropped has
ended like one that returns. -/
def keepLedger (s : State n) (action : DropAction n) (_after : State n) (ledger : Ledger) : Ledger :=
  match action with
  | .base (.send d action) => ((s.sends d).queueEvent action).elim ledger (ledger.apply d)
  | .base _ => ledger
  | .drop d => ledger.apply d .leave

/-- The queue holds exactly the entries of the calls in progress. -/
structure ExactQueue (s : State n) (ledger : Ledger) : Prop where
  queue : s.pendingCommands = ledger.map Prod.snd
  once : (ledger.map Prod.fst).Nodup
  own : ∀ d pending, (d, pending) ∈ ledger → (s.sends d).queued = some pending.requestId
  present : ∀ d, (s.sends d).queued.isSome = true → ∃ pending, (d, pending) ∈ ledger

/-- Calls that are in progress at once have different request ids. -/
def DistinctIds (s : State n) : DropAction n → Prop
  | .base (.send d .push) => ∀ pending, s.sends d = .push pending → ∀ other,
      (s.sends other).queued ≠ some pending.requestId
  | _ => True

/-- Nobody drops a call. -/
def Undropped (s : State n) : DropAction n → Prop
  | .drop _ => False
  | .base action => DistinctIds s (.base action)

/-- How a step of a call moves its entry. -/
inductive QueueMove (s after : State n) (d : SendId) : Option QueueEvent → Prop
  | none : after.pendingCommands = s.pendingCommands → (after.sends d).queued = (s.sends d).queued →
      QueueMove s after d .none
  | push {pending} : s.sends d = .push pending → after.pendingCommands = s.pendingCommands ++ [pending] →
      (after.sends d).queued = some pending.requestId → QueueMove s after d (some (.push pending))
  | retype {requestId retryType} : (s.sends d).queued = some requestId →
      after.pendingCommands = updatePendingRetryType requestId retryType s.pendingCommands →
      (after.sends d).queued = some requestId → QueueMove s after d (some (.retype retryType))
  | leave {requestId} : (s.sends d).queued = some requestId →
      after.pendingCommands = s.pendingCommands.filter (fun pending => pending.requestId ≠ requestId) →
      (after.sends d).queued = .none → QueueMove s after d (some .leave)

theorem enterPc_queued (config : Config n) (now : Instant) (command : Command) :
    (enterPc config now command).queued = none := by
  unfold enterPc
  split
  · rfl
  · split <;> rfl

theorem openedPc_queued (round : Round) (index : Fin n) (outcome : Outcome Unit) :
    (openedPc round index outcome).queued = some round.pending.requestId := by
  cases outcome <;> rfl

theorem answeredPc_queued (round : Round) (index : Fin n) (outcome : Outcome CommandResult) :
    (answeredPc round index outcome).queued = some round.pending.requestId := by
  cases outcome <;> simp only [answeredPc] <;> split <;> rfl

theorem endRoundPc_queued (now : Instant) (round : Round) :
    (endRoundPc now round : SendPc n).queued = some round.pending.requestId := by
  unfold endRoundPc
  split
  · rfl
  · split <;> rfl

theorem SendStep.queueMove {config : Config n} {s after : State n} {d : SendId} {action : SendAction}
    (taken : SendStep config s d action after) : QueueMove s after d ((s.sends d).queueEvent action) := by
  cases taken with
  | push atPc =>
    rw [atPc]
    exact .push atPc rfl (by simp only [State.moveSend, Function.update_self]; rfl)
  | redirect atPc | retry atPc | woken atPc =>
    rw [atPc]
    exact .retype (by rw [atPc]; rfl) rfl (by simp only [State.moveSend, Function.update_self]; rfl)
  | remove atPc =>
    rw [atPc]
    exact .leave (by rw [atPc]; rfl) rfl (by simp only [State.moveSend, Function.update_self]; rfl)
  | enter atPc =>
    rw [atPc]
    exact .none rfl (by simp only [State.moveSend, Function.update_self, atPc]; exact enterPc_queued ..)
  | opened atPc =>
    rw [atPc]
    exact .none rfl (by simp only [State.moveSend, Function.update_self, atPc]; exact openedPc_queued ..)
  | answered atPc =>
    rw [atPc]
    exact .none rfl (by simp only [State.moveSend, Function.update_self, atPc]; exact answeredPc_queued ..)
  | endRound atPc =>
    rw [atPc]
    exact .none rfl (by simp only [State.moveSend, Function.update_self, atPc]; exact endRoundPc_queued ..)
  | start atPc | readActive atPc | startOpen _ atPc | startSend atPc | startClose atPc | closed atPc | setActive atPc
  | sleep atPc | wake atPc =>
    rw [atPc]
    exact .none rfl (by simp only [State.moveSend, Function.update_self, atPc]; rfl)

section Ledger

variable {ledger : Ledger} {d : SendId} {requestId : Id16}

/-- Where one request id means one call, the update by request id finds the
entry of the call. -/
theorem Ledger.retype_eq (retryType : RetryType) (once : (ledger.map Prod.fst).Nodup)
    (owns : ∀ entry ∈ ledger, entry.2.requestId = requestId ↔ entry.1 = d) :
    updatePendingRetryType requestId retryType (ledger.map Prod.snd) =
      (ledger.apply d (.retype retryType)).map Prod.snd := by
  induction ledger with
  | nil => rfl
  | cons entry rest ih =>
    obtain ⟨apart, once⟩ := List.nodup_cons.mp once
    have here := owns entry List.mem_cons_self
    simp only [List.map_cons, updatePendingRetryType, Ledger.apply]
    by_cases own : entry.1 = d
    · rw [if_pos (here.mpr own), if_pos own]
      have others : ∀ other ∈ rest,
          (if other.1 = d then (d, { other.2 with retryType := retryType }) else other) = other := by
        intro other member
        rw [if_neg]
        intro same
        exact apart (List.mem_map.mpr ⟨other, member, by rw [same, own]⟩)
      rw [List.map_congr_left others, List.map_id']
    · rw [if_neg (fun same => own (here.mp same)), if_neg own]
      exact congrArg (entry.2 :: ·) (ih once fun other member => owns other (List.mem_cons_of_mem _ member))

theorem Ledger.leave_eq (owns : ∀ entry ∈ ledger, entry.2.requestId = requestId ↔ entry.1 = d) :
    (ledger.map Prod.snd).filter (fun pending => pending.requestId ≠ requestId) =
      (ledger.apply d .leave).map Prod.snd := by
  rw [List.filter_map]
  refine congrArg (List.map Prod.snd) (List.filter_congr fun entry member => ?_)
  simp only [Function.comp_apply, ne_eq, owns entry member]

theorem Ledger.retype_fst (retryType : RetryType) :
    (ledger.apply d (.retype retryType)).map Prod.fst = ledger.map Prod.fst := by
  simp only [Ledger.apply, List.map_map]
  refine List.map_congr_left fun entry _ => ?_
  simp only [Function.comp_apply]
  split
  · rename_i own
    exact own.symm
  · rfl

theorem Ledger.mem_retype {retryType : RetryType} {other : SendId} {pending : PendingCommand}
    (member : (other, pending) ∈ ledger.apply d (.retype retryType)) :
    ∃ before, (other, before) ∈ ledger ∧ before.requestId = pending.requestId := by
  obtain ⟨⟨owner, before⟩, old, same⟩ := List.mem_map.mp member
  split at same
  · rename_i own
    cases own
    cases same
    exact ⟨before, old, rfl⟩
  · cases same
    exact ⟨pending, old, rfl⟩

theorem Ledger.mem_retype_of_mem {retryType : RetryType} {other : SendId} {pending : PendingCommand}
    (member : (other, pending) ∈ ledger) :
    ∃ after, (other, after) ∈ ledger.apply d (.retype retryType) := by
  have moved : other ∈ (ledger.apply d (.retype retryType)).map Prod.fst := by
    rw [Ledger.retype_fst]
    exact List.mem_map.mpr ⟨_, member, rfl⟩
  obtain ⟨⟨_, after⟩, there, rfl⟩ := List.mem_map.mp moved
  exact ⟨after, there⟩

end Ledger

/-- The queue is exact and calls in progress have different request ids. -/
structure Kept (s : State n) (ledger : Ledger) : Prop extends ExactQueue s ledger where
  distinct : ∀ d other requestId, (s.sends d).queued = some requestId → (s.sends other).queued = some requestId →
    d = other

section Steps

variable {config : Config n} {s after : State n} {ledger : Ledger} {d : SendId}

theorem Kept.owns (kept : Kept s ledger) {requestId : Id16} (queued : (s.sends d).queued = some requestId) :
    ∀ entry ∈ ledger, entry.2.requestId = requestId ↔ entry.1 = d := by
  rintro ⟨other, pending⟩ member
  have own := kept.own other pending member
  constructor
  · rintro rfl
    exact kept.distinct other d _ own queued
  · rintro rfl
    exact Option.some.inj (own.symm.trans queued)

/-- A step that leaves every call between its push and its end. -/
theorem Kept.same (kept : Kept s ledger) (queue : after.pendingCommands = s.pendingCommands)
    (sends : ∀ other, (after.sends other).queued = (s.sends other).queued) : Kept after ledger where
  queue := queue.trans kept.queue
  once := kept.once
  own other pending member := (sends other).trans (kept.own other pending member)
  present other queued := kept.present other (by rw [← sends]; exact queued)
  distinct d other requestId first second :=
    kept.distinct d other requestId ((sends d).symm.trans first) ((sends other).symm.trans second)

/-- One call at most gets a request id that no call had. -/
theorem Kept.distinct_of (kept : Kept s ledger) (others : ∀ other ≠ d, after.sends other = s.sends other)
    (mine : ∀ requestId, (after.sends d).queued = some requestId →
      ∀ other ≠ d, (s.sends other).queued ≠ some requestId)
    (first second : SendId) (requestId : Id16) (atFirst : (after.sends first).queued = some requestId)
    (atSecond : (after.sends second).queued = some requestId) : first = second := by
  by_cases isFirst : first = d
  · subst isFirst
    by_contra apart
    have before := atSecond
    rw [others second (Ne.symm apart)] at before
    exact mine requestId atFirst second (Ne.symm apart) before
  · rw [others first isFirst] at atFirst
    by_cases isSecond : second = d
    · subst isSecond
      exact absurd atFirst (mine requestId atSecond first isFirst)
    · rw [others second isSecond] at atSecond
      exact kept.distinct first second requestId atFirst atSecond

theorem Kept.push (kept : Kept s ledger) {pending : PendingCommand} (atPc : s.sends d = .push pending)
    (fresh : ∀ other, (s.sends other).queued ≠ some pending.requestId)
    (queue : after.pendingCommands = s.pendingCommands ++ [pending])
    (queued : (after.sends d).queued = some pending.requestId)
    (others : ∀ other ≠ d, after.sends other = s.sends other) : Kept after (ledger.apply d (.push pending)) := by
  have absent : ∀ before, (d, before) ∉ ledger := by
    intro before member
    have own := kept.own d before member
    rw [atPc] at own
    cases own
  refine ⟨⟨?_, ?_, ?_, ?_⟩, kept.distinct_of others ?_⟩
  · rw [queue, kept.queue, Ledger.apply, List.map_append]
    rfl
  · rw [Ledger.apply, List.map_append, List.map_singleton]
    refine List.nodup_append.mpr ⟨kept.once, List.nodup_singleton _, ?_⟩
    rintro first old _ last rfl
    rw [List.mem_singleton.mp last] at old
    obtain ⟨⟨_, before⟩, member, rfl⟩ := List.mem_map.mp old
    exact absent before member
  · intro other before member
    rcases List.mem_append.mp member with old | new
    · have apart : other ≠ d := by
        rintro rfl
        exact absent before old
      rw [others other apart]
      exact kept.own other before old
    · cases List.mem_singleton.mp new
      exact queued
  · intro other isQueued
    by_cases same : other = d
    · exact ⟨pending, by rw [same]; exact List.mem_append_right _ (List.mem_singleton.mpr rfl)⟩
    · rw [others other same] at isQueued
      obtain ⟨before, member⟩ := kept.present other isQueued
      exact ⟨before, List.mem_append_left _ member⟩
  · intro requestId mine other _ taken
    rw [queued] at mine
    cases mine
    exact fresh other taken

theorem Kept.retype (kept : Kept s ledger) {requestId : Id16} {retryType : RetryType}
    (queued : (s.sends d).queued = some requestId)
    (queue : after.pendingCommands = updatePendingRetryType requestId retryType s.pendingCommands)
    (still : (after.sends d).queued = some requestId) (others : ∀ other ≠ d, after.sends other = s.sends other) :
    Kept after (ledger.apply d (.retype retryType)) := by
  have sends : ∀ other, (after.sends other).queued = (s.sends other).queued := by
    intro other
    by_cases same : other = d
    · rw [same, still, queued]
    · rw [others other same]
  refine ⟨⟨?_, ?_, ?_, ?_⟩, ?_⟩
  · rw [queue, kept.queue, Ledger.retype_eq retryType kept.once (kept.owns queued)]
  · rw [Ledger.retype_fst]
    exact kept.once
  · intro other pending member
    obtain ⟨before, old, same⟩ := Ledger.mem_retype member
    rw [sends, kept.own other before old, same]
  · intro other isQueued
    rw [sends] at isQueued
    obtain ⟨_, member⟩ := kept.present other isQueued
    exact Ledger.mem_retype_of_mem member
  · intro first second id atFirst atSecond
    rw [sends] at atFirst atSecond
    exact kept.distinct first second id atFirst atSecond

theorem Kept.leave (kept : Kept s ledger) {requestId : Id16} (queued : (s.sends d).queued = some requestId)
    (queue : after.pendingCommands = s.pendingCommands.filter fun pending => pending.requestId ≠ requestId)
    (ended : (after.sends d).queued = none) (others : ∀ other ≠ d, after.sends other = s.sends other) :
    Kept after (ledger.apply d .leave) := by
  refine ⟨⟨?_, ?_, ?_, ?_⟩, kept.distinct_of others ?_⟩
  · rw [queue, kept.queue, Ledger.leave_eq (kept.owns queued)]
  · exact kept.once.sublist (List.filter_sublist.map _)
  · intro other pending member
    obtain ⟨old, apart⟩ := List.mem_filter.mp member
    rw [others other (of_decide_eq_true apart)]
    exact kept.own other pending old
  · intro other isQueued
    have apart : other ≠ d := by
      rintro rfl
      rw [ended] at isQueued
      cases isQueued
    rw [others other apart] at isQueued
    obtain ⟨pending, member⟩ := kept.present other isQueued
    exact ⟨pending, List.mem_filter.mpr ⟨member, decide_eq_true apart⟩⟩
  · intro id mine
    rw [ended] at mine
    cases mine

theorem Kept.move (kept : Kept s ledger) {event : Option QueueEvent} (move : QueueMove s after d event)
    (fresh : ∀ pending, s.sends d = .push pending → ∀ other, (s.sends other).queued ≠ some pending.requestId)
    (others : ∀ other ≠ d, after.sends other = s.sends other) :
    Kept after (event.elim ledger (ledger.apply d)) := by
  cases move with
  | none queue queued =>
    refine kept.same queue fun other => ?_
    by_cases same : other = d
    · rw [same, queued]
    · rw [others other same]
  | push atPc queue queued => exact kept.push atPc (fresh _ atPc) queue queued others
  | retype queued queue still => exact kept.retype queued queue still others
  | leave queued queue ended => exact kept.leave queued queue ended others

theorem Kept.step {action : Action n} (kept : Kept s ledger) (meets : DistinctIds s (.base action))
    (taken : Step config s action after) : Kept after (keepLedger s (.base action) after ledger) := by
  cases taken with
  | @send d action _ taken =>
    refine kept.move taken.queueMove (fun pending atPc other => ?_) fun other apart => (taken.frame apart).1
    cases taken with
    | push => exact meets pending atPc other
    | start idle | enter idle | readActive idle | startOpen _ idle | opened idle | startSend idle | answered idle
    | startClose idle | closed idle | redirect idle | setActive idle | endRound idle | retry idle | sleep idle
    | wake idle | woken idle | remove idle => cases idle.symm.trans atPc
  | opening taken => cases taken <;> exact kept.same rfl fun _ => rfl
  | closing taken => cases taken <;> exact kept.same rfl fun _ => rfl
  | client => exact kept.same rfl fun _ => rfl
  | tick => exact kept.same rfl fun _ => rfl

/-- A dropped call leaves the queue as it is. -/
theorem dropSend_queue (run : dropSend config s d = some after) :
    after.pendingCommands = s.pendingCommands ∧ (s.sends d).queued.isSome = true := by
  unfold dropSend at run
  split at run
  · cases run
  split at run
  · rename_i atPc
    obtain ⟨_, _, rfl⟩ := Option.map_eq_some_iff.mp run
    exact ⟨rfl, by rw [atPc]; rfl⟩
  · rename_i atPc
    obtain ⟨_, stepped, rfl⟩ := Option.map_eq_some_iff.mp run
    obtain ⟨_, _, rfl⟩ := Option.map_eq_some_iff.mp stepped
    exact ⟨rfl, by rw [atPc]; rfl⟩
  · rename_i atPc
    obtain ⟨_, _, rfl⟩ := Option.map_eq_some_iff.mp run
    exact ⟨rfl, by rw [atPc]; rfl⟩
  · rename_i atPc
    cases run
    exact ⟨rfl, by rw [atPc]; rfl⟩
  · cases run

theorem Kept.drop (kept : Kept s ledger) (run : dropSend config s d = some after) :
    ¬ ExactQueue after (ledger.apply d .leave) := by
  intro exact_
  obtain ⟨queue, queued⟩ := dropSend_queue run
  obtain ⟨pending, member⟩ := kept.present d queued
  have shorter : (ledger.apply d .leave).length < ledger.length :=
    List.length_filter_lt_length_iff_exists.mpr ⟨_, member, by simp⟩
  have lengths := congrArg List.length ((kept.queue.symm.trans queue.symm).trans exact_.queue)
  simp only [List.length_map] at lengths
  omega

end Steps

/-- Runs of the replset client with the queue as it should be. -/
abbrev QueueReached (config : Config n) (allowed : State n → DropAction n → Prop) (s : State n) (ledger : Ledger) :
    Prop :=
  Reach (watch (stepDropping config) keepLedger) (fun state action => allowed state.1 action) (State.new n, [])
    (s, ledger)

theorem Kept.of_reach {config : Config n} {s : State n} {ledger : Ledger}
    (reach : QueueReached config Undropped s ledger) : Kept s ledger := by
  refine reach.invariant (motive := fun watched => Kept watched.1 watched.2) ?_ ?_
  · exact ⟨⟨rfl, List.nodup_nil, nofun, nofun⟩, nofun⟩
  · intro before action after _ kept meets run
    obtain ⟨stepped, recorded⟩ := watch_eq_some run
    rw [recorded]
    cases action with
    | drop => exact meets.elim
    | base action => exact kept.step meets (.of_run stepped)

theorem ExactQueue.empty {s : State n} {ledger : Ledger} (queue : ExactQueue s ledger)
    (idle : ∀ d, (s.sends d).queued = none) : s.pendingCommands = [] := by
  cases ledger with
  | nil => exact queue.queue
  | cons entry rest =>
    have own := queue.own entry.1 entry.2 List.mem_cons_self
    rw [idle] at own
    cases own

/-- Nobody touches the entry of another call. -/
theorem keepLedger_of_other {s after : State n} {ledger : Ledger} {action : DropAction n} {d : SendId}
    {pending : PendingCommand} (other : action.owner ≠ some d) (member : (d, pending) ∈ ledger) :
    (d, pending) ∈ keepLedger s action after ledger := by
  have kept : ∀ moved event, moved ≠ d → (d, pending) ∈ ledger.apply moved event := by
    intro moved event apart
    cases event with
    | push => exact List.mem_append_left _ member
    | retype => exact List.mem_map.mpr ⟨_, member, if_neg (Ne.symm apart)⟩
    | leave => exact List.mem_filter.mpr ⟨member, decide_eq_true (Ne.symm apart)⟩
  cases action with
  | drop moved => exact kept moved .leave fun same => other (congrArg some same)
  | base action =>
    cases action with
    | send moved action =>
      cases event : (s.sends moved).queueEvent action with
      | none => simp only [keepLedger, event, Option.elim_none]; exact member
      | some event' =>
        simp only [keepLedger, event, Option.elim_some]
        exact kept moved event' fun same => other (congrArg some same)
    | _ => exact member

/-- As long as nobody drops a call the queue holds exactly the entries of the
calls in progress, in the order of their pushes, and a step of anybody else
leaves an entry as it is; a drop always leaves an entry too many. -/
theorem exactQueue_of_undropped {config : Config n} {s : State n} {ledger : Ledger}
    (reach : QueueReached config Undropped s ledger) :
    ExactQueue s ledger ∧ ((∀ d, (s.sends d).queued = none) → s.pendingCommands = []) ∧
      (∀ action after, stepDropping config s action = some after → ∀ d pending, (d, pending) ∈ ledger →
        action.owner ≠ some d → (d, pending) ∈ keepLedger s action after ledger) ∧
      ∀ d after, stepDropping config s (.drop d) = some after →
        ¬ ExactQueue after (keepLedger s (.drop d) after ledger) := by
  have kept := Kept.of_reach reach
  exact ⟨kept.toExactQueue, kept.empty, fun _ _ _ _ _ member other => keepLedger_of_other other member,
    fun d after run => kept.drop run⟩

/-- An async replset of one node. -/
def single : Config 1 := ⟨.aio, fun _ => "", Duration.fromSecs 120⟩

/-- A step moves no call but its own. -/
theorem stepDropping_other {config : Config n} {s after : State n} {action : DropAction n} {other : SendId}
    (run : stepDropping config s action = some after) (apart : action.owner ≠ some other) :
    after.sends other = s.sends other := by
  cases action with
  | base action =>
    rcases (Step.of_run run).loop other with ⟨action', rfl, _⟩ | ⟨same, _⟩
    · exact absurd rfl apart
    · exact same
  | drop d =>
    have elsewhere : other ≠ d := fun same => apart (congrArg some same.symm)
    simp only [stepDropping, dropSend] at run
    split at run
    · cases run
    split at run
    · obtain ⟨_, _, rfl⟩ := Option.map_eq_some_iff.mp run
      exact Function.update_of_ne elsewhere ..
    · obtain ⟨_, stepped, rfl⟩ := Option.map_eq_some_iff.mp run
      obtain ⟨_, _, rfl⟩ := Option.map_eq_some_iff.mp stepped
      exact Function.update_of_ne elsewhere ..
    · obtain ⟨_, _, rfl⟩ := Option.map_eq_some_iff.mp run
      exact Function.update_of_ne elsewhere ..
    · cases run
      exact Function.update_of_ne elsewhere ..
    · cases run

/-- A single call has no other to share its request id with. -/
theorem distinct_of_only {config : Config n} {kind : DropAction n → Prop} {s : State n} {ledger : Ledger} {d : SendId}
    (only : ∀ action, kind action → ∀ other ≠ d, action.owner ≠ some other)
    (reach : QueueReached config (fun _ => kind) s ledger) :
    QueueReached config (fun s action => kind action ∧ DistinctIds s action) s ledger := by
  have both : QueueReached config (fun s action => kind action ∧ DistinctIds s action) s ledger ∧
      ∀ other ≠ d, s.sends other = .idle := by
    refine reach.invariant (motive := fun watched =>
      QueueReached config (fun s action => kind action ∧ DistinctIds s action) watched.1 watched.2 ∧
        ∀ other ≠ d, watched.1.sends other = .idle) ⟨.start, fun _ _ => rfl⟩ ?_
    rintro before action after _ ⟨reached, idle⟩ meets run
    refine ⟨reached.next ⟨meets, ?_⟩ run, fun other apart => ?_⟩
    · cases action with
      | drop => trivial
      | base action =>
        cases action with
        | send moved action =>
          cases action with
          | push =>
            intro pending atPc other queued
            by_cases same : other = d
            · have own : moved = d := by
                by_contra apart
                exact only _ meets moved apart rfl
              rw [same, ← own, atPc] at queued
              cases queued
            · rw [idle other same] at queued
              cases queued
          | _ => trivial
        | _ => trivial
    · rw [stepDropping_other (watch_eq_some run).1 (only action meets other apart)]
      exact idle other apart
  exact both.1

/-- A command whose node cannot be reached, up to the sleep between its rounds. -/
def sleepingCommand : List (Action 1) :=
  beginActions 0 ⟨Block.ofNatLE 16 7⟩ ++ missNode 0 onlyNode 0 ++ [.send 0 .endRound, .send 0 .retry, .send 0 .sleep]

theorem sleepingCommand_only :
    ∀ action ∈ sleepingCommand, ∀ other ≠ 0, (DropAction.base action).owner ≠ some other := by
  intro action member other apart
  revert action
  simp [sleepingCommand, beginActions, missNode, DropAction.owner, apart.symm]

/-- The entry of a command that is dropped in its sleep stays for ever. -/
theorem droppedCommand_not_exact :
    ¬ ∀ (n : Nat) (config : Config n) s ledger, QueueReached config DistinctIds s ledger → ExactQueue s ledger := by
  intro claim
  have executed : (run (watch (stepDropping single) keepLedger) (State.new 1, [])
      (sleepingCommand.map .base ++ [.drop 0])).any
      (fun watched => watched.1.pendingCommands.length = 1 ∧ watched.2.length = 0) = true := by decide
  have only : ∀ action ∈ sleepingCommand.map DropAction.base ++ [.drop 0], ∀ other ≠ 0, action.owner ≠ some other := by
    intro action member
    rcases List.mem_append.mp member with before | last
    · obtain ⟨base, inside, rfl⟩ := List.mem_map.mp before
      exact sleepingCommand_only base inside
    · intro other apart
      rw [List.mem_singleton.mp last]
      exact fun same => apart (Option.some.inj same).symm
  obtain ⟨⟨s, ledger⟩, reach, found⟩ := Reach.exists_of_run (.of_forall (fun action member _ => only action member) _)
    executed
  obtain ⟨left, none⟩ : s.pendingCommands.length = 1 ∧ ledger.length = 0 := of_decide_eq_true found
  have distinct := (distinct_of_only (fun _ only => only) reach).mono fun _ _ meets => meets.2
  have queue := congrArg List.length (claim 1 single s ledger distinct).queue
  rw [List.length_map] at queue
  omega

/-- Before the drop the queue is exact. -/
theorem exactQueue_sleepingCommand : ∃ s ledger, s.pendingCommands.length = 1 ∧ ExactQueue (n := 1) s ledger := by
  have executed : (run (watch (stepDropping single) keepLedger) (State.new 1, []) (sleepingCommand.map .base)).any
      (fun watched => watched.1.pendingCommands.length = 1) = true := by decide
  have only : ∀ action ∈ sleepingCommand.map DropAction.base,
      (∃ base, action = .base base) ∧ ∀ other ≠ 0, action.owner ≠ some other := by
    intro action member
    obtain ⟨base, inside, rfl⟩ := List.mem_map.mp member
    exact ⟨⟨base, rfl⟩, sleepingCommand_only base inside⟩
  obtain ⟨⟨s, ledger⟩, reach, found⟩ := Reach.exists_of_run (.of_forall (fun action member _ => only action member) _)
    executed
  have undropped : QueueReached single Undropped s ledger := by
    refine (distinct_of_only (fun _ only => only.2) reach).mono ?_
    rintro _ _ ⟨⟨⟨base, rfl⟩, _⟩, distinct⟩
    exact distinct
  exact ⟨s, ledger, of_decide_eq_true found, (exactQueue_of_undropped undropped).1⟩

end Ruslock.Replset
