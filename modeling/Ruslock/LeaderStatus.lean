import Ruslock.ReplsetSteps

namespace Ruslock.Connection
open Transition Wire

/-- The type in the last successful init frame that was received on each stream. -/
abbrev Statuses := StreamId → Option UInt8

/-- The stream of an `open` between its handshake and the storing of its writer. -/
def OpenPc.accepted : OpenPc → Option StreamId
  | .split stream => some stream
  | .lockPublish stream => some stream
  | .inPublish stream => some stream
  | _ => none

/-- The stream and the type of a successful init frame that a step receives:
as the answer to a handshake, or from the server later on. -/
def reported (s : State) : Action → Option (StreamId × UInt8)
  | .opening o .readInit =>
    match s.opens o with
    | .readInit stream =>
      match readExact 64 (s.inbox stream) with
      | some (header, _) =>
        match initOutcome header with
        | .ok initType => some (stream, initType)
        | .error _ => none
      | none => none
    | _ => none
  | .reader r .deliver =>
    match s.readers r with
    | .inPending (.deliver header data) =>
      match decodeResponse header data with
      | .ok (.init result) => if result.result = commandResultSucced then some (r, result.initType) else none
      | _ => none
    | _ => none
  | _ => none

def reportStatus (s : State) (action : Action) (_after : State) (statuses : Statuses) : Statuses :=
  match reported s action with
  | some (stream, initType) => Function.update statuses stream (some initType)
  | none => statuses

/-- `init_type()` is the type in the last successful init frame of the current
connection. -/
def State.Latest (s : State) (statuses : Statuses) : Prop :=
  ∀ stream, s.writer = some stream → statuses stream = some s.initType

/-- A step that receives a type other than the stored one is a handshake
without any other connection, stored or about to be stored. -/
def TypeKept (s : State) (action : Action) : Prop :=
  ∀ stream initType, reported s action = some (stream, initType) → initType ≠ s.initType →
    match action with
    | .opening o _ => s.writer = none ∧ ∀ other ≠ o, (s.opens other).accepted = none
    | _ => s.writer ≠ some stream

/-- The type that is stored is the last one of the current connection and of
every connection that is about to be stored. -/
structure Fresh (s : State) (statuses : Statuses) : Prop where
  latest : s.Latest statuses
  accepted : ∀ o stream, (s.opens o).accepted = some stream → statuses stream = some s.initType

section Steps

variable {config : Config} {s after : State} {statuses : Statuses}

/-- A step that receives no type. -/
theorem Fresh.silent (fresh : Fresh s statuses) (initType : after.initType = s.initType)
    (writer : ∀ stream, after.writer = some stream → s.writer = some stream ∨
      ∃ o, (s.opens o).accepted = some stream)
    (opens : ∀ o stream, (after.opens o).accepted = some stream → (s.opens o).accepted = some stream) :
    Fresh after statuses := by
  constructor
  · intro stream atWriter
    rw [initType]
    rcases writer stream atWriter with before | ⟨o, accepted⟩
    · exact fresh.latest stream before
    · exact fresh.accepted o stream accepted
  · intro o stream accepted
    rw [initType]
    exact fresh.accepted o stream (opens o stream accepted)

/-- Receiving the stored type again changes nothing. -/
theorem Fresh.again (fresh : Fresh s statuses) (stream : StreamId) :
    Fresh s (Function.update statuses stream (some s.initType)) := by
  have same : ∀ other, statuses other = some s.initType →
      Function.update statuses stream (some s.initType) other = some s.initType := by
    intro other known
    rw [Function.update_apply]
    split
    · rfl
    · exact known
  exact ⟨fun other atWriter => same other (fresh.latest other atWriter),
    fun o other accepted => same other (fresh.accepted o other accepted)⟩

theorem OpenStep.accepted_of {o o' : OpenId} {action : OpenAction} {stream : StreamId}
    (taken : OpenStep config s o action after) (later : action ≠ .readInit)
    (accepted : (after.opens o').accepted = some stream) : (s.opens o').accepted = some stream := by
  by_cases own : o' = o
  · subst own
    cases taken with
    | split atPc | lockPublish atPc =>
      simp only [Function.update_self] at accepted
      rw [atPc]
      exact accepted
    | refused | accepted => exact absurd rfl later
    | findWriter =>
      simp only [Function.update_self] at accepted
      split at accepted <;> cases accepted
    | start | lockWriter | storeClosed | connect | connectFails | fails | identify | writeInit | publish | spawn =>
      simp only [Function.update_self] at accepted
      cases accepted
  · rw [taken.frame.others o' own] at accepted
    exact accepted

theorem OpenPc.stream_of_accepted {pc : OpenPc} {stream : StreamId} (accepted : pc.accepted = some stream) :
    pc.stream = some stream := by
  cases pc <;> first | exact accepted | cases accepted

theorem OpenStep.initType {o : OpenId} {action : OpenAction} (taken : OpenStep config s o action after)
    (later : action ≠ .readInit) : after.initType = s.initType := by
  cases taken with
  | accepted => exact absurd rfl later
  | _ => rfl

theorem Fresh.refused {o : OpenId} {stream : StreamId} {rest : List UInt8} {err : SlockError}
    (fresh : Fresh s statuses) :
    Fresh { s with
      inbox := Function.update s.inbox stream rest
      opens := Function.update s.opens o (.returned (.error err)) } statuses := by
  refine fresh.silent rfl (fun _ => .inl) fun o' other accepted => ?_
  by_cases own : o' = o
  · subst own
    simp only [Function.update_self] at accepted
    cases accepted
  · simp only [Function.update_of_ne own] at accepted
    exact accepted

/-- A handshake stores the type that its stream has just received. -/
theorem Fresh.handshake {o : OpenId} {stream : StreamId} {rest : List UInt8} {initType : UInt8}
    (fresh : Fresh s statuses)
    (alone : initType ≠ s.initType → s.writer = none ∧ ∀ other ≠ o, (s.opens other).accepted = none) :
    Fresh { s with
      inbox := Function.update s.inbox stream rest
      initType := initType
      opens := Function.update s.opens o (.split stream) } (Function.update statuses stream (some initType)) := by
  by_cases same : initType = s.initType
  · subst same
    have again := fresh.again stream
    refine ⟨again.latest, fun o' other accepted => ?_⟩
    by_cases own : o' = o
    · subst own
      simp only [Function.update_self] at accepted
      cases accepted
      exact Function.update_self ..
    · simp only [Function.update_of_ne own] at accepted
      exact again.accepted o' other accepted
  · obtain ⟨absent, others⟩ := alone same
    constructor
    · intro other atWriter
      cases absent.symm.trans atWriter
    · intro o' other accepted
      by_cases own : o' = o
      · subst own
        simp only [Function.update_self] at accepted
        cases accepted
        exact Function.update_self ..
      · simp only [Function.update_of_ne own, others o' own] at accepted
        cases accepted

theorem Fresh.openStep {o : OpenId} {action : OpenAction} (fresh : Fresh s statuses)
    (meets : TypeKept s (.opening o action)) (taken : OpenStep config s o action after) :
    Fresh after (reportStatus s (.opening o action) after statuses) := by
  by_cases later : action = .readInit
  · subst later
    cases taken with
    | refused atPc read refused =>
      have none : reported s (.opening o .readInit) = none := by simp only [reported, atPc, read, refused]
      rw [reportStatus, none]
      exact fresh.refused
    | @accepted stream _ _ initType atPc read accepted =>
      have received : reported s (.opening o .readInit) = some (stream, initType) := by
        simp only [reported, atPc, read, accepted]
      rw [reportStatus, received]
      exact fresh.handshake (meets stream initType received)
  · have none : reported s (.opening o action) = none := by
      unfold reported
      split
      · rename_i same
        cases same
        exact absurd rfl later
      · rename_i same
        cases same
      · rfl
    rw [reportStatus, none]
    refine fresh.silent (taken.initType later) (fun stream atWriter => ?_) fun o' stream => taken.accepted_of later
    rcases taken.writer with ⟨same, _⟩ | ⟨published, _, atPc, _, new, _⟩
    · exact .inl (same ▸ atWriter)
    · rw [new] at atWriter
      cases atWriter
      exact .inr ⟨o, by rw [atPc]; rfl⟩

/-- A reader receives types on its own stream. -/
theorem reported_reader {r stream : StreamId} {action : ReaderAction} {initType : UInt8}
    (atAction : reported s (.reader r action) = some (stream, initType)) : stream = r ∧ s.readers r ≠ .idle := by
  unfold reported at atAction
  split at atAction
  · rename_i same
    cases same
  · rename_i same
    cases same
    split at atAction
    · rename_i atPc
      split at atAction
      · split at atAction
        · cases atAction
          exact ⟨rfl, by rw [atPc]; nofun⟩
        · cases atAction
      · cases atAction
    · cases atAction
  · cases atAction

theorem Fresh.readerStep {r : StreamId} {action : ReaderAction} (fresh : Fresh s statuses) (streams : Streams s)
    (meets : TypeKept s (.reader r action)) (taken : ReaderStep s r action after) :
    Fresh after (reportStatus s (.reader r action) after statuses) := by
  have frame := taken.frame
  -- the types received so far, with that of the delivered frame
  have received : Fresh s (reportStatus s (.reader r action) after statuses) := by
    unfold reportStatus
    split
    · rename_i stream initType atAction
      obtain ⟨rfl, running⟩ := reported_reader atAction
      by_cases same : initType = s.initType
      · subst same
        exact fresh.again stream
      · have elsewhere : s.writer ≠ some stream := meets stream initType atAction same
        refine ⟨fun other atWriter => ?_, fun o other accepted => ?_⟩
        · have apart : other ≠ stream := fun here => elsewhere (here ▸ atWriter)
          rw [Function.update_of_ne apart]
          exact fresh.latest other atWriter
        · have apart : other ≠ stream := by
            rintro rfl
            exact running (streams.owned o other (OpenPc.stream_of_accepted accepted)).2
          rw [Function.update_of_ne apart]
          exact fresh.accepted o other accepted
    · exact fresh
  refine received.silent frame.initType (fun stream atWriter => .inl (taken.writer_kept atWriter)) fun o stream => ?_
  rw [frame.opens]
  exact id

theorem Fresh.step {action : Action} (fresh : Fresh s statuses) (streams : Streams s) (meets : TypeKept s action)
    (taken : Step config s action after) : Fresh after (reportStatus s action after statuses) := by
  cases taken with
  | opening taken => exact fresh.openStep meets taken
  | reader taken => exact fresh.readerStep streams meets taken
  | call taken =>
    have frame := taken.frame
    refine fresh.silent frame.initType (fun stream atWriter => .inl ?_) fun o stream accepted => ?_
    · rw [← frame.writer]
      exact atWriter
    · rw [← frame.opens]
      exact accepted
  | closing taken =>
    have frame := taken.frame
    have writer : ∀ stream, after.writer = some stream → s.writer = some stream ∨
        ∃ o, (s.opens o).accepted = some stream := fun _ atWriter => .inl (taken.writer_kept atWriter)
    refine fresh.silent frame.initType writer fun o stream accepted => ?_
    rw [← frame.opens]
    exact accepted
  | network taken =>
    have frame := taken.frame
    have none : reported s action = none := by cases taken <;> rfl
    rw [reportStatus, none]
    refine fresh.silent frame.initType (fun stream atWriter => .inl ?_) fun o stream accepted => ?_
    · rw [← frame.writer]
      exact atWriter
    · rw [← frame.opens]
      exact accepted

end Steps

/-- Runs of a connection with the types that were received in them. -/
abbrev StatusReached (config : Config) (allowed : State → Action → Prop) (s : State) (statuses : Statuses) : Prop :=
  Reach (watch (step config) reportStatus) (fun state action => allowed state.1 action) (State.new, fun _ => none)
    (s, statuses)

theorem Fresh.of_reach {config : Config} {s : State} {statuses : Statuses}
    (reach : StatusReached config TypeKept s statuses) : Fresh s statuses := by
  refine reach.invariant (motive := fun watched => Fresh watched.1 watched.2) ⟨nofun, nofun⟩ ?_
  intro before action after previous fresh meets run
  obtain ⟨stepped, recorded⟩ := watch_eq_some run
  rw [recorded]
  exact fresh.step (.of_reach previous.forget) meets (.of_run stepped)

end Ruslock.Connection

namespace Ruslock.Replset
open Transition

variable {n : Nat}

/-- The types that were received from each node. -/
abbrev NodeStatuses (n : Nat) := Fin n → Connection.Statuses

def reportNodes (s : State n) (action : Action n) (after : State n) (statuses : NodeStatuses n) : NodeStatuses n :=
  match clientAction s action with
  | some (index, inner) =>
    Function.update statuses index
      (Connection.reportStatus (s.clients index) inner (after.clients index) (statuses index))
  | none => statuses

/-- No node's connection receives another type while it is in use. -/
def TypesKept (s : State n) (action : Action n) : Prop :=
  ∀ index inner, clientAction s action = some (index, inner) → Connection.TypeKept (s.clients index) inner

abbrev NodesReached (config : Config n) (allowed : State n → Action n → Prop) (s : State n)
    (statuses : NodeStatuses n) : Prop :=
  Reach (watch (step config) reportNodes) (fun state action => allowed state.1 action)
    (State.new n, fun _ _ => none) (s, statuses)

/-- The types received from a node are those received on its connection. -/
theorem statusReached {config : Config n} {s : State n} {statuses : NodeStatuses n} (index : Fin n)
    (reach : NodesReached config TypesKept s statuses) :
    Connection.StatusReached (config.client index) Connection.TypeKept (s.clients index) (statuses index) := by
  refine reach.simulate (fun watched => (watched.1.clients index, watched.2 index)) ?_
  rintro ⟨s, statuses⟩ action ⟨after, statuses'⟩ _ meets run
  obtain ⟨stepped, recorded⟩ := watch_eq_some run
  dsimp only at stepped recorded meets ⊢
  rw [recorded]
  unfold reportNodes
  rcases (Step.of_run stepped).clients with ⟨absent, same⟩ | @⟨moved, inner, client, atAction, inside, new⟩
  · rw [absent, same]
    exact .inl rfl
  · rw [atAction]
    by_cases here : index = moved
    · subst here
      refine .inr ⟨inner, meets index inner atAction, ?_⟩
      simp only [new, Function.update_self, watch, inside, Option.map_some]
    · refine .inl ?_
      simp only [new, Function.update_of_ne here]

/-- Where no connection in use receives another type, `init_type()` is the last
one that the current connection received, and `open` chooses the leader by the
last ones of the nodes' connections. -/
theorem latestStatus_of_typesKept {config : Connection.Config} {s : Connection.State} {statuses : Connection.Statuses}
    (reach : Connection.StatusReached config Connection.TypeKept s statuses) :
    s.Latest statuses ∧
    ∀ (n : Nat) (config : Config n) s statuses, NodesReached config TypesKept s statuses →
      ∀ u opened index after, s.opens u = .readInitType opened index →
        step config s (.opening u .readInitType) = some after → ∀ stream, (s.clients index).writer = some stream →
          ∃ status, statuses index stream = some status ∧ after.opens u = .attempt (opened.readLeader status) := by
  refine ⟨(Connection.Fresh.of_reach reach).latest, ?_⟩
  intro n config s statuses reach u opened index after atPc run stream atWriter
  refine ⟨_, (Connection.Fresh.of_reach (statusReached index reach)).latest stream atWriter, ?_⟩
  cases Step.of_run run with
  | opening taken =>
    cases taken with
    | readInitType atPc' =>
      cases atPc.symm.trans atPc'
      exact Function.update_self ..

/-- A node that becomes the leader after its handshake, and says so. -/
def promotedNode : List Connection.Action :=
  Connection.openActions 0 0 ++
    [.receive 0 (Connection.acceptance.set 20 initTypeFlagIsLeader).toList, .reader 0 .readHeader,
      .reader 0 .lockPending, .reader 0 .deliver]

/-- The reader receives the new type and stores nothing. -/
theorem promotedNode_not_latest :
    ¬ ∀ config (s : Connection.State) statuses, Connection.StatusReached config Always s statuses →
      s.Latest statuses := by
  intro claim
  have executed : (run (watch (Connection.step ⟨.blocking, ""⟩) Connection.reportStatus)
      (Connection.State.new, fun _ => none) promotedNode).any
      (fun watched => watched.1.writer = some 0 ∧ watched.2 0 ≠ some watched.1.initType) = true := by decide
  obtain ⟨⟨s, statuses⟩, reach, found⟩ := Reach.exists_of_run (runAllowed_always ..) executed
  obtain ⟨atWriter, stale⟩ : s.writer = some 0 ∧ statuses 0 ≠ some s.initType := of_decide_eq_true found
  exact stale (claim _ s statuses reach 0 atWriter)

/-- Steps that receive no type. -/
def typeless : Connection.Action → Bool
  | .opening _ .readInit => false
  | .reader _ .deliver => false
  | _ => true

theorem typeKept_of_typeless {s : Connection.State} {action : Connection.Action} (without : typeless action = true) :
    Connection.TypeKept s action := by
  intro stream initType received
  unfold Connection.reported at received
  split at received
  · cases without
  · cases without
  · cases received

def Action.typeless : Action n → Bool
  | .client _ action => Replset.typeless action
  | _ => true

theorem typesKept_of_typeless {s : State n} {action : Action n} (without : action.typeless = true) :
    TypesKept s action := by
  intro index inner atAction
  refine typeKept_of_typeless ?_
  cases ClientMove.of_clientAction atAction with
  | inside => exact without
  | _ => rfl

/-- The handshake with a node that is the leader. -/
def leaderHandshake : List Connection.Action :=
  (Connection.openActions 0 0).map fun
    | .receive stream _ => .receive stream (Connection.acceptance.set 20 initTypeFlagIsLeader).toList
    | action => action

/-- A node that is the leader is opened. -/
def openedLeader : List (Action 1) :=
  [.opening 0 .start, .opening 0 (.startOpen 0)] ++ leaderHandshake.tail.map (.client onlyNode) ++ [.opening 0 .opened]

def OpenPc.readsType : OpenPc n → Bool
  | .readInitType _ _ => true
  | _ => false

set_option maxRecDepth 2000 in
theorem leaderHandshake_reached : ∃ (s : Connection.State) (statuses : Connection.Statuses),
    Connection.StatusReached ⟨.blocking, ""⟩ Connection.TypeKept s statuses ∧ s.writer = some 0 ∧
      s.initType = initTypeFlagIsLeader := by
  have meets : RunAllowed (watch (Connection.step ⟨.blocking, ""⟩) Connection.reportStatus)
      (fun state action => Connection.TypeKept state.1 action) (Connection.State.new, fun _ => none)
      leaderHandshake := by
    repeat refine And.intro (typeKept_of_typeless rfl) ?_
    refine And.intro (fun _ _ _ _ => ⟨rfl, fun other apart => ?_⟩) ?_
    · cases other with
      | zero => exact absurd rfl apart
      | succ => rfl
    repeat refine And.intro (typeKept_of_typeless rfl) ?_
    trivial
  have executed : (run (watch (Connection.step ⟨.blocking, ""⟩) Connection.reportStatus)
      (Connection.State.new, fun _ => none) leaderHandshake).any
      (fun watched => watched.1.writer = some 0 ∧ watched.1.initType = initTypeFlagIsLeader) = true := by decide
  obtain ⟨⟨s, statuses⟩, reach, found⟩ := Reach.exists_of_run meets executed
  exact ⟨s, statuses, reach, of_decide_eq_true found⟩

set_option maxRecDepth 2000 in
theorem openedLeader_reached : ∃ (s : State 1) (statuses : NodeStatuses 1), NodesReached sole TypesKept s statuses ∧
    (s.clients onlyNode).writer = some 0 ∧ statuses onlyNode 0 = some initTypeFlagIsLeader ∧ (s.opens 0).readsType = true := by
  have meets : RunAllowed (watch (step sole) reportNodes) (fun state action => TypesKept state.1 action)
      (State.new 1, fun _ _ => none) openedLeader := by
    repeat refine And.intro (typesKept_of_typeless rfl) ?_
    refine And.intro (fun _ _ atAction => ?_) ?_
    · cases atAction
      refine fun _ _ _ _ => ⟨rfl, fun other apart => ?_⟩
      cases other with
      | zero => exact absurd rfl apart
      | succ => rfl
    repeat refine And.intro (typesKept_of_typeless rfl) ?_
    trivial
  have executed : (run (watch (step sole) reportNodes) (State.new 1, fun _ _ => none) openedLeader).any
      (fun watched => (watched.1.clients onlyNode).writer = some 0 ∧ watched.2 onlyNode 0 = some initTypeFlagIsLeader ∧
        (watched.1.opens 0).readsType = true) = true := by decide
  obtain ⟨⟨s, statuses⟩, reach, found⟩ := Reach.exists_of_run meets executed
  exact ⟨s, statuses, reach, of_decide_eq_true found⟩

theorem latestStatus_leader :
    (∃ (s : Connection.State) (statuses : Connection.Statuses), s.writer = some 0 ∧
      s.initType = initTypeFlagIsLeader ∧ s.Latest statuses) ∧
    ∃ (after : State 1) (statuses : NodeStatuses 1) (opened : Opened), statuses onlyNode 0 = some initTypeFlagIsLeader ∧
      after.opens 0 = .attempt (opened.readLeader initTypeFlagIsLeader) := by
  obtain ⟨_, _, reach, atWriter, stored⟩ := leaderHandshake_reached
  refine ⟨⟨_, _, atWriter, stored, (latestStatus_of_typesKept reach).1⟩, ?_⟩
  obtain ⟨s, statuses, nodes, atNode, received, reads⟩ := openedLeader_reached
  unfold OpenPc.readsType at reads
  split at reads
  · rename_i opened index atPc
    obtain rfl : index = onlyNode := Subsingleton.elim _ _
    obtain ⟨status, known, attempts⟩ := (latestStatus_of_typesKept reach).2 1 sole s statuses nodes 0 opened onlyNode
      (s.moveOpen 0 (.attempt (opened.readLeader (s.clients onlyNode).initType))) atPc (by simp only [step, stepOpen, atPc]) 0
      atNode
    cases received.symm.trans known
    exact ⟨_, statuses, opened, received, attempts⟩
  · cases reads

end Ruslock.Replset
