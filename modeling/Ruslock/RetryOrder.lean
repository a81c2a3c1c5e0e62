import Ruslock.RetryRounds

namespace Ruslock.Replset
open Transition Wire

variable {n : Nat}

/-- The outcome that a loop returns, or has returned. -/
def Loop.outcome : Loop n → Option (Outcome CommandResult)
  | .settling _ result => some (.ok result)
  | .finished outcome => some outcome
  | _ => none

/-- The newest attempt of a command has ended it. -/
def SendLog.DecidedBy (log : SendLog n) (index : Fin n) (outcome : Outcome CommandResult) : Prop :=
  ∃ current earlier, log.rounds = current :: earlier ∧ current.Decided index outcome

/-- The command was not made. -/
def SendLog.Rejected (log : SendLog n) (outcome : Outcome CommandResult) : Prop :=
  log = ⟨none, []⟩ ∧ ∃ err, outcome = .error err

/-- No node has ended the command: its last round has gone over all of them, and
either one was refused with a state error or the deadline had passed. -/
def SendLog.SpentBy (log : SendLog n) (outcome : Outcome CommandResult) : Prop :=
  ∃ createdAt original current earlier, log.created = some (createdAt, original) ∧
    log.rounds = current :: earlier ∧ current.Spent original.deadline outcome

/-- Nobody else calls the replset client. -/
def Alone (d : SendId) (_s : State n) : Action n → Prop
  | .send moved _ => moved = d
  | .client _ _ => True
  | .tick _ => True
  | .opening _ _ => False
  | .closing _ _ => False

/-- The rounds of a command whose replset client nobody else calls, which
had the active index `start` before. -/
structure Ordered (start : Option Nat) (s : State n) (d : SendId) (log : SendLog n) : Prop where
  active : ∀ round ∈ log.rounds, round.active = start
  cyclic : ∀ round ∈ log.rounds, Cyclic.InOrder n (start.getD 0) round.visited
  once : ∀ round ∈ log.rounds, round.visited.Nodup
  complete : ∀ round ∈ log.rounds, round.endedAt.isSome = true → ∀ index, index ∈ round.visited
  ended : ∀ round ∈ log.rounds.tail, round.endedAt.isSome = true
  stops : ∀ round ∈ log.rounds, ∀ attempt ∈ round.attempts, ∀ behaviour outcome,
    attempt.behaviour = some behaviour → behaviour.definite n = some outcome →
      log.rounds.head? = some round ∧ round.attempts.head? = some attempt ∧ round.endedAt = none ∧
        (s.sends d).loop.outcome = some outcome
  returns : ∀ outcome, (s.sends d).loop.outcome = some outcome →
    log.Rejected outcome ∨ (∃ index, log.DecidedBy index outcome) ∨ log.SpentBy outcome
  settled : ∀ index result, log.DecidedBy index (.ok result) → (s.sends d).loop = .finished (.ok result) →
    s.activeIndex = some index.val
  kept : s.activeIndex = start ∨ ∃ index result, log.DecidedBy index (.ok result) ∧
    (s.sends d).loop = .finished (.ok result) ∧ s.activeIndex = some index.val

/-- Where the active index stays, and where it is moved. -/
structure Solitary (start : Option Nat) (loop : Loop n) (active : Option Nat) (log : SendLog n) : Prop where
  rounds : ∀ round ∈ log.rounds, round.active = start
  index : active = start ∧ (∀ outcome, loop = .finished outcome → ∀ index result, ¬ log.DecidedBy index (.ok result)) ∨
    ∃ index result, log.DecidedBy index (.ok result) ∧ loop = .finished (.ok result) ∧ active = some index.val

theorem RoundLog.Decided.unique {round : RoundLog n} {index index' : Fin n} {outcome outcome' : Outcome CommandResult}
    (decided : round.Decided index outcome) (decided' : round.Decided index' outcome') :
    index = index' ∧ outcome = outcome' := by
  obtain ⟨attempt, _, atFirst, rfl, ⟨behaviour, answered, definite⟩, _⟩ := decided.newest
  obtain ⟨_, _, atSecond, rfl, ⟨_, answered', definite'⟩, _⟩ := decided'.newest
  cases atFirst.symm.trans atSecond
  cases answered.symm.trans answered'
  exact ⟨rfl, Option.some.inj (definite.symm.trans definite')⟩

theorem SendLog.DecidedBy.unique {log : SendLog n} {index index' : Fin n} {outcome outcome' : Outcome CommandResult}
    (decided : log.DecidedBy index outcome) (decided' : log.DecidedBy index' outcome') :
    index = index' ∧ outcome = outcome' := by
  obtain ⟨_, _, atFirst, decided⟩ := decided
  obtain ⟨_, _, atSecond, decided'⟩ := decided'
  cases atFirst.symm.trans atSecond
  exact decided.unique decided'

section Rounds

variable {original : PendingCommand} {loop : Loop n} {rounds : List (RoundLog n)} {round : RoundLog n}

/-- Every round of a command is in order. -/
theorem Retried.inOrder (retried : Retried original loop rounds) (member : round ∈ rounds) :
    round.Cyclic ∧ round.attempts.length ≤ n ∧ (round.endedAt.isSome = true → round.attempts.length = n) := by
  have before : ∀ {earlier : List (RoundLog n)}, (∀ round ∈ earlier, round.Repeated) → round ∈ earlier →
      round.Cyclic ∧ round.attempts.length ≤ n ∧ (round.endedAt.isSome = true → round.attempts.length = n) :=
    fun repeated member => ⟨(repeated round member).cyclic, (repeated round member).full.le,
      fun _ => (repeated round member).full⟩
  cases retried with
  | waiting _ _ repeated => exact before repeated member
  | trying repeated tells =>
    rcases List.mem_cons.mp member with rfl | earlier
    · exact ⟨tells.cyclic, tells.within, by rw [tells.running]; nofun⟩
    · exact before repeated earlier
  | contacting repeated tells room =>
    rcases List.mem_cons.mp member with rfl | earlier
    · exact ⟨tells.cyclic, room, nofun⟩
    · exact before repeated earlier
  | settling repeated decided | decided repeated decided =>
    rcases List.mem_cons.mp member with rfl | earlier
    · exact ⟨decided.cyclic, decided.within, by rw [decided.running]; nofun⟩
    · exact before repeated earlier
  | spent repeated spent =>
    rcases List.mem_cons.mp member with rfl | earlier
    · exact ⟨spent.cyclic, spent.full.le, fun _ => spent.full⟩
    · exact before repeated earlier

/-- All rounds but the newest have come to their end. -/
theorem Retried.earlier_ended (retried : Retried original loop rounds) (member : round ∈ rounds.tail) :
    round.endedAt.isSome = true := by
  cases retried with
  | waiting _ _ repeated => exact (repeated round (List.mem_of_mem_tail member)).ended
  | trying repeated | contacting repeated | settling repeated | decided repeated | spent repeated =>
    exact (repeated round member).ended

theorem Attempt.Passed.indefinite {attempt : Attempt n} {behaviour : Behaviour} {outcome : Outcome CommandResult}
    (passed : attempt.Passed) (answered : attempt.behaviour = some behaviour) :
    behaviour.definite n ≠ some outcome := by
  obtain ⟨_, same, indefinite⟩ := passed
  cases same.symm.trans answered
  rw [indefinite]
  nofun

/-- A definite answer is the last thing that happens to a command. -/
theorem Retried.definite (retried : Retried original loop rounds) {attempt : Attempt n} {behaviour : Behaviour}
    {outcome : Outcome CommandResult} (member : round ∈ rounds) (inside : attempt ∈ round.attempts)
    (answered : attempt.behaviour = some behaviour) (definite : behaviour.definite n = some outcome) :
    rounds.head? = some round ∧ round.attempts.head? = some attempt ∧ round.endedAt = none ∧
      loop.outcome = some outcome := by
  have before : ∀ {earlier : List (RoundLog n)}, (∀ round ∈ earlier, round.Repeated) → round ∉ earlier :=
    fun repeated member => ((repeated round member).passed attempt inside).indefinite answered definite
  have newest : ∀ {current earlier index final}, rounds = current :: earlier → current.Decided index final →
      loop.outcome = some final → (∀ round ∈ earlier, round.Repeated) →
        rounds.head? = some round ∧ round.attempts.head? = some attempt ∧ round.endedAt = none ∧
          loop.outcome = some outcome := by
    rintro current earlier index final rfl decided atOutcome repeated
    rcases List.mem_cons.mp member with rfl | old
    · obtain ⟨last, passed, atAttempts, _, ⟨_, final, definite'⟩, indefinite⟩ := decided.newest
      rw [atAttempts] at inside
      rcases List.mem_cons.mp inside with rfl | old
      · cases final.symm.trans answered
        cases definite'.symm.trans definite
        exact ⟨rfl, by rw [atAttempts]; rfl, decided.running, atOutcome⟩
      · exact absurd definite ((indefinite attempt old).indefinite answered)
    · exact absurd old (before repeated)
  cases retried with
  | waiting _ _ repeated => exact absurd member (before repeated)
  | trying repeated tells =>
    rcases List.mem_cons.mp member with rfl | old
    · exact absurd definite ((tells.passed attempt inside).indefinite answered)
    · exact absurd old (before repeated)
  | contacting repeated tells _ unanswered =>
    rcases List.mem_cons.mp member with rfl | old
    · rcases List.mem_cons.mp inside with rfl | earlier
      · cases unanswered.symm.trans answered
      · exact absurd definite ((tells.passed attempt earlier).indefinite answered)
    · exact absurd old (before repeated)
  | settling repeated decided | decided repeated decided => exact newest rfl decided rfl repeated
  | spent repeated spent =>
    rcases List.mem_cons.mp member with rfl | old
    · exact absurd definite ((spent.passed attempt inside).indefinite answered)
    · exact absurd old (before repeated)

end Rounds

section Solitary

variable {config : Config n} {s after : State n} {d : SendId} {log : SendLog n} {start : Option Nat}

theorem Retried.returns {createdAt : Instant} {original : PendingCommand} {loop : Loop n}
    (retried : Retried original loop log.rounds) (created : log.created = some (createdAt, original))
    {outcome : Outcome CommandResult} (atOutcome : loop.outcome = some outcome) :
    (∃ index, log.DecidedBy index outcome) ∨ log.SpentBy outcome := by
  generalize atRounds : log.rounds = rounds at retried
  cases retried with
  | waiting | trying | contacting => cases atOutcome
  | settling repeated decided | decided repeated decided =>
    cases atOutcome
    exact .inl ⟨_, _, _, atRounds, decided⟩
  | spent repeated spent =>
    cases atOutcome
    exact .inr ⟨_, _, _, _, created, atRounds, spent⟩

theorem Tracked.ordered (tracked : Tracked config s d log)
    (solitary : Solitary start (s.sends d).loop s.activeIndex log) : Ordered start s d log := by
  have settled : ∀ index result, log.DecidedBy index (.ok result) → (s.sends d).loop = .finished (.ok result) →
      s.activeIndex = some index.val := by
    intro index result decided finished
    rcases solitary.index with ⟨_, undecided⟩ | ⟨index', result', decided', _, atIndex⟩
    · exact absurd decided (undecided _ finished index result)
    · rw [(decided.unique decided').1]
      exact atIndex
  have kept : s.activeIndex = start ∨ ∃ index result, log.DecidedBy index (.ok result) ∧
      (s.sends d).loop = .finished (.ok result) ∧ s.activeIndex = some index.val :=
    solitary.index.imp_left And.left
  cases tracked with
  | outside atLoop =>
    refine ⟨List.forall_mem_nil _, List.forall_mem_nil _, List.forall_mem_nil _, List.forall_mem_nil _,
      List.forall_mem_nil _, List.forall_mem_nil _, fun outcome atOutcome => ?_, settled, kept⟩
    rw [atLoop] at atOutcome
    cases atOutcome
  | rejected atLoop =>
    refine ⟨List.forall_mem_nil _, List.forall_mem_nil _, List.forall_mem_nil _, List.forall_mem_nil _,
      List.forall_mem_nil _, List.forall_mem_nil _, fun outcome atOutcome => ?_, settled, kept⟩
    rw [atLoop] at atOutcome
    cases atOutcome
    exact .inl ⟨rfl, _, rfl⟩
  | created _ _ retried =>
    refine ⟨solitary.rounds, ?_, ?_, ?_, fun round => retried.earlier_ended, ?_, fun _ => .inr ∘ retried.returns rfl,
      settled, kept⟩
    · intro round member
      rw [← solitary.rounds round member]
      exact (retried.inOrder member).1
    · intro round member
      obtain ⟨cyclic, within, _⟩ := retried.inOrder member
      exact cyclic.nodup (round.visited_length ▸ within)
    · intro round member ended
      obtain ⟨cyclic, _, full⟩ := retried.inOrder member
      exact cyclic.mem_of_length (round.visited_length.trans (full ended))
    · exact fun round member attempt inside behaviour outcome => retried.definite member inside

theorem SendLog.record_rounds (log : SendLog n) (now : Instant) (event : Option (LoopEvent n)) :
    (event.elim log (log.record now)).rounds = event.elim log.rounds (recordRounds now log.rounds) := by
  cases event with
  | none => rfl
  | some event => cases event <;> rfl

theorem SendLog.record_active {now : Instant} {event : Option (LoopEvent n)}
    (same : ∀ round ∈ log.rounds, round.active = start)
    (begun : ∀ active, event = some (.begun active) → active = start) :
    ∀ round ∈ (event.elim log (log.record now)).rounds, round.active = start := by
  rw [SendLog.record_rounds]
  cases event with
  | none => exact same
  | some event =>
    cases event with
    | created => exact same
    | begun active => exact List.forall_mem_cons.mpr ⟨begun active rfl, same⟩
    | contacted | sent | behaved | ended => exact forall_mem_modifyHead same fun _ known => known

/-- A loop that is over after a definite Ok returns it. -/
theorem Retried.finished_eq {original : PendingCommand} {outcome : Outcome CommandResult} {index : Fin n}
    {result : CommandResult} (retried : Retried original (.finished outcome) log.rounds)
    (decided : log.DecidedBy index (.ok result)) : outcome = .ok result := by
  obtain ⟨current, earlier, atRounds, decided⟩ := decided
  rw [atRounds] at retried
  cases retried with
  | decided _ own => exact (own.unique decided).2
  | spent _ spent =>
    obtain ⟨now, ended, _⟩ := spent.ended
    cases decided.running.symm.trans ended

/-- A step of a loop that is not over leaves the active index alone, or moves
it to the node that has answered. -/
theorem Solitary.move {original : PendingCommand} {loop loop' : Loop n} {event : Option (LoopEvent n)}
    {active' : Option Nat} (solitary : Solitary start loop s.activeIndex log)
    (retried : Retried original loop log.rounds) (taken : LoopMove config s loop event loop' active') :
    Solitary start loop' active' (event.elim log (log.record s.now)) := by
  have later := retried.move taken
  rw [← SendLog.record_rounds] at later
  have before : (∀ outcome, loop ≠ .finished outcome) → s.activeIndex = start := by
    intro running
    rcases solitary.index with ⟨same, _⟩ | ⟨_, _, _, finished, _⟩
    · exact same
    · exact absurd finished (running _)
  cases taken with
  | stay => exact solitary
  | reject | create => cases retried
  | wake => exact ⟨solitary.rounds, .inl ⟨before (by rintro _ ⟨⟩), by rintro _ ⟨⟩⟩⟩
  | begin =>
    have same := before (by rintro _ ⟨⟩)
    refine ⟨SendLog.record_active solitary.rounds ?_, .inl ⟨same, by rintro _ ⟨⟩⟩⟩
    rintro _ ⟨⟩
    exact same
  | contact | send | unopened =>
    exact ⟨SendLog.record_active solitary.rounds (by rintro _ ⟨⟩), .inl ⟨before (by rintro _ ⟨⟩), by rintro _ ⟨⟩⟩⟩
  | @answered round index outcome =>
    refine ⟨SendLog.record_active solitary.rounds (by rintro _ ⟨⟩), .inl ⟨before (by rintro _ ⟨⟩), ?_⟩⟩
    rintro final finished index' result decided
    rw [finished] at later
    cases later.finished_eq decided
    -- a definite Ok is settled first
    cases outcome <;> simp only [answeredPc] at finished <;> split at finished <;> cases finished
  | finish =>
    refine ⟨SendLog.record_active solitary.rounds (by rintro _ ⟨⟩), .inl ⟨before (by rintro _ ⟨⟩), ?_⟩⟩
    rintro _ _ index result ⟨current, earlier, atRounds, decided⟩
    rw [SendLog.record_rounds] at atRounds
    cases atBefore : log.rounds with
    | nil =>
      rw [atBefore] at atRounds
      cases atRounds
    | cons =>
      rw [atBefore] at atRounds
      cases atRounds
      cases decided.running
  | @settle index result =>
    generalize atRounds : log.rounds = rounds at retried
    cases retried with
    | settling repeated decided => exact ⟨solitary.rounds, .inr ⟨index, result, ⟨_, _, atRounds, decided⟩, rfl, rfl⟩⟩

/-- A command without rounds has moved nothing. -/
theorem Solitary.of_empty {loop : Loop n} (empty : log.rounds = []) (same : s.activeIndex = start) :
    Solitary start loop s.activeIndex log := by
  refine ⟨by rw [empty]; exact List.forall_mem_nil _, .inl ⟨same, ?_⟩⟩
  rintro _ _ _ _ ⟨_, _, atRounds, _⟩
  cases empty.symm.trans atRounds

theorem Solitary.index_of_empty {loop : Loop n} (solitary : Solitary start loop s.activeIndex log)
    (empty : log.rounds = []) : s.activeIndex = start := by
  rcases solitary.index with ⟨same, _⟩ | ⟨_, _, ⟨_, _, atRounds, _⟩, _⟩
  · exact same
  · cases empty.symm.trans atRounds

theorem Solitary.step {action : Action n} (solitary : Solitary start (s.sends d).loop s.activeIndex log)
    (tracked : Tracked config s d log) (alone : Alone d s action) (taken : Step config s action after) :
    Solitary start (after.sends d).loop after.activeIndex (recordSend config d s action after log) := by
  cases taken with
  | opening | closing => exact alone.elim
  | client | tick => exact solitary
  | @send moved action _ taken =>
    cases (show moved = d from alone)
    have move := taken.loopMove
    rw [recordSend_own]
    cases tracked with
    | created _ _ retried => exact solitary.move retried move
    | outside atLoop | rejected atLoop =>
      have same := solitary.index_of_empty rfl
      rw [atLoop] at move
      generalize loopEvent config s d action = event at move ⊢
      generalize (after.sends d).loop = loop' at move ⊢
      generalize after.activeIndex = active at move ⊢
      cases move <;> exact .of_empty rfl same

end Solitary

/-- In a run in which nobody else calls the client its rounds are in order. -/
theorem Ordered.of_reach {config : Config n} {initial s : State n} {d : SendId} {log : SendLog n}
    (idle : initial.sends d = .idle) (reach : SendReached config d (Alone d) initial s log) :
    Ordered initial.activeIndex s d log := by
  have solitary : Solitary initial.activeIndex (s.sends d).loop s.activeIndex log := by
    refine Reach.invariant reach (motive := fun watched =>
      Solitary initial.activeIndex (watched.1.sends d).loop watched.1.activeIndex watched.2) (.of_empty rfl rfl) ?_
    intro before action after previous solitary alone run
    obtain ⟨stepped, recorded⟩ := watch_eq_some run
    rw [recorded]
    exact solitary.step (.of_reach idle previous) alone (.of_run stepped)
  exact (Tracked.of_reach idle reach).ordered solitary

/-- The nodes that an `open` remembers. -/
structure Opened.Bounded (n : Nat) (opened : Opened) : Prop where
  firstLive : ∀ index, opened.firstLive = some index → index < n
  leader : ∀ index, opened.leader = some index → index < n

def OpenPc.Bounded : OpenPc n → Prop
  | .attempt opened => opened.Bounded n
  | .opening opened index _ => opened.index = index.val ∧ opened.Bounded n
  | .readInitType opened index => opened.index = index.val ∧ opened.Bounded n
  | .setActive index => index < n
  | _ => True

/-- The active index names a node, and so does every index that is about to
become active. -/
structure Bounded (s : State n) : Prop where
  activeIndex : ∀ index, s.activeIndex = some index → index < n
  opens : ∀ u, (s.opens u).Bounded

theorem Opened.Bounded.next_ok {opened : Opened} (bounded : opened.Bounded n) {index : Fin n}
    (same : opened.index = index.val) : (opened.next (.ok ())).Bounded n := by
  refine ⟨?_, bounded.leader⟩
  rintro _ ⟨⟩
  cases atFirst : opened.firstLive with
  | none => exact same ▸ index.isLt
  | some first => exact bounded.firstLive first atFirst

theorem Opened.Bounded.readLeader {opened : Opened} (bounded : opened.Bounded n) {index : Fin n}
    (same : opened.index = index.val) (initType : UInt8) : (opened.readLeader initType).Bounded n := by
  refine ⟨bounded.firstLive, ?_⟩
  intro leader atLeader
  simp only [Opened.readLeader] at atLeader
  split at atLeader
  · cases atLeader
    exact same ▸ index.isLt
  · exact bounded.leader leader atLeader

theorem choosePc_bounded {opened : Opened} (bounded : opened.Bounded n) : (choosePc opened : OpenPc n).Bounded := by
  unfold choosePc
  split
  · rename_i index chosen
    rcases Option.or_eq_some_iff.mp chosen with leader | ⟨_, first⟩
    · exact bounded.leader index leader
    · exact bounded.firstLive index first
  · trivial

section Bounds

variable {config : Config n} {s after : State n}

theorem OpenStep.bounded {u : OpenId} {action : OpenAction} (taken : OpenStep config s u action after)
    (bounded : (s.opens u).Bounded) : (after.opens u).Bounded := by
  cases taken with
  | start =>
    simp only [State.moveOpen, Function.update_self]
    split
    · trivial
    · exact ⟨nofun, nofun⟩
  | startOpen _ atPc =>
    simp only [State.moveOpen, Function.update_self]
    rw [atPc] at bounded
    exact ⟨rfl, bounded⟩
  | opened atPc =>
    simp only [State.moveOpen, Function.update_self]
    rw [atPc] at bounded
    exact ⟨bounded.1, bounded.2.next_ok bounded.1⟩
  | unopened atPc =>
    simp only [State.moveOpen, Function.update_self]
    rw [atPc] at bounded
    exact ⟨bounded.2.firstLive, bounded.2.leader⟩
  | readInitType atPc =>
    simp only [State.moveOpen, Function.update_self]
    rw [atPc] at bounded
    exact bounded.2.readLeader bounded.1 _
  | choose atPc =>
    simp only [State.moveOpen, Function.update_self]
    rw [atPc] at bounded
    exact choosePc_bounded bounded
  | setActive =>
    simp only [State.moveOpen, Function.update_self]
    trivial

theorem OpenStep.others {u other : OpenId} {action : OpenAction} (taken : OpenStep config s u action after)
    (apart : other ≠ u) : after.opens other = s.opens other := by
  cases taken <;> exact Function.update_of_ne apart ..

theorem Bounded.step {action : Action n} (bounded : Bounded s) (taken : Step config s action after) :
    Bounded after := by
  cases taken with
  | client | tick => exact ⟨bounded.activeIndex, bounded.opens⟩
  | send taken =>
    cases taken with
    | setActive =>
      refine ⟨?_, bounded.opens⟩
      rintro _ ⟨⟩
      exact Fin.isLt _
    | _ => exact ⟨bounded.activeIndex, bounded.opens⟩
  | closing taken =>
    cases taken with
    | clearActive => exact ⟨nofun, bounded.opens⟩
    | _ => exact ⟨bounded.activeIndex, bounded.opens⟩
  | @opening u _ _ taken =>
    refine ⟨?_, fun other => ?_⟩
    · cases taken with
      | setActive atPc =>
        rintro _ ⟨⟩
        have own := bounded.opens u
        rw [atPc] at own
        exact own
      | _ => exact bounded.activeIndex
    · by_cases own : other = u
      · subst own
        exact taken.bounded (bounded.opens other)
      · rw [taken.others own]
        exact bounded.opens other

end Bounds

theorem Bounded.of_reach {config : Config n} {allowed : State n → Action n → Prop} {s : State n}
    (reach : Reached config allowed s) : Bounded s :=
  reach.invariant ⟨nofun, fun _ => trivial⟩ fun _ _ _ _ bounded _ run => bounded.step (.of_run run)

/-- Without concurrent callers a command goes round the nodes from the active
index, stops at the first definite answer and returns it; only a definite Ok
moves the active index, to the node that has given it. However callers
interleave, the active index names a node. -/
theorem retryOrder :
    (∀ (n : Nat) (config : Config n) initial s d log, initial.sends d = .idle →
      SendReached config d (Alone d) initial s log → Ordered initial.activeIndex s d log) ∧
    ∀ (n : Nat) (config : Config n) s, Reached config Always s → ∀ index, s.activeIndex = some index → index < n :=
  ⟨fun _ _ _ _ _ _ idle reach => .of_reach idle reach, fun _ _ _ reach => (Bounded.of_reach reach).activeIndex⟩

/-- The first node cannot be reached and the second one answers. -/
def secondAnswers : List (Action 2) :=
  beginActions 0 ⟨Block.ofNatLE 16 7⟩ ++ missNode 0 firstNode 0 ++ openNode 0 secondNode 0 0 ++
    writeNode 0 secondNode 0 ++ answerNode 0 secondNode 0 0 ⟨Block.ofNatLE 16 7⟩ commandResultSucced ++
    [.send 0 .setActive, .send 0 .remove]

set_option maxRecDepth 2000 in
theorem retryOrder_secondAnswers : ∃ (s : State 2) (log : SendLog 2),
    s.activeIndex = some 1 ∧ log.rounds.map RoundLog.visited = [[firstNode, secondNode]] ∧ Ordered none s 0 log := by
  have executed : (run (watch (step pair) (recordSend pair 0)) (State.new 2, ⟨none, []⟩) secondAnswers).any
      (fun watched => watched.1.activeIndex = some 1 ∧
        watched.2.rounds.map RoundLog.visited = [[firstNode, secondNode]]) = true := by decide
  have alone : ∀ action ∈ secondAnswers, ∀ s : State 2, Alone 0 s action := by
    intro action member s
    revert action
    simp [secondAnswers, beginActions, missNode, openNode, writeNode, answerNode, Connection.openActions,
      Connection.writeActions, Alone]
  obtain ⟨⟨s, log⟩, reach, found⟩ := Reach.exists_of_run (.of_forall (fun action member _ => alone action member _) _)
    executed
  obtain ⟨moved, visited⟩ : s.activeIndex = some 1 ∧ log.rounds.map RoundLog.visited = [[firstNode, secondNode]] :=
    of_decide_eq_true found
  exact ⟨s, log, moved, visited, retryOrder.1 2 pair (State.new 2) s 0 log rfl reach⟩

end Ruslock.Replset
