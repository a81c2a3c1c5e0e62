import Ruslock.SharedClient
import Ruslock.StampedPrograms

namespace Ruslock
open Wire

/-- A program that has just drawn an id: it sends the command that the id is
for, or goes on without it. -/
def Opened {α : Type} (id : Id16) (program : Program α) : Prop :=
  Stamped program ∨ ∃ command next, program = .ask (.send command) next ∧ command.requestId = id ∧ command.Announced ∧
    ∀ answer, Stamped (next answer)

section Stamped

variable {α : Type}

theorem Stamped.opened {next : Id16 → Program α} (stamped : Stamped (.ask .newId next)) (id : Id16) :
    Opened id (next id) := by
  cases stamped with
  | newId later => exact .inl (later id)
  | send stamps later => exact .inr ⟨_, _, rfl, (stamps id).1, (stamps id).2, later id⟩

theorem Stamped.not_send {command : Command} {next : Outcome CommandResult → Program α}
    (stamped : Stamped (.ask (.send command) next)) : False := nomatch stamped

theorem Opened.stamped {id : Id16} {program : Program α} (opened : Opened id program)
    (silent : ∀ command next, program ≠ .ask (.send command) next) : Stamped program := by
  rcases opened with stamped | ⟨command, next, same, _⟩
  · exact stamped
  · exact absurd same (silent command next)

end Stamped

/-- What a program has said so far, and what it goes on with. -/
inductive Reaches {α : Type} (program : Program α) : Dialogue.Transcript Effect.Answer → Program α → Prop
  | start : Reaches program [] program
  | answered {said question next} (answer : question.Answer) : Reaches program said (.ask question next) →
      Reaches program (said ++ [⟨question, answer⟩]) (next answer)

theorem Reaches.talk {α : Type} {program rest : Program α} {said later : Dialogue.Transcript Effect.Answer} {value : α}
    (reaches : Reaches program said rest) (talk : Dialogue.Talk rest later value) :
    Dialogue.Talk program (said ++ later) value := by
  induction reaches generalizing later with
  | start => exact talk
  | answered answer _ ih =>
    rw [List.append_assoc]
    exact ih (.ask talk)

namespace SharedClient
open Transition

/-- A thread is where a stamped program can be, and has the id that it needs. -/
def Thread.Sound {service : Service} {α : Type} (owner : Ticket → Option (Owner service)) (ids : Ticket → IdCounter.Pc)
    (commands : CallId → Option Command) (i : ThreadId) : Thread α → Prop
  | .idle => True
  | .running program none => Stamped program
  | .running program (some ticket) =>
    owner ticket = some (.thread i) ∧ ∃ id, ids ticket = .returned id ∧ Opened id program
  | .drawing ticket next => owner ticket = some (.thread i) ∧ ∀ id, Opened id (next id)
  | .sending c command next => commands c = some command ∧ ∀ answer, Stamped (next answer)

/-- The program that a thread goes on with once its question is answered. -/
def Thread.rest {α : Type} : Thread α → Option (Program α)
  | .idle => none
  | .running program _ => some program
  | .drawing _ next => some (.ask .newId next)
  | .sending _ command next => some (.ask (.send command) next)

section Sound

variable {service : Service} {α : Type} {owner owner' : Ticket → Option (Owner service)} {ids ids' : Ticket → IdCounter.Pc}
  {commands commands' : CallId → Option Command} {i : ThreadId} {thread : Thread α}

theorem Thread.Sound.mono (sound : thread.Sound owner ids commands i)
    (owned : ∀ ticket, owner ticket = some (.thread i) → owner' ticket = some (.thread i))
    (drawn : ∀ ticket id, ids ticket = .returned id → ids' ticket = .returned id)
    (sent : ∀ c command, commands c = some command → commands' c = some command) :
    thread.Sound owner' ids' commands' i := by
  cases thread with
  | idle => trivial
  | running program drawnId =>
    cases drawnId with
    | none => exact sound
    | some ticket =>
      obtain ⟨own, id, atId, opened⟩ := sound
      exact ⟨owned ticket own, id, drawn ticket id atId, opened⟩
  | drawing ticket next => exact ⟨owned ticket sound.1, sound.2⟩
  | sending c command next => exact ⟨sent c command sound.1, sound.2⟩

/-- A thread that asks for something other than a command is in a stamped program. -/
theorem Thread.Sound.stamped {program : Program α} {drawn : Option Ticket}
    (sound : (Thread.running program drawn).Sound owner ids commands i)
    (silent : ∀ command next, program ≠ .ask (.send command) next) : Stamped program := by
  cases drawn with
  | none => exact sound
  | some ticket =>
    obtain ⟨_, id, _, opened⟩ := sound
    exact opened.stamped silent

/-- A thread that is about to send a command has the id of the command. -/
theorem Thread.Sound.sends {command : Command} {next : Outcome CommandResult → Program α} {drawn : Option Ticket}
    (sound : (Thread.running (.ask (.send command) next) drawn).Sound owner ids commands i) :
    ∃ ticket, drawn = some ticket ∧ owner ticket = some (.thread i) ∧ ids ticket = .returned command.requestId ∧
      command.Announced ∧ ∀ answer, Stamped (next answer) := by
  cases drawn with
  | none => exact (Stamped.not_send sound).elim
  | some ticket =>
    obtain ⟨own, id, atId, stamped | ⟨other, later, same, stamp, announced, onward⟩⟩ := sound
    · exact (Stamped.not_send stamped).elim
    · cases same
      exact ⟨ticket, rfl, own, by rw [atId, stamp], announced, onward⟩

end Sound

section Counter

variable {s after : IdCounter.State} {action : IdCounter.Action}

/-- An id that was returned is not taken back. -/
theorem returned_kept (taken : IdCounter.Step s action after) {ticket : Ticket} {id : Id16}
    (returned : s.calls ticket = .returned id) : after.calls ticket = .returned id := by
  have kept : ∀ c pc, s.calls c ≠ .returned id → (s.move c pc).calls ticket = .returned id := by
    intro c pc busy
    have apart : ticket ≠ c := by
      rintro rfl
      exact busy returned
    exact (Function.update_of_ne apart _ _).trans returned
  cases taken with
  | readClock atPc | draw atPc | fetchAdd atPc => exact kept _ _ (by rw [atPc]; nofun)

/-- As long as the counter has not gone round, nobody else has the same id. -/
theorem ticket_unique {idCounter : UInt32} {generated : IdCounter.Generated}
    (counted : IdCounter.Counted ⟨idCounter, fun _ => .idle⟩ s generated) (window : generated.length ≤ 2 ^ 31)
    {ticket ticket' : Ticket} {id : Id16} (first : s.calls ticket = .returned id)
    (second : s.calls ticket' = .returned id) : ticket = ticket' := by
  have made : ∀ {ticket}, s.calls ticket = .returned id → (ticket, id) ∈ generated := by
    intro ticket returned
    exact ((counted.returned ticket id).mp returned).resolve_left nofun
  exact congrArg Prod.fst (List.inj_on_of_nodup_map (counted.nodup window) (made first) (made second) rfl)

end Counter

section Runs

variable {service : Service} {α : Type}

/-- What the surroundings of the client promise about its own steps. -/
abbrev Promise (service : Service) := service.State → service.Action → Prop

/-- The threads run stamped programs, and the counter does not go round. -/
structure Permits (promise : Promise service) (s : State service α) (action : Action service α) : Prop where
  stamped : ∀ i program, action = .begin i program → Stamped program
  window : s.counter.2.length ≤ 2 ^ 31
  world : ∀ inner, action = .client inner → promise s.client inner

/-- What the threads, the counter and the surroundings make of the steps of the
client: a command or a handshake comes with an id that nobody has used. -/
structure Inner (promise : Promise service) (s : service.State) (action : service.Action) : Prop where
  starts : ∀ c command, service.starts action = some (c, command) → command.Announced ∧
    (∀ c' earlier, service.command s c' = some earlier → earlier.requestId ≠ command.requestId) ∧
      ¬ service.Greets s command.requestId
  identifies : ∀ o id, service.identifies action = some (o, id) →
    ∀ c earlier, service.command s c = some earlier → earlier.requestId ≠ id
  world : service.alone action = true → promise s action

abbrev Reached (promise : Promise service) (idCounter : UInt32) (origin : ThreadId → Program α) (s : State service α) :
    Prop :=
  Reach step (Permits promise) (State.new idCounter origin) s

/-- How the ids, the calls and the threads hang together. -/
structure Shared (promise : Promise service) (idCounter : UInt32) (s : State service α) : Prop where
  counted : IdCounter.Counted ⟨idCounter, fun _ => .idle⟩ s.counter.1 s.counter.2
  reached : Reach service.step (Inner promise) service.initial s.client
  threads : ∀ i, (s.threads i).Sound s.owner s.counter.1.calls (service.command s.client) i
  commands : ∀ c command, service.command s.client c = some command →
    command.Announced ∧ ∃ ticket, s.owner ticket = some (.call c) ∧ s.counter.1.calls ticket = .returned command.requestId
  greetings : ∀ id, service.Greets s.client id →
    ∃ ticket o, s.owner ticket = some (.opening o) ∧ s.counter.1.calls ticket = .returned id
  story : ∀ i program, (s.threads i).rest = some program → Reaches (s.origin i) (s.said i) program
  entries : ∀ i command outcome, ⟨.send command, outcome⟩ ∈ s.said i →
    ∃ c, service.command s.client c = some command ∧ service.returned s.client c = some outcome

theorem Shared.new (lawful : service.Lawful) {promise : Promise service} {idCounter : UInt32}
    {origin : ThreadId → Program α} : Shared promise idCounter (State.new idCounter origin) where
  counted := ⟨rfl, Cyclic.inOrder_nil _ _, fun _ _ => (or_iff_left List.not_mem_nil).symm⟩
  reached := .start
  threads _ := trivial
  commands c _ known := by cases (lawful.uncommanded c).symm.trans known
  greetings id greets := absurd greets (lawful.ungreeted id)
  story _ _ atRest := nomatch atRest
  entries _ _ _ member := nomatch member

variable {promise : Promise service} {idCounter : UInt32} {s after : State service α}

/-- A thread that takes one step on its own. -/
theorem Shared.move (shared : Shared promise idCounter s) {i : ThreadId}
    (counter : after.counter = s.counter) (client : after.client = s.client)
    (owner : after.owner = s.owner)
    (others : ∀ j ≠ i, after.threads j = s.threads j ∧ after.origin j = s.origin j ∧ after.said j = s.said j)
    (sound : (after.threads i).Sound s.owner s.counter.1.calls (service.command s.client) i)
    (story : ∀ program, (after.threads i).rest = some program → Reaches (after.origin i) (after.said i) program)
    (entries : ∀ command outcome, ⟨.send command, outcome⟩ ∈ after.said i →
      ∃ c, service.command s.client c = some command ∧ service.returned s.client c = some outcome) :
    Shared promise idCounter after where
  counted := by rw [counter]; exact shared.counted
  reached := by rw [client]; exact shared.reached
  threads j := by
    rw [owner, counter, client]
    by_cases same : j = i
    · subst same
      exact sound
    · rw [(others j same).1]
      exact shared.threads j
  commands := by rw [owner, counter, client]; exact shared.commands
  greetings := by rw [owner, counter, client]; exact shared.greetings
  story j program atRest := by
    by_cases same : j = i
    · subst same
      exact story program atRest
    · obtain ⟨thread, origin, said⟩ := others j same
      rw [thread] at atRest
      rw [origin, said]
      exact shared.story j program atRest
  entries j command outcome member := by
    rw [client]
    by_cases same : j = i
    · subst same
      exact entries command outcome member
    · rw [(others j same).2.2] at member
      exact shared.entries j command outcome member

/-- A thread whose question is answered. -/
theorem Shared.answer (shared : Shared promise idCounter s) {i : ThreadId} {effect : Effect}
    {next : effect.Answer → Program α} (asked : (s.threads i).rest = some (.ask effect next))
    (answer : effect.Answer) (drawn : Option Ticket)
    (sound : (Thread.running (next answer) drawn).Sound s.owner s.counter.1.calls (service.command s.client) i)
    (entry : ∀ command outcome, (⟨effect, answer⟩ : Σ effect : Effect, effect.Answer) = ⟨.send command, outcome⟩ →
      ∃ c, service.command s.client c = some command ∧ service.returned s.client c = some outcome) :
    Shared promise idCounter (s.answer i ⟨effect, answer⟩ (next answer) drawn) := by
  refine shared.move (i := i) rfl rfl rfl (fun j apart => ?_) ?_ ?_ ?_
  · exact ⟨Function.update_of_ne apart _ _, rfl, Function.update_of_ne apart _ _⟩
  · simp only [State.answer, Function.update_self]
    exact sound
  · intro program atRest
    simp only [State.answer, Function.update_self] at atRest ⊢
    cases atRest
    exact .answered answer (shared.story i _ asked)
  · intro command outcome member
    simp only [State.answer, Function.update_self] at member
    rcases List.mem_append.mp member with before | new
    · exact shared.entries i command outcome before
    · exact entry command outcome (List.mem_singleton.mp new).symm

theorem Effect.entry_apart {effect : Effect} {answer : effect.Answer} {command : Command} {outcome : Outcome CommandResult}
    (apart : effect ≠ .send command) :
    (⟨effect, answer⟩ : Σ effect : Effect, effect.Answer) ≠ ⟨.send command, outcome⟩ :=
  fun same => apart (congrArg Sigma.fst same)

/-- An id of nobody, or of a thread that has nothing to do with it any more,
gets another owner. -/
theorem Shared.own (shared : Shared promise idCounter s) {ticket : Ticket} (owner : Owner service)
    (free : s.owner ticket = none ∨ ∃ i, s.owner ticket = some (.thread i) ∧ s.threads i = .idle) :
    Shared promise idCounter { s with owner := Function.update s.owner ticket (some owner) } := by
  have others : ∀ ticket' other, s.owner ticket' = some other → (∀ i, other = .thread i → s.threads i ≠ .idle) →
      Function.update s.owner ticket (some owner) ticket' = some other := by
    intro ticket' other owned busy
    have apart : ticket' ≠ ticket := by
      rintro rfl
      rcases free with none | ⟨i, thread, idle⟩
      · cases none.symm.trans owned
      · cases thread.symm.trans owned
        exact busy i rfl idle
    rw [Function.update_of_ne apart, owned]
  refine ⟨shared.counted, shared.reached, fun i => ?_, ?_, ?_, shared.story, shared.entries⟩
  · by_cases idle : s.threads i = .idle
    · rw [idle]
      trivial
    · refine (shared.threads i).mono (fun ticket' owned => others ticket' _ owned ?_) (fun _ _ => id) fun _ _ => id
      rintro _ ⟨⟩
      exact idle
  · intro c command known
    obtain ⟨announced, ticket', owned, drawn⟩ := shared.commands c command known
    exact ⟨announced, ticket', others ticket' _ owned nofun, drawn⟩
  · intro id greets
    obtain ⟨ticket', o, owned, drawn⟩ := shared.greetings id greets
    exact ⟨ticket', o, others ticket' _ owned nofun, drawn⟩

theorem Shared.count (shared : Shared promise idCounter s) {action : IdCounter.Action}
    {counter : IdCounter.State × IdCounter.Generated}
    (run : watch IdCounter.step IdCounter.record s.counter action = some counter) :
    Shared promise idCounter { s with counter := counter } := by
  obtain ⟨stepped, recorded⟩ := watch_eq_some run
  have taken := IdCounter.Step.of_run stepped
  have kept : ∀ ticket id, s.counter.1.calls ticket = .returned id → counter.1.calls ticket = .returned id :=
    fun _ _ => returned_kept taken
  refine ⟨?_, shared.reached, fun i => (shared.threads i).mono (fun _ => id) kept fun _ _ => id, ?_, ?_, shared.story,
    shared.entries⟩
  · dsimp only
    rw [recorded]
    exact taken.counted shared.counted
  · intro c command known
    obtain ⟨announced, ticket, owned, drawn⟩ := shared.commands c command known
    exact ⟨announced, ticket, owned, kept ticket _ drawn⟩
  · intro id greets
    obtain ⟨ticket, o, owned, drawn⟩ := shared.greetings id greets
    exact ⟨ticket, o, owned, kept ticket _ drawn⟩

/-- A step of the client: whatever it starts or identifies has its id. -/
theorem Shared.serve (lawful : service.Lawful) (shared : Shared promise idCounter s) {action : service.Action}
    {client : service.State} (run : service.step s.client action = some client) (inner : Inner promise s.client action)
    (starts : ∀ c command, service.starts action = some (c, command) → command.Announced ∧
      ∃ ticket, s.owner ticket = some (.call c) ∧ s.counter.1.calls ticket = .returned command.requestId)
    (identifies : ∀ o id, service.identifies action = some (o, id) →
      ∃ ticket, s.owner ticket = some (.opening o) ∧ s.counter.1.calls ticket = .returned id) :
    Shared promise idCounter { s with client := client } := by
  have onward := lawful.onward shared.reached.always run
  refine ⟨shared.counted, shared.reached.next inner run,
    fun i => (shared.threads i).mono (fun _ => id) (fun _ _ => id) onward, ?_, ?_, shared.story, ?_⟩
  · intro c command known
    rcases lawful.commanded run c command known with before | started
    · exact shared.commands c command before
    · exact starts c command started
  · intro id greets
    rcases lawful.greets run id greets with before | ⟨o, identified⟩
    · exact shared.greetings id before
    · obtain ⟨ticket, owned, drawn⟩ := identifies o id identified
      exact ⟨ticket, o, owned, drawn⟩
  · intro i command outcome member
    obtain ⟨c, known, returned⟩ := shared.entries i command outcome member
    exact ⟨c, onward c command known, lawful.returned_kept run c outcome returned⟩

/-- No two calls are made with commands of the same id. -/
theorem Shared.call_unique (shared : Shared promise idCounter s) (window : s.counter.2.length ≤ 2 ^ 31)
    {c c' : CallId} {command command' : Command} (known : service.command s.client c = some command)
    (known' : service.command s.client c' = some command') (same : command.requestId = command'.requestId) : c = c' := by
  obtain ⟨_, ticket, owned, drawn⟩ := shared.commands c command known
  obtain ⟨_, ticket', owned', drawn'⟩ := shared.commands c' command' known'
  rw [same] at drawn
  rw [ticket_unique shared.counted window drawn drawn', owned'] at owned
  cases owned
  rfl

/-- Nobody has used the id of a command that a thread is about to send. -/
theorem Shared.unused (shared : Shared promise idCounter s) (window : s.counter.2.length ≤ 2 ^ 31) {i : ThreadId}
    {command : Command} {ticket : Ticket} (owned : s.owner ticket = some (.thread i))
    (atId : s.counter.1.calls ticket = .returned command.requestId) :
    (∀ c earlier, service.command s.client c = some earlier → earlier.requestId ≠ command.requestId) ∧
      ¬ service.Greets s.client command.requestId := by
  have apart : ∀ {ticket'}, s.counter.1.calls ticket' = .returned command.requestId →
      s.owner ticket' = some (.thread i) := by
    intro ticket' atId'
    rw [ticket_unique shared.counted window atId' atId]
    exact owned
  constructor
  · intro c earlier known same
    obtain ⟨_, ticket', called, drawn⟩ := shared.commands c earlier known
    rw [same] at drawn
    cases called.symm.trans (apart drawn)
  · intro greets
    obtain ⟨ticket', o, opening, drawn⟩ := shared.greetings _ greets
    cases opening.symm.trans (apart drawn)

/-- A thread that sends a command brings the id that it has drawn for it. -/
theorem Shared.send (lawful : service.Lawful) (shared : Shared promise idCounter s)
    (window : s.counter.2.length ≤ 2 ^ 31) {i : ThreadId} {c : CallId} {command : Command}
    {next : Outcome CommandResult → Program α} {drawn : Option Ticket} {client : service.State}
    (atThread : s.threads i = .running (.ask (.send command) next) drawn)
    (run : service.step s.client (service.start c command) = some client) :
    Shared promise idCounter
      { s with
        client := client
        threads := Function.update s.threads i (.sending c command next)
        owner := s.handOver c drawn } := by
  have sound := shared.threads i
  rw [atThread] at sound
  obtain ⟨ticket, rfl, owned, atId, announced, onward⟩ := sound.sends
  have notAlone : service.alone (service.start c command) = false := by
    rw [Service.alone, lawful.starts_start]
    rfl
  have inner : Inner promise s.client (service.start c command) := by
    refine ⟨?_, ?_, ?_⟩
    · intro _ _ started
      cases (lawful.starts_start c command).symm.trans started
      exact ⟨announced, shared.unused window owned atId⟩
    · intro _ _ identified
      cases (lawful.identifies_start c command).symm.trans identified
    · intro isAlone
      cases notAlone.symm.trans isAlone
  -- the thread lets go of the id, the call takes it, and the client starts the call
  have resting : Shared promise idCounter { s with threads := Function.update s.threads i .idle } := by
    refine shared.move (i := i) rfl rfl rfl (fun j apart => ⟨Function.update_of_ne apart _ _, rfl, rfl⟩) ?_ ?_ ?_
    · simp only [Function.update_self]
      trivial
    · intro program atRest
      simp only [Function.update_self] at atRest
      cases atRest
    · exact shared.entries i
  have handed := resting.own (.call c) (.inr ⟨i, owned, Function.update_self ..⟩)
  have started := handed.serve lawful run inner
    (by intro _ _ starts
        cases (lawful.starts_start c command).symm.trans starts
        exact ⟨announced, ticket, Function.update_self .., atId⟩)
    (by intro _ _ identified
        cases (lawful.identifies_start c command).symm.trans identified)
  refine started.move (i := i) rfl rfl rfl (fun j apart => ⟨?_, rfl, rfl⟩) ?_ ?_ ?_
  · simp only [Function.update_of_ne apart]
  · simp only [Function.update_self]
    exact ⟨(lawful.started shared.reached.always run).2, onward⟩
  · intro program atRest
    simp only [Function.update_self] at atRest
    cases atRest
    exact shared.story i _ (by rw [atThread]; rfl)
  · exact started.entries i

theorem Service.of_alone {action : service.Action} (isAlone : service.alone action = true) :
    service.starts action = none ∧ service.identifies action = none := by
  obtain ⟨starts, identifies⟩ := (Bool.and_eq_true ..).mp isAlone
  exact ⟨Option.isNone_iff_eq_none.mp starts, Option.isNone_iff_eq_none.mp identifies⟩

/-- A step of the client that takes no id. -/
theorem Shared.serveAlone (lawful : service.Lawful) (shared : Shared promise idCounter s) {action : service.Action}
    {client : service.State} (isAlone : service.alone action = true) (world : promise s.client action)
    (run : service.step s.client action = some client) : Shared promise idCounter { s with client := client } := by
  obtain ⟨starts, identifies⟩ := Service.of_alone isAlone
  refine shared.serve lawful run ⟨?_, ?_, fun _ => world⟩ ?_ ?_
  · intro _ _ started
    cases starts.symm.trans started
  · intro _ _ identified
    cases identifies.symm.trans identified
  · intro _ _ started
    cases starts.symm.trans started
  · intro _ _ identified
    cases identifies.symm.trans identified

/-- A handshake is written under the id that was drawn for it. -/
theorem Shared.identify (lawful : service.Lawful) (shared : Shared promise idCounter s)
    (window : s.counter.2.length ≤ 2 ^ 31) {o : service.Opening} {ticket : Ticket} {requestId fresh : Id16}
    {client : service.State} (atId : s.counter.1.calls ticket = .returned requestId)
    (owned : s.owner ticket = some (.opening o))
    (run : service.step s.client (service.identify o requestId fresh) = some client) :
    Shared promise idCounter { s with client := client } := by
  have starts := lawful.starts_identify o requestId fresh
  have identifies := lawful.identifies_identify o requestId fresh
  have notAlone : service.alone (service.identify o requestId fresh) = false := by
    rw [Service.alone, identifies]
    exact Bool.and_false _
  refine shared.serve lawful run ⟨?_, ?_, ?_⟩ ?_ ?_
  · intro _ _ started
    cases starts.symm.trans started
  · intro _ _ identified c earlier known same
    cases identifies.symm.trans identified
    obtain ⟨_, ticket', called, drawn⟩ := shared.commands c earlier known
    rw [same] at drawn
    rw [ticket_unique shared.counted window drawn atId] at called
    cases called.symm.trans owned
  · intro isAlone
    cases notAlone.symm.trans isAlone
  · intro _ _ started
    cases starts.symm.trans started
  · intro _ _ identified
    cases identifies.symm.trans identified
    exact ⟨ticket, owned, atId⟩

theorem Shared.step {action : Action service α} (lawful : service.Lawful) (shared : Shared promise idCounter s)
    (permits : Permits promise s action) (taken : Step s action after) : Shared promise idCounter after := by
  cases taken with
  | @begin i program _ =>
    refine shared.move (i := i) rfl rfl rfl (fun j apart => ?_) ?_ ?_ ?_
    · exact ⟨Function.update_of_ne apart _ _, Function.update_of_ne apart _ _, Function.update_of_ne apart _ _⟩
    · simp only [Function.update_self]
      exact permits.stamped i program rfl
    · intro rest atRest
      simp only [Function.update_self] at atRest ⊢
      cases atRest
      exact .start
    · intro command outcome member
      simp only [Function.update_self] at member
      cases member
  | @draw i ticket next drawn atThread unowned _ =>
    have stamped : Stamped (.ask .newId next) := by
      have sound := shared.threads i
      rw [atThread] at sound
      exact sound.stamped nofun
    refine (shared.own (.thread i) (.inl unowned)).move (i := i) rfl rfl rfl (fun j apart => ?_) ?_ ?_ ?_
    · exact ⟨Function.update_of_ne apart _ _, rfl, rfl⟩
    · simp only [Function.update_self]
      exact ⟨Function.update_self .., stamped.opened⟩
    · intro rest atRest
      simp only [Function.update_self] at atRest
      cases atRest
      exact shared.story i _ (by rw [atThread]; rfl)
    · exact shared.entries i
  | @drawn i ticket next id atThread atId =>
    have sound := shared.threads i
    rw [atThread] at sound
    have asked : (s.threads i).rest = some (.ask .newId next) := by rw [atThread]; rfl
    exact shared.answer asked id _ ⟨sound.1, id, atId, sound.2 id⟩ fun _ _ same => absurd same (Effect.entry_apart nofun)
  | @timeoutFlags i value next drawn atThread =>
    have sound := shared.threads i
    rw [atThread] at sound
    have asked : (s.threads i).rest = some (.ask .defaultTimeoutFlags next) := by rw [atThread]; rfl
    cases sound.stamped nofun with
    | timeoutFlags later => exact shared.answer asked value none (later value) fun _ _ same => absurd same (Effect.entry_apart nofun)
  | @expiredFlags i value next drawn atThread =>
    have sound := shared.threads i
    rw [atThread] at sound
    have asked : (s.threads i).rest = some (.ask .defaultExpiredFlags next) := by rw [atThread]; rfl
    cases sound.stamped nofun with
    | expiredFlags later => exact shared.answer asked value none (later value) fun _ _ same => absurd same (Effect.entry_apart nofun)
  | send atThread run => exact shared.send lawful permits.window atThread run
  | @sent i c command next outcome atThread returned =>
    have sound := shared.threads i
    rw [atThread] at sound
    have asked : (s.threads i).rest = some (.ask (.send command) next) := by rw [atThread]; rfl
    refine shared.answer asked outcome none (sound.2 outcome) ?_
    rintro _ _ ⟨⟩
    exact ⟨c, sound.1, returned⟩
  | count run => exact shared.count run
  | greet unowned _ => exact shared.own _ (.inl unowned)
  | identify atId owned run => exact shared.identify lawful permits.window atId owned run
  | client isAlone run => exact shared.serveAlone lawful isAlone (permits.world _ rfl) run

theorem Shared.of_reach (lawful : service.Lawful) {origin : ThreadId → Program α}
    (reach : Reached promise idCounter origin s) : Shared promise idCounter s :=
  reach.invariant (.new lawful) fun _ _ _ _ shared permits run => shared.step lawful permits (.of_run run)

end Runs

end SharedClient

end Ruslock
