import Ruslock.SharedIds

namespace Ruslock
open Wire

/-- The ids of the commands that a program has got an answer for. -/
def sentIds (said : Dialogue.Transcript Effect.Answer) : List Id16 :=
  said.filterMap fun entry =>
    match entry.1 with
    | .send command => some command.requestId
    | _ => none

theorem mem_sentIds {said : Dialogue.Transcript Effect.Answer} {id : Id16} (member : id ∈ sentIds said) :
    ∃ command outcome, ⟨.send command, outcome⟩ ∈ said ∧ command.requestId = id := by
  obtain ⟨⟨effect, answer⟩, inside, same⟩ := List.mem_filterMap.mp member
  cases effect with
  | send command =>
    cases same
    exact ⟨command, answer, inside, rfl⟩
  | newId | defaultTimeoutFlags | defaultExpiredFlags => cases same

theorem sentIds_append (said later : Dialogue.Transcript Effect.Answer) :
    sentIds (said ++ later) = sentIds said ++ sentIds later := List.filterMap_append

namespace SharedClient
open Transition

section Runs

variable {service : Service} {α : Type} {promise : Promise service} {idCounter : UInt32} {s after : State service α}

/-- No answer is given twice to the programs that the threads run now, be it to one or to two of them. -/
structure Unrepeated (s : State service α) : Prop where
  senders : ∀ i j c command command' next next', s.threads i = .sending c command next →
    s.threads j = .sending c command' next' → i = j
  unheard : ∀ i c command next, s.threads i = .sending c command next → ∀ j, command.requestId ∉ sentIds (s.said j)
  nodup : ∀ i, (sentIds (s.said i)).Nodup
  disjoint : ∀ i j, i ≠ j → (sentIds (s.said i)).Disjoint (sentIds (s.said j))

theorem Unrepeated.new {origin : ThreadId → Program α} : Unrepeated (State.new idCounter origin : State service α) :=
  ⟨nofun, nofun, fun _ => List.nodup_nil, fun _ _ _ => List.disjoint_nil_left _⟩

/-- A thread that sends nothing and is told of no answer. -/
theorem Unrepeated.move (unrepeated : Unrepeated s) {i : ThreadId}
    (others : ∀ j ≠ i, after.threads j = s.threads j ∧ after.said j = s.said j)
    (silent : ∀ c command next, after.threads i ≠ .sending c command next)
    (fewer : sentIds (after.said i) = sentIds (s.said i) ∨ sentIds (after.said i) = []) : Unrepeated after := by
  have threads : ∀ j c command next, after.threads j = .sending c command next →
      s.threads j = .sending c command next := by
    intro j c command next atThread
    have apart : j ≠ i := by
      rintro rfl
      exact silent c command next atThread
    rw [← (others j apart).1]
    exact atThread
  have ids : ∀ j, sentIds (after.said j) = sentIds (s.said j) ∨ sentIds (after.said j) = [] := by
    intro j
    by_cases same : j = i
    · subst same
      exact fewer
    · rw [(others j same).2]
      exact .inl rfl
  have subset : ∀ j, sentIds (after.said j) ⊆ sentIds (s.said j) := by
    intro j
    rcases ids j with same | none
    · rw [same]
      exact List.Subset.refl _
    · rw [none]
      exact List.nil_subset _
  refine ⟨?_, ?_, fun j => ?_, fun j k apart => ?_⟩
  · intro j k c command command' next next' first second
    exact unrepeated.senders j k c command command' next next' (threads _ _ _ _ first) (threads _ _ _ _ second)
  · intro j c command next atThread k member
    exact unrepeated.unheard j c command next (threads _ _ _ _ atThread) k (subset k member)
  · rcases ids j with same | none
    · rw [same]
      exact unrepeated.nodup j
    · rw [none]
      exact List.nodup_nil
  · intro id first second
    exact unrepeated.disjoint j k apart (subset j first) (subset k second)

/-- A thread starts a call that nobody has made before. -/
theorem Unrepeated.send (unrepeated : Unrepeated s) (shared : Shared promise idCounter s) {i : ThreadId}
    {c : CallId} {command : Command} {next : Outcome CommandResult → Program α}
    (fresh : service.command s.client c = none)
    (unused : ∀ c earlier, service.command s.client c = some earlier → earlier.requestId ≠ command.requestId)
    (others : ∀ j ≠ i, after.threads j = s.threads j) (said : after.said = s.said)
    (atThread : after.threads i = .sending c command next) : Unrepeated after := by
  have elsewhere : ∀ j, j ≠ i → ∀ command' next', after.threads j ≠ .sending c command' next' := by
    intro j apart command' next' sending
    rw [others j apart] at sending
    have sound := shared.threads j
    rw [sending] at sound
    cases fresh.symm.trans sound.1
  refine ⟨?_, ?_, by rw [said]; exact unrepeated.nodup, by rw [said]; exact unrepeated.disjoint⟩
  · intro j k c' first second next' next'' atJ atK
    by_cases sameJ : j = i
    · subst sameJ
      cases atThread.symm.trans atJ
      by_contra apart
      exact elsewhere k (Ne.symm apart) _ _ atK
    · by_cases sameK : k = i
      · subst sameK
        cases atThread.symm.trans atK
        exact absurd atJ (elsewhere j sameJ _ _)
      · rw [others j sameJ] at atJ
        rw [others k sameK] at atK
        exact unrepeated.senders j k c' first second next' next'' atJ atK
  · intro j c' command' next' atJ k member
    rw [said] at member
    by_cases same : j = i
    · subst same
      cases atThread.symm.trans atJ
      obtain ⟨earlier, outcome, inside, id⟩ := mem_sentIds member
      obtain ⟨c'', known, _⟩ := shared.entries k earlier outcome inside
      exact unused c'' earlier known id
    · rw [others j same] at atJ
      exact unrepeated.unheard j c' command' next' atJ k member

/-- A thread is told of the answer to its call. -/
theorem Unrepeated.sent (unrepeated : Unrepeated s) (shared : Shared promise idCounter s)
    (window : s.counter.2.length ≤ 2 ^ 31) {i : ThreadId} {c : CallId} {command : Command}
    {next : Outcome CommandResult → Program α} (outcome : Outcome CommandResult)
    (atThread : s.threads i = .sending c command next) :
    Unrepeated (s.answer i ⟨.send command, outcome⟩ (next outcome) none) := by
  have here : sentIds ((s.answer i ⟨.send command, outcome⟩ (next outcome) none).said i) =
      sentIds (s.said i) ++ [command.requestId] := by
    simp only [State.answer, Function.update_self, sentIds_append]
    rfl
  have elsewhere : ∀ j ≠ i, (s.answer i ⟨.send command, outcome⟩ (next outcome) none).said j = s.said j :=
    fun j apart => Function.update_of_ne apart _ _
  have threads : ∀ j c' command' next',
      (s.answer i ⟨.send command, outcome⟩ (next outcome) none).threads j = .sending c' command' next' →
      j ≠ i ∧ s.threads j = .sending c' command' next' := by
    intro j c' command' next' sending
    by_cases same : j = i
    · subst same
      simp only [State.answer, Function.update_self] at sending
      cases sending
    · simp only [State.answer, Function.update_of_ne same] at sending
      exact ⟨same, sending⟩
  have known : ∀ j c' command' next', s.threads j = .sending c' command' next' →
      service.command s.client c' = some command' := by
    intro j c' command' next' sending
    have sound := shared.threads j
    rw [sending] at sound
    exact sound.1
  have unheard := unrepeated.unheard i c command next atThread
  refine ⟨?_, ?_, fun j => ?_, fun j k apart => ?_⟩
  · intro j k c' first second next' next'' atJ atK
    exact unrepeated.senders j k c' first second next' next'' (threads _ _ _ _ atJ).2 (threads _ _ _ _ atK).2
  · intro j c' command' next' sending k member
    obtain ⟨apart, before⟩ := threads _ _ _ _ sending
    by_cases same : k = i
    · subst same
      rw [here, List.mem_append, List.mem_singleton] at member
      rcases member with old | new
      · exact unrepeated.unheard j c' command' next' before k old
      · -- two calls whose commands have the same id are one, and only one thread waits for it
        obtain rfl := shared.call_unique window (known _ _ _ _ before) (known _ _ _ _ atThread) new
        exact apart (unrepeated.senders j k c' _ _ _ _ before atThread)
    · rw [elsewhere k same] at member
      exact unrepeated.unheard j c' command' next' before k member
  · by_cases same : j = i
    · subst same
      rw [here]
      exact List.nodup_append'.mpr
        ⟨unrepeated.nodup j, List.nodup_singleton _, List.disjoint_singleton.mpr (unheard j)⟩
    · rw [elsewhere j same]
      exact unrepeated.nodup j
  · by_cases sameJ : j = i
    · subst sameJ
      rw [here, elsewhere k (Ne.symm apart), List.disjoint_append_left, List.singleton_disjoint]
      exact ⟨unrepeated.disjoint j k apart, unheard k⟩
    · by_cases sameK : k = i
      · subst sameK
        rw [here, elsewhere j sameJ, List.disjoint_append_right, List.disjoint_singleton]
        exact ⟨unrepeated.disjoint j k apart, unheard j⟩
      · rw [elsewhere j sameJ, elsewhere k sameK]
        exact unrepeated.disjoint j k apart

theorem sentIds_answer (i : ThreadId) {entry : Σ effect : Effect, effect.Answer} {program : Program α}
    {drawn : Option Ticket} (silent : sentIds [entry] = []) :
    sentIds ((s.answer i entry program drawn).said i) = sentIds (s.said i) := by
  simp only [State.answer, Function.update_self, sentIds_append]
  rw [silent, List.append_nil]

theorem Unrepeated.step {action : Action service α} (lawful : service.Lawful) (unrepeated : Unrepeated s)
    (shared : Shared promise idCounter s) (permits : Permits promise s action) (taken : Step s action after) :
    Unrepeated after := by
  have running : ∀ (i : ThreadId) (program : Program α) drawn c command next,
      Function.update s.threads i (.running program drawn) i ≠ .sending c command next := by
    intro i program drawn c command next sending
    rw [Function.update_self] at sending
    cases sending
  -- the answer to a question that is not a command
  have answered : ∀ (i : ThreadId) (entry : Σ effect : Effect, effect.Answer) (program : Program α) drawn,
      sentIds [entry] = [] → Unrepeated (s.answer i entry program drawn) := by
    intro i entry program drawn silent
    refine unrepeated.move (i := i) (fun j apart => ?_) (running i program drawn) (.inl (sentIds_answer i silent))
    exact ⟨Function.update_of_ne apart _ _, Function.update_of_ne apart _ _⟩
  have same : after.threads = s.threads → after.said = s.said → Unrepeated after := by
    intro threads said
    constructor
    · rw [threads]; exact unrepeated.senders
    · rw [threads, said]; exact unrepeated.unheard
    · rw [said]; exact unrepeated.nodup
    · rw [said]; exact unrepeated.disjoint
  cases taken with
  | @begin i program _ =>
    refine unrepeated.move (i := i) (fun j apart => ?_) (running i program none) (.inr ?_)
    · exact ⟨Function.update_of_ne apart _ _, Function.update_of_ne apart _ _⟩
    · simp only [Function.update_self]
      rfl
  | @draw i ticket next _ _ _ _ =>
    refine unrepeated.move (i := i) (fun j apart => ⟨Function.update_of_ne apart _ _, rfl⟩) ?_ (.inl rfl)
    intro c command next' sending
    simp only [Function.update_self] at sending
    cases sending
  | drawn | timeoutFlags | expiredFlags => exact answered _ _ _ _ rfl
  | @send i c command next drawn client atThread run =>
    have sound := shared.threads i
    rw [atThread] at sound
    obtain ⟨ticket, _, owned, atId, _, _⟩ := sound.sends
    exact unrepeated.send shared (lawful.started shared.reached.always run).1 (shared.unused permits.window owned atId).1
      (fun j apart => Function.update_of_ne apart _ _) rfl (Function.update_self ..)
  | sent atThread _ => exact unrepeated.sent shared permits.window _ atThread
  | count | greet | identify | client => exact same rfl rfl

theorem Unrepeated.of_reach (lawful : service.Lawful) {origin : ThreadId → Program α}
    (reach : Reached promise idCounter origin s) : Unrepeated s :=
  reach.invariant .new fun _ _ _ previous unrepeated permits run =>
    unrepeated.step lawful (.of_reach lawful previous) permits (.of_run run)

/-- What every thread may rely on, whatever the others and the network do. -/
structure Accounted (s : State service α) : Prop where
  /-- A program that has ended has been run from its beginning, with the answers that were given. -/
  finished : ∀ i value drawn, s.threads i = .running (.done value) drawn →
    Dialogue.Talk (s.origin i) (s.said i) value
  /-- An answer is what a call for the command has returned, and bears its id. -/
  answered : ∀ i command outcome, ⟨.send command, outcome⟩ ∈ s.said i →
    ∃ c, service.command s.client c = some command ∧ service.returned s.client c = some outcome ∧
      ∀ result, outcome = .ok result → result.requestId = command.requestId
  /-- No answer is given twice to the programs that are run now. -/
  nodup : ∀ i, (sentIds (s.said i)).Nodup
  disjoint : ∀ i j, i ≠ j → (sentIds (s.said i)).Disjoint (sentIds (s.said j))

theorem Accounted.of_reach (lawful : service.Lawful) {origin : ThreadId → Program α}
    (reach : Reached promise idCounter origin s) : Accounted s := by
  have shared := Shared.of_reach lawful reach
  have unrepeated := Unrepeated.of_reach lawful reach
  refine ⟨?_, ?_, unrepeated.nodup, unrepeated.disjoint⟩
  · intro i value drawn atThread
    have reaches := shared.story i (.done value) (by rw [atThread]; rfl)
    have talk := reaches.talk .done
    rw [List.append_nil] at talk
    exact talk
  · intro i command outcome member
    obtain ⟨c, known, returned⟩ := shared.entries i command outcome member
    refine ⟨c, known, returned, ?_⟩
    rintro result rfl
    exact lawful.labelled shared.reached.always c command result known returned

/-- A step makes at most one id. -/
theorem Step.counter_length {action : Action service α} (taken : Step s action after) :
    after.counter.2.length ≤ s.counter.2.length + 1 := by
  cases taken with
  | @count action counter run =>
    rw [(watch_eq_some run).2]
    unfold IdCounter.record
    split
    · split
      · rw [List.length_append, List.length_singleton]
      · exact Nat.le_succ _
    · exact Nat.le_succ _
  | _ => exact Nat.le_succ _

def Action.begun : Action service α → Option (Program α)
  | .begin _ program => some program
  | _ => none

/-- In a run of at most `2 ^ 31` steps the counter does not go round. -/
theorem runAllowed_of_length {actions : List (Action service α)} (short : s.counter.2.length + actions.length ≤ 2 ^ 31)
    (stamped : ∀ program ∈ actions.filterMap Action.begun, Stamped program)
    (world : RunAllowed step (fun s action => ∀ inner, action = .client inner → promise s.client inner)
      s actions) :
    RunAllowed step (Permits promise) s actions := by
  induction actions generalizing s with
  | nil => trivial
  | cons action actions ih =>
    rw [List.length_cons] at short
    refine ⟨⟨?_, by omega, world.1⟩, ?_⟩
    · rintro i program rfl
      exact stamped program List.mem_cons_self
    · split
      · trivial
      · rename_i next stepped
        have later := world.2
        rw [stepped] at later
        have longer := (Step.of_run stepped).counter_length
        refine ih (by omega) (fun program member => ?_) later
        obtain ⟨begins, inside, same⟩ := List.mem_filterMap.mp member
        exact stamped program (List.mem_filterMap.mpr ⟨begins, List.mem_cons_of_mem _ inside, same⟩)

end Runs

end SharedClient

end Ruslock
