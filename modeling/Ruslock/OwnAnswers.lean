import Ruslock.ResponseMatching

namespace Ruslock.Connection
open Transition Wire

/-- Entries, messages and outcomes bear the ids of the commands of their calls,
also where several calls have commands of one id. -/
structure Labelled (s : State) : Prop where
  entries : ∀ id c, s.pending.lookup id = some c → ∃ command, s.command c = some command ∧ command.requestId = id
  answers : ∀ c message result, message ∈ s.channel c → message.result = .ok result → s.Answers c result
  returned : ∀ c result, s.calls c = .returned (.ok result) → s.Answers c result

section Steps

variable {config : Config} {s after : State} {action : Action}

theorem Labelled.quiet (labelled : Labelled s) (quiet : Quiet s after) (calls : after.calls = s.calls)
    (command : after.command = s.command) : Labelled after where
  entries := by rw [quiet.pending, command]; exact labelled.entries
  answers := by
    unfold State.Answers
    rw [quiet.channel, command]
    exact labelled.answers
  returned := by
    unfold State.Answers
    rw [calls, command]
    exact labelled.returned

/-- Whoever gets a completion is the owner of its entry. -/
theorem Labelled.completion {id : Id16} {owner : CallId} {message : Message} (labelled : Labelled s)
    (completion : Completion s after id owner message) (calls : after.calls = s.calls)
    (command : after.command = s.command) (bears : ∀ result, message.result = .ok result → result.requestId = id) :
    Labelled after where
  entries := by
    rw [command]
    exact fun id' c entry => labelled.entries id' c (completion.entry_before entry)
  answers := by
    unfold State.Answers
    rw [command]
    intro c told result member isOk
    rcases completion.received member with before | ⟨rfl, rfl⟩
    · exact labelled.answers c told result before isOk
    · obtain ⟨own, atOwn, ownId⟩ := labelled.entries id c completion.entry
      exact ⟨own, atOwn, (bears result isOk).trans ownId.symm⟩
  returned := by
    unfold State.Answers
    rw [calls, command]
    exact labelled.returned

theorem Labelled.callStep {c : CallId} {action : CallAction} (labelled : Labelled s) (commands : Commands s)
    (taken : CallStep config s c action after) : Labelled after := by
  have frame := taken.frame
  have answers : ∀ other result, s.Answers other result → after.Answers other result :=
    fun other result ⟨command, atCommand, same⟩ => ⟨command, commands.kept taken atCommand, same⟩
  refine ⟨?_, ?_, ?_⟩
  · intro id owner entry
    rcases taken.entry entry with before | ⟨encoded, atPc, _, rfl, rfl⟩
    · obtain ⟨command, atCommand, same⟩ := labelled.entries id owner before
      exact ⟨command, commands.kept taken atCommand, same⟩
    · obtain ⟨command, atCommand, encodes⟩ := commands.encoded owner encoded (by rw [atPc]; rfl)
      exact ⟨command, commands.kept taken atCommand, (Command.encode_requestId encodes).symm⟩
  · rw [frame.channel]
    exact fun other message result member isOk => answers other result (labelled.answers other message result member isOk)
  · intro other result returned
    by_cases same : other = c
    · subst same
      obtain ⟨_, message, member, isOk⟩ := taken.returned_ok returned
      exact answers other result (labelled.answers other message result member isOk)
    · rw [(frame.others other same).1] at returned
      exact answers other result (labelled.returned other result returned)

theorem Labelled.step (labelled : Labelled s) (commands : Commands s) (taken : Step config s action after) :
    Labelled after := by
  cases taken with
  | call taken => exact labelled.callStep commands taken
  | opening taken => exact labelled.quiet ⟨taken.frame.pending, taken.frame.channel⟩ taken.frame.calls taken.frame.command
  | network taken => exact labelled.quiet ⟨taken.frame.pending, taken.frame.channel⟩ taken.frame.calls taken.frame.command
  | closing taken =>
    rcases taken.completes with quiet | ⟨id, c, _, completion⟩
    · exact labelled.quiet quiet taken.frame.calls taken.frame.command
    · exact labelled.completion completion taken.frame.calls taken.frame.command nofun
  | reader taken =>
    rcases taken.completes with quiet | ⟨header, data, c, _, completion, _⟩ | ⟨failure, id, c, _, completion, _⟩
    · exact labelled.quiet quiet taken.frame.calls taken.frame.command
    · refine labelled.completion completion taken.frame.calls taken.frame.command ?_
      intro result isOk
      rw [responseRequestId_eq]
      exact decodeResponse_requestId isOk
    · exact labelled.completion completion taken.frame.calls taken.frame.command nofun

end Steps

theorem Labelled.new : Labelled State.new where
  entries id _ entry := by
    rw [show State.new.pending.lookup id = none from AList.lookup_empty id] at entry
    cases entry
  answers _ _ _ member := nomatch member
  returned _ _ atPc := nomatch atPc

theorem Labelled.of_reach {config : Config} {allowed : State → Action → Prop} {s : State}
    (reach : Reached config allowed s) : Labelled s :=
  reach.invariant .new fun _ _ _ previous labelled _ run => labelled.step (.of_reach previous) (.of_run run)

end Ruslock.Connection
