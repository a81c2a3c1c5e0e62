import Ruslock.ClientBackend

namespace Ruslock
open Wire

/-- The servers of a client answer what they are asked, each in its own way. -/
@[reducible] def ClientBackend.Fair (serves : Nat → Request → ResponseFrame → Prop) :
    (backend : ClientBackend) → SharedClient.Promise backend.service
  | .single _ => SharedClient.Fair (serves 0)
  | .replset _ => SharedClient.FairNodes fun index => serves index

/-- Every success that was told is the answer of a server to that very command. -/
def Served (serves : Nat → Request → ResponseFrame → Prop) (said : Dialogue.Transcript Effect.Answer) : Prop :=
  ∀ command result, ⟨.send command, .ok result⟩ ∈ said →
    ∃ server frame, serves server command.toRequest frame ∧ frame.result = result

namespace SharedClient
open Transition

variable {backend : ClientBackend} {serves : Nat → Request → ResponseFrame → Prop} {α : Type} {idCounter : UInt32}

theorem Shared.served_said {s : State backend.service α} (shared : Shared (backend.Fair serves) idCounter s)
    (echoes : ∀ server request frame, serves server request frame → frame.result.requestId = request.requestId)
    (i : ThreadId) : Served serves (s.said i) := by
  intro command result answered
  cases backend with
  | single config =>
    obtain ⟨frame, served, same⟩ := Shared.served shared (echoes 0) answered
    exact ⟨0, frame, served, same⟩
  | replset config =>
    obtain ⟨index, frame, served, same⟩ := Shared.servedNodes shared (fun index => echoes index) answered
    exact ⟨index, frame, served, same⟩

/-- A thread that builds an object and calls it again and again over a shared
client does so as if it were alone: what it is told falls into what its calls
are told, one after the other, every success is what some server has made of the
command, and no answer comes twice. -/
theorem calls_served {Call Self : Type} {perform : Call → Self → Program Self} {build : Program Self}
    {calls : List Call} {origin : ThreadId → Program Self} {s : State backend.service Self}
    (reach : Reached (backend.Fair serves) idCounter origin s)
    (echoes : ∀ server request frame, serves server request frame → frame.result.requestId = request.requestId)
    {i : ThreadId} {self : Self} {drawn : Option Ticket} (begun : s.origin i = build >>= Dialogue.session perform calls)
    (ended : s.threads i = .running (.done self) drawn) :
    ∃ birth start past, s.said i = birth ++ past.flatMap Prod.snd ∧ past.map Prod.fst = calls ∧
      Dialogue.Talk build birth start ∧ Dialogue.Calls perform start past self ∧ Served serves (s.said i) ∧
      (sentIds (s.said i)).Nodup := by
  have accounted := Accounted.of_reach backend.service_lawful reach
  have talk := accounted.finished i self drawn ended
  rw [begun] at talk
  obtain ⟨birth, start, later, whole, builds, session⟩ := Dialogue.talk_bind.mp talk
  obtain ⟨past, inOrder, rfl, run⟩ := Dialogue.calls_of_session session
  exact ⟨birth, start, past, whole, inOrder, builds, run,
    (Shared.of_reach backend.service_lawful reach).served_said echoes i, accounted.nodup i⟩

section Example

def Thread.ended : Thread α → Bool
  | .running (.done _) _ => true
  | _ => false

theorem Thread.ended_iff {thread : Thread α} :
    thread.ended = true ↔ ∃ value drawn, thread = .running (.done value) drawn := by
  constructor
  · intro ended
    unfold Thread.ended at ended
    split at ended
    · exact ⟨_, _, rfl⟩
    · cases ended
  · rintro ⟨_, _, rfl⟩
    rfl

set_option maxRecDepth 2000 in
theorem lockedOver_begun :
    (run step unlocked lockedOver).map (fun s => s.origin 0) = some lockSession := rfl

theorem calls_served_lockedOver : ∃ (start self : Primitive) (past : Primitive.Past), past.map Prod.fst = [.acquire] ∧
    Dialogue.Calls (Primitive.perform noDigest) start past self ∧ Served (fun _ => Grants) (past.flatMap Prod.snd) := by
  have executed : (run step unlocked lockedOver).any (fun s => (s.threads 0).ended) = true := by decide +kernel
  have meets : RunAllowed step (Permits ((ClientBackend.replset Replset.pair).Fair fun _ => Grants)) unlocked lockedOver :=
    runAllowed_of_length (by decide) (List.forall_mem_singleton.mpr lockSession_stamped) lockedOver_fair
  obtain ⟨s, final, ended⟩ := (Option.any_eq_true ..).mp executed
  have begun := lockedOver_begun
  rw [final] at begun
  obtain ⟨self, drawn, atEnd⟩ := Thread.ended_iff.mp ended
  have echoes : ∀ (_ : Nat) request frame, Grants request frame → frame.result.requestId = request.requestId := by
    rintro _ _ _ rfl
    rfl
  obtain ⟨birth, start, past, whole, inOrder, _, calls, served, _⟩ :=
    @calls_served (.replset Replset.pair) _ _ _ _ _ _ _ _ _ (Reach.of_run meets final) echoes _ _ _ (Option.some.inj begun)
      atEnd
  refine ⟨start, self, past, inOrder, calls, fun command result member => served command result ?_⟩
  rw [whole]
  exact List.mem_append_right _ member

end Example

end SharedClient

end Ruslock
