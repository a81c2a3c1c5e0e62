import Ruslock.ConnectionPending

namespace Ruslock.Connection
open Transition Wire

/-- A new call brings a request id that no earlier call has used. -/
def FreshIds (s : State) : Action → Prop
  | .call _ (.start command) => ∀ c earlier, s.command c = some earlier → earlier.requestId ≠ command.requestId
  | _ => True

/-- The result belongs to the command of the call. -/
def State.Answers (s : State) (c : CallId) (result : CommandResult) : Prop :=
  ∃ command, s.command c = some command ∧ result.requestId = command.requestId

/-- How map entries, channels and the places of the calls hang together. -/
structure Matching (s : State) : Prop where
  distinct : ∀ c c' command command', s.command c = some command → s.command c' = some command' →
    command.requestId = command'.requestId → c = c'
  registered : ∀ id c, s.pending.lookup id = some c → (s.calls c).registered = true ∧ s.channel c = [] ∧
    ∃ command, s.command c = some command ∧ command.requestId = id
  unregistered : ∀ c, (s.calls c).fresh = true → s.channel c = []
  single : ∀ c, (s.channel c).length ≤ 1
  answers : ∀ c message result, message ∈ s.channel c → message.result = .ok result → s.Answers c result
  returned : ∀ c result, s.calls c = .returned (.ok result) → s.Answers c result
  counted : ∀ c message r n, message ∈ s.channel c → message.origin = .response r n → n < (s.decoded r).length
  handed : ∀ c c' message message' r n, message ∈ s.channel c → message' ∈ s.channel c' →
    message.origin = .response r n → message'.origin = .response r n → c = c'

theorem Matching.new : Matching State.new where
  distinct _ _ _ _ at' := nomatch at'
  registered id _ entry := by
    rw [show State.new.pending.lookup id = none from AList.lookup_empty id] at entry
    cases entry
  unregistered _ _ := rfl
  single _ := Nat.zero_le _
  answers _ _ _ member := nomatch member
  returned _ _ at' := nomatch at'
  counted _ _ _ _ member := nomatch member
  handed _ _ _ _ _ _ member := nomatch member

/-- The entry of a call is under the id it has encoded. -/
theorem Matching.entry_id {s : State} {id : Id16} {c : CallId} {encoded : EncodedCommand} (matching : Matching s)
    (commands : Commands s) (entry : s.pending.lookup id = some c) (at' : (s.calls c).encoded = some encoded) :
    encoded.requestId = id := by
  obtain ⟨_, _, command, atCommand, same⟩ := matching.registered id c entry
  obtain ⟨command', atCommand', encodes⟩ := commands.encoded c encoded at'
  cases atCommand.symm.trans atCommand'
  rw [← same]
  exact Command.encode_requestId encodes

theorem Matching.entry_unique {s : State} {id id' : Id16} {c : CallId} (matching : Matching s)
    (first : s.pending.lookup id = some c) (second : s.pending.lookup id' = some c) : id = id' := by
  obtain ⟨_, _, command, atCommand, same⟩ := matching.registered id c first
  obtain ⟨_, _, command', atCommand', same'⟩ := matching.registered id' c second
  cases atCommand.symm.trans atCommand'
  exact same.symm.trans same'

/-- A step that keeps the calls and tells nobody anything. -/
theorem Matching.quiet {s after : State} (matching : Matching s) (quiet : Quiet s after)
    (calls : after.calls = s.calls) (command : after.command = s.command)
    (decoded : ∀ r, (s.decoded r).length ≤ (after.decoded r).length) : Matching after where
  distinct := by rw [command]; exact matching.distinct
  registered := by rw [quiet.pending, quiet.channel, calls, command]; exact matching.registered
  unregistered := by rw [calls, quiet.channel]; exact matching.unregistered
  single := by rw [quiet.channel]; exact matching.single
  answers := by
    unfold State.Answers
    rw [quiet.channel, command]
    exact matching.answers
  returned := by
    unfold State.Answers
    rw [calls, command]
    exact matching.returned
  counted := by
    rw [quiet.channel]
    exact fun c message r n member origin => (matching.counted c message r n member origin).trans_le (decoded r)
  handed := by rw [quiet.channel]; exact matching.handed

/-- A step that hands one completion to the owner of an entry: the owner was
still empty-handed, and the result bears the id of the entry. -/
theorem Matching.completion {s after : State} {id : Id16} {owner : CallId} {message : Message}
    (matching : Matching s) (completion : Completion s after id owner message)
    (calls : after.calls = s.calls) (command : after.command = s.command)
    (decoded : ∀ r, (s.decoded r).length ≤ (after.decoded r).length)
    (bears : ∀ result, message.result = .ok result → result.requestId = id)
    (last : ∀ r n, message.origin = .response r n → n = (s.decoded r).length ∧ n < (after.decoded r).length) :
    Matching after := by
  obtain ⟨inside, empty, own, atOwn, ownId⟩ := matching.registered id owner completion.entry
  constructor
  · rw [command]; exact matching.distinct
  · intro id' c entry
    rw [completion.pending] at entry
    have apart : id' ≠ id := by
      rintro rfl
      rw [AList.lookup_erase] at entry
      cases entry
    rw [AList.lookup_erase_ne apart] at entry
    have other : c ≠ owner := by
      rintro rfl
      exact apart (matching.entry_unique entry completion.entry)
    rw [completion.channel, Function.update_of_ne other, calls, command]
    exact matching.registered id' c entry
  · intro c fresh
    rw [calls] at fresh
    have other : c ≠ owner := by
      rintro rfl
      rw [CallPc.unregistered_of_fresh fresh] at inside
      cases inside
    rw [completion.channel, Function.update_of_ne other]
    exact matching.unregistered c fresh
  · intro c
    rw [completion.channel, Function.update_apply]
    split
    · rw [empty]; exact le_rfl
    · exact matching.single c
  · intro c told result member isOk
    unfold State.Answers
    rw [command]
    rcases completion.received member with before | ⟨rfl, rfl⟩
    · exact matching.answers c told result before isOk
    · exact ⟨own, atOwn, (bears result isOk).trans ownId.symm⟩
  · unfold State.Answers
    rw [calls, command]
    exact matching.returned
  · intro c told r n member origin
    rcases completion.received member with before | ⟨rfl, rfl⟩
    · exact (matching.counted c told r n before origin).trans_le (decoded r)
    · exact (last r n origin).2
  · intro c c' told told' r n member member' origin origin'
    rcases completion.received member with before | ⟨rfl, rfl⟩
    · rcases completion.received member' with before' | ⟨rfl, rfl⟩
      · exact matching.handed c c' told told' r n before before' origin origin'
      · have earlier := matching.counted c told r n before origin
        rw [(last r n origin').1] at earlier
        exact absurd earlier (lt_irrefl _)
    · rcases completion.received member' with before' | ⟨rfl, rfl⟩
      · have earlier := matching.counted c' told' r n before' origin'
        rw [(last r n origin).1] at earlier
        exact absurd earlier (lt_irrefl _)
      · rfl

/-- A call that keeps an entry over its own step is still on its way. -/
theorem Matching.still_registered {config : Config} {s after : State} {c : CallId} {action : CallAction} {id : Id16}
    (matching : Matching s) (commands : Commands s) (taken : CallStep config s c action after)
    (before : s.pending.lookup id = some c) (entry : after.pending.lookup id = some c) : (after.calls c).registered = true := by
  obtain ⟨inside, empty, _⟩ := matching.registered id c before
  cases taken with
  | start atPc | enter atPc | insert atPc | unlockWriter atPc =>
    rw [atPc] at inside
    cases inside
  | @lockPending encoded use atPc =>
    rw [atPc] at inside
    simp only [Function.update_self]
    cases use with
    | insert => cases inside
    | remove => rfl
  | @remove encoded exit atPc =>
    have same := matching.entry_id commands before (show (s.calls c).encoded = some encoded by rw [atPc]; rfl)
    rw [same, AList.lookup_erase] at entry
    cases entry
  | receive _ first =>
    rw [empty] at first
    cases first
  | disconnected _ _ nobody => exact absurd rfl (nobody ⟨id, c⟩ (AList.mem_lookup_iff.mp before))
  | lockWriter | noWriter | foundWriter | write | writeFails | writeDone | timeout | drop =>
    simp only [Function.update_self]
    rfl

theorem Matching.callStep {config : Config} {s after : State} {c : CallId} {action : CallAction}
    (matching : Matching s) (commands : Commands s) (meets : FreshIds s (.call c action))
    (taken : CallStep config s c action after) : Matching after := by
  have frame := taken.frame
  have kept : ∀ other command, s.command other = some command → after.command other = some command :=
    fun other command atCommand => commands.kept taken atCommand
  have answers : ∀ other result, s.Answers other result → after.Answers other result :=
    fun other result ⟨command, atCommand, same⟩ => ⟨command, kept other command atCommand, same⟩
  constructor
  · intro first second command command' atFirst atSecond sameId
    rcases taken.command with same | ⟨started, rfl, _, _, new⟩
    · rw [same] at atFirst atSecond
      exact matching.distinct first second command command' atFirst atSecond sameId
    · rw [new, Function.update_apply] at atFirst atSecond
      split at atFirst <;> split at atSecond
      · rename_i here there
        exact here.trans there.symm
      · cases atFirst
        exact absurd sameId.symm (meets second command' atSecond)
      · cases atSecond
        exact absurd sameId (meets first command atFirst)
      · exact matching.distinct first second command command' atFirst atSecond sameId
  · intro id owner entry
    rw [frame.channel]
    rcases taken.entry entry with before | ⟨encoded, atPc, after', rfl, rfl⟩
    · obtain ⟨inside, empty, command, atCommand, same⟩ := matching.registered id owner before
      refine ⟨?_, empty, command, kept owner command atCommand, same⟩
      by_cases self : owner = c
      · subst self
        exact matching.still_registered commands taken before entry
      · rw [(frame.others owner self).1]
        exact inside
    · obtain ⟨command, atCommand, encodes⟩ := commands.encoded owner encoded (by rw [atPc]; rfl)
      exact ⟨by rw [after']; rfl, matching.unregistered owner (by rw [atPc]; rfl), command,
        kept owner command atCommand, (Command.encode_requestId encodes).symm⟩
  · intro other fresh
    rw [frame.channel]
    by_cases same : other = c
    · subst same
      exact matching.unregistered other (taken.fresh fresh)
    · rw [(frame.others other same).1] at fresh
      exact matching.unregistered other fresh
  · rw [frame.channel]; exact matching.single
  · rw [frame.channel]
    exact fun other message result member isOk => answers other result (matching.answers other message result member isOk)
  · intro other result returned
    by_cases same : other = c
    · subst same
      obtain ⟨_, message, member, isOk⟩ := taken.returned_ok returned
      exact answers other result (matching.answers other message result member isOk)
    · rw [(frame.others other same).1] at returned
      exact answers other result (matching.returned other result returned)
  · rw [frame.channel, frame.decoded]; exact matching.counted
  · rw [frame.channel]; exact matching.handed

theorem Matching.step {config : Config} {s after : State} {action : Action} (matching : Matching s)
    (commands : Commands s) (meets : FreshIds s action) (taken : Step config s action after) : Matching after := by
  cases taken with
  | call taken => exact matching.callStep commands meets taken
  | opening taken =>
    have frame := taken.frame
    exact matching.quiet ⟨frame.pending, frame.channel⟩ frame.calls frame.command fun r => by rw [frame.decoded]
  | network taken =>
    have frame := taken.frame
    exact matching.quiet ⟨frame.pending, frame.channel⟩ frame.calls frame.command fun r => by rw [frame.decoded]
  | closing taken =>
    have frame := taken.frame
    rcases taken.completes with quiet | ⟨id, c, _, completion⟩
    · exact matching.quiet quiet frame.calls frame.command fun r => by rw [frame.decoded]
    · exact matching.completion completion frame.calls frame.command (fun r => by rw [frame.decoded]) nofun nofun
  | @reader r _ _ taken =>
    have frame := taken.frame
    rcases taken.completes with quiet | ⟨header, data, c, _, completion, decoded⟩ | ⟨failure, id, c, _, completion, _⟩
    · exact matching.quiet quiet frame.calls frame.command taken.decoded_mono
    · refine matching.completion completion frame.calls frame.command taken.decoded_mono ?_ ?_
      · intro result isOk
        rw [responseRequestId_eq]
        exact decodeResponse_requestId isOk
      · intro stream n origin
        cases origin
        refine ⟨rfl, ?_⟩
        rw [decoded, Function.update_self, List.length_append]
        exact Nat.lt_succ_self _
    · exact matching.completion completion frame.calls frame.command taken.decoded_mono nofun nofun

theorem Matching.of_reach {config : Config} {s : State} (reach : Reached config FreshIds s) : Matching s :=
  reach.invariant .new fun _ _ _ previous matching meets run =>
    matching.step (.of_reach previous) meets (.of_run run)

/-- What the callers of a connection may rely on. -/
structure ResponseMatching (config : Config) (s : State) : Prop where
  matched : ∀ c result, s.calls c = .returned (.ok result) →
    ∃ command, s.command c = some command ∧ result.requestId = command.requestId
  handedOnce : ∀ c c' message message' r n, message ∈ s.channel c → message' ∈ s.channel c' →
    message.origin = .response r n → message'.origin = .response r n → c = c'
  completedOnce : ∀ c, (s.channel c).length ≤ 1
  settled : ∀ c outcome action after, s.calls c = .returned outcome → step config s action = some after →
    after.calls c = .returned outcome
  /-- A frame whose id is not registered is dropped. -/
  discarded : ∀ r header data after, s.readers r = .inPending (.deliver header data) →
    s.pending.lookup (responseRequestId header (decodeResponse header data)) = none →
    step config s (.reader r .deliver) = some after →
    after.pending = s.pending ∧ after.calls = s.calls ∧ after.channel = s.channel
  /-- A call that has returned, by whatever path, has left no entry behind. -/
  cleaned : ∀ c outcome command, s.calls c = .returned outcome → s.command c = some command →
    s.pending.lookup command.requestId = none

theorem response_matching {config : Config} {s : State} (reach : Reached config FreshIds s) :
    ResponseMatching config s := by
  have matching := Matching.of_reach reach
  constructor
  · exact matching.returned
  · exact matching.handed
  · exact matching.single
  · intro c outcome action after returned run
    cases Step.of_run run with
    | opening taken => rw [taken.frame.calls]; exact returned
    | closing taken => rw [taken.frame.calls]; exact returned
    | reader taken => rw [taken.frame.calls]; exact returned
    | network taken => rw [taken.frame.calls]; exact returned
    | @call moved _ _ taken =>
      have apart : c ≠ moved := by
        rintro rfl
        exact taken.unfinished outcome returned
      rw [(taken.frame.others c apart).1]
      exact returned
  · intro r header data after atPc absent run
    cases Step.of_run run with
    | network taken => cases taken
    | reader taken =>
      cases taken with
      | discard => exact ⟨rfl, rfl, rfl⟩
      | deliver atPc' entry =>
        cases atPc.symm.trans atPc'
        rw [absent] at entry
        cases entry
  · intro c outcome command returned atCommand
    cases found : s.pending.lookup command.requestId with
    | none => rfl
    | some owner =>
      obtain ⟨inside, _, command', atCommand', same⟩ := matching.registered _ owner found
      have self := matching.distinct c owner command command' atCommand atCommand' same.symm
      rw [← self, returned] at inside
      cases inside

def Action.starts : Action → Bool
  | .call _ (.start _) => true
  | _ => false

theorem freshIds_of_not_starts {action : Action} (s : State) (continues : action.starts = false) :
    FreshIds s action := by
  cases action with
  | call c action =>
    cases action with
    | start command => cases continues
    | _ => trivial
  | _ => trivial

def CallPc.succeeded : CallPc → Bool
  | .returned (.ok _) => true
  | _ => false

/-- A ping that is made before the connection is open, and answered. -/
def answeredPing : List Action :=
  registerActions 0 ⟨Block.ofNatLE 16 7⟩ ++ openActions 0 0 ++ writeActions 0 ++
    [.receive 0 (((commandHeader commandTypePing ⟨Block.ofNatLE 16 7⟩)).toList), .reader 0 .readHeader,
      .reader 0 .lockPending, .reader 0 .deliver, .call 0 .receive]

theorem response_matching_answeredPing :
    ∃ s, (s.calls 0).succeeded = true ∧ ResponseMatching ⟨.blocking, ""⟩ s := by
  have meets : RunAllowed (step ⟨.blocking, ""⟩) FreshIds State.new answeredPing := by
    refine .cons (fun _ _ used => nomatch used) (.of_forall fun action member s => freshIds_of_not_starts s ?_)
    revert action
    decide
  have executed : (run (step ⟨.blocking, ""⟩) State.new answeredPing).any (fun s => (s.calls 0).succeeded) = true := by
    decide
  obtain ⟨s, reach, succeeded⟩ := Reach.exists_of_run meets executed
  exact ⟨s, succeeded, response_matching reach⟩

end Ruslock.Connection
