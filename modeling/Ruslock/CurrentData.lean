import Ruslock.PrimitiveCalls

namespace Ruslock

/-- The last result that was received. -/
def received (said : Dialogue.Transcript Effect.Answer) : Option LockCommandResult :=
  ((exchanges said).filterMap Exchange.result).getLast?

/-- An answer brings no data but what is known. -/
def Exchange.Repeats (exchange : Exchange) (old : Option LockResultData) : Prop :=
  ∀ result, exchange.result = some result → result.data = old

namespace Primitive

/-- `current_data`, for the primitives that have it. -/
def currentData : Primitive → Option (Option LockResultData)
  | .lock self => some self.currentData
  | .event self => some self.currentData
  | .groupEvent self => some self.currentData
  | _ => none

/-- A call that a primitive does not take leaves it as it is. -/
def perform (md5 : List UInt8 → Wire.Block 16) (call : Call) (primitive : Primitive) : Program Primitive :=
  (primitive.call md5 call).getD (pure primitive)

abbrev Past := List (Call × Dialogue.Transcript Effect.Answer)

/-- After a call the data is that of the result it has received, and without a
result it is as it was. -/
def Follows (before : Primitive) (said : Dialogue.Transcript Effect.Answer) (after : Primitive) : Prop :=
  ∀ old, before.currentData = some old →
    (∀ result, received said = some result → after.currentData = some result.data) ∧
      (received said = none → after.currentData = some old)

def FollowsThroughout (md5 : List UInt8 → Wire.Block 16) (start : Primitive) (past : Past) : Prop :=
  ∀ front call said back before after, past = front ++ (call, said) :: back →
    Dialogue.Calls (perform md5) start front before → Dialogue.Talk (perform md5 call before) said after →
    before.Follows said after

/-- What the answer to a command of a call must be for the data to follow it. -/
def Heeds : Primitive → Call → Exchange → Option LockResultData → Prop
  | .event _, .wait _, exchange, old => exchange.result = none → old = none
  | .event _, _, exchange, old => exchange.Repeats old
  | .groupEvent _, .wakeup _, exchange, old => exchange.succeeded = true ∨ exchange.Repeats old
  | .groupEvent _, .wait _, exchange, old => exchange.succeeded = true ∨ exchange.Repeats old
  | .groupEvent _, _, exchange, old => exchange.Repeats old
  | _, _, _, _ => True

/-- The data of the last result that was received in `past`. -/
def latest (old : Option LockResultData) (past : Past) : Option LockResultData :=
  match received (past.flatMap Prod.snd) with
  | some result => result.data
  | none => old

def HeedsThroughout (start : Primitive) (old : Option LockResultData) (past : Past) : Prop :=
  ∀ front call said back, past = front ++ (call, said) :: back →
    ∀ exchange ∈ exchanges said, start.Heeds call exchange (latest old front)

/-- The data that a call keeps of the answer to its command. -/
def kept : Primitive → Call → Exchange → Option LockResultData → Option LockResultData
  | .event _, .wait _, exchange, _ => exchange.dataAfter none
  | .event _, _, _, old => old
  | .groupEvent _, .wakeup _, exchange, old => if exchange.succeeded then exchange.dataAfter none else old
  | .groupEvent _, .wait _, exchange, old => if exchange.succeeded then exchange.dataAfter none else old
  | .groupEvent _, _, _, old => old
  | _, _, exchange, old => exchange.dataAfter old

end Primitive

section Exchange

variable {exchange : Exchange} {old : Option LockResultData}

theorem Exchange.repeats_iff : exchange.Repeats old ↔ old = exchange.dataAfter old := by
  unfold Repeats dataAfter
  cases exchange.result with
  | none => exact iff_of_true (fun _ other => nomatch other) rfl
  | some result => exact ⟨fun same => (same result rfl).symm, fun same _ own => by cases own; exact same.symm⟩

theorem Exchange.dataAfter_none_iff :
    (exchange.result = none → old = none) ↔ exchange.dataAfter none = exchange.dataAfter old := by
  unfold dataAfter
  cases exchange.result with
  | none => exact ⟨fun same => (same rfl).symm, fun same _ => same.symm⟩
  | some result => exact iff_of_true (fun other => nomatch other) rfl

theorem Exchange.dataAfter_succeeded (given : exchange.succeeded = true) :
    exchange.dataAfter none = exchange.dataAfter old := by
  refine dataAfter_none_iff.mp fun missing => ?_
  unfold succeeded at given
  unfold result at missing
  split at given
  · rename_i result answered
    rw [answered] at missing
    cases missing
  · cases given

theorem Exchange.succeeded_or_repeats_iff :
    exchange.succeeded = true ∨ exchange.Repeats old ↔
      (if exchange.succeeded then exchange.dataAfter none else old) = exchange.dataAfter old := by
  split
  · rename_i given
    exact iff_of_true (.inl given) (dataAfter_succeeded given)
  · rename_i failed
    rw [or_iff_right failed, repeats_iff]

/-- On success a group event adopts the data of the result. -/
theorem GroupEvent.settled_currentData {event : GroupEvent} {own : Id16} :
    (event.settled own exchange).currentData =
      if exchange.succeeded then exchange.dataAfter none else event.currentData := by
  unfold settled
  cases outcome : exchange.outcome with
  | error err => rw [if_neg (by simp [Exchange.succeeded_eq_false outcome])]
  | ok result => rw [if_pos (Exchange.succeeded_iff.mpr ⟨result, outcome⟩)]; rfl

end Exchange

theorem Lock.show_talk {lock : Lock} {said : Dialogue.Transcript Effect.Answer}
    {value : Outcome (Option LockCommandResult) × Lock} (talk : Dialogue.Talk lock.show said value) :
    ∃ exchange, exchanges said = [exchange] ∧ value.2.currentData = exchange.dataAfter lock.currentData := by
  obtain ⟨front, ⟨outcome, after⟩, back, rfl, acquires, last⟩ := Dialogue.talk_bind.mp talk
  obtain ⟨exchange, atSaid, _, _, kept⟩ := Lock.acquireWithFlags_operates _ _ acquires
  -- whatever the outcome, nothing more is said and the lock stays as it is
  have ended : back = [] ∧ value.2 = after := by
    dsimp only at last
    split at last
    all_goals
      obtain ⟨rfl, rfl⟩ := Dialogue.talk_pure.mp last
      exact ⟨rfl, rfl⟩
  obtain ⟨rfl, same⟩ := ended
  exact ⟨exchange, by rw [List.append_nil]; exact atSaid, by rw [same]; exact kept⟩

namespace Primitive

theorem heeds_iff {primitive : Primitive} {call : Call} {exchange : Exchange} {old : Option LockResultData} :
    primitive.Heeds call exchange old ↔ primitive.kept call exchange old = exchange.dataAfter old := by
  cases primitive with
  | event self =>
    cases call with
    | wait timeout => exact Exchange.dataAfter_none_iff
    | _ => exact Exchange.repeats_iff
  | groupEvent self =>
    cases call with
    | wakeup data => exact Exchange.succeeded_or_repeats_iff
    | wait timeout => exact Exchange.succeeded_or_repeats_iff
    | _ => exact Exchange.repeats_iff
  | _ => exact iff_of_true trivial rfl

section Step

variable {md5 : List UInt8 → Wire.Block 16} {call : Call} {said : Dialogue.Transcript Effect.Answer}
  {before after : Primitive} {old : Option LockResultData}

/-- What a call leaves behind: it sends one command at most and keeps what it
makes of its answer. -/
inductive Leaves (before : Primitive) (call : Call) (said : Dialogue.Transcript Effect.Answer)
    (old : Option LockResultData) (after : Primitive) : Prop
  | silent : exchanges said = [] → after.currentData = some old → after.kept = before.kept →
      Leaves before call said old after
  | sends (exchange : Exchange) : exchanges said = [exchange] →
      after.currentData = some (before.kept call exchange old) → after.kept = before.kept →
      Leaves before call said old after

theorem event_kept (self self' : Event) : (event self).kept = (event self').kept := by
  funext call
  cases call <;> rfl

theorem groupEvent_kept (self self' : GroupEvent) : (groupEvent self).kept = (groupEvent self').kept := by
  funext call
  cases call <;> rfl

/-- A call that is not taken. -/
theorem leaves_pure {primitive : Primitive} (same : primitive.currentData = some old)
    (talk : Dialogue.Talk (pure primitive : Program Primitive) said after) : Leaves primitive call said old after := by
  obtain ⟨rfl, rfl⟩ := Dialogue.talk_pure.mp talk
  exact .silent rfl same rfl

theorem lock_leaves_operates {self : Lock} {ρ : Type} {commandType flag : UInt8}
    {read : Outcome LockCommandResult → Outcome ρ} {program : Program (Outcome ρ × Lock)}
    (operates : Operates self commandType flag read program) (talk : Dialogue.Talk (leaving .lock program) said after) :
    Leaves (.lock self) call said self.currentData after := by
  obtain ⟨value, runs, rfl⟩ := talk_leaving talk
  obtain ⟨exchange, atSaid, _, _, same⟩ := operates _ _ runs
  exact .sends exchange atSaid (congrArg some same) rfl

theorem lock_leaves {self : Lock} (talk : Dialogue.Talk (perform md5 call (.lock self)) said after) :
    Leaves (.lock self) call said self.currentData after := by
  cases call with
  | acquire => exact lock_leaves_operates Lock.acquireWithFlags_operates talk
  | release => exact lock_leaves_operates Lock.releaseWithFlags_operates talk
  | acquireWithFlags => exact lock_leaves_operates Lock.acquireWithFlags_operates talk
  | releaseWithFlags => exact lock_leaves_operates Lock.releaseWithFlags_operates talk
  | update => exact lock_leaves_operates Lock.update_operates talk
  | releaseHead => exact lock_leaves_operates Lock.releaseHead_operates talk
  | releaseHeadToLockWait => exact lock_leaves_operates Lock.releaseWithFlags_operates talk
  | «show» =>
    obtain ⟨value, runs, rfl⟩ := talk_leaving talk
    obtain ⟨exchange, atSaid, same⟩ := Lock.show_talk runs
    exact .sends exchange atSaid (congrArg some same) rfl
  | setCount | setRCount =>
    obtain ⟨rfl, rfl⟩ := Dialogue.talk_pure.mp talk
    exact .silent rfl rfl rfl
  | _ => exact leaves_pure rfl talk

theorem event_leaves {self : Event} (talk : Dialogue.Talk (perform md5 call (.event self)) said after) :
    Leaves (.event self) call said self.currentData after := by
  cases call with
  | isSet =>
    obtain ⟨value, runs, rfl⟩ := talk_leaving talk
    obtain ⟨exchange, atSaid, _, rfl⟩ := Event.isSet_talk runs
    exact .sends exchange atSaid rfl rfl
  | set | setWithData =>
    obtain ⟨value, runs, rfl⟩ := talk_leaving talk
    obtain ⟨exchange, atSaid, same⟩ := Event.setWithData_talk runs
    exact .sends exchange atSaid (by rw [same]; rfl) (event_kept _ _)
  | clear =>
    obtain ⟨value, runs, rfl⟩ := talk_leaving talk
    obtain ⟨exchange, atSaid, same⟩ := Event.clear_talk runs
    exact .sends exchange atSaid (by rw [same]; rfl) (event_kept _ _)
  | wait =>
    obtain ⟨value, runs, rfl⟩ := talk_leaving talk
    obtain ⟨exchange, atSaid, _, rfl⟩ := Event.wait_talk runs
    exact .sends exchange atSaid rfl (event_kept _ _)
  | _ => exact leaves_pure rfl talk

theorem groupEvent_leaves {self : GroupEvent} (talk : Dialogue.Talk (perform md5 call (.groupEvent self)) said after) :
    Leaves (.groupEvent self) call said self.currentData after := by
  cases call with
  | isSet =>
    obtain ⟨value, runs, rfl⟩ := talk_leaving talk
    obtain ⟨exchange, atSaid, rfl⟩ := GroupEvent.isSet_talk runs
    exact .sends exchange atSaid rfl rfl
  | set =>
    obtain ⟨value, runs, rfl⟩ := talk_leaving talk
    obtain ⟨exchange, atSaid, same⟩ := GroupEvent.set_talk runs
    exact .sends exchange atSaid (by rw [same]; rfl) (groupEvent_kept _ _)
  | clear =>
    obtain ⟨value, runs, rfl⟩ := talk_leaving talk
    obtain ⟨exchange, atSaid, same⟩ := GroupEvent.clear_talk runs
    exact .sends exchange atSaid (by rw [same]; rfl) (groupEvent_kept _ _)
  | wakeup =>
    obtain ⟨value, runs, rfl⟩ := talk_leaving talk
    obtain ⟨exchange, atSaid, rfl⟩ := GroupEvent.wakeup_talk runs
    exact .sends exchange atSaid (congrArg some GroupEvent.settled_currentData) (groupEvent_kept _ _)
  | wait =>
    obtain ⟨value, runs, rfl⟩ := talk_leaving talk
    obtain ⟨exchange, atSaid, _, rfl⟩ := GroupEvent.wait_talk runs
    exact .sends exchange atSaid (congrArg some GroupEvent.settled_currentData) (groupEvent_kept _ _)
  | _ => exact leaves_pure rfl talk

/-- One call of a primitive that has data. -/
theorem leaves (has : before.currentData = some old) (talk : Dialogue.Talk (perform md5 call before) said after) :
    Leaves before call said old after := by
  cases before with
  | lock self =>
    cases has
    exact lock_leaves talk
  | event self =>
    cases has
    exact event_leaves talk
  | groupEvent self =>
    cases has
    exact groupEvent_leaves talk
  | _ => cases has

theorem Leaves.kept_eq (left : Leaves before call said old after) : after.kept = before.kept := by
  cases left with
  | silent _ _ same => exact same
  | sends _ _ _ same => exact same

theorem Leaves.has (left : Leaves before call said old after) : ∃ new, after.currentData = some new := by
  cases left with
  | silent _ has _ => exact ⟨_, has⟩
  | sends _ _ has _ => exact ⟨_, has⟩

/-- The data follows a call exactly if the answer to its command is heeded. -/
theorem Leaves.follows_iff (has : before.currentData = some old) (left : Leaves before call said old after) :
    before.Follows said after ↔ ∀ exchange ∈ exchanges said, before.Heeds call exchange old := by
  unfold Follows
  rw [has]
  cases left with
  | silent none same _ =>
    simp [received, none, same]
  | sends exchange atSaid same _ =>
    simp only [received, atSaid, same, List.forall_mem_singleton, heeds_iff, Option.some.injEq, forall_eq',
      Exchange.dataAfter]
    cases answered : exchange.result with
    | none => simp [answered]
    | some result => simp [answered]

end Step

section Run

variable {md5 : List UInt8 → Wire.Block 16} {start self : Primitive} {old : Option LockResultData} {past : Past}

theorem latest_snoc {front : Past} {call : Call} {said : Dialogue.Transcript Effect.Answer} :
    latest old (front ++ [(call, said)]) =
      match received said with
      | some result => result.data
      | none => latest old front := by
  unfold latest received
  rw [List.flatMap_append, exchanges_append, List.filterMap_append, List.getLast?_append]
  simp only [List.flatMap_singleton]
  cases ((exchanges said).filterMap Exchange.result).getLast? <;> rfl

theorem Follows.latest {before after : Primitive} {front : Past} {call : Call}
    {said : Dialogue.Transcript Effect.Answer} (follows : before.Follows said after)
    (has : before.currentData = some (latest old front)) :
    after.currentData = some (Primitive.latest old (front ++ [(call, said)])) := by
  obtain ⟨fresh, unchanged⟩ := follows _ has
  rw [latest_snoc]
  cases answered : received said with
  | none => exact unchanged answered
  | some result => exact fresh result answered

/-- A primitive that has data has some after every run, and goes on as it was made. -/
theorem run_kept (has : start.currentData = some old) (run : Dialogue.Calls (perform md5) start past self) :
    (∃ new, self.currentData = some new) ∧ self.kept = start.kept := by
  induction run with
  | start => exact ⟨⟨old, has⟩, rfl⟩
  | called _ talk ih =>
    obtain ⟨⟨new, has'⟩, same⟩ := ih
    have left := leaves has' talk
    exact ⟨left.has, left.kept_eq.trans same⟩

theorem heeds_of_kept {primitive other : Primitive} (same : primitive.kept = other.kept) {call : Call}
    {exchange : Exchange} {data : Option LockResultData} :
    primitive.Heeds call exchange data ↔ other.Heeds call exchange data := by
  rw [heeds_iff, heeds_iff, same]

/-- As long as the data follows, it is that of the last result. -/
theorem FollowsThroughout.latest (has : start.currentData = some old) {front back : Past}
    (follows : FollowsThroughout md5 start (front ++ back)) {before : Primitive}
    (run : Dialogue.Calls (perform md5) start front before) :
    before.currentData = some (Primitive.latest old front) := by
  induction run generalizing back with
  | start => exact has
  | @called front before call said after run talk ih =>
    rw [List.append_assoc] at follows
    exact (follows front call said back before after rfl run talk).latest (ih follows)

theorem HeedsThroughout.latest (has : start.currentData = some old) {front back : Past}
    (heeds : start.HeedsThroughout old (front ++ back)) {before : Primitive}
    (run : Dialogue.Calls (perform md5) start front before) :
    before.currentData = some (Primitive.latest old front) := by
  induction run generalizing back with
  | start => exact has
  | @called front before call said after run talk ih =>
    rw [List.append_assoc] at heeds
    have has' := ih heeds
    have own := heeds front call said back rfl
    have heeded : ∀ exchange ∈ exchanges said, before.Heeds call exchange (Primitive.latest old front) :=
      fun exchange member => (heeds_of_kept (run_kept has run).2).mpr (own exchange member)
    exact (((leaves has' talk).follows_iff has').mpr heeded).latest has'

/-- The data follows every call of a run exactly if the answers to its commands
are heeded. -/
theorem followsThroughout_iff (has : start.currentData = some old) (run : Dialogue.Calls (perform md5) start past self) :
    FollowsThroughout md5 start past ↔ start.HeedsThroughout old past := by
  constructor
  · rintro follows front call said back rfl exchange member
    obtain ⟨before, after, run', talk⟩ := run.call_at
    have has' := follows.latest has run'
    have own := follows front call said back before after rfl run' talk
    exact (heeds_of_kept (run_kept has run').2).mp (((leaves has' talk).follows_iff has').mp own exchange member)
  · rintro heeds front call said back before after rfl run' talk
    have has' := heeds.latest has run'
    refine ((leaves has' talk).follows_iff has').mpr fun exchange member => ?_
    exact (heeds_of_kept (run_kept has run').2).mpr (heeds front call said back rfl exchange member)

end Run

section Example

def answerData (command : LockCommand) (result : UInt8) (data : Option LockResultData) : Outcome CommandResult :=
  (answerWith command result).map fun
    | .lock result => .lock { result with data := data }
    | other => other

/-- A server that gives every command the same answer. -/
def answering (result : UInt8) (data : Option LockResultData) : Dialogue.Partner Effect.Answer
  | _, .send (.lock command) => answerData command result data
  | _, .send _ => .error .notConnected
  | _, .newId => .zero
  | _, .defaultTimeoutFlags => 0
  | _, .defaultExpiredFlags => 0

/-- The string "x". -/
def smallData : LockResultData := ⟨[3, 0, 0, 0, 0, 0, 120]⟩

/-- An event that is set by default. -/
def setEvent : Dialogue.Transcript Effect.Answer × Primitive :=
  Dialogue.run (answering 0 none) [] (Database.create noDigest ⟨0⟩ (.event [1] 5 10 true))

/-- A call of the event that a server answers with data. -/
def answeredCall (result : UInt8) (call : Call) : Dialogue.Transcript Effect.Answer × Primitive :=
  Dialogue.run (answering result (some smallData)) [] (perform noDigest call setEvent.2)

theorem answeredCall_calls (result : UInt8) (call : Call) :
    Dialogue.Calls (perform noDigest) setEvent.2 [(call, (answeredCall result call).1)] (answeredCall result call).2 :=
  .called .start (Dialogue.Talk.of_run _ _ _)

/-- The data that comes back from `set` is dropped. -/
theorem answeredSet_not_follows :
    ¬ ∀ (md5 : List UInt8 → Wire.Block 16) (database : Database) (factory : Factory)
      (birth : Dialogue.Transcript Effect.Answer) (start self : Primitive) (past : Past),
      Dialogue.Talk (database.create md5 factory) birth start → start.currentData.isSome →
      Dialogue.Calls (perform md5) start past self → FollowsThroughout md5 start past := by
  intro claim
  have created : Dialogue.Talk (Database.create noDigest ⟨0⟩ (.event [1] 5 10 true)) setEvent.1 setEvent.2 :=
    .of_run _ _ _
  have follows := claim _ _ _ _ _ _ _ created rfl (answeredCall_calls commandResultSucced .set)
  have own := follows [] .set _ [] _ _ rfl .start (Dialogue.Talk.of_run _ _ _) none rfl
  exact absurd (own.1 _ rfl) (by decide)

/-- The data that comes back from `wait` is kept, also when the wait has timed out. -/
theorem followsThroughout_answeredWait :
    FollowsThroughout noDigest setEvent.2 [(.wait 100, (answeredCall commandResultTimeout (.wait 100)).1)] := by
  refine (followsThroughout_iff rfl (answeredCall_calls commandResultTimeout (.wait 100))).mpr ?_
  intro front call said back whole
  have answered : ∀ exchange ∈ exchanges (answeredCall commandResultTimeout (.wait 100)).1, exchange.result ≠ none := by
    decide
  rcases List.singleton_eq_append_iff.mp whole with ⟨rfl, same⟩ | ⟨_, other⟩
  · cases same
    exact fun exchange member missing => absurd missing (answered exchange member)
  · cases other

end Example

end Primitive

end Ruslock
