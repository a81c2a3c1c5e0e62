import Ruslock.CurrentData

namespace Ruslock
open Wire

/-- The response by which a server has done what a command asks for. -/
def Exchange.success (exchange : Exchange) : Option LockCommandResult :=
  if exchange.succeeded then exchange.result else none

section Success

variable {exchange : Exchange}

theorem Exchange.success_of_error {err : SlockError} (failed : exchange.outcome = .error err) :
    exchange.success = none := by
  rw [success, succeeded_eq_false failed]
  rfl

theorem Exchange.success_of_ok {result : LockCommandResult} (given : exchange.outcome = .ok result) :
    exchange.success = some result := by
  rw [success, if_pos (succeeded_iff.mpr ⟨result, given⟩)]
  obtain ⟨command, answer⟩ := exchange
  rcases answer with err | (_ | _ | answered)
  · cases given
  · cases given
  · cases given
  · have whole : (Exchange.mk command (.ok (.lock answered))).outcome = resultOutcome answered := rfl
    rw [whole, resultOutcome] at given
    repeat' split at given
    all_goals cases given
    rfl

end Success

namespace GroupEvent

section Encoding

variable {clientId versionId : UInt64}

/-- The client that the id of a lock stands for. -/
def clientOf (lockId : Id16) : UInt64 := UInt64.ofNat (ofLE (lockId.bytes.slice 8 8).toList)

@[simp] theorem versionOf_encode : versionOf (encodeGroupEventLockId clientId versionId) = versionId := by
  have front : (encodeGroupEventLockId clientId versionId).bytes.slice 0 8 = Block.ofNatLE 8 versionId.toNat := by
    unfold encodeGroupEventLockId
    rw [Block.slice_copyFromSlice_disjoint _ _ _ _ _ _ (.inl (by decide)), Block.slice_copyFromSlice_same]
  rw [versionOf, front, Block.ofLE_ofNatLE _ _ versionId.toNat_lt, UInt64.ofNat_toNat]

@[simp] theorem clientOf_encode : clientOf (encodeGroupEventLockId clientId versionId) = clientId := by
  have back : (encodeGroupEventLockId clientId versionId).bytes.slice 8 8 = Block.ofNatLE 8 clientId.toNat := by
    rw [encodeGroupEventLockId, Block.slice_copyFromSlice_same]
  rw [clientOf, back, Block.ofLE_ofNatLE _ _ clientId.toNat_lt, UInt64.ofNat_toNat]

/-- The id of a lock tells the client and the version. -/
theorem encode_injective {otherClient otherVersion : UInt64}
    (same : encodeGroupEventLockId clientId versionId = encodeGroupEventLockId otherClient otherVersion) :
    clientId = otherClient ∧ versionId = otherVersion := by
  have client := congrArg clientOf same
  have version := congrArg versionOf same
  rw [clientOf_encode, clientOf_encode] at client
  rw [versionOf_encode, versionOf_encode] at version
  exact ⟨client, version⟩

end Encoding

inductive Operation
  | isSet
  | set
  | clear
  | wakeup (data : Option LockData)
  | wait (timeout : UInt16)

abbrev Operation.Value : Operation → Type
  | .isSet => Bool
  | .set => Unit
  | .clear => Unit
  | .wakeup _ => Unit
  | .wait _ => Unit

def operate (md5 : List UInt8 → Block 16) :
    (operation : Operation) → GroupEvent → Program (Outcome operation.Value × GroupEvent)
  | .isSet, event => event.isSet md5
  | .set, event => event.set md5
  | .clear, event => event.clear md5
  | .wakeup data, event => event.wakeup md5 data
  | .wait timeout, event => event.wait md5 timeout

/-- A call, and the event that it leaves behind. -/
def perform (md5 : List UInt8 → Block 16) (operation : Operation) (event : GroupEvent) : Program GroupEvent :=
  Prod.snd <$> event.operate md5 operation

abbrev Past := List (Operation × Dialogue.Transcript Effect.Answer)

/-- The version that the response to a call carries. -/
def carried : Operation → Exchange → Option UInt64
  | .wait _, exchange => exchange.success.map fun result => versionOf result.lockId
  | .wakeup _, exchange =>
    (exchange.success.filter (·.lockId != .zero)).map fun result => versionOf result.lockId
  | _, _ => none

/-- The version that the last response carries. -/
def latest (versionId : UInt64) (past : Past) : UInt64 :=
  ((past.flatMap fun entry => (exchanges entry.2).filterMap (carried entry.1)).getLast?).getD versionId

/-- The calls whose response may carry a version. -/
def Operation.Learns : Operation → Prop
  | .wakeup _ => True
  | .wait _ => True
  | _ => False

/-- A call sends the id of the event as of its version, and without a success
that carries one it leaves the version as it was. -/
structure Tracks (clientId versionId : UInt64) (operation : Operation) (said : Dialogue.Transcript Effect.Answer)
    (value : Outcome operation.Value × GroupEvent) : Prop where
  waits : ∀ timeout, operation = .wait timeout →
    (exchanges said).map (·.command.lockId) = [encodeGroupEventLockId clientId versionId]
  clears : operation = .clear → (exchanges said).map (·.command.lockId) = [encodeGroupEventLockId 0 versionId]
  unchanged : ¬ operation.Learns ∨ (∃ err, value.1 = .error err) → value.2.versionId = versionId
  succeeds : operation.Learns → ((∃ done, value.1 = .ok done) ↔ ∃ exchange ∈ exchanges said, exchange.success.isSome)

section Talk

variable {md5 : List UInt8 → Block 16} {event : GroupEvent} {said : Dialogue.Transcript Effect.Answer}
  {operation : Operation} {timeout : UInt16}

theorem adopt_versionId {own : Id16} {result : LockCommandResult} {data : Option LockResultData} :
    (event.adopt own result data).versionId =
      if result.lockId = own then event.versionId else versionOf result.lockId := by
  rw [adopt, ite_not]

theorem settled_clientId {own : Id16} {exchange : Exchange} :
    (event.settled own exchange).clientId = event.clientId := by
  unfold settled
  cases exchange.outcome <;> rfl

/-- A version that is sent and comes back is the one that is known already. -/
theorem settled_wait {exchange : Exchange} :
    (event.settled (encodeGroupEventLockId event.clientId event.versionId) exchange).versionId =
      (carried (.wait timeout) exchange).getD event.versionId := by
  unfold settled
  cases outcome : exchange.outcome with
  | error err => rw [carried, Exchange.success_of_error outcome]; rfl
  | ok result =>
    rw [carried, Exchange.success_of_ok outcome]
    change (event.adopt _ result _).versionId = versionOf result.lockId
    rw [adopt_versionId]
    split
    · rename_i same
      rw [same, versionOf_encode]
    · rfl

theorem settled_wakeup {exchange : Exchange} {data : Option LockData} :
    (event.settled .zero exchange).versionId = (carried (.wakeup data) exchange).getD event.versionId := by
  unfold settled
  cases outcome : exchange.outcome with
  | error err => rw [carried, Exchange.success_of_error outcome]; rfl
  | ok result =>
    rw [carried, Exchange.success_of_ok outcome]
    change (event.adopt _ result _).versionId = _
    rw [adopt_versionId]
    rw [Option.filter_some]
    by_cases same : result.lockId = .zero
    · rw [if_pos same, if_neg (by simp [same])]
      rfl
    · rw [if_neg same, if_pos (by simp [same])]
      rfl

theorem success_isSome {exchange : Exchange} :
    exchange.success.isSome ↔ ∃ result, exchange.outcome = .ok result := by
  cases outcome : exchange.outcome with
  | error err =>
    rw [Exchange.success_of_error outcome]
    exact iff_of_false nofun fun ⟨_, same⟩ => nomatch same
  | ok result =>
    rw [Exchange.success_of_ok outcome]
    exact iff_of_true rfl ⟨result, rfl⟩

/-- A call sends one command, and leaves the version that its response carries. -/
theorem operate_talk {value : Outcome operation.Value × GroupEvent}
    (talk : Dialogue.Talk (event.operate md5 operation) said value) :
    ∃ exchange, exchanges said = [exchange] ∧ value.2.clientId = event.clientId ∧
      value.2.versionId = (carried operation exchange).getD event.versionId ∧
      (operation.Learns → ((∃ done, value.1 = .ok done) ↔ exchange.success.isSome)) := by
  cases operation with
  | isSet =>
    obtain ⟨exchange, atSaid, rfl⟩ := isSet_talk talk
    exact ⟨exchange, atSaid, rfl, rfl, False.elim⟩
  | set =>
    obtain ⟨exchange, atSaid, same⟩ := set_talk talk
    exact ⟨exchange, atSaid, congrArg clientId same, congrArg versionId same, False.elim⟩
  | clear =>
    obtain ⟨exchange, atSaid, same⟩ := clear_talk talk
    exact ⟨exchange, atSaid, congrArg clientId same, congrArg versionId same, False.elim⟩
  | wakeup data =>
    obtain ⟨exchange, atSaid, rfl⟩ := wakeup_talk talk
    refine ⟨exchange, atSaid, settled_clientId, settled_wakeup, fun _ => ?_⟩
    rw [success_isSome]
    cases exchange.outcome with
    | error err => exact iff_of_false nofun nofun
    | ok result => exact iff_of_true ⟨(), rfl⟩ ⟨result, rfl⟩
  | wait timeout =>
    obtain ⟨exchange, atSaid, _, rfl⟩ := wait_talk talk
    refine ⟨exchange, atSaid, settled_clientId, settled_wait, fun _ => ?_⟩
    rw [success_isSome]
    cases exchange.outcome with
    | error err => exact iff_of_false nofun nofun
    | ok result => exact iff_of_true ⟨(), rfl⟩ ⟨result, rfl⟩

/-- A lock of the event sends the id that it is built with. -/
theorem comparing_talk {lockId : Id16} {expired : UInt16} {flag : UInt8} {data : Option LockData} {α : Type}
    {rest : Outcome LockCommandResult × Lock → Program α} {value : α}
    (quiet : ∀ answered said value, Dialogue.Talk (rest answered) said value → exchanges said = [])
    (talk : Dialogue.Talk (do
      let lock ← event.lockUnder md5 lockId timeout expired
      let answered ← (comparing lock).acquireWithFlags flag data
      rest answered) said value) : (exchanges said).map (·.command.lockId) = [lockId] := by
  obtain ⟨front, lock, later, rfl, builds, operates⟩ := Dialogue.talk_bind.mp talk
  obtain ⟨middle, answered, back, rfl, acquires, ends⟩ := Dialogue.talk_bind.mp operates
  obtain ⟨silent, _, under, _⟩ := Lock.withLockId_talk builds
  obtain ⟨exchange, atSaid, of, _⟩ := Lock.acquireWithFlags_talk acquires
  have asked : exchange.command.lockId = lockId := (congrArg Prod.snd of.target).trans under
  rw [exchanges_append, exchanges_append, silent, atSaid, quiet _ _ _ ends, List.append_nil, List.nil_append,
    List.map_singleton, asked]

theorem wait_asks {value : Outcome Unit × GroupEvent} (talk : Dialogue.Talk (event.wait md5 timeout) said value) :
    (exchanges said).map (·.command.lockId) = [encodeGroupEventLockId event.clientId event.versionId] := by
  refine comparing_talk (fun answered said value ends => ?_) talk
  dsimp only at ends
  split at ends
  all_goals
    obtain ⟨rfl, _⟩ := Dialogue.talk_pure.mp ends
    rfl

theorem clear_asks {value : Outcome Unit × GroupEvent} (talk : Dialogue.Talk (event.clear md5) said value) :
    (exchanges said).map (·.command.lockId) = [encodeGroupEventLockId 0 event.versionId] := by
  obtain ⟨front, lock, later, rfl, builds, operates⟩ := Dialogue.talk_bind.mp talk
  obtain ⟨middle, updated, last, rfl, updates, ends⟩ := Dialogue.talk_bind.mp operates
  obtain ⟨rfl, _⟩ := Dialogue.talk_pure.mp ends
  have both : Dialogue.Talk (do
      let lock ← event.lockUnder md5 (encodeGroupEventLockId 0 event.versionId) event.lock.timeout.value
        event.lock.expired.value
      (comparing lock).update none) (front ++ middle) updated :=
    Dialogue.talk_bind.mpr ⟨front, lock, middle, rfl, builds, updates⟩
  rw [List.append_nil]
  refine comparing_talk (fun answered said value ends => ?_) both
  obtain ⟨rfl, _⟩ := Dialogue.talk_pure.mp ends
  rfl

theorem carried_of_failure {exchange : Exchange} (failed : ¬ operation.Learns ∨ exchange.success = none) :
    carried operation exchange = none := by
  rcases failed with other | missing
  · cases operation with
    | isSet | set | clear => rfl
    | wakeup | wait => exact absurd trivial other
  · cases operation with
    | isSet | set | clear => rfl
    | wakeup | wait => rw [carried, missing]; rfl

theorem operate_tracks {value : Outcome operation.Value × GroupEvent}
    (talk : Dialogue.Talk (event.operate md5 operation) said value) :
    Tracks event.clientId event.versionId operation said value := by
  obtain ⟨exchange, atSaid, _, version, succeeds⟩ := operate_talk talk
  constructor
  · rintro timeout rfl
    exact wait_asks talk
  · rintro rfl
    exact clear_asks talk
  · rintro quiet
    have missing : ¬ operation.Learns ∨ exchange.success = none := by
      by_cases learns : operation.Learns
      · obtain ⟨err, failed⟩ := quiet.resolve_left (not_not_intro learns)
        refine .inr (Option.not_isSome_iff_eq_none.mp fun given => ?_)
        obtain ⟨done, same⟩ := (succeeds learns).mpr given
        rw [failed] at same
        cases same
      · exact .inl learns
    rw [version, carried_of_failure missing]
    rfl
  · intro learns
    rw [succeeds learns, atSaid]
    simp

end Talk

section Runs

variable {md5 : List UInt8 → Block 16} {new self : GroupEvent} {past : Past}

theorem latest_append {versionId : UInt64} {operation : Operation} {said : Dialogue.Transcript Effect.Answer}
    {exchange : Exchange} (atSaid : exchanges said = [exchange]) :
    latest versionId (past ++ [(operation, said)]) = (carried operation exchange).getD (latest versionId past) := by
  unfold latest
  rw [List.flatMap_append, List.flatMap_singleton, atSaid]
  cases carries : carried operation exchange with
  | none => simp [carries]
  | some version => simp [carries]

/-- The version is that of the last response which carries one, after any calls. -/
theorem calls_latest (run : Dialogue.Calls (perform md5) new past self) :
    self.clientId = new.clientId ∧ self.versionId = latest new.versionId past := by
  induction run with
  | start => exact ⟨rfl, rfl⟩
  | called _ talk ih =>
    obtain ⟨value, operates, rfl⟩ := Dialogue.talk_map talk
    obtain ⟨exchange, atSaid, client, version, _⟩ := operate_talk operates
    obtain ⟨ihClient, ihVersion⟩ := ih
    exact ⟨client.trans ihClient, by rw [version, latest_append atSaid, ihVersion]⟩

theorem new_talk {database : Database} {key : List UInt8} {clientId versionId : UInt64} {timeout expired : UInt16}
    {said : Dialogue.Transcript Effect.Answer}
    (talk : Dialogue.Talk (GroupEvent.new md5 database key clientId versionId timeout expired) said new) :
    new.clientId = clientId ∧ new.versionId = versionId := by
  obtain ⟨_, _, _, rfl, _, last⟩ := Dialogue.talk_bind.mp talk
  obtain ⟨rfl, rfl⟩ := Dialogue.talk_pure.mp last
  exact ⟨rfl, rfl⟩

end Runs

/-- After any calls the version is that of the last response which carries one,
and it is the one that the next call sends; from the id that it sends it can be
read back. -/
theorem version_tracked (md5 : List UInt8 → Block 16) (database : Database) (key : List UInt8)
    (clientId versionId : UInt64) (timeout expired : UInt16) (birth : Dialogue.Transcript Effect.Answer)
    (new self : GroupEvent) (past : Past)
    (creates : Dialogue.Talk (GroupEvent.new md5 database key clientId versionId timeout expired) birth new)
    (run : Dialogue.Calls (perform md5) new past self) :
    (self.versionId = latest versionId past ∧
      ∀ operation said value, Dialogue.Talk (self.operate md5 operation) said value →
        Tracks clientId self.versionId operation said value) ∧
    (Function.Injective fun pair : UInt64 × UInt64 => encodeGroupEventLockId pair.1 pair.2) ∧
    ∀ client version, versionOf (encodeGroupEventLockId client version) = version := by
  obtain ⟨client, version⟩ := new_talk creates
  obtain ⟨sameClient, sameVersion⟩ := calls_latest run
  refine ⟨⟨by rw [sameVersion, version], fun operation said value talk => ?_⟩, ?_, fun _ _ => versionOf_encode⟩
  · rw [← client, ← sameClient]
    exact operate_tracks talk
  · rintro ⟨client, version⟩ ⟨otherClient, otherVersion⟩ same
    obtain ⟨rfl, rfl⟩ := encode_injective same
    rfl

section Example

/-- A server that answers under the id of another client and a version of its own. -/
def announcing (versionId : UInt64) : Dialogue.Partner Effect.Answer
  | _, .send (.lock command) =>
    answerWith { command with lockId := encodeGroupEventLockId 0 versionId } commandResultSucced
  | _, .send _ => .error .notConnected
  | _, .newId => .zero
  | _, .defaultTimeoutFlags => 0
  | _, .defaultExpiredFlags => 0

def bornAtFive : Dialogue.Transcript Effect.Answer × GroupEvent :=
  Dialogue.run (announcing 0) [] (GroupEvent.new noDigest ⟨0⟩ [1] 3 5 10 10)

def waitedForSeven : Dialogue.Transcript Effect.Answer × GroupEvent :=
  Dialogue.run (announcing 7) [] (perform noDigest (.wait 10) bornAtFive.2)

/-- A wait in which the version has gone up to seven, and the clear after it. -/
theorem version_tracked_waited :
    latest 5 [(.wait 10, waitedForSeven.1)] = 7 ∧
      (exchanges (Dialogue.run (announcing 9) [] (waitedForSeven.2.operate noDigest .clear)).1).map
        (·.command.lockId) = [encodeGroupEventLockId 0 7] := by
  have run : Dialogue.Calls (perform noDigest) bornAtFive.2 ([] ++ [(.wait 10, waitedForSeven.1)]) waitedForSeven.2 :=
    .called .start (Dialogue.Talk.of_run _ _ _)
  obtain ⟨⟨version, tracks⟩, _⟩ :=
    version_tracked noDigest ⟨0⟩ [1] 3 5 10 10 _ bornAtFive.2 _ _ (Dialogue.Talk.of_run _ _ _) run
  have seven : waitedForSeven.2.versionId = 7 := by decide
  refine ⟨version.symm.trans seven, ?_⟩
  rw [(tracks .clear _ _ (Dialogue.Talk.of_run _ _ _)).clears rfl, seven]

end Example

end GroupEvent

end Ruslock
