import Ruslock.LockDataTree
import Ruslock.LockResult
import Ruslock.RequestStream

namespace Ruslock
open Wire

namespace LockCommand

variable (command : LockCommand)

/-- What is read of a command that some extra bytes follow. -/
def lockRequest (extra : Option (List UInt8)) : LockRequest :=
  { commandType := command.commandType, flag := command.flag, dbId := command.dbId,
    requestId := command.requestId, lockId := command.lockId, lockKey := command.lockKey,
    timeout := command.timeout, expired := command.expired, count := command.count, rCount := command.rCount,
    extra := extra }

/-- The extra bytes are the data: there are some exactly if the command has data. -/
def ExtraIsData : Option (List UInt8) → Prop
  | none => command.data = none
  | some bytes => ∃ data, command.data = some data ∧ data.encode = .ok bytes

/-- A payload from which a server reads the command with its data, and no more. -/
def CarriedBy (payload : List UInt8) : Prop :=
  ∃ extra, parseRequest payload = some (.lock (command.lockRequest extra), []) ∧ command.ExtraIsData extra

/-- An embedded command is carried whole, or it is refused. -/
def CarriedOrRefused (stage flags : UInt8) : Prop :=
  (∃ err, LockData.executeWithStage stage command flags = .error err) ∨
    ∃ payload, LockData.executeWithStage stage command flags =
      .ok (.new stage lockDataCommandTypeExecute flags payload) ∧ command.CarriedBy payload

section Execute

variable {command} {stage flags : UInt8}

theorem executeWithStage_ok (stage flags : UInt8) {extra : Option (List UInt8)} (run : command.extra = .ok extra) :
    LockData.executeWithStage stage command flags =
      .ok (.new stage lockDataCommandTypeExecute flags command.header.toList) := by
  rw [LockData.executeWithStage, Command.encode, run]
  rfl

theorem executeWithStage_error {err : SlockError} (fails : command.extra = .error err) :
    LockData.executeWithStage stage command flags = .error err := by
  rw [LockData.executeWithStage, Command.encode, fails]
  rfl

/-- The header alone is read as the command only if it announces no data. -/
theorem parseRequest_header (known : command.commandType = commandTypeLock ∨ command.commandType = commandTypeUnlock) :
    parseRequest command.header.toList =
      if command.hasExtraData then none else some (.lock (command.lockRequest none), []) := by
  have bit := command.hasExtraData_iff
  have whole := parseRequest_append command.header []
  rw [List.append_nil, parseBody_header known] at whole
  rw [whole, command.header_fields]
  by_cases set : command.hasExtraData = true
  · rw [if_pos (bit.mp set), if_pos set]
    rfl
  · rw [if_neg fun flagged => set (bit.mpr flagged), if_neg set]
    rfl

theorem extra_of_unset (unset : ¬ command.hasExtraData = true) : command.extra = .ok none := if_neg unset

theorem extra_of_set (set : command.hasExtraData = true) :
    command.extra =
      match command.data with
      | none => .error (.lockData "data flag set but data is missing")
      | some data => data.encode.map some := by
  rw [extra, if_pos set]
  cases command.data with
  | none => rfl
  | some data => cases data.encode <;> rfl

/-- A refused command. -/
theorem carriedOrRefused_of_error {err : SlockError} (fails : command.extra = .error err) :
    command.CarriedOrRefused stage flags := .inl ⟨err, executeWithStage_error fails⟩

/-- A command that is not refused is carried by its header. -/
theorem carriedOrRefused_of_ok {extra : Option (List UInt8)} (run : command.extra = .ok extra) :
    command.CarriedOrRefused stage flags ↔ command.CarriedBy command.header.toList := by
  have embedded := executeWithStage_ok stage flags run
  constructor
  · rintro (⟨err, fails⟩ | ⟨payload, found, carried⟩)
    · cases embedded.symm.trans fails
    · have same := embedded.symm.trans found
      simp only [LockData.new, Except.ok.injEq, LockData.mk.injEq, LockDataValue.bytes.injEq, true_and] at same
      exact same ▸ carried
  · intro carried
    exact .inr ⟨_, embedded, carried⟩

/-- A command is carried whole or refused exactly if it has no data, or data
that cannot be encoded and that its flag announces. -/
theorem carriedOrRefused_iff (stage flags : UInt8)
    (known : command.commandType = commandTypeLock ∨ command.commandType = commandTypeUnlock) :
    command.CarriedOrRefused stage flags ↔
      ∀ data, command.data = some data → command.hasExtraData = true ∧ ¬ data.Everywhere LockData.Encodable := by
  have header := parseRequest_header known
  by_cases set : command.hasExtraData = true
  · have extra := extra_of_set set
    rw [if_pos set] at header
    cases present : command.data with
    | none =>
      rw [present] at extra
      exact iff_of_true (carriedOrRefused_of_error extra) nofun
    | some data =>
      rw [present] at extra
      change command.extra = data.encode.map some at extra
      cases encoded : data.encode with
      | error err =>
        rw [encoded] at extra
        have fails : ¬ data.Everywhere LockData.Encodable := by
          intro every
          obtain ⟨bytes, found⟩ := data.encode_ok_iff.mpr every
          cases encoded.symm.trans found
        refine iff_of_true (carriedOrRefused_of_error extra) fun other same => ?_
        obtain rfl := Option.some.inj same
        exact ⟨set, fails⟩
      | ok bytes =>
        rw [encoded] at extra
        have every := data.encode_ok_iff.mp ⟨bytes, encoded⟩
        refine iff_of_false ?_ fun bare => (bare data rfl).2 every
        rw [carriedOrRefused_of_ok extra]
        -- the header announces data that is not there
        rintro ⟨_, parsed, _⟩
        cases header.symm.trans parsed
  · rw [if_neg set] at header
    rw [carriedOrRefused_of_ok (extra_of_unset set)]
    cases present : command.data with
    | none => exact iff_of_true ⟨none, header, present⟩ nofun
    | some data =>
      refine iff_of_false ?_ fun bare => set (bare data rfl).1
      -- the header does not announce the data
      rintro ⟨extra, parsed, isData⟩
      have request := Request.lock.inj (Prod.mk.inj (Option.some.inj (header.symm.trans parsed))).1
      have none : none = extra := congrArg LockRequest.extra request
      rw [← none] at isData
      cases present.symm.trans isData

end Execute

/-- A command that sets the data `a`, under a flag. -/
def setting (flag : UInt8) (data : Option LockData) : LockCommand :=
  { commandType := commandTypeLock, flag := flag, dbId := 0, requestId := ⟨Block.ofNatLE 16 1⟩,
    lockKey := ⟨Block.ofNatLE 16 2⟩, lockId := ⟨Block.ofNatLE 16 3⟩, timeout := ⟨5⟩, expired := ⟨10⟩, count := 0,
    rCount := 0, data := data }

/-- Data that the flag announces. -/
theorem announcedData_not_carried :
    ¬ ∀ (command : LockCommand) (stage flags : UInt8),
      command.commandType = commandTypeLock ∨ command.commandType = commandTypeUnlock →
      command.CarriedOrRefused stage flags := by
  intro claim
  have known : (setting lockFlagContainsData (some (.set [97]))).commandType = commandTypeLock := rfl
  have set : (setting lockFlagContainsData (some (.set [97]))).hasExtraData = true := rfl
  have extra : (setting lockFlagContainsData (some (.set [97]))).extra = .ok (some [3, 0, 0, 0, 0, 0, 97]) := rfl
  have header := parseRequest_header (.inl known)
  rw [if_pos set] at header
  obtain ⟨_, parsed, _⟩ := (carriedOrRefused_of_ok extra).mp (claim _ 0 0 (.inl known))
  cases header.symm.trans parsed

/-- A command without data. -/
theorem bareCommand_carried : (setting 0 none).CarriedOrRefused lockDataStageCurrent 0 :=
  (carriedOrRefused_iff lockDataStageCurrent 0 (.inl rfl)).mpr nofun

end LockCommand

end Ruslock
