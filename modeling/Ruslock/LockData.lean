import Ruslock.Protocol

namespace Ruslock
open Wire

mutual

/-- Data attached to a lock command. -/
inductive LockData where
  | mk (stage commandType commandFlag : UInt8) (value : LockDataValue)

inductive LockDataValue where
  | bytes (value : List UInt8)
  | pipeline (items : List LockData)

end

/-- The largest `usize` of a 64-bit target. -/
def usizeMax : Nat := 2 ^ 64 - 1

/-- `u32::MAX`. -/
def u32Max : Nat := 2 ^ 32 - 1

/-- What `LockData::encode` does once the value bytes are known: the length
prefix, the byte of stage and type, the flag byte, the value. -/
def encodeBody (stage commandType commandFlag : UInt8) (value : List UInt8) : Outcome (List UInt8) :=
  if usizeMax < value.length + 2 then .error (.lockData "lock data length overflow")
  else if u32Max < value.length + 2 then .error (.lockData "lock data length exceeds u32")
  else .ok (toLE 4 (value.length + 2) ++ [((stage <<< 6) &&& 0xc0) ||| (commandType &&& 0x3f), commandFlag] ++ value)

mutual

def LockData.encode : LockData → Outcome (List UInt8)
  | .mk stage commandType commandFlag value => do
    let value ← value.encode
    encodeBody stage commandType commandFlag value

def LockDataValue.encode : LockDataValue → Outcome (List UInt8)
  | .bytes value => .ok value
  | .pipeline [] => .error (.lockData "pipeline data is empty")
  | .pipeline (item :: items) => encodeItems (item :: items)

/-- The concatenated encodings of the items of a pipeline; the first failing
item fails the whole. -/
def encodeItems : List LockData → Outcome (List UInt8)
  | [] => .ok []
  | item :: items => do
    let front ← item.encode
    let back ← encodeItems items
    .ok (front ++ back)

end

/-- The byte of stage and type gives both back. -/
theorem packed_stage_type {stage commandType : UInt8} (stageFits : stage < 4) (typeFits : commandType < 64) :
    (((stage <<< 6) &&& 0xc0) ||| (commandType &&& 0x3f)) >>> 6 = stage ∧
      (((stage <<< 6) &&& 0xc0) ||| (commandType &&& 0x3f)) &&& 0x3f = commandType := by
  have all : ∀ stage : Fin 4, ∀ commandType : Fin 64,
      (((UInt8.ofNat stage <<< 6) &&& 0xc0) ||| (UInt8.ofNat commandType &&& 0x3f)) >>> 6 = UInt8.ofNat stage ∧
        (((UInt8.ofNat stage <<< 6) &&& 0xc0) ||| (UInt8.ofNat commandType &&& 0x3f)) &&& 0x3f =
          UInt8.ofNat commandType := by
    decide +kernel
  have both := all ⟨stage.toNat, stageFits⟩ ⟨commandType.toNat, typeFits⟩
  simpa only [UInt8.ofNat_toNat] using both

theorem encodeBody_ok_iff {stage commandType commandFlag : UInt8} {value : List UInt8} :
    (∃ bytes, encodeBody stage commandType commandFlag value = .ok bytes) ↔ value.length + 2 ≤ u32Max := by
  unfold encodeBody
  constructor
  · rintro ⟨bytes, encoded⟩
    split at encoded
    · cases encoded
    split at encoded
    · cases encoded
    · omega
  · intro fits
    rw [if_neg (by unfold usizeMax; unfold u32Max at fits; omega), if_neg (by omega)]
    exact ⟨_, rfl⟩

/-- The encoding of a node is its length and a body that reads back as the node. -/
theorem encodeBody_body {stage commandType commandFlag : UInt8} {value bytes : List UInt8}
    (encoded : encodeBody stage commandType commandFlag value = .ok bytes) :
    ∃ body, body = (((stage <<< 6) &&& 0xc0) ||| (commandType &&& 0x3f)) :: commandFlag :: value ∧
      bytes = toLE 4 body.length ++ body ∧ body.length < 256 ^ 4 := by
  have fits := encodeBody_ok_iff.mp ⟨bytes, encoded⟩
  unfold encodeBody at encoded
  split at encoded
  · cases encoded
  split at encoded
  · cases encoded
  · cases encoded
    refine ⟨_, rfl, ?_, ?_⟩
    · simp only [List.cons_append, List.nil_append, List.length_cons, List.append_assoc]
    · simp only [List.length_cons]
      unfold u32Max at fits
      omega

/-- Encoded lock data announces exactly the bytes that follow its length. -/
theorem LockData.encode_prefixed {data : LockData} {bytes : List UInt8} (encoded : data.encode = .ok bytes) :
    ∃ body, bytes = toLE 4 body.length ++ body ∧ body.length < 256 ^ 4 := by
  obtain ⟨stage, commandType, commandFlag, value⟩ := data
  unfold LockData.encode at encoded
  obtain ⟨_, _, outer⟩ := Outcome.bind_eq_ok.mp encoded
  obtain ⟨body, _, prefixed, fits⟩ := encodeBody_body outer
  exact ⟨body, prefixed, fits⟩

/-- The errors of the encoder. -/
def SlockError.OfLockData (err : SlockError) : Prop := ∃ message, err = .lockData message

theorem encodeBody_error {stage commandType commandFlag : UInt8} {value : List UInt8} {err : SlockError}
    (fails : encodeBody stage commandType commandFlag value = .error err) : err.OfLockData := by
  unfold encodeBody at fails
  repeat' split at fails
  all_goals cases fails
  all_goals exact ⟨_, rfl⟩

mutual

theorem LockData.encode_error {err : SlockError} : ∀ data : LockData, data.encode = .error err → err.OfLockData
  | .mk stage commandType commandFlag value, fails => by
    unfold LockData.encode at fails
    rcases Outcome.bind_eq_error.mp fails with inner | ⟨_, _, body⟩
    · exact LockDataValue.encode_error value inner
    · exact encodeBody_error body

theorem LockDataValue.encode_error {err : SlockError} :
    ∀ value : LockDataValue, value.encode = .error err → err.OfLockData
  | .bytes _, fails => nomatch fails
  | .pipeline [], fails => by cases fails; exact ⟨_, rfl⟩
  | .pipeline (item :: items), fails => by
    unfold LockDataValue.encode at fails
    exact encodeItems_error (item :: items) fails

theorem encodeItems_error {err : SlockError} : ∀ items : List LockData, encodeItems items = .error err → err.OfLockData
  | [], fails => nomatch fails
  | item :: items, fails => by
    unfold encodeItems at fails
    rcases Outcome.bind_eq_error.mp fails with front | ⟨_, _, rest⟩
    · exact LockData.encode_error item front
    · rcases Outcome.bind_eq_error.mp rest with back | ⟨_, _, done⟩
      · exact encodeItems_error items back
      · cases done

end

end Ruslock
