import Ruslock.Codec

namespace Ruslock
open Wire

namespace LockData

def new (stage commandType commandFlag : UInt8) (value : List UInt8) : LockData :=
  .mk stage commandType commandFlag (.bytes value)

def set (value : List UInt8) : LockData := .new lockDataStageCurrent lockDataCommandTypeSet 0 value

def setWithFlags (value : List UInt8) (flags : UInt8) : LockData :=
  .new lockDataStageCurrent lockDataCommandTypeSet flags value

def unset : LockData := .new lockDataStageCurrent lockDataCommandTypeUnset 0 []

def unsetWithFlags (flags : UInt8) : LockData := .new lockDataStageCurrent lockDataCommandTypeUnset flags []

def incr (value : Int64) : LockData :=
  .new lockDataStageCurrent lockDataCommandTypeIncr lockDataFlagValueTypeNumber (toLE 8 value.toUInt64.toNat)

def incrWithFlags (value : Int64) (flags : UInt8) : LockData :=
  .new lockDataStageCurrent lockDataCommandTypeIncr (flags ||| lockDataFlagValueTypeNumber)
    (toLE 8 value.toUInt64.toNat)

def append (value : List UInt8) : LockData := .new lockDataStageCurrent lockDataCommandTypeAppend 0 value

def appendWithFlags (value : List UInt8) (flags : UInt8) : LockData :=
  .new lockDataStageCurrent lockDataCommandTypeAppend flags value

def shift (length : UInt32) : LockData :=
  .new lockDataStageCurrent lockDataCommandTypeShift lockDataFlagValueTypeNumber (toLE 4 length.toNat)

def shiftWithFlags (length : UInt32) (flags : UInt8) : LockData :=
  .new lockDataStageCurrent lockDataCommandTypeShift (flags ||| lockDataFlagValueTypeNumber) (toLE 4 length.toNat)

def executeWithStage (stage : UInt8) (command : LockCommand) (flags : UInt8) : Outcome LockData := do
  let encoded ← (Command.lock command).encode
  .ok (.new stage lockDataCommandTypeExecute flags encoded.header.toList)

def execute (command : LockCommand) : Outcome LockData := executeWithStage lockDataStageCurrent command 0

def pipeline (items : List LockData) : LockData :=
  .mk lockDataStageCurrent lockDataCommandTypePipeline 0 (.pipeline items)

def pipelineWithFlags (items : List LockData) (flags : UInt8) : LockData :=
  .mk lockDataStageCurrent lockDataCommandTypePipeline flags (.pipeline items)

def push (value : List UInt8) : LockData := .new lockDataStageCurrent lockDataCommandTypePush 0 value

def pushWithFlags (value : List UInt8) (flags : UInt8) : LockData :=
  .new lockDataStageCurrent lockDataCommandTypePush flags value

def pop (count : UInt32) : LockData :=
  .new lockDataStageCurrent lockDataCommandTypePop lockDataFlagValueTypeNumber (toLE 4 count.toNat)

def popWithFlags (count : UInt32) (flags : UInt8) : LockData :=
  .new lockDataStageCurrent lockDataCommandTypePop (flags ||| lockDataFlagValueTypeNumber) (toLE 4 count.toNat)

def stage : LockData → UInt8
  | .mk stage _ _ _ => stage

def commandType : LockData → UInt8
  | .mk _ commandType _ _ => commandType

def commandFlag : LockData → UInt8
  | .mk _ _ commandFlag _ => commandFlag

def value : LockData → LockDataValue
  | .mk _ _ _ value => value

end LockData

/-- The length of the UTF-8 sequence that a byte begins, zero where none does. -/
def utf8CharWidth (first : UInt8) : Nat :=
  if first < 0x80 then 1
  else if 0xc2 ≤ first ∧ first ≤ 0xdf then 2
  else if 0xe0 ≤ first ∧ first ≤ 0xef then 3
  else if 0xf0 ≤ first ∧ first ≤ 0xf4 then 4
  else 0

/-- Whether the second byte of a sequence fits its first byte. -/
def utf8SecondFits (first second : UInt8) : Bool :=
  let lowest : UInt8 := if first = 0xe0 then 0xa0 else if first = 0xf0 then 0x90 else 0x80
  let highest : UInt8 := if first = 0xed then 0x9f else if first = 0xf4 then 0x8f else 0xbf
  lowest ≤ second ∧ second ≤ highest

def utf8Continues (byte : UInt8) : Bool := 0x80 ≤ byte ∧ byte ≤ 0xbf

/-- The index of the first sequence that is no UTF-8, and the number of its
bytes, none where the input only ends too early. -/
def utf8Fault (index : Nat) : List UInt8 → Option (Nat × Option Nat)
  | [] => none
  | first :: rest =>
    match utf8CharWidth first, rest with
    | 1, rest => utf8Fault (index + 1) rest
    | 0, _ => some (index, some 1)
    | _, [] => some (index, none)
    | width, second :: rest =>
      if utf8SecondFits first second = false then some (index, some 1)
      else if width = 2 then utf8Fault (index + 2) rest
      else
        match rest with
        | [] => some (index, none)
        | third :: rest =>
          if utf8Continues third = false then some (index, some 2)
          else if width = 3 then utf8Fault (index + 3) rest
          else
            match rest with
            | [] => some (index, none)
            | fourth :: rest =>
              if utf8Continues fourth = false then some (index, some 3) else utf8Fault (index + 4) rest

/-- How `Utf8Error` prints. -/
def utf8ErrorText (bytes : List UInt8) : String :=
  match utf8Fault 0 bytes with
  | some (index, some length) =>
    "invalid utf-8 sequence of " ++ toString length ++ " bytes from index " ++ toString index
  | some (index, none) => "incomplete utf-8 byte sequence from index " ++ toString index
  | none => ""

/-- The bytes of a string, as `Into<Vec<u8>>` gives them. -/
def utf8Bytes (text : String) : List UInt8 := text.toByteArray.data.toList

/-- `String::from_utf8`. -/
def fromUtf8 (bytes : List UInt8) : Except String String :=
  match String.fromUTF8? ⟨bytes.toArray⟩ with
  | some text => .ok text
  | none => .error (utf8ErrorText bytes)

namespace LockResultData

variable (data : LockResultData)

def stage : Option UInt8 := data.raw[4]?.map fun (byte : UInt8) => byte >>> 6

def commandType : Option UInt8 := data.raw[4]?.map fun (byte : UInt8) => byte &&& 0x3f

def flags : Option UInt8 := data.raw[5]?

/-- Where the value begins: behind the flag, or behind the property that the
flag announces. -/
def valueOffset : Outcome Nat :=
  if data.raw.length < 6 then .error (.lockData "lock result data shorter than header")
  else if data.raw.getD 5 0 &&& lockDataFlagContainsProperty ≠ 0 then
    if data.raw.length < 8 then .error (.lockData "lock result property length missing")
    else .ok (8 + ofLE ((data.raw.drop 6).take 2))
  else .ok 6

def asBytes : Option (List UInt8) :=
  match data.valueOffset with
  | .error _ => none
  | .ok offset => if data.raw.length ≤ offset then none else some (data.raw.drop offset)

def asString : Outcome String := do
  let offset ← data.valueOffset
  if data.raw.length ≤ offset then .ok ""
  else
    match fromUtf8 (data.raw.drop offset) with
    | .ok text => .ok text
    | .error err => .error (.lockData ("invalid utf-8 lock data: " ++ err))

/-- The first eight value bytes as a number; missing bytes are zero. -/
def asI64 : Int64 :=
  match data.valueOffset with
  | .error _ => 0
  | .ok offset => (UInt64.ofNat (ofLE ((List.range 8).map fun index => data.raw.getD (offset + index) 0))).toInt64

/-- The buffer that the transport makes of a node: four zero bytes, the
byte of stage and type, the flag, and the value. -/
def buffer (packed flag : UInt8) (value : List UInt8) : LockResultData :=
  ⟨[0, 0, 0, 0, packed, flag] ++ value⟩

section Buffer

variable {packed flag : UInt8} {value : List UInt8}

theorem buffer_valueOffset (plain : flag &&& lockDataFlagContainsProperty = 0) :
    (buffer packed flag value).valueOffset = .ok 6 := by
  unfold valueOffset
  rw [if_neg (by simp [buffer]), if_neg]
  simpa [buffer] using plain

theorem buffer_asBytes (plain : flag &&& lockDataFlagContainsProperty = 0) :
    (buffer packed flag value).asBytes = if value = [] then none else some value := by
  unfold asBytes
  rw [buffer_valueOffset plain]
  cases value <;> simp [buffer]

theorem fromUtf8_utf8Bytes (text : String) : fromUtf8 (utf8Bytes text) = .ok text := by
  have whole : (⟨(utf8Bytes text).toArray⟩ : ByteArray) = text.toByteArray := by simp [utf8Bytes]
  unfold fromUtf8
  rw [whole, String.fromUTF8?, dif_pos text.isValidUTF8]
  rfl

theorem buffer_asString (plain : flag &&& lockDataFlagContainsProperty = 0) (text : String) :
    (buffer packed flag (utf8Bytes text)).asString = .ok text := by
  unfold asString
  rw [buffer_valueOffset plain]
  dsimp only [bind, Except.bind]
  split
  · rename_i short
    have empty : utf8Bytes text = [] := by
      rw [buffer, List.length_append, List.length_cons] at short
      exact List.length_eq_zero_iff.mp (Nat.le_zero.mp (Nat.le_of_add_le_add_left short))
    have same : fromUtf8 (utf8Bytes text) = fromUtf8 (utf8Bytes "") := by rw [empty]; rfl
    rw [fromUtf8_utf8Bytes, fromUtf8_utf8Bytes] at same
    cases same
    rfl
  · have dropped : (buffer packed flag (utf8Bytes text)).raw.drop 6 = utf8Bytes text := rfl
    rw [dropped, fromUtf8_utf8Bytes]

theorem buffer_asI64 (plain : flag &&& lockDataFlagContainsProperty = 0) (short : value.length ≤ 8) :
    (buffer packed flag value).asI64 = (UInt64.ofNat (ofLE value)).toInt64 := by
  unfold asI64
  rw [buffer_valueOffset plain, ← ofLE_padded value short]
  have behind : ∀ index, (buffer packed flag value).raw.getD (6 + index) 0 = value.getD index 0 := by
    intro index
    rw [Nat.add_comm]
    rfl
  simp only [behind]

end Buffer

end LockResultData

/-- What stands before the value of a result: four bytes, the byte of stage and
type, the flag, and the property if there is one. -/
structure ResultHeader where
  lead : Block 4
  packed : UInt8
  flag : UInt8
  property : Option (List UInt8)
  plain : flag &&& lockDataFlagContainsProperty = 0
  small : ∀ block ∈ property, block.length < 256 ^ 2

namespace ResultHeader

theorem small_none : ∀ block ∈ (none : Option (List UInt8)), block.length < 256 ^ 2 := nofun

def flagByte (header : ResultHeader) : UInt8 :=
  if header.property.isSome then header.flag ||| lockDataFlagContainsProperty else header.flag

/-- A property stands behind its length in two bytes. -/
def propertyBytes (header : ResultHeader) : List UInt8 :=
  header.property.elim [] fun block => toLE 2 block.length ++ block

def bytes (header : ResultHeader) : List UInt8 :=
  header.lead.toList ++ [header.packed, header.flagByte] ++ header.propertyBytes

/-- The result that has a value behind this header. -/
def frame (header : ResultHeader) (value : List UInt8) : LockResultData := ⟨header.bytes ++ value⟩

section Frame

variable (header : ResultHeader) (value : List UInt8)

theorem frame_eq : ∃ a b c d, (header.frame value).raw =
    a :: b :: c :: d :: header.packed :: header.flagByte :: (header.propertyBytes ++ value) := by
  obtain ⟨⟨lead, four⟩, packed, flag, property, plain, small⟩ := header
  match lead, four with
  | [a, b, c, d], _ =>
    exact ⟨a, b, c, d, by simp only [frame, bytes, List.cons_append, List.nil_append]⟩

theorem frame_long : 6 ≤ (header.frame value).raw.length := by
  obtain ⟨a, b, c, d, whole⟩ := header.frame_eq value
  rw [whole]
  exact Nat.le_add_left ..

theorem frame_packed : (header.frame value).raw.getD 4 0 = header.packed := by
  obtain ⟨a, b, c, d, whole⟩ := header.frame_eq value
  rw [whole]
  rfl

theorem frame_flag : (header.frame value).raw.getD 5 0 = header.flagByte := by
  obtain ⟨a, b, c, d, whole⟩ := header.frame_eq value
  rw [whole]
  rfl

/-- The property bit is apart from the bits that say how a value is read. -/
theorem flagByte_and {bit : UInt8} (apart : lockDataFlagContainsProperty &&& bit = 0) :
    header.flagByte &&& bit = header.flag &&& bit := by
  unfold flagByte
  split
  · apply UInt8.toBitVec_inj.mp
    have none := congrArg UInt8.toBitVec apart
    simp only [UInt8.toBitVec_and, UInt8.toBitVec_or] at none ⊢
    rw [BitVec.and_or_distrib_right, none]
    exact BitVec.or_zero
  · rfl

theorem flagByte_property : header.flagByte &&& lockDataFlagContainsProperty = 0 ↔ header.property = none := by
  unfold flagByte
  cases header.property with
  | none => simpa using header.plain
  | some block =>
    have set : (header.flag ||| lockDataFlagContainsProperty) &&& lockDataFlagContainsProperty ≠ 0 := by
      have all : ∀ flag : Fin 256, (UInt8.ofNat flag ||| lockDataFlagContainsProperty) &&& lockDataFlagContainsProperty ≠ 0 := by
        decide +kernel
      simpa using all ⟨header.flag.toNat, header.flag.toNat_lt⟩
    simpa using set

theorem frame_valueOffset : (header.frame value).valueOffset = .ok header.bytes.length := by
  obtain ⟨a, b, c, d, whole⟩ := header.frame_eq value
  have length : header.bytes.length = 6 + header.propertyBytes.length := by
    simp only [bytes, List.length_append, Block.length_eq, List.length_cons, List.length_nil]
  have long := header.frame_long value
  rw [LockResultData.valueOffset, if_neg (by omega), frame_flag, length]
  cases present : header.property with
  | none =>
    rw [if_neg (by rw [not_not, flagByte_property, present])]
    rw [propertyBytes, present]
    rfl
  | some block =>
    have small : block.length < 256 ^ 2 := header.small block present
    have set : header.flagByte &&& lockDataFlagContainsProperty ≠ 0 := by
      rw [ne_eq, flagByte_property, present]
      nofun
    have word : ((header.frame value).raw.drop 6).take 2 = toLE 2 block.length := by
      rw [whole, propertyBytes, present]
      rfl
    have enough : ¬ (header.frame value).raw.length < 8 := by
      rw [whole, propertyBytes, present]
      simp
    rw [if_pos set, if_neg enough, word, ofLE_toLE small, propertyBytes, present]
    simp only [Option.elim_some, List.length_append, toLE_length]
    congr 1
    omega

theorem frame_drop : (header.frame value).raw.drop header.bytes.length = value := List.drop_left' rfl

end Frame

end ResultHeader

/-- The transport takes an encoded node off its input and hands out a buffer
with the node's bytes behind four zeros. -/
theorem LockData.readExtraData_encode {data : LockData} {encoded : List UInt8} (run : data.encode = .ok encoded)
    (rest : List UInt8) :
    ∃ value, data.value.encode = .ok value ∧
      readExtraData (encoded ++ rest) =
        some ((LockResultData.buffer (((data.stage <<< 6) &&& 0xc0) ||| (data.commandType &&& 0x3f)) data.commandFlag
          value).raw, rest) := by
  obtain ⟨stage, commandType, commandFlag, inner⟩ := data
  unfold LockData.encode at run
  obtain ⟨value, atValue, outer⟩ := Outcome.bind_eq_ok.mp run
  obtain ⟨body, rfl, rfl, fits⟩ := encodeBody_body outer
  exact ⟨value, atValue, readExtraData_prefixed _ rest fits⟩

theorem ofLE_incr (number : Int64) : (UInt64.ofNat (ofLE (toLE 8 number.toUInt64.toNat))).toInt64 = number := by
  rw [ofLE_toLE number.toUInt64.toNat_lt, UInt64.ofNat_toNat, Int64.toInt64_toUInt64]

theorem ofLE_count (count : UInt32) : (UInt64.ofNat (ofLE (toLE 4 count.toNat))).toInt64.toInt = count.toNat := by
  have bound := count.toNat_lt
  rw [ofLE_toLE bound, UInt64.toInt64_ofNat', Int64.toInt_ofNat_of_lt (by omega)]

/-- What a node that has gone through the transport says about itself. -/
structure LockData.ReadBack (data : LockData) (value : List UInt8) (result : LockResultData) : Prop where
  stage : result.stage = some data.stage
  commandType : result.commandType = some data.commandType
  flags : result.flags = some data.commandFlag
  asBytes : result.asBytes = if value = [] then none else some value
  asString : ∀ text flags,
    data ∈ [.set (utf8Bytes text), .setWithFlags (utf8Bytes text) flags, .append (utf8Bytes text),
      .appendWithFlags (utf8Bytes text) flags, .push (utf8Bytes text), .pushWithFlags (utf8Bytes text) flags] →
    result.asString = .ok text
  asI64_incr : ∀ number flags, data ∈ [.incr number, .incrWithFlags number flags] → result.asI64 = number
  asI64_count : ∀ count flags,
    data ∈ [.shift count, .shiftWithFlags count flags, .pop count, .popWithFlags count flags] →
    result.asI64.toInt = count.toNat

/-- A node without a property is read back through the transport with its
stage, its type, its flag and its value: the bytes of a leaf, or the encoded
items of a pipeline. -/
theorem LockData.readBack {data : LockData} (stageFits : data.stage < 4) (typeFits : data.commandType < 64)
    (plain : data.commandFlag &&& lockDataFlagContainsProperty = 0) {encoded : List UInt8}
    (run : data.encode = .ok encoded) (rest : List UInt8) :
    ∃ value raw, data.value.encode = .ok value ∧ readExtraData (encoded ++ rest) = some (raw, rest) ∧
      data.ReadBack value ⟨raw⟩ := by
  obtain ⟨value, atValue, read⟩ := LockData.readExtraData_encode run rest
  obtain ⟨atStage, atType⟩ := packed_stage_type stageFits typeFits
  refine ⟨value, _, atValue, read, ?_⟩
  constructor
  · exact congrArg some atStage
  · exact congrArg some atType
  · rfl
  · exact LockResultData.buffer_asBytes plain
  · intro text flags member
    have leaf : value = utf8Bytes text := by
      simp only [List.mem_cons, List.not_mem_nil, or_false] at member
      rcases member with rfl | rfl | rfl | rfl | rfl | rfl <;> cases atValue <;> rfl
    rw [leaf]
    exact LockResultData.buffer_asString plain text
  · intro number flags member
    have leaf : value = toLE 8 number.toUInt64.toNat := by
      simp only [List.mem_cons, List.not_mem_nil, or_false] at member
      rcases member with rfl | rfl <;> cases atValue <;> rfl
    rw [← ofLE_incr number, ← leaf]
    exact LockResultData.buffer_asI64 plain (by rw [leaf, toLE_length])
  · intro count flags member
    have leaf : value = toLE 4 count.toNat := by
      simp only [List.mem_cons, List.not_mem_nil, or_false] at member
      rcases member with rfl | rfl | rfl | rfl <;> cases atValue <;> rfl
    rw [← ofLE_count count, ← leaf]
    exact congrArg Int64.toInt (LockResultData.buffer_asI64 plain (by rw [leaf, toLE_length]; decide))

/-- A negative number, in front of the bytes of the next response. -/
theorem LockData.readBack_incr :
    ∃ value raw, (LockData.incr (-3)).value.encode = .ok value ∧
      readExtraData (([10, 0, 0, 0, 2, 1] ++ toLE 8 (-3 : Int64).toUInt64.toNat) ++ [86, 1]) = some (raw, [86, 1]) ∧
        (LockData.incr (-3)).ReadBack value ⟨raw⟩ :=
  LockData.readBack (by decide) (by decide) (by decide) rfl [86, 1]

end Ruslock
