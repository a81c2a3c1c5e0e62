import Ruslock.LockResultMap

namespace Ruslock
open Wire

namespace LockResultData

/-- Two results of which every accessor of the value makes the same. -/
structure SameValue (data data' : LockResultData) : Prop where
  asBytes : data.asBytes = data'.asBytes
  asString : data.asString = data'.asString
  asI64 : data.asI64 = data'.asI64
  asList : data.asList = data'.asList
  asStringList : data.asStringList = data'.asStringList
  asMap : data.asMap = data'.asMap
  asStringMap : data.asStringMap = data'.asStringMap

section Value

variable {data data' : LockResultData} {offset : Nat}

/-- The bytes of the value. -/
def valueBytes (data : LockResultData) : Outcome (List UInt8) := do
  let offset ← data.valueOffset
  .ok (data.raw.drop offset)

theorem valueBytes_of_offset (readable : data.valueOffset = .ok offset) :
    data.valueBytes = .ok (data.raw.drop offset) := by
  rw [valueBytes, readable]
  rfl

theorem valueBytes_of_error {err : SlockError} (unreadable : data.valueOffset = .error err) :
    data.valueBytes = .error err := by
  rw [valueBytes, unreadable]
  rfl

/-- The same value is readable in both results or in neither. -/
theorem valueOffset_of_same (same : data.valueBytes = data'.valueBytes) :
    (∃ err, data.valueOffset = .error err ∧ data'.valueOffset = .error err) ∨
      ∃ offset offset', data.valueOffset = .ok offset ∧ data'.valueOffset = .ok offset' ∧
        data.raw.drop offset = data'.raw.drop offset' := by
  unfold valueBytes at same
  cases readable : data.valueOffset with
  | error err =>
    cases readable' : data'.valueOffset with
    | error err' =>
      rw [readable, readable'] at same
      cases same
      exact .inl ⟨err, rfl, rfl⟩
    | ok offset' =>
      rw [readable, readable'] at same
      cases same
  | ok offset =>
    cases readable' : data'.valueOffset with
    | error err' =>
      rw [readable, readable'] at same
      cases same
    | ok offset' =>
      rw [readable, readable'] at same
      exact .inr ⟨offset, offset', rfl, rfl, Except.ok.inj same⟩

theorem le_offset_iff : data.raw.length ≤ offset ↔ data.raw.drop offset = [] := List.drop_eq_nil_iff.symm

theorem asBytes_of_offset (readable : data.valueOffset = .ok offset) :
    data.asBytes = if data.raw.drop offset = [] then none else some (data.raw.drop offset) := by
  simp only [asBytes, readable, le_offset_iff]

theorem asString_of_offset (readable : data.valueOffset = .ok offset) :
    data.asString = readText "invalid utf-8 lock data: " (data.raw.drop offset) := by
  unfold asString
  rw [readable]
  change (if data.raw.length ≤ offset then _ else _) = _
  simp only [le_offset_iff]
  split
  · rename_i empty
    rw [empty]
    exact (readText_utf8Bytes _ "").symm
  · rfl

theorem asI64_of_offset (readable : data.valueOffset = .ok offset) :
    data.asI64 =
      (UInt64.ofNat (ofLE ((List.range 8).map fun index => (data.raw.drop offset).getD index 0))).toInt64 := by
  unfold asI64
  rw [readable]
  simp only [List.getD_eq_getElem?_getD, List.getElem?_drop]

/-- Two readings that start at the value make the same of the same bytes ahead. -/
theorem reading_of_same {Item : Type} {loop loop' : Nat → Outcome Item} (same : data.valueBytes = data'.valueBytes)
    (shift : ∀ offset offset', data.raw.drop offset = data'.raw.drop offset' → loop offset = loop' offset') :
    data.valueOffset >>= loop = data'.valueOffset >>= loop' := by
  obtain ⟨err, unreadable, unreadable'⟩ | ⟨offset, offset', readable, readable', ahead⟩ := valueOffset_of_same same
  · rw [unreadable, unreadable']
    rfl
  · rw [readable, readable']
    exact shift offset offset' ahead

theorem asList_of_same (same : data.valueBytes = data'.valueBytes) (array : data.isArrayValue = data'.isArrayValue) :
    data.asList = data'.asList := by
  have shift : ∀ offset offset', data.raw.drop offset = data'.raw.drop offset' →
      data.listLoop offset [] = data'.listLoop offset' [] := fun _ _ ahead =>
    (listLoop_loops data).shift (listLoop_loops data') ahead
  rw [asList, asList, array, reading_of_same same shift]

theorem asMap_of_same (same : data.valueBytes = data'.valueBytes) (kv : data.isKvValue = data'.isKvValue) :
    data.asMap = data'.asMap := by
  have shift : ∀ offset offset', data.raw.drop offset = data'.raw.drop offset' →
      data.mapLoop offset ∅ = data'.mapLoop offset' ∅ := fun _ _ ahead =>
    (mapLoop_loops data).shift (mapLoop_loops data') ahead
  rw [asMap, asMap, kv, reading_of_same same shift]

/-- Only lists and maps are read with more than the bytes of the value. -/
theorem SameValue.of_same (same : data.valueBytes = data'.valueBytes) (list : data.asList = data'.asList)
    (map : data.asMap = data'.asMap) : SameValue data data' := by
  obtain ⟨err, unreadable, unreadable'⟩ | ⟨offset, offset', readable, readable', ahead⟩ := valueOffset_of_same same
  · constructor
    · simp only [LockResultData.asBytes, unreadable, unreadable']
    · simp only [LockResultData.asString, unreadable, unreadable', bind, Except.bind]
    · simp only [LockResultData.asI64, unreadable, unreadable']
    · exact list
    · simp only [LockResultData.asStringList, list]
    · exact map
    · simp only [LockResultData.asStringMap, map]
  · constructor
    · rw [asBytes_of_offset readable, asBytes_of_offset readable', ahead]
    · rw [asString_of_offset readable, asString_of_offset readable', ahead]
    · rw [asI64_of_offset readable, asI64_of_offset readable', ahead]
    · exact list
    · simp only [LockResultData.asStringList, list]
    · exact map
    · simp only [LockResultData.asStringMap, map]

end Value

end LockResultData

namespace ResultHeader

variable (header : ResultHeader) (value : List UInt8)

/-- Without a property, the bytes before a value. -/
def unadorned (lead : Block 4) (packed flag : UInt8) (plain : flag &&& lockDataFlagContainsProperty = 0) :
    ResultHeader where
  lead := lead
  packed := packed
  flag := flag
  property := none
  plain := plain
  small := small_none

/-- With a property between the flag and the value. -/
def adorned (lead : Block 4) (packed flag : UInt8) (plain : flag &&& lockDataFlagContainsProperty = 0)
    (block : List UInt8) (small : block.length ≤ 65535) : ResultHeader where
  lead := lead
  packed := packed
  flag := flag
  property := some block
  plain := plain
  small other member := by
    obtain rfl := Option.mem_some.mp member
    omega

end ResultHeader

/-- A property in front of a value does not change what is read of the value. -/
theorem property_transparent (lead lead' : Block 4) (packed flag : UInt8) (block value : List UInt8)
    (plain : flag &&& lockDataFlagContainsProperty = 0) (small : block.length ≤ 65535) :
    LockResultData.SameValue ((ResultHeader.adorned lead packed flag plain block small).frame value)
      ((ResultHeader.unadorned lead' packed flag plain).frame value) := by
  have same : ∀ header : ResultHeader, (header.frame value).valueBytes = .ok value := by
    intro header
    rw [LockResultData.valueBytes_of_offset (header.frame_valueOffset value), header.frame_drop]
  refine .of_same ((same _).trans (same _).symm) (LockResultData.asList_of_same ((same _).trans (same _).symm) ?_)
    (LockResultData.asMap_of_same ((same _).trans (same _).symm) ?_)
  · rw [ResultHeader.frame_isArrayValue, ResultHeader.frame_isArrayValue]
    rfl
  · rw [ResultHeader.frame_isKvValue, ResultHeader.frame_isKvValue]
    rfl

/-- A property of two bytes before a list with one element. -/
theorem property_transparent_list :
    LockResultData.SameValue
      ((ResultHeader.adorned (Block.zero 4) 0x40 lockDataFlagValueTypeArray rfl [1, 2] (by decide)).frame [1, 0, 0, 0, 97])
      ((ResultHeader.unadorned (Block.zero 4) 0x40 lockDataFlagValueTypeArray rfl).frame [1, 0, 0, 0, 97]) :=
  property_transparent (Block.zero 4) (Block.zero 4) 0x40 lockDataFlagValueTypeArray [1, 2] [1, 0, 0, 0, 97] rfl
    (by decide)

end Ruslock
