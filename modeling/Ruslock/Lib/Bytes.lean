import Mathlib.Data.List.Basic
import Mathlib.Tactic.Ring
import Mathlib.Algebra.Order.Ring.Nat

namespace Wire

/-- The `width` low bytes of a number, least significant byte first. -/
def toLE : Nat → Nat → List UInt8
  | 0, _ => []
  | width + 1, value => UInt8.ofNat value :: toLE width (value / 256)

/-- The number that a list of bytes spells, least significant byte first. -/
def ofLE : List UInt8 → Nat
  | [] => 0
  | byte :: bytes => byte.toNat + 256 * ofLE bytes

@[simp] theorem toLE_length (width value : Nat) : (toLE width value).length = width := by
  induction width generalizing value with
  | zero => rfl
  | succ width ih => simp only [toLE, List.length_cons, ih]

theorem ofLE_toLE_mod (width value : Nat) : ofLE (toLE width value) = value % 256 ^ width := by
  induction width generalizing value with
  | zero => simp only [toLE, ofLE, Nat.pow_zero, Nat.mod_one]
  | succ width ih =>
    simp only [toLE, ofLE, ih]
    rw [UInt8.toNat_ofNat', pow_succ' 256, Nat.mod_mul]

theorem ofLE_toLE {width value : Nat} (fits : value < 256 ^ width) : ofLE (toLE width value) = value := by
  rw [ofLE_toLE_mod, Nat.mod_eq_of_lt fits]

/-- Zero bytes behind the last one spell the same number. -/
theorem ofLE_padded (bytes : List UInt8) {width : Nat} (fits : bytes.length ≤ width) :
    ofLE ((List.range width).map fun index => bytes.getD index 0) = ofLE bytes := by
  induction bytes generalizing width with
  | nil =>
    induction width with
    | zero => rfl
    | succ width ih =>
      rw [List.range_succ_eq_map, List.map_cons, List.map_map]
      simpa [Function.comp_def, ofLE] using ih (Nat.zero_le width)
  | cons byte bytes ih =>
    cases width with
    | zero => cases fits
    | succ width =>
      rw [List.range_succ_eq_map, List.map_cons, List.map_map, ofLE, ofLE, ← ih (Nat.le_of_succ_le_succ fits)]
      rfl

/-- A byte array of fixed length. -/
structure Block (size : Nat) where
  toList : List UInt8
  length_eq : toList.length = size
  deriving DecidableEq

namespace Block

variable {size : Nat}

attribute [simp] length_eq

@[ext] theorem ext {left right : Block size} (same : left.toList = right.toList) : left = right := by
  cases left
  cases right
  cases same
  rfl

def zero (size : Nat) : Block size := ⟨List.replicate size 0, List.length_replicate⟩

theorem padLeft_length {bytes : List UInt8} (fits : bytes.length ≤ size) :
    (List.replicate (size - bytes.length) 0 ++ bytes).length = size := by
  rw [List.length_append, List.length_replicate, Nat.sub_add_cancel fits]

/-- An array that ends in `bytes`, with zeros before them. -/
def padLeft (bytes : List UInt8) (fits : bytes.length ≤ size) : Block size :=
  ⟨List.replicate (size - bytes.length) 0 ++ bytes, padLeft_length fits⟩

/-- The little-endian bytes of a number, as an array. -/
def ofNatLE (width value : Nat) : Block width := ⟨toLE width value, toLE_length width value⟩

-- The bounds below are Boolean, so that a fixed offset is checked by evaluating it.

def get (block : Block size) (index : Nat) (bound : (index + 1).ble size := by exact Eq.refl true) : UInt8 :=
  block.toList.get ⟨index, by rw [block.length_eq]; exact Nat.le_of_ble_eq_true bound⟩

def set (block : Block size) (index : Nat) (byte : UInt8) : Block size :=
  ⟨block.toList.set index byte, by rw [List.length_set, block.length_eq]⟩

/-- The `count` bytes that start at `start`. -/
def slice (block : Block size) (start count : Nat) (fits : (start + count).ble size := by exact Eq.refl true) :
    Block count :=
  ⟨(block.toList.drop start).take count, by
    have inside : start + count ≤ size := Nat.le_of_ble_eq_true fits
    rw [List.length_take, List.length_drop, block.length_eq]
    omega⟩

/-- The array with `source` written over the bytes that start at `start`. -/
def copyFromSlice {count : Nat} (block : Block size) (start : Nat) (source : Block count)
    (fits : (start + count).ble size := by exact Eq.refl true) : Block size :=
  ⟨block.toList.take start ++ source.toList ++ block.toList.drop (start + count), by
    have inside : start + count ≤ size := Nat.le_of_ble_eq_true fits
    simp only [List.length_append, List.length_take, List.length_drop, length_eq]
    omega⟩

theorem getElem?_copyFromSlice {count : Nat} (block : Block size) (start : Nat) (source : Block count)
    (fits : (start + count).ble size) (index : Nat) :
    (block.copyFromSlice start source fits).toList[index]? =
      if start ≤ index ∧ index < start + count then source.toList[index - start]? else block.toList[index]? := by
  have inside : start + count ≤ size := Nat.le_of_ble_eq_true fits
  have front : (block.toList.take start).length = start := by
    rw [List.length_take, block.length_eq]
    omega
  simp only [copyFromSlice, List.append_assoc]
  by_cases before : index < start
  · rw [List.getElem?_append_left (by omega), List.getElem?_take_of_lt before, if_neg (by omega)]
  · rw [List.getElem?_append_right (by omega), front]
    by_cases inside : index < start + count
    · rw [List.getElem?_append_left (by rw [source.length_eq]; omega), if_pos (by omega)]
    · rw [List.getElem?_append_right (by rw [source.length_eq]; omega), List.getElem?_drop, source.length_eq,
        if_neg (by omega)]
      congr 1
      omega

theorem getElem?_slice (block : Block size) (start count : Nat) (fits : (start + count).ble size) (index : Nat) :
    (block.slice start count fits).toList[index]? = if index < count then block.toList[start + index]? else none := by
  simp only [slice]
  split
  · rename_i inside
    rw [List.getElem?_take_of_lt inside, List.getElem?_drop]
  · rw [List.getElem?_eq_none]
    rw [List.length_take]
    omega

theorem get_eq_iff (block : Block size) (index : Nat) (bound : (index + 1).ble size) (byte : UInt8) :
    block.get index bound = byte ↔ block.toList[index]? = some byte := by
  have inside : index < block.toList.length := by
    rw [block.length_eq]
    exact Nat.le_of_ble_eq_true bound
  rw [List.getElem?_eq_getElem inside, Option.some.injEq]
  rfl

theorem getElem?_get (block : Block size) (index : Nat) (bound : (index + 1).ble size) :
    block.toList[index]? = some (block.get index bound) :=
  (block.get_eq_iff index bound _).mp rfl

/-- Reading back what was just written. -/
@[simp] theorem slice_copyFromSlice_same {count : Nat} (block : Block size) (start : Nat) (source : Block count)
    (fits : (start + count).ble size) : (block.copyFromSlice start source fits).slice start count fits = source := by
  ext1
  apply List.ext_getElem?
  intro index
  rw [getElem?_slice]
  split
  · rename_i inside
    rw [getElem?_copyFromSlice, if_pos (by omega), Nat.add_sub_cancel_left]
  · rw [List.getElem?_eq_none]
    rw [source.length_eq]
    omega

/-- A write leaves every range that it does not overlap alone. -/
theorem slice_copyFromSlice_disjoint {count width : Nat} (block : Block size) (start : Nat) (source : Block count)
    (fits : (start + count).ble size) (begin : Nat) (within : (begin + width).ble size)
    (apart : begin + width ≤ start ∨ start + count ≤ begin) :
    (block.copyFromSlice start source fits).slice begin width within = block.slice begin width within := by
  ext1
  apply List.ext_getElem?
  intro index
  rw [getElem?_slice, getElem?_slice]
  split
  · rw [getElem?_copyFromSlice, if_neg (by omega)]
  · rfl

theorem get_copyFromSlice_disjoint {count : Nat} (block : Block size) (start : Nat) (source : Block count)
    (fits : (start + count).ble size) (index : Nat) (bound : (index + 1).ble size)
    (apart : index < start ∨ start + count ≤ index) :
    (block.copyFromSlice start source fits).get index bound = block.get index bound := by
  rw [get_eq_iff, getElem?_copyFromSlice, if_neg (by omega), getElem?_get]

@[simp] theorem get_set_same (block : Block size) (index : Nat) (bound : (index + 1).ble size) (byte : UInt8) :
    (block.set index byte).get index bound = byte := by
  rw [get_eq_iff]
  have inside : index < block.toList.length := by
    rw [block.length_eq]
    exact Nat.le_of_ble_eq_true bound
  exact List.getElem?_set_self inside

theorem get_set_ne (block : Block size) (index other : Nat) (bound : (other + 1).ble size) (byte : UInt8)
    (apart : index ≠ other) : (block.set index byte).get other bound = block.get other bound := by
  rw [get_eq_iff]
  simp only [set, List.getElem?_set_ne apart]
  exact getElem?_get block other bound

theorem slice_set_disjoint {width : Nat} (block : Block size) (index : Nat) (byte : UInt8) (begin : Nat)
    (within : (begin + width).ble size) (apart : index < begin ∨ begin + width ≤ index) :
    (block.set index byte).slice begin width within = block.slice begin width within := by
  ext1
  apply List.ext_getElem?
  intro position
  rw [getElem?_slice, getElem?_slice]
  split
  · simp only [set]
    rw [List.getElem?_set_ne (by omega)]
  · rfl

/-- An array laid out as consecutive sections holds each section at the sum of
the lengths before it. -/
theorem slice_of_sections {count start : Nat} {block : Block size} {sections : List (List UInt8)}
    {part : Block count} (index : Nat) (fits : (start + count).ble size) (whole : block.toList = sections.flatten)
    (atIndex : sections[index]? = some part.toList)
    (offset : ((sections.take index).map List.length).sum = start) : block.slice start count fits = part := by
  obtain ⟨inside, same⟩ := List.getElem?_eq_some_iff.mp atIndex
  have split : sections.flatten =
      (sections.take index).flatten ++ (part.toList ++ (sections.drop (index + 1)).flatten) := by
    rw [← same, ← List.flatten_cons, ← List.drop_eq_getElem_cons inside, ← List.flatten_append, List.take_append_drop]
  have front : (sections.take index).flatten.length = start := by rw [List.length_flatten, offset]
  ext1
  simp only [slice, whole, split]
  rw [List.drop_left' front, List.take_left' part.length_eq]

theorem get_eq_slice (block : Block size) (index : Nat) (bound : (index + 1).ble size) :
    block.slice index 1 bound = ⟨[block.get index bound], rfl⟩ := by
  ext1
  apply List.ext_getElem?
  intro position
  rw [getElem?_slice]
  split
  · rename_i first
    obtain rfl : position = 0 := by omega
    exact getElem?_get block index bound
  · rw [List.getElem?_eq_none]
    rw [List.length_singleton]
    omega

theorem get_of_sections {start : Nat} {block : Block size} {sections : List (List UInt8)} {byte : UInt8}
    (index : Nat) (bound : (start + 1).ble size) (whole : block.toList = sections.flatten)
    (atIndex : sections[index]? = some [byte])
    (offset : ((sections.take index).map List.length).sum = start) : block.get start bound = byte := by
  have part : block.slice start 1 bound = ⟨[byte], rfl⟩ := slice_of_sections index bound whole atIndex offset
  rw [get_eq_slice] at part
  simpa using congrArg Block.toList part

theorem ofLE_ofNatLE (width value : Nat) (fits : value < 256 ^ width) :
    ofLE (ofNatLE width value).toList = value := ofLE_toLE fits

end Block

/-- Takes exactly `count` bytes from the front of the input. -/
def readExact (count : Nat) (input : List UInt8) : Option (Block count × List UInt8) :=
  if enough : count ≤ input.length then
    some (⟨input.take count, by rw [List.length_take]; omega⟩, input.drop count)
  else none

theorem readExact_append {count : Nat} (block : Block count) (rest : List UInt8) :
    readExact count (block.toList ++ rest) = some (block, rest) := by
  have enough : count ≤ (block.toList ++ rest).length := by
    rw [List.length_append, block.length_eq]
    omega
  rw [readExact, dif_pos enough]
  congr
  · exact List.take_left' block.length_eq
  · exact List.drop_left' block.length_eq

theorem readExact_eq_some {count : Nat} {input rest : List UInt8} {block : Block count}
    (read : readExact count input = some (block, rest)) : input = block.toList ++ rest := by
  unfold readExact at read
  split at read
  · cases read
    exact (List.take_append_drop count input).symm
  · cases read

theorem readExact_eq_none {count : Nat} {input : List UInt8} :
    readExact count input = none ↔ input.length < count := by
  unfold readExact
  split <;> simp <;> omega

/-- Takes a length of four bytes and the bytes that it announces from the front of the input. -/
def readPrefixed (input : List UInt8) : Option (List UInt8 × List UInt8) := do
  let (lenBytes, input) ← readExact 4 input
  let (body, input) ← readExact (ofLE lenBytes.toList) input
  some (body.toList, input)

theorem readPrefixed_append (body rest : List UInt8) (fits : body.length < 256 ^ 4) :
    readPrefixed (toLE 4 body.length ++ body ++ rest) = some (body, rest) := by
  have length := readExact_append (Block.ofNatLE 4 body.length) (body ++ rest)
  have value : ofLE (Block.ofNatLE 4 body.length).toList = body.length := Block.ofLE_ofNatLE _ _ fits
  have whole := readExact_append (⟨body, value.symm⟩ : Block (ofLE (Block.ofNatLE 4 body.length).toList)) rest
  simp only [readPrefixed, List.append_assoc]
  exact Option.bind_eq_some_iff.mpr ⟨_, length, Option.bind_eq_some_iff.mpr ⟨_, whole, rfl⟩⟩

theorem readPrefixed_length {input body rest : List UInt8} (read : readPrefixed input = some (body, rest)) :
    input.length = 4 + body.length + rest.length := by
  obtain ⟨⟨lenBytes, middle⟩, first, tail⟩ := Option.bind_eq_some_iff.mp read
  obtain ⟨⟨whole, last⟩, second, same⟩ := Option.bind_eq_some_iff.mp tail
  cases same
  rw [readExact_eq_some first, readExact_eq_some second]
  simp only [List.length_append, Block.length_eq]
  omega

end Wire
