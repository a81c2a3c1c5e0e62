import Ruslock.LockResultMap

namespace Ruslock
open Wire

/-- A target, with the number of bits of its `usize`. -/
structure Target where
  bits : Nat
  known : bits = 32 ∨ bits = 64

/-- What a target panics over. -/
inductive Fault
  | overflow
  | index
  | slice
  | capacity

/-- What ends a computation early. -/
inductive Halt
  | fault (fault : Fault)
  | err (err : SlockError)

abbrev Machine (α : Type) := Except Halt α

namespace Machine

variable {α : Type}

/-- A computation that computes with no index. -/
def lift (run : Outcome α) : Machine α := run.mapError Halt.err

/-- `Result::ok`. -/
def attempt : Machine α → Machine (Option α)
  | .ok value => .ok (some value)
  | .error (.err _) => .ok none
  | .error (.fault fault) => .error (.fault fault)

/-- No sum overflows, every index and every slice is in range, and no buffer is
too long. -/
def Safe (run : Machine α) : Prop := ∀ fault, run ≠ .error (.fault fault)

/-- The same, but for the length of a buffer. -/
def Sound (run : Machine α) : Prop := ∀ fault, run = .error (.fault fault) → fault = .capacity

end Machine

/-- `bytes[index]`. -/
def byteAt (bytes : List UInt8) (index : Nat) : Machine UInt8 :=
  match bytes[index]? with
  | some byte => .ok byte
  | none => .error (.fault .index)

/-- `&bytes[start..stop]`. -/
def sliceOf (bytes : List UInt8) (start stop : Nat) : Machine (List UInt8) :=
  if start ≤ stop ∧ stop ≤ bytes.length then .ok ((bytes.drop start).take (stop - start))
  else .error (.fault .slice)

/-- `&bytes[start..]`. -/
def sliceFrom (bytes : List UInt8) (start : Nat) : Machine (List UInt8) :=
  if start ≤ bytes.length then .ok (bytes.drop start) else .error (.fault .slice)

namespace Target

variable (target : Target)

def isizeMax : Nat := 2 ^ (target.bits - 1) - 1

/-- `+` on `usize`. -/
def add (a b : Nat) : Machine { sum : Nat // sum = a + b } :=
  if a + b < 2 ^ target.bits then .ok ⟨a + b, rfl⟩ else .error (.fault .overflow)

/-- `as usize` on a `u32`. -/
def asUsize (number : Nat) : Nat := number % 2 ^ target.bits

/-- `vec![0u8; length]`. -/
def zeros (length : Nat) : Machine (List UInt8) :=
  if length ≤ target.isizeMax then .ok (List.replicate length 0) else .error (.fault .capacity)

end Target

namespace LockResultData

variable (target : Target) (data : LockResultData)

def valueOffsetOn : Machine Nat :=
  if data.raw.length < 6 then .error (.err (.lockData "lock result data shorter than header"))
  else do
    let flag ← byteAt data.raw 5
    if flag &&& lockDataFlagContainsProperty ≠ 0 then
      if data.raw.length < 8 then .error (.err (.lockData "lock result property length missing"))
      else do
        let low ← byteAt data.raw 6
        let high ← byteAt data.raw 7
        let ⟨offset, _⟩ ← target.add 8 (ofLE [low, high])
        .ok offset
    else .ok 6

def asBytesOn : Machine (Option (List UInt8)) := do
  match ← (data.valueOffsetOn target).attempt with
  | none => .ok none
  | some offset =>
    if data.raw.length ≤ offset then .ok none
    else do
      let bytes ← sliceFrom data.raw offset
      .ok (some bytes)

def asStringOn : Machine String := do
  let offset ← data.valueOffsetOn target
  if data.raw.length ≤ offset then .ok ""
  else do
    let bytes ← sliceFrom data.raw offset
    .lift (readText "invalid utf-8 lock data: " bytes)

def asI64On : Machine Int64 := do
  match ← (data.valueOffsetOn target).attempt with
  | none => .ok 0
  | some offset =>
    let bytes ← (List.range 8).mapM fun index => do
      let ⟨position, _⟩ ← target.add offset index
      .ok (data.raw.getD position 0)
    .ok (UInt64.ofNat (ofLE bytes)).toInt64

/-- The test of `is_array_value` and of `is_kv_value`, for the bit of either. -/
def isValueOn (bit : UInt8) : Machine Bool :=
  if 6 ≤ data.raw.length then do
    let packed ← byteAt data.raw 4
    if packed ≠ lockDataCommandTypeUnset then do
      let flag ← byteAt data.raw 5
      .ok (flag &&& bit ≠ 0)
    else .ok false
  else .ok false

def isArrayValueOn : Machine Bool := data.isValueOn lockDataFlagValueTypeArray

def isKvValueOn : Machine Bool := data.isValueOn lockDataFlagValueTypeKv

def readU32On (index : Nat) : Machine Nat := do
  let ⟨stop, _⟩ ← target.add index 4
  if data.raw.length < stop then .error (.err (.lockData "u32 value exceeds data"))
  else do
    let a ← byteAt data.raw index
    let ⟨second, _⟩ ← target.add index 1
    let b ← byteAt data.raw second
    let ⟨third, _⟩ ← target.add index 2
    let c ← byteAt data.raw third
    let ⟨fourth, _⟩ ← target.add index 3
    let d ← byteAt data.raw fourth
    .ok (ofLE [a, b, c, d])

/-- The loop of `as_list`. -/
def listLoopOn (index : Nat) (values : List (List UInt8)) : Machine (List (List UInt8)) := do
  let ⟨ahead, _⟩ ← target.add index 4
  if ahead ≤ data.raw.length then
    let word ← data.readU32On target index
    let valueLen := target.asUsize word
    let ⟨start, _⟩ ← target.add index 4
    if valueLen = 0 then listLoopOn start values
    else
      let ⟨reach, _⟩ ← target.add start valueLen
      if data.raw.length < reach then .error (.err (.lockData "list value length exceeds data"))
      else
        let ⟨stop, _⟩ ← target.add start valueLen
        let value ← sliceOf data.raw start stop
        let ⟨next, _⟩ ← target.add start valueLen
        listLoopOn next (values ++ [value])
  else .ok values
termination_by data.raw.length - index

def asListOn : Machine (List (List UInt8)) := do
  if ← data.isArrayValueOn then
    let index ← data.valueOffsetOn target
    data.listLoopOn target index []
  else .ok []

def asStringListOn : Machine (List String) := do
  let values ← data.asListOn target
  .lift (values.mapM (readText "invalid utf-8 list data: "))

/-- The loop of `as_map`. -/
def mapLoopOn (index : Nat) (values : ByteMap) : Machine ByteMap := do
  let ⟨ahead, _⟩ ← target.add index 4
  if ahead ≤ data.raw.length then
    let word ← data.readU32On target index
    let keyLen := target.asUsize word
    let ⟨start, _⟩ ← target.add index 4
    if keyLen = 0 then mapLoopOn start values
    else
      let ⟨reach, _⟩ ← target.add start keyLen
      if data.raw.length < reach then .error (.err (.lockData "map key length exceeds data"))
      else
        let ⟨stop, _⟩ ← target.add start keyLen
        let bytes ← sliceOf data.raw start stop
        let key ← .lift (readText "invalid utf-8 map key: " bytes)
        let ⟨behind, _⟩ ← target.add start keyLen
        let ⟨ahead, _⟩ ← target.add behind 4
        if data.raw.length < ahead then .error (.err (.lockData "map value length missing"))
        else
          let word ← data.readU32On target behind
          let valueLen := target.asUsize word
          let ⟨start, _⟩ ← target.add behind 4
          if valueLen = 0 then mapLoopOn start values
          else
            let ⟨reach, _⟩ ← target.add start valueLen
            if data.raw.length < reach then .error (.err (.lockData "map value length exceeds data"))
            else
              let ⟨stop, _⟩ ← target.add start valueLen
              let value ← sliceOf data.raw start stop
              let ⟨next, _⟩ ← target.add start valueLen
              mapLoopOn next (values.insert key value)
  else .ok values
termination_by data.raw.length - index

def asMapOn : Machine ByteMap := do
  if ← data.isKvValueOn then
    let index ← data.valueOffsetOn target
    data.mapLoopOn target index ∅
  else .ok ∅

def asStringMapOn : Machine (AList fun _ : String => String) := do
  let values ← data.asMapOn target
  .lift (values.entries.foldlM (fun texts entry => do
    let text ← readText "invalid utf-8 map value: " entry.2
    .ok (texts.insert entry.1 text)) ∅)

end LockResultData

/-- Reads the length and that many bytes into a buffer behind four zeros;
`none` where the input is too short. -/
def readExtraDataOn (target : Target) (input : List UInt8) : Machine (Option (List UInt8 × List UInt8)) :=
  match readExact 4 input with
  | none => .ok none
  | some (lenBytes, input) => do
    let len := target.asUsize (ofLE lenBytes.toList)
    let ⟨total, _⟩ ← target.add len 4
    let data ← target.zeros total
    let free ← sliceFrom data 4
    .ok ((readExact free.length input).map fun (payload, input) => (data.take 4 ++ payload.toList, input))

end Ruslock
