import Mathlib.Data.List.AList
import Ruslock.LockResultList

namespace Ruslock
open Wire

theorem readText_utf8Bytes (context text : String) : readText context (utf8Bytes text) = .ok text := by
  rw [readText, LockResultData.fromUtf8_utf8Bytes]

/-- Only the bytes of a text are read as it. -/
theorem utf8Bytes_of_readText {context text : String} {bytes : List UInt8}
    (read : readText context bytes = .ok text) : bytes = utf8Bytes text := by
  unfold readText at read
  split at read
  · rename_i found same
    cases read
    unfold fromUtf8 at same
    split at same
    · rename_i whole
      cases same
      unfold String.fromUTF8? at whole
      split at whole
      · cases whole
        simp [utf8Bytes, String.fromUTF8]
      · cases whole
    · cases same
  · cases read

namespace LockResultData

/-- A `HashMap` from texts to byte strings. -/
abbrev ByteMap := AList fun _ : String => List UInt8

variable (data : LockResultData)

def isKvValue : Bool :=
  6 ≤ data.raw.length ∧ data.raw.getD 4 0 ≠ lockDataCommandTypeUnset ∧
    data.raw.getD 5 0 &&& lockDataFlagValueTypeKv ≠ 0

/-- The loop of `as_map`. -/
def mapLoop (index : Nat) (values : ByteMap) : Outcome ByteMap :=
  if index + 4 ≤ data.raw.length then do
    let keyLen ← data.readU32 index
    if keyLen = 0 then mapLoop (index + 4) values
    else if data.raw.length < index + 4 + keyLen then .error (.lockData "map key length exceeds data")
    else do
      let key ← readText "invalid utf-8 map key: " ((data.raw.drop (index + 4)).take keyLen)
      if data.raw.length < index + 4 + keyLen + 4 then .error (.lockData "map value length missing")
      else do
        let valueLen ← data.readU32 (index + 4 + keyLen)
        if valueLen = 0 then mapLoop (index + 4 + keyLen + 4) values
        else if data.raw.length < index + 4 + keyLen + 4 + valueLen then
          .error (.lockData "map value length exceeds data")
        else
          mapLoop (index + 4 + keyLen + 4 + valueLen)
            (values.insert key ((data.raw.drop (index + 4 + keyLen + 4)).take valueLen))
  else .ok values
termination_by data.raw.length - index

def asMap : Outcome ByteMap :=
  if data.isKvValue then do
    let index ← data.valueOffset
    data.mapLoop index ∅
  else .ok ∅

/-- The order of the entries stands for that of the `HashMap`: only which of
several invalid values the error names depends on it. -/
def asStringMap : Outcome (AList fun _ : String => String) := do
  let values ← data.asMap
  values.entries.foldlM (fun texts entry => do
    let text ← readText "invalid utf-8 map value: " entry.2
    .ok (texts.insert entry.1 text)) ∅

end LockResultData

/-- What `as_map` takes off its value in one turn: a key without a byte, a key
whose value has none, or a key and its value. -/
inductive MapItem
  | gap
  | unvalued (key : String)
  | bound (key : String) (value : List UInt8)

namespace MapItem

def bytes : MapItem → List UInt8
  | .gap => prefixed []
  | .unvalued key => prefixed (utf8Bytes key) ++ prefixed []
  | .bound key value => prefixed (utf8Bytes key) ++ prefixed value

def Fits : MapItem → Prop
  | .gap => True
  | .unvalued key => utf8Bytes key ≠ [] ∧ (utf8Bytes key).length < 256 ^ 4
  | .bound key value =>
    (utf8Bytes key ≠ [] ∧ (utf8Bytes key).length < 256 ^ 4) ∧ value ≠ [] ∧ value.length < 256 ^ 4

def into (values : LockResultData.ByteMap) : MapItem → LockResultData.ByteMap
  | .gap => values
  | .unvalued _ => values
  | .bound key value => values.insert key value

/-- A turn behind a key that is the text `text`. -/
def turnValue (key : List UInt8) (text : String) (rest : List UInt8) : Turn MapItem SlockError :=
  match lookAhead rest with
  | .short => .fails (.lockData "map value length missing")
  | .cut length => .beyond (4 + key.length + 4 + length) (.lockData "map value length exceeds data")
  | .part value _ => .item (if value = [] then .unvalued text else .bound text value)

/-- A turn behind the length of a key. -/
def turnKey (key rest : List UInt8) : Turn MapItem SlockError :=
  if key = [] then .item .gap
  else
    match readText "invalid utf-8 map key: " key with
    | .error err => .fails err
    | .ok text => turnValue key text rest

def turn (bytes : List UInt8) : Turn MapItem SlockError :=
  match lookAhead bytes with
  | .short => .done
  | .cut length => .beyond (4 + length) (.lockData "map key length exceeds data")
  | .part key rest => turnKey key rest

section Turn

variable {text : String} {rest : List UInt8} {item : MapItem}

theorem turn_prefixed {key : List UInt8} (small : key.length < 256 ^ 4) :
    turn (prefixed key ++ rest) = turnKey key rest := by
  rw [turn, lookAhead_prefixed small]

theorem turnKey_text (nonempty : utf8Bytes text ≠ []) :
    turnKey (utf8Bytes text) rest = turnValue (utf8Bytes text) text rest := by
  rw [turnKey, if_neg nonempty, readText_utf8Bytes]

theorem turn_of_fits (fits : item.Fits) : turn (item.bytes ++ rest) = .item item := by
  cases item with
  | gap => exact turn_prefixed (by decide)
  | unvalued key =>
    obtain ⟨nonempty, small⟩ := fits
    rw [bytes, List.append_assoc, turn_prefixed small, turnKey_text nonempty, turnValue,
      lookAhead_prefixed (by decide)]
    rfl
  | bound key value =>
    obtain ⟨⟨nonempty, small⟩, valued, valueSmall⟩ := fits
    rw [bytes, List.append_assoc, turn_prefixed small, turnKey_text nonempty, turnValue,
      lookAhead_prefixed valueSmall]
    simp only [if_neg valued]

theorem fits_of_turn {input : List UInt8} (taken : turn input = .item item) :
    item.Fits ∧ ∃ rest, input = item.bytes ++ rest := by
  unfold turn at taken
  split at taken
  · cases taken
  · cases taken
  · rename_i key rest found
    obtain ⟨small, rfl⟩ := lookAhead_part_iff.mp found
    unfold turnKey at taken
    split at taken
    · rename_i empty
      cases taken
      exact ⟨trivial, rest, by rw [empty]; rfl⟩
    · rename_i nonempty
      split at taken
      · cases taken
      · rename_i text read
        obtain rfl := utf8Bytes_of_readText read
        unfold turnValue at taken
        split at taken
        · cases taken
        · cases taken
        · rename_i value behind valueFound
          obtain ⟨valueSmall, rfl⟩ := lookAhead_part_iff.mp valueFound
          cases taken
          split
          · rename_i unvalued
            exact ⟨⟨nonempty, small⟩, behind, by rw [unvalued, bytes, List.append_assoc]⟩
          · rename_i valued
            exact ⟨⟨⟨nonempty, small⟩, valued, valueSmall⟩, behind, by rw [bytes, List.append_assoc]⟩

end Turn

end MapItem

/-- Keys and values behind their lengths, as `as_map` reads them. -/
def mapFormat : Format UInt8 MapItem SlockError where
  encode := MapItem.bytes
  Fits := MapItem.Fits
  turn := MapItem.turn
  encode_pos item := by
    cases item <;> simp only [MapItem.bytes, List.length_append, prefixed_length] <;> omega
  item_iff _ _ := by
    constructor
    · exact MapItem.fits_of_turn
    · rintro ⟨fits, rest, rfl⟩
      exact MapItem.turn_of_fits fits

namespace LockResultData

/-- A turn of the loop of `as_map` behind its key. -/
def mapLoopValue (data : LockResultData) (index : Nat) (key : String) (values : ByteMap) : Outcome ByteMap :=
  if data.raw.length < index + 4 then .error (.lockData "map value length missing")
  else do
    let valueLen ← data.readU32 index
    if valueLen = 0 then data.mapLoop (index + 4) values
    else if data.raw.length < index + 4 + valueLen then .error (.lockData "map value length exceeds data")
    else data.mapLoop (index + 4 + valueLen) (values.insert key ((data.raw.drop (index + 4)).take valueLen))

section Loop

variable {data : LockResultData} {index length : Nat} {rest : List UInt8} {values : ByteMap}

theorem mapLoop_word (word : WordAt data.raw index length rest) :
    data.mapLoop index values =
      if length = 0 then data.mapLoop (index + 4) values
      else if rest.length < length then .error (.lockData "map key length exceeds data")
      else readText "invalid utf-8 map key: " (rest.take length) >>= fun key =>
        data.mapLoopValue (index + 4 + length) key values := by
  have total := word.total
  have bound : data.raw.length < index + 4 + length ↔ rest.length < length := by omega
  rw [mapLoop, if_pos (by omega), readU32_of_word word, word.behind]
  simp only [← bound]
  rfl

theorem mapLoopValue_word {key : String} (word : WordAt data.raw index length rest) :
    data.mapLoopValue index key values =
      if length = 0 then data.mapLoop (index + 4) values
      else if rest.length < length then .error (.lockData "map value length exceeds data")
      else data.mapLoop (index + 4 + length) (values.insert key (rest.take length)) := by
  have total := word.total
  have bound : data.raw.length < index + 4 + length ↔ rest.length < length := by omega
  rw [mapLoopValue, if_neg (by omega), readU32_of_word word, word.behind]
  simp only [← bound]
  rfl

/-- The part of a turn behind the key, for a key whose bytes end at `index`. -/
theorem mapLoopValue_turn {key : String} (ahead : data.raw.drop (index + 4 + (utf8Bytes key).length) = rest) :
    data.mapLoopValue (index + 4 + (utf8Bytes key).length) key values =
      mapFormat.proceed MapItem.into data.mapLoop index values (MapItem.turnValue (utf8Bytes key) key rest) := by
  subst ahead
  unfold MapItem.turnValue
  cases found : lookAhead (data.raw.drop (index + 4 + (utf8Bytes key).length)) with
  | short =>
    have short := lookAhead_short_at found
    rw [mapLoopValue, if_pos (by omega)]
    rfl
  | cut length =>
    obtain ⟨_, positive, behind, word, cut⟩ := lookAhead_cut_at found
    rw [mapLoopValue_word word, if_neg positive, if_pos cut]
    rfl
  | part value behind =>
    obtain ⟨_, word, inside, _⟩ := lookAhead_part_at found
    rw [mapLoopValue_word word, if_neg inside, List.take_left' rfl]
    by_cases unvalued : value = []
    · simp [unvalued, Format.proceed, mapFormat, MapItem.bytes, MapItem.into, Nat.add_assoc]
    · simp [unvalued, Format.proceed, mapFormat, MapItem.bytes, MapItem.into, Nat.add_assoc]

/-- The loop of `as_map` takes the turns of its format. -/
theorem mapLoop_loops (data : LockResultData) : mapFormat.Loops data.raw MapItem.into data.mapLoop := by
  intro index values
  change _ = mapFormat.proceed _ _ _ _ (MapItem.turn _)
  unfold MapItem.turn
  cases found : lookAhead (data.raw.drop index) with
  | short =>
    have short := lookAhead_short_at found
    rw [mapLoop, if_neg (by omega)]
    rfl
  | cut length =>
    obtain ⟨_, positive, rest, word, cut⟩ := lookAhead_cut_at found
    rw [mapLoop_word word, if_neg positive, if_pos cut]
    rfl
  | part part rest =>
    obtain ⟨_, word, inside, behind⟩ := lookAhead_part_at found
    rw [mapLoop_word word, if_neg inside, List.take_left' rfl]
    dsimp only
    unfold MapItem.turnKey
    by_cases empty : part = []
    · simp [empty, Format.proceed, mapFormat, MapItem.bytes, MapItem.into]
    · have positive : part.length ≠ 0 := by simpa using empty
      rw [if_neg positive, if_neg empty]
      cases read : readText "invalid utf-8 map key: " part with
      | error err => rfl
      | ok text =>
        obtain rfl := utf8Bytes_of_readText read
        exact mapLoopValue_turn behind

end Loop

theorem isKvValue_iff {data : LockResultData} :
    data.isKvValue = true ↔ 6 ≤ data.raw.length ∧ data.raw.getD 4 0 ≠ lockDataCommandTypeUnset ∧
      data.raw.getD 5 0 &&& lockDataFlagValueTypeKv ≠ 0 := by
  rw [isKvValue, decide_eq_true_eq]

theorem asMap_of_kv {data : LockResultData} {offset : Nat} (kv : data.isKvValue = true)
    (readable : data.valueOffset = .ok offset) : data.asMap = data.mapLoop offset ∅ := by
  rw [asMap, if_pos kv, readable]
  rfl

end LockResultData

theorem ResultHeader.frame_isKvValue (header : ResultHeader) (value : List UInt8) :
    (header.frame value).isKvValue =
      decide (header.packed ≠ lockDataCommandTypeUnset ∧ header.flag &&& lockDataFlagValueTypeKv ≠ 0) := by
  have long := header.frame_long value
  rw [LockResultData.isKvValue, frame_packed, frame_flag, header.flagByte_and (by decide)]
  simp only [long, true_and]

end Ruslock
