import Ruslock.UsizeDecoder

namespace Ruslock
open Wire

namespace Machine

variable {α β : Type}

theorem ok_bind (value : α) (next : α → Machine β) : (.ok value : Machine α) >>= next = next value := rfl

theorem safe_ok (value : α) : Safe (.ok value : Machine α) := nofun

theorem safe_lift (run : Outcome α) : Safe (lift run) := by
  intro fault same
  cases run <;> cases same

@[simp] theorem lift_ok (value : α) : lift (.ok value) = .ok value := rfl

@[simp] theorem lift_error (err : SlockError) : lift (.error err : Outcome α) = .error (.err err) := rfl

theorem lift_bind (run : Outcome α) (next : α → Outcome β) :
    lift (run >>= next) = lift run >>= fun value => lift (next value) := by
  cases run <;> rfl

end Machine

section Steps

variable {target : Target} {bytes : List UInt8} {a b start stop index : Nat}

theorem Target.room (target : Target) : 2 ^ 32 ≤ 2 ^ target.bits ∧ target.isizeMax + 2 ^ 31 < 2 ^ target.bits := by
  obtain ⟨bits, rfl | rfl⟩ := target <;> decide

theorem Target.add_ok (fits : a + b < 2 ^ target.bits) : target.add a b = .ok ⟨a + b, rfl⟩ := if_pos fits

theorem Target.add_overflow (past : 2 ^ target.bits ≤ a + b) : target.add a b = .error (.fault .overflow) :=
  if_neg (Nat.not_lt_of_le past)

theorem Target.asUsize_eq {number : Nat} (small : number < 256 ^ 4) : target.asUsize number = number := by
  have room := target.room.1
  exact Nat.mod_eq_of_lt (by omega)

theorem byteAt_ok (inside : index < bytes.length) : byteAt bytes index = .ok (bytes.getD index 0) := by
  rw [byteAt, List.getD_eq_getElem?_getD, List.getElem?_eq_getElem inside]
  rfl

theorem sliceOf_ok (ordered : start ≤ stop) (inside : stop ≤ bytes.length) :
    sliceOf bytes start stop = .ok ((bytes.drop start).take (stop - start)) := if_pos ⟨ordered, inside⟩

theorem sliceFrom_ok (inside : start ≤ bytes.length) : sliceFrom bytes start = .ok (bytes.drop start) := if_pos inside

theorem range_map_getD {count : Nat} (enough : index + count ≤ bytes.length) :
    ((List.range count).map fun place => bytes.getD (index + place) 0) = (bytes.drop index).take count := by
  apply List.ext_getElem
  · rw [List.length_map, List.length_range, List.length_take, List.length_drop]
    omega
  · intro place before within
    rw [List.length_map, List.length_range] at before
    have inside : index + place < bytes.length := by omega
    rw [List.getElem_map, List.getElem_range, List.getElem_take, List.getElem_drop, List.getD_eq_getElem?_getD,
      List.getElem?_eq_getElem inside]
    rfl

end Steps

namespace LockResultData

section Accessors

variable {target : Target} {data : LockResultData} {offset : Nat}

theorem valueOffsetOn_eq (target : Target) (data : LockResultData) :
    data.valueOffsetOn target = .lift data.valueOffset := by
  have room := target.room.1
  unfold valueOffsetOn valueOffset
  split
  · rfl
  · rename_i long
    rw [byteAt_ok (by omega)]
    change (if _ then _ else _) = _
    split
    · split
      · rfl
      · rename_i enough
        have word : ofLE [data.raw.getD 6 0, data.raw.getD 7 0] = ofLE ((data.raw.drop 6).take 2) :=
          congrArg ofLE (range_map_getD (show 6 + 2 ≤ data.raw.length by omega))
        have small := ofLE_lt [data.raw.getD 6 0, data.raw.getD 7 0]
        have fits : 8 + ofLE [data.raw.getD 6 0, data.raw.getD 7 0] < 2 ^ target.bits := by
          change _ < 256 ^ 2 at small
          omega
        rw [byteAt_ok (by omega), byteAt_ok (by omega), ← word]
        change (target.add 8 _ >>= _) = _
        rw [Target.add_ok fits]
        rfl
    · rfl

theorem valueOffset_small (readable : data.valueOffset = .ok offset) : offset < 8 + 256 ^ 2 := by
  unfold valueOffset at readable
  split at readable
  · cases readable
  · split at readable
    · split at readable
      · cases readable
      · have small := ofLE_lt ((data.raw.drop 6).take 2)
        have width : ((data.raw.drop 6).take 2).length = 2 := by
          rw [List.length_take, List.length_drop]
          omega
        rw [width] at small
        cases readable
        omega
    · cases readable
      decide

theorem asBytesOn_eq (target : Target) (data : LockResultData) : data.asBytesOn target = .ok data.asBytes := by
  rw [asBytesOn, valueOffsetOn_eq, asBytes]
  cases data.valueOffset with
  | error err => rfl
  | ok offset =>
    change (if _ then _ else _) = _
    by_cases past : data.raw.length ≤ offset
    · simp only [if_pos past]
    · rw [sliceFrom_ok (by omega)]
      simp only [if_neg past]
      rfl

theorem asStringOn_eq (target : Target) (data : LockResultData) :
    data.asStringOn target = .lift data.asString := by
  rw [asStringOn, valueOffsetOn_eq, asString]
  cases data.valueOffset with
  | error err => rfl
  | ok offset =>
    change (if _ then _ else _) = Machine.lift (if _ then _ else _)
    by_cases past : data.raw.length ≤ offset
    · rw [if_pos past, if_pos past]
      rfl
    · rw [if_neg past, if_neg past, sliceFrom_ok (by omega)]
      rfl

theorem asI64On_eq (target : Target) (data : LockResultData) : data.asI64On target = .ok data.asI64 := by
  have room := target.room.1
  rw [asI64On, valueOffsetOn_eq, asI64]
  cases readable : data.valueOffset with
  | error err => rfl
  | ok offset =>
    have small := valueOffset_small readable
    have each : ∀ indices : List Nat, (∀ index ∈ indices, index < 8) →
        (indices.mapM fun index => do
          let position ← target.add offset index
          (.ok (data.raw.getD position.val 0) : Machine UInt8)) =
        .ok (indices.map fun index => data.raw.getD (offset + index) 0) := by
      intro indices few
      induction indices with
      | nil => rfl
      | cons index indices ih =>
        obtain ⟨here, later⟩ := List.forall_mem_cons.mp few
        rw [List.mapM_cons, Target.add_ok (by omega), ih later]
        rfl
    have sums := each (List.range 8) fun index member => List.mem_range.mp member
    exact congrArg (fun run : Machine (List UInt8) => run >>= fun bytes =>
      .ok (UInt64.ofNat (ofLE bytes)).toInt64) sums

theorem isValueOn_eq (data : LockResultData) (bit : UInt8) :
    data.isValueOn bit = .ok (decide (6 ≤ data.raw.length ∧ data.raw.getD 4 0 ≠ lockDataCommandTypeUnset ∧
      data.raw.getD 5 0 &&& bit ≠ 0)) := by
  unfold isValueOn
  by_cases long : 6 ≤ data.raw.length
  · rw [if_pos long, byteAt_ok (by omega), byteAt_ok (by omega)]
    change (if _ then _ else _) = _
    by_cases typed : data.raw.getD 4 0 = lockDataCommandTypeUnset
    · rw [if_neg (not_not_intro typed), decide_eq_false fun all => all.2.1 typed]
    · rw [if_pos typed]
      simp only [long, typed, true_and, ne_eq, not_false_eq_true]
      rfl
  · rw [if_neg long, decide_eq_false fun all => long all.1]

theorem isArrayValueOn_eq (data : LockResultData) : data.isArrayValueOn = .ok data.isArrayValue :=
  isValueOn_eq data lockDataFlagValueTypeArray

theorem isKvValueOn_eq (data : LockResultData) : data.isKvValueOn = .ok data.isKvValue :=
  isValueOn_eq data lockDataFlagValueTypeKv

end Accessors

section Loops

variable {target : Target} {data : LockResultData} {index length : Nat} {rest : List UInt8}

theorem readU32On_of_word (word : WordAt data.raw index length rest) (room : index + 4 < 2 ^ target.bits) :
    data.readU32On target index = .ok length := by
  have total := word.total
  have inside : index + 4 ≤ data.raw.length := by omega
  have bytes := range_map_getD inside
  rw [readU32On, Target.add_ok room]
  change (if _ then _ else _) = _
  rw [if_neg (Nat.not_lt_of_le inside), byteAt_ok (by omega), Target.add_ok (by omega), Target.add_ok (by omega),
    Target.add_ok (by omega)]
  change (byteAt data.raw (index + 1) >>= fun b => byteAt data.raw (index + 2) >>= fun c =>
    byteAt data.raw (index + 3) >>= fun d => .ok (ofLE [data.raw.getD index 0, b, c, d])) = _
  rw [byteAt_ok (by omega), byteAt_ok (by omega), byteAt_ok (by omega), ← word.word, ← bytes]
  rfl

/-- Behind a length, the part that it announces is taken or found missing. -/
theorem partOn_word {α : Type} {err : SlockError} {next : List UInt8 → Machine α}
    (word : WordAt data.raw index length rest) (long : data.raw.length + 4 < 2 ^ target.bits) :
    (do
      let ⟨reach, _⟩ ← target.add (index + 4) length
      if data.raw.length < reach then .error (.err err)
      else do
        let ⟨stop, _⟩ ← target.add (index + 4) length
        let part ← sliceOf data.raw (index + 4) stop
        next part) =
      if rest.length < length then
        if index + 4 + length < 2 ^ target.bits then .error (.err err) else .error (.fault .overflow)
      else next (rest.take length) := by
  have total := word.total
  by_cases cut : rest.length < length
  · rw [if_pos cut]
    by_cases fits : index + 4 + length < 2 ^ target.bits
    · rw [Target.add_ok fits, if_pos fits]
      exact if_pos (by omega)
    · rw [Target.add_overflow (by omega), if_neg fits]
      rfl
  · rw [if_neg cut, Target.add_ok (by omega)]
    change (if data.raw.length < index + 4 + length then _ else _) = _
    rw [if_neg (by omega)]
    change (sliceOf data.raw (index + 4) (index + 4 + length) >>= next) = _
    rw [sliceOf_ok (by omega) (by omega), Nat.add_sub_cancel_left, word.behind]
    rfl

/-- Behind a length that is not zero, the loop goes on with the part that it announces. -/
theorem sizedOn_word {α : Type} {err : SlockError} {onEmpty later : Machine α} {next : List UInt8 → Machine α}
    (word : WordAt data.raw index length rest) (long : data.raw.length + 4 < 2 ^ target.bits)
    (onward : length ≤ rest.length → next (rest.take length) = later) :
    (if length = 0 then onEmpty
      else do
        let ⟨reach, _⟩ ← target.add (index + 4) length
        if data.raw.length < reach then .error (.err err)
        else do
          let ⟨stop, _⟩ ← target.add (index + 4) length
          let part ← sliceOf data.raw (index + 4) stop
          next part) =
      if length = 0 then onEmpty
      else if rest.length < length then
        if index + 4 + length < 2 ^ target.bits then .error (.err err) else .error (.fault .overflow)
      else later := by
  refine ite_congr rfl (fun _ => rfl) fun _ => (partOn_word word long).trans ?_
  exact ite_congr rfl (fun _ => rfl) fun whole => onward (Nat.le_of_not_lt whole)

theorem listLoopOn_word {values : List (List UInt8)} (word : WordAt data.raw index length rest)
    (small : length < 256 ^ 4) (room : index + 4 < 2 ^ target.bits) (long : data.raw.length + 4 < 2 ^ target.bits) :
    data.listLoopOn target index values =
      if length = 0 then data.listLoopOn target (index + 4) values
      else if rest.length < length then
        if index + 4 + length < 2 ^ target.bits then .error (.err (.lockData "list value length exceeds data"))
        else .error (.fault .overflow)
      else data.listLoopOn target (index + 4 + length) (values ++ [rest.take length]) := by
  have total := word.total
  rw [listLoopOn, Target.add_ok room]
  change (if index + 4 ≤ data.raw.length then _ else _) = _
  rw [if_pos (by omega), readU32On_of_word word room]
  change (if target.asUsize length = 0 then _ else _) = _
  rw [Target.asUsize_eq small]
  refine sizedOn_word word long fun whole => ?_
  rw [Target.add_ok (by omega)]
  rfl

theorem listLoopOn_within (target : Target) (data : LockResultData) (long : data.raw.length + 4 < 2 ^ target.bits) :
    listFormat.LoopsWithin (2 ^ target.bits) 4 (.fault .overflow) Halt.err data.raw pushElement
      (data.listLoopOn target) := by
  intro index values room
  simp only [listFormat]
  cases found : lookAhead (data.raw.drop index) with
  | short =>
    have short := lookAhead_short_at found
    rw [listLoopOn, Target.add_ok room]
    exact if_neg (by omega)
  | cut length =>
    obtain ⟨small, positive, rest, word, cut⟩ := lookAhead_cut_at found
    rw [listLoopOn_word word small room long, if_neg positive, if_pos cut, Nat.add_assoc]
    rfl
  | part part rest =>
    obtain ⟨small, word, inside, _⟩ := lookAhead_part_at found
    rw [listLoopOn_word word small room long, if_neg inside, List.take_left' rfl]
    by_cases empty : part = []
    · simp [empty, Format.proceedWithin, pushElement]
    · simp [empty, Format.proceedWithin, pushElement, Nat.add_assoc]

/-- A turn of the loop of `as_map` behind its key. -/
def mapLoopValueOn (target : Target) (data : LockResultData) (index : Nat) (key : String) (values : ByteMap) :
    Machine ByteMap := do
  let ⟨ahead, _⟩ ← target.add index 4
  if data.raw.length < ahead then .error (.err (.lockData "map value length missing"))
  else
    let word ← data.readU32On target index
    let valueLen := target.asUsize word
    let ⟨start, _⟩ ← target.add index 4
    if valueLen = 0 then data.mapLoopOn target start values
    else
      let ⟨reach, _⟩ ← target.add start valueLen
      if data.raw.length < reach then .error (.err (.lockData "map value length exceeds data"))
      else
        let ⟨stop, _⟩ ← target.add start valueLen
        let value ← sliceOf data.raw start stop
        let ⟨next, _⟩ ← target.add start valueLen
        data.mapLoopOn target next (values.insert key value)

theorem mapLoopOn_word {values : ByteMap} (word : WordAt data.raw index length rest)
    (small : length < 256 ^ 4) (room : index + 4 < 2 ^ target.bits) (long : data.raw.length + 4 < 2 ^ target.bits) :
    data.mapLoopOn target index values =
      if length = 0 then data.mapLoopOn target (index + 4) values
      else if rest.length < length then
        if index + 4 + length < 2 ^ target.bits then .error (.err (.lockData "map key length exceeds data"))
        else .error (.fault .overflow)
      else Machine.lift (readText "invalid utf-8 map key: " (rest.take length)) >>= fun key =>
        mapLoopValueOn target data (index + 4 + length) key values := by
  have total := word.total
  rw [mapLoopOn, Target.add_ok room]
  change (if index + 4 ≤ data.raw.length then _ else _) = _
  rw [if_pos (by omega), readU32On_of_word word room]
  change (if target.asUsize length = 0 then _ else _) = _
  rw [Target.asUsize_eq small]
  refine sizedOn_word word long fun whole => ?_
  rw [Target.add_ok (by omega)]
  rfl

theorem mapLoopValueOn_word {key : String} {values : ByteMap} (word : WordAt data.raw index length rest)
    (small : length < 256 ^ 4) (room : index + 4 < 2 ^ target.bits) (long : data.raw.length + 4 < 2 ^ target.bits) :
    mapLoopValueOn target data index key values =
      if length = 0 then data.mapLoopOn target (index + 4) values
      else if rest.length < length then
        if index + 4 + length < 2 ^ target.bits then .error (.err (.lockData "map value length exceeds data"))
        else .error (.fault .overflow)
      else data.mapLoopOn target (index + 4 + length) (values.insert key (rest.take length)) := by
  have total := word.total
  rw [mapLoopValueOn, Target.add_ok room]
  change (if data.raw.length < index + 4 then _ else _) = _
  rw [if_neg (by omega), readU32On_of_word word room]
  change (if target.asUsize length = 0 then _ else _) = _
  rw [Target.asUsize_eq small]
  refine sizedOn_word word long fun whole => ?_
  rw [Target.add_ok (by omega)]
  rfl

/-- The part of a turn behind the key, for a key whose bytes end at `index`. -/
theorem mapLoopValueOn_turn {key : String} {values : ByteMap}
    (ahead : data.raw.drop (index + 4 + (utf8Bytes key).length) = rest)
    (inside : index + 4 + (utf8Bytes key).length ≤ data.raw.length) (long : data.raw.length + 4 < 2 ^ target.bits) :
    mapLoopValueOn target data (index + 4 + (utf8Bytes key).length) key values =
      mapFormat.proceedWithin (2 ^ target.bits) (.fault .overflow) Halt.err MapItem.into (data.mapLoopOn target) index
        values (MapItem.turnValue (utf8Bytes key) key rest) := by
  have room : index + 4 + (utf8Bytes key).length + 4 < 2 ^ target.bits := by omega
  subst ahead
  unfold MapItem.turnValue
  cases found : lookAhead (data.raw.drop (index + 4 + (utf8Bytes key).length)) with
  | short =>
    have short := lookAhead_short_at found
    rw [mapLoopValueOn, Target.add_ok room]
    exact if_pos (by omega)
  | cut length =>
    obtain ⟨small, positive, behind, word, cut⟩ := lookAhead_cut_at found
    rw [mapLoopValueOn_word word small room long, if_neg positive, if_pos cut]
    simp only [Format.proceedWithin, Nat.add_assoc]
  | part value behind =>
    obtain ⟨small, word, within, _⟩ := lookAhead_part_at found
    rw [mapLoopValueOn_word word small room long, if_neg within, List.take_left' rfl]
    by_cases unvalued : value = []
    · simp [unvalued, Format.proceedWithin, mapFormat, MapItem.bytes, MapItem.into, Nat.add_assoc]
    · simp [unvalued, Format.proceedWithin, mapFormat, MapItem.bytes, MapItem.into, Nat.add_assoc]

theorem mapLoopOn_within (target : Target) (data : LockResultData) (long : data.raw.length + 4 < 2 ^ target.bits) :
    mapFormat.LoopsWithin (2 ^ target.bits) 4 (.fault .overflow) Halt.err data.raw MapItem.into
      (data.mapLoopOn target) := by
  intro index values room
  change _ = mapFormat.proceedWithin _ _ _ _ _ _ _ (MapItem.turn _)
  unfold MapItem.turn
  cases found : lookAhead (data.raw.drop index) with
  | short =>
    have short := lookAhead_short_at found
    rw [mapLoopOn, Target.add_ok room]
    exact if_neg (by omega)
  | cut length =>
    obtain ⟨small, positive, rest, word, cut⟩ := lookAhead_cut_at found
    rw [mapLoopOn_word word small room long, if_neg positive, if_pos cut, Nat.add_assoc]
    rfl
  | part part rest =>
    obtain ⟨small, word, inside, behind⟩ := lookAhead_part_at found
    have total := word.total
    rw [List.length_append] at total
    rw [mapLoopOn_word word small room long, if_neg inside, List.take_left' rfl]
    dsimp only
    unfold MapItem.turnKey
    by_cases empty : part = []
    · simp [empty, Format.proceedWithin, mapFormat, MapItem.bytes, MapItem.into]
    · have positive : part.length ≠ 0 := by simpa using empty
      rw [if_neg positive, if_neg empty]
      cases read : readText "invalid utf-8 map key: " part with
      | error err => rfl
      | ok text =>
        obtain rfl := utf8Bytes_of_readText read
        exact mapLoopValueOn_turn behind (by omega) long

end Loops

/-- Behind whole elements, a length points past the last address. -/
def ListOverrun (target : Target) (data : LockResultData) : Prop :=
  data.isArrayValue = true ∧ ∃ offset, data.valueOffset = .ok offset ∧
    listFormat.Overruns (2 ^ target.bits) offset (data.raw.drop offset)

/-- Behind whole items, a length points past the last address. -/
def MapOverrun (target : Target) (data : LockResultData) : Prop :=
  data.isKvValue = true ∧ ∃ offset, data.valueOffset = .ok offset ∧
    mapFormat.Overruns (2 ^ target.bits) offset (data.raw.drop offset)

section Reach

/-- What a length announces ends less than 2^32 bytes behind the buffer. -/
theorem cut_near {rest : List UInt8} {length : Nat} (found : lookAhead rest = .cut length) :
    4 + length ≤ rest.length + 256 ^ 4 := by
  obtain ⟨small, behind, rfl, _⟩ := lookAhead_cut_iff.mp found
  rw [List.length_append, toLE_length]
  omega

theorem listFormat_near (rest : List UInt8) (reach : Nat) (err : SlockError)
    (beyond : listFormat.turn rest = .beyond reach err) : reach ≤ rest.length + 256 ^ 4 := by
  simp only [listFormat] at beyond
  split at beyond
  · cases beyond
  · rename_i length found
    cases beyond
    exact cut_near found
  · cases beyond

theorem mapFormat_near (rest : List UInt8) (reach : Nat) (err : SlockError)
    (beyond : mapFormat.turn rest = .beyond reach err) : reach ≤ rest.length + 256 ^ 4 := by
  change MapItem.turn rest = _ at beyond
  unfold MapItem.turn at beyond
  split at beyond
  · cases beyond
  · rename_i length found
    cases beyond
    exact cut_near found
  · rename_i key behind found
    obtain ⟨_, rfl⟩ := lookAhead_part_iff.mp found
    unfold MapItem.turnKey at beyond
    split at beyond
    · cases beyond
    · split at beyond
      · cases beyond
      · unfold MapItem.turnValue at beyond
        split at beyond
        · cases beyond
        · rename_i length ahead
          have near := cut_near ahead
          cases beyond
          rw [List.length_append, prefixed_length]
          omega
        · cases beyond

end Reach

section Values

variable {target : Target} {data : LockResultData}

theorem asListOn_overflow (small : data.raw.length ≤ target.isizeMax) (overrun : ListOverrun target data) :
    data.asListOn target = .error (.fault .overflow) := by
  have room := target.room
  obtain ⟨array, offset, readable, overruns⟩ := overrun
  have start := valueOffset_small readable
  have within := listLoopOn_within target data (by omega)
  rw [asListOn, isArrayValueOn_eq, array, valueOffsetOn_eq, readable]
  exact within.overflows (by omega) (by omega) overruns

theorem asListOn_eq_lift (small : data.raw.length ≤ target.isizeMax) (inside : ¬ ListOverrun target data) :
    data.asListOn target = .lift data.asList := by
  have room := target.room
  rw [asListOn, isArrayValueOn_eq, asList, valueOffsetOn_eq]
  cases array : data.isArrayValue with
  | false => rfl
  | true =>
    cases readable : data.valueOffset with
    | error err => rfl
    | ok offset =>
      have start := valueOffset_small readable
      have within := listLoopOn_within target data (by omega)
      exact within.eq_mapError (listLoop_loops data) (by omega) (by omega) fun overruns =>
        inside ⟨array, offset, readable, overruns⟩

theorem asMapOn_overflow (small : data.raw.length ≤ target.isizeMax) (overrun : MapOverrun target data) :
    data.asMapOn target = .error (.fault .overflow) := by
  have room := target.room
  obtain ⟨kv, offset, readable, overruns⟩ := overrun
  have start := valueOffset_small readable
  have within := mapLoopOn_within target data (by omega)
  rw [asMapOn, isKvValueOn_eq, kv, valueOffsetOn_eq, readable]
  exact within.overflows (by omega) (by omega) overruns

theorem asMapOn_eq_lift (small : data.raw.length ≤ target.isizeMax) (inside : ¬ MapOverrun target data) :
    data.asMapOn target = .lift data.asMap := by
  have room := target.room
  rw [asMapOn, isKvValueOn_eq, asMap, valueOffsetOn_eq]
  cases kv : data.isKvValue with
  | false => rfl
  | true =>
    cases readable : data.valueOffset with
    | error err => rfl
    | ok offset =>
      have start := valueOffset_small readable
      have within := mapLoopOn_within target data (by omega)
      exact within.eq_mapError (mapLoop_loops data) (by omega) (by omega) fun overruns =>
        inside ⟨kv, offset, readable, overruns⟩

theorem asListOn_safe_iff (small : data.raw.length ≤ target.isizeMax) :
    (data.asListOn target).Safe ∧ (data.asStringListOn target).Safe ↔ ¬ ListOverrun target data := by
  constructor
  · intro ⟨safe, _⟩ overrun
    exact safe .overflow (asListOn_overflow small overrun)
  · intro inside
    rw [asStringListOn, asListOn_eq_lift small inside, ← Machine.lift_bind]
    exact ⟨Machine.safe_lift _, Machine.safe_lift _⟩

theorem asMapOn_safe_iff (small : data.raw.length ≤ target.isizeMax) :
    (data.asMapOn target).Safe ∧ (data.asStringMapOn target).Safe ↔ ¬ MapOverrun target data := by
  constructor
  · intro ⟨safe, _⟩ overrun
    exact safe .overflow (asMapOn_overflow small overrun)
  · intro inside
    rw [asStringMapOn, asMapOn_eq_lift small inside, ← Machine.lift_bind]
    exact ⟨Machine.safe_lift _, Machine.safe_lift _⟩

theorem not_listOverrun_of_wide (wide : target.bits = 64) (small : data.raw.length ≤ target.isizeMax) :
    ¬ ListOverrun target data := by
  rintro ⟨_, offset, readable, overruns⟩
  have start := valueOffset_small readable
  have far := overruns.near listFormat_near
  rw [List.length_drop] at far
  rw [Target.isizeMax, wide] at small
  rw [wide] at far
  omega

theorem not_mapOverrun_of_wide (wide : target.bits = 64) (small : data.raw.length ≤ target.isizeMax) :
    ¬ MapOverrun target data := by
  rintro ⟨_, offset, readable, overruns⟩
  have start := valueOffset_small readable
  have far := overruns.near mapFormat_near
  rw [List.length_drop] at far
  rw [Target.isizeMax, wide] at small
  rw [wide] at far
  omega

end Values

end LockResultData

section ExtraData

variable {target : Target} {announced : Nat} {rest : List UInt8}

theorem readExtraDataOn_word (small : announced < 256 ^ 4) :
    readExtraDataOn target (toLE 4 announced ++ rest) =
      if 2 ^ target.bits ≤ announced + 4 then .error (.fault .overflow)
      else if target.isizeMax < announced + 4 then .error (.fault .capacity)
      else .ok (readExtraData (toLE 4 announced ++ rest)) := by
  have word : readExact 4 (toLE 4 announced ++ rest) = some (Block.ofNatLE 4 announced, rest) :=
    readExact_append (Block.ofNatLE 4 announced) rest
  have value : ofLE (Block.ofNatLE 4 announced).toList = announced := Block.ofLE_ofNatLE _ _ small
  rw [readExtraDataOn, word]
  change (target.add (target.asUsize (ofLE (Block.ofNatLE 4 announced).toList)) 4 >>= _) = _
  rw [value, Target.asUsize_eq small]
  by_cases wraps : 2 ^ target.bits ≤ announced + 4
  · rw [if_pos wraps, Target.add_overflow wraps]
    rfl
  · rw [if_neg wraps, Target.add_ok (by omega)]
    by_cases long : target.isizeMax < announced + 4
    · rw [if_pos long]
      change (target.zeros (announced + 4) >>= _) = _
      rw [Target.zeros, if_neg (by omega)]
      rfl
    · rw [if_neg long]
      have free : sliceFrom (List.replicate (announced + 4) 0) 4 = .ok (List.replicate announced 0) := by
        rw [sliceFrom_ok (by rw [List.length_replicate]; omega), List.drop_replicate, Nat.add_sub_cancel]
      have zeros : (List.replicate (announced + 4) (0 : UInt8)).take 4 = List.replicate 4 0 := by
        rw [List.take_replicate, Nat.min_eq_left (by omega)]
      have payload : ∀ count, count = ofLE (Block.ofNatLE 4 announced).toList →
          ((readExact count rest).map fun read => (List.replicate 4 0 ++ read.1.toList, read.2)) =
            readExtraData (toLE 4 announced ++ rest) := by
        rintro count rfl
        rw [readExtraData, word]
        simp only [Option.bind_eq_bind, Option.bind_some]
        cases readExact (ofLE (Block.ofNatLE 4 announced).toList) rest <;> rfl
      change (target.zeros (announced + 4) >>= _) = _
      rw [Target.zeros, if_pos (by omega), Machine.ok_bind, free, Machine.ok_bind, zeros]
      exact congrArg Except.ok (payload _ (List.length_replicate.trans value.symm))

theorem readExtraDataOn_short {input : List UInt8} (short : input.length < 4) :
    readExtraDataOn target input = .ok none := by
  rw [readExtraDataOn, readExact_eq_none.mpr short]

/-- An input that announces as many bytes as it begins with. -/
def Announces (input : List UInt8) (announced : Nat) : Prop :=
  announced < 256 ^ 4 ∧ ∃ rest, input = toLE 4 announced ++ rest

theorem readExtraDataOn_sound_iff {input : List UInt8} :
    (readExtraDataOn target input).Sound ↔
      ∀ announced, Announces input announced → announced + 4 < 2 ^ target.bits := by
  constructor
  · rintro sound announced ⟨small, rest, rfl⟩
    by_contra past
    have wraps : 2 ^ target.bits ≤ announced + 4 := Nat.le_of_not_lt past
    have overflow := sound .overflow (by rw [readExtraDataOn_word small, if_pos wraps])
    cases overflow
  · intro inside fault same
    by_cases short : input.length < 4
    · rw [readExtraDataOn_short short] at same
      cases same
    · obtain ⟨announced, rest, small, rfl⟩ := eq_word (Nat.le_of_not_lt short)
      have fits := inside announced ⟨small, rest, rfl⟩
      rw [readExtraDataOn_word small, if_neg (Nat.not_le_of_lt fits)] at same
      split at same
      · cases same
        rfl
      · cases same

end ExtraData

/-- No byte of a server makes a decoder compute with a wrapped sum, an index or
a slice that is out of range. -/
structure DecoderSafe (target : Target) (data : LockResultData) (input : List UInt8) : Prop where
  asBytes : (data.asBytesOn target).Safe
  asString : (data.asStringOn target).Safe
  asI64 : (data.asI64On target).Safe
  asList : (data.asListOn target).Safe
  asStringList : (data.asStringListOn target).Safe
  asMap : (data.asMapOn target).Safe
  asStringMap : (data.asStringMapOn target).Safe
  extraData : (readExtraDataOn target input).Sound

def narrow : Target := ⟨32, .inl rfl⟩

/-- A decoder is safe exactly if no length points past the last address: always
on a target of 64 bits. A buffer longer than half the addresses is refused with
a panic. -/
theorem decoderSafe_iff (target : Target) (data : LockResultData) (input : List UInt8)
    (small : data.raw.length ≤ target.isizeMax) :
    (DecoderSafe target data input ↔
      ¬ LockResultData.ListOverrun target data ∧ ¬ LockResultData.MapOverrun target data ∧
        ∀ announced, Announces input announced → announced + 4 < 2 ^ target.bits) ∧
    (target.bits = 64 → DecoderSafe target data input) ∧
    ∀ announced, Announces input announced →
      (readExtraDataOn target input = .error (.fault .capacity) ↔
        target.isizeMax < announced + 4 ∧ announced + 4 < 2 ^ target.bits) := by
  have safe_iff : DecoderSafe target data input ↔
      ¬ LockResultData.ListOverrun target data ∧ ¬ LockResultData.MapOverrun target data ∧
        ∀ announced, Announces input announced → announced + 4 < 2 ^ target.bits := by
    rw [← LockResultData.asListOn_safe_iff small, ← LockResultData.asMapOn_safe_iff small, ← readExtraDataOn_sound_iff]
    constructor
    · intro safe
      exact ⟨⟨safe.asList, safe.asStringList⟩, ⟨safe.asMap, safe.asStringMap⟩, safe.extraData⟩
    · intro ⟨⟨asList, asStringList⟩, ⟨asMap, asStringMap⟩, extraData⟩
      have asBytes : (data.asBytesOn target).Safe := by
        rw [LockResultData.asBytesOn_eq]
        exact Machine.safe_ok _
      have asString : (data.asStringOn target).Safe := by
        rw [LockResultData.asStringOn_eq]
        exact Machine.safe_lift _
      have asI64 : (data.asI64On target).Safe := by
        rw [LockResultData.asI64On_eq]
        exact Machine.safe_ok _
      exact ⟨asBytes, asString, asI64, asList, asStringList, asMap, asStringMap, extraData⟩
  refine ⟨safe_iff, ?_, ?_⟩
  · intro wide
    refine safe_iff.mpr ⟨LockResultData.not_listOverrun_of_wide wide small,
      LockResultData.not_mapOverrun_of_wide wide small, ?_⟩
    intro announced announces
    have bound := announces.1
    rw [wide]
    omega
  · rintro announced ⟨bound, rest, rfl⟩
    rw [readExtraDataOn_word bound]
    by_cases wraps : 2 ^ target.bits ≤ announced + 4
    · rw [if_pos wraps]
      exact iff_of_false nofun fun both => by omega
    · rw [if_neg wraps]
      split
      · exact iff_of_true rfl ⟨‹_›, by omega⟩
      · exact iff_of_false nofun fun both => by omega

/-- An element that is announced as long as there are addresses. -/
theorem wrappedElement_not_safe :
    ¬ ∀ (target : Target) (data : LockResultData) (input : List UInt8), data.raw.length ≤ target.isizeMax →
      DecoderSafe target data input := by
  intro claim
  have small : [0, 0, 0, 0, 0, 2, 255, 255, 255, 255].length ≤ narrow.isizeMax := by decide
  have safe := (claim narrow ⟨[0, 0, 0, 0, 0, 2, 255, 255, 255, 255]⟩ [] small).asList
  have element : listFormat.turn [255, 255, 255, 255] =
      .beyond (4 + 4294967295) (.lockData "list value length exceeds data") := rfl
  have overruns : listFormat.Overruns (2 ^ narrow.bits) 6 [255, 255, 255, 255] :=
    ⟨[], _, _, _, List.forall_mem_nil _, rfl, element, by decide⟩
  exact safe .overflow (LockResultData.asListOn_overflow small ⟨rfl, 6, rfl, overruns⟩)

/-- On 32 bits, a number and a length of three bytes. -/
theorem decoderSafe_number : DecoderSafe narrow ⟨[0, 0, 0, 0, 2, 1, 5]⟩ [3, 0, 0, 0, 1, 2, 3] := by
  refine (decoderSafe_iff narrow ⟨[0, 0, 0, 0, 2, 1, 5]⟩ [3, 0, 0, 0, 1, 2, 3] (by decide)).1.mpr ⟨?_, ?_, ?_⟩
  · intro overrun
    exact absurd overrun.1 (by decide)
  · intro overrun
    exact absurd overrun.1 (by decide)
  · rintro announced ⟨small, rest, same⟩
    have word := congrArg (fun bytes => ofLE (bytes.take 4)) same
    rw [List.take_left' (toLE_length 4 announced), ofLE_toLE small] at word
    rw [← word]
    decide

end Ruslock
