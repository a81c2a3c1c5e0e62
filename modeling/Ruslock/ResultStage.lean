import Ruslock.ResultValue

namespace Ruslock
open Wire

namespace LockResultData

/-- Two results that differ in nothing but their stages, the two top bits of the
fifth byte. -/
structure StageApart (data data' : LockResultData) : Prop where
  length : data.raw.length = data'.raw.length
  others : ∀ index, index ≠ 4 → data.raw[index]? = data'.raw[index]?
  typed : data.raw[4]?.map (· &&& 0x3f) = data'.raw[4]?.map (· &&& 0x3f)

/-- Two results of which every accessor but the one of the stage makes the same. -/
structure SameReading (data data' : LockResultData) : Prop extends SameValue data data' where
  commandType : data.commandType = data'.commandType
  flags : data.flags = data'.flags

def ReadsEmpty (data : LockResultData) : Prop := data.asList = .ok [] ∧ data.asMap = .ok ∅

/-- The stage says nothing about the value. -/
structure StageBlind (data data' : LockResultData) : Prop where
  same : SameReading data data'
  unset : data.commandType = some lockDataCommandTypeUnset → ReadsEmpty data ∧ ReadsEmpty data'

/-- A value that is a map: items, and at most three bytes behind the last one. -/
structure MapBody (body : List UInt8) (items : List MapItem) : Prop where
  fits : ∀ item ∈ items, item.Fits
  whole : ∃ trailing, body = items.flatMap MapItem.bytes ++ trailing ∧ trailing.length ≤ 3

/-- If the value is flagged as an array, then all elements that it consists of
are empty. -/
def Listless (data : LockResultData) : Prop :=
  6 ≤ data.raw.length → data.raw.getD 5 0 &&& lockDataFlagValueTypeArray ≠ 0 →
    ∃ body elements, data.valueBytes = .ok body ∧ ListBody body elements ∧ ∀ part ∈ elements, part = []

/-- If the value is flagged as a map, then all items that it consists of are
keys without a value. -/
def Mapless (data : LockResultData) : Prop :=
  6 ≤ data.raw.length → data.raw.getD 5 0 &&& lockDataFlagValueTypeKv ≠ 0 →
    ∃ body items, data.valueBytes = .ok body ∧ MapBody body items ∧ ∀ key value, MapItem.bound key value ∉ items

theorem mapFormat_body_iff {body : List UInt8} {items : List MapItem} :
    mapFormat.Body body items ↔ MapBody body items := by
  have done : ∀ trailing, mapFormat.turn trailing = .done ↔ trailing.length ≤ 3 := by
    intro trailing
    change MapItem.turn trailing = .done ↔ _
    constructor
    · intro finished
      by_contra many
      obtain ⟨length, rest, small, rfl⟩ := eq_word (show 4 ≤ trailing.length by omega)
      rw [MapItem.turn, lookAhead_word small] at finished
      split at finished
      · rename_i ahead
        split at ahead <;> cases ahead
      · cases finished
      · rename_i key behind _
        unfold MapItem.turnKey at finished
        split at finished
        · cases finished
        · split at finished
          · cases finished
          · unfold MapItem.turnValue at finished
            split at finished <;> cases finished
    · intro few
      rw [MapItem.turn, lookAhead_short (by omega)]
  constructor
  · intro ⟨fits, trailing, whole, finished⟩
    exact ⟨fits, trailing, whole, (done trailing).mp finished⟩
  · intro ⟨fits, trailing, whole, few⟩
    exact ⟨fits, trailing, whole, (done trailing).mpr few⟩

/-- A key stays bound. -/
theorem mem_foldl_into {items : List MapItem} {values : ByteMap} {key : String} (within : key ∈ values) :
    key ∈ items.foldl MapItem.into values := by
  induction items generalizing values with
  | nil => exact within
  | cons item items ih =>
    apply ih
    cases item with
    | gap | unvalued other => exact within
    | bound other value => exact (AList.mem_insert _).mpr (.inr within)

/-- Nothing comes of items exactly if none of them has a value. -/
theorem foldl_into_empty {items : List MapItem} :
    items.foldl MapItem.into ∅ = ∅ ↔ ∀ key value, MapItem.bound key value ∉ items := by
  constructor
  · intro empty key value member
    obtain ⟨before, behind, rfl⟩ := List.append_of_mem member
    rw [List.foldl_append, List.foldl_cons] at empty
    have within : key ∈ behind.foldl MapItem.into ((before.foldl MapItem.into ∅).insert key value) :=
      mem_foldl_into ((AList.mem_insert _).mpr (.inl rfl))
    rw [← MapItem.into.eq_3, empty] at within
    exact AList.notMem_empty key within
  · intro unbound
    induction items with
    | nil => rfl
    | cons item items ih =>
      have later : ∀ key value, MapItem.bound key value ∉ items := fun key value member =>
        unbound key value (List.mem_cons_of_mem _ member)
      cases item with
      | gap | unvalued other => exact ih later
      | bound key value => exact absurd List.mem_cons_self (unbound key value)

section Empty

variable {data : LockResultData}

/-- A reading of the value comes to nothing exactly if the value is something
that holds nothing. -/
theorem reading_iff {Item : Type} {run : Outcome Item} {nothing : Item} (Holds : List UInt8 → Prop)
    (unreadable : ∀ err, data.valueOffset = .error err → run = .error err)
    (readable : ∀ offset, data.valueOffset = .ok offset → (run = .ok nothing ↔ Holds (data.raw.drop offset))) :
    run = .ok nothing ↔ ∃ body, data.valueBytes = .ok body ∧ Holds body := by
  cases found : data.valueOffset with
  | error err =>
    rw [unreadable err found, valueBytes_of_error found]
    constructor
    · intro other
      cases other
    · rintro ⟨_, other, _⟩
      cases other
  | ok offset =>
    rw [readable offset found, valueBytes_of_offset found]
    constructor
    · intro holds
      exact ⟨_, rfl, holds⟩
    · rintro ⟨_, same, holds⟩
      cases same
      exact holds

theorem asList_empty_iff (typed : data.raw.getD 4 0 ≠ lockDataCommandTypeUnset) :
    data.asList = .ok [] ↔ Listless data := by
  by_cases array : data.isArrayValue = true
  · obtain ⟨long, _, flagged⟩ := isArrayValue_iff.mp array
    have fails : ∀ err, data.valueOffset = .error err → data.asList = .error err := by
      intro err unreadable
      rw [asList, if_pos array, unreadable]
      rfl
    have reads : ∀ offset, data.valueOffset = .ok offset → (data.asList = .ok [] ↔
        ∃ elements, ListBody (data.raw.drop offset) elements ∧ ∀ part ∈ elements, part = []) := by
      intro offset readable
      rw [asList_eq_ok_iff array readable]
      constructor
      · rintro ⟨elements, body, none⟩
        exact ⟨elements, body, by simpa using none.symm⟩
      · rintro ⟨elements, whole, empty⟩
        exact ⟨elements, whole, by simpa using empty⟩
    rw [reading_iff (fun body => ∃ elements, ListBody body elements ∧ ∀ part ∈ elements, part = []) fails reads]
    constructor
    · rintro ⟨body, found, elements, whole, empty⟩ _ _
      exact ⟨body, elements, found, whole, empty⟩
    · intro listless
      obtain ⟨body, elements, found, whole, empty⟩ := listless long flagged
      exact ⟨body, found, elements, whole, empty⟩
  · rw [asList, if_neg array]
    have vacuous : Listless data := fun long flagged => absurd (isArrayValue_iff.mpr ⟨long, typed, flagged⟩) array
    exact iff_of_true rfl vacuous

theorem asMap_empty_iff (typed : data.raw.getD 4 0 ≠ lockDataCommandTypeUnset) :
    data.asMap = .ok ∅ ↔ Mapless data := by
  by_cases kv : data.isKvValue = true
  · obtain ⟨long, _, flagged⟩ := isKvValue_iff.mp kv
    have fails : ∀ err, data.valueOffset = .error err → data.asMap = .error err := by
      intro err unreadable
      rw [asMap, if_pos kv, unreadable]
      rfl
    have reads : ∀ offset, data.valueOffset = .ok offset → (data.asMap = .ok ∅ ↔
        ∃ items, MapBody (data.raw.drop offset) items ∧ ∀ key value, MapItem.bound key value ∉ items) := by
      intro offset readable
      rw [asMap_of_kv kv readable, (mapLoop_loops data).ok_iff]
      constructor
      · rintro ⟨items, body, none⟩
        exact ⟨items, mapFormat_body_iff.mp body, foldl_into_empty.mp none.symm⟩
      · rintro ⟨items, whole, unbound⟩
        exact ⟨items, mapFormat_body_iff.mpr whole, (foldl_into_empty.mpr unbound).symm⟩
    rw [reading_iff (fun body => ∃ items, MapBody body items ∧ ∀ key value, MapItem.bound key value ∉ items) fails reads]
    constructor
    · rintro ⟨body, found, items, whole, unbound⟩ _ _
      exact ⟨body, items, found, whole, unbound⟩
    · intro mapless
      obtain ⟨body, items, found, whole, unbound⟩ := mapless long flagged
      exact ⟨body, found, items, whole, unbound⟩
  · rw [asMap, if_neg kv]
    have vacuous : Mapless data := fun long flagged => absurd (isKvValue_iff.mpr ⟨long, typed, flagged⟩) kv
    exact iff_of_true rfl vacuous

/-- Only with the first stage is the packed byte of an unset value its type. -/
theorem unset_iff (byte : UInt8) :
    byte = lockDataCommandTypeUnset ↔ byte >>> 6 = 0 ∧ byte &&& 0x3f = lockDataCommandTypeUnset := by
  have all : ∀ byte : Fin 256, UInt8.ofNat byte = lockDataCommandTypeUnset ↔
      UInt8.ofNat byte >>> 6 = 0 ∧ UInt8.ofNat byte &&& 0x3f = lockDataCommandTypeUnset := by
    decide +kernel
  simpa using all ⟨byte.toNat, byte.toNat_lt⟩

theorem packed_of_commandType {type : UInt8} (typed : data.commandType = some type) :
    data.raw.getD 4 0 &&& 0x3f = type ∧ data.stage = some (data.raw.getD 4 0 >>> 6) := by
  unfold commandType at typed
  obtain ⟨byte, found, masked⟩ := Option.map_eq_some_iff.mp typed
  rw [List.getD_eq_getElem?_getD, stage, found]
  exact ⟨masked, rfl⟩

/-- An unset value reads as nothing in the first stage, and otherwise if there
is nothing in it. -/
theorem readsEmpty_iff (unset : data.commandType = some lockDataCommandTypeUnset) :
    ReadsEmpty data ↔ data.stage = some 0 ∨ Listless data ∧ Mapless data := by
  obtain ⟨masked, staged⟩ := packed_of_commandType unset
  by_cases whole : data.raw.getD 4 0 = lockDataCommandTypeUnset
  · have first : data.stage = some 0 := by rw [staged, whole]; rfl
    have list : ¬ data.isArrayValue = true := fun array => (isArrayValue_iff.mp array).2.1 whole
    have map : ¬ data.isKvValue = true := fun kv => (isKvValue_iff.mp kv).2.1 whole
    have empty : ReadsEmpty data := ⟨by rw [asList, if_neg list], by rw [asMap, if_neg map]⟩
    exact iff_of_true empty (.inl first)
  · have later : data.stage ≠ some 0 := by
      rw [staged]
      exact fun zero => whole ((unset_iff _).mpr ⟨Option.some.inj zero, masked⟩)
    rw [ReadsEmpty, asList_empty_iff whole, asMap_empty_iff whole]
    exact (or_iff_right later).symm

end Empty

namespace StageApart

variable {data data' : LockResultData} (apart : StageApart data data')

include apart

theorem drop_eq {offset : Nat} (behind : 4 < offset) : data.raw.drop offset = data'.raw.drop offset := by
  apply List.ext_getElem?
  intro index
  rw [List.getElem?_drop, List.getElem?_drop]
  exact apart.others (offset + index) (by omega)

theorem flag_eq : data.raw.getD 5 0 = data'.raw.getD 5 0 := by
  have same := apart.others 5 (by decide)
  rw [List.getD_eq_getElem?_getD, same, List.getD_eq_getElem?_getD]

theorem valueBytes_eq : data.valueBytes = data'.valueBytes := by
  have flag := apart.flag_eq
  have word : data.raw.drop 6 = data'.raw.drop 6 := apart.drop_eq (by decide)
  have offset : data.valueOffset = data'.valueOffset := by
    simp only [valueOffset, apart.length, flag, word]
  unfold valueBytes
  rw [← offset]
  cases readable : data.valueOffset with
  | error err => rfl
  | ok found =>
    have behind : 4 < found := by
      unfold valueOffset at readable
      split at readable
      · cases readable
      · split at readable
        · split at readable <;> cases readable
          omega
        · cases readable
          decide
    exact congrArg Except.ok (apart.drop_eq behind)

theorem commandType_eq : data.commandType = data'.commandType := apart.typed

theorem flags_eq : data.flags = data'.flags := apart.others 5 (by decide)

theorem listless_iff : Listless data ↔ Listless data' := by
  have flag := apart.flag_eq
  rw [Listless, Listless, apart.length, flag, apart.valueBytes_eq]

theorem mapless_iff : Mapless data ↔ Mapless data' := by
  have flag := apart.flag_eq
  rw [Mapless, Mapless, apart.length, flag, apart.valueBytes_eq]

/-- Only an unset value is looked at together with its stage. -/
theorem sameValue (set : data.commandType ≠ some lockDataCommandTypeUnset) : SameValue data data' := by
  have length := apart.length
  have flag := apart.flag_eq
  have nonUnset : ∀ other : LockResultData, other.commandType ≠ some lockDataCommandTypeUnset →
      6 ≤ other.raw.length → other.raw.getD 4 0 ≠ lockDataCommandTypeUnset := by
    intro other set long whole
    have within : 4 < other.raw.length := by omega
    rw [List.getD_eq_getElem?_getD, List.getElem?_eq_getElem within, Option.getD_some] at whole
    apply set
    rw [commandType, List.getElem?_eq_getElem within, whole]
    rfl
  have own := nonUnset data set
  have other := nonUnset data' (apart.commandType_eq ▸ set)
  rw [← length] at other
  have array : data.isArrayValue = data'.isArrayValue := by
    rw [Bool.eq_iff_iff, isArrayValue_iff, isArrayValue_iff, ← length, ← flag]
    exact and_congr_right fun long => and_congr_left' (iff_of_true (own long) (other long))
  have kv : data.isKvValue = data'.isKvValue := by
    rw [Bool.eq_iff_iff, isKvValue_iff, isKvValue_iff, ← length, ← flag]
    exact and_congr_right fun long => and_congr_left' (iff_of_true (own long) (other long))
  exact .of_same apart.valueBytes_eq (asList_of_same apart.valueBytes_eq array)
    (asMap_of_same apart.valueBytes_eq kv)

end StageApart

/-- The stage says nothing about a value exactly if it is set, if neither stage
differs from the first, or if there is nothing in it. -/
theorem stageBlind_iff {data data' : LockResultData} (apart : StageApart data data') :
    StageBlind data data' ↔
      (data.commandType = some lockDataCommandTypeUnset →
        data.stage = some 0 ∧ data'.stage = some 0 ∨ Listless data ∧ Mapless data) := by
  have type := apart.commandType_eq
  have empty' : data.commandType = some lockDataCommandTypeUnset →
      (ReadsEmpty data' ↔ data'.stage = some 0 ∨ Listless data ∧ Mapless data) := by
    intro unset
    rw [readsEmpty_iff (type ▸ unset), ← apart.listless_iff, ← apart.mapless_iff]
  constructor
  · intro blind unset
    obtain ⟨empty, other⟩ := blind.unset unset
    rcases (readsEmpty_iff unset).mp empty with first | nothing
    · exact ((empty' unset).mp other).imp_left fun first' => ⟨first, first'⟩
    · exact .inr nothing
  · intro holds
    have unset : data.commandType = some lockDataCommandTypeUnset → ReadsEmpty data ∧ ReadsEmpty data' := by
      intro unset
      rcases holds unset with ⟨first, first'⟩ | nothing
      · exact ⟨(readsEmpty_iff unset).mpr (.inl first), (empty' unset).mpr (.inl first')⟩
      · exact ⟨(readsEmpty_iff unset).mpr (.inr nothing), (empty' unset).mpr (.inr nothing)⟩
    refine ⟨⟨?_, type, apart.flags_eq⟩, unset⟩
    by_cases own : data.commandType = some lockDataCommandTypeUnset
    · obtain ⟨⟨list, map⟩, list', map'⟩ := unset own
      exact .of_same apart.valueBytes_eq (list.trans list'.symm) (map.trans map'.symm)
    · exact apart.sameValue own

/-- A stage that is put in the place of another. -/
theorem StageApart.of_bytes (a b c d packed packed' : UInt8) (rest : List UInt8)
    (typed : packed &&& 0x3f = packed' &&& 0x3f) :
    StageApart ⟨a :: b :: c :: d :: packed :: rest⟩ ⟨a :: b :: c :: d :: packed' :: rest⟩ where
  length := rfl
  others index other := by
    rcases index with _ | _ | _ | _ | _ | index
    · rfl
    · rfl
    · rfl
    · rfl
    · exact absurd rfl other
    · rfl
  typed := congrArg some typed

/-- An unset value with an element, in the first and in the second stage. -/
theorem unsetElement_not_blind : ¬ ∀ data data', StageApart data data' → StageBlind data data' := by
  intro claim
  have apart := StageApart.of_bytes 0 0 0 0 0x01 0x41 [2, 1, 0, 0, 0, 97] rfl
  have read := ((claim _ _ apart).unset rfl).2
  have element : ListBody [1, 0, 0, 0, 97] [[97]] := ⟨by decide, [], rfl, by decide⟩
  have found : (⟨[0, 0, 0, 0, 0x41, 2, 1, 0, 0, 0, 97]⟩ : LockResultData).asList = .ok [[97]] :=
    (@asList_eq_ok_iff _ 6 rfl rfl _).mpr ⟨[[97]], element, rfl⟩
  cases found.symm.trans read.1

/-- A number in the first and in the last stage. -/
theorem stageBlind_number : StageBlind ⟨[0, 0, 0, 0, 0x02, 1, 5]⟩ ⟨[0, 0, 0, 0, 0xc2, 1, 5]⟩ :=
  (stageBlind_iff (StageApart.of_bytes 0 0 0 0 0x02 0xc2 [1, 5] rfl)).mpr nofun

end LockResultData

end Ruslock
