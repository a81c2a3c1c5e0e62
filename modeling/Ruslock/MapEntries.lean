import Ruslock.LockResultMap

namespace Ruslock
open Wire

theorem utf8Bytes_eq_nil {text : String} : utf8Bytes text = [] ↔ text = "" := by
  constructor
  · intro empty
    have same : fromUtf8 (utf8Bytes text) = fromUtf8 (utf8Bytes "") := by rw [empty]; rfl
    rw [LockResultData.fromUtf8_utf8Bytes, LockResultData.fromUtf8_utf8Bytes] at same
    exact Except.ok.inj same
  · rintro rfl
    rfl

/-- An entry as a server writes it into a map. -/
structure MapEntry where
  key : String
  value : List UInt8
  deriving DecidableEq

namespace MapEntry

def bytes (entry : MapEntry) : List UInt8 := prefixed (utf8Bytes entry.key) ++ prefixed entry.value

/-- Both lengths can be written in four bytes. -/
structure Fits (entry : MapEntry) : Prop where
  key : (utf8Bytes entry.key).length < 256 ^ 4
  value : entry.value.length < 256 ^ 4

/-- An entry that belongs into the map. -/
def Complete (entry : MapEntry) : Prop := entry.key ≠ "" ∧ entry.value ≠ []

instance : DecidablePred Complete := fun _ => inferInstanceAs (Decidable (_ ∧ _))

/-- An entry without a key has no value either. -/
def Keyed (entry : MapEntry) : Prop := entry.key = "" → entry.value = []

/-- What `as_map` takes an entry for. -/
def items (entry : MapEntry) : List MapItem :=
  if entry.key = "" then [.gap, .gap]
  else if entry.value = [] then [.unvalued entry.key]
  else [.bound entry.key entry.value]

theorem Complete.keyed {entry : MapEntry} (complete : entry.Complete) : entry.Keyed :=
  fun empty => absurd empty complete.1

end MapEntry

/-- The last value, if there is one, that a key is given. -/
def lastValue (entries : List MapEntry) (key : String) : Option (List UInt8) :=
  (entries.reverse.find? fun entry => entry.key = key ∧ entry.Complete).map MapEntry.value

/-- The bytes of entries one after the other. -/
def entriesBytes (entries : List MapEntry) : List UInt8 := entries.flatMap MapEntry.bytes

/-- What `as_map` makes of entries that it takes for what they are. -/
def entriesMap (entries : List MapEntry) : LockResultData.ByteMap :=
  (entries.flatMap MapEntry.items).foldl MapItem.into ∅

/-- The map of a value of entries is that of their last values, and an entry
without a key or a value can be left out between others. -/
structure MapAligned (header : ResultHeader) (entries : List MapEntry) : Prop where
  bound : ∃ map, (header.frame (entriesBytes entries)).asMap = .ok map ∧
    ∀ key, map.lookup key = lastValue entries key
  transparent : ∀ entry ∈ entries, ¬ entry.Complete → ∀ front back : List MapEntry,
    (∀ other ∈ front ++ back, other.Fits ∧ other.Complete) →
    (header.frame (entriesBytes (front ++ entry :: back))).asMap =
      (header.frame (entriesBytes (front ++ back))).asMap

section Items

variable {entry : MapEntry} {entries : List MapEntry}

theorem MapEntry.items_fits (fits : entry.Fits) : ∀ item ∈ entry.items, item.Fits := by
  unfold MapEntry.items
  split
  · intro item member
    obtain rfl : item = .gap := by simpa using member
    trivial
  · rename_i key
    have nonempty : utf8Bytes entry.key ≠ [] := fun empty => key (utf8Bytes_eq_nil.mp empty)
    split
    · intro item member
      rw [List.mem_singleton.mp member]
      exact ⟨nonempty, fits.key⟩
    · rename_i value
      intro item member
      rw [List.mem_singleton.mp member]
      exact ⟨⟨nonempty, fits.key⟩, value, fits.value⟩

theorem MapEntry.items_bytes (keyed : entry.Keyed) : entry.items.flatMap MapItem.bytes = entry.bytes := by
  unfold MapEntry.items MapEntry.bytes
  split
  · rename_i key
    rw [key, keyed key]
    rfl
  · split
    · rename_i value
      rw [List.flatMap_singleton, value]
      rfl
    · rw [List.flatMap_singleton]
      rfl

/-- An entry that is not complete adds nothing. -/
theorem MapEntry.items_into (incomplete : ¬ entry.Complete) (values : LockResultData.ByteMap) :
    entry.items.foldl MapItem.into values = values := by
  unfold MapEntry.items
  split
  · rfl
  · rename_i key
    rw [if_pos (by_contra fun value => incomplete ⟨key, value⟩)]
    rfl

theorem MapEntry.lookup_items (values : LockResultData.ByteMap) (key : String) :
    (entry.items.foldl MapItem.into values).lookup key =
      if entry.key = key ∧ entry.Complete then some entry.value else values.lookup key := by
  by_cases complete : entry.Complete
  · have bound : entry.items.foldl MapItem.into values = values.insert entry.key entry.value := by
      rw [MapEntry.items, if_neg complete.1, if_neg complete.2]
      rfl
    rw [bound]
    by_cases same : entry.key = key
    · rw [if_pos ⟨same, complete⟩, ← same, AList.lookup_insert]
    · rw [if_neg fun both => same both.1, AList.lookup_insert_ne (Ne.symm same)]
  · rw [MapEntry.items_into complete, if_neg fun both => complete both.2]

theorem lookup_foldl_items (values : LockResultData.ByteMap) (key : String) :
    ((entries.flatMap MapEntry.items).foldl MapItem.into values).lookup key =
      (lastValue entries key).or (values.lookup key) := by
  induction entries generalizing values with
  | nil => rfl
  | cons entry entries ih =>
    rw [List.flatMap_cons, List.foldl_append, ih, MapEntry.lookup_items]
    unfold lastValue
    rw [List.reverse_cons, List.find?_append]
    cases entries.reverse.find? fun entry => entry.key = key ∧ entry.Complete with
    | some found => rfl
    | none => by_cases own : entry.key = key ∧ entry.Complete <;> simp [own]

theorem entriesMap_lookup (key : String) : (entriesMap entries).lookup key = lastValue entries key := by
  rw [entriesMap, lookup_foldl_items]
  exact Option.or_none

end Items

section Frames

variable {header : ResultHeader} {entries : List MapEntry}

theorem ResultHeader.asMap_frame (kv : header.flag &&& lockDataFlagValueTypeKv ≠ 0)
    (nonUnset : header.packed &&& 0x3f ≠ lockDataCommandTypeUnset) (value : List UInt8) :
    (header.frame value).asMap = (header.frame value).mapLoop header.bytes.length ∅ := by
  have typed : header.packed ≠ lockDataCommandTypeUnset := by
    intro unset
    rw [unset] at nonUnset
    exact nonUnset rfl
  have isKv : (header.frame value).isKvValue = true := by
    rw [header.frame_isKvValue]
    exact decide_eq_true ⟨typed, kv⟩
  exact LockResultData.asMap_of_kv isKv (header.frame_valueOffset value)

/-- Entries of which none has a value without a key are read for what they are. -/
theorem asMap_entries (kv : header.flag &&& lockDataFlagValueTypeKv ≠ 0)
    (nonUnset : header.packed &&& 0x3f ≠ lockDataCommandTypeUnset)
    (fits : ∀ entry ∈ entries, entry.Fits) (keyed : ∀ entry ∈ entries, entry.Keyed) :
    (header.frame (entriesBytes entries)).asMap = .ok (entriesMap entries) := by
  have bytes : entriesBytes entries = (entries.flatMap MapEntry.items).flatMap MapItem.bytes := by
    rw [entriesBytes, List.flatMap_assoc]
    exact List.flatMap_congr fun entry member => (MapEntry.items_bytes (keyed entry member)).symm
  have body : mapFormat.Body (entriesBytes entries) (entries.flatMap MapEntry.items) := by
    refine ⟨?_, [], by rw [bytes, List.append_nil]; rfl, rfl⟩
    intro item member
    obtain ⟨entry, within, own⟩ := List.mem_flatMap.mp member
    exact MapEntry.items_fits (fits entry within) item own
  rw [header.asMap_frame kv nonUnset, (LockResultData.mapLoop_loops _).ok_iff, header.frame_drop]
  exact ⟨_, body, rfl⟩

/-- The value of an entry without a key is taken for a key. -/
theorem asMap_unkeyed (kv : header.flag &&& lockDataFlagValueTypeKv ≠ 0)
    (nonUnset : header.packed &&& 0x3f ≠ lockDataCommandTypeUnset) {value : List UInt8}
    (nonempty : value ≠ []) (small : value.length < 256 ^ 4) :
    ∃ err, (header.frame (entriesBytes [⟨"", value⟩])).asMap = .error err := by
  have loops := LockResultData.mapLoop_loops (header.frame (entriesBytes [⟨"", value⟩]))
  have start : (header.frame (entriesBytes [⟨"", value⟩])).raw.drop header.bytes.length =
      [MapItem.gap].flatMap MapItem.bytes ++ (prefixed value ++ []) := header.frame_drop _
  have gap : ∀ item ∈ [MapItem.gap], item.Fits := by simp [MapItem.Fits]
  obtain ⟨turn, behind⟩ := loops.items ∅ gap start
  have key : mapFormat.turn (prefixed value ++ []) = MapItem.turnKey value [] := MapItem.turn_prefixed small
  rw [header.asMap_frame kv nonUnset, turn, loops, behind, key, MapItem.turnKey, if_neg nonempty]
  cases readText "invalid utf-8 map key: " value with
  | error err => exact ⟨err, rfl⟩
  | ok text => exact ⟨_, rfl⟩

theorem MapAligned.keyed (kv : header.flag &&& lockDataFlagValueTypeKv ≠ 0)
    (nonUnset : header.packed &&& 0x3f ≠ lockDataCommandTypeUnset) (fits : ∀ entry ∈ entries, entry.Fits)
    (aligned : MapAligned header entries) : ∀ entry ∈ entries, entry.Keyed := by
  rintro ⟨_, value⟩ member (rfl : _ = "")
  by_contra nonempty
  have alone := aligned.transparent ⟨"", value⟩ member (fun complete => complete.1 rfl) [] [] (List.forall_mem_nil _)
  obtain ⟨err, fails⟩ := asMap_unkeyed kv nonUnset nonempty (fits _ member).value
  have nothing : (header.frame (entriesBytes [])).asMap = .ok (entriesMap []) :=
    asMap_entries kv nonUnset (List.forall_mem_nil _) (List.forall_mem_nil _)
  have same : (Except.error err : Outcome LockResultData.ByteMap) = .ok (entriesMap []) :=
    fails.symm.trans (alone.trans nothing)
  cases same

end Frames

/-- The entries of a map are read for what they are exactly if none of them has
a value without a key. -/
theorem mapAligned_iff_keyed {header : ResultHeader} {entries : List MapEntry}
    (kv : header.flag &&& lockDataFlagValueTypeKv ≠ 0)
    (nonUnset : header.packed &&& 0x3f ≠ lockDataCommandTypeUnset) (fits : ∀ entry ∈ entries, entry.Fits) :
    MapAligned header entries ↔ ∀ entry ∈ entries, entry.Keyed := by
  constructor
  · exact MapAligned.keyed kv nonUnset fits
  · intro keyed
    refine ⟨⟨_, asMap_entries kv nonUnset fits keyed, entriesMap_lookup⟩, ?_⟩
    intro entry member incomplete front back around
    obtain ⟨before, behind⟩ := List.forall_mem_append.mp around
    have whole : ∀ other ∈ front ++ entry :: back, other.Fits ∧ other.Keyed := by
      refine List.forall_mem_append.mpr ⟨fun other within => ⟨(before other within).1, (before other within).2.keyed⟩, ?_⟩
      refine List.forall_mem_cons.mpr ⟨⟨fits entry member, keyed entry member⟩, ?_⟩
      exact fun other within => ⟨(behind other within).1, (behind other within).2.keyed⟩
    rw [asMap_entries kv nonUnset (fun other within => (whole other within).1) fun other within => (whole other within).2,
      asMap_entries kv nonUnset (fun other within => (around other within).1) fun other within =>
        (around other within).2.keyed]
    congr 1
    simp only [entriesMap, List.flatMap_append, List.flatMap_cons, List.foldl_append, MapEntry.items_into incomplete]

/-- A map without a property. -/
def plainMap : ResultHeader where
  lead := Block.zero 4
  packed := 0
  flag := lockDataFlagValueTypeKv
  property := none
  plain := rfl
  small := ResultHeader.small_none

/-- The value of an entry without a key. -/
theorem unkeyedEntry_not_aligned :
    ¬ ∀ header entries, header.flag &&& lockDataFlagValueTypeKv ≠ 0 →
      header.packed &&& 0x3f ≠ lockDataCommandTypeUnset → (∀ entry ∈ entries, MapEntry.Fits entry) →
      MapAligned header entries := by
  intro claim
  have fits : ∀ entry ∈ [MapEntry.mk "" [97]], entry.Fits := by
    rw [List.forall_mem_singleton]
    exact ⟨by decide, by decide⟩
  obtain ⟨map, read, _⟩ := (claim plainMap [⟨"", [97]⟩] (by decide) (by decide) fits).bound
  have misread : ∃ err, (plainMap.frame (entriesBytes [⟨"", [97]⟩])).asMap = .error err :=
    asMap_unkeyed (by decide) (by decide) (by decide) (by decide)
  obtain ⟨err, fails⟩ := misread
  cases fails.symm.trans read

/-- A key without a value and an entry without either, between two values of a key. -/
theorem mapAligned_unvaluedEntry : MapAligned plainMap [⟨"k", [97]⟩, ⟨"u", []⟩, ⟨"", []⟩, ⟨"k", [98]⟩] := by
  refine (mapAligned_iff_keyed (by decide) (by decide) ?_).mpr ?_
  · simp only [List.forall_mem_cons]
    exact ⟨⟨by decide, by decide⟩, ⟨by decide, by decide⟩, ⟨by decide, by decide⟩, ⟨by decide, by decide⟩,
      List.forall_mem_nil _⟩
  · simp [MapEntry.Keyed]

end Ruslock
