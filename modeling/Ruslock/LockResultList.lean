import Ruslock.Lib.Prefixed
import Ruslock.Lib.Turns
import Ruslock.LockResult

namespace Ruslock
open Wire

/-- `String::from_utf8` with the text that stands before its error. -/
def readText (context : String) (bytes : List UInt8) : Outcome String :=
  match fromUtf8 bytes with
  | .ok text => .ok text
  | .error err => .error (.lockData (context ++ err))

namespace LockResultData

variable (data : LockResultData)

def isArrayValue : Bool :=
  6 ≤ data.raw.length ∧ data.raw.getD 4 0 ≠ lockDataCommandTypeUnset ∧
    data.raw.getD 5 0 &&& lockDataFlagValueTypeArray ≠ 0

def readU32 (index : Nat) : Outcome Nat :=
  if data.raw.length < index + 4 then .error (.lockData "u32 value exceeds data")
  else .ok (ofLE ((data.raw.drop index).take 4))

/-- The loop of `as_list`. -/
def listLoop (index : Nat) (values : List (List UInt8)) : Outcome (List (List UInt8)) :=
  if index + 4 ≤ data.raw.length then do
    let valueLen ← data.readU32 index
    if valueLen = 0 then listLoop (index + 4) values
    else if data.raw.length < index + 4 + valueLen then .error (.lockData "list value length exceeds data")
    else listLoop (index + 4 + valueLen) (values ++ [(data.raw.drop (index + 4)).take valueLen])
  else .ok values
termination_by data.raw.length - index

def asList : Outcome (List (List UInt8)) :=
  if data.isArrayValue then do
    let index ← data.valueOffset
    data.listLoop index []
  else .ok []

def asStringList : Outcome (List String) := do
  let values ← data.asList
  values.mapM (readText "invalid utf-8 list data: ")

end LockResultData

/-- Byte strings behind their lengths, as `as_list` reads them. -/
def listFormat : Format UInt8 (List UInt8) SlockError where
  encode := prefixed
  Fits part := part.length < 256 ^ 4
  turn bytes :=
    match lookAhead bytes with
    | .short => .done
    | .cut length => .beyond (4 + length) (.lockData "list value length exceeds data")
    | .part part _ => .item part
  encode_pos part := by
    rw [prefixed_length]
    omega
  item_iff bytes part := by
    constructor
    · intro taken
      split at taken
      · cases taken
      · cases taken
      · rename_i rest found
        cases taken
        obtain ⟨small, rfl⟩ := lookAhead_part_iff.mp found
        exact ⟨small, rest, rfl⟩
    · rintro ⟨small, rest, rfl⟩
      rw [lookAhead_prefixed small]

/-- An element without a byte is passed over. -/
def pushElement (values : List (List UInt8)) (part : List UInt8) : List (List UInt8) :=
  if part = [] then values else values ++ [part]

theorem foldl_pushElement (elements values : List (List UInt8)) :
    elements.foldl pushElement values = values ++ elements.filter (· ≠ []) := by
  induction elements generalizing values with
  | nil => rw [List.filter_nil, List.append_nil, List.foldl_nil]
  | cons part elements ih =>
    rw [List.foldl_cons, ih, pushElement]
    by_cases empty : part = []
    · simp [empty]
    · simp [empty]

namespace LockResultData

section Loop

variable {data : LockResultData} {index length : Nat} {rest : List UInt8}

theorem readU32_of_word (word : WordAt data.raw index length rest) : data.readU32 index = .ok length := by
  have total := word.total
  rw [readU32, if_neg (by omega), word.word]

theorem listLoop_word {values : List (List UInt8)} (word : WordAt data.raw index length rest) :
    data.listLoop index values =
      if length = 0 then data.listLoop (index + 4) values
      else if rest.length < length then .error (.lockData "list value length exceeds data")
      else data.listLoop (index + 4 + length) (values ++ [rest.take length]) := by
  have total := word.total
  have bound : data.raw.length < index + 4 + length ↔ rest.length < length := by omega
  rw [listLoop, if_pos (by omega), readU32_of_word word, word.behind]
  simp only [← bound]
  rfl

/-- The loop of `as_list` takes the turns of its format. -/
theorem listLoop_loops (data : LockResultData) : listFormat.Loops data.raw pushElement data.listLoop := by
  intro index values
  simp only [listFormat]
  cases found : lookAhead (data.raw.drop index) with
  | short =>
    have short := lookAhead_short_at found
    rw [listLoop, if_neg (by omega)]
    rfl
  | cut length =>
    obtain ⟨_, positive, rest, word, cut⟩ := lookAhead_cut_at found
    rw [listLoop_word word, if_neg positive, if_pos cut]
    rfl
  | part part rest =>
    obtain ⟨_, word, inside, _⟩ := lookAhead_part_at found
    rw [listLoop_word word, if_neg inside, List.take_left' rfl]
    by_cases empty : part = []
    · simp [empty, Format.proceed, pushElement]
    · simp [empty, Format.proceed, pushElement, Nat.add_assoc]

end Loop

theorem isArrayValue_iff {data : LockResultData} :
    data.isArrayValue = true ↔ 6 ≤ data.raw.length ∧ data.raw.getD 4 0 ≠ lockDataCommandTypeUnset ∧
      data.raw.getD 5 0 &&& lockDataFlagValueTypeArray ≠ 0 := by
  rw [isArrayValue, decide_eq_true_eq]

theorem asList_of_array {data : LockResultData} {offset : Nat} (array : data.isArrayValue = true)
    (readable : data.valueOffset = .ok offset) : data.asList = data.listLoop offset [] := by
  rw [asList, if_pos array, readable]
  rfl

/-- A value that is a list: elements, each behind its length, and at most three
bytes behind the last one. -/
structure ListBody (body : List UInt8) (elements : List (List UInt8)) : Prop where
  small : ∀ part ∈ elements, part.length < 256 ^ 4
  whole : ∃ trailing, body = elements.flatMap prefixed ++ trailing ∧ trailing.length ≤ 3

theorem listFormat_body_iff {body : List UInt8} {elements : List (List UInt8)} :
    listFormat.Body body elements ↔ ListBody body elements := by
  have done : ∀ trailing, listFormat.turn trailing = .done ↔ trailing.length ≤ 3 := by
    intro trailing
    have short : lookAhead trailing = .short ↔ trailing.length < 4 := lookAhead_short_iff
    simp only [listFormat]
    split
    · exact ⟨fun _ => Nat.le_of_lt_succ (short.mp ‹_›), fun _ => rfl⟩
    all_goals
      rename_i found
      rw [found] at short
      exact ⟨nofun, fun few => nomatch short.mpr (Nat.lt_succ_of_le few)⟩
  constructor
  · intro ⟨fits, trailing, whole, finished⟩
    exact ⟨fits, trailing, whole, (done trailing).mp finished⟩
  · intro ⟨small, trailing, whole, few⟩
    exact ⟨small, trailing, whole, (done trailing).mpr few⟩

theorem asList_eq_ok_iff {data : LockResultData} {offset : Nat} (array : data.isArrayValue = true)
    (readable : data.valueOffset = .ok offset) {values : List (List UInt8)} :
    data.asList = .ok values ↔
      ∃ elements, ListBody (data.raw.drop offset) elements ∧ values = elements.filter (· ≠ []) := by
  rw [asList_of_array array readable, (listLoop_loops data).ok_iff]
  simp only [listFormat_body_iff, foldl_pushElement, List.nil_append]

/-- A value that is flagged as an array is read as a list exactly if it is one:
then the elements come back in their order, without the empty ones. -/
theorem asList_iff_listBody {data : LockResultData} {offset : Nat} (long : 6 ≤ data.raw.length)
    (array : data.raw.getD 5 0 &&& lockDataFlagValueTypeArray ≠ 0)
    (nonUnset : data.raw.getD 4 0 ≠ lockDataCommandTypeUnset) (readable : data.valueOffset = .ok offset) :
    (∀ values, data.asList = .ok values ↔
      ∃ elements, ListBody (data.raw.drop offset) elements ∧ values = elements.filter (· ≠ [])) ∧
    ((∀ elements, ¬ ListBody (data.raw.drop offset) elements) → ∃ err, data.asList = .error err) ∧
    ∀ elements : List (List UInt8), (∀ part ∈ elements, part ≠ [] ∧ part.length < 256 ^ 4) →
      data.raw.drop offset = elements.flatMap prefixed → data.asList = .ok elements := by
  have accepts : ∀ values, data.asList = .ok values ↔
      ∃ elements, ListBody (data.raw.drop offset) elements ∧ values = elements.filter (· ≠ []) :=
    fun _ => asList_eq_ok_iff (isArrayValue_iff.mpr ⟨long, nonUnset, array⟩) readable
  refine ⟨accepts, ?_, ?_⟩
  · intro none
    cases run : data.asList with
    | error err => exact ⟨err, rfl⟩
    | ok values =>
      obtain ⟨elements, body, _⟩ := (accepts values).mp run
      exact absurd body (none elements)
  · intro elements nonempty found
    have kept : elements.filter (· ≠ []) = elements :=
      List.filter_eq_self.mpr fun part member => by simpa using (nonempty part member).1
    have whole : data.raw.drop offset = elements.flatMap prefixed ++ [] := by rw [found, List.append_nil]
    exact (accepts elements).mpr
      ⟨elements, ⟨fun part member => (nonempty part member).2, [], whole, Nat.zero_le _⟩, kept.symm⟩

/-- An empty element, two bytes and one byte too many. -/
theorem asList_emptyElement :
    (⟨[0, 0, 0, 0, 7, 2, 0, 0, 0, 0, 2, 0, 0, 0, 97, 98, 9]⟩ : LockResultData).asList = .ok [[97, 98]] :=
  ((asList_iff_listBody (by decide) (by decide) (by decide) rfl).1 _).mpr
    ⟨[[], [97, 98]], ⟨by decide, [9], rfl, by decide⟩, rfl⟩

end LockResultData

theorem ResultHeader.frame_isArrayValue (header : ResultHeader) (value : List UInt8) :
    (header.frame value).isArrayValue =
      decide (header.packed ≠ lockDataCommandTypeUnset ∧ header.flag &&& lockDataFlagValueTypeArray ≠ 0) := by
  have long := header.frame_long value
  rw [LockResultData.isArrayValue, frame_packed, frame_flag, header.flagByte_and (by decide)]
  simp only [long, true_and]

end Ruslock
