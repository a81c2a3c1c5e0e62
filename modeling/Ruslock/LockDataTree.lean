import Ruslock.LockData

namespace Ruslock
open Wire

mutual

/-- Something holds at every node of a tree. -/
def LockData.Everywhere (holds : LockData → Prop) : LockData → Prop
  | .mk stage commandType commandFlag value =>
    holds (.mk stage commandType commandFlag value) ∧ value.Everywhere holds

def LockDataValue.Everywhere (holds : LockData → Prop) : LockDataValue → Prop
  | .bytes _ => True
  | .pipeline items => EverywhereItems holds items

def EverywhereItems (holds : LockData → Prop) : List LockData → Prop
  | [] => True
  | item :: items => item.Everywhere holds ∧ EverywhereItems holds items

end

mutual

/-- The number of value bytes in the encoding of a node. -/
def LockData.bodyLength : LockData → Nat
  | .mk _ _ _ value => value.bodyLength

def LockDataValue.bodyLength : LockDataValue → Nat
  | .bytes value => value.length
  | .pipeline items => itemsLength items

def itemsLength : List LockData → Nat
  | [] => 0
  | item :: items => item.bodyLength + 6 + itemsLength items

end

/-- A stage of two bits, a type of six, and the pipeline type exactly on a
pipeline, as the constructors build nodes. -/
def LockData.Typed : LockData → Prop
  | .mk stage commandType _ (.bytes _) => stage < 4 ∧ commandType < 64 ∧ commandType ≠ lockDataCommandTypePipeline
  | .mk stage commandType _ (.pipeline _) => stage < 4 ∧ commandType = lockDataCommandTypePipeline

/-- Not a pipeline without items. -/
def LockData.Filled : LockData → Prop
  | .mk _ _ _ (.pipeline []) => False
  | _ => True

def LockData.Fits (data : LockData) : Prop := data.bodyLength + 2 ≤ u32Max

mutual

/-- Reads the bytes of one node behind its length: the stage and type, the
flag, and either the items of a pipeline or the bytes of a leaf. -/
def parseNode (body : List UInt8) : Option LockData :=
  match body with
  | packed :: flag :: value =>
    if packed &&& 0x3f = lockDataCommandTypePipeline then
      (parseItems value).map fun items => .mk (packed >>> 6) (packed &&& 0x3f) flag (.pipeline items)
    else some (.mk (packed >>> 6) (packed &&& 0x3f) flag (.bytes value))
  | _ => none
termination_by body.length

/-- Splits the input at its length prefixes, up to its last byte. -/
def parseItems (input : List UInt8) : Option (List LockData) :=
  if input = [] then some []
  else
    match _read : readPrefixed input with
    | none => none
    | some (body, rest) => do
      let item ← parseNode body
      let items ← parseItems rest
      some (item :: items)
termination_by input.length
decreasing_by
  all_goals
    have consumed := readPrefixed_length _read
    omega

end

/-- Reads one tree from the front of the input. -/
def parseLockData (input : List UInt8) : Option (LockData × List UInt8) := do
  let (body, rest) ← readPrefixed input
  let data ← parseNode body
  some (data, rest)

theorem parseItems_cons {body rest : List UInt8} {item : LockData} {items : List LockData}
    (fits : body.length < 256 ^ 4) (first : parseNode body = some item) (later : parseItems rest = some items) :
    parseItems (toLE 4 body.length ++ body ++ rest) = some (item :: items) := by
  have read := readPrefixed_append body rest fits
  rw [parseItems, if_neg (by simp [toLE])]
  split
  · rename_i failed
    rw [read] at failed
    cases failed
  · rename_i found
    rw [read] at found
    cases found
    rw [first, later]
    rfl

theorem encodeBody_length {stage commandType commandFlag : UInt8} {value bytes : List UInt8}
    (encoded : encodeBody stage commandType commandFlag value = .ok bytes) : bytes.length = value.length + 6 := by
  obtain ⟨body, rfl, rfl, _⟩ := encodeBody_body encoded
  simp only [List.length_append, toLE_length, List.length_cons]
  omega

mutual

theorem LockData.encode_length {bytes : List UInt8} :
    ∀ data : LockData, data.encode = .ok bytes → bytes.length = data.bodyLength + 6
  | .mk stage commandType commandFlag value, encoded => by
    unfold LockData.encode at encoded
    obtain ⟨inner, first, body⟩ := Outcome.bind_eq_ok.mp encoded
    rw [encodeBody_length body, LockDataValue.encode_length value first]
    rfl

theorem LockDataValue.encode_length {bytes : List UInt8} :
    ∀ value : LockDataValue, value.encode = .ok bytes → bytes.length = value.bodyLength
  | .bytes _, encoded => by cases encoded; rfl
  | .pipeline [], encoded => by cases encoded
  | .pipeline (item :: items), encoded => encodeItems_length (item :: items) encoded

theorem encodeItems_length {bytes : List UInt8} :
    ∀ items : List LockData, encodeItems items = .ok bytes → bytes.length = itemsLength items
  | [], encoded => by cases encoded; rfl
  | item :: items, encoded => by
    unfold encodeItems at encoded
    obtain ⟨front, first, rest⟩ := Outcome.bind_eq_ok.mp encoded
    obtain ⟨back, later, same⟩ := Outcome.bind_eq_ok.mp rest
    cases same
    rw [List.length_append, LockData.encode_length item first, encodeItems_length items later]
    rfl

end

/-- Where the encoder does not fail. -/
def LockData.Encodable (node : LockData) : Prop := node.Filled ∧ node.Fits

theorem LockData.filled_mk {stage commandType commandFlag : UInt8} {value : LockDataValue} :
    (LockData.mk stage commandType commandFlag value).Filled ↔ value ≠ .pipeline [] := by
  constructor
  · rintro filled rfl
    exact filled
  · intro items
    unfold LockData.Filled
    split
    · rename_i same
      cases same
      exact items rfl
    · trivial

mutual

/-- A node is encoded exactly when every node of its tree can be: an error
comes up from any depth. -/
theorem LockData.encode_ok_iff :
    ∀ data : LockData, (∃ bytes, data.encode = .ok bytes) ↔ data.Everywhere LockData.Encodable
  | .mk stage commandType commandFlag value => by
    have inner := LockDataValue.encode_ok_iff value
    unfold LockData.encode LockData.Everywhere LockData.Encodable
    rw [LockData.filled_mk]
    constructor
    · rintro ⟨bytes, encoded⟩
      obtain ⟨middle, first, body⟩ := Outcome.bind_eq_ok.mp encoded
      obtain ⟨items, every⟩ := inner.mp ⟨middle, first⟩
      have fits := encodeBody_ok_iff.mp ⟨bytes, body⟩
      rw [LockDataValue.encode_length value first] at fits
      exact ⟨⟨items, fits⟩, every⟩
    · rintro ⟨⟨items, fits⟩, every⟩
      obtain ⟨middle, first⟩ := inner.mpr ⟨items, every⟩
      have length := LockDataValue.encode_length value first
      obtain ⟨bytes, body⟩ : ∃ bytes, encodeBody stage commandType commandFlag middle = .ok bytes := by
        refine encodeBody_ok_iff.mpr ?_
        rw [length]
        exact fits
      exact ⟨bytes, Outcome.bind_eq_ok.mpr ⟨middle, first, body⟩⟩

theorem LockDataValue.encode_ok_iff :
    ∀ value : LockDataValue, (∃ bytes, value.encode = .ok bytes) ↔
      value ≠ .pipeline [] ∧ value.Everywhere LockData.Encodable
  | .bytes value => ⟨fun _ => ⟨by simp, trivial⟩, fun _ => ⟨value, rfl⟩⟩
  | .pipeline [] => ⟨fun ⟨_, encoded⟩ => (by cases encoded), fun ⟨items, _⟩ => absurd rfl items⟩
  | .pipeline (item :: items) => by
    have inner := encodeItems_ok_iff (item :: items)
    exact ⟨fun encoded => ⟨by simp, inner.mp encoded⟩, fun ⟨_, every⟩ => inner.mpr every⟩

theorem encodeItems_ok_iff :
    ∀ items : List LockData, (∃ bytes, encodeItems items = .ok bytes) ↔ EverywhereItems LockData.Encodable items
  | [] => ⟨fun _ => trivial, fun _ => ⟨[], rfl⟩⟩
  | item :: items => by
    have front := LockData.encode_ok_iff item
    have back := encodeItems_ok_iff items
    unfold encodeItems EverywhereItems
    constructor
    · rintro ⟨bytes, encoded⟩
      obtain ⟨first, atItem, rest⟩ := Outcome.bind_eq_ok.mp encoded
      obtain ⟨later, atItems, _⟩ := Outcome.bind_eq_ok.mp rest
      exact ⟨front.mp ⟨first, atItem⟩, back.mp ⟨later, atItems⟩⟩
    · rintro ⟨here, there⟩
      obtain ⟨first, atItem⟩ := front.mpr here
      obtain ⟨later, atItems⟩ := back.mpr there
      exact ⟨first ++ later, Outcome.bind_eq_ok.mpr ⟨first, atItem, Outcome.bind_eq_ok.mpr ⟨later, atItems, rfl⟩⟩⟩

end

mutual

theorem LockData.everywhere_and {left right : LockData → Prop} :
    ∀ data : LockData, data.Everywhere (fun node => left node ∧ right node) ↔
      data.Everywhere left ∧ data.Everywhere right
  | .mk stage commandType commandFlag value => by
    unfold LockData.Everywhere
    rw [LockDataValue.everywhere_and value]
    exact and_and_and_comm

theorem LockDataValue.everywhere_and {left right : LockData → Prop} :
    ∀ value : LockDataValue, value.Everywhere (fun node => left node ∧ right node) ↔
      value.Everywhere left ∧ value.Everywhere right
  | .bytes _ => (and_self_iff (a := True)).symm
  | .pipeline items => everywhereItems_and items

theorem everywhereItems_and {left right : LockData → Prop} :
    ∀ items : List LockData, EverywhereItems (fun node => left node ∧ right node) items ↔
      EverywhereItems left items ∧ EverywhereItems right items
  | [] => (and_self_iff (a := True)).symm
  | item :: items => by
    unfold EverywhereItems
    rw [LockData.everywhere_and item, everywhereItems_and items]
    exact and_and_and_comm

end

mutual

/-- The body of an encoded node reads back as the node. -/
theorem LockData.parseNode_encode {bytes : List UInt8} :
    ∀ data : LockData, data.Everywhere LockData.Typed → data.encode = .ok bytes →
      ∃ body, bytes = toLE 4 body.length ++ body ∧ body.length < 256 ^ 4 ∧ parseNode body = some data
  | .mk stage commandType commandFlag (.bytes value), typed, encoded => by
    obtain ⟨⟨stageFits, typeFits, leaf⟩, _⟩ := typed
    obtain ⟨body, whole, prefixed, fits⟩ := encodeBody_body encoded
    obtain ⟨atStage, atType⟩ := packed_stage_type stageFits typeFits
    refine ⟨body, prefixed, fits, ?_⟩
    rw [whole, parseNode, atStage, atType, if_neg leaf]
  | .mk stage commandType commandFlag (.pipeline []), _, encoded => by cases encoded
  | .mk stage commandType commandFlag (.pipeline (item :: items)), typed, encoded => by
    obtain ⟨⟨stageFits, pipeline⟩, every⟩ := typed
    unfold LockData.encode at encoded
    obtain ⟨value, inner, outer⟩ := Outcome.bind_eq_ok.mp encoded
    have split := parseItems_encodeItems (item :: items) every inner
    obtain ⟨body, whole, prefixed, fits⟩ := encodeBody_body outer
    obtain ⟨atStage, atType⟩ := packed_stage_type stageFits (show commandType < 64 by rw [pipeline]; decide)
    refine ⟨body, prefixed, fits, ?_⟩
    rw [whole, parseNode, atStage, atType, if_pos pipeline, split]
    rfl

theorem parseItems_encodeItems {bytes : List UInt8} :
    ∀ items : List LockData, EverywhereItems LockData.Typed items → encodeItems items = .ok bytes →
      parseItems bytes = some items
  | [], _, encoded => by
    cases encoded
    rw [parseItems, if_pos rfl]
  | item :: items, ⟨here, there⟩, encoded => by
    unfold encodeItems at encoded
    obtain ⟨front, first, rest⟩ := Outcome.bind_eq_ok.mp encoded
    obtain ⟨back, later, same⟩ := Outcome.bind_eq_ok.mp rest
    cases same
    obtain ⟨body, rfl, fits, atItem⟩ := LockData.parseNode_encode item here first
    exact parseItems_cons fits atItem (parseItems_encodeItems items there later)

end

/-- A tree is encoded exactly when no pipeline in it is empty and every length
fits, and its encoding is read back as that tree, whatever follows. -/
theorem LockData.encode_unique (data : LockData) (typed : data.Everywhere LockData.Typed) :
    ((∃ bytes, data.encode = .ok bytes) ↔ data.Everywhere LockData.Filled ∧ data.Everywhere LockData.Fits) ∧
      ∀ bytes, data.encode = .ok bytes →
        parseLockData bytes = some (data, []) ∧ ∀ rest, parseLockData (bytes ++ rest) = some (data, rest) := by
  refine ⟨data.encode_ok_iff.trans data.everywhere_and, fun bytes encoded => ?_⟩
  have read : ∀ rest, parseLockData (bytes ++ rest) = some (data, rest) := by
    intro rest
    obtain ⟨body, rfl, fits, parsed⟩ := data.parseNode_encode typed encoded
    exact Option.bind_eq_some_iff.mpr
      ⟨_, readPrefixed_append body rest fits, Option.bind_eq_some_iff.mpr ⟨_, parsed, rfl⟩⟩
  exact ⟨by simpa only [List.append_nil] using read [], read⟩

/-- A pipeline of a leaf and of a pipeline of an empty leaf. -/
theorem LockData.encode_unique_nested :
    let tree : LockData := .mk 0 6 0 (.pipeline [.mk 1 0 2 (.bytes [7]), .mk 3 6 1 (.pipeline [.mk 2 8 1 (.bytes [])])])
    ((∃ bytes, tree.encode = .ok bytes) ↔ tree.Everywhere LockData.Filled ∧ tree.Everywhere LockData.Fits) ∧
      ∀ bytes, tree.encode = .ok bytes →
        parseLockData bytes = some (tree, []) ∧ ∀ rest, parseLockData (bytes ++ rest) = some (tree, rest) :=
  LockData.encode_unique _ (by simp [LockData.Everywhere, LockDataValue.Everywhere, EverywhereItems, LockData.Typed,
    lockDataCommandTypePipeline])

end Ruslock
