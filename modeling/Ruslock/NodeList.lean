import Ruslock.Lib.Fields
import Ruslock.Replset

namespace Ruslock

/-- `char::is_whitespace`: the characters with the property White_Space. -/
def isWhitespace (c : Char) : Bool :=
  let code := c.toNat
  (0x09 ≤ code && code ≤ 0x0d) || code == 0x20 || code == 0x85 || code == 0xa0 || code == 0x1680 ||
    (0x2000 ≤ code && code ≤ 0x200a) || code == 0x2028 || code == 0x2029 || code == 0x202f || code == 0x205f ||
    code == 0x3000

/-- Something that stands for the addresses of nodes. -/
class IntoNodeList (ν : Type) where
  intoNodes : ν → List String

open IntoNodeList (intoNodes)

/-- `split(',')`, `str::trim` and the filter of `is_empty`. -/
instance : IntoNodeList String where
  intoNodes text :=
    (((text.toList.splitOn ',').map (Fields.trim isWhitespace)).filter (!·.isEmpty)).map String.ofList

/-- An array of nodes. -/
instance (count : Nat) : IntoNodeList (Vector String count) where
  intoNodes nodes := nodes.toList

/-- A `Vec` of nodes. -/
instance : IntoNodeList (List String) where
  intoNodes nodes := nodes

/-- `ReplsetClient::with_options`. -/
def Replset.Config.withOptions {ν : Type} [IntoNodeList ν] (backend : Connection.Backend)
    (commandTimeoutGrace : Duration) (nodes : ν) : Replset.Config (intoNodes nodes).length :=
  ⟨backend, (intoNodes nodes).get, commandTimeoutGrace⟩

inductive ClientHandle
  | single (client : Connection.Config)
  | replset (count : Nat) (client : Replset.Config count)

def ClientHandle.withOptions {ν : Type} [IntoNodeList ν] (backend : Connection.Backend)
    (commandTimeoutGrace : Duration) (nodes : ν) : ClientHandle :=
  let nodes := intoNodes nodes
  if alone : nodes.length = 1 then .single ⟨backend, nodes[0]⟩
  else .replset _ (.withOptions backend commandTimeoutGrace nodes)

variable {backend : Connection.Backend} {commandTimeoutGrace : Duration}

theorem ClientHandle.withOptions_single {ν : Type} [IntoNodeList ν] {nodes : ν} :
    (∃ client, withOptions backend commandTimeoutGrace nodes = .single client) ↔ (intoNodes nodes).length = 1 := by
  unfold withOptions
  dsimp only
  split
  · rename_i alone
    exact iff_of_true ⟨_, rfl⟩ alone
  · rename_i several
    refine iff_of_false ?_ several
    rintro ⟨client, same⟩
    cases same

theorem toList_intoNodes (text : String) :
    (intoNodes text).map String.toList = Fields.kept isWhitespace (text.toList.splitOn ',') := by
  have inverse : String.toList ∘ String.ofList = id := funext fun _ => String.toList_ofList
  change (List.map String.ofList _).map String.toList = _
  rw [List.map_map, inverse, List.map_id, Fields.kept]

theorem isWhitespace_comma : isWhitespace ',' = false := rfl

theorem intoNodes_intercalate {fields nodes : List String}
    (keeps : Fields.Keeps isWhitespace (fields.map String.toList) (nodes.map String.toList))
    (free : ∀ node ∈ nodes, ',' ∉ node.toList) : intoNodes (",".intercalate fields) = nodes := by
  refine List.map_injective_iff.mpr (fun _ _ => String.toList_inj.mp) ?_
  rw [toList_intoNodes, String.toList_intercalate]
  exact keeps.kept_splitOn isWhitespace_comma (List.forall_mem_map.mpr free)

theorem of_mem_intoNodes {text node : String} (member : node ∈ intoNodes text) :
    node ≠ "" ∧ Fields.Trimmed isWhitespace node.toList ∧ ',' ∉ node.toList := by
  have kept : node.toList ∈ Fields.kept isWhitespace (text.toList.splitOn ',') :=
    toList_intoNodes text ▸ List.mem_map_of_mem member
  obtain ⟨nonempty, trimmed, field, atField, inside⟩ := Fields.mem_kept kept
  refine ⟨fun empty => nonempty (by rw [empty]; rfl), trimmed, fun comma => ?_⟩
  exact Fields.not_mem_of_mem_splitOn text.toList field atField (inside ',' comma)

/-- A text splits at its commas in one way. The nodes are its fields without
the blank ones and without the whitespace around them, and one node makes a
single client. -/
theorem intoNodes_spec (text : String) (backend : Connection.Backend) (commandTimeoutGrace : Duration) :
    (∃! fields, Fields.FieldsOf ',' text.toList fields) ∧
    (∀ fields, Fields.FieldsOf ',' text.toList fields →
      Fields.Keeps isWhitespace fields ((intoNodes text).map String.toList) ∧
      ((∃ client, ClientHandle.withOptions backend commandTimeoutGrace text = .single client) ↔
        fields.countP (fun field => !field.all isWhitespace) = 1)) ∧
    (∀ node ∈ intoNodes text, node ≠ "" ∧ Fields.Trimmed isWhitespace node.toList ∧ ',' ∉ node.toList) ∧
    (∀ fields nodes : List String,
      Fields.Keeps isWhitespace (fields.map String.toList) (nodes.map String.toList) →
      (∀ node ∈ nodes, ',' ∉ node.toList) → intoNodes (",".intercalate fields) = nodes) := by
  refine ⟨⟨text.toList.splitOn ',', Fields.fieldsOf_iff.mpr rfl, fun _ => Fields.fieldsOf_iff.mp⟩, ?_,
    fun _ => of_mem_intoNodes, fun _ _ => intoNodes_intercalate⟩
  intro fields fieldsOf
  obtain rfl := Fields.fieldsOf_iff.mp fieldsOf
  constructor
  · rw [toList_intoNodes]
    exact Fields.keeps_kept _
  · rw [ClientHandle.withOptions_single, ← Fields.length_kept, ← toList_intoNodes, List.length_map]

theorem intoNodes_spec_twoNodes :
    intoNodes (",".intercalate [" a:1 ", "", " b:2", " "]) = ["a:1", "b:2"] ∧
    ¬ ∃ client, ClientHandle.withOptions .blocking 0 " a:1 ,, b:2, " = .single client := by
  obtain ⟨-, ofFields, -, join⟩ := intoNodes_spec " a:1 ,, b:2, " .blocking 0
  constructor
  · exact join _ ["a:1", "b:2"] (Fields.keeps_iff.mpr (by decide +kernel)) (by decide +kernel)
  · rw [(ofFields _ (Fields.fieldsOf_iff.mpr rfl)).2]
    decide +kernel

end Ruslock
