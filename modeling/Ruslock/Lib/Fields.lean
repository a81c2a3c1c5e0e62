import Mathlib.Data.List.DropRight

namespace Fields

variable {α : Type*}

section Trim

variable (blank : α → Bool)

/-- A text without the blanks at its ends. -/
def trim (text : List α) : List α := (text.dropWhile blank).rdropWhile blank

def Blank (text : List α) : Prop := ∀ item ∈ text, blank item = true

/-- A text that has no blank at its ends. -/
structure Trimmed (text : List α) : Prop where
  first : ∀ item ∈ text.head?, blank item = false
  last : ∀ item ∈ text.getLast?, blank item = false

/-- Nothing but blanks is trimmed away. -/
theorem exists_padded (text : List α) :
    ∃ front back, Blank blank front ∧ Blank blank back ∧ text = front ++ trim blank text ++ back := by
  refine ⟨text.takeWhile blank, (text.dropWhile blank).rtakeWhile blank, fun _ => List.mem_takeWhile_imp,
    fun _ => List.mem_rtakeWhile_imp, ?_⟩
  rw [trim, List.append_assoc, List.rdropWhile_append_rtakeWhile, List.takeWhile_append_dropWhile]

variable {blank} {front text back : List α}

theorem dropWhile_eq_self (first : ∀ item ∈ text.head?, blank item = false) : text.dropWhile blank = text := by
  cases text with
  | nil => rfl
  | cons item text => exact List.dropWhile_cons_of_neg (Bool.not_eq_true _ ▸ first item rfl)

theorem rdropWhile_eq_self (last : ∀ item ∈ text.getLast?, blank item = false) : text.rdropWhile blank = text := by
  rw [List.rdropWhile, dropWhile_eq_self, List.reverse_reverse]
  rwa [List.head?_reverse]

theorem rdropWhile_append_blank (behind : Blank blank back) : (text ++ back).rdropWhile blank = text.rdropWhile blank := by
  rw [List.rdropWhile, List.reverse_append, List.dropWhile_append_of_pos, List.rdropWhile]
  exact fun item member => behind item (List.mem_reverse.mp member)

/-- Blanks around a text are trimmed away. -/
theorem trim_padded (before : Blank blank front) (behind : Blank blank back) (trimmed : Trimmed blank text)
    (nonempty : text ≠ []) : trim blank (front ++ text ++ back) = text := by
  have first : ∀ item ∈ (text ++ back).head?, blank item = false := by
    rw [List.head?_append_of_ne_nil _ nonempty]
    exact trimmed.first
  rw [trim, List.append_assoc, List.dropWhile_append_of_pos before, dropWhile_eq_self first,
    rdropWhile_append_blank behind, rdropWhile_eq_self trimmed.last]

theorem trim_eq_nil : trim blank text = [] ↔ Blank blank text := by
  constructor
  · intro empty
    obtain ⟨front, back, before, behind, whole⟩ := exists_padded blank text
    rw [empty, List.append_nil] at whole
    rw [whole]
    exact List.forall_mem_append.mpr ⟨before, behind⟩
  · intro allBlank
    rw [trim, List.dropWhile_eq_nil_iff.mpr allBlank, List.rdropWhile_nil]

theorem trimmed_trim (text : List α) : Trimmed blank (trim blank text) where
  first := by
    intro item atFirst
    obtain ⟨rest, whole⟩ := List.rdropWhile_prefix blank (text.dropWhile blank)
    have first : (text.dropWhile blank).head? = some item := by
      rw [← whole, List.head?_append]
      exact Option.or_eq_some_iff.mpr (.inl atFirst)
    have stops := List.head?_dropWhile_not blank text
    rwa [first] at stops
  last := by
    intro item atLast
    obtain ⟨nonempty, rfl⟩ := List.mem_getLast?_eq_getLast atLast
    exact Bool.eq_false_iff.mpr (List.rdropWhile_last_not blank _ nonempty)

theorem mem_of_mem_trim {item : α} (member : item ∈ trim blank text) : item ∈ text := by
  obtain ⟨front, back, _, _, whole⟩ := exists_padded blank text
  rw [whole]
  exact List.mem_append_left _ (List.mem_append_right _ member)

end Trim

section Kept

variable (blank : α → Bool)

/-- The fields that are not blank, trimmed. -/
def kept (fields : List (List α)) : List (List α) := (fields.map (trim blank)).filter (!·.isEmpty)

/-- Fields are nodes with blanks around them, and blank fields between them. -/
inductive Keeps : List (List α) → List (List α) → Prop
  | nil : Keeps [] []
  | blank {field fields nodes} : Blank blank field → Keeps fields nodes → Keeps (field :: fields) nodes
  | node {front node back fields nodes} : Blank blank front → Blank blank back → Trimmed blank node → node ≠ [] →
      Keeps fields nodes → Keeps ((front ++ node ++ back) :: fields) (node :: nodes)

variable {blank} {field : List α} {fields nodes : List (List α)}

theorem kept_cons_of_blank (allBlank : Blank blank field) : kept blank (field :: fields) = kept blank fields := by
  rw [kept, List.map_cons, trim_eq_nil.mpr allBlank, List.filter_cons_of_neg Bool.false_ne_true, kept]

theorem kept_cons_of_not_blank (other : ¬ Blank blank field) :
    kept blank (field :: fields) = trim blank field :: kept blank fields := by
  have nonempty : (!(trim blank field).isEmpty) = true := by
    rw [Bool.not_eq_true', List.isEmpty_eq_false_iff]
    exact mt trim_eq_nil.mp other
  have first : kept blank (field :: fields) = trim blank field :: (fields.map (trim blank)).filter (!·.isEmpty) :=
    List.filter_cons_of_pos nonempty
  rw [first, kept]

theorem keeps_kept (fields : List (List α)) : Keeps blank fields (kept blank fields) := by
  induction fields with
  | nil => exact .nil
  | cons field fields ih =>
    by_cases allBlank : Blank blank field
    · rw [kept_cons_of_blank allBlank]
      exact .blank allBlank ih
    · rw [kept_cons_of_not_blank allBlank]
      obtain ⟨front, back, before, behind, whole⟩ := exists_padded blank field
      have padded := Keeps.node before behind (trimmed_trim field) (mt trim_eq_nil.mp allBlank) ih
      rwa [← whole] at padded

theorem Keeps.kept_eq (keeps : Keeps blank fields nodes) : kept blank fields = nodes := by
  induction keeps with
  | nil => rfl
  | blank allBlank _ ih => rw [kept_cons_of_blank allBlank, ih]
  | @node front node back _ _ before behind trimmed nonempty _ ih =>
    have padded := trim_padded before behind trimmed nonempty
    have other : ¬ Blank blank (front ++ node ++ back) := by
      rw [← trim_eq_nil, padded]
      exact nonempty
    rw [kept_cons_of_not_blank other, padded, ih]

/-- What is kept are exactly the nodes that the fields were made of. -/
theorem keeps_iff : Keeps blank fields nodes ↔ kept blank fields = nodes :=
  ⟨Keeps.kept_eq, fun same => same ▸ keeps_kept fields⟩

theorem length_kept : (kept blank fields).length = fields.countP fun field => !field.all blank := by
  induction fields with
  | nil => rfl
  | cons field fields ih =>
    by_cases allBlank : Blank blank field
    · rw [kept_cons_of_blank allBlank, ih, List.countP_cons_of_neg]
      simpa [Blank] using allBlank
    · rw [kept_cons_of_not_blank allBlank, List.length_cons, ih, List.countP_cons_of_pos]
      simpa [Blank] using allBlank

end Kept

section Split

variable {blank : α → Bool} {separator : α} {text : List α} {fields nodes : List (List α)}

/-- The fields of a text: there is at least one, and none contains the separator
that they are joined with. -/
structure FieldsOf (separator : α) (text : List α) (fields : List (List α)) : Prop where
  nonempty : fields ≠ []
  free : ∀ field ∈ fields, separator ∉ field
  join : [separator].intercalate fields = text

theorem not_mem_of_mem_splitOn [DecidableEq α] (text : List α) : ∀ field ∈ text.splitOn separator, separator ∉ field := by
  induction text with
  | nil =>
    rw [List.splitOn_nil, List.forall_mem_singleton]
    exact List.not_mem_nil
  | cons item text ih =>
    rw [List.splitOn_cons_eq_if_modifyHead]
    split
    · exact List.forall_mem_cons.mpr ⟨List.not_mem_nil, ih⟩
    · rename_i different
      cases split : text.splitOn separator with
      | nil => exact absurd split (List.splitOn_ne_nil _ _)
      | cons field fields =>
        rw [split] at ih
        obtain ⟨first, rest⟩ := List.forall_mem_cons.mp ih
        refine List.forall_mem_cons.mpr ⟨fun member => ?_, rest⟩
        rcases List.mem_cons.mp member with rfl | inside
        · exact different (beq_self_eq_true _)
        · exact first inside

theorem fieldsOf_iff [DecidableEq α] : FieldsOf separator text fields ↔ fields = text.splitOn separator := by
  constructor
  · rintro ⟨nonempty, free, rfl⟩
    exact (List.splitOn_intercalate separator free nonempty).symm
  · rintro rfl
    exact ⟨List.splitOn_ne_nil _ _, not_mem_of_mem_splitOn text, List.intercalate_splitOn separator⟩

/-- Blanks that are no separators make no fields. -/
theorem Keeps.free (keeps : Keeps blank fields nodes) (apart : blank separator = false)
    (free : ∀ node ∈ nodes, separator ∉ node) : ∀ field ∈ fields, separator ∉ field := by
  have absent : ∀ {blanks : List α}, Blank blank blanks → separator ∉ blanks := fun allBlank member => by
    rw [allBlank separator member] at apart
    cases apart
  induction keeps with
  | nil => exact List.forall_mem_nil _
  | blank allBlank _ ih => exact List.forall_mem_cons.mpr ⟨absent allBlank, ih free⟩
  | node before behind _ _ _ ih =>
    obtain ⟨first, rest⟩ := List.forall_mem_cons.mp free
    refine List.forall_mem_cons.mpr ⟨fun member => ?_, ih rest⟩
    rcases List.mem_append.mp member with inside | after
    · rcases List.mem_append.mp inside with within | within
      · exact absent before within
      · exact first within
    · exact absent behind after

/-- The nodes come back out of the text that their fields are joined to. -/
theorem Keeps.kept_splitOn [DecidableEq α] (keeps : Keeps blank fields nodes) (apart : blank separator = false)
    (free : ∀ node ∈ nodes, separator ∉ node) :
    kept blank (([separator].intercalate fields).splitOn separator) = nodes := by
  by_cases empty : fields = []
  · subst empty
    cases keeps
    rfl
  · rw [List.splitOn_intercalate separator (keeps.free apart free) empty, keeps.kept_eq]

theorem mem_kept {node : List α} (member : node ∈ kept blank fields) :
    node ≠ [] ∧ Trimmed blank node ∧ ∃ field ∈ fields, ∀ item ∈ node, item ∈ field := by
  obtain ⟨inside, nonempty⟩ := List.mem_filter.mp member
  obtain ⟨field, atField, rfl⟩ := List.mem_map.mp inside
  rw [Bool.not_eq_true', List.isEmpty_eq_false_iff] at nonempty
  exact ⟨nonempty, trimmed_trim field, field, atField, fun _ => mem_of_mem_trim⟩

end Split

end Fields
