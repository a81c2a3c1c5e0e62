import Ruslock.Lib.Bytes

namespace Wire

/-- A byte string behind its length in four bytes. -/
def prefixed (part : List UInt8) : List UInt8 := toLE 4 part.length ++ part

@[simp] theorem prefixed_length (part : List UInt8) : (prefixed part).length = 4 + part.length := by
  rw [prefixed, List.length_append, toLE_length]

theorem toLE_ofLE (bytes : List UInt8) : toLE bytes.length (ofLE bytes) = bytes := by
  induction bytes with
  | nil => rfl
  | cons byte bytes ih =>
    have small := byte.toNat_lt
    have first : UInt8.ofNat (byte.toNat + 256 * ofLE bytes) = byte := by
      apply UInt8.toNat_inj.mp
      rw [UInt8.toNat_ofNat']
      omega
    have later : (byte.toNat + 256 * ofLE bytes) / 256 = ofLE bytes := by omega
    simp only [List.length_cons, ofLE, toLE, first, later, ih]

theorem ofLE_lt (bytes : List UInt8) : ofLE bytes < 256 ^ bytes.length := by
  induction bytes with
  | nil => exact Nat.one_pos
  | cons byte bytes ih =>
    have small := byte.toNat_lt
    rw [List.length_cons, Nat.pow_succ, ofLE]
    omega

/-- What a reader of such strings has before it: too few bytes for a length, a
length without as many bytes, or a string and what is behind it. -/
inductive Ahead
  | short
  | cut (length : Nat)
  | part (part rest : List UInt8)

def lookAhead (bytes : List UInt8) : Ahead :=
  if bytes.length < 4 then .short
  else if (bytes.drop 4).length < ofLE (bytes.take 4) then .cut (ofLE (bytes.take 4))
  else .part ((bytes.drop 4).take (ofLE (bytes.take 4))) ((bytes.drop 4).drop (ofLE (bytes.take 4)))

section LookAhead

variable {bytes part rest : List UInt8} {length : Nat}

theorem lookAhead_short (short : bytes.length < 4) : lookAhead bytes = .short := if_pos short

theorem lookAhead_word (small : length < 256 ^ 4) :
    lookAhead (toLE 4 length ++ rest) =
      if rest.length < length then .cut length else .part (rest.take length) (rest.drop length) := by
  have enough : ¬ (toLE 4 length ++ rest).length < 4 := by
    rw [List.length_append, toLE_length]
    omega
  rw [lookAhead, if_neg enough, List.take_left' (toLE_length 4 length), List.drop_left' (toLE_length 4 length),
    ofLE_toLE small]

theorem lookAhead_prefixed (small : part.length < 256 ^ 4) : lookAhead (prefixed part ++ rest) = .part part rest := by
  have inside : ¬ (part ++ rest).length < part.length := by
    rw [List.length_append]
    omega
  rw [prefixed, List.append_assoc, lookAhead_word small, if_neg inside, List.take_left' rfl, List.drop_left' rfl]

/-- Four bytes are a length. -/
theorem eq_word (enough : 4 ≤ bytes.length) : ∃ length rest, length < 256 ^ 4 ∧ bytes = toLE 4 length ++ rest := by
  have width : (bytes.take 4).length = 4 := by
    rw [List.length_take]
    omega
  have word := toLE_ofLE (bytes.take 4)
  have small := ofLE_lt (bytes.take 4)
  rw [width] at word small
  exact ⟨_, bytes.drop 4, small, by rw [word, List.take_append_drop]⟩

theorem lookAhead_short_iff : lookAhead bytes = .short ↔ bytes.length < 4 := by
  constructor
  · intro found
    by_contra enough
    obtain ⟨length, rest, small, rfl⟩ := eq_word (Nat.le_of_not_lt enough)
    rw [lookAhead_word small] at found
    split at found <;> cases found
  · exact lookAhead_short

theorem lookAhead_cut_iff :
    lookAhead bytes = .cut length ↔
      length < 256 ^ 4 ∧ ∃ rest : List UInt8, bytes = toLE 4 length ++ rest ∧ rest.length < length := by
  constructor
  · intro found
    have enough : 4 ≤ bytes.length := by
      by_contra short
      rw [lookAhead_short (Nat.lt_of_not_le short)] at found
      cases found
    obtain ⟨word, rest, small, rfl⟩ := eq_word enough
    rw [lookAhead_word small] at found
    split at found
    · cases found
      exact ⟨small, rest, rfl, ‹_›⟩
    · cases found
  · rintro ⟨small, rest, rfl, cut⟩
    rw [lookAhead_word small, if_pos cut]

theorem lookAhead_part_iff :
    lookAhead bytes = .part part rest ↔ part.length < 256 ^ 4 ∧ bytes = prefixed part ++ rest := by
  constructor
  · intro found
    have enough : 4 ≤ bytes.length := by
      by_contra short
      rw [lookAhead_short (Nat.lt_of_not_le short)] at found
      cases found
    obtain ⟨length, behind, small, rfl⟩ := eq_word enough
    rw [lookAhead_word small] at found
    split at found
    · cases found
    · rename_i inside
      cases found
      have width : (behind.take length).length = length := by
        rw [List.length_take]
        omega
      exact ⟨by rwa [width], by rw [prefixed, width, List.append_assoc, List.take_append_drop]⟩
  · rintro ⟨small, rfl⟩
    exact lookAhead_prefixed small

end LookAhead

/-- A length that stands at an index, and what is behind it. -/
structure WordAt (bytes : List UInt8) (index length : Nat) (rest : List UInt8) : Prop where
  word : ofLE ((bytes.drop index).take 4) = length
  behind : bytes.drop (index + 4) = rest
  total : bytes.length = index + 4 + rest.length

theorem WordAt.of_drop {bytes rest : List UInt8} {index length : Nat} (small : length < 256 ^ 4)
    (found : bytes.drop index = toLE 4 length ++ rest) : WordAt bytes index length rest where
  word := by rw [found, List.take_left' (toLE_length 4 length), ofLE_toLE small]
  behind := by rw [← List.drop_drop, found, List.drop_left' (toLE_length 4 length)]
  total := by
    have total := congrArg List.length found
    rw [List.length_drop, List.length_append, toLE_length] at total
    omega

section At

variable {bytes part rest : List UInt8} {index length : Nat}

theorem lookAhead_short_at (found : lookAhead (bytes.drop index) = .short) : bytes.length < index + 4 := by
  have short := lookAhead_short_iff.mp found
  rw [List.length_drop] at short
  omega

theorem lookAhead_cut_at (found : lookAhead (bytes.drop index) = .cut length) :
    length < 256 ^ 4 ∧ length ≠ 0 ∧ ∃ rest, WordAt bytes index length rest ∧ rest.length < length := by
  obtain ⟨small, rest, ahead, cut⟩ := lookAhead_cut_iff.mp found
  exact ⟨small, Nat.ne_zero_of_lt cut, rest, .of_drop small ahead, cut⟩

theorem lookAhead_part_at (found : lookAhead (bytes.drop index) = .part part rest) :
    part.length < 256 ^ 4 ∧ WordAt bytes index part.length (part ++ rest) ∧
      ¬ (part ++ rest).length < part.length ∧ bytes.drop (index + 4 + part.length) = rest := by
  obtain ⟨small, ahead⟩ := lookAhead_part_iff.mp found
  have inside : ¬ (part ++ rest).length < part.length := by
    rw [List.length_append]
    omega
  rw [prefixed, List.append_assoc] at ahead
  have word := WordAt.of_drop small ahead
  exact ⟨small, word, inside, by rw [← List.drop_drop, word.behind, List.drop_left' rfl]⟩

end At

end Wire
