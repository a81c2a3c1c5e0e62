import Mathlib.Data.List.Basic

namespace Wire

/-- What a turn of a reading loop comes to: there is nothing more to read, it
takes an item, it fails, or it fails because it asks for bytes up to a place
that the input does not reach. -/
inductive Turn (Item Err : Type)
  | done
  | item (item : Item)
  | fails (err : Err)
  | beyond (reach : Nat) (err : Err)

/-- A format of items one after the other: the bytes of an item, and what a
reader makes of the bytes ahead of it. -/
structure Format (Byte Item Err : Type) where
  encode : Item → List Byte
  Fits : Item → Prop
  turn : List Byte → Turn Item Err
  encode_pos : ∀ item, 0 < (encode item).length
  item_iff : ∀ bytes item, turn bytes = .item item ↔ Fits item ∧ ∃ rest, bytes = encode item ++ rest

namespace Format

variable {Byte Item Err State : Type} (format : Format Byte Item Err)

/-- Input that is items to its end, but for some bytes that are no item. -/
structure Body (body : List Byte) (items : List Item) : Prop where
  fits : ∀ item ∈ items, format.Fits item
  whole : ∃ trailing, body = items.flatMap format.encode ++ trailing ∧ format.turn trailing = .done

/-- What a loop over an index goes on with after a turn. -/
def proceed (into : State → Item → State) (loop : Nat → State → Except Err State) (index : Nat) (state : State) :
    Turn Item Err → Except Err State
  | .done => .ok state
  | .item item => loop (index + (format.encode item).length) (into state item)
  | .fails err => .error err
  | .beyond _ err => .error err

/-- A loop over an index that takes the turns of a format. -/
def Loops (bytes : List Byte) (into : State → Item → State) (loop : Nat → State → Except Err State) : Prop :=
  ∀ index state, loop index state = format.proceed into loop index state (format.turn (bytes.drop index))

variable {format} {bytes rest : List Byte} {into : State → Item → State} {loop : Nat → State → Except Err State}
  {index : Nat}

theorem Body.nil (done : format.turn rest = .done) : format.Body rest [] :=
  ⟨List.forall_mem_nil _, rest, rfl, done⟩

theorem Body.cons {item : Item} {items : List Item} (later : format.Body rest items) (fits : format.Fits item) :
    format.Body (format.encode item ++ rest) (item :: items) := by
  obtain ⟨trailing, rfl, done⟩ := later.whole
  exact ⟨List.forall_mem_cons.mpr ⟨fits, later.fits⟩, trailing, by rw [List.flatMap_cons, List.append_assoc], done⟩

theorem turn_encode {item : Item} (fits : format.Fits item) : format.turn (format.encode item ++ rest) = .item item :=
  (format.item_iff _ item).mpr ⟨fits, rest, rfl⟩

/-- The bytes behind an item that is taken. -/
theorem drop_of_item {item : Item} (taken : format.turn (bytes.drop index) = .item item) :
    bytes.drop index = format.encode item ++ bytes.drop (index + (format.encode item).length) := by
  obtain ⟨_, rest, found⟩ := (format.item_iff _ item).mp taken
  rw [← List.drop_drop, found, List.drop_left' rfl]

theorem drop_lt_of_item {item : Item} (taken : format.turn (bytes.drop index) = .item item) :
    (bytes.drop (index + (format.encode item).length)).length < (bytes.drop index).length := by
  have positive := format.encode_pos item
  rw [drop_of_item taken, List.length_append]
  omega

/-- Items are taken one after the other. -/
theorem Loops.items (loops : format.Loops bytes into loop) (state : State) {items : List Item}
    (fits : ∀ item ∈ items, format.Fits item) (found : bytes.drop index = items.flatMap format.encode ++ rest) :
    loop index state = loop (index + (items.flatMap format.encode).length) (items.foldl into state) ∧
      bytes.drop (index + (items.flatMap format.encode).length) = rest := by
  induction items generalizing index state with
  | nil => exact ⟨rfl, found⟩
  | cons item items ih =>
    obtain ⟨here, later⟩ := List.forall_mem_cons.mp fits
    rw [List.flatMap_cons, List.append_assoc] at found
    have turn : loop index state = loop (index + (format.encode item).length) (into state item) := by
      rw [loops index state, found, turn_encode here]
      rfl
    have behind : bytes.drop (index + (format.encode item).length) = items.flatMap format.encode ++ rest := by
      rw [← List.drop_drop, found, List.drop_left' rfl]
    obtain ⟨run, last⟩ := ih (into state item) later behind
    rw [List.flatMap_cons, List.length_append, ← Nat.add_assoc]
    exact ⟨turn.trans run, last⟩

/-- A loop accepts exactly the bodies of its format, and takes in their items. -/
theorem Loops.ok_iff (loops : format.Loops bytes into loop) {state result : State} :
    loop index state = .ok result ↔
      ∃ items, format.Body (bytes.drop index) items ∧ result = items.foldl into state := by
  constructor
  · intro run
    -- on the number of bytes that lie ahead
    induction ahead : (bytes.drop index).length using Nat.strongRecOn generalizing index state with
    | ind count ih =>
      rw [loops index state] at run
      cases turn : format.turn (bytes.drop index) with
      | done =>
        rw [turn] at run
        cases run
        exact ⟨[], .nil turn, rfl⟩
      | item item =>
        rw [turn] at run
        have smaller := drop_lt_of_item turn
        rw [ahead] at smaller
        obtain ⟨items, body, same⟩ := ih _ smaller run rfl
        rw [drop_of_item turn]
        exact ⟨item :: items, body.cons ((format.item_iff _ item).mp turn).1, same⟩
      | fails err | beyond _ err =>
        rw [turn] at run
        cases run
  · rintro ⟨items, body, rfl⟩
    obtain ⟨trailing, found, done⟩ := body.whole
    obtain ⟨run, behind⟩ := loops.items state body.fits found
    rw [run, loops, behind, done]
    rfl

/-- Two loops of a format do the same where the same bytes lie ahead. -/
theorem Loops.shift {bytes' : List Byte} {loop' : Nat → State → Except Err State} {index' : Nat} {state : State}
    (loops : format.Loops bytes into loop) (loops' : format.Loops bytes' into loop')
    (same : bytes.drop index = bytes'.drop index') : loop index state = loop' index' state := by
  -- on the number of bytes that lie ahead
  induction ahead : (bytes.drop index).length using Nat.strongRecOn generalizing index index' state with
  | ind count ih =>
    rw [loops index state, loops' index' state, ← same]
    cases turn : format.turn (bytes.drop index) with
    | done => rfl
    | item item =>
      have smaller := drop_lt_of_item turn
      rw [ahead] at smaller
      have behind : bytes.drop (index + (format.encode item).length) =
          bytes'.drop (index' + (format.encode item).length) := by
        rw [← List.drop_drop, same, List.drop_drop]
      exact ih _ smaller behind rfl
    | fails err => rfl
    | beyond _ err => rfl

section Limit

variable {Raised : Type} {limit room : Nat} {overflow : Raised} {raise : Err → Raised}
  {counting : Nat → State → Except Raised State} {state : State}

variable (format) in
/-- Behind items a length asks for bytes up to the limit. -/
def Overruns (limit index : Nat) (body : List Byte) : Prop :=
  ∃ (items : List Item) (rest : List Byte) (reach : Nat) (err : Err),
    (∀ item ∈ items, format.Fits item) ∧ body = items.flatMap format.encode ++ rest ∧
      format.turn rest = .beyond reach err ∧ limit ≤ index + (items.flatMap format.encode).length + reach

variable (format) in
/-- What a loop that counts below a limit goes on with after a turn. -/
def proceedWithin (limit : Nat) (overflow : Raised) (raise : Err → Raised) (into : State → Item → State)
    (counting : Nat → State → Except Raised State) (index : Nat) (state : State) : Turn Item Err → Except Raised State
  | .done => .ok state
  | .item item => counting (index + (format.encode item).length) (into state item)
  | .fails err => .error (raise err)
  | .beyond reach err => if index + reach < limit then .error (raise err) else .error overflow

variable (format) in
/-- A loop that counts below a limit and takes the turns of a format wherever
there is room to look ahead. -/
def LoopsWithin (limit room : Nat) (overflow : Raised) (raise : Err → Raised) (bytes : List Byte)
    (into : State → Item → State) (counting : Nat → State → Except Raised State) : Prop :=
  ∀ index state, index + room < limit →
    counting index state =
      format.proceedWithin limit overflow raise into counting index state (format.turn (bytes.drop index))

theorem overruns_cons {item : Item} (fits : format.Fits item)
    (later : format.Overruns limit (index + (format.encode item).length) rest) :
    format.Overruns limit index (format.encode item ++ rest) := by
  obtain ⟨items, last, reach, err, fit, rfl, beyond, far⟩ := later
  refine ⟨item :: items, last, reach, err, List.forall_mem_cons.mpr ⟨fits, fit⟩, ?_, beyond, ?_⟩
  · rw [List.flatMap_cons, List.append_assoc]
  · rw [List.flatMap_cons, List.length_append]
    omega

/-- Lengths that reach little past what lies ahead cannot overrun a far limit. -/
theorem Overruns.near {slack : Nat} {body : List Byte}
    (near : ∀ rest reach err, format.turn rest = .beyond reach err → reach ≤ rest.length + slack)
    (overruns : format.Overruns limit index body) : limit ≤ index + body.length + slack := by
  obtain ⟨items, rest, reach, err, fits, rfl, beyond, far⟩ := overruns
  have bound := near rest reach err beyond
  rw [List.length_append]
  omega

/-- Behind an item there is room again. -/
theorem room_of_item {item : Item} (long : bytes.length + room < limit)
    (taken : format.turn (bytes.drop index) = .item item) : index + (format.encode item).length + room < limit := by
  have positive := format.encode_pos item
  have length := congrArg List.length (drop_of_item taken)
  rw [List.length_append, List.length_drop] at length
  omega

theorem LoopsWithin.overflows (within : format.LoopsWithin limit room overflow raise bytes into counting)
    (long : bytes.length + room < limit) (start : index + room < limit)
    (overruns : format.Overruns limit index (bytes.drop index)) : counting index state = .error overflow := by
  obtain ⟨items, rest, reach, err, fits, found, beyond, far⟩ := overruns
  induction items generalizing index state with
  | nil =>
    rw [List.flatMap_nil, List.nil_append] at found
    rw [List.flatMap_nil, List.length_nil] at far
    have past : ¬ index + reach < limit := by omega
    rw [within index state start, found, beyond, proceedWithin, if_neg past]
  | cons item items ih =>
    obtain ⟨here, later⟩ := List.forall_mem_cons.mp fits
    rw [List.flatMap_cons, List.append_assoc] at found
    rw [List.flatMap_cons, List.length_append] at far
    have taken : format.turn (bytes.drop index) = .item item := by rw [found, turn_encode here]
    have behind : bytes.drop (index + (format.encode item).length) = items.flatMap format.encode ++ rest := by
      rw [← List.drop_drop, found, List.drop_left' rfl]
    rw [within index state start, taken]
    exact ih (room_of_item long taken) later behind (by omega)

/-- Below the limit a loop does what it does without one. -/
theorem LoopsWithin.eq_mapError (within : format.LoopsWithin limit room overflow raise bytes into counting)
    (loops : format.Loops bytes into loop) (long : bytes.length + room < limit) (start : index + room < limit)
    (inside : ¬ format.Overruns limit index (bytes.drop index)) :
    counting index state = (loop index state).mapError raise := by
  -- on the number of bytes that lie ahead
  induction ahead : (bytes.drop index).length using Nat.strongRecOn generalizing index state with
  | ind count ih =>
    rw [within index state start, loops index state]
    cases turn : format.turn (bytes.drop index) with
    | done => rfl
    | item item =>
      have smaller := drop_lt_of_item turn
      rw [ahead] at smaller
      have later : ¬ format.Overruns limit (index + (format.encode item).length)
          (bytes.drop (index + (format.encode item).length)) := by
        intro overruns
        rw [drop_of_item turn] at inside
        exact inside (overruns_cons ((format.item_iff _ item).mp turn).1 overruns)
      exact ih _ smaller (room_of_item long turn) later rfl
    | fails err => rfl
    | beyond reach err =>
      have fits : index + reach < limit := by
        by_contra past
        exact inside ⟨[], _, reach, err, List.forall_mem_nil _, rfl, turn, Nat.le_of_not_lt past⟩
      rw [proceedWithin, if_pos fits]
      rfl

end Limit

end Format

end Wire
