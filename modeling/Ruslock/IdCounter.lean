import Ruslock.Lib.Cyclic
import Ruslock.Lib.Transition
import Ruslock.Protocol

namespace Ruslock
open Wire

/-- `Id16::new`, from the milliseconds of the clock, a random number and what
`fetch_add` has returned. -/
def Id16.ofReadings (timestamp randNumber : UInt64) (fetched : UInt32) : Id16 :=
  let counter := (fetched + 1) &&& 0x7fffffff
  ⟨⟨[(timestamp >>> 40).toUInt8, (timestamp >>> 32).toUInt8, (timestamp >>> 24).toUInt8,
      (timestamp >>> 16).toUInt8, (timestamp >>> 8).toUInt8, timestamp.toUInt8,
      (randNumber >>> 40).toUInt8, (randNumber >>> 32).toUInt8, (randNumber >>> 24).toUInt8,
      (randNumber >>> 16).toUInt8, (randNumber >>> 8).toUInt8, randNumber.toUInt8,
      (counter >>> 24).toUInt8, (counter >>> 16).toUInt8, (counter >>> 8).toUInt8, counter.toUInt8], rfl⟩⟩

/-- The number in the last four bytes of an id. -/
def Id16.serial (id : Id16) : Nat :=
  (id.bytes.get 12).toNat * 2 ^ 24 + (id.bytes.get 13).toNat * 2 ^ 16 + (id.bytes.get 14).toNat * 2 ^ 8 +
    (id.bytes.get 15).toNat

/-- Four bytes, the highest first, stand for the number that they are cut from. -/
theorem toNat_of_bytes (counter : UInt32) :
    (counter >>> 24).toUInt8.toNat * 2 ^ 24 + (counter >>> 16).toUInt8.toNat * 2 ^ 16 +
      (counter >>> 8).toUInt8.toNat * 2 ^ 8 + counter.toUInt8.toNat = counter.toNat := by
  have bound := counter.toNat_lt
  simp only [UInt32.toNat_toUInt8, UInt32.toNat_shiftRight, Nat.shiftRight_eq_div_pow, UInt32.reduceToNat,
    Nat.reduceMod]
  omega

theorem Id16.serial_ofReadings (timestamp randNumber : UInt64) (fetched : UInt32) :
    (ofReadings timestamp randNumber fetched).serial = (fetched.toNat + 1) % 2 ^ 31 := by
  have bytes : (ofReadings timestamp randNumber fetched).serial = ((fetched + 1) &&& 0x7fffffff).toNat :=
    toNat_of_bytes _
  have low : ∀ value : Nat, value &&& (0x7fffffff : UInt32).toNat = value % 2 ^ 31 :=
    fun value => Nat.and_two_pow_sub_one_eq_mod value 31
  -- the counter wraps at a multiple of the number of serials
  rw [bytes, UInt32.toNat_and, low, UInt32.toNat_add, UInt32.toNat_one, Nat.mod_mod_of_dvd _ (by decide)]

namespace IdCounter
open Transition

abbrev CallId := Nat

/-- Where a call of `Id16::new` is. -/
inductive Pc
  | idle
  | timed (timestamp : UInt64)
  | drawn (timestamp randNumber : UInt64)
  | returned (id : Id16)

/-- `ID_COUNTER`, and everybody who calls `Id16::new`. -/
structure State where
  idCounter : UInt32
  calls : CallId → Pc

/-- A call reads the clock, draws a random number and increments the counter. -/
inductive Action
  | readClock (c : CallId) (timestamp : UInt64)
  | draw (c : CallId) (randNumber : UInt64)
  | fetchAdd (c : CallId)

def State.move (s : State) (c : CallId) (pc : Pc) : State := { s with calls := Function.update s.calls c pc }

def step (s : State) : Action → Option State
  | .readClock c timestamp =>
    match s.calls c with
    | .idle => some (s.move c (.timed timestamp))
    | _ => none
  | .draw c randNumber =>
    match s.calls c with
    | .timed timestamp => some (s.move c (.drawn timestamp randNumber))
    | _ => none
  | .fetchAdd c =>
    match s.calls c with
    | .drawn timestamp randNumber => some
      { s.move c (.returned (.ofReadings timestamp randNumber s.idCounter)) with idCounter := s.idCounter + 1 }
    | _ => none

/-- The calls that have incremented the counter, in their order, with their ids. -/
abbrev Generated := List (CallId × Id16)

def record (_s : State) (action : Action) (after : State) (generated : Generated) : Generated :=
  match action with
  | .fetchAdd c =>
    match after.calls c with
    | .returned id => generated ++ [(c, id)]
    | _ => generated
  | _ => generated

/-- Runs from any state, with the ids that are generated in them. -/
abbrev GeneratedFrom (initial s : State) (generated : Generated) : Prop :=
  Reach (watch step record) Always (initial, []) (s, generated)

/-- What one step can be. -/
inductive Step (s : State) : Action → State → Prop
  | readClock {c timestamp} : s.calls c = .idle → Step s (.readClock c timestamp) (s.move c (.timed timestamp))
  | draw {c timestamp randNumber} : s.calls c = .timed timestamp →
      Step s (.draw c randNumber) (s.move c (.drawn timestamp randNumber))
  | fetchAdd {c timestamp randNumber} : s.calls c = .drawn timestamp randNumber →
      Step s (.fetchAdd c)
        { s.move c (.returned (.ofReadings timestamp randNumber s.idCounter)) with idCounter := s.idCounter + 1 }

theorem Step.of_run {s after : State} {action : Action} (run : step s action = some after) : Step s action after := by
  cases action <;>
  · simp only [step] at run
    split at run <;> cases run
    constructor
    assumption

/-- The number in the last four bytes, as a place on a circle. -/
def place (id : Id16) : Fin (2 ^ 31) := Fin.ofNat _ id.serial

/-- The ids come in the order of the counter, and everybody has theirs. -/
structure Counted (initial s : State) (generated : Generated) : Prop where
  counter : s.idCounter.toNat % 2 ^ 31 = (initial.idCounter.toNat + generated.length) % 2 ^ 31
  order : Cyclic.InOrder (2 ^ 31) (initial.idCounter.toNat + 1) (generated.map fun entry => place entry.2)
  returned : ∀ c id, s.calls c = .returned id ↔ initial.calls c = .returned id ∨ (c, id) ∈ generated

section Runs

variable {initial s after : State} {generated : Generated} {action : Action}

/-- A step that does not return changes nobody's id. -/
theorem Counted.move {c : CallId} {pc : Pc} (counted : Counted initial s generated)
    (busy : ∀ id, s.calls c ≠ .returned id) (goes : ∀ id, pc ≠ .returned id) :
    Counted initial (s.move c pc) generated where
  counter := counted.counter
  order := counted.order
  returned := by
    intro other id
    rw [← counted.returned]
    by_cases same : other = c
    · subst same
      have here : (s.move other pc).calls other = pc := Function.update_self ..
      rw [here]
      exact iff_of_false (goes id) (busy id)
    · have elsewhere : (s.move c pc).calls other = s.calls other := Function.update_of_ne same ..
      rw [elsewhere]

theorem Counted.fetchAdd {c : CallId} {timestamp randNumber : UInt64} (counted : Counted initial s generated)
    (atPc : s.calls c = .drawn timestamp randNumber) :
    Counted initial
      { s.move c (.returned (.ofReadings timestamp randNumber s.idCounter)) with idCounter := s.idCounter + 1 }
      (generated ++ [(c, .ofReadings timestamp randNumber s.idCounter)]) where
  counter := by
    rw [UInt32.toNat_add, UInt32.toNat_one, Nat.mod_mod_of_dvd _ (by decide), List.length_append, List.length_singleton,
      ← Nat.add_assoc]
    exact Nat.ModEq.add_right 1 counted.counter
  order := by
    rw [List.map_append, List.map_singleton]
    refine counted.order.snoc ?_
    rw [List.length_map, Nat.add_right_comm]
    change Id16.serial _ % 2 ^ 31 = _
    rw [Id16.serial_ofReadings, Nat.mod_mod]
    exact Nat.ModEq.add_right 1 counted.counter
  returned := by
    intro other id
    rw [List.mem_append, List.mem_singleton, ← or_assoc, ← counted.returned]
    by_cases same : other = c
    · subst same
      have here : (s.move other (.returned (.ofReadings timestamp randNumber s.idCounter))).calls other =
          .returned (.ofReadings timestamp randNumber s.idCounter) := Function.update_self ..
      change (s.move other _).calls other = _ ↔ _
      rw [here, atPc]
      constructor
      · rintro ⟨⟩
        exact .inr rfl
      · rintro (busy | pair)
        · cases busy
        · exact congrArg Pc.returned (Prod.mk.inj pair).2.symm
    · have elsewhere : (s.move c (.returned (.ofReadings timestamp randNumber s.idCounter))).calls other =
          s.calls other := Function.update_of_ne same ..
      change (s.move c _).calls other = _ ↔ _
      rw [elsewhere]
      exact ⟨.inl, fun or => or.resolve_right fun pair => same (Prod.mk.inj pair).1⟩

theorem Step.counted (taken : Step s action after) (counted : Counted initial s generated) :
    Counted initial after (record s action after generated) := by
  cases taken with
  | readClock atPc => exact counted.move (by rw [atPc]; exact nofun) nofun
  | draw atPc => exact counted.move (by rw [atPc]; exact nofun) nofun
  | @fetchAdd c timestamp randNumber atPc =>
    have here : (s.move c (.returned (.ofReadings timestamp randNumber s.idCounter))).calls c =
        .returned (.ofReadings timestamp randNumber s.idCounter) := Function.update_self ..
    simp only [record, here]
    exact counted.fetchAdd atPc

theorem Counted.of_reach (reach : GeneratedFrom initial s generated) : Counted initial s generated := by
  have base : Counted initial initial [] :=
    ⟨rfl, Cyclic.inOrder_nil _ _, fun c id => (or_iff_left (List.not_mem_nil)).symm⟩
  refine Reach.invariant reach (motive := fun watched => Counted initial watched.1 watched.2) base ?_
  intro before action after _ counted _ run
  obtain ⟨stepped, recorded⟩ := watch_eq_some run
  rw [recorded]
  exact (Step.of_run stepped).counted counted

theorem Counted.nodup (counted : Counted initial s generated) (within : generated.length ≤ 2 ^ 31) :
    (generated.map Prod.snd).Nodup := by
  refine List.Nodup.of_map place ?_
  rw [List.map_map]
  exact counted.order.nodup (by rwa [List.length_map])

end Runs

/-- In a run of at most `2 ^ 31` increments of the counter, from any state and
with calls that overlap in any way, the calls that return have the ids that were
generated, and all of these are different. -/
theorem generated_nodup (initial s : State) (generated : Generated) (reach : GeneratedFrom initial s generated)
    (window : generated.length ≤ 2 ^ 31) :
    (generated.map Prod.snd).Nodup ∧
      ∀ c id, s.calls c = .returned id ↔ initial.calls c = .returned id ∨ (c, id) ∈ generated := by
  have counted := Counted.of_reach reach
  exact ⟨counted.nodup window, counted.returned⟩

section Example

/-- Two calls that overlap, while the counter is about to wrap. -/
def wrapping : List Action :=
  [.readClock 0 5, .readClock 1 5, .draw 1 7, .draw 0 7, .fetchAdd 1, .fetchAdd 0]

def aboutToWrap : State := ⟨0xffffffff, fun _ => .idle⟩

def wrapped : Generated := [(1, .ofReadings 5 7 0xffffffff), (0, .ofReadings 5 7 0)]

theorem generated_nodup_wrapping : (wrapped.map Prod.snd).Nodup := by
  have executed : (run (watch step record) (aboutToWrap, []) wrapping).any (fun watched => watched.2 == wrapped) = true := by
    decide
  obtain ⟨⟨s, generated⟩, reach, found⟩ := Reach.exists_of_run (runAllowed_always ..) executed
  obtain rfl : generated = wrapped := beq_iff_eq.mp found
  exact (generated_nodup aboutToWrap s wrapped reach (by decide)).1

end Example

end IdCounter

end Ruslock
