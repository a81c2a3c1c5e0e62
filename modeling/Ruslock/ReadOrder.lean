import Mathlib.Data.List.Nodup
import Ruslock.ReadLocks

namespace Ruslock

namespace ReadWriteLock

/-- The ids in the commands that the calls of one kind have sent. -/
def sent (operation : Operation) (past : Past) : List Id16 :=
  past.flatMap fun entry => if entry.1 = operation then (exchanges entry.2).map (·.command.lockId) else []

/-- The read locks that were acquired and are not released, the oldest first. -/
def unreleased (past : Past) : List Id16 := (sent .acquireRead past).diff (sent .releaseRead past)

def AllSucceed (past : Past) : Prop :=
  ∀ entry ∈ past, ∀ exchange ∈ exchanges entry.2, exchange.succeeded = true

/-- Each `release_read` unlocks the oldest read lock, no lock is unlocked more
often than it was acquired, and without one there is nothing to send. -/
structure OldestFirst (past : Past) (lock : ReadWriteLock) : Prop where
  oldest : ∀ front said back, past = front ++ (.releaseRead, said) :: back →
    (exchanges said).map (·.command.lockId) = (unreleased front).take 1 ∧
      ∀ exchange ∈ exchanges said, exchange.isUnlock = true
  once : (sent .releaseRead past).Subperm (sent .acquireRead past)
  refused : unreleased past = [] → ∀ said value, Dialogue.Talk lock.releaseRead said value →
    said = [] ∧ value.1 = .error (.lockData "no read lock to release")

/-- How many read locks are held after one more call that succeeds. -/
def counted (count : Nat) : Operation → Nat
  | .acquireRead => count + 1
  | .releaseRead => count - 1
  | _ => count

/-- How many read locks are held after calls that succeed. -/
def heldAfter (operations : List Operation) : Nat := operations.foldl counted 0

/-- No `release_read` is called while more than one read lock is held. -/
def OneAtATime (past : Past) : Prop :=
  ∀ front said back, past = front ++ (.releaseRead, said) :: back → heldAfter (front.map Prod.fst) ≤ 1

section Lists

variable {α : Type} [DecidableEq α] {front back taken : List α}

/-- What was taken from the front is not missing behind it. -/
theorem append_diff_of_subperm (within : taken.Subperm front) : (front ++ back).diff taken = front.diff taken ++ back := by
  induction taken generalizing front with
  | nil => rfl
  | cons item taken ih =>
    have member : item ∈ front := within.subset List.mem_cons_self
    have rest : taken.Subperm (front.erase item) := by
      have erased := within.erase item
      rwa [List.erase_cons_head] at erased
    rw [List.diff_cons, List.diff_cons, List.erase_append_left _ member, ih rest]

theorem append_diff_self : (taken ++ back).diff taken = back := by
  induction taken with
  | nil => rfl
  | cons item taken ih => rw [List.cons_append, List.diff_cons, List.erase_cons_head, ih]

end Lists

section Sent

variable {past : Past} {operation other : Operation} {said : Dialogue.Transcript Effect.Answer}

theorem sent_append :
    sent operation (past ++ [(other, said)]) =
      sent operation past ++ if other = operation then (exchanges said).map (·.command.lockId) else [] := by
  rw [sent, List.flatMap_append, List.flatMap_singleton]
  rfl

theorem heldAfter_append :
    heldAfter ((past ++ [(operation, said)]).map Prod.fst) = counted (heldAfter (past.map Prod.fst)) operation := by
  rw [List.map_append, heldAfter, List.foldl_append]
  rfl

end Sent

/-- The read locks at hand are those that were acquired and not released. -/
structure Balanced (past : Past) (lock : ReadWriteLock) : Prop where
  count : lock.readIds.length = heldAfter (past.map Prod.fst)
  perm : (sent .acquireRead past).Perm (sent .releaseRead past ++ lock.readIds)

section Runs

variable {md5 : List UInt8 → Wire.Block 16} {start before self after : ReadWriteLock} {past : Past}
  {operation : Operation} {said : Dialogue.Transcript Effect.Answer}

/-- What a read lock's call does to the ids at hand, when it succeeds. -/
theorem acquireRead_readIds (talk : Dialogue.Talk (perform md5 .acquireRead before) said after)
    (succeed : ∀ exchange ∈ exchanges said, exchange.succeeded = true) :
    ∃ lockId, (exchanges said).map (·.command.lockId) = [lockId] ∧ after.readIds = before.readIds ++ [lockId] := by
  obtain ⟨exchange, lock, atSaid, id, _, reads⟩ := acquireRead_talk talk
  rw [atSaid, List.forall_mem_singleton] at succeed
  refine ⟨lock.lockId, by rw [atSaid, List.map_singleton, id], ?_⟩
  rw [readIds, reads, if_pos succeed, List.map_append]
  rfl

theorem releaseRead_readIds (talk : Dialogue.Talk (perform md5 .releaseRead before) said after) :
    (before.readIds = [] ∧ after.readIds = [] ∧ exchanges said = []) ∨
      ∃ lockId, before.readIds = after.readIds ++ [lockId] ∧ (exchanges said).map (·.command.lockId) = [lockId] ∧
        ∀ exchange ∈ exchanges said, exchange.isUnlock = true := by
  rcases releaseRead_talk talk with ⟨empty, silent, rfl⟩ | ⟨lock, exchange, reads, atSaid, unlock, id⟩
  · have none : after.readIds = [] := by rw [readIds, empty]; rfl
    exact .inl ⟨none, none, silent⟩
  · refine .inr ⟨lock.lockId, ?_, by rw [atSaid, List.map_singleton, id], by rwa [atSaid, List.forall_mem_singleton]⟩
    rw [readIds, reads, List.map_append]
    rfl

theorem write_readIds (write : operation = .acquireWrite ∨ operation = .releaseWrite)
    (talk : Dialogue.Talk (perform md5 operation before) said after) : after.readIds = before.readIds :=
  congrArg (List.map Lock.lockId) (write_talk write talk)

theorem Balanced.called (balanced : Balanced past before) (talk : Dialogue.Talk (perform md5 operation before) said after)
    (succeed : ∀ exchange ∈ exchanges said, exchange.succeeded = true) :
    Balanced (past ++ [(operation, said)]) after := by
  obtain ⟨count, perm⟩ := balanced
  cases operation with
  | acquireWrite | releaseWrite =>
    have kept : after.readIds = before.readIds := write_readIds (by simp) talk
    constructor
    · rw [heldAfter_append, kept, count]
      rfl
    · simp only [sent_append, reduceCtorEq, if_false, List.append_nil, kept]
      exact perm
  | acquireRead =>
    obtain ⟨lockId, atSaid, reads⟩ := acquireRead_readIds talk succeed
    constructor
    · rw [heldAfter_append, reads, List.length_append, count]
      rfl
    · simp only [sent_append, reduceCtorEq, if_true, if_false, List.append_nil, atSaid, reads, ← List.append_assoc]
      exact perm.append_right [lockId]
  | releaseRead =>
    rcases releaseRead_readIds talk with ⟨none, still, silent⟩ | ⟨lockId, reads, atSaid, _⟩
    · constructor
      · rw [heldAfter_append, still, ← count, none]
        rfl
      · simp only [sent_append, reduceCtorEq, if_true, if_false, silent, still, List.map_nil, List.append_nil]
        rwa [none, List.append_nil] at perm
    · constructor
      · rw [heldAfter_append, ← count, reads, List.length_append]
        exact (Nat.add_sub_cancel ..).symm
      · simp only [sent_append, reduceCtorEq, if_true, if_false, List.append_nil, atSaid, List.append_assoc]
        rw [reads] at perm
        refine perm.trans ?_
        exact List.perm_append_comm.append_left _

theorem calls_balanced (empty : start.readLocks = []) (run : Dialogue.Calls (perform md5) start past self)
    (succeed : AllSucceed past) : Balanced past self := by
  induction run with
  | start => exact ⟨by rw [readIds, empty]; rfl, by rw [readIds, empty]; rfl⟩
  | @called past before operation said after _ talk ih =>
    obtain ⟨earlier, last⟩ := List.forall_mem_append.mp succeed
    exact (ih earlier).called talk (last _ (List.mem_singleton_self _))

theorem Balanced.unreleased_perm (balanced : Balanced past self) : (unreleased past).Perm self.readIds := by
  have within := balanced.perm.diff_right (sent .releaseRead past)
  rwa [append_diff_self] at within

theorem Balanced.subperm (balanced : Balanced past self) :
    (sent .releaseRead past).Subperm (sent .acquireRead past) :=
  ((List.sublist_append_left _ _).subperm).trans balanced.perm.symm.subperm

/-- As long as the ids differ, the read locks at hand are in the order in which
they were acquired. -/
theorem calls_unreleased (empty : start.readLocks = []) (run : Dialogue.Calls (perform md5) start past self)
    (succeed : AllSucceed past) (different : (sent .acquireRead past).Nodup) : unreleased past = self.readIds := by
  induction run with
  | start =>
    rw [readIds, empty]
    rfl
  | @called past before operation said after run talk ih =>
    obtain ⟨earlier, last⟩ := List.forall_mem_append.mp succeed
    have own := last _ (List.mem_singleton_self _)
    have balanced := calls_balanced empty run earlier
    rw [sent_append] at different
    have before' := ih earlier (different.sublist (List.sublist_append_left _ _))
    unfold unreleased at before' ⊢
    simp only [sent_append]
    cases operation with
    | acquireWrite | releaseWrite =>
      have kept : after.readIds = before.readIds := write_readIds (by simp) talk
      simp only [reduceCtorEq, if_false, List.append_nil, kept]
      exact before'
    | acquireRead =>
      obtain ⟨lockId, atSaid, reads⟩ := acquireRead_readIds talk own
      simp only [reduceCtorEq, if_true, if_false, List.append_nil, atSaid, reads]
      rw [append_diff_of_subperm balanced.subperm, before']
    | releaseRead =>
      rcases releaseRead_readIds talk with ⟨none, still, silent⟩ | ⟨lockId, reads, atSaid, _⟩
      · simp only [reduceCtorEq, if_true, if_false, silent, still, List.map_nil, List.append_nil]
        exact before'.trans none
      · simp only [reduceCtorEq, if_true, if_false, List.append_nil, atSaid]
        have apart : lockId ∉ after.readIds := by
          have nodup : ((sent .acquireRead past).diff (sent .releaseRead past)).Nodup :=
            (different.sublist (List.sublist_append_left _ _)).diff
          rw [before', reads] at nodup
          exact fun member => List.disjoint_of_nodup_append nodup member (List.mem_singleton_self _)
        rw [List.diff_append, before', reads, List.diff_cons, List.diff_nil, List.erase_append_right _ apart,
          List.erase_cons_head, List.append_nil]

/-- A `release_read` with one read lock at hand has no choice. -/
theorem Balanced.releases_oldest (balanced : Balanced past before) (single : heldAfter (past.map Prod.fst) ≤ 1)
    (talk : Dialogue.Talk (perform md5 .releaseRead before) said after) :
    (exchanges said).map (·.command.lockId) = (unreleased past).take 1 := by
  have waiting := balanced.unreleased_perm
  rw [← balanced.count] at single
  rcases releaseRead_readIds talk with ⟨none, _, silent⟩ | ⟨lockId, reads, atSaid, _⟩
  · rw [none] at waiting
    rw [waiting.eq_nil, silent]
    rfl
  · rw [reads, List.length_append, List.length_singleton] at single
    have alone : after.readIds = [] := List.eq_nil_of_length_eq_zero (by omega)
    rw [reads, alone] at waiting
    rw [List.perm_singleton.mp waiting, atSaid]
    rfl

theorem releaseRead_refused (empty : self.readIds = []) {value : Outcome LockCommandResult × ReadWriteLock}
    (talk : Dialogue.Talk self.releaseRead said value) :
    said = [] ∧ value.1 = .error (.lockData "no read lock to release") := by
  have none : self.readLocks = [] := List.map_eq_nil_iff.mp empty
  unfold releaseRead at talk
  rw [none] at talk
  obtain ⟨rfl, rfl⟩ := Dialogue.talk_pure.mp talk
  exact ⟨rfl, rfl⟩

theorem calls_oldestFirst (empty : start.readLocks = []) (run : Dialogue.Calls (perform md5) start past self)
    (succeed : AllSucceed past) (single : OneAtATime past) : OldestFirst past self where
  oldest := by
    rintro front said back rfl
    obtain ⟨before, after, earlier, talk⟩ := run.call_at
    have balanced := calls_balanced empty earlier (List.forall_mem_append.mp succeed).1
    refine ⟨balanced.releases_oldest (single front said back rfl) talk, ?_⟩
    rcases releaseRead_readIds talk with ⟨_, _, silent⟩ | ⟨_, _, _, unlocks⟩
    · rw [silent]
      exact List.forall_mem_nil _
    · exact unlocks
  once := (calls_balanced empty run succeed).subperm
  refused := by
    intro none said value talk
    have waiting := (calls_balanced empty run succeed).unreleased_perm
    rw [none] at waiting
    exact releaseRead_refused waiting.symm.eq_nil talk

/-- The newest of several read locks is not the oldest. -/
theorem calls_oneAtATime (empty : start.readLocks = []) (run : Dialogue.Calls (perform md5) start past self)
    (succeed : AllSucceed past) (different : (sent .acquireRead past).Nodup) (ordered : OldestFirst past self) :
    OneAtATime past := by
  rintro front said back rfl
  obtain ⟨before, after, earlier, talk⟩ := run.call_at
  have succeeded := (List.forall_mem_append.mp succeed).1
  have acquired : (sent .acquireRead front).Nodup := by
    rw [sent, List.flatMap_append] at different
    exact different.sublist (List.sublist_append_left _ _)
  have waiting := calls_unreleased empty earlier succeeded acquired
  have oldest := (ordered.oldest front said back rfl).1
  rw [waiting] at oldest
  rw [← (calls_balanced empty earlier succeeded).count]
  rcases releaseRead_readIds talk with ⟨none, _, _⟩ | ⟨lockId, reads, atSaid, _⟩
  · rw [none]
    exact Nat.zero_le 1
  · have nodup : before.readIds.Nodup := by
      rw [← waiting]
      exact acquired.diff
    rw [reads] at oldest nodup ⊢
    cases others : after.readIds with
    | nil => exact le_rfl
    | cons first rest =>
      rw [others, atSaid] at oldest
      have same : lockId = first := List.singleton_inj.mp oldest
      rw [others, same] at nodup
      exact absurd (List.mem_singleton_self first) (List.disjoint_of_nodup_append nodup List.mem_cons_self)

theorem new_readLocks {database : Database} {key : List UInt8} {timeout expired : UInt16}
    (talk : Dialogue.Talk (ReadWriteLock.new md5 database key timeout expired) said start) : start.readLocks = [] := by
  obtain ⟨_, _, _, rfl, _, last⟩ := Dialogue.talk_bind.mp talk
  obtain ⟨rfl, rfl⟩ := Dialogue.talk_pure.mp last
  rfl

end Runs

/-- Read locks are released oldest first as long as no more than one is held
when one is released; and if all of them differ, only then. -/
theorem releaseRead_oldestFirst (md5 : List UInt8 → Wire.Block 16) (database : Database) (key : List UInt8)
    (timeout expired : UInt16) (birth : Dialogue.Transcript Effect.Answer) (new self : ReadWriteLock) (past : Past)
    (creates : Dialogue.Talk (ReadWriteLock.new md5 database key timeout expired) birth new)
    (run : Dialogue.Calls (perform md5) new past self) (succeed : AllSucceed past) :
    (OneAtATime past → OldestFirst past self) ∧
      ((sent .acquireRead past).Nodup → OldestFirst past self → OneAtATime past) := by
  have empty := new_readLocks creates
  exact ⟨calls_oldestFirst empty run succeed, calls_oneAtATime empty run succeed⟩

section Example

/-- Two read locks, of which the second is given back first. -/
def secondReleased : Dialogue.Transcript Effect.Answer × ReadWriteLock := called .zero true .releaseRead secondRead.2

theorem secondRead_calls :
    Dialogue.Calls (perform noDigest) created.2 ([(.acquireRead, firstRead.1)] ++ [(.acquireRead, secondRead.1)])
      secondRead.2 :=
  firstRead_calls.called (Dialogue.Talk.of_run _ _ _)

theorem secondReleased_not_oldestFirst :
    ¬ ∀ (md5 : List UInt8 → Wire.Block 16) (database : Database) (key : List UInt8) (timeout expired : UInt16)
      (birth : Dialogue.Transcript Effect.Answer) (new self : ReadWriteLock) (past : Past),
      Dialogue.Talk (ReadWriteLock.new md5 database key timeout expired) birth new →
      Dialogue.Calls (perform md5) new past self →
      (∀ entry ∈ past, entry.1 = .acquireRead ∨ entry.1 = .releaseRead) → AllSucceed past →
      (sent .acquireRead past).Nodup → OldestFirst past self := by
  intro claim
  have run : Dialogue.Calls (perform noDigest) created.2
      ([(.acquireRead, firstRead.1)] ++ [(.acquireRead, secondRead.1)] ++ [(.releaseRead, secondReleased.1)])
      secondReleased.2 := secondRead_calls.called (Dialogue.Talk.of_run _ _ _)
  have ordered := claim _ _ _ _ _ _ _ _ _ (Dialogue.Talk.of_run _ _ _) run (by decide)
    (by unfold AllSucceed; decide) (by decide)
  have oldest := (ordered.oldest _ _ [] rfl).1
  revert oldest
  decide

/-- The only read lock is given back. -/
def firstReleased : Dialogue.Transcript Effect.Answer × ReadWriteLock := called .zero true .releaseRead firstRead.2

theorem firstReleased_oneAtATime : OneAtATime [(.acquireRead, firstRead.1), (.releaseRead, firstReleased.1)] := by
  intro front said back whole
  match front with
  | [] => cases whole
  | [first] =>
    cases whole
    decide
  | _ :: _ :: front =>
    have length := congrArg List.length whole
    simp at length

theorem releaseRead_oldestFirst_firstReleased :
    (exchanges firstReleased.1).map (·.command.lockId) = [⟨.ofNatLE 16 1⟩] := by
  have run : Dialogue.Calls (perform noDigest) created.2
      ([(.acquireRead, firstRead.1)] ++ [(.releaseRead, firstReleased.1)]) firstReleased.2 :=
    firstRead_calls.called (Dialogue.Talk.of_run _ _ _)
  have succeed : AllSucceed [(.acquireRead, firstRead.1), (.releaseRead, firstReleased.1)] := by
    unfold AllSucceed
    decide
  have ordered := (releaseRead_oldestFirst noDigest ⟨0⟩ [] 5 10 _ created.2 _ _ (Dialogue.Talk.of_run _ _ _) run
    succeed).1 firstReleased_oneAtATime
  rw [(ordered.oldest [(.acquireRead, firstRead.1)] _ [] rfl).1]
  decide

end Example

end ReadWriteLock

end Ruslock
