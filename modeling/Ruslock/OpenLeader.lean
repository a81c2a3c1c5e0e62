import Mathlib.Data.List.FinRange
import Mathlib.Data.List.Induction
import Ruslock.ReplsetSteps

namespace Ruslock.Replset
open Transition

variable {n : Nat}

/-- What has come of a node: the init type of its client once `client.open()` is
done, or the error. -/
structure Report (n : Nat) where
  node : Fin n
  outcome : Outcome UInt8

def Report.live (report : Report n) : Bool := report.outcome.isOk

def Report.leads (report : Report n) : Bool :=
  match report.outcome with
  | .ok initType => initType &&& initTypeFlagIsLeader != 0
  | .error _ => false

def Report.failure (report : Report n) : Option SlockError :=
  match report.outcome with
  | .ok _ => none
  | .error err => some err

/-- What an `open` has done: the nodes whose clients it has called, what has
come of them, and the active index before and after each of its steps. -/
structure OpenLog (n : Nat) where
  asked : List (Fin n)
  reports : List (Report n)
  actives : List (Option Nat × Option Nat)

/-- What a step of an `open` learns of a node. -/
def learned (s : State n) (u : OpenId) : OpenAction → Option (Report n)
  | .opened =>
    match s.opens u with
    | .opening _ index o =>
      match (s.clients index).opens o with
      | .returned (.error err) => some ⟨index, .error err⟩
      | _ => none
    | _ => none
  | .readInitType =>
    match s.opens u with
    | .readInitType _ index => some ⟨index, .ok (s.clients index).initType⟩
    | _ => none
  | _ => none

/-- The history of one `open`. -/
def recordOpen (u : OpenId) (s : State n) (action : Action n) (after : State n) (log : OpenLog n) : OpenLog n :=
  match action with
  | .opening moved action =>
    if moved = u then
      { asked := log.asked ++ ((clientAction s (.opening u action)).map Prod.fst).toList
        reports := log.reports ++ (learned s u action).toList
        actives := log.actives ++ [(s.activeIndex, after.activeIndex)] }
    else log
  | _ => log

/-- Runs of the replset client with the history of one `open` in them. -/
abbrev OpenReached (config : Config n) (u : OpenId) (allowed : State n → Action n → Prop) (initial s : State n)
    (log : OpenLog n) : Prop :=
  Reach (watch (step config) (recordOpen u)) (fun state action => allowed state.1 action)
    (initial, ⟨[], [], []⟩) (s, log)

/-- The last leader, or the first live node. -/
def choice (reports : List (Report n)) : Option (Fin n) :=
  ((reports.filter Report.leads).getLast?.or (reports.filter Report.live).head?).map Report.node

/-- No step has changed the active index. -/
def Quiet (actives : List (Option Nat × Option Nat)) : Prop := ∀ entry ∈ actives, entry.2 = entry.1

/-- An `open` has been through all nodes in their order, and has returned what
has come of them. -/
structure Selects (log : OpenLog n) (outcome : Outcome Unit) : Prop where
  asked : log.asked = List.finRange n
  reported : log.reports.map Report.node = List.finRange n
  ok_iff : outcome = .ok () ↔ ∃ report ∈ log.reports, report.live = true
  chosen : outcome = .ok () → ∃ quiet before index, log.actives = quiet ++ [(before, some index.val)] ∧ Quiet quiet ∧
    choice log.reports = some index ∧ ∃ initType, ⟨index, .ok initType⟩ ∈ log.reports
  failed : ∀ err, outcome = .error err → (log.reports.filterMap Report.failure).getLast? = some err ∧ Quiet log.actives

/-- The locals of `open` after one node. -/
def Opened.report (opened : Opened) : Outcome UInt8 → Opened
  | .ok initType => (opened.next (.ok ())).readLeader initType
  | .error err => opened.next (.error err)

/-- The locals of `open` after some nodes. -/
def summary (reports : List (Report n)) : Opened :=
  reports.foldl (fun opened report => opened.report report.outcome) ⟨0, none, none, none⟩

section Summary

variable {reports : List (Report n)} {report : Report n}

/-- The nodes come in their order. -/
def Numbered (reports : List (Report n)) : Prop := reports.map (·.node.val) = List.range reports.length

theorem numbered_append : Numbered (reports ++ [report]) ↔ Numbered reports ∧ report.node.val = reports.length := by
  unfold Numbered
  rw [List.map_append, List.length_append, List.length_singleton, List.range_succ, List.map_singleton]
  constructor
  · intro whole
    obtain ⟨front, last⟩ := List.append_inj' whole rfl
    exact ⟨front, List.singleton_inj.mp last⟩
  · rintro ⟨front, last⟩
    rw [front, last]

theorem summary_append : summary (reports ++ [report]) = (summary reports).report report.outcome := by
  rw [summary, List.foldl_append]
  rfl

theorem summary_index : (summary reports).index = reports.length := by
  induction reports using List.reverseRecOn with
  | nil => rfl
  | append_singleton reports report ih =>
    rw [summary_append, List.length_append, List.length_singleton, ← ih]
    cases report.outcome <;> rfl

theorem summary_lastError : (summary reports).lastError = (reports.filterMap Report.failure).getLast? := by
  induction reports using List.reverseRecOn with
  | nil => rfl
  | append_singleton reports report ih =>
    obtain ⟨index, outcome⟩ := report
    rw [summary_append, List.filterMap_append]
    cases outcome with
    | ok initType =>
      have none : Report.failure ⟨index, .ok initType⟩ = none := rfl
      rw [List.filterMap_cons_none none, List.filterMap_nil, List.append_nil]
      exact ih
    | error err =>
      have some : Report.failure ⟨index, .error err⟩ = some err := rfl
      rw [List.filterMap_cons_some some, List.filterMap_nil, List.getLast?_concat]
      rfl

/-- The first node that is live is kept. -/
theorem summary_firstLive (numbered : Numbered reports) :
    (summary reports).firstLive = (reports.filter Report.live).head?.map (·.node.val) := by
  induction reports using List.reverseRecOn with
  | nil => rfl
  | append_singleton reports report ih =>
    obtain ⟨before, last⟩ := numbered_append.mp numbered
    obtain ⟨index, outcome⟩ := report
    rw [summary_append, List.filter_append, List.head?_append, Option.map_or, ← ih before]
    cases outcome with
    | ok initType =>
      have taken : ((summary reports).report (.ok initType)).firstLive =
          some ((summary reports).firstLive.getD (summary reports).index) := rfl
      rw [taken, summary_index, ← last]
      cases (summary reports).firstLive <;> rfl
    | error err => exact (Option.or_none ..).symm

/-- A later leader takes the place of an earlier one. -/
theorem summary_leader (numbered : Numbered reports) :
    (summary reports).leader = (reports.filter Report.leads).getLast?.map (·.node.val) := by
  induction reports using List.reverseRecOn with
  | nil => rfl
  | append_singleton reports report ih =>
    obtain ⟨before, last⟩ := numbered_append.mp numbered
    obtain ⟨index, outcome⟩ := report
    rw [summary_append, List.filter_append, List.getLast?_append, Option.map_or, ← ih before]
    cases outcome with
    | ok initType =>
      have taken : ((summary reports).report (.ok initType)).leader =
          if initType &&& initTypeFlagIsLeader ≠ 0 then some (summary reports).index
          else (summary reports).leader := rfl
      rw [taken, summary_index, ← last]
      by_cases leads : initType &&& initTypeFlagIsLeader ≠ 0
      · have kept : [(⟨index, .ok initType⟩ : Report n)].filter Report.leads = [⟨index, .ok initType⟩] :=
          List.filter_cons_of_pos (bne_iff_ne.mpr leads)
        rw [if_pos leads, kept]
        rfl
      · have dropped : [(⟨index, .ok initType⟩ : Report n)].filter Report.leads = [] :=
          List.filter_cons_of_neg (by simpa [Report.leads] using leads)
        rw [if_neg leads, dropped]
        rfl
    | error err => rfl

/-- What `open` takes is the last leader, or the first live node. -/
theorem summary_choice (numbered : Numbered reports) :
    (summary reports).leader.or (summary reports).firstLive = (choice reports).map Fin.val := by
  rw [choice, summary_leader numbered, summary_firstLive numbered, Option.map_map, Option.map_or]
  rfl

theorem Report.live_iff : report.live = true ↔ ∃ initType, report.outcome = .ok initType := by
  obtain ⟨index, outcome⟩ := report
  cases outcome with
  | ok initType => exact iff_of_true rfl ⟨initType, rfl⟩
  | error err => exact iff_of_false nofun nofun

theorem Report.live_of_leads (leads : report.leads = true) : report.live = true := by
  obtain ⟨index, outcome⟩ := report
  cases outcome with
  | ok initType => rfl
  | error err => cases leads

theorem choice_live {index : Fin n} (chosen : choice reports = some index) :
    ∃ initType, ⟨index, .ok initType⟩ ∈ reports := by
  obtain ⟨report, found, rfl⟩ := Option.map_eq_some_iff.mp chosen
  have opened : report ∈ reports ∧ report.live = true := by
    rcases Option.or_eq_some_iff.mp found with leader | ⟨_, first⟩
    · obtain ⟨member, leads⟩ := List.mem_filter.mp (List.mem_of_getLast? leader)
      exact ⟨member, Report.live_of_leads leads⟩
    · exact List.mem_filter.mp (List.mem_of_head? first)
  obtain ⟨initType, same⟩ := Report.live_iff.mp opened.2
  exact ⟨initType, same ▸ opened.1⟩

theorem choice_eq_none : choice reports = none ↔ ∀ report ∈ reports, ¬ report.live = true := by
  rw [choice, Option.map_eq_none_iff, Option.or_eq_none_iff, List.getLast?_eq_none_iff, List.head?_eq_none_iff,
    List.filter_eq_nil_iff, List.filter_eq_nil_iff]
  exact ⟨And.right, fun dead => ⟨fun report member leads => dead report member (Report.live_of_leads leads), dead⟩⟩

/-- Where all nodes have failed there is a last one that has. -/
theorem lastFailure_eq_some (dead : ∀ report ∈ reports, ¬ report.live = true) (nonempty : reports ≠ []) :
    ∃ err, (reports.filterMap Report.failure).getLast? = some err := by
  obtain ⟨report, member⟩ := List.exists_mem_of_ne_nil reports nonempty
  cases last : (reports.filterMap Report.failure).getLast? with
  | some err => exact ⟨err, rfl⟩
  | none =>
    have none := List.filterMap_eq_nil_iff.mp (List.getLast?_eq_none_iff.mp last) report member
    have opened := dead report member
    obtain ⟨index, outcome⟩ := report
    cases outcome with
    | ok initType => exact absurd rfl opened
    | error err => cases none

end Summary

/-- An `open` has called its nodes in their order, up to some point, and has
not changed the active index. -/
structure Through (log : OpenLog n) (asked : Nat) : Prop where
  asked : log.asked.map Fin.val = List.range asked
  numbered : Numbered log.reports
  quiet : Quiet log.actives

/-- The history of an `open` fits to its place in the loop. -/
def OpenPc.Fits (log : OpenLog n) : OpenPc n → Prop
  | .idle => log = ⟨[], [], []⟩
  | .attempt opened => opened = summary log.reports ∧ Through log log.reports.length
  | .opening opened index _ =>
    opened = summary log.reports ∧ index.val = log.reports.length ∧ Through log (log.reports.length + 1)
  | .readInitType opened index =>
    opened = (summary log.reports).next (.ok ()) ∧ index.val = log.reports.length ∧
      Through log (log.reports.length + 1)
  | .setActive index => log.reports.length = n ∧ Through log n ∧ (choice log.reports).map Fin.val = some index
  | .returned outcome => 0 < n → Selects log outcome

section Through

variable {log : OpenLog n} {asked : Nat}

theorem Through.le (through : Through log asked) : asked ≤ n := by
  by_contra! more
  have member : n ∈ log.asked.map Fin.val := by
    rw [through.asked]
    exact List.mem_range.mpr more
  obtain ⟨index, _, same⟩ := List.mem_map.mp member
  exact absurd same index.isLt.ne

/-- All indices in their order. -/
theorem eq_finRange {indices : List (Fin n)} (all : indices.map Fin.val = List.range n) : indices = List.finRange n := by
  apply List.map_injective_iff.mpr Fin.val_injective
  rw [all]
  exact List.map_coe_finRange_eq_range.symm

theorem Through.asked_all (through : Through log n) : log.asked = List.finRange n := eq_finRange through.asked

theorem Through.reported_all (through : Through log n) (full : log.reports.length = n) :
    log.reports.map Report.node = List.finRange n := by
  have numbered := through.numbered
  rw [Numbered, full] at numbered
  exact eq_finRange (by rw [List.map_map]; exact numbered)

/-- A step that leaves the active index alone. -/
theorem Quiet.append {actives : List (Option Nat × Option Nat)} (quiet : Quiet actives) (active : Option Nat) :
    Quiet (actives ++ [(active, active)]) :=
  List.forall_mem_append.mpr ⟨quiet, List.forall_mem_singleton.mpr rfl⟩

theorem Through.selects_leader {index : Nat} (through : Through log n) (full : log.reports.length = n)
    (chosen : (choice log.reports).map Fin.val = some index) (active : Option Nat) :
    Selects { log with actives := log.actives ++ [(active, some index)] } (.ok ()) where
  asked := through.asked_all
  reported := through.reported_all full
  ok_iff := by
    obtain ⟨node, found, _⟩ := Option.map_eq_some_iff.mp chosen
    obtain ⟨initType, member⟩ := choice_live found
    exact iff_of_true rfl ⟨_, member, rfl⟩
  chosen := by
    obtain ⟨node, found, rfl⟩ := Option.map_eq_some_iff.mp chosen
    exact fun _ => ⟨log.actives, active, node, rfl, through.quiet, found, choice_live found⟩
  failed := nofun

theorem Through.selects_none (through : Through log n) (full : log.reports.length = n) (nonempty : 0 < n)
    (none : choice log.reports = none) (active : Option Nat) :
    Selects { log with actives := log.actives ++ [(active, active)] }
      (.error ((summary log.reports).lastError.getD .notConnected)) := by
  have dead := choice_eq_none.mp none
  obtain ⟨last, atLast⟩ := lastFailure_eq_some dead (List.ne_nil_of_length_pos (by rwa [full]))
  rw [summary_lastError, atLast]
  refine ⟨through.asked_all, through.reported_all full, ?_, nofun, ?_⟩
  · exact iff_of_false nofun fun ⟨report, member, live⟩ => dead report member live
  · rintro _ ⟨⟩
    exact ⟨atLast, through.quiet.append active⟩

end Through

section Runs

variable {config : Config n} {s after : State n} {u : OpenId} {log : OpenLog n}

/-- Only its own steps move an `open`. -/
theorem Step.opener {action : Action n} (taken : Step config s action after) (u : OpenId) :
    (∃ action', action = .opening u action' ∧ OpenStep config s u action' after) ∨
      after.opens u = s.opens u ∧ recordOpen u s action after log = log := by
  cases taken with
  | @opening moved action' _ taken =>
    by_cases here : moved = u
    · subst here
      exact .inl ⟨action', rfl, taken⟩
    · refine .inr ⟨?_, if_neg here⟩
      cases taken <;> exact Function.update_of_ne (Ne.symm here) ..
  | send taken => cases taken <;> exact .inr ⟨rfl, rfl⟩
  | closing taken => cases taken <;> exact .inr ⟨rfl, rfl⟩
  | client => exact .inr ⟨rfl, rfl⟩
  | tick => exact .inr ⟨rfl, rfl⟩

theorem recordOpen_own (action : OpenAction) :
    recordOpen u s (.opening u action) after log =
      { asked := log.asked ++ ((clientAction s (.opening u action)).map Prod.fst).toList
        reports := log.reports ++ (learned s u action).toList
        actives := log.actives ++ [(s.activeIndex, after.activeIndex)] } :=
  if_pos rfl

/-- A node is called. -/
theorem Through.ask {asked : Nat} (through : Through log asked) {index : Fin n} (same : index.val = asked)
    (active : Option Nat) :
    Through ⟨log.asked ++ [index], log.reports, log.actives ++ [(active, active)]⟩ (asked + 1) where
  asked := by rw [List.map_append, through.asked, List.map_singleton, same, List.range_succ]
  numbered := through.numbered
  quiet := through.quiet.append active

/-- It is known what has come of a node. -/
theorem Through.learn {asked : Nat} (through : Through log asked) {report : Report n}
    (same : report.node.val = log.reports.length) (active : Option Nat) :
    Through ⟨log.asked, log.reports ++ [report], log.actives ++ [(active, active)]⟩ asked where
  asked := through.asked
  numbered := numbered_append.mpr ⟨through.numbered, same⟩
  quiet := through.quiet.append active

theorem Through.rest {asked : Nat} (through : Through log asked) (active : Option Nat) :
    Through ⟨log.asked, log.reports, log.actives ++ [(active, active)]⟩ asked where
  asked := through.asked
  numbered := through.numbered
  quiet := through.quiet.append active

theorem moveOpen_opens (s : State n) (u : OpenId) (pc : OpenPc n) : (s.moveOpen u pc).opens u = pc :=
  Function.update_self ..

theorem OpenStep.fits {action : OpenAction} (taken : OpenStep config s u action after) (fits : (s.opens u).Fits log) :
    (after.opens u).Fits (recordOpen u s (.opening u action) after log) := by
  rw [recordOpen_own]
  cases taken with
  | start idle =>
    rw [idle] at fits
    obtain rfl : log = ⟨[], [], []⟩ := fits
    rw [moveOpen_opens]
    split
    · rename_i none
      exact fun nonempty => absurd none nonempty.ne'
    · have quiet : Quiet ([] : List (Option Nat × Option Nat)) := List.forall_mem_nil _
      exact ⟨rfl, rfl, rfl, quiet.append s.activeIndex⟩
  | @startOpen opened o client within atPc inner =>
    rw [atPc] at fits
    obtain ⟨rfl, through⟩ := fits
    have called : clientAction s (.opening u (.startOpen o)) = some (⟨_, within⟩, .opening o .start) := by
      simp only [clientAction, atPc, dif_pos within]
    rw [moveOpen_opens, called]
    simp only [learned, Option.map_some, Option.toList_some, Option.toList_none, List.append_nil]
    exact ⟨rfl, summary_index, through.ask summary_index _⟩
  | opened atPc done =>
    rw [atPc] at fits
    obtain ⟨rfl, same, through⟩ := fits
    have nothing : learned s u .opened = none := by simp only [learned, atPc, done]
    rw [moveOpen_opens, nothing]
    simp only [clientAction, Option.map_none, Option.toList_none, List.append_nil]
    exact ⟨rfl, same, through.rest _⟩
  | @unopened opened index o err atPc done =>
    rw [atPc] at fits
    obtain ⟨rfl, same, through⟩ := fits
    have failure : learned s u .opened = some ⟨index, .error err⟩ := by simp only [learned, atPc, done]
    have kept : summary (log.reports ++ [⟨index, .error err⟩]) = (summary log.reports).next (.error err) :=
      summary_append
    rw [moveOpen_opens, failure]
    simp only [clientAction, Option.map_none, Option.toList_some, Option.toList_none, List.append_nil]
    refine ⟨kept.symm, ?_⟩
    rw [List.length_append]
    exact through.learn same _
  | @readInitType opened index atPc =>
    rw [atPc] at fits
    obtain ⟨rfl, same, through⟩ := fits
    have report : learned s u .readInitType = some ⟨index, .ok (s.clients index).initType⟩ := by
      simp only [learned, atPc]
    have kept : summary (log.reports ++ [⟨index, .ok (s.clients index).initType⟩]) =
        ((summary log.reports).next (.ok ())).readLeader (s.clients index).initType := summary_append
    rw [moveOpen_opens, report]
    simp only [clientAction, Option.map_none, Option.toList_some, Option.toList_none, List.append_nil]
    refine ⟨kept.symm, ?_⟩
    rw [List.length_append]
    exact through.learn same _
  | choose atPc ended =>
    rw [atPc] at fits
    obtain ⟨rfl, through⟩ := fits
    rw [summary_index] at ended
    have full : log.reports.length = n := le_antisymm through.le ended
    rw [moveOpen_opens]
    simp only [clientAction, learned, Option.map_none, Option.toList_none, List.append_nil]
    rw [full] at through
    unfold choosePc
    rw [summary_choice through.numbered]
    cases found : choice log.reports with
    | some index => exact ⟨full, through.rest _, congrArg (Option.map Fin.val) found⟩
    | none => exact fun nonempty => through.selects_none full nonempty found s.activeIndex
  | setActive atPc =>
    rw [atPc] at fits
    obtain ⟨full, through, chosen⟩ := fits
    change OpenPc.Fits _ ((s.moveOpen u (.returned (.ok ()))).opens u)
    rw [moveOpen_opens]
    simp only [clientAction, learned, Option.map_none, Option.toList_none, List.append_nil]
    exact fun _ => through.selects_leader full chosen s.activeIndex

theorem OpenPc.Fits.of_reach {allowed : State n → Action n → Prop} {initial : State n} (idle : initial.opens u = .idle)
    (reach : OpenReached config u allowed initial s log) : (s.opens u).Fits log := by
  have base : (initial.opens u).Fits ⟨[], [], []⟩ := by
    rw [idle]
    rfl
  refine Reach.invariant reach (motive := fun watched => (watched.1.opens u).Fits watched.2) base ?_
  intro before action after _ fits _ run
  obtain ⟨stepped, recorded⟩ := watch_eq_some run
  rw [recorded]
  rcases (Step.of_run stepped).opener u with ⟨action', rfl, taken⟩ | ⟨same, unrecorded⟩
  · exact taken.fits fits
  · rw [same, unrecorded]
    exact fits

end Runs

/-- An `open` that has returned has called all nodes once in their order; it has
succeeded exactly if one of them is live, and then its last step has made the
last leader active, or else the first live node; if it has failed, then with the
last error, and without a change of the active node. -/
theorem open_selects {config : Config n} (nonempty : 0 < n) {allowed : State n → Action n → Prop} {initial s : State n}
    {u : OpenId} {log : OpenLog n} {outcome : Outcome Unit} (idle : initial.opens u = .idle)
    (reach : OpenReached config u allowed initial s log) (returned : s.opens u = .returned outcome) :
    Selects log outcome := by
  have fits := OpenPc.Fits.of_reach idle reach
  rw [returned] at fits
  exact fits nonempty

section Example

/-- The client of a node is opened, and its init type read. -/
def openedNode (u : OpenId) (index : Fin n) (acceptance : Wire.Block 64) : List (Action n) :=
  .opening u (.startOpen 0) ::
    (((Connection.openActions 0 0).tail.map fun
        | .receive stream _ => .client index (.receive stream acceptance.toList)
        | action => .client index action) ++
      [.opening u .opened, .opening u .readInitType])

/-- An `open` of two nodes that are live, of which the second is the leader. -/
def openedPair : List (Action 2) :=
  [.opening 0 .start] ++ openedNode 0 firstNode Connection.acceptance ++
    openedNode 0 secondNode (Connection.acceptance.set 20 initTypeFlagIsLeader) ++
    [.opening 0 .choose, .opening 0 .setActive]

def OpenPc.succeeded : OpenPc n → Bool
  | .returned (.ok ()) => true
  | _ => false

theorem OpenPc.succeeded_iff {pc : OpenPc n} : pc.succeeded = true ↔ pc = .returned (.ok ()) := by
  constructor
  · intro done
    unfold succeeded at done
    split at done
    · rfl
    · cases done
  · rintro rfl
    rfl

theorem open_selects_secondNode :
    ∃ (log : OpenLog 2) (quiet : List (Option Nat × Option Nat)) (before : Option Nat),
      log.asked = [firstNode, secondNode] ∧ log.actives = quiet ++ [(before, some secondNode.val)] := by
  have executed : (run (watch (step pair) (recordOpen 0)) (State.new 2, ⟨[], [], []⟩) openedPair).any
      (fun watched => (watched.1.opens 0).succeeded && choice watched.2.reports == some secondNode) = true := by decide
  obtain ⟨⟨s, log⟩, reach, found⟩ := Reach.exists_of_run (runAllowed_always ..) executed
  obtain ⟨done, second⟩ := Bool.and_eq_true_iff.mp found
  have opened : OpenReached pair 0 Always (State.new 2) s log := reach
  have selects := open_selects Nat.two_pos rfl opened (OpenPc.succeeded_iff.mp done)
  obtain ⟨quiet, before, index, actives, _, chosen, _⟩ := selects.chosen rfl
  obtain rfl : index = secondNode := Option.some_inj.mp (chosen.symm.trans (beq_iff_eq.mp second))
  exact ⟨log, quiet, before, selects.asked, actives⟩

end Example

end Ruslock.Replset
