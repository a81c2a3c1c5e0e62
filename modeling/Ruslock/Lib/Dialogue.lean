import Mathlib.Data.List.Basic

/-- A program that asks questions and goes on with the answers to them. -/
inductive Dialogue {Question : Type} (Answer : Question → Type) (α : Type)
  | done (value : α)
  | ask (question : Question) (next : Answer question → Dialogue Answer α)

namespace Dialogue

variable {Question : Type} {Answer : Question → Type} {α β : Type}

def bind : Dialogue Answer α → (α → Dialogue Answer β) → Dialogue Answer β
  | .done value, rest => rest value
  | .ask question next, rest => .ask question fun answer => (next answer).bind rest

instance : Monad (Dialogue Answer) where
  pure := .done
  bind := bind

/-- A single question. -/
def question (question : Question) : Dialogue Answer (Answer question) := .ask question .done

/-- The questions that were asked, each with its answer. -/
abbrev Transcript (Answer : Question → Type) := List (Σ question, Answer question)

/-- Somebody who answers every question, and knows what was said before. -/
abbrev Partner (Answer : Question → Type) := Transcript Answer → (question : Question) → Answer question

/-- What is said in a dialogue with a partner after `past`, and its value. -/
def run (partner : Partner Answer) : Transcript Answer → Dialogue Answer α → Transcript Answer × α
  | _, .done value => ([], value)
  | past, .ask question next =>
    let answer := partner past question
    let rest := run partner (past ++ [⟨question, answer⟩]) (next answer)
    (⟨question, answer⟩ :: rest.1, rest.2)

/-- What can be said in a dialogue, and the value that the program comes to. -/
inductive Talk : Dialogue Answer α → Transcript Answer → α → Prop
  | done {value} : Talk (.done value) [] value
  | ask {question next answer said value} : Talk (next answer) said value →
      Talk (.ask question next) (⟨question, answer⟩ :: said) value

theorem Talk.of_run (partner : Partner Answer) (past : Transcript Answer) (program : Dialogue Answer α) :
    Talk program (run partner past program).1 (run partner past program).2 := by
  induction program generalizing past with
  | done value => exact .done
  | ask question next ih => exact .ask (ih _ _)

/-- A partner that gives allowed answers gives no others. -/
theorem allowed_of_run {allows : (question : Question) → Answer question → Prop} {partner : Partner Answer}
    (allowed : ∀ past question, allows question (partner past question)) (past : Transcript Answer)
    (program : Dialogue Answer α) : ∀ entry ∈ (run partner past program).1, allows entry.1 entry.2 := by
  induction program generalizing past with
  | done value => exact List.forall_mem_nil _
  | ask question next ih => exact List.forall_mem_cons.mpr ⟨allowed past question, ih _ _⟩

@[simp] theorem talk_pure {value value' : α} {said : Transcript Answer} :
    Talk (pure value) said value' ↔ said = [] ∧ value' = value := by
  constructor
  · rintro ⟨⟩
    exact ⟨rfl, rfl⟩
  · rintro ⟨rfl, rfl⟩
    exact .done

@[simp] theorem talk_question {question : Question} {said : Transcript Answer} {answer : Answer question} :
    Talk (Dialogue.question question) said answer ↔ said = [⟨question, answer⟩] := by
  constructor
  · intro talk
    cases talk with
    | ask later =>
      cases later
      rfl
  · rintro rfl
    exact .ask .done

/-- What is said in two programs one after the other. -/
theorem talk_bind {program : Dialogue Answer α} {rest : α → Dialogue Answer β} {said : Transcript Answer} {value : β} :
    Talk (program >>= rest) said value ↔
      ∃ front middle back, said = front ++ back ∧ Talk program front middle ∧ Talk (rest middle) back value := by
  constructor
  · intro whole
    induction program generalizing said with
    | done middle => exact ⟨[], middle, said, rfl, .done, whole⟩
    | ask question next ih =>
      cases whole with
      | ask later =>
        obtain ⟨front, middle, back, rfl, first, second⟩ := ih _ later
        exact ⟨_, middle, back, rfl, .ask first, second⟩
  · rintro ⟨front, middle, back, rfl, first, second⟩
    induction first with
    | done => exact second
    | ask _ ih => exact .ask (ih second)

theorem talk_map {program : Dialogue Answer α} {wrap : α → β} {said : Transcript Answer} {value : β}
    (talk : Talk (wrap <$> program) said value) : ∃ inner, Talk program said inner ∧ value = wrap inner := by
  obtain ⟨front, inner, back, rfl, first, last⟩ := talk_bind.mp talk
  obtain ⟨rfl, rfl⟩ := talk_pure.mp last
  exact ⟨inner, by rwa [List.append_nil], rfl⟩

/-- Calls of an object one after the other, each with what is said in it. -/
inductive Calls {Call Self : Type} (perform : Call → Self → Dialogue Answer Self) (start : Self) :
    List (Call × Transcript Answer) → Self → Prop
  | start : Calls perform start [] start
  | called {past before call said after} : Calls perform start past before → Talk (perform call before) said after →
      Calls perform start (past ++ [(call, said)]) after

/-- The state that a call of a run was made in, and the one it has left behind. -/
theorem Calls.call_at {Call Self : Type} {perform : Call → Self → Dialogue Answer Self} {start self : Self}
    {front back : List (Call × Transcript Answer)} {call : Call} {said : Transcript Answer}
    (run : Calls perform start (front ++ (call, said) :: back) self) :
    ∃ before after, Calls perform start front before ∧ Talk (perform call before) said after := by
  generalize whole : front ++ (call, said) :: back = past at run
  induction run generalizing back with
  | start => exact absurd whole (List.append_ne_nil_of_right_ne_nil front (List.cons_ne_nil _ _))
  | @called past before last lastSaid after run talk ih =>
    rcases List.eq_nil_or_concat back with rfl | ⟨back', entry, rfl⟩
    · obtain ⟨rfl, same⟩ := List.append_inj' whole rfl
      cases same
      exact ⟨before, after, run, talk⟩
    · rw [List.concat_eq_append, ← List.cons_append, ← List.append_assoc] at whole
      exact ih (List.append_inj' whole rfl).1

/-- Calls of an object one after the other, as one program. -/
def session {Call Self : Type} (perform : Call → Self → Dialogue Answer Self) : List Call → Self → Dialogue Answer Self
  | [], self => pure self
  | call :: calls, self => perform call self >>= session perform calls

theorem Calls.prepend {Call Self : Type} {perform : Call → Self → Dialogue Answer Self} {start middle self : Self}
    {call : Call} {said : Transcript Answer} {past : List (Call × Transcript Answer)}
    (first : Talk (perform call start) said middle) (run : Calls perform middle past self) :
    Calls perform start ((call, said) :: past) self := by
  induction run with
  | start => exact .called .start first
  | called _ talk ih => exact .called ih talk

/-- What is said in such a program falls into what is said in its calls. -/
theorem calls_of_session {Call Self : Type} {perform : Call → Self → Dialogue Answer Self} {calls : List Call}
    {start self : Self} {said : Transcript Answer} (talk : Talk (session perform calls start) said self) :
    ∃ past, past.map Prod.fst = calls ∧ past.flatMap Prod.snd = said ∧ Calls perform start past self := by
  induction calls generalizing start said with
  | nil =>
    obtain ⟨rfl, rfl⟩ := talk_pure.mp talk
    exact ⟨[], rfl, rfl, .start⟩
  | cons call calls ih =>
    obtain ⟨front, middle, back, rfl, first, later⟩ := talk_bind.mp talk
    obtain ⟨past, rfl, rfl, run⟩ := ih later
    exact ⟨(call, front) :: past, rfl, rfl, run.prepend first⟩

section Ensures

variable (allows : (question : Question) → Answer question → Prop) (asks : Question → Prop)

/-- As long as only allowed answers are given, a program asks only such
questions and comes to such a value. -/
def Ensures (program : Dialogue Answer α) (post : α → Prop) : Prop :=
  ∀ said value, Talk program said value → (∀ entry ∈ said, allows entry.1 entry.2) →
    (∀ entry ∈ said, asks entry.1) ∧ post value

variable {allows asks} {program : Dialogue Answer α} {post : α → Prop}

theorem ensures_pure {value : α} (holds : post value) : Ensures allows asks (pure value) post := by
  intro said value' talk _
  obtain ⟨rfl, rfl⟩ := talk_pure.mp talk
  exact ⟨List.forall_mem_nil _, holds⟩

theorem ensures_question {question : Question} {post : Answer question → Prop} (asked : asks question)
    (holds : ∀ answer, allows question answer → post answer) :
    Ensures allows asks (Dialogue.question question) post := by
  intro said answer talk allowed
  obtain rfl := talk_question.mp talk
  rw [List.forall_mem_singleton] at allowed ⊢
  exact ⟨asked, holds answer allowed⟩

theorem ensures_bind {rest : α → Dialogue Answer β} {middle : α → Prop} {post : β → Prop}
    (first : Ensures allows asks program middle) (later : ∀ value, middle value → Ensures allows asks (rest value) post) :
    Ensures allows asks (program >>= rest) post := by
  intro said value talk allowed
  obtain ⟨front, value', back, rfl, before, behind⟩ := talk_bind.mp talk
  obtain ⟨allowedFront, allowedBack⟩ := List.forall_mem_append.mp allowed
  obtain ⟨askedFront, holds⟩ := first front value' before allowedFront
  obtain ⟨askedBack, last⟩ := later value' holds back value behind allowedBack
  exact ⟨List.forall_mem_append.mpr ⟨askedFront, askedBack⟩, last⟩

theorem ensures_imp {weaker : α → Prop} (holds : Ensures allows asks program post)
    (weakens : ∀ value, post value → weaker value) : Ensures allows asks program weaker :=
  fun said value talk allowed => (holds said value talk allowed).imp_right (weakens value)

theorem ensures_map {wrap : α → β} {post : β → Prop} (holds : Ensures allows asks program fun value => post (wrap value)) :
    Ensures allows asks (wrap <$> program) post :=
  ensures_bind holds fun _ later => ensures_pure later

end Ensures

end Dialogue
