import Mathlib.Data.List.Count
import Resilience.Proofs.Breaker.Transitions

namespace Resilience

namespace Traffic

/-- An event with its answer, and whether the state was another one afterwards. -/
structure Entry where
  event : Event
  answer : Answer
  changed : Bool
deriving DecidableEq

def entry (t : Traffic) (e : Event) : Entry where
  event := e
  answer := (t.step e).1
  changed := decide ((t.step e).2.breaker.state ≠ t.breaker.state)

def history (t : Traffic) : List Event → List Entry
  | [] => []
  | e :: es => t.entry e :: (t.step e).2.history es

def Answer.isAdmitted : Answer → Bool
  | .admitted _ => true
  | _ => false

def Answer.isRejected : Answer → Bool
  | .rejected _ => true
  | _ => false

def Answer.isSettled (s : Settlement) : Answer → Bool
  | .settled _ s' => s' = s
  | _ => false

def Entry.settles (e : Entry) (i : Nat) : Bool :=
  match e.event.act, e.answer with
  | .settle j _, .settled .. => j = i
  | _, _ => false

def sinceReset (past : List Entry) : List Entry :=
  (past.reverse.takeWhile fun e => e.answer ≠ .reset).reverse

def count (p : Answer → Bool) (past : List Entry) : Nat := past.countP fun e => p e.answer

def lastTime (p : Entry → Bool) (past : List Entry) : Option Nat :=
  ((past.filter p).getLast?).map (·.event.now)

lemma sinceReset_append (past : List Entry) (e : Entry) :
    sinceReset (past ++ [e]) = if e.answer = .reset then [] else sinceReset past ++ [e] := by
  by_cases h : e.answer = .reset <;> simp [sinceReset, h]

lemma count_append (p : Answer → Bool) (past : List Entry) (e : Entry) :
    count p (past ++ [e]) = count p past + if p e.answer then 1 else 0 := by
  simp [count, List.countP_append, List.countP_singleton]

lemma lastTime_append (p : Entry → Bool) (past : List Entry) (e : Entry) :
    lastTime p (past ++ [e]) = if p e then some e.event.now else lastTime p past := by
  by_cases h : p e <;> simp [lastTime, List.filter_append, h]

lemma count_sinceReset_append (p : Answer → Bool) (past : List Entry) (e : Entry) :
    count p (sinceReset (past ++ [e])) =
      if e.answer = .reset then 0 else count p (sinceReset past) + if p e.answer then 1 else 0 := by
  rw [sinceReset_append]
  split
  · rfl
  · exact count_append ..

lemma lastTime_sinceReset_append (p : Entry → Bool) (past : List Entry) (e : Entry) :
    lastTime p (sinceReset (past ++ [e])) = if e.answer = .reset then none
      else if p e then some e.event.now else lastTime p (sinceReset past) := by
  rw [sinceReset_append]
  split
  · rfl
  · exact lastTime_append ..

structure Reconciled (past : List Entry) (m : Metrics) : Prop where
  rejected : m.rejected = count Answer.isRejected (sinceReset past)
  successes : m.successes = count (Answer.isSettled .success) (sinceReset past)
  failures : m.failures = count (Answer.isSettled .failure) (sinceReset past)
  requests : m.requests = m.successes + m.failures
  consecutiveFailures : m.consecutiveFailures = row (past.map (·.answer))
  lastSuccess : m.lastSuccess = lastTime (·.answer.isSettled .success) (sinceReset past)
  lastFailure : m.lastFailure = lastTime (·.answer.isSettled .failure) (sinceReset past)
  lastChange : m.lastChange = lastTime (fun e => e.changed || e.answer = .reset) past

structure Accounted (past : List Entry) (tickets : List Ticket) : Prop where
  once : ∀ i ticket, tickets[i]? = some ticket →
    past.countP (·.settles i) = if ticket.settled then 1 else 0
  unknown : ∀ i, tickets.length ≤ i → past.countP (·.settles i) = 0
  admitted : count Answer.isAdmitted past = tickets.length
  balance : count Answer.isAdmitted past = count (Answer.isSettled .success) past +
    count (Answer.isSettled .failure) past + count (Answer.isSettled .abandoned) past +
    tickets.countP fun ticket => !ticket.settled

variable {t t' : Traffic} {past : List Entry} {e : Event} {now : Nat} {act : Act} {answer : Answer}

section

variable (he : Effect t now act answer t')

include he

lemma Effect.rejected : t'.breaker.metrics.rejected =
    if answer = .reset then 0 else t.breaker.metrics.rejected + if answer.isRejected then 1 else 0 := by
  cases he <;> rfl

lemma Effect.successes : t'.breaker.metrics.successes = if answer = .reset then 0
    else t.breaker.metrics.successes + if answer.isSettled .success then 1 else 0 := by
  cases he <;> rfl

lemma Effect.failures : t'.breaker.metrics.failures = if answer = .reset then 0
    else t.breaker.metrics.failures + if answer.isSettled .failure then 1 else 0 := by
  cases he <;> rfl

lemma Effect.requests (h : t.breaker.metrics.requests =
      t.breaker.metrics.successes + t.breaker.metrics.failures) :
    t'.breaker.metrics.requests = t'.breaker.metrics.successes + t'.breaker.metrics.failures := by
  cases he with
  | pass | probe | refuse | busy | giveUp | abandon | ignore => exact h
  | recover | succeed => exact (congrArg (· + 1) h).trans (Nat.add_right_comm ..)
  | relapse | trip | fail => exact congrArg (· + 1) h
  | reset => rfl

lemma Effect.lastSuccess : t'.breaker.metrics.lastSuccess = if answer = .reset then none
    else if answer.isSettled .success then some now else t.breaker.metrics.lastSuccess := by
  cases he <;> rfl

lemma Effect.lastFailure : t'.breaker.metrics.lastFailure = if answer = .reset then none
    else if answer.isSettled .failure then some now else t.breaker.metrics.lastFailure := by
  cases he <;> rfl

lemma Effect.lastChange (h : Trials t) : t'.breaker.metrics.lastChange =
    if t'.breaker.state ≠ t.breaker.state ∨ answer = .reset then some now
    else t.breaker.metrics.lastChange := by
  cases he with
  | pass | refuse | busy | succeed | fail | abandon | ignore =>
    exact (if_neg (not_or.mpr ⟨not_not.mpr rfl, nofun⟩)).symm
  | reset => exact (if_pos (.inr rfl)).symm
  | probe hs => exact (if_pos (.inl (by simp [letIn, Breaker.halfOpen, hs]))).symm
  | recover i hi =>
    have hs := h.halfOpen i hi
    exact (if_pos (.inl (by simp [discharge, Breaker.close, hs]))).symm
  | relapse i hi =>
    have hs := h.halfOpen i hi
    exact (if_pos (.inl (by simp [discharge, Breaker.trip, hs]))).symm
  | giveUp i hi =>
    have hs := h.halfOpen i hi
    exact (if_pos (.inl (by simp [discharge, Breaker.giveUpTrial, hs]))).symm
  | trip i g hi hg hs => exact (if_pos (.inl (by simp [discharge, Breaker.trip, hs]))).symm

lemma Effect.tickets :
    (∃ g, answer = .admitted g ∧ t'.tickets = t.tickets ++ [⟨g, false⟩]) ∨
    (∃ i g s, act = .settle i s ∧ answer = .settled g s ∧ t.Outstanding i g ∧
      t'.tickets = t.tickets.set i ⟨g, true⟩) ∨
    (answer.isAdmitted = false ∧ (∀ s, answer.isSettled s = false) ∧ t'.tickets = t.tickets) := by
  cases he with
  | pass | probe => exact .inl ⟨_, rfl, rfl⟩
  | recover i hi | relapse i hi | giveUp i hi => exact .inr (.inl ⟨i, _, _, rfl, rfl, hi, rfl⟩)
  | succeed i g hi | trip i g hi | fail i g hi | abandon i g hi =>
    exact .inr (.inl ⟨i, g, _, rfl, rfl, hi, rfl⟩)
  | refuse | busy | ignore | reset => exact .inr (.inr ⟨rfl, fun _ => rfl, rfl⟩)

end

lemma Entry.settles_eq_false (h : ∀ s, answer.isSettled s = false) (i : Nat) (changed : Bool) :
    Entry.settles ⟨⟨now, act⟩, answer, changed⟩ i = false := by
  cases answer with
  | settled g s => simpa [Answer.isSettled] using h s
  | _ => cases act <;> rfl

lemma countP_settles_append (past : List Entry) (e : Entry) (i : Nat) :
    (past ++ [e]).countP (·.settles i) = past.countP (·.settles i) + if e.settles i then 1 else 0 := by
  simp [List.countP_append, List.countP_singleton]

lemma reconciled_start {c : BreakerConfig} : Reconciled [] (start { config := c }).breaker.metrics :=
  ⟨rfl, rfl, rfl, rfl, rfl, rfl, rfl, rfl⟩

lemma accounted_start (b : Breaker) : Accounted [] (start b).tickets :=
  ⟨nofun, fun _ _ => rfl, rfl, rfl⟩

lemma Reconciled.step (hr : Reconciled past t.breaker.metrics) (ht : Trials t) (e : Event) :
    Reconciled (past ++ [t.entry e]) (t.step e).2.breaker.metrics := by
  have he := step_effect t e
  have hlast := he.lastChange ht
  refine ⟨?_, ?_, ?_, he.requests hr.requests, ?_, ?_, ?_, ?_⟩
  · rw [count_sinceReset_append, ← hr.rejected]
    exact he.rejected
  · rw [count_sinceReset_append, ← hr.successes]
    exact he.successes
  · rw [count_sinceReset_append, ← hr.failures]
    exact he.failures
  · rw [List.map_append, List.map_singleton, row_append, ← hr.consecutiveFailures]
    exact he.consecutiveFailures
  · rw [lastTime_sinceReset_append, ← hr.lastSuccess]
    exact he.lastSuccess
  · rw [lastTime_sinceReset_append, ← hr.lastFailure]
    exact he.lastFailure
  · rw [lastTime_append, ← hr.lastChange, hlast]
    exact if_congr (by simp [entry]) rfl rfl

lemma Accounted.letIn {g : Guard} {e : Entry} (ha : Accounted past t.tickets)
    (hg : e.answer = .admitted g) : Accounted (past ++ [e]) (t.tickets ++ [⟨g, false⟩]) := by
  have hs (i : Nat) : e.settles i = false := by
    simp only [Entry.settles, hg]
    split <;> simp_all
  refine ⟨?_, ?_, ?_, ?_⟩
  · intro i ticket hi
    rw [countP_settles_append, hs]
    rw [List.getElem?_append] at hi
    split at hi
    · exact ha.once i ticket hi
    · rename_i hlen
      obtain ⟨-, rfl⟩ : i = t.tickets.length ∧ ticket = ⟨g, false⟩ := by
        rw [List.getElem?_singleton] at hi
        split at hi
        · exact ⟨by omega, (Option.some.inj hi).symm⟩
        · cases hi
      rw [ha.unknown i (by omega)]
      rfl
  · intro i hi
    rw [List.length_append] at hi
    rw [countP_settles_append, hs, ha.unknown i (by omega)]
    rfl
  · simp [count_append, hg, Answer.isAdmitted, ha.admitted]
  · have hb := ha.balance
    simp only [count_append, hg, Answer.isAdmitted, Answer.isSettled, List.countP_append,
      List.countP_singleton]
    simp
    omega

lemma Accounted.discharge {i : Nat} {g : Guard} {s : Settlement} {e : Entry}
    (ha : Accounted past t.tickets) (hi : t.Outstanding i g) (hact : e.event.act = .settle i s)
    (hanswer : e.answer = .settled g s) : Accounted (past ++ [e]) (t.tickets.set i ⟨g, true⟩) := by
  obtain ⟨hlt, hget⟩ := List.getElem?_eq_some_iff.mp hi
  have hs (j : Nat) : e.settles j = decide (i = j) := by simp only [Entry.settles, hact, hanswer]
  refine ⟨?_, ?_, ?_, ?_⟩
  · intro j ticket hj
    rw [countP_settles_append, hs]
    rw [List.getElem?_set] at hj
    split at hj
    · rename_i hij
      subst hij
      obtain rfl := Option.some.inj hj
      simp [ha.once i _ hi]
    · rename_i hne
      rw [ha.once j ticket hj]
      simp [hne]
  · intro j hj
    rw [List.length_set] at hj
    rw [countP_settles_append, hs, ha.unknown j hj]
    simp
    omega
  · simp [count_append, hanswer, Answer.isAdmitted, ha.admitted]
  · have hb := ha.balance
    have hpos : 0 < t.tickets.countP fun ticket => !ticket.settled :=
      List.countP_pos_iff.mpr ⟨_, List.mem_of_getElem? hi, rfl⟩
    rw [List.countP_set hlt, hget]
    simp only [count_append, hanswer, Answer.isAdmitted, Answer.isSettled]
    cases s <;> simp <;> omega

lemma Accounted.step (ha : Accounted past t.tickets) (e : Event) :
    Accounted (past ++ [t.entry e]) (t.step e).2.tickets := by
  rcases (step_effect t e).tickets with
    ⟨g, hg, ht⟩ | ⟨i, g, s, hact, hanswer, hi, ht⟩ | ⟨hno, hs, ht⟩ <;> rw [ht]
  · exact ha.letIn hg
  · exact ha.discharge hi hact hanswer
  · have hn (i : Nat) : (t.entry e).settles i = false := Entry.settles_eq_false hs ..
    refine ⟨?_, ?_, ?_, ?_⟩
    · intro i ticket hi
      rw [countP_settles_append, hn]
      exact ha.once i ticket hi
    · intro i hi
      rw [countP_settles_append, hn]
      exact ha.unknown i hi
    · rw [count_append, show (t.entry e).answer.isAdmitted = false from hno]
      exact ha.admitted
    · simp only [count_append, show (t.entry e).answer.isAdmitted = false from hno,
        show ∀ s, (t.entry e).answer.isSettled s = false from hs]
      exact ha.balance

lemma Reconciled.run (hr : Reconciled past t.breaker.metrics) (ht : Trials t) (es : List Event) :
    Reconciled (past ++ t.history es) (t.run es).breaker.metrics := by
  induction es generalizing t past with
  | nil => simpa [history, Traffic.run] using hr
  | cons e es ih =>
    have := ih (hr.step ht e) ((step_effect t e).trials ht)
    rwa [List.append_assoc] at this

lemma Accounted.run (ha : Accounted past t.tickets) (es : List Event) :
    Accounted (past ++ t.history es) (t.run es).tickets := by
  induction es generalizing t past with
  | nil => simpa [history, Traffic.run] using ha
  | cons e es ih =>
    have := ih (ha.step e)
    rwa [List.append_assoc] at this

theorem history_explains_metrics {c : BreakerConfig} {b : Breaker}
    (hb : Breaker.ofConfig c = .ok b) (es : List Event) :
    Reconciled ((start b).history es) ((start b).run es).breaker.metrics ∧
      Accounted ((start b).history es) ((start b).run es).tickets := by
  refine ⟨?_, (accounted_start b).run es⟩
  obtain ⟨_, rfl⟩ := Breaker.ofConfig_eq_ok hb
  exact reconciled_start.run (Trials.start (by simp)) es

/-- A guard of the first generation fails in the second one. -/
def acrossReset : List Event :=
  [⟨0, .enter⟩, ⟨0, .enter⟩, ⟨1, .settle 0 .failure⟩, ⟨2, .enter⟩, ⟨1000001, .enter⟩,
    ⟨1000002, .reset⟩, ⟨1000003, .enter⟩, ⟨1000004, .settle 3 .success⟩,
    ⟨1000005, .settle 2 .failure⟩, ⟨1000006, .enter⟩, ⟨1000006, .settle 2 .success⟩]

theorem acrossReset_explains_metrics :
    Breaker.ofConfig (opensAfter 1) = .ok { config := opensAfter 1 } ∧
    ((start { config := opensAfter 1 }).run acrossReset).breaker.metrics.failures = 1 ∧
    ((start { config := opensAfter 1 }).run acrossReset).breaker.metrics.lastChange =
      some 1000005 ∧
    count Answer.isAdmitted ((start { config := opensAfter 1 }).history acrossReset) = 4 := by
  have hb : Breaker.ofConfig (opensAfter 1) = .ok { config := opensAfter 1 } := rfl
  obtain ⟨hm, ht⟩ := history_explains_metrics hb acrossReset
  exact ⟨hb, hm.failures.trans (by decide), hm.lastChange.trans (by decide), ht.admitted.trans rfl⟩

end Traffic

end Resilience
