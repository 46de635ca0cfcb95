import Resilience.Proofs.Breaker.Trial

/-! Guards that come late. While a breaker is open or half-open it counts the settlements of all
guards but its trial, yet the count is cleared before anything depends on it: two runs that differ
in such a settlement go on alike. -/

namespace Resilience

def Breaker.withoutMetrics (b : Breaker) : Breaker := { b with metrics := {} }

/-- Breakers that differ in their metrics only, and closed ones not in their count of failures. -/
structure Breaker.Alike (b b' : Breaker) : Prop where
  withoutMetrics : b.withoutMetrics = b'.withoutMetrics
  count : b.state = .closed → b.metrics.consecutiveFailures = b'.metrics.consecutiveFailures

namespace Breaker

variable {b b' : Breaker}

lemma eq_of_withoutMetrics {α : Type} (h : b.withoutMetrics = b'.withoutMetrics)
    (f : Breaker → α) (hf : ∀ b : Breaker, f b.withoutMetrics = f b) : f b = f b' := by
  rw [← hf b, h, hf b']

lemma Alike.state (h : Alike b b') : b.state = b'.state :=
  eq_of_withoutMetrics h.withoutMetrics _ fun _ => rfl

lemma Alike.config (h : Alike b b') : b.config = b'.config :=
  eq_of_withoutMetrics h.withoutMetrics _ fun _ => rfl

lemma Alike.generation (h : Alike b b') : b.generation = b'.generation :=
  eq_of_withoutMetrics h.withoutMetrics _ fun _ => rfl

lemma Alike.trialInFlight (h : Alike b b') : b.trialInFlight = b'.trialInFlight :=
  eq_of_withoutMetrics h.withoutMetrics _ fun _ => rfl

lemma Alike.openFor (h : Alike b b') (now : Nat) : b.openFor now = b'.openFor now :=
  eq_of_withoutMetrics h.withoutMetrics (Breaker.openFor · now) fun _ => rfl

lemma Alike.map (h : Alike b b') (f : Breaker → Breaker)
    (hf : ∀ b : Breaker, (f b.withoutMetrics).withoutMetrics = (f b).withoutMetrics)
    (hc : (f b).state = .closed →
      (f b).metrics.consecutiveFailures = (f b').metrics.consecutiveFailures) :
    Alike (f b) (f b') :=
  ⟨eq_of_withoutMetrics h.withoutMetrics (fun b => (f b).withoutMetrics) hf, hc⟩

lemma Alike.enter (h : Alike b b') (now : Nat) :
    (b.enter now).1 = (b'.enter now).1 ∧ Alike (b.enter now).2 (b'.enter now).2 := by
  have hreject (hs : b.state ≠ .closed) : Alike b.reject b'.reject :=
    h.map reject (fun _ => rfl) fun hc => absurd hc hs
  simp only [Breaker.enter, ← h.state, ← h.config, ← h.generation, ← h.trialInFlight, ← h.openFor]
  cases hs : b.state with
  | closed => exact ⟨rfl, h⟩
  | opened =>
    dsimp only
    split
    · exact ⟨rfl, h.map (halfOpen · now) (fun _ => rfl) fun hc => by cases hc⟩
    · exact ⟨rfl, hreject (by simp [hs])⟩
  | halfOpen => exact ⟨rfl, hreject (by simp [hs])⟩

lemma Alike.countFailure (h : Alike b b') (now : Nat) :
    Alike (b.countFailure now) (b'.countFailure now) :=
  h.map (Breaker.countFailure · now) (fun _ => rfl) fun hc => congrArg (· + 1) (h.count hc)

lemma Alike.trip (h : Alike b b') (now : Nat) : Alike (b.trip now) (b'.trip now) :=
  h.map (Breaker.trip · now) (fun _ => rfl) fun hc => by cases hc

lemma Alike.settle (h : Alike b b') (g : Guard) (s : Settlement) (now : Nat) :
    Alike (b.settle g s now) (b'.settle g s now) := by
  have hr : b'.roleOf g = b.roleOf g := by simp only [roleOf, h.generation]
  cases hg : b.roleOf g with
  | trial =>
    cases s with
    | success =>
      -- This is where a breaker closes, and its count is cleared with it.
      simp only [Breaker.settle, hr, hg]
      exact h.map (fun b => (b.countSuccess now).close now) (fun _ => rfl) fun _ => rfl
    | failure =>
      simp only [Breaker.settle, hr, hg]
      exact (h.countFailure now).trip now
    | abandoned =>
      simp only [Breaker.settle, hr, hg]
      exact h.map (giveUpTrial · now) (fun _ => rfl) fun hc => by cases hc
  | normal =>
    cases s with
    | success =>
      simp only [Breaker.settle, hr, hg]
      exact h.map (countSuccess · now) (fun _ => rfl) fun _ => rfl
    | failure =>
      have hf := h.countFailure now
      simp only [Breaker.settle, hr, hg, ← hf.state, ← hf.config]
      by_cases hs : (b.countFailure now).state = .closed
      · simp only [hs, ← hf.count hs]
        split
        · exact hf.trip now
        · exact hf
      · simp only [hs, false_and, if_false]
        exact hf
    | abandoned => simpa only [Breaker.settle, hr, hg] using h

lemma withoutMetrics_settle {g : Guard} (hs : b.state ≠ .closed) (hg : g ≠ b.trial)
    (s : Settlement) (now : Nat) : (b.settle g s now).withoutMetrics = b.withoutMetrics := by
  have hr := roleOf_eq_normal.mpr hg
  cases s with
  | success =>
    simp only [Breaker.settle, hr]
    rfl
  | failure =>
    have hf : (b.countFailure now).state ≠ .closed := hs
    simp only [Breaker.settle, hr, hf, false_and, if_false]
    rfl
  | abandoned => simp only [Breaker.settle, hr]

lemma Alike.reset (h : Alike b b') (now : Nat) : Alike (b.reset now) (b'.reset now) :=
  h.map (Breaker.reset · now) (fun _ => rfl) fun _ => rfl

end Breaker

namespace Traffic

structure Alike (t t' : Traffic) : Prop where
  breaker : Breaker.Alike t.breaker t'.breaker
  tickets : t.tickets = t'.tickets

variable {t t' : Traffic}

lemma Alike.step (h : Alike t t') (e : Event) :
    (t.step e).1 = (t'.step e).1 ∧ Alike (t.step e).2 (t'.step e).2 := by
  obtain ⟨hb, ht⟩ := h
  obtain ⟨now, act⟩ := e
  cases act with
  | enter =>
    obtain ⟨ha, hn⟩ := hb.enter now
    rcases hr : t.breaker.enter now with ⟨r, c⟩
    rcases hr' : t'.breaker.enter now with ⟨r', c'⟩
    rw [hr, hr'] at ha hn
    obtain rfl : r = r' := ha
    cases r with
    | ok g =>
      simp only [Traffic.step, hr, hr', letIn, ht, true_and]
      exact ⟨hn, rfl⟩
    | error f =>
      simp only [Traffic.step, hr, hr', true_and]
      exact ⟨hn, ht⟩
  | settle i s =>
    simp only [Traffic.step, ← ht]
    split
    · refine ⟨rfl, hb.settle _ s now, ?_⟩
      simp only [discharge, ht]
    · exact ⟨rfl, hb, ht⟩
  | reset => exact ⟨rfl, hb.reset now, ht⟩

lemma Alike.run (h : Alike t t') (es : List Event) :
    t.answers es = t'.answers es ∧ Alike (t.run es) (t'.run es) := by
  induction es generalizing t t' with
  | nil => exact ⟨rfl, h⟩
  | cons e es ih =>
    obtain ⟨ha, hn⟩ := h.step e
    obtain ⟨hr, hl⟩ := ih hn
    refine ⟨?_, hl⟩
    simp only [answers, ha, hr]

theorem late_guard_leaves_no_trace (t : Traffic) (hs : t.breaker.state ≠ .closed) {i : Nat}
    {g : Guard} (hi : t.Outstanding i g) (hg : g ≠ ⟨.trial, t.breaker.generation⟩)
    (now now' : Nat) (s s' : Settlement) :
    let u := (t.step ⟨now, .settle i s⟩).2
    let u' := (t.step ⟨now', .settle i s'⟩).2
    (u.breaker.state = t.breaker.state ∧ u.breaker.openedAt = t.breaker.openedAt ∧
      u.breaker.trialInFlight = t.breaker.trialInFlight ∧
      u.breaker.generation = t.breaker.generation) ∧
    ∀ es, u.answers es = u'.answers es ∧
      (u.run es).breaker.withoutMetrics = (u'.run es).breaker.withoutMetrics ∧
      (u.run es).tickets = (u'.run es).tickets := by
  intro u u'
  have he : u = t.discharge i g (t.breaker.settle g s now) := by
    simp only [u, step_settle hi]
  have he' : u' = t.discharge i g (t.breaker.settle g s' now') := by
    simp only [u', step_settle hi]
  have hu : (t.breaker.settle g s now).withoutMetrics = t.breaker.withoutMetrics :=
    Breaker.withoutMetrics_settle hs hg s now
  have hu' : (t.breaker.settle g s' now').withoutMetrics = t.breaker.withoutMetrics :=
    Breaker.withoutMetrics_settle hs hg s' now'
  have hstate : u.breaker.state = t.breaker.state := by
    rw [he]
    exact Breaker.eq_of_withoutMetrics hu _ fun _ => rfl
  refine ⟨⟨hstate, ?_, ?_, ?_⟩, fun es => ?_⟩
  · rw [he]
    exact Breaker.eq_of_withoutMetrics hu _ fun _ => rfl
  · rw [he]
    exact Breaker.eq_of_withoutMetrics hu _ fun _ => rfl
  · rw [he]
    exact Breaker.eq_of_withoutMetrics hu _ fun _ => rfl
  · have ha : Alike u u' := by
      refine ⟨⟨?_, fun hc => absurd (hstate.symm.trans hc) hs⟩, ?_⟩
      · rw [he, he']
        exact hu.trans hu'.symm
      · rw [he, he']
        rfl
    obtain ⟨hr, hl⟩ := ha.run es
    exact ⟨hr, hl.breaker.withoutMetrics, hl.tickets⟩

def straggler : Traffic := (start { config := opensAfter 2 }).run
  [⟨0, .enter⟩, ⟨0, .enter⟩, ⟨0, .enter⟩, ⟨0, .settle 0 .failure⟩, ⟨0, .settle 1 .failure⟩,
    ⟨1000000, .enter⟩]

def recovery : List Event :=
  [⟨1000001, .settle 3 .success⟩, ⟨1000002, .enter⟩, ⟨1000002, .settle 4 .failure⟩,
    ⟨1000003, .enter⟩]

theorem straggler_leaves_no_trace :
    straggler.breaker.state ≠ .closed ∧ straggler.Outstanding 2 ⟨.normal, 0⟩ ∧
    (⟨.normal, 0⟩ : Guard) ≠ ⟨.trial, straggler.breaker.generation⟩ ∧
    (straggler.step ⟨1000000, .settle 2 .failure⟩).2.answers recovery =
      (straggler.step ⟨1000000, .settle 2 .abandoned⟩).2.answers recovery := by
  have hs : straggler.breaker.state ≠ .closed := by decide
  have hi : straggler.Outstanding 2 ⟨.normal, 0⟩ := by decide
  have hg : (⟨.normal, 0⟩ : Guard) ≠ ⟨.trial, straggler.breaker.generation⟩ := by decide
  have h := late_guard_leaves_no_trace straggler hs hi hg 1000000 1000000 .failure .abandoned
  exact ⟨hs, hi, hg, (h.2 recovery).1⟩

end Traffic

end Resilience
