import Resilience.Proofs.Breaker.Transitions

/-! Guards from before a reset. They count as ordinary calls: a success breaks the row of failures
of the new generation and a failure makes it longer, so that such a failure can open the breaker
like any other, but no such guard does more than that. -/

namespace Resilience

lemma Breaker.state_settle {b : Breaker} {g : Guard} (hg : g ≠ b.trial) (s : Settlement)
    (now : Nat) : (b.settle g s now).state =
      if b.state = .closed ∧ s = .failure ∧
        b.config.failureThreshold.toNat ≤ b.metrics.consecutiveFailures + 1
      then .opened else b.state := by
  have hr := roleOf_eq_normal.mpr hg
  cases s with
  | success => simp [settle, hr, countSuccess]
  | failure =>
    by_cases h : b.state = .closed ∧
        b.config.failureThreshold.toNat ≤ b.metrics.consecutiveFailures + 1
    · simp [settle, hr, countFailure, trip, h]
    · simp [settle, hr, countFailure, h]
  | abandoned => simp [settle, hr]

namespace Traffic

variable {t t' : Traffic} {now : Nat} {act : Act} {answer : Answer}

lemma Effect.generation_le (he : Effect t now act answer t') :
    t.breaker.generation ≤ t'.breaker.generation := by
  cases he with
  | reset => exact Nat.le_succ _
  | _ => exact Nat.le_refl _

lemma generation_le_run (t : Traffic) (es : List Event) :
    t.breaker.generation ≤ (t.run es).breaker.generation := by
  induction es generalizing t with
  | nil => exact Nat.le_refl _
  | cons e es ih => exact Nat.le_trans (step_effect t e).generation_le (ih _)

lemma Effect.outstanding (he : Effect t now act answer t') {i : Nat} {g : Guard}
    (hi : i < t.tickets.length) (ho : t'.Outstanding i g) : t.Outstanding i g := by
  cases he with
  | pass _ | probe _ _ _ =>
    rcases outstanding_letIn.mp ho with ho | ⟨hl, _⟩
    · exact ho
    · exact absurd hi (by omega)
  | refuse _ _ | busy _ | ignore _ _ _ | reset => exact ho
  | _ => exact (outstanding_discharge.mp ho).2

lemma Effect.length_le (he : Effect t now act answer t') :
    t.tickets.length ≤ t'.tickets.length := by
  cases he <;> simp [letIn, discharge]

lemma Outstanding.of_run {i : Nat} {g : Guard} (hi : i < t.tickets.length) (es : List Event)
    (ho : (t.run es).Outstanding i g) : t.Outstanding i g := by
  induction es generalizing t with
  | nil => exact ho
  | cons e es ih =>
    have he := step_effect t e
    exact he.outstanding hi (ih (Nat.lt_of_lt_of_le hi he.length_le) ho)

lemma generation_lt_of_reset (h : Trials t) {i : Nat} {g : Guard} (hi : i < t.tickets.length)
    (es : List Event) (ho : (t.run (⟨now, .reset⟩ :: es)).Outstanding i g) :
    g.generation < (t.run (⟨now, .reset⟩ :: es)).breaker.generation := by
  have hg : g.generation ≤ t.breaker.generation := h.past i g (ho.of_run hi)
  have hr : t.breaker.generation + 1 ≤ (t.run (⟨now, .reset⟩ :: es)).breaker.generation :=
    generation_le_run { t with breaker := t.breaker.reset now } es
  omega

theorem old_guard_changes_state_iff {c : BreakerConfig} {b : Breaker}
    (hb : Breaker.ofConfig c = .ok b) (es es' : List Event) (now now' : Nat) {i : Nat} {g : Guard}
    (hi : i < ((start b).run es).tickets.length)
    (ho : ((start b).run (es ++ ⟨now, .reset⟩ :: es')).Outstanding i g) (s : Settlement) :
    let past := es ++ ⟨now, .reset⟩ :: es'
    let t := (start b).run past
    let t' := (t.step ⟨now', .settle i s⟩).2
    (t'.breaker.state ≠ t.breaker.state ↔ t.breaker.state = .closed ∧ s = .failure ∧
      row ((start b).answers past) + 1 = c.failureThreshold.toNat) ∧
    (t'.breaker.state ≠ t.breaker.state → t'.breaker.state = .opened) := by
  intro past t t'
  have hs : t.breaker.WellFormed := wellFormed_start_run hb past
  have hc : t.breaker.config = c := config_start_run hb past
  have hp : t.breaker.metrics.consecutiveFailures = row ((start b).answers past) :=
    consecutiveFailures_eq_row hb past
  have ht : t = ((start b).run es).run (⟨now, .reset⟩ :: es') := run_append _ _ _
  have hlt : g.generation < t.breaker.generation := by
    have ho' : (((start b).run es).run (⟨now, .reset⟩ :: es')).Outstanding i g := ht ▸ ho
    exact ht ▸ generation_lt_of_reset (trials_start_run hb es) hi es' ho'
  have hg : g ≠ t.breaker.trial := by
    rintro rfl
    exact Nat.lt_irrefl _ hlt
  have hst : t'.breaker.state = (t.breaker.settle g s now').state :=
    congrArg (fun r => r.2.breaker.state) (step_settle ho s now')
  rw [hst, Breaker.state_settle hg, hc, hp]
  have hbelow := hs.below
  rw [hc, hp] at hbelow
  split
  · rename_i h
    obtain ⟨hcl, hf, hle⟩ := h
    have := hbelow hcl
    exact ⟨⟨fun _ => ⟨hcl, hf, by omega⟩, fun _ => by simp [hcl]⟩, fun _ => rfl⟩
  · rename_i h
    refine ⟨⟨fun hn => absurd rfl hn, ?_⟩, fun hn => absurd rfl hn⟩
    rintro ⟨hcl, hf, he⟩
    exact absurd ⟨hcl, hf, by omega⟩ h

def afterTrial : List Event :=
  [⟨0, .enter⟩, ⟨0, .settle 0 .failure⟩, ⟨0, .enter⟩, ⟨0, .settle 1 .failure⟩, ⟨1000000, .enter⟩]

def oneFailure : List Event := [⟨1000000, .enter⟩, ⟨1000000, .settle 3 .failure⟩]

theorem old_trial_opens_with_one_failure :
    Breaker.ofConfig (opensAfter 2) = .ok { config := opensAfter 2 } ∧
    2 < ((start { config := opensAfter 2 }).run afterTrial).tickets.length ∧
    ((start { config := opensAfter 2 }).run
      (afterTrial ++ ⟨1000000, .reset⟩ :: oneFailure)).Outstanding 2 ⟨.trial, 0⟩ ∧
    (((start { config := opensAfter 2 }).run (afterTrial ++ ⟨1000000, .reset⟩ :: oneFailure)).step
      ⟨1000000, .settle 2 .failure⟩).2.breaker.state = .opened := by
  have hb : Breaker.ofConfig (opensAfter 2) = .ok { config := opensAfter 2 } := rfl
  have hi : 2 < ((start { config := opensAfter 2 }).run afterTrial).tickets.length := by decide
  have ho : ((start { config := opensAfter 2 }).run
      (afterTrial ++ ⟨1000000, .reset⟩ :: oneFailure)).Outstanding 2 ⟨.trial, 0⟩ := by decide
  have h := old_guard_changes_state_iff hb afterTrial oneFailure 1000000 1000000 hi ho .failure
  exact ⟨hb, hi, ho, h.2 (h.1.mpr ⟨by decide, rfl, by decide⟩)⟩

theorem old_guards_not_inert :
    ¬ ∀ (c : BreakerConfig) (b : Breaker) (es es' : List Event) (now now' i : Nat) (g : Guard)
      (s : Settlement), Breaker.ofConfig c = .ok b → i < ((start b).run es).tickets.length →
      ((start b).run (es ++ ⟨now, .reset⟩ :: es')).Outstanding i g →
      (((start b).run (es ++ ⟨now, .reset⟩ :: es')).step ⟨now', .settle i s⟩).2.breaker.state =
        ((start b).run (es ++ ⟨now, .reset⟩ :: es')).breaker.state := by
  intro h
  have hopen := h (opensAfter 1) { config := opensAfter 1 } [⟨0, .enter⟩] [] 0 0 0 ⟨.normal, 0⟩
    .failure rfl (by decide) (by decide)
  exact absurd hopen (by decide)

end Traffic

end Resilience
