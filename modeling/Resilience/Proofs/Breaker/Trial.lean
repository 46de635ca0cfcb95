import Mathlib.Logic.ExistsUnique
import Resilience.Proofs.Breaker.Traffic

namespace Resilience

lemma BreakerConfig.pos_of_validate {c : BreakerConfig} (h : c.validate = .ok ()) :
    0 < c.failureThreshold.toNat ∧ 0 < c.openDuration.nanos := by
  simp only [validate, Duration.isZero, beq_iff_eq] at h
  split at h
  · contradiction
  rename_i ht
  refine ⟨Nat.pos_of_ne_zero fun hz => ht ?_, Nat.pos_of_ne_zero fun hz => ?_⟩
  · exact UInt32.toNat_inj.mp hz
  · simp [hz, throw, throwThe, MonadExceptOf.throw] at h

lemma Breaker.ofConfig_eq_ok {c : BreakerConfig} {b : Breaker} (h : ofConfig c = .ok b) :
    c.validate = .ok () ∧ b = { config := c } := by
  cases hv : c.validate with
  | error f => simp [ofConfig, hv, bind, Except.bind] at h
  | ok u =>
    simp only [ofConfig, hv, bind, Except.bind, pure, Except.pure, Except.ok.injEq] at h
    exact ⟨rfl, h.symm⟩

structure Breaker.WellFormed (b : Breaker) : Prop where
  inFlight : b.trialInFlight = true ↔ b.state = .halfOpen
  openedAt : b.openedAt = none ↔ b.state = .closed
  positive : 0 < b.config.failureThreshold.toNat
  below : b.state = .closed → b.metrics.consecutiveFailures < b.config.failureThreshold.toNat

namespace Traffic

variable {t t' : Traffic} {now : Nat} {act : Act} {answer : Answer}

structure Trials (t : Traffic) : Prop where
  holder : t.breaker.state = .halfOpen → ∃ i, t.Outstanding i t.breaker.trial
  halfOpen : ∀ i, t.Outstanding i t.breaker.trial → t.breaker.state = .halfOpen
  unique : ∀ i j k, t.Outstanding i ⟨.trial, k⟩ → t.Outstanding j ⟨.trial, k⟩ → i = j
  past : ∀ i g, t.Outstanding i g → g.generation ≤ t.breaker.generation

lemma Trials.not_outstanding (h : Trials t) (hs : t.breaker.state ≠ .halfOpen) (i : Nat) :
    ¬ t.Outstanding i t.breaker.trial := by
  intro hi
  exact hs (h.halfOpen i hi)

lemma not_outstanding_start (b : Breaker) (i : Nat) (g : Guard) : ¬ (start b).Outstanding i g := by
  simp [start, Outstanding]

lemma Trials.start {b : Breaker} (h : b.state ≠ .halfOpen) : Trials (start b) where
  holder hs := absurd hs h
  halfOpen i hi := absurd hi (not_outstanding_start b i _)
  unique i _ _ hi _ := absurd hi (not_outstanding_start b i _)
  past i _ hi := absurd hi (not_outstanding_start b i _)

lemma Trials.letIn_normal (h : Trials t) :
    Trials (t.letIn ⟨.normal, t.breaker.generation⟩ t.breaker) where
  holder hs := by
    obtain ⟨i, hi⟩ := h.holder hs
    exact ⟨i, outstanding_letIn.mpr (.inl hi)⟩
  halfOpen i hi := by
    rcases outstanding_letIn.mp hi with hi | ⟨_, hg⟩
    · exact h.halfOpen i hi
    · cases hg
  unique i j k hi hj := by
    rcases outstanding_letIn.mp hi with hi | ⟨_, hg⟩
    · rcases outstanding_letIn.mp hj with hj | ⟨_, hg⟩
      · exact h.unique i j k hi hj
      · cases hg
    · cases hg
  past i g hi := by
    rcases outstanding_letIn.mp hi with hi | ⟨_, rfl⟩
    · exact h.past i g hi
    · exact Nat.le_refl _

lemma Trials.letIn_trial (h : Trials t) (hs : t.breaker.state = .opened) (now : Nat) :
    Trials (t.letIn t.breaker.trial (t.breaker.halfOpen now)) := by
  have hn := h.not_outstanding (by simp [hs])
  refine ⟨?_, ?_, ?_, ?_⟩
  · intro _
    exact ⟨t.tickets.length, outstanding_letIn.mpr (.inr ⟨rfl, rfl⟩)⟩
  · intro _ _
    rfl
  · intro i j k hi hj
    rcases outstanding_letIn.mp hi with hi | ⟨hi, hk⟩
    · rcases outstanding_letIn.mp hj with hj | ⟨_, hk⟩
      · exact h.unique i j k hi hj
      · exact absurd (hk ▸ hi) (hn i)
    · rcases outstanding_letIn.mp hj with hj | ⟨hj, _⟩
      · exact absurd (hk ▸ hj) (hn j)
      · rw [hi, hj]
  · intro i g hi
    rcases outstanding_letIn.mp hi with hi | ⟨_, rfl⟩
    · exact h.past i g hi
    · exact Nat.le_refl _

lemma Trials.discharge {i : Nat} {g : Guard} {b : Breaker} (h : Trials t) (hi : t.Outstanding i g)
    (hg : b.generation = t.breaker.generation)
    (hs : b.state = .halfOpen ↔ t.breaker.state = .halfOpen ∧ g ≠ t.breaker.trial) :
    Trials (t.discharge i g b) := by
  have ht : b.trial = t.breaker.trial := congrArg (Guard.mk .trial) hg
  refine ⟨?_, ?_, ?_, ?_⟩
  · intro hb
    obtain ⟨ho, hne⟩ := hs.mp hb
    obtain ⟨j, hj⟩ := h.holder ho
    refine ⟨j, outstanding_discharge.mpr ⟨?_, ht ▸ hj⟩⟩
    rintro rfl
    exact hne (hi.eq hj)
  · intro j hj
    obtain ⟨hne, hk⟩ := outstanding_discharge.mp hj
    rw [show (t.discharge i g b).breaker.trial = t.breaker.trial from ht] at hk
    refine hs.mpr ⟨h.halfOpen j hk, ?_⟩
    rintro rfl
    exact hne (h.unique j i _ hk hi)
  · intro j k m hj hk
    exact h.unique j k m (outstanding_discharge.mp hj).2 (outstanding_discharge.mp hk).2
  · intro j k hj
    exact hg ▸ h.past j k (outstanding_discharge.mp hj).2

lemma Trials.reset (h : Trials t) (now : Nat) :
    Trials { t with breaker := t.breaker.reset now } where
  holder hs := by cases hs
  halfOpen i hi := absurd (h.past i _ hi) (Nat.not_succ_le_self _)
  unique := h.unique
  past i g hi := Nat.le_succ_of_le (h.past i g hi)

lemma Effect.trials (he : Effect t now act answer t') (h : Trials t) : Trials t' := by
  cases he with
  | pass hs => exact h.letIn_normal
  | probe hs hd hf => exact h.letIn_trial hs now
  | refuse hs hd => exact ⟨h.holder, h.halfOpen, h.unique, h.past⟩
  | busy hs => exact ⟨h.holder, h.halfOpen, h.unique, h.past⟩
  | recover i hi => exact h.discharge hi rfl (by simp [Breaker.close])
  | relapse i hi => exact h.discharge hi rfl (by simp [Breaker.trip])
  | giveUp i hi => exact h.discharge hi rfl (by simp [Breaker.giveUpTrial])
  | succeed i g hi hg => exact h.discharge hi rfl (by simp [Breaker.countSuccess, hg])
  | trip i g hi hg hs ht => exact h.discharge hi rfl (by simp [Breaker.trip, hs])
  | fail i g hi hg hn => exact h.discharge hi rfl (by simp [Breaker.countFailure, hg])
  | abandon i g hi hg => exact h.discharge hi rfl (by simp [hg])
  | ignore i s hi => exact h
  | reset => exact h.reset now

lemma Effect.wellFormed (he : Effect t now act answer t') (h : Trials t)
    (hb : t.breaker.WellFormed) : t'.breaker.WellFormed := by
  obtain ⟨hf, ho, hp, hc⟩ := hb
  cases he with
  | pass hs => exact ⟨hf, ho, hp, hc⟩
  | probe hs hd hi =>
    refine ⟨by simp [letIn, Breaker.halfOpen], ?_, hp, by simp [letIn, Breaker.halfOpen]⟩
    simpa [letIn, Breaker.halfOpen, hs] using ho
  | refuse hs hd => exact ⟨hf, ho, hp, hc⟩
  | busy hs => exact ⟨hf, ho, hp, hc⟩
  | recover i hi =>
    exact ⟨by simp [discharge, Breaker.close], by simp [discharge, Breaker.close], hp, fun _ => hp⟩
  | relapse i hi =>
    exact ⟨by simp [discharge, Breaker.trip], by simp [discharge, Breaker.trip], hp,
      by simp [discharge, Breaker.trip]⟩
  | giveUp i hi =>
    -- The opening instant is kept, and it is there because the breaker was half-open.
    have hs := h.halfOpen i hi
    refine ⟨by simp [discharge, Breaker.giveUpTrial], ?_, hp, by simp [discharge, Breaker.giveUpTrial]⟩
    simpa [discharge, Breaker.giveUpTrial, hs] using ho
  | succeed i g hi hg => exact ⟨hf, ho, hp, fun _ => hp⟩
  | trip i g hi hg hs ht =>
    exact ⟨by simp [discharge, Breaker.trip], by simp [discharge, Breaker.trip], hp,
      by simp [discharge, Breaker.trip]⟩
  | fail i g hi hg hn =>
    refine ⟨hf, ho, hp, fun hs => ?_⟩
    exact Nat.lt_of_not_le fun hle => hn ⟨hs, hle⟩
  | abandon i g hi hg => exact ⟨hf, ho, hp, hc⟩
  | ignore i s hi => exact ⟨hf, ho, hp, hc⟩
  | reset => exact ⟨by simp [Breaker.reset], by simp [Breaker.reset], hp, fun _ => hp⟩

lemma Trials.run (h : Trials t) (es : List Event) : Trials (t.run es) := by
  induction es generalizing t with
  | nil => exact h
  | cons e es ih => exact ih ((step_effect t e).trials h)

lemma wellFormed_run (h : Trials t) (hb : t.breaker.WellFormed) (es : List Event) :
    (t.run es).breaker.WellFormed := by
  induction es generalizing t with
  | nil => exact hb
  | cons e es ih =>
    exact ih ((step_effect t e).trials h) ((step_effect t e).wellFormed h hb)

lemma Effect.config (he : Effect t now act answer t') : t'.breaker.config = t.breaker.config := by
  cases he <;> rfl

lemma config_run (t : Traffic) (es : List Event) : (t.run es).breaker.config = t.breaker.config := by
  induction es generalizing t with
  | nil => rfl
  | cons e es ih => exact (ih _).trans (step_effect t e).config

section

variable {c : BreakerConfig} {b : Breaker} (hb : Breaker.ofConfig c = .ok b) (es : List Event)

include hb

lemma trials_start_run : Trials ((start b).run es) := by
  obtain ⟨_, rfl⟩ := Breaker.ofConfig_eq_ok hb
  exact (Trials.start (by simp)).run es

lemma wellFormed_start_run : ((start b).run es).breaker.WellFormed := by
  obtain ⟨hv, rfl⟩ := Breaker.ofConfig_eq_ok hb
  have hp := (BreakerConfig.pos_of_validate hv).1
  have hs : (start { config := c }).breaker.WellFormed :=
    ⟨by simp [start], by simp [start], hp, fun _ => hp⟩
  exact wellFormed_run (Trials.start (by simp)) hs es

lemma config_start_run : ((start b).run es).breaker.config = c := by
  obtain ⟨_, rfl⟩ := Breaker.ofConfig_eq_ok hb
  exact config_run _ es

end

theorem run_keeps_one_trial {c : BreakerConfig} {b : Breaker} (hb : Breaker.ofConfig c = .ok b)
    (es : List Event) :
    let t := (start b).run es
    (t.breaker.trialInFlight = true ↔ t.breaker.state = .halfOpen) ∧
    (t.breaker.state = .halfOpen ↔ ∃! i, t.Outstanding i ⟨.trial, t.breaker.generation⟩) ∧
    (t.breaker.state ≠ .halfOpen → ∀ i, ¬ t.Outstanding i ⟨.trial, t.breaker.generation⟩) ∧
    (t.breaker.openedAt = none ↔ t.breaker.state = .closed) ∧
    (t.breaker.state = .closed →
      t.breaker.metrics.consecutiveFailures < c.failureThreshold.toNat) ∧
    (∀ k i j, t.Outstanding i ⟨.trial, k⟩ → t.Outstanding j ⟨.trial, k⟩ → i = j) ∧
    ((∀ i g, ¬ t.Outstanding i g) → t.breaker.state ≠ .halfOpen) := by
  intro t
  have ht : Trials t := trials_start_run hb es
  have hs : t.breaker.WellFormed := wellFormed_start_run hb es
  have hc : t.breaker.config = c := config_start_run hb es
  refine ⟨hs.inFlight, ⟨?_, ?_⟩, ?_, hs.openedAt, hc ▸ hs.below, ?_, ?_⟩
  · intro h
    obtain ⟨i, hi⟩ := ht.holder h
    exact ⟨i, hi, fun j hj => ht.unique j i _ hj hi⟩
  · rintro ⟨i, hi, _⟩
    exact ht.halfOpen i hi
  · exact ht.not_outstanding
  · intro k i j hi hj
    exact ht.unique i j k hi hj
  · intro hn h
    obtain ⟨i, hi⟩ := ht.holder h
    exact hn i _ hi

def overlap : List Event :=
  [⟨0, .enter⟩, ⟨0, .settle 0 .failure⟩, ⟨1000000, .enter⟩, ⟨1000000, .reset⟩,
    ⟨1000000, .enter⟩, ⟨1000000, .settle 2 .failure⟩, ⟨2000000, .enter⟩]

instance (t : Traffic) (i : Nat) (g : Guard) : Decidable (t.Outstanding i g) :=
  inferInstanceAs (Decidable (t.tickets[i]? = some ⟨g, false⟩))

theorem overlap_keeps_one_trial :
    Breaker.ofConfig (opensAfter 1) = .ok { config := opensAfter 1 } ∧
    ((start { config := opensAfter 1 }).run overlap).Outstanding 1 ⟨.trial, 0⟩ ∧
    ((start { config := opensAfter 1 }).run overlap).breaker.state = .halfOpen ∧
    ∃! i, ((start { config := opensAfter 1 }).run overlap).Outstanding i ⟨.trial, 1⟩ := by
  have hb : Breaker.ofConfig (opensAfter 1) = .ok { config := opensAfter 1 } := rfl
  have hs : ((start { config := opensAfter 1 }).run overlap).breaker.state = .halfOpen := by decide
  exact ⟨hb, by decide, hs, (run_keeps_one_trial hb overlap).2.1.mp hs⟩

end Traffic

end Resilience
