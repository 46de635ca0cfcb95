import Resilience.Proofs.Breaker.Trial

/-! The changes of state of a breaker. A closed breaker opens with the failure that makes the row
of failures in its history as long as the threshold; the history knows settlements and resets
only, not the breaker's own count. -/

namespace Resilience

lemma Breaker.openDuration_le_openFor {b : Breaker} {o : Nat} (ho : b.openedAt = some o)
    (hd : 0 < b.config.openDuration.nanos) (now : Nat) :
    b.config.openDuration ≤ b.openFor now ↔ o + b.config.openDuration.nanos ≤ now := by
  have hm := b.config.openDuration.nanos_le
  simp only [openFor, ho, Duration.le_def, Duration.saturating]
  omega

namespace Traffic

variable {t t' : Traffic} {now : Nat} {act : Act} {answer : Answer}

/-- Whether a failure was settled. A success and a reset break a row of failures, and nothing else
touches it. -/
def Answer.failed? : Answer → Option Bool
  | .settled _ .failure => some true
  | .settled _ .success | .reset => some false
  | _ => none

def row (past : List Answer) : Nat := ((past.filterMap Answer.failed?).reverse.takeWhile id).length

def Settles (t : Traffic) (act : Act) (g : Guard) (s : Settlement) : Prop :=
  ∃ i, act = .settle i s ∧ t.Outstanding i g

lemma row_append (past : List Answer) (answer : Answer) :
    row (past ++ [answer]) = match answer.failed? with
      | some true => row past + 1
      | some false => 0
      | none => row past := by
  cases h : answer.failed? with
  | none => simp [row, h]
  | some failed => cases failed <;> simp [row, h]

lemma Effect.consecutiveFailures (he : Effect t now act answer t') :
    t'.breaker.metrics.consecutiveFailures = match answer.failed? with
      | some true => t.breaker.metrics.consecutiveFailures + 1
      | some false => 0
      | none => t.breaker.metrics.consecutiveFailures := by
  cases he <;> rfl

lemma consecutiveFailures_run {past : List Answer}
    (h : t.breaker.metrics.consecutiveFailures = row past) (es : List Event) :
    (t.run es).breaker.metrics.consecutiveFailures = row (past ++ t.answers es) := by
  induction es generalizing t past with
  | nil => simpa [run, answers] using h
  | cons e es ih =>
    have hs : (t.step e).2.breaker.metrics.consecutiveFailures = row (past ++ [(t.step e).1]) := by
      rw [(step_effect t e).consecutiveFailures, row_append, h]
    simpa [run, answers] using ih hs

lemma consecutiveFailures_eq_row {c : BreakerConfig} {b : Breaker}
    (hb : Breaker.ofConfig c = .ok b) (es : List Event) :
    ((start b).run es).breaker.metrics.consecutiveFailures = row ((start b).answers es) := by
  obtain ⟨_, rfl⟩ := Breaker.ofConfig_eq_ok hb
  have h : (start { config := c }).breaker.metrics.consecutiveFailures = row [] := rfl
  exact consecutiveFailures_run h es

section

variable (he : Effect t now act answer t') (ht : Trials t) (hb : t.breaker.WellFormed)

include he ht hb

lemma Effect.opened_iff {past : List Answer} (hs : t.breaker.state = .closed)
    (hp : t.breaker.metrics.consecutiveFailures = row past) :
    t'.breaker.state = .opened ↔ (∃ g, t.Settles act g .failure) ∧
      row (past ++ [answer]) = t.breaker.config.failureThreshold.toNat := by
  have hlt := hb.below hs
  have hn := ht.not_outstanding (by simp [hs])
  cases he with
  | pass _ => simp [letIn, hs, Settles]
  | probe ho => simp [hs] at ho
  | refuse ho => simp [hs] at ho
  | busy ho => simp [hs] at ho
  | recover i hi => exact absurd hi (hn i)
  | relapse i hi => exact absurd hi (hn i)
  | giveUp i hi => exact absurd hi (hn i)
  | succeed i g hi hg => simp [discharge, Breaker.countSuccess, hs, Settles]
  | trip i g hi hg _ hle =>
    refine ⟨fun _ => ⟨⟨g, i, rfl, hi⟩, ?_⟩, fun _ => rfl⟩
    simp only [row_append, Answer.failed?]
    omega
  | fail i g hi hg hle =>
    refine ⟨fun h => ?_, fun h => ?_⟩
    · simp [discharge, Breaker.countFailure, hs] at h
    · simp only [row_append, Answer.failed?] at h
      exact absurd ⟨hs, by omega⟩ hle
  | abandon i g hi hg => simp [discharge, hs, Settles]
  | ignore i s hi => simp [hs, Settles, hi]
  | reset => simp [Breaker.reset, Settles]

lemma Effect.probed_iff (hs : t.breaker.state = .opened)
    (hd : 0 < t.breaker.config.openDuration.nanos) :
    t'.breaker.state = .halfOpen ↔ act = .enter ∧
      ∃ o, t.breaker.openedAt = some o ∧ o + t.breaker.config.openDuration.nanos ≤ now := by
  obtain ⟨o, ho⟩ := Option.ne_none_iff_exists'.mp (mt hb.openedAt.mp (by simp [hs]))
  have hf : t.breaker.trialInFlight = false := by
    simpa [hs] using hb.inFlight
  have hn := ht.not_outstanding (by simp [hs])
  have hle := Breaker.openDuration_le_openFor ho hd now
  cases he with
  | pass hc => simp [hs] at hc
  | probe _ hp _ =>
    exact ⟨fun _ => ⟨rfl, o, ho, hle.mp hp⟩, fun _ => rfl⟩
  | refuse _ hp =>
    simp only [Breaker.reject, hs, reduceCtorEq, false_iff]
    rintro ⟨_, o', ho', hle'⟩
    obtain rfl : o = o' := by simpa [ho] using ho'
    exact hp ⟨hle.mpr hle', hf⟩
  | busy hh => simp [hs] at hh
  | recover i hi => exact absurd hi (hn i)
  | relapse i hi => exact absurd hi (hn i)
  | giveUp i hi => exact absurd hi (hn i)
  | succeed i g hi hg => simp [discharge, Breaker.countSuccess, hs]
  | trip i g hi hg hc => simp [hs] at hc
  | fail i g hi hg hp => simp [discharge, Breaker.countFailure, hs]
  | abandon i g hi hg => simp [discharge, hs]
  | ignore i s hi => simp [hs]
  | reset => simp [Breaker.reset]

end

lemma not_settles_trial {i : Nat} {g : Guard} {s s' : Settlement} (hi : t.Outstanding i g)
    (hg : g ≠ t.breaker.trial) : ¬ t.Settles (.settle i s) t.breaker.trial s' := by
  rintro ⟨j, hj, ho⟩
  cases hj
  exact hg (hi.eq ho)

lemma Effect.recovered_iff (he : Effect t now act answer t') (hs : t.breaker.state = .halfOpen) :
    t'.breaker.state = .closed ↔ t.Settles act t.breaker.trial .success ∨ act = .reset := by
  cases he with
  | pass hc => simp [hs] at hc
  | probe ho => simp [hs] at ho
  | refuse ho => simp [hs] at ho
  | busy _ => simp [Breaker.reject, hs, Settles]
  | recover i hi => exact ⟨fun _ => .inl ⟨i, rfl, hi⟩, fun _ => rfl⟩
  | relapse i hi => simp [discharge, Breaker.trip, Settles]
  | giveUp i hi => simp [discharge, Breaker.giveUpTrial, Settles]
  | succeed i g hi hg =>
    simp [discharge, Breaker.countSuccess, hs, not_settles_trial hi hg]
  | trip i g hi hg hc => simp [hs] at hc
  | fail i g hi hg hp => simp [discharge, Breaker.countFailure, hs, Settles]
  | abandon i g hi hg => simp [discharge, hs, Settles]
  | ignore i s hi => simp [hs, Settles, hi]
  | reset => simp [Breaker.reset]

lemma Effect.reopened_iff (he : Effect t now act answer t') (hs : t.breaker.state = .halfOpen) :
    t'.breaker.state = .opened ↔
      t.Settles act t.breaker.trial .failure ∨ t.Settles act t.breaker.trial .abandoned := by
  cases he with
  | pass hc => simp [hs] at hc
  | probe ho => simp [hs] at ho
  | refuse ho => simp [hs] at ho
  | busy _ => simp [Breaker.reject, hs, Settles]
  | recover i hi => simp [discharge, Breaker.close, Settles]
  | relapse i hi => exact ⟨fun _ => .inl ⟨i, rfl, hi⟩, fun _ => rfl⟩
  | giveUp i hi => exact ⟨fun _ => .inr ⟨i, rfl, hi⟩, fun _ => rfl⟩
  | succeed i g hi hg => simp [discharge, Breaker.countSuccess, hs, Settles]
  | trip i g hi hg hc => simp [hs] at hc
  | fail i g hi hg hp =>
    simp [discharge, Breaker.countFailure, hs, not_settles_trial hi hg]
  | abandon i g hi hg => simp [discharge, hs, not_settles_trial hi hg]
  | ignore i s hi => simp [hs, Settles, hi]
  | reset => simp [Breaker.reset, Settles]

inductive Change (t : Traffic) (now : Nat) (act : Act) : CircuitState → Option Nat → Prop
  | opening (g : Guard) : t.breaker.state = .closed → t.Settles act g .failure →
      Change t now act .opened (some now)
  | probing : t.breaker.state = .opened → act = .enter →
      Change t now act .halfOpen t.breaker.openedAt
  | recovery : t.breaker.state = .halfOpen → t.Settles act t.breaker.trial .success →
      Change t now act .closed none
  | relapse : t.breaker.state = .halfOpen → t.Settles act t.breaker.trial .failure →
      Change t now act .opened (some now)
  | surrender : t.breaker.state = .halfOpen → t.Settles act t.breaker.trial .abandoned →
      Change t now act .opened t.breaker.openedAt
  | reset : act = .reset → Change t now act .closed none
  | still : Change t now act t.breaker.state t.breaker.openedAt

lemma Effect.change (he : Effect t now act answer t') (ht : Trials t) :
    Change t now act t'.breaker.state t'.breaker.openedAt := by
  cases he with
  | pass _ => exact .still
  | probe hs => exact .probing hs rfl
  | refuse _ => exact .still
  | busy _ => exact .still
  | recover i hi => exact .recovery (ht.halfOpen i hi) ⟨i, rfl, hi⟩
  | relapse i hi => exact .relapse (ht.halfOpen i hi) ⟨i, rfl, hi⟩
  | giveUp i hi => exact .surrender (ht.halfOpen i hi) ⟨i, rfl, hi⟩
  | succeed i g hi hg => exact .still
  | trip i g hi hg hs _ => exact .opening g hs ⟨i, rfl, hi⟩
  | fail i g hi hg hp => exact .still
  | abandon i g hi hg => exact .still
  | ignore i s hi => exact .still
  | reset => exact .reset rfl

theorem step_changes_as_meant {c : BreakerConfig} {b : Breaker} (hb : Breaker.ofConfig c = .ok b)
    (es : List Event) (e : Event) :
    let t := (start b).run es
    let t' := (t.step e).2
    (t.breaker.state = .closed → (t'.breaker.state = .opened ↔
      (∃ g, t.Settles e.act g .failure) ∧
        row ((start b).answers (es ++ [e])) = c.failureThreshold.toNat)) ∧
    (t.breaker.state = .opened → (t'.breaker.state = .halfOpen ↔
      e.act = .enter ∧ ∃ o, t.breaker.openedAt = some o ∧ o + c.openDuration.nanos ≤ e.now)) ∧
    (t.breaker.state = .halfOpen → (t'.breaker.state = .closed ↔
      t.Settles e.act ⟨.trial, t.breaker.generation⟩ .success ∨ e.act = .reset)) ∧
    (t.breaker.state = .halfOpen → (t'.breaker.state = .opened ↔
      t.Settles e.act ⟨.trial, t.breaker.generation⟩ .failure ∨
        t.Settles e.act ⟨.trial, t.breaker.generation⟩ .abandoned)) ∧
    (e.act = .reset → t'.breaker.state = .closed ∧ t'.breaker.openedAt = none) ∧
    Change t e.now e.act t'.breaker.state t'.breaker.openedAt := by
  intro t t'
  have he : Effect t e.now e.act (t.step e).1 t' := step_effect t e
  have ht : Trials t := trials_start_run hb es
  have hs : t.breaker.WellFormed := wellFormed_start_run hb es
  have hc : t.breaker.config = c := config_start_run hb es
  have hp : t.breaker.metrics.consecutiveFailures = row ((start b).answers es) :=
    consecutiveFailures_eq_row hb es
  have hd := (BreakerConfig.pos_of_validate (Breaker.ofConfig_eq_ok hb).1).2
  refine ⟨fun h => ?_, fun h => ?_, he.recovered_iff, he.reopened_iff, fun h => ?_, he.change ht⟩
  · rw [answers_append, ← hc]
    exact he.opened_iff ht hs h hp
  · rw [← hc] at hd ⊢
    exact he.probed_iff ht hs h hd
  · have hr : t' = { t with breaker := t.breaker.reset e.now } := by simp only [t', step, h]
    rw [hr]
    exact ⟨rfl, rfl⟩

def oneShort : List Event :=
  [⟨0, .enter⟩, ⟨0, .enter⟩, ⟨0, .enter⟩, ⟨1, .enter⟩, ⟨2, .settle 2 .failure⟩,
    ⟨2, .settle 0 .abandoned⟩, ⟨3, .enter⟩]

theorem oneShort_opens :
    Breaker.ofConfig (opensAfter 2) = .ok { config := opensAfter 2 } ∧
    ((start { config := opensAfter 2 }).run oneShort).breaker.state = .closed ∧
    (((start { config := opensAfter 2 }).run oneShort).step ⟨4, .settle 1 .failure⟩).2.breaker.state =
      .opened := by
  have hb : Breaker.ofConfig (opensAfter 2) = .ok { config := opensAfter 2 } := rfl
  have hs : ((start { config := opensAfter 2 }).run oneShort).breaker.state = .closed := rfl
  refine ⟨hb, hs, ?_⟩
  apply ((step_changes_as_meant hb oneShort ⟨4, .settle 1 .failure⟩).1 hs).mpr
  exact ⟨⟨⟨.normal, 0⟩, 1, rfl, rfl⟩, by decide⟩

end Traffic

end Resilience
