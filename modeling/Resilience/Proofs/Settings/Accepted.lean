import Resilience.Proofs.Breaker.Trial
import Resilience.Proofs.Call.Crashes
import Resilience.Settings.Basic

namespace Resilience

variable {β ι ε : Type}

lemma eq_ok_of_bind {α γ δ : Type} {r : Except α γ} {f : γ → Except α δ} {b : δ}
    (h : (r >>= f) = .ok b) : ∃ a, r = .ok a ∧ f a = .ok b := by
  cases r with
  | error _ => cases h
  | ok a => exact ⟨a, rfl, h⟩

namespace PolicyStack

variable {s : PolicyStack}

lemma validate_of_check (h : s.check = .ok ()) : s.validate = .ok () := by
  obtain ⟨_, _, h⟩ := eq_ok_of_bind h
  obtain ⟨_, _, h⟩ := eq_ok_of_bind h
  cases hv : s.validate with
  | error f => simp [hv, Except.mapError] at h
  | ok _ => rfl

lemma sections_of_validate (h : s.validate = .ok ()) :
    (∀ c ∈ s.rateLimit, c.validate = .ok ()) ∧ ∀ c ∈ s.circuitBreaker, c.validate = .ok () := by
  obtain ⟨_, _, h⟩ := eq_ok_of_bind h
  obtain ⟨_, _, h⟩ := eq_ok_of_bind h
  obtain ⟨_, _, h⟩ := eq_ok_of_bind h
  obtain ⟨_, hr, hb⟩ := eq_ok_of_bind h
  refine ⟨fun c hc => ?_, fun c hc => ?_⟩
  · simpa only [checkSection, show s.rateLimit = some c from hc] using hr
  · simpa only [checkSection, show s.circuitBreaker = some c from hc] using hb

def pipeline (s : PolicyStack) (now : Nat) : Pipeline where
  retry := s.retry
  timeout := s.timeout
  attemptTimeout := s.attemptTimeout
  limiter := s.rateLimit.map fun c => ⟨.full c.capacity.toNat c.rate.tokensPerSecond now, c.maxWait⟩
  breaker := s.circuitBreaker.map fun c => { config := c }

lemma build_eq (h : s.validate = .ok ()) (now : Nat) : s.build now = .ok (s.pipeline now) := by
  obtain ⟨hr, hb⟩ := sections_of_validate h
  unfold build pipeline
  rw [h]
  cases hrate : s.rateLimit with
  | none =>
    cases hbreaker : s.circuitBreaker with
    | none => rfl
    | some c => simp [Breaker.ofConfig, hb c hbreaker, bind, Except.bind, pure, Except.pure]
  | some l =>
    cases hbreaker : s.circuitBreaker with
    | none => simp [Limiter.ofConfig, hr l hrate, bind, Except.bind, pure, Except.pure]
    | some c =>
      simp [Limiter.ofConfig, hr l hrate, Breaker.ofConfig, hb c hbreaker, bind, Except.bind, pure,
        Except.pure]

lemma eq_of_build {now : Nat} {p : Pipeline} (h : s.build now = .ok p) :
    s.validate = .ok () ∧ p = s.pipeline now := by
  obtain ⟨_, hv, -⟩ := eq_ok_of_bind h
  rw [build_eq hv, Except.ok.injEq] at h
  exact ⟨hv, h.symm⟩

end PolicyStack

namespace Settings

variable {c : Settings}

lemma policies_of_check (h : c.check = .ok ()) : c.policies.check = .ok () := by
  obtain ⟨_, hp, -⟩ := eq_ok_of_bind h
  exact hp

lemma execution_of_check (h : c.check = .ok ()) : c.execution.validate = .ok () := by
  obtain ⟨_, -, h⟩ := eq_ok_of_bind h
  obtain ⟨_, he, -⟩ := eq_ok_of_bind h
  refine if_neg fun hzero => ?_
  simp only [ExecutorConfig.check, hzero] at he
  cases he

end Settings

lemma ExecutorConfig.gate_eq_error {c : ExecutorConfig} {k : Crash} : c.gate = .error k ↔
    k = .tooManyPermits ∧ ∃ n ∈ c.maxConcurrency, Gate.maxPermits < n.toNat := by
  unfold gate
  cases c.maxConcurrency with
  | none => simp
  | some n =>
    by_cases hn : Gate.maxPermits < n.toNat <;> simp [hn, eq_comm]

lemma BackoffPolicy.decide_eq_error {p : BackoffPolicy Float} {factor : Float} {attempt : Nat}
    {e : Failure} {k : Crash} (h : p.decide factor attempt e = .error k) :
    k = .jitterOverflow ∧ p.jitter = true ∧
      p.backoff.jittered factor attempt = .error .jitterOverflow := by
  have hjittered : p.backoff.jittered factor attempt = .error k →
      k = .jitterOverflow ∧ p.backoff.jittered factor attempt = .error .jitterOverflow := by
    intro h
    unfold Backoff.jittered at h ⊢
    split at h <;> cases h
    exact ⟨rfl, rfl⟩
  unfold decide at h
  split at h
  · cases h
  · split at h
    · cases h
    · split at h
      · cases h
      · cases hd : p.delay factor attempt with
        | ok d => simp [hd, Except.map] at h
        | error k' =>
          obtain rfl : k' = k := by simpa [hd, Except.map] using h
          unfold delay at hd
          split at hd
          · rename_i hj
            obtain ⟨rfl, hover⟩ := hjittered hd
            exact ⟨rfl, hj, hover⟩
          · cases hd

namespace Pipeline

variable {p : Pipeline} {limiter breaker : Option Nat} {draw : ε → Float × ε}

inductive Overflows (p : Pipeline) (draw : ε → Float × ε) (c : Clock) : Crash → Prop
  | deadline {after : Duration} : p.timeout = some after ∨ p.attemptTimeout = some after →
      Instant.horizon ≤ c.now + after.nanos → Overflows p draw c .deadlineOverflow
  | jitter {r : BackoffPolicy Float} {attempt : Nat} {notes : ε} : p.retry = some r →
      r.jitter = true → r.backoff.jittered (draw notes).1 attempt = .error .jitterOverflow →
      Overflows p draw c .jitterOverflow

lemma overflows_of_causes {l : Layer ε} (hl : l ∈ p.layers limiter breaker draw) {k : Crash}
    {c : Clock} (h : l.Causes k c) : p.Overflows draw c k := by
  have htimeout {after : Duration} (ha : p.timeout = some after ∨ p.attemptTimeout = some after)
      (h : (.timeout after : Layer ε).Causes k c) : p.Overflows draw c k := by
    obtain ⟨rfl, hd⟩ := h
    refine .deadline ha (Nat.le_of_not_lt fun hlt => ?_)
    simp [Clock.deadline?, hlt] at hd
  simp only [layers, List.mem_append, Option.mem_toList, Option.map_eq_some_iff,
    Option.filter_eq_some_iff] at hl
  rcases hl with
    (((⟨after, ha, rfl⟩ | ⟨r, ⟨hr, _⟩, rfl⟩) | ⟨_, _, rfl⟩) | ⟨_, _, rfl⟩) | ⟨after, ha, rfl⟩
  · exact htimeout (.inl ha) h
  · obtain ⟨attempt, e, notes, hd⟩ := h
    obtain ⟨rfl, hj, hover⟩ := BackoffPolicy.decide_eq_error hd
    exact .jitter hr hj hover
  · cases h
  · cases h
  · exact htimeout (.inr ha) h

end Pipeline

namespace Call

variable {work : Work β ι ε} {t : Task β ε} {p : Pipeline} {limiter breaker : Option Nat}
  {draw : ε → Float × ε} {x : Context} {w : World ε}

lemma crash_of_under_pipeline {ws : List (World ε)} {k : Crash} {v : World ε}
    (h : Run work anyone (ofTask work (t.under p limiter breaker draw) x w) ws (.crashed k, v)) :
    (∃ y u us v', Run work anyone (ofTask work t y u) us (.crashed k, v')) ∨
      p.Overflows draw v.clock k := by
  rw [ofTask, t.layers_under, t.body_under] at h
  rcases crash_is_inner_or_caused h with ⟨y, u, us, v', hr, -⟩ | ⟨l, hl, hc⟩
  · exact .inl ⟨y, u, us, v', hr⟩
  · exact .inr (Pipeline.overflows_of_causes hl hc)

lemma crashes_at_once {after : Duration} (hp : p.timeout = some after) (hx : w.err x = none)
    (hover : Instant.horizon ≤ w.now + after.nanos) :
    ofTask work (t.under p limiter breaker draw) x w = (.crashed .deadlineOverflow, w) := by
  have hd : w.clock.deadline? after = none := if_neg (Nat.not_lt_of_le hover)
  rw [ofTask, t.layers_under, Pipeline.layers, hp]
  simp [start, hx, hd]

theorem accepted_settings_crash_by_overflow {c : Settings} (hc : c.check = .ok ()) :
    (∀ now, ∃ p, c.policies.build now = .ok p) ∧ c.execution.validate = .ok () ∧
    (∀ k, c.execution.gate = .error k ↔ k = .tooManyPermits ∧
      ∃ n ∈ c.execution.maxConcurrency, Gate.maxPermits < n.toNat) ∧
    ∀ now p, c.policies.build now = .ok p →
      ∀ (work : Work β ι ε) (t : Task β ε) (limiter breaker : Option Nat) (draw : ε → Float × ε)
        (x : Context) (w : World ε),
        (∀ ws k v, Run work anyone (ofTask work (t.under p limiter breaker draw) x w) ws
            (.crashed k, v) →
          (∃ y u us v', Run work anyone (ofTask work t y u) us (.crashed k, v')) ∨
            p.Overflows draw v.clock k) ∧
        ∀ after, c.policies.timeout = some after → w.err x = none →
          Instant.horizon ≤ w.now + after.nanos →
          ofTask work (t.under p limiter breaker draw) x w = (.crashed .deadlineOverflow, w) := by
  have hv := PolicyStack.validate_of_check (Settings.policies_of_check hc)
  refine ⟨fun now => ⟨_, PolicyStack.build_eq hv now⟩, Settings.execution_of_check hc,
    fun k => ExecutorConfig.gate_eq_error, fun now p hp work t limiter breaker draw x w => ?_⟩
  obtain ⟨-, rfl⟩ := PolicyStack.eq_of_build hp
  exact ⟨fun ws k v h => crash_of_under_pipeline h,
    fun after ha hx hover => crashes_at_once ha hx hover⟩

def unbounded : Settings where
  policies := { timeout := some (.longest) }

theorem longest_timeout_crashes :
    unbounded.check = .ok () ∧ ∃ p, unbounded.policies.build 0 = .ok p ∧
      ofTask (failing .aborted) (lone.under p none none (1.0, ·)) ⟨⟨0, []⟩, none⟩ still =
        (.crashed .deadlineOverflow, still) := by
  have hc : unbounded.check = .ok () := rfl
  obtain ⟨hbuild, -, -, hcalls⟩ := accepted_settings_crash_by_overflow hc
  obtain ⟨p, hp⟩ := hbuild 0
  exact ⟨hc, p, hp, (hcalls 0 p hp (failing .aborted) lone none none (1.0, ·) _ still).2 _ rfl rfl
    (by decide)⟩

theorem accepted_settings_crash : ¬ ∀ (c : Settings) (p : Pipeline), c.check = .ok () →
    c.policies.build 0 = .ok p → ∀ ws k v,
      ¬ Run (failing .aborted) anyone
        (ofTask (failing .aborted) (lone.under p none none (1.0, ·)) ⟨⟨0, []⟩, none⟩ still) ws
        (.crashed k, v) := by
  intro h
  have hp : unbounded.policies.build 0 = .ok (unbounded.policies.pipeline 0) := rfl
  have hcrash : ofTask (failing .aborted)
      (lone.under (unbounded.policies.pipeline 0) none none (1.0, ·)) ⟨⟨0, []⟩, none⟩ still =
        (.crashed .deadlineOverflow, still) := crashes_at_once rfl rfl (by decide)
  refine h unbounded _ rfl hp [] .deadlineOverflow still ?_
  rw [hcrash]
  exact .begun

end Call

end Resilience
