import Mathlib.Data.List.TFAE
import Mathlib.Tactic.TFAE
import Resilience.Proofs.Settings.Accepted

namespace Resilience

section

variable {α γ δ : Type} {r : Except α Unit} {s : Except α γ} {c : Prop} [Decidable c] {e : α}
  {b : γ}

lemma seq_eq_ok_iff : (do r; s) = .ok b ↔ r = .ok () ∧ s = .ok b := by
  cases r <;> simp [bind, Except.bind]

lemma seq_eq_error_iff : (do r; s) = .error e ↔ r = .error e ∨ r = .ok () ∧ s = .error e := by
  cases r <;> simp [bind, Except.bind]

lemma refuse_eq_ok_iff : (if c then throw e else pure () : Except α Unit) = .ok () ↔ ¬c := by
  by_cases h : c <;> simp [h, throw, throwThe, MonadExceptOf.throw, pure, Except.pure]

lemma refuse_seq_eq_ok_iff {k : Unit → Except α γ} :
    (if c then throw e >>= k else k ()) = .ok b ↔ ¬c ∧ k () = .ok b := by
  by_cases h : c <;> simp [h, throw, throwThe, MonadExceptOf.throw, bind, Except.bind]

lemma mapError_eq_ok_iff {s : Except δ γ} {f : δ → α} : s.mapError f = .ok b ↔ s = .ok b := by
  cases s <;> simp [Except.mapError]

end

lemma Duration.isZero_eq_true_iff {d : Duration} : d.isZero = true ↔ d = .zero := by
  rw [isZero, beq_iff_eq, Duration.ext_iff]
  rfl

namespace BackoffPolicy

variable {R : Type} [Scalar R]

lemma validate_eq_ok_iff {p : BackoffPolicy R} : p.validate = .ok () ↔
    p.initialDelay ≤ p.maxDelay ∧
    (∀ base, p.strategy = .exponential base →
      (Scalar.value? base).isSome ∧ ¬base < Scalar.ofNat 1) ∧
    ∀ millis, p.strategy = .custom millis → millis ≠ [] := by
  have hle : ¬p.maxDelay < p.initialDelay ↔ p.initialDelay ≤ p.maxDelay := Nat.not_lt
  simp only [validate]
  rw [refuse_seq_eq_ok_iff, hle]
  refine and_congr_right fun _ => ?_
  cases p.strategy with
  | exponential base =>
    simp only [refuse_eq_ok_iff, not_or, Option.isNone_iff_eq_none, Strategy.exponential.injEq]
    simp [Option.isSome_iff_ne_none]
  | custom millis =>
    simp [refuse_eq_ok_iff]
  | fixed | linear | fibonacci => simp [pure, Except.pure]

end BackoffPolicy

lemma RateLimit.validate_eq_ok_iff {c : RateLimit} : c.validate = .ok () ↔
    c.rate.count ≠ 0 ∧ c.rate.per ≠ .zero ∧ c.burst ≠ some 0 := by
  simp only [validate]
  rw [refuse_seq_eq_ok_iff, refuse_seq_eq_ok_iff, refuse_eq_ok_iff, Duration.isZero_eq_true_iff]

lemma BreakerConfig.validate_eq_ok_iff {c : BreakerConfig} : c.validate = .ok () ↔
    c.failureThreshold ≠ 0 ∧ c.openDuration ≠ .zero := by
  simp only [validate]
  rw [refuse_seq_eq_ok_iff, refuse_eq_ok_iff, Duration.isZero_eq_true_iff]

section

variable {α : Type} {part : Option α} {check : α → Except SettingsError Unit} {e : SettingsError}

lemma checkPart_eq_ok_iff :
    checkPart part check = .ok () ↔ ∀ a ∈ part, check a = .ok () := by
  cases part <;> simp [checkPart]

lemma checkPositive_eq_ok_iff {domain field : String} {n : Nat} :
    checkPositive domain field n = .ok () ↔ n ≠ 0 := by
  simp [checkPositive, Amount.isNothing]

lemma checkPart_eq_error_iff :
    checkPart part check = .error e ↔ ∃ a ∈ part, check a = .error e := by
  cases part <;> simp [checkPart]

lemma checkPositive_eq_error_iff {domain field : String} {n : Nat} :
    checkPositive domain field n = .error e ↔
      n = 0 ∧ e = .domain domain (field ++ " must be greater than 0, got 0") := by
  unfold checkPositive
  cases n with
  | zero =>
    have htext : field ++ " must be greater than 0, got " ++ Nat.repr 0 =
        field ++ " must be greater than 0, got 0" := String.append_assoc
    simp [Amount.isNothing, Amount.shown, htext, eq_comm]
  | succ n => simp [Amount.isNothing]

end

namespace PolicyStack

variable {s : PolicyStack} {α : Type} {part : Option α}

lemma checkSection_eq_ok_iff {validate : α → Except Failure Unit} :
    checkSection part validate = .ok () ↔ ∀ a ∈ part, validate a = .ok () := by
  cases part <;> simp [checkSection]

lemma checkTimeout_eq_ok_iff {name : String} {d : Duration} :
    checkTimeout name d = .ok () ↔ d ≠ .zero := by
  rw [checkTimeout, ← not_iff_not, not_not, ← Duration.isZero_eq_true_iff]
  split <;> simp_all

structure Sensible (s : PolicyStack) : Prop where
  delays : ∀ p ∈ s.retry, p.initialDelay ≤ p.maxDelay
  base : ∀ p ∈ s.retry, ∀ base, p.strategy = .exponential base →
    (Scalar.value? base).isSome ∧ ¬base < Scalar.ofNat 1
  listed : ∀ p ∈ s.retry, ∀ millis, p.strategy = .custom millis → millis ≠ []
  timeout : ∀ d ∈ s.timeout, d ≠ .zero
  attemptTimeout : ∀ d ∈ s.attemptTimeout, d ≠ .zero
  rateLimit : ∀ c ∈ s.rateLimit, c.rate.count ≠ 0 ∧ c.rate.per ≠ .zero ∧ c.burst ≠ some 0
  circuitBreaker : ∀ c ∈ s.circuitBreaker, c.failureThreshold ≠ 0 ∧ c.openDuration ≠ .zero

structure Accepted (s : PolicyStack) (now : Nat) : Prop where
  retry : ∀ p ∈ s.retry, p.validate = .ok ()
  timeout : ∀ d ∈ s.timeout, ∀ (β ε : Type) (t : Task β ε), ∃ t', t.timeout d = .ok t'
  attemptTimeout : ∀ d ∈ s.attemptTimeout, ∀ (β ε : Type) (t : Task β ε), ∃ t', t.timeout d = .ok t'
  rateLimit : ∀ c ∈ s.rateLimit, ∃ l : Limiter Float, Limiter.ofConfig c now = .ok l
  circuitBreaker : ∀ c ∈ s.circuitBreaker, ∃ b, Breaker.ofConfig c = .ok b

lemma timeout_accepts_iff {d : Duration} :
    (∀ (β ε : Type) (t : Task β ε), ∃ t', t.timeout d = .ok t') ↔ d ≠ .zero := by
  rw [Ne, ← Duration.isZero_eq_true_iff]
  constructor
  · intro h hz
    obtain ⟨t', ht'⟩ := h Unit Unit (.ofBody "" ())
    simp [Task.timeout, hz] at ht'
  · intro hz β ε t
    exact ⟨_, if_neg hz⟩

lemma limiter_accepts_iff {c : RateLimit} {now : Nat} :
    (∃ l : Limiter Float, Limiter.ofConfig c now = .ok l) ↔ c.validate = .ok () := by
  unfold Limiter.ofConfig
  cases c.validate <;> simp [bind, Except.bind, pure, Except.pure]

lemma breaker_accepts_iff {c : BreakerConfig} :
    (∃ b, Breaker.ofConfig c = .ok b) ↔ c.validate = .ok () := by
  unfold Breaker.ofConfig
  cases c.validate <;> simp [bind, Except.bind, pure, Except.pure]

lemma accepted_iff_sensible {now : Nat} : s.Accepted now ↔ s.Sensible := by
  constructor
  · intro h
    have hretry := fun p hp => BackoffPolicy.validate_eq_ok_iff.1 (h.retry p hp)
    exact {
      delays := fun p hp => (hretry p hp).1
      base := fun p hp => (hretry p hp).2.1
      listed := fun p hp => (hretry p hp).2.2
      timeout := fun d hd => timeout_accepts_iff.1 (h.timeout d hd)
      attemptTimeout := fun d hd => timeout_accepts_iff.1 (h.attemptTimeout d hd)
      rateLimit := fun c hc =>
        RateLimit.validate_eq_ok_iff.1 (limiter_accepts_iff.1 (h.rateLimit c hc))
      circuitBreaker := fun c hc =>
        BreakerConfig.validate_eq_ok_iff.1 (breaker_accepts_iff.1 (h.circuitBreaker c hc)) }
  · intro h
    exact {
      retry := fun p hp =>
        BackoffPolicy.validate_eq_ok_iff.2 ⟨h.delays p hp, h.base p hp, h.listed p hp⟩
      timeout := fun d hd => timeout_accepts_iff.2 (h.timeout d hd)
      attemptTimeout := fun d hd => timeout_accepts_iff.2 (h.attemptTimeout d hd)
      rateLimit := fun c hc =>
        limiter_accepts_iff.2 (RateLimit.validate_eq_ok_iff.2 (h.rateLimit c hc))
      circuitBreaker := fun c hc =>
        breaker_accepts_iff.2 (BreakerConfig.validate_eq_ok_iff.2 (h.circuitBreaker c hc)) }

lemma validate_eq_ok_iff : s.validate = .ok () ↔ s.Sensible := by
  unfold validate
  simp only [seq_eq_ok_iff, checkSection_eq_ok_iff, checkTimeout_eq_ok_iff,
    BackoffPolicy.validate_eq_ok_iff, RateLimit.validate_eq_ok_iff,
    BreakerConfig.validate_eq_ok_iff]
  constructor
  · rintro ⟨hr, ht, ha, hl, hb⟩
    exact ⟨fun p hp => (hr p hp).1, fun p hp => (hr p hp).2.1, fun p hp => (hr p hp).2.2, ht, ha,
      hl, hb⟩
  · intro h
    exact ⟨fun p hp => ⟨h.delays p hp, h.base p hp, h.listed p hp⟩, h.timeout, h.attemptTimeout,
      h.rateLimit, h.circuitBreaker⟩

lemma check_eq_ok_iff : s.check = .ok () ↔ s.validate = .ok () := by
  unfold check
  simp only [seq_eq_ok_iff, mapError_eq_ok_iff, checkPart_eq_ok_iff, checkPositive_eq_ok_iff]
  refine ⟨fun h => h.2.2, fun h => ⟨fun c hc => ?_, fun c hc hz => ?_, h⟩⟩
  · obtain ⟨hcount, -, hburst⟩ := (validate_eq_ok_iff.1 h).rateLimit c hc
    refine ⟨fun hz => hcount (UInt32.toNat_inj.mp hz), fun n hn hz => ?_⟩
    exact hburst (hn.trans (congrArg some (UInt32.toNat_inj.mp hz)))
  · exact ((validate_eq_ok_iff.1 h).circuitBreaker c hc).1 (UInt32.toNat_inj.mp hz)

lemma exists_build_iff {now : Nat} : (∃ p, s.build now = .ok p) ↔ s.validate = .ok () :=
  ⟨fun ⟨_, hp⟩ => (eq_of_build hp).1, fun h => ⟨_, build_eq h now⟩⟩

lemma doors_agree (s : PolicyStack) (now : Nat) :
    [s.check = .ok (), s.validate = .ok (), ∃ p, s.build now = .ok p, s.Accepted now,
      s.Sensible].TFAE := by
  tfae_have 1 ↔ 2 := check_eq_ok_iff
  tfae_have 3 ↔ 2 := exists_build_iff
  tfae_have 4 ↔ 5 := accepted_iff_sensible
  tfae_have 2 ↔ 5 := validate_eq_ok_iff
  tfae_finish

end PolicyStack

lemma ExecutorConfig.check_eq_ok_iff {c : ExecutorConfig} :
    c.check = .ok () ↔ c.validate = .ok () := by
  unfold check validate
  rw [checkPart_eq_ok_iff]
  simp only [checkPositive_eq_ok_iff]
  by_cases h : c.maxConcurrency = some 0
  · simp [h]
  · simp only [h, if_false, iff_true]
    exact fun n hn hz => h (hn.trans (congrArg some (UInt64.toNat_inj.mp hz)))

def IsWord (s : String) : Prop := s ≠ "" ∧ ∀ c ∈ s.toList, isBlank c = false

lemma validDirective_iff {s : String} : validDirective s = true ↔ IsWord s := by
  simp [validDirective, IsWord]

namespace Settings

variable {c : Settings}

inductive Refused (c : Settings) (now : Nat) : SettingsError → Prop
  | policies {why : String} : ¬c.policies.Accepted now → Refused c now (.domain "policies" why)
  | execution {e : ExecutionError} : c.policies.Accepted now → c.execution.validate = .error e →
      Refused c now (.domain "execution" "max_concurrency must be greater than 0, got 0")
  | logging {before after : List String} {d : String} : c.policies.Accepted now →
      c.execution.validate = .ok () → c.logging.directives = before ++ d :: after →
      (∀ d ∈ before, IsWord d) → ¬IsWord d →
      Refused c now (.domain "logging" ("invalid filter directive '" ++ d ++ "'"))
  | timeouts {attempt total : Duration} : c.policies.Accepted now → c.execution.validate = .ok () →
      (∀ d ∈ c.logging.directives, IsWord d) → c.policies.attemptTimeout = some attempt →
      c.policies.timeout = some total → ¬attempt ≤ total →
      Refused c now (.contradiction ("policies.attempt_timeout (" ++ Phrase.print attempt ++
        ") exceeds policies.timeout (" ++ Phrase.print total ++ ")"))

lemma find?_eq_none_iff {ds : List String} :
    (ds.find? fun d => !validDirective d) = none ↔ ∀ d ∈ ds, IsWord d := by
  simp [List.find?_eq_none, validDirective_iff]

lemma logging_check_eq_ok_iff :
    c.logging.check = .ok () ↔ ∀ d ∈ c.logging.directives, IsWord d := by
  rw [← find?_eq_none_iff, LoggingConfig.check]
  split <;> simp_all

lemma checkTimeouts_eq_ok_iff {s : PolicyStack} : s.checkTimeouts = .ok () ↔
    ∀ attempt ∈ s.attemptTimeout, ∀ total ∈ s.timeout, attempt ≤ total := by
  unfold PolicyStack.checkTimeouts
  cases s.attemptTimeout with
  | none => simp
  | some attempt =>
    cases s.timeout with
    | none => simp
    | some total =>
      have hlt : total < attempt ↔ ¬attempt ≤ total := Nat.not_le.symm
      by_cases h : attempt ≤ total <;> simp [hlt, h]

lemma policies_check_eq_ok_iff (now : Nat) :
    c.policies.check = .ok () ↔ c.policies.Accepted now :=
  (PolicyStack.doors_agree c.policies now).out 0 3

lemma check_eq_ok_iff (now : Nat) : c.check = .ok () ↔
    c.policies.Accepted now ∧ c.execution.validate = .ok () ∧
    (∀ d ∈ c.logging.directives, IsWord d) ∧
    ∀ attempt ∈ c.policies.attemptTimeout, ∀ total ∈ c.policies.timeout, attempt ≤ total := by
  rw [check, seq_eq_ok_iff, seq_eq_ok_iff, seq_eq_ok_iff, logging_check_eq_ok_iff,
    checkTimeouts_eq_ok_iff, ExecutorConfig.check_eq_ok_iff, policies_check_eq_ok_iff now]

lemma policies_check_eq_error {s : PolicyStack} {e : SettingsError} (h : s.check = .error e) :
    ∃ why, e = .domain "policies" why := by
  unfold PolicyStack.check at h
  simp only [seq_eq_error_iff, checkPart_eq_error_iff,
    checkPositive_eq_error_iff] at h
  rcases h with ⟨_, _, ⟨_, rfl⟩ | ⟨_, _, _, _, rfl⟩⟩ | ⟨_, ⟨_, _, _, rfl⟩ | ⟨_, h⟩⟩
  · exact ⟨_, rfl⟩
  · exact ⟨_, rfl⟩
  · exact ⟨_, rfl⟩
  · cases hv : s.validate with
    | error f =>
      rw [hv] at h
      cases h
      exact ⟨_, rfl⟩
    | ok _ =>
      rw [hv] at h
      cases h

lemma execution_check_eq_error {x : ExecutorConfig} {e : SettingsError} (h : x.check = .error e) :
    e = .domain "execution" "max_concurrency must be greater than 0, got 0" ∧
      ∃ e', x.validate = .error e' := by
  rw [ExecutorConfig.check, checkPart_eq_error_iff] at h
  obtain ⟨n, hn, h⟩ := h
  obtain ⟨hz, rfl⟩ := checkPositive_eq_error_iff.1 h
  have hzero : n = 0 := UInt64.toNat_inj.mp hz
  exact ⟨rfl, _, if_pos (hzero ▸ hn)⟩

lemma refused_of_check (now : Nat) {e : SettingsError} (h : c.check = .error e) :
    c.Refused now e := by
  rw [check, seq_eq_error_iff, seq_eq_error_iff, seq_eq_error_iff, policies_check_eq_ok_iff now,
    ExecutorConfig.check_eq_ok_iff, logging_check_eq_ok_iff] at h
  rcases h with hp | ⟨hp, he | ⟨he, hl | ⟨hl, ht⟩⟩⟩
  · obtain ⟨why, rfl⟩ := policies_check_eq_error hp
    refine .policies fun ha => ?_
    rw [(policies_check_eq_ok_iff now).2 ha] at hp
    cases hp
  · obtain ⟨rfl, e', he'⟩ := execution_check_eq_error he
    exact .execution hp he'
  · unfold LoggingConfig.check at hl
    split at hl
    · rename_i d hd
      cases hl
      obtain ⟨hbad, before, after, heq, hbefore⟩ := List.find?_eq_some_iff_append.1 hd
      refine .logging hp he heq (fun d' hd' => ?_) fun hword => ?_
      · simpa [validDirective_iff] using hbefore d' hd'
      · simp [validDirective_iff.2 hword] at hbad
    · cases hl
  · unfold PolicyStack.checkTimeouts at ht
    split at ht
    · rename_i attempt total ha htotal
      split at ht
      · rename_i hlt
        cases ht
        exact .timeouts hp he hl ha htotal (Nat.not_le.2 hlt)
      · cases ht
    · cases ht

end Settings

theorem validators_agree (s : PolicyStack) (c : Settings) (now : Nat) :
    [s.check = .ok (), s.validate = .ok (), ∃ p, s.build now = .ok p, s.Accepted now,
      s.Sensible].TFAE ∧
    (c.check = .ok () ↔ c.policies.Accepted now ∧ c.execution.validate = .ok () ∧
      (∀ d ∈ c.logging.directives, IsWord d) ∧
      ∀ attempt ∈ c.policies.attemptTimeout, ∀ total ∈ c.policies.timeout, attempt ≤ total) ∧
    ∀ e, c.check = .error e → c.Refused now e :=
  ⟨s.doors_agree now, Settings.check_eq_ok_iff now, fun _ => Settings.refused_of_check now⟩

example : Settings.check {
      execution := { maxConcurrency := some 0 }
      logging := { directives := ["net=debug", "a b"] } } =
    .error (.domain "execution" "max_concurrency must be greater than 0, got 0") := by
  rfl

end Resilience
