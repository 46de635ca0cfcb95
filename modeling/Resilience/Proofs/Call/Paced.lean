import Resilience.Proofs.Backoff.Schedule
import Resilience.Proofs.Call.Budget

namespace Resilience

namespace BackoffPolicy

lemma maxAttempts_le_lastAttempt {R : Type} (p : BackoffPolicy R) :
    p.maxAttempts.toNat ≤ Call.lastAttempt := by
  have hlt := p.maxAttempts.toNat_lt
  rw [Call.lastAttempt]
  omega

variable {R : Type} [Scalar R] {p : BackoffPolicy R} {draw : R} {k : Nat} {e : Failure}
  {d : Duration}

lemma le_maxDelay_of_delay (h : p.delay draw k = .ok d) : d ≤ p.maxDelay := by
  unfold delay at h
  split at h
  · unfold Backoff.jittered at h
    split at h <;> cases h
    exact Duration.min_le_right ..
  · cases h
    exact p.backoff.delay_le k

lemma decide_eq_abort (he : e.isRetryable = false) : p.decide draw k e = .ok .abort := by
  simp [decide, he]

lemma decide_told (he : e.retryDelay? = some d) (hk : k < p.maxAttempts.toNat) :
    p.decide draw k e = .ok (.retry (min d p.maxDelay)) := by
  have hr : e.isRetryable = true := by
    cases e with
    | invalid _ | cancelled _ => cases he
    | _ => rfl
  simp [decide, hr, he, Nat.not_le_of_lt hk]

lemma decide_scheduled (hr : e.isRetryable = true) (he : e.retryDelay? = none)
    (hk : k < p.maxAttempts.toNat) : p.decide draw k e = (p.delay draw k).map .retry := by
  simp [decide, hr, he, Nat.not_le_of_lt hk]

lemma isRetryable_of_decide {a : Decision} (h : p.decide draw k e = .ok a) (ha : a ≠ .abort) :
    e.isRetryable = true := by
  cases he : e.isRetryable with
  | true => rfl
  | false =>
    rw [decide_eq_abort he] at h
    cases h
    exact absurd rfl ha

lemma retry_of_decide {a : Decision} (hk : k < p.maxAttempts.toNat)
    (h : p.decide draw k e = .ok a) (ha : a ≠ .abort) : ∃ d, a = .retry d ∧ d ≤ p.maxDelay := by
  cases he : e.retryDelay? with
  | some d =>
    rw [decide_told he hk] at h
    cases h
    exact ⟨_, rfl, Duration.min_le_right ..⟩
  | none =>
    rw [decide_scheduled (isRetryable_of_decide h ha) he hk] at h
    cases hd : p.delay draw k with
    | error c =>
      rw [hd] at h
      cases h
    | ok d =>
      rw [hd] at h
      cases h
      exact ⟨d, rfl, le_maxDelay_of_delay hd⟩

lemma isRetryable_of_abort (h : p.decide draw k e = .ok .abort) : e.isRetryable = false := by
  by_contra hr
  have hr : e.isRetryable = true := Bool.eq_true_of_not_eq_false hr
  rcases Nat.lt_or_ge k p.maxAttempts.toNat with hk | hk
  · cases he : e.retryDelay? with
    | some d =>
      rw [decide_told he hk] at h
      cases h
    | none =>
      rw [decide_scheduled hr he hk] at h
      cases hd : p.delay draw k <;> rw [hd] at h <;> cases h
  · simp [decide, hr, hk] at h

lemma lt_of_decide_eq_retry (h : p.decide draw k e = .ok (.retry d)) :
    k < p.maxAttempts.toNat := by
  by_contra hk
  exact p.decide_ne_retry (Nat.le_of_not_lt hk) h

lemma le_maxDelay_of_decide (h : p.decide draw k e = .ok (.retry d)) : d ≤ p.maxDelay := by
  obtain ⟨d', hd, hle⟩ := retry_of_decide (lt_of_decide_eq_retry h) h nofun
  cases hd
  exact hle

lemma le_of_decide_eq_exhausted (h : p.decide draw k e = .ok .exhausted) :
    p.maxAttempts.toNat ≤ k := by
  by_contra hk
  obtain ⟨d, hd, _⟩ := retry_of_decide (Nat.lt_of_not_le hk) h nofun
  cases hd

end BackoffPolicy

namespace Call

variable {β ι ε τ : Type}

structure Try (β ι ε : Type) where
  begun : World ε
  latest : Step β ι ε

namespace Try

structure FailsWith (x : Context) (a : Try β ι ε) (e : Failure) (v : World ε) : Prop where
  latest : a.latest = (.done (.error e), v)
  live : v.err x = none

def wait? (p : RetryPolicy ε) (x : Context) (k : Nat) (a : Try β ι ε) : Option Duration :=
  match a.latest with
  | (.done (.error e), v) =>
    match v.err x, (p.decide v.now k e v.notes).1 with
    | none, .ok (.retry d) => some d
    | _, _ => none
  | _ => none

variable {p : RetryPolicy ε} {x : Context} {k : Nat} {a : Try β ι ε} {e e' : Failure}
  {v v' : World ε} {d : Duration}

lemma FailsWith.unique (h : a.FailsWith x e v) (h' : a.FailsWith x e' v') : e = e' ∧ v = v' := by
  have hsame := h.latest.symm.trans h'.latest
  cases hsame
  exact ⟨rfl, rfl⟩

lemma FailsWith.wait? (h : a.FailsWith x e v) :
    a.wait? p x k = some d ↔ (p.decide v.now k e v.notes).1 = .ok (.retry d) := by
  simp only [Try.wait?, h.latest, h.live]
  split <;> simp_all

lemma wait?_eq_some (h : a.wait? p x k = some d) :
    ∃ e v, a.FailsWith x e v ∧ (p.decide v.now k e v.notes).1 = .ok (.retry d) := by
  have hw := h
  unfold Try.wait? at h
  split at h
  · rename_i e v hlatest
    cases he : v.err x with
    | some r => simp [he] at h
    | none =>
      have hf : a.FailsWith x e v := ⟨hlatest, he⟩
      exact ⟨e, v, hf, hf.wait?.mp hw⟩
  · cases h

end Try

def waits (p : RetryPolicy ε) (x : Context) (as : List (Try β ι ε)) : List Duration :=
  (as.zipIdx 1).filterMap fun ((a, k) : Try β ι ε × Nat) => a.wait? p x k

lemma mem_waits {p : RetryPolicy ε} {x : Context} {as : List (Try β ι ε)} {d : Duration}
    (h : d ∈ waits p x as) :
    ∃ (i : Nat) (a : Try β ι ε), as[i]? = some a ∧ a.wait? p x (i + 1) = some d := by
  obtain ⟨⟨a, k⟩, hm, hd⟩ := List.mem_filterMap.mp h
  obtain ⟨hk, hi⟩ := List.mk_mem_zipIdx_iff_le_and_getElem?_sub.mp hm
  exact ⟨k - 1, a, hi, by rwa [Nat.sub_add_cancel hk]⟩

lemma length_waits_le (p : RetryPolicy ε) (x : Context) (as : List (Try β ι ε)) :
    (waits p x as).length ≤ as.length := by
  rw [← List.length_zipIdx (l := as) (i := 1)]
  exact List.length_filterMap_le ..

def tries (work : Work β ι ε) (t : Task β ε) (x : Context) : Runs (Try β ι ε) β ι ε :=
  fun w ws a s => a = ⟨w, s⟩ ∧ Run work anyone (ofTask work t x w) ws s

lemma describes_tries (work : Work β ι ε) (t : Task β ε) (x : Context) :
    Describes work (ofTask work t x) (tries work t x) where
  begun _ := ⟨_, rfl, .begun⟩
  resumed h w' := ⟨_, rfl, h.2.resumed w' trivial⟩
  genuine h := h.2

/-- What the loop has come to after its last attempt, which has the number `k` and has failed with
`e`, given the policy's answer and the world in which it answered. -/
inductive Concluded (p : RetryPolicy ε) (x : Context) (rest : List (Layer ε)) (body : β) (k : Nat)
    (e : Failure) (v : World ε) : Except Crash Decision → Step β ι ε → Prop
  | stuck {c : Crash} : Concluded p x rest body k e v (.error c) (.crashed c, v)
  | aborted : Concluded p x rest body k e v (.ok .abort) (.done (.error e), v)
  | exhausted : Concluded p x rest body k e v (.ok .exhausted) (.done (.error (.exhausted k e)), v)
  | spent {d : Duration} : k = lastAttempt →
      Concluded p x rest body k e v (.ok (.retry d)) (.done (.error (.exhausted k e)), v)
  | waiting {d : Duration} {u : World ε} : Concluded p x rest body k e v (.ok (.retry d))
      (.pending (.pausing p x (lastAttempt - (k + 1)) (v.clock.wake d) rest body), u)
  | interrupted {d : Duration} {us : List (World ε)} {u : World ε} {r : Reason} :
      Interrupted x d v us u r →
      Concluded p x rest body k e v (.ok (.retry d)) (.done (.error (.cancelled r)), u)

section

variable {work : Work β ι ε} {t : Task β ε} {p : RetryPolicy ε} {x : Context}
  {rest : List (Layer ε)} {body : β} {k i : Nat} {w v : World ε} {ws : List (World ε)}
  {a b : Try β ι ε} {as : List (Try β ι ε)} {e : Failure} {s : Step β ι ε}

lemma Asked.failsWith {answer : Except Crash Decision}
    (h : Asked (tries work t x) p x k w ws a e answer v) :
    ∃ u, a.begun = w ∧ a.FailsWith x e u ∧ answer = (p.decide u.now k e u.notes).1 ∧
      v = { u with notes := (p.decide u.now k e u.notes).2 } := by
  cases h with
  | @intro u hr he =>
    obtain ⟨rfl, _⟩ := hr
    exact ⟨u, rfl, ⟨rfl, he⟩, rfl, rfl⟩

lemma Attempts.ne_nil {runs : Runs τ β ι ε} {ts : List τ}
    (h : Attempts runs p x rest body k w ws ts s) : ts ≠ [] := by
  cases h <;> simp

lemma Attempts.begun_head (h : Attempts (tries work t x) p x rest body k w ws as s) :
    ∃ a, as[0]? = some a ∧ a.begun = w := by
  obtain ⟨a, _, rfl, ha, _⟩ := h.begins Try.begun fun hr => by rw [hr.1]
  exact ⟨a, rfl, ha⟩

lemma Attempts.next (h : Attempts (tries work t x) p x rest body k w ws as s)
    (ha : as[i]? = some a) (hb : as[i + 1]? = some b) :
    ∃ e v d us, a.FailsWith x e v ∧ (p.decide v.now (k + i) e v.notes).1 = .ok (.retry d) ∧
      Slept x d { v with notes := (p.decide v.now (k + i) e v.notes).2 } us b.begun := by
  induction h generalizing i with
  | again hasked _ hs hrest ih =>
    cases i with
    | zero =>
      cases ha
      obtain ⟨b', hb', rfl⟩ := hrest.begun_head
      cases hb.symm.trans hb'
      obtain ⟨v, _, hf, hd, rfl⟩ := hasked.failsWith
      exact ⟨_, v, _, _, hf, hd.symm, hs⟩
    | succ i =>
      have hnext := ih ha hb
      rwa [show ∀ k, k + 1 + i = k + (i + 1) from fun k => by omega] at hnext
  | _ => simp at hb

lemma Attempts.last {runs : Runs τ β ι ε} {ts : List τ}
    (h : Attempts runs p x rest body k w ws ts s) : ∃ init t w' ws', ts = init ++ [t] ∧
      Attempts runs p x rest body (k + init.length) w' ws' [t] s := by
  induction h with
  | @again k _ _ _ _ _ _ t _ _ _ _ _ _ _ _ ih =>
    obtain ⟨init, t', w', ws', rfl, hlast⟩ := ih
    refine ⟨t :: init, t', w', ws', rfl, ?_⟩
    rwa [List.length_cons, ← Nat.add_assoc, Nat.add_right_comm]
  | underway ht => exact ⟨[], _, _, _, rfl, .underway ht⟩
  | crashed ht => exact ⟨[], _, _, _, rfl, .crashed ht⟩
  | succeeded ht => exact ⟨[], _, _, _, rfl, .succeeded ht⟩
  | overtaken ht he => exact ⟨[], _, _, _, rfl, .overtaken ht he⟩
  | stuck ha => exact ⟨[], _, _, _, rfl, .stuck ha⟩
  | aborted ha => exact ⟨[], _, _, _, rfl, .aborted ha⟩
  | exhausted ha => exact ⟨[], _, _, _, rfl, .exhausted ha⟩
  | spent ha hk => exact ⟨[], _, _, _, rfl, .spent ha hk⟩
  | waiting ha hk he hz hu => exact ⟨[], _, _, _, rfl, .waiting ha hk he hz hu⟩
  | interrupted ha hk hi => exact ⟨[], _, _, _, rfl, .interrupted ha hk hi⟩

lemma Attempts.run_of_mem (h : Attempts (tries work t x) p x rest body k w ws as s)
    (ha : a ∈ as) : ∃ us, Run work anyone (ofTask work t x a.begun) us a.latest := by
  obtain ⟨_, us, _, rfl, hr⟩ := h.made a ha
  exact ⟨us, hr⟩

lemma Attempts.of_pausing {q : RetryPolicy ε} {y : Context} {left wake : Nat}
    {rest' : List (Layer ε)} {body' : β}
    (h : Attempts (tries work t x) p x rest body k w ws as
      (.pending (.pausing q y left wake rest' body'), v)) :
    ∃ a e u d, as.getLast? = some a ∧ a.FailsWith x e u ∧
      (p.decide u.now (k + as.length - 1) e u.notes).1 = .ok (.retry d) ∧
      wake = u.clock.wake d := by
  obtain ⟨init, a, w', ws', rfl, hlast⟩ := h.last
  cases hlast with
  | waiting ha =>
    obtain ⟨u, _, hf, hd, rfl⟩ := ha.failsWith
    exact ⟨a, _, u, _, by simp, hf, by simpa using hd.symm, rfl⟩
  | again _ _ _ hrest => exact absurd rfl hrest.ne_nil

lemma Asked.eq_of_failsWith {e' : Failure} {answer : Except Crash Decision} {v' : World ε}
    (h : Asked (tries work t x) p x k w ws a e' answer v') (hf : a.FailsWith x e v) :
    e' = e ∧ (p.decide v.now k e v.notes).1 = answer ∧
      v' = { v with notes := (p.decide v.now k e v.notes).2 } := by
  obtain ⟨u, _, hf', rfl, rfl⟩ := h.failsWith
  obtain ⟨rfl, rfl⟩ := hf.unique hf'
  exact ⟨rfl, rfl, rfl⟩

lemma Attempts.concluded (h : Attempts (tries work t x) p x rest body k w ws [a] s)
    (hf : a.FailsWith x e v) :
    Concluded p x rest body k e { v with notes := (p.decide v.now k e v.notes).2 }
      (p.decide v.now k e v.notes).1 s := by
  cases h with
  | underway ht | crashed ht | succeeded ht =>
    obtain ⟨rfl, _⟩ := ht
    cases hf.latest
  | overtaken ht he =>
    obtain ⟨rfl, _⟩ := ht
    cases hf.latest
    cases hf.live.symm.trans he
  | stuck ha =>
    obtain ⟨rfl, hanswer, rfl⟩ := ha.eq_of_failsWith hf
    rw [hanswer]
    exact .stuck
  | aborted ha =>
    obtain ⟨rfl, hanswer, rfl⟩ := ha.eq_of_failsWith hf
    rw [hanswer]
    exact .aborted
  | exhausted ha =>
    obtain ⟨rfl, hanswer, rfl⟩ := ha.eq_of_failsWith hf
    rw [hanswer]
    exact .exhausted
  | spent ha hk =>
    obtain ⟨rfl, hanswer, rfl⟩ := ha.eq_of_failsWith hf
    rw [hanswer]
    exact .spent hk
  | waiting ha =>
    obtain ⟨rfl, hanswer, rfl⟩ := ha.eq_of_failsWith hf
    rw [hanswer]
    exact .waiting
  | interrupted ha _ hi =>
    obtain ⟨rfl, hanswer, rfl⟩ := ha.eq_of_failsWith hf
    rw [hanswer]
    exact .interrupted hi
  | again _ _ _ hrest => exact absurd rfl hrest.ne_nil

lemma Attempts.concluded_of_last (h : Attempts (tries work t x) p x rest body k w ws as s)
    (ha : as[i]? = some a) (hi : i + 1 = as.length) (hf : a.FailsWith x e v) :
    Concluded p x rest body (k + i) e { v with notes := (p.decide v.now (k + i) e v.notes).2 }
      (p.decide v.now (k + i) e v.notes).1 s := by
  obtain ⟨init, a', w', ws', rfl, hlast⟩ := h.last
  obtain rfl : i = init.length := by simpa using hi
  obtain rfl : a' = a := by simpa using ha
  exact hlast.concluded hf

lemma Attempts.succ_eq_length_of_abort (h : Attempts (tries work t x) p x rest body k w ws as s)
    (ha : as[i]? = some a) (hlatest : a.latest = (.done (.error e), v))
    (hd : (p.decide v.now (k + i) e v.notes).1 = .ok .abort) : i + 1 = as.length := by
  have hi : i < as.length := (List.getElem?_eq_some_iff.mp ha).1
  by_contra hne
  obtain ⟨e', v', d, _, hf, hd', _⟩ := h.next ha (List.getElem?_eq_getElem (by omega))
  cases hlatest.symm.trans hf.latest
  cases hd.symm.trans hd'

lemma Attempts.of_abort (h : Attempts (tries work t x) p x rest body k w ws as s)
    (ha : as[i]? = some a) (hf : a.FailsWith x e v)
    (hd : (p.decide v.now (k + i) e v.notes).1 = .ok .abort) :
    s = (.done (.error e), { v with notes := (p.decide v.now (k + i) e v.notes).2 }) := by
  have hconcluded := h.concluded_of_last ha (h.succ_eq_length_of_abort ha hf.latest hd) hf
  rw [hd] at hconcluded
  cases hconcluded
  rfl

end

section

variable {R : Type} [Scalar R] {work : Work β ι ε} {t : Task β ε} {p : BackoffPolicy R}
  {draw : ε → R × ε} {x : Context} {rest : List (Layer ε)} {body : β} {k : Nat} {w v : World ε}
  {ws : List (World ε)} {a : Try β ι ε} {as : List (Try β ι ε)} {e : Failure} {s : Step β ι ε}
  {d : Duration}

lemma run_retry_iff (hp : 1 ≤ p.maxAttempts.toNat) :
    Run work anyone (ofTask work (t.retry (p.policy draw)) x w) ws s ↔
      ∃ as, Attempts (tries work t x) (p.policy draw) x t.layers t.body 1 w ws as s := by
  have htask : t.retry (p.policy draw) = t.wrap (.retry (p.policy draw)) := by
    refine if_neg fun hzero => ?_
    have hzero : p.maxAttempts.toNat = 0 := Option.some.inj hzero
    omega
  rw [htask]
  exact ((describes_tries work t x).retry _).run_iff

lemma Try.le_maxDelay_of_wait? (h : a.wait? (p.policy draw) x k = some d) :
    d ≤ p.maxDelay ∧ k < p.maxAttempts.toNat := by
  obtain ⟨e, v, _, hd⟩ := wait?_eq_some h
  exact ⟨BackoffPolicy.le_maxDelay_of_decide hd, BackoffPolicy.lt_of_decide_eq_retry hd⟩

lemma sum_waits_le (as : List (Try β ι ε)) :
    ((waits (p.policy draw) x as).map Duration.nanos).sum ≤ as.length * p.maxDelay.nanos := by
  have hle : ∀ n ∈ (waits (p.policy draw) x as).map Duration.nanos, n ≤ p.maxDelay.nanos := by
    intro n hn
    obtain ⟨d, hd, rfl⟩ := List.mem_map.mp hn
    obtain ⟨_, _, _, hd⟩ := mem_waits hd
    exact (Try.le_maxDelay_of_wait? hd).1
  calc ((waits (p.policy draw) x as).map Duration.nanos).sum
      ≤ (waits (p.policy draw) x as).length * p.maxDelay.nanos := by
        simpa using List.sum_le_card_nsmul _ _ hle
    _ ≤ as.length * p.maxDelay.nanos := Nat.mul_le_mul_right _ (length_waits_le ..)

lemma Attempts.of_exhausted {n : Nat} (h : Attempts (tries work t x) (p.policy draw) x rest body
    k w ws as (.done (.error (.exhausted n e)), v)) (hk : k ≤ p.maxAttempts.toNat) :
    n = p.maxAttempts.toNat ∧ e.isRetryable = true ∧ k + as.length = n + 1 := by
  have hlength := h.length_le (p.policy_stopsAt draw)
  obtain ⟨init, a, w', ws', rfl, hlast⟩ := h.last
  rw [List.length_append, List.length_singleton] at hlength ⊢
  cases hlast with
  | aborted ha =>
    obtain ⟨u, _, _, hd, _⟩ := ha.failsWith
    have hr : (Failure.exhausted n e).isRetryable = false :=
      BackoffPolicy.isRetryable_of_abort hd.symm
    cases hr
  | exhausted ha =>
    obtain ⟨u, _, _, hd, _⟩ := ha.failsWith
    have hle := BackoffPolicy.le_of_decide_eq_exhausted hd.symm
    exact ⟨by omega, BackoffPolicy.isRetryable_of_decide hd.symm nofun, by omega⟩
  | spent ha hlast =>
    have hlt := ha.lt_of_stopsAt (p.policy_stopsAt draw)
    have hle := p.maxAttempts_le_lastAttempt
    omega
  | again _ _ _ hrest => exact absurd rfl hrest.ne_nil

end

structure Paced {R : Type} [Scalar R] (work : Work β ι ε) (t : Task β ε) (p : BackoffPolicy R)
    (draw : ε → R × ε) (x : Context) (as : List (Try β ι ε)) (s : Step β ι ε) : Prop where
  genuine : ∀ a ∈ as, ∃ ws, Run work anyone (ofTask work t x a.begun) ws a.latest
  slept : ∀ i a b, as[i]? = some a → as[i + 1]? = some b → ∃ e v d us, a.FailsWith x e v ∧
    a.wait? (p.policy draw) x (i + 1) = some d ∧
    Slept x d { v with notes := (draw v.notes).2 } us b.begun
  asleep : ∀ q y left wake rest body v, s = (.pending (.pausing q y left wake rest body), v) →
    ∃ a e u d, as.getLast? = some a ∧ a.FailsWith x e u ∧
      a.wait? (p.policy draw) x as.length = some d ∧ wake = u.clock.wake d
  capped : ∀ i a d, as[i]? = some a → a.wait? (p.policy draw) x (i + 1) = some d →
    d ≤ p.maxDelay ∧ i + 1 < p.maxAttempts.toNat
  total : ∀ k, ((waits (p.policy draw) x (as.take k)).map Duration.nanos).sum ≤
    k * p.maxDelay.nanos
  told : ∀ i a e v d, as[i]? = some a → a.FailsWith x e v → i + 1 < p.maxAttempts.toNat →
    e.retryDelay? = some d → a.wait? (p.policy draw) x (i + 1) = some (min d p.maxDelay)
  scheduled : ∀ i a e v d, as[i]? = some a → a.FailsWith x e v → i + 1 < p.maxAttempts.toNat →
    e.isRetryable = true → e.retryDelay? = none → p.delay (draw v.notes).1 (i + 1) = .ok d →
    a.wait? (p.policy draw) x (i + 1) = some d
  last : ∀ i a e v, as[i]? = some a → a.latest = (.done (.error e), v) → e.isRetryable = false →
    i + 1 = as.length ∧
      (v.err x = none → s = (.done (.error e), { v with notes := (draw v.notes).2 }))
  exhausted : ∀ n e v, s = (.done (.error (.exhausted n e)), v) →
    n = p.maxAttempts.toNat ∧ e.isRetryable = true ∧ as.length = n

theorem backoff_waits_are_capped {R : Type} [Scalar R] (work : Work β ι ε) (t : Task β ε)
    {p : BackoffPolicy R} (hp : 1 ≤ p.maxAttempts.toNat) (draw : ε → R × ε) (x : Context)
    (w : World ε) (ws : List (World ε)) (s : Step β ι ε) :
    (Run work anyone (ofTask work (t.retry (p.policy draw)) x w) ws s ↔
      ∃ as, Attempts (tries work t x) (p.policy draw) x t.layers t.body 1 w ws as s) ∧
    ∀ as, Attempts (tries work t x) (p.policy draw) x t.layers t.body 1 w ws as s →
      Paced work t p draw x as s := by
  refine ⟨run_retry_iff hp, fun as h => ?_⟩
  have hnumber (i : Nat) : 1 + i = i + 1 := Nat.add_comm 1 i
  constructor
  case genuine => exact fun a ha => h.run_of_mem ha
  case slept =>
    intro i a b ha hb
    obtain ⟨e, v, d, us, hf, hd, hs⟩ := h.next ha hb
    rw [hnumber] at hd
    exact ⟨e, v, d, us, hf, hf.wait?.mpr hd, hs⟩
  case asleep =>
    rintro q y left wake rest body v rfl
    obtain ⟨a, e, u, d, ha, hf, hd, hwake⟩ := h.of_pausing
    rw [Nat.add_sub_cancel_left] at hd
    exact ⟨a, e, u, d, ha, hf, hf.wait?.mpr hd, hwake⟩
  case capped => exact fun i a d _ hd => Try.le_maxDelay_of_wait? hd
  case total =>
    intro k
    exact (sum_waits_le _).trans (Nat.mul_le_mul_right _ (List.length_take_le ..))
  case told =>
    intro i a e v d _ hf hi hd
    exact hf.wait?.mpr (BackoffPolicy.decide_told hd hi)
  case scheduled =>
    intro i a e v d _ hf hi hr he hd
    refine hf.wait?.mpr ((BackoffPolicy.decide_scheduled hr he hi).trans ?_)
    rw [hd]
    rfl
  case last =>
    intro i a e v ha hlatest hr
    have habort : ((p.policy draw).decide v.now (1 + i) e v.notes).1 = .ok .abort :=
      BackoffPolicy.decide_eq_abort hr
    exact ⟨h.succ_eq_length_of_abort ha hlatest habort,
      fun he => h.of_abort ha ⟨hlatest, he⟩ habort⟩
  case exhausted =>
    rintro n e v rfl
    obtain ⟨hn, hr, hlength⟩ := h.of_exhausted hp
    exact ⟨hn, hr, by omega⟩

def hasty : BackoffPolicy ℚ where
  maxAttempts := 2
  initialDelay := .ofNanos 300000
  maxDelay := .ofMillis 1
  strategy := .fixed
  jitter := true

def unbound : Context := ⟨⟨0, []⟩, none⟩

def fewTokens : Failure := .rateLimited (.ofMillis 5)

def spread {ε : Type} (notes : ε) : ℚ × ε := (11 / 10, notes)

def turnedAway (w : World Unit) : Try Unit Empty Unit := ⟨w, (.done (.error fewTokens), w)⟩

theorem told_wait_is_capped :
    1 ≤ hasty.maxAttempts.toNat ∧
    Run (failing fewTokens) anyone
      (ofTask (failing fewTokens) (lone.retry (hasty.policy spread)) unbound still)
      [atTick 1] (.done (.error (.exhausted 2 fewTokens)), atTick 1) ∧
    (turnedAway still).wait? (hasty.policy spread) unbound 1 = some (.ofMillis 1) := by
  have hp : 1 ≤ hasty.maxAttempts.toNat := by decide
  have htry (w : World Unit) : tries (failing fewTokens) lone unbound w []
      (turnedAway w) (.done (.error fewTokens), w) := ⟨rfl, .begun⟩
  have hfirst : Asked (tries (failing fewTokens) lone unbound) (hasty.policy spread)
      unbound 1 still [] (turnedAway still) fewTokens (.ok (.retry (.ofMillis 1))) still :=
    .intro (htry still) rfl
  have hslept : Slept unbound (.ofMillis 1) still [atTick 1] (atTick 1) :=
    .later rfl rfl (List.forall_mem_nil _) rfl rfl
  have hsecond : Asked (tries (failing fewTokens) lone unbound) (hasty.policy spread)
      unbound 2 (atTick 1) [] (turnedAway (atTick 1)) fewTokens (.ok .exhausted)
      (atTick 1) := .intro (htry (atTick 1)) rfl
  have hlast : Attempts (tries (failing fewTokens) lone unbound) (hasty.policy spread)
      unbound [] () 2 (atTick 1) [] [turnedAway (atTick 1)]
      (.done (.error (.exhausted 2 fewTokens)), atTick 1) := .exhausted hsecond
  have has := Attempts.again hfirst (by decide) hslept hlast
  obtain ⟨hiff, hpaced⟩ := backoff_waits_are_capped (failing fewTokens) lone hp spread
    unbound still [atTick 1] (.done (.error (.exhausted 2 fewTokens)), atTick 1)
  have hf : (turnedAway still).FailsWith unbound fewTokens still := ⟨rfl, rfl⟩
  exact ⟨hp, hiff.mpr ⟨_, has⟩,
    (hpaced _ has).told 0 _ fewTokens still (.ofMillis 5) rfl hf (by decide) rfl⟩

end Call

end Resilience
