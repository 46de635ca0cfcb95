import Mathlib.Algebra.Order.BigOperators.Group.List
import Mathlib.Algebra.Order.Ring.Nat
import Resilience.Proofs.Call.Account

/-! How often a call invokes the innermost work. A retry layer calls what is below it no more often
than its budget says, and at least once if the budget is zero; any other layer calls it at most
once. So nested retries multiply, and nothing else does. -/

namespace Resilience

variable {β ι ε τ R : Type}

def RetryPolicy.StopsAt (p : RetryPolicy ε) (n : Nat) : Prop :=
  ∀ now k e notes d, n ≤ k → (p.decide now k e notes).1 ≠ .ok (.retry d)

lemma BackoffPolicy.decide_ne_retry [Scalar R] (p : BackoffPolicy R) {draw : R} {k : Nat}
    {e : Failure} {d : Duration} (hk : p.maxAttempts.toNat ≤ k) :
    p.decide draw k e ≠ .ok (.retry d) := by
  unfold decide
  rw [if_pos hk]
  split
  · simp
  · simp

lemma BackoffPolicy.policy_stopsAt [Scalar R] (p : BackoffPolicy R) (draw : ε → R × ε) :
    (p.policy draw).StopsAt p.maxAttempts.toNat := by
  intro now k e notes d hk
  exact p.decide_ne_retry hk

def Layer.CallsAtMost (n : Nat) : Layer ε → Prop
  | .retry p => 1 ≤ n ∧ p.StopsAt n
  | _ => 1 ≤ n

lemma Layer.CallsAtMost.pos {n : Nat} {l : Layer ε} (h : l.CallsAtMost n) : 1 ≤ n := by
  cases l with
  | retry p => exact h.1
  | _ => exact h

namespace Call

variable {work : Work β ι ε} {p : RetryPolicy ε} {x : Context} {rest : List (Layer ε)} {body : β}
  {k n : Nat} {w v : World ε} {ws : List (World ε)} {ts : List τ} {s : Step β ι ε}

lemma Asked.lt_of_stopsAt {runs : Runs τ β ι ε} {t : τ} {e : Failure} {d : Duration}
    (hp : p.StopsAt n) (h : Asked runs p x k w ws t e (.ok (.retry d)) v) : k < n := by
  generalize ha : (Except.ok (Decision.retry d) : Except Crash Decision) = answer at h
  cases h with
  | intro _ _ =>
    by_contra hk
    exact hp _ k e _ d (Nat.le_of_not_lt hk) ha.symm

lemma Attempts.length_le {runs : Runs τ β ι ε} (hp : p.StopsAt n)
    (h : Attempts runs p x rest body k w ws ts s) : ts.length ≤ max 1 (n + 1 - k) := by
  induction h with
  | again ha _ _ _ ih =>
    have hk := ha.lt_of_stopsAt hp
    rw [List.length_cons]
    omega
  | _ => exact Nat.le_max_left 1 _

lemma UnderLimiter.length_le {runs : Runs τ β ι ε} {id : Nat}
    (h : UnderLimiter runs id x rest body w ws ts s) : ts.length ≤ 1 := by
  induction h with
  | again _ _ _ _ _ ih => exact ih
  | served _ _ => exact Nat.le_refl 1
  | _ => exact Nat.zero_le 1

lemma length_le_of_under {runs : Context → Runs τ β ι ε} {l : Layer ε} (hl : l.CallsAtMost n)
    (h : Under work rest body runs x l w ws ts s) : ts.length ≤ n := by
  have hn := hl.pos
  cases l with
  | retry p =>
    have hlength := Attempts.length_le hl.2 h
    omega
  | limiter id => exact Nat.le_trans (UnderLimiter.length_le h) hn
  | timeout after | breaker id | observe o =>
    refine Nat.le_trans ?_ hn
    cases h <;> simp

lemma Told.innermost_length_le {layers : List (Layer ε)} {ns : List Nat}
    (hl : List.Forall₂ Layer.CallsAtMost ns layers) {a : Account ε layers}
    (h : Told work body layers x w ws a s) : a.innermost.length ≤ ns.prod := by
  induction hl generalizing x w ws s with
  | nil => exact Nat.le_refl 1
  | @cons n l ns rest hl _ ih =>
    obtain ⟨calls, o⟩ := a
    obtain ⟨_, hc⟩ := h
    have hbelow : ∀ m ∈ calls.map fun b => b.innermost.length, m ≤ ns.prod := by
      intro m hm
      obtain ⟨b, hb, rfl⟩ := List.mem_map.mp hm
      obtain ⟨_, _, _, _, ht⟩ := made_of_under hc b hb
      exact ih ht
    calc (calls.flatMap Account.innermost).length
        = (calls.map fun b => b.innermost.length).sum := List.length_flatMap
      _ ≤ calls.length * ns.prod := by
        simpa using List.sum_le_card_nsmul _ _ hbelow
      _ ≤ n * ns.prod := Nat.mul_le_mul_right _ (length_le_of_under hl hc)

end Call

inductive Link (R ε : Type) where
  | timeout (after : Duration)
  | limiter (id : Nat)
  | breaker (id : Nat)
  | retry (policy : BackoffPolicy R) (draw : ε → R × ε)

namespace Link

variable [Scalar R]

def attach (t : Task β ε) : Link R ε → Except Failure (Task β ε)
  | timeout after => t.timeout after
  | limiter id => .ok (t.wrap (.limiter id))
  | breaker id => .ok (t.wrap (.breaker id))
  | retry p draw => .ok (t.retry (p.policy draw))

def budget : Link R ε → Nat
  | retry p _ => max 1 p.maxAttempts.toNat
  | _ => 1

lemma attach_callsAtMost {t u : Task β ε} {l : Link R ε} (h : attach t l = .ok u) :
    u.layers = t.layers ∧ l.budget = 1 ∨
      ∃ l', u.layers = l' :: t.layers ∧ l'.CallsAtMost l.budget := by
  cases l with
  | timeout after =>
    simp only [attach, Task.timeout] at h
    split at h <;> cases h
    exact .inr ⟨_, rfl, Nat.le_refl 1⟩
  | limiter id | breaker id =>
    cases h
    exact .inr ⟨_, rfl, Nat.le_refl 1⟩
  | retry p draw =>
    cases h
    unfold Task.retry
    split
    · rename_i hp
      have hzero : p.maxAttempts.toNat = 0 := Option.some.inj hp
      exact .inl ⟨rfl, by simp [budget, hzero]⟩
    · refine .inr ⟨_, rfl, Nat.le_max_left .., ?_⟩
      intro now k e notes d hk
      exact p.policy_stopsAt draw now k e notes d (Nat.le_trans (Nat.le_max_right ..) hk)

end Link

def Task.chain [Scalar R] (t : Task β ε) (links : List (Link R ε)) : Except Failure (Task β ε) :=
  links.foldlM Link.attach t

lemma Task.chain_callsAtMost [Scalar R] {t u : Task β ε} {links : List (Link R ε)} {ns : List Nat}
    (ht : List.Forall₂ Layer.CallsAtMost ns t.layers) (h : t.chain links = .ok u) :
    ∃ ms, List.Forall₂ Layer.CallsAtMost ms u.layers ∧
      ms.prod = (links.map Link.budget).prod * ns.prod := by
  induction links generalizing t ns with
  | nil =>
    cases h
    exact ⟨ns, ht, by simp⟩
  | cons l links ih =>
    unfold chain at h
    rw [List.foldlM_cons] at h
    cases hl : Link.attach t l with
    | error e =>
      rw [hl] at h
      cases h
    | ok v =>
      rw [hl] at h
      rcases Link.attach_callsAtMost hl with ⟨hv, hb⟩ | ⟨l', hv, hb⟩
      · obtain ⟨ms, hms, hprod⟩ := ih (hv ▸ ht) h
        exact ⟨ms, hms, by simpa [hb] using hprod⟩
      · have hv' : List.Forall₂ Layer.CallsAtMost (l.budget :: ns) v.layers := hv ▸ .cons hb ht
        obtain ⟨ms, hms, hprod⟩ := ih hv' h
        refine ⟨ms, hms, ?_⟩
        rw [hprod, List.map_cons, List.prod_cons, List.prod_cons, Nat.mul_left_comm, Nat.mul_assoc]

theorem Call.invocations_le_prod_budgets [Scalar R] (work : Work β ι ε) (name : String) (body : β)
    (links : List (Link R ε)) (t : Task β ε) (ht : (Task.ofBody name body).chain links = .ok t)
    (x : Context) (w : World ε) (ws : List (World ε)) (s : Step β ι ε) :
    (Run work anyone (ofTask work t x w) ws s ↔ ∃ a, Told work t.body t.layers x w ws a s) ∧
    ∀ a, Told work t.body t.layers x w ws a s →
      a.innermost.length ≤ (links.map Link.budget).prod := by
  refine ⟨(describes_told work t.body t.layers x).run_iff, fun a ha => ?_⟩
  obtain ⟨ms, hms, hprod⟩ := Task.chain_callsAtMost .nil ht
  have hle := ha.innermost_length_le hms
  rwa [hprod, List.prod_nil, Nat.mul_one] at hle

namespace Call

def counting : Work Unit Empty Nat where
  start _ _ a := (.done (.error .aborted), a.record (· + 1))
  resume i _ := nomatch i
  abandon i _ := nomatch i
  ready i _ := nomatch i
  timers i := nomatch i

/-- The last link has no budget and falls away. -/
def sixfold : List (Link Float Nat) :=
  [.retry (.fixed 2 .zero) (1.0, ·), .timeout (.ofMillis 5), .retry (.fixed 3 .zero) (1.0, ·),
    .retry (.fixed 0 .zero) (1.0, ·)]

def sixfoldTask : Task Unit Nat where
  name := "lone"
  layers := [.retry (BackoffPolicy.policy (.fixed 3 .zero) (1.0, ·)), .timeout (.ofMillis 5),
    .retry (BackoffPolicy.policy (.fixed 2 .zero) (1.0, ·))]
  body := ()

def counted (fresh n : Nat) : World Nat :=
  { clock := .start, cancellation := { fresh }, notes := n, limiters := #[], breakers := #[] }

theorem six_invocations_use_up_both_budgets :
    lone.chain sixfold = .ok sixfoldTask ∧ (sixfold.map Link.budget).prod = 6 ∧
    Run counting anyone (ofTask counting sixfoldTask ⟨⟨0, []⟩, none⟩ (counted 1 0)) []
      (.done (.error (.exhausted 3 (.exhausted 2 .aborted))), counted 4 6) ∧
    ∃ a, Told counting () sixfoldTask.layers ⟨⟨0, []⟩, none⟩ (counted 1 0) [] a
        (.done (.error (.exhausted 3 (.exhausted 2 .aborted))), counted 4 6) ∧
      a.innermost.length ≤ (sixfold.map Link.budget).prod := by
  have ht : lone.chain sixfold = .ok sixfoldTask := rfl
  have h : Run counting anyone (ofTask counting sixfoldTask ⟨⟨0, []⟩, none⟩ (counted 1 0)) []
      (.done (.error (.exhausted 3 (.exhausted 2 .aborted))), counted 4 6) := .begun
  obtain ⟨hiff, hle⟩ := invocations_le_prod_budgets counting "lone" () sixfold sixfoldTask ht
    ⟨⟨0, []⟩, none⟩ (counted 1 0) []
    (.done (.error (.exhausted 3 (.exhausted 2 .aborted))), counted 4 6)
  obtain ⟨a, ha⟩ := hiff.mp h
  exact ⟨ht, by decide, h, a, ha, hle a ha⟩

end Call

end Resilience
