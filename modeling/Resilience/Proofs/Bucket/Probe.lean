import Resilience.Proofs.Bucket.Window

/-! Looks at a limiter that take no token, in exact arithmetic. Each of them refills the bucket;
since a bucket that is refilled twice is as if it had been refilled once, nobody can tell from any
later answer whether, when and how often somebody has looked. -/

namespace Resilience

namespace Bucket.Sound

variable {b : Bucket ℚ} {s t : Nat}

lemma refill_refill (h : b.Sound s) (hst : s ≤ t) : (b.refill s).refill t = b.refill t := by
  have htokens : ((b.refill s).refill t).tokens = (b.refill t).tokens := by
    rw [(h.refill (Nat.le_refl s)).tokens_refill_later hst, h.tokens_refill_later hst,
      (h.refill (Nat.le_refl s)).tokens_refill_self rfl]
    rfl
  exact congrArg (fun tokens => ({ b with tokens, refilled := t } : Bucket ℚ)) htokens

end Bucket.Sound

namespace Limiter

section

variable {R : Type} [Scalar R] {l l' : Limiter R} {e : Event} {es fs : List Event}
  {as : List (Answer R)}

def answers (l : Limiter R) : List Event → List (Answer R)
  | [] => []
  | e :: es => (l.step e).1 :: (l.step e).2.answers es

/-- The schedule `fs` is `es` with probes put in: events that are granted no token where they stand.
The other events of `fs`, which are those of `es`, are answered `as` there. -/
inductive Interspersed : Limiter R → List Event → List Event → List (Answer R) → Prop
  | done {l : Limiter R} : Interspersed l [] [] []
  | kept {l : Limiter R} {e : Event} {es fs : List Event} {as : List (Answer R)} :
      Interspersed (l.step e).2 es fs as →
      Interspersed l (e :: es) (e :: fs) ((l.step e).1 :: as)
  | probe {l : Limiter R} {e : Event} {es fs : List Event} {as : List (Answer R)} :
      (l.step e).1.granted = false → Interspersed (l.step e).2 es fs as →
      Interspersed l es (e :: fs) as

def latest (start : Nat) (es : List Event) : Nat := (es.getLast?.map Event.now).getD start

lemma interspersed_of_grants_eq_zero (h : l.grants fs = 0) : Interspersed l [] fs [] := by
  induction fs generalizing l with
  | nil => exact .done
  | cons e fs ih =>
    obtain ⟨he, hfs⟩ := Nat.add_eq_zero_iff.mp h
    exact .probe (by simpa using he) (ih hfs)

lemma run_append (l : Limiter R) (es fs : List Event) : l.run (es ++ fs) = (l.run es).run fs := by
  induction es generalizing l with
  | nil => rfl
  | cons e es ih => exact ih (l.step e).2

lemma le_of_inOrder {s t : Nat} (h : InOrder s es t) : s ≤ t := by
  induction es generalizing s with
  | nil => exact h
  | cons e es ih => exact Nat.le_trans h.1 (ih h.2)

lemma latest_cons (start : Nat) (e : Event) (es : List Event) :
    latest start (e :: es) = latest e.now es := by
  rw [latest, List.getLast?_cons, latest]
  cases es.getLast? <;> rfl

lemma inOrder_append {s t : Nat} :
    InOrder s (es ++ fs) t ↔ InOrder s es (latest s es) ∧ InOrder (latest s es) fs t := by
  induction es generalizing s with
  | nil => exact (and_iff_right (Nat.le_refl s)).symm
  | cons e es ih =>
    rw [latest_cons]
    exact (and_congr_right fun _ => ih).trans and_assoc.symm

lemma step_congr (hm : l.maxWait = l'.maxWait)
    (hb : l.bucket.refill e.now = l'.bucket.refill e.now) : l.step e = l'.step e := by
  have htry : l.tryAcquire e.now = l'.tryAcquire e.now := by
    simp only [tryAcquire, Bucket.take, hb, hm]
  unfold step
  split
  · rw [htry]
  · rw [request, htry, request]
  · simp only [available, hb, hm]

lemma maxWait_step (l : Limiter R) (e : Event) : (l.step e).2.maxWait = l.maxWait := by
  obtain ⟨now, ask⟩ := e
  cases ask with
  | request => exact (request_limiter l now).symm ▸ rfl
  | tryAcquire | available => rfl

lemma Effect.eq_refill {b b' : Bucket R} {now : Nat} (h : Effect b now false b') :
    b' = b.refill now := by
  cases h
  rfl

lemma step_of_not_granted (h : (l.step e).1.granted = false) :
    (l.step e).2 = { l with bucket := l.bucket.refill e.now } := by
  have heffect := step_effect l e
  rw [h] at heffect
  rw [← maxWait_step l e, ← heffect.eq_refill]

end

variable {l l' : Limiter ℚ} {s t : Nat} {e : Event} {es fs : List Event} {as : List (Answer ℚ)}

structure Alike (s : Nat) (l l' : Limiter ℚ) : Prop where
  maxWait : l.maxWait = l'.maxWait
  refill : ∀ t, s ≤ t → l.bucket.refill t = l'.bucket.refill t

lemma Alike.probe (h : Alike s l l') (hl : l.bucket.Sound s) (hs : s ≤ e.now)
    (he : (l.step e).1.granted = false) : Alike e.now (l.step e).2 l' := by
  rw [step_of_not_granted he]
  refine ⟨h.maxWait, fun t ht => ?_⟩
  have hl' : l.bucket.Sound e.now := { hl with refilled_le := Nat.le_trans hl.refilled_le hs }
  exact (hl'.refill_refill ht).trans (h.refill t (Nat.le_trans hs ht))

lemma Interspersed.alike (h : Interspersed l es fs as) (ha : Alike s l l')
    (hl : l.bucket.Sound s) (hf : InOrder s fs t) :
    as = l'.answers es ∧ Alike t (l.run fs) (l'.run es) := by
  induction h generalizing l' s with
  | done => exact ⟨rfl, ha.maxWait, fun u hu => ha.refill u (Nat.le_trans hf hu)⟩
  | @kept l e es fs as _ ih =>
    obtain ⟨hs, hrest⟩ := hf
    have hstep : l.step e = l'.step e := step_congr ha.maxWait (ha.refill e.now hs)
    have hsame : Alike e.now (l.step e).2 (l'.step e).2 := hstep ▸ ⟨rfl, fun _ _ => rfl⟩
    obtain ⟨has, hend⟩ := ih hsame ((step_effect l e).sound hl hs) hrest
    exact ⟨by rw [answers, has, hstep], hend⟩
  | @probe l e es fs as he _ ih =>
    obtain ⟨hs, hrest⟩ := hf
    exact ih (ha.probe hl hs he) ((step_effect l e).sound hl hs) hrest

lemma refilled_run (hl : l.bucket.refilled = s) : (l.run es).bucket.refilled = latest s es := by
  induction es generalizing l s with
  | nil => exact hl
  | cons e es ih =>
    rw [latest_cons]
    exact ih (step_effect l e).keeps.2.2

lemma tokens_of_grants_eq_zero (hl : l.bucket.Sound s) (hr : l.bucket.refilled = s)
    (hf : InOrder s fs t) (hfs : l.grants fs = 0) :
    ((l.run fs).available t).1 = min l.bucket.capacity (l.bucket.tokens + l.bucket.inflow s t) := by
  obtain ⟨-, hend⟩ := (interspersed_of_grants_eq_zero hfs).alike ⟨rfl, fun _ _ => rfl⟩ hl hf
  calc ((l.run fs).available t).1 = ((l.run fs).bucket.refill t).tokens := rfl
    _ = (l.bucket.refill t).tokens := congrArg Bucket.tokens (hend.refill t (Nat.le_refl t))
    _ = min l.bucket.capacity (l.bucket.tokens + l.bucket.inflow s t) := by
      rw [Bucket.tokens_refill (hr ▸ le_of_inOrder hf), hr, min_comm]

theorem probes_change_no_answer {c : RateLimit} {start t : Nat} {l : Limiter ℚ}
    (hl : ofConfig c start = .ok l) {fs : List Event} (hf : InOrder start fs t) :
    (∀ es as, Interspersed l es fs as → as = l.answers es) ∧
    ∀ before after, fs = before ++ after → (l.run before).grants after = 0 →
      ((l.run fs).available t).1 = min (c.capacity.toNat : ℚ)
        ((l.run before).bucket.tokens + c.accrued (latest start before) t) := by
  have hfull := ofConfig_eq_ok hl
  have hstart : l.bucket.Sound start := hfull ▸ Bucket.sound_full c start
  refine ⟨fun es as h => (h.alike ⟨rfl, fun _ _ => rfl⟩ hstart hf).1, ?_⟩
  rintro before after rfl hnone
  obtain ⟨hbefore, hafter⟩ := inOrder_append.mp hf
  have hrefilled : (l.run before).bucket.refilled = latest start before :=
    refilled_run (by rw [hfull]; rfl)
  have hcapacity : (l.run before).bucket.capacity = c.capacity.toNat := by
    rw [(run_keeps l before).1, hfull]
    rfl
  have hinflow : (l.run before).bucket.inflow (latest start before) t =
      c.accrued (latest start before) t := by
    unfold Bucket.inflow
    rw [(run_keeps l before).2, ← c.inflow_full c.capacity.toNat start, hfull]
    rfl
  rw [run_append, tokens_of_grants_eq_zero (run_sound hstart hbefore) hrefilled hafter hnone,
    hcapacity, hinflow]

/-- Asks that empty the bucket, find it empty, and come back when it has long been full. -/
def visits : List Event :=
  [⟨0, .tryAcquire⟩, ⟨0, .request⟩, ⟨250000000, .request⟩, ⟨2100000000, .tryAcquire⟩,
    ⟨2200000000, .available⟩]

def lookAround : List Event := [⟨100000000, .available⟩, ⟨200000000, .tryAcquire⟩]

def watchedVisits : List Event :=
  [⟨0, .tryAcquire⟩, ⟨0, .request⟩] ++ lookAround ++ [⟨250000000, .request⟩,
    ⟨1000000000, .available⟩, ⟨2000000000, .available⟩, ⟨2100000000, .tryAcquire⟩,
    ⟨2200000000, .available⟩]

theorem watched_visits_are_answered_alike :
    ofConfig threePerSecond 0 = .ok twoTokens ∧ InOrder 0 watchedVisits 2300000000 ∧
    (∃ as, Interspersed twoTokens visits watchedVisits as ∧ as = twoTokens.answers visits) ∧
    (twoTokens.run (watchedVisits.take 8)).grants (watchedVisits.drop 8) = 0 ∧
    ((twoTokens.run watchedVisits).available 2300000000).1 = min (threePerSecond.capacity.toNat : ℚ)
      ((twoTokens.run (watchedVisits.take 8)).bucket.tokens +
        threePerSecond.accrued (latest 0 (watchedVisits.take 8)) 2300000000) := by
  have hl : ofConfig threePerSecond 0 = .ok twoTokens := rfl
  have horder : InOrder 0 watchedVisits 2300000000 := by decide
  have hgrants : (twoTokens.run (watchedVisits.take 8)).grants (watchedVisits.drop 8) = 0 := by
    decide +kernel
  have hprobes : Interspersed twoTokens visits watchedVisits _ :=
    .kept (.kept (.probe (by decide +kernel) (.probe (by decide +kernel) (.kept
      (.probe (by decide +kernel) (.probe (by decide +kernel) (.kept (.kept .done))))))))
  obtain ⟨hanswers, hcontent⟩ := probes_change_no_answer hl horder
  exact ⟨hl, horder, ⟨_, hprobes, hanswers visits _ hprobes⟩, hgrants,
    hcontent _ _ (List.take_append_drop 8 watchedVisits).symm hgrants⟩

end Limiter

end Resilience
