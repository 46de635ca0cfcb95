import Resilience.Await
import Resilience.Proofs.Bucket.Traffic
import Resilience.Proofs.Call.Acquire

/-! The longest wait of a limiter. A caller who finds no token is turned away if the next one takes
longer than the longest wait; else he sleeps until then and asks again. Somebody else may have taken
the token meanwhile, so the longest wait bounds each of his waits, but not their sum: after `k`
waits he has been there for up to `k` times as long, and nothing bounds `k`. -/

namespace Resilience

namespace Instant

/-- A timer for `x` fires on a whole millisecond, and the clock moves on by whole milliseconds. -/
def granularity : Nat := 2 * millisecond

end Instant

namespace Clock

variable {c : Clock} {x : Nat} {d : Duration}

lemma now_jump (c : Clock) (t : Nat) :
    (c.jump t).now = c.now + (t - c.now / 1000000) * 1000000 := rfl

lemma tick_jump (c : Clock) (t : Nat) : (c.jump t).tick = (c.jump t).now / 1000000 := rfl

lemma now_jump_lt (h : c.now ≤ x) :
    (c.jump (Instant.ceilTick x)).now < x + Instant.granularity := by
  rw [now_jump, Instant.ceilTick, Instant.granularity, Instant.millisecond]
  omega

lemma now_jump_eq (h : c.tick * 1000000 = c.now) (hx : c.now ≤ x) (hd : 1000000 ∣ x) :
    (c.jump (Instant.ceilTick x)).now = x := by
  have hnow := now_jump c (Instant.ceilTick x)
  have hceil : Instant.ceilTick x = (x + 999999) / 1000000 := rfl
  omega

lemma tick_jump_mul {t : Nat} (h : c.tick * 1000000 = c.now) :
    (c.jump t).tick * 1000000 = (c.jump t).now := by
  rw [tick_jump, now_jump, ← h]
  exact Nat.div_mul_cancel (Nat.dvd_add (Nat.dvd_mul_left ..) (Nat.dvd_mul_left ..))

lemma wake_eq (h : c.now + d.nanos < Instant.horizon) : c.wake d = c.now + d.nanos := by
  simp [wake, deadline?, h]

end Clock

namespace Limiter

variable {R : Type} [Scalar R] {l : Limiter R} {now : Nat} {limit d : Duration}

lemma maxWait_request (l : Limiter R) (now : Nat) : (l.request now).2.maxWait = l.maxWait := by
  rw [request_limiter]
  rfl

lemma wait_le_maxWait (hmax : l.maxWait = some limit) (h : (l.request now).1 = .wait d) :
    d ≤ limit := by
  cases ht : (l.tryAcquire now).1 with
  | true => simp [request_of_taken ht] at h
  | false =>
    rw [request_of_not_taken ht, hmax] at h
    by_cases hlt : limit < l.shortfall now
    · simp [hlt] at h
    · obtain rfl : l.shortfall now = d := by simpa [hlt] using h
      exact Nat.le_of_not_lt hlt

lemma maxWait_lt_of_refused (hmax : l.maxWait = some limit)
    (h : (l.request now).1 = .refused d) : limit < d := by
  cases ht : (l.tryAcquire now).1 with
  | true => simp [request_of_taken ht] at h
  | false =>
    rw [request_of_not_taken ht, hmax] at h
    by_cases hlt : limit < l.shortfall now
    · obtain rfl : l.shortfall now = d := by simpa [hlt] using h
      exact hlt
    · simp [hlt] at h

end Limiter

namespace Call

variable {β ι ε : Type} {id k wake : Nat} {x : Context} {w v u : World ε} {us : List (World ε)}
  {q : Queue} {limit : Duration}

def Queue.ofGrant (k : Clock) : Grant → Queue
  | .taken => .served
  | .refused d => .failed (.rateLimited d)
  | .wait d => .wait (k.wake d)

lemma queue_of_request {g : Grant} {l : Limiter Float} (he : w.err x = none)
    (hg : (w.limiter id).request w.now = (g, l)) :
    queue id x w =
      (.ofGrant w.clock g, { w with limiters := w.limiters.setIfInBounds id l }) := by
  rw [queue, he, World.request, hg]
  cases g <;> rfl

lemma maxWait_setIfInBounds {l : Limiter Float} (hl : l.maxWait = (w.limiter id).maxWait) :
    (World.limiter { w with limiters := w.limiters.setIfInBounds id l } id).maxWait =
      (w.limiter id).maxWait := by
  by_cases hid : id < w.limiters.size
  · simpa [World.limiter, hid] using hl
  · simp [World.limiter, hid]

structure Round (id : Nat) (limit : Duration) (w : World ε) (q : Queue) (v : World ε) : Prop where
  now : v.now = w.now
  maxWait : (v.limiter id).maxWait = some limit
  wait_le : ∀ wake, q = .wait wake → wake ≤ w.now + limit.nanos
  lt_refused : ∀ d, q = .failed (.rateLimited d) → limit < d

lemma round_of_queue (hmax : (w.limiter id).maxWait = some limit)
    (hnow : w.now + limit.nanos < Instant.horizon) (h : queue id x w = (q, v)) :
    Round id limit w q v := by
  cases he : w.err x with
  | some r =>
    rw [queue, he] at h
    cases h
    exact ⟨rfl, hmax, by simp, by simp⟩
  | none =>
    rcases hg : (w.limiter id).request w.now with ⟨g, l⟩
    have hl : l.maxWait = (w.limiter id).maxWait := by
      rw [← Limiter.maxWait_request (w.limiter id) w.now, hg]
    rw [queue_of_request he hg] at h
    cases h
    refine ⟨rfl, (maxWait_setIfInBounds hl).trans hmax, fun wake hq => ?_, fun d hq => ?_⟩
    · cases g with
      | wait d =>
        cases hq
        have hle : d.nanos ≤ limit.nanos := Limiter.wait_le_maxWait hmax (congrArg Prod.fst hg)
        have hle' : w.now + d.nanos ≤ w.now + limit.nanos := Nat.add_le_add_left hle _
        have hwake : w.clock.wake d = w.now + d.nanos :=
          Clock.wake_eq (Nat.lt_of_le_of_lt hle' hnow)
        rwa [hwake]
      | _ => cases hq
    · cases g with
      | refused d =>
        cases hq
        exact Limiter.maxWait_lt_of_refused hmax (congrArg Prod.fst hg)
      | _ => cases hq

/-- The caller is looked at when his timer fires, and nobody changes the longest wait. -/
structure Prompt (id : Nat) (limit : Duration) (wake : Nat) (v u : World ε) : Prop where
  now_le : u.now ≤ wake + Instant.granularity
  maxWait : (u.limiter id).maxWait = (v.limiter id).maxWait
  representable : u.now + limit.nanos < Instant.horizon

def patienceFor (limit : Duration) (k : Nat) : Nat := k * (limit.nanos + Instant.granularity)

lemma patienceFor_succ (limit : Duration) (k : Nat) :
    patienceFor limit (k + 1) = patienceFor limit k + (limit.nanos + Instant.granularity) :=
  Nat.succ_mul k _

/-- What `limit` guarantees to a caller who came at `since` and has slept `k` times. -/
structure Within (id : Nat) (limit : Duration) (since k : Nat) (q : Queue) (v : World ε) :
    Prop where
  maxWait : (v.limiter id).maxWait = some limit
  awake : (∀ wake, q ≠ .wait wake) → v.now ≤ since + patienceFor limit k
  asleep : ∀ wake, q = .wait wake → v.now ≤ since + patienceFor limit (k + 1) ∧
    wake ≤ since + patienceFor limit k + limit.nanos
  lt_refused : ∀ d, q = .failed (.rateLimited d) → limit < d

lemma Round.within {since : Nat} (hr : Round id limit w q v)
    (hw : w.now ≤ since + patienceFor limit k) : Within id limit since k q v where
  maxWait := hr.maxWait
  awake _ := hr.now ▸ hw
  asleep wake hq := by
    have hwake := hr.wait_le wake hq
    have hnow := hr.now
    have hsucc := patienceFor_succ limit k
    omega
  lt_refused := hr.lt_refused

lemma Acquire.within (hmax : (w.limiter id).maxWait = some limit)
    (hw : w.now + limit.nanos < Instant.horizon)
    (h : Acquire (Prompt id limit) id x w k us q v) : Within id limit w.now k q v := by
  induction h with
  | begun hq => exact (round_of_queue hmax hw hq).within (Nat.le_add_right ..)
  | @asleep k wake us v u _ hm _ ih =>
    obtain ⟨_, hwake⟩ := ih.asleep wake rfl
    have hnow := hm.now_le
    have hsucc := patienceFor_succ limit k
    have hmax' := hm.maxWait.trans ih.maxWait
    refine ⟨hmax', fun hq => absurd rfl (hq wake), fun wake' hq => ?_, by simp⟩
    cases hq
    exact ⟨by omega, hwake⟩
  | @ended k wake us v u r _ hm _ ih =>
    obtain ⟨_, hwake⟩ := ih.asleep wake rfl
    have hnow := hm.now_le
    have hsucc := patienceFor_succ limit k
    exact ⟨hm.maxWait.trans ih.maxWait, fun _ => by omega, by simp, by simp⟩
  | @again k wake us v u _ _ _ hm _ _ hq ih =>
    obtain ⟨_, hwake⟩ := ih.asleep wake rfl
    have hnow := hm.now_le
    have hsucc := patienceFor_succ limit k
    have hround := round_of_queue (hm.maxWait.trans ih.maxWait) hm.representable hq
    exact hround.within (by omega)

theorem each_wait_is_within_max_wait (work : Work β ι ε) (rest : List (Layer ε)) (body : β)
    (id : Nat) (x : Context) (w : World ε) (limit : Duration)
    (hmax : (w.limiter id).maxWait = some limit)
    (hw : w.now + limit.nanos < Instant.horizon) (ws : List (World ε)) (s : Step β ι ε) :
    (Run work (Meanwhile.others (Prompt id limit)) (start work (.limiter id :: rest) body x w)
        ws s ↔ ∃ k us us' q v, ws = us ++ us' ∧ Acquire (Prompt id limit) id x w k us q v ∧
      Run work (Meanwhile.others (Prompt id limit)) (proceed work id x rest body (q, v)) us' s ∧
      (us' = [] ∨ q = .served)) ∧
    ∀ k us q v, Acquire (Prompt id limit) id x w k us q v → Within id limit w.now k q v :=
  ⟨run_limited_iff, fun _ _ _ _ ha => ha.within hmax hw⟩

def brisk (emptied : Nat) : Limiter Float :=
  ⟨⟨Scalar.ofNat 0, emptied, Scalar.ofNat 1, Scalar.ofNat 10⟩, some (.ofMillis 150)⟩

lemma brisk_full {t now : Nat} (h : now = t + 100000000) :
    (brisk t).tryAcquire now = (true, brisk now) := by
  have helapsed : now - t = 100000000 := by omega
  have hone : Scalar.least ((Scalar.ofNat 0 : Float) + Scalar.seconds 100000000 * Scalar.ofNat 10)
      (Scalar.ofNat 1) = Scalar.ofNat 1 := by decide +kernel
  have hle : (Scalar.ofNat 1 - Bucket.epsilon : Float) ≤ Scalar.ofNat 1 := by decide +kernel
  have hzero : Scalar.greatest ((Scalar.ofNat 1 : Float) - Scalar.ofNat 1) (Scalar.ofNat 0) =
      Scalar.ofNat 0 := by decide +kernel
  simp only [Limiter.tryAcquire, Bucket.take, Bucket.refill, brisk, helapsed, hone, hzero,
    if_pos hle]

lemma brisk_empty (t : Nat) : (brisk t).tryAcquire t = (false, brisk t) := by
  have hzero : Scalar.least ((Scalar.ofNat 0 : Float) + Scalar.seconds 0 * Scalar.ofNat 10)
      (Scalar.ofNat 1) = Scalar.ofNat 0 := by decide +kernel
  have hle : ¬ (Scalar.ofNat 1 - Bucket.epsilon : Float) ≤ Scalar.ofNat 0 := by decide +kernel
  simp only [Limiter.tryAcquire, Bucket.take, Bucket.refill, brisk, Nat.sub_self, hzero,
    if_neg hle]

lemma brisk_request (t : Nat) : (brisk t).request t = (.wait (.ofMillis 100), brisk t) := by
  have hempty := brisk_empty t
  have hwait : (brisk t).shortfall t = .ofMillis 100 := by
    have h : max ((Scalar.toDuration? (((Scalar.ofNat 1 : Float) - Scalar.ofNat 0) /
        Scalar.ofNat 10)).getD .longest) (.ofNanos 1) = .ofMillis 100 := by decide +kernel
    rw [Limiter.shortfall, hempty]
    exact h
  rw [Limiter.request_of_not_taken (congrArg Prod.fst hempty), hwait, hempty]
  rfl

structure Overtaken (id : Nat) (limit : Duration) (wake : Nat) (v u : World ε) : Prop
    extends Prompt id limit wake v u where
  taken : ∃ y, queue id y { v with clock := v.clock.jump (Instant.ceilTick wake) } = (.served, u)

structure Emptied (x : Context) (t : Nat) (w : World ε) : Prop where
  now : w.clock.now = t
  whole : w.clock.tick * 1000000 = t
  limiters : w.limiters = #[brisk t]
  live : w.cancellation.isCancelled x.token = false
  endless : x.deadline = none

namespace Emptied

variable {t : Nat}

lemma limiter (h : Emptied x t w) : w.limiter 0 = brisk t := by
  simp [World.limiter, h.limiters]

lemma err (h : Emptied x t w) (k : Clock) : x.err k w.cancellation = none := by
  simp [Context.err, h.live, h.endless]

lemma asked (h : Emptied x t w) (hwake : wake = t + 100000000) (hn : wake < Instant.horizon) :
    queue 0 x w = (.wait wake, w) := by
  have hgrant : (w.limiter 0).request w.now = (.wait (.ofMillis 100), brisk t) := by
    rw [h.limiter, show w.now = t from h.now]
    exact brisk_request t
  have hkeep : w.limiters.setIfInBounds 0 (brisk t) = w.limiters := by simp [h.limiters]
  have hnanos : (Duration.ofMillis 100).nanos = 100000000 := by decide +kernel
  have hsleep : w.clock.wake (.ofMillis 100) = wake := by
    rw [Clock.wake_eq (by rw [h.now, hnanos, ← hwake]; exact hn), h.now, hnanos, hwake]
  rw [queue_of_request (h.err _) hgrant, hkeep, Queue.ofGrant, hsleep]

def robbed (w : World ε) (k : Clock) : World ε :=
  { w with clock := k, limiters := #[brisk k.now] }

lemma now_robbed (w : World ε) (k : Clock) : (robbed w k).now = k.now := rfl

lemma now_jump (h : Emptied x t w) (hwake : wake = t + 100000000) :
    (w.clock.jump (Instant.ceilTick wake)).now = wake := by
  have hnow := h.now
  have hwhole := h.whole
  exact Clock.now_jump_eq (hwhole.trans hnow.symm) (by omega) (by omega)

lemma after (h : Emptied x t w) {k : Clock} (hk : k.tick * 1000000 = k.now) :
    Emptied x k.now (robbed w k) where
  now := rfl
  whole := hk
  limiters := rfl
  live := h.live
  endless := h.endless

lemma next (h : Emptied x t w) (hwake : wake = t + 100000000) :
    Emptied x wake (robbed w (w.clock.jump (Instant.ceilTick wake))) := by
  have hnow := h.now_jump hwake
  have hafter := h.after (Clock.tick_jump_mul (t := Instant.ceilTick wake)
    (h.whole.trans h.now.symm))
  rwa [hnow] at hafter

lemma stolen (h : Emptied x t w) {k : Clock} (hk : k.now = t + 100000000) :
    queue 0 x { w with clock := k } = (.served, robbed w k) := by
  have hfull := brisk_full hk
  have hgrant : (w.limiter 0).request k.now = (.taken, brisk k.now) := by
    rw [h.limiter, Limiter.request_of_taken (congrArg Prod.fst hfull), hfull]
  have hput : w.limiters.setIfInBounds 0 (brisk k.now) = #[brisk k.now] := by simp [h.limiters]
  have hqueue := queue_of_request (w := { w with clock := k }) (h.err _) hgrant
  rw [hqueue]
  simp only [hput, Queue.ofGrant, robbed]

lemma overtaken (h : Emptied x t w) (hwake : wake = t + 100000000)
    (hn : wake + 150000000 < Instant.horizon) :
    Overtaken 0 (.ofMillis 150) wake w (robbed w (w.clock.jump (Instant.ceilTick wake))) where
  now_le := by
    have hle : w.clock.now ≤ wake := by
      rw [h.now]
      omega
    rw [now_robbed]
    exact Nat.le_of_lt (Clock.now_jump_lt hle)
  maxWait := by
    rw [h.limiter, (h.next hwake).limiter]
    rfl
  representable := by
    have hnanos : (Duration.ofMillis 150).nanos = 150000000 := by decide +kernel
    rw [now_robbed, h.now_jump hwake, hnanos]
    exact hn
  taken := ⟨x, h.stolen ((h.now_jump hwake).trans hwake)⟩

end Emptied

theorem overtaken_sleeps_on {t : Nat} (h : Emptied x t w) (n : Nat)
    (hn : t + 100000000 * (n + 1) + 150000000 < Instant.horizon) :
    ∃ us t' wake v, Acquire (Overtaken 0 (.ofMillis 150)) 0 x w n us (.wait wake) v ∧
      Emptied x t' v ∧ t' = t + 100000000 * n ∧ wake = t' + 100000000 := by
  induction n with
  | zero =>
    have hwake : t + 100000000 < Instant.horizon := by omega
    exact ⟨[], t, _, w, .begun (h.asked rfl hwake), h, by simp, rfl⟩
  | succ n ih =>
    have hle : t + 100000000 * (n + 1) ≤ t + 100000000 * (n + 1 + 1) :=
      Nat.add_le_add_left (Nat.mul_le_mul_left _ (Nat.le_succ _)) t
    obtain ⟨us, t', wake, v, ha, hv, ht', hwake⟩ :=
      ih (Nat.lt_of_le_of_lt (Nat.add_le_add_right hle _) hn)
    have hsum : wake = t + 100000000 * (n + 1) := by
      rw [hwake, ht', Nat.mul_succ, Nat.add_assoc]
    rw [Nat.mul_succ, ← Nat.add_assoc, ← hsum] at hn
    have hv' := hv.next hwake
    have hovertaken := hv.overtaken hwake (by omega)
    generalize Emptied.robbed v _ = u at hv' hovertaken
    have hwoken : u.clock.passed wake = true := by
      simp [Clock.passed, Instant.millisecond, hv'.whole]
    have hlive : u.noticed x = none := Context.noticed_eq_none_of_err (hv'.err _)
    have hasked := hv'.asked rfl (by omega)
    exact ⟨_, wake, _, u, ha.again hovertaken hlive hwoken hasked, hv', hsum, rfl⟩

def carefree : Context := ⟨⟨0, []⟩, none⟩

def drained : World Unit := { still with limiters := #[brisk 0] }

theorem twice_overtaken_still_waits :
    (drained.limiter 0).maxWait = some (.ofMillis 150) ∧
    drained.now + (Duration.ofMillis 150).nanos < Instant.horizon ∧
    ∃ us wake v, v.now = 200000000 ∧
      Run (failing .aborted) (Meanwhile.others (Prompt 0 (.ofMillis 150)))
        (start (failing .aborted) [.limiter 0] () carefree drained) us
        (.pending (.queueing 0 carefree wake [] ()), v) ∧
      Within 0 (.ofMillis 150) drained.now 2 (.wait wake) v := by
  have hmax : (drained.limiter 0).maxWait = some (.ofMillis 150) := rfl
  have hw : drained.now + (Duration.ofMillis 150).nanos < Instant.horizon := by decide +kernel
  have hstart : Emptied carefree 0 drained := ⟨rfl, rfl, rfl, rfl, rfl⟩
  obtain ⟨us, t, wake, v, ha, hv, ht, -⟩ := overtaken_sleeps_on hstart 2 (by decide +kernel)
  have hprompt : Acquire (Prompt 0 (.ofMillis 150)) 0 carefree drained 2 us (.wait wake) v :=
    ha.imp Overtaken.toPrompt
  have hnow : v.now = 200000000 := by
    rw [show v.now = t from hv.now, ht]
  exact ⟨hmax, hw, us, wake, v, hnow, hprompt.run,
    (each_wait_is_within_max_wait (failing .aborted) [] () 0 carefree drained (.ofMillis 150)
      hmax hw us (.pending (.queueing 0 carefree wake [] ()), v)).2 2 us _ v hprompt⟩

def stamping : Work Unit Empty (List Nat) where
  start _ _ a := (.done (.ok ()), a.record (· ++ [a.now]))
  resume i _ := nomatch i
  abandon i _ := nomatch i
  ready i _ := nomatch i
  timers i := nomatch i

def oneByOne : World (List Nat) where
  clock := .start
  cancellation := { fresh := 1 }
  notes := []
  limiters := #[⟨.full 1 (Scalar.ofNat 10) 0, some (.ofMillis 150)⟩]
  breakers := #[]

def rush (w : World (List Nat)) (callers : Nat) : List Nat :=
  let m : Machine Unit Empty (List Nat) := { w with gates := #[], jobs := #[], deliveries := 0 }
  let (jobs, m) := m.launchAll none (List.replicate callers (lone.wrap (.limiter 0))) carefree
  (Wait.finish stamping (m.joinAll stamping jobs)).2.notes

theorem max_wait_exceeded_in_rush :
    ¬ ∀ (w : World (List Nat)) (limit : Duration) (callers : Nat), w.notes = [] →
      (w.limiter 0).maxWait = some limit →
      ∀ t ∈ rush w callers, t ≤ w.now + limit.nanos + Instant.granularity := by
  intro h
  have hrush : rush oneByOne 3 = [0, 100000000, 200000000] := by decide +kernel
  have hlate := h oneByOne (.ofMillis 150) 3 rfl rfl 200000000 (by rw [hrush]; simp)
  revert hlate
  decide +kernel

end Call

end Resilience
