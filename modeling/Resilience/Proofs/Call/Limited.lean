import Resilience.Proofs.Call.MaxWait

namespace Resilience

namespace Bucket

lemma wait_pos {R : Type} [Scalar R] (b : Bucket R) : 0 < b.wait.nanos := by
  have hone : 0 < (Duration.ofNanos 1).nanos := Nat.one_pos
  unfold wait
  generalize (Scalar.toDuration? ((Scalar.ofNat 1 - b.tokens) / b.rate)).getD .longest = d
  change 0 < (if d ≤ .ofNanos 1 then .ofNanos 1 else d : Duration).nanos
  split
  · exact hone
  · rename_i hd
    rw [Duration.le_def] at hd
    omega

end Bucket

lemma Clock.now_lt_wake {c : Clock} {d : Duration} (h : 0 < d.nanos) : c.now < c.wake d := by
  unfold wake deadline?
  split
  · exact Nat.lt_add_of_pos_right h
  · exact Nat.lt_add_of_pos_right (by decide)

lemma Duration.any_lt_eq_false {m : Option Duration} {d : Duration} :
    m.any (· < d) = false ↔ ∀ limit ∈ m, d ≤ limit := by
  cases m <;> simp [le_def, lt_def]

def World.withBucket {ε : Type} (w : World ε) (id : Nat) (b : Bucket Float) : World ε :=
  { w with limiters := w.limiters.setIfInBounds id { w.limiter id with bucket := b } }

namespace Call

variable {β ι ε : Type}

def anytime : Meanwhile ε := fun _ _ _ => True

/-- A caller looks at a limiter: what he finds, whether he takes a token, what he makes of it, and
what he leaves. -/
structure Look (ε : Type) where
  found : World ε
  taken : Bool
  answer : Queue
  left : World ε

inductive Look.Genuine (id : Nat) (x : Context) : Look ε → Prop
  | ended {w : World ε} {r : Reason} : w.err x = some r →
      Genuine id x ⟨w, false, .failed (.cancelled r), w⟩
  | served {w : World ε} {b : Bucket Float} : w.err x = none →
      (w.limiter id).bucket.take w.now = (true, b) →
      Genuine id x ⟨w, true, .served, w.withBucket id b⟩
  | refused {w : World ε} {b : Bucket Float} {limit : Duration} : w.err x = none →
      (w.limiter id).bucket.take w.now = (false, b) → (w.limiter id).maxWait = some limit →
      limit < b.wait → Genuine id x ⟨w, false, .failed (.rateLimited b.wait), w.withBucket id b⟩
  | sleeps {w : World ε} {b : Bucket Float} : w.err x = none →
      (w.limiter id).bucket.take w.now = (false, b) →
      (∀ limit ∈ (w.limiter id).maxWait, b.wait ≤ limit) →
      Genuine id x ⟨w, false, .wait (w.clock.wake b.wait), w.withBucket id b⟩

inductive Look.Leaves (id : Nat) : Look ε → Prop
  | untouched {w : World ε} {q : Queue} : Leaves id ⟨w, false, q, w⟩
  | bucket {w : World ε} {taken : Bool} {q : Queue} {b : Bucket Float} :
      Limiter.Effect (w.limiter id).bucket w.now taken b →
      Leaves id ⟨w, taken, q, w.withBucket id b⟩

/-- A caller who began in `w` comes to `q` in `v` after the listed looks. -/
inductive Acquired (id : Nat) (x : Context) (w : World ε) :
    List (World ε) → List (Look ε) → Queue → World ε → Prop
  | begun {taken : Bool} {q : Queue} {v : World ε} : Look.Genuine id x ⟨w, taken, q, v⟩ →
      Acquired id x w [] [⟨w, taken, q, v⟩] q v
  | asleep {us : List (World ε)} {looks : List (Look ε)} {wake : Nat} {v u : World ε} :
      Acquired id x w us looks (.wait wake) v → Unfinished x wake u →
      Acquired id x w (us ++ [u]) looks (.wait wake) u
  | ended {us : List (World ε)} {looks : List (Look ε)} {wake : Nat} {v u : World ε} {r : Reason} :
      Acquired id x w us looks (.wait wake) v → u.noticed x = some r →
      Acquired id x w (us ++ [u]) looks (.failed (.cancelled r)) u
  | again {us : List (World ε)} {looks : List (Look ε)} {wake : Nat} {v u v' : World ε}
      {taken : Bool} {q : Queue} : Acquired id x w us looks (.wait wake) v → u.noticed x = none →
      u.clock.passed wake = true → Look.Genuine id x ⟨u, taken, q, v'⟩ →
      Acquired id x w (us ++ [u]) (looks ++ [⟨u, taken, q, v'⟩]) q v'

section

variable {id k : Nat} {x : Context} {w v : World ε} {us : List (World ε)} {looks : List (Look ε)}
  {q : Queue} {a : Look ε}

lemma queue_of_taken {b : Bucket Float} (he : w.err x = none)
    (ht : (w.limiter id).bucket.take w.now = (true, b)) :
    queue id x w = (.served, w.withBucket id b) := by
  have htry : (w.limiter id).tryAcquire w.now = (true, { w.limiter id with bucket := b }) := by
    rw [Limiter.tryAcquire, ht]
  have hg := Limiter.request_of_taken (congrArg Prod.fst htry)
  rw [htry] at hg
  exact queue_of_request he hg

lemma queue_of_not_taken {b : Bucket Float} (he : w.err x = none)
    (ht : (w.limiter id).bucket.take w.now = (false, b)) :
    queue id x w = (if (w.limiter id).maxWait.any (· < b.wait) then .failed (.rateLimited b.wait)
      else .wait (w.clock.wake b.wait), w.withBucket id b) := by
  have htry : (w.limiter id).tryAcquire w.now = (false, { w.limiter id with bucket := b }) := by
    rw [Limiter.tryAcquire, ht]
  have hg := Limiter.request_of_not_taken (congrArg Prod.fst htry)
  rw [Limiter.shortfall, htry] at hg
  rw [queue_of_request he hg]
  cases (w.limiter id).maxWait.any (· < b.wait) <;> rfl

lemma exists_look (h : queue id x w = (q, v)) :
    ∃ taken, Look.Genuine id x ⟨w, taken, q, v⟩ := by
  cases he : w.err x with
  | some r =>
    rw [queue, he] at h
    cases h
    exact ⟨false, .ended he⟩
  | none =>
    rcases ht : (w.limiter id).bucket.take w.now with ⟨_ | _, b⟩
    · rw [queue_of_not_taken he ht] at h
      cases hany : (w.limiter id).maxWait.any (· < b.wait) with
      | false =>
        rw [hany] at h
        cases h
        exact ⟨false, .sleeps he ht (Duration.any_lt_eq_false.mp hany)⟩
      | true =>
        rw [hany] at h
        cases h
        obtain ⟨limit, hmax, hlt⟩ := (Option.any_eq_true ..).mp hany
        exact ⟨false, .refused he ht hmax (of_decide_eq_true hlt)⟩
    · rw [queue_of_taken he ht] at h
      cases h
      exact ⟨true, .served he ht⟩

lemma Look.Genuine.queue_eq (h : a.Genuine id x) : queue id x a.found = (a.answer, a.left) := by
  cases h with
  | ended he => rw [queue, he]
  | served he ht => exact queue_of_taken he ht
  | refused he ht hmax hlt => simp [queue_of_not_taken he ht, hmax, hlt]
  | sleeps he ht hle =>
    rw [queue_of_not_taken he ht, Duration.any_lt_eq_false.mpr hle]
    rfl

lemma Acquire.exists_looks (h : Acquire anytime id x w k us q v) :
    ∃ looks, Acquired id x w us looks q v := by
  induction h with
  | begun hq =>
    obtain ⟨_, hg⟩ := exists_look hq
    exact ⟨_, .begun hg⟩
  | asleep _ _ hu ih =>
    obtain ⟨_, ha⟩ := ih
    exact ⟨_, ha.asleep hu⟩
  | ended _ _ hn ih =>
    obtain ⟨_, ha⟩ := ih
    exact ⟨_, ha.ended hn⟩
  | again _ _ hn hw hq ih =>
    obtain ⟨_, ha⟩ := ih
    obtain ⟨_, hg⟩ := exists_look hq
    exact ⟨_, ha.again hn hw hg⟩

lemma Acquired.acquire (h : Acquired id x w us looks q v) :
    ∃ k, Acquire anytime id x w k us q v := by
  induction h with
  | begun hg => exact ⟨0, .begun hg.queue_eq⟩
  | asleep _ hu ih =>
    obtain ⟨k, ha⟩ := ih
    exact ⟨k, ha.asleep trivial hu⟩
  | ended _ hn ih =>
    obtain ⟨k, ha⟩ := ih
    exact ⟨k + 1, ha.ended trivial hn⟩
  | again _ hn hw hg ih =>
    obtain ⟨k, ha⟩ := ih
    exact ⟨k + 1, ha.again trivial hn hw hg.queue_eq⟩

end

/-- By `t` a caller who went to sleep at a look has slept until a later instant than that. -/
def Look.SleptBy (a : Look ε) (t : Nat) : Prop :=
  ∃ wake, a.answer = .wait wake ∧ a.found.now < wake ∧ wake ≤ t

inductive Look.Decides (x : Context) (w : World ε) (us : List (World ε)) (a : Look ε) :
    Queue → World ε → Prop
  | answered {q : Queue} {v : World ε} : a.answer = q → a.left = v →
      (w :: us).getLast? = some a.found → Decides x w us a q v
  | asleep {wake : Nat} {v : World ε} : a.answer = .wait wake → Decides x w us a (.wait wake) v
  | ended {wake : Nat} {v : World ε} {r : Reason} : a.answer = .wait wake →
      (w :: us).getLast? = some v → v.noticed x = some r →
      Decides x w us a (.failed (.cancelled r)) v

namespace Look

variable {id wake : Nat} {x : Context} {w v : World ε} {us : List (World ε)} {a : Look ε}

lemma countP_taken {looks : List (Look ε)} (h : ∀ a ∈ looks, a.taken = false) :
    looks.countP (·.taken) = 0 :=
  List.countP_eq_zero.mpr fun a ha => Bool.eq_false_iff.mp (h a ha)

lemma SleptBy.later {t t' : Nat} (h : a.SleptBy t) (ht : t ≤ t') : a.SleptBy t' := by
  obtain ⟨wake, hwait, hlt, hle⟩ := h
  exact ⟨wake, hwait, hlt, Nat.le_trans hle ht⟩

lemma Decides.eq_wait (h : a.Decides x w us (.wait wake) v) : a.answer = .wait wake := by
  cases h with
  | answered ha _ _ | asleep ha => exact ha

namespace Genuine

lemma taken_iff (h : a.Genuine id x) : a.taken = true ↔ a.answer = .served := by
  cases h <;> simp

lemma not_taken (h : a.Genuine id x) (ha : a.answer ≠ .served) : a.taken = false :=
  Bool.eq_false_iff.mpr fun ht => ha (h.taken_iff.mp ht)

lemma err (h : a.Genuine id x) (ht : a.taken = true) : a.found.err x = none := by
  cases h with
  | served he _ => exact he
  | _ => cases ht

lemma of_err {r : Reason} (h : a.Genuine id x) (he : a.found.err x = some r) :
    a.answer = .failed (.cancelled r) ∧ a.left = a.found := by
  cases h with
  | ended he' =>
    cases he.symm.trans he'
    exact ⟨rfl, rfl⟩
  | served he' _ | refused he' _ _ _ | sleeps he' _ _ => cases he.symm.trans he'

lemma effect (h : a.Genuine id x) (he : a.found.err x = none) :
    ∃ b, Limiter.Effect (a.found.limiter id).bucket a.found.now a.taken b ∧
      a.left = a.found.withBucket id b := by
  have htake := Limiter.take_effect (a.found.limiter id).bucket a.found.now
  cases h with
  | ended he' => cases he.symm.trans he'
  | served _ ht | refused _ ht _ _ | sleeps _ ht _ =>
    rw [ht] at htake
    exact ⟨_, htake, rfl⟩

lemma leaves (h : a.Genuine id x) : a.Leaves id := by
  have htake := Limiter.take_effect (a.found.limiter id).bucket a.found.now
  cases h with
  | ended _ => exact .untouched
  | served _ ht | refused _ ht _ _ | sleeps _ ht _ =>
    rw [ht] at htake
    exact .bucket htake

lemma sleeps_for (h : a.Genuine id x) (ha : a.answer = .wait wake) :
    ∃ d, wake = a.found.clock.wake d ∧ 0 < d.nanos ∧
      ∀ limit ∈ (a.found.limiter id).maxWait, d ≤ limit := by
  cases h with
  | @sleeps w b _ _ hle =>
    cases ha
    exact ⟨b.wait, rfl, b.wait_pos, hle⟩
  | _ => cases ha

lemma now_lt (h : a.Genuine id x) (ha : a.answer = .wait wake) : a.found.now < wake := by
  obtain ⟨d, rfl, hd, _⟩ := h.sleeps_for ha
  exact Clock.now_lt_wake hd

lemma sleptBy (h : a.Genuine id x) (ha : a.answer = .wait wake) : a.SleptBy wake :=
  ⟨wake, ha, h.now_lt ha, Nat.le_refl wake⟩

lemma of_failed {e : Failure} (h : a.Genuine id x) (ha : a.answer = .failed e) :
    (∃ r, e = .cancelled r ∧ a.found.err x = some r) ∨
      ∃ d limit, e = .rateLimited d ∧ ((a.found.limiter id).tryAcquire a.found.now).1 = false ∧
        (a.found.limiter id).maxWait = some limit ∧ limit < d := by
  cases h with
  | @ended w r he =>
    cases ha
    exact .inl ⟨r, rfl, he⟩
  | @refused w b limit _ ht hmax hlt =>
    cases ha
    exact .inr ⟨b.wait, limit, rfl, congrArg Prod.fst ht, hmax, hlt⟩
  | _ => cases ha

end Genuine

end Look

namespace Acquired

variable {id : Nat} {x : Context} {w v : World ε} {us : List (World ε)} {looks : List (Look ε)}
  {q : Queue}

lemma genuine (h : Acquired id x w us looks q v) : ∀ a ∈ looks, a.Genuine id x := by
  induction h with
  | begun hg => exact List.forall_mem_singleton.mpr hg
  | asleep _ _ ih | ended _ _ ih => exact ih
  | again _ _ _ hg ih => exact List.forall_mem_append.mpr ⟨ih, List.forall_mem_singleton.mpr hg⟩

lemma decided (h : Acquired id x w us looks q v) : ∃ before a, looks = before ++ [a] ∧
    (∀ b ∈ before, ∃ wake, b.answer = .wait wake) ∧ a.Decides x w us q v := by
  induction h with
  | begun _ => exact ⟨[], _, rfl, List.forall_mem_nil _, .answered rfl rfl rfl⟩
  | asleep _ _ ih =>
    obtain ⟨before, a, hlooks, hbefore, ha⟩ := ih
    exact ⟨before, a, hlooks, hbefore, .asleep ha.eq_wait⟩
  | ended _ hn ih =>
    obtain ⟨before, a, hlooks, hbefore, ha⟩ := ih
    exact ⟨before, a, hlooks, hbefore, .ended ha.eq_wait (List.getLast?_concat (l := w :: _)) hn⟩
  | again _ _ _ _ ih =>
    obtain ⟨before, a, rfl, hbefore, ha⟩ := ih
    refine ⟨before ++ [a], _, rfl, ?_, .answered rfl rfl (List.getLast?_concat (l := w :: _))⟩
    exact List.forall_mem_append.mpr ⟨hbefore, List.forall_mem_singleton.mpr ⟨_, ha.eq_wait⟩⟩

lemma slept (h : Acquired id x w us looks q v) :
    looks.Pairwise (fun a b => a.SleptBy b.found.now) ∧
      ∀ wake, q = .wait wake → ∀ a ∈ looks, a.SleptBy wake := by
  induction h with
  | begun hg =>
    exact ⟨List.pairwise_singleton .., fun wake hq => List.forall_mem_singleton.mpr (hg.sleptBy hq)⟩
  | asleep _ _ ih => exact ih
  | ended _ _ ih => exact ⟨ih.1, nofun⟩
  | @again us looks wake _ u _ _ _ _ _ hw hg ih =>
    obtain ⟨hpairwise, hlooks⟩ := ih
    have hu : ∀ a ∈ looks, a.SleptBy u.now := fun a ha =>
      (hlooks wake rfl a ha).later (Clock.le_now_of_passed hw)
    refine ⟨List.pairwise_append.mpr ⟨hpairwise, List.pairwise_singleton .., fun a ha b hb => ?_⟩,
      fun next hq => List.forall_mem_append.mpr ⟨fun a ha => ?_, ?_⟩⟩
    · obtain rfl := List.mem_singleton.mp hb
      exact hu a ha
    · exact (hu a ha).later (Nat.le_of_lt (hg.now_lt hq))
    · exact List.forall_mem_singleton.mpr (hg.sleptBy hq)

lemma first (h : Acquired id x w us looks q v) :
    ∃ a later, looks = a :: later ∧ a.found = w := by
  induction h with
  | begun _ => exact ⟨_, [], rfl, rfl⟩
  | asleep _ _ ih | ended _ _ ih => exact ih
  | again _ _ _ _ ih =>
    obtain ⟨a, later, rfl, ha⟩ := ih
    exact ⟨a, later ++ [_], rfl, ha⟩

lemma not_taken (h : Acquired id x w us looks q v) (hq : q ≠ .served) :
    ∀ a ∈ looks, a.taken = false := by
  obtain ⟨before, a, rfl, hbefore, ha⟩ := h.decided
  refine fun b hb => (h.genuine b hb).not_taken ?_
  rcases List.mem_append.mp hb with hb | hb
  · obtain ⟨wake, hwait⟩ := hbefore b hb
    simp [hwait]
  · obtain rfl := List.mem_singleton.mp hb
    cases ha with
    | answered ha _ _ => rwa [ha]
    | asleep ha | ended ha _ _ => simp [ha]

lemma last (h : Acquired id x w us looks .served v) : ∃ before a,
    looks = before ++ [a] ∧ a.taken = true ∧ a.found.err x = none ∧ a.left = v ∧
      ∀ b ∈ before, b.taken = false := by
  have hgenuine := h.genuine
  obtain ⟨before, a, rfl, hbefore, ha⟩ := h.decided
  obtain ⟨hbefore', hg⟩ := List.forall_mem_append.mp hgenuine
  have hg : a.Genuine id x := List.forall_mem_singleton.mp hg
  cases ha with
  | answered hq hv _ =>
    have htaken := hg.taken_iff.mpr hq
    refine ⟨before, a, rfl, htaken, hg.err htaken, hv, fun b hb => ?_⟩
    obtain ⟨wake, hwait⟩ := hbefore b hb
    exact (hbefore' b hb).not_taken (by simp [hwait])

lemma done (h : Acquired id x w us looks q v) : ∀ a ∈ looks, ∀ r,
    a.found.err x = some r → q = .failed (.cancelled r) ∧ v = a.found := by
  have hgenuine := h.genuine
  obtain ⟨before, a, rfl, hbefore, ha⟩ := h.decided
  intro b hb r he
  obtain ⟨hanswer, hleft⟩ := (hgenuine b hb).of_err he
  have hwait {wake : Nat} (hw : b.answer = .wait wake) : False := by simp [hw] at hanswer
  rcases List.mem_append.mp hb with hb | hb
  · obtain ⟨wake, hw⟩ := hbefore b hb
    exact (hwait hw).elim
  · obtain rfl := List.mem_singleton.mp hb
    cases ha with
    | answered hq hv _ => exact ⟨hq.symm.trans hanswer, hv.symm.trans hleft⟩
    | asleep hw | ended hw _ _ => exact (hwait hw).elim

end Acquired

/-- What a limited call has come to: the looks of the caller, what he has made of them, the world he
has left, and the worlds in which the task below was called. -/
structure Passage (ε : Type) where
  looks : List (Look ε)
  answer : Queue
  left : World ε
  calls : List (World ε)

inductive Queueing (runs : Runs (List (World ε)) β ι ε) (id : Nat) (x : Context)
    (rest : List (Layer ε)) (body : β) : Runs (Passage ε) β ι ε
  | served {w v : World ε} {us ws calls : List (World ε)} {looks : List (Look ε)}
      {s : Step β ι ε} : Acquired id x w us looks .served v → runs v ws calls s →
      Queueing runs id x rest body w (us ++ ws) ⟨looks, .served, v, calls⟩ s
  | failed {w v : World ε} {us : List (World ε)} {looks : List (Look ε)} {e : Failure} :
      Acquired id x w us looks (.failed e) v →
      Queueing runs id x rest body w us ⟨looks, .failed e, v, []⟩ (.done (.error e), v)
  | waiting {w v : World ε} {us : List (World ε)} {looks : List (Look ε)} {wake : Nat} :
      Acquired id x w us looks (.wait wake) v →
      Queueing runs id x rest body w us ⟨looks, .wait wake, v, []⟩
        (.pending (.queueing id x wake rest body), v)

section

variable {work : Work β ι ε} {rest : List (Layer ε)} {body : β}
  {runs : Runs (List (World ε)) β ι ε} {id wake : Nat} {x : Context} {w v u : World ε}
  {us ws : List (World ε)} {looks : List (Look ε)} {q : Queue} {p : Passage ε} {s : Step β ι ε}

lemma Acquired.run (h : Acquired id x w us looks q v) :
    Run work anyone (start work (.limiter id :: rest) body x w) us
      (proceed work id x rest body (q, v)) := by
  obtain ⟨_, ha⟩ := h.acquire
  exact ha.run.imp fun _ => trivial

lemma Acquired.resumed (h : Acquired id x w us looks (.wait wake) v) :
    ∃ looks q v', Acquired id x w (us ++ [u]) looks q v' ∧
      resume work (.queueing id x wake rest body) u = proceed work id x rest body (q, v') := by
  obtain ⟨_, ha⟩ := h.acquire
  obtain ⟨_, q, v', ha', hnext⟩ := ha.resumed trivial
  obtain ⟨looks, hl⟩ := ha'.exists_looks
  exact ⟨looks, q, v', hl, hnext⟩

lemma Acquired.queueing (h : Describes work (start work rest body x) runs)
    (ha : Acquired id x w us looks q v) :
    ∃ p, Queueing runs id x rest body w us p (proceed work id x rest body (q, v)) := by
  cases q with
  | served =>
    obtain ⟨calls, hc⟩ := h.begun v
    have hserved : Queueing runs id x rest body w (us ++ []) ⟨looks, .served, v, calls⟩ _ :=
      .served ha hc
    rw [List.append_nil] at hserved
    exact ⟨_, hserved⟩
  | failed e => exact ⟨_, .failed ha⟩
  | wait wake => exact ⟨_, .waiting ha⟩

theorem Describes.queueing (h : Describes work (start work rest body x) runs) (id : Nat) :
    Describes work (start work (.limiter id :: rest) body x) (Queueing runs id x rest body) where
  begun w := by
    rw [start_limiter]
    rcases hq : queue id x w with ⟨q, v⟩
    obtain ⟨_, hg⟩ := exists_look hq
    exact Acquired.queueing h (.begun hg)
  resumed {w ws p c v} hp u := by
    generalize hs : (Progress.pending c, v) = s at hp
    cases hp with
    | @served _ v us ws _ looks _ ha hr =>
      cases hs
      obtain ⟨calls, hc⟩ := h.resumed hr u
      have hserved : Queueing runs id x rest body w (us ++ (ws ++ [u]))
          ⟨looks, .served, v, calls⟩ _ := .served ha hc
      rw [← List.append_assoc] at hserved
      exact ⟨_, hserved⟩
    | failed _ => cases hs
    | waiting ha =>
      cases hs
      obtain ⟨_, _, _, ha', hnext⟩ := ha.resumed
      rw [hnext]
      exact Acquired.queueing h ha'
  genuine hp := by
    cases hp with
    | served ha hr => exact ha.run.append (h.genuine hr)
    | failed ha | waiting ha => exact ha.run

lemma Queueing.acquired (h : Queueing runs id x rest body w ws p s) :
    ∃ us, Acquired id x w us p.looks p.answer p.left := by
  cases h with
  | served ha _ | failed ha | waiting ha => exact ⟨_, ha⟩

end

end Call

end Resilience
