import Resilience.Proofs.Call.LateTimer
import Resilience.Proofs.Call.MaxWait

/-! Waits and the context they are under. Timers decide when a wait ends, while the context itself
goes by the clock. Since a timer that has fired lies in the past, whatever ends a wait holds of the
context as well, however late somebody looks. -/

namespace Resilience

lemma Clock.passed_mono {k : Clock} {a b : Nat} (h : a ≤ b) (hb : k.passed b = true) :
    k.passed a = true :=
  decide_eq_true (Nat.le_trans h (of_decide_eq_true hb))

namespace Context

variable {x : Context} {k : Clock} {c : Cancellation} {wake d : Nat}

lemma isCancelled_of_err (h : x.err k c = none) : c.isCancelled x.token = false :=
  (noticed_eq_none_iff.mp (noticed_eq_none_of_err h)).1

lemma now_lt_deadline (h : x.err k c = none) (hd : d ∈ x.deadline) : k.now < d := by
  refine Nat.lt_of_not_le fun hle => ?_
  simp [err, isCancelled_of_err h, Option.mem_def.mp hd, hle] at h

/-- The timers of one tick fire together, so the deadline goes first even within it. -/
lemma wake_lt_deadline (h : x.noticed k c = none) (hw : k.passed wake = true)
    (hd : d ∈ x.deadline) : wake < d := by
  refine Nat.lt_of_not_le fun hle => ?_
  have hpassed := Clock.passed_mono hle hw
  rw [(noticed_eq_none_iff.mp h).2 d hd] at hpassed
  cases hpassed

end Context

namespace Call

variable {ε : Type} {x : Context} {d : Duration} {a a' : Ambient ε} {r : Reason}

structure SleptThrough (x : Context) (start : Nat) (d : Duration) (a : Ambient ε) : Prop where
  late : start + d.nanos ≤ a.now
  deadline : ∀ e ∈ x.deadline, start + d.nanos < e
  live : a.cancellation.isCancelled x.token = false

lemma sleptThrough_of_pause (h : pause x d a = .elapsed) : SleptThrough x a.now d a := by
  obtain ⟨he, hz⟩ := pause_eq_elapsed.mp h
  have hzero : d.nanos = 0 := beq_iff_eq.mp hz
  refine ⟨by omega, fun e hd => ?_, Context.isCancelled_of_err he⟩
  rw [hzero]
  exact Context.now_lt_deadline he hd

lemma sleptThrough_of_repause (hd : a.now + d.nanos < Instant.horizon)
    (h : repause x (a.clock.wake d) a' = .elapsed) : SleptThrough x a.now d a' := by
  obtain ⟨hn, hw⟩ := repause_eq_elapsed.mp h
  rw [Clock.wake_eq hd] at hw
  exact ⟨Clock.le_now_of_passed hw, fun e he => Context.wake_lt_deadline hn hw he,
    (Context.noticed_eq_none_iff.mp hn).1⟩

lemma Slept.sleptThrough {w v : World ε} {us : List (World ε)} (h : Slept x d w us v)
    (hd : w.now + d.nanos < Instant.horizon) : SleptThrough x w.now d v.toAmbient := by
  cases h with
  | atOnce he hz => exact sleptThrough_of_pause (pause_eq_elapsed.mpr ⟨he, hz⟩)
  | later _ _ _ hn hw => exact sleptThrough_of_repause hd (repause_eq_elapsed.mpr ⟨hn, hw⟩)

lemma Interrupted.err {w v : World ε} {us : List (World ε)} (h : Interrupted x d w us v r) :
    v.err x = some r := by
  cases h with
  | atOnce he => exact he
  | later _ _ _ hn => exact Context.err_of_noticed hn

lemma err_of_repause {wake : Nat} (h : repause x wake a = .ended r) : a.err x = some r :=
  Context.err_of_noticed (repause_eq_ended.mp h)

end Call

inductive Waited {β ι ε : Type} (work : Work β ι ε) (s : Looked β ι ε) :
    List (Machine β ι ε) → Looked β ι ε → Prop
  | begun : Waited work s [] s
  | looked {ms : List (Machine β ι ε)} {w : Wait β ι ε} {m : Machine β ι ε} :
      Waited work s ms (.inl w, m) → ∀ m', Waited work s (ms ++ [m']) (w.look work m')

namespace Machine

variable {β ι ε φ α : Type}

section

variable {work : Work β ι ε} {x : Context} {d : Duration} {m m' : Machine β ι ε}
  {ms : List (Machine β ι ε)} {s : Looked β ι ε}

lemma waited_sleep (hd : m.now + d.nanos < Instant.horizon)
    (h : Waited work (m.sleepUnder x d) ms s) :
    s.1 = .inl (.pause x (m.clock.wake d)) ∨
      s.1 = .inr (.outcome (.ok ())) ∧ Call.SleptThrough x m.now d s.2.toAmbient ∨
      ∃ r, s.1 = .inr (.outcome (Call.cancelled r)) ∧ s.2.err x = some r := by
  induction h with
  | begun =>
    unfold sleepUnder
    cases hp : Call.pause x d m.toAmbient with
    | elapsed => exact .inr (.inl ⟨rfl, Call.sleptThrough_of_pause hp⟩)
    | ended r => exact .inr (.inr ⟨r, rfl, Call.pause_eq_ended.mp hp⟩)
    | wait wake =>
      obtain ⟨_, _, rfl⟩ := Call.pause_eq_wait.mp hp
      exact .inl rfl
  | looked _ m' ih =>
    rcases ih with hw | ⟨hw, _⟩ | ⟨_, hw, _⟩ <;> cases hw
    rw [show (Wait.pause x (m.clock.wake d)).look work m' =
      Wait.ofPause x m' (Call.repause x (m.clock.wake d) m'.toAmbient) from rfl]
    cases hp : Call.repause x (m.clock.wake d) m'.toAmbient with
    | elapsed => exact .inr (.inl ⟨rfl, Call.sleptThrough_of_repause hd hp⟩)
    | ended r => exact .inr (.inr ⟨r, rfl, Call.err_of_repause hp⟩)
    | wait wake =>
      obtain ⟨_, _, rfl⟩ := Call.repause_eq_wait.mp hp
      exact .inl rfl

lemma look_ending (m : Machine β ι ε) : ((Wait.ending x).look work m).1 = .inl (.ending x) ∨
    ∃ r, ((Wait.ending x).look work m).1 = .inr (.reason r) ∧
      ((Wait.ending x).look work m).2.err x = some r := by
  simp only [Wait.look]
  cases hn : m.noticed x with
  | none => exact .inl rfl
  | some r => exact .inr ⟨r, rfl, Context.err_of_noticed hn⟩

lemma waited_ending (h : Waited work ((Wait.ending x).look work m) ms s) :
    s.1 = .inl (.ending x) ∨ ∃ r, s.1 = .inr (.reason r) ∧ s.2.err x = some r := by
  induction h with
  | begun => exact look_ending m
  | looked _ m' ih =>
    rcases ih with hw | ⟨_, hw, _⟩ <;> cases hw
    exact look_ending m'

end

/-- A look at something that runs under a context: the end of the context goes first. -/
def lookUnder (x : Context) (poll : φ → Machine β ι ε → (φ ⊕ α) × Machine β ι ε) (f : φ)
    (m : Machine β ι ε) : (φ ⊕ Except Reason α) × Machine β ι ε :=
  match m.noticed x with
  | some r => (.inr (.error r), m)
  | none =>
    match poll f m with
    | (.inl f, m) => (.inl f, m)
    | (.inr a, m) => (.inr (.ok a), m)

def beginUnder (x : Context) (poll : φ → Machine β ι ε → (φ ⊕ α) × Machine β ι ε) (f : φ)
    (m : Machine β ι ε) : (φ ⊕ Except Reason α) × Machine β ι ε :=
  match m.err x with
  | some r => (.inr (.error r), m)
  | none => lookUnder x poll f m

inductive Guarded (x : Context) (poll : φ → Machine β ι ε → (φ ⊕ α) × Machine β ι ε) (f : φ)
    (m : Machine β ι ε) : List (Machine β ι ε) → (φ ⊕ Except Reason α) × Machine β ι ε → Prop
  | begun : Guarded x poll f m [] (beginUnder x poll f m)
  | looked {ms : List (Machine β ι ε)} {f' : φ} {m' : Machine β ι ε} :
      Guarded x poll f m ms (.inl f', m') →
      ∀ m'', Guarded x poll f m (ms ++ [m'']) (lookUnder x poll f' m'')

section

variable {x : Context} {poll : φ → Machine β ι ε → (φ ⊕ α) × Machine β ι ε} {f : φ}
  {m m' : Machine β ι ε} {ms : List (Machine β ι ε)} {r : Reason}
  {s : (φ ⊕ Except Reason α) × Machine β ι ε}

lemma err_of_lookUnder (h : lookUnder x poll f m = (.inr (.error r), m')) :
    m'.err x = some r := by
  unfold lookUnder at h
  split at h
  · rename_i hn
    cases h
    exact Context.err_of_noticed hn
  · split at h <;> cases h

lemma err_of_beginUnder (h : beginUnder x poll f m = (.inr (.error r), m')) :
    m'.err x = some r := by
  unfold beginUnder at h
  split at h
  · rename_i he
    cases h
    exact he
  · exact err_of_lookUnder h

lemma Guarded.err (h : Guarded x poll f m ms (.inr (.error r), m')) : m'.err x = some r := by
  generalize hs : ((.inr (.error r), m') : (φ ⊕ Except Reason α) × Machine β ι ε) = s at h
  cases h with
  | begun => exact err_of_beginUnder hs.symm
  | looked _ m'' => exact err_of_lookUnder hs.symm

lemma Guarded.of_err (he : m.err x = some r) (h : Guarded x poll f m ms s) :
    ms = [] ∧ s = (.inr (.error r), m) := by
  have hbegin : beginUnder x poll f m = (.inr (.error r), m) := by
    simp only [beginUnder, he]
  induction h with
  | begun => exact ⟨rfl, hbegin⟩
  | looked _ _ ih => cases ih.2

end

def pollResult (i : Nat) (m : Machine β ι ε) : (Nat ⊕ Except Crash Outcome) × Machine β ι ε :=
  match m.takeResult i with
  | (none, m) => (.inl i, m)
  | (some r, m) => (.inr r, m)

def tellResult (x : Context) :
    (Nat ⊕ Except Reason (Except Crash Outcome)) × Machine β ι ε → Looked β ι ε
  | (.inl i, m) => (.inl (.completionUnder i x), m)
  | (.inr (.error r), m) => (.inr (.outcome (Call.cancelled r)), m)
  | (.inr (.ok (.error c)), m) => (.inr (.crash c), m)
  | (.inr (.ok (.ok r)), m) => (.inr (.outcome r), m)

def pollTimer (wake : Nat) (m : Machine β ι ε) : (Nat ⊕ Unit) × Machine β ι ε :=
  if m.clock.passed wake then (.inr (), m) else (.inl wake, m)

def tellTimer (x : Context) : (Nat ⊕ Except Reason Unit) × Machine β ι ε → Looked β ι ε
  | (.inl wake, m) => (.inl (.under x wake), m)
  | (.inr (.error r), m) => (.inr (.outcome (Call.cancelled r)), m)
  | (.inr (.ok ()), m) => (.inr .unit, m)

/-- A permit, asked for at the first look and waited for from then on. -/
def pollPermit (g i : Nat) : Bool → Machine β ι ε → (Bool ⊕ Unit) × Machine β ι ε
  | false, m =>
    let (granted, gate) := (m.gate g).request i
    (if granted then .inr () else .inl true, m.setGate g gate)
  | true, m =>
    if (m.gate g).handed.contains i then (.inr (), m.setGate g ((m.gate g).accept i))
    else (.inl true, m)

section

variable (work : Work β ι ε) (x : Context) (i g : Nat) (t : Task β ε)

def afterRequest : (Bool ⊕ Except Reason Unit) × Machine β ι ε → Machine β ι ε
  | (.inl _, m) => m.setPhase i (.queued g t x)
  | (.inr (.error r), m) => m.finish i (some (Call.cancelled r))
  | (.inr (.ok ()), m) => m.enter work i (some g) t x

def afterQueueing : (Bool ⊕ Except Reason Unit) × Machine β ι ε → Machine β ι ε
  | (.inl _, m) => m
  | (.inr (.error r), m) => (m.setGate g ((m.gate g).leave i)).finish i (some (Call.cancelled r))
  | (.inr (.ok ()), m) => m.enter work i (some g) t x

variable (m : Machine β ι ε)

lemma look_completionUnder : (Wait.completionUnder i x).look work m =
    tellResult x (lookUnder x pollResult i m) := by
  simp only [Wait.look, lookUnder, pollResult]
  cases m.noticed x with
  | some r => rfl
  | none => rcases m.takeResult i with ⟨_ | _ | _, m'⟩ <;> rfl

lemma look_under (wake : Nat) : (Wait.under x wake).look work m =
    tellTimer x (lookUnder x pollTimer wake m) := by
  simp only [Wait.look, lookUnder, pollTimer]
  cases m.noticed x with
  | some r => rfl
  | none => cases m.clock.passed wake <;> rfl

lemma waitUnder_eq : m.waitUnder work i x = tellResult x (beginUnder x pollResult i m) := by
  simp only [waitUnder, beginUnder]
  cases m.err x with
  | some r => rfl
  | none => exact look_completionUnder work x i m

variable {x i g t m}

lemma step_launched (ha : (m.job i).aborted = false)
    (hp : (m.job i).phase = .launched (some g) t x) :
    m.step work i = afterRequest work x i g t (beginUnder x (pollPermit g i) false m) := by
  simp only [step, ha, hp, beginUnder, lookUnder, pollPermit]
  cases he : m.err x with
  | some r => rfl
  | none =>
    have hn : m.noticed x = none := Context.noticed_eq_none_of_err he
    simp only [hn]
    rcases (m.gate g).request i with ⟨_ | _, gate⟩ <;> rfl

lemma step_queued (ha : (m.job i).aborted = false) (hp : (m.job i).phase = .queued g t x) :
    m.step work i = afterQueueing work x i g t (lookUnder x (pollPermit g i) true m) := by
  simp only [step, ha, hp, lookUnder, pollPermit]
  cases m.noticed x with
  | some r => rfl
  | none => cases (m.gate g).handed.contains i <;> rfl

end

/-- All waits under `x` that begin or go on in `m` keep to the context: a sleep of length `d`, a
wait for the context's end, and anything else that is guarded by the context, such as the wait for
a result or for a permit. -/
structure KeepsTo (work : Work β ι ε) (x : Context) (d : Duration) (m : Machine β ι ε) : Prop where
  slept : ∀ ms reply m', Waited work (m.sleepUnder x d) ms (.inr reply, m') →
    reply = .outcome (.ok ()) ∧ Call.SleptThrough x m.now d m'.toAmbient ∨
      ∃ r, reply = .outcome (Call.cancelled r) ∧ m'.err x = some r
  ended : ∀ ms reply m', Waited work ((Wait.ending x).look work m) ms (.inr reply, m') →
    ∃ r, reply = .reason r ∧ m'.err x = some r
  guarded : ∀ {φ α : Type} (poll : φ → Machine β ι ε → (φ ⊕ α) × Machine β ι ε) f ms r m',
    Guarded x poll f m ms (.inr (.error r), m') → m'.err x = some r
  unpolled : ∀ {φ α : Type} (poll : φ → Machine β ι ε → (φ ⊕ α) × Machine β ι ε) f ms s r,
    m.err x = some r → Guarded x poll f m ms s → ms = [] ∧ s = (.inr (.error r), m)
  result : ∀ i, m.waitUnder work i x = tellResult x (beginUnder x pollResult i m) ∧
    (Wait.completionUnder i x).look work m = tellResult x (lookUnder x pollResult i m)
  timer : ∀ wake, (Wait.under x wake).look work m = tellTimer x (lookUnder x pollTimer wake m)
  permit : ∀ i g t, (m.job i).aborted = false →
    ((m.job i).phase = .launched (some g) t x →
      m.step work i = afterRequest work x i g t (beginUnder x (pollPermit g i) false m)) ∧
    ((m.job i).phase = .queued g t x →
      m.step work i = afterQueueing work x i g t (lookUnder x (pollPermit g i) true m))

theorem waits_agree_with_context (work : Work β ι ε) (x : Context) {d : Duration}
    {m : Machine β ι ε} (hd : m.now + d.nanos < Instant.horizon) : KeepsTo work x d m where
  slept ms reply m' h := by
    rcases waited_sleep hd h with hw | ⟨hw, ht⟩ | ⟨r, hw, he⟩
    · cases hw
    · exact .inl ⟨Sum.inr.inj hw, ht⟩
    · exact .inr ⟨r, Sum.inr.inj hw, he⟩
  ended ms reply m' h := by
    rcases waited_ending h with hw | ⟨r, hw, he⟩
    · cases hw
    · exact ⟨r, Sum.inr.inj hw, he⟩
  guarded _ _ _ _ _ h := h.err
  unpolled _ _ _ _ _ he h := h.of_err he
  result i := ⟨waitUnder_eq work x i m, look_completionUnder work x i m⟩
  timer := look_under work x m
  permit _ _ _ ha := ⟨step_launched work ha, step_queued work ha⟩

def idleLater : Machine Unit Empty (List (Option Reason)) :=
  { Call.idle with clock := Call.pastTick.clock }

theorem short_sleep_is_through :
    Call.idle.now + (Duration.ofNanos 400000).nanos < Instant.horizon ∧
    Waited Call.noting (Call.idle.sleepUnder Call.tight (.ofNanos 400000)) [idleLater]
      (.inr (.outcome (.ok ())), idleLater) ∧
    idleLater.err Call.tight = some .deadlineExceeded ∧
    Call.SleptThrough Call.tight 500000 (.ofNanos 400000) idleLater.toAmbient := by
  have hd : Call.idle.now + (Duration.ofNanos 400000).nanos < Instant.horizon := by decide
  have h : Waited Call.noting (Call.idle.sleepUnder Call.tight (.ofNanos 400000)) [idleLater]
      (.inr (.outcome (.ok ())), idleLater) :=
    (Waited.begun (s := (.inl (.pause Call.tight 900000), Call.idle))).looked idleLater
  have hk := waits_agree_with_context Call.noting Call.tight hd
  rcases hk.slept _ _ _ h with ⟨_, ht⟩ | ⟨_, hr, _⟩
  · exact ⟨hd, h, rfl, ht⟩
  · cases hr

end Machine

end Resilience
