import Mathlib.Data.List.Basic
import Resilience.Breaker

/-! A breaker among its callers. Any number of callers ask to enter, settle the guards they were
handed in any order, and reset the breaker; a guard counts once, however often it is settled. Events
carry their instants, which need not be in order. `Effect` lists all that one event can do. -/

namespace Resilience

structure Ticket where
  guard : Guard
  settled : Bool
deriving DecidableEq

/-- A breaker and all guards it has handed out, numbered in the order of their admission. -/
structure Traffic where
  breaker : Breaker
  tickets : List Ticket
deriving DecidableEq

namespace Traffic

inductive Act where
  | enter
  | settle (number : Nat) (settlement : Settlement)
  | reset
deriving DecidableEq

structure Event where
  now : Nat
  act : Act
deriving DecidableEq

inductive Answer where
  | admitted (guard : Guard)
  | rejected (failure : Failure)
  | settled (guard : Guard) (settlement : Settlement)
  | ignored
  | reset
deriving DecidableEq

def start (b : Breaker) : Traffic := ⟨b, []⟩

def opensAfter (failures : UInt32) : BreakerConfig :=
  { failureThreshold := failures, openDuration := .ofMillis 1 }

def Outstanding (t : Traffic) (i : Nat) (g : Guard) : Prop := t.tickets[i]? = some ⟨g, false⟩

def letIn (t : Traffic) (g : Guard) (b : Breaker) : Traffic := ⟨b, t.tickets ++ [⟨g, false⟩]⟩

def discharge (t : Traffic) (i : Nat) (g : Guard) (b : Breaker) : Traffic :=
  ⟨b, t.tickets.set i ⟨g, true⟩⟩

def step (t : Traffic) (e : Event) : Answer × Traffic :=
  match e.act with
  | .enter =>
    match t.breaker.enter e.now with
    | (.ok g, b) => (.admitted g, t.letIn g b)
    | (.error f, b) => (.rejected f, { t with breaker := b })
  | .settle i s =>
    match t.tickets[i]? with
    | some ⟨g, false⟩ => (.settled g s, t.discharge i g (t.breaker.settle g s e.now))
    | _ => (.ignored, t)
  | .reset => (.reset, { t with breaker := t.breaker.reset e.now })

def run (t : Traffic) : List Event → Traffic
  | [] => t
  | e :: es => (t.step e).2.run es

def answers (t : Traffic) : List Event → List Answer
  | [] => []
  | e :: es => (t.step e).1 :: (t.step e).2.answers es

lemma run_append (t : Traffic) (es fs : List Event) : t.run (es ++ fs) = (t.run es).run fs := by
  induction es generalizing t with
  | nil => rfl
  | cons e es ih => exact ih _

lemma answers_append (t : Traffic) (es fs : List Event) :
    t.answers (es ++ fs) = t.answers es ++ (t.run es).answers fs := by
  induction es generalizing t with
  | nil => rfl
  | cons e es ih => exact congrArg _ (ih _)

lemma outstanding_letIn {t : Traffic} {g h : Guard} {b : Breaker} {i : Nat} :
    (t.letIn g b).Outstanding i h ↔ t.Outstanding i h ∨ i = t.tickets.length ∧ h = g := by
  simp only [Outstanding, letIn, List.getElem?_append]
  split
  · have : i ≠ t.tickets.length := by omega
    simp [this]
  · rename_i hi
    have hn : t.tickets[i]? = none := List.getElem?_eq_none (by omega)
    rcases hk : i - t.tickets.length with _ | k
    · have : i = t.tickets.length := by omega
      simp [this, eq_comm]
    · have : i ≠ t.tickets.length := by omega
      simp [hn, this]

lemma outstanding_discharge {t : Traffic} {g h : Guard} {b : Breaker} {i j : Nat} :
    (t.discharge i g b).Outstanding j h ↔ j ≠ i ∧ t.Outstanding j h := by
  simp only [Outstanding, discharge, List.getElem?_set]
  split <;> grind

lemma Outstanding.eq {t : Traffic} {i : Nat} {g h : Guard} (hg : t.Outstanding i g)
    (hh : t.Outstanding i h) : g = h := by
  have := hg.symm.trans hh
  simp_all

end Traffic

namespace Breaker

def trial (b : Breaker) : Guard := ⟨.trial, b.generation⟩

lemma roleOf_eq_trial {b : Breaker} {g : Guard} : b.roleOf g = .trial ↔ g = b.trial := by
  cases g
  simp only [roleOf, trial]
  split <;> simp_all

lemma roleOf_eq_normal {b : Breaker} {g : Guard} : b.roleOf g = .normal ↔ g ≠ b.trial := by
  rw [ne_eq, ← roleOf_eq_trial]
  cases b.roleOf g <;> simp

end Breaker

namespace Traffic

inductive Effect (t : Traffic) (now : Nat) : Act → Answer → Traffic → Prop
  | pass : t.breaker.state = .closed →
      Effect t now .enter (.admitted ⟨.normal, t.breaker.generation⟩)
        (t.letIn ⟨.normal, t.breaker.generation⟩ t.breaker)
  | probe : t.breaker.state = .opened → t.breaker.config.openDuration ≤ t.breaker.openFor now →
      t.breaker.trialInFlight = false →
      Effect t now .enter (.admitted t.breaker.trial)
        (t.letIn t.breaker.trial (t.breaker.halfOpen now))
  | refuse : t.breaker.state = .opened →
      ¬ (t.breaker.config.openDuration ≤ t.breaker.openFor now ∧ t.breaker.trialInFlight = false) →
      Effect t now .enter
        (.rejected (.circuitOpen (t.breaker.config.openDuration.sub (t.breaker.openFor now))))
        { t with breaker := t.breaker.reject }
  | busy : t.breaker.state = .halfOpen →
      Effect t now .enter (.rejected (.circuitOpen .zero)) { t with breaker := t.breaker.reject }
  | recover (i : Nat) : t.Outstanding i t.breaker.trial →
      Effect t now (.settle i .success) (.settled t.breaker.trial .success)
        (t.discharge i t.breaker.trial ((t.breaker.countSuccess now).close now))
  | relapse (i : Nat) : t.Outstanding i t.breaker.trial →
      Effect t now (.settle i .failure) (.settled t.breaker.trial .failure)
        (t.discharge i t.breaker.trial ((t.breaker.countFailure now).trip now))
  | giveUp (i : Nat) : t.Outstanding i t.breaker.trial →
      Effect t now (.settle i .abandoned) (.settled t.breaker.trial .abandoned)
        (t.discharge i t.breaker.trial (t.breaker.giveUpTrial now))
  | succeed (i : Nat) (g : Guard) : t.Outstanding i g → g ≠ t.breaker.trial →
      Effect t now (.settle i .success) (.settled g .success)
        (t.discharge i g (t.breaker.countSuccess now))
  | trip (i : Nat) (g : Guard) : t.Outstanding i g → g ≠ t.breaker.trial →
      t.breaker.state = .closed →
      t.breaker.config.failureThreshold.toNat ≤ t.breaker.metrics.consecutiveFailures + 1 →
      Effect t now (.settle i .failure) (.settled g .failure)
        (t.discharge i g ((t.breaker.countFailure now).trip now))
  | fail (i : Nat) (g : Guard) : t.Outstanding i g → g ≠ t.breaker.trial →
      ¬ (t.breaker.state = .closed ∧
        t.breaker.config.failureThreshold.toNat ≤ t.breaker.metrics.consecutiveFailures + 1) →
      Effect t now (.settle i .failure) (.settled g .failure)
        (t.discharge i g (t.breaker.countFailure now))
  | abandon (i : Nat) (g : Guard) : t.Outstanding i g → g ≠ t.breaker.trial →
      Effect t now (.settle i .abandoned) (.settled g .abandoned) (t.discharge i g t.breaker)
  | ignore (i : Nat) (s : Settlement) : (∀ g, ¬ t.Outstanding i g) →
      Effect t now (.settle i s) .ignored t
  | reset : Effect t now .reset .reset { t with breaker := t.breaker.reset now }

lemma step_admitted {t : Traffic} {g : Guard} {b : Breaker} {now : Nat}
    (h : t.breaker.enter now = (.ok g, b)) :
    t.step ⟨now, .enter⟩ = (.admitted g, t.letIn g b) := by
  simp only [step, h]

lemma step_rejected {t : Traffic} {f : Failure} {b : Breaker} {now : Nat}
    (h : t.breaker.enter now = (.error f, b)) :
    t.step ⟨now, .enter⟩ = (.rejected f, { t with breaker := b }) := by
  simp only [step, h]

lemma enter_effect (t : Traffic) (now : Nat) :
    Effect t now .enter (t.step ⟨now, .enter⟩).1 (t.step ⟨now, .enter⟩).2 := by
  cases hs : t.breaker.state with
  | closed => simpa [step, Breaker.enter, hs] using Effect.pass hs
  | opened =>
    by_cases h : t.breaker.config.openDuration ≤ t.breaker.openFor now ∧
        t.breaker.trialInFlight = false
    · simpa [step, Breaker.enter, hs, h, Breaker.trial] using Effect.probe hs h.1 h.2
    · simpa [step, Breaker.enter, hs, h] using Effect.refuse hs h
  | halfOpen => simpa [step, Breaker.enter, hs] using Effect.busy hs

lemma step_settle {t : Traffic} {i : Nat} {g : Guard} (hi : t.Outstanding i g) (s : Settlement)
    (now : Nat) :
    t.step ⟨now, .settle i s⟩ = (.settled g s, t.discharge i g (t.breaker.settle g s now)) := by
  simp only [step, show t.tickets[i]? = _ from hi]

lemma settle_effect (t : Traffic) (now i : Nat) (s : Settlement) :
    Effect t now (.settle i s) (t.step ⟨now, .settle i s⟩).1 (t.step ⟨now, .settle i s⟩).2 := by
  by_cases hi : ∃ g, t.Outstanding i g
  · obtain ⟨g, hg⟩ := hi
    rw [step_settle hg]
    by_cases hr : g = t.breaker.trial
    · have hrole := Breaker.roleOf_eq_trial.mpr hr
      subst hr
      cases s with
      | success => simpa [Breaker.settle, hrole] using Effect.recover i hg
      | failure => simpa [Breaker.settle, hrole] using Effect.relapse i hg
      | abandoned => simpa [Breaker.settle, hrole] using Effect.giveUp i hg
    · have hrole := Breaker.roleOf_eq_normal.mpr hr
      cases s with
      | success => simpa [Breaker.settle, hrole] using Effect.succeed i g hg hr
      | failure =>
        by_cases ht : t.breaker.state = .closed ∧
            t.breaker.config.failureThreshold.toNat ≤ t.breaker.metrics.consecutiveFailures + 1
        · simpa [Breaker.settle, hrole, Breaker.countFailure, ht] using Effect.trip i g hg hr ht.1 ht.2
        · simpa [Breaker.settle, hrole, Breaker.countFailure, ht] using Effect.fail i g hg hr ht
      | abandoned => simpa [Breaker.settle, hrole] using Effect.abandon i g hg hr
  · have hn : ∀ g, ¬ t.Outstanding i g := not_exists.mp hi
    have he : t.step ⟨now, .settle i s⟩ = (.ignored, t) := by
      simp only [step]
      split
      · rename_i g hg
        exact absurd hg (hn g)
      · rfl
    simpa only [he] using Effect.ignore i s hn

theorem step_effect (t : Traffic) (e : Event) : Effect t e.now e.act (t.step e).1 (t.step e).2 := by
  obtain ⟨now, act⟩ := e
  cases act with
  | enter => exact enter_effect t now
  | settle i s => exact settle_effect t now i s
  | reset => exact .reset

end Traffic

end Resilience
