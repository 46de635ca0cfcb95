import Resilience.Await
import Resilience.Proofs.Call.Retry

/-! Deadlines and later attempts. A retried task wakes up by timers, which know whole milliseconds,
while a context ends by the clock. So an attempt never begins under a cancelled context, nor after
the timer of the deadline has fired, yet it can begin under a deadline that is already reached: when
that lies after the last announced millisecond. -/

namespace Resilience

lemma Context.err_eq_some_iff_of_noticed {x : Context} {k : Clock} {c : Cancellation} {r : Reason}
    (h : x.noticed k c = none) : x.err k c = some r ↔
      r = .deadlineExceeded ∧ ∃ d ∈ x.deadline, k.tick * 1000000 < d ∧ d ≤ k.now := by
  obtain ⟨hc, hd⟩ := noticed_eq_none_iff.mp h
  unfold err
  rw [hc]
  cases hx : x.deadline with
  | none => simp
  | some d =>
    have hp : k.tick * 1000000 < d := Nat.lt_of_not_le (of_decide_eq_false (hd d hx))
    by_cases hn : d ≤ k.now <;> simp [hn, hp, eq_comm]

namespace Call

variable {β ι ε : Type}

theorem later_attempt_begins_done_iff (work : Work β ι ε) (t : Task β ε) (p : RetryPolicy ε)
    (x : Context) (w : World ε) (ws : List (World ε)) (s : Step β ι ε) :
    (Run work anyone (ofTask work (t.wrap (.retry p)) x w) ws s ↔
      ∃ begins, Attempts (invocations work t x) p x t.layers t.body 1 w ws begins s) ∧
    ∀ begins, Attempts (invocations work t x) p x t.layers t.body 1 w ws begins s →
      ∀ v ∈ begins.tail, ∀ r, v.err x = some r ↔ r = .deadlineExceeded ∧
        ∃ d ∈ x.deadline, v.clock.tick * 1000000 < d ∧ d ≤ v.now := by
  refine ⟨((describes_invocations work t x).retry p).run_iff, fun begins hb v hv r => ?_⟩
  obtain ⟨_, later, rfl, _, hl⟩ := hb.begins id fun h => h.1
  exact Context.err_eq_some_iff_of_noticed (hl v hv)

def midTick : World Unit := { still with clock := still.clock.spend (.ofNanos 500000) }

/-- A millisecond later: the timers know of the first millisecond, the clock of another half. -/
def pastTick : World Unit := { midTick with clock := midTick.clock.jump 1 }

def afterFourTenths {ε : Type} : RetryPolicy ε := .ofFunction fun _ _ => .retry (.ofNanos 400000)

def tight : Context := { token := ⟨0, []⟩, deadline := some 1200000 }

theorem tight_deadline_begins_done :
    Run (failing .aborted) anyone
      (ofTask (failing .aborted) (lone.wrap (.retry afterFourTenths)) tight midTick) [pastTick]
      (.done (.error (.cancelled .deadlineExceeded)), pastTick) ∧
    ∃ begins, Attempts (invocations (failing .aborted) lone tight) afterFourTenths tight [] () 1
        midTick [pastTick] begins (.done (.error (.cancelled .deadlineExceeded)), pastTick) ∧
      ∀ v ∈ begins.tail, ∀ r, v.err tight = some r ↔ r = .deadlineExceeded ∧
        ∃ d ∈ tight.deadline, v.clock.tick * 1000000 < d ∧ d ≤ v.now := by
  have h : Run (failing .aborted) anyone
      (ofTask (failing .aborted) (lone.wrap (.retry afterFourTenths)) tight midTick)
      [] (.pending (.pausing afterFourTenths tight 4294967293 900000 [] ()), midTick) := .begun
  have h₂ := h.resumed pastTick trivial
  obtain ⟨hiff, hdone⟩ := later_attempt_begins_done_iff (failing .aborted) lone afterFourTenths
    tight midTick [pastTick] (.done (.error (.cancelled .deadlineExceeded)), pastTick)
  obtain ⟨begins, hb⟩ := hiff.mp h₂
  exact ⟨h₂, begins, hb, hdone begins hb⟩

def noting : Work Unit Empty (List (Option Reason)) where
  start _ x a := (.done (.error .aborted), a.record (· ++ [a.err x]))
  resume i _ := nomatch i
  abandon i _ := nomatch i
  ready i _ := nomatch i
  timers i := nomatch i

def idle : Machine Unit Empty (List (Option Reason)) :=
  { clock := midTick.clock, cancellation := {}, notes := [], limiters := #[], breakers := #[],
    gates := #[], jobs := #[], deliveries := 0 }

theorem done_context_begins_attempt :
    ¬ ∀ (p : RetryPolicy (List (Option Reason))) (x : Context)
      (m : Machine Unit Empty (List (Option Reason))), m.notes = [] →
      ∀ r ∈ (Wait.finish noting (m.call noting (lone.wrap (.retry p)) x none)).2.notes.tail,
        r = none := by
  intro h
  have hnotes : (Wait.finish noting (idle.call noting (lone.wrap (.retry afterFourTenths))
      tight none)).2.notes = [none, some .deadlineExceeded] := by decide +kernel
  have hlive := h afterFourTenths tight idle rfl (some .deadlineExceeded)
    (by rw [hnotes]; exact List.mem_singleton_self _)
  cases hlive

end Call

end Resilience
