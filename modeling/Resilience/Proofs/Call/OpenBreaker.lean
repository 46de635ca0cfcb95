import Resilience.Proofs.Breaker.OpenPeriod
import Resilience.Proofs.Call.Paced
import Resilience.Proofs.Call.Settled
import Resilience.Proofs.Context.Waiting

/-! Retries through an open breaker. Whoever is turned away is told how long the breaker stays open,
sleeps that long and not less, and then finds the end of the open period on the other side: the next
attempt is the trial. -/

namespace Resilience

open Traffic

namespace World

variable {ε : Type} {w : World ε} {id : Nat} {t : Traffic}

lemma ask_eq_rejected (h : w.breaker id = t.breaker) {e : Failure}
    (he : (w.enter id).1 = .error e) : t.ask w.now = .rejected e := by
  have hb : (t.breaker.enter w.now).1 = .error e := h ▸ he
  rcases hr : t.breaker.enter w.now with ⟨_ | g, b⟩ <;> rw [hr] at hb <;> cases hb
  simp only [ask, step, hr]

lemma enter_eq_ok (h : w.breaker id = t.breaker) {g : Guard}
    (ha : t.ask w.now = .admitted g) : (w.enter id).1 = .ok g := by
  rcases hr : t.breaker.enter w.now with ⟨e | g', b⟩ <;>
    simp only [ask, step, hr] at ha <;> cases ha
  rw [← h] at hr
  exact congrArg Prod.fst hr

end World

namespace Call

variable {β ι ε : Type}

/-- The breaker `id`, which began as `b` and to which all of `past` has happened, is open, and turns
away whoever comes in the world `w` for another `r`. -/
structure Refused (b : Breaker) (past : List Event) (id : Nat) (r : Duration) (w : World ε) :
    Prop where
  breaker : w.breaker id = ((Traffic.start b).run past).breaker
  opened : (w.breaker id).state = .opened
  rejected : (w.enter id).1 = .error (.circuitOpen r)

/-- After that the others have done `es` to the breaker, until somebody comes in the world `w'`.
They may settle guards, but nobody was let in and there was no reset. -/
structure Undisturbed (b : Breaker) (past es : List Event) (id : Nat) (w w' : World ε) : Prop where
  breaker : w'.breaker id = (((Traffic.start b).run past).run (⟨w.now, .enter⟩ :: es)).breaker
  shut : (((Traffic.start b).run past).step ⟨w.now, .enter⟩).2.Shut es
  ordered : Ordered (past ++ ⟨w.now, .enter⟩ :: es ++ [⟨w'.now, .enter⟩])

section

variable {b : Breaker} {past es : List Event} {id : Nat} {r : Duration} {w u : World ε}

lemma Refused.admits {c : BreakerConfig} (hb : Breaker.ofConfig c = .ok b)
    (h : Refused b past id r w) (hw : Undisturbed b past es id w u)
    (hle : w.now + r.nanos ≤ u.now) :
    (u.enter id).1 = .ok ((Traffic.start b).run past).breaker.trial := by
  have hask := World.ask_eq_rejected h.breaker h.rejected
  have hopened := h.opened
  rw [h.breaker] at hopened
  exact World.enter_eq_ok hw.breaker ((ask_of_shut hb past hopened hask hw.shut hw.ordered).2 hle)

end

section

variable {work : Work β ι ε} {t : Task β ε} {p : RetryPolicy ε} {x : Context} {k id : Nat}
  {w v u : World ε} {ws : List (World ε)} {a : Try β ι ε} {as : List (Try β ι ε)}

lemma Attempts.woken {left wake : Nat}
    (h : Attempts (tries work t x) p x t.layers t.body k w ws as
      (.pending (.pausing p x left wake t.layers t.body), v))
    (hn : u.noticed x = none) (hw : u.clock.passed wake = true) :
    ∃ as' a', Attempts (tries work t x) p x t.layers t.body k w (ws ++ [u]) (as ++ as')
      (resume work (.pausing p x left wake t.layers t.body) u) ∧
      as'[0]? = some a' ∧ a'.begun = u := by
  generalize hs : ((.pending (.pausing p x left wake t.layers t.body), v) : Step β ι ε) = s at h
  induction h with
  | waiting ha hk he hz hu =>
    cases hs
    obtain ⟨as', has⟩ := attemptsFrom_attempts (describes_tries work t x).begun hk u
    obtain ⟨a', ha', hbegun⟩ := has.begun_head
    have hagain := Attempts.again ha hk (.later he hz hu hn hw) has
    rw [List.append_nil, ← List.append_assoc] at hagain
    refine ⟨as', a', ?_, ha', hbegun⟩
    simp only [resume, repause_eq_elapsed.mpr ⟨hn, hw⟩]
    exact hagain
  | again ha hk hsl _ ih =>
    obtain ⟨as', a', has, ha', hbegun⟩ := ih hs
    refine ⟨as', a', ?_, ha', hbegun⟩
    simpa using Attempts.again ha hk hsl has
  | _ => cases hs

lemma Refused.failsWith {b : Breaker} {past : List Event} {r : Duration}
    (h : Refused b past id r a.begun) (he : a.begun.err x = none)
    (hrun : Run work anyone (ofTask work (t.wrap (.breaker id)) x a.begun) ws a.latest) :
    a.FailsWith x (.circuitOpen r) (a.begun.enter id).2 := by
  have hreject : a.begun.enter id = (.error (.circuitOpen r), (a.begun.enter id).2) :=
    Prod.ext h.rejected rfl
  exact ⟨((run_breaker_of_reject hreject).mp hrun).2, he⟩

end

structure WaitedOut (work : Work β ι ε) (t : Task β ε) (p : RetryPolicy ε) (x : Context)
    (w : World ε) (ws : List (World ε)) (as : List (Try β ι ε)) (s : Step β ι ε) (b : Breaker)
    (past : List Event) (id : Nat) (r : Duration) (i : Nat) (a : Try β ι ε) : Prop where
  requested : a.wait? p x (i + 1) = some r
  notEarly : ∀ a', as[i + 1]? = some a' → a.begun.now + r.nanos < Instant.horizon →
    a.begun.now + r.nanos ≤ a'.begun.now
  admitted : ∀ a' es, as[i + 1]? = some a' → Undisturbed b past es id a.begun a'.begun →
    a.begun.now + r.nanos ≤ a'.begun.now →
    ∃ g u us s', a'.begun.enter id = (.ok g, u) ∧ g.admission = .trial ∧
      Run work anyone (ofTask work t x u) us s' ∧ a'.latest = afterAdmitted id g s'
  goesOn : i + 1 = as.length →
    (∃ c u, s = (.pending c, u) ∧ ∀ v, v.noticed x = none →
      v.clock.passed (a.begun.clock.wake r) = true → ∃ as' a',
        Attempts (tries work (t.wrap (.breaker id)) x) p x (.breaker id :: t.layers) t.body 1 w
          (ws ++ [v]) (as ++ as') (c.resume work v) ∧ as'[0]? = some a' ∧ a'.begun = v) ∨
    ∃ u q, s = (.done (.error (.cancelled q)), u) ∧ u.err x = some q

theorem open_breaker_is_waited_out {R : Type} [Scalar R] {c : BreakerConfig} {b : Breaker}
    (hb : Breaker.ofConfig c = .ok b) (work : Work β ι ε) (t : Task β ε) (id : Nat)
    {p : BackoffPolicy R} (hp : 1 ≤ p.maxAttempts.toNat) (draw : ε → R × ε) (x : Context)
    (w : World ε) (ws : List (World ε)) (s : Step β ι ε) :
    (Run work anyone (ofTask work ((t.wrap (.breaker id)).retry (p.policy draw)) x w) ws s ↔
      ∃ as, Attempts (tries work (t.wrap (.breaker id)) x) (p.policy draw) x
        (.breaker id :: t.layers) t.body 1 w ws as s) ∧
    ∀ as, Attempts (tries work (t.wrap (.breaker id)) x) (p.policy draw) x
        (.breaker id :: t.layers) t.body 1 w ws as s →
      ∀ i a past r, as[i]? = some a → i + 1 < p.maxAttempts.toNat →
        Refused b past id r a.begun → r ≤ p.maxDelay → a.begun.err x = none →
        WaitedOut work t (p.policy draw) x w ws as s b past id r i a := by
  refine ⟨run_retry_iff hp, fun as h i a past r ha hi hr hle he => ?_⟩
  obtain ⟨us, hrun⟩ := h.run_of_mem (List.mem_of_getElem? ha)
  have hf := hr.failsWith he hrun
  have hd (now : Nat) (notes : ε) {k : Nat} (hk : k < p.maxAttempts.toNat) :
      ((p.policy draw).decide now k (.circuitOpen r) notes).1 = .ok (.retry r) := by
    have hmin : min r p.maxDelay = r := if_pos hle
    have htold : p.decide (draw notes).1 k (.circuitOpen r) = .ok (.retry (min r p.maxDelay)) :=
      BackoffPolicy.decide_told rfl hk
    rwa [hmin] at htold
  have hk : 1 + i < p.maxAttempts.toNat := by omega
  constructor
  case requested => exact hf.wait?.mpr (hd _ _ hi)
  case notEarly =>
    intro a' ha' hnow
    obtain ⟨e, v, d, _, hf', hd', hslept⟩ := h.next ha ha'
    obtain ⟨rfl, rfl⟩ := hf.unique hf'
    cases (hd _ _ hk).symm.trans hd'
    exact (hslept.sleptThrough hnow).late
  case admitted =>
    intro a' es ha' hw hnow
    have henter : a'.begun.enter id =
        (.ok ((Traffic.start b).run past).breaker.trial, (a'.begun.enter id).2) :=
      Prod.ext (hr.admits hb hw hnow) rfl
    obtain ⟨us', hrun'⟩ := h.run_of_mem (List.mem_of_getElem? ha')
    obtain ⟨s', hinner, hlatest⟩ := (run_breaker_of_enter henter).mp hrun'
    exact ⟨_, _, us', s', henter, rfl, hinner, hlatest⟩
  case goesOn =>
    intro hlength
    have hbefore := p.maxAttempts_le_lastAttempt
    have hconcluded := h.concluded_of_last ha hlength hf
    rw [hd _ _ hk] at hconcluded
    cases hconcluded with
    | spent hlast => omega
    | waiting => exact .inl ⟨_, _, rfl, fun v hn hv => h.woken hn hv⟩
    | interrupted hi => exact .inr ⟨_, _, rfl, hi.err⟩

/-- The breaker was opened two nanoseconds ago; one of the callers it has let in is still busy. -/
def early : World Unit :=
  { still with
    clock := still.clock.spend (.ofNanos 7)
    breakers := #[((Traffic.start { config := opensAfter 1 }).run firstFails).breaker] }

/-- Two milliseconds later. That caller has failed meanwhile, and another one was turned away. -/
def late : World Unit :=
  { early with
    clock := early.clock.jump 2
    breakers := #[(((Traffic.start { config := opensAfter 1 }).run firstFails).run
      (⟨7, .enter⟩ :: secondFailsLate)).breaker] }

def guarded (w : World Unit) : Try Unit Empty Unit :=
  ⟨w, ofTask (failing .aborted) (lone.wrap (.breaker 0)) unbound w⟩

theorem second_attempt_is_trial :
    Breaker.ofConfig (opensAfter 1) = .ok { config := opensAfter 1 } ∧
    1 ≤ hasty.maxAttempts.toNat ∧
    Run (failing .aborted) anyone (ofTask (failing .aborted)
        ((lone.wrap (.breaker 0)).retry (hasty.policy spread)) unbound early) [late]
      (.done (.error (.exhausted 2 .aborted)), (guarded late).latest.2) ∧
    Refused { config := opensAfter 1 } firstFails 0 (.ofNanos 999998) early ∧
    Undisturbed { config := opensAfter 1 } firstFails secondFailsLate 0 early late ∧
    ∃ g, (late.enter 0).1 = .ok g ∧ g.admission = .trial := by
  have hb : Breaker.ofConfig (opensAfter 1) = .ok { config := opensAfter 1 } := rfl
  have hp : 1 ≤ hasty.maxAttempts.toNat := by decide
  have htry (w : World Unit) : tries (failing .aborted) (lone.wrap (.breaker 0)) unbound w []
      (guarded w) (guarded w).latest := ⟨rfl, .begun⟩
  have hearly : (guarded early).latest =
      (.done (.error (.circuitOpen (.ofNanos 999998))), (early.enter 0).2) := rfl
  have hlate : (guarded late).latest = (.done (.error .aborted), (guarded late).latest.2) := rfl
  have hfirst : Asked (tries (failing .aborted) (lone.wrap (.breaker 0)) unbound)
      (hasty.policy spread) unbound 1 early [] (guarded early) (.circuitOpen (.ofNanos 999998))
      (.ok (.retry (.ofNanos 999998))) (early.enter 0).2 := .intro (hearly ▸ htry early) rfl
  have hslept : Slept unbound (.ofNanos 999998) (early.enter 0).2 [late] late :=
    .later rfl rfl (List.forall_mem_nil _) rfl rfl
  have hsecond : Asked (tries (failing .aborted) (lone.wrap (.breaker 0)) unbound)
      (hasty.policy spread) unbound 2 late [] (guarded late) .aborted (.ok .exhausted)
      (guarded late).latest.2 := .intro (hlate ▸ htry late) rfl
  have hlast : Attempts (tries (failing .aborted) (lone.wrap (.breaker 0)) unbound)
      (hasty.policy spread) unbound [.breaker 0] () 2 late [] [guarded late]
      (.done (.error (.exhausted 2 .aborted)), (guarded late).latest.2) := .exhausted hsecond
  have has := Attempts.again hfirst (by decide) hslept hlast
  obtain ⟨hiff, hwaited⟩ := open_breaker_is_waited_out hb (failing .aborted) lone 0 hp spread
    unbound early [late] (.done (.error (.exhausted 2 .aborted)), (guarded late).latest.2)
  have hrefused : Refused { config := opensAfter 1 } firstFails 0 (.ofNanos 999998) early :=
    ⟨rfl, rfl, rfl⟩
  have hkept : Undisturbed { config := opensAfter 1 } firstFails secondFailsLate 0 early late := by
    refine ⟨rfl, ?_, by decide⟩
    simp only [Shut]
    decide
  have hw := hwaited _ has 0 (guarded early) firstFails _ rfl (by decide) hrefused (by decide) rfl
  obtain ⟨g, u, _, _, henter, hg, _⟩ :=
    hw.admitted (guarded late) secondFailsLate rfl hkept (by decide)
  exact ⟨hb, hp, hiff.mpr ⟨_, has⟩, hrefused, hkept, g, congrArg Prod.fst henter, hg⟩

end Call

end Resilience
