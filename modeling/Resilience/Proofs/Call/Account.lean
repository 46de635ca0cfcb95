import Resilience.Proofs.Call.Layers

/-! What a chain of layers reports. The account of a call has, for each layer, the calls it has made
of what is below it, down to the invocations of the innermost work. A success is that of the last
invocation; a failure is that of the last invocation or has been raised by a layer of the chain; and
used up retries number the calls of the layer that has made them. -/

namespace Resilience

def Layer.Raises {ε : Type} : Layer ε → Failure → Prop
  | .timeout after, e => e = .timedOut after ∨ ∃ r, e = .cancelled r
  | .limiter _, e => (∃ d, e = .rateLimited d) ∨ ∃ r, e = .cancelled r
  | .breaker _, e => ∃ d, e = .circuitOpen d
  | .retry _, e => ∃ r, e = .cancelled r
  | .observe _, _ => False

inductive Layer.Reports {ε : Type} (l : Layer ε) (below : List (Option Outcome)) :
    Option Outcome → Prop
  | nothing : Layer.Reports l below none
  | passed {o : Option Outcome} : below.getLast? = some o → Layer.Reports l below o
  | usedUp {p : RetryPolicy ε} {e : Failure} : l = .retry p →
      below.getLast? = some (some (.error e)) →
      Layer.Reports l below (some (.error (.exhausted below.length e)))
  | raised {e : Failure} : l.Raises e → Layer.Reports l below (some (.error e))

lemma Layer.Raises.rootCause {ε : Type} {l : Layer ε} {e : Failure} (h : l.Raises e) :
    e.rootCause = e := by
  cases l with
  | timeout after => obtain rfl | ⟨r, rfl⟩ := h <;> rfl
  | limiter id => obtain ⟨d, rfl⟩ | ⟨r, rfl⟩ := h <;> rfl
  | breaker id =>
    obtain ⟨d, rfl⟩ := h
    rfl
  | retry p =>
    obtain ⟨r, rfl⟩ := h
    rfl
  | observe o => cases h

/-- What a call of a chain of layers has done, as a tree: the calls of the layers below, in order,
and the outcome, if it has come to one. -/
def Account (ε : Type) : List (Layer ε) → Type
  | [] => Option Outcome
  | _ :: rest => List (Account ε rest) × Option Outcome

namespace Account

variable {ε : Type}

def outcome : {layers : List (Layer ε)} → Account ε layers → Option Outcome
  | [], o => o
  | _ :: _, (_, o) => o

def innermost : {layers : List (Layer ε)} → Account ε layers → List (Option Outcome)
  | [], o => [o]
  | _ :: _, (calls, _) => calls.flatMap innermost

/-- Retries that are used up number the calls made, and have the last one's failure; a layer may
also pass on what the last call has reported. -/
def Numbered : {layers : List (Layer ε)} → Account ε layers → Prop
  | [], _ => True
  | .retry _ :: _, (calls, o) => (∀ a ∈ calls, a.Numbered) ∧
      ∀ n e, o = some (.error (.exhausted n e)) → (∃ a ∈ calls.getLast?, a.outcome = o) ∨
        n = calls.length ∧ ∃ a ∈ calls.getLast?, a.outcome = some (.error e)
  | _ :: _, (calls, _) => ∀ a ∈ calls, a.Numbered

def Explained : {layers : List (Layer ε)} → Account ε layers → Prop
  | [], _ => True
  | l :: _, (calls, o) => (∀ a ∈ calls, a.Explained) ∧ l.Reports (calls.map outcome) o

variable {layers : List (Layer ε)}

lemma getLast?_map_outcome {calls : List (Account ε layers)} {o : Option Outcome} :
    (calls.map outcome).getLast? = some o ↔ ∃ a ∈ calls.getLast?, a.outcome = o := by
  simp [List.getLast?_map]

lemma getLast?_flatMap_innermost {calls : List (Account ε layers)} {a : Account ε layers}
    {o : Option Outcome} (ha : a ∈ calls.getLast?) (ho : a.innermost.getLast? = some o) :
    (calls.flatMap innermost).getLast? = some o := by
  obtain ⟨before, rfl⟩ := List.getLast?_eq_some_iff.mp ha
  simp [ho]

lemma Explained.ok {a : Account ε layers} (h : a.Explained) (ho : a.outcome = some (.ok ())) :
    a.innermost.getLast? = some (some (.ok ())) := by
  induction layers with
  | nil => exact congrArg some ho
  | cons l rest ih =>
    obtain ⟨calls, o⟩ := a
    obtain ⟨hcalls, hr⟩ := h
    cases ho
    cases hr with
    | passed hl =>
      obtain ⟨b, hb, hbo⟩ := getLast?_map_outcome.mp hl
      have hlast := ih (hcalls b (List.mem_of_getLast? hb)) hbo
      exact getLast?_flatMap_innermost hb hlast

lemma Explained.error {a : Account ε layers} (h : a.Explained) {e : Failure}
    (ho : a.outcome = some (.error e)) :
    (∃ f, a.innermost.getLast? = some (some (.error f)) ∧ e.rootCause = f.rootCause) ∨
      ∃ l ∈ layers, l.Raises e.rootCause := by
  induction layers generalizing e with
  | nil => exact .inl ⟨e, congrArg some ho, rfl⟩
  | cons l rest ih =>
    obtain ⟨calls, o⟩ := a
    obtain ⟨hcalls, hr⟩ := h
    have hbelow {f : Failure} (hl : (calls.map outcome).getLast? = some (some (.error f))) :
        (∃ g, (calls.flatMap innermost).getLast? = some (some (.error g)) ∧
          f.rootCause = g.rootCause) ∨ ∃ l' ∈ l :: rest, l'.Raises f.rootCause := by
      obtain ⟨b, hb, hbo⟩ := getLast?_map_outcome.mp hl
      rcases ih (hcalls b (List.mem_of_getLast? hb)) hbo with ⟨g, hg, hroot⟩ | ⟨l', hl', hraise⟩
      · exact .inl ⟨g, getLast?_flatMap_innermost hb hg, hroot⟩
      · exact .inr ⟨l', List.mem_cons_of_mem l hl', hraise⟩
    cases ho
    cases hr with
    | passed hl => exact hbelow hl
    | @usedUp _ f _ hl => exact hbelow (f := f) hl
    | raised hraise => exact .inr ⟨l, List.mem_cons_self, hraise.rootCause.symm ▸ hraise⟩

lemma Explained.numbered {a : Account ε layers} (h : a.Explained) : a.Numbered := by
  induction layers with
  | nil => trivial
  | cons l rest ih =>
    obtain ⟨calls, o⟩ := a
    obtain ⟨hcalls, hr⟩ := h
    have hbelow : ∀ b ∈ calls, b.Numbered := fun b hb => ih (hcalls b hb)
    cases l with
    | retry p =>
      refine ⟨hbelow, fun n e ho => ?_⟩
      cases ho
      cases hr with
      | passed hl => exact .inl (getLast?_map_outcome.mp hl)
      | usedUp _ hl => exact .inr ⟨List.length_map _, getLast?_map_outcome.mp hl⟩
      | raised hraise => cases hraise.choose_spec
    | _ => exact hbelow

end Account

namespace Call

variable {β ι ε τ : Type}

def outcome (s : Step β ι ε) : Option Outcome :=
  match s.1 with
  | .done o => some o
  | _ => none

lemma outcome_eq_some {s : Step β ι ε} {o : Outcome} : outcome s = some o ↔ s.1 = .done o := by
  obtain ⟨r, w⟩ := s
  cases r <;> simp [outcome]

lemma outcome_afterTimed (x y : Context) (d : Nat) (after : Duration) (s : Step β ι ε) :
    outcome (afterTimed x y d after s) = outcome s ∨
      outcome (afterTimed x y d after s) = some (.error (.timedOut after)) := by
  unfold afterTimed
  split
  · exact .inl rfl
  · split
    · exact .inr rfl
    · exact .inl rfl
  · exact .inl rfl

lemma outcome_afterAdmitted (id : Nat) (g : Guard) (s : Step β ι ε) :
    outcome (afterAdmitted id g s) = outcome s := by
  unfold afterAdmitted
  split <;> rfl

lemma outcome_afterObserved (o : Observer ε) (s : Step β ι ε) :
    outcome (afterObserved o s) = outcome s := by
  unfold afterObserved
  split <;> rfl

lemma raises_of_queue {id : Nat} {x : Context} {w v : World ε} {e : Failure}
    (h : queue id x w = (.failed e, v)) : (.limiter id : Layer ε).Raises e := by
  unfold queue at h
  split at h
  · cases h
    exact .inr ⟨_, rfl⟩
  · split at h <;> cases h
    exact .inl ⟨_, rfl⟩

lemma raises_of_enter {id : Nat} {w v : World ε} {e : Failure}
    (h : w.enter id = (.error e, v)) : (.breaker id : Layer ε).Raises e := by
  obtain ⟨he, -⟩ := Prod.mk.inj h
  change ((w.breaker id).enter w.now).1 = .error e at he
  unfold Breaker.enter at he
  split at he
  · cases he
  · dsimp only at he
    split at he <;> cases he
    exact ⟨_, rfl⟩
  · cases he
    exact ⟨_, rfl⟩

section

variable {work : Work β ι ε} {rest : List (Layer ε)} {body : β} {x : Context}
  {runs : Runs τ β ι ε} {out : τ → Option Outcome} {w : World ε} {ws : List (World ε)}
  {ts : List τ} {s : Step β ι ε}

lemma UnderTimeout.reports {runs : Context → Runs τ β ι ε} {after : Duration}
    (hout : ∀ {y w ws t s}, runs y w ws t s → out t = outcome s)
    (h : UnderTimeout work runs after x w ws ts s) :
    (.timeout after : Layer ε).Reports (ts.map out) (outcome s) := by
  cases h with
  | ended _ | interrupted _ _ _ _ => exact .raised (.inr ⟨_, rfl⟩)
  | overflowed _ _ => exact .nothing
  | @through _ _ d y _ t s _ ht _ =>
    rcases outcome_afterTimed x y d after s with ho | ho <;> rw [ho]
    · exact .passed (by simp [hout ht])
    · exact .raised (.inl rfl)
  | elapsed _ _ _ _ _ => exact .raised (.inl rfl)

lemma UnderLimiter.reports {id : Nat} (hout : ∀ {w ws t s}, runs w ws t s → out t = outcome s)
    (h : UnderLimiter runs id x rest body w ws ts s) :
    (.limiter id : Layer ε).Reports (ts.map out) (outcome s) := by
  induction h with
  | failed hq => exact .raised (raises_of_queue hq)
  | served _ ht => exact .passed (by simp [hout ht])
  | waiting _ _ => exact .nothing
  | ended _ _ _ => exact .raised (.inr ⟨_, rfl⟩)
  | again _ _ _ _ _ ih => exact ih

lemma UnderBreaker.reports {id : Nat} (hout : ∀ {w ws t s}, runs w ws t s → out t = outcome s)
    (h : UnderBreaker runs id w ws ts s) :
    (.breaker id : Layer ε).Reports (ts.map out) (outcome s) := by
  cases h with
  | rejected he => exact .raised (raises_of_enter he)
  | admitted _ ht => exact .passed (by simp [hout ht, outcome_afterAdmitted])

lemma UnderObserver.reports {o : Observer ε}
    (hout : ∀ {w ws t s}, runs w ws t s → out t = outcome s)
    (h : UnderObserver runs o w ws ts s) :
    (.observe o : Layer ε).Reports (ts.map out) (outcome s) := by
  cases h with
  | through ht => exact .passed (by simp [hout ht, outcome_afterObserved])

lemma Attempts.reports {p : RetryPolicy ε} {k : Nat}
    (hout : ∀ {w ws t s}, runs w ws t s → out t = outcome s)
    (h : Attempts runs p x rest body k w ws ts s) (before : List (Option Outcome))
    (hk : before.length + 1 = k) :
    (Layer.retry p).Reports (before ++ ts.map out) (outcome s) := by
  have hasked {k w ws t e answer v} (ha : Asked runs p x k w ws t e answer v) :
      out t = some (.error e) := by
    cases ha with
    | intro ht _ => exact hout ht
  have hlast {before : List (Option Outcome)} {t o} (ht : out t = o) :
      (before ++ [t].map out).getLast? = some o := by
    simp [ht]
  have husedUp {before : List (Option Outcome)} {k t e} (hk : before.length + 1 = k)
      (ht : out t = some (.error e)) : (Layer.retry p).Reports (before ++ [t].map out)
        (some (.error (.exhausted k e))) := by
    have hlength : k = (before ++ [t].map out).length := by simp [hk]
    rw [hlength]
    exact .usedUp rfl (hlast ht)
  induction h generalizing before with
  | underway _ | crashed _ | stuck _ | waiting _ _ _ _ _ => exact .nothing
  | succeeded ht => exact .passed (hlast (hout ht))
  | overtaken _ _ | interrupted _ _ _ => exact .raised ⟨_, rfl⟩
  | aborted ha => exact .passed (hlast (hasked ha))
  | exhausted ha | spent ha _ => exact husedUp hk (hasked ha)
  | @again _ _ _ _ _ _ _ t _ _ _ _ _ _ _ _ ih =>
    have h := ih (before ++ [out t]) (by simp [hk])
    rwa [List.append_assoc] at h

lemma reports_of_under {runs : Context → Runs τ β ι ε} {l : Layer ε}
    (hout : ∀ {y w ws t s}, runs y w ws t s → out t = outcome s)
    (h : Under work rest body runs x l w ws ts s) : l.Reports (ts.map out) (outcome s) := by
  cases l with
  | timeout after => exact UnderTimeout.reports (fun ht => hout ht) h
  | limiter id => exact UnderLimiter.reports (fun ht => hout ht) h
  | breaker id => exact UnderBreaker.reports (fun ht => hout ht) h
  | retry p => exact Attempts.reports (fun ht => hout ht) h [] rfl
  | observe o => exact UnderObserver.reports (fun ht => hout ht) h

lemma Attempts.made {p : RetryPolicy ε} {k : Nat} (h : Attempts runs p x rest body k w ws ts s) :
    ∀ t ∈ ts, ∃ w ws s, runs w ws t s := by
  induction h with
  | underway ht | crashed ht | succeeded ht | overtaken ht _ =>
    exact List.forall_mem_singleton.mpr ⟨_, _, _, ht⟩
  | stuck ha | aborted ha | exhausted ha | spent ha _ | waiting ha _ _ _ _ | interrupted ha _ _ =>
    exact List.forall_mem_singleton.mpr ⟨_, _, ha.run⟩
  | again ha _ _ _ ih => exact List.forall_mem_cons.mpr ⟨⟨_, _, ha.run⟩, ih⟩

lemma UnderLimiter.made {id : Nat} (h : UnderLimiter runs id x rest body w ws ts s) :
    ∀ t ∈ ts, ∃ w ws s, runs w ws t s := by
  induction h with
  | failed _ | waiting _ _ | ended _ _ _ => exact List.forall_mem_nil _
  | served _ ht => exact List.forall_mem_singleton.mpr ⟨_, _, _, ht⟩
  | again _ _ _ _ _ ih => exact ih

lemma made_of_under {runs : Context → Runs τ β ι ε} {l : Layer ε}
    (h : Under work rest body runs x l w ws ts s) : ∀ t ∈ ts, ∃ y w ws s, runs y w ws t s := by
  cases l with
  | timeout after =>
    cases h with
    | ended _ | overflowed _ _ => exact List.forall_mem_nil _
    | through _ ht _ | interrupted _ ht _ _ | elapsed _ ht _ _ _ =>
      exact List.forall_mem_singleton.mpr ⟨_, _, _, _, ht⟩
  | limiter id => exact fun t ht => ⟨x, UnderLimiter.made h t ht⟩
  | breaker id =>
    cases h with
    | rejected _ => exact List.forall_mem_nil _
    | admitted _ ht => exact List.forall_mem_singleton.mpr ⟨x, _, _, _, ht⟩
  | retry p => exact fun t ht => ⟨x, Attempts.made h t ht⟩
  | observe o =>
    cases h with
    | through ht => exact List.forall_mem_singleton.mpr ⟨x, _, _, _, ht⟩

end

def Told (work : Work β ι ε) (body : β) :
    (layers : List (Layer ε)) → Context → Runs (Account ε layers) β ι ε
  | [], x => fun w ws a s => a = outcome s ∧ Run work anyone (start work [] body x w) ws s
  | l :: rest, x => fun w ws a s => a.2 = outcome s ∧
      Under work rest body (Told work body rest) x l w ws a.1 s

variable {work : Work β ι ε} {body : β} {layers : List (Layer ε)} {x : Context} {w : World ε}
  {ws : List (World ε)} {s : Step β ι ε}

lemma describes_told (work : Work β ι ε) (body : β) (layers : List (Layer ε)) (x : Context) :
    Describes work (start work layers body x) (Told work body layers x) := by
  induction layers generalizing x with
  | nil =>
    refine ⟨fun w => ?_, fun ha w' => ?_, fun ha => ha.2⟩
    · exact ⟨_, rfl, .begun⟩
    · exact ⟨_, rfl, ha.2.resumed w' trivial⟩
  | cons l rest ih =>
    have h := Describes.under ih l x
    refine ⟨fun w => ?_, fun ha w' => ?_, fun ha => h.genuine ha.2⟩
    · obtain ⟨calls, hc⟩ := h.begun w
      exact ⟨(calls, _), rfl, hc⟩
    · obtain ⟨calls, hc⟩ := h.resumed ha.2 w'
      exact ⟨(calls, _), rfl, hc⟩

lemma Told.outcome {a : Account ε layers} (h : Told work body layers x w ws a s) :
    a.outcome = Call.outcome s := by
  cases layers with
  | nil => exact h.1
  | cons l rest => exact h.1

lemma Told.explained {a : Account ε layers} (h : Told work body layers x w ws a s) :
    a.Explained := by
  induction layers generalizing x w ws s with
  | nil => trivial
  | cons l rest ih =>
    obtain ⟨calls, o⟩ := a
    obtain ⟨rfl, hc⟩ := h
    refine ⟨fun a ha => ?_, reports_of_under (fun ht => ht.outcome) hc⟩
    obtain ⟨_, _, _, _, ht⟩ := made_of_under hc a ha
    exact ih ht

theorem outcome_is_last_invocations_or_raised (work : Work β ι ε) (layers : List (Layer ε))
    (body : β) (x : Context) (w : World ε) (ws : List (World ε)) (s : Step β ι ε) :
    (Run work anyone (start work layers body x w) ws s ↔
      ∃ a, Told work body layers x w ws a s) ∧
    ∀ a, Told work body layers x w ws a s →
      (s.1 = .done (.ok ()) → a.innermost.getLast? = some (some (.ok ()))) ∧
      (∀ e, s.1 = .done (.error e) →
        (∃ f, a.innermost.getLast? = some (some (.error f)) ∧ e.rootCause = f.rootCause) ∨
          ∃ l ∈ layers, l.Raises e.rootCause) ∧
      a.Numbered := by
  refine ⟨(describes_told work body layers x).run_iff, fun a ha => ?_⟩
  have hexplained := ha.explained
  refine ⟨fun hs => ?_, fun e hs => ?_, hexplained.numbered⟩
  · exact hexplained.ok (ha.outcome.trans (outcome_eq_some.mpr hs))
  · exact hexplained.error (ha.outcome.trans (outcome_eq_some.mpr hs))

def twice : RetryPolicy Unit :=
  .ofFunction fun k _ => if k < 2 then .retry .zero else .exhausted

def nested : List (Layer Unit) := [.retry threeTimes, .timeout (.ofMillis 5), .retry twice]

def atTickWith (n fresh : Nat) : World Unit := { atTick n with cancellation := { fresh } }

theorem nested_retries_number_their_calls :
    Run (failing .aborted) anyone
      (start (failing .aborted) nested () ⟨⟨0, []⟩, none⟩ (atTickWith 0 1))
      [atTickWith 1 2, atTickWith 2 3]
      (.done (.error (.exhausted 3 (.exhausted 2 .aborted))), atTickWith 2 4) ∧
    ∃ a, Told (failing .aborted) () nested ⟨⟨0, []⟩, none⟩ (atTickWith 0 1)
        [atTickWith 1 2, atTickWith 2 3] a
        (.done (.error (.exhausted 3 (.exhausted 2 .aborted))), atTickWith 2 4) ∧
      (Progress.done (φ := Call Unit Empty Unit)
          (.error (.exhausted 3 (.exhausted 2 .aborted))) = .done (.ok ()) →
        a.innermost.getLast? = some (some (.ok ()))) ∧
      (∀ e, Progress.done (φ := Call Unit Empty Unit)
          (.error (.exhausted 3 (.exhausted 2 .aborted))) = .done (.error e) →
        (∃ f, a.innermost.getLast? = some (some (.error f)) ∧ e.rootCause = f.rootCause) ∨
          ∃ l ∈ nested, l.Raises e.rootCause) ∧
      a.Numbered := by
  have h : Run (failing .aborted) anyone
      (start (failing .aborted) nested () ⟨⟨0, []⟩, none⟩ (atTickWith 0 1)) []
      (.pending (.pausing threeTimes ⟨⟨0, []⟩, none⟩ 4294967293 1000000
        [.timeout (.ofMillis 5), .retry twice] ()), atTickWith 0 2) := .begun
  have h₂ := (h.resumed (atTickWith 1 2) trivial).resumed (atTickWith 2 3) trivial
  obtain ⟨hiff, hall⟩ := outcome_is_last_invocations_or_raised (failing .aborted) nested ()
    ⟨⟨0, []⟩, none⟩ (atTickWith 0 1) [atTickWith 1 2, atTickWith 2 3]
    (.done (.error (.exhausted 3 (.exhausted 2 .aborted))), atTickWith 2 4)
  obtain ⟨a, ha⟩ := hiff.mp h₂
  exact ⟨h₂, a, ha, hall a ha⟩

end Call

end Resilience
