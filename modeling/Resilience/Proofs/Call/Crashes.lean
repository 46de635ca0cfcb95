import Resilience.Proofs.Call.Layers

namespace Resilience

variable {β ι ε τ : Type}

def Layer.Causes : Layer ε → Crash → Clock → Prop
  | .timeout after, k, c => k = .deadlineOverflow ∧ c.deadline? after = none
  | .retry p, k, c => ∃ attempt e notes, (p.decide c.now attempt e notes).1 = .error k
  | .limiter _, _, _ | .breaker _, _, _ | .observe _, _, _ => False

namespace Call

section

variable {work : Work β ι ε} {rest : List (Layer ε)} {body : β} {x : Context}
  {runs : Runs τ β ι ε} {w v : World ε} {ws : List (World ε)} {ts : List τ} {s : Step β ι ε}
  {k : Crash}

def Crashes (runs : Runs τ β ι ε) (k : Crash) (c : Clock) : Prop :=
  ∃ w ws t v, runs w ws t (.crashed k, v) ∧ v.clock = c

lemma UnderTimeout.crash {runs : Context → Runs τ β ι ε} {after : Duration}
    (h : UnderTimeout work runs after x w ws ts (.crashed k, v)) :
    (∃ y, Crashes (runs y) k v.clock) ∨ (.timeout after : Layer ε).Causes k v.clock := by
  generalize hs : ((.crashed k, v) : Step β ι ε) = s at h
  cases h with
  | overflowed _ hd =>
    cases hs
    exact .inr ⟨rfl, hd⟩
  | @through _ _ d y _ t s _ ht _ =>
    unfold afterTimed at hs
    split at hs
    · cases hs
    · split at hs <;> cases hs
    · subst hs
      exact .inl ⟨y, _, _, t, v, ht, rfl⟩
  | _ => cases hs

lemma UnderLimiter.crash {id : Nat}
    (h : UnderLimiter runs id x rest body w ws ts s) (hs : s = (.crashed k, v)) :
    Crashes runs k v.clock := by
  induction h with
  | served _ ht =>
    subst hs
    exact ⟨_, _, _, v, ht, rfl⟩
  | again _ _ _ _ _ ih => exact ih hs
  | _ => cases hs

lemma UnderBreaker.crash {id : Nat} (h : UnderBreaker runs id w ws ts (.crashed k, v)) :
    Crashes runs k v.clock := by
  generalize hs : ((.crashed k, v) : Step β ι ε) = s at h
  cases h with
  | rejected _ => cases hs
  | admitted _ ht =>
    unfold afterAdmitted at hs
    split at hs <;> cases hs
    exact ⟨_, _, _, _, ht, rfl⟩

lemma UnderObserver.crash {o : Observer ε} (h : UnderObserver runs o w ws ts (.crashed k, v)) :
    Crashes runs k v.clock := by
  generalize hs : ((.crashed k, v) : Step β ι ε) = s at h
  cases h with
  | through ht =>
    unfold afterObserved at hs
    split at hs
    · cases hs
    · cases hs
    · subst hs
      exact ⟨_, _, _, v, ht, rfl⟩

lemma Attempts.crash {p : RetryPolicy ε} {n : Nat} (h : Attempts runs p x rest body n w ws ts s)
    (hs : s = (.crashed k, v)) :
    Crashes runs k v.clock ∨ (.retry p : Layer ε).Causes k v.clock := by
  induction h with
  | crashed ht =>
    cases hs
    exact .inl ⟨_, _, _, _, ht, rfl⟩
  | @stuck n _ _ _ _ e _ ha =>
    cases hs
    generalize hanswer : (Except.error k : Except Crash Decision) = answer at ha
    cases ha with
    | intro _ _ => exact .inr ⟨n, e, _, hanswer.symm⟩
  | again _ _ _ _ ih => exact ih hs
  | _ => cases hs

lemma crash_of_under {runs : Context → Runs τ β ι ε} {l : Layer ε}
    (h : Under work rest body runs x l w ws ts (.crashed k, v)) :
    (∃ y, Crashes (runs y) k v.clock) ∨ l.Causes k v.clock := by
  cases l with
  | timeout after => exact UnderTimeout.crash h
  | limiter id => exact .inl ⟨x, UnderLimiter.crash h rfl⟩
  | breaker id => exact .inl ⟨x, UnderBreaker.crash h⟩
  | retry p => exact (Attempts.crash h rfl).imp (fun hc => ⟨x, hc⟩) id
  | observe o => exact .inl ⟨x, UnderObserver.crash h⟩

theorem crash_is_inner_or_caused {layers : List (Layer ε)}
    (h : Run work anyone (start work (layers ++ rest) body x w) ws (.crashed k, v)) :
    (∃ y u us v', Run work anyone (start work rest body y u) us (.crashed k, v') ∧
      v'.clock = v.clock) ∨ ∃ l ∈ layers, l.Causes k v.clock := by
  induction layers generalizing x w ws v with
  | nil => exact .inl ⟨x, w, ws, v, h, rfl⟩
  | cons l layers ih =>
    have hbelow := describes_invocations work ⟨"", layers ++ rest, body⟩
    obtain ⟨ts, hu⟩ := (Describes.under hbelow l x).run_iff.mp h
    rcases crash_of_under hu with ⟨y, u, us, _, v', ht, hv⟩ | hl
    · rcases ih ht.2 with ⟨y', u', us', v'', hr, hv'⟩ | ⟨l', hl', hc⟩
      · exact .inl ⟨y', u', us', v'', hr, hv'.trans hv⟩
      · exact .inr ⟨l', List.mem_cons_of_mem l hl', hv ▸ hc⟩
    · exact .inr ⟨l, List.mem_cons_self, hl⟩

end

end Call

def Pipeline.layers (p : Pipeline) (limiter breaker : Option Nat) (draw : ε → Float × ε) :
    List (Layer ε) :=
  (p.timeout.map .timeout).toList ++
    ((p.retry.filter (·.maxAttempts.toNat ≠ 0)).map fun r => .retry (r.policy draw)).toList ++
    (breaker.map .breaker).toList ++ (limiter.map .limiter).toList ++
    (p.attemptTimeout.map .timeout).toList

namespace Task

variable (t : Task β ε)

@[simp] lemma layers_wrapIf {α : Type} (part : Option α) (f : α → Layer ε) :
    (t.wrapIf part f).layers = (part.map f).toList ++ t.layers := by
  cases part <;> rfl

@[simp] lemma body_wrapIf {α : Type} (part : Option α) (f : α → Layer ε) :
    (t.wrapIf part f).body = t.body := by
  cases part <;> rfl

lemma retry_policy (r : BackoffPolicy Float) (draw : ε → Float × ε) :
    t.retry (r.policy draw) =
      if r.maxAttempts.toNat ≠ 0 then t.wrap (.retry (r.policy draw)) else t := by
  simp [retry, BackoffPolicy.policy]

lemma layers_under (p : Pipeline) (limiter breaker : Option Nat) (draw : ε → Float × ε) :
    (t.under p limiter breaker draw).layers = p.layers limiter breaker draw ++ t.layers := by
  unfold under Pipeline.layers
  cases p.retry with
  | none => simp
  | some r =>
    simp only [retry_policy]
    split <;> rename_i hr <;> simp [Option.filter, hr, wrap]

lemma body_under (p : Pipeline) (limiter breaker : Option Nat) (draw : ε → Float × ε) :
    (t.under p limiter breaker draw).body = t.body := by
  unfold under
  cases p.retry with
  | none => simp
  | some r =>
    simp only [retry_policy]
    split <;> simp [wrap]

end Task

end Resilience
