import Resilience.Proofs.Call.Cancelled

/-! Calls of a task with a timeout. Such a call makes one call of the task, under a child context
that ends with the timeout, and hands on what comes of it unless it gives it up: because it notices
the end of its own context, or because the timer of the timeout fires. Both are noticed by timers,
but what the inner call makes of its deadline is judged by the clock. -/

namespace Resilience

lemma Context.earlier_eq (x : Context) (d : Nat) : x.earlier d = x.deadline.elim d (min d) := by
  unfold earlier
  cases x.deadline with
  | none => rfl
  | some own =>
    simp only [Option.elim_some]
    split <;> omega

lemma Context.earlier_le (x : Context) (d : Nat) : x.earlier d ≤ d := by
  rw [earlier_eq]
  cases x.deadline with
  | none => exact Nat.le_refl _
  | some own => exact Nat.min_le_left _ _

namespace Call

variable {β ι ε : Type}

/-- How a call under a timeout goes that `x` has made and that lasts until `d`, by the run of the
call under it: that was looked at in `us` and stands at `inner`. -/
inductive Timed (work : Work β ι ε) (x y : Context) (d : Nat) (after : Duration)
    (us : List (World ε)) : Step β ι ε → List (World ε) → Step β ι ε → Prop
  | waiting {c : Call β ι ε} {v : World ε} : (∀ u ∈ us, Unfinished x d u) →
      Timed work x y d after us (.pending c, v) us (.pending (.timed x y d after c), v)
  | crashed {k : Crash} {v : World ε} : (∀ u ∈ us, Unfinished x d u) →
      Timed work x y d after us (.crashed k, v) us (.crashed k, v)
  | returned {r : Outcome} {v : World ε} : (∀ u ∈ us, Unfinished x d u) →
      ¬ (r = cancelled .deadlineExceeded ∧ v.err x = none ∧ d ≤ v.now) →
      Timed work x y d after us (.done r, v) us (.done r, v)
  | expired {v : World ε} : (∀ u ∈ us, Unfinished x d u) → v.err x = none → d ≤ v.now →
      Timed work x y d after us (.done (cancelled .deadlineExceeded), v) us
        (.done (.error (.timedOut after)), v)
  | interrupted {c : Call β ι ε} {v u : World ε} {r : Reason} : (∀ u ∈ us, Unfinished x d u) →
      u.noticed x = some r →
      Timed work x y d after us (.pending c, v) (us ++ [u]) (.done (cancelled r), cut work y c u)
  | elapsed {c : Call β ι ε} {v u : World ε} : (∀ u ∈ us, Unfinished x d u) →
      u.noticed x = none → u.clock.passed d = true →
      Timed work x y d after us (.pending c, v) (us ++ [u])
        (.done (.error (.timedOut after)), cut work y c u)

section

variable {work : Work β ι ε} {x y : Context} {d : Nat} {after : Duration} {w v : World ε}
  {us ws : List (World ε)} {inner s : Step β ι ε}

lemma Timed.through (h : ∀ u ∈ us, Unfinished x d u) (inner : Step β ι ε) :
    Timed work x y d after us inner us (afterTimed x y d after inner) := by
  unfold afterTimed
  split
  · exact .waiting h
  · rename_i v
    split <;> rename_i hover
    · exact .expired h (Option.isNone_iff_eq_none.mp hover.1) hover.2
    · refine .returned h ?_
      rintro ⟨-, hlive, hd⟩
      exact hover ⟨by simp [hlive], hd⟩
  · rename_i hpending hdeadline
    rcases inner with ⟨r | k | c, v⟩
    · refine .returned h ?_
      rintro ⟨rfl, -⟩
      exact hdeadline v rfl
    · exact .crashed h
    · exact absurd rfl (hpending c v)

lemma afterTimed_eq_self {r : Outcome} {v : World ε}
    (h : ¬ (r = cancelled .deadlineExceeded ∧ v.err x = none ∧ d ≤ v.now)) :
    afterTimed x y d after (.done r, v) = ((.done r, v) : Step β ι ε) := by
  unfold afterTimed
  split
  · rename_i hs
    cases hs
  · rename_i hs
    cases hs
    rw [if_neg fun hover => h ⟨rfl, Option.isNone_iff_eq_none.mp hover.1, hover.2⟩, cancelled]
  · rfl

lemma underTimeout_iff {t : Task β ε} (ho : Opened after x w d y v) :
    (∃ ts, UnderTimeout work (invocations work t) after x w ws ts s) ↔
      ∃ us inner, Run work anyone (ofTask work t y v) us inner ∧
        Timed work x y d after us inner ws s := by
  have hsame {d' y' v'} (ho' : Opened after x w d' y' v') : d' = d ∧ y' = y ∧ v' = v := by
    obtain rfl := Option.some.inj (ho'.deadline.symm.trans ho.deadline)
    exact ⟨rfl, Prod.mk.inj (ho'.child.symm.trans ho.child)⟩
  constructor
  · rintro ⟨ts, hu⟩
    cases hu with
    | ended he => cases he.symm.trans ho.live
    | overflowed _ hd => cases hd.symm.trans ho.deadline
    | through ho' ht hu =>
      obtain ⟨rfl, rfl, rfl⟩ := hsame ho'
      exact ⟨ws, _, ht.2, .through hu _⟩
    | interrupted ho' ht hu hn =>
      obtain ⟨rfl, rfl, rfl⟩ := hsame ho'
      exact ⟨_, _, ht.2, .interrupted hu hn⟩
    | elapsed ho' ht hu hn hp =>
      obtain ⟨rfl, rfl, rfl⟩ := hsame ho'
      exact ⟨_, _, ht.2, .elapsed hu hn hp⟩
  · rintro ⟨us, inner, hr, ht⟩
    have hthrough (hu : ∀ u ∈ us, Unfinished x d u) :
        UnderTimeout work (invocations work t) after x w us [v] (afterTimed x y d after inner) :=
      .through ho ⟨rfl, hr⟩ hu
    cases ht with
    | waiting hu | crashed hu => exact ⟨[v], hthrough hu⟩
    | returned hu hkept =>
      rw [← afterTimed_eq_self hkept]
      exact ⟨[v], hthrough hu⟩
    | expired hu hl hd =>
      have hexpired := hthrough hu
      rw [cancelled, afterTimed, if_pos ⟨by simp [hl], hd⟩] at hexpired
      exact ⟨[v], hexpired⟩
    | interrupted hu hn => exact ⟨[v], .interrupted ho ⟨rfl, hr⟩ hu hn⟩
    | elapsed hu hn hp => exact ⟨[v], .elapsed ho ⟨rfl, hr⟩ hu hn hp⟩

lemma err_cut (y : Context) (c : Call β ι ε) (u : World ε) :
    (cut work y c u).err y = some .cancelled := by
  have hc : (cut work y c u).cancellation.isCancelled y.token = true := by
    simp [cut, World.onAmbient, Ambient.cancel, Token.lineage]
  simp only [Ambient.err, Context.err, hc, if_true]

lemma Opened.deadline_child (ho : Opened after x w d y v) : y.deadline = some (x.earlier d) := by
  obtain rfl : (w.withDeadline x d).1 = y := congrArg Prod.fst ho.child
  rfl

lemma Opened.ancestors_child (ho : Opened after x w d y v) :
    y.token.ancestors = x.token.lineage := by
  obtain rfl : (w.withDeadline x d).1 = y := congrArg Prod.fst ho.child
  rfl

end

/-- What a finished call under a timeout may have come to: the caller's context has ended, or the
timeout is over, or the result is the inner one. The first two are answers of the layer itself. -/
inductive TimedAnswer (x y : Context) (d : Nat) (after : Duration) (us : List (World ε))
    (inner : Step β ι ε) : List (World ε) → Outcome → World ε → Prop
  | interrupted {c : Call β ι ε} {v u v' : World ε} {r : Reason} : inner = (.pending c, v) →
      u.err x = some r → v'.err y ≠ none →
      TimedAnswer x y d after us inner (us ++ [u]) (cancelled r) v'
  | elapsed {c : Call β ι ε} {v u v' : World ε} : inner = (.pending c, v) → d ≤ u.now →
      v'.err y ≠ none → TimedAnswer x y d after us inner (us ++ [u]) (.error (.timedOut after)) v'
  | expired {v : World ε} : inner = (.done (cancelled .deadlineExceeded), v) → v.err x = none →
      d ≤ v.now → v.err y ≠ none →
      TimedAnswer x y d after us inner us (.error (.timedOut after)) v
  | verbatim {r : Outcome} {v : World ε} : inner = (.done r, v) →
      (r = cancelled .deadlineExceeded → v.err x ≠ none ∨ v.now < d) →
      TimedAnswer x y d after us inner us r v

lemma Timed.answer {work : Work β ι ε} {x y : Context} {d : Nat} {after : Duration} {v : World ε}
    {us ws : List (World ε)} {inner : Step β ι ε} {o : Outcome}
    (hy : y.deadline = some (x.earlier d))
    (h : Timed work x y d after us inner ws (.done o, v)) :
    TimedAnswer x y d after us inner ws o v := by
  generalize hs : ((.done o, v) : Step β ι ε) = s at h
  cases h with
  | waiting _ | crashed _ => cases hs
  | returned _ hkept =>
    cases hs
    refine .verbatim rfl fun ho => ?_
    cases hx : v.err x with
    | some r => exact .inl nofun
    | none => exact .inr (Nat.lt_of_not_le fun hd => hkept ⟨ho, hx, hd⟩)
  | expired _ hlive hd =>
    cases hs
    have hdone : v.err y ≠ none :=
      Ambient.err_ne_none_iff.mpr (.inr ⟨_, hy, Nat.le_trans (x.earlier_le d) hd⟩)
    exact .expired rfl hlive hd hdone
  | interrupted _ hn =>
    cases hs
    exact .interrupted rfl (Context.err_of_noticed hn) (by simp [err_cut])
  | elapsed _ _ hp =>
    cases hs
    exact .elapsed rfl (Clock.le_now_of_passed hp) (by simp [err_cut])

theorem timeout_calls_once (work : Work β ι ε) {t u : Task β ε} {after : Duration}
    (ht : t.timeout after = .ok u) (x : Context) (w : World ε)
    (hd : w.now + after.nanos < Instant.horizon) :
    (∀ r, w.err x = some r → ∀ ws s, Run work anyone (ofTask work u x w) ws s ↔
      ws = [] ∧ s = (.done (cancelled r), w)) ∧
    (w.err x = none → ∃ y v, w.onAmbient (·.withDeadline x (w.now + after.nanos)) = (y, v) ∧
      y.token.ancestors = x.token.lineage ∧
      y.deadline = some (x.deadline.elim (w.now + after.nanos) (min (w.now + after.nanos))) ∧
      (∀ ws s, Run work anyone (ofTask work u x w) ws s ↔
        ∃ us inner, Run work anyone (ofTask work t y v) us inner ∧
          Timed work x y (w.now + after.nanos) after us inner ws s) ∧
      ∀ us inner ws o v', Timed work x y (w.now + after.nanos) after us inner ws (.done o, v') →
        TimedAnswer x y (w.now + after.nanos) after us inner ws o v') := by
  have htask : u = t.wrap (.timeout after) := by
    unfold Task.timeout at ht
    split at ht <;> cases ht
    rfl
  subst htask
  have hdescribes := Describes.timeout (x := x) (describes_invocations work t) after
  have hdeadline : w.clock.deadline? after = some (w.now + after.nanos) := if_pos hd
  refine ⟨fun r hr ws s => ?_, fun hlive => ?_⟩
  · refine hdescribes.run_iff.trans ⟨?_, ?_⟩
    · rintro ⟨ts, hu⟩
      cases hu with
      | ended he =>
        obtain rfl := Option.some.inj (he.symm.trans hr)
        exact ⟨rfl, rfl⟩
      | overflowed he _ => cases he.symm.trans hr
      | through ho _ _ | interrupted ho _ _ _ | elapsed ho _ _ _ _ => cases ho.live.symm.trans hr
    · rintro ⟨rfl, rfl⟩
      exact ⟨[], .ended hr⟩
  · have ho : Opened after x w (w.now + after.nanos) _ _ := ⟨hlive, hdeadline, rfl⟩
    have hy := ho.deadline_child
    exact ⟨_, _, rfl, ho.ancestors_child, x.earlier_eq _ ▸ hy,
      fun ws s => hdescribes.run_iff.trans (underTimeout_iff ho),
      fun us inner ws o v' h => h.answer hy⟩

def withTokens (n : Nat) (w : World Unit) : World Unit := { w with cancellation := { fresh := n } }

theorem tight_timeout_calls_once : ∃ (u : Task Unit Unit) (y : Context) (v : World Unit),
    lone.timeout (.ofNanos 700000) = .ok u ∧
    midTick.now + (Duration.ofNanos 700000).nanos < Instant.horizon ∧
    Run untilEnd anyone (ofTask untilEnd u ⟨⟨0, []⟩, none⟩ (withTokens 1 midTick))
      [withTokens 2 pastTick]
      (.done (.error (.timedOut (.ofNanos 700000))), withTokens 2 pastTick) ∧
    ∃ us inner, Run untilEnd anyone (ofTask untilEnd lone y v) us inner ∧
      TimedAnswer ⟨⟨0, []⟩, none⟩ y (midTick.now + (Duration.ofNanos 700000).nanos)
        (.ofNanos 700000) us inner [withTokens 2 pastTick] (.error (.timedOut (.ofNanos 700000)))
        (withTokens 2 pastTick) := by
  have ht : (lone (ε := Unit)).timeout (.ofNanos 700000) =
      .ok (lone.wrap (.timeout (.ofNanos 700000))) := rfl
  have hd : midTick.now + (Duration.ofNanos 700000).nanos < Instant.horizon := by decide
  have h : Run untilEnd anyone
      (ofTask untilEnd (lone.wrap (.timeout (.ofNanos 700000))) ⟨⟨0, []⟩, none⟩
        (withTokens 1 midTick)) []
      (.pending (.timed ⟨⟨0, []⟩, none⟩ ⟨⟨1, [0]⟩, some 1200000⟩
        (midTick.now + (Duration.ofNanos 700000).nanos) (.ofNanos 700000)
        (.working ⟨⟨1, [0]⟩, some 1200000⟩)), withTokens 2 midTick) := .begun
  have h₂ := h.resumed (withTokens 2 pastTick) trivial
  obtain ⟨y, v, _, _, _, hrun, hanswer⟩ := (timeout_calls_once untilEnd ht ⟨⟨0, []⟩, none⟩
    (withTokens 1 midTick) hd).2 (by decide)
  obtain ⟨us, inner, hinner, htimed⟩ := (hrun [withTokens 2 pastTick]
    (.done (.error (.timedOut (.ofNanos 700000))), withTokens 2 pastTick)).mp h₂
  exact ⟨_, y, v, ht, hd, h₂, us, inner, hinner, hanswer us inner _ _ _ htimed⟩

end Call

end Resilience
