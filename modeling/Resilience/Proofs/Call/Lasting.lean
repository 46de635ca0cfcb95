import Mathlib.Tactic.Lemma
import Resilience.Call

namespace Resilience

variable {β ι ε : Type}

def Ambient.Keeps (a b : Ambient ε) : Prop := a.cancellation.cancelled ⊆ b.cancellation.cancelled

namespace Ambient.Keeps

variable {a b c : Ambient ε}

lemma of_eq (h : b.cancellation = a.cancellation) : Keeps a b := by
  unfold Keeps
  rw [h]
  exact List.Subset.refl _

lemma refl (a : Ambient ε) : Keeps a a := of_eq rfl

lemma trans (h : Keeps a b) (h' : Keeps b c) : Keeps a c := List.Subset.trans h h'

lemma cancel (a : Ambient ε) (x : Context) : Keeps a (a.cancel x) := by
  unfold Keeps Ambient.cancel Cancellation.cancel
  split
  · exact List.Subset.refl _
  · exact List.subset_cons_self _ _

lemma isCancelled (h : Keeps a b) {t : Token} (ht : a.cancellation.isCancelled t = true) :
    b.cancellation.isCancelled t = true := by
  simp only [Cancellation.isCancelled, List.any_eq_true, List.contains_iff_mem] at ht ⊢
  obtain ⟨i, hi, hc⟩ := ht
  exact ⟨i, hi, h hc⟩

end Ambient.Keeps

structure Work.Lasting (work : Work β ι ε) : Prop where
  start : ∀ body x (a : Ambient ε), a.Keeps (work.start body x a).2
  resume : ∀ i (a : Ambient ε), a.Keeps (work.resume i a).2
  abandon : ∀ i (a : Ambient ε), a.Keeps (work.abandon i a)

namespace Call

open Ambient (Keeps)

variable {work : Work β ι ε} {a : Ambient ε} {s : Step β ι ε}

lemma lasts_afterTimed (h : a.Keeps s.2.toAmbient) (x y : Context) (d : Nat) (after : Duration) :
    a.Keeps (afterTimed x y d after s).2.toAmbient := by
  unfold afterTimed
  split
  · exact h
  · split <;> exact h
  · exact h

lemma lasts_afterAdmitted (h : a.Keeps s.2.toAmbient) (breaker : Nat) (guard : Guard) :
    a.Keeps (afterAdmitted breaker guard s).2.toAmbient := by
  unfold afterAdmitted
  split <;> exact h

lemma lasts_afterObserved (h : a.Keeps s.2.toAmbient) (o : Observer ε) :
    a.Keeps (afterObserved o s).2.toAmbient := by
  unfold afterObserved
  split <;> exact h

lemma verdict_lasts (p : RetryPolicy ε) (x : Context) (attempt : Nat) (e : Failure)
    (w : World ε) : w.Keeps (verdict p x attempt e w).2.toAmbient := by
  unfold verdict
  split <;> exact .refl _

lemma queue_lasts (id : Nat) (x : Context) (w : World ε) :
    w.Keeps (queue id x w).2.toAmbient := by
  unfold queue
  split
  · exact .refl _
  · split <;> rename_i hr <;> exact .of_eq (congrArg (fun s => s.2.cancellation) hr.symm)

lemma enter_lasts (id : Nat) (w : World ε) : w.Keeps (w.enter id).2.toAmbient := .refl _

lemma lasts_afterAttempt (h : a.Keeps s.2.toAmbient) (p : RetryPolicy ε) (x : Context) (left : Nat)
    (rest : List (Layer ε)) (body : β) {again : Option (World ε → Step β ι ε)}
    (hagain : ∀ f ∈ again, ∀ u : World ε, u.Keeps (f u).2.toAmbient) :
    a.Keeps (afterAttempt p x left rest body again s).2.toAmbient := by
  unfold afterAttempt
  split
  · exact h
  · exact h
  · exact h
  · rename_i e u
    have hu := h.trans (verdict_lasts p x (lastAttempt - left) e u)
    dsimp only
    split <;> rename_i hverdict <;> rw [hverdict] at hu
    · exact hu
    · exact hu
    · split
      · exact hu
      · rename_i f
        split
        · exact hu.trans (hagain f rfl _)
        · exact hu
        · exact hu

section

variable (p : RetryPolicy ε) (x : Context) (rest : List (Layer ε)) (body : β)
  {once : World ε → Step β ι ε} (honce : ∀ w : World ε, w.Keeps (once w).2.toAmbient)
include honce

lemma attempts_lasts (left : Nat) (w : World ε) :
    w.Keeps (attempts p x rest body once left w).2.toAmbient := by
  induction left generalizing w with
  | zero => exact lasts_afterAttempt (honce w) p x 0 rest body (by simp)
  | succ left ih =>
    apply lasts_afterAttempt (honce w)
    rintro f ⟨⟩
    exact ih

lemma further_lasts (left : Nat) :
    ∀ f ∈ further p x rest body once left, ∀ w : World ε, w.Keeps (f w).2.toAmbient := by
  cases left with
  | zero => simp [further]
  | succ left =>
    rintro f ⟨⟩
    exact attempts_lasts p x rest body honce left

end

lemma start_lasts (hwork : work.Lasting) (layers : List (Layer ε)) (body : β) (x : Context)
    (w : World ε) : w.Keeps (start work layers body x w).2.toAmbient := by
  induction layers generalizing x w with
  | nil => exact hwork.start body x w.toAmbient
  | cons l rest ih =>
    cases l with
    | timeout after =>
      unfold start
      split
      · exact .refl _
      · split
        · exact .refl _
        · rename_i deadline _
          have hd : w.Keeps (w.withDeadline x deadline).2 := List.Subset.refl _
          have hinner := ih (w.withDeadline x deadline).1
            { w with toAmbient := (w.withDeadline x deadline).2 }
          exact lasts_afterTimed (hd.trans hinner) x _ deadline after
    | limiter id =>
      have hq := queue_lasts id x w
      unfold start
      split <;> rename_i hqueue <;> rw [hqueue] at hq
      · exact hq.trans (ih x _)
      · exact hq
      · exact hq
    | breaker id =>
      have he := enter_lasts id w
      unfold start
      split <;> rename_i henter <;> rw [henter] at he
      · exact lasts_afterAdmitted (he.trans (ih x _)) _ _
      · exact he
    | retry p => exact attempts_lasts p x rest body (ih x) _ w
    | observe o =>
      have hn : w.Keeps { w with notes := o.before w.now w.notes }.toAmbient := List.Subset.refl _
      exact lasts_afterObserved (hn.trans (ih x _)) o

lemma drop_lasts (hwork : work.Lasting) (c : Call β ι ε) (w : World ε) :
    w.Keeps (drop work c w).toAmbient := by
  induction c generalizing w with
  | working i => exact hwork.abandon i w.toAmbient
  | timed _ _ _ _ c ih | attempting _ _ _ _ _ c ih | observed _ c ih => exact ih w
  | admitted breaker guard c ih => exact ih w
  | queueing | pausing => exact .refl _

lemma cut_lasts (hwork : work.Lasting) (y : Context) (c : Call β ι ε) (w : World ε) :
    w.Keeps (cut work y c w).toAmbient :=
  (drop_lasts hwork c w).trans (.cancel _ y)

lemma resume_lasts (hwork : work.Lasting) (c : Call β ι ε) (w : World ε) :
    w.Keeps (resume work c w).2.toAmbient := by
  induction c generalizing w with
  | working i => exact hwork.resume i w.toAmbient
  | timed caller y d after c ih =>
    unfold resume
    split
    · exact cut_lasts hwork y c w
    · split
      · exact cut_lasts hwork y c w
      · exact lasts_afterTimed (ih w) _ _ _ _
  | queueing id x wake rest body =>
    unfold resume
    split
    · exact .refl _
    · exact .refl _
    · have hq := queue_lasts id x w
      split <;> rename_i hqueue <;> rw [hqueue] at hq
      · exact hq.trans (start_lasts hwork rest body x _)
      · exact hq
      · exact hq
  | admitted breaker guard c ih => exact lasts_afterAdmitted (ih w) _ _
  | attempting p x left rest body c ih =>
    apply lasts_afterAttempt (ih w)
    exact further_lasts p x rest body (start_lasts hwork rest body x) left
  | pausing p x left wake rest body =>
    unfold resume
    split
    · exact .refl _
    · exact .refl _
    · exact attempts_lasts p x rest body (start_lasts hwork rest body x) left w
  | observed o c ih => exact lasts_afterObserved (ih w) o

lemma ofTask_lasts (hwork : work.Lasting) (t : Task β ε) (x : Context) (w : World ε) :
    w.Keeps (ofTask work t x w).2.toAmbient :=
  start_lasts hwork t.layers t.body x w

end Call

end Resilience
