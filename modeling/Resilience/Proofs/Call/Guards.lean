import Mathlib.Data.Multiset.AddSub
import Resilience.Proofs.Call.Account

namespace Resilience

variable {β ι ε : Type}

abbrev Guards := Multiset (Nat × Guard)

namespace Call

def guards : Call β ι ε → Guards
  | working _ | queueing .. | pausing .. => 0
  | timed _ _ _ _ c | attempting _ _ _ _ _ c | observed _ c => c.guards
  | admitted id g c => (id, g) ::ₘ c.guards

def Step.guards (s : Step β ι ε) : Guards :=
  match s.1 with
  | .pending c => c.guards
  | _ => 0

/-- Ways to get from one world with some guards in hand to another with others. -/
inductive Handles (w : World ε) (gs : Guards) : World ε → Guards → Prop
  | refl : Handles w gs w gs
  | aside {v v' : World ε} {hs : Guards} : Handles w gs v hs → v'.breakers = v.breakers →
      Handles w gs v' hs
  | admitted {v v' : World ε} {hs : Guards} {id : Nat} {g : Guard} : Handles w gs v hs →
      v.enter id = (.ok g, v') → Handles w gs v' ((id, g) ::ₘ hs)
  | rejected {v v' : World ε} {hs : Guards} {id : Nat} {e : Failure} : Handles w gs v hs →
      v.enter id = (.error e, v') → Handles w gs v' hs
  | settled {v : World ε} {hs : Guards} {id : Nat} {g : Guard} (q : Settlement) :
      Handles w gs v ((id, g) ::ₘ hs) → Handles w gs (v.settle id g q) hs

def Handled (w : World ε) (gs : Guards) (s : Step β ι ε) : Prop := Handles w gs s.2 s.guards

section

variable {w v u : World ε} {gs hs ks : Guards} {id : Nat} {g : Guard}

namespace Handles

lemma trans (h : Handles w gs v hs) (h' : Handles v hs u ks) : Handles w gs u ks := by
  induction h' with
  | refl => exact h
  | aside _ hb ih => exact ih.aside hb
  | admitted _ he ih => exact ih.admitted he
  | rejected _ he ih => exact ih.rejected he
  | settled q _ ih => exact ih.settled q

lemma beside (h : Handles w gs v hs) (ks : Guards) : Handles w (gs + ks) v (hs + ks) := by
  induction h with
  | refl => exact .refl
  | aside _ hb ih => exact ih.aside hb
  | admitted _ he ih =>
    rw [Multiset.cons_add]
    exact ih.admitted he
  | rejected _ he ih => exact ih.rejected he
  | settled q _ ih =>
    rw [Multiset.cons_add] at ih
    exact ih.settled q

lemma cons (h : Handles w gs v hs) (a : Nat × Guard) : Handles w (a ::ₘ gs) v (a ::ₘ hs) := by
  have ha := h.beside {a}
  rwa [Multiset.add_comm gs, Multiset.add_comm hs, Multiset.singleton_add,
    Multiset.singleton_add] at ha

end Handles

namespace Handled

variable {s : Step β ι ε}

lemma timed (h : Handled w gs s) (x y : Context) (d : Nat) (after : Duration) :
    Handled w gs (afterTimed x y d after s) := by
  unfold afterTimed
  split
  · exact h
  · split <;> exact h
  · exact h

lemma admitted (h : Handled w gs s) (id : Nat) (g : Guard) :
    Handled w ((id, g) ::ₘ gs) (afterAdmitted id g s) := by
  have hg := h.cons (id, g)
  unfold afterAdmitted
  split
  · exact hg
  · exact hg.settled _
  · exact hg.settled _

lemma observed (h : Handled w gs s) (o : Observer ε) : Handled w gs (afterObserved o s) := by
  unfold afterObserved
  split
  · exact h
  · exact .aside h rfl
  · exact h

lemma attempt (h : Handled w gs s) (p : RetryPolicy ε) (x : Context) (left : Nat)
    (rest : List (Layer ε)) (body : β) {again : Option (World ε → Step β ι ε)}
    (hagain : ∀ f ∈ again, ∀ v : World ε, Handled v 0 (f v)) :
    Handled w gs (afterAttempt p x left rest body again s) := by
  unfold afterAttempt
  split
  · exact h
  · exact h
  · exact h
  · rename_i e u
    have hverdict : Handles w gs (verdict p x (lastAttempt - left) e u).2 0 := by
      refine Handles.aside h ?_
      unfold verdict
      split <;> rfl
    dsimp only
    split <;> rename_i hv <;> rw [hv] at hverdict
    · exact hverdict
    · exact hverdict
    · split
      · exact hverdict
      · rename_i f
        split
        · exact hverdict.trans (hagain f rfl _)
        · exact hverdict
        · exact hverdict

lemma attempts (p : RetryPolicy ε) (x : Context) (rest : List (Layer ε)) (body : β)
    {once : World ε → Step β ι ε} (honce : ∀ w : World ε, Handled w 0 (once w)) (left : Nat)
    (w : World ε) : Handled w 0 (Call.attempts p x rest body once left w) := by
  induction left generalizing w with
  | zero => exact (honce w).attempt p x 0 rest body (by simp)
  | succ left ih =>
    refine (honce w).attempt p x (left + 1) rest body fun f hf v => ?_
    cases hf
    exact ih v

end Handled

end

lemma breakers_queue (id : Nat) (x : Context) (w : World ε) :
    (queue id x w).2.breakers = w.breakers := by
  unfold queue
  split
  · rfl
  · split <;> rename_i hr <;> exact congrArg (fun s => s.2.breakers) hr.symm

lemma handled_innermost (w : World ε) (f : Ambient ε → Progress ι × Ambient ε) :
    Handled w 0 ((w.onAmbient f).1.map (working (β := β)), (w.onAmbient f).2) := by
  have hw : Handles w 0 (w.onAmbient f).2 0 := .aside .refl rfl
  rcases hs : w.onAmbient f with ⟨_ | _ | _, v⟩ <;> rw [hs] at hw <;> exact hw

theorem start_handled (work : Work β ι ε) (layers : List (Layer ε)) (body : β) (x : Context)
    (w : World ε) : Handled w 0 (start work layers body x w) := by
  induction layers generalizing x w with
  | nil => exact handled_innermost w _
  | cons l rest ih =>
    cases l with
    | timeout after =>
      simp only [start]
      split
      · exact .refl
      · split
        · exact .refl
        · rename_i d _
          have hy : Handles w 0 (w.onAmbient (·.withDeadline x d)).2 0 := .aside .refl rfl
          exact Handled.timed (hy.trans (ih _ _)) x _ d after
    | limiter id =>
      have hq : Handles w 0 (queue id x w).2 0 := .aside .refl (breakers_queue id x w)
      simp only [start]
      split <;> rename_i hqueue <;> rw [hqueue] at hq
      · exact hq.trans (ih x _)
      · exact hq
      · exact hq
    | breaker id =>
      simp only [start]
      split <;> rename_i henter
      · exact (Handles.admitted .refl henter).trans ((ih x _).admitted _ _)
      · exact .rejected .refl henter
    | retry p => exact .attempts p x rest body (ih x) _ w
    | observe o =>
      have ho : Handles w 0 { w with notes := o.before w.now w.notes } 0 := .aside .refl rfl
      exact Handled.observed (ho.trans (ih x _)) o

theorem drop_handles (work : Work β ι ε) (c : Call β ι ε) (w : World ε) :
    Handles w c.guards (drop work c w) 0 := by
  induction c generalizing w with
  | working _ => exact .aside .refl rfl
  | timed _ _ _ _ c ih | attempting _ _ _ _ _ c ih | observed _ c ih => exact ih w
  | admitted id g c ih => exact ((ih w).cons (id, g)).settled _
  | queueing | pausing => exact .refl

lemma cut_handles (work : Work β ι ε) (y : Context) (c : Call β ι ε) (w : World ε) :
    Handles w c.guards (cut work y c w) 0 := .aside (drop_handles work c w) rfl

theorem resume_handled (work : Work β ι ε) (c : Call β ι ε) (w : World ε) :
    Handled w c.guards (resume work c w) := by
  induction c generalizing w with
  | working i => exact handled_innermost w _
  | timed x y d after c ih =>
    simp only [resume]
    split
    · exact cut_handles work y c w
    · split
      · exact cut_handles work y c w
      · exact (ih w).timed ..
  | queueing id x wake rest body =>
    simp only [resume]
    split
    · exact .refl
    · exact .refl
    · have hq : Handles w 0 (queue id x w).2 0 := .aside .refl (breakers_queue id x w)
      split <;> rename_i hqueue <;> rw [hqueue] at hq
      · exact hq.trans (start_handled work rest body x _)
      · exact hq
      · exact hq
  | admitted id g c ih => exact (ih w).admitted id g
  | attempting p x left rest body c ih =>
    refine (ih w).attempt p x left rest body fun f hf v => ?_
    cases left with
    | zero => cases hf
    | succ left =>
      cases hf
      exact .attempts p x rest body (start_handled work rest body x) left v
  | pausing p x left wake rest body =>
    simp only [resume]
    split
    · exact .refl
    · exact .refl
    · exact .attempts p x rest body (start_handled work rest body x) left w
  | observed o c ih => exact (ih w).observed o

end Call

end Resilience
