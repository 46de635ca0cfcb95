import Resilience.Proofs.Call.Settled

namespace Resilience

variable {β ι ε : Type}

inductive Mark where
  | success
  | failure
  | rejected
deriving DecidableEq

def Mark.of : Outcome → Option Mark
  | .ok _ => some .success
  | .error (.circuitOpen _) => some .rejected
  | .error (.cancelled _) | .error .aborted => none
  | .error _ => some .failure

def Settlement.mark : Settlement → Option Mark
  | .success => some .success
  | .failure => some .failure
  | .abandoned => none

/-- Whether the breaker around a call makes of the outcome what it says. -/
def Outcome.Plain (r : Outcome) : Prop := (Breaker.settlementOf r).mark = Mark.of r

lemma Outcome.Plain.cancelled (r : Reason) : Outcome.Plain (Call.cancelled r) := rfl

lemma Outcome.Plain.timedOut (after : Duration) : Outcome.Plain (.error (.timedOut after)) := rfl

namespace Breaker

variable {b b' : Breaker} {now : Nat}

def count (b : Breaker) : Mark → Nat
  | .success => b.metrics.successes
  | .failure => b.metrics.failures
  | .rejected => b.metrics.rejected

lemma count_of_admitted {g : Guard} (h : b.enter now = (.ok g, b')) (m : Mark) :
    b'.count m = b.count m := by
  unfold enter at h
  split at h
  · cases h
    rfl
  · dsimp only at h
    split at h <;> cases h
    cases m <;> rfl
  · cases h

lemma count_of_rejected {e : Failure} (h : b.enter now = (.error e, b')) (m : Mark) :
    b'.count m = b.count m + if some .rejected = some m then 1 else 0 := by
  unfold enter at h
  split at h
  · cases h
  · dsimp only at h
    split at h <;> cases h
    cases m <;> rfl
  · cases h
    cases m <;> rfl

lemma count_settle (b : Breaker) (g : Guard) (s : Settlement) (now : Nat) (m : Mark) :
    (b.settle g s now).count m = b.count m + if s.mark = some m then 1 else 0 := by
  cases s with
  | success => cases hr : b.roleOf g <;> simp only [settle, hr] <;> cases m <;> rfl
  | abandoned => cases hr : b.roleOf g <;> simp only [settle, hr] <;> cases m <;> rfl
  | failure =>
    cases hr : b.roleOf g with
    | trial =>
      simp only [settle, hr]
      cases m <;> rfl
    | normal =>
      simp only [settle, hr]
      split <;> cases m <;> rfl

end Breaker

/-- From one world to another, a breaker has counted one mark or none, and none has come or gone. -/
structure World.Marked (id : Nat) (w : World ε) (m : Option Mark) (v : World ε) : Prop where
  size : v.breakers.size = w.breakers.size
  count : ∀ k, (v.breaker id).count k = (w.breaker id).count k + if m = some k then 1 else 0

namespace World.Marked

variable {id : Nat} {w v u : World ε} {m : Option Mark} {g : Guard}

lemma of_breakers_eq (h : v.breakers = w.breakers) : Marked id w none v where
  size := congrArg Array.size h
  count k := by
    unfold World.breaker
    rw [h]
    rfl

lemma trans (h : Marked id w none v) (h' : Marked id v m u) : Marked id w m u where
  size := h'.size.trans h.size
  count k := by
    rw [h'.count, h.count]
    rfl

lemma put (hid : id < w.breakers.size) {b : Breaker}
    (hb : ∀ k, b.count k = (w.breaker id).count k + if m = some k then 1 else 0) :
    Marked id w m (w.putBreaker id b) where
  size := w.size_putBreaker id b
  count k := by
    rw [breaker_putBreaker_self hid]
    exact hb k

lemma admitted (hid : id < w.breakers.size) (h : w.enter id = (.ok g, v)) : Marked id w none v := by
  obtain ⟨b, hb, rfl⟩ := enter_eq h
  exact put hid (Breaker.count_of_admitted hb)

lemma rejected (hid : id < w.breakers.size) {e : Failure} (h : w.enter id = (.error e, v)) :
    Marked id w (some .rejected) v := by
  obtain ⟨b, hb, rfl⟩ := enter_eq h
  exact put hid (Breaker.count_of_rejected hb)

lemma settled (hid : id < w.breakers.size) (g : Guard) (s : Settlement) :
    Marked id w s.mark (w.settle id g s) :=
  put hid (Breaker.count_settle _ g s w.now)

end World.Marked

def Layer.Light : Layer ε → Prop
  | .timeout _ | .limiter _ => True
  | .breaker _ | .retry _ | .observe _ => False

structure Work.Plain (work : Work β ι ε) : Prop where
  start : ∀ body x a r, (work.start body x a).1 = .done r → r.Plain
  resume : ∀ i a r, (work.resume i a).1 = .done r → r.Plain

namespace Call

def Light : Call β ι ε → Prop
  | working _ => True
  | timed _ _ _ _ c => c.Light
  | queueing _ _ _ rest _ => ∀ l ∈ rest, l.Light
  | admitted .. | attempting .. | pausing .. | observed .. => False

inductive Below (w : World ε) : Step β ι ε → Prop
  | done {r : Outcome} {v : World ε} : v.breakers = w.breakers → r.Plain → Below w (.done r, v)
  | crashed {k : Crash} {v : World ε} : v.breakers = w.breakers → Below w (.crashed k, v)
  | pending {c : Call β ι ε} {v : World ε} : v.breakers = w.breakers → c.Light →
      Below w (.pending c, v)

inductive Through (id : Nat) (w : World ε) : Step β ι ε → Prop
  | done {r : Outcome} {v : World ε} : w.Marked id (Mark.of r) v → Through id w (.done r, v)
  | crashed {k : Crash} {v : World ε} : w.Marked id none v → Through id w (.crashed k, v)
  | pending {g : Guard} {c : Call β ι ε} {v : World ε} : w.Marked id none v → c.Light →
      Through id w (.pending (.admitted id g c), v)

section

variable {work : Work β ι ε} {w v : World ε} {s : Step β ι ε} {c : Call β ι ε} {id : Nat}
  {g : Guard} {layers : List (Layer ε)}

lemma Below.after (h : v.breakers = w.breakers) (hs : Below v s) : Below w s := by
  cases hs with
  | done hv hr => exact .done (hv.trans h) hr
  | crashed hv => exact .crashed (hv.trans h)
  | pending hv hc => exact .pending (hv.trans h) hc

lemma Below.innermost {f : Ambient ε → Progress ι × Ambient ε}
    (hf : ∀ r, (f w.toAmbient).1 = .done r → r.Plain) :
    Below w ((w.onAmbient f).1.map (working (β := β)), (w.onAmbient f).2) := by
  have hv : (w.onAmbient f).2.breakers = w.breakers := rfl
  have hr : ∀ r, (w.onAmbient f).1 = .done r → r.Plain := hf
  rcases hs : w.onAmbient f with ⟨r | k | i, v⟩ <;> rw [hs] at hv hr
  · exact .done hv (hr r rfl)
  · exact .crashed hv
  · exact .pending hv trivial

lemma Below.timed (h : Below w s) (x y : Context) (d : Nat) (after : Duration) :
    Below w (afterTimed x y d after s) := by
  cases h with
  | pending hv hc => exact .pending hv hc
  | crashed hv => exact .crashed hv
  | done hv hr =>
    unfold afterTimed
    split
    · rename_i heq
      cases heq
    · rename_i heq
      cases heq
      split
      · exact .done hv (.timedOut after)
      · exact .done hv (.cancelled _)
    · exact .done hv hr

lemma plain_of_queue {x : Context} {e : Failure} (h : queue id x w = (.failed e, v)) :
    Outcome.Plain (.error e) := by
  obtain ⟨d, rfl⟩ | ⟨r, rfl⟩ := raises_of_queue h
  · rfl
  · rfl

lemma start_below (hwork : work.Plain) (hl : ∀ l ∈ layers, l.Light) (body : β) (x : Context)
    (w : World ε) : Below w (start work layers body x w) := by
  induction layers generalizing x w with
  | nil =>
    simp only [start]
    exact .innermost (hwork.start body x w.toAmbient)
  | cons l rest ih =>
    obtain ⟨hhead, hrest⟩ := List.forall_mem_cons.mp hl
    cases l with
    | timeout after =>
      simp only [start]
      split
      · exact .done rfl (.cancelled _)
      · split
        · exact .crashed rfl
        · rename_i d _
          have hmade : (w.onAmbient (·.withDeadline x d)).2.breakers = w.breakers := rfl
          exact ((ih hrest _ _).after hmade).timed x _ d after
    | limiter id =>
      have hq := breakers_queue id x w
      simp only [start]
      split <;> rename_i hqueue <;> rw [hqueue] at hq
      · exact (ih hrest x _).after hq
      · exact .done hq (plain_of_queue hqueue)
      · exact .pending hq hrest
    | breaker | retry | observe => cases hhead

lemma breakers_drop (hc : c.Light) (w : World ε) : (drop work c w).breakers = w.breakers := by
  induction c generalizing w with
  | working _ => rfl
  | timed _ _ _ _ c ih => exact ih hc w
  | queueing => rfl
  | admitted | attempting | pausing | observed => cases hc

lemma resume_below (hwork : work.Plain) (hc : c.Light) (w : World ε) :
    Below w (resume work c w) := by
  induction c generalizing w with
  | working i =>
    simp only [resume]
    exact .innermost (hwork.resume i w.toAmbient)
  | timed x y d after c ih =>
    have hcut : (cut work y c w).breakers = w.breakers := breakers_drop hc w
    simp only [resume]
    split
    · exact .done hcut (.cancelled _)
    · split
      · exact .done hcut (.timedOut after)
      · exact (ih hc w).timed x y d after
  | queueing id x wake rest body =>
    simp only [resume]
    split
    · exact .done rfl (.cancelled _)
    · exact .pending rfl hc
    · have hq := breakers_queue id x w
      split <;> rename_i hqueue <;> rw [hqueue] at hq
      · exact (start_below hwork hc body x _).after hq
      · exact .done hq (plain_of_queue hqueue)
      · exact .pending hq hc
  | admitted | attempting | pausing | observed => cases hc

lemma Below.through (h : Below v s) (hv : w.Marked id none v) (hid : id < w.breakers.size) :
    Through id w (afterAdmitted id g s) := by
  have hsettled {u : World ε} (hu : u.breakers = v.breakers) (q : Settlement) :
      w.Marked id q.mark (u.settle id g q) := by
    have hwu := hv.trans (.of_breakers_eq hu)
    exact hwu.trans (.settled (hwu.size ▸ hid) g q)
  -- What is below has left the breaker as it was when the call came in, so only the guard counts.
  cases h with
  | @done r _ hu hr =>
    have hr : (Breaker.settlementOf r).mark = Mark.of r := hr
    exact .done (hr ▸ hsettled hu (Breaker.settlementOf r))
  | crashed hu => exact .crashed (hsettled hu .abandoned)
  | pending hu hc => exact .pending (hv.trans (.of_breakers_eq hu)) hc

lemma start_through (hwork : work.Plain) (hl : ∀ l ∈ layers, l.Light)
    (hid : id < w.breakers.size) (body : β) (x : Context) :
    Through id w (start work (.breaker id :: layers) body x w) := by
  simp only [start]
  split <;> rename_i henter
  · exact (start_below hwork hl body x _).through (.admitted hid henter) hid
  · obtain ⟨d, rfl⟩ := raises_of_enter henter
    exact .done (.rejected hid henter)

lemma resume_through (hwork : work.Plain) (hc : c.Light) (hid : id < w.breakers.size) (g : Guard) :
    Through id w (resume work (.admitted id g c) w) :=
  (resume_below hwork hc w).through (.of_breakers_eq rfl) hid

lemma drop_marked (hc : c.Light) (hid : id < w.breakers.size) (g : Guard) :
    w.Marked id none (drop work (.admitted id g c) w) := by
  have hdrop : w.Marked id none (drop work c w) := .of_breakers_eq (breakers_drop hc w)
  exact hdrop.trans (.settled (hdrop.size ▸ hid) g .abandoned)

end

end Call

end Resilience
