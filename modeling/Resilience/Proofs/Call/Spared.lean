import Resilience.Proofs.Call.Pause

/-! Contexts that nobody but a call knows. A timeout makes one for what is below it, with a token of
its own and a deadline that is not later than its own end. As long as that token is spared, the
context ends when the caller's context ends or when the timeout is over, and for no other reason. -/

namespace Resilience

namespace Cancellation

variable {c : Cancellation} {t : Token}

def Valid (c : Cancellation) : Prop := ∀ i ∈ c.cancelled, i < c.fresh

def Has (c : Cancellation) (t : Token) : Prop := ∀ i ∈ t.lineage, i < c.fresh

instance : Decidable c.Valid := inferInstanceAs (Decidable (∀ i ∈ c.cancelled, i < c.fresh))

instance : Decidable (c.Has t) := inferInstanceAs (Decidable (∀ i ∈ t.lineage, i < c.fresh))

lemma isCancelled_eq_true : c.isCancelled t = true ↔ ∃ i ∈ t.lineage, i ∈ c.cancelled := by
  simp [isCancelled]

end Cancellation

namespace Ambient

variable {ε : Type} {a b c : Ambient ε} {x y : Context} {r : Reason} {d since : Nat}

structure Later (a b : Ambient ε) : Prop where
  now : a.now ≤ b.now
  fresh : a.cancellation.fresh ≤ b.cancellation.fresh
  cancelled : a.cancellation.cancelled ⊆ b.cancellation.cancelled
  valid : a.cancellation.Valid → b.cancellation.Valid

/-- Between `a` and `b` nobody has cancelled `x` or a context above it that was made `since`. -/
structure Spares (since : Nat) (x : Context) (a b : Ambient ε) : Prop extends Later a b where
  spared : ∀ i ∈ x.token.lineage, since ≤ i → i ∈ b.cancellation.cancelled →
    i ∈ a.cancellation.cancelled

lemma Later.trans (h : Later a b) (h' : Later b c) : Later a c where
  now := Nat.le_trans h.now h'.now
  fresh := Nat.le_trans h.fresh h'.fresh
  cancelled := List.Subset.trans h.cancelled h'.cancelled
  valid hv := h'.valid (h.valid hv)

lemma Spares.trans (h : Spares since x a b) (h' : Spares since x b c) : Spares since x a c where
  toLater := h.toLater.trans h'.toLater
  spared i hi hs hc := h.spared i hi hs (h'.spared i hi hs hc)

lemma Spares.of_eq (hk : b.clock = a.clock) (hc : b.cancellation = a.cancellation) :
    Spares since x a b where
  now := Nat.le_of_eq (congrArg Clock.now hk.symm)
  fresh := Nat.le_of_eq (congrArg Cancellation.fresh hc.symm)
  cancelled := by rw [hc]; exact List.Subset.refl _
  valid h := by rwa [hc]
  spared i _ _ h := by rwa [hc] at h

lemma Spares.refl (since : Nat) (x : Context) (a : Ambient ε) : Spares since x a a := .of_eq rfl rfl

/-- What a call under `x` relies on, its contexts being those made `since`. -/
structure Sound (since : Nat) (x : Context) (a : Ambient ε) : Prop where
  valid : a.cancellation.Valid
  has : a.cancellation.Has x.token
  since_le : since ≤ a.cancellation.fresh

lemma Sound.later (h : Sound since x a) (hl : Later a b) : Sound since x b where
  valid := hl.valid h.valid
  has i hi := Nat.lt_of_lt_of_le (h.has i hi) hl.fresh
  since_le := Nat.le_trans h.since_le hl.fresh

/-- To say that `x` has ended for the reason `r` is true, if perhaps not all there is to say. -/
def Ended (a : Ambient ε) (x : Context) (r : Reason) : Prop :=
  a.err x ≠ none ∧ (r = .cancelled → a.cancellation.isCancelled x.token = true)

lemma err_ne_none_iff : a.err x ≠ none ↔
    a.cancellation.isCancelled x.token = true ∨ ∃ d ∈ x.deadline, d ≤ a.now := by
  unfold err Context.err now
  cases a.cancellation.isCancelled x.token with
  | true => simp
  | false => cases x.deadline <;> simp

lemma ended_of_err (h : a.err x = some r) : a.Ended x r := by
  refine ⟨by simp [h], ?_⟩
  rintro rfl
  unfold err Context.err at h
  split at h
  · assumption
  · split at h
    · split at h <;> cases h
    · cases h

lemma isCancelled_later (hl : Later a b) (h : a.cancellation.isCancelled x.token = true) :
    b.cancellation.isCancelled x.token = true := by
  obtain ⟨i, hi, hc⟩ := Cancellation.isCancelled_eq_true.mp h
  exact Cancellation.isCancelled_eq_true.mpr ⟨i, hi, hl.cancelled hc⟩

lemma Ended.later (h : a.Ended x r) (hl : Later a b) : b.Ended x r := by
  refine ⟨err_ne_none_iff.mpr ?_, fun hr => isCancelled_later hl (h.2 hr)⟩
  rcases err_ne_none_iff.mp h.1 with hc | ⟨d, hd, hn⟩
  · exact .inl (isCancelled_later hl hc)
  · exact .inr ⟨d, hd, Nat.le_trans hn hl.now⟩

/-- `y` is the context of a timeout that was begun under `x` and lasts until `d`. -/
structure Inside (since : Nat) (x y : Context) (d : Nat) (a : Ambient ε) : Prop where
  ancestors : y.token.ancestors = x.token.lineage
  deadline : y.deadline = some (x.earlier d)
  since_le : since ≤ y.token.id
  made : y.token.id < a.cancellation.fresh
  live : y.token.id ∉ a.cancellation.cancelled
  apart : y.token.id ∉ x.token.lineage

lemma spares_withDeadline (y : Context) (d : Nat) (a : Ambient ε) :
    Spares since x a (a.withDeadline y d).2 where
  now := Nat.le_refl _
  fresh := Nat.le_succ _
  cancelled := List.Subset.refl _
  valid h i hi := Nat.lt_succ_of_lt (h i hi)
  spared _ _ _ h := h

lemma Sound.inside (h : Sound since x a) (d : Nat) :
    Inside since x (a.withDeadline x d).1 d (a.withDeadline x d).2 where
  ancestors := rfl
  deadline := rfl
  since_le := h.since_le
  made := Nat.lt_succ_self _
  live hi := Nat.lt_irrefl _ (h.valid _ hi)
  apart hi := Nat.lt_irrefl _ (h.has _ hi)

namespace Inside

lemma lineage (h : Inside since x y d a) : y.token.lineage = y.token.id :: x.token.lineage :=
  congrArg (y.token.id :: ·) h.ancestors

lemma sound (h : Inside since x y d a) (hx : Sound since x a) : Sound since y a where
  valid := hx.valid
  has := by
    rw [Cancellation.Has, h.lineage]
    exact List.forall_mem_cons.mpr ⟨h.made, hx.has⟩
  since_le := hx.since_le

lemma caller (h : Inside since x y d a) (hs : Spares since y a b) : Spares since x a b where
  toLater := hs.toLater
  spared i hi := hs.spared i (h.lineage ▸ List.mem_cons_of_mem _ hi)

lemma later (h : Inside since x y d a) (hl : Later a b)
    (hi : y.token.id ∈ b.cancellation.cancelled → y.token.id ∈ a.cancellation.cancelled) :
    Inside since x y d b where
  ancestors := h.ancestors
  deadline := h.deadline
  since_le := h.since_le
  made := Nat.lt_of_lt_of_le h.made hl.fresh
  live hb := h.live (hi hb)
  apart := h.apart

lemma spared (h : Inside since x y d a) (hs : Spares since y a b) : Inside since x y d b :=
  h.later hs.toLater (hs.spared _ List.mem_cons_self h.since_le)

lemma spares (h : Inside since x y d a) (hl : Spares since x a b)
    (hi : y.token.id ∈ b.cancellation.cancelled → y.token.id ∈ a.cancellation.cancelled) :
    Spares since y a b where
  toLater := hl.toLater
  spared := by
    rw [h.lineage]
    exact List.forall_mem_cons.mpr ⟨fun _ => hi, hl.spared⟩

lemma isCancelled (h : Inside since x y d a) (hy : a.cancellation.isCancelled y.token = true) :
    a.cancellation.isCancelled x.token = true := by
  obtain ⟨i, hi, hc⟩ := Cancellation.isCancelled_eq_true.mp hy
  rw [h.lineage] at hi
  rcases List.mem_cons.mp hi with rfl | hi
  · exact absurd hc h.live
  · exact Cancellation.isCancelled_eq_true.mpr ⟨i, hi, hc⟩

lemma spares_cancel (h : Inside since x y d a) : Spares since x a (a.cancel y) := by
  unfold cancel Cancellation.cancel
  split
  · exact .of_eq rfl rfl
  · refine ⟨⟨Nat.le_refl _, Nat.le_refl _, List.subset_cons_self _ _, fun hv => ?_⟩,
      fun i hi _ hc => ?_⟩
    · exact List.forall_mem_cons.mpr ⟨h.made, hv⟩
    · rcases List.mem_cons.mp hc with rfl | hc
      · exact absurd hi h.apart
      · exact hc

lemma ended (h : Inside since x y d a) (hy : a.Ended y r) :
    a.Ended x r ∨ r = .deadlineExceeded ∧ a.err x = none ∧ d ≤ a.now := by
  by_cases hx : a.err x = none
  · have hlive : ¬ a.cancellation.isCancelled x.token = true := fun hc =>
      err_ne_none_iff.mpr (.inl hc) hx
    have hlater : ¬ ∃ d ∈ x.deadline, d ≤ a.now := fun hd => err_ne_none_iff.mpr (.inr hd) hx
    have hr : r = .deadlineExceeded := by
      cases r with
      | cancelled => exact absurd (h.isCancelled (hy.2 rfl)) hlive
      | deadlineExceeded => rfl
    refine .inr ⟨hr, hx, ?_⟩
    rcases err_ne_none_iff.mp hy.1 with hc | ⟨d', hd, hn⟩
    · exact absurd (h.isCancelled hc) hlive
    · obtain rfl : x.earlier d = d' := by simpa [h.deadline] using hd
      unfold Context.earlier at hn
      split at hn
      · rename_i own hown
        split at hn
        · exact absurd ⟨own, hown, hn⟩ hlater
        · exact hn
      · exact hn
  · exact .inl ⟨hx, fun hr => h.isCancelled (hy.2 hr)⟩

end Inside

end Ambient

end Resilience
