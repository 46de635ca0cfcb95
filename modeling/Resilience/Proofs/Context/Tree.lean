import Mathlib.Tactic.Lemma
import Resilience.Context

namespace Resilience

namespace Cancellation

variable {c : Cancellation} {t : Token} {n : Nat}

lemma mem_cancel : n ∈ (c.cancel t).cancelled ↔ n = t.id ∨ n ∈ c.cancelled := by
  unfold cancel
  split
  · rename_i h
    constructor
    · exact .inr
    · rintro (rfl | hn)
      · simpa using h
      · exact hn
  · simp

lemma fresh_cancel : (c.cancel t).fresh = c.fresh := by
  unfold cancel
  split <;> rfl

end Cancellation

/-- How a context was made. Earlier contexts go by their numbers. -/
inductive Origin where
  | root
  | clone (of : Nat)
  /-- A context without a deadline for the token of an earlier one. -/
  | token (of : Nat)
  | child (of : Nat)
  | limited (of : Nat) (deadline : Nat)
deriving DecidableEq

/-- Contexts with their origins, in the order of their making, and the numbers of those that
somebody has cancelled. -/
structure ContextTree where
  clock : Clock
  cancellation : Cancellation := {}
  made : List (Origin × Context) := []
  cancels : List Nat := []

namespace ContextTree

inductive Act where
  | background
  /-- The token of an earlier context, or a new one. -/
  | fromToken (of : Option Nat)
  | clone (of : Nat)
  | child (of : Nat)
  | withDeadline (of : Nat) (deadline : Nat)
  | withTimeout (of : Nat) (after : Duration)
  | cancel (of : Nat)
  | pass (d : Duration)

def add (t : ContextTree) (o : Origin) (p : Context × Cancellation) : ContextTree :=
  { t with made := t.made ++ [(o, p.1)], cancellation := p.2 }

def at? (t : ContextTree) (i : Nat) (f : Context → ContextTree) : ContextTree :=
  match t.made[i]? with
  | some (_, x) => f x
  | none => t

def step (t : ContextTree) : Act → ContextTree
  | .background | .fromToken none => t.add .root (Context.background t.cancellation)
  | .fromToken (some i) => t.at? i fun x => t.add (.token i) ({ token := x.token }, t.cancellation)
  | .clone i => t.at? i fun x => t.add (.clone i) (x, t.cancellation)
  | .child i => t.at? i fun x => t.add (.child i) (x.child t.cancellation)
  | .withDeadline i d => t.at? i fun x => t.add (.limited i d) (x.withDeadline d t.cancellation)
  | .withTimeout i after => t.at? i fun x =>
    match t.clock.deadline? after with
    | some d => t.add (.limited i d) (x.withDeadline d t.cancellation)
    | none => t
  | .cancel i => t.at? i fun x =>
    { t with cancellation := t.cancellation.cancel x.token, cancels := i :: t.cancels }
  | .pass d => { t with clock := t.clock.spend d }

def run (t : ContextTree) (acts : List Act) : ContextTree := acts.foldl step t

def origin? (t : ContextTree) (j : Nat) : Option Origin := t.made[j]?.map Prod.fst
def context? (t : ContextTree) (j : Nat) : Option Context := t.made[j]?.map Prod.snd
def token? (t : ContextTree) (j : Nat) : Option Token := (t.context? j).map Context.token

def err (t : ContextTree) (j : Nat) : Option Reason :=
  (t.context? j).bind fun x => x.err t.clock t.cancellation

def New (made : List (Origin × Context)) (j : Nat) (x : Context) : Prop :=
  ∀ i < j, ∀ o y, made[i]? = some (o, y) → y.token.id ≠ x.token.id

inductive Fits (made : List (Origin × Context)) (j : Nat) : Origin → Context → Prop
  | root {x : Context} : x.token.ancestors = [] → New made j x → x.deadline = none →
      Fits made j .root x
  | clone {i : Nat} {o : Origin} {x : Context} : i < j → made[i]? = some (o, x) →
      Fits made j (.clone i) x
  | token {i : Nat} {o : Origin} {x y : Context} : i < j → made[i]? = some (o, y) →
      x.token = y.token → x.deadline = none → Fits made j (.token i) x
  | child {i : Nat} {o : Origin} {x y : Context} : i < j → made[i]? = some (o, y) →
      x.token.ancestors = y.token.lineage → New made j x → x.deadline = y.deadline →
      Fits made j (.child i) x
  | limited {i d : Nat} {o : Origin} {x y : Context} : i < j → made[i]? = some (o, y) →
      x.token.ancestors = y.token.lineage → New made j x → x.deadline = some (y.earlier d) →
      Fits made j (.limited i d) x

structure Sound (t : ContextTree) : Prop where
  fits : ∀ j o x, t.made[j]? = some (o, x) → Fits t.made j o x
  fresh : ∀ p ∈ t.made, p.2.token.id < t.cancellation.fresh
  known : ∀ i ∈ t.cancels, i < t.made.length
  cancelled : ∀ n, n ∈ t.cancellation.cancelled ↔
    ∃ i ∈ t.cancels, ∃ x, t.context? i = some x ∧ x.token.id = n

variable {t : ContextTree} {i j : Nat} {o : Origin} {x y : Context} {made : List (Origin × Context)}

lemma getElem?_append_of_some {p q : Origin × Context} (h : made[i]? = some p) :
    (made ++ [q])[i]? = some p := by
  have hi : i < made.length := (List.getElem?_eq_some_iff.mp h).1
  rw [List.getElem?_append_left hi, h]

lemma New.append (hj : j ≤ made.length) (h : New made j x) (p : Origin × Context) :
    New (made ++ [p]) j x := by
  intro i hi o y hy
  apply h i hi o y
  rwa [List.getElem?_append_left (by omega)] at hy

lemma Fits.append (hj : j ≤ made.length) (h : Fits made j o x) (p : Origin × Context) :
    Fits (made ++ [p]) j o x := by
  cases h with
  | root ha hn hd => exact .root ha (hn.append hj p) hd
  | clone hi hx => exact .clone hi (getElem?_append_of_some hx)
  | token hi hy ht hd => exact .token hi (getElem?_append_of_some hy) ht hd
  | child hi hy ha hn hd => exact .child hi (getElem?_append_of_some hy) ha (hn.append hj p) hd
  | limited hi hy ha hn hd => exact .limited hi (getElem?_append_of_some hy) ha (hn.append hj p) hd

lemma context?_eq_some : t.context? j = some x ↔ ∃ o, t.made[j]? = some (o, x) := by
  simp [context?]

lemma context?_add {p : Context × Cancellation} (hi : i < t.made.length) :
    (t.add o p).context? i = t.context? i := by
  simp [context?, add, List.getElem?_append_left hi]

namespace Sound

lemma new (h : t.Sound) (hx : x.token.id = t.cancellation.fresh) : New t.made t.made.length x := by
  intro i hi o y hy he
  have hlt := h.fresh (o, y) (List.mem_of_getElem? hy)
  simp only at hlt
  omega

lemma add (h : t.Sound) {p : Context × Cancellation}
    (hfits : Fits t.made t.made.length o p.1) (hfresh : p.1.token.id < p.2.fresh)
    (hle : t.cancellation.fresh ≤ p.2.fresh) (hsame : p.2.cancelled = t.cancellation.cancelled) :
    (t.add o p).Sound where
  fits j o' x hx := by
    simp only [ContextTree.add] at hx
    rcases Nat.lt_trichotomy j t.made.length with hj | rfl | hj
    · rw [List.getElem?_append_left hj] at hx
      exact (h.fits j o' x hx).append (Nat.le_of_lt hj) _
    · rw [List.getElem?_concat_length] at hx
      cases hx
      exact hfits.append (Nat.le_refl _) _
    · rw [List.getElem?_eq_none (by simp; omega)] at hx
      cases hx
  fresh q hq := by
    rcases List.mem_append.mp hq with hq | hq
    · exact Nat.lt_of_lt_of_le (h.fresh q hq) hle
    · obtain rfl := List.mem_singleton.mp hq
      exact hfresh
  known i hi := by
    have hlt := h.known i hi
    simp only [ContextTree.add, List.length_append]
    omega
  cancelled n := by
    have hold : ∀ i ∈ t.cancels, (t.add o p).context? i = t.context? i := fun i hi =>
      context?_add (h.known i hi)
    simp only [ContextTree.add, hsame]
    rw [h.cancelled]
    constructor
    · rintro ⟨i, hi, x, hx, rfl⟩
      exact ⟨i, hi, x, (hold i hi).trans hx, rfl⟩
    · rintro ⟨i, hi, x, hx, rfl⟩
      exact ⟨i, hi, x, (hold i hi).symm.trans hx, rfl⟩

lemma cancel (h : t.Sound) (hx : t.context? i = some x) :
    ({ t with cancellation := t.cancellation.cancel x.token, cancels := i :: t.cancels } :
      ContextTree).Sound where
  fits := h.fits
  fresh p hp := by
    rw [Cancellation.fresh_cancel]
    exact h.fresh p hp
  known := by
    obtain ⟨o, ho⟩ := context?_eq_some.mp hx
    exact List.forall_mem_cons.mpr ⟨(List.getElem?_eq_some_iff.mp ho).1, h.known⟩
  cancelled n := by
    rw [Cancellation.mem_cancel, h.cancelled]
    constructor
    · rintro (rfl | ⟨k, hk, hn⟩)
      · exact ⟨i, List.mem_cons_self, x, hx, rfl⟩
      · exact ⟨k, List.mem_cons_of_mem i hk, hn⟩
    · rintro ⟨k, hk, y, hy, rfl⟩
      rcases List.mem_cons.mp hk with rfl | hk
      · obtain rfl := Option.some.inj (hx.symm.trans hy)
        exact .inl rfl
      · exact .inr ⟨k, hk, y, hy, rfl⟩

lemma step (h : t.Sound) (a : Act) : (t.step a).Sound := by
  have hroot : (t.add .root (Context.background t.cancellation)).Sound := by
    apply h.add _ (Nat.lt_succ_self _) (Nat.le_succ _) rfl
    exact .root rfl (h.new rfl) rfl
  have hat (i : Nat) {f : Context → ContextTree}
      (hf : ∀ o x, i < t.made.length → t.made[i]? = some (o, x) → (f x).Sound) :
      (t.at? i f).Sound := by
    unfold at?
    split
    · rename_i o x hx
      exact hf o x (List.getElem?_eq_some_iff.mp hx).1 hx
    · exact h
  have hlimited {i d : Nat} {o : Origin} {x : Context} (hi : i < t.made.length)
      (hx : t.made[i]? = some (o, x)) :
      (t.add (.limited i d) (x.withDeadline d t.cancellation)).Sound := by
    apply h.add _ (Nat.lt_succ_self _) (Nat.le_succ _) rfl
    exact .limited hi hx rfl (h.new rfl) rfl
  cases a with
  | background => exact hroot
  | fromToken i =>
    cases i with
    | none => exact hroot
    | some i =>
      apply hat
      intro o x hi hx
      exact h.add (.token hi hx rfl rfl) (h.fresh _ (List.mem_of_getElem? hx)) (Nat.le_refl _) rfl
  | clone i =>
    apply hat
    intro o x hi hx
    exact h.add (.clone hi hx) (h.fresh _ (List.mem_of_getElem? hx)) (Nat.le_refl _) rfl
  | child i =>
    apply hat
    intro o x hi hx
    apply h.add _ (Nat.lt_succ_self _) (Nat.le_succ _) rfl
    exact .child hi hx rfl (h.new rfl) rfl
  | withDeadline i d => exact hat i fun o x hi hx => hlimited hi hx
  | withTimeout i after =>
    apply hat
    intro o x hi hx
    split
    · exact hlimited hi hx
    · exact h
  | cancel i => exact hat i fun o x hi hx => h.cancel (context?_eq_some.mpr ⟨o, hx⟩)
  | pass d => exact ⟨h.fits, h.fresh, h.known, h.cancelled⟩

lemma run (h : t.Sound) (acts : List Act) : (t.run acts).Sound := by
  induction acts generalizing t with
  | nil => exact h
  | cons a acts ih => exact ih (h.step a)

lemma start (c : Clock) : ({ clock := c } : ContextTree).Sound where
  fits _ _ _ hx := by simp at hx
  fresh := List.forall_mem_nil _
  known := List.forall_mem_nil _
  cancelled := by simp

end Sound

end ContextTree

end Resilience
