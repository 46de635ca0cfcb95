import Mathlib.Logic.Relation
import Mathlib.Order.Bounds.Basic
import Resilience.Proofs.Call.Spared
import Resilience.Proofs.Context.Tree

/-! What the contexts of a tree report. A token's lineage consists of the tokens of its ancestors,
and a deadline is the earliest one set on the way down to it; so it can be read off the tree who is
cancelled, who is late, and whom a cancellation spares. -/

namespace Resilience

open Relation

namespace ContextTree

section

variable (t : ContextTree)

def Copies (i j : Nat) : Prop := t.origin? j = some (.clone i) ∨ t.origin? j = some (.token i)

def Derives (i j : Nat) : Prop :=
  t.origin? j = some (.child i) ∨ ∃ d, t.origin? j = some (.limited i d)

def Clones : Nat → Nat → Prop := EqvGen t.Copies

def Parent (i j : Nat) : Prop := ∃ i' j', t.Clones i i' ∧ t.Derives i' j' ∧ t.Clones j' j

def Ancestor : Nat → Nat → Prop := TransGen t.Parent

/-- The `i`-th context is the `j`-th one, a clone of it, or one of its ancestors or their clones. -/
def Reaches (i j : Nat) : Prop := t.Clones i j ∨ t.Ancestor i j

def Sibling (i j : Nat) : Prop := (∃ k, t.Parent k i ∧ t.Parent k j) ∧ ¬ t.Clones i j

/-- One step of a derivation path, along which deadlines are handed on. -/
def HandsOn (i j : Nat) : Prop := t.origin? j = some (.clone i) ∨ t.Derives i j

def Path : Nat → Nat → Prop := ReflTransGen t.HandsOn

def deadlines (j : Nat) : Set Nat :=
  {d | ∃ i k, t.Path i j ∧ t.origin? i = some (.limited k d)}

end

variable {t : ContextTree} {i j k : Nat} {o : Origin} {x : Context}

def Earliest (s : Set Nat) : Option Nat → Prop
  | some m => IsLeast s m
  | none => s = ∅

lemma origin?_of (h : t.made[j]? = some (o, x)) : t.origin? j = some o := by
  simp [origin?, h]

lemma token?_of (h : t.made[j]? = some (o, x)) : t.token? j = some x.token := by
  simp [token?, context?, h]

lemma exists_of_origin? (h : t.origin? j = some o) : ∃ x, t.made[j]? = some (o, x) := by
  simpa [origin?] using h

lemma exists_of_token? {n : Token} (h : t.token? j = some n) :
    ∃ o x, t.made[j]? = some (o, x) ∧ x.token = n := by
  simpa [token?, context?] using h

lemma Ancestor.clones (ha : t.Ancestor i j) (hc : t.Clones j k) : t.Ancestor i k := by
  obtain ⟨l, hl, ⟨l', j', hl', hd, hj⟩⟩ := TransGen.tail'_iff.mp ha
  exact .tail' hl ⟨l', j', hl', hd, hj.trans _ _ _ hc⟩

lemma Reaches.clones (h : t.Reaches i j) (hc : t.Clones j k) : t.Reaches i k := by
  rcases h with h | h
  · exact .inl (h.trans _ _ _ hc)
  · exact .inr (h.clones hc)

lemma Reaches.derives (h : t.Reaches i j) (hd : t.Derives j k) : t.Ancestor i k := by
  rcases h with h | h
  · exact .single ⟨j, k, h, hd, .refl _⟩
  · exact h.tail ⟨j, k, .refl _, hd, .refl _⟩

lemma Reaches.ancestor (h : t.Reaches i j) (ha : t.Ancestor j k) : t.Ancestor i k := by
  induction ha with
  | single hp =>
    obtain ⟨j', k', hj, hd, hk⟩ := hp
    exact ((h.clones hj).derives hd).clones hk
  | tail _ hp ih => exact ih.tail hp

lemma Path.reaches (h : t.Path i j) : t.Reaches i j := by
  induction h with
  | refl => exact .inl (.refl _)
  | tail _ hs ih =>
    rcases hs with hc | hd
    · exact ih.clones (.rel _ _ (.inl hc))
    · exact .inr (ih.derives hd)

lemma exists_made (hj : j < t.made.length) : ∃ o x, t.made[j]? = some (o, x) :=
  ⟨_, _, List.getElem?_eq_getElem hj⟩

lemma err_of (hx : t.made[j]? = some (o, x)) : t.err j = x.err t.clock t.cancellation := by
  simp [err, context?, hx]

lemma deadlines_eq (ho : t.origin? j = some o) : t.deadlines j = match o with
    | .root | .token _ => ∅
    | .clone k | .child k => t.deadlines k
    | .limited k d => insert d (t.deadlines k) := by
  -- Only the origin of `j` says where the last step to it can come from.
  have hstep {i : Nat} (hp : t.Path i j) : i = j ∨ ∃ k, t.Path i k ∧ t.HandsOn k j :=
    (ReflTransGen.cases_tail hp).imp Eq.symm fun ⟨k, hk, hd⟩ => ⟨k, hk, hd⟩
  have hdown {k : Nat} (hd : t.HandsOn k j) (honly : ∀ k', t.HandsOn k' j → k' = k)
      (hset : ∀ k' d, o ≠ .limited k' d) : t.deadlines j = t.deadlines k := by
    ext d
    constructor
    · rintro ⟨i, k', hp, hi⟩
      rcases hstep hp with rfl | ⟨l, hl, hlj⟩
      · exact absurd (Option.some.inj (ho.symm.trans hi)) (hset k' d)
      · exact ⟨i, k', honly l hlj ▸ hl, hi⟩
    · rintro ⟨i, k', hp, hi⟩
      exact ⟨i, k', hp.tail hd, hi⟩
  cases o with
  | root | token k =>
    apply Set.eq_empty_iff_forall_notMem.mpr
    rintro d ⟨i, k', hp, hi⟩
    rcases hstep hp with rfl | ⟨l, _, hl⟩
    · simp [ho] at hi
    · simp [HandsOn, Derives, ho] at hl
  | clone k =>
    refine hdown (.inl ho) (fun k' hk => ?_) nofun
    simpa [HandsOn, Derives, ho, eq_comm] using hk
  | child k =>
    refine hdown (.inr (.inl ho)) (fun k' hk => ?_) nofun
    simpa [HandsOn, Derives, ho, eq_comm] using hk
  | limited k d =>
    ext d'
    constructor
    · rintro ⟨i, k', hp, hi⟩
      rcases hstep hp with rfl | ⟨l, hl, hlj⟩
      · obtain ⟨rfl, rfl⟩ : k = k' ∧ d = d' := by simpa [ho] using hi
        exact .inl rfl
      · obtain rfl : k = l := by simpa [HandsOn, Derives, ho] using hlj
        exact .inr ⟨i, k', hl, hi⟩
    · rintro (rfl | ⟨i, k', hp, hi⟩)
      · exact ⟨j, k, .refl, ho⟩
      · exact ⟨i, k', hp.tail (.inr (.inr ⟨d, ho⟩)), hi⟩

lemma deadlines_subset (hp : t.Path i j) : t.deadlines i ⊆ t.deadlines j :=
  fun _ ⟨l, k, hl, ho⟩ => ⟨l, k, hl.trans hp, ho⟩

lemma earliest_insert {s : Set Nat} (h : Earliest s x.deadline) (d : Nat) :
    Earliest (insert d s) (some (x.earlier d)) := by
  unfold Context.earlier
  cases hx : x.deadline with
  | none =>
    rw [hx] at h
    obtain rfl : s = ∅ := h
    simp [Earliest]
  | some own =>
    rw [hx] at h
    have hmin : IsLeast (insert d s) (min d own) := IsLeast.insert d h
    dsimp only
    split
    · rwa [Nat.min_eq_right (by assumption)] at hmin
    · rwa [Nat.min_eq_left (by omega)] at hmin

namespace Sound

lemma token?_of_copies (h : t.Sound) (hc : t.Copies i j) : t.token? i = t.token? j := by
  rcases hc with hc | hc <;> obtain ⟨x, hx⟩ := exists_of_origin? hc
  · cases h.fits j _ x hx with
    | clone _ hi => rw [token?_of hi, token?_of hx]
  · cases h.fits j _ x hx with
    | token _ hi ht _ => rw [token?_of hi, token?_of hx, ht]

lemma token?_of_clones (h : t.Sound) (hc : t.Clones i j) : t.token? i = t.token? j := by
  induction hc with
  | rel i j hc => exact h.token?_of_copies hc
  | refl i => rfl
  | symm i j _ ih => exact ih.symm
  | trans i j k _ _ ih ih' => exact ih.trans ih'

lemma ancestors_of_derives (h : t.Sound) (hd : t.Derives i j) :
    ∃ u v, t.token? i = some u ∧ t.token? j = some v ∧ v.ancestors = u.lineage := by
  rcases hd with hd | ⟨d, hd⟩ <;> obtain ⟨x, hx⟩ := exists_of_origin? hd
  · cases h.fits j _ x hx with
    | child _ hi ha _ _ => exact ⟨_, _, token?_of hi, token?_of hx, ha⟩
  · cases h.fits j _ x hx with
    | limited _ hi ha _ _ => exact ⟨_, _, token?_of hi, token?_of hx, ha⟩

lemma ancestors_of_parent (h : t.Sound) (hp : t.Parent i j) :
    ∃ u v, t.token? i = some u ∧ t.token? j = some v ∧ v.ancestors = u.lineage := by
  obtain ⟨i', j', hi, hd, hj⟩ := hp
  rw [h.token?_of_clones hi, ← h.token?_of_clones hj]
  exact h.ancestors_of_derives hd

lemma lineage_of_ancestor (h : t.Sound) (ha : t.Ancestor i j) :
    ∃ u v, t.token? i = some u ∧ t.token? j = some v ∧ u.lineage <:+ v.ancestors := by
  induction ha with
  | single hp =>
    obtain ⟨u, v, hu, hv, he⟩ := h.ancestors_of_parent hp
    exact ⟨u, v, hu, hv, he ▸ List.suffix_refl _⟩
  | tail _ hp ih =>
    obtain ⟨u, v, hu, hv, hs⟩ := ih
    obtain ⟨v', w, hv', hw, he⟩ := h.ancestors_of_parent hp
    obtain rfl := Option.some.inj (hv.symm.trans hv')
    refine ⟨u, w, hu, hw, ?_⟩
    rw [he]
    exact hs.trans (List.suffix_cons _ _)

lemma clones_of_id_eq (h : t.Sound) {n : Nat} (hi : i < n) (hj : j < n) {u v : Token}
    (hu : t.token? i = some u) (hv : t.token? j = some v) (he : u.id = v.id) : t.Clones i j := by
  induction n generalizing i j u v with
  | zero => omega
  | succ n ih =>
    have hlast {i : Nat} {u v : Token} (hi : i < n) (hu : t.token? i = some u)
        (hv : t.token? n = some v) (he : u.id = v.id) : t.Clones i n := by
      obtain ⟨o, x, hx, rfl⟩ := exists_of_token? hv
      obtain ⟨o', y, hy, rfl⟩ := exists_of_token? hu
      cases h.fits n o x hx with
      | root _ hn _ | child _ _ _ hn _ | limited _ _ _ hn _ => exact absurd he (hn i hi o' y hy)
      | clone hk hkx =>
        exact (ih hi hk hu (token?_of hkx) he).trans _ _ _ (.rel _ _ (.inl (origin?_of hx)))
      | token hk hky ht _ =>
        exact (ih hi hk hu (token?_of hky) (ht ▸ he)).trans _ _ _
          (.rel _ _ (.inr (origin?_of hx)))
    rcases Nat.lt_succ_iff_lt_or_eq.mp hi with hi | rfl <;>
      rcases Nat.lt_succ_iff_lt_or_eq.mp hj with hj | rfl
    · exact ih hi hj hu hv he
    · exact hlast hi hu hv he
    · exact (hlast hj hv hu he.symm).symm
    · exact .refl _

lemma mem_lineage_iff (h : t.Sound) {u v : Token} (hu : t.token? i = some u)
    (hv : t.token? j = some v) : u.id ∈ v.lineage ↔ t.Reaches i j := by
  constructor
  · intro hm
    induction j using Nat.strong_induction_on generalizing v with
    | _ j ih =>
      obtain ⟨o, x, hx, rfl⟩ := exists_of_token? hv
      have hown : u.id = x.token.id → t.Reaches i j := by
        intro he
        have hi : i < i + j + 1 := by omega
        exact .inl (h.clones_of_id_eq hi (by omega) hu hv he)
      have hderived {k : Nat} {y : Context} {o : Origin} (hk : k < j)
          (hy : t.made[k]? = some (o, y)) (ha : x.token.ancestors = y.token.lineage)
          (hd : t.Derives k j) : t.Reaches i j := by
        rcases List.mem_cons.mp hm with he | he
        · exact hown he
        · exact .inr ((ih k hk (token?_of hy) (ha ▸ he)).derives hd)
      cases h.fits j o x hx with
      | root ha _ _ =>
        rw [Token.lineage, ha, List.mem_singleton] at hm
        exact hown hm
      | clone hk hy => exact (ih _ hk (token?_of hy) hm).clones (.rel _ _ (.inl (origin?_of hx)))
      | token hk hy ht _ =>
        exact (ih _ hk (token?_of hy) (ht ▸ hm)).clones (.rel _ _ (.inr (origin?_of hx)))
      | child hk hy ha _ _ => exact hderived hk hy ha (.inl (origin?_of hx))
      | limited hk hy ha _ _ => exact hderived hk hy ha (.inr ⟨_, origin?_of hx⟩)
  · rintro (hc | ha)
    · obtain rfl := Option.some.inj (hu.symm.trans ((h.token?_of_clones hc).trans hv))
      exact List.mem_cons_self
    · obtain ⟨u', v', hu', hv', hs⟩ := h.lineage_of_ancestor ha
      obtain rfl := Option.some.inj (hu.symm.trans hu')
      obtain rfl := Option.some.inj (hv.symm.trans hv')
      exact List.mem_cons_of_mem _ (hs.subset List.mem_cons_self)

lemma isCancelled_iff (h : t.Sound) {v : Token} (hv : t.token? j = some v) :
    t.cancellation.isCancelled v = true ↔ ∃ i ∈ t.cancels, t.Reaches i j := by
  rw [Cancellation.isCancelled_eq_true]
  constructor
  · rintro ⟨n, hn, hc⟩
    obtain ⟨i, hi, x, hx, rfl⟩ := (h.cancelled n).mp hc
    have hu : t.token? i = some x.token := by simp [token?, hx]
    exact ⟨i, hi, (h.mem_lineage_iff hu hv).mp hn⟩
  · rintro ⟨i, hi, hr⟩
    obtain ⟨⟨o, x⟩, hx⟩ : ∃ p, t.made[i]? = some p :=
      ⟨_, List.getElem?_eq_getElem (h.known i hi)⟩
    have hu := token?_of hx
    exact ⟨x.token.id, (h.mem_lineage_iff hu hv).mpr hr,
      (h.cancelled _).mpr ⟨i, hi, x, context?_eq_some.mpr ⟨o, hx⟩, rfl⟩⟩

lemma length_lt_of_ancestor (h : t.Sound) (ha : t.Ancestor i j) {u v : Token}
    (hu : t.token? i = some u) (hv : t.token? j = some v) :
    u.lineage.length < v.lineage.length := by
  obtain ⟨u', v', hu', hv', hs⟩ := h.lineage_of_ancestor ha
  obtain rfl := Option.some.inj (hu.symm.trans hu')
  obtain rfl := Option.some.inj (hv.symm.trans hv')
  exact Nat.lt_succ_of_le hs.length_le

lemma earliest_deadline (h : t.Sound) (hx : t.made[j]? = some (o, x)) :
    Earliest (t.deadlines j) x.deadline := by
  induction j using Nat.strong_induction_on generalizing o x with
  | _ j ih =>
    rw [deadlines_eq (origin?_of hx)]
    cases h.fits j o x hx with
    | root _ _ hd => rw [hd]; rfl
    | token _ _ _ hd => rw [hd]; rfl
    | clone hk hy => exact ih _ hk hy
    | child hk hy _ _ hd => rw [hd]; exact ih _ hk hy
    | limited hk hy _ _ hd => rw [hd]; exact earliest_insert (ih _ hk hy) _

lemma err_eq_cancelled_iff (h : t.Sound) (hj : j < t.made.length) :
    t.err j = some .cancelled ↔ ∃ i ∈ t.cancels, t.Reaches i j := by
  obtain ⟨o, x, hx⟩ := exists_made hj
  rw [← h.isCancelled_iff (token?_of hx), err_of hx, Context.err]
  cases t.cancellation.isCancelled x.token with
  | true => simp
  | false => cases x.deadline <;> simp

lemma err_eq_deadlineExceeded_iff (h : t.Sound) (hj : j < t.made.length) :
    t.err j = some .deadlineExceeded ↔
      (¬ ∃ i ∈ t.cancels, t.Reaches i j) ∧
      ∃ d, IsLeast (t.deadlines j) d ∧ d ≤ t.clock.now := by
  obtain ⟨o, x, hx⟩ := exists_made hj
  have hd := h.earliest_deadline hx
  rw [← h.isCancelled_iff (token?_of hx), err_of hx, Context.err]
  cases t.cancellation.isCancelled x.token with
  | true => simp
  | false =>
    cases hdeadline : x.deadline with
    | none =>
      rw [hdeadline] at hd
      have hempty : t.deadlines j = ∅ := hd
      simp [hempty, IsLeast]
    | some m =>
      rw [hdeadline] at hd
      have hleast : IsLeast (t.deadlines j) m := hd
      simp only [Bool.false_eq_true, if_false, not_false_eq_true, true_and]
      constructor
      · intro hm
        exact ⟨m, hleast, by simpa using hm⟩
      · rintro ⟨d, hd, hn⟩
        rw [hleast.unique hd, if_pos hn]

lemma err_cancel (h : t.Sound) (hr : ¬ t.Reaches i j) : (t.step (.cancel i)).err j = t.err j := by
  simp only [ContextTree.step, at?]
  split
  · rename_i o x hx
    rcases hy : t.made[j]? with _ | ⟨o', y⟩
    · simp [err, context?, hy]
    · have hnot : x.token.id ∉ y.token.lineage := fun hm =>
        hr ((h.mem_lineage_iff (token?_of hx) (token?_of hy)).mp hm)
      simp [err, context?, hy, Context.err, hnot]
  · rfl

lemma not_reaches_of_ancestor (h : t.Sound) (ha : t.Ancestor j i) : ¬ t.Reaches i j := by
  intro hr
  have hloop : t.Ancestor i i := hr.ancestor ha
  obtain ⟨u, v, hu, hv, _⟩ := h.lineage_of_ancestor hloop
  obtain rfl := Option.some.inj (hu.symm.trans hv)
  exact Nat.lt_irrefl _ (h.length_lt_of_ancestor hloop hu hu)

lemma not_reaches_of_sibling (h : t.Sound) (hs : t.Sibling i j) : ¬ t.Reaches i j := by
  obtain ⟨⟨k, hi, hj⟩, hne⟩ := hs
  rintro (hc | ha)
  · exact hne hc
  · obtain ⟨u, v, hu, hv, hlv⟩ := h.ancestors_of_parent hi
    obtain ⟨u', w, hu', hw, hlw⟩ := h.ancestors_of_parent hj
    obtain rfl := Option.some.inj (hu.symm.trans hu')
    have hlt := h.length_lt_of_ancestor ha hv hw
    simp only [Token.lineage, List.length_cons, hlv, hlw] at hlt
    omega

end Sound

structure Later (t u : ContextTree) : Prop where
  now : t.clock.now ≤ u.clock.now
  cancelled : t.cancellation.cancelled ⊆ u.cancellation.cancelled
  made : t.made <+: u.made

lemma Later.refl (t : ContextTree) : t.Later t := ⟨Nat.le_refl _, List.Subset.refl _, List.prefix_rfl⟩

lemma Later.trans {u v : ContextTree} (h : t.Later u) (h' : u.Later v) : t.Later v where
  now := Nat.le_trans h.now h'.now
  cancelled := List.Subset.trans h.cancelled h'.cancelled
  made := h.made.trans h'.made

lemma later_step (t : ContextTree) (a : Act) : t.Later (t.step a) := by
  have hadd (o : Origin) (p : Context × Cancellation)
      (hp : p.2.cancelled = t.cancellation.cancelled) : t.Later (t.add o p) :=
    ⟨Nat.le_refl _, hp ▸ List.Subset.refl _, List.prefix_append _ _⟩
  have hat (i : Nat) {f : Context → ContextTree} (hf : ∀ x, t.Later (f x)) :
      t.Later (t.at? i f) := by
    unfold at?
    split
    · exact hf _
    · exact .refl t
  cases a with
  | background => exact hadd _ _ rfl
  | fromToken i =>
    cases i with
    | none => exact hadd _ _ rfl
    | some i => exact hat i fun x => hadd _ _ rfl
  | clone i | child i => exact hat i fun x => hadd _ _ rfl
  | withDeadline i d => exact hat i fun x => hadd _ _ rfl
  | withTimeout i after =>
    apply hat
    intro x
    split
    · exact hadd _ _ rfl
    · exact .refl t
  | cancel i =>
    apply hat
    intro x
    exact ⟨Nat.le_refl _, fun n hn => Cancellation.mem_cancel.mpr (.inr hn), List.prefix_rfl⟩
  | pass d => exact ⟨t.clock.now_le_spend d, List.Subset.refl _, List.prefix_rfl⟩

lemma later_run (t : ContextTree) (acts : List Act) : t.Later (t.run acts) := by
  induction acts generalizing t with
  | nil => exact .refl t
  | cons a acts ih => exact (later_step t a).trans (ih (t.step a))

lemma Later.err {u : ContextTree} (h : t.Later u) {r : Reason} (hr : t.err j = some r) :
    u.err j = some r ∨ r = .deadlineExceeded ∧ u.err j = some .cancelled := by
  obtain ⟨x, hx, hr⟩ := Option.bind_eq_some_iff.mp hr
  obtain ⟨o, ho⟩ := context?_eq_some.mp hx
  obtain ⟨_, hmade⟩ := h.made
  have hu : u.made[j]? = some (o, x) := by
    rw [← hmade, List.getElem?_append_left (List.getElem?_eq_some_iff.mp ho).1, ho]
  rw [err_of hu]
  have hcancelled (hc : t.cancellation.isCancelled x.token = true) :
      u.cancellation.isCancelled x.token = true := by
    obtain ⟨n, hn, hm⟩ := Cancellation.isCancelled_eq_true.mp hc
    exact Cancellation.isCancelled_eq_true.mpr ⟨n, hn, h.cancelled hm⟩
  unfold Context.err at hr ⊢
  by_cases hc : u.cancellation.isCancelled x.token = true
  · rw [if_pos hc]
    cases r with
    | cancelled => exact .inl rfl
    | deadlineExceeded => exact .inr ⟨rfl, rfl⟩
  · rw [if_neg fun h' => hc (hcancelled h')] at hr
    rw [if_neg hc]
    split at hr
    · rename_i d hd
      split at hr
      · rename_i hn
        rw [if_pos (Nat.le_trans hn h.now)]
        exact .inl hr
      · cases hr
    · cases hr

structure Lawful (t : ContextTree) : Prop where
  deadline : ∀ j x, t.context? j = some x → Earliest (t.deadlines j) x.deadline
  cancelled : ∀ j < t.made.length, t.err j = some .cancelled ↔ ∃ i ∈ t.cancels, t.Reaches i j
  overdue : ∀ j < t.made.length, t.err j = some .deadlineExceeded ↔
    (¬ ∃ i ∈ t.cancels, t.Reaches i j) ∧ ∃ d, IsLeast (t.deadlines j) d ∧ d ≤ t.clock.now
  descendants : ∀ i j, t.Path i j → t.err i ≠ none → t.err j ≠ none
  reached : ∀ i j, t.Reaches i j → t.err i = some .cancelled → t.err j = some .cancelled
  spared : ∀ i j, t.Ancestor j i ∨ t.Sibling i j → (t.step (.cancel i)).err j = t.err j
  later : ∀ acts j r, t.err j = some r → (t.run acts).err j = some r ∨
    r = .deadlineExceeded ∧ (t.run acts).err j = some .cancelled

lemma lt_length_of_err (h : t.err j ≠ none) : j < t.made.length := by
  by_contra hj
  have hnone : t.made[j]? = none := List.getElem?_eq_none (by omega)
  simp [err, context?, hnone] at h

lemma Sound.lt_length_of_reaches (h : t.Sound) (hr : t.Reaches i j) (hi : i < t.made.length) :
    j < t.made.length := by
  obtain ⟨o, x, hx⟩ := exists_made hi
  have hj : ∃ v, t.token? j = some v := by
    rcases hr with hc | ha
    · exact ⟨_, (h.token?_of_clones hc).symm.trans (token?_of hx)⟩
    · obtain ⟨_, v, _, hv, _⟩ := h.lineage_of_ancestor ha
      exact ⟨v, hv⟩
  obtain ⟨v, hv⟩ := hj
  obtain ⟨o', y, hy, _⟩ := exists_of_token? hv
  exact (List.getElem?_eq_some_iff.mp hy).1

lemma Sound.reached (h : t.Sound) (hr : t.Reaches i j) (hi : t.err i = some .cancelled) :
    t.err j = some .cancelled := by
  have hlt : i < t.made.length := lt_length_of_err (by simp [hi])
  obtain ⟨k, hk, hki⟩ := (h.err_eq_cancelled_iff hlt).mp hi
  apply (h.err_eq_cancelled_iff (h.lt_length_of_reaches hr hlt)).mpr
  refine ⟨k, hk, ?_⟩
  rcases hr with hc | ha
  · exact hki.clones hc
  · exact .inr (hki.ancestor ha)

lemma Sound.descendants (h : t.Sound) (hp : t.Path i j) (hi : t.err i ≠ none) : t.err j ≠ none := by
  have hlt := lt_length_of_err hi
  have hltj := h.lt_length_of_reaches hp.reaches hlt
  by_cases hc : ∃ k ∈ t.cancels, t.Reaches k j
  · simp [(h.err_eq_cancelled_iff hltj).mpr hc]
  · have hover : t.err i = some .deadlineExceeded := by
      cases he : t.err i with
      | none => exact absurd he hi
      | some r =>
        cases r with
        | deadlineExceeded => rfl
        | cancelled => exact absurd ((h.err_eq_cancelled_iff hltj).mp (h.reached hp.reaches he)) hc
    obtain ⟨_, d, hd, hn⟩ := (h.err_eq_deadlineExceeded_iff hlt).mp hover
    obtain ⟨o, y, hy⟩ := exists_made hltj
    have hearliest := h.earliest_deadline hy
    have hmem : d ∈ t.deadlines j := deadlines_subset hp hd.1
    cases hm : y.deadline with
    | none =>
      rw [hm] at hearliest
      have hempty : t.deadlines j = ∅ := hearliest
      simp [hempty] at hmem
    | some m =>
      rw [hm] at hearliest
      have hleast : IsLeast (t.deadlines j) m := hearliest
      have hmd : m ≤ d := hleast.2 hmem
      simp [(h.err_eq_deadlineExceeded_iff hltj).mpr ⟨hc, m, hleast, Nat.le_trans hmd hn⟩]

theorem contexts_report_what_their_origins_say (c : Clock) (acts : List Act) :
    (({ clock := c } : ContextTree).run acts).Lawful := by
  have h : (({ clock := c } : ContextTree).run acts).Sound := (Sound.start c).run acts
  refine
    { deadline := ?_
      cancelled := fun j hj => h.err_eq_cancelled_iff hj
      overdue := fun j hj => h.err_eq_deadlineExceeded_iff hj
      descendants := fun i j => h.descendants
      reached := fun i j => h.reached
      spared := ?_
      later := fun acts j r => (later_run _ acts).err }
  · intro j x hx
    obtain ⟨o, ho⟩ := context?_eq_some.mp hx
    exact h.earliest_deadline ho
  · rintro i j (ha | hs)
    · exact h.err_cancel (h.not_reaches_of_ancestor ha)
    · exact h.err_cancel (h.not_reaches_of_sibling hs)

example : (({ clock := .start } : ContextTree).run
    [.background, .withDeadline 0 5, .child 1, .fromToken (some 2), .cancel 3]).err 2 =
    some .cancelled := by decide

end ContextTree

end Resilience
