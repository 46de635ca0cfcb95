import Resilience.Proofs.Call.Layers

namespace Resilience

namespace Call

variable {β ι ε τ : Type}

inductive Beneath (c : Call β ι ε) : Call β ι ε → Prop
  | refl : Beneath c c
  | timed {c' : Call β ι ε} (x y : Context) (d : Nat) (after : Duration) :
      Beneath c c' → Beneath c (.timed x y d after c')
  | admitted {c' : Call β ι ε} (id : Nat) (g : Guard) : Beneath c c' → Beneath c (.admitted id g c')
  | attempting {c' : Call β ι ε} (p : RetryPolicy ε) (x : Context) (left : Nat)
      (rest : List (Layer ε)) (body : β) :
      Beneath c c' → Beneath c (.attempting p x left rest body c')
  | observed {c' : Call β ι ε} (o : Observer ε) : Beneath c c' → Beneath c (.observed o c')

lemma Beneath.trans {c c' c'' : Call β ι ε} (h : c.Beneath c') (h' : c'.Beneath c'') :
    c.Beneath c'' := by
  induction h' with
  | refl => exact h
  | timed x y d after _ ih => exact ih.timed x y d after
  | admitted id g _ ih => exact ih.admitted id g
  | attempting p x left rest body _ ih => exact ih.attempting p x left rest body
  | observed o _ ih => exact ih.observed o

/-- A call that has come to `s` has made a call below that has come to `s'`. -/
def Underlies (s' s : Step β ι ε) : Prop :=
  ∀ c', s'.1 = .pending c' → (∃ c, s.1 = .pending c ∧ c'.Beneath c) ∨ ∃ o, s.1 = .done o

/-- The same where the call below has not been given up. -/
def Supports (s' s : Step β ι ε) : Prop :=
  ∀ c', s'.1 = .pending c' → ∃ c, s.1 = .pending c ∧ c'.Beneath c

section

variable {s s' s'' : Step β ι ε}

lemma Supports.underlies (h : Supports s' s) : Underlies s' s :=
  fun c' hc => .inl (h c' hc)

lemma Supports.refl (s : Step β ι ε) : Supports s s := fun c h => ⟨c, h, .refl⟩

lemma Supports.of_done {o : Outcome} {v : World ε} : Supports (.done o, v) s := nofun

lemma Supports.of_crashed {k : Crash} {v : World ε} : Supports (.crashed k, v) s := nofun

lemma Supports.trans (h : Supports s'' s') (h' : Supports s' s) : Supports s'' s := by
  intro c'' hc
  obtain ⟨c', hc', hbeneath⟩ := h c'' hc
  obtain ⟨c, hs, hbeneath'⟩ := h' c' hc'
  exact ⟨c, hs, hbeneath.trans hbeneath'⟩

lemma Supports.trans_underlies (h : Supports s'' s') (h' : Underlies s' s) : Underlies s'' s := by
  intro c'' hc
  obtain ⟨c', hc', hbeneath⟩ := h c'' hc
  rcases h' c' hc' with ⟨c, hs, hbeneath'⟩ | hdone
  · exact .inl ⟨c, hs, hbeneath.trans hbeneath'⟩
  · exact .inr hdone

lemma Underlies.of_given_up {c : Call β ι ε} {v v' : World ε} {o : Outcome} :
    Underlies (.pending c, v) (.done o, v') := fun _ _ => .inr ⟨o, rfl⟩

lemma supports_afterTimed (x y : Context) (d : Nat) (after : Duration) (s : Step β ι ε) :
    Supports s (afterTimed x y d after s) := by
  intro c h
  obtain ⟨r, v⟩ := s
  cases h
  exact ⟨_, rfl, .timed _ _ _ _ .refl⟩

lemma supports_afterAdmitted (id : Nat) (g : Guard) (s : Step β ι ε) :
    Supports s (afterAdmitted id g s) := by
  intro c h
  obtain ⟨r, v⟩ := s
  cases h
  exact ⟨_, rfl, .admitted _ _ .refl⟩

lemma supports_afterObserved (o : Observer ε) (s : Step β ι ε) :
    Supports s (afterObserved o s) := by
  intro c h
  obtain ⟨r, v⟩ := s
  cases h
  exact ⟨_, rfl, .observed _ .refl⟩

end

section

variable {work : Work β ι ε} {rest : List (Layer ε)} {body : β} {x : Context}
  {runs : Runs τ β ι ε} {w : World ε} {ws : List (World ε)} {ts : List τ} {s : Step β ι ε}

lemma Attempts.supports {p : RetryPolicy ε} {k : Nat}
    (h : Attempts runs p x rest body k w ws ts s) :
    ∀ t ∈ ts, ∃ w ws s', runs w ws t s' ∧ Supports s' s := by
  have hasked {k w ws t e answer v} {s : Step β ι ε} (ha : Asked runs p x k w ws t e answer v) :
      ∃ w ws s', runs w ws t s' ∧ Supports s' s := by
    cases ha with
    | intro ht _ => exact ⟨_, _, _, ht, .of_done⟩
  induction h with
  | underway ht =>
    refine List.forall_mem_singleton.mpr ⟨_, _, _, ht, fun c hc => ?_⟩
    cases hc
    exact ⟨_, rfl, .attempting _ _ _ _ _ .refl⟩
  | crashed ht => exact List.forall_mem_singleton.mpr ⟨_, _, _, ht, .of_crashed⟩
  | succeeded ht | overtaken ht _ => exact List.forall_mem_singleton.mpr ⟨_, _, _, ht, .of_done⟩
  | stuck ha | aborted ha | exhausted ha | spent ha _ | waiting ha _ _ _ _ | interrupted ha _ _ =>
    exact List.forall_mem_singleton.mpr (hasked ha)
  | again ha _ _ _ ih => exact List.forall_mem_cons.mpr ⟨hasked ha, ih⟩

lemma UnderLimiter.supports {id : Nat} (h : UnderLimiter runs id x rest body w ws ts s) :
    ∀ t ∈ ts, ∃ w ws s', runs w ws t s' ∧ Supports s' s := by
  induction h with
  | failed _ | waiting _ _ | ended _ _ _ => exact List.forall_mem_nil _
  | served _ ht => exact List.forall_mem_singleton.mpr ⟨_, _, _, ht, .refl _⟩
  | again _ _ _ _ _ ih => exact ih

lemma UnderTimeout.underlies {runs : Context → Runs τ β ι ε} {after : Duration}
    (h : UnderTimeout work runs after x w ws ts s) :
    ∀ t ∈ ts, ∃ y w ws s', runs y w ws t s' ∧ Underlies s' s := by
  cases h with
  | ended _ | overflowed _ _ => exact List.forall_mem_nil _
  | through _ ht _ =>
    exact List.forall_mem_singleton.mpr
      ⟨_, _, _, _, ht, (supports_afterTimed _ _ _ _ _).underlies⟩
  | interrupted _ ht _ _ | elapsed _ ht _ _ _ =>
    exact List.forall_mem_singleton.mpr ⟨_, _, _, _, ht, .of_given_up⟩

lemma supports_of_under {runs : Context → Runs τ β ι ε} {l : Layer ε}
    (hl : ∀ after, l ≠ .timeout after) (h : Under work rest body runs x l w ws ts s) :
    ∀ t ∈ ts, ∃ y w ws s', runs y w ws t s' ∧ Supports s' s := by
  cases l with
  | timeout after => exact absurd rfl (hl after)
  | limiter id => exact fun t ht => ⟨x, UnderLimiter.supports h t ht⟩
  | retry p => exact fun t ht => ⟨x, Attempts.supports h t ht⟩
  | breaker id =>
    cases h with
    | rejected _ => exact List.forall_mem_nil _
    | admitted _ ht =>
      exact List.forall_mem_singleton.mpr ⟨x, _, _, _, ht, supports_afterAdmitted _ _ _⟩
  | observe o =>
    cases h with
    | through ht =>
      exact List.forall_mem_singleton.mpr ⟨x, _, _, _, ht, supports_afterObserved _ _⟩

end

def Gathered (work : Work β ι ε) (rest : List (Layer ε)) (body : β)
    (runs : Context → Runs τ β ι ε) : List (Layer ε) → Context → Runs (List τ) β ι ε
  | [], x => fun w ws ts s => ∃ t, ts = [t] ∧ runs x w ws t s
  | l :: outer, x => fun w ws ts s => ∃ calls, ts = calls.flatten ∧
      Under work (outer ++ rest) body (Gathered work rest body runs outer) x l w ws calls s

variable {work : Work β ι ε} {rest : List (Layer ε)} {body : β} {runs : Context → Runs τ β ι ε}
  {outer : List (Layer ε)} {x : Context} {w : World ε} {ws : List (World ε)} {ts : List τ}
  {s : Step β ι ε}

/-- What describes a call is the set of its runs, not what is remembered of them. -/
lemma Describes.of_iff {υ : Type} {once : World ε → Step β ι ε} {runs : Runs τ β ι ε}
    {runs' : Runs υ β ι ε} (h : Describes work once runs)
    (hiff : ∀ {w ws s}, (∃ t, runs w ws t s) ↔ ∃ t, runs' w ws t s) :
    Describes work once runs' where
  begun w := hiff.mp (h.begun w)
  resumed hr w' := by
    obtain ⟨t, ht⟩ := hiff.mpr ⟨_, hr⟩
    exact hiff.mp (h.resumed ht w')
  genuine hr := by
    obtain ⟨t, ht⟩ := hiff.mpr ⟨_, hr⟩
    exact h.genuine ht

theorem Describes.gathered (h : ∀ y, Describes work (start work rest body y) (runs y))
    (outer : List (Layer ε)) (x : Context) :
    Describes work (start work (outer ++ rest) body x) (Gathered work rest body runs outer x) := by
  induction outer generalizing x with
  | nil => exact (h x).of_iff ⟨fun ⟨t, ht⟩ => ⟨[t], t, rfl, ht⟩, fun ⟨_, t, _, ht⟩ => ⟨t, ht⟩⟩
  | cons l outer ih =>
    exact (Describes.under ih l x).of_iff
      ⟨fun ⟨calls, hc⟩ => ⟨_, calls, rfl, hc⟩, fun ⟨_, calls, _, hc⟩ => ⟨calls, hc⟩⟩

lemma Gathered.supports (ho : ∀ l ∈ outer, ∀ after, l ≠ .timeout after)
    (h : Gathered work rest body runs outer x w ws ts s) :
    ∀ t ∈ ts, ∃ y w ws s', runs y w ws t s' ∧ Supports s' s := by
  induction outer generalizing x w ws ts s with
  | nil =>
    obtain ⟨t, rfl, ht⟩ := h
    exact List.forall_mem_singleton.mpr ⟨x, w, ws, s, ht, .refl s⟩
  | cons l outer ih =>
    obtain ⟨calls, rfl, hc⟩ := h
    obtain ⟨hl, ho⟩ := List.forall_mem_cons.mp ho
    intro t ht
    obtain ⟨ts, hts, ht⟩ := List.mem_flatten.mp ht
    obtain ⟨y, w', ws', s', hs', hsup⟩ := supports_of_under hl hc ts hts
    obtain ⟨z, w'', ws'', s'', hs'', hsup'⟩ := ih ho hs' t ht
    exact ⟨z, w'', ws'', s'', hs'', hsup'.trans hsup⟩

lemma Gathered.underlies {after : Duration} (ho : ∀ l ∈ outer, ∀ after, l ≠ .timeout after)
    (h : Gathered work rest body runs (.timeout after :: outer) x w ws ts s) :
    ∀ t ∈ ts, ∃ y w ws s', runs y w ws t s' ∧ Underlies s' s := by
  obtain ⟨calls, rfl, hc⟩ := h
  intro t ht
  obtain ⟨ts, hts, ht⟩ := List.mem_flatten.mp ht
  obtain ⟨y, w', ws', s', hs', hsup⟩ := UnderTimeout.underlies hc ts hts
  obtain ⟨z, w'', ws'', s'', hs'', hsup'⟩ := Gathered.supports ho hs' t ht
  exact ⟨z, w'', ws'', s'', hs'', hsup'.trans_underlies hsup⟩

end Call

end Resilience
