import Mathlib.Data.Multiset.Bind
import Mathlib.Data.Multiset.Filter
import Resilience.Proofs.Breaker.Trial
import Resilience.Proofs.Call.Cancelled
import Resilience.Proofs.Call.Guards

/-! Calls through a breaker. Such a call is rejected or makes one call of the task; in the end the
guard is settled once, in keeping with how that call has ended. So no breaker waits for a trial that
nobody makes any more. -/

namespace Resilience

namespace Traffic

def held (t : Traffic) : Multiset Guard :=
  ((t.tickets.filter (!·.settled)).map Ticket.guard : List _)

def Genuine (t : Traffic) : Prop := ∃ c b es, Breaker.ofConfig c = .ok b ∧ t = (start b).run es

lemma Genuine.step {t : Traffic} (h : t.Genuine) (e : Event) : (t.step e).2.Genuine := by
  obtain ⟨c, b, es, hb, rfl⟩ := h
  exact ⟨c, b, es ++ [e], hb, (run_append _ es [e]).symm⟩

lemma held_letIn (t : Traffic) (g : Guard) (b : Breaker) : (t.letIn g b).held = g ::ₘ t.held := by
  simp [held, letIn, ← Multiset.coe_add, Multiset.add_comm]

lemma held_set {ks : List Ticket} {i : Nat} {g : Guard} (h : ks[i]? = some ⟨g, false⟩) :
    (g :: ((ks.set i ⟨g, true⟩).filter (!·.settled)).map Ticket.guard).Perm
      ((ks.filter (!·.settled)).map Ticket.guard) := by
  induction ks generalizing i with
  | nil => simp at h
  | cons k ks ih =>
    cases i with
    | zero =>
      obtain rfl : k = ⟨g, false⟩ := by simpa using h
      exact .refl _
    | succ i =>
      have hrest := ih (i := i) (by simpa using h)
      cases hk : k.settled with
      | true => simpa [hk] using hrest
      | false => simpa [hk] using (List.Perm.swap k.guard g _).trans (hrest.cons k.guard)

lemma Outstanding.held_discharge {t : Traffic} {i : Nat} {g : Guard} (h : t.Outstanding i g)
    (b : Breaker) : g ::ₘ (t.discharge i g b).held = t.held :=
  Quotient.sound (held_set h)

lemma mem_held {t : Traffic} {g : Guard} : g ∈ t.held ↔ ∃ i, t.Outstanding i g := by
  simp only [held, Multiset.mem_coe, List.mem_map, List.mem_filter, Outstanding,
    ← List.mem_iff_getElem?]
  constructor
  · rintro ⟨⟨g, settled⟩, ⟨hk, hs⟩, rfl⟩
    cases settled with
    | true => cases hs
    | false => exact hk
  · exact fun h => ⟨_, ⟨h, rfl⟩, rfl⟩

lemma Genuine.halfOpen_iff {t : Traffic} (h : t.Genuine) :
    t.breaker.state = .halfOpen ↔ t.breaker.trial ∈ t.held := by
  obtain ⟨c, b, es, hb, rfl⟩ := h
  have ht := trials_start_run hb es
  rw [mem_held]
  exact ⟨ht.holder, fun ⟨i, hi⟩ => ht.halfOpen i hi⟩

end Traffic

namespace World

variable {ε : Type} {w v : World ε} {i j : Nat}

def putBreaker (w : World ε) (i : Nat) (b : Breaker) : World ε :=
  { w with breakers := w.breakers.setIfInBounds i b }

@[simp] lemma size_putBreaker (w : World ε) (i : Nat) (b : Breaker) :
    (w.putBreaker i b).breakers.size = w.breakers.size := Array.size_setIfInBounds

lemma breaker_putBreaker_self (h : i < w.breakers.size) (b : Breaker) :
    (w.putBreaker i b).breaker i = b := by
  simp [breaker, putBreaker, h]

lemma breaker_putBreaker_ne (h : i ≠ j) (b : Breaker) :
    (w.putBreaker j b).breaker i = w.breaker i := by
  simp [breaker, putBreaker, h.symm]

def resetBreaker (w : World ε) (i : Nat) : World ε :=
  w.putBreaker i ((w.breaker i).reset w.now)

lemma enter_eq {r : Except Failure Guard} (h : w.enter i = (r, v)) :
    ∃ b, (w.breaker i).enter w.now = (r, b) ∧ v = w.putBreaker i b := by
  cases h
  exact ⟨_, rfl, rfl⟩

end World

def Guards.of (gs : Guards) (id : Nat) : Multiset Guard := (gs.filter (·.1 = id)).map Prod.snd

namespace Guards

variable {gs : Guards} {i j : Nat} {g : Guard}

@[simp] lemma of_cons_self (gs : Guards) (i : Nat) (g : Guard) :
    of ((i, g) ::ₘ gs) i = g ::ₘ of gs i := by
  simp [of]

lemma of_cons_ne (h : i ≠ j) (gs : Guards) (g : Guard) : of ((j, g) ::ₘ gs) i = of gs i := by
  simp [of, h.symm]

lemma mem_of : g ∈ of gs i ↔ (i, g) ∈ gs := by
  simp [of]

end Guards

namespace Call

variable {β ι ε : Type}

/-- All guards that a breaker still counts on are in hand. -/
def Accounted (w : World ε) (gs : Guards) : Prop :=
  ∀ id < w.breakers.size, ∃ t : Traffic, t.Genuine ∧ t.breaker = w.breaker id ∧ t.held = gs.of id

namespace Accounted

variable {w v : World ε} {gs hs : Guards} {id : Nat} {g : Guard}

lemma of_breakers_eq (h : Accounted w gs) (hv : v.breakers = w.breakers) : Accounted v gs := by
  unfold Accounted World.breaker
  rw [hv]
  exact h

lemma put (h : Accounted w gs) {b : Breaker}
    (hself : ∀ t : Traffic, t.Genuine → t.breaker = w.breaker id → t.held = gs.of id →
      ∃ t' : Traffic, t'.Genuine ∧ t'.breaker = b ∧ t'.held = hs.of id)
    (hothers : ∀ j ≠ id, hs.of j = gs.of j) : Accounted (w.putBreaker id b) hs := by
  intro j hj
  rw [World.size_putBreaker] at hj
  obtain ⟨t, ht, hb, hg⟩ := h j hj
  by_cases hid : j = id
  · subst hid
    rw [World.breaker_putBreaker_self hj]
    exact hself t ht hb hg
  · rw [World.breaker_putBreaker_ne hid, hothers j hid]
    exact ⟨t, ht, hb, hg⟩

lemma admitted (h : Accounted w gs) (he : w.enter id = (.ok g, v)) :
    Accounted v ((id, g) ::ₘ gs) := by
  obtain ⟨b, hb, rfl⟩ := World.enter_eq he
  refine h.put (fun t ht htb hg => ⟨_, ht.step ⟨w.now, .enter⟩, ?_⟩) fun j hj => ?_
  · rw [← htb] at hb
    rw [Traffic.step_admitted hb, Guards.of_cons_self, ← hg]
    exact ⟨rfl, t.held_letIn g b⟩
  · exact Guards.of_cons_ne hj gs g

lemma rejected (h : Accounted w gs) {e : Failure} (he : w.enter id = (.error e, v)) :
    Accounted v gs := by
  obtain ⟨b, hb, rfl⟩ := World.enter_eq he
  refine h.put (fun t ht htb hg => ⟨_, ht.step ⟨w.now, .enter⟩, ?_⟩) fun _ _ => rfl
  rw [← htb] at hb
  rw [Traffic.step_rejected hb]
  exact ⟨rfl, hg⟩

lemma settled (h : Accounted w ((id, g) ::ₘ gs)) (q : Settlement) :
    Accounted (w.settle id g q) gs := by
  refine h.put (fun t ht htb hg => ?_) fun j hj => (Guards.of_cons_ne hj gs g).symm
  rw [Guards.of_cons_self] at hg
  obtain ⟨i, hi⟩ := Traffic.mem_held.mp (hg ▸ Multiset.mem_cons_self g (gs.of id))
  refine ⟨_, ht.step ⟨w.now, .settle i q⟩, ?_⟩
  rw [Traffic.step_settle hi, ← htb]
  exact ⟨rfl, (Multiset.cons_inj_right g).mp ((hi.held_discharge _).trans hg)⟩

lemma reset (h : Accounted w gs) (id : Nat) : Accounted (w.resetBreaker id) gs := by
  refine h.put (fun t ht htb hg => ⟨_, ht.step ⟨w.now, .reset⟩, ?_⟩) fun _ _ => rfl
  rw [← htb]
  exact ⟨rfl, hg⟩

lemma handles (h : Accounted w gs) (hh : Handles w gs v hs) : Accounted v hs := by
  induction hh with
  | refl => exact h
  | aside _ hb ih => exact ih.of_breakers_eq hb
  | admitted _ he ih => exact ih.admitted he
  | rejected _ he ih => exact ih.rejected he
  | settled q _ ih => exact ih.settled q

lemma halfOpen_iff (h : Accounted w gs) (hid : id < w.breakers.size) :
    (w.breaker id).state = .halfOpen ↔ (id, (w.breaker id).trial) ∈ gs := by
  obtain ⟨t, ht, hb, hg⟩ := h id hid
  rw [← hb, ht.halfOpen_iff, hg, Guards.mem_of]

lemma start (h : ∀ b ∈ w.breakers, ∃ c, Breaker.ofConfig c = .ok b) : Accounted w 0 := by
  intro id hid
  obtain ⟨c, hc⟩ := h w.breakers[id] (Array.getElem_mem hid)
  refine ⟨.start w.breakers[id], ⟨c, _, [], hc, rfl⟩, ?_, rfl⟩
  simp [Traffic.start, World.breaker, hid]

end Accounted

structure Callers (β ι ε : Type) where
  world : World ε
  underway : Multiset (Call β ι ε)
  outside : Guards

namespace Callers

def held (f : Callers β ι ε) : Guards := f.underway.bind guards + f.outside

end Callers

def Step.underway (s : Step β ι ε) : Multiset (Call β ι ε) :=
  match s.1 with
  | .pending c => {c}
  | _ => 0

lemma Step.bind_underway (s : Step β ι ε) : s.underway.bind Call.guards = s.guards := by
  rcases s with ⟨_ | _ | c, w⟩
  · rfl
  · rfl
  · exact Multiset.singleton_bind ..

namespace Callers

inductive Move (work : Work β ι ε) : Callers β ι ε → Callers β ι ε → Prop
  | call (t : Task β ε) (x : Context) {w : World ε} {cs : Multiset (Call β ι ε)} {gs : Guards} :
      Move work ⟨w, cs, gs⟩ ⟨(ofTask work t x w).2, (ofTask work t x w).underway + cs, gs⟩
  | look {w : World ε} {c : Call β ι ε} {cs : Multiset (Call β ι ε)} {gs : Guards} :
      Move work ⟨w, c ::ₘ cs, gs⟩ ⟨(c.resume work w).2, (c.resume work w).underway + cs, gs⟩
  | drop {w : World ε} {c : Call β ι ε} {cs : Multiset (Call β ι ε)} {gs : Guards} :
      Move work ⟨w, c ::ₘ cs, gs⟩ ⟨c.drop work w, cs, gs⟩
  | enter {w v : World ε} {cs : Multiset (Call β ι ε)} {gs : Guards} {id : Nat} {g : Guard} :
      w.enter id = (.ok g, v) → Move work ⟨w, cs, gs⟩ ⟨v, cs, (id, g) ::ₘ gs⟩
  | reject {w v : World ε} {cs : Multiset (Call β ι ε)} {gs : Guards} {id : Nat} {e : Failure} :
      w.enter id = (.error e, v) → Move work ⟨w, cs, gs⟩ ⟨v, cs, gs⟩
  | settle {w : World ε} {cs : Multiset (Call β ι ε)} {gs : Guards} {id : Nat} {g : Guard}
      (q : Settlement) : Move work ⟨w, cs, (id, g) ::ₘ gs⟩ ⟨w.settle id g q, cs, gs⟩
  | reset (id : Nat) {w : World ε} {cs : Multiset (Call β ι ε)} {gs : Guards} :
      Move work ⟨w, cs, gs⟩ ⟨w.resetBreaker id, cs, gs⟩
  /-- Time goes by, tokens are taken or cancelled, and so on. -/
  | aside {w v : World ε} {cs : Multiset (Call β ι ε)} {gs : Guards} :
      v.breakers = w.breakers → Move work ⟨w, cs, gs⟩ ⟨v, cs, gs⟩

inductive Reachable (work : Work β ι ε) : Callers β ι ε → Prop
  | start {w : World ε} : (∀ b ∈ w.breakers, ∃ c, Breaker.ofConfig c = .ok b) →
      Reachable work ⟨w, 0, 0⟩
  | move {f f' : Callers β ι ε} : Reachable work f → Move work f f' → Reachable work f'

variable {work : Work β ι ε} {f f' : Callers β ι ε}

lemma Move.accounted (h : Move work f f') (hf : Accounted f.world f.held) :
    Accounted f'.world f'.held := by
  cases h with
  | @call t x w cs gs =>
    have hs : Handles w 0 (ofTask work t x w).2 (ofTask work t x w).guards :=
      start_handled work t.layers t.body x w
    simp only [held, Multiset.add_bind, Step.bind_underway] at hf ⊢
    rw [← Multiset.zero_add (cs.bind guards)] at hf
    simpa only [Multiset.add_assoc] using hf.handles ((hs.beside _).beside gs)
  | @look w c cs gs =>
    have hs : Handles w c.guards _ _ := resume_handled work c w
    simp only [held, Multiset.add_bind, Multiset.cons_bind, Step.bind_underway] at hf ⊢
    exact hf.handles ((hs.beside _).beside gs)
  | @drop w c cs gs =>
    have hs : Handles w c.guards _ 0 := drop_handles work c w
    simp only [held, Multiset.cons_bind] at hf ⊢
    simpa only [Multiset.zero_add] using hf.handles ((hs.beside _).beside gs)
  | enter he =>
    simp only [held, Multiset.add_cons] at hf ⊢
    exact hf.admitted he
  | reject he => exact hf.rejected he
  | settle q =>
    simp only [held, Multiset.add_cons] at hf ⊢
    exact hf.settled q
  | reset id => exact hf.reset id
  | aside hv => exact hf.of_breakers_eq hv

theorem Reachable.accounted (h : Reachable work f) : Accounted f.world f.held := by
  induction h with
  | start hw => exact .start hw
  | move _ hm ih => exact hm.accounted ih

end Callers

inductive Exit where
  | returned (outcome : Outcome)
  | crashed (crash : Crash)
  | dropped

def Exit.settlement : Exit → Settlement
  | returned (.ok _) => .success
  | returned (.error (.cancelled _)) => .abandoned
  | returned (.error _) => .failure
  | crashed _ | dropped => .abandoned

lemma Exit.settlement_returned (r : Outcome) :
    (returned r).settlement = Breaker.settlementOf r := by
  rcases r with e | _
  · cases e <;> rfl
  · rfl

inductive Ended (work : Work β ι ε) (s : Step β ι ε) : List (World ε) → Exit → World ε → Prop
  | returned {ws : List (World ε)} {r : Outcome} {v : World ε} :
      Run work anyone s ws (.done r, v) → Ended work s ws (.returned r) v
  | crashed {ws : List (World ε)} {k : Crash} {v : World ε} :
      Run work anyone s ws (.crashed k, v) → Ended work s ws (.crashed k) v
  | dropped {ws : List (World ε)} {c : Call β ι ε} {v : World ε} :
      Run work anyone s ws (.pending c, v) → ∀ u, Ended work s (ws ++ [u]) .dropped (c.drop work u)

section

variable {work : Work β ι ε} {t : Task β ε} {x : Context} {w v : World ε} {id : Nat} {g : Guard}
  {ws : List (World ε)} {s : Step β ι ε}

lemma run_breaker_of_enter (he : w.enter id = (.ok g, v)) :
    Run work anyone (ofTask work (t.wrap (.breaker id)) x w) ws s ↔
      ∃ s', Run work anyone (ofTask work t x v) ws s' ∧ s = afterAdmitted id g s' := by
  refine ((describes_invocations work t x).breaker id).run_iff.trans ⟨?_, ?_⟩
  · rintro ⟨_, hr⟩
    cases hr with
    | rejected he' => cases he.symm.trans he'
    | admitted he' hr =>
      cases he.symm.trans he'
      exact ⟨_, hr.2, rfl⟩
  · rintro ⟨s', hr, rfl⟩
    exact ⟨[v], .admitted he ⟨rfl, hr⟩⟩

lemma run_breaker_of_reject {e : Failure} (he : w.enter id = (.error e, v)) :
    Run work anyone (ofTask work (t.wrap (.breaker id)) x w) ws s ↔
      ws = [] ∧ s = (.done (.error e), v) := by
  refine ((describes_invocations work t x).breaker id).run_iff.trans ⟨?_, ?_⟩
  · rintro ⟨_, hr⟩
    cases hr with
    | rejected he' =>
      cases he.symm.trans he'
      exact ⟨rfl, rfl⟩
    | admitted he' _ => cases he.symm.trans he'
  · rintro ⟨rfl, rfl⟩
    exact ⟨[], .rejected he⟩

lemma ended_breaker_of_enter {exit : Exit} (he : w.enter id = (.ok g, v)) {u : World ε} :
    Ended work (ofTask work (t.wrap (.breaker id)) x w) ws exit u ↔
      ∃ v', Ended work (ofTask work t x v) ws exit v' ∧ u = v'.settle id g exit.settlement := by
  constructor
  · intro h
    cases h with
    | @returned _ r _ hr =>
      obtain ⟨⟨r' | k | c, v'⟩, hr', hs⟩ := (run_breaker_of_enter he).mp hr <;> cases hs
      exact ⟨v', .returned hr', by rw [Exit.settlement_returned]⟩
    | crashed hr =>
      obtain ⟨⟨r' | k | c, v'⟩, hr', hs⟩ := (run_breaker_of_enter he).mp hr <;> cases hs
      exact ⟨v', .crashed hr', rfl⟩
    | dropped hr u =>
      obtain ⟨⟨r' | k | c, v'⟩, hr', hs⟩ := (run_breaker_of_enter he).mp hr <;> cases hs
      exact ⟨_, .dropped hr' u, rfl⟩
  · rintro ⟨v', h, rfl⟩
    cases h with
    | returned hr =>
      rw [Exit.settlement_returned]
      exact .returned ((run_breaker_of_enter he).mpr ⟨_, hr, rfl⟩)
    | crashed hr => exact .crashed ((run_breaker_of_enter he).mpr ⟨_, hr, rfl⟩)
    | dropped hr u => exact .dropped ((run_breaker_of_enter he).mpr ⟨_, hr, rfl⟩) u

lemma ended_breaker_of_reject {exit : Exit} {e : Failure} (he : w.enter id = (.error e, v))
    {u : World ε} : Ended work (ofTask work (t.wrap (.breaker id)) x w) ws exit u ↔
      ws = [] ∧ exit = .returned (.error e) ∧ u = v := by
  constructor
  · intro h
    cases h with
    | returned hr =>
      obtain ⟨rfl, hs⟩ := (run_breaker_of_reject he).mp hr
      cases hs
      exact ⟨rfl, rfl, rfl⟩
    | crashed hr | dropped hr _ => cases ((run_breaker_of_reject he).mp hr).2
  · rintro ⟨rfl, rfl, rfl⟩
    exact .returned ((run_breaker_of_reject he).mpr ⟨rfl, rfl⟩)

end

theorem breaker_call_settles_once (work : Work β ι ε) (id : Nat) :
    (∀ (t : Task β ε) (x : Context) (w : World ε) (ws : List (World ε)) (exit : Exit) (v : World ε),
      Ended work (ofTask work (t.wrap (.breaker id)) x w) ws exit v ↔
        (∃ d, w.enter id = (.error (.circuitOpen d), v) ∧ ws = [] ∧
          exit = .returned (.error (.circuitOpen d))) ∨
        ∃ g u v', w.enter id = (.ok g, u) ∧ Ended work (ofTask work t x u) ws exit v' ∧
          v = v'.settle id g exit.settlement) ∧
    (∀ (w : World ε) (g : Guard) (q : Settlement), id < w.breakers.size →
      (w.settle id g q).breaker id = (w.breaker id).settle g q w.now) ∧
    ∀ f : Callers β ι ε, f.Reachable work → id < f.world.breakers.size →
      ((f.world.breaker id).state = .halfOpen ↔
        (id, ⟨.trial, (f.world.breaker id).generation⟩) ∈ f.held) ∧
      (f.underway = 0 → (∀ g, (id, g) ∉ f.outside) →
        (f.world.breaker id).state ≠ .halfOpen) := by
  refine ⟨fun t x w ws exit v => ?_, fun w g q hid => World.breaker_putBreaker_self hid _,
    fun f hf hid => ?_⟩
  · rcases he : w.enter id with ⟨e | g, u⟩
    · obtain ⟨d, rfl⟩ := raises_of_enter he
      rw [ended_breaker_of_reject he]
      constructor
      · rintro ⟨rfl, rfl, rfl⟩
        exact .inl ⟨d, rfl, rfl, rfl⟩
      · rintro (⟨d', he', rfl, rfl⟩ | ⟨g, u', v', he', _⟩)
        · cases he'
          exact ⟨rfl, rfl, rfl⟩
        · cases he'
    · rw [ended_breaker_of_enter he]
      constructor
      · rintro ⟨v', h, rfl⟩
        exact .inr ⟨g, u, v', rfl, h, rfl⟩
      · rintro (⟨d, he', _⟩ | ⟨g', u', v', he', h, rfl⟩)
        · cases he'
        · cases he'
          exact ⟨v', h, rfl⟩
  · have hiff := hf.accounted.halfOpen_iff hid
    refine ⟨hiff, fun hnone hout hs => ?_⟩
    have hheld := hiff.mp hs
    rw [Callers.held, hnone, Multiset.zero_bind, Multiset.zero_add] at hheld
    exact hout _ hheld

def unbroken : World Unit := { still with breakers := #[{ config := Traffic.opensAfter 1 }] }

def reopening : World Unit :=
  let w := unbroken.settle 0 ⟨.normal, 0⟩ .failure
  { w with clock := w.clock.jump 1 }

def onTrial : Call Unit Context Unit := .admitted 0 ⟨.trial, 0⟩ (.working ⟨⟨0, []⟩, none⟩)

theorem dropped_trial_is_given_up : ∃ f : Callers Unit Context Unit,
    f.Reachable untilEnd ∧ f.underway = {onTrial} ∧ (f.world.breaker 0).state = .halfOpen ∧
    ((onTrial.drop untilEnd f.world).breaker 0).state ≠ .halfOpen := by
  have hnew : Callers.Reachable untilEnd ⟨unbroken, 0, 0⟩ := by
    refine .start fun b hb => ⟨Traffic.opensAfter 1, ?_⟩
    obtain rfl := Array.mem_singleton.mp hb
    rfl
  have hentered : Callers.Reachable untilEnd ⟨unbroken, 0, (0, ⟨.normal, 0⟩) ::ₘ 0⟩ :=
    hnew.move (.enter rfl)
  have hopen : Callers.Reachable untilEnd ⟨reopening, 0, 0⟩ :=
    (hentered.move (.settle .failure)).move (.aside rfl)
  have htrial : Callers.Reachable untilEnd ⟨(reopening.enter 0).2, onTrial ::ₘ 0, 0⟩ :=
    hopen.move (.call (lone.wrap (.breaker 0)) ⟨⟨0, []⟩, none⟩)
  refine ⟨_, htrial, rfl, by decide, ?_⟩
  exact ((breaker_call_settles_once untilEnd 0).2.2 _ (htrial.move .drop) (by decide)).2 rfl
    (by simp)

end Call

end Resilience
