import Resilience.Proofs.Call.Gathered
import Resilience.Proofs.Call.Limited
import Resilience.Proofs.Call.Settled

/-! Calls of a task in a pipeline that has a limiter and a breaker. A call consists of attempts, one
after the other. The breaker hands out a guard or rejects the attempt; with a guard the attempt
waits for a token, and it invokes the task once it has taken one, and only then. -/

namespace Resilience

namespace Call

variable {β ι ε τ : Type}

/-- A caller comes to a breaker: what he finds, what he is told, and what he leaves. -/
structure Visit (ε : Type) where
  found : World ε
  answer : Except Failure Guard
  left : World ε

namespace Visit

def guards (a : Visit ε) : List Guard := a.answer.toOption.toList

def reply (a : Visit ε) : Traffic.Answer :=
  match a.answer with
  | .ok g => .admitted g
  | .error e => .rejected e

/-- Whichever guards the breaker has handed out before, these are handed out now. -/
def Genuine (id : Nat) (a : Visit ε) : Prop :=
  ∀ t : Traffic, t.breaker = a.found.breaker id → ∃ t',
    Traffic.Effect t a.found.now .enter a.reply t' ∧
      t'.tickets = t.tickets ++ a.guards.map (⟨·, false⟩) ∧
      a.left = a.found.putBreaker id t'.breaker

lemma genuine_of_enter {id : Nat} {w v : World ε} {r : Except Failure Guard}
    (h : w.enter id = (r, v)) : Genuine id ⟨w, r, v⟩ := by
  obtain ⟨b, hb, rfl⟩ := World.enter_eq h
  intro t ht
  have heffect := t.enter_effect w.now
  rw [← ht] at hb
  cases r with
  | ok g =>
    rw [Traffic.step_admitted hb] at heffect
    exact ⟨_, heffect, rfl, rfl⟩
  | error e =>
    rw [Traffic.step_rejected hb] at heffect
    exact ⟨_, heffect, (List.append_nil _).symm, rfl⟩

end Visit

/-- A guard is given back to its breaker. -/
structure Return (ε : Type) where
  found : World ε
  settlement : Settlement
  left : World ε

namespace Return

def Genuine (id : Nat) (g : Guard) (a : Return ε) : Prop :=
  ∀ (t : Traffic) (i : Nat), t.breaker = a.found.breaker id → t.Outstanding i g → ∃ t',
    Traffic.Effect t a.found.now (.settle i a.settlement) (.settled g a.settlement) t' ∧
      a.left = a.found.putBreaker id t'.breaker

lemma genuine_settle (w : World ε) (id : Nat) (g : Guard) (q : Settlement) :
    Genuine id g ⟨w, q, w.settle id g q⟩ := by
  intro t i ht hi
  have heffect := t.settle_effect w.now i q
  rw [Traffic.step_settle hi] at heffect
  refine ⟨_, heffect, ?_⟩
  rw [ht]
  rfl

end Return

/-- An attempt: the visit to the breaker, the looks at the limiter and what came of them, the worlds
in which the task was invoked, and the return of the guard. There is none if the attempt goes on or
was given up. -/
structure Attempt (ε : Type) where
  visit : Visit ε
  looks : List (Look ε) := []
  answer : Option Queue := none
  calls : List (World ε) := []
  back : Option (Return ε) := none

def Step.back (id : Nat) (g : Guard) : Step β ι ε → Option (Return ε)
  | (.pending _, _) => none
  | (.crashed _, w) => some ⟨w, .abandoned, w.settle id g .abandoned⟩
  | (.done r, w) => some ⟨w, Breaker.settlementOf r, w.settle id g (Breaker.settlementOf r)⟩

inductive Attempted (runs : Runs (Passage ε) β ι ε) (id : Nat) : Runs (Attempt ε) β ι ε
  | rejected {w v : World ε} {d : Duration} : w.enter id = (.error (.circuitOpen d), v) →
      Attempted runs id w [] { visit := ⟨w, .error (.circuitOpen d), v⟩ }
        (.done (.error (.circuitOpen d)), v)
  | admitted {w v : World ε} {g : Guard} {ws : List (World ε)} {p : Passage ε}
      {s : Step β ι ε} : w.enter id = (.ok g, v) → runs v ws p s →
      Attempted runs id w ws ⟨⟨w, .ok g, v⟩, p.looks, some p.answer, p.calls, s.back id g⟩
        (afterAdmitted id g s)

section

variable {id : Nat} {w : World ε} {ws : List (World ε)} {s : Step β ι ε}

lemma Step.pending_of_back {g : Guard} (h : s.back id g = none) : ∃ c v, s = (.pending c, v) := by
  rcases s with ⟨_ | _ | c, v⟩
  · cases h
  · cases h
  · exact ⟨c, v, rfl⟩

lemma Step.back_genuine (id : Nat) (g : Guard) (s : Step β ι ε) :
    ∀ a ∈ s.back id g, a.Genuine id g := by
  rcases s with ⟨_ | _ | _, w⟩
  · rintro _ ⟨⟩
    exact Return.genuine_settle w id g _
  · rintro _ ⟨⟩
    exact Return.genuine_settle w id g _
  · exact nofun

lemma underBreaker_iff_attempted {runs : Runs (Passage ε) β ι ε} :
    (∃ ps, UnderBreaker runs id w ws ps s) ↔ ∃ a, Attempted runs id w ws a s := by
  constructor
  · rintro ⟨_, h⟩
    cases h with
    | rejected he =>
      obtain ⟨d, rfl⟩ := raises_of_enter he
      exact ⟨_, .rejected he⟩
    | admitted he hp => exact ⟨_, .admitted he hp⟩
  · rintro ⟨_, h⟩
    cases h with
    | rejected he => exact ⟨_, .rejected he⟩
    | admitted he hp => exact ⟨_, .admitted he hp⟩

end

end Call

namespace Pipeline

variable {β ε : Type}

def around (p : Pipeline) (draw : ε → Float × ε) : List (Layer ε) :=
  p.timeout.toList.map .timeout ++ (p.retry.toList.map fun r => r.policy draw).filterMap fun q =>
    if q.budget = some 0 then none else some (.retry q)

def within (p : Pipeline) : List (Layer ε) := p.attemptTimeout.toList.map .timeout

lemma under_eq (p : Pipeline) (t : Task β ε) (l b : Nat) (draw : ε → Float × ε) :
    t.under p (some l) (some b) draw = { t with
      layers := p.around draw ++ .breaker b :: .limiter l :: (p.within ++ t.layers) } := by
  obtain ⟨retry, timeout, attemptTimeout, _, _⟩ := p
  cases retry with
  | none => cases timeout <;> cases attemptTimeout <;> rfl
  | some r =>
    by_cases hr : (r.policy draw).budget = some 0 <;> cases timeout <;> cases attemptTimeout <;>
      simp [Task.under, Task.wrapIf, Task.wrap, Task.retry, around, within, hr]

end Pipeline

namespace Call

namespace Attempt

variable {ε : Type}

def admissions (a : Attempt ε) : Nat := a.visit.guards.length

def tokens (a : Attempt ε) : Nat := a.looks.countP (·.taken)

def invocations (a : Attempt ε) : Nat := a.calls.length

def limiterErrors (a : Attempt ε) : Nat :=
  match a.answer with
  | some (.failed _) => 1
  | _ => 0

/-- The attempt waits for a token, or it has been given up while it did. -/
def waits (a : Attempt ε) : Nat :=
  match a.answer with
  | some (.wait _) => 1
  | _ => 0

def Timely (p : Pipeline) (a : Attempt ε) : Prop :=
  ∀ k ∈ a.looks, k.taken = true → ∀ after ∈ p.attemptTimeout, k.left.clock.deadline? after ≠ none

structure Sound (l b : Nat) (a : Attempt ε) : Prop where
  visit : a.visit.Genuine b
  looks : ∀ k ∈ a.looks, k.Leaves l
  rejected : a.visit.guards = [] →
    (∃ d, a.visit.answer = .error (.circuitOpen d)) ∧ a.looks = [] ∧ a.answer = none
  /-- With a guard the caller goes on to the limiter at once. -/
  admitted : a.visit.guards ≠ [] →
    ∃ k later q, a.looks = k :: later ∧ k.found = a.visit.left ∧ a.answer = some q
  served : a.answer = some .served → ∃ before k u, a.looks = before ++ [k] ∧
    (∀ k' ∈ before, k'.taken = false) ∧ k.taken = true ∧ a.calls = [u] ∧
    u.limiters = k.left.limiters ∧ u.breakers = k.left.breakers
  unserved : a.answer ≠ some .served → (∀ k ∈ a.looks, k.taken = false) ∧ a.calls = []
  waiting : ∀ wake, a.answer = some (.wait wake) → a.back = none
  back : ∀ g, a.visit.answer = .ok g → ∀ r ∈ a.back, r.Genuine b g

variable {a : Attempt ε} {l b : Nat}

lemma Sound.tokens_eq (h : a.Sound l b) : a.tokens = a.invocations := by
  unfold tokens invocations
  by_cases hserved : a.answer = some .served
  · obtain ⟨before, k, u, hlooks, hbefore, hk, hcalls, _⟩ := h.served hserved
    simp [hlooks, hcalls, Look.countP_taken hbefore, hk]
  · obtain ⟨hlooks, hcalls⟩ := h.unserved hserved
    rw [Look.countP_taken hlooks, hcalls, List.length_nil]

lemma guards_length_le_one (a : Visit ε) : a.guards.length ≤ 1 := by
  rw [Visit.guards, Option.length_toList]
  split <;> omega

lemma Sound.admissions_eq (h : a.Sound l b) :
    a.admissions = a.invocations + (a.limiterErrors + a.waits) := by
  unfold admissions invocations limiterErrors waits
  by_cases hguards : a.visit.guards = []
  · obtain ⟨_, _, hanswer⟩ := h.rejected hguards
    obtain ⟨_, hcalls⟩ := h.unserved (by simp [hanswer])
    simp [hguards, hanswer, hcalls]
  · have hone : a.visit.guards.length = 1 :=
      Nat.le_antisymm (guards_length_le_one a.visit) (List.length_pos_of_ne_nil hguards)
    obtain ⟨_, _, q, _, _, hanswer⟩ := h.admitted hguards
    cases q with
    | served =>
      obtain ⟨_, _, _, _, _, _, hcalls, _⟩ := h.served hanswer
      simp [hone, hanswer, hcalls]
    | failed _ | wait _ =>
      obtain ⟨_, hcalls⟩ := h.unserved (by simp [hanswer])
      simp [hone, hanswer, hcalls]

end Attempt

section

variable (work : Work β ι ε) (p : Pipeline) (l b : Nat) (draw : ε → Float × ε) (t : Task β ε)

def piped (x : Context) : Runs (List (Attempt ε)) β ι ε :=
  Gathered work (.breaker b :: .limiter l :: (p.within ++ t.layers)) t.body
    (fun y => Attempted (Queueing
      (Gathered work t.layers t.body (invocations work t) p.within y) l y
      (p.within ++ t.layers) t.body) b) (p.around draw) x

theorem describes_piped (x : Context) :
    Describes work (ofTask work (t.under p (some l) (some b) draw) x)
      (piped work p l b draw t x) := by
  have hwithin (y : Context) : Describes work (start work (p.within ++ t.layers) t.body y)
      (Gathered work t.layers t.body (invocations work t) p.within y) :=
    Describes.gathered (describes_invocations work t) p.within y
  have hattempt (y : Context) :=
    (((hwithin y).queueing l).breaker b).of_iff underBreaker_iff_attempted
  have hall := Describes.gathered hattempt (p.around draw) x
  rw [p.under_eq]
  exact hall

end

section

variable {work : Work β ι ε} {p : Pipeline} {l b : Nat} {draw : ε → Float × ε} {t : Task β ε}
  {x : Context} {w : World ε} {ws : List (World ε)} {s : Step β ι ε} {a : Attempt ε}

lemma invoked_once {calls : List (World ε)}
    (h : Gathered work t.layers t.body (invocations work t) p.within x w ws calls s)
    (hlive : w.err x = none) (hd : ∀ after ∈ p.attemptTimeout, w.clock.deadline? after ≠ none) :
    ∃ u, calls = [u] ∧ u.limiters = w.limiters ∧ u.breakers = w.breakers := by
  unfold Pipeline.within at h
  cases ha : p.attemptTimeout with
  | none =>
    rw [ha] at h
    obtain ⟨_, rfl, rfl, _⟩ := h
    exact ⟨_, rfl, rfl, rfl⟩
  | some after =>
    rw [ha] at h
    obtain ⟨calls, rfl, hc⟩ := h
    cases hc with
    | ended he => simp [hlive] at he
    | overflowed _ hover => exact absurd hover (hd after ha)
    | through ho ht _ | interrupted ho ht _ _ | elapsed ho ht _ _ _ =>
      obtain ⟨_, rfl, rfl, _⟩ := ht
      cases ho.child
      exact ⟨_, rfl, rfl, rfl⟩

lemma Attempted.sound
    (h : Attempted (Queueing (Gathered work t.layers t.body (invocations work t) p.within x) l x
      (p.within ++ t.layers) t.body) b w ws a s)
    (hd : a.Timely p) : a.Sound l b := by
  cases h with
  | rejected he =>
    refine ⟨Visit.genuine_of_enter he, List.forall_mem_nil _, fun _ => ⟨⟨_, rfl⟩, rfl, rfl⟩,
      fun hg => absurd rfl hg, nofun, fun _ => ⟨List.forall_mem_nil _, rfl⟩, nofun, nofun⟩
  | admitted he hq =>
    obtain ⟨_, ha⟩ := hq.acquired
    obtain ⟨k, later, hlooks, hk⟩ := ha.first
    refine ⟨Visit.genuine_of_enter he, fun k hk => (ha.genuine k hk).leaves, nofun,
      fun _ => ⟨k, later, _, hlooks, hk, rfl⟩, fun hserved => ?_, fun hunserved => ?_,
      fun wake hwait => ?_, ?_⟩
    · cases hq with
      | served ha hr =>
        obtain ⟨_, hacquire⟩ := ha.acquire
        obtain ⟨before, k, rfl, htaken, _, rfl, hbefore⟩ := ha.last
        have hk := hd k List.mem_concat_self htaken
        obtain ⟨u, rfl, hlimiters, hbreakers⟩ := invoked_once hr hacquire.err hk
        exact ⟨before, k, u, rfl, hbefore, htaken, rfl, hlimiters, hbreakers⟩
      | failed _ | waiting _ => cases hserved
    · cases hq with
      | served _ _ => exact absurd rfl hunserved
      | failed ha | waiting ha => exact ⟨ha.not_taken nofun, rfl⟩
    · cases hq with
      | waiting _ => rfl
      | served _ _ | failed _ => cases hwait
    · intro g hg
      cases hg
      exact Step.back_genuine b _ _

lemma Attempted.inside {runs : Runs (List (World ε)) β ι ε} {rest : List (Layer ε)} {body : β}
    (h : Attempted (Queueing runs l x rest body) b w ws a s) {g : Guard}
    (hg : a.visit.answer = .ok g) (hback : a.back = none) :
    ∃ c, s.1 = .pending (.admitted b g c) ∧
      ∀ wake, a.answer = some (.wait wake) → c = .queueing l x wake rest body := by
  cases h with
  | rejected _ => cases hg
  | admitted _ hq =>
    cases hg
    obtain ⟨c, v, rfl⟩ := Step.pending_of_back hback
    refine ⟨c, rfl, fun wake hwait => ?_⟩
    generalize hs : (Progress.pending c, v) = s' at hq
    cases hq with
    | waiting _ =>
      cases hs
      cases hwait
      rfl
    | served _ _ | failed _ => cases hwait

lemma underlies_of_around {rest : List (Layer ε)} {body : β} {runs : Context → Runs τ β ι ε}
    {ts : List τ} (h : Gathered work rest body runs (p.around draw) x w ws ts s) :
    ∀ a ∈ ts, ∃ y w ws s', runs y w ws a s' ∧ Underlies s' s := by
  have hretry : ∀ l ∈ (p.retry.toList.map fun r => r.policy draw).filterMap fun q =>
      if q.budget = some 0 then none else some (.retry q), ∀ after, l ≠ Layer.timeout after := by
    intro l hl after
    obtain ⟨q, _, hq⟩ := List.mem_filterMap.mp hl
    split at hq <;> cases hq
    exact nofun
  unfold Pipeline.around at h
  cases ht : p.timeout with
  | none =>
    rw [ht] at h
    intro a ha
    obtain ⟨y, w', ws', s', hr, hsup⟩ := Gathered.supports hretry h a ha
    exact ⟨y, w', ws', s', hr, hsup.underlies⟩
  | some after =>
    rw [ht] at h
    exact Gathered.underlies hretry h

variable {attempts : List (Attempt ε)}

theorem piped_sound (h : piped work p l b draw t x w ws attempts s)
    (hd : ∀ a ∈ attempts, a.Timely p) : ∀ a ∈ attempts, a.Sound l b := by
  intro a ha
  obtain ⟨y, _, _, s', hr, _⟩ := underlies_of_around h a ha
  exact hr.sound (hd a ha)

theorem piped_inside (h : piped work p l b draw t x w ws attempts s) {c : Call β ι ε}
    (hs : s.1 = .pending c) (ha : a ∈ attempts) {g : Guard} (hg : a.visit.answer = .ok g)
    (hback : a.back = none) :
    ∃ c' y, Beneath (.admitted b g c') c ∧ ∀ wake, a.answer = some (.wait wake) →
      c' = .queueing l y wake (p.within ++ t.layers) t.body := by
  obtain ⟨y, _, _, s', hr, hunder⟩ := underlies_of_around h a ha
  obtain ⟨c', hc', hwait⟩ := hr.inside hg hback
  rcases hunder _ hc' with ⟨c'', hc'', hbeneath⟩ | ⟨o, ho⟩
  · obtain rfl := Progress.pending.inj (hs.symm.trans hc'')
    exact ⟨c', y, hbeneath, hwait⟩
  · exact nomatch hs.symm.trans ho

end

end Call

end Resilience
