import Resilience.Proofs.Call.Fleet
import Resilience.Proofs.Call.Gathered
import Resilience.Proofs.Call.Limited

namespace Resilience

namespace Call

variable {β ι ε : Type}

inductive Limited (work : Work β ι ε) (t : Task β ε) (id : Nat) (x : Context) :
    Runs (Passage ε) β ι ε
  | served {w v : World ε} {us ws : List (World ε)} {looks : List (Look ε)} {s : Step β ι ε} :
      Acquired id x w us looks .served v → Run work anyone (ofTask work t x v) ws s →
      Limited work t id x w (us ++ ws) ⟨looks, .served, v, [v]⟩ s
  | failed {w v : World ε} {us : List (World ε)} {looks : List (Look ε)} {e : Failure} :
      Acquired id x w us looks (.failed e) v →
      Limited work t id x w us ⟨looks, .failed e, v, []⟩ (.done (.error e), v)
  | waiting {w v : World ε} {us : List (World ε)} {looks : List (Look ε)} {wake : Nat} :
      Acquired id x w us looks (.wait wake) v →
      Limited work t id x w us ⟨looks, .wait wake, v, []⟩
        (.pending (.queueing id x wake t.layers t.body), v)

inductive Passage.Fails (id : Nat) (x : Context) (w : World ε) (ws : List (World ε))
    (p : Passage ε) : Failure → Prop
  | cancelled {r : Reason} : (w :: ws).getLast? = some p.left → p.left.err x = some r →
      p.Fails id x w ws (.cancelled r)
  | rateLimited {before : List (Look ε)} {a : Look ε} {limit d : Duration} :
      p.looks = before ++ [a] → (w :: ws).getLast? = some a.found → a.left = p.left →
      ((a.found.limiter id).tryAcquire a.found.now).1 = false →
      (a.found.limiter id).maxWait = some limit → limit < d →
      p.Fails id x w ws (.rateLimited d)

structure Passage.Sound (work : Work β ι ε) (id : Nat) (x : Context) (w : World ε)
    (ws : List (World ε)) (p : Passage ε) (s : Step β ι ε) : Prop where
  served : p.answer = .served → p.calls = [p.left] ∧ ∃ before a, p.looks = before ++ [a] ∧
    a.taken = true ∧ a.found.err x = none ∧ a.left = p.left ∧ ∀ b ∈ before, b.taken = false
  unserved : p.answer ≠ .served → p.calls = [] ∧ ∀ a ∈ p.looks, a.taken = false
  effect : ∀ a ∈ p.looks, a.found.err x = none →
    ∃ b, Limiter.Effect (a.found.limiter id).bucket a.found.now a.taken b ∧
      a.left = a.found.withBucket id b
  /-- Under a context that is done a look ends in failure, whatever the bucket holds. -/
  done : ∀ a ∈ p.looks, ∀ r, a.found.err x = some r →
    p.answer = .failed (.cancelled r) ∧ p.left = a.found
  failed : ∀ e, p.answer = .failed e → s = (.done (.error e), p.left) ∧ p.Fails id x w ws e
  /-- A caller can be dropped while he waits, and nobody notices. -/
  waiting : ∀ wake, p.answer = .wait wake →
    ∃ c, s = (.pending c, p.left) ∧ ∀ u, c.drop work u = u
  sleeps : ∀ a ∈ p.looks, ∀ wake, a.answer = .wait wake → ∃ d, wake = a.found.clock.wake d ∧
    0 < d.nanos ∧ ∀ limit ∈ (a.found.limiter id).maxWait, d ≤ limit
  slept : p.looks.Pairwise fun a b => a.SleptBy b.found.now

section

variable {work : Work β ι ε} {t : Task β ε} {id : Nat} {x : Context} {w v : World ε}
  {us ws : List (World ε)} {looks : List (Look ε)} {q : Queue} {p : Passage ε} {s : Step β ι ε}

lemma Acquired.fails {e : Failure} {calls : List (World ε)}
    (h : Acquired id x w us looks (.failed e) v) :
    Passage.Fails id x w us ⟨looks, .failed e, v, calls⟩ e := by
  have hgenuine := h.genuine
  obtain ⟨before, a, rfl, _, ha⟩ := h.decided
  have hg : a.Genuine id x := hgenuine a List.mem_concat_self
  cases ha with
  | answered hq hv hlast =>
    rcases hg.of_failed hq with ⟨r, rfl, he⟩ | ⟨d, limit, rfl, htry, hmax, hlt⟩
    · obtain rfl : v = a.found := hv.symm.trans (hg.of_err he).2
      exact .cancelled hlast he
    · exact .rateLimited rfl hlast hv htry hmax hlt
  | ended _ hlast hn => exact .cancelled hlast (Context.err_of_noticed hn)

lemma Limited.acquired (h : Limited work t id x w ws p s) :
    ∃ us, Acquired id x w us p.looks p.answer p.left := by
  cases h with
  | served ha _ | failed ha | waiting ha => exact ⟨_, ha⟩

theorem Limited.sound (h : Limited work t id x w ws p s) : p.Sound work id x w ws s := by
  obtain ⟨us, ha⟩ := h.acquired
  refine ⟨fun hq => ?_, fun hq => ⟨?_, ha.not_taken hq⟩, fun a hm he => (ha.genuine a hm).effect he,
    ha.done, fun e hq => ?_, fun wake hq => ?_,
    fun a hm wake hw => (ha.genuine a hm).sleeps_for hw, ha.slept.1⟩
  · cases h with
    | served _ _ => exact ⟨rfl, ha.last⟩
    | _ => cases hq
  · cases h with
    | served _ _ => exact absurd rfl hq
    | failed _ | waiting _ => rfl
  · cases h with
    | failed hfailed =>
      cases hq
      exact ⟨rfl, hfailed.fails⟩
    | _ => cases hq
  · cases h with
    | waiting _ => exact ⟨_, rfl, fun _ => rfl⟩
    | _ => cases hq

end

end Call

end Resilience
