import Resilience.Proofs.Gate.Ledger
import Resilience.Proofs.Machine.Deeds

namespace Resilience

variable {β ι ε : Type}

namespace Phase

def standing (g : Nat) : Phase β ι ε → Standing
  | queued k _ _ => if k = g then .queued else .idle
  | running gate _ => if gate = some g then .holding else .idle
  | launched .. | alarm .. | ended => .idle

/-- The gate of a job that has been launched through one and has not ended. -/
def gate? : Phase β ι ε → Option Nat
  | launched gate _ _ | running gate _ => gate
  | queued g _ _ => some g
  | alarm .. | ended => none

def awaiting : Phase β ι ε → Option Context
  | launched (some _) _ x | queued _ _ x => some x
  | launched none _ _ | running .. | alarm .. | ended => none

end Phase

namespace Machine

def standings (m : Machine β ι ε) (g : Nat) : List Standing :=
  (List.range m.jobs.size).map fun i => (m.job i).phase.standing g

def holders (m : Machine β ι ε) (g : Nat) : List Nat :=
  (List.range m.jobs.size).filter fun i => (m.job i).phase.standing g = .holding

lemma getElem?_standings (m : Machine β ι ε) (g i : Nat) :
    (m.standings g)[i]? =
      if i < m.jobs.size then some ((m.job i).phase.standing g) else none := by
  rw [standings, List.getElem?_map]
  split
  · rename_i hi
    rw [List.getElem?_range hi]
    rfl
  · rename_i hi
    rw [List.getElem?_eq_none (by simpa using hi)]
    rfl

lemma count_standings (m : Machine β ι ε) (g : Nat) :
    (m.standings g).count .holding = (m.holders g).length := by
  rw [standings, holders, List.count, List.countP_map, List.countP_eq_length_filter]
  rfl

lemma standing_eq_idle {p : Phase β ι ε} {g : Nat} (h : p.gate? ≠ some g) :
    p.standing g = .idle := by
  cases p <;> simp_all [Phase.standing, Phase.gate?]

lemma standing_eq_queued {p : Phase β ι ε} {g : Nat} (h : p.standing g = .queued) :
    ∃ t x, p = .queued g t x := by
  cases p with
  | queued k t x =>
    simp only [Phase.standing] at h
    split at h
    · rename_i hk
      exact ⟨t, x, hk ▸ rfl⟩
    · cases h
  | running gate c =>
    simp only [Phase.standing] at h
    split at h <;> cases h
  | launched | alarm | ended => cases h

structure Balanced (m : Machine β ι ε) (g c : Nat) : Prop where
  built : g < m.gates.size
  ledger : Ledger c (m.standings g) (m.gate g)

section

variable {work : Work β ι ε} {w : World ε} {gates gates' : Array Gate} {i c g : Nat}
  {L : List Standing}

lemma getD_withGate (hg : g < gates.size) (k : Nat) (f : Gate → Gate) :
    (withGate gates k f).getD g default =
      if k = g then f (gates.getD g default) else gates.getD g default := by
  simp only [withGate, Array.getD_eq_getD_getElem?, Array.getElem?_setIfInBounds]
  by_cases hk : k = g
  · subst hk
    simp [hg]
  · simp [hk]

lemma size_withGate (gates : Array Gate) (k : Nat) (f : Gate → Gate) :
    (withGate gates k f).size = gates.size :=
  Array.size_setIfInBounds

lemma size_released (gates : Array Gate) (gate : Option Nat) :
    (released gates gate).size = gates.size := by
  cases gate
  · rfl
  · exact size_withGate ..

lemma Enters.size_gates {p : Phase β ι ε} {gate : Option Nat} {s : Call.Step β ι ε}
    (h : Enters work w gates i p gate gates' s) : gates'.size = gates.size := by
  cases h with
  | free | resumed => rfl
  | granted | accepted => exact size_withGate ..

lemma Effect.size_gates {a : Bool} {p : Phase β ι ε} {T : Turn β ι ε}
    (h : Effect work w gates i a p T) : T.gates.size = gates.size := by
  cases h with
  | left | gaveUp | queued => exact size_withGate ..
  | cut => exact size_released ..
  | @ran _ _ gates' s henters =>
    obtain ⟨q, v⟩ := s
    cases q with
    | pending c => exact henters.size_gates
    | done | crashed => exact (size_released ..).trans henters.size_gates
  | _ => rfl

lemma ledger_withGate {k : Nat} {f : Gate → Gate} {s : Standing} (hg : g < gates.size)
    (hL : Ledger c L (gates.getD g default))
    (hhere : k = g → Ledger c (L.set i s) (f (gates.getD g default)))
    (helsewhere : k ≠ g → L[i]? = some s) :
    Ledger c (L.set i s) ((withGate gates k f).getD g default) := by
  rw [getD_withGate hg]
  by_cases hk : k = g
  · rw [if_pos hk]
    exact hhere hk
  · rw [if_neg hk]
    exact hL.set_self (helsewhere hk)

lemma Enters.ledger {p : Phase β ι ε} {gate : Option Nat} {s : Call.Step β ι ε}
    (h : Enters work w gates i p gate gates' s) (hg : g < gates.size)
    (hi : L[i]? = some (p.standing g)) (hL : Ledger c L (gates.getD g default)) :
    Ledger c (L.set i (if gate = some g then .holding else .idle)) (gates'.getD g default) := by
  cases h with
  | free => simpa [Phase.standing] using hL.set_self hi
  | @granted k t x _ hfree =>
    refine ledger_withGate hg hL (fun hk => ?_) (fun hk => ?_)
    · subst hk
      simpa using hL.take hi hfree
    · simpa [hk, Phase.standing] using hi
  | @accepted k t x _ hmem =>
    refine ledger_withGate hg hL (fun hk => ?_) (fun hk => ?_)
    · subst hk
      have hq : L[i]? = some .queued := by simpa [Phase.standing] using hi
      simpa using hL.accept hq hmem
    · simpa [hk, Phase.standing] using hi
  | resumed => simpa [Phase.standing] using hL.set_self hi

def Next.standing (p : Phase β ι ε) (g : Nat) : Next β ι ε → Standing
  | .stays => p.standing g
  | .becomes p' => p'.standing g
  | .ends _ => .idle

lemma ledger_released {gate : Option Nat} (hg : g < gates.size)
    (hi : L[i]? = some (if gate = some g then .holding else .idle))
    (hL : Ledger c L (gates.getD g default)) :
    Ledger c (L.set i .idle) ((released gates gate).getD g default) := by
  cases gate with
  | none => exact hL.set_self (by simpa using hi)
  | some k =>
    refine ledger_withGate hg hL (fun hk => ?_) (fun hk => ?_)
    · subst hk
      exact hL.finish (by simpa using hi)
    · simpa [hk] using hi

lemma Effect.ledger {a : Bool} {p : Phase β ι ε} {T : Turn β ι ε}
    (h : Effect work w gates i a p T) (hg : g < gates.size)
    (hi : L[i]? = some (p.standing g)) (hL : Ledger c L (gates.getD g default)) :
    Ledger c (L.set i (T.next.standing p g)) (T.gates.getD g default) := by
  have hleave {k : Nat} {t : Task β ε} {x : Context}
      (hi : L[i]? = some ((Phase.queued k t x : Phase β ι ε).standing g)) :
      Ledger c (L.set i .idle) ((withGate gates k (·.leave i)).getD g default) := by
    refine ledger_withGate hg hL (fun hk => ?_) (fun hk => ?_)
    · subst hk
      exact hL.leave (by simpa [Phase.standing] using hi)
    · simpa [Phase.standing, hk] using hi
  cases h with
  | past | dropped | silenced | refused | waits | rang | sleeps => exact hL.set_self hi
  | left | gaveUp => exact hleave hi
  | cut => exact ledger_released hg hi hL
  | @queued k t x _ _ =>
    refine ledger_withGate hg hL (fun hk => ?_) (fun hk => ?_)
    · subst hk
      simpa [Next.standing, Phase.standing] using hL.wait hi
    · simpa [hk, Next.standing, Phase.standing] using hi
  | @ran p gate gates' s henters =>
    have hbody := henters.ledger hg hi hL
    have hin : (L.set i (if gate = some g then .holding else .idle))[i]? =
        some (if gate = some g then .holding else .idle) := by
      rw [getElem?_set_standing hi, if_pos rfl]
    have hout := ledger_released (henters.size_gates ▸ hg) hin hbody
    rw [List.set_set] at hout
    obtain ⟨q, v⟩ := s
    cases q with
    | pending c => exact hbody
    | done | crashed => exact hout

end

section

variable {m m' : Machine β ι ε} {g c i : Nat}

lemma standings_conclude (T : Turn β ι ε) (hi : i < m.jobs.size) :
    (m.conclude i T).standings g =
      (m.standings g).set i (T.next.standing (m.job i).phase g) := by
  have hin : (m.standings g)[i]? = some ((m.job i).phase.standing g) := by
    rw [getElem?_standings, if_pos hi]
  apply List.ext_getElem?
  intro k
  rw [getElem?_set_standing hin, getElem?_standings, getElem?_standings, size_conclude,
    job_conclude m i k T hi]
  by_cases hk : k = i
  · subst hk
    rw [if_pos hi, if_pos rfl, if_pos rfl]
    cases T.next <;> rfl
  · rw [if_neg hk, if_neg hk]

lemma Balanced.conclude {work : Work β ι ε} {T : Turn β ι ε} (h : m.Balanced g c)
    (hi : i < m.jobs.size)
    (hT : Effect work m.toWorld m.gates i (m.job i).aborted (m.job i).phase T) :
    (m.conclude i T).Balanced g c := by
  have hin : (m.standings g)[i]? = some ((m.job i).phase.standing g) := by
    rw [getElem?_standings, if_pos hi]
  have hledger := hT.ledger h.built hin h.ledger
  refine ⟨?_, ?_⟩
  · rw [gates_conclude, hT.size_gates]
    exact h.built
  · rw [standings_conclude T hi, gate, gates_conclude]
    exact hledger

lemma standings_push (m : Machine β ι ε) (j : Job β ι ε) :
    standings { m with jobs := m.jobs.push j } g = m.standings g ++ [j.phase.standing g] := by
  have hold : (List.range m.jobs.size).map
      (fun i => (job { m with jobs := m.jobs.push j } i).phase.standing g) = m.standings g := by
    apply List.map_congr_left
    intro i hi
    rw [job_push, if_neg (Nat.ne_of_lt (List.mem_range.1 hi))]
  have hnew : job { m with jobs := m.jobs.push j } m.jobs.size = j := by
    rw [job_push, if_pos rfl]
  rw [standings, Array.size_push, List.range_succ, List.map_append, hold, List.map_singleton, hnew]

lemma Balanced.push (h : m.Balanced g c) {j : Job β ι ε} (hj : j.phase.standing g = .idle) :
    Balanced { m with jobs := m.jobs.push j } g c := by
  refine ⟨h.built, ?_⟩
  rw [standings_push, hj]
  exact h.ledger.join

lemma gate_push (m : Machine β ι ε) (G : Gate) (hg : g < m.gates.size) :
    gate { m with gates := m.gates.push G } g = m.gate g := by
  simp [gate, Array.getD_eq_getD_getElem?, Array.getElem?_push, Nat.ne_of_lt hg]

lemma Deed.balanced {work : Work β ι ε} {e : Event β ι ε} (hd : Deed work m e m')
    (h : m.Balanced g c) : m'.Balanced g c := by
  cases hd with
  | calm _ _ hcalm =>
    have hst : m'.standings g = m.standings g := by
      simp only [standings, hcalm.size, hcalm.phase]
    refine ⟨hcalm.gates ▸ h.built, ?_⟩
    rw [hst, gate, hcalm.gates]
    exact h.ledger
  | built =>
    refine ⟨?_, ?_⟩
    · rw [Array.size_push]
      exact Nat.lt_succ_of_lt h.built
    · rw [gate_push m _ h.built]
      exact h.ledger
  | launched => exact h.push rfl
  | alarmed => exact h.push rfl
  | stepped hi hT => exact h.conclude hi hT

lemma Balanced.acts (work : Work β ι ε) (h : m.Balanced g c) (es : List (Event β ι ε)) :
    (m.acts work es).Balanced g c := by
  induction es generalizing m with
  | nil => exact h
  | cons e es ih => exact ih ((act_deed work m e).balanced h)

end

def Housed (m : Machine β ι ε) : Prop :=
  ∀ i g, (m.job i).phase.gate? = some g → g < m.gates.size

section

variable {work : Work β ι ε} {m m' : Machine β ι ε} {w : World ε} {gates : Array Gate} {i : Nat}

lemma Effect.gate {a : Bool} {p : Phase β ι ε} {T : Turn β ι ε}
    (h : Effect work w gates i a p T) (j : Job β ι ε) (order : Nat) (hj : j.phase = p) (g : Nat)
    (hg : (T.next.apply j order).phase.gate? = some g) : p.gate? = some g := by
  cases h with
  | past | waits | sleeps => exact hj ▸ hg
  | dropped | silenced | left | cut | refused | gaveUp | rang => cases hg
  | queued => exact hg
  | @ran _ gate gates' s henters =>
    have hgate : p.gate? = gate := by
      cases henters <;> rfl
    rw [hgate]
    obtain ⟨q, v⟩ := s
    cases q with
    | pending c => exact hg
    | done | crashed => cases hg

lemma Deed.housed {e : Event β ι ε} (hd : Deed work m e m') (h : m.Housed) : m'.Housed := by
  intro k g hg
  cases hd with
  | calm _ _ hcalm =>
    rw [hcalm.phase] at hg
    exact hcalm.gates ▸ h k g hg
  | built =>
    rw [Array.size_push]
    exact Nat.lt_succ_of_lt (h k g hg)
  | launched hgate =>
    rw [launch, job_push] at hg
    split at hg
    · exact hgate g hg
    · exact h k g hg
  | alarmed =>
    rw [setAlarm, job_push] at hg
    split at hg
    · cases hg
    · exact h k g hg
  | @stepped i T hi hT =>
    rw [gates_conclude, hT.size_gates]
    rw [job_conclude m i k T hi] at hg
    split at hg
    · exact h i g (hT.gate _ _ rfl g hg)
    · exact h k g hg

lemma Housed.acts (work : Work β ι ε) (h : m.Housed) (es : List (Event β ι ε)) :
    (m.acts work es).Housed := by
  induction es generalizing m with
  | nil => exact h
  | cons e es ih => exact ih ((act_deed work m e).housed h)

lemma housed_idle (w : World ε) : (idle w : Machine β ι ε).Housed := by
  intro i g hg
  rw [job_eq_default _ _ (Nat.zero_le i)] at hg
  cases hg

lemma Housed.build (work : Work β ι ε) (h : m.Housed) {config : ExecutorConfig}
    {cap : UInt64} (hcap : config.maxConcurrency = some cap) (hvalid : config.validate = .ok ())
    {G : Gate} (hgate : config.gate = .ok (some G)) :
    (m.act work (.build config)).Balanced m.gates.size cap.toNat := by
  have hG : config.gate = .ok (some { free := cap.toNat }) := by
    unfold ExecutorConfig.gate at hgate ⊢
    rw [hcap] at hgate ⊢
    dsimp only at hgate ⊢
    split at hgate
    · cases hgate
    · rename_i hle
      rw [if_neg hle]
  have hst : m.standings m.gates.size = List.replicate m.jobs.size .idle := by
    rw [List.eq_replicate_iff]
    refine ⟨by simp [standings], ?_⟩
    intro s hs
    obtain ⟨i, -, rfl⟩ := List.mem_map.1 hs
    exact standing_eq_idle fun hi => Nat.lt_irrefl _ (h i _ hi)
  simp only [act, hvalid, hG]
  refine ⟨by simp, ?_⟩
  have hnew : gate { m with gates := m.gates.push { free := cap.toNat } } m.gates.size =
      { free := cap.toNat } := by
    simp [gate, Array.getD_eq_getD_getElem?]
  rw [hnew]
  exact hst ▸ Ledger.start

end

end Machine

end Resilience
