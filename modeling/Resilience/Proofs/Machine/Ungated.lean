import Resilience.Proofs.Machine.Looks

/-! A machine from which one gate has been taken out. Jobs behind that gate are launched without
one, and the gates after it move up. As long as the gate never makes a job wait, both machines go
through the same turns. -/

namespace Resilience

variable {β ι ε : Type}

def movedUp (g k : Nat) : Nat := if g < k then k - 1 else k

def ungate (g : Nat) : Option Nat → Option Nat
  | some k => if k = g then none else some (movedUp g k)
  | none => none

def allBut (gates : Array Gate) (g : Nat) : Array Gate := (gates.toList.eraseIdx g).toArray

namespace Phase

def ungated (g : Nat) : Phase β ι ε → Phase β ι ε
  | launched gate t x => launched (ungate g gate) t x
  | queued k t x => queued (movedUp g k) t x
  | running gate c => running (ungate g gate) c
  | alarm wake x => alarm wake x
  | ended => ended

end Phase

def Job.ungated (g : Nat) (j : Job β ι ε) : Job β ι ε := { j with phase := j.phase.ungated g }

namespace Machine

def ungated (g : Nat) (m : Machine β ι ε) : Machine β ι ε :=
  { m with gates := allBut m.gates g, jobs := m.jobs.map (Job.ungated g) }

def Event.ungated (g : Nat) : Event β ι ε → Event β ι ε
  | .launch gate t x => .launch (ungate g gate) t x
  | e => e

def Next.ungated (g : Nat) : Next β ι ε → Next β ι ε
  | .becomes p => .becomes (p.ungated g)
  | n => n

def Turn.ungated (g : Nat) (T : Turn β ι ε) : Turn β ι ε :=
  ⟨T.world, allBut T.gates g, T.next.ungated g⟩

section

variable {gates : Array Gate} {g k : Nat}

lemma size_allBut (h : g < gates.size) : (allBut gates g).size + 1 = gates.size := by
  have hlength := List.length_eraseIdx_add_one (l := gates.toList) (i := g) (by simpa using h)
  simpa [allBut] using hlength

lemma allBut_push (h : g < gates.size) (G : Gate) :
    allBut (gates.push G) g = (allBut gates g).push G := by
  rw [allBut, Array.toList_push, List.eraseIdx_append_of_lt_length (by simpa using h)]
  simp [allBut]

lemma allBut_push_size (gates : Array Gate) (G : Gate) :
    allBut (gates.push G) gates.size = gates := by
  rw [allBut, Array.toList_push, List.eraseIdx_append_of_length_le (by simp)]
  simp

lemma getD_allBut (hk : k ≠ g) :
    (allBut gates g).getD (movedUp g k) default = gates.getD k default := by
  simp only [allBut, movedUp, Array.getD_eq_getD_getElem?, List.getElem?_toArray,
    List.getElem?_eraseIdx, Array.getElem?_toList]
  split
  · rw [if_neg (by omega), Nat.sub_add_cancel (by omega)]
  · rw [if_pos (by omega)]

lemma allBut_withGate_self (f : Gate → Gate) : allBut (withGate gates g f) g = allBut gates g := by
  simp [allBut, withGate, List.eraseIdx_set_eq]

lemma allBut_withGate (hk : k ≠ g) (f : Gate → Gate) :
    allBut (withGate gates k f) g = withGate (allBut gates g) (movedUp g k) f := by
  unfold withGate
  rw [getD_allBut hk]
  simp only [allBut, movedUp, Array.toList_setIfInBounds]
  split
  · rename_i h
    rw [List.eraseIdx_set_lt h]
    simp
  · rename_i h
    rw [List.eraseIdx_set_gt (by omega)]
    simp

lemma allBut_released (gate : Option Nat) :
    allBut (released gates gate) g = released (allBut gates g) (ungate g gate) := by
  cases gate with
  | none => rfl
  | some k =>
    by_cases hk : k = g
    · subst hk
      simp [ungate, released, allBut_withGate_self]
    · simp [ungate, released, hk, allBut_withGate]

end

section

variable (m : Machine β ι ε) (g i : Nat)

lemma job_ungated : (m.ungated g).job i = (m.job i).ungated g := by
  simp only [ungated, job, Array.getD_eq_getD_getElem?, Array.getElem?_map]
  cases m.jobs[i]? <;> rfl

lemma toWorld_ungated : (m.ungated g).toWorld = m.toWorld := rfl

lemma size_ungated : (m.ungated g).jobs.size = m.jobs.size := Array.size_map

lemma setJob_ungated (j : Job β ι ε) :
    (m.setJob i j).ungated g = (m.ungated g).setJob i (j.ungated g) := by
  simp [ungated, setJob, Array.map_setIfInBounds]

lemma push_ungated (j : Job β ι ε) : ungated g { m with jobs := m.jobs.push j } =
    { m.ungated g with jobs := (m.ungated g).jobs.push (j.ungated g) } := by
  simp [ungated, Array.map_push]

lemma finish_ungated (report : Option Outcome) :
    (m.finish i report).ungated g = (m.ungated g).finish i report := by
  have hset := setJob_ungated m g i
    { m.job i with phase := .ended, delivery := .arrived report m.deliveries }
  unfold finish
  rw [job_ungated]
  exact congrArg (fun v : Machine β ι ε => { v with deliveries := v.deliveries + 1 }) hset

lemma setPhase_ungated (p : Phase β ι ε) :
    (m.setPhase i p).ungated g = (m.ungated g).setPhase i (p.ungated g) := by
  unfold setPhase
  rw [setJob_ungated, job_ungated]
  rfl

lemma conclude_ungated (T : Turn β ι ε) :
    (m.conclude i T).ungated g = (m.ungated g).conclude i (T.ungated g) := by
  obtain ⟨w, gates, next⟩ := T
  cases next with
  | stays => rfl
  | becomes p => exact setPhase_ungated _ g i p
  | ends report => exact finish_ungated _ g i report

end

/-- A turn that the gate `g` does not delay: the job does not wait for a permit, and if it now needs
one, its context is not done and there is one. -/
structure Undelayed (g : Nat) (w : World ε) (gates : Array Gate) (a : Bool) (p : Phase β ι ε) :
    Prop where
  unqueued : ∀ t x, p ≠ .queued g t x
  first : ∀ t x, p = .launched (some g) t x → a = false →
    w.err x = none ∧ 0 < (gates.getD g default).free

section

variable {work : Work β ι ε} {m : Machine β ι ε} {w : World ε} {gates gates' : Array Gate}
  {g k i : Nat} {a : Bool} {p : Phase β ι ε}

lemma ne_of_unqueued {t : Task β ε} {x : Context}
    (h : ∀ t' x', (.queued k t x : Phase β ι ε) ≠ .queued g t' x') : k ≠ g := by
  rintro rfl
  exact h t x rfl

lemma gate_ungated (hk : k ≠ g) : (m.ungated g).gate (movedUp g k) = m.gate k := getD_allBut hk

lemma Enters.ungated {gate : Option Nat} {s : Call.Step β ι ε}
    (h : Enters work w gates i p gate gates' s) (hp : ∀ t x, p ≠ .queued g t x) :
    Enters work w (allBut gates g) i (p.ungated g) (ungate g gate) (allBut gates' g) s := by
  cases h with
  | free => exact .free
  | @granted k t x he hfree =>
    by_cases hk : k = g
    · -- Whoever has no gate to pass begins at once, as this job does.
      subst hk
      rw [allBut_withGate_self]
      simpa [Phase.ungated, ungate] using .free
    · rw [allBut_withGate hk]
      rw [← getD_allBut hk] at hfree
      simpa [Phase.ungated, ungate, hk] using .granted he hfree
  | @accepted k t x hn hmem =>
    have hk := ne_of_unqueued hp
    rw [allBut_withGate hk]
    rw [← getD_allBut hk] at hmem
    simpa [Phase.ungated, ungate, hk] using .accepted hn hmem
  | resumed => exact .resumed

lemma ofStep_ungated (gate : Option Nat) (gates : Array Gate) (s : Call.Step β ι ε) :
    (Turn.ofStep gate gates s).ungated g = .ofStep (ungate g gate) (allBut gates g) s := by
  obtain ⟨q, v⟩ := s
  cases q with
  | pending c => rfl
  | done | crashed => simp only [Turn.ofStep, Turn.ungated, allBut_released, Next.ungated]

lemma Effect.ungated {T : Turn β ι ε} (h : Effect work w gates i a p T)
    (hp : Undelayed g w gates a p) :
    Effect work w (allBut gates g) i a (p.ungated g) (T.ungated g) := by
  -- Only `refused` and `queued` could be the doing of `g`; the other gates just have a new place.
  cases h with
  | past => exact .past
  | dropped => exact .dropped
  | silenced => exact .silenced
  | @left k t x =>
    have hk := ne_of_unqueued hp.unqueued
    simpa only [Turn.ungated, allBut_withGate hk] using .left
  | cut => simpa only [Turn.ungated, allBut_released] using .cut
  | @refused k t x r he =>
    by_cases hk : k = g
    · subst hk
      rw [(hp.first t x rfl rfl).1] at he
      cases he
    · simpa [Phase.ungated, ungate, hk] using .refused he
  | @queued k t x he hfree =>
    by_cases hk : k = g
    · subst hk
      exact absurd hfree (Nat.ne_of_gt (hp.first t x rfl rfl).2)
    · rw [← getD_allBut hk] at hfree
      simpa [Phase.ungated, Turn.ungated, Next.ungated, ungate, hk, allBut_withGate hk]
        using .queued he hfree
  | @gaveUp k t x r hn =>
    have hk := ne_of_unqueued hp.unqueued
    simpa only [Turn.ungated, allBut_withGate hk] using .gaveUp hn
  | @waits k t x hn hmem =>
    have hk := ne_of_unqueued hp.unqueued
    rw [← getD_allBut hk] at hmem
    exact .waits hn hmem
  | ran henters =>
    rw [ofStep_ungated]
    exact .ran (henters.ungated hp.unqueued)
  | rang hw => exact .rang hw
  | sleeps hw => exact .sleeps hw

theorem step_ungated
    (h : Undelayed g m.toWorld m.gates (m.job i).aborted (m.job i).phase) :
    (m.ungated g).step work i = (m.step work i).ungated g := by
  obtain ⟨T, hT, heq⟩ := step_effect work m i
  obtain ⟨T', hT', heq'⟩ := step_effect work (m.ungated g) i
  rw [job_ungated] at hT'
  obtain rfl := (hT.ungated h).unique hT'
  rw [heq, heq', conclude_ungated]

lemma polls_ungated
    (h : Undelayed g m.toWorld m.gates (m.job i).aborted (m.job i).phase) :
    (m.ungated g).polls i = m.polls i := by
  unfold polls
  rw [job_ungated]
  generalize m.job i = j at h
  obtain ⟨name, p, a, d⟩ := j
  cases p with
  | launched gate t x =>
    cases gate with
    | none => rfl
    | some k =>
      by_cases hk : k = g
      · subst hk
        cases a with
        | true => simp [Job.ungated]
        | false =>
          obtain ⟨he, hfree⟩ := h.first t x rfl rfl
          have he : m.err x = none := he
          have hfree : 0 < (m.gate k).free := hfree
          simp [Job.ungated, Phase.ungated, ungate, he, hfree]
      · simp only [Job.ungated, Phase.ungated, ungate, hk, if_false, gate_ungated hk]
        rfl
  | queued k t x =>
    simp only [Job.ungated, Phase.ungated, gate_ungated (ne_of_unqueued h.unqueued)]
    rfl
  | running | alarm | ended => rfl

lemma ready_ungated (h : ∀ t x, (m.job i).phase ≠ .queued g t x) :
    (m.ungated g).ready work i = m.ready work i := by
  unfold ready
  rw [job_ungated]
  generalize m.job i = j at h
  obtain ⟨name, p, a, d⟩ := j
  cases p with
  | queued k t x =>
    simp only [Job.ungated, Phase.ungated, gate_ungated (ne_of_unqueued h)]
    rfl
  | launched | running | alarm | ended => rfl

lemma readyJobs_ungated (h : ∀ i t x, (m.job i).phase ≠ .queued g t x) :
    (m.ungated g).readyJobs work = m.readyJobs work := by
  unfold readyJobs
  rw [size_ungated]
  exact List.filter_congr fun i _ => ready_ungated (h i)

end

section

variable (work : Work β ι ε) (m : Machine β ι ε) (g : Nat)

lemma timers_ungated : (m.ungated g).timers work = m.timers work := by
  simp only [timers, ungated, Array.toList_map, List.flatMap_map]
  congr 1
  funext j
  obtain ⟨name, p, a, d⟩ := j
  cases p <;> rfl

lemma hasResult_ungated (i : Nat) : (m.ungated g).hasResult i = m.hasResult i := by
  unfold hasResult
  rw [job_ungated]
  rfl

lemma tryResult_ungated (i : Nat) :
    (m.ungated g).tryResult i = Prod.map id (ungated g) (m.tryResult i) := by
  unfold tryResult
  rw [job_ungated]
  dsimp only [Job.ungated]
  split
  · rfl
  · rw [Prod.map_apply, setJob_ungated]
    rfl
  · rfl

lemma takeResult_ungated (i : Nat) :
    (m.ungated g).takeResult i = Prod.map id (ungated g) (m.takeResult i) := by
  unfold takeResult
  rw [job_ungated]
  dsimp only [Job.ungated]
  split
  · rfl
  · rw [Prod.map_apply, setJob_ungated]
    rfl
  · rfl

lemma fill_ungated (slots : List (Nat × Option Outcome)) :
    Wait.fill (m.ungated g) slots = Prod.map id (ungated g) (Wait.fill m slots) := by
  induction slots generalizing m with
  | nil => rfl
  | cons slot rest ih =>
    obtain ⟨i, r⟩ := slot
    cases r with
    | some r =>
      simp only [Wait.fill, ih]
      rfl
    | none =>
      unfold Wait.fill
      rw [takeResult_ungated]
      obtain ⟨r, v⟩ := m.takeResult i
      rcases r with _ | c | r
      · simp only [Prod.map_apply, id, ih]
        rfl
      · rfl
      · simp only [Prod.map_apply, id, ih]
        rfl

lemma collect_ungated (here : List (Nat × Nat)) (arrived : List (Nat × Nat × Outcome)) :
    Wait.collect (m.ungated g) here arrived =
      Prod.map id (ungated g) (Wait.collect m here arrived) := by
  induction here generalizing m arrived with
  | nil => rfl
  | cons p rest ih =>
    obtain ⟨place, i⟩ := p
    unfold Wait.collect
    rw [takeResult_ungated]
    obtain ⟨r, v⟩ := m.takeResult i
    rcases r with _ | c | r
    · exact ih v arrived
    · rfl
    · exact ih v _

lemma lookEach_ungated (pending here : List (Nat × Nat))
    (arrived : List (Nat × Nat × Outcome)) :
    Wait.lookEach (m.ungated g) pending here arrived =
      Prod.map id (ungated g) (Wait.lookEach m pending here arrived) := by
  unfold Wait.lookEach
  rw [collect_ungated]
  obtain ⟨r, v⟩ := Wait.collect m here arrived
  cases r with
  | error c => rfl
  | ok arrived =>
    simp only [Prod.map_apply, id]
    split <;> rfl

lemma ofResult_ungated (s : Wait β ι ε) (r : Option (Except Crash Outcome)) :
    Wait.ofResult s (m.ungated g) r = Prod.map id (ungated g) (Wait.ofResult s m r) := by
  rcases r with _ | c | r <;> rfl

lemma arrival_ungated (i : Nat) : Wait.arrival (m.ungated g) i = Wait.arrival m i := by
  unfold Wait.arrival
  rw [job_ungated]
  rfl

theorem look_ungated (s : Wait β ι ε) :
    s.look work (m.ungated g) = Prod.map id (ungated g) (s.look work m) := by
  cases s with
  | «until» wake =>
    simp only [Wait.look, apply_ite (Prod.map id (ungated g))]
    rfl
  | pause x wake =>
    simp only [Wait.look, toWorld_ungated]
    cases Call.repause x wake m.toAmbient <;> rfl
  | ending x =>
    simp only [Wait.look, toWorld_ungated]
    cases m.noticed x <;> rfl
  | under x wake =>
    simp only [Wait.look, toWorld_ungated]
    cases m.noticed x with
    | some r => rfl
    | none =>
      simp only [apply_ite (Prod.map id (ungated g))]
      rfl
  | call c cutoff =>
    simp only [Wait.look, onWorld, toWorld_ungated]
    obtain ⟨p, w⟩ := c.resume work m.toWorld
    cases p with
    | pending c =>
      dsimp only
      split <;> rfl
    | done | crashed => rfl
  | completion i =>
    simp only [Wait.look, takeResult_ungated]
    exact ofResult_ungated ..
  | completionUnder i x =>
    simp only [Wait.look, toWorld_ungated, takeResult_ungated]
    cases m.noticed x with
    | some r => rfl
    | none => exact ofResult_ungated ..
  | all slots =>
    simp only [Wait.look, fill_ungated]
    obtain ⟨r, v⟩ := Wait.fill m slots
    cases r with
    | error c => rfl
    | ok slots =>
      simp only [Prod.map_apply, id]
      split <;> rfl
  | each pending arrived =>
    simp only [Wait.look, hasResult_ungated, arrival_ungated]
    exact lookEach_ungated ..

lemma waitUnder_ungated (i : Nat) (x : Context) :
    (m.ungated g).waitUnder work i x = Prod.map id (ungated g) (m.waitUnder work i x) := by
  simp only [waitUnder, toWorld_ungated, look_ungated]
  cases m.err x <;> rfl

lemma joinAll_ungated (is : List Nat) :
    (m.ungated g).joinAll work is = Prod.map id (ungated g) (m.joinAll work is) :=
  look_ungated ..

lemma joinUnordered_ungated (is : List Nat) :
    (m.ungated g).joinUnordered is = Prod.map id (ungated g) (m.joinUnordered is) := by
  simp only [joinUnordered, hasResult_ungated]
  exact lookEach_ungated ..

lemma wait_ready_ungated (s : Wait β ι ε) : s.ready work (m.ungated g) = s.ready work m := by
  cases s with
  | completion | completionUnder | all | each =>
    simp only [Wait.ready, hasResult_ungated, toWorld_ungated]
  | _ => rfl

lemma moveOn_ungated (limit : Nat) (s : Wait β ι ε) :
    s.moveOn work limit (m.ungated g) = (s.moveOn work limit m).ungated g := by
  simp only [Wait.moveOn, timers_ungated, toWorld_ungated]
  rfl

lemma drop_ungated (s : Wait β ι ε) : s.drop work (m.ungated g) = (s.drop work m).ungated g := by
  cases s <;> rfl

end

def Event.Undelayed (g : Nat) (m : Machine β ι ε) : Event β ι ε → Prop
  | .run i => Machine.Undelayed g m.toWorld m.gates (m.job i).aborted (m.job i).phase
  | _ => True

section

variable {work : Work β ι ε} {m : Machine β ι ε} {g : Nat}

lemma all_ungate (hg : g < m.gates.size) (gate : Option Nat) :
    (ungate g gate).all (· < (m.ungated g).gates.size) = gate.all (· < m.gates.size) := by
  have hsize : (m.ungated g).gates.size + 1 = m.gates.size := size_allBut hg
  cases gate with
  | none => rfl
  | some k =>
    by_cases hk : k = g
    · subst hk
      simp [ungate, hg]
    · simp only [ungate, hk, if_false, Option.all_some, movedUp, decide_eq_decide]
      split <;> omega

theorem act_ungated (hg : g < m.gates.size) {e : Event β ι ε} (he : e.Undelayed g m) :
    (m.ungated g).act work (e.ungated g) = (m.act work e).ungated g := by
  cases e with
  | build config =>
    simp only [act, Event.ungated]
    split
    · simp [ungated, allBut_push hg]
    · rfl
  | launch gate t x =>
    simp only [act, Event.ungated, all_ungate hg]
    split
    · simp only [launch, push_ungated]
      rfl
    · rfl
  | alarm wake x =>
    simp only [act, Event.ungated, setAlarm, push_ungated]
    rfl
  | run i => exact step_ungated he
  | abort i =>
    simp only [act, Event.ungated, abort, job_ungated, setJob_ungated]
    rfl
  | outside w =>
    simp only [act, apply_ite (ungated g)]
    rfl
  | tryResult i => exact congrArg Prod.snd (tryResult_ungated m g i)
  | waitUnder i x => exact congrArg Prod.snd (waitUnder_ungated work m g i x)
  | joinAll is => exact congrArg Prod.snd (joinAll_ungated work m g is)
  | joinUnordered is => exact congrArg Prod.snd (joinUnordered_ungated m g is)
  | look s => exact congrArg Prod.snd (look_ungated work m g s)

end

end Machine

end Resilience
