import Resilience.Proofs.Machine.Capped
import Resilience.Proofs.Machine.Ungated

/-! A cap that is wide enough for all jobs launched through it makes no difference. Each of these
jobs finds a permit when it first runs, and nobody ever waits for one. -/

namespace Resilience

variable {β ι ε : Type}

namespace Machine

def behind (m : Machine β ι ε) (g : Nat) : List Nat :=
  (List.range m.jobs.size).filter fun i => (m.job i).phase.gate? = some g

/-- The gate `g` with `c` permits has one for each job behind it and for `n` more. -/
structure Ample (g c n : Nat) (m : Machine β ι ε) : Prop where
  balanced : m.Balanced g c
  unqueued : ∀ i t x, (m.job i).phase ≠ .queued g t x
  enough : (m.behind g).length + n ≤ c

def Event.isThrough (g : Nat) : Event β ι ε → Bool
  | .launch gate _ _ => gate = some g
  | _ => false

def Event.isPrompt (g : Nat) (m : Machine β ι ε) : Event β ι ε → Bool
  | .run i =>
    match (m.job i).phase with
    | .launched (some k) _ x => k != g || (m.job i).aborted || (m.err x).isNone
    | _ => true
  | _ => true

def promptly (work : Work β ι ε) (g : Nat) : Machine β ι ε → List (Event β ι ε) → Bool
  | _, [] => true
  | m, e :: es => e.isPrompt g m && promptly work g (m.act work e) es

section

variable {work : Work β ι ε} {m m' : Machine β ι ε} {w : World ε} {gates : Array Gate}
  {g c n i : Nat} {e : Event β ι ε} {es : List (Event β ι ε)}

lemma mem_behind (h : (m.job i).phase.gate? = some g) : i ∈ m.behind g := by
  have hlt : i < m.jobs.size := by
    by_contra hlt
    rw [job_eq_default m i (Nat.le_of_not_lt hlt)] at h
    cases h
  simpa [behind, hlt] using h

lemma Ample.free_pos (h : Ample g c n m) {t : Task β ε} {x : Context}
    (hphase : (m.job i).phase = .launched (some g) t x) : 0 < (m.gate g).free := by
  -- The job is behind the gate but holds no permit, so there are fewer holders than permits.
  have hnot : i ∉ m.holders g := by
    intro hi
    rw [mem_holders, getElem?_standings, hphase] at hi
    split at hi <;> cases hi
  have hsub : i :: m.holders g ⊆ m.behind g := by
    refine List.cons_subset.2 ⟨mem_behind (by rw [hphase]; rfl), fun k hk => mem_behind ?_⟩
    rw [mem_holders, getElem?_standings] at hk
    split at hk
    · by_contra hne
      rw [standing_eq_idle hne] at hk
      cases hk
    · cases hk
  have hle := (List.subperm_of_subset
    (List.nodup_cons.2 ⟨hnot, List.nodup_range.filter _⟩) hsub).length_le
  -- None of the other permits is set aside, for nobody is queued.
  have hhanded : (m.gate g).handed = [] := by
    rw [List.eq_nil_iff_forall_not_mem]
    intro k hk
    have hq := (h.balanced.ledger.mem_iff k).1 (List.mem_append_right _ hk)
    rw [getElem?_standings] at hq
    split at hq
    · obtain ⟨t, x, hqueued⟩ := standing_eq_queued (Option.some.inj hq)
      exact h.unqueued k t x hqueued
    · cases hq
  have hconserved := h.balanced.ledger.conserved
  have henough := h.enough
  rw [count_standings, hhanded] at hconserved
  simp only [List.length_cons, List.length_nil] at hle hconserved
  omega

lemma Ample.undelayed (h : Ample g c n m) (he : e.isPrompt g m = true) : e.Undelayed g m := by
  cases e with
  | run i =>
    refine ⟨h.unqueued i, fun t x hphase ha => ⟨?_, h.free_pos hphase⟩⟩
    simpa [Event.isPrompt, hphase, ha] using he
  | _ => trivial

lemma Effect.unqueued {a : Bool} {p : Phase β ι ε} {T : Turn β ι ε}
    (h : Effect work w gates i a p T) (hp : ∀ t x, p ≠ .queued g t x)
    (hfirst : ∀ t x, p = .launched (some g) t x → 0 < (gates.getD g default).free)
    (j : Job β ι ε) (order : Nat) (hj : j.phase = p) :
    ∀ t x, (T.next.apply j order).phase ≠ .queued g t x := by
  cases h with
  | past | waits | sleeps => exact hj ▸ hp
  | dropped | silenced | left | cut | refused | gaveUp | rang => exact nofun
  | @queued k t x he hfree =>
    rintro _ _ ⟨⟩
    exact absurd hfree (Nat.ne_of_gt (hfirst t x rfl))
  | @ran _ gate gates' s henters =>
    obtain ⟨q, v⟩ := s
    cases q <;> exact nofun

lemma behind_push (m : Machine β ι ε) (j : Job β ι ε) :
    behind { m with jobs := m.jobs.push j } g =
      m.behind g ++ if j.phase.gate? = some g then [m.jobs.size] else [] := by
  have hold : (List.range m.jobs.size).filter
      (fun i => (job { m with jobs := m.jobs.push j } i).phase.gate? = some g) = m.behind g := by
    refine List.filter_congr fun i hi => ?_
    rw [job_push, if_neg (Nat.ne_of_lt (List.mem_range.1 hi))]
  have hnew : job { m with jobs := m.jobs.push j } m.jobs.size = j := by
    rw [job_push, if_pos rfl]
  rw [behind, Array.size_push, List.range_succ, List.filter_append, hold, List.filter_singleton,
    hnew]
  simp

lemma unqueued_push (h : ∀ i t x, (m.job i).phase ≠ .queued g t x) {j : Job β ι ε}
    (hj : ∀ t x, j.phase ≠ .queued g t x) (i : Nat) :
    ∀ t x, (job { m with jobs := m.jobs.push j } i).phase ≠ .queued g t x := by
  rw [job_push]
  split
  · exact hj
  · exact h i

lemma length_behind_conclude {T : Turn β ι ε} (hi : i < m.jobs.size)
    (hT : Effect work m.toWorld m.gates i (m.job i).aborted (m.job i).phase T) :
    ((m.conclude i T).behind g).length ≤ (m.behind g).length := by
  unfold behind
  rw [size_conclude]
  refine (List.monotone_filter_right _ fun k hk => ?_).length_le
  rw [decide_eq_true_eq] at hk ⊢
  rw [job_conclude m i k T hi] at hk
  split at hk
  · rename_i hki
    exact hki ▸ hT.gate _ _ rfl g hk
  · exact hk

theorem Deed.ample (hd : Deed work m e m')
    (h : Ample g c (n + if e.isThrough g then 1 else 0) m) : Ample g c n m' := by
  have hbalanced := hd.balanced h.balanced
  have henough := h.enough
  have hless : (m.behind g).length + n ≤ c :=
    Nat.le_trans (Nat.add_le_add_left (Nat.le_add_right n _) _) henough
  cases hd with
  | calm _ _ hcalm =>
    refine ⟨hbalanced, fun i t x => hcalm.phase i ▸ h.unqueued i t x, ?_⟩
    simpa only [behind, hcalm.size, hcalm.phase] using hless
  | built => exact ⟨hbalanced, h.unqueued, hless⟩
  | @launched gate t x =>
    refine ⟨hbalanced, unqueued_push h.unqueued (fun _ _ => by simp), ?_⟩
    simp only [launch, behind_push, Phase.gate?]
    by_cases hgate : gate = some g
    · simp only [Event.isThrough, hgate, decide_true, if_true] at henough
      simp only [hgate, if_true, List.length_append, List.length_singleton]
      omega
    · simpa [hgate] using hless
  | alarmed =>
    refine ⟨hbalanced, unqueued_push h.unqueued (fun _ _ => by simp), ?_⟩
    simpa [setAlarm, behind_push, Phase.gate?] using hless
  | @stepped i T hi hT =>
    refine ⟨hbalanced, fun k => ?_, ?_⟩
    · rw [job_conclude m i k T hi]
      split
      · exact hT.unqueued (h.unqueued i) (fun t x hphase => h.free_pos hphase) _ _ rfl
      · exact h.unqueued k
    · exact Nat.le_trans (Nat.add_le_add_right (length_behind_conclude hi hT) n) hless

theorem Ample.act (h : Ample g c (n + if e.isThrough g then 1 else 0) m) :
    Ample g c n (m.act work e) :=
  (act_deed work m e).ample h

/-- With and without the gate, the same happens. The invariant counts the launches to come, so that
all first turns are undelayed. -/
theorem Ample.acts (h : Ample g c (n + es.countP (Event.isThrough g)) m)
    (hprompt : promptly work g m es = true) :
    Ample g c n (m.acts work es) ∧
      (m.ungated g).acts work (es.map (Event.ungated g)) = (m.acts work es).ungated g := by
  induction es generalizing m with
  | nil => exact ⟨h, rfl⟩
  | cons e es ih =>
    rw [promptly, Bool.and_eq_true] at hprompt
    obtain ⟨he, hes⟩ := hprompt
    rw [List.countP_cons, ← Nat.add_assoc] at h
    obtain ⟨hample, hacts⟩ := ih h.act hes
    refine ⟨hample, ?_⟩
    rw [List.map_cons, Machine.acts, List.foldl_cons, act_ungated h.balanced.built (h.undelayed he)]
    exact hacts

lemma bodyWorlds_append (i : Nat) (vs us : List (Machine β ι ε)) :
    bodyWorlds i (vs ++ us) = bodyWorlds i vs ++ bodyWorlds i us := by
  simp only [bodyWorlds, List.filter_append, List.map_append]

theorem Ample.bodyWorlds (h : Ample g c (n + es.countP (Event.isThrough g)) m)
    (hprompt : promptly work g m es = true) (i : Nat) :
    bodyWorlds i (visits work i (m.ungated g) (es.map (Event.ungated g))) =
      bodyWorlds i (visits work i m es) := by
  induction es generalizing m with
  | nil => rfl
  | cons e es ih =>
    rw [promptly, Bool.and_eq_true] at hprompt
    obtain ⟨he, hes⟩ := hprompt
    rw [List.countP_cons, ← Nat.add_assoc] at h
    have hu := h.undelayed he
    have hfirst : Machine.bodyWorlds i (visits work i (m.ungated g) [e.ungated g]) =
        Machine.bodyWorlds i (visits work i m [e]) := by
      cases e with
      | run k =>
        simp only [Event.ungated, visits, List.append_nil]
        split
        · rename_i hk
          subst hk
          simp only [Machine.bodyWorlds, List.filter_singleton, polls_ungated hu]
          cases m.polls k <;> rfl
        · rfl
      | _ => rfl
    rw [List.map_cons, visits_cons, visits_cons work i m e es, bodyWorlds_append,
      bodyWorlds_append, hfirst, act_ungated h.balanced.built hu, ih h.act hes]

end

def runsPromptly (work : Work β ι ε) (g : Nat) : Nat → Machine β ι ε → Bool
  | 0, _ => true
  | fuel + 1, m =>
    match m.readyJobs work with
    | [] => true
    | is => promptly work g m (is.map .run) && runsPromptly work g fuel (is.foldl (step work) m)

def waitsPromptly (work : Work β ι ε) (g limit : Nat) :
    Nat → Wait β ι ε → Machine β ι ε → Bool
  | 0, _, _ => true
  | fuel + 1, s, m =>
    runsPromptly work g patience m &&
      let m := m.run work patience
      let idle := !s.ready work m
      if idle && m.clock.passed limit then true
      else
        let m := if idle then s.moveOn work limit m else m
        if s.ready work m then
          match s.look work m with
          | (.inr _, _) => true
          | (.inl s, m) => waitsPromptly work g limit fuel s m
        else waitsPromptly work g limit fuel s m

section

variable {work : Work β ι ε} {m : Machine β ι ε} {g c n fuel limit : Nat} {s : Wait β ι ε}

lemma foldl_step_eq (is : List Nat) : is.foldl (step work) m = m.acts work (is.map .run) := by
  rw [acts, List.foldl_map]
  rfl

lemma Ample.turns (h : Ample g c n m) {is : List Nat}
    (hprompt : promptly work g m (is.map .run) = true) :
    Ample g c n (is.foldl (step work) m) ∧
      is.foldl (step work) (m.ungated g) = (is.foldl (step work) m).ungated g := by
  have hnone : (is.map .run : List (Event β ι ε)).countP (Event.isThrough g) = 0 := by
    simp [List.countP_eq_zero, Event.isThrough]
  have hsame : (is.map .run : List (Event β ι ε)).map (Event.ungated g) = is.map .run := by
    simp [Event.ungated]
  rw [← Nat.add_zero n, ← hnone] at h
  have hacts := h.acts hprompt
  rwa [hsame, ← foldl_step_eq, ← foldl_step_eq] at hacts

theorem Ample.run (h : Ample g c n m) (hprompt : runsPromptly work g fuel m = true) :
    Ample g c n (m.run work fuel) ∧
      (m.ungated g).run work fuel = (m.run work fuel).ungated g := by
  induction fuel generalizing m with
  | zero => exact ⟨h, rfl⟩
  | succ fuel ih =>
    unfold Machine.run
    unfold runsPromptly at hprompt
    rw [readyJobs_ungated h.unqueued]
    generalize m.readyJobs work = is at hprompt ⊢
    cases is with
    | nil => exact ⟨h, rfl⟩
    | cons i is =>
      rw [Bool.and_eq_true] at hprompt
      obtain ⟨hample, hturns⟩ := h.turns hprompt.1
      dsimp only
      rw [hturns]
      exact ih hample hprompt.2

lemma Ample.inWorld (h : Ample g c n m) (w : World ε) : Ample g c n { m with toWorld := w } :=
  ⟨⟨h.balanced.built, h.balanced.ledger⟩, h.unqueued, h.enough⟩

lemma Ample.drop (h : Ample g c n m) (s : Wait β ι ε) : Ample g c n (s.drop work m) := by
  cases s with
  | call c cutoff => exact h.inWorld _
  | _ => exact h

lemma Ample.look (h : Ample g c n m) (s : Wait β ι ε) : Ample g c n (s.look work m).2 :=
  Ample.act (e := .look s) h

theorem Ample.rounds (h : Ample g c n m)
    (hprompt : waitsPromptly work g limit fuel s m = true) :
    Ample g c n (s.rounds work limit fuel m).2 ∧
      s.rounds work limit fuel (m.ungated g) =
        Prod.map id (Machine.ungated g) (s.rounds work limit fuel m) := by
  -- The invariant goes through all stages of a round: the turns of jobs, the clock and the look.
  induction fuel generalizing s m with
  | zero =>
    unfold Wait.rounds
    exact ⟨h.drop s, by rw [drop_ungated]; rfl⟩
  | succ fuel ih =>
    unfold waitsPromptly at hprompt
    rw [Bool.and_eq_true] at hprompt
    obtain ⟨hample, hrun⟩ := h.run hprompt.1
    replace hprompt := hprompt.2
    unfold Wait.rounds
    dsimp only at hprompt ⊢
    rw [hrun]
    simp only [wait_ready_ungated, toWorld_ungated]
    -- The two machines after their turns, and whether anybody can go on.
    generalize m.run work patience = v at hample hprompt
    generalize (!s.ready work v) = idle at hprompt
    by_cases hover : (idle && v.clock.passed limit) = true
    · rw [if_pos hover, if_pos hover, drop_ungated]
      exact ⟨hample.drop s, rfl⟩
    · rw [if_neg hover] at hprompt
      rw [if_neg hover, if_neg hover]
      have hmoved : (if idle then s.moveOn work limit (v.ungated g) else v.ungated g) =
          (if idle then s.moveOn work limit v else v).ungated g := by
        rw [moveOn_ungated, apply_ite (Machine.ungated g)]
      have hample : Ample g c n (if idle then s.moveOn work limit v else v) := by
        split
        · exact hample.inWorld _
        · exact hample
      rw [hmoved]
      generalize (if idle then s.moveOn work limit v else v) = u at hample hprompt ⊢
      rw [wait_ready_ungated, look_ungated]
      by_cases hready : s.ready work u = true
      · rw [if_pos hready] at hprompt
        rw [if_pos hready, if_pos hready]
        have hlook : Ample g c n (s.look work u).2 := hample.look s
        generalize s.look work u = out at hlook hprompt ⊢
        obtain ⟨s' | r, u'⟩ := out
        · exact ih hlook hprompt
        · exact ⟨hlook, rfl⟩
      · rw [if_neg hready] at hprompt
        rw [if_neg hready, if_neg hready]
        exact ih hample hprompt

end

/-- From outside, two machines look the same: the world and the jobs, what may run next and when,
and what anybody who looks is told. -/
structure LooksSame (work : Work β ι ε) (m m' : Machine β ι ε) : Prop where
  world : m'.toWorld = m.toWorld
  size : m'.jobs.size = m.jobs.size
  deliveries : m'.deliveries = m.deliveries
  name : ∀ i, (m'.job i).name = (m.job i).name
  aborted : ∀ i, (m'.job i).aborted = (m.job i).aborted
  delivery : ∀ i, (m'.job i).delivery = (m.job i).delivery
  finished : ∀ i, m'.isFinished i = m.isFinished i
  readyJobs : m'.readyJobs work = m.readyJobs work
  timers : m'.timers work = m.timers work
  tryResult : ∀ i, (m'.tryResult i).1 = (m.tryResult i).1
  waitUnder : ∀ i x, (m'.waitUnder work i x).1 = (m.waitUnder work i x).1
  joinAll : ∀ is, (m'.joinAll work is).1 = (m.joinAll work is).1
  joinUnordered : ∀ is, (m'.joinUnordered is).1 = (m.joinUnordered is).1
  look : ∀ s : Wait β ι ε, (s.look work m').1 = (s.look work m).1

lemma Ample.looksSame (work : Work β ι ε) {m : Machine β ι ε} {g c n : Nat} (h : Ample g c n m) :
    LooksSame work m (m.ungated g) where
  world := rfl
  size := size_ungated m g
  deliveries := rfl
  name i := by rw [job_ungated]; rfl
  aborted i := by rw [job_ungated]; rfl
  delivery i := by rw [job_ungated]; rfl
  finished i := by
    unfold isFinished
    rw [job_ungated]
    cases hphase : (m.job i).phase <;> simp [Job.ungated, Phase.ungated, hphase]
  readyJobs := readyJobs_ungated h.unqueued
  timers := timers_ungated work m g
  tryResult i := by rw [tryResult_ungated]; rfl
  waitUnder i x := by rw [waitUnder_ungated]; rfl
  joinAll is := by rw [joinAll_ungated]; rfl
  joinUnordered is := by rw [joinUnordered_ungated]; rfl
  look s := by rw [look_ungated]; rfl

structure Unnoticed (work : Work β ι ε) (g : Nat) (m m' : Machine β ι ε) : Prop where
  same : LooksSame work m m'
  run : ∀ fuel, runsPromptly work g fuel m = true →
    LooksSame work (m.run work fuel) (m'.run work fuel)
  /-- Who waits gets the same reply, and leaves the same behind. -/
  rounds : ∀ limit fuel s, waitsPromptly work g limit fuel s m = true →
    (s.rounds work limit fuel m').1 = (s.rounds work limit fuel m).1 ∧
      LooksSame work (s.rounds work limit fuel m).2 (s.rounds work limit fuel m').2

lemma Ample.unnoticed (work : Work β ι ε) {m : Machine β ι ε} {g c n : Nat} (h : Ample g c n m) :
    Unnoticed work g m (m.ungated g) where
  same := h.looksSame work
  run fuel hprompt := by
    obtain ⟨hample, hrun⟩ := h.run hprompt
    rw [hrun]
    exact hample.looksSame work
  rounds limit fuel s hprompt := by
    obtain ⟨hample, hrounds⟩ := h.rounds hprompt
    rw [hrounds]
    exact ⟨rfl, hample.looksSame work⟩

lemma ungated_eq_self {p : Phase β ι ε} {g : Nat} (h : ∀ k, p.gate? = some k → k < g) :
    p.ungated g = p := by
  have hgate (gate : Option Nat) (h : ∀ k, gate = some k → k < g) : ungate g gate = gate := by
    cases gate with
    | none => rfl
    | some k =>
      have hk := h k rfl
      simp [ungate, movedUp, Nat.ne_of_lt hk, Nat.not_lt_of_lt hk]
  cases p with
  | launched gate t x => rw [Phase.ungated, hgate gate h]
  | queued k t x =>
    have hk := h k rfl
    simp [Phase.ungated, movedUp, Nat.not_lt_of_lt hk]
  | running gate c => rw [Phase.ungated, hgate gate h]
  | alarm | ended => rfl

section

variable {work : Work β ι ε} {m : Machine β ι ε} {config : ExecutorConfig} {cap : UInt64}
  {G : Gate} {n : Nat}

lemma Housed.ungated_build (h : m.Housed) (hvalid : config.validate = .ok ())
    (hgate : config.gate = .ok (some G)) :
    (m.act work (.build config)).ungated m.gates.size = m := by
  have hjobs : m.jobs.map (Job.ungated m.gates.size) = m.jobs := by
    refine Array.ext (by simp) fun i hi hi' => ?_
    have hjob : m.jobs[i] = m.job i := by simp [job, hi']
    have hsame := ungated_eq_self (h i)
    rw [Array.getElem_map, hjob, Job.ungated, hsame]
  simp only [act, hvalid, hgate, ungated, allBut_push_size, hjobs]

lemma Housed.ample (h : m.Housed) (hcap : config.maxConcurrency = some cap)
    (hvalid : config.validate = .ok ()) (hgate : config.gate = .ok (some G))
    (hn : n ≤ cap.toNat) :
    Ample m.gates.size cap.toNat n (m.act work (.build config)) := by
  have hnone (i : Nat) : ((m.act work (.build config)).job i).phase.gate? ≠ some m.gates.size := by
    simp only [act, hvalid, hgate]
    exact fun hi => Nat.lt_irrefl _ (h i _ hi)
  refine ⟨h.build work hcap hvalid hgate, fun i t x hi => hnone i (by rw [hi]; rfl), ?_⟩
  have hempty : (m.act work (.build config)).behind m.gates.size = [] :=
    List.filter_eq_nil_iff.2 fun i _ => by simpa using hnone i
  simpa [hempty] using hn

lemma Housed.wide (h : m.Housed) (hcap : config.maxConcurrency = some cap)
    (hvalid : config.validate = .ok ()) (hgate : config.gate = .ok (some G))
    {after : List (Event β ι ε)}
    (hwide : after.countP (Event.isThrough m.gates.size) ≤ cap.toNat)
    (hprompt : promptly work m.gates.size (m.act work (.build config)) after = true) :
    Unnoticed work m.gates.size ((m.act work (.build config)).acts work after)
        (m.acts work (after.map (Event.ungated m.gates.size))) ∧
      ∀ i, bodyWorlds i (visits work i m (after.map (Event.ungated m.gates.size))) =
        bodyWorlds i (visits work i (m.act work (.build config)) after) := by
  have hample : Ample m.gates.size cap.toNat (0 + after.countP (Event.isThrough m.gates.size))
      (m.act work (.build config)) := by
    rw [Nat.zero_add]
    exact h.ample hcap hvalid hgate hwide
  have hacts := hample.acts hprompt
  have hbodies := hample.bodyWorlds hprompt
  rw [h.ungated_build hvalid hgate] at hacts
  simp only [h.ungated_build hvalid hgate] at hbodies
  rw [hacts.2]
  exact ⟨hacts.1.unnoticed work, hbodies⟩

end

theorem wide_cap_is_unnoticed (work : Work β ι ε) (w : World ε) (before after : List (Event β ι ε))
    (config : ExecutorConfig) (cap : UInt64) (G : Gate) (hcap : config.maxConcurrency = some cap)
    (hvalid : config.validate = .ok ()) (hgate : config.gate = .ok (some G))
    (hwide : after.countP (Event.isThrough ((idle w).acts work before).gates.size) ≤ cap.toNat)
    (hprompt : promptly work ((idle w).acts work before).gates.size
      ((idle w).acts work (before ++ [.build config])) after = true) :
    let g := ((idle w).acts work before).gates.size
    let capped := before ++ .build config :: after
    let uncapped := before ++ .build { maxConcurrency := none } :: after.map (Event.ungated g)
    Unnoticed work g ((idle w).acts work capped) ((idle w).acts work uncapped) ∧
      ∀ i, bodyWorlds i (visits work i (idle w) uncapped) =
        bodyWorlds i (visits work i (idle w) capped) := by
  intro g capped uncapped
  have hhoused : ((idle w).acts work before).Housed := (housed_idle w).acts work before
  rw [acts_append] at hprompt
  obtain ⟨hsame, hbodies⟩ := hhoused.wide hcap hvalid hgate hwide hprompt
  refine ⟨?_, fun i => ?_⟩
  · rw [acts_append, acts_append]
    exact hsame
  · rw [visits_append, visits_append, bodyWorlds_append, bodyWorlds_append]
    exact congrArg _ (hbodies i)

/-- Two tasks under way; then the context of the first ends and the second is aborted. -/
def pair : List (Event Unit Unit Unit) :=
  [.launch (some 0) (.ofBody "first" ()) ⟨⟨0, []⟩, none⟩,
    .launch (some 0) (.ofBody "second" ()) ⟨⟨1, []⟩, none⟩, .run 1, .run 0,
    .outside { quiet with cancellation := quiet.cancellation.cancel ⟨0, []⟩ }, .abort 1, .run 1,
    .tryResult 1, .run 0]

theorem pair_fits_under_two :
    Unnoticed dozing 0 ((idle quiet).acts dozing (.build { maxConcurrency := some 2 } :: pair))
        ((idle quiet).acts dozing (.build {} :: pair.map (Event.ungated 0))) ∧
      (((idle quiet).acts dozing (.build {} :: pair.map (Event.ungated 0))).job 0).delivery =
        .arrived (some (.ok ())) 1 := by
  refine ⟨?_, by rfl⟩
  exact (wide_cap_is_unnoticed dozing quiet [] pair { maxConcurrency := some 2 } 2 _ rfl rfl rfl
    (by decide) (by decide +kernel)).1

end Machine

end Resilience
