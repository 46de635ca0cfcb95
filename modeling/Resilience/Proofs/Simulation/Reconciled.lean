import Resilience.Proofs.Machine.Books
import Resilience.Proofs.Settings.Accepted
import Resilience.Proofs.Simulation.Counts
import Resilience.Simulation.Run

/-! The report of a simulation. It counts each task once, and if no retry and no overall timeout
stand between the breaker and the results, its counts are those of the breaker: however the attempts
turn out, in whatever order the jobs run and whenever the context ends. -/

namespace Resilience

variable {ε : Type}

def Summary.setAside : List String := ["circuit_open", "cancelled", "deadline_exceeded", "aborted"]

structure Summary.Agrees (s : Summary) (m : Metrics) : Prop where
  succeeded : s.succeeded = m.successes
  rejected : s.failures "circuit_open" = m.rejected
  failed : m.failures = s.among (· ∉ setAside)

/-- Whether all calls go through a breaker, and what it sees of them is what is reported. -/
def PolicyStack.Direct (s : PolicyStack) : Prop :=
  s.circuitBreaker.isSome = true ∧ s.retry = none ∧ s.timeout = none

section

variable (r : Outcome)

lemma Mark.of_eq_success : decide (Mark.of r = some .success) = r.succeeds := by
  rcases r with f | _
  · cases f <;> rfl
  · rfl

lemma Mark.of_eq_rejected :
    decide (Mark.of r = some .rejected) = r.failsBy (· = "circuit_open") := by
  rcases r with f | _
  · rcases f with _ | (_ | _) | _ | _ | _ | _ | _ | _ <;>
      simp [Mark.of, Outcome.failsBy, Failure.kind]
  · rfl

lemma Mark.of_eq_failure :
    decide (Mark.of r = some .failure) = r.failsBy (· ∉ Summary.setAside) := by
  rcases r with f | _
  · rcases f with _ | (_ | _) | _ | _ | _ | _ | _ | _ <;>
      simp [Mark.of, Outcome.failsBy, Failure.kind, Summary.setAside]
  · rfl

end

lemma Summary.agrees_of_counts {rs : List Outcome} {b : Breaker}
    (h : ∀ k, b.count k = rs.countP fun r => Mark.of r = some k) :
    (ofOutcomes rs).Agrees b.metrics where
  succeeded := by
    rw [succeeded_ofOutcomes, ← funext Mark.of_eq_success]
    exact (h .success).symm
  rejected := by
    rw [failures_ofOutcomes, ← funext Mark.of_eq_rejected]
    exact (h .rejected).symm
  failed := by
    rw [among_ofOutcomes, ← funext Mark.of_eq_failure]
    exact h .failure

namespace Simulated

lemma plain_verdict (fail : Bool) : (verdict fail).Plain := by
  cases fail <;> rfl

lemma plain_work (draw : ε → Attempt × ε) : (work draw).Plain where
  start body x a r h := by
    change start _ x _ = .done r at h
    unfold start at h
    split at h <;> cases h
    · exact plain_verdict _
    · exact .cancelled _
  resume i a r h := by
    change resume i a = .done r at h
    unfold resume at h
    split at h <;> cases h
    · exact plain_verdict _
    · exact .cancelled _

end Simulated

namespace Simulation

variable {p : Pipeline} {spread : ε → Float × ε} {draw : ε → Attempt × ε}

def launched (p : Pipeline) (spread : ε → Float × ε) (gate : Option Gate) (tasks : Nat)
    (x : Context) (m : Machine Unit Simulated ε) : List Nat × Machine Unit Simulated ε :=
  m.launchAll (place gate) ((List.range tasks).map (task p spread)) x

lemma task_goesThrough (hb : p.breaker.isSome = true) (hr : p.retry = none) (ht : p.timeout = none)
    (index : Nat) : (task p spread index).GoesThrough 0 := by
  obtain ⟨b, hb⟩ := Option.isSome_iff_exists.mp hb
  refine ⟨((place p.limiter).map .limiter).toList ++ (p.attemptTimeout.map .timeout).toList,
    ?_, ?_⟩
  · simp [task, Task.layers_under, Pipeline.layers, hb, hr, ht, place, Task.ofBody]
  · simp only [List.mem_append, Option.mem_toList, Option.map_eq_some_iff]
    rintro _ (⟨_, -, rfl⟩ | ⟨_, -, rfl⟩) <;> trivial

lemma context_quiet (p : Pipeline) (gate : Option Gate) (notes : ε) (ending : Ending) :
    (context (machine p gate notes) ending).2.breakers = p.breaker.toList.toArray ∧
      ∀ i, ((context (machine p gate notes) ending).2.job i).phase.Idle := by
  cases ending with
  | never | cancelled | deadline => exact ⟨rfl, fun _ => trivial⟩
  | interrupted d =>
    refine ⟨rfl, fun i => ?_⟩
    simp only [context]
    rw [Machine.setAlarm, Machine.job_push]
    split <;> trivial

section

variable {gate : Option Gate} {tasks : Nat} {x : Context} {m m' : Machine Unit Simulated ε}
  {es : List (Machine.Event Unit Simulated ε)} {rs : List Outcome}

lemma length_joined
    (hj : Machine.Joining (Simulated.work draw) (launched p spread gate tasks x m).2 .all
      (launched p spread gate tasks x m).1 es (.inr (.outcomes rs), m')) : rs.length = tasks := by
  obtain ⟨hids, h⟩ :=
    Machine.launched_launchAll m (place gate) ((List.range tasks).map (task p spread)) x
  rw [launched, hids] at hj
  obtain ⟨_, ⟨⟩, hlen, -⟩ | ⟨⟨_, ⟨⟩⟩, -⟩ := Machine.Launched.joinAll h hj
  simpa using hlen

lemma exists_joining {ending : Ending} {notes : ε} {r : SimulationReport}
    (h : report draw spread p gate tasks ending notes = .ok r) :
    ∃ m x es rs m', m.breakers = p.breaker.toList.toArray ∧ (∀ i, (m.job i).phase.Idle) ∧
      Machine.Joining (Simulated.work draw) (launched p spread gate tasks x m).2 .all
        (launched p spread gate tasks x m).1 es (.inr (.outcomes rs), m') ∧
      Machine.Sparing (Simulated.work draw) (launched p spread gate tasks x m).2 es ∧
      r.summary = .ofOutcomes rs ∧ r.breaker = p.breaker.map fun _ => m'.breaker 0 := by
  obtain ⟨hbreakers, hidle⟩ := context_quiet p gate notes ending
  unfold report at h
  generalize context (machine p gate notes) ending = start at h hbreakers hidle
  obtain ⟨x, m⟩ := start
  obtain ⟨hids, hlaunched⟩ :=
    Machine.launched_launchAll m (place gate) ((List.range tasks).map (task p spread)) x
  have hnew : ∀ i ∈ (launched p spread gate tasks x m).1,
      ((launched p spread gate tasks x m).2.job i).delivery ≠ .taken := by
    intro i hi
    rw [launched, hids] at hi
    obtain ⟨k, t, hk, rfl⟩ := Machine.mem_range'_places hi
    rw [launched, hlaunched.new k t hk]
    exact nofun
  dsimp only at h
  split at h
  · rename_i rs m' hfinish
    cases h
    obtain ⟨es, hj, hes⟩ := Machine.exists_joining_of_finishBy (j := .all) hnew hfinish
    exact ⟨m, x, es, rs, m', hbreakers, hidle, hj, hes, rfl, rfl⟩
  · cases h
  · cases h

lemma agrees_joined {s : PolicyStack} (hs : s.Direct) (hp : p = s.pipeline 0)
    (hm : m.breakers = p.breaker.toList.toArray) (hidle : ∀ i, (m.job i).phase.Idle)
    (hj : Machine.Joining (Simulated.work draw) (launched p spread gate tasks x m).2 .all
      (launched p spread gate tasks x m).1 es (.inr (.outcomes rs), m'))
    (hes : Machine.Sparing (Simulated.work draw) (launched p spread gate tasks x m).2 es) :
    (Summary.ofOutcomes rs).Agrees (m'.breaker 0).metrics := by
  subst hp
  obtain ⟨hb, hr, ht⟩ := hs
  obtain ⟨config, hb⟩ := Option.isSome_iff_exists.mp hb
  have hnew : m.breakers = #[{ config }] := by
    rw [hm, PolicyStack.pipeline, hb]
    rfl
  have hzero (k : Mark) : (m.breaker 0).count k = 0 := by
    rw [World.breaker, hnew]
    cases k <;> rfl
  have hthrough : ∀ t ∈ (List.range tasks).map (task (s.pipeline 0) spread), t.GoesThrough 0 := by
    intro t hmem
    obtain ⟨index, -, rfl⟩ := List.mem_map.mp hmem
    exact task_goesThrough (by simp [PolicyStack.pipeline, hb]) hr ht index
  refine Summary.agrees_of_counts fun k => ?_
  have hcount := Machine.joined_results_are_counted (Simulated.plain_work draw) hidle
    (by simp [hnew]) hthrough hj hes k
  rwa [hzero, Nat.zero_add] at hcount

lemma report_adds_up {s : PolicyStack} {ending : Ending} {notes : ε} {r : SimulationReport}
    (h : report draw spread (s.pipeline 0) gate tasks ending notes = .ok r) :
    r.summary.total = tasks ∧
      (s.Direct → ∃ b, r.breaker = some b ∧ r.summary.Agrees b.metrics) := by
  obtain ⟨m, x, es, rs, m', hm, hidle, hj, hes, hsummary, hbreaker⟩ := exists_joining h
  rw [hsummary, hbreaker]
  refine ⟨(Summary.total_ofOutcomes rs).trans (length_joined hj), fun hs => ?_⟩
  refine ⟨m'.breaker 0, ?_, agrees_joined hs rfl hm hidle hj hes⟩
  obtain ⟨config, hb⟩ := Option.isSome_iff_exists.mp hs.1
  simp [PolicyStack.pipeline, hb]

end

/-- What holds of a report holds of every schedule too: jobs may run, be aborted and have their
contexts cancelled in any order, as long as nobody else comes to the breaker. -/
theorem report_reconciles (c : Settings) :
    (∀ args entropy ending r, run c args entropy ending = .ok r →
      r.summary.total = args.tasks ∧
        (c.policies.Direct → ∃ b, r.breaker = some b ∧ r.summary.Agrees b.metrics)) ∧
    ∀ p, c.policies.build 0 = .ok p → ∀ {ε : Type} (draw : ε → Attempt × ε)
      (spread : ε → Float × ε) (gate : Option Gate) (tasks : Nat),
      (∀ ending notes r, report draw spread p gate tasks ending notes = .ok r →
        r.summary.total = tasks ∧
          (c.policies.Direct → ∃ b, r.breaker = some b ∧ r.summary.Agrees b.metrics)) ∧
      ∀ (m : Machine Unit Simulated ε) (x : Context) (es : List (Machine.Event Unit Simulated ε))
        (rs : List Outcome) (m' : Machine Unit Simulated ε),
        m.breakers = p.breaker.toList.toArray → (∀ i, (m.job i).phase.Idle) →
        Machine.Joining (Simulated.work draw) (launched p spread gate tasks x m).2 .all
          (launched p spread gate tasks x m).1 es (.inr (.outcomes rs), m') →
        (Summary.ofOutcomes rs).total = tasks ∧
          (c.policies.Direct →
            Machine.Sparing (Simulated.work draw) (launched p spread gate tasks x m).2 es →
            (Summary.ofOutcomes rs).Agrees (m'.breaker 0).metrics) := by
  refine ⟨fun args entropy ending r h => ?_, fun p hp ε draw spread gate tasks => ?_⟩
  · obtain ⟨p, hp, h⟩ := eq_ok_of_bind h
    obtain ⟨_, -, h⟩ := eq_ok_of_bind h
    obtain ⟨_, -, h⟩ := eq_ok_of_bind h
    obtain ⟨_, -, h⟩ := eq_ok_of_bind h
    have hbuild : c.policies.build 0 = .ok p := by
      cases hb : c.policies.build 0 with
      | error f => simp [hb, Except.mapError] at hp
      | ok q => simpa [hb, Except.mapError] using hp
    obtain ⟨-, rfl⟩ := PolicyStack.eq_of_build hbuild
    exact report_adds_up h
  · obtain ⟨-, rfl⟩ := PolicyStack.eq_of_build hp
    refine ⟨fun ending notes r h => report_adds_up h, fun m x es rs m' hm hidle hj => ?_⟩
    exact ⟨(Summary.total_ofOutcomes rs).trans (length_joined hj),
      fun hs hes => agrees_joined hs rfl hm hidle hj hes⟩

def shielded : Settings where
  policies := { circuitBreaker := some { failureThreshold := 2 } }

def faltering (drawn : Nat) : Attempt × Nat :=
  (if drawn = 1 then ⟨.ofMillis 5, false⟩ else ⟨.zero, true⟩, drawn + 1)

def fleet : Machine Unit Simulated Nat :=
  (launched (shielded.policies.pipeline 0) (1.0, ·) none 4 ⟨⟨0, []⟩, none⟩
    (machine (shielded.policies.pipeline 0) none 0)).2

def meddled : List (Machine.Event Unit Simulated Nat) :=
  [.run 0, .run 1, .run 2, .abort 1, .run 1, .run 3]

theorem interrupted_report_reconciles :
    (∃ r, report faltering (1.0, ·) (shielded.policies.pipeline 0) none 4
        (.interrupted (.ofMillis 2)) 0 = .ok r ∧
      r.summary = ⟨0, [("cancelled", 1), ("circuit_open", 1), ("failed", 2)]⟩ ∧
      r.summary.total = 4 ∧ ∃ b, r.breaker = some b ∧ r.summary.Agrees b.metrics) ∧
    ∃ rs m', Machine.Joining (Simulated.work faltering) fleet .all [0, 1, 2, 3]
        (meddled ++ [.joinAll [0, 1, 2, 3]]) (.inr (.outcomes rs), m') ∧
      Summary.ofOutcomes rs = ⟨0, [("aborted", 1), ("circuit_open", 1), ("failed", 2)]⟩ ∧
      (Summary.ofOutcomes rs).Agrees (m'.breaker 0).metrics := by
  obtain ⟨hreports, hschedules⟩ := (report_reconciles shielded).2 _ rfl faltering (1.0, ·) none 4
  constructor
  · have hrun : ∃ r, report faltering (1.0, ·) (shielded.policies.pipeline 0) none 4
        (.interrupted (.ofMillis 2)) 0 = .ok r ∧
        r.summary = ⟨0, [("cancelled", 1), ("circuit_open", 1), ("failed", 2)]⟩ := by
      refine ⟨_, rfl, ?_⟩
      decide +kernel
    obtain ⟨r, hr, hsummary⟩ := hrun
    obtain ⟨htotal, hagrees⟩ := hreports _ _ r hr
    exact ⟨r, hr, hsummary, htotal, hagrees ⟨rfl, rfl, rfl⟩⟩
  · have hnew : ∀ i ∈ [0, 1, 2, 3],
        ((fleet.acts (Simulated.work faltering) meddled).job i).delivery ≠ .taken := by
      intro i hi
      simp only [List.mem_cons, List.not_mem_nil, or_false] at hi
      rcases hi with rfl | rfl | rfl | rfl <;> exact nofun
    have hj : Machine.Joining (Simulated.work faltering) fleet .all [0, 1, 2, 3]
        (meddled ++ [.joinAll [0, 1, 2, 3]]) _ := .begun hnew
    have hes : Machine.Sparing (Simulated.work faltering) fleet
        (meddled ++ [.joinAll [0, 1, 2, 3]]) :=
      ⟨trivial, trivial, trivial, rfl, trivial, trivial, rfl, trivial⟩
    obtain ⟨-, hagrees⟩ := hschedules (machine (shielded.policies.pipeline 0) none 0) _ _ _ _ rfl
      (fun _ => trivial) hj
    exact ⟨_, _, hj, by decide +kernel, hagrees ⟨rfl, rfl, rfl⟩ hes⟩

end Simulation

end Resilience
