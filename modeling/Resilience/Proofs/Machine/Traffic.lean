import Mathlib.Tactic.Lemma
import Resilience.Await

namespace Resilience

namespace Machine

inductive Event (β ι ε : Type) where
  | build (config : ExecutorConfig)
  | launch (gate : Option Nat) (task : Task β ε) (context : Context)
  | alarm (wake : Nat) (context : Context)
  | run (job : Nat)
  | abort (job : Nat)
  | outside (world : World ε)
  | tryResult (job : Nat)
  | waitUnder (job : Nat) (context : Context)
  | joinAll (jobs : List Nat)
  | joinUnordered (jobs : List Nat)
  | look (wait : Wait β ι ε)

variable {β ι ε : Type}

def idle (w : World ε) : Machine β ι ε :=
  { toWorld := w, gates := #[], jobs := #[], deliveries := 0 }

section

variable (work : Work β ι ε)

/-- Jobs are launched through gates that have been built, and nobody takes a cancellation back. -/
def act (m : Machine β ι ε) : Event β ι ε → Machine β ι ε
  | .build config =>
    match config.validate, config.gate with
    | .ok _, .ok (some gate) => { m with gates := m.gates.push gate }
    | _, _ => m
  | .launch gate t x => if gate.all (· < m.gates.size) then (m.launch gate t x).2 else m
  | .alarm wake x => m.setAlarm wake x
  | .run i => m.step work i
  | .abort i => m.abort i
  | .outside w =>
    if m.cancellation.cancelled ⊆ w.cancellation.cancelled then { m with toWorld := w } else m
  | .tryResult i => (m.tryResult i).2
  | .waitUnder i x => (m.waitUnder work i x).2
  | .joinAll is => (m.joinAll work is).2
  | .joinUnordered is => (m.joinUnordered is).2
  | .look s => (s.look work m).2

def acts (m : Machine β ι ε) (es : List (Event β ι ε)) : Machine β ι ε := es.foldl (act work) m

lemma acts_append (m : Machine β ι ε) (es fs : List (Event β ι ε)) :
    m.acts work (es ++ fs) = (m.acts work es).acts work fs :=
  List.foldl_append

def visits (i : Nat) : Machine β ι ε → List (Event β ι ε) → List (Machine β ι ε)
  | _, [] => []
  | m, .run k :: es => (if k = i then [m] else []) ++ visits i (m.act work (.run k)) es
  | m, e :: es => visits i (m.act work e) es

lemma visits_cons (i : Nat) (m : Machine β ι ε) (e : Event β ι ε) (es : List (Event β ι ε)) :
    visits work i m (e :: es) = visits work i m [e] ++ visits work i (m.act work e) es := by
  cases e <;> simp [visits]

lemma visits_append (i : Nat) (m : Machine β ι ε) (es fs : List (Event β ι ε)) :
    visits work i m (es ++ fs) = visits work i m es ++ visits work i (m.acts work es) fs := by
  induction es generalizing m with
  | nil => rfl
  | cons e es ih =>
    rw [List.cons_append, visits_cons, ih, visits_cons work i m e es, List.append_assoc]
    rfl

end

/-- Whether the body of a job runs when the job has its turn: the first time with a permit if it
needs one. -/
def polls (m : Machine β ι ε) (i : Nat) : Bool :=
  !(m.job i).aborted && match (m.job i).phase with
    | .launched none _ _ => true
    | .launched (some g) _ x => (m.err x).isNone && decide (0 < (m.gate g).free)
    | .queued g _ x => (m.noticed x).isNone && (m.gate g).handed.contains i
    | .running _ _ => true
    | .alarm .. | .ended => false

def bodyWorlds (i : Nat) (vs : List (Machine β ι ε)) : List (World ε) :=
  (vs.filter (·.polls i)).map (·.toWorld)

def waitEnds (m : Machine β ι ε) (i : Nat) : Option Reason :=
  match (m.job i).phase with
  | .launched (some _) _ x => m.err x
  | .queued _ _ x => m.noticed x
  | _ => none

inductive Next (β ι ε : Type) where
  | stays
  | becomes (phase : Phase β ι ε)
  | ends (report : Option Outcome)

structure Turn (β ι ε : Type) where
  world : World ε
  gates : Array Gate
  next : Next β ι ε

def Next.apply (j : Job β ι ε) (order : Nat) : Next β ι ε → Job β ι ε
  | .stays => j
  | .becomes p => { j with phase := p }
  | .ends report => { j with phase := .ended, delivery := .arrived report order }

def conclude (m : Machine β ι ε) (i : Nat) (T : Turn β ι ε) : Machine β ι ε :=
  let m := { m with toWorld := T.world, gates := T.gates }
  match T.next with
  | .stays => m
  | .becomes p => m.setPhase i p
  | .ends report => m.finish i report

def withGate (gates : Array Gate) (g : Nat) (f : Gate → Gate) : Array Gate :=
  gates.setIfInBounds g (f (gates.getD g default))

def released (gates : Array Gate) : Option Nat → Array Gate
  | some g => withGate gates g Gate.release
  | none => gates

def Turn.ofStep (gate : Option Nat) (gates : Array Gate) : Call.Step β ι ε → Turn β ι ε
  | (.pending c, w) => ⟨w, gates, .becomes (.running gate c)⟩
  | (.done r, w) => ⟨w, released gates gate, .ends (some r)⟩
  | (.crashed _, w) => ⟨w, released gates gate, .ends none⟩

section

variable (work : Work β ι ε) (w : World ε) (gates : Array Gate) (i : Nat)

/-- The body of a job runs: from which phase, behind which gate, with which permits left and to
which step. -/
inductive Enters : Phase β ι ε → Option Nat → Array Gate → Call.Step β ι ε → Prop
  | free {t x} : Enters (.launched none t x) none gates (Call.ofTask work t x w)
  | granted {g t x} : w.err x = none → 0 < (gates.getD g default).free →
      Enters (.launched (some g) t x) (some g)
        (withGate gates g fun G => { G with free := G.free - 1 }) (Call.ofTask work t x w)
  | accepted {g t x} : w.noticed x = none → i ∈ (gates.getD g default).handed →
      Enters (.queued g t x) (some g) (withGate gates g (·.accept i)) (Call.ofTask work t x w)
  | resumed {gate c} : Enters (.running gate c) gate gates (c.resume work w)

inductive Effect : Bool → Phase β ι ε → Turn β ι ε → Prop
  | past {aborted} : Effect aborted .ended ⟨w, gates, .stays⟩
  | dropped {gate t x} : Effect true (.launched gate t x) ⟨w, gates, .ends none⟩
  | silenced {wake x} : Effect true (.alarm wake x) ⟨w, gates, .ends none⟩
  | left {g t x} : Effect true (.queued g t x) ⟨w, withGate gates g (·.leave i), .ends none⟩
  | cut {gate c} : Effect true (.running gate c) ⟨c.drop work w, released gates gate, .ends none⟩
  | refused {g t x r} : w.err x = some r →
      Effect false (.launched (some g) t x) ⟨w, gates, .ends (some (Call.cancelled r))⟩
  | queued {g t x} : w.err x = none → (gates.getD g default).free = 0 →
      Effect false (.launched (some g) t x)
        ⟨w, withGate gates g fun G => { G with waiting := G.waiting ++ [i] },
          .becomes (.queued g t x)⟩
  | gaveUp {g t x r} : w.noticed x = some r →
      Effect false (.queued g t x)
        ⟨w, withGate gates g (·.leave i), .ends (some (Call.cancelled r))⟩
  | waits {g t x} : w.noticed x = none → i ∉ (gates.getD g default).handed →
      Effect false (.queued g t x) ⟨w, gates, .stays⟩
  | ran {p gate gates' s} : Enters work w gates i p gate gates' s →
      Effect false p (.ofStep gate gates' s)
  | rang {wake x} : w.clock.passed wake →
      Effect false (.alarm wake x)
        ⟨{ w with toAmbient := w.toAmbient.cancel x }, gates, .ends (some (.ok ()))⟩
  | sleeps {wake x} : ¬w.clock.passed wake → Effect false (.alarm wake x) ⟨w, gates, .stays⟩

end

section

variable {work : Work β ι ε} {w : World ε} {gates : Array Gate} {i : Nat}

lemma Enters.unique {p : Phase β ι ε} {gate gate' : Option Nat} {gs gs' : Array Gate}
    {s s' : Call.Step β ι ε} (h : Enters work w gates i p gate gs s)
    (h' : Enters work w gates i p gate' gs' s') : gate = gate' ∧ gs = gs' ∧ s = s' := by
  cases h <;> cases h' <;> exact ⟨rfl, rfl, rfl⟩

lemma Effect.unique {a : Bool} {p : Phase β ι ε} {T T' : Turn β ι ε}
    (h : Effect work w gates i a p T) (h' : Effect work w gates i a p T') : T = T' := by
  cases h <;> cases h'
  case ran.ran =>
    rename_i h _ _ _ h'
    obtain ⟨rfl, rfl, rfl⟩ := h.unique h'
    rfl
  -- A body that runs and one that does not differ in what the phase waits for.
  all_goals first
    | rfl
    | simp_all; done
    | rename_i h; cases h <;> simp_all

end

lemma Enters.polls {work : Work β ι ε} {m : Machine β ι ε} {i : Nat} {gate : Option Nat}
    {gates' : Array Gate} {s : Call.Step β ι ε}
    (h : Enters work m.toWorld m.gates i (m.job i).phase gate gates' s)
    (ha : (m.job i).aborted = false) : m.polls i = true := by
  unfold Machine.polls
  generalize (m.job i).phase = p at h
  cases h with
  | free | resumed => simp [ha]
  | @granted g t x he hfree =>
    have hfree : 0 < (m.gate g).free := hfree
    simp [ha, he, hfree]
  | @accepted g t x hn hmem =>
    have hmem : i ∈ (m.gate g).handed := hmem
    simp [ha, hn, hmem]

lemma Enters.ne_ended {work : Work β ι ε} {w : World ε} {gates gates' : Array Gate} {i : Nat}
    {p : Phase β ι ε} {gate : Option Nat} {s : Call.Step β ι ε}
    (h : Enters work w gates i p gate gates' s) : p ≠ .ended := by
  cases h <;> exact nofun

lemma exists_enters (work : Work β ι ε) {m : Machine β ι ε} {i : Nat} (h : m.polls i = true) :
    (m.job i).aborted = false ∧ ∃ gate gates' s,
      Enters work m.toWorld m.gates i (m.job i).phase gate gates' s := by
  unfold polls at h
  generalize hp : (m.job i).phase = p at h
  cases ha : (m.job i).aborted with
  | true => simp [ha] at h
  | false =>
    refine ⟨rfl, ?_⟩
    cases p with
    | launched gate t x =>
      cases gate with
      | none => exact ⟨_, _, _, .free⟩
      | some g =>
        simp only [ha, Bool.not_false, Bool.true_and, Bool.and_eq_true, Option.isNone_iff_eq_none,
          decide_eq_true_eq] at h
        exact ⟨_, _, _, .granted h.1 h.2⟩
    | queued g t x =>
      simp only [ha, Bool.not_false, Bool.true_and, Bool.and_eq_true, Option.isNone_iff_eq_none,
        List.contains_iff_mem] at h
      exact ⟨_, _, _, .accepted h.1 h.2⟩
    | running gate c => exact ⟨_, _, _, .resumed⟩
    | alarm | ended => simp [ha] at h

section

variable (m : Machine β ι ε) (i k : Nat)

lemma job_setJob (j : Job β ι ε) :
    (m.setJob i j).job k = if k = i ∧ i < m.jobs.size then j else m.job k := by
  simp only [job, setJob, Array.getD_eq_getD_getElem?, Array.getElem?_setIfInBounds]
  by_cases hk : i = k
  · subst hk
    by_cases hi : i < m.jobs.size <;> simp [hi]
  · simp [hk, Ne.symm hk]

lemma size_setJob (j : Job β ι ε) : (m.setJob i j).jobs.size = m.jobs.size :=
  Array.size_setIfInBounds

lemma job_push (j : Job β ι ε) :
    job { m with jobs := m.jobs.push j } k = if k = m.jobs.size then j else m.job k := by
  simp only [job, Array.getD_eq_getD_getElem?, Array.getElem?_push]
  split <;> rfl

lemma job_eq_default (h : m.jobs.size ≤ i) : m.job i = default := by
  simp [job, Array.getD_eq_getD_getElem?, Array.getElem?_eq_none h]

lemma step_eq_self (work : Work β ι ε) (h : m.jobs.size ≤ i) : m.step work i = m := by
  unfold step
  rw [job_eq_default m i h]
  rfl

lemma toWorld_conclude (T : Turn β ι ε) : (m.conclude i T).toWorld = T.world := by
  unfold conclude
  split <;> rfl

lemma gates_conclude (T : Turn β ι ε) : (m.conclude i T).gates = T.gates := by
  unfold conclude
  split <;> rfl

lemma size_conclude (T : Turn β ι ε) : (m.conclude i T).jobs.size = m.jobs.size := by
  unfold conclude
  split
  · rfl
  · exact size_setJob ..
  · exact size_setJob ..

lemma job_conclude (T : Turn β ι ε) (hi : i < m.jobs.size) :
    (m.conclude i T).job k = if k = i then T.next.apply (m.job i) m.deliveries else m.job k := by
  unfold conclude
  split <;> rename_i hnext <;> rw [hnext]
  · split
    · rename_i hk
      rw [hk]
      rfl
    · rfl
  · refine (job_setJob ..).trans ?_
    simp only [hi, and_true]
    rfl
  · refine (job_setJob ..).trans ?_
    simp only [hi, and_true]
    rfl

end

lemma conclude_ofStep (m : Machine β ι ε) (i : Nat) (gate : Option Nat) (p : Progress (Call β ι ε))
    (w : World ε) :
    { m with toWorld := w }.advance i gate p = m.conclude i (.ofStep gate m.gates (p, w)) := by
  cases p <;> cases gate <;> rfl

lemma enter_eq (work : Work β ι ε) (m : Machine β ι ε) (i : Nat) (gate : Option Nat)
    (t : Task β ε) (x : Context) :
    m.enter work i gate t x =
      m.conclude i (.ofStep gate m.gates (Call.ofTask work t x m.toWorld)) :=
  conclude_ofStep m i gate _ _

lemma kill_effect (work : Work β ι ε) (m : Machine β ι ε) (i : Nat) :
    ∃ T, Effect work m.toWorld m.gates i true (m.job i).phase T ∧
      m.kill work i = m.conclude i T := by
  unfold kill
  cases hp : (m.job i).phase with
  | launched gate t x => exact ⟨_, .dropped, rfl⟩
  | queued g t x => exact ⟨_, .left, rfl⟩
  | running gate c => cases gate <;> exact ⟨_, .cut, rfl⟩
  | alarm wake x => exact ⟨_, .silenced, rfl⟩
  | ended => exact ⟨_, .past, rfl⟩

theorem step_effect (work : Work β ι ε) (m : Machine β ι ε) (i : Nat) :
    ∃ T, Effect work m.toWorld m.gates i (m.job i).aborted (m.job i).phase T ∧
      m.step work i = m.conclude i T := by
  unfold step
  cases ha : (m.job i).aborted with
  | true =>
    rw [if_pos rfl]
    exact kill_effect work m i
  | false =>
    simp only [Bool.false_eq_true, if_false]
    cases hp : (m.job i).phase with
    | launched gate t x =>
      cases gate with
      | none => exact ⟨_, .ran .free, enter_eq ..⟩
      | some g =>
        dsimp only
        cases he : m.err x with
        | some r => exact ⟨_, .refused he, rfl⟩
        | none =>
          unfold Gate.request
          by_cases hfree : 0 < (m.gate g).free
          · simp only [hfree, if_true]
            exact ⟨_, .ran (.granted he hfree), enter_eq ..⟩
          · simp only [hfree, if_false, Bool.false_eq_true]
            exact ⟨_, .queued he (Nat.eq_zero_of_not_pos hfree), rfl⟩
    | queued g t x =>
      dsimp only
      cases hn : m.noticed x with
      | some r => exact ⟨_, .gaveUp hn, rfl⟩
      | none =>
        dsimp only
        split
        · rename_i hh
          exact ⟨_, .ran (.accepted hn (List.contains_iff_mem.1 hh)), enter_eq ..⟩
        · rename_i hh
          exact ⟨_, .waits hn (fun h => hh (List.contains_iff_mem.2 h)), rfl⟩
    | running gate c => exact ⟨_, .ran .resumed, conclude_ofStep ..⟩
    | alarm wake x =>
      dsimp only
      split
      · rename_i hw
        exact ⟨_, .rang hw, rfl⟩
      · rename_i hw
        exact ⟨_, .sleeps hw, rfl⟩
    | ended => exact ⟨_, .past, rfl⟩

def dozing : Work Unit Unit Unit where
  start _ _ a := (.pending (), a)
  resume _ a := (.done (.ok ()), a)
  abandon _ a := a
  ready _ _ := true
  timers _ := []

def quiet : World Unit where
  clock := .start
  cancellation := { fresh := 2 }
  notes := ()
  limiters := #[]
  breakers := #[]

end Machine

end Resilience
