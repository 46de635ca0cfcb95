import Mathlib.Data.List.Forall2
import Resilience.Proofs.Machine.Traffic

namespace Resilience

variable {β ι ε : Type}

inductive Delivery.Spent : Delivery → Delivery → Prop
  | kept {d : Delivery} : Spent d d
  | taken {report : Option Outcome} {order : Nat} : Spent (.arrived report order) .taken

lemma Delivery.Spent.trans {c d e : Delivery} (h : Spent c d) (h' : Spent d e) : Spent c e := by
  cases h with
  | kept => exact h'
  | taken =>
    cases h'
    exact .taken

namespace Machine

structure Spent (m m' : Machine β ι ε) : Prop where
  world : m'.toWorld = m.toWorld
  gates : m'.gates = m.gates
  deliveries : m'.deliveries = m.deliveries
  size : m'.jobs.size = m.jobs.size
  phase : ∀ i, (m'.job i).phase = (m.job i).phase
  aborted : ∀ i, (m'.job i).aborted = (m.job i).aborted
  delivery : ∀ i, (m.job i).delivery.Spent (m'.job i).delivery

namespace Spent

variable {m m' m'' : Machine β ι ε} {i : Nat}

lemma refl (m : Machine β ι ε) : Spent m m :=
  ⟨rfl, rfl, rfl, rfl, fun _ => rfl, fun _ => rfl, fun _ => .kept⟩

lemma trans (h : Spent m m') (h' : Spent m' m'') : Spent m m'' where
  world := h'.world.trans h.world
  gates := h'.gates.trans h.gates
  deliveries := h'.deliveries.trans h.deliveries
  size := h'.size.trans h.size
  phase i := (h'.phase i).trans (h.phase i)
  aborted i := (h'.aborted i).trans (h.aborted i)
  delivery i := (h.delivery i).trans (h'.delivery i)

end Spent

structure Taking (is : List Nat) (m m' : Machine β ι ε) : Prop extends Spent m m' where
  others : ∀ k ∉ is, m'.job k = m.job k

def looksOnly : Wait β ι ε → Bool
  | .call .. => false
  | _ => true

def Event.consumes : Event β ι ε → Bool
  | .tryResult _ | .waitUnder .. | .joinAll _ | .joinUnordered _ => true
  | .look s => looksOnly s
  | _ => false

def takes : Wait β ι ε → List Nat
  | .completion i | .completionUnder i _ => [i]
  | .all slots => slots.map (·.1)
  | .each pending _ => pending.map (·.2)
  | .until _ | .pause .. | .ending _ | .under .. | .call .. => []

def Event.takes : Event β ι ε → List Nat
  | .tryResult i | .waitUnder i _ => [i]
  | .joinAll is | .joinUnordered is => is
  | .look s => Machine.takes s
  | .build _ | .launch .. | .alarm .. | .run _ | .abort _ | .outside _ => []

lemma map_snd_mapIdx (is : List Nat) : (is.mapIdx fun place i => (place, i)).map (·.2) = is := by
  apply List.ext_getElem?
  intro k
  cases h : is[k]? <;> simp [h]

namespace Taking

variable {is : List Nat} {m m' m'' : Machine β ι ε} {i : Nat}

lemma refl (is : List Nat) (m : Machine β ι ε) : Taking is m m :=
  ⟨.refl m, fun _ _ => rfl⟩

lemma trans (h : Taking is m m') (h' : Taking is m' m'') : Taking is m m'' :=
  ⟨h.toSpent.trans h'.toSpent, fun k hk => (h'.others k hk).trans (h.others k hk)⟩

lemma take (hi : i ∈ is) {report : Option Outcome} {order : Nat}
    (h : (m.job i).delivery = .arrived report order) :
    Taking is m (m.setJob i { m.job i with delivery := .taken }) where
  world := rfl
  gates := rfl
  deliveries := rfl
  size := size_setJob ..
  phase k := by
    rw [job_setJob]
    split
    · rename_i hk
      rw [hk.1]
    · rfl
  aborted k := by
    rw [job_setJob]
    split
    · rename_i hk
      rw [hk.1]
    · rfl
  delivery k := by
    rw [job_setJob]
    split
    · rename_i hk
      rw [hk.1, h]
      exact .taken
    · exact .kept
  others k hk := by
    rw [job_setJob, if_neg]
    rintro ⟨rfl, -⟩
    exact hk hi

lemma tryResult (m : Machine β ι ε) (hi : i ∈ is) : Taking is m (m.tryResult i).2 := by
  unfold Machine.tryResult
  split
  · exact .refl is m
  · rename_i h
    exact .take hi h
  · exact .refl is m

lemma takeResult (m : Machine β ι ε) (hi : i ∈ is) : Taking is m (m.takeResult i).2 := by
  unfold Machine.takeResult
  split
  · exact .refl is m
  · rename_i h
    exact .take hi h
  · exact .refl is m

lemma fill (m : Machine β ι ε) {slots : List (Nat × Option Outcome)}
    (h : slots.map (·.1) ⊆ is) : Taking is m (Wait.fill m slots).2 := by
  induction slots generalizing m with
  | nil => exact .refl is m
  | cons slot rest ih =>
    obtain ⟨i, r⟩ := slot
    obtain ⟨hi, hrest⟩ := List.cons_subset.1 h
    cases r with
    | some r => exact ih m hrest
    | none =>
      have htake := takeResult m hi
      unfold Wait.fill
      split <;> rename_i heq <;> rw [heq] at htake
      · exact htake
      · exact htake.trans (ih _ hrest)

lemma collect (m : Machine β ι ε) {here : List (Nat × Nat)} (h : here.map (·.2) ⊆ is)
    (arrived : List (Nat × Nat × Outcome)) : Taking is m (Wait.collect m here arrived).2 := by
  induction here generalizing m arrived with
  | nil => exact .refl is m
  | cons p rest ih =>
    obtain ⟨place, i⟩ := p
    obtain ⟨hi, hrest⟩ := List.cons_subset.1 h
    have htake := takeResult m hi
    unfold Wait.collect
    split <;> rename_i heq <;> rw [heq] at htake
    · exact htake
    · exact htake.trans (ih _ hrest _)
    · exact htake.trans (ih _ hrest _)

lemma lookEach (m : Machine β ι ε) (pending : List (Nat × Nat)) {here : List (Nat × Nat)}
    (h : here.map (·.2) ⊆ is) (arrived : List (Nat × Nat × Outcome)) :
    Taking is m (Wait.lookEach m pending here arrived).2 := by
  have hcollect := collect m h arrived
  unfold Wait.lookEach
  split <;> rename_i heq <;> rw [heq] at hcollect
  · exact hcollect
  · split <;> exact hcollect

lemma ofResult (s : Wait β ι ε) (m : Machine β ι ε) (r : Option (Except Crash Outcome)) :
    (Wait.ofResult s m r).2 = m := by
  unfold Wait.ofResult
  split <;> rfl

lemma look (work : Work β ι ε) {s : Wait β ι ε} (hs : looksOnly s = true)
    (m : Machine β ι ε) : Taking (takes s) m (s.look work m).2 := by
  cases s with
  | «until» wake =>
    simp only [Wait.look]
    split <;> exact .refl _ m
  | pause x wake =>
    simp only [Wait.look, Wait.ofPause]
    split <;> exact .refl _ m
  | ending x =>
    simp only [Wait.look]
    split <;> exact .refl _ m
  | under x wake =>
    simp only [Wait.look]
    split
    · exact .refl _ m
    · split <;> exact .refl _ m
  | call => cases hs
  | completion i =>
    simp only [Wait.look]
    rw [ofResult]
    exact .takeResult m List.mem_cons_self
  | completionUnder i x =>
    simp only [Wait.look]
    split
    · exact .refl _ m
    · rw [ofResult]
      exact .takeResult m List.mem_cons_self
  | all slots =>
    have hfill := fill m (List.Subset.refl (slots.map (·.1)))
    simp only [Wait.look]
    split <;> rename_i heq <;> rw [heq] at hfill
    · exact hfill
    · split <;> exact hfill
  | each pending arrived =>
    refine .lookEach m _ ?_ arrived
    intro k hk
    rw [((List.mergeSort_perm _ _).map _).mem_iff] at hk
    exact (List.filter_sublist.map _).subset hk

lemma consumed (work : Work β ι ε) {e : Event β ι ε} (he : e.consumes = true)
    (m : Machine β ι ε) : Taking e.takes m (m.act work e) := by
  cases e with
  | tryResult i => exact .tryResult m List.mem_cons_self
  | waitUnder i x =>
    simp only [act, waitUnder]
    split
    · exact .refl _ m
    · exact look work (s := .completionUnder i x) rfl m
  | joinAll is =>
    have hlook := look work (s := .all (is.map (·, none))) rfl m
    have hsame : (is.map fun i => (i, (none : Option Outcome))).map (·.1) = is := by
      simp [Function.comp_def]
    rwa [takes, hsame] at hlook
  | joinUnordered is =>
    refine .lookEach m _ ?_ []
    intro k hk
    rw [← map_snd_mapIdx is]
    exact (List.filter_sublist.map _).subset hk
  | look s => exact .look work he m
  | build | launch | alarm | run | abort | outside => cases he

end Taking

lemma job_takeResult {m : Machine β ι ε} {i k : Nat} (h : k ≠ i) :
    (m.takeResult i).2.job k = m.job k :=
  (Taking.takeResult m (List.mem_singleton_self i)).others k (by simpa using h)

namespace Spent

variable {m m' : Machine β ι ε} (h : Spent m m')
include h

lemma setJob (i : Nat) (j j' : Job β ι ε) (hphase : j'.phase = j.phase)
    (haborted : j'.aborted = j.aborted) (hdelivery : j.delivery.Spent j'.delivery) :
    Spent (m.setJob i j) (m'.setJob i j') where
  world := h.world
  gates := h.gates
  deliveries := h.deliveries
  size := by rw [size_setJob, size_setJob, h.size]
  phase k := by
    rw [job_setJob, job_setJob, h.size]
    split
    · exact hphase
    · exact h.phase k
  aborted k := by
    rw [job_setJob, job_setJob, h.size]
    split
    · exact haborted
    · exact h.aborted k
  delivery k := by
    rw [job_setJob, job_setJob, h.size]
    split
    · exact hdelivery
    · exact h.delivery k

lemma inWorld (w : World ε) : Spent { m with toWorld := w } { m' with toWorld := w } :=
  ⟨rfl, h.gates, h.deliveries, h.size, h.phase, h.aborted, h.delivery⟩

lemma withGates (gates : Array Gate) : Spent { m with gates } { m' with gates } :=
  ⟨h.world, rfl, h.deliveries, h.size, h.phase, h.aborted, h.delivery⟩

lemma finish (i : Nat) (report : Option Outcome) :
    Spent (m.finish i report) (m'.finish i report) := by
  have hset := h.setJob i
    { m.job i with phase := .ended, delivery := .arrived report m.deliveries }
    { m'.job i with phase := .ended, delivery := .arrived report m'.deliveries }
    rfl (h.aborted i) (by rw [h.deliveries]; exact .kept)
  exact ⟨hset.world, hset.gates, congrArg (· + 1) h.deliveries, hset.size, hset.phase,
    hset.aborted, hset.delivery⟩

lemma conclude (i : Nat) (T : Turn β ι ε) : Spent (m.conclude i T) (m'.conclude i T) := by
  have hout := (h.inWorld T.world).withGates T.gates
  unfold Machine.conclude
  split
  · exact hout
  · exact hout.setJob i _ _ rfl (h.aborted i) (h.delivery i)
  · exact hout.finish i _

lemma step (work : Work β ι ε) (i : Nat) : Spent (m.step work i) (m'.step work i) := by
  obtain ⟨T, hT, heq⟩ := step_effect work m i
  obtain ⟨T', hT', heq'⟩ := step_effect work m' i
  rw [h.world, h.gates, h.aborted, h.phase] at hT'
  obtain rfl := hT.unique hT'
  rw [heq, heq']
  exact h.conclude i T

lemma push (j : Job β ι ε) :
    Spent { m with jobs := m.jobs.push j } { m' with jobs := m'.jobs.push j } where
  world := h.world
  gates := h.gates
  deliveries := h.deliveries
  size := by rw [Array.size_push, Array.size_push, h.size]
  phase k := by
    rw [job_push, job_push, h.size]
    split
    · rfl
    · exact h.phase k
  aborted k := by
    rw [job_push, job_push, h.size]
    split
    · rfl
    · exact h.aborted k
  delivery k := by
    rw [job_push, job_push, h.size]
    split
    · exact .kept
    · exact h.delivery k

end Spent

def afterLook (work : Work β ι ε) (c : Call β ι ε) (cutoff : Option Nat) (w : World ε) : World ε :=
  match c.resume work w with
  | (.pending c, w) => if cutoff.any w.clock.passed then c.drop work w else w
  | (_, w) => w

lemma look_call (work : Work β ι ε) (c : Call β ι ε) (cutoff : Option Nat)
    (m : Machine β ι ε) :
    ((Wait.call c cutoff).look work m).2 =
      { m with toWorld := afterLook work c cutoff m.toWorld } := by
  simp only [Wait.look, onWorld, afterLook]
  obtain ⟨p, w⟩ := c.resume work m.toWorld
  cases p with
  | pending c =>
    dsimp only
    split <;> rfl
  | done | crashed => rfl

lemma Spent.act {m m' : Machine β ι ε} (h : Spent m m') (work : Work β ι ε) {e : Event β ι ε}
    (he : e.consumes = false) : Spent (m.act work e) (m'.act work e) := by
  cases e with
  | build config =>
    simp only [Machine.act]
    split
    · rw [h.gates]
      exact h.withGates _
    · exact h
  | launch gate t x =>
    simp only [Machine.act, h.gates]
    split
    · exact h.push _
    · exact h
  | alarm wake x => exact h.push _
  | run i => exact h.step work i
  | abort i => exact h.setJob i _ _ (h.phase i) rfl (h.delivery i)
  | outside w =>
    simp only [Machine.act, h.world]
    split
    · exact h.inWorld w
    · exact h
  | look s =>
    cases s with
    | call c cutoff =>
      simp only [Machine.act, look_call, h.world]
      exact h.inWorld _
    | _ => cases he
  | _ => cases he

def unwatched (es : List (Event β ι ε)) : List (Event β ι ε) := es.filter fun e => !e.consumes

lemma unwatched_skip {e : Event β ι ε} (he : e.consumes = true) (es : List (Event β ι ε)) :
    unwatched (e :: es) = unwatched es := by
  simp [unwatched, he]

lemma unwatched_keep {e : Event β ι ε} (he : e.consumes = false) (es : List (Event β ι ε)) :
    unwatched (e :: es) = e :: unwatched es := by
  simp [unwatched, he]

theorem Spent.acts {m m' : Machine β ι ε} (h : Spent m m') (work : Work β ι ε)
    (es : List (Event β ι ε)) : Spent (m.acts work (unwatched es)) (m'.acts work es) := by
  induction es generalizing m m' with
  | nil => exact h
  | cons e es ih =>
    cases he : e.consumes with
    | true =>
      rw [unwatched_skip he]
      exact ih (h.trans (Taking.consumed work he m').toSpent)
    | false =>
      rw [unwatched_keep he]
      exact ih (h.act work he)

theorem Spent.visits {m m' : Machine β ι ε} (h : Spent m m') (work : Work β ι ε) (i : Nat)
    (es : List (Event β ι ε)) :
    List.Forall₂ Spent (visits work i m (unwatched es)) (visits work i m' es) := by
  induction es generalizing m m' with
  | nil => exact .nil
  | cons e es ih =>
    rw [visits_cons work i m' e es]
    cases he : e.consumes with
    | true =>
      have hnone : Machine.visits work i m' [e] = [] := by
        cases e <;> first | rfl | cases he
      rw [unwatched_skip he, hnone]
      exact ih (h.trans (Taking.consumed work he m').toSpent)
    | false =>
      rw [unwatched_keep he, visits_cons]
      refine List.rel_append ?_ (ih (h.act work he))
      cases e with
      | run k =>
        simp only [Machine.visits, List.append_nil]
        split
        · exact .cons h .nil
        · exact .nil
      | _ => exact .nil

/-- Whether no job is launched and breakers are left alone by all but the turns of jobs. -/
def Event.Spares (work : Work β ι ε) (m : Machine β ι ε) : Event β ι ε → Prop
  | .launch .. => False
  | .run _ => True
  | e => (m.act work e).breakers = m.breakers

def Sparing (work : Work β ι ε) : Machine β ι ε → List (Event β ι ε) → Prop
  | _, [] => True
  | m, e :: es => e.Spares work m ∧ Sparing work (m.act work e) es

section

variable {work : Work β ι ε} {m m' : Machine β ι ε} {e : Event β ι ε} {es fs : List (Event β ι ε)}

lemma sparing_append :
    Sparing work m (es ++ fs) ↔ Sparing work m es ∧ Sparing work (m.acts work es) fs := by
  induction es generalizing m with
  | nil => simp [Sparing, acts]
  | cons e es ih => exact (and_congr_right fun _ => ih).trans and_assoc.symm

lemma Event.spares_of_consumes (he : e.consumes = true) (m : Machine β ι ε) :
    e.Spares work m := by
  have hsame : (m.act work e).breakers = m.breakers :=
    congrArg (·.breakers) (Taking.consumed work he m).world
  cases e with
  | launch => cases he
  | run => trivial
  | _ => exact hsame

lemma Event.Spares.of_spent (h : e.Spares work m') (hm : Spent m m') (he : e.consumes = false) :
    e.Spares work m := by
  have hbefore : m'.breakers = m.breakers := congrArg (·.breakers) hm.world
  have hafter : (m'.act work e).breakers = (m.act work e).breakers :=
    congrArg (·.breakers) (hm.act work he).world
  cases e with
  | launch => cases h
  | run => trivial
  | _ => exact hafter.symm.trans (h.trans hbefore)

lemma Sparing.unwatched (h : Sparing work m' es) (hm : Spent m m') :
    Sparing work m (Machine.unwatched es) := by
  induction es generalizing m m' with
  | nil => trivial
  | cons e es ih =>
    obtain ⟨hspares, hrest⟩ := h
    cases he : e.consumes with
    | true =>
      rw [unwatched_skip he]
      exact ih hrest (hm.trans (Taking.consumed work he m').toSpent)
    | false =>
      rw [unwatched_keep he]
      exact ⟨hspares.of_spent hm he, ih hrest (hm.act work he)⟩

end

end Machine

end Resilience
