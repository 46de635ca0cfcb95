import Resilience.Proofs.Call.Lasting
import Resilience.Proofs.Machine.Looks

namespace Resilience

namespace Machine

variable {β ι ε : Type}

structure Calm (work : Work β ι ε) (m m' : Machine β ι ε) : Prop where
  gates : m'.gates = m.gates
  size : m'.jobs.size = m.jobs.size
  phase : ∀ i, (m'.job i).phase = (m.job i).phase
  aborted : ∀ i, (m.job i).aborted = true → (m'.job i).aborted = true
  delivery : ∀ i, (m.job i).delivery.Spent (m'.job i).delivery
  lasts : work.Lasting → m.toAmbient.Keeps m'.toAmbient

inductive Deed (work : Work β ι ε) (m : Machine β ι ε) : Event β ι ε → Machine β ι ε → Prop
  | calm {e : Event β ι ε} {m' : Machine β ι ε} : (∀ i, e = .run i → m.jobs.size ≤ i) →
      (∀ i, i ∉ e.takes → (m'.job i).delivery = (m.job i).delivery) →
      Calm work m m' → Deed work m e m'
  | built {config : ExecutorConfig} {G : Gate} :
      config.validate = .ok () → config.gate = .ok (some G) →
      Deed work m (.build config) { m with gates := m.gates.push G }
  | launched {gate : Option Nat} {t : Task β ε} {x : Context} : (∀ g ∈ gate, g < m.gates.size) →
      Deed work m (.launch gate t x) (m.launch gate t x).2
  | alarmed {wake : Nat} {x : Context} : Deed work m (.alarm wake x) (m.setAlarm wake x)
  | stepped {i : Nat} {T : Turn β ι ε} : i < m.jobs.size →
      Effect work m.toWorld m.gates i (m.job i).aborted (m.job i).phase T →
      Deed work m (.run i) (m.conclude i T)

variable {work : Work β ι ε} {m m' : Machine β ι ε} {e : Event β ι ε} {i : Nat}

lemma Calm.of_spent (work : Work β ι ε) (h : Spent m m') : Calm work m m' where
  gates := h.gates
  size := h.size
  phase := h.phase
  aborted i ha := (h.aborted i).trans ha
  delivery := h.delivery
  lasts _ := .of_eq (congrArg (·.cancellation) h.world)

lemma Calm.inWorld (m : Machine β ι ε) {w : World ε}
    (hw : work.Lasting → m.toAmbient.Keeps w.toAmbient) :
    Calm work m { m with toWorld := w } where
  gates := rfl
  size := rfl
  phase _ := rfl
  aborted _ := id
  delivery _ := .kept
  lasts := hw

lemma Calm.abort (m : Machine β ι ε) (k : Nat) : Calm work m (m.abort k) := by
  have hjob (i : Nat) : (m.abort k).job i = m.job i ∨
      (m.abort k).job i = { m.job i with aborted := true } := by
    rw [Machine.abort, job_setJob]
    split
    · rename_i hk
      exact .inr (hk.1 ▸ rfl)
    · exact .inl rfl
  refine ⟨rfl, size_setJob .., fun i => ?_, fun i ha => ?_, fun i => ?_, fun _ => .refl _⟩
  · rcases hjob i with h | h <;> rw [h]
  · rcases hjob i with h | h <;> rw [h]
    exact ha
  · rcases hjob i with h | h <;> rw [h] <;> exact .kept

lemma afterLook_lasts (hwork : work.Lasting) (c : Call β ι ε) (cutoff : Option Nat)
    (w : World ε) : w.Keeps (afterLook work c cutoff w).toAmbient := by
  have hresume := Call.resume_lasts hwork c w
  unfold afterLook
  split <;> rename_i hstep <;> rw [hstep] at hresume
  · split
    · exact hresume.trans (Call.drop_lasts hwork _ _)
    · exact hresume
  · exact hresume

theorem act_deed (work : Work β ι ε) (m : Machine β ι ε) (e : Event β ι ε) :
    Deed work m e (m.act work e) := by
  cases hc : e.consumes with
  | true =>
    have htaking := Taking.consumed work hc m
    refine .calm ?_ ?_ (.of_spent work htaking.toSpent)
    · rintro i rfl
      cases hc
    · intro i hi
      rw [htaking.others i hi]
  | false =>
    cases e with
    | build config =>
      simp only [act]
      split
      · rename_i hvalid hgate
        exact .built hvalid hgate
      · exact .calm (by simp) (fun _ _ => rfl) (.of_spent work (.refl m))
    | launch gate t x =>
      simp only [act]
      split
      · rename_i hgate
        refine .launched ?_
        rintro g ⟨⟩
        simpa using hgate
      · exact .calm (by simp) (fun _ _ => rfl) (.of_spent work (.refl m))
    | alarm wake x => exact .alarmed
    | run i =>
      by_cases hi : i < m.jobs.size
      · obtain ⟨T, hT, heq⟩ := step_effect work m i
        simp only [act, heq]
        exact .stepped hi hT
      · have hi := Nat.le_of_not_lt hi
        simp only [act, step_eq_self m i work hi]
        refine .calm ?_ (fun _ _ => rfl) (.of_spent work (.refl m))
        rintro k ⟨⟩
        exact hi
    | abort i =>
      refine .calm (by simp) (fun k _ => ?_) (.abort m i)
      simp only [act, abort, job_setJob]
      split
      · rename_i hk
        rw [hk.1]
      · rfl
    | outside w =>
      simp only [act]
      split
      · rename_i hw
        exact .calm (by simp) (fun _ _ => rfl) (.inWorld m fun _ => hw)
      · exact .calm (by simp) (fun _ _ => rfl) (.of_spent work (.refl m))
    | look s =>
      cases s with
      | call c cutoff =>
        simp only [act, look_call]
        exact .calm (by simp) (fun _ _ => rfl)
          (.inWorld m fun hwork => afterLook_lasts hwork c cutoff m.toWorld)
      | _ => cases hc
    | _ => cases hc

lemma Effect.lasts {w : World ε} {gates : Array Gate} {a : Bool} {p : Phase β ι ε}
    {T : Turn β ι ε} (h : Effect work w gates i a p T) (hwork : work.Lasting) :
    w.Keeps T.world.toAmbient := by
  cases h with
  | cut => exact Call.drop_lasts hwork _ w
  | rang => exact .cancel _ _
  | @ran _ _ _ s henters =>
    have hs : w.Keeps s.2.toAmbient := by
      cases henters with
      | resumed => exact Call.resume_lasts hwork _ w
      | _ => exact Call.ofTask_lasts hwork _ _ w
    obtain ⟨q, v⟩ := s
    cases q <;> exact hs
  | _ => exact .refl _

namespace Deed

lemma lasts (h : Deed work m e m') (hwork : work.Lasting) :
    m.toAmbient.Keeps m'.toAmbient := by
  cases h with
  | calm _ _ h => exact h.lasts hwork
  | built | launched | alarmed => exact .refl _
  | stepped _ hT =>
    have := hT.lasts hwork
    rwa [← toWorld_conclude m] at this

lemma size_le (h : Deed work m e m') : m.jobs.size ≤ m'.jobs.size := by
  cases h with
  | calm _ _ h => exact Nat.le_of_eq h.size.symm
  | built => exact Nat.le_refl _
  | launched | alarmed => exact Nat.le_of_lt (by simp [launch, setAlarm])
  | stepped => exact Nat.le_of_eq (size_conclude ..).symm

lemma beside (h : Deed work m e m') (hi : i < m.jobs.size) (he : ∀ k, e = .run k → k ≠ i) :
    (m'.job i).phase = (m.job i).phase ∧
      ((m.job i).aborted = true → (m'.job i).aborted = true) ∧
      (m.job i).delivery.Spent (m'.job i).delivery := by
  have hsame (h : m'.job i = m.job i) : (m'.job i).phase = (m.job i).phase ∧
      ((m.job i).aborted = true → (m'.job i).aborted = true) ∧
      (m.job i).delivery.Spent (m'.job i).delivery := by
    rw [h]
    exact ⟨rfl, id, .kept⟩
  cases h with
  | calm _ _ h => exact ⟨h.phase i, h.aborted i, h.delivery i⟩
  | built => exact ⟨rfl, id, .kept⟩
  | launched | alarmed =>
    apply hsame
    exact (job_push ..).trans (if_neg (Nat.ne_of_lt hi))
  | stepped hk =>
    apply hsame
    exact (job_conclude _ _ _ _ hk).trans (if_neg (Ne.symm (he _ rfl)))

lemma not_taken (h : Deed work m e m') (hi : i < m.jobs.size) (he : i ∉ e.takes)
    (hd : (m.job i).delivery ≠ .taken) : (m'.job i).delivery ≠ .taken := by
  cases h with
  | calm _ hsame _ =>
    rw [hsame i he]
    exact hd
  | built => exact hd
  | launched | alarmed =>
    have hjob : ∀ j, (job { m with jobs := m.jobs.push j } i) = m.job i := fun j =>
      (job_push ..).trans (if_neg (Nat.ne_of_lt hi))
    intro ht
    exact hd ((congrArg (·.delivery) (hjob _)).symm.trans ht)
  | @stepped k T hk hT =>
    rw [job_conclude _ _ _ _ hk]
    split
    · rename_i hik
      subst hik
      cases T.next with
      | stays | becomes => exact hd
      | ends => exact nofun
    · exact hd

end Deed

end Machine

end Resilience
