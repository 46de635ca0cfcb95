import Resilience.Proofs.Machine.Permits

namespace Resilience

variable {β ι ε : Type}

namespace Machine

section

variable {work : Work β ι ε} {m : Machine β ι ε} {w : World ε} {gates : Array Gate} {i g c : Nat}

lemma mem_holders : i ∈ m.holders g ↔ (m.standings g)[i]? = some .holding := by
  rw [getElem?_standings]
  simp [holders]

lemma Balanced.others_lt (work : Work β ι ε) (h : m.Balanced g c) (hpolls : m.polls i = true)
    (hgate : (m.job i).phase.gate? = some g) : ((m.holders g).erase i).length < c := by
  obtain ⟨-, gate, gates', s, henters⟩ := exists_enters work hpolls
  have hi : i < m.jobs.size := by
    by_contra hi
    rw [job_eq_default m i (Nat.le_of_not_lt hi)] at hgate
    cases hgate
  have hin : (m.standings g)[i]? = some ((m.job i).phase.standing g) := by
    rw [getElem?_standings, if_pos hi]
  have hsame : gate = some g := by
    generalize (m.job i).phase = p at henters hgate
    cases henters with
    | free => cases hgate
    | granted | accepted | resumed => exact hgate
  have hledger := henters.ledger h.built hin h.ledger
  rw [if_pos hsame] at hledger
  have hle := hledger.count_le
  have hcount := count_set_standing hin .holding
  rw [count_standings] at hcount
  by_cases hmem : i ∈ m.holders g
  · have hpos := List.length_pos_of_mem hmem
    have hstanding : (m.job i).phase.standing g = .holding := by
      rw [mem_holders, hin] at hmem
      exact Option.some.inj hmem
    rw [List.length_erase_of_mem hmem]
    simp only [hstanding, if_true] at hcount
    omega
  · have hstanding : (m.job i).phase.standing g ≠ .holding := by
      intro hs
      exact hmem (mem_holders.2 (hin.trans (congrArg some hs)))
    rw [List.erase_of_not_mem hmem]
    simp only [hstanding, if_false, if_true] at hcount
    omega

/-- A job that has ended, or has yet to get a permit and is aborted or cancelled. -/
def Barred (work : Work β ι ε) (m : Machine β ι ε) (i : Nat) : Prop :=
  (m.job i).phase = .ended ∨ ∃ x ∈ (m.job i).phase.awaiting,
    (m.job i).aborted = true ∨ work.Lasting ∧ m.cancellation.isCancelled x.token = true

lemma err_of_isCancelled {a : Ambient ε} {x : Context}
    (h : a.cancellation.isCancelled x.token = true) : a.err x = some .cancelled := by
  simp [Ambient.err, Context.err, h]

lemma noticed_of_isCancelled {a : Ambient ε} {x : Context}
    (h : a.cancellation.isCancelled x.token = true) : a.noticed x = some .cancelled := by
  simp [Ambient.noticed, Context.noticed, h]

lemma Enters.not_cancelled {p : Phase β ι ε} {gate : Option Nat} {gates' : Array Gate}
    {s : Call.Step β ι ε} (h : Enters work w gates i p gate gates' s) :
    ∀ x ∈ p.awaiting, w.cancellation.isCancelled x.token ≠ true := by
  cases h with
  | free | resumed => exact nofun
  | granted he _ =>
    rintro x ⟨⟩ hx
    rw [err_of_isCancelled hx] at he
    cases he
  | accepted hn _ =>
    rintro x ⟨⟩ hx
    rw [noticed_of_isCancelled hx] at hn
    cases hn

lemma Effect.barred {a : Bool} {p : Phase β ι ε} {T : Turn β ι ε}
    (h : Effect work w gates i a p T)
    (hb : p = .ended ∨ ∃ x ∈ p.awaiting,
      a = true ∨ w.cancellation.isCancelled x.token = true) (j : Job β ι ε) (order : Nat)
    (hj : j.phase = p) : (T.next.apply j order).phase = .ended := by
  cases h with
  | past => exact hj
  | dropped | silenced | left | cut | refused | gaveUp | rang => rfl
  | queued he _ =>
    rcases hb with hb | ⟨y, ⟨⟩, ha | hc⟩
    · cases hb
    · cases ha
    · rw [err_of_isCancelled hc] at he
      cases he
  | waits hn _ =>
    rcases hb with hb | ⟨y, ⟨⟩, ha | hc⟩
    · cases hb
    · cases ha
    · rw [noticed_of_isCancelled hc] at hn
      cases hn
  | ran henters =>
    rcases hb with hb | ⟨y, hy, ha | hc⟩
    · exact absurd hb henters.ne_ended
    · cases ha
    · exact absurd hc (henters.not_cancelled y hy)
  | sleeps =>
    rcases hb with hb | ⟨y, hy, _⟩
    · cases hb
    · cases hy

namespace Barred

lemma polls (h : Barred work m i) : m.polls i = false := by
  rw [Bool.eq_false_iff]
  intro hpolls
  obtain ⟨ha, gate, gates', s, henters⟩ := exists_enters work hpolls
  rcases h with h | ⟨x, hx, h | ⟨-, hc⟩⟩
  · exact henters.ne_ended h
  · rw [ha] at h
    cases h
  · exact henters.not_cancelled x hx hc

lemma act (h : Barred work m i) (hi : i < m.jobs.size) (e : Event β ι ε) :
    Barred work (m.act work e) i := by
  have hd := act_deed work m e
  by_cases he : ∀ k, e = .run k → k ≠ i
  · obtain ⟨hphase, haborted, -⟩ := hd.beside hi he
    unfold Barred
    rw [hphase]
    rcases h with h | ⟨x, hx, ha | ⟨hwork, hc⟩⟩
    · exact .inl h
    · exact .inr ⟨x, hx, .inl (haborted ha)⟩
    · exact .inr ⟨x, hx, .inr ⟨hwork, (hd.lasts hwork).isCancelled hc⟩⟩
  · push Not at he
    obtain ⟨k, rfl, rfl⟩ := he
    obtain ⟨T, hT, heq⟩ := step_effect work m k
    left
    simp only [Machine.act, heq, job_conclude m k k T hi, if_true]
    refine hT.barred ?_ _ _ rfl
    rcases h with h | ⟨x, hx, ha | ⟨-, hc⟩⟩
    · exact .inl h
    · exact .inr ⟨x, hx, .inl ha⟩
    · exact .inr ⟨x, hx, .inr hc⟩

lemma bodyWorlds_visits (h : Barred work m i) (hi : i < m.jobs.size) (es : List (Event β ι ε)) :
    bodyWorlds i (visits work i m es) = [] := by
  induction es generalizing m with
  | nil => rfl
  | cons e es ih =>
    have hrest := ih (h.act hi e)
      (Nat.lt_of_lt_of_le hi (act_deed work m e).size_le)
    rw [visits_cons]
    have hfirst : ∀ v ∈ visits work i m [e], v.polls i = false := by
      cases e with
      | run k =>
        simp only [visits, List.append_nil]
        split
        · simpa using h.polls
        · simp
      | _ => simp [visits]
    rw [bodyWorlds, List.filter_append, List.filter_eq_nil_iff.2 (by simpa using hfirst)]
    exact hrest

end Barred

end

structure Capped (work : Work β ι ε) (m : Machine β ι ε) (g c : Nat) : Prop where
  holders_le : (m.holders g).length ≤ c
  /-- Within the turn of a job, too. -/
  others_lt : ∀ i, m.polls i = true → (m.job i).phase.gate? = some g →
    ((m.holders g).erase i).length < c
  conserved : (m.gate g).free + (m.holders g).length + (m.gate g).handed.length = c
  handed : (m.gate g).handed.Nodup ∧
    ∀ i ∈ (m.gate g).handed, ∃ t x, (m.job i).phase = .queued g t x
  all_free : (∀ i, (m.job i).phase.gate? ≠ some g) → (m.gate g).free = c
  aborted_never_begins : ∀ i x, (m.job i).phase.awaiting = some x → (m.job i).aborted = true →
    ∀ es, bodyWorlds i (visits work i m es) = []
  cancelled_never_begins : ∀ i x, (m.job i).phase.awaiting = some x →
    m.cancellation.isCancelled x.token = true → work.Lasting →
    ∀ es, bodyWorlds i (visits work i m es) = []

lemma lt_size_of_awaiting {m : Machine β ι ε} {i : Nat} {x : Context}
    (h : (m.job i).phase.awaiting = some x) : i < m.jobs.size := by
  by_contra hi
  rw [job_eq_default m i (Nat.le_of_not_lt hi)] at h
  cases h

lemma Balanced.capped (work : Work β ι ε) {m : Machine β ι ε} {g c : Nat} (h : m.Balanced g c) :
    m.Capped work g c where
  holders_le := count_standings m g ▸ h.ledger.count_le
  others_lt _ := h.others_lt work
  conserved := count_standings m g ▸ h.ledger.conserved
  handed := by
    refine ⟨List.Nodup.of_append_right h.ledger.nodup, ?_⟩
    intro i hi
    have hq := (h.ledger.mem_iff i).1 (List.mem_append_right _ hi)
    rw [getElem?_standings] at hq
    split at hq
    · exact standing_eq_queued (Option.some.inj hq)
    · cases hq
  all_free hlive := by
    apply h.ledger.free_eq
    intro s hs
    obtain ⟨i, -, rfl⟩ := List.mem_map.1 hs
    exact standing_eq_idle (hlive i)
  aborted_never_begins i x hx ha es :=
    Barred.bodyWorlds_visits (.inr ⟨x, hx, .inl ha⟩) (lt_size_of_awaiting hx) es
  cancelled_never_begins i x hx hc hwork es :=
    Barred.bodyWorlds_visits (.inr ⟨x, hx, .inr ⟨hwork, hc⟩⟩) (lt_size_of_awaiting hx) es

/-- An executor that has been built with a cap keeps to it in every schedule. A completion that is
dropped is no event. -/
theorem built_gate_is_capped (work : Work β ι ε) (w : World ε) (before after : List (Event β ι ε))
    (config : ExecutorConfig) (cap : UInt64) (G : Gate) (hcap : config.maxConcurrency = some cap)
    (hvalid : config.validate = .ok ()) (hgate : config.gate = .ok (some G)) :
    ((idle w).acts work (before ++ .build config :: after)).Capped work
      ((idle w).acts work before).gates.size cap.toNat := by
  apply Balanced.capped
  rw [acts_append]
  have hbuilt := ((housed_idle w).acts work before).build work hcap hvalid hgate
  exact hbuilt.acts work after

/-- The second of two tasks is queued; when the first one ends, its permit is set aside for the
second, whose context has just been cancelled. -/
def handover : List (Event Unit Unit Unit) :=
  [.build { maxConcurrency := some 1 }, .launch (some 0) (.ofBody "first" ()) ⟨⟨0, []⟩, none⟩,
    .launch (some 0) (.ofBody "second" ()) ⟨⟨1, []⟩, none⟩, .run 0, .run 1, .run 0,
    .outside { quiet with cancellation := quiet.cancellation.cancel ⟨1, []⟩ }]

theorem permit_set_aside_for_a_cancelled_task :
    dozing.Lasting ∧ ((idle quiet).acts dozing handover).Capped dozing 0 1 ∧
      (((idle quiet).acts dozing handover).gate 0).handed = [1] ∧
      (((idle quiet).acts dozing handover).job 1).phase.awaiting = some ⟨⟨1, []⟩, none⟩ ∧
      (((idle quiet).acts dozing (handover ++ [.run 1])).gate 0).free = 1 := by
  refine ⟨⟨fun _ _ a => .refl a, fun _ a => .refl a, fun _ a => .refl a⟩, ?_, ?_, ?_, ?_⟩
  · exact built_gate_is_capped dozing quiet [] _ { maxConcurrency := some 1 } 1 _ rfl rfl rfl
  all_goals decide +kernel

end Machine

end Resilience
