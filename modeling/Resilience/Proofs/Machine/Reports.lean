import Mathlib.Data.List.Induction
import Resilience.Proofs.Call.Run
import Resilience.Proofs.Machine.Deeds

namespace Resilience

namespace Machine

variable {β ι ε : Type}

inductive Fate (work : Work β ι ε) (t : Task β ε) (x : Context) (i : Nat)
    (vs : List (Machine β ι ε)) : Option Outcome → Prop
  | returned {w : World ε} {ws : List (World ε)} {r : Outcome} {v : World ε} :
      bodyWorlds i vs = w :: ws →
      Call.Run work Call.anyone (Call.ofTask work t x w) ws (.done r, v) →
      Fate work t x i vs (some r)
  | crashed {w : World ε} {ws : List (World ε)} {k : Crash} {v : World ε} :
      bodyWorlds i vs = w :: ws →
      Call.Run work Call.anyone (Call.ofTask work t x w) ws (.crashed k, v) →
      Fate work t x i vs none
  | gaveUp {m : Machine β ι ε} {r : Reason} : m ∈ vs → (m.job i).aborted = false →
      m.waitEnds i = some r → m.err x = some r → Fate work t x i vs (some (Call.cancelled r))
  | aborted {m : Machine β ι ε} : m ∈ vs → (m.job i).aborted = true →
      (m.job i).phase ≠ .ended → Fate work t x i vs none

/-- The turns so far have not ended the job: its body has not begun, or waits for something. -/
structure Open (work : Work β ι ε) (t : Task β ε) (x : Context) (i : Nat)
    (vs : List (Machine β ι ε)) : Prop where
  aborted : ∀ m ∈ vs, (m.job i).aborted = false
  waiting : ∀ m ∈ vs, m.waitEnds i = none
  body : bodyWorlds i vs = [] ∨ ∃ w ws c v, bodyWorlds i vs = w :: ws ∧
    Call.Run work Call.anyone (Call.ofTask work t x w) ws (.pending c, v)

section

variable {work : Work β ι ε} {t : Task β ε} {x : Context} {i : Nat} {vs : List (Machine β ι ε)}
  {m : Machine β ι ε} {report : Option Outcome}

lemma bodyWorlds_snoc_of_polls (h : m.polls i = true) :
    bodyWorlds i (vs ++ [m]) = bodyWorlds i vs ++ [m.toWorld] := by
  simp [bodyWorlds, h]

lemma bodyWorlds_snoc_of_not_polls (vs : List (Machine β ι ε)) (h : m.polls i = false) :
    bodyWorlds i (vs ++ [m]) = bodyWorlds i vs := by
  simp [bodyWorlds, h]

lemma polls_of_ended (h : (m.job i).phase = .ended) : m.polls i = false := by
  simp [polls, h]

lemma polls_of_aborted (h : (m.job i).aborted = true) : m.polls i = false := by
  simp [polls, h]

lemma waitEnds_of_polls (h : m.polls i = true) : m.waitEnds i = none := by
  unfold polls at h
  unfold waitEnds
  split <;> simp_all

lemma polls_of_waitEnds {r : Reason} (h : m.waitEnds i = some r) : m.polls i = false := by
  rw [Bool.eq_false_iff]
  intro hpolls
  rw [waitEnds_of_polls hpolls] at h
  cases h

lemma Open.pending (h : Open work t x i vs) {w : World ε} {ws : List (World ε)}
    (hw : bodyWorlds i vs = w :: ws) :
    ∃ c v, Call.Run work Call.anyone (Call.ofTask work t x w) ws (.pending c, v) := by
  rcases h.body with hnil | ⟨w', ws', c, v, hcons, hrun⟩
  · rw [hnil] at hw
    cases hw
  · rw [hcons] at hw
    obtain ⟨rfl, rfl⟩ := List.cons.inj hw
    exact ⟨c, v, hrun⟩

lemma Open.not_fate (h : Open work t x i vs) : ¬Fate work t x i vs report := by
  intro hf
  cases hf with
  | returned hw hrun =>
    obtain ⟨c, v, hrun'⟩ := h.pending hw
    cases hrun.unique hrun'
  | crashed hw hrun =>
    obtain ⟨c, v, hrun'⟩ := h.pending hw
    cases hrun.unique hrun'
  | gaveUp hmem _ hr =>
    rw [h.waiting _ hmem] at hr
    cases hr
  | aborted hmem ha _ =>
    rw [h.aborted _ hmem] at ha
    cases ha

lemma Open.fate_snoc (h : Open work t x i vs) (hm : m.polls i = false)
    (hf : Fate work t x i (vs ++ [m]) report) :
    (m.job i).aborted = true ∧ (m.job i).phase ≠ .ended ∧ report = none ∨
      (m.job i).aborted = false ∧ ∃ r, m.waitEnds i = some r ∧ report = some (Call.cancelled r) := by
  have hsame := bodyWorlds_snoc_of_not_polls vs hm
  cases hf with
  | returned hw hrun => exact absurd (.returned (hsame ▸ hw) hrun) h.not_fate
  | crashed hw hrun => exact absurd (.crashed (hsame ▸ hw) hrun) h.not_fate
  | gaveUp hmem ha hr he =>
    rcases List.mem_append.1 hmem with hold | hnew
    · exact absurd (.gaveUp hold ha hr he) h.not_fate
    · obtain rfl := List.mem_singleton.1 hnew
      exact .inr ⟨ha, _, hr, rfl⟩
  | aborted hmem ha hp =>
    rcases List.mem_append.1 hmem with hold | hnew
    · exact absurd (.aborted hold ha hp) h.not_fate
    · obtain rfl := List.mem_singleton.1 hnew
      exact .inl ⟨ha, hp, rfl⟩

lemma Open.fate_of_run (h : Open work t x i vs) (hm : m.polls i = true) {w : World ε}
    {ws : List (World ε)} {s : Call.Step β ι ε} (hw : bodyWorlds i (vs ++ [m]) = w :: ws)
    (hrun : Call.Run work Call.anyone (Call.ofTask work t x w) ws s)
    (hf : Fate work t x i (vs ++ [m]) report) :
    (∃ r, s.1 = .done r ∧ report = some r) ∨ ∃ k, s.1 = .crashed k ∧ report = none := by
  cases hf with
  | returned hw' hrun' =>
    rw [hw] at hw'
    obtain ⟨rfl, rfl⟩ := List.cons.inj hw'
    rw [hrun.unique hrun']
    exact .inl ⟨_, rfl, rfl⟩
  | crashed hw' hrun' =>
    rw [hw] at hw'
    obtain ⟨rfl, rfl⟩ := List.cons.inj hw'
    rw [hrun.unique hrun']
    exact .inr ⟨_, rfl, rfl⟩
  | gaveUp hmem ha hr he =>
    rcases List.mem_append.1 hmem with hold | hnew
    · exact absurd (.gaveUp hold ha hr he) h.not_fate
    · obtain rfl := List.mem_singleton.1 hnew
      rw [waitEnds_of_polls hm] at hr
      cases hr
  | aborted hmem ha hp =>
    rcases List.mem_append.1 hmem with hold | hnew
    · exact absurd (.aborted hold ha hp) h.not_fate
    · obtain rfl := List.mem_singleton.1 hnew
      rw [polls_of_aborted ha] at hm
      cases hm

lemma fate_snoc_of_ended (h : (m.job i).phase = .ended) :
    Fate work t x i (vs ++ [m]) report ↔ Fate work t x i vs report := by
  have hbody := bodyWorlds_snoc_of_not_polls vs (polls_of_ended h)
  constructor
  · intro hf
    cases hf with
    | returned hw hrun => exact .returned (hbody ▸ hw) hrun
    | crashed hw hrun => exact .crashed (hbody ▸ hw) hrun
    | gaveUp hmem ha hr he =>
      rcases List.mem_append.1 hmem with hold | hnew
      · exact .gaveUp hold ha hr he
      · obtain rfl := List.mem_singleton.1 hnew
        simp [waitEnds, h] at hr
    | aborted hmem ha hp =>
      rcases List.mem_append.1 hmem with hold | hnew
      · exact .aborted hold ha hp
      · obtain rfl := List.mem_singleton.1 hnew
        exact absurd h hp
  · intro hf
    cases hf with
    | returned hw hrun => exact .returned (hbody ▸ hw) hrun
    | crashed hw hrun => exact .crashed (hbody ▸ hw) hrun
    | gaveUp hmem ha hr he => exact .gaveUp (List.mem_append_left _ hmem) ha hr he
    | aborted hmem ha hp => exact .aborted (List.mem_append_left _ hmem) ha hp

end

inductive Lives (work : Work β ι ε) (t : Task β ε) (x : Context) (i : Nat)
    (vs : List (Machine β ι ε)) : Phase β ι ε → Delivery → Prop
  | launched {gate : Option Nat} : Open work t x i vs → bodyWorlds i vs = [] →
      Lives work t x i vs (.launched gate t x) .awaited
  | queued {g : Nat} : Open work t x i vs → bodyWorlds i vs = [] →
      Lives work t x i vs (.queued g t x) .awaited
  | running {gate : Option Nat} {c : Call β ι ε} {w : World ε} {ws : List (World ε)}
      {v : World ε} : Open work t x i vs → bodyWorlds i vs = w :: ws →
      Call.Run work Call.anyone (Call.ofTask work t x w) ws (.pending c, v) →
      Lives work t x i vs (.running gate c) .awaited
  | ended {report : Option Outcome} {d : Delivery} : Fate work t x i vs report →
      (∀ r, Fate work t x i vs r → r = report) → (d = .taken ∨ ∃ n, d = .arrived report n) →
      Lives work t x i vs .ended d

section

variable {work : Work β ι ε} {t : Task β ε} {x : Context} {i : Nat} {vs : List (Machine β ι ε)}
  {m : Machine β ι ε} {p : Phase β ι ε} {d : Delivery} {gate : Option Nat} {gates' : Array Gate}
  {s : Call.Step β ι ε} {report : Option Outcome} {order : Nat}

lemma Lives.open (h : Lives work t x i vs p d) (hp : p ≠ .ended) : Open work t x i vs := by
  cases h with
  | launched hopen | queued hopen | running hopen => exact hopen
  | ended => exact absurd rfl hp

lemma Open.snoc (h : Open work t x i vs) (ha : (m.job i).aborted = false)
    (hw : m.waitEnds i = none) (hbody : bodyWorlds i (vs ++ [m]) = [] ∨ ∃ w ws c v,
      bodyWorlds i (vs ++ [m]) = w :: ws ∧
        Call.Run work Call.anyone (Call.ofTask work t x w) ws (.pending c, v)) :
    Open work t x i (vs ++ [m]) where
  aborted := by
    rw [List.forall_mem_append]
    exact ⟨h.aborted, by simpa using ha⟩
  waiting := by
    rw [List.forall_mem_append]
    exact ⟨h.waiting, by simpa using hw⟩
  body := hbody

lemma Lives.run_of_enters (h : Lives work t x i vs p d) (hp : (m.job i).phase = p)
    (ha : (m.job i).aborted = false)
    (henters : Enters work m.toWorld m.gates i p gate gates' s) :
    ∃ w ws, bodyWorlds i (vs ++ [m]) = w :: ws ∧
      Call.Run work Call.anyone (Call.ofTask work t x w) ws s := by
  have hpolls : m.polls i = true := (hp ▸ henters).polls ha
  rw [bodyWorlds_snoc_of_polls hpolls]
  -- Only a body that had been running goes on; for all others this is its first world.
  cases henters with
  | free | granted =>
    cases h with
    | launched _ hnil => exact ⟨m.toWorld, [], by rw [hnil]; rfl, .begun⟩
  | accepted =>
    cases h with
    | queued _ hnil => exact ⟨m.toWorld, [], by rw [hnil]; rfl, .begun⟩
  | resumed =>
    cases h with
    | running _ hcons hrun =>
      exact ⟨_, _, by rw [hcons]; rfl, hrun.resumed m.toWorld trivial⟩

section

variable (h : Open work t x i vs)
include h

lemma Open.killed (ha : (m.job i).aborted = true) (hp : (m.job i).phase ≠ .ended) :
    Lives work t x i (vs ++ [m]) .ended (.arrived none order) := by
  refine .ended (.aborted (by simp) ha hp) ?_ (.inr ⟨order, rfl⟩)
  intro r hr
  rcases h.fate_snoc (polls_of_aborted ha) hr with ⟨-, -, hr⟩ | ⟨ha', -⟩
  · exact hr
  · rw [ha] at ha'
    cases ha'

lemma Open.waited {r : Reason} (ha : (m.job i).aborted = false) (hr : m.waitEnds i = some r)
    (he : m.err x = some r) :
    Lives work t x i (vs ++ [m]) .ended (.arrived (some (Call.cancelled r)) order) := by
  refine .ended (.gaveUp (by simp) ha hr he) ?_ (.inr ⟨order, rfl⟩)
  intro q hq
  rcases h.fate_snoc (polls_of_waitEnds hr) hq with ⟨ha', -⟩ | ⟨-, r', hr', hq⟩
  · rw [ha] at ha'
    cases ha'
  · rw [hr] at hr'
    cases hr'
    exact hq

lemma Open.queued {g : Nat} (hnil : bodyWorlds i vs = []) (ha : (m.job i).aborted = false)
    (hw : m.waitEnds i = none) (hpolls : m.polls i = false) :
    Lives work t x i (vs ++ [m]) (.queued g t x) .awaited := by
  have hnil' := (bodyWorlds_snoc_of_not_polls vs hpolls).trans hnil
  exact .queued (h.snoc ha hw (.inl hnil')) hnil'

lemma Open.ran {T : Turn β ι ε} (ha : (m.job i).aborted = false) (hpolls : m.polls i = true)
    (hd : (m.job i).delivery = .awaited) {w : World ε} {ws : List (World ε)}
    (hbody : bodyWorlds i (vs ++ [m]) = w :: ws)
    (hrun : Call.Run work Call.anyone (Call.ofTask work t x w) ws s)
    (hT : T = .ofStep gate gates' s) :
    Lives work t x i (vs ++ [m]) (T.next.apply (m.job i) order).phase
      (T.next.apply (m.job i) order).delivery := by
  have hdecide {r : Option Outcome} (hr : Fate work t x i (vs ++ [m]) r) :=
    h.fate_of_run hpolls hbody hrun hr
  subst hT
  obtain ⟨q, v⟩ := s
  cases q with
  | pending c =>
    have hnext := h.snoc ha (waitEnds_of_polls hpolls) (.inr ⟨w, ws, c, v, hbody, hrun⟩)
    simp only [Turn.ofStep, Next.apply, hd]
    exact .running hnext hbody hrun
  | done r =>
    refine .ended (.returned hbody hrun) ?_ (.inr ⟨order, rfl⟩)
    intro r' hr'
    rcases hdecide hr' with ⟨_, ⟨⟩, hr'⟩ | ⟨_, ⟨⟩, _⟩
    exact hr'
  | crashed k =>
    refine .ended (.crashed hbody hrun) ?_ (.inr ⟨order, rfl⟩)
    intro r' hr'
    rcases hdecide hr' with ⟨_, ⟨⟩, _⟩ | ⟨_, ⟨⟩, hr'⟩
    exact hr'

end

lemma Lives.delivery (h : Lives work t x i vs p d) (hp : p ≠ .ended) : d = .awaited := by
  cases h with
  | launched | queued | running => rfl
  | ended => exact absurd rfl hp

lemma Lives.turn {T : Turn β ι ε}
    (h : Lives work t x i vs (m.job i).phase (m.job i).delivery)
    (hT : Effect work m.toWorld m.gates i (m.job i).aborted (m.job i).phase T) :
    Lives work t x i (vs ++ [m]) (T.next.apply (m.job i) order).phase
      (T.next.apply (m.job i) order).delivery := by
  generalize hp : (m.job i).phase = p at h hT
  generalize ha : (m.job i).aborted = a at hT
  generalize hd : (m.job i).delivery = d at h
  cases hT with
  | past =>
    cases h with
    | ended hf hu hplace =>
      have hiff (r : Option Outcome) :
          Fate work t x i (vs ++ [m]) r ↔ Fate work t x i vs r := fate_snoc_of_ended hp
      rw [Next.apply, hp, hd]
      exact .ended ((hiff _).2 hf) (fun r hr => hu r ((hiff r).1 hr)) hplace
  | dropped | left | cut => exact (h.open nofun).killed ha (by simp [hp])
  | silenced | rang | sleeps => cases h
  | @refused g _ _ r he =>
    cases h with
    | launched hopen _ => exact hopen.waited ha (by simpa [waitEnds, hp] using he) he
  | @gaveUp g _ _ r hn =>
    cases h with
    | queued hopen _ =>
      exact hopen.waited ha (by simpa [waitEnds, hp] using hn) (Context.err_of_noticed hn)
  | @queued g _ _ he hfree =>
    cases h with
    | launched hopen hnil =>
      have hfree : (m.gate g).free = 0 := hfree
      rw [Next.apply, hd]
      exact hopen.queued hnil ha (by simpa [waitEnds, hp] using he) (by simp [polls, hp, hfree])
  | @waits g _ _ hn hnot =>
    cases h with
    | queued hopen hnil =>
      have hnot : i ∉ (m.gate g).handed := hnot
      rw [Next.apply, hp, hd]
      exact hopen.queued hnil ha (by simpa [waitEnds, hp] using hn) (by simp [polls, hp, hnot])
  | @ran _ gate gates' s henters =>
    obtain ⟨w, ws, hbody, hrun⟩ := h.run_of_enters hp ha henters
    have hawaited := hd.trans (h.delivery henters.ne_ended)
    exact (h.open henters.ne_ended).ran ha ((hp ▸ henters).polls ha) hawaited hbody hrun rfl

lemma Lives.spent (h : Lives work t x i vs p d) {d' : Delivery} (hd : d.Spent d') :
    Lives work t x i vs p d' := by
  cases hd with
  | kept => exact h
  | taken =>
    cases h with
    | ended hf hu _ => exact .ended hf hu (.inl rfl)

lemma Lives.act (h : Lives work t x i vs (m.job i).phase (m.job i).delivery)
    (hi : i < m.jobs.size) (e : Event β ι ε) :
    Lives work t x i (vs ++ visits work i m [e]) ((m.act work e).job i).phase
      ((m.act work e).job i).delivery := by
  by_cases he : ∀ k, e = .run k → k ≠ i
  · obtain ⟨hphase, -, hdelivery⟩ := (act_deed work m e).beside hi he
    have hnone : visits work i m [e] = [] := by
      cases e with
      | run k => simp [visits, he k rfl]
      | _ => rfl
    rw [hphase, hnone, List.append_nil]
    exact h.spent hdelivery
  · push Not at he
    obtain ⟨k, rfl, rfl⟩ := he
    obtain ⟨T, hT, heq⟩ := step_effect work m k
    have hone : visits work k m [.run k] = [m] := by simp [visits]
    simp only [hone, Machine.act, heq, job_conclude m k k T hi, if_true]
    exact h.turn hT

lemma size_le_acts (work : Work β ι ε) (m : Machine β ι ε) (es : List (Event β ι ε)) :
    m.jobs.size ≤ (m.acts work es).jobs.size := by
  induction es generalizing m with
  | nil => exact Nat.le_refl _
  | cons e es ih => exact Nat.le_trans (act_deed work m e).size_le (ih _)

lemma Lives.acts (h : Lives work t x i [] (m.job i).phase (m.job i).delivery)
    (hi : i < m.jobs.size) (es : List (Event β ι ε)) :
    Lives work t x i (visits work i m es) ((m.acts work es).job i).phase
      ((m.acts work es).job i).delivery := by
  induction es using List.reverseRecOn with
  | nil => exact h
  | append_singleton es e ih =>
    rw [visits_append, acts_append]
    exact ih.act (Nat.lt_of_lt_of_le hi (size_le_acts work m es)) e

lemma Lives.ended_iff (h : Lives work t x i vs p d) :
    p = .ended ↔ ∃ report, Fate work t x i vs report := by
  constructor
  · rintro rfl
    cases h with
    | ended hf => exact ⟨_, hf⟩
  · rintro ⟨report, hf⟩
    by_contra hp
    exact (h.open hp).not_fate hf

lemma Lives.unique (h : Lives work t x i vs p d) {r r' : Option Outcome}
    (hr : Fate work t x i vs r) (hr' : Fate work t x i vs r') : r = r' := by
  obtain rfl := h.ended_iff.2 ⟨r, hr⟩
  cases h with
  | ended _ hu => rw [hu r hr, hu r' hr']

lemma Lives.arrived (h : Lives work t x i vs p (.arrived report order)) :
    Fate work t x i vs report := by
  cases h with
  | ended hf _ hd =>
    rcases hd with hd | ⟨_, hd⟩ <;> cases hd
    exact hf

lemma Lives.awaited (h : Lives work t x i vs p .awaited) : ¬Fate work t x i vs report := by
  cases h with
  | launched hopen | queued hopen | running hopen => exact hopen.not_fate
  | ended _ _ hd => rcases hd with hd | ⟨_, hd⟩ <;> cases hd

lemma Lives.fate_act (h : Lives work t x i vs (m.job i).phase d) (e : Event β ι ε)
    (hf : Fate work t x i vs report) : Fate work t x i (vs ++ visits work i m [e]) report := by
  have hended := h.ended_iff.2 ⟨report, hf⟩
  cases e with
  | run k =>
    simp only [visits, List.append_nil]
    split
    · exact (fate_snoc_of_ended hended).2 hf
    · simpa using hf
  | _ => simpa [visits] using hf

lemma Lives.fate_append (h : Lives work t x i [] (m.job i).phase (m.job i).delivery)
    (hi : i < m.jobs.size) {es : List (Event β ι ε)}
    (hf : Fate work t x i (visits work i m es) report) (fs : List (Event β ι ε)) :
    Fate work t x i (visits work i m (es ++ fs)) report := by
  induction fs using List.reverseRecOn with
  | nil => simpa using hf
  | append_singleton fs f ih =>
    rw [← List.append_assoc, visits_append]
    exact (h.acts hi (es ++ fs)).fate_act f ih

end

structure Alike (i : Nat) (m m' : Machine β ι ε) : Prop where
  world : m.toWorld = m'.toWorld
  phase : (m.job i).phase = (m'.job i).phase
  aborted : (m.job i).aborted = (m'.job i).aborted
  polls : m.polls i = m'.polls i
  waitEnds : m.waitEnds i = m'.waitEnds i

section

variable {work : Work β ι ε} {t : Task β ε} {x : Context} {i : Nat} {m m' : Machine β ι ε}
  {vs vs' : List (Machine β ι ε)} {report : Option Outcome}

lemma Spent.alike (h : Spent m m') (i : Nat) : Alike i m m' where
  world := h.world.symm
  phase := (h.phase i).symm
  aborted := (h.aborted i).symm
  polls := by
    simp only [Machine.polls, gate, h.aborted, h.phase, h.gates, h.world]
    rfl
  waitEnds := by simp only [Machine.waitEnds, h.phase, h.world]

lemma Alike.symm (h : Alike i m m') : Alike i m' m :=
  ⟨h.world.symm, h.phase.symm, h.aborted.symm, h.polls.symm, h.waitEnds.symm⟩

lemma bodyWorlds_of_alike (h : List.Forall₂ (Alike i) vs vs') :
    bodyWorlds i vs = bodyWorlds i vs' := by
  induction h with
  | nil => rfl
  | @cons m m' vs vs' hm _ ih =>
    unfold bodyWorlds at ih ⊢
    rw [List.filter_cons, List.filter_cons, hm.polls]
    split
    · rw [List.map_cons, List.map_cons, hm.world, ih]
    · exact ih

lemma exists_alike (h : List.Forall₂ (Alike i) vs vs') (hm : m ∈ vs) :
    ∃ m' ∈ vs', Alike i m m' := by
  induction h with
  | nil => cases hm
  | @cons a b vs vs' hab _ ih =>
    rcases List.mem_cons.1 hm with rfl | hm
    · exact ⟨b, List.mem_cons_self, hab⟩
    · obtain ⟨m', hm', halike⟩ := ih hm
      exact ⟨m', List.mem_cons_of_mem _ hm', halike⟩

lemma Fate.of_alike (h : List.Forall₂ (Alike i) vs vs') (hf : Fate work t x i vs report) :
    Fate work t x i vs' report := by
  cases hf with
  | returned hw hrun => exact .returned (bodyWorlds_of_alike h ▸ hw) hrun
  | crashed hw hrun => exact .crashed (bodyWorlds_of_alike h ▸ hw) hrun
  | gaveUp hmem ha hr he =>
    obtain ⟨m', hmem', hm⟩ := exists_alike h hmem
    refine .gaveUp hmem' (hm.aborted ▸ ha) (hm.waitEnds ▸ hr) ?_
    rw [← hm.world]
    exact he
  | aborted hmem ha hp =>
    obtain ⟨m', hmem', hm⟩ := exists_alike h hmem
    exact .aborted hmem' (hm.aborted ▸ ha) (hm.phase ▸ hp)

lemma fate_iff_of_alike (h : List.Forall₂ (Alike i) vs vs') :
    Fate work t x i vs report ↔ Fate work t x i vs' report := by
  refine ⟨.of_alike h, .of_alike ?_⟩
  apply List.Forall₂.flip
  exact h.imp fun _ _ hm => hm.symm

end

end Machine

end Resilience
