import Resilience.Proofs.Call.Pause
import Resilience.Proofs.Machine.Join

namespace Resilience

def Delivery.emptied : Delivery → Delivery
  | arrived .. => taken
  | d => d

namespace Machine

variable {β ι ε : Type}

/-- The ways to look at a completion: without waiting, or as a look of a wait. A wait under
a context notices at its beginning that the context has ended by now, and later what the
timers say. -/
inductive Glance where
  | once
  | waiting
  | begun (context : Context)
  | under (context : Context)

namespace Glance

def event (i : Nat) : Glance → Event β ι ε
  | once => .tryResult i
  | waiting => .look (.completion i)
  | begun x => .waitUnder i x
  | under x => .look (.completionUnder i x)

def ended (m : Machine β ι ε) : Glance → Option Reason
  | once | waiting => none
  | begun x => m.err x
  | under x => m.noticed x

def sees (work : Work β ι ε) (m : Machine β ι ε) (i : Nat) : Glance → Option Reply
  | once => (m.tryResult i).1.map .outcome
  | waiting => ((Wait.completion i).look work m).1.getRight?
  | begun x => (m.waitUnder work i x).1.getRight?
  | under x => ((Wait.completionUnder i x).look work m).1.getRight?

def stale : Glance → Reply
  | once => .outcome (.error .aborted)
  | waiting | begun _ | under _ => .crash .alreadyTaken

end Glance

section

variable {work : Work β ι ε} {m : Machine β ι ε} {g : Glance} {i : Nat} {report : Option Outcome}
  {order : Nat}

namespace Glance

lemma sees_ended {r : Reason} (h : g.ended m = some r) :
    g.sees work m i = some (.outcome (Call.cancelled r)) := by
  cases g with
  | once | waiting => cases h
  | begun x =>
    have h : m.err x = some r := h
    simp [sees, waitUnder, h]
  | under x =>
    have h : m.noticed x = some r := h
    simp [sees, Wait.look, h]

lemma sees_eq (h : g.ended m = none) : g.sees work m i = match g with
    | once => (m.tryResult i).1.map .outcome
    | _ => (m.takeResult i).1.map fun
      | .ok r => .outcome r
      | .error c => .crash c := by
  have hofResult (s : Wait β ι ε) (m : Machine β ι ε) (r : Option (Except Crash Outcome)) :
      (Wait.ofResult s m r).1.getRight? = r.map fun
        | .ok r => .outcome r
        | .error c => .crash c := by
    rcases r with - | - | - <;> rfl
  cases g with
  | once => rfl
  | waiting => exact hofResult ..
  | begun x =>
    have h : m.err x = none := h
    have hn : m.noticed x = none := Context.noticed_eq_none_of_err h
    simp only [sees, waitUnder, h, Wait.look, hn]
    exact hofResult ..
  | under x =>
    have h : m.noticed x = none := h
    simp only [sees, Wait.look, h]
    exact hofResult ..

lemma sees_awaited (h : g.ended m = none) (hd : (m.job i).delivery = .awaited) :
    g.sees work m i = none := by
  rw [sees_eq h]
  cases g <;> simp [tryResult, takeResult, hd]

lemma sees_arrived (h : g.ended m = none) (hd : (m.job i).delivery = .arrived report order) :
    g.sees work m i = some (.outcome (outcomeOf report)) := by
  rw [sees_eq h]
  cases g <;> simp [tryResult, takeResult, hd]

lemma sees_taken (h : g.ended m = none) (hd : (m.job i).delivery = .taken) :
    g.sees work m i = some g.stale := by
  rw [sees_eq h]
  cases g <;> simp [tryResult, takeResult, hd, stale]

lemma act_of_ended {r : Reason} (h : g.ended m = some r) : m.act work (g.event i) = m := by
  cases g with
  | once | waiting => cases h
  | begun x =>
    have h : m.err x = some r := h
    simp [event, act, waitUnder, h]
  | under x =>
    have h : m.noticed x = some r := h
    simp [event, act, Wait.look, h]

lemma act_eq (h : g.ended m = none) : m.act work (g.event i) = match g with
    | once => (m.tryResult i).2
    | _ => (m.takeResult i).2 := by
  cases g with
  | once => rfl
  | waiting => exact Taking.ofResult ..
  | begun x =>
    have h : m.err x = none := h
    have hn : m.noticed x = none := Context.noticed_eq_none_of_err h
    simp only [event, act, waitUnder, h, Wait.look, hn]
    exact Taking.ofResult ..
  | under x =>
    have h : m.noticed x = none := h
    simp only [event, act, Wait.look, h]
    exact Taking.ofResult ..

lemma delivery_act (hi : i < m.jobs.size) (h : g.ended m = none) :
    ((m.act work (g.event i)).job i).delivery = (m.job i).delivery.emptied := by
  rw [act_eq h]
  cases g <;> cases hd : (m.job i).delivery <;>
    simp [tryResult, takeResult, hd, Delivery.emptied, job_setJob, hi]

lemma taken_act_iff (hi : i < m.jobs.size) :
    ((m.act work (g.event i)).job i).delivery = .taken ↔
      (m.job i).delivery = .taken ∨ g.ended m = none ∧ (g.sees work m i).isSome := by
  cases h : g.ended m with
  | some r => simp [act_of_ended h]
  | none =>
    rw [delivery_act hi h]
    cases hd : (m.job i).delivery with
    | awaited => simp [Delivery.emptied, sees_awaited h hd]
    | arrived => simp [Delivery.emptied, sees_arrived h hd]
    | taken => simp [Delivery.emptied]

end Glance

end

section

variable (work : Work β ι ε) (i : Nat)

def Owned (es : List (Event β ι ε)) : Prop := ∀ e ∈ es, i ∈ e.takes → ∃ g : Glance, e = g.event i

def Found (m : Machine β ι ε) (es : List (Event β ι ε)) : Prop :=
  ∃ fs gs, ∃ g : Glance, es = fs ++ g.event i :: gs ∧ g.ended (m.acts work fs) = none ∧
    (g.sees work (m.acts work fs) i).isSome

def awaiting (m : Machine β ι ε) : Option Context → Looked β ι ε
  | none => (Wait.completion i).look work m
  | some x => m.waitUnder work i x

end

structure Watched (work : Work β ι ε) (t : Task β ε) (x : Context) (i : Nat)
    (m : Machine β ι ε) : Prop where
  ended : ∀ es, ∀ g : Glance, ∀ r, g.ended (m.acts work es) = some r →
    g.sees work (m.acts work es) i = some (.outcome (Call.cancelled r))
  early : ∀ es, Owned i es → (∀ report, ¬Fate work t x i (visits work i m es) report) →
    ∀ g : Glance, g.ended (m.acts work es) = none → g.sees work (m.acts work es) i = none
  first : ∀ es, Owned i es → ¬Found work i m es →
    ∀ report, Fate work t x i (visits work i m es) report →
    ∀ g : Glance, g.ended (m.acts work es) = none →
      g.sees work (m.acts work es) i = some (.outcome (outcomeOf report))
  late : ∀ es, Owned i es → Found work i m es →
    ∀ g : Glance, g.ended (m.acts work es) = none → g.sees work (m.acts work es) i = some g.stale
  decided : ∀ es, Owned i es → Found work i m es →
    ∃ report, Fate work t x i (visits work i m es) report
  /-- Without having found the result before, whoever sees that the task was aborted is right,
  unless the task itself reports so. -/
  aborted : ∀ es, Owned i es → ¬Found work i m es →
    ∀ g : Glance, g.sees work (m.acts work es) i = some (.outcome (.error .aborted)) →
      Fate work t x i (visits work i m es) none ∨
        Fate work t x i (visits work i m es) (some (.error .aborted))
  /-- Whoever waits gets the report, unless its own context ends or it has the result already. -/
  waits : ∀ es, Owned i es → ∀ y limit reply m',
    Wait.finishBy work limit (awaiting work i (m.acts work es) y) = (some reply, m') →
    ∃ fs, m' = m.acts work (es ++ fs) ∧
      ((∃ z r, y = some z ∧ m'.err z = some r ∧ reply = .outcome (Call.cancelled r)) ∨
        (Found work i m es ∧ reply = .crash .alreadyTaken) ∨
        (¬Found work i m es ∧ ∃ report, Fate work t x i (visits work i m (es ++ fs)) report ∧
          reply = .outcome (outcomeOf report)))

section

variable {work : Work β ι ε} {m : Machine β ι ε} {i : Nat} {es fs : List (Event β ι ε)}
  {e : Event β ι ε}

lemma Glance.event_injective {g g' : Glance} (h : (g.event i : Event β ι ε) = g'.event i) :
    g = g' := by
  cases g <;> cases g' <;> cases h <;> rfl

lemma Glance.mem_takes (g : Glance) : i ∈ (g.event i : Event β ι ε).takes := by
  cases g <;> exact List.mem_singleton_self i

lemma acts_snoc : m.acts work (es ++ [e]) = (m.acts work es).act work e := acts_append ..

lemma Owned.append (h : Owned i es) (h' : Owned i fs) : Owned i (es ++ fs) :=
  List.forall_mem_append.2 ⟨h, h'⟩

lemma Owned.glance (g : Glance) : Owned i [(g.event i : Event β ι ε)] := by
  intro e he _
  exact ⟨g, List.mem_singleton.1 he⟩

lemma Owned.of_takes (h : ∀ e ∈ es, e.takes = []) : Owned i es := by
  intro e he hi
  rw [h e he] at hi
  cases hi

lemma not_found_nil : ¬Found work i m [] := by
  rintro ⟨fs, gs, g, h, -⟩
  simp at h

lemma Found.append (h : Found work i m es) (fs : List (Event β ι ε)) :
    Found work i m (es ++ fs) := by
  obtain ⟨fs', gs, g, rfl, hg⟩ := h
  exact ⟨fs', gs ++ fs, g, by simp, hg⟩

lemma found_snoc : Found work i m (es ++ [e]) ↔ Found work i m es ∨
    ∃ g : Glance, e = g.event i ∧ g.ended (m.acts work es) = none ∧
      (g.sees work (m.acts work es) i).isSome := by
  constructor
  · rintro ⟨fs, gs, g, h, hg⟩
    rcases List.eq_nil_or_concat gs with rfl | ⟨gs, e', rfl⟩
    · obtain ⟨rfl, he⟩ := List.append_inj' h rfl
      exact .inr ⟨g, List.singleton_inj.1 he, hg⟩
    · have h : es ++ [e] = (fs ++ g.event i :: gs) ++ [e'] := by simpa using h
      obtain ⟨rfl, -⟩ := List.append_inj' h rfl
      exact .inl ⟨fs, gs, g, rfl, hg⟩
  · rintro (h | ⟨g, rfl, hg⟩)
    · exact h.append [e]
    · exact ⟨es, [], g, rfl, hg⟩

lemma found_snoc_of_not_takes (h : i ∉ e.takes) :
    Found work i m (es ++ [e]) ↔ Found work i m es := by
  rw [found_snoc, or_iff_left]
  rintro ⟨g, rfl, -⟩
  exact h g.mem_takes

lemma found_snoc_glance (g : Glance) : Found work i m (es ++ [g.event i]) ↔ Found work i m es ∨
    g.ended (m.acts work es) = none ∧ (g.sees work (m.acts work es) i).isSome := by
  rw [found_snoc]
  apply or_congr_right
  constructor
  · rintro ⟨g', h, hg'⟩
    rwa [Glance.event_injective h]
  · exact fun hg => ⟨g, rfl, hg⟩

lemma found_append_of_takes (h : ∀ e ∈ fs, e.takes = []) :
    Found work i m (es ++ fs) ↔ Found work i m es := by
  induction fs using List.reverseRecOn with
  | nil => rw [List.append_nil]
  | append_singleton fs f ih =>
    obtain ⟨hfs, hf⟩ := List.forall_mem_append.1 h
    rw [← List.append_assoc, found_snoc_of_not_takes (by simp [hf f]), ih hfs]

lemma taken_act (hi : i < m.jobs.size) (hp : (m.job i).phase = .ended)
    (hd : (m.job i).delivery = .taken) : ((m.act work e).job i).delivery = .taken := by
  by_cases he : ∀ k, e = .run k → k ≠ i
  · obtain ⟨-, -, hspent⟩ := (act_deed work m e).beside hi he
    rw [hd] at hspent
    generalize ((m.act work e).job i).delivery = d at hspent
    cases hspent
    rfl
  · push Not at he
    obtain ⟨k, rfl, rfl⟩ := he
    obtain ⟨T, hT, heq⟩ := step_effect work m k
    rw [hp] at hT
    have hstays : T.next = .stays := by
      generalize (m.job k).aborted = a at hT
      cases hT with
      | past => rfl
      | ran h => exact absurd rfl h.ne_ended
    simp only [act, heq, job_conclude m k k T hi, hstays, Next.apply, if_true, hd]

end

structure Fresh (work : Work β ι ε) (t : Task β ε) (x : Context) (i : Nat)
    (m : Machine β ι ε) : Prop where
  lt_size : i < m.jobs.size
  awaited : (m.job i).delivery = .awaited
  lives : Lives work t x i [] (m.job i).phase (m.job i).delivery

lemma Fresh.launch (work : Work β ι ε) (m : Machine β ι ε) (gate : Option Nat) (t : Task β ε)
    (x : Context) : Fresh work t x m.jobs.size (m.launch gate t x).2 := by
  have hjob : (m.launch gate t x).2.job m.jobs.size =
      { name := t.name, phase := .launched gate t x } := by
    simp only [Machine.launch, job_push, if_true]
  refine ⟨by simp [Machine.launch], by rw [hjob], ?_⟩
  rw [hjob]
  exact .launched ⟨by simp, by simp, .inl rfl⟩ rfl

section

variable {work : Work β ι ε} {t : Task β ε} {x : Context} {m : Machine β ι ε} {i : Nat}
  (h : Fresh work t x i m) {es : List (Event β ι ε)}
include h

lemma Fresh.lives_acts (es : List (Event β ι ε)) :
    Lives work t x i (visits work i m es) ((m.acts work es).job i).phase
      ((m.acts work es).job i).delivery :=
  h.lives.acts h.lt_size es

lemma Fresh.lt_size_acts (es : List (Event β ι ε)) : i < (m.acts work es).jobs.size :=
  Nat.lt_of_lt_of_le h.lt_size (size_le_acts work m es)

lemma Fresh.phase_of_taken (hd : ((m.acts work es).job i).delivery = .taken) :
    ((m.acts work es).job i).phase = .ended := by
  by_contra hp
  rw [(h.lives_acts es).delivery hp] at hd
  cases hd

lemma Fresh.taken_iff_found (hes : Owned i es) :
    ((m.acts work es).job i).delivery = .taken ↔ Found work i m es := by
  induction es using List.reverseRecOn with
  | nil => simp [acts, h.awaited, not_found_nil]
  | append_singleton es e ih =>
    obtain ⟨hbefore, hown⟩ := List.forall_mem_append.1 hes
    have ih := ih hbefore
    have hi := h.lt_size_acts es
    by_cases he : i ∈ e.takes
    · obtain ⟨g, rfl⟩ := hown e (List.mem_singleton_self e) he
      rw [found_snoc_glance, ← ih, acts_snoc, Glance.taken_act_iff hi]
    · rw [found_snoc_of_not_takes he, ← ih, acts_snoc]
      constructor
      · intro hd
        by_contra hnot
        exact (act_deed work _ e).not_taken hi he hnot hd
      · exact fun hd => taken_act hi (h.phase_of_taken hd) hd

lemma Fresh.sees_early (hreport : ∀ report, ¬Fate work t x i (visits work i m es) report)
    {g : Glance} (hg : g.ended (m.acts work es) = none) :
    g.sees work (m.acts work es) i = none := by
  have hlives := h.lives_acts es
  apply Glance.sees_awaited hg
  apply hlives.delivery
  intro hp
  obtain ⟨report, hf⟩ := hlives.ended_iff.1 hp
  exact hreport report hf

lemma Fresh.sees_first (hes : Owned i es) (hnot : ¬Found work i m es) {report : Option Outcome}
    (hf : Fate work t x i (visits work i m es) report) {g : Glance}
    (hg : g.ended (m.acts work es) = none) :
    g.sees work (m.acts work es) i = some (.outcome (outcomeOf report)) := by
  have hlives := h.lives_acts es
  rw [← h.taken_iff_found hes] at hnot
  cases hd : ((m.acts work es).job i).delivery with
  | awaited =>
    rw [hd] at hlives
    exact absurd hf hlives.awaited
  | arrived report' order =>
    have hsame : report = report' := hlives.unique hf (hd ▸ hlives).arrived
    rw [hsame]
    exact Glance.sees_arrived hg hd
  | taken => exact absurd hd hnot

lemma Fresh.fate_of_found (hes : Owned i es) (hfound : Found work i m es) :
    ∃ report, Fate work t x i (visits work i m es) report :=
  (h.lives_acts es).ended_iff.1 (h.phase_of_taken ((h.taken_iff_found hes).2 hfound))

lemma Fresh.sees_late (hes : Owned i es) (hfound : Found work i m es) {g : Glance}
    (hg : g.ended (m.acts work es) = none) :
    g.sees work (m.acts work es) i = some g.stale :=
  Glance.sees_taken hg ((h.taken_iff_found hes).2 hfound)

lemma Fresh.fate_of_sees (hes : Owned i es) (hnot : ¬Found work i m es) {g : Glance}
    (hg : g.ended (m.acts work es) = none) {reply : Reply}
    (hsees : g.sees work (m.acts work es) i = some reply) :
    ∃ report, Fate work t x i (visits work i m es) report ∧
      reply = .outcome (outcomeOf report) := by
  by_cases hf : ∃ report, Fate work t x i (visits work i m es) report
  · obtain ⟨report, hf⟩ := hf
    rw [h.sees_first hes hnot hf hg] at hsees
    exact ⟨report, hf, (Option.some.inj hsees).symm⟩
  · push Not at hf
    rw [h.sees_early hf hg] at hsees
    cases hsees

lemma Fresh.sees_aborted (hes : Owned i es) (hnot : ¬Found work i m es) {g : Glance}
    (hsees : g.sees work (m.acts work es) i = some (.outcome (.error .aborted))) :
    Fate work t x i (visits work i m es) none ∨
      Fate work t x i (visits work i m es) (some (.error .aborted)) := by
  cases hg : g.ended (m.acts work es) with
  | some r =>
    rw [Glance.sees_ended hg] at hsees
    cases r <;> cases hsees
  | none =>
    obtain ⟨report, hf, hreply⟩ := h.fate_of_sees hes hnot hg hsees
    cases report with
    | none => exact .inl hf
    | some r =>
      cases hreply
      exact .inr hf

end

section

variable {work : Work β ι ε} {m m' M : Machine β ι ε} {i : Nat} {es : List (Event β ι ε)}
  {g : Glance} {s : Wait β ι ε} {reply : Reply} {limit : Nat}

lemma Glance.sees_look (hs : g.event i = .look s) :
    g.sees work m i = (s.look work m).1.getRight? := by
  cases g with
  | once | begun => cases hs
  | waiting | under =>
    cases hs
    rfl

lemma ofResult_eq_inl {s s' : Wait β ι ε} {r : Option (Except Crash Outcome)}
    (h : (Wait.ofResult s m r).1 = .inl s') : s' = s := by
  unfold Wait.ofResult at h
  split at h <;> cases h
  rfl

lemma Glance.look_inl (hs : g.event i = .look s) {s' : Wait β ι ε}
    (h : (s.look work m).1 = .inl s') : s' = s := by
  cases g with
  | once | begun => cases hs
  | waiting =>
    cases hs
    exact ofResult_eq_inl h
  | under x =>
    cases hs
    simp only [Wait.look] at h
    split at h
    · cases h
    · exact ofResult_eq_inl h

lemma Glance.looksUntil (h : LooksUntil work s M reply m') (hs : g.event i = .look s)
    (hM : m.acts work es = M) (hes : Owned i es) :
    ∃ fs, Owned i (es ++ fs) ∧ (Found work i m (es ++ fs) ↔ Found work i m es) ∧
      g.sees work (m.acts work (es ++ fs)) i = some reply ∧
      m' = (m.acts work (es ++ fs)).act work (g.event i) := by
  induction h generalizing es with
  | replied hpasses hlook =>
    obtain ⟨fs, hfs, -, rfl⟩ := hpasses
    rw [← hM, ← acts_append] at hlook
    refine ⟨fs, hes.append (.of_takes hfs), found_append_of_takes hfs, ?_, ?_⟩
    · rw [Glance.sees_look hs, hlook]
      rfl
    · rw [hs]
      exact (congrArg (·.2) hlook).symm
  | @goesOn s s' _ _ M' _ _ hpasses hlook _ ih =>
    obtain rfl := Glance.look_inl hs (congrArg (·.1) hlook)
    obtain ⟨fs, hfs, -, rfl⟩ := hpasses
    rw [← hM, ← acts_append] at hlook
    have hact : m.acts work (es ++ fs ++ [g.event i]) = M' := by
      rw [acts_snoc, hs]
      exact congrArg (·.2) hlook
    have hnone : Found work i m (es ++ fs ++ [g.event i]) ↔ Found work i m es := by
      rw [found_snoc_glance, Glance.sees_look hs, hlook, found_append_of_takes hfs]
      simp
    obtain ⟨fs', hown, hfound, hrest⟩ :=
      ih hs hact ((hes.append (.of_takes hfs)).append (.glance g))
    refine ⟨fs ++ [g.event i] ++ fs', ?_⟩
    simp only [← List.append_assoc]
    exact ⟨hown, hfound.trans hnone, hrest⟩

inductive Glance.OfWait : Option Context → Glance → Prop
  | waiting : OfWait none waiting
  | begun {x : Context} : OfWait (some x) (begun x)
  | under {x : Context} : OfWait (some x) (under x)

lemma Glance.OfWait.stale_eq {y : Option Context} (h : g.OfWait y) :
    g.stale = .crash .alreadyTaken := by
  cases h <;> rfl

lemma Glance.OfWait.of_ended {y : Option Context} (h : g.OfWait y) {r : Reason}
    (hr : g.ended m = some r) : ∃ z, y = some z ∧ m.err z = some r := by
  cases h with
  | waiting => cases hr
  | begun => exact ⟨_, rfl, hr⟩
  | under => exact ⟨_, rfl, Context.err_of_noticed hr⟩

lemma exists_glance_of_awaiting {y : Option Context} (hes : Owned i es)
    (h : Wait.finishBy work limit (awaiting work i (m.acts work es) y) = (some reply, m')) :
    ∃ fs, ∃ g : Glance, g.OfWait y ∧ Owned i (es ++ fs) ∧
      (Found work i m (es ++ fs) ↔ Found work i m es) ∧
      g.sees work (m.acts work (es ++ fs)) i = some reply ∧
      m' = (m.acts work (es ++ fs)).act work (g.event i) := by
  obtain ⟨first, later, hfirst, hlater, hsees, hact, hgoes⟩ :
      ∃ first later : Glance, first.OfWait y ∧ later.OfWait y ∧
        first.sees work (m.acts work es) i = (awaiting work i (m.acts work es) y).1.getRight? ∧
        m.acts work (es ++ [first.event i]) = (awaiting work i (m.acts work es) y).2 ∧
        ∀ s, (awaiting work i (m.acts work es) y).1 = .inl s → later.event i = .look s := by
    cases y with
    | none =>
      refine ⟨.waiting, .waiting, .waiting, .waiting, rfl, acts_snoc, fun s hs => ?_⟩
      have hs : ((Wait.completion i).look work (m.acts work es)).1 = .inl s := hs
      rw [Glance.look_inl (g := .waiting) rfl hs]
      rfl
    | some x =>
      refine ⟨.begun x, .under x, .begun, .under, rfl, acts_snoc, fun s hs => ?_⟩
      simp only [awaiting, waitUnder] at hs
      split at hs
      · cases hs
      · rw [Glance.look_inl (g := .under x) rfl hs]
        rfl
  unfold Wait.finishBy at h
  split at h <;> rename_i hstart <;> rw [hstart] at hsees hact hgoes
  · cases h
    refine ⟨[], first, hfirst, ?_⟩
    rw [List.append_nil]
    exact ⟨hes, Iff.rfl, hsees, hact.symm.trans acts_snoc⟩
  · have hnone : Found work i m (es ++ [first.event i]) ↔ Found work i m es := by
      rw [found_snoc_glance, hsees]
      simp
    subst hact
    obtain ⟨fs, hown, hfound, hrest⟩ :=
      Glance.looksUntil (looksUntil_of_rounds h) (hgoes _ rfl) rfl (hes.append (.glance first))
    refine ⟨first.event i :: fs, later, hlater, ?_⟩
    rw [List.append_assoc] at hown hfound hrest
    exact ⟨hown, hfound.trans hnone, hrest⟩

end

lemma Fresh.waits {work : Work β ι ε} {t : Task β ε} {x : Context} {i : Nat}
    {m m' : Machine β ι ε} (h : Fresh work t x i m) {es : List (Event β ι ε)} (hes : Owned i es)
    {y : Option Context} {limit : Nat} {reply : Reply}
    (hwait : Wait.finishBy work limit (awaiting work i (m.acts work es) y) = (some reply, m')) :
    ∃ fs, m' = m.acts work (es ++ fs) ∧
      ((∃ z r, y = some z ∧ m'.err z = some r ∧ reply = .outcome (Call.cancelled r)) ∨
        (Found work i m es ∧ reply = .crash .alreadyTaken) ∨
        (¬Found work i m es ∧ ∃ report, Fate work t x i (visits work i m (es ++ fs)) report ∧
          reply = .outcome (outcomeOf report))) := by
  obtain ⟨fs, g, hg, hown, hfound, hsees, rfl⟩ := exists_glance_of_awaiting hes hwait
  refine ⟨fs ++ [g.event i], ?_, ?_⟩
  · rw [← List.append_assoc, acts_snoc]
  cases hended : g.ended (m.acts work (es ++ fs)) with
  | some r =>
    obtain ⟨z, hz, hr⟩ := hg.of_ended hended
    rw [Glance.sees_ended hended] at hsees
    rw [Glance.act_of_ended hended]
    exact .inl ⟨z, r, hz, hr, (Option.some.inj hsees).symm⟩
  | none =>
    rw [← hfound]
    by_cases hf : Found work i m (es ++ fs)
    · rw [h.sees_late hown hf hended, hg.stale_eq] at hsees
      exact .inr (.inl ⟨hf, (Option.some.inj hsees).symm⟩)
    · obtain ⟨report, hreport, hreply⟩ := h.fate_of_sees hown hf hended hsees
      refine .inr (.inr ⟨hf, report, ?_, hreply⟩)
      rw [← List.append_assoc]
      exact h.lives.fate_append h.lt_size hreport _

/-- The owner of a completion sees the report of its task as soon as there is one, and only once;
afterwards whoever only looks sees an aborted task, and whoever waits crashes. -/
theorem completion_is_read_once (work : Work β ι ε) (m : Machine β ι ε) (gate : Option Nat)
    (t : Task β ε) (x : Context) :
    Watched work t x m.jobs.size (m.launch gate t x).2 := by
  have h := Fresh.launch work m gate t x
  exact {
    ended := fun _ _ _ hr => Glance.sees_ended hr
    early := fun _ _ hreport _ hg => h.sees_early hreport hg
    first := fun _ hes hnot _ hf _ hg => h.sees_first hes hnot hf hg
    late := fun _ hes hfound _ hg => h.sees_late hes hfound hg
    decided := fun _ hes hfound => h.fate_of_found hes hfound
    aborted := fun _ hes hnot _ hsees => h.sees_aborted hes hnot hsees
    waits := fun _ hes _ _ _ _ hwait => h.waits hes hwait }

theorem reported_result_reads_as_aborted :
    ¬∀ (t : Task Unit Unit) (x : Context) (es : List (Event Unit Unit Unit)) (g : Glance)
      (r : Outcome), Owned 0 es →
      Fate dozing t x 0 (visits dozing 0 ((idle quiet).launch none t x).2 es) (some r) →
      r ≠ .error .aborted →
      g.sees dozing (((idle quiet).launch none t x).2.acts dozing es) 0 ≠
        some (.outcome (.error .aborted)) := by
  intro hnever
  let t : Task Unit Unit := ⟨"task", [], ()⟩
  let x : Context := ⟨⟨0, []⟩, none⟩
  let es : List (Event Unit Unit Unit) := [.run 0, .run 0, .tryResult 0]
  have hown : Owned 0 es := by
    intro e he hi
    simp only [es, List.mem_cons, List.not_mem_nil, or_false] at he
    obtain rfl | rfl | rfl := he
    · cases hi
    · cases hi
    · exact ⟨.once, rfl⟩
  have hfate : Fate dozing t x 0 (visits dozing 0 ((idle quiet).launch none t x).2 es)
      (some (.ok ())) := by
    have hslept : Call.Run dozing Call.anyone (Call.ofTask dozing t x quiet) [] _ := .begun
    exact .returned rfl (hslept.resumed quiet trivial)
  exact hnever t x es .once (.ok ()) hown hfate nofun rfl

end Machine

end Resilience
