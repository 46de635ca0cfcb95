import Resilience.Proofs.Breaker.History

/-! How long a breaker stays open. The opening instant decides alone, and neither rejected callers
nor late guards nor abandoned trials move it: what a rejected caller is told about the wait holds
for all that follow. -/

namespace Resilience

namespace Traffic

def ask (t : Traffic) (now : Nat) : Answer := (t.step ⟨now, .enter⟩).1

def Ordered (es : List Event) : Prop := es.Pairwise fun e f => e.now ≤ f.now

instance (es : List Event) : Decidable (Ordered es) :=
  inferInstanceAs (Decidable (es.Pairwise fun e f => e.now ≤ f.now))

/-- Nobody resets the breaker, and no trial succeeds or fails; trials may be abandoned. -/
def Undecided (t : Traffic) (es : List Event) : Prop :=
  ∀ a ∈ t.answers es, a ≠ .reset ∧ a ≠ .settled t.breaker.trial .success ∧
    a ≠ .settled t.breaker.trial .failure

def Shut (t : Traffic) (es : List Event) : Prop :=
  ∀ a ∈ t.answers es, a ≠ .reset ∧ a.isAdmitted = false

structure OpenPeriod (c : BreakerConfig) (past : List Event) (t : Traffic) : Prop where
  opened : t.breaker.state = .opened → ∃ o, t.breaker.openedAt = some o ∧
    ∀ now, Ordered (past ++ [⟨now, .enter⟩]) →
      ((∃ f, t.ask now = .rejected f) ↔ now < o + c.openDuration.nanos) ∧
      (now < o + c.openDuration.nanos → ∃ r : Duration, t.ask now = .rejected (.circuitOpen r) ∧
        r.nanos = o + c.openDuration.nanos - now ∧ 0 < r.nanos)
  halfOpen : t.breaker.state = .halfOpen → ∀ now, t.ask now = .rejected (.circuitOpen .zero)
  /-- A rejected caller who comes back in time, or after others, is let in at once. -/
  kept : t.breaker.state = .opened → ∀ now r es now',
    t.ask now = .rejected (.circuitOpen r) → (t.step ⟨now, .enter⟩).2.Shut es →
    Ordered (past ++ ⟨now, .enter⟩ :: es ++ [⟨now', .enter⟩]) →
      (now' < now + r.nanos → ∃ f, (t.run (⟨now, .enter⟩ :: es)).ask now' = .rejected f) ∧
      (now + r.nanos ≤ now' → (t.run (⟨now, .enter⟩ :: es)).ask now' = .admitted t.breaker.trial)
  /-- However often trials are abandoned, there is no new open period. -/
  abandoned : t.breaker.state = .halfOpen → ∀ es now', t.Undecided es →
    Ordered (past ++ es ++ [⟨now', .enter⟩]) → (t.run es).breaker.state = .opened →
      (t.run es).ask now' = .admitted t.breaker.trial

variable {t t' : Traffic} {now o : Nat} {act : Act} {answer : Answer} {past es : List Event}

lemma now_le_of_ordered {e : Event} (h : Ordered (past ++ [e])) {f : Event} (hf : f ∈ past) :
    f.now ≤ e.now :=
  (List.pairwise_append.mp h).2.2 f hf e (List.mem_singleton_self e)

section

variable (he : Effect t now act answer t')

include he

lemma Effect.openedAt (ho : t'.breaker.openedAt = some o) :
    t.breaker.openedAt = some o ∨ now = o := by
  cases he with
  | relapse | trip => exact .inr (Option.some.inj ho)
  | recover | reset => cases ho
  | _ => exact .inl ho

lemma Effect.undecided (hs : t.breaker.state ≠ .closed) (hr : answer ≠ .reset)
    (hok : answer ≠ .settled t.breaker.trial .success)
    (hfail : answer ≠ .settled t.breaker.trial .failure) :
    t'.breaker.state ≠ .closed ∧ t'.breaker.openedAt = t.breaker.openedAt ∧
      t'.breaker.trial = t.breaker.trial := by
  cases he with
  | pass hc | trip _ _ _ _ hc => exact absurd hc hs
  | probe => exact ⟨nofun, rfl, rfl⟩
  | giveUp => exact ⟨nofun, rfl, rfl⟩
  | recover => exact absurd rfl hok
  | relapse => exact absurd rfl hfail
  | reset => exact absurd rfl hr
  | _ => exact ⟨hs, rfl, rfl⟩

lemma Effect.ask_opened (hact : act = .enter) (hs : t.breaker.state = .opened)
    (hb : t.breaker.WellFormed) (ho : t.breaker.openedAt = some o)
    (hd : 0 < t.breaker.config.openDuration.nanos) (hle : o ≤ now) :
    (o + t.breaker.config.openDuration.nanos ≤ now ∧ answer = .admitted t.breaker.trial) ∨
    (now < o + t.breaker.config.openDuration.nanos ∧ ∃ r : Duration,
      answer = .rejected (.circuitOpen r) ∧
        r.nanos = o + t.breaker.config.openDuration.nanos - now) := by
  have hiff := Breaker.openDuration_le_openFor ho hd now
  cases he with
  | pass hc => simp [hs] at hc
  | busy hh => simp [hs] at hh
  | probe _ hp => exact .inl ⟨hiff.mp hp, rfl⟩
  | refuse _ hp =>
    have hf : t.breaker.trialInFlight = false := by simpa [hs] using hb.inFlight
    have hlt : now < o + t.breaker.config.openDuration.nanos := by
      by_contra hge
      exact hp ⟨hiff.mpr (Nat.le_of_not_lt hge), hf⟩
    refine .inr ⟨hlt, _, rfl, ?_⟩
    have hm := t.breaker.config.openDuration.nanos_le
    simp only [Duration.sub, Breaker.openFor, ho, Duration.saturating]
    omega
  | _ => cases hact

lemma Effect.ask_halfOpen (hact : act = .enter) (hs : t.breaker.state = .halfOpen) :
    answer = .rejected (.circuitOpen .zero) := by
  cases he with
  | pass hc | probe hc | refuse hc => simp [hs] at hc
  | busy => rfl
  | _ => cases hact

lemma Effect.shut (ht : Trials t) (hs : t.breaker.state = .opened) (hr : answer ≠ .reset)
    (hn : answer.isAdmitted = false) :
    t'.breaker.state = .opened ∧ t'.breaker.openedAt = t.breaker.openedAt ∧
      t'.breaker.trial = t.breaker.trial := by
  have hout := ht.not_outstanding (by simp [hs])
  cases he with
  | pass | probe => cases hn
  | recover i hi | relapse i hi | giveUp i hi => exact absurd hi (hout i)
  | trip i g hi hg hc => simp [hs] at hc
  | reset => exact absurd rfl hr
  | _ => exact ⟨hs, rfl, rfl⟩

lemma Effect.probed (hd : 0 < t.breaker.config.openDuration.nanos)
    (hs : t'.breaker.state = .halfOpen) (ho : t'.breaker.openedAt = some o) :
    t.breaker.state = .halfOpen ∧ t.breaker.openedAt = some o ∨
      o + t.breaker.config.openDuration.nanos ≤ now := by
  cases he with
  | probe _ hp => exact .inr ((Breaker.openDuration_le_openFor ho hd now).mp hp)
  | recover | relapse | giveUp | trip | reset => cases hs
  | _ => exact .inl ⟨hs, ho⟩

end

structure Dated (past : List Event) (t : Traffic) : Prop where
  opened : ∀ o, t.breaker.openedAt = some o → ∃ e ∈ past, e.now = o
  probed : t.breaker.state = .halfOpen → ∀ o, t.breaker.openedAt = some o →
    ∃ e ∈ past, o + t.breaker.config.openDuration.nanos ≤ e.now

lemma Dated.step (h : Dated past t) (hd : 0 < t.breaker.config.openDuration.nanos) (e : Event) :
    Dated (past ++ [e]) (t.step e).2 := by
  have he := step_effect t e
  have hlast : e ∈ past ++ [e] := by simp
  refine ⟨fun o ho => ?_, fun hs o ho => ?_⟩
  · rcases he.openedAt ho with ho | rfl
    · obtain ⟨f, hf, hfo⟩ := h.opened o ho
      exact ⟨f, List.mem_append_left _ hf, hfo⟩
    · exact ⟨e, hlast, rfl⟩
  · rw [he.config]
    rcases he.probed hd hs ho with ⟨hs, ho⟩ | hle
    · obtain ⟨f, hf, hle⟩ := h.probed hs o ho
      exact ⟨f, List.mem_append_left _ hf, hle⟩
    · exact ⟨e, hlast, hle⟩

lemma Dated.run (h : Dated past t) (hd : 0 < t.breaker.config.openDuration.nanos)
    (es : List Event) : Dated (past ++ es) (t.run es) := by
  induction es generalizing t past with
  | nil => simpa [Traffic.run] using h
  | cons e es ih =>
    have hrest := ih (h.step hd e) (by rwa [(step_effect t e).config])
    rwa [List.append_assoc] at hrest

lemma Undecided.run (h : t.Undecided es) (hs : t.breaker.state ≠ .closed) :
    (t.run es).breaker.state ≠ .closed ∧ (t.run es).breaker.openedAt = t.breaker.openedAt ∧
      (t.run es).breaker.trial = t.breaker.trial := by
  induction es generalizing t with
  | nil => exact ⟨hs, rfl, rfl⟩
  | cons e es ih =>
    obtain ⟨⟨hr, hok, hfail⟩, hrest⟩ := List.forall_mem_cons.mp h
    obtain ⟨hs', ho, htrial⟩ := (step_effect t e).undecided hs hr hok hfail
    rw [← htrial] at hrest
    obtain ⟨hs'', ho', htrial'⟩ := ih hrest hs'
    exact ⟨hs'', ho'.trans ho, htrial'.trans htrial⟩

lemma Shut.run (h : t.Shut es) (ht : Trials t) (hs : t.breaker.state = .opened) :
    (t.run es).breaker.state = .opened ∧ (t.run es).breaker.openedAt = t.breaker.openedAt ∧
      (t.run es).breaker.trial = t.breaker.trial := by
  induction es generalizing t with
  | nil => exact ⟨hs, rfl, rfl⟩
  | cons e es ih =>
    obtain ⟨⟨hr, hn⟩, hrest⟩ := List.forall_mem_cons.mp h
    have he := step_effect t e
    obtain ⟨hs', ho, htrial⟩ := he.shut ht hs hr hn
    obtain ⟨hs'', ho', htrial'⟩ := ih hrest (he.trials ht) hs'
    exact ⟨hs'', ho'.trans ho, htrial'.trans htrial⟩

section

variable {c : BreakerConfig} {b : Breaker} (hb : Breaker.ofConfig c = .ok b)

include hb

lemma dated_start_run (es : List Event) : Dated es ((start b).run es) := by
  obtain ⟨hv, rfl⟩ := Breaker.ofConfig_eq_ok hb
  have hd := (BreakerConfig.pos_of_validate hv).2
  have hs : Dated [] (start { config := c }) := ⟨nofun, nofun⟩
  exact hs.run hd es

lemma exists_openedAt (past : List Event) (hs : ((start b).run past).breaker.state ≠ .closed) :
    ∃ o, ((start b).run past).breaker.openedAt = some o :=
  Option.ne_none_iff_exists'.mp (mt (wellFormed_start_run hb past).openedAt.mp hs)

lemma ask_opened (past : List Event) (o now : Nat)
    (hs : ((start b).run past).breaker.state = .opened)
    (ho : ((start b).run past).breaker.openedAt = some o)
    (hin : Ordered (past ++ [⟨now, .enter⟩])) :
    (o + c.openDuration.nanos ≤ now ∧
      ((start b).run past).ask now = .admitted ((start b).run past).breaker.trial) ∨
    (now < o + c.openDuration.nanos ∧ ∃ r : Duration,
      ((start b).run past).ask now = .rejected (.circuitOpen r) ∧
        r.nanos = o + c.openDuration.nanos - now) := by
  have hd := (BreakerConfig.pos_of_validate (Breaker.ofConfig_eq_ok hb).1).2
  have hc := config_start_run hb past
  obtain ⟨e, he, rfl⟩ := (dated_start_run hb past).opened o ho
  rw [← hc] at hd ⊢
  exact (step_effect _ ⟨now, .enter⟩).ask_opened rfl hs (wellFormed_start_run hb past) ho hd
    (now_le_of_ordered hin he)

lemma rejected_ask_opened {r : Duration} (past : List Event)
    (hs : ((start b).run past).breaker.state = .opened)
    (ho : ((start b).run past).breaker.openedAt = some o)
    (hin : Ordered (past ++ [⟨now, .enter⟩]))
    (ha : ((start b).run past).ask now = .rejected (.circuitOpen r)) :
    now + r.nanos = o + c.openDuration.nanos := by
  rcases ask_opened hb past o now hs ho hin with ⟨_, ha'⟩ | ⟨hlt, r', ha', hr⟩ <;> rw [ha] at ha' <;>
    cases ha'
  omega

lemma ask_of_shut {r : Duration} {now' : Nat} (past : List Event)
    (hs : ((start b).run past).breaker.state = .opened)
    (ha : ((start b).run past).ask now = .rejected (.circuitOpen r))
    (hshut : (((start b).run past).step ⟨now, .enter⟩).2.Shut es)
    (hin : Ordered (past ++ ⟨now, .enter⟩ :: es ++ [⟨now', .enter⟩])) :
    (now' < now + r.nanos →
      ∃ f, (((start b).run past).run (⟨now, .enter⟩ :: es)).ask now' = .rejected f) ∧
    (now + r.nanos ≤ now' → (((start b).run past).run (⟨now, .enter⟩ :: es)).ask now' =
      .admitted ((start b).run past).breaker.trial) := by
  have ht := trials_start_run hb past
  obtain ⟨o, ho⟩ := exists_openedAt hb past (by simp [hs])
  have hfirst : Ordered (past ++ [⟨now, .enter⟩]) := by
    refine List.Pairwise.sublist ?_ hin
    simp
  have htold := rejected_ask_opened hb past hs ho hfirst ha
  have he := step_effect ((start b).run past) ⟨now, .enter⟩
  rw [show (((start b).run past).step ⟨now, .enter⟩).1 = _ from ha] at he
  obtain ⟨hs', ho', htrial'⟩ := he.shut ht hs nofun rfl
  obtain ⟨hs'', ho'', htrial''⟩ := hshut.run (he.trials ht) hs'
  have hlast := ask_opened hb (past ++ ⟨now, .enter⟩ :: es) o now'
  rw [run_append] at hlast
  rcases hlast hs'' (ho''.trans (ho'.trans ho)) hin with ⟨hle, ha'⟩ | ⟨hlt, r', ha', _⟩
  · refine ⟨fun hlt => absurd hle (by omega), fun _ => ?_⟩
    rw [ha']
    exact congrArg _ (htrial''.trans htrial')
  · exact ⟨fun _ => ⟨_, ha'⟩, fun hle => absurd hlt (by omega)⟩

lemma ask_of_undecided (past : List Event)
    (hs : ((start b).run past).breaker.state = .halfOpen)
    (hundecided : ((start b).run past).Undecided es)
    (hin : Ordered (past ++ es ++ [⟨now, .enter⟩]))
    (hs' : (((start b).run past).run es).breaker.state = .opened) :
    (((start b).run past).run es).ask now = .admitted ((start b).run past).breaker.trial := by
  obtain ⟨o, ho⟩ := exists_openedAt hb past (by simp [hs])
  obtain ⟨e, he, hle⟩ := (dated_start_run hb past).probed hs o ho
  rw [config_start_run hb past] at hle
  have hnow : e.now ≤ now := now_le_of_ordered hin (List.mem_append_left _ he)
  obtain ⟨_, ho', htrial'⟩ := hundecided.run (by simp [hs])
  have hlast := ask_opened hb (past ++ es) o now
  rw [run_append] at hlast
  rcases hlast hs' (ho'.trans ho) hin with ⟨_, ha⟩ | ⟨hlt, _⟩
  · rw [ha]
    exact congrArg _ htrial'
  · omega

end

theorem open_period_lasts_as_told {c : BreakerConfig} {b : Breaker}
    (hb : Breaker.ofConfig c = .ok b) (past : List Event) :
    OpenPeriod c past ((start b).run past) where
  opened hs := by
    obtain ⟨o, ho⟩ := exists_openedAt hb past (by simp [hs])
    refine ⟨o, ho, fun now hin => ?_⟩
    rcases ask_opened hb past o now hs ho hin with ⟨hle, ha⟩ | ⟨hlt, r, ha, hr⟩
    · have hnot : ¬ now < o + c.openDuration.nanos := Nat.not_lt_of_le hle
      simp [ha, hnot]
    · exact ⟨⟨fun _ => hlt, fun _ => ⟨_, ha⟩⟩, fun _ => ⟨r, ha, hr, by omega⟩⟩
  halfOpen hs now := (step_effect _ ⟨now, .enter⟩).ask_halfOpen rfl hs
  kept hs _ _ _ _ ha hshut hin := ask_of_shut hb past hs ha hshut hin
  abandoned hs _ _ hundecided hin hs' := ask_of_undecided hb past hs hundecided hin hs'

def firstFails : List Event := [⟨0, .enter⟩, ⟨0, .enter⟩, ⟨5, .settle 0 .failure⟩]

def secondFailsLate : List Event := [⟨100, .enter⟩, ⟨200, .settle 1 .failure⟩]

theorem firstFails_lasts_as_told :
    Breaker.ofConfig (opensAfter 1) = .ok { config := opensAfter 1 } ∧
    ((start { config := opensAfter 1 }).run firstFails).ask 7 =
      .rejected (.circuitOpen (.ofNanos 999998)) ∧
    (((start { config := opensAfter 1 }).run firstFails).run
      (⟨7, .enter⟩ :: secondFailsLate)).ask 1000005 = .admitted ⟨.trial, 0⟩ := by
  have hb : Breaker.ofConfig (opensAfter 1) = .ok { config := opensAfter 1 } := rfl
  have ha : ((start { config := opensAfter 1 }).run firstFails).ask 7 =
      .rejected (.circuitOpen (.ofNanos 999998)) := by decide
  have hshut : (((start { config := opensAfter 1 }).run firstFails).step ⟨7, .enter⟩).2.Shut
      secondFailsLate := by
    simp only [Shut]
    decide
  have hkept := (open_period_lasts_as_told hb firstFails).kept rfl 7 _ secondFailsLate 1000005 ha
    hshut (by decide)
  exact ⟨hb, ha, hkept.2 (by decide)⟩

end Traffic

end Resilience
