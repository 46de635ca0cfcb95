import Resilience.Proofs.Machine.Reports

namespace Resilience

namespace Machine

variable {β ι ε : Type}

inductive Join where
  | all
  | unordered

namespace Join

def event (is : List Nat) : Join → Event β ι ε
  | all => .joinAll is
  | unordered => .joinUnordered is

def start (work : Work β ι ε) (m : Machine β ι ε) (is : List Nat) : Join → Looked β ι ε
  | all => m.joinAll work is
  | unordered => m.joinUnordered is

end Join

/-- A join of jobs that nobody has waited for before, with what happened up to its last look. While
it goes on, the completions are its own. -/
inductive Joining (work : Work β ι ε) (m : Machine β ι ε) (j : Join) (is : List Nat) :
    List (Event β ι ε) → Looked β ι ε → Prop
  | begun {es : List (Event β ι ε)} : (∀ i ∈ is, ((m.acts work es).job i).delivery ≠ .taken) →
      Joining work m j is (es ++ [j.event is]) (j.start work (m.acts work es) is)
  | looked {es fs : List (Event β ι ε)} {s : Wait β ι ε} {m' : Machine β ι ε} :
      Joining work m j is es (.inl s, m') → (∀ e ∈ fs, ∀ i ∈ is, i ∉ e.takes) →
      Joining work m j is (es ++ fs ++ [.look s]) (s.look work (m'.acts work fs))

def Passes (work : Work β ι ε) (m m' : Machine β ι ε) : Prop :=
  ∃ es : List (Event β ι ε), (∀ e ∈ es, e.takes = []) ∧ Sparing work m es ∧ m' = m.acts work es

section

variable {work : Work β ι ε} {m m' m'' : Machine β ι ε}

namespace Passes

lemma refl : Passes work m m := ⟨[], by simp, trivial, rfl⟩

lemma trans (h : Passes work m m') (h' : Passes work m' m'') : Passes work m m'' := by
  obtain ⟨es, hes, hspare, rfl⟩ := h
  obtain ⟨fs, hfs, hspare', rfl⟩ := h'
  exact ⟨es ++ fs, List.forall_mem_append.2 ⟨hes, hfs⟩, sparing_append.2 ⟨hspare, hspare'⟩,
    (acts_append ..).symm⟩

lemma act {e : Event β ι ε} (he : e.takes = []) (hspare : e.Spares work m) :
    Passes work m (m.act work e) :=
  ⟨[e], by simpa using he, ⟨hspare, trivial⟩, rfl⟩

lemma foldl_step (is : List Nat) : Passes work m (is.foldl (step work) m) := by
  induction is generalizing m with
  | nil => exact .refl
  | cons i is ih => exact .trans (.act (e := .run i) rfl trivial) ih

lemma run (fuel : Nat) : Passes work m (m.run work fuel) := by
  induction fuel generalizing m with
  | zero => exact .refl
  | succ fuel ih =>
    unfold Machine.run
    split
    · exact .refl
    · exact (foldl_step _).trans ih

lemma moveOn (limit : Nat) (s : Wait β ι ε) : Passes work m (s.moveOn work limit m) := by
  obtain ⟨k, hk⟩ : ∃ k, s.moveOn work limit m = { m with clock := k } := ⟨_, rfl⟩
  have hact : { m with clock := k } = m.act work (.outside { m.toWorld with clock := k }) :=
    (if_pos (List.Subset.refl _)).symm
  rw [hk, hact]
  refine .act rfl ?_
  exact congrArg (·.breakers) hact.symm

end Passes

inductive LooksUntil (work : Work β ι ε) :
    Wait β ι ε → Machine β ι ε → Reply → Machine β ι ε → Prop
  | replied {s : Wait β ι ε} {m m₁ m' : Machine β ι ε} {reply : Reply} :
      Passes work m m₁ → s.look work m₁ = (.inr reply, m') → LooksUntil work s m reply m'
  | goesOn {s s' : Wait β ι ε} {m m₁ m₂ m' : Machine β ι ε} {reply : Reply} :
      Passes work m m₁ → s.look work m₁ = (.inl s', m₂) → LooksUntil work s' m₂ reply m' →
      LooksUntil work s m reply m'

lemma Passes.looksUntil {s : Wait β ι ε} {reply : Reply} (hpasses : Passes work m m')
    (h : LooksUntil work s m' reply m'') : LooksUntil work s m reply m'' := by
  cases h with
  | replied hnext hlook => exact .replied (hpasses.trans hnext) hlook
  | goesOn hnext hlook h => exact .goesOn (hpasses.trans hnext) hlook h

theorem looksUntil_of_rounds {s : Wait β ι ε} {limit fuel : Nat} {reply : Reply}
    (h : s.rounds work limit fuel m = (some reply, m')) : LooksUntil work s m reply m' := by
  induction fuel generalizing s m with
  | zero => cases h
  | succ fuel ih =>
    have hrun : Passes work m (m.run work patience) := .run patience
    unfold Wait.rounds at h
    dsimp only at h
    generalize m.run work patience = m₁ at h hrun
    generalize (!s.ready work m₁) = idle at h
    split at h
    · cases h
    · have hmoved : Passes work m (if idle then s.moveOn work limit m₁ else m₁) := by
        split
        · exact hrun.trans (.moveOn limit s)
        · exact hrun
      generalize (if idle then s.moveOn work limit m₁ else m₁) = m₂ at h hmoved
      -- A round without a look is part of what passes before the next one.
      split at h
      · split at h <;> rename_i hlook
        · cases h
          exact .replied hmoved hlook
        · exact .goesOn hmoved hlook (ih h)
      · exact hmoved.looksUntil (ih h)

section

variable {j : Join} {is : List Nat} {es fs : List (Event β ι ε)} {s : Wait β ι ε}
  {out : Looked β ι ε}

lemma Joining.acts (h : Joining work m j is es out) : out.2 = m.acts work es := by
  induction h with
  | begun =>
    rw [acts_append]
    cases j <;> rfl
  | looked _ _ ih =>
    rw [acts_append, acts_append, ← ih]
    rfl

lemma looksOnly_of_look {s' : Wait β ι ε} (hs : looksOnly s = true)
    (h : (s.look work m).1 = .inl s') : looksOnly s' = true := by
  cases s with
  | call => cases hs
  | _ =>
    simp only [Wait.look, Wait.ofPause, Wait.ofResult, Wait.lookEach] at h
    repeat' split at h
    all_goals cases h <;> rfl

lemma Joining.looksOnly (h : Joining work m j is es out) (hs : out.1 = .inl s) :
    looksOnly s = true := by
  induction h generalizing s with
  | begun =>
    cases j with
    | all => exact looksOnly_of_look rfl hs
    | unordered =>
      simp only [Join.start, joinUnordered, Wait.lookEach] at hs
      repeat' split at hs
      all_goals cases hs <;> rfl
  | looked _ _ ih => exact looksOnly_of_look (ih rfl) hs

lemma Joining.look (hj : Joining work m j is es (.inl s, m')) (hpasses : Passes work m' m'') :
    ∃ es', Joining work m j is es' (s.look work m'') ∧
      (Sparing work m es → Sparing work m es') := by
  obtain ⟨fs, hfs, hspare, rfl⟩ := hpasses
  refine ⟨es ++ fs ++ [.look s], hj.looked fun e he i _ => ?_, fun hes => ?_⟩
  · rw [hfs e he]
    exact List.not_mem_nil
  · refine sparing_append.2 ⟨sparing_append.2 ⟨hes, hj.acts ▸ hspare⟩, ?_, trivial⟩
    exact Event.spares_of_consumes (e := .look s) (hj.looksOnly rfl) _

theorem Joining.looksUntil {reply : Reply} (h : LooksUntil work s m' reply m'')
    (hj : Joining work m j is es (.inl s, m')) :
    ∃ es', Joining work m j is es' (.inr reply, m'') ∧
      (Sparing work m es → Sparing work m es') := by
  induction h generalizing es with
  | replied hpasses hlook =>
    rw [← hlook]
    exact hj.look hpasses
  | goesOn hpasses hlook _ ih =>
    obtain ⟨fs, hfs, hspare⟩ := hj.look hpasses
    rw [hlook] at hfs
    obtain ⟨es', hj', hspare'⟩ := ih hfs
    exact ⟨es', hj', hspare' ∘ hspare⟩

theorem Joining.finishBy_sparing (hj : Joining work m j is es out) {limit : Nat} {reply : Reply}
    (h : Wait.finishBy work limit out = (some reply, m')) :
    ∃ es', Joining work m j is es' (.inr reply, m') ∧
      (Sparing work m es → Sparing work m es') := by
  unfold Wait.finishBy at h
  split at h
  · cases h
    exact ⟨es, hj, id⟩
  · exact hj.looksUntil (looksUntil_of_rounds h)

theorem exists_joining_of_finishBy (hnew : ∀ i ∈ is, (m.job i).delivery ≠ .taken) {limit : Nat}
    {reply : Reply} (h : Wait.finishBy work limit (j.start work m is) = (some reply, m')) :
    ∃ es, Joining work m j is es (.inr reply, m') ∧ Sparing work m es := by
  have hbegun : Joining work m j is ([] ++ [j.event is]) (j.start work m is) := .begun hnew
  have hspare : Sparing work m [j.event is] := by
    refine ⟨Event.spares_of_consumes ?_ m, trivial⟩
    cases j <;> rfl
  obtain ⟨es, hj, hes⟩ := hbegun.finishBy_sparing h
  exact ⟨es, hj, hes hspare⟩

theorem Joining.finishBy (hj : Joining work m j is es out) {limit : Nat} {reply : Reply}
    (h : Wait.finishBy work limit out = (some reply, m')) :
    ∃ es', Joining work m j is es' (.inr reply, m') := by
  obtain ⟨es', hj', -⟩ := hj.finishBy_sparing h
  exact ⟨es', hj'⟩

end

end

def resultAt (m : Machine β ι ε) (i : Nat) : Option Outcome :=
  match (m.job i).delivery with
  | .arrived report _ => some (outcomeOf report)
  | .awaited | .taken => none

def refill (m : Machine β ι ε) (slots : List (Nat × Option Outcome)) :
    List (Nat × Option Outcome) :=
  slots.map fun s => (s.1, s.2.or (m.resultAt s.1))

def takings (m : Machine β ι ε) (here : List (Nat × Nat)) : List (Nat × Nat × Outcome) :=
  here.map fun p => (p.1, m.now, (m.resultAt p.2).getD (.error .aborted))

section

variable {work : Work β ι ε} {m m' : Machine β ι ε} {i k : Nat}

lemma not_taken_acts (hi : i < m.jobs.size) {fs : List (Event β ι ε)}
    (hfs : ∀ e ∈ fs, i ∉ e.takes) (hd : (m.job i).delivery ≠ .taken) :
    ((m.acts work fs).job i).delivery ≠ .taken := by
  induction fs generalizing m with
  | nil => exact hd
  | cons e fs ih =>
    obtain ⟨he, hfs⟩ := List.forall_mem_cons.1 hfs
    have hdeed := act_deed work m e
    exact ih (Nat.lt_of_lt_of_le hi hdeed.size_le) hfs (hdeed.not_taken hi he hd)

lemma resultAt_takeResult (h : k ≠ i) : (m.takeResult i).2.resultAt k = m.resultAt k := by
  rw [resultAt, job_takeResult h, resultAt]

lemma now_takeResult (m : Machine β ι ε) (i : Nat) : (m.takeResult i).2.now = m.now :=
  congrArg (·.now) (Taking.takeResult m (List.mem_singleton_self i)).world

lemma takeResult_eq (h : (m.job i).delivery ≠ .taken) :
    (m.takeResult i).1 = (m.resultAt i).map .ok := by
  cases hd : (m.job i).delivery with
  | awaited | arrived => simp [takeResult, resultAt, hd]
  | taken => exact absurd hd h

lemma awaited_of_resultAt (h : (m.job i).delivery ≠ .taken) (hr : m.resultAt i = none) :
    (m.job i).delivery = .awaited := by
  unfold resultAt at hr
  split at hr
  · cases hr
  · assumption
  · contradiction

lemma not_taken_of_resultAt {r : Outcome} (hr : m.resultAt i = some r) :
    (m.job i).delivery ≠ .taken := by
  intro ht
  simp [resultAt, ht] at hr

lemma hasResult_eq_false (h : m.hasResult i = false) : (m.job i).delivery = .awaited := by
  unfold hasResult at h
  split at h
  · assumption
  · cases h

lemma isSome_resultAt (h : (m.job i).delivery ≠ .taken) (hr : m.hasResult i = true) :
    ∃ r, m.resultAt i = some r := by
  cases hn : m.resultAt i with
  | some r => exact ⟨r, rfl⟩
  | none => simp [hasResult, awaited_of_resultAt h hn] at hr

lemma Spent.awaited (h : Spent m m') (hd : (m.job i).delivery = .awaited) :
    (m'.job i).delivery = .awaited := by
  have := h.delivery i
  rw [hd] at this
  generalize (m'.job i).delivery = d at this
  cases this
  rfl

lemma refill_takeResult {slots : List (Nat × Option Outcome)} (h : ∀ s ∈ slots, s.1 ≠ i) :
    (m.takeResult i).2.refill slots = m.refill slots := by
  apply List.map_congr_left
  intro s hs
  rw [resultAt_takeResult (h s hs)]

lemma fill_eq {slots : List (Nat × Option Outcome)} (hn : (slots.map (·.1)).Nodup)
    (ht : ∀ s ∈ slots, s.2 = none → (m.job s.1).delivery ≠ .taken) :
    (Wait.fill m slots).1 = .ok (m.refill slots) := by
  induction slots generalizing m with
  | nil => rfl
  | cons slot rest ih =>
    obtain ⟨i, r⟩ := slot
    rw [List.map_cons, List.nodup_cons] at hn
    obtain ⟨hslot, hopen⟩ := List.forall_mem_cons.1 ht
    cases r with
    | some r =>
      have hrest := ih hn.2 hopen
      simp only [Wait.fill, hrest]
      rfl
    | none =>
      -- No job stands in two slots, so to take one result leaves the other slots as they are.
      have hne : ∀ s ∈ rest, s.1 ≠ i := fun s hs h => hn.1 (List.mem_map.2 ⟨s, hs, h⟩)
      have htake := takeResult_eq (hslot rfl)
      have hrest := ih (m := (m.takeResult i).2) hn.2 fun s hs hnone => by
        rw [job_takeResult (hne s hs)]
        exact hopen s hs hnone
      rw [refill_takeResult hne] at hrest
      unfold Wait.fill
      split <;> rename_i heq <;> rw [heq] at htake hrest
      · cases hr : m.resultAt i <;> rw [hr] at htake <;> cases htake
      · dsimp only at htake hrest ⊢
        rw [hrest, htake, refill, refill, List.map_cons]
        dsimp only
        cases m.resultAt i <;> rfl

lemma look_all_eq (work : Work β ι ε) {slots : List (Nat × Option Outcome)}
    (hn : (slots.map (·.1)).Nodup)
    (ht : ∀ s ∈ slots, s.2 = none → (m.job s.1).delivery ≠ .taken) :
    (Wait.all slots).look work m =
      (if (m.refill slots).all (·.2.isSome) then
        .inr (.outcomes ((m.refill slots).filterMap (·.2)))
      else .inl (.all (m.refill slots)), (Wait.fill m slots).2) := by
  have hfill := fill_eq hn ht
  simp only [Wait.look]
  split <;> rename_i heq <;> rw [heq] at hfill <;> cases hfill
  rw [heq]
  split <;> rfl

lemma takings_takeResult {here : List (Nat × Nat)} (h : ∀ p ∈ here, p.2 ≠ i) :
    (m.takeResult i).2.takings here = m.takings here := by
  apply List.map_congr_left
  intro p hp
  rw [resultAt_takeResult (h p hp), now_takeResult]

lemma collect_eq {here : List (Nat × Nat)} (arrived : List (Nat × Nat × Outcome))
    (hn : (here.map (·.2)).Nodup) (hr : ∀ p ∈ here, ∃ r, m.resultAt p.2 = some r) :
    (Wait.collect m here arrived).1 = .ok (arrived ++ m.takings here) := by
  induction here generalizing m arrived with
  | nil => simp [Wait.collect, takings]
  | cons p rest ih =>
    obtain ⟨place, i⟩ := p
    rw [List.map_cons, List.nodup_cons] at hn
    obtain ⟨⟨r, hi⟩, hr⟩ := List.forall_mem_cons.1 hr
    have hne : ∀ p ∈ rest, p.2 ≠ i := fun p hp h => hn.1 (List.mem_map.2 ⟨p, hp, h⟩)
    have htake := takeResult_eq (not_taken_of_resultAt hi)
    have hnow := now_takeResult m i
    have hrest : (Wait.collect (m.takeResult i).2 rest (arrived ++ [(place, m.now, r)])).1 = _ :=
      ih _ hn.2 fun p hp => by
        rw [resultAt_takeResult (hne p hp)]
        exact hr p hp
    rw [takings_takeResult hne] at hrest
    rw [hi] at htake
    unfold Wait.collect
    split <;> rename_i heq <;> rw [heq] at htake hrest hnow
    · cases htake
    · cases htake
      dsimp only at hrest hnow ⊢
      rw [hnow, hrest, takings, takings, List.map_cons, hi]
      simp
    · cases htake

lemma lookEach_eq {here : List (Nat × Nat)} (rest : List (Nat × Nat))
    (arrived : List (Nat × Nat × Outcome)) (hn : (here.map (·.2)).Nodup)
    (hr : ∀ p ∈ here, ∃ r, m.resultAt p.2 = some r) :
    Wait.lookEach m rest here arrived =
      (if rest.isEmpty then .inr (.arrivals (arrived ++ m.takings here))
      else .inl (.each rest (arrived ++ m.takings here)), (Wait.collect m here arrived).2) := by
  have hcollect := collect_eq arrived hn hr
  unfold Wait.lookEach
  split <;> rename_i heq <;> rw [heq] at hcollect <;> cases hcollect
  rw [heq]
  split <;> rfl

end

structure Accounts (work : Work β ι ε) (m : Machine β ι ε) (is : List Nat)
    (reports : List (Event β ι ε) → Nat → Option Outcome → Prop) : Prop where
  nodup : is.Nodup
  lt_size : ∀ i ∈ is, i < m.jobs.size
  awaited : ∀ es, ∀ i ∈ is, ((m.acts work es).job i).delivery = .awaited →
    ∀ report, ¬reports es i report
  arrived : ∀ es, ∀ i ∈ is, ∀ report order,
    ((m.acts work es).job i).delivery = .arrived report order → reports es i report
  append : ∀ es fs, ∀ i ∈ is, ∀ report, reports es i report → reports (es ++ fs) i report

section

variable {work : Work β ι ε} {m : Machine β ι ε} {is : List Nat}
  {reports : List (Event β ι ε) → Nat → Option Outcome → Prop} {es fs : List (Event β ι ε)}
  {i : Nat} {r : Outcome} {out : Looked β ι ε}

def Reads (reports : List (Event β ι ε) → Nat → Option Outcome → Prop) (es : List (Event β ι ε))
    (i : Nat) (r : Outcome) : Prop :=
  ∃ report, reports es i report ∧ r = outcomeOf report

lemma Accounts.reads_resultAt (h : Accounts work m is reports) (hi : i ∈ is)
    (hr : (m.acts work es).resultAt i = some r) : Reads reports es i r := by
  unfold resultAt at hr
  split at hr
  · rename_i report order hd
    cases hr
    exact ⟨report, h.arrived es i hi report order hd, rfl⟩
  · cases hr
  · cases hr

lemma Accounts.reads_append (h : Accounts work m is reports) (hi : i ∈ is)
    (hr : Reads reports es i r) (fs : List (Event β ι ε)) : Reads reports (es ++ fs) i r := by
  obtain ⟨report, hreport, rfl⟩ := hr
  exact ⟨report, h.append es fs i hi report hreport, rfl⟩

structure Filling (work : Work β ι ε) (m : Machine β ι ε) (is : List Nat)
    (reports : List (Event β ι ε) → Nat → Option Outcome → Prop) (es : List (Event β ι ε))
    (slots : List (Nat × Option Outcome)) : Prop where
  jobs : slots.map (·.1) = is
  filled : ∀ s ∈ slots, ∀ r, s.2 = some r → Reads reports es s.1 r
  unfilled : ∀ s ∈ slots, s.2 = none → ((m.acts work es).job s.1).delivery ≠ .taken

lemma Filling.mem {slots : List (Nat × Option Outcome)}
    (h : Filling work m is reports es slots) {s : Nat × Option Outcome}
    (hs : s ∈ slots) : s.1 ∈ is :=
  h.jobs ▸ List.mem_map_of_mem hs

lemma Filling.acts {slots : List (Nat × Option Outcome)}
    (h : Filling work m is reports es slots) (hacc : Accounts work m is reports)
    (hfs : ∀ e ∈ fs, ∀ i ∈ is, i ∉ e.takes) : Filling work m is reports (es ++ fs) slots where
  jobs := h.jobs
  filled s hs r hr := hacc.reads_append (h.mem hs) (h.filled s hs r hr) fs
  unfilled s hs hnone := by
    rw [acts_append]
    have hi := Nat.lt_of_lt_of_le (hacc.lt_size s.1 (h.mem hs)) (size_le_acts work m es)
    exact not_taken_acts hi (fun e he => hfs e he s.1 (h.mem hs)) (h.unfilled s hs hnone)

lemma forall₂_filterMap {slots : List (Nat × Option Outcome)} {P : Nat → Outcome → Prop}
    (hall : ∀ s ∈ slots, s.2.isSome) (hP : ∀ s ∈ slots, ∀ r, s.2 = some r → P s.1 r) :
    List.Forall₂ P (slots.map (·.1)) (slots.filterMap (·.2)) := by
  induction slots with
  | nil => exact .nil
  | cons s slots ih =>
    obtain ⟨i, r⟩ := s
    obtain ⟨hs, hrest⟩ := List.forall_mem_cons.1 hall
    obtain ⟨hPs, hPrest⟩ := List.forall_mem_cons.1 hP
    obtain ⟨r, rfl⟩ := Option.isSome_iff_exists.1 hs
    exact .cons (hPs r rfl) (ih hrest hPrest)

lemma Filling.refilled {slots : List (Nat × Option Outcome)}
    (h : Filling work m is reports es slots) (hacc : Accounts work m is reports)
    (fs : List (Event β ι ε)) : ∀ s ∈ (m.acts work es).refill slots, ∀ r, s.2 = some r →
      Reads reports (es ++ fs) s.1 r := by
  intro s' hs' r hr
  obtain ⟨s, hs, rfl⟩ := List.mem_map.1 hs'
  apply hacc.reads_append (h.mem hs)
  rcases Option.or_eq_some_iff.1 hr with hr | ⟨-, hr⟩
  · exact h.filled s hs r hr
  · exact hacc.reads_resultAt (h.mem hs) hr

lemma Filling.awaited {slots : List (Nat × Option Outcome)}
    (h : Filling work m is reports es slots) : ∀ s ∈ (m.acts work es).refill slots, s.2 = none →
      ((Wait.fill (m.acts work es) slots).2.job s.1).delivery = .awaited := by
  intro s' hs' hnone
  obtain ⟨s, hs, rfl⟩ := List.mem_map.1 hs'
  obtain ⟨hopen, hr⟩ := Option.or_eq_none_iff.1 hnone
  have hspent := (Taking.fill (m.acts work es) (List.Subset.refl (slots.map (·.1)))).toSpent
  exact hspent.awaited (awaited_of_resultAt (h.unfilled s hs hopen) hr)

lemma Filling.look {slots : List (Nat × Option Outcome)} (h : Filling work m is reports es slots)
    (hacc : Accounts work m is reports) {e : Event β ι ε}
    (he : (m.acts work es).act work e = ((Wait.all slots).look work (m.acts work es)).2) :
    (∃ rs, ((Wait.all slots).look work (m.acts work es)).1 = .inr (.outcomes rs) ∧
      List.Forall₂ (Reads reports (es ++ [e])) is rs) ∨
    (∃ slots', ((Wait.all slots).look work (m.acts work es)).1 = .inl (.all slots') ∧
      Filling work m is reports (es ++ [e]) slots' ∧
      ∃ i ∈ is, ((m.acts work (es ++ [e])).job i).delivery = .awaited) := by
  have hlook := look_all_eq work (h.jobs ▸ hacc.nodup) h.unfilled
  have hnext : m.acts work (es ++ [e]) = (Wait.fill (m.acts work es) slots).2 := by
    rw [acts_append]
    exact he.trans (congrArg (·.2) hlook)
  have hjobs : ((m.acts work es).refill slots).map (·.1) = is := by
    rw [refill, List.map_map]
    exact h.jobs
  have hfilled := h.refilled hacc [e]
  have hawaited := h.awaited
  rw [hlook]
  generalize (m.acts work es).refill slots = slots' at *
  rw [← hnext] at hawaited
  split
  · rename_i hall
    left
    refine ⟨_, rfl, ?_⟩
    rw [← hjobs]
    apply forall₂_filterMap _ hfilled
    simpa using hall
  · rename_i hall
    right
    obtain ⟨s, hs, hnone⟩ : ∃ s ∈ slots', s.2 = none := by simpa using hall
    refine ⟨slots', rfl, ⟨hjobs, hfilled, ?_⟩, s.1, hjobs ▸ List.mem_map_of_mem hs,
      hawaited s hs hnone⟩
    intro s hs hnone
    exact (hawaited s hs hnone).symm ▸ nofun

lemma Joining.all (hacc : Accounts work m is reports) (hj : Joining work m .all is es out) :
    (∃ rs, out.1 = .inr (.outcomes rs) ∧ List.Forall₂ (Reads reports es) is rs) ∨
    (∃ slots, out.1 = .inl (.all slots) ∧ Filling work m is reports es slots ∧
      ∃ i ∈ is, ((m.acts work es).job i).delivery = .awaited) := by
  induction hj with
  | @begun es hnew =>
    have hstart : Filling work m is reports es (is.map (·, none)) := by
      refine ⟨by simp [Function.comp_def], ?_, ?_⟩
      · simp
      · simpa using hnew
    exact hstart.look hacc rfl
  | @looked es fs s m' hj hfs ih =>
    have hm' : m' = m.acts work es := hj.acts
    rcases ih with ⟨rs, ⟨⟩, -⟩ | ⟨slots, hslots, hfilling, -⟩
    cases hslots
    have hgo := hfilling.acts hacc hfs
    rw [hm', ← acts_append]
    exact hgo.look hacc rfl

end

end Machine

end Resilience
