import Mathlib.Algebra.BigOperators.Group.List.Basic
import Mathlib.Algebra.GroupWithZero.Nat
import Resilience.Proofs.Call.Fleet
import Resilience.Proofs.Call.Pipeline

namespace Resilience

namespace Call

variable {β ι ε : Type}

def Strand.underway (s : Strand β ι ε) : Bool :=
  !s.dropped && match s.reached.1 with
    | .pending _ => true
    | _ => false

lemma Strand.pending_of_underway {s : Strand β ι ε} (h : s.underway = true) :
    ∃ c, s.reached.1 = .pending c := by
  unfold underway at h
  split at h
  · exact ⟨_, ‹_›⟩
  · simp at h

lemma limiters_drop (work : Work β ι ε) (c : Call β ι ε) (w : World ε) :
    (c.drop work w).limiters = w.limiters := by
  induction c generalizing w with
  | working _ | queueing | pausing => rfl
  | timed _ _ _ _ c ih | admitted _ _ c ih | attempting _ _ _ _ _ c ih | observed _ c ih =>
    exact ih w

namespace Fleet

structure Entry (β ι ε : Type) where
  strand : Strand β ι ε
  attempts : List (Attempt ε)

structure Ledger (work : Work β ι ε) (p : Pipeline) (l b : Nat) (draw : ε → Float × ε)
    (f : Fleet β ι ε) (entries : List (Entry β ι ε)) : Prop where
  strands : entries.map Entry.strand = f.strands
  told : ∀ e ∈ entries, piped work p l b draw e.strand.task e.strand.context e.strand.began
    e.strand.looks e.attempts e.strand.reached

def total (count : Attempt ε → Nat) (entries : List (Entry β ι ε)) : Nat :=
  (entries.map fun e => (e.attempts.map count).sum).sum

def stillWaiting (entries : List (Entry β ι ε)) : Nat :=
  total Attempt.waits (entries.filter fun e => e.strand.underway)

def droppedWaiting (entries : List (Entry β ι ε)) : Nat :=
  total Attempt.waits (entries.filter fun e => !e.strand.underway)

structure Balanced (work : Work β ι ε) (p : Pipeline) (l b : Nat)
    (entries : List (Entry β ι ε)) : Prop where
  sound : ∀ e ∈ entries, ∀ a ∈ e.attempts, a.Sound l b
  tokens : total Attempt.tokens entries = total Attempt.invocations entries
  admissions : total Attempt.admissions entries = total Attempt.invocations entries +
    (total Attempt.limiterErrors entries + (droppedWaiting entries + stillWaiting entries))
  /-- As long as a guard is not given back, its attempt goes on inside. -/
  inside : ∀ e ∈ entries, e.strand.underway = true → ∀ a ∈ e.attempts, ∀ g,
    a.visit.answer = .ok g → a.back = none → ∃ c c' y, e.strand.reached.1 = .pending c ∧
      Beneath (.admitted b g c') c ∧ ∀ wake, a.answer = some (.wait wake) →
        c' = .queueing l y wake (p.within ++ e.strand.task.layers) e.strand.task.body
  dropped : ∀ e ∈ entries, ∀ c, e.strand.reached.1 = .pending c →
    ∀ w, (c.drop work w).limiters = w.limiters

variable {work : Work β ι ε} {p : Pipeline} {l b : Nat} {draw : ε → Float × ε} {f : Fleet β ι ε}
  {entries : List (Entry β ι ε)}

lemma Genuine.exists_ledger
    (h : f.Genuine work fun t => t.under p (some l) (some b) draw) :
    ∃ entries, f.Ledger work p l b draw entries := by
  obtain ⟨w, strands⟩ := f
  induction strands with
  | nil => exact ⟨[], rfl, List.forall_mem_nil _⟩
  | cons s strands ih =>
    obtain ⟨hs, hrest⟩ := List.forall_mem_cons.mp h
    obtain ⟨entries, hstrands, htold⟩ := ih hrest
    obtain ⟨attempts, ha⟩ := (describes_piped work p l b draw s.task s.context).run_iff.mp hs
    exact ⟨⟨s, attempts⟩ :: entries, congrArg (s :: ·) hstrands,
      List.forall_mem_cons.mpr ⟨ha, htold⟩⟩

lemma total_congr {count count' : Attempt ε → Nat}
    (h : ∀ e ∈ entries, ∀ a ∈ e.attempts, count a = count' a) :
    total count entries = total count' entries := by
  have heach : ∀ e ∈ entries, (e.attempts.map count).sum = (e.attempts.map count').sum :=
    fun e he => congrArg List.sum (List.map_congr_left (h e he))
  exact congrArg List.sum (List.map_congr_left heach)

lemma total_add (count count' : Attempt ε → Nat) (entries : List (Entry β ι ε)) :
    total (fun a => count a + count' a) entries = total count entries + total count' entries := by
  simp only [total, List.sum_map_add]

lemma total_waits (entries : List (Entry β ι ε)) :
    total Attempt.waits entries = droppedWaiting entries + stillWaiting entries := by
  unfold droppedWaiting stillWaiting total
  induction entries with
  | nil => rfl
  | cons e entries ih => cases hu : e.strand.underway <;> simp [hu, ih] <;> omega

theorem tokens_eq_invocations (work : Work β ι ε) (p : Pipeline) (l b : Nat)
    (draw : ε → Float × ε) (f : Fleet β ι ε)
    (hf : f.Reachable work fun t => t.under p (some l) (some b) draw) :
    (∃ entries, f.Ledger work p l b draw entries) ∧
    ∀ entries, f.Ledger work p l b draw entries →
      (∀ e ∈ entries, ∀ a ∈ e.attempts, a.Timely p) → Balanced work p l b entries := by
  refine ⟨hf.genuine.exists_ledger, fun entries hl hd => ?_⟩
  have hsound : ∀ e ∈ entries, ∀ a ∈ e.attempts, a.Sound l b := fun e he =>
    piped_sound (hl.told e he) (hd e he)
  refine ⟨hsound, total_congr fun e he a ha => (hsound e he a ha).tokens_eq, ?_, ?_,
    fun _ _ c _ w => limiters_drop work c w⟩
  · calc total Attempt.admissions entries
        = total (fun a => a.invocations + (a.limiterErrors + a.waits)) entries :=
          total_congr fun e he a ha => (hsound e he a ha).admissions_eq
      _ = total Attempt.invocations entries +
          (total Attempt.limiterErrors entries + total Attempt.waits entries) := by
        rw [total_add, total_add]
      _ = total Attempt.invocations entries + (total Attempt.limiterErrors entries +
          (droppedWaiting entries + stillWaiting entries)) := by rw [total_waits]
  · intro e he hu a ha g hg hback
    obtain ⟨c, hc⟩ := Strand.pending_of_underway hu
    obtain ⟨c', y, hbeneath, hwait⟩ := piped_inside (hl.told e he) hc ha hg hback
    exact ⟨c, c', y, hc, hbeneath, hwait⟩

def hanging : Work Unit Unit Unit where
  start _ _ a := (.pending (), a)
  resume _ a := (.pending (), a)
  abandon _ a := a
  ready _ _ := false
  timers _ := []

def guarded : Pipeline where
  retry := some (.fixed 2 .zero)
  timeout := none
  attemptTimeout := some (.ofMillis 50)
  limiter := some ⟨.full 1 (Scalar.ofNat 10) 0, none⟩
  breaker := some { config := {} }

def unworn : World Unit :=
  { still with
    limiters := #[⟨.full 1 (Scalar.ofNat 10) 0, none⟩]
    breakers := #[{ config := {} }] }

def inGuarded (t : Task Unit Unit) : Task Unit Unit :=
  t.under guarded (some 0) (some 0) (1.0, ·)

def free : Context := ⟨⟨0, []⟩, none⟩

def next (w : World Unit) : Step Unit Unit Unit := ofTask hanging (inGuarded lone) free w

def strand (w : World Unit) : Strand Unit Unit Unit where
  task := lone
  context := free
  began := w
  reached := next w

/-- The call is let in and gets the token, with time for a deadline. -/
def served (w : World Unit) : Bool :=
  match w.enter 0 with
  | (.error _, _) => false
  | (.ok _, v) =>
    match queue 0 free v with
    | (.served, u) => (u.clock.deadline? (.ofMillis 50)).isSome
    | _ => false

def waits (w : World Unit) : Bool :=
  match w.enter 0 with
  | (.error _, _) => false
  | (.ok _, v) =>
    match queue 0 free v with
    | (.wait _, _) => true
    | _ => false

section

variable {w v u : World Unit} {g : Guard} {q : Passage Unit} {c : Call Unit Unit Unit}

lemma piped_of_enter (he : w.enter 0 = (.ok g, v))
    (hq : Queueing (Gathered hanging [] () (invocations hanging lone) guarded.within free) 0 free
      guarded.within () v [] q (.pending c, u)) :
    piped hanging guarded 0 0 (1.0, ·) lone free w []
      [⟨⟨w, .ok g, v⟩, q.looks, some q.answer, q.calls, none⟩] (next w) := by
  have hall : piped hanging guarded 0 0 (1.0, ·) lone free w [] [_] _ :=
    ⟨[[_]], rfl, .underway ⟨_, rfl, .admitted he hq⟩⟩
  have hrun := (describes_piped hanging guarded 0 0 (1.0, ·) lone free).genuine hall
  rwa [hrun.eq_of_nil] at hall

lemma exists_served (h : served w = true) :
    ∃ a : Attempt Unit, piped hanging guarded 0 0 (1.0, ·) lone free w [] [a] (next w) ∧
      a.Timely guarded ∧ a.admissions = 1 ∧ a.tokens = 1 ∧ a.waits = 0 := by
  unfold served at h
  rcases he : w.enter 0 with ⟨e | g, v⟩
  · simp [he] at h
  rcases hq : queue 0 free v with ⟨_ | _ | _, u⟩ <;> simp only [he, hq, Bool.false_eq_true] at h
  obtain ⟨d, hd⟩ := Option.isSome_iff_exists.mp h
  obtain ⟨taken, hg⟩ := exists_look hq
  obtain rfl : taken = true := hg.taken_iff.mpr rfl
  have hopened : Opened (.ofMillis 50) free u d _ _ := ⟨err_of_served hq, hd, rfl⟩
  have htimed : UnderTimeout hanging (Gathered hanging [] () (invocations hanging lone) [])
      (.ofMillis 50) free u [] [[_]] _ :=
    .through hopened ⟨_, rfl, rfl, .begun⟩ (List.forall_mem_nil _)
  refine ⟨_, piped_of_enter he (.served (.begun hg) ⟨_, rfl, htimed⟩),
    List.forall_mem_singleton.mpr fun _ after ha => ?_, rfl, rfl, rfl⟩
  cases ha
  simp [hd]

lemma exists_waiting (h : waits w = true) :
    ∃ a : Attempt Unit, piped hanging guarded 0 0 (1.0, ·) lone free w [] [a] (next w) ∧
      a.Timely guarded ∧ a.admissions = 1 ∧ a.tokens = 0 ∧ a.waits = 1 := by
  unfold waits at h
  rcases he : w.enter 0 with ⟨e | g, v⟩
  · simp [he] at h
  rcases hq : queue 0 free v with ⟨_ | _ | _, u⟩ <;> simp only [he, hq, Bool.false_eq_true] at h
  obtain ⟨taken, hg⟩ := exists_look hq
  obtain rfl : taken = false := hg.not_taken nofun
  exact ⟨_, piped_of_enter he (.waiting (.begun hg)), List.forall_mem_singleton.mpr nofun,
    rfl, rfl, rfl⟩

lemma Reachable.next {strands : List (Strand Unit Unit Unit)}
    (h : Fleet.Reachable hanging inGuarded ⟨w, strands⟩) :
    Fleet.Reachable hanging inGuarded ⟨(next w).2, strands ++ [strand w]⟩ :=
  h.move (.call lone free rfl)

end

/-- Of three calls one has the token, one waits for the next, and one was dropped doing so. -/
theorem dropped_caller_keeps_balance :
    ∃ (f : Fleet Unit Unit Unit) (entries : List (Entry Unit Unit Unit)),
      f.Reachable hanging inGuarded ∧ f.Ledger hanging guarded 0 0 (1.0, ·) entries ∧
      (∀ e ∈ entries, ∀ a ∈ e.attempts, a.Timely guarded) ∧
      total Attempt.admissions entries = 3 ∧ total Attempt.tokens entries = 1 ∧
      stillWaiting entries = 1 ∧ droppedWaiting entries = 1 ∧
      Balanced hanging guarded 0 0 entries := by
  have hcomes : served unworn = true ∧ waits (next unworn).2 = true ∧
      waits (next (next unworn).2).2 = true := by decide +kernel
  have hunderway : (strand unworn).underway = true ∧ (strand (next unworn).2).underway = true ∧
      (strand (next (next unworn).2).2).underway = true := by decide +kernel
  have hcalls := (Reachable.start unworn).next.next.next
  -- From here on the worlds are only known by the facts above: they must not be computed again.
  generalize (next (next unworn).2).2 = w₂ at hcomes hunderway hcalls
  generalize (next unworn).2 = w₁ at hcomes hunderway hcalls
  obtain ⟨hu₀, hu₁, hu₂⟩ := hunderway
  obtain ⟨a₀, ha₀, ht₀, hin₀, htoken₀, hwait₀⟩ := exists_served hcomes.1
  obtain ⟨a₁, ha₁, ht₁, hin₁, htoken₁, hwait₁⟩ := exists_waiting hcomes.2.1
  obtain ⟨a₂, ha₂, ht₂, hin₂, htoken₂, hwait₂⟩ := exists_waiting hcomes.2.2
  obtain ⟨c, hc⟩ := Strand.pending_of_underway hu₂
  let given : Strand Unit Unit Unit := { strand w₂ with dropped := true }
  have hdrop : Move hanging inGuarded
      ⟨(next w₂).2, [strand unworn, strand w₁] ++ strand w₂ :: []⟩
      ⟨c.drop hanging (next w₂).2, [strand unworn, strand w₁] ++ given :: []⟩ :=
    .drop rfl (Prod.ext hc rfl)
  let f : Fleet Unit Unit Unit := ⟨c.drop hanging (next w₂).2, [strand unworn, strand w₁, given]⟩
  let entries : List (Entry Unit Unit Unit) :=
    [⟨strand unworn, [a₀]⟩, ⟨strand w₁, [a₁]⟩, ⟨given, [a₂]⟩]
  have hf : f.Reachable hanging inGuarded := hcalls.move hdrop
  have hledger : f.Ledger hanging guarded 0 0 (1.0, ·) entries :=
    ⟨rfl, List.forall_mem_cons.mpr ⟨ha₀, List.forall_mem_cons.mpr ⟨ha₁,
      List.forall_mem_singleton.mpr ha₂⟩⟩⟩
  have htimely : ∀ e ∈ entries, ∀ a ∈ e.attempts, a.Timely guarded :=
    List.forall_mem_cons.mpr ⟨List.forall_mem_singleton.mpr ht₀, List.forall_mem_cons.mpr
      ⟨List.forall_mem_singleton.mpr ht₁, List.forall_mem_singleton.mpr
        (List.forall_mem_singleton.mpr ht₂)⟩⟩
  have hgiven : given.underway = false := rfl
  refine ⟨f, entries, hf, hledger, htimely, ?_, ?_, ?_, ?_,
    (tokens_eq_invocations hanging guarded 0 0 (1.0, ·) f hf).2 entries hledger htimely⟩
  · simp [total, entries, hin₀, hin₁, hin₂]
  · simp [total, entries, htoken₀, htoken₁, htoken₂]
  · simp [stillWaiting, total, entries, hu₀, hu₁, hgiven, hwait₀, hwait₁]
  · simp [droppedWaiting, total, entries, hu₀, hu₁, hgiven, hwait₂]

end Fleet

end Call

end Resilience
