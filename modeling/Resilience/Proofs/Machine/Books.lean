import Resilience.Proofs.Call.Marks
import Resilience.Proofs.Machine.FanOut

namespace Resilience

variable {β ι ε : Type}

def Task.GoesThrough (id : Nat) (t : Task β ε) : Prop :=
  ∃ rest, t.layers = .breaker id :: rest ∧ ∀ l ∈ rest, l.Light

lemma Task.GoesThrough.call {work : Work β ι ε} {id : Nat} {t : Task β ε} {w : World ε}
    (h : t.GoesThrough id) (hwork : work.Plain) (hid : id < w.breakers.size) (x : Context) :
    Call.Through id w (Call.ofTask work t x w) := by
  obtain ⟨rest, hlayers, hlight⟩ := h
  unfold Call.ofTask
  rw [hlayers]
  exact Call.start_through hwork hlight hid t.body x

def Phase.Idle : Phase β ι ε → Prop
  | .alarm .. | .ended => True
  | .launched .. | .queued .. | .running .. => False

inductive Phase.Through (id : Nat) : Phase β ι ε → Delivery → Prop
  | launched {gate : Option Nat} {t : Task β ε} {x : Context} : t.GoesThrough id →
      Through id (.launched gate t x) .awaited
  | queued {g : Nat} {t : Task β ε} {x : Context} : t.GoesThrough id →
      Through id (.queued g t x) .awaited
  | running {gate : Option Nat} {g : Guard} {c : Call β ι ε} : c.Light →
      Through id (.running gate (.admitted id g c)) .awaited
  | ended {report : Option Outcome} {order : Nat} : Through id .ended (.arrived report order)

lemma Phase.Through.awaited {id : Nat} {p : Phase β ι ε} {d : Delivery} (h : p.Through id d)
    (hp : p ≠ .ended) : d = .awaited := by
  cases h with
  | launched | queued | running => rfl
  | ended => exact absurd rfl hp

namespace Machine

def Next.mark : Next β ι ε → Option Mark
  | .ends report => Mark.of (outcomeOf report)
  | .stays | .becomes _ => none

section

variable {work : Work β ι ε} {w : World ε} {gates gates' : Array Gate} {gate : Option Nat}
  {i id : Nat} {p : Phase β ι ε} {j : Job β ι ε} {s : Call.Step β ι ε} {T : Turn β ι ε}

lemma Effect.ne_ended {a : Bool} {report : Option Outcome} (h : Effect work w gates i a p T)
    (hT : T.next = .ends report) : p ≠ .ended := by
  rintro rfl
  cases h with
  | past => cases hT
  | ran henters => exact henters.ne_ended rfl

lemma Effect.idle {a : Bool} (h : Effect work w gates i a j.phase T) (hj : j.phase.Idle)
    (order : Nat) : T.world.breakers = w.breakers ∧ (T.next.apply j order).phase.Idle := by
  generalize hp : j.phase = p at h hj
  cases h with
  | past | sleeps => exact ⟨rfl, hp ▸ hj⟩
  | silenced | rang => exact ⟨rfl, trivial⟩
  | dropped | left | cut | refused | queued | gaveUp | waits => cases hj
  | ran henters => cases henters <;> cases hj

lemma Enters.through {d : Delivery} (h : Enters work w gates i p gate gates' s)
    (hp : p.Through id d) (hwork : work.Plain) (hid : id < w.breakers.size) :
    Call.Through id w s := by
  cases h with
  | free | granted =>
    cases hp with
    | launched ht => exact ht.call hwork hid _
  | accepted =>
    cases hp with
    | queued ht => exact ht.call hwork hid _
  | resumed =>
    cases hp with
    | running hc => exact Call.resume_through hwork hc hid _

lemma through_ofStep (h : Call.Through id w s) (hd : j.delivery = .awaited) (order : Nat) :
    w.Marked id (Turn.ofStep gate gates' s).next.mark (Turn.ofStep gate gates' s).world ∧
      ((Turn.ofStep gate gates' s).next.apply j order).phase.Through id
        ((Turn.ofStep gate gates' s).next.apply j order).delivery := by
  cases h with
  | done hm => exact ⟨hm, .ended⟩
  | crashed hm => exact ⟨hm, .ended⟩
  | pending hm hc =>
    refine ⟨hm, ?_⟩
    simp only [Turn.ofStep, Next.apply, hd]
    exact .running hc

lemma Effect.through (hT : Effect work w gates i j.aborted j.phase T)
    (h : j.phase.Through id j.delivery) (hwork : work.Plain) (hid : id < w.breakers.size)
    (order : Nat) : w.Marked id T.next.mark T.world ∧
      (T.next.apply j order).phase.Through id (T.next.apply j order).delivery := by
  have hsame : w.Marked id none w := .of_breakers_eq rfl
  generalize hp : j.phase = p at h hT
  generalize ha : j.aborted = a at hT
  generalize hd : j.delivery = d at h
  cases hT with
  | past | waits =>
    refine ⟨hsame, ?_⟩
    rw [Next.apply, hp, hd]
    exact h
  | dropped | left | refused | gaveUp => exact ⟨hsame, .ended⟩
  | queued =>
    cases h with
    | launched ht =>
      refine ⟨hsame, ?_⟩
      rw [Next.apply, hd]
      exact .queued ht
  | cut =>
    cases h with
    | running hc => exact ⟨Call.drop_marked hc hid _, .ended⟩
  | silenced | rang | sleeps => cases h
  | ran henters =>
    exact through_ofStep (henters.through h hwork hid) (hd.trans (h.awaited henters.ne_ended)) order

end

lemma countP_of_differ {is : List Nat} {i : Nat} (hn : is.Nodup) (hi : i ∈ is) {p q : Nat → Bool}
    (hpq : ∀ k ≠ i, q k = p k) (hp : p i = false) :
    is.countP q = is.countP p + if q i then 1 else 0 := by
  have hrest : (is.erase i).countP q = (is.erase i).countP p := by
    refine List.countP_congr fun k hk => ?_
    rw [hpq k (hn.mem_erase_iff.mp hk).1]
  rw [(List.perm_cons_erase hi).countP_eq q, (List.perm_cons_erase hi).countP_eq p,
    List.countP_cons, List.countP_cons, hrest, hp]
  simp

/-- The breaker has counted the results of the jobs `is`, beyond what it had counted before. -/
structure Books (id : Nat) (is : List Nat) (before : Breaker) (m : Machine β ι ε) : Prop where
  breaker : id < m.breakers.size
  nodup : is.Nodup
  through : ∀ i ∈ is, Phase.Through id (m.job i).phase (m.job i).delivery
  idle : ∀ i ∉ is, (m.job i).phase.Idle
  count : ∀ k, (m.breaker id).count k = before.count k +
    is.countP fun i => (m.resultAt i).bind Mark.of = some k

section

variable {work : Work β ι ε} {m m' : Machine β ι ε} {id i : Nat} {is : List Nat} {b : Breaker}
  {es : List (Event β ι ε)}

lemma Books.congr (h : Books id is b m) (hb : m'.breakers = m.breakers)
    (hjob : ∀ i, (m'.job i).phase = (m.job i).phase ∧ (m'.job i).delivery = (m.job i).delivery) :
    Books id is b m' where
  breaker := hb ▸ h.breaker
  nodup := h.nodup
  through i hi := by
    rw [(hjob i).1, (hjob i).2]
    exact h.through i hi
  idle i hi := by
    rw [(hjob i).1]
    exact h.idle i hi
  count k := by
    have hresult : m'.resultAt = m.resultAt := by
      funext i
      rw [resultAt, (hjob i).2, resultAt]
    have hbreaker : m'.breaker id = m.breaker id := by
      rw [World.breaker, hb, World.breaker]
    rw [hresult, hbreaker]
    exact h.count k

lemma Books.lt_size (h : Books id is b m) (hi : i ∈ is) : i < m.jobs.size := by
  by_contra hlt
  have hthrough := h.through i hi
  rw [job_eq_default m i (Nat.le_of_not_lt hlt)] at hthrough
  cases hthrough

lemma resultAt_of_job_eq {k : Nat} (h : m'.job k = m.job i) : m'.resultAt k = m.resultAt i := by
  rw [resultAt, h, resultAt]

lemma Books.setAlarm (h : Books id is b m) (wake : Nat) (x : Context) :
    Books id is b (m.setAlarm wake x) := by
  have hold {i : Nat} (hi : i ∈ is) : (m.setAlarm wake x).job i = m.job i :=
    (job_push ..).trans (if_neg (Nat.ne_of_lt (h.lt_size hi)))
  refine ⟨h.breaker, h.nodup, fun i hi => ?_, fun i hi => ?_, fun k => ?_⟩
  · rw [hold hi]
    exact h.through i hi
  · rw [Machine.setAlarm, job_push]
    split
    · trivial
    · exact h.idle i hi
  · refine (h.count k).trans (congrArg _ (List.countP_congr fun i hi => ?_))
    rw [resultAt_of_job_eq (hold hi)]

section

variable {T : Turn β ι ε} (hlt : i < m.jobs.size)
include hlt

lemma resultAt_conclude_ne {k : Nat} (hk : k ≠ i) :
    (m.conclude i T).resultAt k = m.resultAt k :=
  resultAt_of_job_eq ((job_conclude m i k T hlt).trans (if_neg hk))

lemma resultAt_conclude_self : (m.conclude i T).resultAt i =
    match T.next with
    | .ends report => some (outcomeOf report)
    | .stays | .becomes _ => m.resultAt i := by
  rw [resultAt, job_conclude m i i T hlt, if_pos rfl]
  cases T.next <;> rfl

lemma countP_conclude (hn : is.Nodup) (hi : i ∈ is)
    (hopen : ∀ report, T.next = .ends report → (m.job i).delivery = .awaited) (k : Mark) :
    (is.countP fun i' => ((m.conclude i T).resultAt i').bind Mark.of = some k) =
      (is.countP fun i' => (m.resultAt i').bind Mark.of = some k) +
        if T.next.mark = some k then 1 else 0 := by
  have hself := resultAt_conclude_self (T := T) hlt
  cases hnext : T.next with
  | stays | becomes =>
    rw [hnext] at hself
    refine List.countP_congr fun i' _ => ?_
    by_cases hne : i' = i
    · rw [hne, hself]
    · rw [resultAt_conclude_ne hlt hne]
  | ends report =>
    rw [hnext] at hself
    have hnone : m.resultAt i = none := by
      rw [resultAt, hopen report hnext]
    rw [countP_of_differ hn hi (fun i' hne => by rw [resultAt_conclude_ne hlt hne])
      (by rw [hnone]; rfl), hself]
    simp only [Option.bind_some, decide_eq_true_eq]
    rfl

end

lemma Books.step (h : Books id is b m) (hwork : work.Plain) (i : Nat) :
    Books id is b (m.step work i) := by
  by_cases hlt : i < m.jobs.size
  · obtain ⟨T, hT, heq⟩ := step_effect work m i
    have hjob (k : Nat) := job_conclude m i k T hlt
    rw [heq]
    -- Only the turns of the jobs `is` come to the breaker; all others are alarms.
    by_cases hi : i ∈ is
    · obtain ⟨hmark, hthrough⟩ := hT.through (h.through i hi) hwork h.breaker m.deliveries
      refine ⟨?_, h.nodup, fun k hk => ?_, fun k hk => ?_, fun k => ?_⟩
      · rw [toWorld_conclude, hmark.size]
        exact h.breaker
      · rw [hjob]
        split
        · exact hthrough
        · exact h.through k hk
      · have hne : k ≠ i := fun hki => hk (hki ▸ hi)
        rw [hjob, if_neg hne]
        exact h.idle k hk
      · have hopen (report : Option Outcome) (hends : T.next = .ends report) :=
          (h.through i hi).awaited (hT.ne_ended hends)
        rw [toWorld_conclude, hmark.count, h.count, Nat.add_assoc,
          countP_conclude hlt h.nodup hi hopen]
    · obtain ⟨hsame, hidle⟩ := hT.idle (h.idle i hi) m.deliveries
      have hne {k : Nat} (hk : k ∈ is) : k ≠ i := fun hki => hi (hki ▸ hk)
      refine ⟨?_, h.nodup, fun k hk => ?_, fun k hk => ?_, fun k => ?_⟩
      · rw [toWorld_conclude, hsame]
        exact h.breaker
      · rw [hjob, if_neg (hne hk)]
        exact h.through k hk
      · rw [hjob]
        split
        · exact hidle
        · exact h.idle k hk
      · rw [toWorld_conclude, World.breaker, hsame]
        refine (h.count k).trans (congrArg _ (List.countP_congr fun i' hi' => ?_))
        rw [resultAt_conclude_ne hlt (hne hi')]
  · rw [step_eq_self m i work (Nat.le_of_not_lt hlt)]
    exact h

lemma Books.act (h : Books id is b m) (hwork : work.Plain) {e : Event β ι ε}
    (he : e.Spares work m) (hc : e.consumes = false) : Books id is b (m.act work e) := by
  cases e with
  | build config =>
    refine h.congr he fun i => ?_
    simp only [Machine.act]
    split <;> exact ⟨rfl, rfl⟩
  | launch => cases he
  | alarm wake x => exact h.setAlarm wake x
  | run i => exact h.step hwork i
  | abort k =>
    refine h.congr rfl fun i => ?_
    rw [Machine.act, Machine.abort, job_setJob]
    split
    · rename_i hk
      rw [hk.1]
      exact ⟨rfl, rfl⟩
    · exact ⟨rfl, rfl⟩
  | outside w =>
    refine h.congr he fun i => ?_
    simp only [Machine.act]
    split <;> exact ⟨rfl, rfl⟩
  | look s =>
    cases s with
    | call c cutoff =>
      refine h.congr he fun i => ?_
      rw [Machine.act, look_call]
      exact ⟨rfl, rfl⟩
    | _ => cases hc
  | _ => cases hc

lemma Books.acts (h : Books id is b m) (hwork : work.Plain) (hes : Sparing work m es)
    (hc : ∀ e ∈ es, e.consumes = false) : Books id is b (m.acts work es) := by
  induction es generalizing m with
  | nil => exact h
  | cons e es ih =>
    obtain ⟨he, hes⟩ := hes
    obtain ⟨hce, hc⟩ := List.forall_mem_cons.mp hc
    exact ih (h.act hwork he hce) hes hc

end

section

variable {work : Work β ι ε} {m M m' : Machine β ι ε} {id : Nat} {gate : Option Nat}
  {ts : List (Task β ε)} {x : Context} {es : List (Event β ι ε)} {rs : List Outcome}

lemma breakers_launchAll (m : Machine β ι ε) (gate : Option Nat) (ts : List (Task β ε))
    (x : Context) : (m.launchAll gate ts x).2.breakers = m.breakers := by
  rw [launchAll_eq]
  generalize ([] : List Nat) = ids
  induction ts generalizing ids m with
  | nil => rfl
  | cons t ts ih => exact ih ..

lemma mem_range'_places {i : Nat} (hi : i ∈ List.range' m.jobs.size ts.length) :
    ∃ k t, ts[k]? = some t ∧ i = m.jobs.size + k := by
  have hrange := List.mem_range'_1.mp hi
  have hk : i - m.jobs.size < ts.length := by omega
  exact ⟨_, _, List.getElem?_eq_getElem hk, by omega⟩

lemma Launched.books (h : Launched m gate ts x M) (hb : M.breakers = m.breakers)
    (hm : ∀ i, (m.job i).phase.Idle) (hid : id < m.breakers.size)
    (hts : ∀ t ∈ ts, t.GoesThrough id) :
    Books id (List.range' m.jobs.size ts.length) (m.breaker id) M where
  breaker := hb ▸ hid
  nodup := List.nodup_range'
  through i hi := by
    obtain ⟨k, t, hk, rfl⟩ := mem_range'_places hi
    rw [h.new k t hk]
    exact .launched (hts t (List.mem_of_getElem? hk))
  idle i hi := by
    rw [List.mem_range'_1] at hi
    by_cases hlt : i < m.jobs.size
    · rw [h.old i hlt]
      exact hm i
    · rw [job_eq_default M i (by rw [h.size]; omega)]
      trivial
  count k := by
    have hnone : ∀ i ∈ List.range' m.jobs.size ts.length, M.resultAt i = none := by
      intro i hi
      obtain ⟨k, t, hk, rfl⟩ := mem_range'_places hi
      rw [resultAt, h.new k t hk]
    have hzero : (List.range' m.jobs.size ts.length).countP
        (fun i => (M.resultAt i).bind Mark.of = some k) = 0 := by
      refine List.countP_eq_zero.mpr fun i hi => ?_
      rw [hnone i hi]
      simp
    rw [hzero, World.breaker, hb]
    rfl

lemma Launched.resultAt_of_reads (h : Launched m gate ts x M) {b : Breaker}
    (hbooks : Books id (List.range' m.jobs.size ts.length) b (M.acts work (unwatched es))) {k : Nat}
    (hk : k < ts.length) {r : Outcome} (hr : Reads (Reported work m ts x M) es k r) :
    (M.acts work (unwatched es)).resultAt (m.jobs.size + k) = some r := by
  obtain ⟨report, hreport, rfl⟩ := hr
  rw [← reported_unwatched] at hreport
  have hended := (h.ended_iff hk).mpr ⟨report, hreport⟩
  have hthrough := hbooks.through (m.jobs.size + k) (by simp [List.mem_range'_1, hk])
  rw [hended] at hthrough
  generalize hd : ((M.acts work (unwatched es)).job (m.jobs.size + k)).delivery = d at hthrough
  cases hthrough with
  | ended =>
    rw [resultAt, hd, h.reported_unique hreport (h.reported_of_arrived hk hd)]

theorem joined_results_are_counted (hwork : work.Plain) (hm : ∀ i, (m.job i).phase.Idle)
    (hid : id < m.breakers.size) (hts : ∀ t ∈ ts, t.GoesThrough id)
    (hj : Joining work (m.launchAll gate ts x).2 .all (m.launchAll gate ts x).1 es
      (.inr (.outcomes rs), m'))
    (hes : Sparing work (m.launchAll gate ts x).2 es) (k : Mark) :
    (m'.breaker id).count k = (m.breaker id).count k + rs.countP fun r => Mark.of r = some k := by
  obtain ⟨hids, h⟩ := launched_launchAll m gate ts x
  rw [hids] at hj
  have hbreakers := breakers_launchAll m gate ts x
  generalize (m.launchAll gate ts x).2 = M at h hj hes hbreakers
  -- Without the looks for results each of them stays where its job has put it, and the world is
  -- the same.
  have hspent := (Spent.refl M).acts work es
  have hbooks := (h.books hbreakers hm hid hts).acts hwork (hes.unwatched (.refl M))
    fun e he => by simpa using (List.mem_filter.mp he).2
  obtain ⟨rs', heq, hlen, hreads⟩ | ⟨⟨_, hs⟩, -⟩ := h.joinAll hj
  · cases heq
    have hresults : (List.range' m.jobs.size ts.length).map
        (M.acts work (unwatched es)).resultAt = rs.map some := by
      refine List.ext_getElem (by simp [hlen]) fun i hi hi' => ?_
      rw [List.length_map] at hi'
      rw [List.getElem_map, List.getElem_map, List.getElem_range', Nat.one_mul]
      exact h.resultAt_of_reads hbooks (hlen ▸ hi') (hreads i _ (List.getElem?_eq_getElem hi'))
    have hm' : m'.breaker id = (M.acts work (unwatched es)).breaker id := by
      rw [show m' = M.acts work es from hj.acts, World.breaker, hspent.world]
      rfl
    have hcount := hbooks.count k
    rw [← Function.comp_def (fun r : Option Outcome => decide (r.bind Mark.of = some k)),
      ← List.countP_map, hresults, List.countP_map] at hcount
    rw [hm']
    exact hcount
  · cases hs

end

end Machine

end Resilience
