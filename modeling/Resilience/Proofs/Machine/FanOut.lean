import Resilience.Proofs.Machine.Arrivals

namespace Resilience

namespace Machine

variable {β ι ε : Type}

def childAt (m : Machine β ι ε) (x : Context) (k : Nat) : Context :=
  (x.child { m.cancellation with fresh := m.cancellation.fresh + k }).1

structure Launched (m : Machine β ι ε) (gate : Option Nat) (ts : List (Task β ε)) (x : Context)
    (m' : Machine β ι ε) : Prop where
  size : m'.jobs.size = m.jobs.size + ts.length
  old : ∀ i < m.jobs.size, m'.job i = m.job i
  new : ∀ k t, ts[k]? = some t → m'.job (m.jobs.size + k) =
    { name := t.name, phase := .launched gate t (m.childAt x k) }

def launchNext (gate : Option Nat) (x : Context) (s : List Nat × Machine β ι ε) (t : Task β ε) :
    List Nat × Machine β ι ε :=
  (s.1 ++ [s.2.jobs.size],
    ((s.2.onAmbient (·.child x)).2.launch gate t (s.2.onAmbient (·.child x)).1).2)

lemma launchAll_eq (m : Machine β ι ε) (gate : Option Nat) (ts : List (Task β ε)) (x : Context) :
    m.launchAll gate ts x = ts.foldl (launchNext gate x) ([], m) := rfl

lemma foldl_launchNext (gate : Option Nat) (x : Context) (ts : List (Task β ε)) (ids : List Nat)
    (m : Machine β ι ε) :
    (ts.foldl (launchNext gate x) (ids, m)).1 = ids ++ List.range' m.jobs.size ts.length ∧
      Launched m gate ts x (ts.foldl (launchNext gate x) (ids, m)).2 := by
  induction ts generalizing ids m with
  | nil => exact ⟨by simp, ⟨rfl, fun _ _ => rfl, nofun⟩⟩
  | cons t ts ih =>
    rw [List.foldl_cons]
    generalize hm' : (launchNext gate x (ids, m) t).2 = m'
    have hsize : m'.jobs.size = m.jobs.size + 1 := by
      rw [← hm']
      exact Array.size_push _
    have hjob (i : Nat) : m'.job i = if i = m.jobs.size then
        { name := t.name, phase := .launched gate t (m.childAt x 0) } else m.job i := by
      rw [← hm']
      exact job_push ..
    -- Each launch makes one token, so the contexts of the rest are counted from one later.
    have hchild (k : Nat) : m'.childAt x k = m.childAt x (k + 1) := by
      have hc : m'.cancellation = { m.cancellation with fresh := m.cancellation.fresh + 1 } := by
        rw [← hm']
        rfl
      simp only [childAt, hc, Nat.add_assoc, Nat.add_comm 1 k]
    have hpair : launchNext gate x (ids, m) t = (ids ++ [m.jobs.size], m') := by
      rw [← hm']
      rfl
    obtain ⟨hids, hlaunched⟩ := ih (ids ++ [m.jobs.size]) m'
    rw [hpair]
    refine ⟨?_, ?_, ?_, ?_⟩
    · rw [hids, hsize, List.append_assoc, List.length_cons]
      rfl
    · rw [hlaunched.size, hsize, List.length_cons]
      omega
    · intro i hi
      rw [hlaunched.old i (by omega), hjob, if_neg (Nat.ne_of_lt hi)]
    · intro k u hk
      cases k with
      | zero =>
        cases hk
        rw [Nat.add_zero, hlaunched.old _ (by omega), hjob, if_pos rfl]
      | succ k =>
        have := hlaunched.new k u (by simpa using hk)
        rw [hsize, hchild] at this
        rw [← this]
        congr 1
        omega

lemma launched_launchAll (m : Machine β ι ε) (gate : Option Nat) (ts : List (Task β ε))
    (x : Context) : (m.launchAll gate ts x).1 = List.range' m.jobs.size ts.length ∧
      Launched m gate ts x (m.launchAll gate ts x).2 := by
  rw [launchAll_eq]
  simpa using foldl_launchNext gate x ts [] m

section

variable (work : Work β ι ε) (m : Machine β ι ε) (gate : Option Nat) (ts : List (Task β ε))
  (x : Context) (is : List Nat) (M : Machine β ι ε)

def Reported (es : List (Event β ι ε)) (k : Nat) (report : Option Outcome) : Prop :=
  ∃ t, ts[k]? = some t ∧ Fate work t (m.childAt x k) (m.jobs.size + k)
    (visits work (m.jobs.size + k) M es) report

structure FanOut : Prop extends Launched m gate ts x M where
  completions : is = List.range' m.jobs.size ts.length
  ended_iff : ∀ es, ∀ k < ts.length, ((M.acts work es).job (m.jobs.size + k)).phase = .ended ↔
    ∃ report, Reported work m ts x M es k report
  unique : ∀ es k r r', Reported work m ts x M es k r → Reported work m ts x M es k r' → r = r'
  final : ∀ es fs k r, Reported work m ts x M es k r → Reported work m ts x M (es ++ fs) k r
  /-- A completion that is awaited alone. -/
  alone : ∀ es, ∀ k < ts.length, ∀ r, ((M.acts work es).takeResult (m.jobs.size + k)).1 =
    some (.ok r) → Reads (Reported work m ts x M) es k r
  joinAll : ∀ es out, Joining work M .all is es out →
    (∃ rs, out.1 = .inr (.outcomes rs) ∧ rs.length = ts.length ∧
      ∀ k r, rs[k]? = some r → Reads (Reported work m ts x M) es k r) ∨
    (∃ s, out.1 = .inl s) ∧ ∃ k < ts.length, ∀ report, ¬Reported work m ts x M es k report
  joinUnordered : ∀ es out, Joining work M .unordered is es out →
    (∃ as, out.1 = .inr (.arrivals as) ∧ (as.map (·.1)).Perm (List.range ts.length) ∧
      ∀ a ∈ as, Reads (Reported work m ts x M) es a.1 a.2.2) ∨
    (∃ pending arrived, out.1 = .inl (.each pending arrived) ∧ pending ≠ [] ∧
      (arrived.map (·.1) ++ pending.map (·.1)).Perm (List.range ts.length) ∧
      (∀ a ∈ arrived, Reads (Reported work m ts x M) es a.1 a.2.2) ∧
      ∀ p ∈ pending, ∀ report, ¬Reported work m ts x M es p.1 report)
  /-- Whoever waits for a join until an instant gets what a schedule makes of it. -/
  waited : ∀ j es limit reply m', (∀ i ∈ is, ((M.acts work es).job i).delivery ≠ .taken) →
    Wait.finishBy work limit (Join.start work (M.acts work es) is j) = (some reply, m') →
    ∃ es', Joining work M j is es' (.inr reply, m')
  agree : ∀ es es' m₁ m₂ rs as, unwatched es = unwatched es' →
    Joining work M .all is es (.inr (.outcomes rs), m₁) →
    Joining work M .unordered is es' (.inr (.arrivals as), m₂) →
    ∀ a ∈ as, rs[a.1]? = some a.2.2
  /-- Who looks for results, when, and for which of them makes no difference to any job. -/
  unaffected : ∀ es es', unwatched es = unwatched es' →
    (M.acts work es).toWorld = (M.acts work es').toWorld ∧
    (M.acts work es).gates = (M.acts work es').gates ∧
    (∀ i, ((M.acts work es).job i).phase = ((M.acts work es').job i).phase ∧
      bodyWorlds i (visits work i M es) = bodyWorlds i (visits work i M es')) ∧
    ∀ k report, Reported work m ts x M es k report ↔ Reported work m ts x M es' k report

end

section

variable {work : Work β ι ε} {m M : Machine β ι ε} {gate : Option Nat} {ts : List (Task β ε)}
  {t : Task β ε} {x : Context} {es es' fs : List (Event β ι ε)} {k : Nat}
  {report report' : Option Outcome}

namespace Launched

lemma lt_size (h : Launched m gate ts x M) (hk : k < ts.length) : m.jobs.size + k < M.jobs.size := by
  rw [h.size]
  omega

lemma lives (h : Launched m gate ts x M) (hk : ts[k]? = some t) :
    Lives work t (m.childAt x k) (m.jobs.size + k) [] (M.job (m.jobs.size + k)).phase
      (M.job (m.jobs.size + k)).delivery := by
  rw [h.new k t hk]
  exact .launched ⟨nofun, nofun, .inl rfl⟩ rfl

lemma lives_acts (h : Launched m gate ts x M) (hk : ts[k]? = some t) (work : Work β ι ε)
    (es : List (Event β ι ε)) :
    Lives work t (m.childAt x k) (m.jobs.size + k) (visits work (m.jobs.size + k) M es)
      ((M.acts work es).job (m.jobs.size + k)).phase
      ((M.acts work es).job (m.jobs.size + k)).delivery :=
  (h.lives hk).acts (h.lt_size (List.getElem?_eq_some_iff.1 hk).1) es

lemma reported_iff (hk : ts[k]? = some t) :
    Reported work m ts x M es k report ↔ Fate work t (m.childAt x k) (m.jobs.size + k)
      (visits work (m.jobs.size + k) M es) report := by
  constructor
  · rintro ⟨u, hu, hf⟩
    rw [hk] at hu
    cases hu
    exact hf
  · exact fun hf => ⟨t, hk, hf⟩

lemma ended_iff (h : Launched m gate ts x M) (hk : k < ts.length) :
    ((M.acts work es).job (m.jobs.size + k)).phase = .ended ↔
      ∃ report, Reported work m ts x M es k report := by
  have hget := List.getElem?_eq_getElem hk
  simp only [reported_iff hget]
  exact (h.lives_acts hget work es).ended_iff

lemma reported_unique (h : Launched m gate ts x M) (hr : Reported work m ts x M es k report)
    (hr' : Reported work m ts x M es k report') : report = report' := by
  obtain ⟨t, ht, hf⟩ := hr
  exact (h.lives_acts ht work es).unique hf ((reported_iff ht).1 hr')

lemma reported_append (h : Launched m gate ts x M) (hr : Reported work m ts x M es k report)
    (fs : List (Event β ι ε)) : Reported work m ts x M (es ++ fs) k report := by
  obtain ⟨t, ht, hf⟩ := hr
  have hi := h.lt_size (List.getElem?_eq_some_iff.1 ht).1
  exact ⟨t, ht, (h.lives ht).fate_append hi hf fs⟩

lemma not_reported (h : Launched m gate ts x M)
    (hd : ((M.acts work es).job (m.jobs.size + k)).delivery = .awaited) :
    ¬Reported work m ts x M es k report := by
  rintro ⟨t, ht, hf⟩
  have hlives := h.lives_acts ht work es
  rw [hd] at hlives
  exact hlives.awaited hf

lemma reported_of_arrived (h : Launched m gate ts x M) (hk : k < ts.length) {order : Nat}
    (hd : ((M.acts work es).job (m.jobs.size + k)).delivery = .arrived report order) :
    Reported work m ts x M es k report := by
  have hget := List.getElem?_eq_getElem hk
  have hlives := h.lives_acts hget work es
  rw [hd] at hlives
  exact ⟨_, hget, hlives.arrived⟩

lemma accounts (h : Launched m gate ts x M) (work : Work β ι ε) :
    Accounts work M (List.range' m.jobs.size ts.length)
      fun es i => Reported work m ts x M es (i - m.jobs.size) := by
  have hplace : ∀ i ∈ List.range' m.jobs.size ts.length,
      ∃ k < ts.length, i = m.jobs.size + k := by
    intro i hi
    have := List.mem_range'_1.1 hi
    exact ⟨i - m.jobs.size, by omega, by omega⟩
  refine ⟨List.nodup_range', ?_, ?_, ?_, ?_⟩
  · intro i hi
    obtain ⟨k, hk, rfl⟩ := hplace i hi
    exact h.lt_size hk
  · intro es i hi hd report
    obtain ⟨k, hk, rfl⟩ := hplace i hi
    rw [Nat.add_sub_cancel_left]
    exact h.not_reported hd
  · intro es i hi report order hd
    obtain ⟨k, hk, rfl⟩ := hplace i hi
    rw [Nat.add_sub_cancel_left]
    exact h.reported_of_arrived hk hd
  · intro es fs i _ report hr
    exact h.reported_append hr fs

lemma reads_takeResult (h : Launched m gate ts x M) (hk : k < ts.length) {r : Outcome}
    (hr : ((M.acts work es).takeResult (m.jobs.size + k)).1 = some (.ok r)) :
    Reads (Reported work m ts x M) es k r := by
  unfold takeResult at hr
  split at hr
  · cases hr
  · rename_i report order hd
    cases hr
    exact ⟨report, h.reported_of_arrived hk hd, rfl⟩
  · cases hr

lemma joinAll (h : Launched m gate ts x M) {out : Looked β ι ε}
    (hj : Joining work M .all (List.range' m.jobs.size ts.length) es out) :
    (∃ rs, out.1 = .inr (.outcomes rs) ∧ rs.length = ts.length ∧
      ∀ k r, rs[k]? = some r → Reads (Reported work m ts x M) es k r) ∨
    (∃ s, out.1 = .inl s) ∧ ∃ k < ts.length, ∀ report, ¬Reported work m ts x M es k report := by
  rcases hj.all (h.accounts work) with ⟨rs, hrs, hreads⟩ | ⟨slots, hslots, -, i, hi, hd⟩
  · left
    have hlen := hreads.length_eq
    rw [List.length_range'] at hlen
    refine ⟨rs, hrs, hlen.symm, ?_⟩
    intro k r hk
    obtain ⟨hlt, rfl⟩ := List.getElem?_eq_some_iff.1 hk
    have := hreads.get (by simpa [hlen] using hlt) hlt
    simpa [Reads] using this
  · right
    have hrange := List.mem_range'_1.1 hi
    obtain ⟨k, rfl⟩ := Nat.exists_eq_add_of_le hrange.1
    exact ⟨⟨_, hslots⟩, k, by omega, fun _ => h.not_reported hd⟩

lemma joinUnordered (h : Launched m gate ts x M) {out : Looked β ι ε}
    (hj : Joining work M .unordered (List.range' m.jobs.size ts.length) es out) :
    (∃ as, out.1 = .inr (.arrivals as) ∧ (as.map (·.1)).Perm (List.range ts.length) ∧
      ∀ a ∈ as, Reads (Reported work m ts x M) es a.1 a.2.2) ∨
    (∃ pending arrived, out.1 = .inl (.each pending arrived) ∧ pending ≠ [] ∧
      (arrived.map (·.1) ++ pending.map (·.1)).Perm (List.range ts.length) ∧
      (∀ a ∈ arrived, Reads (Reported work m ts x M) es a.1 a.2.2) ∧
      ∀ p ∈ pending, ∀ report, ¬Reported work m ts x M es p.1 report) := by
  have hplace {k i : Nat} (hi : (List.range' m.jobs.size ts.length)[k]? = some i) :
      i = m.jobs.size + k := by
    obtain ⟨_, rfl⟩ := List.getElem?_eq_some_iff.1 hi
    simp
  have hyielded {as : List (Nat × Nat × Outcome)}
      (has : ∀ a ∈ as, ∃ i, (List.range' m.jobs.size ts.length)[a.1]? = some i ∧
        Reads (fun es i => Reported work m ts x M es (i - m.jobs.size)) es i a.2.2) :
      ∀ a ∈ as, Reads (Reported work m ts x M) es a.1 a.2.2 := by
    intro a ha
    obtain ⟨i, hi, hr⟩ := has a ha
    obtain rfl := hplace hi
    simpa [Reads] using hr
  rcases hj.unordered (h.accounts work) with
    ⟨as, has, hperm, hreads⟩ | ⟨pending, arrived, hs, hgo, hne, hd⟩
  · rw [List.length_range'] at hperm
    exact .inl ⟨as, has, hperm, hyielded hreads⟩
  · have hperm := hgo.perm
    rw [List.length_range'] at hperm
    refine .inr ⟨pending, arrived, hs, hne, hperm, hyielded hgo.reads, ?_⟩
    intro p hp report
    have hawaited := hd p hp
    rw [hplace (hgo.mem hp)] at hawaited
    exact h.not_reported hawaited

end Launched

lemma reported_unwatched : Reported work m ts x M (unwatched es) k report ↔
    Reported work m ts x M es k report := by
  have halike : List.Forall₂ (Alike (m.jobs.size + k))
      (visits work (m.jobs.size + k) M (unwatched es)) (visits work (m.jobs.size + k) M es) :=
    ((Spent.refl M).visits work _ es).imp fun _ _ hm => hm.alike _
  simp only [Reported, fate_iff_of_alike halike]

lemma bodyWorlds_unwatched (i : Nat) : bodyWorlds i (visits work i M (unwatched es)) =
    bodyWorlds i (visits work i M es) :=
  bodyWorlds_of_alike (((Spent.refl M).visits work i es).imp fun _ _ hm => hm.alike i)

/-- Nothing is lost, duplicated or reinterpreted when tasks are launched together, and their
jobs run in the same way however their results are looked for. A completion that is dropped is
no event. -/
theorem fan_out_keeps_reports (work : Work β ι ε) (m : Machine β ι ε) (gate : Option Nat)
    (ts : List (Task β ε)) (x : Context) :
    FanOut work m gate ts x (m.launchAll gate ts x).1 (m.launchAll gate ts x).2 := by
  obtain ⟨hids, h⟩ := foldl_launchNext gate x ts [] m
  rw [← launchAll_eq] at hids h
  rw [List.nil_append] at hids
  rw [hids]
  generalize (m.launchAll gate ts x).2 = M at h
  refine { h with
    completions := rfl
    ended_iff := fun es k hk => h.ended_iff hk
    unique := fun es k r r' => h.reported_unique
    final := fun es fs k r hr => h.reported_append hr fs
    alone := fun es k hk r => h.reads_takeResult hk
    joinAll := fun es out => h.joinAll
    joinUnordered := fun es out => h.joinUnordered
    waited := fun j es limit reply m' hnew hw => (Joining.begun hnew).finishBy hw
    agree := ?_
    unaffected := ?_ }
  · -- Both joins read the reports, and these are the same in both schedules.
    intro es es' m₁ m₂ rs as hsame hall hunordered a ha
    rcases h.joinAll hall with ⟨rs', ⟨⟩, hlen, hrs⟩ | ⟨⟨_, ⟨⟩⟩, -⟩
    rcases h.joinUnordered hunordered with ⟨as', ⟨⟩, hperm, has⟩ | ⟨_, _, ⟨⟩, -⟩
    have hlt : a.1 < rs.length := by
      rw [hlen]
      exact List.mem_range.1 (hperm.subset (List.mem_map_of_mem ha))
    have hget := List.getElem?_eq_getElem hlt
    obtain ⟨report, hreport, hread⟩ := hrs a.1 _ hget
    obtain ⟨report', hreport', hread'⟩ := has a ha
    rw [← reported_unwatched, hsame, reported_unwatched] at hreport
    rw [hget, hread, hread', h.reported_unique hreport hreport']
  · intro es es' hsame
    have hspent := (Spent.refl M).acts work es
    have hspent' := (Spent.refl M).acts work es'
    rw [hsame] at hspent
    refine ⟨hspent.world.trans hspent'.world.symm, hspent.gates.trans hspent'.gates.symm, ?_, ?_⟩
    · intro i
      refine ⟨(hspent.phase i).trans (hspent'.phase i).symm, ?_⟩
      rw [← bodyWorlds_unwatched, hsame, bodyWorlds_unwatched]
    · intro k report
      rw [← reported_unwatched, hsame, reported_unwatched]

end

example : (((idle quiet).launchAll none [.ofBody "first" (), .ofBody "second" ()]
    ⟨⟨0, []⟩, none⟩).2.acts dozing [.run 1, .run 0, .abort 0, .run 1, .run 0]
      |>.joinAll dozing [0, 1]).1 = .inr (.outcomes [.error .aborted, .ok ()]) := by
  rfl

end Machine

end Resilience
