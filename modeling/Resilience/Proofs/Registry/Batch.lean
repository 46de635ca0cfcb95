import Mathlib.Data.List.Induction
import Resilience.Proofs.Registry.Log

namespace Resilience

variable {α φ ρ : Type}

namespace Registry

def Ill (n : String) : Prop := n = "" ∨ ∃ c ∈ n.toList, isBlank c = true

def illness (n : String) : String :=
  if n = "" then "name must not be empty" else "name must not contain whitespace"

end Registry

def Entry.IllNamed (e : Entry α φ) : Prop := ∃ n, e.name = some n ∧ Registry.Ill n

namespace Registry

variable {g g' : Registry α φ} {e : Entry α φ} {earlier before after batch : List (Entry α φ)}
  {n : String}

/-- After the entries `before` of its batch, `e` has a name that is taken: by the registry or by one
of them. -/
def Clashes (g : Registry α φ) (before : List (Entry α φ)) (e : Entry α φ) : Prop :=
  ∃ n, e.name = some n ∧ (g.containsName n = true ∨ n ∈ namesOf before)

def Unclaimed (g : Registry α φ) (batch : List (Entry α φ)) : Prop :=
  ∀ before e after, batch = before ++ e :: after → ¬g.Clashes before e

structure Extended (g : Registry α φ) (batch : List (Entry α φ)) (g' : Registry α φ) : Prop where
  of_eq : ∀ c, g'.of c = g.of c ++ (ofCapability c batch).map .ofEntry
  containsName_iff : ∀ n, g'.containsName n ↔ g.containsName n ∨ n ∈ namesOf batch
  size_eq : g'.size = g.size + batch.length
  at_kept : ∀ c i r, g.at? c i = .ok r → g'.at? c i = .ok r
  named_kept : ∀ c n r, g.named? c n = .ok r → g'.named? c n = .ok r
  at_new : ∀ before e after, batch = before ++ e :: after →
    g'.at? e.capability (g.count e.capability + (ofCapability e.capability before).length) =
      .ok (.ofEntry e)
  named_new : ∀ e ∈ batch, ∀ n, e.name = some n → g'.named? e.capability n = .ok (.ofEntry e)

/-- What comes of a batch: the first ill name is reported; if there is none, the first name that is
taken, with the capability that has it; else all is registered. -/
structure Takes (g : Registry α φ) (batch : List (Entry α φ))
    (outcome : Except RegistryError (Registry α φ)) : Prop where
  fails_iff : (∃ error, outcome = .error error) ↔ (∃ e ∈ batch, e.IllNamed) ∨
    ∃ before e after, batch = before ++ e :: after ∧ g.Clashes before e
  ill : ∀ before e after n, batch = before ++ e :: after → (∀ d ∈ before, ¬d.IllNamed) →
    e.name = some n → Ill n → outcome = .error (.invalidEntry e.capability (illness n))
  taken_before : (∀ d ∈ batch, ¬d.IllNamed) → ∀ before e after n r,
    batch = before ++ e :: after → g.Unclaimed before → e.name = some n →
    g.byName[n]? = some r → outcome = .error (.duplicateName n r.capability)
  taken_within : (∀ d ∈ batch, ¬d.IllNamed) → ∀ before e after n, batch = before ++ e :: after →
    g.Unclaimed before → e.name = some n → g.containsName n = false →
    ∀ d ∈ before, d.name = some n → outcome = .error (.duplicateName n d.capability)
  accepted : ∀ g', outcome = .ok g' → g.Extended batch g'

lemma nameFault_of_ill (h : Ill n) : nameFault n = some (illness n) := by
  unfold nameFault illness
  by_cases hn : n = ""
  · simp [hn]
  · have hblank : n.toList.any isBlank = true := List.any_eq_true.mpr (h.resolve_left hn)
    simp [hn, hblank]

lemma nameFault_of_not_ill (h : ¬Ill n) : nameFault n = none := by
  obtain ⟨hn, hblank⟩ := not_or.mp h
  have hblank : n.toList.any isBlank = false :=
    Bool.eq_false_iff.mpr fun ha => hblank (List.any_eq_true.mp ha)
  simp [nameFault, hn, hblank]

lemma checkName_of_ill (hn : e.name = some n) (h : Ill n) :
    checkName (.ofEntry e) = .error (.invalidEntry e.capability (illness n)) := by
  simp [checkName, Registration.ofEntry, hn, nameFault_of_ill h]

lemma checkName_of_not_ill (h : ¬e.IllNamed) : checkName (.ofEntry e) = .ok () := by
  cases hn : e.name with
  | none => simp [checkName, Registration.ofEntry, hn]
  | some n =>
    have hill : ¬Ill n := fun hi => h ⟨n, hn, hi⟩
    simp [checkName, Registration.ofEntry, hn, nameFault_of_not_ill hill]

lemma checkNames_append (hb : ∀ d ∈ before, ¬d.IllNamed) (rest : List (Registration α φ)) :
    forM (before.map Registration.ofEntry ++ rest) checkName = forM rest checkName := by
  induction before with
  | nil => rfl
  | cons d before ih =>
    obtain ⟨hd, hb⟩ := List.forall_mem_cons.mp hb
    rw [List.map_cons, List.cons_append, List.forM_cons, checkName_of_not_ill hd]
    exact ih hb

lemma checkNames_of_well_named (h : ∀ d ∈ batch, ¬d.IllNamed) :
    forM (batch.map Registration.ofEntry) checkName = .ok () := by
  rw [← List.append_nil (batch.map _), checkNames_append h]
  rfl

lemma checkNames_of_ill (hb : ∀ d ∈ before, ¬d.IllNamed) (hn : e.name = some n) (h : Ill n) :
    forM ((before ++ e :: after).map Registration.ofEntry) checkName =
      .error (.invalidEntry e.capability (illness n)) := by
  rw [List.map_append, checkNames_append hb, List.map_cons, List.forM_cons,
    checkName_of_ill hn h]
  rfl

lemma containsName_eq_isSome (g : Registry α φ) (n : String) :
    g.containsName n = g.byName[n]?.isSome := Std.TreeMap.contains_eq_isSome_getElem?

lemma holder_of_registered {r : Registration α φ} (hr : g.byName[n]? = some r) :
    g.holder? (before.map .ofEntry) n = some r.capability := by
  simp [holder?, hr]

lemma byName_eq_none (hn : g.containsName n = false) : g.byName[n]? = none := by
  rw [containsName_eq_isSome] at hn
  exact Option.isNone_iff_eq_none.mp (Option.isSome_eq_false_iff.mp hn)

lemma holder_of_unregistered (hn : g.containsName n = false) :
    g.holder? (before.map .ofEntry) n =
      (before.find? (·.name = some n)).map (·.capability) := by
  have hsame : ((fun r : Registration α φ => r.name == some n) ∘ .ofEntry) =
      fun d => decide (d.name = some n) := by
    funext d
    exact beq_eq_decide ..
  rw [holder?, byName_eq_none hn, List.find?_map, hsame]
  cases before.find? (·.name = some n) <;> rfl

lemma holder_eq_none_iff : g.holder? (before.map .ofEntry) n = none ↔
    ¬(g.containsName n = true ∨ n ∈ namesOf before) := by
  cases hn : g.containsName n with
  | true =>
    rw [containsName_eq_isSome] at hn
    obtain ⟨r, hr⟩ := Option.isSome_iff_exists.mp hn
    simp [holder_of_registered hr]
  | false =>
    simp [holder_of_unregistered hn, mem_namesOf]

lemma checkUnique_append (earlier : List (Entry α φ))
    (hb : ∀ pre d post, before = pre ++ d :: post → ¬g.Clashes (earlier ++ pre) d)
    (rest : List (Registration α φ)) :
    g.checkUnique (earlier.map .ofEntry) (before.map .ofEntry ++ rest) =
      g.checkUnique ((earlier ++ before).map .ofEntry) rest := by
  induction before generalizing earlier with
  | nil => simp
  | cons d before ih =>
    have hd : ¬g.Clashes earlier d := by simpa using hb [] d before rfl
    have hfree : (Registration.ofEntry d).name.bind
        (fun n => (g.holder? (earlier.map .ofEntry) n).map (n, ·)) = none := by
      cases hn : d.name with
      | none => simp [Registration.ofEntry, hn]
      | some n =>
        have hnone := holder_eq_none_iff.mpr fun ht => hd ⟨n, hn, ht⟩
        simp [Registration.ofEntry, hn, hnone]
    have hb' : ∀ pre c post, before = pre ++ c :: post →
        ¬g.Clashes (earlier ++ [d] ++ pre) c := by
      rintro pre c post rfl
      simpa using hb (d :: pre) c post rfl
    have hnext := ih (earlier ++ [d]) hb'
    rw [List.map_cons, List.cons_append, checkUnique, hfree]
    simpa using hnext

lemma checkUnique_of_unclaimed (h : g.Unclaimed batch) :
    g.checkUnique [] (batch.map .ofEntry) = .ok () := by
  have hall := checkUnique_append [] h []
  simpa [checkUnique] using hall

lemma checkUnique_of_holder (hb : g.Unclaimed before) (hn : e.name = some n) {c : String}
    (hc : g.holder? (before.map .ofEntry) n = some c) :
    g.checkUnique [] ((before ++ e :: after).map .ofEntry) = .error (.duplicateName n c) := by
  have hfirst := checkUnique_append [] hb ((e :: after).map .ofEntry)
  rw [List.map_nil, List.nil_append] at hfirst
  have hname : (Registration.ofEntry e).name = some n := hn
  rw [List.map_append, hfirst, List.map_cons, checkUnique, hname, Option.bind_some, hc]
  rfl

lemma Unclaimed.prefix_of (h : g.Unclaimed (before ++ after)) : g.Unclaimed before := by
  rintro pre d post rfl
  exact h pre d (post ++ after) (by simp)

lemma Unclaimed.nodup (h : g.Unclaimed batch) : (namesOf batch).Nodup := by
  induction batch using List.reverseRecOn with
  | nil => exact List.nodup_nil
  | append_singleton before e ih =>
    have he := h before e [] rfl
    rw [namesOf_append, List.nodup_append']
    refine ⟨ih h.prefix_of, ?_, ?_⟩
    · cases hn : e.name <;> simp [namesOf, hn]
    · cases hn : e.name with
      | none => simp [namesOf, hn]
      | some n =>
        have hnew : n ∉ namesOf before := fun hm => he ⟨n, hn, .inr hm⟩
        simpa [namesOf, hn] using hnew

lemma Unclaimed.not_containsName (h : g.Unclaimed batch) (hn : n ∈ namesOf batch) :
    g.containsName n = false := by
  obtain ⟨e, he, hname⟩ := mem_namesOf.mp hn
  obtain ⟨before, after, rfl⟩ := List.append_of_mem he
  exact Bool.eq_false_iff.mpr fun hc => h before e after rfl ⟨n, hname, .inl hc⟩

lemma exists_first_clash (h : ¬g.Unclaimed batch) :
    ∃ before e after, batch = before ++ e :: after ∧ g.Unclaimed before ∧ g.Clashes before e := by
  induction batch using List.reverseRecOn with
  | nil => exact absurd (fun _ _ _ hb => by simp at hb) h
  | append_singleton before e ih =>
    by_cases hb : g.Unclaimed before
    · by_cases he : g.Clashes before e
      · exact ⟨before, e, [], rfl, hb, he⟩
      · refine absurd (fun pre d post hsplit => ?_) h
        rcases List.eq_nil_or_concat post with rfl | ⟨post, c, rfl⟩
        · obtain ⟨rfl, hd⟩ := List.append_inj' hsplit rfl
          cases hd
          exact he
        · have hsplit' : before ++ [e] = (pre ++ d :: post) ++ [c] := by simpa using hsplit
          obtain ⟨rfl, -⟩ := List.append_inj' hsplit' rfl
          exact hb pre d post rfl
    · obtain ⟨pre, d, post, rfl, hpre, hd⟩ := ih hb
      exact ⟨pre, d, post ++ [e], by simp, hpre, hd⟩

variable {r : Registration α φ} {c : String} {i : Nat}

lemma of_insertAll (g : Registry α φ) (batch : List (Entry α φ)) (c : String) :
    ((batch.map .ofEntry).foldl insert g).of c = g.of c ++ (ofCapability c batch).map .ofEntry := by
  induction batch generalizing g with
  | nil => simp [ofCapability]
  | cons e batch ih =>
    rw [List.map_cons, List.foldl_cons, ih, of_insert]
    by_cases hc : e.capability = c <;> simp [Registration.ofEntry, ofCapability, hc]

lemma byName_insertAll_of_not_mem (hn : n ∉ namesOf batch) :
    ((batch.map .ofEntry).foldl insert g).byName[n]? = g.byName[n]? := by
  induction batch generalizing g with
  | nil => rfl
  | cons e batch ih =>
    have hsplit : namesOf (e :: batch) = e.name.toList ++ namesOf batch := by
      cases he : e.name <;> simp [namesOf, he]
    rw [hsplit, List.mem_append, Option.mem_toList, not_or] at hn
    rw [List.map_cons, List.foldl_cons, ih hn.2, byName_insert, if_neg]
    exact hn.1

lemma byName_insertAll_of_mem (hb : (namesOf batch).Nodup) (he : e ∈ batch)
    (hn : e.name = some n) :
    ((batch.map .ofEntry).foldl insert g).byName[n]? = some (.ofEntry e) := by
  obtain ⟨before, after, rfl⟩ := List.append_of_mem he
  have hafter : n ∉ namesOf after := by
    have hcons : namesOf (e :: after) = n :: namesOf after := by simp [namesOf, hn]
    rw [namesOf_append, hcons] at hb
    exact (List.nodup_cons.mp hb.of_append_right).1
  rw [List.map_append, List.foldl_append, List.map_cons, List.foldl_cons,
    byName_insertAll_of_not_mem hafter, byName_insert, if_pos]
  exact hn

lemma size_insertAll (g : Registry α φ) (batch : List (Entry α φ)) :
    ((batch.map .ofEntry).foldl insert g).size = g.size + batch.length := by
  induction batch generalizing g with
  | nil => rfl
  | cons e batch ih =>
    rw [List.map_cons, List.foldl_cons, ih, List.length_cons]
    exact Nat.add_right_comm _ 1 _

lemma at_eq_ok_iff : g.at? c i = .ok r ↔ (g.of c)[i]? = some r := by
  unfold at?
  cases (g.of c)[i]? <;> simp

lemma named_eq_ok_iff : g.named? c n = .ok r ↔ g.byName[n]? = some r ∧ r.capability = c := by
  unfold named?
  cases g.byName[n]? with
  | none => simp
  | some r' =>
    by_cases hc : r'.capability = c
    · simp only [hc, if_true, Except.ok.injEq, Option.some.injEq]
      exact ⟨fun h => ⟨h, h ▸ hc⟩, And.left⟩
    · simp only [hc, if_false, reduceCtorEq, Option.some.injEq, false_iff, not_and]
      rintro rfl
      exact hc

lemma Unclaimed.extended (h : g.Unclaimed batch) :
    g.Extended batch ((batch.map .ofEntry).foldl insert g) where
  of_eq c := of_insertAll g batch c
  containsName_iff n := by
    rw [containsName_eq_isSome, containsName_eq_isSome]
    by_cases hn : n ∈ namesOf batch
    · obtain ⟨e, he, hname⟩ := mem_namesOf.mp hn
      simp [byName_insertAll_of_mem h.nodup he hname, hn]
    · simp [byName_insertAll_of_not_mem hn, hn]
  size_eq := size_insertAll g batch
  at_kept c i r hr := by
    rw [at_eq_ok_iff] at hr ⊢
    rw [of_insertAll, List.getElem?_append_left (List.getElem?_eq_some_iff.mp hr).1, hr]
  named_kept c n r hr := by
    rw [named_eq_ok_iff] at hr ⊢
    have hn : n ∉ namesOf batch := fun hm => by
      have hfree := h.not_containsName hm
      simp [containsName_eq_isSome, hr.1] at hfree
    rw [byName_insertAll_of_not_mem hn]
    exact hr
  at_new := by
    rintro before e after rfl
    rw [at_eq_ok_iff, of_insertAll, ofCapability_append, count]
    simp [ofCapability]
  named_new e he n hn := by
    rw [named_eq_ok_iff]
    exact ⟨byName_insertAll_of_mem h.nodup he hn, rfl⟩

lemma provideAll_eq (g : Registry α φ) (batch : List (Entry α φ)) :
    g.provideAll batch = do
      forM (batch.map Registration.ofEntry) checkName
      g.checkUnique [] (batch.map .ofEntry)
      return (batch.map .ofEntry).foldl insert g := rfl

lemma provideAll_of_ill (hb : ∀ d ∈ before, ¬d.IllNamed) (hn : e.name = some n) (h : Ill n) :
    g.provideAll (before ++ e :: after) =
      .error (.invalidEntry e.capability (illness n)) := by
  rw [provideAll_eq, checkNames_of_ill hb hn h]
  rfl

lemma provideAll_of_well_named (h : ∀ d ∈ batch, ¬d.IllNamed) :
    g.provideAll batch = do
      g.checkUnique [] (batch.map .ofEntry)
      return (batch.map .ofEntry).foldl insert g := by
  rw [provideAll_eq, checkNames_of_well_named h]
  rfl

lemma provideAll_of_holder (h : ∀ d ∈ before ++ e :: after, ¬d.IllNamed)
    (hb : g.Unclaimed before) (hn : e.name = some n)
    (hc : g.holder? (before.map .ofEntry) n = some c) :
    g.provideAll (before ++ e :: after) = .error (.duplicateName n c) := by
  rw [provideAll_of_well_named h, checkUnique_of_holder hb hn hc]
  rfl

lemma provideAll_of_unclaimed (h : ∀ d ∈ batch, ¬d.IllNamed) (hb : g.Unclaimed batch) :
    g.provideAll batch = .ok ((batch.map .ofEntry).foldl insert g) := by
  rw [provideAll_of_well_named h, checkUnique_of_unclaimed hb]
  rfl

lemma exists_first_ill (h : ∃ e ∈ batch, e.IllNamed) : ∃ before e after,
    batch = before ++ e :: after ∧ (∀ d ∈ before, ¬d.IllNamed) ∧ e.IllNamed := by
  classical
  obtain ⟨e, he⟩ := Option.isSome_iff_exists.mp
    (List.find?_isSome (p := fun d : Entry α φ => decide d.IllNamed) |>.mpr (by simpa using h))
  obtain ⟨hill, before, after, hsplit, hb⟩ := List.find?_eq_some_iff_append.mp he
  exact ⟨before, e, after, hsplit, by simpa using hb, by simpa using hill⟩

lemma provideAll_fails (h : (∃ e ∈ batch, e.IllNamed) ∨ ¬g.Unclaimed batch) :
    ∃ error, g.provideAll batch = .error error := by
  by_cases hill : ∃ e ∈ batch, e.IllNamed
  · obtain ⟨before, e, after, rfl, hb, n, hn, hi⟩ := exists_first_ill hill
    exact ⟨_, provideAll_of_ill hb hn hi⟩
  · obtain ⟨before, e, after, rfl, hb, n, hn, ht⟩ := exists_first_clash (h.resolve_left hill)
    have hwell : ∀ d ∈ before ++ e :: after, ¬d.IllNamed := fun d hd hi => hill ⟨d, hd, hi⟩
    obtain ⟨c, hc⟩ := Option.ne_none_iff_exists'.mp fun hnone => holder_eq_none_iff.mp hnone ht
    exact ⟨_, provideAll_of_holder hwell hb hn hc⟩

lemma not_unclaimed_iff : ¬g.Unclaimed batch ↔
    ∃ before e after, batch = before ++ e :: after ∧ g.Clashes before e := by
  simp [Unclaimed]

lemma eq_ok_or_fails (g : Registry α φ) (batch : List (Entry α φ)) :
    (g.Unclaimed batch ∧ g.provideAll batch = .ok ((batch.map .ofEntry).foldl insert g)) ∨
      (∃ e ∈ batch, e.IllNamed) ∨ ¬g.Unclaimed batch := by
  by_cases hill : ∃ e ∈ batch, e.IllNamed
  · exact .inr (.inl hill)
  · by_cases hb : g.Unclaimed batch
    · exact .inl ⟨hb, provideAll_of_unclaimed (fun d hd hi => hill ⟨d, hd, hi⟩) hb⟩
    · exact .inr (.inr hb)

lemma takes_provideAll (g : Registry α φ) (batch : List (Entry α φ)) :
    g.Takes batch (g.provideAll batch) where
  fails_iff := by
    rw [← not_unclaimed_iff]
    refine ⟨?_, provideAll_fails⟩
    rintro ⟨error, herror⟩
    rcases eq_ok_or_fails g batch with ⟨-, hok⟩ | hfails
    · cases herror.symm.trans hok
    · exact hfails
  ill := by
    rintro before e after n rfl hb hn hi
    exact provideAll_of_ill hb hn hi
  taken_before := by
    rintro hwell before e after n r rfl hb hn hr
    exact provideAll_of_holder hwell hb hn (holder_of_registered hr)
  taken_within := by
    rintro hwell before e after n rfl hb hn hfree d hd hname
    refine provideAll_of_holder hwell hb hn ?_
    rw [holder_of_unregistered hfree, find_name_eq hb.nodup hd hname]
    rfl
  accepted g' hg' := by
    rcases eq_ok_or_fails g batch with ⟨hb, hok⟩ | hfails
    · obtain rfl := Except.ok.inj (hok.symm.trans hg')
      exact hb.extended
    · obtain ⟨error, herror⟩ := provideAll_fails hfails
      cases herror.symm.trans hg'

end Registry

theorem Logged.batch_is_all_or_nothing (k : Logged α φ ρ) (batch : List (Entry α φ)) :
    (∀ rest changes, k = (fresh rest).run changes → k.store.registry.Shows k.log) ∧
    k.store.registry.Takes batch (k.store.registry.provideAll batch) ∧
    (∀ g, k.store.registry.provideAll batch = .ok g →
      k.store.onRegistry (·.provideAll batch) = (.ok (), { k.store with registry := g })) ∧
    ∀ error, k.store.registry.provideAll batch = .error error →
      k.store.onRegistry (·.provideAll batch) = (.error error, k.store) ∧
      ∀ later g, ((k.step (.provideAll batch)).run later).store.registry.provideAll batch = .ok g →
        (k.run later).store.registry.Extended batch g := by
  refine ⟨?_, Registry.takes_provideAll _ batch, fun g hg => ?_, fun error herror => ?_⟩
  · rintro rest changes rfl
    exact shows_run Registry.Shows.empty changes
  · simp only [Store.onRegistry, hg]
  · have hsame : k.store.onRegistry (·.provideAll batch) = (.error error, k.store) := by
      simp only [Store.onRegistry, herror]
    refine ⟨hsame, fun later g hg => ?_⟩
    have hstep : k.step (.provideAll batch) = k := by
      rw [step, hsame]
      rfl
    rw [hstep] at hg
    exact (Registry.takes_provideAll _ batch).accepted g hg

-- The name that no entry can have is reported, though a name that is taken comes before it.
example :
    (match ({} : Registry Nat Empty).provideAll [⟨"clock", some "a", .instance 0⟩,
        ⟨"timer", some "a", .instance 1⟩, ⟨"clock", some "a b", .instance 2⟩] with
      | .error e => decide (e = .invalidEntry "clock" "name must not contain whitespace")
      | .ok _ => false) = true := by
  decide +kernel

end Resilience
