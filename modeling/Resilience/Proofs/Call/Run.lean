import Mathlib.Tactic.Lemma
import Resilience.Call

/-! One call among others. A call that waits is looked at again in a world that the others have
changed meanwhile; the worlds handed to it are all that a run depends on. A set of runs describes a
call if it consists of the runs of the call, whatever the others do; so the runs of a layer can be
described by runs of the layers below it. -/

namespace Resilience

namespace Call

variable {β ι ε τ : Type}

abbrev Others (β ι ε : Type) := Call β ι ε → World ε → World ε → Prop

def anyone : Others β ι ε := fun _ _ _ => True

/-- The steps that a call begun with `s` reaches when it is looked at in the listed worlds. -/
inductive Run (work : Work β ι ε) (others : Others β ι ε) (s : Step β ι ε) :
    List (World ε) → Step β ι ε → Prop
  | begun : Run work others s [] s
  | resumed {ws : List (World ε)} {c : Call β ι ε} {w : World ε} :
      Run work others s ws (.pending c, w) →
      ∀ w', others c w w' → Run work others s (ws ++ [w']) (c.resume work w')

namespace Run

variable {work : Work β ι ε} {others : Others β ι ε} {s s' s'' : Step β ι ε} {c : Call β ι ε}
  {v : World ε} {ws us : List (World ε)}

lemma append (h : Run work others s ws s') (h' : Run work others s' us s'') :
    Run work others s (ws ++ us) s'' := by
  induction h' with
  | begun => simpa using h
  | resumed _ w' hothers ih =>
    rw [← List.append_assoc]
    exact ih.resumed w' hothers

lemma imp {others' : Others β ι ε} (himp : ∀ {c v u}, others c v u → others' c v u)
    (h : Run work others s ws s') : Run work others' s ws s' := by
  induction h with
  | begun => exact .begun
  | resumed _ w' hothers ih => exact ih.resumed w' (himp hothers)

lemma eq_of_nil (h : Run work others s [] s') : s' = s := by
  generalize hws : ([] : List (World ε)) = ws at h
  cases h with
  | begun => rfl
  | resumed _ _ _ => simp at hws

lemma unique (h : Run work others s ws s') (h' : Run work others s ws s'') : s' = s'' := by
  induction h generalizing s'' with
  | begun => exact h'.eq_of_nil.symm
  | @resumed ws c w _ w' _ ih =>
    generalize hus : ws ++ [w'] = us at h'
    cases h' with
    | begun => simp at hus
    | @resumed us' c' u hrun u' _ =>
      obtain ⟨rfl, hw⟩ := List.append_inj' hus rfl
      obtain rfl := List.singleton_inj.1 hw
      have hsame := ih hrun
      cases hsame
      rfl

lemma idle (h : Run work anyone s ws (.pending c, v))
    (hidle : ∀ u ∈ us, c.resume work u = (.pending c, u)) :
    Run work anyone s (ws ++ us) (.pending c, us.getLastD v) := by
  induction us generalizing ws v with
  | nil => simpa using h
  | cons u us ih =>
    obtain ⟨hu, hidle⟩ := List.forall_mem_cons.mp hidle
    have hnext := h.resumed u trivial
    rw [hu] at hnext
    rw [List.append_cons, List.getLastD_cons]
    exact ih hnext hidle

lemma wrap {f : Step β ι ε → Step β ι ε} {g : Call β ι ε → Call β ι ε} {p : World ε → Prop}
    (hpending : ∀ c w, f (.pending c, w) = (.pending (g c), w))
    (hresume : ∀ c u, p u → (g c).resume work u = f (c.resume work u))
    (h : Run work anyone s ws s') (hp : ∀ u ∈ ws, p u) : Run work anyone (f s) ws (f s') := by
  induction h with
  | begun => exact .begun
  | @resumed ws c w _ w' _ ih =>
    obtain ⟨hp, hw'⟩ := List.forall_mem_append.mp hp
    have hrun := ih hp
    rw [hpending] at hrun
    rw [← hresume c w' (hw' w' List.mem_cons_self)]
    exact hrun.resumed w' trivial

lemma around {f : Step β ι ε → Step β ι ε} {g : Call β ι ε → Call β ι ε}
    (hpending : ∀ c w, f (.pending c, w) = (.pending (g c), w))
    (hresume : ∀ c u, (g c).resume work u = f (c.resume work u)) (h : Run work anyone s ws s') :
    Run work anyone (f s) ws (f s') :=
  h.wrap (p := fun _ => True) hpending (fun c u _ => hresume c u) fun _ _ => trivial

end Run

/-- Runs with what is remembered of them. Each was begun in a world, has been looked at in a list of
worlds and has now reached a step. -/
abbrev Runs (τ β ι ε : Type) := World ε → List (World ε) → τ → Step β ι ε → Prop

structure Describes (work : Work β ι ε) (once : World ε → Step β ι ε) (runs : Runs τ β ι ε) :
    Prop where
  begun : ∀ w, ∃ t, runs w [] t (once w)
  resumed : ∀ {w ws t c v}, runs w ws t (.pending c, v) →
    ∀ w', ∃ t', runs w (ws ++ [w']) t' (c.resume work w')
  genuine : ∀ {w ws t s}, runs w ws t s → Run work anyone (once w) ws s

theorem Describes.run_iff {work : Work β ι ε} {once : World ε → Step β ι ε} {runs : Runs τ β ι ε}
    (h : Describes work once runs) {w : World ε} {ws : List (World ε)} {s : Step β ι ε} :
    Run work anyone (once w) ws s ↔ ∃ t, runs w ws t s := by
  constructor
  · intro hr
    induction hr with
    | begun => exact h.begun w
    | resumed _ w' _ ih =>
      obtain ⟨t, ht⟩ := ih
      exact h.resumed ht w'
  · rintro ⟨t, ht⟩
    exact h.genuine ht

end Call

end Resilience
