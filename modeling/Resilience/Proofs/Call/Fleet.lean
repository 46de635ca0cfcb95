import Resilience.Proofs.Call.Run

namespace Resilience

namespace Call

/-- A call that was begun in one world and looked at in others since. -/
structure Strand (β ι ε : Type) where
  task : Task β ε
  context : Context
  began : World ε
  looks : List (World ε) := []
  reached : Step β ι ε
  dropped : Bool := false

structure Fleet (β ι ε : Type) where
  world : World ε
  strands : List (Strand β ι ε)

variable {β ι ε : Type}

namespace Fleet

section

variable (work : Work β ι ε) (decorate : Task β ε → Task β ε)

inductive Move : Fleet β ι ε → Fleet β ι ε → Prop
  | call (t : Task β ε) (x : Context) {w : World ε} {strands : List (Strand β ι ε)}
      {s : Step β ι ε} : ofTask work (decorate t) x w = s →
      Move ⟨w, strands⟩
        ⟨s.2, strands ++ [{ task := t, context := x, began := w, reached := s }]⟩
  | look {w v : World ε} {before after : List (Strand β ι ε)} {a : Strand β ι ε}
      {c : Call β ι ε} {s : Step β ι ε} : a.dropped = false → a.reached = (.pending c, v) →
      c.resume work w = s →
      Move ⟨w, before ++ a :: after⟩
        ⟨s.2, before ++ { a with looks := a.looks ++ [w], reached := s } :: after⟩
  | drop {w v : World ε} {before after : List (Strand β ι ε)} {a : Strand β ι ε}
      {c : Call β ι ε} : a.dropped = false → a.reached = (.pending c, v) →
      Move ⟨w, before ++ a :: after⟩
        ⟨c.drop work w, before ++ { a with dropped := true } :: after⟩
  | others {w : World ε} {strands : List (Strand β ι ε)} (w' : World ε) :
      Move ⟨w, strands⟩ ⟨w', strands⟩

inductive Reachable : Fleet β ι ε → Prop
  | start (w : World ε) : Reachable ⟨w, []⟩
  | move {f g : Fleet β ι ε} : Reachable f → Move work decorate f g → Reachable g

def Genuine (f : Fleet β ι ε) : Prop :=
  ∀ s ∈ f.strands, Run work anyone (ofTask work (decorate s.task) s.context s.began) s.looks
    s.reached

end

variable {work : Work β ι ε} {decorate : Task β ε → Task β ε} {f g : Fleet β ι ε}

lemma Move.genuine (h : Move work decorate f g) (hf : f.Genuine work decorate) :
    g.Genuine work decorate := by
  cases h with
  | call t x hs =>
    subst hs
    refine List.forall_mem_append.mpr ⟨hf, List.forall_mem_singleton.mpr ?_⟩
    exact .begun
  | look _ hc hs =>
    subst hs
    obtain ⟨hbefore, hrest⟩ := List.forall_mem_append.mp hf
    obtain ⟨ha, hafter⟩ := List.forall_mem_cons.mp hrest
    rw [hc] at ha
    exact List.forall_mem_append.mpr
      ⟨hbefore, List.forall_mem_cons.mpr ⟨ha.resumed _ trivial, hafter⟩⟩
  | drop _ _ =>
    obtain ⟨hbefore, hrest⟩ := List.forall_mem_append.mp hf
    obtain ⟨ha, hafter⟩ := List.forall_mem_cons.mp hrest
    exact List.forall_mem_append.mpr ⟨hbefore, List.forall_mem_cons.mpr ⟨ha, hafter⟩⟩
  | others w' => exact hf

theorem Reachable.genuine (h : f.Reachable work decorate) : f.Genuine work decorate := by
  induction h with
  | start w => exact List.forall_mem_nil _
  | move _ hm ih => exact hm.genuine ih

end Fleet

end Call

end Resilience
