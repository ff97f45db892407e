import Mathlib.Computability.StateTransition

universe u

namespace IarmMgrs.Lib.Loop

open StateTransition Relation

variable {σ : Type u} {step : σ → Option σ}

/-- Total correctness: a loop whose steps keep an invariant and decrease a variant ends, and the
invariant holds there. -/
theorem exists_mem_eval {Inv : σ → Prop} {variant : σ → Nat}
    (keep : ∀ s s', Inv s → step s = some s' → Inv s' ∧ variant s' < variant s) {s : σ}
    (hs : Inv s) : ∃ t ∈ eval step s, Inv t := by
  induction hsize : variant s using Nat.strong_induction_on generalizing s with
  | _ size ih =>
    cases hstep : step s with
    | none => exact ⟨s, mem_eval.mpr ⟨ReflTransGen.refl, hstep⟩, hs⟩
    | some s' =>
      obtain ⟨hs', hless⟩ := keep s s' hs hstep
      obtain ⟨t, ht, hinv⟩ := ih (variant s') (hsize ▸ hless) hs' rfl
      exact ⟨t, by rwa [reaches_eval (ReflTransGen.single hstep)], hinv⟩

theorem of_mem_eval {P : σ → Prop} {s t : σ} (h : ∃ t ∈ eval step s, P t) (ht : t ∈ eval step s) :
    P t := by
  obtain ⟨t', ht', hp⟩ := h
  rwa [Part.mem_unique ht ht']

end IarmMgrs.Lib.Loop
