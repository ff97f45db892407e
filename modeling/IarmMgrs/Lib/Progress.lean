import IarmMgrs.Lib.Transition
import Mathlib.Algebra.Ring.Nat

universe u v

namespace IarmMgrs.Lib.Transition

variable {σ : Type u} {α : Type v}

/-- `todo` is what the component that takes the steps `own` has left to do, and `adds` what
the other steps give it on top. -/
structure Progress (step : σ → α → Option σ) (Inv : σ → Prop) (own : α → Bool) (todo : σ → Nat)
    (adds : α → Nat) : Prop where
  keep : ∀ s a s', Inv s → step s a = some s' → Inv s'
  spend : ∀ s a s', Inv s → step s a = some s' → todo s' + (own a).toNat ≤ todo s + adds a
  adds_own : ∀ a, own a = true → adds a = 0

def AtRest (step : σ → α → Option σ) (own : α → Bool) (s : σ) : Prop :=
  ∀ a, own a = true → step s a = none

namespace Progress

variable {step : σ → α → Option σ} {Inv : σ → Prop} {own : α → Bool} {todo : σ → Nat}
  {adds : α → Nat} {s s' : σ} {as : List α}

/-- However the steps of the others fall, the component's own are paid for. -/
theorem countP_le (h : Progress step Inv own todo adds) (hs : Inv s)
    (hrun : run step s as = some s') :
    as.countP own + todo s' ≤ todo s + (as.map adds).sum := by
  induction as generalizing s with
  | nil =>
    obtain rfl := Option.some.inj hrun
    simp
  | cons a as ih =>
    obtain ⟨t, ht, hrun⟩ := run_cons.mp hrun
    have hspend : todo t + (own a).toNat ≤ todo s + adds a := h.spend s a t hs ht
    have hrest : as.countP own + todo s' ≤ todo t + (as.map adds).sum :=
      ih (h.keep s a t hs ht) hrun
    have hcount : (a :: as).countP own = as.countP own + (own a).toNat := by
      rw [List.countP_cons]
      cases own a <;> rfl
    rw [hcount, List.map_cons, List.sum_cons]
    omega

/-- Left alone the component stops after what it has to do. -/
theorem length_le (h : Progress step Inv own todo adds) (hs : Inv s)
    (hown : ∀ a ∈ as, own a = true) (hrun : run step s as = some s') :
    as.length + todo s' ≤ todo s := by
  have hcount : as.countP own = as.length := List.countP_eq_length.mpr hown
  have hadds : (as.map adds).sum = 0 := by
    rw [List.sum_eq_zero_iff_forall_eq_nat]
    intro n hn
    obtain ⟨a, ha, rfl⟩ := List.mem_map.mp hn
    exact h.adds_own a (hown a ha)
  have hle := h.countP_le hs hrun
  omega

/-- Left alone the component comes to rest. -/
theorem exists_atRest (h : Progress step Inv own todo adds) (hs : Inv s) :
    ∃ as s', (∀ a ∈ as, own a = true) ∧ run step s as = some s' ∧ AtRest step own s' := by
  induction hn : todo s using Nat.strongRecOn generalizing s with
  | ind n ih =>
    by_cases hrest : AtRest step own s
    · exact ⟨[], s, by simp, rfl, hrest⟩
    · simp only [AtRest, not_forall] at hrest
      obtain ⟨a, hown, hstep⟩ := hrest
      obtain ⟨t, ht⟩ := Option.ne_none_iff_exists'.mp hstep
      have hless : todo t < n := by
        have hspend := h.spend s a t hs ht
        rw [hown, h.adds_own a hown, Bool.toNat_true] at hspend
        omega
      obtain ⟨as, s', has, hrun, hrest⟩ := ih (todo t) hless (h.keep s a t hs ht) rfl
      refine ⟨a :: as, s', ?_, run_cons.mpr ⟨t, ht, hrun⟩, hrest⟩
      intro b hb
      cases List.mem_cons.mp hb with
      | inl hb => exact hb ▸ hown
      | inr hb => exact has b hb

end Progress

end IarmMgrs.Lib.Transition
