import Mathlib.Data.List.Basic

universe u v w

namespace IarmMgrs.Lib.Sweep

variable {σ : Type u} {κ : Type v} {β : Type w} {f : σ → κ → σ}

theorem foldl_keeps {val : σ → β} (keep : ∀ s k, val (f s k) = val s) (l : List κ) (s : σ) :
    val (l.foldl f s) = val s := by
  induction l generalizing s with
  | nil => rfl
  | cons k l ih => rw [List.foldl_cons, ih, keep]

/-- A sweep gives the listed places it writes their new content, and no other place. -/
theorem foldl_writes [DecidableEq κ] (Inv : σ → Prop) (val : σ → κ → β) (hit : κ → Prop)
    [DecidablePred hit] (new : κ → β) (keep : ∀ s k, Inv s → Inv (f s k))
    (write : ∀ s k q, Inv s → val (f s k) q = if q = k ∧ hit k then new k else val s q)
    (l : List κ) {s : σ} (hs : Inv s) (q : κ) :
    val (l.foldl f s) q = if q ∈ l ∧ hit q then new q else val s q := by
  induction l generalizing s with
  | nil => simp
  | cons k l ih =>
    rw [List.foldl_cons, ih (keep s k hs), write s k q hs]
    by_cases hq : q ∈ l ∧ hit q
    · simp [hq]
    · by_cases hqk : q = k
      · subst hqk
        simp [hq]
      · simp [hqk]

end IarmMgrs.Lib.Sweep
