import Mathlib.Data.List.Basic

universe u v

namespace IarmMgrs.Lib.Output

variable {α : Type u} {β : Type v}

/-- The output of a computation that throws at the inputs that are bad, and otherwise has an item
for those that it keeps; the flag is the exception. -/
inductive Emits (Keeps Bad : β → Prop) (Item : β → α → Prop) : List β → List α × Bool → Prop
  | nil : Emits Keeps Bad Item [] ([], false)
  | bad {b bs} : Bad b → Emits Keeps Bad Item (b :: bs) ([], true)
  | skip {b bs r} : ¬ Bad b → ¬ Keeps b → Emits Keeps Bad Item bs r →
      Emits Keeps Bad Item (b :: bs) r
  | keep {b bs a r} : ¬ Bad b → Keeps b → Item b a → Emits Keeps Bad Item bs r →
      Emits Keeps Bad Item (b :: bs) (a :: r.1, r.2)

def andThen (r r' : List α × Bool) : List α × Bool := if r.2 then r else (r.1 ++ r'.1, r'.2)

variable {Keeps Bad : β → Prop} {Item : β → α → Prop} {r r' : List α × Bool} {bs bs' : List β}

theorem andThen_cons (a : α) :
    andThen (a :: r.1, r.2) r' = (a :: (andThen r r').1, (andThen r r').2) := by
  unfold andThen
  obtain ⟨as, threw⟩ := r
  cases threw <;> rfl

theorem Emits.andThen (h : Emits Keeps Bad Item bs r) (h' : Emits Keeps Bad Item bs' r') :
    Emits Keeps Bad Item (bs ++ bs') (andThen r r') := by
  induction h with
  | nil => exact h'
  | bad hbad => exact .bad hbad
  | skip hgood hdropped _ ih => exact .skip hgood hdropped ih
  | keep hgood hkept hitem _ ih =>
    rw [andThen_cons]
    exact .keep hgood hkept hitem ih

theorem Emits.threw_iff (h : Emits Keeps Bad Item bs r) : r.2 = true ↔ ∃ b ∈ bs, Bad b := by
  induction h with
  | nil => simp
  | bad hbad => simp [hbad]
  | skip hgood _ _ ih => rw [ih, List.exists_mem_cons_iff, or_iff_right hgood]
  | keep hgood _ _ _ ih => rw [ih, List.exists_mem_cons_iff, or_iff_right hgood]

end IarmMgrs.Lib.Output
