import Mathlib.Data.Option.Basic

universe u v w x

namespace IarmMgrs.Lib

inductive Ask (Q : Type u) (R : Type v) (α : Type w)
  | done (result : α)
  | ask (question : Q) (next : R → Ask Q R α)

namespace Ask

variable {Q : Type u} {R : Type v} {α : Type w} {β : Type x}

def map (f : α → β) : Ask Q R α → Ask Q R β
  | .done result => .done (f result)
  | .ask question next => .ask question fun r => (next r).map f

/-- The result, and the answers on the way to it.  The questions are numbered, and one without an
answer ends it all. -/
def run (answer : Nat → Q → Option R) : Nat → Ask Q R α → Option (α × List R)
  | _, .done result => some (result, [])
  | k, .ask question next =>
    (answer k question).bind fun r =>
      (run answer (k + 1) (next r)).map fun p => (p.1, r :: p.2)

/-- There is no success without a good answer before it. -/
def Guarded (Good : R → Prop) (Success : α → Prop) : Ask Q R α → Prop
  | .done result => ¬ Success result
  | .ask _ next => ∀ r, Good r ∨ (next r).Guarded Good Success

variable {answer : Nat → Q → Option R} {k : Nat} {p : Ask Q R α} {result : α} {rs : List R}

theorem run_ask {question : Q} {next : R → Ask Q R α} :
    run answer k (.ask question next) = some (result, rs) ↔
      ∃ r rest, answer k question = some r ∧ run answer (k + 1) (next r) = some (result, rest) ∧
        rs = r :: rest := by
  simp only [run, Option.bind_eq_some_iff, Option.map_eq_some_iff, Prod.exists, Prod.mk.injEq]
  constructor
  · rintro ⟨r, hr, result', rest, hrest, rfl, rfl⟩
    exact ⟨r, rest, hr, hrest, rfl⟩
  · rintro ⟨r, rest, hr, hrest, rfl⟩
    exact ⟨r, hr, result, rest, hrest, rfl, rfl⟩

/-- What holds of every answer that can be given holds of those that are. -/
theorem run_answers {P : R → Prop} (hanswer : ∀ j q r, answer j q = some r → P r)
    (h : run answer k p = some (result, rs)) : ∀ r ∈ rs, P r := by
  induction p generalizing k rs with
  | done result' =>
    obtain ⟨rfl, rfl⟩ := Prod.mk.inj (Option.some.inj h)
    simp
  | ask question next ih =>
    obtain ⟨r, rest, hr, hrest, rfl⟩ := run_ask.mp h
    exact List.forall_mem_cons.mpr ⟨hanswer k question r hr, ih r hrest⟩

theorem Guarded.not_success {Good : R → Prop} {Success : α → Prop}
    (hguarded : p.Guarded Good Success) (h : run answer k p = some (result, rs))
    (hbad : ∀ r ∈ rs, ¬ Good r) : ¬ Success result := by
  induction p generalizing k rs with
  | done result' =>
    obtain ⟨rfl, -⟩ := Prod.mk.inj (Option.some.inj h)
    exact hguarded
  | ask question next ih =>
    obtain ⟨r, rest, -, hrest, rfl⟩ := run_ask.mp h
    obtain ⟨hr, hbad⟩ := List.forall_mem_cons.mp hbad
    exact ih r ((hguarded r).resolve_left hr) hrest hbad

theorem Guarded.map {Good : R → Prop} {Success : α → Prop} {Success' : β → Prop} {f : α → β}
    (hguarded : p.Guarded Good Success) (hf : ∀ a, Success' (f a) → Success a) :
    (p.map f).Guarded Good Success' := by
  induction p with
  | done result => exact fun h => hguarded (hf result h)
  | ask question next ih => exact fun r => (hguarded r).imp_right (ih r)

end Ask

end IarmMgrs.Lib
