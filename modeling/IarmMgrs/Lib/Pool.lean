import IarmMgrs.Lib.Transition
import Mathlib.Logic.Function.Basic

/-! Any number of threads over one shared state.  A thread is started at a free number,
takes one step of its program at a time, and gives its number back when it ends. -/

universe u v w x

namespace IarmMgrs.Lib

structure Pool (σ : Type u) (π : Type v) where
  shared : σ
  threads : Nat → Option π

namespace Pool

variable {σ : Type u} {π : Type v} {ε : Type w} {α : Type x}

def init (shared : σ) : Pool σ π := ⟨shared, fun _ => none⟩

/-- `answer` is what the outside world contributes to the step. -/
inductive Action (ε : Type w) (α : Type x)
  | start (t : Nat) (entry : ε)
  | advance (t : Nat) (answer : α)
  deriving DecidableEq

/-- `enter` is where a call begins, and `move` one step of a thread, with no program left
once it ends. -/
def step (enter : ε → σ → π) (move : π → α → σ → Option (σ × Option π)) (p : Pool σ π) :
    Action ε α → Option (Pool σ π)
  | .start t entry =>
    match p.threads t with
    | none => some ⟨p.shared, Function.update p.threads t (some (enter entry p.shared))⟩
    | some _ => none
  | .advance t answer =>
    match p.threads t with
    | none => none
    | some pc =>
      (move pc answer p.shared).map fun r => ⟨r.1, Function.update p.threads t r.2⟩

def Idle (p : Pool σ π) : Prop := ∀ t, p.threads t = none

def Any (P : π → Prop) (p : Pool σ π) : Prop := ∃ t pc, p.threads t = some pc ∧ P pc

def All (P : π → Prop) (p : Pool σ π) : Prop := ∀ t pc, p.threads t = some pc → P pc

variable {enter : ε → σ → π} {move : π → α → σ → Option (σ × Option π)} {p p' : Pool σ π}
  {P Q : π → Prop} {t : Nat} {pc : π} {next : Option π} {shared : σ}

theorem step_start {entry : ε} (h : step enter move p (.start t entry) = some p') :
    p.threads t = none ∧
      p' = ⟨p.shared, Function.update p.threads t (some (enter entry p.shared))⟩ := by
  simp only [step] at h
  split at h
  case h_1 ht => exact ⟨ht, (Option.some.inj h).symm⟩
  case h_2 => cases h

theorem step_advance {answer : α} (h : step enter move p (.advance t answer) = some p') :
    ∃ pc shared next, p.threads t = some pc ∧ move pc answer p.shared = some (shared, next) ∧
      p' = ⟨shared, Function.update p.threads t next⟩ := by
  simp only [step] at h
  split at h
  case h_1 => cases h
  case h_2 pc ht =>
    obtain ⟨⟨shared, next⟩, hmove, rfl⟩ := Option.map_eq_some_iff.mp h
    exact ⟨pc, shared, next, ht, hmove, rfl⟩

theorem not_any_of_idle (h : p.Idle) : ¬ p.Any P := by
  rintro ⟨t, pc, ht, -⟩
  rw [h t] at ht
  cases ht

theorem all_init : (init shared : Pool σ π).All P := fun t pc h => by simp [init] at h

theorem threads_update {u : Nat} {q : π}
    (h : (⟨shared, Function.update p.threads t next⟩ : Pool σ π).threads u = some q) :
    (u = t ∧ next = some q) ∨ (u ≠ t ∧ p.threads u = some q) := by
  by_cases heq : u = t
  · subst heq
    exact .inl ⟨rfl, by simpa using h⟩
  · exact .inr ⟨heq, by simpa [Function.update_of_ne heq] using h⟩

theorem any_next (h : next = some pc) (hP : P pc) :
    Any P ⟨shared, Function.update p.threads t next⟩ :=
  ⟨t, pc, by simp [h], hP⟩

theorem Any.update (h : p.Any P) (hpc : ∀ pc, p.threads t = some pc → ¬ P pc) :
    Any P ⟨shared, Function.update p.threads t next⟩ := by
  obtain ⟨u, q, hu, hP⟩ := h
  have hne : u ≠ t := by
    rintro rfl
    exact hpc q hu hP
  exact ⟨u, q, by simpa [Function.update_of_ne hne] using hu, hP⟩

theorem Any.of_update (h : Any P ⟨shared, Function.update p.threads t next⟩)
    (hnext : ∀ pc, next = some pc → ¬ P pc) : p.Any P := by
  obtain ⟨u, q, hu, hP⟩ := h
  obtain ⟨-, hq⟩ | ⟨-, hq⟩ := threads_update hu
  · exact absurd hP (hnext q hq)
  · exact ⟨u, q, hq, hP⟩

theorem All.update (h : p.All P) (himp : ∀ pc, P pc → Q pc) (hnext : ∀ pc, next = some pc → Q pc) :
    All Q ⟨shared, Function.update p.threads t next⟩ := by
  intro u q hu
  obtain ⟨-, hq⟩ | ⟨-, hq⟩ := threads_update hu
  · exact hnext q hq
  · exact himp q (h u q hq)

/-- A thread runs from a place to its end with no other one in between, on answers that
depend on where it stands. -/
inductive Alone (move : π → α → σ → Option (σ × Option π)) (answer : π → α) : π → σ → σ → Prop
  | last {pc : π} {s s' : σ} : move pc (answer pc) s = some (s', none) → Alone move answer pc s s'
  | next {pc pc' : π} {s t s' : σ} : move pc (answer pc) s = some (t, some pc') →
      Alone move answer pc' t s' → Alone move answer pc s s'

theorem Alone.run {answer : π → α} {s s' : σ} (h : Alone move answer pc s s')
    {threads : Nat → Option π} (ht : threads t = some pc) (enter : ε → σ → π) :
    ∃ as, Transition.run (step enter move) ⟨s, threads⟩ as =
      some ⟨s', Function.update threads t none⟩ := by
  induction h generalizing threads with
  | @last pc s s' hmove =>
    refine ⟨[.advance t (answer pc)], Transition.run_cons.mpr ⟨_, ?_, rfl⟩⟩
    simp only [step, ht, hmove, Option.map_some]
  | @next pc pc' s u s' hmove hrest ih =>
    have hat : Function.update threads t (some pc') t = some pc' := Function.update_self ..
    obtain ⟨as, has⟩ := ih hat
    refine ⟨.advance t (answer pc) :: as, Transition.run_cons.mpr
      ⟨⟨u, Function.update threads t (some pc')⟩, ?_, ?_⟩⟩
    · simp only [step, ht, hmove, Option.map_some]
    · rwa [Function.update_idem] at has

theorem Alone.run_start {answer : π → α} {entry : ε} {s' : σ} (ht : p.threads t = none)
    (h : Alone move answer (enter entry p.shared) p.shared s') :
    ∃ as, Transition.run (step enter move) p (.start t entry :: as) = some ⟨s', p.threads⟩ := by
  obtain ⟨as, has⟩ := h.run (Function.update_self t _ p.threads) enter
  refine ⟨as, Transition.run_cons.mpr ⟨_, ?_, has.trans ?_⟩⟩
  · simp only [step, ht]
  · rw [Function.update_idem, ← ht, Function.update_eq_self]

end Pool

end IarmMgrs.Lib
