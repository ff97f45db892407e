import Mathlib.Data.List.Basic
import Mathlib.Logic.Relation

/-! Deterministic labelled transition systems.  Nondeterminism of the system (a
scheduler, a peer, the outcome of a call) is carried by the labels. -/

universe u v w

namespace IarmMgrs.Lib.Transition

variable {σ : Type u} {α : Type v} {τ : Type w}

/-- Execute labels in order; `none` as soon as one of them is not enabled. -/
def run (step : σ → α → Option σ) : σ → List α → Option σ
  | s, [] => some s
  | s, a :: as => (step s a).bind (run step · as)

/-- `ok` holds of the state and the label at every step of a run. -/
def Along (step : σ → α → Option σ) (ok : σ → α → Prop) : σ → List α → Prop
  | _, [] => True
  | s, a :: as => ok s a ∧ ∀ s', step s a = some s' → Along step ok s' as

/-- The system with an observer, which notes each step with the state before it. -/
def observed (step : σ → α → Option σ) (note : σ → α → τ → τ) : σ × τ → α → Option (σ × τ)
  | (s, t), a => (step s a).map fun s' => (s', note s a t)

variable {step : σ → α → Option σ}

theorem observed_some {note : σ → α → τ → τ} {s : σ} {t : τ} {a : α} {p : σ × τ} :
    observed step note (s, t) a = some p ↔ step s a = some p.1 ∧ p.2 = note s a t := by
  obtain ⟨s', t'⟩ := p
  simp only [observed, Option.map_eq_some_iff, Prod.mk.injEq]
  constructor
  · rintro ⟨r, hr, rfl, rfl⟩
    exact ⟨hr, rfl⟩
  · rintro ⟨hs, rfl⟩
    exact ⟨s', hs, rfl, rfl⟩

theorem of_guard {p : Prop} [Decidable p] {s s' : σ}
    (h : (if p then some s else none) = some s') : p ∧ s = s' := by
  simpa only [Option.ite_none_right_eq_some, Option.some.injEq] using h

theorem run_cons {s s' : σ} {a : α} {as : List α} :
    run step s (a :: as) = some s' ↔ ∃ t, step s a = some t ∧ run step t as = some s' := by
  simp only [run, Option.bind_eq_some_iff]

theorem run_append {s s' : σ} {as bs : List α} :
    run step s (as ++ bs) = some s' ↔ ∃ t, run step s as = some t ∧ run step t bs = some s' := by
  induction as generalizing s with
  | nil => simp [run]
  | cons a as ih =>
    simp only [List.cons_append, run_cons, ih]
    constructor
    · rintro ⟨t, ht, u, hu, hbs⟩
      exact ⟨u, ⟨t, ht, hu⟩, hbs⟩
    · rintro ⟨u, ⟨t, ht, hu⟩, hbs⟩
      exact ⟨t, ht, u, hu, hbs⟩

/-- What holds at the start and is kept by every step that meets a side condition holds
after every run whose steps all meet it. -/
theorem run_invariant_along (Inv : σ → Prop) {ok : σ → α → Prop}
    (keep : ∀ s a s', Inv s → ok s a → step s a = some s' → Inv s')
    {s s' : σ} {as : List α} (hs : Inv s) (hok : Along step ok s as)
    (h : run step s as = some s') : Inv s' := by
  induction as generalizing s with
  | nil =>
    obtain rfl := Option.some.inj h
    exact hs
  | cons a as ih =>
    obtain ⟨t, ht, h⟩ := run_cons.mp h
    exact ih (keep s a t hs hok.1 ht) (hok.2 t ht) h

theorem Along.of_mem {ok : σ → α → Prop} {s : σ} {as : List α} (hall : ∀ a ∈ as, ∀ s, ok s a) :
    Along step ok s as := by
  induction as generalizing s with
  | nil => trivial
  | cons a as ih =>
    have hrest : ∀ b ∈ as, ∀ s, ok s b := fun b hb => hall b (List.mem_cons_of_mem a hb)
    exact ⟨hall a List.mem_cons_self s, fun _ _ => ih hrest⟩

theorem Along.of_forall {ok : σ → α → Prop} (hall : ∀ s a, ok s a) (s : σ) (as : List α) :
    Along step ok s as :=
  Along.of_mem fun a _ s => hall s a

/-- What holds at the start and is kept by every step holds after every run. -/
theorem run_invariant (Inv : σ → Prop) (keep : ∀ s a s', Inv s → step s a = some s' → Inv s')
    {s s' : σ} {as : List α} (hs : Inv s) (h : run step s as = some s') : Inv s' :=
  run_invariant_along Inv (fun s a s' hs _ => keep s a s' hs) hs
    (Along.of_forall (fun _ _ => trivial) s as) h

theorem run_counts {m : σ → Nat} {p : α → Bool}
    (grow : ∀ s a s', step s a = some s' → m s' = m s + (p a).toNat)
    {s s' : σ} {as : List α} (h : run step s as = some s') : m s' = m s + as.countP p := by
  induction as generalizing s with
  | nil =>
    obtain rfl := Option.some.inj h
    rfl
  | cons a as ih =>
    obtain ⟨t, ht, h⟩ := run_cons.mp h
    rw [ih h, grow s a t ht, List.countP_cons]
    cases p a with
    | false => simp
    | true => simp only [Bool.toNat_true, if_true]; omega

theorem Along.imp {ok ok' : σ → α → Prop} (himp : ∀ s a, ok s a → ok' s a)
    {s : σ} {as : List α} (h : Along step ok s as) : Along step ok' s as := by
  induction as generalizing s with
  | nil => trivial
  | cons a as ih => exact ⟨himp s a h.1, fun t ht => ih (h.2 t ht)⟩

instance Along.decidable {ok : σ → α → Prop} [∀ s a, Decidable (ok s a)] :
    ∀ (s : σ) (as : List α), Decidable (Along step ok s as)
  | _, [] => isTrue trivial
  | s, a :: as =>
    match h : step s a with
    | none => decidable_of_iff (ok s a) (by simp [Along, h])
    | some t =>
      have : Decidable (Along step ok t as) := Along.decidable t as
      decidable_of_iff (ok s a ∧ Along step ok t as) (by simp [Along, h])

theorem Along.of_append_left {ok : σ → α → Prop} {s : σ} {as bs : List α}
    (h : Along step ok s (as ++ bs)) : Along step ok s as := by
  induction as generalizing s with
  | nil => trivial
  | cons a as ih => exact ⟨h.1, fun t ht => ih (h.2 t ht)⟩

theorem Along.of_append {ok : σ → α → Prop} {s t : σ} {as bs : List α}
    (h : Along step ok s (as ++ bs)) (hrun : run step s as = some t) : Along step ok t bs := by
  induction as generalizing s with
  | nil =>
    obtain rfl := Option.some.inj hrun
    exact h
  | cons a as ih =>
    obtain ⟨r, hr, hrun⟩ := run_cons.mp hrun
    exact ih (h.2 r hr) hrun

/-- Conditions that agree wherever an invariant and a side condition hold agree along every run that
meets the side condition. -/
theorem Along.congr_along (Inv : σ → Prop) {side ok ok' : σ → α → Prop}
    (keep : ∀ s a s', Inv s → step s a = some s' → Inv s')
    (hiff : ∀ s a, Inv s → side s a → (ok s a ↔ ok' s a)) {s : σ} {as : List α} (hs : Inv s)
    (hside : Along step side s as) : Along step ok s as ↔ Along step ok' s as := by
  induction as generalizing s with
  | nil => exact Iff.rfl
  | cons a as ih =>
    exact and_congr (hiff s a hs hside.1) (forall_congr' fun t =>
      imp_congr_right fun ht => ih (keep s a t hs ht) (hside.2 t ht))

theorem Along.congr (Inv : σ → Prop) {ok ok' : σ → α → Prop}
    (keep : ∀ s a s', Inv s → step s a = some s' → Inv s')
    (hiff : ∀ s a, Inv s → (ok s a ↔ ok' s a)) {s : σ} {as : List α} (hs : Inv s) :
    Along step ok s as ↔ Along step ok' s as :=
  Along.congr_along Inv keep (fun s a hs _ => hiff s a hs) hs
    (Along.of_forall (fun _ _ => trivial) s as)

/-- A condition that keeps an invariant, and implies another one under it, does so along every
run. -/
theorem Along.imp_of_invariant (Inv : σ → Prop) {ok ok' : σ → α → Prop}
    (keep : ∀ s a s', Inv s → ok s a → step s a = some s' → Inv s')
    (himp : ∀ s a, Inv s → ok s a → ok' s a) {s : σ} {as : List α} (hs : Inv s)
    (h : Along step ok s as) : Along step ok' s as := by
  induction as generalizing s with
  | nil => trivial
  | cons a as ih =>
    exact ⟨himp s a hs h.1, fun t ht => ih (keep s a t hs h.1 ht) (h.2 t ht)⟩

/-- Where one step establishes a property exactly when it meets a condition, a run has the
property in every state it reaches exactly when each of its steps meets the condition. -/
theorem along_iff (Inv P : σ → Prop) {ok : σ → α → Prop} {s t : σ} {as : List α}
    (keep : ∀ s a s', Inv s → ok s a → step s a = some s' → Inv s')
    (sharp : ∀ s a s', Inv s → P s → step s a = some s' → (ok s a ↔ P s'))
    (hs : Inv s) (hP : P s) (h : run step s as = some t) :
    Along step ok s as ↔ ∀ pre u, pre <+: as → run step s pre = some u → P u := by
  induction as generalizing s with
  | nil =>
    refine ⟨fun _ pre u hpre hu => ?_, fun _ => trivial⟩
    obtain rfl := List.prefix_nil.mp hpre
    obtain rfl := Option.some.inj hu
    exact hP
  | cons a as ih =>
    obtain ⟨r, hr, hrest⟩ := run_cons.mp h
    constructor
    · rintro ⟨hok, halong⟩ pre u hpre hu
      cases pre with
      | nil =>
        obtain rfl := Option.some.inj hu
        exact hP
      | cons b pre =>
        obtain ⟨rfl, htail⟩ := List.cons_prefix_cons.mp hpre
        obtain ⟨r', hr', hu⟩ := run_cons.mp hu
        obtain rfl := Option.some.inj (hr.symm.trans hr')
        exact (ih (keep s b r hs hok hr) ((sharp s b r hs hP hr).mp hok) hrest).mp
          (halong r hr) pre u htail hu
    · intro hall
      have hPr : P r := hall [a] r (by simp) (run_cons.mpr ⟨r, hr, rfl⟩)
      have hok : ok s a := (sharp s a r hs hP hr).mpr hPr
      refine ⟨hok, fun r' hr' => ?_⟩
      obtain rfl := Option.some.inj (hr.symm.trans hr')
      refine (ih (keep s a r hs hok hr) hPr hrest).mpr fun pre u hpre hu => ?_
      exact hall (a :: pre) u (List.cons_prefix_cons.mpr ⟨rfl, hpre⟩)
        (run_cons.mpr ⟨r, hr, hu⟩)

/-- Every step of a run refines zero or more steps of an abstract system, so the
whole run does. -/
theorem run_refines {Inv : σ → τ → Prop} {R : τ → τ → Prop}
    (sim : ∀ s a s' t, Inv s t → step s a = some s' →
      ∃ t', Inv s' t' ∧ Relation.ReflTransGen R t t')
    {s s' : σ} {t : τ} {as : List α} (hs : Inv s t) (h : run step s as = some s') :
    ∃ t', Inv s' t' ∧ Relation.ReflTransGen R t t' := by
  induction as generalizing s t with
  | nil =>
    obtain rfl := Option.some.inj h
    exact ⟨t, hs, .refl⟩
  | cons a as ih =>
    obtain ⟨r, hr, h⟩ := run_cons.mp h
    obtain ⟨t₁, h₁, htt₁⟩ := sim s a r t hs hr
    obtain ⟨t₂, h₂, ht₁t₂⟩ := ih h₁ h
    exact ⟨t₂, h₂, htt₁.trans ht₁t₂⟩

end IarmMgrs.Lib.Transition
