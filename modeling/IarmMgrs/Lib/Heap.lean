import Mathlib.Data.List.Nodup
import Mathlib.Data.List.Perm.Subperm
import Mathlib.Logic.Function.Basic

universe u

namespace IarmMgrs.Lib

abbrev Addr := Nat

/-- `none` at an address that was never allocated or was freed. -/
abbrev Heap (ν : Type u) := Addr → Option ν

theorem update_some_cases {ν : Type u} {h : Heap ν} {a b : Addr} {x y : ν}
    (hx : Function.update h a (some y) b = some x) :
    (b = a ∧ x = y) ∨ (b ≠ a ∧ h b = some x) := by
  by_cases hb : b = a
  · subst hb
    rw [Function.update_self] at hx
    exact .inl ⟨rfl, (Option.some.inj hx).symm⟩
  · rw [Function.update_of_ne hb] at hx
    exact .inr ⟨hb, hx⟩

theorem update_none_sub {ν : Type u} {h : Heap ν} {a b : Addr} {x : ν}
    (hx : Function.update h a none b = some x) : h b = some x := by
  by_cases hb : b = a
  · simp [hb] at hx
  · rwa [Function.update_of_ne hb] at hx

/-- The live cells are exactly the owned ones, each with one owner, and every other
cell that was ever allocated has been freed once.  `brk` is the next new address. -/
structure Owned {ν : Type u} (h : Heap ν) (brk : Addr) (freed owned : List Addr) : Prop where
  nodup : owned.Nodup
  live : ∀ a, h a ≠ none ↔ a ∈ owned
  below : ∀ a ∈ owned, a < brk
  freed_iff : ∀ a, a ∈ freed ↔ a < brk ∧ h a = none
  freed_nodup : freed.Nodup

namespace Owned

variable {ν : Type u} {h : Heap ν} {brk : Addr} {freed owned owned' : List Addr}

theorem get (ho : Owned h brk freed owned) {a : Addr} (ha : a ∈ owned) : ∃ x, h a = some x :=
  Option.ne_none_iff_exists'.mp ((ho.live a).mpr ha)

theorem brk_notMem (ho : Owned h brk freed owned) : brk ∉ owned :=
  fun hmem => Nat.lt_irrefl brk (ho.below brk hmem)

theorem notMem_freed (ho : Owned h brk freed owned) {a : Addr} (ha : a ∈ owned) : a ∉ freed :=
  fun hf => (ho.live a).mpr ha ((ho.freed_iff a).mp hf).2

theorem perm (ho : Owned h brk freed owned) (hp : owned.Perm owned') :
    Owned h brk freed owned' where
  nodup := hp.nodup_iff.mp ho.nodup
  live a := (ho.live a).trans hp.mem_iff
  below a ha := ho.below a (hp.mem_iff.mpr ha)
  freed_iff := ho.freed_iff
  freed_nodup := ho.freed_nodup

theorem alloc (ho : Owned h brk freed owned) (x : ν) :
    Owned (Function.update h brk (some x)) (brk + 1) freed (brk :: owned) where
  nodup := List.nodup_cons.mpr ⟨ho.brk_notMem, ho.nodup⟩
  live a := by
    by_cases ha : a = brk
    · simp [ha]
    · simp [ho.live a, ha]
  below a ha := by
    cases List.mem_cons.mp ha with
    | inl heq => exact heq ▸ Nat.lt_succ_self brk
    | inr hmem => exact Nat.lt_succ_of_lt (ho.below a hmem)
  freed_iff a := by
    by_cases ha : a = brk
    · have hn : a ∉ freed := fun hf => Nat.lt_irrefl brk (ha ▸ ((ho.freed_iff a).mp hf).1)
      simp [ha] at hn ⊢
      exact hn
    · rw [Function.update_of_ne ha, ho.freed_iff a]
      exact and_congr_left fun _ =>
        ⟨Nat.lt_succ_of_lt, fun hlt => Nat.lt_of_le_of_ne (Nat.le_of_lt_succ hlt) ha⟩
  freed_nodup := ho.freed_nodup

theorem write (ho : Owned h brk freed owned) {a : Addr} (ha : a ∈ owned) (x : ν) :
    Owned (Function.update h a (some x)) brk freed owned where
  nodup := ho.nodup
  live b := by
    by_cases hb : b = a
    · simp [hb, ha]
    · rw [Function.update_of_ne hb, ho.live b]
  below := ho.below
  freed_iff b := by
    by_cases hb : b = a
    · subst hb
      simp [ho.notMem_freed ha]
    · rw [Function.update_of_ne hb, ho.freed_iff b]
  freed_nodup := ho.freed_nodup

theorem free (ho : Owned h brk freed owned) {a : Addr} (hp : owned.Perm (a :: owned')) :
    Owned (Function.update h a none) brk (freed ++ [a]) owned' where
  nodup := (List.nodup_cons.mp (hp.nodup_iff.mp ho.nodup)).2
  live b := by
    have hnd := (List.nodup_cons.mp (hp.nodup_iff.mp ho.nodup)).1
    by_cases hb : b = a
    · simp [hb, hnd]
    · rw [Function.update_of_ne hb, ho.live b, hp.mem_iff, List.mem_cons, or_iff_right hb]
  below b hb := ho.below b (hp.mem_iff.mpr (List.mem_cons_of_mem a hb))
  freed_iff b := by
    have ha : a < brk := ho.below a (hp.mem_iff.mpr List.mem_cons_self)
    by_cases hb : b = a
    · simp [hb, ha]
    · simp [ho.freed_iff b, hb]
  freed_nodup := by
    have ha : a ∉ freed := ho.notMem_freed (hp.mem_iff.mpr List.mem_cons_self)
    exact List.nodup_append.mpr ⟨ho.freed_nodup, List.nodup_singleton a, fun b hb c hc =>
      ne_of_mem_of_not_mem hb (List.mem_singleton.mp hc ▸ ha)⟩

theorem length_le (ho : Owned h brk freed owned) : owned.length ≤ brk := by
  have hsub : owned ⊆ List.range brk := fun a ha => List.mem_range.mpr (ho.below a ha)
  simpa using (List.subperm_of_subset ho.nodup hsub).length_le

end Owned

def Chain {ν : Type u} (next : ν → Option Addr) (h : Heap ν) : Option Addr → List Addr → Prop
  | p, [] => p = none
  | p, a :: as => p = some a ∧ ∃ x, h a = some x ∧ Chain next h (next x) as

namespace Chain

variable {ν : Type u} {next : ν → Option Addr} {h h' : Heap ν} {p : Option Addr}
  {as : List Addr}

theorem eq_none_iff (hc : Chain next h p as) : p = none ↔ as = [] := by
  cases as with
  | nil => simpa [Chain] using hc
  | cons a as => simp [hc.1]

theorem cons_inv {a : Addr} (hc : Chain next h (some a) as) :
    ∃ x bs, as = a :: bs ∧ h a = some x ∧ Chain next h (next x) bs := by
  cases as with
  | nil => simp [Chain] at hc
  | cons b bs =>
    obtain ⟨hp, x, hx, hc⟩ := hc
    obtain rfl := Option.some.inj hp
    exact ⟨x, bs, rfl, hx, hc⟩

theorem live (hc : Chain next h p as) {a : Addr} (ha : a ∈ as) : ∃ x, h a = some x := by
  induction as generalizing p with
  | nil => simp at ha
  | cons b as ih =>
    obtain ⟨-, x, hx, hc⟩ := hc
    cases List.mem_cons.mp ha with
    | inl heq => exact ⟨x, heq ▸ hx⟩
    | inr hmem => exact ih hc hmem

theorem frame (hc : Chain next h p as) (heq : ∀ a ∈ as, h' a = h a) : Chain next h' p as := by
  induction as generalizing p with
  | nil => exact hc
  | cons a as ih =>
    obtain ⟨hp, x, hx, hc⟩ := hc
    refine ⟨hp, x, (heq a (by simp)).trans hx, ih hc ?_⟩
    intro b hb
    exact heq b (by simp [hb])

theorem update_of_notMem (hc : Chain next h p as) {b : Addr} (hb : b ∉ as) (y : Option ν) :
    Chain next (Function.update h b y) p as := by
  apply hc.frame
  intro a ha
  exact Function.update_of_ne (ne_of_mem_of_not_mem ha hb) _ _

/-- Linking a detached cell behind the last cell of a chain appends it. -/
theorem snoc (hc : Chain next h p as) (hnd : as.Nodup) {a b : Addr} {x x' y : ν}
    (hlast : as.getLast? = some a) (hx : h a = some x) (hx' : next x' = some b)
    (hb : b ∉ as) (hy : h b = some y) (hnull : next y = none) :
    Chain next (Function.update h a (some x')) p (as ++ [b]) := by
  have hab : b ≠ a := (ne_of_mem_of_not_mem (List.mem_of_getLast? hlast) hb).symm
  induction as generalizing p with
  | nil => simp at hlast
  | cons c as ih =>
    obtain ⟨hp, z, hz, hc⟩ := hc
    have hnd' := List.nodup_cons.mp hnd
    have hb' : b ∉ as := fun h => hb (List.mem_cons_of_mem c h)
    cases as with
    | nil =>
      obtain rfl : c = a := by simpa using hlast
      refine ⟨hp, x', Function.update_self .., ?_⟩
      exact ⟨hx', y, by rw [Function.update_of_ne hab, hy], hnull⟩
    | cons d as =>
      have hlast' : (d :: as).getLast? = some a := by simpa using hlast
      have hca : c ≠ a := (ne_of_mem_of_not_mem (List.mem_of_getLast? hlast') hnd'.1).symm
      exact ⟨hp, z, by rw [Function.update_of_ne hca, hz], ih hc hnd'.2 hlast' hb'⟩

end Chain

end IarmMgrs.Lib
