import Mathlib.Data.List.Basic

universe u

namespace IarmMgrs.Lib.Slots

variable {α : Type u} {p q : α → Bool} {f : α → α} {l : List α}

def modifyFirst (p : α → Bool) (f : α → α) : List α → List α
  | [] => []
  | e :: l => if p e then f e :: l else e :: modifyFirst p f l

/-- Change the entry that is hit; if none is, fill the first free slot; if none is free
either, drop what was to be stored. -/
def put (hit free : α → Bool) (f : α → α) (new : α) (l : List α) : List α :=
  if l.any hit then modifyFirst hit f l else modifyFirst free (fun _ => new) l

theorem modifyFirst_of_not_any (h : l.any p = false) : modifyFirst p f l = l := by
  induction l with
  | nil => rfl
  | cons e l ih =>
    obtain ⟨he, hl⟩ := Bool.or_eq_false_iff.mp (List.any_cons.symm.trans h)
    rw [modifyFirst, if_neg (by simp [he]), ih hl]

theorem modify_of_findIdx? {i : Nat} (h : l.findIdx? p = some i) :
    l.modify i f = modifyFirst p f l := by
  induction l generalizing i with
  | nil => cases h
  | cons e l ih =>
    rw [List.findIdx?_cons] at h
    by_cases he : p e
    · rw [if_pos he] at h
      obtain rfl := Option.some.inj h
      rw [modifyFirst, if_pos he, List.modify_zero_cons]
    · rw [if_neg he] at h
      obtain ⟨j, hj, rfl⟩ := Option.map_eq_some_iff.mp h
      rw [modifyFirst, if_neg he, List.modify_succ_cons, ih hj]

theorem set_of_findIdx? {i : Nat} {new : α} (h : l.findIdx? p = some i) :
    l.set i new = modifyFirst p (fun _ => new) l := by
  rw [← modify_of_findIdx? h, List.set_eq_modify]

theorem find?_modifyFirst_other (hp : ∀ e, p e = true → q e = false)
    (hf : ∀ e, p e = true → q (f e) = false) : (modifyFirst p f l).find? q = l.find? q := by
  induction l with
  | nil => rfl
  | cons e l ih =>
    by_cases he : p e = true
    · rw [modifyFirst, if_pos he, List.find?_cons_of_neg (by simp [hf e he]),
        List.find?_cons_of_neg (by simp [hp e he])]
    · rw [modifyFirst, if_neg he]
      cases hq : q e with
      | true => rw [List.find?_cons_of_pos hq, List.find?_cons_of_pos hq]
      | false =>
        rw [List.find?_cons_of_neg (by simp [hq]), List.find?_cons_of_neg (by simp [hq]), ih]

theorem find?_modifyFirst (hq : ∀ e ∈ l, q e = true → p e = true)
    (hf : ∀ e, p e = true → q (f e) = true) :
    (modifyFirst p f l).find? q = (l.find? p).map f := by
  induction l with
  | nil => rfl
  | cons e l ih =>
    by_cases he : p e = true
    · rw [modifyFirst, if_pos he, List.find?_cons_of_pos (hf e he), List.find?_cons_of_pos he]
      rfl
    · have hqe : ¬ q e = true := mt (hq e List.mem_cons_self) he
      rw [modifyFirst, if_neg he, List.find?_cons_of_neg hqe, List.find?_cons_of_neg he]
      exact ih fun e' he' => hq e' (List.mem_cons_of_mem e he')

theorem modifyFirst_eq_self_iff :
    modifyFirst p f l = l ↔ ∀ e, l.find? p = some e → f e = e := by
  induction l with
  | nil => simp [modifyFirst]
  | cons e l ih =>
    by_cases he : p e = true
    · simp [modifyFirst, he]
    · simp [modifyFirst, he, ih]

section Put

variable {hit free : α → Bool} {new : α}

theorem find?_put_other (hhit : ∀ e, hit e = true → q e = false ∧ q (f e) = false)
    (hfree : ∀ e, free e = true → q e = false) (hnew : q new = false) :
    (put hit free f new l).find? q = l.find? q := by
  unfold put
  split
  · exact find?_modifyFirst_other (fun e he => (hhit e he).1) (fun e he => (hhit e he).2)
  · exact find?_modifyFirst_other hfree fun _ _ => hnew

/-- What is stored is found if there was an entry or room for one. -/
theorem find?_put_self (hf : ∀ e, hit e = true → hit (f e) = true) (hnew : hit new = true)
    (hroom : ∃ e ∈ l, hit e = true ∨ free e = true) :
    (put hit free f new l).find? hit = some (((l.find? hit).map f).getD new) := by
  unfold put
  split
  · next hany =>
    rw [find?_modifyFirst (fun _ _ h => h) hf]
    obtain ⟨e, he⟩ := Option.isSome_iff_exists.mp
      ((List.find?_isSome).mpr (List.any_eq_true.mp hany))
    rw [he]
    rfl
  · next hany =>
    have hmissed : ∀ e ∈ l, ¬ hit e = true := by simpa using hany
    have hnone : l.find? hit = none := List.find?_eq_none.mpr hmissed
    obtain ⟨e, he, hslot⟩ := hroom
    have hfree : free e = true := hslot.resolve_left (hmissed e he)
    rw [find?_modifyFirst (fun e he h => absurd h (hmissed e he)) fun _ _ => hnew, hnone]
    obtain ⟨e', he'⟩ := Option.isSome_iff_exists.mp ((List.find?_isSome).mpr ⟨e, he, hfree⟩)
    rw [he']
    rfl

theorem put_full (hfull : ∀ e ∈ l, hit e = false ∧ free e = false) : put hit free f new l = l := by
  have hhit : l.any hit = false := List.any_eq_false.mpr fun e he => by simp [(hfull e he).1]
  have hfree : l.any free = false := List.any_eq_false.mpr fun e he => by simp [(hfull e he).2]
  rw [put, if_neg (by simp [hhit]), modifyFirst_of_not_any hfree]

/-- Storing leaves the table as it is if the entry has that content already, or if there is
neither an entry nor room for one. -/
theorem put_eq_self_iff (hnew : ∀ e ∈ l, hit e = false → free e = true → e ≠ new) :
    put hit free f new l = l ↔
      (∀ e, l.find? hit = some e → f e = e) ∧
        ((∀ e ∈ l, hit e = false) → ∀ e ∈ l, free e = false) := by
  unfold put
  split
  · next hany =>
    rw [modifyFirst_eq_self_iff]
    refine (and_iff_left fun hmissed => ?_).symm
    obtain ⟨e, he, hhit⟩ := List.any_eq_true.mp hany
    rw [hmissed e he] at hhit
    cases hhit
  · next hany =>
    have hmissed : ∀ e ∈ l, hit e = false := by simpa using hany
    have hnone : l.find? hit = none := List.find?_eq_none.mpr fun e he => by simp [hmissed e he]
    rw [modifyFirst_eq_self_iff, hnone]
    simp only [reduceCtorEq, false_implies, implies_true, true_and]
    constructor
    · intro hsame _ e he
      by_contra hfree
      obtain ⟨e', he'⟩ := Option.isSome_iff_exists.mp
        ((List.find?_isSome).mpr ⟨e, he, by simpa using hfree⟩)
      have hmem : e' ∈ l := List.mem_of_find?_eq_some he'
      exact hnew e' hmem (hmissed e' hmem) (List.find?_some he') (hsame e' he').symm
    · intro hfull e he
      have := hfull hmissed e (List.mem_of_find?_eq_some he)
      rw [List.find?_some he] at this
      cases this

end Put

end IarmMgrs.Lib.Slots
