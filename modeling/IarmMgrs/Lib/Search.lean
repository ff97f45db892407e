import Mathlib.Data.List.Basic
import Mathlib.Data.List.Infix
import Mathlib.Order.Basic

universe u

namespace IarmMgrs.Lib.Search

variable {α : Type u}

def At (pat s : List α) (k : Nat) : Prop := pat <+: s.drop k

def First (pat s : List α) (k : Nat) : Prop := At pat s k ∧ ∀ j < k, ¬ At pat s j

structure OutOfRange
  deriving DecidableEq

def substr (s : List α) (pos count : Nat) : Except OutOfRange (List α) :=
  if s.length < pos then .error ⟨⟩ else .ok ((s.drop pos).take count)

variable {pat s t : List α} {j k n : Nat}

@[simp] theorem at_append : At pat (s ++ t) s.length ↔ pat <+: t := by
  rw [At, List.drop_left]

theorem At.le (h : At pat s k) (hpat : pat ≠ []) : k + pat.length ≤ s.length := by
  have hlen := h.length_le
  have hpos := List.length_pos_iff.mpr hpat
  rw [List.length_drop] at hlen
  omega

theorem First.unique (hj : First pat s j) (hk : First pat s k) : j = k := by
  by_contra hne
  obtain hlt | hlt := Nat.lt_or_gt_of_ne hne
  · exact hk.2 j hlt hj.1
  · exact hj.2 k hlt hk.1

theorem exists_at_iff : (∃ k, At pat s k) ↔ pat <:+: s := by
  constructor
  · rintro ⟨k, hk⟩
    exact hk.isInfix.trans (List.drop_suffix k s).isInfix
  · rintro ⟨before, after, rfl⟩
    exact ⟨before.length, by rw [List.append_assoc, at_append]; exact List.prefix_append pat after⟩

theorem First.append (h : First pat s k) (hpat : pat ≠ []) (t : List α) : First pat (s ++ t) k := by
  have hle := h.1.le hpat
  have hdrop : ∀ j ≤ k, (s ++ t).drop j = s.drop j ++ t := fun j hj =>
    List.drop_append_of_le_length (by omega)
  refine ⟨?_, fun j hj hat => h.2 j hj ?_⟩
  · rw [At, hdrop k (Nat.le_refl k)]
    exact h.1.trans (List.prefix_append _ t)
  · rw [At, hdrop j (Nat.le_of_lt hj)] at hat
    refine List.prefix_of_prefix_length_le hat (List.prefix_append _ t) ?_
    rw [List.length_drop]
    omega

theorem take_eq_iff :
    s.take n = t ↔ ∃ rest, s = t ++ rest ∧ (t.length = n ∨ rest = [] ∧ t.length ≤ n) := by
  constructor
  · rintro rfl
    refine ⟨s.drop n, (List.take_append_drop n s).symm, ?_⟩
    obtain hlt | hle := Nat.lt_or_ge n s.length
    · exact .inl (List.length_take_of_le (Nat.le_of_lt hlt))
    · exact .inr ⟨List.drop_of_length_le hle, List.length_take_le n s⟩
  · rintro ⟨rest, rfl, rfl | ⟨rfl, hle⟩⟩
    · exact List.take_left
    · rw [List.append_nil, List.take_of_length_le hle]

theorem take_eq_iff_of_lt (h : t.length < s.length) : s.take n = t ↔ t <+: s ∧ n = t.length := by
  rw [take_eq_iff]
  constructor
  · rintro ⟨rest, rfl, rfl | ⟨rfl, hle⟩⟩
    · exact ⟨List.prefix_append t rest, rfl⟩
    · rw [List.append_nil] at h
      exact absurd h (Nat.lt_irrefl _)
  · rintro ⟨⟨rest, rfl⟩, rfl⟩
    exact ⟨rest, rfl, .inl rfl⟩

theorem substr_eq_ok_iff : substr s k n = .ok t ↔ k ≤ s.length ∧ (s.drop k).take n = t := by
  unfold substr
  split
  · next hlt => exact iff_of_false (fun h => nomatch h) fun h => Nat.not_le.mpr hlt h.1
  · next hle => rw [Except.ok.injEq, and_iff_right (Nat.not_lt.mp hle)]

theorem substr_eq_error_iff : substr s k n = .error ⟨⟩ ↔ s.length < k := by
  unfold substr
  split
  · next hlt => exact iff_of_true rfl hlt
  · next hle => exact iff_of_false (fun h => nomatch h) hle

section Throws

variable {ε : Type} {β γ : Type u} {x : Except ε β} {f : β → Except ε γ} {g : β → γ} {c : γ}

theorem bind_eq_ok_iff : x.bind f = .ok c ↔ ∃ b, x = .ok b ∧ f b = .ok c := by
  cases x with
  | error e => exact iff_of_false (fun h => nomatch h) fun ⟨_, h, _⟩ => nomatch h
  | ok b => simp [Except.bind]

theorem map_eq_ok_iff : x.map g = .ok c ↔ ∃ b, x = .ok b ∧ g b = c := by
  cases x with
  | error e => exact iff_of_false (fun h => nomatch h) fun ⟨_, h, _⟩ => nomatch h
  | ok b => simp [Except.map]

theorem map_eq_error_iff {e : ε} : x.map g = .error e ↔ x = .error e := by
  cases x with
  | error e' => simp [Except.map]
  | ok b => exact iff_of_false (fun h => nomatch h) fun h => nomatch h

end Throws

variable [DecidableEq α]

instance : Decidable (At pat s k) := inferInstanceAs (Decidable (_ <+: _))

instance : Decidable (First pat s k) := inferInstanceAs (Decidable (_ ∧ _))

def find (pat : List α) : List α → Option Nat
  | [] => if pat <+: [] then some 0 else none
  | c :: cs => if pat <+: c :: cs then some 0 else (find pat cs).map (· + 1)

def rfind (c : α) : List α → Nat → Option Nat
  | [], _ => none
  | x :: _, 0 => if x = c then some 0 else none
  | x :: xs, pos + 1 => ((rfind c xs pos).map (· + 1)).or (if x = c then some 0 else none)

theorem find_some_iff : find pat s = some k ↔ First pat s k := by
  induction s generalizing k with
  | nil =>
    by_cases hpat : pat <+: []
    · rw [find, if_pos hpat, Option.some.injEq]
      have hzero : First pat [] 0 := ⟨hpat, fun j hj => absurd hj (Nat.not_lt_zero j)⟩
      exact ⟨fun h => h ▸ hzero, fun h => hzero.unique h⟩
    · rw [find, if_neg hpat]
      exact iff_of_false (fun h => nomatch h) fun h => hpat (by simpa [At] using h.1)
  | cons c cs ih =>
    by_cases hpat : pat <+: c :: cs
    · rw [find, if_pos hpat, Option.some.injEq]
      have hzero : First pat (c :: cs) 0 := ⟨hpat, fun j hj => absurd hj (Nat.not_lt_zero j)⟩
      exact ⟨fun h => h ▸ hzero, fun h => hzero.unique h⟩
    · rw [find, if_neg hpat, Option.map_eq_some_iff]
      constructor
      · rintro ⟨j, hj, rfl⟩
        obtain ⟨hat, hnot⟩ := ih.mp hj
        refine ⟨hat, fun i hi => ?_⟩
        cases i with
        | zero => exact hpat
        | succ i => exact hnot i (Nat.lt_of_succ_lt_succ hi)
      · rintro ⟨hat, hnot⟩
        cases k with
        | zero => exact absurd hat hpat
        | succ k => exact ⟨k, ih.mpr ⟨hat, fun i hi => hnot (i + 1) (Nat.succ_lt_succ hi)⟩, rfl⟩

theorem find_none_iff : find pat s = none ↔ ∀ k, ¬ At pat s k := by
  constructor
  · intro h k hk
    induction k using Nat.strong_induction_on with
    | _ k ih =>
      by_cases hfirst : ∃ j < k, At pat s j
      · obtain ⟨j, hlt, hj⟩ := hfirst
        exact ih j hlt hj
      · have hsome := find_some_iff.mpr ⟨hk, fun j hlt hj => hfirst ⟨j, hlt, hj⟩⟩
        rw [h] at hsome
        cases hsome
  · intro h
    cases hfind : find pat s with
    | none => rfl
    | some k => exact absurd (find_some_iff.mp hfind).1 (h k)

theorem At.exists_first (h : At pat s k) : ∃ j, j ≤ k ∧ First pat s j := by
  cases hfind : find pat s with
  | none => exact absurd h (find_none_iff.mp hfind k)
  | some j =>
    have hfirst := find_some_iff.mp hfind
    exact ⟨j, Nat.le_of_not_lt fun hlt => hfirst.2 k hlt h, hfirst⟩

theorem rfind_none {c : α} {pos : Nat} (h : c ∉ s) : rfind c s pos = none := by
  induction s generalizing pos with
  | nil => cases pos <;> rfl
  | cons x xs ih =>
    obtain ⟨hx, hxs⟩ := not_or.mp (mt List.mem_cons.mpr h)
    cases pos with
    | zero => simp [rfind, Ne.symm hx]
    | succ pos => simp [rfind, Ne.symm hx, ih hxs]

theorem rfind_append {c : α} {pos : Nat} (hpos : s.length ≤ pos) (h : c ∉ t) :
    rfind c (s ++ c :: t) pos = some s.length := by
  induction s generalizing pos with
  | nil =>
    cases pos with
    | zero => simp [rfind]
    | succ pos => simp [rfind, rfind_none h]
  | cons x xs ih =>
    cases pos with
    | zero => exact absurd hpos (Nat.not_succ_le_zero _)
    | succ pos => simp [rfind, ih (Nat.le_of_succ_le_succ hpos)]

theorem last_unique {c : α} {stem stem' ext ext' : List α} (hext : c ∉ ext) (hext' : c ∉ ext')
    (h : stem ++ c :: ext = stem' ++ c :: ext') : stem = stem' ∧ ext = ext' := by
  have hpos := rfind_append (Nat.le_max_left stem.length stem'.length) hext
  rw [h, rfind_append (Nat.le_max_right _ _) hext', Option.some.injEq] at hpos
  obtain ⟨hstem, htail⟩ := List.append_inj h hpos.symm
  exact ⟨hstem, (List.cons.inj htail).2⟩

omit [DecidableEq α] in
theorem exists_last {c : α} (h : c ∈ s) : ∃ stem ext, s = stem ++ c :: ext ∧ c ∉ ext := by
  induction s with
  | nil => cases h
  | cons x xs ih =>
    by_cases hxs : c ∈ xs
    · obtain ⟨stem, ext, rfl, hext⟩ := ih hxs
      exact ⟨x :: stem, ext, rfl, hext⟩
    · obtain rfl : c = x := (List.mem_cons.mp h).resolve_right hxs
      exact ⟨[], xs, rfl, hxs⟩

end IarmMgrs.Lib.Search
