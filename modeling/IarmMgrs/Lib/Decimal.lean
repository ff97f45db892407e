import Mathlib.Data.List.Basic

namespace IarmMgrs.Lib.Decimal

def IsDigit (c : UInt8) : Prop := 48 ≤ c ∧ c ≤ 57

instance (c : UInt8) : Decidable (IsDigit c) := inferInstanceAs (Decidable (_ ∧ _))

def digit (n : Nat) : UInt8 := 48 + n.toUInt8

def natText (n : Nat) : List UInt8 :=
  if n < 10 then [digit n] else natText (n / 10) ++ [digit (n % 10)]

def intText (n : Int) : List UInt8 := if n < 0 then 45 :: natText n.natAbs else natText n.natAbs

def value (digits : List UInt8) : Nat := digits.foldl (fun n c => 10 * n + (c.toNat - 48)) 0

variable {n : Nat}

theorem digit_toNat (h : n < 10) : (digit n).toNat = 48 + n := by
  have hn : n.toUInt8.toNat = n := by
    rw [Nat.toUInt8, UInt8.toNat_ofNat']
    omega
  rw [digit, UInt8.toNat_add, hn]
  change (48 + n) % 256 = 48 + n
  omega

theorem isDigit_digit (h : n < 10) : IsDigit (digit n) := by
  rw [IsDigit, UInt8.le_iff_toNat_le, UInt8.le_iff_toNat_le, digit_toNat h]
  change 48 ≤ 48 + n ∧ 48 + n ≤ 57
  omega

theorem natText_digits (n : Nat) : ∀ c ∈ natText n, IsDigit c := by
  induction n using natText.induct with
  | case1 n h =>
    rw [natText, if_pos h]
    simpa using isDigit_digit h
  | case2 n h ih =>
    rw [natText, if_neg h]
    intro c hc
    obtain hc | hc := List.mem_append.mp hc
    · exact ih c hc
    · obtain rfl := List.mem_singleton.mp hc
      exact isDigit_digit (Nat.mod_lt _ (by decide))

theorem intText_chars (n : Int) : ∀ c ∈ intText n, c = 45 ∨ IsDigit c := by
  intro c hc
  rw [intText] at hc
  split at hc
  · exact (List.mem_cons.mp hc).imp_right (natText_digits _ c)
  · exact .inr (natText_digits _ c hc)

theorem natText_ne_nil (n : Nat) : natText n ≠ [] := by
  rw [natText]
  split <;> simp

theorem value_snoc (digits : List UInt8) (c : UInt8) :
    value (digits ++ [c]) = 10 * value digits + (c.toNat - 48) := by
  simp [value]

theorem value_natText (n : Nat) : value (natText n) = n := by
  induction n using natText.induct with
  | case1 n h =>
    rw [natText, if_pos h, value, List.foldl_cons, List.foldl_nil, digit_toNat h]
    omega
  | case2 n h ih =>
    rw [natText, if_neg h, value_snoc, ih, digit_toNat (Nat.mod_lt _ (by decide))]
    omega

end IarmMgrs.Lib.Decimal
