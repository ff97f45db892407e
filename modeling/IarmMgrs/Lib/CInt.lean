import Mathlib.Algebra.Group.Int.Defs

/-! The arithmetic of a 32-bit `int`, on a 64-bit platform.  `none` is undefined behaviour: a
result that is not representable, or a division by zero. -/

namespace IarmMgrs.Lib.CInt

/-- The bits of a `size_t` and of a pointer. -/
def sizeBits : Nat := 64

def intMin : Int := -0x80000000

def intMax : Int := 0x7FFFFFFF

def InRange (n : Int) : Prop := intMin ≤ n ∧ n ≤ intMax

instance (n : Int) : Decidable (InRange n) := inferInstanceAs (Decidable (_ ∧ _))

def checked (n : Int) : Option Int := if InRange n then some n else none

def add (a b : Int) : Option Int := checked (a + b)

def sub (a b : Int) : Option Int := checked (a - b)

def mul (a b : Int) : Option Int := checked (a * b)

/-- `a % b`, which goes with the quotient towards zero. -/
def rem (a b : Int) : Option Int :=
  if b = 0 then none else (checked (a.tdiv b)).map fun _ => a.tmod b

def toUnsigned (n : Int) : Nat := (n % 0x100000000).toNat

variable {a b n : Int}

theorem checked_of_inRange (h : InRange n) : checked n = some n := if_pos h

theorem checked_eq_some_iff : checked a = some b ↔ InRange a ∧ a = b := by
  rw [checked, Option.ite_none_right_eq_some, Option.some.injEq]

theorem toUnsigned_eq_iff (h : InRange n) : (toUnsigned n : Int) = n ↔ 0 ≤ n := by
  simp only [InRange, intMin, intMax] at h
  rw [toUnsigned]
  omega

theorem rem_zero (a : Int) : rem a 0 = none := if_pos rfl

theorem rem_natCast {k : Nat} (hrange : InRange k) (hb : b ≠ 0) :
    rem k b = some ((k % b.natAbs : Nat) : Int) := by
  have hquotient := Int.natAbs_tdiv_le_natAbs k b
  have hrange' : InRange (Int.tdiv k b) := by
    simp only [InRange, intMin, intMax] at hrange ⊢
    omega
  have hmod := Int.natAbs_emod_of_nonneg (Int.natCast_nonneg k) b
  have hnonneg := Int.emod_nonneg (k : Int) hb
  rw [rem, if_neg hb, checked_of_inRange hrange', Option.map_some,
    Int.tmod_eq_emod_of_nonneg (Int.natCast_nonneg k), ← Int.natAbs_of_nonneg hnonneg, hmod,
    Int.natAbs_natCast]

end IarmMgrs.Lib.CInt
