import IarmMgrs.Lib.CString
import Mathlib.Data.Finite.Vector
import Mathlib.Data.Fintype.EquivFin

universe u v w

namespace IarmMgrs.Lib.Cbc

open CString

structure BlockCipher (κ : Type u) (β : Type v) where
  enc : κ → β → β
  dec : κ → β → β
  dec_enc : ∀ key b, dec key (enc key b) = b

namespace BlockCipher

variable {κ : Type u} {β : Type v}

/-- Over finitely many blocks `enc` undoes `dec` as well. -/
theorem enc_dec [Finite β] (cipher : BlockCipher κ β) (key : κ) (c : β) :
    cipher.enc key (cipher.dec key c) = c := by
  have hinj : Function.Injective (cipher.enc key) :=
    Function.LeftInverse.injective (cipher.dec_enc key)
  obtain ⟨b, rfl⟩ := Finite.injective_iff_surjective.mp hinj c
  rw [cipher.dec_enc]

def ofPerm (perm : κ → Equiv.Perm β) : BlockCipher κ β where
  enc key := perm key
  dec key := (perm key).symm
  dec_enc key b := (perm key).symm_apply_apply b

end BlockCipher

section Chain

variable {σ : Type u} {β : Type v} {γ : Type w}

/-- Each item is replaced, and the state behind it goes to the next one. -/
def chain (f : σ → β → γ × σ) : σ → List β → List γ × σ
  | s, [] => ([], s)
  | s, b :: bs =>
    let r := f s b
    let rest := chain f r.2 bs
    (r.1 :: rest.1, rest.2)

variable (f : σ → β → γ × σ)

@[simp] theorem chain_nil (s : σ) : chain f s [] = ([], s) := rfl

@[simp] theorem chain_cons (s : σ) (b : β) (bs : List β) :
    chain f s (b :: bs) = ((f s b).1 :: (chain f (f s b).2 bs).1, (chain f (f s b).2 bs).2) := rfl

theorem chain_append (s : σ) (bs cs : List β) :
    chain f s (bs ++ cs) =
      ((chain f s bs).1 ++ (chain f (chain f s bs).2 cs).1, (chain f (chain f s bs).2 cs).2) := by
  induction bs generalizing s with
  | nil => rfl
  | cons b bs ih => simp only [List.cons_append, chain_cons, ih]

@[simp] theorem length_chain (s : σ) (bs : List β) : (chain f s bs).1.length = bs.length := by
  induction bs generalizing s with
  | nil => rfl
  | cons b bs ih => simp only [chain_cons, List.length_cons, ih]

/-- What undoes each item from the same state on undoes the whole string. -/
theorem chain_undo {g : σ → γ → β × σ} (h : ∀ s b, g s (f s b).1 = (b, (f s b).2)) (s : σ)
    (bs : List β) : chain g s (chain f s bs).1 = (bs, (chain f s bs).2) := by
  induction bs generalizing s with
  | nil => rfl
  | cons b bs ih => simp only [chain_cons, h, ih]

end Chain

section Chaining

variable {β : Type u} [XorOp β] {E D : β → β}

def encrypt (E : β → β) : β → List β → List β × β :=
  chain fun iv b => (E (b ^^^ iv), E (b ^^^ iv))

def decrypt (D : β → β) : β → List β → List β × β :=
  chain fun iv c => (D c ^^^ iv, c)

def Cancels (β : Type u) [XorOp β] : Prop := ∀ a b : β, a ^^^ b ^^^ b = a

theorem decrypt_encrypt (hxor : Cancels β) (h : ∀ b, D (E b) = b) (iv : β) (bs : List β) :
    decrypt D iv (encrypt E iv bs).1 = (bs, (encrypt E iv bs).2) :=
  chain_undo _ (fun iv b => by simp only [h, hxor b iv]) iv bs

theorem encrypt_decrypt (hxor : Cancels β) (h : ∀ c, E (D c) = c) (iv : β) (cs : List β) :
    encrypt E iv (decrypt D iv cs).1 = (cs, (decrypt D iv cs).2) :=
  chain_undo _ (fun iv c => by simp only [h, hxor (D c) iv]) iv cs

theorem encrypt_append (iv : β) (bs cs : List β) :
    encrypt E iv (bs ++ cs) =
      ((encrypt E iv bs).1 ++ (encrypt E (encrypt E iv bs).2 cs).1,
        (encrypt E (encrypt E iv bs).2 cs).2) :=
  chain_append _ iv bs cs

theorem decrypt_append (iv : β) (bs cs : List β) :
    decrypt D iv (bs ++ cs) =
      ((decrypt D iv bs).1 ++ (decrypt D (decrypt D iv bs).2 cs).1,
        (decrypt D (decrypt D iv bs).2 cs).2) :=
  chain_append _ iv bs cs

@[simp] theorem length_encrypt (iv : β) (bs : List β) : (encrypt E iv bs).1.length = bs.length :=
  length_chain _ iv bs

@[simp] theorem length_decrypt (iv : β) (bs : List β) : (decrypt D iv bs).1.length = bs.length :=
  length_chain _ iv bs

end Chaining

section Blocks

variable {α : Type u} {n : Nat} (nul : α)

/-- The first `k` blocks of a string, filled up where it ends early. -/
def blocks : Nat → List α → List (Buf α n)
  | 0, _ => []
  | k + 1, l => (Buf.zeroed nul n).write l :: blocks k (l.drop n)

def flatten (bs : List (Buf α n)) : List α := bs.flatMap Buf.chars

@[simp] theorem length_blocks (k : Nat) (l : List α) :
    (blocks nul k l : List (Buf α n)).length = k := by
  induction k generalizing l with
  | zero => rfl
  | succ k ih => simp only [blocks, List.length_cons, ih]

theorem blocks_add (j k : Nat) (l : List α) :
    (blocks nul (j + k) l : List (Buf α n)) = blocks nul j l ++ blocks nul k (l.drop (n * j)) := by
  induction j generalizing l with
  | zero => simp [blocks]
  | succ j ih =>
    have hdrop : (l.drop n).drop (n * j) = l.drop (n * (j + 1)) := by
      rw [List.drop_drop, Nat.mul_succ, Nat.add_comm]
    rw [Nat.succ_add, blocks, blocks, ih, hdrop, List.cons_append]

@[simp] theorem flatten_nil : flatten ([] : List (Buf α n)) = [] := rfl

@[simp] theorem flatten_cons (b : Buf α n) (bs : List (Buf α n)) :
    flatten (b :: bs) = b.chars ++ flatten bs := rfl

theorem flatten_append (bs cs : List (Buf α n)) : flatten (bs ++ cs) = flatten bs ++ flatten cs :=
  List.flatMap_append

theorem length_flatten (bs : List (Buf α n)) : (flatten bs).length = n * bs.length := by
  induction bs with
  | nil => simp
  | cons b bs ih =>
    rw [flatten_cons, List.length_append, b.size, ih, List.length_cons, Nat.mul_succ, Nat.add_comm]

theorem chars_write_long (b : Buf α n) {l : List α} (h : n ≤ l.length) :
    (b.write l).chars = l.take n :=
  List.take_append_of_le_length h

theorem buf_ext {a b : Buf α n} (h : a.chars = b.chars) : a = b := by
  cases a
  cases b
  simpa only [Buf.mk.injEq] using h

theorem write_append (a b : Buf α n) (l : List α) : a.write (b.chars ++ l) = b := by
  have hlen : n ≤ (b.chars ++ l).length := by
    rw [List.length_append, b.size]
    exact Nat.le_add_right n l.length
  exact buf_ext ((chars_write_long a hlen).trans (List.take_left' b.size))

@[simp] theorem write_chars (a b : Buf α n) : a.write b.chars = b := by
  have h := write_append a b []
  rwa [List.append_nil] at h

theorem flatten_blocks {k : Nat} {l : List α} (h : n * k ≤ l.length) :
    flatten (blocks nul k l : List (Buf α n)) = l.take (n * k) := by
  induction k generalizing l with
  | zero => simp [blocks]
  | succ k ih =>
    rw [Nat.mul_succ] at h
    have htail : n * k ≤ (l.drop n).length := by
      rw [List.length_drop]
      omega
    rw [blocks, flatten_cons, ih htail, chars_write_long _ (by omega), ← List.take_add,
      Nat.mul_succ, Nat.add_comm]

theorem blocks_flatten (bs : List (Buf α n)) : blocks nul bs.length (flatten bs) = bs := by
  induction bs with
  | nil => rfl
  | cons b bs ih =>
    rw [flatten_cons, List.length_cons, blocks, write_append, List.drop_left' b.size, ih]

end Blocks

section Bytes

variable {n : Nat}

instance xorBuf : XorOp (Buf UInt8 n) where
  xor a b := ⟨List.zipWith (· ^^^ ·) a.chars b.chars, by simp [a.size, b.size]⟩

instance finiteByte : Finite UInt8 :=
  Finite.of_injective UInt8.toFin fun _ _ h => UInt8.toFin_inj.mp h

def toVector {α : Type u} (b : Buf α n) : List.Vector α n := ⟨b.chars, b.size⟩

instance finiteBuf {α : Type u} [Finite α] : Finite (Buf α n) :=
  Finite.of_injective toVector fun _ _ h => buf_ext (congrArg Subtype.val h)

theorem chars_xor (a b : Buf UInt8 n) :
    (a ^^^ b).chars = List.zipWith (· ^^^ ·) a.chars b.chars := rfl

theorem cancels_buf : Cancels (Buf UInt8 n) := fun a b => by
  apply buf_ext
  apply List.ext_getElem
  · rw [a.size, Buf.size]
  · intro i hi hi'
    simp only [chars_xor, List.getElem_zipWith, UInt8.xor_assoc, UInt8.xor_self, UInt8.xor_zero]

@[simp] theorem xor_zeroed (b : Buf UInt8 n) : b ^^^ Buf.zeroed 0 n = b := by
  apply buf_ext
  apply List.ext_getElem
  · rw [b.size, Buf.size]
  · intro i hi hi'
    simp only [chars_xor, Buf.chars_zeroed, List.getElem_zipWith, List.getElem_replicate,
      UInt8.xor_zero]

@[simp] theorem xor_same (b : Buf UInt8 n) : b ^^^ b = Buf.zeroed 0 n := by
  apply buf_ext
  apply List.ext_getElem
  · rw [Buf.size, Buf.size]
  · intro i hi hi'
    simp only [chars_xor, Buf.chars_zeroed, List.getElem_zipWith, List.getElem_replicate,
      UInt8.xor_self]

end Bytes

end IarmMgrs.Lib.Cbc
