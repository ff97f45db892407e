import IarmMgrs.Lib.Sweep
import IarmMgrs.MfrMgr.CryptoLaws
import IarmMgrs.MfrMgr.KeyNormalization
import Mathlib.Data.List.GetD

namespace IarmMgrs.MfrMgr.KeyNormalization

open Lib Lib.CString Crypto

variable {buf : List UInt8} {keylen i j p r : Nat} {k : Bool} {s s' : Loops}

theorem mod_of_pass (hj : j < keylen) : (r * keylen + j) % keylen = j := by
  rw [Nat.add_comm, Nat.add_mul_mod_self_right, Nat.mod_eq_of_lt hj]

theorem div_of_pass (hj : j < keylen) : (r * keylen + j) / keylen = r := by
  rw [Nat.add_comm, Nat.add_mul_div_right _ _ (Nat.zero_lt_of_lt hj), Nat.div_eq_of_lt hj,
    Nat.zero_add]

def passByte (buf : List UInt8) (keylen : Nat) (k : Bool) (j : Nat) : UInt8 :=
  let c := serialByte buf ((j + 7) % keylen) j
  if k then c ^^^ 0xFF else c

theorem keyByte_of_pass (buf : List UInt8) (hj : j < keylen) :
    keyByte buf keylen (r * keylen + j) = passByte buf keylen (decide (r % 2 = 1)) j := by
  simp only [keyByte, passByte, mod_of_pass hj, div_of_pass hj, decide_eq_true_eq]

theorem getD_setChar {b : Block} {c : UInt8} :
    (b.setChar i c).chars.getD p 0 = if p = i ∧ i < 16 then c else b.chars.getD p 0 := by
  have hsize := b.size
  by_cases hp : p = i
  · subst hp
    by_cases hlt : p < 16
    · simp [List.getD_eq_getElem?_getD, hsize, hlt]
    · simp [List.getD_eq_getElem?_getD, hsize, hlt]
  · simp [List.getD_eq_getElem?_getD, hp, Ne.symm hp]

theorem block_ext {a b : Block} (h : ∀ p < 16, a.chars.getD p 0 = b.chars.getD p 0) : a = b := by
  refine Cbc.buf_ext (List.ext_getElem (a.size.trans b.size.symm) fun p hp hp' => ?_)
  have hbyte := h p (a.size ▸ hp)
  rwa [List.getD_eq_getElem a.chars 0 hp, List.getD_eq_getElem b.chars 0 hp'] at hbyte

namespace Loops

def done (s : Loops) : Nat := if s.inner then s.i + s.j else min s.i 16

structure Inv (buf : List UInt8) (keylen : Nat) (s : Loops) : Prop where
  pass : ∃ r, s.i = r * keylen ∧ s.k = decide (r % 2 = 1)
  inside : s.inner = true → s.i < 16 ∧ s.j ≤ keylen ∧ s.i + s.j ≤ 16
  reads : s.reads = (List.range s.done).map fun p => (p % keylen + 7) % keylen
  writes : s.writes = List.range s.done
  bytes : ∀ p < s.done, s.normalizedkeybuf.chars.getD p 0 = keyByte buf keylen p

def variant (s : Loops) : Nat := (16 - s.i) * 20 - if s.inner then s.j + 1 else 0

theorem inv_init (buf : List UInt8) (keylen : Nat) : Inv buf keylen init where
  pass := ⟨0, by simp [init], rfl⟩
  inside h := nomatch h
  reads := rfl
  writes := rfl
  bytes p hp := nomatch hp

/-- What a step does: the body for the next position, the end of a pass, or the begin of one. -/
theorem step_some (h : s.step buf keylen = some s') :
    s.inner = true ∧ s.j < keylen ∧ s.i + s.j < 16 ∧
        s' = { s.body buf keylen with j := s.j + 1 } ∨
      s.inner = true ∧ ¬ (s.j < keylen ∧ s.i + s.j < 16) ∧
        s' = { s with inner := false, i := s.i + keylen, k := !s.k } ∨
      s.inner = false ∧ s.i < 16 ∧ s' = { s with inner := true, j := 0 } := by
  have hsize : mfrCryptoKeyLength = 16 := rfl
  unfold step at h
  split at h
  · next hinner =>
    split at h
    · next hmore => exact .inl ⟨hinner, hmore.1, by omega, (Option.some.inj h).symm⟩
    · next hmore => exact .inr (.inl ⟨hinner, by omega, (Option.some.inj h).symm⟩)
  · next hinner =>
    split at h
    · next hi =>
      exact .inr (.inr ⟨Bool.eq_false_iff.mpr hinner, by omega, (Option.some.inj h).symm⟩)
    · cases h

/-- The body writes the byte of its position, which it finds among the first `keylen`. -/
theorem body_eq (hlen : keylen ≤ 16) (hi : s.i = r * keylen) (hk : s.k = decide (r % 2 = 1))
    (hj : s.j < keylen) : s.body buf keylen =
      { s with
        normalizedkeybuf := s.normalizedkeybuf.setChar (s.i + s.j) (keyByte buf keylen (s.i + s.j))
        reads := s.reads ++ [(s.j + 7) % keylen]
        writes := s.writes ++ [s.i + s.j] } := by
  have hix : (s.j + 7) % keylen % 256 = (s.j + 7) % keylen := by
    have hlt := Nat.mod_lt (s.j + 7) (Nat.zero_lt_of_lt hj)
    exact Nat.mod_eq_of_lt (by omega)
  have hir : (s.j + 3) % mfrCryptoKeyLength % 256 = (s.j + 3) % 16 := by
    have hlt : (s.j + 3) % mfrCryptoKeyLength < 16 := Nat.mod_lt _ (by decide)
    exact Nat.mod_eq_of_lt (by omega)
  have hbyte : keyByte buf keylen (s.i + s.j) = passByte buf keylen s.k s.j := by
    rw [hi, keyByte_of_pass buf hj, hk]
  rw [hbyte]
  simp only [body, hix, hir, passByte, serialByte]

theorem Inv.next (hlen : keylen ≤ 16) (hinv : Inv buf keylen s) (hinner : s.inner = true)
    (hj : s.j < keylen) (hmore : s.i + s.j < 16) :
    Inv buf keylen { s.body buf keylen with j := s.j + 1 } := by
  obtain ⟨r, hi, hk⟩ := hinv.pass
  have hdone : s.done = s.i + s.j := if_pos hinner
  have hread : (s.j + 7) % keylen = (s.i + s.j + 7) % keylen := by
    rw [← Nat.mod_add_mod (s.i + s.j), hi, mod_of_pass hj]
  have hreads := hinv.reads
  have hwrites := hinv.writes
  have hbytes := hinv.bytes
  rw [hdone] at hreads hwrites hbytes
  rw [body_eq hlen hi hk hj]
  have hless : s.i < 16 := Nat.lt_of_le_of_lt (Nat.le_add_right _ _) hmore
  refine ⟨⟨r, hi, hk⟩, fun _ => ⟨hless, hj, hmore⟩, ?_, ?_, fun p hp => ?_⟩
  · simp [done, hinner, ← Nat.add_assoc, List.range_succ, hreads, hread]
  · simp [done, hinner, ← Nat.add_assoc, List.range_succ, hwrites]
  · have hp : p < s.i + s.j + 1 := by simpa [done, hinner, ← Nat.add_assoc] using hp
    simp only [getD_setChar]
    by_cases hlast : p = s.i + s.j
    · rw [if_pos ⟨hlast, hmore⟩, hlast]
    · rw [if_neg fun h => hlast h.1]
      exact hbytes p (by omega)

theorem Inv.leave (hinv : Inv buf keylen s) (hinner : s.inner = true)
    (hend : ¬ (s.j < keylen ∧ s.i + s.j < 16)) :
    Inv buf keylen { s with inner := false, i := s.i + keylen, k := !s.k } := by
  obtain ⟨r, hi, hk⟩ := hinv.pass
  obtain ⟨hless, hj, hle⟩ := hinv.inside hinner
  have hdone : ({ s with inner := false, i := s.i + keylen, k := !s.k } : Loops).done = s.done := by
    simp only [done, hinner, if_true, Bool.false_eq_true, if_false]
    omega
  refine ⟨⟨r + 1, ?_, ?_⟩, fun h => (nomatch h), ?_, ?_, ?_⟩
  · rw [hi, Nat.succ_mul]
  · rw [hk, ← decide_not, decide_eq_decide]
    omega
  · rw [hdone, ← hinv.reads]
  · rw [hdone, ← hinv.writes]
  · rw [hdone]
    exact hinv.bytes

theorem Inv.enter (hinv : Inv buf keylen s) (hinner : s.inner = false) (hless : s.i < 16) :
    Inv buf keylen { s with inner := true, j := 0 } := by
  have hdone : ({ s with inner := true, j := 0 } : Loops).done = s.done := by
    simp only [done, hinner, if_true, Bool.false_eq_true, if_false]
    omega
  refine ⟨hinv.pass, fun _ => ⟨hless, Nat.zero_le _, Nat.le_of_lt hless⟩, ?_, ?_, ?_⟩
  · rw [hdone, ← hinv.reads]
  · rw [hdone, ← hinv.writes]
  · rw [hdone]
    exact hinv.bytes

theorem Inv.step (hpos : 0 < keylen) (hlen : keylen ≤ 16) (hinv : Inv buf keylen s)
    (h : s.step buf keylen = some s') : Inv buf keylen s' ∧ s'.variant < s.variant := by
  obtain ⟨hinner, hj, hmore, rfl⟩ | ⟨hinner, hend, rfl⟩ | ⟨hinner, hless, rfl⟩ := step_some h
  · refine ⟨hinv.next hlen hinner hj hmore, ?_⟩
    simp only [variant, body, hinner, if_true]
    omega
  · obtain ⟨hless, hj, hle⟩ := hinv.inside hinner
    refine ⟨hinv.leave hinner hend, ?_⟩
    simp only [variant, hinner, if_true, Bool.false_eq_true, if_false]
    omega
  · refine ⟨hinv.enter hinner hless, ?_⟩
    simp only [variant, hinner, if_true, Bool.false_eq_true, if_false]
    omega

theorem exists_end (buf : List UInt8) (hpos : 0 < keylen) (hlen : keylen ≤ 16) :
    ∃ s ∈ StateTransition.eval (Loops.step buf keylen) init, Inv buf keylen s ∧ s.done = 16 := by
  obtain ⟨s, hs, hinv⟩ := Loop.exists_mem_eval (fun _ _ => Inv.step hpos hlen)
    (inv_init buf keylen)
  have hnone := (StateTransition.mem_eval.mp hs).2
  refine ⟨s, hs, hinv, ?_⟩
  cases hinner : s.inner with
  | true =>
    simp only [Loops.step, hinner, if_true] at hnone
    split at hnone
    · cases hnone
    · cases hnone
  | false =>
    simp only [Loops.step, hinner, Bool.false_eq_true, if_false] at hnone
    split at hnone
    · cases hnone
    · next hi =>
      have hsize : mfrCryptoKeyLength = 16 := rfl
      simp only [done, hinner, Bool.false_eq_true, if_false]
      omega

end Loops

/-- With as many bytes as the code takes, it does what it should. -/
theorem exists_normalized (buf : List UInt8) (hpos : 0 < keylen) (hlen : keylen ≤ 16) :
    ∃ s ∈ StateTransition.eval (Loops.step buf keylen) .init, Normalized buf keylen s := by
  obtain ⟨s, hs, hinv, hdone⟩ := Loops.exists_end buf hpos hlen
  refine ⟨s, hs, fun ix hix => ?_, fun p => ?_, fun p hp => hinv.bytes p (hdone ▸ hp)⟩
  · rw [hinv.reads, List.mem_map] at hix
    obtain ⟨p, -, rfl⟩ := hix
    exact Nat.mod_lt _ hpos
  · rw [hinv.writes, hdone, List.count_range]

theorem normalizeFrom_eq (b : Block) : normalizeFrom buf keylen i k b =
    (List.range (min keylen (16 - i))).foldl
      (fun b j => b.setChar (i + j) (passByte buf keylen k j)) b := rfl

theorem getD_normalizeFrom (b : Block) (hi : i ≤ p) (hp : p < i + keylen) :
    (normalizeFrom buf keylen i k b).chars.getD p 0 =
      if p < 16 then passByte buf keylen k (p - i) else b.chars.getD p 0 := by
  obtain ⟨j, rfl⟩ := Nat.exists_eq_add_of_le hi
  have hwrite : ∀ (b : Block) (j q : Nat), True →
      (b.setChar (i + j) (passByte buf keylen k j)).chars.getD (i + q) 0 =
        if q = j ∧ i + j < 16 then passByte buf keylen k j else b.chars.getD (i + q) 0 :=
    fun b j q _ => by simp only [getD_setChar, Nat.add_right_inj]
  have hfold := Sweep.foldl_writes (fun _ => True) (fun (b : Block) j => b.chars.getD (i + j) 0)
    (fun j => i + j < 16) (passByte buf keylen k) (fun _ _ _ => trivial) hwrite
    (List.range (min keylen (16 - i))) (s := b) trivial j
  have hmem : (j ∈ List.range (min keylen (16 - i)) ∧ i + j < 16) ↔ i + j < 16 := by
    rw [List.mem_range]
    omega
  rw [normalizeFrom_eq, hfold, Nat.add_sub_cancel_left]
  simp only [hmem]

theorem getD_normalizeFrom_of_not (b : Block) (h : ¬ (i ≤ p ∧ p < i + keylen)) :
    (normalizeFrom buf keylen i k b).chars.getD p 0 = b.chars.getD p 0 := by
  have hrange : ∀ n ≤ keylen, ((List.range n).foldl
      (fun b j => b.setChar (i + j) (passByte buf keylen k j)) b).chars.getD p 0 =
        b.chars.getD p 0 := fun n hn => by
    induction n with
    | zero => rfl
    | succ n ih =>
      rw [List.range_succ, List.foldl_append, List.foldl_cons, List.foldl_nil, getD_setChar,
        if_neg (by omega), ih (by omega)]
  rw [normalizeFrom_eq]
  exact hrange _ (Nat.min_le_left _ _)

theorem getD_normalize (buf : List UInt8) (hpos : 0 < keylen) (hp : p < 16) :
    (Crypto.normalize buf keylen).chars.getD p 0 = keyByte buf keylen p := by
  have hmod : p % keylen < keylen := Nat.mod_lt p hpos
  have hcut : p / keylen * keylen + p % keylen = p := by rw [Nat.mul_comm, Nat.div_add_mod]
  have hwrite : ∀ (b : Block) (r q : Nat), True →
      (normalizeFrom buf keylen (r * keylen) (r % 2 = 1) b).chars.getD
          (q * keylen + p % keylen) 0 =
        if q = r ∧ r * keylen + p % keylen < 16 then
          passByte buf keylen (r % 2 = 1) (p % keylen)
        else b.chars.getD (q * keylen + p % keylen) 0 := fun b r q _ => by
    by_cases hqr : q = r
    · rw [hqr, getD_normalizeFrom b (Nat.le_add_right _ _) (Nat.add_lt_add_left hmod _),
        Nat.add_sub_cancel_left]
      simp
    · have hout : ¬ (r * keylen ≤ q * keylen + p % keylen ∧
          q * keylen + p % keylen < r * keylen + keylen) := by
        rintro ⟨hge, hlt⟩
        obtain hless | hmore := Nat.lt_or_gt_of_ne hqr
        · have hnext := Nat.mul_le_mul_right keylen (Nat.succ_le_of_lt hless)
          rw [Nat.succ_mul] at hnext
          omega
        · have hnext := Nat.mul_le_mul_right keylen (Nat.succ_le_of_lt hmore)
          rw [Nat.succ_mul] at hnext
          omega
      rw [getD_normalizeFrom_of_not b hout, if_neg fun h => hqr h.1]
  have hround : p / keylen < (mfrCryptoKeyLength + keylen - 1) / keylen := by
    have hsize : mfrCryptoKeyLength = 16 := rfl
    rw [Nat.lt_iff_add_one_le, Nat.le_div_iff_mul_le hpos, Nat.succ_mul]
    omega
  have hfold := Sweep.foldl_writes (fun _ => True)
    (fun (b : Block) q => b.chars.getD (q * keylen + p % keylen) 0)
    (fun r => r * keylen + p % keylen < 16)
    (fun r => passByte buf keylen (r % 2 = 1) (p % keylen)) (fun _ _ _ => trivial) hwrite
    (List.range ((mfrCryptoKeyLength + keylen - 1) / keylen)) (s := .zeroed 0 16) trivial
    (p / keylen)
  simp only [hcut, List.mem_range, hround, hp, and_true, if_true] at hfold
  rw [Crypto.normalize, hfold, ← keyByte_of_pass buf hmod, hcut]

theorem normalizedkeybuf_eq (hpos : 0 < keylen) (hlen : keylen ≤ 16)
    (hs : s ∈ StateTransition.eval (Loops.step buf keylen) .init) :
    s.normalizedkeybuf = Crypto.normalize buf keylen := by
  have hcode := Loop.of_mem_eval (exists_normalized buf hpos hlen) hs
  exact block_ext fun p hp => (hcode.bytes p hp).trans (getD_normalize buf hpos hp).symm

theorem mfrCreateKey_loops (aes : OpenSsl) (env : Env) (hbuf : 0 < buf.length)
    (hcopied : env.accepts (keyLength buf.length) = true) :
    ∃ s ∈ StateTransition.eval (Loops.step buf (keyLength buf.length)) .init,
      mfrCreateKey aes env (.of buf) =
        some (aes.cipher.enc (digestKey buf) s.normalizedkeybuf,
          aes.cipher.enc (digestKey buf) (.zeroed 0 16)) := by
  have hpos := keyLength_pos buf.length
  have hlen : keyLength buf.length ≤ 16 := by
    rw [keyLength_eq]
    omega
  obtain ⟨s, hs, -⟩ := exists_normalized buf hpos hlen
  refine ⟨s, hs, ?_⟩
  rw [mfrCreateKey_eq aes env hbuf hcopied, normalizedkeybuf_eq hpos hlen hs]

theorem keyLength_le_min (hbuf : 1 ≤ buf.length) : keyLength buf.length ≤ min buf.length 16 := by
  have hle := toInt_le buf.length
  rw [keyLength_eq]
  omega

theorem keyLength_of_lt (hbuf : 1 ≤ buf.length) (h : buf.length < 2 ^ 31) :
    keyLength buf.length = min buf.length 16 := by
  have hmax : (buf.length : Int) ≤ intMax := by
    simp only [intMax]
    omega
  rw [keyLength_eq, toInt_of_le hmax]
  omega

theorem keyByte_sixteen (buf : List UInt8) (hp : p < 16) :
    keyByte buf 16 p = serialByte buf ((p + 7) % 16) p := by
  rw [keyByte, Nat.mod_eq_of_lt hp, Nat.div_eq_of_lt hp, if_neg (by decide)]

theorem repeats_iff : Repeats buf keylen ↔ ∀ p < 16, keyByte buf keylen p = keyByte buf 16 p := by
  constructor
  · intro h p hp
    rw [keyByte_sixteen buf hp, h p hp, keyByte]
  · intro h p hp
    rw [← keyByte_sixteen buf hp, ← h p hp, keyByte]

/-- The loops do what they should exactly if they write the same bytes as with `min` of the
length and sixteen. -/
theorem normalizes_iff_keyByte (hbuf : 1 ≤ buf.length) : Normalizes buf ↔
    ∀ p < 16, keyByte buf (keyLength buf.length) p = keyByte buf (min buf.length 16) p := by
  have hle := keyLength_le_min hbuf
  have hend := exists_normalized buf (keyLength_pos buf.length) (by omega)
  constructor
  · rintro ⟨s, hs, hnormalized⟩ p hp
    have hcode := Loop.of_mem_eval hend hs
    rw [← hcode.bytes p hp, hnormalized.bytes p hp]
  · intro h
    obtain ⟨s, hs, hcode⟩ := hend
    exact ⟨s, hs, fun ix hix => Nat.lt_of_lt_of_le (hcode.reads ix hix) hle, hcode.writes,
      fun p hp => (hcode.bytes p hp).trans (h p hp)⟩

/-- The loops do what they should exactly if the length of the serial number is not narrowed, or
is to no less than sixteen, or its bytes repeat. -/
theorem normalizes_iff (hbuf : 1 ≤ buf.length) : Normalizes buf ↔
    buf.length < 2 ^ 31 ∨ 16 ≤ toInt buf.length ∨
      Repeats buf (max 1 (toInt buf.length)).toNat := by
  rw [normalizes_iff_keyByte hbuf]
  by_cases hshort : buf.length < 2 ^ 31
  · rw [keyLength_of_lt hbuf hshort]
    exact iff_of_true (fun p _ => rfl) (.inl hshort)
  · have hmin : min buf.length 16 = 16 := by omega
    rw [hmin, keyLength_eq]
    by_cases hlong : 16 ≤ toInt buf.length
    · have hsixteen : (max 1 (min 16 (toInt buf.length))).toNat = 16 := by omega
      rw [hsixteen]
      exact iff_of_true (fun p _ => rfl) (.inr (.inl hlong))
    · have hnarrow : min 16 (toInt buf.length) = toInt buf.length := by omega
      rw [hnarrow, ← repeats_iff, or_iff_right hshort, or_iff_right hlong]

theorem normalizes_iff_sample : 1 ≤ sampleSerial.length ∧ Normalizes sampleSerial :=
  ⟨by decide, (normalizes_iff (by decide)).mpr (.inl (by decide))⟩

/-- 2 GiB, whose length an `int` holds as a negative number. -/
def longSerial : List UInt8 := List.replicate (2 ^ 31) 1

theorem longSerial_narrowed : 1 ≤ longSerial.length ∧ ¬ Normalizes longSerial := by
  have hlen : longSerial.length = 2 ^ 31 := List.length_replicate
  have hone : keyLength longSerial.length = 1 := by
    rw [hlen, keyLength_eq]
    decide
  have hbuf : 1 ≤ longSerial.length := by
    rw [hlen]
    decide
  refine ⟨hbuf, fun h => ?_⟩
  have hbyte : ∀ ix < 2 ^ 31, longSerial.getD ix 0 = 1 := fun ix hix => by
    rw [longSerial]
    exact List.getD_replicate _ hix
  have hserial : ∀ ix < 2 ^ 31, ∀ p, serialByte longSerial ix p = 1 := fun ix hix p => by
    rw [serialByte, hbyte ix hix]
    exact if_neg (by decide)
  have hsecond := (normalizes_iff_keyByte hbuf).mp h 1 (by decide)
  have hmin : min longSerial.length 16 = 16 := by omega
  rw [hone, hmin, keyByte_sixteen longSerial (by decide), keyByte, hserial _ (by decide),
    hserial _ (by decide)] at hsecond
  exact absurd hsecond (by decide)

end IarmMgrs.MfrMgr.KeyNormalization
