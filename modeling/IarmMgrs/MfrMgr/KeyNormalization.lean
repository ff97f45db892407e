import IarmMgrs.Lib.Loop
import IarmMgrs.MfrMgr.Crypto

namespace IarmMgrs.MfrMgr.KeyNormalization

open Lib Lib.CString Crypto

/-- The variables of the loops, and whether the inner loop is the one that runs. -/
structure Loops where
  inner : Bool
  i : Nat
  j : Nat
  k : Bool
  normalizedkeybuf : Block
  reads : List Nat
  writes : List Nat
  deriving DecidableEq

namespace Loops

def init : Loops := ⟨false, 0, 0, false, .zeroed 0 16, [], []⟩

variable (buf : List UInt8) (keylen : Nat)

/-- The body of the inner loop; `ix` and `ir` are of type `unsigned char`. -/
def body (s : Loops) : Loops :=
  let ix := (s.j + 7) % keylen % 256
  let ir := (s.j + 3) % mfrCryptoKeyLength % 256
  let cSN := buf.getD ix 0
  let cSN := if cSN = 0 then refkey.chars.getD ir 0 else cSN
  let c := if s.k then cSN ^^^ 0xFF else cSN
  { s with
    normalizedkeybuf := s.normalizedkeybuf.setChar (s.i + s.j) c
    reads := s.reads ++ [ix]
    writes := s.writes ++ [s.i + s.j] }

def step (s : Loops) : Option Loops :=
  if s.inner then
    if s.j < keylen ∧ s.j + s.i < mfrCryptoKeyLength then
      some { s.body buf keylen with j := s.j + 1 }
    else some { s with inner := false, i := s.i + keylen, k := !s.k }
  else if s.i < mfrCryptoKeyLength then some { s with inner := true, j := 0 }
  else none

end Loops

section Purpose

variable (buf : List UInt8) (len p : Nat)

def serialByte (ix p : Nat) : UInt8 :=
  let c := buf.getD ix 0
  if c = 0 then refkey.chars.getD ((p + 3) % 16) 0 else c

/-- The byte of the key at a position, when the serial number counts with so many bytes. -/
def keyByte : UInt8 :=
  let c := serialByte buf ((p % len + 7) % len) (p % len)
  if p / len % 2 = 1 then c ^^^ 0xFF else c

structure Normalized (s : Loops) : Prop where
  reads : ∀ ix ∈ s.reads, ix < len
  writes : ∀ p, s.writes.count p = if p < 16 then 1 else 0
  bytes : ∀ p < 16, s.normalizedkeybuf.chars.getD p 0 = keyByte buf len p

def Normalizes (buf : List UInt8) : Prop :=
  ∃ s ∈ StateTransition.eval (Loops.step buf (keyLength buf.length)) .init,
    Normalized buf (min buf.length 16) s

/-- The first sixteen bytes repeat the first `len` of them, complemented in every second pass. -/
def Repeats : Prop := ∀ p < 16,
  let c := serialByte buf ((p % len + 7) % len) (p % len)
  serialByte buf ((p + 7) % 16) p = if p / len % 2 = 1 then c ^^^ 0xFF else c

instance : Decidable (Repeats buf len) := inferInstanceAs (Decidable (∀ p < 16, _))

end Purpose

end IarmMgrs.MfrMgr.KeyNormalization
