import IarmMgrs.Lib.Cbc
import IarmMgrs.Lib.CInt

/-! `mfrCrypto.c`: the derived key, and the encryption of serialized data with it.  OpenSSL is a
parameter; `none` as the result of a function is undefined behaviour. -/

namespace IarmMgrs.MfrMgr.Crypto

open Lib Lib.CString Lib.Cbc

def mfrCryptoKeyLength : Nat := 16

def aesBlockSize : Nat := 16

def intMax : Int := 2 ^ 31 - 1

abbrev Block := Buf UInt8 16

inductive MfrError where | none | general | invalidParam
  deriving DecidableEq

/-- `mfrSerializedData_t` with the memory behind `buf`, a null pointer being `none`. -/
structure MfrSerializedData where
  buf : Option (List UInt8)
  bufLen : Nat
  deriving DecidableEq

def MfrSerializedData.of (bytes : List UInt8) : MfrSerializedData := ⟨some bytes, bytes.length⟩

def toInt (n : Nat) : Int := Int.bmod n (2 ^ 32)

def toSize (n : Int) : Nat := (n % 2 ^ CInt.sizeBits).toNat

/-- What a call is given from outside: the sizes that safec accepts, the memory `malloc`
returns for a padded copy and for the output, and what the stack holds for `keybuf` and `iv`. -/
structure Env where
  accepts : Nat → Bool
  padded : Option (Nat → UInt8)
  output : Option (Nat → UInt8)
  keybuf : Block
  iv : Block

def Env.copies (env : Env) (max len : Nat) : Bool := env.accepts max && 0 < len && len ≤ max

def fresh (memory : Nat → UInt8) (size : Nat) : List UInt8 := (List.range size).map memory

def overwrite (dst : List UInt8) (count : Nat) (src : List UInt8) : List UInt8 :=
  dst.take count ++ src ++ dst.drop (count + src.length)

inductive Direction where | encrypt | decrypt
  deriving DecidableEq

def cbcBlocks (cipher : BlockCipher Block Block) (direction : Direction) (key iv : Block)
    (bs : List Block) : List Block × Block :=
  match direction with
  | .encrypt => Cbc.encrypt (cipher.enc key) iv bs
  | .decrypt => Cbc.decrypt (cipher.dec key) iv bs

/-- `AES_cbc_encrypt` with the bytes it writes and the `ivec` it leaves, the key being that of
`AES_set_encrypt_key` or `AES_set_decrypt_key`: on whole blocks it chains the block cipher. -/
structure OpenSsl where
  cipher : BlockCipher Block Block
  aesCbcEncrypt (direction : Direction) (key : Block) (input : List UInt8) (length : Nat)
    (ivec : Block) : List UInt8 × Block
  chains : ∀ direction key input k ivec, aesBlockSize * k ≤ input.length →
    aesCbcEncrypt direction key input (aesBlockSize * k) ivec =
      let r := cbcBlocks cipher direction key ivec (blocks 0 k input)
      (flatten r.1, r.2)

def OpenSsl.ofCipher (cipher : BlockCipher Block Block) : OpenSsl where
  cipher := cipher
  aesCbcEncrypt direction key input length ivec :=
    let r := cbcBlocks cipher direction key ivec (blocks 0 (length / aesBlockSize) input)
    (flatten r.1, r.2)
  chains direction key input k ivec _ := by rw [Nat.mul_div_cancel_left k (by decide)]

section Key

def refkey : Block :=
  ⟨[0xD6, 0xC1, 0x5C, 0x1E, 0x1D, 0x64, 0x2D, 0x44,
    0x68, 0x5C, 0xCE, 0xA0, 0x8D, 0x9F, 0x85, 0xCB], rfl⟩

def digkey : Block :=
  ⟨[0x2D, 0x6C, 0x1B, 0xFB, 0x7B, 0x86, 0x87, 0x35,
    0xD0, 0x81, 0xD9, 0x6D, 0x25, 0x2B, 0xFB, 0xF1], rfl⟩

def keyLength (bufLen : Nat) : Nat :=
  let keylen := toInt bufLen
  let keylen := if keylen > mfrCryptoKeyLength then (mfrCryptoKeyLength : Int) else keylen
  let keylen := if keylen ≤ 0 then 1 else keylen
  keylen.toNat

/-- The inner loop of the normalization, over `j`. -/
def normalizeFrom (buf : List UInt8) (keylen i : Nat) (k : Bool) (normalizedkeybuf : Block) :
    Block :=
  (List.range (min keylen (mfrCryptoKeyLength - i))).foldl
    (fun normalizedkeybuf j =>
      let ix := (j + 7) % keylen
      let ir := (j + 3) % mfrCryptoKeyLength
      let cSN := buf.getD ix 0
      let cSN := if cSN = 0 then refkey.chars.getD ir 0 else cSN
      normalizedkeybuf.setChar (i + j) (if k then cSN ^^^ 0xFF else cSN))
    normalizedkeybuf

/-- The outer loop, whose rounds begin at the multiples of `keylen`; every second one
inverts. -/
def normalize (buf : List UInt8) (keylen : Nat) : Block :=
  (List.range ((mfrCryptoKeyLength + keylen - 1) / keylen)).foldl
    (fun normalizedkeybuf round =>
      normalizeFrom buf keylen (round * keylen) (round % 2 = 1) normalizedkeybuf)
    (.zeroed 0 16)

def digest (digestkeybuf : Block) : Block :=
  ⟨List.zipWith (· + ·) digestkeybuf.chars (List.zipWith (· + ·) digkey.chars refkey.chars), by
    simp [digestkeybuf.size, digkey.size, refkey.size]⟩

def mfrCreateKey (aes : OpenSsl) (env : Env) (pSerialNumber : MfrSerializedData) :
    Option (Block × Block) :=
  let keylen := keyLength pSerialNumber.bufLen
  let keybuf := if env.accepts mfrCryptoKeyLength then .zeroed 0 16 else env.keybuf
  match pSerialNumber.buf with
  | none => none
  | some buf =>
    if buf.length < keylen then none
    else if !env.copies keylen keylen then some (keybuf, env.iv)
    else
      let digestkeybuf := digest ((Buf.zeroed 0 16).write (buf.take keylen))
      let normalizedkeybuf := normalize buf keylen
      let r := aes.aesCbcEncrypt .encrypt digestkeybuf normalizedkeybuf.chars aesBlockSize
        (.zeroed 0 16)
      let keybuf := keybuf.write r.1
      let r := aes.aesCbcEncrypt .encrypt digestkeybuf keybuf.chars aesBlockSize r.2
      some (keybuf, env.iv.write r.1)

end Key

def mfrCryptoInit (env : Env) (pSerialNumber : Option MfrSerializedData)
    (serialNumber : MfrSerializedData) : MfrError × MfrSerializedData :=
  let sizeofSerializedData := 24
  match pSerialNumber with
  | none => (.invalidParam, serialNumber)
  | some pSerialNumber =>
    if pSerialNumber.buf = none ∨ pSerialNumber.bufLen = 0 then (.invalidParam, serialNumber)
    else if env.copies sizeofSerializedData sizeofSerializedData then (.none, pSerialNumber)
    else (.invalidParam, serialNumber)

section Crypt

variable (aes : OpenSsl) (direction : Direction) (env : Env)
  (serialNumber : MfrSerializedData)

/-- The loop of both functions, one block a call. -/
def cryptLoop (key : Block) (src : List UInt8) (nBytes count : Nat) (iv : Block)
    (dst : List UInt8) : List UInt8 :=
  if count < nBytes then
    let r := aes.aesCbcEncrypt direction key (src.drop count) aesBlockSize iv
    cryptLoop key src nBytes (count + aesBlockSize) r.2 (overwrite dst count r.1)
  else dst
termination_by nBytes - count
decreasing_by simp only [aesBlockSize]; omega

def cryptBytes (nBytes : Int) (src : List UInt8) (target : MfrSerializedData) :
    Option (MfrError × MfrSerializedData) :=
  match env.output with
  | none => some (.general, { target with buf := none })
  | some memory =>
    let dst := fresh memory (toSize nBytes)
    if nBytes.tmod aesBlockSize ≠ 0 then some (.invalidParam, { target with buf := some dst })
    else
      match mfrCreateKey aes env serialNumber with
      | none => none
      | some (keybuf, iv) =>
        if src.length < nBytes then none
        else
          let dst := cryptLoop aes direction keybuf src nBytes.toNat 0 iv dst
          some (.none, ⟨some dst, toSize nBytes⟩)

/-- `mfrCrypto_Encrypt` and `mfrCrypto_Decrypt` differ in the direction alone. -/
def crypt (source target : MfrSerializedData) : Option (MfrError × MfrSerializedData) :=
  let nBytes := toInt source.bufLen
  match source.buf with
  | none => some (.invalidParam, { target with buf := none })
  | some buf =>
    if nBytes.tmod aesBlockSize ≠ 0 then
      let nBytes := (nBytes.tdiv aesBlockSize + 1) * aesBlockSize
      if intMax < nBytes then none
      else
        match env.padded with
        | none => some (.general, { target with buf := none })
        | some memory =>
          let size := toSize nBytes
          let pbuf := if env.accepts size then List.replicate size 0 else fresh memory size
          if !env.copies size source.bufLen then some (.general, { target with buf := none })
          else if buf.length < source.bufLen then none
          else
            cryptBytes aes direction env serialNumber nBytes
              (overwrite pbuf 0 (buf.take source.bufLen)) target
    else cryptBytes aes direction env serialNumber nBytes buf target

/-- `pCipherText` is what `target` becomes. -/
def mfrCryptoEncrypt : (pPlainText target : MfrSerializedData) →
    Option (MfrError × MfrSerializedData) :=
  crypt aes .encrypt env serialNumber

def mfrCryptoDecrypt : (pCipherText target : MfrSerializedData) →
    Option (MfrError × MfrSerializedData) :=
  crypt aes .decrypt env serialNumber

end Crypt

section Purpose

def roundUp (n : Nat) : Nat := (n + (aesBlockSize - 1)) / aesBlockSize * aesBlockSize

def zeroPad (text : List UInt8) : List UInt8 :=
  text ++ List.replicate (roundUp text.length - text.length) 0

structure Env.Succeeds (env : Env) (serialNumber : MfrSerializedData) (len : Nat) : Prop where
  output : env.output ≠ none
  key_copied : env.accepts (keyLength serialNumber.bufLen) = true
  padded : ¬ aesBlockSize ∣ len → env.padded ≠ none
  text_copied : ¬ aesBlockSize ∣ len → env.accepts (roundUp len) = true

end Purpose

end IarmMgrs.MfrMgr.Crypto
