import IarmMgrs.MfrMgr.Crypto

namespace IarmMgrs.MfrMgr.Crypto

open Lib Lib.CString Lib.Cbc

variable {aes : OpenSsl} {cipher : BlockCipher Block Block} {direction : Direction} {env : Env}
  {serialNumber target : MfrSerializedData} {key keybuf iv : Block} {src dst bytes : List UInt8}

theorem toInt_of_le {n : Nat} (h : n ≤ intMax) : toInt n = n := by
  have hmax : (n : Int) ≤ 2 ^ 31 - 1 := h
  exact Int.bmod_eq_of_le (by omega) (by omega)

theorem bmod_le (n m : Nat) : Int.bmod n m ≤ n := by
  have hemod : (n : Int) % m ≤ n := by
    rw [← Int.natCast_mod]
    exact Int.ofNat_le.mpr (Nat.mod_le n m)
  simp only [Int.bmod]
  split
  · exact hemod
  · exact Int.le_trans (Int.sub_le_self _ (Int.natCast_nonneg m)) hemod

theorem toInt_le (n : Nat) : toInt n ≤ n := bmod_le n _

theorem toSize_of_le {n : Nat} (h : n ≤ intMax) : toSize n = n := by
  have hmax : (n : Int) ≤ 2 ^ 31 - 1 := h
  simp only [toSize, CInt.sizeBits]
  omega

theorem keyLength_eq (bufLen : Nat) : keyLength bufLen = (max 1 (min 16 (toInt bufLen))).toNat := by
  have hsize : (mfrCryptoKeyLength : Int) = 16 := rfl
  simp only [keyLength]
  generalize toInt bufLen = keylen
  by_cases hlong : keylen > mfrCryptoKeyLength
  · rw [if_pos hlong, if_neg (by decide)]
    omega
  · rw [if_neg hlong]
    split <;> omega

theorem keyLength_le {bufLen : Nat} (h : 0 < bufLen) : keyLength bufLen ≤ bufLen := by
  have hle := toInt_le bufLen
  rw [keyLength_eq]
  omega

theorem keyLength_pos (bufLen : Nat) : 0 < keyLength bufLen := by
  rw [keyLength_eq]
  omega

theorem le_roundUp (n : Nat) : n ≤ roundUp n := by
  simp only [roundUp, aesBlockSize]
  omega

theorem dvd_roundUp (n : Nat) : aesBlockSize ∣ roundUp n := Nat.dvd_mul_left _ _

theorem roundUp_of_dvd {n : Nat} (h : aesBlockSize ∣ n) : roundUp n = n := by
  simp only [roundUp, aesBlockSize] at *
  omega

theorem roundUp_le {n : Nat} (h : n ≤ intMax - 16) : roundUp n ≤ intMax := by
  simp only [roundUp, aesBlockSize, intMax] at *
  omega

theorem length_zeroPad (text : List UInt8) : (zeroPad text).length = roundUp text.length := by
  have h := le_roundUp text.length
  rw [zeroPad, List.length_append, List.length_replicate]
  omega

theorem zeroPad_of_dvd {text : List UInt8} (h : aesBlockSize ∣ text.length) :
    zeroPad text = text := by
  rw [zeroPad, roundUp_of_dvd h, Nat.sub_self, List.replicate_zero, List.append_nil]

theorem fixed_size {n : Nat} (h : ¬ aesBlockSize ∣ n) :
    ((n : Int).tdiv aesBlockSize + 1) * aesBlockSize = roundUp n := by
  have htdiv : (n : Int).tdiv aesBlockSize = (n / aesBlockSize : Nat) := rfl
  rw [htdiv]
  simp only [roundUp, aesBlockSize] at *
  omega

theorem tmod_eq_zero_iff {n : Nat} : (n : Int).tmod aesBlockSize = 0 ↔ aesBlockSize ∣ n := by
  have htmod : (n : Int).tmod aesBlockSize = (n % aesBlockSize : Nat) := rfl
  rw [htmod, Int.natCast_eq_zero, Nat.dvd_iff_mod_eq_zero]

theorem length_fresh (memory : Nat → UInt8) (size : Nat) : (fresh memory size).length = size := by
  rw [fresh, List.length_map, List.length_range]

theorem length_overwrite {count : Nat} (h : count + src.length ≤ dst.length) :
    (overwrite dst count src).length = dst.length := by
  simp only [overwrite, List.length_append, List.length_take, List.length_drop]
  omega

theorem take_overwrite {count : Nat} (h : count + src.length ≤ dst.length) :
    (overwrite dst count src).take (count + src.length) = dst.take count ++ src := by
  refine List.take_left' ?_
  rw [List.length_append, List.length_take, Nat.min_eq_left (by omega)]

theorem overwrite_zeros {size : Nat} (text : List UInt8) :
    overwrite (List.replicate size 0) 0 text =
      text ++ List.replicate (size - text.length) 0 := by
  rw [overwrite, List.take_zero, List.nil_append, List.drop_replicate, Nat.zero_add]

def Direction.flip : Direction → Direction
  | .encrypt => .decrypt
  | .decrypt => .encrypt

theorem cbcBlocks_append (bs cs : List Block) :
    cbcBlocks cipher direction key iv (bs ++ cs) =
      ((cbcBlocks cipher direction key iv bs).1 ++
          (cbcBlocks cipher direction key (cbcBlocks cipher direction key iv bs).2 cs).1,
        (cbcBlocks cipher direction key (cbcBlocks cipher direction key iv bs).2 cs).2) := by
  cases direction with
  | encrypt => exact encrypt_append iv bs cs
  | decrypt => exact decrypt_append iv bs cs

theorem length_cbcBlocks (bs : List Block) :
    (cbcBlocks cipher direction key iv bs).1.length = bs.length := by
  cases direction with
  | encrypt => exact length_encrypt iv bs
  | decrypt => exact length_decrypt iv bs

theorem cbcBlocks_flip (bs : List Block) :
    (cbcBlocks cipher direction.flip key iv (cbcBlocks cipher direction key iv bs).1).1 = bs := by
  cases direction with
  | encrypt => exact congrArg Prod.fst (decrypt_encrypt cancels_buf (cipher.dec_enc key) iv bs)
  | decrypt => exact congrArg Prod.fst (encrypt_decrypt cancels_buf (cipher.enc_dec key) iv bs)

theorem aesCbcEncrypt_add (j k : Nat) {input : List UInt8} (iv : Block)
    (h : aesBlockSize * (j + k) ≤ input.length) :
    aes.aesCbcEncrypt direction key input (aesBlockSize * (j + k)) iv =
      let first := aes.aesCbcEncrypt direction key input (aesBlockSize * j) iv
      let rest := aes.aesCbcEncrypt direction key (input.drop (aesBlockSize * j))
        (aesBlockSize * k) first.2
      (first.1 ++ rest.1, rest.2) := by
  have hsplit := blocks_add (n := 16) (0 : UInt8) j k input
  rw [Nat.mul_add] at h
  have hfirst : aesBlockSize * j ≤ input.length := by omega
  have hrest : aesBlockSize * k ≤ (input.drop (aesBlockSize * j)).length := by
    rw [List.length_drop]
    omega
  rw [← Nat.mul_add] at h
  simp only [aes.chains _ _ _ _ _ h, aes.chains _ _ _ _ _ hfirst, aes.chains _ _ _ _ _ hrest,
    hsplit, cbcBlocks_append, flatten_append]
  rfl

theorem length_aesCbcEncrypt (aes : OpenSsl) (direction : Direction) (key : Block) (k : Nat)
    {input : List UInt8} (iv : Block) (h : aesBlockSize * k ≤ input.length) :
    (aes.aesCbcEncrypt direction key input (aesBlockSize * k) iv).1.length =
      aesBlockSize * k := by
  simp only [aes.chains _ _ _ _ _ h, length_flatten, length_cbcBlocks, length_blocks]
  rfl

theorem cryptLoop_eq {nBytes : Nat} (hsrc : nBytes ≤ src.length) (hdst : dst.length = nBytes)
    (k : Nat) {count : Nat} (hk : nBytes = count + aesBlockSize * k) :
    cryptLoop aes direction key src nBytes count iv dst =
      dst.take count ++
        (aes.aesCbcEncrypt direction key (src.drop count) (aesBlockSize * k) iv).1 := by
  induction k generalizing count iv dst with
  | zero =>
    have hcount : nBytes = count := by simpa using hk
    have hempty :=
      @length_aesCbcEncrypt aes direction key 0 (src.drop count) iv (Nat.zero_le _)
    rw [cryptLoop, if_neg (by omega), List.length_eq_zero_iff.mp hempty, List.append_nil,
      List.take_of_length_le (by omega)]
  | succ k ih =>
    have hlt : count + aesBlockSize ≤ nBytes := by
      rw [hk, Nat.mul_succ]
      omega
    have hleft : aesBlockSize * (1 + k) ≤ (src.drop count).length := by
      rw [List.length_drop, Nat.add_comm 1 k]
      omega
    have hnext : aesBlockSize * 1 ≤ (src.drop count).length := by
      rw [List.length_drop]
      omega
    have hlen := length_aesCbcEncrypt aes direction key 1 iv hnext
    rw [Nat.mul_one] at hlen
    have hfits :
        count + (aes.aesCbcEncrypt direction key (src.drop count) aesBlockSize iv).1.length
          ≤ dst.length := by omega
    have htake := take_overwrite hfits
    rw [hlen] at htake
    have hrest : nBytes = (count + aesBlockSize) + aesBlockSize * k := by
      rw [hk, Nat.mul_succ]
      omega
    rw [cryptLoop, if_pos (by simp only [aesBlockSize] at hlt; omega)]
    rw [ih ((length_overwrite hfits).trans hdst) hrest, htake, List.append_assoc,
      Nat.add_comm k 1, aesCbcEncrypt_add 1 k iv hleft, Nat.mul_one, List.drop_drop]

/-- The whole loop is one call of `AES_cbc_encrypt`, whatever the output memory holds. -/
theorem cryptLoop_whole (aes : OpenSsl) (direction : Direction) (key iv : Block) {nBytes : Nat}
    (hsrc : nBytes ≤ src.length) (hdst : dst.length = nBytes) (h : aesBlockSize ∣ nBytes) :
    cryptLoop aes direction key src nBytes 0 iv dst =
      (aes.aesCbcEncrypt direction key src nBytes iv).1 := by
  obtain ⟨k, rfl⟩ := h
  rw [cryptLoop_eq hsrc hdst k (Nat.zero_add _).symm, List.take_zero, List.nil_append,
    List.drop_zero]

theorem length_aesCbcEncrypt_of_dvd (aes : OpenSsl) (direction : Direction) (key : Block)
    (iv : Block) {n : Nat} (hsrc : n ≤ src.length) (h : aesBlockSize ∣ n) :
    (aes.aesCbcEncrypt direction key src n iv).1.length = n := by
  obtain ⟨k, rfl⟩ := h
  exact length_aesCbcEncrypt aes direction key k iv hsrc

theorem aesCbcEncrypt_flip (aes : OpenSsl) (direction : Direction) (key iv : Block)
    (h : aesBlockSize ∣ src.length) :
    (aes.aesCbcEncrypt direction.flip key
      (aes.aesCbcEncrypt direction key src src.length iv).1 src.length iv).1 = src := by
  have hlen := length_aesCbcEncrypt_of_dvd aes direction key iv (Nat.le_refl _) h
  obtain ⟨k, hk⟩ := h
  have hcut :=
    blocks_flatten (0 : UInt8) (cbcBlocks aes.cipher direction key iv (blocks 0 k src)).1
  rw [length_cbcBlocks, length_blocks] at hcut
  have hwhole : flatten (blocks 0 k src : List Block) = src :=
    (flatten_blocks 0 (Nat.le_of_eq hk.symm)).trans (List.take_of_length_le (Nat.le_of_eq hk))
  rw [hk] at hlen ⊢
  rw [aes.chains _ _ _ _ _ (Nat.le_of_eq hlen.symm), aes.chains _ _ _ _ _ (Nat.le_of_eq hk.symm)]
  simp only [hcut, cbcBlocks_flip, hwhole]

theorem aesCbcEncrypt_block (b : Block) :
    aes.aesCbcEncrypt .encrypt key b.chars aesBlockSize iv =
      ((aes.cipher.enc key (b ^^^ iv)).chars, aes.cipher.enc key (b ^^^ iv)) := by
  have hblocks : (blocks 0 1 b.chars : List Block) = [b] := by
    have h := blocks_flatten (0 : UInt8) [b]
    rwa [flatten_cons, flatten_nil, List.append_nil] at h
  have hchains := aes.chains .encrypt key b.chars 1 iv (Nat.le_of_eq b.size.symm)
  rw [Nat.mul_one] at hchains
  simp only [hchains, hblocks, cbcBlocks, Cbc.encrypt, chain_cons, chain_nil, flatten_cons,
    flatten_nil, List.append_nil]

def digestKey (sn : List UInt8) : Block :=
  digest ((Buf.zeroed 0 16).write (sn.take (keyLength sn.length)))

/-- The key is the encrypted normalized serial number.  Its bytes are mixed with themselves
before they are encrypted again, so `ivec` is the encryption of the zero block. -/
theorem mfrCreateKey_eq (aes : OpenSsl) (env : Env) {sn : List UInt8}
    (hsn : 0 < sn.length) (hcopied : env.accepts (keyLength sn.length) = true) :
    mfrCreateKey aes env (.of sn) =
      some (aes.cipher.enc (digestKey sn) (normalize sn (keyLength sn.length)),
        aes.cipher.enc (digestKey sn) (.zeroed 0 16)) := by
  have hlen : ¬ sn.length < keyLength sn.length := Nat.not_lt.mpr (keyLength_le hsn)
  have hcopies : env.copies (keyLength sn.length) (keyLength sn.length) = true := by
    simp [Env.copies, hcopied, keyLength_pos]
  simp only [mfrCreateKey, MfrSerializedData.of, hlen, hcopies, if_false, Bool.not_true,
    aesCbcEncrypt_block, write_chars, xor_zeroed, xor_same, digestKey]
  rfl

theorem cryptBytes_eq {n : Nat} (hmax : n ≤ intMax) (hdvd : aesBlockSize ∣ n)
    (hsrc : n ≤ src.length) (houtput : env.output ≠ none)
    (hkey : mfrCreateKey aes env serialNumber = some (key, iv)) :
    cryptBytes aes direction env serialNumber n src target =
      some (.none, .of (aes.aesCbcEncrypt direction key src n iv).1) := by
  obtain ⟨memory, hmemory⟩ := Option.ne_none_iff_exists'.mp houtput
  obtain ⟨k, hk⟩ := hdvd
  have hlen := length_aesCbcEncrypt_of_dvd aes direction key iv hsrc ⟨k, hk⟩
  have hloop := cryptLoop_whole aes direction key iv hsrc (length_fresh memory n) ⟨k, hk⟩
  simp only [cryptBytes, hmemory, tmod_eq_zero_iff.mpr ⟨k, hk⟩, hkey, toSize_of_le hmax]
  rw [if_neg (by simp), if_neg (by omega), Int.toNat_natCast, hloop]
  simp only [MfrSerializedData.of, hlen]

/-- A call works on the padded text as a single call of `AES_cbc_encrypt` does. -/
theorem crypt_eq (direction : Direction) (target : MfrSerializedData) {text : List UInt8}
    (hmax : (roundUp text.length : Int) ≤ intMax)
    (henv : env.Succeeds serialNumber text.length)
    (hkey : mfrCreateKey aes env serialNumber = some (key, iv)) :
    crypt aes direction env serialNumber (.of text) target =
      some (.none, .of
        (aes.aesCbcEncrypt direction key (zeroPad text) (zeroPad text).length iv).1) := by
  have hle : (text.length : Int) ≤ intMax :=
    Int.le_trans (Int.ofNat_le.mpr (le_roundUp _)) hmax
  simp only [crypt, MfrSerializedData.of, toInt_of_le hle]
  by_cases hdvd : aesBlockSize ∣ text.length
  · rw [if_neg (by simp [tmod_eq_zero_iff.mpr hdvd]), zeroPad_of_dvd hdvd]
    exact cryptBytes_eq hle hdvd (Nat.le_refl _) henv.output hkey
  · obtain ⟨memory, hmemory⟩ := Option.ne_none_iff_exists'.mp (henv.padded hdvd)
    have hpos : 0 < text.length := by
      refine Nat.pos_of_ne_zero fun h => hdvd ?_
      rw [h]
      exact Nat.dvd_zero _
    have hcopies : env.copies (roundUp text.length) text.length = true := by
      simp [Env.copies, henv.text_copied hdvd, hpos, le_roundUp]
    rw [if_pos (mt tmod_eq_zero_iff.mp hdvd)]
    simp only [fixed_size hdvd, hmemory, toSize_of_le hmax, hcopies, henv.text_copied hdvd]
    rw [if_neg (Int.not_lt.mpr hmax), Bool.not_true, if_neg Bool.false_ne_true,
      if_neg (Nat.lt_irrefl _), if_pos trivial, List.take_length, overwrite_zeros]
    have hpadded := length_zeroPad text
    rw [hpadded]
    exact cryptBytes_eq hmax (dvd_roundUp _) (Nat.le_of_eq hpadded.symm) henv.output hkey

theorem crypt_of_dvd (direction : Direction) (target : MfrSerializedData) {text : List UInt8}
    (hdvd : aesBlockSize ∣ text.length)
    (hmax : text.length ≤ intMax) (henv : env.Succeeds serialNumber text.length)
    (hkey : mfrCreateKey aes env serialNumber = some (key, iv)) :
    crypt aes direction env serialNumber (.of text) target =
      some (.none, .of (aes.aesCbcEncrypt direction key text text.length iv).1) := by
  rw [← roundUp_of_dvd hdvd] at hmax
  rw [crypt_eq direction target hmax henv hkey, zeroPad_of_dvd hdvd]

theorem crypt_flip (direction : Direction) (target : MfrSerializedData) {text : List UInt8}
    (hdvd : aesBlockSize ∣ text.length) (hmax : text.length ≤ intMax)
    (henv : env.Succeeds serialNumber text.length)
    (hkey : mfrCreateKey aes env serialNumber = some (key, iv)) :
    crypt aes direction.flip env serialNumber
      (.of (aes.aesCbcEncrypt direction key text text.length iv).1) target =
      some (.none, .of text) := by
  have hlen := length_aesCbcEncrypt_of_dvd aes direction key iv (Nat.le_refl _) hdvd
  have hcrypt := crypt_of_dvd direction.flip target (hlen.symm ▸ hdvd) (by rw [hlen]; exact hmax)
    (by rw [hlen]; exact henv) hkey
  rwa [hlen, aesCbcEncrypt_flip aes direction key iv hdvd] at hcrypt

/-- A length that is a multiple of `2 ^ 32` is no bytes at all to the code. -/
theorem crypt_of_toInt_eq_zero {text : List UInt8} (h : toInt text.length = 0)
    (houtput : env.output ≠ none) (hkey : mfrCreateKey aes env serialNumber = some (key, iv)) :
    crypt aes direction env serialNumber (.of text) target = some (.none, .of []) := by
  obtain ⟨memory, hmemory⟩ := Option.ne_none_iff_exists'.mp houtput
  have hnone : ¬ (text.length : Int) < 0 := by omega
  simp only [crypt, MfrSerializedData.of, h, cryptBytes, hmemory, hkey]
  rw [if_neg (by decide), if_neg (by decide), if_neg hnone, cryptLoop, if_neg (by decide)]
  rfl

theorem mfrCryptoInit_accepts {sn : List UInt8} {before : MfrSerializedData}
    (h : mfrCryptoInit env (some (.of sn)) before = (.none, serialNumber)) :
    0 < sn.length ∧ serialNumber = .of sn := by
  simp only [mfrCryptoInit] at h
  split at h
  · cases h
  · next hvalid =>
    rw [not_or] at hvalid
    split at h
    · cases h
      exact ⟨Nat.pos_of_ne_zero hvalid.2, rfl⟩
    · cases h

/-- Texts and ciphertexts whose padded length an `int` holds survive the way there and back. -/
theorem crypto_roundTrip (aes : OpenSsl) {envInit : Env} {sn : List UInt8}
    {before serialNumber : MfrSerializedData}
    (hinit : mfrCryptoInit envInit (some (.of sn)) before = (.none, serialNumber)) :
    ∃ key iv,
      (∀ env : Env, env.accepts (keyLength serialNumber.bufLen) = true →
        mfrCreateKey aes env serialNumber = some (key, iv)) ∧
      (∀ (p : List UInt8) (env env' : Env) (target target' : MfrSerializedData),
        1 ≤ p.length → p.length ≤ intMax - 16 →
        env.Succeeds serialNumber p.length → env'.Succeeds serialNumber (roundUp p.length) →
        ∃ c, mfrCryptoEncrypt aes env serialNumber (.of p) target = some (.none, .of c) ∧
          c = (aes.aesCbcEncrypt .encrypt key (zeroPad p) (zeroPad p).length iv).1 ∧
          c.length = roundUp p.length ∧
          mfrCryptoDecrypt aes env' serialNumber (.of c) target' =
            some (.none, .of (zeroPad p)) ∧
          (aesBlockSize ∣ p.length → zeroPad p = p)) ∧
      ∀ (c : List UInt8) (env env' : Env) (target target' : MfrSerializedData),
        0 < c.length → aesBlockSize ∣ c.length → c.length ≤ intMax →
        env.Succeeds serialNumber c.length → env'.Succeeds serialNumber c.length →
        ∃ p, mfrCryptoDecrypt aes env serialNumber (.of c) target = some (.none, .of p) ∧
          mfrCryptoEncrypt aes env' serialNumber (.of p) target' = some (.none, .of c) := by
  obtain ⟨hsn, rfl⟩ := mfrCryptoInit_accepts hinit
  have hcreate := fun env => mfrCreateKey_eq aes env hsn
  generalize aes.cipher.enc (digestKey sn) (normalize sn (keyLength sn.length)) = key at hcreate
  generalize aes.cipher.enc (digestKey sn) (.zeroed 0 16) = iv at hcreate
  refine ⟨key, iv, hcreate, ?_, ?_⟩
  · intro p env env' target target' _ hmax henv henv'
    have hround := roundUp_le hmax
    have hlen := length_zeroPad p
    have hdvd : aesBlockSize ∣ (zeroPad p).length := hlen ▸ dvd_roundUp p.length
    have hclen := length_aesCbcEncrypt_of_dvd aes .encrypt key iv (Nat.le_refl _) hdvd
    refine ⟨_, crypt_eq .encrypt target hround henv (hcreate env henv.key_copied), rfl,
      hclen.trans hlen, ?_, zeroPad_of_dvd⟩
    rw [← hlen] at hround henv'
    exact crypt_flip .encrypt target' hdvd hround henv' (hcreate env' henv'.key_copied)
  · intro c env env' target target' _ hdvd hmax henv henv'
    exact ⟨_, crypt_of_dvd .decrypt target hdvd hmax henv (hcreate env henv.key_copied),
      crypt_flip .decrypt target' hdvd hmax henv' (hcreate env' henv'.key_copied)⟩

def sampleDigestKey : Block :=
  ⟨[0x50, 0x5E, 0x77, 0x19, 0x98, 0xEA, 0xB4, 0x79,
    0x38, 0xDD, 0xA7, 0x0D, 0xB2, 0xCA, 0x80, 0xBC], rfl⟩

def sampleNormalized : Block :=
  ⟨[0x31, 0x4D, 0xCE, 0xB2, 0x31, 0x4D, 0xCE, 0xB2,
    0x31, 0x4D, 0xCE, 0xB2, 0x31, 0x4D, 0xCE, 0xB2], rfl⟩

def sampleKey : Block :=
  ⟨[0x1A, 0xDA, 0x7A, 0xD9, 0xE1, 0x3F, 0x9F, 0x6F,
    0xC2, 0x9B, 0xA3, 0xDC, 0x3B, 0x71, 0x56, 0xB1], rfl⟩

def sampleIvec : Block :=
  ⟨[0xA8, 0xC4, 0x4F, 0x0F, 0x03, 0x04, 0x75, 0x42,
    0x7C, 0xD5, 0xD1, 0x5A, 0xA4, 0xD0, 0xE5, 0x21], rfl⟩

def sampleMixed : Block :=
  ⟨[0xC3, 0xA1, 0x36, 0x0F, 0x03, 0x04, 0x75, 0x42,
    0x7C, 0xD5, 0xD1, 0x5A, 0xA4, 0xD0, 0xE5, 0x21], rfl⟩

def sampleCipherText : Block :=
  ⟨[0x4D, 0x66, 0x66, 0x4F, 0xC6, 0x5C, 0xBE, 0xA9,
    0x5B, 0xD4, 0x0B, 0x86, 0x95, 0x82, 0x0F, 0x1F], rfl⟩

def sampleAes : OpenSsl := .ofCipher <| .ofPerm fun key =>
  if key = sampleDigestKey then
    (Equiv.swap sampleNormalized sampleKey).trans (Equiv.swap (.zeroed 0 16) sampleIvec)
  else if key = sampleKey then Equiv.swap sampleMixed sampleCipherText
  else Equiv.refl Block

def sampleEnv : Env where
  accepts := fun n => n ≤ 2 ^ 28
  padded := some fun _ => 0xAA
  output := some fun _ => 0x55
  keybuf := .zeroed 0xAA 16
  iv := .zeroed 0xAA 16

def sampleSerial : List UInt8 := [0x4D, 0x31]

def sampleText : List UInt8 := [0x6B, 0x65, 0x79]

theorem sampleEnv_succeeds_of_dvd {len : Nat} (h : aesBlockSize ∣ len) :
    sampleEnv.Succeeds (.of sampleSerial) len where
  output := by simp [sampleEnv]
  key_copied := by decide
  padded h' := absurd h h'
  text_copied h' := absurd h h'

theorem sampleKey_created :
    mfrCreateKey sampleAes sampleEnv (.of sampleSerial) = some (sampleKey, sampleIvec) := by
  decide +kernel

/-- 4 GiB of ciphertext, whose length an `int` holds as 0. -/
def longCipherText : List UInt8 := List.replicate (2 ^ 32) 0

theorem toInt_longCipherText : toInt longCipherText.length = 0 := by
  rw [longCipherText, List.length_replicate]
  rfl

theorem longCipherText_lost :
    mfrCryptoInit sampleEnv (some (.of sampleSerial)) ⟨none, 0⟩ = (.none, .of sampleSerial) ∧
      0 < longCipherText.length ∧ aesBlockSize ∣ longCipherText.length ∧
      sampleEnv.Succeeds (.of sampleSerial) longCipherText.length ∧
      mfrCryptoDecrypt sampleAes sampleEnv (.of sampleSerial) (.of longCipherText) ⟨none, 0⟩ =
        some (.none, .of []) ∧
      mfrCryptoEncrypt sampleAes sampleEnv (.of sampleSerial) (.of []) ⟨none, 0⟩ =
        some (.none, .of []) ∧
      [] ≠ longCipherText := by
  have hlen : longCipherText.length = 2 ^ 32 := List.length_replicate
  have hdvd : aesBlockSize ∣ longCipherText.length := by
    rw [hlen]
    exact Dvd.intro (2 ^ 28) rfl
  have houtput : sampleEnv.output ≠ none := by simp [sampleEnv]
  refine ⟨by decide, ?_, hdvd, sampleEnv_succeeds_of_dvd hdvd,
    crypt_of_toInt_eq_zero toInt_longCipherText houtput sampleKey_created,
    crypt_of_toInt_eq_zero rfl houtput sampleKey_created, ?_⟩
  · rw [hlen]
    decide
  · intro h
    rw [← h] at hlen
    cases hlen

theorem crypto_roundTrip_sample :
    mfrCryptoEncrypt sampleAes sampleEnv (.of sampleSerial) (.of sampleText) ⟨none, 0⟩ =
        some (.none, .of sampleCipherText.chars) ∧
      mfrCryptoDecrypt sampleAes sampleEnv (.of sampleSerial) (.of sampleCipherText.chars)
        ⟨none, 0⟩ = some (.none, .of (zeroPad sampleText)) := by
  have hinit : mfrCryptoInit sampleEnv (some (.of sampleSerial)) ⟨none, 0⟩ =
      (.none, .of sampleSerial) := by decide
  obtain ⟨key, iv, hkey, htext, -⟩ := crypto_roundTrip sampleAes hinit
  have hcreated := (hkey sampleEnv (by decide)).symm.trans sampleKey_created
  obtain ⟨rfl, rfl⟩ := Prod.mk.inj (Option.some.inj hcreated)
  have hsucceeds : sampleEnv.Succeeds (.of sampleSerial) sampleText.length :=
    { output := by simp [sampleEnv]
      key_copied := by decide
      padded := fun _ => by simp [sampleEnv]
      text_copied := fun _ => by decide }
  obtain ⟨c, hencrypt, rfl, -, hdecrypt, -⟩ := htext sampleText sampleEnv sampleEnv ⟨none, 0⟩
    ⟨none, 0⟩ (by decide) (by decide) hsucceeds
    (sampleEnv_succeeds_of_dvd (dvd_roundUp _))
  have hc : (sampleAes.aesCbcEncrypt .encrypt sampleKey (zeroPad sampleText)
      (zeroPad sampleText).length sampleIvec).1 = sampleCipherText.chars := by decide +kernel
  rw [hc] at hencrypt hdecrypt
  exact ⟨hencrypt, hdecrypt⟩

end IarmMgrs.MfrMgr.Crypto
