import IarmMgrs.MfrMgr.CryptoLaws
import IarmMgrs.MfrMgr.Encryption
import IarmMgrs.MfrMgr.SerializedDataLaws

namespace IarmMgrs.MfrMgr.Encryption

open Lib Lib.CString Lib.Cbc Lib.Transition
open Crypto (MfrSerializedData MfrError Block Direction crypt toInt toSize intMax roundUp)
open Flash (IarmResult)
open SerializedData

variable {σ : Type} {vendor : Vendor σ} {env : Env} {param : Param} {v : σ} {type : Int}

section OfHal

variable (hal : Hal) (env : Env)

theorem getSerializedData_ofHal (func : Bool) :
    (Vendor.ofHal hal).getSerializedData () type func =
      .done (hal.getSerializedData type func, ()) := by
  cases func <;> rfl

theorem setSerializedData_ofHal (data : MfrSerializedData) (func : Bool) :
    (Vendor.ofHal hal).setSerializedData () type data func =
      .done (hal.setSerializedData type data func, ()) := by
  cases func <;> rfl

theorem srvGetSerializedData_ofHal (param : Param) :
    srvGetSerializedData (.ofHal hal) env param () =
      .done (SerializedData.srvGetSerializedData hal env param, ()) := by
  unfold srvGetSerializedData SerializedData.srvGetSerializedData
  split_ifs
  · rfl
  · cases withCrypto env param.crypto (lit "mfrCrypto_Encrypt") .encrypt with
    | error retCode => rfl
    | ok func =>
      cases hdata : hal.getSerializedData param.type func <;>
        simp only [getSerializedData_ofHal, Ask.map, hdata]
  · rfl

theorem srvSetSerializedData_ofHal (param : Param) :
    srvSetSerializedData (.ofHal hal) env param () =
      .done ((SerializedData.srvSetSerializedData hal env param).1, ()) := by
  unfold srvSetSerializedData SerializedData.srvSetSerializedData
  split_ifs
  · rfl
  · rfl
  · cases withCrypto env param.crypto (lit "mfrCrypto_Decrypt") .decrypt <;> rfl
  · cases withCrypto env param.crypto (lit "mfrCrypto_Decrypt") .decrypt with
    | error retCode => rfl
    | ok func =>
      simp only [setSerializedData_ofHal, Ask.map]
      cases memcpyS true (toSize param.bufLen) (some param.buffer.chars)
        (toSize param.bufLen) with
      | none => rfl
      | some bytes =>
        simp only
        cases hal.setSerializedData param.type ⟨some bytes, toSize param.bufLen⟩ func <;> rfl

theorem mfrGetSerializedData_ofHal (type : Int) (crypto : Bool) :
    mfrGetSerializedData (.ofHal hal) env type crypto () =
      .done (SerializedData.mfrGetSerializedData hal env type crypto, ()) := by
  unfold mfrGetSerializedData SerializedData.mfrGetSerializedData
  cases strcpyS env.stack.crypto (cryptoName crypto (lit "mfrCrypto_Encrypt")) with
  | none => rfl
  | some name =>
    cases env.delivered with
    | false => rfl
    | true =>
      simp only [if_true, srvGetSerializedData_ofHal, Ask.map]
      rfl

theorem mfrSetSerializedData_ofHal (type : Int) (data : MfrSerializedData) (crypto : Bool) :
    mfrSetSerializedData (.ofHal hal) env type data crypto () =
      .done ((SerializedData.mfrSetSerializedData hal env type data crypto).1, ()) := by
  simp only [mfrSetSerializedData, SerializedData.mfrSetSerializedData]
  generalize toInt (if data.bufLen < maxSerializedBuf then data.bufLen else maxSerializedBuf) =
    bufLen
  cases strcpyS env.stack.crypto (cryptoName crypto (lit "mfrCrypto_Decrypt")) with
  | none => rfl
  | some name =>
    simp only
    cases memcpyS true maxSerializedBuf data.buf (toSize bufLen) with
    | none => rfl
    | some bytes =>
      cases env.delivered with
      | false => rfl
      | true => simp only [if_true, srvSetSerializedData_ofHal, Ask.map]

end OfHal

section Unset

variable {aes : Crypto.OpenSsl} {direction : Direction} {memory : Crypto.Env}
  {serialNumber source target : MfrSerializedData} {answer : Answer}

theorem mfrCreateKey_unset (hunset : serialNumber.buf = none) :
    Crypto.mfrCreateKey aes memory serialNumber = none := by
  simp only [Crypto.mfrCreateKey, hunset]

theorem cryptBytes_unset (hunset : serialNumber.buf = none) {nBytes : Int} {src : List UInt8}
    (h : Crypto.cryptBytes aes direction memory serialNumber nBytes src target = some answer) :
    answer.1 ≠ .none := by
  simp only [Crypto.cryptBytes, mfrCreateKey_unset hunset] at h
  split at h
  · obtain rfl := Option.some.inj h
    simp
  · split at h
    · obtain rfl := Option.some.inj h
      simp
    · cases h

/-- No call succeeds: it fails, or reads the serial number that is not there. -/
theorem crypt_unset (hunset : serialNumber.buf = none)
    (h : crypt aes direction memory serialNumber source target = some answer) :
    answer.1 ≠ .none := by
  simp only [crypt] at h
  split at h
  · obtain rfl := Option.some.inj h
    simp
  · split at h
    · split at h
      · cases h
      · split at h
        · obtain rfl := Option.some.inj h
          simp
        · split at h
          · obtain rfl := Option.some.inj h
            simp
          · split at h
            · cases h
            · exact cryptBytes_unset hunset h
    · exact cryptBytes_unset hunset h

theorem cryptBytes_undefined (hunset : serialNumber.buf = none) {nBytes : Int} {src : List UInt8}
    (hdvd : nBytes.tmod Crypto.aesBlockSize = 0) (houtput : memory.output ≠ none) :
    Crypto.cryptBytes aes direction memory serialNumber nBytes src target = none := by
  obtain ⟨bytes, hbytes⟩ := Option.ne_none_iff_exists'.mp houtput
  simp only [Crypto.cryptBytes, hbytes, hdvd, mfrCreateKey_unset hunset]
  rfl

/-- With all the memory it asks for, a call reads the serial number. -/
theorem crypt_undefined (hunset : serialNumber.buf = none) {text : List UInt8}
    (hmax : (roundUp text.length : Int) ≤ intMax)
    (hgranted : memory.Succeeds serialNumber text.length) :
    crypt aes direction memory serialNumber (.of text) target = none := by
  have hle : (text.length : Int) ≤ intMax :=
    Int.le_trans (Int.ofNat_le.mpr (Crypto.le_roundUp _)) hmax
  simp only [crypt, MfrSerializedData.of, Crypto.toInt_of_le hle]
  by_cases hdvd : Crypto.aesBlockSize ∣ text.length
  · have htmod := Crypto.tmod_eq_zero_iff.mpr hdvd
    rw [if_neg (not_not.mpr htmod)]
    exact cryptBytes_undefined hunset htmod hgranted.output
  · have htmod : (roundUp text.length : Int).tmod Crypto.aesBlockSize = 0 :=
      Crypto.tmod_eq_zero_iff.mpr (Crypto.dvd_roundUp _)
    obtain ⟨bytes, hbytes⟩ := Option.ne_none_iff_exists'.mp (hgranted.padded hdvd)
    have hpos : 0 < text.length := Nat.pos_of_ne_zero fun h => hdvd (h ▸ Nat.dvd_zero _)
    have hcopies : memory.copies (roundUp text.length) text.length = true := by
      simp [Crypto.Env.copies, hgranted.text_copied hdvd, hpos, Crypto.le_roundUp]
    simp only [Crypto.fixed_size hdvd, hbytes, Crypto.toSize_of_le hmax, hcopies]
    rw [if_pos (mt Crypto.tmod_eq_zero_iff.mp hdvd), if_neg (Int.not_lt.mpr hmax), Bool.not_true,
      if_neg Bool.false_ne_true, if_neg (Nat.lt_irrefl _)]
    exact cryptBytes_undefined hunset htmod hgranted.output

end Unset

theorem strcpyS_str {n : Nat} {dest name : Buf UInt8 n} {src : List UInt8} (hsrc : 0 ∉ src)
    (h : strcpyS dest src = some name) : name.str 0 = src := by
  obtain ⟨hlen, rfl⟩ := of_guard h
  have hfits : (src ++ [0]).length ≤ n := by
    rw [List.length_append]
    exact hlen
  rw [Buf.str, Buf.chars_write hfits, List.append_assoc, List.singleton_append, cstr_append_nul,
    cstr_eq_self 0 hsrc]

theorem withCrypto_given (env : Env) {crypto : Buf UInt8 64} {name : List UInt8} {func : Srv.Func}
    (hcrypto : crypto.str 0 = name) (hname : name ≠ []) :
    withCrypto env crypto name func = .ok true ∨
      ∃ retCode, withCrypto env crypto name func = .error retCode ∧ retCode ≠ .success := by
  rw [withCrypto, hcrypto, if_neg hname, if_pos rfl]
  cases env.found func with
  | false => exact .inr ⟨_, rfl, by simp⟩
  | true => exact .inl rfl

theorem srvGetSerializedData_guarded (hhonest : vendor.Honest)
    (hcrypto : param.crypto.str 0 = lit "mfrCrypto_Encrypt") :
    (srvGetSerializedData vendor env param v).Guarded (fun a : Answer => a.1 = .none)
      fun r => r.1.1 = .success := by
  unfold srvGetSerializedData
  split_ifs
  · simp [Ask.Guarded]
  · obtain hfunc | ⟨retCode, hfunc, hfails⟩ := withCrypto_given env hcrypto (by decide)
    · rw [hfunc]
      refine (hhonest.read v param.type).map fun r hsuccess => ?_
      cases hread : r.1 with
      | none => simp [hread] at hsuccess
      | some data => rfl
    · rw [hfunc]
      exact hfails
  · simp [Ask.Guarded]

theorem srvSetSerializedData_guarded (hhonest : vendor.Honest)
    (hcrypto : param.crypto.str 0 = lit "mfrCrypto_Decrypt") :
    (srvSetSerializedData vendor env param v).Guarded (fun a : Answer => a.1 = .none)
      fun r => r.1 = .success := by
  unfold srvSetSerializedData
  split_ifs
  · simp [Ask.Guarded]
  · simp [Ask.Guarded]
  · obtain hfunc | ⟨retCode, hfunc, hfails⟩ := withCrypto_given env hcrypto (by decide)
    · rw [hfunc]
      simp [Ask.Guarded]
    · rw [hfunc]
      exact hfails
  · obtain hfunc | ⟨retCode, hfunc, hfails⟩ := withCrypto_given env hcrypto (by decide)
    · rw [hfunc]
      simp only
      cases memcpyS true (toSize param.bufLen) (some param.buffer.chars)
        (toSize param.bufLen) with
      | none => simp [Ask.Guarded]
      | some bytes =>
        refine (hhonest.write v param.type _).map fun r hsuccess => ?_
        cases hwrite : r.1 with
        | none => rfl
        | failed => simp [hwrite] at hsuccess
    · rw [hfunc]
      exact hfails

theorem told_none {retCode : IarmResult}
    (h : (if retCode = .success then MfrError.none else .general) = .none) :
    retCode = .success := by
  by_contra hfailed
  rw [if_neg hfailed] at h
  cases h

theorem receive_none {r : IarmResult × Param} (h : (receive env r).1 = .none) : r.1 = .success := by
  unfold receive at h
  simp only at h
  split at h
  · cases h
  · exact told_none h

theorem mfrGetSerializedData_guarded (hhonest : vendor.Honest) :
    (mfrGetSerializedData vendor env type true v).Guarded (fun a : Answer => a.1 = .none)
      fun r => r.1.1 = .none := by
  unfold mfrGetSerializedData
  split
  · simp [Ask.Guarded]
  · next name hname =>
    have hcrypto : name.str 0 = lit "mfrCrypto_Encrypt" := strcpyS_str (by decide) hname
    cases env.delivered with
    | false => exact Ask.Guarded.map (by simp [Ask.Guarded]) fun r => receive_none
    | true => exact (srvGetSerializedData_guarded hhonest hcrypto).map fun r => receive_none

theorem mfrSetSerializedData_guarded (hhonest : vendor.Honest) (data : MfrSerializedData) :
    (mfrSetSerializedData vendor env type data true v).Guarded (fun a : Answer => a.1 = .none)
      fun r => r.1 = .none := by
  simp only [mfrSetSerializedData]
  generalize toInt (if data.bufLen < maxSerializedBuf then data.bufLen else maxSerializedBuf) =
    bufLen
  cases hname : strcpyS env.stack.crypto (cryptoName true (lit "mfrCrypto_Decrypt")) with
  | none => simp [Ask.Guarded]
  | some name =>
    have hcrypto : name.str 0 = lit "mfrCrypto_Decrypt" := strcpyS_str (by decide) hname
    simp only
    cases memcpyS true maxSerializedBuf data.buf (toSize bufLen) with
    | none => simp [Ask.Guarded]
    | some bytes =>
      cases env.delivered with
      | false => simp [Ask.Guarded, Ask.map]
      | true =>
        simp only [if_true]
        exact (srvSetSerializedData_guarded hhonest hcrypto).map fun r => told_none

section Runs

variable {aes : Crypto.OpenSsl} {s s' : State σ}

/-- The crypto library has no serial number, and its functions have not succeeded.  With a vendor's
library that reports no success without them, no client that asked for them was told of one. -/
structure Unencrypted (vendor : Vendor σ) (s : State σ) : Prop where
  unset : s.serialNumber.buf = none
  failed : ∀ a ∈ s.answers, a.1 ≠ .none
  refused : vendor.Honest → ∀ t ∈ s.told, t.1 = true → t.2 ≠ .none

theorem initCrypto_unset (env : InitEnv) {serialNumber : MfrSerializedData}
    (hunset : serialNumber.buf = none) : (initCrypto env serialNumber).2.buf = none := by
  rw [initCrypto, if_neg (by decide)]
  exact hunset

theorem srvInit_unset (env : InitEnv) (hunset : s.serialNumber.buf = none) :
    (srvInit env s).2.serialNumber.buf = none ∧ (srvInit env s).2.answers = s.answers ∧
      (srvInit env s).2.told = s.told := by
  have hinit := initCrypto_unset env hunset
  unfold srvInit
  split_ifs
  · exact ⟨hunset, rfl, rfl⟩
  · obtain ⟨retVal, serialNumber⟩ := initCrypto env s.serialNumber
    cases retVal <;> exact ⟨hinit, rfl, rfl⟩

theorem Unencrypted.init (v : σ) : Unencrypted vendor (State.init v) where
  unset := rfl
  failed _ ha := absurd ha List.not_mem_nil
  refused _ _ ht := absurd ht List.not_mem_nil

theorem Unencrypted.settle (h : Unencrypted vendor s) {crypto : Bool} {err : MfrError} {v : σ}
    {answers : List Answer} (hfailed : ∀ a ∈ answers, a.1 ≠ .none)
    (hrefused : vendor.Honest → crypto = true → err ≠ .none) :
    Unencrypted vendor (s.settle crypto err v answers) where
  unset := h.unset
  failed a ha := (List.mem_append.mp ha).elim (h.failed a) (hfailed a)
  refused hhonest t ht := by
    obtain ht | ht := List.mem_append.mp ht
    · exact h.refused hhonest t ht
    · obtain rfl := List.mem_singleton.mp ht
      exact hrefused hhonest

theorem Unencrypted.step (h : Unencrypted vendor s) {act : Action}
    (hstep : step aes vendor s act = some s') : Unencrypted vendor s' := by
  cases act with
  | init delivered env =>
    obtain rfl := Option.some.inj hstep
    split_ifs
    · obtain ⟨hunset, hanswers, htold⟩ := srvInit_unset env h.unset
      exact ⟨hunset, hanswers ▸ h.failed, htold ▸ h.refused⟩
    · exact h
  | get env type crypto memory =>
    obtain ⟨⟨⟨reply, v⟩, answers⟩, hrun, rfl⟩ := Option.map_eq_some_iff.mp hstep
    have hfailed := Ask.run_answers (fun k q r hr => crypt_unset h.unset hr) hrun
    refine h.settle hfailed fun hhonest hcrypto => ?_
    subst hcrypto
    exact (mfrGetSerializedData_guarded hhonest).not_success hrun hfailed
  | set env type data crypto memory =>
    obtain ⟨⟨⟨err, v⟩, answers⟩, hrun, rfl⟩ := Option.map_eq_some_iff.mp hstep
    have hfailed := Ask.run_answers (fun k q r hr => crypt_unset h.unset hr) hrun
    refine h.settle hfailed fun hhonest hcrypto => ?_
    subst hcrypto
    exact (mfrSetSerializedData_guarded hhonest data).not_success hrun hfailed
  | shutdown delivered =>
    obtain rfl := Option.some.inj hstep
    exact ⟨h.unset, h.failed, h.refused⟩

/-- Over any run, with any vendor's library, no data is ever encrypted or decrypted for a client:
`_mfr_init` does not get as far as `mfrCrypto_init`, and without a serial number the functions of
the crypto library fail, or where all the memory they ask for is there read through a null
pointer. -/
theorem crypto_never_succeeds {as : List Action} (v : σ)
    (hrun : run (step aes vendor) (State.init v) as = some s) :
    Unencrypted vendor s ∧
      ∀ (direction : Direction) (memory : Crypto.Env) (text : List UInt8)
        (target : MfrSerializedData), (roundUp text.length : Int) ≤ intMax →
          memory.Succeeds s.serialNumber text.length →
            crypt aes direction memory s.serialNumber (.of text) target = none := by
  have hs : Unencrypted vendor s :=
    run_invariant (Unencrypted vendor) (fun _ _ _ h hstep => h.step hstep) (.init v) hrun
  exact ⟨hs, fun _ _ _ _ hmax hgranted => crypt_undefined hs.unset hmax hgranted⟩

def encrypting (bytes : List UInt8) : Vendor Unit where
  read _ _ := (some (.of bytes), ())
  readWith _ _ := .ask ⟨.of bytes, ⟨none, 0⟩⟩ fun a =>
    .done (if a.1 = .none then some a.2 else none, ())
  write _ _ _ := (.none, ())
  writeWith _ _ data := .ask ⟨data, ⟨none, 0⟩⟩ fun a =>
    .done (if a.1 = .none then .none else .failed, ())

theorem encrypting_honest (bytes : List UInt8) : (encrypting bytes).Honest where
  read _ _ a := by
    by_cases hnone : a.1 = .none
    · exact .inl hnone
    · exact .inr (by simp [Ask.Guarded, hnone])
  write _ _ _ a := by
    by_cases hnone : a.1 = .none
    · exact .inl hnone
    · exact .inr (by simp [Ask.Guarded, hnone])

def noMemory : Crypto.Env := ⟨fun _ => true, none, none, .zeroed 0 16, .zeroed 0 16⟩

def readRun : List Action :=
  [.init true ⟨true, true, noMemory, Env.granted.stack, 0⟩,
    .get .granted 0 false fun _ => noMemory, .get .granted 0 true fun _ => noMemory]

theorem crypto_never_succeeds_readRun : ∃ s,
    run (step Crypto.sampleAes (encrypting [1, 2])) (State.init ()) readRun = some s ∧
      s.told = [(false, .none), (true, .general)] ∧
      ∀ t ∈ s.told, t.1 = true → t.2 ≠ .none :=
  ⟨_, rfl, rfl, (crypto_never_succeeds () (show run (step Crypto.sampleAes (encrypting [1, 2]))
    (State.init ()) readRun = some _ from rfl)).1.refused (encrypting_honest [1, 2])⟩

end Runs

end IarmMgrs.MfrMgr.Encryption
