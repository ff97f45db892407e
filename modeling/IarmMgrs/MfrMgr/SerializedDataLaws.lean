import IarmMgrs.MfrMgr.CryptoLaws
import IarmMgrs.MfrMgr.SerializedData

namespace IarmMgrs.MfrMgr.SerializedData

open Lib Lib.CString
open Crypto (MfrSerializedData MfrError toInt toSize)
open Flash (IarmResult)

variable {hal : Hal} {env : Env} {type : Int} {bytes : List UInt8} {max count : Nat}

theorem of_eq (bytes : List UInt8) : MfrSerializedData.of bytes = ⟨some bytes, bytes.length⟩ := rfl

theorem memcpyS_some (hcount : 0 < count) (hmax : count ≤ max) :
    memcpyS true max (some bytes) count = some (bytes.take count) := by
  simp [memcpyS, hcount, hmax]

theorem memcpyS_zero (dest : Bool) (src : Option (List UInt8)) :
    memcpyS dest max src 0 = none := by
  simp [memcpyS]

theorem toSize_of_le (h : count ≤ maxSerializedBuf) : toSize count = count :=
  Crypto.toSize_of_le (by simp only [maxSerializedBuf, Crypto.intMax] at *; omega)

theorem toInt_of_le (h : count ≤ maxSerializedBuf) : toInt count = count :=
  Crypto.toInt_of_le (by simp only [maxSerializedBuf, Crypto.intMax] at *; omega)

def NoCrypto (crypto : Buf UInt8 64) : Prop := crypto.Terminated 0 ∧ crypto.str 0 = []

theorem strcpyS_nil (dest : Buf UInt8 64) :
    ∃ name, strcpyS dest [] = some name ∧ NoCrypto name := by
  have hchars : (dest.write [0]).chars = 0 :: dest.chars.drop 1 := Buf.chars_write (by simp)
  refine ⟨dest.write [0], rfl, ?_, ?_⟩
  · simp [Buf.Terminated, hchars]
  · simp [Buf.str, hchars, cstr]

theorem withCrypto_noCrypto {crypto : Buf UInt8 64} (h : NoCrypto crypto) (name : List UInt8)
    (func : Srv.Func) : withCrypto env crypto name func = .ok false := by
  simp [withCrypto, h.2]

def clamp (bytes : List UInt8) : List UInt8 := bytes.take maxSerializedBuf

theorem length_clamp (bytes : List UInt8) :
    (clamp bytes).length = min maxSerializedBuf bytes.length := List.length_take

theorem clamp_eq_self_iff : clamp bytes = bytes ↔ bytes.length ≤ maxSerializedBuf :=
  List.take_eq_self_iff bytes

theorem length_clamp_le (bytes : List UInt8) : (clamp bytes).length ≤ maxSerializedBuf := by
  rw [length_clamp]
  exact Nat.min_le_left _ _

theorem length_clamp_pos (hne : bytes ≠ []) : 0 < (clamp bytes).length := by
  have := List.length_pos_of_ne_nil hne
  rw [length_clamp, maxSerializedBuf]
  omega

theorem take_length_clamp (bytes : List UInt8) : bytes.take (clamp bytes).length = clamp bytes :=
  (List.prefix_iff_eq_take.mp (List.take_prefix maxSerializedBuf bytes)).symm

theorem memcpyS_clamp (hne : bytes ≠ []) :
    memcpyS true maxSerializedBuf (some bytes) (clamp bytes).length = some (clamp bytes) := by
  rw [memcpyS_some (length_clamp_pos hne) (length_clamp_le bytes), take_length_clamp]

theorem memcpyS_buffer (dest : Bool) (buffer : Buf UInt8 maxSerializedBuf) (hne : bytes ≠ []) :
    memcpyS dest (clamp bytes).length (some (buffer.write (clamp bytes)).chars)
        (clamp bytes).length = if dest then some (clamp bytes) else none := by
  rw [Buf.chars_write (length_clamp_le bytes)]
  cases dest with
  | false => simp [memcpyS]
  | true => rw [memcpyS_some (length_clamp_pos hne) (Nat.le_refl _), List.take_left, if_pos rfl]

theorem srvSetSerializedData_unserved {param : Param}
    (hserves : ¬ (env.mfrlibName && env.found .setSerializedData) = true) :
    srvSetSerializedData hal env param = (.invalidState, none) := by
  rw [Bool.and_eq_true, not_and_or, Bool.not_eq_true, Bool.not_eq_true] at hserves
  rcases hserves with hname | hfound
  · simp [srvSetSerializedData, hname]
  · simp [srvSetSerializedData, hfound]

theorem srvSetSerializedData_invalid {param : Param}
    (hserves : (env.mfrlibName && env.found .setSerializedData) = true)
    (hinvalid : ¬ (0 < param.bufLen ∧ param.bufLen ≤ maxSerializedBuf ∧
      param.crypto.Terminated 0)) :
    srvSetSerializedData hal env param = (.invalidParam, none) := by
  have hrefused : param.bufLen ≤ 0 ∨ maxSerializedBuf < param.bufLen ∨
      ¬ param.crypto.Terminated 0 := by
    by_cases hterminated : param.crypto.Terminated 0
    · by_cases hpos : 0 < param.bufLen
      · exact .inr (.inl (Int.not_le.mp fun hmax => hinvalid ⟨hpos, hmax, hterminated⟩))
      · exact .inl (Int.not_lt.mp hpos)
    · exact .inr (.inr hterminated)
  rw [Bool.and_eq_true] at hserves
  simp only [srvSetSerializedData, hserves.1, hserves.2, Bool.not_true, Bool.or_self,
    Bool.false_eq_true, if_false, if_pos hrefused]

theorem srvSetSerializedData_valid {param : Param} (hpos : 0 < param.bufLen)
    (hmax : param.bufLen ≤ maxSerializedBuf) (hterminated : param.crypto.Terminated 0)
    (hserves : (env.mfrlibName && env.found .setSerializedData) = true) :
    srvSetSerializedData hal env param =
      match withCrypto env param.crypto (lit "mfrCrypto_Decrypt") .decrypt with
      | .error retCode => (retCode, none)
      | .ok func =>
        let data : MfrSerializedData :=
          ⟨some (param.buffer.chars.take (toSize param.bufLen)), toSize param.bufLen⟩
        if env.allocated then
          (if hal.setSerializedData param.type data func = .none then .success else .invalidState,
            some data)
        else (.invalidState, none) := by
  have hvalid : ¬ (param.bufLen ≤ 0 ∨ maxSerializedBuf < param.bufLen ∨
      ¬ param.crypto.Terminated 0) := by
    rintro (h | h | h)
    · omega
    · omega
    · exact h hterminated
  have hsize : 0 < toSize param.bufLen := by
    have hmax : param.bufLen ≤ 1280 := hmax
    simp only [toSize, CInt.sizeBits]
    omega
  rw [Bool.and_eq_true] at hserves
  simp only [srvSetSerializedData, hserves.1, hserves.2, Bool.not_true, Bool.or_self,
    Bool.false_eq_true, if_false, if_neg hvalid]
  cases withCrypto env param.crypto (lit "mfrCrypto_Decrypt") .decrypt with
  | error retCode => rfl
  | ok func =>
    rw [memcpyS_some hsize (Nat.le_refl _)]
    cases hallocated : env.allocated with
    | false => rfl
    | true =>
      dsimp only
      cases hal.setSerializedData param.type
          ⟨some (param.buffer.chars.take (toSize param.bufLen)), toSize param.bufLen⟩ func with
      | none => rfl
      | failed => rfl

theorem srvSetSerializedData_clamp {crypto : Buf UInt8 64} (hcrypto : NoCrypto crypto)
    (buffer : Buf UInt8 maxSerializedBuf) (hne : bytes ≠ []) :
    srvSetSerializedData hal env
        ⟨type, crypto, (clamp bytes).length, buffer.write (clamp bytes)⟩ =
      if env.mfrlibName && env.found .setSerializedData && env.allocated then
        (if hal.setSerializedData type (.of (clamp bytes)) false = .none then .success
          else .invalidState, some (.of (clamp bytes)))
      else (.invalidState, none) := by
  by_cases hserves : (env.mfrlibName && env.found .setSerializedData) = true
  · have hchars : (buffer.write (clamp bytes)).chars.take (clamp bytes).length = clamp bytes := by
      rw [Buf.chars_write (length_clamp_le bytes), List.take_left]
    rw [srvSetSerializedData_valid (Int.ofNat_lt.mpr (length_clamp_pos hne))
      (Int.ofNat_le.mpr (length_clamp_le bytes)) hcrypto.1 hserves]
    simp only [withCrypto_noCrypto hcrypto, toSize_of_le (length_clamp_le bytes), hchars, hserves,
      Bool.true_and, of_eq]
    rfl
  · simp [srvSetSerializedData_unserved hserves, hserves]

theorem giveData_clamp (data : MfrSerializedData) {param : Param} (hne : bytes ≠ [])
    (hbuf : data.buf = some bytes) (hbufLen : data.bufLen = bytes.length) :
    giveData data param =
      (.success, { param with
        bufLen := (clamp bytes).length
        buffer := param.buffer.write (clamp bytes) }) := by
  have hlength : toInt (min maxSerializedBuf bytes.length) = (clamp bytes).length := by
    rw [← length_clamp, toInt_of_le (length_clamp_le bytes)]
  simp only [giveData, hbuf, hbufLen, hlength, toSize_of_le (length_clamp_le bytes),
    memcpyS_clamp hne]

theorem srvGetSerializedData_clamp {crypto : Buf UInt8 64} (hcrypto : NoCrypto crypto)
    (bufLen : Int) (buffer : Buf UInt8 maxSerializedBuf) (hne : bytes ≠ [])
    (hget : hal.getSerializedData type false = some (.of bytes)) :
    srvGetSerializedData hal env ⟨type, crypto, bufLen, buffer⟩ =
      if env.mfrlibName && env.found .getSerializedData then
        (.success, ⟨type, crypto, (clamp bytes).length, buffer.write (clamp bytes)⟩)
      else (.invalidState, ⟨type, crypto, bufLen, buffer⟩) := by
  simp only [srvGetSerializedData, hcrypto.1, not_true, if_false, withCrypto_noCrypto hcrypto,
    hget, giveData_clamp (.of bytes) hne rfl rfl]
  by_cases hname : env.mfrlibName = true
  · by_cases hfound : env.found .getSerializedData = true
    · simp [hname, hfound]
    · simp [hname, hfound]
  · simp [hname]

def Env.serves (env : Env) (func : Srv.Func) : Bool :=
  env.delivered && (env.mfrlibName && env.found func && env.allocated)

theorem toInt_clamp (bytes : List UInt8) :
    toInt (if bytes.length < maxSerializedBuf then bytes.length else maxSerializedBuf) =
      (clamp bytes).length := by
  have hlength : (if bytes.length < maxSerializedBuf then bytes.length else maxSerializedBuf) =
      (clamp bytes).length := by
    rw [length_clamp]
    split <;> omega
  rw [hlength, toInt_of_le (length_clamp_le bytes)]

theorem mfrSetSerializedData_clamp (data : MfrSerializedData) (hne : bytes ≠ [])
    (hbuf : data.buf = some bytes) (hbufLen : data.bufLen = bytes.length) :
    mfrSetSerializedData hal env type data false =
      if env.serves .setSerializedData then
        (if hal.setSerializedData type (.of (clamp bytes)) false = .none then .none else .general,
          some (.of (clamp bytes)))
      else (.general, none) := by
  obtain ⟨crypto, hcopy, hcrypto⟩ := strcpyS_nil env.stack.crypto
  have hname : cryptoName false (lit "mfrCrypto_Decrypt") = [] := rfl
  simp only [mfrSetSerializedData, hbuf, hbufLen, toInt_clamp, toSize_of_le (length_clamp_le bytes),
    memcpyS_clamp hne, hname, hcopy, srvSetSerializedData_clamp hcrypto env.stack.buffer hne,
    Env.serves]
  by_cases hdelivered : env.delivered = true
  · simp only [hdelivered, if_true, Bool.true_and]
    by_cases hserves : (env.mfrlibName && env.found .setSerializedData && env.allocated) = true
    · simp only [hserves, if_true]
      by_cases herr : hal.setSerializedData type (.of (clamp bytes)) false = .none
      · simp [herr]
      · simp [herr]
    · simp [hserves]
  · simp [hdelivered]

theorem mfrGetSerializedData_clamp (hne : bytes ≠ [])
    (hget : hal.getSerializedData type false = some (.of bytes)) :
    mfrGetSerializedData hal env type false =
      if env.serves .getSerializedData then (.none, .of (clamp bytes))
      else (.general, ⟨none, 0⟩) := by
  obtain ⟨crypto, hcopy, hcrypto⟩ := strcpyS_nil env.stack.crypto
  have hname : cryptoName false (lit "mfrCrypto_Encrypt") = [] := rfl
  have hempty : toSize 0 = 0 := rfl
  simp only [mfrGetSerializedData, hname, hcopy,
    srvGetSerializedData_clamp hcrypto 0 env.stack.buffer hne hget, Env.serves]
  by_cases hdelivered : env.delivered = true
  · simp only [hdelivered, if_true, Bool.true_and]
    by_cases hserves : (env.mfrlibName && env.found .getSerializedData) = true
    · simp only [hserves, if_true, toSize_of_le (length_clamp_le bytes),
        memcpyS_buffer env.allocated _ hne, Bool.true_and]
      by_cases hallocated : env.allocated = true
      · simp [hallocated, of_eq]
      · simp [hallocated]
    · simp [hserves, hempty, memcpyS_zero]
  · simp [hdelivered, hempty, memcpyS_zero]

section Alone

variable {a : Srv.Answer} {param : Param} (initialized : Bool)

theorem handler_alone (func : Srv.Func) (prepare : Srv.Program → Srv.Program)
    (finish : Srv.Answer → Srv.Program) (hfound : a.found = false) :
    (Srv.handler env.mfrlibName func prepare finish).alone a ⟨initialized, env.found⟩ =
      if env.mfrlibName && env.found func then
        (prepare (.critical finish)).alone a ⟨initialized, env.found⟩
      else .invalidState := by
  cases hname : env.mfrlibName with
  | false => rfl
  | true =>
    by_cases hfunc : env.found func = true
    · simp [Srv.handler, Srv.guarded, Srv.findFunc, Lock.Prog.alone, hfunc]
    · simp [Srv.handler, Srv.guarded, Srv.findFunc, Srv.unlockReturn, Lock.Prog.alone, hfunc,
        hfound]

theorem checked_alone (valid : Bool) (next : Srv.Program) (s : Srv.Statics) :
    (Srv.checked valid next).alone a s = if valid then next.alone a s else .invalidParam := by
  cases valid <;> rfl

theorem withCrypto_alone (name : List UInt8) (func : Srv.Func) {next : Srv.Program}
    (hfound : a.found = false) :
    (Srv.withCrypto param.crypto name func next).alone a ⟨initialized, env.found⟩ =
      match withCrypto env param.crypto name func with
      | .ok _ => next.alone a ⟨initialized, env.found⟩
      | .error retCode => retCode := by
  simp only [Srv.withCrypto, withCrypto]
  split
  · rfl
  · split
    · by_cases hfunc : env.found func = true
      · simp [Srv.findFunc, Lock.Prog.alone, hfunc]
      · simp [Srv.findFunc, Lock.Prog.alone, hfunc, hfound, Srv.unlockReturn]
    · rfl

theorem srvSetSerializedData_alone (hfound : a.found = false) (hcopied : a.copied = true)
    (hallocated : a.allocated = env.allocated)
    (herr : ∀ type data func, hal.setSerializedData type data func = a.err) :
    (Srv.mfrSetSerializedData env.mfrlibName (some ⟨param.crypto, param.bufLen⟩)).alone a
        ⟨initialized, env.found⟩ = (srvSetSerializedData hal env param).1 := by
  rw [Srv.mfrSetSerializedData, handler_alone initialized _ _ _ hfound]
  by_cases hserves : (env.mfrlibName && env.found .setSerializedData) = true
  · rw [if_pos hserves, checked_alone]
    by_cases hvalid : 0 < param.bufLen ∧ param.bufLen ≤ Srv.maxSerializedBuf ∧
        param.crypto.Terminated 0
    · rw [srvSetSerializedData_valid hvalid.1 hvalid.2.1 hvalid.2.2 hserves,
        if_pos (decide_eq_true hvalid), withCrypto_alone initialized _ _ hfound]
      cases withCrypto env param.crypto (lit "mfrCrypto_Decrypt") .decrypt with
      | error retCode => rfl
      | ok func =>
        dsimp only [Lock.Prog.alone]
        rw [hallocated, herr]
        cases env.allocated with
        | false => rfl
        | true =>
          simp only [if_true, Srv.copied, Lock.Prog.alone, hcopied, Srv.returnErr]
          split <;> rfl
    · rw [srvSetSerializedData_invalid hserves hvalid, if_neg (mt of_decide_eq_true hvalid)]
  · rw [if_neg hserves, srvSetSerializedData_unserved hserves]

theorem srvGetSerializedData_alone {data : MfrSerializedData} (hfound : a.found = false)
    (hget : ∀ type func, hal.getSerializedData type func =
      if a.err = .none then some data else none)
    (hcopied : (giveData data param).1 = if a.copied then .success else .invalidParam) :
    (Srv.mfrGetSerializedData env.mfrlibName (some ⟨param.crypto, param.bufLen⟩)).alone a
        ⟨initialized, env.found⟩ = (srvGetSerializedData hal env param).1 := by
  rw [Srv.mfrGetSerializedData, handler_alone initialized _ _ _ hfound]
  by_cases hserves : (env.mfrlibName && env.found .getSerializedData) = true
  · rw [if_pos hserves, checked_alone]
    rw [Bool.and_eq_true] at hserves
    simp only [srvGetSerializedData, hserves.1, hserves.2, Bool.not_true, Bool.or_self,
      Bool.false_eq_true, if_false]
    by_cases hterminated : param.crypto.Terminated 0
    · rw [if_pos (decide_eq_true hterminated), if_neg (not_not.mpr hterminated),
        withCrypto_alone initialized _ _ hfound]
      cases withCrypto env param.crypto (lit "mfrCrypto_Encrypt") .encrypt with
      | error retCode => rfl
      | ok func =>
        simp only [Lock.Prog.alone, hget]
        by_cases herr : a.err = .none
        · simp only [if_pos herr, hcopied]
          cases hcopy : a.copied with
          | false => simp [Srv.copied, Srv.unlockReturn, Lock.Prog.alone, hcopy]
          | true => simp [Srv.copied, Srv.unlockReturn, Lock.Prog.alone, hcopy]
        · simp only [if_neg herr]
          rfl
    · rw [if_neg (mt of_decide_eq_true hterminated), if_pos hterminated]
  · rw [if_neg hserves]
    rw [Bool.and_eq_true, not_and_or, Bool.not_eq_true, Bool.not_eq_true] at hserves
    rcases hserves with hname | hfunc
    · simp [srvGetSerializedData, hname]
    · simp [srvGetSerializedData, hfunc]

end Alone

def Hal.holding (bytes : List UInt8) : Hal := ⟨fun _ _ _ => .none, fun _ _ => some (.of bytes)⟩

def Env.granted : Env :=
  ⟨true, true, fun _ => true, true, ⟨0, .zeroed 0 64, 0, .zeroed 0 maxSerializedBuf⟩⟩

theorem mfrSetSerializedData_granted (hne : bytes ≠ []) (type : Int) :
    mfrSetSerializedData (.holding bytes) .granted type (.of bytes) false =
      (.none, some (.of (clamp bytes))) :=
  mfrSetSerializedData_clamp (.of bytes) hne rfl rfl

theorem mfrGetSerializedData_granted (hne : bytes ≠ []) (type : Int) :
    mfrGetSerializedData (.holding bytes) .granted type false = (.none, .of (clamp bytes)) :=
  mfrGetSerializedData_clamp hne rfl

theorem of_inj {s t : List UInt8} (h : MfrSerializedData.of s = .of t) : s = t :=
  Option.some.inj (congrArg MfrSerializedData.buf h)

theorem setsWhole_iff (hne : bytes ≠ []) :
    SetsWhole bytes ↔ bytes.length ≤ maxSerializedBuf := by
  rw [← clamp_eq_self_iff]
  constructor
  · intro h
    have hgranted := mfrSetSerializedData_granted hne 0
    have hwhole := h (.holding bytes) .granted 0 (congrArg Prod.fst hgranted)
    rw [hgranted] at hwhole
    exact of_inj (Option.some.inj hwhole)
  · intro hclamp hal env type hnone
    rw [mfrSetSerializedData_clamp (.of bytes) hne rfl rfl] at hnone ⊢
    split at hnone
    · next hserves => rw [if_pos hserves, hclamp]
    · cases hnone

theorem getsWhole_iff (hne : bytes ≠ []) :
    GetsWhole bytes ↔ bytes.length ≤ maxSerializedBuf := by
  rw [← clamp_eq_self_iff]
  constructor
  · intro h
    have hgranted := mfrGetSerializedData_granted hne 0
    have hwhole := h (.holding bytes) .granted 0 rfl (congrArg Prod.fst hgranted)
    rw [hgranted] at hwhole
    exact of_inj hwhole
  · intro hclamp hal env type hget hnone
    rw [mfrGetSerializedData_clamp hne hget] at hnone ⊢
    split at hnone
    · next hserves => rw [if_pos hserves, hclamp]
    · cases hnone

/-- Either way the whole of the bytes arrives, in every environment that reports a success,
exactly if they fit the RPC buffer. -/
theorem serializedData_whole_iff (hne : bytes ≠ []) :
    (SetsWhole bytes ↔ bytes.length ≤ maxSerializedBuf) ∧
      (GetsWhole bytes ↔ bytes.length ≤ maxSerializedBuf) :=
  ⟨setsWhole_iff hne, getsWhole_iff hne⟩

theorem serializedData_truncated :
    let bytes := List.replicate 1281 0
    (mfrSetSerializedData (.holding bytes) .granted 0 (.of bytes) false =
        (.none, some (.of (List.replicate 1280 0))) ∧
      mfrGetSerializedData (.holding bytes) .granted 0 false =
        (.none, .of (List.replicate 1280 0))) ∧
      ¬ SetsWhole bytes ∧ ¬ GetsWhole bytes := by
  intro bytes
  have hne : bytes ≠ [] := List.cons_ne_nil _ _
  have hclamp : clamp bytes = List.replicate 1280 0 := by
    rw [clamp, List.take_replicate, maxSerializedBuf]
    rfl
  have hlength : ¬ bytes.length ≤ maxSerializedBuf := by
    rw [List.length_replicate, maxSerializedBuf]
    decide
  rw [← hclamp]
  exact ⟨⟨mfrSetSerializedData_granted hne 0, mfrGetSerializedData_granted hne 0⟩,
    mt (setsWhole_iff hne).mp hlength, mt (getsWhole_iff hne).mp hlength⟩

theorem serializedData_whole_serialNumber :
    SetsWhole (lit "M11435TDS026") ∧ GetsWhole (lit "M11435TDS026") := by
  have hne : lit "M11435TDS026" ≠ [] := by decide
  obtain ⟨hset, hget⟩ := serializedData_whole_iff hne
  exact ⟨hset.mpr (by decide), hget.mpr (by decide)⟩

end IarmMgrs.MfrMgr.SerializedData
