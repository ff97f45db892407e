import IarmMgrs.Lib.Ask
import IarmMgrs.Lib.Transition
import IarmMgrs.MfrMgr.SerializedData

/-! Serialized data that a client of `mfrCli.c` has encrypted: what `_mfr_init` of `mfrSrv.c` does
for the crypto library, and the way of the data through the vendor's library, which is given a
function of `mfrCrypto.c` and may apply it.  The vendor's library does not call
`mfrCrypto_init` on its own. -/

namespace IarmMgrs.MfrMgr.Encryption

open Lib Lib.CString Lib.Cbc
open Crypto (MfrSerializedData MfrError Block toInt toSize)
open Flash (IarmResult)
open SerializedData

structure Query where
  source : MfrSerializedData
  target : MfrSerializedData

abbrev Answer := MfrError × MfrSerializedData

/-- The vendor's functions, over what the library keeps.  A read that fails gives no data.  A
call that is given a function may apply it any number of times. -/
structure Vendor (σ : Type) where
  read : σ → Int → Option MfrSerializedData × σ
  readWith : σ → Int → Ask Query Answer (Option MfrSerializedData × σ)
  write : σ → Int → MfrSerializedData → Flash.MfrError × σ
  writeWith : σ → Int → MfrSerializedData → Ask Query Answer (Flash.MfrError × σ)

section Handlers

variable {σ : Type} (vendor : Vendor σ) (env : Env)

def Vendor.getSerializedData (v : σ) (type : Int) (func : Bool) :
    Ask Query Answer (Option MfrSerializedData × σ) :=
  if func then vendor.readWith v type else .done (vendor.read v type)

def Vendor.setSerializedData (v : σ) (type : Int) (data : MfrSerializedData) (func : Bool) :
    Ask Query Answer (Flash.MfrError × σ) :=
  if func then vendor.writeWith v type data else .done (vendor.write v type data)

def srvGetSerializedData (param : Param) (v : σ) : Ask Query Answer ((IarmResult × Param) × σ) :=
  if !env.mfrlibName || !env.found .getSerializedData then .done ((.invalidState, param), v)
  else if ¬ param.crypto.Terminated 0 then .done ((.invalidParam, param), v)
  else
    match withCrypto env param.crypto (lit "mfrCrypto_Encrypt") .encrypt with
    | .error retCode => .done ((retCode, param), v)
    | .ok func =>
      (vendor.getSerializedData v param.type func).map fun r =>
        (match r.1 with
          | none => (.invalidState, param)
          | some data => giveData data param, r.2)

def srvSetSerializedData (param : Param) (v : σ) : Ask Query Answer (IarmResult × σ) :=
  if !env.mfrlibName || !env.found .setSerializedData then .done (.invalidState, v)
  else if param.bufLen ≤ 0 ∨ maxSerializedBuf < param.bufLen ∨ ¬ param.crypto.Terminated 0 then
    .done (.invalidParam, v)
  else
    match withCrypto env param.crypto (lit "mfrCrypto_Decrypt") .decrypt with
    | .error retCode => .done (retCode, v)
    | .ok func =>
      if !env.allocated then .done (.invalidState, v)
      else
        let bufLen := toSize param.bufLen
        match memcpyS true bufLen (some param.buffer.chars) bufLen with
        | none => .done (.invalidParam, v)
        | some bytes =>
          (vendor.setSerializedData v param.type ⟨some bytes, bufLen⟩ func).map fun r =>
            (match r.1 with
              | .none => .success
              | .failed => .invalidState, r.2)

/-- `mfrGetSerializedData` of the client, behind its RPC. -/
def receive (r : IarmResult × Param) : MfrError × MfrSerializedData :=
  let bufLen := toSize r.2.bufLen
  match memcpyS env.allocated bufLen (some r.2.buffer.chars) bufLen with
  | none => (.general, ⟨none, 0⟩)
  | some bytes => (if r.1 = .success then .none else .general, ⟨some bytes, bufLen⟩)

def mfrGetSerializedData (type : Int) (crypto : Bool) (v : σ) :
    Ask Query Answer ((MfrError × MfrSerializedData) × σ) :=
  match strcpyS env.stack.crypto (cryptoName crypto (lit "mfrCrypto_Encrypt")) with
  | none => .done ((.general, ⟨none, 0⟩), v)
  | some name =>
    let param : Param := { env.stack with type := type, crypto := name, bufLen := 0 }
    let call := if env.delivered then srvGetSerializedData vendor env param v
      else .done ((.ipccoreFail, param), v)
    call.map fun r => (receive env r.1, r.2)

def mfrSetSerializedData (type : Int) (data : MfrSerializedData) (crypto : Bool) (v : σ) :
    Ask Query Answer (MfrError × σ) :=
  let bufLen := toInt (if data.bufLen < maxSerializedBuf then data.bufLen else maxSerializedBuf)
  match strcpyS env.stack.crypto (cryptoName crypto (lit "mfrCrypto_Decrypt")) with
  | none => .done (.general, v)
  | some name =>
    match memcpyS true maxSerializedBuf data.buf (toSize bufLen) with
    | none => .done (.general, v)
    | some bytes =>
      let param : Param := ⟨type, name, bufLen, env.stack.buffer.write bytes⟩
      let call := if env.delivered then srvSetSerializedData vendor env param v
        else .done (.ipccoreFail, v)
      call.map fun r => (if r.1 = .success then .none else .general, r.2)

end Handlers

/-- What `_mfr_init` meets: whether `find_func` finds `mfrCrypto_init`, what it gets from `malloc`
and safec, and what the stack holds for `param` and for `data.bufLen`. -/
structure InitEnv where
  found : Bool
  allocated : Bool
  crypto : Crypto.Env
  stack : Param
  bufLen : Nat

/-- The state of the server: `m_initialized`, whether its calls are registered and the bus is
connected, `serialNumber` of the crypto library, and what the vendor's library keeps.  The rest is
history: what the functions of the crypto library answered, and what the clients were told, with
whether they asked for them. -/
structure State (σ : Type) where
  initialized : Bool
  registered : Bool
  connected : Bool
  serialNumber : MfrSerializedData
  vendor : σ
  answers : List Answer
  told : List (Bool × MfrError)

def State.init {σ : Type} (v : σ) : State σ := ⟨false, false, true, ⟨none, 0⟩, v, [], []⟩

section Server

variable {σ : Type}

/-- The block of `_mfr_init` that initialises the crypto library.  `data.buf` is freed behind the
call, so that a serial number which has been taken is left without its memory. -/
def initCrypto (env : InitEnv) (serialNumber : MfrSerializedData) :
    IarmResult × MfrSerializedData :=
  let retVal : IarmResult := .ipccoreFail
  if retVal = .success then
    if env.found then
      let bufLen := toSize env.stack.bufLen
      match memcpyS env.allocated bufLen (some env.stack.buffer.chars) bufLen with
      | none => (.invalidParam, serialNumber)
      | some bytes =>
        match Crypto.mfrCryptoInit env.crypto (some ⟨some bytes, env.bufLen⟩) serialNumber with
        | (.none, serialNumber) => (.success, { serialNumber with buf := none })
        | (_, serialNumber) => (.success, serialNumber)
    else (.success, serialNumber)
  else (.success, serialNumber)

def srvInit (env : InitEnv) (s : State σ) : IarmResult × State σ :=
  if s.initialized then (.success, s)
  else
    let s := { s with registered := true }
    match initCrypto env s.serialNumber with
    | (.success, serialNumber) =>
      (.success, { s with serialNumber := serialNumber, initialized := true })
    | (retVal, serialNumber) => (retVal, { s with serialNumber := serialNumber })

/-- Calls of a client; `memory` is what each application of a function of the crypto library
gets. -/
inductive Action
  | init (delivered : Bool) (env : InitEnv)
  | get (env : Env) (type : Int) (crypto : Bool) (memory : Nat → Crypto.Env)
  | set (env : Env) (type : Int) (data : MfrSerializedData) (crypto : Bool)
      (memory : Nat → Crypto.Env)
  | shutdown (delivered : Bool)

variable (aes : Crypto.OpenSsl) (vendor : Vendor σ)

def State.reaches (s : State σ) (env : Env) : Env :=
  { env with delivered := env.delivered && s.registered && s.connected }

def State.settle (s : State σ) (crypto : Bool) (err : MfrError) (v : σ) (answers : List Answer) :
    State σ :=
  { s with vendor := v, answers := s.answers ++ answers, told := s.told ++ [(crypto, err)] }

/-- `none` is undefined behaviour. -/
def step (s : State σ) : Action → Option (State σ)
  | .init delivered env =>
    some (if delivered && s.connected then (srvInit env s).2 else s)
  | .get env type crypto memory =>
    ((mfrGetSerializedData vendor (s.reaches env) type crypto s.vendor).run
      (fun k q => Crypto.mfrCryptoEncrypt aes (memory k) s.serialNumber q.source q.target) 0).map
      fun r => s.settle crypto r.1.1.1 r.1.2 r.2
  | .set env type data crypto memory =>
    ((mfrSetSerializedData vendor (s.reaches env) type data crypto s.vendor).run
      (fun k q => Crypto.mfrCryptoDecrypt aes (memory k) s.serialNumber q.source q.target) 0).map
      fun r => s.settle crypto r.1.1 r.1.2 r.2
  | .shutdown delivered => some { s with connected := s.connected && !delivered }

end Server

section Purpose

variable {σ : Type}

/-- A library that reports no success unless the function it was given has succeeded. -/
structure Vendor.Honest (vendor : Vendor σ) : Prop where
  read : ∀ v type, (vendor.readWith v type).Guarded (fun a : Answer => a.1 = .none)
    fun r => r.1.isSome = true
  write : ∀ v type data, (vendor.writeWith v type data).Guarded (fun a : Answer => a.1 = .none)
    fun r => r.1 = .none

def Vendor.ofHal (hal : Hal) : Vendor Unit where
  read _ type := (hal.getSerializedData type false, ())
  readWith _ type := .done (hal.getSerializedData type true, ())
  write _ type data := (hal.setSerializedData type data false, ())
  writeWith _ type data := .done (hal.setSerializedData type data true, ())

end Purpose

end IarmMgrs.MfrMgr.Encryption
