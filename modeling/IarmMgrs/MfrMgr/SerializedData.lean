import IarmMgrs.MfrMgr.Crypto
import IarmMgrs.MfrMgr.Srv

/-! Serialized data between a client and the HAL: `mfrGetSerializedData` and
`mfrSetSerializedData` of `mfrCli.c`, and the handlers of `mfrSrv.c` behind them.  The vendor's
library and the bus are parameters. -/

namespace IarmMgrs.MfrMgr.SerializedData

open Lib.CString
open Crypto (MfrSerializedData MfrError toInt toSize)
open Flash (IarmResult)
open Srv (Func)

def maxSerializedBuf : Nat := 1280

structure Param where
  type : Int
  crypto : Buf UInt8 64
  bufLen : Int
  buffer : Buf UInt8 maxSerializedBuf

/-- The vendor's functions; the flag tells whether they are given a function of the crypto
library.  A read that fails gives no data. -/
structure Hal where
  setSerializedData : Int → MfrSerializedData → Bool → Flash.MfrError
  getSerializedData : Int → Bool → Option MfrSerializedData

/-- What the two sides meet during a call: whether `RDK_MFRLIB_NAME` is defined, whether the
bus brings the call to the server and its answer back, what `find_func` finds and `malloc`
grants, and what the stack of the client holds for `param`. -/
structure Env where
  mfrlibName : Bool
  delivered : Bool
  found : Func → Bool
  allocated : Bool
  stack : Param

/-- `memcpy_s(dest, max, src, count)`: the bytes it copies, unless it refuses.  `src` is what
stands behind the pointer, a null pointer being `none`. -/
def memcpyS (dest : Bool) (max : Nat) (src : Option (List UInt8)) (count : Nat) :
    Option (List UInt8) :=
  src.bind fun bytes => if dest ∧ 0 < count ∧ count ≤ max then some (bytes.take count) else none

def strcpyS {n : Nat} (dest : Buf UInt8 n) (src : List UInt8) : Option (Buf UInt8 n) :=
  if src.length < n then some (dest.write (src ++ [0])) else none

section Server

variable (hal : Hal) (env : Env)

/-- The part of the two handlers that looks at the `crypto` member. -/
def withCrypto (crypto : Buf UInt8 64) (name : List UInt8) (func : Func) : Except IarmResult Bool :=
  if crypto.str 0 = [] then .ok false
  else if crypto.str 0 = name then if env.found func then .ok true else .error .invalidState
  else .error .invalidParam

/-- What `_mfrGetSerializedData` does with data it has read; `max_len` is compared as a `size_t`
and stored as an `int`. -/
def giveData (data : MfrSerializedData) (param : Param) : IarmResult × Param :=
  let maxLen := toInt (min maxSerializedBuf data.bufLen)
  match memcpyS true maxSerializedBuf data.buf (toSize maxLen) with
  | none => (.invalidParam, param)
  | some bytes => (.success, { param with bufLen := maxLen, buffer := param.buffer.write bytes })

def srvGetSerializedData (param : Param) : IarmResult × Param :=
  if !env.mfrlibName || !env.found .getSerializedData then (.invalidState, param)
  else if ¬ param.crypto.Terminated 0 then (.invalidParam, param)
  else
    match withCrypto env param.crypto (lit "mfrCrypto_Encrypt") .encrypt with
    | .error retCode => (retCode, param)
    | .ok func =>
      match hal.getSerializedData param.type func with
      | none => (.invalidState, param)
      | some data => giveData data param

def srvSetSerializedData (param : Param) : IarmResult × Option MfrSerializedData :=
  if !env.mfrlibName || !env.found .setSerializedData then (.invalidState, none)
  else if param.bufLen ≤ 0 ∨ maxSerializedBuf < param.bufLen ∨ ¬ param.crypto.Terminated 0 then
    (.invalidParam, none)
  else
    match withCrypto env param.crypto (lit "mfrCrypto_Decrypt") .decrypt with
    | .error retCode => (retCode, none)
    | .ok func =>
      if !env.allocated then (.invalidState, none)
      else
        let bufLen := toSize param.bufLen
        match memcpyS true bufLen (some param.buffer.chars) bufLen with
        | none => (.invalidParam, none)
        | some bytes =>
          let data : MfrSerializedData := ⟨some bytes, bufLen⟩
          match hal.setSerializedData param.type data func with
          | .none => (.success, some data)
          | .failed => (.invalidState, some data)

end Server

section Client

variable (hal : Hal) (env : Env) (type : Int)

/-- The name the client puts in the `crypto` member. -/
def cryptoName (crypto : Bool) (name : List UInt8) : List UInt8 := if crypto then name else []

def mfrGetSerializedData (crypto : Bool) : MfrError × MfrSerializedData :=
  match strcpyS env.stack.crypto (cryptoName crypto (lit "mfrCrypto_Encrypt")) with
  | none => (.general, ⟨none, 0⟩)
  | some name =>
    let param : Param := { env.stack with type := type, crypto := name, bufLen := 0 }
    let (rpcRet, param) :=
      if env.delivered then srvGetSerializedData hal env param else (.ipccoreFail, param)
    let bufLen := toSize param.bufLen
    match memcpyS env.allocated bufLen (some param.buffer.chars) bufLen with
    | none => (.general, ⟨none, 0⟩)
    | some bytes => (if rpcRet = .success then .none else .general, ⟨some bytes, bufLen⟩)

def mfrSetSerializedData (data : MfrSerializedData) (crypto : Bool) :
    MfrError × Option MfrSerializedData :=
  let bufLen := toInt (if data.bufLen < maxSerializedBuf then data.bufLen else maxSerializedBuf)
  match strcpyS env.stack.crypto (cryptoName crypto (lit "mfrCrypto_Decrypt")) with
  | none => (.general, none)
  | some name =>
    match memcpyS true maxSerializedBuf data.buf (toSize bufLen) with
    | none => (.general, none)
    | some bytes =>
      let param : Param := ⟨type, name, bufLen, env.stack.buffer.write bytes⟩
      let (rpcRet, received) :=
        if env.delivered then srvSetSerializedData hal env param else (.ipccoreFail, none)
      (if rpcRet = .success then .none else .general, received)

end Client

def SetsWhole (bytes : List UInt8) : Prop :=
  ∀ hal env type, (mfrSetSerializedData hal env type (.of bytes) false).1 = .none →
    (mfrSetSerializedData hal env type (.of bytes) false).2 = some (.of bytes)

def GetsWhole (bytes : List UInt8) : Prop :=
  ∀ hal env type, hal.getSerializedData type false = some (.of bytes) →
    (mfrGetSerializedData hal env type false).1 = .none →
      (mfrGetSerializedData hal env type false).2 = .of bytes

end IarmMgrs.MfrMgr.SerializedData
