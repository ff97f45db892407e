import IarmMgrs.Bus
import IarmMgrs.Lib.CInt
import IarmMgrs.Lib.Pool
import IarmMgrs.SysMgr.StatesLaws
import Mathlib.Algebra.Group.Int.Defs

/-! `GetSerialNumber` of `sysMgr.c` in the build with `USE_MFR_FOR_SERIAL`: any number of calls
and the events of `_sysEventHandler`.  Each section under `tMutexLock` is one step, and so is the
bus call between the two of `GetSerialNumber`. -/

namespace IarmMgrs.SysMgr.SerialNumber

open Lib Lib.CString Lib.Transition Bus States

/-- What `IARM_Bus_Call` returns and leaves in `param`, whose buffer has `n` characters. -/
structure Response (n : Nat) where
  iarmRet : IarmResult
  bufLen : Int
  buffer : Buf UInt8 n
  deriving DecidableEq

section Calls

variable {n : Nat}

/-- `param.buffer`, ended behind the answer; the comparison is of unsigned numbers. -/
def Response.terminated (r : Response n) : Buf UInt8 n :=
  let bufLen := (r.bufLen % 2 ^ CInt.sizeBits).toNat
  r.buffer.setChar (if n ≤ bufLen then n - 1 else bufLen) 0

def serialPayload (r : Response n) : Buf UInt8 payloadSize :=
  (Buf.zeroed 0 payloadSize).write ((cstr 0 r.terminated.chars).take (payloadSize - 1))

/-- The second section. -/
def storeSerial (r : Response n) (v : StateProperty) : StateProperty :=
  if r.iarmRet = .success then { v with payload := serialPayload r, error := 0 }
  else { v with error := 1 }

inductive Place (n : Nat)
  | check
  | call
  | store (response : Response n)
  deriving DecidableEq

def Filled (s : SystemStates) : Prop := (s .stbSerialNo).payload.str 0 ≠ []

instance (s : SystemStates) : Decidable (Filled s) := inferInstanceAs (Decidable (_ ≠ _))

def enter (_ : Unit) (_ : SystemStates) : Place n := .check

def move : Place n → Response n → SystemStates → Option (SystemStates × Option (Place n))
  | .check, _, s => some (s, if Filled s then none else some .call)
  | .call, response, s => some (s, some (.store response))
  | .store response, _, s =>
    some (Function.update s .stbSerialNo (storeSerial response (s .stbSerialNo)), none)

abbrev State (n : Nat) := Pool SystemStates (Place n)

def State.init : State n := Pool.init SystemStates.start

inductive Action (n : Nat)
  | event (e : Event)
  | serial (act : Pool.Action Unit (Response n))

def step (p : State n) : Action n → Option (State n)
  | .event e => some { p with shared := sysEventHandler p.shared e }
  | .serial act => Pool.step enter move p act

def Kept (p : State n) : Action n → Prop
  | .event _ => True
  | .serial act => Filled p.shared → ∀ p', step p (.serial act) = some p' →
      (p'.shared .stbSerialNo).payload = (p.shared .stbSerialNo).payload ∧
        (p'.shared .stbSerialNo).error = (p.shared .stbSerialNo).error

def Agrees (r : Response n) (v : StateProperty) : Prop :=
  if r.iarmRet = .success then v.payload = serialPayload r ∧ v.error = 0 else v.error = 1

instance (r : Response n) (v : StateProperty) : Decidable (Agrees r v) :=
  inferInstanceAs (Decidable (if r.iarmRet = .success then _ ∧ _ else _ = _))

def Place.Undisturbed (s : SystemStates) : Place n → Prop
  | .store response => Filled s → Agrees response (s .stbSerialNo)
  | .check | .call => True

instance (s : SystemStates) : ∀ pc : Place n, Decidable (pc.Undisturbed s)
  | .store _ => inferInstanceAs (Decidable (_ → _))
  | .check | .call => inferInstanceAs (Decidable True)

def Undisturbed (p : State n) : Action n → Prop
  | .serial (.advance t _) => ∀ pc ∈ p.threads t, pc.Undisturbed p.shared
  | .serial (.start _ _) | .event _ => True

instance (p : State n) : ∀ a, Decidable (Undisturbed p a)
  | .serial (.advance t _) => inferInstanceAs (Decidable (∀ pc ∈ p.threads t, _))
  | .serial (.start _ _) | .event _ => inferInstanceAs (Decidable True)

end Calls

end IarmMgrs.SysMgr.SerialNumber
