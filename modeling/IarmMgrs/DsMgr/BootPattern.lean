import IarmMgrs.Lib.Pool

/-! The boot-loader pattern in `dsMgrProductTraitsHandler.cpp`: one call of
`set_bootloader_pattern_fault_tolerant` with the retry thread it leaves behind, against any
number of `set_bootloader_pattern` calls.  The mfr RPC is one step, outside the mutex for
the calls and under it for the retry thread, which holds the mutex from its test of
`invalidateAsyncBootloaderPattern` on. -/

namespace IarmMgrs.DsMgr.BootPattern

open Lib

inductive Pattern | normal | silent | silentLedOn | logoDisabled
  deriving DecidableEq

def retryLimit : Nat := 12

/-- Where the fault-tolerant call stands; from `sleeping` on it is the retry thread. -/
inductive FaultTolerant
  | notCalled
  | calling
  | failed
  | sleeping (remainingRetries : Nat)
  | attempting (remainingRetries : Nat)
  | finished
  deriving DecidableEq

/-- From `overruled` on the fields are history: a `set_bootloader_pattern` call that began
after the fault-tolerant call has succeeded, the pattern of the latest one to succeed, the
attempts of the retry thread, and whether the fault-tolerant side has set its pattern
although it was overruled. -/
structure Controller where
  storedPattern : Pattern
  invalidateAsyncBootloaderPattern : Bool
  faultTolerant : FaultTolerant
  overruled : Bool
  latest : Option Pattern
  attempts : Nat
  setOverruled : Bool
  deriving DecidableEq

def Controller.init (storedPattern : Pattern) : Controller :=
  ⟨storedPattern, false, .notCalled, false, none, 0, false⟩

/-- A call of `set_bootloader_pattern`, before it sets the flag and before its RPC. -/
inductive Call
  | invalidate (pattern : Pattern) (after : Bool)
  | callRpc (pattern : Pattern) (after : Bool)
  deriving DecidableEq

abbrev State := Pool Controller Call

def State.init (storedPattern : Pattern) : State := Pool.init (Controller.init storedPattern)

def FaultTolerant.holdsMutex : FaultTolerant → Bool
  | .attempting _ => true
  | _ => false

/-- `_set_bootloader_pattern`; `success` is the outcome of the RPC. -/
def setBootloaderPatternRpc (enableSilentRebootSupport success : Bool) (pattern : Pattern)
    (s : Controller) : Controller × Bool :=
  if enableSilentRebootSupport then
    (if success then { s with storedPattern := pattern } else s, success)
  else (s, true)

section Steps

variable (enableSilentRebootSupport : Bool)

def enterCall (pattern : Pattern) (s : Controller) : Call :=
  .invalidate pattern (s.faultTolerant ≠ .notCalled)

def moveCall : Call → Bool → Controller → Option (Controller × Option Call)
  | .invalidate pattern after, _, s =>
    if s.faultTolerant.holdsMutex then none
    else some ({ s with invalidateAsyncBootloaderPattern := true }, some (.callRpc pattern after))
  | .callRpc pattern after, success, s =>
    let (s', ret) := setBootloaderPatternRpc enableSilentRebootSupport success pattern s
    some (if ret then { s' with overruled := s.overruled || after, latest := some pattern }
      else s', none)

def faultTolerantRpc (success : Bool) (pattern : Pattern) (s : Controller) : Controller × Bool :=
  let (s', ret) := setBootloaderPatternRpc enableSilentRebootSupport success pattern s
  (if ret then { s' with setOverruled := s.setOverruled || s.overruled } else s', ret)

def moveFaultTolerant (pattern : Pattern) (success : Bool) (s : Controller) : Option Controller :=
  match s.faultTolerant with
  | .notCalled | .finished => none
  | .calling =>
    let (s', ret) := faultTolerantRpc enableSilentRebootSupport success pattern s
    if ret then some { s' with faultTolerant := .finished }
    else some { s' with faultTolerant := .failed }
  | .failed =>
    some { s with invalidateAsyncBootloaderPattern := false, faultTolerant := .sleeping retryLimit }
  | .sleeping remainingRetries =>
    if s.invalidateAsyncBootloaderPattern then some { s with faultTolerant := .finished }
    else some { s with faultTolerant := .attempting remainingRetries }
  | .attempting remainingRetries =>
    let (s', ret) := faultTolerantRpc enableSilentRebootSupport success pattern s
    if ret = false ∧ 0 < remainingRetries - 1 then
      some { s' with
        attempts := s.attempts + 1
        faultTolerant := .sleeping (remainingRetries - 1) }
    else some { s' with attempts := s.attempts + 1, faultTolerant := .finished }

inductive Action
  | beginFaultTolerant
  | faultTolerant (success : Bool)
  | call (act : Pool.Action Pattern Bool)
  deriving DecidableEq

def step (pattern : Pattern) (p : State) : Action → Option State
  | .beginFaultTolerant =>
    if p.shared.faultTolerant = .notCalled then
      some { p with shared := { p.shared with faultTolerant := .calling } }
    else none
  | .faultTolerant success =>
    (moveFaultTolerant enableSilentRebootSupport pattern success p.shared).map fun s =>
      { p with shared := s }
  | .call act => Pool.step enterCall (moveCall enableSilentRebootSupport) p act

end Steps

/-- The call has set the flag, and began after the fault-tolerant call. -/
def Call.Overruling : Call → Prop
  | .callRpc _ after => after = true
  | .invalidate _ _ => False

/-- The first RPC of the fault-tolerant call succeeds only while it is not overruled, and
it clears the flag only while no later call is between its flag and its success. -/
def NotOvertaken (p : State) : Action → Prop
  | .faultTolerant success =>
    (p.shared.faultTolerant = .calling → success = true → p.shared.overruled = false) ∧
      (p.shared.faultTolerant = .failed →
        p.shared.overruled = false ∧ ¬ p.Any Call.Overruling)
  | _ => True

end IarmMgrs.DsMgr.BootPattern
