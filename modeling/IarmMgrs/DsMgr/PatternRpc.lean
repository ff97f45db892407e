import IarmMgrs.DsMgr.BootPattern
import IarmMgrs.MfrMgr.Settings

/-! The boot-loader pattern between the two daemons: the calls of `dsMgrProductTraitsHandler.cpp`
with their retry thread, and `setBootloaderPattern_` of `mfrMgr.c` at the other end of their RPC,
which serves other clients too.  The bus may lose a call, or the answer to it; an RPC with its
answer is one step. -/

namespace IarmMgrs.DsMgr.PatternRpc

open Lib
open BootPattern (Pattern)
open DeviceUpdateMgr.EventData (Safec)
open MfrMgr.Flash (Load)
open MfrMgr.Settings (Kind Value Param Call Finds)

/-- What an RPC meets: whether the bus brings it to the mfr daemon and the answer back, what the
lookup finds there, and what the vendor's function answers. -/
structure Rpc where
  delivered : Bool
  answered : Bool
  load : Load
  err : Int

/-- `served` is history: the calls the mfr daemon has served. -/
structure State where
  dsMgr : BootPattern.State
  mfrMgr : MfrMgr.Settings.State
  served : List ((kind : Kind) × Call kind)

def State.init (storedPattern : Pattern) : State where
  dsMgr := .init storedPattern
  mfrMgr := .init
  served := []

inductive Action
  | beginFaultTolerant
  | faultTolerant (rpc : Rpc)
  | startCall (t : Nat) (pattern : Pattern)
  | advanceCall (t : Nat) (rpc : Rpc)
  | other (kind : Kind) (c : Call kind)

section Steps

variable (safec : Safec) (faultTolerantPattern : Pattern)

/-- The call that reaches the mfr daemon, and what the dsMgr is told. -/
def serve (rpc : Rpc) (pattern : Pattern) (s : State) : State × Bool :=
  if rpc.delivered then
    let c : Call .bootloaderPattern := .setBootloaderPattern rpc.load pattern rpc.err
    let (mfrMgr, retCode, _) := MfrMgr.Settings.handle safec c s.mfrMgr
    ({ s with mfrMgr := mfrMgr, served := s.served ++ [⟨_, c⟩] },
      rpc.answered && retCode = .success)
  else (s, false)

def faultTolerantSends (s : State) : Option Pattern :=
  match s.dsMgr.shared.faultTolerant with
  | .calling | .attempting _ => some faultTolerantPattern
  | _ => none

def callSends (t : Nat) (s : State) : Option Pattern :=
  match s.dsMgr.threads t with
  | some (.callRpc pattern _) => some pattern
  | _ => none

def stepDsMgr (sends : Option Pattern) (rpc : Rpc) (act : Bool → BootPattern.Action) (s : State) :
    Option State :=
  let (s, success) := match sends with
    | some pattern => serve safec rpc pattern s
    | none => (s, false)
  (BootPattern.step true faultTolerantPattern s.dsMgr (act success)).map fun dsMgr =>
    { s with dsMgr := dsMgr }

def step (s : State) : Action → Option State
  | .beginFaultTolerant =>
    (BootPattern.step true faultTolerantPattern s.dsMgr .beginFaultTolerant).map fun dsMgr =>
      { s with dsMgr := dsMgr }
  | .faultTolerant rpc =>
    stepDsMgr safec faultTolerantPattern (faultTolerantSends faultTolerantPattern s) rpc
      .faultTolerant s
  | .startCall t pattern =>
    (BootPattern.step true faultTolerantPattern s.dsMgr (.call (.start t pattern))).map fun dsMgr =>
      { s with dsMgr := dsMgr }
  | .advanceCall t rpc =>
    stepDsMgr safec faultTolerantPattern (callSends t s) rpc (fun success =>
      .call (.advance t success)) s
  | .other kind c =>
    some { s with
      mfrMgr := (MfrMgr.Settings.handle safec c s.mfrMgr).1
      served := s.served ++ [⟨kind, c⟩] }

end Steps

section Purpose

/-- What the dsMgr takes for stored is what the vendor's library has taken last, or what the
device has come up with as long as it has taken nothing. -/
def Agreed (initial : Pattern) (s : State) : Prop :=
  s.dsMgr.shared.storedPattern = (s.mfrMgr.taken .bootloaderPattern).getD initial

/-- A pattern that reaches the vendor's library and is taken there unheard of is the one that the
dsMgr takes for stored anyway. -/
def Unheard (s : State) (load : Load) (err : Int) (pattern : Pattern) : Prop :=
  Finds s.mfrMgr .mfrSetBootloaderPattern load → err = 0 → pattern = s.dsMgr.shared.storedPattern

/-- The answer to an RPC that sends a pattern comes back. -/
def Rpc.Heard (s : State) (sends : Option Pattern) (rpc : Rpc) : Prop :=
  ∀ pattern, sends = some pattern → rpc.delivered = true → rpc.answered = false →
    Unheard s rpc.load rpc.err pattern

/-- The library takes no pattern of another client, and none of the dsMgr without an answer, but
one that the dsMgr takes for stored anyway. -/
def Heard (faultTolerantPattern : Pattern) (s : State) : Action → Prop
  | .faultTolerant rpc => rpc.Heard s (faultTolerantSends faultTolerantPattern s)
  | .advanceCall t rpc => rpc.Heard s (callSends t s)
  | .other _ (.setBootloaderPattern load pattern err) => Unheard s load err pattern
  | _ => True

end Purpose

end IarmMgrs.DsMgr.PatternRpc
