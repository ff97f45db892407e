import IarmMgrs.Lib.CString
import IarmMgrs.Lib.Heap
import IarmMgrs.Lib.Transition
import Mathlib.Logic.Function.Basic

/-! The flash operations of `mfrMgr.c`: `writeImage_`, `verifyImage_` and `mirrorImage`
start an operation of the HAL, which reports its progress to `writeImageCb`.  A request
and a callback are one step each.  Between them the memory of the argument is the bus's, and what
a callback finds there is part of its label. -/

namespace IarmMgrs.MfrMgr.Flash

open Lib Lib.CString

def maxBuf : Nat := 255

inductive IarmResult where | success | invalidParam | invalidState | ipccoreFail
  deriving DecidableEq

inductive Progress
  | notStarted | started | aborted | verifying | flashing | rebooting | completed | max
  deriving DecidableEq

/-- The last report of an operation has one of these values. -/
def Progress.terminal (p : Progress) : Bool := p = .completed || p = .aborted

structure MfrUpgradeStatus where
  progress : Progress
  error : Int
  errorString : Buf UInt8 32
  percentage : Int

structure WriteImageParam where
  name : Buf UInt8 maxBuf
  path : Buf UInt8 maxBuf
  type : Int
  callerModuleName : Buf UInt8 maxBuf
  interval : Int
  cbData : Buf UInt8 maxBuf

/-- The argument of a handler, and where it stands.  Its `cbData` stands at a fixed distance from
there, so that `address` does for both. -/
structure WriteImageArg extends WriteImageParam where
  address : Addr

/-- `cbData` is a pointer into the argument of the request. -/
structure MfrUpgradeStatusNotify where
  cbData : Option Addr
  interval : Int
  cb : Bool

inductive Kind where | write | verify | mirror
  deriving DecidableEq

/-- What `dlopen` and `dlsym` return. -/
inductive Load where | loaded | noLibrary | noSymbol
  deriving DecidableEq

inductive MfrError where | none | failed
  deriving DecidableEq

structure Request where
  kind : Kind
  arg : Option WriteImageArg
  load : Load
  err : MfrError

/-- From `halCalls` on the fields are history: the calls of HAL entry points, the accepted
operations that have not reported a terminal progress, and the broadcasts. -/
structure State where
  lastStatus : Progress
  notifyStruct : MfrUpgradeStatusNotify
  func : Kind → Bool
  halCalls : List Kind
  inProgress : List Nat
  nextOperation : Nat
  broadcasts : List (MfrUpgradeStatus × List UInt8)

def State.init : State where
  lastStatus := .notStarted
  notifyStruct := ⟨none, 0, false⟩
  func := fun _ => false
  halCalls := []
  inProgress := []
  nextOperation := 0
  broadcasts := []

def isValidWriteImageParam (param : WriteImageParam) : Bool :=
  param.name.Terminated 0 && param.path.Terminated 0 && param.callerModuleName.Terminated 0 &&
    param.cbData.Terminated 0

def loadFunc (kind : Kind) (load : Load) (s : State) : Option State :=
  if s.func kind then some s
  else if load = .loaded then some { s with func := Function.update s.func kind true }
  else none

def fillNotifyStruct (param : WriteImageArg) (s : State) : State :=
  { s with notifyStruct := ⟨some param.address, param.interval, true⟩ }

def callHal (kind : Kind) (err : MfrError) (s : State) : State × IarmResult :=
  let s := { s with halCalls := s.halCalls ++ [kind] }
  match err with
  | .failed => (s, .ipccoreFail)
  | .none =>
    ({ s with
      inProgress := s.nextOperation :: s.inProgress
      nextOperation := s.nextOperation + 1 }, .success)

/-- What all three do once their tests of `lastStatus` are passed; `mfrlibName` says
whether `RDK_MFRLIB_NAME` is defined, and `prepare` is what precedes the call. -/
def startOperation (kind : Kind) (prepare : WriteImageArg → State → State) (mfrlibName : Bool)
    (arg : Option WriteImageArg) (load : Load) (err : MfrError) (s : State) :
    State × IarmResult :=
  if !mfrlibName then (s, .invalidState)
  else
    match loadFunc kind load s with
    | none => (s, .invalidState)
    | some s =>
      match arg with
      | none => (s, .invalidParam)
      | some param =>
        if !isValidWriteImageParam param.toWriteImageParam then (s, .invalidParam)
        else callHal kind err (prepare param s)

def guardedOperation (kind : Kind) (mfrlibName : Bool) (arg : Option WriteImageArg) (load : Load)
    (err : MfrError) (s : State) : State × IarmResult :=
  if s.lastStatus = .verifying ∨ s.lastStatus = .flashing then (s, .invalidState)
  else
    startOperation kind (fun param s => { fillNotifyStruct param s with lastStatus := .notStarted })
      mfrlibName arg load err s

def writeImage : Bool → Option WriteImageArg → Load → MfrError → State → State × IarmResult :=
  guardedOperation .write

def verifyImage : Bool → Option WriteImageArg → Load → MfrError → State → State × IarmResult :=
  guardedOperation .verify

/-- Neither tests `lastStatus` nor resets it. -/
def mirrorImage : Bool → Option WriteImageArg → Load → MfrError → State → State × IarmResult :=
  startOperation .mirror fillNotifyStruct

def handle (mfrlibName : Bool) (r : Request) (s : State) : State × IarmResult :=
  match r.kind with
  | .write => writeImage mfrlibName r.arg r.load r.err s
  | .verify => verifyImage mfrlibName r.arg r.load r.err s
  | .mirror => mirrorImage mfrlibName r.arg r.load r.err s

/-- What `strncpy` finds behind `cbData` for `param.cbData`. -/
def cbDataText (memory : Addr → Buf UInt8 maxBuf) (s : State) : List UInt8 :=
  match s.notifyStruct.cbData with
  | some address => ((memory address).copyWhole 0 (memory address).chars).str 0
  | none => []

/-- A report of the given operation, with the memory as it is then. -/
def writeImageCb (operation : Nat) (status : MfrUpgradeStatus) (memory : Addr → Buf UInt8 maxBuf)
    (s : State) : State :=
  { s with
    broadcasts := s.broadcasts ++ [(status, cbDataText memory s)]
    lastStatus := status.progress
    inProgress := if status.progress.terminal then s.inProgress.erase operation else s.inProgress }

inductive Action
  | request (r : Request)
  | callback (operation : Nat) (status : MfrUpgradeStatus) (memory : Addr → Buf UInt8 maxBuf)

def step (mfrlibName : Bool) (s : State) : Action → Option State
  | .request r => some (handle mfrlibName r s).1
  | .callback operation status memory => some (writeImageCb operation status memory s)

end IarmMgrs.MfrMgr.Flash
