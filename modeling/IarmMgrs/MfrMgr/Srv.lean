import IarmMgrs.Lib.Lock
import IarmMgrs.MfrMgr.Flash

/-! The RPC handlers of `mfrSrv.c` and the lock they share.  The library with the vendor's
functions has a name only where `RDK_MFRLIB_NAME` is defined. -/

namespace IarmMgrs.MfrMgr.Srv

open Lib Lib.CString Lib.Lock Flash

def maxSerializedBuf : Int := 1280

inductive Func
  | getSerializedData | setSerializedData | encrypt | decrypt | writeImage
  | getImageWriteProgress | setImageWriteProgress | deletePDRI | scrubAllBanks | shutdown
  | reboot | setCableCardType | setHostFirmwareInfo | getBootImageName | getPathConfiguration
  | getDFAST2Data
  deriving DecidableEq

/-- `m_initialized`, and which of the `static` function pointers are set. -/
structure Statics where
  initialized : Bool
  func : Func → Bool

def Statics.init : Statics := ⟨false, fun _ => false⟩

/-- What a step is told: whether `find_func`, `memcpy_s` and `malloc` succeed, what the
vendor's function returns, and the progress its callback last reported. -/
structure Answer where
  found : Bool
  copied : Bool
  allocated : Bool
  err : MfrError
  progress : Progress
  deriving DecidableEq

abbrev Program := Prog Statics Answer IarmResult

structure SerializedDataParam where
  crypto : Buf UInt8 64
  bufLen : Int

structure WriteImageParam where
  name : Buf UInt8 maxBuf
  path : Buf UInt8 maxBuf

structure ImageParam where
  imageName : Buf UInt8 maxBuf

structure HostFirmwareInfoParam where
  maxStrSize : Nat
  version : Buf UInt8 maxStrSize

section Parts

/-- The shared exit of the handlers. -/
def unlockReturn (retCode : IarmResult) : Program := .unlock (.ret retCode)

/-- The text between `#else` and `#endif`. -/
def guarded (mfrlibName : Bool) (body : Program) : Program :=
  if mfrlibName then body else .ret .invalidState

/-- `if (func == 0) func = find_func(..)`. -/
def findFunc (func : Func) (next missing : Program) : Program :=
  .read fun s =>
    if s.func func then next
    else .ask fun a =>
      if a.found then .write (fun s => { s with func := Function.update s.func func true }) next
      else missing

def handler (mfrlibName : Bool) (func : Func) (prepare : Program → Program)
    (finish : Answer → Program) : Program :=
  guarded mfrlibName
    (.lock (findFunc func (prepare (.critical finish)) (unlockReturn .invalidState)))

/-- `return IARM_RESULT_INVALID_PARAM` behind an unlock. -/
def checked (valid : Bool) (next : Program) : Program :=
  if valid then next else unlockReturn .invalidParam

def copied (next : Program) : Program :=
  .ask fun a => if a.copied then next else unlockReturn .invalidParam

def returnErr (a : Answer) : Program :=
  if a.err = .none then unlockReturn .success else unlockReturn .invalidState

/-- An unlock in the branch of success, in front of the shared exit. -/
def unlockOnSuccess (a : Answer) : Program :=
  if a.err = .none then .unlock (unlockReturn .success) else unlockReturn .invalidState

def withCrypto (crypto : Buf UInt8 64) (name : List UInt8) (func : Func) (next : Program) :
    Program :=
  if crypto.str 0 = [] then next
  else if crypto.str 0 = name then findFunc func next (unlockReturn .invalidState)
  else unlockReturn .invalidParam

end Parts

section Handlers

/-- `retVal` is a failure where it is compared, so `mfrCrypto_init` is not called. -/
def mfrInit : Program :=
  .lock <| .read fun s =>
    if s.initialized then unlockReturn .success
    else .write (fun s => { s with initialized := true }) (unlockReturn .success)

variable (mfrlibName : Bool)

def mfrGetSerializedData : Option SerializedDataParam → Program
  | none => handler mfrlibName .getSerializedData (fun _ => unlockReturn .invalidParam) returnErr
  | some param =>
    handler mfrlibName .getSerializedData
      (fun call => checked (param.crypto.Terminated 0)
        (withCrypto param.crypto (lit "mfrCrypto_Encrypt") .encrypt call))
      fun a => if a.err = .none then copied (unlockReturn .success) else unlockReturn .invalidState

def mfrSetSerializedData : Option SerializedDataParam → Program
  | none => handler mfrlibName .setSerializedData (fun _ => unlockReturn .invalidParam) returnErr
  | some param =>
    handler mfrlibName .setSerializedData
      (fun call => checked
        (0 < param.bufLen ∧ param.bufLen ≤ maxSerializedBuf ∧ param.crypto.Terminated 0)
        (withCrypto param.crypto (lit "mfrCrypto_Decrypt") .decrypt
          (.ask fun a => if a.allocated then copied call else unlockReturn .invalidState)))
      returnErr

def isValidWriteImageParam : Option WriteImageParam → Bool
  | none => false
  | some param => param.name.Terminated 0 ∧ param.path.Terminated 0

def mfrWriteImage (pParam : Option WriteImageParam) : Program :=
  handler mfrlibName .writeImage (checked (isValidWriteImageParam pParam)) fun a =>
    if a.err = .none then
      .poll (fun a => a.progress = .notStarted) <| .poll (fun a => a.progress = .started) <|
        .ask fun a =>
          unlockReturn (if a.progress = .completed then .success else .ipccoreFail)
    else unlockReturn .invalidState

def isValidImageParam : Option ImageParam → Bool
  | none => false
  | some param => param.imageName.Terminated 0

def mfrGetImageWriteProgress (pParam : Option ImageParam) : Program :=
  handler mfrlibName .getImageWriteProgress (checked (isValidImageParam pParam)) returnErr

def mfrSetImageWriteProgress (pParam : Option ImageParam) : Program :=
  handler mfrlibName .setImageWriteProgress (checked (isValidImageParam pParam)) returnErr

def mfrDeletePDRI : Program := handler mfrlibName .deletePDRI id unlockOnSuccess

def mfrScrubAllBanks : Program := handler mfrlibName .scrubAllBanks id unlockOnSuccess

/-- Only the second lock stands behind `#else`. -/
def mfrShutdown : Program :=
  .lock (handler mfrlibName .shutdown id unlockOnSuccess)

def mfrReboot (pParam : Option ImageParam) : Program :=
  handler mfrlibName .reboot (checked (isValidImageParam pParam)) unlockOnSuccess

def mfrSetCableCardType : Program := handler mfrlibName .setCableCardType id returnErr

def mfrSetHostFirmwareInfo : Option HostFirmwareInfoParam → Program
  | none => handler mfrlibName .setHostFirmwareInfo (fun _ => unlockReturn .invalidParam) returnErr
  | some param =>
    handler mfrlibName .setHostFirmwareInfo
      (fun call => checked (param.version.Terminated 0) (copied call)) returnErr

def mfrGetBootImageName : Program := handler mfrlibName .getBootImageName id returnErr

def mfrGetPathConfiguration : Program := handler mfrlibName .getPathConfiguration id returnErr

def mfrGetDFAST2Data : Program := handler mfrlibName .getDFAST2Data copied returnErr

end Handlers

/-- The calls of the handlers.  Those that read their parameter unchecked are given one. -/
inductive Call
  | init
  | getSerializedData (arg : Option SerializedDataParam)
  | setSerializedData (arg : Option SerializedDataParam)
  | writeImage (arg : Option WriteImageParam)
  | getImageWriteProgress (arg : Option ImageParam)
  | setImageWriteProgress (arg : Option ImageParam)
  | deletePDRI
  | scrubAllBanks
  | shutdown
  | reboot (arg : Option ImageParam)
  | setCableCardType
  | setHostFirmwareInfo (arg : Option HostFirmwareInfoParam)
  | getBootImageName
  | getPathConfiguration
  | getDFAST2Data

def program (mfrlibName : Bool) : Call → Program
  | .init => mfrInit
  | .getSerializedData arg => mfrGetSerializedData mfrlibName arg
  | .setSerializedData arg => mfrSetSerializedData mfrlibName arg
  | .writeImage arg => mfrWriteImage mfrlibName arg
  | .getImageWriteProgress arg => mfrGetImageWriteProgress mfrlibName arg
  | .setImageWriteProgress arg => mfrSetImageWriteProgress mfrlibName arg
  | .deletePDRI => mfrDeletePDRI mfrlibName
  | .scrubAllBanks => mfrScrubAllBanks mfrlibName
  | .shutdown => mfrShutdown mfrlibName
  | .reboot arg => mfrReboot mfrlibName arg
  | .setCableCardType => mfrSetCableCardType mfrlibName
  | .setHostFirmwareInfo arg => mfrSetHostFirmwareInfo mfrlibName arg
  | .getBootImageName => mfrGetBootImageName mfrlibName
  | .getPathConfiguration => mfrGetPathConfiguration mfrlibName
  | .getDFAST2Data => mfrGetDFAST2Data mfrlibName

abbrev State := Lock.State Call Statics Answer IarmResult

abbrev Action := Pool.Action Call Answer

def init : State := Lock.init .init

def step (mfrlibName : Bool) : State → Action → Option State := Lock.step (program mfrlibName)

def Startable (mfrlibName : Bool) : Call → Prop
  | .init => True
  | .shutdown => False
  | _ => mfrlibName = true

/-- The vendor's functions behind `_mfrDeletePDRI`, `_mfrScrubAllBanks` and `_mfrReboot` do
not succeed. -/
def HalAnswer : Call → Answer → Prop
  | .deletePDRI, a | .scrubAllBanks, a | .reboot _, a => a.err ≠ .none
  | _, _ => True

def Meets (mfrlibName : Bool) (s : State) (a : Action) : Prop :=
  Starts (Startable mfrlibName) a ∧ Lock.Meets HalAnswer s a

end IarmMgrs.MfrMgr.Srv
