import IarmMgrs.DeviceUpdateMgr.EventData
import IarmMgrs.DsMgr.BootPattern
import IarmMgrs.Lib.Transition
import IarmMgrs.MfrMgr.SerializedData

/-! The settings that `mfrMgr.c` passes on between its callers and the vendor's library: the
handlers that write and read them, each of which loads its entry point at its first use.  A call
is one step and brings the library's answer with it. -/

namespace IarmMgrs.MfrMgr.Settings

open Lib Lib.CString
open DeviceUpdateMgr.EventData (Safec)
open DsMgr.BootPattern (Pattern)
open Flash (IarmResult Load)
open SerializedData (strcpyS)

inductive Kind
  | fsrFlag | secureTime | temperatureThresholds | cpuClockSpeed | configData | wifiCredentials
  | bootloaderPattern
  deriving DecidableEq

structure ThermalSoCTempParam where
  curState : Int
  curSoCTemperature : Int
  curWiFiTemperature : Int
  highTemp : Int
  criticalTemp : Int
  deriving DecidableEq

structure ThermalSoCFreqParam where
  cpuRateNormal : UInt32
  cpuRateScaled : UInt32
  cpuRateMinimal : UInt32
  cpuClockSpeed : UInt32
  deriving DecidableEq

structure WifiData where
  cSSID : Buf UInt8 33
  cPassword : Buf UInt8 129
  iSecurityMode : Int
  deriving DecidableEq

inductive WifiRequestType | getCredentials | setCredentials
  deriving DecidableEq

structure WifiCredentialsParam where
  wifiCredentials : WifiData
  requestType : WifiRequestType
  returnVal : Int
  deriving DecidableEq

abbrev Param : Kind → Type
  | .fsrFlag => Bool
  | .secureTime => UInt64
  | .temperatureThresholds => ThermalSoCTempParam
  | .cpuClockSpeed => ThermalSoCFreqParam
  | .configData => UInt32
  | .wifiCredentials => WifiCredentialsParam
  | .bootloaderPattern => Pattern

abbrev Value : Kind → Type
  | .fsrFlag => UInt16
  | .secureTime => UInt64
  | .temperatureThresholds => Int × Int
  | .cpuClockSpeed => UInt32
  | .configData => UInt32
  | .wifiCredentials => WifiData
  | .bootloaderPattern => Pattern

/-- The entry points that are looked up; those of the WiFi credentials are linked. -/
inductive Func
  | mfrSetFSRflag | mfrGetFSRflag | mfrSetSecureTime | mfrGetSecureTime
  | mfrSetTempThresholds | mfrGetTempThresholds | mfrSetClockSpeed | mfrGetClockSpeed
  | mfrSetConfigData | mfrGetConfigData | mfrSetBootloaderPattern
  deriving DecidableEq

/-- The answer of an entry point that reads: `value` is what it leaves at its argument. -/
structure Given (ν : Type) where
  err : Int
  value : ν

/-- `symbolLookupComplete` is that of `setBootloaderPattern_`.  The rest is history: what the
library was given for a setting and what it answered, and the argument of the last write, unless
the library failed to take it. -/
structure State where
  func : Func → Bool
  symbolLookupComplete : Bool
  written : (kind : Kind) → List (Value kind × Int)
  last : (kind : Kind) → Option (Param kind)

def State.init : State := ⟨fun _ => false, false, fun _ => [], fun _ => none⟩

section Parts

variable {β : Type}

/-- The lookup that the handlers begin with, `refused` being what they return if it fails. -/
def withFunc (func : Func) (load : Load) (refused : β) (s : State) (body : State → State × β) :
    State × β :=
  if s.func func then body s
  else if load = .loaded then body { s with func := Function.update s.func func true }
  else (s, refused)

variable {k : Kind}

def write (value : Value k) (param : Param k) (onError : IarmResult) (err : Int) (s : State) :
    State × IarmResult × Option (Param k) :=
  ({ s with
    written := Function.update s.written k (s.written k ++ [(value, err)])
    last := Function.update s.last k (if err = 0 then some param else none) },
    if err = 0 then .success else onError, some param)

def read (fill : Value k → Param k) (param : Param k) (onError : IarmResult)
    (given : Given (Value k)) (s : State) : State × IarmResult × Option (Param k) :=
  if given.err = 0 then (s, .success, some (fill given.value)) else (s, onError, some param)

end Parts

section Handlers

def setFSRflag (load : Load) (arg : Option Bool) (err : Int) (s : State) :
    State × IarmResult × Option Bool :=
  withFunc .mfrSetFSRflag load (.invalidState, arg) s fun s =>
    match arg with
    | none => (s, .invalidParam, none)
    | some tmp => write (k := .fsrFlag) (if tmp then 1 else 0) tmp .invalidState err s

/-- The flag is read into a variable that holds `(uint16_t)-1`, and is refused if it still does. -/
def getFSRflag (load : Load) (arg : Option Bool) (given : Given UInt16) (s : State) :
    State × IarmResult × Option Bool :=
  withFunc .mfrGetFSRflag load (.invalidState, arg) s fun s =>
    match arg with
    | none => (s, .invalidParam, none)
    | some tmp =>
      let param := given.value
      if given.err = 0 ∧ param ≠ 0xFFFF then (s, .success, some (decide (param ≠ 0)))
      else (s, .invalidState, some tmp)

/-- The library is given the caller's argument itself, and `given` is what it leaves there. -/
def setSecureTime (load : Load) (arg : Option UInt64) (given : Given UInt64) (s : State) :
    State × IarmResult × Option UInt64 :=
  withFunc .mfrSetSecureTime load (.invalidState, arg) s fun s =>
    match arg with
    | none => (s, .invalidState, none)
    | some param =>
      let (s, retCode, _) := write (k := .secureTime) param param .invalidState given.err s
      (s, retCode, some given.value)

def getSecureTime (load : Load) (arg : Option UInt64) (given : Given UInt64) (s : State) :
    State × IarmResult × Option UInt64 :=
  withFunc .mfrGetSecureTime load (.invalidState, arg) s fun s =>
    match arg with
    | none => (s, .invalidState, none)
    | some _ => read (k := .secureTime) id given.value .invalidState given s

def setTemperatureThresholds (load : Load) (arg : Option ThermalSoCTempParam) (err : Int)
    (s : State) : State × IarmResult × Option ThermalSoCTempParam :=
  withFunc .mfrSetTempThresholds load (.invalidState, arg) s fun s =>
    match arg with
    | none => (s, .invalidParam, none)
    | some param =>
      write (k := .temperatureThresholds) (param.highTemp, param.criticalTemp) param
        .ipccoreFail err s

def getTemperatureThresholds (load : Load) (arg : Option ThermalSoCTempParam)
    (given : Given (Int × Int)) (s : State) : State × IarmResult × Option ThermalSoCTempParam :=
  withFunc .mfrGetTempThresholds load (.invalidState, arg) s fun s =>
    match arg with
    | none => (s, .invalidParam, none)
    | some param =>
      read (k := .temperatureThresholds)
        (fun value => { param with highTemp := value.1, criticalTemp := value.2 }) param
        .ipccoreFail given s

def setCPUClockSpeed (load : Load) (arg : Option ThermalSoCFreqParam) (err : Int) (s : State) :
    State × IarmResult × Option ThermalSoCFreqParam :=
  withFunc .mfrSetClockSpeed load (.invalidState, arg) s fun s =>
    match arg with
    | none => (s, .invalidParam, none)
    | some param =>
      write (k := .cpuClockSpeed) param.cpuClockSpeed param .ipccoreFail err s

def getCPUClockSpeed (load : Load) (arg : Option ThermalSoCFreqParam) (given : Given UInt32)
    (s : State) : State × IarmResult × Option ThermalSoCFreqParam :=
  withFunc .mfrGetClockSpeed load (.invalidState, arg) s fun s =>
    match arg with
    | none => (s, .invalidParam, none)
    | some param =>
      read (k := .cpuClockSpeed) (fun value => { param with cpuClockSpeed := value }) param
        .ipccoreFail given s

/-- Neither of the two for `blocklist` tests its argument for null. -/
def setConfigData (load : Load) (arg : UInt32) (err : Int) (s : State) :
    State × IarmResult × Option UInt32 :=
  withFunc .mfrSetConfigData load (.invalidState, some arg) s fun s =>
    write (k := .configData) arg arg .invalidParam err s

def getConfigData (load : Load) (arg : UInt32) (given : Given UInt32) (s : State) :
    State × IarmResult × Option UInt32 :=
  withFunc .mfrGetConfigData load (.invalidState, some arg) s fun s =>
    read (k := .configData) id arg .invalidParam given s

/-- The lookup is made once, whatever it finds; the argument is not tested for null. -/
def setBootloaderPattern (load : Load) (arg : Pattern) (err : Int) (s : State) :
    State × IarmResult × Option Pattern :=
  if s.func .mfrSetBootloaderPattern then
    write (k := .bootloaderPattern) arg arg .invalidParam err s
  else if s.symbolLookupComplete then (s, .invalidState, some arg)
  else
    withFunc .mfrSetBootloaderPattern load (.invalidState, some arg)
      { s with symbolLookupComplete := true }
      fun s => write (k := .bootloaderPattern) arg arg .invalidParam err s

/-- `stack` is what `data` holds before anything is copied into it, and `given` what it holds once
the library has been asked for the credentials. -/
def mfrWifiCredentials (safec : Safec) (stack : WifiData) (arg : Option WifiCredentialsParam)
    (given : Given WifiData) (s : State) : State × IarmResult × Option WifiCredentialsParam :=
  match arg with
  | none => (s, .invalidParam, none)
  | some param =>
    let wifi := param.wifiCredentials
    if param.requestType = .setCredentials then
      if ¬ wifi.cSSID.Terminated 0 ∨ ¬ wifi.cPassword.Terminated 0 then
        (s, .invalidParam, some param)
      else
        match strcpyS stack.cSSID (wifi.cSSID.str 0), strcpyS stack.cPassword (wifi.cPassword.str 0)
        with
        | some cSSID, some cPassword =>
          let data : WifiData := ⟨cSSID, cPassword, wifi.iSecurityMode⟩
          let (s, retCode, _) := write (k := .wifiCredentials) data param .ipccoreFail given.err s
          (s, retCode, some { param with returnVal := given.err })
        | _, _ => (s, .invalidParam, some param)
    else if given.err = 0 then
      let data := given.value
      match strcpyS wifi.cSSID (data.cSSID.str 0) with
      | none =>
        (s, .invalidParam, some
          { param with wifiCredentials := { wifi with cSSID := safec.refused wifi.cSSID } })
      | some cSSID =>
        match strcpyS wifi.cPassword (data.cPassword.str 0) with
        | none =>
          (s, .invalidParam, some
            { param with
              wifiCredentials :=
                { wifi with cSSID := cSSID, cPassword := safec.refused wifi.cPassword } })
        | some cPassword =>
          (s, .success, some
            { param with
              wifiCredentials := ⟨cSSID, cPassword, data.iSecurityMode⟩
              returnVal := given.err })
    else (s, .ipccoreFail, some { param with returnVal := given.err })

end Handlers

inductive Call : Kind → Type
  | setFSRflag (load : Load) (arg : Option Bool) (err : Int) : Call .fsrFlag
  | getFSRflag (load : Load) (arg : Option Bool) (given : Given UInt16) : Call .fsrFlag
  | setSecureTime (load : Load) (arg : Option UInt64) (given : Given UInt64) : Call .secureTime
  | getSecureTime (load : Load) (arg : Option UInt64) (given : Given UInt64) : Call .secureTime
  | setTemperatureThresholds (load : Load) (arg : Option ThermalSoCTempParam) (err : Int) :
      Call .temperatureThresholds
  | getTemperatureThresholds (load : Load) (arg : Option ThermalSoCTempParam)
      (given : Given (Int × Int)) : Call .temperatureThresholds
  | setCPUClockSpeed (load : Load) (arg : Option ThermalSoCFreqParam) (err : Int) :
      Call .cpuClockSpeed
  | getCPUClockSpeed (load : Load) (arg : Option ThermalSoCFreqParam) (given : Given UInt32) :
      Call .cpuClockSpeed
  | setConfigData (load : Load) (arg : UInt32) (err : Int) : Call .configData
  | getConfigData (load : Load) (arg : UInt32) (given : Given UInt32) : Call .configData
  | mfrWifiCredentials (stack : WifiData) (arg : Option WifiCredentialsParam)
      (given : Given WifiData) : Call .wifiCredentials
  | setBootloaderPattern (load : Load) (arg : Pattern) (err : Int) : Call .bootloaderPattern

def handle (safec : Safec) {kind : Kind} :
    Call kind → State → State × IarmResult × Option (Param kind)
  | .setFSRflag load arg err => setFSRflag load arg err
  | .getFSRflag load arg given => getFSRflag load arg given
  | .setSecureTime load arg given => setSecureTime load arg given
  | .getSecureTime load arg given => getSecureTime load arg given
  | .setTemperatureThresholds load arg err => setTemperatureThresholds load arg err
  | .getTemperatureThresholds load arg given => getTemperatureThresholds load arg given
  | .setCPUClockSpeed load arg err => setCPUClockSpeed load arg err
  | .getCPUClockSpeed load arg given => getCPUClockSpeed load arg given
  | .setConfigData load arg err => setConfigData load arg err
  | .getConfigData load arg given => getConfigData load arg given
  | .mfrWifiCredentials stack arg given => mfrWifiCredentials safec stack arg given
  | .setBootloaderPattern load arg err => setBootloaderPattern load arg err

def step (safec : Safec) (s : State) (c : (kind : Kind) × Call kind) : Option State :=
  some (handle safec c.2 s).1

section Purpose

def Call.lookup {kind : Kind} : Call kind → Option (Func × Load)
  | .setFSRflag load _ _ => some (.mfrSetFSRflag, load)
  | .getFSRflag load _ _ => some (.mfrGetFSRflag, load)
  | .setSecureTime load _ _ => some (.mfrSetSecureTime, load)
  | .getSecureTime load _ _ => some (.mfrGetSecureTime, load)
  | .setTemperatureThresholds load _ _ => some (.mfrSetTempThresholds, load)
  | .getTemperatureThresholds load _ _ => some (.mfrGetTempThresholds, load)
  | .setCPUClockSpeed load _ _ => some (.mfrSetClockSpeed, load)
  | .getCPUClockSpeed load _ _ => some (.mfrGetClockSpeed, load)
  | .setConfigData load _ _ => some (.mfrSetConfigData, load)
  | .getConfigData load _ _ => some (.mfrGetConfigData, load)
  | .mfrWifiCredentials .. => none
  | .setBootloaderPattern load _ _ => some (.mfrSetBootloaderPattern, load)

def lookups (func : Func) (cs : List ((kind : Kind) × Call kind)) : List Load :=
  (cs.filterMap fun c => c.2.lookup).filterMap fun l => if l.1 = func then some l.2 else none

def Call.Accepts {kind : Kind} : Call kind → Prop
  | .setFSRflag _ arg err => arg ≠ none ∧ err = 0
  | .getFSRflag _ arg given => arg ≠ none ∧ given.err = 0 ∧ given.value ≠ 0xFFFF
  | .setSecureTime _ arg given => arg ≠ none ∧ given.err = 0
  | .getSecureTime _ arg given => arg ≠ none ∧ given.err = 0
  | .setTemperatureThresholds _ arg err => arg ≠ none ∧ err = 0
  | .getTemperatureThresholds _ arg given => arg ≠ none ∧ given.err = 0
  | .setCPUClockSpeed _ arg err => arg ≠ none ∧ err = 0
  | .getCPUClockSpeed _ arg given => arg ≠ none ∧ given.err = 0
  | .setConfigData _ _ err => err = 0
  | .getConfigData _ _ given => given.err = 0
  | .mfrWifiCredentials _ arg given => ∃ param, arg = some param ∧ given.err = 0 ∧
      if param.requestType = .setCredentials then
        param.wifiCredentials.cSSID.Terminated 0 ∧ param.wifiCredentials.cPassword.Terminated 0
      else given.value.cSSID.Terminated 0 ∧ given.value.cPassword.Terminated 0
  | .setBootloaderPattern _ _ err => err = 0

def Finds (s : State) (func : Func) (load : Load) : Prop :=
  s.func func = true ∨
    load = .loaded ∧ (func = .mfrSetBootloaderPattern → s.symbolLookupComplete = false)

/-- An entry point is found by any lookup that finds it, that of the boot-loader pattern by the
first lookup only. -/
def Found (func : Func) (loads : List Load) : Prop :=
  if func = .mfrSetBootloaderPattern then loads.head? = some .loaded else .loaded ∈ loads

def State.taken (s : State) (kind : Kind) : Option (Value kind) :=
  ((s.written kind).filter fun w => w.2 = 0).getLast?.map Prod.fst

/-- What is the same setting to the library; of a character array it is the text. -/
def SameValue : (kind : Kind) → Value kind → Value kind → Prop
  | .wifiCredentials, v, w =>
    v.cSSID.str 0 = w.cSSID.str 0 ∧ v.cPassword.str 0 = w.cPassword.str 0 ∧
      v.iSecurityMode = w.iSecurityMode
  | _, v, w => v = w

/-- What is read is what the last write of the setting has given the library, if it took that. -/
def State.GivesBack (s : State) {k : Kind} (given : Given (Value k)) : Prop :=
  given.err = 0 → ∀ value, (s.written k).getLast? = some (value, 0) → SameValue k value given.value

/-- A library that keeps what it took gives it back, and `mfrSetSecureTime` leaves the time it is
given. -/
def Call.Kept (s : State) {kind : Kind} : Call kind → Prop
  | .getFSRflag _ _ given => s.GivesBack (k := .fsrFlag) given
  | .setSecureTime _ arg given => given.err = 0 → arg = some given.value
  | .getSecureTime _ _ given => s.GivesBack (k := .secureTime) given
  | .getTemperatureThresholds _ _ given => s.GivesBack (k := .temperatureThresholds) given
  | .getCPUClockSpeed _ _ given => s.GivesBack (k := .cpuClockSpeed) given
  | .getConfigData _ _ given => s.GivesBack (k := .configData) given
  | .mfrWifiCredentials _ (some param) given =>
    param.requestType ≠ .setCredentials → s.GivesBack (k := .wifiCredentials) given
  | _ => True

/-- What has been set is what is read, as far as it is part of the setting. -/
def SameSetting : (kind : Kind) → Param kind → Param kind → Prop
  | .fsrFlag, p, q => p = q
  | .secureTime, p, q => p = q
  | .temperatureThresholds, p, q => p.highTemp = q.highTemp ∧ p.criticalTemp = q.criticalTemp
  | .cpuClockSpeed, p, q => p.cpuClockSpeed = q.cpuClockSpeed
  | .configData, p, q => p = q
  | .wifiCredentials, p, q =>
    p.wifiCredentials.cSSID.str 0 = q.wifiCredentials.cSSID.str 0 ∧
      p.wifiCredentials.cPassword.str 0 = q.wifiCredentials.cPassword.str 0 ∧
      p.wifiCredentials.iSecurityMode = q.wifiCredentials.iSecurityMode
  | .bootloaderPattern, p, q => p = q

end Purpose

end IarmMgrs.MfrMgr.Settings
