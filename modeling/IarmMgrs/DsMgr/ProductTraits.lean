import IarmMgrs.DsMgr.AvPorts
import IarmMgrs.DsMgr.BootPattern
import IarmMgrs.Utils.RdkProfile

/-! The product traits of `dsMgrProductTraitsHandler.cpp` with the part of
`dsMgrPwrEventListener.c` that calls them: which power LED, which port configuration and which
boot-loader pattern a power state gets.  Start-up, a power event, a bus call and an attempt of the
retry thread are one step each. -/

namespace IarmMgrs.DsMgr.ProductTraits

open Lib Lib.CString
open PowerEvents (PowerState)
open AvPorts (UxController postRebootState)
open BootPattern (Pattern retryLimit)
open Utils.RdkProfile (Profile searchRdkProfile strncmpEq)

inductive DeviceType where | stb | tv

inductive ProductProfileId
  | defaultStb | defaultTv | defaultStbEurope | defaultTvEurope | max

structure Traits where
  ledEnabledInStandby : Bool
  ledEnabledInOnState : Bool
  enableSilentRebootSupport : Bool

def initializeSafeDefaults : DeviceType → Traits
  | .stb => ⟨false, true, true⟩
  | .tv => ⟨true, true, true⟩

/-- The constructors of the four controllers. -/
def traits : UxController → Traits
  | .tvEu | .tv => initializeSafeDefaults .tv
  | .stbEu => initializeSafeDefaults .stb
  | .stb => { initializeSafeDefaults .stb with enableSilentRebootSupport := false }

/-- The singleton after the call, and whether the profile is supported. -/
def initializeUxController (singleton : Option UxController) :
    ProductProfileId → Option UxController × Bool
  | .defaultStb => (some .stb, true)
  | .defaultTv => (some .tv, true)
  | .defaultStbEurope => (some .stbEu, true)
  | .defaultTvEurope => (some .tvEu, true)
  | .max => (singleton, false)

/-- `retry` is the retry thread, with the pattern it is to set and its `remaining_retries`.
`led` is what `_dsSetFPState` was last called with for the power indicator, `applied` the state
`_SetAVPortsPowerState` was last called with, and `pattern` the last one the mfr daemon took.
`reported` is history: the power state last read or notified. -/
structure State where
  ux : Option UxController
  profileType : Profile
  curState : PowerState
  connected : Bool
  invalidateAsyncBootloaderPattern : Bool
  firstPowerTransitionComplete : Bool
  retry : Option (Pattern × Nat)
  led : Option Bool
  applied : Option PowerState
  pattern : Option Pattern
  reported : Option PowerState
  deriving DecidableEq

section Controller

variable (ux : UxController)

def syncPowerLedWithPowerState (powerState : PowerState) (s : State) : State :=
  let ledState := if powerState = .on then (traits ux).ledEnabledInOnState
    else (traits ux).ledEnabledInStandby
  { s with led := some ledState }

def syncDisplayPortsWithPowerState (powerState : PowerState) (s : State) : State :=
  { s with applied := some powerState }

variable (success : Bool)

def setBootloaderPatternRpc (pattern : Pattern) (s : State) : State × Bool :=
  if (traits ux).enableSilentRebootSupport then
    (if success then { s with pattern := some pattern } else s, success)
  else (s, true)

def setBootloaderPattern (pattern : Pattern) (s : State) : State × Bool :=
  setBootloaderPatternRpc ux success pattern { s with invalidateAsyncBootloaderPattern := true }

def setBootloaderPatternFaultTolerant (pattern : Pattern) (s : State) : State × Bool :=
  let (s, ret) := setBootloaderPatternRpc ux success pattern s
  (if ret then s else
    { s with
      invalidateAsyncBootloaderPattern := false
      retry := some (pattern, retryLimit) }, ret)

/-- One round of `_set_bootloader_pattern_async`, from the end of its sleep on. -/
def setBootloaderPatternAsync (pattern : Pattern) (remainingRetries : Nat) (s : State) : State :=
  if s.invalidateAsyncBootloaderPattern then { s with retry := none }
  else
    let (s, ret) := setBootloaderPatternRpc ux success pattern s
    if ret = false ∧ 0 < remainingRetries - 1 then
      { s with retry := some (pattern, remainingRetries - 1) }
    else { s with retry := none }

def changePattern (newState : PowerState) : Pattern :=
  if newState = .on then .normal else .silentLedOn

def applyPowerStateChangeConfig (newState _prevState : PowerState) (s : State) : State × Bool :=
  match ux with
  | .tvEu =>
    let (s, ret) := setBootloaderPattern ux success (changePattern newState) s
    (syncDisplayPortsWithPowerState newState s, ret)
  | .tv =>
    let s := if s.firstPowerTransitionComplete then s
      else { s with firstPowerTransitionComplete := true }
    let (s, ret) := setBootloaderPattern ux success (changePattern newState) s
    (syncDisplayPortsWithPowerState newState s, ret)
  | .stbEu | .stb =>
    let s := syncPowerLedWithPowerState ux newState s
    (syncDisplayPortsWithPowerState newState s, true)

def applyPreRebootConfig (_currentState : PowerState) (s : State) : State × Bool := (s, true)

def applyPreMaintenanceRebootConfig (currentState : PowerState) (s : State) : State × Bool :=
  match ux with
  | .tvEu | .stbEu =>
    if currentState ≠ .on then setBootloaderPattern ux success .silent s else (s, true)
  | .tv =>
    if currentState ≠ .on then setBootloaderPattern ux success .silentLedOn s else (s, true)
  | .stb => (s, true)

/-- The pattern of the two TV controllers; OFF and UNKNOWN are not handled. -/
def postRebootPattern : PowerState → Pattern
  | .on => .normal
  | .standby | .standbyLightSleep | .standbyDeepSleep => .silentLedOn
  | .off | .unknown => .normal

/-- `ledSync` is false in a build with `DISABLE_LED_SYNC_IN_BOOTUP`. -/
def applyPostRebootConfig (ledSync : Bool) (targetState lastKnownState : PowerState) (s : State) :
    State × Bool :=
  let shown := postRebootState (some ux) targetState lastKnownState
  match ux with
  | .tvEu =>
    let s := syncDisplayPortsWithPowerState shown s
    setBootloaderPatternFaultTolerant ux success (postRebootPattern targetState) s
  | .tv =>
    let s := syncPowerLedWithPowerState ux targetState s
    let s := syncDisplayPortsWithPowerState shown s
    setBootloaderPatternFaultTolerant ux success (postRebootPattern targetState) s
  | .stbEu =>
    let s := if ledSync then syncPowerLedWithPowerState ux shown s else s
    let s := syncDisplayPortsWithPowerState shown s
    setBootloaderPatternFaultTolerant ux success .normal s
  | .stb =>
    let s := syncPowerLedWithPowerState ux targetState s
    (syncDisplayPortsWithPowerState shown s, true)

end Controller

/-- `PWRMgr_PowerState_t` as it comes over the bus. -/
inductive PwrMgrPowerState
  | off | standby | on | standbyLightSleep | standbyDeepSleep | other
  deriving DecidableEq

def dsMgrPwrMgrToPowerControllerPowerState : PwrMgrPowerState → PowerState
  | .off => .off
  | .standby => .standby
  | .on => .on
  | .standbyLightSleep => .standbyLightSleep
  | .standbyDeepSleep => .standbyDeepSleep
  | .other => .unknown

def pwrMgrRebootReasonMaintenance : List UInt8 := lit "MAINTENANCE_REBOOT"

/-- `dsMgrRebootConfigParam_t` as passed in; `rebootReasonCustom` is the whole array. -/
structure RebootConfigParam where
  rebootReasonCustom : List UInt8
  powerState : PwrMgrPowerState
  deriving DecidableEq

section Listener

variable (ledSync : Bool)

def initPwrEventListner (properties : Option (List UInt8)) : State :=
  let profileType := searchRdkProfile properties
  let (singleton, supported) := initializeUxController none
    (if profileType = .tv then .defaultTv else .defaultStbEurope)
  { ux := if supported then singleton else none
    profileType := profileType
    curState := .off
    connected := false
    invalidateAsyncBootloaderPattern := false
    firstPowerTransitionComplete := false
    retry := none
    led := none
    applied := none
    pattern := none
    reported := none }

def setLEDStatus (powerState : PowerState) (s : State) : State :=
  { s with led := some (if powerState ≠ .on then s.profileType = .tv else true) }

def fetchNinitStateValues (read beforeReboot : Option PowerState) (success : Bool) (s : State) :
    State :=
  let curState := read.getD s.curState
  let s := { s with curState := curState, connected := true, reported := some curState }
  match s.ux with
  | some ux => (applyPostRebootConfig ux success ledSync curState (beforeReboot.getD .standby) s).1
  | none =>
    let s := if ledSync then setLEDStatus curState s else s
    syncDisplayPortsWithPowerState curState s

def dsMgrHandlePwrEventData (currentState newState : PowerState) (success : Bool) (s : State) :
    State :=
  let s := { s with reported := some newState }
  match s.ux with
  | some ux => (applyPowerStateChangeConfig ux success newState currentState s).1
  | none =>
    let s := if ledSync then setLEDStatus newState s else s
    syncDisplayPortsWithPowerState newState s

/-- With `param->result`, which a null argument does not have. -/
def setAvPortState (arg : Option PwrMgrPowerState) (s : State) : State × Option Int :=
  match arg with
  | none => (s, none)
  | some pwrState =>
    let powerState := dsMgrPwrMgrToPowerControllerPowerState pwrState
    (if powerState ≠ .unknown then syncDisplayPortsWithPowerState powerState s else s, some 0)

def setLEDState (arg : Option PwrMgrPowerState) (s : State) : State × Option Int :=
  match arg with
  | none => (s, none)
  | some pwrState =>
    let powerState := dsMgrPwrMgrToPowerControllerPowerState pwrState
    (if powerState ≠ .unknown then setLEDStatus powerState s else s, some 0)

/-- The reason with its last character cut is that of a maintenance reboot. -/
def isMaintenance (param : RebootConfigParam) : Bool :=
  let size := param.rebootReasonCustom.length
  strncmpEq pwrMgrRebootReasonMaintenance (param.rebootReasonCustom.set (size - 1) 0) size

def setRebootConfig (arg : Option RebootConfigParam) (success : Bool) (s : State) :
    State × Option Int :=
  match arg with
  | none => (s, none)
  | some param =>
    match s.ux with
    | none => (s, some 0)
    | some ux =>
      let powerState := dsMgrPwrMgrToPowerControllerPowerState param.powerState
      if powerState ≠ .unknown then
        if isMaintenance param then
          ((applyPreMaintenanceRebootConfig ux success powerState s).1, some 0)
        else ((applyPreRebootConfig powerState s).1, some 0)
      else (s, some 0)

/-- `success` is the outcome of the RPC to the mfr daemon, if the call makes one. -/
inductive Action
  | connect (read beforeReboot : Option PowerState) (success : Bool)
  | powerEvent (currentState newState : PowerState) (success : Bool)
  | setAvPortState (arg : Option PwrMgrPowerState)
  | setLEDState (arg : Option PwrMgrPowerState)
  | setRebootConfig (arg : Option RebootConfigParam) (success : Bool)
  | retry (success : Bool)
  deriving DecidableEq

/-- The connection is made once, and power events come after it. -/
def step (s : State) : Action → Option State
  | .connect read beforeReboot success =>
    if s.connected then none
    else some (fetchNinitStateValues ledSync read beforeReboot success s)
  | .powerEvent currentState newState success =>
    if s.connected then some (dsMgrHandlePwrEventData ledSync currentState newState success s)
    else none
  | .setAvPortState arg => some (setAvPortState arg s).1
  | .setLEDState arg => some (setLEDState arg s).1
  | .setRebootConfig arg success => some (setRebootConfig arg success s).1
  | .retry success =>
    match s.ux, s.retry with
    | some ux, some (pattern, remainingRetries) =>
      some (setBootloaderPatternAsync ux success pattern remainingRetries s)
    | _, _ => none

end Listener

section Purpose

/-- The request that arms a silent boot, as far as it is passed on. -/
def Arms (param : RebootConfigParam) : Prop :=
  isMaintenance param = true ∧
    dsMgrPwrMgrToPowerControllerPowerState param.powerState ≠ .unknown ∧
    dsMgrPwrMgrToPowerControllerPowerState param.powerState ≠ .on

instance (param : RebootConfigParam) : Decidable (Arms param) :=
  inferInstanceAs (Decidable (_ ∧ _ ∧ _))

/-- The power LED is on exactly while the ports are configured for ON. -/
def LedShowsPorts (s : State) : Prop :=
  ∀ led powerState, s.led = some led → s.applied = some powerState →
    (led = true ↔ powerState = .on)

/-- The boot loader starts with a picture exactly when the last power state was ON. -/
def PatternFitsPower (s : State) : Prop :=
  ∀ powerState, s.reported = some powerState → s.pattern = some (changePattern powerState)

/-- What start-up leaves, whatever comes between its parts: the controller of the profile and
the connection. -/
structure Started (properties : Option (List UInt8)) (s : State) : Prop where
  ux : s.ux = (initPwrEventListner properties).ux
  profileType : s.profileType = (initPwrEventListner properties).profileType
  connected : s.connected = true

/-- The state that a call gives to the LED alone or to the ports alone goes with the other. -/
def InStep (s : State) : Action → Prop
  | .setAvPortState (some pwrState) =>
    dsMgrPwrMgrToPowerControllerPowerState pwrState ≠ .unknown → ∀ led, s.led = some led →
      (led = true ↔ pwrState = .on)
  | .setLEDState (some pwrState) =>
    dsMgrPwrMgrToPowerControllerPowerState pwrState ≠ .unknown →
      ∀ powerState, s.applied = some powerState → (pwrState = .on ↔ powerState = .on)
  | _ => True

/-- The mfr daemon takes the pattern of a power event or has it already, no maintenance reboot
is announced for standby while the device is ON, and a retry that is not overruled and gets
through sets the pattern of the power state reported last. -/
def Keeps (s : State) : Action → Prop
  | .powerEvent _ newState success =>
    success = true ∨ s.pattern = some (changePattern newState)
  | .setRebootConfig (some param) success =>
    Arms param → success = true → s.reported ≠ some .on
  | .retry success => success = true → s.invalidateAsyncBootloaderPattern = false →
      ∀ pattern n powerState, s.retry = some (pattern, n) → s.reported = some powerState →
        pattern = changePattern powerState
  | _ => True

end Purpose

end IarmMgrs.DsMgr.ProductTraits
