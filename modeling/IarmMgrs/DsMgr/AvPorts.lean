import IarmMgrs.Lib.CString
import IarmMgrs.DsMgr.PowerEvents
import Mathlib.Logic.Function.Basic

namespace IarmMgrs.DsMgr.AvPorts

open Lib Lib.CString
open PowerEvents (PowerState)

abbrev Name := List UInt8

structure Port where
  type : Int
  index : Int
  deriving DecidableEq

def maxNumVideoPorts : Nat := 5

/-- `DSMgr_Standby_Video_State_t`; the port name is empty in a free entry. -/
structure StandbyVideoState where
  port : Name
  isEnabled : Bool
  deriving DecidableEq

/-- What the device settings library knows: its ports, their names, the port a name
stands for if there is one, and `DSMGR_MAX_VIDEO_PORT_NAME_LENGTH`. -/
structure Devices where
  videoPorts : List Port
  audioPorts : List Port
  videoName : Port → Name
  videoOutputPort : Name → Option Port
  maxNameLength : Nat

inductive CallOutcome where | succeeds | fails | throws
  deriving DecidableEq

/-- What the calls into the library do.  `at` and the enumerations may throw. -/
structure Outcomes where
  videoEnumerated : Bool
  audioEnumerated : Bool
  videoAt : Port → Bool
  audioAt : Port → Bool
  getVideoPort : Port → CallOutcome
  enableVideoPort : Port → CallOutcome
  getAudioPort : Port → CallOutcome
  getEnablePersist : Port → CallOutcome
  enablePersist : Port → Bool
  enableAudioPort : Port → CallOutcome

structure PortStatus where
  videoEnabled : Port → Bool
  audioEnabled : Port → Bool
  easAudioModes : Nat

inductive IarmResult where | success | invalidParam | invalidState | failed
  deriving DecidableEq

def configureVideoPort (out : Outcomes) (vPort : Port) (requestEnable : Bool) (s : PortStatus) :
    PortStatus × IarmResult :=
  match out.getVideoPort vPort with
  | .throws => (s, .invalidState)
  | .fails => (s, .failed)
  | .succeeds =>
    match out.enableVideoPort vPort with
    | .throws => (s, .invalidState)
    | .fails => (s, .failed)
    | .succeeds =>
      ({ s with videoEnabled := Function.update s.videoEnabled vPort requestEnable }, .success)

/-- A port whose persisted state is disabled is skipped when it should be enabled. -/
def configureAudioPort (out : Outcomes) (aPort : Port) (requestEnable : Bool) (s : PortStatus) :
    PortStatus × IarmResult :=
  match out.getAudioPort aPort with
  | .throws => (s, .invalidState)
  | .fails => (s, .failed)
  | .succeeds =>
    match if requestEnable then out.getEnablePersist aPort else .succeeds with
    | .throws => (s, .invalidState)
    | .fails => (s, .failed)
    | .succeeds =>
      if requestEnable && !out.enablePersist aPort then (s, .success)
      else
        match out.enableAudioPort aPort with
        | .throws => (s, .invalidState)
        | .fails => (s, .failed)
        | .succeeds =>
          ({ s with audioEnabled := Function.update s.audioEnabled aPort requestEnable }, .success)

def getVideoPortStandbySetting (dev : Devices) (table : List StandbyVideoState) (port : Name) :
    Bool :=
  match table.find? fun e => strncasecmpEq port e.port dev.maxNameLength with
  | some e => e.isEnabled
  | none => false

section SetAVPortsPowerState

variable (dev : Devices) (table : List StandbyVideoState) (out : Outcomes)

/-- One round of the loop over the video ports for a state other than ON. -/
def standbyVideoPort (powerState : PowerState) (s : PortStatus) (vPort : Port) : PortStatus :=
  if !out.videoAt vPort then s
  else
    let doEnable := getVideoPortStandbySetting dev table (dev.videoName vPort)
    if !doEnable || powerState = .off then (configureVideoPort out vPort false s).1 else s

def enableVideoPort (s : PortStatus) (vPort : Port) : PortStatus :=
  if !out.videoAt vPort then s else (configureVideoPort out vPort true s).1

def switchAudioPort (requestEnable : Bool) (s : PortStatus) (aPort : Port) : PortStatus :=
  if !out.audioAt aPort then s else (configureAudioPort out aPort requestEnable s).1

/-- Outside ON an exception of one enumeration leaves the other alone; in the branch for
ON it ends the branch. -/
def setAVPortsPowerState (isEAS : Bool) (powerState : PowerState) (s : PortStatus) : PortStatus :=
  if powerState ≠ .on then
    let s := if out.videoEnumerated then
      dev.videoPorts.foldl (standbyVideoPort dev table out powerState) s else s
    if out.audioEnumerated then dev.audioPorts.foldl (switchAudioPort out false) s else s
  else if !out.videoEnumerated then s
  else
    let s := dev.videoPorts.foldl (enableVideoPort out) s
    if !out.audioEnumerated then s
    else
      let s := dev.audioPorts.foldl (switchAudioPort out true) s
      if isEAS then { s with easAudioModes := s.easAudioModes + 1 } else s

end SetAVPortsPowerState

/-- The product profiles; without one the listener configures the ports itself. -/
inductive UxController where | tvEu | stbEu | tv | stb
  deriving DecidableEq

/-- The state `applyPostRebootConfig` applies to the ports, or the listener without a
controller. -/
def postRebootState (ux : Option UxController) (targetState lastKnownState : PowerState) :
    PowerState :=
  match ux with
  | some .tvEu | some .stbEu | some .tv =>
    if lastKnownState = .on ∧ targetState = .standby then .on else targetState
  | some .stb | none => targetState

/-- The variables of the listener, and the ports.  `reported` is history: the power state
last handled, or read when the connection was made. -/
structure State where
  curState : PowerState
  table : List StandbyVideoState
  ports : PortStatus
  portCalls : List (Port × Bool)
  reported : PowerState

/-- `dsMgrStandbyVideoStateParam_t` as passed in; `port` is the whole array. -/
structure StandbyVideoStateParam where
  port : Name
  isEnabled : Int

section Listener

variable (dev : Devices) (out : Outcomes) (isEAS : Bool)

def applyPowerState (powerState : PowerState) (s : State) : State :=
  { s with ports := setAVPortsPowerState dev s.table out isEAS powerState s.ports }

def fetchNinitStateValues (ux : Option UxController) (read : Option PowerState)
    (powerStateBeforeReboot : PowerState) (s : State) : State :=
  let s := { s with curState := read.getD s.curState, reported := read.getD s.curState }
  applyPowerState dev out isEAS (postRebootState ux s.curState powerStateBeforeReboot) s

def dsMgrHandlePwrEventData (_currentState newState : PowerState) (s : State) : State :=
  { applyPowerState dev out isEAS newState s with reported := newState }

def updateTable (param : StandbyVideoStateParam) (table : List StandbyVideoState) :
    List StandbyVideoState :=
  let isEnabled : Bool := param.isEnabled ≠ 0
  match table.findIdx? fun e => strncasecmpEq param.port e.port dev.maxNameLength with
  | some i => table.modify i fun e => { e with isEnabled := isEnabled }
  | none =>
    match table.findIdx? fun e => e.port.isEmpty with
    | some i => table.set i ⟨(cstr 0 param.port).take (dev.maxNameLength - 1), isEnabled⟩
    | none => table

def isStandby (powerState : PowerState) : Bool := powerState ≠ .on && powerState ≠ .off

/-- The result is `param->result`, if it was written.  `portThrows` says whether `enable`
or `disable` throws. -/
def setStandbyVideoState (portThrows : Bool) (param : Option StandbyVideoStateParam) (s : State) :
    State × IarmResult × Option Int :=
  match param with
  | none => (s, .invalidParam, none)
  | some param =>
    if !param.port.contains 0 then (s, .invalidParam, none)
    else
      let s := { s with table := updateTable dev param s.table }
      match dev.videoOutputPort (cstr 0 param.port) with
      | none => (s, .success, some (-1))
      | some vPort =>
        if isStandby s.curState then
          if portThrows then (s, .success, some (-1))
          else
            let enable : Bool := param.isEnabled = 1
            ({ s with
              ports := { s.ports with
                videoEnabled := Function.update s.ports.videoEnabled vPort enable }
              portCalls := s.portCalls ++ [(vPort, enable)] }, .success, some 0)
        else (s, .success, some 0)

end Listener

def State.initial (ports : PortStatus) : State where
  curState := .off
  table := List.replicate maxNumVideoPorts ⟨[], false⟩
  ports := ports
  portCalls := []
  reported := .off

inductive Action
  | handle (currentState newState : PowerState) (out : Outcomes) (isEAS : Bool)
  | setStandby (portThrows : Bool) (param : Option StandbyVideoStateParam)

def step (dev : Devices) (s : State) : Action → Option State
  | .handle currentState newState out isEAS =>
    some (dsMgrHandlePwrEventData dev out isEAS currentState newState s)
  | .setStandby portThrows param => some (setStandbyVideoState dev portThrows param s).1

end IarmMgrs.DsMgr.AvPorts
