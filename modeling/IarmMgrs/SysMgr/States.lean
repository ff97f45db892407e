import IarmMgrs.Lib.CString
import Mathlib.Logic.Function.Basic

namespace IarmMgrs.SysMgr.States

open Lib Lib.CString

def iarmBusSysMgrName : List UInt8 := lit "SYSMgr"
def eventSystemState : Int := 0
def payloadSize : Nat := 128

/-- `sizeof(IARM_Bus_SYSMgr_EventData_t)`: the USB record of its union, aligned to 8. -/
def sizeofEventData : Nat := 648

inductive SystemState
  | channelmap | disconnectmgr | tuneready | exitOk | cmac | motoEntitlement | motoHrvRx
  | cardCiscoStatus | videoPresenting | hdmiOut | hdcpEnabled | hdmiEdidRead | firmwareDwnld
  | timeSource | timeZone | caSystem | estbIp | ecmIp | lanIp | moca | docsis
  | dsgBroadcastChannel | dsgCaTunnel | cableCard | cableCardDwnld | cvrSubsystem | download
  | vodAd | dacInitTimestamp | cableCardSerialNo | ecmMac | dacId | plantId | stbSerialNo | bootup
  | gatewayConnection | dstOffset | rfConnected | partneridChange | ipMode | lpConnectionReset
  | rwsConnectionReset | qamReady | firmwareUpdateState | usbDetected | logUpload
  | redRecovUpdateState
  deriving DecidableEq

def SystemState.all : List SystemState :=
  [.channelmap, .disconnectmgr, .tuneready, .exitOk, .cmac, .motoEntitlement, .motoHrvRx,
   .cardCiscoStatus, .videoPresenting, .hdmiOut, .hdcpEnabled, .hdmiEdidRead, .firmwareDwnld,
   .timeSource, .timeZone, .caSystem, .estbIp, .ecmIp, .lanIp, .moca, .docsis,
   .dsgBroadcastChannel, .dsgCaTunnel, .cableCard, .cableCardDwnld, .cvrSubsystem, .download,
   .vodAd, .dacInitTimestamp, .cableCardSerialNo, .ecmMac, .dacId, .plantId, .stbSerialNo,
   .bootup, .gatewayConnection, .dstOffset, .rfConnected, .partneridChange, .ipMode,
   .lpConnectionReset, .rwsConnectionReset, .qamReady, .firmwareUpdateState, .usbDetected,
   .logUpload, .redRecovUpdateState]

def SystemState.ofInt (stateId : Int) : Option SystemState :=
  if stateId < 0 then none else all[stateId.toNat]?

inductive Property
  | channelMap | disconnectMgrState | tuneReadyStatus | exitOkKeySequence | cmac
  | cardMotoEntitlements | cardMotoHrvRx | dacInitTimestamp | cardCiscoStatus | videoPresenting
  | hdmiOut | hdcpEnabled | hdmiEdidRead | firmwareDownload | timeSource | timeZoneAvailable
  | caSystem | estbIp | ecmIp | lanIp | moca | docsis | dsgBroadcastTunnel | dsgCaTunnel
  | cableCard | cableCardDownload | cvrSubsystem | download | vodAd | cardSerialNo | ecmMac
  | dacId | plantId | stbSerialNo | bootup | dstOffset | rfConnected | partneridChanged | ipMode
  | qamReadyStatus | firmwareUpdateState | redRecovState
  deriving DecidableEq

structure StateProperty where
  state : Int
  error : Int
  payload : Buf UInt8 payloadSize
  deriving DecidableEq

abbrev SystemStates := Property → StateProperty

structure SystemStateData where
  stateId : Int
  state : Int
  error : Int
  payload : Buf UInt8 payloadSize

/-- The arguments of `_sysEventHandler`; a null pointer is `none`. -/
structure Event where
  owner : Option (List UInt8)
  eventId : Int
  data : Option SystemStateData
  len : Nat

def StateProperty.zero : StateProperty := ⟨0, 0, Buf.zeroed 0 payloadSize⟩

/-- What `SYSMgr_Start` leaves in `systemStates`. -/
def SystemStates.start : SystemStates := fun
  | .hdcpEnabled => { StateProperty.zero with state := 1 }
  | _ => .zero

section Stores

variable (p : Property) (d : SystemStateData) (s : SystemStates)

def storeState : SystemStates :=
  Function.update s p { s p with state := d.state, error := d.error }

def storeError : SystemStates := Function.update s p { s p with error := d.error }

/-- `memcpy_s` over the whole payload, and a terminator in its last character. -/
def copyPayload : SystemStates :=
  Function.update s p { s p with payload := (s p).payload.copyWhole 0 d.payload.chars }

/-- `strnlen`, `strncpy` and a terminator. -/
def copyPayloadBounded : SystemStates :=
  Function.update s p
    { s p with payload := (s p).payload.copyBounded 0 d.payload.chars (payloadSize - 1) }

def storeWhole : SystemStates := copyPayload p d (storeState p d s)
def storeBounded : SystemStates := copyPayloadBounded p d (storeState p d s)
def storeErrorBounded : SystemStates := copyPayloadBounded p d (storeError p d s)

end Stores

/-- The switch of `_sysEventHandler`. -/
def handleState (d : SystemStateData) (s : SystemStates) : SystemState → SystemStates
  | .channelmap => storeWhole .channelMap d s
  | .disconnectmgr => storeState .disconnectMgrState d s
  | .tuneready => storeState .tuneReadyStatus d s
  | .exitOk => storeState .exitOkKeySequence d s
  | .cmac => storeState .cmac d s
  | .motoEntitlement => storeState .cardMotoEntitlements d s
  | .motoHrvRx => storeState .cardMotoHrvRx d s
  | .dacInitTimestamp => storeBounded .dacInitTimestamp d s
  | .cardCiscoStatus => storeState .cardCiscoStatus d s
  | .videoPresenting => storeState .videoPresenting d s
  | .hdmiOut => storeState .hdmiOut d s
  | .hdcpEnabled => storeState .hdcpEnabled d s
  | .hdmiEdidRead => storeState .hdmiEdidRead d s
  | .firmwareDwnld => storeState .firmwareDownload d s
  | .firmwareUpdateState => storeState .firmwareUpdateState d s
  | .redRecovUpdateState => storeState .redRecovState d s
  | .timeSource => storeState .timeSource d s
  | .timeZone => storeWhole .timeZoneAvailable d s
  | .caSystem => storeState .caSystem d s
  | .estbIp => storeState .estbIp d s
  | .ecmIp => storeState .ecmIp d s
  | .lanIp => storeState .lanIp d s
  | .moca => storeState .moca d s
  | .docsis => storeState .docsis d s
  | .dsgBroadcastChannel => storeState .dsgBroadcastTunnel d s
  | .dsgCaTunnel => storeState .dsgCaTunnel d s
  | .cableCard => storeState .cableCard d s
  | .cableCardDwnld => storeState .cableCardDownload d s
  | .cvrSubsystem => storeState .cvrSubsystem d s
  | .download => storeState .download d s
  | .vodAd => storeWhole .vodAd d s
  | .cableCardSerialNo => storeErrorBounded .cardSerialNo d s
  | .ecmMac => storeErrorBounded .ecmMac d s
  | .dacId => storeBounded .dacId d s
  | .plantId => storeBounded .plantId d s
  | .stbSerialNo => storeErrorBounded .stbSerialNo d s
  | .bootup => storeState .bootup d s
  | .dstOffset => storeBounded .dstOffset d s
  | .rfConnected => storeState .rfConnected d s
  | .partneridChange => storeState .partneridChanged d s
  | .ipMode => storeBounded .ipMode d s
  | .qamReady => storeState .qamReadyStatus d s
  | _ => s

/-- The tests in front of the switch. -/
def acceptEvent (e : Event) : Option SystemStateData :=
  if e.eventId ≠ eventSystemState then none
  else
    match e.owner, e.data with
    | some owner, some data =>
      if e.len < sizeofEventData then none
      else if cstr 0 owner = iarmBusSysMgrName then some data
      else none
    | _, _ => none

def sysEventHandler (s : SystemStates) (e : Event) : SystemStates :=
  match acceptEvent e with
  | none => s
  | some d =>
    match SystemState.ofInt d.stateId with
    | none => s
    | some stateId => handleState d s stateId

/-- `_GetSystemStates` without `MEDIA_CLIENT` copies all properties. -/
def getSystemStates (s : SystemStates) : SystemStates := s

end IarmMgrs.SysMgr.States
