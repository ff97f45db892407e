import IarmMgrs.DsMgr.EventQueue
import IarmMgrs.DsMgr.HotPlug
import IarmMgrs.SysMgr.States

/-! `_ProcessEvent` of `dsMgr.c` from the queued copy of an event to its effects, and from
there to SysMgr: the copy is decoded, the event worker carries the event through, and what
it broadcasts is handled by `_sysEventHandler`. -/

namespace IarmMgrs.DsMgr.ProcessEvent

open Lib Lib.CString
open EventQueue (EventSizes Event Delivery makeEventItem iarmMaxNameLen)
open HotPlug (BusEvent DsHdcpStatus)
open SysMgr.States (SystemStates SystemState sysEventHandler iarmBusSysMgrName eventSystemState)

def iarmBusDsMgrName : List UInt8 := lit "DSMgr"

def sysStateTuneReady : Int := 2
def sysStateHdcpEnabled : Int := 10

/-- What the platform headers fix: the sizes of the event structures, the values of the
enumerators, and where in an event structure a member is read from. -/
structure EventLayout where
  sizes : EventSizes
  eventHdmiHotplug : Int
  eventHdcpStatus : Int
  hotplug_ne_hdcp : eventHdmiHotplug ≠ eventHdcpStatus
  displayEventConnected : Int
  hdcpStatusAuthenticated : Int
  hdcpStatusAuthenticationFailure : Int
  stateId : List UInt8 → Int
  hdmiHpdEvent : List UInt8 → Int
  hdcpStatus : List UInt8 → Int

section Decoding

variable (L : EventLayout)

/-- The two tests of an HDCP status. -/
def EventLayout.classify (status : Int) : DsHdcpStatus :=
  if status = L.hdcpStatusAuthenticated then .authenticated
  else if status = L.hdcpStatusAuthenticationFailure then .authenticationFailure
  else .other

/-- The branch of `_ProcessEvent` that an event takes, if any has an effect; a null `data`
pointer is `none`. -/
def decode (owner : List UInt8) (eventId : Int) (data : Option (List UInt8)) : Option BusEvent :=
  if owner = iarmBusSysMgrName then
    if eventId ≠ eventSystemState then none
    else
      match data with
      | none => none
      | some data => if L.stateId data = sysStateTuneReady then some .tuneReady else none
  else if owner = iarmBusDsMgrName then
    if eventId = L.eventHdmiHotplug then
      data.map fun data =>
        .hdmiHotplug
          (if L.hdmiHpdEvent data = L.displayEventConnected then .connected else .disconnected)
    else if eventId = L.eventHdcpStatus then
      data.map fun data => .hdcpStatus (L.classify (L.hdcpStatus data))
    else none
  else none

def workerGoes (s : HotPlug.State) : HotPlug.State := (HotPlug.workerStep s).getD s

/-- The event worker carries one event through, which takes five more steps at most. -/
def carryThrough (s : HotPlug.State) (event : BusEvent) : HotPlug.State :=
  workerGoes (workerGoes (workerGoes (workerGoes (workerGoes (HotPlug.processEvent s event)))))

def processEvent (s : HotPlug.State) (d : Delivery) : HotPlug.State :=
  match decode L d.owner d.eventId (some d.data) with
  | none => s
  | some event => carryThrough s event

end Decoding

def hdcpEvent (state : Int) : SysMgr.States.Event where
  owner := some iarmBusSysMgrName
  eventId := eventSystemState
  data := some ⟨sysStateHdcpEnabled, state, 0, Buf.zeroed 0 _⟩
  len := SysMgr.States.sizeofEventData

def deliverBroadcasts (states : List Int) (s : SystemStates) : SystemStates :=
  states.foldl (fun s state => sysEventHandler s (hdcpEvent state)) s

section Malformed

variable (L : EventLayout)

/-- The size of the structure an event of the owner is decoded as. -/
def decodedSize (owner : List UInt8) : Nat :=
  if owner = iarmBusSysMgrName then L.sizes.sysMgrEventData
  else if owner = iarmBusDsMgrName then L.sizes.dsMgrEventData
  else 0

def Malformed (ev : Event) : Prop :=
  ev.data = none ∨ ∀ owner, ev.owner = some owner → ev.len < decodedSize L (cstr 0 owner)

/-- What a malformed event is to leave alone. -/
structure Inert (s t : HotPlug.State) : Prop where
  iTuneReady : t.iTuneReady = s.iTuneReady
  edisplayEventStatus : t.resn.edisplayEventStatus = s.resn.edisplayEventStatus
  bHDCPAuthenticated : t.bHDCPAuthenticated = s.bHDCPAuthenticated
  bootupFlagEnabled : t.bootupFlagEnabled = s.bootupFlagEnabled
  hotplugEventSrc : t.timer.hotplugEventSrc = s.timer.hotplugEventSrc
  resolutions : t.resolutions = s.resolutions
  broadcasts : t.broadcasts = s.broadcasts

/-- The copy is no event of a known kind, a repeated TUNEREADY, or a hot-plug status that
is stored already. -/
def Harmless (s : HotPlug.State) (d : Delivery) : Prop :=
  match decode L d.owner d.eventId (some d.data) with
  | none => True
  | some .tuneReady => s.iTuneReady ≠ 0
  | some (.hdmiHotplug event) => event = s.resn.edisplayEventStatus
  | some (.hdcpStatus _) => False

end Malformed

end IarmMgrs.DsMgr.ProcessEvent
