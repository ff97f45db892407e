import IarmMgrs.Lib.CString
import IarmMgrs.Lib.Transition
import Mathlib.Logic.Function.Basic

/-! The update sessions of `deviceUpdateMgrMain.cpp`: `AcceptUpdate` numbers a session and
enters it into `updatesInProgress`; `_deviceUpdateEventHandler` looks up the session an
event names, records what the event says and answers with the INITIATE broadcasts.
`AcceptUpdate` takes two steps, with events in between; the handler runs under
`tMutexLock` and is one step. -/

namespace IarmMgrs.DeviceUpdateMgr.Sessions

open Lib Lib.CString

def iarmBusDeviceUpdateName : List UInt8 := lit "DeviceUpdateManager"
def pathLength : Nat := 512
def errorLength : Nat := 256
def loadStatusEnd : BitVec 32 := 1

structure AcceptUpdateParam where
  deviceImageFilePath : Buf UInt8 pathLength
  deviceID : UInt8
  updateSessionID : BitVec 32
  interactiveDownload : UInt8
  interactiveLoad : UInt8
  deriving DecidableEq

structure UpdateInProgress where
  acceptParams : AcceptUpdateParam
  downloadPercent : BitVec 32
  loadComplete : Bool
  errorCode : BitVec 32
  errorMsg : List UInt8
  deriving DecidableEq

abbrev Updates := BitVec 32 → Option UpdateInProgress

structure Configuration where
  interactiveDownload : Bool
  interactiveLoad : Bool
  backgroundDownload : Bool
  requestedPercentIncrement : BitVec 32
  loadImageImmediately : Bool
  loadDelayType : BitVec 32
  loadTimeAfterInactive : BitVec 32
  loadBeforeHour : BitVec 32
  deriving DecidableEq

def Configuration.default : Configuration := ⟨false, false, true, 10, false, 0, 0, 4⟩

structure DownloadInitiate where
  updateSessionID : BitVec 32
  backgroundDownload : Bool
  requestedPercentIncrement : BitVec 8
  loadImageImmediately : Bool
  deriving DecidableEq

structure LoadInitiate where
  updateSessionID : BitVec 32
  loadDelayType : BitVec 32
  timeToLoad : BitVec 32
  timeAfterInactive : BitVec 32
  deriving DecidableEq

inductive Broadcast
  | downloadInitiate (eventData : DownloadInitiate)
  | loadInitiate (eventData : LoadInitiate)
  deriving DecidableEq

/-- The events the handler's switch tells apart, with the members it reads. -/
inductive Event
  | readyToDownload (updateSessionID : BitVec 32)
  | downloadStatus (updateSessionID percentComplete : BitVec 32)
  | loadStatus (updateSessionID loadStatus : BitVec 32)
  | error (updateSessionID : BitVec 32) (errorMessage : Buf UInt8 errorLength)
      (errorType : BitVec 32)
  | other (eventId : Int)
  deriving DecidableEq

def Event.updateSessionID : Event → Option (BitVec 32)
  | .readyToDownload id | .downloadStatus id _ | .loadStatus id _ | .error id _ _ => some id
  | .other _ => none

section Handler

variable (cfg : Configuration)

def sendDownLoadInit (id : BitVec 32) : Broadcast :=
  .downloadInitiate
    ⟨id, cfg.backgroundDownload, cfg.requestedPercentIncrement.setWidth 8,
      cfg.loadImageImmediately⟩

def sendLoadInit (hour : BitVec 32) (id : BitVec 32) : Broadcast :=
  .loadInitiate
    { updateSessionID := id
      loadDelayType := cfg.loadDelayType
      timeToLoad :=
        if hour.toInt < cfg.loadBeforeHour.toInt then 0
        else (24 + (cfg.loadBeforeHour - hour)) * 60 * 60
      timeAfterInactive := cfg.loadTimeAfterInactive }

/-- Run `func` on the session, if there is one; `LOAD_STATUS` and `ERROR` do the same
without taking `mapMutex`. -/
def withUpdateInProgress (id : BitVec 32) (s : Updates)
    (func : UpdateInProgress → UpdateInProgress × List Broadcast) : Updates × List Broadcast :=
  match s id with
  | none => (s, [])
  | some uip => (Function.update s id (some (func uip).1), (func uip).2)

/-- The switch of `_deviceUpdateEventHandler`. -/
def handleEvent (hour : BitVec 32) (s : Updates) : Event → Updates × List Broadcast
  | .readyToDownload id =>
    withUpdateInProgress id s fun uip =>
      (uip, if cfg.interactiveDownload then [] else [sendDownLoadInit cfg id])
  | .downloadStatus id percentComplete =>
    withUpdateInProgress id s fun uip =>
      ({ uip with downloadPercent := percentComplete },
        if 100 ≤ percentComplete.toInt then
          if cfg.interactiveLoad then [] else [sendLoadInit cfg hour id]
        else [])
  | .loadStatus id loadStatus =>
    withUpdateInProgress id s fun uip =>
      ({ uip with loadComplete := loadStatus = loadStatusEnd }, [])
  | .error id errorMessage errorType =>
    withUpdateInProgress id s fun uip =>
      ({ uip with errorCode := errorType, errorMsg := errorMessage.str 0 }, [])
  | .other _ => (s, [])

def deviceUpdateEventHandler (owner : List UInt8) (hour : BitVec 32) (e : Event) (s : Updates) :
    Updates × List Broadcast :=
  if cstr 0 owner = iarmBusDeviceUpdateName then handleEvent cfg hour s e else (s, [])

def acceptParams (id : BitVec 32) (param : AcceptUpdateParam) : AcceptUpdateParam :=
  { param with
    updateSessionID := id
    interactiveDownload := cfg.interactiveDownload.toUInt8
    interactiveLoad := cfg.interactiveLoad.toUInt8 }

/-- `map::insert`, which keeps an entry that is there. -/
def insertUpdate (param : AcceptUpdateParam) (s : Updates) : Updates :=
  match s param.updateSessionID with
  | none => Function.update s param.updateSessionID (some ⟨param, 0, false, 0, []⟩)
  | some _ => s

end Handler

structure Acceptance where
  request : AcceptUpdateParam
  param : AcceptUpdateParam
  deriving DecidableEq

/-- `accepting` are the calls that have not reached the map yet.  From `accepted` on the
fields are history; `handled` are the manager's events that named a session in the map. -/
structure State where
  nextID : BitVec 32
  updatesInProgress : Updates
  accepting : List Acceptance
  accepted : List Acceptance
  handled : List Event
  broadcasts : List Broadcast

def State.init : State := ⟨1, fun _ => none, [], [], [], []⟩

inductive Action
  | acceptUpdate (request : AcceptUpdateParam)
  | insert (call : Acceptance)
  | event (owner : List UInt8) (hour : BitVec 32) (e : Event)

def finds (owner : List UInt8) (e : Event) (s : Updates) : Bool :=
  cstr 0 owner = iarmBusDeviceUpdateName && (e.updateSessionID.bind s).isSome

def step (cfg : Configuration) (s : State) : Action → Option State
  | .acceptUpdate request =>
    some { s with
      nextID := s.nextID + 1
      accepting := s.accepting ++ [⟨request, acceptParams cfg s.nextID request⟩] }
  | .insert call =>
    if call ∈ s.accepting then
      some { s with
        updatesInProgress := insertUpdate call.param s.updatesInProgress
        accepting := s.accepting.erase call
        accepted := s.accepted ++ [call] }
    else none
  | .event owner hour e =>
    some { s with
      updatesInProgress := (deviceUpdateEventHandler cfg owner hour e s.updatesInProgress).1
      handled := if finds owner e s.updatesInProgress then s.handled ++ [e] else s.handled
      broadcasts :=
        s.broadcasts ++ (deviceUpdateEventHandler cfg owner hour e s.updatesInProgress).2 }

def Action.isAcceptUpdate : Action → Bool
  | .acceptUpdate _ => true
  | _ => false

def State.calls (s : State) : List Acceptance := s.accepted ++ s.accepting

/-- A `LOAD_STATUS` of `LOAD_STATUS_END` has been handled for the session. -/
def State.Ended (s : State) (id : BitVec 32) : Prop := .loadStatus id loadStatusEnd ∈ s.handled

instance (s : State) (id : BitVec 32) : Decidable (s.Ended id) :=
  inferInstanceAs (Decidable (_ ∈ _))

/-- The event says again what the session's record says, and triggers nothing. -/
def Repeats (cfg : Configuration) (uip : UpdateInProgress) : Event → Prop
  | .readyToDownload _ => cfg.interactiveDownload = true
  | .downloadStatus _ percentComplete =>
    percentComplete = uip.downloadPercent ∧
      (100 ≤ percentComplete.toInt → cfg.interactiveLoad = true)
  | .loadStatus _ loadStatus => loadStatus = loadStatusEnd ↔ uip.loadComplete = true
  | .error _ errorMessage errorType =>
    errorType = uip.errorCode ∧ errorMessage.str 0 = uip.errorMsg
  | .other _ => True

end IarmMgrs.DeviceUpdateMgr.Sessions
