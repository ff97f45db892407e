import IarmMgrs.Lib.Transition
import IarmMgrs.Lib.Waiter

/-! Hot-plug and HDCP events in `dsMgr.c`: the event worker in `_ProcessEvent`, the
resolution thread and the delayed-resolution timer share unsynchronised variables.
Each access to a shared variable is one step, and so is a section under `tdsMutexLock`;
`g_source_remove` takes its argument from `hotplug_event_src` in the step that it removes in. -/

namespace IarmMgrs.DsMgr.HotPlug

open Lib

inductive DsDisplayEvent where | connected | disconnected | max
  deriving DecidableEq

inductive DsHdcpStatus where | authenticated | authenticationFailure | other
  deriving DecidableEq

/-- The events `_ProcessEvent` acts on, with what it reads of their data. -/
inductive BusEvent
  | tuneReady
  | hdmiHotplug (event : DsDisplayEvent)
  | hdcpStatus (status : DsHdcpStatus)
  deriving DecidableEq

/-- Where the resolution thread stands outside its wait. -/
inductive ResnPc
  | loop
  | copied (status : DsDisplayEvent)
  | removing (status : DsDisplayEvent)
  | clearing (status : DsDisplayEvent)
  | removed (status : DsDisplayEvent)
  | resolving
  | settingAudio
  | scheduling
  | storing (source : Nat)
  deriving DecidableEq

inductive WorkerPc
  | idle
  | tuned
  | authenticated
  | removing
  | clearing
  | resolving
  | failed
  | broadcasting (state : Int)
  deriving DecidableEq

inductive CallbackPc where | started | resolved | stored
  deriving DecidableEq

/-- The resolution thread and what `tdsMutexLock` protects.  From `acted` on the fields
are history: the status last acted on, the last status stored since the thread copied
one, whether the thread has waited, and whether a status was stored since it first did. -/
structure ResnThread where
  edisplayEventStatus : DsDisplayEvent
  thread : Waiter ResnPc
  acted : Option DsDisplayEvent
  unserved : Option DsDisplayEvent
  waited : Bool
  plugged : Bool
  deriving DecidableEq

/-- `hotplug_event_src`, the delayed-resolution sources attached to the main loop, and
the one whose callback is running. -/
structure DelayedTimer where
  hotplugEventSrc : Nat
  sources : List Nat
  callback : Option (Nat × CallbackPc)
  deriving DecidableEq

structure State where
  iTuneReady : Int
  bHDCPAuthenticated : Bool
  bootupFlagEnabled : Bool
  isIgnoreEdid : Bool
  resn : ResnThread
  timer : DelayedTimer
  worker : WorkerPc
  resolutions : Nat
  broadcasts : List Int
  deriving DecidableEq

def State.init (iTuneReady : Int) (isIgnoreEdid : Bool) : State where
  iTuneReady := iTuneReady
  bHDCPAuthenticated := false
  bootupFlagEnabled := true
  isIgnoreEdid := isIgnoreEdid
  resn := ⟨.max, .running .loop, none, none, false, false⟩
  timer := ⟨0, [], none⟩
  worker := .idle
  resolutions := 0
  broadcasts := []

def ResnThread.signal (r : ResnThread) : ResnThread := { r with thread := r.thread.signal }

/-- The section of `_ProcessEvent` that stores a hot-plug status and signals. -/
def ResnThread.storeStatus (r : ResnThread) (event : DsDisplayEvent) : ResnThread :=
  let status := if event = .connected then .connected else .disconnected
  { r with
    edisplayEventStatus := status
    thread := r.thread.signal
    unserved := some status
    plugged := r.waited || r.plugged }

/-- `g_source_remove(hotplug_event_src)`. -/
def DelayedTimer.removeSource (t : DelayedTimer) : DelayedTimer :=
  { t with sources := t.sources.erase t.hotplugEventSrc }

/-- `hotplug_event_src = 0`. -/
def DelayedTimer.clear (t : DelayedTimer) : DelayedTimer := { t with hotplugEventSrc := 0 }

def DelayedTimer.Fresh (t : DelayedTimer) (source : Nat) : Prop :=
  source ≠ 0 ∧ source ∉ t.sources ∧ t.callback.map Prod.fst ≠ some source

instance (t : DelayedTimer) (source : Nat) : Decidable (t.Fresh source) :=
  inferInstanceAs (Decidable (_ ∧ _ ∧ _))

/-- `g_timeout_add_seconds(5, _SetResolutionHandler, ...)`, which returns the id. -/
def DelayedTimer.attach (t : DelayedTimer) (source : Nat) : DelayedTimer :=
  { t with sources := source :: t.sources }

/-- `hotplug_event_src` gets the id. -/
def DelayedTimer.store (t : DelayedTimer) (source : Nat) : DelayedTimer :=
  { t with hotplugEventSrc := source }

/-- `_ProcessEvent` up to its next access to a shared variable. -/
def processEvent (s : State) : BusEvent → State
  | .tuneReady =>
    if s.iTuneReady = 0 then { s with iTuneReady := 1, worker := .tuned } else s
  | .hdmiHotplug event => { s with resn := s.resn.storeStatus event }
  | .hdcpStatus .authenticated => { s with bHDCPAuthenticated := true, worker := .authenticated }
  | .hdcpStatus .authenticationFailure => { s with bHDCPAuthenticated := false, worker := .failed }
  | .hdcpStatus .other => { s with worker := .broadcasting 1 }

def workerStep (s : State) : Option State :=
  match s.worker with
  | .idle => none
  | .tuned => some { s with resn := s.resn.signal, worker := .idle }
  | .authenticated =>
    some { s with worker := if s.timer.hotplugEventSrc ≠ 0 then .removing else .resolving }
  | .removing => some { s with timer := s.timer.removeSource, worker := .clearing }
  | .clearing => some { s with timer := s.timer.clear, worker := .resolving }
  | .resolving =>
    some (if !s.isIgnoreEdid || s.bootupFlagEnabled then
      { s with
        resolutions := s.resolutions + 1
        bootupFlagEnabled := false
        worker := .broadcasting 1 }
    else { s with worker := .broadcasting 1 })
  | .failed =>
    some (if !s.isIgnoreEdid then
      { s with resolutions := s.resolutions + 1, worker := .broadcasting 0 }
    else { s with worker := .broadcasting 0 })
  | .broadcasting state => some { s with broadcasts := s.broadcasts ++ [state], worker := .idle }

def State.goto (s : State) (pc : ResnPc) : State :=
  { s with resn := { s.resn with thread := .running pc } }

def actOnStatus (s : State) (status : DsDisplayEvent) : State :=
  let s := { s with resn := { s.resn with acted := some status } }
  if s.iTuneReady = 1 ∧ status = .connected then
    if s.bHDCPAuthenticated then s.goto .resolving else s.goto .settingAudio
  else if s.iTuneReady = 1 ∧ status = .disconnected then
    { s with bHDCPAuthenticated := false }.goto .scheduling
  else s.goto .loop

/-- `removeSource` is the next step of `if(hotplug_event_src) { ... }` in the resolution thread. -/
inductive Action
  | process (event : BusEvent)
  | worker
  | wait
  | spuriousWakeup
  | copy
  | removeSource
  | actOn
  | setResolution
  | setAudioMode
  | schedule (componentPort : Bool) (source : Nat)
  | storeSource
  | timerFires (source : Nat)
  | callbackResolves
  | callbackStores
  | callbackReturns

def State.atPc (s : State) (k : ResnPc → Option State) : Option State :=
  match s.resn.thread with
  | .running pc => k pc
  | _ => none

def State.inCallback (s : State) (k : Nat × CallbackPc → Option DelayedTimer) : Option State :=
  match s.timer.callback with
  | some cb => (k cb).map fun t => { s with timer := t }
  | none => none

def step (s : State) : Action → Option State
  | .process event => if s.worker = .idle then some (processEvent s event) else none
  | .worker => workerStep s
  | .wait =>
    if s.resn.thread = .running .loop then
      some { s with resn := { s.resn with thread := .blocked, waited := true } }
    else none
  | .spuriousWakeup =>
    if s.resn.thread = .blocked then some { s with resn := { s.resn with thread := .woken } }
    else none
  | .copy =>
    if s.resn.thread = .woken then
      some { s with resn := { s.resn with
        thread := .running (.copied s.resn.edisplayEventStatus), unserved := none } }
    else none
  | .removeSource => s.atPc fun
    | .copied status =>
      some (s.goto (if s.timer.hotplugEventSrc ≠ 0 then .removing status else .removed status))
    | .removing status => some ({ s with timer := s.timer.removeSource }.goto (.clearing status))
    | .clearing status => some ({ s with timer := s.timer.clear }.goto (.removed status))
    | _ => none
  | .actOn => s.atPc fun
    | .removed status => some (actOnStatus s status)
    | _ => none
  | .setResolution =>
    if s.resn.thread = .running .resolving then some (s.goto .settingAudio) else none
  | .setAudioMode =>
    if s.resn.thread = .running .settingAudio then some (s.goto .loop) else none
  | .schedule componentPort source =>
    if s.resn.thread = .running .scheduling ∧ (componentPort = true → s.timer.Fresh source) then
      some (if componentPort then { s with timer := s.timer.attach source }.goto (.storing source)
        else s.goto .loop)
    else none
  | .storeSource => s.atPc fun
    | .storing source => some ({ s with timer := s.timer.store source }.goto .loop)
    | _ => none
  | .timerFires source =>
    if s.timer.callback = none ∧ source ∈ s.timer.sources then
      some { s with timer := { s.timer with callback := some (source, .started) } }
    else none
  | .callbackResolves => s.inCallback fun
    | (source, .started) => some { s.timer with callback := some (source, .resolved) }
    | _ => none
  | .callbackStores => s.inCallback fun
    | (source, .resolved) =>
      some { s.timer.clear with callback := some (source, .stored) }
    | _ => none
  | .callbackReturns => s.inCallback fun
    | (source, .stored) =>
      some { s.timer with sources := s.timer.sources.erase source, callback := none }
    | _ => none

section Purpose

/-- `if(hotplug_event_src) { g_source_remove(hotplug_event_src); hotplug_event_src = 0; }` with
nothing in between. -/
def DelayedTimer.remove (t : DelayedTimer) : DelayedTimer :=
  if t.hotplugEventSrc ≠ 0 then t.removeSource.clear else t

/-- The worker or the resolution thread has removed a source and not yet cleared its id. -/
def State.Clearing (s : State) : Prop :=
  s.worker = .clearing ∨ ∃ status, s.resn.thread = .running (.clearing status)

def State.storing (s : State) : Option Nat :=
  match s.resn.thread with
  | .running (.storing source) => some source
  | _ => none

/-- With no callback midway, a source is live exactly if `hotplug_event_src` is its id.  Between a
removal and the clear behind it the id is that of no source, and between attaching a source and
storing its id the source has none. -/
structure Tracked (s : State) : Prop where
  live_iff : ¬ s.Clearing → s.storing = none → ∀ source,
    source ∈ s.timer.sources ↔ s.timer.hotplugEventSrc ≠ 0 ∧ source = s.timer.hotplugEventSrc
  named : ∀ source ∈ s.timer.sources,
    source = s.timer.hotplugEventSrc ∨ s.storing = some source
  live : s.timer.hotplugEventSrc ≠ 0 → s.timer.hotplugEventSrc ∈ s.timer.sources ∨ s.Clearing
  at_most_one : s.timer.sources.length ≤ 1
  cancelled : s.storing = none → s.timer.remove.sources = []

/-- The final store of a callback and the clear of the worker wipe out the id of no other source,
and an id is stored before the callback of its source makes its final store. -/
def StoresRight (s : State) : Action → Prop
  | .callbackStores => ∀ cb ∈ s.timer.callback,
      s.timer.hotplugEventSrc ∈ s.timer.sources → s.timer.hotplugEventSrc = cb.1
  | .worker => s.worker = .clearing → s.timer.hotplugEventSrc ∉ s.timer.sources
  | .storeSource => ∀ source ∈ s.storing,
      source ∈ s.timer.sources ∧ s.timer.callback ≠ some (source, .stored)
  | _ => True

instance (s : State) : ∀ act, Decidable (StoresRight s act)
  | .callbackStores => inferInstanceAs (Decidable (∀ cb ∈ s.timer.callback, _ → _))
  | .worker => inferInstanceAs (Decidable (_ → _))
  | .storeSource => inferInstanceAs (Decidable (∀ source ∈ s.storing, _ ∧ _))
  | .process _ | .wait | .spuriousWakeup | .copy | .removeSource | .actOn | .setResolution
  | .setAudioMode | .schedule _ _ | .timerFires _ | .callbackResolves | .callbackReturns =>
    isTrue trivial

end Purpose

end IarmMgrs.DsMgr.HotPlug
