import IarmMgrs.Lib.Mailbox
import IarmMgrs.Lib.Transition
import IarmMgrs.Lib.Waiter

/-! The power-event queue of `dsMgrPwrEventListener.c`: PowerController callbacks put
events into `pwrEventQueue` under one mutex and signal under another, and the handler
thread takes them out.  A section under a mutex is one step, except that the handler
thread holds `tdsPwrEventMutexLock` across several sections of the queue's mutex. -/

namespace IarmMgrs.DsMgr.PowerEvents

open Lib

inductive PowerState
  | unknown | off | standby | on | standbyLightSleep | standbyDeepSleep
  deriving DecidableEq

structure DSMgrPowerEventState where
  currentState : PowerState
  newState : PowerState
  deriving DecidableEq

/-- Where the handler thread stands while it does not wait for `tdsPwrEventMutexCond`.
In `locked` and `checked` it holds `tdsPwrEventMutexLock`. -/
inductive HandlerPc
  | loop
  | locked
  | checked (queueEmpty : Bool)
  | draining
  | handling (pwrEvent : DSMgrPowerEventState)
  | exited
  deriving DecidableEq

/-- How far `dsMgrDeinitPwrControllerEvt` has come. -/
inductive Deinit where | notCalled | joining | joined | cleared
  deriving DecidableEq

/-- `signalling` counts the callbacks between their emplace and their signal.  From
`accepted` on the fields are history. -/
structure State where
  pwrEventQueue : List DSMgrPowerEventState
  dsMgrPwrStopThread : Bool
  thread : Waiter HandlerPc
  signalling : Nat
  deinit : Deinit
  accepted : List DSMgrPowerEventState
  handled : List DSMgrPowerEventState
  lost : List DSMgrPowerEventState
  deriving DecidableEq

def State.init : State := ⟨[], false, .running .loop, 0, .notCalled, [], [], []⟩

def holdsEventMutex : Waiter HandlerPc → Bool
  | .running .locked => true
  | .running (.checked _) => true
  | _ => false

inductive Action
  | emplace (pwrEvent : DSMgrPowerEventState)
  | signal
  | lockEventMutex
  | spuriousWakeup
  | readQueueEmpty
  | decide
  | takeEvent
  | handled
  | stop
  | join
  | clear

/-- `_PwrEventHandler`, its section under `tdsPwrEventQueueMutexLock`. -/
def emplaceEvent (pwrEvent : DSMgrPowerEventState) (s : State) : State :=
  { s with
    pwrEventQueue := s.pwrEventQueue ++ [pwrEvent]
    signalling := s.signalling + 1
    accepted := s.accepted ++ [pwrEvent] }

/-- The test that guards the wait, with the queue status read before. -/
def decideWait (queueEmpty : Bool) (s : State) : State :=
  if !s.dsMgrPwrStopThread && queueEmpty then { s with thread := .blocked }
  else if s.dsMgrPwrStopThread then { s with thread := .running .exited }
  else { s with thread := .running .draining }

/-- One round of the drain loop, under `tdsPwrEventQueueMutexLock`. -/
def takeEvent (s : State) : State :=
  match s.pwrEventQueue with
  | [] => { s with thread := .running .loop }
  | pwrEvent :: rest =>
    { s with pwrEventQueue := rest, thread := .running (.handling pwrEvent) }

def finishEvent (pwrEvent : DSMgrPowerEventState) (s : State) : State :=
  { s with thread := .running .draining, handled := s.handled ++ [pwrEvent] }

def requestStop (s : State) : State :=
  { s with dsMgrPwrStopThread := true, thread := s.thread.signal, deinit := .joining }

def clearQueue (s : State) : State :=
  { s with pwrEventQueue := [], deinit := .cleared, lost := s.lost ++ s.pwrEventQueue }

def step (s : State) : Action → Option State
  | .emplace pwrEvent => some (emplaceEvent pwrEvent s)
  | .signal =>
    if 0 < s.signalling ∧ holdsEventMutex s.thread = false then
      some { s with signalling := s.signalling - 1, thread := s.thread.signal }
    else none
  | .lockEventMutex =>
    if s.thread = .running .loop ∨ s.thread = .woken then
      some { s with thread := .running .locked }
    else none
  | .spuriousWakeup => if s.thread = .blocked then some { s with thread := .woken } else none
  | .readQueueEmpty =>
    if s.thread = .running .locked then
      some { s with thread := .running (.checked s.pwrEventQueue.isEmpty) }
    else none
  | .decide =>
    match s.thread with
    | .running (.checked queueEmpty) => some (decideWait queueEmpty s)
    | _ => none
  | .takeEvent => if s.thread = .running .draining then some (takeEvent s) else none
  | .handled =>
    match s.thread with
    | .running (.handling pwrEvent) => some (finishEvent pwrEvent s)
    | _ => none
  | .stop =>
    if s.deinit = .notCalled ∧ holdsEventMutex s.thread = false then some (requestStop s) else none
  | .join =>
    if s.deinit = .joining ∧ s.thread = .running .exited then some { s with deinit := .joined }
    else none
  | .clear => if s.deinit = .joined then some (clearQueue s) else none

def inHand : Waiter HandlerPc → Option DSMgrPowerEventState
  | .running (.handling pwrEvent) => some pwrEvent
  | _ => none

def State.mailbox (s : State) : Mailbox DSMgrPowerEventState :=
  ⟨s.accepted, s.handled.map (·, .processed) ++ s.lost.map (·, .discarded), inHand s.thread,
    s.pwrEventQueue⟩

end IarmMgrs.DsMgr.PowerEvents
