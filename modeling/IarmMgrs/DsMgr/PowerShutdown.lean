import IarmMgrs.DsMgr.StartUp
import IarmMgrs.DsMgr.PowerEventsLaws

/-! `DSMgr_Stop` against PowerController's callbacks and the detached connection thread:
`dsMgrDeinitPwrControllerEvt` ends the handler thread and destroys the primitives, and only
then `PowerController_Term` is called.  A callback comes as long as it is registered and
`PowerController_Term` has not returned; nothing unregisters it. -/

namespace IarmMgrs.DsMgr.PowerShutdown

open Lib Lib.Transition
open PowerEvents (PowerState)
open AvPorts (UxController)

/-- `tdsPwrEventMutexCond`, `tdsPwrEventQueueMutexLock` and `tdsPwrEventMutexLock`. -/
inductive Primitive | eventCond | queueMutex | eventMutex
  deriving DecidableEq

def allPrimitives : List Primitive := [.eventCond, .queueMutex, .eventMutex]

/-- `alive` are the primitives that have not been destroyed; `termed` tells that
`PowerController_Term` has returned. -/
structure State where
  startUp : StartUp.State
  alive : List Primitive
  termed : Bool
  deriving DecidableEq

def State.init (powerState : PowerState) : State := ⟨.init powerState, allPrimitives, false⟩

/-- `stop` to `term` are the steps of `DSMgr_Stop`. -/
inductive Action
  | startUp (act : StartUp.Action)
  | stop
  | join
  | clear
  | destroy
  | term

/-- A change of the power state that calls `_PwrEventHandler`. -/
def callsBack (s : StartUp.State) : StartUp.Action → Bool
  | .change _ => s.connPc ≠ .connecting
  | _ => false

def deinit (s : State) (act : PowerEvents.Action) : Option State :=
  (PowerEvents.step s.startUp.events act).map fun events =>
    { s with startUp := { s.startUp with events := events } }

def step (ux : Option UxController) (s : State) : Action → Option State
  | .startUp act =>
    if s.termed && callsBack s.startUp act then none
    else (StartUp.step ux s.startUp act).map fun startUp => { s with startUp := startUp }
  | .stop => deinit s .stop
  | .join => deinit s .join
  | .clear => deinit s .clear
  | .destroy =>
    if s.startUp.events.deinit = .cleared ∧ s.alive ≠ [] then some { s with alive := s.alive.tail }
    else none
  | .term => if s.alive = [] then some { s with termed := true } else none

/-- What a callback or a thread locks, signals or waits for.  A callback is in two parts, the
event put in and the signal. -/
def uses (s : StartUp.State) : StartUp.Action → List Primitive
  | .change _ => if s.connPc = .connecting then [] else [.queueMutex]
  | .events .signal | .events .decide => [.eventMutex, .eventCond]
  | .events .lockEventMutex => [.eventMutex]
  | .events .spuriousWakeup => [.eventCond]
  | .events .readQueueEmpty | .events .takeEvent => [.queueMutex]
  | _ => []

def note (s : State) : Action → Bool → Bool
  | .startUp act, misused => misused || (uses s.startUp act).any (· ∉ s.alive)
  | _, misused => misused

def observe (ux : Option UxController) : State × Bool → Action → Option (State × Bool) :=
  observed (step ux) note

def observeInit (powerState : PowerState) : State × Bool := (.init powerState, false)

/-- No callback is under way when the first primitive goes, and none begins after that. -/
def Drained (p : State × Bool) : Action → Prop
  | .startUp act => callsBack p.1.startUp act = true → .eventCond ∈ p.1.alive
  | .destroy => .eventCond ∈ p.1.alive → p.1.startUp.events.signalling = 0
  | _ => True

instance (p : State × Bool) : ∀ act, Decidable (Drained p act)
  | .startUp _ | .destroy => inferInstanceAs (Decidable (_ → _))
  | .stop | .join | .clear | .term => isTrue trivial

def signal : Action := .startUp (.events .signal)

end IarmMgrs.DsMgr.PowerShutdown
