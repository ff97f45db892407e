import IarmMgrs.DsMgr.AvPorts
import IarmMgrs.DsMgr.PowerEvents

/-! The start-up of `dsMgrPwrEventListener.c`: the connection thread registers the
callback, reads the power states and applies the post-reboot configuration, while
PowerController notifies and the handler thread applies events.  PowerController answers a
read with the state it is in, and once the callback is registered notifies every change in
order.  One application of a state to the ports is one step. -/

namespace IarmMgrs.DsMgr.StartUp

open Lib
open PowerEvents (PowerState DSMgrPowerEventState emplaceEvent inHand)
open AvPorts (UxController postRebootState)

/-- Where the connection thread stands, from `PowerController_Connect` to the end of
`dsMgrPwrControllerFetchNinitStateValues`. -/
inductive ConnPc | connecting | registered | stateRead | rebootStateRead | done
  deriving DecidableEq

/-- `powerState` is PowerController's own.  `applied` is the last state applied to the AV
ports, `reported` the last one PowerController gave in a callback or as an answer; both
are history. -/
structure State where
  powerState : PowerState
  connPc : ConnPc
  curState : PowerState
  powerStateBeforeReboot : PowerState
  events : PowerEvents.State
  applied : Option PowerState
  reported : Option PowerState
  deriving DecidableEq

def State.init (powerState : PowerState) : State :=
  ⟨powerState, .connecting, .off, .standby, PowerEvents.State.init, none, none⟩

inductive Action
  | registerCallback
  | getPowerState (succeeds : Bool)
  | getPowerStateBeforeReboot (answer : Option PowerState)
  | applyPostReboot
  | change (newState : PowerState)
  | events (act : PowerEvents.Action)

/-- `PowerController_GetPowerState`; the current state stays as it is when it fails. -/
def getPowerState (succeeds : Bool) (s : State) : State :=
  if succeeds then
    { s with connPc := .stateRead, curState := s.powerState, reported := some s.powerState }
  else { s with connPc := .stateRead }

def applyPostReboot (ux : Option UxController) (s : State) : State :=
  { s with
    connPc := .done
    applied := some (postRebootState ux s.curState s.powerStateBeforeReboot) }

/-- PowerController changes its state and calls `_PwrEventHandler`, if it is registered. -/
def change (newState : PowerState) (s : State) : State :=
  if s.connPc = .connecting then { s with powerState := newState }
  else
    { s with
      powerState := newState
      events := emplaceEvent ⟨s.powerState, newState⟩ s.events
      reported := some newState }

def isThreadAction : PowerEvents.Action → Bool
  | .emplace _ | .stop | .join | .clear => false
  | _ => true

/-- A step of the event queue; `dsMgrHandlePwrEventData` applies the event in hand. -/
def threadStep (s : State) (act : PowerEvents.Action) : Option State :=
  (PowerEvents.step s.events act).map fun events =>
    match act with
    | .handled =>
      { s with
        events := events
        applied := (inHand s.events.thread).map DSMgrPowerEventState.newState }
    | _ => { s with events := events }

def step (ux : Option UxController) (s : State) : Action → Option State
  | .registerCallback =>
    if s.connPc = .connecting then some { s with connPc := .registered } else none
  | .getPowerState succeeds =>
    if s.connPc = .registered then some (getPowerState succeeds s) else none
  | .getPowerStateBeforeReboot answer =>
    if s.connPc = .stateRead then
      some { s with
        connPc := .rebootStateRead
        powerStateBeforeReboot := answer.getD s.powerStateBeforeReboot }
    else none
  | .applyPostReboot => if s.connPc = .rebootStateRead then some (applyPostReboot ux s) else none
  | .change newState => some (change newState s)
  | .events act => if isThreadAction act then threadStep s act else none

def pending (s : PowerEvents.State) : List DSMgrPowerEventState :=
  (inHand s.thread).toList ++ s.pwrEventQueue

/-- Once initialisation has finished and no event is left, the ports are configured for the
last state reported.  Without any event ON before the reboot may keep standby at ON. -/
def Settled (s : State) : Prop :=
  s.connPc = .done → s.events.pwrEventQueue = [] → inHand s.events.thread = none →
    ∀ powerState, s.reported = some powerState → s.applied = some powerState ∨
      s.events.accepted = [] ∧ s.powerStateBeforeReboot = .on ∧ powerState = .standby ∧
        s.applied = some .on

/-- The post-reboot configuration is applied before the first event, or with an event still
to be applied, or for the state PowerController is in. -/
def InTime (ux : Option UxController) (s : State) : Action → Prop
  | .applyPostReboot =>
    s.events.accepted = [] ∨ pending s.events ≠ [] ∨
      postRebootState ux s.curState s.powerStateBeforeReboot = s.powerState
  | _ => True

instance (ux : Option UxController) (s : State) (a : Action) : Decidable (InTime ux s a) := by
  unfold InTime
  cases a <;> infer_instance

end IarmMgrs.DsMgr.StartUp
