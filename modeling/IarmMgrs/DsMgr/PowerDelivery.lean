import IarmMgrs.DsMgr.PowerEvents
import IarmMgrs.DsMgr.ProductTraits
import IarmMgrs.Lib.Progress

/-! Power events on their way through `dsMgrPwrEventListener.c` once start-up is over: from the
callback of PowerController through the queue to the product traits that the handler thread applies
them with, while calls over the bus and the retry thread go on. -/

namespace IarmMgrs.DsMgr.PowerDelivery

open Lib Lib.Transition
open PowerEvents (PowerState DSMgrPowerEventState inHand)

structure State where
  queue : PowerEvents.State
  device : ProductTraits.State

/-- `success` is the outcome of the RPC that an event makes while it is handled. -/
inductive Action
  | queue (act : PowerEvents.Action) (success : Bool)
  | call (act : ProductTraits.Action)

/-- The connection is made once, and events come from the queue. -/
def isCall : ProductTraits.Action → Bool
  | .connect .. | .powerEvent .. => false
  | .setAvPortState _ | .setLEDState _ | .setRebootConfig .. | .retry _ => true

section Step

variable (ledSync : Bool)

def applyEvent (act : PowerEvents.Action) (success : Bool) (s : State) : ProductTraits.State :=
  match act, inHand s.queue.thread with
  | .handled, some pwrEvent =>
    ProductTraits.dsMgrHandlePwrEventData ledSync pwrEvent.currentState pwrEvent.newState success
      s.device
  | _, _ => s.device

def step (s : State) : Action → Option State
  | .queue act success =>
    (PowerEvents.step s.queue act).map fun queue => ⟨queue, applyEvent ledSync act success s⟩
  | .call act =>
    if isCall act then
      (ProductTraits.step ledSync s.device act).map fun device => ⟨s.queue, device⟩
    else none

end Step

section Purpose

def eventOf : ProductTraits.Action → Option DSMgrPowerEventState
  | .powerEvent currentState newState _ => some ⟨currentState, newState⟩
  | _ => none

def pending (s : PowerEvents.State) : List DSMgrPowerEventState :=
  (inHand s.thread).toList ++ s.pwrEventQueue

structure Shows (powerState : PowerState) (s : ProductTraits.State) : Prop where
  ports : s.applied = some powerState
  led : s.ux = some .stbEu ∨ s.ux = some .stb → s.led = some (decide (powerState = .on))

/-- The events have been applied in order, and nothing since the last. -/
structure Applies (evs : List DSMgrPowerEventState) (s s' : State) : Prop where
  handled : s'.queue.handled = s.queue.handled ++ evs
  shows_last : ∀ pwrEvent, evs.getLast? = some pwrEvent → Shows pwrEvent.newState s'.device
  idle : evs = [] → s'.device = s.device

def Action.ofQueue : Action → Option PowerEvents.Action
  | .queue act _ => some act
  | .call _ => none

end Purpose

end IarmMgrs.DsMgr.PowerDelivery
