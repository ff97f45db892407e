import IarmMgrs.DsMgr.HotPlug

/-! `bHDCPAuthenticated` of `dsMgr.c` against the events behind it: the event worker sets
it, and the resolution thread resets it for a disconnect it has copied earlier. -/

namespace IarmMgrs.DsMgr.HotPlug

open Lib.Transition

/-- Where the last AUTHENTICATED event stands: a disconnect or an AUTHENTICATIONFAILURE came
after it or there was none; or it stands; or it does, and the resolution thread has acted on
a disconnect since. -/
inductive Standing | revoked | stands | overwritten
  deriving DecidableEq

def State.Disconnects (s : State) : Prop :=
  s.iTuneReady = 1 ∧ s.resn.thread = .running (.removed .disconnected)

instance (s : State) : Decidable s.Disconnects := inferInstanceAs (Decidable (_ ∧ _))

def Standing.note (s : State) : Action → Standing → Standing
  | .process (.hdcpStatus .authenticated), _ => .stands
  | .process (.hdcpStatus .authenticationFailure), _ => .revoked
  | .process (.hdmiHotplug event), standing => if event = .connected then standing else .revoked
  | .actOn, .stands => if s.Disconnects then .overwritten else .stands
  | _, standing => standing

/-- The system with a record of the last AUTHENTICATED event. -/
def observe : State × Standing → Action → Option (State × Standing) := observed step Standing.note

def observeInit (iTuneReady : Int) (ignoreEdid : Bool) : State × Standing :=
  (State.init iTuneReady ignoreEdid, .revoked)

/-- While the resolution thread waits, an AUTHENTICATED event that has not been revoked
shows in the flag. -/
def Authenticated (p : State × Standing) : Prop :=
  p.1.resn.thread = .blocked → p.2 ≠ .revoked → p.1.bHDCPAuthenticated = true

/-- The resolution thread does not go to wait with an AUTHENTICATED event overwritten. -/
def Respected (p : State × Standing) : Action → Prop
  | .wait => p.2 ≠ .overwritten
  | _ => True

instance (p : State × Standing) : ∀ act, Decidable (Respected p act)
  | .wait => inferInstanceAs (Decidable (_ ≠ _))
  | .process _ | .worker | .spuriousWakeup | .copy | .removeSource | .actOn | .setResolution
  | .setAudioMode | .schedule _ _ | .storeSource | .timerFires _ | .callbackResolves
  | .callbackStores | .callbackReturns => isTrue trivial

end IarmMgrs.DsMgr.HotPlug
