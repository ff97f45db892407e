import IarmMgrs.Lib.Pool

/-! Audio modes and the emergency alert system in `dsMgr.c`: `_SysModeChange`, the passes
`_setAudioMode` and `_setEASAudioMode` over the audio ports, and the end of
`_SetAVPortsPowerState` for ON.  Testing `isEAS`, storing it and every call that reads or
sets a mode are steps of their own; looking a handle up is part of the call after it. -/

namespace IarmMgrs.DsMgr.EasAudio

open Lib

inductive SysMode | normal | eas | warehouse
  deriving DecidableEq

inductive AudioPort
  | spdif | hdmi
  | other (typeId : Nat)
  deriving DecidableEq

inductive StereoMode
  | stereo | surround | passthru
  | other (value : Nat)
  deriving DecidableEq

structure Audio where
  isEAS : SysMode
  mode : AudioPort → StereoMode

def Audio.start (mode : AudioPort → StereoMode) : Audio := ⟨.normal, mode⟩

/-- The calls that begin from outside: an RPC, the tune-ready and hot-plug paths, and a
power transition whose ports have been enabled. -/
inductive Entry
  | sysModeChange (newMode : SysMode)
  | setAudioMode
  | setAVPortsPowerStateOn
  deriving DecidableEq

/-- Where a handler stands.  A loop carries the ports it has left, and a port that is
worked on the mode that is to be set. -/
inductive Handler
  | sysModeChange (newMode : SysMode)
  | sysModeStore (newMode : SysMode)
  | setAVPortsPowerStateOn
  | setAudioMode
  | audioLoop (ports : List AudioPort)
  | audioConnected (port : AudioPort) (mode : StereoMode) (ports : List AudioPort)
  | audioStereoAuto (port : AudioPort) (mode : StereoMode) (ports : List AudioPort)
  | audioSetStereoMode (port : AudioPort) (mode : StereoMode) (ports : List AudioPort)
  | setEASAudioMode
  | easLoop (ports : List AudioPort)
  | easSetStereoMode (port : AudioPort) (mode : StereoMode) (ports : List AudioPort)
  deriving DecidableEq

structure Answer where
  persistedMode : StereoMode
  connected : Bool
  autoMode : Bool
  deriving DecidableEq

def enter (e : Entry) (_ : Audio) : Handler :=
  match e with
  | .sysModeChange newMode => .sysModeChange newMode
  | .setAudioMode => .setAudioMode
  | .setAVPortsPowerStateOn => .setAVPortsPowerStateOn

/-- `_dsSetStereoMode` with `toPersist` false. -/
def setStereoMode (port : AudioPort) (mode : StereoMode) (s : Audio) : Audio :=
  { s with mode := Function.update s.mode port mode }

def changesMode (newMode isEAS : SysMode) : Bool :=
  (isEAS = .eas && newMode = .normal) || (isEAS = .normal && newMode = .eas)

def move (audioConfigs : List AudioPort) :
    Handler → Answer → Audio → Option (Audio × Option Handler)
  | .sysModeChange newMode, _, s =>
    some (s, if changesMode newMode s.isEAS then some (.sysModeStore newMode) else none)
  | .sysModeStore newMode, _, s =>
    some ({ s with isEAS := newMode },
      some (if newMode = .eas then .setEASAudioMode else .setAudioMode))
  | .setAVPortsPowerStateOn, _, s =>
    some (s, if s.isEAS = .eas then some .setEASAudioMode else none)
  | .setAudioMode, _, s =>
    some (s, if s.isEAS = .eas then none else some (.audioLoop audioConfigs))
  | .audioLoop [], _, s => some (s, none)
  | .audioLoop (port :: ports), answer, s =>
    some (s, some
      (if port = .hdmi then .audioConnected port answer.persistedMode ports
      else .audioSetStereoMode port answer.persistedMode ports))
  | .audioConnected port mode ports, answer, s =>
    some (s, some
      (if answer.connected then .audioStereoAuto port mode ports else .audioLoop ports))
  | .audioStereoAuto port mode ports, answer, s =>
    some (s, some
      (.audioSetStereoMode port (if answer.autoMode then .surround else mode) ports))
  | .audioSetStereoMode port mode ports, _, s =>
    some (setStereoMode port mode s, some (.audioLoop ports))
  | .setEASAudioMode, _, s =>
    some (s, if s.isEAS = .eas then some (.easLoop audioConfigs) else none)
  | .easLoop [], _, s => some (s, none)
  | .easLoop (port :: ports), _, s =>
    some (s, some
      (.easSetStereoMode port (if s.mode port = .passthru then .stereo else s.mode port) ports))
  | .easSetStereoMode port mode ports, _, s =>
    some (setStereoMode port mode s, some (.easLoop ports))

abbrev State := Pool Audio Handler
abbrev Action := Pool.Action Entry Answer

def step (audioConfigs : List AudioPort) : State → Action → Option State :=
  Pool.step enter (move audioConfigs)

/-- The handler will leave EAS, or has still to set the port in EAS. -/
def Handler.Settles (port : AudioPort) : Handler → Prop
  | .sysModeChange newMode => newMode = .normal
  | .sysModeStore _ | .setAVPortsPowerStateOn | .setEASAudioMode => True
  | .easLoop ports => port ∈ ports
  | .easSetStereoMode port' _ ports => port' = port ∨ port ∈ ports
  | _ => False

/-- A pass that began before EAS sets a port to PASSTHRU only while some handler is still
to settle that port. -/
def PassthruSettled (p : State) : Action → Prop
  | .advance t _ => ∀ port ports,
    p.threads t = some (.audioSetStereoMode port .passthru ports) →
      p.shared.isEAS = .eas → p.Any (Handler.Settles port)
  | _ => True

end IarmMgrs.DsMgr.EasAudio
