import IarmMgrs.DsMgr.EasAudio

/-! `_SysModeChange` of `dsMgr.c` and its passes over the audio ports as they run undisturbed,
with the modes the audio HAL persists.  Every call of the HAL succeeds. -/

namespace IarmMgrs.DsMgr.EasModes

open EasAudio (SysMode AudioPort StereoMode)

structure Hal where
  mode : AudioPort → StereoMode
  persisted : AudioPort → StereoMode

structure Hdmi where
  connected : Bool
  autoMode : Bool

structure State where
  isEAS : SysMode
  hal : Hal

def Hal.dsGetStereoMode (hal : Hal) (toPersist : Bool) (port : AudioPort) : StereoMode :=
  if toPersist then hal.persisted port else hal.mode port

def Hal.dsSetStereoMode (hal : Hal) (toPersist : Bool) (port : AudioPort) (mode : StereoMode) :
    Hal where
  mode := Function.update hal.mode port mode
  persisted := if toPersist then Function.update hal.persisted port mode else hal.persisted

/-- One round of the loop of `_setEASAudioMode`. -/
def setEASPort (hal : Hal) (port : AudioPort) : Hal :=
  let mode := hal.dsGetStereoMode false port
  hal.dsSetStereoMode false port (if mode = .passthru then .stereo else mode)

def setEASAudioMode (audioConfigs : List AudioPort) (s : State) : State :=
  if s.isEAS ≠ .eas then s else { s with hal := audioConfigs.foldl setEASPort s.hal }

/-- One round of the loop of `_setAudioMode`. -/
def setAudioPort (hdmi : Hdmi) (hal : Hal) (port : AudioPort) : Hal :=
  let mode := hal.dsGetStereoMode true port
  if port = .hdmi then
    if !hdmi.connected then hal
    else hal.dsSetStereoMode false port (if hdmi.autoMode then .surround else mode)
  else hal.dsSetStereoMode false port mode

def setAudioMode (audioConfigs : List AudioPort) (hdmi : Hdmi) (s : State) : State :=
  if s.isEAS = .eas then s else { s with hal := audioConfigs.foldl (setAudioPort hdmi) s.hal }

/-- `_SysModeChange`; only EAS and NORMAL are processed. -/
def sysModeChange (audioConfigs : List AudioPort) (hdmi : Hdmi) (newMode : SysMode) (s : State) :
    State :=
  if newMode ≠ .eas ∧ newMode ≠ .normal then s
  else if s.isEAS = .eas ∧ newMode = .normal then
    setAudioMode audioConfigs hdmi { s with isEAS := .normal }
  else if s.isEAS = .normal ∧ newMode = .eas then
    setEASAudioMode audioConfigs { s with isEAS := .eas }
  else s

def sysModeChanges (audioConfigs : List AudioPort) (changes : List (SysMode × Hdmi)) (s : State) :
    State :=
  changes.foldl (fun s change => sysModeChange audioConfigs change.2 change.1 s) s

def audioMode (hdmi : Hdmi) (persisted : AudioPort → StereoMode) (port : AudioPort) : StereoMode :=
  if port = .hdmi ∧ hdmi.autoMode = true then .surround else persisted port

/-- The part of the state that the interleaved passes share. -/
def State.audio (s : State) : EasAudio.Audio := ⟨s.isEAS, s.hal.mode⟩

def answer (hdmi : Hdmi) (persisted : AudioPort → StereoMode) : EasAudio.Handler → EasAudio.Answer
  | .audioLoop (port :: _) => ⟨persisted port, hdmi.connected, hdmi.autoMode⟩
  | _ => ⟨.stereo, hdmi.connected, hdmi.autoMode⟩

end IarmMgrs.DsMgr.EasModes
