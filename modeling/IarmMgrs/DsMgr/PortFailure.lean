import IarmMgrs.DsMgr.AvPortsLaws

namespace IarmMgrs.DsMgr.AvPorts

open PowerEvents (PowerState)

section Failure

variable (dev : Devices) (table : List StandbyVideoState) (out : Outcomes) (isEAS : Bool)
  (powerState : PowerState)

def Outcomes.VideoSucceeds (p : Port) : Prop :=
  out.videoEnumerated = true ∧ out.videoCalls p = true

def Outcomes.AudioSucceeds (p : Port) : Prop :=
  out.audioEnumerated = true ∧ out.audioCalls (powerState = .on) p = true

/-- Every port that succeeds itself gets its required status. -/
structure Isolated (s : PortStatus) : Prop where
  video : ∀ p ∈ dev.videoPorts, out.VideoSucceeds p →
    (setAVPortsPowerState dev table out isEAS powerState s).videoEnabled p =
      requiredVideo dev table powerState s p
  audio : ∀ p ∈ dev.audioPorts, out.AudioSucceeds powerState p →
    (setAVPortsPowerState dev table out isEAS powerState s).audioEnabled p =
      requiredAudio out powerState s p

/-- Failures are isolated, except that in the branch for ON a failed enumeration of the video
ports keeps the audio ports from being enabled. -/
theorem portFailure_isolated_iff :
    (∀ s, Isolated dev table out isEAS powerState s) ↔
      powerState ≠ .on ∨ out.videoEnumerated = true ∨
        ∀ p ∈ dev.audioPorts, out.AudioSucceeds powerState p → out.enablePersist p = false := by
  constructor
  · intro hall
    by_contra hbad
    simp only [not_or, not_not, not_forall, Bool.not_eq_true, Bool.not_eq_false] at hbad
    obtain ⟨hon, hvideo, p, hp, hsucceeds, hpersist⟩ := hbad
    have hrequired := (hall ⟨fun _ => false, fun _ => false, 0⟩).audio p hp hsucceeds
    rw [audioEnabled_setAVPortsPowerState, if_neg, requiredAudio, if_pos hon, hpersist] at hrequired
    · cases hrequired
    · rintro ⟨-, hreached, -⟩
      rw [hreached hon] at hvideo
      cases hvideo
  · intro hgood s
    constructor
    · rintro p hp ⟨hvideo, hcalls⟩
      rw [videoEnabled_setAVPortsPowerState, if_pos ⟨hp, hvideo, hcalls⟩]
    · rintro p hp ⟨haudio, hcalls⟩
      rw [audioEnabled_setAVPortsPowerState]
      by_cases hreached : powerState = .on → out.videoEnumerated = true
      · rw [if_pos ⟨hp, hreached, haudio, hcalls⟩]
      · -- The branch for ON is left early, and the port is one that stays as it is.
        obtain ⟨hon, hvideo⟩ := Classical.not_imp.mp hreached
        have hskipped := ((hgood.resolve_left (not_not_intro hon)).resolve_left hvideo) p hp
          ⟨haudio, hcalls⟩
        rw [if_neg fun h => hreached h.2.1, requiredAudio, if_pos hon, hskipped, Bool.false_or]

end Failure

def noVideoOutcomes : Outcomes := { workingOutcomes with videoEnumerated := false }

theorem portFailure_not_isolated :
    spdifPort ∈ spdifBox.audioPorts ∧ noVideoOutcomes.AudioSucceeds .on spdifPort ∧
      requiredAudio noVideoOutcomes .on darkPorts spdifPort = true ∧
      (setAVPortsPowerState spdifBox hdmiStandby noVideoOutcomes false .on darkPorts).audioEnabled
        spdifPort = false :=
  ⟨List.mem_singleton_self _, ⟨rfl, rfl⟩, rfl, rfl⟩

end IarmMgrs.DsMgr.AvPorts
