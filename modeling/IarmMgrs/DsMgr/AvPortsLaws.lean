import IarmMgrs.DsMgr.AvPorts
import IarmMgrs.Lib.Sweep
import IarmMgrs.Lib.Transition
import Mathlib.Data.List.Induction

namespace IarmMgrs.DsMgr.AvPorts

open Lib Lib.CString Lib.Transition
open PowerEvents (PowerState)

variable {dev : Devices} {table : List StandbyVideoState} {out : Outcomes} {isEAS : Bool}

/-- No call fails or throws; the persisted settings are arbitrary. -/
structure Outcomes.Succeed (out : Outcomes) : Prop where
  videoEnumerated : out.videoEnumerated = true
  audioEnumerated : out.audioEnumerated = true
  videoAt : ∀ p, out.videoAt p = true
  audioAt : ∀ p, out.audioAt p = true
  getVideoPort : ∀ p, out.getVideoPort p = .succeeds
  enableVideoPort : ∀ p, out.enableVideoPort p = .succeeds
  getAudioPort : ∀ p, out.getAudioPort p = .succeeds
  getEnablePersist : ∀ p, out.getEnablePersist p = .succeeds
  enableAudioPort : ∀ p, out.enableAudioPort p = .succeeds

def Outcomes.videoCalls (out : Outcomes) (p : Port) : Bool :=
  out.videoAt p && out.getVideoPort p = .succeeds && out.enableVideoPort p = .succeeds

def Outcomes.audioCalls (out : Outcomes) (requestEnable : Bool) (p : Port) : Bool :=
  out.audioAt p && out.getAudioPort p = .succeeds &&
    (!requestEnable || out.getEnablePersist p = .succeeds) &&
    (requestEnable && !out.enablePersist p || out.enableAudioPort p = .succeeds)

theorem Outcomes.Succeed.videoCalls (h : out.Succeed) (p : Port) : out.videoCalls p = true := by
  simp [Outcomes.videoCalls, h.videoAt, h.getVideoPort, h.enableVideoPort]

theorem Outcomes.Succeed.audioCalls (h : out.Succeed) (b : Bool) (p : Port) :
    out.audioCalls b p = true := by
  simp [Outcomes.audioCalls, h.audioAt, h.getAudioPort, h.getEnablePersist, h.enableAudioPort]

theorem configureVideoPort_video (out : Outcomes) (p q : Port) (b : Bool) (s : PortStatus) :
    (configureVideoPort out p b s).1.videoEnabled q =
      if q = p ∧ out.getVideoPort p = .succeeds ∧ out.enableVideoPort p = .succeeds then b
      else s.videoEnabled q := by
  unfold configureVideoPort
  cases out.getVideoPort p with
  | succeeds => cases out.enableVideoPort p <;> simp [Function.update_apply]
  | fails | throws => simp

theorem configureAudioPort_video (out : Outcomes) (p : Port) (b : Bool) (s : PortStatus) :
    (configureAudioPort out p b s).1.videoEnabled = s.videoEnabled := by
  unfold configureAudioPort
  repeat' split
  all_goals rfl

theorem switchAudioPort_video (l : List Port) (b : Bool) (s : PortStatus) :
    (l.foldl (switchAudioPort out b) s).videoEnabled = s.videoEnabled := by
  refine Sweep.foldl_keeps (fun s p => ?_) l s
  rw [switchAudioPort]
  split
  · rfl
  · exact configureAudioPort_video out p b s

def standbySetting (dev : Devices) (table : List StandbyVideoState) (p : Port) : Bool :=
  getVideoPortStandbySetting dev table (dev.videoName p)

theorem foldl_standbyVideoPort (out : Outcomes) (powerState : PowerState) (l : List Port)
    (s : PortStatus) (p : Port) :
    (l.foldl (standbyVideoPort dev table out powerState) s).videoEnabled p =
      if p ∈ l ∧ (out.videoCalls p && (!standbySetting dev table p || powerState = .off)) then false
      else s.videoEnabled p := by
  refine Sweep.foldl_writes (fun _ => True) PortStatus.videoEnabled
    (fun p => (out.videoCalls p && (!standbySetting dev table p || powerState = .off)) = true)
    (fun _ => false) (fun _ _ _ => trivial) (fun s q r _ => ?_) l trivial p
  cases hat : out.videoAt q with
  | false => simp [standbyVideoPort, Outcomes.videoCalls, hat]
  | true =>
    by_cases hhit : (!standbySetting dev table q || powerState = .off) = true
    · rw [standbyVideoPort, ← standbySetting, if_neg (by simp [hat]), if_pos hhit,
        configureVideoPort_video]
      simp only [Outcomes.videoCalls, hat, hhit]
      simp
    · rw [standbyVideoPort, ← standbySetting, if_neg (by simp [hat]), if_neg hhit, if_neg]
      simp [hhit]

theorem foldl_enableVideoPort (out : Outcomes) (l : List Port) (s : PortStatus) (p : Port) :
    (l.foldl (enableVideoPort out) s).videoEnabled p =
      if p ∈ l ∧ out.videoCalls p then true else s.videoEnabled p := by
  refine Sweep.foldl_writes (fun _ => True) PortStatus.videoEnabled (out.videoCalls · = true)
    (fun _ => true) (fun _ _ _ => trivial) (fun s q r _ => ?_) l trivial p
  cases hat : out.videoAt q <;>
    simp [enableVideoPort, Outcomes.videoCalls, hat, configureVideoPort_video]

/-- What a power state asks of a video port: the standby states leave a port alone whose
standby setting is enabled. -/
def requiredVideo (dev : Devices) (table : List StandbyVideoState) (powerState : PowerState)
    (s : PortStatus) (p : Port) : Bool :=
  if powerState = .on then true
  else if powerState = .off then false
  else standbySetting dev table p && s.videoEnabled p

/-- A transition gives every video port its required status whose calls succeed, whatever
happens to the others. -/
theorem videoEnabled_setAVPortsPowerState (out : Outcomes) (powerState : PowerState)
    (s : PortStatus) (p : Port) :
    (setAVPortsPowerState dev table out isEAS powerState s).videoEnabled p =
      if p ∈ dev.videoPorts ∧ out.videoEnumerated ∧ out.videoCalls p then
        requiredVideo dev table powerState s p
      else s.videoEnabled p := by
  by_cases hon : powerState = .on
  · have hvideo := foldl_enableVideoPort out dev.videoPorts s p
    cases hv : out.videoEnumerated with
    | false => simp [setAVPortsPowerState, hon, hv]
    | true =>
      cases ha : out.audioEnumerated <;> cases isEAS <;>
        simpa [setAVPortsPowerState, requiredVideo, hon, hv, ha, switchAudioPort_video] using hvideo
  · have hvideo : (dev.videoPorts.foldl (standbyVideoPort dev table out powerState)
        s).videoEnabled p = _ := foldl_standbyVideoPort out powerState dev.videoPorts s p
    have haudio (s : PortStatus) : (if out.audioEnumerated then
        dev.audioPorts.foldl (switchAudioPort out false) s else s).videoEnabled p =
          s.videoEnabled p := by
      split
      · rw [switchAudioPort_video]
      · rfl
    simp only [setAVPortsPowerState, ne_eq, hon, not_false_eq_true, if_true, haudio]
    cases hv : out.videoEnumerated with
    | false => simp
    | true =>
      simp only [if_true, hvideo, requiredVideo, hon, if_false]
      by_cases hp : p ∈ dev.videoPorts ∧ out.videoCalls p = true
      · by_cases hoff : powerState = .off
        · simp [hp, hoff]
        · cases standbySetting dev table p <;> simp [hp, hoff]
      · rw [if_neg, if_neg]
        · simpa using hp
        · simp only [Bool.and_eq_true]
          exact fun h => hp ⟨h.1, h.2.1⟩

theorem setAVPortsPowerState_video (h : out.Succeed) (powerState : PowerState) (s : PortStatus)
    (p : Port) :
    (setAVPortsPowerState dev table out isEAS powerState s).videoEnabled p =
      if p ∈ dev.videoPorts then
        if powerState = .on then true
        else if powerState = .off then false
        else standbySetting dev table p && s.videoEnabled p
      else s.videoEnabled p := by
  simp [videoEnabled_setAVPortsPowerState, h.videoEnumerated, h.videoCalls, requiredVideo]

/-- The status a transition into a state should leave, from the state alone. -/
def expectedStatus (dev : Devices) (table : List StandbyVideoState) (powerState : PowerState)
    (p : Port) : Bool :=
  if powerState = .on then true
  else if powerState = .off then false
  else standbySetting dev table p

structure Transition where
  powerState : PowerState
  out : Outcomes
  isEAS : Bool

def applyHistory (dev : Devices) (table : List StandbyVideoState) (history : List Transition)
    (s : PortStatus) : PortStatus :=
  history.foldl (fun s t => setAVPortsPowerState dev table t.out t.isEAS t.powerState s) s

def lastSwitch (history : List Transition) : Option Bool :=
  history.reverse.findSome? fun t =>
    match t.powerState with
    | .on => some true
    | .off => some false
    | _ => none

/-- A port with a standby setting is only ever changed by ON and OFF. -/
theorem applyHistory_standby {history : List Transition} (h : ∀ t ∈ history, t.out.Succeed)
    {p : Port} (hp : p ∈ dev.videoPorts) (hset : standbySetting dev table p = true)
    (s : PortStatus) :
    (applyHistory dev table history s).videoEnabled p =
      (lastSwitch history).getD (s.videoEnabled p) := by
  induction history using List.reverseRecOn with
  | nil => rfl
  | append_singleton history t ih =>
    have ht : t.out.Succeed := h t (by simp)
    have ih := ih fun u hu => h u (by simp [hu])
    rw [applyHistory, List.foldl_concat, setAVPortsPowerState_video ht, if_pos hp, hset]
    rw [applyHistory] at ih
    cases hstate : t.powerState <;> simp [lastSwitch, hstate]
    all_goals exact ih

def ReadyFor (dev : Devices) (table : List StandbyVideoState) (history : List Transition)
    (s : PortStatus) (powerState : PowerState) : Prop :=
  powerState = .on ∨ powerState = .off ∨ ∀ p ∈ dev.videoPorts,
    standbySetting dev table p = true → (lastSwitch history).getD (s.videoEnabled p) = true

theorem applyHistory_expected_iff {history : List Transition} {last : Transition}
    (h : ∀ t ∈ history ++ [last], t.out.Succeed) (s : PortStatus) :
    (∀ p ∈ dev.videoPorts, (applyHistory dev table (history ++ [last]) s).videoEnabled p =
      expectedStatus dev table last.powerState p) ↔
    ReadyFor dev table history s last.powerState := by
  have hlast : last.out.Succeed := h last (by simp)
  have hhist : ∀ t ∈ history, t.out.Succeed := fun t ht => h t (by simp [ht])
  have hvideo (p : Port) (hp : p ∈ dev.videoPorts) :
      (applyHistory dev table (history ++ [last]) s).videoEnabled p =
        if last.powerState = .on then true
        else if last.powerState = .off then false
        else standbySetting dev table p && (applyHistory dev table history s).videoEnabled p := by
    rw [applyHistory, List.foldl_concat, setAVPortsPowerState_video hlast, if_pos hp]
    rfl
  unfold ReadyFor expectedStatus
  by_cases hon : last.powerState = .on
  · simp +contextual [hvideo, hon]
  by_cases hoff : last.powerState = .off
  · simp +contextual [hvideo, hoff]
  simp only [hon, hoff, false_or, if_false] at hvideo ⊢
  refine forall₂_congr fun p hp => ?_
  rw [hvideo p hp]
  cases hset : standbySetting dev table p
  · simp
  · simp [applyHistory_standby hhist hp hset]

/-- Two histories ending in one state both leave every port as that state alone says exactly
when each of them is ready for its last transition. -/
theorem setAVPortsPowerState_history_iff {history history' : List Transition}
    {last last' : Transition} (h : ∀ t ∈ history ++ [last], t.out.Succeed)
    (h' : ∀ t ∈ history' ++ [last'], t.out.Succeed) (hlast : last'.powerState = last.powerState)
    (s s' : PortStatus) :
    (∀ p ∈ dev.videoPorts,
      (applyHistory dev table (history ++ [last]) s).videoEnabled p =
        (applyHistory dev table (history' ++ [last']) s').videoEnabled p ∧
      (applyHistory dev table (history ++ [last]) s).videoEnabled p =
        expectedStatus dev table last.powerState p) ↔
    ReadyFor dev table history s last.powerState ∧
      ReadyFor dev table history' s' last.powerState := by
  rw [← applyHistory_expected_iff h s, ← hlast, ← applyHistory_expected_iff h' s', hlast]
  constructor
  · exact fun hall => ⟨fun p hp => (hall p hp).2, fun p hp => (hall p hp).1 ▸ (hall p hp).2⟩
  · exact fun ⟨hleft, hright⟩ p hp => ⟨(hleft p hp).trans (hright p hp).symm, hleft p hp⟩

def workingOutcomes : Outcomes where
  videoEnumerated := true
  audioEnumerated := true
  videoAt _ := true
  audioAt _ := true
  getVideoPort _ := .succeeds
  enableVideoPort _ := .succeeds
  getAudioPort _ := .succeeds
  getEnablePersist _ := .succeeds
  enablePersist _ := true
  enableAudioPort _ := .succeeds

theorem workingOutcomes_succeed : workingOutcomes.Succeed where
  videoEnumerated := rfl
  audioEnumerated := rfl
  videoAt _ := rfl
  audioAt _ := rfl
  getVideoPort _ := rfl
  enableVideoPort _ := rfl
  getAudioPort _ := rfl
  getEnablePersist _ := rfl
  enableAudioPort _ := rfl

def hdmiPort : Port := ⟨4, 0⟩

def hdmiBox : Devices where
  videoPorts := [hdmiPort]
  audioPorts := []
  videoName _ := lit "HDMI0"
  videoOutputPort name := if name = lit "HDMI0" then some hdmiPort else none
  maxNameLength := 16

def hdmiStandby : List StandbyVideoState := [⟨lit "HDMI0", true⟩]

def darkPorts : PortStatus where
  videoEnabled _ := false
  audioEnabled _ := false
  easAudioModes := 0

def workingTransition (powerState : PowerState) : Transition := ⟨powerState, workingOutcomes, false⟩

/-- Standby after ON keeps the port of the setting enabled, standby after OFF disabled. -/
theorem standby_depends_on_history :
    (applyHistory hdmiBox hdmiStandby
      ([.on].map workingTransition ++ [workingTransition .standby]) darkPorts).videoEnabled
        hdmiPort = true ∧
    (applyHistory hdmiBox hdmiStandby
      ([.on, .off].map workingTransition ++ [workingTransition .standby]) darkPorts).videoEnabled
        hdmiPort = false := by
  decide

theorem setAVPortsPowerState_history_iff_offStandby :
    ¬ ReadyFor hdmiBox hdmiStandby ([.on, .off].map workingTransition) darkPorts .standby := by
  intro hready
  have hsucceed : ∀ t ∈ [.on, .off].map workingTransition ++ [workingTransition .standby],
      t.out.Succeed := by
    simpa [workingTransition] using workingOutcomes_succeed
  have hall := (setAVPortsPowerState_history_iff hsucceed hsucceed rfl darkPorts darkPorts).mpr
    ⟨hready, hready⟩ hdmiPort (List.mem_singleton_self _)
  exact absurd hall.2 (by decide)

theorem configureVideoPort_audio (out : Outcomes) (p : Port) (b : Bool) (s : PortStatus) :
    (configureVideoPort out p b s).1.audioEnabled = s.audioEnabled := by
  unfold configureVideoPort
  repeat' split
  all_goals rfl

theorem standbyVideoPort_audio (powerState : PowerState) (s : PortStatus) (p : Port) :
    (standbyVideoPort dev table out powerState s p).audioEnabled = s.audioEnabled := by
  simp only [standbyVideoPort]
  split
  · rfl
  · split
    · exact configureVideoPort_audio out p false s
    · rfl

theorem enableVideoPort_audio (s : PortStatus) (p : Port) :
    (enableVideoPort out s p).audioEnabled = s.audioEnabled := by
  unfold enableVideoPort
  split
  · rfl
  · exact configureVideoPort_audio out p true s

theorem switchAudioPort_audio (out : Outcomes) (b : Bool) (s : PortStatus) (p q : Port) :
    (switchAudioPort out b s p).audioEnabled q =
      if q = p ∧ (out.audioCalls b p && !(b && !out.enablePersist p)) then b
      else s.audioEnabled q := by
  cases hat : out.audioAt p with
  | false => simp [switchAudioPort, Outcomes.audioCalls, hat]
  | true =>
    cases hget : out.getAudioPort p with
    | fails | throws => simp [switchAudioPort, configureAudioPort, Outcomes.audioCalls, hat, hget]
    | succeeds =>
      cases b with
      | false =>
        cases henable : out.enableAudioPort p <;>
          simp [switchAudioPort, configureAudioPort, Outcomes.audioCalls, hat, hget, henable,
            Function.update_apply]
      | true =>
        cases hpersist : out.getEnablePersist p with
        | fails | throws =>
          simp [switchAudioPort, configureAudioPort, Outcomes.audioCalls, hat, hget, hpersist]
        | succeeds =>
          cases hset : out.enablePersist p <;> cases henable : out.enableAudioPort p <;>
            simp [switchAudioPort, configureAudioPort, Outcomes.audioCalls, hat, hget, hpersist,
              hset, henable, Function.update_apply]

theorem foldl_switchAudioPort (out : Outcomes) (b : Bool) (l : List Port) (s : PortStatus)
    (p : Port) :
    (l.foldl (switchAudioPort out b) s).audioEnabled p =
      if p ∈ l ∧ (out.audioCalls b p && !(b && !out.enablePersist p)) then b
      else s.audioEnabled p :=
  Sweep.foldl_writes (fun _ => True) PortStatus.audioEnabled
    (fun p => (out.audioCalls b p && !(b && !out.enablePersist p)) = true) (fun _ => b)
    (fun _ _ _ => trivial) (fun s p q _ => switchAudioPort_audio out b s p q) l trivial p

/-- What a power state asks of an audio port: ON enables a port or leaves it alone, whatever
else disables it. -/
def requiredAudio (out : Outcomes) (powerState : PowerState) (s : PortStatus) (p : Port) : Bool :=
  if powerState = .on then out.enablePersist p || s.audioEnabled p else false

/-- A transition gives every audio port its required status whose calls succeed, but the
branch for ON has to get past the video ports first. -/
theorem audioEnabled_setAVPortsPowerState (out : Outcomes) (powerState : PowerState)
    (s : PortStatus) (p : Port) :
    (setAVPortsPowerState dev table out isEAS powerState s).audioEnabled p =
      if p ∈ dev.audioPorts ∧ (powerState = .on → out.videoEnumerated = true) ∧
          out.audioEnumerated = true ∧ out.audioCalls (powerState = .on) p = true then
        requiredAudio out powerState s p
      else s.audioEnabled p := by
  by_cases hon : powerState = .on
  · have haudio := foldl_switchAudioPort out true dev.audioPorts
      (dev.videoPorts.foldl (enableVideoPort out) s) p
    have hvideo : (dev.videoPorts.foldl (enableVideoPort out) s).audioEnabled = s.audioEnabled :=
      Sweep.foldl_keeps enableVideoPort_audio dev.videoPorts s
    rw [hvideo] at haudio
    cases hv : out.videoEnumerated with
    | false => simp [setAVPortsPowerState, hon, hv]
    | true =>
      cases ha : out.audioEnumerated with
      | false => simp [setAVPortsPowerState, hon, hv, ha, hvideo]
      | true =>
        have hsame : (setAVPortsPowerState dev table out isEAS powerState s).audioEnabled p =
            (dev.audioPorts.foldl (switchAudioPort out true)
              (dev.videoPorts.foldl (enableVideoPort out) s)).audioEnabled p := by
          cases isEAS <;> simp [setAVPortsPowerState, hon, hv, ha]
        rw [hsame, haudio]
        by_cases hp : p ∈ dev.audioPorts ∧ out.audioCalls true p = true
        · cases hset : out.enablePersist p <;> simp [hon, hp, requiredAudio, hset]
        · rw [if_neg, if_neg]
          · simpa [hon] using hp
          · simp only [Bool.and_eq_true]
            exact fun h => hp ⟨h.1, h.2.1⟩
  · have hvideo (s : PortStatus) : (if out.videoEnumerated then
        dev.videoPorts.foldl (standbyVideoPort dev table out powerState) s else s).audioEnabled p =
          s.audioEnabled p := by
      split
      · rw [Sweep.foldl_keeps (standbyVideoPort_audio powerState)]
      · rfl
    simp only [setAVPortsPowerState, ne_eq, hon, not_false_eq_true, if_true, requiredAudio,
      if_false]
    cases ha : out.audioEnumerated with
    | false => simp [hvideo]
    | true => simp [foldl_switchAudioPort, hvideo]

theorem setAVPortsPowerState_audio (h : out.Succeed) (powerState : PowerState) (s : PortStatus)
    (p : Port) :
    (setAVPortsPowerState dev table out isEAS powerState s).audioEnabled p =
      if p ∈ dev.audioPorts then
        if powerState = .on then out.enablePersist p || s.audioEnabled p else false
      else s.audioEnabled p := by
  simp [audioEnabled_setAVPortsPowerState, h.videoEnumerated, h.audioEnumerated, h.audioCalls,
    requiredAudio]

/-- A port without persisted enable stays disabled from the first state other than ON. -/
theorem applyHistory_unpersisted {history : List Transition} (h : ∀ t ∈ history, t.out.Succeed)
    {p : Port} (hp : p ∈ dev.audioPorts) (hpersist : ∀ t ∈ history, t.out.enablePersist p = false)
    (s : PortStatus) (hoff : ∃ t ∈ history, t.powerState ≠ .on) :
    (applyHistory dev table history s).audioEnabled p = false := by
  induction history using List.reverseRecOn with
  | nil => simp at hoff
  | append_singleton history t ih =>
    have ht : t.out.Succeed := h t (by simp)
    rw [applyHistory, List.foldl_concat, setAVPortsPowerState_audio ht, if_pos hp]
    split
    case isTrue hon =>
      have hbefore : ∃ t ∈ history, t.powerState ≠ .on := by
        obtain ⟨u, hu, hne⟩ := hoff
        rcases List.mem_append.mp hu with hu | hu
        · exact ⟨u, hu, hne⟩
        · obtain rfl := List.mem_singleton.mp hu
          exact absurd hon hne
      have ih := ih (fun u hu => h u (by simp [hu])) (fun u hu => hpersist u (by simp [hu])) hbefore
      rw [applyHistory] at ih
      rw [hpersist t (by simp), ih]
      rfl
    case isFalse => rfl

/-- Cycling the power leaves every audio port as the last state and the persisted settings
say. -/
theorem audioPorts_powerCycle {persist : Port → Bool} {history : List Transition}
    {last : Transition} (h : ∀ t ∈ history ++ [last], t.out.Succeed)
    (hpersist : ∀ t ∈ history ++ [last], t.out.enablePersist = persist) (s : PortStatus) :
    ∀ p ∈ dev.audioPorts,
      (last.powerState ≠ .on →
        (applyHistory dev table (history ++ [last]) s).audioEnabled p = false) ∧
      (last.powerState = .on → persist p = true →
        (applyHistory dev table (history ++ [last]) s).audioEnabled p = true) ∧
      (last.powerState = .on → persist p = false →
        (applyHistory dev table (history ++ [last]) s).audioEnabled p =
          (applyHistory dev table history s).audioEnabled p) ∧
      (persist p = false → (∃ t ∈ history ++ [last], t.powerState ≠ .on) →
        (applyHistory dev table (history ++ [last]) s).audioEnabled p = false) := by
  intro p hp
  have hstep : (applyHistory dev table (history ++ [last]) s).audioEnabled p =
      if last.powerState = .on then persist p || (applyHistory dev table history s).audioEnabled p
      else false := by
    have hlast : (setAVPortsPowerState dev table last.out last.isEAS last.powerState
        (applyHistory dev table history s)).audioEnabled p = _ :=
      setAVPortsPowerState_audio (h last (by simp)) last.powerState _ p
    rw [if_pos hp, hpersist last (by simp)] at hlast
    rw [← hlast, applyHistory, List.foldl_concat, applyHistory]
  refine ⟨fun hne => ?_, fun hon hset => ?_, fun hon hset => ?_, fun hset hoff => ?_⟩
  · rw [hstep, if_neg hne]
  · rw [hstep, if_pos hon, hset, Bool.true_or]
  · rw [hstep, if_pos hon, hset, Bool.false_or]
  · refine applyHistory_unpersisted h hp (fun t ht => ?_) s hoff
    rw [hpersist t ht, hset]

def spdifPort : Port := ⟨0, 0⟩

def spdifBox : Devices := { hdmiBox with audioPorts := [spdifPort] }

theorem audioPorts_powerCycle_standbyOn :
    (applyHistory spdifBox hdmiStandby
      ([.standby].map workingTransition ++ [workingTransition .on]) darkPorts).audioEnabled
        spdifPort = true := by
  have hsucceed : ∀ t ∈ [.standby].map workingTransition ++ [workingTransition .on],
      t.out.Succeed := by
    simpa [workingTransition] using workingOutcomes_succeed
  have hpersist : ∀ t ∈ [.standby].map workingTransition ++ [workingTransition .on],
      t.out.enablePersist = fun _ => true := by
    simp [workingTransition, workingOutcomes]
  exact (audioPorts_powerCycle hsucceed hpersist darkPorts spdifPort
    (List.mem_singleton_self _)).2.1 rfl rfl

/-- What the last power state handled asks of the listener: it is the current one, and a
standby setting is applied at once exactly in the standby states. -/
def FollowsPower (dev : Devices) (s : State) : Prop :=
  s.curState = s.reported ∧ ∀ (param : StandbyVideoStateParam) (vPort : Port),
    param.port.contains 0 → dev.videoOutputPort (cstr 0 param.port) = some vPort →
      (setStandbyVideoState dev false (some param) s).1.portCalls =
        s.portCalls ++ if isStandby s.reported then [(vPort, decide (param.isEnabled = 1))] else []

theorem followsPower_iff {s : State} : FollowsPower dev s ↔ s.curState = s.reported := by
  refine and_iff_left_of_imp fun heq param vPort hport hdev => ?_
  simp only [setStandbyVideoState, hport, hdev, heq]
  cases isStandby s.reported <;> simp

def Unchanged (s : State) : Action → Prop
  | .handle _ newState _ _ => newState = s.curState
  | .setStandby _ _ => True

theorem setStandbyVideoState_frame (dev : Devices) (portThrows : Bool)
    (param : Option StandbyVideoStateParam) (s : State) :
    (setStandbyVideoState dev portThrows param s).1.curState = s.curState ∧
      (setStandbyVideoState dev portThrows param s).1.reported = s.reported := by
  simp only [setStandbyVideoState]
  repeat' split
  all_goals exact ⟨rfl, rfl⟩

theorem curState_step {s s' : State} {a : Action} (h : step dev s a = some s') :
    s'.curState = s.curState := by
  cases a with
  | handle currentState newState out isEAS =>
    obtain rfl := Option.some.inj h
    rfl
  | setStandby portThrows param =>
    obtain rfl := Option.some.inj h
    exact (setStandbyVideoState_frame dev portThrows param s).1

theorem followsPower_step {s s' : State} {a : Action} (hs : FollowsPower dev s)
    (h : step dev s a = some s') : Unchanged s a ↔ FollowsPower dev s' := by
  rw [followsPower_iff] at hs ⊢
  rw [curState_step h]
  cases a with
  | handle currentState newState out isEAS =>
    obtain rfl := Option.some.inj h
    exact eq_comm
  | setStandby portThrows param =>
    obtain rfl := Option.some.inj h
    rw [(setStandbyVideoState_frame dev portThrows param s).2]
    exact iff_of_true trivial hs

theorem curState_follows_iff (dev : Devices) (out : Outcomes) (isEAS : Bool)
    (ux : Option UxController) (read : Option PowerState) (powerStateBeforeReboot : PowerState)
    (s t : State) (as : List Action)
    (hrun : run (step dev) (fetchNinitStateValues dev out isEAS ux read powerStateBeforeReboot s)
      as = some t) :
    Along (step dev) Unchanged
      (fetchNinitStateValues dev out isEAS ux read powerStateBeforeReboot s) as ↔
    ∀ pre u, pre <+: as → run (step dev)
      (fetchNinitStateValues dev out isEAS ux read powerStateBeforeReboot s) pre = some u →
        FollowsPower dev u :=
  along_iff (fun _ => True) (FollowsPower dev) (fun _ _ _ _ _ _ => trivial)
    (fun _ _ _ _ hs hstep => followsPower_step hs hstep) trivial (followsPower_iff.mpr rfl) hrun

def standbyRun : List Action := [.handle .on .standby workingOutcomes false]

def connectedBox : State :=
  fetchNinitStateValues hdmiBox workingOutcomes false none (some .on) .standby
    (State.initial darkPorts)

/-- In standby the box takes a setting for its port and leaves the port as it is. -/
theorem curState_stale :
    ∃ s, run (step hdmiBox) connectedBox standbyRun = some s ∧ s.reported = .standby ∧
      s.curState = .on ∧
      (setStandbyVideoState hdmiBox false
        (some ⟨lit "HDMI0" ++ List.replicate 11 0, 1⟩) s).1.portCalls = [] :=
  ⟨_, rfl, rfl, rfl, by decide⟩

theorem curState_follows_iff_standbyRun :
    ¬ Along (step hdmiBox) Unchanged connectedBox standbyRun := by
  intro hok
  have hfollows := (curState_follows_iff hdmiBox workingOutcomes false none (some .on) .standby
    (State.initial darkPorts) _ standbyRun rfl).mp hok standbyRun _ (List.prefix_refl _) rfl
  exact absurd hfollows.1 (by decide)

end IarmMgrs.DsMgr.AvPorts
