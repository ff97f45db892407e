import IarmMgrs.DsMgr.EasModes
import IarmMgrs.Lib.Sweep

namespace IarmMgrs.DsMgr.EasModes

open Lib Lib.Transition
open EasAudio (SysMode AudioPort StereoMode)

variable {audioConfigs : List AudioPort} {hdmi : Hdmi} {newMode : SysMode} {s : State} {hal : Hal}
  {persisted : AudioPort → StereoMode}

theorem setEASPort_persisted (hal : Hal) (port : AudioPort) :
    (setEASPort hal port).persisted = hal.persisted := rfl

theorem setAudioPort_persisted (hdmi : Hdmi) (hal : Hal) (port : AudioPort) :
    (setAudioPort hdmi hal port).persisted = hal.persisted := by
  simp only [setAudioPort]
  repeat' split
  all_goals rfl

theorem alone_easLoop (audioConfigs : List AudioPort) (hdmi : Hdmi)
    (persisted : AudioPort → StereoMode) (isEAS : SysMode) (ports : List AudioPort) (hal : Hal) :
    Pool.Alone (EasAudio.move audioConfigs) (answer hdmi persisted) (.easLoop ports)
      ⟨isEAS, hal.mode⟩ ⟨isEAS, (ports.foldl setEASPort hal).mode⟩ := by
  induction ports generalizing hal with
  | nil => exact .last rfl
  | cons port ports ih => exact .next rfl (.next rfl (ih (setEASPort hal port)))

theorem alone_audioLoop (audioConfigs : List AudioPort) (hdmi : Hdmi) (isEAS : SysMode)
    (ports : List AudioPort) (hal : Hal) (hp : hal.persisted = persisted) :
    Pool.Alone (EasAudio.move audioConfigs) (answer hdmi persisted) (.audioLoop ports)
      ⟨isEAS, hal.mode⟩ ⟨isEAS, (ports.foldl (setAudioPort hdmi) hal).mode⟩ := by
  induction ports generalizing hal with
  | nil => exact .last rfl
  | cons port ports ih =>
    have hrest := ih (setAudioPort hdmi hal port) ((setAudioPort_persisted hdmi hal port).trans hp)
    subst hp
    rw [List.foldl_cons]
    obtain ⟨connected, autoMode⟩ := hdmi
    cases port with
    | spdif | other typeId => exact .next rfl (.next rfl hrest)
    | hdmi =>
      cases connected with
      | false => exact .next rfl (.next rfl hrest)
      | true => exact .next rfl (.next rfl (.next rfl (.next rfl hrest)))

/-- `_SysModeChange` is its interleaved run when no other pass comes between. -/
theorem alone_sysModeChange (audioConfigs : List AudioPort) (hdmi : Hdmi) (newMode : SysMode)
    (s : State) :
    Pool.Alone (EasAudio.move audioConfigs) (answer hdmi s.hal.persisted)
      (.sysModeChange newMode) s.audio (sysModeChange audioConfigs hdmi newMode s).audio := by
  obtain ⟨isEAS, hal⟩ := s
  have heas : Pool.Alone (EasAudio.move audioConfigs) (answer hdmi hal.persisted)
      (.easLoop audioConfigs) ⟨.eas, hal.mode⟩ ⟨.eas, (audioConfigs.foldl setEASPort hal).mode⟩ :=
    alone_easLoop ..
  have hnormal : Pool.Alone (EasAudio.move audioConfigs) (answer hdmi hal.persisted)
      (.audioLoop audioConfigs) ⟨.normal, hal.mode⟩
      ⟨.normal, (audioConfigs.foldl (setAudioPort hdmi) hal).mode⟩ :=
    alone_audioLoop _ _ _ _ _ rfl
  cases newMode with
  | normal =>
    cases isEAS with
    | eas => exact .next rfl (.next rfl (.next rfl hnormal))
    | normal | warehouse => exact .last rfl
  | eas =>
    cases isEAS with
    | normal => exact .next rfl (.next rfl (.next rfl heas))
    | eas | warehouse => exact .last rfl
  | warehouse => cases isEAS <;> exact .last rfl

theorem sysModeChange_refines (audioConfigs : List AudioPort) (hdmi : Hdmi) (newMode : SysMode)
    (s : State) {p : EasAudio.State} {t : Nat} (hs : p.shared = s.audio) (ht : p.threads t = none) :
    ∃ as, run (EasAudio.step audioConfigs) p (.start t (.sysModeChange newMode) :: as) =
      some ⟨(sysModeChange audioConfigs hdmi newMode s).audio, p.threads⟩ := by
  have halone : Pool.Alone (EasAudio.move audioConfigs) (answer hdmi s.hal.persisted)
      (EasAudio.enter (.sysModeChange newMode) p.shared) p.shared
      (sysModeChange audioConfigs hdmi newMode s).audio := by
    rw [hs]
    exact alone_sysModeChange audioConfigs hdmi newMode s
  exact halone.run_start ht

theorem foldl_setEASPort_persisted (ports : List AudioPort) (hal : Hal) :
    (ports.foldl setEASPort hal).persisted = hal.persisted :=
  Sweep.foldl_keeps setEASPort_persisted ports hal

theorem foldl_setAudioPort_persisted (hdmi : Hdmi) (ports : List AudioPort) (hal : Hal) :
    (ports.foldl (setAudioPort hdmi) hal).persisted = hal.persisted :=
  Sweep.foldl_keeps (setAudioPort_persisted hdmi) ports hal

theorem foldl_setAudioPort_mode (hdmi : Hdmi) (ports : List AudioPort) (hal : Hal)
    (port : AudioPort) :
    (ports.foldl (setAudioPort hdmi) hal).mode port =
      if port ∈ ports ∧ (port = .hdmi → hdmi.connected = true) then
        audioMode hdmi hal.persisted port
      else hal.mode port := by
  refine Sweep.foldl_writes (fun hal' => hal'.persisted = hal.persisted) Hal.mode
    (fun port => port = .hdmi → hdmi.connected = true) (audioMode hdmi hal.persisted) ?_ ?_
    ports rfl port
  · exact fun hal' p h => (setAudioPort_persisted hdmi hal' p).trans h
  · intro hal' p q h
    obtain ⟨connected, autoMode⟩ := hdmi
    simp only [setAudioPort, Hal.dsGetStereoMode, if_true, h]
    by_cases hp : p = .hdmi
    · subst hp
      cases connected with
      | false => simp
      | true =>
        simp only [if_true, Bool.not_true, Bool.false_eq_true, if_false, Hal.dsSetStereoMode,
          Function.update_apply, implies_true, and_true, audioMode, true_and]
    · simp [hp, Hal.dsSetStereoMode, Function.update_apply, audioMode]

theorem sysModeChange_same (hdmi : Hdmi) (h : newMode = s.isEAS ∨ newMode = .warehouse) :
    sysModeChange audioConfigs hdmi newMode s = s := by
  obtain ⟨isEAS, hal⟩ := s
  obtain rfl | rfl := h
  · cases newMode <;> rfl
  · rfl

theorem sysModeChanges_same {changes : List (SysMode × Hdmi)}
    (h : ∀ change ∈ changes, change.1 = s.isEAS ∨ change.1 = .warehouse) :
    sysModeChanges audioConfigs changes s = s := by
  induction changes with
  | nil => rfl
  | cons change changes ih =>
    rw [sysModeChanges, List.foldl_cons, sysModeChange_same change.2 (h change List.mem_cons_self)]
    exact ih fun c hc => h c (List.mem_cons_of_mem _ hc)

/-- Entering EAS and leaving it restores the persisted modes, which stay as they are, and
nothing but the end of EAS changes anything in between. -/
theorem eas_roundTrip (audioConfigs : List AudioPort) (hal : Hal) (hdmi hdmi' : Hdmi)
    (between : List (SysMode × Hdmi)) (hbetween : ∀ change ∈ between, change.1 ≠ .normal) :
    let entered := sysModeChange audioConfigs hdmi .eas ⟨.normal, hal⟩
    let held := sysModeChanges audioConfigs between entered
    let left := sysModeChange audioConfigs hdmi' .normal held
    entered.isEAS = .eas ∧ held = entered ∧ left.isEAS = .normal ∧
      entered.hal.persisted = hal.persisted ∧ left.hal.persisted = hal.persisted ∧
      ∀ port ∈ audioConfigs, (port = .hdmi → hdmi'.connected = true) →
        left.hal.mode port = audioMode hdmi' hal.persisted port := by
  intro entered held left
  have hentered : entered = ⟨.eas, audioConfigs.foldl setEASPort hal⟩ := rfl
  have hkept : entered.hal.persisted = hal.persisted :=
    foldl_setEASPort_persisted audioConfigs hal
  have hheld : held = entered := by
    refine sysModeChanges_same fun change hmem => ?_
    have hne := hbetween change hmem
    cases hchange : change.1 with
    | normal => exact absurd hchange hne
    | eas => exact .inl rfl
    | warehouse => exact .inr rfl
  have hleft : left = ⟨.normal, audioConfigs.foldl (setAudioPort hdmi') entered.hal⟩ := by
    simp only [left, hheld]
    rfl
  have hpersisted : left.hal.persisted = hal.persisted := by
    rw [hleft]
    exact (foldl_setAudioPort_persisted hdmi' audioConfigs entered.hal).trans hkept
  refine ⟨rfl, hheld, by rw [hleft], hkept, hpersisted, fun port hport hconnected => ?_⟩
  rw [hleft, foldl_setAudioPort_mode, if_pos ⟨hport, hconnected⟩, hkept]

def passthruHal : Hal := ⟨fun _ => .passthru, fun _ => .passthru⟩

theorem eas_roundTrip_hdmi :
    (sysModeChange [.spdif, .hdmi] ⟨true, true⟩ .normal
      (sysModeChanges [.spdif, .hdmi] [(.eas, ⟨true, true⟩), (.warehouse, ⟨true, true⟩)]
        (sysModeChange [.spdif, .hdmi] ⟨true, true⟩ .eas
          ⟨.normal, passthruHal⟩))).hal.mode .hdmi = .surround :=
  (eas_roundTrip [.spdif, .hdmi] passthruHal ⟨true, true⟩ ⟨true, true⟩
    [(.eas, ⟨true, true⟩), (.warehouse, ⟨true, true⟩)] (by decide)).2.2.2.2.2 .hdmi (by decide)
    fun _ => rfl

end IarmMgrs.DsMgr.EasModes
