import IarmMgrs.DsMgr.ProductTraits
import IarmMgrs.Utils.RdkProfileLaws

namespace IarmMgrs.DsMgr.ProductTraits

open Lib Lib.CString Lib.Transition
open PowerEvents (PowerState)
open AvPorts (UxController postRebootState)
open BootPattern (Pattern retryLimit)
open Utils.RdkProfile (Profile searchRdkProfile searchLine_of_hit fgets lineSize)

variable {s s' : State} {ux : UxController} {act : Action} {ledSync success : Bool}
  {pattern : Pattern} {properties : Option (List UInt8)}

theorem setBootloaderPatternRpc_eq : setBootloaderPatternRpc ux success pattern s =
    ({ s with
      pattern := if (traits ux).enableSilentRebootSupport && success then some pattern
        else s.pattern }, !(traits ux).enableSilentRebootSupport || success) := by
  unfold setBootloaderPatternRpc
  cases (traits ux).enableSilentRebootSupport <;> cases success <;> simp

@[simp] theorem supported_tv : (traits .tv).enableSilentRebootSupport = true := rfl

@[simp] theorem supported_stbEu : (traits .stbEu).enableSilentRebootSupport = true := rfl

theorem init_tv (h : searchRdkProfile properties = .tv) :
    (initPwrEventListner properties).ux = some .tv ∧
      (initPwrEventListner properties).profileType = .tv := by
  simp [initPwrEventListner, h, initializeUxController]

theorem init_stbEu (h : searchRdkProfile properties ≠ .tv) :
    (initPwrEventListner properties).ux = some .stbEu ∧
      (initPwrEventListner properties).profileType ≠ .tv := by
  simp [initPwrEventListner, h, initializeUxController]

section Calls

variable {currentState newState : PowerState}

theorem dsMgrHandlePwrEventData_tv (hux : s.ux = some .tv) :
    dsMgrHandlePwrEventData ledSync currentState newState success s =
      { s with
        reported := some newState
        firstPowerTransitionComplete := true
        invalidateAsyncBootloaderPattern := true
        pattern := if success then some (changePattern newState) else s.pattern
        applied := some newState } := by
  simp only [dsMgrHandlePwrEventData, hux, applyPowerStateChangeConfig, setBootloaderPattern,
    syncDisplayPortsWithPowerState, setBootloaderPatternRpc_eq]
  cases hfirst : s.firstPowerTransitionComplete <;> cases success <;> simp

theorem dsMgrHandlePwrEventData_stbEu (hux : s.ux = some .stbEu) :
    dsMgrHandlePwrEventData ledSync currentState newState success s =
      { s with
        reported := some newState
        led := some (newState = .on)
        applied := some newState } := by
  simp [dsMgrHandlePwrEventData, hux, applyPowerStateChangeConfig, syncPowerLedWithPowerState,
    syncDisplayPortsWithPowerState, traits, initializeSafeDefaults]

/-- A reboot configuration touches the boot-loader pattern at most. -/
theorem setRebootConfig_eq {armed : Pattern} (hux : s.ux = some ux)
    (hpre : ∀ powerState, applyPreMaintenanceRebootConfig ux success powerState s =
      if powerState ≠ .on then setBootloaderPattern ux success armed s else (s, true))
    (hsupport : (traits ux).enableSilentRebootSupport = true) (arg : Option RebootConfigParam) :
    (setRebootConfig arg success s).1 =
      match arg with
      | none => s
      | some param =>
        if Arms param then
          { s with
            invalidateAsyncBootloaderPattern := true
            pattern := if success then some armed else s.pattern }
        else s := by
  cases arg with
  | none => rfl
  | some param =>
    by_cases hknown : dsMgrPwrMgrToPowerControllerPowerState param.powerState = .unknown
    · simp [setRebootConfig, hux, hknown, Arms]
    · cases hmaintenance : isMaintenance param with
      | false => simp [setRebootConfig, hux, hknown, hmaintenance, Arms, applyPreRebootConfig]
      | true =>
        by_cases hon : dsMgrPwrMgrToPowerControllerPowerState param.powerState = .on
        · simp [setRebootConfig, hux, hmaintenance, Arms, hpre, hon]
        · simp [setRebootConfig, hux, hknown, hmaintenance, Arms, hpre, hon, setBootloaderPattern,
            setBootloaderPatternRpc_eq, hsupport]

theorem setRebootConfig_tv (hux : s.ux = some .tv) (arg : Option RebootConfigParam) :
    (setRebootConfig arg success s).1 =
      match arg with
      | none => s
      | some param =>
        if Arms param then
          { s with
            invalidateAsyncBootloaderPattern := true
            pattern := if success then some .silentLedOn else s.pattern }
        else s :=
  setRebootConfig_eq hux (fun _ => rfl) rfl arg

theorem setRebootConfig_stbEu (hux : s.ux = some .stbEu) (arg : Option RebootConfigParam) :
    (setRebootConfig arg success s).1 =
      match arg with
      | none => s
      | some param =>
        if Arms param then
          { s with
            invalidateAsyncBootloaderPattern := true
            pattern := if success then some .silent else s.pattern }
        else s :=
  setRebootConfig_eq hux (fun _ => rfl) rfl arg

/-- A round of the retry thread, which ends it, or leaves it with one retry less. -/
theorem setBootloaderPatternAsync_eq (hsupport : (traits ux).enableSilentRebootSupport = true)
    (success : Bool) (pattern : Pattern) (n : Nat) (s : State) :
    ∃ retry, (retry = none ∨ retry = some (pattern, n - 1)) ∧
      setBootloaderPatternAsync ux success pattern n s =
        { s with
          retry := retry
          pattern := if !s.invalidateAsyncBootloaderPattern && success then some pattern
            else s.pattern } := by
  unfold setBootloaderPatternAsync
  cases hflag : s.invalidateAsyncBootloaderPattern with
  | true => exact ⟨none, .inl rfl, by simp⟩
  | false =>
    simp only [setBootloaderPatternRpc_eq, hsupport]
    cases success with
    | true => exact ⟨none, .inl rfl, by simp [hflag]⟩
    | false =>
      by_cases hn : 0 < n - 1
      · exact ⟨_, .inr rfl, by simp [hn, hflag]⟩
      · exact ⟨none, .inl rfl, by simp [hn, hflag]⟩

theorem setLEDStatus_tv (hprofile : s.profileType = .tv) (powerState : PowerState) :
    setLEDStatus powerState s = { s with led := some true } := by
  simp [setLEDStatus, hprofile]

theorem setLEDStatus_stb (hprofile : s.profileType ≠ .tv) (powerState : PowerState) :
    setLEDStatus powerState s = { s with led := some (powerState = .on) } := by
  by_cases hon : powerState = .on <;> simp [setLEDStatus, hprofile, hon]

theorem toPowerController_on {pwrState : PwrMgrPowerState} :
    dsMgrPwrMgrToPowerControllerPowerState pwrState = .on ↔ pwrState = .on := by
  cases pwrState <;> simp [dsMgrPwrMgrToPowerControllerPowerState]

end Calls

section StbEu

structure OnStbEu (s : State) : Prop where
  ux : s.ux = some .stbEu
  profile : s.profileType ≠ .tv
  connected : s.connected = true

theorem Started.onStbEu (h : Started properties s) (hprofile : searchRdkProfile properties ≠ .tv) :
    OnStbEu s where
  ux := h.ux.trans (init_stbEu hprofile).1
  profile := h.profileType ▸ (init_stbEu hprofile).2
  connected := h.connected

def Shows (s s' : State) : Action → Prop
  | .powerEvent _ newState _ =>
    s'.led = some (decide (newState = .on)) ∧ s'.applied = some newState
  | .setAvPortState (some pwrState) =>
    let powerState := dsMgrPwrMgrToPowerControllerPowerState pwrState
    s'.led = s.led ∧ s'.applied = if powerState ≠ .unknown then some powerState else s.applied
  | .setLEDState (some pwrState) =>
    let powerState := dsMgrPwrMgrToPowerControllerPowerState pwrState
    s'.led = (if powerState ≠ .unknown then some (decide (powerState = .on)) else s.led) ∧
      s'.applied = s.applied
  | _ => s'.led = s.led ∧ s'.applied = s.applied

theorem OnStbEu.step (hs : OnStbEu s) (h : step ledSync s act = some s') :
    OnStbEu s' ∧ Shows s s' act := by
  cases act with
  | connect read beforeReboot success => simp [ProductTraits.step, hs.connected] at h
  | powerEvent currentState newState success =>
    simp only [ProductTraits.step, dsMgrHandlePwrEventData_stbEu hs.ux] at h
    obtain ⟨-, rfl⟩ := of_guard h
    exact ⟨⟨hs.ux, hs.profile, hs.connected⟩, rfl, rfl⟩
  | setAvPortState arg =>
    obtain rfl := Option.some.inj h
    cases arg with
    | none => exact ⟨hs, rfl, rfl⟩
    | some pwrState =>
      simp only [setAvPortState, syncDisplayPortsWithPowerState, Shows]
      split <;> exact ⟨⟨hs.ux, hs.profile, hs.connected⟩, rfl, rfl⟩
  | setLEDState arg =>
    obtain rfl := Option.some.inj h
    cases arg with
    | none => exact ⟨hs, rfl, rfl⟩
    | some pwrState =>
      simp only [setLEDState, setLEDStatus_stb hs.profile, Shows]
      split <;> exact ⟨⟨hs.ux, hs.profile, hs.connected⟩, rfl, rfl⟩
  | setRebootConfig arg success =>
    obtain rfl := Option.some.inj h
    rw [setRebootConfig_stbEu hs.ux]
    cases arg with
    | none => exact ⟨hs, rfl, rfl⟩
    | some param =>
      dsimp only
      split <;> exact ⟨⟨hs.ux, hs.profile, hs.connected⟩, rfl, rfl⟩
  | retry success =>
    simp only [ProductTraits.step, hs.ux] at h
    split at h
    · rename_i pattern n hux hretry
      obtain rfl := Option.some.inj hux
      obtain ⟨retry, -, heq⟩ := setBootloaderPatternAsync_eq supported_stbEu success pattern n s
      rw [heq] at h
      obtain rfl := Option.some.inj h
      exact ⟨⟨hs.ux, hs.profile, hs.connected⟩, rfl, rfl⟩
    · cases h

theorem ledShowsPorts_iff {led : Bool} (hled : s.led = some led) :
    LedShowsPorts s ↔ ∀ powerState, s.applied = some powerState → (led = true ↔ powerState = .on) :=
  ⟨fun h powerState => h led powerState hled, fun h _ powerState hled' =>
    Option.some.inj (hled.symm.trans hled') ▸ h powerState⟩

/-- A step leaves the LED with the ports exactly when it is in step. -/
theorem inStep_iff (hs : OnStbEu s) (hshows : LedShowsPorts s)
    (h : ProductTraits.step ledSync s act = some s') :
    InStep s act ↔ LedShowsPorts s' := by
  obtain ⟨hs', hafter⟩ := hs.step h
  have hsame : s'.led = s.led ∧ s'.applied = s.applied → LedShowsPorts s' := by
    rintro ⟨hled, happlied⟩ led powerState h₁ h₂
    exact hshows led powerState (hled ▸ h₁) (happlied ▸ h₂)
  cases act with
  | connect read beforeReboot success => simp [ProductTraits.step, hs.connected] at h
  | powerEvent currentState newState success =>
    obtain ⟨hled, happlied⟩ := hafter
    simp [InStep, LedShowsPorts, hled, happlied]
  | setAvPortState arg =>
    cases arg with
    | none => exact ⟨fun _ => hsame hafter, fun _ => trivial⟩
    | some pwrState =>
      by_cases hknown : dsMgrPwrMgrToPowerControllerPowerState pwrState = .unknown
      · simp only [Shows, hknown, ne_eq, not_true_eq_false, if_false] at hafter
        exact ⟨fun _ => hsame hafter, fun _ hne => absurd hknown hne⟩
      · obtain ⟨hled, happlied⟩ := hafter
        simp [InStep, LedShowsPorts, hled, happlied, hknown, toPowerController_on]
  | setLEDState arg =>
    cases arg with
    | none => exact ⟨fun _ => hsame hafter, fun _ => trivial⟩
    | some pwrState =>
      by_cases hknown : dsMgrPwrMgrToPowerControllerPowerState pwrState = .unknown
      · simp only [Shows, hknown, ne_eq, not_true_eq_false, if_false] at hafter
        exact ⟨fun _ => hsame hafter, fun _ hne => absurd hknown hne⟩
      · obtain ⟨hled, happlied⟩ := hafter
        rw [if_pos hknown] at hled
        rw [ledShowsPorts_iff hled]
        simp [InStep, happlied, hknown, toPowerController_on]
  | setRebootConfig arg success => exact ⟨fun _ => hsame hafter, fun _ => trivial⟩
  | retry success => exact ⟨fun _ => hsame hafter, fun _ => trivial⟩

/-- On every profile but TV, the LED shows the configuration of the ports in every state of a run
after start-up exactly when it does at its beginning and each call that changes only one of the
two goes with the other. -/
theorem ledShowsPorts_run_iff (ledSync : Bool) (hprofile : searchRdkProfile properties ≠ .tv)
    (s : State) (hstarted : Started properties s) (as : List Action) (t : State)
    (hrun : run (ProductTraits.step ledSync) s as = some t) :
    LedShowsPorts s ∧ Along (ProductTraits.step ledSync) InStep s as ↔
      ∀ pre u, pre <+: as → run (ProductTraits.step ledSync) s pre = some u → LedShowsPorts u := by
  have halong (hshows : LedShowsPorts s) :
      Along (ProductTraits.step ledSync) InStep s as ↔
        ∀ pre u, pre <+: as → run (ProductTraits.step ledSync) s pre = some u →
          LedShowsPorts u :=
    along_iff OnStbEu LedShowsPorts (fun _ _ _ hs _ hstep => (hs.step hstep).1)
      (fun _ _ _ hs hshows hstep => inStep_iff hs hshows hstep) (hstarted.onStbEu hprofile) hshows
      hrun
  refine ⟨fun ⟨hshows, hsteps⟩ => (halong hshows).mp hsteps, fun hall => ?_⟩
  have hshows : LedShowsPorts s := hall [] s (List.nil_prefix) rfl
  exact ⟨hshows, (halong hshows).mpr hall⟩

def standbyBoot : State :=
  fetchNinitStateValues true (some .standby) (some .standby) false (initPwrEventListner none)

theorem standbyBoot_started : Started none standbyBoot := ⟨rfl, rfl, rfl⟩

def wakeCalls : List Action :=
  [.powerEvent .standby .on true, .setLEDState (some .on), .setLEDState (some .other), .retry true]

theorem ledShowsPorts_run_iff_standbyBoot : ∃ t,
    run (ProductTraits.step true) standbyBoot wakeCalls = some t ∧ LedShowsPorts t := by
  refine ⟨_, rfl, ?_⟩
  have hprofile : searchRdkProfile none ≠ .tv := nofun
  refine (ledShowsPorts_run_iff true hprofile standbyBoot standbyBoot_started wakeCalls _ rfl).mp ?_
    _ _ List.prefix_rfl rfl
  refine ⟨fun led powerState hled happlied => ?_, trivial, fun s₁ h₁ =>
    ⟨fun _ powerState happlied => ?_, fun s₂ h₂ => ⟨fun hknown => absurd rfl hknown, fun s₃ h₃ =>
      ⟨trivial, fun _ _ => trivial⟩⟩⟩⟩
  · obtain rfl := Option.some.inj hled
    obtain rfl := Option.some.inj happlied
    decide
  · obtain rfl := Option.some.inj h₁
    obtain rfl := Option.some.inj happlied
    simp

structure Silenced (s : State) : Prop where
  box : OnStbEu s
  armed : s.invalidateAsyncBootloaderPattern = true ∧ s.pattern = some .silent

theorem Silenced.step (hs : Silenced s) (h : ProductTraits.step ledSync s act = some s') :
    Silenced s' := by
  obtain ⟨hoverruled, hpattern⟩ := hs.armed
  refine ⟨(hs.box.step h).1, ?_⟩
  cases act with
  | connect read beforeReboot success => simp [ProductTraits.step, hs.box.connected] at h
  | powerEvent currentState newState success =>
    simp only [ProductTraits.step, dsMgrHandlePwrEventData_stbEu hs.box.ux] at h
    obtain ⟨-, rfl⟩ := of_guard h
    exact hs.armed
  | setAvPortState arg =>
    obtain rfl := Option.some.inj h
    cases arg with
    | none => exact hs.armed
    | some pwrState =>
      simp only [setAvPortState, syncDisplayPortsWithPowerState]
      split <;> exact hs.armed
  | setLEDState arg =>
    obtain rfl := Option.some.inj h
    cases arg with
    | none => exact hs.armed
    | some pwrState =>
      simp only [setLEDState, setLEDStatus]
      split <;> exact hs.armed
  | setRebootConfig arg success =>
    obtain rfl := Option.some.inj h
    rw [setRebootConfig_stbEu hs.box.ux]
    cases arg with
    | none => exact hs.armed
    | some param =>
      by_cases harms : Arms param
      · simp only [harms, if_true]
        exact ⟨trivial, by simp [hpattern]⟩
      · simp only [harms, if_false]
        exact hs.armed
  | retry success =>
    simp only [ProductTraits.step, hs.box.ux] at h
    split at h
    · obtain rfl := Option.some.inj h
      rw [setBootloaderPatternAsync, if_pos hoverruled]
      exact hs.armed
    · cases h

/-- On every profile but TV, a maintenance reboot that is announced for a state other than ON once
start-up is over stays silent whatever follows: no power state, no request and no retry overwrites
the pattern. -/
theorem silentReboot_sticks (ledSync : Bool) (hprofile : searchRdkProfile properties ≠ .tv)
    (s : State) (hstarted : Started properties s) (param : RebootConfigParam) (harms : Arms param)
    (after : List Action) (t : State)
    (hafter : run (ProductTraits.step ledSync) s
      (.setRebootConfig (some param) true :: after) = some t) :
    t.pattern = some .silent := by
  have hbox : OnStbEu s := hstarted.onStbEu hprofile
  obtain ⟨r, hr, hafter⟩ := run_cons.mp hafter
  have hsilenced : Silenced r := by
    refine ⟨(hbox.step hr).1, ?_⟩
    obtain rfl := Option.some.inj hr
    rw [setRebootConfig_stbEu hbox.ux]
    simp [harms]
  exact (run_invariant Silenced (fun _ _ _ hs hstep => hs.step hstep) hsilenced hafter).armed.2

def maintenanceParam : RebootConfigParam where
  rebootReasonCustom := lit "MAINTENANCE_REBOOT" ++ [0]
  powerState := .standby

theorem silentReboot_sticks_standbyBoot : ∃ t,
    run (ProductTraits.step true) standbyBoot
        [.setRebootConfig (some maintenanceParam) true, .powerEvent .standby .on true,
          .retry true] = some t ∧ t.pattern = some .silent :=
  have hprofile : searchRdkProfile none ≠ .tv := nofun
  ⟨_, rfl, silentReboot_sticks true hprofile standbyBoot standbyBoot_started maintenanceParam
    (by decide) [.powerEvent .standby .on true, .retry true] _ rfl⟩

end StbEu

section Tv

structure OnTv (s : State) : Prop where
  ux : s.ux = some .tv
  profile : s.profileType = .tv
  connected : s.connected = true

theorem Started.onTv (h : Started properties s) (hprofile : searchRdkProfile properties = .tv) :
    OnTv s where
  ux := h.ux.trans (init_tv hprofile).1
  profile := h.profileType.trans (init_tv hprofile).2
  connected := h.connected

def Sets (s s' : State) : Action → Prop
  | .powerEvent _ newState success =>
    s'.reported = some newState ∧
      s'.pattern = if success then some (changePattern newState) else s.pattern
  | .setRebootConfig (some param) success =>
    s'.reported = s.reported ∧
      s'.pattern = if Arms param ∧ success then some .silentLedOn else s.pattern
  | .retry success =>
    s'.reported = s.reported ∧ ∃ pattern n, s.retry = some (pattern, n) ∧
      s'.pattern = if !s.invalidateAsyncBootloaderPattern && success then some pattern
        else s.pattern
  | _ => s'.reported = s.reported ∧ s'.pattern = s.pattern

theorem OnTv.step (hs : OnTv s) (h : step ledSync s act = some s') :
    OnTv s' ∧ (s'.led = s.led ∨ s'.led = some true) ∧ Sets s s' act := by
  cases act with
  | connect read beforeReboot success => simp [ProductTraits.step, hs.connected] at h
  | powerEvent currentState newState success =>
    simp only [ProductTraits.step, dsMgrHandlePwrEventData_tv hs.ux] at h
    obtain ⟨-, rfl⟩ := of_guard h
    exact ⟨⟨hs.ux, hs.profile, hs.connected⟩, .inl rfl, rfl, rfl⟩
  | setAvPortState arg =>
    obtain rfl := Option.some.inj h
    cases arg with
    | none => exact ⟨hs, .inl rfl, rfl, rfl⟩
    | some pwrState =>
      simp only [setAvPortState, syncDisplayPortsWithPowerState]
      split <;> exact ⟨⟨hs.ux, hs.profile, hs.connected⟩, .inl rfl, rfl, rfl⟩
  | setLEDState arg =>
    obtain rfl := Option.some.inj h
    cases arg with
    | none => exact ⟨hs, .inl rfl, rfl, rfl⟩
    | some pwrState =>
      simp only [setLEDState, setLEDStatus_tv hs.profile]
      split
      · exact ⟨⟨hs.ux, hs.profile, hs.connected⟩, .inr rfl, rfl, rfl⟩
      · exact ⟨hs, .inl rfl, rfl, rfl⟩
  | setRebootConfig arg success =>
    obtain rfl := Option.some.inj h
    rw [setRebootConfig_tv hs.ux]
    cases arg with
    | none => exact ⟨hs, .inl rfl, rfl, rfl⟩
    | some param =>
      by_cases harms : Arms param
      · simp only [harms, if_true]
        exact ⟨⟨hs.ux, hs.profile, hs.connected⟩, .inl trivial, rfl, by simp [harms]⟩
      · simp only [harms, if_false]
        exact ⟨hs, .inl trivial, rfl, by simp [harms]⟩
  | retry success =>
    simp only [ProductTraits.step, hs.ux] at h
    split at h
    · rename_i pattern n hux hretry
      obtain rfl := Option.some.inj hux
      obtain ⟨retry, -, heq⟩ := setBootloaderPatternAsync_eq supported_tv success pattern n s
      rw [heq] at h
      obtain rfl := Option.some.inj h
      exact ⟨⟨hs.ux, hs.profile, hs.connected⟩, .inl rfl, rfl, pattern, n, hretry, rfl⟩
    · cases h

theorem silentLedOn_fits_iff {powerState : PowerState} :
    some Pattern.silentLedOn = some (changePattern powerState) ↔ powerState ≠ .on := by
  cases powerState <;> simp [changePattern]

theorem patternFitsPower_iff {powerState : PowerState} (h : s.reported = some powerState) :
    PatternFitsPower s ↔ s.pattern = some (changePattern powerState) :=
  ⟨fun hfits => hfits powerState h, fun hfits _ h' => Option.some.inj (h.symm.trans h') ▸ hfits⟩

/-- A step leaves the pattern with the power state exactly when it keeps it there. -/
theorem keeps_iff (hs : OnTv s) (hfits : PatternFitsPower s)
    (h : ProductTraits.step ledSync s act = some s') : Keeps s act ↔ PatternFitsPower s' := by
  obtain ⟨-, -, hsets⟩ := hs.step h
  have hsame : s'.reported = s.reported ∧ s'.pattern = s.pattern → PatternFitsPower s' := by
    rintro ⟨hreported, hpattern⟩ powerState h'
    exact hpattern ▸ hfits powerState (hreported ▸ h')
  cases act with
  | connect read beforeReboot success => simp [ProductTraits.step, hs.connected] at h
  | powerEvent currentState newState success =>
    obtain ⟨hreported, hpattern⟩ := hsets
    rw [patternFitsPower_iff hreported, hpattern]
    cases success <;> simp [Keeps]
  | setAvPortState arg => exact ⟨fun _ => hsame hsets, fun _ => trivial⟩
  | setLEDState arg => exact ⟨fun _ => hsame hsets, fun _ => trivial⟩
  | setRebootConfig arg success =>
    cases arg with
    | none => exact ⟨fun _ => hsame hsets, fun _ => trivial⟩
    | some param =>
      obtain ⟨hreported, hpattern⟩ := hsets
      by_cases harms : Arms param ∧ success = true
      · rw [if_pos harms] at hpattern
        simp only [Keeps, PatternFitsPower, hreported, hpattern, silentLedOn_fits_iff, harms.1,
          harms.2, forall_const]
        exact ⟨fun hne powerState hr hpower => hne (hpower ▸ hr), fun hall hr => hall .on hr rfl⟩
      · rw [if_neg harms] at hpattern
        exact ⟨fun _ => hsame ⟨hreported, hpattern⟩, fun _ h₁ h₂ => absurd ⟨h₁, h₂⟩ harms⟩
  | retry success =>
    obtain ⟨hreported, pattern, n, hretry, hpattern⟩ := hsets
    by_cases hdone : s.invalidateAsyncBootloaderPattern = false ∧ success = true
    · obtain ⟨hflag, rfl⟩ := hdone
      simp only [hflag, Bool.not_false, Bool.and_self, if_true] at hpattern
      constructor
      · intro hkeeps powerState hr
        rw [hpattern, hkeeps rfl hflag pattern n powerState hretry (hreported.symm.trans hr)]
      · intro hafter _ _ pattern' m powerState hretry' hr
        obtain ⟨rfl, -⟩ := Prod.mk.inj (Option.some.inj (hretry.symm.trans hretry'))
        exact Option.some.inj (hpattern.symm.trans (hafter powerState (hreported.trans hr)))
    · have hkept : s'.pattern = s.pattern := by
        rw [hpattern, if_neg]
        simpa using hdone
      exact ⟨fun _ => hsame ⟨hreported, hkept⟩, fun _ h₁ h₂ => absurd ⟨h₂, h₁⟩ hdone⟩

/-- On the TV profile, no run after start-up switches the LED off, and the boot-loader pattern
fits the power state reported last in every state of the run exactly when it does at its
beginning and every step keeps it there. -/
theorem patternFitsPower_run_iff (ledSync : Bool) (hprofile : searchRdkProfile properties = .tv)
    (s : State) (hstarted : Started properties s) (as : List Action) (t : State)
    (hrun : run (ProductTraits.step ledSync) s as = some t) :
    (t.led = s.led ∨ t.led = some true) ∧
      (PatternFitsPower s ∧ Along (ProductTraits.step ledSync) Keeps s as ↔
        ∀ pre u, pre <+: as → run (ProductTraits.step ledSync) s pre = some u →
          PatternFitsPower u) := by
  have htv : OnTv s := hstarted.onTv hprofile
  have halong (hfits : PatternFitsPower s) :
      Along (ProductTraits.step ledSync) Keeps s as ↔
        ∀ pre u, pre <+: as → run (ProductTraits.step ledSync) s pre = some u →
          PatternFitsPower u :=
    along_iff OnTv PatternFitsPower (fun _ _ _ hs _ hstep => (hs.step hstep).1)
      (fun _ _ _ hs hfits hstep => keeps_iff hs hfits hstep) htv hfits hrun
  refine ⟨?_, fun ⟨hfits, hsteps⟩ => (halong hfits).mp hsteps, fun hall => ?_⟩
  · have hled : OnTv t ∧ (t.led = s.led ∨ t.led = some true) := by
      refine run_invariant (fun u => OnTv u ∧ (u.led = s.led ∨ u.led = some true))
        (fun _ _ _ hu hstep => ?_) ⟨htv, .inl rfl⟩ hrun
      obtain ⟨hkept, hled, -⟩ := hu.1.step hstep
      exact ⟨hkept, hled.elim (fun hsame => hsame ▸ hu.2) .inr⟩
    exact hled.2
  · have hfits : PatternFitsPower s := hall [] s List.nil_prefix rfl
    exact ⟨hfits, (halong hfits).mpr hall⟩

def tvProperties : List UInt8 := lit "RDK_PROFILE=TV\n"

theorem tvProperties_tv : searchRdkProfile (some tvProperties) = .tv := by
  have hline : fgets lineSize tvProperties = some (tvProperties, []) := by decide +kernel
  have hfound := searchLine_of_hit hline (by decide +kernel) (k := 0) (by decide +kernel)
  simp only [searchRdkProfile, hfound]
  decide +kernel

def tvBoot : State :=
  ⟨some .tv, .tv, .on, true, false, false, none, some true, some .on, some .normal, some .on⟩

theorem tvBoot_started : Started (some tvProperties) tvBoot where
  ux := (init_tv tvProperties_tv).1.symm
  profileType := (init_tv tvProperties_tv).2.symm
  connected := rfl

def tvRun : List Action :=
  [.powerEvent .on .standby true, .setRebootConfig (some maintenanceParam) true]

theorem patternFitsPower_run_iff_tvRun : ∃ t,
    run (ProductTraits.step true) tvBoot tvRun = some t ∧ PatternFitsPower t := by
  refine ⟨_, rfl, ?_⟩
  have hrun := patternFitsPower_run_iff true tvProperties_tv tvBoot tvBoot_started tvRun
  refine (hrun _ rfl).2.mp ⟨?_, .inl rfl, fun s₁ h₁ => ⟨?_, fun _ _ => trivial⟩⟩ _ _
    List.prefix_rfl rfl
  · intro powerState hr
    obtain rfl := Option.some.inj hr
    rfl
  · obtain rfl := Option.some.inj h₁
    exact fun _ _ => by decide

end Tv

end IarmMgrs.DsMgr.ProductTraits
