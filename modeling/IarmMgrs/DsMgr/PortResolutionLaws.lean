import IarmMgrs.DsMgr.PortResolution

universe u

namespace IarmMgrs.DsMgr.PortResolution

open Lib Lib.CString Resolution

variable {ρ : Type u} {cfg : PlatformConfig} {edid platform : List (DsVideoPortResolution ρ)}
  {defaultResn r : DsVideoPortResolution ρ} {name presolution : Name} {sel : Selection ρ}
  {ports : Ports} {hal : Hal ρ} {handle : Int}

def pick (defaultResn : DsVideoPortResolution ρ) (sel : Selection ρ) : DsVideoPortResolution ρ :=
  if sel.isValidResolution then sel.setResn.getD defaultResn else defaultResn

theorem scanFor_find {l : List (DsVideoPortResolution ρ)} (h : l.find? (·.name = name) = some r)
    (sel : Selection ρ) : scanFor name l sel = sel.take r := by
  induction l generalizing sel with
  | nil => cases h
  | cons x xs ih =>
    rw [scanFor]
    by_cases hx : name = x.name
    · rw [if_pos hx]
      rw [List.find?_cons_of_pos (by simp [hx])] at h
      rw [Option.some.inj h]
    · rw [if_neg hx]
      rw [List.find?_cons_of_neg (by simpa using Ne.symm hx)] at h
      exact ih h _

theorem find?_name_some (h : edid.find? (·.name = name) = some r) :
    r ∈ edid ∧ r.name = name ∧ name ∈ names edid := by
  have hmem : r ∈ edid := List.mem_of_find?_eq_some h
  have hname : r.name = name := by simpa using List.find?_some h
  exact ⟨hmem, hname, mem_names.mpr ⟨r, hmem, hname⟩⟩

theorem find?_name_none : edid.find? (·.name = name) = none ↔ name ∉ names edid := by
  simp [List.find?_eq_none, mem_names]

theorem scanFor_find_none (h : edid.find? (·.name = name) = none) (sel : Selection ρ) :
    (scanFor name edid sel).isValidResolution = sel.isValidResolution :=
  scanFor_missed sel (find?_name_none.mp h)

theorem any_common : (edid.any fun r => platform.any (·.name = r.name)) = true ↔
    ∃ name, Common edid platform name := by
  simp only [List.any_eq_true, Common, mem_names, decide_eq_true_eq]
  constructor
  · rintro ⟨r, hr, p, hp, hname⟩
    exact ⟨r.name, ⟨r, hr, rfl⟩, p, hp, hname⟩
  · rintro ⟨name, ⟨r, hr, rfl⟩, p, hp, hname⟩
    exact ⟨r, hr, p, hp, hname⟩

theorem pick_lateStages (h : sel.isValidResolution = false) (hne : edid ≠ []) :
    pick defaultResn (lateStages edid platform defaultResn sel) =
      latePick edid platform defaultResn := by
  simp only [lateStages, latePick]
  rw [Selection.orElse_invalid _ h]
  cases hd : edid.find? (·.name = defaultResn.name) with
  | some r =>
    rw [scanFor_find hd, Selection.orElse_valid _ rfl, Selection.orElse_valid _ rfl]
    rfl
  | none =>
    have hvalid := (scanFor_find_none hd sel).trans h
    rw [Selection.orElse_invalid _ hvalid]
    cases hn : edid.find? (·.name = resolutionBaseNtsc) with
    | some r =>
      rw [scanFor_find hn, Selection.orElse_valid _ rfl]
      rfl
    | none =>
      have hvalid := (scanFor_find_none hn (scanFor defaultResn.name edid sel)).trans hvalid
      rw [Selection.orElse_invalid _ hvalid, pick]
      have hlast := List.getLast?_eq_some_getLast hne
      rw [bootStage_setResn hlast, hlast]
      by_cases hcommon : ∃ name, Common edid platform name
      · rw [if_pos (bootStage_valid.mpr (.inr hcommon)), if_pos (any_common.mpr hcommon)]
      · rw [if_neg (mt bootStage_valid.mp (by simp [hvalid, hcommon])),
          if_neg (mt any_common.mp hcommon)]

theorem secondaryStage_eq (cfg : PlatformConfig) (edid platform : List (DsVideoPortResolution ρ))
    (presolution : Name) (sel : Selection ρ) :
    secondaryStage cfg edid platform presolution sel =
      match secondaryPick cfg edid platform presolution with
      | none => sel
      | some r => { sel.take r with forceCompatible := true } := by
  simp only [secondaryStage, secondaryPick]
  cases cfg.isEUPlatform with
  | false => rfl
  | true =>
    cases getSecondaryResolution presolution with
    | none => rfl
    | some secResn =>
      cases hfound : isResolutionSupported edid platform secResn with
      | none => simp [hfound]
      | some r => simp [hfound]

theorem pick_fallBackStage (h : sel.isValidResolution = false) (hne : edid ≠ [])
    (baseResn : Name) :
    pick defaultResn (lateStages edid platform defaultResn
        (fallBackStage cfg edid platform baseResn sel)) =
      (fallBackPick cfg edid platform baseResn).getD (latePick edid platform defaultResn) := by
  simp only [fallBackStage, fallBackPick]
  cases (fallBackEntries cfg baseResn).findSome? (fallBackEntry cfg edid platform) with
  | none => exact pick_lateStages h hne
  | some r =>
    rw [lateStages_valid rfl]
    rfl

theorem negotiate_pick (hp : presolution ∉ names edid) (hne : edid ≠ []) :
    (negotiate cfg edid platform defaultResn presolution).map (pick defaultResn) =
      (secondaryPick cfg edid platform presolution).or
        ((parseResolution presolution).map fun baseResn =>
          (fallBackPick cfg edid platform baseResn).getD (latePick edid platform defaultResn)) := by
  have hinvalid := persistedStage_missed hp
  have hsec := secondaryStage_eq cfg edid platform presolution (persistedStage edid presolution)
  cases hs : secondaryPick cfg edid platform presolution with
  | some r =>
    simp only [hs] at hsec
    have horElse : (persistedStage edid presolution).orElse
        (secondaryStage cfg edid platform presolution) =
        { (persistedStage edid presolution).take r with forceCompatible := true } :=
      (Selection.orElse_invalid _ hinvalid).trans hsec
    rw [negotiate_valid (by rw [horElse]; rfl), horElse]
    rfl
  | none =>
    simp only [hs] at hsec
    simp only [negotiate, Selection.orElse_invalid _ hinvalid, hsec]
    rw [if_neg (by simp [hinvalid]), Option.map_map, Option.map_map, Option.none_or]
    exact congrArg (fun f => (parseResolution presolution).map f)
      (funext fun baseResn => pick_fallBackStage hinvalid hne baseResn)

theorem negotiate_persisted (hp : presolution ∈ names edid) :
    negotiate cfg edid platform defaultResn presolution =
      some (persistedStage edid presolution) := by
  have hvalid := (persistedStage_found hp).1
  have horElse := Selection.orElse_valid (secondaryStage cfg edid platform presolution) hvalid
  rw [negotiate_valid (by rw [horElse]; exact hvalid), horElse]

theorem secondaryPick_initial : secondaryPick .initial edid platform presolution = none := rfl

theorem fallBackEntries_initial (baseResn : Name) :
    fallBackEntries .initial baseResn = List.replicate 5 [] := by
  have hindex : (if baseResn ∈ PlatformConfig.initial.fallBackResolutionList then
      PlatformConfig.initial.fallBackResolutionList.idxOf baseResn else 0) = 0 := by
    split
    · next hmem =>
      obtain rfl := (List.mem_replicate.mp hmem).2
      rfl
    · rfl
  rw [fallBackEntries, hindex]
  rfl

theorem fallBackPick_initial (baseResn : Name) :
    fallBackPick .initial edid platform baseResn = unnamedPick edid platform := by
  have hentry : fallBackEntry .initial edid platform [] = unnamedPick edid platform := rfl
  rw [fallBackPick, fallBackEntries_initial]
  simp only [List.replicate, List.findSome?_cons, List.findSome?_nil, hentry]
  cases unnamedPick edid platform <;> rfl

abbrev Negotiates' (hal : Hal ρ) := Negotiates { hal with forceDisable4K := false }

theorem setResolution_negotiates {bootup : Bool}
    (h : Negotiates' hal handle edid platform defaultResn) :
    setResolution cfg bootup hal handle .hdmi =
      match negotiate cfg edid platform defaultResn
        (hal.resolution (bootup || hal.hotplugEdidDiff)) with
      | none => .undefined
      | some sel => applySelection hal handle defaultResn
          (hal.resolution (bootup || hal.hotplugEdidDiff)) sel := by
  obtain ⟨i, hi, hdefault⟩ := h.default_index
  have hplatform : hal.videoPortResolutions = some platform := h.platform_list
  have hindex : hal.defaultResolutionIndex = some i := hi
  have hdata : hal.edidDataAllocated = true := h.allocated.1
  have hparam : hal.edidParamAllocated = true := h.allocated.2
  have hdisplay : hal.displayHandle ≠ 0 := h.display
  have hlist : hal.suppResolutionList = edid := h.edid_list
  have htype : hal.hdmiDeviceType = true := h.hdmi
  simp only [setResolution, hplatform, hindex, hdefault, hdata, hparam, h.handle, hdisplay, hlist,
    htype]
  cases negotiate cfg edid platform defaultResn (hal.resolution (bootup || hal.hotplugEdidDiff)) <;>
    simp [h.edid_nonempty]

theorem hdmi_not_negotiates {i : Int}
    (hplatform : hal.videoPortResolutions = some platform)
    (hindex : hal.defaultResolutionIndex = some i)
    (hdefault : defaultResolution platform i = some defaultResn)
    (hdata : hal.edidDataAllocated = true) (hhandle : handle ≠ 0)
    (h : ∀ edid, ¬ Negotiates' hal handle edid platform defaultResn) :
    hal.displayHandle = 0 ∨ hal.edidParamAllocated = false ∨
      (hal.suppResolutionList.isEmpty || !hal.hdmiDeviceType) = true := by
  by_contra hcon
  simp only [not_or, Bool.not_eq_false, Bool.or_eq_true, Bool.not_eq_true', List.isEmpty_iff]
    at hcon
  obtain ⟨hdisplay, hparam, hnonempty, htype⟩ := hcon
  exact h hal.suppResolutionList
    { platform_list := hplatform
      default_index := ⟨i, hindex, hdefault⟩
      allocated := ⟨hdata, hparam⟩
      handle := hhandle
      display := hdisplay
      edid_list := rfl
      edid_nonempty := hnonempty
      hdmi := htype
      uhd := rfl }

theorem setResolution_not_negotiates {cfg' : PlatformConfig} {b b' : Bool}
    {portType : DsVideoPortType}
    (hres : hal.resolution (b || hal.hotplugEdidDiff) = hal.resolution (b' || hal.hotplugEdidDiff))
    (h : portType = .hdmi → ∀ edid platform defaultResn,
      ¬ Negotiates' hal handle edid platform (defaultResn : DsVideoPortResolution ρ)) :
    setResolution cfg b hal handle portType = setResolution cfg' b' hal handle portType := by
  simp only [setResolution, hres]
  cases hplatform : hal.videoPortResolutions with
  | none => rfl
  | some platform =>
    cases hindex : hal.defaultResolutionIndex with
    | none => rfl
    | some i =>
      cases hdefault : defaultResolution platform i with
      | none => simp only [hdefault]
      | some defaultResn =>
        simp only [hdefault]
        by_cases hready : (!hal.edidDataAllocated || handle = 0) = true
        · rw [if_pos hready, if_pos hready]
        · rw [if_neg hready, if_neg hready]
          cases portType with
          | hdmi =>
            have hready' : hal.edidDataAllocated = true ∧ handle ≠ 0 := by simpa using hready
            obtain hdisplay | hparam | hlist := hdmi_not_negotiates hplatform hindex
              hdefault hready'.1 hready'.2 (fun edid => h rfl edid platform defaultResn)
            · simp only [hdisplay, if_true]
            · simp only [hparam, Bool.not_false, if_true]
            · simp only [hlist, if_true]
          | _ => rfl

theorem negotiates_unique {edid' platform' : List (DsVideoPortResolution ρ)}
    {defaultResn' : DsVideoPortResolution ρ}
    (h : Negotiates' hal handle edid platform defaultResn)
    (h' : Negotiates' hal handle edid' platform' defaultResn') :
    edid' = edid ∧ platform' = platform ∧ defaultResn' = defaultResn := by
  obtain rfl := h.edid_list.symm.trans h'.edid_list
  obtain rfl := Option.some.inj (h.platform_list.symm.trans h'.platform_list)
  obtain ⟨i, hi, hdefault⟩ := h.default_index
  obtain ⟨j, hj, hdefault'⟩ := h'.default_index
  obtain rfl := Option.some.inj (hi.symm.trans hj)
  exact ⟨rfl, rfl, Option.some.inj (hdefault'.symm.trans hdefault)⟩

def afterOverride (defaultResn : DsVideoPortResolution ρ) (overrides4K : Bool)
    (r : DsVideoPortResolution ρ) : DsVideoPortResolution ρ :=
  if overrides4K then defaultResn else r

theorem chosen_applySelection (presolution : Name) :
    chosen (applySelection hal handle defaultResn presolution sel) =
      some (afterOverride defaultResn (overrides4K hal presolution) (pick defaultResn sel)) := rfl

theorem chosen_eq_some {o : Outcome ρ} {r : DsVideoPortResolution ρ} :
    chosen o = some r ↔ ∃ param, o = .sets param ∧ param.resolution = r := by
  cases o with
  | sets param => simp [chosen]
  | _ => simp [chosen]

theorem chosen_setResolution {bootup : Bool}
    (h : Negotiates' hal handle edid platform defaultResn)
    (hres : hal.resolution (bootup || hal.hotplugEdidDiff) = presolution) :
    chosen (setResolution cfg bootup hal handle .hdmi) =
      ((negotiate cfg edid platform defaultResn presolution).map (pick defaultResn)).map
        (afterOverride defaultResn (overrides4K hal presolution)) := by
  rw [setResolution_negotiates h, hres]
  cases negotiate cfg edid platform defaultResn presolution with
  | none => rfl
  | some sel => exact chosen_applySelection presolution

/-- The choices before and after `setupPlatformConfig` for one set of lists. -/
theorem negotiate_initial_iff (hne : edid ≠ []) (ov : Bool) :
    ((negotiate .initial edid platform defaultResn presolution).map (pick defaultResn)).map
        (afterOverride defaultResn ov) =
      ((negotiate cfg edid platform defaultResn presolution).map (pick defaultResn)).map
        (afterOverride defaultResn ov) ↔
      Unaffected cfg edid platform defaultResn presolution ov := by
  by_cases hp : presolution ∈ names edid
  · simp only [negotiate_persisted hp, Unaffected, hp, true_or]
  · rw [negotiate_pick hp hne, negotiate_pick hp hne, secondaryPick_initial, Option.none_or]
    simp only [Unaffected, hp, false_or]
    cases parseResolution presolution with
    | none =>
      cases secondaryPick cfg edid platform presolution <;> simp
    | some baseResn =>
      simp only [Option.map_some, fallBackPick_initial]
      cases ov with
      | true =>
        cases secondaryPick cfg edid platform presolution <;> simp [afterOverride]
      | false =>
        have hover : afterOverride defaultResn false = id := rfl
        rw [hover, Option.map_id_apply]
        cases secondaryPick cfg edid platform presolution with
        | some r => simp [eq_comm]
        | none =>
          cases fallBackPick cfg edid platform baseResn with
          | some r => simp [eq_comm]
          | none =>
            cases unnamedPick edid platform <;> simp

/-- The call of `DSMgr_Start` and a later one choose the same resolution just when the
established configuration changes nothing. -/
theorem startResolution_agrees_iff (isEU bootupFlagEnabled : Bool) (ports : Ports) (hal : Hal ρ)
    (hres : hal.resolution (bootupFlagEnabled || hal.hotplugEdidDiff) = hal.resolution true) :
    chosen (startResolution ports hal) = chosen (laterResolution isEU bootupFlagEnabled ports hal) ↔
      ∀ edid platform defaultResn, Reaches ports hal edid platform defaultResn →
        Unaffected (setupPlatformConfig isEU .initial) edid platform defaultResn
          (hal.resolution true) (overrides4K hal (hal.resolution true)) := by
  have hstart : hal.resolution (true || hal.hotplugEdidDiff) = hal.resolution true := rfl
  simp only [startResolution, laterResolution, setVideoPortResolution]
  cases hport : choosePort ports with
  | none =>
    refine iff_of_true rfl ?_
    rintro edid platform defaultResn ⟨handle, hchoose, -⟩
    rw [hport] at hchoose
    cases hchoose
  | some port =>
    obtain ⟨handle, portType⟩ := port
    by_cases hreach : ∃ edid platform defaultResn, Reaches ports hal edid platform defaultResn
    · obtain ⟨edid, platform, defaultResn, handle', hchoose, hneg⟩ := hreach
      obtain ⟨rfl, rfl⟩ := Prod.mk.inj (Option.some.inj (hport.symm.trans hchoose))
      rw [chosen_setResolution hneg hstart, chosen_setResolution hneg hres,
        negotiate_initial_iff hneg.edid_nonempty]
      constructor
      · rintro h edid' platform' defaultResn' ⟨handle', hchoose', hneg'⟩
        obtain ⟨rfl, -⟩ := Prod.mk.inj (Option.some.inj (hchoose.symm.trans hchoose'))
        obtain ⟨rfl, rfl, rfl⟩ := negotiates_unique hneg hneg'
        exact h
      · exact fun h => h edid platform defaultResn ⟨handle, hchoose, hneg⟩
    · refine iff_of_true (congrArg chosen ?_) fun edid platform defaultResn h =>
        absurd ⟨edid, platform, defaultResn, h⟩ hreach
      refine setResolution_not_negotiates (hstart.trans hres.symm) ?_
      rintro rfl edid platform defaultResn hneg
      exact hreach ⟨edid, platform, defaultResn, handle, hport, hneg⟩

def hdmiPorts : Ports := ⟨1, true, 0, 0, 0⟩

def fallBackHal : Hal Unit where
  videoPortResolutions := some [⟨lit "720p", ()⟩, ⟨lit "1080i", ()⟩]
  defaultResolutionIndex := some 0
  edidDataAllocated := true
  edidParamAllocated := true
  hotplugEdidDiff := true
  resolution := fun _ => lit "1080p60"
  displayHandle := 1
  suppResolutionList := [⟨lit "1080i", ()⟩, ⟨lit "720p", ()⟩]
  hdmiDeviceType := true
  forceDisable4K := false

theorem startResolution_disagrees :
    chosen (startResolution hdmiPorts fallBackHal) = some ⟨lit "720p", ()⟩ ∧
      chosen (laterResolution false false hdmiPorts fallBackHal) = some ⟨lit "1080i", ()⟩ := by
  decide

theorem startResolution_agrees_iff_fallBackHal :
    ¬ ∀ edid platform defaultResn, Reaches hdmiPorts fallBackHal edid platform defaultResn →
      Unaffected (setupPlatformConfig false .initial) edid platform defaultResn
        (lit "1080p60") false := by
  intro h
  have hagree := (startResolution_agrees_iff false false hdmiPorts fallBackHal rfl).mpr h
  revert hagree
  decide

end IarmMgrs.DsMgr.PortResolution
