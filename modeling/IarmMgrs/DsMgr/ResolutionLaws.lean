import IarmMgrs.DsMgr.Resolution

universe u

namespace IarmMgrs.DsMgr.Resolution

open Lib Lib.CString

variable {ρ : Type u} {cfg : PlatformConfig} {edid platform : List (DsVideoPortResolution ρ)}
  {defaultResn : DsVideoPortResolution ρ} {name presolution : Name} {sel : Selection ρ}

theorem mem_names {l : List (DsVideoPortResolution ρ)} :
    name ∈ names l ↔ ∃ r ∈ l, r.name = name := List.mem_map

theorem any_name (platform : List (DsVideoPortResolution ρ)) (name : Name) :
    platform.any (·.name = name) = true ↔ name ∈ names platform := by
  simp [mem_names]

theorem supportedBelow_some {n : Nat} {r : DsVideoPortResolution ρ}
    (h : supportedBelow edid platform name n = some r) :
    r ∈ edid ∧ r.name = name ∧ name ∈ names platform := by
  induction n with
  | zero => cases h
  | succ n ih =>
    rw [supportedBelow] at h
    split at h
    · next setResn hget =>
      split at h
      · next hmatch =>
        obtain rfl := Option.some.inj h
        simp only [Bool.and_eq_true, decide_eq_true_eq] at hmatch
        obtain ⟨rfl, hplat⟩ := hmatch
        exact ⟨List.mem_of_getElem? hget, rfl, (any_name _ _).mp hplat⟩
      · exact ih h
    · exact ih h

theorem supportedBelow_none {n : Nat} (h : supportedBelow edid platform name n = none)
    (hplat : name ∈ names platform) {i : Nat} (hi : i < n) {r : DsVideoPortResolution ρ}
    (hr : edid[i]? = some r) : r.name ≠ name := by
  induction n with
  | zero => exact absurd hi (Nat.not_lt_zero i)
  | succ n ih =>
    rw [supportedBelow] at h
    rcases Nat.lt_succ_iff_lt_or_eq.mp hi with hlt | rfl
    · split at h
      · split at h
        · cases h
        · exact ih h hlt
      · exact ih h hlt
    · rintro rfl
      simp [hr, (any_name platform r.name).mpr hplat] at h

theorem isResolutionSupported_some {r : DsVideoPortResolution ρ}
    (h : isResolutionSupported edid platform name = some r) :
    r ∈ edid ∧ r.name = name ∧ Common edid platform name := by
  obtain ⟨hmem, hname, hplat⟩ := supportedBelow_some h
  exact ⟨hmem, hname, mem_names.mpr ⟨r, hmem, hname⟩, hplat⟩

theorem isResolutionSupported_none :
    isResolutionSupported edid platform name = none ↔ ¬ Common edid platform name := by
  constructor
  · rintro h ⟨hedid, hplat⟩
    obtain ⟨r, hmem, hname⟩ := mem_names.mp hedid
    obtain ⟨i, hi⟩ := List.getElem?_of_mem hmem
    exact supportedBelow_none h hplat (List.getElem?_eq_some_iff.mp hi).1 hi hname
  · intro h
    cases hs : isResolutionSupported edid platform name with
    | none => rfl
    | some r => exact absurd (isResolutionSupported_some hs).2.2 h

theorem scanFor_found (sel : Selection ρ) {l : List (DsVideoPortResolution ρ)}
    (h : name ∈ names l) :
    ∃ r ∈ l, r.name = name ∧ scanFor name l sel = sel.take r := by
  induction l generalizing sel with
  | nil => simp [names] at h
  | cons r rs ih =>
    by_cases hr : name = r.name
    · exact ⟨r, List.mem_cons_self, hr.symm, by rw [scanFor, if_pos hr]⟩
    · have hrs : name ∈ names rs := (List.mem_cons.mp h).resolve_left hr
      obtain ⟨r', hmem, hname, heq⟩ := ih { sel with setResn := some r } hrs
      exact ⟨r', List.mem_cons_of_mem r hmem, hname, by rw [scanFor, if_neg hr, heq]; rfl⟩

theorem scanFor_missed (sel : Selection ρ) {l : List (DsVideoPortResolution ρ)}
    (h : name ∉ names l) :
    (scanFor name l sel).isValidResolution = sel.isValidResolution := by
  induction l generalizing sel with
  | nil => rfl
  | cons r rs ih =>
    obtain ⟨hr, hrs⟩ := not_or.mp (mt List.mem_cons.mpr h)
    rw [scanFor, if_neg hr]
    exact ih _ hrs

theorem bootStage_setResn {r : DsVideoPortResolution ρ} (h : edid.getLast? = some r) :
    (bootStage platform edid sel).setResn = some r := by
  induction edid generalizing sel with
  | nil => cases h
  | cons r' rs ih =>
    rw [bootStage]
    cases rs with
    | nil =>
      obtain rfl : r' = r := by simpa using h
      rfl
    | cons r'' rs => exact ih (by simpa using h)

theorem bootStage_valid :
    (bootStage platform edid sel).isValidResolution = true ↔
      sel.isValidResolution = true ∨ ∃ name, Common edid platform name := by
  induction edid generalizing sel with
  | nil => simp [bootStage, Common, names]
  | cons r rs ih =>
    rw [bootStage, ih]
    simp only [Bool.or_eq_true, any_name, or_assoc]
    refine or_congr_right ⟨?_, ?_⟩
    · rintro (hr | ⟨name, hname, hplat⟩)
      · exact ⟨r.name, List.mem_cons_self, hr⟩
      · exact ⟨name, List.mem_cons_of_mem _ hname, hplat⟩
    · rintro ⟨name, hname, hplat⟩
      cases List.mem_cons.mp hname with
      | inl heq =>
        obtain rfl : name = r.name := heq
        exact .inl hplat
      | inr hmem => exact .inr ⟨name, hmem, hplat⟩

theorem secondaryStage_found (sel : Selection ρ)
    (h : SecondaryMatch cfg edid platform presolution) :
    ∃ r, Common edid platform r.name ∧
      secondaryStage cfg edid platform presolution sel =
        { sel.take r with forceCompatible := true } := by
  obtain ⟨heu, secResn, hsec, hcommon⟩ := h
  cases hs : isResolutionSupported edid platform secResn with
  | none => exact absurd hcommon (isResolutionSupported_none.mp hs)
  | some r =>
    obtain ⟨-, rfl, -⟩ := isResolutionSupported_some hs
    exact ⟨r, hcommon, by simp [secondaryStage, heu, hsec, hs]⟩

theorem secondaryStage_missed (h : ¬ SecondaryMatch cfg edid platform presolution) :
    secondaryStage cfg edid platform presolution sel = sel := by
  unfold secondaryStage
  split
  · next heu =>
    split
    · rfl
    · next secResn hsec =>
      have hnone : isResolutionSupported edid platform secResn = none :=
        isResolutionSupported_none.mpr fun hcommon => h ⟨heu, secResn, hsec, hcommon⟩
      rw [hnone]
  · rfl

theorem fallBackEntry_some {entry : Name} {r : DsVideoPortResolution ρ}
    (h : fallBackEntry cfg edid platform entry = some r) : Common edid platform r.name := by
  obtain h | ⟨-, h⟩ := Option.or_eq_some_iff.mp h
  · split at h
    · obtain ⟨-, hname, hcommon⟩ := isResolutionSupported_some h
      exact hname ▸ hcommon
    · cases h
  · obtain ⟨-, hname, hcommon⟩ := isResolutionSupported_some h
    exact hname ▸ hcommon

theorem fallBackEntry_none {entry : Name} :
    fallBackEntry cfg edid platform entry = none ↔ ¬ EntryMatch cfg edid platform entry := by
  simp only [fallBackEntry, EntryMatch, Option.or_eq_none_iff, not_or]
  cases cfg.isEUPlatform <;> simp [isResolutionSupported_none]

theorem fallBackStage_found (sel : Selection ρ) {baseResn : Name}
    (h : FallBackMatch cfg edid platform baseResn) :
    ∃ r, Common edid platform r.name ∧
      fallBackStage cfg edid platform baseResn sel = sel.take r := by
  unfold fallBackStage
  split
  · next hnone =>
    obtain ⟨entry, hmem, hmatch⟩ := h
    exact absurd hmatch (fallBackEntry_none.mp (List.findSome?_eq_none_iff.mp hnone entry hmem))
  · next r hsome =>
    obtain ⟨entry, -, hentry⟩ := List.exists_of_findSome?_eq_some hsome
    exact ⟨r, fallBackEntry_some hentry, rfl⟩

theorem fallBackStage_missed {baseResn : Name}
    (h : ¬ FallBackMatch cfg edid platform baseResn) :
    fallBackStage cfg edid platform baseResn sel = sel := by
  have hnone :
      (fallBackEntries cfg baseResn).findSome? (fallBackEntry cfg edid platform) = none := by
    rw [List.findSome?_eq_none_iff]
    intro entry hmem
    exact fallBackEntry_none.mpr fun hmatch => h ⟨entry, hmem, hmatch⟩
  simp [fallBackStage, hnone]

def Selection.Picks (sel : Selection ρ) (name : Name) : Prop :=
  sel.isValidResolution = true ∧ ∃ r, sel.setResn = some r ∧ r.name = name

theorem Selection.picks_take (r : DsVideoPortResolution ρ) : (sel.take r).Picks r.name :=
  ⟨rfl, r, rfl, rfl⟩

theorem Selection.orElse_valid (stage : Selection ρ → Selection ρ)
    (h : sel.isValidResolution = true) : sel.orElse stage = sel := if_pos h

theorem Selection.orElse_invalid (stage : Selection ρ → Selection ρ)
    (h : sel.isValidResolution = false) : sel.orElse stage = stage sel := if_neg (by simp [h])

theorem lateStages_valid (h : sel.isValidResolution = true) :
    lateStages edid platform defaultResn sel = sel := by
  simp only [lateStages, Selection.orElse_valid _ h]

/-- The last three stages always pick something, and a common resolution exactly when
`LateMatch` says so. -/
theorem lateStages_picks (h : sel.isValidResolution = false)
    (hdefault : defaultResn.name ∈ names platform) (hcommon : ∃ name, Common edid platform name) :
    ∃ name, (lateStages edid platform defaultResn sel).Picks name ∧
      (Common edid platform name ↔ LateMatch edid platform defaultResn) := by
  simp only [lateStages, LateMatch]
  rw [Selection.orElse_invalid _ h]
  by_cases hd : defaultResn.name ∈ names edid
  · obtain ⟨r, -, hname, heq⟩ := scanFor_found sel hd
    rw [heq]
    refine ⟨r.name, ?_, iff_of_true ?_ (.inl hd)⟩
    · rw [Selection.orElse_valid _ rfl, Selection.orElse_valid _ rfl]
      exact Selection.picks_take r
    · exact hname ▸ ⟨hd, hdefault⟩
  · have hvalid := (scanFor_missed sel hd).trans h
    rw [Selection.orElse_invalid _ hvalid]
    by_cases hn : resolutionBaseNtsc ∈ names edid
    · obtain ⟨r, -, hname, heq⟩ := scanFor_found (scanFor defaultResn.name edid sel) hn
      rw [heq, Selection.orElse_valid _ rfl]
      refine ⟨r.name, Selection.picks_take r, ?_⟩
      rw [hname]
      simp [Common, hd, hn]
    · have hvalid := (scanFor_missed (scanFor defaultResn.name edid sel) hn).trans hvalid
      obtain ⟨name, hedid, -⟩ := id hcommon
      have hne : edid ≠ [] := by
        rintro rfl
        simp [names] at hedid
      have hlast := List.getLast?_eq_some_getLast hne
      rw [Selection.orElse_invalid _ hvalid]
      refine ⟨(edid.getLast hne).name,
        ⟨bootStage_valid.mpr (.inr hcommon), _, bootStage_setResn hlast, rfl⟩, ?_⟩
      have hmem : (edid.getLast hne).name ∈ names edid :=
        mem_names.mpr ⟨_, List.getLast_mem hne, rfl⟩
      simp [Common, hd, hn, hmem, hlast]

theorem persistedStage_found (h : presolution ∈ names edid) :
    (persistedStage edid presolution).Picks presolution := by
  obtain ⟨r, -, hname, heq⟩ := scanFor_found .initial h
  simp only [persistedStage, heq]
  exact ⟨rfl, r, rfl, hname⟩

theorem persistedStage_missed (h : presolution ∉ names edid) :
    (persistedStage edid presolution).isValidResolution = false :=
  scanFor_missed .initial h

theorem negotiate_valid
    (h : ((persistedStage edid presolution).orElse
      (secondaryStage cfg edid platform presolution)).isValidResolution = true) :
    negotiate cfg edid platform defaultResn presolution =
      some ((persistedStage edid presolution).orElse
        (secondaryStage cfg edid platform presolution)) := by
  simp only [negotiate, if_pos h, Option.map_some, lateStages_valid h]

theorem negotiate_invalid (hp : presolution ∉ names edid)
    (hs : ¬ SecondaryMatch cfg edid platform presolution) :
    negotiate cfg edid platform defaultResn presolution =
      (parseResolution presolution).map fun baseResn =>
        lateStages edid platform defaultResn
          (fallBackStage cfg edid platform baseResn (persistedStage edid presolution)) := by
  have hinvalid := persistedStage_missed hp
  simp only [negotiate, Selection.orElse_invalid _ hinvalid, secondaryStage_missed hs]
  rw [if_neg (by simp [hinvalid]), Option.map_map]
  rfl

/-- Unless it runs into undefined behaviour the negotiation picks a resolution, and a
common one exactly when `Negotiable` says so. -/
theorem negotiate_picks (cfg : PlatformConfig) (presolution : Name)
    (hdefault : defaultResn.name ∈ names platform)
    (hcommon : ∃ name, Common edid platform name) :
    match negotiate cfg edid platform defaultResn presolution with
    | none => ¬ Negotiable cfg edid platform defaultResn presolution
    | some sel => ∃ name, sel.Picks name ∧
        (Common edid platform name ↔ Negotiable cfg edid platform defaultResn presolution) := by
  by_cases hp : presolution ∈ names edid
  · have hpicks := persistedStage_found hp
    have hvalid := Selection.orElse_valid (secondaryStage cfg edid platform presolution)
      hpicks.1
    rw [negotiate_valid (by rw [hvalid]; exact hpicks.1), hvalid]
    exact ⟨presolution, hpicks, by simp [Common, Negotiable, hp]⟩
  · have hinvalid := persistedStage_missed hp
    by_cases hs : SecondaryMatch cfg edid platform presolution
    · obtain ⟨r, hr, heq⟩ := secondaryStage_found (persistedStage edid presolution) hs
      have hvalid := Selection.orElse_invalid (secondaryStage cfg edid platform presolution)
        hinvalid
      rw [negotiate_valid (by rw [hvalid, heq]; rfl), hvalid, heq]
      exact ⟨r.name, ⟨rfl, r, rfl, rfl⟩, iff_of_true hr (by simp [Negotiable, hp, hs])⟩
    · rw [negotiate_invalid hp hs]
      cases hparse : parseResolution presolution with
      | none => simp [Negotiable, hp, hs, hparse]
      | some baseResn =>
        by_cases hf : FallBackMatch cfg edid platform baseResn
        · obtain ⟨r, hr, heq⟩ := fallBackStage_found (persistedStage edid presolution) hf
          simp only [Option.map_some, heq]
          rw [lateStages_valid rfl]
          refine ⟨r.name, Selection.picks_take r, iff_of_true hr ?_⟩
          simp [Negotiable, hp, hparse, hf]
        · obtain ⟨name, hpicks, hlate⟩ := lateStages_picks hinvalid hdefault hcommon
          simp only [Option.map_some, fallBackStage_missed hf]
          exact ⟨name, hpicks, by simp [hlate, Negotiable, hp, hs, hparse, hf]⟩

/-- A call of `_SetResolution` for the HDMI port that gets as far as the negotiation, with
a display attached that is an HDMI device and 4K not disabled. -/
structure Negotiates (hal : Hal ρ) (handle : Int) (edid platform : List (DsVideoPortResolution ρ))
    (defaultResn : DsVideoPortResolution ρ) : Prop where
  platform_list : hal.videoPortResolutions = some platform
  default_index : ∃ i, hal.defaultResolutionIndex = some i ∧
    defaultResolution platform i = some defaultResn
  allocated : hal.edidDataAllocated = true ∧ hal.edidParamAllocated = true
  handle : handle ≠ 0
  display : hal.displayHandle ≠ 0
  edid_list : hal.suppResolutionList = edid
  edid_nonempty : edid ≠ []
  hdmi : hal.hdmiDeviceType = true
  uhd : hal.forceDisable4K = false

theorem defaultResolution_mem {i : Int} (h : defaultResolution platform i = some defaultResn) :
    defaultResn.name ∈ names platform := by
  unfold defaultResolution at h
  split at h
  · cases h
  · exact mem_names.mpr ⟨defaultResn, List.mem_of_getElem? h, rfl⟩

theorem Negotiates.setResolution_eq {hal : Hal ρ} {handle : Int} {bootup : Bool}
    (h : Negotiates hal handle edid platform defaultResn) :
    setResolution cfg bootup hal handle .hdmi =
      match negotiate cfg edid platform defaultResn
        (hal.resolution (bootup || hal.hotplugEdidDiff)) with
      | none => .undefined
      | some sel => .sets ⟨handle,
          if sel.isValidResolution then sel.setResn.getD defaultResn else defaultResn,
          false, sel.forceCompatible⟩ := by
  obtain ⟨i, hi, hdefault⟩ := h.default_index
  simp only [setResolution, h.platform_list, hi, hdefault, h.allocated.1, h.allocated.2, h.handle,
    h.display, h.edid_list, h.hdmi]
  simp only [applySelection, h.uhd]
  cases negotiate cfg edid platform defaultResn (hal.resolution (bootup || hal.hotplugEdidDiff)) <;>
    simp [h.edid_nonempty]

theorem setResolution_common_iff {hal : Hal ρ} {handle : Int} (cfg : PlatformConfig) (bootup : Bool)
    (h : Negotiates hal handle edid platform defaultResn)
    (hcommon : ∃ name, name ∈ names edid ∧ name ∈ names platform) :
    (∃ param, setResolution cfg bootup hal handle .hdmi = .sets param ∧
      param.resolution.name ∈ names edid ∧ param.resolution.name ∈ names platform) ↔
    Negotiable cfg edid platform defaultResn
      (hal.resolution (bootup || hal.hotplugEdidDiff)) := by
  obtain ⟨i, -, hdefault⟩ := h.default_index
  have hpicks := negotiate_picks cfg (hal.resolution (bootup || hal.hotplugEdidDiff))
    (defaultResolution_mem hdefault) hcommon
  rw [h.setResolution_eq]
  split at hpicks
  · simpa using hpicks
  · next sel _ =>
    obtain ⟨name, ⟨hvalid, r, hr, rfl⟩, hiff⟩ := hpicks
    rw [← hiff]
    simp [hvalid, hr, Common]

def bootEdid : List (DsVideoPortResolution Unit) := [⟨lit "1080p24", ()⟩, ⟨lit "2160p30", ()⟩]

def bootPlatform : List (DsVideoPortResolution Unit) := [⟨lit "720p", ()⟩, ⟨lit "1080p24", ()⟩]

def bootHal : Hal Unit where
  videoPortResolutions := some bootPlatform
  defaultResolutionIndex := some 0
  edidDataAllocated := true
  edidParamAllocated := true
  hotplugEdidDiff := false
  resolution _ := lit "1080p60"
  displayHandle := 1
  suppResolutionList := bootEdid
  hdmiDeviceType := true
  forceDisable4K := false

theorem bootHal_negotiates : Negotiates bootHal 1 bootEdid bootPlatform ⟨lit "720p", ()⟩ where
  platform_list := rfl
  default_index := ⟨0, rfl, rfl⟩
  allocated := ⟨rfl, rfl⟩
  handle := by decide
  display := by decide
  edid_list := rfl
  edid_nonempty := by simp [bootEdid]
  hdmi := rfl
  uhd := rfl

theorem setResolution_not_common :
    lit "1080p24" ∈ names bootEdid ∧ lit "1080p24" ∈ names bootPlatform ∧
      setResolution (setupPlatformConfig false .initial) true bootHal 1 .hdmi =
        .sets ⟨1, ⟨lit "2160p30", ()⟩, false, false⟩ ∧
      lit "2160p30" ∉ names bootPlatform := by
  decide

theorem setResolution_common_iff_bootHal :
    ¬ Negotiable (setupPlatformConfig false .initial) bootEdid bootPlatform ⟨lit "720p", ()⟩
      (lit "1080p60") := by
  intro h
  obtain ⟨param, hsets, -, hplat⟩ :=
    (setResolution_common_iff _ true bootHal_negotiates ⟨lit "1080p24", by decide⟩).mpr h
  have heq : setResolution (setupPlatformConfig false .initial) true bootHal 1 .hdmi =
      .sets ⟨1, ⟨lit "2160p30", ()⟩, false, false⟩ := by decide
  obtain rfl := Outcome.sets.inj (heq.symm.trans hsets)
  exact absurd hplat (by decide)

end IarmMgrs.DsMgr.Resolution
