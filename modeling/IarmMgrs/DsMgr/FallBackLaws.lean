import IarmMgrs.DsMgr.FallBack

universe u

namespace IarmMgrs.DsMgr.FallBack

open Lib Lib.CString Resolution PortResolution

section Parsing

variable {resn : Name} {c : UInt8}

theorem firstRun_length (resn : Name) : (firstRun resn).length ≤ 9 := by
  have hcopy : (toResArray resn).length ≤ 9 := List.length_take_le _ _
  have hrest := (List.dropWhile_suffix isScan (l := toResArray resn)).length_le
  have hrun := (List.takeWhile_prefix (!isScan ·)
    (l := (toResArray resn).dropWhile isScan)).length_le
  rw [firstRun]
  omega

theorem scanLetter_cases (resn : Name) : scanLetter resn = [] ∨ ∃ c, scanLetter resn = [c] := by
  unfold scanLetter
  split
  · exact .inr ⟨105, rfl⟩
  · split
    · exact .inr ⟨112, rfl⟩
    · exact .inl rfl

theorem parseResolution_null (h : firstRun resn = []) : parseResolution resn = none := by
  have htoken : strtok (fun c => c == 105 || c == 112) (toResArray resn) = none := strtok_none h
  simp only [parseResolution, htoken]

theorem parseResolution_run (h : firstRun resn ≠ []) :
    parseResolution resn =
      match scanLetter resn with
      | [] => some (firstRun resn)
      | c :: _ => appendScan (firstRun resn) c := by
  have htoken : strtok (fun c => c == 105 || c == 112) (toResArray resn) =
      some (firstRun resn) := strtok_some h
  simp only [parseResolution, htoken, scanLetter]
  split
  · rfl
  · split <;> rfl

theorem parseResolution_plain (h : firstRun resn ≠ []) (hscan : scanLetter resn = []) :
    parseResolution resn = some (firstRun resn) := by
  rw [parseResolution_run h, hscan]

theorem parseResolution_scan (h : firstRun resn ≠ []) (hscan : scanLetter resn = [c]) :
    parseResolution resn = appendScan (firstRun resn) c := by
  rw [parseResolution_run h, hscan]

/-- A name parses to its base exactly if the run is there and leaves room for the letter
in a pointer. -/
theorem parsesToBase_iff (resn : Name) :
    ParsesToBase resn ↔
      firstRun resn ≠ [] ∧ (scanLetter resn = [] ∨ (firstRun resn).length ≤ 6) := by
  by_cases hrun : firstRun resn = []
  · refine iff_of_false ?_ fun h => h.1 hrun
    rintro ⟨baseResn, hparse, -⟩
    rw [parseResolution_null hrun] at hparse
    cases hparse
  refine Iff.trans ?_ (and_iff_right hrun).symm
  obtain hscan | ⟨c, hscan⟩ := scanLetter_cases resn
  · refine iff_of_true ⟨_, parseResolution_plain hrun hscan, fun _ => ?_⟩ (.inl hscan)
    rw [hscan, List.append_nil]
  · rw [ParsesToBase, parseResolution_scan hrun hscan, hscan]
    have hlen := firstRun_length resn
    by_cases hroom : (firstRun resn).length ≤ 6
    · exact iff_of_true ⟨_, appendScan_room c hroom, fun _ => rfl⟩ (.inr hroom)
    · refine iff_of_false ?_ (by simp [hroom])
      rintro ⟨baseResn, hparse, hbase⟩
      by_cases hfull : (firstRun resn).length ≤ 8
      · rw [appendScan_full c (by omega) hfull] at hparse
        obtain rfl := Option.some.inj hparse
        have hfits : (firstRun resn ++ [c]).length < resMaxLen := by
          rw [List.length_append, List.length_singleton, resMaxLen]
          omega
        exact absurd (hbase hfits) (by simp)
      · rw [appendScan_wraps c (by omega)] at hparse
        cases hparse

theorem not_parsesToBase : ¬ ParsesToBase [] ∧ ¬ ParsesToBase (lit "ip") ∧
    ¬ ParsesToBase (lit "12345678p") ∧ ¬ ParsesToBase (lit "123456789p") := by
  have hempty : parseResolution [] = none := by decide
  have hletters : parseResolution (lit "ip") = none := by decide
  have hmissing : parseResolution (lit "12345678p") = some (lit "12345678") := by decide
  have hpast : parseResolution (lit "123456789p") = none := by decide
  refine ⟨?_, ?_, ?_, ?_⟩
  · rintro ⟨baseResn, hparse, -⟩
    cases hempty.symm.trans hparse
  · rintro ⟨baseResn, hparse, -⟩
    cases hletters.symm.trans hparse
  · rintro ⟨baseResn, hparse, hbase⟩
    obtain rfl := Option.some.inj (hmissing.symm.trans hparse)
    exact absurd (hbase (by decide)) (by decide)
  · rintro ⟨baseResn, hparse, -⟩
    cases hpast.symm.trans hparse

end Parsing

section Order

variable {ρ : Type u} {cfg : PlatformConfig} {edid platform : List (DsVideoPortResolution ρ)}
  {presolution baseResn entry : Name} {r : DsVideoPortResolution ρ} {k : Nat}

theorem findSome?_drop {α β : Type*} {l : List α} {f : α → Option β} {n : Nat} {b : β}
    (h : (l.drop n).findSome? f = some b) :
    ∃ j a, n ≤ j ∧ l[j]? = some a ∧ f a = some b ∧
      ∀ i e, n ≤ i → i < j → l[i]? = some e → f e = none := by
  obtain ⟨missed, a, rest, hsplit, ha, hmissed⟩ := List.findSome?_eq_some_iff.mp h
  have hget (i : Nat) : l[n + i]? = (missed ++ a :: rest)[i]? := by
    rw [← hsplit, List.getElem?_drop]
  refine ⟨n + missed.length, a, Nat.le_add_right .., ?_, ha, fun i e hi hlt he => ?_⟩
  · rw [hget, List.getElem?_append_right (Nat.le_refl _), Nat.sub_self, List.getElem?_cons_zero]
  · obtain ⟨d, rfl⟩ := Nat.exists_eq_add_of_le hi
    have hd : d < missed.length := by omega
    rw [hget, List.getElem?_append_left hd] at he
    exact hmissed e (List.mem_of_getElem? he)

theorem fallBackEntries_at (hnodup : cfg.fallBackResolutionList.Nodup)
    (hk : cfg.fallBackResolutionList[k]? = some baseResn) :
    fallBackEntries cfg baseResn = cfg.fallBackResolutionList.drop (k + 1) := by
  obtain ⟨hlt, rfl⟩ := List.getElem?_eq_some_iff.mp hk
  rw [fallBackEntries, if_pos (List.getElem_mem hlt), hnodup.idxOf_getElem]

theorem fallBackEntry_rateName (h : fallBackEntry cfg edid platform entry = some r) :
    r ∈ edid ∧ r.name = rateName cfg edid platform entry ∧ r.name ∈ names platform := by
  obtain h | ⟨hmissed, h⟩ := Option.or_eq_some_iff.mp h
  · split at h
    case isTrue heu =>
      obtain ⟨hmem, hname, hcommon⟩ := isResolutionSupported_some h
      exact ⟨hmem, by rw [hname, rateName, if_pos ⟨heu, hcommon⟩], hname ▸ hcommon.2⟩
    case isFalse => cases h
  · obtain ⟨hmem, hname, hcommon⟩ := isResolutionSupported_some h
    refine ⟨hmem, ?_, hname ▸ hcommon.2⟩
    rw [hname, rateName, if_neg]
    rintro ⟨heu, hrate⟩
    rw [if_pos heu] at hmissed
    exact isResolutionSupported_none.mp hmissed hrate

variable (isEU : Bool)

theorem fallBackResolutionList_nodup :
    (setupPlatformConfig isEU .initial).fallBackResolutionList.Nodup := by
  cases isEU <;> decide

theorem parseResolution_entry
    (h : entry ∈ (setupPlatformConfig isEU .initial).fallBackResolutionList) (hne : entry ≠ [])
    (eu : Bool) :
    parseResolution (getFallBackResolution entry eu) = some entry := by
  have hall : ∀ entry ∈ (setupPlatformConfig isEU .initial).fallBackResolutionList, entry ≠ [] →
      parseResolution (getFallBackResolution entry eu) = some entry := by
    cases isEU <;> cases eu <;> decide
  exact hall entry h hne

theorem rateName_cases (cfg : PlatformConfig) (edid platform : List (DsVideoPortResolution ρ))
    (entry : Name) :
    ∃ eu, rateName cfg edid platform entry = getFallBackResolution entry eu := by
  unfold rateName
  split
  · exact ⟨true, rfl⟩
  · exact ⟨false, rfl⟩

theorem parseResolution_rateName
    (h : entry ∈ (setupPlatformConfig isEU .initial).fallBackResolutionList)
    (hne : rateName cfg edid platform entry ≠ []) :
    parseResolution (rateName cfg edid platform entry) = some entry := by
  obtain ⟨eu, hrate⟩ := rateName_cases cfg edid platform entry
  rw [hrate] at hne ⊢
  refine parseResolution_entry isEU h ?_ eu
  rintro rfl
  cases eu <;> exact hne rfl

/-- The fallback takes the first entry behind the base that is in both lists at one of its
rates, which is one of a lower base, and takes nothing if there is none. -/
theorem fallBackStage_order {defaultResn : DsVideoPortResolution ρ} (hnames : [] ∉ names edid)
    (hp : presolution ∉ names edid)
    (hs : ¬ SecondaryMatch (setupPlatformConfig isEU .initial) edid platform presolution)
    (hparse : parseResolution presolution = some baseResn)
    (hk : (setupPlatformConfig isEU .initial).fallBackResolutionList[k]? = some baseResn) :
    let cfg := setupPlatformConfig isEU .initial
    let sel := persistedStage edid presolution
    negotiate cfg edid platform defaultResn presolution =
        some (lateStages edid platform defaultResn
          (fallBackStage cfg edid platform baseResn sel)) ∧
      ((∃ j entry, FirstMatch cfg edid platform k j entry ∧
          ∃ r ∈ edid, r.name = rateName cfg edid platform entry ∧ r.name ∈ names platform ∧
            fallBackStage cfg edid platform baseResn sel = sel.take r ∧
            LowerBase cfg k r.name) ∨
        (∀ j entry, k < j → cfg.fallBackResolutionList[j]? = some entry →
            ¬ EntryMatch cfg edid platform entry) ∧
          fallBackStage cfg edid platform baseResn sel = sel ∧
          sel.isValidResolution = false) := by
  intro cfg sel
  refine ⟨by rw [negotiate_invalid hp hs, hparse]; rfl, ?_⟩
  have hnodup := fallBackResolutionList_nodup isEU
  have hentries : fallBackEntries cfg baseResn = cfg.fallBackResolutionList.drop (k + 1) :=
    fallBackEntries_at hnodup hk
  rw [fallBackStage, hentries]
  cases hfind : (cfg.fallBackResolutionList.drop (k + 1)).findSome?
      (fallBackEntry cfg edid platform) with
  | none =>
    refine .inr ⟨fun j entry hj hentry => ?_, rfl, persistedStage_missed hp⟩
    refine fallBackEntry_none.mp (List.findSome?_eq_none_iff.mp hfind entry ?_)
    rw [← Nat.add_sub_of_le hj, ← List.getElem?_drop] at hentry
    exact List.mem_of_getElem? hentry
  | some r =>
    obtain ⟨j, entry, hj, hentry, hfound, hfirst⟩ := findSome?_drop hfind
    obtain ⟨hmem, hname, hplat⟩ := fallBackEntry_rateName hfound
    refine .inl ⟨j, entry, ⟨hj, hentry, ?_, fun i e hi hlt he => ?_⟩,
      r, hmem, hname, hplat, rfl, ?_⟩
    · by_contra hmatch
      rw [fallBackEntry_none.mpr hmatch] at hfound
      cases hfound
    · exact fallBackEntry_none.mp (hfirst i e hi hlt he)
    · refine ⟨j, entry, hj, hentry, ?_, fun i hi hsame => ?_⟩
      · rw [hname]
        refine parseResolution_rateName isEU (List.mem_of_getElem? hentry) ?_
        intro hempty
        exact hnames (mem_names.mpr ⟨r, hmem, hname.trans hempty⟩)
      · have heq := (List.getElem?_inj (List.getElem?_eq_some_iff.mp hsame).1 hnodup).mp
          (hsame.trans hentry.symm)
        omega

theorem fallBackStage_order_fallBackHal :
    let cfg := setupPlatformConfig false .initial
    let platform : List (DsVideoPortResolution Unit) := [⟨lit "720p", ()⟩, ⟨lit "1080i", ()⟩]
    let sel := persistedStage fallBackHal.suppResolutionList (lit "1080p60")
    ∃ r ∈ fallBackHal.suppResolutionList, LowerBase cfg 1 r.name ∧
      negotiate cfg fallBackHal.suppResolutionList platform ⟨lit "720p", ()⟩ (lit "1080p60") =
        some (lateStages fallBackHal.suppResolutionList platform ⟨lit "720p", ()⟩
          (sel.take r)) := by
  intro cfg platform sel
  obtain ⟨hnegotiate, ⟨j, entry, -, r, hmem, -, -, htake, hlower⟩ | ⟨hnone, -, -⟩⟩ :=
    @fallBackStage_order Unit fallBackHal.suppResolutionList platform (lit "1080p60")
      (lit "1080p") 1 false ⟨lit "720p", ()⟩ (by decide) (by decide) (by decide) (by decide)
      (by decide)
  · rw [htake] at hnegotiate
    exact ⟨r, hmem, hlower, hnegotiate⟩
  · exact absurd (.inr (by decide)) (hnone 2 (lit "1080i") (by decide) (by decide))

end Order

section Limit

variable {ρ : Type u} {cfg : PlatformConfig} {edid platform : List (DsVideoPortResolution ρ)}
  {defaultResn r : DsVideoPortResolution ρ} {name presolution baseResn : Name} {hal : Hal ρ}
  {handle : Int} {portType : DsVideoPortType} {bootup : Bool} {param : SetParam ρ}

theorem secondaryPick_some (h : secondaryPick cfg edid platform presolution = some r) :
    cfg.isEUPlatform = true ∧ getSecondaryResolution presolution = some r.name ∧
      Common edid platform r.name := by
  obtain ⟨heu, h⟩ := Option.ite_none_right_eq_some.mp h
  obtain ⟨secResn, hsec, hfound⟩ := Option.bind_eq_some_iff.mp h
  obtain ⟨-, rfl, hcommon⟩ := isResolutionSupported_some hfound
  exact ⟨heu, hsec, hcommon⟩

theorem secondaryPick_none :
    secondaryPick cfg edid platform presolution = none ↔
      ¬ SecondaryMatch cfg edid platform presolution := by
  simp only [secondaryPick, SecondaryMatch]
  cases cfg.isEUPlatform <;>
    simp [Option.bind_eq_none_iff, isResolutionSupported_none]

theorem fallBackPick_none :
    fallBackPick cfg edid platform baseResn = none ↔
      ¬ FallBackMatch cfg edid platform baseResn := by
  simp [fallBackPick, FallBackMatch, List.findSome?_eq_none_iff, fallBackEntry_none]

/-- Only the first entry of the fallback list is a 4K one, and no fallback reaches it. -/
theorem fallBackPick_not_uhd (hcfg : Configured cfg)
    (h : fallBackPick cfg edid platform baseResn = some r) : ¬ IsUhd r.name := by
  have hlower : ∀ entry ∈ cfg.fallBackResolutionList.drop 1, ∀ eu,
      ¬ IsUhd (getFallBackResolution entry eu) := by
    obtain rfl | ⟨isEU, rfl⟩ := hcfg
    · decide
    · cases isEU <;> decide
  obtain ⟨entry, hmem, hentry⟩ := List.exists_of_findSome?_eq_some h
  have hbehind : entry ∈ cfg.fallBackResolutionList.drop 1 := by
    rw [fallBackEntries, Nat.add_comm, ← List.drop_drop] at hmem
    exact List.mem_of_mem_drop hmem
  obtain ⟨-, hname, -⟩ := fallBackEntry_rateName hentry
  obtain ⟨eu, hrate⟩ := rateName_cases cfg edid platform entry
  rw [hname, hrate]
  exact hlower entry hbehind eu

/-- The late stages come to a 4K resolution only through the boot stage. -/
theorem latePick_uhd_iff (hne : edid ≠ []) (hdefault : ¬ IsUhd defaultResn.name) :
    IsUhd (latePick edid platform defaultResn).name ↔
      defaultResn.name ∉ names edid ∧ resolutionBaseNtsc ∉ names edid ∧
        ShareName edid platform ∧ ∃ r ∈ edid.getLast?, IsUhd r.name := by
  simp only [latePick]
  cases hd : edid.find? (·.name = defaultResn.name) with
  | some r =>
    obtain ⟨-, hname, hmem⟩ := find?_name_some hd
    exact iff_of_false (by rwa [hname]) fun h => h.1 hmem
  | none =>
    have hd := find?_name_none.mp hd
    cases hn : edid.find? (·.name = resolutionBaseNtsc) with
    | some r =>
      obtain ⟨-, hname, hmem⟩ := find?_name_some hn
      have hntsc : ¬ IsUhd resolutionBaseNtsc := by decide
      exact iff_of_false (by rwa [hname]) fun h => h.2.1 hmem
    | none =>
      have hn := find?_name_none.mp hn
      have hlast := List.getLast?_eq_some_getLast hne
      by_cases hshare : ShareName edid platform
      · simp [any_common.mpr hshare, hd, hn, hshare, hlast]
      · simp [mt any_common.mp hshare, hdefault, hshare]

theorem negotiate_uhd_iff (hcfg : Configured cfg) (hne : edid ≠ [])
    (hdefault : ¬ IsUhd defaultResn.name) (hpers : ¬ IsUhd presolution) :
    (∃ r, (negotiate cfg edid platform defaultResn presolution).map (pick defaultResn) = some r ∧
        IsUhd r.name) ↔
      UhdEscapes cfg edid platform defaultResn presolution := by
  by_cases hp : presolution ∈ names edid
  · obtain ⟨hvalid, r, hset, hname⟩ := persistedStage_found hp
    have hpick : pick defaultResn (persistedStage edid presolution) = r := by
      rw [pick, if_pos hvalid, hset, Option.getD_some]
    refine iff_of_false ?_ fun h => h.2.1 hp
    rintro ⟨r', hr', huhd⟩
    rw [negotiate_persisted hp, Option.map_some, hpick] at hr'
    obtain rfl := Option.some.inj hr'
    exact hpers (hname ▸ huhd)
  · rw [negotiate_pick hp hne]
    simp only [UhdEscapes, hpers, hp, not_false_eq_true, true_and]
    cases hsec : secondaryPick cfg edid platform presolution with
    | some r =>
      obtain ⟨heu, hname, hcommon⟩ := secondaryPick_some hsec
      have hmatch : SecondaryMatch cfg edid platform presolution := ⟨heu, r.name, hname, hcommon⟩
      simp only [Option.some_or, Option.some.injEq, exists_eq_left', BootUhd, hmatch,
        not_true_eq_false, false_and, or_false, SecondaryUhd, heu, hname, true_and, hcommon]
    | none =>
      have hmissed := secondaryPick_none.mp hsec
      have hno : ¬ SecondaryUhd cfg edid platform presolution := by
        rintro ⟨heu, secResn, hname, hcommon, -⟩
        exact hmissed ⟨heu, secResn, hname, hcommon⟩
      simp only [Option.none_or, hno, false_or, BootUhd, hmissed, not_false_eq_true, true_and]
      cases parseResolution presolution with
      | none => simp
      | some baseResn =>
        simp only [Option.map_some, Option.some.injEq, exists_eq_left', ← fallBackPick_none]
        cases hfall : fallBackPick cfg edid platform baseResn with
        | some r => simp [fallBackPick_not_uhd hcfg hfall]
        | none => simp [latePick_uhd_iff hne hdefault]

theorem applySelection_sets {sel : Selection ρ}
    (h : applySelection hal handle defaultResn presolution sel = .sets param) :
    param.resolution =
      afterOverride defaultResn (overrides4K hal presolution) (pick defaultResn sel) := by
  obtain rfl := Outcome.sets.inj h
  rfl

theorem applySelection_direct {sel : Selection ρ}
    (hsel : sel = .initial ∨ ∃ l, sel = scanFor presolution l .initial)
    (h : applySelection hal handle defaultResn presolution sel = .sets param) :
    param.resolution = defaultResn ∨
      param.resolution.name = presolution ∧ overrides4K hal presolution = false := by
  rw [applySelection_sets h]
  cases hover : overrides4K hal presolution with
  | true => exact .inl rfl
  | false =>
    obtain rfl | ⟨l, rfl⟩ := hsel
    · exact .inl rfl
    · by_cases hmem : presolution ∈ names l
      · obtain ⟨r, -, hname, heq⟩ := scanFor_found (ρ := ρ) .initial hmem
        rw [heq]
        exact .inr ⟨hname, rfl⟩
      · have hmissed : (scanFor presolution l (.initial : Selection ρ)).isValidResolution = false :=
          scanFor_missed .initial hmem
        rw [pick, if_neg (by simp [hmissed])]
        exact .inl rfl

theorem setResolution_direct
    (h : portType = .hdmi → ∀ edid platform defaultResn,
      ¬ Negotiates' hal handle edid platform (defaultResn : DsVideoPortResolution ρ))
    (hsets : setResolution cfg bootup hal handle portType = .sets param) :
    ∃ platform i defaultResn, hal.videoPortResolutions = some platform ∧
      hal.defaultResolutionIndex = some i ∧ defaultResolution platform i = some defaultResn ∧
      (param.resolution = defaultResn ∨
        param.resolution.name = hal.resolution (bootup || hal.hotplugEdidDiff) ∧
          overrides4K hal (hal.resolution (bootup || hal.hotplugEdidDiff)) = false) := by
  simp only [setResolution] at hsets
  cases hplatform : hal.videoPortResolutions with
  | none => simp [hplatform] at hsets
  | some platform =>
    cases hindex : hal.defaultResolutionIndex with
    | none => simp [hplatform, hindex] at hsets
    | some i =>
      cases hdefault : defaultResolution platform i with
      | none => simp [hplatform, hindex, hdefault] at hsets
      | some defaultResn =>
        refine ⟨platform, i, defaultResn, rfl, rfl, hdefault, ?_⟩
        simp only [hplatform, hindex, hdefault] at hsets
        by_cases hready : (!hal.edidDataAllocated || handle = 0) = true
        · rw [if_pos hready] at hsets
          cases hsets
        · rw [if_neg hready] at hsets
          have hready' : hal.edidDataAllocated = true ∧ handle ≠ 0 := by simpa using hready
          cases portType with
          | hdmi =>
            by_cases hdisplay : hal.displayHandle = 0
            · simp only [hdisplay, if_true] at hsets
              exact applySelection_direct (.inl rfl) hsets
            · -- A display is attached, so it was its EDID that kept the negotiation away.
              obtain hno | hparam | hlist := hdmi_not_negotiates hplatform hindex hdefault
                hready'.1 hready'.2 (fun edid => h rfl edid platform defaultResn)
              · exact absurd hno hdisplay
              · simp [hdisplay, hparam] at hsets
              · simp [hdisplay, hlist] at hsets
          | other => exact applySelection_direct (.inl rfl) hsets
          | component | bb | rf => exact applySelection_direct (.inr ⟨_, rfl⟩) hsets

theorem overrides4K_disabled (hdisable : hal.forceDisable4K = true) (presolution : Name) :
    overrides4K hal presolution = decide (IsUhd presolution) := by
  rw [overrides4K, hdisable, Bool.true_and]
  rfl

/-- With 4K disabled a call that negotiates sets a 4K resolution exactly if the negotiation
escapes. -/
theorem negotiated_uhd_iff (hcfg : Configured cfg) (hdisable : hal.forceDisable4K = true)
    (hneg : Negotiates' hal handle edid platform defaultResn)
    (hdefault : ¬ IsUhd defaultResn.name) :
    (∃ param, setResolution cfg bootup hal handle .hdmi = .sets param ∧
        IsUhd param.resolution.name) ↔
      UhdEscapes cfg edid platform defaultResn
        (hal.resolution (bootup || hal.hotplugEdidDiff)) := by
  have hsets : (∃ param, setResolution cfg bootup hal handle .hdmi = .sets param ∧
      IsUhd param.resolution.name) ↔
        ∃ r, chosen (setResolution cfg bootup hal handle .hdmi) = some r ∧ IsUhd r.name := by
    constructor
    · rintro ⟨param, hset, huhd⟩
      exact ⟨param.resolution, chosen_eq_some.mpr ⟨param, hset, rfl⟩, huhd⟩
    · rintro ⟨r, hr, huhd⟩
      obtain ⟨param, hset, rfl⟩ := chosen_eq_some.mp hr
      exact ⟨param, hset, huhd⟩
  rw [hsets, chosen_setResolution hneg rfl, overrides4K_disabled hdisable]
  by_cases hpers : IsUhd (hal.resolution (bootup || hal.hotplugEdidDiff))
  · -- The persisted 4K resolution is overridden by the default.
    refine iff_of_false ?_ fun h => h.1 hpers
    rintro ⟨r, hr, huhd⟩
    obtain ⟨r', -, hover⟩ := Option.map_eq_some_iff.mp hr
    rw [decide_eq_true hpers] at hover
    obtain rfl : defaultResn = r := hover
    exact hdefault huhd
  · have hkept : afterOverride defaultResn (decide (IsUhd (hal.resolution
        (bootup || hal.hotplugEdidDiff)))) = id := by
      rw [decide_eq_false hpers]
      rfl
    rw [hkept, Option.map_id, id_eq]
    exact negotiate_uhd_iff hcfg hneg.edid_nonempty hdefault hpers

/-- With 4K disabled a call sets no 4K resolution exactly unless it negotiates for the HDMI
port and the negotiation escapes. -/
theorem setResolution_limits4K_iff (hcfg : Configured cfg) (bootup : Bool) (hal : Hal ρ)
    (handle : Int) (portType : DsVideoPortType) (hdisable : hal.forceDisable4K = true)
    (hdefault : ∀ platform i defaultResn, hal.videoPortResolutions = some platform →
      hal.defaultResolutionIndex = some i →
      defaultResolution platform i = some defaultResn → ¬ IsUhd defaultResn.name) :
    (∀ param, setResolution cfg bootup hal handle portType = .sets param →
      ¬ IsUhd param.resolution.name) ↔
    (portType = .hdmi → ∀ edid platform defaultResn,
      Negotiates' hal handle edid platform defaultResn →
        ¬ UhdEscapes cfg edid platform defaultResn
          (hal.resolution (bootup || hal.hotplugEdidDiff))) := by
  have hnegotiated {edid platform : List (DsVideoPortResolution ρ)}
      {defaultResn : DsVideoPortResolution ρ}
      (hneg : Negotiates' hal handle edid platform defaultResn) :
      (∃ param, setResolution cfg bootup hal handle .hdmi = .sets param ∧
        IsUhd param.resolution.name) ↔ UhdEscapes cfg edid platform defaultResn
          (hal.resolution (bootup || hal.hotplugEdidDiff)) := by
    obtain ⟨i, hi, hat⟩ := hneg.default_index
    exact negotiated_uhd_iff hcfg hdisable hneg
      (hdefault platform i defaultResn hneg.platform_list hi hat)
  constructor
  · rintro hlimit rfl edid platform defaultResn hneg hescapes
    obtain ⟨param, hsets, huhd⟩ := (hnegotiated hneg).mpr hescapes
    exact hlimit param hsets huhd
  · intro hno param hsets huhd
    by_cases hreach : portType = .hdmi ∧ ∃ edid platform defaultResn,
        Negotiates' hal handle edid platform (defaultResn : DsVideoPortResolution ρ)
    · obtain ⟨rfl, edid, platform, defaultResn, hneg⟩ := hreach
      exact hno rfl edid platform defaultResn hneg
        ((hnegotiated hneg).mp ⟨param, hsets, huhd⟩)
    · have hdirect : portType = .hdmi → ∀ edid platform defaultResn,
          ¬ Negotiates' hal handle edid platform (defaultResn : DsVideoPortResolution ρ) :=
        fun hport edid platform defaultResn hneg =>
          hreach ⟨hport, edid, platform, defaultResn, hneg⟩
      obtain ⟨platform, i, defaultResn, hplatform, hi, hat, hset⟩ :=
        setResolution_direct hdirect hsets
      obtain rfl | ⟨hname, hpass⟩ := hset
      · exact hdefault platform i _ hplatform hi hat huhd
      · rw [overrides4K_disabled hdisable, decide_eq_false_iff_not, ← hname] at hpass
        exact hpass huhd

def limitedHal : Hal Unit := { bootHal with forceDisable4K := true }

theorem limitedHal_default (platform : List (DsVideoPortResolution Unit)) (i : Int)
    (defaultResn : DsVideoPortResolution Unit)
    (hplatform : limitedHal.videoPortResolutions = some platform)
    (hi : limitedHal.defaultResolutionIndex = some i)
    (hat : defaultResolution platform i = some defaultResn) : ¬ IsUhd defaultResn.name := by
  obtain rfl := Option.some.inj hplatform
  obtain rfl := Option.some.inj hi
  obtain rfl : (⟨lit "720p", ()⟩ : DsVideoPortResolution Unit) = defaultResn := Option.some.inj hat
  decide

theorem setResolution_sets4K : limitedHal.forceDisable4K = true ∧
    (∀ platform i defaultResn, limitedHal.videoPortResolutions = some platform →
      limitedHal.defaultResolutionIndex = some i →
      defaultResolution platform i = some defaultResn → ¬ IsUhd defaultResn.name) ∧
    ¬ ∀ param, setResolution (setupPlatformConfig false .initial) true limitedHal 1 .hdmi =
      .sets param → ¬ IsUhd param.resolution.name := by
  refine ⟨rfl, limitedHal_default, fun hall => ?_⟩
  have hsets : setResolution (setupPlatformConfig false .initial) true limitedHal 1 .hdmi =
      .sets ⟨1, ⟨lit "2160p30", ()⟩, false, false⟩ := by decide
  exact absurd (hall _ hsets) (by decide)

theorem setResolution_limits4K_iff_component : ¬ ∃ param,
    setResolution (setupPlatformConfig false .initial) true limitedHal 1 .component =
      .sets param ∧ IsUhd param.resolution.name := by
  rintro ⟨param, hsets, huhd⟩
  exact (setResolution_limits4K_iff (.inr ⟨false, rfl⟩) true limitedHal 1 .component rfl
    limitedHal_default).mpr (fun h => nomatch h) param hsets huhd

end Limit

end IarmMgrs.DsMgr.FallBack
