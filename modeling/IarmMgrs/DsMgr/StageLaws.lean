import IarmMgrs.DsMgr.PortResolutionLaws

universe u

namespace IarmMgrs.DsMgr.PortResolution

open Lib Lib.CString Resolution

variable {ρ : Type u} {cfg : PlatformConfig} {edid platform : List (DsVideoPortResolution ρ)}
  {defaultResn : DsVideoPortResolution ρ} {name presolution token : Name} {sel : Selection ρ}
  {hal : Hal ρ} {handle : Int}

/-- The size left is that of a pointer: room for the letter behind six characters, for none
behind seven or eight, and a size wrapped around behind nine. -/
theorem appendScan_room (c : UInt8) (h : token.length ≤ 6) :
    appendScan token c = some (token ++ [c]) := by
  have hsize : ¬ (sizeofCharPtr + 2 ^ CInt.sizeBits - token.length) % 2 ^ CInt.sizeBits < 2 := by
    simp only [sizeofCharPtr, CInt.sizeBits]
    omega
  have hroom : token.length + 1 < resMaxLen := by
    rw [resMaxLen]
    omega
  simp only [appendScan, if_neg hsize, if_pos hroom]

theorem appendScan_full (c : UInt8) (h : 7 ≤ token.length) (h' : token.length ≤ 8) :
    appendScan token c = some token := by
  have hsize : (sizeofCharPtr + 2 ^ CInt.sizeBits - token.length) % 2 ^ CInt.sizeBits < 2 := by
    simp only [sizeofCharPtr, CInt.sizeBits]
    omega
  simp only [appendScan, if_pos hsize]

theorem appendScan_wraps (c : UInt8) (h : token.length = 9) : appendScan token c = none := by
  simp only [appendScan, h]
  rfl

theorem appendScan_short (c : UInt8) (h : token.length ≤ 7) :
    ∃ baseResn, appendScan token c = some baseResn := by
  by_cases hroom : token.length ≤ 6
  · exact ⟨token ++ [c], appendScan_room c hroom⟩
  · exact ⟨token, appendScan_full c (by omega) (by omega)⟩

theorem length_takeWhile_take (p : UInt8 → Bool) (n : Nat) (l : List UInt8) :
    ((l.take n).takeWhile p).length ≤ (l.takeWhile p).length := by
  induction l generalizing n with
  | nil => simp
  | cons c cs ih =>
    cases n with
    | zero => simp
    | succ n =>
      simp only [List.take_succ_cons, List.takeWhile_cons]
      split
      · exact Nat.succ_le_succ (ih n)
      · exact Nat.le_refl _

/-- A name with a leading part of at most seven characters is parsed. -/
theorem parseResolution_leading (hne : leadingPart presolution ≠ [])
    (hlen : (leadingPart presolution).length ≤ 7) :
    ∃ baseResn, parseResolution presolution = some baseResn := by
  cases presolution with
  | nil => exact absurd rfl hne
  | cons c cs =>
    have hc : (c == 105 || c == 112) = false := by
      cases hdelim : (c == 105 || c == 112) with
      | false => rfl
      | true =>
        refine absurd ?_ hne
        rw [leadingPart, List.takeWhile_cons_of_neg (by simp [hdelim])]
    have htoken : strtok (fun c => c == 105 || c == 112) (toResArray (c :: cs)) =
        some ((toResArray (c :: cs)).takeWhile fun c => !(c == 105 || c == 112)) := by
      simp only [toResArray, resMaxLen, Nat.reduceSub, List.take_succ_cons, strtok]
      rw [List.dropWhile_cons_of_neg (by simp [hc])]
    have hshort := Nat.le_trans (length_takeWhile_take (fun c => !(c == 105 || c == 112))
      (resMaxLen - 1) (c :: cs)) hlen
    simp only [parseResolution, htoken]
    split
    · exact appendScan_short _ hshort
    · split
      · exact appendScan_short _ hshort
      · exact ⟨_, rfl⟩

theorem scanFor_forceCompatible (l : List (DsVideoPortResolution ρ)) (sel : Selection ρ) :
    (scanFor name l sel).forceCompatible = sel.forceCompatible := by
  induction l generalizing sel with
  | nil => rfl
  | cons r rs ih =>
    rw [scanFor]
    split
    · rfl
    · exact ih _

theorem bootStage_forceCompatible (l : List (DsVideoPortResolution ρ)) (sel : Selection ρ) :
    (bootStage platform l sel).forceCompatible = sel.forceCompatible := by
  induction l generalizing sel with
  | nil => rfl
  | cons r rs ih =>
    rw [bootStage]
    exact ih _

theorem orElse_forceCompatible {stage : Selection ρ → Selection ρ}
    (h : ∀ sel, (stage sel).forceCompatible = sel.forceCompatible) (sel : Selection ρ) :
    (sel.orElse stage).forceCompatible = sel.forceCompatible := by
  rw [Selection.orElse]
  split
  · rfl
  · exact h sel

theorem lateStages_forceCompatible (sel : Selection ρ) :
    (lateStages edid platform defaultResn sel).forceCompatible = sel.forceCompatible := by
  simp only [lateStages]
  rw [orElse_forceCompatible (bootStage_forceCompatible edid),
    orElse_forceCompatible (scanFor_forceCompatible edid),
    orElse_forceCompatible (scanFor_forceCompatible edid)]

theorem fallBackStage_forceCompatible (baseResn : Name) (sel : Selection ρ) :
    (fallBackStage cfg edid platform baseResn sel).forceCompatible = sel.forceCompatible := by
  rw [fallBackStage]
  split <;> rfl

theorem latePick_priority (hne : edid ≠ []) :
    if defaultResn.name ∈ names edid then
      latePick edid platform defaultResn ∈ edid ∧
        (latePick edid platform defaultResn).name = defaultResn.name
    else if resolutionBaseNtsc ∈ names edid then
      latePick edid platform defaultResn ∈ edid ∧
        (latePick edid platform defaultResn).name = resolutionBaseNtsc
    else if ShareName edid platform then latePick edid platform defaultResn ∈ edid
    else latePick edid platform defaultResn = defaultResn := by
  simp only [latePick]
  cases hd : edid.find? (·.name = defaultResn.name) with
  | some r =>
    obtain ⟨hr, hname, hmem⟩ := find?_name_some hd
    rw [if_pos hmem]
    exact ⟨hr, hname⟩
  | none =>
    rw [if_neg (find?_name_none.mp hd)]
    cases hn : edid.find? (·.name = resolutionBaseNtsc) with
    | some r =>
      obtain ⟨hr, hname, hmem⟩ := find?_name_some hn
      rw [if_pos hmem]
      exact ⟨hr, hname⟩
    | none =>
      rw [if_neg (find?_name_none.mp hn)]
      by_cases hcommon : ShareName edid platform
      · rw [if_pos hcommon, if_pos (any_common.mpr hcommon),
          List.getLast?_eq_some_getLast hne]
        exact List.getLast_mem hne
      · rw [if_neg hcommon, if_neg (mt any_common.mp hcommon)]

theorem negotiate_relatives (hp : presolution ∉ names edid)
    (hs : ¬ SecondaryMatch cfg edid platform presolution) (hne : edid ≠ []) {baseResn : Name}
    (hparse : parseResolution presolution = some baseResn) :
    ∃ sel, negotiate cfg edid platform defaultResn presolution = some sel ∧
      sel.forceCompatible = false ∧
      pick defaultResn sel =
        (fallBackPick cfg edid platform baseResn).getD (latePick edid platform defaultResn) := by
  have hinvalid := persistedStage_missed hp
  refine ⟨_, by rw [negotiate_invalid hp hs, hparse]; rfl, ?_, ?_⟩
  · rw [lateStages_forceCompatible, fallBackStage_forceCompatible]
    exact hinvalid
  · exact pick_fallBackStage hinvalid hne baseResn

/-- A call for the HDMI port sets one resolution, that of the first stage to find one. -/
theorem setResolution_stagePriority {bootup : Bool}
    (h : Negotiates hal handle edid platform defaultResn)
    (hres : hal.resolution (bootup || hal.hotplugEdidDiff) = presolution)
    (hlead : 1 ≤ (leadingPart presolution).length) (hlen : (leadingPart presolution).length ≤ 7) :
    ∃ param, setResolution cfg bootup hal handle .hdmi = .sets param ∧ param.handle = handle ∧
      StagePriority cfg edid platform defaultResn presolution param := by
  have heq : setResolution cfg bootup hal handle .hdmi = _ := h.setResolution_eq
  rw [hres] at heq
  by_cases hp : presolution ∈ names edid
  · obtain ⟨r, hmem, hname, hscan⟩ := scanFor_found (ρ := ρ) .initial hp
    rw [negotiate_persisted hp] at heq
    refine ⟨_, heq, rfl, ?_⟩
    simp only [StagePriority, if_pos hp, persistedStage, hscan]
    exact ⟨hmem, hname, rfl⟩
  · have hinvalid := persistedStage_missed hp
    by_cases hs : SecondaryMatch cfg edid platform presolution
    · obtain ⟨heu, secResn, hsec, hcommon⟩ := id hs
      cases hfound : isResolutionSupported edid platform secResn with
      | none => exact absurd hcommon (isResolutionSupported_none.mp hfound)
      | some r =>
        obtain ⟨hmem, hname, -⟩ := isResolutionSupported_some hfound
        have hstage : (persistedStage edid presolution).orElse
            (secondaryStage cfg edid platform presolution) =
            { (persistedStage edid presolution).take r with forceCompatible := true } := by
          rw [Selection.orElse_invalid _ hinvalid]
          simp only [secondaryStage, heu, if_true, hsec, hfound]
        rw [negotiate_valid (by rw [hstage]; rfl), hstage] at heq
        refine ⟨_, heq, rfl, ?_⟩
        simp only [StagePriority, if_neg hp, if_pos hs]
        exact ⟨hmem, by rw [hsec, ← hname]; rfl, trivial⟩
    · obtain ⟨baseResn, hparse⟩ := parseResolution_leading (List.ne_nil_of_length_pos hlead) hlen
      have hrelatives : ∃ sel, negotiate cfg edid platform defaultResn presolution = some sel ∧ _ :=
        negotiate_relatives hp hs h.edid_nonempty hparse
      obtain ⟨sel, hneg, hforce, hpick⟩ := hrelatives
      rw [hneg] at heq
      refine ⟨_, heq, rfl, ?_⟩
      simp only [StagePriority, if_neg hp, if_neg hs]
      refine ⟨hforce, baseResn, hparse, ?_⟩
      cases hf : fallBackPick cfg edid platform baseResn with
      | some r =>
        have hpicked : pick defaultResn sel = r := by rw [hpick, hf, Option.getD_some]
        exact hpicked
      | none =>
        have hlate : pick defaultResn sel = latePick edid platform defaultResn := by
          rw [hpick, hf, Option.getD_none]
        simp only [pick] at hlate
        simp only [hlate]
        exact latePick_priority h.edid_nonempty

theorem fallBackHal_negotiates : Negotiates fallBackHal 1
    [⟨lit "1080i", ()⟩, ⟨lit "720p", ()⟩] [⟨lit "720p", ()⟩, ⟨lit "1080i", ()⟩]
    ⟨lit "720p", ()⟩ where
  platform_list := rfl
  default_index := ⟨0, rfl, rfl⟩
  allocated := ⟨rfl, rfl⟩
  handle := by decide
  display := by decide
  edid_list := rfl
  edid_nonempty := by simp
  hdmi := rfl
  uhd := rfl

theorem setResolution_stagePriority_fallBackHal :
    ∃ param, setResolution (setupPlatformConfig false .initial) false fallBackHal 1 .hdmi =
        .sets param ∧ param.handle = 1 ∧
      StagePriority (setupPlatformConfig false .initial) [⟨lit "1080i", ()⟩, ⟨lit "720p", ()⟩]
        [⟨lit "720p", ()⟩, ⟨lit "1080i", ()⟩] ⟨lit "720p", ()⟩ (lit "1080p60") param :=
  setResolution_stagePriority fallBackHal_negotiates rfl (by decide) (by decide)

end IarmMgrs.DsMgr.PortResolution
