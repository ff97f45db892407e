import IarmMgrs.Lib.CInt
import IarmMgrs.Lib.CString
import Mathlib.Algebra.Group.Nat.Defs

/-! `_SetResolution` of `dsMgr.c`: the negotiation of a resolution between the persisted
one, the platform's list and the list in the EDID.  `iInitResnFlag` is set before the
first call, so the branch for `_dsInitResolution` is left out. -/

universe u

namespace IarmMgrs.DsMgr.Resolution

open Lib Lib.CString

abbrev Name := List UInt8

/-- `details` are the members of `dsVideoPortResolution_t` that are only copied. -/
structure DsVideoPortResolution (ρ : Type u) where
  name : Name
  details : ρ
  deriving DecidableEq

def resMaxLen : Nat := 10
def resMaxCount : Nat := 6
def sizeofCharPtr : Nat := CInt.sizeBits / 8
def defaultProgressiveFps : Name := lit "60"
def resolutionBaseUhd : Name := lit "2160p"
def resolutionBaseFhd : Name := lit "1080p"
def resolutionBaseFhdInt : Name := lit "1080i"
def resolutionBaseHd : Name := lit "720p"
def resolutionBasePal : Name := lit "576p"
def resolutionBaseNtsc : Name := lit "480p"
def euProgressiveFps : Name := lit "50"
def euInterlacedFps : Name := lit "25"

/-- The two static variables `setupPlatformConfig` sets. -/
structure PlatformConfig where
  fallBackResolutionList : List Name
  isEUPlatform : Bool

def PlatformConfig.initial : PlatformConfig := ⟨List.replicate resMaxCount [], false⟩

def setupPlatformConfig (isEU : Bool) (cfg : PlatformConfig) : PlatformConfig :=
  let resList := [resolutionBaseUhd, resolutionBaseFhd, resolutionBaseFhdInt, resolutionBaseHd,
    resolutionBasePal, resolutionBaseNtsc]
  let chosen := resList.filter fun res => !(strstr res resolutionBasePal && !isEU)
  ⟨chosen ++ cfg.fallBackResolutionList.drop chosen.length, isEU⟩

/-- `snprintf` into an array of `RES_MAX_LEN` characters. -/
def toResArray (s : Name) : Name := s.take (resMaxLen - 1)

def getSecondaryResolution (res : Name) : Option Name :=
  if strstr res resolutionBaseHd then some (toResArray resolutionBaseHd)
  else if strstr res resolutionBaseFhd then
    some (toResArray (resolutionBaseFhd ++ defaultProgressiveFps))
  else if strstr res resolutionBaseFhdInt then some (toResArray resolutionBaseFhdInt)
  else if strstr res resolutionBaseUhd then
    some (toResArray (resolutionBaseUhd ++ defaultProgressiveFps))
  else none

/-- `snprintf(bResn+len, sizeof(bResn)-len, "%s", c)` behind a token of `len` characters;
`bResn` is a pointer, and the size wraps around.  `none` is a write past the array. -/
def appendScan (token : Name) (c : UInt8) : Option Name :=
  let size := (sizeofCharPtr + 2 ^ CInt.sizeBits - token.length) % 2 ^ CInt.sizeBits
  if size < 2 then some token
  else if token.length + 1 < resMaxLen then some (token ++ [c])
  else none

/-- `none` is undefined behaviour: a null token, or a write past `bResn`. -/
def parseResolution (pResn : Name) : Option Name :=
  let i : UInt8 := 105
  let p : UInt8 := 112
  match strtok (fun c => c == i || c == p) (toResArray pResn) with
  | none => none
  | some token =>
    if pResn.contains i then appendScan token i
    else if pResn.contains p then appendScan token p
    else some token

def leadingPart (resn : Name) : Name := resn.takeWhile fun c => !(c == 105 || c == 112)

def getFallBackResolution (resn : Name) (eu : Bool) : Name :=
  let tmpResn := toResArray resn
  let fps :=
    if eu then
      if resn = resolutionBaseUhd ∨ resn = resolutionBaseFhd ∨ resn = resolutionBaseHd then
        euProgressiveFps
      else if resn = resolutionBaseFhdInt then euInterlacedFps
      else []
    else if resn = resolutionBaseUhd ∨ resn = resolutionBaseFhd then defaultProgressiveFps
    else []
  toResArray (tmpResn ++ fps)

section Selection

variable {ρ : Type u}

/-- The loop of `isResolutionSupported` from the entry before `i` downwards. -/
def supportedBelow (edid platform : List (DsVideoPortResolution ρ)) (resn : Name) :
    Nat → Option (DsVideoPortResolution ρ)
  | 0 => none
  | i + 1 =>
    match edid[i]? with
    | some setResn =>
      if setResn.name = resn && platform.any (·.name = setResn.name) then some setResn
      else supportedBelow edid platform resn i
    | none => supportedBelow edid platform resn i

/-- The EDID entry whose index `isResolutionSupported` stores. -/
def isResolutionSupported (edid platform : List (DsVideoPortResolution ρ)) (resn : Name) :
    Option (DsVideoPortResolution ρ) :=
  supportedBelow edid platform resn edid.length

/-- `setResn`, `IsValidResolution` and `Setparam.forceCompatible`. -/
structure Selection (ρ : Type u) where
  setResn : Option (DsVideoPortResolution ρ)
  isValidResolution : Bool
  forceCompatible : Bool

def Selection.initial : Selection ρ := ⟨none, false, false⟩

def Selection.take (sel : Selection ρ) (setResn : DsVideoPortResolution ρ) : Selection ρ :=
  { sel with setResn := some setResn, isValidResolution := true }

/-- The loops that look for one name and break at its first occurrence. -/
def scanFor (name : Name) : List (DsVideoPortResolution ρ) → Selection ρ → Selection ρ
  | [], sel => sel
  | r :: rs, sel =>
    if name = r.name then sel.take r else scanFor name rs { sel with setResn := some r }

def persistedStage (edid : List (DsVideoPortResolution ρ)) (presolution : Name) : Selection ρ :=
  let sel := scanFor presolution edid .initial
  { sel with forceCompatible := sel.isValidResolution }

def secondaryStage (cfg : PlatformConfig) (edid platform : List (DsVideoPortResolution ρ))
    (presolution : Name) (sel : Selection ρ) : Selection ρ :=
  if cfg.isEUPlatform then
    match getSecondaryResolution presolution with
    | none => sel
    | some secResn =>
      match isResolutionSupported edid platform secResn with
      | none => sel
      | some setResn => { sel.take setResn with forceCompatible := true }
  else sel

/-- What one round of the fallback loop finds for an entry of the list. -/
def fallBackEntry (cfg : PlatformConfig) (edid platform : List (DsVideoPortResolution ρ))
    (entry : Name) : Option (DsVideoPortResolution ρ) :=
  let eu := if cfg.isEUPlatform then
    isResolutionSupported edid platform (getFallBackResolution entry true) else none
  eu.or (isResolutionSupported edid platform (getFallBackResolution entry false))

/-- The entries after the one that equals the base; after the first one if none does. -/
def fallBackEntries (cfg : PlatformConfig) (baseResn : Name) : List Name :=
  let list := cfg.fallBackResolutionList
  let index := if baseResn ∈ list then list.idxOf baseResn else 0
  list.drop (index + 1)

def fallBackStage (cfg : PlatformConfig) (edid platform : List (DsVideoPortResolution ρ))
    (baseResn : Name) (sel : Selection ρ) : Selection ρ :=
  match (fallBackEntries cfg baseResn).findSome? (fallBackEntry cfg edid platform) with
  | none => sel
  | some setResn => sel.take setResn

/-- The last stage leaves only the inner loop at a match. -/
def bootStage (platform : List (DsVideoPortResolution ρ)) :
    List (DsVideoPortResolution ρ) → Selection ρ → Selection ρ
  | [], sel => sel
  | r :: rs, sel =>
    bootStage platform rs { sel with
      setResn := some r
      isValidResolution := sel.isValidResolution || platform.any (·.name = r.name) }

/-- `if (false == IsValidResolution)`. -/
def Selection.orElse (sel : Selection ρ) (stage : Selection ρ → Selection ρ) : Selection ρ :=
  if sel.isValidResolution then sel else stage sel

def lateStages (edid platform : List (DsVideoPortResolution ρ))
    (defaultResn : DsVideoPortResolution ρ) (sel : Selection ρ) : Selection ρ :=
  let sel := sel.orElse (scanFor defaultResn.name edid)
  let sel := sel.orElse (scanFor resolutionBaseNtsc edid)
  sel.orElse (bootStage platform edid)

/-- The stages for an HDMI port; `none` is undefined behaviour. -/
def negotiate (cfg : PlatformConfig) (edid platform : List (DsVideoPortResolution ρ))
    (defaultResn : DsVideoPortResolution ρ) (presolution : Name) : Option (Selection ρ) :=
  let sel := (persistedStage edid presolution).orElse (secondaryStage cfg edid platform presolution)
  let fallen :=
    if sel.isValidResolution then some sel
    else (parseResolution presolution).map fun base => fallBackStage cfg edid platform base sel
  fallen.map (lateStages edid platform defaultResn)

end Selection

inductive DsVideoPortType where | hdmi | component | bb | rf | other
  deriving DecidableEq

/-- The answers of the HAL and of `malloc` during one call.  A platform list that cannot
be read, or comes as a null pointer, is `none`. -/
structure Hal (ρ : Type u) where
  videoPortResolutions : Option (List (DsVideoPortResolution ρ))
  defaultResolutionIndex : Option Int
  edidDataAllocated : Bool
  edidParamAllocated : Bool
  hotplugEdidDiff : Bool
  resolution : (toPersist : Bool) → Name
  displayHandle : Int
  suppResolutionList : List (DsVideoPortResolution ρ)
  hdmiDeviceType : Bool
  forceDisable4K : Bool

structure SetParam (ρ : Type u) where
  handle : Int
  resolution : DsVideoPortResolution ρ
  toPersist : Bool
  forceCompatible : Bool
  deriving DecidableEq

inductive Outcome (ρ : Type u)
  | returns
  | undefined
  | sets (param : SetParam ρ)
  deriving DecidableEq

section SetResolution

variable {ρ : Type u}

def defaultResolution (pResolutions : List (DsVideoPortResolution ρ)) (defaultResIndex : Int) :
    Option (DsVideoPortResolution ρ) :=
  if defaultResIndex < 0 then none else pResolutions[defaultResIndex.toNat]?

/-- The code behind the selection. -/
def applySelection (hal : Hal ρ) (handle : Int) (defaultResn : DsVideoPortResolution ρ)
    (presolution : Name) (sel : Selection ρ) : Outcome ρ :=
  let setResn := if sel.isValidResolution then sel.setResn.getD defaultResn else defaultResn
  let setResn :=
    if hal.forceDisable4K && presolution.take 4 = lit "2160" then defaultResn else setResn
  .sets ⟨handle, setResn, false, sel.forceCompatible⟩

def setResolution (cfg : PlatformConfig) (bootupFlagEnabled : Bool) (hal : Hal ρ) (handle : Int)
    (portType : DsVideoPortType) : Outcome ρ :=
  match hal.videoPortResolutions, hal.defaultResolutionIndex with
  | none, _ | _, none => .returns
  | some pResolutions, some defaultResIndex =>
    match defaultResolution pResolutions defaultResIndex with
    | none => .returns
    | some defaultResn =>
      if !hal.edidDataAllocated || handle = 0 then .returns
      else
        let presolution := hal.resolution (bootupFlagEnabled || hal.hotplugEdidDiff)
        match portType with
        | .hdmi =>
          if hal.displayHandle = 0 then applySelection hal handle defaultResn presolution .initial
          else if !hal.edidParamAllocated then .returns
          else if hal.suppResolutionList.isEmpty || !hal.hdmiDeviceType then .returns
          else
            match negotiate cfg hal.suppResolutionList pResolutions defaultResn presolution with
            | none => .undefined
            | some sel => applySelection hal handle defaultResn presolution sel
        | .component | .bb | .rf =>
          applySelection hal handle defaultResn presolution
            (scanFor presolution pResolutions .initial)
        | .other => applySelection hal handle defaultResn presolution .initial

end SetResolution

section Negotiable

variable {ρ : Type u} {edid platform : List (DsVideoPortResolution ρ)}

def names (l : List (DsVideoPortResolution ρ)) : List Name := l.map (·.name)

def Common (edid platform : List (DsVideoPortResolution ρ)) (name : Name) : Prop :=
  name ∈ names edid ∧ name ∈ names platform

instance (name : Name) : Decidable (Common edid platform name) :=
  inferInstanceAs (Decidable (_ ∧ _))

def SecondaryMatch (cfg : PlatformConfig) (edid platform : List (DsVideoPortResolution ρ))
    (presolution : Name) : Prop :=
  cfg.isEUPlatform = true ∧
    ∃ secResn, getSecondaryResolution presolution = some secResn ∧ Common edid platform secResn

def EntryMatch (cfg : PlatformConfig) (edid platform : List (DsVideoPortResolution ρ))
    (entry : Name) : Prop :=
  cfg.isEUPlatform = true ∧ Common edid platform (getFallBackResolution entry true) ∨
    Common edid platform (getFallBackResolution entry false)

def FallBackMatch (cfg : PlatformConfig) (edid platform : List (DsVideoPortResolution ρ))
    (baseResn : Name) : Prop :=
  ∃ entry ∈ fallBackEntries cfg baseResn, EntryMatch cfg edid platform entry

def LateMatch (edid platform : List (DsVideoPortResolution ρ))
    (defaultResn : DsVideoPortResolution ρ) : Prop :=
  defaultResn.name ∈ names edid ∨
    if resolutionBaseNtsc ∈ names edid then resolutionBaseNtsc ∈ names platform
    else ∀ r ∈ edid.getLast?, r.name ∈ names platform

def Negotiable (cfg : PlatformConfig) (edid platform : List (DsVideoPortResolution ρ))
    (defaultResn : DsVideoPortResolution ρ) (presolution : Name) : Prop :=
  if presolution ∈ names edid then presolution ∈ names platform
  else SecondaryMatch cfg edid platform presolution ∨
    ∃ baseResn, parseResolution presolution = some baseResn ∧
      (FallBackMatch cfg edid platform baseResn ∨ LateMatch edid platform defaultResn)

instance names.decidableMem (name : Name) : Decidable (name ∈ names edid) := inferInstance

end Negotiable

end IarmMgrs.DsMgr.Resolution
