import IarmMgrs.DsMgr.ResolutionLaws

universe u

namespace IarmMgrs.DsMgr.PortResolution

open Lib Lib.CString Resolution

variable {ρ : Type u}

/-- The handles `getVideoPortHandle` gives, 0 for none, and `isHDMIConnected`. -/
structure Ports where
  hdmi : Int
  connected : Bool
  component : Int
  bb : Int
  rf : Int

def choosePort (ports : Ports) : Option (Int × DsVideoPortType) :=
  if ports.hdmi = 0 then none
  else if ports.connected then some (ports.hdmi, .hdmi)
  else if ports.component ≠ 0 then some (ports.component, .component)
  else if ports.bb ≠ 0 then some (ports.bb, .bb)
  else if ports.rf ≠ 0 then some (ports.rf, .rf)
  else none

def setVideoPortResolution (cfg : PlatformConfig) (bootupFlagEnabled : Bool) (ports : Ports)
    (hal : Hal ρ) : Outcome ρ :=
  match choosePort ports with
  | none => .returns
  | some (handle, portType) => setResolution cfg bootupFlagEnabled hal handle portType

/-- The call in `DSMgr_Start`. -/
def startResolution (ports : Ports) (hal : Hal ρ) : Outcome ρ :=
  setVideoPortResolution .initial true ports hal

/-- A call after `setupPlatformConfig` has run. -/
def laterResolution (isEU bootupFlagEnabled : Bool) (ports : Ports) (hal : Hal ρ) : Outcome ρ :=
  setVideoPortResolution (setupPlatformConfig isEU .initial) bootupFlagEnabled ports hal

def chosen : Outcome ρ → Option (DsVideoPortResolution ρ)
  | .sets param => some param.resolution
  | _ => none

section Picks

variable (cfg : PlatformConfig) (edid platform : List (DsVideoPortResolution ρ))

def secondaryPick (presolution : Name) : Option (DsVideoPortResolution ρ) :=
  if cfg.isEUPlatform then
    (getSecondaryResolution presolution).bind (isResolutionSupported edid platform)
  else none

def fallBackPick (baseResn : Name) : Option (DsVideoPortResolution ρ) :=
  (fallBackEntries cfg baseResn).findSome? (fallBackEntry cfg edid platform)

def latePick (defaultResn : DsVideoPortResolution ρ) : DsVideoPortResolution ρ :=
  match edid.find? (·.name = defaultResn.name), edid.find? (·.name = resolutionBaseNtsc) with
  | some r, _ => r
  | none, some r => r
  | none, none =>
    if edid.any (fun r => platform.any (·.name = r.name)) then edid.getLast?.getD defaultResn
    else defaultResn

/-- What the EU-secondary and fallback stages find before `setupPlatformConfig`: at most a
resolution without a name. -/
def unnamedPick : Option (DsVideoPortResolution ρ) := isResolutionSupported edid platform []

/-- The established configuration changes nothing for a negotiation: the persisted
resolution is in the EDID; or its name cannot be parsed and no secondary one is found; or
the 4K override applies; or the EU-secondary and fallback stages find nothing with it, or
just what is chosen without them. -/
def Unaffected (defaultResn : DsVideoPortResolution ρ) (presolution : Name)
    (overrides4K : Bool) : Prop :=
  presolution ∈ names edid ∨
    match parseResolution presolution with
    | none => secondaryPick cfg edid platform presolution = none
    | some baseResn =>
      overrides4K = true ∨
        match (secondaryPick cfg edid platform presolution).or
          (fallBackPick cfg edid platform baseResn) with
        | none => ∀ r, unnamedPick edid platform = some r → r = latePick edid platform defaultResn
        | some r => r = (unnamedPick edid platform).getD (latePick edid platform defaultResn)

def ShareName (edid platform : List (DsVideoPortResolution ρ)) : Prop :=
  ∃ name, Common edid platform name

instance ShareName.decidable : Decidable (ShareName edid platform) :=
  decidable_of_iff (∃ r ∈ edid, Common edid platform r.name) <| by
    constructor
    · exact fun ⟨r, _, hr⟩ => ⟨r.name, hr⟩
    · rintro ⟨name, hedid, hplatform⟩
      obtain ⟨r, hr, rfl⟩ := mem_names.mp hedid
      exact ⟨r, hr, hedid, hplatform⟩

instance SecondaryMatch.decidable (presolution : Name) :
    Decidable (SecondaryMatch cfg edid platform presolution) :=
  decidable_of_iff (cfg.isEUPlatform = true ∧
    ∃ secResn ∈ getSecondaryResolution presolution, Common edid platform secResn) Iff.rfl

/-- The resolution of the first stage that finds one.  Only a match of the persisted
resolution or of its secondary one is forced to be compatible. -/
def StagePriority (defaultResn : DsVideoPortResolution ρ) (presolution : Name)
    (param : SetParam ρ) : Prop :=
  if presolution ∈ names edid then
    param.resolution ∈ edid ∧ param.resolution.name = presolution ∧ param.forceCompatible = true
  else if SecondaryMatch cfg edid platform presolution then
    param.resolution ∈ edid ∧
      getSecondaryResolution presolution = some param.resolution.name ∧
      param.forceCompatible = true
  else
    param.forceCompatible = false ∧ ∃ baseResn, parseResolution presolution = some baseResn ∧
      match fallBackPick cfg edid platform baseResn with
      | some r => param.resolution = r
      | none =>
        if defaultResn.name ∈ names edid then
          param.resolution ∈ edid ∧ param.resolution.name = defaultResn.name
        else if resolutionBaseNtsc ∈ names edid then
          param.resolution ∈ edid ∧ param.resolution.name = resolutionBaseNtsc
        else if ShareName edid platform then param.resolution ∈ edid
        else param.resolution = defaultResn

end Picks

def overrides4K (hal : Hal ρ) (presolution : Name) : Bool :=
  hal.forceDisable4K && presolution.take 4 = lit "2160"

def Reaches (ports : Ports) (hal : Hal ρ) (edid platform : List (DsVideoPortResolution ρ))
    (defaultResn : DsVideoPortResolution ρ) : Prop :=
  ∃ handle, choosePort ports = some (handle, .hdmi) ∧
    Negotiates { hal with forceDisable4K := false } handle edid platform defaultResn

end IarmMgrs.DsMgr.PortResolution
