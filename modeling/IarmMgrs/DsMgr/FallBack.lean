import IarmMgrs.DsMgr.StageLaws

universe u

namespace IarmMgrs.DsMgr.FallBack

open Lib Lib.CString Resolution PortResolution

section Parsing

/-- The delimiters `parseResolution` passes to `strtok`. -/
def isScan (c : UInt8) : Bool := c == 105 || c == 112

def firstRun (resn : Name) : Name := ((toResArray resn).dropWhile isScan).takeWhile (!isScan ·)

/-- `i` for an interlaced name, `p` for another one with a `p`. -/
def scanLetter (resn : Name) : Name :=
  if resn.contains 105 then [105] else if resn.contains 112 then [112] else []

/-- The name is parsed without a null token or a write past the array, and where the run
and the scan letter fit the array together they are the base. -/
def ParsesToBase (resn : Name) : Prop :=
  ∃ baseResn, parseResolution resn = some baseResn ∧
    ((firstRun resn ++ scanLetter resn).length < resMaxLen →
      baseResn = firstRun resn ++ scanLetter resn)

end Parsing

section Order

variable {ρ : Type u} (cfg : PlatformConfig) (edid platform : List (DsVideoPortResolution ρ))

/-- The name an entry of the fallback list is taken at: the one at the European rate, if
the platform is a European one and both lists have it. -/
def rateName (entry : Name) : Name :=
  if cfg.isEUPlatform = true ∧ Common edid platform (getFallBackResolution entry true) then
    getFallBackResolution entry true
  else getFallBackResolution entry false

/-- The entry at `j` is the first one behind `k` that is in both lists at one of its rates. -/
structure FirstMatch (k j : Nat) (entry : Name) : Prop where
  behind : k < j
  entry_at : cfg.fallBackResolutionList[j]? = some entry
  found : EntryMatch cfg edid platform entry
  first : ∀ i e, k < i → i < j → cfg.fallBackResolutionList[i]? = some e →
    ¬ EntryMatch cfg edid platform e

def LowerBase (k : Nat) (resn : Name) : Prop :=
  ∃ j entry, k < j ∧ cfg.fallBackResolutionList[j]? = some entry ∧
    parseResolution resn = some entry ∧
    ∀ i ≤ k, cfg.fallBackResolutionList[i]? ≠ some entry

end Order

section Limit

variable {ρ : Type u}

def IsUhd (name : Name) : Prop := name.take 4 = lit "2160"

instance IsUhd.decidable (name : Name) : Decidable (IsUhd name) :=
  inferInstanceAs (Decidable (_ = _))

/-- A configuration the calls of `_SetResolution` can see. -/
def Configured (cfg : PlatformConfig) : Prop :=
  cfg = .initial ∨ ∃ isEU, cfg = setupPlatformConfig isEU .initial

variable (cfg : PlatformConfig) (edid platform : List (DsVideoPortResolution ρ))
  (defaultResn : DsVideoPortResolution ρ)

def SecondaryUhd (presolution : Name) : Prop :=
  cfg.isEUPlatform = true ∧ ∃ secResn, getSecondaryResolution presolution = some secResn ∧
    Common edid platform secResn ∧ IsUhd secResn

def BootUhd (presolution : Name) : Prop :=
  ¬ SecondaryMatch cfg edid platform presolution ∧
    (∃ baseResn, parseResolution presolution = some baseResn ∧
      ¬ FallBackMatch cfg edid platform baseResn) ∧
    defaultResn.name ∉ names edid ∧ resolutionBaseNtsc ∉ names edid ∧ ShareName edid platform ∧
    ∃ r ∈ edid.getLast?, IsUhd r.name

/-- A negotiation that comes to a 4K resolution although the persisted one is none, so that
the override does not see it. -/
def UhdEscapes (presolution : Name) : Prop :=
  ¬ IsUhd presolution ∧ presolution ∉ names edid ∧
    (SecondaryUhd cfg edid platform presolution ∨
      BootUhd cfg edid platform defaultResn presolution)

end Limit

end IarmMgrs.DsMgr.FallBack
