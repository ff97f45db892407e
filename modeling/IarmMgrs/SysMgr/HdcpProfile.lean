import IarmMgrs.Bus
import IarmMgrs.Lib.Transition

namespace IarmMgrs.SysMgr.HdcpProfile

open Lib.Transition Bus

/-- Whether the file is there; `broadcasts` is history, each with the profile in force when it
was sent. -/
structure State where
  present : Bool
  broadcasts : List (Int × Int)
  deriving DecidableEq

/-- Whether `lstat` succeeds on a file that is there, and whether `unlink` or `open` does. -/
structure FileOutcome where
  lstat : Bool
  update : Bool
  deriving DecidableEq

def State.profile (s : State) : Int := if s.present then 1 else 0

def checkHdcpProfile (lstat : Bool) (s : State) : Int := if s.present && lstat then 1 else 0

def unlink (ok : Bool) (s : State) : State := if ok then { s with present := false } else s

def openCreate (ok : Bool) (s : State) : State := if ok then { s with present := true } else s

def broadcast (hdcpProfile : Int) (s : State) : State :=
  { s with broadcasts := (hdcpProfile, s.profile) :: s.broadcasts }

/-- The new profile is one of the two, and not the one that `lstat` shows. -/
def Changes (newProfile : Int) (lstat : Bool) (s : State) : Prop :=
  checkHdcpProfile lstat s ≠ newProfile ∧ (newProfile = 0 ∨ newProfile = 1)

instance (newProfile : Int) (lstat : Bool) (s : State) : Decidable (Changes newProfile lstat s) :=
  inferInstanceAs (Decidable (_ ∧ _))

/-- What becomes of the file is not looked at, nor is the result of the broadcast. -/
def setHDCPProfile (newProfile : Int) (file : FileOutcome) (s : State) : State × IarmResult :=
  if Changes newProfile file.lstat s then
    let s := if newProfile = 0 then unlink file.update s else openCreate file.update s
    (broadcast newProfile s, .success)
  else (s, .invalidState)

def getHDCPProfile (lstat : Bool) (s : State) : Int × IarmResult :=
  (checkHdcpProfile lstat s, .success)

inductive Call
  | setHDCPProfile (newProfile : Int) (file : FileOutcome)
  | getHDCPProfile (lstat : Bool)
  deriving DecidableEq

def step (s : State) : Call → Option State
  | .setHDCPProfile newProfile file => some (setHDCPProfile newProfile file s).1
  | .getHDCPProfile _ => some s

/-- `set` is the profile of the last call if that was `_SetHDCPProfile` with success, and
`reported` has what each `_GetHDCPProfile` right behind such a call reported, with that
profile. -/
structure History where
  set : Option Int
  reported : List (Int × Int)
  deriving DecidableEq

def History.note (s : State) (call : Call) (h : History) : History :=
  match call with
  | .setHDCPProfile newProfile file =>
    { h with
      set := if (setHDCPProfile newProfile file s).2 = .success then some newProfile else none }
  | .getHDCPProfile lstat =>
    { set := none
      reported := (h.set.map fun profile => ((getHDCPProfile lstat s).1, profile)).toList ++
        h.reported }

def observe : State × History → Call → Option (State × History) := observed step History.note

def observeInit (present : Bool) : State × History := (⟨present, []⟩, ⟨none, []⟩)

structure Persistent (p : State × History) : Prop where
  announced : ∀ b ∈ p.1.broadcasts, b.1 = b.2
  reported : ∀ r ∈ p.2.reported, r.1 = r.2

/-- The file is created or removed whenever the profile changes, unless it is there already,
and `lstat` finds it when a profile 1 that has just been set is read. -/
def Reliable (p : State × History) : Call → Prop
  | .setHDCPProfile newProfile file => Changes newProfile file.lstat p.1 →
      file.update = true ∨ newProfile = 1 ∧ p.1.present = true
  | .getHDCPProfile lstat => p.2.set = some 1 → lstat = true

instance (p : State × History) : ∀ call, Decidable (Reliable p call)
  | .setHDCPProfile _ _ => inferInstanceAs (Decidable (_ → _))
  | .getHDCPProfile _ => inferInstanceAs (Decidable (_ → _))

end IarmMgrs.SysMgr.HdcpProfile
