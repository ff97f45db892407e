import IarmMgrs.Lib.CString
import IarmMgrs.Lib.Lines
import IarmMgrs.Lib.Search

/-! `rdkProfile.c`: the profile of the device, which its properties file names.  The file is the
list of its bytes. -/

namespace IarmMgrs.Utils.RdkProfile

open Lib Lib.CString Lib.Lines

inductive Profile
  | invalid
  | stb
  | tv
  deriving DecidableEq

def rdkProfileName : List UInt8 := lit "RDK_PROFILE"

def profileStrTv : List UInt8 := lit "TV"

def profileStrStb : List UInt8 := lit "STB"

def newline : UInt8 := 10

def equals : UInt8 := 61

def lineSize : Nat := 256

/-- The bytes read, which a terminator follows in the buffer, and the rest of the file; `none` is
the null pointer at the end of the file. -/
def fgets (size : Nat) (file : List UInt8) : Option (List UInt8 × List UInt8) :=
  if file = [] then none else some (readLine newline (size - 1) file)

def strncmpEq (s t : List UInt8) (n : Nat) : Bool := (cstr 0 s).take n = (cstr 0 t).take n

/-- What is in the buffer when the loop breaks, the string `rdkProfile` points to, and the file
from there on. -/
structure Found where
  line : List UInt8
  rdkProfile : List UInt8
  rest : List UInt8
  deriving DecidableEq

theorem fgets_rest_lt {file line rest : List UInt8} (h : fgets lineSize file = some (line, rest)) :
    rest.length < file.length := by
  unfold fgets at h
  split at h
  · cases h
  · next hne =>
    have hrest := readLine_rest_lt newline (by decide : 0 < lineSize - 1) hne
    rwa [Option.some.inj h] at hrest

def searchLine (file : List UInt8) : Option Found :=
  match _h : fgets lineSize file with
  | none => none
  | some (line, rest) =>
    let lineLen := (cstr 0 line).length
    if lineLen ≥ lineSize - 1 then searchLine rest
    else
      match Search.find rdkProfileName (cstr 0 line) with
      | some k => some ⟨line, (cstr 0 line).drop k, rest⟩
      | none => searchLine rest
termination_by file.length
decreasing_by all_goals exact fgets_rest_lt _h

def profileAt (rdkProfile : List UInt8) : Profile :=
  let rdkProfileLen := rdkProfileName.length
  let remainingLen := rdkProfile.length
  if remainingLen ≤ rdkProfileLen + 1 then .invalid
  else
    let rdkProfile := rdkProfile.drop rdkProfileLen
    if rdkProfile.head? ≠ some equals then .invalid
    else
      let rdkProfile := rdkProfile.drop 1
      if strncmpEq rdkProfile profileStrTv profileStrTv.length then .tv
      else if strncmpEq rdkProfile profileStrStb profileStrStb.length then .stb
      else .invalid

/-- The file is `none` if it cannot be opened. -/
def searchRdkProfile (file : Option (List UInt8)) : Profile :=
  match file with
  | none => .invalid
  | some file =>
    match searchLine file with
    | none => .invalid
    | some found => profileAt found.rdkProfile

section Purpose

/-- The line fits the buffer with its newline, and has the name in it. -/
def Takes (line : List UInt8) : Prop := line.length ≤ lineSize - 1 ∧ rdkProfileName <:+: line

instance (line : List UInt8) : Decidable (Takes line) := inferInstanceAs (Decidable (_ ∧ _))

def lineOf (file : List UInt8) : Option (List UInt8 × List UInt8) :=
  first (Takes ·) (lines newline file)

def profileOf (line : List UInt8) : Profile :=
  match Search.find rdkProfileName line with
  | none => .invalid
  | some k =>
    if rdkProfileName ++ equals :: profileStrTv <+: line.drop k then .tv
    else if rdkProfileName ++ equals :: profileStrStb <+: line.drop k then .stb
    else .invalid

def reference (file : List UInt8) : Profile :=
  match lineOf file with
  | none => .invalid
  | some (line, _) => profileOf line

/-- The line is the one to take, not a part of another line and not one behind it, and so is the
profile. -/
structure Agrees (file : List UInt8) : Prop where
  line : (searchLine file).map (fun found => (found.line, found.rest)) = lineOf file
  profile : searchRdkProfile (some file) = reference file

end Purpose

section Condition

def Hit (piece : List UInt8) : Prop :=
  (cstr 0 piece).length < lineSize - 1 ∧ rdkProfileName <:+: cstr 0 piece

instance (piece : List UInt8) : Decidable (Hit piece) := inferInstanceAs (Decidable (_ ∧ _))

/-- The line does not fit the buffer, and one of the pieces in which it is read is shorter than
the buffer up to its first terminator, with the name in it. -/
def IsMisread (line : List UInt8) : Prop := Misread (lineSize - 1) (Hit ·) line

instance (line : List UInt8) : Decidable (IsMisread line) :=
  inferInstanceAs (Decidable (Misread _ _ _))

/-- The line is to be taken, but fills the buffer, or has a terminator in front of the name. -/
def IsMissed (line : List UInt8) : Prop := Takes line ∧ ¬ Hit line

instance (line : List UInt8) : Decidable (IsMissed line) := inferInstanceAs (Decidable (_ ∧ _))

end Condition

end IarmMgrs.Utils.RdkProfile
