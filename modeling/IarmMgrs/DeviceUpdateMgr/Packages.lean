import IarmMgrs.Lib.CInt
import IarmMgrs.Lib.CString
import IarmMgrs.Lib.Search
import Mathlib.Algebra.Group.Nat.Defs

/-! `processDeviceFolder` of `deviceUpdateMgrMain.cpp`: the files of a folder it takes for update
packages.  A listing of the folder is what `readdir` gives, in its order. -/

namespace IarmMgrs.DeviceUpdateMgr.Packages

open Lib.CString Lib.Search

/-- `d_type`, of which only directories are told apart. -/
inductive DType | dir | other
  deriving DecidableEq

structure Dirent where
  dType : DType
  dName : Buf UInt8 256
  terminated : dName.Terminated 0

def Dirent.filename (e : Dirent) : List UInt8 := e.dName.str 0

def npos : Nat := 2 ^ Lib.CInt.sizeBits - 1

/-- A position as the `unsigned int` it is stored in. -/
def storedIdx (position : Option Nat) : Nat := position.getD npos % 2 ^ 32

def dot : UInt8 := 46

/-- `filename.substr(idx + 1)`; the sum is of unsigned numbers. -/
def extension (filename : List UInt8) (idx : Nat) : Except OutOfRange (List UInt8) :=
  substr filename ((idx + 1) % 2 ^ 32) npos

/-- The body of the loop: whether the file is handed to `processDeviceFile`. -/
def isPackage (filename : List UInt8) : Except OutOfRange Bool :=
  let idx := storedIdx (rfind dot filename npos)
  if idx = npos then .ok false
  else
    (extension filename idx).bind fun ext =>
      if ext = lit "gz" then
        let idx := storedIdx (rfind dot filename idx)
        if idx = npos then .ok false
        else
          (extension filename idx).bind fun ext' =>
            if ext' = lit "tar.gz" then .ok true else .ok (ext = lit "tgz")
      else .ok (ext = lit "tgz")

structure Call where
  filePath : List UInt8
  deviceName : List UInt8
  deriving DecidableEq

section Folder

variable (updatePath deviceName : List UInt8)

def Dirent.call (e : Dirent) : Call := ⟨updatePath ++ lit "/" ++ e.filename, deviceName⟩

def checkFiles : List Dirent → Except OutOfRange (List Call)
  | [] => .ok []
  | e :: es =>
    if e.dType ≠ .dir then
      (isPackage e.filename).bind fun package =>
        (checkFiles es).map fun calls =>
          if package then e.call updatePath deviceName :: calls else calls
    else checkFiles es

/-- `none` is a folder that `opendir` cannot open. -/
def processDeviceFolder : Option (List Dirent) → Except OutOfRange (List Call)
  | none => .ok []
  | some es => checkFiles updatePath deviceName es

end Folder

/-- What the source calls a tgz or a tar.gz file. -/
def PackageName (filename : List UInt8) : Prop :=
  lit ".tgz" <:+ filename ∨ lit ".tar.gz" <:+ filename

end IarmMgrs.DeviceUpdateMgr.Packages
