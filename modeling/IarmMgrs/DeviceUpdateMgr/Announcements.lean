import IarmMgrs.DeviceUpdateMgr.ConfigFile
import IarmMgrs.DeviceUpdateMgr.EventDataLaws
import IarmMgrs.DeviceUpdateMgr.PackagesLaws
import IarmMgrs.DeviceUpdateMgr.Run
import IarmMgrs.Lib.Output

namespace IarmMgrs.DeviceUpdateMgr.Announcements

open Lib Lib.CString Lib.Search Lib.Transition
open Config (Globals foldersToWatch)
open ConfigFile (FileSystem loadConfig)
open EventData
open JsonParser (Callback)
open Run (World Scan)

/-- The state of `deviceUpdateRun` after some of its rounds; without a list of folders it is not
called.  `none` is undefined behaviour. -/
def main (yajl : List UInt8 → List Callback) (safec : Safec) (fs : FileSystem)
    (worlds : List World) : Option Run.State :=
  let s := (loadConfig yajl fs .init).1
  match foldersToWatch s.configuration with
  | none => some .init
  | some folders => run (Run.round safec s.globals folders) .init worlds

section Purpose

def Versioned (f : File) : Prop :=
  f.contents.isSome = true ∧ ∃ version, Extracts f.text softwareVersion version ∧ version ≠ []

/-- What is announced of a package is what its description says, as far as it fits. -/
structure Announces (g : Globals) (path : List UInt8) (f : File) (data : Announce) : Prop where
  version : ∃ version, Extracts f.text softwareVersion version ∧ version ≠ [] ∧
    (version.length < versionLength → data.deviceImageVersion.str 0 = version)
  type : ∃ type, Extracts f.text imageType type ∧
    data.deviceImageType = ((atoi type) % 2 ^ 32).toNat
  name : ∃ name, Extracts f.text productName name ∧
    (name.length < deviceNameLength → data.deviceName.str 0 = name)
  path : data.deviceImageFilePath.str 0 = (cstr 0 path).take (pathLength - 1)
  forceUpdate : data.forceUpdate = g.forceUpdate

variable (g : Globals) (w : World)

def watched (folders : List (List UInt8)) : List (List UInt8) :=
  if g.oneAnnouncePerRun then folders[w.today.mday % folders.length]?.toList else folders

def packages (folder : List UInt8) : List (List UInt8) :=
  let updatePath := g.serverUpdatePath ++ folder
  if 0 < updatePath.length ∧ w.folderExists updatePath = true then
    (((w.listing updatePath).getD []).filter (·.Taken)).map
      fun e => updatePath ++ lit "/" ++ e.filename
  else []

def descriptions (path : List UInt8) : List (List UInt8 × File) :=
  let package := w.unpacked path
  if package.mkdir && package.tar then
    (package.files.filter isXml).map fun name => (path, package.file name)
  else []

def described (folders : List (List UInt8)) : List (List UInt8 × File) :=
  (watched g w folders).flatMap fun folder => (packages g w folder).flatMap (descriptions w)

/-- Of the descriptions in a list, those with a version are announced, until one breaks off where an
element is looked for. -/
abbrev Announced : List (List UInt8 × File) → List Announce × Bool → Prop :=
  Output.Emits (fun p => Versioned p.2) (fun p => p.2.BreaksOff) fun p => Announces g p.1 p.2

end Purpose

end IarmMgrs.DeviceUpdateMgr.Announcements
