import IarmMgrs.DeviceUpdateMgr.Config
import IarmMgrs.Lib.Transition

namespace IarmMgrs.DeviceUpdateMgr.Run

open Lib Lib.CString Lib.CInt
open JsonParser (VarVal)
open Packages (Dirent Call processDeviceFolder)
open EventData (Safec Announce Unpacked processDeviceFile)
open MfrMgr.Crypto (toInt)
open Config (Globals)

structure Day where
  mday : Nat
  pos : 1 ≤ mday
  le : mday ≤ 31

structure World where
  today : Day
  folderExists : List UInt8 → Bool
  listing : List UInt8 → Option (List Dirent)
  unpacked : List UInt8 → Unpacked

/-- An iterator into the list of folders, as the elements from it on. -/
abbrev Iterator := List VarVal

structure Scan where
  considered : List Iterator
  announced : List Announce
  threw : Bool

section Scanning

variable (safec : Safec) (g : Globals) (w : World)

def processFiles : List Call → List Announce × Bool
  | [] => ([], false)
  | c :: cs =>
    let file := processDeviceFile safec g.forceUpdate (w.unpacked c.filePath) c.filePath
    if file.2 then file else (file.1 ++ (processFiles cs).1, (processFiles cs).2)

/-- The body of both loops over the folders. -/
def checkFolder (updateFolder : List UInt8) : List Announce × Bool :=
  let updatePath := g.serverUpdatePath ++ updateFolder
  if 0 < updatePath.length ∧ w.folderExists updatePath = true then
    match processDeviceFolder updatePath updateFolder (w.listing updatePath) with
    | .error _ => ([], true)
    | .ok calls => processFiles safec g w calls
  else ([], false)

/-- The loop that breaks at the folder which is selected. -/
def scanSelected : Int → Iterator → Scan
  | _, [] => ⟨[], [], false⟩
  | selectedUpdate, folder :: folders =>
    if selectedUpdate ≤ 0 then
      let r := checkFolder safec g w folder.str
      ⟨[folder :: folders], r.1, r.2⟩
    else scanSelected (selectedUpdate - 1) folders

def scanAll : Iterator → Scan
  | [] => ⟨[], [], false⟩
  | folder :: folders =>
    let r := checkFolder safec g w folder.str
    if r.2 then ⟨[folder :: folders], r.1, true⟩
    else
      let rest := scanAll folders
      ⟨(folder :: folders) :: rest.considered, r.1 ++ rest.announced, rest.threw⟩

/-- `none` is the division by zero. -/
def scan (folders : List VarVal) : Option Scan :=
  let numFolders := toInt folders.length
  if g.oneAnnouncePerRun then
    (CInt.rem w.today.mday numFolders).map fun selectedUpdate =>
      scanSelected safec g w selectedUpdate folders
  else some (scanAll safec g w folders)

end Scanning

/-- `ended` is an exception that nothing catches.  `scans` is history. -/
structure State where
  announceCounter : Int
  ended : Bool
  scans : List Scan

def State.init : State := ⟨10, false, []⟩

section Rounds

variable (safec : Safec) (g : Globals) (folders : Option (List VarVal))

def roundScan (s : State) (w : World) : Option (Option Scan) :=
  (CInt.mul g.delayTillAnnounceTimeMin 60).bind fun announceTime =>
    if s.announceCounter = announceTime then
      match folders with
      | some folders => (scan safec g w folders).map some
      | none => some none
    else some none

def round (s : State) (w : World) : Option State :=
  if s.ended then none
  else
    (roundScan safec g folders s w).bind fun scanned =>
      let s := { s with scans := s.scans ++ scanned.toList }
      if scanned.any Scan.threw then some { s with ended := true }
      else (CInt.add s.announceCounter 1).map fun announceCounter => { s with announceCounter }

end Rounds

end IarmMgrs.DeviceUpdateMgr.Run
