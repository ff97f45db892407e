import IarmMgrs.DeviceUpdateMgr.Packages
import IarmMgrs.MfrMgr.SerializedData

/-! The description of an update package in `deviceUpdateMgrMain.cpp`: `getXMLTagText` searches
the text of the XML file, `getEventData` fills the announcement from it, and `processDeviceFile`
broadcasts what it gets from the XML files of an unpacked package. -/

namespace IarmMgrs.DeviceUpdateMgr.EventData

open Lib.CString Lib.Search
open Packages (npos dot)
open MfrMgr.Crypto (toInt toSize)

def versionLength : Nat := 32
def deviceNameLength : Nat := 64
def pathLength : Nat := 512

def startTag (tag : List UInt8) : List UInt8 := lit "<" ++ tag
def endTag (tag : List UInt8) : List UInt8 := lit "</" ++ tag

/-- The end position, stored in an `int`, less the start, as the `size_t` that `substr` takes. -/
def spanCount (xml tag : List UInt8) (idx : Nat) : Nat :=
  let idx2 := toInt ((find (endTag tag) xml).getD npos)
  toSize (idx2 - idx)

def getXMLTagText (xml tag : List UInt8) : Except OutOfRange (List UInt8) :=
  match find (startTag tag) xml with
  | none => .ok []
  | some idx =>
    -- past the tag and its two brackets
    let idx := idx + (tag.length + 2)
    substr xml idx (spanCount xml tag idx)

/-- `atoi` of the C library: a `long` that saturates, converted to `int`. -/
def atoi (s : List UInt8) : Int :=
  let s := s.dropWhile fun c => c = 32 ∨ 9 ≤ c ∧ c ≤ 13
  let (negative, digits) :=
    match s with
    | 45 :: cs => (true, cs)
    | 43 :: cs => (false, cs)
    | cs => (false, cs)
  let value := (digits.takeWhile fun c => 48 ≤ c ∧ c ≤ 57).foldl
    (fun (n : Nat) c => 10 * n + (c.toNat - 48)) 0
  if negative then Int.bmod (max (-2 ^ 63) (-value)) (2 ^ 32)
  else Int.bmod (min (2 ^ 63 - 1) value) (2 ^ 32)

structure Announce where
  deviceName : Buf UInt8 deviceNameLength
  deviceImageVersion : Buf UInt8 versionLength
  deviceImageType : Nat
  deviceImageFilePath : Buf UInt8 pathLength
  forceUpdate : Bool
  deriving DecidableEq

/-- A file, whether it can be opened, and whether `tellg`, `new` and `read` succeed on it. -/
structure File where
  bytes : List UInt8
  opens : Bool
  tells : Bool
  allocates : Bool
  reads : Bool

def File.length (f : File) : Int := toInt (if f.tells then f.bytes.length else npos)

def File.text (f : File) : List UInt8 := cstr 0 (f.bytes.take f.length.toNat)

def maxLength : Nat := 10 * 1024 * 1024

def File.contents (f : File) : Option (List UInt8) :=
  if !f.opens then none
  else if f.length ≤ 0 ∨ maxLength < f.length then none
  else if !f.allocates || !f.reads then none
  else some f.text

def softwareVersion : List UInt8 := lit "image:softwareVersion"
def imageType : List UInt8 := lit "image:type"
def productName : List UInt8 := lit "image:productName"

/-- What `strcpy_s` leaves in an array when it refuses to copy. -/
structure Safec where
  refused : ∀ {n : Nat}, Buf UInt8 n → Buf UInt8 n

section Events

variable (safec : Safec) (forceUpdate : Bool)

def Safec.strcpyS {n : Nat} (dest : Buf UInt8 n) (src : List UInt8) : Buf UInt8 n :=
  (MfrMgr.SerializedData.strcpyS dest (cstr 0 src)).getD (safec.refused dest)

/-- The part of `getEventData` behind the reading of the file. -/
def describe (fileContents : List UInt8) (myData : Announce) :
    Except OutOfRange (Bool × Announce) :=
  (getXMLTagText fileContents softwareVersion).bind fun text =>
    if text = [] then .ok (false, myData)
    else
      let myData := { myData with
        deviceImageVersion := safec.strcpyS myData.deviceImageVersion text }
      (getXMLTagText fileContents imageType).bind fun text =>
        let myData := { myData with deviceImageType := ((atoi text) % 2 ^ 32).toNat }
        (getXMLTagText fileContents productName).map fun text =>
          (true, { myData with
            deviceName := safec.strcpyS myData.deviceName text
            forceUpdate := forceUpdate })

def getEventData (f : File) (myData : Announce) : Except OutOfRange (Bool × Announce) :=
  match f.contents with
  | none => .ok (false, myData)
  | some fileContents => describe safec forceUpdate fileContents myData

/-- What becomes of a package: the exit codes of `mkdir` and `tar`, the names `getdir` lists in
the folder and their files, and what the stack holds for `myData` at each of them. -/
structure Unpacked where
  mkdir : Bool
  tar : Bool
  files : List (List UInt8)
  file : List UInt8 → File
  stack : List UInt8 → Announce

variable (package : Unpacked) (filePath : List UInt8)

def isXml (filename : List UInt8) : Bool :=
  match rfind dot filename npos with
  | none => false
  | some idx => filename.drop (idx + 1) = lit "xml"

def Unpacked.myData (filename : List UInt8) : Announce :=
  { package.stack filename with
    deviceImageFilePath :=
      (Buf.zeroed 0 pathLength).write ((cstr 0 filePath).take (pathLength - 1)) }

def announceFiles : List (List UInt8) → List Announce × Bool
  | [] => ([], false)
  | filename :: files =>
    if isXml filename then
      match getEventData safec forceUpdate (package.file filename)
          (package.myData filePath filename) with
      | .error _ => ([], true)
      | .ok (false, _) => announceFiles files
      | .ok (true, myData) => ((announceFiles files).1.cons myData, (announceFiles files).2)
    else announceFiles files

def processDeviceFile : List Announce × Bool :=
  if !package.mkdir || !package.tar then ([], false)
  else announceFiles safec forceUpdate package filePath package.files

end Events

end IarmMgrs.DeviceUpdateMgr.EventData
