import IarmMgrs.DeviceUpdateMgr.Packages
import IarmMgrs.Lib.Shell

namespace IarmMgrs.DeviceUpdateMgr.Extraction

open Lib.CString Lib.Shell

def removeCommand (tempFilePath : List UInt8) : List UInt8 := lit "rm -rf " ++ tempFilePath

def createCommand (tempFilePath : List UInt8) : List UInt8 := lit "mkdir " ++ tempFilePath

def extractCommand (tempFilePath filePath : List UInt8) : List UInt8 :=
  lit "tar -xzpf " ++ filePath ++ lit " -C " ++ tempFilePath

/-- What `system` is given, in order, and answers with the result of the command. -/
def systemCalls (system : List UInt8 → Int) (tempFilePath filePath : List UInt8) :
    List (List UInt8) :=
  let rm := cstr 0 (removeCommand tempFilePath)
  let mkdir := cstr 0 (createCommand tempFilePath)
  if system mkdir ≠ 0 then [rm, mkdir]
  else [rm, mkdir, cstr 0 (extractCommand tempFilePath filePath)]

end IarmMgrs.DeviceUpdateMgr.Extraction
