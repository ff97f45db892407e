import IarmMgrs.DeviceUpdateMgr.EventData
import IarmMgrs.DeviceUpdateMgr.JsonParser
import IarmMgrs.Lib.CInt

namespace IarmMgrs.DeviceUpdateMgr.Config

open Lib Lib.CString Lib.CInt
open JsonParser (VarVal Parser)
open EventData (atoi)

structure Globals where
  serverUpdatePath : List UInt8
  tempFilePath : List UInt8
  forceUpdate : Bool
  interactiveDownload : Bool
  interactiveLoad : Bool
  loadDelayType : Int
  loadTimeAfterInactive : Int
  timeToLoad : Int
  backgroundDownload : Bool
  loadImageImmediately : Bool
  loadBeforeHour : Int
  requestedPercentIncrement : Int
  recheckForUpdatesMin : Int
  delayTillAnnounceTimeMin : Int
  oneAnnouncePerRun : Bool
  deriving DecidableEq

def Globals.default : Globals where
  serverUpdatePath := lit "/srv/device_update/"
  tempFilePath := lit "/tmp/devUpdate/"
  forceUpdate := false
  interactiveDownload := false
  interactiveLoad := false
  loadDelayType := 0
  loadTimeAfterInactive := 0
  timeToLoad := 0
  backgroundDownload := true
  loadImageImmediately := false
  loadBeforeHour := 4
  requestedPercentIncrement := 10
  recheckForUpdatesMin := 0
  delayTillAnnounceTimeMin := 10
  oneAnnouncePerRun := false

section Load

variable (configuration : List UInt8 → Option VarVal)

def stringOf (key : String) (old : List UInt8) : List UInt8 :=
  ((configuration (lit key)).map VarVal.str).getD old

def booleanOf (key : String) (old : Bool) : Bool :=
  ((configuration (lit key)).map VarVal.boolean).getD old

def intOf (key : String) (old : Int) : Int :=
  ((configuration (lit key)).map fun vv => atoi (cstr 0 vv.str)).getD old

def loadConfig (g : Globals) : Globals where
  serverUpdatePath := stringOf configuration "serverUpdatePath" g.serverUpdatePath
  tempFilePath := stringOf configuration "tempFilePath" g.tempFilePath
  forceUpdate := booleanOf configuration "forceUpdate" g.forceUpdate
  interactiveDownload := booleanOf configuration "interactiveDownload" g.interactiveDownload
  interactiveLoad := booleanOf configuration "interactiveLoad" g.interactiveLoad
  loadDelayType := intOf configuration "loadDelayType" g.loadDelayType
  loadTimeAfterInactive := intOf configuration "loadTimeAfterInactive" g.loadTimeAfterInactive
  timeToLoad := intOf configuration "timeToLoad" g.timeToLoad
  backgroundDownload := booleanOf configuration "backgroundDownload" g.backgroundDownload
  loadImageImmediately := booleanOf configuration "loadImageImmediately" g.loadImageImmediately
  loadBeforeHour := intOf configuration "loadBeforeHour" g.loadBeforeHour
  requestedPercentIncrement :=
    intOf configuration "requestedPercentIncrement" g.requestedPercentIncrement
  recheckForUpdatesMin := intOf configuration "recheckForUpdatesMin" g.recheckForUpdatesMin
  delayTillAnnounceTimeMin :=
    intOf configuration "delayTillAnnounceTimeMin" g.delayTillAnnounceTimeMin
  oneAnnouncePerRun := booleanOf configuration "oneAnnouncePerRun" g.oneAnnouncePerRun

end Load

/-- `folderRef->array`, which `main` passes on; without a `folderRef` there is no run. -/
def foldersToWatch (s : Parser) : Option (Option (List VarVal)) :=
  (s.dict (lit "deviceFoldersToWatch")).map fun folderRef => folderRef.array.bind s.lists

end IarmMgrs.DeviceUpdateMgr.Config
