import IarmMgrs.DeviceUpdateMgr.Config
import IarmMgrs.Lib.Decimal

/-! The configuration file of `deviceUpdateMgrMain.cpp`: where `loadConfig` looks for it, what its
loop reads of it, and what becomes of it in the globals and in the folders that `main` watches.
The callbacks that yajl makes for a text are a parameter. -/

namespace IarmMgrs.DeviceUpdateMgr.ConfigFile

open Lib Lib.CString Lib.CInt Lib.Decimal
open Config (Globals foldersToWatch)
open JsonParser (VarVal Parser Callback Json Object lastValue parse)

abbrev Path := List UInt8

/-- Whether `stat` succeeds, and what can be read of a file before its end or an error, if it can
be opened. -/
structure FileSystem where
  fileExists : Path → Bool
  contents : Path → Option (List UInt8)

def confName : Path := lit "deviceUpdateConfig.json"

def candidates : List Path :=
  [lit "/opt/" ++ confName, lit "/mnt/nfs/env/" ++ confName, lit "/etc/" ++ confName, confName]

def chunkSize : Nat := 2047

/-- The loop is left once the text has this length. -/
def enough : Nat := 65535

def readConfData (confData rest : List UInt8) : List UInt8 :=
  if confData.length < enough ∧ rest ≠ [] then
    readConfData (confData ++ rest.take chunkSize) (rest.drop chunkSize)
  else confData
termination_by rest.length
decreasing_by
  next h =>
    have hpos : 0 < rest.length := List.length_pos_of_ne_nil h.2
    rw [List.length_drop, chunkSize]
    omega

structure State where
  configuration : Parser
  globals : Globals

def State.init : State := ⟨.init, .default⟩

section Load

variable (yajl : List UInt8 → List Callback)

/-- `JSONParser::parse`, which takes the text up to its first terminator. -/
def parseText (text : List UInt8) : Parser := (yajl (cstr 0 text)).foldl JsonParser.handle .init

def loadConfig (fs : FileSystem) (s : State) : State × Bool :=
  match candidates.find? fs.fileExists with
  | none => (s, false)
  | some filePath =>
    let configuration := match fs.contents filePath with
      | none => s.configuration
      | some bytes => parseText yajl (readConfData [] bytes)
    (⟨configuration, Config.loadConfig configuration.dict s.globals⟩, true)

end Load

section Purpose

/-- The part of a file that is read: whole chunks, up to the one that makes it enough. -/
def readable : Nat := 33 * chunkSize

/-- The text that a value sets: none unless it is a number or a string, and none for two strings
that are taken for booleans. -/
def textOf : Json → List UInt8
  | .number text => text
  | .string text => if text = lit "true" ∨ text = lit "false" then [] else text
  | _ => []

def flagOf : Json → Bool
  | .boolean value => value
  | .string text => text = lit "true"
  | _ => false

/-- What a document sets: its last value for a key, and nothing without one. -/
def settings (o : Object) (g : Globals) : Globals :=
  let text (key : String) (old : List UInt8) := ((lastValue o (lit key)).map textOf).getD old
  let flag (key : String) (old : Bool) := ((lastValue o (lit key)).map flagOf).getD old
  let int (key : String) (old : Int) :=
    ((lastValue o (lit key)).map fun j => EventData.atoi (cstr 0 (textOf j))).getD old
  { serverUpdatePath := text "serverUpdatePath" g.serverUpdatePath
    tempFilePath := text "tempFilePath" g.tempFilePath
    forceUpdate := flag "forceUpdate" g.forceUpdate
    interactiveDownload := flag "interactiveDownload" g.interactiveDownload
    interactiveLoad := flag "interactiveLoad" g.interactiveLoad
    loadDelayType := int "loadDelayType" g.loadDelayType
    loadTimeAfterInactive := int "loadTimeAfterInactive" g.loadTimeAfterInactive
    timeToLoad := int "timeToLoad" g.timeToLoad
    backgroundDownload := flag "backgroundDownload" g.backgroundDownload
    loadImageImmediately := flag "loadImageImmediately" g.loadImageImmediately
    loadBeforeHour := int "loadBeforeHour" g.loadBeforeHour
    requestedPercentIncrement := int "requestedPercentIncrement" g.requestedPercentIncrement
    recheckForUpdatesMin := int "recheckForUpdatesMin" g.recheckForUpdatesMin
    delayTillAnnounceTimeMin := int "delayTillAnnounceTimeMin" g.delayTillAnnounceTimeMin
    oneAnnouncePerRun := flag "oneAnnouncePerRun" g.oneAnnouncePerRun }

def IsText (text : List UInt8) : Prop := text ≠ lit "true" ∧ text ≠ lit "false"

instance (text : List UInt8) : Decidable (IsText text) := inferInstanceAs (Decidable (_ ∧ _))

def SpellsText (text : List UInt8) (j : Json) : Prop := j = .string text ∧ IsText text

def SpellsFlag (value : Bool) (j : Json) : Prop :=
  j = .boolean value ∨ j = .string (if value then lit "true" else lit "false")

def SpellsInt (n : Int) (j : Json) : Prop :=
  InRange n ∧ (j = .number (intText n) ∨ j = .string (intText n))

def Has (o : Object) (key : String) (P : Json → Prop) : Prop :=
  ∃ j, lastValue o (lit key) = some j ∧ P j

/-- The document writes a configuration down, among other things and in any order. -/
structure Writes (g : Globals) (folders : List (List UInt8)) (o : Object) : Prop where
  serverUpdatePath : Has o "serverUpdatePath" (SpellsText g.serverUpdatePath)
  tempFilePath : Has o "tempFilePath" (SpellsText g.tempFilePath)
  forceUpdate : Has o "forceUpdate" (SpellsFlag g.forceUpdate)
  interactiveDownload : Has o "interactiveDownload" (SpellsFlag g.interactiveDownload)
  interactiveLoad : Has o "interactiveLoad" (SpellsFlag g.interactiveLoad)
  loadDelayType : Has o "loadDelayType" (SpellsInt g.loadDelayType)
  loadTimeAfterInactive : Has o "loadTimeAfterInactive" (SpellsInt g.loadTimeAfterInactive)
  timeToLoad : Has o "timeToLoad" (SpellsInt g.timeToLoad)
  backgroundDownload : Has o "backgroundDownload" (SpellsFlag g.backgroundDownload)
  loadImageImmediately : Has o "loadImageImmediately" (SpellsFlag g.loadImageImmediately)
  loadBeforeHour : Has o "loadBeforeHour" (SpellsInt g.loadBeforeHour)
  requestedPercentIncrement :
    Has o "requestedPercentIncrement" (SpellsInt g.requestedPercentIncrement)
  recheckForUpdatesMin : Has o "recheckForUpdatesMin" (SpellsInt g.recheckForUpdatesMin)
  delayTillAnnounceTimeMin :
    Has o "delayTillAnnounceTimeMin" (SpellsInt g.delayTillAnnounceTimeMin)
  oneAnnouncePerRun : Has o "oneAnnouncePerRun" (SpellsFlag g.oneAnnouncePerRun)
  deviceFoldersToWatch :
    lastValue o (lit "deviceFoldersToWatch") = some (.array (folders.map .string))
  areTexts : ∀ folder ∈ folders, IsText folder

end Purpose

end IarmMgrs.DeviceUpdateMgr.ConfigFile
