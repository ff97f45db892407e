import IarmMgrs.Bus
import IarmMgrs.Lib.Transition
import IarmMgrs.MfrMgr.Flash

/-! `MFRLib_Start` and `MFRLib_Stop` of `mfr/mfrMgr.c`, with what they leave of the process on
the bus.  Each call is one step. -/

namespace IarmMgrs.MfrMgr.LifeCycle

open Bus
open Flash (MfrError)

/-- What `MFRLib_Start` registers once it is connected: the calls by their names, and the
event of the write callback. -/
inductive Registration
  | getSerializedData | setSerializedData | deletePDRI | scrubAllBanks | writeImage
  | setBootLoaderPattern | mirrorImage | setBlSplashScreen | clearBlSplashScreen
  | wifiEraseAllData | wifiCredentials | validateImage | event | getSecureTime | setSecureTime
  | setFsrFlag | getFsrFlag | getTemperature | setTemperatureThresholds
  | getTemperatureThresholds | searchCPUClockSpeeds | setCPUClockSpeed | getCPUClockSpeed
  | setConfigData | getConfigData
  deriving DecidableEq

/-- `ENABLE_MFR_WIFI` and `MFR_TEMP_CLOCK_READ`. -/
structure Build where
  enableMfrWifi : Bool
  mfrTempClockRead : Bool

def registrations (build : Build) : List Registration :=
  let always : List Registration :=
    [.getSerializedData, .setSerializedData, .deletePDRI, .scrubAllBanks, .writeImage,
      .setBootLoaderPattern, .mirrorImage, .setBlSplashScreen, .clearBlSplashScreen]
  let wifi : List Registration := [.wifiEraseAllData, .wifiCredentials]
  let secure : List Registration :=
    [.validateImage, .event, .getSecureTime, .setSecureTime, .setFsrFlag, .getFsrFlag]
  let temperature : List Registration :=
    [.getTemperature, .setTemperatureThresholds, .getTemperatureThresholds,
      .searchCPUClockSpeeds, .setCPUClockSpeed, .getCPUClockSpeed]
  let config : List Registration := [.setConfigData, .getConfigData]
  always ++ (if build.enableMfrWifi then wifi else []) ++ secure ++
    (if build.mfrTempClockRead then temperature else []) ++ config

/-- Where the process stands on the bus, and whether it has ever disconnected without being
connected or terminated without being initialised. -/
structure BusState where
  inited : Bool
  connected : Bool
  badDisconnect : Bool
  badTerm : Bool
  deriving DecidableEq

structure State where
  isConnected : Bool
  bus : BusState
  deriving DecidableEq

def State.init : State := ⟨false, ⟨false, false, false, false⟩⟩

section Calls

variable (r : IarmResult) (b : BusState)

def iarmBusInit : BusState := { b with inited := b.inited || r = .success }

def iarmBusConnect : BusState := { b with connected := b.connected || r = .success }

def iarmBusDisconnect : BusState :=
  { b with
    connected := b.connected && r ≠ .success
    badDisconnect := b.badDisconnect || !b.connected }

def iarmBusTerm : BusState :=
  { b with inited := b.inited && r ≠ .success, badTerm := b.badTerm || !b.inited }

end Calls

structure Answers where
  mfrInit : MfrError
  init : IarmResult
  connect : IarmResult
  register : Registration → IarmResult
  disconnect : IarmResult
  term : IarmResult

/-- The body of `do .. while (0)`. -/
def startBody (build : Build) (a : Answers) (s : State) : State × IarmResult :=
  if a.mfrInit ≠ .none then (s, .invalidState)
  else
    let s := { s with bus := iarmBusInit a.init s.bus }
    if a.init ≠ .success then (s, a.init)
    else
      let s := { s with bus := iarmBusConnect a.connect s.bus }
      if a.connect ≠ .success then (s, a.connect)
      else ({ s with isConnected := true }, attempt a.register (registrations build))

def cleanup (a : Answers) (s : State) : State :=
  let s := if s.isConnected then { s with bus := iarmBusDisconnect a.disconnect s.bus } else s
  { s with bus := iarmBusTerm a.term s.bus }

def start (build : Build) (a : Answers) (s : State) : State × IarmResult :=
  let (s, err) := startBody build a s
  if err ≠ .success then (cleanup a s, err) else (s, err)

def stop (disconnect term : IarmResult) (s : State) : State × IarmResult :=
  if s.isConnected then
    let s := { s with bus := iarmBusDisconnect disconnect s.bus }
    if disconnect ≠ .success then (s, disconnect)
    else
      let s := { s with bus := iarmBusTerm term s.bus }
      if term ≠ .success then (s, term) else (s, .success)
  else (s, .success)

inductive Input
  | start (a : Answers)
  | stop (disconnect term : IarmResult)

def step (build : Build) (s : State) : Input → Option State
  | .start a => some (start build a s).1
  | .stop disconnect term => some (stop disconnect term s).1

structure InStep (s : State) : Prop where
  flag : s.isConnected = true ↔ s.bus.connected = true
  disconnect : s.bus.badDisconnect = false
  term : s.bus.badTerm = false

def Answers.EndsBeforeInit (a : Answers) : Prop := a.mfrInit ≠ .none ∨ a.init ≠ .success

def Answers.Connects (a : Answers) : Prop :=
  a.mfrInit = .none ∧ a.init = .success ∧ a.connect = .success

def Answers.Fails (build : Build) (a : Answers) : Prop :=
  ¬ (a.Connects ∧ ∀ r ∈ registrations build, a.register r = .success)

instance (a : Answers) : Decidable a.EndsBeforeInit := inferInstanceAs (Decidable (_ ∨ _))
instance (a : Answers) : Decidable a.Connects := inferInstanceAs (Decidable (_ ∧ _))
instance (build : Build) (a : Answers) : Decidable (a.Fails build) :=
  inferInstanceAs (Decidable (¬ (_ ∧ _)))

/-- No disconnect succeeds, and no start ends before it has initialised a bus that was not
initialised already. -/
def Harmless (build : Build) (s : State) : Input → Prop
  | .start a => a.Fails build →
      (s.bus.connected = true ∨ a.Connects → a.disconnect ≠ .success) ∧
        (a.EndsBeforeInit → s.bus.inited = true)
  | .stop disconnect _ => s.bus.connected = true → disconnect ≠ .success

instance (build : Build) (s : State) : ∀ input, Decidable (Harmless build s input)
  | .start _ => inferInstanceAs (Decidable (_ → _ ∧ _))
  | .stop _ _ => inferInstanceAs (Decidable (_ → _))

end IarmMgrs.MfrMgr.LifeCycle
