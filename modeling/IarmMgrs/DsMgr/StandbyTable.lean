import IarmMgrs.DsMgr.AvPorts
import IarmMgrs.Lib.Slots
import IarmMgrs.Lib.Transition

namespace IarmMgrs.DsMgr.AvPorts

open Lib Lib.CString

variable (dev : Devices)

/-- The result of the call, and what it writes to `param->isEnabled` and `param->result`. -/
def getStandbyVideoState (param : Option StandbyVideoStateParam) (s : State) :
    IarmResult × Option Int × Option Int :=
  match param with
  | none => (.invalidParam, none, none)
  | some param =>
    if !param.port.contains 0 then (.invalidParam, none, none)
    else
      match dev.videoOutputPort (cstr 0 param.port) with
      | none => (.success, none, some (-1))
      | some _ =>
        (.success,
          some (if getVideoPortStandbySetting dev s.table (cstr 0 param.port) then 1 else 0),
          some 0)

structure PortArray where
  chars : Name
  size : chars.length = dev.maxNameLength
  terminated : chars.contains 0 = true
  nonempty : cstr 0 chars ≠ []

variable {dev}

def PortArray.name (port : PortArray dev) : Name := cstr 0 port.chars

def PortArray.Same (port : PortArray dev) (name : Name) : Prop :=
  strncasecmpEq port.name name dev.maxNameLength = true

instance PortArray.Same.decidable (port : PortArray dev) (name : Name) :
    Decidable (port.Same name) :=
  inferInstanceAs (Decidable (_ = _))

structure SetCall (dev : Devices) where
  port : PortArray dev
  isEnabled : Int
  portThrows : Bool

def SetCall.param (c : SetCall dev) : StandbyVideoStateParam := ⟨c.port.chars, c.isEnabled⟩

structure SetRecord where
  name : Name
  isEnabled : Int
  result : Option Int
  deriving DecidableEq

section Calls

variable (dev)

def setCall (s : State) (c : SetCall dev) : Option State :=
  some (setStandbyVideoState dev c.portThrows (some c.param) s).1

def noteCall (s : State) (c : SetCall dev) (calls : List SetRecord) : List SetRecord :=
  ⟨c.port.name, c.isEnabled,
    (setStandbyVideoState dev c.portThrows (some c.param) s).2.2⟩ :: calls

def Reads (s : State) (port : PortArray dev) (value : Int) : Prop :=
  ∀ isEnabled, getStandbyVideoState dev (some ⟨port.chars, isEnabled⟩) s =
    (.success, some value, some 0)

/-- What a port known to the library reads: 0 if no call was made for it, and the setting of
the last call for it if that reported 0. -/
def Remembers (o : State × List SetRecord) : Prop :=
  ∀ port : PortArray dev, dev.videoOutputPort port.name ≠ none →
    match o.2.find? fun r => port.Same r.name with
    | none => Reads dev o.1 port 0
    | some r => r.result = some 0 → Reads dev o.1 port (if r.isEnabled ≠ 0 then 1 else 0)

def HasRoom (table : List StandbyVideoState) (port : PortArray dev) : Prop :=
  ∃ e ∈ table, port.Same e.port ∨ e.port = []

instance HasRoom.decidable (table : List StandbyVideoState) (port : PortArray dev) :
    Decidable (HasRoom dev table port) :=
  inferInstanceAs (Decidable (∃ e ∈ table, _))

/-- The port is known, and does not throw when it has to be switched. -/
def Accepts (s : State) (c : SetCall dev) : Prop :=
  dev.videoOutputPort c.port.name ≠ none ∧ ¬ (isStandby s.curState = true ∧ c.portThrows = true)

def Storable (s : State) (c : SetCall dev) : Prop :=
  Accepts dev s c → c.isEnabled ≠ 0 → HasRoom dev s.table c.port

/-- Storing the setting writes nothing: its entry has it already, or the table is full. -/
def Redundant (table : List StandbyVideoState) (param : StandbyVideoStateParam) : Prop :=
  match table.find? fun e => strncasecmpEq param.port e.port dev.maxNameLength with
  | some e => e.isEnabled = decide (param.isEnabled ≠ 0)
  | none => ∀ e ∈ table, e.port ≠ []

structure Devices.Lookup (dev : Devices) : Prop where
  listed : ∀ name port, dev.videoOutputPort name = some port → port ∈ dev.videoPorts
  named : ∀ name port, dev.videoOutputPort name = some port → dev.videoName port = name

end Calls

end IarmMgrs.DsMgr.AvPorts
