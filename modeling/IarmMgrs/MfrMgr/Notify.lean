import IarmMgrs.Lib.Pool
import IarmMgrs.MfrMgr.Flash

/-! The progress of an image write, from the HAL through `mfrSrv.c` and the bus to the
callback of a client of `mfrCli.c`.  The client may call `mfrWriteImage` from any number of
threads; the server writes one image at a time, under its lock, and the bus brings its
broadcasts to the client in order. -/

namespace IarmMgrs.MfrMgr.Notify

open Lib Lib.CString
open Flash (MfrUpgradeStatus Progress)

def iarmBusMfrlibName : List UInt8 := lit "MFRLib"

def eventStatusUpdate : Int := 0

/-- `mfrUpgradeStatusNotify_t`; a pointer is a number, and the null callback is `none`. -/
structure UpgradeStatusNotify where
  cbData : Nat
  cb : Option Nat
  interval : Int
  deriving DecidableEq

structure CbCall where
  cb : Nat
  status : MfrUpgradeStatus
  cbData : Nat

/-- A broadcast of `writeImageCb`, with the write it is for. -/
structure Broadcast where
  owner : List UInt8
  eventId : Int
  status : MfrUpgradeStatus
  write : UpgradeStatusNotify

structure Delivery where
  event : Broadcast
  calls : List CbCall

/-- `registered` counts the registrations of `_eventHandler`, and `cbNotify` is `cb_notify`;
`locked`, `current` and `lastStatus` are the server's, `current` being the write that the HAL
has accepted last.  `sent` and `delivered` are history. -/
structure Shared where
  inited : Bool
  registered : Nat
  cbNotify : UpgradeStatusNotify
  locked : Bool
  current : Option UpgradeStatusNotify
  lastStatus : Progress
  inFlight : List Broadcast
  sent : List Broadcast
  delivered : List Delivery

/-- Where a call of `mfrWriteImage` stands: before the HAL has accepted it, in one of the two
loops of `_mfrWriteImage`, or with the answer on its way back. -/
inductive Pc | calling | pollStart | pollEnd | answered (success : Bool)
  deriving DecidableEq

structure Write where
  notify : UpgradeStatusNotify
  pc : Pc
  deriving DecidableEq

abbrev State := Pool Shared Write

def State.init : State :=
  Pool.init ⟨false, 0, ⟨0, none, 0⟩, false, none, .notStarted, [], [], []⟩

def enterWrite (notify : UpgradeStatusNotify) (_ : Shared) : Write := ⟨notify, .calling⟩

/-- `accepted` says whether the call gets through to the HAL and the HAL takes it. -/
def moveWrite (w : Write) (accepted : Bool) (s : Shared) : Option (Shared × Option Write) :=
  match w.pc with
  | .calling =>
    if !accepted then some (s, none)
    else if s.locked then none
    else
      some ({ s with locked := true, current := some w.notify, lastStatus := .notStarted },
        some { w with pc := .pollStart })
  | .pollStart =>
    if s.lastStatus = .notStarted then some (s, some w)
    else some (s, some { w with pc := .pollEnd })
  | .pollEnd =>
    if s.lastStatus = .started then some (s, some w)
    else
      some ({ s with locked := false },
        some { w with pc := .answered (s.lastStatus = .completed) })
  | .answered success => some (if success then { s with cbNotify := w.notify } else s, none)

def mfrInit (success : Bool) (s : Shared) : Shared :=
  if success then { s with inited := true } else { s with registered := s.registered + 1 }

def writeImageCb (write : UpgradeStatusNotify) (status : MfrUpgradeStatus) (s : Shared) : Shared :=
  let event : Broadcast := ⟨iarmBusMfrlibName, eventStatusUpdate, status, write⟩
  { s with
    inFlight := s.inFlight ++ [event]
    sent := s.sent ++ [event]
    lastStatus := status.progress }

def eventHandler (cbNotify : UpgradeStatusNotify) (event : Broadcast) : List CbCall :=
  if event.owner = iarmBusMfrlibName ∧ event.eventId = eventStatusUpdate then
    match cbNotify.cb with
    | some cb => [⟨cb, event.status, cbNotify.cbData⟩]
    | none => []
  else []

inductive Action
  | mfrInit (success : Bool)
  | write (act : Pool.Action UpgradeStatusNotify Bool)
  | halReports (status : MfrUpgradeStatus)
  | dispatch

section Steps

variable (calls : Nat → Nat)

/-- `calls` tells how often the bus calls a handler that has been registered so often. -/
def dispatch (event : Broadcast) (rest : List Broadcast) (s : Shared) : Shared :=
  { s with
    inFlight := rest
    delivered := s.delivered ++
      [⟨event, (List.replicate (calls s.registered) (eventHandler s.cbNotify event)).flatten⟩] }

/-- A write starts only after `mfr_init` has returned success. -/
def mayStart (s : Shared) : Pool.Action UpgradeStatusNotify Bool → Bool
  | .start _ _ => s.inited
  | .advance _ _ => true

def step (p : State) : Action → Option State
  | .mfrInit success => some { p with shared := mfrInit success p.shared }
  | .write act => if mayStart p.shared act then Pool.step enterWrite moveWrite p act else none
  | .halReports status =>
    p.shared.current.map fun write => { p with shared := writeImageCb write status p.shared }
  | .dispatch =>
    match p.shared.inFlight with
    | [] => none
    | event :: rest => some { p with shared := dispatch calls event rest p.shared }

end Steps

def Delivery.Right (d : Delivery) : Prop :=
  ∀ cb, d.event.write.cb = some cb → d.calls = [⟨cb, d.event.status, d.event.write.cbData⟩]

structure Told (p : State) : Prop where
  all : p.shared.delivered.map Delivery.event ++ p.shared.inFlight = p.shared.sent
  right : ∀ d ∈ p.shared.delivered, d.Right

/-- The bus calls the handler once, and `cb_notify` is that of the write. -/
def Shared.Listens (calls : Nat → Nat) (s : Shared) (write : UpgradeStatusNotify) : Prop :=
  calls s.registered = 1 ∧ s.cbNotify.cb = write.cb ∧ s.cbNotify.cbData = write.cbData

instance (calls : Nat → Nat) (s : Shared) (write : UpgradeStatusNotify) :
    Decidable (s.Listens calls write) := inferInstanceAs (Decidable (_ ∧ _ ∧ _))

/-- The client listens for the write whenever a status of a write with a callback arrives. -/
def Heard (calls : Nat → Nat) (p : State) : Action → Prop
  | .dispatch => ∀ event ∈ p.shared.inFlight.head?,
      event.write.cb ≠ none → p.shared.Listens calls event.write
  | _ => True

instance (calls : Nat → Nat) (p : State) : ∀ act, Decidable (Heard calls p act)
  | .dispatch => inferInstanceAs (Decidable (∀ event ∈ p.shared.inFlight.head?, _ → _))
  | .mfrInit _ | .write _ | .halReports _ => isTrue trivial

end IarmMgrs.MfrMgr.Notify
