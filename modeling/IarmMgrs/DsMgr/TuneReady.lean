import IarmMgrs.DsMgr.ProcessEvent

/-! What counts as tune-ready: SysMgr stores the state of a TUNEREADY event, `DSMgr_Start`
asks SysMgr for it, and `_ProcessEvent` acts on the event itself.  A broadcast reaches the
queue of either manager, and each works through its own; DSMgr starts at any point. -/

namespace IarmMgrs.DsMgr.TuneReady

open Lib.Transition
open ProcessEvent (EventLayout decode sysStateTuneReady)
open SysMgr.States (SystemStates SystemStateData sysEventHandler getSystemStates
  iarmBusSysMgrName eventSystemState sizeofEventData)

/-- Where the members of a system-state event stand, as both managers read them. -/
structure SystemLayout extends EventLayout where
  systemState : List UInt8 → SystemStateData
  systemState_stateId : ∀ data, (systemState data).stateId = stateId data

/-- How far `DSMgr_Start` has come: its handler is registered, it has SysMgr's answer, or it is
past the query. -/
inductive Phase | notStarted | registered | answered (state : Int) | queried
  deriving DecidableEq

/-- `systemStates` is SysMgr's; an inbox holds the data of events that its manager has yet to
handle. -/
structure State where
  systemStates : SystemStates
  sysInbox : List (List UInt8)
  phase : Phase
  dsInbox : List (List UInt8)
  dsMgr : HotPlug.State

def State.init (isIgnoreEdid : Bool) : State :=
  ⟨.start, [], .notStarted, [], .init 0 isIgnoreEdid⟩

inductive Action
  | broadcast (data : List UInt8)
  | sysMgrHandles
  | registers
  | asks (succeeds : Bool)
  | readsAnswer
  | processes
  | other (act : HotPlug.Action)

section Steps

variable (L : SystemLayout)

def systemEvent (data : List UInt8) : SysMgr.States.Event :=
  ⟨some iarmBusSysMgrName, eventSystemState, some (L.systemState data), sizeofEventData⟩

/-- `if(1 == tuneReadyParam.TuneReadyStatus.state) iTuneReady = 1`. -/
def readsAnswer (state : Int) (s : State) : State :=
  { s with
    phase := .queried
    dsMgr := if state = 1 then { s.dsMgr with iTuneReady := 1 } else s.dsMgr }

def processes (data : List UInt8) (rest : List (List UInt8)) (s : State) : Option State :=
  match decode L.toEventLayout iarmBusSysMgrName eventSystemState (some data) with
  | none => if s.dsMgr.worker = .idle then some { s with dsInbox := rest } else none
  | some event =>
    (HotPlug.step s.dsMgr (.process event)).map fun dsMgr =>
      { s with dsInbox := rest, dsMgr := dsMgr }

def isOther : HotPlug.Action → Bool
  | .process .tuneReady => false
  | _ => true

def step (s : State) : Action → Option State
  | .broadcast data =>
    some { s with
      sysInbox := s.sysInbox ++ [data]
      dsInbox := if s.phase = .notStarted then s.dsInbox else s.dsInbox ++ [data] }
  | .sysMgrHandles =>
    match s.sysInbox with
    | [] => none
    | data :: rest =>
      some { s with
        sysInbox := rest
        systemStates := sysEventHandler s.systemStates (systemEvent L data) }
  | .registers => if s.phase = .notStarted then some { s with phase := .registered } else none
  | .asks succeeds =>
    if s.phase = .registered then
      some { s with
        phase := if succeeds then .answered (getSystemStates s.systemStates .tuneReadyStatus).state
          else .queried }
    else none
  | .readsAnswer =>
    match s.phase with
    | .answered state => some (readsAnswer state s)
    | _ => none
  | .processes =>
    match s.dsInbox with
    | [] => none
    | data :: rest => processes L data rest s
  | .other act =>
    if s.phase ≠ .notStarted ∧ isOther act then
      (HotPlug.step s.dsMgr act).map fun dsMgr => { s with dsMgr := dsMgr }
    else none

end Steps

structure Seen where
  ready : Bool
  tuned : Bool
  handled : List (List UInt8)
  deriving DecidableEq

def Seen.note (s : State) (act : Action) (t : Seen) : Seen where
  ready := t.ready || (s.systemStates .tuneReadyStatus).state = 1
  tuned := t.tuned || s.dsMgr.iTuneReady = 1
  handled :=
    match act with
    | .sysMgrHandles => t.handled ++ s.sysInbox.head?.toList
    | _ => t.handled

def observe (L : SystemLayout) : State × Seen → Action → Option (State × Seen) :=
  observed (step L) Seen.note

def observeInit (isIgnoreEdid : Bool) : State × Seen := (.init isIgnoreEdid, ⟨false, false, []⟩)

/-- `iTuneReady` is 1 only if SysMgr has been tune-ready before, and stays so. -/
structure Agrees (p : State × Seen) : Prop where
  ready : p.1.dsMgr.iTuneReady = 1 → p.2.ready = true
  stays : p.2.tuned = true → p.1.dsMgr.iTuneReady = 1

def Announces (L : SystemLayout) (data : List UInt8) : Prop :=
  L.stateId data = sysStateTuneReady ∧ (L.systemState data).state = 1

instance (L : SystemLayout) (data : List UInt8) : Decidable (Announces L data) :=
  inferInstanceAs (Decidable (_ ∧ _))

/-- Whenever DSMgr processes a TUNEREADY event without being tune-ready, SysMgr has handled one
with the state 1. -/
def Announced (L : SystemLayout) (p : State × Seen) : Action → Prop
  | .processes => ∀ data ∈ p.1.dsInbox.head?, L.stateId data = sysStateTuneReady →
      p.1.dsMgr.iTuneReady = 0 → ∃ d ∈ p.2.handled, Announces L d
  | _ => True

instance (L : SystemLayout) (p : State × Seen) : ∀ act, Decidable (Announced L p act)
  | .processes => inferInstanceAs (Decidable (∀ data ∈ p.1.dsInbox.head?, _ → _ → _))
  | .broadcast _ | .sysMgrHandles | .registers | .asks _ | .readsAnswer | .other _ => isTrue trivial

end IarmMgrs.DsMgr.TuneReady
