import IarmMgrs.Lib.CString
import IarmMgrs.Lib.Heap
import IarmMgrs.Lib.Mailbox
import IarmMgrs.Lib.Transition
import IarmMgrs.Lib.Waiter

/-! The event queue of `dsMgr.c`: the IARM dispatch threads put copies of events
into a linked queue, a worker thread takes them out, and `DSMgr_Start` and
`DSMgr_Stop` start and stop that worker.  Every section under `evtQMutex` is one step. -/

namespace IarmMgrs.DsMgr.EventQueue

open Lib Lib.CString

def dsmgrEventQueueMax : Nat := 256
def iarmMaxNameLen : Nat := 64

/-- The sizes of the two event structures, which depend on the platform headers. -/
structure EventSizes where
  sysMgrEventData : Nat
  dsMgrEventData : Nat

/-- The arguments of `_EventHandler`.  A null pointer is `none`; a `data` pointer
gives access to at least `len` bytes. -/
structure Event where
  owner : Option (List UInt8)
  eventId : Int
  data : Option (List UInt8)
  len : Nat
  len_le : ∀ d, data = some d → len ≤ d.length

/-- `DSMgrEventItem_t` together with the buffer its `data` field owns. -/
structure DSMgrEventItem where
  owner : Buf UInt8 iarmMaxNameLen
  eventId : Int
  len : Nat
  data : List UInt8
  next : Option Addr

structure Delivery where
  owner : List UInt8
  eventId : Int
  data : List UInt8
  len : Nat
  deriving DecidableEq

def DSMgrEventItem.delivery (item : DSMgrEventItem) : Delivery :=
  ⟨item.owner.str 0, item.eventId, item.data, item.len⟩

/-- Where the worker thread stands while it does not wait for `evtQCond`. -/
inductive WorkerPc
  | absent
  | loop
  | popped (item : Addr)
  | processing (item : Addr)
  | exited
  deriving DecidableEq

/-- Where the thread that calls `startEventWorker` and `stopEventWorker` stands. -/
inductive Control where | stopped | starting | started | stopping
  deriving DecidableEq

/-- `prepared` and `rejecting` are the `_EventHandler` calls that have yet to take
`evtQMutex`, or to free the item they could not queue.  From `submitted` on the
fields are history, which the program never reads. -/
structure State where
  heap : Heap DSMgrEventItem
  brk : Addr
  evtQHead : Option Addr
  evtQTail : Option Addr
  evtQCount : Int
  evtQStop : Bool
  evtWorkerStarted : Bool
  worker : Waiter WorkerPc
  control : Control
  prepared : List Addr
  rejecting : List Addr
  fault : Bool
  submitted : Addr → Option Event
  accepted : List Addr
  rejected : List Addr
  handed : List (Addr × Delivery)
  settled : List (Addr × Fate)
  freed : List Addr

def State.init : State where
  heap := fun _ => none
  brk := 0
  evtQHead := none
  evtQTail := none
  evtQCount := 0
  evtQStop := false
  evtWorkerStarted := false
  worker := .running .absent
  control := .stopped
  prepared := []
  rejecting := []
  fault := false
  submitted := fun _ => none
  accepted := []
  rejected := []
  handed := []
  settled := []
  freed := []

/-- Freeing a cell that is not live is a fault. -/
def freeEventItem (s : State) : Option Addr → State
  | none => s
  | some a =>
    match s.heap a with
    | none => { s with fault := true }
    | some _ => { s with heap := Function.update s.heap a none, freed := s.freed ++ [a] }

def State.allocate (s : State) (item : DSMgrEventItem) : State :=
  { s with heap := Function.update s.heap s.brk (some item), brk := s.brk + 1 }

def State.deref (s : State) (a : Addr) (k : DSMgrEventItem → State) : State :=
  match s.heap a with
  | none => { s with fault := true }
  | some item => k item

def bufSize (sizes : EventSizes) (len : Nat) : Nat :=
  let size := len
  let size := if size < sizes.sysMgrEventData then sizes.sysMgrEventData else size
  if size < sizes.dsMgrEventData then sizes.dsMgrEventData else size

def makeEventItem (sizes : EventSizes) (ev : Event) (owner : List UInt8) : DSMgrEventItem where
  owner := (Buf.zeroed 0 iarmMaxNameLen).snprintf 0 owner
  eventId := ev.eventId
  len := ev.len
  data :=
    let buf : Buf UInt8 (bufSize sizes ev.len) := Buf.zeroed 0 _
    match ev.data with
    | some d => if ev.len ≠ 0 then (buf.write (d.take ev.len)).chars else buf.chars
    | none => buf.chars
  next := none

inductive Alloc where | succeeds | itemFails | dataFails
  deriving DecidableEq

/-- `_EventHandler` up to its critical section. -/
def eventHandler (sizes : EventSizes) (ev : Event) (alloc : Alloc) (s : State) : State :=
  match ev.owner with
  | none => s
  | some owner =>
    let a := s.brk
    match alloc with
    | .itemFails => freeEventItem s none
    | .dataFails =>
      let s := s.allocate { makeEventItem sizes ev owner with data := [] }
      freeEventItem { s with rejected := s.rejected ++ [a] } (some a)
    | .succeeds =>
      let s := s.allocate (makeEventItem sizes ev owner)
      { s with
        prepared := a :: s.prepared
        submitted := Function.update s.submitted a (some ev) }

/-- The critical section of `_EventHandler`. -/
def enqueueEvent (a : Addr) (s : State) : State :=
  let s := { s with prepared := s.prepared.erase a }
  let stopped := s.evtQStop
  if stopped || (dsmgrEventQueueMax : Int) ≤ s.evtQCount then
    { s with rejecting := a :: s.rejecting, rejected := s.rejected ++ [a] }
  else
    let s := match s.evtQTail with
      | some t => s.deref t fun item =>
          { s with heap := Function.update s.heap t (some { item with next := some a }) }
      | none => { s with evtQHead := some a }
    { s with
      evtQTail := some a
      evtQCount := s.evtQCount + 1
      worker := s.worker.signal
      accepted := s.accepted ++ [a] }

/-- `_EventHandler` frees an item it could not queue, after leaving the critical section. -/
def dropRejected (a : Addr) (s : State) : State :=
  freeEventItem { s with rejecting := s.rejecting.erase a } (some a)

/-- The loop that drops the pending events.  A heap of `fuel` cells cannot take
more rounds. -/
def dropPending : Nat → Option Addr → State → State
  | _, none, s => s
  | 0, some _, s => { s with fault := true }
  | fuel + 1, some a, s =>
    s.deref a fun item =>
      let s := freeEventItem s (some a)
      dropPending fuel item.next { s with settled := s.settled ++ [(a, .discarded)] }

/-- The critical section of `_EventWorkerThreadFunc`, entered from the loop or
from the wait. -/
def eventWorkerThreadFunc (s : State) : State :=
  if s.evtQHead.isNone && !s.evtQStop then
    { s with worker := .blocked }
  else if s.evtQStop then
    { dropPending s.brk s.evtQHead s with
      evtQHead := none
      evtQTail := none
      evtQCount := 0
      worker := .running .exited }
  else
    match s.evtQHead with
    | none => { s with fault := true }
    | some a => s.deref a fun item =>
      { s with
        evtQHead := item.next
        evtQTail := if item.next.isNone then none else s.evtQTail
        evtQCount := s.evtQCount - 1
        worker := .running (.popped a) }

def callProcessEvent (a : Addr) (s : State) : State :=
  s.deref a fun item =>
    { s with worker := .running (.processing a), handed := s.handed ++ [(a, item.delivery)] }

def finishEvent (a : Addr) (s : State) : State :=
  let s := freeEventItem s (some a)
  { s with worker := .running .loop, settled := s.settled ++ [(a, .processed)] }

inductive Action
  | callHandler (ev : Event) (alloc : Alloc)
  | enqueue (item : Addr)
  | dropRejected (item : Addr)
  | workerSection
  | spuriousWakeup
  | workerCall
  | workerReturn
  | start
  | createWorker (created : Bool)
  | stop
  | join

def step (sizes : EventSizes) (s : State) : Action → Option State
  | .callHandler ev alloc => some (eventHandler sizes ev alloc s)
  | .enqueue a => if a ∈ s.prepared then some (enqueueEvent a s) else none
  | .dropRejected a => if a ∈ s.rejecting then some (dropRejected a s) else none
  | .workerSection =>
    if s.worker = .running .loop ∨ s.worker = .woken then some (eventWorkerThreadFunc s) else none
  | .spuriousWakeup => if s.worker = .blocked then some { s with worker := .woken } else none
  | .workerCall =>
    match s.worker with
    | .running (.popped a) => some (callProcessEvent a s)
    | _ => none
  | .workerReturn =>
    match s.worker with
    | .running (.processing a) => some (finishEvent a s)
    | _ => none
  | .start =>
    if s.control = .stopped then some { s with evtQStop := false, control := .starting } else none
  | .createWorker created =>
    if s.control = .starting then
      some (if created then
        { s with worker := .running .loop, evtWorkerStarted := true, control := .started }
      else { s with control := .started })
    else none
  | .stop =>
    if s.control = .started ∨ s.control = .stopped then
      some (if s.evtWorkerStarted then
        { s with evtQStop := true, worker := s.worker.signal, control := .stopping }
      else { s with control := .stopped })
    else none
  | .join =>
    if s.control = .stopping ∧ s.worker = .running .exited then
      some { s with worker := .running .absent, evtWorkerStarted := false, control := .stopped }
    else none

/-- The item the worker has taken out of the queue and not freed yet. -/
def inHand : Waiter WorkerPc → Option Addr
  | .running (.popped a) => some a
  | .running (.processing a) => some a
  | _ => none

def called : Waiter WorkerPc → Option Addr
  | .running (.processing a) => some a
  | _ => none

def State.processed (s : State) : List Addr := Mailbox.withFate .processed s.settled
def State.discarded (s : State) : List Addr := Mailbox.withFate .discarded s.settled

end IarmMgrs.DsMgr.EventQueue
