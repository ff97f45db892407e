import IarmMgrs.Bus
import IarmMgrs.Lib.Transition
import IarmMgrs.SysMgr.StatesLaws

/-! `SYSMgr_Start` and `SYSMgr_Stop` of `sysMgr.c`.  They hold `tMutexLock` from end to end,
as the event handler and `_GetSystemStates` do, so each is one step. -/

namespace IarmMgrs.SysMgr.LifeCycle

open Lib.Transition Bus States

inductive BusCall
  | init | connect | registerEvent | getSystemStates | sysEventHandler
  | setHDCPProfile | getHDCPProfile | getKeyCodeLoggingPref | setKeyCodeLoggingPref
  | disconnect | term
  deriving DecidableEq

/-- What `SYSMgr_Start` calls before it sets `initialized`. -/
def callsBefore : List BusCall :=
  [.init, .connect, .registerEvent, .getSystemStates, .sysEventHandler]

/-- The registrations that follow the flag. -/
def callsAfter : List BusCall :=
  [.setHDCPProfile, .getHDCPProfile, .getKeyCodeLoggingPref, .setKeyCodeLoggingPref]

/-- The statics of `sysMgr.c`; `mutexDestroyed` tells what became of `tMutexLock`. -/
structure State where
  initialized : Bool
  systemStates : SystemStates
  keyLogStatus : Int
  mutexDestroyed : Bool

def State.init : State := ⟨false, fun _ => .zero, 1, false⟩

inductive Input
  | start (answer : BusCall → IarmResult)
  | stop (answer : BusCall → IarmResult)
  | event (e : Event)
  | getSystemStates
  | setKeyCodeLoggingPref (logStatus : Int)

def start (answer : BusCall → IarmResult) (s : State) : State × IarmResult :=
  if s.initialized then (s, .invalidState)
  else
    let zeroed := { s with systemStates := fun _ => .zero }
    if attempt answer callsBefore ≠ .success then (zeroed, attempt answer callsBefore)
    else if attempt answer callsAfter ≠ .success then
      ({ zeroed with initialized := true }, attempt answer callsAfter)
    else ({ s with initialized := true, systemStates := .start, keyLogStatus := 1 }, .success)

def stop (answer : BusCall → IarmResult) (s : State) : State × IarmResult :=
  if s.initialized then
    if attempt answer [.disconnect, .term] ≠ .success then
      (s, attempt answer [.disconnect, .term])
    else ({ s with initialized := false, mutexDestroyed := true }, .success)
  else (s, .invalidState)

def setKeyCodeLoggingPref (keyLogStatus logStatus : Int) : Int :=
  if logStatus = 0 then 0 else if logStatus = 1 then 1 else keyLogStatus

def step (s : State) : Input → Option State
  | .start answer => some (start answer s).1
  | .stop answer => some (stop answer s).1
  | .event e => some { s with systemStates := sysEventHandler s.systemStates e }
  | .getSystemStates => some s
  | .setKeyCodeLoggingPref logStatus =>
    some { s with keyLogStatus := setKeyCodeLoggingPref s.keyLogStatus logStatus }

/-- Whether `tMutexLock` is taken; the tests in front of the event handler do not need it. -/
def locks : Input → Bool
  | .start _ | .stop _ | .getSystemStates => true
  | .event e => (acceptEvent e).isSome
  | .setKeyCodeLoggingPref _ => false

inductive Control where | start | stop
  deriving DecidableEq

/-- `latest` is the last of the two calls that succeeded; `events` and `prefs` came after the
last successful start. -/
structure History where
  latest : Option Control
  events : List Event
  prefs : List Int
  lockedDestroyed : Bool

def History.init : History := ⟨none, [], [], false⟩

def History.record (s : State) (h : History) : Input → History
  | .start answer =>
    if (start answer s).2 = .success then ⟨some .start, [], [], h.lockedDestroyed⟩ else h
  | .stop answer => if (stop answer s).2 = .success then { h with latest := some .stop } else h
  | .event e => { h with events := h.events ++ [e] }
  | .getSystemStates => h
  | .setKeyCodeLoggingPref logStatus => { h with prefs := h.prefs ++ [logStatus] }

def History.note (s : State) (a : Input) (h : History) : History :=
  { h.record s a with lockedDestroyed := h.lockedDestroyed || s.mutexDestroyed && locks a }

def observe : State × History → Input → Option (State × History) := observed step History.note

def observeInit : State × History := (.init, .init)

structure InStep (p : State × History) : Prop where
  flag : p.1.initialized = true ↔ p.2.latest = some .start
  states : p.1.initialized = true → p.1.systemStates = p.2.events.foldl sysEventHandler .start
  keyLog : p.1.initialized = true →
    p.1.keyLogStatus = p.2.prefs.foldl setKeyCodeLoggingPref 1

structure Sound (p : State × History) : Prop extends InStep p where
  hdcp : p.1.initialized = true → (∀ e ∈ p.2.events, reportOf .hdcpEnabled e = none) →
    (p.1.systemStates .hdcpEnabled).state = 1
  mutex : p.2.lockedDestroyed = false

/-- The first five calls of a start succeed, and one of the last four fails. -/
def FailsAfterFlag (answer : BusCall → IarmResult) : Prop :=
  (∀ call ∈ callsBefore, answer call = .success) ∧ ∃ call ∈ callsAfter, answer call ≠ .success

instance (answer : BusCall → IarmResult) : Decidable (FailsAfterFlag answer) :=
  inferInstanceAs (Decidable (_ ∧ _))

def Orderly (p : State × History) (a : Input) : Prop :=
  (p.1.mutexDestroyed = true → locks a = false) ∧
    match a with
    | .start answer => p.1.initialized = false → ¬ FailsAfterFlag answer
    | _ => True

instance (p : State × History) (a : Input) : Decidable (Orderly p a) := by
  unfold Orderly
  cases a <;> infer_instance

end IarmMgrs.SysMgr.LifeCycle
