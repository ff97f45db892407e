import IarmMgrs.DsMgr.Resolution
import IarmMgrs.Lib.Transition
import Mathlib.Logic.Function.Basic

/-! The EDID checksum of `dsMgr.c`.  `dumpEdidOnChecksumDiff` compares it with the last one, for
`_SetResolution` on any of three threads and as a GLib source of its own.  Reading the EDID is
one step; the comparison and what its caller does with the answer is another. -/

universe u

namespace IarmMgrs.DsMgr.EdidChange

open Lib.Transition
open Resolution (PlatformConfig Hal DsVideoPortType Outcome defaultResolution)

/-- The answers of `dsGetDisplay` and `_dsGetEDIDBytes`. -/
structure Display where
  handle : Int
  length : Int
  bytes : List UInt8

def currentEdidChecksum (length : Int) (bytes : List UInt8) : Int :=
  (List.range (length / 128).toNat).foldl
    (fun sum i => sum + (bytes.getD ((i + 1) * 128 - 1) 0).toNat) 0

/-- No display, or a length that `dumpEdidOnChecksumDiff` does not look at, has none. -/
def Display.checksum (display : Display) : Option Int :=
  if display.handle ≠ 0 ∧ 0 < display.length ∧ display.length ≤ 512 then
    some (currentEdidChecksum display.length display.bytes)
  else none

/-- The comparison: the result, and what `cached_EDID_checksum` is left at. -/
def compareChecksum (cached : Int) : Option Int → Bool × Int
  | none => (false, cached)
  | some current => if cached = 0 ∨ current ≠ cached then (true, current) else (false, cached)

def dumpEdidOnChecksumDiff (cached : Int) (display : Display) : Bool × Int :=
  compareChecksum cached display.checksum

inductive Caller | eventWorker | resnThread | mainLoop
  deriving DecidableEq

structure Call (ρ : Type u) where
  hal : Hal ρ
  handle : Int
  portType : DsVideoPortType

section Calls

variable {ρ : Type u}

def Call.reads (call : Call ρ) : Bool :=
  match call.hal.videoPortResolutions, call.hal.defaultResolutionIndex with
  | some pResolutions, some defaultResIndex =>
    (defaultResolution pResolutions defaultResIndex).isSome && call.hal.edidDataAllocated &&
      call.handle ≠ 0
  | _, _ => false

def Call.outcome (cfg : PlatformConfig) (bootupFlagEnabled hotplugEdidDiff : Bool)
    (call : Call ρ) : Outcome ρ :=
  Resolution.setResolution cfg bootupFlagEnabled
    { call.hal with hotplugEdidDiff := hotplugEdidDiff } call.handle call.portType

end Calls

/-- Whom `dumpEdidOnChecksumDiff` runs for; `due` marks the first `_SetResolution` since the
checksum changed. -/
inductive Purpose (ρ : Type u)
  | callback
  | setResolution (call : Call ρ) (due : Bool)

def Purpose.due {ρ : Type u} : Purpose ρ → Bool
  | .callback => false
  | .setResolution _ due => due

structure Dump (ρ : Type u) where
  checksum : Option Int
  purpose : Purpose ρ

structure Request (ρ : Type u) where
  call : Call ρ
  due : Bool
  toPersist : Bool
  outcome : Outcome ρ

/-- `sources` counts the scheduled callbacks.  The last three fields are history: the last
checksum the display had, whether it has changed since the last `_SetResolution` read it, and
the last one compared. -/
structure State (ρ : Type u) where
  display : Display
  cachedEdidChecksum : Int
  bootupFlagEnabled : Bool
  sources : Nat
  dumps : Caller → Option (Dump ρ)
  requests : List (Request ρ)
  shown : Option Int
  changed : Bool
  compared : Option Int

inductive Action (ρ : Type u)
  | displays (display : Display)
  | clearsBootupFlag
  | schedules
  | timerFires
  | setResolution (caller : Caller) (call : Call ρ)
  | compares (caller : Caller)

section Steps

variable {ρ : Type u}

def State.init : State ρ :=
  ⟨⟨0, 0, []⟩, 0, true, 0, fun _ => none, [], none, false, none⟩

def State.displays (s : State ρ) (display : Display) : State ρ :=
  { s with
    display := display
    shown := display.checksum.or s.shown
    changed := s.changed || display.checksum.any fun checksum => s.shown ≠ some checksum }

def State.reads (s : State ρ) (caller : Caller) (purpose : Purpose ρ) : State ρ :=
  { s with dumps := Function.update s.dumps caller (some ⟨s.display.checksum, purpose⟩) }

/-- The callback's source ends when it returns false. -/
def State.compares (cfg : PlatformConfig) (s : State ρ) (caller : Caller) (dump : Dump ρ) :
    State ρ :=
  let answer := compareChecksum s.cachedEdidChecksum dump.checksum
  let s := { s with
    cachedEdidChecksum := answer.2
    dumps := Function.update s.dumps caller none
    compared := dump.checksum.or s.compared }
  match dump.purpose with
  | .callback => { s with sources := if answer.1 then s.sources else s.sources - 1 }
  | .setResolution call due =>
    { s with
      requests := s.requests ++ [⟨call, due, s.bootupFlagEnabled || answer.1,
        call.outcome cfg s.bootupFlagEnabled answer.1⟩] }

def step (cfg : PlatformConfig) (s : State ρ) : Action ρ → Option (State ρ)
  | .displays display => some (s.displays display)
  | .clearsBootupFlag => some { s with bootupFlagEnabled := false }
  | .schedules => some { s with sources := s.sources + 1 }
  | .timerFires =>
    if s.sources ≠ 0 ∧ (s.dumps .mainLoop).isNone then some (s.reads .mainLoop .callback) else none
  | .setResolution caller call =>
    if (s.dumps caller).isNone then
      some (if call.reads then
        { s.reads caller (.setResolution call s.changed) with changed := false }
      else s)
    else none
  | .compares caller => (s.dumps caller).map (s.compares cfg caller)

end Steps

section Changes

variable {ρ : Type u}

/-- The first `_SetResolution` after each change of the checksum asks for the resolution the
user persisted. -/
def ChangeRequested (s : State ρ) : Prop :=
  ∀ request ∈ s.requests, request.due = true → request.toPersist = true

/-- The checksum has been read, and was not the last one compared unless it is 0. -/
def Fresh (s : State ρ) (dump : Dump ρ) : Prop :=
  ∃ checksum ∈ dump.checksum, s.compared = some checksum → checksum = 0

instance (s : State ρ) (dump : Dump ρ) : Decidable (Fresh s dump) :=
  inferInstanceAs (Decidable (∃ _ ∈ dump.checksum, _ → _))

/-- Outside of the boot-up, the first `_SetResolution` after a change compares a checksum that
is fresh. -/
def ChangeKept (s : State ρ) : Action ρ → Prop
  | .compares caller => ∀ dump ∈ s.dumps caller, dump.purpose.due = true →
      s.bootupFlagEnabled = false → Fresh s dump
  | _ => True

instance (s : State ρ) : ∀ act, Decidable (ChangeKept s act)
  | .compares caller => inferInstanceAs (Decidable (∀ _ ∈ s.dumps caller, _ → _ → _))
  | .displays _ | .clearsBootupFlag | .schedules | .timerFires | .setResolution _ _ =>
    isTrue trivial

end Changes

def Idempotent (cached : Int) (display : Display) : Prop :=
  let first := dumpEdidOnChecksumDiff cached display
  dumpEdidOnChecksumDiff first.2 display = (false, first.2)

instance (cached : Int) (display : Display) : Decidable (Idempotent cached display) :=
  inferInstanceAs (Decidable (_ = _))

def HasChecksumByte (display : Display) : Prop :=
  ∃ i < (display.length / 128).toNat, display.bytes.getD ((i + 1) * 128 - 1) 0 ≠ 0

instance (display : Display) : Decidable (HasChecksumByte display) :=
  inferInstanceAs (Decidable (∃ _, _ ∧ _))

section Sources

variable {ρ : Type u}

def State.calledBack (s : State ρ) : State ρ :=
  let answer := dumpEdidOnChecksumDiff s.cachedEdidChecksum s.display
  { s with
    cachedEdidChecksum := answer.2
    sources := if answer.1 then s.sources else s.sources - 1
    compared := s.display.checksum.or s.compared }

def callbacks (n : Nat) : List (Action ρ) :=
  (List.replicate n [.timerFires, .compares .mainLoop]).flatten

/-- Left to itself the last source ends. -/
def SourcesEnd (cfg : PlatformConfig) (s : State ρ) : Prop :=
  ∃ n t, run (step cfg) s (callbacks n) = some t ∧ t.sources = 0

end Sources

end IarmMgrs.DsMgr.EdidChange
