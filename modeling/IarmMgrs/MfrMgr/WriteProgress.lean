import IarmMgrs.MfrMgr.Srv

/-! A call of `_mfrWriteImage` of `mfrSrv.c` whose image the HAL has accepted, and the HAL,
which reports to `writeImageCb` at any moment.  The call has the lock from end to end. -/

namespace IarmMgrs.MfrMgr.WriteProgress

open Lib Lib.Transition
open Flash (Progress IarmResult)
open Srv (Answer Call Statics)

inductive Phase
  | calling | polling | completing | testing | unlocking (retCode : IarmResult)
  | returning (retCode : IarmResult) | returned (retCode : IarmResult)
  deriving DecidableEq

section Program

def testProgram : Srv.Program :=
  .ask fun a => Srv.unlockReturn (if a.progress = .completed then .success else .ipccoreFail)

def completeProgram : Srv.Program := .poll (fun a => a.progress = .started) testProgram

def pollProgram : Srv.Program := .poll (fun a => a.progress = .notStarted) completeProgram

/-- What is left of the program of the call; `none` once it has returned. -/
def Phase.program : Phase → Option Srv.Program
  | .calling =>
    some (.critical fun a =>
      if a.err = .none then pollProgram else Srv.unlockReturn .invalidState)
  | .polling => some pollProgram
  | .completing => some completeProgram
  | .testing => some testProgram
  | .unlocking retCode => some (Srv.unlockReturn retCode)
  | .returning retCode => some (.ret retCode)
  | .returned _ => none

end Program

/-- `reports` are the values reported since the HAL has accepted the image, the last one
first, and `terminal` is the terminal value among them that was reported last when the result
was decided; both are history. -/
structure State where
  phase : Phase
  locked : Bool
  lastStatus : Progress
  reports : List Progress
  terminal : Option Progress
  deriving DecidableEq

def State.init : State := ⟨.calling, true, .notStarted, [], none⟩

def State.lastTerminal (s : State) : Option Progress := s.reports.find? Progress.terminal

inductive Action | report (progress : Progress) | proceed
  deriving DecidableEq

def proceed (s : State) : Option State :=
  match s.phase with
  | .calling => some { s with phase := .polling }
  | .polling => some (if s.lastStatus = .notStarted then s else { s with phase := .completing })
  | .completing => some (if s.lastStatus = .started then s else { s with phase := .testing })
  | .testing =>
    some { s with
      phase := .unlocking (if s.lastStatus = .completed then .success else .ipccoreFail)
      terminal := s.lastTerminal }
  | .unlocking retCode => some { s with phase := .returning retCode, locked := false }
  | .returning retCode => some { s with phase := .returned retCode }
  | .returned _ => none

def step (s : State) : Action → Option State
  | .report progress => some { s with lastStatus := progress, reports := progress :: s.reports }
  | .proceed => proceed s

def Phase.leftLoops : Phase → Bool
  | .calling | .polling | .completing => false
  | _ => true

def Phase.retCode : Phase → Option IarmResult
  | .unlocking retCode | .returning retCode | .returned retCode => some retCode
  | _ => none

/-- The loops have been left, and the lock released, only after a terminal value, and the
result is success just if that value is COMPLETED. -/
structure Completes (s : State) : Prop where
  left : s.phase.leftLoops = true ∨ s.locked = false → ∃ p ∈ s.reports, p.terminal = true
  result : ∀ retCode, s.phase.retCode = some retCode →
    (retCode = .success ↔ s.terminal = some .completed)

/-- What the second loop reads is STARTED, or a terminal value has been reported; and what the
test reads is COMPLETED if that was the last terminal value. -/
def SampledAt (s : State) : Phase → Prop
  | .completing => s.lastStatus = .started ∨ ∃ p ∈ s.reports, p.terminal = true
  | .testing => s.lastTerminal = some .completed → s.lastStatus = .completed
  | _ => True

instance (s : State) : ∀ phase, Decidable (SampledAt s phase)
  | .completing => inferInstanceAs (Decidable (_ ∨ _))
  | .testing => inferInstanceAs (Decidable (_ → _))
  | .calling | .polling | .unlocking _ | .returning _ | .returned _ => isTrue trivial

def Sampled (s : State) : Action → Prop
  | .report _ => True
  | .proceed => SampledAt s s.phase

instance (s : State) : ∀ act, Decidable (Sampled s act)
  | .report _ => isTrue trivial
  | .proceed => inferInstanceAs (Decidable (SampledAt s s.phase))

end IarmMgrs.MfrMgr.WriteProgress
