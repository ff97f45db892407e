import IarmMgrs.MfrMgr.WriteProgress

namespace IarmMgrs.MfrMgr.WriteProgress

open Lib Lib.Transition
open Flash (Progress IarmResult)
open Srv (Answer Call Statics)

variable {s s' : State} {act : Action}

theorem mfrWriteImage_calling {pParam : Option Srv.WriteImageParam}
    (hvalid : Srv.isValidWriteImageParam pParam = true) :
    Srv.mfrWriteImage true pParam =
      .lock (Srv.findFunc .writeImage
        (.critical fun a => if a.err = .none then pollProgram else Srv.unlockReturn .invalidState)
        (Srv.unlockReturn .invalidState)) := by
  simp only [Srv.mfrWriteImage, Srv.handler, Srv.guarded, Srv.checked, hvalid, if_true]
  rfl

theorem proceed_program (h : proceed s = some s') {program : Srv.Program}
    (hprogram : s.phase.program = some program) (data : Statics) (answer : Answer)
    (herr : answer.err = .none) (hanswer : answer.progress = s.lastStatus)
    (th : Lock.Thread Call Statics Answer IarmResult) (hth : th.prog = program) :
    ∃ next, Lock.move th answer ⟨s.locked, data⟩ = some (⟨s'.locked, data⟩, next) ∧
      next.map (·.prog) = s'.phase.program := by
  obtain ⟨phase, locked, lastStatus, reports, terminal⟩ := s
  simp only at hanswer hprogram
  cases phase with
  | calling =>
    obtain rfl := Option.some.inj hprogram
    obtain rfl := Option.some.inj h
    simp [Lock.move, hth, herr, Lock.Thread.goto, Phase.program]
  | polling =>
    obtain rfl := Option.some.inj hprogram
    obtain rfl := Option.some.inj h
    by_cases hpoll : lastStatus = .notStarted <;>
      simp [Lock.move, hth, pollProgram, Lock.Thread.goto, Phase.program, hanswer, hpoll]
  | completing =>
    obtain rfl := Option.some.inj hprogram
    obtain rfl := Option.some.inj h
    by_cases hpoll : lastStatus = .started <;>
      simp [Lock.move, hth, completeProgram, Lock.Thread.goto, Phase.program, hanswer, hpoll]
  | testing =>
    obtain rfl := Option.some.inj hprogram
    obtain rfl := Option.some.inj h
    simp [Lock.move, hth, testProgram, Lock.Thread.goto, Phase.program, hanswer]
  | unlocking retCode =>
    obtain rfl := Option.some.inj hprogram
    obtain rfl := Option.some.inj h
    simp [Lock.move, hth, Srv.unlockReturn, Phase.program]
  | returning retCode =>
    obtain rfl := Option.some.inj hprogram
    obtain rfl := Option.some.inj h
    simp [Lock.move, hth, Phase.program]
  | returned retCode => cases hprogram

def Latest (s : State) : Prop := s.lastStatus = s.reports.headD .notStarted

theorem Latest.step (h : Latest s) (hstep : step s act = some s') : Latest s' := by
  obtain ⟨phase, locked, lastStatus, reports, terminal⟩ := s
  cases act with
  | report progress =>
    obtain rfl := Option.some.inj hstep
    rfl
  | proceed =>
    cases phase with
    | returned retCode => cases hstep
    | polling | completing =>
      simp only [WriteProgress.step, proceed] at hstep
      split at hstep <;> obtain rfl := Option.some.inj hstep <;> exact h
    | _ =>
      obtain rfl := Option.some.inj hstep
      exact h

theorem lastTerminal_of_completed (h : Latest s) (hlast : s.lastStatus = .completed) :
    s.lastTerminal = some .completed := by
  rw [Latest, hlast] at h
  rw [State.lastTerminal]
  cases hreports : s.reports with
  | nil => simp [hreports] at h
  | cons p ps =>
    obtain rfl : Progress.completed = p := by simpa [hreports] using h
    rfl

theorem decided_iff (h : Latest s) :
    ((if s.lastStatus = .completed then IarmResult.success else .ipccoreFail) = .success ↔
        s.lastTerminal = some .completed) ↔
      (s.lastTerminal = some .completed → s.lastStatus = .completed) := by
  by_cases hlast : s.lastStatus = .completed
  · refine iff_of_true (iff_of_true (if_pos hlast) ?_) fun _ => hlast
    exact lastTerminal_of_completed h hlast
  · simp [hlast]

/-- One step keeps the call in line with the reports exactly if it samples them well. -/
theorem sampled_iff (h : Latest s) (hc : Completes s) (hstep : step s act = some s') :
    Sampled s act ↔ Completes s' := by
  obtain ⟨phase, locked, lastStatus, reports, terminal⟩ := s
  cases act with
  | report progress =>
    obtain rfl := Option.some.inj hstep
    refine iff_of_true trivial ⟨fun hleft => ?_, hc.result⟩
    obtain ⟨p, hp, hterminal⟩ := hc.left hleft
    exact ⟨p, List.mem_cons_of_mem _ hp, hterminal⟩
  | proceed =>
    cases phase with
    | calling =>
      obtain rfl := Option.some.inj hstep
      exact iff_of_true trivial ⟨hc.left, fun _ hret => nomatch hret⟩
    | polling =>
      simp only [step, proceed] at hstep
      split at hstep <;> obtain rfl := Option.some.inj hstep
      · exact iff_of_true trivial hc
      · exact iff_of_true trivial ⟨hc.left, fun _ hret => nomatch hret⟩
    | completing =>
      simp only [step, proceed] at hstep
      split at hstep
      · next hstarted =>
        obtain rfl := Option.some.inj hstep
        exact iff_of_true (.inl hstarted) hc
      · next hstarted =>
        obtain rfl := Option.some.inj hstep
        constructor
        · intro hsampled
          exact ⟨fun _ => hsampled.resolve_left hstarted, fun _ hret => nomatch hret⟩
        · exact fun hcompletes => .inr (hcompletes.left (.inl rfl))
    | testing =>
      obtain rfl := Option.some.inj hstep
      constructor
      · intro hsampled
        refine ⟨fun _ => hc.left (.inl rfl), fun retCode hret => ?_⟩
        obtain rfl := Option.some.inj hret
        exact (decided_iff h).mpr hsampled
      · exact fun hcompletes => (decided_iff h).mp (hcompletes.result _ rfl)
    | unlocking retCode =>
      obtain rfl := Option.some.inj hstep
      exact iff_of_true trivial ⟨fun _ => hc.left (.inl rfl), hc.result⟩
    | returning retCode =>
      obtain rfl := Option.some.inj hstep
      exact iff_of_true trivial ⟨fun _ => hc.left (.inl rfl), hc.result⟩
    | returned retCode => cases hstep

def resultFor (progress : Progress) : IarmResult :=
  if progress = .completed then .success else .ipccoreFail

def Returns (s : State) (retCode : IarmResult) : Prop :=
  ∃ n s', run step s (List.replicate n .proceed) = some s' ∧ s'.phase = .returned retCode

theorem Returns.of_proceed {retCode : IarmResult} (hstep : proceed s = some s')
    (h : Returns s' retCode) : Returns s retCode := by
  obtain ⟨n, t, hrun, ht⟩ := h
  exact ⟨n + 1, t, run_cons.mpr ⟨s', hstep, hrun⟩, ht⟩

theorem returns_terminal (hlast : s.lastStatus.terminal = true) (hopen : s.phase.retCode = none) :
    Returns s (resultFor s.lastStatus) := by
  obtain ⟨phase, locked, lastStatus, reports, terminal⟩ := s
  have hnotStarted : lastStatus ≠ .notStarted := by
    rintro rfl
    cases hlast
  have hstarted : lastStatus ≠ .started := by
    rintro rfl
    cases hlast
  have htesting : Returns ⟨.testing, locked, lastStatus, reports, terminal⟩
      (resultFor lastStatus) := ⟨3, _, rfl, rfl⟩
  have hcompleting : Returns ⟨.completing, locked, lastStatus, reports, terminal⟩
      (resultFor lastStatus) := htesting.of_proceed (by simp [proceed, hstarted])
  have hpolling : Returns ⟨.polling, locked, lastStatus, reports, terminal⟩
      (resultFor lastStatus) := hcompleting.of_proceed (by simp [proceed, hnotStarted])
  cases phase with
  | calling => exact hpolling.of_proceed rfl
  | polling => exact hpolling
  | completing => exact hcompleting
  | testing => exact htesting
  | unlocking | returning | returned => cases hopen

/-- In every state reached the call is in line with the reports, exactly if it has sampled them
well at each step; and once the last report is terminal the call returns. -/
theorem writeImage_completes_iff (as : List Action) (s : State)
    (hrun : run step State.init as = some s) :
    (Along step Sampled State.init as ↔
      ∀ pre u, pre <+: as → run step State.init pre = some u → Completes u) ∧
    (s.lastStatus.terminal = true → s.phase.retCode = none →
      Returns s (resultFor s.lastStatus)) := by
  refine ⟨?_, returns_terminal⟩
  refine along_iff Latest Completes (fun _ _ _ h _ hstep => h.step hstep)
    (fun _ _ _ h hc hstep => sampled_iff h hc hstep) rfl ?_ hrun
  exact ⟨fun h => by cases h <;> contradiction, fun _ hret => nomatch hret⟩

def verifyingRun : List Action :=
  [.proceed, .report .started, .proceed, .report .verifying, .proceed, .proceed, .proceed, .proceed,
    .report .completed]

/-- The call has returned a failure, and given up the lock, before the image is complete. -/
theorem writeImage_leaves_early :
    (∃ s, run step State.init verifyingRun = some s ∧ s.phase = .returned .ipccoreFail ∧
      s.reports = [.completed, .verifying, .started]) ∧
    ∃ s, run step State.init (verifyingRun.take 6) = some s ∧ ¬ Completes s := by
  refine ⟨⟨_, rfl, rfl, rfl⟩, _, rfl, fun hc => ?_⟩
  obtain ⟨p, hp, hterminal⟩ := hc.left (.inl rfl)
  revert p
  decide

def startedRun : List Action :=
  [.proceed, .proceed, .report .started, .proceed, .proceed, .report .started, .proceed,
    .report .completed, .proceed, .proceed, .proceed, .proceed]

theorem writeImage_completes_iff_startedRun :
    ∃ s, run step State.init startedRun = some s ∧ s.phase = .returned .success ∧ Completes s := by
  have hsampled : Along step Sampled State.init startedRun := by decide
  exact ⟨_, rfl, rfl, (writeImage_completes_iff startedRun _ rfl).1.mp hsampled startedRun _
    (List.prefix_refl _) rfl⟩

end IarmMgrs.MfrMgr.WriteProgress
