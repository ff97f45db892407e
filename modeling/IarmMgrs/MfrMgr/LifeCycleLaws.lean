import IarmMgrs.MfrMgr.LifeCycle

namespace IarmMgrs.MfrMgr.LifeCycle

open Lib.Transition Bus
open Flash (MfrError)

variable {build : Build} {a : Answers} {s s' : State} {b : BusState} {r : IarmResult}

theorem iarmBusInit_success (b : BusState) :
    iarmBusInit .success b = { b with inited := true } := by
  simp [iarmBusInit]

theorem iarmBusInit_refused (hr : r ≠ .success) : iarmBusInit r b = b := by
  simp [iarmBusInit, hr]

theorem iarmBusConnect_success (b : BusState) :
    iarmBusConnect .success b = { b with connected := true } := by
  simp [iarmBusConnect]

theorem iarmBusConnect_refused (hr : r ≠ .success) : iarmBusConnect r b = b := by
  simp [iarmBusConnect, hr]

inductive BodyOutcome (build : Build) (a : Answers) (s : State) : State × IarmResult → Prop
  | beforeInit {err : IarmResult} (h : a.EndsBeforeInit) (herr : err ≠ .success) :
      BodyOutcome build a s (s, err)
  | beforeConnect {err : IarmResult} (h : ¬ a.EndsBeforeInit) (hconnects : ¬ a.Connects)
      (herr : err ≠ .success) :
      BodyOutcome build a s ({ s with bus := { s.bus with inited := true } }, err)
  | connected (h : ¬ a.EndsBeforeInit) (hconnects : a.Connects) :
      BodyOutcome build a s (⟨true, { s.bus with inited := true, connected := true }⟩,
        attempt a.register (registrations build))

theorem startBody_outcome (build : Build) (a : Answers) (s : State) :
    BodyOutcome build a s (startBody build a s) := by
  simp only [startBody]
  split
  · next hmfr => exact .beforeInit (.inl hmfr) (by decide)
  · next hmfr =>
    rw [not_not] at hmfr
    split
    · next hinit =>
      rw [iarmBusInit_refused hinit]
      exact .beforeInit (.inr hinit) hinit
    · next hinit =>
      rw [not_not] at hinit
      have hbefore : ¬ a.EndsBeforeInit := by simp [Answers.EndsBeforeInit, hmfr, hinit]
      rw [hinit, iarmBusInit_success]
      split
      · next hconnect =>
        rw [iarmBusConnect_refused hconnect]
        exact .beforeConnect hbefore (fun h => hconnect h.2.2) hconnect
      · next hconnect =>
        rw [not_not] at hconnect
        rw [hconnect, iarmBusConnect_success]
        exact .connected hbefore ⟨hmfr, hinit, hconnect⟩

theorem inStep_term :
    InStep { s with bus := iarmBusTerm r s.bus } ↔ InStep s ∧ s.bus.inited = true := by
  constructor
  · rintro ⟨hflag, hdisconnect, hterm⟩
    simp only [iarmBusTerm, Bool.or_eq_false_iff, Bool.not_eq_false'] at hterm
    exact ⟨⟨hflag, hdisconnect, hterm.1⟩, hterm.2⟩
  · rintro ⟨⟨hflag, hdisconnect, hterm⟩, hinited⟩
    exact ⟨hflag, hdisconnect, by simp [iarmBusTerm, hterm, hinited]⟩

theorem InStep.disconnect_iff (h : InStep s) (hconnected : s.isConnected = true) :
    InStep { s with bus := iarmBusDisconnect r s.bus } ↔ r ≠ .success := by
  have hbus := h.flag.mp hconnected
  constructor
  · rintro ⟨hflag, -, -⟩
    simpa [iarmBusDisconnect, hbus] using hflag.mp hconnected
  · intro hr
    refine ⟨iff_of_true hconnected ?_, ?_, h.term⟩
    · simp [iarmBusDisconnect, hbus, hr]
    · simp [iarmBusDisconnect, hbus, h.disconnect]

theorem InStep.cleanup_iff (h : InStep s) :
    InStep (cleanup a s) ↔
      (s.bus.connected = true → a.disconnect ≠ .success) ∧ s.bus.inited = true := by
  simp only [cleanup, ← h.flag]
  split
  · next hconnected =>
    rw [inStep_term, h.disconnect_iff hconnected]
    simp [hconnected, iarmBusDisconnect]
  · next hconnected =>
    rw [inStep_term]
    simp [hconnected, h]

theorem InStep.stop_iff (h : InStep s) (disconnect term : IarmResult) :
    InStep (stop disconnect term s).1 ↔ (s.bus.connected = true → disconnect ≠ .success) := by
  simp only [stop, ← h.flag]
  split
  · next hconnected =>
    rw [forall_prop_of_true hconnected]
    split
    · exact h.disconnect_iff hconnected
    · next hdisconnect =>
      -- The termination does not bring the flag back in step.
      refine iff_of_false (fun hstop => ?_) hdisconnect
      refine hdisconnect ((h.disconnect_iff hconnected).mp ?_)
      split at hstop
      · exact (inStep_term.mp hstop).1
      · exact (inStep_term.mp hstop).1
  · next hconnected =>
    exact iff_of_true h fun hflag => absurd hflag hconnected

theorem InStep.start_iff (h : InStep s) :
    InStep (start build a s).1 ↔ Harmless build s (.start a) := by
  have houtcome := startBody_outcome build a s
  simp only [start, Harmless]
  generalize startBody build a s = result at houtcome ⊢
  cases houtcome with
  | beforeInit hbefore herr =>
    have hconnects : ¬ a.Connects := by
      rintro ⟨hmfr, hinit, -⟩
      exact hbefore.elim (absurd hmfr) (absurd hinit)
    have hfails : a.Fails build := fun hall => hconnects hall.1
    simp [herr, h.cleanup_iff, hbefore, hconnects, hfails]
  | beforeConnect hbefore hconnects herr =>
    have hfails : a.Fails build := fun hall => hconnects hall.1
    have hin : InStep { s with bus := { s.bus with inited := true } } :=
      ⟨h.flag, h.disconnect, h.term⟩
    simp [herr, hin.cleanup_iff, hbefore, hconnects, hfails]
  | connected hbefore hconnects =>
    have hin : InStep ⟨true, { s.bus with inited := true, connected := true }⟩ :=
      ⟨by simp, h.disconnect, h.term⟩
    have hfails : a.Fails build ↔ attempt a.register (registrations build) ≠ .success := by
      simp [Answers.Fails, hconnects]
    rw [hfails]
    split
    · next herr => simp [herr, hin.cleanup_iff, hbefore, hconnects]
    · next herr => exact iff_of_true hin fun hne => absurd hne herr

theorem harmless_iff {input : Input} (h : InStep s) (hstep : step build s input = some s') :
    Harmless build s input ↔ InStep s' := by
  cases input with
  | start a =>
    obtain rfl := Option.some.inj hstep
    exact h.start_iff.symm
  | stop disconnect term =>
    obtain rfl := Option.some.inj hstep
    exact (h.stop_iff disconnect term).symm

/-- The flag and the calls stay in step with the bus in every state of a run exactly if no
disconnect succeeds and no start ends before it has initialised a bus that was not. -/
theorem lifeCycle_inStep_iff {as : List Input} (hrun : run (step build) .init as = some s) :
    Along (step build) (Harmless build) .init as ↔
      ∀ pre t, pre <+: as → run (step build) .init pre = some t → InStep t :=
  along_iff (fun _ => True) InStep (fun _ _ _ _ _ _ => trivial)
    (fun _ _ _ _ h hstep => harmless_iff h hstep) trivial
    ⟨by simp [State.init], rfl, rfl⟩ hrun

def Answers.granted : Answers :=
  ⟨.none, .success, .success, fun _ => .success, .success, .success⟩

/-- A stop leaves the flag, so that a second stop disconnects without a connection; and a
start refused by `mfr_init` terminates a bus that has never been initialised. -/
theorem lifeCycle_outOfStep :
    (∃ s, run (step ⟨false, false⟩) .init
        [.start .granted, .stop .success .success, .stop .success .success] = some s ∧
      s.isConnected = true ∧ s.bus.connected = false ∧ s.bus.badDisconnect = true) ∧
    ∃ s, run (step ⟨false, false⟩) .init [.start { Answers.granted with mfrInit := .failed }] =
        some s ∧ s.bus.badTerm = true :=
  ⟨⟨_, rfl, rfl, rfl, rfl⟩, ⟨_, rfl, rfl⟩⟩

def Answers.stuck : Answers :=
  { Answers.granted with
    register := fun r => if r = .getConfigData then .oom else .success
    disconnect := .ipccoreFail }

def stuckRun : List Input := [.start .stuck, .stop .ipccoreFail .success, .start .granted]

theorem lifeCycle_inStep_stuckRun :
    ∃ s, run (step ⟨true, true⟩) .init stuckRun = some s ∧ InStep s := by
  have hok : Along (step ⟨true, true⟩) (Harmless ⟨true, true⟩) .init stuckRun := by decide
  exact ⟨_, rfl, (lifeCycle_inStep_iff rfl).mp hok stuckRun _ (List.prefix_refl _) rfl⟩

end IarmMgrs.MfrMgr.LifeCycle
