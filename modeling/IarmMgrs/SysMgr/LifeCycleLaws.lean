import IarmMgrs.SysMgr.LifeCycle

namespace IarmMgrs.SysMgr.LifeCycle

open Lib.Transition Bus States

variable {s s' : State} {a : Input} {answer : BusCall → IarmResult} {p p' : State × History}

inductive StartOutcome (answer : BusCall → IarmResult) (s : State) : State × IarmResult → Prop
  | already (h : s.initialized = true) : StartOutcome answer s (s, .invalidState)
  | refused {err : IarmResult} (h : s.initialized = false) (hlate : ¬ FailsAfterFlag answer)
      (herr : err ≠ .success) :
      StartOutcome answer s ({ s with systemStates := fun _ => .zero }, err)
  | late {err : IarmResult} (h : s.initialized = false) (hlate : FailsAfterFlag answer)
      (herr : err ≠ .success) :
      StartOutcome answer s
        ({ s with initialized := true, systemStates := fun _ => .zero }, err)
  | running (h : s.initialized = false) (hlate : ¬ FailsAfterFlag answer) :
      StartOutcome answer s
        ({ s with initialized := true, systemStates := .start, keyLogStatus := 1 }, .success)

theorem start_outcome (answer : BusCall → IarmResult) (s : State) :
    StartOutcome answer s (start answer s) := by
  unfold start
  split
  · next hinit => exact .already hinit
  · next hinit =>
    rw [Bool.not_eq_true] at hinit
    split
    · next hbefore =>
      refine .refused hinit (fun hlate => hbefore ?_) hbefore
      exact attempt_eq_success.mpr hlate.1
    · next hbefore =>
      rw [not_not, attempt_eq_success] at hbefore
      split
      · next hafter =>
        refine .late hinit ⟨hbefore, ?_⟩ hafter
        simpa only [ne_eq, attempt_eq_success, not_forall, exists_prop] using hafter
      · next hafter =>
        rw [not_not, attempt_eq_success] at hafter
        refine .running hinit ?_
        rintro ⟨-, call, hmem, hne⟩
        exact hne (hafter call hmem)

inductive StopOutcome (s : State) : State × IarmResult → Prop
  | kept {err : IarmResult} (herr : err ≠ .success) : StopOutcome s (s, err)
  | stopped (h : s.initialized = true) :
      StopOutcome s ({ s with initialized := false, mutexDestroyed := true }, .success)

theorem stop_outcome (answer : BusCall → IarmResult) (s : State) :
    StopOutcome s (stop answer s) := by
  unfold stop
  split
  · next hinit =>
    split
    · next hfails => exact .kept hfails
    · exact .stopped hinit
  · exact .kept (by decide)

theorem lastReport_eq_none {q : Property} {es : List Event}
    (h : ∀ e ∈ es, reportOf q e = none) : lastReport q es = none := by
  rw [lastReport, List.filterMap_eq_nil_iff.mpr h]
  rfl

theorem InStep.hdcp (h : InStep p) (hinit : p.1.initialized = true)
    (hnone : ∀ e ∈ p.2.events, reportOf .hdcpEnabled e = none) :
    (p.1.systemStates .hdcpEnabled).state = 1 := by
  have hreports := reports_run p.2.events .hdcpEnabled
  rw [lastReport_eq_none hnone] at hreports
  rw [h.states hinit, hreports]
  rfl

theorem sound_iff : Sound p ↔ InStep p ∧ p.2.lockedDestroyed = false :=
  ⟨fun h => ⟨h.toInStep, h.mutex⟩, fun h => ⟨h.1, h.1.hdcp, h.2⟩⟩

variable {hist : History}

theorem InStep.after_start (h : InStep (s, hist)) :
    InStep ((start answer s).1, hist.record s (.start answer)) ↔
      (s.initialized = false → ¬ FailsAfterFlag answer) := by
  have hflag := h.flag
  have houtcome := start_outcome answer s
  simp only [History.record]
  generalize start answer s = result at houtcome ⊢
  cases houtcome with
  | already hinit => simpa [hinit] using h
  | refused hinit hlate herr =>
    refine iff_of_true ?_ fun _ => hlate
    simp only [if_neg herr]
    exact ⟨hflag, fun ht => absurd ht (by simp [hinit]), fun ht => absurd ht (by simp [hinit])⟩
  | late hinit hlate herr =>
    refine iff_of_false ?_ fun hno => hno hinit hlate
    rintro ⟨hnew, -, -⟩
    rw [if_neg herr] at hnew
    simp [← hflag, hinit] at hnew
  | running hinit hlate =>
    refine iff_of_true ?_ fun _ => hlate
    simp only [if_true]
    exact ⟨by simp, fun _ => rfl, fun _ => rfl⟩

theorem InStep.after_stop (h : InStep (s, hist)) :
    InStep ((stop answer s).1, hist.record s (.stop answer)) := by
  have houtcome := stop_outcome answer s
  simp only [History.record]
  generalize stop answer s = result at houtcome ⊢
  cases houtcome with
  | kept herr => simpa only [if_neg herr] using h
  | stopped hinit => exact ⟨by simp, by simp, by simp⟩

theorem InStep.after_event (h : InStep (s, hist)) (e : Event) :
    InStep ({ s with systemStates := sysEventHandler s.systemStates e },
      { hist with events := hist.events ++ [e] }) where
  flag := h.flag
  states hinit := by rw [List.foldl_concat, h.states hinit]
  keyLog := h.keyLog

theorem InStep.after_pref (h : InStep (s, hist)) (logStatus : Int) :
    InStep ({ s with keyLogStatus := setKeyCodeLoggingPref s.keyLogStatus logStatus },
      { hist with prefs := hist.prefs ++ [logStatus] }) where
  flag := h.flag
  states := h.states
  keyLog hinit := by rw [List.foldl_concat, h.keyLog hinit]

theorem inStep_congr {hist' : History} (hlatest : hist'.latest = hist.latest)
    (hevents : hist'.events = hist.events) (hprefs : hist'.prefs = hist.prefs) :
    InStep (s, hist') ↔ InStep (s, hist) := by
  constructor <;> rintro ⟨hflag, hstates, hkeyLog⟩
  · exact ⟨hlatest ▸ hflag, hevents ▸ hstates, hprefs ▸ hkeyLog⟩
  · exact ⟨hlatest ▸ hflag, hevents ▸ hstates, hprefs ▸ hkeyLog⟩

theorem orderly_iff (h : Sound p) (hstep : observe p a = some p') :
    Orderly p a ↔ Sound p' := by
  obtain ⟨s, hist⟩ := p
  obtain ⟨s', hist'⟩ := p'
  obtain ⟨hs, rfl⟩ := observed_some.mp hstep
  have hin := h.toInStep
  have hlocked : hist.lockedDestroyed = false := h.mutex
  have hmutex : (hist.note s a).lockedDestroyed = false ↔
      (s.mutexDestroyed = true → locks a = false) := by
    simp [History.note, hlocked]
  have hrecord : InStep (s', hist.note s a) ↔ InStep (s', hist.record s a) :=
    inStep_congr rfl rfl rfl
  rw [sound_iff, hmutex, hrecord, and_comm]
  refine and_congr_right fun _ => ?_
  cases a with
  | start answer =>
    obtain rfl := Option.some.inj hs
    exact hin.after_start.symm
  | stop answer =>
    obtain rfl := Option.some.inj hs
    exact iff_of_true trivial hin.after_stop
  | event e =>
    obtain rfl := Option.some.inj hs
    exact iff_of_true trivial (hin.after_event e)
  | getSystemStates =>
    obtain rfl := Option.some.inj hs
    exact iff_of_true trivial hin
  | setKeyCodeLoggingPref logStatus =>
    obtain rfl := Option.some.inj hs
    exact iff_of_true trivial (hin.after_pref logStatus)

theorem sound_init : Sound observeInit := by
  refine sound_iff.mpr ⟨⟨?_, ?_, ?_⟩, rfl⟩
  · simp [observeInit, State.init, History.init]
  · intro hinit
    cases hinit
  · intro hinit
    cases hinit

/-- Every state of a run is sound exactly if no start fails after the flag and nothing takes
the mutex after a successful stop. -/
theorem lifeCycle_sound_iff {as : List Input} (hrun : run observe observeInit as = some p) :
    Along observe Orderly observeInit as ↔
      ∀ pre q, pre <+: as → run observe observeInit pre = some q → Sound q :=
  along_iff (fun _ => True) Sound (fun _ _ _ _ _ _ => trivial)
    (fun _ _ _ _ h hstep => orderly_iff h hstep) trivial sound_init hrun

def granted : BusCall → IarmResult := fun _ => .success

def profileRefused : BusCall → IarmResult
  | .setHDCPProfile => .oom
  | _ => .success

/-- A start refused after the flag can not be retried, and a start after a stop takes the
destroyed mutex. -/
theorem lifeCycle_unsound :
    (∃ p, run observe observeInit [.start profileRefused] = some p ∧ p.1.initialized = true ∧
      p.2.latest = none ∧ (p.1.systemStates .hdcpEnabled).state = 0 ∧
      (start granted p.1).2 = .invalidState) ∧
    ∃ p, run observe observeInit [.start granted, .stop granted, .start granted] = some p ∧
      p.2.lockedDestroyed = true :=
  ⟨⟨_, rfl, rfl, rfl, rfl, rfl⟩, ⟨_, rfl, rfl⟩⟩

def servedRun : List Input := [.start granted, .getSystemStates, .stop granted]

theorem lifeCycle_sound_servedRun :
    ∃ p, run observe observeInit servedRun = some p ∧ p.2.latest = some .stop ∧ Sound p := by
  have hok : Along observe Orderly observeInit servedRun := by decide
  exact ⟨_, rfl, rfl, (lifeCycle_sound_iff rfl).mp hok servedRun _ (List.prefix_refl _) rfl⟩

end IarmMgrs.SysMgr.LifeCycle
