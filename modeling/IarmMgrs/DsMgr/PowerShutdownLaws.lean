import IarmMgrs.DsMgr.PowerShutdown

namespace IarmMgrs.DsMgr.PowerShutdown

open Lib Lib.Transition
open PowerEvents (PowerState HandlerPc)
open AvPorts (UxController)

variable {ux : Option UxController} {s s' : State} {act : Action} {p p' : State × Bool}

inductive QueueStep (s s' : StartUp.State) : StartUp.Action → Prop
  | apart {act : StartUp.Action} (hevents : s'.events = s.events) (huses : uses s act = [])
      (hback : callsBack s act = false) : QueueStep s s' act
  | callback {newState : PowerState} {pwrEvent : PowerEvents.DSMgrPowerEventState}
      (hevents : s'.events = PowerEvents.emplaceEvent pwrEvent s.events)
      (hback : callsBack s (.change newState) = true) : QueueStep s s' (.change newState)
  | thread {act : PowerEvents.Action} (hact : StartUp.isThreadAction act = true)
      (hstep : PowerEvents.step s.events act = some s'.events) : QueueStep s s' (.events act)

theorem queueStep {s s' : StartUp.State} {act : StartUp.Action}
    (h : StartUp.step ux s act = some s') : QueueStep s s' act := by
  cases act with
  | registerCallback | getPowerStateBeforeReboot answer | applyPostReboot =>
    obtain ⟨-, rfl⟩ := of_guard h
    exact .apart rfl rfl rfl
  | getPowerState succeeds =>
    obtain ⟨-, rfl⟩ := of_guard h
    refine .apart ?_ rfl rfl
    cases succeeds <;> rfl
  | change newState =>
    obtain rfl := Option.some.inj h
    simp only [StartUp.change]
    split
    · next hconn => exact .apart rfl (if_pos hconn) (by simp [callsBack, hconn])
    · next hconn => exact .callback rfl (by simpa [callsBack] using hconn)
  | events act =>
    obtain ⟨hact, h⟩ := Option.ite_none_right_eq_some.mp h
    obtain ⟨e, he, rfl⟩ := Option.map_eq_some_iff.mp h
    refine .thread hact ?_
    cases act <;> exact he

theorem threadAction_kept {e e' : PowerEvents.State} {act : PowerEvents.Action}
    (hact : StartUp.isThreadAction act = true) (h : PowerEvents.step e act = some e') :
    e'.deinit = e.deinit ∧ e'.signalling ≤ e.signalling := by
  cases PowerEvents.step_parts h with
  | emplace | stop | join | clear => cases hact
  | signal => exact ⟨rfl, Nat.sub_le _ _⟩
  | thread | take | handled => exact ⟨rfl, Nat.le_refl _⟩

theorem signal_of_exited {e e' : PowerEvents.State} {act : PowerEvents.Action}
    (hexited : e.thread = .running .exited) (hact : StartUp.isThreadAction act = true)
    (h : PowerEvents.step e act = some e') : act = .signal ∧ 0 < e.signalling := by
  cases act with
  | emplace | stop | join | clear => cases hact
  | signal => exact ⟨rfl, (of_guard h).1.1⟩
  | lockEventMutex | spuriousWakeup | readQueueEmpty | takeEvent =>
    simp [PowerEvents.step, hexited] at h
  | decide | handled => simp [PowerEvents.step, hexited] at h

/-- The primitives are destroyed in order, once the handler thread has been joined. -/
structure Inv (p : State × Bool) : Prop where
  events : PowerEvents.Inv p.1.startUp.events
  order : p.1.alive = allPrimitives ∨
    .eventCond ∉ p.1.alive ∧ p.1.startUp.events.deinit = .cleared

structure Unharmed (p : State × Bool) : Prop where
  unused : p.2 = false
  drained : .eventCond ∉ p.1.alive → p.1.startUp.events.signalling = 0

theorem Inv.init (powerState : PowerState) : Inv (observeInit powerState) :=
  ⟨PowerEvents.Inv.init, .inl rfl⟩

theorem Unharmed.init (powerState : PowerState) : Unharmed (observeInit powerState) :=
  ⟨rfl, fun _ => rfl⟩

theorem deinit_some {act : PowerEvents.Action} (h : deinit s act = some s') :
    PowerEvents.step s.startUp.events act = some s'.startUp.events ∧ s'.alive = s.alive := by
  obtain ⟨e, he, rfl⟩ := Option.map_eq_some_iff.mp h
  exact ⟨he, rfl⟩

theorem deinit_open {act : PowerEvents.Action} (hact : act = .stop ∨ act = .join ∨ act = .clear)
    (h : deinit s act = some s') : s.startUp.events.deinit ≠ .cleared := by
  obtain ⟨h, -⟩ := deinit_some h
  intro hcleared
  rcases hact with rfl | rfl | rfl <;> simp [PowerEvents.step, hcleared] at h

theorem startUp_some {act : StartUp.Action} (h : step ux s (.startUp act) = some s') :
    StartUp.step ux s.startUp act = some s'.startUp ∧ s'.alive = s.alive := by
  simp only [step] at h
  split at h
  · cases h
  · obtain ⟨startUp, hstartUp, rfl⟩ := Option.map_eq_some_iff.mp h
    exact ⟨hstartUp, rfl⟩

theorem QueueStep.inv {s s' : StartUp.State} {act : StartUp.Action} (h : QueueStep s s' act)
    (hinv : PowerEvents.Inv s.events) :
    PowerEvents.Inv s'.events ∧ s'.events.deinit = s.events.deinit := by
  cases h with
  | apart hevents => exact ⟨hevents ▸ hinv, by rw [hevents]⟩
  | callback hevents => exact ⟨hevents ▸ hinv.emplaceEvent _, by rw [hevents]; rfl⟩
  | thread hact hstep => exact ⟨hinv.step hstep, (threadAction_kept hact hstep).1⟩

theorem Inv.after_deinit {act : PowerEvents.Action} (h : Inv p)
    (hact : act = .stop ∨ act = .join ∨ act = .clear) (hs : deinit p.1 act = some p'.1) :
    Inv p' := by
  obtain ⟨hevents, halive⟩ := deinit_some hs
  have hall : p.1.alive = allPrimitives :=
    h.order.resolve_right fun hcleared => deinit_open hact hs hcleared.2
  exact ⟨h.events.step hevents, .inl (halive.trans hall)⟩

/-- The condition variable is the first to go. -/
theorem Inv.eventCond_tail (h : Inv p) : .eventCond ∉ p.1.alive.tail := by
  rcases h.order with hall | ⟨hgone, -⟩
  · rw [hall]
    decide
  · exact fun hmem => hgone (List.mem_of_mem_tail hmem)

theorem Inv.step (h : Inv p) (hstep : observe ux p act = some p') : Inv p' := by
  obtain ⟨s, misused⟩ := p
  obtain ⟨s', misused'⟩ := p'
  obtain ⟨hs, -⟩ := observed_some.mp hstep
  cases act with
  | startUp act =>
    obtain ⟨hstartUp, halive⟩ := startUp_some hs
    obtain ⟨hevents, hdeinit⟩ := (queueStep hstartUp).inv h.events
    exact ⟨hevents, by rw [halive, hdeinit]; exact h.order⟩
  | stop => exact h.after_deinit (.inl rfl) hs
  | join => exact h.after_deinit (.inr (.inl rfl)) hs
  | clear => exact h.after_deinit (.inr (.inr rfl)) hs
  | destroy =>
    obtain ⟨⟨hcleared, -⟩, rfl⟩ := of_guard hs
    exact ⟨h.events, .inr ⟨h.eventCond_tail, hcleared⟩⟩
  | term =>
    obtain ⟨-, rfl⟩ := of_guard hs
    exact ⟨h.events, h.order⟩

theorem uses_alive (startUp : StartUp.State) (act : StartUp.Action) :
    (uses startUp act).any (· ∉ allPrimitives) = false := by
  have hall : ∀ primitive, primitive ∈ allPrimitives := by
    intro primitive
    cases primitive <;> decide
  simp [hall]

theorem Unharmed.startUp_iff {s s' : State} {misused : Bool} {act : StartUp.Action}
    (hinv : Inv (s, misused)) (h : Unharmed (s, misused))
    (hs : step ux s (.startUp act) = some s') :
    Drained (s, misused) (.startUp act) ↔ Unharmed (s', note s (.startUp act) misused) := by
  obtain ⟨hstartUp, halive⟩ := startUp_some hs
  have hmisused : misused = false := h.unused
  rcases hinv.order with hall | ⟨hgone, hcleared⟩
  · -- Everything is still there.
    have hall : s.alive = allPrimitives := hall
    have hmem : Primitive.eventCond ∈ s.alive := hall ▸ List.mem_cons_self
    refine iff_of_true (fun _ => hmem) ⟨?_, fun hno => absurd (halive ▸ hmem) hno⟩
    simp only [note, hmisused, hall, uses_alive, Bool.or_self]
  · have hquiet : s.startUp.events.signalling = 0 := h.drained hgone
    have hexited := hinv.events.joined (.inr hcleared)
    cases queueStep hstartUp with
    | apart hevents huses hback =>
      refine iff_of_true (fun hcalls => ?_) ⟨?_, fun _ => ?_⟩
      · rw [hback] at hcalls
        cases hcalls
      · simp [note, hmisused, huses]
      · simp only [hevents, hquiet]
    | callback hevents hback =>
      refine iff_of_false (fun hdrained => hgone (hdrained hback)) fun hsafe => ?_
      have hnew := hsafe.drained (halive ▸ hgone)
      simp [hevents, PowerEvents.emplaceEvent] at hnew
    | thread hact hstep =>
      obtain ⟨-, hpos⟩ := signal_of_exited hexited hact hstep
      exact absurd hquiet (Nat.ne_of_gt hpos)

theorem drained_iff (hinv : Inv p) (h : Unharmed p) (hstep : observe ux p act = some p') :
    Drained p act ↔ Unharmed p' := by
  obtain ⟨s, misused⟩ := p
  obtain ⟨s', misused'⟩ := p'
  obtain ⟨hs, hnote⟩ := observed_some.mp hstep
  obtain rfl : misused' = _ := hnote
  have hdeinit {act : PowerEvents.Action} (hact : act = .stop ∨ act = .join ∨ act = .clear)
      (hs : deinit s act = some s') : Unharmed (s', misused) := by
    refine ⟨h.unused, fun hno => ?_⟩
    have hgone := (deinit_some hs).2 ▸ hno
    have hcleared := hinv.order.resolve_left fun hall => hgone (hall ▸ List.mem_cons_self)
    exact absurd hcleared.2 (deinit_open hact hs)
  cases act with
  | startUp act => exact h.startUp_iff hinv hs
  | stop => exact iff_of_true trivial (hdeinit (.inl rfl) hs)
  | join => exact iff_of_true trivial (hdeinit (.inr (.inl rfl)) hs)
  | clear => exact iff_of_true trivial (hdeinit (.inr (.inr rfl)) hs)
  | destroy =>
    obtain ⟨-, rfl⟩ := of_guard hs
    constructor
    · refine fun hdrained => ⟨h.unused, fun _ => ?_⟩
      by_cases hmem : Primitive.eventCond ∈ s.alive
      · exact hdrained hmem
      · exact h.drained hmem
    · exact fun hsafe _ => hsafe.drained hinv.eventCond_tail
  | term =>
    obtain ⟨-, rfl⟩ := of_guard hs
    exact iff_of_true trivial ⟨h.unused, h.drained⟩

theorem signal_enabled (hinv : Inv p) (hgone : .eventCond ∉ p.1.alive)
    (hpos : 0 < p.1.startUp.events.signalling) : ∃ s', observe ux p signal = some (s', true) := by
  obtain ⟨s, misused⟩ := p
  have hcleared := hinv.order.resolve_left fun hall => hgone (hall ▸ List.mem_cons_self)
  have hexited : s.startUp.events.thread = .running .exited :=
    hinv.events.joined (.inr hcleared.2)
  have hevents : ∃ e, PowerEvents.step s.startUp.events .signal = some e :=
    ⟨_, if_pos ⟨hpos, by rw [hexited]; rfl⟩⟩
  obtain ⟨e, he⟩ := hevents
  have hstartUp : StartUp.step ux s.startUp (.events .signal) =
      some { s.startUp with events := e } := by
    simp only [StartUp.step, StartUp.isThreadAction, if_true, StartUp.threadStep, he,
      Option.map_some]
  have hstep : step ux s signal = some { s with startUp := { s.startUp with events := e } } := by
    simp [step, signal, callsBack, hstartUp]
  have hgone : Primitive.eventCond ∉ s.alive := hgone
  refine ⟨_, observed_some.mpr ⟨hstep, ?_⟩⟩
  simp [note, signal, uses, hgone]

theorem Unharmed.signals (hinv : Inv p) (h : Unharmed p) {n : Nat} {q : State × Bool}
    (hrun : run (observe ux) p (List.replicate n signal) = some q) : q.2 = false := by
  induction n generalizing p with
  | zero =>
    obtain rfl := Option.some.inj hrun
    exact h.unused
  | succ n ih =>
    obtain ⟨r, hr, hrun⟩ := run_cons.mp hrun
    exact ih (hinv.step hr) ((drained_iff hinv h hr).mp fun hback => nomatch hback) hrun

/-- A state is unharmed exactly if the callbacks under way can finish. -/
theorem unharmed_iff (ux : Option UxController) (hinv : Inv p) :
    Unharmed p ↔ ∀ n q, run (observe ux) p (List.replicate n signal) = some q → q.2 = false := by
  constructor
  · exact fun h n q hrun => h.signals hinv hrun
  · refine fun hall => ⟨hall 0 p rfl, fun hgone => Nat.eq_zero_of_not_pos fun hpos => ?_⟩
    obtain ⟨s', hs⟩ := signal_enabled hinv hgone hpos
    exact absurd (hall 1 _ (run_cons.mpr ⟨_, hs, rfl⟩)) (by simp)

/-- No primitive is used after its end, neither in a run nor by the callbacks it leaves under
way, exactly if none is under way when the first primitive goes and none begins after that. -/
theorem shutdown_safe_iff {powerState : PowerState} {as : List Action}
    (hrun : run (observe ux) (observeInit powerState) as = some p) :
    Along (observe ux) Drained (observeInit powerState) as ↔
      ∀ pre n q, pre <+: as →
        run (observe ux) (observeInit powerState) (pre ++ List.replicate n signal) = some q →
          q.2 = false := by
  have hreach {pre q} (hpre : run (observe ux) (observeInit powerState) pre = some q) : Inv q :=
    run_invariant Inv (fun _ _ _ hinv hstep => hinv.step hstep) (Inv.init powerState) hpre
  rw [along_iff Inv Unharmed (fun _ _ _ hinv _ hstep => hinv.step hstep)
    (fun _ _ _ hinv h hstep => drained_iff hinv h hstep) (Inv.init powerState)
    (Unharmed.init powerState) hrun]
  constructor
  · intro hall pre n q hpre hq
    obtain ⟨r, hr, hq⟩ := run_append.mp hq
    exact (hall pre r hpre hr).signals (hreach hr) hq
  · intro hall pre q hpre hq
    exact (unharmed_iff ux (hreach hq)).mpr fun n r hr =>
      hall pre n r hpre (run_append.mpr ⟨q, hq, hr⟩)

def destroyedRun : List Action :=
  [.startUp .registerCallback, .stop, .startUp (.events .lockEventMutex),
    .startUp (.events .readQueueEmpty), .startUp (.events .decide), .join, .clear, .destroy,
    .destroy, .destroy]

theorem shutdown_unsafe :
    ∃ p, run (observe none) (observeInit .standby) (destroyedRun ++ [.startUp (.change .on)]) =
        some p ∧ p.1.termed = false ∧ p.1.alive = [] ∧ p.2 = true :=
  ⟨_, rfl, rfl, rfl, rfl⟩

def drainedRun : List Action :=
  [.startUp .registerCallback, .startUp (.change .on), signal, .stop,
    .startUp (.events .lockEventMutex), .startUp (.events .readQueueEmpty),
    .startUp (.events .decide), .join, .clear, .destroy, .destroy, .destroy, .term]

theorem shutdown_safe_drainedRun :
    ∃ p, run (observe none) (observeInit .standby) drainedRun = some p ∧ p.2 = false := by
  have hok : Along (observe none) Drained (observeInit .standby) drainedRun := by decide
  exact ⟨_, rfl, (shutdown_safe_iff rfl).mp hok drainedRun 0 _ (List.prefix_refl _) rfl⟩

end IarmMgrs.DsMgr.PowerShutdown
