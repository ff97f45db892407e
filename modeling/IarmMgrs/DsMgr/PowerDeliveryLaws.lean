import IarmMgrs.DsMgr.PowerDelivery
import IarmMgrs.DsMgr.PowerEventsDrain
import IarmMgrs.DsMgr.ProductTraitsLaws

namespace IarmMgrs.DsMgr.PowerDelivery

open Lib Lib.Transition
open PowerEvents (PowerState DSMgrPowerEventState inHand)
open ProductTraits (dsMgrHandlePwrEventData applyPowerStateChangeConfig
  syncDisplayPortsWithPowerState syncPowerLedWithPowerState)

variable {ledSync success : Bool} {s s' t : State} {d d' : ProductTraits.State}
  {q q' : PowerEvents.State}

theorem setBootloaderPattern_same (ux : AvPorts.UxController) (pattern : BootPattern.Pattern)
    (success : Bool) (d : ProductTraits.State) :
    (ProductTraits.setBootloaderPattern ux success pattern d).1.connected = d.connected ∧
      (ProductTraits.setBootloaderPattern ux success pattern d).1.ux = d.ux := by
  unfold ProductTraits.setBootloaderPattern ProductTraits.setBootloaderPatternRpc
  split_ifs <;> exact ⟨rfl, rfl⟩

theorem applyPowerStateChangeConfig_connected (ux : AvPorts.UxController)
    (newState prevState : PowerState) (success : Bool) (d : ProductTraits.State) :
    (applyPowerStateChangeConfig ux success newState prevState d).1.connected = d.connected := by
  cases ux with
  | tvEu => exact (setBootloaderPattern_same .tvEu _ success d).1
  | stbEu => rfl
  | tv =>
    refine (setBootloaderPattern_same .tv _ success _).1.trans ?_
    split <;> rfl
  | stb => rfl

theorem handle_connected (currentState newState : PowerState) :
    (dsMgrHandlePwrEventData ledSync currentState newState success d).connected = d.connected := by
  simp only [dsMgrHandlePwrEventData]
  cases d.ux with
  | none => cases ledSync <;> rfl
  | some ux => exact applyPowerStateChangeConfig_connected ux newState currentState success _

theorem handle_shows (currentState newState : PowerState) :
    Shows newState (dsMgrHandlePwrEventData ledSync currentState newState success d) := by
  simp only [dsMgrHandlePwrEventData]
  cases d.ux with
  | none =>
    refine ⟨rfl, fun hbox => absurd hbox ?_⟩
    cases ledSync <;> simp [syncDisplayPortsWithPowerState, ProductTraits.setLEDStatus]
  | some ux =>
    cases ux with
    | tvEu =>
      refine ⟨rfl, fun hbox => absurd hbox ?_⟩
      simp [applyPowerStateChangeConfig, syncDisplayPortsWithPowerState,
        setBootloaderPattern_same]
    | tv =>
      refine ⟨rfl, fun hbox => absurd hbox ?_⟩
      simp only [applyPowerStateChangeConfig, syncDisplayPortsWithPowerState,
        setBootloaderPattern_same]
      split <;> simp
    | stbEu =>
      refine ⟨rfl, fun _ => ?_⟩
      by_cases hon : newState = .on <;> simp [applyPowerStateChangeConfig,
        syncDisplayPortsWithPowerState, syncPowerLedWithPowerState, ProductTraits.traits,
        ProductTraits.initializeSafeDefaults, hon]
    | stb =>
      refine ⟨rfl, fun _ => ?_⟩
      by_cases hon : newState = .on <;> simp [applyPowerStateChangeConfig,
        syncDisplayPortsWithPowerState, syncPowerLedWithPowerState, ProductTraits.traits,
        ProductTraits.initializeSafeDefaults, hon]

theorem setBootloaderPatternAsync_connected (ux : AvPorts.UxController)
    (pattern : BootPattern.Pattern) (n : Nat) :
    (ProductTraits.setBootloaderPatternAsync ux success pattern n d).connected = d.connected := by
  unfold ProductTraits.setBootloaderPatternAsync ProductTraits.setBootloaderPatternRpc
  split_ifs <;> first | rfl | (simp only; split <;> rfl)

theorem applyPreMaintenanceRebootConfig_connected (ux : AvPorts.UxController)
    (powerState : PowerState) :
    (ProductTraits.applyPreMaintenanceRebootConfig ux success powerState d).1.connected =
      d.connected := by
  cases ux with
  | stb => rfl
  | tvEu | stbEu | tv =>
    simp only [ProductTraits.applyPreMaintenanceRebootConfig]
    split
    · exact (setBootloaderPattern_same _ _ success d).1
    · rfl

theorem setRebootConfig_connected (arg : Option ProductTraits.RebootConfigParam) :
    (ProductTraits.setRebootConfig arg success d).1.connected = d.connected := by
  unfold ProductTraits.setRebootConfig
  split
  · rfl
  · split
    · rfl
    · simp only
      split
      · split
        · exact applyPreMaintenanceRebootConfig_connected _ _
        · rfl
      · rfl

theorem call_connected {act : ProductTraits.Action} (hcall : isCall act = true)
    (h : ProductTraits.step ledSync d act = some d') : d'.connected = d.connected := by
  cases act with
  | connect | powerEvent => cases hcall
  | setAvPortState arg =>
    obtain rfl := Option.some.inj h
    unfold ProductTraits.setAvPortState
    split
    · rfl
    · simp only
      split <;> rfl
  | setLEDState arg =>
    obtain rfl := Option.some.inj h
    unfold ProductTraits.setLEDState
    split
    · rfl
    · simp only
      split <;> rfl
  | setRebootConfig arg success =>
    obtain rfl := Option.some.inj h
    exact setRebootConfig_connected arg
  | retry success =>
    simp only [ProductTraits.step] at h
    split at h
    · obtain rfl := Option.some.inj h
      exact setBootloaderPatternAsync_connected _ _ _
    · cases h

theorem queue_cases {act : PowerEvents.Action} (h : PowerEvents.step q act = some q') :
    (∃ pwrEvent, act = .handled ∧ inHand q.thread = some pwrEvent ∧
      q'.handled = q.handled ++ [pwrEvent]) ∨ (act ≠ .handled ∧ q'.handled = q.handled) := by
  cases PowerEvents.step_parts h with
  | emplace | signal | take | stop | join | clear => exact .inr ⟨nofun, rfl⟩
  | thread hact => exact .inr ⟨hact, rfl⟩
  | @handled pwrEvent hw => exact .inl ⟨pwrEvent, rfl, by rw [hw]; rfl, rfl⟩

/-- Either an event is applied, or the device is as it was. -/
theorem step_queue {act : PowerEvents.Action} (h : step ledSync s (.queue act success) = some s') :
    PowerEvents.step s.queue act = some s'.queue ∧
      ((∃ pwrEvent, s'.queue.handled = s.queue.handled ++ [pwrEvent] ∧
        s'.device = dsMgrHandlePwrEventData ledSync pwrEvent.currentState pwrEvent.newState success
          s.device) ∨
        (s'.queue.handled = s.queue.handled ∧ s'.device = s.device)) := by
  obtain ⟨queue, hqueue, rfl⟩ := Option.map_eq_some_iff.mp h
  refine ⟨hqueue, ?_⟩
  obtain ⟨pwrEvent, rfl, hhand, hhandled⟩ | ⟨hact, hhandled⟩ := queue_cases hqueue
  · refine .inl ⟨pwrEvent, hhandled, ?_⟩
    simp only [applyEvent, hhand]
  · refine .inr ⟨hhandled, ?_⟩
    cases act with
    | handled => exact absurd rfl hact
    | _ => rfl

theorem step_call {act : ProductTraits.Action} (h : step ledSync s (.call act) = some s') :
    isCall act = true ∧ s'.queue = s.queue ∧
      ProductTraits.step ledSync s.device act = some s'.device := by
  simp only [step] at h
  split at h
  · next hcall =>
    obtain ⟨device, hdevice, rfl⟩ := Option.map_eq_some_iff.mp h
    exact ⟨hcall, rfl, hdevice⟩
  · cases h

def Sequential (ledSync : Bool) (d : ProductTraits.State) (s : State) : Prop :=
  ∃ cs, run (ProductTraits.step ledSync) d cs = some s.device ∧
    cs.filterMap eventOf = s.queue.handled

theorem eventOf_call {act : ProductTraits.Action} (h : isCall act = true) : eventOf act = none := by
  cases act <;> first | rfl | cases h

theorem sequential_step {act : Action} (hconnected : s.device.connected = true)
    (hs : Sequential ledSync d s) (h : step ledSync s act = some s') :
    s'.device.connected = true ∧ Sequential ledSync d s' := by
  obtain ⟨cs, hcs, hevents⟩ := hs
  cases act with
  | queue act success =>
    obtain ⟨-, ⟨pwrEvent, hhandled, hdevice⟩ | ⟨hhandled, hdevice⟩⟩ := step_queue h
    · refine ⟨hdevice ▸ (handle_connected _ _).trans hconnected,
        cs ++ [.powerEvent pwrEvent.currentState pwrEvent.newState success], ?_, ?_⟩
      · refine run_append.mpr ⟨_, hcs, run_cons.mpr ⟨_, ?_, rfl⟩⟩
        rw [ProductTraits.step, if_pos hconnected, hdevice]
      · rw [List.filterMap_append, hevents, hhandled]
        rfl
    · exact ⟨hdevice ▸ hconnected, cs, hdevice ▸ hcs, hhandled ▸ hevents⟩
  | call act =>
    obtain ⟨hcall, hqueue, hdevice⟩ := step_call h
    refine ⟨(call_connected hcall hdevice).trans hconnected, cs ++ [act],
      run_append.mpr ⟨_, hcs, run_cons.mpr ⟨_, hdevice, rfl⟩⟩, ?_⟩
    rw [List.filterMap_append, hevents, hqueue, List.filterMap_cons_none (eventOf_call hcall),
      List.filterMap_nil, List.append_nil]

theorem run_sequential {as : List Action} (hconnected : d.connected = true)
    (h : run (step ledSync) ⟨.init, d⟩ as = some s) : Sequential ledSync d s :=
  (run_invariant (fun s : State => s.device.connected = true ∧ Sequential ledSync d s)
    (fun _ _ _ hs hstep => sequential_step hs.1 hs.2 hstep) ⟨hconnected, [], rfl, rfl⟩ h).2

section Alone

variable {act : Action} {as bs : List Action}

def Action.ofThread (act : Action) : Bool := act.ofQueue.any PowerEvents.Action.ofThread

theorem ofThread_queue (h : act.ofThread = true) :
    ∃ a success, act = .queue a success ∧ a.ofThread = true := by
  cases act with
  | queue a success => exact ⟨a, success, rfl, h⟩
  | call a => cases h

theorem run_queue (h : run (step ledSync) s as = some s') :
    run PowerEvents.step s.queue (as.filterMap Action.ofQueue) = some s'.queue := by
  induction as generalizing s with
  | nil =>
    obtain rfl := Option.some.inj h
    rfl
  | cons act as ih =>
    obtain ⟨t, ht, hrun⟩ := run_cons.mp h
    cases act with
    | queue act success =>
      rw [List.filterMap_cons_some (rfl : Action.ofQueue (.queue act success) = some act)]
      exact run_cons.mpr ⟨t.queue, (step_queue ht).1, ih hrun⟩
    | call act =>
      rw [List.filterMap_cons_none (rfl : Action.ofQueue (.call act) = none),
        ← (step_call ht).2.1]
      exact ih hrun

theorem own_queue (hown : ∀ b ∈ bs, b.ofThread = true) :
    (∀ b ∈ bs.filterMap Action.ofQueue, b.ofThread = true) ∧
      (bs.filterMap Action.ofQueue).length = bs.length := by
  induction bs with
  | nil => simp
  | cons b bs ih =>
    obtain ⟨hb, hbs⟩ := List.forall_mem_cons.mp hown
    obtain ⟨a, success, rfl, ha⟩ := ofThread_queue hb
    rw [List.filterMap_cons_some (rfl : Action.ofQueue (.queue a success) = some a)]
    exact ⟨List.forall_mem_cons.mpr ⟨ha, (ih hbs).1⟩, congrArg Nat.succ (ih hbs).2⟩

theorem atRest_queue (h : AtRest (step ledSync) Action.ofThread s) :
    AtRest PowerEvents.step PowerEvents.Action.ofThread s.queue := fun act hown =>
  Option.map_eq_none_iff.mp (h (.queue act true) hown)

/-- What the queue can do, the whole can. -/
theorem exists_run {as : List PowerEvents.Action} (hown : ∀ a ∈ as, a.ofThread = true)
    (h : run PowerEvents.step s.queue as = some q) :
    ∃ bs t, (∀ b ∈ bs, b.ofThread = true) ∧ run (step ledSync) s bs = some t ∧ t.queue = q := by
  induction as generalizing s with
  | nil =>
    obtain rfl := Option.some.inj h
    exact ⟨[], s, by simp, rfl, rfl⟩
  | cons a as ih =>
    obtain ⟨r, hr, hrun⟩ := run_cons.mp h
    obtain ⟨ha, has⟩ := List.forall_mem_cons.mp hown
    obtain ⟨bs, t, hbs, ht, hq⟩ := ih (s := ⟨r, applyEvent ledSync a true s⟩) has hrun
    refine ⟨.queue a true :: bs, t, List.forall_mem_cons.mpr ⟨ha, hbs⟩,
      run_cons.mpr ⟨_, ?_, ht⟩, hq⟩
    rw [step, hr, Option.map_some]

theorem exists_atRest (hsound : PowerEvents.Sound s.queue) :
    ∃ bs t, (∀ b ∈ bs, b.ofThread = true) ∧ run (step ledSync) s bs = some t ∧
      AtRest (step ledSync) Action.ofThread t := by
  obtain ⟨as, q, has, hrun, hrest⟩ := PowerEvents.progress.exists_atRest hsound
  obtain ⟨bs, t, hbs, ht, rfl⟩ := exists_run has hrun
  refine ⟨bs, t, hbs, ht, fun act hown => ?_⟩
  obtain ⟨a, success, rfl, ha⟩ := ofThread_queue hown
  rw [step, hrest a ha, Option.map_none]

theorem run_applies (hown : ∀ b ∈ bs, b.ofThread = true)
    (h : run (step ledSync) s bs = some s') : ∃ evs, Applies evs s s' := by
  induction bs generalizing s with
  | nil =>
    obtain rfl := Option.some.inj h
    exact ⟨[], (List.append_nil _).symm, nofun, fun _ => rfl⟩
  | cons b bs ih =>
    obtain ⟨t, ht, hrun⟩ := run_cons.mp h
    obtain ⟨hb, hbs⟩ := List.forall_mem_cons.mp hown
    obtain ⟨a, success, rfl, -⟩ := ofThread_queue hb
    obtain ⟨evs, hevs⟩ := ih hbs hrun
    obtain ⟨-, ⟨pwrEvent, hhandled, hdevice⟩ | ⟨hhandled, hdevice⟩⟩ := step_queue ht
    · refine ⟨pwrEvent :: evs, ?_, fun last hlast => ?_, nofun⟩
      · rw [hevs.handled, hhandled, List.append_assoc, List.singleton_append]
      · cases evs with
        | nil =>
          obtain rfl := Option.some.inj hlast
          rw [hevs.idle rfl, hdevice]
          exact handle_shows _ _
        | cons ev evs => exact hevs.shows_last last (List.getLast?_cons_cons ▸ hlast)
    · exact ⟨evs, hhandled ▸ hevs.handled, hevs.shows_last,
        fun hnone => (hevs.idle hnone).trans hdevice⟩

end Alone

/-- In every interleaving of the callbacks, the handler thread, the retry thread and calls taken
whole, the device is in a state that the calls and the handled events lead to one after another;
and left alone, with no callback in the middle, the handler thread comes to rest after `todo` steps
at most, with every event that is left applied in order, so that the ports, and the LED of a box,
show the last of them. -/
theorem powerEvents_delivered {as : List Action} (hconnected : d.connected = true)
    (hrun : run (step ledSync) ⟨.init, d⟩ as = some s) :
    Sequential ledSync d s ∧
      (s.queue.dsMgrPwrStopThread = false → s.queue.signalling = 0 →
        (∃ bs t, (∀ b ∈ bs, b.ofThread = true) ∧ run (step ledSync) s bs = some t ∧
          AtRest (step ledSync) Action.ofThread t) ∧
        ∀ bs t, (∀ b ∈ bs, b.ofThread = true) → run (step ledSync) s bs = some t →
          bs.length ≤ s.queue.todo ∧ (AtRest (step ledSync) Action.ofThread t →
            Applies (pending s.queue) s t ∧ t.queue.handled = s.queue.accepted)) := by
  have hqueue := run_queue hrun
  have hsound := PowerEvents.run_sound .init hqueue
  refine ⟨run_sequential hconnected hrun, fun hopen hnone =>
    ⟨exists_atRest hsound, fun bs t hown hbs => ?_⟩⟩
  obtain ⟨hown', hlength⟩ := own_queue hown
  have hqueue' := run_queue hbs
  refine ⟨?_, fun hrest => ?_⟩
  · have hle := PowerEvents.progress.length_le hsound hown' hqueue'
    omega
  · have hdrained := PowerEvents.drained hqueue hown' hqueue' (atRest_queue hrest)
    have hhandled : t.queue.handled = s.queue.accepted := (hdrained.running hopen).2.2.2 hnone
    obtain ⟨evs, hevs⟩ := run_applies hown hbs
    have hpending : evs = pending s.queue := by
      have hlost : s.queue.lost = [] := by
        refine hsound.1.lost fun hcleared => ?_
        have hclosed := hsound.2.stop.mpr (by simp [hcleared])
        exact absurd hclosed (by simp [hopen])
      obtain ⟨-, hbalanced⟩ := PowerEvents.run_mailbox hqueue
      have hkept : s.queue.accepted = s.queue.handled ++ pending s.queue := by
        simpa [Mailbox.Balanced, PowerEvents.State.mailbox, Function.comp_def, hlost, pending]
          using hbalanced
      exact List.append_cancel_left (hevs.handled.symm.trans (hhandled.trans hkept))
    exact ⟨hpending ▸ hevs, hhandled⟩

def wakeRun : List Action :=
  [.queue (.emplace ⟨.standby, .on⟩) true, .queue .signal true, .queue .lockEventMutex true,
    .call (.setLEDState (some .standby)), .queue .readQueueEmpty true, .queue .decide true,
    .queue .takeEvent true, .queue (.emplace ⟨.on, .standbyDeepSleep⟩) true, .queue .signal true]

theorem powerEvents_delivered_wakeRun :
    ∃ s, run (step true) ⟨.init, ProductTraits.fetchNinitStateValues true (some .standby) none true
        (ProductTraits.initPwrEventListner none)⟩ wakeRun = some s ∧
      pending s.queue = [⟨.standby, .on⟩, ⟨.on, .standbyDeepSleep⟩] ∧
      ∀ bs t, (∀ b ∈ bs, b.ofThread = true) → run (step true) s bs = some t →
        bs.length ≤ s.queue.todo ∧ (AtRest (step true) Action.ofThread t →
          Applies (pending s.queue) s t ∧ t.queue.handled = s.queue.accepted) :=
  ⟨_, rfl, rfl, ((@powerEvents_delivered _ _ _ wakeRun rfl rfl).2 rfl rfl).2⟩

end IarmMgrs.DsMgr.PowerDelivery
