import IarmMgrs.DsMgr.StartUp
import IarmMgrs.DsMgr.PowerEventsLaws

namespace IarmMgrs.DsMgr.StartUp

open Lib Lib.Transition
open PowerEvents (PowerState DSMgrPowerEventState emplaceEvent inHand)
open AvPorts (UxController postRebootState)

variable {ux : Option UxController} {s s' : State}

theorem pending_nil {e : PowerEvents.State} :
    pending e = [] ↔ e.pwrEventQueue = [] ∧ inHand e.thread = none := by
  simp [pending, and_comm]

@[simp] theorem pending_emplaceEvent (pwrEvent : DSMgrPowerEventState) (e : PowerEvents.State) :
    pending (emplaceEvent pwrEvent e) = pending e ++ [pwrEvent] := by
  simp [pending, emplaceEvent]

theorem threadAction_cases {e e' : PowerEvents.State} {act : PowerEvents.Action}
    (hact : isThreadAction act = true) (h : PowerEvents.step e act = some e') :
    e'.accepted = e.accepted ∧
      (act ≠ .handled ∧ pending e' = pending e ∨
        ∃ pwrEvent, act = .handled ∧ inHand e.thread = some pwrEvent ∧
          pending e = pwrEvent :: pending e') := by
  cases PowerEvents.step_parts h with
  | emplace | stop | join | clear => cases hact
  | signal => exact ⟨rfl, .inl ⟨by simp, by simp [pending]⟩⟩
  | thread hne hhand hw => exact ⟨rfl, .inl ⟨hne, by simp [pending, hhand, hw]⟩⟩
  | take hhand hq => exact ⟨rfl, .inl ⟨by simp, by rw [pending, pending, hhand, hq]; rfl⟩⟩
  | @handled pwrEvent hw =>
    refine ⟨rfl, .inr ⟨pwrEvent, rfl, by simp [inHand, hw], ?_⟩⟩
    simp [pending, PowerEvents.finishEvent, inHand, hw]

theorem threadStep_cases {act : PowerEvents.Action} (h : step ux s (.events act) = some s') :
    ∃ e applied, s' = { s with events := e, applied := applied } ∧
      e.accepted = s.events.accepted ∧
      (applied = s.applied ∧ pending e = pending s.events ∨
        ∃ pwrEvent, applied = some pwrEvent.newState ∧
          pending s.events = pwrEvent :: pending e) := by
  obtain ⟨hact, h⟩ := Option.ite_none_right_eq_some.mp h
  obtain ⟨e, he, rfl⟩ := Option.map_eq_some_iff.mp h
  obtain ⟨haccepted, hcases⟩ := threadAction_cases hact he
  rcases hcases with ⟨hne, hpending⟩ | ⟨pwrEvent, rfl, hand, hpending⟩
  · refine ⟨e, s.applied, ?_, haccepted, .inl ⟨rfl, hpending⟩⟩
    cases act <;> first | rfl | exact absurd rfl hne
  · exact ⟨e, some pwrEvent.newState, by simp [hand], haccepted, .inr ⟨pwrEvent, rfl, hpending⟩⟩

structure Inv (s : State) : Prop where
  unregistered : s.connPc = .connecting → s.events.accepted = [] ∧ s.reported = none
  current : ∀ p, s.reported = some p → p = s.powerState
  notified : s.events.accepted ≠ [] → s.reported = some s.powerState
  accepted : s.events.accepted = [] → pending s.events = []
  latest : ∀ e, (pending s.events).getLast? = some e → e.newState = s.powerState
  answered : s.events.accepted = [] → ∀ p, s.reported = some p → p = s.curState

theorem Inv.init (powerState : PowerState) : Inv (State.init powerState) where
  unregistered _ := ⟨rfl, rfl⟩
  current p h := by simp [State.init] at h
  notified h := absurd rfl h
  accepted _ := rfl
  latest e h := by simp [State.init, pending, PowerEvents.State.init, inHand] at h
  answered _ p h := by simp [State.init] at h

theorem Inv.move (h : Inv s) {pc : ConnPc} (hpc : pc ≠ .connecting) (before : PowerState)
    (applied : Option PowerState) :
    Inv { s with connPc := pc, powerStateBeforeReboot := before, applied := applied } where
  unregistered hc := absurd hc hpc
  current := h.current
  notified := h.notified
  accepted := h.accepted
  latest := h.latest
  answered := h.answered

theorem Inv.getPowerState (h : Inv s) (succeeds : Bool) : Inv (getPowerState succeeds s) := by
  unfold StartUp.getPowerState
  split
  · exact {
      unregistered := fun hc => by simp at hc
      current := fun p hp => (Option.some.inj hp).symm
      notified := fun _ => rfl
      accepted := h.accepted
      latest := h.latest
      answered := fun _ p hp => (Option.some.inj hp).symm }
  · exact h.move (by simp) _ _

theorem Inv.change (h : Inv s) (newState : PowerState) : Inv (change newState s) := by
  unfold StartUp.change
  split
  case isTrue hc =>
    obtain ⟨haccepted, hreported⟩ := h.unregistered hc
    exact {
      unregistered := h.unregistered
      current := fun p hp => by simp [hreported] at hp
      notified := fun hne => absurd haccepted hne
      accepted := h.accepted
      latest := fun e he => by simp [h.accepted haccepted] at he
      answered := h.answered }
  case isFalse hc =>
    exact {
      unregistered := fun hc' => absurd hc' hc
      current := fun p hp => (Option.some.inj hp).symm
      notified := fun _ => rfl
      accepted := fun hnil => by simp [emplaceEvent] at hnil
      latest := fun e he => by
        rw [pending_emplaceEvent, List.getLast?_concat] at he
        exact Option.some.inj he ▸ rfl
      answered := fun hnil => by simp [emplaceEvent] at hnil }

theorem Inv.step (h : Inv s) {a : Action} (hstep : step ux s a = some s') : Inv s' := by
  cases a with
  | registerCallback =>
    obtain ⟨-, rfl⟩ := of_guard hstep
    exact h.move (by simp) _ _
  | getPowerState succeeds =>
    obtain ⟨-, rfl⟩ := of_guard hstep
    exact h.getPowerState succeeds
  | getPowerStateBeforeReboot answer =>
    obtain ⟨-, rfl⟩ := of_guard hstep
    exact h.move (by simp) _ _
  | applyPostReboot =>
    obtain ⟨-, rfl⟩ := of_guard hstep
    exact h.move (by simp) _ _
  | change newState =>
    obtain rfl := Option.some.inj hstep
    exact h.change newState
  | events act =>
    obtain ⟨e, applied, rfl, haccepted, hcases⟩ := threadStep_cases hstep
    have hpending : pending s.events = [] → pending e = [] := by
      rcases hcases with ⟨-, heq⟩ | ⟨pwrEvent, -, heq⟩ <;> simp [heq]
    have hlatest : ∀ x, (pending e).getLast? = some x → x.newState = s.powerState := by
      intro x hx
      rcases hcases with ⟨-, heq⟩ | ⟨pwrEvent, -, heq⟩
      · exact h.latest x (heq ▸ hx)
      · exact h.latest x (by rw [heq, List.getLast?_cons, hx]; rfl)
    exact {
      unregistered := fun hc => haccepted.symm ▸ h.unregistered hc
      current := h.current
      notified := fun hne => h.notified (haccepted ▸ hne)
      accepted := fun hnil => hpending (h.accepted (haccepted ▸ hnil))
      latest := hlatest
      answered := fun hnil => h.answered (haccepted ▸ hnil) }

theorem settled_iff :
    Settled s ↔ (s.connPc = .done → pending s.events = [] →
      ∀ powerState, s.reported = some powerState → s.applied = some powerState ∨
        s.events.accepted = [] ∧ s.powerStateBeforeReboot = .on ∧ powerState = .standby ∧
          s.applied = some .on) := by
  simp only [Settled, pending_nil, and_imp]

theorem postRebootState_eq (ux : Option UxController) (curState before : PowerState) :
    postRebootState ux curState before = curState ∨
      before = .on ∧ curState = .standby ∧ postRebootState ux curState before = .on := by
  unfold postRebootState
  split
  case h_1 | h_2 | h_3 =>
    split
    case isTrue h => exact .inr ⟨h.1, h.2, rfl⟩
    case isFalse => exact .inl rfl
  case h_4 | h_5 => exact .inl rfl

theorem applyPostReboot_settled (h : Inv s) :
    InTime ux s .applyPostReboot ↔ Settled (applyPostReboot ux s) := by
  rw [settled_iff]
  constructor
  · intro hok _ hpending powerState hreported
    rcases hok with hnil | hne | heq
    · obtain rfl := h.answered hnil powerState hreported
      rcases postRebootState_eq ux s.curState s.powerStateBeforeReboot with heq | hspecial
      · exact .inl (congrArg some heq)
      · exact .inr ⟨hnil, hspecial.1, hspecial.2.1, congrArg some hspecial.2.2⟩
    · exact absurd hpending hne
    · obtain rfl := h.current powerState hreported
      exact .inl (congrArg some heq)
  · intro hs
    by_cases hnil : s.events.accepted = []
    · exact .inl hnil
    by_cases hpending : pending s.events = []
    · rcases hs rfl hpending s.powerState (h.notified hnil) with happlied | hspecial
      · exact .inr (.inr (Option.some.inj happlied))
      · exact absurd hspecial.1 hnil
    · exact .inr (.inl hpending)

/-- Every other step leaves the ports settled: an event that is the last pending one is
for the state PowerController is in. -/
theorem settled_step (h : Inv s) (hs : Settled s) {a : Action} (hne : a ≠ .applyPostReboot)
    (hstep : step ux s a = some s') : Settled s' := by
  rw [settled_iff] at hs ⊢
  cases a with
  | applyPostReboot => exact absurd rfl hne
  | registerCallback =>
    obtain ⟨-, rfl⟩ := of_guard hstep
    exact fun hc => by simp at hc
  | getPowerState succeeds =>
    obtain ⟨-, rfl⟩ := of_guard hstep
    intro hc
    cases succeeds <;> simp [StartUp.getPowerState] at hc
  | getPowerStateBeforeReboot answer =>
    obtain ⟨-, rfl⟩ := of_guard hstep
    exact fun hc => by simp at hc
  | change newState =>
    obtain rfl := Option.some.inj hstep
    unfold StartUp.change
    split
    case isTrue hc => exact fun hdone => by simp [hc] at hdone
    case isFalse => exact fun _ hpending => by simp at hpending
  | events act =>
    obtain ⟨e, applied, rfl, haccepted, hcases⟩ := threadStep_cases hstep
    intro hc hpending powerState hreported
    rcases hcases with ⟨rfl, heq⟩ | ⟨pwrEvent, rfl, heq⟩
    · rw [haccepted]
      exact hs hc (heq ▸ hpending) powerState hreported
    · have hlast : pwrEvent.newState = s.powerState := by
        apply h.latest
        rw [heq, hpending]
        rfl
      exact .inl (congrArg some (hlast.trans (h.current powerState hreported).symm))

theorem inTime_iff_settled (h : Inv s) (hs : Settled s) {a : Action}
    (hstep : step ux s a = some s') : InTime ux s a ↔ Settled s' := by
  by_cases ha : a = .applyPostReboot
  · subst ha
    obtain ⟨-, rfl⟩ := of_guard hstep
    exact applyPostReboot_settled h
  · have hok : InTime ux s a := by
      cases a with
      | applyPostReboot => exact absurd rfl ha
      | _ => trivial
    exact iff_of_true hok (settled_step h hs ha hstep)

theorem startUp_settled_iff (ux : Option UxController) (powerState : PowerState)
    (as : List Action) (hrun : run (step ux) (State.init powerState) as = some s) :
    Along (step ux) (InTime ux) (State.init powerState) as ↔
      ∀ pre t, pre <+: as → run (step ux) (State.init powerState) pre = some t → Settled t :=
  along_iff Inv Settled (fun _ _ _ h _ hstep => h.step hstep)
    (fun _ _ _ h hs hstep => inTime_iff_settled h hs hstep) (Inv.init powerState)
    (fun hc => by simp [State.init] at hc) hrun

def staleRun : List Action :=
  [.registerCallback, .getPowerState true, .change .standby, .events .lockEventMutex,
    .events .readQueueEmpty, .events .decide, .events .takeEvent, .events .handled,
    .events .takeEvent, .getPowerStateBeforeReboot (some .standby), .applyPostReboot]

theorem startUp_stale :
    ∃ s, run (step (some .stbEu)) (State.init .on) staleRun = some s ∧ s.connPc = .done ∧
      s.events.pwrEventQueue = [] ∧ inHand s.events.thread = none ∧
      s.events.accepted ≠ [] ∧ s.reported = some .standby ∧ s.applied = some .on :=
  ⟨_, rfl, rfl, rfl, rfl, List.cons_ne_nil _ _, rfl, rfl⟩

theorem startUp_settled_iff_staleRun :
    ¬ Along (step (some .stbEu)) (InTime (some .stbEu)) (State.init .on) staleRun := by
  intro hok
  have hsettled := (startUp_settled_iff (some .stbEu) .on staleRun rfl).mp hok staleRun _
    (List.prefix_refl _) rfl rfl rfl rfl .standby rfl
  exact absurd hsettled (by decide)

end IarmMgrs.DsMgr.StartUp
