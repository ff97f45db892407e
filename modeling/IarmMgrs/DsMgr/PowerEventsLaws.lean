import IarmMgrs.DsMgr.PowerEvents

namespace IarmMgrs.DsMgr.PowerEvents

open Lib Lib.Transition

variable {s s' : State}

@[simp] theorem inHand_signal (w : Waiter HandlerPc) : inHand w.signal = inHand w := by
  cases w <;> rfl

def State.Quiet (s : State) : Prop := s.signalling = 0 → s.pwrEventQueue = []

/-- What holds between the two mutexes.  A handler thread that found the queue empty
still holds the mutex that a callback needs for its signal. -/
structure Inv (s : State) : Prop where
  checked : s.thread = .running (.checked true) → s.Quiet
  blocked : s.thread = .blocked → s.Quiet ∧ s.dsMgrPwrStopThread = false
  joined : s.deinit = .joined ∨ s.deinit = .cleared → s.thread = .running .exited
  lost : s.deinit ≠ .cleared → s.lost = []

theorem Inv.init : Inv State.init where
  checked h := by simp [State.init] at h
  blocked h := by simp [State.init] at h
  joined h := by simp [State.init] at h
  lost _ := rfl

theorem Inv.move (h : Inv s) {pc : HandlerPc} (hrun : s.thread ≠ .running .exited)
    (hpc : pc = .checked true → s.Quiet) : Inv { s with thread := .running pc } where
  checked hc := hpc (by simpa using hc)
  blocked hb := by simp at hb
  joined hj := absurd (h.joined hj) hrun
  lost := h.lost

theorem Inv.emplaceEvent (h : Inv s) (pwrEvent : DSMgrPowerEventState) :
    Inv (emplaceEvent pwrEvent s) where
  checked _ hn := by simp [PowerEvents.emplaceEvent] at hn
  blocked hb := ⟨fun hn => by simp [PowerEvents.emplaceEvent] at hn, (h.blocked hb).2⟩
  joined := h.joined
  lost := h.lost

theorem Inv.decideWait (h : Inv s) {queueEmpty : Bool}
    (hc : s.thread = .running (.checked queueEmpty)) : Inv (decideWait queueEmpty s) := by
  have hrun : s.thread ≠ .running .exited := by simp [hc]
  unfold PowerEvents.decideWait
  split
  case isTrue hwait =>
    simp only [Bool.and_eq_true, Bool.not_eq_true'] at hwait
    obtain ⟨hstop, rfl⟩ := hwait
    exact {
      checked := fun hc => by simp at hc
      blocked := fun _ => ⟨h.checked hc, hstop⟩
      joined := fun hj => absurd (h.joined hj) hrun
      lost := h.lost }
  case isFalse =>
    split
    · exact h.move hrun (by simp)
    · exact h.move hrun (by simp)

theorem Inv.takeEvent (h : Inv s) (hd : s.thread = .running .draining) : Inv (takeEvent s) := by
  have hrun : s.thread ≠ .running .exited := by simp [hd]
  unfold PowerEvents.takeEvent
  split
  · exact h.move hrun (by simp)
  · exact {
      checked := fun hc => by simp at hc
      blocked := fun hb => by simp at hb
      joined := fun hj => absurd (h.joined hj) hrun
      lost := h.lost }

theorem signal_ne_checked {w : Waiter HandlerPc} {queueEmpty : Bool}
    (hfree : holdsEventMutex w = false) : w.signal ≠ .running (.checked queueEmpty) := by
  intro hc
  rw [Waiter.signal_eq_running.mp hc] at hfree
  simp [holdsEventMutex] at hfree

theorem Inv.step (h : Inv s) {act : Action} (hstep : step s act = some s') : Inv s' := by
  cases act with
  | emplace pwrEvent =>
    obtain rfl := Option.some.inj hstep
    exact h.emplaceEvent pwrEvent
  | signal =>
    obtain ⟨⟨-, hfree⟩, rfl⟩ := of_guard hstep
    exact {
      checked := fun hc => absurd hc (signal_ne_checked hfree)
      blocked := fun hb => absurd hb (Waiter.signal_ne_blocked _)
      joined := fun hj => Waiter.signal_eq_running.mpr (h.joined hj)
      lost := h.lost }
  | lockEventMutex =>
    obtain ⟨hw, rfl⟩ := of_guard hstep
    exact h.move (by rcases hw with hw | hw <;> simp [hw]) (by simp)
  | spuriousWakeup =>
    obtain ⟨hw, rfl⟩ := of_guard hstep
    exact {
      checked := fun hc => by simp at hc
      blocked := fun hb => by simp at hb
      joined := fun hj => absurd (h.joined hj) (by simp [hw])
      lost := h.lost }
  | readQueueEmpty =>
    obtain ⟨hw, rfl⟩ := of_guard hstep
    refine h.move (by simp [hw]) ?_
    intro hempty _
    simpa using hempty
  | decide =>
    simp only [PowerEvents.step] at hstep
    split at hstep
    case h_1 queueEmpty hc =>
      obtain rfl := Option.some.inj hstep
      exact h.decideWait hc
    case h_2 => cases hstep
  | takeEvent =>
    obtain ⟨hd, rfl⟩ := of_guard hstep
    exact h.takeEvent hd
  | handled =>
    simp only [PowerEvents.step] at hstep
    split at hstep
    case h_1 pwrEvent hw =>
      obtain rfl := Option.some.inj hstep
      exact {
        checked := fun hc => by simp [finishEvent] at hc
        blocked := fun hb => by simp [finishEvent] at hb
        joined := fun hj => absurd (h.joined hj) (by simp [hw])
        lost := h.lost }
    case h_2 => cases hstep
  | stop =>
    obtain ⟨⟨hd, hfree⟩, rfl⟩ := of_guard hstep
    exact {
      checked := fun hc => absurd hc (signal_ne_checked hfree)
      blocked := fun hb => absurd hb (Waiter.signal_ne_blocked _)
      joined := fun hj => by simp [requestStop] at hj
      lost := fun _ => h.lost (by simp [hd]) }
  | join =>
    obtain ⟨⟨hd, hw⟩, rfl⟩ := of_guard hstep
    exact {
      checked := fun hc => by simp [hw] at hc
      blocked := fun hb => by simp [hw] at hb
      joined := fun _ => hw
      lost := fun _ => h.lost (by simp [hd]) }
  | clear =>
    obtain ⟨hd, rfl⟩ := of_guard hstep
    have hw := h.joined (.inl hd)
    exact {
      checked := fun hc => by simp [clearQueue, hw] at hc
      blocked := fun hb => by simp [clearQueue, hw] at hb
      joined := fun _ => hw
      lost := fun hn => by simp [clearQueue] at hn }

inductive State.Step (s : State) : Action → State → Prop
  | emplace (pwrEvent : DSMgrPowerEventState) : Step s (.emplace pwrEvent) (emplaceEvent pwrEvent s)
  | signal : Step s .signal { s with signalling := s.signalling - 1, thread := s.thread.signal }
  | thread {act : Action} {w : Waiter HandlerPc} : act ≠ .handled → inHand s.thread = none →
      inHand w = none → Step s act { s with thread := w }
  | take {pwrEvent : DSMgrPowerEventState} {rest : List DSMgrPowerEventState} :
      inHand s.thread = none → s.pwrEventQueue = pwrEvent :: rest →
      Step s .takeEvent { s with pwrEventQueue := rest, thread := .running (.handling pwrEvent) }
  | handled {pwrEvent : DSMgrPowerEventState} : s.thread = .running (.handling pwrEvent) →
      Step s .handled (finishEvent pwrEvent s)
  | stop : Step s .stop (requestStop s)
  | join : Step s .join { s with deinit := .joined }
  | clear : s.deinit = .joined → Step s .clear (clearQueue s)

theorem step_parts {act : Action} (hstep : step s act = some s') : s.Step act s' := by
  cases act with
  | emplace pwrEvent =>
    obtain rfl := Option.some.inj hstep
    exact .emplace pwrEvent
  | signal =>
    obtain ⟨-, rfl⟩ := of_guard hstep
    exact .signal
  | lockEventMutex =>
    obtain ⟨hw, rfl⟩ := of_guard hstep
    exact .thread (by simp) (by rcases hw with hw | hw <;> simp [inHand, hw]) rfl
  | spuriousWakeup =>
    obtain ⟨hw, rfl⟩ := of_guard hstep
    exact .thread (by simp) (by simp [inHand, hw]) rfl
  | readQueueEmpty =>
    obtain ⟨hw, rfl⟩ := of_guard hstep
    exact .thread (by simp) (by simp [inHand, hw]) rfl
  | decide =>
    simp only [step] at hstep
    split at hstep
    case h_1 queueEmpty hc =>
      obtain rfl := Option.some.inj hstep
      have hhand : inHand s.thread = none := by simp [inHand, hc]
      unfold decideWait
      split
      · exact .thread (by simp) hhand rfl
      · split <;> exact .thread (by simp) hhand rfl
    case h_2 => cases hstep
  | takeEvent =>
    obtain ⟨hw, rfl⟩ := of_guard hstep
    have hhand : inHand s.thread = none := by simp [inHand, hw]
    unfold takeEvent
    split
    case h_1 => exact .thread (by simp) hhand rfl
    case h_2 hq => exact .take hhand hq
  | handled =>
    simp only [step] at hstep
    split at hstep
    case h_1 hw =>
      obtain rfl := Option.some.inj hstep
      exact .handled hw
    case h_2 => cases hstep
  | stop =>
    obtain ⟨-, rfl⟩ := of_guard hstep
    exact .stop
  | join =>
    obtain ⟨-, rfl⟩ := of_guard hstep
    exact .join
  | clear =>
    obtain ⟨hd, rfl⟩ := of_guard hstep
    exact .clear hd

theorem Inv.step_mailbox (h : Inv s) {act : Action} (hstep : PowerEvents.step s act = some s') :
    Mailbox.Steps s.mailbox s'.mailbox := by
  have keep {t : State} (ht : t.mailbox = s.mailbox) : Mailbox.Steps s.mailbox t.mailbox :=
    ht ▸ .refl
  cases step_parts hstep with
  | emplace pwrEvent => exact .single (.put _ pwrEvent)
  | signal => exact keep (by simp [State.mailbox])
  | thread _ hhand hw => exact keep (by simp [State.mailbox, hhand, hw])
  | take hhand hq => exact .single (.take hhand hq)
  | @handled pwrEvent hw =>
    have hcurrent : s.mailbox.current = some pwrEvent := by simp [State.mailbox, inHand, hw]
    have hlost : s.lost = [] := h.lost fun hd => by simpa [hw] using h.joined (.inr hd)
    have heq : (finishEvent pwrEvent s).mailbox =
        { s.mailbox with
          settled := s.mailbox.settled ++ [(pwrEvent, .processed)]
          current := none } := by
      simp [State.mailbox, finishEvent, inHand, hlost]
    exact heq ▸ .single (.finish hcurrent)
  | stop => exact keep (by simp [State.mailbox, requestStop])
  | join => exact .refl
  | clear hd =>
    have hw := h.joined (.inl hd)
    have hcurrent : s.mailbox.current = none := by simp [State.mailbox, inHand, hw]
    have heq : (clearQueue s).mailbox = s.mailbox.discard := by
      simp [State.mailbox, clearQueue, Mailbox.discard]
    exact heq ▸ .single (.discard hcurrent)

theorem run_mailbox {as : List Action} (hrun : run PowerEvents.step State.init as = some s) :
    Inv s ∧ s.mailbox.Balanced := by
  have sim (s : State) (act : Action) (s' : State) (m : Mailbox DSMgrPowerEventState)
      (h : Inv s ∧ s.mailbox = m) (hstep : PowerEvents.step s act = some s') :
      ∃ m', (Inv s' ∧ s'.mailbox = m') ∧ Mailbox.Steps m m' := by
    obtain ⟨h, rfl⟩ := h
    exact ⟨_, ⟨h.step hstep, rfl⟩, h.step_mailbox hstep⟩
  obtain ⟨_, ⟨h, rfl⟩, hsteps⟩ := run_refines sim (t := Mailbox.empty) ⟨Inv.init, rfl⟩ hrun
  exact ⟨h, Mailbox.Steps.balanced hsteps Mailbox.balanced_empty⟩

theorem lost_step {act : Action} (hstep : PowerEvents.step s act = some s')
    (hne : s'.lost ≠ s.lost) : act = .clear ∧ s.deinit = .joined := by
  cases step_parts hstep with
  | clear hd => exact ⟨rfl, hd⟩
  | emplace | signal | thread | take | handled | stop | join => exact absurd rfl hne

structure PwrQueueContract (s : State) : Prop where
  in_order : s.handled ++ (inHand s.thread).toList <+: s.accepted
  kept : s.accepted = s.handled ++ s.lost ++ (inHand s.thread).toList ++ s.pwrEventQueue
  wakeup : s.thread = .blocked → s.signalling = 0 →
    s.pwrEventQueue = [] ∧ s.dsMgrPwrStopThread = false
  lost_late : s.lost ≠ [] → s.deinit = .cleared ∧ s.thread = .running .exited
  lost_clear : ∀ act s', step s act = some s' → s'.lost ≠ s.lost →
    act = .clear ∧ s.deinit = .joined ∧ s.thread = .running .exited

theorem Inv.in_order (h : Inv s)
    (hk : s.accepted = s.handled ++ s.lost ++ (inHand s.thread).toList ++ s.pwrEventQueue) :
    s.handled ++ (inHand s.thread).toList <+: s.accepted := by
  by_cases hd : s.deinit = .cleared
  · rw [h.joined (.inr hd)] at hk ⊢
    exact ⟨s.lost ++ s.pwrEventQueue, by simp [hk, inHand]⟩
  · rw [h.lost hd, List.append_nil] at hk
    exact ⟨s.pwrEventQueue, hk.symm⟩

theorem pwrEventQueue_correct {as : List Action}
    (hrun : run PowerEvents.step State.init as = some s) : PwrQueueContract s := by
  obtain ⟨h, hb⟩ := run_mailbox hrun
  have hk : s.accepted = s.handled ++ s.lost ++ (inHand s.thread).toList ++ s.pwrEventQueue := by
    simpa [Mailbox.Balanced, State.mailbox, Function.comp_def] using hb
  exact {
    in_order := h.in_order hk
    kept := hk
    wakeup := fun hw hn => ⟨(h.blocked hw).1 hn, (h.blocked hw).2⟩
    lost_late := by
      intro hl
      have hd : s.deinit = .cleared := by
        by_contra hd
        exact hl (h.lost hd)
      exact ⟨hd, h.joined (.inr hd)⟩
    lost_clear := by
      intro act s' hstep hne
      obtain ⟨hact, hd⟩ := lost_step hstep hne
      exact ⟨hact, hd, h.joined (.inl hd)⟩ }

def stopRun : List Action :=
  [.emplace ⟨.on, .standby⟩, .signal, .lockEventMutex, .readQueueEmpty, .decide, .takeEvent, .stop,
    .handled, .takeEvent, .emplace ⟨.standby, .on⟩, .lockEventMutex, .readQueueEmpty, .decide,
    .join, .clear]

theorem pwrEventQueue_correct_stopRun :
    ∃ s, run PowerEvents.step State.init stopRun = some s ∧ s.handled = [⟨.on, .standby⟩] ∧
      s.lost = [⟨.standby, .on⟩] ∧ PwrQueueContract s :=
  ⟨_, rfl, rfl, rfl, @pwrEventQueue_correct _ stopRun rfl⟩

end IarmMgrs.DsMgr.PowerEvents
