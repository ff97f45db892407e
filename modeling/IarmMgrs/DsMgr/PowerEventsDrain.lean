import IarmMgrs.DsMgr.PowerEventsLaws
import IarmMgrs.Lib.Progress

namespace IarmMgrs.DsMgr.PowerEvents

open Lib Lib.Transition

variable {s s' : State} {act : Action}

def Action.ofThread : Action → Bool
  | .lockEventMutex | .readQueueEmpty | .decide | .takeEvent | .handled => true
  | _ => false

/-- The steps the thread has left in its round.  A drain loop that finds the queue empty goes
round once more, one that does not has its steps paid for by the event. -/
def roundTodo (queue : List DSMgrPowerEventState) : Waiter HandlerPc → Nat
  | .running .exited | .blocked => 0
  | .running (.checked _) => 1
  | .running .locked => 2
  | .running .loop | .woken => 3
  | .running .draining => if queue.isEmpty then 4 else 0
  | .running (.handling _) => 5

def State.todo (s : State) : Nat := 6 * s.pwrEventQueue.length + roundTodo s.pwrEventQueue s.thread

def Action.adds : Action → Nat
  | .emplace _ => 6
  | .signal | .spuriousWakeup | .stop => 3
  | _ => 0

theorem roundTodo_signal (queue : List DSMgrPowerEventState) (w : Waiter HandlerPc) :
    roundTodo queue w.signal ≤ roundTodo queue w + 3 := by
  cases w <;> simp [Waiter.signal, roundTodo]

theorem roundTodo_append (queue : List DSMgrPowerEventState) (pwrEvent : DSMgrPowerEventState)
    (w : Waiter HandlerPc) : roundTodo (queue ++ [pwrEvent]) w ≤ roundTodo queue w := by
  cases w with
  | running pc => cases pc <;> simp [roundTodo]
  | blocked => simp [roundTodo]
  | woken => simp [roundTodo]

structure StopInv (s : State) : Prop where
  stop : s.dsMgrPwrStopThread = true ↔ s.deinit ≠ .notCalled
  exited : s.thread = .running .exited → s.dsMgrPwrStopThread = true
  found : s.thread = .running (.checked false) → s.pwrEventQueue ≠ []
  owed : s.thread = .blocked ∨ s.thread = .running (.checked true) →
    s.pwrEventQueue.length ≤ s.signalling

theorem StopInv.init : StopInv State.init where
  stop := by simp [State.init]
  exited h := by simp [State.init] at h
  found h := by simp [State.init] at h
  owed h := by simp [State.init] at h

theorem StopInv.move (h : StopInv s) {queue : List DSMgrPowerEventState} {w : Waiter HandlerPc}
    (handled : List DSMgrPowerEventState) (hexited : w ≠ .running .exited) (hblocked : w ≠ .blocked)
    (hchecked : ∀ queueEmpty, w ≠ .running (.checked queueEmpty)) :
    StopInv { s with pwrEventQueue := queue, thread := w, handled := handled } where
  stop := h.stop
  exited he := absurd he hexited
  found hf := absurd hf (hchecked false)
  owed ho := absurd ho (not_or.mpr ⟨hblocked, hchecked true⟩)

theorem StopInv.decideWait (h : StopInv s) {queueEmpty : Bool}
    (hw : s.thread = .running (.checked queueEmpty)) : StopInv (decideWait queueEmpty s) := by
  unfold PowerEvents.decideWait
  split
  case isTrue hwait =>
    obtain rfl : queueEmpty = true := by simp_all
    exact {
      stop := h.stop
      exited := fun he => by simp at he
      found := fun hf => by simp at hf
      owed := fun _ => h.owed (.inr hw) }
  case isFalse =>
    split
    case isTrue hstop =>
      exact {
        stop := h.stop
        exited := fun _ => hstop
        found := fun hf => by simp at hf
        owed := fun ho => by simp at ho }
    case isFalse => exact h.move s.handled (by simp) (by simp) (by simp)

theorem StopInv.takeEvent (h : StopInv s) : StopInv (takeEvent s) := by
  unfold PowerEvents.takeEvent
  split
  · exact h.move s.handled (by simp) (by simp) (by simp)
  · exact h.move s.handled (by simp) (by simp) (by simp)

theorem not_waits_signal {w : Waiter HandlerPc} (hfree : holdsEventMutex w = false) :
    ¬(w.signal = .blocked ∨ w.signal = .running (.checked true)) := by
  rintro (hb | hc)
  · exact Waiter.signal_ne_blocked w hb
  · rw [Waiter.signal_eq_running.mp hc] at hfree
    cases hfree

theorem StopInv.step (h : StopInv s) (hinv : Inv s) (hstep : step s act = some s') :
    StopInv s' := by
  cases act with
  | emplace pwrEvent =>
    obtain rfl := Option.some.inj hstep
    exact {
      stop := h.stop
      exited := h.exited
      found := fun _ => by simp [emplaceEvent]
      owed := fun ho => by simpa [emplaceEvent] using h.owed ho }
  | signal =>
    obtain ⟨⟨-, hfree⟩, rfl⟩ := of_guard hstep
    exact {
      stop := h.stop
      exited := fun he => h.exited (Waiter.signal_eq_running.mp he)
      found := fun hf => h.found (Waiter.signal_eq_running.mp hf)
      owed := fun ho => (not_waits_signal hfree ho).elim }
  | lockEventMutex =>
    obtain ⟨-, rfl⟩ := of_guard hstep
    exact h.move s.handled (by simp) (by simp) (by simp)
  | spuriousWakeup =>
    obtain ⟨-, rfl⟩ := of_guard hstep
    exact h.move s.handled (by simp) (by simp) (by simp)
  | readQueueEmpty =>
    obtain ⟨-, rfl⟩ := of_guard hstep
    exact {
      stop := h.stop
      exited := fun he => by simp at he
      found := fun hf => by simpa using hf
      owed := fun ho => by simp_all }
  | decide =>
    simp only [PowerEvents.step] at hstep
    split at hstep
    case h_1 hw =>
      obtain rfl := Option.some.inj hstep
      exact h.decideWait hw
    case h_2 => cases hstep
  | takeEvent =>
    obtain ⟨-, rfl⟩ := of_guard hstep
    exact h.takeEvent
  | handled =>
    simp only [PowerEvents.step] at hstep
    split at hstep
    · obtain rfl := Option.some.inj hstep
      exact h.move _ (by simp) (by simp) (by simp)
    · cases hstep
  | stop =>
    obtain ⟨⟨-, hfree⟩, rfl⟩ := of_guard hstep
    exact {
      stop := by simp [requestStop]
      exited := fun _ => rfl
      found := fun hf => h.found (Waiter.signal_eq_running.mp hf)
      owed := fun ho => (not_waits_signal hfree ho).elim }
  | join =>
    obtain ⟨⟨hd, hw⟩, rfl⟩ := of_guard hstep
    exact {
      stop := by simp [h.exited hw]
      exited := h.exited
      found := h.found
      owed := h.owed }
  | clear =>
    obtain ⟨hd, rfl⟩ := of_guard hstep
    have hw : s.thread = .running .exited := hinv.joined (.inl hd)
    exact {
      stop := by simp [clearQueue, h.exited hw]
      exited := h.exited
      found := fun hf => by simp [clearQueue, hw] at hf
      owed := fun _ => Nat.zero_le _ }

def Sound (s : State) : Prop := Inv s ∧ StopInv s

theorem Sound.init : Sound State.init := ⟨Inv.init, StopInv.init⟩

theorem Sound.step (h : Sound s) (hstep : step s act = some s') : Sound s' :=
  ⟨h.1.step hstep, h.2.step h.1 hstep⟩

theorem todo_decideWait (h : StopInv s) {queueEmpty : Bool}
    (hw : s.thread = .running (.checked queueEmpty)) :
    (decideWait queueEmpty s).todo + 1 ≤ s.todo := by
  unfold PowerEvents.decideWait
  split
  · simp [State.todo, roundTodo, hw]
  · split
    · simp [State.todo, roundTodo, hw]
    case isFalse hgo hopen =>
      have hempty : queueEmpty = false := by
        cases queueEmpty with
        | true => simp [hopen] at hgo
        | false => rfl
      have hne : s.pwrEventQueue ≠ [] := h.found (hempty ▸ hw)
      simp [State.todo, roundTodo, hw, hne]

theorem todo_takeEvent (hw : s.thread = .running .draining) : (takeEvent s).todo + 1 ≤ s.todo := by
  unfold PowerEvents.takeEvent
  split
  case h_1 hq => simp [State.todo, roundTodo, hw, hq]
  case h_2 pwrEvent rest hq =>
    simp only [State.todo, roundTodo, hw, hq, List.length_cons]
    omega

theorem todo_finishEvent {pwrEvent : DSMgrPowerEventState}
    (hw : s.thread = .running (.handling pwrEvent)) :
    (finishEvent pwrEvent s).todo + 1 ≤ s.todo := by
  have hround : roundTodo s.pwrEventQueue (.running .draining) ≤ 4 := by
    simp only [roundTodo]
    split <;> omega
  have htodo : (finishEvent pwrEvent s).todo =
      6 * s.pwrEventQueue.length + roundTodo s.pwrEventQueue (.running .draining) := rfl
  rw [htodo, State.todo, hw]
  simp only [roundTodo] at hround ⊢
  omega

theorem todo_step (h : StopInv s) (hinv : Inv s) (hstep : step s act = some s') :
    s'.todo + act.ofThread.toNat ≤ s.todo + act.adds := by
  have hsignal :
      roundTodo s.pwrEventQueue s.thread.signal ≤ roundTodo s.pwrEventQueue s.thread + 3 :=
    roundTodo_signal _ _
  cases act with
  | emplace pwrEvent =>
    obtain rfl := Option.some.inj hstep
    have hround := roundTodo_append s.pwrEventQueue pwrEvent s.thread
    simp only [State.todo, emplaceEvent, List.length_append, List.length_singleton, Action.adds]
    change _ + 0 ≤ _
    omega
  | signal =>
    obtain ⟨-, rfl⟩ := of_guard hstep
    exact Nat.add_le_add_left hsignal (6 * s.pwrEventQueue.length)
  | lockEventMutex =>
    obtain ⟨hw, rfl⟩ := of_guard hstep
    rcases hw with hw | hw <;> simp [State.todo, roundTodo, hw, Action.ofThread]
  | spuriousWakeup =>
    obtain ⟨hw, rfl⟩ := of_guard hstep
    simp [State.todo, roundTodo, hw, Action.ofThread, Action.adds]
  | readQueueEmpty =>
    obtain ⟨hw, rfl⟩ := of_guard hstep
    simp [State.todo, roundTodo, hw, Action.ofThread]
  | decide =>
    simp only [step] at hstep
    split at hstep
    case h_1 queueEmpty hw =>
      obtain rfl := Option.some.inj hstep
      exact todo_decideWait h hw
    case h_2 => cases hstep
  | takeEvent =>
    obtain ⟨hw, rfl⟩ := of_guard hstep
    exact todo_takeEvent hw
  | handled =>
    simp only [step] at hstep
    split at hstep
    case h_1 pwrEvent hw =>
      obtain rfl := Option.some.inj hstep
      exact todo_finishEvent hw
    case h_2 => cases hstep
  | stop =>
    obtain ⟨-, rfl⟩ := of_guard hstep
    exact Nat.add_le_add_left hsignal (6 * s.pwrEventQueue.length)
  | join =>
    obtain ⟨-, rfl⟩ := of_guard hstep
    exact Nat.le_refl _
  | clear =>
    obtain ⟨hd, rfl⟩ := of_guard hstep
    have hw : s.thread = .running .exited := hinv.joined (.inl hd)
    simp [State.todo, clearQueue, roundTodo, hw, Action.ofThread]

theorem progress : Progress step Sound Action.ofThread State.todo Action.adds where
  keep _ _ _ h hstep := h.step hstep
  spend _ _ _ h hstep := todo_step h.2 h.1 hstep
  adds_own act hown := by cases act <;> first | rfl | cases hown

theorem thread_cases (hrest : AtRest step Action.ofThread s) :
    s.thread = .blocked ∨ s.thread = .running .exited := by
  have hlock := hrest .lockEventMutex rfl
  have hread := hrest .readQueueEmpty rfl
  have hdecide := hrest .decide rfl
  have htake := hrest .takeEvent rfl
  have hhandled := hrest .handled rfl
  simp only [step] at hlock hread hdecide htake hhandled
  cases hw : s.thread with
  | blocked => exact .inl rfl
  | woken => simp [hw] at hlock
  | running pc =>
    cases pc with
    | loop => simp [hw] at hlock
    | locked => simp [hw] at hread
    | checked queueEmpty => simp [hw] at hdecide
    | draining => simp [hw] at htake
    | handling pwrEvent => simp [hw] at hhandled
    | exited => exact .inr rfl

structure Outside where
  dsMgrPwrStopThread : Bool
  signalling : Nat
  deinit : Deinit
  accepted : List DSMgrPowerEventState
  lost : List DSMgrPowerEventState

def State.outside (s : State) : Outside :=
  ⟨s.dsMgrPwrStopThread, s.signalling, s.deinit, s.accepted, s.lost⟩

theorem step_outside (hown : act.ofThread = true) (hstep : step s act = some s') :
    s'.outside = s.outside := by
  cases step_parts hstep with
  | thread => rfl
  | take => rfl
  | handled => rfl
  | emplace | signal | stop | join | clear => cases hown

theorem run_outside {bs : List Action} (hown : ∀ b ∈ bs, b.ofThread = true)
    (hrun : run step s bs = some s') : s'.outside = s.outside := by
  induction bs generalizing s with
  | nil =>
    obtain rfl := Option.some.inj hrun
    rfl
  | cons b bs ih =>
    obtain ⟨t, ht, hrun⟩ := run_cons.mp hrun
    have hrest : ∀ c ∈ bs, c.ofThread = true := fun c hc => hown c (List.mem_cons_of_mem b hc)
    exact (ih hrest hrun).trans (step_outside (hown b List.mem_cons_self) ht)

/-- The handler thread alone, from a state to one where it rests.  Not told to stop, it waits
and has handled, in order, all that was accepted but at most as many of the last events as
callbacks owe their signal; told to stop, it has left its loop and can be joined. -/
structure Drained (s s' : State) : Prop where
  accepted : s'.accepted = s.accepted
  kept : s.accepted = s'.handled ++ s'.lost ++ s'.pwrEventQueue
  running : s.dsMgrPwrStopThread = false → s'.thread = .blocked ∧
    s.accepted = s'.handled ++ s'.pwrEventQueue ∧ s'.pwrEventQueue.length ≤ s.signalling ∧
    (s.signalling = 0 → s'.handled = s.accepted)
  signalled : s.dsMgrPwrStopThread = false → s.signalling ≠ 0 →
    (step s' .signal).isSome = true
  stopped : s.dsMgrPwrStopThread = true → s'.thread = .running .exited ∧
    (s.deinit = .joining → (step s' .join).isSome = true)

theorem run_sound {as : List Action} (h : Sound s) (hrun : run step s as = some s') : Sound s' :=
  run_invariant Sound (fun _ _ _ h hstep => h.step hstep) h hrun

theorem drained {as bs : List Action} (hrun : run step State.init as = some s)
    (hown : ∀ b ∈ bs, b.ofThread = true) (hbs : run step s bs = some s')
    (hrest : AtRest step Action.ofThread s') : Drained s s' := by
  have hsound' : Sound s' := run_sound (run_sound Sound.init hrun) hbs
  obtain ⟨-, hbalanced⟩ := run_mailbox (run_append.mpr ⟨s, hrun, hbs⟩)
  have hout : s'.outside = s.outside := run_outside hown hbs
  have haccepted : s'.accepted = s.accepted := congrArg Outside.accepted hout
  have hstop : s'.dsMgrPwrStopThread = s.dsMgrPwrStopThread :=
    congrArg Outside.dsMgrPwrStopThread hout
  have hsignalling : s'.signalling = s.signalling := congrArg Outside.signalling hout
  have hdeinit : s'.deinit = s.deinit := congrArg Outside.deinit hout
  have hw := thread_cases hrest
  have hhand : inHand s'.thread = none := by rcases hw with hw | hw <;> simp [hw, inHand]
  have hkept : s.accepted = s'.handled ++ s'.lost ++ s'.pwrEventQueue := by
    rw [← haccepted]
    simpa [Mailbox.Balanced, State.mailbox, Function.comp_def, hhand] using hbalanced
  have hblocked (hopen : s.dsMgrPwrStopThread = false) : s'.thread = .blocked := by
    refine hw.resolve_right fun he => ?_
    exact absurd (hsound'.2.exited he) (by simp [hstop, hopen])
  exact {
    accepted := haccepted
    kept := hkept
    running := by
      intro hopen
      have hlost : s'.lost = [] := by
        refine hsound'.1.lost fun hcleared => ?_
        have hclosed := hsound'.2.stop.mpr (by simp [hcleared])
        exact absurd hclosed (by simp [hstop, hopen])
      have horder : s.accepted = s'.handled ++ s'.pwrEventQueue := by simpa [hlost] using hkept
      have howed : s'.pwrEventQueue.length ≤ s.signalling :=
        hsignalling ▸ hsound'.2.owed (.inl (hblocked hopen))
      refine ⟨hblocked hopen, horder, howed, fun hnone => ?_⟩
      have hqueue : s'.pwrEventQueue = [] := List.eq_nil_of_length_eq_zero (by omega)
      simpa [hqueue] using horder.symm
    signalled := by
      intro hopen howed
      have hpos : 0 < s'.signalling := Nat.pos_of_ne_zero (hsignalling ▸ howed)
      simp [step, hpos, hblocked hopen, holdsEventMutex]
    stopped := by
      intro hclosed
      have hexited : s'.thread = .running .exited := by
        refine hw.resolve_left fun hb => ?_
        exact absurd (hsound'.1.blocked hb).2 (by simp [hstop, hclosed])
      exact ⟨hexited, fun hjoining => by simp [step, hexited, hdeinit, hjoining]⟩ }

/-- In no interleaving does the handler thread take more steps than the events and the wakeups
it is given pay for; left alone it comes to rest after `todo` steps at most, with every
accepted and signalled event handled. -/
theorem pwrEventQueue_drains {as : List Action} (hrun : run step State.init as = some s) :
    as.countP Action.ofThread ≤ 3 + (as.map Action.adds).sum ∧
      (∃ bs s', (∀ b ∈ bs, b.ofThread = true) ∧ run step s bs = some s' ∧
        AtRest step Action.ofThread s') ∧
      ∀ bs s', (∀ b ∈ bs, b.ofThread = true) → run step s bs = some s' →
        bs.length ≤ s.todo ∧ (AtRest step Action.ofThread s' → Drained s s') := by
  have hsound : Sound s := run_sound Sound.init hrun
  have hcount : as.countP Action.ofThread + s.todo ≤ 3 + (as.map Action.adds).sum :=
    progress.countP_le Sound.init hrun
  refine ⟨by omega, progress.exists_atRest hsound, fun bs s' hown hbs => ?_⟩
  have hlength : bs.length + s'.todo ≤ s.todo := progress.length_le hsound hown hbs
  exact ⟨by omega, drained hrun hown hbs⟩

theorem pwrEventQueue_drains_stopRun :
    ∃ s, run step State.init (stopRun.take 7) = some s ∧ s.todo = 5 ∧
      ∀ bs s', (∀ b ∈ bs, b.ofThread = true) → run step s bs = some s' →
        bs.length ≤ 5 ∧ (AtRest step Action.ofThread s' → Drained s s') :=
  ⟨_, rfl, rfl,
    (pwrEventQueue_drains (show run step State.init (stopRun.take 7) = some _ from rfl)).2.2⟩

end IarmMgrs.DsMgr.PowerEvents
