import IarmMgrs.DsMgr.EventQueueLaws
import IarmMgrs.Lib.Progress

namespace IarmMgrs.DsMgr.EventQueue

open Lib Lib.Transition

variable {sizes : EventSizes} {s s' : State} {q : List Addr} {a : Addr} {act : Action}

def Action.ofWorker : Action → Bool
  | .workerSection | .workerCall | .workerReturn => true
  | _ => false

def roundTodo : Waiter WorkerPc → Nat
  | .running .absent | .running .exited | .blocked => 0
  | .running .loop | .woken => 1
  | .running (.processing _) => 2
  | .running (.popped _) => 3

/-- An event costs the worker three steps. -/
def State.todo (s : State) : Nat := 3 * s.evtQCount.toNat + roundTodo s.worker

def Action.adds : Action → Nat
  | .enqueue _ => 4
  | .spuriousWakeup | .createWorker _ | .stop => 1
  | _ => 0

structure Outside where
  control : Control
  evtWorkerStarted : Bool
  evtQStop : Bool
  accepted : List Addr
  prepared : List Addr
  rejecting : List Addr

def State.outside (s : State) : Outside :=
  ⟨s.control, s.evtWorkerStarted, s.evtQStop, s.accepted, s.prepared, s.rejecting⟩

theorem roundTodo_signal (w : Waiter WorkerPc) : roundTodo w.signal ≤ roundTodo w + 1 := by
  cases w <;> simp [Waiter.signal, roundTodo]

@[simp] theorem outside_freeEventItem (p : Option Addr) :
    (freeEventItem s p).outside = s.outside := by
  cases p with
  | none => rfl
  | some a =>
    simp only [freeEventItem]
    split <;> rfl

theorem outside_deref {k : DSMgrEventItem → State} (hk : ∀ x, (k x).outside = s.outside) :
    (s.deref a k).outside = s.outside := by
  unfold State.deref
  split
  · rfl
  · exact hk _

theorem outside_dropPending (fuel : Nat) (p : Option Addr) (s : State) :
    (dropPending fuel p s).outside = s.outside := by
  induction fuel generalizing p s with
  | zero => cases p <;> rfl
  | succ fuel ih =>
    cases p with
    | none => rfl
    | some a =>
      refine outside_deref fun x => ?_
      exact (ih _ _).trans (outside_freeEventItem (some a))

theorem outside_eventWorkerThreadFunc : (eventWorkerThreadFunc s).outside = s.outside := by
  unfold eventWorkerThreadFunc
  split
  · rfl
  · split
    · exact outside_dropPending s.brk s.evtQHead s
    · split
      · rfl
      · exact outside_deref fun _ => rfl

theorem step_outside (hown : act.ofWorker = true) (hstep : step sizes s act = some s') :
    s'.outside = s.outside := by
  cases act with
  | workerSection =>
    obtain ⟨-, rfl⟩ := of_guard hstep
    exact outside_eventWorkerThreadFunc
  | workerCall =>
    simp only [step] at hstep
    split at hstep
    · obtain rfl := Option.some.inj hstep
      exact outside_deref fun _ => rfl
    · cases hstep
  | workerReturn =>
    simp only [step] at hstep
    split at hstep
    · obtain rfl := Option.some.inj hstep
      exact outside_freeEventItem (s := s) _
    · cases hstep
  | _ => cases hown

theorem Inv.toNat_count (h : Inv sizes s q) : s.evtQCount.toNat = q.length := by
  rw [h.count]
  rfl

/-- What each step of the worker does: `q` and `q'` are the queue before and after it. -/
inductive WorkerStep (s : State) (q : List Addr) : State → List Addr → Prop
  | waits {s' : State} : q = [] → s.evtQStop = false → roundTodo s.worker = 1 →
      s'.worker = .blocked → s'.settled = s.settled → WorkerStep s q s' []
  | drains {s' : State} : s.evtQStop = true → roundTodo s.worker = 1 →
      s'.worker = .running .exited → WorkerStep s q s' []
  | pops {s' : State} {a : Addr} {q' : List Addr} : q = a :: q' → s.evtQStop = false →
      roundTodo s.worker = 1 → s'.worker = .running (.popped a) → s'.settled = s.settled →
      WorkerStep s q s' q'
  | calls {s' : State} {a : Addr} : s.worker = .running (.popped a) →
      s'.worker = .running (.processing a) → s'.settled = s.settled → WorkerStep s q s' q
  | returns {s' : State} {a : Addr} :
      s.worker = .running (.processing a) → s'.worker = .running .loop →
      s'.settled = s.settled ++ [(a, .processed)] → WorkerStep s q s' q

theorem roundTodo_section (hw : s.worker = .running .loop ∨ s.worker = .woken) :
    roundTodo s.worker = 1 := by
  rcases hw with hw | hw <;> simp [hw, roundTodo]

theorem Inv.workerStep (h : Inv sizes s q) (hown : act.ofWorker = true)
    (hstep : EventQueue.step sizes s act = some s') :
    ∃ q', Inv sizes s' q' ∧ WorkerStep s q s' q' := by
  cases act with
  | workerSection =>
    obtain ⟨hw, rfl⟩ := of_guard hstep
    have hround : roundTodo s.worker = 1 := roundTodo_section hw
    obtain hs | hs := Bool.eq_false_or_eq_true s.evtQStop
    · obtain ⟨hinv, -⟩ := h.worker_drains hw hs
      refine ⟨[], hinv, .drains hs hround ?_⟩
      simp [eventWorkerThreadFunc, hs]
    · cases hhead : s.evtQHead with
      | none =>
        obtain ⟨hinv, hbox⟩ := h.worker_waits hw hhead hs
        obtain rfl : q = [] := h.chain.eq_none_iff.mp hhead
        refine ⟨[], hinv, .waits rfl hs hround ?_ (congrArg Mailbox.settled hbox)⟩
        simp [eventWorkerThreadFunc, hhead, hs]
      | some a =>
        obtain ⟨q', hq, hinv, hbox⟩ := h.worker_pops hw hhead hs
        refine ⟨q', hinv, .pops hq hs hround ?_ (congrArg Mailbox.settled hbox)⟩
        obtain ⟨x, hx⟩ := h.live_of_mem (a := a) (by simp [State.owners, hq])
        simp [eventWorkerThreadFunc, hs, hhead, deref_live hx]
  | workerCall =>
    simp only [EventQueue.step] at hstep
    split at hstep
    case h_1 a hw =>
      obtain rfl := Option.some.inj hstep
      obtain ⟨hinv, hbox⟩ := h.callProcessEvent hw
      obtain ⟨x, hx⟩ := h.live_of_mem (a := a) (by simp [State.owners, hw, inHand])
      refine ⟨q, hinv, .calls hw ?_ (congrArg Mailbox.settled hbox)⟩
      simp [EventQueue.callProcessEvent, deref_live hx]
    case h_2 => cases hstep
  | workerReturn =>
    simp only [EventQueue.step] at hstep
    split at hstep
    case h_1 a hw =>
      obtain rfl := Option.some.inj hstep
      obtain ⟨hinv, hbox⟩ := h.finishEvent hw
      exact ⟨q, hinv, .returns hw rfl (congrArg Mailbox.settled hbox)⟩
    case h_2 => cases hstep
  | _ => cases hown

theorem WorkerStep.spends {q' : List Addr} (h : WorkerStep s q s' q') :
    3 * q'.length + roundTodo s'.worker + 1 ≤ 3 * q.length + roundTodo s.worker := by
  cases h with
  | waits hq _ hround hw =>
    rw [hround, hw, hq]
    simp [roundTodo]
  | drains _ hround hw =>
    rw [hround, hw]
    simp [roundTodo]
  | pops hq _ hround hw =>
    rw [hround, hw, hq, List.length_cons]
    simp only [roundTodo]
    omega
  | calls hw hw' => simp [hw, hw', roundTodo]
  | returns hw hw' => simp [hw, hw', roundTodo]

theorem Inv.todo_eq (h : Inv sizes s q) : s.todo = 3 * q.length + roundTodo s.worker := by
  rw [State.todo, h.toNat_count]

theorem todo_eventHandler (ev : Event) (alloc : Alloc) :
    (eventHandler sizes ev alloc s).todo = s.todo := by
  unfold eventHandler
  split
  · rfl
  · cases alloc with
    | itemFails => rfl
    | dataFails =>
      simp only [freeEventItem]
      split <;> rfl
    | succeeds => rfl

theorem todo_dropRejected : (dropRejected a s).todo = s.todo := by
  simp only [dropRejected, freeEventItem]
  split <;> rfl

theorem todo_enqueueEvent : (enqueueEvent a s).todo ≤ s.todo + 4 := by
  have hround : roundTodo s.worker.signal ≤ roundTodo s.worker + 1 := roundTodo_signal s.worker
  have hcount : (s.evtQCount + 1).toNat ≤ s.evtQCount.toNat + 1 := by omega
  simp only [enqueueEvent, State.todo, State.deref]
  split
  · exact Nat.le_add_right _ _
  · split
    · split <;> simp only <;> omega
    · simp only
      omega

structure StopInv (s : State) : Prop where
  starting : s.control = .starting → s.evtQStop = false
  stopping : s.control = .stopping ↔ s.evtWorkerStarted = true ∧ s.evtQStop = true
  absent : s.worker = .running .absent → s.evtWorkerStarted = false
  exited : s.worker = .running .exited →
    s.evtWorkerStarted = true ∧ s.evtQStop = true ∧ s.evtQHead = none

theorem StopInv.init : StopInv State.init where
  starting h := by cases h
  stopping := by simp [State.init]
  absent _ := rfl
  exited h := by cases h

theorem StopInv.keep (h : StopInv s) (hcontrol : s'.control = s.control)
    (hstarted : s'.evtWorkerStarted = s.evtWorkerStarted) (hstop : s'.evtQStop = s.evtQStop)
    (habsent : s'.worker = .running .absent → s.worker = .running .absent)
    (hexited : s'.worker = .running .exited →
      s.evtWorkerStarted = true ∧ s.evtQStop = true ∧ s'.evtQHead = none) : StopInv s' where
  starting hs := hstop.trans (h.starting (hcontrol.symm.trans hs))
  stopping := by rw [hcontrol, hstarted, hstop]; exact h.stopping
  absent ha := hstarted.trans (h.absent (habsent ha))
  exited he := by rw [hstarted, hstop]; exact hexited he

theorem StopInv.eventHandler (h : StopInv s) (ev : Event) (alloc : Alloc) :
    StopInv (eventHandler sizes ev alloc s) := by
  have hkeep : ∀ t : State, t.control = s.control → t.evtWorkerStarted = s.evtWorkerStarted →
      t.evtQStop = s.evtQStop → t.worker = s.worker → t.evtQHead = s.evtQHead → StopInv t := by
    intro t hcontrol hstarted hstop hworker hhead
    refine h.keep hcontrol hstarted hstop (hworker ▸ id) fun he => ?_
    rw [hhead]
    exact h.exited (hworker ▸ he)
  unfold EventQueue.eventHandler
  split
  · exact h
  · cases alloc with
    | itemFails => exact h
    | dataFails =>
      simp only [freeEventItem]
      split
      · exact hkeep _ rfl rfl rfl rfl rfl
      · exact hkeep _ rfl rfl rfl rfl rfl
    | succeeds => exact hkeep _ rfl rfl rfl rfl rfl

theorem StopInv.enqueueEvent (h : StopInv s) : StopInv (enqueueEvent a s) := by
  have hcontrol : (EventQueue.enqueueEvent a s).control = s.control ∧
      (EventQueue.enqueueEvent a s).evtWorkerStarted = s.evtWorkerStarted ∧
      (EventQueue.enqueueEvent a s).evtQStop = s.evtQStop ∧
      ((EventQueue.enqueueEvent a s).worker = s.worker ∧
          (EventQueue.enqueueEvent a s).evtQHead = s.evtQHead ∨
        (EventQueue.enqueueEvent a s).worker = s.worker.signal ∧ s.evtQStop = false) := by
    simp only [EventQueue.enqueueEvent, State.deref]
    split
    · exact ⟨rfl, rfl, rfl, .inl ⟨rfl, rfl⟩⟩
    case isFalse hopen =>
      simp only [Bool.or_eq_true, not_or, Bool.not_eq_true] at hopen
      split
      · split <;> exact ⟨rfl, rfl, rfl, .inr ⟨rfl, hopen.1⟩⟩
      · exact ⟨rfl, rfl, rfl, .inr ⟨rfl, hopen.1⟩⟩
  obtain ⟨hcontrol, hstarted, hstop, hworker⟩ := hcontrol
  refine h.keep hcontrol hstarted hstop ?_ ?_
  · rcases hworker with ⟨hworker, -⟩ | ⟨hworker, -⟩
    · rw [hworker]
      exact id
    · rw [hworker]
      exact Waiter.signal_eq_running.mp
  · intro he
    rcases hworker with ⟨hworker, hhead⟩ | ⟨hworker, hopen⟩
    · rw [hhead]
      exact h.exited (hworker ▸ he)
    · have hexited := (h.exited (Waiter.signal_eq_running.mp (hworker ▸ he))).2.1
      rw [hopen] at hexited
      cases hexited

theorem StopInv.worker {q' : List Addr} (h : StopInv s) (hinv : Inv sizes s q)
    (hinv' : Inv sizes s' q') (hown : act.ofWorker = true) (hstep : step sizes s act = some s')
    (hwork : WorkerStep s q s' q') : StopInv s' := by
  have hout : s'.outside = s.outside := step_outside hown hstep
  have hstarted : s.evtWorkerStarted = true := by
    by_contra hne
    have habs := hinv.not_started (Bool.eq_false_iff.mpr hne)
    cases hwork <;> simp_all [roundTodo]
  refine h.keep (congrArg Outside.control hout) (congrArg Outside.evtWorkerStarted hout)
    (congrArg Outside.evtQStop hout) ?_ ?_
  · intro ha
    cases hwork <;> simp_all
  · intro he
    cases hwork with
    | drains hs => exact ⟨hstarted, hs, hinv'.chain.eq_none_iff.mpr rfl⟩
    | waits _ _ _ hw => simp [hw] at he
    | pops _ _ _ hw => simp [hw] at he
    | calls _ hw => simp [hw] at he
    | returns _ hw => simp [hw] at he

theorem StopInv.step (h : StopInv s) (hinv : Inv sizes s q)
    (hstep : step sizes s act = some s') : StopInv s' := by
  have hworker (hown : act.ofWorker = true) : StopInv s' := by
    obtain ⟨q', hinv', hwork⟩ := hinv.workerStep hown hstep
    exact h.worker hinv hinv' hown hstep hwork
  cases act with
  | callHandler ev alloc =>
    obtain rfl := Option.some.inj hstep
    exact h.eventHandler ev alloc
  | enqueue a =>
    obtain ⟨-, rfl⟩ := of_guard hstep
    exact h.enqueueEvent
  | dropRejected a =>
    obtain ⟨-, rfl⟩ := of_guard hstep
    simp only [dropRejected, freeEventItem]
    split
    · exact h.keep rfl rfl rfl id fun he => h.exited he
    · exact h.keep rfl rfl rfl id fun he => h.exited he
  | workerSection => exact hworker rfl
  | workerCall => exact hworker rfl
  | workerReturn => exact hworker rfl
  | spuriousWakeup =>
    obtain ⟨hw, rfl⟩ := of_guard hstep
    exact h.keep rfl rfl rfl (by simp) (by simp)
  | start =>
    obtain ⟨hc, rfl⟩ := of_guard hstep
    have hidle : s.evtWorkerStarted = false := hinv.idle (.inl hc)
    exact {
      starting := fun _ => rfl
      stopping := by simp [hidle]
      absent := h.absent
      exited := fun he => absurd (h.exited he).1 (by simp [hidle]) }
  | createWorker created =>
    obtain ⟨hc, rfl⟩ := of_guard hstep
    have hidle : s.evtWorkerStarted = false := hinv.idle (.inr hc)
    have hopen : s.evtQStop = false := h.starting hc
    cases created with
    | true =>
      exact {
        starting := fun hs => by cases hs
        stopping := by simp [hopen]
        absent := fun ha => by cases ha
        exited := fun he => by cases he }
    | false =>
      exact {
        starting := fun hs => by cases hs
        stopping := by simp [hidle]
        absent := h.absent
        exited := fun he => absurd (h.exited he).1 (by simp [hidle]) }
  | stop =>
    obtain ⟨-, rfl⟩ := of_guard hstep
    cases hst : s.evtWorkerStarted with
    | true =>
      exact {
        starting := fun hs => by cases hs
        stopping := by simp
        absent := fun ha => absurd (h.absent (Waiter.signal_eq_running.mp ha)) (by simp [hst])
        exited := fun he => ⟨rfl, rfl, (h.exited (Waiter.signal_eq_running.mp he)).2.2⟩ }
    | false =>
      exact {
        starting := fun hs => by cases hs
        stopping := by simp
        absent := fun _ => rfl
        exited := fun he => absurd (h.exited he).1 (by simp [hst]) }
  | join =>
    obtain ⟨-, rfl⟩ := of_guard hstep
    exact {
      starting := fun hs => by cases hs
      stopping := by simp
      absent := fun _ => rfl
      exited := fun he => by cases he }

def Sound (sizes : EventSizes) (s : State) : Prop := (∃ q, Inv sizes s q) ∧ StopInv s

theorem Sound.init : Sound sizes State.init := ⟨⟨[], Inv.init⟩, StopInv.init⟩

theorem Sound.step (h : Sound sizes s) (hstep : step sizes s act = some s') : Sound sizes s' := by
  obtain ⟨⟨q, hinv⟩, hstop⟩ := h
  obtain ⟨q', hinv', -⟩ := hinv.step hstep
  exact ⟨⟨q', hinv'⟩, hstop.step hinv hstep⟩

theorem todo_step (h : Sound sizes s) (hstep : step sizes s act = some s') :
    s'.todo + act.ofWorker.toNat ≤ s.todo + act.adds := by
  obtain ⟨⟨q, hinv⟩, hstop⟩ := h
  have hworker (hown : act.ofWorker = true) : s'.todo + 1 ≤ s.todo := by
    obtain ⟨q', hinv', hwork⟩ := hinv.workerStep hown hstep
    rw [hinv.todo_eq, hinv'.todo_eq]
    exact hwork.spends
  have hround : roundTodo s.worker.signal ≤ roundTodo s.worker + 1 := roundTodo_signal s.worker
  cases act with
  | callHandler ev alloc =>
    obtain rfl := Option.some.inj hstep
    exact Nat.le_of_eq (todo_eventHandler ev alloc)
  | enqueue a =>
    obtain ⟨-, rfl⟩ := of_guard hstep
    exact todo_enqueueEvent
  | dropRejected a =>
    obtain ⟨-, rfl⟩ := of_guard hstep
    exact Nat.le_of_eq todo_dropRejected
  | workerSection => exact hworker rfl
  | workerCall => exact hworker rfl
  | workerReturn => exact hworker rfl
  | spuriousWakeup =>
    obtain ⟨-, rfl⟩ := of_guard hstep
    change 3 * s.evtQCount.toNat + 1 ≤ 3 * s.evtQCount.toNat + roundTodo s.worker + 1
    omega
  | start =>
    obtain ⟨-, rfl⟩ := of_guard hstep
    exact Nat.le_refl _
  | createWorker created =>
    obtain ⟨-, rfl⟩ := of_guard hstep
    cases created with
    | true =>
      change 3 * s.evtQCount.toNat + 1 ≤ 3 * s.evtQCount.toNat + roundTodo s.worker + 1
      omega
    | false => exact Nat.le_add_right _ _
  | stop =>
    obtain ⟨-, rfl⟩ := of_guard hstep
    split
    · exact Nat.add_le_add_left hround (3 * s.evtQCount.toNat)
    · exact Nat.le_add_right _ _
  | join =>
    obtain ⟨-, rfl⟩ := of_guard hstep
    exact Nat.le_add_right (3 * s.evtQCount.toNat) _

theorem progress : Progress (step sizes) (Sound sizes) Action.ofWorker State.todo Action.adds where
  keep _ _ _ h hstep := h.step hstep
  spend _ _ _ h hstep := todo_step h hstep
  adds_own act hown := by
    cases act with
    | workerSection => rfl
    | workerCall => rfl
    | workerReturn => rfl
    | _ => cases hown

theorem Sound.worker_cases (h : Sound sizes s) (hstarted : s.evtWorkerStarted = true)
    (hrest : AtRest (EventQueue.step sizes) Action.ofWorker s) :
    s.worker = .blocked ∨ s.worker = .running .exited := by
  have hsection := hrest .workerSection rfl
  have hcall := hrest .workerCall rfl
  have hreturn := hrest .workerReturn rfl
  simp only [EventQueue.step] at hsection hcall hreturn
  cases hw : s.worker with
  | blocked => exact .inl rfl
  | woken => simp [hw] at hsection
  | running pc =>
    cases pc with
    | absent => exact absurd (h.2.absent hw) (by simp [hstarted])
    | loop => simp [hw] at hsection
    | popped a => simp [hw] at hcall
    | processing a => simp [hw] at hreturn
    | exited => exact .inr rfl

/-- The worker alone, from a state to one where it rests.  Every event has met its fate in the
order of acceptance.  While it runs the worker has processed all that was left, and waits; told
to stop, it has dropped the rest, freed every event and can be joined. -/
structure Drained (sizes : EventSizes) (s s' : State) : Prop where
  accepted : s'.accepted = s.accepted
  empty : s'.evtQHead = none ∧ s'.evtQCount = 0
  settled : s'.settled.map Prod.fst = s.accepted
  handed : s'.handed.map Prod.fst = s'.processed
  running : s.evtQStop = false → s'.worker = .blocked ∧
    ∃ left, s.accepted = s.settled.map Prod.fst ++ left ∧ s'.processed = s.processed ++ left ∧
      s'.discarded = s.discarded
  stopped : s.evtQStop = true → (EventQueue.step sizes s' .join).isSome = true ∧
    ∀ a, s'.heap a ≠ none → a ∈ s.prepared ++ s.rejecting

section Alone

variable {bs : List Action}

theorem run_outside (hown : ∀ b ∈ bs, b.ofWorker = true)
    (hrun : run (step sizes) s bs = some s') : s'.outside = s.outside := by
  induction bs generalizing s with
  | nil =>
    obtain rfl := Option.some.inj hrun
    rfl
  | cons b bs ih =>
    obtain ⟨t, ht, hrun⟩ := run_cons.mp hrun
    have hrest : ∀ c ∈ bs, c.ofWorker = true := fun c hc => hown c (List.mem_cons_of_mem b hc)
    exact (ih hrest hrun).trans (step_outside (hown b List.mem_cons_self) ht)

/-- A worker that is not told to stop settles events by processing them. -/
theorem run_settled (hown : ∀ b ∈ bs, b.ofWorker = true) (h : Sound sizes s)
    (hopen : s.evtQStop = false) (hrun : run (step sizes) s bs = some s') :
    ∃ left : List Addr, s'.settled = s.settled ++ left.map (·, .processed) := by
  induction bs generalizing s with
  | nil =>
    obtain rfl := Option.some.inj hrun
    exact ⟨[], by simp⟩
  | cons b bs ih =>
    obtain ⟨t, ht, hrun⟩ := run_cons.mp hrun
    have hb : b.ofWorker = true := hown b List.mem_cons_self
    have hrest : ∀ c ∈ bs, c.ofWorker = true := fun c hc => hown c (List.mem_cons_of_mem b hc)
    have hopen' : t.evtQStop = false :=
      (congrArg Outside.evtQStop (step_outside hb ht)).trans hopen
    obtain ⟨left, hleft⟩ := ih hrest (h.step ht) hopen' hrun
    obtain ⟨⟨q, hinv⟩, -⟩ := h
    obtain ⟨q', -, hwork⟩ := hinv.workerStep hb ht
    cases hwork with
    | waits _ _ _ _ hsettled => exact ⟨left, by rw [hleft, hsettled]⟩
    | drains hs => simp [hopen] at hs
    | pops _ _ _ _ hsettled => exact ⟨left, by rw [hleft, hsettled]⟩
    | calls _ _ hsettled => exact ⟨left, by rw [hleft, hsettled]⟩
    | returns _ _ hsettled =>
      exact ⟨_ :: left, by rw [hleft, hsettled, List.append_assoc]; rfl⟩

end Alone

/-- In no interleaving does the worker take more steps than the events and the wakeups it is
given pay for; left alone it comes to rest after `todo` steps at most, with every accepted
event settled in the order of acceptance. -/
theorem eventQueue_drains {as : List Action} (hrun : run (step sizes) State.init as = some s) :
    as.countP Action.ofWorker ≤ (as.map Action.adds).sum ∧
      (s.evtWorkerStarted = true →
        (∃ bs s', (∀ b ∈ bs, b.ofWorker = true) ∧ run (step sizes) s bs = some s' ∧
          AtRest (step sizes) Action.ofWorker s') ∧
        ∀ bs s', (∀ b ∈ bs, b.ofWorker = true) → run (step sizes) s bs = some s' →
          bs.length ≤ s.todo ∧
            (AtRest (step sizes) Action.ofWorker s' → Drained sizes s s')) := by
  have hsound : Sound sizes s :=
    run_invariant (Sound sizes) (fun _ _ _ h hstep => h.step hstep) Sound.init hrun
  have hcount : as.countP Action.ofWorker + s.todo ≤ 0 + (as.map Action.adds).sum :=
    progress.countP_le Sound.init hrun
  refine ⟨by omega, fun hstarted => ⟨progress.exists_atRest hsound, fun bs s' hown hbs => ?_⟩⟩
  have hlength : bs.length + s'.todo ≤ s.todo := progress.length_le hsound hown hbs
  refine ⟨by omega, fun hrest => ?_⟩
  have hsound' : Sound sizes s' :=
    run_invariant (Sound sizes) (fun _ _ _ h hstep => h.step hstep) hsound hbs
  obtain ⟨q, hinv, hbalanced⟩ := run_mailbox (run_append.mpr ⟨s, hrun, hbs⟩)
  have hout : s'.outside = s.outside := run_outside hown hbs
  have hstarted' : s'.evtWorkerStarted = true :=
    (congrArg Outside.evtWorkerStarted hout).trans hstarted
  have hstop' : s'.evtQStop = s.evtQStop := congrArg Outside.evtQStop hout
  have hw := hsound'.worker_cases hstarted' hrest
  have hq : q = [] := by
    rcases hw with hw | hw
    · exact (hinv.blocked hw).1
    · exact hinv.chain.eq_none_iff.mp (hsound'.2.exited hw).2.2
  obtain ⟨hhand, hcalled⟩ : inHand s'.worker = none ∧ called s'.worker = none := by
    rcases hw with hw | hw <;> simp [hw, inHand, called]
  subst hq
  have haccepted : s'.accepted = s.accepted := congrArg Outside.accepted hout
  have hsettled : s'.settled.map Prod.fst = s.accepted := by
    rw [← haccepted]
    simpa [Mailbox.Balanced, State.mailbox, hhand] using hbalanced.symm
  exact {
    accepted := haccepted
    empty := ⟨hinv.chain.eq_none_iff.mpr rfl, hinv.count⟩
    settled := hsettled
    handed := by simpa [hcalled] using hinv.handed_items
    running := by
      intro hopen
      obtain ⟨left, hleft⟩ := run_settled hown hsound hopen hbs
      have horder : s.accepted = s.settled.map Prod.fst ++ left := by
        rw [← hsettled, hleft]
        simp [Function.comp_def]
      refine ⟨hw.resolve_right fun he => ?_, left, horder, ?_, ?_⟩
      · exact absurd (hsound'.2.exited he).2.1 (by simp [hstop', hopen])
      · simp [State.processed, hleft, Mailbox.withFate, List.filter_map, Function.comp_def]
      · simp [State.discarded, hleft, Mailbox.withFate_map_ne]
    stopped := by
      intro hclosed
      have hexited : s'.worker = .running .exited := by
        refine hw.resolve_left fun hb => ?_
        exact absurd (hinv.blocked hb).2 (by simp [hstop', hclosed])
      have hcontrol : s'.control = .stopping :=
        hsound'.2.stopping.mpr ⟨hstarted', hstop'.trans hclosed⟩
      refine ⟨by simp [step, hcontrol, hexited], fun a ha => ?_⟩
      have hmem := (hinv.owned.live a).mp ha
      have hprepared : s'.prepared = s.prepared := congrArg Outside.prepared hout
      have hrejecting : s'.rejecting = s.rejecting := congrArg Outside.rejecting hout
      simpa [State.owners, hhand, hprepared, hrejecting] using hmem }

theorem eventQueue_drains_sampleRun :
    ∃ s, run (step ⟨8, 16⟩) State.init sampleRun = some s ∧ s.todo = 5 ∧
      ∀ bs s', (∀ b ∈ bs, b.ofWorker = true) → run (step ⟨8, 16⟩) s bs = some s' →
        bs.length ≤ 5 ∧ (AtRest (step ⟨8, 16⟩) Action.ofWorker s' → Drained ⟨8, 16⟩ s s') :=
  ⟨_, rfl, rfl,
    ((eventQueue_drains (show run (step ⟨8, 16⟩) State.init sampleRun = some _ from rfl)).2 rfl).2⟩

end IarmMgrs.DsMgr.EventQueue
