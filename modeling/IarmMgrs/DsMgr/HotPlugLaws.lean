import IarmMgrs.DsMgr.HotPlug

namespace IarmMgrs.DsMgr.HotPlug

open Lib Lib.Transition

variable {s s' : State} {act : Action}

def ResnPc.serving (acted : Option DsDisplayEvent) : ResnPc → Option DsDisplayEvent
  | .copied status | .removing status | .clearing status | .removed status => some status
  | _ => acted

inductive ResnThread.Step (r : ResnThread) : Action → ResnThread → Prop
  | idle {act : Action} : act ≠ .wait → Step r act r
  | signal : Step r .worker r.signal
  | store (event : DsDisplayEvent) : Step r (.process (.hdmiHotplug event)) (r.storeStatus event)
  | wait : r.thread = .running .loop → Step r .wait { r with thread := .blocked, waited := true }
  | spuriousWakeup : r.thread = .blocked → Step r .spuriousWakeup { r with thread := .woken }
  | copy : r.thread = .woken → Step r .copy
      { r with thread := .running (.copied r.edisplayEventStatus), unserved := none }
  | move {act : Action} {pc : ResnPc} (pc' : ResnPc) : act ≠ .wait → r.thread = .running pc →
      pc ≠ .loop → pc'.serving r.acted = pc.serving r.acted →
      Step r act { r with thread := .running pc' }
  | actOn (status : DsDisplayEvent) (pc : ResnPc) : r.thread = .running (.removed status) →
      pc.serving (some status) = some status →
      Step r .actOn { r with thread := .running pc, acted := some status }

theorem atPc_some {k : ResnPc → Option State} (h : s.atPc k = some s') :
    ∃ pc, s.resn.thread = .running pc ∧ k pc = some s' := by
  unfold State.atPc at h
  split at h
  · next pc hpc => exact ⟨pc, hpc, h⟩
  · cases h

theorem inCallback_some {k : Nat × CallbackPc → Option DelayedTimer}
    (h : s.inCallback k = some s') :
    ∃ cb t, s.timer.callback = some cb ∧ k cb = some t ∧ s' = { s with timer := t } := by
  unfold State.inCallback at h
  split at h
  · next cb hcb =>
    obtain ⟨t, ht, hs⟩ := Option.map_eq_some_iff.mp h
    exact ⟨cb, t, hcb, ht, hs.symm⟩
  · cases h

theorem actOnStatus_cases (s : State) (status : DsDisplayEvent) :
    ∃ pc, pc ∈ [.resolving, .settingAudio, .scheduling, .loop] ∧
      (actOnStatus s status).resn = { s.resn with thread := .running pc, acted := some status } ∧
      (actOnStatus s status).timer = s.timer ∧ (actOnStatus s status).worker = s.worker := by
  simp only [actOnStatus]
  split
  · split
    · exact ⟨.resolving, by simp, rfl, rfl, rfl⟩
    · exact ⟨.settingAudio, by simp, rfl, rfl, rfl⟩
  · split
    · exact ⟨.scheduling, by simp, rfl, rfl, rfl⟩
    · exact ⟨.loop, by simp, rfl, rfl, rfl⟩

theorem processEvent_step (s : State) (event : BusEvent) :
    s.resn.Step (.process event) (processEvent s event).resn := by
  cases event with
  | tuneReady =>
    simp only [processEvent]
    split <;> exact .idle (by simp)
  | hdmiHotplug event => exact .store event
  | hdcpStatus status => cases status <;> exact .idle (by simp)

theorem workerStep_resn (h : workerStep s = some s') :
    s'.resn = s.resn ∨ s'.resn = s.resn.signal := by
  simp only [workerStep] at h
  cases hworker : s.worker with
  | idle =>
    simp only [hworker] at h
    cases h
  | tuned =>
    simp only [hworker] at h
    obtain rfl := Option.some.inj h
    exact .inr rfl
  | resolving | failed =>
    simp only [hworker] at h
    obtain rfl := Option.some.inj h
    split <;> exact .inl rfl
  | authenticated | removing | clearing | broadcasting state =>
    simp only [hworker] at h
    obtain rfl := Option.some.inj h
    exact .inl rfl

theorem step_resn (h : step s act = some s') : s.resn.Step act s'.resn := by
  cases act with
  | process event =>
    obtain ⟨-, rfl⟩ := of_guard h
    exact processEvent_step s event
  | worker =>
    rcases workerStep_resn h with hr | hr <;> rw [hr]
    · exact .idle (by simp)
    · exact .signal
  | wait =>
    obtain ⟨hw, rfl⟩ := of_guard h
    exact .wait hw
  | spuriousWakeup =>
    obtain ⟨hw, rfl⟩ := of_guard h
    exact .spuriousWakeup hw
  | copy =>
    obtain ⟨hw, rfl⟩ := of_guard h
    exact .copy hw
  | removeSource =>
    obtain ⟨pc, hpc, hk⟩ := atPc_some h
    cases pc with
    | copied status =>
      obtain rfl := Option.some.inj hk
      refine .move _ (by simp) hpc (by simp) ?_
      split <;> rfl
    | removing status | clearing status =>
      obtain rfl := Option.some.inj hk
      exact .move _ (by simp) hpc (by simp) rfl
    | _ => cases hk
  | actOn =>
    obtain ⟨pc, hpc, hk⟩ := atPc_some h
    cases pc with
    | removed status =>
      obtain rfl := Option.some.inj hk
      obtain ⟨pc', hpc', hresn, -⟩ := actOnStatus_cases s status
      have hserving : pc'.serving (some status) = some status := by
        simp only [List.mem_cons, List.not_mem_nil, or_false] at hpc'
        rcases hpc' with rfl | rfl | rfl | rfl <;> rfl
      exact hresn ▸ .actOn status pc' hpc hserving
    | _ => cases hk
  | setResolution =>
    obtain ⟨hw, rfl⟩ := of_guard h
    exact .move _ (by simp) hw (by simp) rfl
  | setAudioMode =>
    obtain ⟨hw, rfl⟩ := of_guard h
    exact .move _ (by simp) hw (by simp) rfl
  | schedule componentPort source =>
    obtain ⟨⟨hw, -⟩, rfl⟩ := of_guard h
    cases componentPort <;> exact .move _ (by simp) hw (by simp) rfl
  | storeSource =>
    obtain ⟨pc, hpc, hk⟩ := atPc_some h
    cases pc with
    | storing source =>
      obtain rfl := Option.some.inj hk
      exact .move _ (by simp) hpc (by simp) rfl
    | _ => cases hk
  | timerFires source =>
    obtain ⟨-, rfl⟩ := of_guard h
    exact .idle (by simp)
  | callbackResolves | callbackStores | callbackReturns =>
    obtain ⟨cb, t, -, -, rfl⟩ := inCallback_some h
    exact .idle (by simp)

theorem workerStep_flags (h : workerStep s = some s') :
    s'.iTuneReady = s.iTuneReady ∧ s'.bHDCPAuthenticated = s.bHDCPAuthenticated := by
  simp only [workerStep] at h
  split at h
  · cases h
  all_goals obtain rfl := Option.some.inj h
  · exact ⟨rfl, rfl⟩
  · exact ⟨rfl, rfl⟩
  · exact ⟨rfl, rfl⟩
  · exact ⟨rfl, rfl⟩
  · split <;> exact ⟨rfl, rfl⟩
  · split <;> exact ⟨rfl, rfl⟩
  · exact ⟨rfl, rfl⟩

/-- `iTuneReady` and `bHDCPAuthenticated` are stored where an event is taken up and where the
resolution thread acts on a status, and nowhere else. -/
theorem step_flags (h : step s act = some s') :
    (∃ event, act = .process event ∧ s' = processEvent s event) ∨
      (∃ status, act = .actOn ∧ s.resn.thread = .running (.removed status) ∧
        s' = actOnStatus s status) ∨
      ((∀ event, act ≠ .process event) ∧ act ≠ .actOn) ∧
        s'.iTuneReady = s.iTuneReady ∧ s'.bHDCPAuthenticated = s.bHDCPAuthenticated := by
  cases act with
  | process event =>
    obtain ⟨-, rfl⟩ := of_guard h
    exact .inl ⟨event, rfl, rfl⟩
  | actOn =>
    obtain ⟨pc, hpc, hk⟩ := atPc_some h
    cases pc with
    | removed status =>
      obtain rfl := Option.some.inj hk
      exact .inr (.inl ⟨status, rfl, hpc, rfl⟩)
    | _ => cases hk
  | worker => exact .inr (.inr ⟨⟨nofun, nofun⟩, workerStep_flags h⟩)
  | removeSource =>
    obtain ⟨pc, -, hk⟩ := atPc_some h
    cases pc with
    | copied status | removing status | clearing status =>
      obtain rfl := Option.some.inj hk
      exact .inr (.inr ⟨⟨nofun, nofun⟩, rfl, rfl⟩)
    | _ => cases hk
  | storeSource =>
    obtain ⟨pc, -, hk⟩ := atPc_some h
    cases pc with
    | storing source =>
      obtain rfl := Option.some.inj hk
      exact .inr (.inr ⟨⟨nofun, nofun⟩, rfl, rfl⟩)
    | _ => cases hk
  | schedule componentPort source =>
    obtain ⟨-, rfl⟩ := of_guard h
    cases componentPort <;> exact .inr (.inr ⟨⟨nofun, nofun⟩, rfl, rfl⟩)
  | callbackResolves | callbackStores | callbackReturns =>
    obtain ⟨cb, t, -, -, rfl⟩ := inCallback_some h
    exact .inr (.inr ⟨⟨nofun, nofun⟩, rfl, rfl⟩)
  | wait | spuriousWakeup | copy | setResolution | setAudioMode | timerFires source =>
    obtain ⟨-, rfl⟩ := of_guard h
    exact .inr (.inr ⟨⟨nofun, nofun⟩, rfl, rfl⟩)

def ResnThread.Kept (r : ResnThread) : Prop :=
  r.thread = .blocked → r.plugged = true → r.acted = some r.edisplayEventStatus

/-- When the resolution thread goes to wait, the last status stored since it copied one
is the one it acted on. -/
def Caught (s : State) : Action → Prop
  | .wait => ∀ acted, s.resn.acted = some acted →
      ∀ status, s.resn.unserved = some status → status = acted
  | _ => True

/-- Outside its wait the thread serves the current status, unless a later one was
stored and its signal lost. -/
structure ResnThread.Inv (r : ResnThread) : Prop where
  unwaited : r.waited = false → r.thread = .running .loop ∧ r.acted = none ∧ r.plugged = false
  serving : ∀ pc, r.waited = true → r.thread = .running pc → ∃ status,
    pc.serving r.acted = some status ∧ r.unserved.getD status = r.edisplayEventStatus
  noted : ∀ pc, r.waited = true → r.thread = .running pc → r.unserved ≠ none → r.plugged = true

theorem ResnThread.Inv.init (n : Int) (b : Bool) : (State.init n b).resn.Inv where
  unwaited _ := ⟨rfl, rfl, rfl⟩
  serving pc hw := by simp [State.init] at hw
  noted pc hw := by simp [State.init] at hw

namespace ResnThread

variable {r r' : ResnThread}

theorem Inv.waited_of_ne (h : r.Inv) (hne : r.thread ≠ .running .loop) : r.waited = true := by
  by_contra hw
  exact hne (h.unwaited (Bool.eq_false_iff.mpr hw)).1

theorem Inv.step (h : r.Inv) (hstep : r.Step act r') : r'.Inv := by
  cases hstep with
  | idle => exact h
  | signal =>
    exact {
      unwaited := by
        intro hw
        obtain ⟨hloop, hrest⟩ := h.unwaited hw
        exact ⟨Waiter.signal_eq_running.mpr hloop, hrest⟩
      serving := fun pc hw hpc => h.serving pc hw (Waiter.signal_eq_running.mp hpc)
      noted := fun pc hw hpc => h.noted pc hw (Waiter.signal_eq_running.mp hpc) }
  | store event =>
    exact {
      unwaited := by
        intro hw
        obtain ⟨hloop, hacted, hplugged⟩ := h.unwaited hw
        have hw : r.waited = false := hw
        refine ⟨Waiter.signal_eq_running.mpr hloop, hacted, ?_⟩
        simp [storeStatus, hw, hplugged]
      serving := by
        intro pc hw hpc
        obtain ⟨status, hserving, -⟩ := h.serving pc hw (Waiter.signal_eq_running.mp hpc)
        exact ⟨status, hserving, rfl⟩
      noted := by
        intro pc hw _ _
        have hw : r.waited = true := hw
        simp [storeStatus, hw] }
  | wait hloop =>
    exact {
      unwaited := fun hw => by simp at hw
      serving := fun pc _ hpc => by simp at hpc
      noted := fun pc _ hpc => by simp at hpc }
  | spuriousWakeup hb =>
    have hw := h.waited_of_ne (by simp [hb])
    exact {
      unwaited := fun hn => by simp [hw] at hn
      serving := fun pc _ hpc => by simp at hpc
      noted := fun pc _ hpc => by simp at hpc }
  | copy hwoken =>
    have hw := h.waited_of_ne (by simp [hwoken])
    exact {
      unwaited := fun hn => by simp [hw] at hn
      serving := by
        intro pc _ hpc
        obtain rfl : ResnPc.copied r.edisplayEventStatus = pc := by simpa using hpc
        exact ⟨_, rfl, rfl⟩
      noted := fun pc _ _ hu => by simp at hu }
  | @move _ pc pc' _ hpc hne hserving =>
    have hw := h.waited_of_ne (by simpa [hpc] using hne)
    obtain ⟨status, hstatus, hcurrent⟩ := h.serving pc hw hpc
    exact {
      unwaited := fun hn => by simp [hw] at hn
      serving := by
        intro pc₁ _ hpc₁
        obtain rfl : pc' = pc₁ := by simpa using hpc₁
        exact ⟨status, hserving.trans hstatus, hcurrent⟩
      noted := fun _ _ _ hu => h.noted pc hw hpc hu }
  | actOn status pc hpc hserving =>
    have hw := h.waited_of_ne (by simp [hpc])
    obtain ⟨status', hstatus, hcurrent⟩ := h.serving _ hw hpc
    obtain rfl : status = status' := by simpa [ResnPc.serving] using hstatus
    exact {
      unwaited := fun hn => by simp [hw] at hn
      serving := by
        intro pc₁ _ hpc₁
        obtain rfl : pc = pc₁ := by simpa using hpc₁
        exact ⟨status, hserving, hcurrent⟩
      noted := fun _ _ _ hu => h.noted _ hw hpc hu }

/-- Going to wait is safe exactly when no status was stored behind the thread's back. -/
theorem Inv.kept_wait (h : r.Inv) (hloop : r.thread = .running .loop) :
    Kept { r with thread := .blocked, waited := true } ↔
      ∀ acted, r.acted = some acted → ∀ status, r.unserved = some status → status = acted := by
  cases hw : r.waited with
  | false =>
    obtain ⟨-, hacted, hplugged⟩ := h.unwaited hw
    simp [Kept, hacted, hplugged]
  | true =>
    obtain ⟨acted, hacted, hcurrent⟩ := h.serving _ hw hloop
    have hacted : r.acted = some acted := hacted
    cases hu : r.unserved with
    | none =>
      rw [hu] at hcurrent
      simp [Kept, hacted, ← hcurrent]
    | some status =>
      rw [hu] at hcurrent
      have hplugged := h.noted _ hw hloop (by simp [hu])
      simp [Kept, hacted, hplugged, ← hcurrent, eq_comm]

theorem Kept.step (hk : r.Kept) (hstep : r.Step act r') (hne : act ≠ .wait) : r'.Kept := by
  intro hb hp
  cases hstep with
  | idle => exact hk hb hp
  | signal | store => exact absurd hb (Waiter.signal_ne_blocked _)
  | wait => exact absurd rfl hne
  | spuriousWakeup | copy | move | actOn => simp at hb

end ResnThread

theorem caught_iff_kept (h : s.resn.Inv) (hk : s.resn.Kept) (hstep : step s act = some s') :
    Caught s act ↔ s'.resn.Kept := by
  by_cases hact : act = .wait
  · subst hact
    obtain ⟨hloop, rfl⟩ := of_guard hstep
    exact (h.kept_wait hloop).symm
  · have hcaught : Caught s act := by
      cases act with
      | wait => exact absurd rfl hact
      | _ => trivial
    exact iff_of_true hcaught (hk.step (step_resn hstep) hact)

theorem hotplug_kept_iff {n : Int} {b : Bool} {as : List Action}
    (hrun : run step (State.init n b) as = some s) :
    Along step Caught (State.init n b) as ↔
      ∀ pre t, pre <+: as → run step (State.init n b) pre = some t →
        t.resn.thread = .blocked → t.resn.plugged = true →
          t.resn.acted = some t.resn.edisplayEventStatus :=
  along_iff (fun s => s.resn.Inv) (fun s => s.resn.Kept)
    (fun _ _ _ h _ hstep => h.step (step_resn hstep))
    (fun _ _ _ h hk hstep => caught_iff_kept h hk hstep)
    (ResnThread.Inv.init n b) (fun hb => by simp [State.init] at hb) hrun

def lostRun : List Action :=
  [.wait, .process (.hdmiHotplug .connected), .copy, .removeSource, .actOn,
    .process (.hdmiHotplug .disconnected), .setAudioMode, .wait]

theorem hotplug_lost :
    ∃ s, run step (State.init 1 false) lostRun = some s ∧ s.resn.thread = .blocked ∧
      s.resn.plugged = true ∧ s.resn.acted = some .connected ∧
      s.resn.edisplayEventStatus = .disconnected :=
  ⟨_, rfl, rfl, rfl, rfl, rfl⟩

theorem hotplug_kept_iff_lostRun : ¬ Along step Caught (State.init 1 false) lostRun := by
  intro hok
  have hkept := (hotplug_kept_iff rfl).mp hok lostRun _ (List.prefix_refl _) rfl rfl rfl
  exact absurd hkept (by decide)

def ResnPc.Removed : ResnPc → Prop
  | .removed _ | .scheduling | .storing _ => True
  | _ => False

/-- Each source is named by `hotplug_event_src`, about to be, or has its callback running.  Nobody
but the resolution thread stores an id, so what it has removed and cleared stays so. -/
structure TimerInv (s : State) : Prop where
  nodup : s.timer.sources.Nodup
  positive : 0 ∉ s.timer.sources
  named : ∀ source ∈ s.timer.sources, source = s.timer.hotplugEventSrc ∨
    s.storing = some source ∨ ∃ pc, s.timer.callback = some (source, pc)
  live : s.timer.hotplugEventSrc ≠ 0 → s.timer.hotplugEventSrc ∈ s.timer.sources ∨ s.Clearing
  callback : ∀ source pc, s.timer.callback = some (source, pc) →
    source ≠ 0 ∧ (pc = .stored → s.timer.hotplugEventSrc ≠ source)
  removed : ∀ pc, s.resn.thread = .running pc → pc.Removed → s.timer.hotplugEventSrc = 0
  cleared : ∀ status, s.resn.thread = .running (.clearing status) →
    s.timer.hotplugEventSrc ∉ s.timer.sources

theorem TimerInv.init (n : Int) (b : Bool) : TimerInv (State.init n b) where
  nodup := List.nodup_nil
  positive := by simp [State.init]
  named source hmem := by cases hmem
  live hsrc := absurd rfl hsrc
  callback source pc hcb := by cases hcb
  removed pc hpc hr := rfl
  cleared status hpc := by cases hpc

theorem TimerInv.keep (h : TimerInv s) (htimer : s'.timer = s.timer)
    (hclearing : s.Clearing → s'.Clearing) (hstoring : s'.storing = s.storing)
    (hremoved : ∀ pc, s'.resn.thread = .running pc → pc.Removed → s.timer.hotplugEventSrc = 0)
    (hcleared : ∀ status, s'.resn.thread = .running (.clearing status) →
      s.timer.hotplugEventSrc ∉ s.timer.sources) : TimerInv s' where
  nodup := htimer ▸ h.nodup
  positive := htimer ▸ h.positive
  named := by
    rw [htimer, hstoring]
    exact h.named
  live := by
    rw [htimer]
    exact fun hsrc => (h.live hsrc).imp_right hclearing
  callback := htimer ▸ h.callback
  removed := htimer ▸ hremoved
  cleared := htimer ▸ hcleared

theorem TimerInv.move (h : TimerInv s) (htimer : s'.timer = s.timer)
    (hworker : s'.worker = s.worker)
    (hclearing : ∀ status, s.resn.thread ≠ .running (.clearing status))
    (hstoring : s'.storing = s.storing)
    (hpc : ∀ pc, s'.resn.thread = .running pc →
      (pc.Removed → s.timer.hotplugEventSrc = 0) ∧ ∀ status, pc ≠ .clearing status) :
    TimerInv s' := by
  refine h.keep htimer ?_ hstoring (fun pc hthread => (hpc pc hthread).1) fun status hthread => ?_
  · rintro (hw | ⟨status, hthread⟩)
    · exact .inl (hworker.trans hw)
    · exact absurd hthread (hclearing status)
  · exact absurd rfl ((hpc _ hthread).2 status)

theorem TimerInv.signalled (h : TimerInv s) (htimer : s'.timer = s.timer)
    (hclearing : s.worker = .clearing → s'.worker = .clearing)
    (hthread : s'.resn.thread = s.resn.thread ∨ s'.resn.thread = s.resn.thread.signal) :
    TimerInv s' := by
  have hrunning : ∀ pc, s'.resn.thread = .running pc ↔ s.resn.thread = .running pc := by
    intro pc
    rcases hthread with ht | ht <;> rw [ht]
    exact Waiter.signal_eq_running
  refine h.keep htimer (Or.imp hclearing fun ⟨status, hpc⟩ => ⟨status, (hrunning _).mpr hpc⟩) ?_
    (fun pc hpc => h.removed pc ((hrunning pc).mp hpc))
    (fun status hpc => h.cleared status ((hrunning _).mp hpc))
  rcases hthread with ht | ht
  · rw [State.storing, State.storing, ht]
  · rw [State.storing, State.storing, ht]
    cases s.resn.thread <;> rfl

theorem TimerInv.removeSource (h : TimerInv s) (htimer : s'.timer = s.timer.removeSource)
    (hclearing : s'.Clearing) (hstoring : s'.storing = s.storing)
    (hremoved : ∀ pc, s'.resn.thread = .running pc → pc.Removed →
      s.timer.hotplugEventSrc = 0) : TimerInv s' := by
  have hsub : s.timer.removeSource.sources ⊆ s.timer.sources := List.erase_subset
  refine
    { nodup := htimer ▸ h.nodup.erase _
      positive := htimer ▸ fun hmem => h.positive (hsub hmem)
      named := fun source hmem => ?_
      live := fun _ => .inr hclearing
      callback := htimer ▸ h.callback
      removed := htimer ▸ hremoved
      cleared := fun _ _ => htimer ▸ h.nodup.not_mem_erase }
  rw [htimer] at hmem ⊢
  rw [hstoring]
  exact h.named source (hsub hmem)

/-- A clear that wipes out the id of no source, unless the callback of that source runs. -/
theorem TimerInv.clear (h : TimerInv s) {callback : Option (Nat × CallbackPc)}
    (htimer : s'.timer = { s.timer.clear with callback := callback })
    (hstoring : s'.storing = s.storing)
    (hrunning : ∀ source, (∃ pc, callback = some (source, pc)) ↔
      ∃ pc, s.timer.callback = some (source, pc))
    (hlost : s.timer.hotplugEventSrc ∈ s.timer.sources →
      ∃ pc, callback = some (s.timer.hotplugEventSrc, pc)) : TimerInv s' := by
  have hsrc : s'.timer.hotplugEventSrc = 0 := htimer ▸ rfl
  refine
    { nodup := htimer ▸ h.nodup
      positive := htimer ▸ h.positive
      named := fun source hmem => ?_
      live := fun hne => absurd hsrc hne
      callback := fun source pc hcb => ?_
      removed := fun _ _ _ => hsrc
      cleared := fun _ _ => by rw [hsrc, htimer]; exact h.positive }
  · rw [htimer] at hmem ⊢
    rw [hstoring]
    obtain rfl | hs | hcb := h.named source hmem
    · exact .inr (.inr (hlost hmem))
    · exact .inr (.inl hs)
    · exact .inr (.inr ((hrunning source).mpr hcb))
  · rw [htimer] at hcb
    obtain ⟨pc', hcb'⟩ := (hrunning source).mp ⟨pc, hcb⟩
    have hne := (h.callback source pc' hcb').1
    exact ⟨hne, fun _ => hsrc ▸ hne.symm⟩

theorem TimerInv.attach (h : TimerInv s) {source : Nat}
    (hthread : s.resn.thread = .running .scheduling) (hfresh : s.timer.Fresh source) :
    TimerInv ({ s with timer := s.timer.attach source }.goto (.storing source)) where
  nodup := List.nodup_cons.mpr ⟨hfresh.2.1, h.nodup⟩
  positive hmem := (List.mem_cons.mp hmem).elim (fun hz => hfresh.1 hz.symm) h.positive
  named k hmem := by
    obtain rfl | hmem := List.mem_cons.mp hmem
    · exact .inr (.inl rfl)
    · refine (h.named k hmem).imp_right (.imp_left fun hs => ?_)
      simp [State.storing, hthread] at hs
  live hsrc := absurd (h.removed _ hthread trivial) hsrc
  callback := h.callback
  removed pc _ _ := h.removed _ hthread trivial
  cleared status hpc := by cases hpc

theorem TimerInv.storeSource (h : TimerInv s) {source : Nat}
    (hthread : s.resn.thread = .running (.storing source)) (hmem : source ∈ s.timer.sources)
    (hcb : s.timer.callback ≠ some (source, .stored)) :
    TimerInv ({ s with timer := s.timer.store source }.goto .loop) where
  nodup := h.nodup
  positive := h.positive
  named k hk := by
    obtain rfl | hs | hrunning := h.named k hk
    · exact absurd (h.removed _ hthread trivial ▸ hk) h.positive
    · obtain rfl : source = k := by simpa [State.storing, hthread] using hs
      exact .inl rfl
    · exact .inr (.inr hrunning)
  live _ := .inl hmem
  callback k pc hk := by
    refine ⟨(h.callback k pc hk).1, ?_⟩
    rintro rfl rfl
    exact hcb hk
  removed pc hpc hr := by
    obtain rfl : ResnPc.loop = pc := by simpa [State.goto] using hpc
    exact hr.elim
  cleared status hpc := by cases hpc

theorem TimerInv.fires (h : TimerInv s) {source : Nat} (hcb : s.timer.callback = none)
    (hmem : source ∈ s.timer.sources) :
    TimerInv { s with timer := { s.timer with callback := some (source, .started) } } where
  nodup := h.nodup
  positive := h.positive
  named k hk := by
    refine (h.named k hk).imp_right (.imp_right ?_)
    rintro ⟨pc, hpc⟩
    cases hcb.symm.trans hpc
  live := h.live
  callback k pc hk := by
    obtain ⟨rfl, rfl⟩ : source = k ∧ .started = pc := by simpa using hk
    exact ⟨fun hz => h.positive (hz ▸ hmem), nofun⟩
  removed := h.removed
  cleared := h.cleared

theorem TimerInv.resolves (h : TimerInv s) {source : Nat}
    (hcb : s.timer.callback = some (source, .started)) :
    TimerInv { s with timer := { s.timer with callback := some (source, .resolved) } } where
  nodup := h.nodup
  positive := h.positive
  named k hk := by
    refine (h.named k hk).imp_right (.imp_right ?_)
    rintro ⟨pc, hpc⟩
    obtain ⟨rfl, -⟩ : source = k ∧ .started = pc := by simpa [hcb] using hpc
    exact ⟨.resolved, rfl⟩
  live := h.live
  callback k pc hk := by
    obtain ⟨rfl, rfl⟩ : source = k ∧ .resolved = pc := by simpa using hk
    exact ⟨(h.callback _ _ hcb).1, nofun⟩
  removed := h.removed
  cleared := h.cleared

theorem TimerInv.returns (h : TimerInv s) {source : Nat}
    (hcb : s.timer.callback = some (source, .stored)) :
    TimerInv { s with
      timer := { s.timer with sources := s.timer.sources.erase source, callback := none } } where
  nodup := h.nodup.erase _
  positive hmem := h.positive (List.mem_of_mem_erase hmem)
  named k hk := by
    obtain ⟨hne, hk⟩ := h.nodup.mem_erase_iff.mp hk
    refine (h.named k hk).imp_right (.imp_right ?_)
    rintro ⟨pc, hpc⟩
    obtain ⟨rfl, -⟩ : source = k ∧ .stored = pc := by simpa [hcb] using hpc
    exact absurd rfl hne
  live hsrc := by
    have hne := (h.callback _ _ hcb).2 rfl
    exact (h.live hsrc).imp_left fun hmem => h.nodup.mem_erase_iff.mpr ⟨hne, hmem⟩
  callback k pc hk := by cases hk
  removed := h.removed
  cleared status hpc hmem := h.cleared status hpc (List.mem_of_mem_erase hmem)

theorem TimerInv.worker (h : TimerInv s) (hright : StoresRight s .worker)
    (hstep : workerStep s = some s') : TimerInv s' := by
  simp only [workerStep] at hstep
  cases hworker : s.worker with
  | idle =>
    simp only [hworker] at hstep
    cases hstep
  | tuned =>
    simp only [hworker] at hstep
    obtain rfl := Option.some.inj hstep
    exact h.signalled rfl (by simp [hworker]) (.inr rfl)
  | removing =>
    simp only [hworker] at hstep
    obtain rfl := Option.some.inj hstep
    exact h.removeSource rfl (.inl rfl) rfl h.removed
  | clearing =>
    simp only [hworker] at hstep
    obtain rfl := Option.some.inj hstep
    exact h.clear rfl rfl (fun _ => .rfl) fun hmem => absurd hmem (hright hworker)
  | resolving | failed =>
    simp only [hworker] at hstep
    obtain rfl := Option.some.inj hstep
    split <;> exact h.signalled rfl (by simp [hworker]) (.inl rfl)
  | authenticated | broadcasting state =>
    simp only [hworker] at hstep
    obtain rfl := Option.some.inj hstep
    exact h.signalled rfl (by simp [hworker]) (.inl rfl)

theorem TimerInv.step (h : TimerInv s) (hright : StoresRight s act)
    (hstep : step s act = some s') : TimerInv s' := by
  cases act with
  | process event =>
    obtain ⟨hidle, rfl⟩ := of_guard hstep
    cases event with
    | tuneReady =>
      simp only [processEvent]
      split
      · exact h.signalled rfl (by simp [hidle]) (.inl rfl)
      · exact h
    | hdmiHotplug event => exact h.signalled rfl id (.inr rfl)
    | hdcpStatus status =>
      cases status <;> exact h.signalled rfl (by simp [hidle]) (.inl rfl)
  | worker => exact h.worker hright hstep
  | wait =>
    obtain ⟨hw, rfl⟩ := of_guard hstep
    exact h.move rfl rfl (by simp [hw]) (by simp [State.storing, hw]) (by simp)
  | spuriousWakeup =>
    obtain ⟨hw, rfl⟩ := of_guard hstep
    exact h.move rfl rfl (by simp [hw]) (by simp [State.storing, hw]) (by simp)
  | copy =>
    obtain ⟨hw, rfl⟩ := of_guard hstep
    exact h.move rfl rfl (by simp [hw]) (by simp [State.storing, hw]) (by simp [ResnPc.Removed])
  | removeSource =>
    obtain ⟨pc, hpc, hk⟩ := atPc_some hstep
    cases pc with
    | copied status =>
      obtain rfl := Option.some.inj hk
      refine h.move rfl rfl (by simp [hpc]) ?_ ?_
      · split <;> simp [State.storing, State.goto, hpc]
      · by_cases hsrc : s.timer.hotplugEventSrc = 0 <;> simp [State.goto, hsrc, ResnPc.Removed]
    | removing status =>
      obtain rfl := Option.some.inj hk
      refine h.removeSource rfl (.inr ⟨status, rfl⟩) (by simp [State.storing, State.goto, hpc]) ?_
      simp [State.goto, ResnPc.Removed]
    | clearing status =>
      obtain rfl := Option.some.inj hk
      exact h.clear rfl (by simp [State.storing, State.goto, hpc]) (fun _ => .rfl) fun hmem =>
        absurd hmem (h.cleared status hpc)
    | _ => cases hk
  | actOn =>
    obtain ⟨pc, hpc, hk⟩ := atPc_some hstep
    cases pc with
    | removed status =>
      obtain rfl := Option.some.inj hk
      obtain ⟨pc', hpc', hresn, htimer, hworker⟩ := actOnStatus_cases s status
      have hsrc := h.removed _ hpc trivial
      simp only [List.mem_cons, List.not_mem_nil, or_false] at hpc'
      refine h.move htimer hworker (by simp [hpc]) ?_ ?_ <;>
        rcases hpc' with rfl | rfl | rfl | rfl <;> simp [State.storing, hresn, hpc, hsrc]
    | _ => cases hk
  | setResolution =>
    obtain ⟨hw, rfl⟩ := of_guard hstep
    exact h.move rfl rfl (by simp [hw]) (by simp [State.storing, State.goto, hw])
      (by simp [State.goto, ResnPc.Removed])
  | setAudioMode =>
    obtain ⟨hw, rfl⟩ := of_guard hstep
    exact h.move rfl rfl (by simp [hw]) (by simp [State.storing, State.goto, hw])
      (by simp [State.goto, ResnPc.Removed])
  | schedule componentPort source =>
    obtain ⟨⟨hw, hfresh⟩, rfl⟩ := of_guard hstep
    cases componentPort with
    | true => exact h.attach hw (hfresh rfl)
    | false =>
      exact h.move rfl rfl (by simp [hw]) (by simp [State.storing, State.goto, hw])
        (by simp [State.goto, ResnPc.Removed])
  | storeSource =>
    obtain ⟨pc, hpc, hk⟩ := atPc_some hstep
    cases pc with
    | storing source =>
      obtain rfl := Option.some.inj hk
      obtain ⟨hmem, hcb⟩ := hright source (by simp [State.storing, hpc])
      exact h.storeSource hpc hmem hcb
    | _ => cases hk
  | timerFires source =>
    obtain ⟨⟨hcb, hmem⟩, rfl⟩ := of_guard hstep
    exact h.fires hcb hmem
  | callbackResolves =>
    obtain ⟨⟨source, pc⟩, t, hcb, hk, rfl⟩ := inCallback_some hstep
    cases pc with
    | started =>
      obtain rfl := Option.some.inj hk
      exact h.resolves hcb
    | _ => cases hk
  | callbackStores =>
    obtain ⟨⟨source, pc⟩, t, hcb, hk, rfl⟩ := inCallback_some hstep
    cases pc with
    | resolved =>
      obtain rfl := Option.some.inj hk
      refine h.clear rfl rfl (fun k => by simp [hcb]) fun hmem => ⟨.stored, ?_⟩
      rw [hright _ hcb hmem]
    | _ => cases hk
  | callbackReturns =>
    obtain ⟨⟨source, pc⟩, t, hcb, hk, rfl⟩ := inCallback_some hstep
    cases pc with
    | stored =>
      obtain rfl := Option.some.inj hk
      exact h.returns hcb
    | _ => cases hk

theorem TimerInv.tracked (h : TimerInv s) (hcb : s.timer.callback = none) : Tracked s := by
  have hnamed : ∀ source ∈ s.timer.sources,
      source = s.timer.hotplugEventSrc ∨ s.storing = some source := by
    intro source hmem
    refine (h.named source hmem).imp_right fun hs => hs.resolve_right ?_
    rintro ⟨pc, hpc⟩
    cases hcb.symm.trans hpc
  have hsame : ∀ k ∈ s.timer.sources, ∀ l ∈ s.timer.sources, k = l := by
    have hzero : ∀ k, s.storing = some k → s.timer.hotplugEventSrc = 0 := by
      intro k hk
      simp only [State.storing] at hk
      split at hk
      · next source hpc => exact h.removed _ hpc trivial
      · cases hk
    intro k hk l hl
    obtain rfl | hks := hnamed k hk <;> obtain rfl | hls := hnamed l hl
    · rfl
    · exact absurd (hzero l hls ▸ hk) h.positive
    · exact absurd (hzero k hks ▸ hl) h.positive
    · exact Option.some.inj (hks.symm.trans hls)
  refine ⟨fun hclearing hstoring source => ⟨fun hmem => ?_, ?_⟩, hnamed, h.live, ?_,
    fun hstoring => ?_⟩
  · obtain rfl | hs := hnamed source hmem
    · exact ⟨fun hz => h.positive (hz ▸ hmem), rfl⟩
    · cases hstoring.symm.trans hs
  · rintro ⟨hsrc, rfl⟩
    exact (h.live hsrc).resolve_right hclearing
  · match hsources : s.timer.sources with
    | [] | [_] => simp
    | k :: l :: rest =>
      have hnodup := hsources ▸ h.nodup
      have heq : k = l := hsame k (by simp [hsources]) l (by simp [hsources])
      simp [heq] at hnodup
  · have hall : ∀ source ∈ s.timer.sources, source = s.timer.hotplugEventSrc := fun source hmem =>
      (hnamed source hmem).resolve_right (by simp [hstoring])
    refine List.eq_nil_iff_forall_not_mem.mpr fun source hmem => ?_
    unfold DelayedTimer.remove at hmem
    split at hmem
    · obtain ⟨hne, hmem⟩ := h.nodup.mem_erase_iff.mp hmem
      exact hne (hall source hmem)
    · next hz => exact h.positive (by rwa [hall source hmem, not_not.mp hz] at hmem)

/-- In every state with no callback midway the sources and `hotplug_event_src` go together, as long
as no store to it wipes out or outlives a live source. -/
theorem delayedTimer_tracked {n : Int} {b : Bool} {as : List Action}
    (hright : Along step StoresRight (State.init n b) as)
    (hrun : run step (State.init n b) as = some s) (hcb : s.timer.callback = none) : Tracked s := by
  have h : TimerInv s := run_invariant_along TimerInv
    (fun _ _ _ h hright hstep => h.step hright hstep) (TimerInv.init n b) hright hrun
  exact h.tracked hcb

def clobberedRun : List Action :=
  [.wait, .process (.hdmiHotplug .disconnected), .copy, .removeSource, .actOn, .schedule true 1,
    .storeSource, .wait, .timerFires 1, .process (.hdmiHotplug .disconnected), .copy,
    .removeSource, .removeSource, .removeSource, .actOn, .schedule true 2, .storeSource,
    .callbackResolves, .callbackStores, .callbackReturns]

theorem delayedTimer_clobbered :
    ∃ s, run step (State.init 1 false) clobberedRun = some s ∧ s.timer.callback = none ∧
      s.timer.sources = [2] ∧ s.timer.hotplugEventSrc = 0 ∧ s.timer.remove.sources = [2] :=
  ⟨_, rfl, rfl, rfl, rfl, rfl⟩

def trackedRun : List Action :=
  [.wait, .process (.hdmiHotplug .disconnected), .copy, .removeSource, .actOn, .schedule true 1,
    .storeSource, .wait, .timerFires 1, .callbackResolves, .callbackStores, .callbackReturns,
    .process (.hdmiHotplug .disconnected), .copy, .removeSource, .actOn, .schedule true 2,
    .storeSource]

theorem delayedTimer_tracked_trackedRun :
    ∃ s, run step (State.init 1 false) trackedRun = some s ∧ s.timer.sources = [2] ∧
      Tracked s :=
  ⟨_, rfl, rfl, @delayedTimer_tracked _ 1 false trackedRun (by decide) rfl rfl⟩

end IarmMgrs.DsMgr.HotPlug
