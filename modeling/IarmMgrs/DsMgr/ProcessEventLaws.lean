import IarmMgrs.DsMgr.ProcessEvent
import IarmMgrs.DsMgr.EventQueueLaws
import IarmMgrs.SysMgr.StatesLaws
import Mathlib.Data.List.Induction

namespace IarmMgrs.DsMgr.ProcessEvent

open Lib Lib.CString Lib.Transition
open EventQueue (EventSizes Event Delivery makeEventItem)
open HotPlug (BusEvent DsHdcpStatus DsDisplayEvent)
open SysMgr.States (SystemStates sysEventHandler)

variable {L : EventLayout} {s t : HotPlug.State} {d : Delivery} {event : DsDisplayEvent}
  {status : DsHdcpStatus}

def announced : DsHdcpStatus → Int
  | .authenticationFailure => 0
  | _ => 1

def authenticatedAfter (b : Bool) : DsHdcpStatus → Bool
  | .authenticated => true
  | .authenticationFailure => false
  | .other => b

theorem workerGoes_idle (hs : s.worker = .idle) : workerGoes s = s := by
  simp [workerGoes, HotPlug.workerStep, hs]

theorem carryThrough_tuneReady_again (hs : s.worker = .idle) (ht : s.iTuneReady ≠ 0) :
    carryThrough s .tuneReady = s := by
  simp only [carryThrough, HotPlug.processEvent, if_neg ht, workerGoes_idle hs]

theorem carryThrough_tuneReady (hs : s.worker = .idle) (ht : s.iTuneReady = 0) :
    carryThrough s .tuneReady = { s with iTuneReady := 1, resn := s.resn.signal } := by
  cases s
  subst hs
  simp only [carryThrough, HotPlug.processEvent, if_pos ht]
  rfl

theorem carryThrough_hotplug (hs : s.worker = .idle) :
    carryThrough s (.hdmiHotplug event) = { s with resn := s.resn.storeStatus event } := by
  cases s
  subst hs
  rfl

theorem carryThrough_authenticated (hs : s.worker = .idle) :
    carryThrough s (.hdcpStatus .authenticated) =
      { s with
        bHDCPAuthenticated := true
        timer := s.timer.remove
        bootupFlagEnabled := false
        resolutions := s.resolutions + (!s.isIgnoreEdid || s.bootupFlagEnabled).toNat
        broadcasts := s.broadcasts ++ [1] } := by
  obtain ⟨tuneReady, authenticated, bootup, ignoreEdid, resn, timer, worker, resolutions, sent⟩ := s
  subst hs
  by_cases hsrc : timer.hotplugEventSrc = 0 <;> cases ignoreEdid <;> cases bootup <;>
    simp [carryThrough, HotPlug.processEvent, workerGoes, HotPlug.workerStep,
      HotPlug.DelayedTimer.remove, hsrc]

theorem carryThrough_hdcp (status : DsHdcpStatus) (hs : s.worker = .idle) :
    (carryThrough s (.hdcpStatus status)).worker = .idle ∧
      (carryThrough s (.hdcpStatus status)).broadcasts = s.broadcasts ++ [announced status] ∧
      (carryThrough s (.hdcpStatus status)).bHDCPAuthenticated =
        authenticatedAfter s.bHDCPAuthenticated status := by
  cases status with
  | authenticated =>
    rw [carryThrough_authenticated hs]
    exact ⟨hs, rfl, rfl⟩
  | authenticationFailure =>
    obtain ⟨tuneReady, authenticated, bootup, ignoreEdid, resn, timer, worker, resolutions, sent⟩ :=
      s
    subst hs
    cases ignoreEdid <;> exact ⟨rfl, rfl, rfl⟩
  | other =>
    obtain ⟨tuneReady, authenticated, bootup, ignoreEdid, resn, timer, worker, resolutions, sent⟩ :=
      s
    subst hs
    exact ⟨rfl, rfl, rfl⟩

theorem sysEventHandler_hdcpEvent (state : Int) (ss : SystemStates) :
    sysEventHandler ss (hdcpEvent state) .hdcpEnabled =
      { ss .hdcpEnabled with state := state, error := 0 } := by
  have howner : cstr 0 SysMgr.States.iarmBusSysMgrName = SysMgr.States.iarmBusSysMgrName := by
    decide
  have haccepted : (hdcpEvent state).Accepted :=
    ⟨rfl, congrArg some howner, rfl, Nat.le_refl _⟩
  have hreport : SysMgr.States.reportOf .hdcpEnabled (hdcpEvent state) =
      (hdcpEvent state).data := by
    rw [SysMgr.States.reportOf, if_pos haccepted]
    rfl
  rw [SysMgr.States.sysEventHandler_apply, hreport]
  rfl

theorem deliverBroadcasts_append (states : List Int) (state : Int) (ss : SystemStates) :
    (deliverBroadcasts (states ++ [state]) ss .hdcpEnabled).state = state := by
  rw [deliverBroadcasts, List.foldl_append, List.foldl_cons, List.foldl_nil,
    sysEventHandler_hdcpEvent]

def IsHdcpStatus (L : EventLayout) (d : Delivery) : Prop :=
  d.owner = iarmBusDsMgrName ∧ d.eventId = L.eventHdcpStatus

theorem processEvent_hdcp (hd : IsHdcpStatus L d) :
    processEvent L s d = carryThrough s (.hdcpStatus (L.classify (L.hdcpStatus d.data))) := by
  have hname : iarmBusDsMgrName ≠ SysMgr.States.iarmBusSysMgrName := by decide
  simp [processEvent, decode, hd.1, hd.2, hname, L.hotplug_ne_hdcp.symm]

theorem foldl_hdcp (ds : List Delivery) (hd : ∀ d ∈ ds, IsHdcpStatus L d) (hs : s.worker = .idle) :
    (ds.foldl (processEvent L) s).worker = .idle ∧
      (ds.foldl (processEvent L) s).broadcasts =
        s.broadcasts ++ ds.map fun d => announced (L.classify (L.hdcpStatus d.data)) := by
  induction ds using List.reverseRecOn with
  | nil => exact ⟨hs, by simp⟩
  | append_singleton ds d ih =>
    obtain ⟨hidle, hb⟩ := ih fun d hmem => hd d (List.mem_append_left _ hmem)
    have hlast := hd d (by simp)
    obtain ⟨hidle', hb', -⟩ := carryThrough_hdcp (L.classify (L.hdcpStatus d.data)) hidle
    rw [List.foldl_append, List.foldl_cons, List.foldl_nil, processEvent_hdcp hlast]
    exact ⟨hidle', by rw [hb', hb]; simp⟩

/-- After HDCP events SysMgr holds HDCP as enabled exactly if DSMgr has it authenticated or
the last status decides nothing. -/
theorem hdcp_agreement (L : EventLayout) (ds : List Delivery) (d : Delivery)
    (hd : ∀ e ∈ ds ++ [d], IsHdcpStatus L e) (s : HotPlug.State) (hs : s.worker = .idle)
    (ss : SystemStates) :
    let s' := (ds ++ [d]).foldl (processEvent L) s
    let ss' := deliverBroadcasts (s'.broadcasts.drop s.broadcasts.length) ss
    (ss' .hdcpEnabled).state =
      if s'.bHDCPAuthenticated = true ∨ L.classify (L.hdcpStatus d.data) = .other then 1
        else 0 := by
  obtain ⟨hidle, -⟩ := foldl_hdcp ds (fun d hmem => hd d (List.mem_append_left _ hmem)) hs
  have hb := (foldl_hdcp (ds ++ [d]) hd hs).2
  obtain ⟨-, -, hauth⟩ := carryThrough_hdcp (L.classify (L.hdcpStatus d.data)) hidle
  rw [← processEvent_hdcp (hd d (by simp))] at hauth
  simp only [hb, List.drop_left, List.map_append, List.map_singleton, deliverBroadcasts_append]
  rw [List.foldl_append, List.foldl_cons, List.foldl_nil, hauth]
  cases L.classify (L.hdcpStatus d.data) <;> simp [announced, authenticatedAfter]

def firstInt (data : List UInt8) : Int :=
  match data with
  | b₀ :: b₁ :: b₂ :: b₃ :: _ =>
    (BitVec.ofNat 32 (b₀.toNat + 256 * (b₁.toNat + 256 * (b₂.toNat + 256 * b₃.toNat)))).toInt
  | _ => 0

def sampleLayout : EventLayout where
  sizes := ⟨648, 64⟩
  eventHdmiHotplug := 4
  eventHdcpStatus := 12
  hotplug_ne_hdcp := by decide
  displayEventConnected := 0
  hdcpStatusAuthenticated := 2
  hdcpStatusAuthenticationFailure := 3
  stateId := firstInt
  hdmiHpdEvent := firstInt
  hdcpStatus := firstInt

def hdcpDelivery (status : UInt8) : Delivery :=
  ⟨iarmBusDsMgrName, 12, [status, 0, 0, 0], 4⟩

theorem hdcp_agreement_sample :
    (deliverBroadcasts (([hdcpDelivery 1, hdcpDelivery 2].foldl (processEvent sampleLayout)
      (.init 0 false)).broadcasts.drop 0) .start .hdcpEnabled).state = 1 :=
  hdcp_agreement sampleLayout [hdcpDelivery 1] (hdcpDelivery 2)
    (by simp [IsHdcpStatus, hdcpDelivery, sampleLayout]) (.init 0 false) rfl .start

/-- A status that decides nothing is announced as enabled while nothing is authenticated. -/
theorem hdcp_disagreement : ¬ ∀ (L : EventLayout) (ds : List Delivery) (d : Delivery),
    (∀ e ∈ ds ++ [d], IsHdcpStatus L e) → ∀ (s : HotPlug.State), s.worker = .idle →
      ∀ (ss : SystemStates),
        let s' := (ds ++ [d]).foldl (processEvent L) s
        let ss' := deliverBroadcasts (s'.broadcasts.drop s.broadcasts.length) ss
        (ss' .hdcpEnabled).state = 1 ↔ s'.bHDCPAuthenticated = true := by
  intro hall
  have h := hall sampleLayout [] (hdcpDelivery 1)
    (by simp [IsHdcpStatus, hdcpDelivery, sampleLayout]) (.init 0 false) rfl .start
  exact absurd (h.mp rfl) (by decide)

def statusOf (L : EventLayout) (d : Delivery) : DsHdcpStatus := L.classify (L.hdcpStatus d.data)

/-- The status behind some earlier ones sets a resolution: with the EDID ignored the first
pass does, otherwise every pass and every failure. -/
def SetsResolution (isIgnoreEdid : Bool) (earlier : List DsHdcpStatus) (status : DsHdcpStatus) :
    Prop :=
  if isIgnoreEdid then status = .authenticated ∧ .authenticated ∉ earlier
  else status = .authenticated ∨ status = .authenticationFailure

instance SetsResolution.decidable (isIgnoreEdid : Bool) (earlier : List DsHdcpStatus)
    (status : DsHdcpStatus) : Decidable (SetsResolution isIgnoreEdid earlier status) := by
  unfold SetsResolution
  infer_instance

theorem carryThrough_hdcp_resolutions (status : DsHdcpStatus) (hs : s.worker = .idle) :
    (carryThrough s (.hdcpStatus status)).isIgnoreEdid = s.isIgnoreEdid ∧
      (carryThrough s (.hdcpStatus status)).bootupFlagEnabled =
        (s.bootupFlagEnabled && status != .authenticated) ∧
      (carryThrough s (.hdcpStatus status)).resolutions = s.resolutions +
        if s.isIgnoreEdid then (s.bootupFlagEnabled && status == .authenticated).toNat
        else (status != .other).toNat := by
  cases status with
  | authenticated =>
    rw [carryThrough_authenticated hs]
    refine ⟨rfl, by simp, ?_⟩
    cases s.isIgnoreEdid <;> cases s.bootupFlagEnabled <;> rfl
  | authenticationFailure | other =>
    obtain ⟨tuneReady, authenticated, bootup, ignoreEdid, resn, timer, worker, resolutions, sent⟩ :=
      s
    subst hs
    cases ignoreEdid <;> cases bootup <;> exact ⟨rfl, rfl, rfl⟩

section Startup

variable (n : Int) (isIgnoreEdid : Bool)

/-- The boot flag remembers whether a status has passed. -/
theorem foldl_hdcp_bootup (ds : List Delivery) (hd : ∀ d ∈ ds, IsHdcpStatus L d) :
    (ds.foldl (processEvent L) (.init n isIgnoreEdid)).isIgnoreEdid = isIgnoreEdid ∧
      ((ds.foldl (processEvent L) (.init n isIgnoreEdid)).bootupFlagEnabled = true ↔
        .authenticated ∉ ds.map (statusOf L)) := by
  induction ds using List.reverseRecOn with
  | nil => exact ⟨rfl, by simp [HotPlug.State.init]⟩
  | append_singleton ds d ih =>
    have hds : ∀ d ∈ ds, IsHdcpStatus L d := fun d hmem => hd d (List.mem_append_left _ hmem)
    obtain ⟨hignore, hboot⟩ := ih hds
    obtain ⟨hidle, -⟩ := foldl_hdcp (s := .init n isIgnoreEdid) ds hds rfl
    obtain ⟨hignore', hboot', -⟩ := carryThrough_hdcp_resolutions (statusOf L d) hidle
    rw [List.foldl_append, List.foldl_cons, List.foldl_nil, processEvent_hdcp (hd d (by simp))]
    refine ⟨hignore'.trans hignore, ?_⟩
    rw [← statusOf, hboot', Bool.and_eq_true, hboot, bne_iff_ne]
    simp [eq_comm]

/-- The next HDCP event sets a resolution just when `SetsResolution` says so. -/
theorem foldl_hdcp_next (ds : List Delivery) (hd : ∀ e ∈ ds ++ [d], IsHdcpStatus L e) :
    ((ds ++ [d]).foldl (processEvent L) (.init n isIgnoreEdid)).resolutions =
      (ds.foldl (processEvent L) (.init n isIgnoreEdid)).resolutions +
        if SetsResolution isIgnoreEdid (ds.map (statusOf L)) (statusOf L d) then 1 else 0 := by
  have hds : ∀ d ∈ ds, IsHdcpStatus L d := fun d hmem => hd d (List.mem_append_left _ hmem)
  obtain ⟨hidle, -⟩ := foldl_hdcp (s := .init n isIgnoreEdid) ds hds rfl
  obtain ⟨hignore, hboot⟩ := foldl_hdcp_bootup n isIgnoreEdid ds hds
  obtain ⟨-, -, hcount⟩ := carryThrough_hdcp_resolutions (statusOf L d) hidle
  rw [List.foldl_append, List.foldl_cons, List.foldl_nil, processEvent_hdcp (hd d (by simp)),
    ← statusOf, hcount, hignore]
  refine congrArg (_ + ·) ?_
  cases isIgnoreEdid with
  | false => cases statusOf L d <;> rfl
  | true =>
    simp only [if_true, SetsResolution, ← hboot]
    cases hflag : (ds.foldl (processEvent L) (.init n true)).bootupFlagEnabled <;>
      cases statusOf L d <;> rfl

theorem foldl_hdcp_ignored (n : Int) (ds : List Delivery) (hd : ∀ d ∈ ds, IsHdcpStatus L d) :
    (ds.foldl (processEvent L) (.init n true)).resolutions =
      if .authenticated ∈ ds.map (statusOf L) then 1 else 0 := by
  induction ds using List.reverseRecOn with
  | nil => rfl
  | append_singleton ds d ih =>
    have hds : ∀ d ∈ ds, IsHdcpStatus L d := fun d hmem => hd d (List.mem_append_left _ hmem)
    rw [foldl_hdcp_next n _ ds hd, ih hds]
    by_cases hpassed : .authenticated ∈ ds.map (statusOf L)
    · simp [SetsResolution, hpassed]
    · simp [SetsResolution, hpassed, eq_comm]

theorem foldl_hdcp_counted (n : Int) (ds : List Delivery) (hd : ∀ d ∈ ds, IsHdcpStatus L d) :
    (ds.foldl (processEvent L) (.init n false)).resolutions =
      (ds.map (statusOf L)).countP (· != .other) := by
  induction ds using List.reverseRecOn with
  | nil => rfl
  | append_singleton ds d ih =>
    have hds : ∀ d ∈ ds, IsHdcpStatus L d := fun d hmem => hd d (List.mem_append_left _ hmem)
    rw [foldl_hdcp_next n _ ds hd, ih hds, List.map_append, List.countP_append]
    cases hstatus : statusOf L d <;> simp [SetsResolution, hstatus]

end Startup

/-- From start-up the resolution is set at the first pass only, if the EDID is ignored, and
at every pass and failure otherwise; every status is announced once, and the boot flag is
set until the first pass. -/
theorem hdcp_resolutions (L : EventLayout) (n : Int) (isIgnoreEdid : Bool) (ds : List Delivery)
    (hd : ∀ d ∈ ds, IsHdcpStatus L d) :
    let after (ds : List Delivery) := ds.foldl (processEvent L) (.init n isIgnoreEdid)
    let statuses := ds.map (statusOf L)
    (isIgnoreEdid = true →
      (after ds).resolutions = if .authenticated ∈ statuses then 1 else 0) ∧
    (isIgnoreEdid = false → (after ds).resolutions = statuses.countP (· != .other)) ∧
    ((after ds).bootupFlagEnabled = true ↔ .authenticated ∉ statuses) ∧
    (after ds).broadcasts = statuses.map announced ∧
    ∀ pre d, pre ++ [d] <+: ds → (after (pre ++ [d])).resolutions = (after pre).resolutions +
      if SetsResolution isIgnoreEdid (pre.map (statusOf L)) (statusOf L d) then 1 else 0 := by
  refine ⟨?_, ?_, (foldl_hdcp_bootup n isIgnoreEdid ds hd).2, ?_, ?_⟩
  · rintro rfl
    exact foldl_hdcp_ignored n ds hd
  · rintro rfl
    exact foldl_hdcp_counted n ds hd
  · have hsent := (foldl_hdcp (s := .init n isIgnoreEdid) ds hd rfl).2
    simpa [HotPlug.State.init, statusOf, Function.comp_def] using hsent
  · intro pre d hpre
    exact foldl_hdcp_next n isIgnoreEdid pre fun e hmem => hd e (hpre.subset hmem)

theorem hdcp_resolutions_sample :
    ([hdcpDelivery 3, hdcpDelivery 2, hdcpDelivery 2].foldl (processEvent sampleLayout)
      (.init 1 true)).resolutions = 1 :=
  (hdcp_resolutions sampleLayout 1 true [hdcpDelivery 3, hdcpDelivery 2, hdcpDelivery 2]
    (by simp [IsHdcpStatus, hdcpDelivery, sampleLayout])).1 rfl

theorem decode_hotplug {owner : List UInt8} {eventId : Int} {data : Option (List UInt8)}
    (h : decode L owner eventId data = some (.hdmiHotplug event)) :
    event = .connected ∨ event = .disconnected := by
  unfold decode at h
  split at h
  · -- The only event of the system manager is no hot-plug.
    split at h
    · cases h
    · split at h
      · cases h
      · split at h <;> cases h
  · split at h
    · split at h
      · obtain ⟨data, -, hevent⟩ := Option.map_eq_some_iff.mp h
        obtain rfl := BusEvent.hdmiHotplug.inj hevent
        split
        · exact .inl rfl
        · exact .inr rfl
      · split at h
        · obtain ⟨data, -, hevent⟩ := Option.map_eq_some_iff.mp h
          cases hevent
        · cases h
    · cases h

theorem Inert.refl (s : HotPlug.State) : Inert s s := ⟨rfl, rfl, rfl, rfl, rfl, rfl, rfl⟩

theorem inert_iff (hs : s.worker = .idle) :
    Inert s (processEvent L s d) ↔ Harmless L s d := by
  simp only [processEvent, Harmless]
  cases hdec : decode L d.owner d.eventId (some d.data) with
  | none => exact iff_of_true (Inert.refl s) trivial
  | some e =>
    cases e with
    | tuneReady =>
      by_cases ht : s.iTuneReady = 0
      · refine iff_of_false (fun hi => ?_) (not_not_intro ht)
        have hone := hi.iTuneReady
        simp only [carryThrough_tuneReady hs ht, ht] at hone
        cases hone
      · simp only [carryThrough_tuneReady_again hs ht]
        exact iff_of_true (Inert.refl s) ht
    | hdmiHotplug event =>
      have hstored : (if event = .connected then .connected else .disconnected) = event := by
        rcases decode_hotplug hdec with rfl | rfl <;> rfl
      simp only [carryThrough_hotplug hs]
      constructor
      · intro hi
        exact hstored.symm.trans hi.edisplayEventStatus
      · intro heq
        exact ⟨rfl, hstored.trans heq, rfl, rfl, rfl, rfl, rfl⟩
    | hdcpStatus status =>
      refine iff_of_false (fun hi => ?_) not_false
      have hsent := hi.broadcasts
      simp [(carryThrough_hdcp status hs).2.1] at hsent

theorem not_harmless_hdcp (hd : IsHdcpStatus L d) : ¬ Harmless L s d := by
  have hname : iarmBusDsMgrName ≠ SysMgr.States.iarmBusSysMgrName := by decide
  simp [Harmless, decode, hd.1, hd.2, hname, L.hotplug_ne_hdcp.symm]

/-- Whatever event the worker is handed from the queue, if it is malformed it is inert
exactly when its zero-filled copy is harmless. -/
theorem malformed_inert_iff {as : List EventQueue.Action} {q : EventQueue.State}
    (hrun : run (EventQueue.step L.sizes) EventQueue.State.init as = some q)
    {a : Addr} (hmem : (a, d) ∈ q.handed) {ev : Event} (hev : q.submitted a = some ev)
    {owner : List UInt8} (howner : ev.owner = some owner) (hs : s.worker = .idle) :
    (Malformed L ev → Inert s (processEvent L s d)) ↔
      (Malformed L ev → Harmless L s (makeEventItem L.sizes ev owner).delivery) := by
  obtain ⟨chain, hq, -⟩ := EventQueue.run_mailbox hrun
  obtain ⟨ev', owner', hev', howner', hcopy⟩ := hq.handed_content (a, d) hmem
  obtain rfl := Option.some.inj (hev.symm.trans hev')
  obtain rfl := Option.some.inj (howner.symm.trans howner')
  rw [← hcopy]
  exact imp_congr_right fun _ => inert_iff hs

def hotplugWithoutData : Event where
  owner := some iarmBusDsMgrName
  eventId := 4
  data := none
  len := 0
  len_le := by simp

def hdcpWithoutData : Event := { hotplugWithoutData with eventId := 12 }

def handOver (ev : Event) : List EventQueue.Action :=
  [.start, .createWorker true, .callHandler ev .succeeds, .enqueue 0, .workerSection, .workerCall]

theorem malformed_inert_iff_hotplug : ∃ q d,
    run (EventQueue.step sampleLayout.sizes) EventQueue.State.init (handOver hotplugWithoutData) =
      some q ∧ (0, d) ∈ q.handed ∧
      ((Malformed sampleLayout hotplugWithoutData →
          Inert (.init 0 false) (processEvent sampleLayout (.init 0 false) d)) ↔
        (Malformed sampleLayout hotplugWithoutData → Harmless sampleLayout (.init 0 false)
          (makeEventItem sampleLayout.sizes hotplugWithoutData iarmBusDsMgrName).delivery)) := by
  refine ⟨_, _, rfl, List.mem_singleton.mpr rfl, ?_⟩
  have hrun : run (EventQueue.step sampleLayout.sizes) EventQueue.State.init
      (handOver hotplugWithoutData) = some _ := rfl
  exact malformed_inert_iff hrun (List.mem_singleton.mpr rfl) rfl rfl rfl

theorem malformed_not_inert : ¬ ∀ (L : EventLayout) (as : List EventQueue.Action)
    (q : EventQueue.State), run (EventQueue.step L.sizes) EventQueue.State.init as = some q →
      ∀ a d ev, (a, d) ∈ q.handed → q.submitted a = some ev → Malformed L ev →
        ∀ s : HotPlug.State, s.worker = .idle → Inert s (processEvent L s d) := by
  intro hall
  have hi := hall sampleLayout (handOver hdcpWithoutData) _ rfl 0 _ hdcpWithoutData
    (List.mem_singleton.mpr rfl) rfl (.inl rfl) (.init 0 false) rfl
  exact not_harmless_hdcp ⟨by decide, rfl⟩ ((inert_iff rfl).mp hi)

end IarmMgrs.DsMgr.ProcessEvent
