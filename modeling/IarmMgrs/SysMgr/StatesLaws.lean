import IarmMgrs.SysMgr.States
import Mathlib.Data.List.Induction

namespace IarmMgrs.SysMgr.States

open Lib Lib.CString

variable {p q : Property} {d : SystemStateData} {s : SystemStates} {e : Event}

def Property.owner : Property → SystemState
  | .channelMap => .channelmap
  | .disconnectMgrState => .disconnectmgr
  | .tuneReadyStatus => .tuneready
  | .exitOkKeySequence => .exitOk
  | .cmac => .cmac
  | .cardMotoEntitlements => .motoEntitlement
  | .cardMotoHrvRx => .motoHrvRx
  | .dacInitTimestamp => .dacInitTimestamp
  | .cardCiscoStatus => .cardCiscoStatus
  | .videoPresenting => .videoPresenting
  | .hdmiOut => .hdmiOut
  | .hdcpEnabled => .hdcpEnabled
  | .hdmiEdidRead => .hdmiEdidRead
  | .firmwareDownload => .firmwareDwnld
  | .timeSource => .timeSource
  | .timeZoneAvailable => .timeZone
  | .caSystem => .caSystem
  | .estbIp => .estbIp
  | .ecmIp => .ecmIp
  | .lanIp => .lanIp
  | .moca => .moca
  | .docsis => .docsis
  | .dsgBroadcastTunnel => .dsgBroadcastChannel
  | .dsgCaTunnel => .dsgCaTunnel
  | .cableCard => .cableCard
  | .cableCardDownload => .cableCardDwnld
  | .cvrSubsystem => .cvrSubsystem
  | .download => .download
  | .vodAd => .vodAd
  | .cardSerialNo => .cableCardSerialNo
  | .ecmMac => .ecmMac
  | .dacId => .dacId
  | .plantId => .plantId
  | .stbSerialNo => .stbSerialNo
  | .bootup => .bootup
  | .dstOffset => .dstOffset
  | .rfConnected => .rfConnected
  | .partneridChanged => .partneridChange
  | .ipMode => .ipMode
  | .qamReadyStatus => .qamReady
  | .firmwareUpdateState => .firmwareUpdateState
  | .redRecovState => .redRecovUpdateState

inductive Style where | stateOnly | whole | bounded | errorBounded
  deriving DecidableEq

def Property.style : Property → Style
  | .channelMap | .timeZoneAvailable | .vodAd => .whole
  | .dacInitTimestamp | .dacId | .plantId | .dstOffset | .ipMode => .bounded
  | .cardSerialNo | .ecmMac | .stbSerialNo => .errorBounded
  | _ => .stateOnly

def Property.keepsState (p : Property) : Bool := p.style = .errorBounded

def Property.carriesPayload (p : Property) : Bool := p.style ≠ .stateOnly

def Style.store (d : SystemStateData) (v : StateProperty) : Style → StateProperty
  | .stateOnly => { v with state := d.state, error := d.error }
  | .whole => ⟨d.state, d.error, v.payload.copyWhole 0 d.payload.chars⟩
  | .bounded => ⟨d.state, d.error, v.payload.copyBounded 0 d.payload.chars (payloadSize - 1)⟩
  | .errorBounded =>
    ⟨v.state, d.error, v.payload.copyBounded 0 d.payload.chars (payloadSize - 1)⟩

theorem storeWhole_eq :
    storeWhole p d s = Function.update s p (Style.store d (s p) .whole) := by
  simp [storeWhole, copyPayload, storeState, Style.store]

theorem storeBounded_eq :
    storeBounded p d s = Function.update s p (Style.store d (s p) .bounded) := by
  simp [storeBounded, copyPayloadBounded, storeState, Style.store]

theorem storeErrorBounded_eq :
    storeErrorBounded p d s = Function.update s p (Style.store d (s p) .errorBounded) := by
  simp [storeErrorBounded, copyPayloadBounded, storeError, Style.store]

def SystemState.property : SystemState → Option Property
  | .channelmap => some .channelMap
  | .disconnectmgr => some .disconnectMgrState
  | .tuneready => some .tuneReadyStatus
  | .exitOk => some .exitOkKeySequence
  | .cmac => some .cmac
  | .motoEntitlement => some .cardMotoEntitlements
  | .motoHrvRx => some .cardMotoHrvRx
  | .dacInitTimestamp => some .dacInitTimestamp
  | .cardCiscoStatus => some .cardCiscoStatus
  | .videoPresenting => some .videoPresenting
  | .hdmiOut => some .hdmiOut
  | .hdcpEnabled => some .hdcpEnabled
  | .hdmiEdidRead => some .hdmiEdidRead
  | .firmwareDwnld => some .firmwareDownload
  | .timeSource => some .timeSource
  | .timeZone => some .timeZoneAvailable
  | .caSystem => some .caSystem
  | .estbIp => some .estbIp
  | .ecmIp => some .ecmIp
  | .lanIp => some .lanIp
  | .moca => some .moca
  | .docsis => some .docsis
  | .dsgBroadcastChannel => some .dsgBroadcastTunnel
  | .dsgCaTunnel => some .dsgCaTunnel
  | .cableCard => some .cableCard
  | .cableCardDwnld => some .cableCardDownload
  | .cvrSubsystem => some .cvrSubsystem
  | .download => some .download
  | .vodAd => some .vodAd
  | .cableCardSerialNo => some .cardSerialNo
  | .ecmMac => some .ecmMac
  | .dacId => some .dacId
  | .plantId => some .plantId
  | .stbSerialNo => some .stbSerialNo
  | .bootup => some .bootup
  | .dstOffset => some .dstOffset
  | .rfConnected => some .rfConnected
  | .partneridChange => some .partneridChanged
  | .ipMode => some .ipMode
  | .qamReady => some .qamReadyStatus
  | .firmwareUpdateState => some .firmwareUpdateState
  | .redRecovUpdateState => some .redRecovState
  | _ => none

theorem property_owner (p : Property) : p.owner.property = some p := by
  cases p <;> rfl

theorem owner_of_property {stateId : SystemState} (h : stateId.property = some p) :
    p.owner = stateId := by
  cases stateId <;> cases h <;> rfl

theorem handleState_property (stateId : SystemState) :
    handleState d s stateId =
      match stateId.property with
      | none => s
      | some p => Function.update s p (p.style.store d (s p)) := by
  cases stateId <;> first
    | rfl
    | exact storeWhole_eq
    | exact storeBounded_eq
    | exact storeErrorBounded_eq

theorem handleState_apply (stateId : SystemState) (p : Property) :
    handleState d s stateId p =
      if p.owner = stateId then p.style.store d (s p) else s p := by
  rw [handleState_property]
  by_cases hp : p.owner = stateId
  · subst hp
    simp [property_owner]
  · rw [if_neg hp]
    cases hq : stateId.property with
    | none => rfl
    | some q =>
      have hne : p ≠ q := fun h => hp (h ▸ owner_of_property hq)
      simp [Function.update_of_ne hne]

def Event.Accepted (e : Event) : Prop :=
  e.eventId = eventSystemState ∧ e.owner.map (cstr 0) = some iarmBusSysMgrName ∧
    e.data.isSome = true ∧ sizeofEventData ≤ e.len

instance (e : Event) : Decidable e.Accepted := inferInstanceAs (Decidable (_ ∧ _ ∧ _ ∧ _))

theorem acceptEvent_eq (e : Event) : acceptEvent e = if e.Accepted then e.data else none := by
  obtain ⟨owner, eventId, data, len⟩ := e
  by_cases hid : eventId = eventSystemState
  · cases owner with
    | none => simp [acceptEvent, Event.Accepted]
    | some owner =>
      cases data with
      | none => simp [acceptEvent, Event.Accepted]
      | some d =>
        by_cases hlen : len < sizeofEventData
        · simp [acceptEvent, Event.Accepted, hid, hlen, Nat.not_le.mpr hlen]
        · simp [acceptEvent, Event.Accepted, hid, hlen, Nat.not_lt.mp hlen]
  · simp [acceptEvent, Event.Accepted, hid]

def reportOf (p : Property) (e : Event) : Option SystemStateData :=
  if e.Accepted then e.data.filter fun d => SystemState.ofInt d.stateId = some p.owner else none

theorem sysEventHandler_apply (s : SystemStates) (e : Event) (p : Property) :
    sysEventHandler s e p =
      match reportOf p e with
      | none => s p
      | some d => p.style.store d (s p) := by
  unfold sysEventHandler reportOf
  rw [acceptEvent_eq]
  by_cases ha : e.Accepted
  · rw [if_pos ha, if_pos ha]
    cases e.data with
    | none => rfl
    | some d =>
      cases hstate : SystemState.ofInt d.stateId with
      | none => simp [Option.filter, hstate]
      | some stateId =>
        have happly := handleState_apply (d := d) (s := s) stateId p
        by_cases hp : p.owner = stateId
        · simpa [Option.filter, hstate, hp] using happly
        · simpa [Option.filter, hstate, hp, Ne.symm hp] using happly
  · simp [ha]

def Reports (p : Property) (v : StateProperty) : Option SystemStateData → Prop
  | none => v = SystemStates.start p
  | some d =>
    v.state = (if p.keepsState then (SystemStates.start p).state else d.state) ∧
      v.error = d.error ∧
      if p.carriesPayload then v.payload.str 0 = (cstr 0 d.payload.chars).take (payloadSize - 1)
      else v.payload = (SystemStates.start p).payload

theorem Reports.state {v : StateProperty} {last : Option SystemStateData}
    (h : Reports p v last) (hp : p.keepsState = true) :
    v.state = (SystemStates.start p).state := by
  cases last with
  | none => rw [h]
  | some d => rw [h.1, if_pos hp]

theorem Reports.payload {v : StateProperty} {last : Option SystemStateData}
    (h : Reports p v last) (hp : p.carriesPayload = false) :
    v.payload = (SystemStates.start p).payload := by
  cases last with
  | none => rw [h]
  | some d => simpa [hp] using h.2.2

theorem Reports.store {v : StateProperty} {last : Option SystemStateData}
    (h : Reports p v last) (d : SystemStateData) :
    Reports p (p.style.store d v) (some d) := by
  have hwhole := Buf.str_copyWhole 0 v.payload (s := d.payload.chars) (by decide)
    (Nat.le_of_eq d.payload.size.symm)
  have hbounded := Buf.str_copyBounded 0 v.payload d.payload.chars
    (show payloadSize - 1 < payloadSize by decide)
  cases hstyle : p.style with
  | stateOnly =>
    have hpayload := h.payload (by simp [Property.carriesPayload, hstyle])
    simp [Reports, Style.store, Property.keepsState, Property.carriesPayload, hstyle, hpayload]
  | whole =>
    simp [Reports, Style.store, Property.keepsState, Property.carriesPayload, hstyle, hwhole]
  | bounded =>
    simp [Reports, Style.store, Property.keepsState, Property.carriesPayload, hstyle, hbounded]
  | errorBounded =>
    have hstate := h.state (by simp [Property.keepsState, hstyle])
    simp [Reports, Style.store, Property.keepsState, Property.carriesPayload, hstyle, hbounded,
      hstate]

theorem Reports.step {last : Option SystemStateData} (h : Reports p (s p) last) (e : Event) :
    Reports p (sysEventHandler s e p) ((reportOf p e).or last) := by
  rw [sysEventHandler_apply]
  cases reportOf p e with
  | none => exact h
  | some d => exact h.store d

theorem terminated_store {v : StateProperty} (style : Style) (h : v.payload.Terminated 0) :
    (style.store d v).payload.Terminated 0 := by
  have hbounded := Buf.terminated_copyBounded 0 v.payload d.payload.chars
    (show payloadSize - 1 < payloadSize by decide)
  cases style with
  | stateOnly => exact h
  | whole =>
    exact Buf.terminated_copyWhole 0 v.payload (by decide) (Nat.le_of_eq d.payload.size.symm)
  | bounded => exact hbounded
  | errorBounded => exact hbounded

theorem terminated_step (h : (s p).payload.Terminated 0) (e : Event) :
    (sysEventHandler s e p).payload.Terminated 0 := by
  rw [sysEventHandler_apply]
  cases reportOf p e with
  | none => exact h
  | some d => exact terminated_store _ h

theorem start_payload (p : Property) :
    (SystemStates.start p).payload = Buf.zeroed 0 payloadSize := by
  unfold SystemStates.start
  split <;> rfl

def lastReport (p : Property) (es : List Event) : Option SystemStateData :=
  (es.filterMap (reportOf p)).getLast?

theorem lastReport_snoc (p : Property) (es : List Event) (e : Event) :
    lastReport p (es ++ [e]) = (reportOf p e).or (lastReport p es) := by
  cases h : reportOf p e <;> simp [lastReport, h]

theorem reports_run (es : List Event) (p : Property) :
    Reports p (es.foldl sysEventHandler .start p) (lastReport p es) := by
  induction es using List.reverseRecOn with
  | nil => rfl
  | append_singleton es e ih =>
    rw [List.foldl_concat, lastReport_snoc]
    exact ih.step e

theorem terminated_run (es : List Event) (p : Property) :
    (es.foldl sysEventHandler .start p).payload.Terminated 0 := by
  induction es using List.reverseRecOn with
  | nil => exact start_payload p ▸ Buf.terminated_zeroed 0 (by decide)
  | append_singleton es e ih =>
    rw [List.foldl_concat]
    exact terminated_step ih e

structure StoreContract (es : List Event) : Prop where
  snapshot : ∀ p, Reports p (getSystemStates (es.foldl sysEventHandler .start) p) (lastReport p es)
  frame : ∀ e p, (∀ d, e.data = some d → SystemState.ofInt d.stateId ≠ some p.owner) →
    sysEventHandler (es.foldl sysEventHandler .start) e p = es.foldl sysEventHandler .start p
  rejected : ∀ e, ¬ e.Accepted →
    sysEventHandler (es.foldl sysEventHandler .start) e = es.foldl sysEventHandler .start
  terminated : ∀ p, (getSystemStates (es.foldl sysEventHandler .start) p).payload.Terminated 0

theorem systemStates_correct (es : List Event) : StoreContract es where
  snapshot := reports_run es
  frame e p h := by
    have hnone : reportOf p e = none := by
      unfold reportOf
      split
      · exact Option.filter_eq_none_iff.mpr fun d hd => by simpa using h d hd
      · rfl
    rw [sysEventHandler_apply, hnone]
  rejected e h := by
    funext p
    rw [sysEventHandler_apply, reportOf, if_neg h]
  terminated := terminated_run es

end IarmMgrs.SysMgr.States
