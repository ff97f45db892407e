import IarmMgrs.DeviceUpdateMgr.Sessions
import Mathlib.Algebra.Group.Nat.Defs
import Mathlib.Data.List.Perm.Basic
import Mathlib.Data.List.Nodup

namespace IarmMgrs.DeviceUpdateMgr.Sessions

open Lib Lib.CString Lib.Transition

variable {cfg : Configuration} {owner : List UInt8} {hour id : BitVec 32} {e : Event}
  {u : Updates} {uip : UpdateInProgress} {s t : State}

def recorded (uip : UpdateInProgress) : Event → UpdateInProgress
  | .readyToDownload _ | .other _ => uip
  | .downloadStatus _ percentComplete => { uip with downloadPercent := percentComplete }
  | .loadStatus _ loadStatus => { uip with loadComplete := loadStatus = loadStatusEnd }
  | .error _ errorMessage errorType =>
    { uip with errorCode := errorType, errorMsg := errorMessage.str 0 }

def answers (cfg : Configuration) (hour : BitVec 32) : Event → List Broadcast
  | .readyToDownload id => if cfg.interactiveDownload then [] else [sendDownLoadInit cfg id]
  | .downloadStatus id percentComplete =>
    if 100 ≤ percentComplete.toInt then
      if cfg.interactiveLoad then [] else [sendLoadInit cfg hour id]
    else []
  | _ => []

theorem finds_iff : finds owner e u = true ↔
    cstr 0 owner = iarmBusDeviceUpdateName ∧
      ∃ id uip, e.updateSessionID = some id ∧ u id = some uip := by
  simp only [finds, Bool.and_eq_true, decide_eq_true_eq, Option.isSome_iff_exists,
    Option.bind_eq_some_iff]
  constructor
  · rintro ⟨ho, uip, id, hid, hu⟩
    exact ⟨ho, id, uip, hid, hu⟩
  · rintro ⟨ho, id, uip, hid, hu⟩
    exact ⟨ho, uip, id, hid, hu⟩

theorem handler_found (ho : cstr 0 owner = iarmBusDeviceUpdateName)
    (hid : e.updateSessionID = some id) (hu : u id = some uip) :
    deviceUpdateEventHandler cfg owner hour e u =
      (Function.update u id (some (recorded uip e)), answers cfg hour e) := by
  rw [deviceUpdateEventHandler, if_pos ho]
  cases e with
  | other => cases hid
  | _ =>
    obtain rfl := Option.some.inj hid
    simp only [handleEvent, withUpdateInProgress, hu, recorded, answers]

theorem handler_missed (h : finds owner e u = false) :
    deviceUpdateEventHandler cfg owner hour e u = (u, []) := by
  rw [deviceUpdateEventHandler]
  split
  case isFalse => rfl
  case isTrue ho =>
    have hmiss : ∀ id, e.updateSessionID = some id → u id = none := by
      intro id hid
      cases hu : u id with
      | none => rfl
      | some uip => exact absurd (finds_iff.mpr ⟨ho, id, uip, hid, hu⟩) (by simp [h])
    cases e with
    | other => rfl
    | _ => simp only [handleEvent, withUpdateInProgress, hmiss _ rfl]

@[simp] theorem recorded_acceptParams (uip : UpdateInProgress) (e : Event) :
    (recorded uip e).acceptParams = uip.acceptParams := by
  cases e <;> rfl

/-- An event leaves every other session, and every session's request, as they are. -/
theorem handler_frame (cfg : Configuration) (owner : List UInt8) (hour : BitVec 32) (e : Event)
    (u : Updates) (id : BitVec 32) :
    let u' := (deviceUpdateEventHandler cfg owner hour e u).1
    (e.updateSessionID ≠ some id → u' id = u id) ∧
      (u' id).map UpdateInProgress.acceptParams = (u id).map UpdateInProgress.acceptParams := by
  cases hf : finds owner e u with
  | false => simp [handler_missed hf]
  | true =>
    obtain ⟨ho, named, uip, hid, hu⟩ := finds_iff.mp hf
    rw [handler_found ho hid hu]
    by_cases hne : id = named
    · subst hne
      simp [hid, hu]
    · simp [Function.update_of_ne hne]

theorem insertUpdate_acceptParams (param : AcceptUpdateParam) (u : Updates) (id : BitVec 32) :
    (insertUpdate param u id).map UpdateInProgress.acceptParams =
      ((u id).map UpdateInProgress.acceptParams).or
        (if param.updateSessionID = id then some param else none) := by
  rw [insertUpdate]
  cases hu : u param.updateSessionID with
  | none =>
    by_cases hid : param.updateSessionID = id
    · subst hid
      simp [hu]
    · simp [Function.update_of_ne (Ne.symm hid), if_neg hid]
  | some uip =>
    by_cases hid : param.updateSessionID = id
    · subst hid
      simp [hu]
    · simp [if_neg hid]

def State.request (s : State) (id : BitVec 32) : Option AcceptUpdateParam :=
  (s.accepted.map Acceptance.param).find? (·.updateSessionID = id)

/-- Ids are handed out from 1 up, and the map holds for each id the first request accepted
under it. -/
structure Inv (cfg : Configuration) (s : State) : Prop where
  next : s.nextID = BitVec.ofNat 32 (s.calls.length + 1)
  ids : (s.calls.map (·.param.updateSessionID)).Perm
    ((List.range s.calls.length).map fun i => BitVec.ofNat 32 (i + 1))
  params : ∀ a ∈ s.calls, a.param = acceptParams cfg a.param.updateSessionID a.request
  store : ∀ id, (s.updatesInProgress id).map UpdateInProgress.acceptParams = s.request id

theorem Inv.init (cfg : Configuration) : Inv cfg State.init where
  next := rfl
  ids := .refl _
  params a ha := by simp [State.calls, State.init] at ha
  store _ := rfl

theorem Inv.acceptUpdate (h : Inv cfg s) (request : AcceptUpdateParam)
    (ht : step cfg s (.acceptUpdate request) = some t) : Inv cfg t := by
  obtain rfl := Option.some.inj ht
  have hcalls : State.calls { s with
      nextID := s.nextID + 1
      accepting := s.accepting ++ [⟨request, Sessions.acceptParams cfg s.nextID request⟩] } =
      s.calls ++ [⟨request, Sessions.acceptParams cfg s.nextID request⟩] := by
    simp [State.calls]
  constructor
  case next =>
    rw [hcalls, List.length_append, List.length_singleton]
    simp only [h.next, BitVec.ofNat_add]
    rfl
  case ids =>
    rw [hcalls, List.length_append, List.length_singleton, List.range_succ, List.map_append,
      List.map_append, List.map_singleton, List.map_singleton]
    simp only [Sessions.acceptParams, h.next]
    exact h.ids.append_right _
  case params =>
    rw [hcalls]
    intro a ha
    rcases List.mem_append.mp ha with ha | ha
    · exact h.params a ha
    · rw [List.mem_singleton.mp ha]
      rfl
  case store => exact h.store

theorem Inv.insert (h : Inv cfg s) (call : Acceptance)
    (ht : step cfg s (.insert call) = some t) : Inv cfg t := by
  obtain ⟨hmem, rfl⟩ := of_guard ht
  have hcalls : (s.accepted ++ [call] ++ s.accepting.erase call).Perm s.calls := by
    rw [List.append_assoc, List.singleton_append]
    exact (List.perm_cons_erase hmem).symm.append_left _
  constructor
  case next => rw [State.calls, hcalls.length_eq, h.next]
  case ids =>
    rw [State.calls, hcalls.length_eq]
    exact (hcalls.map _).trans h.ids
  case params => exact fun a ha => h.params a (hcalls.mem_iff.mp ha)
  case store =>
    intro id
    rw [insertUpdate_acceptParams, h.store id]
    simp only [State.request, List.map_append, List.find?_append, List.map_singleton,
      List.find?_singleton, decide_eq_true_eq]

theorem Inv.event (h : Inv cfg s) (ht : step cfg s (.event owner hour e) = some t) :
    Inv cfg t := by
  obtain rfl := Option.some.inj ht
  exact {
    next := h.next
    ids := h.ids
    params := h.params
    store := fun id => ((handler_frame cfg owner hour e _ id).2).trans (h.store id) }

theorem Inv.step (h : Inv cfg s) {a : Action} (ht : step cfg s a = some t) : Inv cfg t := by
  cases a with
  | acceptUpdate request => exact h.acceptUpdate request ht
  | insert call => exact h.insert call ht
  | event owner hour e => exact h.event ht

theorem run_inv {as : List Action} (h : run (step cfg) State.init as = some s) : Inv cfg s :=
  run_invariant (Inv cfg) (fun _ _ _ h ht => h.step ht) (Inv.init cfg) h

theorem run_calls {as : List Action} (h : run (step cfg) State.init as = some s) :
    s.calls.length = as.countP Action.isAcceptUpdate := by
  have hgrow : ∀ s a t, step cfg s a = some t →
      t.calls.length = s.calls.length + a.isAcceptUpdate.toNat := by
    intro s a t ht
    cases a with
    | acceptUpdate request =>
      obtain rfl := Option.some.inj ht
      simp [State.calls, Action.isAcceptUpdate, Nat.add_assoc]
    | insert call =>
      obtain ⟨hmem, rfl⟩ := of_guard ht
      have := List.length_pos_of_mem hmem
      simp only [State.calls, Action.isAcceptUpdate, List.length_append, List.length_singleton,
        List.length_erase_of_mem hmem, Bool.toNat_false]
      omega
    | event owner hour e =>
      obtain rfl := Option.some.inj ht
      rfl
  simpa [State.calls, State.init] using run_counts hgrow h

theorem run_accept (hs : s.accepting = []) (request : AcceptUpdateParam) (as : List Action) :
    run (step cfg) s (.acceptUpdate request ::
        .insert ⟨request, acceptParams cfg s.nextID request⟩ :: as) =
      run (step cfg) { s with
        nextID := s.nextID + 1
        updatesInProgress := insertUpdate (acceptParams cfg s.nextID request) s.updatesInProgress
        accepted := s.accepted ++ [⟨request, acceptParams cfg s.nextID request⟩] } as := by
  simp [run, step, hs]

def sampleRequest : AcceptUpdateParam := ⟨Buf.zeroed 0 pathLength, 7, 0, 0, 0⟩

def sampleAccept : List Action :=
  [.acceptUpdate sampleRequest,
    .insert ⟨sampleRequest, acceptParams .default 1 sampleRequest⟩]

def ownEvent (e : Event) : Action := .event iarmBusDeviceUpdateName 12 e

theorem own_event (e : Event) (as : List Action) :
    run (step cfg) s (ownEvent e :: as) =
      run (step cfg) { s with
        updatesInProgress := (handleEvent cfg 12 s.updatesInProgress e).1
        handled := if (e.updateSessionID.bind s.updatesInProgress).isSome then s.handled ++ [e]
          else s.handled
        broadcasts := s.broadcasts ++ (handleEvent cfg 12 s.updatesInProgress e).2 } as := by
  have ho : cstr 0 iarmBusDeviceUpdateName = iarmBusDeviceUpdateName := by decide
  simp only [run, ownEvent, step, deviceUpdateEventHandler, finds, ho, if_true, decide_true,
    Bool.true_and, Option.bind_some]

theorem nodup_ids (h : Inv cfg s) (hcalls : s.calls.length < 2 ^ 31) :
    (s.calls.map (·.param.updateSessionID)).Nodup := by
  refine h.ids.nodup_iff.mpr (List.nodup_range.map_on fun i hi j hj hij => ?_)
  have hi := List.mem_range.mp hi
  have hj := List.mem_range.mp hj
  have hnat := congrArg BitVec.toNat hij
  rw [BitVec.toNat_ofNat, BitVec.toNat_ofNat, Nat.mod_eq_of_lt (by omega),
    Nat.mod_eq_of_lt (by omega)] at hnat
  omega

theorem nodup_accepted (h : Inv cfg s) (hcalls : s.calls.length < 2 ^ 31) :
    (s.accepted.map Acceptance.param).Pairwise
      (fun p q => p.updateSessionID ≠ q.updateSessionID) := by
  have hids := nodup_ids h hcalls
  rw [State.calls, List.map_append] at hids
  rw [List.pairwise_map]
  exact List.pairwise_map.mp (List.nodup_append.mp hids).1

theorem request_of_mem {a : Acceptance} (h : Inv cfg s) (hcalls : s.calls.length < 2 ^ 31)
    (ha : a ∈ s.accepted) : s.request a.param.updateSessionID = some a.param := by
  obtain ⟨l, r, hlr⟩ := List.append_of_mem ha
  have hpair := nodup_accepted h hcalls
  rw [State.request, hlr, List.map_append, List.map_cons, List.find?_append]
  rw [hlr, List.map_append, List.map_cons] at hpair
  have hmiss : (l.map Acceptance.param).find?
      (·.updateSessionID = a.param.updateSessionID) = none := by
    refine List.find?_eq_none.mpr fun p hp => ?_
    simpa using (List.pairwise_append.mp hpair).2.2 p hp a.param List.mem_cons_self
  simp [hmiss]

theorem mem_of_request {p : AcceptUpdateParam} (h : s.request id = some p) :
    p.updateSessionID = id ∧ ∃ a ∈ s.accepted, a.param = p := by
  have hid := List.find?_some h
  exact ⟨by simpa using hid, List.mem_map.mp (List.mem_of_find?_eq_some h)⟩

theorem step_event_missed (hf : finds owner e s.updatesInProgress = false)
    (ht : step cfg s (.event owner hour e) = some t) : t = s := by
  obtain rfl := Option.some.inj ht
  simp [handler_missed hf, hf]

theorem finds_eq_false (h : cstr 0 owner ≠ iarmBusDeviceUpdateName ∨
    ∀ id, e.updateSessionID = some id → u id = none) : finds owner e u = false := by
  refine Bool.eq_false_iff.mpr fun hf => ?_
  obtain ⟨ho, id, uip, hid, hu⟩ := finds_iff.mp hf
  rcases h with h | h
  · exact h ho
  · rw [h id hid] at hu
    cases hu

/-- After every run of fewer than `2 ^ 31` calls the ids are distinct, the map has exactly
one entry for each accepted request, and events touch only the session they name. -/
theorem run_sessionStore {as : List Action} (hcalls : as.countP Action.isAcceptUpdate < 2 ^ 31)
    (h : run (step cfg) State.init as = some s) :
    (s.calls.map (·.param.updateSessionID)).Nodup ∧
    (∀ a ∈ s.calls, a.param = acceptParams cfg a.param.updateSessionID a.request) ∧
    (∀ a ∈ s.accepted, ∃! entry : BitVec 32 × UpdateInProgress,
      s.updatesInProgress entry.1 = some entry.2 ∧ entry.2.acceptParams = a.param) ∧
    (∀ id uip, s.updatesInProgress id = some uip → uip.acceptParams.updateSessionID = id ∧
      ∃ a ∈ s.accepted, uip.acceptParams = a.param) ∧
    ∀ owner hour e t, step cfg s (.event owner hour e) = some t →
      t.nextID = s.nextID ∧ t.calls = s.calls ∧
      (∀ id, e.updateSessionID ≠ some id → t.updatesInProgress id = s.updatesInProgress id) ∧
      (cstr 0 owner ≠ iarmBusDeviceUpdateName ∨
          (∀ id, e.updateSessionID = some id → s.updatesInProgress id = none) →
        t.updatesInProgress = s.updatesInProgress ∧ t.broadcasts = s.broadcasts) := by
  have hinv := run_inv h
  rw [← run_calls h] at hcalls
  have hentry : ∀ id uip, s.updatesInProgress id = some uip →
      s.request id = some uip.acceptParams := by
    intro id uip hu
    rw [← hinv.store id, hu, Option.map_some]
  refine ⟨nodup_ids hinv hcalls, hinv.params, ?_, ?_, ?_⟩
  · intro a ha
    have hstore := (hinv.store a.param.updateSessionID).trans (request_of_mem hinv hcalls ha)
    obtain ⟨uip, hu, hp⟩ := Option.map_eq_some_iff.mp hstore
    refine ⟨(a.param.updateSessionID, uip), ⟨hu, hp⟩, ?_⟩
    rintro ⟨id, uip'⟩ ⟨hu', hp'⟩
    obtain ⟨hid, -⟩ := mem_of_request (hentry id uip' hu')
    rw [hp'] at hid
    subst hid
    rw [Prod.mk.injEq]
    exact ⟨rfl, Option.some.inj (hu'.symm.trans hu)⟩
  · intro id uip hu
    obtain ⟨hid, a, ha, hp⟩ := mem_of_request (hentry id uip hu)
    exact ⟨hid, a, ha, hp.symm⟩
  · intro owner hour e t ht
    obtain rfl := Option.some.inj ht
    refine ⟨rfl, rfl, fun id hne => (handler_frame cfg owner hour e _ id).1 hne, fun hmiss => ?_⟩
    rw [step_event_missed (finds_eq_false hmiss) ht]
    exact ⟨rfl, rfl⟩

theorem run_sessionStore_sample : ∃ s, run (step .default) State.init
    (sampleAccept ++ [ownEvent (.downloadStatus 1 40)]) = some s ∧
    ∃! entry : BitVec 32 × UpdateInProgress, s.updatesInProgress entry.1 = some entry.2 ∧
      entry.2.acceptParams = acceptParams .default 1 sampleRequest := by
  have hrun : run (step .default) State.init
      (sampleAccept ++ [ownEvent (.downloadStatus 1 40)]) = _ :=
    (run_accept rfl sampleRequest _).trans (own_event _ _)
  obtain ⟨-, -, hentry, -⟩ := run_sessionStore (by decide) hrun
  exact ⟨_, hrun, hentry _ List.mem_cons_self⟩

def Broadcast.initiatesDownload (id : BitVec 32) : Broadcast → Bool
  | .downloadInitiate eventData => eventData.updateSessionID = id
  | .loadInitiate _ => false

def Broadcast.initiatesLoad (id : BitVec 32) : Broadcast → Bool
  | .loadInitiate eventData => eventData.updateSessionID = id
  | .downloadInitiate _ => false

def Event.readyFor (id : BitVec 32) : Event → Bool
  | .readyToDownload named => named = id
  | _ => false

/-- A `DOWNLOAD_STATUS` whose percentage, as the `int` it is stored in, is at least 100. -/
def Event.downloadedFor (id : BitVec 32) : Event → Bool
  | .downloadStatus named percentComplete => named = id ∧ 100 ≤ percentComplete.toInt
  | _ => false

theorem countP_initiatesDownload_answers (cfg : Configuration) (hour : BitVec 32) (e : Event)
    (id : BitVec 32) : (answers cfg hour e).countP (Broadcast.initiatesDownload id) =
      if cfg.interactiveDownload then 0 else (e.readyFor id).toNat := by
  cases e with
  | readyToDownload named =>
    by_cases hid : named = id <;> cases hc : cfg.interactiveDownload <;>
      simp [answers, hc, hid, sendDownLoadInit, Broadcast.initiatesDownload, Event.readyFor]
  | downloadStatus named percentComplete =>
    simp only [answers]
    split <;> [split; skip] <;>
      simp [sendLoadInit, Broadcast.initiatesDownload, Event.readyFor]
  | _ => simp [answers, Event.readyFor]

theorem countP_initiatesLoad_answers (cfg : Configuration) (hour : BitVec 32) (e : Event)
    (id : BitVec 32) : (answers cfg hour e).countP (Broadcast.initiatesLoad id) =
      if cfg.interactiveLoad then 0 else (e.downloadedFor id).toNat := by
  cases e with
  | readyToDownload named =>
    simp only [answers]
    split <;> simp [sendDownLoadInit, Broadcast.initiatesLoad, Event.downloadedFor]
  | downloadStatus named percentComplete =>
    by_cases hid : named = id <;> by_cases hp : 100 ≤ percentComplete.toInt <;>
      cases hc : cfg.interactiveLoad <;>
      simp [answers, hc, hid, hp, sendLoadInit, Broadcast.initiatesLoad, Event.downloadedFor]
  | _ => simp [answers, Event.downloadedFor]

theorem run_broadcasts {as : List Action} (h : run (step cfg) State.init as = some s)
    {p : Broadcast → Bool} {q : Event → Bool} {quiet : Bool}
    (hp : ∀ hour e, (answers cfg hour e).countP p = if quiet then 0 else (q e).toNat) :
    s.broadcasts.countP p = if quiet then 0 else s.handled.countP q := by
  refine run_invariant
    (fun s : State => s.broadcasts.countP p = if quiet then 0 else s.handled.countP q)
    (fun s a t hs ht => ?_) (by simp [State.init]) h
  cases a with
  | acceptUpdate request =>
    obtain rfl := Option.some.inj ht
    exact hs
  | insert call =>
    obtain ⟨-, rfl⟩ := of_guard ht
    exact hs
  | event owner hour e =>
    cases hf : finds owner e s.updatesInProgress with
    | false =>
      rw [step_event_missed hf ht]
      exact hs
    | true =>
      obtain ⟨ho, id, uip, hid, hu⟩ := finds_iff.mp hf
      obtain rfl := Option.some.inj ht
      simp only [hf, if_true, handler_found ho hid hu, List.countP_append, hs, hp,
        List.countP_singleton]
      cases quiet <;> cases q e <;> rfl

theorem initiates_not_once :
    ¬ ∀ (cfg : Configuration) (as : List Action) (s : State),
      run (step cfg) State.init as = some s → ∀ id,
        s.broadcasts.countP (Broadcast.initiatesDownload id) ≤ 1 ∧
        s.broadcasts.countP (Broadcast.initiatesLoad id) ≤ 1 ∧
        ((∃ b ∈ s.broadcasts, b.initiatesLoad id = true) →
          ∃ percentComplete, .downloadStatus id percentComplete ∈ s.handled ∧
            100 ≤ percentComplete.toNat) := by
  intro hall
  have hrun : ∃ s, run (step .default) State.init
      (sampleAccept ++ [ownEvent (.readyToDownload 1), ownEvent (.readyToDownload 1)]) = some s ∧
      s.broadcasts.countP (Broadcast.initiatesDownload 1) = 2 := by
    refine ⟨_, (run_accept rfl sampleRequest _).trans ((own_event _ _).trans (own_event _ _)), ?_⟩
    decide
  obtain ⟨s, hrun, htwo⟩ := hrun
  have hone := (hall _ _ s hrun 1).1
  rw [htwo] at hone
  exact absurd hone (by decide)

theorem downloadedFor_iff : e.downloadedFor id = true ↔
    ∃ percentComplete, e = .downloadStatus id percentComplete ∧ 100 ≤ percentComplete.toInt := by
  cases e <;> simp [Event.downloadedFor]

theorem le_toNat_of_le_toInt {n : Nat} {x : BitVec 32} (h : (n : Int) ≤ x.toInt) :
    n ≤ x.toNat := by
  have := x.toInt_eq_toNat_cond
  split at this <;> omega

/-- A session sees one INITIATE for each event that triggers it, and none where the user
interface is to send it. -/
theorem run_initiates {as : List Action} (h : run (step cfg) State.init as = some s)
    (id : BitVec 32) :
    s.broadcasts.countP (Broadcast.initiatesDownload id) =
      (if cfg.interactiveDownload then 0 else s.handled.countP (Event.readyFor id)) ∧
    s.broadcasts.countP (Broadcast.initiatesLoad id) =
      (if cfg.interactiveLoad then 0 else s.handled.countP (Event.downloadedFor id)) ∧
    ((∃ b ∈ s.broadcasts, b.initiatesLoad id = true) →
      ∃ percentComplete, .downloadStatus id percentComplete ∈ s.handled ∧
        100 ≤ percentComplete.toNat) := by
  have hload := run_broadcasts h fun hour e => countP_initiatesLoad_answers cfg hour e id
  refine ⟨run_broadcasts h fun hour e => countP_initiatesDownload_answers cfg hour e id, hload, ?_⟩
  intro hb
  have hpos := List.countP_pos_iff.mpr hb
  rw [hload] at hpos
  split at hpos
  case isTrue => exact absurd hpos (Nat.lt_irrefl 0)
  case isFalse =>
    obtain ⟨e, he, hdown⟩ := List.countP_pos_iff.mp hpos
    obtain ⟨percentComplete, rfl, hp⟩ := downloadedFor_iff.mp hdown
    exact ⟨percentComplete, he, le_toNat_of_le_toInt hp⟩

theorem run_initiates_sample : ∃ s, run (step .default) State.init
    (sampleAccept ++ [ownEvent (.readyToDownload 1), ownEvent (.downloadStatus 1 100)]) = some s ∧
    s.broadcasts.countP (Broadcast.initiatesDownload 1) = 1 ∧
    s.broadcasts.countP (Broadcast.initiatesLoad 1) = 1 := by
  have hrun : run (step .default) State.init
      (sampleAccept ++ [ownEvent (.readyToDownload 1), ownEvent (.downloadStatus 1 100)]) = _ :=
    (run_accept rfl sampleRequest _).trans ((own_event _ _).trans (own_event _ _))
  obtain ⟨hdown, hload, -⟩ := run_initiates hrun 1
  refine ⟨_, hrun, hdown.trans ?_, hload.trans ?_⟩ <;> decide

/-- An event that names an ended session changes no record and broadcasts nothing. -/
def EndIsFinal (cfg : Configuration) (s : State) : Action → Prop
  | .event owner hour e => ∀ id, e.updateSessionID = some id → s.Ended id →
      ∀ t, step cfg s (.event owner hour e) = some t →
        t.updatesInProgress = s.updatesInProgress ∧ t.broadcasts = s.broadcasts
  | _ => True

/-- An event of the manager that names an ended session repeats what its record says. -/
def OnlyRepeats (cfg : Configuration) (s : State) : Action → Prop
  | .event owner _ e => cstr 0 owner = iarmBusDeviceUpdateName →
      ∀ id, e.updateSessionID = some id → s.Ended id →
        ∀ uip, s.updatesInProgress id = some uip → Repeats cfg uip e
  | _ => True

theorem repeats_iff (cfg : Configuration) (hour : BitVec 32) (uip : UpdateInProgress) (e : Event) :
    Repeats cfg uip e ↔ recorded uip e = uip ∧ answers cfg hour e = [] := by
  obtain ⟨param, percent, complete, code, msg⟩ := uip
  cases e with
  | readyToDownload => simp [Repeats, recorded, answers]
  | downloadStatus => simp [Repeats, recorded, answers]
  | loadStatus named loadStatus =>
    cases complete <;> simp [Repeats, recorded, answers]
  | error => simp [Repeats, recorded, answers]
  | other => simp [Repeats, recorded, answers]

theorem endIsFinal_iff (cfg : Configuration) (s : State) (a : Action) :
    OnlyRepeats cfg s a ↔ EndIsFinal cfg s a := by
  cases a with
  | event owner hour e =>
    constructor
    · intro hrep id hid hend t ht
      cases hf : finds owner e s.updatesInProgress with
      | false =>
        rw [step_event_missed hf ht]
        exact ⟨rfl, rfl⟩
      | true =>
        obtain ⟨ho, named, uip, hnamed, hu⟩ := finds_iff.mp hf
        obtain rfl := Option.some.inj (hid.symm.trans hnamed)
        obtain ⟨hrec, hans⟩ := (repeats_iff cfg hour uip e).mp (hrep ho id hid hend uip hu)
        obtain rfl := Option.some.inj ht
        simp only [handler_found ho hid hu, hrec, hans, List.append_nil, and_true]
        exact Function.update_eq_self_iff.mpr hu.symm
    · intro hfinal ho id hid hend uip hu
      obtain ⟨hup, hbc⟩ := hfinal id hid hend _ rfl
      simp only [handler_found ho hid hu, List.append_right_eq_self] at hup hbc
      refine (repeats_iff cfg hour uip e).mpr ⟨?_, hbc⟩
      exact Option.some.inj ((Function.update_eq_self_iff.mp hup).trans hu)
  | _ => exact Iff.rfl

/-- In every run no event touches an ended session exactly when the events that name one
only repeat its record. -/
theorem run_endIsFinal (cfg : Configuration) (as : List Action) :
    Along (step cfg) (EndIsFinal cfg) State.init as ↔
      Along (step cfg) (OnlyRepeats cfg) State.init as :=
  ⟨Along.imp fun s a => (endIsFinal_iff cfg s a).mpr,
    Along.imp fun s a => (endIsFinal_iff cfg s a).mp⟩

/-- A device that asks again after `LOAD_STATUS_END` is told to download again. -/
theorem end_not_final : ¬ ∀ (cfg : Configuration) (as : List Action),
    Along (step cfg) (EndIsFinal cfg) State.init as := by
  intro hall
  have hrun : run (step .default) State.init
      (sampleAccept ++ [ownEvent (.loadStatus 1 loadStatusEnd)]) = _ :=
    (run_accept rfl sampleRequest _).trans (own_event _ _)
  have hlast := ((hall .default (sampleAccept ++ [ownEvent (.loadStatus 1 loadStatusEnd)] ++
    [ownEvent (.readyToDownload 1)])).of_append hrun).1
  obtain ⟨-, hbc⟩ := hlast 1 rfl (by decide) _ rfl
  exact absurd hbc (by decide)

end IarmMgrs.DeviceUpdateMgr.Sessions
