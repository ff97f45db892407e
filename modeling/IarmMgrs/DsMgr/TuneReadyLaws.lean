import IarmMgrs.DsMgr.HotPlugLaws
import IarmMgrs.DsMgr.ProcessEventLaws
import IarmMgrs.DsMgr.TuneReady
import IarmMgrs.SysMgr.StatesLaws

namespace IarmMgrs.DsMgr.TuneReady

open Lib.CString Lib.Transition
open ProcessEvent (decode sysStateTuneReady)
open SysMgr.States (SystemStates SystemState sysEventHandler sysEventHandler_apply reportOf
  iarmBusSysMgrName eventSystemState)

variable {L : SystemLayout} {s s' : State} {act : Action} {p p' : State × Seen}
  {t : Seen} {data : List UInt8}

theorem ofInt_tuneready {stateId : Int} :
    SystemState.ofInt stateId = some .tuneready ↔ stateId = sysStateTuneReady := by
  constructor
  · intro h
    simp only [SystemState.ofInt] at h
    split at h
    · cases h
    · next hneg =>
      obtain ⟨hlt, hget⟩ := List.getElem?_eq_some_iff.mp h
      have hnodup : SystemState.all.Nodup := by decide
      have htuneready : SystemState.all[2] = .tuneready := rfl
      have hindex : stateId.toNat = 2 :=
        hnodup.getElem_inj_iff.mp (hget.trans htuneready.symm)
      rw [sysStateTuneReady]
      omega
  · rintro rfl
    rfl

theorem systemEvent_accepted (L : SystemLayout) (data : List UInt8) :
    (systemEvent L data).Accepted := by
  have howner : cstr 0 iarmBusSysMgrName = iarmBusSysMgrName := by decide
  exact ⟨rfl, congrArg some howner, rfl, Nat.le_refl _⟩

theorem tuneReadyStatus_state (ss : SystemStates) (data : List UInt8) :
    (sysEventHandler ss (systemEvent L data) .tuneReadyStatus).state =
      if L.stateId data = sysStateTuneReady then (L.systemState data).state
      else (ss .tuneReadyStatus).state := by
  have hreport : reportOf .tuneReadyStatus (systemEvent L data) =
      if L.stateId data = sysStateTuneReady then some (L.systemState data) else none := by
    rw [reportOf, if_pos (systemEvent_accepted L data)]
    have hid : SystemState.ofInt (L.systemState data).stateId = some .tuneready ↔
        L.stateId data = sysStateTuneReady := by
      rw [L.systemState_stateId, ofInt_tuneready]
    simp [systemEvent, Option.filter, SysMgr.States.Property.owner, hid]
  rw [sysEventHandler_apply, hreport]
  by_cases hid : L.stateId data = sysStateTuneReady
  · rw [if_pos hid, if_pos hid]
    rfl
  · rw [if_neg hid, if_neg hid]

def tuneReadyAfter (s : HotPlug.State) : HotPlug.Action → Int
  | .process .tuneReady => if s.iTuneReady = 0 then 1 else s.iTuneReady
  | _ => s.iTuneReady

theorem tuneReadyAfter_other {s : HotPlug.State} {act : HotPlug.Action} (h : isOther act = true) :
    tuneReadyAfter s act = s.iTuneReady := by
  cases act with
  | process event =>
    cases event with
    | tuneReady => cases h
    | hdmiHotplug | hdcpStatus => rfl
  | _ => rfl

theorem actOnStatus_tuneReady (s : HotPlug.State) (status : HotPlug.DsDisplayEvent) :
    (HotPlug.actOnStatus s status).iTuneReady = s.iTuneReady := by
  simp only [HotPlug.actOnStatus]
  repeat' split
  all_goals rfl

theorem step_tuneReady {s s' : HotPlug.State} {act : HotPlug.Action}
    (h : HotPlug.step s act = some s') : s'.iTuneReady = tuneReadyAfter s act := by
  obtain ⟨event, rfl, rfl⟩ | ⟨status, rfl, -, rfl⟩ | ⟨⟨hprocess, -⟩, hkept, -⟩ :=
    HotPlug.step_flags h
  · cases event with
    | tuneReady =>
      simp only [HotPlug.processEvent, tuneReadyAfter]
      split <;> rfl
    | hdmiHotplug event => rfl
    | hdcpStatus status => cases status <;> rfl
  · exact actOnStatus_tuneReady s status
  · cases act with
    | process event => exact absurd rfl (hprocess event)
    | _ => exact hkept

theorem decode_system (L : SystemLayout) (data : List UInt8) :
    decode L.toEventLayout iarmBusSysMgrName eventSystemState (some data) =
      if L.stateId data = sysStateTuneReady then some .tuneReady else none := by
  simp [decode]

theorem processes_some {rest : List (List UInt8)} (h : processes L data rest s = some s') :
    s'.systemStates = s.systemStates ∧ s'.phase = s.phase ∧
      s'.dsMgr.iTuneReady =
        if L.stateId data = sysStateTuneReady ∧ s.dsMgr.iTuneReady = 0 then 1
        else s.dsMgr.iTuneReady := by
  simp only [processes, decode_system] at h
  by_cases hid : L.stateId data = sysStateTuneReady
  · simp only [if_pos hid, Option.map_eq_some_iff] at h
    obtain ⟨dsMgr, hstep, rfl⟩ := h
    exact ⟨rfl, rfl, by simpa [hid, tuneReadyAfter] using step_tuneReady hstep⟩
  · simp only [if_neg hid] at h
    obtain ⟨-, rfl⟩ := of_guard h
    exact ⟨rfl, rfl, by simp [hid]⟩

def flagAfter (L : SystemLayout) (s : State) : Action → Int
  | .readsAnswer => if s.phase = .answered 1 then 1 else s.dsMgr.iTuneReady
  | .processes =>
    if (∃ data ∈ s.dsInbox.head?, L.stateId data = sysStateTuneReady) ∧ s.dsMgr.iTuneReady = 0 then
      1
    else s.dsMgr.iTuneReady
  | _ => s.dsMgr.iTuneReady

theorem step_flag (h : step L s act = some s') : s'.dsMgr.iTuneReady = flagAfter L s act := by
  cases act with
  | broadcast data =>
    obtain rfl := Option.some.inj h
    rfl
  | sysMgrHandles =>
    simp only [step] at h
    split at h
    · cases h
    · obtain rfl := Option.some.inj h
      rfl
  | registers | asks =>
    obtain ⟨-, rfl⟩ := of_guard h
    rfl
  | readsAnswer =>
    simp only [step] at h
    split at h
    · next state hphase =>
      obtain rfl := Option.some.inj h
      simp only [readsAnswer, flagAfter, hphase, Phase.answered.injEq]
      split <;> rfl
    · cases h
  | processes =>
    simp only [step] at h
    split at h
    · cases h
    · next data rest hinbox =>
      simpa [flagAfter, hinbox] using (processes_some h).2.2
  | other act =>
    obtain ⟨⟨-, hother⟩, h⟩ := Option.ite_none_right_eq_some.mp h
    obtain ⟨dsMgr, hdsMgr, rfl⟩ := Option.map_eq_some_iff.mp h
    exact (step_tuneReady hdsMgr).trans (tuneReadyAfter_other hother)

theorem flagAfter_cases (L : SystemLayout) (s : State) (act : Action) :
    flagAfter L s act = 1 ∨ flagAfter L s act = s.dsMgr.iTuneReady := by
  cases act with
  | readsAnswer | processes =>
    simp only [flagAfter]
    split
    · exact .inl rfl
    · exact .inr rfl
  | _ => exact .inr rfl

def State.SysMgrReady (s : State) : Prop := (s.systemStates .tuneReadyStatus).state = 1

instance (s : State) : Decidable s.SysMgrReady := inferInstanceAs (Decidable (_ = _))

structure Inv (L : SystemLayout) (p : State × Seen) : Prop where
  flag : p.1.dsMgr.iTuneReady = 0 ∨ p.1.dsMgr.iTuneReady = 1
  handled : (p.2.ready = true ∨ p.1.SysMgrReady) ↔ ∃ data ∈ p.2.handled, Announces L data
  answer : p.1.phase = .answered 1 → p.2.ready = true

theorem Inv.init (isIgnoreEdid : Bool) : Inv L (observeInit isIgnoreEdid) where
  flag := .inl rfl
  handled := by
    have hstart : ¬ (State.init isIgnoreEdid).SysMgrReady := by
      simp [State.SysMgrReady, State.init, SysMgr.States.SystemStates.start,
        SysMgr.States.StateProperty.zero]
    simp [observeInit, hstart]
  answer h := nomatch h

theorem sysMgrReady_handles (L : SystemLayout) (s : State) (data : List UInt8)
    (rest : List (List UInt8)) :
    State.SysMgrReady
        { s with
          sysInbox := rest
          systemStates := sysEventHandler s.systemStates (systemEvent L data) } ↔
      if L.stateId data = sysStateTuneReady then (L.systemState data).state = 1
      else s.SysMgrReady := by
  rw [State.SysMgrReady, tuneReadyStatus_state]
  split <;> rfl

theorem note_ready (s : State) (act : Action) (t : Seen) :
    (t.note s act).ready = true ↔ t.ready = true ∨ s.SysMgrReady := by
  simp [Seen.note, State.SysMgrReady]

/-- SysMgr's states change only where it handles an event, and the answer to a query is what
they were when it was asked. -/
theorem step_some (h : step L s act = some s') :
    (∃ data rest, act = .sysMgrHandles ∧ s.sysInbox = data :: rest ∧
        s' = { s with
          sysInbox := rest
          systemStates := sysEventHandler s.systemStates (systemEvent L data) }) ∨
      act ≠ .sysMgrHandles ∧ s'.systemStates = s.systemStates ∧
        (s'.phase = .answered 1 → s.phase = .answered 1 ∨ s.SysMgrReady) := by
  cases act with
  | sysMgrHandles =>
    simp only [step] at h
    split at h
    · cases h
    · next data rest hinbox => exact .inl ⟨data, rest, rfl, hinbox, (Option.some.inj h).symm⟩
  | broadcast data =>
    obtain rfl := Option.some.inj h
    exact .inr ⟨nofun, rfl, .inl⟩
  | registers =>
    obtain ⟨-, rfl⟩ := of_guard h
    exact .inr ⟨nofun, rfl, nofun⟩
  | asks succeeds =>
    obtain ⟨-, rfl⟩ := of_guard h
    refine .inr ⟨nofun, rfl, fun ha => ?_⟩
    cases succeeds with
    | false => cases ha
    | true => exact .inr (Phase.answered.inj ha)
  | readsAnswer =>
    simp only [step] at h
    split at h
    · obtain rfl := Option.some.inj h
      exact .inr ⟨nofun, rfl, nofun⟩
    · cases h
  | processes =>
    simp only [step] at h
    split at h
    · cases h
    · obtain ⟨hstates, hphase, -⟩ := processes_some h
      exact .inr ⟨nofun, hstates, fun ha => .inl (hphase ▸ ha)⟩
  | other act =>
    obtain ⟨-, h⟩ := Option.ite_none_right_eq_some.mp h
    obtain ⟨dsMgr, -, rfl⟩ := Option.map_eq_some_iff.mp h
    exact .inr ⟨nofun, rfl, .inl⟩

theorem Inv.step (h : Inv L p) (hstep : observe L p act = some p') : Inv L p' := by
  obtain ⟨s, t⟩ := p
  obtain ⟨s', t'⟩ := p'
  obtain ⟨hs, ht⟩ := observed_some.mp hstep
  obtain rfl : t' = t.note s act := ht
  have hready := note_ready s act t
  have hflag : s'.dsMgr.iTuneReady = 0 ∨ s'.dsMgr.iTuneReady = 1 := by
    rw [step_flag hs]
    obtain h1 | hkept := flagAfter_cases L s act
    · exact .inr h1
    · exact hkept ▸ h.flag
  obtain ⟨data, rest, rfl, hinbox, rfl⟩ | ⟨hact, hstates, hanswer⟩ := step_some hs
  · refine ⟨hflag, ?_, fun ha => hready.mpr (.inl (h.answer ha))⟩
    have hhandled : (t.note s .sysMgrHandles).handled = t.handled ++ [data] := by
      simp [Seen.note, hinbox]
    have hsnoc : (∃ d ∈ t.handled ++ [data], Announces L d) ↔
        (∃ d ∈ t.handled, Announces L d) ∨ Announces L data := by
      simp [or_and_right, exists_or]
    rw [hready, hhandled, sysMgrReady_handles, h.handled, hsnoc]
    by_cases hid : L.stateId data = sysStateTuneReady
    · simp [hid, Announces]
    · have hstays : s.SysMgrReady → ∃ d ∈ t.handled, Announces L d :=
        fun hs => h.handled.mp (.inr hs)
      simpa [hid, Announces] using hstays
  · have hhandled : (t.note s act).handled = t.handled := by
      cases act with
      | sysMgrHandles => exact absurd rfl hact
      | _ => rfl
    have hsame : s'.SysMgrReady ↔ s.SysMgrReady := by
      rw [State.SysMgrReady, State.SysMgrReady, hstates]
    refine ⟨hflag, ?_, fun ha => hready.mpr ((hanswer ha).imp_left h.answer)⟩
    rw [hhandled, hready, hsame, ← h.handled, or_assoc, or_self]

/-- A flag of 1 stays, so a step can only break what it takes to set it. -/
theorem agrees_step (h : Agrees (s, t)) (hs : step L s act = some s') :
    Agrees (s', t.note s act) ↔ (flagAfter L s act = 1 → t.ready = true ∨ s.SysMgrReady) := by
  have hflag := step_flag hs
  constructor
  · intro ha h1
    exact (note_ready s act t).mp (ha.ready (hflag.trans h1))
  · intro hset
    refine ⟨fun h1 => (note_ready s act t).mpr (hset (hflag.symm.trans h1)), fun htuned => ?_⟩
    have h1 : s.dsMgr.iTuneReady = 1 := by
      have htuned : t.tuned = true ∨ s.dsMgr.iTuneReady = 1 := by simpa [Seen.note] using htuned
      exact htuned.elim h.stays id
    obtain hset | hkept := flagAfter_cases L s act
    · exact hflag.trans hset
    · exact hflag.trans (hkept.trans h1)

theorem announced_iff (hinv : Inv L p) (h : Agrees p) (hstep : observe L p act = some p') :
    Announced L p act ↔ Agrees p' := by
  obtain ⟨s, t⟩ := p
  obtain ⟨s', t'⟩ := p'
  obtain ⟨hs, ht⟩ := observed_some.mp hstep
  obtain rfl : t' = t.note s act := ht
  rw [agrees_step h hs]
  cases act with
  | processes =>
    simp only [flagAfter, Announced, hinv.handled]
    obtain h0 | h1 := hinv.flag
    · change s.dsMgr.iTuneReady = 0 at h0
      simp [h0]
    · have hannounced : ∃ data ∈ t.handled, Announces L data :=
        hinv.handled.mp (.inl (h.ready h1))
      exact iff_of_true (fun _ _ _ _ => hannounced) (fun _ => hannounced)
  | readsAnswer =>
    refine iff_of_true trivial fun h1 => .inl ?_
    simp only [flagAfter] at h1
    split at h1
    · next hanswer => exact hinv.answer hanswer
    · exact h.ready h1
  | _ => exact iff_of_true trivial fun h1 => .inl (h.ready h1)

theorem agrees_init (isIgnoreEdid : Bool) : Agrees (observeInit isIgnoreEdid) where
  ready h := nomatch h
  stays h := nomatch h

/-- In every state reached a set `iTuneReady` comes after SysMgr was tune-ready and stays set,
exactly if DSMgr never takes a TUNEREADY event up before SysMgr has handled one with the
state 1. -/
theorem tuneReady_agrees_iff {isIgnoreEdid : Bool} {as : List Action}
    (hrun : run (observe L) (observeInit isIgnoreEdid) as = some p) :
    Along (observe L) (Announced L) (observeInit isIgnoreEdid) as ↔
      ∀ pre q, pre <+: as → run (observe L) (observeInit isIgnoreEdid) pre = some q →
        (q.1.dsMgr.iTuneReady = 1 → q.2.ready = true) ∧
          (q.2.tuned = true → q.1.dsMgr.iTuneReady = 1) := by
  rw [along_iff (Inv L) Agrees (fun _ _ _ hinv _ hstep => hinv.step hstep)
    (fun _ _ _ hinv h hstep => announced_iff hinv h hstep) (Inv.init isIgnoreEdid)
    (agrees_init isIgnoreEdid) hrun]
  constructor
  · intro hall pre q hpre hq
    have h := hall pre q hpre hq
    exact ⟨h.ready, h.stays⟩
  · intro hall pre q hpre hq
    obtain ⟨hready, hstays⟩ := hall pre q hpre hq
    exact ⟨hready, hstays⟩

def sampleLayout : SystemLayout where
  toEventLayout := ProcessEvent.sampleLayout
  systemState data :=
    ⟨ProcessEvent.firstInt data, ProcessEvent.firstInt (data.drop 4), 0,
      Lib.CString.Buf.zeroed 0 _⟩
  systemState_stateId _ := rfl

def tuneReadyEvent (state : UInt8) : List UInt8 := [2, 0, 0, 0, state, 0, 0, 0]

def notReadyRun : List Action :=
  [.registers, .asks true, .readsAnswer, .broadcast (tuneReadyEvent 0), .sysMgrHandles, .processes]

theorem tuneReady_disagrees :
    ∃ p, run (observe sampleLayout) (observeInit false) notReadyRun = some p ∧
      p.1.dsMgr.iTuneReady = 1 ∧ p.2.ready = false ∧ ¬ p.1.SysMgrReady :=
  ⟨_, rfl, rfl, rfl, by decide⟩

def readyRun : List Action :=
  [.broadcast (tuneReadyEvent 0), .sysMgrHandles, .registers, .broadcast (tuneReadyEvent 1),
    .sysMgrHandles, .asks true, .processes, .readsAnswer, .broadcast (tuneReadyEvent 0),
    .sysMgrHandles]

theorem tuneReady_agrees_readyRun :
    ∃ q, run (observe sampleLayout) (observeInit false) readyRun = some q ∧
      q.1.dsMgr.iTuneReady = 1 ∧ q.2.tuned = true ∧
        ((q.1.dsMgr.iTuneReady = 1 → q.2.ready = true) ∧
          (q.2.tuned = true → q.1.dsMgr.iTuneReady = 1)) :=
  have halong :
      Along (observe sampleLayout) (Announced sampleLayout) (observeInit false) readyRun := by
    decide
  ⟨_, rfl, rfl, rfl,
    (tuneReady_agrees_iff rfl).mp halong readyRun _ (List.prefix_refl _) rfl⟩

end IarmMgrs.DsMgr.TuneReady
