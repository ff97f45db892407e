import IarmMgrs.SysMgr.SerialNumber

namespace IarmMgrs.SysMgr.SerialNumber

open Lib Lib.CString Lib.Transition Bus States

variable {n : Nat} {s s' : SystemStates} {p : State n} {pc : Place n} {next : Option (Place n)}
  {response : Response n} {v : StateProperty}

theorem storeSerial_kept_iff :
    (storeSerial response v).payload = v.payload ∧ (storeSerial response v).error = v.error ↔
      Agrees response v := by
  rw [storeSerial, Agrees]
  split
  · exact and_congr eq_comm eq_comm
  · exact (and_iff_right rfl).trans eq_comm

theorem move_kept_iff (hfilled : Filled s) (hmove : move pc response s = some (s', next)) :
    ((s' .stbSerialNo).payload = (s .stbSerialNo).payload ∧
      (s' .stbSerialNo).error = (s .stbSerialNo).error) ↔ pc.Undisturbed s := by
  cases pc with
  | check =>
    obtain ⟨rfl, -⟩ := Prod.mk.inj (Option.some.inj hmove)
    exact iff_of_true ⟨rfl, rfl⟩ trivial
  | call =>
    obtain ⟨rfl, -⟩ := Prod.mk.inj (Option.some.inj hmove)
    exact iff_of_true ⟨rfl, rfl⟩ trivial
  | store answer =>
    obtain ⟨rfl, -⟩ := Prod.mk.inj (Option.some.inj hmove)
    rw [Function.update_self, storeSerial_kept_iff, Place.Undisturbed, forall_prop_of_true hfilled]

theorem move_some (pc : Place n) (response : Response n) (s : SystemStates) :
    ∃ s' next, move pc response s = some (s', next) := by
  cases pc <;> exact ⟨_, _, rfl⟩

theorem undisturbed_of_empty (h : ¬ Filled s) (pc : Place n) : pc.Undisturbed s := by
  cases pc with
  | check => trivial
  | call => trivial
  | store answer => exact fun hfilled => absurd hfilled h

theorem step_serial (p : State n) (act : Pool.Action Unit (Response n)) :
    step p (.serial act) = Pool.step enter move p act := rfl

theorem undisturbed_iff (p : State n) (a : Action n) : Undisturbed p a ↔ Kept p a := by
  cases a with
  | event e => exact Iff.rfl
  | serial act =>
    cases act with
    | start t entry =>
      refine iff_of_true trivial fun _ p' hstep => ?_
      rw [step_serial] at hstep
      obtain ⟨-, rfl⟩ := Pool.step_start hstep
      exact ⟨rfl, rfl⟩
    | advance t response =>
      constructor
      · intro h hfilled p' hstep
        rw [step_serial] at hstep
        obtain ⟨pc, s', next, hpc, hmove, rfl⟩ := Pool.step_advance hstep
        exact (move_kept_iff hfilled hmove).mpr (h pc hpc)
      · intro h pc hpc
        by_cases hfilled : Filled p.shared
        · obtain ⟨s', next, hmove⟩ := move_some pc response p.shared
          have hstep : step p (.serial (.advance t response)) =
              some ⟨s', Function.update p.threads t next⟩ := by
            simp only [step_serial, Pool.step, Option.mem_def.mp hpc, hmove, Option.map_some]
          exact (move_kept_iff hfilled hmove).mp (h hfilled _ hstep)
        · exact undisturbed_of_empty hfilled pc

/-- In every run of calls and events no call touches a serial number that is there, exactly if
none finds one when its second section begins, or only what it has been answered itself. -/
theorem serialNumber_kept_iff (acts : List (Action n)) :
    Along step Kept State.init acts ↔ Along step Undisturbed State.init acts :=
  Along.congr (fun _ => True) (fun _ _ _ _ _ => trivial)
    (fun p a _ => (undisturbed_iff p a).symm) trivial

def Place.PastCheck : Place n → Prop
  | .check => False
  | .call | .store _ => True

def Apart (p : State n) : Action n → Prop
  | .event e => p.Any Place.PastCheck →
      ∀ d ∈ reportOf .stbSerialNo e, cstr 0 d.payload.chars = []
  | .serial (.advance t _) => ∀ response, p.threads t = some (.store response) →
      ∀ u pc, p.threads u = some pc → pc.PastCheck → u = t
  | .serial (.start _ _) => True

def Fresh (p : State n) : Prop := p.Any Place.PastCheck → ¬ Filled p.shared

theorem filled_event {e : Event}
    (hempty : ∀ d ∈ reportOf .stbSerialNo e, cstr 0 d.payload.chars = [])
    (h : Filled (sysEventHandler s e)) : Filled s := by
  rw [Filled, sysEventHandler_apply] at h
  cases hreport : reportOf .stbSerialNo e with
  | none => simpa [hreport, Filled] using h
  | some d =>
    have hstr := Buf.str_copyBounded 0 (s .stbSerialNo).payload d.payload.chars
      (show payloadSize - 1 < payloadSize by decide)
    rw [hempty d hreport, List.take_nil] at hstr
    simp only [hreport] at h
    exact absurd hstr h

theorem fresh_step {a : Action n} {p' : State n} (h : Fresh p) (hapart : Apart p a)
    (hstep : step p a = some p') : Fresh p' := by
  cases a with
  | event e =>
    obtain rfl := Option.some.inj hstep
    exact fun hany hfilled => h hany (filled_event (hapart hany) hfilled)
  | serial act =>
    rw [step_serial] at hstep
    cases act with
    | start t entry =>
      obtain ⟨-, rfl⟩ := Pool.step_start hstep
      refine fun hany => h (hany.of_update fun pc hpc => ?_)
      obtain rfl := Option.some.inj hpc
      exact id
    | advance t response =>
      obtain ⟨pc, s', next, hpc, hmove, rfl⟩ := Pool.step_advance hstep
      cases pc with
      | check =>
        obtain ⟨rfl, rfl⟩ := Prod.mk.inj (Option.some.inj hmove)
        intro hany hfilled
        rw [if_pos hfilled] at hany
        exact h (hany.of_update fun _ hnone => nomatch hnone) hfilled
      | call =>
        obtain ⟨rfl, -⟩ := Prod.mk.inj (Option.some.inj hmove)
        exact fun _ => h ⟨t, _, hpc, trivial⟩
      | store answer =>
        obtain ⟨-, rfl⟩ := Prod.mk.inj (Option.some.inj hmove)
        rintro ⟨u, q, hu, hq⟩
        obtain ⟨-, hnone⟩ | ⟨hne, hu⟩ := Pool.threads_update hu
        · cases hnone
        · exact absurd (hapart answer hpc u q hu hq) hne

theorem undisturbed_of_fresh {a : Action n} (h : Fresh p) : Undisturbed p a := by
  cases a with
  | event e => trivial
  | serial act =>
    cases act with
    | start t entry => trivial
    | advance t response =>
      intro pc hpc
      cases pc with
      | check => trivial
      | call => trivial
      | store answer => exact undisturbed_of_empty (h ⟨t, _, hpc, trivial⟩) _

/-- Sections of a call that nothing comes between are as good as one. -/
theorem serialNumber_kept_of_apart {acts : List (Action n)} (h : Along step Apart State.init acts) :
    Along step Kept State.init acts := by
  refine h.imp_of_invariant Fresh (fun _ _ _ hfresh ha hstep => fresh_step hfresh ha hstep)
    (fun p a hfresh _ => (undisturbed_iff p a).mp (undisturbed_of_fresh hfresh)) ?_
  rintro ⟨t, pc, hpc, -⟩
  cases hpc

def answer (text : List UInt8) : Response 8 :=
  ⟨.success, text.length, (Buf.zeroed 0 8).write text⟩

def report (text : List UInt8) : Event :=
  ⟨some iarmBusSysMgrName, eventSystemState,
    some ⟨33, 0, 0, (Buf.zeroed 0 payloadSize).write text⟩, sizeofEventData⟩

def overtaken : List (Action 8) :=
  [.serial (.start 0 ()), .serial (.advance 0 (answer [])),
    .serial (.advance 0 (answer (lit "M"))), .event (report (lit "E"))]

theorem serialNumber_overwritten :
    ∃ p p', run step State.init overtaken = some p ∧
      step p (.serial (.advance 0 (answer []))) = some p' ∧
      (p.shared .stbSerialNo).payload.str 0 = lit "E" ∧
      (p'.shared .stbSerialNo).payload.str 0 = lit "M" ∧
      ¬ Kept p (.serial (.advance 0 (answer []))) := by
  refine ⟨_, _, rfl, rfl, by decide, by decide, fun hkept => ?_⟩
  have hpayload := congrArg (Buf.str 0) (hkept (by decide) _ rfl).1
  exact absurd hpayload (by decide)

end IarmMgrs.SysMgr.SerialNumber
