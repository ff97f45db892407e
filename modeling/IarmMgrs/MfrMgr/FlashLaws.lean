import IarmMgrs.MfrMgr.Flash

namespace IarmMgrs.MfrMgr.Flash

open Lib Lib.CString Lib.Transition

variable {lib : Bool} {s s' : State} {act : Action} {r : Request}

def Excluded (lib : Bool) (s : State) : Action → Prop
  | .request r => s.inProgress ≠ [] →
      (handle lib r s).2 = .invalidState ∧ (handle lib r s).1.halCalls = s.halCalls
  | .callback .. => True

def Missing (lib : Bool) (kind : Kind) (load : Load) (s : State) : Prop :=
  lib = false ∨ s.func kind = false ∧ load ≠ .loaded

/-- A request that arrives while an operation is in progress finds its HAL entry point
missing, or is not for a mirror and the last report was of verifying or flashing. -/
def Guarded (lib : Bool) (s : State) : Action → Prop
  | .request r => s.inProgress ≠ [] → Missing lib r.kind r.load s ∨
      r.kind ≠ .mirror ∧ (s.lastStatus = .verifying ∨ s.lastStatus = .flashing)
  | .callback .. => True

theorem loadFunc_eq_none {kind : Kind} {load : Load} :
    loadFunc kind load s = none ↔ s.func kind = false ∧ load ≠ .loaded := by
  unfold loadFunc
  split
  · next hf => simp [hf]
  · next hf =>
    split
    · next hl => simp [hl]
    · next hl => simp [hl, Bool.eq_false_iff.mpr hf]

theorem loadFunc_inProgress {kind : Kind} {load : Load} (h : loadFunc kind load s = some s') :
    s'.inProgress = s.inProgress := by
  unfold loadFunc at h
  split at h
  · obtain rfl := Option.some.inj h
    rfl
  · split at h
    · obtain rfl := Option.some.inj h
      rfl
    · cases h

theorem callHal_result (kind : Kind) (err : MfrError) (s : State) :
    (callHal kind err s).2 ≠ .invalidState := by
  cases err <;> simp [callHal]

theorem callHal_inProgress (kind : Kind) (err : MfrError) (s : State) :
    (callHal kind err s).1.inProgress.length ≤ s.inProgress.length + 1 := by
  cases err <;> simp [callHal]

section StartOperation

variable {kind : Kind} {prepare : WriteImageArg → State → State} {arg : Option WriteImageArg}
  {load : Load} {err : MfrError}

theorem startOperation_missing (h : Missing lib kind load s) :
    startOperation kind prepare lib arg load err s = (s, .invalidState) := by
  unfold startOperation
  obtain rfl | h := h
  · rfl
  · rw [loadFunc_eq_none.mpr h]
    exact ite_self _

theorem startOperation_result (h : ¬ Missing lib kind load s) :
    (startOperation kind prepare lib arg load err s).2 ≠ .invalidState := by
  obtain ⟨hlib, hload⟩ := not_or.mp h
  cases hfunc : loadFunc kind load s with
  | none => exact absurd (loadFunc_eq_none.mp hfunc) hload
  | some s' =>
    rw [startOperation, if_neg (by simpa using hlib), hfunc]
    cases arg with
    | none => simp
    | some param =>
      by_cases hvalid : isValidWriteImageParam param.toWriteImageParam
      · simpa [hvalid] using callHal_result kind err (prepare param s')
      · simp [hvalid]

theorem startOperation_inProgress
    (hprepare : ∀ param s, (prepare param s).inProgress = s.inProgress) :
    (startOperation kind prepare lib arg load err s).1.inProgress.length ≤
      s.inProgress.length + 1 := by
  unfold startOperation
  split
  · exact Nat.le_succ _
  · split
    · exact Nat.le_succ _
    · next s' hfunc =>
      rw [← loadFunc_inProgress hfunc]
      split
      · exact Nat.le_succ _
      · next param =>
        split
        · exact Nat.le_succ _
        · exact hprepare param s' ▸ callHal_inProgress kind err (prepare param s')

theorem guardedOperation_rejects
    (h : Missing lib kind load s ∨ s.lastStatus = .verifying ∨ s.lastStatus = .flashing) :
    guardedOperation kind lib arg load err s = (s, .invalidState) := by
  unfold guardedOperation
  split
  · rfl
  · next hs => exact startOperation_missing (h.resolve_right hs)

theorem guardedOperation_result
    (h : (guardedOperation kind lib arg load err s).2 = .invalidState) :
    Missing lib kind load s ∨ s.lastStatus = .verifying ∨ s.lastStatus = .flashing := by
  unfold guardedOperation at h
  split at h
  · next hs => exact .inr hs
  · by_contra hne
    exact startOperation_result (fun hm => hne (.inl hm)) h

theorem guardedOperation_inProgress :
    (guardedOperation kind lib arg load err s).1.inProgress.length ≤ s.inProgress.length + 1 := by
  unfold guardedOperation
  split
  · exact Nat.le_succ _
  · exact startOperation_inProgress fun _ _ => rfl

end StartOperation

theorem handle_rejects (h : Missing lib r.kind r.load s ∨
    r.kind ≠ .mirror ∧ (s.lastStatus = .verifying ∨ s.lastStatus = .flashing)) :
    handle lib r s = (s, .invalidState) := by
  unfold handle
  split <;> next hkind =>
    simp only [hkind] at h
    first
      | exact guardedOperation_rejects (h.imp_right And.right)
      | exact startOperation_missing (h.resolve_right fun hm => hm.1 rfl)

theorem handle_result (h : (handle lib r s).2 = .invalidState) : Missing lib r.kind r.load s ∨
    r.kind ≠ .mirror ∧ (s.lastStatus = .verifying ∨ s.lastStatus = .flashing) := by
  unfold handle at h
  split at h
  · next hkind =>
    rw [hkind]
    exact (guardedOperation_result h).imp_right fun hs => ⟨by simp, hs⟩
  · next hkind =>
    rw [hkind]
    exact (guardedOperation_result h).imp_right fun hs => ⟨by simp, hs⟩
  · next hkind =>
    rw [hkind]
    by_contra hne
    exact startOperation_result (fun hm => hne (.inl hm)) h

theorem handle_inProgress (lib : Bool) (r : Request) (s : State) :
    (handle lib r s).1.inProgress.length ≤ s.inProgress.length + 1 := by
  unfold handle
  split
  · exact guardedOperation_inProgress
  · exact guardedOperation_inProgress
  · exact startOperation_inProgress fun _ _ => rfl

theorem excluded_iff_guarded (s : State) (act : Action) :
    Excluded lib s act ↔ Guarded lib s act := by
  cases act with
  | callback => exact Iff.rfl
  | request r =>
    constructor
    · exact fun h hne => handle_result (h hne).1
    · intro h hne
      rw [handle_rejects (h hne)]
      exact ⟨rfl, rfl⟩

theorem inProgress_step (h : s.inProgress.length ≤ 1) (hg : Guarded lib s act)
    (hstep : step lib s act = some s') : s'.inProgress.length ≤ 1 := by
  cases act with
  | callback operation status memory =>
    obtain rfl := Option.some.inj hstep
    simp only [writeImageCb]
    split
    · exact Nat.le_trans List.length_erase_le h
    · exact h
  | request r =>
    obtain rfl := Option.some.inj hstep
    by_cases hne : s.inProgress = []
    · have hle := handle_inProgress lib r s
      rwa [hne] at hle
    · rw [handle_rejects (hg hne)]
      exact h

/-- In a run whose requests are all guarded, and in no other, every request that arrives
during an operation is rejected; then at most one operation is ever in progress. -/
theorem flash_exclusion_iff (lib : Bool) (as : List Action) :
    (Along (step lib) (Excluded lib) State.init as ∧
      ∀ pre s, pre <+: as → run (step lib) State.init pre = some s → s.inProgress.length ≤ 1) ↔
    Along (step lib) (Guarded lib) State.init as := by
  constructor
  · exact fun h => h.1.imp fun s act => (excluded_iff_guarded s act).mp
  · intro h
    refine ⟨h.imp fun s act => (excluded_iff_guarded s act).mpr, ?_⟩
    rintro pre s ⟨rest, rfl⟩ hrun
    exact run_invariant_along (fun s => s.inProgress.length ≤ 1)
      (fun _ _ _ h hg hstep => inProgress_step h hg hstep) (Nat.zero_le _) h.of_append_left hrun

def sampleParam : WriteImageArg where
  address := 1
  name := Buf.zeroed 0 maxBuf
  path := Buf.zeroed 0 maxBuf
  type := 0
  callerModuleName := Buf.zeroed 0 maxBuf
  interval := 1
  cbData := Buf.zeroed 0 maxBuf

def backToBackRun : List Action :=
  [.request ⟨.write, some sampleParam, .loaded, .none⟩,
    .request ⟨.write, some sampleParam, .loaded, .none⟩]

theorem flash_not_exclusive :
    ∃ s, run (step true) State.init backToBackRun = some s ∧ s.halCalls = [.write, .write] ∧
      s.inProgress = [1, 0] :=
  ⟨_, rfl, rfl, rfl⟩

end IarmMgrs.MfrMgr.Flash
