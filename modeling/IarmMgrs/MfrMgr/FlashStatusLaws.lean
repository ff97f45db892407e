import IarmMgrs.MfrMgr.FlashStatus

namespace IarmMgrs.MfrMgr.Flash

open Lib Lib.CString Lib.Transition

variable {lib : Bool} {s s' : State} {r : Request} {p p' : State × Routing} {act : Action}

theorem loadFunc_some {kind : Kind} {load : Load} (h : loadFunc kind load s = some s') :
    ∃ func, s' = { s with func := func } := by
  unfold loadFunc at h
  split at h
  · obtain rfl := Option.some.inj h
    exact ⟨s.func, rfl⟩
  · split at h
    · obtain rfl := Option.some.inj h
      exact ⟨_, rfl⟩
    · cases h

theorem loadFunc_of_not_missing {kind : Kind} {load : Load} (hm : ¬ Missing lib kind load s) :
    ∃ func, loadFunc kind load s = some { s with func := func } := by
  cases hfunc : loadFunc kind load s with
  | none => exact absurd (loadFunc_eq_none.mp hfunc) (not_or.mp hm).2
  | some s' =>
    obtain ⟨func, rfl⟩ := loadFunc_some hfunc
    exact ⟨func, rfl⟩

section StartOperation

variable {kind : Kind} {prepare : WriteImageArg → State → State} {arg : Option WriteImageArg}
  {load : Load} {err : MfrError}

theorem startOperation_refused
    (h : Missing lib kind load s ∨
      ¬ ∃ param ∈ arg, isValidWriteImageParam param.toWriteImageParam = true) :
    ∃ func, (startOperation kind prepare lib arg load err s).1 = { s with func := func } ∧
      (startOperation kind prepare lib arg load err s).2 ≠ .success := by
  by_cases hm : Missing lib kind load s
  · rw [startOperation_missing hm]
    exact ⟨s.func, rfl, by simp⟩
  · have harg := h.resolve_left hm
    obtain ⟨func, hfunc⟩ := loadFunc_of_not_missing hm
    rw [startOperation, if_neg (by simpa using (not_or.mp hm).1), hfunc]
    cases arg with
    | none => exact ⟨func, rfl, by simp⟩
    | some param =>
      have hvalid : isValidWriteImageParam param.toWriteImageParam = false := by simpa using harg
      simp only [hvalid, Bool.not_false, if_true]
      exact ⟨func, rfl, by simp⟩

theorem startOperation_reaches {param : WriteImageArg} (hm : ¬ Missing lib kind load s)
    (hvalid : isValidWriteImageParam param.toWriteImageParam = true) :
    ∃ func, startOperation kind prepare lib (some param) load err s =
      callHal kind err (prepare param { s with func := func }) := by
  obtain ⟨func, hfunc⟩ := loadFunc_of_not_missing hm
  refine ⟨func, ?_⟩
  rw [startOperation, if_neg (by simpa using (not_or.mp hm).1), hfunc]
  simp only [hvalid, Bool.not_true, Bool.false_eq_true, if_false]

end StartOperation

/-- A request that does not reach the HAL fails, and only loads an entry point. -/
theorem handle_refused (h : ¬ Reaches lib r s) :
    ∃ func, (handle lib r s).1 = { s with func := func } ∧ (handle lib r s).2 ≠ .success := by
  obtain ⟨kind, arg, load, err⟩ := r
  have hguarded (hne : kind ≠ .mirror) :
      ∃ func, (guardedOperation kind lib arg load err s).1 = { s with func := func } ∧
        (guardedOperation kind lib arg load err s).2 ≠ .success := by
    unfold guardedOperation
    split
    · exact ⟨s.func, rfl, by simp⟩
    · next hs =>
      refine startOperation_refused (or_iff_not_imp_left.mpr fun hm harg => ?_)
      exact h ⟨hm, .inr hs, harg⟩
  cases kind with
  | write => exact hguarded (by simp)
  | verify => exact hguarded (by simp)
  | mirror =>
    exact startOperation_refused (or_iff_not_imp_left.mpr fun hm harg => h ⟨hm, .inl rfl, harg⟩)

/-- A request that reaches the HAL fills the shared status before the call. -/
theorem handle_reaches (h : Reaches lib r s) :
    ∃ param func, r.arg = some param ∧ handle lib r s = callHal r.kind r.err
      { s with
        func := func
        notifyStruct := param.notifyStruct
        lastStatus := r.kind.statusAtCall s.lastStatus } := by
  obtain ⟨kind, arg, load, err⟩ := r
  obtain ⟨hm, hopen, param, harg, hvalid⟩ := h
  obtain rfl : arg = some param := harg
  have hguarded (hne : kind ≠ .mirror) :
      ∃ func, guardedOperation kind lib (some param) load err s = callHal kind err
        { s with
          func := func
          notifyStruct := param.notifyStruct
          lastStatus := .notStarted } := by
    rw [guardedOperation, if_neg (hopen.resolve_left hne)]
    exact startOperation_reaches hm hvalid
  cases kind with
  | write =>
    obtain ⟨func, heq⟩ := hguarded (by simp)
    exact ⟨param, func, rfl, heq⟩
  | verify =>
    obtain ⟨func, heq⟩ := hguarded (by simp)
    exact ⟨param, func, rfl, heq⟩
  | mirror =>
    obtain ⟨func, heq⟩ := startOperation_reaches hm hvalid
    exact ⟨param, func, rfl, heq⟩

/-- A request that fails leaves the shared status as it was exactly if it does not reach the
HAL, or sets nothing there. -/
theorem refused_intact_iff (lib : Bool) (r : Request) (s : State)
    (hrefused : (handle lib r s).2 ≠ .success) : Intact lib r s ↔ SetsNothing lib r s := by
  by_cases hreach : Reaches lib r s
  · obtain ⟨param, func, harg, heq⟩ := handle_reaches hreach
    have herr : r.err = .failed := by
      cases hr : r.err with
      | failed => rfl
      | none => exact absurd (by rw [heq, hr]; rfl) hrefused
    simp only [Intact, heq, herr, callHal, SetsNothing, hreach, true_imp_iff, harg,
      Option.mem_some_iff, forall_eq']
    exact and_congr eq_comm eq_comm
  · obtain ⟨func, heq, -⟩ := handle_refused hreach
    refine iff_of_true ?_ fun h => absurd h hreach
    rw [Intact, heq]
    exact ⟨rfl, rfl⟩

def imageRequest (kind : Kind) (address : Addr) (cbData : List UInt8) (err : MfrError) : Request :=
  { kind := kind
    arg := some { sampleParam with
      address := address
      cbData := (Buf.zeroed 0 maxBuf).write cbData }
    load := .loaded
    err := err }

def report (progress : Progress) : MfrUpgradeStatus := ⟨progress, 0, .zeroed 0 32, 0⟩

def sampleMemory (address : Addr) : Buf UInt8 maxBuf :=
  (Buf.zeroed 0 maxBuf).write (if address = 1 then lit "first" else lit "second")

def writingRun : List Action :=
  [.request (imageRequest .write 1 (lit "first") .none),
    .callback 0 (report .started) sampleMemory]

/-- A second write, which the HAL refuses, resets the progress of the first one and points to its
own callback data. -/
theorem refused_not_intact :
    ∃ s, run (step true) State.init writingRun = some s ∧
      (handle true (imageRequest .write 2 (lit "second") .failed) s).2 = .ipccoreFail ∧
      s.lastStatus = .started ∧
      (handle true (imageRequest .write 2 (lit "second") .failed) s).1.lastStatus = .notStarted ∧
      s.notifyStruct.cbData = some 1 ∧
      (handle true (imageRequest .write 2 (lit "second") .failed) s).1.notifyStruct.cbData =
        some 2 :=
  ⟨_, rfl, rfl, rfl, rfl, rfl, rfl⟩

theorem refused_intact_iff_verifying :
    Intact true (imageRequest .write 2 (lit "second") .none)
      { State.init with lastStatus := .verifying } :=
  (refused_intact_iff true (imageRequest .write 2 (lit "second") .none)
    { State.init with lastStatus := .verifying } (by decide)).mpr fun h =>
      absurd h.2.1 (by decide)

/-- `notifyStruct` points into the argument of the last request that has reached the HAL, and
where none has there is no operation. -/
structure Holds (p : State × Routing) : Prop where
  last : p.1.notifyStruct.cbData = p.2.last.map Prod.fst
  own : ∀ operation, p.2.own operation ≠ none → p.2.last ≠ none

theorem Holds.step (h : Holds p) (hstep : observe lib p act = some p') : Holds p' := by
  obtain ⟨s, t⟩ := p
  obtain ⟨s', t'⟩ := p'
  obtain ⟨hs, ht⟩ := observed_some.mp hstep
  simp only at hs ht
  subst ht
  cases act with
  | callback operation status memory =>
    obtain rfl := Option.some.inj hs
    exact ⟨h.last, h.own⟩
  | request r =>
    obtain rfl := Option.some.inj hs
    by_cases hreach : Reaches lib r s
    · obtain ⟨param, func, harg, heq⟩ := handle_reaches hreach
      have hfilled : (handle lib r s).1.notifyStruct = param.notifyStruct := by
        rw [heq]
        cases r.err <;> rfl
      have hlast : (Routing.note lib s (.request r) t).last =
          some (param.address, param.cbData.str 0) := by
        simp only [Routing.note, if_pos hreach, harg, Option.map_some]
      refine ⟨?_, fun _ _ => by simp [hlast]⟩
      simp only [hlast, hfilled, WriteImageArg.notifyStruct, Option.map_some]
    · obtain ⟨func, heq, hfails⟩ := handle_refused hreach
      have hsame : Routing.note lib s (.request r) t = t := by
        simp only [Routing.note, if_neg hfails, if_neg hreach]
      rw [hsame, heq]
      exact ⟨h.last, h.own⟩

theorem routed_iff (h : Holds p) (act : Action) : Routed p act ↔ ReadsOwn p act := by
  cases act with
  | request r => exact Iff.rfl
  | callback operation status memory =>
    refine forall₂_congr fun cbData hown => ?_
    have hlast := h.own operation (by simp [hown])
    obtain ⟨last, hlast⟩ := Option.ne_none_iff_exists'.mp hlast
    have hpoints := h.last
    rw [hlast, Option.map_some] at hpoints
    simp only [writeImageCb, cbDataText, hpoints, hlast, Option.mem_some_iff, forall_eq', ReadsAs,
      List.append_cancel_left_eq, List.cons.injEq, Prod.mk.injEq, true_and, and_true]

theorem readsOwn_iff (h : Holds p) (hkept : ArgumentKept p act) :
    ReadsOwn p act ↔ Undisturbed p act := by
  cases act with
  | request r => exact Iff.rfl
  | callback operation status memory =>
    refine forall₂_congr fun cbData hown => ?_
    obtain ⟨last, hlast⟩ := Option.ne_none_iff_exists'.mp (h.own operation (by simp [hown]))
    have hreads : ReadsAs memory last.1 last.2 := hkept last hlast
    rw [ReadsAs] at hreads
    simp only [hlast, Option.mem_some_iff, forall_eq', ReadsAs, hreads, Option.map_some,
      Option.some.injEq]

theorem holds_init : Holds observeInit := ⟨rfl, fun _ h => absurd rfl h⟩

/-- In every run each callback of an accepted operation broadcasts the operation's own data, exactly
if the argument of the last request to have reached the HAL reads as that at each of them; and where
the bus leaves that argument as it was, exactly if no request with other data has reached the HAL
since. -/
theorem flashStatus_routed_iff (lib : Bool) (as : List Action) :
    (Along (observe lib) Routed observeInit as ↔ Along (observe lib) ReadsOwn observeInit as) ∧
      (Along (observe lib) ArgumentKept observeInit as →
        (Along (observe lib) Routed observeInit as ↔
          Along (observe lib) Undisturbed observeInit as)) := by
  have hrouted : Along (observe lib) Routed observeInit as ↔
      Along (observe lib) ReadsOwn observeInit as :=
    Along.congr Holds (fun _ _ _ h hstep => h.step hstep) (fun _ act h => routed_iff h act)
      holds_init
  refine ⟨hrouted, fun hkept => hrouted.trans ?_⟩
  exact Along.congr_along Holds (fun _ _ _ h hstep => h.step hstep)
    (fun _ _ h hkept => readsOwn_iff h hkept) holds_init hkept

theorem flashStatus_routed_iff_writingRun : Along (observe true) Routed observeInit writingRun := by
  have hlast : ∀ p, observe true observeInit
      (.request (imageRequest .write 1 (lit "first") .none)) = some p →
        p.2.last = some (1, lit "first") ∧ p.2.own 0 = some (lit "first") := by
    intro p hp
    obtain rfl := Option.some.inj hp
    exact ⟨by decide, by decide⟩
  have hkept : Along (observe true) ArgumentKept observeInit writingRun := by
    refine ⟨trivial, fun p hp => ⟨fun last hmem => ?_, fun _ _ => trivial⟩⟩
    obtain rfl := Option.some.inj ((hlast p hp).1.symm.trans hmem)
    simp only [ReadsAs]
    decide
  have hundisturbed : Along (observe true) Undisturbed observeInit writingRun := by
    refine ⟨trivial, fun p hp => ⟨fun cbData hown => ?_, fun _ _ => trivial⟩⟩
    rw [(hlast p hp).1]
    exact (hlast p hp).2.symm.trans hown
  exact ((flashStatus_routed_iff true writingRun).2 hkept).mpr hundisturbed

/-- The status of the first write carries the data of the mirror that has been refused. -/
theorem flashStatus_misrouted :
    ∃ p, run (observe true) observeInit (writingRun ++
        [.request (imageRequest .mirror 2 (lit "second") .failed),
          .callback 0 (report .flashing) sampleMemory]) = some p ∧
      p.2.own 0 = some (lit "first") ∧ p.1.broadcasts.map Prod.snd = [lit "first", lit "second"] :=
  ⟨_, rfl, by decide, by decide⟩

end IarmMgrs.MfrMgr.Flash
