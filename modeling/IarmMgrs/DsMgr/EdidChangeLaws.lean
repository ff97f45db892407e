import IarmMgrs.DsMgr.EdidChange

universe u

namespace IarmMgrs.DsMgr.EdidChange

open Lib.Transition
open Resolution (PlatformConfig Outcome)

variable {ρ : Type u} {cfg : PlatformConfig} {s s' : State ρ} {act : Action ρ} {dump : Dump ρ}

theorem compareChecksum_true {cached : Int} {checksum : Option Int} :
    (compareChecksum cached checksum).1 = true ↔
      ∃ current ∈ checksum, cached = 0 ∨ current ≠ cached := by
  cases checksum with
  | none => simp [compareChecksum]
  | some current =>
    simp only [compareChecksum, Option.mem_def, Option.some.injEq, exists_eq_left']
    split <;> simp_all

theorem compareChecksum_cached (cached : Int) (checksum : Option Int) :
    (compareChecksum cached checksum).2 = checksum.getD cached := by
  cases checksum with
  | none => rfl
  | some current =>
    simp only [compareChecksum, Option.getD_some]
    split
    · rfl
    · next hsame => exact (not_not.mp (not_or.mp hsame).2).symm

theorem outcome_toPersist (call : Call ρ) (bootupFlagEnabled hotplugEdidDiff : Bool) :
    call.outcome cfg bootupFlagEnabled hotplugEdidDiff =
      call.outcome cfg (bootupFlagEnabled || hotplugEdidDiff) false := by
  cases bootupFlagEnabled <;> cases hotplugEdidDiff <;> rfl

def Dump.requests (cfg : PlatformConfig) (s : State ρ) (dump : Dump ρ) : List (Request ρ) :=
  let diff := (compareChecksum s.cachedEdidChecksum dump.checksum).1
  match dump.purpose with
  | .callback => []
  | .setResolution call due =>
    [⟨call, due, s.bootupFlagEnabled || diff, call.outcome cfg s.bootupFlagEnabled diff⟩]

section Compares

variable (cfg : PlatformConfig) (s : State ρ) (caller : Caller) (dump : Dump ρ)

theorem compares_requests :
    (s.compares cfg caller dump).requests = s.requests ++ dump.requests cfg s := by
  cases hpurpose : dump.purpose <;> simp [State.compares, Dump.requests, hpurpose]

theorem compares_cached :
    (s.compares cfg caller dump).cachedEdidChecksum =
      dump.checksum.getD s.cachedEdidChecksum := by
  rw [← compareChecksum_cached]
  cases hpurpose : dump.purpose <;> simp [State.compares, hpurpose]

theorem compares_compared :
    (s.compares cfg caller dump).compared = dump.checksum.or s.compared := by
  cases hpurpose : dump.purpose <;> simp [State.compares, hpurpose]

end Compares

/-- Only a comparison touches the static variable, and only one made for `_SetResolution`
leads to a request. -/
theorem step_some (h : step cfg s act = some s') :
    (∃ caller dump, act = .compares caller ∧ s.dumps caller = some dump ∧
        s' = s.compares cfg caller dump) ∨
      (∀ caller, act ≠ .compares caller) ∧ s'.cachedEdidChecksum = s.cachedEdidChecksum ∧
        s'.compared = s.compared ∧ s'.requests = s.requests := by
  cases act with
  | compares caller =>
    obtain ⟨dump, hdump, rfl⟩ := Option.map_eq_some_iff.mp h
    exact .inl ⟨caller, dump, rfl, hdump, rfl⟩
  | displays | clearsBootupFlag | schedules =>
    obtain rfl := Option.some.inj h
    exact .inr ⟨nofun, rfl, rfl, rfl⟩
  | timerFires =>
    obtain ⟨-, rfl⟩ := of_guard h
    exact .inr ⟨nofun, rfl, rfl, rfl⟩
  | setResolution caller call =>
    obtain ⟨-, rfl⟩ := of_guard h
    refine .inr ⟨nofun, ?_⟩
    split <;> exact ⟨rfl, rfl, rfl⟩

theorem callback_alone (hsources : s.sources ≠ 0) (hfree : s.dumps .mainLoop = none) :
    run (step cfg) s [.timerFires, .compares .mainLoop] = some s.calledBack := by
  have hback : Function.update s.dumps .mainLoop none = s.dumps :=
    Function.update_eq_self_iff.mpr hfree.symm
  simp [run, step, State.reads, State.compares, State.calledBack, dumpEdidOnChecksumDiff, hsources,
    hfree, hback]
  rfl

theorem setResolution_alone {caller : Caller} {call : Call ρ} (hreads : call.reads = true)
    (hfree : s.dumps caller = none) :
    run (step cfg) s [.setResolution caller call, .compares caller] =
      let answer := dumpEdidOnChecksumDiff s.cachedEdidChecksum s.display
      some { s with
        cachedEdidChecksum := answer.2
        requests := s.requests ++ [⟨call, s.changed, s.bootupFlagEnabled || answer.1,
          call.outcome cfg s.bootupFlagEnabled answer.1⟩]
        changed := false
        compared := s.display.checksum.or s.compared } := by
  have hback : Function.update s.dumps caller none = s.dumps :=
    Function.update_eq_self_iff.mpr hfree.symm
  simp [run, step, State.reads, State.compares, dumpEdidOnChecksumDiff, hreads, hfree, hback]

/-- The static variable is the last checksum compared, and 0 before there is one. -/
structure Inv (cfg : PlatformConfig) (s : State ρ) : Prop where
  cached : s.cachedEdidChecksum = s.compared.getD 0
  outcome : ∀ request ∈ s.requests,
    request.outcome = request.call.outcome cfg request.toPersist false

theorem Inv.init : Inv cfg (State.init : State ρ) where
  cached := rfl
  outcome _ h := nomatch h

theorem Dump.requests_outcome {request : Request ρ} (h : request ∈ dump.requests cfg s) :
    request.outcome = request.call.outcome cfg request.toPersist false := by
  cases hpurpose : dump.purpose with
  | callback => simp [Dump.requests, hpurpose] at h
  | setResolution call due =>
    simp only [Dump.requests, hpurpose, List.mem_singleton] at h
    subst h
    exact outcome_toPersist call _ _

theorem Inv.step (hinv : Inv cfg s) (h : step cfg s act = some s') : Inv cfg s' := by
  obtain ⟨caller, dump, -, -, rfl⟩ | ⟨-, hcached, hcompared, hrequests⟩ := step_some h
  · refine ⟨?_, fun request hmem => ?_⟩
    · rw [compares_cached, compares_compared, hinv.cached]
      cases dump.checksum <;> rfl
    · rw [compares_requests, List.mem_append] at hmem
      exact hmem.elim (hinv.outcome request) Dump.requests_outcome
  · exact ⟨by rw [hcached, hcompared, hinv.cached], hrequests ▸ hinv.outcome⟩

theorem Inv.fresh_iff (hinv : Inv cfg s) :
    Fresh s dump ↔ (compareChecksum s.cachedEdidChecksum dump.checksum).1 = true := by
  rw [compareChecksum_true, hinv.cached]
  cases hcompared : s.compared with
  | none => simp [Fresh, hcompared]
  | some last =>
    have hlast (current : Int) :
        (last = current → current = 0) ↔ last = 0 ∨ current ≠ last := by omega
    simp [Fresh, hcompared, hlast]

theorem changeKept_iff (hinv : Inv cfg s) (hreq : ChangeRequested s)
    (h : step cfg s act = some s') : ChangeKept s act ↔ ChangeRequested s' := by
  obtain ⟨caller, dump, rfl, hdump, rfl⟩ | ⟨hact, -, -, hrequests⟩ := step_some h
  · have hsplit : ChangeRequested (s.compares cfg caller dump) ↔
        ∀ request ∈ dump.requests cfg s, request.due = true → request.toPersist = true := by
      simp only [ChangeRequested, compares_requests, List.forall_mem_append]
      exact and_iff_right hreq
    rw [hsplit]
    simp only [ChangeKept, hdump, Option.mem_some_iff, forall_eq', hinv.fresh_iff]
    cases hpurpose : dump.purpose with
    | callback => simp [Dump.requests, Purpose.due, hpurpose]
    | setResolution call due =>
      simp only [Dump.requests, Purpose.due, hpurpose, List.forall_mem_singleton]
      cases s.bootupFlagEnabled <;> simp
  · refine iff_of_true ?_ (fun request hmem => hreq request (hrequests ▸ hmem))
    cases act with
    | compares caller => exact absurd rfl (hact caller)
    | _ => trivial

/-- In every state reached the first `_SetResolution` after each change of the EDID has asked
for the persisted resolution, exactly if outside of the boot-up each of them compares a
checksum that is fresh. -/
theorem edidChange_requested_iff {as : List (Action ρ)}
    (hrun : run (step cfg) .init as = some s) :
    Along (step cfg) ChangeKept .init as ↔
      ∀ pre t, pre <+: as → run (step cfg) .init pre = some t →
        ∀ request ∈ t.requests, request.due = true → request.toPersist = true :=
  along_iff (Inv cfg) ChangeRequested (fun _ _ _ hinv _ h => hinv.step h)
    (fun _ _ _ hinv hreq h => changeKept_iff hinv hreq h) Inv.init (fun _ h => nomatch h) hrun

theorem requests_outcome {as : List (Action ρ)} (hrun : run (step cfg) .init as = some s) :
    ∀ request ∈ s.requests,
      request.outcome = request.call.outcome cfg request.toPersist false :=
  (run_invariant (Inv cfg) (fun _ _ _ hinv h => hinv.step h) Inv.init hrun).outcome

def sampleDisplay (checksum : UInt8) : Display := ⟨1, 128, List.replicate 127 0 ++ [checksum]⟩

def sampleCall : Call Unit where
  hal :=
    { videoPortResolutions := some [⟨Lib.CString.lit "720p", ()⟩]
      defaultResolutionIndex := some 0
      edidDataAllocated := true
      edidParamAllocated := true
      hotplugEdidDiff := false
      resolution := fun _ => Lib.CString.lit "720p"
      displayHandle := 1
      suppResolutionList := [⟨Lib.CString.lit "720p", ()⟩]
      hdmiDeviceType := true
      forceDisable4K := false }
  handle := 1
  portType := .hdmi

def bootRun : List (Action Unit) :=
  [.displays (sampleDisplay 1), .setResolution .eventWorker sampleCall, .compares .eventWorker,
    .clearsBootupFlag, .schedules]

def lostRun : List (Action Unit) :=
  bootRun ++ [.displays (sampleDisplay 2), .timerFires, .compares .mainLoop,
    .setResolution .resnThread sampleCall, .compares .resnThread]

theorem edidChange_lost :
    ∃ s, run (step .initial) State.init lostRun = some s ∧ s.bootupFlagEnabled = false ∧
      ∃ request ∈ s.requests, request.due = true ∧ request.toPersist = false :=
  ⟨_, rfl, rfl, _, .tail _ (.head _), rfl, rfl⟩

def keptRun : List (Action Unit) :=
  bootRun ++ [.displays (sampleDisplay 2), .setResolution .resnThread sampleCall,
    .compares .resnThread, .timerFires, .compares .mainLoop]

theorem edidChange_requested_keptRun :
    ∃ s, run (step .initial) State.init keptRun = some s ∧
      s.requests.map (fun request => (request.due, request.toPersist)) =
        [(true, true), (true, true)] ∧
      ∀ request ∈ s.requests, request.due = true → request.toPersist = true :=
  ⟨_, rfl, rfl, (edidChange_requested_iff rfl).mp (by decide) keptRun _ (List.prefix_refl _) rfl⟩

section Again

variable {display : Display}

theorem checksum_readable (hhandle : display.handle ≠ 0) (hpos : 0 < display.length)
    (hlen : display.length ≤ 512) :
    display.checksum = some (currentEdidChecksum display.length display.bytes) :=
  if_pos ⟨hhandle, hpos, hlen⟩

/-- The checksum bytes do not cancel: their sum is zero only if all of them are. -/
theorem checksumBytes_sum (bytes : List UInt8) (n : Nat) :
    0 ≤ (List.range n).foldl
        (fun sum i => sum + ((bytes.getD ((i + 1) * 128 - 1) 0).toNat : Int)) 0 ∧
      ((List.range n).foldl
          (fun sum i => sum + ((bytes.getD ((i + 1) * 128 - 1) 0).toNat : Int)) 0 ≠ 0 ↔
        ∃ i < n, bytes.getD ((i + 1) * 128 - 1) 0 ≠ 0) := by
  induction n with
  | zero => simp
  | succ n ih =>
    rw [List.range_succ, List.foldl_append, List.foldl_cons, List.foldl_nil]
    have hlast : ((bytes.getD ((n + 1) * 128 - 1) 0).toNat : Int) ≠ 0 ↔
        bytes.getD ((n + 1) * 128 - 1) 0 ≠ 0 := by
      rw [ne_eq, Int.natCast_eq_zero, ← UInt8.toNat_zero, UInt8.toNat_inj]
    refine ⟨by omega, ?_⟩
    rw [Nat.exists_lt_succ_right, ← ih.2, ← hlast]
    omega

theorem hasChecksumByte_iff :
    HasChecksumByte display ↔ currentEdidChecksum display.length display.bytes ≠ 0 :=
  (checksumBytes_sum display.bytes _).2.symm

theorem idempotent_iff {checksum : Int} (h : display.checksum = some checksum) (cached : Int) :
    Idempotent cached display ↔ checksum ≠ 0 := by
  simp only [Idempotent, dumpEdidOnChecksumDiff, h, compareChecksum_cached, Option.getD_some]
  simp only [compareChecksum]
  split
  · next hagain => simp_all
  · next hsame => simp_all

theorem callbacks_succ (hsources : s.sources ≠ 0) (hfree : s.dumps .mainLoop = none) {n : Nat}
    {t : State ρ} :
    run (step cfg) s (callbacks (n + 1)) = some t ↔
      run (step cfg) s.calledBack (callbacks n) = some t := by
  rw [callbacks, List.replicate_succ, List.flatten_cons, run_append,
    callback_alone hsources hfree]
  simp only [Option.some.injEq, exists_eq_left', callbacks]

/-- With the checksum 0 every callback asks to be called again. -/
theorem sources_stay {t : State ρ} (h : s.display.checksum = some 0) (hone : s.sources = 1)
    (hfree : s.dumps .mainLoop = none) {n : Nat}
    (hrun : run (step cfg) s (callbacks n) = some t) : t.sources = 1 := by
  induction n generalizing s with
  | zero =>
    obtain rfl := Option.some.inj hrun
    exact hone
  | succ n ih =>
    rw [callbacks_succ (by omega) hfree] at hrun
    have hagain : (dumpEdidOnChecksumDiff s.cachedEdidChecksum s.display).1 = true := by
      rw [dumpEdidOnChecksumDiff, compareChecksum_true, h]
      exact ⟨0, rfl, or_iff_not_imp_left.mpr Ne.symm⟩
    have hstill : s.calledBack.sources = 1 := by
      rw [State.calledBack, hagain]
      exact hone
    exact ih (s := s.calledBack) h hstill hfree hrun

theorem sourcesEnd_iff {checksum : Int} (h : s.display.checksum = some checksum)
    (hone : s.sources = 1) (hfree : s.dumps .mainLoop = none) :
    SourcesEnd cfg s ↔ checksum ≠ 0 := by
  constructor
  · rintro ⟨n, t, hrun, hend⟩ rfl
    have hstays := sources_stay h hone hfree hrun
    omega
  · intro hne
    cases hfirst : (dumpEdidOnChecksumDiff s.cachedEdidChecksum s.display).1 with
    | false =>
      refine ⟨1, s.calledBack, (callbacks_succ (by omega) hfree).mpr rfl, ?_⟩
      simp [State.calledBack, hfirst, hone]
    | true =>
      have hstill : s.calledBack.sources = 1 := by
        rw [State.calledBack, hfirst]
        exact hone
      have hsecond : (dumpEdidOnChecksumDiff s.calledBack.cachedEdidChecksum s.display).1 = false :=
        congrArg Prod.fst ((idempotent_iff h s.cachedEdidChecksum).mpr hne)
      have hrest : run (step cfg) s.calledBack (callbacks 1) = some s.calledBack.calledBack :=
        (callbacks_succ (s := s.calledBack) (by omega) hfree).mpr rfl
      refine ⟨2, s.calledBack.calledBack, (callbacks_succ (by omega) hfree).mpr hrest, ?_⟩
      have hlast : s.calledBack.calledBack.sources =
          if (dumpEdidOnChecksumDiff s.calledBack.cachedEdidChecksum s.display).1 then
            s.calledBack.sources else s.calledBack.sources - 1 := rfl
      rw [hlast, hsecond, hstill]
      rfl

/-- The dump is idempotent, and its source ends, exactly if some block's checksum byte is not
zero: 0 as the stored checksum stands for none. -/
theorem edidDump_idempotent_iff (cfg : PlatformConfig) (hhandle : display.handle ≠ 0)
    (hpos : 0 < display.length) (hlen : display.length ≤ 512) (cached : Int) :
    (Idempotent cached display ↔ HasChecksumByte display) ∧
      ∀ s : State ρ, s.display = display → s.cachedEdidChecksum = cached → s.sources = 1 →
        s.dumps .mainLoop = none →
          (SourcesEnd cfg s ↔ HasChecksumByte display) := by
  have h := checksum_readable hhandle hpos hlen
  rw [hasChecksumByte_iff]
  refine ⟨idempotent_iff h cached, ?_⟩
  rintro s rfl - hone hfree
  exact sourcesEnd_iff h hone hfree

def shortDisplay : Display := ⟨1, 64, List.replicate 64 255⟩

theorem edidDump_repeats :
    dumpEdidOnChecksumDiff 0 shortDisplay = (true, 0) ∧ ¬ Idempotent 0 shortDisplay := by
  decide

theorem edidDump_idempotent_iff_sampleDisplay : Idempotent 7 (sampleDisplay 1) :=
  (edidDump_idempotent_iff (ρ := Unit) .initial (by decide) (by decide) (by decide) 7).1.mpr
    (by decide)

end Again

end IarmMgrs.DsMgr.EdidChange
