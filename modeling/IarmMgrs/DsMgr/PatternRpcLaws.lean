import IarmMgrs.DsMgr.PatternRpc
import IarmMgrs.MfrMgr.SettingsLaws

namespace IarmMgrs.DsMgr.PatternRpc

open Lib Lib.Transition
open BootPattern (Pattern)
open DeviceUpdateMgr.EventData (Safec)
open MfrMgr.Flash (Load)
open MfrMgr.Settings (Kind Call Finds Found Tracks lookups setBootloaderPattern
  setBootloaderPattern_serves)

variable {safec : Safec} {faultTolerantPattern : Pattern} {s s' : State} {act : Action}
  {success : Bool}

section DsMgr

variable {p' : BootPattern.State}

/-- The dsMgr holds the pattern it has sent for stored if it is told so. -/
structure Told (p p' : BootPattern.State) (sends : Option Pattern) (success : Bool) : Prop where
  stored : p'.shared.storedPattern =
    if success then sends.getD p.shared.storedPattern else p.shared.storedPattern
  latest : success = false ∨ sends = none → p'.shared.latest = p.shared.latest

theorem told_faultTolerant (h : BootPattern.step true faultTolerantPattern s.dsMgr
    (.faultTolerant success) = some p') :
    Told s.dsMgr p' (faultTolerantSends faultTolerantPattern s) success := by
  obtain ⟨c, hc, rfl⟩ := Option.map_eq_some_iff.mp h
  unfold BootPattern.moveFaultTolerant at hc
  unfold faultTolerantSends
  cases hft : s.dsMgr.shared.faultTolerant with
  | notCalled => simp [hft] at hc
  | finished => simp [hft] at hc
  | calling =>
    simp only [hft, BootPattern.faultTolerantRpc, BootPattern.setBootloaderPatternRpc] at hc
    cases success <;> obtain rfl := Option.some.inj hc <;> exact ⟨rfl, fun _ => rfl⟩
  | failed =>
    simp only [hft] at hc
    obtain rfl := Option.some.inj hc
    exact ⟨(ite_self _).symm, fun _ => rfl⟩
  | sleeping n =>
    simp only [hft] at hc
    split at hc <;> obtain rfl := Option.some.inj hc <;> exact ⟨(ite_self _).symm, fun _ => rfl⟩
  | attempting n =>
    simp only [hft, BootPattern.faultTolerantRpc, BootPattern.setBootloaderPatternRpc] at hc
    cases success with
    | true =>
      obtain rfl := Option.some.inj hc
      exact ⟨rfl, fun _ => rfl⟩
    | false =>
      by_cases hn : 0 < n - 1
      · rw [if_pos ⟨rfl, hn⟩] at hc
        obtain rfl := Option.some.inj hc
        exact ⟨rfl, fun _ => rfl⟩
      · rw [if_neg fun h => hn h.2] at hc
        obtain rfl := Option.some.inj hc
        exact ⟨rfl, fun _ => rfl⟩

theorem told_advanceCall {t : Nat} (h : BootPattern.step true faultTolerantPattern s.dsMgr
    (.call (.advance t success)) = some p') : Told s.dsMgr p' (callSends t s) success := by
  unfold BootPattern.step at h
  obtain ⟨pc, shared, next, hpc, hmove, rfl⟩ := Pool.step_advance h
  unfold callSends
  rw [hpc]
  cases pc with
  | invalidate pattern after =>
    simp only [BootPattern.moveCall, Option.ite_none_left_eq_some, Option.some.injEq,
      Prod.mk.injEq] at hmove
    obtain ⟨-, rfl, -⟩ := hmove
    exact ⟨(ite_self _).symm, fun _ => rfl⟩
  | callRpc pattern after =>
    simp only [BootPattern.moveCall, BootPattern.setBootloaderPatternRpc, Option.some.injEq,
      Prod.mk.injEq] at hmove
    obtain ⟨rfl, -⟩ := hmove
    cases success with
    | true => exact ⟨rfl, fun h => by simp at h⟩
    | false => exact ⟨rfl, fun _ => rfl⟩

end DsMgr

inductive Moves (faultTolerantPattern : Pattern) (safec : Safec) (s s' : State) (act : Action) :
    Prop
  | quiet (hheard : Heard faultTolerantPattern s act)
      (hstored : s'.dsMgr.shared.storedPattern = s.dsMgr.shared.storedPattern)
      (hlatest : s'.dsMgr.shared.latest = s.dsMgr.shared.latest)
      (hmfrMgr : s'.mfrMgr = s.mfrMgr) (hserved : s'.served = s.served)
  | rpc (rpc : Rpc) (pattern : Pattern) (success : Bool)
      (hheard : Heard faultTolerantPattern s act ↔
        (rpc.answered = false → Unheard s rpc.load rpc.err pattern))
      (hsuccess : success = true ↔ rpc.answered = true ∧
        (setBootloaderPattern rpc.load pattern rpc.err s.mfrMgr).2.1 = .success)
      (hstored : s'.dsMgr.shared.storedPattern =
        if success then pattern else s.dsMgr.shared.storedPattern)
      (hlatest : success = false → s'.dsMgr.shared.latest = s.dsMgr.shared.latest)
      (hmfrMgr : s'.mfrMgr = (setBootloaderPattern rpc.load pattern rpc.err s.mfrMgr).1)
      (hserved : s'.served = s.served ++ [⟨_, .setBootloaderPattern rpc.load pattern rpc.err⟩])
  | other (kind : Kind) (c : Call kind) (hact : act = .other kind c)
      (hdsMgr : s'.dsMgr = s.dsMgr)
      (hmfrMgr : s'.mfrMgr = (MfrMgr.Settings.handle safec c s.mfrMgr).1)
      (hserved : s'.served = s.served ++ [⟨kind, c⟩])

theorem moves_stepDsMgr {sends : Option Pattern} {rpc : Rpc} {next : Bool → BootPattern.Action}
    (hheard : Heard faultTolerantPattern s act ↔ rpc.Heard s sends)
    (htold : ∀ success p', BootPattern.step true faultTolerantPattern s.dsMgr (next success) =
      some p' → Told s.dsMgr p' sends success)
    (h : stepDsMgr safec faultTolerantPattern sends rpc next s = some s') :
    Moves faultTolerantPattern safec s s' act := by
  unfold stepDsMgr at h
  cases sends with
  | none =>
    obtain ⟨p', hp, rfl⟩ := Option.map_eq_some_iff.mp h
    obtain ⟨hstored, hlatest⟩ := htold _ _ hp
    exact .quiet (hheard.mpr fun _ hsends => by cases hsends) hstored (hlatest (.inr rfl)) rfl rfl
  | some pattern =>
    unfold serve at h
    by_cases hdelivered : rpc.delivered = true
    · simp only [hdelivered, if_true] at h
      obtain ⟨p', hp, rfl⟩ := Option.map_eq_some_iff.mp h
      obtain ⟨hstored, hlatest⟩ := htold _ _ hp
      refine .rpc rpc pattern _ (hheard.trans ?_) ?_ hstored (hlatest ∘ .inl) rfl rfl
      case refine_2 =>
        rw [Bool.and_eq_true, decide_eq_true_iff]
        exact .rfl
      exact ⟨fun h => h pattern rfl hdelivered,
        fun h _ hsends _ => Option.some.inj hsends ▸ h⟩
    · simp only [hdelivered] at h
      obtain ⟨p', hp, rfl⟩ := Option.map_eq_some_iff.mp h
      obtain ⟨hstored, hlatest⟩ := htold _ _ hp
      exact .quiet (hheard.mpr fun _ _ hd => absurd hd hdelivered) hstored (hlatest (.inl rfl)) rfl
        rfl

theorem moves_of_step (h : step safec faultTolerantPattern s act = some s') :
    Moves faultTolerantPattern safec s s' act := by
  cases act with
  | beginFaultTolerant =>
    obtain ⟨p', hp, rfl⟩ := Option.map_eq_some_iff.mp h
    obtain ⟨-, rfl⟩ := of_guard hp
    exact .quiet trivial rfl rfl rfl rfl
  | faultTolerant rpc =>
    exact moves_stepDsMgr .rfl (fun _ _ => told_faultTolerant) h
  | startCall t pattern =>
    obtain ⟨p', hp, rfl⟩ := Option.map_eq_some_iff.mp h
    unfold BootPattern.step at hp
    obtain ⟨-, rfl⟩ := Pool.step_start hp
    exact .quiet trivial rfl rfl rfl rfl
  | advanceCall t rpc =>
    exact moves_stepDsMgr .rfl (fun _ _ => told_advanceCall) h
  | other kind c =>
    obtain rfl := Option.some.inj h
    exact .other kind c rfl rfl rfl rfl

section Agreement

variable {initial : Pattern}

theorem taken_setBootloaderPattern (s : MfrMgr.Settings.State) (load : Load) (pattern : Pattern)
    (err : Int) :
    (Finds s .mfrSetBootloaderPattern load ∧ err = 0 ∧
        (setBootloaderPattern load pattern err s).1.taken .bootloaderPattern = some pattern) ∨
      (¬(Finds s .mfrSetBootloaderPattern load ∧ err = 0) ∧
        (setBootloaderPattern load pattern err s).1.taken .bootloaderPattern =
          s.taken .bootloaderPattern) := by
  by_cases hfinds : Finds s .mfrSetBootloaderPattern load
  · have htaken :=
      MfrMgr.Settings.taken_of_written (MfrMgr.Settings.setBootloaderPattern_found hfinds pattern
        err)
    by_cases herr : err = 0
    · exact .inl ⟨hfinds, herr, htaken.trans (if_pos herr)⟩
    · exact .inr ⟨fun h => herr h.2, htaken.trans (if_neg herr)⟩
  · refine .inr ⟨fun h => hfinds h.1, ?_⟩
    unfold MfrMgr.Settings.State.taken
    rw [MfrMgr.Settings.setBootloaderPattern_missing hfinds]

/-- A step of the daemons keeps them agreed exactly when the dsMgr hears of what is taken. -/
theorem heard_iff (hs : Agreed initial s)
    (h : step safec faultTolerantPattern s act = some s') :
    Heard faultTolerantPattern s act ↔ Agreed initial s' := by
  unfold Agreed at hs ⊢
  obtain ⟨hheard, hstored, -, hmfrMgr, -⟩ |
    ⟨rpc, pattern, success, hheard, hsuccess, hstored, -, hmfrMgr, -⟩ |
    ⟨kind, c, rfl, hdsMgr, hmfrMgr, -⟩ := moves_of_step h
  · rw [hstored, hmfrMgr, hs]
    exact iff_of_true hheard rfl
  · rw [(setBootloaderPattern_serves ..).success_iff] at hsuccess
    rw [hheard, hstored, hmfrMgr, Unheard]
    obtain ⟨hfinds, herr, htaken⟩ | ⟨hnot, htaken⟩ :=
      taken_setBootloaderPattern s.mfrMgr rpc.load pattern rpc.err
    · rw [htaken, Option.getD_some]
      cases hanswered : rpc.answered with
      | true =>
        rw [if_pos (hsuccess.mpr ⟨hanswered, hfinds, herr⟩)]
        exact iff_of_true (fun h => by cases h) rfl
      | false =>
        rw [if_neg fun h => by simp [hanswered, h] at hsuccess]
        exact ⟨fun h => (h rfl hfinds herr).symm, fun h _ _ _ => h.symm⟩
    · rw [htaken, if_neg fun h => hnot (hsuccess.mp h).2]
      exact iff_of_true (fun _ hfinds herr => absurd ⟨hfinds, herr⟩ hnot) hs
  · rw [hdsMgr, hmfrMgr]
    by_cases hk : Kind.bootloaderPattern = kind
    · subst hk
      cases c with
      | setBootloaderPattern load pattern err =>
        simp only [Heard, Unheard, MfrMgr.Settings.handle]
        obtain ⟨hfinds, herr, htaken⟩ | ⟨hnot, htaken⟩ :=
          taken_setBootloaderPattern s.mfrMgr load pattern err
        · rw [htaken, Option.getD_some]
          exact ⟨fun h => (h hfinds herr).symm, fun h _ _ => h.symm⟩
        · rw [htaken]
          exact iff_of_true (fun hfinds herr => absurd ⟨hfinds, herr⟩ hnot) hs
    · unfold MfrMgr.Settings.State.taken
      rw [MfrMgr.Settings.handle_frame hk]
      exact iff_of_true (by cases c <;> trivial) hs

/-- In every interleaving, the pattern that the dsMgr takes for stored is the one that the vendor's
library has taken last, in every state of the run, exactly when the dsMgr hears of what the
library takes: no other client sets another pattern, and no answer is lost to a call that has
set one. -/
theorem storedPattern_agrees_iff (safec : Safec) (faultTolerantPattern initial : Pattern)
    (as : List Action) (s : State)
    (hrun : run (step safec faultTolerantPattern) (State.init initial) as = some s) :
    Along (step safec faultTolerantPattern) (Heard faultTolerantPattern) (State.init initial) as ↔
      ∀ pre u, pre <+: as →
        run (step safec faultTolerantPattern) (State.init initial) pre = some u →
          Agreed initial u :=
  along_iff (fun _ => True) (Agreed initial) (fun _ _ _ _ _ _ => trivial)
    (fun _ _ _ _ hs hstep => heard_iff hs hstep) trivial (by rfl) hrun

def taken : Rpc := ⟨true, true, .loaded, 0⟩

def retriedCall : List Action :=
  [.beginFaultTolerant, .faultTolerant { taken with delivered := false }, .faultTolerant taken,
    .faultTolerant taken, .faultTolerant taken]

theorem storedPattern_agrees_iff_retriedCall : ∃ s,
    run (step MfrMgr.Settings.zeroSafec .silent) (State.init .normal) retriedCall = some s ∧
      s.dsMgr.shared.storedPattern = .silent ∧ Agreed .normal s := by
  refine ⟨_, rfl, rfl, ?_⟩
  refine (storedPattern_agrees_iff MfrMgr.Settings.zeroSafec .silent .normal retriedCall _ rfl).mp
    (Along.of_mem ?_) _ _ List.prefix_rfl rfl
  simp [retriedCall, Heard, Rpc.Heard, taken]

def lostAnswer : List Action :=
  [.beginFaultTolerant, .faultTolerant { taken with answered := false }]

example : ∃ s, run (step MfrMgr.Settings.zeroSafec .silent) (State.init .normal) lostAnswer =
    some s ∧ s.dsMgr.shared.storedPattern = .normal ∧
      s.mfrMgr.taken .bootloaderPattern = some .silent := ⟨_, rfl, rfl, rfl⟩

end Agreement

section Retries

structure Unset (initial : Pattern) (s : State) : Prop where
  tracks : Tracks s.mfrMgr s.served
  unset : s.mfrMgr.func .mfrSetBootloaderPattern = false →
    s.dsMgr.shared.storedPattern = initial ∧ s.dsMgr.shared.latest = none ∧
      s.mfrMgr.written .bootloaderPattern = []

variable {initial : Pattern}

theorem Unset.step (hs : Unset initial s)
    (h : PatternRpc.step safec faultTolerantPattern s act = some s') : Unset initial s' := by
  obtain ⟨-, hstored, hlatest, hmfrMgr, hserved⟩ |
    ⟨rpc, pattern, success, -, hsuccess, hstored, hlatest, hmfrMgr, hserved⟩ |
    ⟨kind, c, -, hdsMgr, hmfrMgr, hserved⟩ := moves_of_step h
  · refine ⟨?_, fun hfunc => ?_⟩
    · rw [hmfrMgr, hserved]
      exact hs.tracks
    · rw [hmfrMgr] at hfunc ⊢
      rw [hstored, hlatest]
      exact hs.unset hfunc
  · have hserves := setBootloaderPattern_serves (s := s.mfrMgr) rpc.load pattern rpc.err
    refine ⟨?_, fun hfunc => ?_⟩
    · rw [hmfrMgr, hserved]
      exact (hs.tracks.handle (.setBootloaderPattern rpc.load pattern rpc.err) :
        Tracks (MfrMgr.Settings.handle safec _ _).1 _)
    · have hmissing : ¬ Finds s.mfrMgr .mfrSetBootloaderPattern rpc.load := by
        intro hfinds
        rw [hmfrMgr, ← Bool.not_eq_true, hserves.func_iff] at hfunc
        exact hfunc (.inl ⟨rfl, hfinds⟩)
      have hfailed : success = false := by
        rw [← Bool.not_eq_true, hsuccess, hserves.success_iff]
        exact fun h => hmissing h.2.1
      rw [hstored, hlatest hfailed, hmfrMgr, hfailed,
        MfrMgr.Settings.setBootloaderPattern_missing hmissing]
      exact hs.unset (Bool.eq_false_iff.mpr fun h => hmissing (.inl h))
  · refine ⟨?_, fun hfunc => ?_⟩
    · rw [hmfrMgr, hserved]
      exact hs.tracks.handle c
    · rw [hmfrMgr] at hfunc ⊢
      obtain ⟨hbefore, hwritten⟩ := MfrMgr.Settings.handle_unfound c hfunc
      rw [hdsMgr, hwritten]
      exact hs.unset hbefore

theorem Unset.init : Unset initial (State.init initial) :=
  ⟨MfrMgr.Settings.tracks_init, fun _ => ⟨rfl, rfl, rfl⟩⟩

/-- If the first RPC that reaches the mfr daemon does not find the vendor's library, then no RPC of
any interleaving sets the pattern: not the retries, no later call and no other client. -/
theorem retries_in_vain (safec : Safec) (faultTolerantPattern initial : Pattern)
    (as : List Action) (s : State)
    (hrun : run (PatternRpc.step safec faultTolerantPattern) (State.init initial) as = some s)
    (hfirst : (lookups .mfrSetBootloaderPattern s.served).head? ≠ some .loaded) :
    s.dsMgr.shared.storedPattern = initial ∧ s.dsMgr.shared.latest = none ∧
      s.mfrMgr.written .bootloaderPattern = [] := by
  have hs : Unset initial s :=
    run_invariant (Unset initial) (fun _ _ _ hs hstep => hs.step hstep) .init hrun
  refine hs.unset (Bool.eq_false_iff.mpr fun hfunc => hfirst ?_)
  have hfound : Found .mfrSetBootloaderPattern (lookups .mfrSetBootloaderPattern s.served) :=
    (hs.tracks.func_iff _).mp hfunc
  exact hfound

def lateLibrary : List Action :=
  [.beginFaultTolerant, .faultTolerant { taken with load := .noLibrary }, .faultTolerant taken,
    .faultTolerant taken, .faultTolerant taken]

theorem retries_in_vain_lateLibrary : ∃ s,
    run (PatternRpc.step MfrMgr.Settings.zeroSafec .silent) (State.init .normal) lateLibrary =
      some s ∧ s.dsMgr.shared.attempts = 1 ∧ s.dsMgr.shared.storedPattern = .normal :=
  ⟨_, rfl, rfl, (retries_in_vain MfrMgr.Settings.zeroSafec .silent .normal lateLibrary _ rfl
    (by decide)).1⟩

end Retries

end IarmMgrs.DsMgr.PatternRpc
