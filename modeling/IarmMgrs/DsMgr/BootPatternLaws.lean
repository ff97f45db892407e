import IarmMgrs.DsMgr.BootPattern

namespace IarmMgrs.DsMgr.BootPattern

open Lib Lib.Transition

variable {s s' : Controller} {pattern : Pattern} {p p' : State}

def FaultTolerant.Retrying : FaultTolerant → Prop
  | .sleeping _ | .attempting _ => True
  | _ => False

def FaultTolerant.left : FaultTolerant → Nat
  | .sleeping remainingRetries | .attempting remainingRetries => remainingRetries
  | .notCalled | .calling | .failed => retryLimit
  | .finished => 0

attribute [simp] FaultTolerant.left FaultTolerant.Retrying FaultTolerant.holdsMutex

/-- While the retry thread runs, a later call keeps the flag set from before its RPC on, so
that an attempt finds nothing overruled.  `overruling` says that such a call is under way. -/
structure Controller.Inv (s : Controller) (overruling : Prop) : Prop where
  invalidated : s.faultTolerant.Retrying → s.overruled = true ∨ overruling →
    s.invalidateAsyncBootloaderPattern = true
  attempting : s.faultTolerant.holdsMutex = true → s.invalidateAsyncBootloaderPattern = false
  agreed : s.overruled = true → s.latest = some s.storedPattern
  inTime : s.setOverruled = false
  attempts : s.attempts + s.faultTolerant.left ≤ retryLimit
  pending : s.faultTolerant.Retrying → 0 < s.faultTolerant.left

def Inv (p : State) : Prop := p.shared.Inv (p.Any Call.Overruling)

theorem Inv.init (storedPattern : Pattern) : Inv (State.init storedPattern) where
  invalidated h := h.elim
  attempting h := by cases h
  agreed h := by cases h
  inTime := rfl
  attempts := Nat.le_refl _
  pending h := h.elim

namespace Controller.Inv

variable {overruling : Prop}

theorem move (h : s.Inv overruling) {ft : FaultTolerant} {attempts : Nat}
    (hret : ft.Retrying → s.faultTolerant.Retrying)
    (hmutex : ft.holdsMutex = true → s.invalidateAsyncBootloaderPattern = false)
    (hleft : attempts + ft.left ≤ s.attempts + s.faultTolerant.left)
    (hpending : ft.Retrying → 0 < ft.left) :
    Controller.Inv { s with faultTolerant := ft, attempts := attempts } overruling where
  invalidated hr := h.invalidated (hret hr)
  attempting := hmutex
  agreed := h.agreed
  inTime := h.inTime
  attempts := Nat.le_trans hleft h.attempts
  pending := hpending

theorem succeed (h : s.Inv overruling) (hfree : s.overruled = false) (pattern : Pattern)
    {attempts : Nat} (hattempts : attempts ≤ s.attempts + s.faultTolerant.left) :
    Controller.Inv { s with
      storedPattern := pattern
      setOverruled := s.setOverruled || s.overruled
      faultTolerant := .finished
      attempts := attempts } overruling where
  invalidated hr := hr.elim
  attempting hm := by cases hm
  agreed ho := by simp [hfree] at ho
  inTime := by simp [h.inTime, hfree]
  attempts := Nat.le_trans hattempts h.attempts
  pending hr := hr.elim

theorem clear (h : s.Inv overruling) (hft : s.faultTolerant = .failed)
    (hfree : s.overruled = false) (hnone : ¬ overruling) :
    Controller.Inv { s with
      invalidateAsyncBootloaderPattern := false
      faultTolerant := .sleeping retryLimit } overruling where
  invalidated _ ho := (ho.elim (by simp [hfree]) hnone).elim
  attempting hm := by cases hm
  agreed := h.agreed
  inTime := h.inTime
  attempts := by simpa [hft] using h.attempts
  pending _ := by simp [retryLimit]

theorem moveFaultTolerant {success : Bool} (h : s.Inv overruling)
    (hcall : s.faultTolerant = .calling → success = true → s.overruled = false)
    (hclear : s.faultTolerant = .failed → s.overruled = false ∧ ¬ overruling)
    (hm : moveFaultTolerant true pattern success s = some s') : s'.Inv overruling := by
  cases hft : s.faultTolerant with
  | notCalled => simp [BootPattern.moveFaultTolerant, hft] at hm
  | finished => simp [BootPattern.moveFaultTolerant, hft] at hm
  | calling =>
    simp only [BootPattern.moveFaultTolerant, hft, faultTolerantRpc, setBootloaderPatternRpc,
      if_true] at hm
    cases success with
    | false =>
      obtain rfl := Option.some.inj hm
      exact h.move (by simp) (by simp) (by simp [hft]) (by simp)
    | true =>
      obtain rfl := Option.some.inj hm
      exact h.succeed (hcall hft rfl) pattern (Nat.le_add_right _ _)
  | failed =>
    obtain ⟨hfree, hnone⟩ := hclear hft
    simp only [BootPattern.moveFaultTolerant, hft, Option.some.injEq] at hm
    subst hm
    exact h.clear hft hfree hnone
  | sleeping remainingRetries =>
    simp only [BootPattern.moveFaultTolerant, hft] at hm
    split at hm
    case isTrue =>
      obtain rfl := Option.some.inj hm
      exact h.move (by simp) (by simp) (by simp) (by simp)
    case isFalse hflag =>
      obtain rfl := Option.some.inj hm
      exact h.move (by simp [hft]) (by simpa using hflag) (by simp [hft])
        (by simpa [hft] using h.pending)
  | attempting remainingRetries =>
    have hflag := h.attempting (by simp [hft])
    have hfree : s.overruled = false := by
      refine Bool.eq_false_iff.mpr fun ho => ?_
      rw [h.invalidated (by simp [hft]) (.inl ho)] at hflag
      cases hflag
    have hleft : 0 < remainingRetries := by simpa [hft] using h.pending
    simp only [BootPattern.moveFaultTolerant, hft, faultTolerantRpc, setBootloaderPatternRpc,
      if_true] at hm
    cases success with
    | false =>
      split at hm
      case isTrue hmore =>
        obtain rfl := Option.some.inj hm
        exact h.move (by simp [hft]) (by simp) (by simp [hft]; omega) fun _ => hmore.2
      case isFalse =>
        obtain rfl := Option.some.inj hm
        exact h.move (by simp) (by simp) (by simp [hft]; omega) (by simp)
    | true =>
      obtain rfl := Option.some.inj hm
      exact h.succeed hfree pattern (by simp [hft]; omega)

theorem of_imp (h : s.Inv overruling) {overruling' : Prop} (himp : overruling' → overruling) :
    s.Inv overruling' where
  invalidated hr ho := h.invalidated hr (ho.imp_right himp)
  attempting := h.attempting
  agreed := h.agreed
  inTime := h.inTime
  attempts := h.attempts
  pending := h.pending

theorem invalidate (h : s.Inv overruling) (hfree : s.faultTolerant.holdsMutex = false)
    (overruling' : Prop) :
    Controller.Inv { s with invalidateAsyncBootloaderPattern := true } overruling' where
  invalidated _ _ := rfl
  attempting hm := absurd (hfree.symm.trans hm) Bool.false_ne_true
  agreed := h.agreed
  inTime := h.inTime
  attempts := h.attempts
  pending := h.pending

theorem setPattern (h : s.Inv overruling) {after : Bool} (hafter : after = true → overruling)
    (pattern : Pattern) :
    Controller.Inv { s with
      storedPattern := pattern
      overruled := s.overruled || after
      latest := some pattern } overruling where
  invalidated hr ho := by
    refine h.invalidated hr (ho.elim (fun ho => ?_) .inr)
    exact (Bool.or_eq_true_iff.mp ho).imp_right hafter
  attempting := h.attempting
  agreed _ := rfl
  inTime := h.inTime
  attempts := h.attempts
  pending := h.pending

end Controller.Inv

theorem Inv.call (h : Inv p) {act : Pool.Action Pattern Bool}
    (hs : Pool.step enterCall (moveCall true) p act = some p') : Inv p' := by
  cases act with
  | start t entry =>
    obtain ⟨-, rfl⟩ := Pool.step_start hs
    refine Controller.Inv.of_imp h fun hany => hany.of_update fun pc hpc => ?_
    obtain rfl := Option.some.inj hpc
    exact not_false
  | advance t success =>
    obtain ⟨call, s', next, ht, hm, rfl⟩ := Pool.step_advance hs
    cases call with
    | invalidate pattern after =>
      simp only [moveCall, Option.ite_none_left_eq_some, Option.some.injEq, Prod.mk.injEq] at hm
      obtain ⟨hfree, rfl, rfl⟩ := hm
      exact Controller.Inv.invalidate h (by simpa using hfree) _
    | callRpc pattern after =>
      have hafter : after = true → p.Any Call.Overruling := fun ha => ⟨t, _, ht, ha⟩
      have hnext : next = none ∧ s'.Inv (p.Any Call.Overruling) := by
        cases success with
        | false =>
          obtain ⟨rfl, rfl⟩ := Prod.mk.inj (Option.some.inj hm)
          exact ⟨rfl, h⟩
        | true =>
          obtain ⟨rfl, rfl⟩ := Prod.mk.inj (Option.some.inj hm)
          exact ⟨rfl, Controller.Inv.setPattern h hafter pattern⟩
      obtain ⟨rfl, hs'⟩ := hnext
      exact hs'.of_imp fun hany => hany.of_update fun pc hpc => by cases hpc

theorem Inv.step (h : Inv p) {a : Action} (hok : NotOvertaken p a)
    (hs : step true pattern p a = some p') : Inv p' := by
  cases a with
  | beginFaultTolerant =>
    obtain ⟨hn, rfl⟩ := of_guard hs
    exact Controller.Inv.move h (by simp) (by simp) (by simp [hn]) (by simp)
  | faultTolerant success =>
    obtain ⟨s', hm, rfl⟩ := Option.map_eq_some_iff.mp hs
    exact Controller.Inv.moveFaultTolerant h hok.1 hok.2 hm
  | call act => exact h.call hs

end IarmMgrs.DsMgr.BootPattern
