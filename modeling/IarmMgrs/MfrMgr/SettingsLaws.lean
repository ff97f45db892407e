import IarmMgrs.MfrMgr.Settings
import Mathlib.Data.List.Induction

namespace IarmMgrs.MfrMgr.Settings

open Lib Lib.CString Lib.Transition
open DeviceUpdateMgr.EventData (Safec)
open DsMgr.BootPattern (Pattern)
open Flash (IarmResult Load)
open SerializedData (strcpyS)

variable {safec : Safec} {s s' : State} {func : Func} {load : Load} {kind : Kind}

section Parts

variable {β : Type} {refused : β} {body : State → State × β}

theorem withFunc_found (h : s.func func = true ∨ load = .loaded) :
    withFunc func load refused s body =
      body { s with func := Function.update s.func func true } := by
  by_cases hfunc : s.func func = true
  · have hsame : Function.update s.func func true = s.func := by
      rw [← hfunc, Function.update_eq_self]
    rw [withFunc, if_pos hfunc, hsame]
  · rw [withFunc, if_neg hfunc, if_pos (h.resolve_left hfunc)]

theorem withFunc_missing (h : ¬ (s.func func = true ∨ load = .loaded)) :
    withFunc func load refused s body = (s, refused) := by
  obtain ⟨hfunc, hload⟩ := not_or.mp h
  rw [withFunc, if_neg hfunc, if_neg hload]

variable {value : Value kind} {param : Param kind} {onError : IarmResult} {err : Int}
  {given : Given (Value kind)} {fill : Value kind → Param kind}

@[simp] theorem write_func : (write value param onError err s).1.func = s.func := rfl

@[simp] theorem write_lookupComplete :
    (write value param onError err s).1.symbolLookupComplete = s.symbolLookupComplete := rfl

theorem write_success (h : onError ≠ .success) :
    (write value param onError err s).2.1 = .success ↔ err = 0 := by
  rw [write]
  split <;> simp_all

@[simp] theorem write_written :
    (write value param onError err s).1.written kind = s.written kind ++ [(value, err)] :=
  Function.update_self ..

theorem write_frame {k : Kind} (hk : k ≠ kind) :
    (write value param onError err s).1.written k = s.written k :=
  Function.update_of_ne hk ..

@[simp] theorem read_state : (read fill param onError given s).1 = s := by
  rw [read]
  split <;> rfl

theorem read_success (h : onError ≠ .success) :
    (read fill param onError given s).2.1 = .success ↔ given.err = 0 := by
  rw [read]
  split <;> simp_all

end Parts

section Sound

def Stores : (kind : Kind) → Param kind → Value kind → Prop
  | .fsrFlag, p, v => v = if p then 1 else 0
  | .secureTime, p, v => v = p
  | .temperatureThresholds, p, v => v = (p.highTemp, p.criticalTemp)
  | .cpuClockSpeed, p, v => v = p.cpuClockSpeed
  | .configData, p, v => v = p
  | .wifiCredentials, p, v =>
    v.cSSID.str 0 = p.wifiCredentials.cSSID.str 0 ∧
      v.cPassword.str 0 = p.wifiCredentials.cPassword.str 0 ∧
      v.iSecurityMode = p.wifiCredentials.iSecurityMode
  | .bootloaderPattern, p, v => v = p

def Inv (s : State) : Prop := ∀ kind p, s.last kind = some p →
  ∃ v, (s.written kind).getLast? = some (v, 0) ∧ Stores kind p v

def Sound (kind : Kind) (kept : Prop) (r : State × IarmResult × Option (Param kind)) : Prop :=
  Inv r.1 ∧ (kept → r.2.1 = .success →
    ∀ p, r.1.last kind = some p → ∃ q, r.2.2 = some q ∧ SameSetting kind p q)

variable {kept : Prop} {param : Param kind} {onError : IarmResult} {err : Int}
  {body : State → State × IarmResult × Option (Param kind)}

theorem SameSetting.refl (p : Param kind) : SameSetting kind p p := by
  cases kind <;> simp [SameSetting]

theorem Sound.refused (hs : Inv s) {retCode : IarmResult} (hret : retCode ≠ .success)
    (arg : Option (Param kind)) : Sound kind kept (s, retCode, arg) :=
  ⟨hs, fun _ h => absurd h hret⟩

theorem Sound.withFunc (hs : Inv s)
    (hbody : ∀ t, Inv t → t.written = s.written → Sound kind kept (body t))
    (arg : Option (Param kind)) :
    Sound kind kept (withFunc func load (.invalidState, arg) s body) := by
  by_cases hfound : s.func func = true ∨ load = .loaded
  · rw [withFunc_found hfound]
    exact hbody _ hs rfl
  · rw [withFunc_missing hfound]
    exact Sound.refused hs (by decide) arg

theorem write_last {value : Value kind} :
    (write value param onError err s).1.last kind = if err = 0 then some param else none :=
  Function.update_self ..

theorem taken_of_last {value : Value kind} {p : Param kind} (hret : onError ≠ .success)
    (h : (write value param onError err s).2.1 = .success)
    (hp : (write value param onError err s).1.last kind = some p) : err = 0 ∧ param = p := by
  have herr : err = 0 := (write_success hret).mp h
  rw [write_last, if_pos herr] at hp
  exact ⟨herr, Option.some.inj hp⟩

theorem Inv.write (hs : Inv s) {value : Value kind} (hvalue : Stores kind param value)
    (onError : IarmResult) : Inv (write value param onError err s).1 := by
  intro k p hp
  by_cases hk : k = kind
  · subst hk
    obtain ⟨rfl, rfl⟩ := of_guard (write_last.symm.trans hp)
    exact ⟨value, by simp, hvalue⟩
  · rw [write_frame hk]
    exact hs k p ((Function.update_of_ne hk ..).symm.trans hp)

theorem Sound.write (hs : Inv s) {value : Value kind} (hvalue : Stores kind param value)
    (hret : onError ≠ .success) : Sound kind kept (write value param onError err s) := by
  refine ⟨hs.write hvalue onError, fun _ h p hp => ⟨param, rfl, ?_⟩⟩
  exact (taken_of_last hret h hp).2 ▸ .refl param

theorem Sound.read (hs : Inv s) {given : Given (Value kind)} {fill : Value kind → Param kind}
    (hkept : kept → s.GivesBack given)
    (hfill : ∀ p v, Stores kind p v → SameValue kind v given.value →
      SameSetting kind p (fill given.value))
    (hret : onError ≠ .success) : Sound kind kept (read fill param onError given s) := by
  rw [Settings.read]
  split
  case isTrue herr =>
    refine ⟨hs, fun hk _ p hp => ⟨_, rfl, ?_⟩⟩
    obtain ⟨v, hv, hstores⟩ := hs kind p hp
    exact hfill p v hstores (hkept hk herr v hv)
  case isFalse => exact Sound.refused hs hret _

theorem strcpyS_str {n : Nat} {dest copy : Buf UInt8 n} {src : List UInt8} (hsrc : 0 ∉ src)
    (h : strcpyS dest src = some copy) : copy.str 0 = src := by
  obtain ⟨hlen, rfl⟩ := of_guard h
  have hfits : (src ++ [0]).length ≤ n := by
    rw [List.length_append, List.length_singleton]
    exact hlen
  rw [Buf.str, Buf.chars_write hfits, List.append_assoc, List.singleton_append, cstr_append_nul,
    cstr_eq_self 0 hsrc]

theorem GivesBack.of_written (ht : s'.written = s.written) {given : Given (Value kind)}
    (h : s.GivesBack given) : s'.GivesBack given := by
  unfold State.GivesBack
  rw [ht]
  exact h

theorem wifi_sound (hs : Inv s) (stack : WifiData) (param : WifiCredentialsParam)
    (given : Given WifiData) :
    Sound .wifiCredentials ((Call.mfrWifiCredentials stack (some param) given).Kept s)
      (mfrWifiCredentials safec stack (some param) given s) := by
  have hnul : ∀ {n : Nat} (b : Buf UInt8 n), 0 ∉ b.str 0 := fun b => nul_notMem_cstr 0 b.chars
  simp only [mfrWifiCredentials]
  split
  · split
    · exact Sound.refused hs (by decide) _
    · split
      · next hssid hpassword =>
        have hstores : Stores .wifiCredentials param ⟨_, _, param.wifiCredentials.iSecurityMode⟩ :=
          ⟨strcpyS_str (hnul _) hssid, strcpyS_str (hnul _) hpassword, rfl⟩
        refine ⟨hs.write hstores .ipccoreFail, fun _ hsuccess p hp => ⟨_, rfl, ?_⟩⟩
        dsimp only at hsuccess hp
        obtain ⟨-, rfl⟩ := taken_of_last (by decide) hsuccess hp
        exact ⟨rfl, rfl, rfl⟩
      · exact Sound.refused hs (by decide) _
  · next hget =>
    split
    · next herr =>
      split
      · exact Sound.refused hs (by decide) _
      · split
        · exact Sound.refused hs (by decide) _
        · next cSSID hssid _ cPassword hpassword =>
          refine ⟨hs, fun hkept _ p hp => ⟨_, rfl, ?_⟩⟩
          obtain ⟨v, hv, h₁, h₂, h₃⟩ := hs .wifiCredentials p hp
          obtain ⟨k₁, k₂, k₃⟩ := hkept hget herr v hv
          exact ⟨h₁.symm.trans (k₁.trans (strcpyS_str (hnul _) hssid).symm),
            h₂.symm.trans (k₂.trans (strcpyS_str (hnul _) hpassword).symm), h₃.symm.trans k₃⟩
    · exact Sound.refused hs (by decide) _

theorem handle_sound (hs : Inv s) (c : Call kind) : Sound kind (c.Kept s) (handle safec c s) := by
  cases c with
  | setFSRflag load arg err =>
    simp only [handle, setFSRflag]
    refine Sound.withFunc hs (fun t ht _ => ?_) _
    cases arg with
    | none => exact Sound.refused ht (by decide) none
    | some tmp => exact Sound.write ht (by rfl) (by decide)
  | getFSRflag load arg given =>
    simp only [handle, getFSRflag]
    refine Sound.withFunc hs (fun t ht hw => ?_) _
    cases arg with
    | none => exact Sound.refused ht (by decide) none
    | some tmp =>
      dsimp only
      split
      · next hgiven =>
        refine ⟨ht, fun hkept _ p hp => ⟨_, rfl, ?_⟩⟩
        obtain ⟨v, hv, hstores⟩ := ht .fsrFlag p hp
        have hvalue : v = given.value := hkept hgiven.1 v (hw ▸ hv)
        have hstored : v = if p then 1 else 0 := hstores
        cases p <;> simp [SameSetting, ← hvalue, hstored]
      · exact Sound.refused ht (by decide) _
  | setSecureTime load arg given =>
    simp only [handle, setSecureTime]
    refine Sound.withFunc hs (fun t ht _ => ?_) _
    cases arg with
    | none => exact Sound.refused ht (by decide) none
    | some param =>
      refine ⟨ht.write (by rfl) .invalidState, fun hkept hsuccess p hp => ⟨_, rfl, ?_⟩⟩
      dsimp only at hsuccess hp
      obtain ⟨herr, rfl⟩ := taken_of_last (by decide) hsuccess hp
      exact Option.some.inj (hkept herr)
  | getSecureTime load arg given =>
    simp only [handle, getSecureTime]
    refine Sound.withFunc hs (fun t ht hw => ?_) _
    cases arg with
    | none => exact Sound.refused ht (by decide) none
    | some param =>
      exact Sound.read ht (fun h => GivesBack.of_written hw h) (fun _ _ hv hs => hv.symm.trans hs)
        (by decide)
  | setTemperatureThresholds load arg err =>
    simp only [handle, setTemperatureThresholds]
    refine Sound.withFunc hs (fun t ht _ => ?_) _
    cases arg with
    | none => exact Sound.refused ht (by decide) none
    | some param => exact Sound.write ht (by rfl) (by decide)
  | getTemperatureThresholds load arg given =>
    simp only [handle, getTemperatureThresholds]
    refine Sound.withFunc hs (fun t ht hw => ?_) _
    cases arg with
    | none => exact Sound.refused ht (by decide) none
    | some param =>
      refine Sound.read ht (fun h => GivesBack.of_written hw h) (fun p v hv hs => ?_) (by decide)
      have hvalue : (p.highTemp, p.criticalTemp) = given.value := hv.symm.trans hs
      exact ⟨congrArg Prod.fst hvalue, congrArg Prod.snd hvalue⟩
  | setCPUClockSpeed load arg err =>
    simp only [handle, setCPUClockSpeed]
    refine Sound.withFunc hs (fun t ht _ => ?_) _
    cases arg with
    | none => exact Sound.refused ht (by decide) none
    | some param => exact Sound.write ht (by rfl) (by decide)
  | getCPUClockSpeed load arg given =>
    simp only [handle, getCPUClockSpeed]
    refine Sound.withFunc hs (fun t ht hw => ?_) _
    cases arg with
    | none => exact Sound.refused ht (by decide) none
    | some param =>
      exact Sound.read ht (fun h => GivesBack.of_written hw h) (fun _ _ hv hs => hv.symm.trans hs)
        (by decide)
  | setConfigData load arg err =>
    simp only [handle, setConfigData]
    exact Sound.withFunc hs (fun t ht _ => Sound.write ht (by rfl) (by decide)) _
  | getConfigData load arg given =>
    simp only [handle, getConfigData]
    refine Sound.withFunc hs (fun t ht hw => ?_) _
    exact Sound.read ht (fun h => GivesBack.of_written hw h) (fun _ _ hv hs => hv.symm.trans hs)
      (by decide)
  | mfrWifiCredentials stack arg given =>
    cases arg with
    | none => exact Sound.refused hs (by decide) none
    | some param => exact wifi_sound hs stack param given
  | setBootloaderPattern load arg err =>
    simp only [handle, setBootloaderPattern]
    split
    · exact Sound.write hs (by rfl) (by decide)
    · split
      · exact Sound.refused hs (by decide) _
      · exact Sound.withFunc (s := { s with symbolLookupComplete := true }) hs
          (fun t ht _ => Sound.write ht (by rfl) (by decide)) _

theorem inv_run {cs : List ((kind : Kind) × Call kind)}
    (hrun : run (step safec) State.init cs = some s) : Inv s := by
  refine run_invariant Inv (fun s c s' hs hstep => ?_) (fun _ _ h => by cases h) hrun
  obtain rfl := Option.some.inj hstep
  exact (handle_sound hs c.2).1

/-- In every run, a call that is answered with success leaves in its argument the setting that has
been set last, whatever other settings are written and read in between, if the library gives
back what it took. -/
theorem settings_agree (cs : List ((kind : Kind) × Call kind)) (s : State)
    (hrun : run (step safec) State.init cs = some s) (kind : Kind) (c : Call kind)
    (hkept : c.Kept s) (hsuccess : (handle safec c s).2.1 = .success) (p : Param kind)
    (hlast : (handle safec c s).1.last kind = some p) :
    ∃ q, (handle safec c s).2.2 = some q ∧ SameSetting kind p q :=
  (handle_sound (inv_run hrun) c).2 hkept hsuccess p hlast

def zeroSafec : Safec := ⟨fun _ => Buf.zeroed 0 _⟩

def flagCalls : List ((kind : Kind) × Call kind) :=
  [⟨_, .setFSRflag .noLibrary (some true) 0⟩, ⟨_, .setFSRflag .loaded (some true) 0⟩,
    ⟨_, .setCPUClockSpeed .loaded (some ⟨0, 0, 0, 5⟩) 1⟩]

theorem settings_agree_flagCalls : ∃ s,
    run (step zeroSafec) State.init flagCalls = some s ∧
      ∃ q, (handle zeroSafec (.getFSRflag .loaded (some false) ⟨0, 1⟩) s).2.2 = some q ∧
        SameSetting .fsrFlag true q := by
  refine ⟨_, rfl, settings_agree flagCalls _ rfl .fsrFlag
    (.getFSRflag .loaded (some false) ⟨0, 1⟩) ?_ (by decide) true (by decide)⟩
  intro _ value hvalue
  exact (congrArg Prod.fst (Option.some.inj hvalue)).symm

end Sound

section Lookups

theorem finds_iff (h : func ≠ .mfrSetBootloaderPattern) :
    Finds s func load ↔ s.func func = true ∨ load = .loaded := by
  simp [Finds, h]

structure Serves (kind : Kind) (s : State) (func : Func) (load : Load) (accepts : Prop)
    (r : State × IarmResult × Option (Param kind)) : Prop where
  func_iff : ∀ g, r.1.func g = true ↔ (g = func ∧ Finds s func load) ∨ (g ≠ func ∧ s.func g = true)
  complete_iff : r.1.symbolLookupComplete = true ↔ s.symbolLookupComplete = true ∨
    func = .mfrSetBootloaderPattern ∧ s.func func = false
  success_iff : r.2.1 = .success ↔ Finds s func load ∧ accepts
  frame : ∀ k, k ≠ kind → r.1.written k = s.written k

variable {accepts : Prop} {body : State → State × IarmResult × Option (Param kind)}
  {arg : Option (Param kind)}

theorem Serves.withFunc (hfunc : func ≠ .mfrSetBootloaderPattern)
    (hbody : ∀ t : State, (body t).1.func = t.func ∧
      (body t).1.symbolLookupComplete = t.symbolLookupComplete ∧
      ((body t).2.1 = .success ↔ accepts) ∧ ∀ k, k ≠ kind → (body t).1.written k = t.written k) :
    Serves kind s func load accepts (withFunc func load (.invalidState, arg) s body) := by
  by_cases hfound : s.func func = true ∨ load = .loaded
  · rw [withFunc_found hfound]
    obtain ⟨h₁, h₂, h₃, h₄⟩ := hbody { s with func := Function.update s.func func true }
    refine ⟨fun g => ?_, ?_, ?_, h₄⟩
    · rw [h₁, finds_iff hfunc]
      by_cases hg : g = func
      · simp [hg, hfound]
      · simp [hg]
    · rw [h₂]
      simp [hfunc]
    · rw [h₃, finds_iff hfunc, and_iff_right hfound]
  · rw [withFunc_missing hfound]
    refine ⟨fun g => ?_, by simp [hfunc], by simp [finds_iff hfunc, hfound], fun _ _ => rfl⟩
    rw [finds_iff hfunc]
    by_cases hg : g = func
    · subst hg
      simp [(not_or.mp hfound).1, (not_or.mp hfound).2]
    · simp [hg]

theorem setBootloaderPattern_serves (load : Load) (arg : Pattern) (err : Int) :
    Serves .bootloaderPattern s .mfrSetBootloaderPattern load (err = 0)
      (setBootloaderPattern load arg err s) := by
  unfold setBootloaderPattern
  cases hfunc : s.func .mfrSetBootloaderPattern with
  | true =>
    refine ⟨fun g => ?_, ?_, ?_, fun k hk => write_frame hk⟩
    · by_cases hg : g = .mfrSetBootloaderPattern <;> simp [hg, Finds, hfunc]
    · simp [hfunc]
    · simp [write_success, Finds, hfunc]
  | false =>
    cases hcomplete : s.symbolLookupComplete with
    | true =>
      refine ⟨fun g => ?_, ?_, ?_, fun _ _ => rfl⟩
      · by_cases hg : g = .mfrSetBootloaderPattern <;> simp [hg, Finds, hfunc, hcomplete]
      · simp [hcomplete]
      · simp [Finds, hfunc, hcomplete]
    | false =>
      by_cases hload : load = .loaded
      · simp only [Bool.false_eq_true, if_false, withFunc_found (.inr hload)]
        refine ⟨fun g => ?_, ?_, ?_, fun k hk => write_frame hk⟩
        · by_cases hg : g = .mfrSetBootloaderPattern <;> simp [hg, Finds, hload, hcomplete]
        · simp [hfunc]
        · simp [write_success, Finds, hload, hcomplete]
      · simp only [Bool.false_eq_true, if_false]
        rw [withFunc_missing (by simp [hfunc, hload])]
        refine ⟨fun g => ?_, ?_, ?_, fun _ _ => rfl⟩
        · by_cases hg : g = .mfrSetBootloaderPattern <;> simp [hg, Finds, hfunc, hload]
        · simp [hfunc]
        · simp [Finds, hfunc, hload]

theorem handle_serves (c : Call kind) (h : c.lookup = some (func, load)) :
    Serves kind s func load c.Accepts (handle safec c s) := by
  cases c with
  | setFSRflag load arg err =>
    cases h
    simp only [handle, setFSRflag]
    refine Serves.withFunc (by decide) fun t => ?_
    cases arg <;> simp +contextual [write_success, write_frame, Call.Accepts]
  | getFSRflag load arg given =>
    cases h
    simp only [handle, getFSRflag]
    refine Serves.withFunc (by decide) fun t => ?_
    cases arg with
    | none => simp [Call.Accepts]
    | some tmp =>
      dsimp only
      split <;> simp_all [Call.Accepts]
  | setSecureTime load arg given =>
    cases h
    simp only [handle, setSecureTime]
    refine Serves.withFunc (by decide) fun t => ?_
    cases arg <;> simp +contextual [write_success, write_frame, Call.Accepts]
  | getSecureTime load arg given =>
    cases h
    simp only [handle, getSecureTime]
    refine Serves.withFunc (by decide) fun t => ?_
    cases arg <;> simp [read_success, Call.Accepts]
  | setTemperatureThresholds load arg err =>
    cases h
    simp only [handle, setTemperatureThresholds]
    refine Serves.withFunc (by decide) fun t => ?_
    cases arg <;> simp +contextual [write_success, write_frame, Call.Accepts]
  | getTemperatureThresholds load arg given =>
    cases h
    simp only [handle, getTemperatureThresholds]
    refine Serves.withFunc (by decide) fun t => ?_
    cases arg <;> simp [read_success, Call.Accepts]
  | setCPUClockSpeed load arg err =>
    cases h
    simp only [handle, setCPUClockSpeed]
    refine Serves.withFunc (by decide) fun t => ?_
    cases arg <;> simp +contextual [write_success, write_frame, Call.Accepts]
  | getCPUClockSpeed load arg given =>
    cases h
    simp only [handle, getCPUClockSpeed]
    refine Serves.withFunc (by decide) fun t => ?_
    cases arg <;> simp [read_success, Call.Accepts]
  | setConfigData load arg err =>
    cases h
    simp only [handle, setConfigData]
    refine Serves.withFunc (by decide) fun t => ?_
    simp +contextual [write_success, write_frame, Call.Accepts]
  | getConfigData load arg given =>
    cases h
    simp only [handle, getConfigData]
    refine Serves.withFunc (by decide) fun t => ?_
    simp [read_success, Call.Accepts]
  | mfrWifiCredentials stack arg given => cases h
  | setBootloaderPattern load arg err =>
    cases h
    exact setBootloaderPattern_serves load arg err

theorem strcpyS_str_isSome {m n : Nat} (dest : Buf UInt8 n) (b : Buf UInt8 m) (h : m = n) :
    (strcpyS dest (b.str 0)).isSome = decide (b.Terminated 0) := by
  subst h
  rw [strcpyS]
  by_cases hterm : b.Terminated 0
  · simp [hterm, Buf.str_length_lt 0 hterm]
  · have hself : b.str 0 = b.chars := cstr_eq_self 0 hterm
    simp [hterm, hself, b.size]

theorem wifi_serves (stack : WifiData) (arg : Option WifiCredentialsParam)
    (given : Given WifiData) :
    (mfrWifiCredentials safec stack arg given s).1.func = s.func ∧
      (mfrWifiCredentials safec stack arg given s).1.symbolLookupComplete =
        s.symbolLookupComplete ∧
      ((mfrWifiCredentials safec stack arg given s).2.1 = .success ↔
        (Call.mfrWifiCredentials stack arg given).Accepts) ∧
      ∀ k, k ≠ .wifiCredentials →
        (mfrWifiCredentials safec stack arg given s).1.written k = s.written k := by
  cases arg with
  | none => simp [mfrWifiCredentials, Call.Accepts]
  | some param =>
    simp only [mfrWifiCredentials]
    by_cases hset : param.requestType = .setCredentials
    · have hssid := strcpyS_str_isSome stack.cSSID param.wifiCredentials.cSSID rfl
      have hpassword := strcpyS_str_isSome stack.cPassword param.wifiCredentials.cPassword rfl
      by_cases hterm : param.wifiCredentials.cSSID.Terminated 0 ∧
          param.wifiCredentials.cPassword.Terminated 0
      · obtain ⟨cSSID, hssid⟩ := Option.isSome_iff_exists.mp (hssid.trans (decide_eq_true hterm.1))
        obtain ⟨cPassword, hpassword⟩ :=
          Option.isSome_iff_exists.mp (hpassword.trans (decide_eq_true hterm.2))
        simp +contextual [hset, hterm, hssid, hpassword, write_success, write_frame, Call.Accepts]
      · have hrefused := not_and_or.mp hterm
        simp [hset, hterm, hrefused, Call.Accepts]
    · have hssid := strcpyS_str_isSome param.wifiCredentials.cSSID given.value.cSSID rfl
      have hpassword :=
        strcpyS_str_isSome param.wifiCredentials.cPassword given.value.cPassword rfl
      by_cases herr : given.err = 0
      · cases hcopy₁ : strcpyS param.wifiCredentials.cSSID (given.value.cSSID.str 0) with
        | none =>
          have hterm : ¬ given.value.cSSID.Terminated 0 := by simpa [hcopy₁] using hssid
          simp [hset, herr, hterm, Call.Accepts]
        | some cSSID =>
          have hterm : given.value.cSSID.Terminated 0 := by simpa [hcopy₁] using hssid
          cases hcopy₂ : strcpyS param.wifiCredentials.cPassword (given.value.cPassword.str 0) with
          | none =>
            have hterm₂ : ¬ given.value.cPassword.Terminated 0 := by
              simpa [hcopy₂] using hpassword
            simp [hset, herr, hterm₂, Call.Accepts]
          | some cPassword =>
            have hterm₂ : given.value.cPassword.Terminated 0 := by simpa [hcopy₂] using hpassword
            simp [hset, herr, hterm, hterm₂, Call.Accepts]
      · simp [hset, herr, Call.Accepts]

theorem handle_frame {k : Kind} (hk : k ≠ kind) (c : Call kind) :
    (handle safec c s).1.written k = s.written k := by
  cases hlook : c.lookup with
  | none =>
    cases c with
    | mfrWifiCredentials stack arg given => exact (wifi_serves stack arg given).2.2.2 k hk
    | _ => cases hlook
  | some l => exact (handle_serves c hlook).frame k hk

theorem setBootloaderPattern_found (h : Finds s .mfrSetBootloaderPattern load) (arg : Pattern)
    (err : Int) : (setBootloaderPattern load arg err s).1.written .bootloaderPattern =
      s.written .bootloaderPattern ++ [(arg, err)] := by
  unfold setBootloaderPattern
  split
  · exact write_written
  · next hfunc =>
    obtain ⟨hload, hcomplete⟩ := h.resolve_left hfunc
    rw [hcomplete rfl, if_neg Bool.false_ne_true, withFunc_found (.inr hload)]
    exact write_written

theorem setBootloaderPattern_missing (h : ¬ Finds s .mfrSetBootloaderPattern load) (arg : Pattern)
    (err : Int) : (setBootloaderPattern load arg err s).1.written = s.written := by
  obtain ⟨hfunc, hload⟩ := not_or.mp h
  unfold setBootloaderPattern
  rw [if_neg hfunc]
  split
  · rfl
  · next hcomplete =>
    have hmissing : load ≠ .loaded := fun hl => hload ⟨hl, fun _ => Bool.eq_false_iff.mpr hcomplete⟩
    rw [withFunc_missing (by simp [hfunc, hmissing])]

/-- As long as the entry point for the pattern is not found, the library is given no pattern. -/
theorem handle_unfound (c : Call kind)
    (h : (handle safec c s).1.func .mfrSetBootloaderPattern = false) :
    s.func .mfrSetBootloaderPattern = false ∧
      (handle safec c s).1.written .bootloaderPattern = s.written .bootloaderPattern := by
  by_cases hk : Kind.bootloaderPattern = kind
  · subst hk
    cases c with
    | setBootloaderPattern load arg err =>
      have hmissing : ¬ Finds s .mfrSetBootloaderPattern load := by
        intro hfinds
        rw [← Bool.not_eq_true,
          (handle_serves (.setBootloaderPattern load arg err) rfl).func_iff]
          at h
        exact h (.inl ⟨rfl, hfinds⟩)
      exact ⟨Bool.eq_false_iff.mpr fun hfunc => hmissing (.inl hfunc),
        congrFun (setBootloaderPattern_missing hmissing arg err) _⟩
  · refine ⟨?_, handle_frame hk c⟩
    cases hlook : c.lookup with
    | none =>
      cases c with
      | mfrWifiCredentials stack arg given =>
        exact (congrFun (wifi_serves stack arg given).1 _).symm.trans h
      | _ => cases hlook
    | some l =>
      obtain ⟨func, load⟩ := l
      have hother : Func.mfrSetBootloaderPattern ≠ func := by
        rintro rfl
        cases c <;> simp [Call.lookup] at hlook hk
      rw [← Bool.not_eq_true, (handle_serves c hlook).func_iff] at h
      exact Bool.eq_false_iff.mpr fun hfunc => h (.inr ⟨hother, hfunc⟩)

theorem taken_of_written {t : State} {k : Kind} {value : Value k} {err : Int}
    (h : t.written k = s.written k ++ [(value, err)]) :
    t.taken k = if err = 0 then some value else s.taken k := by
  unfold State.taken
  rw [h, List.filter_append]
  by_cases herr : err = 0 <;> simp [herr]

theorem lookups_snoc (f : Func) (cs : List ((kind : Kind) × Call kind)) (c : Call kind) :
    lookups f (cs ++ [⟨kind, c⟩]) = lookups f cs ++
      (c.lookup.toList.filterMap fun l => if l.1 = f then some l.2 else none) := by
  unfold lookups
  cases hlook : c.lookup <;> simp [hlook]

theorem found_snoc (f : Func) (loads : List Load) (load : Load) : Found f (loads ++ [load]) ↔
    Found f loads ∨ load = .loaded ∧ (f = .mfrSetBootloaderPattern → loads = []) := by
  by_cases hf : f = .mfrSetBootloaderPattern
  · cases loads <;> simp [Found, hf]
  · simp [Found, hf, eq_comm]

structure Tracks (s : State) (cs : List ((kind : Kind) × Call kind)) : Prop where
  func_iff : ∀ f, s.func f = true ↔ Found f (lookups f cs)
  complete_iff : s.symbolLookupComplete = true ↔ lookups .mfrSetBootloaderPattern cs ≠ []

variable {cs : List ((kind : Kind) × Call kind)}

theorem Tracks.finds_iff (hs : Tracks s cs) :
    Finds s func load ↔ Found func (lookups func cs ++ [load]) := by
  rw [found_snoc, Finds, hs.func_iff]
  refine or_congr Iff.rfl (and_congr_right fun _ => forall_congr' fun hfunc => ?_)
  subst hfunc
  rw [← Bool.not_eq_true, hs.complete_iff, not_not]

theorem Tracks.handle (hs : Tracks s cs) (c : Call kind) :
    Tracks (handle safec c s).1 (cs ++ [⟨kind, c⟩]) := by
  cases hlook : c.lookup with
  | none =>
    have hsame : ∀ f, lookups f (cs ++ [⟨kind, c⟩]) = lookups f cs := by
      simp [lookups_snoc, hlook]
    cases c with
    | mfrWifiCredentials stack arg given =>
      obtain ⟨hfunc, hcomplete, -⟩ := wifi_serves stack arg given
      refine ⟨fun f => ?_, ?_⟩
      · rw [hsame, ← hs.func_iff]
        exact iff_of_eq (congrArg (· f = true) hfunc)
      · rw [hsame, ← hs.complete_iff]
        exact iff_of_eq (congrArg (· = true) hcomplete)
    | _ => cases hlook
  | some l =>
    obtain ⟨func, load⟩ := l
    obtain ⟨hfunc, hcomplete, -⟩ := handle_serves c hlook
    have hown : lookups func (cs ++ [⟨kind, c⟩]) = lookups func cs ++ [load] := by
      simp [lookups_snoc, hlook]
    have hother : ∀ f, f ≠ func → lookups f (cs ++ [⟨kind, c⟩]) = lookups f cs := by
      intro f hf
      simp [lookups_snoc, hlook, Ne.symm hf]
    refine ⟨fun f => ?_, ?_⟩
    · rw [hfunc]
      by_cases hf : f = func
      · subst hf
        simp [hown, hs.finds_iff]
      · simp [hf, hother f hf, hs.func_iff]
    · rw [hcomplete]
      by_cases hf : Func.mfrSetBootloaderPattern = func
      · subst hf
        rw [hown]
        refine iff_of_true ?_ (by simp)
        by_cases hfound : s.func .mfrSetBootloaderPattern = true
        · have hhead : (lookups .mfrSetBootloaderPattern cs).head? = some .loaded :=
            (hs.func_iff _).mp hfound
          exact .inl (hs.complete_iff.mpr fun hnil => by simp [hnil] at hhead)
        · exact .inr ⟨rfl, Bool.eq_false_iff.mpr hfound⟩
      · simp [hother _ hf, hs.complete_iff, Ne.symm hf]

theorem tracks_init : Tracks State.init [] := by
  refine ⟨fun f => ?_, ?_⟩
  · simp [State.init, Found, lookups]
  · simp [State.init, lookups]

theorem tracks_run (hrun : run (step safec) State.init cs = some s) : Tracks s cs := by
  induction cs using List.reverseRecOn generalizing s with
  | nil =>
    obtain rfl := Option.some.inj hrun
    exact tracks_init
  | append_singleton cs c ih =>
    obtain ⟨t, ht, hstep⟩ := run_append.mp hrun
    obtain ⟨_, hstep, hnil⟩ := run_cons.mp hstep
    obtain rfl := Option.some.inj hnil
    obtain rfl := Option.some.inj hstep
    exact (ih ht).handle c.2

/-- In every run, a call is answered with success exactly when the vendor's library accepts it and
its entry point has been found: at this call or at any before, for the boot-loader pattern at the
first call only. -/
theorem success_iff_found (cs : List ((kind : Kind) × Call kind)) (s : State)
    (hrun : run (step safec) State.init cs = some s) (kind : Kind) (c : Call kind) :
    (handle safec c s).2.1 = .success ↔
      (∀ func load, c.lookup = some (func, load) →
        Found func (lookups func (cs ++ [⟨kind, c⟩]))) ∧ c.Accepts := by
  have hs := tracks_run hrun
  cases hlook : c.lookup with
  | none =>
    cases c with
    | mfrWifiCredentials stack arg given =>
      exact (wifi_serves stack arg given).2.2.1.trans (and_iff_right fun _ _ h => nomatch h).symm
    | _ => cases hlook
  | some l =>
    obtain ⟨func, load⟩ := l
    rw [(handle_serves c hlook).success_iff, hs.finds_iff]
    simp [lookups_snoc, hlook]

def patternCalls : List ((kind : Kind) × Call kind) :=
  [⟨_, .setBootloaderPattern .noLibrary .silent 0⟩]

theorem success_iff_found_patternCalls : ∃ s,
    run (step zeroSafec) State.init patternCalls = some s ∧
      (handle zeroSafec (.setBootloaderPattern .loaded .silent 0) s).2.1 ≠ .success := by
  refine ⟨_, rfl, fun h => ?_⟩
  have hfound := ((success_iff_found patternCalls _ rfl _ _).mp h).1 _ _ rfl
  exact absurd hfound (by simp [Found, lookups, patternCalls, Call.lookup])

end Lookups

end IarmMgrs.MfrMgr.Settings
