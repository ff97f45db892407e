import IarmMgrs.DsMgr.Authentication
import IarmMgrs.DsMgr.HotPlugLaws

namespace IarmMgrs.DsMgr.HotPlug

open Lib Lib.Transition

variable {s s' : State} {act : Action} {p p' : State × Standing}

def flagAfter (s : State) : Action → Bool
  | .process (.hdcpStatus .authenticated) => true
  | .process (.hdcpStatus .authenticationFailure) => false
  | .actOn => if s.Disconnects then false else s.bHDCPAuthenticated
  | _ => s.bHDCPAuthenticated

theorem actOnStatus_flag (s : State) (status : DsDisplayEvent) :
    (actOnStatus s status).bHDCPAuthenticated =
      if s.iTuneReady = 1 ∧ status = .disconnected then false else s.bHDCPAuthenticated := by
  simp only [actOnStatus]
  cases status with
  | connected =>
    simp only [reduceCtorEq, and_false, if_false]
    repeat' split
    all_goals rfl
  | disconnected =>
    simp only [reduceCtorEq, and_false, if_false]
    split <;> rfl
  | max =>
    simp only [reduceCtorEq, and_false, if_false]
    rfl

theorem step_flag (h : step s act = some s') : s'.bHDCPAuthenticated = flagAfter s act := by
  obtain ⟨event, rfl, rfl⟩ | ⟨status, rfl, hthread, rfl⟩ | ⟨⟨hprocess, hact⟩, -, hkept⟩ :=
    step_flags h
  · cases event with
    | tuneReady =>
      simp only [processEvent, flagAfter]
      split <;> rfl
    | hdmiHotplug event => rfl
    | hdcpStatus status => cases status <;> rfl
  · have hd : s.Disconnects ↔ s.iTuneReady = 1 ∧ status = .disconnected := by
      simp [State.Disconnects, hthread]
    simp only [actOnStatus_flag, flagAfter, hd]
  · cases act with
    | process event => exact absurd rfl (hprocess event)
    | actOn => exact absurd rfl hact
    | _ => exact hkept

structure Standing.Follows (p : State × Standing) : Prop where
  stands : p.2 = .stands → p.1.bHDCPAuthenticated = true
  overwritten : p.2 = .overwritten → p.1.bHDCPAuthenticated = false

theorem Standing.follows_init (n : Int) (ignoreEdid : Bool) :
    Follows (observeInit n ignoreEdid) where
  stands h := by cases h
  overwritten h := by cases h

theorem Standing.Follows.kept (h : Follows p) (hnote : p'.2 = p.2)
    (hflag : p'.1.bHDCPAuthenticated = p.1.bHDCPAuthenticated) : Follows p' where
  stands hw := hflag.trans (h.stands (hnote ▸ hw))
  overwritten ho := hflag.trans (h.overwritten (hnote ▸ ho))

theorem Standing.Follows.step (h : Follows p) (hstep : observe p act = some p') : Follows p' := by
  obtain ⟨hs, hnote⟩ := observed_some.mp hstep
  have hflag := step_flag hs
  cases act with
  | process event =>
    cases event with
    | hdcpStatus status =>
      cases status with
      | authenticated => exact ⟨fun _ => hflag, fun ho => (nomatch hnote.symm.trans ho)⟩
      | authenticationFailure => exact ⟨fun hw => (nomatch hnote.symm.trans hw), fun _ => hflag⟩
      | other => exact h.kept hnote hflag
    | hdmiHotplug event =>
      by_cases hc : event = .connected
      · exact h.kept (hnote.trans (if_pos hc)) hflag
      · have hnote := hnote.trans (if_neg hc)
        exact ⟨fun hw => (nomatch hnote.symm.trans hw), fun ho => (nomatch hnote.symm.trans ho)⟩
    | tuneReady => exact h.kept hnote hflag
  | actOn =>
    simp only [flagAfter] at hflag
    by_cases hd : p.1.Disconnects
    · rw [if_pos hd] at hflag
      refine ⟨fun hw => ?_, fun _ => hflag⟩
      rw [hnote] at hw
      cases hstanding : p.2 <;> simp [hstanding, note, hd] at hw
    · rw [if_neg hd] at hflag
      refine h.kept (hnote.trans ?_) hflag
      cases p.2 <;> simp [note, hd]
  | _ => exact h.kept hnote hflag

theorem ResnThread.Step.still_blocked {r r' : ResnThread} (h : r.Step act r') (hne : act ≠ .wait)
    (hb : r'.thread = .blocked) : r.thread = .blocked := by
  cases h with
  | idle => exact hb
  | signal | store => exact absurd hb (Waiter.signal_ne_blocked _)
  | wait => exact absurd rfl hne
  | spuriousWakeup | copy | move | actOn => simp at hb

theorem Authenticated.of_blocked (h : Authenticated p) (hb : p.1.resn.thread = .blocked)
    (hstep : observe p act = some p') : Authenticated p' := by
  intro _ hne
  obtain ⟨hs, hnote⟩ := observed_some.mp hstep
  have hflag := step_flag hs
  have hd : ¬ p.1.Disconnects := by
    rintro ⟨-, hrunning⟩
    rw [hb] at hrunning
    cases hrunning
  have kept (hnote : p'.2 = p.2) (hflag : p'.1.bHDCPAuthenticated = p.1.bHDCPAuthenticated) :
      p'.1.bHDCPAuthenticated = true := hflag.trans (h hb (hnote ▸ hne))
  cases act with
  | process event =>
    cases event with
    | hdcpStatus status =>
      cases status with
      | authenticated => exact hflag
      | authenticationFailure => exact absurd hnote hne
      | other => exact kept hnote hflag
    | hdmiHotplug event =>
      by_cases hc : event = .connected
      · exact kept (hnote.trans (if_pos hc)) hflag
      · exact absurd (hnote.trans (if_neg hc)) hne
    | tuneReady => exact kept hnote hflag
  | actOn =>
    refine kept (hnote.trans ?_) (hflag.trans (if_neg hd))
    cases p.2 <;> simp [Standing.note, hd]
  | _ => exact kept hnote hflag

theorem respected_iff (hf : Standing.Follows p) (h : Authenticated p)
    (hstep : observe p act = some p') : Respected p act ↔ Authenticated p' := by
  obtain ⟨hs, hnote⟩ := observed_some.mp hstep
  by_cases hact : act = .wait
  · subst hact
    obtain ⟨-, hs'⟩ := of_guard hs
    have hnote : p'.2 = p.2 := hnote
    have hblocked : p'.1.resn.thread = .blocked := by rw [← hs']
    have hflag : p'.1.bHDCPAuthenticated = p.1.bHDCPAuthenticated := by rw [← hs']
    simp only [Respected, Authenticated, hblocked, hnote, hflag, forall_const]
    cases hstanding : p.2 with
    | revoked => simp
    | stands => simp [hf.stands hstanding]
    | overwritten => simp [hf.overwritten hstanding]
  · have hrespected : Respected p act := by
      cases act with
      | wait => exact absurd rfl hact
      | _ => trivial
    refine iff_of_true hrespected fun hb hne => ?_
    exact h.of_blocked ((step_resn hs).still_blocked hact hb) hstep hb hne

/-- In every state reached an AUTHENTICATED event that has not been revoked shows in the flag
while the thread waits, exactly if the thread never goes to wait with one overwritten. -/
theorem authenticated_kept_iff {n : Int} {ignoreEdid : Bool} {as : List Action}
    (hrun : run observe (observeInit n ignoreEdid) as = some p) :
    Along observe Respected (observeInit n ignoreEdid) as ↔
      ∀ pre q, pre <+: as → run observe (observeInit n ignoreEdid) pre = some q →
        q.1.resn.thread = .blocked → q.2 ≠ .revoked → q.1.bHDCPAuthenticated = true :=
  along_iff Standing.Follows Authenticated (fun _ _ _ hf _ hstep => hf.step hstep)
    (fun _ _ _ hf h hstep => respected_iff hf h hstep)
    (Standing.follows_init n ignoreEdid) (fun hb => by cases hb) hrun

def overwrittenRun : List Action :=
  [.wait, .process (.hdmiHotplug .disconnected), .copy, .removeSource,
    .process (.hdmiHotplug .connected), .process (.hdcpStatus .authenticated), .worker, .worker,
    .worker, .actOn, .schedule false 0, .wait]

theorem authenticated_overwritten :
    ∃ p, run observe (observeInit 1 false) overwrittenRun = some p ∧ p.1.resn.thread = .blocked ∧
      p.1.worker = .idle ∧ p.2 ≠ .revoked ∧ p.1.bHDCPAuthenticated = false :=
  ⟨_, rfl, rfl, rfl, by decide, rfl⟩

theorem authenticated_kept_iff_overwrittenRun :
    ¬ Along observe Respected (observeInit 1 false) overwrittenRun := by
  intro hok
  have hflag := (authenticated_kept_iff rfl).mp hok overwrittenRun _ (List.prefix_refl _) rfl rfl
    (by decide)
  exact absurd hflag (by decide)

end IarmMgrs.DsMgr.HotPlug
