import IarmMgrs.SysMgr.HdcpProfile

namespace IarmMgrs.SysMgr.HdcpProfile

open Lib.Transition Bus

variable {s : State} {p p' : State × History} {call : Call} {newProfile : Int}
  {file : FileOutcome}

theorem setHDCPProfile_unchanged (h : ¬ Changes newProfile file.lstat s) :
    setHDCPProfile newProfile file s = (s, .invalidState) := if_neg h

def updated (newProfile : Int) (ok present : Bool) : Bool :=
  if ok then newProfile ≠ 0 else present

theorem setHDCPProfile_changed (h : Changes newProfile file.lstat s) :
    setHDCPProfile newProfile file s =
      (broadcast newProfile { s with present := updated newProfile file.update s.present },
        .success) := by
  rw [setHDCPProfile, if_pos h]
  obtain ⟨lstat, update⟩ := file
  by_cases hzero : newProfile = 0 <;> cases update <;>
    simp [hzero, updated, unlink, openCreate]

theorem updated_profile (h : Changes newProfile file.lstat s) :
    newProfile = (⟨updated newProfile file.update s.present, s.broadcasts⟩ : State).profile ↔
      file.update = true ∨ newProfile = 1 ∧ s.present = true := by
  obtain ⟨present, broadcasts⟩ := s
  obtain ⟨lstat, update⟩ := file
  obtain ⟨hne, rfl | rfl⟩ := h
  · have hpresent : present = true := by
      cases present with
      | true => rfl
      | false => exact absurd rfl hne
    cases update <;> simp [updated, State.profile, hpresent]
  · cases update <;> cases present <;> simp [updated, State.profile]

def JustSet (p : State × History) : Prop :=
  ∀ profile, p.2.set = some profile → (profile, p.1.profile) ∈ p.1.broadcasts

theorem justSet_step (hstep : observe p call = some p') : JustSet p' := by
  obtain ⟨hs, hh⟩ := observed_some.mp hstep
  intro profile hset
  cases call with
  | getHDCPProfile lstat => simp [hh, History.note] at hset
  | setHDCPProfile newProfile file =>
    by_cases hchanges : Changes newProfile file.lstat p.1
    · obtain rfl : newProfile = profile := by
        simpa [hh, History.note, setHDCPProfile_changed hchanges] using hset
      rw [← Option.some.inj hs, setHDCPProfile_changed hchanges]
      exact List.mem_cons_self
    · simp [hh, History.note, setHDCPProfile_unchanged hchanges] at hset

theorem checkHdcpProfile_iff (lstat : Bool) (s : State) :
    checkHdcpProfile lstat s = s.profile ↔ (s.profile = 1 → lstat = true) := by
  obtain ⟨present, broadcasts⟩ := s
  cases present <;> cases lstat <;> simp [checkHdcpProfile, State.profile]

theorem reliable_iff (hset : JustSet p) (h : Persistent p) (hstep : observe p call = some p') :
    Reliable p call ↔ Persistent p' := by
  obtain ⟨s, history⟩ := p
  obtain ⟨s', history'⟩ := p'
  obtain ⟨hs, rfl⟩ := observed_some.mp hstep
  cases call with
  | getHDCPProfile lstat =>
    obtain rfl : s = s' := Option.some.inj hs
    cases hlast : history.set with
    | none =>
      refine iff_of_true (fun hone => ?_) ⟨h.announced, ?_⟩
      · simp [hlast] at hone
      · simpa [History.note, hlast] using h.reported
    | some profile =>
      obtain rfl : profile = s.profile := h.announced _ (hset profile hlast)
      have hreliable : Reliable (s, history) (.getHDCPProfile lstat) ↔
          (s.profile = 1 → lstat = true) := by
        simp only [Reliable, hlast, Option.some.injEq]
      rw [hreliable, ← checkHdcpProfile_iff]
      constructor
      · refine fun hread => ⟨h.announced, ?_⟩
        simpa [History.note, hlast, getHDCPProfile, hread] using h.reported
      · exact fun hp => hp.reported (checkHdcpProfile lstat s, s.profile)
          (by simp [History.note, hlast, getHDCPProfile])
  | setHDCPProfile newProfile file =>
    obtain rfl := Option.some.inj hs
    by_cases hchanges : Changes newProfile file.lstat s
    · rw [Reliable, forall_prop_of_true hchanges, ← updated_profile hchanges,
        setHDCPProfile_changed hchanges]
      constructor
      · exact fun hforce => ⟨List.forall_mem_cons.mpr ⟨hforce, h.announced⟩, h.reported⟩
      · exact fun hp => hp.announced _ List.mem_cons_self
    · rw [setHDCPProfile_unchanged hchanges]
      exact iff_of_true (fun hc => absurd hc hchanges) ⟨h.announced, h.reported⟩

/-- In every state reached the broadcasts were of the profile in force and every profile set
has been read back, exactly if the file operations are reliable. -/
theorem hdcpProfile_persistent_iff (present : Bool) (calls : List Call) (p : State × History)
    (hrun : run observe (observeInit present) calls = some p) :
    Along observe Reliable (observeInit present) calls ↔
      ∀ pre q, pre <+: calls → run observe (observeInit present) pre = some q → Persistent q := by
  refine along_iff JustSet Persistent (fun _ _ _ _ _ hstep => justSet_step hstep)
    (fun _ _ _ hset h hstep => reliable_iff hset h hstep) ?_ ?_ hrun
  · exact fun _ hset => (nomatch hset)
  · exact ⟨fun _ hb => (nomatch hb), fun _ hr => (nomatch hr)⟩

theorem hdcpProfile_lost :
    (setHDCPProfile 1 ⟨true, false⟩ ⟨false, []⟩).2 = .success ∧
      (getHDCPProfile true (setHDCPProfile 1 ⟨true, false⟩ ⟨false, []⟩).1).1 = 0 ∧
      (setHDCPProfile 1 ⟨true, false⟩ ⟨false, []⟩).1.broadcasts = [(1, 0)] := by
  decide

theorem hdcpProfile_persistent_iff_setTwice :
    ∃ p, run observe (observeInit false) [.setHDCPProfile 1 ⟨true, true⟩, .getHDCPProfile true,
        .setHDCPProfile 0 ⟨true, true⟩, .getHDCPProfile true] = some p ∧
      p.2.reported = [(0, 0), (1, 1)] ∧ Persistent p := by
  have hreliable : Along observe Reliable (observeInit false) [.setHDCPProfile 1 ⟨true, true⟩,
      .getHDCPProfile true, .setHDCPProfile 0 ⟨true, true⟩, .getHDCPProfile true] := by decide
  exact ⟨_, rfl, rfl, (hdcpProfile_persistent_iff false _ _ rfl).mp hreliable _ _
    (List.prefix_refl _) rfl⟩

end IarmMgrs.SysMgr.HdcpProfile
