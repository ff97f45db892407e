import IarmMgrs.DsMgr.EasAudio

namespace IarmMgrs.DsMgr.EasAudio

open Lib Lib.Transition

variable {audioConfigs : List AudioPort} {s s' : Audio} {h : Handler} {next : Option Handler}
  {answer : Answer} {p p' : State} {port : AudioPort}

def Handler.Sound : Handler → Prop
  | .easSetStereoMode _ mode _ => mode ≠ .passthru
  | _ => True

def Audio.Stale (s : Audio) (port : AudioPort) : Prop :=
  s.isEAS = .eas ∧ s.mode port = .passthru

theorem mode_setStereoMode_self (port : AudioPort) (mode : StereoMode) (s : Audio) :
    (setStereoMode port mode s).mode port = mode := Function.update_self ..

theorem mode_setStereoMode_of_ne {port' : AudioPort} (hp : port ≠ port') (mode : StereoMode)
    (s : Audio) : (setStereoMode port' mode s).mode port = s.mode port :=
  Function.update_of_ne hp ..

theorem move_sound (hm : move audioConfigs h answer s = some (s', next)) :
    ∀ h', next = some h' → h'.Sound := by
  intro h' hn
  subst hn
  cases h with
  | audioLoop ports =>
    cases ports with
    | nil => cases hm
    | cons port ports =>
      simp only [move, Option.some.injEq, Prod.mk.injEq] at hm
      obtain ⟨-, rfl⟩ := hm
      split <;> trivial
  | easLoop ports =>
    cases ports with
    | nil => cases hm
    | cons port ports =>
      simp only [move, Option.some.injEq, Prod.mk.injEq] at hm
      obtain ⟨-, rfl⟩ := hm
      simp only [Handler.Sound]
      split
      case isTrue => simp
      case isFalse hp => exact hp
  | sysModeChange | setAVPortsPowerStateOn | setAudioMode | setEASAudioMode =>
    simp only [move, Option.some.injEq, Prod.mk.injEq, Option.ite_none_left_eq_some,
      Option.ite_none_right_eq_some] at hm
    obtain ⟨-, -, rfl⟩ := hm
    trivial
  | sysModeStore | audioConnected =>
    simp only [move, Option.some.injEq, Prod.mk.injEq] at hm
    obtain ⟨-, rfl⟩ := hm
    split <;> trivial
  | audioStereoAuto | audioSetStereoMode | easSetStereoMode =>
    simp only [move, Option.some.injEq, Prod.mk.injEq] at hm
    obtain ⟨-, rfl⟩ := hm
    trivial

/-- After a step a port is stale because the handler goes on to settle it, because it was
stale before and is nothing to this handler, or because the handler set it so. -/
theorem move_stale (hs : h.Sound) (hport : port ∈ audioConfigs)
    (hm : move audioConfigs h answer s = some (s', next)) (hstale : s'.Stale port) :
    (∃ h', next = some h' ∧ h'.Settles port) ∨
      ¬ h.Settles port ∧ (s.Stale port ∨
        s.isEAS = .eas ∧ ∃ ports, h = .audioSetStereoMode port .passthru ports) := by
  obtain ⟨heas, hmode⟩ := hstale
  cases h with
  | sysModeChange newMode =>
    obtain ⟨rfl, rfl⟩ := Prod.mk.inj (Option.some.inj hm)
    by_cases hn : newMode = .normal
    · subst hn
      exact .inl ⟨.sysModeStore .normal, by simp [changesMode, heas], trivial⟩
    · exact .inr ⟨hn, .inl ⟨heas, hmode⟩⟩
  | sysModeStore newMode =>
    obtain ⟨rfl, rfl⟩ := Prod.mk.inj (Option.some.inj hm)
    exact .inl ⟨_, rfl, by simp only [if_pos heas, Handler.Settles]⟩
  | setAVPortsPowerStateOn =>
    obtain ⟨rfl, rfl⟩ := Prod.mk.inj (Option.some.inj hm)
    exact .inl ⟨_, if_pos heas, trivial⟩
  | setEASAudioMode =>
    obtain ⟨rfl, rfl⟩ := Prod.mk.inj (Option.some.inj hm)
    exact .inl ⟨_, if_pos heas, hport⟩
  | audioSetStereoMode port' mode ports =>
    obtain ⟨rfl, rfl⟩ := Prod.mk.inj (Option.some.inj hm)
    refine .inr ⟨not_false, ?_⟩
    by_cases hp : port = port'
    · subst hp
      rw [mode_setStereoMode_self] at hmode
      subst hmode
      exact .inr ⟨heas, ports, rfl⟩
    · rw [mode_setStereoMode_of_ne hp] at hmode
      exact .inl ⟨heas, hmode⟩
  | audioLoop ports =>
    cases ports <;>
      · obtain ⟨rfl, -⟩ := Prod.mk.inj (Option.some.inj hm)
        exact .inr ⟨not_false, .inl ⟨heas, hmode⟩⟩
  | easLoop ports =>
    cases ports with
    | nil =>
      obtain ⟨rfl, -⟩ := Prod.mk.inj (Option.some.inj hm)
      exact .inr ⟨List.not_mem_nil, .inl ⟨heas, hmode⟩⟩
    | cons port' ports =>
      obtain ⟨rfl, rfl⟩ := Prod.mk.inj (Option.some.inj hm)
      by_cases hp : port ∈ port' :: ports
      · refine .inl ⟨_, rfl, ?_⟩
        exact (List.mem_cons.mp hp).imp_left Eq.symm
      · exact .inr ⟨hp, .inl ⟨heas, hmode⟩⟩
  | easSetStereoMode port' mode ports =>
    obtain ⟨rfl, rfl⟩ := Prod.mk.inj (Option.some.inj hm)
    by_cases hrest : port ∈ ports
    · exact .inl ⟨_, rfl, hrest⟩
    · by_cases hp : port = port'
      · subst hp
        rw [mode_setStereoMode_self] at hmode
        exact absurd hmode hs
      · rw [mode_setStereoMode_of_ne hp] at hmode
        exact .inr ⟨not_or.mpr ⟨Ne.symm hp, hrest⟩, .inl ⟨heas, hmode⟩⟩
  | _ =>
    obtain ⟨rfl, -⟩ := Prod.mk.inj (Option.some.inj hm)
    exact .inr ⟨not_false, .inl ⟨heas, hmode⟩⟩

/-- Whatever plays PASSTHRU in EAS is still to be settled. -/
structure Inv (audioConfigs : List AudioPort) (p : State) : Prop where
  sound : p.All Handler.Sound
  settled : ∀ port ∈ audioConfigs, p.shared.Stale port → p.Any (Handler.Settles port)

theorem Inv.init (mode : AudioPort → StereoMode) :
    Inv audioConfigs (Pool.init (Audio.start mode)) where
  sound := Pool.all_init
  settled port _ hstale := by simp [Pool.init, Audio.start, Audio.Stale] at hstale

theorem Inv.step (hi : Inv audioConfigs p) {a : Action} (hok : PassthruSettled p a)
    (hstep : step audioConfigs p a = some p') : Inv audioConfigs p' := by
  cases a with
  | start t entry =>
    obtain ⟨ht, rfl⟩ := Pool.step_start hstep
    constructor
    · refine hi.sound.update (fun _ h => h) fun h' hn => ?_
      obtain rfl := Option.some.inj hn
      cases entry <;> trivial
    · intro port hport hstale
      exact (hi.settled port hport hstale).update fun h hh => by simp [ht] at hh
  | advance t answer =>
    obtain ⟨h, shared, next, ht, hm, rfl⟩ := Pool.step_advance hstep
    constructor
    · exact hi.sound.update (fun _ h => h) (move_sound hm)
    · intro port hport hstale
      rcases move_stale (hi.sound t h ht) hport hm hstale with ⟨h', hn, hset⟩ | ⟨hnot, hwas⟩
      · exact Pool.any_next hn hset
      · have hany : p.Any (Handler.Settles port) := by
          rcases hwas with hwas | ⟨heas, ports, rfl⟩
          · exact hi.settled port hport hwas
          · exact hok port ports ht heas
        refine hany.update fun h' hh => ?_
        obtain rfl := Option.some.inj (ht.symm.trans hh)
        exact hnot

/-- Once no handler is midway in EAS, no port plays PASSTHRU. -/
theorem run_easAudio {mode : AudioPort → StereoMode} {as : List Action}
    (hok : Along (step audioConfigs) PassthruSettled (Pool.init (Audio.start mode)) as)
    (h : run (step audioConfigs) (Pool.init (Audio.start mode)) as = some p)
    (heas : p.shared.isEAS = .eas) (hidle : p.Idle) :
    ∀ port ∈ audioConfigs, p.shared.mode port ≠ .passthru := by
  have hi := run_invariant_along (Inv audioConfigs) (fun _ _ _ hi hok hs => hi.step hok hs)
    (Inv.init mode) hok h
  intro port hport hmode
  exact Pool.not_any_of_idle hidle (hi.settled port hport ⟨heas, hmode⟩)

def lateFree (p : State) : Action → Bool
  | .advance t _ =>
    match p.threads t with
    | some (.audioSetStereoMode _ .passthru _) => p.shared.isEAS ≠ .eas
    | _ => true
  | _ => true

theorem passthruSettled_of_lateFree (p : State) (a : Action) (h : lateFree p a = true) :
    PassthruSettled p a := by
  cases a with
  | start => trivial
  | advance t answer =>
    intro port ports ht heas
    simp [lateFree, ht, heas] at h

def quiet : Answer := ⟨.passthru, false, false⟩

def changeToEas (t : Nat) : List Action :=
  .start t (.sysModeChange .eas) :: List.replicate 6 (.advance t quiet)

theorem run_easAudio_sample : ∃ p,
    run (step [.spdif]) (Pool.init (Audio.start fun _ => .passthru)) (changeToEas 0) = some p ∧
      ∀ port ∈ [AudioPort.spdif], p.shared.mode port ≠ .passthru := by
  have hok : Along (step [.spdif]) (fun p a => lateFree p a = true)
      (Pool.init (Audio.start fun _ => .passthru)) (changeToEas 0) := by decide
  refine ⟨_, rfl, run_easAudio (hok.imp passthruSettled_of_lateFree) rfl rfl ?_⟩
  intro t
  simp [Pool.init, Function.update_apply]

/-- A pass that has read PASSTHRU before EAS began sets it after the EAS pass is done. -/
theorem easAudio_overtaken : ¬ ∀ (audioConfigs : List AudioPort)
    (mode : AudioPort → StereoMode) (as : List Action) (p : State),
    run (step audioConfigs) (Pool.init (Audio.start mode)) as = some p →
      p.shared.isEAS = .eas → p.Idle → ∀ port ∈ audioConfigs, p.shared.mode port ≠ .passthru := by
  intro hall
  refine hall [.spdif] (fun _ => .stereo)
    ([.start 1 .setAudioMode, .advance 1 quiet, .advance 1 quiet] ++ changeToEas 0 ++
      [.advance 1 quiet, .advance 1 quiet]) _ rfl rfl ?_ .spdif (by decide) rfl
  intro t
  simp +contextual [Pool.init, Function.update_apply]

end IarmMgrs.DsMgr.EasAudio
