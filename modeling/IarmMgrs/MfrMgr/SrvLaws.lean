import IarmMgrs.MfrMgr.Srv

namespace IarmMgrs.MfrMgr.Srv

open Lib Lib.CString Lib.Lock Flash

variable {ok : Answer → Prop} {next missing : Program} {finish : Answer → Program}
  {prepare : Program → Program} {func : Func} {retCode : IarmResult} {mfrlibName : Bool}

theorem disciplined_unlockReturn : Disciplined ok .held (unlockReturn retCode) := trivial

theorem disciplined_ite {p : Prop} [Decidable p] {phase : Phase} {yes no : Program}
    (hyes : Disciplined ok phase yes) (hno : Disciplined ok phase no) :
    Disciplined ok phase (if p then yes else no) := by
  split
  · exact hyes
  · exact hno

theorem disciplined_findFunc (hnext : Disciplined ok .held next)
    (hmissing : Disciplined ok .held missing) :
    Disciplined ok .held (findFunc func next missing) :=
  disciplined_read.mpr fun _ => disciplined_ite hnext
    (disciplined_ask.mpr fun _ => disciplined_ite (disciplined_write.mpr hnext) hmissing)

theorem disciplined_checked {valid : Bool} (hnext : Disciplined ok .held next) :
    Disciplined ok .held (checked valid next) :=
  disciplined_ite hnext disciplined_unlockReturn

theorem disciplined_copied (hnext : Disciplined ok .held next) :
    Disciplined ok .held (copied next) :=
  disciplined_ask.mpr fun _ => disciplined_ite hnext disciplined_unlockReturn

theorem disciplined_withCrypto {crypto : Buf UInt8 64} {name : List UInt8}
    (hnext : Disciplined ok .held next) :
    Disciplined ok .held (withCrypto crypto name func next) :=
  disciplined_ite hnext
    (disciplined_ite (disciplined_findFunc hnext disciplined_unlockReturn)
      disciplined_unlockReturn)

theorem disciplined_returnErr (a : Answer) : Disciplined ok .held (returnErr a) :=
  disciplined_ite disciplined_unlockReturn disciplined_unlockReturn

/-- The extra unlock is reached just when the vendor's function succeeds. -/
theorem disciplined_unlockOnSuccess {a : Answer} :
    Disciplined ok .held (unlockOnSuccess a) ↔ a.err ≠ .none := by
  rw [unlockOnSuccess]
  constructor
  · intro h hnone
    rw [if_pos hnone] at h
    exact h
  · intro h
    rw [if_neg h]
    exact disciplined_unlockReturn

theorem disciplined_handler
    (hprepare : ∀ call, Disciplined ok .held call → Disciplined ok .held (prepare call))
    (hfinish : ∀ a, ok a → Disciplined ok .held (finish a)) :
    Disciplined ok .before (handler true func prepare finish) :=
  disciplined_lock.mpr ⟨rfl, disciplined_findFunc
    (hprepare (.critical finish) (disciplined_critical.mpr ⟨rfl, hfinish⟩))
    disciplined_unlockReturn⟩

theorem disciplined_nullArg :
    Disciplined ok .before (handler true func (fun _ => unlockReturn .invalidParam) returnErr) :=
  disciplined_handler (fun _ _ => disciplined_unlockReturn) fun a _ => disciplined_returnErr a

theorem disciplined_program (call : Call) (h : Startable mfrlibName call) :
    Disciplined (HalAnswer call) .before (program mfrlibName call) := by
  cases call with
  | init => exact fun _ => disciplined_ite trivial trivial
  | shutdown => cases h
  | getSerializedData arg =>
    obtain rfl := h
    cases arg with
    | none => exact disciplined_nullArg
    | some param =>
      exact disciplined_handler (fun _ hcall => disciplined_checked (disciplined_withCrypto hcall))
        fun _ _ => disciplined_ite (disciplined_copied disciplined_unlockReturn)
          disciplined_unlockReturn
  | setSerializedData arg =>
    obtain rfl := h
    cases arg with
    | none => exact disciplined_nullArg
    | some param =>
      have hcopy : ∀ call, Disciplined (HalAnswer (.setSerializedData (some param))) .held call →
          Disciplined (HalAnswer (.setSerializedData (some param))) .held
            (.ask fun a => if a.allocated then copied call else unlockReturn .invalidState) :=
        fun _ hcall _ => disciplined_ite (disciplined_copied hcall) disciplined_unlockReturn
      exact disciplined_handler
        (fun call hcall => disciplined_checked (disciplined_withCrypto (hcopy call hcall)))
        fun a _ => disciplined_returnErr a
  | writeImage arg =>
    obtain rfl := h
    exact disciplined_handler (fun _ => disciplined_checked)
      fun _ _ => disciplined_ite (fun _ => disciplined_unlockReturn) disciplined_unlockReturn
  | getImageWriteProgress arg | setImageWriteProgress arg =>
    obtain rfl := h
    exact disciplined_handler (fun _ => disciplined_checked) fun a _ => disciplined_returnErr a
  | deletePDRI | scrubAllBanks =>
    obtain rfl := h
    exact disciplined_handler (fun _ => id) fun _ => disciplined_unlockOnSuccess.mpr
  | reboot arg =>
    obtain rfl := h
    exact disciplined_handler (fun _ => disciplined_checked)
      fun _ => disciplined_unlockOnSuccess.mpr
  | setCableCardType | getBootImageName | getPathConfiguration =>
    obtain rfl := h
    exact disciplined_handler (fun _ => id) fun a _ => disciplined_returnErr a
  | setHostFirmwareInfo arg =>
    obtain rfl := h
    cases arg with
    | none => exact disciplined_nullArg
    | some param =>
      exact disciplined_handler (fun _ hcall => disciplined_checked (disciplined_copied hcall))
        fun a _ => disciplined_returnErr a
  | getDFAST2Data =>
    obtain rfl := h
    exact disciplined_handler (fun _ => disciplined_copied) fun a _ => disciplined_returnErr a

/-- A shutdown asks for the lock it has, or returns with it; without the library's name the
other calls return without having had it. -/
theorem disciplined_program_iff (call : Call) :
    Disciplined (HalAnswer call) .before (program mfrlibName call) ↔
      Startable mfrlibName call := by
  refine ⟨fun h => ?_, disciplined_program call⟩
  cases mfrlibName with
  | true =>
    cases call with
    | init => trivial
    | shutdown => exact h
    | _ => rfl
  | false =>
    cases call with
    | init => trivial
    | getSerializedData arg | setSerializedData arg | setHostFirmwareInfo arg =>
      cases arg <;> exact absurd h id
    | _ => exact absurd h id

/-- Without a shutdown, and while the functions behind an unlock in the branch of success
fail, the handlers keep the lock's promise in every state of a run. -/
theorem mfrSrv_exclusive (mfrlibName : Bool) {actions : List Action} {s : State}
    (hmeets : Transition.Along (step mfrlibName) (Meets mfrlibName) init actions)
    (hrun : Transition.run (step mfrlibName) init actions = some s) : Exclusive s :=
  run_exclusive disciplined_program hmeets hrun

def fails : Answer := ⟨true, true, true, .failed, .notStarted⟩

def succeeds : Answer := { fails with err := .none }

def orderlyRun : List Action :=
  [.start 0 .deletePDRI, .start 1 .getBootImageName, .advance 0 fails, .advance 0 fails,
    .advance 0 fails, .advance 0 fails, .advance 0 fails, .advance 0 fails, .advance 1 fails]

theorem mfrSrv_exclusive_orderlyRun :
    ∃ s, Transition.run (step true) init orderlyRun = some s ∧ Exclusive s := by
  have hmeets : Transition.Along (step true) (Meets true) init orderlyRun := by
    refine Transition.Along.of_mem fun a ha s => ?_
    simp only [orderlyRun, List.mem_cons, List.not_mem_nil, or_false] at ha
    have hanswer : ∀ call, HalAnswer call fails := by
      intro call
      cases call <;> simp [HalAnswer, fails]
    rcases ha with rfl | rfl | rfl | rfl | rfl | rfl | rfl | rfl | rfl
    · exact ⟨rfl, trivial⟩
    · exact ⟨rfl, trivial⟩
    all_goals exact ⟨trivial, fun th _ _ => hanswer th.entry⟩
  exact ⟨_, rfl, mfrSrv_exclusive true hmeets rfl⟩

def deletePDRIRun : List Action :=
  [.start 0 .deletePDRI, .start 1 .deletePDRI, .start 2 .deletePDRI,
    .advance 0 succeeds, .advance 0 succeeds, .advance 0 succeeds, .advance 0 succeeds,
    .advance 0 succeeds, .advance 0 succeeds,
    .advance 1 succeeds, .advance 1 succeeds,
    .advance 0 succeeds,
    .advance 2 succeeds, .advance 2 succeeds]

theorem mfrSrv_not_exclusive :
    ∃ s, Transition.run (step true) init deletePDRIRun = some s ∧ ¬ Exclusive s := by
  refine ⟨_, rfl, fun h => ?_⟩
  have heq : 1 = 2 := h.exclusion 1 2 _ _ rfl rfl ⟨_, rfl⟩ ⟨_, rfl⟩
  cases heq

end IarmMgrs.MfrMgr.Srv
