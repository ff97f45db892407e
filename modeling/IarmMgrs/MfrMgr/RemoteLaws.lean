import IarmMgrs.MfrMgr.Remote
import IarmMgrs.MfrMgr.SerializedDataLaws
import IarmMgrs.MfrMgr.SettingsLaws

namespace IarmMgrs.MfrMgr.Remote

open Lib.CString
open Flash (IarmResult maxBuf)
open SerializedData (memcpyS strcpyS memcpyS_some)
open Settings (strcpyS_str strcpyS_str_isSome)
open Crypto (toSize)
open Srv (Func ImageParam)

variable {z : Sizes} {σ : Type} {env : Env z} {vendor : Vendor z σ} {c : Call z} {s : Server σ}
  {imageName : Option Name} {copy : Buf UInt8 maxBuf}

theorem terminated_of_strcpyS {n : Nat} {dest copy : Buf UInt8 n} {src : List UInt8}
    (h : strcpyS dest src = some copy) : copy.Terminated 0 := by
  obtain ⟨hlen, rfl⟩ := Lib.Transition.of_guard h
  have hfits : (src ++ [0]).length ≤ n := by
    rw [List.length_append, List.length_singleton]
    exact hlen
  rw [Buf.Terminated, Buf.chars_write hfits]
  simp

theorem copyName_some (h : copyName env imageName = some copy) :
    nameOf copy = imageName ∧ isTerminated copy = true := by
  obtain ⟨name, rfl, hcopy⟩ := Option.bind_eq_some_iff.mp h
  have hstr : copy.str 0 = name.1 := strcpyS_str name.2 hcopy
  exact ⟨congrArg some (Subtype.ext hstr), decide_eq_true (terminated_of_strcpyS hcopy)⟩

theorem copyName_none (h : copyName env imageName = none) :
    ¬ ∃ name ∈ imageName, name.1.length < maxBuf := by
  rintro ⟨name, hname, hfits⟩
  obtain rfl := Option.mem_def.mp hname
  simp [copyName, strcpyS, hfits] at h

theorem fromRpc_cases (rpcRet : IarmResult) :
    fromRpc rpcRet = mfrErrNone ∨ fromRpc rpcRet = mfrErrGeneral := by
  unfold fromRpc
  split
  · exact .inl rfl
  · exact .inr rfl

theorem fromRpc_eq_none_iff (rpcRet : IarmResult) :
    fromRpc rpcRet = mfrErrNone ↔ rpcRet = .success := by
  cases rpcRet <;> decide

theorem fromRpc_failed {rpcRet : IarmResult} (h : rpcRet ≠ .success) :
    fromRpc rpcRet = mfrErrGeneral := if_neg h

section Rpc

variable {π : Type} {func : Func} {valid : π → Bool} {call : π → σ → Result σ π} {param : π}

/-- What a call over the bus comes to: the function is called once or not at all, and success is
its success. -/
theorem rpc_cases (env : Env z) (func : Func) (valid : π → Bool) (call : π → σ → Result σ π)
    (param : π) (s : Server σ) :
    let rpc := busCall env (handler env func valid call) param s
    (rpc.1 ≠ .success ∧ rpc.2.2.vendor = s.vendor ∧ ¬ (env.Grants ∧ valid param = true)) ∨
      (rpc.2.2.vendor = (call param s.vendor).state ∧
        (rpc.1 = .success →
          (call param s.vendor).err = mfrErrNone ∧ rpc.2.1 = (call param s.vendor).out) ∧
        (env.Grants → (call param s.vendor).err = mfrErrNone → rpc.1 = .success)) := by
  intro rpc
  by_cases hdelivered : env.delivered = true
  · by_cases hfound : (!env.mfrlibName || !(s.func func || env.found)) = true
    · refine .inl ⟨?_, ?_, ?_⟩
      · simp only [rpc, busCall, handler, hdelivered, hfound]
        cases env.answered <;> simp
      · simp only [rpc, busCall, handler, hdelivered, hfound]
        cases env.answered <;> simp
      · rintro ⟨⟨hname, hfind, -⟩, -⟩
        simp [hname, hfind] at hfound
    · by_cases hvalid : valid param = true
      · refine .inr ⟨?_, ?_, ?_⟩
        · simp only [rpc, busCall, handler, hdelivered, hfound, hvalid]
          cases env.answered <;> simp
        · simp only [rpc, busCall, handler, hdelivered, hfound, hvalid]
          cases env.answered <;> simp +contextual
        · rintro ⟨-, -, -, hanswered⟩ herr
          simp only [rpc, busCall, handler, hdelivered, hfound, hvalid]
          simp [hanswered, herr]
      · refine .inl ⟨?_, ?_, fun h => hvalid h.2⟩
        · simp only [rpc, busCall, handler, hdelivered, hfound, hvalid]
          cases env.answered <;> simp
        · simp only [rpc, busCall, handler, hdelivered, hfound, hvalid]
          cases env.answered <;> simp
  · refine .inl ⟨?_, ?_, fun h => hdelivered h.1.2.2.1⟩
    · simp [rpc, busCall, hdelivered]
    · simp [rpc, busCall, hdelivered]

end Rpc

inductive Outcome (env : Env z) (vendor : Vendor z σ) (c : Call z) (s : Server σ)
    (r : Reply z × Server σ) : Prop
  | unserved : r.1.err = mfrErrGeneral → r.2.vendor = s.vendor → ¬ (env.Grants ∧ c.Carried) →
      Outcome env vendor c s r
  | served : Told (direct vendor c.placed s.vendor).1 r.1 →
      r.2.vendor = (direct vendor c.placed s.vendor).2 →
      (env.Grants → c.Carried → (direct vendor c.placed s.vendor).1.err = mfrErrNone →
        r.1.err = mfrErrNone) → Outcome env vendor c s r

theorem Outcome.of_rpc {π : Type} {func : Func} {valid : π → Bool} {call : π → σ → Result σ π}
    {param : π} {args : Call z} (hvalid : c.Carried → valid param = true)
    (herr : (call param s.vendor).err = (direct vendor c.placed s.vendor).1.err)
    (hstate : (call param s.vendor).state = (direct vendor c.placed s.vendor).2)
    (hargs : (busCall env (handler env func valid call) param s).1 = .success →
      (busCall env (handler env func valid call) param s).2.1 = (call param s.vendor).out →
        (direct vendor c.placed s.vendor).1.err = mfrErrNone →
          (direct vendor c.placed s.vendor).1.args.ofDFAST2 = false →
            (direct vendor c.placed s.vendor).1.args.Agree args) :
    Outcome env vendor c s
      (⟨fromRpc (busCall env (handler env func valid call) param s).1, args⟩,
        (busCall env (handler env func valid call) param s).2.2) := by
  obtain ⟨hfailed, hvendor, hlacks⟩ | ⟨hvendor, hsuccess, hgranted⟩ :=
    rpc_cases env func valid call param s
  · exact .unserved (fromRpc_failed hfailed) hvendor fun h => hlacks ⟨h.1, hvalid h.2⟩
  · refine .served ⟨fromRpc_cases _, fun hnone => ?_⟩ (hvendor.trans hstate)
      fun hgrants _ hnone => ?_
    · have hrpc := (fromRpc_eq_none_iff _).mp hnone
      obtain ⟨hcall, hout⟩ := hsuccess hrpc
      exact ⟨herr ▸ hcall, hargs hrpc hout (herr ▸ hcall)⟩
    · exact (fromRpc_eq_none_iff _).mpr (hgranted hgrants (herr.trans hnone))

theorem Agree.refl (c : Call z) : c.Agree c := by
  cases c <;> simp [Call.Agree]

theorem setImageWriteProgress_outcome (imageName : Option Name) (imageType progress : Int)
    (s : Server σ) :
    Outcome env vendor (.setImageWriteProgress imageName imageType progress) s
      (remote env vendor (.setImageWriteProgress imageName imageType progress) s) := by
  simp only [remote, mfrSetImageWriteProgress]
  cases hcopy : copyName env imageName with
  | none => exact .unserved rfl rfl fun h => copyName_none hcopy h.2
  | some copy =>
    obtain ⟨hname, hterminated⟩ := copyName_some hcopy
    refine Outcome.of_rpc (fun _ => hterminated) ?_ ?_ fun _ _ _ _ => Agree.refl _
    · simp only [hname, Call.placed, direct]
    · simp only [hname, Call.placed, direct]

theorem getImageWriteProgress_outcome (hdoc : Documented vendor) (imageName : Option Name)
    (imageType progress : Int) (s : Server σ) :
    Outcome env vendor (.getImageWriteProgress imageName imageType progress) s
      (remote env vendor (.getImageWriteProgress imageName imageType progress) s) := by
  simp only [remote, mfrGetImageWriteProgress]
  cases hcopy : copyName env imageName with
  | none => exact .unserved rfl rfl fun h => copyName_none hcopy h.2
  | some copy =>
    obtain ⟨hname, hterminated⟩ := copyName_some hcopy
    obtain ⟨herr, hstate, hout⟩ :=
      hdoc.progress imageName imageType env.image.progress progress s.vendor
    refine Outcome.of_rpc (fun _ => hterminated) ?_ ?_ fun hrpc hanswer hnone _ => ?_
    · simpa only [hname, Call.placed, direct] using herr
    · simpa only [hname, Call.placed, direct] using hstate
    · have hprogress := congrArg ImageWriteProgressParam.progress hanswer
      simp only [hname, hout (herr.trans hnone)] at hprogress
      exact congrArg (Call.getImageWriteProgress imageName imageType)
        ((if_pos hrpc).trans hprogress).symm

theorem reboot_outcome (imageName : Option Name) (s : Server σ) :
    Outcome env vendor (.reboot imageName) s (remote env vendor (.reboot imageName) s) := by
  simp only [remote, mfrReboot]
  cases hcopy : copyName env imageName with
  | none => exact .unserved rfl rfl fun h => copyName_none hcopy h.2
  | some copy =>
    obtain ⟨hname, hterminated⟩ := copyName_some hcopy
    refine Outcome.of_rpc (fun _ => hterminated) ?_ ?_ fun _ _ _ _ => Agree.refl _
    · simp only [hname, Call.placed, direct]
    · simp only [hname, Call.placed, direct]

theorem setHostFirmwareInfo_outcome (hdoc : Documented vendor)
    (firmwareInfo : HostFirmwareInfo z) (s : Server σ) :
    Outcome env vendor (.setHostFirmwareInfo firmwareInfo) s
      (remote env vendor (.setHostFirmwareInfo firmwareInfo) s) := by
  simp only [remote, mfrSetHostFirmwareInfo]
  have hsome := strcpyS_str_isSome env.firmware.version firmwareInfo.firmwareVersion rfl
  cases hcopy : strcpyS env.firmware.version (firmwareInfo.firmwareVersion.str 0) with
  | none =>
    rw [hcopy] at hsome
    exact .unserved rfl rfl fun h => of_decide_eq_false hsome.symm h.2
  | some version =>
    have hstr : version.str 0 = firmwareInfo.firmwareVersion.str 0 :=
      strcpyS_str (nul_notMem_cstr 0 _) hcopy
    have hversion := hdoc.version firmwareInfo.firmwareDay firmwareInfo.firmwareMonth
      firmwareInfo.firmwareYear s.vendor version firmwareInfo.firmwareVersion hstr
    refine Outcome.of_rpc (fun _ => decide_eq_true (terminated_of_strcpyS hcopy)) ?_ ?_
      fun _ _ _ _ => Agree.refl _
    · simp only [Call.placed, direct, hversion]
    · simp only [Call.placed, direct, hversion]

theorem givePath_failed {rpcRet : IarmResult} (h : rpcRet ≠ .success)
    (param : PathConfigurationParam z) (path : Option (Buf UInt8 z.maxStrSize)) (len : Int) :
    givePath rpcRet param path len = (mfrErrGeneral, path, len) := by
  cases rpcRet with
  | success => exact absurd rfl h
  | _ => rfl

theorem givePath_null (rpcRet : IarmResult) (param : PathConfigurationParam z) (len : Int) :
    (givePath rpcRet param none len).1 = mfrErrGeneral := by
  cases rpcRet <;> rfl

theorem mfrErrGeneral_ne_none : mfrErrGeneral ≠ mfrErrNone := by decide

theorem givePath_cases (rpcRet : IarmResult) (param : PathConfigurationParam z)
    (path : Option (Buf UInt8 z.maxStrSize)) (len : Int) :
    (givePath rpcRet param path len).1 = mfrErrNone ∨
      (givePath rpcRet param path len).1 = mfrErrGeneral := by
  unfold givePath
  split
  · exact .inr rfl
  · split
    · exact .inr rfl
    · exact .inl rfl
  · exact .inr rfl

theorem givePath_fits {answer : Buf UInt8 z.maxStrSize} {answerLen : Int} (type : Int)
    (hpos : 0 < toSize answerLen) (hmax : toSize answerLen ≤ z.maxStrSize)
    (dest : Buf UInt8 z.maxStrSize) (len : Int) :
    ∃ path, givePath .success ⟨type, answer, answerLen⟩ (some dest) len =
        (mfrErrNone, some path, answerLen) ∧
      path.chars.take (toSize answerLen) = answer.chars.take (toSize answerLen) := by
  have hlength : (answer.chars.take (toSize answerLen)).length = toSize answerLen := by
    rw [List.length_take, answer.size]
    omega
  refine ⟨dest.write (answer.chars.take (toSize answerLen)), ?_, ?_⟩
  · simp only [givePath, memcpyS_some hpos hmax]
  · rw [Buf.chars_write (hlength.le.trans hmax), List.take_left' hlength]

theorem getPathConfiguration_outcome (hdoc : Documented vendor) (type : Int)
    (path : Option (Buf UInt8 z.maxStrSize)) (len : Int) (s : Server σ) :
    Outcome env vendor (.getPathConfiguration type path len) s
      (remote env vendor (.getPathConfiguration type path len) s) := by
  obtain ⟨hfailed, hvendor, hlacks⟩ | ⟨hvendor, hsuccess, hgranted⟩ :=
    rpc_cases env .getPathConfiguration (fun _ => true)
      (fun (param : PathConfigurationParam z) s =>
        let r := vendor.getPathConfiguration param.type (some param.path) param.len s
        ⟨r.err, { param with path := r.out.1, len := r.out.2 }, r.state⟩)
      { env.path with type := type } s
  · exact .unserved (congrArg Prod.fst (givePath_failed hfailed _ _ _)) hvendor
      fun h => hlacks ⟨h.1, rfl⟩
  · cases path with
    | none =>
      obtain ⟨-, hstate, -⟩ := hdoc.path type env.path.path (.zeroed 0 z.maxStrSize) env.path.len
        len s.vendor
      refine .served ⟨.inr (givePath_null _ _ _), fun hnone => ?_⟩ (hvendor.trans hstate)
        fun _ hcarried => absurd rfl hcarried
      exact absurd ((givePath_null _ _ _).symm.trans hnone) mfrErrGeneral_ne_none
    | some dest =>
      obtain ⟨herr, hstate, hout⟩ := hdoc.path type env.path.path dest env.path.len len s.vendor
      have hreply : (busCall env (srvGetPathConfiguration env vendor)
          { env.path with type := type } s).1 = .success →
          (direct vendor (.getPathConfiguration type (some dest) len) s.vendor).1.args.Agree
              (remote env vendor (.getPathConfiguration type (some dest) len) s).1.args ∧
            (remote env vendor (.getPathConfiguration type (some dest) len) s).1.err =
              mfrErrNone := by
        intro hrpc
        obtain ⟨hcall, hanswer⟩ := hsuccess hrpc
        obtain ⟨hlen, hbytes, hpos, hmax⟩ := hout hcall
        obtain ⟨path, hgive, htake⟩ := givePath_fits type hpos hmax dest len
        have hargs : (remote env vendor (.getPathConfiguration type (some dest) len) s).1 =
            ⟨mfrErrNone, .getPathConfiguration type (some path) _⟩ :=
          congrArg (fun g : Int × Option (Buf UInt8 z.maxStrSize) × Int =>
            (⟨g.1, .getPathConfiguration type g.2.1 g.2.2⟩ : Reply z))
            ((congrArg₂ (givePath · · (some dest) len) hrpc hanswer).trans hgive)
        rw [hargs]
        exact ⟨⟨rfl, hlen.symm, congrArg some (hbytes.symm.trans htake.symm)⟩, rfl⟩
      refine .served ⟨givePath_cases _ _ _ _, fun hnone => ?_⟩ (hvendor.trans hstate)
        fun hgrants _ hnone => (hreply (hgranted hgrants (herr.trans hnone))).2
      have hrpc : (busCall env (srvGetPathConfiguration env vendor)
          { env.path with type := type } s).1 = .success := by
        by_contra hfailed
        exact mfrErrGeneral_ne_none
          ((congrArg Prod.fst (givePath_failed hfailed _ _ _)).symm.trans hnone)
      exact ⟨herr.symm.trans (hsuccess hrpc).1, fun _ => (hreply hrpc).1⟩

/-- Each call either stays without effect, or is the call of the library. -/
theorem remote_outcome (env : Env z) (hdoc : Documented vendor) (c : Call z) (s : Server σ) :
    Outcome env vendor c s (remote env vendor c s) := by
  cases c with
  | setImageWriteProgress imageName imageType progress =>
    exact setImageWriteProgress_outcome imageName imageType progress s
  | getImageWriteProgress imageName imageType progress =>
    exact getImageWriteProgress_outcome hdoc imageName imageType progress s
  | reboot imageName => exact reboot_outcome imageName s
  | setHostFirmwareInfo firmwareInfo => exact setHostFirmwareInfo_outcome hdoc firmwareInfo s
  | getPathConfiguration type path len => exact getPathConfiguration_outcome hdoc type path len s
  | deletePDRI =>
    simp only [remote, mfrDeletePDRI]
    exact Outcome.of_rpc (fun _ => rfl) (by rfl) (by rfl) fun _ _ _ _ => Agree.refl _
  | scrubAllBanks =>
    simp only [remote, mfrScrubAllBanks]
    exact Outcome.of_rpc (fun _ => rfl) (by rfl) (by rfl) fun _ _ _ _ => Agree.refl _
  | setCableCardType type =>
    simp only [remote, mfrSetCableCardType]
    exact Outcome.of_rpc (fun _ => rfl) (by rfl) (by rfl) fun _ _ _ _ => Agree.refl _
  | getDFAST2Data params =>
    simp only [remote, mfrGetDFAST2Data]
    exact Outcome.of_rpc (fun _ => rfl) (by rfl) (by rfl) fun _ _ _ hother => by cases hother

section Alone

variable {a : Srv.Answer} (initialized : Bool)

def Answers (env : Env z) (a : Srv.Answer) (err : Int) : Prop :=
  a.found = env.found ∧ a.copied = true ∧ (a.err = .none ↔ err = mfrErrNone)

theorem returnErr_alone {err : Int} (ha : Answers env a err) (data : Srv.Statics) :
    (Srv.returnErr a).alone a data = if err = mfrErrNone then .success else .invalidState := by
  unfold Srv.returnErr
  split
  · next herr => rw [if_pos (ha.2.2.mp herr)]; rfl
  · next herr => rw [if_neg (mt ha.2.2.mpr herr)]; rfl

theorem unlockOnSuccess_alone {err : Int} (ha : Answers env a err) (data : Srv.Statics) :
    (Srv.unlockOnSuccess a).alone a data =
      if err = mfrErrNone then .success else .invalidState := by
  unfold Srv.unlockOnSuccess
  split
  · next herr => rw [if_pos (ha.2.2.mp herr)]; rfl
  · next herr => rw [if_neg (mt ha.2.2.mpr herr)]; rfl

theorem copied_alone {err : Int} (ha : Answers env a err) {next : Srv.Program}
    {data : Srv.Statics} : (Srv.copied next).alone a data = next.alone a data := by
  simp [Srv.copied, Lib.Lock.Prog.alone, ha.2.1]

theorem handler_result {π : Type} (func : Func) (valid : π → Bool) (call : π → σ → Result σ π)
    (param : π) (s : Server σ) :
    (handler env func valid call param s).1 =
      if env.mfrlibName && (s.func func || env.found) then
        if valid param then
          if (call param s.vendor).err = mfrErrNone then .success else .invalidState
        else .invalidParam
      else .invalidState := by
  unfold handler
  rw [← Bool.not_and]
  by_cases hfound : (env.mfrlibName && (s.func func || env.found)) = true
  · simp only [hfound, Bool.not_true, Bool.false_eq_true, if_false, if_true]
    cases valid param <;> rfl
  · simp [hfound]

theorem handler_alone {π : Type} (func : Func) (valid : π → Bool) (call : π → σ → Result σ π)
    (param : π) (s : Server σ) {prepare : Srv.Program → Srv.Program}
    {finish : Srv.Answer → Srv.Program}
    (ha : Answers env a (call param s.vendor).err)
    (hprepare : ∀ next data, (prepare next).alone a data =
      if valid param then next.alone a data else .invalidParam)
    (hfinish : ∀ data, (finish a).alone a data =
      if (call param s.vendor).err = mfrErrNone then .success else .invalidState) :
    (Srv.handler env.mfrlibName func prepare finish).alone a ⟨initialized, s.func⟩ =
      (handler env func valid call param s).1 := by
  rw [handler_result]
  by_cases hname : env.mfrlibName = true
  · by_cases hfunc : s.func func = true
    · simp [Srv.handler, Srv.guarded, Srv.findFunc, Lib.Lock.Prog.alone, hname, hfunc, hprepare,
        hfinish]
    · by_cases hfound : env.found = true
      · simp [Srv.handler, Srv.guarded, Srv.findFunc, Lib.Lock.Prog.alone, hname, hfunc, ha.1,
          hfound, hprepare, hfinish]
      · simp [Srv.handler, Srv.guarded, Srv.findFunc, Srv.unlockReturn, Lib.Lock.Prog.alone, hname,
          hfunc, ha.1, hfound]
  · simp [Srv.handler, Srv.guarded, Lib.Lock.Prog.alone, hname]

variable {param : ImageWriteProgressParam} {s : Server σ}

theorem checked_alone (valid : Bool) (next : Srv.Program) (data : Srv.Statics) :
    (Srv.checked valid next).alone a data = if valid then next.alone a data else .invalidParam :=
  SerializedData.checked_alone valid next data

theorem srvSetImageWriteProgress_alone
    (ha : Answers env a (vendor.setImageWriteProgress (nameOf param.imageName) param.imageType
      param.progress s.vendor).err) :
    (Srv.mfrSetImageWriteProgress env.mfrlibName (some param.toImageParam)).alone a
        ⟨initialized, s.func⟩ = (srvSetImageWriteProgress env vendor param s).1 :=
  handler_alone initialized _ _ _ param s ha (checked_alone _) (returnErr_alone ha)

theorem srvGetImageWriteProgress_alone
    (ha : Answers env a (vendor.getImageWriteProgress (nameOf param.imageName) param.imageType
      param.progress s.vendor).err) :
    (Srv.mfrGetImageWriteProgress env.mfrlibName (some param.toImageParam)).alone a
        ⟨initialized, s.func⟩ = (srvGetImageWriteProgress env vendor param s).1 :=
  handler_alone initialized _ _ _ param s ha (checked_alone _) (returnErr_alone ha)

theorem srvDeletePDRI_alone (ha : Answers env a (vendor.deletePDRI s.vendor).err) :
    (Srv.mfrDeletePDRI env.mfrlibName).alone a ⟨initialized, s.func⟩ =
      (srvDeletePDRI env vendor () s).1 :=
  handler_alone initialized _ _ _ () s ha (fun _ _ => rfl) (unlockOnSuccess_alone ha)

theorem srvScrubAllBanks_alone (ha : Answers env a (vendor.scrubAllBanks s.vendor).err) :
    (Srv.mfrScrubAllBanks env.mfrlibName).alone a ⟨initialized, s.func⟩ =
      (srvScrubAllBanks env vendor () s).1 :=
  handler_alone initialized _ _ _ () s ha (fun _ _ => rfl) (unlockOnSuccess_alone ha)

theorem srvReboot_alone (param : ImageParam)
    (ha : Answers env a (vendor.reboot (nameOf param.imageName) s.vendor).err) :
    (Srv.mfrReboot env.mfrlibName (some param)).alone a ⟨initialized, s.func⟩ =
      (srvReboot env vendor param s).1 :=
  handler_alone initialized _ _ _ param s ha (checked_alone _) (unlockOnSuccess_alone ha)

theorem srvSetCableCardType_alone (type : Int)
    (ha : Answers env a (vendor.setCableCardType type s.vendor).err) :
    (Srv.mfrSetCableCardType env.mfrlibName).alone a ⟨initialized, s.func⟩ =
      (srvSetCableCardType env vendor type s).1 :=
  handler_alone initialized _ _ _ type s ha (fun _ _ => rfl) (returnErr_alone ha)

theorem srvSetHostFirmwareInfo_alone (param : HostFirmwareInfoParam z)
    (ha : Answers env a (vendor.setHostFirmwareInfo
      ⟨param.version, param.day, param.month, param.year⟩ s.vendor).err) :
    (Srv.mfrSetHostFirmwareInfo env.mfrlibName (some ⟨z.maxStrSize, param.version⟩)).alone a
        ⟨initialized, s.func⟩ = (srvSetHostFirmwareInfo env vendor param s).1 :=
  handler_alone initialized _ _ _ param s ha
    (fun next data => (checked_alone _ _ data).trans (by rw [copied_alone ha])) (returnErr_alone ha)

theorem srvGetPathConfiguration_alone (param : PathConfigurationParam z)
    (ha : Answers env a (vendor.getPathConfiguration param.type (some param.path) param.len
      s.vendor).err) :
    (Srv.mfrGetPathConfiguration env.mfrlibName).alone a ⟨initialized, s.func⟩ =
      (srvGetPathConfiguration env vendor param s).1 :=
  handler_alone initialized _ _ _ param s ha (fun _ _ => rfl) (returnErr_alone ha)

theorem srvGetDFAST2Data_alone (param : DFAST2Params z)
    (ha : Answers env a (vendor.getDFAST2Data param s.vendor).err) :
    (Srv.mfrGetDFAST2Data env.mfrlibName).alone a ⟨initialized, s.func⟩ =
      (srvGetDFAST2Data env vendor param s).1 :=
  handler_alone initialized _ _ _ param s ha (fun _ _ => copied_alone ha) (returnErr_alone ha)

end Alone

def otherKeys (keyOut : Buf UInt32 z.dfastOutputBytes) : Buf UInt32 z.dfastOutputBytes :=
  if keyOut = .zeroed 0 _ then .zeroed 1 _ else .zeroed 0 _

theorem otherKeys_ne (keyOut : Buf UInt32 z.dfastOutputBytes) : otherKeys keyOut ≠ keyOut := by
  unfold otherKeys
  split
  · next hzero =>
    rw [hzero]
    intro h
    have hchars := congrArg Buf.chars h
    have hpos := z.dfastOutputBytes_pos
    obtain ⟨n, hn⟩ := Nat.exists_eq_succ_of_ne_zero hpos.ne'
    simp [hn, List.replicate_succ] at hchars
  · next hne => exact fun h => hne h.symm

def Vendor.accepting : Vendor z Unit where
  setImageWriteProgress _ _ _ s := ⟨mfrErrNone, (), s⟩
  getImageWriteProgress _ _ _ s := ⟨mfrErrNone, 0, s⟩
  deletePDRI s := ⟨mfrErrNone, (), s⟩
  scrubAllBanks s := ⟨mfrErrNone, (), s⟩
  reboot _ s := ⟨mfrErrNone, (), s⟩
  setCableCardType _ s := ⟨mfrErrNone, (), s⟩
  setHostFirmwareInfo _ s := ⟨mfrErrNone, (), s⟩
  getPathConfiguration _ path _ s :=
    ⟨if path = none then mfrErrNone else mfrErrGeneral, (.zeroed 0 _, 0), s⟩
  getDFAST2Data params s := ⟨mfrErrNone, { params with keyOut := otherKeys params.keyOut }, s⟩

theorem accepting_documented : Documented (Vendor.accepting (z := z)) where
  version _ _ _ _ _ _ _ := rfl
  progress _ _ _ _ _ := ⟨rfl, rfl, fun _ => rfl⟩
  path _ _ _ _ _ _ := ⟨rfl, rfl, fun h => absurd h mfrErrGeneral_ne_none⟩

def Env.granted : Env z :=
  ⟨true, true, true, true, ⟨⟨.zeroed 0 _⟩, 0, 0⟩, ⟨.zeroed 0 _, 0, 0, 0⟩, ⟨0, .zeroed 0 _, 0⟩⟩

def Server.init (vendor : σ) : Server σ := ⟨fun _ => false, vendor⟩

/-- Whatever the bus loses, whichever functions the library lacks and whatever is left on the
stack of the client: every call reaches the library at most once, in order, and a success is a
success of the library, with its answer unless it is the keys of DFAST2. -/
theorem remotes_follow (hdoc : Documented vendor) (as : List (Env z × Call z)) (s : Server σ) :
    Follows vendor (as.map Prod.snd) (remotes vendor as s).1 s.vendor
      (remotes vendor as s).2.vendor := by
  induction as generalizing s with
  | nil => exact .nil _
  | cons a as ih =>
    have hrest := ih (remote a.1 vendor a.2 s).2
    cases remote_outcome a.1 hdoc a.2 s with
    | unserved herr hvendor _ =>
      rw [hvendor] at hrest
      exact .unserved herr hrest
    | served htold hvendor _ =>
      rw [hvendor] at hrest
      exact .served htold hrest

def sampleSizes : Sizes := ⟨4, 1, 1, by decide⟩

def sampleCalls : List (Env sampleSizes × Call sampleSizes) :=
  [(.granted, .reboot (some ⟨[97], by decide⟩)),
    ({ Env.granted with answered := false }, .setCableCardType 1),
    (.granted, .getDFAST2Data ⟨.zeroed 0 1, .zeroed 0 1⟩)]

theorem remotes_follow_sampleCalls :
    (remotes .accepting sampleCalls (.init ())).1 =
        [⟨mfrErrNone, .reboot (some ⟨[97], by decide⟩)⟩, ⟨mfrErrGeneral, .setCableCardType 1⟩,
          ⟨mfrErrNone, .getDFAST2Data ⟨.zeroed 0 1, .zeroed 0 1⟩⟩] ∧
      Follows .accepting (sampleCalls.map Prod.snd)
        (remotes .accepting sampleCalls (.init ())).1 () () :=
  ⟨by decide, remotes_follow accepting_documented sampleCalls (.init ())⟩

theorem Call.Carried.placed (h : c.Carried) : c.placed = c := by
  cases c with
  | getPathConfiguration type path len =>
    cases path with
    | none => exact absurd rfl h
    | some path => rfl
  | _ => rfl

theorem Call.Carried.ofDFAST2 (h : c.Carried) (s : σ) :
    (direct vendor c s).1.args.ofDFAST2 = false := by
  cases c with
  | getDFAST2Data params => exact h.elim
  | _ => rfl

theorem remote_same (hdoc : Documented vendor) (hgrants : env.Grants) (hcarried : c.Carried)
    (s : Server σ) :
    Same (direct vendor c s.vendor).1 (remote env vendor c s).1 ∧
      (remote env vendor c s).2.vendor = (direct vendor c s.vendor).2 := by
  cases remote_outcome env hdoc c s with
  | unserved _ _ hlacks => exact absurd ⟨hgrants, hcarried⟩ hlacks
  | served htold hvendor hsuccess =>
    rw [hcarried.placed] at htold hvendor hsuccess
    refine ⟨⟨?_, fun hnone => ?_⟩, hvendor⟩
    · by_cases hnone : (direct vendor c s.vendor).1.err = mfrErrNone
      · rw [if_pos hnone]
        exact hsuccess hgrants hcarried hnone
      · rw [if_neg hnone]
        exact htold.err.resolve_left fun h => hnone (htold.success h).1
    · exact (htold.success (hsuccess hgrants hcarried hnone)).2 (hcarried.ofDFAST2 _)

theorem faithful_of_carried {cs : List (Call z)} (h : ∀ c ∈ cs, c.Carried) : Faithful cs := by
  intro σ vendor hdoc as s hcalls hgrants
  induction as generalizing cs s with
  | nil =>
    subst hcalls
    exact ⟨.nil, rfl⟩
  | cons a as ih =>
    subst hcalls
    obtain ⟨hsame, hvendor⟩ := remote_same hdoc (hgrants a List.mem_cons_self)
      (h a.2 List.mem_cons_self) s
    obtain ⟨hrest, hend⟩ := ih (fun c hc => h c (List.mem_cons_of_mem _ hc))
      (remote a.1 vendor a.2 s).2 rfl fun b hb => hgrants b (List.mem_cons_of_mem _ hb)
    rw [hvendor] at hrest hend
    exact ⟨.cons hsame hrest, hend⟩

theorem copyName_of_unfit (h : ¬ ∃ name ∈ imageName, name.1.length < maxBuf) :
    copyName env imageName = none := by
  cases imageName with
  | none => rfl
  | some name => exact if_neg fun hfits => h ⟨name, rfl, hfits⟩

theorem remote_uncarried (hcarried : ¬ c.Carried) (hother : c.ofDFAST2 = false) (s : Server σ) :
    (remote env vendor c s).1.err = mfrErrGeneral := by
  cases c with
  | setImageWriteProgress imageName imageType progress =>
    simp only [remote, mfrSetImageWriteProgress, copyName_of_unfit hcarried]
  | getImageWriteProgress imageName imageType progress =>
    simp only [remote, mfrGetImageWriteProgress, copyName_of_unfit hcarried]
  | reboot imageName =>
    simp only [remote, mfrReboot, copyName_of_unfit hcarried]
  | setHostFirmwareInfo firmwareInfo =>
    have hrefused : strcpyS env.firmware.version (firmwareInfo.firmwareVersion.str 0) = none := by
      rw [← Option.not_isSome_iff_eq_none, strcpyS_str_isSome _ _ rfl, decide_eq_true_iff]
      exact hcarried
    simp only [remote, mfrSetHostFirmwareInfo, hrefused]
  | getPathConfiguration type path len =>
    obtain rfl := not_not.mp hcarried
    exact givePath_null _ _ _
  | getDFAST2Data params => cases hother
  | _ => exact absurd trivial hcarried

theorem accepting_same {s : Server Unit}
    (h : Same (direct .accepting c ()).1 (remote env .accepting c s).1) :
    c.Carried := by
  by_contra hcarried
  have hnone : (direct .accepting c ()).1.err = mfrErrNone := by
    cases c with
    | getPathConfiguration type path len => rw [not_not.mp hcarried]; rfl
    | _ => rfl
  cases hkeys : c.ofDFAST2 with
  | false =>
    have herr := h.err
    rw [if_pos hnone, remote_uncarried hcarried hkeys] at herr
    exact mfrErrGeneral_ne_none herr
  | true =>
    cases c with
    | getDFAST2Data params =>
      have hagree := h.args hnone
      injection hagree with hparams
      exact otherKeys_ne params.keyOut (congrArg DFAST2Params.keyOut hparams)
    | _ => cases hkeys

theorem same_of_mem {cs : List (Call z)} {u : σ}
    (h : List.Forall₂ Same (calls (direct vendor) cs u).1
      (remotes vendor (cs.map fun c => (env, c)) s).1) (hc : c ∈ cs) :
    ∃ u s, Same (direct vendor c u).1 (remote env vendor c s).1 := by
  induction cs generalizing u s with
  | nil => cases hc
  | cons d cs ih =>
    cases h with
    | cons hsame hrest =>
      cases hc with
      | head => exact ⟨_, _, hsame⟩
      | tail _ hc => exact ih hrest hc

/-- Calls through the server do what they do to the library itself, whichever documented library
it is, exactly if the arguments of each of them get through. -/
theorem remotes_faithful_iff (cs : List (Call z)) : Faithful cs ↔ ∀ c ∈ cs, c.Carried := by
  refine ⟨fun h c hc => ?_, faithful_of_carried⟩
  have hsame := (h Unit .accepting accepting_documented (cs.map fun c => (.granted, c)) (.init ())
    (by simp) (by simp [Env.granted, Env.Grants])).1
  obtain ⟨u, s, hc⟩ := same_of_mem hsame hc
  exact accepting_same hc

end IarmMgrs.MfrMgr.Remote
