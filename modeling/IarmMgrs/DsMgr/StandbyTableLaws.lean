import IarmMgrs.DsMgr.StandbyTable
import IarmMgrs.DsMgr.AvPortsLaws

namespace IarmMgrs.DsMgr.AvPorts

open Lib Lib.CString Lib.Transition
open PowerEvents (PowerState)

variable {dev : Devices} {table : List StandbyVideoState} {param : StandbyVideoStateParam}
  {name : Name} {s s' : State} {port : PortArray dev} {c : SetCall dev}

def hits (dev : Devices) (name : Name) (e : StandbyVideoState) : Bool :=
  strncasecmpEq name e.port dev.maxNameLength

def isFree (e : StandbyVideoState) : Bool := e.port.isEmpty

def StandbyVideoState.enable (enabled : Bool) (e : StandbyVideoState) : StandbyVideoState :=
  { e with isEnabled := enabled }

theorem updateTable_eq_put (param : StandbyVideoStateParam) (table : List StandbyVideoState) :
    updateTable dev param table =
      Slots.put (hits dev param.port) isFree (.enable (decide (param.isEnabled ≠ 0)))
        ⟨(cstr 0 param.port).take (dev.maxNameLength - 1), decide (param.isEnabled ≠ 0)⟩ table := by
  rw [Slots.put, ← List.findIdx?_isSome]
  cases hhit : table.findIdx? (hits dev param.port) with
  | some i =>
    have hstored : updateTable dev param table =
        table.modify i (.enable (decide (param.isEnabled ≠ 0))) := by
      unfold hits at hhit
      simp only [updateTable, hhit]
      rfl
    rw [hstored, Slots.modify_of_findIdx? hhit]
    rfl
  | none =>
    unfold hits at hhit
    cases hfree : table.findIdx? isFree with
    | some i =>
      have hstored : table.set i ⟨(cstr 0 param.port).take (dev.maxNameLength - 1),
          decide (param.isEnabled ≠ 0)⟩ = _ := Slots.set_of_findIdx? hfree
      unfold isFree at hfree
      simp only [updateTable, hhit, hfree]
      exact hstored
    | none =>
      have hfull : table.any isFree = false := by
        rw [← List.findIdx?_isSome, hfree, Option.isSome_none]
      unfold isFree at hfree
      simp only [updateTable, hhit, hfree]
      exact (Slots.modifyFirst_of_not_any hfull).symm

theorem getVideoPortStandbySetting_eq (dev : Devices) (table : List StandbyVideoState)
    (name : Name) :
    getVideoPortStandbySetting dev table name =
      ((table.find? (hits dev name)).map (·.isEnabled)).getD false := by
  unfold getVideoPortStandbySetting hits
  cases table.find? fun e => strncasecmpEq name e.port dev.maxNameLength <;> rfl

theorem PortArray.length_pos (port : PortArray dev) : 0 < dev.maxNameLength := by
  rw [← port.size]
  refine List.length_pos_iff.mpr fun hchars => ?_
  exact port.nonempty (by rw [hchars]; rfl)

theorem PortArray.name_length (port : PortArray dev) : port.name.length < dev.maxNameLength := by
  rw [← port.size]
  exact cstr_length_lt 0 (by simpa using port.terminated)

theorem hits_congr (hsame : port.Same name) : hits dev port.name = hits dev name :=
  funext fun e => strncasecmpEq_congr hsame e.port

theorem hits_free (port : PortArray dev) {e : StandbyVideoState} (he : isFree e = true) :
    hits dev port.name e = false := by
  rw [hits, List.isEmpty_iff.mp he, PortArray.name, strncasecmpEq_cstr]
  exact strncasecmpEq_nil port.nonempty port.length_pos

theorem SetCall.updateTable_eq_put (c : SetCall dev) (table : List StandbyVideoState) :
    updateTable dev c.param table =
      Slots.put (hits dev c.port.name) isFree (.enable (decide (c.isEnabled ≠ 0)))
        ⟨c.port.name, decide (c.isEnabled ≠ 0)⟩ table := by
  have htake : (cstr 0 c.port.chars).take (dev.maxNameLength - 1) = c.port.name :=
    List.take_of_length_le (Nat.le_sub_one_of_lt c.port.name_length)
  have hhits : hits dev c.port.chars = hits dev c.port.name :=
    funext fun e => (strncasecmpEq_cstr c.port.chars e.port dev.maxNameLength).symm
  rw [AvPorts.updateTable_eq_put]
  simp only [SetCall.param, htake, hhits]
  rfl

theorem hasRoom_iff (table : List StandbyVideoState) (port : PortArray dev) :
    HasRoom dev table port ↔ ∃ e ∈ table, hits dev port.name e = true ∨ isFree e = true := by
  simp [HasRoom, PortArray.Same, hits, isFree]

theorem setting_same (hsame : port.Same c.port.name) (hroom : HasRoom dev table c.port) :
    getVideoPortStandbySetting dev (updateTable dev c.param table) port.name =
      decide (c.isEnabled ≠ 0) := by
  have hstored : (Slots.put (hits dev c.port.name) isFree (.enable (decide (c.isEnabled ≠ 0)))
      ⟨c.port.name, decide (c.isEnabled ≠ 0)⟩ table).find? (hits dev c.port.name) = some _ :=
    Slots.find?_put_self (fun _ h => h) (strncasecmpEq_self ..)
      ((hasRoom_iff table c.port).mp hroom)
  rw [getVideoPortStandbySetting_eq, c.updateTable_eq_put, hits_congr hsame, hstored]
  cases table.find? (hits dev c.port.name) <;> rfl

theorem setting_full (hsame : port.Same c.port.name) (hroom : ¬ HasRoom dev table c.port) :
    getVideoPortStandbySetting dev (updateTable dev c.param table) port.name = false := by
  have hfull : ∀ e ∈ table, hits dev c.port.name e = false ∧ isFree e = false := by
    simpa [hasRoom_iff] using hroom
  rw [c.updateTable_eq_put, Slots.put_full hfull, getVideoPortStandbySetting_eq, hits_congr hsame]
  have hnone : table.find? (hits dev c.port.name) = none :=
    List.find?_eq_none.mpr fun e he => by simp [(hfull e he).1]
  rw [hnone]
  rfl

theorem setting_other (hother : ¬ port.Same c.port.name) :
    getVideoPortStandbySetting dev (updateTable dev c.param table) port.name =
      getVideoPortStandbySetting dev table port.name := by
  have hnew : strncasecmpEq port.name c.port.name dev.maxNameLength = false :=
    Bool.eq_false_iff.mpr hother
  have hmiss (e : StandbyVideoState) (he : hits dev c.port.name e = true) :
      hits dev port.name e = false := by
    rw [hits, strncasecmpEq_comm, ← strncasecmpEq_congr he, strncasecmpEq_comm]
    exact hnew
  have hkept : (Slots.put (hits dev c.port.name) isFree (.enable (decide (c.isEnabled ≠ 0)))
      ⟨c.port.name, decide (c.isEnabled ≠ 0)⟩ table).find? (hits dev port.name) =
        table.find? (hits dev port.name) :=
    Slots.find?_put_other (fun e he => ⟨hmiss e he, hmiss e he⟩) (fun e he => hits_free port he)
      hnew
  rw [getVideoPortStandbySetting_eq, getVideoPortStandbySetting_eq, c.updateTable_eq_put, hkept]

theorem table_setStandbyVideoState (portThrows : Bool) (hnul : param.port.contains 0 = true)
    (s : State) :
    (setStandbyVideoState dev portThrows (some param) s).1.table =
      updateTable dev param s.table := by
  simp only [setStandbyVideoState, hnul, Bool.not_true, Bool.false_eq_true, if_false]
  repeat' split
  all_goals rfl

theorem result_setStandbyVideoState (s : State) (c : SetCall dev) :
    (setStandbyVideoState dev c.portThrows (some c.param) s).2.2 = some 0 ↔ Accepts dev s c := by
  have hnul : c.param.port.contains 0 = true := c.port.terminated
  have hname : cstr 0 c.param.port = c.port.name := rfl
  simp only [setStandbyVideoState, hnul, Bool.not_true, Bool.false_eq_true, if_false, hname,
    Accepts]
  cases dev.videoOutputPort c.port.name with
  | none => simp
  | some vPort => cases isStandby s.curState <;> cases c.portThrows <;> simp

theorem reads_iff (hknown : dev.videoOutputPort port.name ≠ none) (enabled : Bool) :
    Reads dev s port (if enabled then 1 else 0) ↔
      getVideoPortStandbySetting dev s.table port.name = enabled := by
  have hname : cstr 0 port.chars = port.name := rfl
  obtain ⟨vPort, hport⟩ := Option.ne_none_iff_exists'.mp hknown
  simp only [Reads, getStandbyVideoState, port.terminated, Bool.not_true, Bool.false_eq_true,
    if_false, hname, hport]
  cases getVideoPortStandbySetting dev s.table port.name <;> cases enabled <;> simp

theorem Reads.of_setting {value : Int} (h : Reads dev s port value)
    (hkept : getVideoPortStandbySetting dev s'.table port.name =
      getVideoPortStandbySetting dev s.table port.name) : Reads dev s' port value := by
  have hname : cstr 0 port.chars = port.name := rfl
  simpa only [Reads, getStandbyVideoState, hname, hkept] using h

theorem find?_noteCall (s : State) (c : SetCall dev) (calls : List SetRecord)
    (port : PortArray dev) :
    (noteCall dev s c calls).find? (fun r => port.Same r.name) =
      if port.Same c.port.name then some ⟨c.port.name, c.isEnabled,
        (setStandbyVideoState dev c.portThrows (some c.param) s).2.2⟩
      else calls.find? fun r => port.Same r.name := by
  rw [noteCall, List.find?_cons]
  by_cases hsame : port.Same c.port.name <;> simp [hsame]

theorem table_setCall (hstep : setCall dev s c = some s') :
    s'.table = updateTable dev c.param s.table := by
  rw [← Option.some.inj hstep]
  exact table_setStandbyVideoState c.portThrows c.port.terminated s

/-- An accepted setting is read for its port: it is stored, or it is the default anyway. -/
theorem Storable.reads (hstore : Storable dev s c) (haccepts : Accepts dev s c)
    (hstep : setCall dev s c = some s') (hknown : dev.videoOutputPort port.name ≠ none)
    (hsame : port.Same c.port.name) : Reads dev s' port (if c.isEnabled ≠ 0 then 1 else 0) := by
  have hread := (reads_iff (s := s') hknown (decide (c.isEnabled ≠ 0))).mpr
  simp only [decide_eq_true_eq] at hread
  refine hread ?_
  rw [table_setCall hstep]
  by_cases hspace : HasRoom dev s.table c.port
  · exact setting_same hsame hspace
  · have hzero : c.isEnabled = 0 := not_not.mp fun hne => hspace (hstore haccepts hne)
    rw [setting_full hsame hspace, hzero]
    rfl

theorem storable_of_reads (hstep : setCall dev s c = some s')
    (hread : Accepts dev s c → Reads dev s' c.port (if c.isEnabled ≠ 0 then 1 else 0)) :
    Storable dev s c := by
  intro haccepts hne
  by_contra hspace
  have hset := (reads_iff haccepts.1 true).mp (by simpa [hne] using hread haccepts)
  rw [table_setCall hstep, setting_full (strncasecmpEq_self ..) hspace] at hset
  cases hset

/-- One call keeps what is read in line with the calls made exactly if its setting can be
stored. -/
theorem remembers_step {calls : List SetRecord} {o' : State × List SetRecord}
    (hs : Remembers dev (s, calls))
    (hstep : observed (setCall dev) (noteCall dev) (s, calls) c = some o') :
    Storable dev s c ↔ Remembers dev o' := by
  obtain ⟨hstate, hcalls⟩ := observed_some.mp hstep
  constructor
  · intro hstore port hknown
    rw [hcalls, find?_noteCall]
    by_cases hsame : port.Same c.port.name
    · simp only [if_pos hsame]
      rw [result_setStandbyVideoState]
      exact fun haccepts => hstore.reads haccepts hstate hknown hsame
    · -- Another port reads what it did before.
      simp only [if_neg hsame]
      have hbefore := hs port hknown
      have hkept : getVideoPortStandbySetting dev o'.1.table port.name =
          getVideoPortStandbySetting dev s.table port.name := by
        rw [table_setCall hstate]
        exact setting_other hsame
      cases hlast : calls.find? fun r => port.Same r.name with
      | none =>
        simp only [hlast] at hbefore
        exact hbefore.of_setting hkept
      | some r =>
        simp only [hlast] at hbefore
        exact fun hresult => (hbefore hresult).of_setting hkept
  · intro hremembers
    refine storable_of_reads hstate fun haccepts => ?_
    have hsame : c.port.Same c.port.name := strncasecmpEq_self ..
    have hread := hremembers c.port haccepts.1
    rw [hcalls, find?_noteCall, if_pos hsame] at hread
    exact hread ((result_setStandbyVideoState s c).mpr haccepts)

/-- Along calls that find room for what they store, and along no others, every known port
reads the setting of the last call for it that reported 0. -/
theorem standbyTable_remembers_iff (s : State)
    (htable : s.table = List.replicate maxNumVideoPorts ⟨[], false⟩) (cs : List (SetCall dev))
    (o : State × List SetRecord)
    (hrun : run (observed (setCall dev) (noteCall dev)) (s, []) cs = some o) :
    Along (observed (setCall dev) (noteCall dev)) (fun o c => Storable dev o.1 c) (s, []) cs ↔
      ∀ pre o', pre <+: cs → run (observed (setCall dev) (noteCall dev)) (s, []) pre = some o' →
        Remembers dev o' := by
  refine along_iff (fun _ => True) (Remembers dev) (fun _ _ _ _ _ _ => trivial)
    (fun o c o' _ ho hstep => remembers_step ho hstep) trivial ?_ hrun
  intro port hknown
  have hnone : s.table.find? (hits dev port.name) = none := by
    rw [htable]
    refine List.find?_eq_none.mpr fun e he => ?_
    obtain ⟨-, rfl⟩ := List.mem_replicate.mp he
    rw [hits_free port rfl]
    decide
  refine (reads_iff hknown false).mpr ?_
  rw [getVideoPortStandbySetting_eq, hnone]
  rfl

def letterPort (c : UInt8) (hc : c ≠ 0) : PortArray hdmiBox where
  chars := c :: List.replicate 15 0
  size := rfl
  terminated := by simp
  nonempty := by simp [cstr, hc]

def hdmiPortArray : PortArray hdmiBox where
  chars := lit "HDMI0" ++ List.replicate 11 0
  size := rfl
  terminated := by decide
  nonempty := by decide

def letterCall (c : UInt8) (hc : c ≠ 0) : SetCall hdmiBox := ⟨letterPort c hc, 1, false⟩

def hdmiCall (isEnabled : Int) : SetCall hdmiBox := ⟨hdmiPortArray, isEnabled, false⟩

def fillingCalls : List (SetCall hdmiBox) :=
  [letterCall 65 (by decide), letterCall 66 (by decide), letterCall 67 (by decide),
    letterCall 68 (by decide), letterCall 69 (by decide), hdmiCall 1]

theorem standbyTable_forgets : ¬ ∀ (dev : Devices) (s : State),
    s.table = List.replicate maxNumVideoPorts ⟨[], false⟩ → ∀ (cs : List (SetCall dev)) o,
      run (observed (setCall dev) (noteCall dev)) (s, []) cs = some o → Remembers dev o := by
  intro hall
  have hread := hall hdmiBox (State.initial darkPorts) rfl fillingCalls _ rfl hdmiPortArray
    (by decide)
  have hset := (reads_iff (by decide) true).mp (hread rfl)
  exact absurd hset (by decide)

theorem standbyTable_remembers_iff_hdmi : ∃ o,
    run (observed (setCall hdmiBox) (noteCall hdmiBox)) (State.initial darkPorts, [])
      [letterCall 65 (by decide), hdmiCall 1] = some o ∧ Remembers hdmiBox o := by
  refine ⟨_, rfl, ?_⟩
  refine (standbyTable_remembers_iff (State.initial darkPorts) rfl
    [letterCall 65 (by decide), hdmiCall 1] _ rfl).mp ?_ _ _ (List.prefix_refl _) rfl
  refine ⟨fun _ _ => by decide, fun o ho => ⟨fun _ _ => ?_, fun _ _ => trivial⟩⟩
  obtain rfl := Option.some.inj ho
  decide

theorem terminated_of_result {portThrows : Bool} {result : Int}
    (h : (setStandbyVideoState dev portThrows (some param) s).2.2 = some result) :
    param.port.contains 0 = true := by
  by_contra hnul
  simp only [setStandbyVideoState, Bool.eq_false_iff.mpr hnul, Bool.not_false, if_true] at h
  cases h

theorem updateTable_eq_self_iff (hsize : param.port.length = dev.maxNameLength)
    (hnul : param.port.contains 0 = true) :
    updateTable dev param table = table ↔ Redundant dev table param := by
  have hlen := cstr_length_lt 0 (s := param.port) (by simpa using hnul)
  have hnew : ∀ e ∈ table, hits dev param.port e = false → isFree e = true →
      e ≠ ⟨(cstr 0 param.port).take (dev.maxNameLength - 1), decide (param.isEnabled ≠ 0)⟩ := by
    rintro e - hmiss hfree rfl
    -- The empty name hits a free entry, and any other one is stored as it is.
    have hname : cstr 0 param.port = [] := by
      rw [← hsize] at hfree
      refine List.eq_nil_of_length_eq_zero ?_
      have htake := congrArg List.length (List.isEmpty_iff.mp hfree)
      rw [List.length_take, List.length_nil] at htake
      omega
    simp [hits, strncasecmpEq, hname, cstr] at hmiss
  rw [updateTable_eq_put, Slots.put_eq_self_iff hnew, Redundant]
  cases hfind : table.find? (hits dev param.port) with
  | some e =>
    have hmem : e ∈ table := List.mem_of_find?_eq_some hfind
    have hhit : hits dev param.port e = true := List.find?_some hfind
    have hnotall : ¬ ∀ e ∈ table, hits dev param.port e = false := fun hmiss => by
      rw [hmiss e hmem] at hhit
      cases hhit
    unfold hits at hfind
    simp only [hfind, Option.some.injEq, forall_eq', hnotall, false_implies, and_true]
    cases e
    simp [StandbyVideoState.enable, eq_comm]
  | none =>
    have hmiss : ∀ e ∈ table, hits dev param.port e = false := by
      simpa using List.find?_eq_none.mp hfind
    unfold hits at hfind
    simp only [hfind, reduceCtorEq, false_implies, implies_true, true_and]
    rw [forall_prop_of_true hmiss]
    simp [isFree]

/-- A rejected call leaves the table alone exactly if it has nothing to write. -/
theorem rejected_leaves_table_iff (portThrows : Bool) (s : State)
    (hsize : param.port.length = dev.maxNameLength)
    (hrejected : (setStandbyVideoState dev portThrows (some param) s).2.2 = some (-1)) :
    (setStandbyVideoState dev portThrows (some param) s).1.table = s.table ↔
      Redundant dev s.table param := by
  have hnul := terminated_of_result hrejected
  rw [table_setStandbyVideoState portThrows hnul]
  exact updateTable_eq_self_iff hsize hnul

theorem rejected_takes_slot :
    (setStandbyVideoState hdmiBox false (some (letterCall 65 (by decide)).param)
      (State.initial darkPorts)).2.2 = some (-1) ∧
    (setStandbyVideoState hdmiBox false (some (letterCall 65 (by decide)).param)
      (State.initial darkPorts)).1.table ≠ (State.initial darkPorts).table := by
  decide

theorem rejected_leaves_table_iff_letter :
    ¬ Redundant hdmiBox (State.initial darkPorts).table (letterCall 65 (by decide)).param := by
  intro hredundant
  exact absurd ((rejected_leaves_table_iff false (State.initial darkPorts) rfl
    (by decide)).mpr hredundant) (by decide)

theorem standbySetting_lookup (hdev : dev.Lookup) {vPort : Port}
    (hknown : dev.videoOutputPort name = some vPort) :
    standbySetting dev table vPort = getVideoPortStandbySetting dev table name := by
  rw [standbySetting, hdev.named name vPort hknown]

theorem fromOn_standbySetting {out : Outcomes} (h : out.Succeed) (isEAS : Bool)
    {powerState : PowerState} (hstandby : isStandby powerState = true) {vPort : Port}
    (hport : vPort ∈ dev.videoPorts) (ports : PortStatus) :
    (setAVPortsPowerState dev table out isEAS powerState
      (setAVPortsPowerState dev table out isEAS .on ports)).videoEnabled vPort =
        standbySetting dev table vPort := by
  have hstate : powerState ≠ .on ∧ powerState ≠ .off := by simpa [isStandby] using hstandby
  rw [setAVPortsPowerState_video h, setAVPortsPowerState_video h, if_pos hport, if_pos hport,
    if_neg hstate.1, if_neg hstate.2, if_pos rfl, Bool.and_true]

/-- A setting applied at once in a standby state agrees with what is stored, and so with
what the transition into that state would do, exactly if it is 0 or 1. -/
theorem standby_paths_agree_iff (hdev : dev.Lookup) (c : SetCall dev) (s : State) {vPort : Port}
    (hknown : dev.videoOutputPort c.port.name = some vPort)
    (hroom : HasRoom dev s.table c.port) (hstandby : isStandby s.curState = true)
    (hthrows : c.portThrows = false) :
    let s' := (setStandbyVideoState dev c.portThrows (some c.param) s).1
    (s'.ports.videoEnabled vPort = getVideoPortStandbySetting dev s'.table c.port.name ∧
      ∀ out isEAS ports, out.Succeed → s'.ports.videoEnabled vPort =
        (setAVPortsPowerState dev s'.table out isEAS s.curState
          (setAVPortsPowerState dev s'.table out isEAS .on ports)).videoEnabled vPort) ↔
    c.isEnabled = 0 ∨ c.isEnabled = 1 := by
  intro s'
  have hnul : c.param.port.contains 0 = true := c.port.terminated
  have hname : cstr 0 c.param.port = c.port.name := rfl
  have htable : s'.table = updateTable dev c.param s.table :=
    table_setStandbyVideoState c.portThrows hnul s
  have hport : s'.ports.videoEnabled vPort = decide (c.isEnabled = 1) := by
    simp only [s', setStandbyVideoState, hnul, hname, hknown, hstandby, hthrows, Bool.not_true,
      Bool.false_eq_true, if_false, if_true, Function.update_self]
    rfl
  have hsetting : getVideoPortStandbySetting dev s'.table c.port.name =
      decide (c.isEnabled ≠ 0) := by
    rw [htable]
    exact setting_same (strncasecmpEq_self ..) hroom
  have hdeferred {out : Outcomes} (h : out.Succeed) (isEAS : Bool) (ports : PortStatus) :
      (setAVPortsPowerState dev s'.table out isEAS s.curState
        (setAVPortsPowerState dev s'.table out isEAS .on ports)).videoEnabled vPort =
          decide (c.isEnabled ≠ 0) := by
    rw [fromOn_standbySetting h isEAS hstandby (hdev.listed c.port.name vPort hknown),
      standbySetting_lookup hdev hknown, hsetting]
  have hagree : decide (c.isEnabled = 1) = decide (c.isEnabled ≠ 0) ↔
      c.isEnabled = 0 ∨ c.isEnabled = 1 := by
    rw [decide_eq_decide]
    omega
  rw [hport, hsetting, ← hagree]
  exact and_iff_left_of_imp fun heq out isEAS ports h => heq.trans (hdeferred h isEAS ports).symm

theorem hdmiBox_lookup : hdmiBox.Lookup where
  listed name port h := by
    obtain ⟨-, hport⟩ := Option.ite_none_right_eq_some.mp h
    obtain rfl := Option.some.inj hport
    exact List.mem_singleton_self _
  named name port h := by
    obtain ⟨hname, -⟩ := Option.ite_none_right_eq_some.mp h
    exact hname.symm

def inStandby : State := { State.initial darkPorts with curState := .standby }

theorem standby_paths_disagree :
    isStandby inStandby.curState = true ∧ HasRoom hdmiBox inStandby.table hdmiPortArray ∧
      hdmiBox.videoOutputPort hdmiPortArray.name = some hdmiPort ∧
      (setStandbyVideoState hdmiBox false (some (hdmiCall 2).param) inStandby).1.ports.videoEnabled
        hdmiPort = false ∧
      getVideoPortStandbySetting hdmiBox
        (setStandbyVideoState hdmiBox false (some (hdmiCall 2).param) inStandby).1.table
        hdmiPortArray.name = true := by
  decide

theorem standby_paths_agree_iff_hdmi :
    (setStandbyVideoState hdmiBox false (some (hdmiCall 1).param) inStandby).1.ports.videoEnabled
        hdmiPort =
      getVideoPortStandbySetting hdmiBox
        (setStandbyVideoState hdmiBox false (some (hdmiCall 1).param) inStandby).1.table
        hdmiPortArray.name :=
  ((standby_paths_agree_iff hdmiBox_lookup (hdmiCall 1) inStandby (by decide) (by decide)
    (by decide) rfl).mpr (.inr rfl)).1

end IarmMgrs.DsMgr.AvPorts
