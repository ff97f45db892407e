import IarmMgrs.DeviceUpdateMgr.Run
import IarmMgrs.MfrMgr.CryptoLaws

namespace IarmMgrs.DeviceUpdateMgr.Run

open Lib Lib.CString Lib.CInt Lib.Transition
open JsonParser (VarVal Object parse)
open EventData (Safec)
open MfrMgr.Crypto (toInt)
open Config (Globals)

variable {safec : Safec} {g : Globals} {w : World} {folders : List VarVal}

theorem scanSelected_considered (k : Nat) (folders : Iterator) :
    (scanSelected safec g w k folders).considered =
      if k < folders.length then [folders.drop k] else [] := by
  induction folders generalizing k with
  | nil => simp [scanSelected]
  | cons folder folders ih =>
    cases k with
    | zero => simp [scanSelected]
    | succ k =>
      have hpos : ¬ ((k + 1 : Nat) : Int) ≤ 0 := by omega
      have hpred : ((k + 1 : Nat) : Int) - 1 = k := by omega
      rw [scanSelected, if_neg hpos, hpred, ih k]
      simp

/-- Exactly the folder at the index of the day is considered, and nothing is divided by zero. -/
def OneAnnounce (safec : Safec) (g : Globals) (w : World) (folders : List VarVal) : Prop :=
  ∃ r, scan safec g w folders = some r ∧
    r.considered = if folders = [] then [] else [folders.drop (w.today.mday % folders.length)]

theorem Day.inRange (d : Day) : InRange d.mday := by
  have hle := d.le
  simp only [InRange, intMin, intMax]
  omega

theorem scan_of_ne_zero (hone : g.oneAnnouncePerRun = true) (hne : toInt folders.length ≠ 0) :
    scan safec g w folders = some (scanSelected safec g w
      ((w.today.mday % (toInt folders.length).natAbs : Nat) : Int) folders) := by
  rw [scan, if_pos hone, rem_natCast w.today.inRange hne, Option.map_some]

theorem scan_of_eq_zero (hone : g.oneAnnouncePerRun = true) (hzero : toInt folders.length = 0) :
    scan safec g w folders = none := by
  rw [scan, if_pos hone, hzero, rem_zero, Option.map_none]

theorem drop_inj {i j : Nat} (hi : i < folders.length) (hj : j < folders.length) :
    folders.drop i = folders.drop j ↔ i = j := by
  refine ⟨fun h => ?_, fun h => h ▸ rfl⟩
  have hlen := congrArg List.length h
  rw [List.length_drop, List.length_drop] at hlen
  omega

theorem not_oneAnnounce (hone : g.oneAnnouncePerRun = true) (hzero : toInt folders.length = 0) :
    ¬ OneAnnounce safec g w folders := by
  rintro ⟨r, hr, -⟩
  rw [scan_of_eq_zero hone hzero] at hr
  cases hr

theorem toInt_length (h : folders.length < 2 ^ 31) : toInt folders.length = folders.length := by
  refine MfrMgr.Crypto.toInt_of_le ?_
  simp only [MfrMgr.Crypto.intMax]
  omega

theorem selected_lt (w : World) (hpos : 0 < folders.length) :
    w.today.mday % (toInt folders.length).natAbs < folders.length := by
  have hday := w.today.le
  obtain hlt | hge := Nat.lt_or_ge folders.length (2 ^ 31)
  · rw [toInt_length hlt, Int.natAbs_natCast]
    exact Nat.mod_lt _ hpos
  · have hmod := Nat.mod_le w.today.mday (toInt folders.length).natAbs
    omega

theorem oneAnnounce_iff_mod (hone : g.oneAnnouncePerRun = true)
    (hne : toInt folders.length ≠ 0) (hnil : folders ≠ []) : OneAnnounce safec g w folders ↔
      w.today.mday % (toInt folders.length).natAbs = w.today.mday % folders.length := by
  have hpos := List.length_pos_iff.mpr hnil
  have hsmall := selected_lt w hpos
  have hconsidered : (scanSelected safec g w
      ((w.today.mday % (toInt folders.length).natAbs : Nat) : Int) folders).considered = _ :=
    scanSelected_considered _ folders
  rw [if_pos hsmall] at hconsidered
  rw [← drop_inj hsmall (Nat.mod_lt _ hpos), OneAnnounce, scan_of_ne_zero hone hne, if_neg hnil]
  simp only [Option.some.injEq, exists_eq_left', hconsidered, List.cons.injEq, and_true]

/-- A scan announces as it should exactly if there are folders, and their number is not lost in
the `int`. -/
theorem oneAnnounce_iff (safec : Safec) (g : Globals) (w : World) (folders : List VarVal)
    (h : g.oneAnnouncePerRun = true) :
    OneAnnounce safec g w folders ↔ folders ≠ [] ∧
      (folders.length < 2 ^ 31 ∨ w.today.mday < (toInt folders.length).natAbs) := by
  have hday := w.today.le
  by_cases hnil : folders = []
  · have hzero : toInt folders.length = 0 := by rw [hnil]; decide
    exact iff_of_false (not_oneAnnounce h hzero) fun hright => hright.1 hnil
  have hpos := List.length_pos_iff.mpr hnil
  rw [and_iff_right hnil]
  by_cases hzero : toInt folders.length = 0
  · refine iff_of_false (not_oneAnnounce h hzero) ?_
    rintro (hlt | hlt)
    · have hlength := toInt_length hlt
      omega
    · omega
  rw [oneAnnounce_iff_mod h hzero hnil]
  obtain hlt | hge := Nat.lt_or_ge folders.length (2 ^ 31)
  · exact iff_of_true (by rw [toInt_length hlt, Int.natAbs_natCast]) (.inl hlt)
  · have hself : w.today.mday % folders.length = w.today.mday := Nat.mod_eq_of_lt (by omega)
    rw [hself, Nat.mod_eq_iff_lt (Int.natAbs_ne_zero.mpr hzero)]
    exact ⟨.inr, fun hright => hright.resolve_left (Nat.not_lt.mpr hge)⟩

def World.quiet : World where
  today := ⟨1, by decide, by decide⟩
  folderExists _ := false
  listing _ := none
  unpacked _ := ⟨false, false, [], fun _ => ⟨[], false, false, false, false⟩,
    fun _ => ⟨Buf.zeroed 0 _, Buf.zeroed 0 _, 0, Buf.zeroed 0 _, false⟩⟩

def configOf (o : Object) : Globals := Config.loadConfig (parse o).dict .default

def noFolders : Object :=
  [(lit "oneAnnouncePerRun", .string (lit "true")),
    (lit "deviceFoldersToWatch", .array [])]

theorem noFolders_divides_by_zero :
    Config.foldersToWatch (parse noFolders) = some (some []) ∧
      (configOf noFolders).oneAnnouncePerRun = true ∧
      ¬ OneAnnounce ⟨id⟩ (configOf noFolders) .quiet [] := by
  have hone : (configOf noFolders).oneAnnouncePerRun = true := by decide
  exact ⟨by decide, hone, not_oneAnnounce hone (by decide)⟩

def threeFolders : List VarVal :=
  [{ VarVal.new with str := lit "XR11v2" }, { VarVal.new with str := lit "XR15" },
    { VarVal.new with str := lit "XR19" }]

theorem oneAnnounce_iff_threeFolders :
    OneAnnounce ⟨id⟩ { Globals.default with oneAnnouncePerRun := true }
      { World.quiet with today := ⟨5, by decide, by decide⟩ } threeFolders :=
  (oneAnnounce_iff ⟨id⟩ { Globals.default with oneAnnouncePerRun := true }
    { World.quiet with today := ⟨5, by decide, by decide⟩ } threeFolders rfl).mpr
      ⟨by decide, .inl (by decide)⟩

section Timer

variable {folders : Option (List VarVal)} {s s' : State} {scanned : Option Scan}
  {worlds : List World}

theorem roundScan_some (h : roundScan safec g folders s w = some scanned) :
    scanned.isSome = true ↔
      s.announceCounter = g.delayTillAnnounceTimeMin * 60 ∧ folders.isSome = true := by
  obtain ⟨announceTime, htime, h⟩ := Option.bind_eq_some_iff.mp h
  obtain ⟨-, rfl⟩ := checked_eq_some_iff.mp htime
  split_ifs at h with heq
  · rw [and_iff_right heq]
    cases folders with
    | none =>
      obtain rfl := Option.some.inj h
      exact Iff.rfl
    | some folders =>
      obtain ⟨r, -, rfl⟩ := Option.map_eq_some_iff.mp h
      simp
  · obtain rfl := Option.some.inj h
    exact iff_of_false (by simp) fun hleft => heq hleft.1

theorem round_some (h : round safec g folders s w = some s') :
    s.ended = false ∧ ∃ scanned, roundScan safec g folders s w = some scanned ∧
      s'.scans = s.scans ++ scanned.toList ∧
      (s'.ended = true ∧ scanned.isSome = true ∨
        s'.ended = false ∧ s'.announceCounter = s.announceCounter + 1) := by
  unfold round at h
  split at h
  · cases h
  · next hended =>
    rw [Bool.not_eq_true] at hended
    obtain ⟨scanned, hscan, h⟩ := Option.bind_eq_some_iff.mp h
    refine ⟨hended, scanned, hscan, ?_⟩
    simp only at h
    split at h
    · next hthrew =>
      obtain rfl := Option.some.inj h
      refine ⟨rfl, .inl ⟨rfl, ?_⟩⟩
      cases scanned with
      | none => cases hthrew
      | some r => rfl
    · obtain ⟨announceCounter, hadd, rfl⟩ := Option.map_eq_some_iff.mp h
      exact ⟨rfl, .inr ⟨hended, (checked_eq_some_iff.mp hadd).2.symm⟩⟩

def Passes (announceTime announceCounter : Int) (rounds : Nat) : Prop :=
  announceCounter ≤ announceTime ∧ announceTime < announceCounter + rounds

instance (announceTime announceCounter : Int) (rounds : Nat) :
    Decidable (Passes announceTime announceCounter rounds) := inferInstanceAs (Decidable (_ ∧ _))

theorem passes_zero (announceTime announceCounter : Int) :
    ¬ Passes announceTime announceCounter 0 := by
  simp only [Passes]
  omega

theorem passes_succ (announceTime announceCounter : Int) (rounds : Nat) :
    Passes announceTime announceCounter (rounds + 1) ↔
      announceCounter = announceTime ∨ Passes announceTime (announceCounter + 1) rounds := by
  simp only [Passes]
  omega

theorem not_passes_behind (announceTime : Int) (rounds : Nat) :
    ¬ Passes announceTime (announceTime + 1) rounds := by
  simp only [Passes]
  omega

theorem run_of_ended (hended : s.ended = true)
    (h : run (round safec g folders) s worlds = some s') : worlds = [] ∧ s' = s := by
  cases worlds with
  | nil => exact ⟨rfl, (Option.some.inj h).symm⟩
  | cons w worlds =>
    obtain ⟨s₁, hround, -⟩ := run_cons.mp h
    rw [(round_some hround).1] at hended
    cases hended

theorem run_scans (hended : s.ended = false)
    (h : run (round safec g folders) s worlds = some s') :
    s'.scans.length = s.scans.length +
      if Passes (g.delayTillAnnounceTimeMin * 60) s.announceCounter worlds.length ∧
        folders.isSome = true then 1 else 0 := by
  induction worlds generalizing s with
  | nil =>
    obtain rfl := Option.some.inj h
    rw [if_neg fun hpasses => passes_zero _ _ hpasses.1, Nat.add_zero]
  | cons w worlds ih =>
    obtain ⟨s₁, hround, hrun⟩ := run_cons.mp h
    obtain ⟨-, scanned, hscan, hscans, hnext⟩ := round_some hround
    have hiff := roundScan_some hscan
    simp only [List.length_cons, passes_succ]
    obtain ⟨hended₁, hsome⟩ | ⟨hopen, hcount⟩ := hnext
    · obtain ⟨rfl, rfl⟩ := run_of_ended hended₁ hrun
      obtain ⟨r, rfl⟩ := Option.isSome_iff_exists.mp hsome
      obtain ⟨htime, hfolders⟩ := hiff.mp rfl
      rw [if_pos ⟨.inl htime, hfolders⟩, hscans]
      simp
    · rw [ih hopen hrun, hcount, hscans]
      cases scanned with
      | none =>
        have hnot : ¬ (s.announceCounter = g.delayTillAnnounceTimeMin * 60 ∧
            folders.isSome = true) := fun hright => nomatch hiff.mpr hright
        simp only [or_and_right, or_iff_right hnot]
        simp
      | some r =>
        obtain ⟨htime, hfolders⟩ := hiff.mp rfl
        simp [htime, hfolders, not_passes_behind]

def Scans (safec : Safec) (g : Globals) (folders : Option (List VarVal)) (w : World) : Prop :=
  ∀ l, folders = some l → ∃ r, scan safec g w l = some r ∧ r.threw = false

theorem roundScan_defined (htime : InRange (g.delayTillAnnounceTimeMin * 60))
    (hscan : Scans safec g folders w) :
    ∃ scanned, roundScan safec g folders s w = some scanned ∧
      scanned.any Scan.threw = false := by
  unfold roundScan
  rw [CInt.mul, checked_of_inRange htime, Option.bind_some]
  split
  · cases folders with
    | none => exact ⟨none, rfl, rfl⟩
    | some l =>
      obtain ⟨r, hr, hthrew⟩ := hscan l rfl
      exact ⟨some r, by simp [hr], hthrew⟩
  · exact ⟨none, rfl, rfl⟩

/-- There is a run for as long as the counter fits its `int`. -/
theorem exists_run (htime : InRange (g.delayTillAnnounceTimeMin * 60))
    (hscan : ∀ w ∈ worlds, Scans safec g folders w) (hended : s.ended = false)
    (hfrom : intMin ≤ s.announceCounter)
    (hto : s.announceCounter + worlds.length ≤ intMax) :
    ∃ s', run (round safec g folders) s worlds = some s' ∧ s'.ended = false := by
  induction worlds generalizing s with
  | nil => exact ⟨s, rfl, hended⟩
  | cons w worlds ih =>
    obtain ⟨hw, hworlds⟩ := List.forall_mem_cons.mp hscan
    obtain ⟨scanned, hscanned, hthrew⟩ := roundScan_defined (s := s) htime hw
    rw [List.length_cons] at hto
    have hadd : CInt.add s.announceCounter 1 = some (s.announceCounter + 1) :=
      checked_of_inRange ⟨by omega, by omega⟩
    let next : State :=
      { s with announceCounter := s.announceCounter + 1, scans := s.scans ++ scanned.toList }
    have hround : round safec g folders s w = some next := by
      simp [round, hended, hscanned, hthrew, hadd, next]
    obtain ⟨s', hrun, hended'⟩ :=
      ih (s := next) hworlds hended (by simp only [next]; omega) (by simp only [next]; omega)
    exact ⟨s', run_cons.mpr ⟨_, hround, hrun⟩, hended'⟩

/-- Whatever the delay, a run that is longer than it scans exactly once, but for a delay of zero,
which lies behind the counter's start, and for a configuration without a list. -/
theorem announce_once_iff (safec : Safec) (g : Globals) (folders : Option (List VarVal))
    (worlds : List World) (s : State) (hdelay : 0 ≤ g.delayTillAnnounceTimeMin)
    (hlong : max 0 (60 * g.delayTillAnnounceTimeMin - 10) < worlds.length)
    (h : run (round safec g folders) .init worlds = some s) :
    s.scans.length = 1 ↔ g.delayTillAnnounceTimeMin ≠ 0 ∧ folders.isSome = true := by
  rw [run_scans rfl h]
  have hpasses : Passes (g.delayTillAnnounceTimeMin * 60) 10 worlds.length ↔
      g.delayTillAnnounceTimeMin ≠ 0 := by
    simp only [Passes]
    omega
  simp only [State.init, hpasses, List.length_nil, Nat.zero_add]
  split
  · next hboth => exact iff_of_true rfl hboth
  · next hboth => exact iff_of_false (by decide) hboth

def noDelay : Object :=
  [(lit "delayTillAnnounceTimeMin", .string (lit "0")),
    (lit "deviceFoldersToWatch", .array [.string (lit "XR15")])]

theorem noDelay_never_scans :
    Config.foldersToWatch (parse noDelay) = some (some [{ VarVal.new with str := lit "XR15" }]) ∧
      (configOf noDelay).delayTillAnnounceTimeMin = 0 ∧
      ∃ s, run (round ⟨id⟩ (configOf noDelay)
        (some [{ VarVal.new with str := lit "XR15" }])) .init [.quiet] = some s ∧
        s.scans.length ≠ 1 := by
  refine ⟨by decide, by decide, ⟨11, false, []⟩, rfl, by decide⟩

def everyMinute : Globals := { Globals.default with delayTillAnnounceTimeMin := 1 }

theorem announce_once_iff_minute :
    ∃ s, run (round ⟨id⟩ everyMinute (some [.new])) .init (List.replicate 51 .quiet) = some s ∧
      s.scans.length = 1 := by
  have hscan : ∀ w ∈ List.replicate 51 World.quiet,
      Scans ⟨id⟩ everyMinute (some [.new]) w := fun w hw l hl => by
    obtain rfl := List.eq_of_mem_replicate hw
    obtain rfl := Option.some.inj hl
    exact ⟨_, rfl, rfl⟩
  obtain ⟨s, hrun, -⟩ := exists_run (s := .init) (by decide) hscan rfl (by decide) (by decide)
  exact ⟨s, hrun, (announce_once_iff ⟨id⟩ everyMinute _ _ s (by decide) (by decide) hrun).mpr
    ⟨by decide, rfl⟩⟩

end Timer

end IarmMgrs.DeviceUpdateMgr.Run
