import IarmMgrs.DeviceUpdateMgr.Announcements
import IarmMgrs.DeviceUpdateMgr.ConfigFileLaws
import IarmMgrs.DeviceUpdateMgr.RunLaws

namespace IarmMgrs.DeviceUpdateMgr.Announcements

open Lib Lib.CString Lib.Output Lib.Search Lib.Transition
open Config (Globals foldersToWatch)
open ConfigFile (FileSystem loadConfig Writes candidates readable)
open EventData
open JsonParser (Callback Object VarVal)
open Run (World Scan Iterator checkFolder processFiles scanAll scanSelected scan)

variable {safec : Safec} {g : Globals} {w : World} {f : File} {data : Announce}
  {path name : List UInt8} {package : Unpacked}

theorem str_zeroed_write {n : Nat} {s : List UInt8} (hs : 0 ∉ s) (hlen : s.length < n) :
    ((Buf.zeroed 0 n).write s).str 0 = s := by
  have hpos : n - s.length ≠ 0 := by omega
  obtain ⟨k, hk⟩ := Nat.exists_eq_succ_of_ne_zero hpos
  rw [Buf.str, Buf.chars_write (Nat.le_of_lt hlen), Buf.chars_zeroed, List.drop_replicate, hk,
    List.replicate_succ, cstr_append_nul, cstr_eq_self 0 hs]

theorem myData_path (package : Unpacked) (path name : List UInt8) :
    (package.myData path name).deviceImageFilePath.str 0 =
      (cstr 0 path).take (pathLength - 1) := by
  have hnul : 0 ∉ (cstr 0 path).take (pathLength - 1) := fun hmem =>
    nul_notMem_cstr 0 path (List.mem_of_mem_take hmem)
  have hlen : ((cstr 0 path).take (pathLength - 1)).length < pathLength :=
    Nat.lt_of_le_of_lt (List.length_take_le _ _) (Nat.sub_one_lt (by decide))
  simp only [Unpacked.myData]
  exact str_zeroed_write hnul hlen

theorem getEventData_announces
    (h : getEventData safec g.forceUpdate f (package.myData path name) = .ok (true, data)) :
    Versioned f ∧ Announces g path f data := by
  obtain ⟨hlen, htrue⟩ := getEventData_true h
  have hcontents : f.contents.isSome = true := by
    cases hnone : f.contents with
    | none =>
      rw [getEventData, hnone] at h
      exact absurd (Prod.mk.inj (Except.ok.inj h)).1 Bool.false_ne_true
    | some xml => rfl
  obtain ⟨version, type, productName, hversion, htype, hname, rfl⟩ := describe_true htrue
  have hne : version ≠ [] := by
    obtain ⟨text, htext, hrest⟩ := bind_eq_ok_iff.mp htrue
    obtain rfl := Except.ok.inj (htext.symm.trans hversion)
    split_ifs at hrest with hempty
    · cases hrest
    · exact hempty
  have hnul : ∀ {tag text}, getXMLTagText f.text tag = .ok text → 0 ∉ text := fun hok hmem =>
    nul_notMem_cstr 0 _ (getXMLTagText_subset hok hmem)
  have hextracts := (getXMLTagText_iff hlen).mp hversion
  exact ⟨⟨hcontents, version, hextracts, hne⟩,
    { version := ⟨version, hextracts, hne, fun hfits => (strcpyS_fits _ _ (hnul hversion) hfits).2⟩
      type := ⟨type, (getXMLTagText_iff hlen).mp htype, rfl⟩
      name := ⟨productName, (getXMLTagText_iff hlen).mp hname,
        fun hfits => (strcpyS_fits _ _ (hnul hname) hfits).2⟩
      path := myData_path package path name
      forceUpdate := rfl }⟩

theorem getEventData_refused {myData : Announce}
    (h : getEventData safec g.forceUpdate f myData = .ok (false, data)) : ¬ Versioned f := by
  rintro ⟨hcontents, version, hextracts, hne⟩
  obtain ⟨xml, hxml⟩ := Option.isSome_iff_exists.mp hcontents
  obtain ⟨heq, hlen⟩ := contents_some hxml
  rw [← heq] at hextracts
  have hversion := (getXMLTagText_iff hlen).mpr hextracts
  rw [getEventData, hxml] at h
  obtain ⟨text, htext, h⟩ := bind_eq_ok_iff.mp h
  obtain rfl := Except.ok.inj (htext.symm.trans hversion)
  rw [if_neg hne] at h
  obtain ⟨type, -, h⟩ := bind_eq_ok_iff.mp h
  obtain ⟨name, -, h⟩ := map_eq_ok_iff.mp h
  cases h

theorem announceFiles_emits (package : Unpacked) (path : List UInt8) (files : List (List UInt8)) :
    Announced g ((files.filter isXml).map fun name => (path, package.file name))
      (announceFiles safec g.forceUpdate package path files) := by
  induction files with
  | nil => exact .nil
  | cons name files ih =>
    have herror : getEventData safec g.forceUpdate (package.file name)
        (package.myData path name) = .error ⟨⟩ ↔ _ := getEventData_error_iff
    rw [announceFiles]
    by_cases hxml : isXml name = true
    · rw [if_pos hxml, List.filter_cons_of_pos hxml, List.map_cons]
      split
      · next hthrow => exact .bad (herror.mp hthrow)
      · next hrefused =>
        have hgood : ¬ (package.file name).BreaksOff := by
          rw [← herror, hrefused]
          simp
        exact .skip hgood (getEventData_refused hrefused) ih
      · next hdata =>
        have hgood : ¬ (package.file name).BreaksOff := by
          rw [← herror, hdata]
          simp
        obtain ⟨hversioned, hannounces⟩ := getEventData_announces hdata
        exact .keep hgood hversioned hannounces ih
    · rwa [if_neg hxml, List.filter_cons_of_neg hxml]

theorem processDeviceFile_emits (path : List UInt8) :
    Announced g (descriptions w path)
      (processDeviceFile safec g.forceUpdate (w.unpacked path) path) := by
  simp only [processDeviceFile, descriptions]
  cases hmkdir : (w.unpacked path).mkdir with
  | false => exact .nil
  | true =>
    cases htar : (w.unpacked path).tar with
    | false => exact .nil
    | true => exact announceFiles_emits (w.unpacked path) path (w.unpacked path).files

theorem processFiles_emits (calls : List Packages.Call) :
    Announced g (calls.flatMap fun c => descriptions w c.filePath)
      (processFiles safec g w calls) := by
  induction calls with
  | nil => exact .nil
  | cons c calls ih => exact (processDeviceFile_emits c.filePath).andThen ih

theorem processDeviceFolder_eq (updatePath deviceName : List UInt8)
    (listing : Option (List Packages.Dirent)) :
    Packages.processDeviceFolder updatePath deviceName listing =
      .ok (((listing.getD []).filter (·.Taken)).map (·.call updatePath deviceName)) := by
  cases listing with
  | none => rfl
  | some es => exact Packages.checkFiles_eq es

theorem checkFolder_eq (folder : List UInt8) :
    checkFolder safec g w folder =
      processFiles safec g w ((packages g w folder).map (⟨·, folder⟩)) := by
  unfold checkFolder packages
  simp only [processDeviceFolder_eq]
  split
  · rw [List.map_map]
    rfl
  · rfl

theorem checkFolder_emits (folder : List UInt8) :
    Announced g ((packages g w folder).flatMap (descriptions w))
      (checkFolder safec g w folder) := by
  have hfiles : Announced g _ (processFiles safec g w ((packages g w folder).map (⟨·, folder⟩))) :=
    processFiles_emits _
  rwa [← checkFolder_eq, List.flatMap_map] at hfiles

def output (r : Scan) : List Announce × Bool := (r.announced, r.threw)

theorem output_scanAll_cons (folder : VarVal) (folders : Iterator) :
    output (scanAll safec g w (folder :: folders)) =
      andThen (checkFolder safec g w folder.str) (output (scanAll safec g w folders)) := by
  simp only [scanAll, andThen, output]
  cases hthrew : (checkFolder safec g w folder.str).2 with
  | true => simp [Prod.ext_iff, hthrew]
  | false => rfl

theorem scanAll_emits (folders : Iterator) :
    Announced g ((folders.map VarVal.str).flatMap fun folder =>
      (packages g w folder).flatMap (descriptions w)) (output (scanAll safec g w folders)) := by
  induction folders with
  | nil => exact .nil
  | cons folder folders ih =>
    rw [output_scanAll_cons]
    exact (checkFolder_emits folder.str).andThen ih

theorem output_scanSelected (k : Nat) (folders : Iterator) :
    output (scanSelected safec g w k folders) =
      match folders[k]? with
      | some folder => checkFolder safec g w folder.str
      | none => ([], false) := by
  induction folders generalizing k with
  | nil => rfl
  | cons folder folders ih =>
    cases k with
    | zero => rfl
    | succ k =>
      have hpos : ¬ ((k + 1 : Nat) : Int) ≤ 0 := by omega
      have hpred : ((k + 1 : Nat) : Int) - 1 = k := by omega
      rw [scanSelected, if_neg hpos, hpred, ih k, List.getElem?_cons_succ]

theorem scan_selects {folders : List VarVal} {r : Scan} (hone : g.oneAnnouncePerRun = true)
    (hlen : folders.length < 2 ^ 31) (h : scan safec g w folders = some r) :
    output r = match (folders.map VarVal.str)[w.today.mday % folders.length]? with
      | some folder => checkFolder safec g w folder
      | none => ([], false) := by
  have hne : MfrMgr.Crypto.toInt folders.length ≠ 0 := by
    intro hzero
    rw [Run.scan_of_eq_zero hone hzero] at h
    cases h
  rw [Run.scan_of_ne_zero hone hne, Run.toInt_length hlen, Int.natAbs_natCast] at h
  obtain rfl := Option.some.inj h
  rw [output_scanSelected, List.getElem?_map]
  cases folders[w.today.mday % folders.length]? <;> rfl

theorem scan_emits {folders : List VarVal} {r : Scan} (hlen : folders.length < 2 ^ 31)
    (h : scan safec g w folders = some r) :
    Announced g (described g w (folders.map VarVal.str)) (output r) := by
  cases hone : g.oneAnnouncePerRun with
  | false =>
    rw [scan, if_neg (by simp [hone])] at h
    obtain rfl := Option.some.inj h
    simp only [described, watched, hone, Bool.false_eq_true, if_false]
    exact scanAll_emits folders
  | true =>
    have houtput := scan_selects hone hlen h
    simp only [described, watched, hone, if_true, List.length_map]
    rw [houtput]
    cases (folders.map VarVal.str)[w.today.mday % folders.length]? with
    | none => exact .nil
    | some folder =>
      rw [Option.toList_some, List.flatMap_singleton]
      exact checkFolder_emits folder

section Rounds

variable {folders : List VarVal} {s s' : Run.State} {worlds : List World}

theorem round_cases (h : Run.round safec g (some folders) s w = some s') :
    (s.announceCounter = g.delayTillAnnounceTimeMin * 60 ∧
      ∃ r, scan safec g w folders = some r ∧ s'.scans = s.scans ++ [r] ∧
        s'.ended = r.threw ∧ (r.threw = false → s'.announceCounter = s.announceCounter + 1)) ∨
    (s.announceCounter ≠ g.delayTillAnnounceTimeMin * 60 ∧ s'.scans = s.scans ∧
      s'.ended = false ∧ s'.announceCounter = s.announceCounter + 1) := by
  obtain ⟨hended, scanned, hscan, hscans, -⟩ := Run.round_some h
  rw [Run.round, hended, if_neg Bool.false_ne_true, hscan, Option.bind_some] at h
  obtain ⟨announceTime, htime, hscan⟩ := Option.bind_eq_some_iff.mp hscan
  obtain ⟨-, rfl⟩ := CInt.checked_eq_some_iff.mp htime
  split_ifs at hscan with hat
  · obtain ⟨r, hr, rfl⟩ := Option.map_eq_some_iff.mp hscan
    refine .inl ⟨hat, r, hr, hscans, ?_⟩
    cases hthrew : r.threw with
    | true =>
      simp only [Option.any_some, hthrew, if_true] at h
      obtain rfl := Option.some.inj h
      exact ⟨rfl, fun hno => absurd hno.symm Bool.false_ne_true⟩
    | false =>
      simp only [Option.any_some, hthrew, Bool.false_eq_true, if_false] at h
      obtain ⟨announceCounter, hadd, rfl⟩ := Option.map_eq_some_iff.mp h
      exact ⟨rfl, fun _ => (CInt.checked_eq_some_iff.mp hadd).2.symm⟩
  · obtain rfl := Option.some.inj hscan
    simp only [Option.any_none, Bool.false_eq_true, if_false] at h
    obtain ⟨announceCounter, hadd, rfl⟩ := Option.map_eq_some_iff.mp h
    exact .inr ⟨hat, List.append_nil _, rfl, (CInt.checked_eq_some_iff.mp hadd).2.symm⟩

theorem run_behind (hended : s.ended = false)
    (hbehind : g.delayTillAnnounceTimeMin * 60 < s.announceCounter)
    (h : run (Run.round safec g (some folders)) s worlds = some s') :
    s'.scans = s.scans ∧ s'.ended = false := by
  induction worlds generalizing s with
  | nil =>
    obtain rfl := Option.some.inj h
    exact ⟨rfl, hended⟩
  | cons w worlds ih =>
    obtain ⟨s₁, hround, hrun⟩ := run_cons.mp h
    obtain ⟨hat, -⟩ | ⟨-, hscans, hended₁, hcount⟩ := round_cases hround
    · omega
    · obtain ⟨hscans', hended'⟩ := ih hended₁ (by omega) hrun
      exact ⟨hscans'.trans hscans, hended'⟩

/-- The only scan is that of the round in which the time of the announcement comes. -/
theorem run_scanned {k : Nat} (hcounter : s.announceCounter + k = g.delayTillAnnounceTimeMin * 60)
    (hlong : k < worlds.length) (h : run (Run.round safec g (some folders)) s worlds = some s') :
    ∃ w r, worlds[k]? = some w ∧ scan safec g w folders = some r ∧
      s'.scans = s.scans ++ [r] ∧ s'.ended = r.threw := by
  induction worlds generalizing s k with
  | nil => cases hlong
  | cons w worlds ih =>
    obtain ⟨s₁, hround, hrun⟩ := run_cons.mp h
    cases k with
    | zero =>
      obtain ⟨-, r, hr, hscans, hended, hcount⟩ | ⟨hapart, -⟩ := round_cases hround
      · refine ⟨w, r, rfl, hr, ?_⟩
        cases hthrew : r.threw with
        | true =>
          obtain ⟨-, rfl⟩ := Run.run_of_ended (hended.trans hthrew) hrun
          exact ⟨hscans, hended.trans hthrew⟩
        | false =>
          have hbehind := hcount hthrew
          obtain ⟨hscans', hended'⟩ := run_behind (hended.trans hthrew) (by omega) hrun
          exact ⟨hscans'.trans hscans, hended'⟩
      · omega
    | succ k =>
      obtain ⟨hat, -⟩ | ⟨-, hscans, -, hcount⟩ := round_cases hround
      · omega
      · obtain ⟨w', r, hw, hr, hscans', hended'⟩ :=
          ih (k := k) (by omega) (by simpa using hlong) hrun
        exact ⟨w', r, hw, hr, hscans ▸ hscans', hended'⟩

end Rounds

section Main

variable {yajl : List UInt8 → List Callback} {fs : FileSystem} {filePath : ConfigFile.Path}
  {bytes : List UInt8} {o : Object} {folders : List (List UInt8)} {worlds : List World}
  {s : Run.State}

/-- A configuration that is written down in its file is the one that the daemon runs with. -/
theorem main_runs (safec : Safec) (worlds : List World)
    (hfile : candidates.find? fs.fileExists = some filePath)
    (hcontents : fs.contents filePath = some bytes) (hnul : 0 ∉ bytes)
    (hlength : bytes.length ≤ readable) (hyajl : yajl bytes = o.callbacks)
    (hwrites : Writes g folders o) :
    ∃ list, list.map VarVal.str = folders ∧
      main yajl safec fs worlds = run (Run.round safec g (some list)) .init worlds := by
  have hload := ConfigFile.loadConfig_document .init hfile hcontents
    (ConfigFile.reads_whole hnul hlength hyajl)
  obtain ⟨list, hlist, hnames⟩ := Option.map_eq_some_iff.mp hwrites.watched
  obtain ⟨vvs, rfl, hvvs⟩ := Option.map_eq_some_iff.mp hnames
  refine ⟨vvs, hvvs, ?_⟩
  simp only [main, hload, ConfigFile.loadConfig_parse, hwrites.settings, hlist]

/-- With a configuration that is written down in its file, in a run without a division by zero, the
round in which the delay is over announces each description with a version that there is then,
once, in order and as far as it fits, and no other round announces any; the first that breaks off
is the last that is looked at, and ends the daemon, which nothing else does. -/
theorem main_announces (hfile : candidates.find? fs.fileExists = some filePath)
    (hcontents : fs.contents filePath = some bytes) (hnul : 0 ∉ bytes)
    (hlength : bytes.length ≤ readable) (hyajl : yajl bytes = o.callbacks)
    (hwrites : Writes g folders o) (hfolders : folders.length < 2 ^ 31)
    (hdelay : 0 < g.delayTillAnnounceTimeMin)
    (hlong : 60 * g.delayTillAnnounceTimeMin - 10 < worlds.length)
    (hmain : main yajl safec fs worlds = some s) :
    ∃ w, worlds[(60 * g.delayTillAnnounceTimeMin - 10).toNat]? = some w ∧
      Announced g (described g w folders) (s.scans.flatMap Scan.announced, s.ended) := by
  obtain ⟨list, rfl, hrun⟩ := main_runs safec worlds hfile hcontents hnul hlength hyajl
    hwrites
  rw [List.length_map] at hfolders
  obtain ⟨w, r, hw, hscan, hscans, hended⟩ :=
    run_scanned (k := (60 * g.delayTillAnnounceTimeMin - 10).toNat)
      (by simp only [Run.State.init]; omega) (by omega) (hrun.symm.trans hmain)
  refine ⟨w, hw, ?_⟩
  rw [hscans, hended]
  simpa [Run.State.init, output] using scan_emits hfolders hscan

def sampleWorld : World :=
  { World.quiet with
    folderExists := fun _ => true
    listing := fun _ => some [.file (lit "a.tgz") (by decide)]
    unpacked := fun _ => ⟨true, true, [lit "d.xml"], fun _ => description (lit "1") (lit "tv"),
      fun _ => .zeroed⟩ }

theorem description_whole : ¬ (description (lit "1") (lit "tv")).BreaksOff := by
  have hdata : getEventData ⟨id⟩ false (description (lit "1") (lit "tv")) .zeroed =
      .ok (true, .described (lit "1") (lit "tv")) := by decide +kernel
  rw [← getEventData_error_iff, hdata]
  simp

theorem sampleWorld_scans (list : List VarVal) :
    Run.Scans ⟨id⟩ .default (some list) sampleWorld := by
  rintro list' -
  refine ⟨_, rfl, ?_⟩
  have hemits : Announced .default _ (output (scanAll ⟨id⟩ .default sampleWorld list')) :=
    scanAll_emits list'
  rw [← Bool.not_eq_true]
  intro hthrew
  obtain ⟨p, hp, hbroken⟩ := hemits.threw_iff.mp hthrew
  obtain ⟨folder, -, hfolder⟩ := List.mem_flatMap.mp hp
  obtain ⟨path, -, hpath⟩ := List.mem_flatMap.mp hfolder
  obtain ⟨name, -, rfl⟩ := List.mem_map.mp hpath
  exact description_whole hbroken

theorem main_announces_sample :
    ∃ s, main ConfigFile.sampleYajl ⟨id⟩ ConfigFile.sampleFiles
        (List.replicate 591 sampleWorld) = some s ∧
      Announced .default (described .default sampleWorld [lit "XR11v2", lit "XR15"])
        (s.scans.flatMap Scan.announced, s.ended) := by
  obtain ⟨hfile, hcontents⟩ := ConfigFile.sampleFiles_found
  obtain ⟨hlength, hnul⟩ := ConfigFile.sampleText_read
  have hyajl : ConfigFile.sampleYajl ConfigFile.sampleText = ConfigFile.sampleObject.callbacks :=
    if_pos rfl
  obtain ⟨list, -, hruns⟩ := main_runs ⟨id⟩ (List.replicate 591 sampleWorld) hfile hcontents hnul
    hlength hyajl ConfigFile.sampleObject_writes
  have hscans : ∀ w ∈ List.replicate 591 sampleWorld, Run.Scans ⟨id⟩ .default (some list) w :=
    fun w hw => (List.eq_of_mem_replicate hw).symm ▸ sampleWorld_scans list
  obtain ⟨s, hrun, -⟩ := Run.exists_run (s := .init) (by decide) hscans rfl (by decide)
    (by rw [List.length_replicate]; decide)
  have hlong : 60 * Globals.default.delayTillAnnounceTimeMin - 10 <
      (List.replicate 591 sampleWorld).length := by
    rw [List.length_replicate]
    decide
  obtain ⟨w, hw, hannounced⟩ := main_announces hfile hcontents hnul hlength hyajl
    ConfigFile.sampleObject_writes (by decide) (by decide) hlong (hruns.trans hrun)
  obtain rfl := List.eq_of_mem_replicate (List.mem_of_getElem? hw)
  exact ⟨s, hruns.trans hrun, hannounced⟩

end Main

end IarmMgrs.DeviceUpdateMgr.Announcements
