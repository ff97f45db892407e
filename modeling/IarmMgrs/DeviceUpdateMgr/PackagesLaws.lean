import IarmMgrs.DeviceUpdateMgr.Packages

namespace IarmMgrs.DeviceUpdateMgr.Packages

open Lib.CString Lib.Search

variable {filename stem ext updatePath deviceName : List UInt8} {idx : Nat} {e : Dirent}
  {es before after : List Dirent}

theorem Dirent.filename_length (e : Dirent) : e.filename.length < 256 :=
  Buf.str_length_lt 0 e.terminated

theorem storedIdx_none : storedIdx none = 2 ^ 32 - 1 := by decide

theorem storedIdx_some (h : idx < 2 ^ 32) : storedIdx (some idx) = idx := Nat.mod_eq_of_lt h

/-- `npos` does not fit the `unsigned int`, so that no search looks as if it had failed. -/
theorem storedIdx_ne_npos (position : Option Nat) : storedIdx position ≠ npos :=
  Nat.ne_of_lt (Nat.lt_trans (Nat.mod_lt _ (by decide)) (by decide))

/-- The second search starts at the dot that the first has found. -/
theorem isPackage_of_extension (hidx : storedIdx (rfind dot filename npos) = idx)
    (hagain : storedIdx (rfind dot filename idx) = idx)
    (hext : extension filename idx = .ok ext) : isPackage filename = .ok (ext = lit "tgz") := by
  have hne : idx ≠ npos := hidx ▸ storedIdx_ne_npos _
  simp only [isPackage, hidx, hagain, if_neg hne, hext, Except.bind]
  by_cases hgz : ext = lit "gz"
  · subst hgz
    decide
  · rw [if_neg hgz]

theorem isPackage_of_no_dot (hlen : filename.length < 256) (h : dot ∉ filename) :
    isPackage filename = .ok (filename = lit "tgz") := by
  have hidx : ∀ pos, storedIdx (rfind dot filename pos) = 2 ^ 32 - 1 := fun pos => by
    rw [rfind_none h, storedIdx_none]
  refine isPackage_of_extension (hidx _) (hidx _) (substr_eq_ok_iff.mpr ⟨Nat.zero_le _, ?_⟩)
  exact List.take_of_length_le (Nat.le_of_lt (Nat.lt_trans hlen (by decide)))

theorem isPackage_of_dot (hlen : (stem ++ dot :: ext).length < 256) (h : dot ∉ ext) :
    isPackage (stem ++ dot :: ext) = .ok (ext = lit "tgz") := by
  rw [List.length_append, List.length_cons] at hlen
  have hstem : stem.length < 256 := by omega
  have hext : ext.length < 256 := by omega
  have hfirst : ∀ pos, stem.length ≤ pos →
      storedIdx (rfind dot (stem ++ dot :: ext) pos) = stem.length := fun pos hpos => by
    rw [rfind_append hpos h, storedIdx_some (Nat.lt_trans hstem (by decide))]
  refine isPackage_of_extension (hfirst npos ?_) (hfirst _ (Nat.le_refl _)) ?_
  · exact Nat.le_of_lt (Nat.lt_trans hstem (by decide))
  · have hmod : (stem.length + 1) % 2 ^ 32 = stem.length + 1 := Nat.mod_eq_of_lt (by omega)
    rw [extension, hmod, substr_eq_ok_iff]
    refine ⟨by simp, ?_⟩
    rw [List.drop_append, List.drop_of_length_le (Nat.le_succ _)]
    simpa using List.take_of_length_le (Nat.le_of_lt (Nat.lt_trans hext (by decide)))

theorem isPackage_eq (hlen : filename.length < 256) :
    isPackage filename = .ok (filename = lit "tgz" ∨ lit ".tgz" <:+ filename) := by
  by_cases hdot : dot ∈ filename
  · obtain ⟨stem, ext, rfl, hext⟩ := exists_last hdot
    have hname : stem ++ dot :: ext ≠ lit "tgz" := fun h =>
      absurd (h ▸ hdot : dot ∈ lit "tgz") (by decide)
    have hsuffix : lit ".tgz" <:+ stem ++ dot :: ext ↔ ext = lit "tgz" := by
      constructor
      · rintro ⟨stem', h⟩
        exact (last_unique (by decide) hext h).2.symm
      · rintro rfl
        exact List.suffix_append stem (lit ".tgz")
    simp [isPackage_of_dot hlen hext, hname, hsuffix]
  · have hsuffix : ¬ lit ".tgz" <:+ filename := fun h => hdot (h.subset (by decide))
    simp [isPackage_of_no_dot hlen hdot, hsuffix]

def Dirent.Taken (e : Dirent) : Prop :=
  e.dType ≠ .dir ∧ (e.filename = lit "tgz" ∨ lit ".tgz" <:+ e.filename)

instance (e : Dirent) : Decidable e.Taken := inferInstanceAs (Decidable (_ ∧ _))

theorem checkFiles_eq (es : List Dirent) :
    checkFiles updatePath deviceName es =
      .ok ((es.filter (·.Taken)).map (·.call updatePath deviceName)) := by
  induction es with
  | nil => rfl
  | cons e es ih =>
    rw [checkFiles, ih, isPackage_eq e.filename_length]
    by_cases hdir : e.dType = .dir
    · simp [hdir, Dirent.Taken]
    · by_cases hname : e.filename = lit "tgz" ∨ lit ".tgz" <:+ e.filename
      · simp [hdir, hname, Dirent.Taken, Except.bind, Except.map]
      · simp [hdir, hname, Dirent.Taken, Except.bind, Except.map]

def HandsOver (updatePath deviceName : List UInt8) (before : List Dirent) (e : Dirent)
    (after : List Dirent) : Prop :=
  ∃ calls calls', processDeviceFolder updatePath deviceName (some before) = .ok calls ∧
    processDeviceFolder updatePath deviceName (some after) = .ok calls' ∧
    processDeviceFolder updatePath deviceName (some (before ++ e :: after)) =
      .ok (calls ++ e.call updatePath deviceName :: calls')

theorem handsOver_iff : HandsOver updatePath deviceName before e after ↔ e.Taken := by
  simp only [HandsOver, processDeviceFolder, checkFiles_eq, Except.ok.injEq]
  constructor
  · rintro ⟨_, _, rfl, rfl, h⟩
    by_contra htaken
    have hlen := congrArg List.length h
    simp [htaken] at hlen
  · intro htaken
    exact ⟨_, _, rfl, rfl, by simp [htaken]⟩

/-- An entry that is not a directory is handed on exactly if its name ends as a package's does,
but for a file named "tgz" and those that end in ".tar.gz". -/
theorem processDeviceFolder_packages_iff (updatePath deviceName : List UInt8)
    (before : List Dirent) (e : Dirent) (after : List Dirent) (h : e.dType ≠ .dir) :
    (HandsOver updatePath deviceName before e after ↔ PackageName e.filename) ↔
      e.filename ≠ lit "tgz" ∧ ¬ lit ".tar.gz" <:+ e.filename := by
  rw [handsOver_iff, Dirent.Taken, and_iff_right h, PackageName]
  by_cases hname : e.filename = lit "tgz"
  · rw [hname]
    decide
  · by_cases htar : lit ".tar.gz" <:+ e.filename
    · have htgz : ¬ lit ".tgz" <:+ e.filename := fun htgz =>
        absurd (List.suffix_of_suffix_length_le htgz htar (by decide)) (by decide)
      simp [hname, htar, htgz]
    · simp [hname, htar]

def Dirent.file (name : List UInt8) (h : name.length < 256) : Dirent where
  dType := .other
  dName := (Buf.zeroed 0 256).write name
  terminated := Buf.terminated_zeroed_write h

theorem processDeviceFolder_skips_tarGz :
    ¬ (HandsOver (lit "/srv") (lit "tv") [] (Dirent.file (lit "a.tar.gz") (by decide)) [] ↔
      PackageName (Dirent.file (lit "a.tar.gz") (by decide)).filename) := by
  rw [handsOver_iff]
  unfold PackageName
  decide

theorem processDeviceFolder_packages_iff_tgz :
    HandsOver (lit "/srv") (lit "tv") [] (Dirent.file (lit "a.tgz") (by decide)) [] := by
  have hname : PackageName (Dirent.file (lit "a.tgz") (by decide)).filename := .inl (by decide)
  exact ((processDeviceFolder_packages_iff (lit "/srv") (lit "tv") [] _ [] (by decide)).mpr
    (by decide)).mpr hname

end IarmMgrs.DeviceUpdateMgr.Packages
