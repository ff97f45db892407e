import IarmMgrs.DeviceUpdateMgr.Extraction
import IarmMgrs.DeviceUpdateMgr.PackagesLaws

namespace IarmMgrs.DeviceUpdateMgr.Extraction

open Lib Lib.CString Lib.Shell Lib.Transition
open Packages (Dirent isPackage isPackage_eq)

variable {folder name tempFilePath deviceName updatePath : List UInt8} {e : Dirent}

def tarWords : List Word := [bare (lit "tar"), bare (lit "-xzpf")]

def atName (folder : List UInt8) : Reader :=
  ⟨tarWords, some (bare (folder ++ lit "/")), .unquoted, false⟩

def atTarget (path : List UInt8) : Reader :=
  ⟨tarWords ++ [bare path, bare (lit "-C")], none, .unquoted, false⟩

theorem run_folder (hfolder : ∀ c ∈ folder, Literal c) :
    run Reader.step .init (lit "tar -xzpf " ++ (folder ++ lit "/")) = some (atName folder) := by
  refine run_append.mpr ⟨⟨tarWords, none, .unquoted, false⟩, by decide, ?_⟩
  have hslash : Literal 47 := by decide
  cases folder with
  | nil => exact Reader.run_word rfl rfl rfl hslash.1 (by simp)
  | cons c folder =>
    obtain ⟨hc, hfolder⟩ := List.forall_mem_cons.mp hfolder
    refine Reader.run_word rfl rfl rfl hc.1 fun d hd => Literal.ordinary ?_
    obtain hd | hd := List.mem_append.mp hd
    · exact hfolder d hd
    · obtain rfl := List.mem_singleton.mp hd
      exact hslash

theorem extractCommand_eq : extractCommand tempFilePath (folder ++ lit "/" ++ name) =
    lit "tar -xzpf " ++ (folder ++ lit "/") ++ (name ++ (lit " -C " ++ tempFilePath)) := by
  simp [extractCommand]

theorem readWords_extractCommand (hfolder : ∀ c ∈ folder, Literal c)
    (htemp : ∀ c ∈ tempFilePath, Literal c) (hname : ∀ c ∈ name, Ordinary c) :
    readWords (extractCommand tempFilePath (folder ++ lit "/" ++ name)) =
      some (tarWords ++ [bare (folder ++ lit "/" ++ name), bare (lit "-C")] ++
        if tempFilePath = [] then [] else [bare tempFilePath]) := by
  have hrun : run Reader.step (atName folder) name =
      some ((atName folder).inWord (bare (folder ++ lit "/" ++ name))) := by
    rw [Reader.run_ordinary rfl rfl rfl hname]
    simp [bare]
  have hoption : run Reader.step ((atName folder).inWord (bare (folder ++ lit "/" ++ name)))
      (lit " -C ") = some (atTarget (folder ++ lit "/" ++ name)) := rfl
  refine Option.bind_eq_some_iff.mpr ?_
  rw [extractCommand_eq]
  cases tempFilePath with
  | nil =>
    rw [List.append_nil]
    exact ⟨_, run_append.mpr ⟨_, run_folder hfolder, run_append.mpr ⟨_, hrun, hoption⟩⟩, rfl⟩
  | cons c tempFilePath =>
    obtain ⟨hc, htemp⟩ := List.forall_mem_cons.mp htemp
    have hword := Reader.run_word (r := atTarget (folder ++ lit "/" ++ name)) rfl rfl rfl hc.1
      fun d hd => (htemp d hd).ordinary
    exact ⟨_, run_append.mpr ⟨_, run_folder hfolder, run_append.mpr ⟨_, hrun,
      run_append.mpr ⟨_, hoption, hword⟩⟩⟩, rfl⟩

theorem getLast_of_package (h : isPackage e.filename = .ok true) :
    e.filename.getLast? = some 122 := by
  rw [isPackage_eq e.filename_length, Except.ok.injEq, decide_eq_true_iff] at h
  obtain h | ⟨stem, h⟩ := h
  · rw [h]
    decide
  · rw [← h, List.getLast?_append]
    rfl

/-- A name that is kept as a whole is made of ordinary characters. -/
theorem ordinary_of_parsedAs (hfolder : ∀ c ∈ folder, Literal c)
    (htemp : ∀ c ∈ tempFilePath, Literal c) (hlast : name.getLast? = some 122)
    (h : ParsedAs (extractCommand tempFilePath (folder ++ lit "/" ++ name))
      [lit "tar", lit "-xzpf", folder ++ lit "/" ++ name, lit "-C", tempFilePath]) :
    ∀ c ∈ name, Ordinary c := by
  obtain ⟨w, ws, hwords, -, -, htext⟩ := parsedAs_iff.mp h
  have hsize : (w :: ws).flatten.length = [lit "tar", lit "-xzpf", folder ++ lit "/" ++ name,
      lit "-C", tempFilePath].flatten.length := by
    rw [← htext, List.length_flatten, List.length_flatten, List.map_map]
    simp [Word.text, Function.comp_def]
  have hheld : (atName folder).held = 8 + (folder ++ lit "/").length := by
    simp [Reader.held, Reader.stored, atName, tarWords, bare, lit]
  have hplain : tempFilePath.countP (fun c => kind c = .plain) = tempFilePath.length :=
    List.countP_eq_length.mpr fun c hc => decide_eq_true (htemp c hc).1
  have hcount : Reader.plainCount (lit " -C " ++ tempFilePath) = 2 + tempFilePath.length := by
    rw [Reader.plainCount, List.countP_append, hplain]
    rfl
  have hoption : ∀ c ∈ lit " -C ", Reader.Simple c := forall_of_all (by decide)
  have hafter : ∀ c ∈ lit " -C " ++ tempFilePath, Reader.Simple c :=
    List.forall_mem_append.mpr ⟨hoption, fun c hc => .inl (htemp c hc).1⟩
  rw [extractCommand_eq] at hwords
  refine ordinary_of_readWords (run_folder hfolder) rfl (by simp [atName]) ?_ hafter hwords ?_
  · intro c hc
    rw [hlast, Option.some.injEq] at hc
    rw [← hc]
    decide
  · rw [hsize, hheld, hcount]
    simp [lit]
    omega

theorem nul_notMem_literal (h : ∀ c ∈ folder, Literal c) : 0 ∉ folder := fun hmem =>
  absurd (h 0 hmem) (by decide)

theorem extract_of_systemCalls {system : List UInt8 → Int} {cmd : List UInt8}
    (hupdate : ∀ c ∈ updatePath, Literal c) (htemp : ∀ c ∈ tempFilePath, Literal c)
    (h : (systemCalls system tempFilePath (e.call updatePath deviceName).filePath)[2]? =
      some cmd) :
    cmd = extractCommand tempFilePath (updatePath ++ lit "/" ++ e.filename) := by
  simp only [systemCalls] at h
  split at h
  · cases h
  · obtain rfl := Option.some.inj h
    refine cstr_eq_self 0 ?_
    have hname : (0 : UInt8) ∉ e.filename := nul_notMem_cstr 0 _
    have htar : (0 : UInt8) ∉ lit "tar -xzpf " := by decide
    have hslash : (0 : UInt8) ∉ lit "/" := by decide
    have hoption : (0 : UInt8) ∉ lit " -C " := by decide
    simp [extractCommand, Dirent.call, htar, hslash, hoption, hname, nul_notMem_literal hupdate,
      nul_notMem_literal htemp]

/-- The name of a package survives the shell exactly if no character of it is special there,
provided that there is a folder to unpack into. -/
theorem extraction_parsed_iff (system : List UInt8 → Int) (e : Dirent)
    (updatePath deviceName tempFilePath cmd : List UInt8)
    (hupdate : ∀ c ∈ updatePath, Literal c) (htemp : ∀ c ∈ tempFilePath, Literal c)
    (hpackage : isPackage e.filename = .ok true)
    (hcmd : (systemCalls system tempFilePath (e.call updatePath deviceName).filePath)[2]? =
      some cmd) :
    ParsedAs cmd [lit "tar", lit "-xzpf", updatePath ++ lit "/" ++ e.filename, lit "-C",
        tempFilePath] ↔
      tempFilePath ≠ [] ∧ (∀ c ∈ e.filename, Ordinary c) ∧
        (bare e.filename).isPattern = false := by
  rw [extract_of_systemCalls hupdate htemp hcmd]
  have hfolder : ∀ c ∈ updatePath ++ lit "/", Literal c :=
    List.forall_mem_append.mpr ⟨hupdate, forall_of_all (by decide)⟩
  have hpath : (bare (updatePath ++ lit "/" ++ e.filename)).isPattern =
      (bare e.filename).isPattern := isPattern_bare_append hfolder
  constructor
  · intro h
    have hname := ordinary_of_parsedAs hupdate htemp (getLast_of_package hpackage) h
    have hread := readWords_extractCommand hupdate htemp hname
    obtain ⟨w, ws, hwords, -, hpattern, htext⟩ := parsedAs_iff.mp h
    rw [hwords, Option.some.injEq] at hread
    rw [hread] at hpattern htext
    refine ⟨?_, hname, hpath ▸ hpattern _ (by simp)⟩
    rintro rfl
    simpa [tarWords] using congrArg List.length htext
  · rintro ⟨hne, hname, hpattern⟩
    have hread := readWords_extractCommand hupdate htemp hname
    rw [if_neg hne] at hread
    have htar : ∀ c ∈ lit "tar", Literal c := forall_of_all (by decide)
    have hxzpf : ∀ c ∈ lit "-xzpf", Literal c := forall_of_all (by decide)
    have hoption : ∀ c ∈ lit "-C", Literal c := forall_of_all (by decide)
    refine parsedAs_iff.mpr ⟨_, _, hread, ?_, ?_, by simp⟩
    · have hreserved : (bare (lit "tar")).isReserved = false := by decide
      have htilde := not_isTilde_bare_append (t := e.filename) hfolder (by simp [lit])
      simp [-List.append_assoc, hreserved, htilde, not_isTilde_bare htar, not_isTilde_bare hxzpf,
        not_isTilde_bare hoption, not_isTilde_bare htemp]
    · simp [-List.append_assoc, hpath, hpattern, not_isPattern_bare htar, not_isPattern_bare hxzpf,
        not_isPattern_bare hoption, not_isPattern_bare htemp]

section Samples

def callFor (name : List UInt8) : List UInt8 :=
  extractCommand (lit "/tmp/devUpdate/") (lit "/srv" ++ lit "/" ++ name)

theorem extraction_splits_name :
    isPackage (Dirent.file (lit "a b.tgz") (by decide)).filename = .ok true ∧
      (systemCalls (fun _ => 0) (lit "/tmp/devUpdate/")
        ((Dirent.file (lit "a b.tgz") (by decide)).call (lit "/srv") (lit "tv")).filePath)[2]? =
        some (callFor (lit "a b.tgz")) ∧
      ¬ ParsedAs (callFor (lit "a b.tgz"))
        [lit "tar", lit "-xzpf", lit "/srv" ++ lit "/" ++ lit "a b.tgz", lit "-C",
          lit "/tmp/devUpdate/"] := by
  refine ⟨by decide, by decide, fun h => ?_⟩
  exact absurd (h fun _ => []) (by decide)

theorem extraction_parsed_iff_plain :
    ParsedAs (callFor (lit "a.tgz"))
      [lit "tar", lit "-xzpf", lit "/srv" ++ lit "/" ++ lit "a.tgz", lit "-C",
        lit "/tmp/devUpdate/"] :=
  (extraction_parsed_iff (fun _ => 0) (Dirent.file (lit "a.tgz") (by decide)) (lit "/srv")
    (lit "tv") (lit "/tmp/devUpdate/") _ (forall_of_all (by decide)) (forall_of_all (by decide))
    (by decide) (by decide)).mpr ⟨by decide, forall_of_all (by decide), by decide⟩

end Samples

end IarmMgrs.DeviceUpdateMgr.Extraction
