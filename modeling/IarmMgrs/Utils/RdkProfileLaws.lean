import IarmMgrs.Utils.RdkProfile

namespace IarmMgrs.Utils.RdkProfile

open Lib Lib.CString Lib.Lines

variable {file line piece rest : List UInt8} {found : Found} {k : Nat}

theorem nul_notMem_name : (0 : UInt8) ∉ rdkProfileName := by decide

theorem rdkProfileName_ne_nil : rdkProfileName ≠ [] := by decide

theorem find_ne_none_iff :
    Search.find rdkProfileName line ≠ none ↔ rdkProfileName <:+: line := by
  rw [Ne, Search.find_none_iff, not_forall_not, Search.exists_at_iff]

theorem find_of_hit (h : Hit piece) : ∃ k, Search.find rdkProfileName (cstr 0 piece) = some k :=
  Option.ne_none_iff_exists'.mp (find_ne_none_iff.mpr h.2)

theorem fgets_eq (hfile : file ≠ []) :
    fgets lineSize file = some (readLine newline (lineSize - 1) file) := if_neg hfile

theorem searchLine_nil : searchLine [] = none := by
  rw [searchLine]
  rfl

theorem searchLine_eq (h : fgets lineSize file = some (line, rest)) : searchLine file =
    if (cstr 0 line).length ≥ lineSize - 1 then searchLine rest
    else match Search.find rdkProfileName (cstr 0 line) with
      | some k => some ⟨line, (cstr 0 line).drop k, rest⟩
      | none => searchLine rest := by
  rw [searchLine]
  split
  · next hnone => cases h.symm.trans hnone
  · next line' rest' hsome =>
    obtain ⟨rfl, rfl⟩ := Prod.mk.inj (Option.some.inj (h.symm.trans hsome))
    rfl

theorem searchLine_of_hit (h : fgets lineSize file = some (line, rest)) (hhit : Hit line)
    (hfind : Search.find rdkProfileName (cstr 0 line) = some k) :
    searchLine file = some ⟨line, (cstr 0 line).drop k, rest⟩ := by
  rw [searchLine_eq h, if_neg (Nat.not_le.mpr hhit.1), hfind]

theorem searchLine_of_not_hit (h : fgets lineSize file = some (line, rest)) (hhit : ¬ Hit line) :
    searchLine file = searchLine rest := by
  rw [searchLine_eq h]
  split
  · rfl
  · next hlen =>
    have hfind : Search.find rdkProfileName (cstr 0 line) = none := by
      by_contra hne
      exact hhit ⟨Nat.lt_of_not_le hlen, find_ne_none_iff.mp hne⟩
    rw [hfind]

/-- The loop breaks at the first piece of the file that is taken. -/
theorem searchLine_first (file : List UInt8) :
    (searchLine file).map (fun found => (found.line, found.rest)) =
      first (Hit ·) (pieces newline (lineSize - 1) file) := by
  have hroom : 0 < lineSize - 1 := by decide
  induction file using reader_induction newline hroom with
  | nil =>
    rw [searchLine_nil]
    rfl
  | read file hfile ih =>
    rw [pieces_eq hroom hfile]
    by_cases hhit : Hit (readLine newline (lineSize - 1) file).1
    · obtain ⟨k, hfind⟩ := find_of_hit hhit
      rw [searchLine_of_hit (fgets_eq hfile) hhit hfind, first_of_takes (decide_eq_true hhit),
        flatten_pieces]
      rfl
    · rw [searchLine_of_not_hit (fgets_eq hfile) hhit, ih,
        first_of_not_takes (decide_eq_false hhit)]

theorem searchLine_pointer (h : searchLine file = some found) :
    ∃ k, Search.find rdkProfileName (cstr 0 found.line) = some k ∧
      found.rdkProfile = (cstr 0 found.line).drop k := by
  have hroom : 0 < lineSize - 1 := by decide
  induction file using reader_induction newline hroom with
  | nil =>
    rw [searchLine_nil] at h
    cases h
  | read file hfile ih =>
    by_cases hhit : Hit (readLine newline (lineSize - 1) file).1
    · obtain ⟨k, hfind⟩ := find_of_hit hhit
      rw [searchLine_of_hit (fgets_eq hfile) hhit hfind] at h
      obtain rfl := Option.some.inj h
      exact ⟨k, hfind, rfl⟩
    · rw [searchLine_of_not_hit (fgets_eq hfile) hhit] at h
      exact ih h

theorem strncmpEq_iff {s t : List UInt8} (hs : 0 ∉ s) (ht : 0 ∉ t) :
    strncmpEq s t t.length = true ↔ t <+: s := by
  rw [strncmpEq, cstr_eq_self 0 hs, cstr_eq_self 0 ht, List.take_length, decide_eq_true_iff,
    List.prefix_iff_eq_take, eq_comm]

theorem profileAt_eq {value : List UInt8} (hvalue : 0 ∉ value) :
    profileAt (rdkProfileName ++ value) =
      if equals :: profileStrTv <+: value then .tv
      else if equals :: profileStrStb <+: value then .stb
      else .invalid := by
  have hsize : (rdkProfileName ++ value).length = rdkProfileName.length + value.length :=
    List.length_append
  simp only [profileAt, hsize, List.drop_left]
  cases value with
  | nil => rfl
  | cons c value =>
    have hrest : 0 ∉ value := fun h => hvalue (List.mem_cons_of_mem c h)
    by_cases hvalue : value = []
    · rw [if_pos (by simp [hvalue]), hvalue, if_neg (by simp [profileStrTv, lit]),
        if_neg (by simp [profileStrStb, lit])]
    · have hpos := List.length_pos_iff.mpr hvalue
      rw [if_neg (by rw [List.length_cons]; omega)]
      by_cases hc : c = equals
      · simp only [hc, List.head?_cons, ne_eq, not_true_eq_false, if_false, List.drop_one,
          List.tail_cons, strncmpEq_iff hrest (by decide : 0 ∉ profileStrTv),
          strncmpEq_iff hrest (by decide : 0 ∉ profileStrStb), List.cons_prefix_cons, true_and]
      · rw [if_pos (by simpa using hc), if_neg fun h => hc (List.cons_prefix_cons.mp h).1.symm,
          if_neg fun h => hc (List.cons_prefix_cons.mp h).1.symm]

theorem profileOf_of_hit (hfind : Search.find rdkProfileName (cstr 0 line) = some k) :
    profileAt ((cstr 0 line).drop k) = profileOf line := by
  have hfirst := Search.find_some_iff.mp hfind
  have hle := hfirst.1.le rdkProfileName_ne_nil
  obtain ⟨rest, hline⟩ := cstr_initial 0 line
  have hwhole : Search.find rdkProfileName line = some k := by
    rw [← hline]
    exact Search.find_some_iff.mpr (hfirst.append rdkProfileName_ne_nil rest)
  obtain ⟨value, hvalue⟩ := hfirst.1
  have hnul : (0 : UInt8) ∉ value := fun h => by
    have hdrop : (0 : UInt8) ∈ (cstr 0 line).drop k := hvalue ▸ List.mem_append_right _ h
    exact nul_notMem_cstr 0 line (List.mem_of_mem_drop hdrop)
  have hcut : ∀ t : List UInt8, 0 ∉ t →
      (rdkProfileName ++ t <+: line.drop k ↔ t <+: value) := fun t ht => by
    have hnone : 0 ∉ rdkProfileName ++ t := fun h =>
      (List.mem_append.mp h).elim nul_notMem_name ht
    rw [← initial_cstr_iff 0 hnone, cstr_drop 0 (by omega), ← hvalue,
      List.prefix_append_right_inj]
  rw [← hvalue, profileAt_eq hnul, profileOf, hwhole]
  simp only [hcut (equals :: profileStrTv) (by decide), hcut (equals :: profileStrStb) (by decide)]

theorem takes_of_hit (hlen : line.length ≤ lineSize - 1) (h : Hit line) : Takes line :=
  ⟨hlen, h.2.trans (cstr_initial 0 line).isInfix⟩

/-- Where the loop breaks at the line of the reference, the profile is the one of the reference. -/
theorem profile_of_line
    (h : (searchLine file).map (fun found => (found.line, found.rest)) = lineOf file) :
    searchRdkProfile (some file) = reference file := by
  rw [reference, ← h]
  simp only [searchRdkProfile]
  cases hfound : searchLine file with
  | none => rfl
  | some found =>
    obtain ⟨k, hfind, hpointer⟩ := searchLine_pointer hfound
    simp only [hpointer, Option.map_some]
    exact profileOf_of_hit hfind

/-- The profile is looked up as it should be exactly if the first line at which the code or the
reference may stop is read as a whole, and seen as a whole. -/
theorem agrees_iff (file : List UInt8) : Agrees file ↔
    ∀ line, (lines newline file).find? (fun line => Takes line ∨ IsMisread line) = some line →
      ¬ IsMisread line ∧ ¬ IsMissed line := by
  have hline : Agrees file ↔
      (searchLine file).map (fun found => (found.line, found.rest)) = lineOf file :=
    ⟨Agrees.line, fun h => ⟨h, profile_of_line h⟩⟩
  have htakes : ∀ line, decide (Takes line) = true → line.length ≤ lineSize - 1 :=
    fun line h => (of_decide_eq_true h).1
  have hhit : ∀ line, line.length ≤ lineSize - 1 → decide (Hit line) = true →
      decide (Takes line) = true :=
    fun line hlen h => decide_eq_true (takes_of_hit hlen (of_decide_eq_true h))
  have hcompare := first_chop_iff htakes hhit (nil_notMem_lines newline file)
  rw [hline, searchLine_first, lineOf, pieces, hcompare]
  simp only [Bool.decide_or, IsMissed, Missed, decide_eq_true_eq, decide_eq_false_iff_not]
  rfl

def longLine : List UInt8 := List.replicate 255 120 ++ lit "RDK_PROFILE=TV\n"

theorem longLine_tail_taken : searchRdkProfile (some longLine) ≠ reference longLine := by
  have hfirst : fgets lineSize longLine =
      some (List.replicate 255 120, lit "RDK_PROFILE=TV\n") := by decide +kernel
  have hsecond : fgets lineSize (lit "RDK_PROFILE=TV\n") = some (lit "RDK_PROFILE=TV\n", []) := by
    decide +kernel
  have hfound := searchLine_of_hit hsecond (by decide +kernel) (k := 0) (by decide +kernel)
  rw [← searchLine_of_not_hit hfirst (by decide +kernel)] at hfound
  simp only [searchRdkProfile, hfound]
  decide +kernel

end IarmMgrs.Utils.RdkProfile
