import Mathlib.Data.List.Basic

universe u

namespace IarmMgrs.Lib.CString

variable {α : Type u}

section Strings

variable [DecidableEq α] (nul : α)

/-- The string that starts at a pointer: what stands before the first terminator. -/
def cstr : List α → List α
  | [] => []
  | c :: cs => if c = nul then [] else c :: cstr cs

@[simp] theorem cstr_append_nul (s t : List α) : cstr nul (s ++ nul :: t) = cstr nul s := by
  induction s with
  | nil => simp [cstr]
  | cons c cs ih => simp [cstr, ih]

theorem cstr_eq_self {s : List α} (hs : nul ∉ s) : cstr nul s = s := by
  induction s with
  | nil => rfl
  | cons c cs ih =>
    obtain ⟨hc, hcs⟩ := not_or.mp (mt List.mem_cons.mpr hs)
    rw [cstr, if_neg (Ne.symm hc), ih hcs]

theorem cstr_initial (s : List α) : cstr nul s <+: s := by
  induction s with
  | nil => simp [cstr]
  | cons c cs ih =>
    rw [cstr]
    split
    · exact List.nil_prefix
    · exact List.cons_prefix_cons.mpr ⟨rfl, ih⟩

theorem nul_notMem_cstr (s : List α) : nul ∉ cstr nul s := by
  induction s with
  | nil => simp [cstr]
  | cons c cs ih =>
    rw [cstr]
    split
    · simp
    · next hc => exact fun h => (List.mem_cons.mp h).elim (fun h => hc h.symm) ih

theorem cstr_length_lt {s : List α} (hs : nul ∈ s) : (cstr nul s).length < s.length := by
  have hne : (cstr nul s).length ≠ s.length := by
    intro hlen
    have hself := (cstr_initial nul s).eq_of_length hlen
    exact nul_notMem_cstr nul s (hself.symm ▸ hs)
  exact Nat.lt_of_le_of_ne (cstr_initial nul s).length_le hne

@[simp] theorem cstr_cstr (s : List α) : cstr nul (cstr nul s) = cstr nul s :=
  cstr_eq_self nul (nul_notMem_cstr nul s)

theorem cstr_take (s : List α) (n : Nat) : cstr nul (s.take n) = (cstr nul s).take n := by
  induction s generalizing n with
  | nil => simp [cstr]
  | cons c cs ih =>
    cases n with
    | zero => rfl
    | succ n =>
      simp only [List.take_succ_cons, cstr]
      split
      · rfl
      · rw [ih, List.take_succ_cons]

theorem cstr_drop {s : List α} {n : Nat} (h : n ≤ (cstr nul s).length) :
    cstr nul (s.drop n) = (cstr nul s).drop n := by
  induction s generalizing n with
  | nil => simp [cstr]
  | cons c cs ih =>
    cases n with
    | zero => rfl
    | succ n =>
      by_cases hc : c = nul
      · simp [cstr, hc] at h
      · simp only [cstr, if_neg hc, List.length_cons] at h ⊢
        exact ih (Nat.le_of_succ_le_succ h)

theorem initial_cstr_iff {s t : List α} (ht : nul ∉ t) : t <+: cstr nul s ↔ t <+: s := by
  refine ⟨fun h => h.trans (cstr_initial nul s), ?_⟩
  rintro ⟨rest, rfl⟩
  rw [List.prefix_iff_eq_take, ← cstr_take, List.take_left, cstr_eq_self nul ht]

def strnlen (s : List α) (bound : Nat) : Nat := (cstr nul (s.take bound)).length

theorem strnlen_le (s : List α) (bound : Nat) : strnlen nul s bound ≤ bound :=
  Nat.le_trans (cstr_initial nul _).length_le (List.length_take_le _ _)

theorem take_strnlen (s : List α) (bound : Nat) :
    s.take (strnlen nul s bound) = (cstr nul s).take bound := by
  rw [← cstr_take]
  exact (List.prefix_iff_eq_take.mp
    ((cstr_initial nul (s.take bound)).trans (List.take_prefix bound s))).symm

end Strings

def lit (s : String) : List UInt8 := s.toList.map fun c => c.toNat.toUInt8

/-- `tolower` in the C locale. -/
def toLower (c : UInt8) : UInt8 := if 65 ≤ c ∧ c ≤ 90 then c + 32 else c

/-- `strncasecmp(s, t, n) == 0`. -/
def strncasecmpEq (s t : List UInt8) (n : Nat) : Bool :=
  ((cstr 0 s).take n).map toLower = ((cstr 0 t).take n).map toLower

theorem strncasecmpEq_self (s : List UInt8) (n : Nat) : strncasecmpEq s s n = true := by
  simp [strncasecmpEq]

theorem strncasecmpEq_comm (s t : List UInt8) (n : Nat) :
    strncasecmpEq s t n = strncasecmpEq t s n := by
  simp only [strncasecmpEq, eq_comm]

theorem strncasecmpEq_congr {s s' : List UInt8} {n : Nat} (h : strncasecmpEq s s' n = true)
    (t : List UInt8) : strncasecmpEq s t n = strncasecmpEq s' t n := by
  simp only [strncasecmpEq, decide_eq_true_eq] at h ⊢
  rw [h]

@[simp] theorem strncasecmpEq_cstr (s t : List UInt8) (n : Nat) :
    strncasecmpEq (cstr 0 s) t n = strncasecmpEq s t n := by
  rw [strncasecmpEq, cstr_cstr, strncasecmpEq]

theorem strncasecmpEq_nil {s : List UInt8} {n : Nat} (hs : cstr 0 s ≠ []) (hn : 0 < n) :
    strncasecmpEq s [] n = false := by
  obtain ⟨m, rfl⟩ := Nat.exists_eq_succ_of_ne_zero (Nat.ne_of_gt hn)
  cases hcs : cstr 0 s with
  | nil => exact absurd hcs hs
  | cons c cs => simp [strncasecmpEq, hcs, cstr]

/-- The first token of `strtok(s, delimiters)`; `none` is the null pointer. -/
def strtok (delimiter : α → Bool) (s : List α) : Option (List α) :=
  match s.dropWhile delimiter with
  | [] => none
  | c :: cs => some ((c :: cs).takeWhile fun c => !delimiter c)

theorem strtok_none {delimiter : α → Bool} {s : List α}
    (h : (s.dropWhile delimiter).takeWhile (!delimiter ·) = []) : strtok delimiter s = none := by
  rw [strtok]
  cases hrest : s.dropWhile delimiter with
  | nil => rfl
  | cons c cs =>
    have hc : delimiter c = false := by
      have hhead := List.head_dropWhile_not delimiter (l := s) (by simp [hrest])
      simpa [hrest] using hhead
    simp [hrest, hc] at h

theorem strtok_some {delimiter : α → Bool} {s : List α}
    (h : (s.dropWhile delimiter).takeWhile (!delimiter ·) ≠ []) :
    strtok delimiter s = some ((s.dropWhile delimiter).takeWhile (!delimiter ·)) := by
  rw [strtok]
  cases hrest : s.dropWhile delimiter with
  | nil => exact absurd (by rw [hrest, List.takeWhile_nil]) h
  | cons c cs => rfl

def strstr [BEq α] : List α → List α → Bool
  | [], t => t.isEmpty
  | c :: cs, t => t.isPrefixOf (c :: cs) || strstr cs t

structure Buf (α : Type u) (n : Nat) : Type u where
  chars : List α
  size : chars.length = n

namespace Buf

variable {n : Nat}

instance [DecidableEq α] : DecidableEq (Buf α n) := fun a b =>
  decidable_of_iff (a.chars = b.chars) (by cases a; cases b; simp)

def zeroed (nul : α) (n : Nat) : Buf α n := ⟨List.replicate n nul, by simp⟩

def Terminated (nul : α) (b : Buf α n) : Prop := nul ∈ b.chars

instance [DecidableEq α] (nul : α) (b : Buf α n) : Decidable (b.Terminated nul) :=
  inferInstanceAs (Decidable (_ ∈ _))

/-- Overwrite the front of the array; what does not fit is not written. -/
def write (b : Buf α n) (src : List α) : Buf α n :=
  ⟨(src ++ b.chars.drop src.length).take n, by have := b.size; simp; omega⟩

def setChar (b : Buf α n) (i : Nat) (x : α) : Buf α n :=
  ⟨b.chars.set i x, by simp [b.size]⟩

@[simp] theorem chars_setChar (b : Buf α n) (i : Nat) (x : α) :
    (b.setChar i x).chars = b.chars.set i x := rfl

@[simp] theorem chars_zeroed (nul : α) (n : Nat) :
    (zeroed nul n).chars = List.replicate n nul := rfl

theorem chars_write {b : Buf α n} {s : List α} (hs : s.length ≤ n) :
    (b.write s).chars = s ++ b.chars.drop s.length := by
  have hb := b.size
  apply List.take_of_length_le
  rw [List.length_append, List.length_drop]
  omega

theorem terminated_zeroed (nul : α) (hn : 0 < n) : (zeroed nul n).Terminated nul :=
  List.mem_replicate.mpr ⟨Nat.ne_of_gt hn, rfl⟩

theorem terminated_zeroed_write {nul : α} {s : List α} (hs : s.length < n) :
    ((zeroed nul n).write s).Terminated nul := by
  rw [Terminated, chars_write (Nat.le_of_lt hs), chars_zeroed, List.drop_replicate]
  exact List.mem_append_right s (List.mem_replicate.mpr ⟨Nat.sub_ne_zero_of_lt hs, rfl⟩)

theorem set_append_length (s t : List α) (x : α) (h : 0 < t.length) :
    (s ++ t).set s.length x = s ++ x :: t.drop 1 := by
  cases t with
  | nil => simp at h
  | cons y t => simp

theorem chars_write_setChar (b : Buf α n) {s : List α} (x : α) (hs : s.length < n) :
    ((b.write s).setChar s.length x).chars = s ++ x :: b.chars.drop (s.length + 1) := by
  rw [chars_setChar, chars_write (Nat.le_of_lt hs), set_append_length, List.drop_drop]
  rw [List.length_drop, b.size]
  omega

variable [DecidableEq α] (nul : α)

def str (b : Buf α n) : List α := cstr nul b.chars

/-- `snprintf(b, n, "%s", s)`. -/
def snprintf (b : Buf α n) (s : List α) : Buf α n :=
  if n = 0 then b else b.write ((cstr nul s).take (n - 1) ++ [nul])

/-- `len = strnlen(s, bound)`, `strncpy(b, s, len)` and `b[len] = nul`. -/
def copyBounded (b : Buf α n) (s : List α) (bound : Nat) : Buf α n :=
  let len := strnlen nul s bound
  (b.write (s.take len)).setChar len nul

/-- `memcpy(b, s, n)` and `b[n - 1] = nul`. -/
def copyWhole (b : Buf α n) (s : List α) : Buf α n :=
  (b.write (s.take n)).setChar (n - 1) nul

theorem str_snprintf (b : Buf α n) (s : List α) (hn : 0 < n) :
    (b.snprintf nul s).str nul = (cstr nul s).take (n - 1) := by
  have hlen : ((cstr nul s).take (n - 1) ++ [nul]).length ≤ n := by
    rw [List.length_append, List.length_take, List.length_singleton]
    omega
  rw [snprintf, if_neg (Nat.ne_of_gt hn), str, chars_write hlen, List.append_assoc,
    List.singleton_append, cstr_append_nul, cstr_take, cstr_cstr]

theorem chars_copyBounded (b : Buf α n) (s : List α) {bound : Nat} (hb : bound < n) :
    ∃ t, (b.copyBounded nul s bound).chars = (cstr nul s).take bound ++ nul :: t := by
  have hs : s.take (strnlen nul s bound) = (cstr nul s).take bound := take_strnlen nul s bound
  have hlen : strnlen nul s bound = ((cstr nul s).take bound).length := by
    rw [← cstr_take, strnlen]
  refine ⟨b.chars.drop (((cstr nul s).take bound).length + 1), ?_⟩
  rw [copyBounded, hs, hlen]
  refine chars_write_setChar b nul ?_
  rw [← hlen]
  exact Nat.lt_of_le_of_lt (strnlen_le nul s bound) hb

theorem str_copyBounded (b : Buf α n) (s : List α) {bound : Nat} (hb : bound < n) :
    (b.copyBounded nul s bound).str nul = (cstr nul s).take bound := by
  obtain ⟨t, ht⟩ := chars_copyBounded nul b s hb
  rw [str, ht, cstr_append_nul, cstr_take, cstr_cstr]

theorem terminated_copyBounded (b : Buf α n) (s : List α) {bound : Nat} (hb : bound < n) :
    (b.copyBounded nul s bound).Terminated nul := by
  obtain ⟨t, ht⟩ := chars_copyBounded nul b s hb
  simp [Terminated, ht]

omit [DecidableEq α] in
theorem chars_copyWhole (b : Buf α n) {s : List α} (hn : 0 < n) (hs : n ≤ s.length) :
    (b.copyWhole nul s).chars = s.take (n - 1) ++ [nul] := by
  have hlen : (s.take n).length = n := List.length_take_of_le hs
  have hpre : (s.take (n - 1)).length = n - 1 := List.length_take_of_le (by omega)
  have hsplit : s.take n = s.take (n - 1) ++ (s.drop (n - 1)).take 1 := by
    rw [← List.take_add, Nat.sub_add_cancel hn]
  have hone : ((s.drop (n - 1)).take 1).length = 1 := by
    rw [List.length_take, List.length_drop]
    omega
  have hset := set_append_length (s.take (n - 1)) ((s.drop (n - 1)).take 1) nul (by omega)
  rw [hpre, ← hsplit, List.drop_of_length_le (Nat.le_of_eq hone)] at hset
  rw [copyWhole, chars_setChar, chars_write (Nat.le_of_eq hlen), hlen,
    List.drop_of_length_le (Nat.le_of_eq b.size), List.append_nil, hset]

theorem str_copyWhole (b : Buf α n) {s : List α} (hn : 0 < n) (hs : n ≤ s.length) :
    (b.copyWhole nul s).str nul = (cstr nul s).take (n - 1) := by
  rw [str, chars_copyWhole nul b hn hs, cstr_append_nul, cstr_take]

omit [DecidableEq α] in
theorem terminated_copyWhole (b : Buf α n) {s : List α} (hn : 0 < n) (hs : n ≤ s.length) :
    (b.copyWhole nul s).Terminated nul := by
  simp [Terminated, chars_copyWhole nul b hn hs]

theorem str_length_lt {b : Buf α n} (h : b.Terminated nul) : (b.str nul).length < n :=
  Nat.lt_of_lt_of_eq (cstr_length_lt nul h) b.size

end Buf

end IarmMgrs.Lib.CString
