import Mathlib.Data.List.Basic
import Mathlib.Data.List.Infix

/-! The lines of a text over any type of characters, and a reader whose room is limited, to which
a long line is several pieces.  A search through the pieces is compared with one through the
lines. -/

universe u

namespace IarmMgrs.Lib.Lines

variable {α : Type u}

section Reader

variable [DecidableEq α] (nl : α)

/-- The lines, each with its newline; the last one may have none. -/
def lines : List α → List (List α)
  | [] => []
  | c :: s =>
    if c = nl then [c] :: lines s
    else match lines s with
      | [] => [[c]]
      | l :: ls => (c :: l) :: ls

/-- What is read up to a newline or until the room is used, and what is left. -/
def readLine : Nat → List α → List α × List α
  | 0, s => ([], s)
  | _ + 1, [] => ([], [])
  | room + 1, c :: s =>
    if c = nl then ([c], s) else (c :: (readLine room s).1, (readLine room s).2)

end Reader

def chop (room : Nat) (l : List α) : List (List α) :=
  if 0 < room ∧ room < l.length then l.take room :: chop room (l.drop room) else [l]
termination_by l.length
decreasing_by rw [List.length_drop]; omega

def pieces [DecidableEq α] (nl : α) (room : Nat) (s : List α) : List (List α) :=
  (lines nl s).flatMap (chop room)

def first (takes : List α → Bool) : List (List α) → Option (List α × List α)
  | [] => none
  | l :: ls => if takes l then some (l, ls.flatten) else first takes ls

section Chop

variable {room : Nat} {l : List α} {ls : List (List α)}

theorem chop_of_le (h : l.length ≤ room) : chop room l = [l] := by
  rw [chop, if_neg (by omega)]

@[simp] theorem flatten_chop (room : Nat) (l : List α) : (chop room l).flatten = l := by
  induction l using chop.induct room with
  | case1 l h ih => rw [chop, if_pos h, List.flatten_cons, ih, List.take_append_drop]
  | case2 l h => rw [chop, if_neg h, List.flatten_singleton]

theorem nil_notMem_chop (hl : l ≠ []) : [] ∉ chop room l := by
  induction l using chop.induct room with
  | case1 l h ih =>
    have hdrop : l.drop room ≠ [] := by
      rw [Ne, List.drop_eq_nil_iff]
      omega
    have htake : l.take room ≠ [] := by
      rw [Ne, List.take_eq_nil_iff]
      exact not_or.mpr ⟨by omega, hl⟩
    rw [chop, if_pos h, List.mem_cons, not_or]
    exact ⟨Ne.symm htake, ih hdrop⟩
  | case2 l h => simpa [chop, h] using hl.symm

theorem flatten_flatMap_chop (room : Nat) (ls : List (List α)) :
    (ls.flatMap (chop room)).flatten = ls.flatten := by
  induction ls with
  | nil => rfl
  | cons l ls ih => rw [List.flatMap_cons, List.flatten_append, flatten_chop, ih, List.flatten_cons]

theorem nil_notMem_flatMap_chop (hls : [] ∉ ls) : [] ∉ ls.flatMap (chop room) := by
  rw [List.mem_flatMap]
  rintro ⟨l, hl, hnil⟩
  exact nil_notMem_chop (fun h => hls (h ▸ hl)) hnil

end Chop

section Reading

variable [DecidableEq α] {nl : α} {room k : Nat} {s l : List α} {ls : List (List α)}

theorem lines_nil_iff : lines nl s = [] ↔ s = [] := by
  cases s with
  | nil => exact iff_of_true rfl rfl
  | cons c s =>
    refine iff_of_false ?_ (List.cons_ne_nil c s)
    simp only [lines]
    split
    · exact List.cons_ne_nil _ _
    · split
      · exact List.cons_ne_nil _ _
      · exact List.cons_ne_nil _ _

theorem lines_cons {c : α} (h : lines nl (c :: s) = l :: ls) :
    c = nl ∧ l = [c] ∧ ls = lines nl s ∨
      c ≠ nl ∧ s = [] ∧ l = [c] ∧ ls = [] ∨
      c ≠ nl ∧ ∃ l', lines nl s = l' :: ls ∧ l = c :: l' := by
  simp only [lines] at h
  split at h
  · next hc =>
    obtain ⟨rfl, rfl⟩ := List.cons.inj h
    exact .inl ⟨hc, rfl, rfl⟩
  · next hc =>
    split at h
    · next hnil =>
      obtain ⟨rfl, rfl⟩ := List.cons.inj h
      exact .inr (.inl ⟨hc, lines_nil_iff.mp hnil, rfl, rfl⟩)
    · next l' ls' hcons =>
      obtain ⟨rfl, rfl⟩ := List.cons.inj h
      exact .inr (.inr ⟨hc, l', hcons, rfl⟩)

theorem exists_lines (nl : α) (hs : s ≠ []) : ∃ l ls, lines nl s = l :: ls :=
  List.exists_cons_of_ne_nil (mt lines_nil_iff.mp hs)

@[simp] theorem flatten_lines (nl : α) (s : List α) : (lines nl s).flatten = s := by
  induction s with
  | nil => rfl
  | cons c s ih =>
    obtain ⟨l, ls, h⟩ := exists_lines nl (List.cons_ne_nil c s)
    rw [h]
    obtain ⟨-, rfl, rfl⟩ | ⟨-, rfl, rfl, rfl⟩ | ⟨-, l', hl', rfl⟩ := lines_cons h
    · simp [ih]
    · rfl
    · rw [hl'] at ih
      simpa using ih

theorem nil_notMem_lines (nl : α) (s : List α) : [] ∉ lines nl s := by
  induction s with
  | nil => exact List.not_mem_nil
  | cons c s ih =>
    obtain ⟨l, ls, h⟩ := exists_lines nl (List.cons_ne_nil c s)
    rw [h]
    obtain ⟨-, rfl, rfl⟩ | ⟨-, -, rfl, rfl⟩ | ⟨-, l', hl', rfl⟩ := lines_cons h
    · simp [ih]
    · simp
    · rw [hl'] at ih
      simp only [List.mem_cons, not_or] at ih ⊢
      exact ⟨(List.cons_ne_nil c l').symm, ih.2⟩

theorem readLine_eq (h : lines nl s = l :: ls) : readLine nl room s =
    if l.length ≤ room then (l, ls.flatten) else (l.take room, l.drop room ++ ls.flatten) := by
  induction s generalizing l room with
  | nil => cases h
  | cons c s ih =>
    have hflatten : l ++ ls.flatten = c :: s := by rw [← List.flatten_cons, ← h, flatten_lines]
    cases room with
    | zero =>
      have hl : l ≠ [] := fun hnil => nil_notMem_lines nl (c :: s) (by simp [h, hnil])
      rw [if_neg (by simpa using hl), List.take_zero, List.drop_zero, hflatten]
      rfl
    | succ room =>
      obtain ⟨hc, rfl, rfl⟩ | ⟨hc, rfl, rfl, rfl⟩ | ⟨hc, l', hl', rfl⟩ := lines_cons h
      · rw [readLine, if_pos hc, if_pos (by simp), flatten_lines]
      · rw [if_pos (by simp), readLine, if_neg hc]
        cases room <;> rfl
      · rw [readLine, if_neg hc, ih hl']
        by_cases hlen : l'.length ≤ room
        · simp [hlen]
        · simp [hlen]

theorem lines_rest (h : lines nl s = l :: ls) : lines nl ls.flatten = ls := by
  induction s generalizing l with
  | nil => cases h
  | cons c s ih =>
    obtain ⟨-, -, rfl⟩ | ⟨-, -, -, rfl⟩ | ⟨-, l', hl', -⟩ := lines_cons h
    · rw [flatten_lines]
    · rfl
    · exact ih hl'

theorem lines_drop (h : lines nl s = l :: ls) (hk : k < l.length) :
    lines nl (l.drop k ++ ls.flatten) = l.drop k :: ls := by
  induction s generalizing l k with
  | nil => cases h
  | cons c s ih =>
    cases k with
    | zero => rw [List.drop_zero, ← List.flatten_cons, ← h, flatten_lines]
    | succ k =>
      obtain ⟨-, rfl, -⟩ | ⟨-, -, rfl, -⟩ | ⟨-, l', hl', rfl⟩ := lines_cons h
      · simp at hk
      · simp at hk
      · have hk' : k < l'.length := Nat.lt_of_succ_lt_succ hk
        have hrest := ih hl' hk'
        exact hrest

theorem pieces_eq (hroom : 0 < room) (hs : s ≠ []) :
    pieces nl room s = (readLine nl room s).1 :: pieces nl room (readLine nl room s).2 := by
  obtain ⟨l, ls, h⟩ := exists_lines nl hs
  rw [readLine_eq h, pieces, h, List.flatMap_cons, chop]
  by_cases hlen : l.length ≤ room
  · rw [if_neg (by omega), if_pos hlen, pieces, lines_rest h]
    rfl
  · rw [if_pos (by omega), if_neg hlen, pieces, lines_drop h (Nat.lt_of_not_le hlen),
      List.flatMap_cons, List.cons_append]

theorem flatten_pieces (nl : α) (room : Nat) (s : List α) : (pieces nl room s).flatten = s := by
  rw [pieces, flatten_flatMap_chop, flatten_lines]

theorem readLine_rest_lt (nl : α) (hroom : 0 < room) (hs : s ≠ []) :
    (readLine nl room s).2.length < s.length := by
  obtain ⟨l, ls, h⟩ := exists_lines nl hs
  have hl : l ≠ [] := fun hnil => nil_notMem_lines nl s (by simp [h, hnil])
  have hpos := List.length_pos_iff.mpr hl
  have hflatten : l ++ ls.flatten = s := by rw [← List.flatten_cons, ← h, flatten_lines]
  rw [readLine_eq h, ← hflatten]
  split
  · simp only [List.length_append]
    omega
  · simp only [List.length_append, List.length_drop]
    omega

/-- Induction along the reader: what holds of the end of the text, and of a text if it holds of
what a reading leaves. -/
theorem reader_induction (nl : α) (hroom : 0 < room) {P : List α → Prop} (nil : P [])
    (read : ∀ s ≠ [], P (readLine nl room s).2 → P s) (s : List α) : P s := by
  induction hsize : s.length using Nat.strong_induction_on generalizing s with
  | _ size ih =>
    by_cases hs : s = []
    · rw [hs]
      exact nil
    · exact read s hs (ih _ (hsize ▸ readLine_rest_lt nl hroom hs) _ rfl)

end Reading

section First

variable {takes : List α → Bool} {l rest : List α} {ls ls' : List (List α)}

theorem first_of_takes (h : takes l = true) : first takes (l :: ls) = some (l, ls.flatten) := by
  rw [first, if_pos h]

theorem first_of_not_takes (h : takes l = false) : first takes (l :: ls) = first takes ls := by
  rw [first, h, if_neg Bool.false_ne_true]

theorem first_eq_none_iff : first takes ls = none ↔ ∀ l ∈ ls, takes l = false := by
  induction ls with
  | nil => simp [first]
  | cons l ls ih =>
    rw [List.forall_mem_cons]
    cases htakes : takes l with
    | true => simp [first_of_takes htakes]
    | false => simpa [first_of_not_takes htakes] using ih

theorem first_append_of_none (h : first takes ls = none) :
    first takes (ls ++ ls') = first takes ls' := by
  induction ls with
  | nil => rfl
  | cons l ls ih =>
    obtain ⟨hl, hls⟩ := List.forall_mem_cons.mp (first_eq_none_iff.mp h)
    rw [List.cons_append, first_of_not_takes hl, ih (first_eq_none_iff.mpr hls)]

theorem first_append_of_some (h : first takes ls = some (l, rest)) :
    first takes (ls ++ ls') = some (l, rest ++ ls'.flatten) := by
  induction ls with
  | nil => cases h
  | cons l' ls ih =>
    rw [List.cons_append]
    cases htakes : takes l' with
    | true =>
      rw [first_of_takes htakes, Option.some.injEq, Prod.mk.injEq] at h
      obtain ⟨rfl, rfl⟩ := h
      rw [first_of_takes htakes, List.flatten_append]
    | false =>
      rw [first_of_not_takes htakes] at h ⊢
      exact ih h

theorem length_rest_lt (hls : [] ∉ ls) (h : first takes ls = some (l, rest)) :
    rest.length < ls.flatten.length := by
  induction ls with
  | nil => cases h
  | cons l' ls ih =>
    obtain ⟨hl', hls⟩ := not_or.mp (mt List.mem_cons.mpr hls)
    have hpos := List.length_pos_iff.mpr (Ne.symm hl')
    rw [List.flatten_cons, List.length_append]
    cases htakes : takes l' with
    | true =>
      rw [first_of_takes htakes, Option.some.injEq, Prod.mk.injEq] at h
      rw [← h.2]
      omega
    | false =>
      rw [first_of_not_takes htakes] at h
      have hless := ih hls h
      omega

end First

section Compare

variable (room : Nat) (hit takes : List α → Bool)

/-- The line is too long, and a piece of it is taken. -/
def Misread (l : List α) : Prop := room < l.length ∧ ∃ p ∈ chop room l, hit p = true

/-- The line is to be taken, and it is not. -/
def Missed (l : List α) : Prop := takes l = true ∧ hit l = false

instance (l : List α) : Decidable (Misread room hit l) := inferInstanceAs (Decidable (_ ∧ _))

instance (l : List α) : Decidable (Missed hit takes l) := inferInstanceAs (Decidable (_ ∧ _))

end Compare

section Compare

variable {room : Nat} {hit takes : List α → Bool} {l : List α} {ls : List (List α)}

theorem first_chop_short (hlen : l.length ≤ room) (hhit : hit l = true → takes l = true)
    (hls : [] ∉ ls) :
    first hit ((l :: ls).flatMap (chop room)) = first takes (l :: ls) ↔
      if takes l then ¬ Missed hit takes l
      else first hit (ls.flatMap (chop room)) = first takes ls := by
  rw [List.flatMap_cons, chop_of_le hlen, List.singleton_append]
  cases hhitl : hit l with
  | true =>
    have htakes := hhit hhitl
    rw [first_of_takes hhitl, first_of_takes htakes, flatten_flatMap_chop]
    simp [htakes, Missed, hhitl]
  | false =>
    rw [first_of_not_takes hhitl]
    cases htakes : takes l with
    | true =>
      -- what the search finds behind the line leaves less than the line itself does
      rw [first_of_takes htakes]
      refine iff_of_false (fun h => ?_) (by simp [Missed, htakes, hhitl])
      have hless := length_rest_lt (nil_notMem_flatMap_chop hls) h
      rw [flatten_flatMap_chop] at hless
      exact Nat.lt_irrefl _ hless
    | false =>
      rw [first_of_not_takes htakes]
      simp

theorem first_chop_long (hlen : room < l.length) (htakes : takes l = false) (hls : [] ∉ ls) :
    first hit ((l :: ls).flatMap (chop room)) = first takes (l :: ls) ↔
      ¬ Misread room hit l ∧ first hit (ls.flatMap (chop room)) = first takes ls := by
  rw [List.flatMap_cons, first_of_not_takes htakes]
  by_cases hmisread : Misread room hit l
  · refine iff_of_false (fun h => ?_) fun h => h.1 hmisread
    obtain ⟨p, hp, hhitp⟩ := hmisread.2
    cases hfirst : first hit (chop room l) with
    | none => simp [first_eq_none_iff.mp hfirst p hp] at hhitp
    | some found =>
      obtain ⟨piece, rest⟩ := found
      rw [first_append_of_some hfirst] at h
      have hless := length_rest_lt hls h.symm
      rw [flatten_flatMap_chop, List.length_append] at hless
      omega
  · have hnone : first hit (chop room l) = none := first_eq_none_iff.mpr fun p hp =>
      Bool.eq_false_iff.mpr fun hhitp => hmisread ⟨hlen, p, hp, hhitp⟩
    rw [first_append_of_none hnone, and_iff_right hmisread]

/-- A search through the pieces finds the line that one through the lines finds, exactly if the
first line at which either may stop is not misread and not missed. -/
theorem first_chop_iff (htakes : ∀ l, takes l = true → l.length ≤ room)
    (hhit : ∀ l, l.length ≤ room → hit l = true → takes l = true) (hls : [] ∉ ls) :
    first hit (ls.flatMap (chop room)) = first takes ls ↔
      ∀ l, ls.find? (fun l => takes l || Misread room hit l) = some l →
        ¬ Misread room hit l ∧ ¬ Missed hit takes l := by
  induction ls with
  | nil => simp [first]
  | cons l ls ih =>
    obtain ⟨-, hls⟩ := not_or.mp (mt List.mem_cons.mpr hls)
    rw [List.find?_cons]
    by_cases hlen : l.length ≤ room
    · have hshort : ¬ Misread room hit l := fun h => Nat.not_lt.mpr hlen h.1
      rw [first_chop_short hlen (hhit l hlen) hls, ih hls]
      cases htakesl : takes l with
      | true => simp [hshort]
      | false => simp [hshort]
    · have hlong : takes l = false := Bool.eq_false_iff.mpr fun h => hlen (htakes l h)
      rw [first_chop_long (Nat.lt_of_not_le hlen) hlong hls, ih hls, hlong]
      by_cases hmisread : Misread room hit l
      · simp [hmisread]
      · simp [hmisread]

end Compare

end IarmMgrs.Lib.Lines
