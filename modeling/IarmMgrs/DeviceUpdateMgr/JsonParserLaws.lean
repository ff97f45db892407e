import IarmMgrs.DeviceUpdateMgr.JsonParser
import Mathlib.Data.List.Induction

namespace IarmMgrs.DeviceUpdateMgr.JsonParser

open Lib Lib.CString

variable {lists lists' : Heap (List VarVal)} {lo lo' hi hi' a : Addr} {s s' t : Parser}
  {j : Json} {js js' : List Json} {vv : VarVal} {vvs vvs' : List VarVal}

mutual

theorem Denotes.frame (hlo : lo' ≤ lo) (hhi : hi ≤ hi')
    (hsame : ∀ b, lo ≤ b → b < hi → lists' b = lists b) :
    ∀ (j : Json) {vv : VarVal}, Denotes lists lo hi j vv → Denotes lists' lo' hi' j vv
  | .null, _, h | .boolean _, _, h | .number _, _, h | .string _, _, h => h
  | .array elements, _, h => by
    obtain ⟨a, vvs, hvv, hfrom, hto, hlist, hall⟩ := h
    exact ⟨a, vvs, hvv, Nat.le_trans hlo hfrom, Nat.lt_of_lt_of_le hto hhi,
      (hsame a hfrom hto).trans hlist, DenotesAll.frame hlo hhi hsame elements hall⟩

theorem DenotesAll.frame (hlo : lo' ≤ lo) (hhi : hi ≤ hi')
    (hsame : ∀ b, lo ≤ b → b < hi → lists' b = lists b) :
    ∀ (js : List Json) {vvs : List VarVal}, DenotesAll lists lo hi js vvs →
      DenotesAll lists' lo' hi' js vvs
  | [], _, h => h
  | j :: js, _, h => by
    obtain ⟨vv, rest, hvvs, hvv, hall⟩ := h
    exact ⟨vv, rest, hvvs, Denotes.frame hlo hhi hsame j hvv,
      DenotesAll.frame hlo hhi hsame js hall⟩

end

theorem DenotesAll.append (h : DenotesAll lists lo hi js vvs)
    (h' : DenotesAll lists lo hi js' vvs') : DenotesAll lists lo hi (js ++ js') (vvs ++ vvs') := by
  induction js generalizing vvs with
  | nil =>
    obtain rfl : vvs = [] := h
    exact h'
  | cons j js ih =>
    obtain ⟨vv, rest, rfl, hvv, hall⟩ := h
    exact ⟨vv, rest ++ vvs', rfl, hvv, ih hall⟩

theorem anyNull_append (js js' : List Json) :
    anyNull (js ++ js') = (anyNull js || anyNull js') := by
  induction js with
  | nil => rfl
  | cons j js ih => simp [anyNull, ih, Bool.or_assoc]

/-- The values `js` have been parsed while the list at `a` was open: they are behind what it held,
unless there is a null, which takes the place of the key's value. -/
structure Pushed (js : List Json) (a : Addr) (s s' : Parser) : Prop where
  array : s'.array = s.array
  arrays : s'.arrays = s.arrays
  curKey : s'.curKey = s.curKey
  dict : s'.dict = if anyNull js then Function.update s.dict s.curKey (some .new) else s.dict
  brk : s.brk ≤ s'.brk
  frame : ∀ b < s.brk, b ≠ a → s'.lists b = s.lists b
  values : anyNull js = false → ∃ vvs, s'.lists a = (s.lists a).map (· ++ vvs) ∧
    DenotesAll s'.lists s.brk s'.brk js vvs

theorem Pushed.nil (a : Addr) (s : Parser) : Pushed [] a s s where
  array := rfl
  arrays := rfl
  curKey := rfl
  dict := rfl
  brk := Nat.le_refl _
  frame _ _ _ := rfl
  values _ := ⟨[], by simp, rfl⟩

theorem Pushed.append (h : Pushed js a s t) (h' : Pushed js' a t s') (ha : a < s.brk) :
    Pushed (js ++ js') a s s' where
  array := h'.array.trans h.array
  arrays := h'.arrays.trans h.arrays
  curKey := h'.curKey.trans h.curKey
  dict := by
    rw [h'.dict, h.dict, h.curKey, anyNull_append]
    cases anyNull js <;> cases anyNull js' <;> simp
  brk := Nat.le_trans h.brk h'.brk
  frame b hb hne := (h'.frame b (Nat.lt_of_lt_of_le hb h.brk) hne).trans (h.frame b hb hne)
  values hnull := by
    rw [anyNull_append, Bool.or_eq_false_iff] at hnull
    obtain ⟨vvs, hlist, hall⟩ := h.values hnull.1
    obtain ⟨vvs', hlist', hall'⟩ := h'.values hnull.2
    refine ⟨vvs ++ vvs', ?_, DenotesAll.append ?_ ?_⟩
    · rw [hlist', hlist, Option.map_map]
      congr 1
      funext l
      exact List.append_assoc l vvs vvs'
    · refine DenotesAll.frame (Nat.le_refl _) h'.brk (fun b hfrom hto => ?_) js hall
      exact h'.frame b hto (Nat.ne_of_gt (Nat.lt_of_lt_of_le ha hfrom))
    · exact DenotesAll.frame h.brk (Nat.le_refl _) (fun _ _ _ => rfl) js' hall'

theorem pushed_add (hopen : s.array = some a) (hnull : j.hasNull = false)
    (hvv : ∀ lists lo hi, Denotes lists lo hi j vv) : Pushed [j] a s (s.add vv) := by
  have hadd : s.add vv = s.pushBack a vv := by rw [Parser.add, hopen]
  rw [hadd]
  exact {
    array := rfl
    arrays := rfl
    curKey := rfl
    dict := by simp [anyNull, hnull, Parser.pushBack]
    brk := Nat.le_refl _
    frame := fun b _ hne => Function.update_of_ne hne ..
    values := fun _ => ⟨[vv], Function.update_self .., vv, [], rfl, hvv _ _ _, rfl⟩ }

theorem pushed_null (s : Parser) (a : Addr) : Pushed [.null] a s s.newNull where
  array := rfl
  arrays := rfl
  curKey := rfl
  dict := rfl
  brk := Nat.le_refl _
  frame _ _ _ := rfl
  values h := by cases h

theorem newArray_array (s : Parser) : s.newArray.array = some s.brk := by
  unfold Parser.newArray
  split <;> rfl

theorem newArray_brk (s : Parser) : s.newArray.brk = s.brk + 1 := by
  unfold Parser.newArray
  split <;> rfl

theorem Pushed.denotes (h : Pushed js s.brk s.newArray t) (hlist : s.newArray.lists s.brk = some [])
    (hnull : anyNull js = false) :
    Denotes t.lists s.brk t.brk (.array js) { VarVal.new with array := some s.brk } := by
  have hbrk := newArray_brk s
  have hlt : s.brk < t.brk := Nat.lt_of_lt_of_le (hbrk ▸ Nat.lt_succ_self _) h.brk
  obtain ⟨vvs, hvvs, hall⟩ := h.values hnull
  refine ⟨s.brk, vvs, rfl, Nat.le_refl _, hlt, ?_, ?_⟩
  · rw [hvvs, hlist, Option.map_some, List.nil_append]
  · exact DenotesAll.frame (hbrk ▸ Nat.le_succ _) (Nat.le_refl _) (fun _ _ _ => rfl) js hall

/-- An array within an array: its list is new, and is closed when its values are in it. -/
theorem pushed_array (hopen : s.array = some a) (ha : a < s.brk)
    (h : Pushed js s.brk s.newArray t) : Pushed [.array js] a s t.endArray := by
  have hnew : s.newArray =
      { s.allocate.pushBack a { VarVal.new with array := some s.brk } with
        arrays := a :: s.arrays
        array := some s.brk } := by
    rw [Parser.newArray, hopen]
  have harrays : t.arrays = a :: s.arrays := by rw [h.arrays, hnew]
  have hend : t.endArray = { t with array := some a, arrays := s.arrays } := by
    rw [Parser.endArray, harrays]
  have hbrk := newArray_brk s
  have hle : s.brk ≤ t.brk := Nat.le_trans (hbrk ▸ Nat.le_succ _) h.brk
  have hne : s.brk ≠ a := Nat.ne_of_gt ha
  have hopened : s.newArray.lists a =
      (s.lists a).map (· ++ [{ VarVal.new with array := some s.brk }]) := by
    rw [hnew]
    simp [Parser.pushBack, Parser.allocate, Ne.symm hne]
  have hothers : ∀ b, b ≠ s.brk → b ≠ a → s.newArray.lists b = s.lists b := fun b hb hba => by
    rw [hnew]
    simp [Parser.pushBack, Parser.allocate, hba, hb]
  have hframe : ∀ b < s.brk, t.lists b = s.newArray.lists b := fun b hb =>
    h.frame b (hbrk ▸ Nat.lt_succ_of_lt hb) (Nat.ne_of_lt hb)
  rw [hend]
  exact {
    array := hopen.symm
    arrays := rfl
    curKey := by rw [h.curKey, hnew]; rfl
    dict := by
      rw [h.dict, hnew]
      simp [anyNull, Json.hasNull, Parser.pushBack, Parser.allocate]
    brk := hle
    frame := fun b hb hba => by
      rw [hframe b hb, hothers b (Nat.ne_of_lt hb) hba]
    values := fun hnull => by
      rw [anyNull, anyNull, Bool.or_false] at hnull
      have hlist : s.newArray.lists s.brk = some [] := by
        rw [hnew]
        simp [Parser.pushBack, Parser.allocate, hne]
      refine ⟨[_], ?_, _, [], rfl, h.denotes hlist hnull, rfl⟩
      rw [hframe a ha, hopened] }

mutual

theorem pushed_value (s : Parser) (a : Addr) (hopen : s.array = some a) (ha : a < s.brk) :
    ∀ j : Json, Pushed [j] a s (j.callbacks.foldl handle s)
  | .null => pushed_null s a
  | .boolean value => pushed_add hopen rfl fun _ _ _ => rfl
  | .number text => pushed_add hopen rfl fun _ _ _ => rfl
  | .string text => by
    rw [Json.callbacks, List.foldl_cons, List.foldl_nil, handle, parseString]
    by_cases htext : text = lit "true" ∨ text = lit "false"
    · rw [if_pos htext]
      exact pushed_add hopen rfl fun _ _ _ => (if_pos htext).symm
    · rw [if_neg htext]
      exact pushed_add hopen rfl fun _ _ _ => (if_neg htext).symm
  | .array elements => by
    rw [Json.callbacks, List.foldl_cons, List.foldl_append]
    exact pushed_array hopen ha (pushed_values _ s.brk (newArray_array s)
      (newArray_brk s ▸ Nat.lt_succ_self _) elements)

theorem pushed_values (s : Parser) (a : Addr) (hopen : s.array = some a) (ha : a < s.brk) :
    ∀ js : List Json, Pushed js a s ((callbacksAll js).foldl handle s)
  | [] => .nil a s
  | j :: js => by
    have hhead := pushed_value s a hopen ha j
    rw [callbacksAll, List.foldl_append]
    exact hhead.append (pushed_values _ a (hhead.array.trans hopen)
      (Nat.lt_of_lt_of_le ha hhead.brk) js) ha

end

structure Closed (s : Parser) : Prop where
  array : s.array = none
  arrays : s.arrays = []

def Entry (lists : Heap (List VarVal)) (lo hi : Addr) (j : Json) (vv : VarVal) : Prop :=
  if j.nullInArray then vv = .new else Denotes lists lo hi j vv

theorem Entry.frame (hlo : lo' ≤ lo) (hhi : hi ≤ hi')
    (hsame : ∀ b, lo ≤ b → b < hi → lists' b = lists b) (h : Entry lists lo hi j vv) :
    Entry lists' lo' hi' j vv := by
  unfold Entry at h ⊢
  split at h
  · next hnull => rwa [if_pos hnull]
  · next hnull =>
    rw [if_neg hnull]
    exact Denotes.frame hlo hhi hsame j h

structure Stored (j : Json) (s s' : Parser) : Prop where
  closed : Closed s'
  brk : s.brk ≤ s'.brk
  frame : ∀ b < s.brk, s'.lists b = s.lists b
  value : ∃ vv, s'.dict = Function.update s.dict s.curKey (some vv) ∧
    Entry s'.lists s.brk s'.brk j vv

theorem stored_store (h : Closed s) (hvv : Entry s.lists s.brk s.brk j vv) :
    Stored j s (s.store vv) where
  closed := ⟨h.array, h.arrays⟩
  brk := Nat.le_refl _
  frame _ _ := rfl
  value := ⟨vv, rfl, hvv⟩

theorem add_closed (h : Closed s) (vv : VarVal) : s.add vv = s.store vv := by
  rw [Parser.add, h.array]

/-- A null in the array takes its place in the map, where the list was stored before. -/
theorem stored_array (hclosed : Closed s) (h : Pushed js s.brk s.newArray t) :
    Stored (.array js) s t.endArray := by
  have hnew : s.newArray =
      { s.allocate.store { VarVal.new with array := some s.brk } with array := some s.brk } := by
    rw [Parser.newArray, hclosed.array]
  have harrays : t.arrays = [] := by
    rw [h.arrays, hnew]
    exact hclosed.arrays
  have hend : t.endArray = { t with array := none } := by rw [Parser.endArray, harrays]
  have hbrk := newArray_brk s
  have hle : s.brk ≤ t.brk := Nat.le_trans (hbrk ▸ Nat.le_succ _) h.brk
  have hdict : s.newArray.dict =
      Function.update s.dict s.curKey (some { VarVal.new with array := some s.brk }) := by
    rw [hnew]
    rfl
  have hkey : s.newArray.curKey = s.curKey := by
    rw [hnew]
    rfl
  rw [hend]
  refine ⟨⟨rfl, harrays⟩, hle, fun b hb => ?_, ?_⟩
  · rw [h.frame b (hbrk ▸ Nat.lt_succ_of_lt hb) (Nat.ne_of_lt hb), hnew]
    exact Function.update_of_ne (Nat.ne_of_lt hb) ..
  · cases hnull : anyNull js with
    | true =>
      refine ⟨.new, ?_, by rw [Entry, Json.nullInArray, if_pos hnull]⟩
      rw [h.dict, hnull, hdict, hkey, if_pos rfl, Function.update_idem]
    | false =>
      have hlist : s.newArray.lists s.brk = some [] := by
        rw [hnew]
        exact Function.update_self ..
      refine ⟨{ VarVal.new with array := some s.brk }, ?_, ?_⟩
      · rw [h.dict, hnull, hdict, if_neg Bool.false_ne_true]
      · rw [Entry, Json.nullInArray, hnull]
        exact h.denotes hlist hnull

theorem stored_value (h : Closed s) : ∀ j : Json, Stored j s (j.callbacks.foldl handle s)
  | .null => stored_store h rfl
  | .boolean value => by
    rw [Json.callbacks, List.foldl_cons, List.foldl_nil, handle, Parser.newBool, add_closed h]
    exact stored_store h rfl
  | .number text => by
    rw [Json.callbacks, List.foldl_cons, List.foldl_nil, handle, Parser.newString, add_closed h]
    exact stored_store h rfl
  | .string text => by
    rw [Json.callbacks, List.foldl_cons, List.foldl_nil, handle, parseString]
    by_cases htext : text = lit "true" ∨ text = lit "false"
    · rw [if_pos htext, Parser.newBool, add_closed h]
      exact stored_store h (if_pos htext).symm
    · rw [if_neg htext, Parser.newString, add_closed h]
      exact stored_store h (if_neg htext).symm
  | .array elements => by
    rw [Json.callbacks, List.foldl_cons, List.foldl_append]
    exact stored_array h (pushed_values _ s.brk (newArray_array s)
      (newArray_brk s ▸ Nat.lt_succ_self _) elements)

structure Entries (o : Object) (s : Parser) : Prop where
  closed : Closed s
  missing : ∀ key, lastValue o key = none → s.dict key = none
  last : ∀ key j, lastValue o key = some j →
    ∃ vv, s.dict key = some vv ∧ Entry s.lists 0 s.brk j vv

theorem lastValue_snoc (o : Object) (key key' : List UInt8) (j : Json) :
    lastValue (o ++ [(key, j)]) key' = if key = key' then some j else lastValue o key' := by
  by_cases hkey : key = key'
  · simp [lastValue, hkey]
  · simp [lastValue, hkey]

theorem Entries.member {o : Object} (h : Entries o s) (key : List UInt8) (j : Json) :
    Entries (o ++ [(key, j)]) ((memberCallbacks (key, j)).foldl handle s) := by
  have hclosed : Closed (s.newKey key) := ⟨h.closed.array, h.closed.arrays⟩
  obtain ⟨hafter, hbrk, hframe, vv, hdict, hentry⟩ := stored_value hclosed j
  rw [memberCallbacks, List.foldl_cons]
  refine ⟨hafter, fun key' hlast => ?_, fun key' j' hlast => ?_⟩
  · rw [lastValue_snoc] at hlast
    split at hlast
    · cases hlast
    · next hne =>
      exact (congrFun hdict key').trans
        ((Function.update_of_ne (Ne.symm hne) ..).trans (h.missing key' hlast))
  · rw [lastValue_snoc] at hlast
    split at hlast
    · next heq =>
      subst heq
      obtain rfl := Option.some.inj hlast
      exact ⟨vv, (congrFun hdict key).trans (Function.update_self ..),
        hentry.frame (Nat.zero_le _) (Nat.le_refl _) fun _ _ _ => rfl⟩
    · next hne =>
      obtain ⟨vv', hvv', hentry'⟩ := h.last key' j' hlast
      refine ⟨vv', (congrFun hdict key').trans
        ((Function.update_of_ne (Ne.symm hne) ..).trans hvv'), ?_⟩
      exact hentry'.frame (Nat.le_refl _) hbrk fun b _ hb => hframe b hb

theorem entries_members (o : Object) :
    Entries o ((o.flatMap memberCallbacks).foldl handle .init) := by
  induction o using List.reverseRecOn with
  | nil => exact ⟨⟨rfl, rfl⟩, fun _ _ => rfl, fun _ _ hlast => nomatch hlast⟩
  | append_singleton o m ih =>
    rw [List.flatMap_append, List.flatMap_singleton, List.foldl_append]
    exact ih.member m.1 m.2

theorem parse_entries (o : Object) : Entries o (parse o) := by
  have hmembers := entries_members o
  rw [parse, Object.callbacks, List.foldl_cons, List.foldl_append]
  exact hmembers

theorem not_denotes_new (h : j.nullInArray = true) : ¬ Denotes lists lo hi j .new := by
  cases j with
  | array elements =>
    rintro ⟨a, vvs, hvv, -⟩
    cases hvv
  | _ => cases h

/-- Every key maps to its last value exactly if no such value holds a null inside an array. -/
theorem parse_rebuilt_iff (o : Object) :
    Rebuilt o (parse o) ↔ ∀ key j, lastValue o key = some j → j.nullInArray = false := by
  have hentries := parse_entries o
  constructor
  · intro h key j hlast
    obtain ⟨vv, hvv, hentry⟩ := hentries.last key j hlast
    have hrebuilt := h.entries key
    simp only [hlast] at hrebuilt
    obtain ⟨vv', hvv', hdenotes⟩ := hrebuilt
    obtain rfl := Option.some.inj (hvv.symm.trans hvv')
    by_contra hnull
    rw [Bool.not_eq_false] at hnull
    rw [Entry, if_pos hnull] at hentry
    exact not_denotes_new hnull (hentry ▸ hdenotes)
  · intro h
    refine ⟨hentries.closed.array, hentries.closed.arrays, fun key => ?_⟩
    cases hlast : lastValue o key with
    | none => exact hentries.missing key hlast
    | some j =>
      obtain ⟨vv, hvv, hentry⟩ := hentries.last key j hlast
      rw [Entry, h key j hlast] at hentry
      exact ⟨vv, hvv, hentry⟩

theorem parse_loses_array :
    (parse [(lit "k", .array [.string (lit "x"), .null])]).dict (lit "k") = some .new ∧
      ¬ Rebuilt [(lit "k", .array [.string (lit "x"), .null])]
        (parse [(lit "k", .array [.string (lit "x"), .null])]) := by
  refine ⟨by decide, fun h => ?_⟩
  obtain ⟨vv, hvv, hdenotes⟩ := h.entries (lit "k")
  obtain rfl := Option.some.inj hvv
  exact not_denotes_new rfl hdenotes

end IarmMgrs.DeviceUpdateMgr.JsonParser
