import IarmMgrs.Lib.CString
import IarmMgrs.Lib.Transition

/-! The shell command language, as far as one simple command goes: quoting, the recognition of
words, quote removal and pathname expansion, whose matches are a parameter.  The reader is a
transition system over the characters.  It stops at operators, and at expansions, which bring in
what is not in the string. -/

namespace IarmMgrs.Lib.Shell

open Transition CString

inductive Kind
  | newline
  | blank
  | backslash
  | apostrophe
  | quotation
  | expansion
  | operator
  | semicolon
  | hash
  | plain
  deriving DecidableEq

def kind (c : UInt8) : Kind :=
  if c = 10 then .newline
  else if c = 9 ∨ c = 32 then .blank
  else if c = 92 then .backslash
  else if c = 39 then .apostrophe
  else if c = 34 then .quotation
  else if c = 36 ∨ c = 96 then .expansion
  else if c ∈ lit "|&<>()" then .operator
  else if c = 59 then .semicolon
  else if c = 35 then .hash
  else .plain

/-- A character that stands for itself inside of a word. -/
def Ordinary (c : UInt8) : Prop := kind c = .plain ∨ kind c = .hash

instance (c : UInt8) : Decidable (Ordinary c) := inferInstanceAs (Decidable (_ ∨ _))

theorem forall_of_all {P : UInt8 → Prop} [DecidablePred P] {s : List UInt8}
    (h : s.all (P ·) = true) : ∀ c ∈ s, P c :=
  fun c hc => of_decide_eq_true (List.all_eq_true.mp h c hc)

structure Symbol where
  char : UInt8
  quoted : Bool
  deriving DecidableEq

abbrev Word := List Symbol

def bare (s : List UInt8) : Word := s.map (⟨·, false⟩)

/-- Quote removal; the quotes themselves are not kept in a word. -/
def Word.text (w : Word) : List UInt8 := w.map Symbol.char

@[simp] theorem text_bare (s : List UInt8) : (bare s).text = s := by
  simp [bare, Word.text, Function.comp_def]

inductive Mode
  | unquoted
  | escaped
  | single
  | double
  | doubleEscaped
  | comment
  deriving DecidableEq

structure Reader where
  words : List Word
  word : Option Word
  mode : Mode
  ended : Bool
  deriving DecidableEq

namespace Reader

def init : Reader := ⟨[], none, .unquoted, false⟩

def inWord (r : Reader) (w : Word) : Reader := { r with word := some w }

def push (r : Reader) (c : UInt8) (quoted : Bool) : Option Reader :=
  if r.ended then none else some (r.inWord (r.word.getD [] ++ [⟨c, quoted⟩]))

/-- A quotation begins a word, were it the empty one. -/
def quote (r : Reader) (mode : Mode) : Option Reader :=
  if r.ended then none else some { r.inWord (r.word.getD []) with mode := mode }

def close (r : Reader) : Reader := { r with words := r.words ++ r.word.toList, word := none }

/-- The end of a line; lines in front of the command are empty. -/
def endLine (r : Reader) : Reader :=
  { r.close with mode := .unquoted, ended := r.ended || !r.close.words.isEmpty }

def step (r : Reader) (c : UInt8) : Option Reader :=
  match r.mode with
  | .unquoted =>
    match kind c with
    | .newline => some r.endLine
    | .blank => some r.close
    | .backslash => some { r with mode := .escaped }
    | .apostrophe => r.quote .single
    | .quotation => r.quote .double
    | .expansion | .operator => none
    | .semicolon =>
      if r.ended || r.close.words.isEmpty then none else some { r.close with ended := true }
    | .hash => if r.word = none then some { r with mode := .comment } else r.push c false
    | .plain => r.push c false
  | .escaped =>
    -- a line that goes on leaves nothing behind
    if kind c = .newline then some { r with mode := .unquoted }
    else { r with mode := .unquoted }.push c true
  | .single =>
    if kind c = .apostrophe then some { r with mode := .unquoted } else r.push c true
  | .double =>
    match kind c with
    | .quotation => some { r with mode := .unquoted }
    | .backslash => some { r with mode := .doubleEscaped }
    | .expansion => none
    | _ => r.push c true
  | .doubleEscaped =>
    match kind c with
    | .newline => some { r with mode := .double }
    | .quotation | .backslash | .expansion => { r with mode := .double }.push c true
    | _ => ({ r with mode := .double }.push 92 true).bind (·.push c true)
  | .comment => if kind c = .newline then some r.endLine else some r

/-- The words at the end of the string, unless a quotation is open. -/
def finish (r : Reader) : Option (List Word) :=
  match r.mode with
  | .unquoted | .comment => some r.close.words
  | _ => none

end Reader

def readWords (input : List UInt8) : Option (List Word) :=
  (run Reader.step .init input).bind Reader.finish

namespace Word

/-- A bracket is closed in the same component of the path, behind its first member. -/
def closes (w : Word) : Bool :=
  let w := w.takeWhile (·.char ≠ 47)
  let w := if w.head? = some ⟨33, false⟩ then w.drop 1 else w
  ⟨93, false⟩ ∈ w.drop 1

def isPattern : Word → Bool
  | [] => false
  | c :: w =>
    !c.quoted && (c.char = 42 || c.char = 63 || (c.char = 91 && closes w)) || isPattern w

def reserved : List (List UInt8) :=
  ["!", "\x7b", "\x7d", "case", "do", "done", "elif", "else", "esac", "fi", "for", "if", "in",
    "then", "until", "while"].map lit

/-- In front of a command, it is a reserved word or an assignment. -/
def isReserved (w : Word) : Bool :=
  ⟨61, false⟩ ∈ w || w.all (!·.quoted) && reserved.contains w.text

def isTilde (w : Word) : Bool := w.head? = some ⟨126, false⟩

/-- A pattern that matches nothing is left as it is. -/
def fields (paths : Word → List (List UInt8)) (w : Word) : List (List UInt8) :=
  if w.isPattern && !(paths w).isEmpty then paths w else [w.text]

end Word

/-- The name of the command and its arguments; `paths` are the pathnames that match a pattern. -/
def arguments (paths : Word → List (List UInt8)) (input : List UInt8) :
    Option (List (List UInt8)) :=
  match readWords input with
  | some (w :: ws) =>
    if w.isReserved || (w :: ws).any Word.isTilde then none
    else some ((w :: ws).flatMap (Word.fields paths))
  | _ => none

/-- The string is this one command, whichever files there are. -/
def ParsedAs (input : List UInt8) (args : List (List UInt8)) : Prop :=
  ∀ paths, arguments paths input = some args

namespace Reader

variable {r r' r'' : Reader} {c : UInt8} {s : List UInt8} {m : Mode} {quoted : Bool}

def stored (r : Reader) : Nat := r.words.flatten.length + (r.word.getD []).length

/-- A backslash between double quotes is kept back until the next character is there. -/
def held (r : Reader) : Nat := r.stored + if r.mode = .doubleEscaped then 1 else 0

theorem push_some (h : r.push c quoted = some r') :
    r' = r.inWord (r.word.getD [] ++ [⟨c, quoted⟩]) := by
  unfold push at h
  split at h
  · cases h
  · exact (Option.some.inj h).symm

theorem quote_some (h : r.quote m = some r') :
    r' = { r.inWord (r.word.getD []) with mode := m } := by
  unfold quote at h
  split at h
  · cases h
  · exact (Option.some.inj h).symm

theorem stored_push (h : r.push c quoted = some r') : r'.stored = r.stored + 1 := by
  obtain rfl := push_some h
  simp [stored, inWord, Nat.add_assoc]

theorem stored_close (r : Reader) : r.close.stored = r.stored := by
  cases hword : r.word with
  | none => simp [close, stored, hword]
  | some w => simp [close, stored, hword]

theorem held_push (hmode : r.mode ≠ .doubleEscaped) (h : r.push c quoted = some r') :
    r'.held = r.held + 1 := by
  have hstored := stored_push h
  obtain rfl := push_some h
  simpa [held, inWord, hmode] using hstored

theorem held_close (r : Reader) : r.close.held = r.held := by
  rw [held, held, stored_close]
  rfl

theorem held_endLine (hmode : r.mode ≠ .doubleEscaped) : r.endLine.held = r.held := by
  have hstored : r.endLine.stored = r.stored := stored_close r
  rw [held, held, hstored, if_neg hmode, if_neg (by simp [endLine])]

theorem held_quote (hmode : r.mode ≠ .doubleEscaped) (hm : m ≠ .doubleEscaped)
    (h : r.quote m = some r') : r'.held = r.held := by
  obtain rfl := quote_some h
  cases hword : r.word <;> simp [held, stored, inWord, hmode, hm, hword]

theorem held_mode (hmode : r.mode ≠ .doubleEscaped) (hm : m ≠ .doubleEscaped) :
    { r with mode := m }.held = r.held := by
  simp [held, stored, hmode, hm]

theorem step_of_ordinary (hmode : r.mode = .unquoted) (hword : r.word ≠ none) (hc : Ordinary c) :
    r.step c = r.push c false := by
  obtain hplain | hhash := hc
  · simp [step, hmode, hplain]
  · simp [step, hmode, hhash, hword]

inductive Stepped (r : Reader) (c : UInt8) (r' : Reader) : Prop
  | kept (m : Mode) (quoted : Bool) (before : r.mode ≠ .doubleEscaped)
      (ordinary : r.mode = .unquoted → Ordinary c) (after : m ≠ .doubleEscaped ∧ m ≠ .escaped)
      (push : { r with mode := m }.push c quoted = some r')
  | turned (m : Mode) (before : r.mode ≠ .doubleEscaped)
      (after : m = .doubleEscaped → r.mode = .double) (escape : m = .escaped → kind c = .backslash)
      (mode : r' = { r with mode := m })
  | opened (m : Mode) (before : r.mode ≠ .doubleEscaped) (after : m = .single ∨ m = .double)
      (quote : r.quote m = some r')
  | separated (before : r.mode ≠ .doubleEscaped) (after : r'.mode = .unquoted)
      (same : r'.held = r.held)
  | joined (before : r.mode = .doubleEscaped) (mode : r' = { r with mode := .double })
  | escaped (before : r.mode = .doubleEscaped)
      (push : { r with mode := .double }.push c true = some r')
  | unescaped (between : Reader) (before : r.mode = .doubleEscaped)
      (first : { r with mode := .double }.push 92 true = some between)
      (push : between.push c true = some r')

theorem stepped_unquoted (hmode : r.mode = .unquoted) (h : r.step c = some r') :
    Stepped r c r' := by
  have hne : r.mode ≠ .doubleEscaped := by simp [hmode]
  have hself : { r with mode := .unquoted } = r := by rw [← hmode]
  simp only [step, hmode] at h
  cases hkind : kind c with
  | newline =>
    simp only [hkind, Option.some.injEq] at h
    exact .separated hne (by simp [← h, endLine]) (h ▸ held_endLine hne)
  | blank =>
    simp only [hkind, Option.some.injEq] at h
    exact .separated hne (by simp [← h, close, hmode]) (h ▸ held_close r)
  | backslash =>
    simp only [hkind, Option.some.injEq] at h
    exact .turned .escaped hne (fun h => nomatch h) (fun _ => hkind) h.symm
  | apostrophe =>
    simp only [hkind] at h
    exact .opened .single hne (.inl rfl) h
  | quotation =>
    simp only [hkind] at h
    exact .opened .double hne (.inr rfl) h
  | expansion => simp [hkind] at h
  | operator => simp [hkind] at h
  | semicolon =>
    simp only [hkind] at h
    split at h
    · cases h
    · obtain rfl := Option.some.inj h
      exact .separated hne (by simp [close, hmode]) (held_close r)
  | hash =>
    simp only [hkind] at h
    split at h
    · exact .turned .comment hne (fun h => nomatch h) (fun h => nomatch h) (Option.some.inj h).symm
    · exact .kept .unquoted false hne (fun _ => .inr hkind) (by decide) (hself ▸ h)
  | plain =>
    simp only [hkind] at h
    exact .kept .unquoted false hne (fun _ => .inl hkind) (by decide) (hself ▸ h)

theorem stepped_double (hmode : r.mode = .double) (h : r.step c = some r') : Stepped r c r' := by
  have hne : r.mode ≠ .doubleEscaped := by simp [hmode]
  have hself : { r with mode := .double } = r := by rw [← hmode]
  have hnot : r.mode = .unquoted → Ordinary c := by simp [hmode]
  simp only [step, hmode] at h
  split at h
  · exact .turned .unquoted hne (fun h => nomatch h) (fun h => nomatch h) (Option.some.inj h).symm
  · exact .turned .doubleEscaped hne (fun _ => hmode) (fun h => nomatch h)
      (Option.some.inj h).symm
  · cases h
  · exact .kept .double true hne hnot (by decide) (hself ▸ h)

theorem stepped_doubleEscaped (hmode : r.mode = .doubleEscaped) (h : r.step c = some r') :
    Stepped r c r' := by
  simp only [step, hmode] at h
  split at h
  · exact .joined hmode (Option.some.inj h).symm
  · exact .escaped hmode h
  · exact .escaped hmode h
  · exact .escaped hmode h
  · obtain ⟨between, hfirst, hsecond⟩ := Option.bind_eq_some_iff.mp h
    exact .unescaped between hmode hfirst hsecond

theorem step_stepped (h : r.step c = some r') : Stepped r c r' := by
  cases hmode : r.mode with
  | unquoted => exact stepped_unquoted hmode h
  | escaped =>
    have hne : r.mode ≠ .doubleEscaped := by simp [hmode]
    simp only [step, hmode] at h
    split at h
    · exact .turned .unquoted hne (fun h => nomatch h) (fun h => nomatch h)
        (Option.some.inj h).symm
    · exact .kept .unquoted true hne (by simp [hmode]) (by decide) h
  | single =>
    have hne : r.mode ≠ .doubleEscaped := by simp [hmode]
    have hself : { r with mode := .single } = r := by rw [← hmode]
    simp only [step, hmode] at h
    split at h
    · exact .turned .unquoted hne (fun h => nomatch h) (fun h => nomatch h)
        (Option.some.inj h).symm
    · exact .kept .single true hne (by simp [hmode]) (by decide) (hself ▸ h)
  | double => exact stepped_double hmode h
  | doubleEscaped => exact stepped_doubleEscaped hmode h
  | comment =>
    have hne : r.mode ≠ .doubleEscaped := by simp [hmode]
    have hself : { r with mode := .comment } = r := by rw [← hmode]
    simp only [step, hmode] at h
    split at h
    · obtain rfl := Option.some.inj h
      exact .separated hne (by simp [endLine]) (held_endLine hne)
    · exact .turned .comment hne (fun h => nomatch h) (fun h => nomatch h)
        (hself ▸ (Option.some.inj h).symm)

theorem mode_push (h : r.push c quoted = some r') : r'.mode = r.mode := by
  rw [push_some h]
  rfl

theorem held_step_unquoted (hmode : r.mode = .unquoted) (hc : ¬ Ordinary c)
    (h : r.step c = some r') : r'.held = r.held := by
  cases step_stepped h with
  | kept _ _ _ ordinary => exact absurd (ordinary hmode) hc
  | turned m before after _ mode =>
    have hm : m ≠ .doubleEscaped := fun hm => by simp [after hm] at hmode
    exact mode ▸ held_mode before hm
  | opened m before after quote =>
    have hm : m ≠ .doubleEscaped := by obtain rfl | rfl := after <;> decide
    exact held_quote before hm quote
  | separated _ _ same => exact same
  | joined before => simp [hmode] at before
  | escaped before => simp [hmode] at before
  | unescaped _ before => simp [hmode] at before

theorem held_step (h : r.step c = some r') : r'.held ≤ r.held + 1 := by
  cases step_stepped h with
  | kept m quoted before _ after push =>
    exact Nat.le_of_eq (held_mode before after.1 ▸ held_push after.1 push)
  | turned m before after _ mode =>
    by_cases hm : m = .doubleEscaped
    · simp [mode, held, stored, hm, after hm]
    · exact Nat.le_succ_of_le (Nat.le_of_eq (mode ▸ held_mode before hm))
  | opened m before after quote =>
    have hm : m ≠ .doubleEscaped := by obtain rfl | rfl := after <;> decide
    exact Nat.le_succ_of_le (Nat.le_of_eq (held_quote before hm quote))
  | separated _ _ same => exact Nat.le_succ_of_le (Nat.le_of_eq same)
  | joined before mode =>
    have hopen : { r with mode := .double }.held + 1 = r.held := by simp [held, stored, before]
    rw [mode]
    omega
  | escaped before push =>
    have hopen : { r with mode := .double }.held + 1 = r.held := by simp [held, stored, before]
    have hheld := held_push (by simp) push
    omega
  | unescaped between before first push =>
    have hopen : { r with mode := .double }.held + 1 = r.held := by simp [held, stored, before]
    have hmode : between.mode = .double := mode_push first
    have hfirst := held_push (by simp) first
    have hsecond := held_push (by simp [hmode]) push
    omega

theorem held_run (h : run step r s = some r') : r'.held ≤ r.held + s.length := by
  induction s generalizing r with
  | nil =>
    obtain rfl := Option.some.inj h
    exact Nat.le_refl _
  | cons c s ih =>
    obtain ⟨r₁, hstep, hrun⟩ := run_cons.mp h
    have hfirst := held_step hstep
    have hrest := ih hrun
    rw [List.length_cons]
    omega

theorem run_ordinary (hmode : r.mode = .unquoted) (hended : r.ended = false) {w : Word}
    (hword : r.word = some w) (hs : ∀ c ∈ s, Ordinary c) :
    run step r s = some (r.inWord (w ++ bare s)) := by
  induction s generalizing r w with
  | nil => simp [run, bare, inWord, ← hword]
  | cons c s ih =>
    obtain ⟨hc, hs⟩ := List.forall_mem_cons.mp hs
    have hstep : r.step c = some (r.inWord (w ++ [⟨c, false⟩])) := by
      rw [step_of_ordinary hmode (by simp [hword]) hc]
      simp [push, hended, hword]
    rw [run, hstep, Option.bind_some, ih (r := r.inWord _) hmode hended rfl hs]
    simp [bare, inWord]

theorem run_word (hmode : r.mode = .unquoted) (hended : r.ended = false) (hword : r.word = none)
    (hc : kind c = .plain) (hs : ∀ c ∈ s, Ordinary c) :
    run step r (c :: s) = some (r.inWord (bare (c :: s))) := by
  have hstep : r.step c = some (r.inWord [⟨c, false⟩]) := by
    simp [step, hmode, hc, push, hended, hword]
  rw [run, hstep, Option.bind_some, run_ordinary (r := r.inWord _) hmode hended rfl hs]
  rfl

theorem ordinary_of_held (hmode : r.mode = .unquoted) (hword : r.word ≠ none)
    (h : run step r s = some r') (hheld : r.held + s.length ≤ r'.held) :
    ∀ c ∈ s, Ordinary c := by
  induction s generalizing r with
  | nil => simp
  | cons c s ih =>
    obtain ⟨r₁, hstep, hrun⟩ := run_cons.mp h
    have hrest := held_run hrun
    rw [List.length_cons] at hheld
    have hc : Ordinary c := by
      by_contra hc
      have hfirst := held_step_unquoted hmode hc hstep
      omega
    rw [step_of_ordinary hmode hword hc] at hstep
    have hfirst := held_push (by simp [hmode]) hstep
    obtain rfl := push_some hstep
    have hword' : (r.inWord (r.word.getD [] ++ [⟨c, false⟩])).word ≠ none := by simp [inWord]
    exact List.forall_mem_cons.mpr ⟨hc, ih (r := r.inWord _) hmode hword' hrun (by omega)⟩

def Simple (c : UInt8) : Prop := kind c = .plain ∨ kind c = .blank

instance (c : UInt8) : Decidable (Simple c) := inferInstanceAs (Decidable (_ ∨ _))

def plainCount (s : List UInt8) : Nat := s.countP fun c => kind c = .plain

def Quoting (r : Reader) : Prop := r.mode = .single ∨ r.mode = .double ∨ r.mode = .doubleEscaped

theorem Quoting.step (hquoting : r.Quoting) (hc : Simple c) (h : r.step c = some r') :
    r'.Quoting := by
  obtain hmode | hmode | hmode := hquoting
  · have hkind : kind c ≠ .apostrophe := by
      obtain hplain | hblank := hc
      · simp [hplain]
      · simp [hblank]
    simp only [Reader.step, hmode, if_neg hkind] at h
    exact .inl (mode_push h ▸ hmode)
  · have hpush : r.push c true = some r' := by
      obtain hplain | hblank := hc
      · simpa [Reader.step, hmode, hplain] using h
      · simpa [Reader.step, hmode, hblank] using h
    exact .inr (.inl (mode_push hpush ▸ hmode))
  · have hpush : ({ r with mode := .double }.push 92 true).bind (·.push c true) = some r' := by
      obtain hplain | hblank := hc
      · simpa [Reader.step, hmode, hplain] using h
      · simpa [Reader.step, hmode, hblank] using h
    obtain ⟨r₁, hfirst, hsecond⟩ := Option.bind_eq_some_iff.mp hpush
    exact .inr (.inl ((mode_push hsecond).trans (mode_push hfirst)))

theorem Quoting.run (hquoting : r.Quoting) (hs : ∀ c ∈ s, Simple c)
    (h : Transition.run Reader.step r s = some r') : r'.Quoting :=
  run_invariant_along Quoting (fun _ _ _ hquoting hc hstep => hquoting.step hc hstep) hquoting
    (Along.of_mem fun c hc _ => hs c hc) h

theorem Quoting.finish (hquoting : r.Quoting) : r.finish = none := by
  obtain hmode | hmode | hmode := hquoting <;> simp [Reader.finish, hmode]

theorem finish_some {ws : List Word} (h : r.finish = some ws) :
    ws.flatten.length = r.held := by
  unfold finish at h
  split at h
  · next hmode =>
    obtain rfl := Option.some.inj h
    rw [← held_close, held, if_neg (by simp [close, hmode])]
    simp [stored, close]
  · next hmode =>
    obtain rfl := Option.some.inj h
    rw [← held_close, held, if_neg (by simp [close, hmode])]
    simp [stored, close]
  · cases h

theorem held_simple (hmode : r.mode = .unquoted ∨ r.mode = .comment) (hs : ∀ c ∈ s, Simple c)
    (h : run step r s = some r') : r'.held ≤ r.held + plainCount s := by
  induction s generalizing r with
  | nil =>
    obtain rfl := Option.some.inj h
    exact Nat.le_refl _
  | cons c s ih =>
    obtain ⟨hc, hs⟩ := List.forall_mem_cons.mp hs
    obtain ⟨r₁, hstep, hrun⟩ := run_cons.mp h
    rw [plainCount, List.countP_cons, ← plainCount]
    obtain hmode | hmode := hmode
    · obtain hplain | hblank := hc
      · have hpush : r.push c false = some r₁ := by simpa [step, hmode, hplain] using hstep
        have hheld := held_push (by simp [hmode]) hpush
        have hrest := ih (.inl (mode_push hpush ▸ hmode)) hs hrun
        simp only [hplain, decide_true, if_true]
        omega
      · simp only [step, hmode, hblank, Option.some.injEq] at hstep
        subst hstep
        have hrest := ih (r := r.close) (.inl hmode) hs hrun
        rw [held_close] at hrest
        omega
    · have hkind : kind c ≠ .newline := by
        obtain hplain | hblank := hc
        · simp [hplain]
        · simp [hblank]
      simp only [step, hmode, if_neg hkind, Option.some.injEq] at hstep
      subst hstep
      have hrest := ih (.inr hmode) hs hrun
      omega

theorem kind_of_escaped (h : r.step c = some r') (hescaped : r'.mode = .escaped) :
    kind c = .backslash := by
  cases step_stepped h with
  | kept m _ _ _ after push => exact absurd ((mode_push push).symm.trans hescaped) after.2
  | turned m _ _ escape mode => exact escape (by simpa [mode] using hescaped)
  | opened m _ after quote =>
    obtain rfl | rfl := after
    · simp [quote_some quote] at hescaped
    · simp [quote_some quote] at hescaped
  | separated _ after => simp [after] at hescaped
  | joined _ mode => simp [mode] at hescaped
  | escaped _ push => simp [mode_push push] at hescaped
  | unescaped between _ first push => simp [mode_push push, mode_push first] at hescaped

theorem escaped_of_run (hmode : r.mode ≠ .escaped) (h : run step r s = some r')
    (hescaped : r'.mode = .escaped) : ∃ c, s.getLast? = some c ∧ kind c = .backslash := by
  obtain rfl | ⟨s, c, rfl⟩ := List.eq_nil_or_concat s
  · obtain rfl := Option.some.inj h
    exact absurd hescaped hmode
  · rw [List.concat_eq_append] at h ⊢
    obtain ⟨r₁, -, hlast⟩ := run_append.mp h
    obtain ⟨r₂, hstep, hnil⟩ := run_cons.mp hlast
    obtain rfl := Option.some.inj hnil
    exact ⟨c, by simp, kind_of_escaped hstep hescaped⟩

end Reader

/-- A part of a string that has to be held as a whole, between a word that has begun and
characters without quotes, is made of ordinary characters. -/
theorem ordinary_of_readWords {before s after : List UInt8} {r : Reader} {ws : List Word}
    (hbefore : run Reader.step .init before = some r) (hmode : r.mode = .unquoted)
    (hword : r.word ≠ none) (hlast : ∀ c, s.getLast? = some c → kind c ≠ .backslash)
    (hafter : ∀ c ∈ after, Reader.Simple c) (h : readWords (before ++ (s ++ after)) = some ws)
    (hsize : r.held + s.length + Reader.plainCount after ≤ ws.flatten.length) :
    ∀ c ∈ s, Ordinary c := by
  obtain ⟨r₂, hrun, hfinish⟩ := Option.bind_eq_some_iff.mp h
  obtain ⟨r', hbefore', hrun⟩ := run_append.mp hrun
  obtain rfl := Option.some.inj (hbefore.symm.trans hbefore')
  obtain ⟨r₁, hs, hrest⟩ := run_append.mp hrun
  have hheld := Reader.finish_some hfinish
  have houtside : r₁.mode = .unquoted ∨ r₁.mode = .comment → ∀ c ∈ s, Ordinary c := fun hout => by
    have hsimple := Reader.held_simple hout hafter hrest
    exact Reader.ordinary_of_held hmode hword hs (by omega)
  have hquoting : ¬ r₁.Quoting := fun hquoting => by
    rw [(hquoting.run hafter hrest).finish] at hfinish
    cases hfinish
  cases hmode₁ : r₁.mode with
  | unquoted => exact houtside (.inl hmode₁)
  | comment => exact houtside (.inr hmode₁)
  | single => exact absurd (.inl hmode₁) hquoting
  | double => exact absurd (.inr (.inl hmode₁)) hquoting
  | doubleEscaped => exact absurd (.inr (.inr hmode₁)) hquoting
  | escaped =>
    obtain ⟨c, hc, hkind⟩ := Reader.escaped_of_run (by simp [hmode]) hs hmode₁
    exact absurd hkind (hlast c hc)

section Arguments

variable {paths : Word → List (List UInt8)} {input : List UInt8} {args : List (List UInt8)}
  {w : Word} {s t : List UInt8}

theorem arguments_some_iff : arguments paths input = some args ↔
    ∃ w ws, readWords input = some (w :: ws) ∧
      (w.isReserved || (w :: ws).any Word.isTilde) = false ∧
      (w :: ws).flatMap (Word.fields paths) = args := by
  unfold arguments
  split
  · next w ws hwords =>
    have honly : ∀ w' ws', readWords input = some (w' :: ws') → w = w' ∧ ws = ws' :=
      fun w' ws' hwords' => List.cons.inj (Option.some.inj (hwords.symm.trans hwords'))
    split
    · next hspecial =>
      refine iff_of_false (fun h => nomatch h) ?_
      rintro ⟨w', ws', hwords', hnot, -⟩
      obtain ⟨rfl, rfl⟩ := honly w' ws' hwords'
      rw [hspecial] at hnot
      cases hnot
    · next hspecial =>
      rw [Option.some.injEq]
      constructor
      · exact fun h => ⟨w, ws, hwords, Bool.eq_false_iff.mpr hspecial, h⟩
      · rintro ⟨w', ws', hwords', -, h⟩
        obtain ⟨rfl, rfl⟩ := honly w' ws' hwords'
        exact h
  · next hno =>
    refine iff_of_false (fun h => nomatch h) ?_
    rintro ⟨w, ws, hwords, -⟩
    exact hno w ws hwords

theorem fields_of_not_pattern (h : w.isPattern = false) : w.fields paths = [w.text] := by
  simp [Word.fields, h]

/-- The command does not depend on the files exactly if no word is a pattern. -/
theorem parsedAs_iff : ParsedAs input args ↔
    ∃ w ws, readWords input = some (w :: ws) ∧
      (w.isReserved || (w :: ws).any Word.isTilde) = false ∧
      (∀ v ∈ w :: ws, v.isPattern = false) ∧ (w :: ws).map Word.text = args := by
  constructor
  · intro h
    obtain ⟨w, ws, hwords, hspecial, htext⟩ := arguments_some_iff.mp (h fun _ => [])
    have htext : (w :: ws).map Word.text = args := by
      rw [← htext, List.map_eq_flatMap]
      exact List.flatMap_congr fun v _ => by simp [Word.fields]
    refine ⟨w, ws, hwords, hspecial, ?_, htext⟩
    -- a file that a pattern matches shows up in the arguments
    obtain ⟨w', ws', hwords', -, hfields⟩ :=
      arguments_some_iff.mp (h fun v => [v.text ++ [0]])
    obtain ⟨rfl, rfl⟩ := List.cons.inj (Option.some.inj (hwords.symm.trans hwords'))
    have hone : ∀ v : Word, v.fields (fun v => [v.text ++ [0]]) =
        [if v.isPattern then v.text ++ [0] else v.text] := fun v => by
      cases hv : v.isPattern <;> simp [Word.fields, hv]
    rw [← htext, List.flatMap_congr fun v _ => hone v, ← List.map_eq_flatMap,
      List.map_inj_left] at hfields
    intro v hv
    by_contra hpattern
    simpa [hpattern] using hfields v hv
  · rintro ⟨w, ws, hwords, hspecial, hpattern, rfl⟩ paths
    refine arguments_some_iff.mpr ⟨w, ws, hwords, hspecial, ?_⟩
    rw [List.map_eq_flatMap]
    exact List.flatMap_congr fun v hv => fields_of_not_pattern (hpattern v hv)

def Literal (c : UInt8) : Prop := kind c = .plain ∧ c ∉ 0 :: lit "*?[~=%"

instance (c : UInt8) : Decidable (Literal c) := inferInstanceAs (Decidable (_ ∧ _))

theorem Literal.ordinary {c : UInt8} (h : Literal c) : Ordinary c := .inl h.1

theorem isPattern_bare_append (hs : ∀ c ∈ s, Literal c) :
    (bare (s ++ t)).isPattern = (bare t).isPattern := by
  induction s with
  | nil => rfl
  | cons c s ih =>
    obtain ⟨hc, hs⟩ := List.forall_mem_cons.mp hs
    have hnot : c ≠ 42 ∧ c ≠ 63 ∧ c ≠ 91 := by
      refine ⟨?_, ?_, ?_⟩ <;> rintro rfl <;> exact absurd hc (by decide)
    have hcons : bare (c :: s ++ t) = ⟨c, false⟩ :: bare (s ++ t) := rfl
    rw [hcons, Word.isPattern, ih hs]
    simp [hnot]

theorem not_isPattern_bare (hs : ∀ c ∈ s, Literal c) : (bare s).isPattern = false := by
  have h := isPattern_bare_append (t := []) hs
  rwa [List.append_nil] at h

theorem not_isTilde_bare_append (hs : ∀ c ∈ s, Literal c) (hne : s ≠ []) :
    (bare (s ++ t)).isTilde = false := by
  cases s with
  | nil => exact absurd rfl hne
  | cons c s =>
    have hc : c ≠ 126 := by
      rintro rfl
      exact absurd (hs 126 List.mem_cons_self) (by decide)
    simp [bare, Word.isTilde, hc]

theorem not_isTilde_bare (hs : ∀ c ∈ s, Literal c) : (bare s).isTilde = false := by
  cases s with
  | nil => rfl
  | cons c s =>
    have h := not_isTilde_bare_append (t := []) hs (List.cons_ne_nil c s)
    rwa [List.append_nil] at h

end Arguments

end IarmMgrs.Lib.Shell
