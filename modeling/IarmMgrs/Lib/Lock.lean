import IarmMgrs.Lib.Pool

/-! Threads that share one lock and some data.  The lock is not recursive: nobody gets it while
it is taken, its holder included, and an unlock frees it whoever took it. -/

universe u v w x

namespace IarmMgrs.Lib.Lock

/-- `critical` is an operation that other threads may watch; its end is a step of its own. -/
inductive Prog (σ : Type u) (α : Type v) (ρ : Type w)
  | lock (next : Prog σ α ρ)
  | unlock (next : Prog σ α ρ)
  | read (next : σ → Prog σ α ρ)
  | write (f : σ → σ) (next : Prog σ α ρ)
  | ask (next : α → Prog σ α ρ)
  | poll (again : α → Bool) (next : Prog σ α ρ)
  | critical (next : α → Prog σ α ρ)
  | ret (result : ρ)

structure Shared (σ : Type u) where
  locked : Bool
  data : σ

def Prog.alone {σ : Type u} {α : Type v} {ρ : Type w} (answer : α) : Prog σ α ρ → σ → ρ
  | .lock next, s | .unlock next, s | .poll _ next, s => next.alone answer s
  | .read next, s => (next s).alone answer s
  | .write f next, s => next.alone answer (f s)
  | .ask next, s | .critical next, s => (next answer).alone answer s
  | .ret result, _ => result

structure Thread (ε : Type x) (σ : Type u) (α : Type v) (ρ : Type w) where
  entry : ε
  prog : Prog σ α ρ
  acquired : Nat
  released : Nat

variable {ε : Type x} {σ : Type u} {α : Type v} {ρ : Type w}

def enter (program : ε → Prog σ α ρ) (entry : ε) : Thread ε σ α ρ := ⟨entry, program entry, 0, 0⟩

def Thread.goto (th : Thread ε σ α ρ) (prog : Prog σ α ρ) : Thread ε σ α ρ :=
  { th with prog := prog }

def move (th : Thread ε σ α ρ) (answer : α) (s : Shared σ) :
    Option (Shared σ × Option (Thread ε σ α ρ)) :=
  match th.prog with
  | .lock next =>
    if s.locked then none
    else some ({ s with locked := true },
      some { th with prog := next, acquired := th.acquired + 1 })
  | .unlock next =>
    some ({ s with locked := false }, some { th with prog := next, released := th.released + 1 })
  | .read next => some (s, some (th.goto (next s.data)))
  | .write f next => some ({ s with data := f s.data }, some (th.goto next))
  | .ask next => some (s, some (th.goto (next answer)))
  | .poll again next => some (s, some (if again answer then th else th.goto next))
  | .critical next => some (s, some (th.goto (next answer)))
  | .ret _ => some (s, none)

abbrev State (ε : Type x) (σ : Type u) (α : Type v) (ρ : Type w) :=
  Pool (Shared σ) (Thread ε σ α ρ)

def init (data : σ) : State ε σ α ρ := Pool.init ⟨false, data⟩

def step (program : ε → Prog σ α ρ) :
    State ε σ α ρ → Pool.Action ε α → Option (State ε σ α ρ) :=
  Pool.step (fun entry _ => enter program entry) move

def InCritical (th : Thread ε σ α ρ) : Prop := ∃ next, th.prog = .critical next

/-- The lock does its work: every call takes it once and frees it once, none asks for it while
it has it, and the critical operations exclude one another. -/
structure Exclusive (s : State ε σ α ρ) : Prop where
  once : s.All fun th => ∀ result, th.prog = .ret result → th.acquired = 1 ∧ th.released = 1
  notHeld : s.All fun th => ∀ next, th.prog = .lock next → th.acquired = th.released
  exclusion : ∀ t u th th', s.threads t = some th → s.threads u = some th' →
    InCritical th → InCritical th' → t = u

inductive Phase | before | held | after
  deriving DecidableEq

namespace Phase

def acquired : Phase → Nat
  | before => 0
  | held | after => 1

def released : Phase → Nat
  | before | held => 0
  | after => 1

end Phase

/-- A program that takes the lock, does its critical operations, frees the lock and returns,
as long as these operations give the answers `ok`. -/
def Disciplined (ok : α → Prop) : Phase → Prog σ α ρ → Prop
  | .before, .lock next => Disciplined ok .held next
  | .held, .unlock next => Disciplined ok .after next
  | phase, .read next => ∀ data, Disciplined ok phase (next data)
  | phase, .write _ next => Disciplined ok phase next
  | phase, .ask next => ∀ answer, Disciplined ok phase (next answer)
  | phase, .poll _ next => Disciplined ok phase next
  | .held, .critical next => ∀ answer, ok answer → Disciplined ok .held (next answer)
  | .after, .ret _ => True
  | _, _ => False

structure Thread.At (ok : ε → α → Prop) (phase : Phase) (th : Thread ε σ α ρ) : Prop where
  disciplined : Disciplined (ok th.entry) phase th.prog
  acquired : th.acquired = phase.acquired
  released : th.released = phase.released

structure Inv (ok : ε → α → Prop) (s : State ε σ α ρ) : Prop where
  disciplined : s.All fun th => ∃ phase, th.At ok phase
  locked : ∀ t th, s.threads t = some th → th.At ok .held → s.shared.locked = true
  alone : ∀ t u th th', s.threads t = some th → s.threads u = some th' → th.At ok .held →
    th'.At ok .held → t = u

variable {ok : ε → α → Prop} {phase : Phase} {th : Thread ε σ α ρ} {s s' : State ε σ α ρ}
  {program : ε → Prog σ α ρ}

theorem Thread.At.phase_eq {phase' : Phase} (h : th.At ok phase) (h' : th.At ok phase') :
    phase = phase' := by
  have hacquired := h.acquired.symm.trans h'.acquired
  have hreleased := h.released.symm.trans h'.released
  cases phase <;> cases phase' <;> simp_all [Phase.acquired, Phase.released]

section Disciplined

variable {p : α → Prop} {next : Prog σ α ρ}

theorem disciplined_lock :
    Disciplined p phase (.lock next) ↔ phase = .before ∧ Disciplined p .held next := by
  cases phase <;> simp [Disciplined]

theorem disciplined_unlock :
    Disciplined p phase (.unlock next) ↔ phase = .held ∧ Disciplined p .after next := by
  cases phase <;> simp [Disciplined]

theorem disciplined_read {next : σ → Prog σ α ρ} :
    Disciplined p phase (.read next) ↔ ∀ data, Disciplined p phase (next data) := by
  cases phase <;> rfl

theorem disciplined_write {f : σ → σ} :
    Disciplined p phase (.write f next) ↔ Disciplined p phase next := by
  cases phase <;> rfl

theorem disciplined_ask {next : α → Prog σ α ρ} :
    Disciplined p phase (.ask next) ↔ ∀ answer, Disciplined p phase (next answer) := by
  cases phase <;> rfl

theorem disciplined_poll {again : α → Bool} :
    Disciplined p phase (.poll again next) ↔ Disciplined p phase next := by
  cases phase <;> rfl

theorem disciplined_critical {next : α → Prog σ α ρ} :
    Disciplined p phase (.critical next) ↔
      phase = .held ∧ ∀ answer, p answer → Disciplined p .held (next answer) := by
  cases phase <;> simp [Disciplined]

theorem disciplined_ret {result : ρ} :
    Disciplined p phase (.ret result : Prog σ α ρ) ↔ phase = .after := by
  cases phase <;> simp [Disciplined]

end Disciplined

theorem Inv.exclusive (h : Inv ok s) : Exclusive s where
  once t th ht result hprog := by
    obtain ⟨phase, hat⟩ := h.disciplined t th ht
    obtain rfl := disciplined_ret.mp (hprog ▸ hat.disciplined)
    exact ⟨hat.acquired, hat.released⟩
  notHeld t th ht next hprog := by
    obtain ⟨phase, hat⟩ := h.disciplined t th ht
    obtain ⟨rfl, -⟩ := disciplined_lock.mp (hprog ▸ hat.disciplined)
    exact hat.acquired.trans hat.released.symm
  exclusion t u th th' ht hu hcrit hcrit' := by
    have held : ∀ t th, s.threads t = some th → InCritical th → th.At ok .held := by
      rintro t th ht ⟨next, hprog⟩
      obtain ⟨phase, hat⟩ := h.disciplined t th ht
      obtain ⟨rfl, -⟩ := disciplined_critical.mp (hprog ▸ hat.disciplined)
      exact hat
    exact h.alone t u th th' ht hu (held t th ht hcrit) (held u th' hu hcrit')

theorem inv_init (data : σ) : Inv ok (init data : State ε σ α ρ) where
  disciplined := Pool.all_init
  locked t th ht := by cases ht
  alone t u th th' ht := by cases ht

theorem move_phase {answer : α} {shared shared' : Shared σ} {next : Option (Thread ε σ α ρ)}
    (hat : th.At ok phase) (hok : InCritical th → ok th.entry answer)
    (h : move th answer shared = some (shared', next)) :
    (shared.locked = false ∧ shared'.locked = true ∧ ∀ th', next = some th' → th'.At ok .held) ∨
    (phase = .held ∧ shared'.locked = false ∧ ∀ th', next = some th' → th'.At ok .after) ∨
    (shared'.locked = shared.locked ∧ ∀ th', next = some th' → th'.At ok phase) := by
  obtain ⟨hdisc, hacquired, hreleased⟩ := hat
  have same : ∀ prog, Disciplined (ok th.entry) phase prog →
      ∀ th', some (th.goto prog) = some th' → th'.At ok phase := by
    rintro prog hprog th' ⟨⟩
    exact ⟨hprog, hacquired, hreleased⟩
  simp only [move] at h
  cases hprog : th.prog with
  | lock next =>
    simp only [hprog] at h hdisc
    obtain ⟨rfl, hdisc⟩ := disciplined_lock.mp hdisc
    split at h
    · cases h
    · next hfree =>
      cases h
      refine .inl ⟨by simpa using hfree, rfl, ?_⟩
      rintro th' ⟨⟩
      exact ⟨hdisc, congrArg (· + 1) hacquired, hreleased⟩
  | unlock next =>
    simp only [hprog] at h hdisc
    obtain ⟨rfl, hdisc⟩ := disciplined_unlock.mp hdisc
    cases h
    refine .inr (.inl ⟨rfl, rfl, ?_⟩)
    rintro th' ⟨⟩
    exact ⟨hdisc, hacquired, congrArg (· + 1) hreleased⟩
  | read next =>
    simp only [hprog] at h hdisc
    cases h
    exact .inr (.inr ⟨rfl, same _ (disciplined_read.mp hdisc _)⟩)
  | write f next =>
    simp only [hprog] at h hdisc
    cases h
    exact .inr (.inr ⟨rfl, same _ (disciplined_write.mp hdisc)⟩)
  | ask next =>
    simp only [hprog] at h hdisc
    cases h
    exact .inr (.inr ⟨rfl, same _ (disciplined_ask.mp hdisc _)⟩)
  | poll again next =>
    simp only [hprog] at h
    cases h
    refine .inr (.inr ⟨rfl, ?_⟩)
    split
    · rintro th' ⟨⟩
      exact ⟨hdisc, hacquired, hreleased⟩
    · exact same _ (disciplined_poll.mp (hprog ▸ hdisc))
  | critical next =>
    simp only [hprog] at h hdisc
    cases h
    obtain ⟨rfl, hdisc⟩ := disciplined_critical.mp hdisc
    exact .inr (.inr ⟨rfl, same _ (hdisc answer (hok ⟨next, hprog⟩))⟩)
  | ret result =>
    simp only [hprog] at h
    cases h
    refine .inr (.inr ⟨rfl, ?_⟩)
    rintro th' ⟨⟩

theorem Inv.of_held (h : Inv ok s) (hdisc : s'.All fun th => ∃ phase, th.At ok phase)
    (hlocked : s'.shared.locked = s.shared.locked)
    (hheld : ∀ t th', s'.threads t = some th' → th'.At ok .held →
      ∃ th, s.threads t = some th ∧ th.At ok .held) : Inv ok s' where
  disciplined := hdisc
  locked t th' ht hat := by
    obtain ⟨th, ht, hat⟩ := hheld t th' ht hat
    exact hlocked.trans (h.locked t th ht hat)
  alone t u th₁ th₂ ht hu hat₁ hat₂ := by
    obtain ⟨th, ht, hat⟩ := hheld t th₁ ht hat₁
    obtain ⟨th', hu, hat'⟩ := hheld u th₂ hu hat₂
    exact h.alone t u th th' ht hu hat hat'

def Meets (ok : ε → α → Prop) (s : State ε σ α ρ) : Pool.Action ε α → Prop
  | .start _ _ => True
  | .advance t answer => ∀ th, s.threads t = some th → InCritical th → ok th.entry answer

def Starts (good : ε → Prop) : Pool.Action ε α → Prop
  | .start _ entry => good entry
  | .advance _ _ => True

theorem step_inv {good : ε → Prop}
    (hprogram : ∀ entry, good entry → Disciplined (ok entry) .before (program entry))
    {a : Pool.Action ε α} (h : Inv ok s) (hstarts : Starts good a) (hmeets : Meets ok s a)
    (hstep : step program s a = some s') : Inv ok s' := by
  cases a with
  | start t entry =>
    obtain ⟨hfree, rfl⟩ := Pool.step_start hstep
    have hat : (enter program entry).At ok .before := ⟨hprogram entry hstarts, rfl, rfl⟩
    refine h.of_held (h.disciplined.update (fun _ => id) ?_) rfl ?_
    · rintro th ⟨⟩
      exact ⟨_, hat⟩
    · intro u th hu hheld
      obtain ⟨-, ⟨⟩⟩ | ⟨-, hu⟩ := Pool.threads_update hu
      · cases hat.phase_eq hheld
      · exact ⟨th, hu, hheld⟩
  | advance t answer =>
    obtain ⟨th, shared, next, ht, hmove, rfl⟩ := Pool.step_advance hstep
    obtain ⟨phase, hat⟩ := h.disciplined t th ht
    have hdisc : ∀ {phase'}, (∀ th', next = some th' → th'.At ok phase') →
        Pool.All (fun th => ∃ phase, th.At ok phase)
          ⟨shared, Function.update s.threads t next⟩ := fun hnext =>
      h.disciplined.update (fun _ => id) fun th' hth' => ⟨_, hnext th' hth'⟩
    obtain ⟨hfree, htaken, hnext⟩ | ⟨rfl, hfreed, hnext⟩ | ⟨hsame, hnext⟩ :=
      move_phase hat (hmeets th ht) hmove
    · have hnone : ∀ u th', s.threads u = some th' → ¬ th'.At ok .held := by
        intro u th' hu hheld
        rw [h.locked u th' hu hheld] at hfree
        cases hfree
      have only : ∀ u th', Pool.threads ⟨shared, Function.update s.threads t next⟩ u = some th' →
          th'.At ok .held → u = t := by
        intro u th' hu hheld
        obtain ⟨heq, -⟩ | ⟨-, hu⟩ := Pool.threads_update hu
        · exact heq
        · exact absurd hheld (hnone u th' hu)
      exact ⟨hdisc hnext, fun _ _ _ _ => htaken,
        fun u v th₁ th₂ hu hv h₁ h₂ => (only u th₁ hu h₁).trans (only v th₂ hv h₂).symm⟩
    · have hnone : ∀ u th', Pool.threads ⟨shared, Function.update s.threads t next⟩ u = some th' →
          ¬ th'.At ok .held := by
        intro u th' hu hheld
        obtain ⟨-, hnew⟩ | ⟨hne, hu⟩ := Pool.threads_update hu
        · cases (hnext th' hnew).phase_eq hheld
        · exact hne (h.alone u t th' th hu ht hheld hat)
      exact ⟨hdisc hnext, fun u th' hu hheld => absurd hheld (hnone u th' hu),
        fun u v th₁ th₂ hu hv h₁ h₂ => absurd h₁ (hnone u th₁ hu)⟩
    · refine h.of_held (hdisc hnext) hsame ?_
      intro u th' hu hheld
      obtain ⟨rfl, hnew⟩ | ⟨-, hu⟩ := Pool.threads_update hu
      · obtain rfl := (hnext th' hnew).phase_eq hheld
        exact ⟨th, ht, hat⟩
      · exact ⟨th', hu, hheld⟩

/-- Disciplined calls keep the lock's promise in every state of a run. -/
theorem run_exclusive {good : ε → Prop}
    (hprogram : ∀ entry, good entry → Disciplined (ok entry) .before (program entry))
    {data : σ} {actions : List (Pool.Action ε α)}
    (hok : Transition.Along (step program) (fun s a => Starts good a ∧ Meets ok s a)
      (init data) actions)
    (hrun : Transition.run (step program) (init data) actions = some s) : Exclusive s :=
  (Transition.run_invariant_along (Inv ok)
    (fun _ _ _ hinv hmeets => step_inv hprogram hinv hmeets.1 hmeets.2)
    (inv_init data) hok hrun).exclusive

end IarmMgrs.Lib.Lock
