import IarmMgrs.MfrMgr.Notify

namespace IarmMgrs.MfrMgr.Notify

open Lib Lib.Transition
open Flash (MfrUpgradeStatus Progress)

variable {calls : Nat → Nat} {p p' : State} {act : Action} {s s' : Shared}

def Shared.SameEvents (s s' : Shared) : Prop :=
  s'.inFlight = s.inFlight ∧ s'.sent = s.sent ∧ s'.delivered = s.delivered

theorem Told.of_sameEvents (h : Told p) (hsame : p.shared.SameEvents p'.shared) : Told p' where
  all := by rw [hsame.1, hsame.2.1, hsame.2.2, h.all]
  right := by rw [hsame.2.2]; exact h.right

theorem moveWrite_sameEvents {w : Write} {accepted : Bool} {next : Option Write}
    (h : moveWrite w accepted s = some (s', next)) : s.SameEvents s' := by
  obtain ⟨notify, pc⟩ := w
  cases pc with
  | calling =>
    cases accepted with
    | false => cases h; exact ⟨rfl, rfl, rfl⟩
    | true =>
      obtain ⟨-, h⟩ : ¬ s.locked = true ∧ _ := by simpa [moveWrite] using h
      obtain ⟨rfl, -⟩ := h
      exact ⟨rfl, rfl, rfl⟩
  | pollStart =>
    simp only [moveWrite] at h
    split at h <;> cases h <;> exact ⟨rfl, rfl, rfl⟩
  | pollEnd =>
    simp only [moveWrite] at h
    split at h <;> cases h <;> exact ⟨rfl, rfl, rfl⟩
  | answered success =>
    simp only [moveWrite] at h
    cases success <;> cases h <;> exact ⟨rfl, rfl, rfl⟩

theorem write_sameEvents {w : Pool.Action UpgradeStatusNotify Bool}
    (h : Pool.step enterWrite moveWrite p w = some p') : p.shared.SameEvents p'.shared := by
  cases w with
  | start t notify =>
    obtain ⟨-, rfl⟩ := Pool.step_start h
    exact ⟨rfl, rfl, rfl⟩
  | advance t accepted =>
    obtain ⟨w, shared, next, -, hmove, rfl⟩ := Pool.step_advance h
    exact moveWrite_sameEvents hmove

theorem replicate_eq_singleton {α : Type} {n : Nat} {x y : α} :
    List.replicate n x = [y] ↔ n = 1 ∧ x = y := by
  cases n with
  | zero => simp
  | succ n => simp [List.replicate_succ, and_comm]

theorem eventHandler_flatten {event : Broadcast} (n : Nat)
    (hserver : event.owner = iarmBusMfrlibName ∧ event.eventId = eventStatusUpdate)
    {cbNotify : UpgradeStatusNotify} :
    (List.replicate n (eventHandler cbNotify event)).flatten =
      match cbNotify.cb with
      | some cb => List.replicate n ⟨cb, event.status, cbNotify.cbData⟩
      | none => [] := by
  rw [eventHandler, if_pos hserver]
  cases cbNotify.cb with
  | none => exact List.flatten_replicate_nil
  | some cb => exact List.flatten_replicate_singleton

/-- A status is delivered as it should be exactly if the client listens for its write. -/
theorem right_iff {event : Broadcast}
    (hserver : event.owner = iarmBusMfrlibName ∧ event.eventId = eventStatusUpdate) :
    Delivery.Right ⟨event,
        (List.replicate (calls s.registered) (eventHandler s.cbNotify event)).flatten⟩ ↔
      (event.write.cb ≠ none → s.Listens calls event.write) := by
  rw [eventHandler_flatten _ hserver]
  simp only [Delivery.Right, Shared.Listens]
  cases hwrite : event.write.cb with
  | none => simp
  | some cb =>
    cases hcb : s.cbNotify.cb with
    | none => simp
    | some cb' => simp [replicate_eq_singleton]

theorem dispatch_some (h : step calls p .dispatch = some p') :
    ∃ event rest, p.shared.inFlight = event :: rest ∧
      p' = { p with shared := dispatch calls event rest p.shared } := by
  simp only [step] at h
  split at h
  · cases h
  · next event rest hflight => exact ⟨event, rest, hflight, (Option.some.inj h).symm⟩

def FromServer (p : State) : Prop :=
  ∀ event ∈ p.shared.inFlight,
    event.owner = iarmBusMfrlibName ∧ event.eventId = eventStatusUpdate

theorem FromServer.step (h : FromServer p) (hstep : step calls p act = some p') :
    FromServer p' := by
  cases act with
  | mfrInit success =>
    obtain rfl := Option.some.inj hstep
    cases success <;> exact h
  | write w =>
    simp only [Notify.step, Option.ite_none_right_eq_some] at hstep
    rw [FromServer, (write_sameEvents hstep.2).1]
    exact h
  | halReports status =>
    obtain ⟨write, -, rfl⟩ := Option.map_eq_some_iff.mp hstep
    intro event hmem
    rcases List.mem_append.mp hmem with hmem | hmem
    · exact h event hmem
    · obtain rfl := List.mem_singleton.mp hmem
      exact ⟨rfl, rfl⟩
  | dispatch =>
    obtain ⟨event, rest, hflight, rfl⟩ := dispatch_some hstep
    intro e hmem
    exact h e (hflight ▸ List.mem_cons_of_mem event hmem)

theorem heard_iff (hserver : FromServer p) (h : Told p) (hstep : step calls p act = some p') :
    Heard calls p act ↔ Told p' := by
  cases act with
  | mfrInit success =>
    obtain rfl := Option.some.inj hstep
    refine iff_of_true trivial (h.of_sameEvents ?_)
    cases success <;> exact ⟨rfl, rfl, rfl⟩
  | write w =>
    simp only [Notify.step, Option.ite_none_right_eq_some] at hstep
    exact iff_of_true trivial (h.of_sameEvents (write_sameEvents hstep.2))
  | halReports status =>
    obtain ⟨write, -, rfl⟩ := Option.map_eq_some_iff.mp hstep
    refine iff_of_true trivial ⟨?_, h.right⟩
    simp only [writeImageCb, ← List.append_assoc, h.all]
  | dispatch =>
    obtain ⟨event, rest, hflight, rfl⟩ := dispatch_some hstep
    have hevent := hserver event (hflight ▸ List.mem_cons_self)
    have hheard : Heard calls p .dispatch ↔
        (event.write.cb ≠ none → p.shared.Listens calls event.write) := by
      simp [Heard, hflight]
    rw [hheard, ← right_iff hevent]
    constructor
    · refine fun hright => ⟨?_, ?_⟩
      · simp only [dispatch, List.map_append, List.map_cons, List.map_nil, List.append_assoc,
          List.singleton_append, ← hflight, h.all]
      · simp only [dispatch, List.forall_mem_append, List.forall_mem_singleton]
        exact ⟨h.right, hright⟩
    · intro htold
      exact htold.right _ (List.mem_append_right _ List.mem_cons_self)

/-- In every state reached all statuses so far have been delivered as they should be, exactly
if the client listens whenever one arrives. -/
theorem updates_told_iff {as : List Action} (hrun : run (step calls) .init as = some p) :
    Along (step calls) (Heard calls) .init as ↔
      ∀ pre q, pre <+: as → run (step calls) .init pre = some q → Told q :=
  along_iff FromServer Told (fun _ _ _ h _ hstep => h.step hstep)
    (fun _ _ _ hserver h hstep => heard_iff hserver h hstep)
    (fun _ hmem => nomatch hmem) ⟨rfl, fun _ hmem => nomatch hmem⟩ hrun

def notify : UpgradeStatusNotify := ⟨7, some 1, 2⟩

def report (progress : Progress) : MfrUpgradeStatus := ⟨progress, 0, .zeroed 0 32, 0⟩

/-- After a successful `mfr_init` no handler is registered; and if a failed one has registered
it before, a status that arrives during the RPC still finds no callback. -/
theorem updates_missed :
    (∃ p, run (step id) .init [.mfrInit true, .write (.start 0 notify), .write (.advance 0 true),
        .halReports (report .completed), .write (.advance 0 true), .write (.advance 0 true),
        .write (.advance 0 true), .dispatch] = some p ∧
      p.shared.cbNotify = notify ∧ p.shared.delivered.map Delivery.calls = [[]]) ∧
    ∃ p, run (step id) .init [.mfrInit false, .mfrInit true, .write (.start 0 notify),
        .write (.advance 0 true), .halReports (report .started), .dispatch] = some p ∧
      p.shared.registered = 1 ∧ p.shared.delivered.map Delivery.calls = [[]] :=
  ⟨⟨_, rfl, rfl, rfl⟩, ⟨_, rfl, rfl, rfl⟩⟩

def heardRun : List Action :=
  [.mfrInit false, .mfrInit true, .write (.start 0 notify), .write (.advance 0 true),
    .halReports (report .started), .write (.advance 0 true), .halReports (report .completed),
    .write (.advance 0 true), .write (.advance 0 true), .dispatch, .dispatch]

theorem updates_told_heardRun :
    ∃ p, run (step id) .init heardRun = some p ∧ p.shared.inFlight = [] ∧
      p.shared.delivered.length = 2 ∧ Told p := by
  have hok : Along (step id) (Heard id) .init heardRun := by decide
  exact ⟨_, rfl, rfl, rfl, (updates_told_iff rfl).mp hok heardRun _ (List.prefix_refl _) rfl⟩

end IarmMgrs.MfrMgr.Notify
