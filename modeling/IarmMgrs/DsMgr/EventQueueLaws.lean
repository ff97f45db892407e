import IarmMgrs.DsMgr.EventQueue

namespace IarmMgrs.DsMgr.EventQueue

open Lib Lib.CString Lib.Transition

variable {sizes : EventSizes} {s s' : State} {q : List Addr} {a : Addr}

@[simp] theorem inHand_signal (w : Waiter WorkerPc) : inHand w.signal = inHand w := by
  cases w <;> rfl

@[simp] theorem called_signal (w : Waiter WorkerPc) : called w.signal = called w := by
  cases w <;> rfl

theorem freeEventItem_live {x : DSMgrEventItem} (hx : s.heap a = some x) :
    freeEventItem s (some a) =
      { s with heap := Function.update s.heap a none, freed := s.freed ++ [a] } := by
  simp [freeEventItem, hx]

theorem dropRejected_live {x : DSMgrEventItem} (hx : s.heap a = some x) :
    dropRejected a s =
      { s with
        heap := Function.update s.heap a none
        rejecting := s.rejecting.erase a
        freed := s.freed ++ [a] } := by
  simp [dropRejected, freeEventItem, hx]

theorem deref_live {x : DSMgrEventItem} (hx : s.heap a = some x) (k : DSMgrEventItem → State) :
    s.deref a k = k x := by
  simp [State.deref, hx]

def Carries (sizes : EventSizes) (submitted : Addr → Option Event) (a : Addr)
    (item : DSMgrEventItem) : Prop :=
  ∃ ev owner, submitted a = some ev ∧ ev.owner = some owner ∧
    { item with next := none } = makeEventItem sizes ev owner

def Delivers (sizes : EventSizes) (submitted : Addr → Option Event) (p : Addr × Delivery) : Prop :=
  ∃ ev owner, submitted p.1 = some ev ∧ ev.owner = some owner ∧
    p.2 = (makeEventItem sizes ev owner).delivery

theorem Carries.delivers {submitted : Addr → Option Event} {x : DSMgrEventItem}
    (h : Carries sizes submitted a x) : Delivers sizes submitted (a, x.delivery) := by
  obtain ⟨ev, owner, hev, howner, hitem⟩ := h
  refine ⟨ev, owner, hev, howner, ?_⟩
  rw [← hitem]
  rfl

theorem Carries.setNext {submitted : Addr → Option Event} {x : DSMgrEventItem}
    (h : Carries sizes submitted a x) (p : Option Addr) :
    Carries sizes submitted a { x with next := p } := h

theorem submitted_update {submitted : Addr → Option Event} {brk : Addr}
    (h : ∀ a ev, submitted a = some ev → a < brk) {ev ev' : Event} (ha : submitted a = some ev) :
    Function.update submitted brk (some ev') a = some ev := by
  rw [Function.update_of_ne (Nat.ne_of_lt (h a ev ha)), ha]

def State.owners (s : State) (q : List Addr) : List Addr :=
  q ++ (inHand s.worker).toList ++ s.prepared ++ s.rejecting

def State.mailbox (s : State) (q : List Addr) : Mailbox Addr :=
  ⟨s.accepted, s.settled, inHand s.worker, q⟩

/-- The invariant of the program, `q` being the cells of the queue from its head. -/
structure Inv (sizes : EventSizes) (s : State) (q : List Addr) : Prop where
  chain : Chain DSMgrEventItem.next s.heap s.evtQHead q
  tail : s.evtQTail = q.getLast?
  count : s.evtQCount = q.length
  bound : q.length ≤ dsmgrEventQueueMax
  owned : Owned s.heap s.brk s.freed (s.owners q)
  prepared_next : ∀ a ∈ s.prepared, ∀ x, s.heap a = some x → x.next = none
  content : ∀ a x, s.heap a = some x → Carries sizes s.submitted a x
  submitted_below : ∀ a ev, s.submitted a = some ev → a < s.brk
  handed_items : s.handed.map Prod.fst = s.processed ++ (called s.worker).toList
  handed_content : ∀ p ∈ s.handed, Delivers sizes s.submitted p
  settled_freed : (s.settled.map Prod.fst).Sublist s.freed
  rejected_freed : ∀ a ∈ s.rejected, a ∈ s.freed ∨ a ∈ s.rejecting
  blocked : s.worker = .blocked → q = [] ∧ s.evtQStop = false
  idle : s.control = .stopped ∨ s.control = .starting → s.evtWorkerStarted = false
  not_started : s.evtWorkerStarted = false → s.worker = .running .absent
  no_fault : s.fault = false

theorem Inv.init : Inv sizes State.init [] where
  chain := rfl
  tail := rfl
  count := rfl
  bound := Nat.zero_le _
  owned :=
    { nodup := List.nodup_nil
      live := fun a => by simp [State.init, State.owners, inHand]
      below := fun a ha => by simp [State.init, State.owners, inHand] at ha
      freed_iff := fun a => by simp [State.init]
      freed_nodup := List.nodup_nil }
  prepared_next a ha := by simp [State.init] at ha
  content a x hx := by simp [State.init] at hx
  submitted_below a ev h := by simp [State.init] at h
  handed_items := rfl
  handed_content p hp := by simp [State.init] at hp
  settled_freed := List.Sublist.refl _
  rejected_freed a ha := by simp [State.init] at ha
  blocked h := by simp [State.init] at h
  idle _ := rfl
  not_started _ := rfl
  no_fault := rfl

theorem Inv.live_of_mem (h : Inv sizes s q) (ha : a ∈ s.owners q) : ∃ x, s.heap a = some x :=
  h.owned.get ha

theorem Inv.queue_notMem (h : Inv sizes s q)
    (ha : a ∈ (inHand s.worker).toList ++ s.prepared ++ s.rejecting) : a ∉ q := by
  have hnd := h.owned.nodup
  rw [State.owners, List.append_assoc, List.append_assoc,
    ← List.append_assoc (Option.toList _)] at hnd
  exact fun hq => (List.nodup_append.mp hnd).2.2 a hq a ha rfl

section Owners

variable {w p r : List Addr}

theorem owners_prepare : (a :: (q ++ w ++ p ++ r)).Perm (q ++ w ++ a :: p ++ r) := by
  rw [List.perm_iff_count]
  intro b
  simp only [List.count_append, List.count_cons]
  omega

theorem owners_enqueue (ha : a ∈ p) :
    (q ++ w ++ p ++ r).Perm (q ++ [a] ++ w ++ p.erase a ++ r) := by
  rw [List.perm_iff_count]
  intro b
  have hb := (List.perm_cons_erase ha).count_eq b
  simp only [List.count_append, List.count_cons, List.count_nil] at hb ⊢
  omega

theorem owners_reject (ha : a ∈ p) :
    (q ++ w ++ p ++ r).Perm (q ++ w ++ p.erase a ++ a :: r) := by
  rw [List.perm_iff_count]
  intro b
  have hb := (List.perm_cons_erase ha).count_eq b
  simp only [List.count_append, List.count_cons] at hb ⊢
  omega

theorem owners_drop (ha : a ∈ r) :
    (q ++ w ++ p ++ r).Perm (a :: (q ++ w ++ p ++ r.erase a)) := by
  rw [List.perm_iff_count]
  intro b
  have hb := (List.perm_cons_erase ha).count_eq b
  simp only [List.count_append, List.count_cons] at hb ⊢
  omega

theorem owners_pop : (a :: q ++ [] ++ p ++ r).Perm (q ++ [a] ++ p ++ r) := by
  rw [List.perm_iff_count]
  intro b
  simp only [List.count_append, List.count_cons, List.count_nil]
  omega

theorem owners_finish : (q ++ [a] ++ p ++ r).Perm (a :: (q ++ [] ++ p ++ r)) := by
  rw [List.perm_iff_count]
  intro b
  simp only [List.count_append, List.count_cons, List.count_nil]
  omega

end Owners

theorem eventHandler_dataFails {ev : Event} {owner : List UInt8} (howner : ev.owner = some owner)
    (hnone : s.heap s.brk = none) :
    eventHandler sizes ev .dataFails s =
      { s with
        brk := s.brk + 1
        rejected := s.rejected ++ [s.brk]
        freed := s.freed ++ [s.brk] } := by
  simp [eventHandler, howner, State.allocate, freeEventItem, hnone]

theorem eventHandler_succeeds {ev : Event} {owner : List UInt8} (howner : ev.owner = some owner) :
    eventHandler sizes ev .succeeds s =
      { s with
        heap := Function.update s.heap s.brk (some (makeEventItem sizes ev owner))
        brk := s.brk + 1
        prepared := s.brk :: s.prepared
        submitted := Function.update s.submitted s.brk (some ev) } := by
  simp [eventHandler, howner, State.allocate]

theorem enqueueEvent_rejects (h : s.evtQStop = true ∨ (dsmgrEventQueueMax : Int) ≤ s.evtQCount) :
    enqueueEvent a s =
      { s with
        prepared := s.prepared.erase a
        rejecting := a :: s.rejecting
        rejected := s.rejected ++ [a] } := by
  simp [enqueueEvent, h]

theorem enqueueEvent_first (hs : s.evtQStop = false) (hc : s.evtQCount < dsmgrEventQueueMax)
    (ht : s.evtQTail = none) :
    enqueueEvent a s =
      { s with
        prepared := s.prepared.erase a
        evtQHead := some a
        evtQTail := some a
        evtQCount := s.evtQCount + 1
        worker := s.worker.signal
        accepted := s.accepted ++ [a] } := by
  simp [enqueueEvent, hs, ht, Int.not_le.mpr hc]

theorem enqueueEvent_next {t : Addr} {x : DSMgrEventItem} (hs : s.evtQStop = false)
    (hc : s.evtQCount < dsmgrEventQueueMax) (ht : s.evtQTail = some t) (hx : s.heap t = some x) :
    enqueueEvent a s =
      { s with
        prepared := s.prepared.erase a
        heap := Function.update s.heap t (some { x with next := some a })
        evtQTail := some a
        evtQCount := s.evtQCount + 1
        worker := s.worker.signal
        accepted := s.accepted ++ [a] } := by
  simp [enqueueEvent, hs, ht, Int.not_le.mpr hc, State.deref, hx]

theorem dropPending_eq {rest : List Addr} (s : State) (fuel : Nat) (p : Option Addr)
    (hc : Chain DSMgrEventItem.next s.heap p q)
    (ho : Owned s.heap s.brk s.freed (q ++ rest)) (hf : q.length ≤ fuel) :
    ∃ heap, dropPending fuel p s =
        { s with
          heap := heap
          freed := s.freed ++ q
          settled := s.settled ++ q.map (·, .discarded) } ∧
      Owned heap s.brk (s.freed ++ q) rest ∧ ∀ b x, heap b = some x → s.heap b = some x := by
  induction q generalizing fuel p s with
  | nil =>
    obtain rfl : p = none := hc
    exact ⟨s.heap, by cases fuel <;> simp [dropPending], by simpa using ho, fun _ _ h => h⟩
  | cons b q ih =>
    obtain ⟨rfl, x, hx, hc⟩ := hc
    cases fuel with
    | zero => simp at hf
    | succ fuel =>
      have hbq : b ∉ q := fun hb =>
        (List.nodup_cons.mp ho.nodup).1 (List.mem_append_left _ hb)
      have hfree := ho.free (.refl (b :: (q ++ rest)))
      obtain ⟨heap, heq, hown, hsub⟩ := ih
        { s with
          heap := Function.update s.heap b none
          freed := s.freed ++ [b]
          settled := s.settled ++ [(b, .discarded)] } fuel x.next
        (hc.update_of_notMem hbq none) hfree (by simpa using hf)
      refine ⟨heap, ?_, ?_, ?_⟩
      · simp only [dropPending, deref_live hx, freeEventItem_live hx]
        rw [heq]
        simp
      · simpa using hown
      · intro c y hy
        exact update_none_sub (hsub c y hy)

theorem Inv.brk_free (h : Inv sizes s q) : s.heap s.brk = none := by
  by_contra hne
  exact h.owned.brk_notMem ((h.owned.live _).mp hne)

theorem Inv.eventHandler (h : Inv sizes s q) (ev : Event) (alloc : Alloc) :
    Inv sizes (eventHandler sizes ev alloc s) q ∧
      (eventHandler sizes ev alloc s).mailbox q = s.mailbox q := by
  cases howner : ev.owner with
  | none => simpa [EventQueue.eventHandler, howner] using h
  | some owner =>
    cases alloc with
    | itemFails => simpa [EventQueue.eventHandler, howner, freeEventItem] using h
    | dataFails =>
      rw [eventHandler_dataFails howner h.brk_free]
      refine ⟨?_, rfl⟩
      have howned := (h.owned.alloc (makeEventItem sizes ev owner)).free (.refl _)
      rw [Function.update_idem, Function.update_eq_self_iff.mpr h.brk_free.symm] at howned
      exact {
        h with
        owned := howned
        submitted_below := fun a ev ha => Nat.lt_succ_of_lt (h.submitted_below a ev ha)
        settled_freed := h.settled_freed.trans (List.sublist_append_left _ _)
        rejected_freed := by
          intro a ha
          cases List.mem_append.mp ha with
          | inl ha => exact (h.rejected_freed a ha).imp_left (List.mem_append_left _)
          | inr ha => exact .inl (List.mem_append_right _ ha) }
    | succeeds =>
      rw [eventHandler_succeeds howner]
      refine ⟨?_, rfl⟩
      have hbrk : s.brk ∉ q := fun hq => h.owned.brk_notMem (by simp [State.owners, hq])
      exact {
        h with
        chain := h.chain.update_of_notMem hbrk _
        owned := (h.owned.alloc _).perm owners_prepare
        prepared_next := by
          intro a ha x hx
          obtain ⟨rfl, rfl⟩ | ⟨hab, hx⟩ := update_some_cases hx
          · rfl
          · exact h.prepared_next a ((List.mem_cons.mp ha).resolve_left hab) x hx
        content := by
          intro a x hx
          obtain ⟨rfl, rfl⟩ | ⟨hab, hx⟩ := update_some_cases hx
          · exact ⟨ev, owner, Function.update_self .., howner, rfl⟩
          · obtain ⟨ev', owner', hev, hrest⟩ := h.content a x hx
            exact ⟨ev', owner', submitted_update h.submitted_below hev, hrest⟩
        submitted_below := by
          intro a ev' ha
          by_cases hab : a = s.brk
          · exact hab ▸ Nat.lt_succ_self _
          · simp only [Function.update_of_ne hab] at ha
            exact Nat.lt_succ_of_lt (h.submitted_below a ev' ha)
        handed_content := by
          intro p hp
          obtain ⟨ev', owner', hev, hrest⟩ := h.handed_content p hp
          exact ⟨ev', owner', submitted_update h.submitted_below hev, hrest⟩ }

theorem Inv.enqueue_rejects (h : Inv sizes s q) (ha : a ∈ s.prepared)
    (hs : s.evtQStop = true ∨ (dsmgrEventQueueMax : Int) ≤ s.evtQCount) :
    Inv sizes (enqueueEvent a s) q ∧ (enqueueEvent a s).mailbox q = s.mailbox q := by
  rw [enqueueEvent_rejects hs]
  refine ⟨?_, rfl⟩
  exact {
    h with
    owned := h.owned.perm (owners_reject ha)
    prepared_next := fun b hb => h.prepared_next b (List.mem_of_mem_erase hb)
    rejected_freed := by
      intro b hb
      cases List.mem_append.mp hb with
      | inl hb => exact (h.rejected_freed b hb).imp_right (List.mem_cons_of_mem a)
      | inr hb => exact .inr (by simp [List.mem_singleton.mp hb]) }

theorem Inv.enqueue_accepts (h : Inv sizes s q) (ha : a ∈ s.prepared) (hs : s.evtQStop = false)
    (hc : s.evtQCount < dsmgrEventQueueMax) :
    Inv sizes (enqueueEvent a s) (q ++ [a]) ∧
      (enqueueEvent a s).mailbox (q ++ [a]) = (s.mailbox q).put a := by
  have haq : a ∉ q := h.queue_notMem (by simp [ha])
  obtain ⟨y, hy⟩ := h.live_of_mem (a := a) (by simp [State.owners, ha])
  have hnull : y.next = none := h.prepared_next a ha y hy
  have hbound : (q ++ [a]).length ≤ dsmgrEventQueueMax := by
    have hcount := h.count
    simp only [List.length_append, List.length_singleton]
    omega
  have howned : Owned s.heap s.brk s.freed
      (q ++ [a] ++ (inHand s.worker.signal).toList ++ s.prepared.erase a ++ s.rejecting) := by
    rw [inHand_signal]
    exact h.owned.perm (owners_enqueue ha)
  have hhanded : s.handed.map Prod.fst = s.processed ++ (called s.worker.signal).toList := by
    rw [called_signal, h.handed_items]
  have hcount : s.evtQCount + 1 = ((q ++ [a]).length : Nat) := by
    rw [h.count, List.length_append, List.length_singleton, Int.natCast_add, Int.natCast_one]
  have hstart (hw : s.evtWorkerStarted = false) : s.worker.signal = .running .absent := by
    rw [h.not_started hw, Waiter.signal_running]
  rcases List.eq_nil_or_concat q with rfl | ⟨q₀, t, rfl⟩
  · rw [enqueueEvent_first hs hc h.tail]
    refine ⟨?_, by simp [State.mailbox, Mailbox.put]⟩
    exact {
      h with
      chain := ⟨rfl, y, hy, hnull⟩
      tail := rfl
      count := hcount
      bound := hbound
      owned := howned
      prepared_next := fun b hb => h.prepared_next b (List.mem_of_mem_erase hb)
      handed_items := hhanded
      blocked := fun hw => absurd hw (Waiter.signal_ne_blocked _)
      not_started := hstart }
  · have hlast : (q₀.concat t).getLast? = some t := by simp
    obtain ⟨x, hx⟩ := h.chain.live (a := t) (by simp)
    have hne : a ≠ t := (ne_of_mem_of_not_mem (List.mem_of_getLast? hlast) haq).symm
    have hnd : (q₀.concat t).Nodup := by
      have hnd := h.owned.nodup
      simp only [State.owners, List.append_assoc] at hnd
      exact hnd.of_append_left
    rw [enqueueEvent_next hs hc (h.tail.trans hlast) hx]
    refine ⟨?_, by simp [State.mailbox, Mailbox.put]⟩
    exact {
      h with
      chain := h.chain.snoc hnd hlast hx rfl haq hy hnull
      tail := by simp
      count := hcount
      bound := hbound
      owned := howned.write (by simp) _
      prepared_next := by
        intro b hb z hz
        have hmem : b ∈ s.prepared := List.mem_of_mem_erase hb
        obtain ⟨rfl, -⟩ | ⟨-, hz⟩ := update_some_cases hz
        · exact absurd (List.mem_of_getLast? hlast)
            (h.queue_notMem (List.mem_append_left _ (List.mem_append_right _ hmem)))
        · exact h.prepared_next b hmem z hz
      content := by
        intro b z hz
        obtain ⟨rfl, rfl⟩ | ⟨-, hz⟩ := update_some_cases hz
        · exact (h.content b x hx).setNext (some a)
        · exact h.content b z hz
      handed_items := hhanded
      blocked := fun hw => absurd hw (Waiter.signal_ne_blocked _)
      not_started := hstart }

theorem Inv.dropRejected (h : Inv sizes s q) (ha : a ∈ s.rejecting) :
    Inv sizes (dropRejected a s) q ∧ (dropRejected a s).mailbox q = s.mailbox q := by
  obtain ⟨x, hx⟩ := h.live_of_mem (a := a) (by simp [State.owners, ha])
  have haq : a ∉ q := h.queue_notMem (by simp [ha])
  rw [dropRejected_live hx]
  refine ⟨?_, rfl⟩
  exact {
    h with
    chain := h.chain.update_of_notMem haq none
    owned := h.owned.free (owners_drop ha)
    prepared_next := fun b hb y hy => h.prepared_next b hb y (update_none_sub hy)
    content := fun b y hy => h.content b y (update_none_sub hy)
    settled_freed := h.settled_freed.trans (List.sublist_append_left _ _)
    rejected_freed := by
      intro b hb
      by_cases hba : b = a
      · exact .inl (by simp [hba])
      · exact (h.rejected_freed b hb).imp (List.mem_append_left _)
          fun hr => (List.mem_erase_of_ne hba).mpr hr }

section Worker

variable (h : Inv sizes s q) (hw : s.worker = .running .loop ∨ s.worker = .woken)
include h hw

theorem Inv.started : s.evtWorkerStarted = true := by
  by_contra hne
  have habs := h.not_started (Bool.eq_false_iff.mpr hne)
  simp [habs] at hw

omit h in
theorem empty_handed : inHand s.worker = none ∧ called s.worker = none := by
  rcases hw with hw | hw <;> simp [hw, inHand, called]

theorem Inv.worker_waits (hhead : s.evtQHead = none) (hs : s.evtQStop = false) :
    Inv sizes (eventWorkerThreadFunc s) q ∧
      (eventWorkerThreadFunc s).mailbox q = s.mailbox q := by
  obtain ⟨hhand, hcall⟩ := empty_handed hw
  have heq : eventWorkerThreadFunc s = { s with worker := .blocked } := by
    simp [eventWorkerThreadFunc, hhead, hs]
  rw [heq]
  refine ⟨?_, by simp only [State.mailbox, hhand]; rfl⟩
  exact {
    h with
    owned := by
      have howned := h.owned
      rwa [State.owners, hhand] at howned
    handed_items := by
      have hhanded := h.handed_items
      rwa [hcall] at hhanded
    blocked := fun _ => ⟨h.chain.eq_none_iff.mp hhead, hs⟩
    not_started := fun hns => absurd hns (by simp [h.started hw]) }

theorem Inv.worker_drains (hs : s.evtQStop = true) :
    Inv sizes (eventWorkerThreadFunc s) [] ∧
      (eventWorkerThreadFunc s).mailbox [] = (s.mailbox q).discard := by
  obtain ⟨hhand, hcall⟩ := empty_handed hw
  have hq : q.length ≤ s.brk := by
    have hlen := h.owned.length_le
    simp only [State.owners, List.length_append] at hlen
    omega
  have howned : Owned s.heap s.brk s.freed (q ++ (s.prepared ++ s.rejecting)) := by
    have howned := h.owned
    rwa [State.owners, hhand, Option.toList_none, List.append_nil, List.append_assoc] at howned
  obtain ⟨heap, hdrop, howned, hsub⟩ := dropPending_eq s _ _ h.chain howned hq
  have heq : eventWorkerThreadFunc s =
      { s with
        heap := heap
        freed := s.freed ++ q
        settled := s.settled ++ q.map (·, .discarded)
        evtQHead := none
        evtQTail := none
        evtQCount := 0
        worker := .running .exited } := by
    simp [eventWorkerThreadFunc, hs, hdrop]
  rw [heq]
  refine ⟨?_, by simp only [State.mailbox, Mailbox.discard, hhand]; rfl⟩
  exact {
    h with
    chain := rfl
    tail := rfl
    count := rfl
    bound := Nat.zero_le _
    owned := howned
    prepared_next := fun b hb y hy => h.prepared_next b hb y (hsub b y hy)
    content := fun b y hy => h.content b y (hsub b y hy)
    handed_items := by
      have hhanded := h.handed_items
      rw [hcall] at hhanded
      simpa [State.processed, Mailbox.withFate_map_ne, called] using hhanded
    settled_freed := by
      simpa [Function.comp_def] using h.settled_freed.append (List.Sublist.refl q)
    rejected_freed := fun b hb => (h.rejected_freed b hb).imp_left (List.mem_append_left _)
    blocked := fun hb => absurd hb (by simp)
    not_started := fun hns => absurd hns (by simp [h.started hw]) }

theorem Inv.worker_pops (hhead : s.evtQHead = some a) (hs : s.evtQStop = false) :
    ∃ q', q = a :: q' ∧ Inv sizes (eventWorkerThreadFunc s) q' ∧
      (eventWorkerThreadFunc s).mailbox q' =
        { s.mailbox q with current := some a, queue := q' } := by
  obtain ⟨hhand, hcall⟩ := empty_handed hw
  have hchain := h.chain
  rw [hhead] at hchain
  obtain ⟨x, q', rfl, hx, hchain⟩ := hchain.cons_inv
  have heq : eventWorkerThreadFunc s =
      { s with
        evtQHead := x.next
        evtQTail := if x.next.isNone then none else s.evtQTail
        evtQCount := s.evtQCount - 1
        worker := .running (.popped a) } := by
    simp [eventWorkerThreadFunc, hs, hhead, deref_live hx]
  rw [heq]
  refine ⟨q', rfl, ?_, rfl⟩
  exact {
    h with
    chain := hchain
    tail := by
      cases q' with
      | nil => simp [hchain.eq_none_iff.mpr rfl]
      | cons b q' =>
        have hnext : x.next ≠ none := fun hn => by simp [hchain.eq_none_iff] at hn
        simp [hnext, h.tail]
    count := by
      have hcount := h.count
      simp only [List.length_cons] at hcount ⊢
      omega
    bound := Nat.le_of_succ_le h.bound
    owned := by
      have howned := h.owned
      rw [State.owners, hhand] at howned
      exact howned.perm owners_pop
    handed_items := by
      have hhanded := h.handed_items
      rwa [hcall] at hhanded
    blocked := fun hb => absurd hb (by simp)
    not_started := fun hns => absurd hns (by simp [h.started hw]) }

end Worker

theorem Inv.callProcessEvent (h : Inv sizes s q) (hw : s.worker = .running (.popped a)) :
    Inv sizes (callProcessEvent a s) q ∧ (callProcessEvent a s).mailbox q = s.mailbox q := by
  obtain ⟨x, hx⟩ := h.live_of_mem (a := a) (by simp [State.owners, hw, inHand])
  have heq : EventQueue.callProcessEvent a s =
      { s with
        worker := .running (.processing a)
        handed := s.handed ++ [(a, x.delivery)] } := by
    simp [EventQueue.callProcessEvent, deref_live hx]
  rw [heq]
  refine ⟨?_, by simp only [State.mailbox, hw]; rfl⟩
  exact {
    h with
    owned := by
      have howned := h.owned
      rwa [State.owners, hw] at howned
    handed_items := by
      have hhanded := h.handed_items
      rw [hw] at hhanded
      simpa [State.processed, called] using hhanded
    handed_content := by
      intro p hp
      cases List.mem_append.mp hp with
      | inl hp => exact h.handed_content p hp
      | inr hp =>
        obtain rfl := List.mem_singleton.mp hp
        exact (h.content a x hx).delivers
    blocked := fun hb => absurd hb (by simp)
    not_started := fun hns => absurd (h.not_started hns) (by simp [hw]) }

theorem Inv.finishEvent (h : Inv sizes s q) (hw : s.worker = .running (.processing a)) :
    Inv sizes (finishEvent a s) q ∧
      (finishEvent a s).mailbox q =
        { s.mailbox q with settled := s.settled ++ [(a, .processed)], current := none } := by
  obtain ⟨x, hx⟩ := h.live_of_mem (a := a) (by simp [State.owners, hw, inHand])
  have haq : a ∉ q := h.queue_notMem (by simp [hw, inHand])
  have heq : EventQueue.finishEvent a s =
      { s with
        heap := Function.update s.heap a none
        freed := s.freed ++ [a]
        worker := .running .loop
        settled := s.settled ++ [(a, .processed)] } := by
    simp [EventQueue.finishEvent, freeEventItem_live hx]
  rw [heq]
  refine ⟨?_, rfl⟩
  exact {
    h with
    chain := h.chain.update_of_notMem haq none
    owned := by
      have howned := h.owned
      rw [State.owners, hw] at howned
      exact howned.free owners_finish
    prepared_next := fun b hb y hy => h.prepared_next b hb y (update_none_sub hy)
    content := fun b y hy => h.content b y (update_none_sub hy)
    handed_items := by
      have hhanded := h.handed_items
      rw [hw] at hhanded
      simpa [State.processed, called] using hhanded
    settled_freed := by
      simpa using h.settled_freed.append (List.Sublist.refl [a])
    rejected_freed := fun b hb => (h.rejected_freed b hb).imp_left (List.mem_append_left _)
    blocked := fun hb => absurd hb (by simp)
    not_started := fun hns => absurd (h.not_started hns) (by simp [hw]) }

theorem Inv.setWorker (h : Inv sizes s q) {w : Waiter WorkerPc} (started stop : Bool)
    (control : Control) (hhand : inHand w = inHand s.worker) (hcall : called w = called s.worker)
    (hblocked : w ≠ .blocked)
    (hidle : control = .stopped ∨ control = .starting → started = false)
    (habsent : started = false → w = .running .absent) :
    Inv sizes { s with
      worker := w
      evtWorkerStarted := started
      evtQStop := stop
      control := control } q where
  __ := h
  owned := by
    have howned := h.owned
    rwa [State.owners, ← hhand] at howned
  handed_items := h.handed_items.trans (by rw [hcall]; rfl)
  blocked := fun hb => absurd hb hblocked
  idle := hidle
  not_started := habsent

/-- One step keeps the invariant, refines steps of the mailbox, and accepts nothing
while `evtQStop` is set. -/
theorem Inv.step (h : Inv sizes s q) {act : Action} (hstep : step sizes s act = some s') :
    ∃ q', Inv sizes s' q' ∧ Mailbox.Steps (s.mailbox q) (s'.mailbox q') ∧
      (s.evtQStop = true → s'.accepted = s.accepted) := by
  have keep {t : State} (ht : Inv sizes t q ∧ t.mailbox q = s.mailbox q) :
      ∃ q', Inv sizes t q' ∧ Mailbox.Steps (s.mailbox q) (t.mailbox q') ∧
        (s.evtQStop = true → t.accepted = s.accepted) :=
    ⟨q, ht.1, ht.2 ▸ .refl, fun _ => congrArg Mailbox.accepted ht.2⟩
  cases act with
  | callHandler ev alloc =>
    obtain rfl := Option.some.inj hstep
    exact keep (h.eventHandler ev alloc)
  | enqueue a =>
    obtain ⟨ha, rfl⟩ := of_guard hstep
    by_cases hs : s.evtQStop = true ∨ (dsmgrEventQueueMax : Int) ≤ s.evtQCount
    · exact keep (h.enqueue_rejects ha hs)
    · simp only [not_or, Bool.not_eq_true, Int.not_le] at hs
      obtain ⟨hinv, hput⟩ := h.enqueue_accepts ha hs.1 hs.2
      exact ⟨q ++ [a], hinv, hput ▸ .single (.put _ a), by simp [hs.1]⟩
  | dropRejected a =>
    obtain ⟨ha, rfl⟩ := of_guard hstep
    exact keep (h.dropRejected ha)
  | workerSection =>
    obtain ⟨hw, rfl⟩ := of_guard hstep
    have hhand : (s.mailbox q).current = none := (empty_handed hw).1
    obtain hs | hs := Bool.eq_false_or_eq_true s.evtQStop
    · obtain ⟨hinv, hdiscard⟩ := h.worker_drains hw hs
      exact ⟨[], hinv, hdiscard ▸ .single (.discard hhand),
        fun _ => congrArg Mailbox.accepted hdiscard⟩
    · cases hhead : s.evtQHead with
      | none => exact keep (h.worker_waits hw hhead hs)
      | some a =>
        obtain ⟨q', rfl, hinv, htake⟩ := h.worker_pops hw hhead hs
        exact ⟨q', hinv, htake ▸ .single (.take hhand rfl), by simp [hs]⟩
  | spuriousWakeup =>
    obtain ⟨hw, rfl⟩ := of_guard hstep
    refine keep ⟨h.setWorker _ _ _ (by rw [hw]; rfl) (by rw [hw]; rfl) (by simp) h.idle ?_, ?_⟩
    · exact fun hns => absurd (h.not_started hns) (by simp [hw])
    · simp only [State.mailbox, hw]
      rfl
  | workerCall =>
    simp only [EventQueue.step] at hstep
    split at hstep
    case h_1 a hw =>
      obtain rfl := Option.some.inj hstep
      exact keep (h.callProcessEvent hw)
    case h_2 => cases hstep
  | workerReturn =>
    simp only [EventQueue.step] at hstep
    split at hstep
    case h_1 a hw =>
      obtain rfl := Option.some.inj hstep
      obtain ⟨hinv, hfinish⟩ := h.finishEvent hw
      have hcur : (s.mailbox q).current = some a := by simp [State.mailbox, hw, inHand]
      exact ⟨q, hinv, hfinish ▸ .single (.finish hcur), fun _ => congrArg Mailbox.accepted hfinish⟩
    case h_2 => cases hstep
  | start =>
    obtain ⟨hc, rfl⟩ := of_guard hstep
    have hw := h.not_started (h.idle (.inl hc))
    exact keep ⟨h.setWorker _ _ _ rfl rfl (by simp [hw]) (fun _ => h.idle (.inl hc)) h.not_started,
      rfl⟩
  | createWorker created =>
    obtain ⟨hc, rfl⟩ := of_guard hstep
    have hw := h.not_started (h.idle (.inr hc))
    cases created with
    | true =>
      refine keep ⟨h.setWorker _ _ _ (by rw [hw]; rfl) (by rw [hw]; rfl) (by simp) (by simp)
        (by simp), ?_⟩
      simp only [State.mailbox, hw]
      rfl
    | false => exact keep ⟨h.setWorker _ _ _ rfl rfl (by simp [hw]) (by simp) h.not_started, rfl⟩
  | stop =>
    obtain ⟨-, rfl⟩ := of_guard hstep
    cases hst : s.evtWorkerStarted with
    | true =>
      refine keep ⟨h.setWorker _ _ _ (inHand_signal _) (called_signal _) (by simp) (by simp)
        (by simp), ?_⟩
      simp [State.mailbox]
    | false =>
      have hw := h.not_started hst
      exact keep ⟨h.setWorker _ _ _ rfl rfl (by simp [hw]) (fun _ => rfl) (fun _ => hw), rfl⟩
  | join =>
    obtain ⟨⟨-, hw⟩, rfl⟩ := of_guard hstep
    refine keep ⟨h.setWorker _ _ _ (by rw [hw]; rfl) (by rw [hw]; rfl) (by simp) (fun _ => rfl)
      (fun _ => rfl), ?_⟩
    simp only [State.mailbox, hw]
    rfl

theorem run_mailbox {as : List Action} (hrun : run (step sizes) State.init as = some s) :
    ∃ q, Inv sizes s q ∧ (s.mailbox q).Balanced := by
  have sim (s : State) (act : Action) (s' : State) (m : Mailbox Addr)
      (h : ∃ q, Inv sizes s q ∧ s.mailbox q = m) (hstep : EventQueue.step sizes s act = some s') :
      ∃ m', (∃ q, Inv sizes s' q ∧ s'.mailbox q = m') ∧ Mailbox.Steps m m' := by
    obtain ⟨q, h, rfl⟩ := h
    obtain ⟨q', h', hsteps, -⟩ := h.step hstep
    exact ⟨_, ⟨q', h', rfl⟩, hsteps⟩
  obtain ⟨_, ⟨q, h, rfl⟩, hsteps⟩ :=
    run_refines sim (t := Mailbox.empty) ⟨[], Inv.init, rfl⟩ hrun
  exact ⟨q, h, Mailbox.Steps.balanced hsteps Mailbox.balanced_empty⟩

theorem Inv.accepted_nodup (h : Inv sizes s q) (hb : (s.mailbox q).Balanced) :
    s.accepted.Nodup := by
  have hbal : s.accepted = s.settled.map Prod.fst ++ ((inHand s.worker).toList ++ q) := by
    rw [← List.append_assoc]
    exact hb
  have hown := h.owned.nodup
  simp only [State.owners, List.append_assoc] at hown
  rw [← List.append_assoc] at hown
  have hlive : ((inHand s.worker).toList ++ q).Nodup :=
    List.perm_append_comm.nodup_iff.mp hown.of_append_left
  rw [hbal]
  refine List.nodup_append.mpr ⟨h.owned.freed_nodup.sublist h.settled_freed, hlive, ?_⟩
  intro b hb c hc hbc
  have hfreed : c ∈ s.freed := hbc ▸ h.settled_freed.subset hb
  refine h.owned.notMem_freed ?_ hfreed
  simp only [State.owners, List.mem_append] at hc ⊢
  tauto

theorem delivery_makeEventItem (ev : Event) (owner : List UInt8) :
    (makeEventItem sizes ev owner).delivery =
      { owner := (cstr 0 owner).take (iarmMaxNameLen - 1)
        eventId := ev.eventId
        data := (ev.data.getD []).take ev.len ++
          List.replicate (bufSize sizes ev.len - ((ev.data.getD []).take ev.len).length) 0
        len := ev.len } := by
  have hsize (n : Nat) : n ≤ bufSize sizes n := by
    simp only [bufSize]
    split <;> split <;> omega
  cases hdata : ev.data with
  | none => simp [DSMgrEventItem.delivery, makeEventItem, hdata, Buf.str_snprintf, iarmMaxNameLen]
  | some d =>
    have hlen : (d.take ev.len).length = ev.len := List.length_take_of_le (ev.len_le d hdata)
    by_cases hz : ev.len = 0
    · simp [DSMgrEventItem.delivery, makeEventItem, hdata, Buf.str_snprintf, iarmMaxNameLen, hz]
    · have hfits : (d.take ev.len).length ≤ bufSize sizes ev.len := hlen.symm ▸ hsize ev.len
      simp [DSMgrEventItem.delivery, makeEventItem, hdata, Buf.str_snprintf, iarmMaxNameLen, hz,
        Buf.chars_write hfits]

/-- What the event queue promises in every state, `q` being the chain from `evtQHead`. -/
structure QueueContract (sizes : EventSizes) (s : State) (q : List Addr) : Prop where
  chain : Chain DSMgrEventItem.next s.heap s.evtQHead q
  ends : s.evtQTail = q.getLast?
  count : s.evtQCount = q.length
  bound : q.length ≤ 256
  null_iff : (s.evtQHead = none ↔ s.evtQTail = none) ∧ (s.evtQTail = none ↔ s.evtQCount = 0)
  once : s.accepted.Nodup
  order : (s.handed.map Prod.fst).Sublist s.accepted
  handed_items : s.handed.map Prod.fst = s.processed ++ (called s.worker).toList
  fates : (s.processed ++ s.discarded ++ (inHand s.worker).toList ++ q).Perm s.accepted
  freed_once : s.freed.Nodup ∧ s.fault = false
  settled_freed : ∀ a ∈ s.processed ++ s.discarded, a ∈ s.freed
  rejected_freed : ∀ a ∈ s.rejected, a ∈ s.freed ∨ a ∈ s.rejecting
  gate : s.evtQStop = true →
    ∀ act s', step sizes s act = some s' → s'.accepted = s.accepted
  wakeup : s.worker = .blocked → s.evtQHead = none ∧ s.evtQStop = false
  delivered : ∀ p ∈ s.handed, ∃ ev owner, s.submitted p.1 = some ev ∧ ev.owner = some owner ∧
    p.2 = {
      owner := (cstr 0 owner).take 63
      eventId := ev.eventId
      data := (ev.data.getD []).take ev.len ++
        List.replicate (bufSize sizes ev.len - ((ev.data.getD []).take ev.len).length) 0
      len := ev.len }

theorem Inv.handed_sublist (h : Inv sizes s q) (hb : (s.mailbox q).Balanced) :
    (s.handed.map Prod.fst).Sublist s.accepted := by
  have hcalled : (called s.worker).toList.Sublist (inHand s.worker).toList := by
    cases s.worker with
    | running pc => cases pc <;> simp [called, inHand]
    | blocked => simp [called]
    | woken => simp [called]
  rw [h.handed_items]
  exact (hcalled.append_left s.processed).trans hb.handed_sublist

theorem Inv.null_iff (h : Inv sizes s q) :
    (s.evtQHead = none ↔ s.evtQTail = none) ∧ (s.evtQTail = none ↔ s.evtQCount = 0) := by
  rw [h.chain.eq_none_iff, h.tail, h.count, List.getLast?_eq_none_iff]
  simp

theorem eventQueue_correct {as : List Action} (hrun : run (step sizes) State.init as = some s) :
    ∃ q, QueueContract sizes s q := by
  obtain ⟨q, h, hb⟩ := run_mailbox hrun
  refine ⟨q, ?_⟩
  exact {
    chain := h.chain
    ends := h.tail
    count := h.count
    bound := h.bound
    null_iff := h.null_iff
    once := h.accepted_nodup hb
    order := h.handed_sublist hb
    handed_items := h.handed_items
    fates := hb.partition
    freed_once := ⟨h.owned.freed_nodup, h.no_fault⟩
    settled_freed := by
      intro a ha
      exact h.settled_freed.subset ((Mailbox.settled_perm s.settled).mem_iff.mp ha)
    rejected_freed := h.rejected_freed
    gate := by
      intro hs act s' hstep
      obtain ⟨-, -, -, hgate⟩ := h.step hstep
      exact hgate hs
    wakeup := fun hw => (h.blocked hw).imp_left h.chain.eq_none_iff.mpr
    delivered := by
      intro p hp
      obtain ⟨ev, owner, hev, howner, hdel⟩ := h.handed_content p hp
      exact ⟨ev, owner, hev, howner, hdel.trans (delivery_makeEventItem ev owner)⟩ }

def sampleEvent : Event where
  owner := some [68, 83, 77, 103, 114]
  eventId := 3
  data := some [1, 0, 0, 0]
  len := 4
  len_le := by simp

def sampleRun : List Action :=
  [.start, .createWorker true, .workerSection, .callHandler sampleEvent .succeeds,
    .callHandler sampleEvent .succeeds, .enqueue 1, .workerSection, .enqueue 0, .workerCall]

theorem eventQueue_correct_sampleRun :
    ∃ s, run (step ⟨8, 16⟩) State.init sampleRun = some s ∧ s.accepted = [1, 0] ∧
      s.processed = [] ∧ s.evtQCount = 1 ∧ ∃ q, QueueContract ⟨8, 16⟩ s q :=
  ⟨_, rfl, rfl, rfl, rfl, @eventQueue_correct _ _ sampleRun rfl⟩

end IarmMgrs.DsMgr.EventQueue
