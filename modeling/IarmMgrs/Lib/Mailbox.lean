import Mathlib.Data.List.Nodup
import Mathlib.Logic.Relation

universe u

namespace IarmMgrs.Lib

inductive Fate where | processed | discarded
  deriving DecidableEq

structure Mailbox (α : Type u) : Type u where
  accepted : List α
  settled : List (α × Fate)
  current : Option α
  queue : List α

namespace Mailbox

variable {α : Type u}

def empty : Mailbox α := ⟨[], [], none, []⟩

def put (m : Mailbox α) (a : α) : Mailbox α :=
  { m with accepted := m.accepted ++ [a], queue := m.queue ++ [a] }

def discard (m : Mailbox α) : Mailbox α :=
  { m with settled := m.settled ++ m.queue.map (·, .discarded), queue := [] }

inductive Step : Mailbox α → Mailbox α → Prop
  | put (m : Mailbox α) (a : α) : Step m (m.put a)
  | take {m : Mailbox α} {a : α} {q : List α} : m.current = none → m.queue = a :: q →
      Step m { m with current := some a, queue := q }
  | finish {m : Mailbox α} {a : α} : m.current = some a →
      Step m { m with settled := m.settled ++ [(a, .processed)], current := none }
  | discard {m : Mailbox α} : m.current = none → Step m m.discard

abbrev Steps : Mailbox α → Mailbox α → Prop := Relation.ReflTransGen Step

def withFate (f : Fate) (l : List (α × Fate)) : List α :=
  (l.filter (·.2 = f)).map Prod.fst

def processed (m : Mailbox α) : List α := withFate .processed m.settled

def discarded (m : Mailbox α) : List α := withFate .discarded m.settled

def Balanced (m : Mailbox α) : Prop :=
  m.accepted = m.settled.map Prod.fst ++ m.current.toList ++ m.queue

theorem balanced_empty : (empty : Mailbox α).Balanced := rfl

theorem Step.balanced {m m' : Mailbox α} (h : Step m m') (hm : m.Balanced) : m'.Balanced := by
  unfold Balanced at *
  cases h with
  | put a => simp [Mailbox.put, hm]
  | take hc hq => simp_all
  | finish hc => simp_all
  | discard hc => simp [Mailbox.discard, hm, hc, Function.comp_def]

theorem Steps.balanced {m m' : Mailbox α} (h : Steps m m') (hm : m.Balanced) : m'.Balanced := by
  induction h with
  | refl => exact hm
  | tail _ hstep ih => exact hstep.balanced ih

@[simp] theorem withFate_append (f : Fate) (l l' : List (α × Fate)) :
    withFate f (l ++ l') = withFate f l ++ withFate f l' := by simp [withFate]

@[simp] theorem withFate_singleton (f g : Fate) (a : α) :
    withFate f [(a, g)] = if g = f then [a] else [] := by
  unfold withFate
  split <;> simp_all

theorem withFate_map_ne {f g : Fate} (h : g ≠ f) (l : List α) :
    withFate f (l.map (·, g)) = [] := by
  simp [withFate, List.filter_map, Function.comp_def, h]

theorem withFate_sublist (f : Fate) (l : List (α × Fate)) :
    (withFate f l).Sublist (l.map Prod.fst) := List.filter_sublist.map _

theorem settled_perm (l : List (α × Fate)) :
    (withFate .processed l ++ withFate .discarded l).Perm (l.map Prod.fst) := by
  induction l with
  | nil => exact .refl _
  | cons p l ih =>
    obtain ⟨a, f⟩ := p
    cases f with
    | processed => simpa [withFate] using ih
    | discarded =>
      have h : (withFate .processed l ++ a :: withFate .discarded l).Perm
          (a :: l.map Prod.fst) := List.perm_middle.trans (ih.cons a)
      simpa [withFate] using h

/-- Order: what was processed, then what is in hand, in the order of acceptance. -/
theorem Balanced.handed_sublist {m : Mailbox α} (h : m.Balanced) :
    (m.processed ++ m.current.toList).Sublist m.accepted := by
  rw [h]
  exact ((withFate_sublist _ _).append_right _).trans (List.sublist_append_left _ _)

/-- No loss and no duplication: the four fates partition the accepted items. -/
theorem Balanced.partition {m : Mailbox α} (h : m.Balanced) :
    (m.processed ++ m.discarded ++ m.current.toList ++ m.queue).Perm m.accepted := by
  rw [h]
  exact ((settled_perm m.settled).append_right _).append_right _

end Mailbox

end IarmMgrs.Lib
