import Mathlib.Init

universe u

namespace IarmMgrs.Lib

/-- `π` are the positions of the thread outside the wait.  A `blocked` thread has
no wakeup pending; a `woken` one still has to take the mutex again. -/
inductive Waiter (π : Type u) : Type u
  | running : π → Waiter π
  | blocked : Waiter π
  | woken : Waiter π
  deriving DecidableEq

namespace Waiter

variable {π : Type u}

/-- Signalling the condition variable is lost unless the thread is blocked. -/
def signal : Waiter π → Waiter π
  | .blocked => .woken
  | .running p => .running p
  | .woken => .woken

@[simp] theorem signal_running (p : π) : (running p).signal = running p := rfl

@[simp] theorem signal_ne_blocked (t : Waiter π) : t.signal ≠ .blocked := by
  cases t <;> simp [signal]

theorem signal_eq_running {t : Waiter π} {p : π} :
    t.signal = .running p ↔ t = .running p := by
  cases t <;> simp [signal]

end Waiter

end IarmMgrs.Lib
