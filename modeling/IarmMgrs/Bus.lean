import Mathlib.Data.List.Basic

universe u

namespace IarmMgrs.Bus

inductive IarmResult where | success | invalidParam | invalidState | ipccoreFail | oom
  deriving DecidableEq

variable {κ : Type u}

def attempt (answer : κ → IarmResult) : List κ → IarmResult
  | [] => .success
  | call :: calls => if answer call = .success then attempt answer calls else answer call

variable {answer : κ → IarmResult} {calls : List κ}

@[simp] theorem attempt_eq_success :
    attempt answer calls = .success ↔ ∀ call ∈ calls, answer call = .success := by
  induction calls with
  | nil => simp [attempt]
  | cons call calls ih =>
    simp only [attempt, List.forall_mem_cons]
    split
    · next hcall => rw [ih, and_iff_right hcall]
    · next hcall => exact iff_of_false hcall fun h => hcall h.1

end IarmMgrs.Bus
