import Mathlib.Data.Nat.Notation
import Mathlib.Logic.Relation

/-!
# Loops whose body can fail

`while (guard) body`, where a failing body leaves the loop with its error. `Ends` is the loop as a
relation: a result is one that a finite number of rounds leads to, so a loop that has a result
terminates. A measure that every round decreases gives one, and it is the result of the evaluation
with more fuel than the measure.
-/

namespace Roadcast.Loop

open Relation

variable {S E : Type} (guard : S → Bool) (body : S → Except E S)

/-- The loop ends with a result. -/
inductive Ends : S → Except E S → Prop
  | done {state : S} (hguard : guard state = false) : Ends state (.ok state)
  | failed {state : S} {error : E} (hguard : guard state = true)
      (hbody : body state = .error error) : Ends state (.error error)
  | next {state state' : S} {result : Except E S} (hguard : guard state = true)
      (hbody : body state = .ok state') (hrest : Ends state' result) : Ends state result

/-- One round. -/
def Round (state state' : S) : Prop := guard state = true ∧ body state = .ok state'

/-- The loop with a bound on the number of its rounds. -/
def eval : ℕ → S → Except E S
  | 0, state => .ok state
  | fuel + 1, state =>
    if guard state then do
      let next ← body state
      eval fuel next
    else .ok state

variable {guard body}

/-- With more fuel than a measure that every round decreases, the loop ends. -/
theorem ends_eval (measure : S → ℕ)
    (hless : ∀ {state state' : S}, body state = .ok state' → measure state' < measure state)
    {fuel : ℕ} {state : S} (hfuel : measure state < fuel) :
    Ends guard body state (eval guard body fuel state) := by
  induction fuel generalizing state with
  | zero => exact absurd hfuel (Nat.not_lt_zero _)
  | succ fuel ih =>
    rw [eval]
    cases hguard : guard state with
    | false => exact .done hguard
    | true =>
      rw [if_pos rfl]
      cases hbody : body state with
      | error error => exact .failed hguard hbody
      | ok next =>
        have hnext := hless hbody
        exact .next hguard hbody (ih (by omega))

/-- A loop that succeeds goes through rounds to a state where its guard fails. -/
theorem Ends.of_ok {state state' : S} (h : Ends guard body state (.ok state')) :
    ReflTransGen (Round guard body) state state' ∧ guard state' = false := by
  generalize hresult : Except.ok state' = result at h
  induction h with
  | done hguard =>
    obtain rfl := Except.ok.inj hresult
    exact ⟨.refl, hguard⟩
  | failed hguard hbody => cases hresult
  | next hguard hbody hrest ih =>
    obtain ⟨hrounds, hdone⟩ := ih hresult
    exact ⟨.head ⟨hguard, hbody⟩ hrounds, hdone⟩

/-- A loop that fails goes through rounds to a state where its body fails. -/
theorem Ends.of_error {state : S} {error : E} (h : Ends guard body state (.error error)) :
    ∃ last, ReflTransGen (Round guard body) state last ∧ guard last = true ∧
      body last = .error error := by
  generalize hresult : Except.error error = result at h
  induction h with
  | done hguard => cases hresult
  | failed hguard hbody =>
    obtain rfl := Except.error.inj hresult
    exact ⟨_, .refl, hguard, hbody⟩
  | next hguard hbody hrest ih =>
    obtain ⟨last, hrounds, hlast, herror⟩ := ih hresult
    exact ⟨last, .head ⟨hguard, hbody⟩ hrounds, hlast, herror⟩

end Roadcast.Loop
