import Mathlib.Order.Basic
import Mathlib.Tactic.TypeStar

/-!
# Moving a number of bytes in pieces

A loop that repeats a call on a descriptor that does not block until a number of bytes has been moved:
each call moves some of them, is interrupted by a signal, or would block, and then the loop waits. The
answers of the calls come from outside. What a transfer has moved is known from its count alone, so
that it does not matter how the bytes were divided among the calls.
-/

namespace Roadcast.Transfer

variable {E W : Type*}

/-- What one call answers. It moves at most what is asked for and what is there. -/
inductive Answer (W : Type*)
  | moved (count : ℕ)
  | interrupted
  | wouldBlock (wait : W)
  | failed

/-- How a loop ends; it is pending while it waits for an answer. -/
inductive Ending (E : Type*)
  | complete
  | stopped (error : E)
  | pending
  deriving DecidableEq

/-- How many bytes a transfer has moved, how it ended, and the answers to later calls. -/
structure Result (E W : Type*) where
  moved : ℕ
  ending : Ending E
  answers : List (Answer W)

/-- The loop. A call that moves nothing stops it, as the other side has closed. -/
def transfer (closed failed : E) (wait : W → Ending E) : ℕ → ℕ → List (Answer W) → Result E W
  | 0, _, answers => ⟨0, .complete, answers⟩
  | _ + 1, _, [] => ⟨0, .pending, []⟩
  | left + 1, available, .moved count :: rest =>
    let moved := min count (min (left + 1) available)
    if moved = 0 then ⟨0, .stopped closed, rest⟩
    else
      let later := transfer closed failed wait (left + 1 - moved) (available - moved) rest
      { later with moved := moved + later.moved }
  | left + 1, available, .interrupted :: rest =>
    transfer closed failed wait (left + 1) available rest
  | left + 1, available, .wouldBlock waited :: rest =>
    match wait waited with
    | .complete => transfer closed failed wait (left + 1) available rest
    | .stopped error => ⟨0, .stopped error, rest⟩
    | .pending => ⟨0, .pending, rest⟩
  | _ + 1, _, .failed :: rest => ⟨0, .stopped failed, rest⟩

/-- A transfer moves at most what is asked for and what is there, and all that is asked for exactly if
it is complete. -/
structure Result.Accounts (left available : ℕ) (result : Result E W) : Prop where
  moved_le : result.moved ≤ left
  moved_le_available : result.moved ≤ available
  complete_iff : result.ending = .complete ↔ result.moved = left

variable {closed failed : E} {wait : W → Ending E}

/-- A transfer that ends at once has moved nothing. -/
theorem accounts_of_not_complete {left available : ℕ} {ending : Ending E} {rest : List (Answer W)}
    (hending : ending ≠ .complete) :
    (⟨0, ending, rest⟩ : Result E W).Accounts (left + 1) available :=
  ⟨Nat.zero_le _, Nat.zero_le _, iff_of_false hending (Nat.succ_ne_zero left).symm⟩

/-- A transfer moves no more than was asked for and available, and all of it if it is complete. -/
theorem transfer_accounts (left available : ℕ) (answers : List (Answer W)) :
    (transfer closed failed wait left available answers).Accounts left available := by
  induction answers generalizing left available with
  | nil =>
    cases left with
    | zero => exact ⟨Nat.le_refl 0, Nat.zero_le _, iff_of_true rfl rfl⟩
    | succ left => exact accounts_of_not_complete (by simp)
  | cons answer rest ih =>
    cases left with
    | zero => exact ⟨Nat.le_refl 0, Nat.zero_le _, iff_of_true rfl rfl⟩
    | succ left =>
      cases answer with
      | moved count =>
        simp only [transfer]
        split
        · exact accounts_of_not_complete (by simp)
        · obtain ⟨hleft, havailable, hcomplete⟩ := ih
            (left + 1 - min count (min (left + 1) available))
            (available - min count (min (left + 1) available))
          refine ⟨by dsimp only; omega, by dsimp only; omega, ?_⟩
          rw [hcomplete]
          dsimp only
          omega
      | interrupted => exact ih (left + 1) available
      | wouldBlock waited =>
        simp only [transfer]
        split
        · exact ih (left + 1) available
        · exact accounts_of_not_complete (by simp)
        · exact accounts_of_not_complete (by simp)
      | failed => exact accounts_of_not_complete (by simp)

end Roadcast.Transfer
