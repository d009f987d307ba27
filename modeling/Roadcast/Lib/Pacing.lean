import Mathlib.Algebra.Order.Ring.Nat
import Mathlib.Tactic.TypeStar

/-!
# Pacing a loop

The passes of a loop are due one period after the other and begin no earlier. A pass that ends more
than a period after it was due is not made up for: the next period counts from its end. So the passes
stay within the rate in the long run, and a window of time holds at most two more than the rate gives.
-/

namespace Roadcast.Pacing

/-- A pass of the loop: when it begins and when it ends. -/
structure Pass where
  began : ℕ
  ended : ℕ

/-- From when on the next period counts. -/
def catchUp (period due ended : ℕ) : ℕ :=
  if ended > due + period then ended else due

/-- Passes of which none begins before it is due. The first period counts from `base`. -/
def Paced (period : ℕ) : ℕ → List Pass → Prop
  | _, [] => True
  | base, pass :: rest =>
    base + period ≤ pass.began ∧ pass.began ≤ pass.ended ∧
      Paced period (catchUp period (base + period) pass.ended) rest

/-- Catching up does not go back. -/
theorem le_catchUp (period due ended : ℕ) : due ≤ catchUp period due ended := by
  unfold catchUp
  split
  · omega
  · exact Nat.le_refl due

/-- The next pass is not due before the end of this one, unless this one was on time. -/
theorem ended_le_catchUp (period due ended : ℕ) : ended ≤ catchUp period due ended + period := by
  unfold catchUp
  split
  · omega
  · omega

variable {period base : ℕ} {passes : List Pass}

/-- The passes until a moment fit into the time until then. -/
theorem Paced.elapsed (h : Paced period base passes) (moment : ℕ) :
    (passes.countP fun pass => decide (pass.began ≤ moment)) * period ≤ moment - base := by
  induction passes generalizing base with
  | nil => simp
  | cons pass rest ih =>
    obtain ⟨hdue, -, hrest⟩ := h
    have hnext := le_catchUp period (base + period) pass.ended
    have hlater := ih hrest
    by_cases hbegan : pass.began ≤ moment
    · rw [List.countP_cons_of_pos (by simpa using hbegan), Nat.succ_mul]
      omega
    · rw [List.countP_cons_of_neg (by simpa using hbegan)]
      omega

/-- A window holds at most two passes more than its length has periods. -/
theorem Paced.window (h : Paced period base passes) (hperiod : 0 < period) (moment length : ℕ) :
    (passes.countP fun pass => decide (moment ≤ pass.began ∧ pass.began ≤ moment + length)) ≤
      length / period + 2 := by
  induction passes generalizing base with
  | nil => exact Nat.zero_le _
  | cons pass rest ih =>
    obtain ⟨-, hended, hrest⟩ := h
    by_cases hbegan : moment ≤ pass.began ∧ pass.began ≤ moment + length
    · -- after the first pass in the window, the next one is due within it
      have hnext := ended_le_catchUp period (base + period) pass.ended
      have hlater : (rest.countP fun pass =>
          decide (moment ≤ pass.began ∧ pass.began ≤ moment + length)) ≤
          rest.countP fun pass => decide (pass.began ≤ moment + length) :=
        List.countP_mono_left fun pass _ hpass => by
          simp only [decide_eq_true_eq] at hpass ⊢
          exact hpass.2
      have hfew : (rest.countP fun pass => decide (pass.began ≤ moment + length)) ≤
          length / period + 1 := by
        rw [← Nat.add_div_right length hperiod, Nat.le_div_iff_mul_le hperiod]
        have helapsed := hrest.elapsed (moment + length)
        omega
      rw [List.countP_cons_of_pos (by simpa using hbegan)]
      omega
    · rw [List.countP_cons_of_neg (by simpa using hbegan)]
      exact ih hrest

end Roadcast.Pacing
