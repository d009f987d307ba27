import Mathlib.Data.List.Nodup
import Mathlib.Logic.Function.Basic

/-!
# Vectored reads

A vectored read moves the contents of a list of remote segments, one behind the other, into a list of
local segments of the same width. It may stop early; then the first bytes have been moved.

`scatter` distributes the bytes over the local segments. Two lists of segments that are told apart by
a special value only, such as a null address, still correspond as far as no special one occurs.
-/

namespace Roadcast.Vectored

variable {ι β : Type*} {w : ℕ}

/-- Bytes written over the front of a segment; those that do not fit are ignored. -/
def overlay (bytes : List β) (segment : Vector β w) : Vector β w :=
  Vector.ofFn fun j => (bytes[j.val]?).getD segment[j]

/-- A byte that was read replaces the one of the segment. -/
theorem overlay_getElem {bytes : List β} {j : ℕ} {b : β} (segment : Vector β w) (hj : j < w)
    (h : bytes[j]? = some b) : (overlay bytes segment)[j] = b := by
  simp [overlay, h]

section Scatter

variable [DecidableEq ι]

/-- Bytes distributed over segments, in the order of a list. -/
def scatter : List ι → List β → (ι → Vector β w) → ι → Vector β w
  | [], _, segments => segments
  | i :: rest, bytes, segments =>
    scatter rest (bytes.drop w) (Function.update segments i (overlay bytes (segments i)))

/-- A segment that is no target keeps its bytes. -/
theorem scatter_of_notMem {targets : List ι} {i : ι} (h : i ∉ targets) (bytes : List β)
    (segments : ι → Vector β w) : scatter targets bytes segments i = segments i := by
  induction targets generalizing bytes segments with
  | nil => rfl
  | cons target rest ih =>
    rw [List.mem_cons, not_or] at h
    rw [scatter, ih h.2, Function.update_of_ne h.1]

/-- The segment at a position receives the bytes of that position. -/
theorem scatter_getElem {targets : List ι} (hnodup : targets.Nodup) {k : ℕ} {i : ι}
    (hi : targets[k]? = some i) {bytes : List β} {j : ℕ} (hj : j < w) {b : β}
    (hb : bytes[w * k + j]? = some b) (segments : ι → Vector β w) :
    (scatter targets bytes segments i)[j] = b := by
  induction targets generalizing k bytes segments with
  | nil => simp at hi
  | cons target rest ih =>
    obtain ⟨hfirst, hrest⟩ := List.nodup_cons.mp hnodup
    rw [scatter]
    cases k with
    | zero =>
      obtain rfl : target = i := by simpa using hi
      simp only [scatter_of_notMem hfirst, Function.update_self]
      exact overlay_getElem _ hj (by simpa using hb)
    | succ k =>
      have hdrop : (bytes.drop w)[w * k + j]? = some b := by
        rw [List.getElem?_drop, ← hb, Nat.mul_succ]
        congr 1
        omega
      exact ih hrest (by simpa using hi) hdrop _

end Scatter

/-- The elements that pass a test, taken in order, are the first ones of the list, unless one that
fails the test is among the first. -/
theorem take_length_filter {α : Type*} (p : α → Bool) (list : List α)
    (h : ∀ a ∈ list.take (list.filter p).length, p a = true) :
    list.take (list.filter p).length = list.filter p := by
  induction list with
  | nil => rfl
  | cons a rest ih =>
    cases ha : p a with
    | true =>
      rw [List.filter_cons_of_pos ha, List.length_cons, List.take_succ_cons] at h ⊢
      rw [ih fun b hb => h b (List.mem_cons_of_mem a hb)]
    | false =>
      rw [List.filter_cons_of_neg (by simp [ha])] at h ⊢
      -- the first element fails, so nothing may be taken
      cases hcount : (rest.filter p).length with
      | zero => rw [List.take_zero, List.length_eq_zero_iff.mp hcount]
      | succ count =>
        rw [hcount, List.take_succ_cons] at h
        exact absurd (h a List.mem_cons_self) (by simp [ha])

end Roadcast.Vectored
