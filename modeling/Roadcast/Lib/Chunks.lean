import Mathlib.Data.Nat.Basic

/-!
# Cutting a list into chunks

`chunks n l` cuts `l` into consecutive pieces of `n` elements, the last one possibly shorter. Nothing
is lost or reordered.
-/

namespace Roadcast.Chunks

variable {A : Type*}

/-- At most `fuel` pieces of `n` elements. -/
def chunksAux (n : ℕ) : ℕ → List A → List (List A)
  | 0, _ => []
  | _ + 1, [] => []
  | fuel + 1, a :: l => (a :: l).take n :: chunksAux n fuel ((a :: l).drop n)

/-- The pieces of a list. -/
def chunks (n : ℕ) (l : List A) : List (List A) := chunksAux n l.length l

/-- With enough fuel, the chunks put together are the list. -/
theorem chunksAux_flatten (n : ℕ) (hn : 0 < n) (fuel : ℕ) (l : List A) (hfuel : l.length ≤ fuel) :
    (chunksAux n fuel l).flatten = l := by
  induction fuel generalizing l with
  | zero =>
    have hnil : l = [] := List.length_eq_zero_iff.mp (Nat.le_zero.mp hfuel)
    rw [hnil]
    rfl
  | succ fuel ih =>
    cases l with
    | nil => rfl
    | cons a l =>
      have hrest : ((a :: l).drop n).length ≤ fuel := by
        rw [List.length_drop]
        simp only [List.length_cons] at hfuel ⊢
        omega
      rw [chunksAux, List.flatten_cons, ih _ hrest, List.take_append_drop]

/-- The pieces put together are the list. -/
theorem chunks_flatten (n : ℕ) (hn : 0 < n) (l : List A) : (chunks n l).flatten = l :=
  chunksAux_flatten n hn l.length l le_rfl

/-- A nonempty list has a piece. -/
theorem chunks_ne_nil (n : ℕ) (l : List A) (h : l ≠ []) : chunks n l ≠ [] := by
  cases l with
  | nil => exact absurd rfl h
  | cons a l => simp [chunks, chunksAux]

/-- With enough fuel, the number of chunks is that of the quotient, rounded up. -/
theorem chunksAux_length (n : ℕ) (hn : 0 < n) (fuel : ℕ) (l : List A) (hfuel : l.length ≤ fuel) :
    (chunksAux n fuel l).length = (l.length + n - 1) / n := by
  have hzero : 0 = (0 + n - 1) / n := (Nat.div_eq_of_lt (by omega)).symm
  induction fuel generalizing l with
  | zero =>
    have hnil : l = [] := List.length_eq_zero_iff.mp (Nat.le_zero.mp hfuel)
    rw [hnil]
    exact hzero
  | succ fuel ih =>
    cases l with
    | nil => exact hzero
    | cons a l =>
      have hrest : ((a :: l).drop n).length ≤ fuel := by
        rw [List.length_drop]
        simp only [List.length_cons] at hfuel ⊢
        omega
      rw [chunksAux, List.length_cons, ih _ hrest, List.length_drop]
      by_cases hle : (a :: l).length ≤ n
      · -- the only piece
        rw [Nat.sub_eq_zero_of_le hle, Nat.zero_add, Nat.div_eq_of_lt (by omega)]
        exact (Nat.div_eq_of_lt_le (by simp only [List.length_cons]; omega) (by omega)).symm
      · have hsum : (a :: l).length + n - 1 = (a :: l).length - n + n - 1 + n := by omega
        rw [hsum, Nat.add_div_right _ hn]

/-- The number of pieces is the length divided by the size of a piece, rounded up. -/
theorem chunks_length (n : ℕ) (hn : 0 < n) (l : List A) :
    (chunks n l).length = (l.length + n - 1) / n :=
  chunksAux_length n hn l.length l le_rfl

/-- No chunk is longer than the chunk size. -/
theorem length_le_of_mem_chunksAux {n fuel : ℕ} {l piece : List A}
    (h : piece ∈ chunksAux n fuel l) : piece.length ≤ n := by
  induction fuel generalizing l with
  | zero => cases h
  | succ fuel ih =>
    cases l with
    | nil => cases h
    | cons a l =>
      rcases List.mem_cons.mp h with rfl | hrest
      · exact List.length_take_le n _
      · exact ih hrest

/-- No piece is longer than the size of a piece. -/
theorem length_le_of_mem_chunks {n : ℕ} {l piece : List A} (h : piece ∈ chunks n l) :
    piece.length ≤ n :=
  length_le_of_mem_chunksAux h

/-- No chunk is empty. -/
theorem ne_nil_of_mem_chunksAux {n fuel : ℕ} (hn : 0 < n) {l piece : List A}
    (h : piece ∈ chunksAux n fuel l) : piece ≠ [] := by
  induction fuel generalizing l with
  | zero => cases h
  | succ fuel ih =>
    cases l with
    | nil => cases h
    | cons a l =>
      rcases List.mem_cons.mp h with rfl | hrest
      · simp [Nat.pos_iff_ne_zero.mp hn]
      · exact ih hrest

/-- No piece is empty. -/
theorem ne_nil_of_mem_chunks {n : ℕ} (hn : 0 < n) {l piece : List A} (h : piece ∈ chunks n l) :
    piece ≠ [] :=
  ne_nil_of_mem_chunksAux hn h

/-- Each piece is a part of the list. -/
theorem sublist_of_mem_chunks {n : ℕ} (hn : 0 < n) {l piece : List A} (h : piece ∈ chunks n l) :
    piece.Sublist l := by
  have hpart : piece.Sublist (chunks n l).flatten := List.sublist_flatten_of_mem h
  rwa [chunks_flatten n hn l] at hpart

end Roadcast.Chunks
