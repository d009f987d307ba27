import Mathlib.Data.List.FinRange
import Mathlib.Logic.Function.Basic

/-!
# Replicas that are kept by deltas

A replica of an indexed family is brought up to date by overwriting listed entries, a piece of the
list at a time. `Tracks` says which entries of the replica are acceptable while entries of a list
have not been sent yet: sending a piece shortens the list, and a change of what is acceptable is
covered by listing the entries it affects.

A replica starts from a copy that is sent in pages; `paged` is what its entries may be meanwhile.
-/

namespace Roadcast.DeltaSync

variable {I A : Type*} [DecidableEq I]

/-- The replica after the listed entries were overwritten. -/
def overlay (listed : List I) (new old : I → A) : I → A :=
  fun i => if i ∈ listed then new i else old i

/-- Nothing is overwritten without a listed index. -/
@[simp] theorem overlay_nil (new old : I → A) : overlay [] new old = old := by
  funext i
  simp [overlay]

/-- A listed index is overwritten. -/
theorem overlay_of_mem {listed : List I} {i : I} (h : i ∈ listed) (new old : I → A) :
    overlay listed new old i = new i :=
  if_pos h

/-- An index that is not listed keeps its value. -/
theorem overlay_of_notMem {listed : List I} {i : I} (h : i ∉ listed) (new old : I → A) :
    overlay listed new old i = old i :=
  if_neg h

/-- Overwriting one entry and then others overwrites all of them. -/
theorem overlay_cons (i : I) (listed : List I) (new old : I → A) :
    overlay (i :: listed) new old = overlay listed new (Function.update old i (new i)) := by
  funext j
  by_cases hlisted : j ∈ listed
  · simp [overlay, hlisted]
  · by_cases hi : j = i
    · subst hi
      simp [overlay]
    · simp [overlay, hlisted, hi]

/-- Every entry of the replica is acceptable, or is still to be sent. -/
def Tracks (accepts : I → A → Prop) (replica : I → A) (unsent : List I) : Prop :=
  ∀ i, i ∈ unsent ∨ accepts i (replica i)

namespace Tracks

variable {accepts accepts' : I → A → Prop} {replica : I → A}

/-- Sending acceptable entries takes them off the list. -/
theorem send {piece rest : List I} {new : I → A} (h : Tracks accepts replica (piece ++ rest))
    (hnew : ∀ i ∈ piece, accepts i (new i)) : Tracks accepts (overlay piece new replica) rest := by
  intro i
  by_cases hpiece : i ∈ piece
  · rw [overlay_of_mem hpiece]
    exact Or.inr (hnew i hpiece)
  · rw [overlay_of_notMem hpiece]
    rcases h i with hunsent | haccepts
    · exact Or.inl ((List.mem_append.mp hunsent).resolve_left hpiece)
    · exact Or.inr haccepts

/-- A change of what is acceptable is covered by listing what it affects. -/
theorem retarget {unsent listed : List I} (h : Tracks accepts replica unsent)
    (hunsent : ∀ i ∈ unsent, i ∈ listed)
    (hkeep : ∀ i, i ∉ listed → ∀ a, accepts i a → accepts' i a) :
    Tracks accepts' replica listed := by
  intro i
  by_cases hlisted : i ∈ listed
  · exact Or.inl hlisted
  · exact Or.inr (hkeep i hlisted _ ((h i).resolve_left (mt (hunsent i) hlisted)))

omit [DecidableEq I] in
/-- With nothing left to send every entry is acceptable. -/
theorem settled (h : Tracks accepts replica []) (i : I) : accepts i (replica i) :=
  (h i).resolve_left List.not_mem_nil

end Tracks

section Paging

/-- The indices of a page are consecutive. -/
theorem page_consecutive (n start size : ℕ) :
    (((List.finRange n).drop start).take size).map Fin.val =
      List.range' start (((List.finRange n).drop start).take size).length := by
  refine List.ext_getElem (by simp) fun k hk _ => ?_
  simp

variable {n : ℕ} {A : Type*} (R : A → A → Prop) (next : ℕ) (copy current : Fin n → A) (live : Prop)

/-- What an entry may be while a copy is sent in pages: anything before its page was sent, then the
entry of the copy or, in a live session, the current one. -/
def paged (i : Fin n) (a : A) : Prop :=
  next ≤ i.val ∨ R a (copy i) ∨ (live ∧ R a (current i))

variable {R next copy current live}

/-- Before the first page nothing has to be tracked. -/
theorem Tracks.unpaged (replica : Fin n → A) : Tracks (paged R 0 copy current live) replica [] :=
  fun i => Or.inr (Or.inl (Nat.zero_le i.val))

/-- An entry outside a page was sent before it or comes after it. -/
theorem lt_or_le_of_notMem_page {next size : ℕ} {i : Fin n}
    (h : i ∉ ((List.finRange n).drop next).take size) :
    i.val < next ∨ next + (((List.finRange n).drop next).take size).length ≤ i.val := by
  by_contra hinside
  have hmem : i.val ∈ (((List.finRange n).drop next).take size).map Fin.val := by
    rw [page_consecutive, List.mem_range'_1]
    omega
  obtain ⟨j, hj, hval⟩ := List.mem_map.mp hmem
  exact h (Fin.ext hval ▸ hj)

/-- A page extends the range of the entries that were sent. -/
theorem Tracks.page {replica : Fin n → A} (hrefl : ∀ a, R a a)
    (h : Tracks (paged R next copy current live) replica []) (size : ℕ) :
    Tracks (paged R (next + (((List.finRange n).drop next).take size).length) copy current live)
      (overlay (((List.finRange n).drop next).take size) copy replica) [] := by
  intro i
  refine Or.inr ?_
  by_cases hpage : i ∈ ((List.finRange n).drop next).take size
  · rw [overlay_of_mem hpage]
    exact Or.inr (Or.inl (hrefl _))
  · rw [overlay_of_notMem hpage]
    rcases h.settled i with hnext | haccepts
    · exact Or.inl ((lt_or_le_of_notMem_page hpage).resolve_left (Nat.not_lt.mpr hnext))
    · exact Or.inr haccepts

/-- Once every entry was paged a round lists what the copy lacks. -/
theorem Tracks.subscribe {replica : Fin n → A} {listed : List (Fin n)}
    (h : Tracks (paged R n copy current live) replica [])
    (hlisted : ∀ i, i ∉ listed → ∀ a, R a (copy i) → R a (current i)) :
    Tracks (fun i a => R a (current i)) replica listed := by
  refine h.retarget nofun fun i hi a haccepts => ?_
  rcases haccepts with hnext | hcopy | hcurrent
  · exact absurd i.isLt (Nat.not_lt.mpr hnext)
  · exact hlisted i hi a hcopy
  · exact hcurrent.2

/-- The entries below an index are those of the copy. -/
def CopiedBelow (next : ℕ) (copy replica : Fin n → A) : Prop :=
  ∀ i, i.val < next → replica i = copy i

/-- Before the first page nothing has been copied. -/
theorem CopiedBelow.zero (copy replica : Fin n → A) : CopiedBelow 0 copy replica :=
  fun i hi => absurd hi (Nat.not_lt_zero i.val)

/-- A page of the copy extends the range. -/
theorem CopiedBelow.page {replica : Fin n → A} (h : CopiedBelow next copy replica) (size : ℕ) :
    CopiedBelow (next + (((List.finRange n).drop next).take size).length) copy
      (overlay (((List.finRange n).drop next).take size) copy replica) := by
  intro i hi
  by_cases hpage : i ∈ ((List.finRange n).drop next).take size
  · exact overlay_of_mem hpage copy replica
  · rw [overlay_of_notMem hpage]
    exact h i ((lt_or_le_of_notMem_page hpage).resolve_right (Nat.not_le.mpr hi))

/-- A whole copy is tracked with nothing to send. -/
theorem CopiedBelow.tracks {replica : Fin n → A} (hrefl : ∀ a, R a a)
    (h : CopiedBelow n copy replica) : Tracks (fun i a => R a (copy i)) replica [] := by
  intro i
  rw [h i i.isLt]
  exact Or.inr (hrefl (copy i))

end Paging

end Roadcast.DeltaSync
