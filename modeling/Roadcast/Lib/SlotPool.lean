import Mathlib.Algebra.BigOperators.Group.Finset.Piecewise
import Mathlib.Algebra.Group.Action.Defs
import Mathlib.Algebra.Order.BigOperators.Group.Finset
import Mathlib.Data.Fintype.Card

/-!
# Pools of output slots

A finite family of slots, each free or holding a write of some length. The used bytes are the sum
of the lengths in use; taking a free slot adds its length, releasing a used one subtracts it. A pool
in which every used slot is within a set of usable ones and holds at most `cap` bytes is bounded by
the number of usable slots, and by one slot less while one of them is free.
-/

namespace Roadcast.SlotPool

open Finset

/-- One slot. -/
structure Slot where
  length : ℕ
  inUse : Bool
  deriving DecidableEq, Repr

/-- A released slot. -/
def Slot.free : Slot := ⟨0, false⟩

/-- A slot that holds `n` bytes. -/
def Slot.holding (n : ℕ) : Slot := ⟨n, true⟩

/-- The bytes a slot accounts for. -/
def Slot.used (slot : Slot) : ℕ := if slot.inUse then slot.length else 0

/-- A free slot holds nothing. -/
@[simp] theorem Slot.used_free : Slot.free.used = 0 := rfl

/-- A slot in use holds its bytes. -/
@[simp] theorem Slot.used_holding (n : ℕ) : (Slot.holding n).used = n := rfl

variable {ι : Type*} [Fintype ι]

/-- The bytes of the slots in use. -/
def usedBytes (slots : ι → Slot) : ℕ := ∑ i, (slots i).used

/-- No slot accounts for more than the pool. -/
theorem used_le_usedBytes (slots : ι → Slot) (i : ι) : (slots i).used ≤ usedBytes slots :=
  single_le_sum (f := fun j => (slots j).used) (fun _ _ => Nat.zero_le _) (mem_univ i)

/-- A pool with nothing in use holds nothing. -/
theorem usedBytes_eq_zero (slots : ι → Slot) (h : ∀ i, (slots i).inUse = false) :
    usedBytes slots = 0 := by
  refine sum_eq_zero fun i _ => ?_
  simp [Slot.used, h i]

variable [DecidableEq ι]

/-- Replacing one slot moves the sum by the difference. -/
theorem usedBytes_update (slots : ι → Slot) (i : ι) (slot : Slot) :
    usedBytes (Function.update slots i slot) + (slots i).used = usedBytes slots + slot.used := by
  have hnew : usedBytes (Function.update slots i slot) =
      slot.used + ∑ j ∈ univ.erase i, (slots j).used := by
    rw [usedBytes, ← add_sum_erase univ _ (mem_univ i), Function.update_self]
    congr 1
    refine sum_congr rfl fun j hj => ?_
    rw [Function.update_of_ne (ne_of_mem_erase hj)]
  have hold : usedBytes slots = (slots i).used + ∑ j ∈ univ.erase i, (slots j).used :=
    (add_sum_erase univ (fun j => (slots j).used) (mem_univ i)).symm
  omega

/-- Taking a free slot adds its bytes. -/
theorem usedBytes_take (slots : ι → Slot) (i : ι) (n : ℕ) (hfree : (slots i).inUse = false) :
    usedBytes (Function.update slots i (Slot.holding n)) = usedBytes slots + n := by
  have h := usedBytes_update slots i (Slot.holding n)
  have hzero : (slots i).used = 0 := by simp [Slot.used, hfree]
  rw [hzero, Slot.used_holding] at h
  omega

/-- Freeing a slot subtracts what it accounted for. -/
theorem usedBytes_release (slots : ι → Slot) (i : ι) :
    usedBytes (Function.update slots i Slot.free) = usedBytes slots - (slots i).used := by
  have h := usedBytes_update slots i Slot.free
  rw [Slot.used_free] at h
  omega

/-- The free slots among the usable ones. -/
def freeSlots (slots : ι → Slot) (usable : Finset ι) : Finset ι :=
  usable.filter fun i => (slots i).inUse = false

omit [Fintype ι] in
/-- Taking a free slot leaves one free slot less. -/
theorem card_freeSlots_take (slots : ι → Slot) (usable : Finset ι) (i : ι) (n : ℕ)
    (hi : i ∈ usable) (hfree : (slots i).inUse = false) :
    (freeSlots (Function.update slots i (Slot.holding n)) usable).card + 1 =
      (freeSlots slots usable).card := by
  have hmem : i ∈ freeSlots slots usable := mem_filter.mpr ⟨hi, hfree⟩
  have herase : freeSlots (Function.update slots i (Slot.holding n)) usable =
      (freeSlots slots usable).erase i := by
    ext j
    simp only [freeSlots, mem_erase, mem_filter]
    by_cases hj : j = i
    · subst hj
      simp [Slot.holding]
    · simp [hj]
  rw [herase, card_erase_add_one hmem]

omit [Fintype ι] in
/-- Releasing a used slot leaves one free slot more. -/
theorem card_freeSlots_release (slots : ι → Slot) (usable : Finset ι) (i : ι) (hi : i ∈ usable)
    (hused : (slots i).inUse = true) :
    (freeSlots (Function.update slots i Slot.free) usable).card =
      (freeSlots slots usable).card + 1 := by
  have hnotMem : i ∉ freeSlots slots usable := by simp [freeSlots, hused]
  have hinsert : freeSlots (Function.update slots i Slot.free) usable =
      insert i (freeSlots slots usable) := by
    ext j
    simp only [freeSlots, mem_insert, mem_filter]
    by_cases hj : j = i
    · subst hj
      simp [Slot.free, hi]
    · simp [hj]
  rw [hinsert, card_insert_of_notMem hnotMem]

section Bounds

variable (slots : ι → Slot) (cap : ℕ)
  (hcap : ∀ i, (slots i).inUse = true → (slots i).length ≤ cap)

include hcap

omit [DecidableEq ι] in
/-- The pool holds at most `cap` bytes for each usable slot. -/
theorem usedBytes_le (usable : Finset ι) (husable : ∀ i, (slots i).inUse = true → i ∈ usable) :
    usedBytes slots ≤ usable.card * cap := by
  have hzero : ∀ i ∈ univ, i ∉ usable → (slots i).used = 0 := by
    intro i _ hi
    have hfree : ¬ (slots i).inUse = true := fun h => hi (husable i h)
    simp [Slot.used, hfree]
  rw [usedBytes, ← sum_subset (subset_univ usable) hzero, ← smul_eq_mul]
  refine sum_le_card_nsmul usable _ cap fun i _ => ?_
  unfold Slot.used
  split
  · exact hcap i ‹_›
  · exact Nat.zero_le cap

/-- While a usable slot is free there is room for one more write of `cap` bytes. -/
theorem usedBytes_add_le (usable : Finset ι) (husable : ∀ i, (slots i).inUse = true → i ∈ usable)
    (i : ι) (hi : i ∈ usable) (hfree : (slots i).inUse = false) :
    usedBytes slots + cap ≤ usable.card * cap := by
  have hless : usedBytes slots ≤ (usable.erase i).card * cap := by
    refine usedBytes_le slots cap hcap (usable.erase i) fun j hj => ?_
    refine mem_erase.mpr ⟨?_, husable j hj⟩
    rintro rfl
    rw [hfree] at hj
    contradiction
  have hcard : (usable.erase i).card + 1 = usable.card := card_erase_add_one hi
  rw [← hcard, Nat.add_mul, Nat.one_mul]
  omega

end Bounds

end Roadcast.SlotPool
