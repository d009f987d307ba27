import Roadcast.Catalog.Slots
import Mathlib.Data.Nat.Init

/-!
# The bits of a frame

A frame has eight bytes of eight bits. The decoder sees them as 64 slots; each bit is in one slot and
each slot below 64 is one bit, so a frame can be given any contents slot by slot.
-/

namespace Roadcast

open BigEndian

/-- A bit of a byte of a frame, the least significant one first. -/
def frameBit (frame : FrameData) (bit : Fin 8 × Fin 8) : Bool :=
  frame[bit.1.val].toNat.testBit bit.2

/-- The slot of a bit. -/
def bitSlot (bit : Fin 8 × Fin 8) : ℕ :=
  32 * (bit.1 / 4) + (31 - (8 * (bit.1 % 4) + bit.2))

/-- The bit in a slot. -/
def slotPlace (slot : ℕ) : Fin 8 × Fin 8 :=
  (Fin.ofNat 8 (4 * (slot / 32) + (31 - slot % 32) / 8), Fin.ofNat 8 ((31 - slot % 32) % 8))

/-- The place of the slot of a bit is that bit. -/
theorem slotPlace_bitSlot (bit : Fin 8 × Fin 8) : slotPlace (bitSlot bit) = bit := by
  obtain ⟨byte, position⟩ := bit
  revert byte position
  decide

/-- Every slot of a frame is the slot of its place. -/
theorem bitSlot_slotPlace {slot : ℕ} (h : slot < 64) : bitSlot (slotPlace slot) = slot := by
  revert slot
  decide

/-- A byte that is moved to place `k` of a word has its bits there and no others. -/
theorem shiftedByte_testBit (byte : UInt8) {shift : UInt32} {k j : ℕ} (hk : k < 4)
    (hshift : shift.toNat = 8 * k) (hj : j < 32) :
    (byte.toUInt32 <<< shift).toNat.testBit j = (decide (j / 8 = k) && byte.toNat.testBit (j % 8)) := by
  have hbyte (i : ℕ) (hi : 8 ≤ i) : byte.toNat.testBit i = false :=
    Nat.testBit_lt_two_pow (byte.toNat_lt.trans_le (Nat.pow_le_pow_right (by decide) hi))
  rw [UInt32.toNat_shiftLeft, UInt8.toNat_toUInt32, hshift,
    Nat.mod_eq_of_lt (show 8 * k < 32 by omega), Nat.testBit_mod_two_pow,
    Nat.testBit_shiftLeft, decide_eq_true hj, Bool.true_and]
  by_cases hplace : j / 8 = k
  · rw [decide_eq_true hplace, decide_eq_true (show j ≥ 8 * k by omega),
      show j - 8 * k = j % 8 by omega]
  · rw [decide_eq_false hplace, Bool.false_and]
    by_cases hle : j ≥ 8 * k
    · rw [hbyte (j - 8 * k) (by omega), Bool.and_false]
    · rw [decide_eq_false hle, Bool.false_and]

/-- The bits of a little-endian word are those of its bytes. -/
theorem readLe32_testBit (input : List UInt8) {j : ℕ} (hj : j < 32) :
    (readLe32 input).toNat.testBit j = (byteAt input (j / 8)).toNat.testBit (j % 8) := by
  have hzero : (byteAt input 0).toUInt32 = (byteAt input 0).toUInt32 <<< 0 := by
    rw [UInt32.shiftLeft_zero]
  have hplace : j / 8 = 0 ∨ j / 8 = 1 ∨ j / 8 = 2 ∨ j / 8 = 3 := by omega
  rw [readLe32, hzero, UInt32.toNat_or, UInt32.toNat_or, UInt32.toNat_or, Nat.testBit_or,
    Nat.testBit_or, Nat.testBit_or, shiftedByte_testBit _ (k := 0) (by decide) (by decide) hj,
    shiftedByte_testBit _ (k := 1) (by decide) (by decide) hj,
    shiftedByte_testBit _ (k := 2) (by decide) (by decide) hj,
    shiftedByte_testBit _ (k := 3) (by decide) (by decide) hj]
  rcases hplace with h | h | h | h <;> simp [h]

/-- The decoder reads the bit of a slot. -/
theorem slotBit_bitSlot (frame : FrameData) (bit : Fin 8 × Fin 8) :
    slotBit frame (bitSlot bit) = frameBit frame bit := by
  obtain ⟨byte, position⟩ := bit
  have hslot : bitSlot (byte, position) / 32 = byte / 4 ∧
      31 - bitSlot (byte, position) % 32 = 8 * (byte % 4) + position := by
    revert byte position
    decide
  rw [slotBit, hslot.1, hslot.2, readLe32_testBit _ (by omega), byteAt, List.getD_eq_getElem?_getD,
    List.getElem?_drop, show 4 * (byte.val / 4) + (8 * (byte.val % 4) + position) / 8 = byte by omega,
    show (8 * (byte.val % 4) + position) % 8 = position by omega, frameBit]
  simp

/-- The frame with the given contents of its slots. -/
def frameOfSlots (contents : ℕ → Bool) : FrameData :=
  Vector.ofFn fun byte => UInt8.ofNat (Nat.ofBits fun position : Fin 8 =>
    contents (bitSlot (byte, position)))

/-- A frame that is built from slots has, at each bit, the content of the slot of that bit. -/
theorem frameBit_frameOfSlots (contents : ℕ → Bool) (bit : Fin 8 × Fin 8) :
    frameBit (frameOfSlots contents) bit = contents (bitSlot bit) := by
  have hlt := Nat.ofBits_lt_two_pow fun position : Fin 8 => contents (bitSlot (bit.1, position))
  rw [frameBit, frameOfSlots, Vector.getElem_ofFn, UInt8.toNat_ofNat',
    Nat.mod_eq_of_lt hlt, Nat.testBit_ofBits_lt _ _ bit.2.isLt]

/-- A frame that is built from slots has their contents. -/
theorem slotBit_frameOfSlots (contents : ℕ → Bool) {slot : ℕ} (h : slot < 64) :
    slotBit (frameOfSlots contents) slot = contents slot := by
  rw [← bitSlot_slotPlace h, slotBit_bitSlot, frameBit_frameOfSlots]

end Roadcast
