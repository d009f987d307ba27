import Mathlib.Data.List.Induction
import Roadcast.Catalog.Decode
import Roadcast.Lib.Binary

/-!
# Signal decoding as bit extraction

A frame has 64 bit slots: slot `s` is bit `31 - s % 32` of the little-endian word at byte
`4 * (s / 32)`. A part of a signal is a run of slots within one word, and the raw value of a signal is
the number whose binary digits are the slots of its parts, one part after the other.
-/

namespace Roadcast

open BigEndian Binary

/-- What the generator accepts of a definition: its parts lie within the words of a frame and make up
its width. -/
structure SignalDefinition.Generated {frameCount signalCount : ℕ}
    (definition : SignalDefinition frameCount signalCount) : Prop where
  parts : ∀ part ∈ definition.parts, part.Accepted
  bits : (definition.parts.map fun part => part.bits.toNat).sum = definition.width.toNat
  width : 1 ≤ definition.width.toNat ∧ definition.width.toNat ≤ 64

/-- The bit of a frame in a slot. -/
def slotBit (frame : FrameData) (slot : ℕ) : Bool :=
  (readLe32 (frame.toList.drop (4 * (slot / 32)))).toNat.testBit (31 - slot % 32)

/-- The slots of a part, most significant first. -/
def SignalPart.slots (part : SignalPart) : List ℕ :=
  (List.range part.bits.toNat).map fun k => part.word.toNat * 8 + part.offset.toNat + k

/-- The slots of the parts of a signal, most significant first. -/
def partSlots (parts : List SignalPart) : List ℕ := parts.flatMap SignalPart.slots

/-- `shift` in `extract_part`. -/
def SignalPart.shift (part : SignalPart) : UInt32 :=
  32 - part.offset.toUInt32 - part.bits.toUInt32

section Parts

variable {part : SignalPart}

/-- The shift is not negative and stays below the width of the word. -/
theorem SignalPart.Accepted.shift_toNat (h : part.Accepted) :
    part.shift.toNat = 32 - (part.offset.toNat + part.bits.toNat) ∧ part.shift.toNat < 32 := by
  obtain ⟨-, hpos, hbits, hend⟩ := h
  have hoffset : part.offset.toUInt32 ≤ 32 := by
    rw [UInt32.le_iff_toNat_le, UInt8.toNat_toUInt32]
    exact Nat.le_trans (Nat.le_add_right _ _) hend
  have hrest : (32 - part.offset.toUInt32).toNat = 32 - part.offset.toNat := by
    rw [UInt32.toNat_sub_of_le _ _ hoffset, UInt8.toNat_toUInt32]
    rfl
  have hshift : part.bits.toUInt32 ≤ 32 - part.offset.toUInt32 := by
    rw [UInt32.le_iff_toNat_le, hrest, UInt8.toNat_toUInt32]
    omega
  have htoNat : part.shift.toNat = 32 - (part.offset.toNat + part.bits.toNat) := by
    rw [shift, UInt32.toNat_sub_of_le _ _ hshift, hrest, UInt8.toNat_toUInt32]
    omega
  exact ⟨htoNat, by omega⟩

/-- `mask` in `extract_part`. -/
def SignalPart.mask (part : SignalPart) : UInt32 :=
  if part.bits ≥ 32 then 0xFFFFFFFF else (1 <<< part.bits.toUInt32) - 1

/-- The mask has the lowest `bits` bits. -/
theorem SignalPart.Accepted.mask_toNat (h : part.Accepted) :
    part.mask.toNat = 2 ^ part.bits.toNat - 1 := by
  obtain ⟨-, hpos, hbits, -⟩ := h
  unfold mask
  by_cases hfull : part.bits ≥ 32
  · have heq : part.bits.toNat = 32 := by
      have hge := UInt8.le_iff_toNat_le.mp hfull
      rw [show (32 : UInt8).toNat = 32 from rfl] at hge
      omega
    rw [if_pos hfull, heq]
    rfl
  · have hlt : part.bits.toNat < 32 := by
      have hlt := UInt8.lt_iff_toNat_lt.mp (UInt8.not_le.mp hfull)
      exact hlt
    have hpow : 2 ^ part.bits.toNat < 2 ^ 32 := Nat.pow_lt_pow_right (by decide) hlt
    have hone : ((1 : UInt32) <<< part.bits.toUInt32).toNat = 2 ^ part.bits.toNat := by
      rw [UInt32.toNat_shiftLeft, UInt8.toNat_toUInt32, Nat.mod_eq_of_lt hlt, Nat.shiftLeft_eq]
      exact (Nat.mod_eq_of_lt (by simpa using hpow)).trans (Nat.one_mul _)
    have hle : 1 ≤ (1 : UInt32) <<< part.bits.toUInt32 := by
      rw [UInt32.le_iff_toNat_le, hone]
      exact Nat.one_le_two_pow
    rw [if_neg hfull, UInt32.toNat_sub_of_le _ _ hle, hone]
    rfl

/-- The offset of the word and every amount of `extract_part` and of the loop are in range. -/
theorem SignalPart.Accepted.shifts (h : part.Accepted) :
    part.word.toNat + 4 ≤ 8 ∧
      part.shift.toNat = 32 - (part.offset.toNat + part.bits.toNat) ∧ part.shift.toNat < 32 ∧
      (part.bits ≥ 32 ∨ part.bits.toUInt32.toNat < 32) ∧ part.bits.toUInt64.toNat < 64 := by
  obtain ⟨hshift, hsmall⟩ := h.shift_toNat
  obtain ⟨hword, -, hbits, -⟩ := h
  refine ⟨?_, hshift, hsmall, ?_, ?_⟩
  · rcases hword with hzero | hfour
    · rw [hzero]
      decide
    · rw [hfour]
      decide
  · rw [UInt8.toNat_toUInt32, ge_iff_le, UInt8.le_iff_toNat_le]
    simp only [UInt8.reduceToNat]
    omega
  · rw [UInt8.toNat_toUInt64]
    omega

/-- `extract_part` is a shift and a mask. -/
theorem extractPart_eq (frame : FrameData) (part : SignalPart) :
    extractPart frame part =
      (readLe32 (frame.toList.drop part.word.toNat) >>> part.shift) &&& part.mask := rfl

/-- The slots of a part lie in its word, from the top of the window down. -/
theorem SignalPart.Accepted.slotBit_slot (h : part.Accepted) (frame : FrameData) {k : ℕ}
    (hk : k < part.bits.toNat) :
    slotBit frame (part.word.toNat * 8 + part.offset.toNat + k) =
      (readLe32 (frame.toList.drop part.word.toNat)).toNat.testBit
        (part.shift.toNat + (part.bits.toNat - 1 - k)) := by
  rw [h.shift_toNat.1]
  obtain ⟨hword, -, -, hend⟩ := h
  have hword : 4 * ((part.word.toNat * 8 + part.offset.toNat + k) / 32) = part.word.toNat ∧
      (part.word.toNat * 8 + part.offset.toNat + k) % 32 = part.offset.toNat + k := by
    rcases hword with hzero | hfour
    · rw [hzero, show (0 : UInt8).toNat = 0 from rfl]
      omega
    · rw [hfour, show (4 : UInt8).toNat = 4 from rfl]
      omega
  rw [slotBit, hword.1, hword.2]
  congr 1
  omega

/-- A part is the number of its slots. -/
theorem SignalPart.Accepted.extractPart_toNat (h : part.Accepted) (frame : FrameData) :
    (extractPart frame part).toNat = value (part.slots.map (slotBit frame)) := by
  have hslots : part.slots.map (slotBit frame) = (List.range part.bits.toNat).map fun k =>
      (readLe32 (frame.toList.drop part.word.toNat)).toNat.testBit
        (part.shift.toNat + (part.bits.toNat - 1 - k)) := by
    rw [slots, List.map_map]
    exact List.map_congr_left fun k hk => h.slotBit_slot frame (List.mem_range.mp hk)
  rw [extractPart_eq, UInt32.toNat_and, UInt32.toNat_shiftRight, h.mask_toNat,
    Nat.and_two_pow_sub_one_eq_mod, Nat.mod_eq_of_lt h.shift_toNat.2, hslots, value_window]

/-- A part has one slot for each of its bits. -/
@[simp] theorem SignalPart.slots_length (part : SignalPart) :
    part.slots.length = part.bits.toNat := by
  rw [slots, List.length_map, List.length_range]

end Parts

section Signals

variable {parts : List SignalPart}

/-- The accumulator of `roadcast_decode_signal_raw` after some parts. -/
def accumulator (parts : List SignalPart) (frame : FrameData) : UInt64 :=
  parts.foldl
    (fun value part => (value <<< part.bits.toUInt64) ||| (extractPart frame part).toUInt64) 0

/-- The width that some parts make up. -/
def partsWidth (parts : List SignalPart) : ℕ := (parts.map fun part => part.bits.toNat).sum

/-- Parts have as many slots as their width. -/
@[simp] theorem partSlots_length (parts : List SignalPart) :
    (partSlots parts).length = partsWidth parts := by
  simp [partSlots, partsWidth, List.length_flatMap]

/-- The slots of parts one after the other. -/
theorem partSlots_append (parts rest : List SignalPart) :
    partSlots (parts ++ rest) = partSlots parts ++ partSlots rest := List.flatMap_append

/-- The widths of parts add up. -/
theorem partsWidth_append (parts rest : List SignalPart) :
    partsWidth (parts ++ rest) = partsWidth parts + partsWidth rest := by
  rw [partsWidth, List.map_append, List.sum_append]
  rfl

/-- The width of one part is the number of its bits. -/
theorem partsWidth_singleton (part : SignalPart) : partsWidth [part] = part.bits.toNat := by
  simp [partsWidth]

/-- A shift by the bits of the next part loses no bit as long as the width stays within 64 bits. -/
theorem shift_accumulator {part : SignalPart} (hpart : part.Accepted) {number : UInt64} {width : ℕ}
    (hnumber : number.toNat < 2 ^ width) (hwidth : width + part.bits.toNat ≤ 64) :
    (number <<< part.bits.toUInt64).toNat = number.toNat * 2 ^ part.bits.toNat ∧
      number.toNat * 2 ^ part.bits.toNat < 2 ^ 64 := by
  have hbits : part.bits.toNat < 64 := by
    have hle := hpart.2.2.1
    omega
  have hlt : number.toNat * 2 ^ part.bits.toNat < 2 ^ 64 := by
    calc number.toNat * 2 ^ part.bits.toNat < 2 ^ width * 2 ^ part.bits.toNat :=
          Nat.mul_lt_mul_of_pos_right hnumber (Nat.two_pow_pos _)
      _ = 2 ^ (width + part.bits.toNat) := (Nat.pow_add 2 _ _).symm
      _ ≤ 2 ^ 64 := Nat.pow_le_pow_right (by decide) hwidth
  refine ⟨?_, hlt⟩
  rw [UInt64.toNat_shiftLeft, UInt8.toNat_toUInt64, Nat.mod_eq_of_lt hbits, Nat.shiftLeft_eq]
  exact Nat.mod_eq_of_lt hlt

/-- The accumulator is the number of the slots so far. -/
theorem accumulator_toNat (haccepted : ∀ part ∈ parts, part.Accepted)
    (hwidth : partsWidth parts ≤ 64) (frame : FrameData) :
    (accumulator parts frame).toNat = value ((partSlots parts).map (slotBit frame)) := by
  -- the loop appends one part at a time, so the induction is from the right
  induction parts using List.reverseRecOn with
  | nil => rfl
  | append_singleton parts part ih =>
    have hpart : part.Accepted := haccepted part (by simp)
    rw [partsWidth_append, partsWidth_singleton] at hwidth
    have hfront := ih (fun part hmem => haccepted part (List.mem_append_left _ hmem)) (by omega)
    have hlt : (accumulator parts frame).toNat < 2 ^ partsWidth parts := by
      rw [hfront]
      exact Nat.lt_of_lt_of_eq (value_lt _) (by rw [List.length_map, partSlots_length])
    have hextract : (extractPart frame part).toNat < 2 ^ part.bits.toNat := by
      rw [hpart.extractPart_toNat]
      exact Nat.lt_of_lt_of_eq (value_lt _) (by rw [List.length_map, SignalPart.slots_length])
    have hstep : accumulator (parts ++ [part]) frame =
        (accumulator parts frame <<< part.bits.toUInt64) |||
          (extractPart frame part).toUInt64 := by
      rw [accumulator, List.foldl_append]
      rfl
    have hslots : partSlots [part] = part.slots := List.flatMap_singleton _ _
    rw [hstep, UInt64.toNat_or, (shift_accumulator hpart hlt hwidth).1, UInt32.toNat_toUInt64,
      ← Nat.shiftLeft_eq, shiftLeft_or_of_lt _ _ _ hextract, hfront, hpart.extractPart_toNat,
      partSlots_append, hslots, List.map_append, value_append, List.length_map,
      SignalPart.slots_length]

end Signals

section Physical

variable {frameCount signalCount : ℕ} {definition : SignalDefinition frameCount signalCount}

/-- The number that `roadcast_decode_signal_physical` scales, in any arithmetic. -/
def scaledNumber {N : Type*} (ofU64 : UInt64 → N) (neg : N → N) (add : N → N → N) (one : N)
    (definition : SignalDefinition frameCount signalCount) (raw : UInt64) : N :=
  let sign : UInt64 := 1 <<< (definition.width - 1).toUInt64
  if definition.isSigned ≠ 0 ∧ definition.width > 0 ∧ raw &&& sign ≠ 0 then
    if definition.width = 64 then neg (add (ofU64 (0xFFFFFFFFFFFFFFFF - raw)) one)
    else neg (ofU64 ((1 <<< definition.width.toUInt64) - raw))
  else ofU64 raw

/-- The code scales it in the arithmetic of `double`. -/
theorem decodeSignalPhysical_eq (float : Binary64)
    (definition : SignalDefinition frameCount signalCount) (raw : UInt64) :
    decodeSignalPhysical float definition raw =
      float.add (float.mul (scaledNumber float.ofU64 float.neg float.add doubleOne definition raw)
        definition.scale) definition.offset := rfl

/-- The same number in the arithmetic of the integers. -/
def scaledInteger (definition : SignalDefinition frameCount signalCount) (raw : UInt64) : ℤ :=
  scaledNumber (fun number => (number.toNat : ℤ)) (fun a => -a) (fun a b => a + b) 1 definition raw

/-- A shifted one is a power of two, as long as it stays in the word. -/
theorem one_shiftLeft_toNat {amount : UInt64} (h : amount.toNat < 64) :
    ((1 : UInt64) <<< amount).toNat = 2 ^ amount.toNat := by
  have hpow : 2 ^ amount.toNat < 2 ^ 64 := Nat.pow_lt_pow_right (by decide) h
  rw [UInt64.toNat_shiftLeft, Nat.mod_eq_of_lt h, Nat.shiftLeft_eq, UInt64.toNat_one, Nat.one_mul,
    Nat.mod_eq_of_lt hpow]

/-- The shift that makes the sign bit. -/
theorem SignalDefinition.Generated.signShift_toNat (h : definition.Generated) :
    (definition.width - 1).toUInt64.toNat = definition.width.toNat - 1 ∧
      (definition.width - 1).toUInt64.toNat < 64 := by
  obtain ⟨hpos, hle⟩ := h.width
  have hwidth : (definition.width - 1).toUInt64.toNat = definition.width.toNat - 1 := by
    rw [UInt8.toNat_toUInt64]
    exact UInt8.toNat_sub_of_le _ _ (UInt8.le_iff_toNat_le.mpr hpos)
  exact ⟨hwidth, by omega⟩

/-- The shift that makes the modulus. -/
theorem SignalDefinition.Generated.modulusShift_lt (h : definition.Generated)
    (hfull : definition.width ≠ 64) : definition.width.toUInt64.toNat < 64 := by
  rw [UInt8.toNat_toUInt64]
  exact Nat.lt_of_le_of_ne h.width.2 fun heq => hfull (UInt8.toNat_inj.mp heq)

/-- The sign mask of `decode_signal` is the top bit of the width. -/
theorem SignalDefinition.Generated.sign_toNat (h : definition.Generated) :
    ((1 : UInt64) <<< (definition.width - 1).toUInt64).toNat =
      2 ^ (definition.width.toNat - 1) := by
  rw [one_shiftLeft_toNat h.signShift_toNat.2, h.signShift_toNat.1]

/-- The range of a signal is twice the value of its sign bit. -/
theorem SignalDefinition.Generated.two_pow_width (h : definition.Generated) :
    2 ^ definition.width.toNat = 2 * 2 ^ (definition.width.toNat - 1) := by
  rw [← Nat.pow_succ', Nat.succ_eq_add_one, Nat.sub_add_cancel h.width.1]

/-- The sign bit of a raw value below `2 ^ width` is set from half the range on. -/
theorem SignalDefinition.Generated.sign_iff (h : definition.Generated) {raw : UInt64}
    (hraw : raw.toNat < 2 ^ definition.width.toNat) :
    raw &&& (1 <<< (definition.width - 1).toUInt64) ≠ 0 ↔
      2 ^ (definition.width.toNat - 1) ≤ raw.toNat := by
  have hhalf := h.two_pow_width
  have hquotient : raw.toNat / 2 ^ (definition.width.toNat - 1) < 2 :=
    Nat.div_lt_of_lt_mul (by omega)
  rw [ne_eq, ← UInt64.toNat_inj, UInt64.toNat_and, h.sign_toNat, Nat.and_two_pow,
    UInt64.toNat_zero, Nat.mul_eq_zero, not_or, Nat.toNat_testBit, Nat.mod_eq_of_lt hquotient,
    Nat.div_eq_zero_iff]
  have hpow := Nat.two_pow_pos (definition.width.toNat - 1)
  omega

/-- Both branches for a set sign bit subtract the modulus. -/
theorem SignalDefinition.Generated.negative_eq (h : definition.Generated) {raw : UInt64}
    (hraw : raw.toNat < 2 ^ definition.width.toNat) :
    (if definition.width = 64 then -(((0xFFFFFFFFFFFFFFFF - raw).toNat : ℤ) + 1)
      else -(((1 <<< definition.width.toUInt64) - raw).toNat : ℤ)) =
      (raw.toNat : ℤ) - (2 ^ definition.width.toNat : ℕ) := by
  split
  · rename_i hfull
    rw [hfull] at hraw ⊢
    have hmax : raw ≤ 0xFFFFFFFFFFFFFFFF := UInt64.le_iff_toNat_le.mpr (Nat.le_of_lt_succ hraw)
    rw [UInt64.toNat_sub_of_le _ _ hmax]
    simp only [UInt64.reduceToNat, UInt8.reduceToNat] at hraw ⊢
    omega
  · rename_i hfull
    have hmodulus : ((1 : UInt64) <<< definition.width.toUInt64).toNat =
        2 ^ definition.width.toNat := by
      rw [one_shiftLeft_toNat (h.modulusShift_lt hfull), UInt8.toNat_toUInt64]
    have hle : raw ≤ 1 <<< definition.width.toUInt64 := by
      rw [UInt64.le_iff_toNat_le, hmodulus]
      exact hraw.le
    rw [UInt64.toNat_sub_of_le _ _ hle, hmodulus]
    omega

/-- The integer that is scaled is the value of a raw in two's complement, or the raw itself. -/
theorem SignalDefinition.Generated.scaledInteger_eq (h : definition.Generated) {raw : UInt64}
    (hraw : raw.toNat < 2 ^ definition.width.toNat) :
    scaledInteger definition raw = if definition.isSigned ≠ 0 then
      (BitVec.ofNat definition.width.toNat raw.toNat).toInt else raw.toNat := by
  have hwidth : definition.width > 0 := UInt8.lt_iff_toNat_lt.mpr h.width.1
  have hhalf := h.two_pow_width
  have hsign := h.sign_iff hraw
  have hnegative := h.negative_eq hraw
  unfold scaledInteger scaledNumber
  rw [BitVec.toInt_eq_toNat_cond, BitVec.toNat_ofNat, Nat.mod_eq_of_lt hraw]
  dsimp only
  rw [hnegative]
  by_cases hsigned : definition.isSigned ≠ 0
  · rw [if_pos hsigned]
    by_cases hset : raw &&& (1 <<< (definition.width - 1).toUInt64) ≠ 0
    · have hlarge := hsign.mp hset
      have hcond : ¬2 * raw.toNat < 2 ^ definition.width.toNat := by omega
      rw [if_pos ⟨hsigned, hwidth, hset⟩, if_neg hcond]
    · have hsmall := mt hsign.mpr hset
      have hcond : 2 * raw.toNat < 2 ^ definition.width.toNat := by omega
      rw [if_neg fun hall => hset hall.2.2, if_pos hcond]
  · rw [if_neg fun hall => hsigned hall.1, if_neg hsigned]

end Physical

section Extraction

variable {frameCount signalCount : ℕ} {definition : SignalDefinition frameCount signalCount}

/-- The raw value is the number whose digits are the slots of the signal. -/
theorem SignalDefinition.Generated.raw_toNat (h : definition.Generated) (frame : FrameData) :
    (decodeSignalRaw definition frame).toNat =
      value ((partSlots definition.parts).map (slotBit frame)) := by
  have hwidth : partsWidth definition.parts ≤ 64 := Nat.le_trans (Nat.le_of_eq h.bits) h.width.2
  exact accumulator_toNat h.parts hwidth frame

/-- A signal has as many slots as it is wide. -/
theorem SignalDefinition.Generated.slots_length (h : definition.Generated) :
    (partSlots definition.parts).length = definition.width.toNat := by
  rw [partSlots_length]
  exact h.bits

/-- The raw value fits the width of the signal. -/
theorem SignalDefinition.Generated.raw_lt (h : definition.Generated) (frame : FrameData) :
    (decodeSignalRaw definition frame).toNat < 2 ^ definition.width.toNat := by
  rw [h.raw_toNat, ← h.slots_length, ← List.length_map (slotBit frame)]
  exact value_lt _

/-- Two frames have the same raw value if and only if they agree on the slots of the signal. -/
theorem SignalDefinition.Generated.raw_eq_iff (h : definition.Generated) (frame frame' : FrameData) :
    decodeSignalRaw definition frame = decodeSignalRaw definition frame' ↔
      ∀ slot ∈ partSlots definition.parts, slotBit frame slot = slotBit frame' slot := by
  rw [← UInt64.toNat_inj, h.raw_toNat, h.raw_toNat, ← List.map_inj_left]
  exact ⟨value_inj (by rw [List.length_map, List.length_map]), congrArg value⟩

/-- In every round of the loop the shift keeps all bits of the accumulator. -/
theorem SignalDefinition.Generated.shift_exact (h : definition.Generated) (frame : FrameData)
    {front rest : List SignalPart} {part : SignalPart}
    (hparts : definition.parts = front ++ part :: rest) :
    (accumulator front frame <<< part.bits.toUInt64).toNat =
      (accumulator front frame).toNat * 2 ^ part.bits.toNat := by
  have hmem (earlier : SignalPart) (hearlier : earlier ∈ front) : earlier.Accepted :=
    h.parts earlier (by rw [hparts]; exact List.mem_append_left _ hearlier)
  have hpart : part.Accepted := h.parts part (by rw [hparts]; simp)
  have hwidth : partsWidth front + part.bits.toNat ≤ 64 := by
    have hsum : partsWidth definition.parts = definition.width.toNat := h.bits
    have hle := h.width.2
    rw [hparts, partsWidth_append, ← List.singleton_append, partsWidth_append,
      partsWidth_singleton] at hsum
    omega
  have hfront := accumulator_toNat hmem (by omega) frame
  have hlt : (accumulator front frame).toNat < 2 ^ partsWidth front := by
    rw [hfront]
    exact Nat.lt_of_lt_of_eq (value_lt _) (by rw [List.length_map, partSlots_length])
  exact (shift_accumulator hpart hlt hwidth).1

end Extraction

/-- Every definition that the generator accepts and every frame: the raw value is the number of the
slots of the definition, within its width; no shift is out of range and none loses a bit; the raw
value determines the slots; and the integer that is scaled is its value in two's complement or, for an
unsigned definition, the raw value itself. -/
theorem decodeSignalRaw_exact {frameCount signalCount : ℕ}
    (definition : SignalDefinition frameCount signalCount) (hgenerated : definition.Generated)
    (frame : FrameData) :
    let raw := decodeSignalRaw definition frame
    raw.toNat = value ((partSlots definition.parts).map (slotBit frame)) ∧
    raw.toNat < 2 ^ definition.width.toNat ∧
    (∀ front part rest, definition.parts = front ++ part :: rest →
      (accumulator front frame <<< part.bits.toUInt64).toNat =
        (accumulator front frame).toNat * 2 ^ part.bits.toNat) ∧
    (∀ part ∈ definition.parts, part.word.toNat + 4 ≤ 8 ∧
      part.shift.toNat = 32 - (part.offset.toNat + part.bits.toNat) ∧ part.shift.toNat < 32 ∧
      (part.bits ≥ 32 ∨ part.bits.toUInt32.toNat < 32) ∧ part.bits.toUInt64.toNat < 64) ∧
    (definition.width - 1).toUInt64.toNat < 64 ∧
    (definition.width ≠ 64 → definition.width.toUInt64.toNat < 64) ∧
    (∀ frame', raw = decodeSignalRaw definition frame' ↔
      ∀ slot ∈ partSlots definition.parts, slotBit frame slot = slotBit frame' slot) ∧
    scaledInteger definition raw = if definition.isSigned ≠ 0 then
      (BitVec.ofNat definition.width.toNat raw.toNat).toInt else raw.toNat := by
  intro raw
  have hraw := hgenerated.raw_lt frame
  exact ⟨hgenerated.raw_toNat frame, hraw,
    fun front part rest hparts => hgenerated.shift_exact frame hparts,
    fun part hmem => (hgenerated.parts part hmem).shifts, hgenerated.signShift_toNat.2,
    hgenerated.modulusShift_lt, hgenerated.raw_eq_iff frame, hgenerated.scaledInteger_eq hraw⟩

/-- A signed signal of 64 bits, the second word of its frame before the first. -/
def wideSignal : SignalDefinition 1 1 :=
  { bitSignal 0x0A6 ⟨0, Nat.one_pos⟩ 0 with
    parts := [⟨4, 0, 32⟩, ⟨0, 0, 32⟩]
    width := 64
    isSigned := 1 }

/-- The wide signal is one that the generator accepts. -/
theorem wideSignal_generated : wideSignal.Generated := by
  refine ⟨fun part hpart => ?_, by decide, by decide⟩
  rcases List.mem_cons.mp hpart with rfl | hrest
  · exact ⟨Or.inr rfl, by decide, by decide, by decide⟩
  · rw [List.mem_singleton.mp hrest]
    exact ⟨Or.inl rfl, by decide, by decide, by decide⟩

/-- All bits but the last of a signed signal of 64 bits are set: it is -2. -/
theorem decodeSignalRaw_exact_wide :
    wideSignal.Generated ∧
      scaledInteger wideSignal
        (decodeSignalRaw wideSignal #v[0xFE, 0xFF, 0xFF, 0xFF, 0xFF, 0xFF, 0xFF, 0xFF]) = -2 := by
  refine ⟨wideSignal_generated, ?_⟩
  rw [(decodeSignalRaw_exact wideSignal wideSignal_generated _).2.2.2.2.2.2.2]
  decide +kernel

end Roadcast
