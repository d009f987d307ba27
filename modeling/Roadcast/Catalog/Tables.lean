import Roadcast.Protocol.Types

/-!
# The compiled catalog

The tables that `generate-catalog.py` emits and the C code is compiled with. Frame and signal
indices are bounded by construction, and the absent invalid flag (`UINT32_MAX` in C) is `none`.

A `Catalog` carries what the generator guarantees about its tables. CAN IDs are texts of three
characters, hexadecimal digits with any blanks behind them, of value at most `0x7FF`; the generator
compares their spellings, so two different spellings of one number are both accepted and distinctness
of the numbers is not among the guarantees. There are 7568 such spellings. The calibration flag comes
from a JSON boolean.

The arithmetic of `double` belongs to the platform and is a parameter.
-/

namespace Roadcast

/-- The binary64 operations of the platform, on bit patterns. -/
structure Binary64 where
  ofU64 : UInt64 → UInt64
  neg : UInt64 → UInt64
  add : UInt64 → UInt64 → UInt64
  mul : UInt64 → UInt64 → UInt64

/-- `roadcast_signal_part_t`. -/
structure SignalPart where
  word : UInt8
  offset : UInt8
  bits : UInt8
  deriving DecidableEq, Repr

/-- `roadcast_signal_definition_t`; names and units are byte strings without their terminator. -/
structure SignalDefinition (frameCount signalCount : ℕ) where
  stableId : UInt64
  name : List UInt8
  unit : List UInt8
  parts : List SignalPart
  invalidSignalIndex : Option (Fin signalCount)
  canId : UInt16
  frameIndex : Fin frameCount
  width : UInt8
  isSigned : UInt8
  calibrated : UInt8
  scale : UInt64
  offset : UInt64
  deriving DecidableEq, Repr

/-- The emitted tables: `ROADCAST_CAN_IDS`, `ROADCAST_SIGNALS` and `ROADCAST_CAN_SCHEMA_HASH`. -/
structure CatalogTables where
  frameCount : ℕ
  signalCount : ℕ
  canIds : Fin frameCount → UInt16
  signals : Fin signalCount → SignalDefinition frameCount signalCount
  schemaHash : UInt64
  float : Binary64

/-- A part as the generator accepts it: inside one of the two 32-bit words. -/
def SignalPart.Accepted (part : SignalPart) : Prop :=
  (part.word = 0 ∨ part.word = 4) ∧ 1 ≤ part.bits.toNat ∧ part.bits.toNat ≤ 32 ∧
    part.offset.toNat + part.bits.toNat ≤ 32

/-- Tables together with what the generator and the C compiler check about them. -/
structure Catalog extends CatalogTables where
  frameCount_pos : 0 < frameCount
  frameCount_le : frameCount ≤ 7568
  signalCount_pos : 0 < signalCount
  signalCount_lt : signalCount < 2 ^ 32
  canIds_le : ∀ i, (canIds i).toNat ≤ 0x7FF
  canId_eq : ∀ i, (signals i).canId = canIds (signals i).frameIndex
  invalid_frameIndex : ∀ i j, (signals i).invalidSignalIndex = some j →
    (signals j).frameIndex = (signals i).frameIndex
  name_length : ∀ i, 1 ≤ (signals i).name.length ∧ (signals i).name.length ≤ schemaNameMax
  unit_length : ∀ i, (signals i).unit.length ≤ schemaUnitMax
  parts_accepted : ∀ i, ∀ part ∈ (signals i).parts, part.Accepted
  parts_width : ∀ i, ((signals i).parts.map fun part => part.bits.toNat).sum =
    (signals i).width.toNat
  width_range : ∀ i, 1 ≤ (signals i).width.toNat ∧ (signals i).width.toNat ≤ 64
  calibrated_le : ∀ i, (signals i).calibrated.toNat ≤ 1

/-- `ROADCAST_SCHEMA_VERSION`. -/
def schemaVersion : UInt32 := 1

/-- The frame count as the protocol carries it. -/
def Catalog.frameCountWord (cat : Catalog) : UInt32 := UInt32.ofNat cat.frameCount

/-- The signal count as the protocol carries it. -/
def Catalog.signalCountWord (cat : Catalog) : UInt32 := UInt32.ofNat cat.signalCount

/-- The frame count survives the cast to its wire type. -/
@[simp] theorem Catalog.frameCountWord_toNat (cat : Catalog) :
    cat.frameCountWord.toNat = cat.frameCount := by
  have h := cat.frameCount_le
  rw [frameCountWord, UInt32.toNat_ofNat']
  omega

/-- The signal count survives the cast to its wire type. -/
@[simp] theorem Catalog.signalCountWord_toNat (cat : Catalog) :
    cat.signalCountWord.toNat = cat.signalCount := by
  have h := cat.signalCount_lt
  rw [signalCountWord, UInt32.toNat_ofNat']
  omega

/-- The index of a signal fits the word that a request carries. -/
theorem Catalog.signalIndex_toNat (cat : Catalog) {i : ℕ} (hi : i < cat.signalCount) :
    (UInt32.ofNat i).toNat = i := by
  have h := cat.signalCount_lt
  rw [UInt32.toNat_ofNat']
  omega

end Roadcast
