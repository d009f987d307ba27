import Roadcast.Catalog.Tables

/-!
# Signal decoding

`roadcast_decode_signal_raw`, `roadcast_decode_signal_physical` and the one-shot decoder
`roadcast_decode_signals` of `catalog.c`. The second pass of the one-shot decoder writes states and
reads raw values only, so each signal is a function of the first pass.
-/

namespace Roadcast

open BigEndian

/-- `read_le32`. -/
def readLe32 (input : List UInt8) : UInt32 :=
  (byteAt input 0).toUInt32 ||| ((byteAt input 1).toUInt32 <<< 8) |||
    ((byteAt input 2).toUInt32 <<< 16) ||| ((byteAt input 3).toUInt32 <<< 24)

/-- `extract_part`. -/
def extractPart (frame : FrameData) (part : SignalPart) : UInt32 :=
  let word := readLe32 (frame.toList.drop part.word.toNat)
  let shift := 32 - part.offset.toUInt32 - part.bits.toUInt32
  let mask : UInt32 := if part.bits ≥ 32 then 0xFFFFFFFF else (1 <<< part.bits.toUInt32) - 1
  (word >>> shift) &&& mask

variable {frameCount signalCount : ℕ}

/-- `roadcast_decode_signal_raw`: the parts concatenated, most significant first. -/
def decodeSignalRaw (definition : SignalDefinition frameCount signalCount) (frame : FrameData) :
    UInt64 :=
  definition.parts.foldl
    (fun value part => (value <<< part.bits.toUInt64) ||| (extractPart frame part).toUInt64) 0

/-- The bit pattern of `1.0`. -/
def doubleOne : UInt64 := 0x3FF0000000000000

/-- `roadcast_decode_signal_physical`. -/
def decodeSignalPhysical (float : Binary64) (definition : SignalDefinition frameCount signalCount)
    (raw : UInt64) : UInt64 :=
  let sign : UInt64 := 1 <<< (definition.width - 1).toUInt64
  let numeric :=
    if definition.isSigned ≠ 0 ∧ definition.width > 0 ∧ raw &&& sign ≠ 0 then
      if definition.width = 64 then
        float.neg (float.add (float.ofU64 (0xFFFFFFFFFFFFFFFF - raw)) doubleOne)
      else float.neg (float.ofU64 ((1 <<< definition.width.toUInt64) - raw))
    else float.ofU64 raw
  float.add (float.mul numeric definition.scale) definition.offset

/-- The first pass of `roadcast_decode_signals`. -/
def decodeSignalsPass (cat : Catalog) (frames : Fin cat.frameCount → Frame)
    (i : Fin cat.signalCount) : SignalValue :=
  let definition := cat.signals i
  let frame := frames definition.frameIndex
  let raw := decodeSignalRaw definition frame.data
  { raw := raw
    physical := decodeSignalPhysical cat.float definition raw
    state := frame.state
    calibrated := definition.calibrated
    firstObservedNs := frame.firstObservedNs
    lastChangeNs := frame.lastChangeNs }

/-- `roadcast_decode_signals`. -/
def decodeSignals (cat : Catalog) (frames : Fin cat.frameCount → Frame)
    (i : Fin cat.signalCount) : SignalValue :=
  let values := decodeSignalsPass cat frames
  match (cat.signals i).invalidSignalIndex with
  | none => values i
  | some j =>
    if (values i).state = .valid ∧ (values j).raw ≠ 0 then { values i with state := .invalid }
    else values i

/-- The second pass touches the state only. -/
theorem decodeSignals_eq_pass (cat : Catalog) (frames : Fin cat.frameCount → Frame)
    (i : Fin cat.signalCount) :
    ∃ state, decodeSignals cat frames i = { decodeSignalsPass cat frames i with state := state } := by
  unfold decodeSignals
  split
  · exact ⟨_, rfl⟩
  · dsimp only
    split
    · exact ⟨_, rfl⟩
    · exact ⟨_, rfl⟩

/-- The raw value of a decoded signal is read from the bytes of its frame. -/
@[simp] theorem decodeSignals_raw (cat : Catalog) (frames : Fin cat.frameCount → Frame)
    (i : Fin cat.signalCount) :
    (decodeSignals cat frames i).raw =
      decodeSignalRaw (cat.signals i) (frames (cat.signals i).frameIndex).data := by
  obtain ⟨state, hpass⟩ := decodeSignals_eq_pass cat frames i
  rw [hpass]
  rfl

/-- Physical values are a function of the definition and the raw value. -/
@[simp] theorem decodeSignals_physical (cat : Catalog) (frames : Fin cat.frameCount → Frame)
    (i : Fin cat.signalCount) :
    (decodeSignals cat frames i).physical =
      decodeSignalPhysical cat.float (cat.signals i) (decodeSignals cat frames i).raw := by
  obtain ⟨state, hpass⟩ := decodeSignals_eq_pass cat frames i
  rw [hpass]
  rfl

/-- The calibration flag is the definition's. -/
@[simp] theorem decodeSignals_calibrated (cat : Catalog) (frames : Fin cat.frameCount → Frame)
    (i : Fin cat.signalCount) :
    (decodeSignals cat frames i).calibrated = (cat.signals i).calibrated := by
  obtain ⟨state, hpass⟩ := decodeSignals_eq_pass cat frames i
  rw [hpass]
  rfl

section BitCatalog

/-- The binary64 operations on `0.0` and `1.0`, all that a one-bit signal with unit scale needs. -/
def bitFloat : Binary64 where
  ofU64 n := if n = 0 then 0 else doubleOne
  neg x := x ^^^ 0x8000000000000000
  add x y := if x = 0 then y else x
  mul x y := if x = 0 ∨ y = 0 then 0 else if x = doubleOne then y else x

/-- A one-bit signal, the lowest bit of the first byte of its frame. -/
def bitSignal (canId : UInt16) (frameIndex : Fin frameCount) (index : ℕ) :
    SignalDefinition frameCount signalCount :=
  { stableId := UInt64.ofNat index
    name := (List.range 17).map fun k => if index.testBit k then 49 else 48
    unit := []
    parts := [⟨0, 31, 1⟩]
    invalidSignalIndex := none
    canId := canId
    frameIndex := frameIndex
    width := 1
    isSigned := 0
    calibrated := 1
    scale := doubleOne
    offset := 0 }

/-- A catalog has at least one frame, and no more than there are spellings of CAN IDs. -/
theorem Catalog.frameCount_range (cat : Catalog) : 0 < cat.frameCount ∧ cat.frameCount ≤ 7568 :=
  ⟨cat.frameCount_pos, cat.frameCount_le⟩

/-- A catalog has at least one signal, and its signal count is a 32-bit number. -/
theorem Catalog.signalCount_range (cat : Catalog) :
    0 < cat.signalCount ∧ cat.signalCount < 2 ^ 32 :=
  ⟨cat.signalCount_pos, cat.signalCount_lt⟩

/-- A catalog of one-bit signals, on which runs can be evaluated. -/
def bitCatalog (frameCount signalCount : ℕ) (canIds : Fin frameCount → UInt16)
    (frameOf : Fin signalCount → Fin frameCount)
    (hframes : 0 < frameCount ∧ frameCount ≤ 7568)
    (hsignals : 0 < signalCount ∧ signalCount < 2 ^ 32)
    (hids : ∀ i, (canIds i).toNat ≤ 0x7FF) : Catalog where
  frameCount := frameCount
  signalCount := signalCount
  canIds := canIds
  signals i := bitSignal (canIds (frameOf i)) (frameOf i) i.val
  schemaHash := 0
  float := bitFloat
  frameCount_pos := hframes.1
  frameCount_le := hframes.2
  signalCount_pos := hsignals.1
  signalCount_lt := hsignals.2
  canIds_le := hids
  canId_eq _ := rfl
  invalid_frameIndex _ _ h := by simp [bitSignal] at h
  name_length _ := by simp [bitSignal, schemaNameMax]
  unit_length _ := by simp [bitSignal]
  parts_accepted _ part hpart := by
    have heq : part = ⟨0, 31, 1⟩ := by simpa [bitSignal] using hpart
    rw [heq]
    exact ⟨Or.inl rfl, by decide, by decide, by decide⟩
  parts_width _ := by simp [bitSignal]
  width_range _ := by simp [bitSignal]
  calibrated_le _ := by simp [bitSignal]

/-- One frame with one signal. -/
def singleCatalog : Catalog :=
  bitCatalog 1 1 (fun _ => 0x0A6) (fun _ => 0) (by decide) (by decide) (by decide)

/-- The catalog of one frame has no CAN ID twice. -/
theorem singleCatalog_canIds_injective : Function.Injective singleCatalog.canIds := by
  intro i j _
  have hi : i.val < 1 := i.isLt
  have hj : j.val < 1 := j.isLt
  exact Fin.ext (by omega)

/-- The frame of `singleCatalog`. -/
def singleFrame : Fin singleCatalog.frameCount := ⟨0, by decide⟩

/-- The signal of `singleCatalog`. -/
def singleSignal : Fin singleCatalog.signalCount := ⟨0, by decide⟩

end BitCatalog

end Roadcast
