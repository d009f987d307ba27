import Roadcast.Protocol.Batch

/-!
# Decoded-signal batches

`roadcast_encode_signal_batch` and `roadcast_decode_signal_batch`: 40 bytes for each signal, keyed
by the catalog index. The calibration byte is normalised to zero or one on the wire.
-/

namespace Roadcast

open BigEndian

/-- One signal record of a batch. -/
def encodeSignal (update : SignalUpdate) : List UInt8 :=
  putU32 update.index ++ ([update.value.state.code, if update.value.calibrated ≠ 0 then 1 else 0] ++
    (putU16 0 ++ (putU64 update.value.raw ++ (putU64 update.value.physical ++
      (putU64 update.value.firstObservedNs ++ putU64 update.value.lastChangeNs)))))

/-- A signal on the wire has a fixed size. -/
@[simp] theorem encodeSignal_length (update : SignalUpdate) :
    (encodeSignal update).length = signalWireSize := rfl

/-- One signal record; unknown states, a calibration byte above one and set reserved bytes are
refused. -/
def decodeSignal (record : List UInt8) : Option SignalUpdate := do
  let state ← ObservationState.ofCode (byteAt record 4)
  if byteAt record 5 > 1 ∨ getU16 (record.drop 6) ≠ 0 then none
  else some {
    index := getU32 record
    value := {
      raw := getU64 (record.drop 8)
      physical := getU64 (record.drop 16)
      firstObservedNs := getU64 (record.drop 24)
      lastChangeNs := getU64 (record.drop 32)
      state := state
      calibrated := byteAt record 5 } }

/-- `roadcast_encode_signal_batch` on the selected indices and their values. -/
def encodeSignalBatch (capacity : ℕ) (sampleSequence : UInt64) (totalCount startIndex : UInt32)
    (updates : List SignalUpdate) : Option (List UInt8) :=
  encodeBatch signalWireSize encodeSignal capacity sampleSequence totalCount startIndex updates

/-- `roadcast_decode_signal_batch`. -/
def decodeSignalBatch (payload : List UInt8) (updateCapacity : ℕ) : Option (Batch SignalUpdate) :=
  decodeBatch signalWireSize decodeSignal payload updateCapacity

/-- The record a receiver sees: the calibration flag is zero or one. -/
def SignalUpdate.normalize (update : SignalUpdate) : SignalUpdate :=
  { update with value := { update.value with
    calibrated := if update.value.calibrated ≠ 0 then 1 else 0 } }

/-- A flag that is already zero or one is not changed on the wire. -/
theorem SignalUpdate.normalize_eq (update : SignalUpdate) (h : update.value.calibrated.toNat ≤ 1) :
    update.normalize = update := by
  obtain ⟨index, raw, physical, first, last, state, calibrated⟩ := update
  have hc : calibrated = 0 ∨ calibrated = 1 := by
    rcases Nat.le_one_iff_eq_zero_or_eq_one.mp h with h0 | h1
    · exact Or.inl (UInt8.toNat_inj.mp h0)
    · exact Or.inr (UInt8.toNat_inj.mp h1)
  rcases hc with rfl | rfl <;> rfl

/-- `roadcast_signal_value_t` with any state byte. -/
structure WireValue where
  raw : UInt64
  physical : UInt64
  firstObservedNs : UInt64
  lastChangeNs : UInt64
  state : UInt8
  calibrated : UInt8
  deriving DecidableEq, Repr

/-- `roadcast_signal_update_t` with any state byte. -/
structure WireSignal where
  index : UInt32
  value : WireValue
  deriving DecidableEq, Repr

/-- The record of a signal with any state byte. -/
def encodeWireSignal (signal : WireSignal) : List UInt8 :=
  putU32 signal.index ++ ([signal.value.state, if signal.value.calibrated ≠ 0 then 1 else 0] ++
    (putU16 0 ++ (putU64 signal.value.raw ++ (putU64 signal.value.physical ++
      (putU64 signal.value.firstObservedNs ++ putU64 signal.value.lastChangeNs)))))

/-- What the loop of `roadcast_decode_signal_batch` makes of one record. -/
def decodeWireSignal (record : List UInt8) : Option WireSignal :=
  if byteAt record 4 > ObservationState.invalid.code ∨ byteAt record 5 > 1 ∨
      getU16 (record.drop 6) ≠ 0 then none
  else some {
    index := getU32 record
    value := {
      raw := getU64 (record.drop 8)
      physical := getU64 (record.drop 16)
      firstObservedNs := getU64 (record.drop 24)
      lastChangeNs := getU64 (record.drop 32)
      state := byteAt record 4
      calibrated := byteAt record 5 } }

/-- So has a signal with any state and flag bytes. -/
@[simp] theorem encodeWireSignal_length (signal : WireSignal) :
    (encodeWireSignal signal).length = signalWireSize := rfl

/-- The value a receiver sees: the calibration flag is zero or one. -/
def WireValue.normalize (value : WireValue) : WireValue :=
  { value with calibrated := if value.calibrated ≠ 0 then 1 else 0 }

/-- The record a receiver sees. -/
def WireSignal.normalize (signal : WireSignal) : WireSignal :=
  { signal with value := signal.value.normalize }

/-- A record is read back with its calibration flag normalised, or refused for its state. -/
theorem decodeWireSignal_encodeWireSignal (signal : WireSignal) (rest : List UInt8) :
    decodeWireSignal (encodeWireSignal signal ++ rest) =
      if signal.value.state ≤ ObservationState.invalid.code then some signal.normalize else none := by
  have h0 : getU32 (encodeWireSignal signal ++ rest) = signal.index := by
    rw [encodeWireSignal, List.append_assoc, getU32_putU32]
  have h4 : byteAt (encodeWireSignal signal ++ rest) 4 = signal.value.state := rfl
  have h5 : byteAt (encodeWireSignal signal ++ rest) 5 =
      if signal.value.calibrated ≠ 0 then 1 else 0 := rfl
  have h6 : getU16 ((encodeWireSignal signal ++ rest).drop 6) = 0 := getU16_putU16 0 _
  have h8 : getU64 ((encodeWireSignal signal ++ rest).drop 8) = signal.value.raw :=
    getU64_putU64 signal.value.raw _
  have h16 : getU64 ((encodeWireSignal signal ++ rest).drop 16) = signal.value.physical :=
    getU64_putU64 signal.value.physical _
  have h24 : getU64 ((encodeWireSignal signal ++ rest).drop 24) = signal.value.firstObservedNs :=
    getU64_putU64 signal.value.firstObservedNs _
  have h32 : getU64 ((encodeWireSignal signal ++ rest).drop 32) = signal.value.lastChangeNs :=
    getU64_putU64 signal.value.lastChangeNs _
  have hflag : ¬ (if signal.value.calibrated ≠ 0 then (1 : UInt8) else 0) > 1 := by
    split <;> decide
  simp only [decodeWireSignal, h0, h4, h5, h6, h8, h16, h24, h32]
  by_cases hstate : signal.value.state ≤ ObservationState.invalid.code
  · rw [if_pos hstate, if_neg]
    · rfl
    · rintro (hbad | hbad | hbad)
      · exact UInt8.not_lt.mpr hstate hbad
      · exact hflag hbad
      · exact hbad rfl
  · rw [if_neg hstate, if_pos (Or.inl (UInt8.not_le.mp hstate))]

/-- An accepted record is written back byte for byte. -/
theorem encodeWireSignal_of_decodeWireSignal {record : List UInt8} {signal : WireSignal}
    (hlength : signalWireSize ≤ record.length) (h : decodeWireSignal record = some signal) :
    encodeWireSignal signal = record.take signalWireSize := by
  unfold decodeWireSignal at h
  split at h
  · contradiction
  rename_i hguard
  simp only [not_or, not_not] at hguard
  cases h
  simp only [signalWireSize] at hlength ⊢
  have hdrop : ∀ n, (record.drop n).length = record.length - n := fun n => List.length_drop
  have hcalibrated : (if byteAt record 5 ≠ 0 then (1 : UInt8) else 0) = byteAt record 5 := by
    have hle := UInt8.le_iff_toNat_le.mp (UInt8.not_lt.mp hguard.2.1)
    rcases Nat.le_one_iff_eq_zero_or_eq_one.mp hle with hzero | hone
    · have hbyte : byteAt record 5 = 0 := UInt8.toNat_inj.mp hzero
      rw [hbyte]
      rfl
    · have hbyte : byteAt record 5 = 1 := UInt8.toNat_inj.mp hone
      rw [hbyte]
      rfl
  have hflags : [byteAt record 4, byteAt record 5] = (record.drop 4).take 2 := by
    rw [← ofFn_byteAt (by omega)]
    rfl
  have hzero : putU16 0 = (record.drop 6).take 2 := by
    rw [← hguard.2.2, putU16_getU16 (by rw [hdrop]; omega)]
  rw [encodeWireSignal, hcalibrated, putU32_getU32 (by omega), hflags, hzero,
    putU64_getU64 (by rw [hdrop]; omega), putU64_getU64 (by rw [hdrop]; omega),
    putU64_getU64 (by rw [hdrop]; omega), putU64_getU64 (by rw [hdrop]; omega)]
  rw [append_field rfl, append_field rfl, append_field rfl, append_field rfl, append_field rfl,
    ← List.take_add]

/-- An update as the wire has it. -/
def SignalUpdate.toWire (update : SignalUpdate) : WireSignal :=
  { index := update.index
    value := {
      raw := update.value.raw
      physical := update.value.physical
      firstObservedNs := update.value.firstObservedNs
      lastChangeNs := update.value.lastChangeNs
      state := update.value.state.code
      calibrated := update.value.calibrated } }

/-- The update that a record stands for. -/
def WireSignal.update (signal : WireSignal) : Option SignalUpdate :=
  (ObservationState.ofCode signal.value.state).map fun state =>
    ⟨signal.index, signal.value.raw, signal.value.physical, signal.value.firstObservedNs,
      signal.value.lastChangeNs, state, signal.value.calibrated⟩

/-- A signal is encoded as the wire signal with the code of its state. -/
theorem encodeSignal_eq (update : SignalUpdate) :
    encodeSignal update = encodeWireSignal update.toWire := rfl

/-- Decoding a signal is decoding a wire signal, and then its state. -/
theorem decodeSignal_eq (record : List UInt8) :
    decodeSignal record = (decodeWireSignal record).bind WireSignal.update := by
  unfold decodeSignal decodeWireSignal WireSignal.update
  cases hstate : ObservationState.ofCode (byteAt record 4) with
  | none =>
    simp only [Option.bind_eq_bind, Option.bind_none]
    split <;> simp [hstate]
  | some state =>
    have hle : ¬ byteAt record 4 > ObservationState.invalid.code :=
      UInt8.not_lt.mpr (ObservationState.le_of_ofCode hstate)
    simp only [Option.bind_eq_bind, Option.bind_some, hle, false_or]
    split <;> simp [hstate]

/-- A signal record is read back with its calibration flag normalised. -/
theorem decodeSignal_encodeSignal (update : SignalUpdate) (rest : List UInt8) :
    decodeSignal (encodeSignal update ++ rest) = some update.normalize := by
  have hstate : update.toWire.value.state ≤ ObservationState.invalid.code := by
    show update.value.state.code ≤ ObservationState.invalid.code
    cases update.value.state <;> decide
  rw [decodeSignal_eq, encodeSignal_eq, decodeWireSignal_encodeWireSignal, if_pos hstate,
    Option.bind_some]
  simp only [WireSignal.update, WireSignal.normalize, WireValue.normalize, SignalUpdate.toWire,
    SignalUpdate.normalize, ObservationState.ofCode_code, Option.map_some]
  rfl

/-- Decoding a batch returns each selected index with its value, flags normalised. -/
theorem decodeSignalBatch_encode (capacity updateCapacity : ℕ) (sampleSequence : UInt64)
    (totalCount startIndex : UInt32) (updates : List SignalUpdate) (payload : List UInt8)
    (hpayload : encodeSignalBatch capacity sampleSequence totalCount startIndex updates =
      some payload)
    (hcapacity : updates.length ≤ updateCapacity)
    (hstart : startIndexAllowed totalCount startIndex updates.length = true) :
    decodeSignalBatch payload updateCapacity =
      some ⟨sampleSequence, totalCount, startIndex, updates.map SignalUpdate.normalize⟩ :=
  decodeBatch_encodeBatch signalWireSize encodeSignal decodeSignal SignalUpdate.normalize capacity
    updateCapacity sampleSequence totalCount startIndex updates payload hpayload
    (fun update _ => encodeSignal_length update)
    (fun update _ rest => decodeSignal_encodeSignal update rest) hcapacity hstart

end Roadcast
