import Mathlib.Data.List.Nodup
import Roadcast.Protocol.FrameBatch
import Roadcast.Protocol.SignalBatch

/-!
# Batches as exact inverses

The batch encoders take their records from an array, through an optional list of indices, and the
records hold any state byte. An accepted frame payload is the encoding of exactly one batch of frames
in the raw-frame states. An accepted signal payload is the encoding of its updates; a signal batch is
read back up to the calibration flag, as long as its states are those of the protocol.

The encoders and decoders on lists of frames and updates that the daemon and the SDK are modelled with
are these, for records whose states are those of the protocol (`encodeFrameBatch_eq`,
`decodeFrameBatch_eq` and their counterparts for signals).
-/

namespace Roadcast

/-- An array that holds a list. -/
def arrayOf {A : Type*} (fill : A) (records : List A) (i : ℕ) : A := records.getD i fill

/-- A loop over an array that holds a list meets its elements in order. -/
theorem map_arrayOf {A B : Type*} (fill : A) (records : List A) (f : A → B) :
    (List.range records.length).map (fun i => f (arrayOf fill records i)) = records.map f := by
  apply List.ext_getElem
  · simp
  · intro i hi hi'
    simp only [List.length_map] at hi'
    simp [arrayOf, hi']

section Frames

/-- The frames that `roadcast_encode_frame_batch` takes, `frames[indices ? indices[i] : i]`. -/
def selectedFrames (frames : ℕ → WireFrame) (indices : Option (ℕ → UInt16)) (count : ℕ) :
    List WireFrame :=
  (List.range count).map fun i => frames (indices.elim i fun chosen => (chosen i).toNat)

/-- `roadcast_encode_frame_batch`. -/
def encodeFrameArray (cap : ℕ) (sampleSequence : UInt64) (totalCount startIndex : UInt32)
    (frames : ℕ → WireFrame) (indices : Option (ℕ → UInt16)) (count : ℕ) : Option (List UInt8) :=
  encodeBatch frameWireSize encodeWireFrame cap sampleSequence totalCount startIndex
    (selectedFrames frames indices count)

/-- `roadcast_decode_frame_batch`. -/
def decodeWireFrameBatch (payload : List UInt8) (frameCap : ℕ) : Option (Batch WireFrame) :=
  decodeBatch frameWireSize decodeWireFrame payload frameCap

/-- A zeroed frame. -/
def zeroWireFrame : WireFrame := zeroFrame.toWire

/-- As many frames are selected as are counted. -/
theorem selectedFrames_length (frames : ℕ → WireFrame) (indices : Option (ℕ → UInt16)) (count : ℕ) :
    (selectedFrames frames indices count).length = count := by
  rw [selectedFrames, List.length_map, List.length_range]

/-- Without indices the first frames of the array are selected. -/
theorem selectedFrames_arrayOf (frames : List WireFrame) :
    selectedFrames (arrayOf zeroWireFrame frames) none frames.length = frames := by
  have h := map_arrayOf zeroWireFrame frames id
  rwa [List.map_id] at h

/-- A batch of a list of frames is that of the array with these frames. -/
theorem encodeFrameBatch_eq (cap : ℕ) (sampleSequence : UInt64) (totalCount startIndex : UInt32)
    (frames : List Frame) :
    encodeFrameBatch cap sampleSequence totalCount startIndex frames =
      encodeFrameArray cap sampleSequence totalCount startIndex
        (arrayOf zeroWireFrame (frames.map Frame.toWire)) none frames.length := by
  have hselected := selectedFrames_arrayOf (frames.map Frame.toWire)
  rw [List.length_map] at hselected
  rw [encodeFrameArray, hselected, encodeFrameBatch, encodeBatch, encodeBatch, List.length_map,
    List.flatMap_map]
  rfl

/-- Decoding a batch of frames is decoding the wire frames, and then their states. -/
theorem decodeFrameBatch_eq (payload : List UInt8) (frameCap : ℕ) :
    decodeFrameBatch payload frameCap =
      (decodeWireFrameBatch payload frameCap).bind fun batch =>
        (batch.records.mapM WireFrame.frame).map fun frames =>
          ⟨batch.sampleSequence, batch.totalCount, batch.startIndex, frames⟩ := by
  rw [decodeFrameBatch, funext decodeFrame_eq]
  exact decodeBatch_bind frameWireSize decodeWireFrame WireFrame.frame payload frameCap

/-- Decoding undoes encoding, for every array and every selection from it. -/
theorem decodeWireFrameBatch_encode {cap frameCap : ℕ} {sampleSequence : UInt64}
    {totalCount startIndex : UInt32} {frames : ℕ → WireFrame} {indices : Option (ℕ → UInt16)}
    {count : ℕ} {payload : List UInt8}
    (hpayload : encodeFrameArray cap sampleSequence totalCount startIndex frames indices count =
      some payload)
    (hcap : count ≤ frameCap)
    (hstates : ∀ frame ∈ selectedFrames frames indices count,
      frame.state ≤ ObservationState.valid.code)
    (hstart : startIndexAllowed totalCount startIndex count = true) :
    decodeWireFrameBatch payload frameCap =
      some ⟨sampleSequence, totalCount, startIndex, selectedFrames frames indices count⟩ := by
  have hlength := selectedFrames_length frames indices count
  have h := decodeBatch_encodeBatch frameWireSize encodeWireFrame decodeWireFrame id cap frameCap
    sampleSequence totalCount startIndex _ payload hpayload
    (fun frame _ => encodeWireFrame_length frame)
    (fun frame hframe rest => decodeWireFrame_encodeWireFrame frame rest (hstates frame hframe))
    (hlength.symm ▸ hcap) (hlength.symm ▸ hstart)
  rwa [List.map_id] at h

/-- The accepted frame payloads are the encodings of the batches of raw frames. -/
theorem decodeWireFrameBatch_iff (payload : List UInt8) (frameCap : ℕ) (batch : Batch WireFrame) :
    decodeWireFrameBatch payload frameCap = some batch ↔
      batch.records.length ≤ frameCap ∧ batch.records.length ≤ 65535 ∧
        (∀ frame ∈ batch.records, frame.state ≤ ObservationState.valid.code) ∧
        startIndexAllowed batch.totalCount batch.startIndex batch.records.length = true ∧
        encodeFrameArray payload.length batch.sampleSequence batch.totalCount batch.startIndex
          (arrayOf zeroWireFrame batch.records) none batch.records.length = some payload := by
  have hselected := selectedFrames_arrayOf batch.records
  constructor
  · intro h
    obtain ⟨hpayload, hcap, hstart⟩ := encodeBatch_of_decodeBatch
      (fun _ _ hlength hrecord => encodeWireFrame_of_decodeWireFrame hlength hrecord) h
    have hcount := (encodeBatch_length _ _ _ _ _ _ _ _
      (fun frame _ => encodeWireFrame_length frame) hpayload).2.2
    refine ⟨hcap, hcount, ?_, hstart, ?_⟩
    · exact forall_of_decodeBatch (fun _ _ hrecord => state_le_of_decodeWireFrame hrecord) h
    · rw [encodeFrameArray, hselected]
      exact hpayload
  · rintro ⟨hcap, -, hstates, hstart, hpayload⟩
    rw [decodeWireFrameBatch_encode hpayload hcap (hselected.symm ▸ hstates) hstart, hselected]

end Frames

section Signals

/-- The index of a record, `indices ? indices[i] : (uint32_t)i`. -/
def selectedIndex (indices : Option (ℕ → UInt32)) (i : ℕ) : UInt32 :=
  indices.elim (UInt32.ofNat i) fun chosen => chosen i

/-- The records that `roadcast_encode_signal_batch` writes. -/
def selectedSignals (signals : ℕ → WireValue) (indices : Option (ℕ → UInt32)) (count : ℕ) :
    List WireSignal :=
  (List.range count).map fun i =>
    ⟨selectedIndex indices i, signals (selectedIndex indices i).toNat⟩

/-- `roadcast_encode_signal_batch`. -/
def encodeSignalArray (capacity : ℕ) (sampleSequence : UInt64) (totalCount startIndex : UInt32)
    (signals : ℕ → WireValue) (indices : Option (ℕ → UInt32)) (count : ℕ) : Option (List UInt8) :=
  encodeBatch signalWireSize encodeWireSignal capacity sampleSequence totalCount startIndex
    (selectedSignals signals indices count)

/-- `roadcast_decode_signal_batch`. -/
def decodeWireSignalBatch (payload : List UInt8) (updateCapacity : ℕ) : Option (Batch WireSignal) :=
  decodeBatch signalWireSize decodeWireSignal payload updateCapacity

/-- A zeroed update. -/
def zeroWireSignal : WireSignal := SignalUpdate.toWire ⟨0, zeroSignal⟩

/-- As many signals are selected as are counted. -/
theorem selectedSignals_length (signals : ℕ → WireValue) (indices : Option (ℕ → UInt32))
    (count : ℕ) : (selectedSignals signals indices count).length = count := by
  rw [selectedSignals, List.length_map, List.length_range]

/-- The indices of a list of updates. -/
def indicesOf (updates : List WireSignal) (i : ℕ) : UInt32 :=
  (arrayOf zeroWireSignal updates i).index

/-- An array that holds every update at its index gives the updates back. -/
theorem selectedSignals_indicesOf {signals : ℕ → WireValue} {updates : List WireSignal}
    (h : ∀ update ∈ updates, signals update.index.toNat = update.value) :
    selectedSignals signals (some (indicesOf updates)) updates.length = updates := by
  have hloop := map_arrayOf zeroWireSignal updates fun update =>
    (⟨update.index, signals update.index.toNat⟩ : WireSignal)
  refine hloop.trans ?_
  conv_rhs => rw [← List.map_id updates]
  refine List.map_congr_left fun update hupdate => ?_
  rw [h update hupdate]
  rfl

/-- Updates with distinct indices are the contents of an array. -/
theorem exists_array_of_nodup {updates : List WireSignal}
    (h : (updates.map WireSignal.index).Nodup) :
    ∃ signals : ℕ → WireValue, ∀ update ∈ updates, signals update.index.toNat = update.value := by
  classical
  refine ⟨fun i => if hi : ∃ update ∈ updates, update.index.toNat = i then hi.choose.value
    else zeroWireSignal.value, fun update hupdate => ?_⟩
  have hi : ∃ other ∈ updates, other.index.toNat = update.index.toNat := ⟨update, hupdate, rfl⟩
  obtain ⟨hmem, hindex⟩ := hi.choose_spec
  have hsame := List.inj_on_of_nodup_map h hmem hupdate (UInt32.toNat_inj.mp hindex)
  dsimp only
  rw [dif_pos hi, hsame]

/-- A batch of a list of signals is that of an array that has them at their indices. -/
theorem encodeSignalBatch_eq (capacity : ℕ) (sampleSequence : UInt64) (totalCount startIndex : UInt32)
    {updates : List SignalUpdate} {signals : ℕ → WireValue}
    (h : ∀ update ∈ updates, signals update.index.toNat = update.toWire.value) :
    encodeSignalBatch capacity sampleSequence totalCount startIndex updates =
      encodeSignalArray capacity sampleSequence totalCount startIndex signals
        (some (indicesOf (updates.map SignalUpdate.toWire))) updates.length := by
  have hwire : ∀ update ∈ updates.map SignalUpdate.toWire,
      signals update.index.toNat = update.value := by
    intro update hupdate
    obtain ⟨source, hsource, rfl⟩ := List.mem_map.mp hupdate
    exact h source hsource
  have hselected := selectedSignals_indicesOf hwire
  rw [List.length_map] at hselected
  rw [encodeSignalArray, hselected, encodeSignalBatch, encodeBatch, encodeBatch, List.length_map,
    List.flatMap_map]
  rfl

/-- Decoding a batch of signals is decoding the wire signals, and then their states. -/
theorem decodeSignalBatch_eq (payload : List UInt8) (updateCapacity : ℕ) :
    decodeSignalBatch payload updateCapacity =
      (decodeWireSignalBatch payload updateCapacity).bind fun batch =>
        (batch.records.mapM WireSignal.update).map fun updates =>
          ⟨batch.sampleSequence, batch.totalCount, batch.startIndex, updates⟩ := by
  rw [decodeSignalBatch, funext decodeSignal_eq]
  exact decodeBatch_bind signalWireSize decodeWireSignal WireSignal.update payload updateCapacity

/-- Decoding returns each selected index with its value, for every array and every selection. -/
theorem decodeWireSignalBatch_encode {capacity updateCapacity : ℕ} {sampleSequence : UInt64}
    {totalCount startIndex : UInt32} {signals : ℕ → WireValue} {indices : Option (ℕ → UInt32)}
    {count : ℕ} {payload : List UInt8}
    (hpayload : encodeSignalArray capacity sampleSequence totalCount startIndex signals indices
      count = some payload)
    (hcapacity : count ≤ updateCapacity)
    (hstates : ∀ signal ∈ selectedSignals signals indices count,
      signal.value.state ≤ ObservationState.invalid.code)
    (hstart : startIndexAllowed totalCount startIndex count = true) :
    decodeWireSignalBatch payload updateCapacity =
      some ⟨sampleSequence, totalCount, startIndex,
        (selectedSignals signals indices count).map WireSignal.normalize⟩ := by
  have hlength := selectedSignals_length signals indices count
  refine decodeBatch_encodeBatch signalWireSize encodeWireSignal decodeWireSignal
    WireSignal.normalize capacity updateCapacity sampleSequence totalCount startIndex _ payload
    hpayload (fun signal _ => encodeWireSignal_length signal) (fun signal hsignal rest => ?_)
    (hlength.symm ▸ hcapacity) (hlength.symm ▸ hstart)
  rw [decodeWireSignal_encodeWireSignal, if_pos (hstates signal hsignal)]

/-- An accepted signal payload with distinct indices is encoded from an array again. -/
theorem encodeSignalArray_of_decode {payload : List UInt8} {updateCapacity : ℕ}
    {batch : Batch WireSignal} (h : decodeWireSignalBatch payload updateCapacity = some batch)
    {signals : ℕ → WireValue}
    (hsignals : ∀ signal ∈ batch.records, signals signal.index.toNat = signal.value) :
    encodeSignalArray payload.length batch.sampleSequence batch.totalCount batch.startIndex signals
      (some (indicesOf batch.records)) batch.records.length = some payload := by
  rw [encodeSignalArray, selectedSignals_indicesOf hsignals]
  exact (encodeBatch_of_decodeBatch
    (fun _ _ hlength hrecord => encodeWireSignal_of_decodeWireSignal hlength hrecord) h).1

end Signals

/-- The batch codecs are exact inverses. A frame payload is accepted if and only if it is the
encoding of frames in the raw-frame states with an admissible start, and these are returned; a frame
batch from any array and selection is read back; so is a signal batch, with normalised calibration
flags, if the selected states are those of the protocol; and an accepted signal payload with distinct
indices is encoded again from an array that holds its values. -/
theorem batchCodecs_inverse :
    (∀ (payload : List UInt8) (frameCap : ℕ) (batch : Batch WireFrame),
      decodeWireFrameBatch payload frameCap = some batch ↔
        batch.records.length ≤ frameCap ∧ batch.records.length ≤ 65535 ∧
          (∀ frame ∈ batch.records, frame.state ≤ ObservationState.valid.code) ∧
          startIndexAllowed batch.totalCount batch.startIndex batch.records.length = true ∧
          encodeFrameArray payload.length batch.sampleSequence batch.totalCount batch.startIndex
            (arrayOf zeroWireFrame batch.records) none batch.records.length = some payload) ∧
    (∀ (cap frameCap : ℕ) (sampleSequence : UInt64) (totalCount startIndex : UInt32)
      (frames : ℕ → WireFrame) (indices : Option (ℕ → UInt16)) (count : ℕ) (payload : List UInt8),
      encodeFrameArray cap sampleSequence totalCount startIndex frames indices count = some payload →
      count ≤ frameCap →
      (∀ frame ∈ selectedFrames frames indices count,
        frame.state ≤ ObservationState.valid.code) →
      startIndexAllowed totalCount startIndex count = true →
      decodeWireFrameBatch payload frameCap =
        some ⟨sampleSequence, totalCount, startIndex, selectedFrames frames indices count⟩) ∧
    (∀ (capacity updateCapacity : ℕ) (sampleSequence : UInt64) (totalCount startIndex : UInt32)
      (signals : ℕ → WireValue) (indices : Option (ℕ → UInt32)) (count : ℕ)
      (payload : List UInt8),
      encodeSignalArray capacity sampleSequence totalCount startIndex signals indices count =
        some payload →
      count ≤ updateCapacity →
      (∀ signal ∈ selectedSignals signals indices count,
        signal.value.state ≤ ObservationState.invalid.code) →
      startIndexAllowed totalCount startIndex count = true →
      decodeWireSignalBatch payload updateCapacity =
        some ⟨sampleSequence, totalCount, startIndex,
          (selectedSignals signals indices count).map WireSignal.normalize⟩) ∧
    (∀ (payload : List UInt8) (updateCapacity : ℕ) (batch : Batch WireSignal),
      decodeWireSignalBatch payload updateCapacity = some batch →
      (batch.records.map WireSignal.index).Nodup →
      ∃ signals : ℕ → WireValue,
        (∀ signal ∈ batch.records, signals signal.index.toNat = signal.value) ∧
        encodeSignalArray payload.length batch.sampleSequence batch.totalCount batch.startIndex
          signals (some (indicesOf batch.records)) batch.records.length = some payload) := by
  refine ⟨decodeWireFrameBatch_iff, ?_, ?_, ?_⟩
  · intro cap frameCap sampleSequence totalCount startIndex frames indices count payload
    exact decodeWireFrameBatch_encode
  · intro capacity updateCapacity sampleSequence totalCount startIndex signals indices count payload
    exact decodeWireSignalBatch_encode
  · intro payload updateCapacity batch hbatch hnodup
    obtain ⟨signals, hsignals⟩ := exists_array_of_nodup hnodup
    exact ⟨signals, hsignals, encodeSignalArray_of_decode hbatch hsignals⟩

/-- A signal value with a given state byte. -/
def valueInState (state : UInt8) : WireValue := ⟨7, 0, 10, 20, state, 5⟩

/-- A value whose state byte is none of the protocol's is encoded and then refused. -/
theorem signalBatch_state_refused :
    ∃ payload, encodeSignalArray 60 1 1 uint32Max (fun _ => valueInState 4) none 1 = some payload ∧
      startIndexAllowed 1 uint32Max 1 = true ∧ decodeWireSignalBatch payload 1 = none :=
  ⟨_, rfl, by decide, by decide +kernel⟩

/-- A calibrated value at index 3 is read back with the flag 1. -/
theorem batchCodecs_inverse_calibrated :
    ∃ payload,
      encodeSignalArray 60 1 9 uint32Max (fun _ => valueInState 2) (some fun _ => 3) 1 =
        some payload ∧
      decodeWireSignalBatch payload 1 = some ⟨1, 9, uint32Max, [⟨3, 7, 0, 10, 20, 2, 1⟩]⟩ := by
  refine ⟨_, rfl, ?_⟩
  exact batchCodecs_inverse.2.2.1 60 1 1 9 uint32Max (fun _ => valueInState 2) (some fun _ => 3) 1 _
    rfl (by decide) (by decide) (by decide)

end Roadcast
