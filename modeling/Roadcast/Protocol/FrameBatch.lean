import Roadcast.Protocol.Batch

/-!
# Raw-frame batches

`roadcast_encode_frame_batch` and `roadcast_decode_frame_batch`: 28 bytes for each frame, with the
CAN ID as the only key. Raw frames use the states up to `ROADCAST_OBSERVATION_VALID`.
-/

namespace Roadcast

open BigEndian

/-- One frame record of a batch. -/
def encodeFrame (frame : Frame) : List UInt8 :=
  putU16 frame.canId ++ ([frame.state.code, 0] ++ (frame.data.toList ++
    (putU64 frame.firstObservedNs ++ putU64 frame.lastChangeNs)))

/-- A frame on the wire has a fixed size. -/
@[simp] theorem encodeFrame_length (frame : Frame) : (encodeFrame frame).length = frameWireSize := by
  simp [encodeFrame, frameWireSize]

/-- One frame record; a state above `ROADCAST_OBSERVATION_VALID` or a set reserved byte is refused. -/
def decodeFrame (record : List UInt8) : Option Frame := do
  let state ← ObservationState.ofCode (byteAt record 2)
  if byteAt record 2 > ObservationState.valid.code ∨ byteAt record 3 ≠ 0 then none
  else some {
    canId := getU16 record
    state := state
    data := Vector.ofFn fun k => byteAt record (4 + k.val)
    firstObservedNs := getU64 (record.drop 12)
    lastChangeNs := getU64 (record.drop 20) }

/-- `roadcast_encode_frame_batch` on the selected frames. -/
def encodeFrameBatch (cap : ℕ) (sampleSequence : UInt64) (totalCount startIndex : UInt32)
    (frames : List Frame) : Option (List UInt8) :=
  encodeBatch frameWireSize encodeFrame cap sampleSequence totalCount startIndex frames

/-- `roadcast_decode_frame_batch`. -/
def decodeFrameBatch (payload : List UInt8) (frameCap : ℕ) : Option (Batch Frame) :=
  decodeBatch frameWireSize decodeFrame payload frameCap

/-- `roadcast_frame_t` with any state byte. -/
structure WireFrame where
  canId : UInt16
  state : UInt8
  data : FrameData
  firstObservedNs : UInt64
  lastChangeNs : UInt64
  deriving DecidableEq, Repr

/-- The record of a frame with any state byte. -/
def encodeWireFrame (frame : WireFrame) : List UInt8 :=
  putU16 frame.canId ++ ([frame.state, 0] ++ (frame.data.toList ++
    (putU64 frame.firstObservedNs ++ putU64 frame.lastChangeNs)))

/-- What the loop of `roadcast_decode_frame_batch` makes of one record. -/
def decodeWireFrame (record : List UInt8) : Option WireFrame :=
  if byteAt record 2 > ObservationState.valid.code ∨ byteAt record 3 ≠ 0 then none
  else some {
    canId := getU16 record
    state := byteAt record 2
    data := Vector.ofFn fun k => byteAt record (4 + k.val)
    firstObservedNs := getU64 (record.drop 12)
    lastChangeNs := getU64 (record.drop 20) }

/-- So has a frame with any state byte. -/
@[simp] theorem encodeWireFrame_length (frame : WireFrame) :
    (encodeWireFrame frame).length = frameWireSize := by
  simp [encodeWireFrame, frameWireSize]

/-- A record is read back, field by field. -/
theorem decodeWireFrame_encodeWireFrame (frame : WireFrame) (rest : List UInt8)
    (h : frame.state ≤ ObservationState.valid.code) :
    decodeWireFrame (encodeWireFrame frame ++ rest) = some frame := by
  have hlen : frame.data.toList.length = 8 := by simp
  have hstate : byteAt (encodeWireFrame frame ++ rest) 2 = frame.state := rfl
  have hzero : byteAt (encodeWireFrame frame ++ rest) 3 = 0 := rfl
  have hid : getU16 (encodeWireFrame frame ++ rest) = frame.canId := by
    rw [encodeWireFrame, List.append_assoc, getU16_putU16]
  have hdrop : (encodeWireFrame frame ++ rest).drop 12 =
      putU64 frame.firstObservedNs ++ (putU64 frame.lastChangeNs ++ rest) := by
    change (frame.data.toList ++ (putU64 frame.firstObservedNs ++ putU64 frame.lastChangeNs) ++
      rest).drop 8 = _
    rw [List.append_assoc, List.drop_append_of_le_length (by omega),
      List.drop_eq_nil_of_le (by omega), List.nil_append, List.append_assoc]
  have hfirst : getU64 ((encodeWireFrame frame ++ rest).drop 12) = frame.firstObservedNs := by
    rw [hdrop, getU64_putU64]
  have hlast : getU64 ((encodeWireFrame frame ++ rest).drop 20) = frame.lastChangeNs := by
    rw [show 20 = 12 + 8 from rfl, ← List.drop_drop, hdrop]
    exact getU64_putU64 frame.lastChangeNs rest
  have hdata : (Vector.ofFn fun k : Fin 8 => byteAt (encodeWireFrame frame ++ rest) (4 + k.val)) =
      frame.data := by
    ext k hk
    rw [Vector.getElem_ofFn]
    have hb : byteAt (encodeWireFrame frame ++ rest) (4 + k) =
        byteAt (frame.data.toList ++ (putU64 frame.firstObservedNs ++ putU64 frame.lastChangeNs) ++
          rest) k := by
      rw [Nat.add_comm]
      rfl
    rw [hb, byteAt, List.append_assoc, List.getD_append _ _ _ _ (by omega),
      List.getD_eq_getElem _ _ (by omega), Vector.getElem_toList]
  rw [decodeWireFrame, hstate, hzero, hid, hfirst, hlast, hdata]
  exact if_neg (by simpa using h)

/-- An accepted record is written back byte for byte, and its state is that of a raw frame. -/
theorem encodeWireFrame_of_decodeWireFrame {record : List UInt8} {frame : WireFrame}
    (hlength : frameWireSize ≤ record.length) (h : decodeWireFrame record = some frame) :
    encodeWireFrame frame = record.take frameWireSize := by
  unfold decodeWireFrame at h
  split at h
  · contradiction
  rename_i hguard
  simp only [not_or, not_not] at hguard
  cases h
  simp only [frameWireSize] at hlength ⊢
  have hdrop : ∀ n, (record.drop n).length = record.length - n := fun n => List.length_drop
  have hflags : [byteAt record 2, 0] = (record.drop 2).take 2 := by
    rw [← ofFn_byteAt (by omega), ← hguard.2]
    rfl
  have hdata : (Vector.ofFn fun k : Fin 8 => byteAt record (4 + k.val)).toList =
      (record.drop 4).take 8 := by
    rw [← ofFn_byteAt (by omega), Vector.toList_ofFn]
  rw [encodeWireFrame, putU16_getU16 (by omega), hflags, hdata,
    putU64_getU64 (by rw [hdrop]; omega), putU64_getU64 (by rw [hdrop]; omega)]
  rw [append_field rfl, append_field rfl, append_field rfl, ← List.take_add]

/-- A frame whose state byte is out of range is refused. -/
theorem state_le_of_decodeWireFrame {record : List UInt8} {frame : WireFrame}
    (h : decodeWireFrame record = some frame) : frame.state ≤ ObservationState.valid.code := by
  unfold decodeWireFrame at h
  split at h
  · contradiction
  rename_i hguard
  simp only [not_or, not_not] at hguard
  cases h
  simpa using hguard.1

/-- A frame as the wire has it. -/
def Frame.toWire (frame : Frame) : WireFrame :=
  ⟨frame.canId, frame.state.code, frame.data, frame.firstObservedNs, frame.lastChangeNs⟩

/-- The frame that a record stands for. -/
def WireFrame.frame (frame : WireFrame) : Option Frame :=
  (ObservationState.ofCode frame.state).map fun state =>
    ⟨frame.canId, state, frame.data, frame.firstObservedNs, frame.lastChangeNs⟩

/-- A frame is encoded as the wire frame with the code of its state. -/
theorem encodeFrame_eq (frame : Frame) : encodeFrame frame = encodeWireFrame frame.toWire := rfl

/-- Decoding a frame is decoding a wire frame, and then its state. -/
theorem decodeFrame_eq (record : List UInt8) :
    decodeFrame record = (decodeWireFrame record).bind WireFrame.frame := by
  unfold decodeFrame decodeWireFrame WireFrame.frame
  cases hstate : ObservationState.ofCode (byteAt record 2) with
  | none => split <;> simp [hstate]
  | some state =>
    simp only [Option.bind_eq_bind, Option.bind_some]
    split <;> simp [hstate]

/-- The state of a frame survives the wire. -/
@[simp] theorem Frame.frame_toWire (frame : Frame) : frame.toWire.frame = some frame := by
  simp [Frame.toWire, WireFrame.frame]

/-- A frame in one of the raw-frame states is read back from its record. -/
theorem decodeFrame_encodeFrame (frame : Frame) (rest : List UInt8) (h : frame.state ≠ .invalid) :
    decodeFrame (encodeFrame frame ++ rest) = some frame := by
  have hstate : frame.state.code ≤ ObservationState.valid.code := by
    cases hcode : frame.state with
    | invalid => exact absurd hcode h
    | _ => decide
  rw [decodeFrame_eq, encodeFrame_eq, decodeWireFrame_encodeWireFrame _ rest hstate,
    Option.bind_some, Frame.frame_toWire]

/-- Decoding undoes encoding, for a receiver with enough room. -/
theorem decodeFrameBatch_encode (cap frameCap : ℕ) (sampleSequence : UInt64)
    (totalCount startIndex : UInt32) (frames : List Frame) (payload : List UInt8)
    (hpayload : encodeFrameBatch cap sampleSequence totalCount startIndex frames = some payload)
    (hstates : ∀ frame ∈ frames, frame.state ≠ .invalid) (hcap : frames.length ≤ frameCap)
    (hstart : startIndexAllowed totalCount startIndex frames.length = true) :
    decodeFrameBatch payload frameCap = some ⟨sampleSequence, totalCount, startIndex, frames⟩ := by
  have h := decodeBatch_encodeBatch frameWireSize encodeFrame decodeFrame id cap frameCap
    sampleSequence totalCount startIndex frames payload hpayload
    (fun frame _ => encodeFrame_length frame)
    (fun frame hframe rest => decodeFrame_encodeFrame frame rest (hstates frame hframe)) hcap hstart
  rwa [List.map_id] at h

end Roadcast
