import Roadcast.Daemon.FrozenPages
import Roadcast.Sdk.Arrays

/-!
# What a session has been sent

`foldMessage` applies one queued message to arrays of frames and signals, the way the SDK applies
pages and update batches; `sentReplica` is the result for everything queued to a session since its
last frozen snapshot. Messages of other types carry no records.
-/

namespace Roadcast

open DeltaSync

variable {cat : Catalog} {config : Config cat}

/-- `can_id_to_index` for a catalog. -/
def catalogTable (cat : Catalog) : ℕ → UInt16 :=
  fillCanIdTable 0 (List.ofFn cat.canIds) emptyCanIdTable

/-- The arrays after a message. -/
def foldMessage (cat : Catalog) (replica : Replica) (message : Message) : Replica :=
  match MessageType.ofCode message.header.type with
  | some .snapshot =>
    match decodeFrameBatch message.payload framesPerMessage with
    | none => replica
    | some page =>
      { replica with frames := placeFrames page.startIndex.toNat page.records replica.frames }
  | some .updateBatch =>
    match decodeFrameBatch message.payload framesPerMessage with
    | none => replica
    | some batch =>
      { replica with
        frames := (applyFrames (catalogTable cat) cat.frameCount batch.records
          replica.frames).getD replica.frames }
  | some .signalSnapshotChunk =>
    match decodeSignalBatch message.payload signalsPerMessage with
    | none => replica
    | some page =>
      { replica with
        signals := (placeSignals cat.signalCount page.startIndex.toNat page.records
          replica.signals).getD replica.signals }
  | some .signalUpdateBatch =>
    match decodeSignalBatch message.payload signalsPerMessage with
    | none => replica
    | some batch =>
      { replica with
        signals := (applySignals cat.signalCount batch.records
          replica.signals).getD replica.signals }
  | _ => replica

/-- The arrays after everything queued since the last frozen snapshot. -/
def sentReplica (log : List (LogEntry cat)) : Replica :=
  match snapshotHistory log with
  | none => Replica.zero
  | some (_, sent) => sent.foldl (foldMessage cat) Replica.zero

/-- Once a snapshot was frozen every queued message is folded. -/
theorem sentReplica_queued {log : List (LogEntry cat)} (h : (snapshotHistory log).isSome = true)
    (message : Message) (canonical : Canonical cat) :
    sentReplica (log ++ [.queued message canonical]) = foldMessage cat (sentReplica log) message := by
  obtain ⟨past, hpast⟩ := Option.isSome_iff_exists.mp h
  simp [sentReplica, hpast, noteEntry]

/-- A dropped message is not sent. -/
theorem sentReplica_dropped (log : List (LogEntry cat)) (type : MessageType) :
    sentReplica (log ++ [.dropped type]) = sentReplica log := by
  simp [sentReplica, noteEntry]

/-- The beginning of a round sends nothing. -/
theorem sentReplica_round (log : List (LogEntry cat)) (frames : List (Fin cat.frameCount))
    (signals : List (Fin cat.signalCount)) :
    sentReplica (log ++ [.roundBegun frames signals]) = sentReplica log := by
  simp [sentReplica, noteEntry]

/-- The types of the messages that carry records. -/
def CarriesRecords (type : MessageType) : Prop :=
  type = .snapshot ∨ type = .updateBatch ∨ type = .signalSnapshotChunk ∨ type = .signalUpdateBatch

section Effects

variable (replica : Replica) {sequence timestampNs sampleSequence : UInt64} {payload : List UInt8}

/-- A message without records changes nothing at the receiver. -/
theorem foldMessage_other {type : MessageType} (h : ¬ CarriesRecords type)
    (sequence timestampNs : UInt64) (payload : List UInt8) :
    foldMessage cat replica (outgoing type sequence timestampNs payload) = replica := by
  simp only [foldMessage, outgoing, MessageType.ofCode_code]
  cases type <;> first | rfl | exact absurd (by simp [CarriesRecords]) h

/-- A queued message without records changes nothing. -/
theorem sentReplica_other {type : MessageType} (h : ¬ CarriesRecords type)
    (sequence timestampNs : UInt64) (payload : List UInt8) (log : List (LogEntry cat))
    (canonical : Canonical cat) :
    sentReplica (log ++ [.queued (outgoing type sequence timestampNs payload) canonical]) =
      sentReplica log := by
  cases hhistory : snapshotHistory log with
  | none => simp [sentReplica, hhistory, noteEntry]
  | some past => rw [sentReplica_queued (by simp [hhistory]), foldMessage_other _ h]

/-- A frame page overwrites the frames it lists. -/
theorem foldMessage_framePage {startIndex : UInt32} {frames : Fin cat.frameCount → Frame}
    (hframes : CatalogFrames frames) (hstart : startIndex.toNat < cat.frameCount)
    (hpayload : encodeFrameBatch clientPayloadCap sampleSequence cat.frameCountWord startIndex
      ((framePageIndices cat startIndex.toNat).map frames) = some payload) :
    let after := foldMessage cat replica (outgoing .snapshot sequence timestampNs payload)
    entries cat.frameCount after.frames = overlay (framePageIndices cat startIndex.toNat) frames
      (entries cat.frameCount replica.frames) ∧ after.signals = replica.signals := by
  have hcount := encodeFrameBatch_count hpayload
  rw [List.length_map] at hcount
  have hdecode := decodeFrameBatch_of_indices framesPerMessage hframes hpayload hcount
    (startIndexAllowed_page cat.frameCount _ _ _ cat.frameCountWord_toNat hstart.le)
  simp only [foldMessage, outgoing, MessageType.ofCode_code, hdecode]
  exact ⟨entries_placeFrames _ _ _ _ (page_consecutive _ _ _), trivial⟩

/-- A frame update overwrites the frames it lists. -/
theorem foldMessage_frameUpdate (hinjective : Function.Injective cat.canIds)
    {indices : List (Fin cat.frameCount)} {frames : Fin cat.frameCount → Frame}
    (hframes : CatalogFrames frames)
    (hpayload : encodeFrameBatch clientPayloadCap sampleSequence cat.frameCountWord uint32Max
      (indices.map frames) = some payload) :
    let after := foldMessage cat replica (outgoing .updateBatch sequence timestampNs payload)
    entries cat.frameCount after.frames =
      overlay indices frames (entries cat.frameCount replica.frames) ∧
      after.signals = replica.signals := by
  have hcount := encodeFrameBatch_count hpayload
  rw [List.length_map] at hcount
  have hdecode := decodeFrameBatch_of_indices framesPerMessage hframes hpayload hcount
    (startIndexAllowed_delta _ _)
  obtain ⟨array', happly, -, hentries⟩ := entries_applyFrames (fillCanIdTable_knows emptyCanIdTable)
    indices hframes replica.frames
  simp only [foldMessage, outgoing, MessageType.ofCode_code, hdecode, catalogTable, happly]
  exact ⟨hentries hinjective, trivial⟩

/-- A signal page overwrites the signals it lists. -/
theorem foldMessage_signalPage {startIndex : UInt32} {signals : Fin cat.signalCount → SignalValue}
    (hsignals : ∀ i, SignalConsistent i (signals i)) (hstart : startIndex.toNat < cat.signalCount)
    (hpayload : encodeSignalBatch clientPayloadCap sampleSequence cat.signalCountWord startIndex
      ((signalPageIndices cat startIndex.toNat).map (signalUpdate signals)) = some payload) :
    let after := foldMessage cat replica
      (outgoing .signalSnapshotChunk sequence timestampNs payload)
    entries cat.signalCount after.signals = overlay (signalPageIndices cat startIndex.toNat) signals
      (entries cat.signalCount replica.signals) ∧ after.frames = replica.frames := by
  have hcount := encodeSignalBatch_count hpayload
  rw [List.length_map] at hcount
  have hdecode := decodeSignalBatch_of_indices signalsPerMessage hsignals hpayload hcount
    (startIndexAllowed_page cat.signalCount _ _ _ cat.signalCountWord_toNat hstart.le)
  obtain ⟨array', happly, hentries⟩ := entries_placeSignals startIndex.toNat
    (signalPageIndices cat startIndex.toNat) signals replica.signals (page_consecutive _ _ _)
  simp only [foldMessage, outgoing, MessageType.ofCode_code, hdecode, happly]
  exact ⟨hentries, trivial⟩

/-- A signal update overwrites the signals it lists. -/
theorem foldMessage_signalUpdate {indices : List (Fin cat.signalCount)}
    {signals : Fin cat.signalCount → SignalValue} (hsignals : ∀ i, SignalConsistent i (signals i))
    (hpayload : encodeSignalBatch clientPayloadCap sampleSequence cat.signalCountWord uint32Max
      (indices.map (signalUpdate signals)) = some payload) :
    let after := foldMessage cat replica (outgoing .signalUpdateBatch sequence timestampNs payload)
    entries cat.signalCount after.signals =
      overlay indices signals (entries cat.signalCount replica.signals) ∧
      after.frames = replica.frames := by
  have hcount := encodeSignalBatch_count hpayload
  rw [List.length_map] at hcount
  have hdecode := decodeSignalBatch_of_indices signalsPerMessage hsignals hpayload hcount
    (startIndexAllowed_delta _ _)
  obtain ⟨array', happly, hentries⟩ := entries_applySignals indices signals replica.signals
  simp only [foldMessage, outgoing, MessageType.ofCode_code, hdecode, happly]
  exact ⟨hentries, trivial⟩

end Effects

end Roadcast
