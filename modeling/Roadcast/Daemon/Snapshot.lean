import Roadcast.Daemon.Client
import Roadcast.Protocol.FrameBatch
import Roadcast.Protocol.SignalBatch

/-!
# Frozen snapshots

`begin_snapshot`, `queue_frame_snapshot_chunk` and `queue_signal_snapshot_chunk`. A snapshot copies
the canonical state into the session, and its pages are cut from that copy one request at a time:
first all frames, then all signals, each page starting where the one before it ended.
-/

namespace Roadcast

variable {cat : Catalog}

/-- `begin_snapshot`. -/
def beginSnapshot (canonical : Canonical cat) (env : Env cat) (client : Client cat) : Client cat :=
  { client with
    snapshotFrames := canonical.frames
    snapshotSignals := canonical.signals
    snapshotSampleSequence := canonical.sampleSequence
    snapshotChangeSequence := canonical.changeSequence
    snapshotTimestampNs := canonical.sampleTimestampNs
    snapshotNextFrameIndex := 0
    snapshotNextIndex := 0
    snapshotActive := true
    snapshotFramesComplete := false
    snapshotComplete := false
    setupDeadlineNs := env.monotonicNs + setupTimeoutNs
    needsResync := false
    resyncQueued := false
    log := client.log ++ [.snapshotBegun canonical] }

/-- The indices of one frame page. -/
def framePageIndices (cat : Catalog) (start : ℕ) : List (Fin cat.frameCount) :=
  ((List.finRange cat.frameCount).drop start).take framesPerMessage

/-- The indices of one signal page. -/
def signalPageIndices (cat : Catalog) (start : ℕ) : List (Fin cat.signalCount) :=
  ((List.finRange cat.signalCount).drop start).take signalsPerMessage

/-- A page of frames ends within the catalog. -/
theorem framePage_within {next : ℕ} (h : next ≤ cat.frameCount) :
    next + (framePageIndices cat next).length ≤ cat.frameCount := by
  rw [framePageIndices, List.length_take, List.length_drop, List.length_finRange]
  omega

/-- A page of signals ends within the catalog. -/
theorem signalPage_within {next : ℕ} (h : next ≤ cat.signalCount) :
    next + (signalPageIndices cat next).length ≤ cat.signalCount := by
  rw [signalPageIndices, List.length_take, List.length_drop, List.length_finRange]
  omega

/-- The record that a batch carries for a signal index. -/
def signalUpdate (signals : Fin cat.signalCount → SignalValue) (i : Fin cat.signalCount) :
    SignalUpdate :=
  ⟨UInt32.ofNat i.val, signals i⟩

/-- The payload of a frame page. -/
def framePagePayload (client : Client cat) (startIndex : UInt32) : Option (List UInt8) :=
  encodeFrameBatch clientPayloadCap client.snapshotSampleSequence cat.frameCountWord startIndex
    ((framePageIndices cat startIndex.toNat).map client.snapshotFrames)

/-- The payload of a signal page. -/
def signalPagePayload (client : Client cat) (startIndex : UInt32) : Option (List UInt8) :=
  encodeSignalBatch clientPayloadCap client.snapshotSampleSequence cat.signalCountWord startIndex
    ((signalPageIndices cat startIndex.toNat).map (signalUpdate client.snapshotSignals))

/-- The bookkeeping after a queued frame page. -/
def Client.advanceFrames (client : Client cat) (count : ℕ) : Client cat :=
  { client with
    snapshotNextFrameIndex := client.snapshotNextFrameIndex + count
    snapshotFramesComplete := client.snapshotFramesComplete ||
      decide (client.snapshotNextFrameIndex + count = cat.frameCount) }

/-- The bookkeeping after a queued signal page. -/
def Client.advanceSignals (client : Client cat) (count : ℕ) : Client cat :=
  { client with
    snapshotNextIndex := client.snapshotNextIndex + count
    snapshotActive := client.snapshotActive &&
      decide (client.snapshotNextIndex + count ≠ cat.signalCount)
    snapshotComplete := client.snapshotComplete ||
      decide (client.snapshotNextIndex + count = cat.signalCount) }

/-- `queue_frame_snapshot_chunk` after the snapshot has begun. -/
def queueFramePage (config : Config cat) (canonical : Canonical cat) (env : Env cat)
    (client : Client cat) (startIndex : UInt32) : Except (Client cat) (Client cat) :=
  if client.snapshotActive = false ∨ client.snapshotFramesComplete = true ∨
      startIndex.toNat ≠ client.snapshotNextFrameIndex ∨ startIndex.toNat ≥ cat.frameCount then
    .error client
  else
    match framePagePayload client startIndex with
    | none => .error client
    | some payload => do
      let queued ← clientQueueMessage config canonical env client .snapshot
        client.snapshotChangeSequence client.snapshotTimestampNs payload false
      .ok (queued.advanceFrames (framePageIndices cat startIndex.toNat).length)

/-- `queue_frame_snapshot_chunk`. -/
def queueFrameSnapshotChunk (config : Config cat) (canonical : Canonical cat) (env : Env cat)
    (client : Client cat) (startIndex : UInt32) : Except (Client cat) (Client cat) :=
  if startIndex = 0 ∧ client.snapshotActive = false then
    queueFramePage config canonical env (beginSnapshot canonical env client) startIndex
  else queueFramePage config canonical env client startIndex

/-- `queue_signal_snapshot_chunk`. -/
def queueSignalSnapshotChunk (config : Config cat) (canonical : Canonical cat) (env : Env cat)
    (client : Client cat) (startIndex : UInt32) : Except (Client cat) (Client cat) :=
  if client.snapshotActive = false ∨ client.snapshotFramesComplete = false ∨
      startIndex.toNat ≠ client.snapshotNextIndex ∨ startIndex.toNat ≥ cat.signalCount then
    .error client
  else
    match signalPagePayload client startIndex with
    | none => .error client
    | some payload => do
      let queued ← clientQueueMessage config canonical env client .signalSnapshotChunk
        client.snapshotChangeSequence client.snapshotTimestampNs payload false
      .ok (queued.advanceSignals (signalPageIndices cat startIndex.toNat).length)

end Roadcast
