import Roadcast.Catalog.Decode
import Roadcast.Source.Sampler

/-!
# The canonical state

The fields of `roadcast_server` that every session reads: the frames and signals of the last
consumed sample and the sequence numbers. `Canonical.consume` is the part of
`distribute_latest_sample` before the fan-out, `Canonical.heartbeat` the part of `on_heartbeat`
before its loop over the clients.

A consumed sample replaces the frames as they are. It counts as a change only if some frame differs
in state or bytes, and only the signals of such frames are decoded again.
-/

namespace Roadcast

variable (cat : Catalog)

/-- The shared fields of `roadcast_server`. -/
structure Canonical where
  frames : Fin cat.frameCount → Frame
  signals : Fin cat.signalCount → SignalValue
  sampleSequence : UInt64
  changeSequence : UInt64
  sampleTimestampNs : UInt64
  coalescedSamples : UInt64
  heartbeatPreviousSequence : UInt64
  heartbeatPreviousNs : ℕ
  effectiveHzMillihz : UInt32

/-- What `sampler_read_latest` copies out. -/
structure Sample where
  frames : Fin cat.frameCount → Frame
  sequence : UInt64
  timestampNs : UInt64

variable {cat}

/-- `sampler_read_latest`. -/
def samplerReadLatest (sampler : Sampler cat) : Sample cat :=
  ⟨sampler.published, sampler.publishedSequence, sampler.publishedTimestampNs⟩

/-- The frame comparison of `distribute_latest_sample` and `begin_catchup_round`: state and bytes,
not the timestamps. -/
def frameDiffers (a b : Frame) : Bool :=
  decide (a.state ≠ b.state) || decide (a.data ≠ b.data)

/-- The signal comparison of `distribute_latest_sample` and `begin_catchup_round`. -/
def signalDiffers (a b : SignalValue) : Bool :=
  decide (a.raw ≠ b.raw) || decide (a.state ≠ b.state) ||
    decide (a.firstObservedNs ≠ b.firstObservedNs) || decide (a.lastChangeNs ≠ b.lastChangeNs)

/-- The indices of the frames that differ, in order. -/
def differingFrames (new old : Fin cat.frameCount → Frame) : List (Fin cat.frameCount) :=
  (List.finRange cat.frameCount).filter fun i => frameDiffers (new i) (old i)

/-- The indices of the signals that differ, in order. -/
def differingSignals (new old : Fin cat.signalCount → SignalValue) : List (Fin cat.signalCount) :=
  (List.finRange cat.signalCount).filter fun i => signalDiffers (new i) (old i)

/-- `reconcile_signal_timestamps` for one signal. -/
def reconcileSignalTimestamps (latest canonical : SignalValue) (timestampNs : UInt64) :
    SignalValue :=
  if latest.state = .unavailable then
    if canonical.firstObservedNs ≠ 0 then
      { latest with
        firstObservedNs := canonical.firstObservedNs
        lastChangeNs := canonical.lastChangeNs
        raw := canonical.raw
        physical := canonical.physical }
    else { latest with firstObservedNs := 0, lastChangeNs := 0 }
  else if canonical.firstObservedNs ≠ 0 then
    { latest with
      firstObservedNs := canonical.firstObservedNs
      lastChangeNs :=
        if latest.raw = canonical.raw ∧ latest.state = canonical.state then canonical.lastChangeNs
        else timestampNs }
  else if latest.state = .valid then
    { latest with firstObservedNs := timestampNs, lastChangeNs := timestampNs }
  else { latest with firstObservedNs := 0, lastChangeNs := 0 }

/-- The decoding pass of `distribute_latest_sample`: signals of changed frames only. -/
def decodeChangedSignals (frames : Fin cat.frameCount → Frame) (changed : Fin cat.frameCount → Bool)
    (signals : Fin cat.signalCount → SignalValue) (i : Fin cat.signalCount) : SignalValue :=
  let definition := cat.signals i
  if changed definition.frameIndex then
    let frame := frames definition.frameIndex
    let raw := decodeSignalRaw definition frame.data
    { signals i with
      raw := raw
      physical := decodeSignalPhysical cat.float definition raw
      state := frame.state
      calibrated := definition.calibrated }
  else signals i

/-- The invalid-flag pass of `distribute_latest_sample`; it writes states and reads raw values. -/
def markInvalidSignals (changed : Fin cat.frameCount → Bool)
    (signals : Fin cat.signalCount → SignalValue) (i : Fin cat.signalCount) : SignalValue :=
  match (cat.signals i).invalidSignalIndex with
  | none => signals i
  | some j =>
    if (changed (cat.signals i).frameIndex || changed (cat.signals j).frameIndex) = true ∧
        (signals i).state = .valid ∧ (signals j).raw ≠ 0 then
      { signals i with state := .invalid }
    else signals i

/-- The signals that `distribute_latest_sample` computes for a sample. -/
def latestSignals (canonical : Canonical cat) (sample : Sample cat) (i : Fin cat.signalCount) :
    SignalValue :=
  let changed := fun f => frameDiffers (sample.frames f) (canonical.frames f)
  let decoded := decodeChangedSignals sample.frames changed canonical.signals
  reconcileSignalTimestamps (markInvalidSignals changed decoded i) (canonical.signals i)
    sample.timestampNs

/-- The canonical state after a sample without changed frames. -/
def Canonical.refresh (canonical : Canonical cat) (sample : Sample cat) : Canonical cat :=
  { canonical with
    frames := sample.frames
    sampleSequence := sample.sequence
    sampleTimestampNs := sample.timestampNs
    coalescedSamples :=
      canonical.coalescedSamples + (sample.sequence - canonical.sampleSequence - 1) }

/-- The canonical state after a sample with changed frames. -/
def Canonical.advance (canonical : Canonical cat) (sample : Sample cat) : Canonical cat :=
  { canonical.refresh sample with
    signals := latestSignals canonical sample
    changeSequence := canonical.changeSequence + 1 }

/-- `distribute_latest_sample` up to the fan-out. -/
def Canonical.consume (canonical : Canonical cat) (sample : Sample cat) : Canonical cat :=
  if sample.sequence ≤ canonical.sampleSequence then canonical
  else if differingFrames sample.frames canonical.frames = [] then canonical.refresh sample
  else canonical.advance sample

/-- The canonical part of `on_heartbeat`. -/
def Canonical.heartbeat (canonical : Canonical cat) (nowNs : ℕ) : Canonical cat :=
  { canonical with
    effectiveHzMillihz :=
      if canonical.heartbeatPreviousNs ≠ 0 ∧ nowNs > canonical.heartbeatPreviousNs then
        UInt32.ofNat
          (((canonical.sampleSequence - canonical.heartbeatPreviousSequence) * 1000000000000).toNat /
            (nowNs - canonical.heartbeatPreviousNs))
      else canonical.effectiveHzMillihz
    heartbeatPreviousNs := nowNs
    heartbeatPreviousSequence := canonical.sampleSequence }

/-- The signals that `main` starts with. -/
def initialSignals (frames : Fin cat.frameCount → Frame) (timestampNs : UInt64)
    (i : Fin cat.signalCount) : SignalValue :=
  let value := decodeSignals cat frames i
  if value.state = .valid then
    { value with firstObservedNs := timestampNs, lastChangeNs := timestampNs }
  else { value with firstObservedNs := 0, lastChangeNs := 0 }

/-- The canonical state that `main` builds from the first sample. -/
def canonicalInit (hz : UInt32) (sample : Sample cat) : Canonical cat :=
  { frames := sample.frames
    signals := initialSignals sample.frames sample.timestampNs
    sampleSequence := sample.sequence
    changeSequence := 0
    sampleTimestampNs := sample.timestampNs
    coalescedSamples := 0
    heartbeatPreviousSequence := 0
    heartbeatPreviousNs := 0
    effectiveHzMillihz := hz * 1000 }

/-- Two canonical states that sessions cannot tell apart. -/
structure Canonical.Same (a b : Canonical cat) : Prop where
  frames : a.frames = b.frames
  signals : a.signals = b.signals
  sampleSequence : a.sampleSequence = b.sampleSequence
  changeSequence : a.changeSequence = b.changeSequence
  sampleTimestampNs : a.sampleTimestampNs = b.sampleTimestampNs

/-- A canonical state has its own content. -/
theorem Canonical.Same.refl (canonical : Canonical cat) : canonical.Same canonical :=
  ⟨rfl, rfl, rfl, rfl, rfl⟩

/-- A heartbeat does not change the content. -/
theorem Canonical.heartbeat_same (canonical : Canonical cat) (nowNs : ℕ) :
    canonical.Same (canonical.heartbeat nowNs) :=
  ⟨rfl, rfl, rfl, rfl, rfl⟩

/-- Frames do not differ if they have the same state and the same bytes. -/
@[simp] theorem frameDiffers_eq_false (a b : Frame) :
    frameDiffers a b = false ↔ a.state = b.state ∧ a.data = b.data := by
  simp [frameDiffers]

/-- The frames that are listed are those that differ. -/
@[simp] theorem mem_differingFrames (new old : Fin cat.frameCount → Frame)
    (i : Fin cat.frameCount) :
    i ∈ differingFrames new old ↔ frameDiffers (new i) (old i) = true := by
  simp [differingFrames]

/-- The signals that are listed are those that differ. -/
@[simp] theorem mem_differingSignals (new old : Fin cat.signalCount → SignalValue)
    (i : Fin cat.signalCount) :
    i ∈ differingSignals new old ↔ signalDiffers (new i) (old i) = true := by
  simp [differingSignals]

/-- Without a differing frame every frame keeps its state and bytes. -/
theorem frameDiffers_of_differingFrames_nil {new old : Fin cat.frameCount → Frame}
    (h : differingFrames new old = []) (i : Fin cat.frameCount) :
    frameDiffers (new i) (old i) = false := by
  have hmem : i ∉ differingFrames new old := by simp [h]
  simpa using hmem

/-- What consuming a sample can do. -/
theorem Canonical.consume_cases (canonical : Canonical cat) (sample : Sample cat) :
    (sample.sequence ≤ canonical.sampleSequence ∧ canonical.consume sample = canonical) ∨
    (¬ sample.sequence ≤ canonical.sampleSequence ∧
      differingFrames sample.frames canonical.frames = [] ∧
      canonical.consume sample = canonical.refresh sample) ∨
    (¬ sample.sequence ≤ canonical.sampleSequence ∧
      differingFrames sample.frames canonical.frames ≠ [] ∧
      canonical.consume sample = canonical.advance sample) := by
  unfold consume
  split
  · exact Or.inl ⟨‹_›, rfl⟩
  · split
    · exact Or.inr (Or.inl ⟨‹_›, ‹_›, rfl⟩)
    · exact Or.inr (Or.inr ⟨‹_›, ‹_›, rfl⟩)

end Roadcast
