import Roadcast.Daemon.Stable

/-!
# Records that decoders accept

Every frame of the canonical state carries the CAN ID of its index and an observation state that
frames may have, and every signal the physical value and the calibration flag that belong to its raw
value. So frame and signal records survive the wire unchanged, and two signal records that the
daemon's comparison cannot tell apart are equal, although it looks at neither the physical value nor
the calibration flag.
-/

namespace Roadcast

variable {cat : Catalog} {config : Config cat}

/-- A record that decoding the signal of an index can produce. -/
def SignalConsistent (i : Fin cat.signalCount) (value : SignalValue) : Prop :=
  value.physical = decodeSignalPhysical cat.float (cat.signals i) value.raw ∧
    value.calibrated = (cat.signals i).calibrated

/-- The compared fields determine a consistent record. -/
theorem SignalConsistent.eq_of_same {i : Fin cat.signalCount} {a b : SignalValue}
    (ha : SignalConsistent i a) (hb : SignalConsistent i b) (hsame : signalDiffers a b = false) :
    a = b := by
  simp only [signalDiffers, Bool.or_eq_false_iff, decide_eq_false_iff_not, not_not] at hsame
  obtain ⟨⟨⟨hraw, hstate⟩, hfirst⟩, hlast⟩ := hsame
  have hphysical : a.physical = b.physical := by rw [ha.1, hb.1, hraw]
  have hcalibrated : a.calibrated = b.calibrated := ha.2.trans hb.2.symm
  cases a
  cases b
  simp_all

/-- A consistent record arrives as it was sent. -/
theorem SignalConsistent.normalize_eq {i : Fin cat.signalCount} {value : SignalValue}
    (h : SignalConsistent i value) (index : UInt32) :
    SignalUpdate.normalize ⟨index, value⟩ = ⟨index, value⟩ := by
  refine SignalUpdate.normalize_eq _ ?_
  rw [h.2]
  exact cat.calibrated_le i

section Decoding

variable {sampleSequence : UInt64} {startIndex : UInt32} {payload : List UInt8}

/-- A batch of catalog frames arrives as it was sent. -/
theorem decodeFrameBatch_of_indices (cap : ℕ) {indices : List (Fin cat.frameCount)}
    {frames : Fin cat.frameCount → Frame} (hframes : CatalogFrames frames)
    (hpayload : encodeFrameBatch clientPayloadCap sampleSequence cat.frameCountWord startIndex
      (indices.map frames) = some payload) (hcap : indices.length ≤ cap)
    (hstart : startIndexAllowed cat.frameCountWord startIndex indices.length = true) :
    decodeFrameBatch payload cap =
      some ⟨sampleSequence, cat.frameCountWord, startIndex, indices.map frames⟩ := by
  refine decodeFrameBatch_encode _ _ _ _ _ _ _ hpayload ?_ ?_ ?_
  · intro frame hframe
    obtain ⟨i, -, rfl⟩ := List.mem_map.mp hframe
    exact (hframes i).2
  · rw [List.length_map]
    exact hcap
  · rw [List.length_map]
    exact hstart

/-- A batch of consistent signals arrives as it was sent. -/
theorem decodeSignalBatch_of_indices (cap : ℕ) {indices : List (Fin cat.signalCount)}
    {signals : Fin cat.signalCount → SignalValue} (hsignals : ∀ i, SignalConsistent i (signals i))
    (hpayload : encodeSignalBatch clientPayloadCap sampleSequence cat.signalCountWord startIndex
      (indices.map (signalUpdate signals)) = some payload) (hcap : indices.length ≤ cap)
    (hstart : startIndexAllowed cat.signalCountWord startIndex indices.length = true) :
    decodeSignalBatch payload cap =
      some ⟨sampleSequence, cat.signalCountWord, startIndex,
        indices.map (signalUpdate signals)⟩ := by
  have hdecode := decodeSignalBatch_encode _ cap _ _ _ _ _ hpayload (by rwa [List.length_map])
    (by rwa [List.length_map])
  rw [hdecode, List.map_map]
  refine congrArg (fun records => some (Batch.mk _ _ _ records)) (List.map_congr_left ?_)
  intro i _
  exact (hsignals i).normalize_eq _

/-- The encoder bounds the records of a message. -/
theorem encodeFrameBatch_count {totalCount : UInt32} {frames : List Frame}
    (h : encodeFrameBatch clientPayloadCap sampleSequence totalCount startIndex frames =
      some payload) : frames.length ≤ framesPerMessage := by
  have hlength := encodeBatch_length _ _ _ _ _ _ _ _ (fun frame _ => encodeFrame_length frame) h
  simp only [clientPayloadCap, clientMessageCap, headerSize, batchPrefixSize, frameWireSize] at hlength
  simp only [framesPerMessage, clientMessageCap, headerSize, batchPrefixSize, frameWireSize]
  omega

/-- A batch of signals that was encoded has no more of them than a message holds. -/
theorem encodeSignalBatch_count {totalCount : UInt32} {updates : List SignalUpdate}
    (h : encodeSignalBatch clientPayloadCap sampleSequence totalCount startIndex updates =
      some payload) : updates.length ≤ signalsPerMessage := by
  have hlength := encodeBatch_length _ _ _ _ _ _ _ _ (fun update _ => encodeSignal_length update) h
  simp only [clientPayloadCap, clientMessageCap, headerSize, batchPrefixSize, signalWireSize] at hlength
  simp only [signalsPerMessage, clientMessageCap, headerSize, batchPrefixSize, signalWireSize]
  omega

/-- An update has the start index that stands for no index. -/
theorem startIndexAllowed_delta (totalCount : UInt32) (count : ℕ) :
    startIndexAllowed totalCount uint32Max count = true := by
  simp [startIndexAllowed]

/-- The indices of a page lie inside the catalog. -/
theorem startIndexAllowed_page (n : ℕ) (totalCount startIndex : UInt32) (size : ℕ)
    (htotal : totalCount.toNat = n) (hstart : startIndex.toNat ≤ n) :
    startIndexAllowed totalCount startIndex
      (((List.finRange n).drop startIndex.toNat).take size).length = true := by
  simp only [startIndexAllowed, htotal, List.length_take, List.length_drop, List.length_finRange,
    Bool.or_eq_true, Bool.and_eq_true, decide_eq_true_eq]
  omega

end Decoding

/-- What holds of the canonical state between events. -/
structure Canonical.Sound (canonical : Canonical cat) : Prop where
  frames : CatalogFrames canonical.frames
  signals : ∀ i, SignalConsistent i (canonical.signals i)

/-- A decoded signal has the physical value of its raw one, and the calibration of its table. -/
theorem decodeSignals_consistent (frames : Fin cat.frameCount → Frame) (i : Fin cat.signalCount) :
    SignalConsistent i (decodeSignals cat frames i) := by
  refine ⟨?_, decodeSignals_calibrated cat frames i⟩
  rw [decodeSignals_physical, decodeSignals_raw]

/-- The first canonical state is sound. -/
theorem canonicalInit_sound (hz : UInt32) (sample : Sample cat)
    (hframes : CatalogFrames sample.frames) : (canonicalInit hz sample).Sound := by
  refine ⟨hframes, fun i => ?_⟩
  have hdecoded := decodeSignals_consistent sample.frames i
  simp only [canonicalInit, initialSignals]
  split
  · exact hdecoded
  · exact hdecoded

/-- The passes over a sample write the physical value together with the raw value. -/
theorem latestSignals_consistent {canonical : Canonical cat} (h : canonical.Sound)
    (sample : Sample cat) (i : Fin cat.signalCount) :
    SignalConsistent i (latestSignals canonical sample i) := by
  unfold latestSignals
  dsimp only
  generalize (fun f => frameDiffers (sample.frames f) (canonical.frames f)) = changed
  have hdecoded : SignalConsistent i
      (decodeChangedSignals sample.frames changed canonical.signals i) := by
    unfold decodeChangedSignals
    dsimp only
    split
    · exact ⟨rfl, rfl⟩
    · exact h.signals i
  have hmarked : SignalConsistent i (markInvalidSignals changed
      (decodeChangedSignals sample.frames changed canonical.signals) i) := by
    unfold markInvalidSignals
    split
    · exact hdecoded
    · split
      · exact hdecoded
      · exact hdecoded
  generalize markInvalidSignals changed
    (decodeChangedSignals sample.frames changed canonical.signals) i = latest at hmarked
  unfold reconcileSignalTimestamps
  split
  · split
    · exact ⟨(h.signals i).1, hmarked.2⟩
    · exact hmarked
  · split
    · exact hmarked
    · split
      · exact hmarked
      · exact hmarked

/-- A sample keeps the canonical state sound. -/
theorem Canonical.Sound.consume {canonical : Canonical cat} (h : canonical.Sound)
    (sample : Sample cat) (hframes : CatalogFrames sample.frames) :
    (canonical.consume sample).Sound := by
  rcases canonical.consume_cases sample with ⟨-, hsame⟩ | ⟨-, -, hrefresh⟩ | ⟨-, -, hadvance⟩
  · rw [hsame]
    exact h
  · rw [hrefresh]
    exact ⟨hframes, h.signals⟩
  · rw [hadvance]
    exact ⟨hframes, latestSignals_consistent h sample⟩

/-- No frame differs from itself. -/
theorem differingFrames_self (frames : Fin cat.frameCount → Frame) :
    differingFrames frames frames = [] := by
  simp [differingFrames]

/-- No signal differs from itself. -/
theorem differingSignals_self (signals : Fin cat.signalCount → SignalValue) :
    differingSignals signals signals = [] := by
  simp [differingSignals, signalDiffers]

/-- The frames distributed are those whose canonical state or bytes the sample changes. -/
theorem Canonical.delta_frames (before : Canonical cat) (sample : Sample cat) :
    (before.delta sample).1 = differingFrames (before.consume sample).frames before.frames := by
  unfold delta consume
  split
  · exact (differingFrames_self _).symm
  · split
    · rename_i hnone
      exact hnone.symm
    · rfl

/-- The signals distributed are those whose canonical value the sample changes. -/
theorem Canonical.delta_signals (before : Canonical cat) (sample : Sample cat) :
    (before.delta sample).2 = differingSignals (before.consume sample).signals before.signals := by
  unfold delta consume
  split
  · exact (differingSignals_self _).symm
  · split
    · exact (differingSignals_self _).symm
    · rfl

/-- A frame that is not distributed keeps its state and bytes. -/
theorem frameDiffers_of_notMem_delta {before : Canonical cat} {sample : Sample cat}
    {i : Fin cat.frameCount} (h : i ∉ (before.delta sample).1) :
    frameDiffers ((before.consume sample).frames i) (before.frames i) = false := by
  rw [before.delta_frames sample] at h
  exact Bool.eq_false_iff.mpr (mt (mem_differingFrames _ _ i).mpr h)

/-- A signal that is not distributed stays as it is. -/
theorem signals_of_notMem_delta {before : Canonical cat} {sample : Sample cat}
    (hbefore : before.Sound) (hafter : (before.consume sample).Sound) {i : Fin cat.signalCount}
    (h : i ∉ (before.delta sample).2) :
    (before.consume sample).signals i = before.signals i := by
  rw [before.delta_signals sample] at h
  refine (hafter.signals i).eq_of_same (hbefore.signals i) ?_
  exact Bool.eq_false_iff.mpr (mt (mem_differingSignals _ _ i).mpr h)

/-- What holds of the sampler and the canonical state between events. -/
structure Daemon.Sound (daemon : Daemon cat) : Prop where
  sampler : daemon.sampler.Sound
  canonical : daemon.canonical.Sound

/-- The daemon starts sound. -/
theorem daemonInit_sound (config : Config cat) (fake : Option Bool) (tick : Tick cat) :
    (daemonInit config fake tick).Sound := by
  have hsampler := samplerInit_sound fake tick
  exact ⟨hsampler, canonicalInit_sound config.hz _ hsampler.catalogFrames⟩

/-- Replacing sessions leaves the sampler and the canonical state alone. -/
theorem Daemon.Sound.of_same {daemon daemon' : Daemon cat} (h : daemon.Sound)
    (hsampler : daemon'.sampler = daemon.sampler) (hcanonical : daemon'.canonical = daemon.canonical) :
    daemon'.Sound := by
  refine ⟨?_, ?_⟩
  · rw [hsampler]
    exact h.sampler
  · rw [hcanonical]
    exact h.canonical

/-- Every event keeps the daemon sound. -/
theorem step_sound (config : Config cat) (event : Event cat) {daemon : Daemon cat}
    (h : daemon.Sound) : (step config daemon event).Sound := by
  cases event with
  | tick tick => exact ⟨samplerTick_sound daemon.sampler tick h.sampler, h.canonical⟩
  | sampleNotification env => exact ⟨h.sampler, h.canonical.consume _ h.sampler.catalogFrames⟩
  | heartbeat nowNs env => exact ⟨h.sampler, h.canonical.frames, h.canonical.signals⟩
  | connection connection =>
    simp only [step, onConnection]
    split
    · exact h
    · split
      · exact h
      · exact h.of_same rfl rfl
  | request session env request =>
    simp only [step]
    split
    · exact h
    · exact h.of_same rfl rfl
  | disconnect session => exact h.of_same rfl rfl
  | writeDone session env slot failed =>
    simp only [step]
    split
    · exact h
    · exact h.of_same rfl rfl
  | closed session =>
    simp only [step]
    split
    · exact h
    · exact h.of_same rfl rfl
  | shutdown => exact h.of_same rfl rfl

/-- What the frame comparison looks at. -/
def FrameMatches (a b : Frame) : Prop :=
  a.state = b.state ∧ a.data = b.data

/-- A frame that does not differ from the copy is matched as well. -/
theorem FrameMatches.of_same {a copy current : Frame} (h : FrameMatches a copy)
    (hsame : frameDiffers current copy = false) : FrameMatches a current := by
  obtain ⟨hstate, hdata⟩ := (frameDiffers_eq_false _ _).mp hsame
  exact ⟨h.1.trans hstate.symm, h.2.trans hdata.symm⟩

/-- The session's copy consists of records that decoders accept. -/
structure CopySound (client : Client cat) : Prop where
  frames : CatalogFrames client.snapshotFrames
  signals : ∀ i, SignalConsistent i (client.snapshotSignals i)

/-- A signal that a round does not list is that of the copy. -/
theorem unlisted_signal {canonical : Canonical cat} {client : Client cat}
    (hsound : canonical.Sound) (hcopy : CopySound client)
    {i : Fin cat.signalCount}
    (h : i ∉ differingSignals canonical.signals client.snapshotSignals) {a : SignalValue}
    (ha : a = client.snapshotSignals i) : a = canonical.signals i := by
  rw [mem_differingSignals, Bool.not_eq_true] at h
  rw [ha]
  exact ((hsound.signals i).eq_of_same (hcopy.signals i) h).symm

/-- The next piece of a list and what remains after it. -/
theorem unsent_split {A : Type*} (listed : List A) (offset size : ℕ) :
    listed.drop offset = (listed.drop offset).take size ++
      listed.drop (offset + ((listed.drop offset).take size).length) := by
  rw [← List.drop_drop]
  exact (List.prefix_iff_eq_append.mp (List.take_prefix _ _)).symm

end Roadcast
