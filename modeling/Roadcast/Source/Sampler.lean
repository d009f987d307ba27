import Roadcast.Catalog.Decode
import Roadcast.Source.Session

/-!
# The sampler

`merge_sampled_frames`, `sampler_init` and one iteration of `sampler_thread_main`. The thread
publishes its working frames after every tick, so the working and the published frames agree
between ticks. The local `sequence` of the thread is one more than the last published one.

In fake mode the bytes of a frame come from the host representation of a 64-bit counter; the
supported targets are little-endian.
-/

namespace Roadcast

variable {cat : Catalog}

/-- `merge_sampled_frames` for one frame. -/
def mergeSampledFrame (destination sampled : Frame) (timestampNs : UInt64) (initializing : Bool) :
    Frame :=
  if initializing then { sampled with firstObservedNs := 0, lastChangeNs := 0 }
  else if sampled.state = .unavailable then { destination with state := .unavailable }
  else
    let merged :=
      if destination.data ≠ sampled.data then
        { destination with
          data := sampled.data
          firstObservedNs := if destination.firstObservedNs = 0 then timestampNs
            else destination.firstObservedNs
          lastChangeNs := timestampNs }
      else destination
    { merged with
      canId := sampled.canId
      state := if merged.firstObservedNs ≠ 0 then .valid else .neverObserved }

/-- `merge_sampled_frames`. -/
def mergeSampledFrames (destination sampled : Fin cat.frameCount → Frame) (timestampNs : UInt64)
    (initializing : Bool) (i : Fin cat.frameCount) : Frame :=
  mergeSampledFrame (destination i) (sampled i) timestampNs initializing

/-- The eight bytes of a counter in memory. -/
def hostBytes (value : UInt64) : FrameData :=
  Vector.ofFn fun k => (value >>> (8 * k.val).toUInt64).toUInt8

/-- `initialize_fake_frames`. -/
def initializeFakeFrames (i : Fin cat.frameCount) : Frame :=
  { zeroFrame with canId := cat.canIds i, state := .neverObserved }

/-- `update_fake_frames`. -/
def updateFakeFrames (frames : Fin cat.frameCount → Frame) (sequence : UInt64) (dense : Bool)
    (i : Fin cat.frameCount) : Frame :=
  { frames i with
    data := hostBytes (if dense then (if sequence &&& 1 ≠ 0 then 0xFFFFFFFFFFFFFFFF else 0)
      else sequence + UInt64.ofNat i.val) }

variable (cat) in
/-- `sampler_t`; `fake` is `none` for the VHAL source and tells otherwise whether the fake source is
dense. -/
structure Sampler where
  fake : Option Bool
  source : SourceSession cat
  working : Fin cat.frameCount → Frame
  published : Fin cat.frameCount → Frame
  publishedSequence : UInt64
  publishedTimestampNs : UInt64
  sourceState : SourceState

variable (cat) in
/-- What the outside contributes to one tick: the source outcomes and the two clock readings. -/
structure Tick where
  attempt : SourceAttempt cat
  nowNs : ℕ
  timestampNs : UInt64

/-- The source state stored after a read. -/
def ReadResult.sourceState : ReadResult → SourceState
  | waiting | failed => .unavailable
  | fallback => .degraded
  | vectored => .available

/-- `sampler_init`. -/
def samplerInit (fake : Option Bool) (tick : Tick cat) : Sampler cat :=
  let (source, result, sampled) :=
    match fake with
    | some _ => (sourceSessionInit, ReadResult.vectored, initializeFakeFrames)
    | none => sourceSessionRead sourceSessionInit tick.attempt tick.nowNs
  let working := mergeSampledFrames sampled sampled tick.timestampNs true
  { fake := fake
    source := source
    working := working
    published := working
    publishedSequence := 0
    publishedTimestampNs := tick.timestampNs
    sourceState := result.sourceState }

/-- One iteration of `sampler_thread_main`, up to and including `sampler_publish`. -/
def samplerTick (sampler : Sampler cat) (tick : Tick cat) : Sampler cat :=
  let sequence := sampler.publishedSequence + 1
  let (source, result, sampled, newSource) :=
    match sampler.fake with
    | some dense => (sampler.source, ReadResult.vectored,
        updateFakeFrames initializeFakeFrames sequence dense, false)
    | none =>
      let (source, result, sampled) := sourceSessionRead sampler.source tick.attempt tick.nowNs
      (source, result, sampled,
        result.succeeded && decide (sampler.source.generation ≠ source.generation))
  let working := mergeSampledFrames sampler.working sampled tick.timestampNs newSource
  { sampler with
    source := source
    working := working
    published := working
    publishedSequence := sequence
    publishedTimestampNs := tick.timestampNs
    sourceState := result.sourceState }

/-- Every tick publishes one sample. -/
theorem samplerTick_publishedSequence (sampler : Sampler cat) (tick : Tick cat) :
    (samplerTick sampler tick).publishedSequence = sampler.publishedSequence + 1 := by
  unfold samplerTick
  cases sampler.fake with
  | none => rfl
  | some dense => rfl

/-- Frames as the daemon handles them: catalog CAN IDs and raw-frame states. -/
def CatalogFrames (frames : Fin cat.frameCount → Frame) : Prop :=
  ∀ i, (frames i).canId = cat.canIds i ∧ (frames i).state ≠ .invalid

/-- Unavailable frames have the CAN IDs of the catalog. -/
theorem markUnavailable_catalogFrames : CatalogFrames (@markUnavailable cat) :=
  fun _ => ⟨rfl, by simp [markUnavailable]⟩

/-- The frames of a process have the CAN IDs of the catalog. -/
theorem vhalFrames_catalogFrames (resolved : Fin cat.frameCount → Bool)
    (bytes : Fin cat.frameCount → FrameData) : CatalogFrames (vhalFrames resolved bytes) := by
  intro i
  refine ⟨rfl, ?_⟩
  simp only [vhalFrames]
  split <;> simp

/-- The first fake frames have the CAN IDs of the catalog. -/
theorem initializeFakeFrames_catalogFrames : CatalogFrames (@initializeFakeFrames cat) :=
  fun _ => ⟨rfl, by simp [initializeFakeFrames]⟩

/-- Updated fake frames keep the CAN IDs of the catalog. -/
theorem updateFakeFrames_catalogFrames (frames : Fin cat.frameCount → Frame) (sequence : UInt64)
    (dense : Bool) (h : CatalogFrames frames) :
    CatalogFrames (updateFakeFrames frames sequence dense) :=
  fun i => h i

/-- Every read hands the merge catalog frames, whatever its outcome. -/
theorem sourceSessionRead_catalogFrames (session : SourceSession cat) (attempt : SourceAttempt cat)
    (nowNs : ℕ) : CatalogFrames (sourceSessionRead session attempt nowNs).2.2 := by
  rcases sourceSessionRead_cases session attempt nowNs with hfail | ⟨⟨-, -, bytes, hread⟩, -⟩
  · rw [hfail.2.1]
    exact markUnavailable_catalogFrames
  · rw [hread]
    exact vhalFrames_catalogFrames _ bytes

/-- Merging keeps catalog frames. -/
theorem mergeSampledFrames_catalogFrames (destination sampled : Fin cat.frameCount → Frame)
    (timestampNs : UInt64) (initializing : Bool) (hdestination : CatalogFrames destination)
    (hsampled : CatalogFrames sampled) :
    CatalogFrames (mergeSampledFrames destination sampled timestampNs initializing) := by
  intro i
  unfold mergeSampledFrames mergeSampledFrame
  split
  · exact hsampled i
  · split
    · exact ⟨(hdestination i).1, by simp⟩
    · refine ⟨(hsampled i).1, ?_⟩
      generalize (if (destination i).data ≠ (sampled i).data then _ else destination i) = merged
      dsimp only
      split <;> simp

/-- Between ticks the sampler has published its working frames, all of them catalog frames. -/
structure Sampler.Sound (sampler : Sampler cat) : Prop where
  published_eq : sampler.published = sampler.working
  catalogFrames : CatalogFrames sampler.published

/-- The sampler starts sound. -/
theorem samplerInit_sound (fake : Option Bool) (tick : Tick cat) : (samplerInit fake tick).Sound := by
  cases fake with
  | some dense =>
    refine ⟨rfl, ?_⟩
    exact mergeSampledFrames_catalogFrames _ _ _ _ initializeFakeFrames_catalogFrames
      initializeFakeFrames_catalogFrames
  | none =>
    refine ⟨rfl, ?_⟩
    have h := sourceSessionRead_catalogFrames sourceSessionInit tick.attempt tick.nowNs
    exact mergeSampledFrames_catalogFrames _ _ _ _ h h

/-- Every tick keeps the sampler sound. -/
theorem samplerTick_sound (sampler : Sampler cat) (tick : Tick cat) (h : sampler.Sound) :
    (samplerTick sampler tick).Sound := by
  have hworking : CatalogFrames sampler.working := h.published_eq ▸ h.catalogFrames
  refine ⟨rfl, ?_⟩
  unfold samplerTick
  cases sampler.fake with
  | some dense =>
    exact mergeSampledFrames_catalogFrames _ _ _ _ hworking
      (updateFakeFrames_catalogFrames _ _ dense initializeFakeFrames_catalogFrames)
  | none =>
    exact mergeSampledFrames_catalogFrames _ _ _ _ hworking
      (sourceSessionRead_catalogFrames sampler.source tick.attempt tick.nowNs)

/-- The data of a frame that is zero behind its first byte. -/
def leadingByte (byte : UInt8) : Vector UInt8 8 := #v[byte, 0, 0, 0, 0, 0, 0, 0]

/-- A tick whose read delivers one byte, on the catalog with one frame. -/
def singleTick (byte : UInt8) (timestampNs : UInt64) : Tick singleCatalog :=
  { attempt := ⟨some fun _ => true, some (false, fun _ => leadingByte byte)⟩
    nowNs := 0
    timestampNs := timestampNs }

end Roadcast
