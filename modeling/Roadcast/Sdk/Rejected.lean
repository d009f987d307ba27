import Roadcast.Sdk.Handling
import Roadcast.Sdk.Resync

/-!
# Rejected live batches

`apply_live_frame_batch` and `apply_live_signal_batch` decode a whole batch and check its metadata
before they take the cache lock, and copy the sequences back only on success. The loop between these
steps checks each record right before it writes it into the arrays of the readers, so a batch that is
rejected at some record has already replaced the entries of the records before it.
-/

namespace Roadcast

namespace Sdk

/-- The batch that `decode_frame_batch` hands to the loop. -/
def liveFrames (sdk : Sdk) (message : Message) : Option (Batch Frame) :=
  (decodeFrameBatch message.payload sdk.frameScratchCapacity).filter fun batch =>
    batch.totalCount = sdk.welcome.frameCount ∧ batch.startIndex = uint32Max

/-- The batch that `decode_signal_batch` hands to the loop. -/
def liveSignals (sdk : Sdk) (message : Message) : Option (Batch SignalUpdate) :=
  (decodeSignalBatch message.payload sdk.signalScratchCapacity).filter fun batch =>
    batch.totalCount = sdk.welcome.signalCount ∧ batch.startIndex = uint32Max

/-- The last record that the loop writes to an index, up to the first refused one, is the cached
frame. -/
def RepeatsFrames (sdk : Sdk) (message : Message) : Prop :=
  ∀ batch ∈ sdk.liveFrames message, ∀ index frame,
    (Writes.log (framePlace sdk.canIdToIndex sdk.welcome.frameCount.toNat) batch.records).lookup
      index = some frame → sdk.cache.frames index = frame

/-- The last record that the loop writes to an index, up to the first refused one, is the cached
value. -/
def RepeatsSignals (sdk : Sdk) (message : Message) : Prop :=
  ∀ batch ∈ sdk.liveSignals message, ∀ index value,
    (Writes.log (signalPlace sdk.welcome.signalCount.toNat) batch.records).lookup index =
      some value → sdk.cache.signals index = value

/-- A live batch: the cache that it meets, the records that reach the loop, where the loop writes each
of them, and the cache with other cells, before and after the sequences are copied back. -/
structure LiveBatch (B V : Type) where
  cache : Synchronization
  decoded : Option (Batch B)
  place : B → Option (ℕ × V)
  cells : Synchronization → ℕ → V
  write : (ℕ → V) → Synchronization
  accept : Batch B → (ℕ → V) → Synchronization
  write_cells : write (cells cache) = cache
  cells_write : ∀ written, cells (write written) = written
  cells_accept : ∀ batch written, cells (accept batch written) = written

/-- The live batch of frames in a message. -/
def frameBatch (sdk : Sdk) (message : Message) : LiveBatch Frame Frame where
  cache := sdk.cache
  decoded := sdk.liveFrames message
  place := framePlace sdk.canIdToIndex sdk.welcome.frameCount.toNat
  cells cache := cache.frames
  write frames := { sdk.cache with frames := frames }
  accept batch frames := { sdk.cache with
    frames := frames
    sampleSequence := batch.sampleSequence
    changeSequence := message.header.sequence
    sampleTimestampNs := message.header.timestampNs }
  write_cells := rfl
  cells_write _ := rfl
  cells_accept _ _ := rfl

/-- The live batch of signals in a message. -/
def signalBatch (sdk : Sdk) (message : Message) : LiveBatch SignalUpdate SignalValue where
  cache := sdk.cache
  decoded := sdk.liveSignals message
  place := signalPlace sdk.welcome.signalCount.toNat
  cells cache := cache.signals
  write signals := { sdk.cache with signals := signals }
  accept batch signals := { sdk.cache with
    signals := signals
    sampleSequence := batch.sampleSequence
    changeSequence := message.header.sequence
    sampleTimestampNs := message.header.timestampNs }
  write_cells := rfl
  cells_write _ := rfl
  cells_accept _ _ := rfl

namespace LiveBatch

variable {B V : Type} (live : LiveBatch B V)

/-- The loop of a live batch on the cells of the cache. -/
def loop (batch : Batch B) : Bool × (ℕ → V) :=
  Writes.writeAll live.place batch.records (live.cells live.cache)

/-- The end of a live batch whose records reached the loop. -/
def concluded (batch : Batch B) : Bool × Synchronization :=
  if (live.loop batch).1 then (true, live.accept batch (live.loop batch).2)
  else (false, live.write (live.loop batch).2)

/-- Whether a live batch succeeds, and the cache it leaves. -/
def outcome : Bool × Synchronization := live.decoded.elim (false, live.cache) live.concluded

/-- The check of the metadata in front of a function of the batch, as the branch of the source. -/
theorem elim_metadata {A : Type} (totalCount : UInt32) (batch : Batch B) (refused : A)
    (body : Batch B → A) :
    (if batch.totalCount ≠ totalCount ∨ batch.startIndex ≠ uint32Max then refused
      else body batch) =
      ((some batch).filter fun batch => batch.totalCount = totalCount ∧
        batch.startIndex = uint32Max).elim refused body := by
  rw [filter_metadata]
  split
  · rfl
  · rfl

/-- The two models of a live batch: one without the cache of a rejected batch, one with it. -/
theorem elim_accept {apply : List B → (ℕ → V) → Option (ℕ → V)}
    (happly : ∀ records cells, apply records cells =
      if (Writes.writeAll live.place records cells).1 then
        some (Writes.writeAll live.place records cells).2 else none) :
    (live.decoded.elim none fun batch =>
      (apply batch.records (live.cells live.cache)).map (live.accept batch)) =
      if live.outcome.1 then some live.outcome.2 else none := by
  unfold outcome
  cases live.decoded with
  | none => rfl
  | some batch =>
    rw [Option.elim_some, Option.elim_some, happly, concluded]
    change ((if (live.loop batch).1 then some (live.loop batch).2 else none).map _) = _
    cases (live.loop batch).1 with
    | true => rfl
    | false => rfl

/-- A rejected batch leaves the cache with the cells that the loop has written, and they are the
cached ones if and only if every last write repeats what was there. -/
theorem rejected_iff (h : live.outcome.1 = false) :
    (∃ written, live.outcome.2 = live.write written) ∧
      (live.outcome.2 = live.cache ↔ ∀ batch ∈ live.decoded, ∀ index value,
        (Writes.log live.place batch.records).lookup index = some value →
          live.cells live.cache index = value) := by
  unfold outcome at h ⊢
  cases hdecoded : live.decoded with
  | none => exact ⟨⟨_, live.write_cells.symm⟩, iff_of_true rfl nofun⟩
  | some batch =>
    rw [hdecoded, Option.elim_some, concluded] at h
    rw [Option.elim_some, concluded]
    split at h
    · contradiction
    rename_i hrefused
    rw [if_neg hrefused]
    refine ⟨⟨_, rfl⟩, ?_⟩
    simp only [Option.mem_def, Option.some.injEq, forall_eq']
    rw [← Writes.writeAll_eq_iff, ← loop]
    constructor
    · intro hcache
      rw [← live.cells_write (live.loop batch).2, hcache]
    · intro hcells
      rw [hcells]
      exact live.write_cells

/-- The cells that a live batch leaves are those of its loop, whether it succeeds or not. -/
theorem cells_outcome {applied : Bool} {array : List V} {n : ℕ}
    (h : match live.decoded with
      | none => applied = false ∧ array = (List.range n).map (live.cells live.cache)
      | some batch => (applied, array) =
          ((live.loop batch).1, (List.range n).map (live.loop batch).2)) :
    applied = live.outcome.1 ∧ array = (List.range n).map (live.cells live.outcome.2) := by
  unfold outcome
  cases hdecoded : live.decoded with
  | none =>
    rw [hdecoded] at h
    exact h
  | some batch =>
    rw [hdecoded] at h
    obtain ⟨rfl, rfl⟩ := Prod.mk.inj h
    rw [Option.elim_some, concluded]
    split
    · rename_i hall
      rw [live.cells_accept]
      exact ⟨hall, rfl⟩
    · rename_i hrefused
      rw [live.cells_write]
      exact ⟨Bool.eq_false_iff.mpr hrefused, rfl⟩

end LiveBatch

section Batches

variable (sdk : Sdk) (message : Message)

/-- `apply_live_frame_batch` is a live batch of frames. -/
theorem applyLiveFrameBatch_eq :
    sdk.applyLiveFrameBatch message = (sdk.frameBatch message).outcome := by
  change _ = (sdk.liveFrames message).elim (false, sdk.cache) (sdk.frameBatch message).concluded
  unfold applyLiveFrameBatch liveFrames
  cases decodeFrameBatch message.payload sdk.frameScratchCapacity with
  | none => rfl
  | some batch =>
    rw [← LiveBatch.elim_metadata]
    rfl

/-- `apply_live_signal_batch` is a live batch of signals. -/
theorem applyLiveSignalBatch_eq :
    sdk.applyLiveSignalBatch message = (sdk.signalBatch message).outcome := by
  change _ = (sdk.liveSignals message).elim (false, sdk.cache) (sdk.signalBatch message).concluded
  unfold applyLiveSignalBatch liveSignals
  cases decodeSignalBatch message.payload sdk.signalScratchCapacity with
  | none => rfl
  | some batch =>
    rw [← LiveBatch.elim_metadata]
    rfl

/-- `applyFrameBatch` on the cache is `apply_live_frame_batch` without the cache of a rejected
batch. -/
theorem applyFrameBatch_live : sdk.applyFrameBatch sdk.cache message =
    if (sdk.applyLiveFrameBatch message).1 then some (sdk.applyLiveFrameBatch message).2
    else none := by
  rw [applyLiveFrameBatch_eq, ← (sdk.frameBatch message).elim_accept (applyFrames_eq _ _)]
  change _ = (sdk.liveFrames message).elim none _
  unfold applyFrameBatch liveFrames
  cases decodeFrameBatch message.payload sdk.frameScratchCapacity with
  | none => rfl
  | some batch =>
    rw [← LiveBatch.elim_metadata]
    rfl

/-- `applySignalBatch` on the cache is `apply_live_signal_batch` without the cache of a rejected
batch. -/
theorem applySignalBatch_live : sdk.applySignalBatch sdk.cache message =
    if (sdk.applyLiveSignalBatch message).1 then some (sdk.applyLiveSignalBatch message).2
    else none := by
  rw [applyLiveSignalBatch_eq, ← (sdk.signalBatch message).elim_accept (applySignals_eq _)]
  change _ = (sdk.liveSignals message).elim none _
  unfold applySignalBatch liveSignals
  cases decodeSignalBatch message.payload sdk.signalScratchCapacity with
  | none => rfl
  | some batch =>
    rw [← LiveBatch.elim_metadata]
    rfl

variable {sdk message}

/-- What readers see after a live batch, accepted or not, is what the batch function leaves. -/
theorem receive_liveBatch (hphase : sdk.phase = .live)
    (hheader : ¬(message.header.version ≠ protocolVersion ∨ message.header.flags ≠ 0 ∨
      message.header.payloadBytes.toNat > sdk.payloadCapacity)) :
    (MessageType.ofCode message.header.type = some .updateBatch →
      (sdk.receive message).cache = (sdk.applyLiveFrameBatch message).2) ∧
    (MessageType.ofCode message.header.type = some .signalUpdateBatch →
      (sdk.receive message).cache = (sdk.applyLiveSignalBatch message).2) := by
  unfold receive handle refuse
  rw [if_neg hheader, hphase]
  refine ⟨fun htype => ?_, fun htype => ?_⟩
  · rw [readLive, htype]
    dsimp only
    rw [applyFrameBatch_live]
    cases (sdk.applyLiveFrameBatch message).1 with
    | true => rfl
    | false => rfl
  · rw [readLive, htype]
    dsimp only
    rw [applySignalBatch_live]
    cases (sdk.applyLiveSignalBatch message).1 with
    | true => rfl
    | false => rfl

/-- A rejected batch of frames writes frames only, and none that differ if and only if its records up
to the refused one repeat the cache. -/
theorem applyLiveFrameBatch_rejected (h : (sdk.applyLiveFrameBatch message).1 = false) :
    (∃ frames, (sdk.applyLiveFrameBatch message).2 = { sdk.cache with frames := frames }) ∧
      ((sdk.applyLiveFrameBatch message).2 = sdk.cache ↔ sdk.RepeatsFrames message) := by
  rw [applyLiveFrameBatch_eq] at h ⊢
  exact (sdk.frameBatch message).rejected_iff h

/-- The same for a rejected batch of signals. -/
theorem applyLiveSignalBatch_rejected (h : (sdk.applyLiveSignalBatch message).1 = false) :
    (∃ signals, (sdk.applyLiveSignalBatch message).2 = { sdk.cache with signals := signals }) ∧
      ((sdk.applyLiveSignalBatch message).2 = sdk.cache ↔ sdk.RepeatsSignals message) := by
  rw [applyLiveSignalBatch_eq] at h ⊢
  exact (sdk.signalBatch message).rejected_iff h

end Batches

end Sdk

namespace SdkMemory

open Checked

variable {memory : SdkMemory} {sdk : Sdk} {message : Message}

/-- A live batch in the buffers: the array of the readers holds the cells that the batch leaves,
accepted or not. -/
theorem returns_liveRecords {B V : Type} (live : Sdk.LiveBatch B V) {size : ℕ}
    {read : List UInt8 → Option B} {apply : List B → ℕ → List V → Except Fault (Bool × List V)}
    {payload : List UInt8} {length : ℕ} {totalCount : UInt32} {scratch : List B} {capacity n : ℕ}
    {values : List V} (hread : ∀ record, read (record.take size) = read record)
    (hlength : length ≤ payload.length) (hscratch : scratch.length = capacity)
    (hvalues : values = (List.range n).map (live.cells live.cache))
    (hdecoded : ((decodeBatch size read (payload.take length) capacity).filter fun batch =>
      batch.totalCount = totalCount ∧ batch.startIndex = uint32Max) = live.decoded)
    (happly : ∀ decoded records : List B, StoredFrom 0 records decoded →
      Returns (apply decoded records.length values) (· =
        ((Writes.writeAll live.place records (live.cells live.cache)).1,
          (List.range n).map (Writes.writeAll live.place records (live.cells live.cache)).2))) :
    Returns (updateRecords size read apply payload length totalCount scratch capacity values)
      fun result => result.1.isSome = live.outcome.1 ∧
        result.2.2 = (List.range n).map (live.cells live.outcome.2) := by
  refine (returns_updateRecords_loop hread hlength hscratch happly).imp ?_
  rintro ⟨applied, scratch', array⟩ ⟨-, hloop⟩
  rw [hdecoded] at hloop
  refine live.cells_outcome ?_
  cases hlive : live.decoded with
  | none =>
    rw [hlive] at hloop
    exact ⟨by rw [hloop.1]; rfl, hloop.2.trans hvalues⟩
  | some batch =>
    rw [hlive] at hloop
    exact hloop.1

/-- The array of the readers holds the cached frames after a live batch, accepted or not. -/
theorem Content.returns_liveFrames (h : memory.Content sdk) (hholds : memory.Holds message) :
    Returns (memory.applyLiveFrameBatch message.header) fun result =>
      result.1 = (sdk.applyLiveFrameBatch message).1 ∧
        result.2.frames = (List.range sdk.welcome.frameCount.toNat).map
          (sdk.applyLiveFrameBatch message).2.frames := by
  rw [Sdk.applyLiveFrameBatch_eq]
  refine (returns_liveRecords (sdk.frameBatch message) decodeFrame_take hholds.length_le
    h.sized.frameScratch h.frames ?_ fun decoded records hrecords => ?_).bind fun _ hresult => .ok hresult
  · rw [hholds.bytes, h.welcome, h.frameScratch]
    rfl
  · rw [h.frames, h.table, h.welcome]
    exact returns_applyDecodedFrames decoded records sdk.canIdToIndex 0 hrecords sdk.cache.frames

/-- The array of the readers holds the cached signals after a live batch, accepted or not. -/
theorem Content.returns_liveSignals (h : memory.Content sdk) (hholds : memory.Holds message) :
    Returns (memory.applyLiveSignalBatch message.header) fun result =>
      result.1 = (sdk.applyLiveSignalBatch message).1 ∧
        result.2.signals = (List.range sdk.welcome.signalCount.toNat).map
          (sdk.applyLiveSignalBatch message).2.signals := by
  rw [Sdk.applyLiveSignalBatch_eq]
  refine (returns_liveRecords (sdk.signalBatch message) decodeSignal_take hholds.length_le
    h.sized.signalScratch h.signals ?_ fun decoded records hrecords => ?_).bind
      fun _ hresult => .ok hresult
  · rw [hholds.bytes, h.welcome, h.signalScratch]
    rfl
  · rw [h.signals, h.welcome]
    exact returns_applyDecodedSignals decoded records 0 hrecords sdk.cache.signals

end SdkMemory

/-- Every session and every payload: a rejected live batch leaves the sequences and the other array
as they were, and the whole cache if and only if the records up to the refused one repeat it. -/
theorem rejectedBatch_intact_iff (sdk : Sdk) (message : Message) :
    ((sdk.applyLiveFrameBatch message).1 = false →
      (∃ frames, (sdk.applyLiveFrameBatch message).2 = { sdk.cache with frames := frames }) ∧
      ((sdk.applyLiveFrameBatch message).2 = sdk.cache ↔ sdk.RepeatsFrames message)) ∧
    ((sdk.applyLiveSignalBatch message).1 = false →
      (∃ signals, (sdk.applyLiveSignalBatch message).2 = { sdk.cache with signals := signals }) ∧
      ((sdk.applyLiveSignalBatch message).2 = sdk.cache ↔ sdk.RepeatsSignals message)) :=
  ⟨Sdk.applyLiveFrameBatch_rejected, Sdk.applyLiveSignalBatch_rejected⟩

section Examples

/-- A live batch of the given frames, for the session of two frames. -/
def twoFrameUpdate (frames : List Frame) : Message :=
  outgoing .updateBatch 1 5 (encodeBatchPrefix 1 2 uint32Max frames.length ++
    frames.flatMap encodeFrame)

/-- A live batch of the given signals, for the session of one signal. -/
def oneSignalUpdate (updates : List SignalUpdate) : Message :=
  outgoing .signalUpdateBatch 1 5 (encodeBatchPrefix 1 1 uint32Max updates.length ++
    updates.flatMap encodeSignal)

/-- Frame 1 with a byte that the session of two frames has not seen. -/
def changedFrame : Frame := ⟨1, .valid, #v[1, 0, 0, 0, 0, 0, 0, 0], 5, 5⟩

/-- A frame that is refused behind a change and its undoing, and a signal that is refused behind a
repetition of the cached one: the batches are rejected, and readers see what they saw before. -/
theorem rejectedBatch_intact_repeated :
    let sdk := Sdk.after twoFrameSession
    let frames := twoFrameUpdate [changedFrame, { zeroFrame with canId := 1 },
      { changedFrame with canId := 3 }]
    let signals := oneSignalUpdate [⟨0, zeroSignal⟩, ⟨1, zeroSignal⟩]
    ((sdk.applyLiveFrameBatch frames).1 = false ∧
      (sdk.applyLiveFrameBatch frames).2 = sdk.cache) ∧
    (sdk.applyLiveSignalBatch signals).1 = false ∧
      (sdk.applyLiveSignalBatch signals).2 = sdk.cache := by
  intro sdk frames signals
  have hframes : (sdk.applyLiveFrameBatch frames).1 = false := by decide +kernel
  have hsignals : (sdk.applyLiveSignalBatch signals).1 = false := by decide +kernel
  have hfirst : sdk.RepeatsFrames frames := by
    intro batch hbatch index frame hwritten
    have hlog : ((sdk.liveFrames frames).map fun batch => Writes.log (framePlace sdk.canIdToIndex
        sdk.welcome.frameCount.toNat) batch.records) =
          some [(0, { zeroFrame with canId := 1 }), (0, changedFrame)] := by decide +kernel
    have hcached : sdk.cache.frames 0 = { zeroFrame with canId := 1 } := by decide +kernel
    rw [Option.mem_def.mp hbatch, Option.map_some, Option.some.injEq] at hlog
    rw [hlog] at hwritten
    by_cases hindex : index = 0
    · rw [hindex] at hwritten ⊢
      exact hcached.trans (Option.some.inj hwritten)
    · simp [List.lookup_cons, beq_eq_false_iff_ne.mpr hindex] at hwritten
  have hsecond : sdk.RepeatsSignals signals := by
    intro batch hbatch index value hwritten
    have hlog : ((sdk.liveSignals signals).map fun batch => Writes.log (signalPlace
        sdk.welcome.signalCount.toNat) batch.records) = some [(0, zeroSignal)] := by decide +kernel
    have hcached : sdk.cache.signals 0 = zeroSignal := by decide +kernel
    rw [Option.mem_def.mp hbatch, Option.map_some, Option.some.injEq] at hlog
    rw [hlog] at hwritten
    by_cases hindex : index = 0
    · rw [hindex] at hwritten ⊢
      exact hcached.trans (Option.some.inj hwritten)
    · simp [List.lookup_cons, beq_eq_false_iff_ne.mpr hindex] at hwritten
  exact ⟨⟨hframes, ((rejectedBatch_intact_iff sdk frames).1 hframes).2.mpr hfirst⟩,
    hsignals, ((rejectedBatch_intact_iff sdk signals).2 hsignals).2.mpr hsecond⟩

/-- A batch that names CAN ID 3 after CAN ID 1 is rejected, and so is one that names signal 1 after
signal 0. Readers see the first record of each. -/
theorem rejectedBatch_partly_applied :
    let sdk := Sdk.after twoFrameSession
    let frames := twoFrameUpdate [changedFrame, { changedFrame with canId := 3 }]
    let signals := oneSignalUpdate [⟨0, { zeroSignal with raw := 1 }⟩, ⟨1, zeroSignal⟩]
    sdk.phase = .live ∧
    ((sdk.applyLiveFrameBatch frames).1 = false ∧ (sdk.receive frames).phase = .failed ∧
      sdk.view.readFrame 1 = some { zeroFrame with canId := 1 } ∧
      (sdk.receive frames).view.readFrame 1 = some changedFrame) ∧
    (sdk.applyLiveSignalBatch signals).1 = false ∧ (sdk.receive signals).phase = .failed ∧
      sdk.view.readSignals [0] = some [zeroSignal] ∧
      (sdk.receive signals).view.readSignals [0] = some [{ zeroSignal with raw := 1 }] := by
  decide +kernel

end Examples

end Roadcast
