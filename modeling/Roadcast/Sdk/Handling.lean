import Roadcast.Sdk.Following
import Roadcast.Sdk.Phases

/-!
# The handlers of the SDK stay within its memory

Each function of `client.c` that handles a message, on the buffers and on the arrays: neither meets a
fault, both refuse the same messages, and afterwards the buffers follow the arrays again.
-/

namespace Roadcast

open Checked

namespace SdkMemory

variable {memory : SdkMemory} {sdk : Sdk} {message : Message}

/-- The payload of a message is at the front of the payload buffer. -/
structure Holds (memory : SdkMemory) (message : Message) : Prop where
  length_le : message.header.payloadBytes.toNat ≤ memory.payload.length
  bytes : memory.payload.take message.header.payloadBytes.toNat = message.payload

/-- The buffers have the announced sizes once they are allocated. -/
theorem Content.allocate (h : memory.Content sdk) (hwaits : memory.Waits sdk .handshake)
    {welcome : Welcome} (hframes : welcome.frameCount.toNat ≤ clientMaxFrames) {records : ℕ}
    (hrecords : records = welcome.maxResponsePayload.toNat - batchPrefixSize) :
    (memory.allocate welcome records).Content { sdk with
      welcome := welcome
      payloadCapacity := welcome.maxResponsePayload.toNat } := by
  obtain ⟨hschema, hcache, htable⟩ := hwaits
  have hpayload : (memory.payload.take welcome.maxResponsePayload.toNat ++ List.replicate
      (welcome.maxResponsePayload.toNat - memory.payload.length) 0).length =
      welcome.maxResponsePayload.toNat := by
    rw [List.length_append, List.length_take, List.length_replicate]
    omega
  have hindices : ∀ index ∈ memory.canIdToIndex, index = noFrameIndex := by
    rw [h.table, htable]
    intro index hindex
    obtain ⟨-, -, rfl⟩ := List.mem_map.mp hindex
    rfl
  refine ⟨⟨hpayload, List.length_replicate, List.length_replicate, List.length_replicate,
    List.length_replicate, List.length_replicate, h.sized.table,
    fun index hindex => Or.inr (hindices index hindex), hframes⟩, rfl, rfl, ?_, ?_, ?_, ?_, ?_,
    h.table⟩
  · rw [Sdk.frameScratchCapacity, ← hrecords]
    rfl
  · rw [Sdk.signalScratchCapacity, ← hrecords]
    rfl
  · show List.take sdk.schema.length _ = sdk.schema
    rw [hschema]
    rfl
  · rw [hcache]
    exact List.ext_getElem (by simp [SdkMemory.allocate]) fun i _ _ => by
      simp [SdkMemory.allocate, Synchronization.zero, Replica.zero]
  · rw [hcache]
    exact List.ext_getElem (by simp [SdkMemory.allocate]) fun i _ _ => by
      simp [SdkMemory.allocate, Synchronization.zero, Replica.zero]

/-- `WELCOME` sets the sizes of the buffers. -/
theorem Content.returns_readWelcome (h : memory.Content sdk) (hwaits : memory.Waits sdk .handshake)
    (hholds : memory.Holds message) :
    Returns (memory.readWelcome message.header) (Outcome · (sdk.readWelcome message)) := by
  unfold SdkMemory.readWelcome Sdk.readWelcome
  by_cases htype : message.header.type ≠ MessageType.welcome.code
  · rw [if_pos htype, if_pos htype]
    exact .ok ⟨rfl, h.sized⟩
  rw [if_neg htype, if_neg htype]
  refine (returns_decodeWelcomeAt hholds.length_le).bind fun decoded hdecoded => ?_
  rw [hdecoded, hholds.bytes]
  cases decodeWelcome message.payload with
  | none => exact .ok ⟨rfl, h.sized⟩
  | some welcome =>
    dsimp only
    by_cases hsupported : welcome.Supported
    · rw [if_pos hsupported, if_pos hsupported]
      obtain ⟨-, -, -, hframes, -, -, -, hsize, -⟩ := id hsupported
      have hfront : batchPrefixSize ≤ welcome.maxResponsePayload.toNat :=
        Nat.le_trans (by decide) hsize
      refine (returns_subtract hfront).bind fun records hrecords => ?_
      have hcontent := h.allocate hwaits hframes hrecords
      refine (hcontent.returns_requestSchema (congrArg List.length hwaits.1)).bind
        fun allocated hallocated => .ok ⟨rfl, hallocated⟩
    · rw [if_neg hsupported, if_neg hsupported]
      exact .ok ⟨rfl, h.sized⟩

/-- A schema chunk is written behind the entries that are there. -/
theorem Content.returns_readSchema (h : memory.Content sdk) {next : ℕ}
    (hwaits : memory.Waits sdk (.schema next)) (hholds : memory.Holds message) :
    Returns (memory.readSchema next message.header) (Outcome · (sdk.readSchema next message)) := by
  obtain ⟨hnext, hlength⟩ := hwaits
  have hsize := h.sized.schema
  rw [h.welcome] at hsize
  unfold SdkMemory.readSchema Sdk.readSchema
  by_cases htype : message.header.type ≠ MessageType.schemaChunk.code
  · rw [if_pos htype, if_pos htype]
    exact .ok ⟨rfl, h.sized⟩
  rw [if_neg htype, if_neg htype]
  refine (returns_subtract (by rw [h.welcome]; exact hnext.le)).bind fun capacity hcapacity => ?_
  rw [h.welcome] at hcapacity
  refine (returns_decodeSchemaChunkInto hholds.length_le (by omega)).bind ?_
  rintro ⟨decoded, schema⟩ hdecoded
  rw [hholds.bytes, hcapacity] at hdecoded
  cases hchunk : decodeSchemaChunk message.payload (sdk.welcome.signalCount.toNat - next) with
  | none =>
    rw [hchunk] at hdecoded
    obtain ⟨rfl, hkept⟩ := hdecoded
    exact .ok ⟨rfl, { h.sized with schema := hkept.trans h.sized.schema }⟩
  | some chunk =>
    rw [hchunk] at hdecoded
    obtain ⟨hpair, hcount⟩ := hdecoded
    obtain ⟨rfl, rfl⟩ := Prod.mk.inj hpair
    have hsized : ({ memory with schema := writeFrom next chunk.entries memory.schema } :
        SdkMemory).Sized :=
      { h.sized with schema := (writeFrom_length _ _ _).trans h.sized.schema }
    have hrefused : (chunk.schemaVersion ≠ memory.welcome.schemaVersion ∨
        chunk.schemaHash ≠ memory.welcome.schemaHash ∨
        chunk.totalCount ≠ memory.welcome.signalCount ∨ chunk.startIndex.toNat ≠ next ∨
        chunk.entries.length = 0) ↔ (chunk.schemaVersion ≠ sdk.welcome.schemaVersion ∨
        chunk.schemaHash ≠ sdk.welcome.schemaHash ∨
        chunk.totalCount ≠ sdk.welcome.signalCount ∨ chunk.startIndex.toNat ≠ next ∨
        chunk.entries = []) := by
      rw [h.welcome, List.length_eq_zero_iff]
    dsimp only
    split
    · rename_i hbad
      rw [if_pos (hrefused.mp hbad)]
      exact .ok ⟨rfl, hsized⟩
    · rename_i hgood
      rw [if_neg (mt hrefused.mpr hgood)]
      have hcontent : ({ memory with schema := writeFrom next chunk.entries memory.schema } :
          SdkMemory).Content { sdk with schema := sdk.schema ++ chunk.entries } :=
        { h with
          sized := hsized
          schema := by
            rw [List.length_append, hlength, take_writeFrom (by omega), ← hlength, h.schema] }
      have hlength' : (sdk.schema ++ chunk.entries).length = next + chunk.entries.length := by
        rw [List.length_append, hlength]
      exact (hcontent.returns_requestSchema hlength').bind fun _ hnext => .ok ⟨rfl, hnext⟩

/-- The synchronization after a page of frames. -/
theorem Content.placePage (h : memory.Content sdk) (hsync : memory.Synchronizes sdk) (next : ℕ)
    (header : Header) (page : Batch Frame) :
    let placed := SdkMemory.placePage
      { memory with syncFrames := writeFrom next page.records memory.syncFrames } next header
      ⟨page.sampleSequence, page.totalCount, page.startIndex, page.records.length⟩
    let sdk' := { sdk with synchronization := Sdk.placePage sdk.synchronization next header page }
    placed.Content sdk' ∧ placed.Synchronizes sdk' := by
  have hframes : writeFrom next page.records memory.syncFrames =
      (List.range sdk.welcome.frameCount.toNat).map
        (placeFrames next page.records sdk.synchronization.frames) := by
    rw [hsync.frames, writeFrom_placeFrames]
  unfold SdkMemory.placePage Sdk.placePage
  by_cases hfirst : next = 0
  · simp only [if_pos hfirst]
    exact ⟨{ h with sized := { h.sized with } }, hframes, hsync.signals, rfl, rfl, rfl⟩
  · simp only [if_neg hfirst]
    exact ⟨{ h with sized := { h.sized with } }, hframes, hsync.signals, hsync.sampleSequence,
      hsync.changeSequence, hsync.sampleTimestampNs⟩

/-- A page of frames is written behind the pages before it. -/
theorem Content.returns_readFramePage (h : memory.Content sdk) {next : ℕ}
    (hwaits : memory.Waits sdk (.frames next)) (hholds : memory.Holds message) :
    Returns (memory.readFramePage next message.header)
      (Outcome · (sdk.readFramePage next message)) := by
  obtain ⟨hnext, hsync⟩ := hwaits
  have hsize : memory.syncFrames.length = sdk.welcome.frameCount.toNat := by
    rw [hsync.frames, List.length_map, List.length_range]
  unfold SdkMemory.readFramePage Sdk.readFramePage
  by_cases htype : message.header.type ≠ MessageType.snapshot.code
  · rw [if_pos htype, if_pos htype]
    exact .ok ⟨rfl, h.sized⟩
  rw [if_neg htype, if_neg htype]
  refine (returns_subtract (by rw [h.welcome]; exact hnext.le)).bind fun capacity hcapacity => ?_
  rw [h.welcome] at hcapacity
  refine (returns_decodeBatchInto decodeFrame_take hholds.length_le (by omega)).bind ?_
  rintro ⟨decoded, frames⟩ hdecoded
  rw [hholds.bytes, hcapacity] at hdecoded
  rw [decodeFrameBatch]
  cases hpage : decodeBatch frameWireSize decodeFrame message.payload
      (sdk.welcome.frameCount.toNat - next) with
  | none =>
    rw [hpage] at hdecoded
    obtain ⟨rfl, -⟩ := hdecoded
    exact .ok ⟨rfl, { h.sized with }⟩
  | some page =>
    rw [hpage] at hdecoded
    obtain ⟨hpair, -⟩ := hdecoded
    obtain ⟨rfl, rfl⟩ := Prod.mk.inj hpair
    have hrefused : (page.totalCount ≠ memory.welcome.frameCount ∨ page.startIndex.toNat ≠ next ∨
        page.records.length = 0) ↔ (page.totalCount ≠ sdk.welcome.frameCount ∨
        page.startIndex.toNat ≠ next ∨ page.records = []) := by
      rw [h.welcome, List.length_eq_zero_iff]
    have hother : (next ≠ 0 ∧ (page.sampleSequence ≠ memory.sampleSequence ∨
        message.header.sequence ≠ memory.changeSequence ∨
        message.header.timestampNs ≠ memory.sampleTimestampNs)) ↔
        (next ≠ 0 ∧ (page.sampleSequence ≠ sdk.synchronization.sampleSequence ∨
          message.header.sequence ≠ sdk.synchronization.changeSequence ∨
          message.header.timestampNs ≠ sdk.synchronization.sampleTimestampNs)) := by
      rw [hsync.sampleSequence, hsync.changeSequence, hsync.sampleTimestampNs]
    dsimp only
    split
    · rename_i hbad
      rw [if_pos (hrefused.mp hbad)]
      exact .ok ⟨rfl, { h.sized with }⟩
    rename_i hgood
    rw [if_neg (mt hrefused.mpr hgood)]
    split
    · rename_i hbad
      rw [if_pos (hother.mp hbad)]
      exact .ok ⟨rfl, { h.sized with }⟩
    rename_i hsame
    rw [if_neg (mt hother.mpr hsame)]
    obtain ⟨hcontent, hsync'⟩ := h.placePage hsync next message.header page
    exact (hcontent.returns_requestFrames hsync' _).bind fun _ hnext => .ok ⟨rfl, hnext⟩

/-- A page of signals goes through the scratch buffer into the array. -/
theorem Content.returns_readSignalPage (h : memory.Content sdk) {next : ℕ}
    (hwaits : memory.Waits sdk (.signals next)) (hholds : memory.Holds message) :
    Returns (memory.readSignalPage next message.header)
      (Outcome · (sdk.readSignalPage next message)) := by
  obtain ⟨-, hsync⟩ := hwaits
  have hscratch := h.sized.signalScratch
  have hother : (message.header.type ≠ MessageType.signalSnapshotChunk.code ∨
      message.header.sequence ≠ memory.changeSequence ∨
      message.header.timestampNs ≠ memory.sampleTimestampNs) ↔
      (message.header.type ≠ MessageType.signalSnapshotChunk.code ∨
        message.header.sequence ≠ sdk.synchronization.changeSequence ∨
        message.header.timestampNs ≠ sdk.synchronization.sampleTimestampNs) := by
    rw [hsync.changeSequence, hsync.sampleTimestampNs]
  unfold SdkMemory.readSignalPage Sdk.readSignalPage
  split
  · rename_i hbad
    rw [if_pos (hother.mp hbad)]
    exact .ok ⟨rfl, h.sized⟩
  rename_i htype
  rw [if_neg (mt hother.mpr htype)]
  refine (returns_decodeBatchInto decodeSignal_take hholds.length_le (by omega)).bind ?_
  rintro ⟨decoded, scratch⟩ hdecoded
  rw [hholds.bytes, h.signalScratch] at hdecoded
  rw [decodeSignalBatch]
  cases hpage : decodeBatch signalWireSize decodeSignal message.payload
      sdk.signalScratchCapacity with
  | none =>
    rw [hpage] at hdecoded
    obtain ⟨rfl, hkept⟩ := hdecoded
    exact .ok ⟨rfl, { h.sized with signalScratch := hkept.trans hscratch }⟩
  | some page =>
    rw [hpage] at hdecoded
    obtain ⟨hpair, hcount⟩ := hdecoded
    obtain ⟨rfl, rfl⟩ := Prod.mk.inj hpair
    have hsized : ({ memory with signalScratch := writeFrom 0 page.records memory.signalScratch } :
        SdkMemory).Sized :=
      { h.sized with signalScratch := (writeFrom_length _ _ _).trans hscratch }
    have hrefused : (page.sampleSequence ≠ memory.sampleSequence ∨
        page.totalCount ≠ memory.welcome.signalCount ∨ page.startIndex.toNat ≠ next ∨
        page.records.length = 0) ↔ (page.sampleSequence ≠ sdk.synchronization.sampleSequence ∨
        page.totalCount ≠ sdk.welcome.signalCount ∨ page.startIndex.toNat ≠ next ∨
        page.records = []) := by
      rw [h.welcome, hsync.sampleSequence, List.length_eq_zero_iff]
    dsimp only
    split
    · rename_i hbad
      rw [if_pos (hrefused.mp hbad)]
      exact .ok ⟨rfl, { hsized with }⟩
    rename_i hgood
    rw [if_neg (mt hrefused.mpr hgood)]
    have hrecords : page.records.length ≤ memory.signalScratch.length := by
      rw [hscratch, h.signalScratch]
      exact hcount
    have hplace := returns_placeSignalsInto (n := sdk.welcome.signalCount.toNat)
      (writeFrom 0 page.records memory.signalScratch) page.records next 0
      (storedFrom_writeFrom hrecords) sdk.synchronization.signals
    rw [← hsync.signals, ← h.welcome] at hplace
    refine hplace.bind ?_
    rintro ⟨placed, signals⟩ hplaced
    rw [h.welcome, Nat.add_zero] at hplaced
    cases hsignals : placeSignals sdk.welcome.signalCount.toNat next page.records
        sdk.synchronization.signals with
    | none =>
      rw [hsignals] at hplaced
      obtain ⟨rfl, -⟩ := hplaced
      exact .ok ⟨rfl, { hsized with }⟩
    | some signals' =>
      rw [hsignals] at hplaced
      obtain ⟨rfl, rfl⟩ := Prod.mk.inj hplaced
      have hcontent : ({ memory with
          signalScratch := writeFrom 0 page.records memory.signalScratch
          syncSignals := (List.range sdk.welcome.signalCount.toNat).map signals' } :
          SdkMemory).Content { sdk with
            synchronization := { sdk.synchronization with signals := signals' } } :=
        { h with sized := { hsized with } }
      have hsync' : ({ memory with
          signalScratch := writeFrom 0 page.records memory.signalScratch
          syncSignals := (List.range sdk.welcome.signalCount.toNat).map signals' } :
          SdkMemory).Synchronizes { sdk with
            synchronization := { sdk.synchronization with signals := signals' } } :=
        { hsync with signals := rfl }
      exact .ok ⟨rfl, hcontent.requestSignals hsync' (next + page.records.length)⟩

/-- A batch of updates goes through the scratch buffer into the loop that applies it, unless the
decoder or the check of its metadata refuses it. -/
theorem returns_updateRecords_loop {B V : Type} {size : ℕ} {read : List UInt8 → Option B}
    {apply : List B → ℕ → List V → Except Fault (Bool × List V)} {payload : List UInt8}
    {length : ℕ} {totalCount : UInt32} {scratch : List B} {capacity : ℕ} {values : List V}
    (hread : ∀ record, read (record.take size) = read record) (hlength : length ≤ payload.length)
    (hscratch : scratch.length = capacity) {P : List B → Bool × List V → Prop}
    (happly : ∀ decoded records : List B, StoredFrom 0 records decoded →
      Returns (apply decoded records.length values) (P records)) :
    Returns (updateRecords size read apply payload length totalCount scratch capacity values)
      fun result => result.2.1.length = scratch.length ∧
        match (decodeBatch size read (payload.take length) capacity).filter fun batch =>
          batch.totalCount = totalCount ∧ batch.startIndex = uint32Max with
        | none => result.1 = none ∧ result.2.2 = values
        | some batch => P batch.records (result.1.isSome, result.2.2) ∧
            ∀ head, result.1 = some head → head.sampleSequence = batch.sampleSequence := by
  unfold updateRecords
  refine (returns_decodeBatchInto hread hlength (by omega)).bind ?_
  rintro ⟨decoded, scratch'⟩ hdecoded
  cases hbatch : decodeBatch size read (payload.take length) capacity with
  | none =>
    rw [hbatch] at hdecoded
    obtain ⟨rfl, hkept⟩ := hdecoded
    exact .ok ⟨hkept, rfl, rfl⟩
  | some batch =>
    rw [hbatch] at hdecoded
    obtain ⟨hpair, hcount⟩ := hdecoded
    obtain ⟨rfl, rfl⟩ := Prod.mk.inj hpair
    have hkept : (writeFrom 0 batch.records scratch).length = scratch.length :=
      writeFrom_length _ _ _
    dsimp only
    by_cases hmeta : batch.totalCount = totalCount ∧ batch.startIndex = uint32Max
    · rw [if_neg (by simp [hmeta]), Option.filter_some_pos (by simpa using hmeta)]
      refine (happly _ batch.records (storedFrom_writeFrom (hcount.trans hscratch.ge))).bind ?_
      rintro ⟨applied, values'⟩ happlied
      cases applied with
      | false => exact .ok ⟨hkept, happlied, nofun⟩
      | true => exact .ok ⟨hkept, happlied, fun head hhead => by rw [← Option.some.inj hhead]⟩
    · rw [if_pos (by rwa [not_and_or] at hmeta), Option.filter_some_neg (by simpa using hmeta)]
      exact .ok ⟨hkept, rfl, rfl⟩

/-- A batch of updates goes through the scratch buffer into the array that it is applied to. -/
theorem returns_updateRecords {B V : Type} {size : ℕ} {read : List UInt8 → Option B}
    {apply : List B → ℕ → List V → Except Fault (Bool × List V)} {payload : List UInt8}
    {length : ℕ} {totalCount : UInt32} {scratch : List B} {capacity n : ℕ} {values : List V}
    (hread : ∀ record, read (record.take size) = read record) (hlength : length ≤ payload.length)
    (hscratch : scratch.length = capacity) (hvalues : values.length = n)
    (updated : List B → Option (ℕ → V))
    (happly : ∀ decoded records : List B, StoredFrom 0 records decoded →
      Returns (apply decoded records.length values) (Written n · (updated records))) :
    Returns (updateRecords size read apply payload length totalCount scratch capacity values)
      fun result => result.2.1.length = scratch.length ∧
        match Sdk.batchUpdate totalCount updated
          (decodeBatch size read (payload.take length) capacity) with
        | none => result.1 = none ∧ result.2.2.length = n
        | some (sampleSequence, array) =>
          (∃ head, result.1 = some head ∧ head.sampleSequence = sampleSequence) ∧
            result.2.2 = (List.range n).map array := by
  refine (returns_updateRecords_loop hread hlength hscratch happly).imp ?_
  rintro ⟨applied, scratch', values'⟩ ⟨hkept, hloop⟩
  refine ⟨hkept, ?_⟩
  rw [Sdk.batchUpdate_eq]
  generalize (decodeBatch size read (payload.take length) capacity).filter _ = accepted at hloop ⊢
  cases accepted with
  | none => exact ⟨hloop.1, hloop.2 ▸ hvalues⟩
  | some batch =>
    obtain ⟨hwritten, hhead⟩ := hloop
    rw [Option.bind_some]
    cases hupdated : updated batch.records with
    | none =>
      rw [hupdated] at hwritten
      exact ⟨Option.isNone_iff_eq_none.mp (Option.isSome_eq_false_iff.mp hwritten.1), hwritten.2⟩
    | some array =>
      rw [hupdated] at hwritten
      obtain ⟨hsome, rfl⟩ := Prod.mk.inj hwritten
      obtain ⟨head, rfl⟩ := Option.isSome_iff_exists.mp hsome
      exact ⟨⟨head, rfl, hhead head rfl⟩, rfl⟩

/-- `decode_frame_batch` and the loop of `apply_decoded_frames` do on the buffers what they do on the
arrays. -/
theorem Content.returns_updateFrames (h : memory.Content sdk) (hholds : memory.Holds message)
    (target : Synchronization) {frames : List Frame}
    (hframes : frames = (List.range sdk.welcome.frameCount.toNat).map target.frames) :
    Returns (memory.updateFrames message.header frames) fun result =>
      result.2.1.length = memory.frameScratch.length ∧
        match sdk.applyFrameBatch target message with
        | none => result.1 = none ∧ result.2.2.length = sdk.welcome.frameCount.toNat
        | some updated => ∃ head frames', result.1 = some head ∧
            updated = { target with
              frames := frames'
              sampleSequence := head.sampleSequence
              changeSequence := message.header.sequence
              sampleTimestampNs := message.header.timestampNs } ∧
            result.2.2 = (List.range sdk.welcome.frameCount.toNat).map frames' := by
  have hupdate : Returns (memory.updateFrames message.header frames) _ :=
    returns_updateRecords decodeFrame_take hholds.length_le h.sized.frameScratch
      (by rw [hframes, List.length_map, List.length_range])
      (fun records => applyFrames sdk.canIdToIndex sdk.welcome.frameCount.toNat records
        target.frames) ?_
  · refine hupdate.imp fun result hresult => ⟨hresult.1, ?_⟩
    have hmatch := hresult.2
    rw [hholds.bytes, h.welcome, h.frameScratch, ← decodeFrameBatch] at hmatch
    rw [Sdk.applyFrameBatch_eq]
    split at hmatch
    · rename_i hnone
      rw [hnone]
      exact hmatch
    · rename_i sampleSequence array hsome
      rw [hsome]
      obtain ⟨⟨head, hhead, rfl⟩, hvalues⟩ := hmatch
      exact ⟨head, array, hhead, rfl, hvalues⟩
  · intro decoded records hrecords
    rw [hframes, h.table, h.welcome]
    exact returns_applyFramesInto decoded records sdk.canIdToIndex 0 hrecords target.frames

/-- The same for `decode_signal_batch` and the loop of `apply_decoded_signals`. -/
theorem Content.returns_updateSignals (h : memory.Content sdk) (hholds : memory.Holds message)
    (target : Synchronization) {signals : List SignalValue}
    (hsignals : signals = (List.range sdk.welcome.signalCount.toNat).map target.signals) :
    Returns (memory.updateSignals message.header signals) fun result =>
      result.2.1.length = memory.signalScratch.length ∧
        match sdk.applySignalBatch target message with
        | none => result.1 = none ∧ result.2.2.length = sdk.welcome.signalCount.toNat
        | some updated => ∃ head signals', result.1 = some head ∧
            updated = { target with
              signals := signals'
              sampleSequence := head.sampleSequence
              changeSequence := message.header.sequence
              sampleTimestampNs := message.header.timestampNs } ∧
            result.2.2 = (List.range sdk.welcome.signalCount.toNat).map signals' := by
  have hupdate : Returns (memory.updateSignals message.header signals) _ :=
    returns_updateRecords decodeSignal_take hholds.length_le h.sized.signalScratch
      (by rw [hsignals, List.length_map, List.length_range])
      (fun records => applySignals sdk.welcome.signalCount.toNat records target.signals) ?_
  · refine hupdate.imp fun result hresult => ⟨hresult.1, ?_⟩
    have hmatch := hresult.2
    rw [hholds.bytes, h.welcome, h.signalScratch, ← decodeSignalBatch] at hmatch
    rw [Sdk.applySignalBatch_eq]
    split at hmatch
    · rename_i hnone
      rw [hnone]
      exact hmatch
    · rename_i sampleSequence array hsome
      rw [hsome]
      obtain ⟨⟨head, hhead, rfl⟩, hvalues⟩ := hmatch
      exact ⟨head, array, hhead, rfl, hvalues⟩
  · intro decoded records hrecords
    rw [hsignals, h.welcome]
    exact returns_applySignalsInto decoded records 0 hrecords target.signals

section Subscription

/-- Updates before `SUBSCRIBED` change the frames of the synchronization. -/
theorem Content.returns_applyFrameBatch (h : memory.Content sdk)
    (hsync : memory.Synchronizes sdk) (hphase : memory.phase = .subscription)
    (hsdk : sdk.phase = .subscription) (hholds : memory.Holds message) :
    Returns (memory.applyFrameBatch message.header)
      (Outcome · ((sdk.applyFrameBatch sdk.synchronization message).map fun synchronization =>
        { sdk with synchronization := synchronization })) := by
  unfold SdkMemory.applyFrameBatch
  refine (h.returns_updateFrames hholds sdk.synchronization hsync.frames).bind ?_
  rintro ⟨applied, scratch, frames⟩ ⟨hscratch, hupdated⟩
  have hsized : ({ memory with frameScratch := scratch, syncFrames := frames } : SdkMemory).Sized :=
    { h.sized with frameScratch := hscratch.trans h.sized.frameScratch }
  cases hbatch : sdk.applyFrameBatch sdk.synchronization message with
  | none =>
    rw [hbatch] at hupdated
    obtain ⟨rfl, -⟩ := hupdated
    exact .ok ⟨rfl, hsized⟩
  | some updated =>
    rw [hbatch] at hupdated
    obtain ⟨head, frames', rfl, rfl, rfl⟩ := hupdated
    refine .ok ⟨rfl, { hsized with }, hphase.trans hsdk.symm, fun _ => ?_, ?_⟩
    · exact { h with sized := { hsized with } }
    · rw [show Sdk.phase _ = .subscription from hsdk]
      exact { hsync with frames := rfl, sampleSequence := rfl, changeSequence := rfl,
                         sampleTimestampNs := rfl }

/-- Updates before `SUBSCRIBED` change the signals of the synchronization. -/
theorem Content.returns_applySignalBatch (h : memory.Content sdk)
    (hsync : memory.Synchronizes sdk) (hphase : memory.phase = .subscription)
    (hsdk : sdk.phase = .subscription) (hholds : memory.Holds message) :
    Returns (memory.applySignalBatch message.header)
      (Outcome · ((sdk.applySignalBatch sdk.synchronization message).map fun synchronization =>
        { sdk with synchronization := synchronization })) := by
  unfold SdkMemory.applySignalBatch
  refine (h.returns_updateSignals hholds sdk.synchronization hsync.signals).bind ?_
  rintro ⟨applied, scratch, signals⟩ ⟨hscratch, hupdated⟩
  have hsized : ({ memory with signalScratch := scratch, syncSignals := signals } :
      SdkMemory).Sized :=
    { h.sized with signalScratch := hscratch.trans h.sized.signalScratch }
  cases hbatch : sdk.applySignalBatch sdk.synchronization message with
  | none =>
    rw [hbatch] at hupdated
    obtain ⟨rfl, -⟩ := hupdated
    exact .ok ⟨rfl, hsized⟩
  | some updated =>
    rw [hbatch] at hupdated
    obtain ⟨head, signals', rfl, rfl, rfl⟩ := hupdated
    refine .ok ⟨rfl, { hsized with }, hphase.trans hsdk.symm, fun _ => ?_, ?_⟩
    · exact { h with sized := { hsized with } }
    · rw [show Sdk.phase _ = .subscription from hsdk]
      exact { hsync with signals := rfl, sampleSequence := rfl, changeSequence := rfl,
                         sampleTimestampNs := rfl }

/-- `commit_synchronization` copies whole arrays and rebuilds `can_id_to_index`. -/
theorem Content.returns_commit (h : memory.Content sdk) (hsync : memory.Synchronizes sdk) :
    Returns memory.commit (·.Follows (sdk.commit sdk.synchronization)) := by
  have hcount := h.sized.frameCount_le
  have hframes := h.sized.frames
  have hsignals := h.sized.signals
  rw [h.welcome] at hcount hframes hsignals
  unfold SdkMemory.commit
  refine returns_replace (by rw [hsync.frames, h.welcome]; simp) (by rw [h.welcome, hframes]) ?_
  refine returns_replace (by rw [hsync.signals, h.welcome]; simp) (by rw [h.welcome, hsignals]) ?_
  refine (returns_clearTable canIdLookupCap 0 memory.canIdToIndex (by rw [h.sized.table]; omega)
    (fun j hj => absurd hj (Nat.not_lt_zero j))).bind fun cleared hcleared => ?_
  have hempty : cleared = (List.range canIdLookupCap).map emptyCanIdTable := by
    apply List.ext_getElem?
    intro j
    by_cases hj : j < canIdLookupCap
    · rw [hcleared.2 j (by omega), List.getElem?_map, List.getElem?_range hj]
      rfl
    · have htable := h.sized.table
      rw [List.getElem?_eq_none (by omega), List.getElem?_eq_none (by simpa using hj)]
  have hpoints : PointsBelow ((List.range canIdLookupCap).map emptyCanIdTable)
      sdk.welcome.frameCount.toNat := by
    intro index hindex
    obtain ⟨-, -, rfl⟩ := List.mem_map.mp hindex
    exact Or.inr rfl
  have hfill := returns_fillTable hcount sdk.synchronization.frames
    sdk.welcome.frameCount.toNat 0 (by omega) emptyCanIdTable hpoints
  rw [← hempty, ← hsync.frames, ← h.welcome] at hfill
  refine hfill.bind fun table htable => .ok ?_
  rw [h.welcome, ← List.range_eq_range'] at htable
  have hsized : ({ memory with
      phase := .live, frames := memory.syncFrames, signals := memory.syncSignals
      canIdToIndex := table } : SdkMemory).Sized :=
    { h.sized with
      frames := by rw [hsync.frames, h.welcome]; simp
      signals := by rw [hsync.signals, h.welcome]; simp
      table := by rw [htable.1]; simp
      indices := by rw [h.welcome]; exact htable.2 }
  exact ⟨hsized, rfl, fun _ => { h with
    sized := hsized
    frames := hsync.frames
    signals := hsync.signals
    table := htable.1 }, trivial⟩

/-- The loop body of `complete_subscription`. -/
theorem Content.returns_readSubscription (h : memory.Content sdk)
    (hsync : memory.Synchronizes sdk) (hphase : memory.phase = .subscription)
    (hsdk : sdk.phase = .subscription) (hholds : memory.Holds message) :
    Returns (memory.readSubscription message.header)
      (Outcome · (sdk.readSubscription message)) := by
  unfold SdkMemory.readSubscription Sdk.readSubscription
  cases MessageType.ofCode message.header.type with
  | none => exact .ok ⟨rfl, h.sized⟩
  | some type =>
    cases type with
    | subscribed =>
      have hcontent : ({ memory with
          changeSequence := message.header.sequence
          sampleTimestampNs := message.header.timestampNs } : SdkMemory).Content { sdk with
            synchronization := { sdk.synchronization with
              changeSequence := message.header.sequence
              sampleTimestampNs := message.header.timestampNs } } :=
        { h with sized := { h.sized with } }
      refine (hcontent.returns_commit ?_).bind fun _ hcommitted => .ok ⟨rfl, hcommitted⟩
      exact { hsync with changeSequence := rfl, sampleTimestampNs := rfl }
    | updateBatch => exact h.returns_applyFrameBatch hsync hphase hsdk hholds
    | signalUpdateBatch => exact h.returns_applySignalBatch hsync hphase hsdk hholds
    | _ => exact .ok ⟨rfl, h.sized⟩

end Subscription

section Live

/-- A live batch changes the cached frames. -/
theorem Content.returns_applyLiveFrameBatch (h : memory.Content sdk)
    (hphase : memory.phase = .live) (hsdk : sdk.phase = .live) (hholds : memory.Holds message) :
    Returns (memory.applyLiveFrameBatch message.header)
      (Outcome · ((sdk.applyFrameBatch sdk.cache message).map fun cache =>
        { sdk with cache := cache })) := by
  unfold SdkMemory.applyLiveFrameBatch
  refine (h.returns_updateFrames hholds sdk.cache h.frames).bind ?_
  rintro ⟨applied, scratch, frames⟩ ⟨hscratch, hupdated⟩
  have hsized (hlength : frames.length = sdk.welcome.frameCount.toNat) :
      ({ memory with frameScratch := scratch, frames := frames } : SdkMemory).Sized :=
    { h.sized with
      frameScratch := hscratch.trans h.sized.frameScratch
      frames := by rw [h.welcome]; exact hlength }
  cases hbatch : sdk.applyFrameBatch sdk.cache message with
  | none =>
    rw [hbatch] at hupdated
    obtain ⟨rfl, hlength⟩ := hupdated
    exact .ok ⟨rfl, hsized hlength⟩
  | some updated =>
    rw [hbatch] at hupdated
    obtain ⟨head, frames', rfl, rfl, rfl⟩ := hupdated
    have hlength : ((List.range sdk.welcome.frameCount.toNat).map frames').length =
        sdk.welcome.frameCount.toNat := by rw [List.length_map, List.length_range]
    refine .ok ⟨rfl, hsized hlength, hphase.trans hsdk.symm, fun _ => ?_, ?_⟩
    · exact { h with sized := hsized hlength, frames := rfl }
    · rw [show Sdk.phase _ = .live from hsdk]
      trivial

/-- A live batch changes the cached signals. -/
theorem Content.returns_applyLiveSignalBatch (h : memory.Content sdk)
    (hphase : memory.phase = .live) (hsdk : sdk.phase = .live) (hholds : memory.Holds message) :
    Returns (memory.applyLiveSignalBatch message.header)
      (Outcome · ((sdk.applySignalBatch sdk.cache message).map fun cache =>
        { sdk with cache := cache })) := by
  unfold SdkMemory.applyLiveSignalBatch
  refine (h.returns_updateSignals hholds sdk.cache h.signals).bind ?_
  rintro ⟨applied, scratch, signals⟩ ⟨hscratch, hupdated⟩
  have hsized (hlength : signals.length = sdk.welcome.signalCount.toNat) :
      ({ memory with signalScratch := scratch, signals := signals } : SdkMemory).Sized :=
    { h.sized with
      signalScratch := hscratch.trans h.sized.signalScratch
      signals := by rw [h.welcome]; exact hlength }
  cases hbatch : sdk.applySignalBatch sdk.cache message with
  | none =>
    rw [hbatch] at hupdated
    obtain ⟨rfl, hlength⟩ := hupdated
    exact .ok ⟨rfl, hsized hlength⟩
  | some updated =>
    rw [hbatch] at hupdated
    obtain ⟨head, signals', rfl, rfl, rfl⟩ := hupdated
    have hlength : ((List.range sdk.welcome.signalCount.toNat).map signals').length =
        sdk.welcome.signalCount.toNat := by rw [List.length_map, List.length_range]
    refine .ok ⟨rfl, hsized hlength, hphase.trans hsdk.symm, fun _ => ?_, ?_⟩
    · exact { h with sized := hsized hlength, signals := rfl }
    · rw [show Sdk.phase _ = .live from hsdk]
      trivial

/-- A heartbeat changes no buffer. -/
theorem Content.returns_applyHeartbeat (h : memory.Content sdk) (hphase : memory.phase = .live)
    (hsdk : sdk.phase = .live) (hholds : memory.Holds message) :
    Returns (memory.applyHeartbeat message.header) (Outcome · (sdk.applyHeartbeat message)) := by
  unfold SdkMemory.applyHeartbeat Sdk.applyHeartbeat
  refine (returns_decodeHeartbeatAt hholds.length_le).bind fun decoded hdecoded => ?_
  rw [hdecoded, hholds.bytes]
  cases decodeHeartbeat message.payload with
  | none => exact .ok ⟨rfl, h.sized⟩
  | some heartbeat =>
    dsimp only
    by_cases hsame : heartbeat.changeSequence = message.header.sequence
    · rw [if_neg (not_not.mpr hsame)]
      refine .ok ⟨by simp [hsame], h.sized, hphase.trans hsdk.symm, fun _ => { h with }, ?_⟩
      rw [show Sdk.phase _ = .live from hsdk]
      trivial
    · rw [if_pos hsame]
      exact .ok ⟨by simp [hsame], h.sized⟩

/-- The loop body of `reader_thread_main`. -/
theorem Content.returns_readLive (h : memory.Content sdk) (hphase : memory.phase = .live)
    (hsdk : sdk.phase = .live) (hholds : memory.Holds message) :
    Returns (memory.readLive message.header) (Outcome · (sdk.readLive message)) := by
  unfold SdkMemory.readLive Sdk.readLive
  cases MessageType.ofCode message.header.type with
  | none => exact .ok ⟨rfl, h.sized⟩
  | some type =>
    cases type with
    | updateBatch => exact h.returns_applyLiveFrameBatch hphase hsdk hholds
    | signalUpdateBatch => exact h.returns_applyLiveSignalBatch hphase hsdk hholds
    | heartbeat => exact h.returns_applyHeartbeat hphase hsdk hholds
    | resyncRequired =>
      dsimp only
      split
      · exact h.returns_synchronize.bind fun _ hresynced => .ok ⟨rfl, hresynced⟩
      · exact .ok ⟨rfl, h.sized⟩
    | _ => exact .ok ⟨rfl, h.sized⟩

end Live

end SdkMemory

end Roadcast
