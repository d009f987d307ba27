import Roadcast.Sdk.Receive

/-!
# The phases of a session

Which phase follows which, and what a message leaves as it is. Three phases are loops that request one
page after the other; while such a loop goes on its index grows with every response. `CacheView` is
what the readers of a session use. Requests do not touch it, apart from `can_id_to_index`: the end of
`request_frame_snapshot` writes to the table that the readers use.
-/

namespace Roadcast

/-- The loops of `client.c` that request pages: `request_schema`, `request_frame_snapshot` and
`request_signal_snapshot`. -/
inductive RequestLoop
  | schema
  | frames
  | signals
  deriving DecidableEq, Repr

namespace RequestLoop

/-- The phase that waits for the page from an index on. -/
def phase : RequestLoop → ℕ → Phase
  | .schema, next => .schema next
  | .frames, next => .frames next
  | .signals, next => .signals next

/-- The count that the loop runs up to. -/
def count (welcome : Welcome) : RequestLoop → ℕ
  | .schema => welcome.signalCount.toNat
  | .frames => welcome.frameCount.toNat
  | .signals => welcome.signalCount.toNat

end RequestLoop

/-- What the readers of a session use: the announced counts, the cache and the table. -/
structure CacheView where
  welcome : Welcome
  cache : Synchronization
  canIdToIndex : ℕ → UInt16

namespace CacheView

/-- `roadcast_client_read_frame`. -/
def readFrame (view : CacheView) (canId : UInt16) : Option Frame :=
  let target := if canId.toNat < canIdLookupCap then view.canIdToIndex canId.toNat else noFrameIndex
  if target.toNat < view.welcome.frameCount.toNat then some (view.cache.frames target.toNat)
  else none

/-- `roadcast_client_read_signals`. -/
def readSignals (view : CacheView) : List UInt32 → Option (List SignalValue)
  | [] => some []
  | index :: indices =>
    if index.toNat ≥ view.welcome.signalCount.toNat then none
    else (view.readSignals indices).map (view.cache.signals index.toNat :: ·)

/-- `roadcast_client_read_all`. -/
def readAll (view : CacheView) (capacity : ℕ) : Option (List SignalValue) :=
  if capacity < view.welcome.signalCount.toNat then none
  else some ((List.range view.welcome.signalCount.toNat).map view.cache.signals)

end CacheView

namespace Sdk

/-- What the readers of a session use. -/
def view (sdk : Sdk) : CacheView := ⟨sdk.welcome, sdk.cache, sdk.canIdToIndex⟩

section Requests

variable (sdk : Sdk)

/-- A request is sent, and the session waits for its answer, or the session fails. -/
theorem request_phase (phase : Phase) (type : MessageType) (payload : List UInt8) :
    (sdk.request phase type payload).phase = phase ∨
      (sdk.request phase type payload).phase = .failed := by
  unfold request
  split
  · exact Or.inr rfl
  · exact Or.inl rfl

/-- The signal loop waits for a page, or ends in the subscription. -/
theorem requestSignals_phase (next : ℕ) :
    (sdk.requestSignals next).phase = .signals next ∨
      (sdk.requestSignals next).phase = .subscription ∨
      (sdk.requestSignals next).phase = .failed := by
  unfold requestSignals
  split
  · exact (request_phase _ _ _ _).imp_right Or.inr
  · exact Or.inr (request_phase _ _ _ _)

/-- The frame loop waits for a page, or ends in the signal loop. -/
theorem requestFrames_phase (next : ℕ) :
    (sdk.requestFrames next).phase = .frames next ∨
      (sdk.requestFrames next).phase = .signals 0 ∨
      (sdk.requestFrames next).phase = .subscription ∨
      (sdk.requestFrames next).phase = .failed := by
  unfold requestFrames
  split
  · exact (request_phase _ _ _ _).imp_right fun h => Or.inr (Or.inr h)
  · exact Or.inr (requestSignals_phase _ 0)

/-- The schema loop waits for a page, or ends in a synchronization. -/
theorem requestSchema_phase (next : ℕ) :
    (sdk.requestSchema next).phase = .schema next ∨
      (sdk.requestSchema next).phase = .frames 0 ∨
      (sdk.requestSchema next).phase = .signals 0 ∨
      (sdk.requestSchema next).phase = .subscription ∨
      (sdk.requestSchema next).phase = .failed := by
  unfold requestSchema
  split
  · exact (request_phase _ _ _ _).imp_right fun h => Or.inr (Or.inr (Or.inr h))
  · exact Or.inr (requestFrames_phase _ 0)

/-- Only `SUBSCRIBED` makes a session live. -/
theorem requestSignals_ne_live (next : ℕ) : (sdk.requestSignals next).phase ≠ .live := by
  intro hlive
  rcases sdk.requestSignals_phase next with h | h | h
  all_goals cases h.symm.trans hlive

/-- The frame loop does not commit. -/
theorem requestFrames_ne_live (next : ℕ) : (sdk.requestFrames next).phase ≠ .live := by
  intro hlive
  rcases sdk.requestFrames_phase next with h | h | h | h
  all_goals cases h.symm.trans hlive

/-- The schema loop does not commit. -/
theorem requestSchema_ne_live (next : ℕ) : (sdk.requestSchema next).phase ≠ .live := by
  intro hlive
  rcases sdk.requestSchema_phase next with h | h | h | h | h
  all_goals cases h.symm.trans hlive

/-- Readers see nothing of a request. -/
theorem request_view (phase : Phase) (type : MessageType) (payload : List UInt8) :
    (sdk.request phase type payload).view = sdk.view := by
  unfold request
  split <;> rfl

/-- Readers see nothing of the signal loop. -/
theorem requestSignals_view (next : ℕ) : (sdk.requestSignals next).view = sdk.view := by
  unfold requestSignals
  split <;> exact request_view _ _ _ _

/-- The end of the frame loop changes the table. -/
theorem requestFrames_view (next : ℕ) :
    (sdk.requestFrames next).view =
      if next < sdk.welcome.frameCount.toNat then sdk.view
      else { sdk.view with
        canIdToIndex := sdk.indexCanIds sdk.synchronization.frames sdk.canIdToIndex } := by
  unfold requestFrames
  split
  · exact request_view _ _ _ _
  · exact requestSignals_view _ 0

/-- No request for a page is longer than a supported session may send. -/
theorem request_supported (hsupported : sdk.welcome.Supported) (phase : Phase) (type : MessageType)
    (startIndex : UInt32) :
    sdk.request phase type (encodeIndexRequest startIndex) = { sdk with
      phase := phase
      sent := sdk.sent ++ [outgoing type 0 0 (encodeIndexRequest startIndex)] } := by
  obtain ⟨-, -, -, -, -, -, hmax, -⟩ := hsupported
  refine request_eq ?_
  rw [encodeIndexRequest_length, schemaRequestSize]
  omega

/-- A supported session requests the next frame page. -/
theorem requestFrames_more (hsupported : sdk.welcome.Supported) {next : ℕ}
    (hnext : next < sdk.welcome.frameCount.toNat) :
    sdk.requestFrames next = { sdk with
      phase := .frames next
      sent := sdk.sent ++
        [outgoing .getSnapshot 0 0 (encodeIndexRequest (UInt32.ofNat next))] } := by
  rw [requestFrames, if_pos hnext, request_supported _ hsupported]

/-- A supported session sends the request that follows the last frame page. -/
theorem requestFrames_last (hsupported : sdk.welcome.Supported) {next : ℕ}
    (hnext : sdk.welcome.frameCount.toNat ≤ next) :
    (sdk.requestFrames next).phase = .signals 0 ∧
      (sdk.requestFrames next).synchronization = sdk.synchronization := by
  have hpos : 0 < sdk.welcome.signalCount.toNat :=
    Nat.pos_of_ne_zero fun h => hsupported.2.2.2.2.1 (UInt32.toNat_inj.mp h)
  rw [requestFrames, if_neg (by omega), requestSignals, if_pos hpos,
    request_supported _ (by exact hsupported)]
  exact ⟨rfl, rfl⟩

/-- The frame loop keeps what the daemon announced. -/
theorem requestFrames_welcome (next : ℕ) : (sdk.requestFrames next).welcome = sdk.welcome := by
  have h := congrArg CacheView.welcome (sdk.requestFrames_view next)
  split at h <;> exact h

/-- The schema loop keeps what the daemon announced. -/
theorem requestSchema_welcome (next : ℕ) : (sdk.requestSchema next).welcome = sdk.welcome := by
  unfold requestSchema
  split
  · exact congrArg CacheView.welcome (request_view _ _ _ _)
  · exact requestFrames_welcome _ 0

end Requests

section Loops

variable {sdk : Sdk} {message : Message} {next next' : ℕ}

/-- A refused message ends the session. Only the cache of a live session may be touched by it. -/
theorem refuse_eq (sdk : Sdk) (message : Message) :
    ∃ cache, sdk.refuse message = { sdk with cache := cache }.fail ∧
      (sdk.phase ≠ .live → cache = sdk.cache) := by
  unfold refuse
  split
  · rename_i hphase _
    exact ⟨_, rfl, fun hlive => absurd hphase hlive⟩
  · rename_i hphase _
    exact ⟨_, rfl, fun hlive => absurd hphase hlive⟩
  · exact ⟨sdk.cache, rfl, fun _ => rfl⟩

/-- A message is handled or ends the session. -/
theorem receive_cases (sdk : Sdk) (message : Message) :
    (∃ cache, sdk.receive message = { sdk with cache := cache }.fail ∧
      (sdk.phase ≠ .live → cache = sdk.cache)) ∨
    sdk.handle message = some (sdk.receive message) := by
  unfold receive
  split
  · exact Or.inl ⟨sdk.cache, rfl, fun _ => rfl⟩
  · cases sdk.handle message with
    | none => exact Or.inl (sdk.refuse_eq message)
    | some handled => exact Or.inr rfl

/-- A message that does not end the session was handled. -/
theorem receive_handled (h : (sdk.receive message).phase ≠ .failed) :
    sdk.handle message = some (sdk.receive message) := by
  rcases sdk.receive_cases message with ⟨cache, hfail, -⟩ | hhandled
  · rw [hfail] at h
    exact absurd rfl h
  · exact hhandled

/-- A handshake that succeeds has a supported daemon, and begins the schema loop. -/
theorem readWelcome_some {sdk' : Sdk} (h : sdk.readWelcome message = some sdk') :
    ∃ welcome : Welcome, welcome.Supported ∧ sdk' = requestSchema { sdk with
      welcome := welcome
      payloadCapacity := welcome.maxResponsePayload.toNat } 0 := by
  unfold readWelcome at h
  split at h
  · contradiction
  split at h
  · contradiction
  rename_i welcome _
  split at h
  · rename_i hsupported
    exact ⟨welcome, hsupported, (Option.some.inj h).symm⟩
  · contradiction

/-- A schema page that is accepted moves the schema loop on. -/
theorem readSchema_some {sdk' : Sdk} (h : sdk.readSchema next message = some sdk') :
    ∃ entries, entries ≠ [] ∧ sdk' = requestSchema { sdk with schema := sdk.schema ++ entries }
      (next + entries.length) := by
  unfold readSchema at h
  split at h
  · contradiction
  split at h
  · contradiction
  rename_i chunk _
  split at h
  · contradiction
  rename_i hchunk
  simp only [not_or] at hchunk
  exact ⟨chunk.entries, hchunk.2.2.2.2, (Option.some.inj h).symm⟩

/-- A frame page that is accepted is placed, and moves the frame loop on. -/
theorem readFramePage_some {sdk' : Sdk} (h : sdk.readFramePage next message = some sdk') :
    ∃ page : Batch Frame, page.records ≠ [] ∧ sdk' = requestFrames { sdk with
      synchronization := placePage sdk.synchronization next message.header page }
      (next + page.records.length) := by
  unfold readFramePage at h
  split at h
  · contradiction
  split at h
  · contradiction
  rename_i page _
  split at h
  · contradiction
  rename_i hpage
  split at h
  · contradiction
  simp only [not_or] at hpage
  exact ⟨page, hpage.2.2, (Option.some.inj h).symm⟩

/-- A signal page that is accepted is placed, and moves the signal loop on. -/
theorem readSignalPage_some {sdk' : Sdk} (h : sdk.readSignalPage next message = some sdk') :
    ∃ (signals : ℕ → SignalValue) (count : ℕ), 0 < count ∧ sdk' = requestSignals { sdk with
      synchronization := { sdk.synchronization with signals := signals } } (next + count) := by
  unfold readSignalPage at h
  split at h
  · contradiction
  split at h
  · contradiction
  rename_i page _
  split at h
  · contradiction
  rename_i hpage
  split at h
  · contradiction
  rename_i signals _
  simp only [not_or] at hpage
  exact ⟨signals, page.records.length, List.length_pos_of_ne_nil hpage.2.2.2,
    (Option.some.inj h).symm⟩

/-- While it subscribes, a session gathers updates or commits. -/
theorem readSubscription_some {sdk' : Sdk} (h : sdk.readSubscription message = some sdk') :
    (∃ synchronization, sdk' = { sdk with synchronization := synchronization }) ∨
      ∃ synchronization, sdk' = sdk.commit synchronization := by
  unfold readSubscription at h
  split at h
  · exact Or.inr ⟨_, (Option.some.inj h).symm⟩
  · obtain ⟨synchronization, -, rfl⟩ := Option.map_eq_some_iff.mp h
    exact Or.inl ⟨synchronization, rfl⟩
  · obtain ⟨synchronization, -, rfl⟩ := Option.map_eq_some_iff.mp h
    exact Or.inl ⟨synchronization, rfl⟩
  · contradiction

/-- The check of the metadata of a batch, as a filter and as the branch of the source. -/
theorem filter_metadata {B : Type} (totalCount : UInt32) (batch : Batch B) :
    ((some batch).filter fun batch =>
      batch.totalCount = totalCount ∧ batch.startIndex = uint32Max) =
        if batch.totalCount ≠ totalCount ∨ batch.startIndex ≠ uint32Max then none
        else some batch := by
  by_cases hmeta : batch.totalCount = totalCount ∧ batch.startIndex = uint32Max
  · rw [Option.filter_some_pos (by simpa using hmeta), if_neg (by simp [hmeta])]
  · rw [Option.filter_some_neg (by simpa using hmeta), if_pos (by rwa [not_and_or] at hmeta)]

/-- What a batch that is not refused does to one of the arrays, with its sample sequence. -/
def batchUpdate {B V : Type} (totalCount : UInt32) (updated : List B → Option (ℕ → V))
    (decoded : Option (Batch B)) : Option (UInt64 × (ℕ → V)) :=
  decoded.bind fun batch =>
    if batch.totalCount ≠ totalCount ∨ batch.startIndex ≠ uint32Max then none
    else (updated batch.records).map fun array => (batch.sampleSequence, array)

/-- The decoder and the check of the metadata come first, then the loop. -/
theorem batchUpdate_eq {B V : Type} (totalCount : UInt32) (updated : List B → Option (ℕ → V))
    (decoded : Option (Batch B)) :
    batchUpdate totalCount updated decoded =
      (decoded.filter fun batch =>
        batch.totalCount = totalCount ∧ batch.startIndex = uint32Max).bind fun batch =>
          (updated batch.records).map fun array => (batch.sampleSequence, array) := by
  cases decoded with
  | none => rfl
  | some batch =>
    rw [batchUpdate, Option.bind_some, filter_metadata]
    split
    · rfl
    · rfl

/-- A batch of frames as an update of one of the arrays. -/
theorem applyFrameBatch_eq (sdk : Sdk) (target : Synchronization) (message : Message) :
    sdk.applyFrameBatch target message =
      (batchUpdate sdk.welcome.frameCount
        (fun records => applyFrames sdk.canIdToIndex sdk.welcome.frameCount.toNat records
          target.frames)
        (decodeFrameBatch message.payload sdk.frameScratchCapacity)).map fun update =>
          { target with
            frames := update.2
            sampleSequence := update.1
            changeSequence := message.header.sequence
            sampleTimestampNs := message.header.timestampNs } := by
  unfold applyFrameBatch batchUpdate
  cases decodeFrameBatch message.payload sdk.frameScratchCapacity with
  | none => rfl
  | some batch =>
    rw [Option.bind_some]
    dsimp only
    split
    · rfl
    · rw [Option.map_map]
      rfl

/-- A batch of signals as an update of one of the arrays. -/
theorem applySignalBatch_eq (sdk : Sdk) (target : Synchronization) (message : Message) :
    sdk.applySignalBatch target message =
      (batchUpdate sdk.welcome.signalCount
        (fun records => applySignals sdk.welcome.signalCount.toNat records target.signals)
        (decodeSignalBatch message.payload sdk.signalScratchCapacity)).map fun update =>
          { target with
            signals := update.2
            sampleSequence := update.1
            changeSequence := message.header.sequence
            sampleTimestampNs := message.header.timestampNs } := by
  unfold applySignalBatch batchUpdate
  cases decodeSignalBatch message.payload sdk.signalScratchCapacity with
  | none => rfl
  | some batch =>
    rw [Option.bind_some]
    dsimp only
    split
    · rfl
    · rw [Option.map_map]
      rfl

/-- An update that is not refused comes from the records of its batch. -/
theorem batchUpdate_some {B V : Type} {totalCount : UInt32} {updated : List B → Option (ℕ → V)}
    {decoded : Option (Batch B)} {update : UInt64 × (ℕ → V)}
    (h : batchUpdate totalCount updated decoded = some update) :
    ∃ records, updated records = some update.2 := by
  obtain ⟨batch, -, hbatch⟩ := Option.bind_eq_some_iff.mp h
  split at hbatch
  · contradiction
  obtain ⟨array, harray, rfl⟩ := Option.map_eq_some_iff.mp hbatch
  exact ⟨batch.records, harray⟩

/-- A batch of frames changes the frames by its records. -/
theorem applyFrameBatch_frames {target updated : Synchronization}
    (h : sdk.applyFrameBatch target message = some updated) :
    ∃ records, applyFrames sdk.canIdToIndex sdk.welcome.frameCount.toNat records target.frames =
      some updated.frames := by
  rw [applyFrameBatch_eq] at h
  obtain ⟨update, hupdate, rfl⟩ := Option.map_eq_some_iff.mp h
  exact batchUpdate_some hupdate

/-- A batch of signals leaves the frames as they are. -/
theorem applySignalBatch_frames {target updated : Synchronization}
    (h : sdk.applySignalBatch target message = some updated) : updated.frames = target.frames := by
  rw [applySignalBatch_eq] at h
  obtain ⟨update, -, rfl⟩ := Option.map_eq_some_iff.mp h
  rfl

/-- A live message starts a synchronization, or it changes the cached frames by updates only. -/
theorem readLive_some {sdk' : Sdk} (h : sdk.readLive message = some sdk') :
    sdk' = sdk.synchronize ∨
      sdk'.sent = sdk.sent ∧ sdk'.welcome = sdk.welcome ∧ sdk'.canIdToIndex = sdk.canIdToIndex ∧
        ∃ records, applyFrames sdk.canIdToIndex sdk.welcome.frameCount.toNat records
          sdk.cache.frames = some sdk'.cache.frames := by
  unfold readLive at h
  split at h
  · obtain ⟨cache, hcache, rfl⟩ := Option.map_eq_some_iff.mp h
    exact Or.inr ⟨rfl, rfl, rfl, applyFrameBatch_frames hcache⟩
  · obtain ⟨cache, hcache, rfl⟩ := Option.map_eq_some_iff.mp h
    exact Or.inr ⟨rfl, rfl, rfl, [], congrArg some (applySignalBatch_frames hcache).symm⟩
  · unfold applyHeartbeat at h
    split at h
    · contradiction
    split at h
    · contradiction
    obtain rfl := Option.some.inj h
    exact Or.inr ⟨rfl, rfl, rfl, [], rfl⟩
  · split at h
    · exact Or.inl (Option.some.inj h).symm
    · contradiction
  · contradiction

/-- Only `WELCOME` changes what was announced. -/
theorem handle_welcome {sdk' : Sdk} (hphase : sdk.phase ≠ .handshake)
    (h : sdk.handle message = some sdk') : sdk'.welcome = sdk.welcome := by
  unfold handle at h
  split at h
  · contradiction
  · obtain ⟨entries, -, rfl⟩ := readSchema_some h
    exact requestSchema_welcome _ _
  · obtain ⟨page, -, rfl⟩ := readFramePage_some h
    exact requestFrames_welcome _ _
  · obtain ⟨signals, count, -, rfl⟩ := readSignalPage_some h
    exact congrArg CacheView.welcome (requestSignals_view _ _)
  · rcases readSubscription_some h with ⟨synchronization, rfl⟩ | ⟨synchronization, rfl⟩
    · rfl
    · rfl
  · rcases readLive_some h with rfl | ⟨-, hwelcome, -⟩
    · exact requestFrames_welcome _ 0
    · exact hwelcome
  · contradiction

/-- A session is live after the commit of a synchronization or after a live update. -/
theorem handle_live {sdk' : Sdk} (h : sdk.handle message = some sdk') (hlive : sdk'.phase = .live) :
    (sdk.phase = .subscription ∧ ∃ synchronization, sdk' = sdk.commit synchronization) ∨
      sdk.phase = .live ∧ sdk'.welcome = sdk.welcome ∧ sdk'.canIdToIndex = sdk.canIdToIndex ∧
        ∃ records, applyFrames sdk.canIdToIndex sdk.welcome.frameCount.toNat records
          sdk.cache.frames = some sdk'.cache.frames := by
  unfold handle at h
  split at h
  · obtain ⟨welcome, -, rfl⟩ := readWelcome_some h
    exact absurd hlive (requestSchema_ne_live _ _)
  · obtain ⟨entries, -, rfl⟩ := readSchema_some h
    exact absurd hlive (requestSchema_ne_live _ _)
  · obtain ⟨page, -, rfl⟩ := readFramePage_some h
    exact absurd hlive (requestFrames_ne_live _ _)
  · obtain ⟨signals, count, -, rfl⟩ := readSignalPage_some h
    exact absurd hlive (requestSignals_ne_live _ _)
  · rename_i hphase
    rcases readSubscription_some h with ⟨synchronization, rfl⟩ | hcommit
    · exact absurd (hphase.symm.trans hlive) nofun
    · exact Or.inl ⟨hphase, hcommit⟩
  · rename_i hphase
    rcases readLive_some h with rfl | ⟨-, hwelcome, htable, hframes⟩
    · exact absurd hlive (requestFrames_ne_live _ _)
    · exact Or.inr ⟨hphase, hwelcome, htable, hframes⟩
  · contradiction

/-- A loop that goes on after a response has received at least one record. -/
theorem receive_loop {loop : RequestLoop} (hphase : sdk.phase = loop.phase next)
    (hnext : (sdk.receive message).phase = loop.phase next') :
    next < next' ∧ (sdk.receive message).welcome = sdk.welcome := by
  have hhandled : sdk.handle message = some (sdk.receive message) :=
    receive_handled (by rw [hnext]; cases loop <;> exact Phase.noConfusion)
  generalize sdk.receive message = sdk' at hhandled hnext ⊢
  unfold handle at hhandled
  rw [hphase] at hhandled
  cases loop with
  | schema =>
    obtain ⟨entries, hentries, rfl⟩ := readSchema_some hhandled
    refine ⟨?_, requestSchema_welcome _ _⟩
    have hpos := List.length_pos_of_ne_nil hentries
    rcases requestSchema_phase { sdk with schema := sdk.schema ++ entries }
      (next + entries.length) with h | h | h | h | h
    all_goals rw [h] at hnext
    · obtain rfl := Phase.schema.inj hnext
      omega
    all_goals cases hnext
  | frames =>
    obtain ⟨page, hrecords, rfl⟩ := readFramePage_some hhandled
    refine ⟨?_, requestFrames_welcome _ _⟩
    have hpos := List.length_pos_of_ne_nil hrecords
    rcases requestFrames_phase { sdk with
        synchronization := placePage sdk.synchronization next message.header page }
      (next + page.records.length) with h | h | h | h
    all_goals rw [h] at hnext
    · obtain rfl := Phase.frames.inj hnext
      omega
    all_goals cases hnext
  | signals =>
    obtain ⟨signals, count, hpos, rfl⟩ := readSignalPage_some hhandled
    refine ⟨?_, congrArg CacheView.welcome (requestSignals_view _ _)⟩
    rcases requestSignals_phase { sdk with
        synchronization := { sdk.synchronization with signals := signals } }
      (next + count) with h | h | h
    all_goals rw [h] at hnext
    · obtain rfl := Phase.signals.inj hnext
      omega
    all_goals cases hnext

end Loops

end Sdk

end Roadcast
