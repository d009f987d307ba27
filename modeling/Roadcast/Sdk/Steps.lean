import Roadcast.Sdk.Phases

/-!
# What the SDK does with the messages of the daemon

One lemma for each phase and each message that the daemon sends in it: no check fails, the records
are written where the daemon meant them, and the next request is sent. The requests of a session are
only ever extended, and a failed session stays failed.
-/

namespace Roadcast

open DeltaSync

variable {cat : Catalog} {config : Config cat}

/-- A paged request. -/
def indexRequest (type : MessageType) (next : ℕ) : Message :=
  outgoing type 0 0 (encodeIndexRequest (UInt32.ofNat next))

/-- `SUBSCRIBE_ALL` as the SDK sends it. -/
def subscribeRequest : Message := outgoing .subscribeAll 0 0 []

namespace Sdk

section Sent

variable (sdk : Sdk) {past : List Message}

/-- A request is added behind those sent before. -/
theorem request_sent (h : past <+: sdk.sent) (phase : Phase) (type : MessageType)
    (payload : List UInt8) : past <+: (sdk.request phase type payload).sent := by
  unfold request
  split
  · exact h
  · exact h.trans (List.prefix_append _ _)

/-- The signal loop adds its requests behind those sent before. -/
theorem requestSignals_sent (h : past <+: sdk.sent) (next : ℕ) :
    past <+: (sdk.requestSignals next).sent := by
  unfold requestSignals
  split
  · exact request_sent _ h _ _ _
  · exact request_sent _ h _ _ _

/-- The frame loop adds its requests behind those sent before. -/
theorem requestFrames_sent (h : past <+: sdk.sent) (next : ℕ) :
    past <+: (sdk.requestFrames next).sent := by
  unfold requestFrames
  split
  · exact request_sent _ h _ _ _
  · apply requestSignals_sent
    exact h

/-- The schema loop adds its requests behind those sent before. -/
theorem requestSchema_sent (h : past <+: sdk.sent) (next : ℕ) :
    past <+: (sdk.requestSchema next).sent := by
  unfold requestSchema
  split
  · exact request_sent _ h _ _ _
  · apply requestFrames_sent
    exact h

/-- No message takes a request back. -/
theorem handle_sent {message : Message} {sdk' : Sdk} (h : sdk.handle message = some sdk') :
    sdk.sent <+: sdk'.sent := by
  unfold handle at h
  split at h
  · obtain ⟨welcome, -, rfl⟩ := readWelcome_some h
    apply requestSchema_sent
    exact List.prefix_rfl
  · obtain ⟨entries, -, rfl⟩ := readSchema_some h
    apply requestSchema_sent
    exact List.prefix_rfl
  · obtain ⟨page, -, rfl⟩ := readFramePage_some h
    apply requestFrames_sent
    exact List.prefix_rfl
  · obtain ⟨signals, count, -, rfl⟩ := readSignalPage_some h
    apply requestSignals_sent
    exact List.prefix_rfl
  · rcases readSubscription_some h with ⟨synchronization, rfl⟩ | ⟨synchronization, rfl⟩
    · exact List.prefix_rfl
    · exact List.prefix_rfl
  · rcases readLive_some h with rfl | ⟨hsent, -⟩
    · apply requestFrames_sent
      exact List.prefix_rfl
    · rw [hsent]
  · contradiction

/-- Receiving a message takes back no request. -/
theorem receive_sent (message : Message) : sdk.sent <+: (sdk.receive message).sent := by
  rcases sdk.receive_cases message with ⟨cache, hfail, -⟩ | hhandled
  · rw [hfail]
    exact List.prefix_rfl
  · exact handle_sent sdk hhandled

/-- A message that is not handled ends the session. -/
theorem receive_refused {sdk : Sdk} {message : Message} (h : sdk.handle message = none) :
    (sdk.receive message).phase = .failed := by
  obtain ⟨cache, hrefuse, -⟩ := sdk.refuse_eq message
  unfold receive
  split
  · rfl
  · rw [h, Option.getD_none, hrefuse]
    rfl

/-- A failed session stays failed. -/
theorem receive_failed {sdk : Sdk} (h : sdk.phase = .failed) (message : Message) :
    (sdk.receive message).phase = .failed := by
  apply receive_refused
  rw [handle, h]

end Sent

/-- The session after one more message. -/
theorem after_append (messages : List Message) (message : Message) :
    after (messages ++ [message]) = (after messages).receive message := by
  simp [after]

/-- What was sent after part of a stream was sent after all of it. -/
theorem after_sent {received messages : List Message} (h : received <+: messages) :
    (after received).sent <+: (after messages).sent := by
  obtain ⟨rest, rfl⟩ := h
  induction rest using List.reverseRecOn with
  | nil => rw [List.append_nil]
  | append_singleton rest message ih =>
    rw [← List.append_assoc, after_append]
    exact ih.trans (receive_sent _ _)

/-- A failure in the middle of a stream is still there at its end. -/
theorem after_failed {received messages : List Message} (h : received <+: messages)
    (hfailed : (after received).phase = .failed) : (after messages).phase = .failed := by
  obtain ⟨rest, rfl⟩ := h
  induction rest using List.reverseRecOn with
  | nil => rwa [List.append_nil]
  | append_singleton rest message ih =>
    rw [← List.append_assoc, after_append]
    exact receive_failed ih message

/-- The daemon announces what its input buffer holds. -/
theorem serverWelcome_maxRequestPayload (config : Config cat) :
    (serverWelcome config).maxRequestPayload.toNat = clientInputCap - headerSize := rfl

/-- The daemon announces what its output slots hold. -/
theorem serverWelcome_maxResponsePayload (config : Config cat) :
    (serverWelcome config).maxResponsePayload.toNat = clientPayloadCap := rfl

/-- The SDK supports what the daemon announces unless the catalog has too many signals. -/
theorem serverWelcome_supported (config : Config cat) :
    (serverWelcome config).Supported ↔ cat.signalCount ≤ clientMaxSignals := by
  have hframes : (serverWelcome config).frameCount.toNat = cat.frameCount := cat.frameCountWord_toNat
  have hsignals : (serverWelcome config).signalCount.toNat = cat.signalCount :=
    cat.signalCountWord_toNat
  have hraw : (serverWelcome config).capabilities &&& capRawCan ≠ 0 := by
    show capabilities &&& capRawCan ≠ 0
    decide
  have hdecoded : (serverWelcome config).capabilities &&& capDecodedCan ≠ 0 := by
    show capabilities &&& capDecodedCan ≠ 0
    decide
  have hframePos := cat.frameCount_pos
  have hframeLe := cat.frameCount_le
  have hsignalPos := cat.signalCount_pos
  have hframeNonzero : (serverWelcome config).frameCount ≠ 0 := by
    rw [ne_eq, ← UInt32.toNat_inj, hframes]
    exact hframePos.ne'
  have hsignalNonzero : (serverWelcome config).signalCount ≠ 0 := by
    rw [ne_eq, ← UInt32.toNat_inj, hsignals]
    exact hsignalPos.ne'
  unfold Welcome.Supported
  rw [hframes, hsignals, serverWelcome_maxRequestPayload, serverWelcome_maxResponsePayload]
  refine ⟨fun h => h.2.2.2.2.2.1, fun h => ?_⟩
  refine ⟨hraw, hdecoded, hframeNonzero, ?_, hsignalNonzero, h, by decide, by decide, by decide⟩
  rw [clientMaxFrames]
  omega

/-- The handshake left the SDK with what the daemon announced. -/
structure Negotiated (config : Config cat) (sdk : Sdk) : Prop where
  welcome : sdk.welcome = serverWelcome config
  capacity : sdk.payloadCapacity = clientPayloadCap

section Requests

variable {sdk : Sdk} (h : Negotiated config sdk)
include h

/-- The session knows the frame count of the catalog. -/
theorem Negotiated.frameCount : sdk.welcome.frameCount.toNat = cat.frameCount := by
  rw [h.welcome]
  exact cat.frameCountWord_toNat

/-- The session knows the signal count of the catalog. -/
theorem Negotiated.signalCount : sdk.welcome.signalCount.toNat = cat.signalCount := by
  rw [h.welcome]
  exact cat.signalCountWord_toNat

/-- No request is longer than the daemon accepts. -/
theorem Negotiated.request {payload : List UInt8} (hpayload : payload.length ≤ schemaRequestSize)
    (phase : Phase) (type : MessageType) :
    sdk.request phase type payload =
      { sdk with phase := phase, sent := sdk.sent ++ [outgoing type 0 0 payload] } := by
  have hmax : schemaRequestSize ≤ sdk.welcome.maxRequestPayload.toNat := by
    rw [h.welcome, serverWelcome_maxRequestPayload]
    decide
  exact Sdk.request_eq (hpayload.trans hmax)

/-- The session requests the next signal page. -/
theorem Negotiated.requestSignals {next : ℕ} (hnext : next < cat.signalCount) :
    sdk.requestSignals next = { sdk with
      phase := .signals next
      sent := sdk.sent ++ [indexRequest .getSignalSnapshot next] } := by
  rw [Sdk.requestSignals, h.signalCount, if_pos hnext]
  exact h.request (by simp) _ _

/-- After the last signal page the session subscribes. -/
theorem Negotiated.subscribe :
    sdk.requestSignals cat.signalCount = { sdk with
      phase := .subscription
      sent := sdk.sent ++ [subscribeRequest] } := by
  rw [Sdk.requestSignals, h.signalCount, if_neg (Nat.lt_irrefl _)]
  exact h.request (by simp) _ _

/-- The session requests the next frame page. -/
theorem Negotiated.requestFrames {next : ℕ} (hnext : next < cat.frameCount) :
    sdk.requestFrames next = { sdk with
      phase := .frames next
      sent := sdk.sent ++ [indexRequest .getSnapshot next] } := by
  rw [Sdk.requestFrames, h.frameCount, if_pos hnext]
  exact h.request (by simp) _ _

/-- After the last frame page the CAN IDs are indexed and the signals requested. -/
theorem Negotiated.beginSignals :
    sdk.requestFrames cat.frameCount = { sdk with
      phase := .signals 0
      canIdToIndex := sdk.indexCanIds sdk.synchronization.frames sdk.canIdToIndex
      sent := sdk.sent ++ [indexRequest .getSignalSnapshot 0] } := by
  rw [Sdk.requestFrames, h.frameCount, if_neg (Nat.lt_irrefl _)]
  have hindexed : Negotiated config { sdk with
      canIdToIndex := sdk.indexCanIds sdk.synchronization.frames sdk.canIdToIndex } :=
    ⟨h.welcome, h.capacity⟩
  exact hindexed.requestSignals cat.signalCount_pos

/-- A synchronization begins with the first frame page. -/
theorem Negotiated.synchronize :
    sdk.synchronize = { sdk with
      phase := .frames 0
      synchronization := .zero
      sent := sdk.sent ++ [indexRequest .getSnapshot 0] } := by
  have hzero : Negotiated config { sdk with synchronization := .zero } := ⟨h.welcome, h.capacity⟩
  exact hzero.requestFrames cat.frameCount_pos

/-- The session requests the next schema page. -/
theorem Negotiated.requestSchema {next : ℕ} (hnext : next < cat.signalCount) :
    sdk.requestSchema next = { sdk with
      phase := .schema next
      sent := sdk.sent ++ [indexRequest .getSchema next] } := by
  rw [Sdk.requestSchema, h.signalCount, if_pos hnext]
  exact h.request (by simp) _ _

/-- After the last schema page the session synchronizes. -/
theorem Negotiated.endSchema : sdk.requestSchema cat.signalCount = sdk.synchronize := by
  rw [Sdk.requestSchema, h.signalCount, if_neg (Nat.lt_irrefl _)]

/-- The table holds every CAN ID once it is filled from entries that carry theirs. -/
theorem Negotiated.knows {frames : ℕ → Frame} (hframes : CarriesCanIds cat frames)
    (table : ℕ → UInt16) : KnowsCanIds cat (sdk.indexCanIds frames table) := by
  have hcanIds : ((List.range sdk.welcome.frameCount.toNat).map fun i => (frames i).canId) =
      List.ofFn cat.canIds := by
    rw [h.frameCount]
    refine List.ext_getElem (by simp) fun k hk _ => ?_
    rw [List.length_map, List.length_range] at hk
    simpa using hframes ⟨k, hk⟩
  rw [indexCanIds, hcanIds]
  exact fillCanIdTable_knows table

end Requests

section Messages

variable {sdk sdk' : Sdk} {sequence timestampNs sampleSequence : UInt64} {payload : List UInt8}

/-- `read_message` accepts every message of the daemon that fits its buffers. -/
theorem Negotiated.receive (h : Negotiated config sdk) {type : MessageType}
    (hlength : payload.length ≤ clientPayloadCap)
    (hhandle : sdk.handle (outgoing type sequence timestampNs payload) = some sdk') :
    sdk.receive (outgoing type sequence timestampNs payload) = sdk' := by
  have hbytes : (UInt32.ofNat payload.length).toNat = payload.length := by
    simp only [clientPayloadCap, clientMessageCap, headerSize] at hlength
    rw [UInt32.toNat_ofNat']
    omega
  have haccepted : ¬ ((outgoing type sequence timestampNs payload).header.version ≠ protocolVersion ∨
      (outgoing type sequence timestampNs payload).header.flags ≠ 0 ∨
      (outgoing type sequence timestampNs payload).header.payloadBytes.toNat >
        sdk.payloadCapacity) := by
    simp only [outgoing, hbytes, h.capacity]
    simpa using hlength
  rw [Sdk.receive, if_neg haccepted, hhandle]
  rfl

/-- The welcome is accepted unless it announces more signals than the SDK takes. -/
theorem connect_receive_welcome (config : Config cat) (sequence timestampNs : UInt64) :
    connect.receive (outgoing .welcome sequence timestampNs (encodeWelcome (serverWelcome config))) =
      if cat.signalCount ≤ clientMaxSignals then
        requestSchema { connect with
          welcome := serverWelcome config
          payloadCapacity := clientPayloadCap } 0
      else connect.fail := by
  have hread : connect.handle (outgoing .welcome sequence timestampNs
      (encodeWelcome (serverWelcome config))) = if cat.signalCount ≤ clientMaxSignals then
        some (requestSchema { connect with
          welcome := serverWelcome config
          payloadCapacity := clientPayloadCap } 0)
      else none := by
    show readWelcome connect _ = _
    simp only [readWelcome, outgoing, ne_eq, not_true_eq_false, if_false,
      decodeWelcome_encodeWelcome, serverWelcome_supported]
    rfl
  have haccepted : ¬ ((outgoing .welcome sequence timestampNs
      (encodeWelcome (serverWelcome config))).header.version ≠ protocolVersion ∨
      (outgoing .welcome sequence timestampNs
        (encodeWelcome (serverWelcome config))).header.flags ≠ 0 ∨
      (outgoing .welcome sequence timestampNs
        (encodeWelcome (serverWelcome config))).header.payloadBytes.toNat >
        connect.payloadCapacity) := by
    simp only [outgoing, encodeWelcome_length]
    decide
  rw [Sdk.receive, if_neg haccepted, hread]
  split
  · rfl
  · rfl

/-- A schema chunk at the requested index is accepted and moves the index on. -/
theorem Negotiated.receive_schemaChunk (h : Negotiated config sdk) {startIndex : UInt32}
    (hphase : sdk.phase = .schema startIndex.toNat)
    (hpayload : encodeSchemaChunk cat clientPayloadCap startIndex = some payload) :
    let entries := schemaChunkEntries cat clientPayloadCap startIndex
    entries ≠ [] ∧ startIndex.toNat + entries.length ≤ cat.signalCount ∧
      sdk.receive (outgoing .schemaChunk sequence timestampNs payload) =
        Sdk.requestSchema { sdk with schema := sdk.schema ++ entries }
          (startIndex.toNat + entries.length) := by
  have hcount := schemaChunkEntries_length_le cat clientPayloadCap startIndex
  rw [← h.signalCount] at hcount
  obtain ⟨hdecode, hlength, hentries, hwithin⟩ := decodeSchemaChunk_encode cat clientPayloadCap
    startIndex payload (sdk.welcome.signalCount.toNat - startIndex.toNat) hpayload hcount
  refine ⟨hentries, hwithin, h.receive hlength ?_⟩
  have hversion : schemaVersion = sdk.welcome.schemaVersion := by rw [h.welcome]; rfl
  have hhash : cat.schemaHash = sdk.welcome.schemaHash := by rw [h.welcome]; rfl
  have htotal : cat.signalCountWord = sdk.welcome.signalCount := by rw [h.welcome]; rfl
  simp only [handle, hphase, readSchema, outgoing, ne_eq, not_true_eq_false, if_false, hdecode,
    hversion, hhash, htotal, hentries, or_self]

/-- A frame page of the frozen copy at the requested index is accepted and written. -/
theorem Negotiated.receive_framePage (h : Negotiated config sdk) {startIndex : UInt32}
    {frames : Fin cat.frameCount → Frame} (hframes : CatalogFrames frames)
    (hphase : sdk.phase = .frames startIndex.toNat) (hstart : startIndex.toNat < cat.frameCount)
    (hpayload : encodeFrameBatch clientPayloadCap sampleSequence cat.frameCountWord startIndex
      ((framePageIndices cat startIndex.toNat).map frames) = some payload)
    (hlength : payload.length ≤ clientPayloadCap)
    (hsame : startIndex.toNat ≠ 0 → sdk.synchronization.sampleSequence = sampleSequence ∧
      sdk.synchronization.changeSequence = sequence ∧
      sdk.synchronization.sampleTimestampNs = timestampNs) :
    ∃ synchronization : Synchronization,
      sdk.receive (outgoing .snapshot sequence timestampNs payload) =
        Sdk.requestFrames { sdk with synchronization := synchronization }
          (startIndex.toNat + (framePageIndices cat startIndex.toNat).length) ∧
      synchronization.sampleSequence = sampleSequence ∧
      synchronization.changeSequence = sequence ∧
      synchronization.sampleTimestampNs = timestampNs ∧
      entries cat.frameCount synchronization.frames =
        overlay (framePageIndices cat startIndex.toNat) frames
          (entries cat.frameCount sdk.synchronization.frames) ∧
      synchronization.signals = sdk.synchronization.signals := by
  have hcount := h.frameCount
  have hsize : (framePageIndices cat startIndex.toNat).length ≤
      sdk.welcome.frameCount.toNat - startIndex.toNat := by
    rw [hcount, framePageIndices, List.length_take, List.length_drop, List.length_finRange]
    exact Nat.min_le_right _ _
  have hnonempty : (framePageIndices cat startIndex.toNat).map frames ≠ [] := by
    rw [ne_eq, List.map_eq_nil_iff, framePageIndices, List.take_eq_nil_iff, List.drop_eq_nil_iff,
      List.length_finRange]
    exact not_or.mpr ⟨by decide, by omega⟩
  have hdecode := decodeFrameBatch_of_indices _ hframes hpayload hsize
    (startIndexAllowed_page cat.frameCount _ _ _ cat.frameCountWord_toNat hstart.le)
  have htotal : cat.frameCountWord = sdk.welcome.frameCount := by rw [h.welcome]; rfl
  have hplaced := entries_placeFrames startIndex.toNat (framePageIndices cat startIndex.toNat) frames
    sdk.synchronization.frames (page_consecutive _ _ _)
  have hsequences : ¬ (startIndex.toNat ≠ 0 ∧
      (sampleSequence ≠ sdk.synchronization.sampleSequence ∨
        sequence ≠ sdk.synchronization.changeSequence ∨
        timestampNs ≠ sdk.synchronization.sampleTimestampNs)) := by
    rintro ⟨hnonzero, hdiffers⟩
    obtain ⟨hsample, hchange, htimestamp⟩ := hsame hnonzero
    simp [hsample, hchange, htimestamp] at hdiffers
  refine ⟨placePage sdk.synchronization startIndex.toNat
    (outgoing .snapshot sequence timestampNs payload).header ⟨sampleSequence, cat.frameCountWord,
      startIndex, (framePageIndices cat startIndex.toNat).map frames⟩, h.receive hlength ?_, ?_⟩
  · simp only [handle, hphase, readFramePage, outgoing, ne_eq, not_true_eq_false, if_false, hdecode,
      htotal, hnonempty, or_self, List.length_map] at hsequences ⊢
    rw [if_neg hsequences]
  · by_cases hzero : startIndex.toNat = 0
    · rw [placePage, if_pos hzero]
      exact ⟨rfl, rfl, rfl, hplaced, rfl⟩
    · obtain ⟨hsample, hchange, htimestamp⟩ := hsame hzero
      rw [placePage, if_neg hzero]
      exact ⟨hsample, hchange, htimestamp, hplaced, rfl⟩

/-- The scratch buffer holds the signals of any message of the daemon. -/
theorem Negotiated.signalScratchCapacity (h : Negotiated config sdk) :
    sdk.signalScratchCapacity = signalsPerMessage := by
  rw [Sdk.signalScratchCapacity, h.welcome, serverWelcome_maxResponsePayload]
  rfl

/-- The scratch buffer holds the frames of any message of the daemon. -/
theorem Negotiated.frameScratchCapacity (h : Negotiated config sdk) :
    sdk.frameScratchCapacity = framesPerMessage := by
  rw [Sdk.frameScratchCapacity, h.welcome, serverWelcome_maxResponsePayload]
  rfl

/-- A signal page of the frozen copy at the requested index is accepted and written. -/
theorem Negotiated.receive_signalPage (h : Negotiated config sdk) {startIndex : UInt32}
    {signals : Fin cat.signalCount → SignalValue} (hsignals : ∀ i, SignalConsistent i (signals i))
    (hphase : sdk.phase = .signals startIndex.toNat) (hstart : startIndex.toNat < cat.signalCount)
    (hpayload : encodeSignalBatch clientPayloadCap sdk.synchronization.sampleSequence
      cat.signalCountWord startIndex
      ((signalPageIndices cat startIndex.toNat).map (signalUpdate signals)) = some payload)
    (hlength : payload.length ≤ clientPayloadCap) :
    ∃ array : ℕ → SignalValue,
      sdk.receive (outgoing .signalSnapshotChunk sdk.synchronization.changeSequence
        sdk.synchronization.sampleTimestampNs payload) =
        Sdk.requestSignals { sdk with
          synchronization := { sdk.synchronization with signals := array } }
          (startIndex.toNat + (signalPageIndices cat startIndex.toNat).length) ∧
      entries cat.signalCount array = overlay (signalPageIndices cat startIndex.toNat) signals
        (entries cat.signalCount sdk.synchronization.signals) := by
  have hsize := encodeSignalBatch_count hpayload
  rw [List.length_map] at hsize
  have hnonempty : (signalPageIndices cat startIndex.toNat).map (signalUpdate signals) ≠ [] := by
    rw [ne_eq, List.map_eq_nil_iff, signalPageIndices, List.take_eq_nil_iff, List.drop_eq_nil_iff,
      List.length_finRange]
    exact not_or.mpr ⟨by decide, by omega⟩
  have hdecode := decodeSignalBatch_of_indices signalsPerMessage hsignals hpayload hsize
    (startIndexAllowed_page cat.signalCount _ _ _ cat.signalCountWord_toNat hstart.le)
  have htotal : cat.signalCountWord = sdk.welcome.signalCount := by rw [h.welcome]; rfl
  obtain ⟨array, happly, hentries⟩ := entries_placeSignals startIndex.toNat
    (signalPageIndices cat startIndex.toNat) signals sdk.synchronization.signals
    (page_consecutive _ _ _)
  refine ⟨array, h.receive hlength ?_, hentries⟩
  simp only [handle, hphase, readSignalPage, outgoing, ne_eq, not_true_eq_false, if_false, or_self,
    h.signalScratchCapacity, hdecode, htotal, hnonempty, h.signalCount, happly, List.length_map]

/-- An update batch of frames is never refused. It overwrites the frames it lists if CAN IDs are
distinct, and keeps the CAN IDs in place in any case. -/
theorem Negotiated.applyFrameBatch (h : Negotiated config sdk)
    (hknows : KnowsCanIds cat sdk.canIdToIndex) {indices : List (Fin cat.frameCount)}
    {frames : Fin cat.frameCount → Frame} (hframes : CatalogFrames frames)
    (hpayload : encodeFrameBatch clientPayloadCap sampleSequence cat.frameCountWord uint32Max
      (indices.map frames) = some payload) (target : Synchronization) :
    ∃ target' : Synchronization,
      sdk.applyFrameBatch target (outgoing .updateBatch sequence timestampNs payload) =
        some target' ∧
      target'.signals = target.signals ∧
      (CarriesCanIds cat target.frames → CarriesCanIds cat target'.frames) ∧
      (Function.Injective cat.canIds → entries cat.frameCount target'.frames =
        overlay indices frames (entries cat.frameCount target.frames)) := by
  have hsize := encodeFrameBatch_count hpayload
  rw [List.length_map] at hsize
  have hdecode := decodeFrameBatch_of_indices framesPerMessage hframes hpayload hsize
    (startIndexAllowed_delta _ _)
  have htotal : cat.frameCountWord = sdk.welcome.frameCount := by rw [h.welcome]; rfl
  obtain ⟨array, happly, hcarries, hentries⟩ := entries_applyFrames hknows indices hframes
    target.frames
  refine ⟨{ target with
    frames := array
    sampleSequence := sampleSequence
    changeSequence := sequence
    sampleTimestampNs := timestampNs }, ?_, rfl, hcarries, hentries⟩
  simp only [Sdk.applyFrameBatch, outgoing, h.frameScratchCapacity, hdecode, htotal, ne_eq,
    not_true_eq_false, or_self, if_false, h.frameCount, happly, Option.map_some]

/-- An update batch of signals is never refused and overwrites the signals it lists. -/
theorem Negotiated.applySignalBatch (h : Negotiated config sdk)
    {indices : List (Fin cat.signalCount)} {signals : Fin cat.signalCount → SignalValue}
    (hsignals : ∀ i, SignalConsistent i (signals i))
    (hpayload : encodeSignalBatch clientPayloadCap sampleSequence cat.signalCountWord uint32Max
      (indices.map (signalUpdate signals)) = some payload) (target : Synchronization) :
    ∃ target' : Synchronization,
      sdk.applySignalBatch target (outgoing .signalUpdateBatch sequence timestampNs payload) =
        some target' ∧
      target'.frames = target.frames ∧
      entries cat.signalCount target'.signals =
        overlay indices signals (entries cat.signalCount target.signals) := by
  have hsize := encodeSignalBatch_count hpayload
  rw [List.length_map] at hsize
  have hdecode := decodeSignalBatch_of_indices signalsPerMessage hsignals hpayload hsize
    (startIndexAllowed_delta _ _)
  have htotal : cat.signalCountWord = sdk.welcome.signalCount := by rw [h.welcome]; rfl
  obtain ⟨array, happly, hentries⟩ := entries_applySignals indices signals target.signals
  refine ⟨{ target with
    signals := array
    sampleSequence := sampleSequence
    changeSequence := sequence
    sampleTimestampNs := timestampNs }, ?_, rfl, hentries⟩
  simp only [Sdk.applySignalBatch, outgoing, h.signalScratchCapacity, hdecode, htotal, ne_eq,
    not_true_eq_false, or_self, if_false, h.signalCount, happly, Option.map_some]

section Updates

variable {target : Synchronization} (h : Negotiated config sdk)
  (hlength : payload.length ≤ clientPayloadCap)
include h hlength

/-- During catch-up update batches go to the synchronization. -/
theorem Negotiated.receive_catchupFrames (hphase : sdk.phase = .subscription)
    (happly : sdk.applyFrameBatch sdk.synchronization
      (outgoing .updateBatch sequence timestampNs payload) = some target) :
    sdk.receive (outgoing .updateBatch sequence timestampNs payload) =
      { sdk with synchronization := target } := by
  refine h.receive hlength ?_
  simp only [handle, hphase, readSubscription, happly]
  simp only [outgoing, MessageType.ofCode_code, Option.map_some]

/-- A batch of signals during the subscription goes into the synchronization. -/
theorem Negotiated.receive_catchupSignals (hphase : sdk.phase = .subscription)
    (happly : sdk.applySignalBatch sdk.synchronization
      (outgoing .signalUpdateBatch sequence timestampNs payload) = some target) :
    sdk.receive (outgoing .signalUpdateBatch sequence timestampNs payload) =
      { sdk with synchronization := target } := by
  refine h.receive hlength ?_
  simp only [handle, hphase, readSubscription, happly]
  simp only [outgoing, MessageType.ofCode_code, Option.map_some]

/-- After the subscription they go to the cache. -/
theorem Negotiated.receive_liveFrames (hphase : sdk.phase = .live)
    (happly : sdk.applyFrameBatch sdk.cache
      (outgoing .updateBatch sequence timestampNs payload) = some target) :
    sdk.receive (outgoing .updateBatch sequence timestampNs payload) =
      { sdk with cache := target } := by
  refine h.receive hlength ?_
  simp only [handle, hphase, readLive, happly]
  simp only [outgoing, MessageType.ofCode_code, Option.map_some]

/-- A batch of signals of a live session goes into the cache. -/
theorem Negotiated.receive_liveSignals (hphase : sdk.phase = .live)
    (happly : sdk.applySignalBatch sdk.cache
      (outgoing .signalUpdateBatch sequence timestampNs payload) = some target) :
    sdk.receive (outgoing .signalUpdateBatch sequence timestampNs payload) =
      { sdk with cache := target } := by
  refine h.receive hlength ?_
  simp only [handle, hphase, readLive, happly]
  simp only [outgoing, MessageType.ofCode_code, Option.map_some]

end Updates

/-- `SUBSCRIBED` ends the synchronization. -/
theorem Negotiated.receive_subscribed (h : Negotiated config sdk) (hphase : sdk.phase = .subscription)
    (sequence timestampNs : UInt64) :
    sdk.receive (outgoing .subscribed sequence timestampNs []) =
      sdk.commit { sdk.synchronization with
        changeSequence := sequence
        sampleTimestampNs := timestampNs } := by
  refine h.receive (Nat.zero_le _) ?_
  simp only [handle, hphase, readSubscription, outgoing, MessageType.ofCode_code]

/-- A heartbeat of the daemon is accepted and leaves the arrays alone. -/
theorem Negotiated.receive_heartbeat (h : Negotiated config sdk) (hphase : sdk.phase = .live)
    (heartbeat : Heartbeat) (timestampNs : UInt64) :
    ∃ sdk' : Sdk,
      sdk.receive (outgoing .heartbeat heartbeat.changeSequence timestampNs
        (encodeHeartbeat heartbeat)) = sdk' ∧
      sdk'.phase = .live ∧ sdk'.welcome = sdk.welcome ∧
      sdk'.payloadCapacity = sdk.payloadCapacity ∧ sdk'.canIdToIndex = sdk.canIdToIndex ∧
      sdk'.cache.toReplica = sdk.cache.toReplica ∧ sdk'.sent = sdk.sent := by
  refine ⟨{ sdk with
    cache := { sdk.cache with
      sampleSequence := heartbeat.sampleSequence
      changeSequence := heartbeat.changeSequence
      sampleTimestampNs := timestampNs }
    droppedBatches := heartbeat.droppedBatches
    coalescedSamples := heartbeat.coalescedSamples
    effectiveHzMillihz := heartbeat.effectiveHzMillihz
    sourceState := heartbeat.sourceState }, h.receive ?_ ?_, hphase, rfl, rfl, rfl, rfl, rfl⟩
  · rw [encodeHeartbeat_length]
    decide
  · simp only [handle, hphase, readLive, outgoing, MessageType.ofCode_code, applyHeartbeat,
      decodeHeartbeat_encodeHeartbeat, ne_eq, not_true_eq_false, if_false]

/-- `RESYNC_REQUIRED` begins a synchronization. -/
theorem Negotiated.receive_resyncRequired (h : Negotiated config sdk) (hphase : sdk.phase = .live)
    (sequence timestampNs : UInt64) :
    sdk.receive (outgoing .resyncRequired sequence timestampNs []) = sdk.synchronize := by
  refine h.receive (Nat.zero_le _) ?_
  simp only [handle, hphase, readLive, outgoing, MessageType.ofCode_code]
  rfl

end Messages

end Sdk

end Roadcast
