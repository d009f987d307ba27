import Roadcast.System.Coherence

/-!
# Requests keep the two sides at the same step

The daemon answers the only outstanding request of the SDK with the message that the SDK waits for.
One lemma for each request that is answered from the record of the session; the subscription starts a
catch-up and is treated with it.
-/

namespace Roadcast

open DeltaSync Relation

variable {cat : Catalog} {config : Config cat} {R : Frame → Frame → Prop}
  {canonical : Canonical cat} {env : Env cat} {request : Message} {client client' : Client cat}
  {handled : ℕ}

section Replies

/-- The answer to `HELLO` is `WELCOME`. -/
theorem Reply.of_hello (hreply : Reply config canonical env request client client')
    (htype : request.header.type = MessageType.hello.code) :
    ∃ queued : Client cat,
      Pushes config canonical (outgoing .welcome canonical.changeSequence
        canonical.sampleTimestampNs (encodeWelcome (serverWelcome config))) client queued ∧
      client' = queued.greet env.monotonicNs := by
  cases hreply
  case welcome queued _ _ hpush => exact ⟨queued, hpush, rfl⟩
  all_goals
    rename request.header.type = _ => hother
    exact absurd (htype.symm.trans hother) (by decide)

/-- The answer to `GET_SCHEMA` is a chunk at the requested index. -/
theorem Reply.of_getSchema (hreply : Reply config canonical env request client client')
    (htype : request.header.type = MessageType.getSchema.code) :
    ∃ (startIndex : UInt32) (payload : List UInt8),
      decodeIndexRequest request.payload = some startIndex ∧
      encodeSchemaChunk cat clientPayloadCap startIndex = some payload ∧
      Pushes config canonical (outgoing .schemaChunk canonical.changeSequence
        canonical.sampleTimestampNs payload) client client' := by
  cases hreply
  case schema startIndex payload _ _ hstart hpayload hpush =>
    exact ⟨startIndex, payload, hstart, hpayload, hpush⟩
  all_goals
    rename request.header.type = _ => hother
    exact absurd (htype.symm.trans hother) (by decide)

/-- The answer to `GET_SNAPSHOT` is the first page of a new copy, or the next page of the copy that
is being sent. -/
theorem Reply.of_getSnapshot (hreply : Reply config canonical env request client client')
    (htype : request.header.type = MessageType.getSnapshot.code) :
    ∃ (startIndex : UInt32) (source queued : Client cat) (payload : List UInt8),
      decodeIndexRequest request.payload = some startIndex ∧
      (source = beginSnapshot canonical env client ∧ client.snapshotActive = false ∧
          startIndex = 0 ∨
        source = client ∧ client.snapshotActive = true) ∧
      startIndex.toNat = source.snapshotNextFrameIndex ∧ startIndex.toNat < cat.frameCount ∧
      framePagePayload source startIndex = some payload ∧
      Pushes config canonical (outgoing .snapshot source.snapshotChangeSequence
        source.snapshotTimestampNs payload) source queued ∧
      client' = queued.advanceFrames (framePageIndices cat startIndex.toNat).length := by
  cases hreply
  case firstFramePage payload queued _ _ hstart hinactive hpayload hpush =>
    exact ⟨0, _, queued, payload, hstart, Or.inl ⟨rfl, hinactive, rfl⟩, rfl, cat.frameCount_pos,
      hpayload, hpush, rfl⟩
  case framePage startIndex payload queued _ _ hstart hactive _ hnext hlt hpayload hpush =>
    exact ⟨startIndex, _, queued, payload, hstart, Or.inr ⟨rfl, hactive⟩, hnext, hlt, hpayload, hpush,
      rfl⟩
  all_goals
    rename request.header.type = _ => hother
    exact absurd (htype.symm.trans hother) (by decide)

/-- The answer to `GET_SIGNAL_SNAPSHOT` is the next page of signals. -/
theorem Reply.of_getSignalSnapshot (hreply : Reply config canonical env request client client')
    (htype : request.header.type = MessageType.getSignalSnapshot.code) :
    ∃ (startIndex : UInt32) (queued : Client cat) (payload : List UInt8),
      decodeIndexRequest request.payload = some startIndex ∧
      startIndex.toNat = client.snapshotNextIndex ∧ startIndex.toNat < cat.signalCount ∧
      signalPagePayload client startIndex = some payload ∧
      Pushes config canonical (outgoing .signalSnapshotChunk client.snapshotChangeSequence
        client.snapshotTimestampNs payload) client queued ∧
      client' = queued.advanceSignals (signalPageIndices cat startIndex.toNat).length := by
  cases hreply
  case signalPage startIndex payload queued _ _ hstart _ _ hnext hlt hpayload hpush =>
    exact ⟨startIndex, queued, payload, hstart, hnext, hlt, hpayload, hpush, rfl⟩
  all_goals
    rename request.header.type = _ => hother
    exact absurd (htype.symm.trans hother) (by decide)

/-- The answer to `SUBSCRIBE_ALL` is a round of catch-up, driven as far as the queue allows. -/
theorem Reply.of_subscribeAll (hreply : Reply config canonical env request client client')
    (htype : request.header.type = MessageType.subscribeAll.code) :
    ∃ driven : Client cat,
      ReflTransGen (DriveMove config canonical env)
        (beginCatchupRound canonical { client with catchupActive := true }) driven ∧
      client' = noteWaiting config env driven := by
  cases hreply
  case subscribe driven _ _ _ _ hmoves _ => exact ⟨driven, hmoves, rfl⟩
  all_goals
    rename request.header.type = _ => hother
    exact absurd (htype.symm.trans hother) (by decide)

/-- The start index of a request is read back. -/
@[simp] theorem decodeIndexRequest_indexRequest (type : MessageType) (next : ℕ) :
    decodeIndexRequest (indexRequest type next).payload = some (UInt32.ofNat next) :=
  decodeIndexRequest_encodeIndexRequest _

end Replies

namespace Coherent

/-- `WELCOME` brings the first schema request, unless the SDK gives up. -/
theorem greeted {queued : Client cat} (nowNs : ℕ) (hquiet : Quiet client)
    (hsdk : client.sdk = Sdk.connect)
    (hpush : Pushes config canonical (outgoing .welcome canonical.changeSequence
      canonical.sampleTimestampNs (encodeWelcome (serverWelcome config))) client queued) :
    Coherent config R canonical (queued.greet nowNs) 1 queued.sdk := by
  have hsdk' := hpush.sdk
  rw [hsdk, Sdk.connect_receive_welcome] at hsdk'
  obtain ⟨slot, -, -, rfl⟩ := hpush.takes
  rw [hsdk']
  split
  · have hnegotiated : Sdk.Negotiated config { Sdk.connect with
        welcome := serverWelcome config
        payloadCapacity := clientPayloadCap } := ⟨rfl, rfl⟩
    rw [hnegotiated.requestSchema cat.signalCount_pos]
    exact .schema 0 { hquiet with } ⟨rfl, rfl⟩ rfl cat.signalCount_pos ⟨Sdk.connect.sent, rfl, rfl⟩
  · rename_i hmany
    exact .rejected { hquiet with } rfl (Nat.not_le.mp hmany)
      ⟨Sdk.connect.sent, (List.append_nil _).symm, rfl⟩

/-- A schema chunk brings the next schema request or, after the last one, the first page request. -/
theorem schemaSent {startIndex : UInt32} {payload : List UInt8} {request : Message}
    (hquiet : Quiet client) (hnegotiated : Sdk.Negotiated config client.sdk)
    (hphase : client.sdk.phase = .schema startIndex.toNat)
    (hout : Outstanding client.sdk handled [request])
    (hpayload : encodeSchemaChunk cat clientPayloadCap startIndex = some payload)
    (hpush : Pushes config canonical (outgoing .schemaChunk canonical.changeSequence
      canonical.sampleTimestampNs payload) client client') :
    Coherent config R canonical client' (handled + 1) client'.sdk := by
  obtain ⟨hnonempty, hwithin, hreceive⟩ := hnegotiated.receive_schemaChunk hphase hpayload
  have hsdk := hpush.sdk
  rw [hreceive] at hsdk
  obtain ⟨slot, -, -, rfl⟩ := hpush.takes
  have hnegotiated' : Sdk.Negotiated config
      { client.sdk with
        schema := client.sdk.schema ++ schemaChunkEntries cat clientPayloadCap startIndex } :=
    ⟨hnegotiated.welcome, hnegotiated.capacity⟩
  rw [hsdk]
  rcases Nat.lt_or_eq_of_le hwithin with hmore | hdone
  · rw [hnegotiated'.requestSchema hmore]
    exact .schema _ { hquiet with } ⟨hnegotiated.welcome, hnegotiated.capacity⟩ rfl hmore
      (hout.next rfl)
  · rw [hdone, hnegotiated'.endSchema, hnegotiated'.synchronize]
    exact .start { hquiet with } ⟨hnegotiated.welcome, hnegotiated.capacity⟩ rfl (hout.next rfl)

/-- A frame page brings the next page request or, after the last one, the first request for
signals. -/
theorem framePaged {startIndex : UInt32} {payload : List UInt8} {queued : Client cat}
    {request : Message} (hflags : Synchronizing client) (hcatchup : client.catchupActive = false)
    (hcopy : CopySound client) (hactive : client.snapshotActive = true)
    (hcomplete : client.snapshotFramesComplete = false) (hfirst : client.snapshotNextIndex = 0)
    (hframes : CopiedBelow client.snapshotNextFrameIndex client.snapshotFrames
      (entries cat.frameCount client.sdk.synchronization.frames))
    (hnegotiated : Sdk.Negotiated config client.sdk)
    (hphase : client.sdk.phase = .frames startIndex.toNat)
    (hsame : startIndex.toNat ≠ 0 →
      client.sdk.synchronization.sampleSequence = client.snapshotSampleSequence ∧
      client.sdk.synchronization.changeSequence = client.snapshotChangeSequence ∧
      client.sdk.synchronization.sampleTimestampNs = client.snapshotTimestampNs)
    (hout : Outstanding client.sdk handled [request])
    (hnext : startIndex.toNat = client.snapshotNextFrameIndex)
    (hlt : startIndex.toNat < cat.frameCount)
    (hpayload : framePagePayload client startIndex = some payload)
    (hpush : Pushes config canonical (outgoing .snapshot client.snapshotChangeSequence
      client.snapshotTimestampNs payload) client queued) :
    Coherent config R canonical
      (queued.advanceFrames (framePageIndices cat startIndex.toNat).length) (handled + 1)
      queued.sdk := by
  obtain ⟨synchronization, hreceive, hsample, hchange, htimestamp, hentries, -⟩ :=
    hnegotiated.receive_framePage hcopy.frames hphase hlt hpayload hpush.length_le hsame
  have hnegotiated' : Sdk.Negotiated config
      { client.sdk with synchronization := synchronization } :=
    ⟨hnegotiated.welcome, hnegotiated.capacity⟩
  have hcopied : CopiedBelow
      (client.snapshotNextFrameIndex + (framePageIndices cat startIndex.toNat).length)
      client.snapshotFrames (entries cat.frameCount synchronization.frames) := by
    rw [hentries, hnext]
    exact hframes.page framesPerMessage
  have hunsent : CopiedBelow client.snapshotNextIndex client.snapshotSignals
      (entries cat.signalCount synchronization.signals) := by
    rw [hfirst]
    exact CopiedBelow.zero _ _
  have hwithin := framePage_within hlt.le
  have hsdk := hpush.sdk
  rw [hreceive] at hsdk
  rw [hsdk]
  obtain ⟨slot, -, -, rfl⟩ := hpush.takes
  rw [hnext] at hwithin ⊢
  rw [hnext] at hcopied
  rcases Nat.lt_or_eq_of_le hwithin with hmore | hdone
  · rw [hnegotiated'.requestFrames hmore]
    refine .frames ⟨{ hflags with }, hcatchup, { hcopy with }, hsample, hchange, htimestamp, hcopied,
      hunsent⟩ hactive ?_ hfirst ⟨hnegotiated.welcome, hnegotiated.capacity⟩ rfl (hout.next rfl)
    simp [Client.advanceFrames, Client.record, Client.fill, hcomplete, hmore.ne]
  · rw [hdone, hnegotiated'.beginSignals, ← hfirst]
    have hcarries : CarriesCanIds cat synchronization.frames := by
      intro i
      have hentry : synchronization.frames i.val = client.snapshotFrames i :=
        hcopied i (lt_of_lt_of_eq i.isLt hdone.symm)
      rw [hentry]
      exact (hcopy.frames i).1
    exact .signals ⟨{ hflags with }, hcatchup, { hcopy with }, hsample, hchange, htimestamp, hcopied,
      hunsent⟩ hactive hdone ⟨hnegotiated.welcome, hnegotiated.capacity⟩
      (hnegotiated'.knows hcarries _) rfl (hout.next rfl)

/-- A signal page brings the next request for signals or, after the last one, the subscription
request. -/
theorem signalPaged {startIndex : UInt32} {payload : List UInt8} {queued : Client cat}
    {request : Message} (hcopying : Copying client client.sdk.synchronization)
    (hactive : client.snapshotActive = true)
    (hframes : client.snapshotNextFrameIndex = cat.frameCount)
    (hnegotiated : Sdk.Negotiated config client.sdk)
    (hknows : KnowsCanIds cat client.sdk.canIdToIndex)
    (hphase : client.sdk.phase = .signals startIndex.toNat)
    (hout : Outstanding client.sdk handled [request])
    (hnext : startIndex.toNat = client.snapshotNextIndex) (hlt : startIndex.toNat < cat.signalCount)
    (hpayload : signalPagePayload client startIndex = some payload)
    (hpush : Pushes config canonical (outgoing .signalSnapshotChunk client.snapshotChangeSequence
      client.snapshotTimestampNs payload) client queued) :
    Coherent config R canonical
      (queued.advanceSignals (signalPageIndices cat startIndex.toNat).length) (handled + 1)
      queued.sdk := by
  rw [signalPagePayload, ← hcopying.sampleSequence] at hpayload
  obtain ⟨array, hreceive, hentries⟩ := hnegotiated.receive_signalPage hcopying.copy.signals hphase
    hlt hpayload hpush.length_le
  rw [hcopying.changeSequence, hcopying.timestampNs] at hreceive
  have hnegotiated' : Sdk.Negotiated config { client.sdk with
      synchronization := { client.sdk.synchronization with signals := array } } :=
    ⟨hnegotiated.welcome, hnegotiated.capacity⟩
  have hcopied : CopiedBelow
      (client.snapshotNextIndex + (signalPageIndices cat startIndex.toNat).length)
      client.snapshotSignals (entries cat.signalCount array) := by
    rw [hentries, hnext]
    exact hcopying.signals.page signalsPerMessage
  have hwithin := signalPage_within hlt.le
  have hsdk := hpush.sdk
  rw [hreceive] at hsdk
  rw [hsdk]
  obtain ⟨slot, -, -, rfl⟩ := hpush.takes
  rw [hnext] at hwithin hcopied ⊢
  rcases Nat.lt_or_eq_of_le hwithin with hmore | hdone
  · rw [hnegotiated'.requestSignals hmore]
    refine .signals ?_ ?_ hframes ⟨hnegotiated.welcome, hnegotiated.capacity⟩ hknows rfl
      (hout.next rfl)
    · exact { hcopying with
        flags := { hcopying.flags with }, copy := { hcopying.copy with }, signals := hcopied }
    · simp [Client.advanceSignals, Client.record, Client.fill, hactive, hmore.ne]
  · rw [hdone, hnegotiated'.subscribe]
    refine .subscribing ?_ ?_ hframes hdone ⟨hnegotiated.welcome, hnegotiated.capacity⟩ hknows rfl
      (hout.next rfl)
    · exact { hcopying with
        flags := { hcopying.flags with }, copy := { hcopying.copy with }, signals := hcopied }
    · simp [Client.advanceSignals, Client.record, Client.fill, hdone]

end Coherent

end Roadcast
