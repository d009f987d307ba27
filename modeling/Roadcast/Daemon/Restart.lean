import Roadcast.Daemon.FrozenPages

/-!
# Restarting a snapshot

A session with a free output slot can queue any message that fits a slot, so a request for the first
page of a snapshot is never refused for lack of room. Whether it starts a new snapshot depends on the
one before: `queue_frame_snapshot_chunk` begins a snapshot only while none is active, and otherwise
takes start index 0 for a page of the active one. None is active while the session has begun none or
has fetched the last one up to its last signal page.
-/

namespace Roadcast

variable {cat : Catalog} {config : Config cat} {canonical : Canonical cat} {env : Env cat}

/-- With a free slot and a libuv that accepts the write, every message that fits a slot is queued. -/
theorem clientQueueMessage_free {client : Client cat} {type : MessageType}
    {sequence timestampNs : UInt64} {payload : List UInt8} {droppable : Bool}
    (haccounted : Accounted config client) (hlibuv : env.WriteQueueBounded)
    (huv : ∀ client, env.uvWrite client = true) (hactive : client.active = true)
    (hlength : payload.length ≤ clientPayloadCap) (hfree : ∃ slot, FreeSlot config client slot) :
    ∃ queued, clientQueueMessage config canonical env client type sequence timestampNs payload
      droppable = .ok queued ∧
        Pushes config canonical (outgoing type sequence timestampNs payload) client queued := by
  obtain ⟨free, hfree⟩ := hfree
  have hroom := haccounted.room_of_free free hfree
  have hqueue := hlibuv client
  rw [← haccounted.pending] at hqueue
  have hsize : headerSize + payload.length ≤ clientMessageCap := by
    simp only [clientPayloadCap, clientMessageCap, headerSize] at hlength ⊢
    omega
  have hmax : payload.length ≤ maxPayload := by
    simp only [clientPayloadCap, clientMessageCap, headerSize, maxPayload] at hlength ⊢
    omega
  obtain ⟨slot, hslot⟩ : ∃ slot, findOutputSlot config client = some slot := by
    rw [← Option.isSome_iff_exists, Option.isSome_iff_ne_none]
    intro hnone
    rw [findOutputSlot_eq_none] at hnone
    exact absurd (hfree.2.symm.trans (hnone free hfree.1)) (by simp)
  have hguard : ¬ (client.active = false ∨ payload.length > maxPayload ∨
      headerSize + payload.length > clientMessageCap) := by
    rw [hactive]
    simp only [Bool.true_eq_false, false_or, not_or, Nat.not_lt]
    exact ⟨hmax, hsize⟩
  have hnotFull : ¬ queueFull config env client (headerSize + payload.length) := by
    simp only [queueFull, hslot, reduceCtorEq, false_or, not_or, Nat.not_lt]
    exact ⟨by omega, by omega⟩
  simp only [clientQueueMessage, if_neg hguard, if_neg hnotFull, hslot, huv, if_true]
  refine ⟨_, rfl, hactive, hlength, slot, findOutputSlot_eq_some config hslot, ?_, rfl⟩
  change client.pendingBytes + (headerSize + payload.length) ≤ config.queueByteLimit
  omega

/-- Every page of frames fits a message. -/
theorem framePagePayload_exists (client : Client cat) (startIndex : UInt32) :
    ∃ payload, framePagePayload client startIndex = some payload ∧
      payload.length ≤ clientPayloadCap := by
  have hcount : ((framePageIndices cat startIndex.toNat).map client.snapshotFrames).length ≤
      framesPerMessage := by
    rw [List.length_map, framePageIndices]
    exact List.length_take_le _ _
  obtain ⟨payload, hpayload, -, hcap⟩ := encodeBatch_fits client.snapshotSampleSequence
    cat.frameCountWord startIndex hcount (by decide) (show _ ≤ clientPayloadCap by decide)
    fun frame _ => encodeFrame_length frame
  exact ⟨payload, hpayload, hcap⟩

/-- The next page of frames is queued if there is room for it. -/
theorem queueFramePage_free {client : Client cat} {startIndex : UInt32}
    (haccounted : Accounted config client) (hlibuv : env.WriteQueueBounded)
    (huv : ∀ client, env.uvWrite client = true) (hactive : client.active = true)
    (hfree : ∃ slot, FreeSlot config client slot) (hsnapshot : client.snapshotActive = true)
    (hframes : client.snapshotFramesComplete = false)
    (hnext : startIndex.toNat = client.snapshotNextFrameIndex)
    (hlt : startIndex.toNat < cat.frameCount) :
    ∃ client', queueFramePage config canonical env client startIndex = .ok client' := by
  obtain ⟨payload, hpayload, hlength⟩ := framePagePayload_exists client startIndex
  obtain ⟨queued, hqueued, -⟩ : ∃ queued, clientQueueMessage config canonical env client .snapshot
      client.snapshotChangeSequence client.snapshotTimestampNs payload false = .ok queued ∧ _ :=
    clientQueueMessage_free haccounted hlibuv huv hactive hlength hfree
  have hguard : ¬ (client.snapshotActive = false ∨ client.snapshotFramesComplete = true ∨
      startIndex.toNat ≠ client.snapshotNextFrameIndex ∨ startIndex.toNat ≥ cat.frameCount) := by
    simp [hsnapshot, hframes, hnext ▸ hlt, hnext]
  simp only [queueFramePage, if_neg hguard, hpayload, hqueued]
  exact ⟨_, rfl⟩

/-- A well-formed request for the first page of a snapshot. -/
structure AsksSnapshot (request : Message) : Prop where
  version : request.header.version = protocolVersion
  flags : request.header.flags = 0
  type : request.header.type = MessageType.getSnapshot.code
  startIndex : decodeIndexRequest request.payload = some 0

/-- The answer to a request for a snapshot: it is frozen from the canonical state, its first page is
queued, and the session no longer needs a resynchronisation. -/
structure Restarts (canonical : Canonical cat) (client client' : Client cat) : Prop where
  active : client'.active = true
  resync : client'.needsResync = false
  frames : client'.snapshotFrames = canonical.frames
  signals : client'.snapshotSignals = canonical.signals
  answered : ∃ payload,
    encodeFrameBatch clientPayloadCap canonical.sampleSequence cat.frameCountWord 0
      ((framePageIndices cat 0).map canonical.frames) = some payload ∧
    client'.log = client.log ++ [.snapshotBegun canonical,
      .queued (outgoing .snapshot canonical.changeSequence canonical.sampleTimestampNs payload)
        canonical]

/-- What the request for a snapshot comes down to. -/
theorem AsksSnapshot.processCommand_eq {request : Message} (h : AsksSnapshot request)
    {client : Client cat} (hgreeted : client.greeted = true) :
    processCommand config canonical env client request =
      queueFrameSnapshotChunk config canonical env client 0 := by
  rw [processCommand, if_neg (by simp [h.version, h.flags]), h.type, MessageType.ofCode_code]
  simp only [processIndexRequest, hgreeted, Bool.true_eq_false, if_false, h.startIndex]

/-- While no snapshot is active, the request starts one. -/
theorem processCommand_restarts {client : Client cat} {request : Message}
    (haccounted : Accounted config client) (hlibuv : env.WriteQueueBounded)
    (huv : ∀ client, env.uvWrite client = true) (hactive : client.active = true)
    (hgreeted : client.greeted = true) (hfree : ∃ slot, FreeSlot config client slot)
    (hrequest : AsksSnapshot request) (hinactive : client.snapshotActive = false) :
    Restarts canonical client
      (closeOnError (processCommand config canonical env client request)) := by
  have hbegun : Accounted config (beginSnapshot canonical env client) := haccounted.of_same rfl rfl
  obtain ⟨client', hpage⟩ : ∃ client', queueFramePage config canonical env
      (beginSnapshot canonical env client) 0 = .ok client' :=
    queueFramePage_free hbegun hlibuv huv hactive hfree rfl rfl rfl cat.frameCount_pos
  rw [hrequest.processCommand_eq hgreeted, queueFrameSnapshotChunk, if_pos ⟨rfl, hinactive⟩, hpage]
  obtain ⟨-, -, -, -, payload, queued, hpayload, hpush, rfl⟩ := queueFramePage_ok hpage
  obtain ⟨slot, -, -, rfl⟩ := hpush.takes
  refine ⟨hactive, rfl, rfl, rfl, payload, hpayload, ?_⟩
  exact List.append_assoc client.log _ _

/-- While a snapshot is active, the request does not start another. -/
theorem processCommand_not_restarts {client : Client cat} {request : Message}
    (hflags : SessionFlags client) (hgreeted : client.greeted = true)
    (hrequest : AsksSnapshot request) (hsnapshot : client.snapshotActive = true) :
    ¬ Restarts canonical client
      (closeOnError (processCommand config canonical env client request)) := by
  intro hrestarts
  rw [hrequest.processCommand_eq hgreeted, queueFrameSnapshotChunk,
    if_neg (by simp [hsnapshot])] at hrestarts
  cases hresult : queueFramePage config canonical env client 0 with
  | error failed =>
    rw [hresult] at hrestarts
    have hclosed := (hflags.refused (queueFramePage_error hresult)).closed_active
    exact absurd (hclosed.symm.trans hrestarts.active) (by simp)
  | ok client' =>
    rw [hresult] at hrestarts
    obtain ⟨-, -, -, -, payload, queued, -, hpush, rfl⟩ := queueFramePage_ok hresult
    obtain ⟨slot, -, -, rfl⟩ := hpush.takes
    obtain ⟨page, -, hlog⟩ := hrestarts.answered
    -- a page of the active snapshot is one new entry of the history, a new snapshot is two
    have hlength := congrArg List.length hlog
    simp [closeOnError, Client.advanceFrames, Client.record, Client.fill] at hlength

/-- In every reachable state of an active, greeted session with a free slot, a request for a snapshot
starts a new one if and only if none is active. If libuv kept its bound so far, none is active if and
only if the session has begun none or has fetched the last one to its end. -/
theorem run_snapshot_restarts (config : Config cat) (fake : Option Bool) (tick : Tick cat)
    (events : List (Event cat)) (s : Fin maxClients) {env : Env cat} {request : Message}
    (hactive : ((run config fake tick events).clients s).active = true)
    (hgreeted : ((run config fake tick events).clients s).greeted = true)
    (hfree : ∃ slot, FreeSlot config ((run config fake tick events).clients s) slot)
    (huv : ∀ client, env.uvWrite client = true) (hlibuv : env.WriteQueueBounded)
    (hrequest : AsksSnapshot request) :
    (Restarts (run config fake tick events).canonical ((run config fake tick events).clients s)
        ((run config fake tick (events ++ [.request s env request])).clients s) ↔
      ((run config fake tick events).clients s).snapshotActive = false) ∧
    ((∀ event ∈ events, ∀ t, (event.answers t).WriteQueueBounded) →
      (((run config fake tick events).clients s).snapshotActive = false ↔
        SnapshotFetched ((run config fake tick events).clients s).log)) := by
  have haccounted : Accounted config ((run config fake tick events).clients s) :=
    run_stable config (fun _ _ => Accounted.stable) fake tick events s
  have hflags : SessionFlags ((run config fake tick events).clients s) :=
    run_stable config (fun _ _ => SessionFlags.stable) fake tick events s
  have hstep : (run config fake tick (events ++ [.request s env request])).clients s =
      closeOnError (processCommand config (run config fake tick events).canonical env
        ((run config fake tick events).clients s) request) := by
    rw [run, List.foldl_append, ← run, List.foldl_cons, List.foldl_nil]
    simp only [step]
    rw [if_neg (by simp [hactive]), Daemon.setClient_self]
  rw [hstep]
  refine ⟨⟨fun hrestarts => ?_, ?_⟩, fun hbounded => ?_⟩
  · by_contra hsnapshot
    rw [Bool.not_eq_false] at hsnapshot
    exact processCommand_not_restarts hflags hgreeted hrequest hsnapshot hrestarts
  · exact processCommand_restarts haccounted hlibuv huv hactive hgreeted hfree hrequest
  · exact ((run_sound config fake tick events hbounded).2 s).paged.inactive_iff

/-- The session asks for a snapshot again after the first page of one. -/
theorem run_snapshot_abandoned :
    (singleSession (singleSetup.take 7)).active = true ∧
      (singleSession (singleSetup.take 7)).greeted = true ∧
      (∀ slot, ((singleSession (singleSetup.take 7)).output slot).inUse = false) ∧
      (singleSession (singleSetup.take 7 ++
        [singleRequest .getSnapshot (encodeIndexRequest 0)])).active = false :=
  ⟨by decide +kernel, by decide +kernel, by decide +kernel, by decide +kernel⟩

/-- The session asks for a snapshot again after a whole one. -/
theorem run_snapshot_restarts_complete :
    SnapshotFetched (singleSession singleSetup).log ∧
      Restarts (run singleConfig none (singleTick 0 10) singleSetup).canonical
        (singleSession singleSetup)
        (singleSession (singleSetup ++ [singleRequest .getSnapshot (encodeIndexRequest 0)])) := by
  have hidle : ∀ event ∈ singleSetup, ∀ t, event.answers t = Env.idle := by
    simp [singleSetup, singleRequest, singleWriteDone, Event.answers]
  have hinactive : (singleSession singleSetup).snapshotActive = false := by decide +kernel
  have hasks : AsksSnapshot (outgoing .getSnapshot 0 0 (encodeIndexRequest 0)) :=
    ⟨rfl, rfl, rfl, decodeIndexRequest_encodeIndexRequest 0⟩
  have haccepts : ∀ client, (Env.idle : Env singleCatalog).uvWrite client = true := fun _ => rfl
  obtain ⟨hrestarts, hfetched⟩ := run_snapshot_restarts singleConfig none (singleTick 0 10)
    singleSetup firstSession (by decide +kernel) (by decide +kernel)
    ⟨⟨0, by decide⟩, by decide, by decide +kernel⟩ haccepts (fun _ => Nat.zero_le _) hasks
  exact ⟨(hfetched (writeQueueBounded_of_idle hidle)).mp hinactive, hrestarts.mpr hinactive⟩

end Roadcast
