import Roadcast.Daemon.Restart
import Roadcast.Daemon.Sound

/-!
# One dense update fits the default queue

`CLIENT_QUEUE_SLOTS` has a slot for every batch of frames, for every batch of signals and for one
heartbeat. A session whose queue is empty takes all of them, whatever a sample changes and before any
write completes.
-/

namespace Roadcast

open SlotPool Chunks

variable {cat : Catalog} {config : Config cat} {canonical : Canonical cat} {env : Env cat}

/-- libuv accepts every write and queues at most the bytes of the outstanding ones. -/
structure Env.Accepts (env : Env cat) : Prop where
  bounded : env.WriteQueueBounded
  writes : ∀ client, env.uvWrite client = true

/-- The number of slots that a message can take. -/
def Client.room (config : Config cat) (client : Client cat) : ℕ :=
  (freeSlots client.output (usableSlots config)).card

/-- The fields of a session that queueing leaves alone. -/
def Client.standing (client : Client cat) : Bool × Bool × Bool × Bool × UInt64 :=
  (client.active, client.greeted, client.subscribed, client.needsResync, client.droppedBatches)

/-- The session takes updates and heartbeats. -/
structure Client.Streaming (client : Client cat) : Prop where
  active : client.active = true
  greeted : client.greeted = true
  subscribed : client.subscribed = true
  resync : client.needsResync = false

/-- The session has queued messages, each in a slot of its own. -/
structure Queues (config : Config cat) (entries : List (LogEntry cat)) (client client' : Client cat) :
    Prop where
  log : client'.log = client.log ++ entries
  standing : client'.standing = client.standing
  accounted : Accounted config client'
  room : client'.room config + entries.length = client.room config

/-- Nothing is queued. -/
theorem Queues.refl {client : Client cat} (h : Accounted config client) :
    Queues config [] client client :=
  ⟨(List.append_nil _).symm, rfl, h, rfl⟩

/-- What is queued one after the other. -/
theorem Queues.trans {entries entries' : List (LogEntry cat)} {a b c : Client cat}
    (h : Queues config entries a b) (h' : Queues config entries' b c) :
    Queues config (entries ++ entries') a c where
  log := by rw [h'.log, h.log, List.append_assoc]
  standing := h'.standing.trans h.standing
  accounted := h'.accounted
  room := by
    have hfirst := h.room
    have hsecond := h'.room
    rw [List.length_append]
    omega

/-- A session that takes messages goes on streaming. -/
theorem Queues.streaming {entries : List (LogEntry cat)} {client client' : Client cat}
    (h : Queues config entries client client') (hclient : client.Streaming) :
    client'.Streaming := by
  have hstanding := h.standing
  simp only [Client.standing, Prod.mk.injEq] at hstanding
  obtain ⟨hactive, hgreeted, hsubscribed, hresync, -⟩ := hstanding
  exact ⟨hactive.trans hclient.active, hgreeted.trans hclient.greeted,
    hsubscribed.trans hclient.subscribed, hresync.trans hclient.resync⟩

/-- A pushed message is one entry of the history. -/
theorem Pushes.queues {message : Message} {client client' : Client cat}
    (hpush : Pushes config canonical message client client') (h : Accounted config client) :
    Queues config [.queued message canonical] client client' := by
  refine ⟨?_, ?_, h.pushed hpush, ?_⟩
  · obtain ⟨slot, -, -, rfl⟩ := hpush.takes
    rfl
  · obtain ⟨slot, -, -, rfl⟩ := hpush.takes
    rfl
  · obtain ⟨slot, hfree, -, rfl⟩ := hpush.takes
    exact card_freeSlots_take client.output (usableSlots config) slot _
      (by simpa [usableSlots] using hfree.1) hfree.2

/-- A session with room has a free slot. -/
theorem freeSlot_of_room {client : Client cat} (h : 0 < client.room config) :
    ∃ slot, FreeSlot config client slot := by
  obtain ⟨slot, hslot⟩ := Finset.card_pos.mp h
  obtain ⟨husable, hfree⟩ := Finset.mem_filter.mp hslot
  exact ⟨slot, (Finset.mem_filter.mp husable).2, hfree⟩

/-- A session with room queues a message. -/
theorem clientQueueMessage_queues {client : Client cat} {type : MessageType}
    {sequence timestampNs : UInt64} {payload : List UInt8} {droppable : Bool}
    (h : Accounted config client) (henv : env.Accepts) (hactive : client.active = true)
    (hlength : payload.length ≤ clientPayloadCap) (hroom : 0 < client.room config) :
    ∃ queued, clientQueueMessage config canonical env client type sequence timestampNs payload
      droppable = .ok queued ∧
        Queues config [.queued (outgoing type sequence timestampNs payload) canonical] client
          queued := by
  obtain ⟨queued, hqueued, hpush⟩ : ∃ queued, clientQueueMessage config canonical env client type
      sequence timestampNs payload droppable = .ok queued ∧ _ :=
    clientQueueMessage_free h henv.bounded henv.writes hactive hlength (freeSlot_of_room hroom)
  exact ⟨queued, hqueued, hpush.queues h⟩

/-! ## The batches of a sample -/

/-- A batch of the canonical frames; `none` is a length of zero. -/
def frameBatch (canonical : Canonical cat) (piece : List (Fin cat.frameCount)) :
    Option (List UInt8) :=
  encodeFrameBatch clientPayloadCap canonical.sampleSequence cat.frameCountWord uint32Max
    (piece.map canonical.frames)

/-- A batch of the canonical signals. -/
def signalBatch (canonical : Canonical cat) (piece : List (Fin cat.signalCount)) :
    Option (List UInt8) :=
  encodeSignalBatch clientPayloadCap canonical.sampleSequence cat.signalCountWord uint32Max
    (piece.map (signalUpdate canonical.signals))

/-- The encoder accepts the batch: its length is not zero, and it fits a message. -/
def Encodes (batch : Option (List UInt8)) : Prop :=
  ∃ payload, batch = some payload ∧ 0 < payload.length ∧ payload.length ≤ clientPayloadCap

/-- The frames of one message are encoded, and fit it. -/
theorem frameBatch_encodes (canonical : Canonical cat) {piece : List (Fin cat.frameCount)}
    (h : piece.length ≤ framesPerMessage) : Encodes (frameBatch canonical piece) := by
  have hcount : (piece.map canonical.frames).length ≤ framesPerMessage := by
    rwa [List.length_map]
  obtain ⟨payload, hpayload, hsize, hcap⟩ := encodeBatch_fits canonical.sampleSequence
    cat.frameCountWord uint32Max hcount (by decide) (show _ ≤ clientPayloadCap by decide)
    fun frame _ => encodeFrame_length frame
  exact ⟨payload, hpayload, Nat.lt_of_lt_of_le (by decide) hsize, hcap⟩

/-- The signals of one message are encoded, and fit it. -/
theorem signalBatch_encodes (canonical : Canonical cat) {piece : List (Fin cat.signalCount)}
    (h : piece.length ≤ signalsPerMessage) : Encodes (signalBatch canonical piece) := by
  have hcount : (piece.map (signalUpdate canonical.signals)).length ≤ signalsPerMessage := by
    rwa [List.length_map]
  obtain ⟨payload, hpayload, hsize, hcap⟩ := encodeBatch_fits canonical.sampleSequence
    cat.signalCountWord uint32Max hcount (by decide) (show _ ≤ clientPayloadCap by decide)
    fun update _ => encodeSignal_length update
  exact ⟨payload, hpayload, Nat.lt_of_lt_of_le (by decide) hsize, hcap⟩

/-- The history of a batch that is queued. -/
def batchEntry (canonical : Canonical cat) (type : MessageType) (batch : Option (List UInt8)) :
    LogEntry cat :=
  .queued (outgoing type canonical.changeSequence canonical.sampleTimestampNs (batch.getD []))
    canonical

/-- A session with room for them queues all batches of one kind. -/
theorem fanOut_queues (type : MessageType) {batches : List (Option (List UInt8))}
    {client : Client cat} (h : Accounted config client) (henv : env.Accepts)
    (hclient : client.Streaming) (hbatches : ∀ batch ∈ batches, Encodes batch)
    (hroom : batches.length ≤ client.room config) :
    Queues config (batches.map (batchEntry canonical type)) client
      (fanOut config canonical env type batches client) := by
  induction batches generalizing client with
  | nil => exact .refl h
  | cons batch batches ih =>
    rw [List.forall_mem_cons] at hbatches
    obtain ⟨⟨payload, rfl, -, hlength⟩, hrest⟩ := hbatches
    rw [List.length_cons] at hroom
    obtain ⟨queued, hqueued, hqueues⟩ : ∃ queued, clientQueueMessage config canonical env client type
        canonical.changeSequence canonical.sampleTimestampNs payload true = .ok queued ∧ _ :=
      clientQueueMessage_queues h henv hclient.active hlength (by omega)
    have hleft := hqueues.room
    rw [List.length_singleton] at hleft
    rw [fanOut, if_pos ⟨hclient.active, hclient.resync⟩]
    rw [hqueued]
    exact hqueues.trans (ih hqueues.accounted (hqueues.streaming hclient) hrest (by omega))

/-- The frame batches of a sample are the chunks of the changed frames. -/
theorem frameChunks_eq (canonical : Canonical cat) (changed : List (Fin cat.frameCount)) :
    frameChunks canonical changed = (chunks framesPerMessage changed).map (frameBatch canonical) :=
  rfl

/-- Every frame batch of a sample is encoded. -/
theorem frameChunks_encode (canonical : Canonical cat) {changed : List (Fin cat.frameCount)} :
    ∀ piece ∈ chunks framesPerMessage changed, Encodes (frameBatch canonical piece) :=
  fun _ hpiece => frameBatch_encodes canonical (length_le_of_mem_chunks hpiece)

/-- Every signal batch of a sample is encoded. -/
theorem signalChunks_encode (canonical : Canonical cat) {changed : List (Fin cat.signalCount)} :
    ∀ piece ∈ chunks signalsPerMessage changed, Encodes (signalBatch canonical piece) :=
  fun _ hpiece => signalBatch_encodes canonical (length_le_of_mem_chunks hpiece)

/-- A session with room for a whole update queues it. -/
theorem distributeToClient_queues {client : Client cat} (h : Accounted config client)
    (henv : env.Accepts) (hclient : client.Streaming) {changedFrames : List (Fin cat.frameCount)}
    {changedSignals : List (Fin cat.signalCount)}
    (hroom : (chunks framesPerMessage changedFrames).length +
      (chunks signalsPerMessage changedSignals).length ≤ client.room config) :
    Queues config
      (((chunks framesPerMessage changedFrames).map fun piece =>
          batchEntry canonical .updateBatch (frameBatch canonical piece)) ++
        (chunks signalsPerMessage changedSignals).map fun piece =>
          batchEntry canonical .signalUpdateBatch (signalBatch canonical piece))
      client
      (distributeToClient config canonical env changedFrames changedSignals client) := by
  have hframes : Queues config _ client (fanOut config canonical env .updateBatch
      ((chunks framesPerMessage changedFrames).map (frameBatch canonical)) client) :=
    fanOut_queues .updateBatch h henv hclient
      (List.forall_mem_map.mpr (frameChunks_encode canonical)) (by rw [List.length_map]; omega)
  have hleft := hframes.room
  rw [List.length_map, List.length_map] at hleft
  have hsent := hframes.streaming hclient
  have hsignals : Queues config _ _ (fanOut config canonical env .signalUpdateBatch
      ((chunks signalsPerMessage changedSignals).map (signalBatch canonical)) _) :=
    fanOut_queues .signalUpdateBatch hframes.accounted henv hsent
      (List.forall_mem_map.mpr (signalChunks_encode canonical)) (by rw [List.length_map]; omega)
  have hboth := hframes.trans hsignals
  rw [List.map_map, List.map_map] at hboth
  have hskip : ¬ (client.active = false ∨ client.subscribed = false ∨ client.needsResync = true) := by
    simp [hclient.active, hclient.subscribed, hclient.resync]
  have hgoes : ¬ ((fanOut config canonical env .updateBatch (frameChunks canonical changedFrames)
      client).active = false ∨ (fanOut config canonical env .updateBatch
        (frameChunks canonical changedFrames) client).needsResync = true) := by
    rw [frameChunks_eq, hsent.active, hsent.resync]
    simp
  rw [distributeToClient, if_neg hskip]
  dsimp only
  rw [if_neg hgoes]
  exact hboth

/-- What a heartbeat adds to the history of a session. -/
def heartbeatEntry (canonical : Canonical cat) (sourceState : SourceState) (client : Client cat) :
    LogEntry cat :=
  .queued (outgoing .heartbeat canonical.changeSequence canonical.sampleTimestampNs
    (encodeHeartbeat (heartbeatReport canonical sourceState client))) canonical

/-- The heartbeat of a session depends on its counters alone. -/
theorem heartbeatEntry_of_standing (canonical : Canonical cat) (sourceState : SourceState)
    {client client' : Client cat} (h : client'.standing = client.standing) :
    heartbeatEntry canonical sourceState client' = heartbeatEntry canonical sourceState client := by
  simp only [Client.standing, Prod.mk.injEq] at h
  obtain ⟨-, -, -, -, hdropped⟩ := h
  rw [heartbeatEntry, heartbeatEntry, heartbeatReport, heartbeatReport, hdropped]

/-- A session with room queues a heartbeat. -/
theorem heartbeatToClient_queues {client : Client cat} (h : Accounted config client)
    (henv : env.Accepts) (hclient : client.Streaming) (sourceState : SourceState) (nowNs : ℕ)
    (hroom : 0 < client.room config) :
    Queues config [heartbeatEntry canonical sourceState client] client
      (heartbeatToClient config canonical env sourceState nowNs client) := by
  have hlength : (encodeHeartbeat (heartbeatReport canonical sourceState client)).length ≤
      clientPayloadCap := by
    rw [encodeHeartbeat_length]
    decide
  obtain ⟨queued, hqueued, hqueues⟩ : ∃ queued, clientQueueMessage config canonical env client
      .heartbeat canonical.changeSequence canonical.sampleTimestampNs _ true = .ok queued ∧ _ :=
    clientQueueMessage_queues h henv hclient.active hlength hroom
  have hskip : ¬ (client.active = false ∨ client.greeted = false ∨ client.subscribed = false ∨
      client.needsResync = true) := by
    simp [hclient.active, hclient.greeted, hclient.subscribed, hclient.resync]
  rw [heartbeatToClient, if_neg (by simp [hclient.greeted]), if_neg (by simp [hclient.subscribed]),
    if_neg hskip, hqueued]
  exact hqueues

/-! ## The numbers of batches -/

/-- A selection of `count` indices needs no more batches than all of them. -/
theorem chunks_filter_length_le (n : ℕ) (hn : 0 < n) {count : ℕ} (changed : Fin count → Bool) :
    (chunks n ((List.finRange count).filter changed)).length ≤ (count + n - 1) / n := by
  have hcount := List.length_filter_le changed (List.finRange count)
  rw [List.length_finRange] at hcount
  rw [chunks_length n hn]
  exact Nat.div_le_div_right (by omega)

/-- A sample changes no more frames than the queue has batches for. -/
theorem differingFrames_chunks_le (new old : Fin cat.frameCount → Frame) :
    (chunks framesPerMessage (differingFrames new old)).length ≤ frameBatchChunks cat :=
  chunks_filter_length_le framesPerMessage (by decide) fun i => frameDiffers (new i) (old i)

/-- A sample changes no more signals than the queue has batches for. -/
theorem differingSignals_chunks_le (new old : Fin cat.signalCount → SignalValue) :
    (chunks signalsPerMessage (differingSignals new old)).length ≤ signalBatchChunks cat :=
  chunks_filter_length_le signalsPerMessage (by decide) fun i => signalDiffers (new i) (old i)

/-- An empty queue has room in every slot that the options allow. -/
theorem room_of_empty {client : Client cat} (h : ∀ slot, (client.output slot).inUse = false) :
    client.room config = config.slots := by
  rw [Client.room, freeSlots, Finset.filter_true_of_mem fun slot _ => h slot, card_usableSlots]

/-- The list names the indices of a set, each once and in increasing order. -/
structure ListsOnce {n : ℕ} (changed : Fin n → Prop) (listed : List (Fin n)) : Prop where
  increasing : listed.Pairwise (· < ·)
  mem : ∀ i, i ∈ listed ↔ changed i

/-- A filter of all indices lists each of them at most once, in order. -/
theorem listsOnce_filter {n : ℕ} (changed : Fin n → Bool) :
    ListsOnce (fun i => changed i = true) ((List.finRange n).filter changed) where
  increasing := (List.pairwise_lt_finRange n).filter _
  mem := by simp

/-- What a session receives from a sample that takes the canonical state from `before` to `after`,
and from the heartbeat that follows: all batches and the heartbeat, each in a slot of its own. -/
structure UpdateQueued (config : Config cat) (before after : Canonical cat)
    (heartbeat : LogEntry cat) (client served : Client cat)
    (framePieces : List (List (Fin cat.frameCount)))
    (signalPieces : List (List (Fin cat.signalCount))) : Prop where
  log : served.log = client.log ++
    ((framePieces.map fun piece => batchEntry after .updateBatch (frameBatch after piece)) ++
      (signalPieces.map fun piece =>
        batchEntry after .signalUpdateBatch (signalBatch after piece)) ++ [heartbeat])
  standing : served.standing = client.standing
  slots : served.room config + (framePieces.length + signalPieces.length + 1) = config.slots
  frames : ListsOnce (fun i => frameDiffers (after.frames i) (before.frames i) = true)
    framePieces.flatten
  signals : ListsOnce (fun i => signalDiffers (after.signals i) (before.signals i) = true)
    signalPieces.flatten
  frameCount : framePieces.length ≤ frameBatchChunks cat
  signalCount : signalPieces.length ≤ signalBatchChunks cat
  frameEncodes : ∀ piece ∈ framePieces, Encodes (frameBatch after piece)
  signalEncodes : ∀ piece ∈ signalPieces, Encodes (signalBatch after piece)

/-- An empty queue of the default size takes an update and a heartbeat. -/
theorem updateQueued_of_empty {client : Client cat} (hslots : config.slots = clientQueueSlots cat)
    (h : Accounted config client) (hclient : client.Streaming)
    (hempty : ∀ slot, (client.output slot).inUse = false) {env env' : Env cat}
    (henv : env.Accepts) (henv' : env'.Accepts) (before after : Canonical cat)
    (sourceState : SourceState) (nowNs : ℕ) :
    UpdateQueued config before after
      (heartbeatEntry (after.heartbeat nowNs) sourceState client) client
      (heartbeatToClient config (after.heartbeat nowNs) env' sourceState nowNs
        (distributeToClient config after env (differingFrames after.frames before.frames)
          (differingSignals after.signals before.signals) client))
      (chunks framesPerMessage (differingFrames after.frames before.frames))
      (chunks signalsPerMessage (differingSignals after.signals before.signals)) := by
  have hframes := differingFrames_chunks_le after.frames before.frames
  have hsignals := differingSignals_chunks_le after.signals before.signals
  have hroom : client.room config = config.slots := room_of_empty hempty
  have hdefault : config.slots = frameBatchChunks cat + signalBatchChunks cat + 1 := hslots
  have hupdate : Queues config _ client (distributeToClient config after env
      (differingFrames after.frames before.frames)
      (differingSignals after.signals before.signals) client) :=
    distributeToClient_queues h henv hclient (by omega)
  have hleft := hupdate.room
  rw [List.length_append, List.length_map, List.length_map] at hleft
  have hheartbeat : Queues config _ _ (heartbeatToClient config (after.heartbeat nowNs) env'
      sourceState nowNs _) :=
    heartbeatToClient_queues hupdate.accounted henv' (hupdate.streaming hclient) sourceState nowNs
      (by omega)
  rw [heartbeatEntry_of_standing _ _ hupdate.standing] at hheartbeat
  have hall := hupdate.trans hheartbeat
  have hslotsLeft := hheartbeat.room
  rw [List.length_singleton] at hslotsLeft
  exact {
    log := hall.log
    standing := hall.standing
    slots := by omega
    frames := by
      rw [chunks_flatten framesPerMessage (by decide)]
      exact listsOnce_filter fun i => frameDiffers (after.frames i) (before.frames i)
    signals := by
      rw [chunks_flatten signalsPerMessage (by decide)]
      exact listsOnce_filter fun i => signalDiffers (after.signals i) (before.signals i)
    frameCount := hframes
    signalCount := hsignals
    frameEncodes := frameChunks_encode after
    signalEncodes := signalChunks_encode after }

/-- A distribution sends every session the canonical differences that the sample makes. -/
theorem distributeLatestSample_clients (config : Config cat) (env : Fin maxClients → Env cat)
    (daemon : Daemon cat) (s : Fin maxClients) :
    (distributeLatestSample config env daemon).clients s =
      distributeToClient config (distributeLatestSample config env daemon).canonical (env s)
        (differingFrames (distributeLatestSample config env daemon).canonical.frames
          daemon.canonical.frames)
        (differingSignals (distributeLatestSample config env daemon).canonical.signals
          daemon.canonical.signals) (daemon.clients s) := by
  simp only [distributeLatestSample, Canonical.delta_frames, Canonical.delta_signals]

/-- In every reachable state, and for every sample, a subscribed session that needs no resync and has
an empty queue of the default size takes the whole update and the next heartbeat. -/
theorem run_absorbs_update (config : Config cat) (hslots : config.slots = clientQueueSlots cat)
    (fake : Option Bool) (tick : Tick cat) (events : List (Event cat)) (sampler : Sampler cat)
    (nowNs : ℕ) (env env' : Fin maxClients → Env cat) (s : Fin maxClients)
    (hactive : ((run config fake tick events).clients s).active = true)
    (hsubscribed : ((run config fake tick events).clients s).subscribed = true)
    (hresync : ((run config fake tick events).clients s).needsResync = false)
    (hempty : ∀ slot, (((run config fake tick events).clients s).output slot).inUse = false)
    (henv : (env s).Accepts) (henv' : (env' s).Accepts) :
    let daemon := { run config fake tick events with sampler := sampler }
    let distributed := distributeLatestSample config env daemon
    ∃ framePieces signalPieces, UpdateQueued config daemon.canonical distributed.canonical
      (heartbeatEntry (distributed.canonical.heartbeat nowNs) sampler.sourceState (daemon.clients s))
      (daemon.clients s) ((onHeartbeat config nowNs env' distributed).clients s)
      framePieces signalPieces := by
  intro daemon distributed
  have haccounted : Accounted config (daemon.clients s) :=
    run_stable config (fun _ _ => Accounted.stable) fake tick events s
  have hflags : SessionFlags (daemon.clients s) :=
    run_stable config (fun _ _ => SessionFlags.stable) fake tick events s
  have hclient : (daemon.clients s).Streaming :=
    ⟨hactive, hflags.subscribed hsubscribed, hsubscribed, hresync⟩
  have hqueued := updateQueued_of_empty hslots haccounted hclient hempty henv henv' daemon.canonical
    distributed.canonical sampler.sourceState nowNs
  rw [← distributeLatestSample_clients config env daemon s] at hqueued
  exact ⟨_, _, hqueued⟩

section SingleRuns

/-- An idle libuv takes every write. -/
theorem idle_accepts : (Env.idle : Env cat).Accepts :=
  ⟨fun _ => Nat.zero_le _, fun _ => rfl⟩

/-- The default number of output slots, on the catalog with one frame and one signal. -/
def defaultConfig : Config singleCatalog := sixtyHz 3 (by decide)

/-- The state of the daemon after a run with the default number of slots. -/
def defaultRun (events : List (Event singleCatalog)) : Daemon singleCatalog :=
  run defaultConfig none (singleTick 0 10) events

/-- The write in a slot completes. -/
def slotWritten (slot : Fin (clientQueueSlots singleCatalog)) : Event singleCatalog :=
  .writeDone firstSession Env.idle slot false

/-- A session subscribes, and its queue drains. -/
def streamingRun : List (Event singleCatalog) :=
  singleSetup ++ [singleRequest .subscribeAll [], singleWriteDone]

/-- A sample with another byte, published for the session to receive. -/
def changedSampler : Sampler singleCatalog :=
  samplerTick (defaultRun streamingRun).sampler (singleTick 1 20)

/-- A streaming session takes a sample that changes everything, and the heartbeat after it. -/
theorem streamingRun_absorbs_update :
    ((defaultRun streamingRun).clients firstSession).subscribed = true ∧
      let daemon := { defaultRun streamingRun with sampler := changedSampler }
      let distributed := distributeLatestSample defaultConfig (fun _ => Env.idle) daemon
      ∃ framePieces signalPieces, UpdateQueued defaultConfig daemon.canonical distributed.canonical
        (heartbeatEntry (distributed.canonical.heartbeat 30) changedSampler.sourceState
          (daemon.clients firstSession))
        (daemon.clients firstSession)
        ((onHeartbeat defaultConfig 30 (fun _ => Env.idle) distributed).clients firstSession)
        framePieces signalPieces := by
  have hsubscribed : ((defaultRun streamingRun).clients firstSession).subscribed = true := by
    decide +kernel
  refine ⟨hsubscribed, ?_⟩
  exact run_absorbs_update defaultConfig (by decide) none (singleTick 0 10) streamingRun
    changedSampler 30 (fun _ => Env.idle) (fun _ => Env.idle) firstSession (by decide +kernel)
    hsubscribed (by decide +kernel) (by decide +kernel) idle_accepts idle_accepts

/-- A session subscribes twice with its queue taken, misses a heartbeat, and its queue drains. -/
def lostUpdateRun : List (Event singleCatalog) :=
  singleSetup ++ [singleRequest .subscribeAll [], singleRequest .ping [], singleRequest .ping [],
    singleRequest .subscribeAll [], .heartbeat 0 fun _ => Env.idle, singleWriteDone,
    slotWritten ⟨1, by decide⟩, slotWritten ⟨2, by decide⟩, singleWriteDone, singleWriteDone]

/-- A subscribed session that needs a resync gets neither the update nor the heartbeat, although its
queue is empty. -/
theorem lostUpdateRun_skips :
    (Env.idle : Env singleCatalog).Accepts ∧
      defaultConfig.slots = clientQueueSlots singleCatalog ∧
      ((defaultRun lostUpdateRun).clients firstSession).active = true ∧
      ((defaultRun lostUpdateRun).clients firstSession).subscribed = true ∧
      (∀ slot, (((defaultRun lostUpdateRun).clients firstSession).output slot).inUse = false) ∧
      frameDiffers ((defaultRun (lostUpdateRun ++ singleSample 1 20)).canonical.frames singleFrame)
        ((defaultRun lostUpdateRun).canonical.frames singleFrame) = true ∧
      ((defaultRun (lostUpdateRun ++ singleSample 1 20 ++
        [.heartbeat 30 fun _ => Env.idle])).clients firstSession).log.length =
          ((defaultRun lostUpdateRun).clients firstSession).log.length := by
  refine ⟨idle_accepts, ?_⟩
  decide +kernel

end SingleRuns

end Roadcast
