import Roadcast.System.Session

/-!
# What the daemon sends

Every message that the daemon queues to a session is one of the protocol, whatever the clients do: its
header announces its payload, and the decoder for its type accepts the payload, with the counts of the
catalog, records of catalog entries in ascending order, and nothing that a client would send.

The copy that a session pages and compares from is only read once a snapshot or a catch-up has begun;
from then on its records are those of some canonical state.
-/

namespace Roadcast

open Chunks Relation Runs

variable {cat : Catalog} {config : Config cat} {canonical : Canonical cat} {env : Env cat}

/-- The payload is a frame batch of these entries. -/
def FrameBatchOf (cat : Catalog) (startIndex : UInt32) (indices : List (Fin cat.frameCount))
    (payload : List UInt8) : Prop :=
  indices.Sublist (List.finRange cat.frameCount) ∧ ∃ sampleSequence frames,
    decodeFrameBatch payload cat.frameCount =
      some ⟨sampleSequence, cat.frameCountWord, startIndex, frames⟩ ∧
    frames.map (fun frame => frame.canId) = indices.map cat.canIds

/-- The payload is a signal batch of these entries. -/
def SignalBatchOf (cat : Catalog) (startIndex : UInt32) (indices : List (Fin cat.signalCount))
    (payload : List UInt8) : Prop :=
  indices.Sublist (List.finRange cat.signalCount) ∧ ∃ sampleSequence updates,
    decodeSignalBatch payload cat.signalCount =
      some ⟨sampleSequence, cat.signalCountWord, startIndex, updates⟩ ∧
    updates.map (fun update => update.index.toNat) = indices.map Fin.val

/-- What a message of each type carries. The daemon sends none of the types that are requests. -/
def Carried (config : Config cat) (sequence : UInt64) (payload : List UInt8) : MessageType → Prop
  | .welcome => decodeWelcome payload = some (serverWelcome config)
  | .schemaChunk => ∃ startIndex entries,
    decodeSchemaChunk payload cat.signalCount =
      some ⟨schemaVersion, cat.signalCountWord, startIndex, cat.schemaHash, entries⟩ ∧
    entries ≠ [] ∧
    entries <+: ((List.finRange cat.signalCount).drop startIndex.toNat).map cat.schemaEntry
  | .snapshot => ∃ startIndex : UInt32, startIndex.toNat < cat.frameCount ∧
    FrameBatchOf cat startIndex (framePageIndices cat startIndex.toNat) payload
  | .signalSnapshotChunk => ∃ startIndex : UInt32, startIndex.toNat < cat.signalCount ∧
    SignalBatchOf cat startIndex (signalPageIndices cat startIndex.toNat) payload
  | .updateBatch => ∃ indices ≠ [], FrameBatchOf cat uint32Max indices payload
  | .signalUpdateBatch => ∃ indices ≠ [], SignalBatchOf cat uint32Max indices payload
  | .heartbeat => ∃ heartbeat, decodeHeartbeat payload = some heartbeat ∧
    heartbeat.changeSequence = sequence
  | .resyncRequired | .subscribed | .pong => payload = []
  | .hello | .getSnapshot | .subscribeAll | .ping | .getSchema | .getSignalSnapshot => False

/-- A message of the protocol, as the daemon sends it. -/
def Message.Conforms (config : Config cat) (message : Message) : Prop :=
  message.Framed ∧ message.payload.length ≤ clientPayloadCap ∧
    message.header.version = protocolVersion ∧ message.header.flags = 0 ∧
    ∃ type : MessageType, message.header.type = type.code ∧
      Carried config message.header.sequence message.payload type

/-- What a session needs to send only such messages. -/
structure Emitting (config : Config cat) (client : Client cat) : Prop where
  messages : ∀ message ∈ queuedMessages client.log, message.Conforms config
  copied : client.snapshotActive = true ∨ client.catchupActive = true → CopySound client
  listedFrames : client.catchupFrameIndices.Sublist (List.finRange cat.frameCount)
  listedSignals : client.catchupSignalIndices.Sublist (List.finRange cat.signalCount)

/-! ## Payloads -/

/-- An encoded batch of frames is one that conforms. -/
theorem frameBatchOf_encode {sampleSequence : UInt64} {startIndex : UInt32} {payload : List UInt8}
    {indices : List (Fin cat.frameCount)} {frames : Fin cat.frameCount → Frame}
    (hframes : CatalogFrames frames) (hindices : indices.Sublist (List.finRange cat.frameCount))
    (hpayload : encodeFrameBatch clientPayloadCap sampleSequence cat.frameCountWord startIndex
      (indices.map frames) = some payload)
    (hstart : startIndexAllowed cat.frameCountWord startIndex indices.length = true) :
    FrameBatchOf cat startIndex indices payload := by
  have hlength : indices.length ≤ cat.frameCount := by
    simpa only [List.length_finRange] using hindices.length_le
  refine ⟨hindices, sampleSequence, indices.map frames, ?_, ?_⟩
  · exact decodeFrameBatch_of_indices cat.frameCount hframes hpayload hlength hstart
  · rw [List.map_map]
    exact List.map_congr_left fun i _ => (hframes i).1

/-- An encoded batch of signals is one that conforms. -/
theorem signalBatchOf_encode {sampleSequence : UInt64} {startIndex : UInt32} {payload : List UInt8}
    {indices : List (Fin cat.signalCount)} {signals : Fin cat.signalCount → SignalValue}
    (hsignals : ∀ i, SignalConsistent i (signals i))
    (hindices : indices.Sublist (List.finRange cat.signalCount))
    (hpayload : encodeSignalBatch clientPayloadCap sampleSequence cat.signalCountWord startIndex
      (indices.map (signalUpdate signals)) = some payload)
    (hstart : startIndexAllowed cat.signalCountWord startIndex indices.length = true) :
    SignalBatchOf cat startIndex indices payload := by
  have hlength : indices.length ≤ cat.signalCount := by
    simpa only [List.length_finRange] using hindices.length_le
  refine ⟨hindices, sampleSequence, indices.map (signalUpdate signals), ?_, ?_⟩
  · exact decodeSignalBatch_of_indices cat.signalCount hsignals hpayload hlength hstart
  · rw [List.map_map]
    refine List.map_congr_left fun i _ => ?_
    have hcount := cat.signalCount_range.2
    simp only [Function.comp_apply, signalUpdate, UInt32.toNat_ofNat']
    exact Nat.mod_eq_of_lt (by omega)

/-- A frame page conforms. -/
theorem framePage_carried {client : Client cat} {startIndex : UInt32} {payload : List UInt8}
    (sequence : UInt64) (hcopy : CopySound client) (hlt : startIndex.toNat < cat.frameCount)
    (hpayload : framePagePayload client startIndex = some payload) :
    Carried config sequence payload .snapshot := by
  refine ⟨startIndex, hlt, frameBatchOf_encode hcopy.frames ?_ hpayload ?_⟩
  · exact (List.take_sublist _ _).trans (List.drop_sublist _ _)
  · exact startIndexAllowed_page cat.frameCount _ _ _ cat.frameCountWord_toNat hlt.le

/-- A signal page conforms. -/
theorem signalPage_carried {client : Client cat} {startIndex : UInt32} {payload : List UInt8}
    (sequence : UInt64) (hcopy : CopySound client) (hlt : startIndex.toNat < cat.signalCount)
    (hpayload : signalPagePayload client startIndex = some payload) :
    Carried config sequence payload .signalSnapshotChunk := by
  refine ⟨startIndex, hlt, signalBatchOf_encode hcopy.signals ?_ hpayload ?_⟩
  · exact (List.take_sublist _ _).trans (List.drop_sublist _ _)
  · exact startIndexAllowed_page cat.signalCount _ _ _ cat.signalCountWord_toNat hlt.le

/-- A batch of frames of a catch-up conforms. -/
theorem catchupFrames_carried {client : Client cat} {payload : List UInt8} (sequence : UInt64)
    (hcopy : CopySound client)
    (hlisted : client.catchupFrameIndices.Sublist (List.finRange cat.frameCount))
    (hunsent : client.unsentFrames ≠ []) (hpayload : catchupFramePayload client = some payload) :
    Carried config sequence payload .updateBatch := by
  refine ⟨client.unsentFrames.take framesPerMessage, ?_, ?_⟩
  · rw [Ne, List.take_eq_nil_iff, not_or]
    exact ⟨by decide, hunsent⟩
  · refine frameBatchOf_encode hcopy.frames ?_ hpayload (startIndexAllowed_delta _ _)
    exact ((List.take_sublist _ _).trans (List.drop_sublist _ _)).trans hlisted

/-- A batch of signals of a catch-up conforms. -/
theorem catchupSignals_carried {client : Client cat} {payload : List UInt8} (sequence : UInt64)
    (hcopy : CopySound client)
    (hlisted : client.catchupSignalIndices.Sublist (List.finRange cat.signalCount))
    (hunsent : client.unsentSignals ≠ []) (hpayload : catchupSignalPayload client = some payload) :
    Carried config sequence payload .signalUpdateBatch := by
  refine ⟨client.unsentSignals.take signalsPerMessage, ?_, ?_⟩
  · rw [Ne, List.take_eq_nil_iff, not_or]
    exact ⟨by decide, hunsent⟩
  · refine signalBatchOf_encode hcopy.signals ?_ hpayload (startIndexAllowed_delta _ _)
    exact ((List.take_sublist _ _).trans (List.drop_sublist _ _)).trans hlisted

/-- A batch of frames of a sample conforms. -/
theorem frameChunk_carried {changed : List (Fin cat.frameCount)} {payload : List UInt8}
    (sequence : UInt64) (hsound : canonical.Sound)
    (hchanged : changed.Sublist (List.finRange cat.frameCount))
    (hmem : some payload ∈ frameChunks canonical changed) :
    Carried config sequence payload .updateBatch := by
  obtain ⟨piece, hpiece, hpayload⟩ := List.mem_map.mp hmem
  refine ⟨piece, ne_nil_of_mem_chunks (by decide) hpiece, ?_⟩
  refine frameBatchOf_encode hsound.frames ?_ hpayload (startIndexAllowed_delta _ _)
  exact (sublist_of_mem_chunks (by decide) hpiece).trans hchanged

/-- A batch of signals of a sample conforms. -/
theorem signalChunk_carried {changed : List (Fin cat.signalCount)} {payload : List UInt8}
    (sequence : UInt64) (hsound : canonical.Sound)
    (hchanged : changed.Sublist (List.finRange cat.signalCount))
    (hmem : some payload ∈ signalChunks canonical changed) :
    Carried config sequence payload .signalUpdateBatch := by
  obtain ⟨piece, hpiece, hpayload⟩ := List.mem_map.mp hmem
  refine ⟨piece, ne_nil_of_mem_chunks (by decide) hpiece, ?_⟩
  refine signalBatchOf_encode hsound.signals ?_ hpayload (startIndexAllowed_delta _ _)
  exact (sublist_of_mem_chunks (by decide) hpiece).trans hchanged

/-- A schema page conforms. -/
theorem schemaChunk_carried {startIndex : UInt32} {payload : List UInt8} (sequence : UInt64)
    (hpayload : encodeSchemaChunk cat clientPayloadCap startIndex = some payload) :
    Carried config sequence payload .schemaChunk := by
  have hlength := schemaChunkEntries_length_le cat clientPayloadCap startIndex
  obtain ⟨hdecoded, -, hnonempty, -⟩ := decodeSchemaChunk_encode cat clientPayloadCap startIndex
    payload cat.signalCount hpayload (hlength.trans (Nat.sub_le _ _))
  exact ⟨startIndex, _, hdecoded, hnonempty, fittingEntries_prefix _ _⟩

/-- Differing frames are listed in order, each once. -/
theorem differingFrames_sublist (new old : Fin cat.frameCount → Frame) :
    (differingFrames new old).Sublist (List.finRange cat.frameCount) :=
  List.filter_sublist

/-- Differing signals are listed in order, each once. -/
theorem differingSignals_sublist (new old : Fin cat.signalCount → SignalValue) :
    (differingSignals new old).Sublist (List.finRange cat.signalCount) :=
  List.filter_sublist

/-! ## Sessions -/

/-- A queued message is framed as `client_queue_message` frames it. -/
theorem Pushes.conforms {type : MessageType} {sequence timestampNs : UInt64} {payload : List UInt8}
    {client client' : Client cat}
    (hpush : Pushes config canonical (outgoing type sequence timestampNs payload) client client')
    (hcarried : Carried config sequence payload type) :
    (outgoing type sequence timestampNs payload).Conforms config := by
  have hlength : payload.length ≤ clientPayloadCap := hpush.length_le
  have hmax : payload.length ≤ maxPayload := hlength.trans (by decide)
  refine ⟨⟨?_, hmax⟩, hlength, rfl, rfl, type, rfl, hcarried⟩
  change (UInt32.ofNat payload.length).toNat = payload.length
  rw [UInt32.toNat_ofNat', Nat.mod_eq_of_lt]
  rw [maxPayload] at hmax
  omega

namespace Emitting

variable {client client' : Client cat}

/-- An update that touches neither the history nor the copy, and begins nothing. -/
theorem of_same (h : Emitting config client)
    (hmessages : queuedMessages client'.log = queuedMessages client.log)
    (hflags : client'.snapshotActive = true ∨ client'.catchupActive = true →
      client.snapshotActive = true ∨ client.catchupActive = true)
    (hframes : client'.snapshotFrames = client.snapshotFrames)
    (hsignals : client'.snapshotSignals = client.snapshotSignals)
    (hlistedFrames : client'.catchupFrameIndices = client.catchupFrameIndices)
    (hlistedSignals : client'.catchupSignalIndices = client.catchupSignalIndices) :
    Emitting config client' := by
  refine ⟨?_, fun hactive => ?_, ?_, ?_⟩
  · rw [hmessages]
    exact h.messages
  · obtain ⟨hcopyFrames, hcopySignals⟩ := h.copied (hflags hactive)
    constructor
    · rw [hframes]
      exact hcopyFrames
    · rw [hsignals]
      exact hcopySignals
  · rw [hlistedFrames]
    exact h.listedFrames
  · rw [hlistedSignals]
    exact h.listedSignals

/-- A message of the protocol is queued. -/
theorem pushed {type : MessageType} {sequence timestampNs : UInt64} {payload : List UInt8}
    (h : Emitting config client)
    (hpush : Pushes config canonical (outgoing type sequence timestampNs payload) client client')
    (hcarried : Carried config sequence payload type) : Emitting config client' := by
  have hconforms := hpush.conforms hcarried
  obtain ⟨slot, -, -, rfl⟩ := hpush.takes
  refine ⟨fun message hmessage => ?_, fun hactive => ?_, h.listedFrames, h.listedSignals⟩
  · rw [Client.record, queuedMessages_append, List.mem_append] at hmessage
    rcases hmessage with hold | hnew
    · exact h.messages message hold
    · obtain rfl : message = outgoing type sequence timestampNs payload := by
        simpa [LogEntry.message] using hnew
      exact hconforms
  · exact ⟨(h.copied hactive).frames, (h.copied hactive).signals⟩

/-- Closing a session emits nothing. -/
theorem closed (h : Emitting config client) : Emitting config (clientClose client) := by
  unfold clientClose
  split
  · exact h
  · exact h.of_same rfl id rfl rfl rfl rfl

/-- A refused message is not emitted. -/
theorem refused (h : Emitting config client) (hrefused : Refused config client client') :
    Emitting config client' := by
  cases hrefused with
  | unchanged => exact h
  | scrubbed slot hfree => exact h.of_same rfl id rfl rfl rfl rfl

/-- A dropped message is not emitted. -/
theorem overflowed {type : MessageType} (h : Emitting config client)
    (hoverflow : Overflows config env type client client') : Emitting config client' := by
  rw [hoverflow.eq]
  refine h.of_same ?_ id rfl rfl rfl rfl
  rw [Client.overflow, queuedMessages_append]
  exact List.append_nil _

/-- A new snapshot emits nothing, and its copy is sound. -/
theorem begun (h : Emitting config client) (hsound : canonical.Sound) :
    Emitting config (beginSnapshot canonical env client) := by
  refine ⟨?_, fun _ => ⟨hsound.frames, hsound.signals⟩, h.listedFrames, h.listedSignals⟩
  rw [beginSnapshot, queuedMessages_append]
  simpa [LogEntry.message] using h.messages

/-- A round replaces the copy and the lists, whatever they were. -/
theorem rounded (hmessages : ∀ message ∈ queuedMessages client.log, message.Conforms config)
    (hsound : canonical.Sound) : Emitting config (beginCatchupRound canonical client) := by
  refine ⟨?_, fun _ => ⟨hsound.frames, hsound.signals⟩, differingFrames_sublist _ _,
    differingSignals_sublist _ _⟩
  rw [beginCatchupRound, queuedMessages_append]
  simpa [LogEntry.message] using hmessages

/-- A move of a catch-up emits messages that conform. -/
theorem moved (hsound : canonical.Sound) (hmove : DriveMove config canonical env client client')
    (h : Emitting config client) : Emitting config client' := by
  cases hmove with
  | noted waiting reported => exact h.of_same rfl id rfl rfl rfl rfl
  | frames payload queued hguard hunsent hpayload hpush =>
    have hcopy := h.copied (Or.inr (driveGuard_catchupActive hguard))
    have hpushed := h.pushed hpush (catchupFrames_carried _ hcopy h.listedFrames hunsent hpayload)
    exact hpushed.of_same rfl id rfl rfl rfl rfl
  | signals payload queued hguard hframes hunsent hpayload hpush =>
    have hcopy := h.copied (Or.inr (driveGuard_catchupActive hguard))
    have hpushed := h.pushed hpush (catchupSignals_carried _ hcopy h.listedSignals hunsent hpayload)
    exact hpushed.of_same rfl id rfl rfl rfl rfl
  | round hguard hframes hsignals hdiffers => exact rounded h.messages hsound
  | finish queued hguard hframes hsignals hsameFrames hsameSignals hpush =>
    refine ((rounded h.messages hsound).pushed hpush rfl).of_same rfl ?_ rfl rfl rfl rfl
    rintro (hactive | hcatchup)
    · exact Or.inl hactive
    · contradiction

/-- A whole drive emits messages that conform. -/
theorem driven (hsound : canonical.Sound)
    (hmoves : ReflTransGen (DriveMove config canonical env) client client')
    (h : Emitting config client) : Emitting config client' :=
  drive_induction (fun hmove => moved hsound hmove) hmoves h

/-- A drive that fails has emitted only messages that conform. -/
theorem driveFailed {failed : Client cat} (hsound : canonical.Sound)
    (hfailure : DriveFailure config canonical env client failed) (h : Emitting config client) :
    Emitting config failed := by
  cases hfailure with
  | batch hguard hrefused => exact h.refused hrefused
  | finish hguard hframes hsignals hrefused => exact (rounded h.messages hsound).refused hrefused

/-- The answer to a request conforms. -/
theorem replied {request : Message} (hsound : canonical.Sound)
    (hreply : Reply config canonical env request client client') (h : Emitting config client) :
    Emitting config client' := by
  cases hreply with
  | welcome queued htype hgreeted hpush =>
    have hcarried := decodeWelcome_encodeWelcome (serverWelcome config)
    exact (h.pushed hpush hcarried).of_same rfl id rfl rfl rfl rfl
  | schema startIndex payload queued htype hgreeted hstart hpayload hpush =>
    exact h.pushed hpush (schemaChunk_carried _ hpayload)
  | pong queued htype hgreeted hpush => exact h.pushed hpush rfl
  | firstFramePage payload queued htype hgreeted hstart hinactive hpayload hpush =>
    have hbegun : Emitting config (beginSnapshot canonical env client) := h.begun hsound
    have hlt : (0 : UInt32).toNat < cat.frameCount := cat.frameCount_range.1
    have hpushed := hbegun.pushed hpush (framePage_carried _ (hbegun.copied (Or.inl rfl)) hlt hpayload)
    exact hpushed.of_same rfl id rfl rfl rfl rfl
  | framePage startIndex payload queued htype hgreeted hstart hactive hframes hnext hlt hpayload
      hpush =>
    have hpushed := h.pushed hpush (framePage_carried _ (h.copied (Or.inl hactive)) hlt hpayload)
    exact hpushed.of_same rfl id rfl rfl rfl rfl
  | signalPage startIndex payload queued htype hgreeted hstart hactive hframes hnext hlt hpayload
      hpush =>
    have hpushed := h.pushed hpush (signalPage_carried _ (h.copied (Or.inl hactive)) hlt hpayload)
    refine hpushed.of_same rfl ?_ rfl rfl rfl rfl
    rintro (hadvanced | hcatchup)
    · exact Or.inl ((Bool.and_eq_true _ _).mp hadvanced).1
    · exact Or.inr hcatchup
  | subscribe last htype hgreeted hresync hcomplete hmoves hdone =>
    have hround : Emitting config
        (beginCatchupRound canonical { client with catchupActive := true }) :=
      rounded h.messages hsound
    exact driven hsound (hmoves.trans (noteWaiting_moves last)) hround

/-- A request that fails has led only to messages that conform. -/
theorem commandFailed {request : Message} {failed : Client cat} (hsound : canonical.Sound)
    (hfailure : CommandFailure config canonical env request client failed)
    (h : Emitting config client) : Emitting config failed := by
  cases hfailure with
  | refused hrefused => exact h.refused hrefused
  | snapshot hgreeted hinactive hrefused => exact (h.begun hsound).refused hrefused
  | subscribe htype hgreeted hresync hcomplete hmoves hlast =>
    have hround : Emitting config
        (beginCatchupRound canonical { client with catchupActive := true }) :=
      rounded h.messages hsound
    exact driveFailed hsound hlast (driven hsound hmoves hround)

/-- `RESYNC_REQUIRED` conforms. -/
theorem resynced (hstep : ResyncStep config canonical client client')
    (h : Emitting config client) : Emitting config client' := by
  cases hstep with
  | none _ => exact h
  | queued queued hgreeted hresync hnot hpending hpush =>
    exact (h.pushed hpush rfl).of_same rfl id rfl rfl rfl rfl
  | failed hrefused => exact (h.refused hrefused).closed

/-- A completed write leads to messages that conform. -/
theorem resumed (hsound : canonical.Sound)
    (hresumes : Resumes config canonical env client client') (h : Emitting config client) :
    Emitting config client' := by
  cases hresumes with
  | idle hcatchup hstep => exact resynced hstep h
  | @driven last client' hcatchup hmoves hdone hstep =>
    exact resynced hstep (driven hsound (hmoves.trans (noteWaiting_moves last)) h)
  | failed hcatchup hmoves hlast => exact (driveFailed hsound hlast (driven hsound hmoves h)).closed

/-- Batches of one kind are queued until one of them finds no room. -/
theorem fannedOut {type : MessageType} {chunks : List (Option (List UInt8))}
    (hfan : FansOut config canonical env type chunks client client')
    (hcarried : ∀ payload, some payload ∈ chunks →
      Carried config canonical.changeSequence payload type)
    (h : Emitting config client) : Emitting config client' := by
  induction hfan with
  | done client => exact h
  | sent payload rest client queued client' hresync hpush _ ih =>
    refine ih (fun later hlater => ?_) (h.pushed hpush (hcarried payload List.mem_cons_self))
    exact hcarried later (List.mem_cons_of_mem _ hlater)
  | overflowed chunks client client' hresync hoverflow => exact h.overflowed hoverflow
  | failed chunks client failed hrefused => exact (h.refused hrefused).closed

/-- The batches of a sample conform. -/
theorem distributed {changedFrames : List (Fin cat.frameCount)}
    {changedSignals : List (Fin cat.signalCount)} (hsound : canonical.Sound)
    (hframes : changedFrames.Sublist (List.finRange cat.frameCount))
    (hsignals : changedSignals.Sublist (List.finRange cat.signalCount))
    (hdistributes : Distributes config canonical env changedFrames changedSignals client client')
    (h : Emitting config client) : Emitting config client' := by
  cases hdistributes with
  | stopped hfan hstopped =>
    exact fannedOut hfan (fun payload => frameChunk_carried _ hsound hframes) h
  | both hfan hactive hresync hfanSignals =>
    refine fannedOut hfanSignals (fun payload => signalChunk_carried _ hsound hsignals) ?_
    exact fannedOut hfan (fun payload => frameChunk_carried _ hsound hframes) h

/-- A new session has emitted nothing. -/
theorem fresh (h : Fresh client) : Emitting config client := by
  have hzero : Emitting config (Client.zero cat) :=
    ⟨nofun, by simp [Client.zero], List.nil_sublist _, List.nil_sublist _⟩
  cases h with
  | zero => exact hzero
  | unaccepted => exact hzero.of_same rfl id rfl rfl rfl rfl
  | rejected =>
    have hopened : Emitting config { Client.zero cat with active := true } :=
      hzero.of_same rfl id rfl rfl rfl rfl
    exact hopened.closed
  | accepted uid nowNs => exact hzero.of_same rfl id rfl rfl rfl rfl
  | unreadable uid nowNs =>
    have haccepted : Emitting config (Client.accepted uid nowNs) :=
      hzero.of_same rfl id rfl rfl rfl rfl
    exact haccepted.closed

/-- Every event keeps to the protocol. -/
theorem evolved {before : Canonical cat} {event : Event cat} {s : Fin maxClients}
    (hsound : canonical.Sound)
    (hevolves : Evolves config canonical before event s client client')
    (h : Emitting config client) : Emitting config client' := by
  cases hevolves with
  | idle hevent hquiet => exact h
  | closed => exact h.closed
  | replied request hevent hcanonical hactive hreply => exact replied hsound hreply h
  | aborted request hevent hcanonical hactive hfailure =>
    exact (commandFailed hsound hfailure h).closed
  | writeFailed slot hused =>
    have hreleased : Emitting config (client.release slot) := h.of_same rfl id rfl rfl rfl rfl
    exact hreleased.closed
  | written slot hevent hcanonical hused hresumes =>
    have hreleased : Emitting config (client.release slot) := h.of_same rfl id rfl rfl rfl rfl
    exact resumed hsound hresumes hreleased
  | distributed env sample hevent hcanonical hlive hdistributes =>
    refine distributed hsound ?_ ?_ hdistributes h
    · rw [before.delta_frames sample]
      exact differingFrames_sublist _ _
    · rw [before.delta_signals sample]
      exact differingSignals_sublist _ _
  | heartbeat nowNs env sourceState hevent hsame hgreeted hlive hpush =>
    exact h.pushed hpush ⟨_, decodeHeartbeat_encodeHeartbeat _, rfl⟩
  | heartbeatOverflow nowNs env hevent hsame hgreeted hlive hoverflow => exact h.overflowed hoverflow
  | heartbeatFailed hrefused => exact (h.refused hrefused).closed
  | fresh hbefore hfresh => exact fresh hfresh

end Emitting

/-- In every reachable state a session has emitted only messages that conform. -/
theorem run_emitting (config : Config cat) (fake : Option Bool) (tick : Tick cat)
    (events : List (Event cat)) (s : Fin maxClients) :
    Emitting config ((run config fake tick events).clients s) := by
  have hinit : (daemonInit config fake tick).Sound ∧
      ∀ s, Emitting config ((daemonInit config fake tick).clients s) :=
    ⟨daemonInit_sound config fake tick, fun _ => .fresh .zero⟩
  refine ((Meets.always _ events).invariant
    (I := fun daemon : Daemon cat => daemon.Sound ∧ ∀ s, Emitting config (daemon.clients s))
    (fun event _ daemon _ hdaemon => ?_) hinit).2 s
  have hsound := step_sound config event hdaemon.1
  exact ⟨hsound, fun s => (hdaemon.2 s).evolved hsound.canonical (step_evolves config daemon event s)⟩

/-- Every message that was queued to a session is framed. -/
theorem run_queuesFramed (config : Config cat) (fake : Option Bool) (tick : Tick cat)
    (events : List (Event cat)) (s : Fin maxClients) :
    ∀ message ∈ queuedMessages ((run config fake tick events).clients s).log, message.Framed :=
  fun message hmessage => ((run_emitting config fake tick events s).messages message hmessage).1

/-- Whatever its clients do, the daemon queues only messages of the protocol. -/
theorem run_messages_conform (config : Config cat) (fake : Option Bool) (tick : Tick cat)
    (events : List (Event cat)) (s : Fin maxClients) :
    ∀ message ∈ queuedMessages ((run config fake tick events).clients s).log,
      message.Conforms config :=
  (run_emitting config fake tick events s).messages

/-- The page of frames that a session is sent conforms. -/
theorem run_messages_conform_snapshot :
    ∃ message ∈ queuedMessages (singleSession singleSetup).log,
      message.header.type = MessageType.snapshot.code ∧ message.Conforms singleConfig := by
  obtain ⟨message, hmessage, htype⟩ : ∃ message ∈ queuedMessages (singleSession singleSetup).log,
      message.header.type = MessageType.snapshot.code := by decide +kernel
  exact ⟨message, hmessage, htype, run_messages_conform singleConfig none (singleTick 0 10)
    singleSetup firstSession message hmessage⟩

end Roadcast
