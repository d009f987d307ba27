import Roadcast.Daemon.Driving

/-!
# What an event can do to a session

`Reply` lists the successful outcomes of `process_command`, `CommandFailure` its failed ones,
`Resumes` the outcomes of a write completion, `FansOut` those of a distribution. `Evolves` collects
what an event can do to the record of one session; `step_evolves` shows that the list is complete.
The canonical state is the one after the event: distribution and heartbeats update it before they
visit the sessions, and nothing else changes it.
-/

namespace Roadcast

open SlotPool Relation

variable {cat : Catalog} (config : Config cat) (canonical : Canonical cat) (env : Env cat)

/-- The outcomes of a request that is answered. -/
inductive Reply (request : Message) (client : Client cat) : Client cat → Prop
  | welcome (queued : Client cat) (htype : request.header.type = MessageType.hello.code)
      (hgreeted : client.greeted = false)
      (hpush : Pushes config canonical (outgoing .welcome canonical.changeSequence
        canonical.sampleTimestampNs (encodeWelcome (serverWelcome config))) client queued) :
      Reply request client (queued.greet env.monotonicNs)
  | schema (startIndex : UInt32) (payload : List UInt8) (queued : Client cat)
      (htype : request.header.type = MessageType.getSchema.code)
      (hgreeted : client.greeted = true)
      (hstart : decodeIndexRequest request.payload = some startIndex)
      (hpayload : encodeSchemaChunk cat clientPayloadCap startIndex = some payload)
      (hpush : Pushes config canonical (outgoing .schemaChunk canonical.changeSequence
        canonical.sampleTimestampNs payload) client queued) : Reply request client queued
  | pong (queued : Client cat) (htype : request.header.type = MessageType.ping.code)
      (hgreeted : client.greeted = true)
      (hpush : Pushes config canonical (outgoing .pong canonical.changeSequence
        canonical.sampleTimestampNs []) client queued) : Reply request client queued
  | firstFramePage (payload : List UInt8) (queued : Client cat)
      (htype : request.header.type = MessageType.getSnapshot.code)
      (hgreeted : client.greeted = true)
      (hstart : decodeIndexRequest request.payload = some 0)
      (hinactive : client.snapshotActive = false)
      (hpayload : framePagePayload (beginSnapshot canonical env client) 0 = some payload)
      (hpush : Pushes config canonical (outgoing .snapshot canonical.changeSequence
        canonical.sampleTimestampNs payload) (beginSnapshot canonical env client) queued) :
      Reply request client (queued.advanceFrames (framePageIndices cat 0).length)
  | framePage (startIndex : UInt32) (payload : List UInt8) (queued : Client cat)
      (htype : request.header.type = MessageType.getSnapshot.code)
      (hgreeted : client.greeted = true)
      (hstart : decodeIndexRequest request.payload = some startIndex)
      (hactive : client.snapshotActive = true) (hframes : client.snapshotFramesComplete = false)
      (hnext : startIndex.toNat = client.snapshotNextFrameIndex)
      (hlt : startIndex.toNat < cat.frameCount)
      (hpayload : framePagePayload client startIndex = some payload)
      (hpush : Pushes config canonical (outgoing .snapshot client.snapshotChangeSequence
        client.snapshotTimestampNs payload) client queued) :
      Reply request client (queued.advanceFrames (framePageIndices cat startIndex.toNat).length)
  | signalPage (startIndex : UInt32) (payload : List UInt8) (queued : Client cat)
      (htype : request.header.type = MessageType.getSignalSnapshot.code)
      (hgreeted : client.greeted = true)
      (hstart : decodeIndexRequest request.payload = some startIndex)
      (hactive : client.snapshotActive = true) (hframes : client.snapshotFramesComplete = true)
      (hnext : startIndex.toNat = client.snapshotNextIndex)
      (hlt : startIndex.toNat < cat.signalCount)
      (hpayload : signalPagePayload client startIndex = some payload)
      (hpush : Pushes config canonical (outgoing .signalSnapshotChunk client.snapshotChangeSequence
        client.snapshotTimestampNs payload) client queued) :
      Reply request client (queued.advanceSignals (signalPageIndices cat startIndex.toNat).length)
  | subscribe (driven : Client cat) (htype : request.header.type = MessageType.subscribeAll.code)
      (hgreeted : client.greeted = true) (hresync : client.needsResync = false)
      (hcomplete : client.snapshotComplete = true)
      (hmoves : ReflTransGen (DriveMove config canonical env)
        (beginCatchupRound canonical { client with catchupActive := true }) driven)
      (hdone : driveGuard config env driven = false) :
      Reply request client (noteWaiting config env driven)

/-- The outcomes of a request that fails, before the session is closed. -/
inductive CommandFailure (request : Message) (client : Client cat) : Client cat → Prop
  | refused {failed : Client cat} (h : Refused config client failed) :
      CommandFailure request client failed
  | snapshot {failed : Client cat} (hgreeted : client.greeted = true)
      (hinactive : client.snapshotActive = false)
      (h : Refused config (beginSnapshot canonical env client) failed) :
      CommandFailure request client failed
  | subscribe {last failed : Client cat}
      (htype : request.header.type = MessageType.subscribeAll.code)
      (hgreeted : client.greeted = true) (hresync : client.needsResync = false)
      (hcomplete : client.snapshotComplete = true)
      (hmoves : ReflTransGen (DriveMove config canonical env)
        (beginCatchupRound canonical { client with catchupActive := true }) last)
      (h : DriveFailure config canonical env last failed) : CommandFailure request client failed

/-- The outcomes of `maybe_queue_resync`. -/
inductive ResyncStep (client : Client cat) : Client cat → Prop
  | none (h : client.active = false ∨ client.greeted = false ∨ client.needsResync = false ∨
      client.resyncQueued = true ∨ client.pendingBytes ≠ 0) : ResyncStep client client
  | queued (queued : Client cat) (hgreeted : client.greeted = true)
      (hresync : client.needsResync = true) (hnot : client.resyncQueued = false)
      (hpending : client.pendingBytes = 0)
      (hpush : Pushes config canonical (outgoing .resyncRequired canonical.changeSequence
        canonical.sampleTimestampNs []) client queued) :
      ResyncStep client { queued with resyncQueued := true }
  | failed {failed : Client cat} (h : Refused config client failed) :
      ResyncStep client (clientClose failed)

/-- The outcomes of a write completion, from the session with the slot released. -/
inductive Resumes (client : Client cat) : Client cat → Prop
  | idle {client' : Client cat} (hcatchup : client.catchupActive = false)
      (h : ResyncStep config canonical client client') : Resumes client client'
  | driven {driven client' : Client cat} (hcatchup : client.catchupActive = true)
      (hmoves : ReflTransGen (DriveMove config canonical env) client driven)
      (hdone : driveGuard config env driven = false)
      (h : ResyncStep config canonical (noteWaiting config env driven) client') :
      Resumes client client'
  | failed {last failed : Client cat} (hcatchup : client.catchupActive = true)
      (hmoves : ReflTransGen (DriveMove config canonical env) client last)
      (h : DriveFailure config canonical env last failed) : Resumes client (clientClose failed)

/-- The outcomes of queueing the batches of one kind. -/
inductive FansOut (type : MessageType) :
    List (Option (List UInt8)) → Client cat → Client cat → Prop
  | done (client : Client cat) : FansOut type [] client client
  | sent (payload : List UInt8) (rest : List (Option (List UInt8)))
      (client queued client' : Client cat) (hresync : client.needsResync = false)
      (hpush : Pushes config canonical (outgoing type canonical.changeSequence
        canonical.sampleTimestampNs payload) client queued)
      (h : FansOut type rest queued client') : FansOut type (some payload :: rest) client client'
  | overflowed (chunks : List (Option (List UInt8))) (client client' : Client cat)
      (hresync : client.needsResync = false) (h : Overflows config env type client client') :
      FansOut type chunks client client'
  | failed (chunks : List (Option (List UInt8))) (client failed : Client cat)
      (h : Refused config client failed) : FansOut type chunks client (clientClose failed)

/-- The outcomes of a distribution for a session that takes part in it. -/
inductive Distributes (changedFrames : List (Fin cat.frameCount))
    (changedSignals : List (Fin cat.signalCount)) (client : Client cat) : Client cat → Prop
  | stopped {client' : Client cat}
      (hframes : FansOut config canonical env .updateBatch (frameChunks canonical changedFrames)
        client client')
      (hstopped : client'.active = false ∨ client'.needsResync = true) :
      Distributes changedFrames changedSignals client client'
  | both {sent client' : Client cat}
      (hframes : FansOut config canonical env .updateBatch (frameChunks canonical changedFrames)
        client sent)
      (hactive : sent.active = true) (hresync : sent.needsResync = false)
      (hsignals : FansOut config canonical env .signalUpdateBatch
        (signalChunks canonical changedSignals) sent client') :
      Distributes changedFrames changedSignals client client'

/-- The records that a session slot starts with. -/
inductive Fresh : Client cat → Prop
  | zero : Fresh (Client.zero cat)
  | unaccepted : Fresh { Client.zero cat with closing := true }
  | rejected : Fresh (clientClose { Client.zero cat with active := true })
  | accepted (uid : UInt32) (nowNs : ℕ) : Fresh (Client.accepted uid nowNs)
  | unreadable (uid : UInt32) (nowNs : ℕ) : Fresh (clientClose (Client.accepted uid nowNs))

/-- The answers that an event brings for a session. -/
def Event.answers : Event cat → Fin maxClients → Env cat
  | .sampleNotification env, session => env session
  | .heartbeat _ env, session => env session
  | .request _ env _, _ => env
  | .writeDone _ env _ _, _ => env
  | _, _ => Env.idle

/-- The session takes part in distributions and heartbeats. -/
def Client.Live (client : Client cat) : Prop :=
  client.active = true ∧ client.subscribed = true ∧ client.needsResync = false

instance (client : Client cat) : Decidable client.Live := inferInstanceAs (Decidable (_ ∧ _ ∧ _))

/-- What an event can do to the record of one session, with the canonical states before the event
and after it. A live session is left alone only by events that leave the canonical state alone. -/
inductive Evolves (before : Canonical cat) (event : Event cat) (s : Fin maxClients)
    (client : Client cat) : Client cat → Prop
  | idle (hevent : client.active = false ∨ ∀ env request, event ≠ .request s env request)
      (hquiet : before.Same canonical ∨ ¬ client.Live) : Evolves before event s client client
  | closed : Evolves before event s client (clientClose client)
  | replied (request : Message) {client' : Client cat}
      (hevent : event = .request s (event.answers s) request) (hcanonical : before = canonical)
      (hactive : client.active = true)
      (h : Reply config canonical (event.answers s) request client client') :
      Evolves before event s client client'
  | aborted (request : Message) {failed : Client cat}
      (hevent : event = .request s (event.answers s) request) (hcanonical : before = canonical)
      (hactive : client.active = true)
      (h : CommandFailure config canonical (event.answers s) request client failed) :
      Evolves before event s client (clientClose failed)
  | writeFailed (slot : Fin (clientQueueSlots cat)) (hused : (client.output slot).inUse = true) :
      Evolves before event s client (clientClose (client.release slot))
  | written (slot : Fin (clientQueueSlots cat)) {client' : Client cat}
      (hevent : event = .writeDone s (event.answers s) slot false)
      (hcanonical : before = canonical) (hused : (client.output slot).inUse = true)
      (h : Resumes config canonical (event.answers s) (client.release slot) client') :
      Evolves before event s client client'
  | distributed (env : Fin maxClients → Env cat) (sample : Sample cat) {client' : Client cat}
      (hevent : event = .sampleNotification env) (hcanonical : canonical = before.consume sample)
      (hlive : client.Live)
      (h : Distributes config canonical (event.answers s) (before.delta sample).1
        (before.delta sample).2 client client') : Evolves before event s client client'
  | heartbeat (nowNs : ℕ) (env : Fin maxClients → Env cat) (sourceState : SourceState)
      {client' : Client cat} (hevent : event = .heartbeat nowNs env)
      (hsame : before.Same canonical) (hgreeted : client.greeted = true) (hlive : client.Live)
      (h : Pushes config canonical (outgoing .heartbeat canonical.changeSequence
        canonical.sampleTimestampNs
        (encodeHeartbeat (heartbeatReport canonical sourceState client))) client client') :
      Evolves before event s client client'
  | heartbeatOverflow (nowNs : ℕ) (env : Fin maxClients → Env cat) {client' : Client cat}
      (hevent : event = .heartbeat nowNs env) (hsame : before.Same canonical)
      (hgreeted : client.greeted = true) (hlive : client.Live)
      (h : Overflows config (event.answers s) .heartbeat client client') :
      Evolves before event s client client'
  | heartbeatFailed {failed : Client cat} (h : Refused config client failed) :
      Evolves before event s client (clientClose failed)
  | fresh {client' : Client cat}
      (hbefore : (client.active = false ∧ client.closing = false) ∨
        (event = .closed s ∧ client'.active = false))
      (h : Fresh client') : Evolves before event s client client'

variable {config canonical env}

/-- A frame page that is queued is the next one of the active snapshot. -/
theorem queueFramePage_ok {client client' : Client cat} {startIndex : UInt32}
    (h : queueFramePage config canonical env client startIndex = .ok client') :
    client.snapshotActive = true ∧ client.snapshotFramesComplete = false ∧
      startIndex.toNat = client.snapshotNextFrameIndex ∧ startIndex.toNat < cat.frameCount ∧
      ∃ payload queued, framePagePayload client startIndex = some payload ∧
        Pushes config canonical (outgoing .snapshot client.snapshotChangeSequence
          client.snapshotTimestampNs payload) client queued ∧
        client' = queued.advanceFrames (framePageIndices cat startIndex.toNat).length := by
  unfold queueFramePage at h
  split at h
  · contradiction
  rename_i hguard
  simp only [not_or, Bool.not_eq_false, Bool.not_eq_true, not_not, Nat.not_le] at hguard
  split at h
  · contradiction
  rename_i payload hpayload
  obtain ⟨queued, hqueued, rfl⟩ := bind_ok h
  exact ⟨hguard.1, hguard.2.1, hguard.2.2.1, hguard.2.2.2, payload, queued, hpayload,
    clientQueueMessage_reply hqueued, rfl⟩

/-- A frame page that fails changes at most a free slot. -/
theorem queueFramePage_error {client failed : Client cat} {startIndex : UInt32}
    (h : queueFramePage config canonical env client startIndex = .error failed) :
    Refused config client failed := by
  unfold queueFramePage at h
  split at h
  · exact Except.error.inj h ▸ .unchanged
  split at h
  · exact Except.error.inj h ▸ .unchanged
  · exact clientQueueMessage_error (bind_error h)

/-- An index request that succeeds comes from a greeted session and has a start index. -/
theorem processIndexRequest_ok {client client' : Client cat} {payload : List UInt8}
    {queueChunk : UInt32 → Except (Client cat) (Client cat)}
    (h : processIndexRequest client payload queueChunk = .ok client') :
    client.greeted = true ∧ ∃ startIndex, decodeIndexRequest payload = some startIndex ∧
      queueChunk startIndex = .ok client' := by
  unfold processIndexRequest at h
  split at h
  · contradiction
  rename_i hgreeted
  split at h
  · contradiction
  exact ⟨by simpa using hgreeted, _, ‹_›, h⟩

/-- An index request fails by its own checks or by what it queues. -/
theorem processIndexRequest_error {client failed : Client cat} {payload : List UInt8}
    {queueChunk : UInt32 → Except (Client cat) (Client cat)}
    (h : processIndexRequest client payload queueChunk = .error failed) :
    failed = client ∨ (client.greeted = true ∧ ∃ startIndex, queueChunk startIndex = .error failed) := by
  unfold processIndexRequest at h
  split at h
  · exact Or.inl (Except.error.inj h).symm
  rename_i hgreeted
  split at h
  · exact Or.inl (Except.error.inj h).symm
  exact Or.inr ⟨by simpa using hgreeted, _, h⟩

/-- A greeting that succeeds is the first one, and is answered with `WELCOME`. -/
theorem processHello_ok {client client' : Client cat} {payload : List UInt8}
    (h : processHello config canonical env client payload = .ok client') :
    client.greeted = false ∧ ∃ queued,
      Pushes config canonical (outgoing .welcome canonical.changeSequence
        canonical.sampleTimestampNs (encodeWelcome (serverWelcome config))) client queued ∧
      client' = queued.greet env.monotonicNs := by
  unfold processHello at h
  split at h
  · contradiction
  split at h
  · contradiction
  rename_i hguard
  simp only [not_or, Bool.not_eq_true] at hguard
  obtain ⟨queued, hqueued, rfl⟩ := bind_ok h
  exact ⟨hguard.1, queued, clientQueueMessage_reply hqueued, rfl⟩

/-- A greeting that fails changes at most a free slot. -/
theorem processHello_error {client failed : Client cat} {payload : List UInt8}
    (h : processHello config canonical env client payload = .error failed) :
    Refused config client failed := by
  unfold processHello at h
  split at h
  · exact Except.error.inj h ▸ .unchanged
  split at h
  · exact Except.error.inj h ▸ .unchanged
  · exact clientQueueMessage_error (bind_error h)

/-- An answered request is one of the replies. -/
theorem processCommand_ok {client client' : Client cat} {request : Message}
    (h : processCommand config canonical env client request = .ok client') :
    Reply config canonical env request client client' := by
  unfold processCommand at h
  split at h
  · contradiction
  split at h
  · rename_i htype
    obtain ⟨hgreeted, queued, hpush, rfl⟩ := processHello_ok h
    exact .welcome queued (MessageType.code_of_ofCode htype) hgreeted hpush
  · rename_i htype
    have hcode := MessageType.code_of_ofCode htype
    obtain ⟨hgreeted, startIndex, hstart, hchunk⟩ := processIndexRequest_ok h
    unfold queueFrameSnapshotChunk at hchunk
    split at hchunk
    · rename_i hfirst
      obtain ⟨rfl, hinactive⟩ := hfirst
      obtain ⟨-, -, -, -, payload, queued, hpayload, hpush, rfl⟩ := queueFramePage_ok hchunk
      exact .firstFramePage payload queued hcode hgreeted hstart hinactive hpayload hpush
    · obtain ⟨hactive, hframes, hnext, hlt, payload, queued, hpayload, hpush, rfl⟩ :=
        queueFramePage_ok hchunk
      exact .framePage startIndex payload queued hcode hgreeted hstart hactive hframes hnext hlt
        hpayload hpush
  · rename_i htype
    split at h
    · contradiction
    rename_i hguard
    simp only [not_or, Bool.not_eq_false, Bool.not_eq_true] at hguard
    obtain ⟨driven, hmoves, hdone, rfl⟩ := driveSubscriptionCatchup_ok h
    exact .subscribe driven (MessageType.code_of_ofCode htype) hguard.1 hguard.2.2.1 hguard.2.2.2
      hmoves hdone
  · rename_i htype
    split at h
    · contradiction
    rename_i hguard
    simp only [not_or, Bool.not_eq_false] at hguard
    exact .pong client' (MessageType.code_of_ofCode htype) hguard.1 (clientQueueMessage_reply h)
  · rename_i htype
    obtain ⟨hgreeted, startIndex, hstart, hchunk⟩ := processIndexRequest_ok h
    unfold queueSchemaChunk at hchunk
    split at hchunk
    · contradiction
    exact .schema startIndex _ client' (MessageType.code_of_ofCode htype) hgreeted hstart ‹_›
      (clientQueueMessage_reply hchunk)
  · rename_i htype
    obtain ⟨hgreeted, startIndex, hstart, hchunk⟩ := processIndexRequest_ok h
    unfold queueSignalSnapshotChunk at hchunk
    split at hchunk
    · contradiction
    rename_i hguard
    simp only [not_or, Bool.not_eq_false, not_not, Nat.not_le] at hguard
    split at hchunk
    · contradiction
    rename_i payload hpayload
    obtain ⟨queued, hqueued, rfl⟩ := bind_ok hchunk
    exact .signalPage startIndex payload queued (MessageType.code_of_ofCode htype) hgreeted hstart
      hguard.1 hguard.2.1 hguard.2.2.1 hguard.2.2.2 hpayload (clientQueueMessage_reply hqueued)
  · contradiction

/-- A failed request is one of the failures. -/
theorem processCommand_error {client failed : Client cat} {request : Message}
    (h : processCommand config canonical env client request = .error failed) :
    CommandFailure config canonical env request client failed := by
  unfold processCommand at h
  split at h
  · exact .refused (Except.error.inj h ▸ .unchanged)
  split at h
  · exact .refused (processHello_error h)
  · rcases processIndexRequest_error h with rfl | ⟨hgreeted, startIndex, hchunk⟩
    · exact .refused .unchanged
    unfold queueFrameSnapshotChunk at hchunk
    split at hchunk
    · rename_i hfirst
      exact .snapshot hgreeted hfirst.2 (queueFramePage_error hchunk)
    · exact .refused (queueFramePage_error hchunk)
  · rename_i htype
    split at h
    · exact .refused (Except.error.inj h ▸ .unchanged)
    rename_i hguard
    simp only [not_or, Bool.not_eq_false, Bool.not_eq_true] at hguard
    obtain ⟨last, hmoves, hfailure⟩ := driveSubscriptionCatchup_error h
    exact .subscribe (MessageType.code_of_ofCode htype) hguard.1 hguard.2.2.1 hguard.2.2.2 hmoves
      hfailure
  · split at h
    · exact .refused (Except.error.inj h ▸ .unchanged)
    · exact .refused (clientQueueMessage_error h)
  · rcases processIndexRequest_error h with rfl | ⟨-, startIndex, hchunk⟩
    · exact .refused .unchanged
    unfold queueSchemaChunk at hchunk
    split at hchunk
    · exact .refused (Except.error.inj hchunk ▸ .unchanged)
    · exact .refused (clientQueueMessage_error hchunk)
  · rcases processIndexRequest_error h with rfl | ⟨-, startIndex, hchunk⟩
    · exact .refused .unchanged
    unfold queueSignalSnapshotChunk at hchunk
    split at hchunk
    · exact .refused (Except.error.inj hchunk ▸ .unchanged)
    split at hchunk
    · exact .refused (Except.error.inj hchunk ▸ .unchanged)
    · exact .refused (clientQueueMessage_error (bind_error hchunk))
  · exact .refused (Except.error.inj h ▸ .unchanged)

/-- What the attempt to send `RESYNC_REQUIRED` can do. -/
theorem maybeQueueResync_cases (client : Client cat) :
    ResyncStep config canonical client (maybeQueueResync config canonical env client) := by
  unfold maybeQueueResync
  split
  · exact .none ‹_›
  rename_i hguard
  simp only [not_or, Bool.not_eq_false, Bool.not_eq_true, not_not] at hguard
  split
  · rename_i failed hfailed
    exact .failed (clientQueueMessage_error hfailed)
  · rename_i queued hqueued
    exact .queued queued hguard.2.1 hguard.2.2.1 hguard.2.2.2.1 hguard.2.2.2.2
      (clientQueueMessage_reply hqueued)

/-- What a session can do after a completed write. -/
theorem resumeAfterWrite_cases (client : Client cat) :
    Resumes config canonical env client (resumeAfterWrite config canonical env client) := by
  unfold resumeAfterWrite
  split
  · rename_i hcatchup
    split
    · rename_i failed hfailed
      obtain ⟨last, hmoves, hfailure⟩ := driveSubscriptionCatchup_error hfailed
      exact .failed hcatchup hmoves hfailure
    · rename_i driven hdriven
      obtain ⟨driven, hmoves, hdone, rfl⟩ := driveSubscriptionCatchup_ok hdriven
      exact .driven hcatchup hmoves hdone (maybeQueueResync_cases _)
  · rename_i hcatchup
    exact .idle (by simpa using hcatchup) (maybeQueueResync_cases client)

/-- What the batches of a sample can do to a session. -/
theorem fanOut_cases (type : MessageType) (chunks : List (Option (List UInt8)))
    (client : Client cat) (hactive : client.active = true) (hresync : client.needsResync = false) :
    FansOut config canonical env type chunks client
      (fanOut config canonical env type chunks client) := by
  induction chunks generalizing client with
  | nil => exact .done client
  | cons chunk rest ih =>
    unfold fanOut
    rw [if_pos ⟨hactive, hresync⟩]
    cases chunk with
    | none => exact .failed _ client client .unchanged
    | some payload =>
      dsimp only
      cases hresult : clientQueueMessage config canonical env client type canonical.changeSequence
        canonical.sampleTimestampNs payload true with
      | error failed => exact .failed _ client failed (clientQueueMessage_error hresult)
      | ok queued =>
        dsimp only
        rcases clientQueueMessage_ok hresult with hpush | ⟨-, hoverflow⟩
        · refine .sent payload rest client queued _ hresync hpush (ih queued ?_ ?_)
          · obtain ⟨slot, -, -, rfl⟩ := hpush.takes
            exact hactive
          · obtain ⟨slot, -, -, rfl⟩ := hpush.takes
            exact hresync
        · have hstopped : fanOut config canonical env type rest queued = queued := by
            rw [hoverflow.eq]
            cases rest <;> simp [fanOut, Client.overflow]
          rw [hstopped]
          exact .overflowed _ client queued hresync hoverflow

/-- What a sample can do to a subscribed session. -/
theorem distributeToClient_cases (changedFrames : List (Fin cat.frameCount))
    (changedSignals : List (Fin cat.signalCount)) (client : Client cat)
    (hactive : client.active = true) (hsubscribed : client.subscribed = true)
    (hresync : client.needsResync = false) :
    Distributes config canonical env changedFrames changedSignals client
      (distributeToClient config canonical env changedFrames changedSignals client) := by
  have hframes : FansOut config canonical env .updateBatch (frameChunks canonical changedFrames)
      client (fanOut config canonical env .updateBatch (frameChunks canonical changedFrames)
        client) := fanOut_cases _ _ _ hactive hresync
  unfold distributeToClient
  rw [if_neg (by simp [hactive, hsubscribed, hresync])]
  dsimp only
  split
  · exact .stopped hframes ‹_›
  · rename_i hgoes
    simp only [not_or, Bool.not_eq_false, Bool.not_eq_true] at hgoes
    exact .both hframes hgoes.1 hgoes.2 (fanOut_cases _ _ _ hgoes.1 hgoes.2)

/-- A sample is one of the things that can happen to a session. -/
theorem distributeToClient_evolves (before : Canonical cat) (env : Fin maxClients → Env cat)
    (s : Fin maxClients) (sample : Sample cat) (client : Client cat) :
    Evolves config (before.consume sample) before (.sampleNotification env) s client
      (distributeToClient config (before.consume sample) (env s) (before.delta sample).1
        (before.delta sample).2 client) := by
  by_cases hskip : client.active = false ∨ client.subscribed = false ∨ client.needsResync = true
  · unfold distributeToClient
    rw [if_pos hskip]
    refine .idle (Or.inr fun _ _ => nofun) (Or.inr ?_)
    rintro ⟨hactive, hsubscribed, hresync⟩
    simp [hactive, hsubscribed, hresync] at hskip
  · simp only [not_or, Bool.not_eq_false, Bool.not_eq_true] at hskip
    exact .distributed env sample rfl rfl hskip
      (distributeToClient_cases _ _ _ hskip.1 hskip.2.1 hskip.2.2)

/-- A heartbeat is one of the things that can happen to a session. -/
theorem heartbeatToClient_evolves (before : Canonical cat) (nowNs : ℕ)
    (env : Fin maxClients → Env cat) (s : Fin maxClients) (sourceState : SourceState)
    (client : Client cat) :
    Evolves config (before.heartbeat nowNs) before (.heartbeat nowNs env) s client
      (heartbeatToClient config (before.heartbeat nowNs) (env s) sourceState nowNs client) := by
  have hsame := before.heartbeat_same nowNs
  unfold heartbeatToClient
  split
  · exact .closed
  split
  · exact .closed
  split
  · exact .idle (Or.inr fun _ _ => nofun) (Or.inl hsame)
  rename_i hguard
  simp only [not_or, Bool.not_eq_false, Bool.not_eq_true] at hguard
  obtain ⟨hactive, hgreeted, hsubscribed, hresync⟩ := hguard
  generalize hreport : encodeHeartbeat
    (heartbeatReport (before.heartbeat nowNs) sourceState client) = report
  cases hresult : clientQueueMessage config (before.heartbeat nowNs) (env s) client .heartbeat
    (before.heartbeat nowNs).changeSequence (before.heartbeat nowNs).sampleTimestampNs report
    true with
  | error failed => exact .heartbeatFailed (clientQueueMessage_error hresult)
  | ok queued =>
    rcases clientQueueMessage_ok hresult with hpush | ⟨-, hoverflow⟩
    · subst hreport
      exact .heartbeat nowNs env sourceState rfl hsame hgreeted ⟨hactive, hsubscribed, hresync⟩ hpush
    · exact .heartbeatOverflow nowNs env rfl hsame hgreeted ⟨hactive, hsubscribed, hresync⟩ hoverflow

/-- A connection leaves a new session in the slot that it takes. -/
theorem connectedClient_fresh (daemon : Daemon cat) (connection : Connection) :
    Fresh (connectedClient daemon connection) := by
  unfold connectedClient
  split
  · exact .zero
  split
  · exact .unaccepted
  split
  · exact .rejected
  split
  · exact .rejected
  split
  · exact .accepted _ _
  · exact .unreadable _ _

/-- Replacing one session, by an event that is a request of no other, evolves every session if it
evolves that one. -/
theorem setClient_evolves (daemon : Daemon cat) (event : Event cat) (session : Fin maxClients)
    (client : Client cat)
    (hevent : ∀ s env request, event = .request s env request → s = session)
    (h : Evolves config daemon.canonical daemon.canonical event session (daemon.clients session)
      client) (s : Fin maxClients) :
    Evolves config daemon.canonical daemon.canonical event s (daemon.clients s)
      ((daemon.setClient session client).clients s) := by
  by_cases hs : s = session
  · subst hs
    rw [Daemon.setClient_self]
    exact h
  · rw [Daemon.setClient_of_ne daemon client hs]
    refine .idle (Or.inr fun env request hrequest => ?_) (Or.inl (.refl _))
    exact hs (hevent s env request hrequest)

/-- The slot that a connection takes has no session. -/
theorem findAvailableClient_inactive {daemon : Daemon cat} {session : Fin maxClients}
    (h : findAvailableClient daemon = some session) :
    (daemon.clients session).active = false ∧ (daemon.clients session).closing = false := by
  have hfound := List.find?_some h
  simpa only [Bool.and_eq_true, Bool.not_eq_true'] using hfound

/-- Every event evolves every session, with the canonical state that the event leaves. -/
theorem step_evolves (config : Config cat) (daemon : Daemon cat) (event : Event cat)
    (s : Fin maxClients) :
    Evolves config (step config daemon event).canonical daemon.canonical event s (daemon.clients s)
      ((step config daemon event).clients s) := by
  cases event with
  | tick tick => exact .idle (Or.inr fun _ _ => nofun) (Or.inl (.refl _))
  | sampleNotification env => exact distributeToClient_evolves _ env s _ _
  | heartbeat nowNs env => exact heartbeatToClient_evolves _ nowNs env s _ _
  | connection connection =>
    simp only [step, onConnection]
    split
    · exact .idle (Or.inr fun _ _ => nofun) (Or.inl (.refl _))
    split
    · exact .idle (Or.inr fun _ _ => nofun) (Or.inl (.refl _))
    · rename_i session hsession
      refine setClient_evolves daemon _ session _ (by nofun) (.fresh (Or.inl ?_) ?_) s
      · exact findAvailableClient_inactive hsession
      · exact connectedClient_fresh daemon connection
  | request session env request =>
    simp only [step]
    split
    · rename_i hinactive
      by_cases hs : s = session
      · subst hs
        exact .idle (Or.inl hinactive) (Or.inl (.refl _))
      · refine .idle (Or.inr fun env' request' hrequest => ?_) (Or.inl (.refl _))
        injection hrequest with hsession
        exact hs hsession.symm
    rename_i hactive
    simp only [Bool.not_eq_false] at hactive
    refine setClient_evolves daemon _ session _ ?_ ?_ s
    · intro s' env' request' hrequest
      injection hrequest with hsession
      exact hsession.symm
    cases hresult : processCommand config daemon.canonical env (daemon.clients session) request with
    | ok client' => exact .replied request rfl rfl hactive (processCommand_ok hresult)
    | error failed => exact .aborted request rfl rfl hactive (processCommand_error hresult)
  | disconnect session => exact setClient_evolves daemon _ session _ (by nofun) .closed s
  | writeDone session env slot failed =>
    simp only [step]
    split
    · exact .idle (Or.inr fun _ _ => nofun) (Or.inl (.refl _))
    rename_i hused
    simp only [Bool.not_eq_false] at hused
    refine setClient_evolves daemon _ session _ (by nofun) ?_ s
    unfold onClientWrite
    split
    · exact .writeFailed slot hused
    · rename_i hfailed
      rw [Bool.not_eq_true] at hfailed
      subst hfailed
      exact .written slot rfl rfl hused (resumeAfterWrite_cases _)
  | closed session =>
    simp only [step]
    split
    · exact .idle (Or.inr fun _ _ => nofun) (Or.inl (.refl _))
    · exact setClient_evolves daemon _ session _ (by nofun) (.fresh (Or.inr ⟨rfl, rfl⟩) .zero) s
  | shutdown => exact .closed

end Roadcast
