import Roadcast.Catalog.SchemaChunk
import Roadcast.Daemon.Catchup
import Roadcast.Protocol.Control

/-!
# Requests and write completions

`process_command`, `maybe_queue_resync` and `on_client_write`. The payload of a request is the slice
of `payload_bytes` bytes that follows its header.
-/

namespace Roadcast

open SlotPool

variable {cat : Catalog}

/-- What the daemon announces in `WELCOME`. -/
def serverWelcome (config : Config cat) : Welcome :=
  { hz := config.hz
    frameCount := cat.frameCountWord
    signalCount := cat.signalCountWord
    maxRequestPayload := UInt32.ofNat (clientInputCap - headerSize)
    maxResponsePayload := UInt32.ofNat clientPayloadCap
    capabilities := capabilities
    schemaVersion := schemaVersion
    schemaHash := cat.schemaHash }

/-- The session once `WELCOME` is queued. -/
def Client.greet (client : Client cat) (nowNs : ℕ) : Client cat :=
  { client with
    greeted := true
    helloDeadlineNs := 0
    setupDeadlineNs := nowNs + setupTimeoutNs }

/-- `queue_schema_chunk`. -/
def queueSchemaChunk (config : Config cat) (canonical : Canonical cat) (env : Env cat)
    (client : Client cat) (startIndex : UInt32) : Except (Client cat) (Client cat) :=
  match encodeSchemaChunk cat clientPayloadCap startIndex with
  | none => .error client
  | some payload =>
    clientQueueMessage config canonical env client .schemaChunk canonical.changeSequence
      canonical.sampleTimestampNs payload false

/-- The `HELLO` case of `process_command`. -/
def processHello (config : Config cat) (canonical : Canonical cat) (env : Env cat)
    (client : Client cat) (payload : List UInt8) : Except (Client cat) (Client cat) :=
  match decodeHello payload with
  | none => .error client
  | some (minVersion, maxVersion, _) =>
    if client.greeted = true ∨ minVersion > protocolVersion ∨ maxVersion < protocolVersion then
      .error client
    else do
      let queued ← clientQueueMessage config canonical env client .welcome canonical.changeSequence
        canonical.sampleTimestampNs (encodeWelcome (serverWelcome config)) false
      .ok (queued.greet env.monotonicNs)

/-- The three paged requests of `process_command`. -/
def processIndexRequest (client : Client cat) (payload : List UInt8)
    (queueChunk : UInt32 → Except (Client cat) (Client cat)) : Except (Client cat) (Client cat) :=
  if client.greeted = false then .error client
  else
    match decodeIndexRequest payload with
    | none => .error client
    | some startIndex => queueChunk startIndex

/-- `process_command`. -/
def processCommand (config : Config cat) (canonical : Canonical cat) (env : Env cat)
    (client : Client cat) (request : Message) : Except (Client cat) (Client cat) :=
  if request.header.version ≠ protocolVersion ∨ request.header.flags ≠ 0 then .error client
  else
    match MessageType.ofCode request.header.type with
    | some .hello => processHello config canonical env client request.payload
    | some .getSnapshot =>
      processIndexRequest client request.payload
        (queueFrameSnapshotChunk config canonical env client)
    | some .subscribeAll =>
      if client.greeted = false ∨ request.payload ≠ [] ∨ client.needsResync = true ∨
          client.snapshotComplete = false then .error client
      else queueSubscriptionCatchup config canonical env client
    | some .ping =>
      if client.greeted = false ∨ request.payload ≠ [] then .error client
      else
        clientQueueMessage config canonical env client .pong canonical.changeSequence
          canonical.sampleTimestampNs [] false
    | some .getSchema =>
      processIndexRequest client request.payload (queueSchemaChunk config canonical env client)
    | some .getSignalSnapshot =>
      processIndexRequest client request.payload
        (queueSignalSnapshotChunk config canonical env client)
    | _ => .error client

/-- `maybe_queue_resync`. -/
def maybeQueueResync (config : Config cat) (canonical : Canonical cat) (env : Env cat)
    (client : Client cat) : Client cat :=
  if client.active = false ∨ client.greeted = false ∨ client.needsResync = false ∨
      client.resyncQueued = true ∨ client.pendingBytes ≠ 0 then client
  else
    match clientQueueMessage config canonical env client .resyncRequired canonical.changeSequence
      canonical.sampleTimestampNs [] false with
    | .error failed => clientClose failed
    | .ok queued => { queued with resyncQueued := true }

/-- The slot bookkeeping of `on_client_write`. -/
def Client.release (client : Client cat) (slot : Fin (clientQueueSlots cat)) : Client cat :=
  { client with
    pendingBytes :=
      if client.pendingBytes ≥ (client.output slot).length then
        client.pendingBytes - (client.output slot).length
      else 0
    output := Function.update client.output slot Slot.free }

/-- `on_client_write` after the slot is released, for a write that succeeded. -/
def resumeAfterWrite (config : Config cat) (canonical : Canonical cat) (env : Env cat)
    (client : Client cat) : Client cat :=
  if client.catchupActive = true then
    match driveSubscriptionCatchup config canonical env client with
    | .error failed => clientClose failed
    | .ok driven => maybeQueueResync config canonical env driven
  else maybeQueueResync config canonical env client

/-- `on_client_write`. -/
def onClientWrite (config : Config cat) (canonical : Canonical cat) (env : Env cat)
    (client : Client cat) (slot : Fin (clientQueueSlots cat)) (failed : Bool) : Client cat :=
  if failed then clientClose (client.release slot)
  else resumeAfterWrite config canonical env (client.release slot)

end Roadcast
