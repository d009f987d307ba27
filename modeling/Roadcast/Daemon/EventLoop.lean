import Roadcast.Daemon.Commands
import Roadcast.Lib.Chunks
import Roadcast.Lib.Runs

/-!
# The event loop

The daemon reacts to one event at a time: a tick of the sampler thread, the sample notification, the
heartbeat timer, a connection, a request, a write completion and the end of a session. Notifications
are independent of ticks, so several samples may be coalesced into one of them. A request is handled
message by message; reading several of them from one buffer is a sequence of request events.

libuv reports each accepted write once, so a completion of a slot that is not in use is no event; nor
is a request of a session that is not active, or the close callback of one that was not closed.
-/

namespace Roadcast

open Chunks SlotPool

/-- `MAX_CLIENTS`. -/
def maxClients : ℕ := 16

/-- `MAX_CLIENTS_PER_UID`. -/
def maxClientsPerUid : ℕ := 8

/-- `HELLO_TIMEOUT_NS`. -/
def helloTimeoutNs : ℕ := 2000000000

variable (cat : Catalog)

/-- `roadcast_server`. -/
structure Daemon where
  canonical : Canonical cat
  sampler : Sampler cat
  clients : Fin maxClients → Client cat
  shuttingDown : Bool

/-- The outcomes of the calls that `on_connection` makes. -/
structure Connection where
  pipeInit : Bool
  accepted : Bool
  peerUid : Option UInt32
  readStart : Bool
  nowNs : ℕ

/-- The events of the loop. -/
inductive Event
  | tick (tick : Tick cat)
  | sampleNotification (env : Fin maxClients → Env cat)
  | heartbeat (nowNs : ℕ) (env : Fin maxClients → Env cat)
  | connection (connection : Connection)
  | request (session : Fin maxClients) (env : Env cat) (request : Message)
  | disconnect (session : Fin maxClients)
  | writeDone (session : Fin maxClients) (env : Env cat) (slot : Fin (clientQueueSlots cat))
      (failed : Bool)
  | closed (session : Fin maxClients)
  | shutdown

variable {cat}

/-- What `distribute_latest_sample` sends out: the indices of the changed frames and signals. -/
def Canonical.delta (canonical : Canonical cat) (sample : Sample cat) :
    List (Fin cat.frameCount) × List (Fin cat.signalCount) :=
  if sample.sequence ≤ canonical.sampleSequence then ([], [])
  else if differingFrames sample.frames canonical.frames = [] then ([], [])
  else (differingFrames sample.frames canonical.frames,
    differingSignals (latestSignals canonical sample) canonical.signals)

/-- The serialized frame batches of a distribution; `none` is an empty encoding. -/
def frameChunks (canonical : Canonical cat) (changed : List (Fin cat.frameCount)) :
    List (Option (List UInt8)) :=
  (chunks framesPerMessage changed).map fun piece =>
    encodeFrameBatch clientPayloadCap canonical.sampleSequence cat.frameCountWord uint32Max
      (piece.map canonical.frames)

/-- The serialized signal batches of a distribution. -/
def signalChunks (canonical : Canonical cat) (changed : List (Fin cat.signalCount)) :
    List (Option (List UInt8)) :=
  (chunks signalsPerMessage changed).map fun piece =>
    encodeSignalBatch clientPayloadCap canonical.sampleSequence cat.signalCountWord uint32Max
      (piece.map (signalUpdate canonical.signals))

/-- The loop that queues the batches of one kind to one session. -/
def fanOut (config : Config cat) (canonical : Canonical cat) (env : Env cat) (type : MessageType) :
    List (Option (List UInt8)) → Client cat → Client cat
  | [], client => client
  | chunk :: rest, client =>
    if client.active = true ∧ client.needsResync = false then
      match chunk with
      | none => clientClose client
      | some payload =>
        match clientQueueMessage config canonical env client type canonical.changeSequence
          canonical.sampleTimestampNs payload true with
        | .error failed => clientClose failed
        | .ok queued => fanOut config canonical env type rest queued
    else client

/-- The body of the client loop of `distribute_latest_sample`. -/
def distributeToClient (config : Config cat) (canonical : Canonical cat) (env : Env cat)
    (changedFrames : List (Fin cat.frameCount)) (changedSignals : List (Fin cat.signalCount))
    (client : Client cat) : Client cat :=
  if client.active = false ∨ client.subscribed = false ∨ client.needsResync = true then client
  else
    let sent := fanOut config canonical env .updateBatch (frameChunks canonical changedFrames) client
    if sent.active = false ∨ sent.needsResync = true then sent
    else fanOut config canonical env .signalUpdateBatch (signalChunks canonical changedSignals) sent

/-- `distribute_latest_sample`. Its test for a subscriber only saves work. -/
def distributeLatestSample (config : Config cat) (env : Fin maxClients → Env cat)
    (daemon : Daemon cat) : Daemon cat :=
  let sample := samplerReadLatest daemon.sampler
  let canonical := daemon.canonical.consume sample
  let delta := daemon.canonical.delta sample
  { daemon with
    canonical := canonical
    clients := fun s =>
      distributeToClient config canonical (env s) delta.1 delta.2 (daemon.clients s) }

/-- What a heartbeat reports to one session. -/
def heartbeatReport (canonical : Canonical cat) (sourceState : SourceState) (client : Client cat) :
    Heartbeat :=
  { sampleSequence := canonical.sampleSequence
    changeSequence := canonical.changeSequence
    droppedBatches := client.droppedBatches
    coalescedSamples := canonical.coalescedSamples
    effectiveHzMillihz := canonical.effectiveHzMillihz
    sourceState := sourceState }

/-- The body of the client loop of `on_heartbeat`. -/
def heartbeatToClient (config : Config cat) (canonical : Canonical cat) (env : Env cat)
    (sourceState : SourceState) (nowNs : ℕ) (client : Client cat) : Client cat :=
  if client.active = true ∧ client.greeted = false ∧ nowNs ≥ client.helloDeadlineNs then
    clientClose client
  else if client.active = true ∧ client.greeted = true ∧ client.subscribed = false ∧
      client.setupDeadlineNs ≠ 0 ∧ nowNs ≥ client.setupDeadlineNs then
    clientClose client
  else if client.active = false ∨ client.greeted = false ∨ client.subscribed = false ∨
      client.needsResync = true then client
  else
    closeOnError (clientQueueMessage config canonical env client .heartbeat canonical.changeSequence
      canonical.sampleTimestampNs (encodeHeartbeat (heartbeatReport canonical sourceState client))
      true)

/-- `on_heartbeat`. -/
def onHeartbeat (config : Config cat) (nowNs : ℕ) (env : Fin maxClients → Env cat)
    (daemon : Daemon cat) : Daemon cat :=
  let canonical := daemon.canonical.heartbeat nowNs
  { daemon with
    canonical := canonical
    clients := fun s =>
      heartbeatToClient config canonical (env s) daemon.sampler.sourceState nowNs
        (daemon.clients s) }

/-- `find_available_client`. -/
def findAvailableClient (daemon : Daemon cat) : Option (Fin maxClients) :=
  (List.finRange maxClients).find? fun s =>
    !(daemon.clients s).active && !(daemon.clients s).closing

/-- `active_clients_for_uid`. -/
def activeClientsForUid (daemon : Daemon cat) (uid : UInt32) : ℕ :=
  (List.finRange maxClients).countP fun s =>
    (daemon.clients s).active && decide ((daemon.clients s).peerUid = uid)

/-- A session that was just accepted. -/
def Client.accepted (uid : UInt32) (nowNs : ℕ) : Client cat :=
  { Client.zero cat with
    peerUid := uid
    helloDeadlineNs := nowNs + helloTimeoutNs
    setupDeadlineNs := nowNs + setupTimeoutNs
    active := true }

/-- The record that `on_connection` leaves in the slot it took. -/
def connectedClient (daemon : Daemon cat) (connection : Connection) : Client cat :=
  if connection.pipeInit = false then Client.zero cat
  else if connection.accepted = false then { Client.zero cat with closing := true }
  else
    match connection.peerUid with
    | none => clientClose { Client.zero cat with active := true }
    | some uid =>
      if activeClientsForUid daemon uid ≥ maxClientsPerUid then
        clientClose { Client.zero cat with active := true }
      else if connection.readStart then Client.accepted uid connection.nowNs
      else clientClose (Client.accepted uid connection.nowNs)

/-- The daemon with one session replaced. -/
def Daemon.setClient (daemon : Daemon cat) (session : Fin maxClients) (client : Client cat) :
    Daemon cat :=
  { daemon with clients := Function.update daemon.clients session client }

/-- A session that was replaced is the new one. -/
@[simp] theorem Daemon.setClient_self (daemon : Daemon cat) (session : Fin maxClients)
    (client : Client cat) : (daemon.setClient session client).clients session = client := by
  simp [Daemon.setClient]

/-- The other sessions stay as they are. -/
@[simp] theorem Daemon.setClient_of_ne (daemon : Daemon cat) {session s : Fin maxClients}
    (client : Client cat) (h : s ≠ session) :
    (daemon.setClient session client).clients s = daemon.clients s := by
  simp [Daemon.setClient, h]

/-- A session that is replaced by itself leaves the daemon as it is. -/
@[simp] theorem Daemon.setClient_clients (daemon : Daemon cat) (session : Fin maxClients) :
    daemon.setClient session (daemon.clients session) = daemon := by
  simp [Daemon.setClient]

/-- A session that is replaced twice is the second one. -/
@[simp] theorem Daemon.setClient_setClient (daemon : Daemon cat) (session : Fin maxClients)
    (client client' : Client cat) :
    (daemon.setClient session client).setClient session client' =
      daemon.setClient session client' := by
  simp [Daemon.setClient]

/-- `on_connection`. -/
def onConnection (connection : Connection) (daemon : Daemon cat) : Daemon cat :=
  if daemon.shuttingDown = true then daemon
  else
    match findAvailableClient daemon with
    | none => daemon
    | some session => daemon.setClient session (connectedClient daemon connection)

/-- One event of the loop. -/
def step (config : Config cat) (daemon : Daemon cat) : Event cat → Daemon cat
  | .tick tick => { daemon with sampler := samplerTick daemon.sampler tick }
  | .sampleNotification env => distributeLatestSample config env daemon
  | .heartbeat nowNs env => onHeartbeat config nowNs env daemon
  | .connection connection => onConnection connection daemon
  | .request session env request =>
    let client := daemon.clients session
    if client.active = false then daemon
    else
      daemon.setClient session
        (closeOnError (processCommand config daemon.canonical env client request))
  | .disconnect session => daemon.setClient session (clientClose (daemon.clients session))
  | .writeDone session env slot failed =>
    let client := daemon.clients session
    if (client.output slot).inUse = false then daemon
    else daemon.setClient session (onClientWrite config daemon.canonical env client slot failed)
  | .closed session =>
    if (daemon.clients session).closing = false then daemon
    else daemon.setClient session (Client.zero cat)
  | .shutdown =>
    { daemon with shuttingDown := true, clients := fun s => clientClose (daemon.clients s) }

/-- The daemon when `main` enters the loop. -/
def daemonInit (config : Config cat) (fake : Option Bool) (tick : Tick cat) : Daemon cat :=
  let sampler := samplerInit fake tick
  { canonical := canonicalInit config.hz (samplerReadLatest sampler)
    sampler := sampler
    clients := fun _ => Client.zero cat
    shuttingDown := false }

/-- The daemon after a sequence of events. -/
def run (config : Config cat) (fake : Option Bool) (tick : Tick cat) (events : List (Event cat)) :
    Daemon cat :=
  events.foldl (step config) (daemonInit config fake tick)

section SingleRuns

/-- The first session slot. -/
def firstSession : Fin maxClients := ⟨0, by decide⟩

/-- A configuration at 60 Hz with a number of output slots. -/
def sixtyHz (slots : ℕ) (hslots : 1 ≤ slots ∧ slots ≤ clientQueueSlots cat) : Config cat :=
  ⟨60, slots, by decide, hslots.1, hslots.2⟩

/-- One output slot, on the catalog with one frame and one signal. -/
def singleConfig : Config singleCatalog := sixtyHz 1 (by decide)

/-- A request of the first session, answered by an idle libuv. -/
def singleRequest (type : MessageType) (payload : List UInt8) : Event singleCatalog :=
  .request firstSession Env.idle (outgoing type 0 0 payload)

/-- The write in the only slot completes. -/
def singleWriteDone : Event singleCatalog := .writeDone firstSession Env.idle ⟨0, by decide⟩ false

/-- A sample is taken and consumed. -/
def singleSample (byte : UInt8) (timestampNs : UInt64) : List (Event singleCatalog) :=
  [.tick (singleTick byte timestampNs), .sampleNotification fun _ => Env.idle]

/-- A session connects and goes through the handshake, the schema and a whole snapshot. -/
def singleSetup : List (Event singleCatalog) :=
  [.connection ⟨true, true, some 0, true, 0⟩,
    singleRequest .hello encodeHello, singleWriteDone,
    singleRequest .getSchema (encodeIndexRequest 0), singleWriteDone,
    singleRequest .getSnapshot (encodeIndexRequest 0), singleWriteDone,
    singleRequest .getSignalSnapshot (encodeIndexRequest 0), singleWriteDone]

/-- The state of the first session after a run. -/
def singleSession (events : List (Event singleCatalog)) : Client singleCatalog :=
  (run singleConfig none (singleTick 0 10) events).clients firstSession

end SingleRuns

end Roadcast
