import Roadcast.Daemon.Canonical
import Roadcast.Lib.SlotPool
import Roadcast.Protocol.Header

/-!
# Client sessions and their output queue

`roadcast_client` and `client_queue_message` of `roadcastd.c`. Every pending message occupies one of
`client_queue_slots` slots until libuv reports its write; what libuv answers is an input of each
event.

`log` is not a field of the C structure. It records the history a session had: the messages accepted
by `uv_write` with the canonical state of that moment, the messages dropped on overflow, the frozen
snapshots, and each catch-up round with the entries of the lists it replaced that had not been sent.
No function reads it back.

A function that returns `-1` in C leaves the session as it is at that point; here this is
`Except.error` of that session. Deadlines are natural numbers of nanoseconds since boot.
-/

namespace Roadcast

open SlotPool

/-- `CLIENT_MESSAGE_CAP`. -/
def clientMessageCap : ℕ := 2048

/-- `CLIENT_INPUT_CAP`. -/
def clientInputCap : ℕ := 4096

/-- The payload buffer of one message, `CLIENT_MESSAGE_CAP - ROADCAST_HEADER_SIZE`. -/
def clientPayloadCap : ℕ := clientMessageCap - headerSize

/-- `SETUP_TIMEOUT_NS`. -/
def setupTimeoutNs : ℕ := 10000000000

/-- `FRAMES_PER_MESSAGE`. -/
def framesPerMessage : ℕ := (clientMessageCap - headerSize - batchPrefixSize) / frameWireSize

/-- `SIGNALS_PER_MESSAGE`. -/
def signalsPerMessage : ℕ := (clientMessageCap - headerSize - batchPrefixSize) / signalWireSize

variable (cat : Catalog)

/-- `FRAME_BATCH_CHUNKS`. -/
def frameBatchChunks : ℕ := (cat.frameCount + framesPerMessage - 1) / framesPerMessage

/-- `SIGNAL_BATCH_CHUNKS`. -/
def signalBatchChunks : ℕ := (cat.signalCount + signalsPerMessage - 1) / signalsPerMessage

/-- `CLIENT_QUEUE_SLOTS`. -/
def clientQueueSlots : ℕ := frameBatchChunks cat + signalBatchChunks cat + 1

/-- The command line options that the event loop reads, as `main` accepts them. -/
structure Config where
  hz : UInt32
  slots : ℕ
  hz_range : 1 ≤ hz.toNat ∧ hz.toNat ≤ 240
  slots_pos : 1 ≤ slots
  slots_le : slots ≤ clientQueueSlots cat

/-- One entry of a session's history. -/
inductive LogEntry
  | queued (message : Message) (canonical : Canonical cat)
  | dropped (type : MessageType)
  | snapshotBegun (canonical : Canonical cat)
  | roundBegun (unsentFrames : List (Fin cat.frameCount))
      (unsentSignals : List (Fin cat.signalCount))

/-- `roadcast_client`. The catch-up lists carry their counts as their lengths. -/
structure Client where
  active : Bool
  closing : Bool
  greeted : Bool
  subscribed : Bool
  needsResync : Bool
  resyncQueued : Bool
  output : Fin (clientQueueSlots cat) → Slot
  pendingBytes : ℕ
  droppedBatches : UInt64
  helloDeadlineNs : ℕ
  setupDeadlineNs : ℕ
  peerUid : UInt32
  snapshotFrames : Fin cat.frameCount → Frame
  snapshotSignals : Fin cat.signalCount → SignalValue
  snapshotSampleSequence : UInt64
  snapshotChangeSequence : UInt64
  snapshotTimestampNs : UInt64
  snapshotNextFrameIndex : ℕ
  snapshotNextIndex : ℕ
  catchupFrameIndices : List (Fin cat.frameCount)
  catchupSignalIndices : List (Fin cat.signalCount)
  catchupFrameOffset : ℕ
  catchupSignalOffset : ℕ
  catchupSampleSequence : UInt64
  catchupChangeSequence : UInt64
  catchupTimestampNs : UInt64
  snapshotActive : Bool
  snapshotFramesComplete : Bool
  snapshotComplete : Bool
  catchupActive : Bool
  catchupWaitingForCapacity : Bool
  catchupResumptionReported : Bool
  log : List (LogEntry cat)

/-- A client record after `memset`. -/
def Client.zero : Client cat :=
  { active := false, closing := false, greeted := false, subscribed := false, needsResync := false
    resyncQueued := false, output := fun _ => Slot.free, pendingBytes := 0, droppedBatches := 0
    helloDeadlineNs := 0, setupDeadlineNs := 0, peerUid := 0
    snapshotFrames := fun _ => zeroFrame, snapshotSignals := fun _ => zeroSignal
    snapshotSampleSequence := 0, snapshotChangeSequence := 0, snapshotTimestampNs := 0
    snapshotNextFrameIndex := 0, snapshotNextIndex := 0
    catchupFrameIndices := [], catchupSignalIndices := [], catchupFrameOffset := 0
    catchupSignalOffset := 0, catchupSampleSequence := 0, catchupChangeSequence := 0
    catchupTimestampNs := 0, snapshotActive := false, snapshotFramesComplete := false
    snapshotComplete := false, catchupActive := false, catchupWaitingForCapacity := false
    catchupResumptionReported := false, log := [] }

/-- What the outside answers while one event handles one session: libuv's write queue size and the
outcome of `uv_write`, at each state of the session, and the clock. -/
structure Env where
  writeQueueSize : Client cat → ℕ
  uvWrite : Client cat → Bool
  monotonicNs : ℕ

variable {cat}

/-- An idle libuv: nothing is queued and every write is accepted. -/
def Env.idle : Env cat := ⟨fun _ => 0, fun _ => true, 0⟩

/-- A message as `client_queue_message` frames it. -/
def outgoing (type : MessageType) (sequence timestampNs : UInt64) (payload : List UInt8) : Message :=
  { header :=
      { version := protocolVersion
        type := type.code
        flags := 0
        payloadBytes := UInt32.ofNat payload.length
        sequence := sequence
        timestampNs := timestampNs }
    payload := payload }

/-- `find_output_slot`. -/
def findOutputSlot (config : Config cat) (client : Client cat) :
    Option (Fin (clientQueueSlots cat)) :=
  (List.finRange (clientQueueSlots cat)).find? fun i =>
    decide (i.val < config.slots) && !(client.output i).inUse

/-- `queue_byte_limit`. -/
def Config.queueByteLimit (config : Config cat) : ℕ := config.slots * clientMessageCap

/-- A message of `messageLength` bytes is refused by the queue. -/
def queueFull (config : Config cat) (env : Env cat) (client : Client cat) (messageLength : ℕ) :
    Prop :=
  findOutputSlot config client = none ∨
    client.pendingBytes + messageLength > config.queueByteLimit ∨
    env.writeQueueSize client + messageLength > config.queueByteLimit

instance (config : Config cat) (env : Env cat) (client : Client cat) (messageLength : ℕ) :
    Decidable (queueFull config env client messageLength) :=
  inferInstanceAs (Decidable (_ ∨ _ ∨ _))

/-- The overflow branch of `client_queue_message`. -/
def Client.overflow (client : Client cat) (type : MessageType) (nowNs : ℕ) : Client cat :=
  { client with
    droppedBatches := client.droppedBatches + 1
    needsResync := true
    subscribed := false
    setupDeadlineNs := nowNs + setupTimeoutNs
    log := client.log ++ [.dropped type] }

/-- The session with a message in a slot, as it is handed to `uv_write`. -/
def Client.fill (client : Client cat) (slot : Fin (clientQueueSlots cat)) (messageLength : ℕ) :
    Client cat :=
  { client with
    output := Function.update client.output slot (Slot.holding messageLength)
    pendingBytes := client.pendingBytes + messageLength }

/-- The session after `uv_write` refused the message of a slot. -/
def Client.unfill (client : Client cat) (slot : Fin (clientQueueSlots cat)) (messageLength : ℕ) :
    Client cat :=
  { client with
    output := Function.update client.output slot Slot.free
    pendingBytes := client.pendingBytes - messageLength }

/-- The accepted message enters the history. -/
def Client.record (client : Client cat) (entry : LogEntry cat) : Client cat :=
  { client with log := client.log ++ [entry] }

/-- `client_queue_message`. -/
def clientQueueMessage (config : Config cat) (canonical : Canonical cat) (env : Env cat)
    (client : Client cat) (type : MessageType) (sequence timestampNs : UInt64)
    (payload : List UInt8) (droppable : Bool) : Except (Client cat) (Client cat) :=
  let messageLength := headerSize + payload.length
  if client.active = false ∨ payload.length > maxPayload ∨ messageLength > clientMessageCap then
    .error client
  else if queueFull config env client messageLength then
    if droppable then .ok (client.overflow type env.monotonicNs) else .error client
  else
    match findOutputSlot config client with
    | none => .error client
    | some slot =>
      let filled := client.fill slot messageLength
      if env.uvWrite filled then
        .ok (filled.record (.queued (outgoing type sequence timestampNs payload) canonical))
      else .error (filled.unfill slot messageLength)

/-- `client_close`. -/
def clientClose (client : Client cat) : Client cat :=
  if client.active = false ∨ client.closing = true then client
  else { client with active := false, closing := true }

/-- Closing adds nothing to the history. -/
@[simp] theorem clientClose_log (client : Client cat) : (clientClose client).log = client.log := by
  unfold clientClose
  split
  · rfl
  · rfl

/-- Closing leaves a catch-up as it is. -/
@[simp] theorem clientClose_catchupActive (client : Client cat) :
    (clientClose client).catchupActive = client.catchupActive := by
  unfold clientClose
  split
  · rfl
  · rfl

/-- How every caller of a fallible function goes on: a failed session is closed. -/
def closeOnError (result : Except (Client cat) (Client cat)) : Client cat :=
  match result with
  | .ok client => client
  | .error client => clientClose client

end Roadcast
