import Roadcast.Sdk.Arrays

/-!
# The SDK session

`roadcast_client_connect` followed by `reader_thread_main`, as a machine that consumes the messages
of the daemon one at a time. Each phase is a function of `client.c` that waits for a message, with
the loop index it has reached; receiving a message runs the code up to the next `read_message`. A
check that fails ends the session.

Allocation failures, timeouts and a closed socket are not modelled: they end a session whatever the
daemon sends. The timestamp in the header of a request is the clock, which nothing reads; here it is
zero.
-/

namespace Roadcast

/-- `CLIENT_MAX_FRAMES`. -/
def clientMaxFrames : ℕ := 65535

/-- `CLIENT_MAX_SIGNALS`. -/
def clientMaxSignals : ℕ := 100000

/-- `ROADCAST_CAP_RAW_CAN`. -/
def capRawCan : UInt32 := 1

/-- `ROADCAST_CAP_DECODED_CAN`. -/
def capDecodedCan : UInt32 := 2

/-- `synchronization_t`. The session keeps the same fields for its readers. -/
structure Synchronization extends Replica where
  sampleSequence : UInt64
  changeSequence : UInt64
  sampleTimestampNs : UInt64

/-- `initialize_synchronization`. -/
def Synchronization.zero : Synchronization := ⟨Replica.zero, 0, 0, 0⟩

/-- Where the SDK waits for a message. -/
inductive Phase
  | handshake
  | schema (next : ℕ)
  | frames (next : ℕ)
  | signals (next : ℕ)
  | subscription
  | live
  | failed
  deriving DecidableEq, Repr

/-- `roadcast_client` of the SDK, with the synchronization under way and the requests it has sent. -/
structure Sdk where
  phase : Phase
  welcome : Welcome
  payloadCapacity : ℕ
  schema : List SchemaEntry
  canIdToIndex : ℕ → UInt16
  synchronization : Synchronization
  cache : Synchronization
  droppedBatches : UInt64
  coalescedSamples : UInt64
  resynchronizations : UInt64
  effectiveHzMillihz : UInt32
  sourceState : SourceState
  connected : Bool
  readerStarted : Bool
  sent : List Message

namespace Sdk

/-- A check failed. -/
def fail (sdk : Sdk) : Sdk := { sdk with phase := .failed, connected := false }

/-- `send_message`, and the phase that waits for the answer. The daemon handles a request in the same
way whatever time its header has. -/
def request (sdk : Sdk) (phase : Phase) (type : MessageType) (payload : List UInt8) : Sdk :=
  if payload.length > sdk.welcome.maxRequestPayload.toNat then sdk.fail
  else { sdk with phase := phase, sent := sdk.sent ++ [outgoing type 0 0 payload] }

/-- A request that fits is sent. -/
theorem request_eq {sdk : Sdk} {phase : Phase} {type : MessageType} {payload : List UInt8}
    (hsize : payload.length ≤ sdk.welcome.maxRequestPayload.toNat) :
    sdk.request phase type payload =
      { sdk with phase := phase, sent := sdk.sent ++ [outgoing type 0 0 payload] } :=
  if_neg (Nat.not_lt.mpr hsize)

/-- A session that has sent `HELLO`. -/
def connect : Sdk :=
  request
    { phase := .handshake, welcome := ⟨0, 0, 0, 8, 0, 0, 0, 0⟩, payloadCapacity := welcomeSize
      schema := [], canIdToIndex := emptyCanIdTable, synchronization := .zero, cache := .zero
      droppedBatches := 0, coalescedSamples := 0, resynchronizations := 0, effectiveHzMillihz := 0
      sourceState := .unavailable, connected := false, readerStarted := false, sent := [] }
    .handshake .hello encodeHello

/-- `can_id_to_index` with the CAN IDs of an array entered. -/
def indexCanIds (sdk : Sdk) (frames : ℕ → Frame) (table : ℕ → UInt16) : ℕ → UInt16 :=
  fillCanIdTable 0 ((List.range sdk.welcome.frameCount.toNat).map fun i => (frames i).canId) table

/-- The loop of `request_signal_snapshot`, and `complete_subscription` after it. -/
def requestSignals (sdk : Sdk) (next : ℕ) : Sdk :=
  if next < sdk.welcome.signalCount.toNat then
    sdk.request (.signals next) .getSignalSnapshot (encodeIndexRequest (UInt32.ofNat next))
  else sdk.request .subscription .subscribeAll []

/-- The loop of `request_frame_snapshot`, and `request_signal_snapshot` after it. -/
def requestFrames (sdk : Sdk) (next : ℕ) : Sdk :=
  if next < sdk.welcome.frameCount.toNat then
    sdk.request (.frames next) .getSnapshot (encodeIndexRequest (UInt32.ofNat next))
  else
    requestSignals
      { sdk with canIdToIndex := sdk.indexCanIds sdk.synchronization.frames sdk.canIdToIndex } 0

/-- `synchronize`. -/
def synchronize (sdk : Sdk) : Sdk := requestFrames { sdk with synchronization := .zero } 0

/-- The loop of `request_schema`, and `synchronize` after it. -/
def requestSchema (sdk : Sdk) (next : ℕ) : Sdk :=
  if next < sdk.welcome.signalCount.toNat then
    sdk.request (.schema next) .getSchema (encodeIndexRequest (UInt32.ofNat next))
  else sdk.synchronize

end Sdk

/-- The checks of `perform_handshake` on what the daemon announces. -/
def Welcome.Supported (welcome : Welcome) : Prop :=
  welcome.capabilities &&& capRawCan ≠ 0 ∧ welcome.capabilities &&& capDecodedCan ≠ 0 ∧
    welcome.frameCount ≠ 0 ∧ welcome.frameCount.toNat ≤ clientMaxFrames ∧
    welcome.signalCount ≠ 0 ∧ welcome.signalCount.toNat ≤ clientMaxSignals ∧
    8 ≤ welcome.maxRequestPayload.toNat ∧ welcomeSize ≤ welcome.maxResponsePayload.toNat ∧
    welcome.maxResponsePayload.toNat ≤ maxPayload

instance (welcome : Welcome) : Decidable welcome.Supported :=
  inferInstanceAs (Decidable (_ ∧ _ ∧ _ ∧ _ ∧ _ ∧ _ ∧ _ ∧ _ ∧ _))

namespace Sdk

/-- `perform_handshake` once `WELCOME` is there. -/
def readWelcome (sdk : Sdk) (message : Message) : Option Sdk :=
  if message.header.type ≠ MessageType.welcome.code then none
  else
    match decodeWelcome message.payload with
    | none => none
    | some welcome =>
      if welcome.Supported then
        some (requestSchema { sdk with
          welcome := welcome
          payloadCapacity := welcome.maxResponsePayload.toNat } 0)
      else none

/-- The loop body of `request_schema` once the chunk is there. -/
def readSchema (sdk : Sdk) (next : ℕ) (message : Message) : Option Sdk :=
  if message.header.type ≠ MessageType.schemaChunk.code then none
  else
    match decodeSchemaChunk message.payload (sdk.welcome.signalCount.toNat - next) with
    | none => none
    | some chunk =>
      if chunk.schemaVersion ≠ sdk.welcome.schemaVersion ∨
          chunk.schemaHash ≠ sdk.welcome.schemaHash ∨
          chunk.totalCount ≠ sdk.welcome.signalCount ∨ chunk.startIndex.toNat ≠ next ∨
          chunk.entries = [] then none
      else
        some (requestSchema { sdk with schema := sdk.schema ++ chunk.entries }
          (next + chunk.entries.length))

/-- A frame page, written into the synchronization. The first page sets its sequences. -/
def placePage (synchronization : Synchronization) (next : ℕ) (header : Header)
    (page : Batch Frame) : Synchronization :=
  let frames := placeFrames next page.records synchronization.frames
  if next = 0 then
    { synchronization with
      frames := frames
      sampleSequence := page.sampleSequence
      changeSequence := header.sequence
      sampleTimestampNs := header.timestampNs }
  else { synchronization with frames := frames }

/-- The loop body of `request_frame_snapshot` once the page is there. -/
def readFramePage (sdk : Sdk) (next : ℕ) (message : Message) : Option Sdk :=
  if message.header.type ≠ MessageType.snapshot.code then none
  else
    match decodeFrameBatch message.payload (sdk.welcome.frameCount.toNat - next) with
    | none => none
    | some page =>
      if page.totalCount ≠ sdk.welcome.frameCount ∨ page.startIndex.toNat ≠ next ∨
          page.records = [] then none
      else if next ≠ 0 ∧ (page.sampleSequence ≠ sdk.synchronization.sampleSequence ∨
          message.header.sequence ≠ sdk.synchronization.changeSequence ∨
          message.header.timestampNs ≠ sdk.synchronization.sampleTimestampNs) then none
      else
        some (requestFrames { sdk with
          synchronization := placePage sdk.synchronization next message.header page }
          (next + page.records.length))

/-- `signal_scratch_capacity`. -/
def signalScratchCapacity (sdk : Sdk) : ℕ :=
  (sdk.welcome.maxResponsePayload.toNat - batchPrefixSize) / signalWireSize

/-- `frame_scratch_capacity`. -/
def frameScratchCapacity (sdk : Sdk) : ℕ :=
  (sdk.welcome.maxResponsePayload.toNat - batchPrefixSize) / frameWireSize

/-- The loop body of `request_signal_snapshot` once the page is there. -/
def readSignalPage (sdk : Sdk) (next : ℕ) (message : Message) : Option Sdk :=
  if message.header.type ≠ MessageType.signalSnapshotChunk.code ∨
      message.header.sequence ≠ sdk.synchronization.changeSequence ∨
      message.header.timestampNs ≠ sdk.synchronization.sampleTimestampNs then none
  else
    match decodeSignalBatch message.payload sdk.signalScratchCapacity with
    | none => none
    | some page =>
      if page.sampleSequence ≠ sdk.synchronization.sampleSequence ∨
          page.totalCount ≠ sdk.welcome.signalCount ∨ page.startIndex.toNat ≠ next ∨
          page.records = [] then none
      else
        match placeSignals sdk.welcome.signalCount.toNat next page.records
          sdk.synchronization.signals with
        | none => none
        | some signals =>
          some (requestSignals { sdk with
            synchronization := { sdk.synchronization with signals := signals } }
            (next + page.records.length))

/-- `apply_frame_batch` and `apply_live_frame_batch`. -/
def applyFrameBatch (sdk : Sdk) (target : Synchronization) (message : Message) :
    Option Synchronization :=
  match decodeFrameBatch message.payload sdk.frameScratchCapacity with
  | none => none
  | some batch =>
    if batch.totalCount ≠ sdk.welcome.frameCount ∨ batch.startIndex ≠ uint32Max then none
    else
      (applyFrames sdk.canIdToIndex sdk.welcome.frameCount.toNat batch.records target.frames).map
        fun frames =>
          { target with
            frames := frames
            sampleSequence := batch.sampleSequence
            changeSequence := message.header.sequence
            sampleTimestampNs := message.header.timestampNs }

/-- `apply_signal_batch` and `apply_live_signal_batch`. -/
def applySignalBatch (sdk : Sdk) (target : Synchronization) (message : Message) :
    Option Synchronization :=
  match decodeSignalBatch message.payload sdk.signalScratchCapacity with
  | none => none
  | some batch =>
    if batch.totalCount ≠ sdk.welcome.signalCount ∨ batch.startIndex ≠ uint32Max then none
    else
      (applySignals sdk.welcome.signalCount.toNat batch.records target.signals).map fun signals =>
        { target with
          signals := signals
          sampleSequence := batch.sampleSequence
          changeSequence := message.header.sequence
          sampleTimestampNs := message.header.timestampNs }

/-- `commit_synchronization`, then the reader thread, which counts all but the first. -/
def commit (sdk : Sdk) (synchronization : Synchronization) : Sdk :=
  { sdk with
    phase := .live
    synchronization := synchronization
    cache := synchronization
    canIdToIndex := sdk.indexCanIds synchronization.frames emptyCanIdTable
    connected := true
    resynchronizations :=
      if sdk.readerStarted then sdk.resynchronizations + 1 else sdk.resynchronizations
    readerStarted := true }

/-- The loop body of `complete_subscription`. -/
def readSubscription (sdk : Sdk) (message : Message) : Option Sdk :=
  match MessageType.ofCode message.header.type with
  | some .subscribed =>
    some (sdk.commit { sdk.synchronization with
      changeSequence := message.header.sequence
      sampleTimestampNs := message.header.timestampNs })
  | some .updateBatch =>
    (sdk.applyFrameBatch sdk.synchronization message).map fun synchronization =>
      { sdk with synchronization := synchronization }
  | some .signalUpdateBatch =>
    (sdk.applySignalBatch sdk.synchronization message).map fun synchronization =>
      { sdk with synchronization := synchronization }
  | _ => none

/-- `apply_heartbeat`. -/
def applyHeartbeat (sdk : Sdk) (message : Message) : Option Sdk :=
  match decodeHeartbeat message.payload with
  | none => none
  | some heartbeat =>
    if heartbeat.changeSequence ≠ message.header.sequence then none
    else
      some { sdk with
        cache := { sdk.cache with
          sampleSequence := heartbeat.sampleSequence
          changeSequence := heartbeat.changeSequence
          sampleTimestampNs := message.header.timestampNs }
        droppedBatches := heartbeat.droppedBatches
        coalescedSamples := heartbeat.coalescedSamples
        effectiveHzMillihz := heartbeat.effectiveHzMillihz
        sourceState := heartbeat.sourceState }

/-- The loop body of `reader_thread_main`. -/
def readLive (sdk : Sdk) (message : Message) : Option Sdk :=
  match MessageType.ofCode message.header.type with
  | some .updateBatch =>
    (sdk.applyFrameBatch sdk.cache message).map fun cache => { sdk with cache := cache }
  | some .signalUpdateBatch =>
    (sdk.applySignalBatch sdk.cache message).map fun cache => { sdk with cache := cache }
  | some .heartbeat => sdk.applyHeartbeat message
  | some .resyncRequired =>
    if message.header.payloadBytes = 0 then some sdk.synchronize else none
  | _ => none

/-- `apply_live_frame_batch`: whether it succeeds, and the cache it leaves. -/
def applyLiveFrameBatch (sdk : Sdk) (message : Message) : Bool × Synchronization :=
  match decodeFrameBatch message.payload sdk.frameScratchCapacity with
  | none => (false, sdk.cache)
  | some batch =>
    if batch.totalCount ≠ sdk.welcome.frameCount ∨ batch.startIndex ≠ uint32Max then
      (false, sdk.cache)
    else
      let (applied, frames) := applyDecodedFrames sdk.canIdToIndex sdk.welcome.frameCount.toNat
        batch.records sdk.cache.frames
      -- the loop writes to the array of the readers; the sequences are copies until it succeeds
      if applied then
        (true, { sdk.cache with
          frames := frames
          sampleSequence := batch.sampleSequence
          changeSequence := message.header.sequence
          sampleTimestampNs := message.header.timestampNs })
      else (false, { sdk.cache with frames := frames })

/-- `apply_live_signal_batch`: whether it succeeds, and the cache it leaves. -/
def applyLiveSignalBatch (sdk : Sdk) (message : Message) : Bool × Synchronization :=
  match decodeSignalBatch message.payload sdk.signalScratchCapacity with
  | none => (false, sdk.cache)
  | some batch =>
    if batch.totalCount ≠ sdk.welcome.signalCount ∨ batch.startIndex ≠ uint32Max then
      (false, sdk.cache)
    else
      let (applied, signals) := applyDecodedSignals sdk.welcome.signalCount.toNat batch.records
        sdk.cache.signals
      if applied then
        (true, { sdk.cache with
          signals := signals
          sampleSequence := batch.sampleSequence
          changeSequence := message.header.sequence
          sampleTimestampNs := message.header.timestampNs })
      else (false, { sdk.cache with signals := signals })

/-- The session after a message that it refuses. A live batch may have been written in part. -/
def refuse (sdk : Sdk) (message : Message) : Sdk :=
  match sdk.phase, MessageType.ofCode message.header.type with
  | .live, some .updateBatch => { sdk with cache := (sdk.applyLiveFrameBatch message).2 }.fail
  | .live, some .signalUpdateBatch => { sdk with cache := (sdk.applyLiveSignalBatch message).2 }.fail
  | _, _ => sdk.fail

/-- What the SDK does with a message that `read_message` accepts. -/
def handle (sdk : Sdk) (message : Message) : Option Sdk :=
  match sdk.phase with
  | .handshake => sdk.readWelcome message
  | .schema next => sdk.readSchema next message
  | .frames next => sdk.readFramePage next message
  | .signals next => sdk.readSignalPage next message
  | .subscription => sdk.readSubscription message
  | .live => sdk.readLive message
  | .failed => none

/-- The SDK after one more message. -/
def receive (sdk : Sdk) (message : Message) : Sdk :=
  if message.header.version ≠ protocolVersion ∨ message.header.flags ≠ 0 ∨
      message.header.payloadBytes.toNat > sdk.payloadCapacity then sdk.fail
  else (sdk.handle message).getD (sdk.refuse message)

/-- The SDK after the messages of a stream. -/
def after (messages : List Message) : Sdk := messages.foldl receive connect

end Sdk

end Roadcast
