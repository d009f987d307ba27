import Roadcast.Lib.Checked
import Roadcast.Sdk.Receive

/-!
# The memory of the SDK

`client.c` and the decoders it calls, on the buffers that it allocates and with every access checked:
a load or a store outside a buffer, a size that would become negative and an index that does not fit
`can_id_to_index` are faults. `Receive` describes the same code on arrays without a size; the
functions here keep its phases and return the memory also when a check of the protocol fails.

`client->payload` is a buffer of `payload_capacity` bytes that keeps what earlier messages left in
it; a decoder gets the length of the message separately. `sync` is allocated by
`initialize_synchronization`. Bytes that `malloc` and `realloc` leave undefined are zero here.
-/

namespace Roadcast

open BigEndian Checked

/-- The prefix of a decoded batch, with the number of its records. -/
structure BatchHead where
  sampleSequence : UInt64
  totalCount : UInt32
  startIndex : UInt32
  count : ℕ

section Decoders

variable {B : Type}

/-- The test of a batch decoder on its start index. The difference is only taken if it exists. -/
def pageWithin (totalCount startIndex : UInt32) (count : ℕ) : Except Fault Bool :=
  if startIndex = uint32Max then .ok true
  else if startIndex.toNat > totalCount.toNat then .ok false
  else do
    let room ← subtract totalCount.toNat startIndex.toNat
    .ok (decide (count ≤ room))

/-- The loop of a batch decoder, from record `i` on. `base` is where the caller's array starts. -/
def readRecordsInto (size : ℕ) (read : List UInt8 → Option B) (payload : List UInt8) (base : ℕ) :
    ℕ → ℕ → List B → Except Fault (Bool × List B)
  | 0, _, records => .ok (true, records)
  | count + 1, i, records => do
    let encoded ← slice payload (batchPrefixSize + i * size) size
    match read encoded with
    | none => .ok (false, records)
    | some record => do
      let records ← store records (base + i) record
      readRecordsInto size read payload base count (i + 1) records

/-- `roadcast_decode_frame_batch` and `roadcast_decode_signal_batch`, into an array from `base` on. -/
def decodeBatchInto (size : ℕ) (read : List UInt8 → Option B) (payload : List UInt8) (length : ℕ)
    (records : List B) (base capacity : ℕ) : Except Fault (Option BatchHead × List B) :=
  if length < batchPrefixSize then .ok (none, records)
  else do
    let head ← slice payload 0 batchPrefixSize
    let count := (getU16 (head.drop 16)).toNat
    if byteAt head 18 ≠ 0 ∨ byteAt head 19 ≠ 0 then .ok (none, records)
    else if batchPrefixSize + count * size ≠ length ∨ count > capacity then .ok (none, records)
    else do
      let within ← pageWithin (getU32 (head.drop 8)) (getU32 (head.drop 12)) count
      if within then do
        let (complete, records) ← readRecordsInto size read payload base count 0 records
        .ok (if complete then
          some ⟨getU64 head, getU32 (head.drop 8), getU32 (head.drop 12), count⟩ else none, records)
      else .ok (none, records)

/-- The prefix of a decoded schema chunk, with the number of its entries. -/
structure SchemaHead where
  schemaVersion : UInt32
  totalCount : UInt32
  startIndex : UInt32
  schemaHash : UInt64
  count : ℕ

/-- The loop of `roadcast_decode_schema_chunk`, from entry `i` at `offset` on. The two arrays of an
entry have a byte for the terminating zero. -/
def readEntriesInto (payload : List UInt8) (length : ℕ) (totalCount startIndex : UInt32) (base : ℕ) :
    ℕ → ℕ → ℕ → List SchemaEntry → Except Fault (Bool × List SchemaEntry)
  | 0, _, offset, schema => .ok (decide (offset = length), schema)
  | count + 1, i, offset, schema => do
    let room ← subtract length offset
    if room < schemaEntryFixedSize then .ok (false, schema)
    else do
      let encoded ← slice payload offset schemaEntryFixedSize
      let nameLength := (getU16 (encoded.drop 22)).toNat
      let unitLength := (getU16 (encoded.drop 24)).toNat
      let texts ← subtract room schemaEntryFixedSize
      if getU16 (encoded.drop 26) ≠ 0 ∨ nameLength > schemaNameMax ∨ unitLength > schemaUnitMax ∨
          nameLength + unitLength > texts then .ok (false, schema)
      else do
        let name ← slice payload (offset + schemaEntryFixedSize) nameLength
        let unit ← slice payload (offset + schemaEntryFixedSize + nameLength) unitLength
        let _ ← store (List.replicate (schemaNameMax + 1) (0 : UInt8)) nameLength 0
        let _ ← store (List.replicate (schemaUnitMax + 1) (0 : UInt8)) unitLength 0
        let entry := { readSchemaEntry encoded with name := name, unit := unit }
        let schema ← store schema (base + i) entry
        if entry.accepted totalCount (startIndex + UInt32.ofNat i) then
          readEntriesInto payload length totalCount startIndex base count (i + 1)
            (offset + (schemaEntryFixedSize + nameLength + unitLength)) schema
        else .ok (false, schema)

/-- `roadcast_decode_schema_chunk`, into an array from `base` on. -/
def decodeSchemaChunkInto (payload : List UInt8) (length : ℕ) (schema : List SchemaEntry)
    (base capacity : ℕ) : Except Fault (Option SchemaHead × List SchemaEntry) :=
  if length < schemaChunkPrefixSize then .ok (none, schema)
  else do
    let head ← slice payload 0 schemaChunkPrefixSize
    let totalCount := getU32 (head.drop 4)
    let startIndex := getU32 (head.drop 8)
    let count := (getU32 (head.drop 12)).toNat
    if count > capacity ∨ startIndex.toNat > totalCount.toNat then .ok (none, schema)
    else do
      let room ← subtract totalCount.toNat startIndex.toNat
      if count > room then .ok (none, schema)
      else do
        let (complete, schema) ← readEntriesInto payload length totalCount startIndex base count 0
          schemaChunkPrefixSize schema
        .ok (if complete then
          some ⟨getU32 head, totalCount, startIndex, getU64 (head.drop 16), count⟩ else none, schema)

/-- `roadcast_decode_welcome`. -/
def decodeWelcomeAt (payload : List UInt8) (length : ℕ) : Except Fault (Option Welcome) :=
  if length ≠ welcomeSize then .ok none
  else do
    let encoded ← slice payload 0 welcomeSize
    .ok (decodeWelcome encoded)

/-- `roadcast_decode_heartbeat`. -/
def decodeHeartbeatAt (payload : List UInt8) (length : ℕ) : Except Fault (Option Heartbeat) :=
  if length ≠ heartbeatSize then .ok none
  else do
    let encoded ← slice payload 0 heartbeatSize
    .ok (decodeHeartbeat encoded)

end Decoders

/-- The buffers of `roadcast_client`, the arrays of `synchronization_t` and what decides which of them
are accessed. A buffer that is not allocated is empty. -/
structure SdkMemory where
  phase : Phase
  welcome : Welcome
  payload : List UInt8
  payloadCapacity : ℕ
  frameScratch : List Frame
  frameScratchCapacity : ℕ
  signalScratch : List SignalUpdate
  signalScratchCapacity : ℕ
  schema : List SchemaEntry
  frames : List Frame
  signals : List SignalValue
  canIdToIndex : List UInt16
  syncFrames : List Frame
  syncSignals : List SignalValue
  sampleSequence : UInt64
  changeSequence : UInt64
  sampleTimestampNs : UInt64

/-- An entry that `calloc` has cleared. -/
def zeroSchemaEntry : SchemaEntry := ⟨0, 0, 0, 0, 0, 0, 0, 0, [], [], 0, 0⟩

namespace SdkMemory

/-- `roadcast_client_connect` up to `HELLO`. -/
def connect : SdkMemory where
  phase := .handshake
  welcome := Sdk.connect.welcome
  payload := List.replicate welcomeSize 0
  payloadCapacity := welcomeSize
  frameScratch := []
  frameScratchCapacity := 0
  signalScratch := []
  signalScratchCapacity := 0
  schema := []
  frames := []
  signals := []
  canIdToIndex := List.replicate canIdLookupCap noFrameIndex
  syncFrames := []
  syncSignals := []
  sampleSequence := 0
  changeSequence := 0
  sampleTimestampNs := 0

/-- A check of the protocol failed. -/
def fail (memory : SdkMemory) : SdkMemory := { memory with phase := .failed }

/-- `send_message`, and the phase that waits for the answer. -/
def request (memory : SdkMemory) (phase : Phase) (length : ℕ) : SdkMemory :=
  if length > memory.welcome.maxRequestPayload.toNat then memory.fail
  else { memory with phase := phase }

/-- The loop that enters the CAN IDs of an array into `can_id_to_index`, from an index on. -/
def fillTable (frames : List Frame) : ℕ → ℕ → List UInt16 → Except Fault (List UInt16)
  | 0, _, table => .ok table
  | count + 1, i, table => do
    let frame ← load frames i
    if frame.canId.toNat < canIdLookupCap then do
      let index ← narrow i
      let table ← store table frame.canId.toNat index
      fillTable frames count (i + 1) table
    else fillTable frames count (i + 1) table

/-- The loop that clears `can_id_to_index`, from an index on. -/
def clearTable : ℕ → ℕ → List UInt16 → Except Fault (List UInt16)
  | 0, _, table => .ok table
  | count + 1, i, table => do
    let table ← store table i noFrameIndex
    clearTable count (i + 1) table

/-- The loop of `request_signal_snapshot`, and `complete_subscription` after it. -/
def requestSignals (memory : SdkMemory) (next : ℕ) : SdkMemory :=
  if next < memory.welcome.signalCount.toNat then memory.request (.signals next) schemaRequestSize
  else memory.request .subscription 0

/-- The loop of `request_frame_snapshot`, and `request_signal_snapshot` after it. -/
def requestFrames (memory : SdkMemory) (next : ℕ) : Except Fault SdkMemory :=
  if next < memory.welcome.frameCount.toNat then
    .ok (memory.request (.frames next) schemaRequestSize)
  else do
    let table ← fillTable memory.syncFrames memory.welcome.frameCount.toNat 0 memory.canIdToIndex
    .ok (requestSignals { memory with canIdToIndex := table } 0)

/-- `initialize_synchronization` and `synchronize`. -/
def synchronize (memory : SdkMemory) : Except Fault SdkMemory :=
  requestFrames { memory with
    syncFrames := List.replicate memory.welcome.frameCount.toNat zeroFrame
    syncSignals := List.replicate memory.welcome.signalCount.toNat zeroSignal
    sampleSequence := 0
    changeSequence := 0
    sampleTimestampNs := 0 } 0

/-- The loop of `request_schema`, and `synchronize` after it. -/
def requestSchema (memory : SdkMemory) (next : ℕ) : Except Fault SdkMemory :=
  if next < memory.welcome.signalCount.toNat then
    .ok (memory.request (.schema next) schemaRequestSize)
  else memory.synchronize

/-- The allocations of `roadcast_client_connect`, with `records` bytes of a message for records. -/
def allocate (memory : SdkMemory) (welcome : Welcome) (records : ℕ) : SdkMemory :=
  let capacity := welcome.maxResponsePayload.toNat
  { memory with
    welcome := welcome
    payload := memory.payload.take capacity ++ List.replicate (capacity - memory.payload.length) 0
    payloadCapacity := capacity
    frameScratch := List.replicate (records / frameWireSize) zeroFrame
    frameScratchCapacity := records / frameWireSize
    signalScratch := List.replicate (records / signalWireSize) ⟨0, zeroSignal⟩
    signalScratchCapacity := records / signalWireSize
    schema := List.replicate welcome.signalCount.toNat zeroSchemaEntry
    frames := List.replicate welcome.frameCount.toNat zeroFrame
    signals := List.replicate welcome.signalCount.toNat zeroSignal }

/-- `perform_handshake` once `WELCOME` is there, and what `roadcast_client_connect` does next. -/
def readWelcome (memory : SdkMemory) (header : Header) : Except Fault (Bool × SdkMemory) :=
  if header.type ≠ MessageType.welcome.code then .ok (false, memory)
  else do
    let decoded ← decodeWelcomeAt memory.payload header.payloadBytes.toNat
    match decoded with
    | none => .ok (false, memory)
    | some welcome =>
      if welcome.Supported then do
        let records ← subtract welcome.maxResponsePayload.toNat batchPrefixSize
        let memory ← requestSchema (memory.allocate welcome records) 0
        .ok (true, memory)
      else .ok (false, memory)

/-- The loop body of `request_schema` once the chunk is there. -/
def readSchema (memory : SdkMemory) (next : ℕ) (header : Header) :
    Except Fault (Bool × SdkMemory) :=
  if header.type ≠ MessageType.schemaChunk.code then .ok (false, memory)
  else do
    let capacity ← subtract memory.welcome.signalCount.toNat next
    let (decoded, schema) ← decodeSchemaChunkInto memory.payload header.payloadBytes.toNat
      memory.schema next capacity
    let memory := { memory with schema := schema }
    match decoded with
    | none => .ok (false, memory)
    | some head =>
      if head.schemaVersion ≠ memory.welcome.schemaVersion ∨
          head.schemaHash ≠ memory.welcome.schemaHash ∨
          head.totalCount ≠ memory.welcome.signalCount ∨ head.startIndex.toNat ≠ next ∨
          head.count = 0 then .ok (false, memory)
      else do
        let memory ← memory.requestSchema (next + head.count)
        .ok (true, memory)

/-- The first page sets the sequences of the synchronization. -/
def placePage (memory : SdkMemory) (next : ℕ) (header : Header) (head : BatchHead) : SdkMemory :=
  if next = 0 then
    { memory with
      sampleSequence := head.sampleSequence
      changeSequence := header.sequence
      sampleTimestampNs := header.timestampNs }
  else memory

/-- The loop body of `request_frame_snapshot` once the page is there. -/
def readFramePage (memory : SdkMemory) (next : ℕ) (header : Header) :
    Except Fault (Bool × SdkMemory) :=
  if header.type ≠ MessageType.snapshot.code then .ok (false, memory)
  else do
    let capacity ← subtract memory.welcome.frameCount.toNat next
    let (decoded, frames) ← decodeBatchInto frameWireSize decodeFrame memory.payload
      header.payloadBytes.toNat memory.syncFrames next capacity
    let memory := { memory with syncFrames := frames }
    match decoded with
    | none => .ok (false, memory)
    | some head =>
      if head.totalCount ≠ memory.welcome.frameCount ∨ head.startIndex.toNat ≠ next ∨
          head.count = 0 then .ok (false, memory)
      else if next ≠ 0 ∧ (head.sampleSequence ≠ memory.sampleSequence ∨
          header.sequence ≠ memory.changeSequence ∨
          header.timestampNs ≠ memory.sampleTimestampNs) then .ok (false, memory)
      else do
        let memory ← (memory.placePage next header head).requestFrames (next + head.count)
        .ok (true, memory)

/-- The loop of `request_signal_snapshot` over one page, from record `i` on. -/
def placeSignalsInto (scratch : List SignalUpdate) (signalCount next : ℕ) :
    ℕ → ℕ → List SignalValue → Except Fault (Bool × List SignalValue)
  | 0, _, signals => .ok (true, signals)
  | count + 1, i, signals => do
    let update ← load scratch i
    if update.index.toNat ≠ next + i ∨ update.index.toNat ≥ signalCount then .ok (false, signals)
    else do
      let signals ← store signals update.index.toNat update.value
      placeSignalsInto scratch signalCount next count (i + 1) signals

/-- The loop body of `request_signal_snapshot` once the page is there. -/
def readSignalPage (memory : SdkMemory) (next : ℕ) (header : Header) :
    Except Fault (Bool × SdkMemory) :=
  if header.type ≠ MessageType.signalSnapshotChunk.code ∨ header.sequence ≠ memory.changeSequence ∨
      header.timestampNs ≠ memory.sampleTimestampNs then .ok (false, memory)
  else do
    let (decoded, scratch) ← decodeBatchInto signalWireSize decodeSignal memory.payload
      header.payloadBytes.toNat memory.signalScratch 0 memory.signalScratchCapacity
    let memory := { memory with signalScratch := scratch }
    match decoded with
    | none => .ok (false, memory)
    | some head =>
      if head.sampleSequence ≠ memory.sampleSequence ∨
          head.totalCount ≠ memory.welcome.signalCount ∨ head.startIndex.toNat ≠ next ∨
          head.count = 0 then .ok (false, memory)
      else do
        let (placed, signals) ← placeSignalsInto memory.signalScratch
          memory.welcome.signalCount.toNat next head.count 0 memory.syncSignals
        let memory := { memory with syncSignals := signals }
        .ok (placed, if placed then memory.requestSignals (next + head.count) else memory)

/-- The index of a CAN ID. -/
def lookup (table : List UInt16) (canId : UInt16) : Except Fault UInt16 :=
  if canId.toNat < canIdLookupCap then load table canId.toNat else .ok noFrameIndex

/-- The loop of `apply_decoded_frames`, from record `i` on. -/
def applyFramesInto (scratch : List Frame) (table : List UInt16) (frameCount : ℕ) :
    ℕ → ℕ → List Frame → Except Fault (Bool × List Frame)
  | 0, _, frames => .ok (true, frames)
  | count + 1, i, frames => do
    let frame ← load scratch i
    let target ← lookup table frame.canId
    if target.toNat ≥ frameCount then .ok (false, frames)
    else do
      let frames ← store frames target.toNat frame
      applyFramesInto scratch table frameCount count (i + 1) frames

/-- The loop of `apply_decoded_signals`, from record `i` on. -/
def applySignalsInto (scratch : List SignalUpdate) (signalCount : ℕ) :
    ℕ → ℕ → List SignalValue → Except Fault (Bool × List SignalValue)
  | 0, _, signals => .ok (true, signals)
  | count + 1, i, signals => do
    let update ← load scratch i
    if update.index.toNat ≥ signalCount then .ok (false, signals)
    else do
      let signals ← store signals update.index.toNat update.value
      applySignalsInto scratch signalCount count (i + 1) signals

/-- `decode_frame_batch` or `decode_signal_batch`, and a loop that applies the decoded records. -/
def updateRecords {B V : Type} (size : ℕ) (read : List UInt8 → Option B)
    (apply : List B → ℕ → List V → Except Fault (Bool × List V)) (payload : List UInt8)
    (length : ℕ) (totalCount : UInt32) (scratch : List B) (capacity : ℕ) (values : List V) :
    Except Fault (Option BatchHead × List B × List V) := do
  let (decoded, scratch) ← decodeBatchInto size read payload length scratch 0 capacity
  match decoded with
  | none => .ok (none, scratch, values)
  | some head =>
    if head.totalCount ≠ totalCount ∨ head.startIndex ≠ uint32Max then .ok (none, scratch, values)
    else do
      let (applied, values) ← apply scratch head.count values
      .ok (if applied then some head else none, scratch, values)

/-- `decode_frame_batch` and the loop of `apply_decoded_frames` on one of the two arrays. -/
def updateFrames (memory : SdkMemory) (header : Header) (frames : List Frame) :
    Except Fault (Option BatchHead × List Frame × List Frame) :=
  updateRecords frameWireSize decodeFrame
    (fun scratch count => applyFramesInto scratch memory.canIdToIndex
      memory.welcome.frameCount.toNat count 0)
    memory.payload header.payloadBytes.toNat memory.welcome.frameCount memory.frameScratch
    memory.frameScratchCapacity frames

/-- `decode_signal_batch` and the loop of `apply_decoded_signals` on one of the two arrays. -/
def updateSignals (memory : SdkMemory) (header : Header) (signals : List SignalValue) :
    Except Fault (Option BatchHead × List SignalUpdate × List SignalValue) :=
  updateRecords signalWireSize decodeSignal
    (fun scratch count => applySignalsInto scratch memory.welcome.signalCount.toNat count 0)
    memory.payload header.payloadBytes.toNat memory.welcome.signalCount memory.signalScratch
    memory.signalScratchCapacity signals

/-- The end of `apply_decoded_frames` and `apply_decoded_signals`. -/
def advance (memory : SdkMemory) (header : Header) : Option BatchHead → Bool × SdkMemory
  | none => (false, memory)
  | some head =>
    (true, { memory with
      sampleSequence := head.sampleSequence
      changeSequence := header.sequence
      sampleTimestampNs := header.timestampNs })

/-- `apply_frame_batch`. -/
def applyFrameBatch (memory : SdkMemory) (header : Header) : Except Fault (Bool × SdkMemory) := do
  let (applied, scratch, frames) ← memory.updateFrames header memory.syncFrames
  .ok (advance { memory with frameScratch := scratch, syncFrames := frames } header applied)

/-- `apply_signal_batch`. -/
def applySignalBatch (memory : SdkMemory) (header : Header) : Except Fault (Bool × SdkMemory) := do
  let (applied, scratch, signals) ← memory.updateSignals header memory.syncSignals
  .ok (advance { memory with signalScratch := scratch, syncSignals := signals } header applied)

/-- `commit_synchronization`. -/
def commit (memory : SdkMemory) : Except Fault SdkMemory := do
  let syncFrames ← slice memory.syncFrames 0 memory.welcome.frameCount.toNat
  let frames ← copy memory.frames syncFrames
  let syncSignals ← slice memory.syncSignals 0 memory.welcome.signalCount.toNat
  let signals ← copy memory.signals syncSignals
  let cleared ← clearTable canIdLookupCap 0 memory.canIdToIndex
  let table ← fillTable frames memory.welcome.frameCount.toNat 0 cleared
  .ok { memory with phase := .live, frames := frames, signals := signals, canIdToIndex := table }

/-- The loop body of `complete_subscription`. -/
def readSubscription (memory : SdkMemory) (header : Header) : Except Fault (Bool × SdkMemory) :=
  match MessageType.ofCode header.type with
  | some .subscribed => do
    let memory ← commit { memory with
      changeSequence := header.sequence
      sampleTimestampNs := header.timestampNs }
    .ok (true, memory)
  | some .updateBatch => memory.applyFrameBatch header
  | some .signalUpdateBatch => memory.applySignalBatch header
  | _ => .ok (false, memory)

/-- `apply_live_frame_batch`. -/
def applyLiveFrameBatch (memory : SdkMemory) (header : Header) :
    Except Fault (Bool × SdkMemory) := do
  let (applied, scratch, frames) ← memory.updateFrames header memory.frames
  .ok (applied.isSome, { memory with frameScratch := scratch, frames := frames })

/-- `apply_live_signal_batch`. -/
def applyLiveSignalBatch (memory : SdkMemory) (header : Header) :
    Except Fault (Bool × SdkMemory) := do
  let (applied, scratch, signals) ← memory.updateSignals header memory.signals
  .ok (applied.isSome, { memory with signalScratch := scratch, signals := signals })

/-- `apply_heartbeat`, as far as it touches a buffer. -/
def applyHeartbeat (memory : SdkMemory) (header : Header) : Except Fault (Bool × SdkMemory) := do
  let decoded ← decodeHeartbeatAt memory.payload header.payloadBytes.toNat
  .ok (decoded.any fun heartbeat => heartbeat.changeSequence = header.sequence, memory)

/-- The loop body of `reader_thread_main`. -/
def readLive (memory : SdkMemory) (header : Header) : Except Fault (Bool × SdkMemory) :=
  match MessageType.ofCode header.type with
  | some .updateBatch => memory.applyLiveFrameBatch header
  | some .signalUpdateBatch => memory.applyLiveSignalBatch header
  | some .heartbeat => memory.applyHeartbeat header
  | some .resyncRequired =>
    if header.payloadBytes = 0 then do
      let memory ← memory.synchronize
      .ok (true, memory)
    else .ok (false, memory)
  | _ => .ok (false, memory)

/-- What the SDK does with a message that `read_message` has put into `client->payload`. -/
def handle (memory : SdkMemory) (header : Header) : Except Fault (Bool × SdkMemory) :=
  match memory.phase with
  | .handshake => memory.readWelcome header
  | .schema next => memory.readSchema next header
  | .frames next => memory.readFramePage next header
  | .signals next => memory.readSignalPage next header
  | .subscription => memory.readSubscription header
  | .live => memory.readLive header
  | .failed => .ok (false, memory)

/-- The SDK after one more message. `read_message` reads the payload only if it fits; a payload that
ends early ends the session. -/
def receive (memory : SdkMemory) (message : Message) : Except Fault SdkMemory :=
  if message.header.version ≠ protocolVersion ∨ message.header.flags ≠ 0 ∨
      message.header.payloadBytes.toNat > memory.payloadCapacity then .ok memory.fail
  else do
    let payload ← copy memory.payload message.payload
    let memory := { memory with payload := payload }
    if message.payload.length < message.header.payloadBytes.toNat then .ok memory.fail
    else do
      let (accepted, memory) ← memory.handle message.header
      .ok (if accepted then memory else memory.fail)

/-- The message at the front of a stream, and what follows it. A stream may end within the payload. -/
def takeMessage (stream : List UInt8) : Option (Message × List UInt8) :=
  if stream.length < headerSize then none
  else
    (decodeHeader stream).map fun header =>
      (⟨header, (stream.drop headerSize).take header.payloadBytes.toNat⟩,
        stream.drop (headerSize + header.payloadBytes.toNat))

/-- The SDK after the bytes of a stream, for at most `fuel` messages. The end of the stream and a
header that is refused end the session; a session that has ended reads nothing. -/
def readStream : ℕ → List UInt8 → SdkMemory → Except Fault SdkMemory
  | 0, _, memory => .ok memory
  | fuel + 1, stream, memory =>
    if memory.phase = .failed then .ok memory
    else
      match takeMessage stream with
      | none => .ok memory.fail
      | some (message, rest) => do
        let memory ← memory.receive message
        readStream fuel rest memory

/-- `roadcast_client_read_frame`. -/
def readFrame (memory : SdkMemory) (canId : UInt16) : Except Fault (Option Frame) := do
  let target ← lookup memory.canIdToIndex canId
  if target.toNat < memory.welcome.frameCount.toNat then do
    let frame ← load memory.frames target.toNat
    .ok (some frame)
  else .ok none

/-- `roadcast_client_read_signals`. -/
def readSignals (memory : SdkMemory) : List UInt32 → Except Fault (Option (List SignalValue))
  | [] => .ok (some [])
  | index :: indices =>
    if index.toNat ≥ memory.welcome.signalCount.toNat then .ok none
    else do
      let value ← load memory.signals index.toNat
      let values ← readSignals memory indices
      .ok (values.map (value :: ·))

/-- `roadcast_client_read_all`. -/
def readAll (memory : SdkMemory) (capacity : ℕ) : Except Fault (Option (List SignalValue)) :=
  if capacity < memory.welcome.signalCount.toNat then .ok none
  else do
    let values ← slice memory.signals 0 memory.welcome.signalCount.toNat
    .ok (some values)

/-- `roadcast_client_schema_at`. -/
def schemaAt (memory : SdkMemory) (index : UInt32) : Except Fault (Option SchemaEntry) :=
  if index.toNat ≥ memory.welcome.signalCount.toNat then .ok none
  else do
    let entry ← load memory.schema index.toNat
    .ok (some entry)

/-- The loop of the two functions that look for a signal, from an index on. -/
def findEntry (memory : SdkMemory) (found : SchemaEntry → Bool) :
    ℕ → ℕ → Except Fault (Option ℕ)
  | 0, _ => .ok none
  | count + 1, i => do
    let entry ← load memory.schema i
    if found entry then .ok (some i) else findEntry memory found count (i + 1)

/-- `roadcast_client_find_signal`. `strcmp` sees a name up to its first zero byte. -/
def findSignal (memory : SdkMemory) (name : List UInt8) : Except Fault (Option ℕ) :=
  memory.findEntry (fun entry => entry.name.takeWhile (· ≠ 0) = name)
    memory.welcome.signalCount.toNat 0

/-- `roadcast_client_find_signal_by_stable_id`. -/
def findSignalByStableId (memory : SdkMemory) (stableId : UInt64) : Except Fault (Option ℕ) :=
  memory.findEntry (fun entry => entry.stableId = stableId) memory.welcome.signalCount.toNat 0

end SdkMemory

end Roadcast
