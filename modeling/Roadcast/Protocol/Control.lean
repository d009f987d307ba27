import Roadcast.Protocol.Types

/-!
# Control payloads

Hello, welcome, paged requests and heartbeats. Each has one exact length; heartbeats also reserve
three zero bytes after the source state.
-/

namespace Roadcast

open BigEndian

/-- `ROADCAST_CAP_RAW_CAN | ROADCAST_CAP_DECODED_CAN`, the capabilities both sides announce. -/
def capabilities : UInt32 := 3

/-- `roadcast_encode_hello`. -/
def encodeHello : List UInt8 :=
  putU16 protocolVersion ++ (putU16 protocolVersion ++ putU32 capabilities)

/-- `roadcast_decode_hello`: the version range and the capabilities of the peer. -/
def decodeHello (payload : List UInt8) : Option (UInt16 × UInt16 × UInt32) :=
  if payload.length ≠ 8 then none
  else some (getU16 payload, getU16 (payload.drop 2), getU32 (payload.drop 4))

/-- What a welcome announces. -/
structure Welcome where
  hz : UInt32
  frameCount : UInt32
  signalCount : UInt32
  maxRequestPayload : UInt32
  maxResponsePayload : UInt32
  capabilities : UInt32
  schemaVersion : UInt32
  schemaHash : UInt64
  deriving DecidableEq, Repr

/-- `roadcast_encode_welcome`. -/
def encodeWelcome (welcome : Welcome) : List UInt8 :=
  putU32 welcome.hz ++ (putU32 welcome.frameCount ++ (putU32 welcome.signalCount ++
    (putU32 welcome.maxRequestPayload ++ (putU32 welcome.maxResponsePayload ++
      (putU32 welcome.capabilities ++ (putU32 welcome.schemaVersion ++
        putU64 welcome.schemaHash))))))

/-- `roadcast_decode_welcome`. -/
def decodeWelcome (payload : List UInt8) : Option Welcome :=
  if payload.length ≠ welcomeSize then none
  else some {
    hz := getU32 payload
    frameCount := getU32 (payload.drop 4)
    signalCount := getU32 (payload.drop 8)
    maxRequestPayload := getU32 (payload.drop 12)
    maxResponsePayload := getU32 (payload.drop 16)
    capabilities := getU32 (payload.drop 20)
    schemaVersion := getU32 (payload.drop 24)
    schemaHash := getU64 (payload.drop 28) }

/-- `roadcast_encode_index_request`. -/
def encodeIndexRequest (startIndex : UInt32) : List UInt8 := putU32 startIndex

/-- `roadcast_decode_index_request`. -/
def decodeIndexRequest (payload : List UInt8) : Option UInt32 :=
  if payload.length ≠ schemaRequestSize then none else some (getU32 payload)

/-- What a heartbeat reports. -/
structure Heartbeat where
  sampleSequence : UInt64
  changeSequence : UInt64
  droppedBatches : UInt64
  coalescedSamples : UInt64
  effectiveHzMillihz : UInt32
  sourceState : SourceState
  deriving DecidableEq, Repr

/-- The source state a byte stands for. -/
def SourceState.ofCode (code : UInt8) : Option SourceState :=
  if code = 0 then some unavailable
  else if code = 1 then some available
  else if code = 2 then some degraded
  else none

/-- A source state survives its byte. -/
@[simp] theorem SourceState.ofCode_code (state : SourceState) : ofCode state.code = some state := by
  cases state <;> decide

/-- `roadcast_encode_heartbeat`. -/
def encodeHeartbeat (heartbeat : Heartbeat) : List UInt8 :=
  putU64 heartbeat.sampleSequence ++ (putU64 heartbeat.changeSequence ++
    (putU64 heartbeat.droppedBatches ++ (putU64 heartbeat.coalescedSamples ++
      (putU32 heartbeat.effectiveHzMillihz ++ [heartbeat.sourceState.code, 0, 0, 0]))))

/-- `roadcast_decode_heartbeat`. -/
def decodeHeartbeat (payload : List UInt8) : Option Heartbeat := do
  if payload.length ≠ heartbeatSize then none
  let sourceState ← SourceState.ofCode (byteAt payload 36)
  if byteAt payload 37 ≠ 0 ∨ byteAt payload 38 ≠ 0 ∨ byteAt payload 39 ≠ 0 then none
  else some {
    sampleSequence := getU64 payload
    changeSequence := getU64 (payload.drop 8)
    droppedBatches := getU64 (payload.drop 16)
    coalescedSamples := getU64 (payload.drop 24)
    effectiveHzMillihz := getU32 (payload.drop 32)
    sourceState := sourceState }

/-- The payload of `HELLO` has a fixed size. -/
@[simp] theorem encodeHello_length : encodeHello.length = 8 := rfl

/-- The payload of `WELCOME` has a fixed size. -/
@[simp] theorem encodeWelcome_length (welcome : Welcome) :
    (encodeWelcome welcome).length = welcomeSize := rfl

/-- The payload of an index request has a fixed size. -/
@[simp] theorem encodeIndexRequest_length (startIndex : UInt32) :
    (encodeIndexRequest startIndex).length = schemaRequestSize := rfl

/-- The payload of a heartbeat has a fixed size. -/
@[simp] theorem encodeHeartbeat_length (heartbeat : Heartbeat) :
    (encodeHeartbeat heartbeat).length = heartbeatSize := rfl

/-- The daemon reads the SDK's own hello. -/
@[simp] theorem decodeHello_encodeHello :
    decodeHello encodeHello = some (protocolVersion, protocolVersion, capabilities) := by
  decide

/-- A welcome is read back field by field. -/
@[simp] theorem decodeWelcome_encodeWelcome (welcome : Welcome) :
    decodeWelcome (encodeWelcome welcome) = some welcome := by
  have h0 : getU32 (encodeWelcome welcome) = welcome.hz := getU32_putU32 _ _
  have h4 : getU32 ((encodeWelcome welcome).drop 4) = welcome.frameCount := getU32_putU32 _ _
  have h8 : getU32 ((encodeWelcome welcome).drop 8) = welcome.signalCount := getU32_putU32 _ _
  have h12 : getU32 ((encodeWelcome welcome).drop 12) = welcome.maxRequestPayload :=
    getU32_putU32 _ _
  have h16 : getU32 ((encodeWelcome welcome).drop 16) = welcome.maxResponsePayload :=
    getU32_putU32 _ _
  have h20 : getU32 ((encodeWelcome welcome).drop 20) = welcome.capabilities := getU32_putU32 _ _
  have h24 : getU32 ((encodeWelcome welcome).drop 24) = welcome.schemaVersion := getU32_putU32 _ _
  have h28 : getU64 ((encodeWelcome welcome).drop 28) = welcome.schemaHash := by
    have h := getU64_putU64 welcome.schemaHash []
    rw [List.append_nil] at h
    exact h
  rw [decodeWelcome, encodeWelcome_length, if_neg (by simp), h0, h4, h8, h12, h16, h20, h24, h28]

/-- A paged request is read back. -/
@[simp] theorem decodeIndexRequest_encodeIndexRequest (startIndex : UInt32) :
    decodeIndexRequest (encodeIndexRequest startIndex) = some startIndex := by
  have h := getU32_putU32 startIndex []
  rw [List.append_nil] at h
  rw [decodeIndexRequest, encodeIndexRequest_length, if_neg (by simp), encodeIndexRequest, h]

/-- A heartbeat is read back field by field. -/
@[simp] theorem decodeHeartbeat_encodeHeartbeat (heartbeat : Heartbeat) :
    decodeHeartbeat (encodeHeartbeat heartbeat) = some heartbeat := by
  have h0 : getU64 (encodeHeartbeat heartbeat) = heartbeat.sampleSequence := getU64_putU64 _ _
  have h8 : getU64 ((encodeHeartbeat heartbeat).drop 8) = heartbeat.changeSequence :=
    getU64_putU64 _ _
  have h16 : getU64 ((encodeHeartbeat heartbeat).drop 16) = heartbeat.droppedBatches :=
    getU64_putU64 _ _
  have h24 : getU64 ((encodeHeartbeat heartbeat).drop 24) = heartbeat.coalescedSamples :=
    getU64_putU64 _ _
  have h32 : getU32 ((encodeHeartbeat heartbeat).drop 32) = heartbeat.effectiveHzMillihz :=
    getU32_putU32 _ _
  have h36 : byteAt (encodeHeartbeat heartbeat) 36 = heartbeat.sourceState.code := rfl
  have h37 : byteAt (encodeHeartbeat heartbeat) 37 = 0 := rfl
  have h38 : byteAt (encodeHeartbeat heartbeat) 38 = 0 := rfl
  have h39 : byteAt (encodeHeartbeat heartbeat) 39 = 0 := rfl
  simp only [decodeHeartbeat, encodeHeartbeat_length, h0, h8, h16, h24, h32, h36, h37, h38, h39,
    SourceState.ofCode_code, ne_eq, not_true_eq_false, if_false, or_self, Option.bind_eq_bind,
    Option.bind_some]

end Roadcast
