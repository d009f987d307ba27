import Roadcast.Lib.BigEndian

/-!
# Wire types of protocol version 3

The records of `roadcast_protocol.h`. Machine words keep their width. A `double` is kept as
its 64-bit pattern, which is all the protocol ever does with one. Observation states and
message types are enumerations with the numeric codes of the header file.
-/

namespace Roadcast

/-- `ROADCAST_MAGIC`. -/
def magic : UInt32 := 0x52444354

/-- `ROADCAST_PROTOCOL_VERSION`. -/
def protocolVersion : UInt16 := 3

/-- `ROADCAST_HEADER_SIZE`. -/
def headerSize : ℕ := 32

/-- `ROADCAST_FRAME_WIRE_SIZE`. -/
def frameWireSize : ℕ := 28

/-- `ROADCAST_BATCH_PREFIX_SIZE`. -/
def batchPrefixSize : ℕ := 20

/-- `ROADCAST_SIGNAL_WIRE_SIZE`. -/
def signalWireSize : ℕ := 40

/-- `ROADCAST_WELCOME_SIZE`. -/
def welcomeSize : ℕ := 36

/-- `ROADCAST_HEARTBEAT_SIZE`. -/
def heartbeatSize : ℕ := 40

/-- `ROADCAST_SCHEMA_REQUEST_SIZE`, the payload of every paged request. -/
def schemaRequestSize : ℕ := 4

/-- `ROADCAST_SCHEMA_CHUNK_PREFIX_SIZE`. -/
def schemaChunkPrefixSize : ℕ := 24

/-- `ROADCAST_SCHEMA_ENTRY_FIXED_SIZE`. -/
def schemaEntryFixedSize : ℕ := 44

/-- `ROADCAST_SCHEMA_NAME_MAX`. -/
def schemaNameMax : ℕ := 63

/-- `ROADCAST_SCHEMA_UNIT_MAX`. -/
def schemaUnitMax : ℕ := 15

/-- `ROADCAST_MAX_PAYLOAD`. -/
def maxPayload : ℕ := 65536

/-- `UINT32_MAX`, the page start of a delta batch and the absent invalid-flag index. -/
def uint32Max : UInt32 := 0xFFFFFFFF

/-- `enum roadcast_message_type`. -/
inductive MessageType
  | hello | welcome | getSnapshot | snapshot | subscribeAll | updateBatch | heartbeat
  | resyncRequired | subscribed | ping | pong | getSchema | schemaChunk | getSignalSnapshot
  | signalSnapshotChunk | signalUpdateBatch
  deriving DecidableEq, Repr

/-- The numeric code of a message type. -/
def MessageType.code : MessageType → UInt16
  | hello => 1
  | welcome => 2
  | getSnapshot => 3
  | snapshot => 4
  | subscribeAll => 5
  | updateBatch => 6
  | heartbeat => 7
  | resyncRequired => 8
  | subscribed => 9
  | ping => 10
  | pong => 11
  | getSchema => 12
  | schemaChunk => 13
  | getSignalSnapshot => 14
  | signalSnapshotChunk => 15
  | signalUpdateBatch => 16

/-- The type of a received code, for the dispatch on `header->type`. -/
def MessageType.ofCode (code : UInt16) : Option MessageType :=
  [hello, welcome, getSnapshot, snapshot, subscribeAll, updateBatch, heartbeat, resyncRequired,
    subscribed, ping, pong, getSchema, schemaChunk, getSignalSnapshot, signalSnapshotChunk,
    signalUpdateBatch].find? fun type => type.code = code

/-- Every code dispatches to its own type. -/
@[simp] theorem MessageType.ofCode_code (type : MessageType) : ofCode type.code = some type := by
  cases type <;> decide

/-- Different message types have different codes. -/
@[simp] theorem MessageType.code_inj (a b : MessageType) : a.code = b.code ↔ a = b := by
  refine ⟨fun h => ?_, congrArg code⟩
  have hof := congrArg ofCode h
  rwa [ofCode_code, ofCode_code, Option.some.injEq] at hof

/-- Only its own code dispatches to a type. -/
theorem MessageType.code_of_ofCode {code : UInt16} {type : MessageType}
    (h : ofCode code = some type) : code = type.code := by
  have hfound := List.find?_some h
  exact (of_decide_eq_true hfound).symm

/-- `enum roadcast_observation_state`. -/
inductive ObservationState
  | unavailable | neverObserved | valid | invalid
  deriving DecidableEq, Repr

/-- The byte of an observation state. -/
def ObservationState.code : ObservationState → UInt8
  | unavailable => 0
  | neverObserved => 1
  | valid => 2
  | invalid => 3

/-- The state a byte stands for; values above `ROADCAST_OBSERVATION_INVALID` have none. -/
def ObservationState.ofCode (code : UInt8) : Option ObservationState :=
  if code = 0 then some unavailable
  else if code = 1 then some neverObserved
  else if code = 2 then some valid
  else if code = 3 then some invalid
  else none

/-- A state survives its byte. -/
@[simp] theorem ObservationState.ofCode_code (state : ObservationState) :
    ofCode state.code = some state := by
  cases state <;> decide

/-- The codes of the states are the lowest bytes. -/
theorem ObservationState.le_of_ofCode {code : UInt8} {state : ObservationState}
    (h : ofCode code = some state) : code ≤ ObservationState.invalid.code := by
  unfold ofCode at h
  repeat' split at h
  all_goals first | contradiction | (subst code; decide)

/-- `enum roadcast_source_state`. -/
inductive SourceState
  | unavailable | available | degraded
  deriving DecidableEq, Repr

/-- The byte of a source state. -/
def SourceState.code : SourceState → UInt8
  | unavailable => 0
  | available => 1
  | degraded => 2

/-- The eight payload bytes of a CAN frame. -/
abbrev FrameData := Vector UInt8 8

/-- `roadcast_frame_t`. -/
structure Frame where
  canId : UInt16
  state : ObservationState
  data : FrameData
  firstObservedNs : UInt64
  lastChangeNs : UInt64
  deriving DecidableEq, Repr

/-- `roadcast_signal_value_t`, with `physical` as its bit pattern. -/
structure SignalValue where
  raw : UInt64
  physical : UInt64
  firstObservedNs : UInt64
  lastChangeNs : UInt64
  state : ObservationState
  calibrated : UInt8
  deriving DecidableEq, Repr

/-- `roadcast_signal_update_t`. -/
structure SignalUpdate where
  index : UInt32
  value : SignalValue
  deriving DecidableEq, Repr

/-- `roadcast_header_t`. -/
structure Header where
  version : UInt16
  type : UInt16
  flags : UInt32
  payloadBytes : UInt32
  sequence : UInt64
  timestampNs : UInt64
  deriving DecidableEq, Repr

/-- One framed message: its header and the payload that follows it on the stream. -/
structure Message where
  header : Header
  payload : List UInt8
  deriving DecidableEq, Repr

/-- The message with another time in its header. -/
def Message.stamped (message : Message) (timestampNs : UInt64) : Message :=
  { message with header := { message.header with timestampNs := timestampNs } }

/-- Eight zero bytes, as `memset` leaves them. -/
def zeroData : FrameData := Vector.replicate 8 0

/-- A zeroed frame record. Zero is the code of the unavailable state. -/
def zeroFrame : Frame := ⟨0, .unavailable, zeroData, 0, 0⟩

/-- A zeroed signal record. -/
def zeroSignal : SignalValue := ⟨0, 0, 0, 0, .unavailable, 0⟩

end Roadcast
