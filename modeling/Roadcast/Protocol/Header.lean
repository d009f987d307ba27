import Roadcast.Protocol.Types

/-!
# Message framing

`roadcast_encode_header` and `roadcast_decode_header`. The decoder checks the magic number and
the global payload limit only; the version and the flags are left to its callers, which check
them in `process_command` and `read_message`.
-/

namespace Roadcast

open BigEndian

/-- `roadcast_encode_header`. -/
def encodeHeader (header : Header) : List UInt8 :=
  putU32 magic ++ (putU16 header.version ++ (putU16 header.type ++ (putU32 header.flags ++
    (putU32 header.payloadBytes ++ (putU64 header.sequence ++ putU64 header.timestampNs)))))

/-- `roadcast_decode_header`. -/
def decodeHeader (input : List UInt8) : Option Header :=
  if getU32 input ≠ magic then none
  else if (getU32 (input.drop 12)).toNat > maxPayload then none
  else some {
    version := getU16 (input.drop 4)
    type := getU16 (input.drop 6)
    flags := getU32 (input.drop 8)
    payloadBytes := getU32 (input.drop 12)
    sequence := getU64 (input.drop 16)
    timestampNs := getU64 (input.drop 24) }

/-- The bytes of a message as they go to the stream. -/
def Message.encode (message : Message) : List UInt8 :=
  encodeHeader message.header ++ message.payload

/-- A message is framed when its header announces the payload that follows it. -/
def Message.Framed (message : Message) : Prop :=
  message.header.payloadBytes.toNat = message.payload.length ∧ message.payload.length ≤ maxPayload

/-- A header has a fixed size. -/
@[simp] theorem encodeHeader_length (header : Header) :
    (encodeHeader header).length = headerSize := rfl

/-- A header within the payload limit is read back from the front of any stream. -/
theorem decodeHeader_encodeHeader (header : Header) (rest : List UInt8)
    (h : header.payloadBytes.toNat ≤ maxPayload) :
    decodeHeader (encodeHeader header ++ rest) = some header := by
  have h0 : getU32 (encodeHeader header ++ rest) = magic := by
    rw [encodeHeader, List.append_assoc, getU32_putU32]
  have h4 : getU16 ((encodeHeader header ++ rest).drop 4) = header.version :=
    getU16_putU16 header.version _
  have h6 : getU16 ((encodeHeader header ++ rest).drop 6) = header.type :=
    getU16_putU16 header.type _
  have h8 : getU32 ((encodeHeader header ++ rest).drop 8) = header.flags :=
    getU32_putU32 header.flags _
  have h12 : getU32 ((encodeHeader header ++ rest).drop 12) = header.payloadBytes :=
    getU32_putU32 header.payloadBytes _
  have h16 : getU64 ((encodeHeader header ++ rest).drop 16) = header.sequence :=
    getU64_putU64 header.sequence _
  have h24 : getU64 ((encodeHeader header ++ rest).drop 24) = header.timestampNs :=
    getU64_putU64 header.timestampNs _
  rw [decodeHeader, h0, h4, h6, h8, h12, h16, h24, if_neg (by simp), if_neg (by omega)]

/-- The decoder looks at the bytes of a header only. -/
theorem decodeHeader_take {input : List UInt8} {n : ℕ} (h : headerSize ≤ n) :
    decodeHeader (input.take n) = decodeHeader input := by
  rw [headerSize] at h
  simp (disch := omega) only [decodeHeader, List.drop_take, getU16_take, getU32_take, getU64_take]

/-- A header that has arrived does not change when more arrives. -/
theorem decodeHeader_append {input : List UInt8} (more : List UInt8)
    (h : headerSize ≤ input.length) : decodeHeader (input ++ more) = decodeHeader input := by
  rw [← decodeHeader_take le_rfl, List.take_append_of_le_length h, decodeHeader_take le_rfl]

end Roadcast
