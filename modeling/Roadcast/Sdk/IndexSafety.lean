import Roadcast.Sdk.Handling
import Roadcast.Sdk.Steps

/-!
# The SDK is safe against any server

Whatever bytes a server sends, the SDK meets no fault: no access leaves a buffer, no size underflows
and no index is cut when it is stored in `can_id_to_index`. One message keeps the memory following
the session, hence so does a stream. The readers are safe on every memory whose buffers have their
sizes, also after the session has failed. Each loop that requests pages ends because its index grows
with every response and stays below the announced count.
-/

namespace Roadcast

open Checked

namespace SdkMemory

variable {memory : SdkMemory} {sdk : Sdk} {message : Message}

/-- A failed session needs no content of the buffers. -/
theorem Sized.fail (h : memory.Sized) (hsdk : sdk.phase = .failed) : memory.fail.Follows sdk :=
  ⟨{ h with }, hsdk.symm, fun hne => absurd hsdk hne, by rw [hsdk]; trivial⟩

/-- A handler keeps the memory following the session. -/
theorem Follows.returns_handle (h : memory.Follows sdk) (hholds : memory.Holds message) :
    Returns (memory.handle message.header) (Outcome · (sdk.handle message)) := by
  have hcontent := h.content
  have hwaits := h.waits
  unfold SdkMemory.handle Sdk.handle
  rw [h.phase]
  cases hsdk : sdk.phase with
  | failed => exact .ok ⟨rfl, h.sized⟩
  | handshake =>
    rw [hsdk] at hcontent hwaits
    exact (hcontent nofun).returns_readWelcome hwaits hholds
  | schema next =>
    rw [hsdk] at hcontent hwaits
    exact (hcontent nofun).returns_readSchema hwaits hholds
  | frames next =>
    rw [hsdk] at hcontent hwaits
    exact (hcontent nofun).returns_readFramePage hwaits hholds
  | signals next =>
    rw [hsdk] at hcontent hwaits
    exact (hcontent nofun).returns_readSignalPage hwaits hholds
  | subscription =>
    rw [hsdk] at hcontent hwaits
    exact (hcontent nofun).returns_readSubscription hwaits (h.phase.trans hsdk) hsdk hholds
  | live =>
    rw [hsdk] at hcontent
    exact (hcontent nofun).returns_readLive (h.phase.trans hsdk) hsdk hholds

/-- Waiting does not depend on the bytes of earlier messages. -/
theorem Waits.setPayload {phase : Phase} (h : memory.Waits sdk phase) (payload : List UInt8) :
    ({ memory with payload := payload } : SdkMemory).Waits sdk phase := by
  cases phase with
  | frames next => exact ⟨h.1, { h.2 with }⟩
  | signals next => exact ⟨h.1, { h.2 with }⟩
  | subscription => exact { h with }
  | _ => exact h

/-- The session after a message whose payload may end early. -/
def received (sdk : Sdk) (message : Message) : Sdk :=
  if message.payload.length < message.header.payloadBytes.toNat then sdk.fail
  else sdk.receive message

/-- A failed session stays failed. -/
theorem received_failed (h : sdk.phase = .failed) (message : Message) :
    (received sdk message).phase = .failed := by
  unfold received
  split
  · rfl
  · exact Sdk.receive_failed h message

/-- One message, complete or not, keeps the memory following the session. -/
theorem Follows.returns_receive (h : memory.Follows sdk)
    (hframed : message.payload.length ≤ message.header.payloadBytes.toNat) :
    Returns (memory.receive message) (·.Follows (received sdk message)) := by
  have hcapacity := h.sized.payload
  unfold SdkMemory.receive
  by_cases hbad : message.header.version ≠ protocolVersion ∨ message.header.flags ≠ 0 ∨
      message.header.payloadBytes.toNat > memory.payloadCapacity
  · rw [if_pos hbad]
    refine .ok (h.sized.fail ?_)
    by_cases hfailed : sdk.phase = .failed
    · exact received_failed hfailed message
    · unfold received
      split
      · rfl
      · rw [(h.content hfailed).capacity] at hbad
        rw [Sdk.receive, if_pos hbad]
        rfl
  rw [if_neg hbad]
  simp only [not_or, not_lt] at hbad
  refine (returns_copy (by omega)).bind fun payload hpayload => ?_
  have hlength : payload.length = memory.payloadCapacity := by
    rw [hpayload, List.length_append, List.length_drop]
    omega
  have hsized : ({ memory with payload := payload } : SdkMemory).Sized :=
    { h.sized with payload := hlength }
  dsimp only
  split
  · rename_i hshort
    rw [received, if_pos hshort]
    exact .ok (hsized.fail rfl)
  rename_i hcomplete
  have hholds : ({ memory with payload := payload } : SdkMemory).Holds message := by
    refine ⟨by rw [hlength]; exact hbad.2.2, ?_⟩
    rw [hpayload, show message.header.payloadBytes.toNat = message.payload.length by omega,
      List.take_left]
  have hfollows : ({ memory with payload := payload } : SdkMemory).Follows sdk :=
    ⟨hsized, h.phase, fun hne => { h.content hne with sized := hsized }, h.waits.setPayload payload⟩
  rw [received, if_neg hcomplete]
  refine (hfollows.returns_handle hholds).bind ?_
  rintro ⟨accepted, memory'⟩ houtcome
  cases hhandled : sdk.handle message with
  | none =>
    rw [hhandled] at houtcome
    obtain ⟨rfl, hsized'⟩ := houtcome
    exact .ok (hsized'.fail (Sdk.receive_refused hhandled))
  | some sdk' =>
    rw [hhandled] at houtcome
    obtain ⟨rfl, hfollows'⟩ := houtcome
    have hne : sdk.phase ≠ .failed := by
      intro hfailed
      rw [Sdk.handle, hfailed] at hhandled
      contradiction
    have hgood : ¬(message.header.version ≠ protocolVersion ∨ message.header.flags ≠ 0 ∨
        message.header.payloadBytes.toNat > sdk.payloadCapacity) := by
      rw [← (h.content hne).capacity]
      simp only [not_or, not_lt]
      exact hbad
    rw [Sdk.receive, if_neg hgood, hhandled]
    exact .ok hfollows'

section Streams

variable {stream rest : List UInt8}

/-- A payload that is taken from a stream is at most as long as announced. -/
theorem takeMessage_framed (h : takeMessage stream = some (message, rest)) :
    message.payload.length ≤ message.header.payloadBytes.toNat := by
  unfold takeMessage at h
  split at h
  · contradiction
  obtain ⟨header, -, hpair⟩ := Option.map_eq_some_iff.mp h
  obtain ⟨rfl, -⟩ := Prod.mk.inj hpair
  exact List.length_take_le _ _

/-- The buffers follow a session that has sent `HELLO`. -/
theorem connect_follows : connect.Follows Sdk.connect := by
  have hphase : Sdk.connect.phase = .handshake := by decide
  have hsized : connect.Sized := by
    refine ⟨by decide, rfl, rfl, rfl, rfl, rfl, List.length_replicate, ?_, by decide⟩
    intro index hindex
    exact Or.inr (List.eq_of_mem_replicate hindex)
  refine ⟨hsized, hphase.symm, fun _ => ⟨hsized, rfl, rfl, ?_, ?_, rfl, rfl, rfl, ?_⟩, ?_⟩
  · decide
  · decide
  · show List.replicate canIdLookupCap noFrameIndex =
      (List.range canIdLookupCap).map fun _ => noFrameIndex
    rw [List.map_const', List.length_range]
  · rw [hphase]
    exact ⟨rfl, rfl, rfl⟩

/-- A stream keeps the memory following a session. -/
theorem Follows.returns_readStream (h : memory.Follows sdk) (fuel : ℕ) (stream : List UInt8) :
    Returns (readStream fuel stream memory) fun later => ∃ sdk', later.Follows sdk' := by
  induction fuel generalizing memory sdk stream with
  | zero => exact .ok ⟨sdk, h⟩
  | succ fuel ih =>
    unfold readStream
    split
    · exact .ok ⟨sdk, h⟩
    cases htake : takeMessage stream with
    | none => exact .ok ⟨sdk.fail, h.sized.fail rfl⟩
    | some taken =>
      obtain ⟨message, rest⟩ := taken
      exact (h.returns_receive (takeMessage_framed htake)).bind fun _ hnext => ih hnext rest

/-- A failed session reads nothing more. -/
theorem readStream_failed (h : memory.phase = .failed) (fuel : ℕ) (stream : List UInt8) :
    readStream fuel stream memory = .ok memory := by
  cases fuel with
  | zero => rfl
  | succ fuel => rw [readStream, if_pos h]

/-- Without a complete message the session ends. -/
theorem readStream_ended (hphase : memory.phase ≠ .failed) (htake : takeMessage stream = none)
    (fuel : ℕ) : readStream (fuel + 1) stream memory = .ok memory.fail := by
  rw [readStream, if_neg hphase, htake]

/-- The next message of the stream is handled before the rest of it. -/
theorem readStream_received {message : Message} {rest : List UInt8} (hphase : memory.phase ≠ .failed)
    (htake : takeMessage stream = some (message, rest)) (fuel : ℕ) :
    readStream (fuel + 1) stream memory = memory.receive message >>= readStream fuel rest := by
  rw [readStream, if_neg hphase, htake]

/-- Reading a stream can be interrupted after any number of messages. -/
theorem readStream_add (messages : ℕ) (stream : List UInt8) (memory : SdkMemory) :
    ∃ rest, ∀ fuel, readStream (messages + fuel) stream memory =
      readStream messages stream memory >>= readStream fuel rest := by
  induction messages generalizing stream memory with
  | zero => exact ⟨stream, fun fuel => by rw [Nat.zero_add]; rfl⟩
  | succ messages ih =>
    simp only [Nat.succ_add]
    unfold readStream
    by_cases hfailed : memory.phase = .failed
    · simp only [if_pos hfailed]
      exact ⟨stream, fun fuel => (readStream_failed hfailed fuel stream).symm⟩
    simp only [if_neg hfailed]
    cases takeMessage stream with
    | none => exact ⟨stream, fun fuel => (readStream_failed rfl fuel stream).symm⟩
    | some taken =>
      obtain ⟨message, rest⟩ := taken
      dsimp only
      cases memory.receive message with
      | error fault => exact ⟨rest, fun _ => rfl⟩
      | ok next => exact ih rest next

/-- A session that goes on has received a complete message. -/
theorem Follows.readStream_one (h : memory.Follows sdk) {later : SdkMemory}
    (hone : readStream 1 stream memory = .ok later) (hlater : later.phase ≠ .failed) :
    ∃ message rest, later.Follows (sdk.receive message) ∧
      ∀ fuel, readStream (fuel + 1) stream memory = readStream fuel rest later := by
  have hphase : memory.phase ≠ .failed := by
    intro hfailed
    rw [readStream_failed hfailed] at hone
    obtain rfl := Except.ok.inj hone
    exact hlater hfailed
  cases htake : takeMessage stream with
  | none =>
    rw [readStream_ended hphase htake] at hone
    obtain rfl := Except.ok.inj hone
    exact absurd rfl hlater
  | some taken =>
    obtain ⟨message, rest⟩ := taken
    have hstep := readStream_received hphase htake
    obtain ⟨next, hreceive, hnext⟩ := h.returns_receive (takeMessage_framed htake)
    rw [hreceive] at hstep
    rw [hstep] at hone
    obtain rfl := Except.ok.inj hone
    refine ⟨message, rest, ?_, hstep⟩
    unfold received at hnext
    split at hnext
    · exact absurd hnext.phase hlater
    · exact hnext

/-- A loop that requests pages has room for the responses that it has received. -/
theorem Follows.loop_lt (h : memory.Follows sdk) {loop : RequestLoop} {next responses : ℕ}
    (hphase : memory.phase = loop.phase next)
    (hloop : ∀ j ≤ responses, ∃ later next', readStream j stream memory = .ok later ∧
      later.phase = loop.phase next') :
    next + responses < loop.count memory.welcome := by
  induction responses generalizing memory sdk stream next with
  | zero =>
    have hwaits := h.waits
    have hcontent := h.content
    rw [← h.phase, hphase] at hwaits hcontent
    cases loop with
    | schema =>
      rw [(hcontent nofun).welcome]
      exact hwaits.1
    | frames =>
      rw [(hcontent nofun).welcome]
      exact hwaits.1
    | signals =>
      rw [(hcontent nofun).welcome]
      exact hwaits.1
  | succ responses ih =>
    obtain ⟨later, next', hone, hlater⟩ := hloop 1 (by omega)
    have hne (k : ℕ) : loop.phase k ≠ .failed := by cases loop <;> exact Phase.noConfusion
    obtain ⟨message, rest, hfollows, hrest⟩ := h.readStream_one hone (by rw [hlater]; exact hne _)
    have hsdk : sdk.phase = loop.phase next := h.phase.symm.trans hphase
    have hsdk' : (sdk.receive message).phase = loop.phase next' := hfollows.phase.symm.trans hlater
    obtain ⟨hgrows, hwelcome⟩ := Sdk.receive_loop hsdk hsdk'
    have hsame : later.welcome = memory.welcome := by
      rw [(hfollows.content (by rw [hsdk']; exact hne _)).welcome, hwelcome,
        (h.content (by rw [hsdk]; exact hne _)).welcome]
    have hnext := ih hfollows hlater fun j hj => by
      rw [← hrest j]
      exact hloop (j + 1) (by omega)
    rw [hsame] at hnext
    omega

end Streams

section Readers

/-- `roadcast_client_read_frame` stays inside the buffers. -/
theorem Sized.returns_readFrame (h : memory.Sized) (canId : UInt16) :
    Returns (memory.readFrame canId) fun _ => True := by
  have htable := h.table
  have hframes := h.frames
  unfold readFrame
  have hlookup : Returns (lookup memory.canIdToIndex canId) fun _ => True := by
    unfold lookup
    split
    · exact (returns_load (by omega)).imp fun _ _ => trivial
    · exact .ok trivial
  refine hlookup.bind fun target _ => ?_
  split
  · exact (returns_load (by omega)).bind fun _ _ => .ok trivial
  · exact .ok trivial

/-- `roadcast_client_read_signals` stays inside the buffers. -/
theorem Sized.returns_readSignals (h : memory.Sized) (indices : List UInt32) :
    Returns (memory.readSignals indices) fun _ => True := by
  have hsignals := h.signals
  induction indices with
  | nil => exact .ok trivial
  | cons index indices ih =>
    unfold readSignals
    split
    · exact .ok trivial
    · exact (returns_load (by omega)).bind fun _ _ => ih.bind fun _ _ => .ok trivial

/-- `roadcast_client_read_all` stays inside the buffers. -/
theorem Sized.returns_readAll (h : memory.Sized) (capacity : ℕ) :
    Returns (memory.readAll capacity) fun _ => True := by
  have hsignals := h.signals
  unfold readAll
  split
  · exact .ok trivial
  · exact (returns_slice (by omega)).bind fun _ _ => .ok trivial

/-- `roadcast_client_schema_at` stays inside the buffers. -/
theorem Sized.returns_schemaAt (h : memory.Sized) (index : UInt32) :
    Returns (memory.schemaAt index) fun _ => True := by
  have hschema := h.schema
  unfold schemaAt
  split
  · exact .ok trivial
  · exact (returns_load (by omega)).bind fun _ _ => .ok trivial

/-- A search of the schema stays inside it. -/
theorem Sized.returns_findEntry (h : memory.Sized) (found : SchemaEntry → Bool) (count i : ℕ)
    (hcount : i + count ≤ memory.welcome.signalCount.toNat) :
    Returns (memory.findEntry found count i) fun _ => True := by
  have hschema := h.schema
  induction count generalizing i with
  | zero => exact .ok trivial
  | succ count ih =>
    unfold findEntry
    refine (returns_load (by omega)).bind fun entry _ => ?_
    split
    · exact .ok trivial
    · exact ih (i + 1) (by omega)

/-- The functions that the application calls at any time. -/
structure Readable (memory : SdkMemory) : Prop where
  readFrame : ∀ canId, Returns (memory.readFrame canId) fun _ => True
  readSignals : ∀ indices, Returns (memory.readSignals indices) fun _ => True
  readAll : ∀ capacity, Returns (memory.readAll capacity) fun _ => True
  schemaAt : ∀ index, Returns (memory.schemaAt index) fun _ => True
  findSignal : ∀ name, Returns (memory.findSignal name) fun _ => True
  findSignalByStableId : ∀ stableId, Returns (memory.findSignalByStableId stableId) fun _ => True

/-- No reader leaves the buffers. -/
theorem Sized.readable (h : memory.Sized) : memory.Readable where
  readFrame := h.returns_readFrame
  readSignals := h.returns_readSignals
  readAll := h.returns_readAll
  schemaAt := h.returns_schemaAt
  findSignal _ := h.returns_findEntry _ _ 0 (Nat.zero_add _).le
  findSignalByStableId _ := h.returns_findEntry _ _ 0 (Nat.zero_add _).le

end Readers

/-- Any server, any number of messages: no access of the SDK or of a reader is a fault, the buffers
keep their sizes and `can_id_to_index` its bounds, and a loop that is still requesting pages has
received fewer responses than the announced count. -/
theorem readStream_safe (stream : List UInt8) (messages : ℕ) :
    ∃ memory, readStream messages stream connect = .ok memory ∧ memory.Sized ∧ memory.Readable ∧
      ∀ (loop : RequestLoop) (responses : ℕ),
        (∀ j ≤ responses, ∃ later next,
          readStream (messages + j) stream connect = .ok later ∧ later.phase = loop.phase next) →
        responses < loop.count memory.welcome := by
  obtain ⟨memory, hmemory, sdk, hfollows⟩ := connect_follows.returns_readStream messages stream
  refine ⟨memory, hmemory, hfollows.sized, hfollows.sized.readable, fun loop responses hloop => ?_⟩
  obtain ⟨rest, hrest⟩ := readStream_add messages stream connect
  rw [hmemory] at hrest
  obtain ⟨first, next, hfirst, hphase⟩ := hloop 0 (Nat.zero_le _)
  rw [hrest] at hfirst
  obtain rfl := Except.ok.inj hfirst
  have hlt := hfollows.loop_lt hphase fun j hj => by
    obtain ⟨later, next', hlater, hphase'⟩ := hloop j hj
    exact ⟨later, next', (hrest j).symm.trans hlater, hphase'⟩
  omega

/-- A server that announces one frame, one signal and the smallest response payload: the SDK waits
for the only page of the schema. -/
theorem readStream_safe_welcome :
    let stream := (outgoing .welcome 0 0 (encodeWelcome ⟨10, 1, 1, 8, 36, 3, 1, 0⟩)).encode
    ∃ memory, readStream 1 stream connect = .ok memory ∧ memory.phase = .schema 0 ∧
      memory.Sized ∧ 0 < RequestLoop.schema.count memory.welcome := by
  intro stream
  obtain ⟨memory, hmemory, hsized, -, hloop⟩ := readStream_safe stream 1
  have hphase : (readStream 1 stream connect).map (·.phase) = .ok (.schema 0) := by decide +kernel
  rw [hmemory] at hphase
  have hschema : memory.phase = .schema 0 := Except.ok.inj hphase
  refine ⟨memory, hmemory, hschema, hsized, hloop .schema 0 fun j hj => ?_⟩
  obtain rfl := Nat.le_zero.mp hj
  exact ⟨memory, 0, hmemory, hschema⟩

end SdkMemory

end Roadcast
