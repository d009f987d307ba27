import Roadcast.Sdk.Transport

/-!
# The blocking code of the SDK

`roadcast_client_connect` and `reader_thread_main` as the source has them: functions that send a
request, wait for the answer, and go on in loops. `Sdk` is the same code turned inside out, as a
machine that is handed one message after the other. Here the two are connected: whatever the kernel
answers, the blocking code reads messages from the front of the stream, is where the machine is after
them, holds what the machine holds, and has written the requests of the machine.

`request_frame_snapshot` enters the CAN IDs into the table that the readers use, before the session is
synchronized; a resynchronization that fails later leaves them there.
-/

namespace Roadcast

open Transfer

/-- `roadcast_client` without its buffers. -/
structure ClientRecord where
  welcome : Welcome
  payloadCapacity : ℕ
  schema : List SchemaEntry
  canIdToIndex : ℕ → UInt16
  cache : Synchronization
  droppedBatches : UInt64
  coalescedSamples : UInt64
  resynchronizations : UInt64
  effectiveHzMillihz : UInt32
  sourceState : SourceState
  connected : Bool

/-- The machine whose session has this record. -/
abbrev ClientRecord.machine (record : ClientRecord) (phase : Phase) (synchronization : Synchronization)
    (readerStarted : Bool) (sent : List Message) : Sdk :=
  { phase := phase
    welcome := record.welcome
    payloadCapacity := record.payloadCapacity
    schema := record.schema
    canIdToIndex := record.canIdToIndex
    synchronization := synchronization
    cache := record.cache
    droppedBatches := record.droppedBatches
    coalescedSamples := record.coalescedSamples
    resynchronizations := record.resynchronizations
    effectiveHzMillihz := record.effectiveHzMillihz
    sourceState := record.sourceState
    connected := record.connected
    readerStarted := readerStarted
    sent := sent }

section Machine

variable (record : ClientRecord) (phase : Phase) (synchronization : Synchronization)
  (readerStarted : Bool) (sent : List Message)

/-- A request that fits adds one message to those sent. -/
theorem ClientRecord.machine_request (type : MessageType) {payload : List UInt8}
    (hsize : payload.length ≤ record.welcome.maxRequestPayload.toNat) (next : Phase) :
    (record.machine phase synchronization readerStarted sent).request next type payload =
      record.machine next synchronization readerStarted (sent ++ [outgoing type 0 0 payload]) := by
  rw [Sdk.request, if_neg (Nat.not_lt.mpr hsize)]

end Machine

/-- The record of the session of a machine. -/
def Sdk.record (sdk : Sdk) : ClientRecord :=
  { welcome := sdk.welcome
    payloadCapacity := sdk.payloadCapacity
    schema := sdk.schema
    canIdToIndex := sdk.canIdToIndex
    cache := sdk.cache
    droppedBatches := sdk.droppedBatches
    coalescedSamples := sdk.coalescedSamples
    resynchronizations := sdk.resynchronizations
    effectiveHzMillihz := sdk.effectiveHzMillihz
    sourceState := sdk.sourceState
    connected := sdk.connected }

/-- A request and its answer. -/
def exchange (maxRequestPayload : UInt32) (payloadCapacity : ℕ) (type : MessageType)
    (payload : List UInt8) (deadlineNs : UInt64) (link : Link) : Outcome Link Message :=
  (sendMessage maxRequestPayload type payload deadlineNs link).bind fun _ link =>
    readMessage payloadCapacity deadlineNs link

/-- `perform_handshake`, before which a request may have eight bytes and an answer as many as
`WELCOME` has. -/
def performHandshake (deadlineNs : UInt64) (link : Link) : Outcome Link Welcome :=
  (exchange 8 welcomeSize .hello encodeHello deadlineNs link).bind fun message link =>
    if message.header.type ≠ MessageType.welcome.code then .failed .refused link
    else
      match decodeWelcome message.payload with
      | none => .failed .refused link
      | some welcome => if welcome.Supported then .ok welcome link else .failed .refused link

namespace ClientRecord

/-- A request within a session, and its answer. -/
def request (record : ClientRecord) (deadlineNs : UInt64) (type : MessageType)
    (payload : List UInt8) (link : Link) : Outcome Link Message :=
  exchange record.welcome.maxRequestPayload record.payloadCapacity type payload deadlineNs link

/-- `request_schema`, from an entry on. -/
def requestSchema (deadlineNs : UInt64) (record : ClientRecord) (next : ℕ) (link : Link) :
    Outcome Link ClientRecord :=
  if next < record.welcome.signalCount.toNat then
    (record.request deadlineNs .getSchema (encodeIndexRequest (UInt32.ofNat next)) link).bind
      fun message link =>
        if message.header.type ≠ MessageType.schemaChunk.code then .failed .refused link
        else
          match decodeSchemaChunk message.payload (record.welcome.signalCount.toNat - next) with
          | none => .failed .refused link
          | some chunk =>
            if chunk.schemaVersion ≠ record.welcome.schemaVersion ∨
                chunk.schemaHash ≠ record.welcome.schemaHash ∨
                chunk.totalCount ≠ record.welcome.signalCount ∨ chunk.startIndex.toNat ≠ next ∨
                chunk.entries = [] then .failed .refused link
            else
              requestSchema deadlineNs { record with schema := record.schema ++ chunk.entries }
                (next + chunk.entries.length) link
  else .ok record link
termination_by record.welcome.signalCount.toNat - next
decreasing_by
  have hentries : chunk.entries ≠ [] := by tauto
  have hlength := List.length_pos_of_ne_nil hentries
  omega

variable (record : ClientRecord) (deadlineNs : UInt64)

/-- The loop of `request_frame_snapshot`, from a frame on. -/
def requestFrameSnapshot (next : ℕ) (synchronization : Synchronization) (link : Link) :
    Outcome Link Synchronization :=
  if next < record.welcome.frameCount.toNat then
    (record.request deadlineNs .getSnapshot (encodeIndexRequest (UInt32.ofNat next)) link).bind
      fun message link =>
        if message.header.type ≠ MessageType.snapshot.code then .failed .refused link
        else
          match decodeFrameBatch message.payload (record.welcome.frameCount.toNat - next) with
          | none => .failed .refused link
          | some page =>
            if page.totalCount ≠ record.welcome.frameCount ∨ page.startIndex.toNat ≠ next ∨
                page.records = [] then .failed .refused link
            else if next ≠ 0 ∧ (page.sampleSequence ≠ synchronization.sampleSequence ∨
                message.header.sequence ≠ synchronization.changeSequence ∨
                message.header.timestampNs ≠ synchronization.sampleTimestampNs) then .failed .refused link
            else
              requestFrameSnapshot (next + page.records.length)
                (Sdk.placePage synchronization next message.header page) link
  else .ok synchronization link
termination_by record.welcome.frameCount.toNat - next
decreasing_by
  have hrecords : page.records ≠ [] := by tauto
  have hlength := List.length_pos_of_ne_nil hrecords
  omega

/-- `signal_scratch_capacity`. -/
def signalScratchCapacity : ℕ :=
  (record.welcome.maxResponsePayload.toNat - batchPrefixSize) / signalWireSize

/-- The loop of `request_signal_snapshot`, from a signal on. -/
def requestSignalSnapshot (next : ℕ) (synchronization : Synchronization) (link : Link) :
    Outcome Link Synchronization :=
  if next < record.welcome.signalCount.toNat then
    (record.request deadlineNs .getSignalSnapshot (encodeIndexRequest (UInt32.ofNat next)) link).bind
      fun message link =>
        if message.header.type ≠ MessageType.signalSnapshotChunk.code ∨
            message.header.sequence ≠ synchronization.changeSequence ∨
            message.header.timestampNs ≠ synchronization.sampleTimestampNs then .failed .refused link
        else
          match decodeSignalBatch message.payload record.signalScratchCapacity with
          | none => .failed .refused link
          | some page =>
            if page.sampleSequence ≠ synchronization.sampleSequence ∨
                page.totalCount ≠ record.welcome.signalCount ∨ page.startIndex.toNat ≠ next ∨
                page.records = [] then .failed .refused link
            else
              match placeSignals record.welcome.signalCount.toNat next page.records
                synchronization.signals with
              | none => .failed .refused link
              | some signals =>
                requestSignalSnapshot (next + page.records.length)
                  { synchronization with signals := signals } link
  else .ok synchronization link
termination_by record.welcome.signalCount.toNat - next
decreasing_by
  have hrecords : page.records ≠ [] := by tauto
  have hlength := List.length_pos_of_ne_nil hrecords
  omega

/-- `apply_frame_batch`. -/
def applyFrameBatch (synchronization : Synchronization) (message : Message) :
    Option Synchronization :=
  (record.machine .subscription synchronization false []).applyFrameBatch synchronization message

/-- `apply_signal_batch`. -/
def applySignalBatch (synchronization : Synchronization) (message : Message) :
    Option Synchronization :=
  (record.machine .subscription synchronization false []).applySignalBatch synchronization message

/-- The loop of `complete_subscription`. -/
def awaitSubscribed (synchronization : Synchronization) (link : Link) :
    Outcome Link Synchronization :=
  match _hread : readMessage record.payloadCapacity deadlineNs link with
  | .failed reason link => .failed reason link
  | .blocked link => .blocked link
  | .ok message link =>
    match MessageType.ofCode message.header.type with
    | some .subscribed =>
      .ok { synchronization with
        changeSequence := message.header.sequence
        sampleTimestampNs := message.header.timestampNs } link
    | some .updateBatch =>
      match record.applyFrameBatch synchronization message with
      | none => .failed .refused link
      | some synchronization => awaitSubscribed synchronization link
    | some .signalUpdateBatch =>
      match record.applySignalBatch synchronization message with
      | none => .failed .refused link
      | some synchronization => awaitSubscribed synchronization link
    | _ => .failed .refused link
termination_by link.unread.length
decreasing_by
  · exact (readMessage_ok _hread).2.2.2
  · exact (readMessage_ok _hread).2.2.2

/-- `complete_subscription`. -/
def completeSubscription (synchronization : Synchronization) (link : Link) :
    Outcome Link Synchronization :=
  (sendMessage record.welcome.maxRequestPayload .subscribeAll [] deadlineNs link).bind
    fun _ link => record.awaitSubscribed deadlineNs synchronization link

/-- The table with the CAN IDs of an array entered. -/
def indexCanIds (frames : ℕ → Frame) (table : ℕ → UInt16) : ℕ → UInt16 :=
  fillCanIdTable 0 ((List.range record.welcome.frameCount.toNat).map fun i => (frames i).canId) table

/-- The end of `request_frame_snapshot`: the CAN IDs are entered into the table of the client. -/
def enterCanIds (frames : ℕ → Frame) : ClientRecord :=
  { record with canIdToIndex := record.indexCanIds frames record.canIdToIndex }

/-- A call within a session that has this record. -/
def within {α : Type} (outcome : Outcome Link α) : Outcome (ClientRecord × Link) α :=
  match outcome with
  | .ok value link => .ok value (record, link)
  | .failed reason link => .failed reason (record, link)
  | .blocked link => .blocked (record, link)

/-- `synchronize`. -/
def synchronize (link : Link) : Outcome (ClientRecord × Link) Synchronization :=
  (record.within (record.requestFrameSnapshot deadlineNs 0 .zero link)).bind
    fun synchronization (record, link) =>
      let record := record.enterCanIds synchronization.frames
      (record.within (record.requestSignalSnapshot deadlineNs 0 synchronization link)).bind
        fun synchronization (record, link) =>
          record.within (record.completeSubscription deadlineNs synchronization link)

/-- `commit_synchronization`. -/
def commitSynchronization (synchronization : Synchronization) : ClientRecord :=
  { record with
    cache := synchronization
    canIdToIndex := record.indexCanIds synchronization.frames emptyCanIdTable
    connected := true }

/-- `mark_disconnected`. -/
def markDisconnected : ClientRecord := { record with connected := false }

end ClientRecord

/-! ## The machine beside the code -/

/-- The complete messages at the front of a stream, and what follows them. -/
def Takes : List UInt8 → List Message → List UInt8 → Prop
  | stream, [], rest => rest = stream
  | stream, message :: messages, rest => ∃ next,
    SdkMemory.takeMessage stream = some (message, next) ∧
      message.payload.length = message.header.payloadBytes.toNat ∧ Takes next messages rest

/-- Messages that are taken from a stream one after the other. -/
theorem Takes.append {first middle last : List UInt8} {messages more : List Message}
    (h : Takes first messages middle) (hmore : Takes middle more last) :
    Takes first (messages ++ more) last := by
  induction messages generalizing first with
  | nil => exact (show middle = first from h) ▸ hmore
  | cons message messages ih =>
    obtain ⟨next, htake, hframed, hrest⟩ := h
    exact ⟨next, htake, hframed, ih hrest⟩

/-- Bytes that are these requests, each with some time in its header. -/
def Carries (sent : List Message) (written : List UInt8) : Prop :=
  ∃ stamps : List UInt64, stamps.length = sent.length ∧
    written = (List.zipWith Message.stamped sent stamps).flatMap Message.encode

/-- A message that is written, with any time in its header. -/
theorem Carries.append {sent : List Message} {written : List UInt8} (h : Carries sent written)
    (message : Message) (timestampNs : UInt64) :
    Carries (sent ++ [message]) (written ++ (message.stamped timestampNs).encode) := by
  obtain ⟨stamps, hlength, rfl⟩ := h
  refine ⟨stamps ++ [timestampNs], by simp [hlength], ?_⟩
  rw [List.zipWith_append hlength.symm, List.flatMap_append]
  simp

/-- The front of bytes that are these requests. -/
def CarriesFront (sent : List Message) (written : List UInt8) : Prop :=
  ∃ rest, Carries sent (written ++ rest)

/-- Bytes that are these requests are their own front. -/
theorem Carries.front {sent : List Message} {written : List UInt8} (h : Carries sent written) :
    CarriesFront sent written :=
  ⟨[], (List.append_nil written).symm ▸ h⟩

/-- Requests that are still to be written. -/
theorem Carries.front_of_prefix {sent later : List Message} {written : List UInt8}
    (h : Carries sent written) (hlater : sent <+: later) : CarriesFront later written := by
  obtain ⟨stamps, hlength, rfl⟩ := h
  obtain ⟨more, rfl⟩ := hlater
  refine ⟨(List.zipWith Message.stamped more (List.replicate more.length 0)).flatMap Message.encode,
    stamps ++ List.replicate more.length 0, by simp [hlength], ?_⟩
  rw [List.zipWith_append hlength.symm, List.flatMap_append]

/-- How many of these messages the machine receives live. -/
def Sdk.liveReads (sdk : Sdk) : List Message → ℕ
  | [] => 0
  | message :: rest =>
    (if sdk.phase = .live then 1 else 0) + (sdk.receive message).liveReads rest

/-- The live messages of a stream, one part after the other. -/
theorem Sdk.liveReads_append (sdk : Sdk) (messages more : List Message) :
    sdk.liveReads (messages ++ more) =
      sdk.liveReads messages + (messages.foldl Sdk.receive sdk).liveReads more := by
  induction messages generalizing sdk with
  | nil => exact (Nat.zero_add _).symm
  | cons message messages ih =>
    rw [List.cons_append, Sdk.liveReads, Sdk.liveReads, ih, Nat.add_assoc]
    rfl

/-- The machine fails with the next message, unless there is only a header that is not one of the
protocol. -/
def Sdk.Refuses (sdk : Sdk) (stream : List UInt8) : Prop :=
  headerSize ≤ stream.length ∧ ∀ message rest,
    SdkMemory.takeMessage stream = some (message, rest) → (sdk.receive message).phase = .failed

/-- What the code comes to, from a link and the machine at this point: the machine has received the
messages that the code has read, none of them live. A call that has failed or is blocked may have
read the next message or the front of it, and has written at most the requests of the machine. If a
check has failed, so does the machine. -/
def Outcome.Meets {S α : Type} (linkOf : S → Link) (stays : S → Sdk → Prop)
    (leaves : α → S → Sdk → Prop) (link : Link) (sdk : Sdk) : Outcome S α → Prop
  | .ok value state => ∃ messages, Takes link.unread messages (linkOf state).unread ∧
    sdk.liveReads messages = 0 ∧ leaves value state (messages.foldl Sdk.receive sdk)
  | .failed reason state => ∃ messages rest, Takes link.unread messages rest ∧
    CarriesFront (messages.foldl Sdk.receive sdk).sent (linkOf state).written ∧
    (reason = .refused → (messages.foldl Sdk.receive sdk).Refuses rest) ∧
    stays state (messages.foldl Sdk.receive sdk)
  | .blocked state => ∃ messages rest, Takes link.unread messages rest ∧
    CarriesFront (messages.foldl Sdk.receive sdk).sent (linkOf state).written ∧
    stays state (messages.foldl Sdk.receive sdk)

/-- What the code comes to with a message, beside what the machine makes of it. -/
def Outcome.Answers {α : Type} (stays : Link → Sdk → Prop) (leaves : α → Link → Sdk → Prop)
    (link : Link) (outcome : Outcome Link α) : Option Sdk → Prop
  | none => outcome = .failed .refused link
  | some sdk => outcome.Meets id stays leaves link sdk

section Rules

variable {S α β : Type} {linkOf : S → Link} {stays stays' : S → Sdk → Prop}
  {leaves : α → S → Sdk → Prop} {leaves' : β → S → Sdk → Prop} {link after : Link} {sdk : Sdk}

/-- What the code comes to after some messages. -/
theorem Outcome.Meets.onward {outcome : Outcome S α} {messages : List Message}
    (htakes : Takes link.unread messages after.unread) (hbefore : sdk.liveReads messages = 0)
    (h : outcome.Meets linkOf stays leaves after (messages.foldl Sdk.receive sdk)) :
    outcome.Meets linkOf stays leaves link sdk := by
  cases outcome with
  | ok value state =>
    obtain ⟨more, hmore, hlater, hleaves⟩ := h
    refine ⟨messages ++ more, htakes.append hmore, ?_, ?_⟩
    · rw [Sdk.liveReads_append, hbefore, hlater]
    · rw [List.foldl_append]
      exact hleaves
  | failed reason state =>
    obtain ⟨more, rest, hmore, hstays⟩ := h
    exact ⟨messages ++ more, rest, htakes.append hmore, by rw [List.foldl_append]; exact hstays⟩
  | blocked state =>
    obtain ⟨more, rest, hmore, hstays⟩ := h
    exact ⟨messages ++ more, rest, htakes.append hmore, by rw [List.foldl_append]; exact hstays⟩

/-- An outcome meets every weaker description. -/
theorem Outcome.Meets.imp {outcome : Outcome S α} {leaves' : α → S → Sdk → Prop}
    (h : outcome.Meets linkOf stays leaves link sdk)
    (hstays : ∀ state sdk, stays state sdk → stays' state sdk)
    (hleaves : ∀ value state sdk, leaves value state sdk → leaves' value state sdk) :
    outcome.Meets linkOf stays' leaves' link sdk := by
  cases outcome with
  | ok value state =>
    obtain ⟨messages, htakes, hbefore, hleft⟩ := h
    exact ⟨messages, htakes, hbefore, hleaves _ _ _ hleft⟩
  | failed reason state =>
    obtain ⟨messages, rest, htakes, hcarries, hrefused, hstayed⟩ := h
    exact ⟨messages, rest, htakes, hcarries, hrefused, hstays _ _ hstayed⟩
  | blocked state =>
    obtain ⟨messages, rest, htakes, hcarries, hstayed⟩ := h
    exact ⟨messages, rest, htakes, hcarries, hstays _ _ hstayed⟩

/-- One call after the other. -/
theorem Outcome.Meets.bind {first : Outcome S α} {next : α → S → Outcome S β}
    (h : first.Meets linkOf stays leaves link sdk)
    (hstays : ∀ state sdk, stays state sdk → stays' state sdk)
    (hnext : ∀ value state sdk, leaves value state sdk →
      (next value state).Meets linkOf stays' leaves' (linkOf state) sdk) :
    (first.bind next).Meets linkOf stays' leaves' link sdk := by
  cases first with
  | failed reason state =>
    obtain ⟨messages, rest, htakes, hcarries, hrefused, hstayed⟩ := h
    exact ⟨messages, rest, htakes, hcarries, hrefused, hstays _ _ hstayed⟩
  | blocked state =>
    obtain ⟨messages, rest, htakes, hcarries, hstayed⟩ := h
    exact ⟨messages, rest, htakes, hcarries, hstays _ _ hstayed⟩
  | ok value state =>
    obtain ⟨messages, htakes, hbefore, hleaves⟩ := h
    exact (hnext value state _ hleaves).onward htakes hbefore

/-- A request of the machine. -/
theorem meets_send {stays : Link → Sdk → Prop} {phase : Phase} {type : MessageType}
    {payload : List UInt8} (deadlineNs : UInt64)
    (hsize : payload.length ≤ sdk.welcome.maxRequestPayload.toNat)
    (hcarries : Carries sdk.sent link.written)
    (hstays : ∀ after, stays after (sdk.request phase type payload)) :
    (sendMessage sdk.welcome.maxRequestPayload type payload deadlineNs link).Meets id stays
      (fun _ after sdk' => sdk' = sdk.request phase type payload ∧ Carries sdk'.sent after.written)
      link (sdk.request phase type payload) := by
  have hsent : (sdk.request phase type payload).sent = sdk.sent ++ [outgoing type 0 0 payload] := by
    rw [Sdk.request_eq hsize]
  have hwhole : Carries (sdk.request phase type payload).sent
      (link.written ++ (outgoing type 0 (link.clock 1) payload).encode) := by
    rw [hsent]
    exact hcarries.append (outgoing type 0 0 payload) (link.clock 1)
  have hpart {after : Link} (h : ∃ front, front <+: (outgoing type 0 (link.clock 1) payload).encode ∧
      after.written = link.written ++ front) :
      CarriesFront (sdk.request phase type payload).sent after.written := by
    obtain ⟨front, ⟨rest, hrest⟩, hwritten⟩ := h
    exact ⟨rest, by rw [hwritten, List.append_assoc, hrest]; exact hwhole⟩
  have hwrites : (sendMessage sdk.welcome.maxRequestPayload type payload deadlineNs link).Writes link
      (outgoing type 0 (link.clock 1) payload).encode := sendMessage_writes hsize
  cases houtcome : sendMessage sdk.welcome.maxRequestPayload type payload deadlineNs link with
  | ok value after =>
    rw [houtcome] at hwrites
    obtain ⟨hwritten, hunread⟩ := hwrites
    exact ⟨[], hunread, rfl, rfl, hwritten ▸ hwhole⟩
  | failed reason after =>
    rw [houtcome] at hwrites
    exact ⟨[], _, rfl, hpart hwrites.2, fun h => absurd h hwrites.1, hstays after⟩
  | blocked after =>
    rw [houtcome] at hwrites
    exact ⟨[], _, rfl, hpart hwrites, hstays after⟩

/-- Before the session is live, a refused message only ends it. -/
theorem Sdk.refuse_of_ne_live {message : Message} (hwaits : sdk.phase ≠ .live) :
    sdk.refuse message = sdk.fail := by
  unfold Sdk.refuse
  split
  · contradiction
  · contradiction
  · rfl

/-- A message that ends the session is refused with the stream that it is taken from. -/
theorem Sdk.refuses_of_takeMessage {message : Message} {stream rest : List UInt8}
    (htake : SdkMemory.takeMessage stream = some (message, rest))
    (hfailed : (sdk.receive message).phase = .failed) : sdk.Refuses stream := by
  refine ⟨?_, fun message' rest' htake' => ?_⟩
  · rw [SdkMemory.takeMessage] at htake
    by_contra hshort
    rw [if_pos (Nat.lt_of_not_le hshort)] at htake
    contradiction
  · rw [htake] at htake'
    obtain ⟨rfl, rfl⟩ := Prod.mk.inj (Option.some.inj htake')
    exact hfailed

/-- A message that `read_message` refuses ends the session. -/
theorem Sdk.refuses_of_readMessage {deadlineNs : UInt64}
    (h : readMessage sdk.payloadCapacity deadlineNs link = .failed .refused after) :
    sdk.Refuses link.unread := by
  obtain ⟨hlength, hchecks⟩ := readMessage_refused h
  refine ⟨hlength, fun message rest htake => ?_⟩
  rw [Sdk.receive, if_pos (hchecks message rest htake)]
  rfl

/-- A check that both make. -/
theorem Outcome.answers_ite {stays : Link → Sdk → Prop} {leaves : α → Link → Sdk → Prop} {c : Prop}
    [Decidable c] {checked : Outcome Link α} {handled : Option Sdk}
    (h : ¬c → checked.Answers stays leaves link handled) :
    (if c then .failed .refused link else checked).Answers stays leaves link
      (if c then none else handled) := by
  by_cases hc : c
  · rw [if_pos hc, if_pos hc]
    rfl
  · rw [if_neg hc, if_neg hc]
    exact h hc

/-- A message that the machine waits for. The code refuses it, or goes on where the machine is then. -/
theorem meets_read {stays : Link → Sdk → Prop} {leaves : α → Link → Sdk → Prop} (deadlineNs : UInt64)
    {body : Message → Link → Outcome Link α} (hwaits : sdk.phase ≠ .live)
    (hcarries : Carries sdk.sent link.written) (hstays : ∀ after, stays after sdk)
    (hbody : ∀ message after,
      readMessage sdk.payloadCapacity deadlineNs link = .ok message after →
      Carries sdk.sent after.written →
      (body message after).Answers stays leaves after (sdk.handle message)) :
    ((readMessage sdk.payloadCapacity deadlineNs link).bind body).Meets id stays leaves link sdk := by
  have hwritten := readMessage_written sdk.payloadCapacity deadlineNs link
  cases hread : readMessage sdk.payloadCapacity deadlineNs link with
  | failed reason after =>
    rw [hread] at hwritten
    refine ⟨[], _, rfl, hwritten ▸ hcarries.front, ?_, hstays after⟩
    rintro rfl
    exact Sdk.refuses_of_readMessage hread
  | blocked after =>
    rw [hread] at hwritten
    exact ⟨[], _, rfl, hwritten ▸ hcarries.front, hstays after⟩
  | ok message after =>
    rw [hread] at hwritten
    have hafter : Carries sdk.sent after.written := hwritten ▸ hcarries
    obtain ⟨htake, hframed, hchecks, -⟩ := readMessage_ok hread
    have hreceive : sdk.receive message = (sdk.handle message).getD (sdk.refuse message) := by
      rw [Sdk.receive, if_neg hchecks]
    have hanswers := hbody message after hread hafter
    rw [Outcome.bind]
    cases hhandle : sdk.handle message with
    | none =>
      rw [hhandle] at hanswers hreceive
      rw [show body message after = .failed .refused after from hanswers]
      have hfailed : (sdk.receive message).phase = .failed := by
        rw [hreceive, Option.getD_none, Sdk.refuse_of_ne_live hwaits]
        rfl
      exact ⟨[], _, rfl, hafter.front, fun _ => Sdk.refuses_of_takeMessage htake hfailed,
        hstays after⟩
    | some sdk' =>
      rw [hhandle] at hanswers hreceive
      have htakes : Takes link.unread [message] after.unread := ⟨_, htake, hframed, rfl⟩
      have hbefore : sdk.liveReads [message] = 0 := by rw [Sdk.liveReads, if_neg hwaits]; rfl
      have hmeets : (body message after).Meets id stays leaves after (sdk.receive message) := by
        rw [hreceive]
        exact hanswers
      exact hmeets.onward htakes hbefore

/-- A request of the machine and its answer. -/
theorem meets_exchange {stays : Link → Sdk → Prop} {leaves : α → Link → Sdk → Prop} {phase : Phase}
    {type : MessageType} {payload : List UInt8} (deadlineNs : UInt64)
    {body : Message → Link → Outcome Link α}
    (hwaits : phase ≠ .live) (hsize : payload.length ≤ sdk.welcome.maxRequestPayload.toNat)
    (hcarries : Carries sdk.sent link.written)
    (hstays : ∀ after, stays after (sdk.request phase type payload))
    (hbody : ∀ message after, Carries (sdk.request phase type payload).sent after.written →
      (body message after).Answers stays leaves after
        ((sdk.request phase type payload).handle message)) :
    ((exchange sdk.welcome.maxRequestPayload sdk.payloadCapacity type payload deadlineNs link).bind
      body).Meets id stays leaves link (sdk.request phase type payload) := by
  rw [exchange, Outcome.bind_assoc]
  refine (meets_send deadlineNs hsize hcarries hstays).bind (fun _ _ h => h) ?_
  rintro - after sdk' ⟨rfl, hafter⟩
  have hcapacity : sdk.payloadCapacity = (sdk.request phase type payload).payloadCapacity := by
    rw [Sdk.request_eq hsize]
  have hphase : (sdk.request phase type payload).phase ≠ .live := by
    rw [Sdk.request_eq hsize]
    exact hwaits
  rw [hcapacity]
  exact meets_read deadlineNs hphase hafter hstays fun message last _ => hbody message last

end Rules

/-- The record that `roadcast_client_connect` begins with. -/
def ClientRecord.initial : ClientRecord := Sdk.connect.record

/-- The record of a client that has been welcomed, with its buffers. -/
def ClientRecord.welcomed (welcome : Welcome) : ClientRecord :=
  { ClientRecord.initial with
    welcome := welcome
    payloadCapacity := welcome.maxResponsePayload.toNat }

section Setup

variable {link : Link}

/-- The handshake: the machine waits for `WELCOME`, and then goes on with the schema. -/
theorem performHandshake_meets (deadlineNs : UInt64) (hcarries : Carries [] link.written) :
    (performHandshake deadlineNs link).Meets id (fun _ sdk => sdk.phase = .handshake)
      (fun welcome after sdk => welcome.Supported ∧ ∃ sent, Carries sent after.written ∧
        sdk = ((ClientRecord.welcomed welcome).machine .handshake .zero false sent).requestSchema 0)
      link Sdk.connect := by
  have hconnect : Sdk.connect =
      (ClientRecord.initial.machine .handshake .zero false []).request .handshake .hello
        encodeHello := rfl
  have hphase : Sdk.connect.phase = .handshake := by decide
  rw [hconnect]
  refine meets_exchange deadlineNs (by decide) (by decide) hcarries (fun _ => hphase) ?_
  intro message after hafter
  rw [← hconnect] at hafter ⊢
  simp only [Sdk.handle, hphase, Sdk.readWelcome]
  refine Outcome.answers_ite fun _ => ?_
  cases hdecode : decodeWelcome message.payload with
  | none => rfl
  | some welcome =>
    dsimp only
    by_cases hsupported : welcome.Supported
    · rw [if_pos hsupported, if_pos hsupported]
      exact ⟨[], rfl, rfl, hsupported, _, hafter, rfl⟩
    · rw [if_neg hsupported, if_neg hsupported]
      rfl

/-- Index requests fit what every supported daemon accepts. -/
theorem request_fits {record : ClientRecord} (hrequest : 8 ≤ record.welcome.maxRequestPayload.toNat)
    (index : UInt32) :
    (encodeIndexRequest index).length ≤ record.welcome.maxRequestPayload.toNat := by
  rw [encodeIndexRequest_length, schemaRequestSize]
  omega

/-- A request of the machine within a session, and its answer. -/
theorem ClientRecord.meets_request {α : Type} {stays : Link → Sdk → Prop}
    {leaves : α → Link → Sdk → Prop} {record : ClientRecord} {phase next : Phase}
    {synchronization : Synchronization} {readerStarted : Bool} {sent : List Message}
    {type : MessageType} {payload : List UInt8} (deadlineNs : UInt64)
    {body : Message → Link → Outcome Link α} (hwaits : next ≠ .live)
    (hsize : payload.length ≤ record.welcome.maxRequestPayload.toNat)
    (hcarries : Carries sent link.written)
    (hstays : ∀ after, stays after (record.machine next synchronization readerStarted
      (sent ++ [outgoing type 0 0 payload])))
    (hbody : ∀ message after, Carries (sent ++ [outgoing type 0 0 payload]) after.written →
      (body message after).Answers stays leaves after
        ((record.machine next synchronization readerStarted
          (sent ++ [outgoing type 0 0 payload])).handle message)) :
    ((record.request deadlineNs type payload link).bind body).Meets id stays leaves link
      ((record.machine phase synchronization readerStarted sent).request next type payload) := by
  have hmachine := record.machine_request phase synchronization readerStarted sent type hsize next
  refine meets_exchange deadlineNs hwaits hsize hcarries (hmachine ▸ hstays) ?_
  rw [hmachine]
  exact hbody

/-- The loop over the schema: the machine waits for the same chunks, and then synchronizes. -/
theorem requestSchema_meets (deadlineNs : UInt64) (record : ClientRecord)
    (hrequest : 8 ≤ record.welcome.maxRequestPayload.toNat) (next : ℕ) (phase : Phase)
    (sent : List Message) (hcarries : Carries sent link.written) :
    (ClientRecord.requestSchema deadlineNs record next link).Meets id
      (fun _ sdk => ∃ next, sdk.phase = .schema next)
      (fun record' after sdk => record'.welcome = record.welcome ∧
        ∃ phase sent, Carries sent after.written ∧
          sdk = (record'.machine phase .zero false sent).synchronize)
      link ((record.machine phase .zero false sent).requestSchema next) := by
  -- every chunk has an entry, so that less is left
  induction hleft : record.welcome.signalCount.toNat - next using Nat.strongRecOn
    generalizing record next phase sent link with
  | ind left ih =>
    unfold ClientRecord.requestSchema Sdk.requestSchema
    by_cases hnext : next < record.welcome.signalCount.toNat
    · rw [if_pos hnext, if_pos hnext]
      refine ClientRecord.meets_request deadlineNs (by simp) (request_fits hrequest _) hcarries
        (fun _ => ⟨next, rfl⟩) ?_
      intro message after hafter
      simp only [Sdk.handle, Sdk.readSchema]
      refine Outcome.answers_ite fun _ => ?_
      cases hdecode : decodeSchemaChunk message.payload
        (record.welcome.signalCount.toNat - next) with
      | none => rfl
      | some chunk =>
        refine Outcome.answers_ite fun hchecks => ?_
        have hentries : chunk.entries ≠ [] := fun h => hchecks (by simp [h])
        have hlength := List.length_pos_of_ne_nil hentries
        have hless : record.welcome.signalCount.toNat - (next + chunk.entries.length) < left := by
          omega
        exact ih _ hless { record with schema := record.schema ++ chunk.entries } hrequest
          (next + chunk.entries.length) (.schema next) _ hafter rfl
    · rw [if_neg hnext, if_neg hnext]
      exact ⟨[], rfl, rfl, rfl, phase, sent, hcarries, rfl⟩

variable (deadlineNs : UInt64) (record : ClientRecord) (readerStarted : Bool)

/-- The loop over the frame pages: the machine waits for the same pages, and then goes on with the
signals. -/
theorem requestFrameSnapshot_meets (hrequest : 8 ≤ record.welcome.maxRequestPayload.toNat) (next : ℕ)
    (synchronization : Synchronization) (phase : Phase) (sent : List Message)
    (hcarries : Carries sent link.written) :
    (record.requestFrameSnapshot deadlineNs next synchronization link).Meets id
      (fun _ sdk => sdk.record = record ∧ ∃ next, sdk.phase = .frames next)
      (fun synchronization after sdk => ∃ phase sent, Carries sent after.written ∧
        sdk = ((record.enterCanIds synchronization.frames).machine phase synchronization readerStarted
          sent).requestSignals 0)
      link ((record.machine phase synchronization readerStarted sent).requestFrames next) := by
  induction hleft : record.welcome.frameCount.toNat - next using Nat.strongRecOn
    generalizing next synchronization phase sent link with
  | ind left ih =>
    unfold ClientRecord.requestFrameSnapshot Sdk.requestFrames
    by_cases hnext : next < record.welcome.frameCount.toNat
    · rw [if_pos hnext, if_pos hnext]
      refine ClientRecord.meets_request deadlineNs (by simp) (request_fits hrequest _) hcarries
        (fun _ => ⟨rfl, next, rfl⟩) ?_
      intro message after hafter
      simp only [Sdk.handle, Sdk.readFramePage]
      refine Outcome.answers_ite fun _ => ?_
      cases hdecode : decodeFrameBatch message.payload
        (record.welcome.frameCount.toNat - next) with
      | none => rfl
      | some page =>
        refine Outcome.answers_ite fun hchecks => Outcome.answers_ite fun _ => ?_
        have hrecords : page.records ≠ [] := fun h => hchecks (by simp [h])
        have hlength := List.length_pos_of_ne_nil hrecords
        have hless : record.welcome.frameCount.toNat - (next + page.records.length) < left := by
          omega
        exact ih _ hless (next + page.records.length)
          (Sdk.placePage synchronization next message.header page) (.frames next) _ hafter rfl
    · rw [if_neg hnext, if_neg hnext]
      exact ⟨[], rfl, rfl, phase, sent, hcarries, rfl⟩

/-- The loop over the signal pages: the machine waits for the same pages, and then subscribes. -/
theorem requestSignalSnapshot_meets (hrequest : 8 ≤ record.welcome.maxRequestPayload.toNat) (next : ℕ)
    (synchronization : Synchronization) (phase : Phase) (sent : List Message)
    (hcarries : Carries sent link.written) :
    (record.requestSignalSnapshot deadlineNs next synchronization link).Meets id
      (fun _ sdk => sdk.record = record ∧ ∃ next, sdk.phase = .signals next)
      (fun synchronization after sdk => ∃ phase sent, Carries sent after.written ∧
        sdk = (record.machine phase synchronization readerStarted sent).request .subscription
          .subscribeAll [])
      link ((record.machine phase synchronization readerStarted sent).requestSignals next) := by
  induction hleft : record.welcome.signalCount.toNat - next using Nat.strongRecOn
    generalizing next synchronization phase sent link with
  | ind left ih =>
    unfold ClientRecord.requestSignalSnapshot Sdk.requestSignals
    by_cases hnext : next < record.welcome.signalCount.toNat
    · rw [if_pos hnext, if_pos hnext]
      refine ClientRecord.meets_request deadlineNs (by simp) (request_fits hrequest _) hcarries
        (fun _ => ⟨rfl, next, rfl⟩) ?_
      intro message after hafter
      simp only [Sdk.handle, Sdk.readSignalPage]
      refine Outcome.answers_ite fun _ => ?_
      have hcapacity : (record.machine (.signals next) synchronization readerStarted
          (sent ++ [outgoing .getSignalSnapshot 0 0
            (encodeIndexRequest (UInt32.ofNat next))])).signalScratchCapacity =
          record.signalScratchCapacity := rfl
      rw [hcapacity]
      cases hdecode : decodeSignalBatch message.payload record.signalScratchCapacity with
      | none => rfl
      | some page =>
        refine Outcome.answers_ite fun hchecks => ?_
        cases hplace : placeSignals record.welcome.signalCount.toNat next page.records
          synchronization.signals with
        | none => rfl
        | some signals =>
          have hrecords : page.records ≠ [] := fun h => hchecks (by simp [h])
          have hlength := List.length_pos_of_ne_nil hrecords
          have hless : record.welcome.signalCount.toNat - (next + page.records.length) < left := by
            omega
          exact ih _ hless (next + page.records.length)
            { synchronization with signals := signals } (.signals next) _ hafter rfl
    · rw [if_neg hnext, if_neg hnext]
      exact ⟨[], rfl, rfl, phase, sent, hcarries, rfl⟩

/-- One round of the loop of `complete_subscription`. -/
theorem awaitSubscribed_eq (synchronization : Synchronization) (link : Link) :
    record.awaitSubscribed deadlineNs synchronization link =
      (readMessage record.payloadCapacity deadlineNs link).bind fun message link =>
        match MessageType.ofCode message.header.type with
        | some .subscribed =>
          .ok { synchronization with
            changeSequence := message.header.sequence
            sampleTimestampNs := message.header.timestampNs } link
        | some .updateBatch =>
          match record.applyFrameBatch synchronization message with
          | none => .failed .refused link
          | some synchronization => record.awaitSubscribed deadlineNs synchronization link
        | some .signalUpdateBatch =>
          match record.applySignalBatch synchronization message with
          | none => .failed .refused link
          | some synchronization => record.awaitSubscribed deadlineNs synchronization link
        | _ => .failed .refused link := by
  rw [ClientRecord.awaitSubscribed]
  split
  · rename_i hread
    rw [hread]
    rfl
  · rename_i hread
    rw [hread]
    rfl
  · rename_i hread
    rw [hread]
    rfl

/-- Until `SUBSCRIBED` the machine applies the same batches. -/
theorem awaitSubscribed_meets (synchronization : Synchronization) (sent : List Message)
    (hcarries : Carries sent link.written) :
    (record.awaitSubscribed deadlineNs synchronization link).Meets id
      (fun _ sdk => sdk.record = record ∧ sdk.phase = .subscription)
      (fun synchronization after sdk => Carries sent after.written ∧ ∃ applied,
        sdk = (record.machine .subscription applied readerStarted sent).commit synchronization)
      link (record.machine .subscription synchronization readerStarted sent) := by
  -- every message leaves less to read
  induction hleft : link.unread.length using Nat.strongRecOn generalizing synchronization link with
  | ind left ih =>
    rw [awaitSubscribed_eq]
    refine meets_read deadlineNs (by simp) hcarries (fun _ => ⟨rfl, rfl⟩) ?_
    intro message after hread hafter
    have hless : after.unread.length < left := hleft ▸ (readMessage_ok hread).2.2.2
    simp only [Sdk.handle, Sdk.readSubscription]
    have hframes : (record.machine .subscription synchronization readerStarted sent).applyFrameBatch
        synchronization message = record.applyFrameBatch synchronization message := rfl
    have hsignals : (record.machine .subscription synchronization readerStarted sent).applySignalBatch
        synchronization message = record.applySignalBatch synchronization message := rfl
    rw [hframes, hsignals]
    cases MessageType.ofCode message.header.type with
    | none => rfl
    | some type =>
      cases type with
      | subscribed => exact ⟨[], rfl, rfl, hafter, synchronization, rfl⟩
      | updateBatch =>
        dsimp only
        cases happlied : record.applyFrameBatch synchronization message with
        | none => rfl
        | some applied => exact ih _ hless applied hafter rfl
      | signalUpdateBatch =>
        dsimp only
        cases happlied : record.applySignalBatch synchronization message with
        | none => rfl
        | some applied => exact ih _ hless applied hafter rfl
      | _ => rfl

/-- `complete_subscription`: the machine subscribes and commits. -/
theorem completeSubscription_meets (synchronization : Synchronization) (phase : Phase)
    (sent : List Message) (hcarries : Carries sent link.written) :
    (record.completeSubscription deadlineNs synchronization link).Meets id
      (fun _ sdk => sdk.record = record ∧ sdk.phase = .subscription)
      (fun synchronization after sdk => ∃ applied sent, Carries sent after.written ∧
        sdk = (record.machine .subscription applied readerStarted sent).commit synchronization)
      link ((record.machine phase synchronization readerStarted sent).request .subscription
        .subscribeAll []) := by
  have hsize : ([] : List UInt8).length ≤ record.welcome.maxRequestPayload.toNat := Nat.zero_le _
  have hmachine := record.machine_request phase synchronization readerStarted sent .subscribeAll
    hsize .subscription
  refine (meets_send deadlineNs hsize hcarries fun _ => ?_).bind (fun _ _ h => h) ?_
  · rw [hmachine]
    exact ⟨rfl, rfl⟩
  rintro - after sdk ⟨rfl, hafter⟩
  rw [hmachine] at hafter ⊢
  refine (awaitSubscribed_meets deadlineNs record readerStarted synchronization _ hafter).imp
    (fun _ _ h => h) ?_
  rintro committed last sdk ⟨hlast, applied, hsdk⟩
  exact ⟨applied, _, hlast, hsdk⟩

variable {record} in
/-- What does not touch the client record meets its description with the record unchanged. -/
theorem ClientRecord.within_meets {α : Type} {stays : Link → Sdk → Prop}
    {leaves : α → Link → Sdk → Prop} {outcome : Outcome Link α} {sdk : Sdk}
    (h : outcome.Meets id stays leaves link sdk) :
    (record.within outcome).Meets Prod.snd (fun state sdk => state.1 = record ∧ stays state.2 sdk)
      (fun value state sdk => state.1 = record ∧ leaves value state.2 sdk) link sdk := by
  cases outcome with
  | ok value after =>
    obtain ⟨messages, htakes, hbefore, hleaves⟩ := h
    exact ⟨messages, htakes, hbefore, rfl, hleaves⟩
  | failed reason after =>
    obtain ⟨messages, rest, htakes, hfront, hrefused, hstays⟩ := h
    exact ⟨messages, rest, htakes, hfront, hrefused, rfl, hstays⟩
  | blocked after =>
    obtain ⟨messages, rest, htakes, hfront, hstays⟩ := h
    exact ⟨messages, rest, htakes, hfront, rfl, hstays⟩

/-- The phases of `synchronize`. -/
def Phase.Synchronizing : Phase → Prop
  | .frames _ | .signals _ | .subscription => True
  | _ => False

/-- `synchronize`: the machine goes through the same phases until it commits. -/
theorem synchronize_meets (hrequest : 8 ≤ record.welcome.maxRequestPayload.toNat) (phase : Phase)
    (synchronization : Synchronization) (sent : List Message)
    (hcarries : Carries sent link.written) :
    (record.synchronize deadlineNs link).Meets Prod.snd
      (fun state sdk => sdk.record = state.1 ∧ sdk.phase.Synchronizing)
      (fun synchronization state sdk => state.1.welcome = record.welcome ∧ ∃ applied sent,
        Carries sent state.2.written ∧
          sdk = (state.1.machine .subscription applied readerStarted sent).commit synchronization)
      link (record.machine phase synchronization readerStarted sent).synchronize := by
  refine (ClientRecord.within_meets (requestFrameSnapshot_meets deadlineNs record readerStarted
    hrequest 0 .zero phase sent hcarries)).bind ?_ ?_
  · rintro ⟨record', after⟩ sdk ⟨rfl, hrecord, next, hphase⟩
    exact ⟨hrecord, hphase ▸ trivial⟩
  rintro synchronization ⟨record', after⟩ sdk ⟨hrecord, phase, sent, hcarries, rfl⟩
  obtain rfl : record' = record := hrecord
  refine (ClientRecord.within_meets (requestSignalSnapshot_meets deadlineNs
    (record'.enterCanIds synchronization.frames) readerStarted hrequest 0 synchronization phase sent
    hcarries)).bind ?_ ?_
  · rintro ⟨record', after⟩ sdk ⟨rfl, hrecord, next, hphase⟩
    exact ⟨hrecord, hphase ▸ trivial⟩
  rintro synchronization' ⟨indexed, after⟩ sdk ⟨hindexed, phase, sent, hcarries, rfl⟩
  obtain rfl : indexed = record'.enterCanIds synchronization.frames := hindexed
  refine (ClientRecord.within_meets (completeSubscription_meets deadlineNs
    (record'.enterCanIds synchronization.frames) readerStarted synchronization' phase sent
    hcarries)).imp ?_ ?_
  · rintro ⟨record', after⟩ sdk ⟨rfl, hrecord, hphase⟩
    exact ⟨hrecord, hphase ▸ trivial⟩
  · rintro committed ⟨record', after⟩ sdk ⟨hrecord, hleft⟩
    obtain rfl : record' = _ := hrecord
    exact ⟨rfl, hleft⟩

end Setup

end Roadcast
