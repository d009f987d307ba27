import Roadcast.Daemon.Restart
import Roadcast.System.Requests

/-!
# Schema discovery

The loop of `request_schema` against the daemon. In a turn the daemon answers the request that the
SDK sent last, from whatever state it and the session are in by then, and the SDK reads the answer.
A chunk has at least one entry and starts where the one before ended, so the loop ends after at most
as many turns as there are signals, with the entry of each signal at its own index.
-/

namespace Roadcast

open DeltaSync

variable {cat : Catalog} {config : Config cat}

/-- The daemon at the time it handles a request of the session. -/
structure Host (cat : Catalog) where
  canonical : Canonical cat
  env : Env cat
  client : Client cat

/-- The message that `process_command` queues for a request. -/
def Host.answer (config : Config cat) (host : Host cat) (request : Message) : Option Message :=
  match processCommand config host.canonical host.env host.client request with
  | .ok client' => (queuedMessages client'.log)[(queuedMessages host.client.log).length]?
  | .error _ => none

/-- The session is greeted and has room for an answer, and libuv accepts the write. -/
structure Host.Ready (config : Config cat) (host : Host cat) : Prop where
  accounted : Accounted config host.client
  active : host.client.active = true
  greeted : host.client.greeted = true
  free : ∃ slot, FreeSlot config host.client slot
  bounded : host.env.WriteQueueBounded
  accepts : ∀ client, host.env.uvWrite client = true

/-- A turn of the loop of `request_schema`. It waits as long as there is no answer. -/
def schemaTurn (config : Config cat) (sdk : Sdk) (host : Host cat) : Sdk :=
  match sdk.phase with
  | .schema _ => (sdk.sent.getLast?.bind (host.answer config)).elim sdk sdk.receive
  | _ => sdk

/-- A request for the schema is answered with the chunk at its index. -/
theorem Host.Ready.answer_getSchema {host : Host cat} (h : host.Ready config) {next : ℕ}
    (hnext : next < cat.signalCount) :
    ∃ payload, encodeSchemaChunk cat clientPayloadCap (UInt32.ofNat next) = some payload ∧
      host.answer config (indexRequest .getSchema next) = some (outgoing .schemaChunk
        host.canonical.changeSequence host.canonical.sampleTimestampNs payload) := by
  have hstart : (UInt32.ofNat next).toNat < cat.signalCount := by
    rw [cat.signalIndex_toNat hnext]
    exact hnext
  obtain ⟨payload, hpayload, -⟩ := encodeSchemaChunk_exists cat hstart
    (show _ ≤ clientPayloadCap by decide)
  obtain ⟨-, hlength, -⟩ := decodeSchemaChunk_encode cat clientPayloadCap _ payload _ hpayload le_rfl
  obtain ⟨queued, hqueued, hpush⟩ : ∃ queued, clientQueueMessage config host.canonical host.env
      host.client .schemaChunk host.canonical.changeSequence host.canonical.sampleTimestampNs payload
      false = .ok queued ∧ _ :=
    clientQueueMessage_free h.accounted h.bounded h.accepts h.active hlength h.free
  have hcommand : processCommand config host.canonical host.env host.client
      (indexRequest .getSchema next) = .ok queued := by
    have hgreeted : ¬ host.client.greeted = false := by
      rw [Bool.not_eq_false]
      exact h.greeted
    show processIndexRequest host.client (indexRequest .getSchema next).payload
      (queueSchemaChunk config host.canonical host.env host.client) = _
    rw [processIndexRequest, if_neg hgreeted, decodeIndexRequest_indexRequest]
    show queueSchemaChunk config host.canonical host.env host.client (UInt32.ofNat next) = _
    rw [queueSchemaChunk, hpayload]
    exact hqueued
  refine ⟨payload, hpayload, ?_⟩
  obtain ⟨slot, -, -, rfl⟩ := hpush.takes
  rw [Host.answer, hcommand]
  show (queuedMessages (host.client.log ++ [_]))[_]? = _
  rw [queuedMessages_append]
  exact List.getElem?_concat_length

/-- The SDK has the entries below `next` and waits for the chunk at `next`. -/
structure Asking (config : Config cat) (next : ℕ) (sdk : Sdk) : Prop where
  negotiated : Sdk.Negotiated config sdk
  phase : sdk.phase = .schema next
  next_lt : next < cat.signalCount
  schema : sdk.schema = (List.ofFn cat.schemaEntry).take next
  request : sdk.sent.getLast? = some (indexRequest .getSchema next)

/-- The SDK has the entry of every signal at its own index and goes on with the snapshot. -/
structure Discovered (cat : Catalog) (sdk : Sdk) : Prop where
  phase : sdk.phase = .frames 0
  schema : sdk.schema = List.ofFn cat.schemaEntry

/-- The entries of a chunk continue those before it. -/
theorem take_append_schemaChunkEntries {next : ℕ} (hnext : next < cat.signalCount) (capacity : ℕ) :
    (List.ofFn cat.schemaEntry).take next ++
        schemaChunkEntries cat capacity (UInt32.ofNat next) =
      (List.ofFn cat.schemaEntry).take
        (next + (schemaChunkEntries cat capacity (UInt32.ofNat next)).length) := by
  rw [List.take_add, List.ofFn_eq_map]
  congr 1
  conv_lhs => rw [schemaChunkEntries_eq, cat.signalIndex_toNat hnext]
  rw [List.map_take, List.map_drop]

/-- From a list of entries below `next` the loop asks for the next one or is done. -/
theorem asking_or_discovered {sdk : Sdk} {next : ℕ} (hnegotiated : Sdk.Negotiated config sdk)
    (hnext : next ≤ cat.signalCount) (hschema : sdk.schema = (List.ofFn cat.schemaEntry).take next) :
    Asking config next (sdk.requestSchema next) ∨ Discovered cat (sdk.requestSchema next) := by
  rcases Nat.lt_or_eq_of_le hnext with hmore | hdone
  · rw [hnegotiated.requestSchema hmore]
    exact Or.inl ⟨⟨hnegotiated.welcome, hnegotiated.capacity⟩, rfl, hmore, hschema, by simp⟩
  · rw [hdone, List.take_of_length_le (by rw [List.length_ofFn])] at hschema
    rw [hdone, hnegotiated.endSchema, hnegotiated.synchronize]
    exact Or.inr ⟨rfl, hschema⟩

/-- Every turn reads at least one more entry, and the last one ends the loop. -/
theorem Asking.turn {sdk : Sdk} {next : ℕ} {host : Host cat} (h : Asking config next sdk)
    (hready : host.Ready config) :
    (∃ next', next < next' ∧ Asking config next' (schemaTurn config sdk host)) ∨
      Discovered cat (schemaTurn config sdk host) := by
  obtain ⟨payload, hpayload, hanswer⟩ := hready.answer_getSchema h.next_lt
  have hturn : schemaTurn config sdk host = sdk.receive (outgoing .schemaChunk
      host.canonical.changeSequence host.canonical.sampleTimestampNs payload) := by
    rw [schemaTurn, h.phase, h.request]
    show (host.answer config (indexRequest .getSchema next)).elim sdk sdk.receive = _
    rw [hanswer]
    rfl
  have hindex := cat.signalIndex_toNat h.next_lt
  obtain ⟨hnonempty, hwithin, hreceive⟩ :=
    h.negotiated.receive_schemaChunk (hindex.symm ▸ h.phase) hpayload
  rw [hindex] at hwithin hreceive
  have hpos := List.length_pos_iff.mpr hnonempty
  have hnegotiated : Sdk.Negotiated config { sdk with
      schema := sdk.schema ++ schemaChunkEntries cat clientPayloadCap (UInt32.ofNat next) } :=
    ⟨h.negotiated.welcome, h.negotiated.capacity⟩
  have hschema : sdk.schema ++ schemaChunkEntries cat clientPayloadCap (UInt32.ofNat next) =
      (List.ofFn cat.schemaEntry).take
        (next + (schemaChunkEntries cat clientPayloadCap (UInt32.ofNat next)).length) := by
    rw [h.schema, take_append_schemaChunkEntries h.next_lt]
  rw [hturn, hreceive]
  rcases asking_or_discovered hnegotiated hwithin hschema with hasking | hdone
  · exact Or.inl ⟨_, Nat.lt_add_of_pos_right hpos, hasking⟩
  · exact Or.inr hdone

/-- Once the loop has ended, nothing is asked any more. -/
theorem Discovered.turns {sdk : Sdk} (h : Discovered cat sdk) (hosts : List (Host cat)) :
    hosts.foldl (schemaTurn config) sdk = sdk := by
  induction hosts with
  | nil => rfl
  | cons host hosts ih =>
    rw [List.foldl_cons, schemaTurn, h.phase]
    exact ih

/-- As many turns as there are entries to come end the loop. -/
theorem Asking.turns {sdk : Sdk} {next : ℕ} (h : Asking config next sdk) (hosts : List (Host cat))
    (hready : ∀ host ∈ hosts, host.Ready config)
    (henough : cat.signalCount ≤ next + hosts.length) :
    Discovered cat (hosts.foldl (schemaTurn config) sdk) := by
  induction hosts generalizing sdk next with
  | nil =>
    have hlt := h.next_lt
    simp only [List.length_nil] at henough
    omega
  | cons host hosts ih =>
    rw [List.length_cons] at henough
    rw [List.foldl_cons]
    obtain ⟨next', hlt, hasking⟩ | hdone := h.turn (hready host List.mem_cons_self)
    · exact ih hasking (fun host' hmem => hready host' (List.mem_cons_of_mem _ hmem)) (by omega)
    · rwa [hdone.turns]

/-- Every chunk is read back as the definitions it was encoded from, and the loop of `request_schema`
ends with every signal at its own index, whatever states the daemon answers from. -/
theorem schemaDiscovery (config : Config cat) :
    (∀ (capacity : ℕ) (startIndex : UInt32), startIndex.toNat < cat.signalCount →
      schemaChunkPrefixSize + schemaEntryFixedSize + schemaNameMax + schemaUnitMax ≤ capacity →
      ∃ (payload : List UInt8) (count : ℕ),
        encodeSchemaChunk cat capacity startIndex = some payload ∧ 0 < count ∧
        payload.length ≤ capacity ∧ startIndex.toNat + count ≤ cat.signalCount ∧
        (∀ i : Fin cat.signalCount, i.val = startIndex.toNat + count →
          capacity - payload.length < (cat.schemaEntry i).size) ∧
        ∀ entryCapacity, count ≤ entryCapacity →
          decodeSchemaChunk payload entryCapacity =
            some ⟨schemaVersion, cat.signalCountWord, startIndex, cat.schemaHash,
              ((List.ofFn cat.schemaEntry).drop startIndex.toNat).take count⟩) ∧
    ∀ (sdk : Sdk) (hosts : List (Host cat)), Sdk.Negotiated config sdk → sdk.schema = [] →
      (∀ host ∈ hosts, host.Ready config) → cat.signalCount ≤ hosts.length →
      Discovered cat (hosts.foldl (schemaTurn config) (sdk.requestSchema 0)) := by
  constructor
  · intro capacity startIndex hstart hcapacity
    obtain ⟨payload, hpayload, hlength⟩ := encodeSchemaChunk_exists cat hstart hcapacity
    obtain ⟨-, hfits, hnonempty, hwithin⟩ :=
      decodeSchemaChunk_encode cat capacity startIndex payload _ hpayload le_rfl
    have hpos := List.length_pos_iff.mpr hnonempty
    refine ⟨payload, _, hpayload, hpos, hfits, hwithin, fun i hi => ?_, fun entryCapacity hroom => ?_⟩
    · have hgreedy := schemaChunkEntries_greedy cat capacity startIndex i hi
      omega
    · obtain ⟨hdecode, -⟩ :=
        decodeSchemaChunk_encode cat capacity startIndex payload entryCapacity hpayload hroom
      rw [hdecode, List.ofFn_eq_map, ← List.map_drop, ← List.map_take, ← schemaChunkEntries_eq]
  · intro sdk hosts hnegotiated hempty hready henough
    rcases asking_or_discovered hnegotiated (Nat.zero_le _) hempty with hasking | hdone
    · exact hasking.turns hosts hready (by rwa [Nat.zero_add])
    · rwa [hdone.turns]

/-- A greeted session of the catalog with one signal takes one turn. -/
theorem schemaDiscovery_single :
    Discovered singleCatalog
      ([⟨(run singleConfig none (singleTick 0 10) (singleSetup.take 3)).canonical, Env.idle,
          singleSession (singleSetup.take 3)⟩].foldl (schemaTurn singleConfig)
        (Sdk.requestSchema { Sdk.connect with
          welcome := serverWelcome singleConfig
          payloadCapacity := clientPayloadCap } 0)) := by
  refine (schemaDiscovery singleConfig).2 _ _ ?_ ?_ ?_ ?_
  · exact ⟨rfl, rfl⟩
  · rfl
  · rw [List.forall_mem_singleton]
    exact ⟨run_stable singleConfig (fun _ _ => Accounted.stable) none (singleTick 0 10)
        (singleSetup.take 3) firstSession,
      by decide +kernel, by decide +kernel, ⟨⟨0, by decide⟩, by decide, by decide +kernel⟩,
      fun _ => Nat.zero_le _, fun _ => rfl⟩
  · decide

end Roadcast
