import Mathlib.Logic.Relation
import Roadcast.Daemon.EventLoop

/-!
# What the queueing functions can do

One inversion lemma for each function that queues messages to a session. A queued message takes a
free slot and enters the history; a failure leaves the session as it was, up to the length that a
refused `uv_write` clears in a free slot; only droppable messages overflow. Everything that is proved
about sessions later goes through these lemmas and never unfolds the functions again.
-/

namespace Roadcast

open SlotPool

variable {cat : Catalog} (config : Config cat) (canonical : Canonical cat) (env : Env cat)

/-- A slot that `find_output_slot` may return. -/
def FreeSlot (client : Client cat) (slot : Fin (clientQueueSlots cat)) : Prop :=
  slot.val < config.slots ∧ (client.output slot).inUse = false

/-- A message enters the output queue. -/
structure Pushes (message : Message) (client client' : Client cat) : Prop where
  active : client.active = true
  length_le : message.payload.length ≤ clientPayloadCap
  takes : ∃ slot, FreeSlot config client slot ∧
    client.pendingBytes + (headerSize + message.payload.length) ≤ config.queueByteLimit ∧
    client' = (client.fill slot (headerSize + message.payload.length)).record
      (.queued message canonical)

/-- The session with the length of a slot cleared. -/
def Client.scrub (client : Client cat) (slot : Fin (clientQueueSlots cat)) : Client cat :=
  { client with output := Function.update client.output slot Slot.free }

/-- A message was not queued and the call failed. -/
inductive Refused (client : Client cat) : Client cat → Prop
  | unchanged : Refused client client
  | scrubbed (slot : Fin (clientQueueSlots cat)) (hfree : FreeSlot config client slot) :
      Refused client (client.scrub slot)

/-- The queue had no room for a droppable message. -/
structure Overflows (type : MessageType) (client client' : Client cat) : Prop where
  active : client.active = true
  full : ∃ length, headerSize ≤ length ∧ length ≤ clientMessageCap ∧
    queueFull config env client length
  eq : client' = client.overflow type env.monotonicNs

/-- The slot that is found is free. -/
theorem findOutputSlot_eq_some {client : Client cat} {slot : Fin (clientQueueSlots cat)}
    (h : findOutputSlot config client = some slot) : FreeSlot config client slot := by
  have hfound := List.find?_some h
  simpa [FreeSlot] using hfound

/-- No slot is found if and only if all usable ones are in use. -/
theorem findOutputSlot_eq_none {client : Client cat} :
    findOutputSlot config client = none ↔
      ∀ slot : Fin (clientQueueSlots cat), slot.val < config.slots →
        (client.output slot).inUse = true := by
  simp [findOutputSlot, List.find?_eq_none]

variable {config canonical env}

/-- A slot that was filled and given back is scrubbed. -/
theorem Client.unfill_fill (client : Client cat) (slot : Fin (clientQueueSlots cat)) (n : ℕ) :
    (client.fill slot n).unfill slot n = client.scrub slot := by
  simp [Client.fill, Client.unfill, Client.scrub]

section QueueMessage

variable {client client' : Client cat} {type : MessageType} {sequence timestampNs : UInt64}
  {payload : List UInt8}

/-- An accepted message was pushed, or it was droppable and overflowed. -/
theorem clientQueueMessage_ok {droppable : Bool}
    (h : clientQueueMessage config canonical env client type sequence timestampNs payload droppable =
      .ok client') :
    Pushes config canonical (outgoing type sequence timestampNs payload) client client' ∨
      (droppable = true ∧ Overflows config env type client client') := by
  unfold clientQueueMessage at h
  dsimp only at h
  split at h
  · contradiction
  rename_i hguard
  simp only [not_or, Bool.not_eq_false] at hguard
  obtain ⟨hactive, -, hlength⟩ := hguard
  split at h
  · rename_i hfull
    split at h
    · rename_i hdroppable
      refine Or.inr ⟨hdroppable, hactive, ⟨_, ?_, Nat.not_lt.mp hlength, hfull⟩, ?_⟩
      · exact Nat.le_add_right _ _
      · exact (Except.ok.inj h).symm
    · contradiction
  · rename_i hroom
    simp only [queueFull, not_or] at hroom
    split at h
    · contradiction
    rename_i slot hslot
    split at h
    · refine Or.inl ⟨hactive, ?_, slot, findOutputSlot_eq_some config hslot, ?_, ?_⟩
      · simp only [outgoing, clientPayloadCap]
        omega
      · exact Nat.not_lt.mp hroom.2.1
      · exact (Except.ok.inj h).symm
    · contradiction

/-- An accepted message that must not be dropped was pushed. -/
theorem clientQueueMessage_reply
    (h : clientQueueMessage config canonical env client type sequence timestampNs payload false =
      .ok client') :
    Pushes config canonical (outgoing type sequence timestampNs payload) client client' := by
  rcases clientQueueMessage_ok h with hpushes | ⟨hdroppable, -⟩
  · exact hpushes
  · contradiction

/-- A message that fails changes at most a free slot. -/
theorem clientQueueMessage_error {droppable : Bool}
    (h : clientQueueMessage config canonical env client type sequence timestampNs payload droppable =
      .error client') :
    Refused config client client' := by
  unfold clientQueueMessage at h
  dsimp only at h
  split at h
  · exact Except.error.inj h ▸ .unchanged
  split at h
  · split at h
    · contradiction
    · exact Except.error.inj h ▸ .unchanged
  split at h
  · exact Except.error.inj h ▸ .unchanged
  rename_i slot hslot
  split at h
  · contradiction
  · rw [Client.unfill_fill] at h
    exact Except.error.inj h ▸ .scrubbed slot (findOutputSlot_eq_some config hslot)

end QueueMessage

/-- A computation that went on with `f` after a success: where it failed, or what it returned. -/
theorem bind_ok {A E : Type*} {result : Except E A} {f : A → A} {a : A}
    (h : (do let b ← result; Except.ok (f b)) = .ok a) : ∃ b, result = .ok b ∧ a = f b := by
  cases result with
  | error e => contradiction
  | ok b => exact ⟨b, rfl, (Except.ok.inj h).symm⟩

/-- A computation whose last step cannot fail has failed before it. -/
theorem bind_error {A E : Type*} {result : Except E A} {f : A → A} {e : E}
    (h : (do let b ← result; Except.ok (f b)) = .error e) : result = .error e := by
  cases result with
  | error e' => exact h
  | ok b => contradiction

end Roadcast
