import Mathlib.Data.Fintype.Fin
import Roadcast.Daemon.Stable

/-!
# Queue accounting and resynchronisation requests

`pending_bytes` is the sum of the slots in use in every reachable state, whatever clients request and
whenever writes complete. A session that overflowed has something pending, because an empty queue
accepts every message, and the completion that empties the queue asks for the resynchronisation.

libuv is assumed not to report more queued bytes than the outstanding writes hold.
-/

namespace Roadcast

open SlotPool Relation

variable {cat : Catalog} {config : Config cat} {canonical : Canonical cat} {env : Env cat}

/-- libuv's write queue holds at most the bytes of the outstanding writes. -/
def Env.WriteQueueBounded (env : Env cat) : Prop :=
  ∀ client, env.writeQueueSize client ≤ usedBytes client.output

/-- The bytes pending are those of the slots in use, and every slot in use is usable and holds one
message. -/
structure Accounted (config : Config cat) (client : Client cat) : Prop where
  pending : client.pendingBytes = usedBytes client.output
  usable : ∀ slot, (client.output slot).inUse = true → slot.val < config.slots
  length : ∀ slot, (client.output slot).inUse = true →
    headerSize ≤ (client.output slot).length ∧ (client.output slot).length ≤ clientMessageCap

/-- As many slots are usable as the configuration says. -/
theorem card_usableSlots (config : Config cat) : (usableSlots config).card = config.slots := by
  have hle := config.slots_le
  rw [usableSlots, Fin.card_filter_val_lt]
  exact Nat.min_eq_right hle

namespace Accounted

/-- Accounting is about the slots and the pending bytes only. -/
theorem of_same {client client' : Client cat} (h : Accounted config client)
    (houtput : client'.output = client.output)
    (hpending : client'.pendingBytes = client.pendingBytes) : Accounted config client' := by
  refine ⟨?_, ?_, ?_⟩
  · rw [hpending, houtput]
    exact h.pending
  · rw [houtput]
    exact h.usable
  · rw [houtput]
    exact h.length

/-- Clearing a slot that is not in use changes nothing in the account. -/
theorem scrub {client : Client cat} (h : Accounted config client)
    (slot : Fin (clientQueueSlots cat)) (hfree : (client.output slot).inUse = false) :
    Accounted config (client.scrub slot) := by
  have hused : ∀ i, ((client.scrub slot).output i).inUse = true →
      (client.scrub slot).output i = client.output i := by
    intro i hi
    by_cases hslot : i = slot
    · subst hslot
      simp [Client.scrub, Slot.free] at hi
    · simp [Client.scrub, hslot]
  refine ⟨?_, fun i hi => ?_, fun i hi => ?_⟩
  · have hzero : (client.output slot).used = 0 := by simp [Slot.used, hfree]
    change client.pendingBytes = usedBytes (Function.update client.output slot Slot.free)
    rw [usedBytes_release, hzero, h.pending, Nat.sub_zero]
  · exact h.usable i (by rw [← hused i hi]; exact hi)
  · rw [hused i hi]
    exact h.length i (by rw [← hused i hi]; exact hi)

/-- Closing a session keeps its accounts. -/
theorem closed {client : Client cat} (h : Accounted config client) :
    Accounted config (clientClose client) := by
  unfold clientClose
  split
  · exact h
  · exact h.of_same rfl rfl

/-- A queued message is added to the accounts. -/
theorem pushed {client client' : Client cat} {message : Message} (h : Accounted config client)
    (hpush : Pushes config canonical message client client') : Accounted config client' := by
  obtain ⟨slot, hfree, -, rfl⟩ := hpush.takes
  have hlength := hpush.length_le
  simp only [clientPayloadCap] at hlength
  refine ⟨?_, fun i hi => ?_, fun i hi => ?_⟩
  · change client.pendingBytes + (headerSize + message.payload.length) =
      usedBytes (Function.update client.output slot
        (Slot.holding (headerSize + message.payload.length)))
    rw [usedBytes_take _ _ _ hfree.2, h.pending]
  · by_cases hslot : i = slot
    · rw [hslot]
      exact hfree.1
    · refine h.usable i ?_
      simpa [Client.fill, Client.record, hslot] using hi
  · by_cases hslot : i = slot
    · subst hslot
      simp only [Client.fill, Client.record, Function.update_self, Slot.holding]
      simp only [clientMessageCap, headerSize] at hlength ⊢
      omega
    · have hold : ((client.fill slot (headerSize + message.payload.length)).record
          (.queued message canonical)).output i = client.output i := by
        simp [Client.fill, Client.record, hslot]
      rw [hold] at hi ⊢
      exact h.length i hi

/-- No slot in use holds more than is pending. -/
theorem length_le_pending {client : Client cat} (h : Accounted config client)
    (slot : Fin (clientQueueSlots cat)) (hused : (client.output slot).inUse = true) :
    (client.output slot).length ≤ client.pendingBytes := by
  have hle := used_le_usedBytes client.output slot
  rw [h.pending]
  simpa [Slot.used, hused] using hle

/-- A completed write is taken off the accounts. -/
theorem released {client : Client cat} (h : Accounted config client)
    (slot : Fin (clientQueueSlots cat)) (hused : (client.output slot).inUse = true) :
    Accounted config (client.release slot) := by
  have hused' : ∀ i, ((client.release slot).output i).inUse = true →
      (client.release slot).output i = client.output i := by
    intro i hi
    by_cases hslot : i = slot
    · subst hslot
      simp [Client.release, Slot.free] at hi
    · simp [Client.release, hslot]
  refine ⟨?_, fun i hi => ?_, fun i hi => ?_⟩
  · change (if client.pendingBytes ≥ (client.output slot).length then
      client.pendingBytes - (client.output slot).length else 0) =
        usedBytes (Function.update client.output slot Slot.free)
    rw [if_pos (h.length_le_pending slot hused), usedBytes_release, h.pending, Slot.used, if_pos hused]
  · exact h.usable i (by rw [← hused' i hi]; exact hi)
  · rw [hused' i hi]
    exact h.length i (by rw [← hused' i hi]; exact hi)

/-- A session of zeros has nothing pending. -/
theorem zero : Accounted config (Client.zero cat) := by
  refine ⟨?_, fun slot hused => ?_, fun slot hused => ?_⟩
  · exact (usedBytes_eq_zero _ fun _ => rfl).symm
  · simp [Client.zero, Slot.free] at hused
  · simp [Client.zero, Slot.free] at hused

/-- A new session has nothing pending. -/
theorem fresh {client : Client cat} (h : Fresh client) : Accounted config client := by
  have hzero : Accounted config (Client.zero cat) := zero
  cases h with
  | zero => exact hzero
  | unaccepted => exact hzero.of_same rfl rfl
  | rejected =>
    refine closed ?_
    exact hzero.of_same rfl rfl
  | accepted uid nowNs => exact hzero.of_same rfl rfl
  | unreadable uid nowNs =>
    refine closed ?_
    exact hzero.of_same rfl rfl

/-- No update can break the account. -/
theorem stable : Stable config canonical env (Accounted config) where
  pushed hpush h := h.pushed hpush
  scrubbed hfree h := h.scrub _ hfree.2
  closed h := h.closed
  released hused h := h.released _ hused
  overflowed _ _ hoverflow h := by
    rw [hoverflow.eq]
    exact h.of_same rfl rfl
  greeted h := h.of_same rfl rfl
  begun _ h := h.of_same rfl rfl
  advancedFrames _ h := h.of_same rfl rfl
  advancedSignals _ h := h.of_same rfl rfl
  started _ _ _ h := h.of_same rfl rfl
  rounded h := h.of_same rfl rfl
  sentFrames _ h := h.of_same rfl rfl
  sentSignals _ h := h.of_same rfl rfl
  noted _ _ h := h.of_same rfl rfl
  finished _ h := h.of_same rfl rfl
  requested h := h.of_same rfl rfl
  fresh hfresh := fresh hfresh

/-- No more bytes are pending than the configuration allows. -/
theorem pending_le {client : Client cat} (h : Accounted config client) :
    client.pendingBytes ≤ config.queueByteLimit := by
  have hle := usedBytes_le client.output clientMessageCap (fun slot hused => (h.length slot hused).2)
    (usableSlots config) fun slot hused => by
      simpa [usableSlots] using h.usable slot hused
  rwa [card_usableSlots, ← h.pending] at hle

/-- No more slots are in use than the configuration allows. -/
theorem card_used_le {client : Client cat} (h : Accounted config client) :
    (Finset.univ.filter fun slot => (client.output slot).inUse = true).card ≤ config.slots := by
  rw [← card_usableSlots config]
  refine Finset.card_le_card fun slot hslot => ?_
  have hused := (Finset.mem_filter.mp hslot).2
  simpa [usableSlots] using h.usable slot hused

/-- A session with a free slot has room for any message. -/
theorem room_of_free {client : Client cat} (h : Accounted config client)
    (slot : Fin (clientQueueSlots cat)) (hfree : FreeSlot config client slot) :
    client.pendingBytes + clientMessageCap ≤ config.queueByteLimit := by
  have hle := usedBytes_add_le client.output clientMessageCap
    (fun slot hused => (h.length slot hused).2) (usableSlots config)
    (fun slot hused => by simpa [usableSlots] using h.usable slot hused) slot
    (by simpa [usableSlots] using hfree.1) hfree.2
  rwa [card_usableSlots, ← h.pending] at hle

/-- A full queue has something pending. -/
theorem pending_pos_of_full {client : Client cat} (h : Accounted config client)
    (hbounded : env.WriteQueueBounded) {length : ℕ} (hlength : length ≤ clientMessageCap)
    (hfull : queueFull config env client length) : 0 < client.pendingBytes := by
  have hpos := config.slots_pos
  have hlimit : clientMessageCap ≤ config.queueByteLimit :=
    Nat.le_mul_of_pos_left clientMessageCap hpos
  rcases hfull with hslot | hpending | hqueue
  · have hle := config.slots_le
    have hused := (findOutputSlot_eq_none config).mp hslot ⟨0, by omega⟩ hpos
    have hsize := (h.length _ hused).1
    have hpend := h.length_le_pending _ hused
    exact lt_of_lt_of_le (by decide : 0 < headerSize) (hsize.trans hpend)
  · omega
  · have hle := hbounded client
    rw [← h.pending] at hle
    omega

end Accounted

/-- What the flags of a session say about each other. -/
structure SessionFlags (client : Client cat) : Prop where
  closing : client.active = true → client.closing = false
  subscribed : client.subscribed = true → client.greeted = true
  resync : client.needsResync = true → client.greeted = true
  catchup : client.catchupActive = true → client.greeted = true
  complete : client.snapshotComplete = true → client.snapshotActive = false

namespace SessionFlags

/-- Closing a session keeps its flags consistent. -/
theorem closed {client : Client cat} (h : SessionFlags client) :
    SessionFlags (clientClose client) := by
  unfold clientClose
  split
  · exact h
  · exact ⟨fun hactive => absurd hactive (by simp), h.subscribed, h.resync, h.catchup, h.complete⟩

/-- A refused message keeps the flags consistent. -/
theorem refused {client failed : Client cat} (h : SessionFlags client)
    (hrefused : Refused config client failed) : SessionFlags failed := by
  cases hrefused with
  | unchanged => exact h
  | scrubbed slot hfree => exact ⟨h.closing, h.subscribed, h.resync, h.catchup, h.complete⟩

/-- The end of a snapshot clears one flag as it sets the other. -/
theorem advancedSignals {client : Client cat} (count : ℕ) (h : SessionFlags client) :
    SessionFlags (client.advanceSignals count) := by
  refine ⟨h.closing, h.subscribed, h.resync, h.catchup, fun hcomplete => ?_⟩
  simp only [Client.advanceSignals, Bool.or_eq_true, decide_eq_true_eq] at hcomplete ⊢
  rcases hcomplete with hbefore | hnow
  · simp [h.complete hbefore]
  · simp [hnow]

/-- The flags of a new session are clear. -/
theorem fresh {client : Client cat} (h : Fresh client) : SessionFlags client := by
  have hzero : SessionFlags (Client.zero cat) := ⟨nofun, nofun, nofun, nofun, nofun⟩
  have haccepted (uid : UInt32) (nowNs : ℕ) : SessionFlags (Client.accepted uid nowNs : Client cat) :=
    { hzero with closing := fun _ => rfl }
  cases h with
  | zero => exact hzero
  | unaccepted => exact { hzero with closing := nofun }
  | rejected => exact closed { hzero with closing := fun _ => rfl }
  | accepted uid nowNs => exact haccepted uid nowNs
  | unreadable uid nowNs => exact (haccepted uid nowNs).closed

/-- No event makes the flags of a session inconsistent. -/
theorem stable : Stable config canonical env (@SessionFlags cat) where
  pushed hpush h := by
    obtain ⟨slot, -, -, rfl⟩ := hpush.takes
    exact ⟨h.closing, h.subscribed, h.resync, h.catchup, h.complete⟩
  scrubbed hfree h := h.refused (.scrubbed _ hfree)
  closed h := h.closed
  released _ h := ⟨h.closing, h.subscribed, h.resync, h.catchup, h.complete⟩
  overflowed hsubscribed _ hoverflow h := by
    rw [hoverflow.eq]
    exact ⟨h.closing, fun hnot => absurd hnot (by simp [Client.overflow]),
      fun _ => h.subscribed hsubscribed, h.catchup, h.complete⟩
  greeted h := ⟨h.closing, fun _ => rfl, fun _ => rfl, fun _ => rfl, h.complete⟩
  begun hgreeted h := ⟨h.closing, h.subscribed, fun _ => hgreeted, h.catchup,
    fun hcomplete => absurd hcomplete (by simp [beginSnapshot])⟩
  advancedFrames _ h := ⟨h.closing, h.subscribed, h.resync, h.catchup, h.complete⟩
  advancedSignals count h := h.advancedSignals count
  started hgreeted _ _ h := ⟨h.closing, h.subscribed, h.resync, fun _ => hgreeted, h.complete⟩
  rounded h := ⟨h.closing, h.subscribed, h.resync, h.catchup, h.complete⟩
  sentFrames _ h := ⟨h.closing, h.subscribed, h.resync, h.catchup, h.complete⟩
  sentSignals _ h := ⟨h.closing, h.subscribed, h.resync, h.catchup, h.complete⟩
  noted _ _ h := ⟨h.closing, h.subscribed, h.resync, h.catchup, h.complete⟩
  finished hcatchup h := ⟨h.closing, fun _ => h.catchup hcatchup, h.resync,
    fun hnot => absurd hnot (by simp [Client.finishCatchup]), h.complete⟩
  requested h := ⟨h.closing, h.subscribed, h.resync, h.catchup, h.complete⟩
  fresh hfresh := fresh hfresh

/-- Closing a session ends it. -/
theorem closed_active {client : Client cat} (h : SessionFlags client) :
    (clientClose client).active = false := by
  unfold clientClose
  split
  · rename_i hskip
    rcases hskip with hinactive | hclosing
    · exact hinactive
    · by_contra hactive
      rw [Bool.not_eq_false] at hactive
      rw [h.closing hactive] at hclosing
      contradiction
  · rfl

/-- A snapshot that is being paged is not complete. -/
theorem incomplete {client : Client cat} (h : SessionFlags client)
    (hsnapshot : client.snapshotActive = true) : client.snapshotComplete = false := by
  by_contra hnot
  rw [h.complete (by simpa using hnot)] at hsnapshot
  contradiction

end SessionFlags

/-- What is still to be sent shrinks with every batch of a fan-out, until it ends or the session
overflows or is closed. -/
theorem FansOut.pieces_induction {A : Type} {encode : List A → Option (List UInt8)}
    {type : MessageType} {P : Client cat → List A → Prop} {Q : Client cat → Prop}
    (hdone : ∀ {client}, P client [] → Q client)
    (hsent : ∀ {client queued piece rest payload}, client.needsResync = false →
      encode piece = some payload →
      Pushes config canonical (outgoing type canonical.changeSequence canonical.sampleTimestampNs
        payload) client queued → P client (piece ++ rest) → P queued rest)
    (hoverflowed : ∀ {client client' left}, client.needsResync = false →
      Overflows config env type client client' → P client left → Q client')
    (hfailed : ∀ {client failed left}, SessionFlags client → Refused config client failed →
      P client left → Q (clientClose failed))
    {pieces : List (List A)} {client client' : Client cat} (hflags : SessionFlags client)
    (hfan : FansOut config canonical env type (pieces.map encode) client client')
    (h : P client pieces.flatten) : Q client' := by
  have hstable : Stable config canonical env (@SessionFlags cat) := SessionFlags.stable
  generalize hchunks : pieces.map encode = chunks at hfan
  induction hfan generalizing pieces with
  | done client =>
    rw [List.map_eq_nil_iff.mp hchunks] at h
    exact hdone h
  | sent payload rest client queued client' hresync hpush _ ih =>
    obtain ⟨piece, pieces', rfl, hpiece, hrest⟩ := List.map_eq_cons_iff.mp hchunks
    exact ih (hstable.pushed hpush hflags) (hsent hresync hpiece hpush h) hrest
  | overflowed chunks client client' hresync hoverflow => exact hoverflowed hresync hoverflow h
  | failed chunks client failed hrefused => exact hfailed hflags hrefused h

/-- A session that lost data and has not been told so has something pending. -/
def ResyncPending (client : Client cat) : Prop :=
  client.active = true → client.needsResync = true → client.resyncQueued = false →
    0 < client.pendingBytes

/-- A queued message leaves bytes pending. -/
theorem Pushes.pending_pos {client client' : Client cat} {message : Message}
    (hpush : Pushes config canonical message client client') : 0 < client'.pendingBytes := by
  obtain ⟨slot, -, -, rfl⟩ := hpush.takes
  exact Nat.add_pos_right _ (Nat.add_pos_left (by decide) _)

namespace ResyncPending

/-- A session that is not active waits for no write. -/
theorem of_inactive {client : Client cat} (h : client.active = false) : ResyncPending client := by
  intro hactive
  rw [h] at hactive
  contradiction

/-- A drive keeps the resynchronisation flag. -/
theorem drive_needsResync {client client' : Client cat}
    (hmoves : ReflTransGen (DriveMove config canonical env) client client') :
    client'.needsResync = client.needsResync := by
  refine drive_induction (P := fun c => c.needsResync = client.needsResync) ?_ hmoves rfl
  intro c c' hmove hc
  exact hmove.flags.2.trans hc

/-- The answer to a request is a write to wait for. -/
theorem replied {request : Message} {client client' : Client cat}
    (hreply : Reply config canonical env request client client') : ResyncPending client' := by
  intro _ hresync' _
  cases hreply with
  | welcome queued htype hgreeted hpush => exact hpush.pending_pos
  | schema startIndex payload queued htype hgreeted hstart hpayload hpush => exact hpush.pending_pos
  | pong queued htype hgreeted hpush => exact hpush.pending_pos
  | firstFramePage payload queued htype hgreeted hstart hinactive hpayload hpush =>
    exact hpush.pending_pos
  | framePage startIndex payload queued htype hgreeted hstart hactive hframes hnext hlt hpayload
      hpush => exact hpush.pending_pos
  | signalPage startIndex payload queued htype hgreeted hstart hactive hframes hnext hlt hpayload
      hpush => exact hpush.pending_pos
  | subscribe driven htype hgreeted hresync hcomplete hmoves hdone =>
    have hdriven := drive_needsResync (hmoves.trans (noteWaiting_moves driven))
    rw [hdriven] at hresync'
    exact absurd hresync' (by simp [beginCatchupRound, hresync])

/-- The attempt to send `RESYNC_REQUIRED` succeeds or leaves writes to wait for. -/
theorem resynced {client client' : Client cat} (hflags : SessionFlags client)
    (hstep : ResyncStep config canonical client client') : ResyncPending client' := by
  cases hstep with
  | none hskip =>
    intro hactive hresync hnot
    have hgreeted := hflags.resync hresync
    simp only [hactive, hgreeted, hresync, hnot, Bool.true_eq_false, Bool.false_eq_true,
      false_or] at hskip
    exact Nat.pos_of_ne_zero hskip
  | queued queued hgreeted hresync hnot hpending hpush =>
    intro _ _ hqueued
    contradiction
  | failed hrefused =>
    exact of_inactive (hflags.refused hrefused).closed_active

/-- A batch that does not fit finds writes to wait for. -/
theorem fannedOut {type : MessageType} {chunks : List (Option (List UInt8))}
    {client client' : Client cat} (haccounted : Accounted config client)
    (hflags : SessionFlags client) (hbounded : env.WriteQueueBounded)
    (hfan : FansOut config canonical env type chunks client client') (h : ResyncPending client) :
    ResyncPending client' := by
  have hstable : Stable config canonical env (@SessionFlags cat) := SessionFlags.stable
  induction hfan with
  | done client => exact h
  | sent payload rest client queued client' hresync hpush _ ih =>
    exact ih (haccounted.pushed hpush) (hstable.pushed hpush hflags) fun _ _ _ => hpush.pending_pos
  | overflowed chunks client client' hresync hoverflow =>
    obtain ⟨length, -, hlength, hfull⟩ := hoverflow.full
    have hpos := haccounted.pending_pos_of_full hbounded hlength hfull
    rw [hoverflow.eq]
    exact fun _ _ _ => hpos
  | failed chunks client failed hrefused =>
    exact of_inactive (hflags.refused hrefused).closed_active

/-- Every event leaves a session that lost data with something pending. -/
theorem evolved {before : Canonical cat} {event : Event cat} {s : Fin maxClients}
    {client client' : Client cat} (haccounted : Accounted config client)
    (hflags : SessionFlags client) (hbounded : (event.answers s).WriteQueueBounded)
    (hevolves : Evolves config canonical before event s client client') (h : ResyncPending client) :
    ResyncPending client' := by
  have hstable : Stable config canonical (event.answers s) (@SessionFlags cat) :=
    SessionFlags.stable
  cases hevolves with
  | idle hevent hquiet => exact h
  | closed => exact of_inactive hflags.closed_active
  | replied request hevent hcanonical hactive hreply => exact replied hreply
  | aborted request hevent hcanonical hactive hfailure =>
    exact of_inactive (hstable.kept.commandFailed hfailure hflags).closed_active
  | writeFailed slot hused => exact of_inactive (hstable.released hused hflags).closed_active
  | written slot hevent hcanonical hused hresumes =>
    have hreleased := hstable.released hused hflags
    cases hresumes with
    | idle hcatchup hstep => exact resynced hreleased hstep
    | driven hcatchup hmoves hdone hstep =>
      have hdriven := drive_induction hstable.kept.moved hmoves hreleased
      exact resynced (hstable.kept.waited hdriven) hstep
    | failed hcatchup hmoves hfailure =>
      have hlast := drive_induction hstable.kept.moved hmoves hreleased
      exact of_inactive (hstable.kept.driveFailed hfailure hlast).closed_active
  | distributed env sample hevent hcanonical hlive hdistributes =>
    cases hdistributes with
    | stopped hframes hstopped => exact fannedOut haccounted hflags hbounded hframes h
    | both hframes hactive hresync hsignals =>
      have hsent := fannedOut haccounted hflags hbounded hframes h
      have hmid : Stable config canonical (event.answers s) (Accounted config) := Accounted.stable
      exact fannedOut (hmid.kept.fannedOut hframes nofun nofun hlive.2.1 haccounted).1
        (hstable.kept.fannedOut hframes nofun nofun hlive.2.1 hflags).1 hbounded hsignals hsent
  | heartbeat nowNs env sourceState hevent hsame hgreeted hlive hpush =>
    exact fun _ _ _ => hpush.pending_pos
  | heartbeatOverflow nowNs env hevent hsame hgreeted hlive hoverflow =>
    obtain ⟨length, -, hlength, hfull⟩ := hoverflow.full
    have hpos := haccounted.pending_pos_of_full hbounded hlength hfull
    rw [hoverflow.eq]
    exact fun _ _ _ => hpos
  | heartbeatFailed hrefused => exact of_inactive (hflags.refused hrefused).closed_active
  | fresh hbefore hfresh =>
    intro _ hresync
    have hnotGreeted : client'.greeted = false := by
      cases hfresh <;> simp [Client.zero, Client.accepted, clientClose]
    rw [(SessionFlags.fresh hfresh).resync hresync] at hnotGreeted
    contradiction

/-- The completion of the last outstanding write of a session that lost data asks it to resynchronise,
or ends it. -/
theorem last_write_requests {client : Client cat} (hflags : SessionFlags client)
    (hactive : client.active = true) (hresync : client.needsResync = true)
    (hnot : client.resyncQueued = false)
    (hcatchup : client.catchupActive = false) (slot : Fin (clientQueueSlots cat))
    (hused : (client.output slot).inUse = true)
    (hlast : (client.output slot).length = client.pendingBytes) :
    (onClientWrite config canonical env client slot false).active = false ∨
      (onClientWrite config canonical env client slot false).resyncQueued = true := by
  have hstable : Stable config canonical env (@SessionFlags cat) := SessionFlags.stable
  have hreleased := hstable.released hused hflags
  have hwrite : onClientWrite config canonical env client slot false =
      maybeQueueResync config canonical env (client.release slot) := by
    simp [onClientWrite, resumeAfterWrite, Client.release, hcatchup]
  have hstep : ResyncStep config canonical (client.release slot)
      (maybeQueueResync config canonical env (client.release slot)) := maybeQueueResync_cases _
  rw [hwrite]
  generalize maybeQueueResync config canonical env (client.release slot) = after at hstep ⊢
  cases hstep with
  | none hskip =>
    simp [hactive, hresync, hnot, hlast, hflags.resync hresync, Client.release] at hskip
  | queued queued hgreeted hresync hnot hpending hpush => exact Or.inr rfl
  | failed hrefused => exact Or.inl (hreleased.refused hrefused).closed_active

end ResyncPending

/-- The three invariants together, along a run whose events respect libuv's bound. -/
theorem run_accounted (config : Config cat) (fake : Option Bool) (tick : Tick cat)
    (events : List (Event cat))
    (hlibuv : ∀ event ∈ events, ∀ s, (event.answers s).WriteQueueBounded) (s : Fin maxClients) :
    Accounted config ((run config fake tick events).clients s) ∧
      SessionFlags ((run config fake tick events).clients s) ∧
      ResyncPending ((run config fake tick events).clients s) := by
  refine run_induction (P := fun client =>
    Accounted config client ∧ SessionFlags client ∧ ResyncPending client) config fake tick events
    ⟨Accounted.zero, SessionFlags.fresh .zero, ResyncPending.of_inactive rfl⟩ ?_ s
  rintro event hevent s before canonical client client' hevolves ⟨haccounted, hflags, hpending⟩
  exact ⟨Accounted.stable.evolved hevolves haccounted, SessionFlags.stable.evolved hevolves hflags,
    hpending.evolved haccounted hflags (hlibuv event hevent s) hevolves⟩

/-- An idle libuv respects its bound. -/
theorem writeQueueBounded_of_idle {events : List (Event cat)}
    (h : ∀ event ∈ events, ∀ s, event.answers s = Env.idle) :
    ∀ event ∈ events, ∀ s, (event.answers s).WriteQueueBounded := by
  intro event hevent s
  rw [h event hevent s]
  exact fun _ => Nat.zero_le _

/-- A subscription is still being written when the next sample arrives. -/
def overflowRun : List (Event singleCatalog) :=
  singleSetup ++ [singleRequest .subscribeAll []] ++ singleSample 1 20

end Roadcast
