import Roadcast.System.Compatibility
import Roadcast.System.Sequences

/-!
# Loss of continuity is announced

Three producers stamp live messages: distribution and heartbeats with the canonical change sequence,
catch-up with that of its round. In SDK order a catch-up runs only while the session is not
subscribed, so its stamps never meet those of the other two, and a subscriber has always reached the
canonical change sequence. An overflow ends the subscription until the session has been told.
-/

namespace Roadcast

open Chunks Relation Runs

variable {cat : Catalog} {config : Config cat} {canonical before : Canonical cat} {env : Env cat}
  {client client' queued : Client cat}

/-- The history of a session shows no gap, and a subscriber has reached the canonical change
sequence. -/
structure Continuity (canonical : Canonical cat) (client : Client cat) : Prop where
  continuous : Continuous (queuedMessages client.log)
  announced : Announced client.log
  reached : client.active = true → client.subscribed = true →
    reachedSequence (queuedMessages client.log) = some canonical.changeSequence
  silent : client.active = true → client.subscribed = false →
    (client.needsResync = true → client.resyncQueued = true) →
    reachedSequence (queuedMessages client.log) = none
  pending : client.active = true → lossPending client.log = true →
    client.needsResync = true ∧ client.resyncQueued = false
  unsubscribed : client.active = true → client.needsResync = true → client.subscribed = false

/-- The types of the messages that say nothing about continuity. -/
def MessageType.isReply : MessageType → Bool
  | updateBatch | signalUpdateBatch | heartbeat | subscribed | resyncRequired => false
  | _ => true

section Messages

variable {type : MessageType} {sequence timestampNs : UInt64} {payload : List UInt8}

/-- A reply does not move the sequence. -/
theorem followSequence_reply (h : type.isReply = true) (last : Option UInt64) :
    followSequence last (outgoing type sequence timestampNs payload) = last := by
  cases type <;> first | contradiction | rfl

/-- A live message moves the sequence to its own. -/
theorem followSequence_live (h : type.isLive = true) (last : Option UInt64) :
    followSequence last (outgoing type sequence timestampNs payload) = last.map fun _ => sequence := by
  cases type <;> first | contradiction | rfl

/-- A reply may follow anything. -/
theorem mayFollow_reply (h : type.isReply = true) (last : Option UInt64) :
    MayFollow last (outgoing type sequence timestampNs payload) := by
  refine ⟨fun hlive => ?_, fun htype => ?_⟩
  · rw [outgoing_isLive] at hlive
    cases type <;> contradiction
  · obtain rfl := (MessageType.code_inj _ _).mp htype
    contradiction

/-- A live message may follow a sequence that it continues. -/
theorem mayFollow_live (h : type.isLive = true) {last : Option UInt64}
    (hlast : ∀ previous, last = some previous → Advances previous sequence) :
    MayFollow last (outgoing type sequence timestampNs payload) := by
  refine ⟨fun _ => hlast, fun htype => ?_⟩
  obtain rfl := (MessageType.code_inj _ _).mp htype
  contradiction

/-- A queued message extends the history. -/
theorem Pushes.history (hpush : Pushes config canonical
      (outgoing type sequence timestampNs payload) client queued)
    (hcontinuous : Continuous (queuedMessages client.log)) (hannounced : Announced client.log)
    (hfollow : MayFollow (reachedSequence (queuedMessages client.log))
      (outgoing type sequence timestampNs payload))
    (hloss : type.isLive = true → lossPending client.log = false) :
    Continuous (queuedMessages queued.log) ∧ Announced queued.log ∧
      reachedSequence (queuedMessages queued.log) =
        followSequence (reachedSequence (queuedMessages client.log))
          (outgoing type sequence timestampNs payload) ∧
      lossPending queued.log = (lossPending client.log && decide (type ≠ .resyncRequired)) := by
  obtain ⟨slot, -, -, rfl⟩ := hpush.takes
  have hmessages : queuedMessages ((client.fill slot (headerSize + payload.length)).record
      (.queued (outgoing type sequence timestampNs payload) canonical)).log =
      queuedMessages client.log ++ [outgoing type sequence timestampNs payload] :=
    queuedMessages_append _ _
  refine ⟨?_, hannounced.append ?_, ?_, ?_⟩
  · exact hmessages ▸ hcontinuous.append hfollow
  · intro message k heq hlive
    injection heq with heq
    rw [← heq, outgoing_isLive] at hlive
    exact hloss hlive
  · exact hmessages ▸ reachedSequence_append _ _
  · refine (lossPending_append _ _).trans ?_
    simp [noteLoss, LogEntry.announcesLoss, outgoing, Client.fill]

end Messages

/-- A sample advances the change sequence by at most one. -/
theorem Canonical.consume_changeSequence (canonical : Canonical cat) (sample : Sample cat) :
    Advances canonical.changeSequence (canonical.consume sample).changeSequence := by
  rcases canonical.consume_cases sample with ⟨-, hsame⟩ | ⟨-, -, hrefresh⟩ | ⟨-, -, hadvance⟩
  · rw [hsame]
    exact Or.inl rfl
  · rw [hrefresh]
    exact Or.inl rfl
  · rw [hadvance]
    exact Or.inr rfl

/-- A sample without changed frames keeps the change sequence. -/
theorem Canonical.consume_changeSequence_of_delta (canonical : Canonical cat) {sample : Sample cat}
    (h : (canonical.delta sample).1 = []) :
    (canonical.consume sample).changeSequence = canonical.changeSequence := by
  rcases canonical.consume_cases sample with
    ⟨-, hsame⟩ | ⟨-, -, hrefresh⟩ | ⟨hnew, hchanged, -⟩
  · rw [hsame]
  · rw [hrefresh]
    rfl
  · rw [Canonical.delta, if_neg hnew, if_neg hchanged] at h
    exact absurd h hchanged

/-- A session whose request is handled is not subscribed, and knows about its losses. -/
theorem Coherent.awaited {R : Frame → Frame → Prop} {handled : ℕ} {request : Message}
    (h : Coherent config R canonical client handled client.sdk)
    (hsent : client.sdk.sent[handled]? = some request) :
    client.subscribed = false ∧ (client.needsResync = true → client.resyncQueued = true) := by
  have hsynchronizing : Synchronizing client →
      client.subscribed = false ∧ (client.needsResync = true → client.resyncQueued = true) :=
    fun hflags => ⟨hflags.subscribed,
      fun hresync => absurd (hflags.needsResync.symm.trans hresync) nofun⟩
  cases h with
  | greeting hquiet _ _ => exact ⟨hquiet.subscribed, hquiet.resync⟩
  | rejected hquiet _ _ _ => exact ⟨hquiet.subscribed, hquiet.resync⟩
  | schema _ hquiet _ _ _ _ => exact ⟨hquiet.subscribed, hquiet.resync⟩
  | start hquiet _ _ _ => exact ⟨hquiet.subscribed, hquiet.resync⟩
  | frames hcopying _ _ _ _ _ _ => exact hsynchronizing hcopying.flags
  | signals hcopying _ _ _ _ _ _ => exact hsynchronizing hcopying.flags
  | subscribing hcopying _ _ _ _ _ _ _ => exact hsynchronizing hcopying.flags
  | catching hcatching _ => exact hsynchronizing hcatching.flags
  | live _ hout => exact absurd (hout.head hsent) nofun
  | lost _ hout => exact absurd (hout.head hsent) nofun

namespace Continuity

variable {type : MessageType} {sequence timestampNs : UInt64} {payload : List UInt8}

/-- A session that is not active need not continue. -/
theorem of_inactive (hinactive : client.active = false)
    (hcontinuous : Continuous (queuedMessages client.log)) (hannounced : Announced client.log) :
    Continuity canonical client := by
  have hnot : ¬ client.active = true := by simp [hinactive]
  exact ⟨hcontinuous, hannounced, fun h => absurd h hnot, fun h => absurd h hnot,
    fun h => absurd h hnot, fun h => absurd h hnot⟩

/-- A new session has nothing to continue. -/
theorem fresh (hfresh : Fresh client) : Continuity canonical client := by
  have hcontinuous : Continuous (queuedMessages ([] : List (LogEntry cat))) :=
    fun past message h => absurd (List.prefix_nil.mp h) (by simp)
  have hannounced : Announced ([] : List (LogEntry cat)) :=
    fun past message k h => absurd (List.prefix_nil.mp h) (by simp)
  cases hfresh with
  | zero => exact of_inactive rfl hcontinuous hannounced
  | unaccepted => exact of_inactive rfl hcontinuous hannounced
  | rejected => exact of_inactive rfl hcontinuous hannounced
  | accepted uid nowNs =>
    exact ⟨hcontinuous, hannounced, nofun, fun _ _ _ => rfl, nofun, nofun⟩
  | unreadable uid nowNs => exact of_inactive rfl hcontinuous hannounced

/-- An answer to a request leaves continuity alone. -/
theorem answered (h : Continuity canonical client) (htype : type.isReply = true)
    (hpush : Pushes config canonical (outgoing type sequence timestampNs payload) client queued) :
    Continuity canonical queued := by
  have hnotLive : ¬ type.isLive = true := by cases type <;> first | contradiction | nofun
  obtain ⟨hcontinuous, hannounced, hreached, hpending⟩ := hpush.history h.continuous h.announced
    (mayFollow_reply htype _) (fun hlive => absurd hlive hnotLive)
  have hnotResync : type ≠ .resyncRequired := by
    rintro rfl
    contradiction
  rw [followSequence_reply htype] at hreached
  rw [decide_eq_true hnotResync, Bool.and_true] at hpending
  obtain ⟨slot, -, -, rfl⟩ := hpush.takes
  exact ⟨hcontinuous, hannounced, fun hactive hsub => hreached.trans (h.reached hactive hsub),
    fun hactive hsub htold => hreached.trans (h.silent hactive hsub htold),
    fun hactive hloss => h.pending hactive (hpending.symm.trans hloss), h.unsubscribed⟩

/-- Until it is subscribed a session has reached nothing, and no loss is pending. -/
theorem unreached (h : Continuity canonical client) (hactive : client.active = true)
    (hsubscribed : client.subscribed = false) (hresync : client.needsResync = false) :
    reachedSequence (queuedMessages client.log) = none ∧ lossPending client.log = false := by
  have hnot : ¬ client.needsResync = true := by simp [hresync]
  refine ⟨h.silent hactive hsubscribed fun hneeds => absurd hneeds hnot, ?_⟩
  rw [← Bool.not_eq_true]
  exact fun hpending => hnot (h.pending hactive hpending).1

/-- A batch of a catch-up comes before the subscription. -/
theorem caughtUp (h : Continuity canonical client) (hsubscribed : client.subscribed = false)
    (hresync : client.needsResync = false) (htype : type.isLive = true)
    (hpush : Pushes config canonical (outgoing type sequence timestampNs payload) client queued) :
    Continuity canonical queued := by
  obtain ⟨hnone, hnoLoss⟩ := h.unreached hpush.active hsubscribed hresync
  obtain ⟨hcontinuous, hannounced, hreached, hpending⟩ := hpush.history h.continuous h.announced
    (mayFollow_live htype fun previous hprevious => absurd (hnone.symm.trans hprevious) nofun)
    (fun _ => hnoLoss)
  rw [followSequence_live htype, hnone] at hreached
  rw [hnoLoss, Bool.false_and] at hpending
  obtain ⟨slot, -, -, rfl⟩ := hpush.takes
  exact ⟨hcontinuous, hannounced, fun _ hsub => absurd (hsubscribed.symm.trans hsub) nofun,
    fun _ _ _ => hreached, fun _ hloss => absurd (hpending.symm.trans hloss) nofun, h.unsubscribed⟩

/-- A round queues nothing. -/
theorem rounded (h : Continuity canonical client) :
    Continuity canonical (beginCatchupRound canonical client) := by
  have hmessages : queuedMessages (beginCatchupRound canonical client).log =
      queuedMessages client.log :=
    (queuedMessages_append _ _).trans (List.append_nil _)
  have hpending : lossPending (beginCatchupRound canonical client).log = lossPending client.log :=
    (lossPending_append _ _).trans (Bool.and_true _)
  refine ⟨?_, h.announced.append nofun, ?_, ?_, ?_, h.unsubscribed⟩
  · rw [hmessages]
    exact h.continuous
  · rw [hmessages]
    exact h.reached
  · rw [hmessages]
    exact h.silent
  · rw [hpending]
    exact h.pending

/-- A new snapshot settles a loss that the session was told about. -/
theorem begun (h : Continuity canonical client)
    (htold : client.needsResync = true → client.resyncQueued = true) :
    Continuity canonical (beginSnapshot canonical env client) := by
  have hmessages : queuedMessages (beginSnapshot canonical env client).log =
      queuedMessages client.log :=
    (queuedMessages_append _ _).trans (List.append_nil _)
  have hpending : lossPending (beginSnapshot canonical env client).log = false :=
    (lossPending_append _ _).trans (Bool.and_false _)
  refine ⟨?_, h.announced.append nofun, ?_, ?_, ?_, nofun⟩
  · rw [hmessages]
    exact h.continuous
  · rw [hmessages]
    exact h.reached
  · rw [hmessages]
    exact fun hactive hsubscribed _ => h.silent hactive hsubscribed htold
  · rw [hpending]
    exact nofun

/-- `SUBSCRIBED` carries the canonical change sequence. -/
theorem finished (h : Continuity canonical client) (hsubscribed : client.subscribed = false)
    (hresync : client.needsResync = false)
    (hpush : Pushes config canonical (outgoing .subscribed canonical.changeSequence timestampNs
      payload) client queued) : Continuity canonical queued.finishCatchup := by
  obtain ⟨hnone, hnoLoss⟩ := h.unreached hpush.active hsubscribed hresync
  obtain ⟨hcontinuous, hannounced, hreached, hpending⟩ := hpush.history h.continuous h.announced
    ⟨fun hlive => absurd hlive (by simp [MessageType.isLive]), fun _ => hnone⟩ nofun
  rw [hnoLoss, Bool.false_and] at hpending
  obtain ⟨slot, -, -, rfl⟩ := hpush.takes
  exact ⟨hcontinuous, hannounced, fun _ _ => hreached, nofun,
    fun _ hloss => absurd (hpending.symm.trans hloss) nofun,
    fun _ hneeds => absurd (hresync.symm.trans hneeds) nofun⟩

/-- `RESYNC_REQUIRED` announces the loss. -/
theorem resyncAnnounced (h : Continuity canonical client) (hresync : client.needsResync = true)
    (hpush : Pushes config canonical (outgoing .resyncRequired sequence timestampNs payload) client
      queued) : Continuity canonical { queued with resyncQueued := true } := by
  obtain ⟨hcontinuous, hannounced, hreached, hpending⟩ := hpush.history h.continuous h.announced
    ⟨fun hlive => absurd hlive (by simp [MessageType.isLive]),
      fun htype => absurd ((MessageType.code_inj .resyncRequired .subscribed).mp htype) nofun⟩ nofun
  have hsubscribed := h.unsubscribed hpush.active hresync
  rw [decide_eq_false (not_not_intro rfl), Bool.and_false] at hpending
  obtain ⟨slot, -, -, rfl⟩ := hpush.takes
  exact ⟨hcontinuous, hannounced, fun _ hsub => absurd (hsubscribed.symm.trans hsub) nofun,
    fun _ _ _ => hreached, fun _ hloss => absurd (hpending.symm.trans hloss) nofun, h.unsubscribed⟩

/-- A live message takes a subscriber from the old change sequence to the new one. -/
theorem pushedLive (h : Continuity before client)
    (hadvances : Advances before.changeSequence canonical.changeSequence)
    (hsubscribed : client.subscribed = true) (hresync : client.needsResync = false)
    (htype : type.isLive = true)
    (hpush : Pushes config canonical (outgoing type canonical.changeSequence timestampNs payload)
      client queued) : Continuity canonical queued := by
  have hbefore := h.reached hpush.active hsubscribed
  have hnoLoss : lossPending client.log = false := by
    rw [← Bool.not_eq_true]
    exact fun hloss => absurd ((h.pending hpush.active hloss).1.symm.trans hresync) nofun
  obtain ⟨hcontinuous, hannounced, hreached, hpending⟩ := hpush.history h.continuous h.announced
    (mayFollow_live htype fun previous hprevious =>
      Option.some.inj (hbefore.symm.trans hprevious) ▸ hadvances) (fun _ => hnoLoss)
  rw [followSequence_live htype, hbefore] at hreached
  rw [hnoLoss, Bool.false_and] at hpending
  obtain ⟨slot, -, -, rfl⟩ := hpush.takes
  exact ⟨hcontinuous, hannounced, fun _ _ => hreached,
    fun _ hsub => absurd (hsubscribed.symm.trans hsub) nofun,
    fun _ hloss => absurd (hpending.symm.trans hloss) nofun, h.unsubscribed⟩

/-- A dropped message ends the subscription. -/
theorem overflowed (h : Continuity before client) (hnot : client.resyncQueued = false)
    (hoverflow : Overflows config env type client client') : Continuity canonical client' := by
  have hmessages : queuedMessages client'.log = queuedMessages client.log := by
    rw [hoverflow.eq]
    exact (queuedMessages_append _ _).trans (List.append_nil _)
  have hcontinuous := h.continuous
  rw [← hmessages] at hcontinuous
  obtain ⟨-, -, rfl⟩ := hoverflow
  exact ⟨hcontinuous, h.announced.append nofun, nofun,
    fun _ _ htold => absurd ((htold rfl).symm.trans hnot) nofun, fun _ _ => ⟨rfl, hnot⟩,
    fun _ _ => rfl⟩

/-- Only a subscriber looks at the canonical state. -/
theorem recanonical (h : Continuity before client)
    (hquiet : before.changeSequence = canonical.changeSequence ∨ ¬ client.Live) :
    Continuity canonical client := by
  refine { h with reached := fun hactive hsubscribed => ?_ }
  rcases hquiet with hsame | hnotLive
  · exact hsame ▸ h.reached hactive hsubscribed
  · refine absurd ⟨hactive, hsubscribed, ?_⟩ hnotLive
    rw [← Bool.not_eq_true]
    exact fun hresync => absurd ((h.unsubscribed hactive hresync).symm.trans hsubscribed) nofun

/-- What is left of a session that was closed is its history. -/
theorem closed (h : Continuity before client) (hflags : SessionFlags client) :
    Continuity canonical (clientClose client) := by
  refine of_inactive hflags.closed_active ?_ ?_
  · rw [clientClose_log]
    exact h.continuous
  · rw [clientClose_log]
    exact h.announced

/-- A refused message breaks nothing. -/
theorem refused {failed : Client cat} (h : Continuity canonical client)
    (hrefused : Refused config client failed) : Continuity canonical failed := by
  cases hrefused with
  | unchanged => exact h
  | scrubbed slot hfree => exact { h with }

/-- A drive of a session that is not subscribed. -/
theorem drive (hmoves : ReflTransGen (DriveMove config canonical env) client client')
    (hcatching : client.active = true → client.catchupActive = true →
      client.subscribed = false ∧ client.needsResync = false)
    (h : Continuity canonical client) : Continuity canonical client' := by
  refine (drive_induction (P := fun c => Continuity canonical c ∧
    (c.active = true → c.catchupActive = true → c.subscribed = false ∧ c.needsResync = false)) ?_
    hmoves ⟨h, hcatching⟩).1
  rintro c c' hmove ⟨hc, hflags⟩
  cases hmove with
  | noted waiting reported => exact ⟨{ hc with }, hflags⟩
  | frames payload queued hguard hunsent hpayload hpush =>
    obtain ⟨hsubscribed, hresync⟩ := hflags hpush.active (driveGuard_catchupActive hguard)
    have hqueued := hc.caughtUp hsubscribed hresync rfl hpush
    obtain ⟨slot, -, -, rfl⟩ := hpush.takes
    exact ⟨{ hqueued with }, hflags⟩
  | signals payload queued hguard hframes hunsent hpayload hpush =>
    obtain ⟨hsubscribed, hresync⟩ := hflags hpush.active (driveGuard_catchupActive hguard)
    have hqueued := hc.caughtUp hsubscribed hresync rfl hpush
    obtain ⟨slot, -, -, rfl⟩ := hpush.takes
    exact ⟨{ hqueued with }, hflags⟩
  | round hguard hframes hsignals hdiffers => exact ⟨hc.rounded, hflags⟩
  | finish queued hguard hframes hsignals hsameFrames hsameSignals hpush =>
    obtain ⟨hsubscribed, hresync⟩ := hflags hpush.active (driveGuard_catchupActive hguard)
    exact ⟨hc.rounded.finished hsubscribed hresync hpush, fun _ => nofun⟩

/-- A drive that fails breaks nothing. -/
theorem driveFailed {failed : Client cat} (h : Continuity canonical client)
    (hfailure : DriveFailure config canonical env client failed) : Continuity canonical failed := by
  cases hfailure with
  | batch hguard hrefused => exact h.refused hrefused
  | finish hguard hframes hsignals hrefused => exact h.rounded.refused hrefused

/-- `RESYNC_REQUIRED` announces the loss. -/
theorem resynced (hflags : SessionFlags client) (hstep : ResyncStep config canonical client client')
    (h : Continuity canonical client) : Continuity canonical client' := by
  cases hstep with
  | none _ => exact h
  | queued queued hgreeted hresync hnot hpending hpush => exact h.resyncAnnounced hresync hpush
  | failed hrefused => exact (h.refused hrefused).closed (hflags.refused hrefused)

/-- A write completion goes on with a catch-up or announces a loss. -/
theorem resumed (hflags : SessionFlags client) (hresumes : Resumes config canonical env client client')
    (hcatching : client.active = true → client.catchupActive = true →
      client.subscribed = false ∧ client.needsResync = false)
    (h : Continuity canonical client) : Continuity canonical client' := by
  have hstable : Stable config canonical env (@SessionFlags cat) := SessionFlags.stable
  cases hresumes with
  | idle hcatchup hstep => exact h.resynced hflags hstep
  | @driven driven client' hcatchup hmoves hdone hstep =>
    have hall := hmoves.trans (noteWaiting_moves driven)
    exact (h.drive hall hcatching).resynced (drive_induction hstable.kept.moved hall hflags) hstep
  | failed hcatchup hmoves hfailure =>
    have hlast := drive_induction hstable.kept.moved hmoves hflags
    exact ((h.drive hmoves hcatching).driveFailed hfailure).closed
      (hstable.kept.driveFailed hfailure hlast)

/-- The batches of a distribution take a subscriber to the new change sequence together; the first
one of them makes the step. -/
theorem fannedOut {chunks : List (Option (List UInt8))} (hflags : SessionFlags client)
    (htype : type.isLive = true) (hsubscribed : client.subscribed = true)
    (hnot : client.resyncQueued = false)
    (hadvances : Advances before.changeSequence canonical.changeSequence)
    (hsilent : chunks = [] → before.changeSequence = canonical.changeSequence)
    (hfan : FansOut config canonical env type chunks client client') (h : Continuity before client) :
    Continuity canonical client' ∧ (client'.active = true → client'.needsResync = false →
      client'.subscribed = true ∧ client'.resyncQueued = false) := by
  have hstable : Stable config canonical env (@SessionFlags cat) := SessionFlags.stable
  induction hfan generalizing before with
  | done client => exact ⟨h.recanonical (Or.inl (hsilent rfl)), fun _ _ => ⟨hsubscribed, hnot⟩⟩
  | sent payload rest client queued client' hresync hpush _ ih =>
    have hqueued := h.pushedLive hadvances hsubscribed hresync htype hpush
    have hkept : queued.subscribed = true ∧ queued.resyncQueued = false := by
      obtain ⟨slot, -, -, rfl⟩ := hpush.takes
      exact ⟨hsubscribed, hnot⟩
    exact ih (hstable.pushed hpush hflags) hkept.1 hkept.2 (Or.inl rfl) (fun _ => rfl) hqueued
  | overflowed chunks client client' hresync hoverflow =>
    refine ⟨h.overflowed hnot hoverflow, fun _ hresync' => ?_⟩
    rw [hoverflow.eq] at hresync'
    contradiction
  | failed chunks client failed hrefused =>
    have hfailed := hflags.refused hrefused
    exact ⟨(h.refused hrefused).closed hfailed,
      fun hactive => absurd (hfailed.closed_active.symm.trans hactive) nofun⟩

/-- A whole distribution. -/
theorem distributed {sample : Sample cat} (hflags : SessionFlags client)
    (hsubscribed : client.subscribed = true) (hnot : client.resyncQueued = false)
    (hdistributes : Distributes config (before.consume sample) env (before.delta sample).1
      (before.delta sample).2 client client') (h : Continuity before client) :
    Continuity (before.consume sample) client' := by
  have hstable : Stable config (before.consume sample) env (@SessionFlags cat) := SessionFlags.stable
  have hadvances := before.consume_changeSequence sample
  have hsilent : frameChunks (before.consume sample) (before.delta sample).1 = [] →
      before.changeSequence = (before.consume sample).changeSequence := by
    intro hnone
    refine (before.consume_changeSequence_of_delta ?_).symm
    by_contra hchanged
    exact chunks_ne_nil framesPerMessage _ hchanged (List.map_eq_nil_iff.mp hnone)
  cases hdistributes with
  | stopped hframes hstopped =>
    exact (h.fannedOut hflags rfl hsubscribed hnot hadvances hsilent hframes).1
  | both hframes hactive hresync hsignals =>
    obtain ⟨hsent, hkept⟩ := h.fannedOut hflags rfl hsubscribed hnot hadvances hsilent hframes
    obtain ⟨hsubscribed', hnot'⟩ := hkept hactive hresync
    have hflags' := (hstable.kept.fannedOut hframes nofun nofun hsubscribed hflags).1
    exact (hsent.fannedOut hflags' rfl hsubscribed' hnot' (Or.inl rfl) (fun _ => rfl) hsignals).1

/-- The answer to the next request of the SDK. -/
theorem replied {request : Message} (hsubscribed : client.subscribed = false)
    (htold : client.needsResync = true → client.resyncQueued = true)
    (hreply : Reply config canonical env request client client') (h : Continuity canonical client) :
    Continuity canonical client' := by
  cases hreply with
  | welcome queued htype hgreeted hpush => exact { h.answered rfl hpush with }
  | schema startIndex payload queued htype hgreeted hstart hpayload hpush =>
    exact h.answered rfl hpush
  | pong queued htype hgreeted hpush => exact h.answered rfl hpush
  | firstFramePage payload queued htype hgreeted hstart hinactive hpayload hpush =>
    exact { (h.begun htold).answered rfl hpush with }
  | framePage startIndex payload queued htype hgreeted hstart hactive hframes hnext hlt hpayload
      hpush =>
    exact { h.answered rfl hpush with }
  | signalPage startIndex payload queued htype hgreeted hstart hactive hframes hnext hlt hpayload
      hpush =>
    exact { h.answered rfl hpush with }
  | subscribe driven htype hgreeted hresync hcomplete hmoves hdone =>
    have hcatching : Continuity canonical { client with catchupActive := true } := { h with }
    exact hcatching.rounded.drive (hmoves.trans (noteWaiting_moves driven))
      fun _ _ => ⟨hsubscribed, hresync⟩

/-- A request that fails closes the session. -/
theorem aborted {request : Message} {failed : Client cat} (hsubscribed : client.subscribed = false)
    (htold : client.needsResync = true → client.resyncQueued = true)
    (hfailure : CommandFailure config canonical env request client failed)
    (h : Continuity canonical client) : Continuity canonical failed := by
  cases hfailure with
  | refused hrefused => exact h.refused hrefused
  | snapshot hgreeted hinactive hrefused => exact (h.begun htold).refused hrefused
  | subscribe htype hgreeted hresync hcomplete hmoves hdrive =>
    have hcatching : Continuity canonical { client with catchupActive := true } := { h with }
    exact (hcatching.rounded.drive hmoves fun _ _ => ⟨hsubscribed, hresync⟩).driveFailed hdrive

/-- Every event keeps the history of a session continuous. -/
theorem evolved {R : Frame → Frame → Prop} {event : Event cat} {s : Fin maxClients} {handled : ℕ}
    (hflags : SessionFlags client)
    (hsent : ∀ env request, event = .request s env request → client.active = true →
      client.sdk.sent[handled]? = some request)
    (hcoherent : client.active = true → Coherent config R before client handled client.sdk)
    (hevolves : Evolves config canonical before event s client client')
    (h : Continuity before client) : Continuity canonical client' := by
  have hstable : Stable config canonical (event.answers s) (@SessionFlags cat) := SessionFlags.stable
  cases hevolves with
  | idle hevent hquiet => exact h.recanonical (hquiet.imp_left Canonical.Same.changeSequence)
  | closed => exact h.closed hflags
  | replied request hevent hcanonical hactive hreply =>
    subst hcanonical
    obtain ⟨hsubscribed, htold⟩ := (hcoherent hactive).awaited (hsent _ request hevent hactive)
    exact h.replied hsubscribed htold hreply
  | aborted request hevent hcanonical hactive hfailure =>
    subst hcanonical
    obtain ⟨hsubscribed, htold⟩ := (hcoherent hactive).awaited (hsent _ request hevent hactive)
    exact (h.aborted hsubscribed htold hfailure).closed (hstable.kept.commandFailed hfailure hflags)
  | writeFailed slot hused =>
    have hreleased : Continuity before (client.release slot) := { h with }
    exact hreleased.closed (hstable.released hused hflags)
  | written slot hevent hcanonical hused hresumes =>
    subst hcanonical
    have hreleased : Continuity before (client.release slot) := { h with }
    refine hreleased.resumed (hstable.released hused hflags) hresumes fun hactive hcatchup => ?_
    have hcatching := ((hcoherent hactive).catchingUp hcatchup).1
    exact ⟨hcatching.flags.subscribed, hcatching.flags.needsResync⟩
  | distributed env sample hevent hcanonical hlive hdistributes =>
    subst hcanonical
    have hstreaming := ((hcoherent hlive.1).streaming hlive).1
    exact h.distributed hflags hlive.2.1 hstreaming.resyncQueued hdistributes
  | heartbeat nowNs env sourceState hevent hsame hgreeted hlive hpush =>
    exact h.pushedLive (Or.inl hsame.changeSequence.symm) hlive.2.1 hlive.2.2 rfl hpush
  | heartbeatOverflow nowNs env hevent hsame hgreeted hlive hoverflow =>
    exact h.overflowed ((hcoherent hlive.1).streaming hlive).1.resyncQueued hoverflow
  | heartbeatFailed hrefused => exact (h.refused hrefused).closed (hflags.refused hrefused)
  | fresh hbefore hfresh => exact fresh hfresh

end Continuity

/-- In every run with a session in SDK order the history of the session is continuous. -/
theorem run_continuity (config : Config cat) (fake : Option Bool) (tick : Tick cat)
    (events : List (Event cat)) (s : Fin maxClients)
    (horder : Meets (watchStep config s) (WireOrder s) (watchInit config fake tick) events) :
    Continuity (run config fake tick events).canonical ((run config fake tick events).clients s) := by
  obtain ⟨hsdkOrder, hrun⟩ := wireOrder_unstamped horder
  have hinvariant := hsdkOrder.invariant (I := fun watched : Watched cat =>
    InLockstep config (fun _ _ => True) s watched ∧
      Continuity watched.daemon.canonical (watched.daemon.clients s)) ?_
    ⟨.init config _ s fake tick, .fresh .zero⟩
  · rw [← hrun, run_eq_watched config fake tick _ s]
    exact hinvariant.2
  · rintro event - watched hgood ⟨hlockstep, hcontinuity⟩
    refine ⟨hlockstep.step (comparison_top cat) hgood
      ⟨fun _ _ _ _ _ => trivial, fun _ _ _ _ _ _ _ => trivial⟩, ?_⟩
    exact hcontinuity.evolved hlockstep.flags (sdkOrder_sent hgood) hlockstep.coherent
      (step_evolves config watched.daemon event s)

/-- In every run of the daemon with a session in SDK order, from each `SUBSCRIBED` to the next
`RESYNC_REQUIRED` the change sequences of the live messages advance by at most one, so that no gap is
counted; and after a dropped message none is queued before the session was told about the loss or
started over. -/
theorem run_loss_announced (config : Config cat) (fake : Option Bool) (tick : Tick cat)
    (events : List (Event cat)) (s : Fin maxClients)
    (horder : Meets (watchStep config s) (WireOrder s) (watchInit config fake tick) events) :
    let log := ((run config fake tick events).clients s).log
    (∀ past subscribed stretch, past ++ subscribed :: stretch <+: queuedMessages log →
      subscribed.header.type = MessageType.subscribed.code →
      (∀ message ∈ stretch, message.header.type ≠ MessageType.resyncRequired.code) →
      List.IsChain Advances (subscribed.header.sequence :: liveSequences stretch) ∧
        ∀ gaps, ((liveSequences stretch).foldl observeChangeSequence
          (subscribed.header.sequence, gaps)).2 = gaps) ∧
    ∀ past type between message canonical,
      past ++ .dropped type :: (between ++ [.queued message canonical]) <+: log →
      message.isLive = true → ∃ entry ∈ between, entry.announcesLoss = true := by
  have hcontinuity := run_continuity config fake tick events s horder
  refine ⟨fun past subscribed stretch hpast hsubscribed hstretch => ?_,
    fun past type between message canonical hpast hlive => ?_⟩
  · have hchain := (hcontinuity.continuous.stretch hpast hsubscribed hstretch).1
    exact ⟨hchain, fun gaps => observeChangeSequence_gaps _ _ gaps hchain⟩
  · rw [← List.cons_append, ← List.append_assoc] at hpast
    exact exists_announcesLoss (hcontinuity.announced _ message canonical hpast hlive)

/-- After the second subscription the frames of a sample are queued and its signals dropped. -/
def partialLossRun : List (Event singleCatalog) :=
  resyncRun ++ [singleWriteDone] ++ singleSample 1 40

/-- A session that loses the second batch of a sample is told so before the next one. -/
theorem run_loss_announced_resync :
    let messages := queuedMessages (singleSession partialLossRun).log
    (singleSession partialLossRun).droppedBatches = 2 ∧ liveSequences (messages.drop 11) = [3] ∧
      List.IsChain Advances (2 :: liveSequences (messages.drop 11)) := by
  refine ⟨by decide +kernel, by decide +kernel, ?_⟩
  rw [singleSession]
  exact ((run_loss_announced singleConfig none (singleTick 0 10) partialLossRun firstSession
    (by decide +kernel)).1
    ((queuedMessages (singleSession partialLossRun).log).take 10) (outgoing .subscribed 2 30 [])
    ((queuedMessages (singleSession partialLossRun).log).drop 11) (by decide +kernel)
    (by decide +kernel) (by decide +kernel)).1

end Roadcast
