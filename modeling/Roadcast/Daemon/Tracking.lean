import Roadcast.Sdk.Folding

/-!
# What was sent follows the canonical state

Whatever a session requests, the arrays folded from what it was sent since its last frozen snapshot
follow the canonical state. `Follows` is the invariant. While pages are being sent, an entry already
paged is that of the session's copy, or the current one if live updates reached it since. During a
catch-up, an entry that is not on the lists is that of the copy. A round moves the copy forward and
lists what it left behind, so at the end of a catch-up every entry is current.
-/

namespace Roadcast

open SlotPool Relation DeltaSync Chunks Runs

variable {cat : Catalog} {config : Config cat} {canonical : Canonical cat} {env : Env cat}

/-- A frame that a round does not list matches the copy. -/
theorem unlisted_frame {client : Client cat} {i : Fin cat.frameCount}
    (h : i ∉ differingFrames canonical.frames client.snapshotFrames) {a : Frame}
    (ha : FrameMatches a (client.snapshotFrames i)) : FrameMatches a (canonical.frames i) := by
  rw [mem_differingFrames, Bool.not_eq_true] at h
  exact ha.of_same h

/-- The arrays sent to a session follow the canonical state. -/
structure Follows (canonical : Canonical cat) (client : Client cat) : Prop where
  started : client.active = true → client.catchupActive = true ∨ client.subscribed = true →
    (snapshotHistory client.log).isSome = true
  copy : client.active = true → (snapshotHistory client.log).isSome = true → CopySound client
  paging : client.active = true → client.catchupActive = false → client.needsResync = false →
    Tracks (paged FrameMatches client.snapshotNextFrameIndex client.snapshotFrames canonical.frames
      (client.subscribed = true)) (entries cat.frameCount (sentReplica client.log).frames) [] ∧
    Tracks (paged Eq client.snapshotNextIndex client.snapshotSignals canonical.signals
      (client.subscribed = true)) (entries cat.signalCount (sentReplica client.log).signals) []
  catching : client.active = true → client.catchupActive = true →
    Tracks (fun i a => FrameMatches a (client.snapshotFrames i))
      (entries cat.frameCount (sentReplica client.log).frames) client.unsentFrames ∧
    Tracks (fun i a => a = client.snapshotSignals i)
      (entries cat.signalCount (sentReplica client.log).signals) client.unsentSignals

/-- The arrays agree with a canonical state. -/
def Replica.Agrees (replica : Replica) (canonical : Canonical cat) : Prop :=
  (∀ i : Fin cat.frameCount, FrameMatches (replica.frames i.val) (canonical.frames i)) ∧
    ∀ i : Fin cat.signalCount, replica.signals i.val = canonical.signals i

/-- No round in the history replaced lists with unsent entries. -/
def NothingDiscarded (log : List (LogEntry cat)) : Prop :=
  ∀ frames signals, LogEntry.roundBegun frames signals ∈ log → frames = [] ∧ signals = []

/-- At every subscription in the history the arrays agreed with the canonical state of that
moment. -/
def SubscriptionsAgree (log : List (LogEntry cat)) : Prop :=
  ∀ past message canonical, past ++ [LogEntry.queued message canonical] <+: log →
    message.header.type = MessageType.subscribed.code → (sentReplica past).Agrees canonical

section History

variable {log : List (LogEntry cat)}

/-- An entry that begins no round with entries discards nothing. -/
theorem NothingDiscarded.append (h : NothingDiscarded log) {entry : LogEntry cat}
    (hentry : ∀ frames signals, entry = .roundBegun frames signals → frames = [] ∧ signals = []) :
    NothingDiscarded (log ++ [entry]) := by
  intro frames signals hmem
  rcases List.mem_append.mp hmem with hold | hnew
  · exact h frames signals hold
  · exact hentry frames signals (List.mem_singleton.mp hnew).symm

/-- A round that replaces lists without unsent entries. -/
theorem NothingDiscarded.round (h : NothingDiscarded log) {frames : List (Fin cat.frameCount)}
    {signals : List (Fin cat.signalCount)} (hframes : frames = []) (hsignals : signals = []) :
    NothingDiscarded (log ++ [.roundBegun frames signals]) := by
  refine h.append fun frames' signals' heq => ?_
  injection heq with heqFrames heqSignals
  exact ⟨heqFrames.symm.trans hframes, heqSignals.symm.trans hsignals⟩

/-- An entry other than `SUBSCRIBED` needs no agreement. -/
theorem SubscriptionsAgree.append (h : SubscriptionsAgree log) {entry : LogEntry cat}
    (hentry : ∀ message canonical, entry = .queued message canonical →
      message.header.type = MessageType.subscribed.code → (sentReplica log).Agrees canonical) :
    SubscriptionsAgree (log ++ [entry]) := by
  intro past message canonical hpast htype
  rcases List.prefix_concat_iff.mp hpast with heq | hold
  · obtain ⟨rfl, hlast⟩ := List.append_inj' heq rfl
    exact hentry message canonical (List.singleton_inj.mp hlast).symm htype
  · exact h past message canonical hold htype

/-- A queued message that is no subscription. -/
theorem SubscriptionsAgree.queued (h : SubscriptionsAgree log) {type : MessageType}
    (htype : type ≠ .subscribed) (sequence timestampNs : UInt64) (payload : List UInt8)
    (canonical : Canonical cat) :
    SubscriptionsAgree (log ++ [.queued (outgoing type sequence timestampNs payload) canonical]) := by
  refine h.append fun message k heq hmessage => ?_
  injection heq with heq
  subst heq
  exact absurd ((MessageType.code_inj _ _).mp hmessage) htype

end History

/-- The fields of a session, flags apart, that `Follows` depends on. -/
def Client.followView (client : Client cat) :=
  (client.catchupActive, client.subscribed, client.snapshotNextFrameIndex,
    client.snapshotNextIndex, client.snapshotFrames, client.snapshotSignals, client.unsentFrames,
    client.unsentSignals)

namespace Follows

/-- Only the fields of the catch-up, the history and what was sent matter. -/
theorem of_same {client client' : Client cat} (h : Follows canonical client)
    (hview : client'.followView = client.followView)
    (hactive : client'.active = true → client.active = true)
    (hresync : client'.needsResync = false → client.needsResync = false)
    (hhistory : (snapshotHistory client'.log).isSome = (snapshotHistory client.log).isSome)
    (hreplica : sentReplica client'.log = sentReplica client.log) : Follows canonical client' := by
  simp only [Client.followView, Prod.mk.injEq] at hview
  obtain ⟨hcatchup, hsubscribed, hnextFrame, hnext, hframes, hsignals, hunsentFrames,
    hunsentSignals⟩ := hview
  refine ⟨fun hactive' => ?_, fun hactive' => ?_, fun hactive' => ?_, fun hactive' => ?_⟩
  · rw [hcatchup, hsubscribed, hhistory]
    exact h.started (hactive hactive')
  · rw [hhistory]
    intro hsome
    have hcopy := h.copy (hactive hactive') hsome
    refine ⟨?_, ?_⟩
    · rw [hframes]
      exact hcopy.frames
    · rw [hsignals]
      exact hcopy.signals
  · rw [hcatchup, hreplica, hnextFrame, hnext, hframes, hsignals, hsubscribed]
    exact fun hnot hresync' => h.paging (hactive hactive') hnot (hresync hresync')
  · rw [hcatchup, hreplica, hframes, hsignals, hunsentFrames, hunsentSignals]
    exact h.catching (hactive hactive')

/-- A session that is not active need not follow anything. -/
theorem of_inactive {client : Client cat} (hinactive : client.active = false) :
    Follows canonical client := by
  have hnot : ¬ client.active = true := by simp [hinactive]
  exact ⟨fun h => absurd h hnot, fun h => absurd h hnot, fun h => absurd h hnot,
    fun h => absurd h hnot⟩

/-- Closing a session leaves nothing to follow. -/
theorem closed {client : Client cat} (h : Follows canonical client) :
    Follows canonical (clientClose client) := by
  unfold clientClose
  split
  · exact h
  · exact of_inactive rfl

/-- A refused message sends nothing. -/
theorem refused {client failed : Client cat} (h : Follows canonical client)
    (hrefused : Refused config client failed) : Follows canonical failed := by
  cases hrefused with
  | unchanged => exact h
  | scrubbed slot hfree => exact h.of_same rfl id id rfl rfl

/-- A session that lost data need not follow until its next snapshot. -/
theorem overflowed {type : MessageType} {client client' : Client cat} (h : Follows canonical client)
    (hoverflow : Overflows config env type client client') : Follows canonical client' := by
  rw [hoverflow.eq]
  have hhistory : snapshotHistory (client.overflow type env.monotonicNs).log =
      snapshotHistory client.log := by
    rw [Client.overflow, snapshotHistory_append_singleton]
    rfl
  refine ⟨?_, ?_, ?_, ?_⟩
  · rw [hhistory]
    intro hactive hor
    simp only [Client.overflow, Bool.false_eq_true, or_false] at hor
    exact h.started hactive (Or.inl hor)
  · rw [hhistory]
    intro hactive hsome
    have hcopy := h.copy hactive hsome
    exact ⟨hcopy.frames, hcopy.signals⟩
  · exact fun _ _ hresync => absurd hresync (by simp [Client.overflow])
  · intro hactive hcatchup
    have hreplica : sentReplica (client.overflow type env.monotonicNs).log =
        sentReplica client.log := sentReplica_dropped _ _
    rw [hreplica]
    exact h.catching hactive hcatchup

/-- Another canonical state is followed by sessions that are not live, and by all sessions if
nothing in it changed. -/
theorem recanonical {before : Canonical cat} {client : Client cat} (h : Follows before client)
    (hquiet : before.Same canonical ∨ ¬ client.Live) : Follows canonical client := by
  refine ⟨h.started, h.copy, fun hactive hcatchup hresync => ?_, h.catching⟩
  obtain ⟨hframes, hsignals⟩ := h.paging hactive hcatchup hresync
  rcases hquiet with hsame | hnotLive
  · rw [← hsame.frames, ← hsame.signals]
    exact ⟨hframes, hsignals⟩
  · have hnot : ¬ client.subscribed = true := fun hsub => hnotLive ⟨hactive, hsub, hresync⟩
    refine ⟨hframes.retarget (fun _ => id) fun i _ a ha => ?_,
      hsignals.retarget (fun _ => id) fun i _ a ha => ?_⟩
    · exact ha.imp_right (Or.imp_right fun hlive => absurd hlive.1 hnot)
    · exact ha.imp_right (Or.imp_right fun hlive => absurd hlive.1 hnot)

/-- A queued message begins no snapshot. -/
theorem isSome_queued (log : List (LogEntry cat)) (message : Message) (canonical : Canonical cat) :
    (snapshotHistory (log ++ [.queued message canonical])).isSome = (snapshotHistory log).isSome := by
  rw [snapshotHistory_append_singleton]
  cases snapshotHistory log <;> rfl

/-- A message without records changes nothing. -/
theorem pushed {type : MessageType} {sequence timestampNs : UInt64} {payload : List UInt8}
    {client client' : Client cat} (h : Follows canonical client)
    (hpush : Pushes config canonical (outgoing type sequence timestampNs payload) client client')
    (htype : ¬ CarriesRecords type) : Follows canonical client' := by
  obtain ⟨slot, -, -, rfl⟩ := hpush.takes
  refine h.of_same rfl id id (isSome_queued _ _ _) ?_
  exact sentReplica_other htype _ _ _ _ _

/-- A snapshot begins with nothing sent. -/
theorem begun (hsound : canonical.Sound) {client : Client cat}
    (hcatchup : client.catchupActive = false) :
    Follows canonical (beginSnapshot canonical env client) := by
  have hsome : (snapshotHistory (beginSnapshot canonical env client).log).isSome = true := by
    rw [beginSnapshot, snapshotHistory_append_singleton]
    rfl
  refine ⟨fun _ _ => hsome, fun _ _ => ⟨hsound.frames, hsound.signals⟩, fun _ _ _ => ?_, ?_⟩
  · exact ⟨Tracks.unpaged _, Tracks.unpaged _⟩
  · exact fun _ hnot => absurd (hcatchup.symm.trans hnot) (by simp)

/-- A frame page extends what was sent. -/
theorem framePage {startIndex : UInt32} {payload : List UInt8} {client queued : Client cat}
    (h : Follows canonical client) (hsome : (snapshotHistory client.log).isSome = true)
    (hcatchup : client.catchupActive = false)
    (hpayload : framePagePayload client startIndex = some payload)
    (hpush : Pushes config canonical (outgoing .snapshot client.snapshotChangeSequence
      client.snapshotTimestampNs payload) client queued)
    (hnext : startIndex.toNat = client.snapshotNextFrameIndex)
    (hlt : startIndex.toNat < cat.frameCount) :
    Follows canonical (queued.advanceFrames (framePageIndices cat startIndex.toNat).length) := by
  have hcopy := h.copy hpush.active hsome
  obtain ⟨slot, -, -, rfl⟩ := hpush.takes
  refine ⟨fun _ _ => ?_, fun _ _ => ⟨hcopy.frames, hcopy.signals⟩, fun hactive _ hresync => ?_, ?_⟩
  · exact (isSome_queued _ _ _).trans hsome
  · obtain ⟨hframes, hsignals⟩ := h.paging hactive hcatchup hresync
    simp only [Client.record, Client.fill, Client.advanceFrames]
    rw [sentReplica_queued hsome]
    obtain ⟨hfold, hsame⟩ := foldMessage_framePage (sentReplica client.log) hcopy.frames hlt hpayload
    rw [hfold, hsame, hnext]
    exact ⟨hframes.page (fun _ => ⟨rfl, rfl⟩) framesPerMessage, hsignals⟩
  · exact fun _ hnot => absurd (hcatchup.symm.trans hnot) (by simp)

/-- A signal page extends what was sent. -/
theorem signalPage {startIndex : UInt32} {payload : List UInt8} {client queued : Client cat}
    (h : Follows canonical client) (hsome : (snapshotHistory client.log).isSome = true)
    (hcatchup : client.catchupActive = false)
    (hpayload : signalPagePayload client startIndex = some payload)
    (hpush : Pushes config canonical (outgoing .signalSnapshotChunk client.snapshotChangeSequence
      client.snapshotTimestampNs payload) client queued)
    (hnext : startIndex.toNat = client.snapshotNextIndex)
    (hlt : startIndex.toNat < cat.signalCount) :
    Follows canonical (queued.advanceSignals (signalPageIndices cat startIndex.toNat).length) := by
  have hcopy := h.copy hpush.active hsome
  obtain ⟨slot, -, -, rfl⟩ := hpush.takes
  refine ⟨fun _ _ => ?_, fun _ _ => ⟨hcopy.frames, hcopy.signals⟩, fun hactive _ hresync => ?_, ?_⟩
  · exact (isSome_queued _ _ _).trans hsome
  · obtain ⟨hframes, hsignals⟩ := h.paging hactive hcatchup hresync
    simp only [Client.record, Client.fill, Client.advanceSignals]
    rw [sentReplica_queued hsome]
    obtain ⟨hfold, hsame⟩ := foldMessage_signalPage (sentReplica client.log) hcopy.signals hlt hpayload
    rw [hfold, hsame, hnext]
    exact ⟨hframes, hsignals.page (fun _ => rfl) signalsPerMessage⟩
  · exact fun _ hnot => absurd (hcatchup.symm.trans hnot) (by simp)

/-- A round without unsent entries moves the copy forward. -/
theorem rounded {client : Client cat} (hsound : canonical.Sound) (h : Follows canonical client)
    (hcatchup : client.catchupActive = true) (hframes : client.unsentFrames = [])
    (hsignals : client.unsentSignals = []) :
    Follows canonical (beginCatchupRound canonical client) := by
  have hreplica : sentReplica (beginCatchupRound canonical client).log = sentReplica client.log :=
    sentReplica_round _ _ _
  refine ⟨fun hactive _ => ?_, fun _ _ => ⟨hsound.frames, hsound.signals⟩, ?_, fun hactive _ => ?_⟩
  · rw [beginCatchupRound, snapshotHistory_append_singleton]
    exact h.started hactive (Or.inl hcatchup)
  · exact fun _ hnot => absurd (hcatchup.symm.trans hnot) (by simp)
  · obtain ⟨htrackFrames, htrackSignals⟩ := h.catching hactive hcatchup
    have hcopy := h.copy hactive (h.started hactive (Or.inl hcatchup))
    rw [hframes] at htrackFrames
    rw [hsignals] at htrackSignals
    rw [hreplica]
    exact ⟨htrackFrames.retarget (List.forall_mem_nil _) fun i hi a ha => unlisted_frame hi ha,
      htrackSignals.retarget (List.forall_mem_nil _) fun i hi a ha =>
        unlisted_signal hsound hcopy hi ha⟩

/-- `SUBSCRIBE_ALL` without unsent entries begins a round that lists what the session lacks. -/
theorem subscribing {client : Client cat} (hsound : canonical.Sound) (h : Follows canonical client)
    (hresync : client.needsResync = false)
    (hsome : (snapshotHistory client.log).isSome = true)
    (hnextFrame : client.snapshotNextFrameIndex = cat.frameCount)
    (hnext : client.snapshotNextIndex = cat.signalCount) (hframes : client.unsentFrames = [])
    (hsignals : client.unsentSignals = []) :
    Follows canonical (beginCatchupRound canonical { client with catchupActive := true }) := by
  cases hcatchup : client.catchupActive with
  | true =>
    have hsame : Follows canonical { client with catchupActive := true } := by
      refine h.of_same ?_ id id rfl rfl
      simp [Client.followView, hcatchup, Client.unsentFrames, Client.unsentSignals]
    exact hsame.rounded hsound rfl hframes hsignals
  | false =>
    have hreplica :
        sentReplica (beginCatchupRound canonical { client with catchupActive := true }).log =
          sentReplica client.log := sentReplica_round _ _ _
    refine ⟨fun _ _ => ?_, fun _ _ => ⟨hsound.frames, hsound.signals⟩, ?_, fun hactive _ => ?_⟩
    · rw [beginCatchupRound, snapshotHistory_append_singleton]
      exact hsome
    · exact fun _ hnot => absurd hnot (by simp [beginCatchupRound])
    · have hcopy := h.copy hactive hsome
      obtain ⟨htrackFrames, htrackSignals⟩ := h.paging hactive hcatchup hresync
      rw [hnextFrame] at htrackFrames
      rw [hnext] at htrackSignals
      rw [hreplica]
      exact ⟨htrackFrames.subscribe fun i hi a ha => unlisted_frame hi ha,
        htrackSignals.subscribe fun i hi a ha => unlisted_signal hsound hcopy hi ha⟩

/-- A catch-up batch of frames shortens the list. -/
theorem sentFrames {payload : List UInt8} {client queued : Client cat}
    (hinjective : Function.Injective cat.canIds) (h : Follows canonical client)
    (hcatchup : client.catchupActive = true) (hpayload : catchupFramePayload client = some payload)
    (hpush : Pushes config canonical (outgoing .updateBatch client.catchupChangeSequence
      client.catchupTimestampNs payload) client queued) :
    Follows canonical { queued with
      catchupFrameOffset :=
        queued.catchupFrameOffset + (client.unsentFrames.take framesPerMessage).length } := by
  have hsome := h.started hpush.active (Or.inl hcatchup)
  have hcopy := h.copy hpush.active hsome
  obtain ⟨htrackFrames, htrackSignals⟩ := h.catching hpush.active hcatchup
  obtain ⟨slot, -, -, rfl⟩ := hpush.takes
  refine ⟨fun _ _ => ?_, fun _ _ => ⟨hcopy.frames, hcopy.signals⟩, ?_, fun _ _ => ?_⟩
  · exact (isSome_queued _ _ _).trans hsome
  · exact fun _ hnot => absurd (hcatchup.symm.trans hnot) (by simp)
  · simp only [Client.record, Client.fill]
    rw [sentReplica_queued hsome]
    obtain ⟨hfold, hsame⟩ := foldMessage_frameUpdate (sentReplica client.log) hinjective
      hcopy.frames hpayload
    rw [hfold, hsame]
    refine ⟨?_, htrackSignals⟩
    have hsplit := unsent_split client.catchupFrameIndices client.catchupFrameOffset framesPerMessage
    unfold Client.unsentFrames at htrackFrames ⊢
    rw [hsplit] at htrackFrames
    exact htrackFrames.send fun i _ => ⟨rfl, rfl⟩

/-- A catch-up batch of signals shortens the list. -/
theorem sentSignals {payload : List UInt8} {client queued : Client cat} (h : Follows canonical client)
    (hcatchup : client.catchupActive = true) (hpayload : catchupSignalPayload client = some payload)
    (hpush : Pushes config canonical (outgoing .signalUpdateBatch client.catchupChangeSequence
      client.catchupTimestampNs payload) client queued) :
    Follows canonical { queued with
      catchupSignalOffset :=
        queued.catchupSignalOffset + (client.unsentSignals.take signalsPerMessage).length } := by
  have hsome := h.started hpush.active (Or.inl hcatchup)
  have hcopy := h.copy hpush.active hsome
  obtain ⟨htrackFrames, htrackSignals⟩ := h.catching hpush.active hcatchup
  obtain ⟨slot, -, -, rfl⟩ := hpush.takes
  refine ⟨fun _ _ => ?_, fun _ _ => ⟨hcopy.frames, hcopy.signals⟩, ?_, fun _ _ => ?_⟩
  · exact (isSome_queued _ _ _).trans hsome
  · exact fun _ hnot => absurd (hcatchup.symm.trans hnot) (by simp)
  · simp only [Client.record, Client.fill]
    rw [sentReplica_queued hsome]
    obtain ⟨hfold, hsame⟩ := foldMessage_signalUpdate (sentReplica client.log) hcopy.signals hpayload
    rw [hfold, hsame]
    refine ⟨htrackFrames, ?_⟩
    have hsplit := unsent_split client.catchupSignalIndices client.catchupSignalOffset
      signalsPerMessage
    unfold Client.unsentSignals at htrackSignals ⊢
    rw [hsplit] at htrackSignals
    exact htrackSignals.send fun i _ => rfl

/-- A session that has caught up has been sent every current entry. -/
theorem agrees {client : Client cat} (h : Follows canonical client) (hactive : client.active = true)
    (hcatchup : client.catchupActive = true) (hframes : client.unsentFrames = [])
    (hsignals : client.unsentSignals = []) (hcopyFrames : client.snapshotFrames = canonical.frames)
    (hcopySignals : client.snapshotSignals = canonical.signals) :
    (sentReplica client.log).Agrees canonical := by
  obtain ⟨htrackFrames, htrackSignals⟩ := h.catching hactive hcatchup
  rw [hframes, hcopyFrames] at htrackFrames
  rw [hsignals, hcopySignals] at htrackSignals
  exact ⟨htrackFrames.settled, htrackSignals.settled⟩

/-- The subscription that ends a catch-up leaves a live session. -/
theorem finished {client : Client cat} (h : Follows canonical client)
    (hcatchup : client.catchupActive = true) (hframes : client.unsentFrames = [])
    (hsignals : client.unsentSignals = []) : Follows canonical client.finishCatchup := by
  refine ⟨fun hactive _ => h.started hactive (Or.inl hcatchup), fun hactive hsome => ?_,
    fun hactive _ _ => ?_, nofun⟩
  · have hcopy := h.copy hactive hsome
    exact ⟨hcopy.frames, hcopy.signals⟩
  obtain ⟨htrackFrames, htrackSignals⟩ := h.catching hactive hcatchup
  rw [hframes] at htrackFrames
  rw [hsignals] at htrackSignals
  exact ⟨htrackFrames.retarget (List.forall_mem_nil _) fun i _ a ha => Or.inr (Or.inl ha),
    htrackSignals.retarget (List.forall_mem_nil _) fun i _ a ha => Or.inr (Or.inl ha)⟩

end Follows

end Roadcast
