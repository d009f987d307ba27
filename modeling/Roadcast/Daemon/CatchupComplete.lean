import Roadcast.Daemon.Tracking

/-!
# Catch-up is complete

`CaughtUp` holds of every session along every run: what was sent follows the canonical state, and each
`SUBSCRIBED` was sent when the arrays agreed with it. One lemma for each thing that can happen to a
session, then the runs.

One request breaks this: `SUBSCRIBE_ALL` during a catch-up begins a round while listed entries are
still unsent, and those entries are never sent.
-/

namespace Roadcast

open SlotPool Relation DeltaSync Chunks Runs

variable {cat : Catalog} {config : Config cat} {canonical : Canonical cat} {env : Env cat}

/-- A refused message leaves a catch-up as it is. -/
theorem Refused.catchupActive {client failed : Client cat}
    (h : Refused config client failed) : failed.catchupActive = client.catchupActive := by
  cases h with
  | unchanged => rfl
  | scrubbed slot hfree => rfl

/-- A refused message leaves no trace in the history. -/
theorem Refused.log {client failed : Client cat} (h : Refused config client failed) :
    failed.log = client.log := by
  cases h with
  | unchanged => rfl
  | scrubbed slot hfree => rfl

/-- What was sent to a session follows the canonical state, no listed entry was discarded, and every
subscription found the session caught up. -/
structure CaughtUp (canonical : Canonical cat) (client : Client cat) : Prop where
  follows : Follows canonical client
  kept : NothingDiscarded client.log
  agreed : SubscriptionsAgree client.log

namespace CaughtUp

/-- An update that leaves the history alone. -/
theorem of_follows {client client' : Client cat} (h : CaughtUp canonical client)
    (hfollows : Follows canonical client') (hlog : client'.log = client.log) :
    CaughtUp canonical client' := by
  refine ⟨hfollows, ?_, ?_⟩
  · rw [hlog]
    exact h.kept
  · rw [hlog]
    exact h.agreed

/-- A queued message that is no subscription. -/
theorem of_push {type : MessageType} {sequence timestampNs : UInt64} {payload : List UInt8}
    {client queued client' : Client cat} (h : CaughtUp canonical client)
    (hpush : Pushes config canonical (outgoing type sequence timestampNs payload) client queued)
    (hfollows : Follows canonical client') (hlog : client'.log = queued.log)
    (htype : type ≠ .subscribed) : CaughtUp canonical client' := by
  obtain ⟨slot, -, -, rfl⟩ := hpush.takes
  refine ⟨hfollows, ?_, ?_⟩
  · rw [hlog]
    exact h.kept.append nofun
  · rw [hlog]
    exact h.agreed.queued htype _ _ _ _

/-- A round that discards nothing. -/
theorem rounded {client : Client cat} (h : CaughtUp canonical client)
    (hfollows : Follows canonical (beginCatchupRound canonical client))
    (hframes : client.unsentFrames = []) (hsignals : client.unsentSignals = []) :
    CaughtUp canonical (beginCatchupRound canonical client) := by
  exact ⟨hfollows, h.kept.round hframes hsignals, h.agreed.append nofun⟩

/-- Each move of a catch-up keeps what was sent in step with what was listed. -/
theorem moved (hsound : canonical.Sound) (hinjective : Function.Injective cat.canIds)
    {client client' : Client cat} (hmove : DriveMove config canonical env client client')
    (h : CaughtUp canonical client) : CaughtUp canonical client' := by
  cases hmove with
  | noted waiting reported => exact h.of_follows (h.follows.of_same rfl id id rfl rfl) rfl
  | frames payload queued hguard hunsent hpayload hpush =>
    have hcatchup := driveGuard_catchupActive hguard
    exact h.of_push hpush (h.follows.sentFrames hinjective hcatchup hpayload hpush) rfl (by decide)
  | signals payload queued hguard hframes hunsent hpayload hpush =>
    have hcatchup := driveGuard_catchupActive hguard
    exact h.of_push hpush (h.follows.sentSignals hcatchup hpayload hpush) rfl (by decide)
  | round hguard hframes hsignals hdiffers =>
    have hcatchup := driveGuard_catchupActive hguard
    exact h.rounded (h.follows.rounded hsound hcatchup hframes hsignals) hframes hsignals
  | finish queued hguard hframes hsignals hsameFrames hsameSignals hpush =>
    have hcatchup := driveGuard_catchupActive hguard
    have hround := h.rounded (h.follows.rounded hsound hcatchup hframes hsignals) hframes hsignals
    have hnoFrames : (beginCatchupRound canonical client).unsentFrames = [] := hsameFrames
    have hnoSignals : (beginCatchupRound canonical client).unsentSignals = [] := hsameSignals
    have hagrees := hround.follows.agrees hpush.active hcatchup hnoFrames hnoSignals rfl rfl
    have hqueued := hround.follows.pushed hpush (by simp [CarriesRecords])
    obtain ⟨slot, -, -, rfl⟩ := hpush.takes
    refine ⟨hqueued.finished hcatchup hnoFrames hnoSignals, hround.kept.append (by simp),
      hround.agreed.append ?_⟩
    intro message k heq _
    injection heq with _ heqCanonical
    rw [← heqCanonical]
    exact hagrees

/-- Closing a session adds nothing to what was sent. -/
theorem closed {client : Client cat} (h : CaughtUp canonical client) :
    CaughtUp canonical (clientClose client) := by
  exact h.of_follows h.follows.closed (clientClose_log client)

/-- A refused message adds nothing to what was sent. -/
theorem refused {client failed : Client cat} (h : CaughtUp canonical client)
    (hrefused : Refused config client failed) : CaughtUp canonical failed := by
  refine h.of_follows (h.follows.refused hrefused) ?_
  cases hrefused with
  | unchanged => rfl
  | scrubbed slot hfree => rfl

/-- An overflow adds nothing to what was sent, and stops the session from following. -/
theorem overflowed {type : MessageType} {client client' : Client cat} (h : CaughtUp canonical client)
    (hoverflow : Overflows config env type client client') : CaughtUp canonical client' := by
  refine ⟨h.follows.overflowed hoverflow, ?_, ?_⟩
  · rw [hoverflow.eq]
    exact h.kept.append nofun
  · rw [hoverflow.eq]
    exact h.agreed.append nofun

/-- A distribution cannot reach a session whose catch-up is waiting. -/
theorem fannedOut_catching {type : MessageType} {chunks : List (Option (List UInt8))}
    {client client' : Client cat} (hfan : FansOut config canonical env type chunks client client')
    (hwaiting : Waiting config client) (hcatchup : client.catchupActive = true)
    (h : CaughtUp canonical client) :
    CaughtUp canonical client' ∧ client'.catchupActive = true := by
  cases hfan with
  | done => exact ⟨h, hcatchup⟩
  | sent payload rest _ queued _ hresync hpush _ =>
    exact absurd ((hwaiting.catchup_of_push hpush).symm.trans hcatchup) (by simp)
  | overflowed _ _ _ hresync hoverflow =>
    refine ⟨h.overflowed hoverflow, ?_⟩
    rw [hoverflow.eq]
    exact hcatchup
  | failed _ _ failed hrefused =>
    refine ⟨(h.refused hrefused).closed, ?_⟩
    rw [clientClose_catchupActive, hrefused.catchupActive]
    exact hcatchup

end CaughtUp

/-- A live session during a distribution, with the frames and signals that were not sent yet. -/
structure Sending (canonical : Canonical cat) (client : Client cat)
    (frames : List (Fin cat.frameCount)) (signals : List (Fin cat.signalCount)) : Prop where
  settled : client.catchupActive = false
  subscribed : client.needsResync = false → client.subscribed = true
  begun : (snapshotHistory client.log).isSome = true
  copy : CopySound client
  kept : NothingDiscarded client.log
  agreed : SubscriptionsAgree client.log
  trackFrames : client.active = true → client.needsResync = false →
    Tracks (paged FrameMatches client.snapshotNextFrameIndex client.snapshotFrames canonical.frames
      True) (entries cat.frameCount (sentReplica client.log).frames) frames
  trackSignals : client.active = true → client.needsResync = false →
    Tracks (paged Eq client.snapshotNextIndex client.snapshotSignals canonical.signals True)
      (entries cat.signalCount (sentReplica client.log).signals) signals

namespace Sending

variable {frames : List (Fin cat.frameCount)} {signals : List (Fin cat.signalCount)}

/-- A distribution starts with everything that changed still to be sent. -/
theorem start {before : Canonical cat} {sample : Sample cat} {client : Client cat}
    (hbefore : before.Sound) (hafter : (before.consume sample).Sound) (hlive : client.Live)
    (hcatchup : client.catchupActive = false) (h : CaughtUp before client) :
    Sending (before.consume sample) client (before.delta sample).1 (before.delta sample).2 := by
  have hsome := h.follows.started hlive.1 (Or.inr hlive.2.1)
  refine ⟨hcatchup, fun _ => hlive.2.1, hsome, h.follows.copy hlive.1 hsome, h.kept, h.agreed,
    fun hactive hresync => ?_, fun hactive hresync => ?_⟩
  · refine (h.follows.paging hactive hcatchup hresync).1.retarget nofun fun i hi a ha => ?_
    refine ha.imp_right (Or.imp_right fun hcurrent => ⟨trivial, ?_⟩)
    exact hcurrent.2.of_same (frameDiffers_of_notMem_delta hi)
  · refine (h.follows.paging hactive hcatchup hresync).2.retarget nofun fun i hi a ha => ?_
    refine ha.imp_right (Or.imp_right fun hcurrent => ⟨trivial, ?_⟩)
    exact hcurrent.2.trans (signals_of_notMem_delta hbefore hafter hi).symm

/-- A session that is closed, or that lost a message, needs no more. -/
theorem stopped {client : Client cat} (h : Sending canonical client frames signals)
    (hstopped : client.active = false ∨ client.needsResync = true) : CaughtUp canonical client := by
  refine ⟨⟨fun _ _ => h.begun, fun _ _ => h.copy, fun hactive _ hresync => ?_, ?_⟩, h.kept, h.agreed⟩
  · simp [hactive, hresync] at hstopped
  · exact fun _ hnot => absurd (h.settled.symm.trans hnot) (by simp)

/-- After a whole distribution the session is caught up. -/
theorem done {client : Client cat} (h : Sending canonical client [] []) :
    CaughtUp canonical client := by
  refine ⟨⟨fun _ _ => h.begun, fun _ _ => h.copy, fun hactive _ hresync => ?_, ?_⟩, h.kept, h.agreed⟩
  · have hsubscribed := h.subscribed hresync
    refine ⟨(h.trackFrames hactive hresync).retarget nofun fun i _ a ha => ?_,
      (h.trackSignals hactive hresync).retarget nofun fun i _ a ha => ?_⟩
    · exact ha.imp_right (Or.imp_right fun hcurrent => ⟨hsubscribed, hcurrent.2⟩)
    · exact ha.imp_right (Or.imp_right fun hcurrent => ⟨hsubscribed, hcurrent.2⟩)
  · exact fun _ hnot => absurd (h.settled.symm.trans hnot) (by simp)

/-- After an overflow the session is no longer owed the rest of a sample. -/
theorem overflowed {type : MessageType} {client client' : Client cat}
    (h : Sending canonical client frames signals)
    (hoverflow : Overflows config env type client client') : Sending canonical client' [] signals := by
  rw [hoverflow.eq]
  refine ⟨h.settled, nofun, ?_, ⟨h.copy.frames, h.copy.signals⟩, h.kept.append nofun,
    h.agreed.append nofun, nofun, nofun⟩
  rw [Client.overflow, snapshotHistory_append_singleton]
  exact h.begun

/-- A refused message leaves the session with what it is owed. -/
theorem refused {client failed : Client cat} (h : Sending canonical client frames signals)
    (hrefused : Refused config client failed) : Sending canonical failed frames signals := by
  cases hrefused with
  | unchanged => exact h
  | scrubbed slot hfree => exact { h with copy := { h.copy with } }

/-- Nothing more is sent to a session that is closed. -/
theorem closed {client failed : Client cat} (h : Sending canonical client frames signals)
    (hflags : SessionFlags client) (hrefused : Refused config client failed) :
    Sending canonical (clientClose failed) [] signals := by
  have hfailed := h.refused hrefused
  have hinactive := (hflags.refused hrefused).closed_active
  by_cases hnothing : failed.active = false ∨ failed.closing = true
  · rw [clientClose, if_pos hnothing] at hinactive ⊢
    have hnot : ¬failed.active = true := by simp [hinactive]
    exact { hfailed with
      trackFrames := fun hactive => absurd hactive hnot
      trackSignals := fun hactive => absurd hactive hnot }
  · rw [clientClose, if_neg hnothing]
    exact { hfailed with
      copy := { hfailed.copy with }
      trackFrames := fun hactive => absurd hactive Bool.false_ne_true
      trackSignals := fun hactive => absurd hactive Bool.false_ne_true }

/-- A queued batch of frames settles the frames that it carries. -/
theorem pushedFrames {piece : List (Fin cat.frameCount)} {payload : List UInt8}
    {client queued : Client cat} (hsound : canonical.Sound)
    (hinjective : Function.Injective cat.canIds)
    (h : Sending canonical client (piece ++ frames) signals)
    (hpayload : encodeFrameBatch clientPayloadCap canonical.sampleSequence cat.frameCountWord
      uint32Max (piece.map canonical.frames) = some payload)
    (hpush : Pushes config canonical (outgoing .updateBatch canonical.changeSequence
      canonical.sampleTimestampNs payload) client queued) :
    Sending canonical queued frames signals := by
  obtain ⟨slot, -, -, rfl⟩ := hpush.takes
  obtain ⟨hfold, hsame⟩ := foldMessage_frameUpdate (sentReplica client.log) hinjective
    hsound.frames hpayload
  refine ⟨h.settled, h.subscribed, (Follows.isSome_queued _ _ _).trans h.begun,
    ⟨h.copy.frames, h.copy.signals⟩, h.kept.append nofun, h.agreed.queued (by simp) _ _ _ _,
    fun hactive hresync => ?_, fun hactive hresync => ?_⟩
  · simp only [Client.record, Client.fill]
    rw [sentReplica_queued h.begun, hfold]
    exact (h.trackFrames hactive hresync).send fun i _ => Or.inr (Or.inr ⟨trivial, rfl, rfl⟩)
  · simp only [Client.record, Client.fill]
    rw [sentReplica_queued h.begun, hsame]
    exact h.trackSignals hactive hresync

/-- A queued batch of signals settles the signals that it carries. -/
theorem pushedSignals {piece : List (Fin cat.signalCount)} {payload : List UInt8}
    {client queued : Client cat} (hsound : canonical.Sound)
    (h : Sending canonical client frames (piece ++ signals))
    (hpayload : encodeSignalBatch clientPayloadCap canonical.sampleSequence cat.signalCountWord
      uint32Max (piece.map (signalUpdate canonical.signals)) = some payload)
    (hpush : Pushes config canonical (outgoing .signalUpdateBatch canonical.changeSequence
      canonical.sampleTimestampNs payload) client queued) :
    Sending canonical queued frames signals := by
  obtain ⟨slot, -, -, rfl⟩ := hpush.takes
  obtain ⟨hfold, hsame⟩ := foldMessage_signalUpdate (sentReplica client.log) hsound.signals hpayload
  refine ⟨h.settled, h.subscribed, (Follows.isSome_queued _ _ _).trans h.begun,
    ⟨h.copy.frames, h.copy.signals⟩, h.kept.append nofun, h.agreed.queued (by simp) _ _ _ _,
    fun hactive hresync => ?_, fun hactive hresync => ?_⟩
  · simp only [Client.record, Client.fill]
    rw [sentReplica_queued h.begun, hsame]
    exact h.trackFrames hactive hresync
  · simp only [Client.record, Client.fill]
    rw [sentReplica_queued h.begun, hfold]
    exact (h.trackSignals hactive hresync).send fun i _ => Or.inr (Or.inr ⟨trivial, rfl⟩)

/-- The fan-out of the frames sends all of them, unless the session is closed or overflows. -/
theorem fanFrames {pieces : List (List (Fin cat.frameCount))} {client client' : Client cat}
    (hsound : canonical.Sound) (hinjective : Function.Injective cat.canIds)
    (hflags : SessionFlags client)
    (hfan : FansOut config canonical env .updateBatch (pieces.map fun piece =>
      encodeFrameBatch clientPayloadCap canonical.sampleSequence cat.frameCountWord uint32Max
        (piece.map canonical.frames)) client client')
    (h : Sending canonical client pieces.flatten signals) : Sending canonical client' [] signals := by
  refine FansOut.pieces_induction (P := fun client left => Sending canonical client left signals)
    (Q := fun client => Sending canonical client [] signals) id ?_ ?_ ?_ hflags hfan h
  · intro client queued piece rest payload _ hpiece hpush h
    exact h.pushedFrames hsound hinjective hpiece hpush
  · intro client client' left _ hoverflow h
    exact h.overflowed hoverflow
  · intro client failed left hflags hrefused h
    exact h.closed hflags hrefused

/-- The fan-out of the signals sends all of them, unless the session is closed or overflows. -/
theorem fanSignals {pieces : List (List (Fin cat.signalCount))} {client client' : Client cat}
    (hsound : canonical.Sound) (hflags : SessionFlags client)
    (hfan : FansOut config canonical env .signalUpdateBatch (pieces.map fun piece =>
      encodeSignalBatch clientPayloadCap canonical.sampleSequence cat.signalCountWord uint32Max
        (piece.map (signalUpdate canonical.signals))) client client')
    (h : Sending canonical client [] pieces.flatten) : CaughtUp canonical client' := by
  refine FansOut.pieces_induction (P := fun client left => Sending canonical client [] left)
    (Q := CaughtUp canonical) done ?_ ?_ ?_ hflags hfan h
  · intro client queued piece rest payload _ hpiece hpush h
    exact h.pushedSignals hsound hpiece hpush
  · intro client client' left _ hoverflow h
    refine (h.overflowed hoverflow).stopped (Or.inr ?_)
    rw [hoverflow.eq]
    rfl
  · intro client failed left hflags hrefused h
    exact (h.closed hflags hrefused).stopped (Or.inl (hflags.refused hrefused).closed_active)

/-- A distribution keeps a live session caught up. -/
theorem distributed {before : Canonical cat} {sample : Sample cat} {client client' : Client cat}
    (hbefore : before.Sound) (hafter : (before.consume sample).Sound)
    (hinjective : Function.Injective cat.canIds) (hflags : SessionFlags client)
    (hwaiting : Waiting config client) (hlive : client.Live)
    (hdistributes : Distributes config (before.consume sample) env (before.delta sample).1
      (before.delta sample).2 client client') (h : CaughtUp before client) :
    CaughtUp (before.consume sample) client' := by
  have hflag : Stable config (before.consume sample) env (@SessionFlags cat) := SessionFlags.stable
  have hframePieces : (before.delta sample).1 =
      (chunks framesPerMessage (before.delta sample).1).flatten :=
    (chunks_flatten _ (by decide) _).symm
  have hsignalPieces : (before.delta sample).2 =
      (chunks signalsPerMessage (before.delta sample).2).flatten :=
    (chunks_flatten _ (by decide) _).symm
  cases hcatchup : client.catchupActive with
  | true =>
    have hcatching : CaughtUp (before.consume sample) client := by
      refine ⟨⟨h.follows.started, h.follows.copy, ?_, h.follows.catching⟩, h.kept, h.agreed⟩
      exact fun _ hnot => absurd (hcatchup.symm.trans hnot) (by simp)
    cases hdistributes with
    | stopped hframes hstopped =>
      exact (CaughtUp.fannedOut_catching hframes hwaiting hcatchup hcatching).1
    | both hframes hactive hresync hsignals =>
      obtain ⟨hsent, hstill⟩ := CaughtUp.fannedOut_catching hframes hwaiting hcatchup hcatching
      exact (CaughtUp.fannedOut_catching hsignals (Waiting.fannedOut hframes hwaiting) hstill hsent).1
  | false =>
    have hstart := start hbefore hafter hlive hcatchup h
    rw [hframePieces] at hstart
    cases hdistributes with
    | stopped hframes hstopped =>
      exact (fanFrames hafter hinjective hflags hframes hstart).stopped hstopped
    | both hframes hactive hresync hsignals =>
      have hsent := fanFrames hafter hinjective hflags hframes hstart
      rw [hsignalPieces] at hsent
      exact fanSignals hafter (hflag.kept.fannedOut hframes nofun nofun hlive.2.1 hflags).1 hsignals
        hsent

end Sending

namespace CaughtUp

/-- A message without records, other than `SUBSCRIBED`, changes nothing that was sent. -/
theorem pushed {type : MessageType} {sequence timestampNs : UInt64} {payload : List UInt8}
    {client client' : Client cat} (h : CaughtUp canonical client)
    (hpush : Pushes config canonical (outgoing type sequence timestampNs payload) client client')
    (htype : ¬ CarriesRecords type ∧ type ≠ .subscribed) : CaughtUp canonical client' :=
  h.of_push hpush (h.follows.pushed hpush htype.1) rfl htype.2

/-- A whole drive keeps what was sent in step with what was listed. -/
theorem drive (hsound : canonical.Sound) (hinjective : Function.Injective cat.canIds)
    {client client' : Client cat}
    (hmoves : ReflTransGen (DriveMove config canonical env) client client')
    (h : CaughtUp canonical client) : CaughtUp canonical client' :=
  drive_induction (moved hsound hinjective) hmoves h

/-- The note that a catch-up waits changes nothing that was sent. -/
theorem waited {client : Client cat} (h : CaughtUp canonical client) :
    CaughtUp canonical (noteWaiting config env client) := by
  unfold noteWaiting
  split
  · exact h.of_follows (h.follows.of_same rfl id id rfl rfl) rfl
  · exact h

/-- What is left of a session that was closed is its history. -/
theorem of_closed {client : Client cat} (hinactive : (clientClose client).active = false)
    (hkept : NothingDiscarded client.log) (hagreed : SubscriptionsAgree client.log) :
    CaughtUp canonical (clientClose client) := by
  have hlog := clientClose_log client
  refine ⟨.of_inactive hinactive, ?_, ?_⟩
  · rw [hlog]
    exact hkept
  · rw [hlog]
    exact hagreed

/-- A drive that fails closes the session, with what was sent still in step. -/
theorem driveFailed {client failed : Client cat} (h : CaughtUp canonical client)
    (hfailure : DriveFailure config canonical env client failed)
    (hinactive : (clientClose failed).active = false) : CaughtUp canonical (clientClose failed) := by
  cases hfailure with
  | batch hguard hrefused => exact (h.refused hrefused).closed
  | finish hguard hframes hsignals hrefused =>
    have hlog := hrefused.log
    refine of_closed hinactive ?_ ?_
    · rw [hlog]
      exact h.kept.round hframes hsignals
    · rw [hlog]
      exact h.agreed.append nofun

/-- `RESYNC_REQUIRED` carries no records. -/
theorem resynced {client client' : Client cat} (h : CaughtUp canonical client)
    (hstep : ResyncStep config canonical client client') : CaughtUp canonical client' := by
  cases hstep with
  | none _ => exact h
  | queued queued hgreeted hresync hnot hpending hpush =>
    have hqueued := h.pushed hpush (by simp [CarriesRecords])
    exact hqueued.of_follows (hqueued.follows.of_same rfl id id rfl rfl) rfl
  | failed hrefused => exact (h.refused hrefused).closed

/-- A new snapshot outside a catch-up starts the comparison with the canonical state anew. -/
theorem begun (hsound : canonical.Sound) {client : Client cat} (h : CaughtUp canonical client)
    (hcatchup : client.catchupActive = false) :
    CaughtUp canonical (beginSnapshot canonical env client) :=
  ⟨.begun hsound hcatchup, h.kept.append nofun, h.agreed.append nofun⟩

/-- A session with a complete snapshot and no unsent entries may subscribe. -/
theorem subscribing {client : Client cat} (hsound : canonical.Sound)
    (hsession : SessionSound config client) (h : CaughtUp canonical client)
    (hresync : client.needsResync = false) (hcomplete : client.snapshotComplete = true)
    (hunsent : client.unsentFrames = [] ∧ client.unsentSignals = []) :
    CaughtUp canonical (beginCatchupRound canonical { client with catchupActive := true }) := by
  obtain ⟨hsome, hnextFrame, hnext⟩ := hsession.paged.complete hcomplete
  have hfollows := h.follows.subscribing hsound hresync hsome hnextFrame hnext hunsent.1 hunsent.2
  exact ⟨hfollows, h.kept.round hunsent.1 hunsent.2, h.agreed.append nofun⟩

/-- The answer to a request keeps what was sent in step, if it discards no listed entries. -/
theorem replied {request : Message} {client client' : Client cat} (hsound : canonical.Sound)
    (hinjective : Function.Injective cat.canIds) (hsession : SessionSound config client)
    (hreply : Reply config canonical env request client client')
    (hgood : request.header.type = MessageType.subscribeAll.code → client.needsResync = false →
      client.snapshotComplete = true → client.unsentFrames = [] ∧ client.unsentSignals = [])
    (h : CaughtUp canonical client) : CaughtUp canonical client' := by
  cases hreply with
  | welcome queued htype hgreeted hpush =>
    have hqueued := h.pushed hpush (by simp [CarriesRecords])
    exact hqueued.of_follows (hqueued.follows.of_same rfl id id rfl rfl) rfl
  | schema startIndex payload queued htype hgreeted hstart hpayload hpush =>
    exact h.pushed hpush (by simp [CarriesRecords])
  | pong queued htype hgreeted hpush => exact h.pushed hpush (by simp [CarriesRecords])
  | firstFramePage payload queued htype hgreeted hstart hinactive hpayload hpush =>
    have hcatchup := hsession.waiting.begun hpush
    have hbegun : CaughtUp canonical (beginSnapshot canonical env client) := h.begun hsound hcatchup
    have hsome : (snapshotHistory (beginSnapshot canonical env client).log).isSome = true := by
      rw [beginSnapshot, snapshotHistory_append_singleton]
      rfl
    have hpage := hbegun.follows.framePage hsome hcatchup hpayload hpush rfl cat.frameCount_pos
    exact hbegun.of_push hpush hpage rfl (by decide)
  | framePage startIndex payload queued htype hgreeted hstart hactive hframes hnext hlt hpayload
      hpush =>
    obtain ⟨frozen, sent, hhistory, -⟩ := hsession.paged.frozen hpush.active hactive
    have hpage := h.follows.framePage (by simp [hhistory]) (hsession.waiting.catchup_of_push hpush)
      hpayload hpush hnext hlt
    exact h.of_push hpush hpage rfl (by decide)
  | signalPage startIndex payload queued htype hgreeted hstart hactive hframes hnext hlt hpayload
      hpush =>
    obtain ⟨frozen, sent, hhistory, -⟩ := hsession.paged.frozen hpush.active hactive
    have hpage := h.follows.signalPage (by simp [hhistory]) (hsession.waiting.catchup_of_push hpush)
      hpayload hpush hnext hlt
    exact h.of_push hpush hpage rfl (by decide)
  | subscribe driven htype hgreeted hresync hcomplete hmoves hdone =>
    have hunsent := hgood htype hresync hcomplete
    refine waited (drive hsound hinjective hmoves ?_)
    exact h.subscribing hsound hsession hresync hcomplete hunsent

/-- A request that closes the session keeps what was sent in step, if it discards no listed entries.
-/
theorem aborted {request : Message} {client failed : Client cat} (hsound : canonical.Sound)
    (hinjective : Function.Injective cat.canIds) (hsession : SessionSound config client)
    (hfailure : CommandFailure config canonical env request client failed)
    (hgood : request.header.type = MessageType.subscribeAll.code → client.needsResync = false →
      client.snapshotComplete = true → client.unsentFrames = [] ∧ client.unsentSignals = [])
    (h : CaughtUp canonical client) : CaughtUp canonical (clientClose failed) := by
  have hflag : Stable config canonical env (@SessionFlags cat) := SessionFlags.stable
  have hinactive := (hflag.kept.commandFailed hfailure hsession.flags).closed_active
  cases hfailure with
  | refused hrefused => exact (h.refused hrefused).closed
  | snapshot hgreeted hnone hrefused =>
    have hlog := hrefused.log
    refine of_closed hinactive ?_ ?_
    · rw [hlog]
      exact h.kept.append nofun
    · rw [hlog]
      exact h.agreed.append nofun
  | subscribe htype hgreeted hresync hcomplete hmoves hdrive =>
    have hunsent := hgood htype hresync hcomplete
    have hstart : CaughtUp canonical
        (beginCatchupRound canonical { client with catchupActive := true }) :=
      h.subscribing hsound hsession hresync hcomplete hunsent
    exact (hstart.drive hsound hinjective hmoves).driveFailed hdrive hinactive

/-- A completed write drives the catch-up on, or asks the session to resynchronise. -/
theorem resumed {client client' : Client cat} (hsound : canonical.Sound)
    (hinjective : Function.Injective cat.canIds) (hflags : SessionFlags client)
    (hresumes : Resumes config canonical env client client') (h : CaughtUp canonical client) :
    CaughtUp canonical client' := by
  have hflag : Stable config canonical env (@SessionFlags cat) := SessionFlags.stable
  cases hresumes with
  | idle hcatchup hstep => exact h.resynced hstep
  | driven hcatchup hmoves hdone hstep =>
    exact (waited (h.drive hsound hinjective hmoves)).resynced hstep
  | failed hcatchup hmoves hfailure =>
    have hlast := drive_induction hflag.kept.moved hmoves hflags
    exact (h.drive hsound hinjective hmoves).driveFailed hfailure
      (hflag.kept.driveFailed hfailure hlast).closed_active

/-- A new session has been sent nothing. -/
theorem fresh {client : Client cat} (hfresh : Fresh client) : CaughtUp canonical client := by
  have hempty : client.log = [] := by
    cases hfresh <;> simp [Client.zero, Client.accepted, clientClose]
  refine ⟨?_, ?_, ?_⟩
  · cases hfresh with
    | zero => exact .of_inactive rfl
    | unaccepted => exact .of_inactive rfl
    | rejected => exact .of_inactive rfl
    | accepted uid nowNs =>
      refine ⟨fun _ hor => absurd hor ?_, fun _ hsome => absurd hsome ?_, fun _ _ _ => ?_, ?_⟩
      · simp [Client.accepted, Client.zero]
      · simp [Client.accepted, Client.zero, snapshotHistory]
      · exact ⟨Tracks.unpaged _, Tracks.unpaged _⟩
      · simp [Client.accepted, Client.zero]
    | unreadable uid nowNs => exact .of_inactive rfl
  · rw [hempty]
    exact fun _ _ hmem => absurd hmem List.not_mem_nil
  · rw [hempty]
    intro past message k hpast
    have hlength := hpast.length_le
    simp at hlength

end CaughtUp

/-- `process_command` accepts the request as a `SUBSCRIBE_ALL` of the session. -/
def AcceptsSubscribe (client : Client cat) (request : Message) : Prop :=
  client.active = true ∧ request.header.version = protocolVersion ∧ request.header.flags = 0 ∧
    request.header.type = MessageType.subscribeAll.code ∧ client.greeted = true ∧
    request.payload = [] ∧ client.needsResync = false ∧ client.snapshotComplete = true

instance (client : Client cat) (request : Message) : Decidable (AcceptsSubscribe client request) :=
  inferInstanceAs (Decidable (_ ∧ _ ∧ _ ∧ _ ∧ _ ∧ _ ∧ _ ∧ _))

/-- Any other `SUBSCRIBE_ALL` of an open session is an error. -/
theorem processCommand_of_not_acceptsSubscribe {client : Client cat} {request : Message}
    (htype : request.header.type = MessageType.subscribeAll.code) (hactive : client.active = true)
    (h : ¬AcceptsSubscribe client request) :
    processCommand config canonical env client request = .error client := by
  have hcode : MessageType.ofCode request.header.type = some .subscribeAll := by
    rw [htype]
    decide
  unfold processCommand
  split
  · rfl
  rename_i hheader
  rw [not_or, not_not, not_not] at hheader
  rw [hcode]
  refine if_pos ?_
  by_contra hguard
  simp only [not_or, Bool.not_eq_false, Bool.not_eq_true, not_not] at hguard
  exact h ⟨hactive, hheader.1, hheader.2, htype, hguard⟩

/-- The event is a `SUBSCRIBE_ALL` that is accepted from the session while entries that were listed for
it are unsent. -/
def DiscardsEntries (s : Fin maxClients) (daemon : Daemon cat) : Event cat → Prop
  | .request session _ request =>
    session = s ∧ AcceptsSubscribe (daemon.clients s) request ∧
      ((daemon.clients s).unsentFrames ≠ [] ∨ (daemon.clients s).unsentSignals ≠ [])
  | _ => False

instance (s : Fin maxClients) (daemon : Daemon cat) (event : Event cat) :
    Decidable (DiscardsEntries s daemon event) :=
  match event with
  | .request _ _ _ => inferInstanceAs (Decidable (_ ∧ _ ∧ (_ ∨ _)))
  | .tick _ | .sampleNotification _ | .heartbeat _ _ | .connection _ | .writeDone _ _ _ _
  | .disconnect _ | .closed _ | .shutdown => isFalse id

/-- An event keeps a session caught up, unless it is a `SUBSCRIBE_ALL` that finds entries unsent. -/
theorem CaughtUp.evolved {daemon : Daemon cat} {event : Event cat} {s : Fin maxClients}
    {client' : Client cat} (hsound : daemon.canonical.Sound) (hnext : canonical.Sound)
    (hinjective : Function.Injective cat.canIds) (hsession : SessionSound config (daemon.clients s))
    (hsubscribe : ∀ request, event = .request s (event.answers s) request →
      request.header.type = MessageType.subscribeAll.code →
      (daemon.clients s).needsResync = false → (daemon.clients s).snapshotComplete = true →
      (daemon.clients s).unsentFrames = [] ∧ (daemon.clients s).unsentSignals = [])
    (hevolves : Evolves config canonical daemon.canonical event s (daemon.clients s) client')
    (h : CaughtUp daemon.canonical (daemon.clients s)) : CaughtUp canonical client' := by
  have hflag : Stable config canonical (event.answers s) (@SessionFlags cat) := SessionFlags.stable
  cases hevolves with
  | idle hevent hquiet => exact ⟨h.follows.recanonical hquiet, h.kept, h.agreed⟩
  | closed => exact of_closed hsession.flags.closed_active h.kept h.agreed
  | replied request hevent hcanonical hactive hreply =>
    rw [hcanonical] at h
    exact replied hnext hinjective hsession hreply (hsubscribe request hevent) h
  | aborted request hevent hcanonical hactive hfailure =>
    rw [hcanonical] at h
    exact aborted hnext hinjective hsession hfailure (hsubscribe request hevent) h
  | writeFailed slot hused =>
    have hreleased := hflag.released hused hsession.flags
    exact of_closed hreleased.closed_active h.kept h.agreed
  | written slot hevent hcanonical hused hresumes =>
    rw [hcanonical] at h
    refine resumed hnext hinjective (hflag.released hused hsession.flags) hresumes ?_
    exact h.of_follows (h.follows.of_same rfl id id rfl rfl) rfl
  | distributed env sample hevent hcanonical hlive hdistributes =>
    subst hcanonical
    exact Sending.distributed hsound hnext hinjective hsession.flags hsession.waiting hlive
      hdistributes h
  | heartbeat nowNs env sourceState hevent hsame hgreeted hlive hpush =>
    have hafter : CaughtUp canonical (daemon.clients s) :=
      ⟨h.follows.recanonical (Or.inl hsame), h.kept, h.agreed⟩
    exact hafter.pushed hpush (by simp [CarriesRecords])
  | heartbeatOverflow nowNs env hevent hsame hgreeted hlive hoverflow =>
    have hafter : CaughtUp canonical (daemon.clients s) :=
      ⟨h.follows.recanonical (Or.inl hsame), h.kept, h.agreed⟩
    exact hafter.overflowed hoverflow
  | heartbeatFailed hrefused =>
    have hlog := hrefused.log
    refine of_closed (hsession.flags.refused hrefused).closed_active ?_ ?_
    · rw [hlog]
      exact h.kept
    · rw [hlog]
      exact h.agreed
  | fresh hbefore hfresh => exact fresh hfresh

/-- Every event that discards nothing keeps a session caught up. -/
theorem CaughtUp.stepped {daemon : Daemon cat} {event : Event cat} {s : Fin maxClients}
    (hsound : daemon.canonical.Sound) (hnext : (step config daemon event).canonical.Sound)
    (hinjective : Function.Injective cat.canIds) (hsession : SessionSound config (daemon.clients s))
    (hgood : ¬DiscardsEntries s daemon event)
    (h : CaughtUp daemon.canonical (daemon.clients s)) :
    CaughtUp (step config daemon event).canonical ((step config daemon event).clients s) := by
  by_cases hsubscribe : ∀ request, event = .request s (event.answers s) request →
      request.header.type = MessageType.subscribeAll.code →
      (daemon.clients s).needsResync = false → (daemon.clients s).snapshotComplete = true →
      (daemon.clients s).unsentFrames = [] ∧ (daemon.clients s).unsentSignals = []
  · exact h.evolved hsound hnext hinjective hsession hsubscribe (step_evolves config daemon event s)
  · -- the request finds entries unsent, so it is not accepted and closes the session
    simp only [not_forall, not_and_or, exists_prop] at hsubscribe
    obtain ⟨request, hevent, htype, -, -, hunsent⟩ := hsubscribe
    have hrefused : ¬AcceptsSubscribe (daemon.clients s) request := by
      intro haccepts
      rw [hevent] at hgood
      exact hgood ⟨rfl, haccepts, hunsent⟩
    rw [hevent]
    by_cases hactive : (daemon.clients s).active = true
    · have herror : processCommand config daemon.canonical (event.answers s) (daemon.clients s)
          request = .error (daemon.clients s) :=
        processCommand_of_not_acceptsSubscribe htype hactive hrefused
      have hclosed : step config daemon (.request s (event.answers s) request) =
          daemon.setClient s (clientClose (daemon.clients s)) := by
        simp [step, hactive, herror, closeOnError]
      rw [hclosed, Daemon.setClient_self]
      exact of_closed hsession.flags.closed_active h.kept h.agreed
    · have hsame : step config daemon (.request s (event.answers s) request) = daemon := by
        simp [step, hactive]
      rw [hsame]
      exact h

/-- In every run in which no `SUBSCRIBE_ALL` is accepted from the session while listed entries are
unsent, no listed entry is discarded, and whenever `SUBSCRIBED` is queued, the pages and updates queued
since the last frozen snapshot give the states and bytes of all canonical frames and all canonical
signal records. -/
theorem run_catchup_complete (config : Config cat) (fake : Option Bool) (tick : Tick cat)
    (events : List (Event cat)) (hinjective : Function.Injective cat.canIds)
    (hlibuv : ∀ event ∈ events, ∀ s, (event.answers s).WriteQueueBounded)
    (s : Fin maxClients)
    (hmeets : Meets (step config) (fun daemon event => ¬DiscardsEntries s daemon event)
      (daemonInit config fake tick) events) :
    let client := (run config fake tick events).clients s
    (∀ frames signals, LogEntry.roundBegun frames signals ∈ client.log →
      frames = [] ∧ signals = []) ∧
    ∀ past message canonical, past ++ [LogEntry.queued message canonical] <+: client.log →
      message.header.type = MessageType.subscribed.code →
      (∀ i : Fin cat.frameCount,
        ((sentReplica past).frames i.val).state = (canonical.frames i).state ∧
          ((sentReplica past).frames i.val).data = (canonical.frames i).data) ∧
      ∀ i : Fin cat.signalCount, (sentReplica past).signals i.val = canonical.signals i := by
  have hcaughtUp : CaughtUp (run config fake tick events).canonical
      ((run config fake tick events).clients s) := by
    refine (hmeets.invariant (I := fun daemon => daemon.Sound ∧
      SessionSound config (daemon.clients s) ∧ CaughtUp daemon.canonical (daemon.clients s))
      ?_ ⟨daemonInit_sound config fake tick, .zero, .fresh .zero⟩).2.2
    rintro event hevent daemon hgood ⟨hsound, hsession, hcaughtUp⟩
    have hnext := step_sound config event hsound
    have hevolves := step_evolves config daemon event s
    exact ⟨hnext, hsession.evolved hnext.canonical (hlibuv event hevent s) hevolves,
      hcaughtUp.stepped hsound.canonical hnext.canonical hinjective hsession hgood⟩
  exact ⟨hcaughtUp.kept, hcaughtUp.agreed⟩

/-- The canonical state of a moment at which `SUBSCRIBED` was queued. -/
def LogEntry.subscription : LogEntry cat → Option (Canonical cat)
  | .queued message canonical =>
    if message.header.type = MessageType.subscribed.code then some canonical else none
  | _ => none

/-- The arrays that a session had been sent and the canonical state, at a subscription that is the
last entry of its history. -/
def lastSubscription (log : List (LogEntry cat)) : Option (Replica × Canonical cat) :=
  (log.getLast?.bind LogEntry.subscription).map fun canonical => (sentReplica log.dropLast, canonical)

/-- The last entry of a history is `SUBSCRIBED`, after what was sent before it. -/
theorem lastSubscription_eq_some {log : List (LogEntry cat)} {replica : Replica}
    {canonical : Canonical cat} (h : lastSubscription log = some (replica, canonical)) :
    ∃ past message, past ++ [LogEntry.queued message canonical] <+: log ∧
      message.header.type = MessageType.subscribed.code ∧ replica = sentReplica past := by
  simp only [lastSubscription, Option.map_eq_some_iff, Option.bind_eq_some_iff, Prod.mk.injEq] at h
  obtain ⟨last, ⟨entry, hlast, hentry⟩, hreplica, rfl⟩ := h
  have hlog := List.dropLast_append_getLast? entry hlast
  cases entry with
  | queued message k =>
    simp only [LogEntry.subscription, Option.ite_none_right_eq_some, Option.some.injEq] at hentry
    obtain ⟨htype, rfl⟩ := hentry
    exact ⟨log.dropLast, message, ⟨[], by rw [List.append_nil, hlog]⟩, htype, hreplica.symm⟩
  | dropped type => contradiction
  | snapshotBegun k => contradiction
  | roundBegun frames signals => contradiction

/-- A sample changes the frame and its signal after the snapshot, and each batch of the catch-up
waits for the one before it to be written. -/
def catchupRun : List (Event singleCatalog) :=
  singleSetup ++ singleSample 1 20 ++
    [singleRequest .subscribeAll [], singleWriteDone, singleWriteDone]

/-- A session of the catalog of one frame is subscribed while samples change. -/
theorem run_catchup_complete_single :
    ∃ replica canonical, lastSubscription (singleSession catchupRun).log = some (replica, canonical) ∧
      ∀ i : Fin singleCatalog.signalCount, replica.signals i.val = canonical.signals i := by
  have hidle : ∀ event ∈ catchupRun, ∀ s, event.answers s = Env.idle := by
    simp [catchupRun, singleSetup, singleSample, singleRequest, singleWriteDone, Event.answers]
  have hsome : (lastSubscription (singleSession catchupRun).log).isSome = true := by decide +kernel
  obtain ⟨⟨replica, canonical⟩, hlast⟩ := Option.isSome_iff_exists.mp hsome
  obtain ⟨past, message, hpast, htype, hreplica⟩ := lastSubscription_eq_some hlast
  refine ⟨replica, canonical, hlast, ?_⟩
  rw [singleSession] at hpast
  rw [hreplica]
  exact ((run_catchup_complete singleConfig none (singleTick 0 10) catchupRun
    singleCatalog_canIds_injective (writeQueueBounded_of_idle hidle) firstSession
    (by decide +kernel)).2 past message canonical hpast htype).2

/-- The entry is a round that replaced lists with unsent signals. -/
def LogEntry.discardsSignals : LogEntry cat → Bool
  | .roundBegun _ signals => !signals.isEmpty
  | _ => false

/-- A round that lists signals is found in the history by a test that can be evaluated. -/
theorem exists_round_of_discardsSignals {log : List (LogEntry cat)}
    (h : log.any LogEntry.discardsSignals = true) :
    ∃ frames signals, LogEntry.roundBegun frames signals ∈ log ∧ signals ≠ [] := by
  obtain ⟨entry, hmem, hentry⟩ := List.any_eq_true.mp h
  cases entry with
  | roundBegun frames signals =>
    exact ⟨frames, signals, hmem, by simpa [LogEntry.discardsSignals] using hentry⟩
  | queued message canonical => contradiction
  | dropped type => contradiction
  | snapshotBegun canonical => contradiction

/-- The session asks for its subscription again while the signal batch of the catch-up waits. -/
def discardRun : List (Event singleCatalog) :=
  singleSetup ++ singleSample 1 20 ++
    [singleRequest .subscribeAll [], singleRequest .subscribeAll [], singleWriteDone]

/-- The waiting signal is discarded, and `SUBSCRIBED` is queued to a session that has the raw value
`0` where the canonical one is `1`. -/
theorem discardRun_incomplete :
    (∃ frames signals, LogEntry.roundBegun frames signals ∈ (singleSession discardRun).log ∧
      signals ≠ []) ∧
    ∃ past message canonical,
      past ++ [LogEntry.queued message canonical] <+: (singleSession discardRun).log ∧
      message.header.type = MessageType.subscribed.code ∧
      ((sentReplica past).signals singleSignal.val).raw = 0 ∧
      (canonical.signals singleSignal).raw = 1 := by
  refine ⟨?_, ?_⟩
  · exact exists_round_of_discardsSignals (by decide +kernel)
  · have hraw : ((lastSubscription (singleSession discardRun).log).map fun moment =>
        ((moment.1.signals singleSignal.val).raw, (moment.2.signals singleSignal).raw)) =
        some (0, 1) := by decide +kernel
    obtain ⟨⟨replica, canonical⟩, hlast, hvalues⟩ := Option.map_eq_some_iff.mp hraw
    obtain ⟨past, message, hpast, htype, rfl⟩ := lastSubscription_eq_some hlast
    rw [Prod.mk.injEq] at hvalues
    exact ⟨past, message, canonical, hpast, htype, hvalues⟩

end Roadcast
