import Roadcast.System.Requests

/-!
# Catch-up, distribution and loss keep the two sides at the same step

The messages that answer no request: the batches of a catch-up and the subscription that ends it,
the batches of a distribution, heartbeats and `RESYNC_REQUIRED`. Each batch takes what it lists off
what is still to be sent, so the arrays of the SDK track the copy of the session during a catch-up
and the canonical state afterwards.
-/

namespace Roadcast

open DeltaSync Relation Chunks

variable {cat : Catalog} {config : Config cat} {R : Frame → Frame → Prop}
  {canonical : Canonical cat} {env : Env cat} {client client' queued : Client cat} {handled : ℕ}

namespace CatchingUp

/-- A batch of frames shortens the list. -/
theorem sentFrames {payload : List UInt8} (hcomparison : Comparison cat R)
    (h : CatchingUp config R client client.sdk) (hpayload : catchupFramePayload client = some payload)
    (hpush : Pushes config canonical (outgoing .updateBatch client.catchupChangeSequence
      client.catchupTimestampNs payload) client queued) :
    CatchingUp config R { queued with
      catchupFrameOffset :=
        queued.catchupFrameOffset + (client.unsentFrames.take framesPerMessage).length }
      queued.sdk ∧ queued.sdk.sent = client.sdk.sent := by
  obtain ⟨target, happly, hsignals, hcarries, hframes⟩ := h.negotiated.applyFrameBatch h.knows
    h.copy.frames hpayload client.sdk.synchronization
  have hsdk := hpush.sdk.trans (h.negotiated.receive_catchupFrames hpush.length_le h.phase happly)
  rw [hsdk]
  obtain ⟨slot, -, -, rfl⟩ := hpush.takes
  refine ⟨⟨{ h.flags with }, h.catchup, h.snapshot, ⟨h.negotiated.welcome, h.negotiated.capacity⟩,
    h.phase, { h.copy with }, h.knows, hcarries h.carries, ?_, ?_⟩, rfl⟩
  · have htracks := h.frames
    have hsplit := unsent_split client.catchupFrameIndices client.catchupFrameOffset framesPerMessage
    unfold Client.unsentFrames at htracks hframes
    rw [hsplit] at htracks
    exact hcomparison.send htracks hframes
  · show Tracks _ (entries cat.signalCount target.signals) _
    rw [hsignals]
    exact h.signals

/-- A batch of signals shortens the list. -/
theorem sentSignals {payload : List UInt8} (h : CatchingUp config R client client.sdk)
    (hpayload : catchupSignalPayload client = some payload)
    (hpush : Pushes config canonical (outgoing .signalUpdateBatch client.catchupChangeSequence
      client.catchupTimestampNs payload) client queued) :
    CatchingUp config R { queued with
      catchupSignalOffset :=
        queued.catchupSignalOffset + (client.unsentSignals.take signalsPerMessage).length }
      queued.sdk ∧ queued.sdk.sent = client.sdk.sent := by
  obtain ⟨target, happly, hframes, hsignals⟩ := h.negotiated.applySignalBatch h.copy.signals hpayload
    client.sdk.synchronization
  have hsdk := hpush.sdk.trans (h.negotiated.receive_catchupSignals hpush.length_le h.phase happly)
  rw [hsdk]
  obtain ⟨slot, -, -, rfl⟩ := hpush.takes
  refine ⟨⟨{ h.flags with }, h.catchup, h.snapshot, ⟨h.negotiated.welcome, h.negotiated.capacity⟩,
    h.phase, { h.copy with }, h.knows, ?_, ?_, ?_⟩, rfl⟩
  · show CarriesCanIds cat target.frames
    rw [hframes]
    exact h.carries
  · show Tracks _ (entries cat.frameCount target.frames) _
    rw [hframes]
    exact h.frames
  · have htracks := h.signals
    have hsplit := unsent_split client.catchupSignalIndices client.catchupSignalOffset
      signalsPerMessage
    unfold Client.unsentSignals at htracks hsignals
    rw [hsplit] at htracks
    show Tracks _ (entries cat.signalCount target.signals) _
    rw [hsignals]
    exact htracks.send fun i _ => rfl

/-- A round moves the copy forward and lists what it left behind. -/
theorem rounded {sdk : Sdk} (hsound : canonical.Sound) (h : CatchingUp config R client sdk)
    (hkeeps : Keeps R canonical.frames client.snapshotFrames) (hframes : client.unsentFrames = [])
    (hsignals : client.unsentSignals = []) :
    CatchingUp config R (beginCatchupRound canonical client) sdk := by
  have htrackFrames := h.frames
  have htrackSignals := h.signals
  rw [hframes] at htrackFrames
  rw [hsignals] at htrackSignals
  refine ⟨{ h.flags with }, h.catchup, h.snapshot, h.negotiated, h.phase,
    ⟨hsound.frames, hsound.signals⟩, h.knows, h.carries, ?_, ?_⟩
  · refine htrackFrames.retarget nofun fun i hi a ha => hkeeps i a ?_ ha
    exact Bool.not_eq_true _ ▸ mt (mem_differingFrames _ _ _).mpr hi
  · exact htrackSignals.retarget nofun fun i hi a ha => unlisted_signal hsound h.copy hi ha

/-- With nothing left to send the subscription hands the arrays over to the live session. -/
theorem finished (h : CatchingUp config R client client.sdk)
    (hframes : client.unsentFrames = []) (hsignals : client.unsentSignals = [])
    (hcopyFrames : client.snapshotFrames = canonical.frames)
    (hcopySignals : client.snapshotSignals = canonical.signals)
    (hpush : Pushes config canonical (outgoing .subscribed canonical.changeSequence
      canonical.sampleTimestampNs []) client queued) :
    Streaming config R canonical queued.finishCatchup queued.sdk [] [] ∧
      queued.sdk.sent = client.sdk.sent := by
  have htrackFrames := h.frames
  have htrackSignals := h.signals
  rw [hframes, hcopyFrames] at htrackFrames
  rw [hsignals, hcopySignals] at htrackSignals
  have hsdk := hpush.sdk.trans (h.negotiated.receive_subscribed h.phase _ _)
  rw [hsdk]
  obtain ⟨slot, -, -, rfl⟩ := hpush.takes
  exact ⟨⟨rfl, h.flags.needsResync, h.flags.resyncQueued, rfl, h.snapshot,
    ⟨h.negotiated.welcome, h.negotiated.capacity⟩, rfl, h.negotiated.knows h.carries _, h.carries,
    htrackFrames, htrackSignals⟩, rfl⟩

end CatchingUp

/-- A round is counted when it begins. -/
theorem beginCatchupRound_roundCount (canonical : Canonical cat) (client : Client cat) :
    roundCount client.log < roundCount (beginCatchupRound canonical client).log := by
  rw [roundCount_beginCatchupRound]
  exact Nat.lt_succ_self _

/-- A move leaves the copy of the frames alone unless it is a round. -/
theorem DriveMove.copy (h : DriveMove config canonical env client client') :
    (roundCount client'.log = roundCount client.log ∧
        client'.snapshotFrames = client.snapshotFrames) ∨
      (roundCount client.log < roundCount client'.log ∧
        client'.snapshotFrames = canonical.frames) := by
  cases h with
  | noted waiting reported => exact Or.inl ⟨rfl, rfl⟩
  | frames payload queued hguard hunsent hpayload hpush =>
    refine Or.inl ⟨hpush.roundCount, ?_⟩
    obtain ⟨slot, -, -, rfl⟩ := hpush.takes
    rfl
  | signals payload queued hguard hframes hunsent hpayload hpush =>
    refine Or.inl ⟨hpush.roundCount, ?_⟩
    obtain ⟨slot, -, -, rfl⟩ := hpush.takes
    rfl
  | round hguard hframes hsignals hdiffers =>
    exact Or.inr ⟨beginCatchupRound_roundCount canonical client, rfl⟩
  | finish queued hguard hframes hsignals hsameFrames hsameSignals hpush =>
    refine Or.inr ⟨(beginCatchupRound_roundCount canonical client).trans_eq hpush.roundCount.symm, ?_⟩
    obtain ⟨slot, -, -, rfl⟩ := hpush.takes
    rfl

/-- A drive takes no round back. -/
theorem drive_roundCount (hmoves : ReflTransGen (DriveMove config canonical env) client client') :
    roundCount client.log ≤ roundCount client'.log := by
  refine drive_induction (P := fun c => roundCount client.log ≤ roundCount c.log) ?_ hmoves le_rfl
  intro c c' hmove hc
  rcases hmove.copy with ⟨hsame, -⟩ | ⟨hless, -⟩
  · exact hc.trans hsame.ge
  · exact hc.trans hless.le

namespace Coherent

/-- A catch-up is under way only in one step of the protocol. -/
theorem catchingUp {sdk : Sdk} (h : Coherent config R canonical client handled sdk)
    (hcatchup : client.catchupActive = true) :
    CatchingUp config R client sdk ∧ Outstanding sdk handled [] := by
  have hnot : ¬ client.catchupActive = false := by simp [hcatchup]
  cases h with
  | greeting hquiet hsdk hhandled => exact absurd hquiet.catchup hnot
  | rejected hquiet hphase hmany hout => exact absurd hquiet.catchup hnot
  | schema next hquiet hnegotiated hphase hnext hout => exact absurd hquiet.catchup hnot
  | start hquiet hnegotiated hphase hout => exact absurd hquiet.catchup hnot
  | frames hcopying _ _ _ _ _ _ => exact absurd hcopying.catchup hnot
  | signals hcopying _ _ _ _ _ _ => exact absurd hcopying.catchup hnot
  | subscribing hcopying _ _ _ _ _ _ _ => exact absurd hcopying.catchup hnot
  | catching hcatching hout => exact ⟨hcatching, hout⟩
  | live hstreaming hout => exact absurd hstreaming.catchup hnot
  | lost hlost hout => exact absurd hlost.catchup hnot

/-- Every move of a drive keeps the two sides together. -/
theorem moved (hcomparison : Comparison cat R) (hsound : canonical.Sound)
    (hmove : DriveMove config canonical env client client')
    (hkeeps : roundCount client.log < roundCount client'.log →
      Keeps R canonical.frames client.snapshotFrames)
    (h : Coherent config R canonical client handled client.sdk) :
    Coherent config R canonical client' handled client'.sdk := by
  cases hmove with
  | noted waiting reported => exact h.withFlow _ _ waiting reported
  | frames payload queued hguard hunsent hpayload hpush =>
    obtain ⟨hcatching, hout⟩ := h.catchingUp (driveGuard_catchupActive hguard)
    obtain ⟨hsent, hsame⟩ := hcatching.sentFrames hcomparison hpayload hpush
    exact .catching hsent (hout.of_sent hsame)
  | signals payload queued hguard hframes hunsent hpayload hpush =>
    obtain ⟨hcatching, hout⟩ := h.catchingUp (driveGuard_catchupActive hguard)
    obtain ⟨hsent, hsame⟩ := hcatching.sentSignals hpayload hpush
    exact .catching hsent (hout.of_sent hsame)
  | round hguard hframes hsignals hdiffers =>
    obtain ⟨hcatching, hout⟩ := h.catchingUp (driveGuard_catchupActive hguard)
    rw [beginCatchupRound_sdk]
    have hnext := hkeeps (beginCatchupRound_roundCount canonical client)
    exact .catching (hcatching.rounded hsound hnext hframes hsignals) hout
  | finish queued hguard hframes hsignals hsameFrames hsameSignals hpush =>
    obtain ⟨hcatching, hout⟩ := h.catchingUp (driveGuard_catchupActive hguard)
    have hless := (beginCatchupRound_roundCount canonical client).trans_eq hpush.roundCount.symm
    have hnext := hkeeps hless
    have hrounded := hcatching.rounded hsound hnext hframes hsignals
    rw [← beginCatchupRound_sdk canonical client] at hrounded hout
    obtain ⟨hstreaming, hsame⟩ := hrounded.finished hsameFrames hsameSignals rfl rfl hpush
    exact .live hstreaming (hout.of_sent hsame)

/-- A whole drive keeps the two sides together. -/
theorem drive (hcomparison : Comparison cat R) (hsound : canonical.Sound)
    (hmoves : ReflTransGen (DriveMove config canonical env) client client')
    (hkeeps : roundCount client.log < roundCount client'.log →
      Keeps R canonical.frames client.snapshotFrames)
    (h : Coherent config R canonical client handled client.sdk) :
    Coherent config R canonical client' handled client'.sdk := by
  induction hmoves using ReflTransGen.head_induction_on with
  | refl => exact h
  | head hmove hrest ih =>
    -- Only the first round of a drive can find an old copy.
    have hlater := drive_roundCount hrest
    refine ih (fun hless => ?_) (h.moved hcomparison hsound hmove fun hless => ?_)
    · rcases hmove.copy with ⟨hsame, hcopy⟩ | ⟨-, hcopy⟩
      · rw [hcopy]
        exact hkeeps (hsame ▸ hless)
      · rw [hcopy]
        exact Keeps.refl R canonical.frames
    · exact hkeeps (hless.trans_le hlater)

end Coherent

namespace Streaming

variable {frames : List (Fin cat.frameCount)} {signals : List (Fin cat.signalCount)}

/-- A distribution starts with everything that changed still to be sent. -/
theorem start {before : Canonical cat} {sample : Sample cat} {sdk : Sdk} (hbefore : before.Sound)
    (hafter : (before.consume sample).Sound)
    (hkeeps : Keeps R (before.consume sample).frames before.frames)
    (h : Streaming config R before client sdk [] []) :
    Streaming config R (before.consume sample) client sdk (before.delta sample).1
      (before.delta sample).2 := by
  refine { h with frames := ?_, signals := ?_ }
  · refine h.frames.retarget nofun fun i hi a ha => hkeeps i a ?_ ha
    exact frameDiffers_of_notMem_delta hi
  · refine h.signals.retarget nofun fun i hi a ha => ?_
    exact ha.trans (signals_of_notMem_delta hbefore hafter hi).symm

/-- A canonical state with the same records. -/
theorem recanonical {before : Canonical cat} {sdk : Sdk} (hsame : before.Same canonical)
    (h : Streaming config R before client sdk frames signals) :
    Streaming config R canonical client sdk frames signals := by
  refine { h with frames := ?_, signals := ?_ }
  · rw [← hsame.frames]
    exact h.frames
  · rw [← hsame.signals]
    exact h.signals

/-- A queued batch of frames settles, at the receiver, the frames that it carries. -/
theorem pushedFrames {piece : List (Fin cat.frameCount)} {payload : List UInt8}
    (hcomparison : Comparison cat R) (hsound : canonical.Sound)
    (h : Streaming config R canonical client client.sdk (piece ++ frames) signals)
    (hpayload : encodeFrameBatch clientPayloadCap canonical.sampleSequence cat.frameCountWord
      uint32Max (piece.map canonical.frames) = some payload)
    (hpush : Pushes config canonical (outgoing .updateBatch canonical.changeSequence
      canonical.sampleTimestampNs payload) client queued) :
    Streaming config R canonical queued queued.sdk frames signals ∧
      queued.sdk.sent = client.sdk.sent := by
  obtain ⟨target, happly, hsignals, hcarries, hframes⟩ := h.negotiated.applyFrameBatch h.knows
    hsound.frames hpayload client.sdk.cache
  have hsdk := hpush.sdk.trans (h.negotiated.receive_liveFrames hpush.length_le h.phase happly)
  rw [hsdk]
  obtain ⟨slot, -, -, rfl⟩ := hpush.takes
  refine ⟨⟨h.subscribed, h.needsResync, h.resyncQueued, h.catchup, h.snapshot,
    ⟨h.negotiated.welcome, h.negotiated.capacity⟩, h.phase, h.knows, hcarries h.carries,
    hcomparison.send h.frames hframes, ?_⟩, rfl⟩
  show Tracks _ (entries cat.signalCount target.signals) _
  rw [hsignals]
  exact h.signals

/-- A queued batch of signals settles, at the receiver, the signals that it carries. -/
theorem pushedSignals {piece : List (Fin cat.signalCount)} {payload : List UInt8}
    (hsound : canonical.Sound)
    (h : Streaming config R canonical client client.sdk frames (piece ++ signals))
    (hpayload : encodeSignalBatch clientPayloadCap canonical.sampleSequence cat.signalCountWord
      uint32Max (piece.map (signalUpdate canonical.signals)) = some payload)
    (hpush : Pushes config canonical (outgoing .signalUpdateBatch canonical.changeSequence
      canonical.sampleTimestampNs payload) client queued) :
    Streaming config R canonical queued queued.sdk frames signals ∧
      queued.sdk.sent = client.sdk.sent := by
  obtain ⟨target, happly, hframes, hsignals⟩ := h.negotiated.applySignalBatch hsound.signals hpayload
    client.sdk.cache
  have hsdk := hpush.sdk.trans (h.negotiated.receive_liveSignals hpush.length_le h.phase happly)
  rw [hsdk]
  obtain ⟨slot, -, -, rfl⟩ := hpush.takes
  refine ⟨⟨h.subscribed, h.needsResync, h.resyncQueued, h.catchup, h.snapshot,
    ⟨h.negotiated.welcome, h.negotiated.capacity⟩, h.phase, h.knows, ?_, ?_, ?_⟩, rfl⟩
  · show CarriesCanIds cat target.frames
    rw [hframes]
    exact h.carries
  · show Tracks _ (entries cat.frameCount target.frames) _
    rw [hframes]
    exact h.frames
  · show Tracks _ (entries cat.signalCount target.signals) _
    rw [hsignals]
    exact h.signals.send fun i _ => rfl

/-- A heartbeat leaves the arrays alone. -/
theorem heartbeat {sourceState : SourceState}
    (h : Streaming config R canonical client client.sdk frames signals)
    (hpush : Pushes config canonical (outgoing .heartbeat canonical.changeSequence
      canonical.sampleTimestampNs (encodeHeartbeat (heartbeatReport canonical sourceState client)))
      client queued) :
    Streaming config R canonical queued queued.sdk frames signals ∧
      queued.sdk.sent = client.sdk.sent := by
  obtain ⟨sdk', hreceive, hphase, hwelcome, hcapacity, htable, hcache, hsent⟩ :=
    h.negotiated.receive_heartbeat h.phase (heartbeatReport canonical sourceState client)
      canonical.sampleTimestampNs
  have hsdk := hpush.sdk.trans hreceive
  rw [hsdk]
  obtain ⟨slot, -, -, rfl⟩ := hpush.takes
  refine ⟨⟨h.subscribed, h.needsResync, h.resyncQueued, h.catchup, h.snapshot,
    ⟨hwelcome.trans h.negotiated.welcome, hcapacity.trans h.negotiated.capacity⟩, hphase, ?_, ?_, ?_,
    ?_⟩, hsent⟩
  · rw [htable]
    exact h.knows
  · rw [hcache]
    exact h.carries
  · rw [hcache]
    exact h.frames
  · rw [hcache]
    exact h.signals

/-- A dropped message leaves a session that has to be told. -/
theorem overflowed {type : MessageType}
    (h : Streaming config R canonical client client.sdk frames signals)
    (hoverflow : Overflows config env type client client') :
    Lost config client' client'.sdk ∧ client'.sdk.sent = client.sdk.sent := by
  rw [hoverflow.eq, Client.overflow_sdk]
  exact ⟨⟨rfl, rfl, h.resyncQueued, h.catchup, h.snapshot, h.negotiated, h.phase⟩, rfl⟩

end Streaming

/-- An open session streams, up to what is listed, or has lost a message. -/
def Settled (config : Config cat) (R : Frame → Frame → Prop) (canonical : Canonical cat)
    (client : Client cat) (handled : ℕ) (frames : List (Fin cat.frameCount))
    (signals : List (Fin cat.signalCount)) : Prop :=
  client.active = true → Outstanding client.sdk handled [] ∧
    (Streaming config R canonical client client.sdk frames signals ∨ Lost config client client.sdk)

namespace Settled

variable {frames : List (Fin cat.frameCount)} {signals : List (Fin cat.signalCount)}

/-- A session that goes on with a distribution streams. -/
theorem streaming (h : Settled config R canonical client handled frames signals)
    (hactive : client.active = true) (hresync : client.needsResync = false) :
    Outstanding client.sdk handled [] ∧
      Streaming config R canonical client client.sdk frames signals := by
  obtain ⟨hout, hstreaming | hlost⟩ := h hactive
  · exact ⟨hout, hstreaming⟩
  · exact absurd (hlost.needsResync.symm.trans hresync) (by simp)

/-- After an overflow nothing of the sample is owed any more. -/
theorem overflowed {type : MessageType} {frames' : List (Fin cat.frameCount)}
    {signals' : List (Fin cat.signalCount)}
    (h : Settled config R canonical client handled frames signals)
    (hresync : client.needsResync = false)
    (hoverflow : Overflows config env type client client') :
    Settled config R canonical client' handled frames' signals' := by
  intro _
  obtain ⟨hout, hstreaming⟩ := h.streaming hoverflow.active hresync
  obtain ⟨hlost, hsame⟩ := hstreaming.overflowed hoverflow
  exact ⟨hout.of_sent hsame, Or.inr hlost⟩

/-- A session that could not be served is closed. -/
theorem closed {failed : Client cat} (hflags : SessionFlags client)
    (hrefused : Refused config client failed) :
    Settled config R canonical (clientClose failed) handled frames signals := by
  intro hactive
  rw [(hflags.refused hrefused).closed_active] at hactive
  contradiction

/-- The fan-out of the frames sends all of them, unless the session is closed or overflows. -/
theorem fanFrames {pieces : List (List (Fin cat.frameCount))} (hcomparison : Comparison cat R)
    (hsound : canonical.Sound) (hflags : SessionFlags client)
    (hfan : FansOut config canonical env .updateBatch (pieces.map fun piece =>
      encodeFrameBatch clientPayloadCap canonical.sampleSequence cat.frameCountWord uint32Max
        (piece.map canonical.frames)) client client')
    (h : Settled config R canonical client handled pieces.flatten signals) :
    Settled config R canonical client' handled [] signals := by
  refine FansOut.pieces_induction
    (P := fun client left => Settled config R canonical client handled left signals)
    (Q := fun client => Settled config R canonical client handled [] signals) id ?_ ?_ ?_ hflags
    hfan h
  · intro client queued piece rest payload hresync hpiece hpush h
    obtain ⟨hout, hstreaming⟩ := h.streaming hpush.active hresync
    obtain ⟨hsent, hsame⟩ := hstreaming.pushedFrames hcomparison hsound hpiece hpush
    exact fun _ => ⟨hout.of_sent hsame, Or.inl hsent⟩
  · intro client client' left hresync hoverflow h
    exact h.overflowed hresync hoverflow
  · intro client failed left hflags hrefused _
    exact closed hflags hrefused

/-- The fan-out of the signals sends all of them, unless the session is closed or overflows. -/
theorem fanSignals {pieces : List (List (Fin cat.signalCount))} (hsound : canonical.Sound)
    (hflags : SessionFlags client)
    (hfan : FansOut config canonical env .signalUpdateBatch (pieces.map fun piece =>
      encodeSignalBatch clientPayloadCap canonical.sampleSequence cat.signalCountWord uint32Max
        (piece.map (signalUpdate canonical.signals))) client client')
    (h : Settled config R canonical client handled frames pieces.flatten) :
    Settled config R canonical client' handled frames [] := by
  refine FansOut.pieces_induction
    (P := fun client left => Settled config R canonical client handled frames left)
    (Q := fun client => Settled config R canonical client handled frames []) id ?_ ?_ ?_ hflags
    hfan h
  · intro client queued piece rest payload hresync hpiece hpush h
    obtain ⟨hout, hstreaming⟩ := h.streaming hpush.active hresync
    obtain ⟨hsent, hsame⟩ := hstreaming.pushedSignals hsound hpiece hpush
    exact fun _ => ⟨hout.of_sent hsame, Or.inl hsent⟩
  · intro client client' left hresync hoverflow h
    exact h.overflowed hresync hoverflow
  · intro client failed left hflags hrefused _
    exact closed hflags hrefused

/-- A whole distribution. -/
theorem distributed {changedFrames : List (Fin cat.frameCount)}
    {changedSignals : List (Fin cat.signalCount)} (hcomparison : Comparison cat R)
    (hsound : canonical.Sound) (hflags : SessionFlags client) (hsubscribed : client.subscribed = true)
    (hdistributes : Distributes config canonical env changedFrames changedSignals client client')
    (h : Settled config R canonical client handled changedFrames changedSignals) :
    Settled config R canonical client' handled [] [] := by
  have hstable : Stable config canonical env (@SessionFlags cat) := SessionFlags.stable
  rw [← chunks_flatten framesPerMessage (by decide) changedFrames] at h
  cases hdistributes with
  | stopped hframes hstopped =>
    intro hactive
    obtain ⟨hout, hstreaming | hlost⟩ := fanFrames hcomparison hsound hflags hframes h hactive
    · rcases hstopped with hclosed | hresync
      · exact absurd (hactive.symm.trans hclosed) (by simp)
      · exact absurd (hstreaming.needsResync.symm.trans hresync) (by simp)
    · exact ⟨hout, Or.inr hlost⟩
  | both hframes hactive hresync hsignals =>
    have hsent := fanFrames hcomparison hsound hflags hframes h
    rw [← chunks_flatten signalsPerMessage (by decide) changedSignals] at hsent
    exact fanSignals hsound (hstable.kept.fannedOut hframes nofun nofun hsubscribed hflags).1 hsignals
      hsent

end Settled

end Roadcast
