import Roadcast.System.Streams

/-!
# The two state machines stay at the same step

`Coherent.evolved` collects what every event does, and `run_lockstep` is the invariant of whole runs
of the daemon with a session in SDK order.
-/

namespace Roadcast

open DeltaSync Relation Runs

variable {cat : Catalog} {config : Config cat} {R : Frame → Frame → Prop}
  {canonical : Canonical cat} {env : Env cat} {client client' : Client cat} {handled : ℕ}

/-- `RESYNC_REQUIRED` takes no round back. -/
theorem resynced_roundCount (hstep : ResyncStep config canonical client client') :
    roundCount client.log ≤ roundCount client'.log := by
  cases hstep with
  | none _ => exact le_rfl
  | queued queued hgreeted hresync hnot hpending hpush => exact hpush.roundCount.ge
  | failed hrefused =>
    rw [clientClose_log]
    cases hrefused with
    | unchanged => exact le_rfl
    | scrubbed slot hfree => exact le_rfl

namespace Coherent

/-- A session that takes part in distributions streams. -/
theorem streaming {sdk : Sdk} (h : Coherent config R canonical client handled sdk)
    (hlive : client.Live) :
    Streaming config R canonical client sdk [] [] ∧ Outstanding sdk handled [] := by
  have hnot : ¬ client.subscribed = false := by simp [hlive.2.1]
  cases h with
  | greeting hquiet hsdk hhandled => exact absurd hquiet.subscribed hnot
  | rejected hquiet hphase hmany hout => exact absurd hquiet.subscribed hnot
  | schema next hquiet hnegotiated hphase hnext hout => exact absurd hquiet.subscribed hnot
  | start hquiet hnegotiated hphase hout => exact absurd hquiet.subscribed hnot
  | frames hcopying _ _ _ _ _ _ => exact absurd hcopying.flags.subscribed hnot
  | signals hcopying _ _ _ _ _ _ => exact absurd hcopying.flags.subscribed hnot
  | subscribing hcopying _ _ _ _ _ _ _ => exact absurd hcopying.flags.subscribed hnot
  | catching hcatching hout => exact absurd hcatching.flags.subscribed hnot
  | live hstreaming hout => exact ⟨hstreaming, hout⟩
  | lost hlost hout => exact absurd hlost.subscribed hnot

/-- `RESYNC_REQUIRED` is due only in one step of the protocol. -/
theorem resyncDue {sdk : Sdk} (h : Coherent config R canonical client handled sdk)
    (hresync : client.needsResync = true) (hqueued : client.resyncQueued = false) :
    Lost config client sdk ∧ Outstanding sdk handled [] := by
  have hnot : ¬ client.needsResync = false := by simp [hresync]
  have hnotQueued : ¬ client.resyncQueued = true := by simp [hqueued]
  cases h with
  | greeting hquiet hsdk hhandled => exact absurd (hquiet.resync hresync) hnotQueued
  | rejected hquiet hphase hmany hout => exact absurd (hquiet.resync hresync) hnotQueued
  | schema next hquiet hnegotiated hphase hnext hout =>
    exact absurd (hquiet.resync hresync) hnotQueued
  | start hquiet hnegotiated hphase hout => exact absurd (hquiet.resync hresync) hnotQueued
  | frames hcopying _ _ _ _ _ _ => exact absurd hcopying.flags.needsResync hnot
  | signals hcopying _ _ _ _ _ _ => exact absurd hcopying.flags.needsResync hnot
  | subscribing hcopying _ _ _ _ _ _ _ => exact absurd hcopying.flags.needsResync hnot
  | catching hcatching hout => exact absurd hcatching.flags.needsResync hnot
  | live hstreaming hout => exact absurd hstreaming.needsResync hnot
  | lost hlost hout => exact ⟨hlost, hout⟩

/-- Only a live session looks at the canonical state. -/
theorem recanonical {before : Canonical cat} {sdk : Sdk} (hactive : client.active = true)
    (hquiet : before.Same canonical ∨ ¬ client.Live)
    (h : Coherent config R before client handled sdk) :
    Coherent config R canonical client handled sdk := by
  cases h with
  | greeting hquiet hsdk hhandled => exact .greeting hquiet hsdk hhandled
  | rejected hquiet hphase hmany hout => exact .rejected hquiet hphase hmany hout
  | schema next hquiet hnegotiated hphase hnext hout =>
    exact .schema next hquiet hnegotiated hphase hnext hout
  | start hquiet hnegotiated hphase hout => exact .start hquiet hnegotiated hphase hout
  | frames hcopying hactive hcomplete hfirst hnegotiated hphase hout =>
    exact .frames hcopying hactive hcomplete hfirst hnegotiated hphase hout
  | signals hcopying hactive hframes hnegotiated hknows hphase hout =>
    exact .signals hcopying hactive hframes hnegotiated hknows hphase hout
  | subscribing hcopying hactive hframes hsignals hnegotiated hknows hphase hout =>
    exact .subscribing hcopying hactive hframes hsignals hnegotiated hknows hphase hout
  | catching hcatching hout => exact .catching hcatching hout
  | live hstreaming hout =>
    rcases hquiet with hsame | hnotLive
    · exact .live (hstreaming.recanonical hsame) hout
    · exact absurd ⟨hactive, hstreaming.subscribed, hstreaming.needsResync⟩ hnotLive
  | lost hlost hout => exact .lost hlost hout

/-- Once nothing is owed, the two sides are coherent. -/
theorem settled {frames : List (Fin cat.frameCount)} {signals : List (Fin cat.signalCount)}
    (h : Settled config R canonical client handled frames signals) (hframes : frames = [])
    (hsignals : signals = []) (hactive : client.active = true) :
    Coherent config R canonical client handled client.sdk := by
  subst hframes hsignals
  obtain ⟨hout, hstreaming | hlost⟩ := h hactive
  · exact .live hstreaming hout
  · exact .lost hlost hout

/-- `RESYNC_REQUIRED` sends the SDK back to its first page request. -/
theorem resynced (hflags : SessionFlags client)
    (hstep : ResyncStep config canonical client client') (hactive : client'.active = true)
    (h : Coherent config R canonical client handled client.sdk) :
    Coherent config R canonical client' handled client'.sdk := by
  cases hstep with
  | none _ => exact h
  | queued queued hgreeted hresync hnot hpending hpush =>
    obtain ⟨hlost, hout⟩ := h.resyncDue hresync hnot
    have hsdk := hpush.sdk.trans (hlost.negotiated.receive_resyncRequired hlost.phase _ _)
    rw [hlost.negotiated.synchronize] at hsdk
    have hsent : Outstanding queued.sdk handled [indexRequest .getSnapshot 0] := by
      rw [hsdk]
      exact hout.asked rfl
    have hnegotiated : Sdk.Negotiated config queued.sdk := by
      rw [hsdk]
      exact ⟨hlost.negotiated.welcome, hlost.negotiated.capacity⟩
    have hphase : queued.sdk.phase = .frames 0 := by rw [hsdk]
    obtain ⟨slot, -, -, rfl⟩ := hpush.takes
    exact .start ⟨hlost.subscribed, hlost.catchup, hlost.snapshot, fun _ => rfl⟩ hnegotiated hphase
      hsent
  | failed hrefused =>
    rw [(hflags.refused hrefused).closed_active] at hactive
    contradiction

/-- A write completion goes on with a catch-up or tells the SDK about a loss. -/
theorem resumed (hcomparison : Comparison cat R) (hsound : canonical.Sound)
    (hflags : SessionFlags client) (hresumes : Resumes config canonical env client client')
    (hactive : client'.active = true)
    (hkeeps : roundCount client.log < roundCount client'.log →
      Keeps R canonical.frames client.snapshotFrames)
    (h : Coherent config R canonical client handled client.sdk) :
    Coherent config R canonical client' handled client'.sdk := by
  have hstable : Stable config canonical env (@SessionFlags cat) := SessionFlags.stable
  cases hresumes with
  | idle hcatchup hstep => exact h.resynced hflags hstep hactive
  | @driven driven client' hcatchup hmoves hdone hstep =>
    have hall := hmoves.trans (noteWaiting_moves driven)
    have hlast := drive_induction hstable.kept.moved hall hflags
    refine (h.drive hcomparison hsound hall fun hless => hkeeps ?_).resynced hlast hstep hactive
    exact hless.trans_le (resynced_roundCount hstep)
  | failed hcatchup hmoves hfailure =>
    have hlast := drive_induction hstable.kept.moved hmoves hflags
    rw [(hstable.kept.driveFailed hfailure hlast).closed_active] at hactive
    contradiction

/-- `SUBSCRIBE_ALL` starts a catch-up from the copy that the SDK holds. -/
theorem subscribed {driven : Client cat} {request : Message} (hcomparison : Comparison cat R)
    (hsound : canonical.Sound) (hcopying : Copying client client.sdk.synchronization)
    (hactive : client.snapshotActive = false)
    (hframes : client.snapshotNextFrameIndex = cat.frameCount)
    (hsignals : client.snapshotNextIndex = cat.signalCount)
    (hnegotiated : Sdk.Negotiated config client.sdk)
    (hknows : KnowsCanIds cat client.sdk.canIdToIndex)
    (hphase : client.sdk.phase = .subscription) (hout : Outstanding client.sdk handled [request])
    (hmoves : ReflTransGen (DriveMove config canonical env)
      (beginCatchupRound canonical { client with catchupActive := true }) driven)
    (hkeeps : roundCount client.log < roundCount driven.log →
      Keeps R canonical.frames client.snapshotFrames) :
    Coherent config R canonical driven (handled + 1) driven.sdk := by
  have hrounds := beginCatchupRound_roundCount canonical { client with catchupActive := true }
  have hkept := hkeeps (hrounds.trans_le (drive_roundCount hmoves))
  have hcopiedFrames := hcopying.frames
  have hcopiedSignals := hcopying.signals
  rw [hframes] at hcopiedFrames
  rw [hsignals] at hcopiedSignals
  have hcarries : CarriesCanIds cat client.sdk.synchronization.frames := by
    intro i
    have hentry : client.sdk.synchronization.frames i.val = client.snapshotFrames i :=
      hcopiedFrames i i.isLt
    rw [hentry]
    exact (hcopying.copy.frames i).1
  have hstart : CatchingUp config R
      (beginCatchupRound canonical { client with catchupActive := true }) client.sdk := by
    refine ⟨{ hcopying.flags with }, rfl, hactive, hnegotiated, hphase,
      ⟨hsound.frames, hsound.signals⟩, hknows, hcarries, ?_, ?_⟩
    · refine (hcopiedFrames.tracks hcomparison.refl).retarget nofun fun i hi a ha => hkept i a ?_ ha
      exact Bool.not_eq_true _ ▸ mt (mem_differingFrames _ _ _).mpr hi
    · refine (hcopiedSignals.tracks (R := Eq) fun _ => rfl).retarget nofun fun i hi a ha => ?_
      exact unlisted_signal hsound hcopying.copy hi ha
  have hsdk : (beginCatchupRound canonical { client with catchupActive := true }).sdk = client.sdk :=
    beginCatchupRound_sdk canonical _
  refine drive hcomparison hsound hmoves (fun _ => Keeps.refl R canonical.frames) ?_
  rw [hsdk]
  exact .catching hstart (hout.last rfl)

/-- The answer to the next request of the SDK brings both sides to their next step. -/
theorem replied {request : Message} (hcomparison : Comparison cat R) (hsound : canonical.Sound)
    (hsent : client.sdk.sent[handled]? = some request)
    (hreply : Reply config canonical env request client client')
    (hkeeps : roundCount client.log < roundCount client'.log →
      Keeps R canonical.frames client.snapshotFrames)
    (h : Coherent config R canonical client handled client.sdk) :
    Coherent config R canonical client' (handled + 1) client'.sdk := by
  cases h with
  | greeting hquiet hsdk hhandled =>
    subst hhandled
    rw [hsdk] at hsent
    obtain rfl : outgoing .hello 0 0 encodeHello = request := Option.some.inj hsent
    obtain ⟨queued, hpush, rfl⟩ := hreply.of_hello rfl
    exact greeted _ hquiet hsdk hpush
  | rejected hquiet hphase hmany hout => exact absurd (hout.head hsent) nofun
  | schema next hquiet hnegotiated hphase hnext hout =>
    obtain rfl : indexRequest .getSchema next = request := Option.some.inj (hout.head hsent)
    obtain ⟨startIndex, payload, hstart, hpayload, hpush⟩ := hreply.of_getSchema rfl
    rw [decodeIndexRequest_indexRequest] at hstart
    have hindex : startIndex.toNat = next := by
      rw [← Option.some.inj hstart]
      exact cat.signalIndex_toNat hnext
    exact schemaSent hquiet hnegotiated (hindex ▸ hphase) hout hpayload hpush
  | start hquiet hnegotiated hphase hout =>
    obtain rfl : indexRequest .getSnapshot 0 = request := Option.some.inj (hout.head hsent)
    obtain ⟨startIndex, source, queued, payload, -, hsource, hnext, hlt, hpayload, hpush, rfl⟩ :=
      hreply.of_getSnapshot rfl
    rcases hsource with ⟨rfl, -, rfl⟩ | ⟨-, hactive⟩
    · have hflags : Synchronizing (beginSnapshot canonical env client) :=
        ⟨hquiet.subscribed, rfl, rfl⟩
      rw [← beginSnapshot_sdk canonical env client] at hnegotiated hphase hout
      exact framePaged hflags hquiet.catchup ⟨hsound.frames, hsound.signals⟩ rfl rfl rfl
        (CopiedBelow.zero _ _) hnegotiated hphase (fun hnonzero => absurd rfl hnonzero) hout hnext hlt
        hpayload hpush
    · exact absurd (hquiet.snapshot.symm.trans hactive) (by simp)
  | frames hcopying hactive hcomplete hfirst hnegotiated hphase hout =>
    obtain rfl : indexRequest .getSnapshot client.snapshotNextFrameIndex = request :=
      Option.some.inj (hout.head hsent)
    obtain ⟨startIndex, source, queued, payload, -, hsource, hnext, hlt, hpayload, hpush, rfl⟩ :=
      hreply.of_getSnapshot rfl
    rcases hsource with ⟨-, hinactive, -⟩ | ⟨rfl, -⟩
    · exact absurd (hactive.symm.trans hinactive) (by simp)
    · exact framePaged hcopying.flags hcopying.catchup hcopying.copy hactive hcomplete hfirst
        hcopying.frames hnegotiated (hnext ▸ hphase) (fun _ => ⟨hcopying.sampleSequence,
          hcopying.changeSequence, hcopying.timestampNs⟩) hout hnext hlt hpayload hpush
  | signals hcopying hactive hframes hnegotiated hknows hphase hout =>
    obtain rfl : indexRequest .getSignalSnapshot client.snapshotNextIndex = request :=
      Option.some.inj (hout.head hsent)
    obtain ⟨startIndex, queued, payload, -, hnext, hlt, hpayload, hpush, rfl⟩ :=
      hreply.of_getSignalSnapshot rfl
    exact signalPaged hcopying hactive hframes hnegotiated hknows (hnext ▸ hphase) hout hnext hlt
      hpayload hpush
  | subscribing hcopying hactive hframes hsignals hnegotiated hknows hphase hout =>
    obtain rfl : subscribeRequest = request := Option.some.inj (hout.head hsent)
    obtain ⟨driven, hmoves, rfl⟩ := hreply.of_subscribeAll rfl
    exact subscribed hcomparison hsound hcopying hactive hframes hsignals hnegotiated hknows hphase
      hout (hmoves.trans (noteWaiting_moves driven)) hkeeps
  | catching hcatching hout => exact absurd (hout.head hsent) nofun
  | live hstreaming hout => exact absurd (hout.head hsent) nofun
  | lost hlost hout => exact absurd (hout.head hsent) nofun

/-- Every event keeps an open session together with its SDK. -/
theorem evolved {before : Canonical cat} {event : Event cat} {s : Fin maxClients}
    (hcomparison : Comparison cat R) (hbefore : before.Sound) (hsound : canonical.Sound)
    (hflags : SessionFlags client)
    (hsent : ∀ env request, event = .request s env request → client.active = true →
      client.sdk.sent[handled]? = some request)
    (hevolves : Evolves config canonical before event s client client')
    (hactive : client'.active = true)
    (hrounds : roundCount client.log < roundCount client'.log →
      Keeps R before.frames client.snapshotFrames)
    (hlive : client.Live → ∀ env, event = .sampleNotification env →
      Keeps R canonical.frames before.frames)
    (hzero : client.active = false → handled = 0)
    (h : client.active = true → Coherent config R before client handled client.sdk) :
    Coherent config R canonical client'
      (if client.active = true ∧ event.isRequestOf s = true then handled + 1 else handled)
      client'.sdk := by
  have hstable : Stable config canonical (event.answers s) (@SessionFlags cat) := SessionFlags.stable
  have hother : (∀ env request, event ≠ .request s env request) →
      (if client.active = true ∧ event.isRequestOf s = true then handled + 1 else handled) =
        handled := by
    intro hevent
    refine if_neg fun hrequest => ?_
    cases event with
    | request session env request =>
      obtain rfl : session = s := by simpa [Event.isRequestOf] using hrequest.2
      exact hevent env request rfl
    | tick _ | sampleNotification _ | heartbeat _ _ | connection _ | writeDone _ _ _ _
    | disconnect _ | closed _ | shutdown => exact absurd hrequest.2 (by simp [Event.isRequestOf])
  cases hevolves with
  | idle hevent hquiet =>
    rw [hother (hevent.resolve_left (by simp [hactive]))]
    exact (h hactive).recanonical hactive hquiet
  | closed =>
    rw [hflags.closed_active] at hactive
    contradiction
  | replied request hevent hcanonical hopen hreply =>
    subst hcanonical
    have hrequest : client.active = true ∧ event.isRequestOf s = true := by
      rw [hevent]
      exact ⟨hopen, by simp [Event.isRequestOf]⟩
    rw [if_pos hrequest]
    exact (h hopen).replied hcomparison hsound (hsent _ request hevent hopen) hreply hrounds
  | aborted request hevent hcanonical hopen hfailure =>
    rw [(hstable.kept.commandFailed hfailure hflags).closed_active] at hactive
    contradiction
  | writeFailed slot hused =>
    rw [(hstable.released hused hflags).closed_active] at hactive
    contradiction
  | written slot hevent hcanonical hused hresumes =>
    subst hcanonical
    rw [hother fun _ _ => hevent ▸ nofun]
    have hopen : client.active = true := hresumes.active hactive
    have hreleased : Coherent config R before (client.release slot) handled
        (client.release slot).sdk :=
      (h hopen).withFlow _ _ client.catchupWaitingForCapacity client.catchupResumptionReported
    exact hreleased.resumed hcomparison hsound (hstable.released hused hflags) hresumes hactive hrounds
  | distributed env sample hevent hcanonical hsession hdistributes =>
    subst hcanonical
    rw [hother fun _ _ => hevent ▸ nofun]
    obtain ⟨hstreaming, hout⟩ := (h hsession.1).streaming hsession
    have hstart := hstreaming.start hbefore hsound (hlive hsession env hevent)
    have hsettled : Settled config R (before.consume sample) client handled (before.delta sample).1
        (before.delta sample).2 := fun _ => ⟨hout, Or.inl hstart⟩
    exact settled (hsettled.distributed hcomparison hsound hflags hsession.2.1 hdistributes) rfl rfl
      hactive
  | heartbeat nowNs env sourceState hevent hsame hgreeted hsession hpush =>
    rw [hother fun _ _ => hevent ▸ nofun]
    obtain ⟨hstreaming, hout⟩ := (h hsession.1).streaming hsession
    obtain ⟨hqueued, hsent⟩ := (hstreaming.recanonical hsame).heartbeat hpush
    exact .live hqueued (hout.of_sent hsent)
  | heartbeatOverflow nowNs env hevent hsame hgreeted hsession hoverflow =>
    rw [hother fun _ _ => hevent ▸ nofun]
    obtain ⟨hstreaming, hout⟩ := (h hsession.1).streaming hsession
    obtain ⟨hlost, hsent⟩ := hstreaming.overflowed hoverflow
    exact .lost hlost (hout.of_sent hsent)
  | heartbeatFailed hrefused =>
    rw [(hflags.refused hrefused).closed_active] at hactive
    contradiction
  | fresh hinactive hfresh =>
    have hclosed : client.active = false := (hinactive.resolve_right (by simp [hactive])).1
    rw [if_neg (by simp [hclosed]), hzero hclosed]
    cases hfresh with
    | zero => contradiction
    | unaccepted => contradiction
    | rejected => contradiction
    | accepted uid nowNs => exact .greeting ⟨rfl, rfl, rfl, nofun⟩ rfl rfl
    | unreadable uid nowNs => contradiction

end Coherent

/-- The event begins a round of catch-up for the session. -/
def BeginsRound (config : Config cat) (s : Fin maxClients) (watched : Watched cat)
    (event : Event cat) : Prop :=
  roundCount (watched.daemon.clients s).log <
    roundCount ((step config watched.daemon event).clients s).log

instance (config : Config cat) (s : Fin maxClients) (watched : Watched cat) (event : Event cat) :
    Decidable (BeginsRound config s watched event) :=
  inferInstanceAs (Decidable (_ < _))

/-- What a round or a distribution leaves out of its messages to a session is no loss. -/
def KeepsFrames (config : Config cat) (R : Frame → Frame → Prop) (s : Fin maxClients)
    (watched : Watched cat) (event : Event cat) : Prop :=
  let canonical := watched.daemon.canonical
  let client := watched.daemon.clients s
  (BeginsRound config s watched event → Keeps R canonical.frames client.snapshotFrames) ∧
    (client.Live → ∀ env, event = .sampleNotification env →
      Keeps R (samplerReadLatest watched.daemon.sampler).frames canonical.frames)

/-- The times of requests do not matter for what is left out. -/
theorem KeepsFrames.unstamped {s : Fin maxClients} {watched : Watched cat} {event : Event cat}
    (h : KeepsFrames config R s watched event) : KeepsFrames config R s watched event.unstamped := by
  refine ⟨fun hround => h.1 ?_, fun hlive env hevent => h.2 hlive env ?_⟩
  · rw [BeginsRound, step_unstamped] at hround
    exact hround
  · cases event with
    | request session env request => cases hevent
    | _ => exact hevent

/-- A sample that is not newer is not looked at. -/
theorem Keeps.consume {sample : Sample cat} (h : Keeps R sample.frames canonical.frames) :
    Keeps R (canonical.consume sample).frames canonical.frames := by
  rcases canonical.consume_cases sample with ⟨-, hsame⟩ | ⟨-, -, hrefresh⟩ | ⟨-, -, hadvance⟩
  · rw [hsame]
    exact Keeps.refl R canonical.frames
  · rw [hrefresh]
    exact h
  · rw [hadvance]
    exact h

/-- The invariant of the daemon and one session in SDK order. -/
structure InLockstep (config : Config cat) (R : Frame → Frame → Prop) (s : Fin maxClients)
    (watched : Watched cat) : Prop where
  sound : watched.daemon.Sound
  flags : SessionFlags (watched.daemon.clients s)
  unhandled : (watched.daemon.clients s).active = false → watched.handled = 0
  coherent : (watched.daemon.clients s).active = true →
    Coherent config R watched.daemon.canonical (watched.daemon.clients s) watched.handled
      (watched.daemon.clients s).sdk

/-- The two sides start at the same step. -/
theorem InLockstep.init (config : Config cat) (R : Frame → Frame → Prop) (s : Fin maxClients)
    (fake : Option Bool) (tick : Tick cat) :
    InLockstep config R s (watchInit config fake tick) :=
  ⟨daemonInit_sound config fake tick, .fresh .zero, fun _ => rfl, nofun⟩

/-- Every event keeps the two sides at the same step. -/
theorem InLockstep.step {s : Fin maxClients} {watched : Watched cat} {event : Event cat}
    (hcomparison : Comparison cat R) (horder : SdkOrder s watched event)
    (hkeeps : KeepsFrames config R s watched event) (h : InLockstep config R s watched) :
    InLockstep config R s (watchStep config s watched event) := by
  have hevolves := step_evolves config watched.daemon event s
  have hnext := step_sound config event h.sound
  have hdistributed : (watched.daemon.clients s).Live → ∀ env, event = .sampleNotification env →
      Keeps R (Roadcast.step config watched.daemon event).canonical.frames
        watched.daemon.canonical.frames := by
    rintro hlive env rfl
    exact (hkeeps.2 hlive env rfl).consume
  refine ⟨hnext, SessionFlags.stable.evolved hevolves h.flags, fun hinactive => ?_, fun hactive => ?_⟩
  · exact if_pos hinactive
  · have hcoherent := Coherent.evolved hcomparison h.sound.canonical hnext.canonical h.flags
      (sdkOrder_sent horder) hevolves hactive hkeeps.1 hdistributed h.unhandled h.coherent
    have hcount : ¬ ((Roadcast.step config watched.daemon event).clients s).active = false := by
      rw [Bool.not_eq_false]
      exact hactive
    simp only [watchStep, if_neg hcount]
    exact hcoherent

/-- In every run with a session in SDK order, in which nothing that matters is left out, the daemon
and the SDK are at the same step of the protocol. -/
theorem run_lockstep (config : Config cat) (fake : Option Bool) (tick : Tick cat)
    (events : List (Event cat)) (s : Fin maxClients) (hcomparison : Comparison cat R)
    (hmeets : Meets (watchStep config s)
      (fun watched event => WireOrder s watched event ∧ KeepsFrames config R s watched event)
      (watchInit config fake tick) events) :
    ∃ handled, InLockstep config R s ⟨run config fake tick events, handled⟩ := by
  have hsdk : Meets (watchStep config s)
      (fun watched event => SdkOrder s watched event ∧ KeepsFrames config R s watched event)
      (watchInit config fake tick) (events.map Event.unstamped) :=
    (hmeets.imp fun watched event h => ⟨h.1, h.2.unstamped⟩).map (watchStep_unstamped config s)
  have hinvariant := hsdk.invariant (I := InLockstep config R s)
    (fun event _ watched hgood h => h.step hcomparison hgood.1 hgood.2)
    (.init config R s fake tick)
  have hrun := (wireOrder_unstamped (hmeets.imp fun _ _ h => h.1)).2
  rw [← hrun, run_eq_watched config fake tick _ s]
  exact ⟨_, hinvariant⟩

/-- If nothing that is ever left out matters, the order of the requests is enough. -/
theorem run_lockstep_of_keeps {fake : Option Bool} {tick : Tick cat} {events : List (Event cat)}
    {s : Fin maxClients} (hcomparison : Comparison cat R)
    (hkeeps : ∀ now before : Fin cat.frameCount → Frame, Keeps R now before)
    (horder : Meets (watchStep config s) (WireOrder s) (watchInit config fake tick) events) :
    ∃ handled, InLockstep config R s ⟨run config fake tick events, handled⟩ :=
  run_lockstep config fake tick events s hcomparison
    (horder.imp fun _ _ h => ⟨h, fun _ => hkeeps _ _, fun _ _ _ => hkeeps _ _⟩)

/-- The subscription is still being written when a sample comes, so its batch is dropped. The session
synchronizes again, and the next sample comes between its snapshot and its subscription. -/
def resyncRun : List (Event singleCatalog) :=
  singleSetup ++ [singleRequest .subscribeAll []] ++ singleSample 1 20 ++
    [singleWriteDone, singleWriteDone,
      singleRequest .getSnapshot (encodeIndexRequest 0), singleWriteDone,
      singleRequest .getSignalSnapshot (encodeIndexRequest 0), singleWriteDone] ++
    singleSample 0 30 ++
    [singleRequest .subscribeAll [], singleWriteDone, singleWriteDone]

end Roadcast
