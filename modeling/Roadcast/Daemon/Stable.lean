import Roadcast.Daemon.Reactions

/-!
# Properties that no event can break

A property of a session record is stable if every elementary update keeps it: queueing, overflow,
release of a slot, the flags that each request sets. A property that speaks of `WELCOME` and
`SUBSCRIBED` is broken between the queueing of such a message and the flags that go with it: it is
kept if the two together keep it, and each of the other updates does. `Kept.evolved` is the induction
that turns the updates into whole events, with every loop of the source in it. Properties that hold
only between events, or only after more updates together, are proved on `Evolves` itself.
-/

namespace Roadcast

open SlotPool Relation Runs

variable {cat : Catalog} (config : Config cat) (canonical : Canonical cat) (env : Env cat)

/-- The elementary updates of a session record, with what is known when each is made. -/
structure Stable (P : Client cat → Prop) : Prop where
  pushed : ∀ {message : Message} {client client' : Client cat},
    Pushes config canonical message client client' → P client → P client'
  scrubbed : ∀ {client : Client cat} {slot : Fin (clientQueueSlots cat)},
    FreeSlot config client slot → P client → P (client.scrub slot)
  closed : ∀ {client : Client cat}, P client → P (clientClose client)
  released : ∀ {client : Client cat} {slot : Fin (clientQueueSlots cat)},
    (client.output slot).inUse = true → P client → P (client.release slot)
  overflowed : ∀ {type : MessageType} {client client' : Client cat},
    client.subscribed = true → client.needsResync = false →
    Overflows config env type client client' → P client → P client'
  greeted : ∀ {client : Client cat}, P client → P (client.greet env.monotonicNs)
  begun : ∀ {client : Client cat}, client.greeted = true → P client →
    P (beginSnapshot canonical env client)
  advancedFrames : ∀ {client : Client cat} (count : ℕ), P client → P (client.advanceFrames count)
  advancedSignals : ∀ {client : Client cat} (count : ℕ), P client → P (client.advanceSignals count)
  started : ∀ {client : Client cat}, client.greeted = true → client.needsResync = false →
    client.snapshotComplete = true → P client → P { client with catchupActive := true }
  rounded : ∀ {client : Client cat}, P client → P (beginCatchupRound canonical client)
  sentFrames : ∀ {client : Client cat} (offset : ℕ), P client →
    P { client with catchupFrameOffset := offset }
  sentSignals : ∀ {client : Client cat} (offset : ℕ), P client →
    P { client with catchupSignalOffset := offset }
  noted : ∀ {client : Client cat} (waiting reported : Bool), P client →
    P { client with catchupWaitingForCapacity := waiting, catchupResumptionReported := reported }
  finished : ∀ {client : Client cat}, client.catchupActive = true → P client →
    P client.finishCatchup
  requested : ∀ {client : Client cat}, P client → P { client with resyncQueued := true }
  fresh : ∀ {client : Client cat}, Fresh client → P client

/-- The updates of a session record, with `WELCOME` and `SUBSCRIBED` together with their flags. -/
structure Kept (P : Client cat → Prop) : Prop where
  pushed : ∀ {type : MessageType} {sequence timestampNs : UInt64} {payload : List UInt8}
    {client client' : Client cat},
    Pushes config canonical (outgoing type sequence timestampNs payload) client client' →
    type ≠ .welcome → type ≠ .subscribed → P client → P client'
  welcomed : ∀ {sequence timestampNs : UInt64} {payload : List UInt8} {client client' : Client cat},
    Pushes config canonical (outgoing .welcome sequence timestampNs payload) client client' →
    client.greeted = false → P client → P (client'.greet env.monotonicNs)
  finished : ∀ {sequence timestampNs : UInt64} {payload : List UInt8} {client client' : Client cat},
    Pushes config canonical (outgoing .subscribed sequence timestampNs payload) client client' →
    client.catchupActive = true → P client → P client'.finishCatchup
  scrubbed : ∀ {client : Client cat} {slot : Fin (clientQueueSlots cat)},
    FreeSlot config client slot → P client → P (client.scrub slot)
  closed : ∀ {client : Client cat}, P client → P (clientClose client)
  released : ∀ {client : Client cat} {slot : Fin (clientQueueSlots cat)},
    (client.output slot).inUse = true → P client → P (client.release slot)
  overflowed : ∀ {type : MessageType} {client client' : Client cat},
    client.subscribed = true → client.needsResync = false →
    Overflows config env type client client' → P client → P client'
  begun : ∀ {client : Client cat}, client.greeted = true → client.snapshotActive = false →
    P client → P (beginSnapshot canonical env client)
  advancedFrames : ∀ {client : Client cat} (count : ℕ), P client → P (client.advanceFrames count)
  advancedSignals : ∀ {client : Client cat} (count : ℕ), P client → P (client.advanceSignals count)
  started : ∀ {client : Client cat}, client.greeted = true → client.needsResync = false →
    client.snapshotComplete = true → P client → P { client with catchupActive := true }
  rounded : ∀ {client : Client cat}, P client → P (beginCatchupRound canonical client)
  sentFrames : ∀ {client : Client cat} (offset : ℕ), P client →
    P { client with catchupFrameOffset := offset }
  sentSignals : ∀ {client : Client cat} (offset : ℕ), P client →
    P { client with catchupSignalOffset := offset }
  noted : ∀ {client : Client cat} (waiting reported : Bool), P client →
    P { client with catchupWaitingForCapacity := waiting, catchupResumptionReported := reported }
  requested : ∀ {client : Client cat}, P client → P { client with resyncQueued := true }

variable {config canonical env}

/-- A property that every move of a drive keeps holds after the drive. -/
theorem drive_induction {P : Client cat → Prop}
    (hmove : ∀ {client client'}, DriveMove config canonical env client client' → P client →
      P client')
    {client client' : Client cat}
    (hmoves : ReflTransGen (DriveMove config canonical env) client client') (h : P client) :
    P client' := by
  induction hmoves with
  | refl => exact h
  | tail _ hlast ih => exact hmove hlast ih

/-- A drive goes on during a catch-up only. -/
theorem driveGuard_catchupActive {client : Client cat} (h : driveGuard config env client = true) :
    client.catchupActive = true := by
  simp only [driveGuard, Bool.and_eq_true] at h
  exact h.1.2

/-- A move neither opens nor closes a session, nor does it change whether the session needs a
resynchronisation. -/
theorem DriveMove.flags {client client' : Client cat}
    (hmove : DriveMove config canonical env client client') :
    client'.active = client.active ∧ client'.needsResync = client.needsResync := by
  cases hmove with
  | noted waiting reported => exact ⟨rfl, rfl⟩
  | frames payload queued hguard hunsent hpayload hpush =>
    obtain ⟨slot, -, -, rfl⟩ := hpush.takes
    exact ⟨rfl, rfl⟩
  | signals payload queued hguard hframes hunsent hpayload hpush =>
    obtain ⟨slot, -, -, rfl⟩ := hpush.takes
    exact ⟨rfl, rfl⟩
  | round hguard hframes hsignals hdiffers => exact ⟨rfl, rfl⟩
  | finish queued hguard hframes hsignals hsameFrames hsameSignals hpush =>
    obtain ⟨slot, -, -, rfl⟩ := hpush.takes
    exact ⟨rfl, rfl⟩

/-- A drive neither opens nor closes a session. -/
theorem drive_active {client client' : Client cat}
    (hmoves : ReflTransGen (DriveMove config canonical env) client client') :
    client'.active = client.active := by
  refine drive_induction (P := fun c => c.active = client.active) ?_ hmoves rfl
  intro c c' hmove hc
  exact hmove.flags.1.trans hc

/-- Closing opens no session. -/
theorem clientClose_active {client : Client cat} (h : (clientClose client).active = true) :
    client.active = true := by
  unfold clientClose at h
  split at h
  · exact h
  · contradiction

/-- A refused message does not close the session by itself. -/
theorem Refused.active {client failed : Client cat} (h : Refused config client failed) :
    failed.active = client.active := by
  cases h with
  | unchanged => rfl
  | scrubbed slot hfree => rfl

/-- The attempt to send `RESYNC_REQUIRED` opens no session. -/
theorem ResyncStep.active {client client' : Client cat}
    (hstep : ResyncStep config canonical client client') (h : client'.active = true) :
    client.active = true := by
  cases hstep with
  | none _ => exact h
  | queued queued hgreeted hresync hnot hpending hpush => exact hpush.active
  | failed hrefused =>
    rw [← hrefused.active]
    exact clientClose_active h

/-- A write completion does not open a session. -/
theorem Resumes.active {client client' : Client cat}
    (hresumes : Resumes config canonical env client client') (h : client'.active = true) :
    client.active = true := by
  cases hresumes with
  | idle hcatchup hstep => exact hstep.active h
  | @driven driven client' hcatchup hmoves hdone hstep =>
    rw [← drive_active (hmoves.trans (noteWaiting_moves driven))]
    exact hstep.active h
  | failed hcatchup hmoves hfailure =>
    rw [← drive_active hmoves]
    cases hfailure with
    | batch hguard hrefused =>
      rw [← hrefused.active]
      exact clientClose_active h
    | finish hguard hframes hsignals hrefused => exact hrefused.active.symm.trans (clientClose_active h)

/-- What the elementary updates keep is kept. -/
theorem Stable.kept {P : Client cat → Prop} (hstable : Stable config canonical env P) :
    Kept config canonical env P where
  pushed hpush _ _ h := hstable.pushed hpush h
  welcomed hpush _ h := hstable.greeted (hstable.pushed hpush h)
  finished hpush hcatchup h := by
    refine hstable.finished ?_ (hstable.pushed hpush h)
    obtain ⟨slot, -, -, rfl⟩ := hpush.takes
    exact hcatchup
  scrubbed := hstable.scrubbed
  closed := hstable.closed
  released := hstable.released
  overflowed := hstable.overflowed
  begun hgreeted _ h := hstable.begun hgreeted h
  advancedFrames := hstable.advancedFrames
  advancedSignals := hstable.advancedSignals
  started := hstable.started
  rounded := hstable.rounded
  sentFrames := hstable.sentFrames
  sentSignals := hstable.sentSignals
  noted := hstable.noted
  requested := hstable.requested

namespace Kept

variable {P : Client cat → Prop} (hkept : Kept config canonical env P)

include hkept

/-- A refused message keeps a kept property. -/
theorem refused {client failed : Client cat} (hrefused : Refused config client failed)
    (h : P client) : P failed := by
  cases hrefused with
  | unchanged => exact h
  | scrubbed slot hfree => exact hkept.scrubbed hfree h

/-- A move of a catch-up keeps a kept property. -/
theorem moved {client client' : Client cat} (hmove : DriveMove config canonical env client client')
    (h : P client) : P client' := by
  cases hmove with
  | noted waiting reported => exact hkept.noted waiting reported h
  | frames payload queued hguard hunsent hpayload hpush =>
    exact hkept.sentFrames _ (hkept.pushed hpush nofun nofun h)
  | signals payload queued hguard hframes hunsent hpayload hpush =>
    exact hkept.sentSignals _ (hkept.pushed hpush nofun nofun h)
  | round hguard hframes hsignals hdiffers => exact hkept.rounded h
  | finish queued hguard hframes hsignals hsameFrames hsameSignals hpush =>
    have hcatchup := driveGuard_catchupActive hguard
    exact hkept.finished hpush hcatchup (hkept.rounded h)

/-- A drive that fails keeps a kept property. -/
theorem driveFailed {client failed : Client cat}
    (hfailure : DriveFailure config canonical env client failed) (h : P client) : P failed := by
  cases hfailure with
  | batch hguard hrefused => exact hkept.refused hrefused h
  | finish hguard hframes hsignals hrefused => exact hkept.refused hrefused (hkept.rounded h)

/-- The note that a catch-up waits keeps a kept property. -/
theorem waited {client : Client cat} (h : P client) : P (noteWaiting config env client) :=
  drive_induction hkept.moved (noteWaiting_moves client) h

/-- The answer to a request keeps a kept property. -/
theorem replied {request : Message} {client client' : Client cat}
    (hreply : Reply config canonical env request client client') (h : P client) : P client' := by
  cases hreply with
  | welcome queued htype hgreeted hpush => exact hkept.welcomed hpush hgreeted h
  | schema startIndex payload queued htype hgreeted hstart hpayload hpush =>
    exact hkept.pushed hpush nofun nofun h
  | pong queued htype hgreeted hpush => exact hkept.pushed hpush nofun nofun h
  | firstFramePage payload queued htype hgreeted hstart hinactive hpayload hpush =>
    exact hkept.advancedFrames _ (hkept.pushed hpush nofun nofun (hkept.begun hgreeted hinactive h))
  | framePage startIndex payload queued htype hgreeted hstart hactive hframes hnext hlt hpayload
      hpush => exact hkept.advancedFrames _ (hkept.pushed hpush nofun nofun h)
  | signalPage startIndex payload queued htype hgreeted hstart hactive hframes hnext hlt hpayload
      hpush => exact hkept.advancedSignals _ (hkept.pushed hpush nofun nofun h)
  | subscribe driven htype hgreeted hresync hcomplete hmoves hdone =>
    refine hkept.waited (drive_induction hkept.moved hmoves ?_)
    exact hkept.rounded (hkept.started hgreeted hresync hcomplete h)

/-- A request that fails keeps a kept property. -/
theorem commandFailed {request : Message} {client failed : Client cat}
    (hfailure : CommandFailure config canonical env request client failed) (h : P client) :
    P failed := by
  cases hfailure with
  | refused hrefused => exact hkept.refused hrefused h
  | snapshot hgreeted hinactive hrefused =>
    exact hkept.refused hrefused (hkept.begun hgreeted hinactive h)
  | subscribe htype hgreeted hresync hcomplete hmoves hfailure =>
    refine hkept.driveFailed hfailure (drive_induction hkept.moved hmoves ?_)
    exact hkept.rounded (hkept.started hgreeted hresync hcomplete h)

/-- The attempt to send `RESYNC_REQUIRED` keeps a kept property. -/
theorem resynced {client client' : Client cat} (hstep : ResyncStep config canonical client client')
    (h : P client) : P client' := by
  cases hstep with
  | none _ => exact h
  | queued queued hgreeted hresync hnot hpending hpush =>
    exact hkept.requested (hkept.pushed hpush nofun nofun h)
  | failed hrefused => exact hkept.closed (hkept.refused hrefused h)

/-- A completed write keeps a kept property. -/
theorem resumed {client client' : Client cat} (hresumes : Resumes config canonical env client client')
    (h : P client) : P client' := by
  cases hresumes with
  | idle hcatchup hstep => exact hkept.resynced hstep h
  | driven hcatchup hmoves hdone hstep =>
    exact hkept.resynced hstep (hkept.waited (drive_induction hkept.moved hmoves h))
  | failed hcatchup hmoves hfailure =>
    exact hkept.closed (hkept.driveFailed hfailure (drive_induction hkept.moved hmoves h))

/-- The batches of a sample keep a kept property, and the session subscribed unless it loses one. -/
theorem fannedOut {type : MessageType} {chunks : List (Option (List UInt8))}
    {client client' : Client cat}
    (hfan : FansOut config canonical env type chunks client client')
    (hwelcome : type ≠ .welcome) (hnot : type ≠ .subscribed)
    (hsubscribed : client.subscribed = true) (h : P client) :
    P client' ∧ (client'.needsResync = false → client'.subscribed = true) := by
  induction hfan with
  | done client => exact ⟨h, fun _ => hsubscribed⟩
  | sent payload rest client queued client' hresync hpush _ ih =>
    refine ih ?_ (hkept.pushed hpush hwelcome hnot h)
    obtain ⟨slot, -, -, rfl⟩ := hpush.takes
    exact hsubscribed
  | overflowed chunks client client' hresync hoverflow =>
    refine ⟨hkept.overflowed hsubscribed hresync hoverflow h, fun hnot => ?_⟩
    rw [hoverflow.eq] at hnot
    contradiction
  | failed chunks client failed hrefused =>
    refine ⟨hkept.closed (hkept.refused hrefused h), fun _ => ?_⟩
    have hfailed : failed.subscribed = true := by
      cases hrefused with
      | unchanged => exact hsubscribed
      | scrubbed slot hfree => exact hsubscribed
    unfold clientClose
    split
    · exact hfailed
    · exact hfailed

/-- A sample keeps a kept property. -/
theorem distributed {changedFrames : List (Fin cat.frameCount)}
    {changedSignals : List (Fin cat.signalCount)} {client client' : Client cat}
    (hdistributes : Distributes config canonical env changedFrames changedSignals client client')
    (hsubscribed : client.subscribed = true) (h : P client) : P client' := by
  cases hdistributes with
  | stopped hframes hstopped => exact (hkept.fannedOut hframes nofun nofun hsubscribed h).1
  | both hframes hactive hresync hsignals =>
    obtain ⟨hsent, hstill⟩ := hkept.fannedOut hframes nofun nofun hsubscribed h
    exact (hkept.fannedOut hsignals nofun nofun (hstill hresync) hsent).1

end Kept

/-- A property that every update keeps survives every event that does not renew the record. -/
theorem Kept.evolved {P : Client cat → Prop} {before : Canonical cat} {event : Event cat}
    {s : Fin maxClients} (hkept : Kept config canonical (event.answers s) P)
    {client client' : Client cat}
    (hevolves : Evolves config canonical before event s client client') (h : P client) :
    P client' ∨ Fresh client' ∧ ((client.active = false ∧ client.closing = false) ∨
      (event = .closed s ∧ client'.active = false)) := by
  cases hevolves with
  | idle hevent hquiet => exact .inl h
  | closed => exact .inl (hkept.closed h)
  | replied request hevent hcanonical hactive hreply => exact .inl (hkept.replied hreply h)
  | aborted request hevent hcanonical hactive hfailure =>
    exact .inl (hkept.closed (hkept.commandFailed hfailure h))
  | writeFailed slot hused => exact .inl (hkept.closed (hkept.released hused h))
  | written slot hevent hcanonical hused hresumes =>
    exact .inl (hkept.resumed hresumes (hkept.released hused h))
  | distributed env sample hevent hcanonical hlive hdistributes =>
    exact .inl (hkept.distributed hdistributes hlive.2.1 h)
  | heartbeat nowNs env sourceState hevent hsame hgreeted hlive hpush =>
    exact .inl (hkept.pushed hpush nofun nofun h)
  | heartbeatOverflow nowNs env hevent hsame hgreeted hlive hoverflow =>
    exact .inl (hkept.overflowed hlive.2.1 hlive.2.2 hoverflow h)
  | heartbeatFailed hrefused => exact .inl (hkept.closed (hkept.refused hrefused h))
  | fresh hbefore hfresh => exact .inr ⟨hfresh, hbefore⟩

/-- A stable property survives every event. -/
theorem Stable.evolved {P : Client cat → Prop} {before : Canonical cat} {event : Event cat}
    {s : Fin maxClients} (hstable : Stable config canonical (event.answers s) P)
    {client client' : Client cat}
    (hevolves : Evolves config canonical before event s client client') (h : P client) :
    P client' := by
  rcases hstable.kept.evolved hevolves h with hkept | ⟨hfresh, -⟩
  · exact hkept
  · exact hstable.fresh hfresh

/-- What holds of a zeroed record and survives every event of a run holds of every session in the
state that the run reaches. -/
theorem run_induction {P : Client cat → Prop} (config : Config cat) (fake : Option Bool)
    (tick : Tick cat) (events : List (Event cat)) (hzero : P (Client.zero cat))
    (hevolves : ∀ event ∈ events, ∀ s before canonical client client',
      Evolves config canonical before event s client client' → P client → P client')
    (s : Fin maxClients) : P ((run config fake tick events).clients s) := by
  refine (Meets.always _ events).invariant (I := fun daemon : Daemon cat => ∀ s, P (daemon.clients s))
    (fun event hevent daemon _ hdaemon s => ?_) (fun _ => hzero) s
  exact hevolves event hevent s _ _ _ _ (step_evolves config daemon event s) (hdaemon s)

/-- A stable property holds of every session in every state of every run. -/
theorem run_stable {P : Client cat → Prop} (config : Config cat)
    (hstable : ∀ canonical env, Stable config canonical env P) (fake : Option Bool)
    (tick : Tick cat) (events : List (Event cat)) (s : Fin maxClients) :
    P ((run config fake tick events).clients s) := by
  refine run_induction config fake tick events ?_ ?_ s
  · exact (hstable (daemonInit config fake tick).canonical Env.idle).fresh .zero
  · intro event _ s before canonical client client' hevolves
    exact (hstable canonical (event.answers s)).evolved hevolves

end Roadcast
