import Roadcast.Daemon.Accounting

/-!
# Sessions that lost data

An overflow clears `subscribed` and puts the session under the setup timeout until it starts a new
snapshot. One path undoes this: a session that subscribes again while it is subscribed can overflow
with its catch-up still waiting, and `on_client_write` then drives that catch-up to its end without
looking at `needs_resync`. Every other event keeps a session that lost data out of the subscribed
ones.
-/

namespace Roadcast

open SlotPool Relation Runs

variable {cat : Catalog} {config : Config cat} {canonical : Canonical cat} {env : Env cat}

/-- The fields that tell how a session that lost data is treated. -/
def Client.lossFlags (client : Client cat) : Bool × Bool × ℕ :=
  (client.needsResync, client.subscribed, client.setupDeadlineNs)

/-- A session that lost data is not subscribed and has a setup deadline. -/
def LossGuarded (client : Client cat) : Prop :=
  client.needsResync = true → client.subscribed = false ∧ client.setupDeadlineNs ≠ 0

/-- A queued message leaves the flags of a loss as they are. -/
theorem Pushes.lossFlags {message : Message} {client client' : Client cat}
    (h : Pushes config canonical message client client') : client'.lossFlags = client.lossFlags := by
  obtain ⟨slot, -, -, rfl⟩ := h.takes
  rfl

/-- A refused message leaves the flags of a loss as they are. -/
theorem Refused.lossFlags {client failed : Client cat} (h : Refused config client failed) :
    failed.lossFlags = client.lossFlags := by
  cases h with
  | unchanged => rfl
  | scrubbed slot hfree => rfl

/-- Closing leaves the flags of a loss as they are. -/
@[simp] theorem clientClose_lossFlags (client : Client cat) :
    (clientClose client).lossFlags = client.lossFlags := by
  unfold clientClose
  split
  · rfl
  · rfl

/-- `RESYNC_REQUIRED` leaves the flags of a loss as they are. -/
theorem ResyncStep.lossFlags {client client' : Client cat}
    (h : ResyncStep config canonical client client') : client'.lossFlags = client.lossFlags := by
  cases h with
  | none _ => rfl
  | queued queued hgreeted hresync hnot hpending hpush => exact hpush.lossFlags
  | failed hrefused => rw [clientClose_lossFlags, hrefused.lossFlags]

namespace LossGuarded

/-- The guard depends on the flags of a loss only. -/
theorem of_lossFlags {client client' : Client cat} (h : LossGuarded client)
    (hflags : client'.lossFlags = client.lossFlags) : LossGuarded client' := by
  simp only [Client.lossFlags, Prod.mk.injEq] at hflags
  unfold LossGuarded
  rw [hflags.1, hflags.2.1, hflags.2.2]
  exact h

/-- A session that lost nothing is guarded. -/
theorem of_resync {client : Client cat} (h : client.needsResync = false) : LossGuarded client := by
  intro hresync
  rw [h] at hresync
  contradiction

/-- No message is lost while a session that lost none is driven. -/
theorem of_drive {client client' : Client cat}
    (hmoves : ReflTransGen (DriveMove config canonical env) client client')
    (h : client.needsResync = false) : LossGuarded client' :=
  of_resync ((ResyncPending.drive_needsResync hmoves).trans h)

/-- A drive that fails leaves a session guarded that had lost nothing. -/
theorem driveFailed {client failed : Client cat} (h : client.needsResync = false)
    (hfailure : DriveFailure config canonical env client failed) : LossGuarded failed := by
  cases hfailure with
  | batch hguard hrefused => exact (of_resync h).of_lossFlags hrefused.lossFlags
  | finish hguard hframes hsignals hrefused =>
    have hrounded : LossGuarded (beginCatchupRound canonical client) := of_resync h
    exact hrounded.of_lossFlags hrefused.lossFlags

/-- A drive of a session that is closed only takes notes. -/
theorem drive_inactive {client client' : Client cat} (hinactive : client.active = false)
    (hmoves : ReflTransGen (DriveMove config canonical env) client client') :
    client'.active = false ∧ client'.lossFlags = client.lossFlags := by
  refine drive_induction (P := fun c => c.active = false ∧ c.lossFlags = client.lossFlags) ?_ hmoves
    ⟨hinactive, rfl⟩
  intro c c' hmove hc
  have hguard : driveGuard config env c = false := by simp [driveGuard, hc.1]
  cases hmove with
  | noted waiting reported => exact hc
  | frames payload queued hdrive _ _ _ => rw [hguard] at hdrive; contradiction
  | signals payload queued hdrive _ _ _ _ => rw [hguard] at hdrive; contradiction
  | round hdrive _ _ _ => rw [hguard] at hdrive; contradiction
  | finish queued hdrive _ _ _ _ _ => rw [hguard] at hdrive; contradiction

/-- The answer to a request neither subscribes a session that lost data nor takes its deadline. -/
theorem replied {request : Message} {client client' : Client cat}
    (hreply : Reply config canonical env request client client') (h : LossGuarded client) :
    LossGuarded client' := by
  cases hreply with
  | welcome queued htype hgreeted hpush =>
    intro hresync
    have hqueued := h.of_lossFlags hpush.lossFlags
    exact ⟨(hqueued hresync).1, Nat.succ_ne_zero _⟩
  | schema startIndex payload queued htype hgreeted hstart hpayload hpush =>
    exact h.of_lossFlags hpush.lossFlags
  | pong queued htype hgreeted hpush => exact h.of_lossFlags hpush.lossFlags
  | firstFramePage payload queued htype hgreeted hstart hinactive hpayload hpush =>
    have hbegun : LossGuarded (beginSnapshot canonical env client) := of_resync rfl
    exact hbegun.of_lossFlags hpush.lossFlags
  | framePage startIndex payload queued htype hgreeted hstart hactive hframes hnext hlt hpayload
      hpush => exact h.of_lossFlags hpush.lossFlags
  | signalPage startIndex payload queued htype hgreeted hstart hactive hframes hnext hlt hpayload
      hpush => exact h.of_lossFlags hpush.lossFlags
  | subscribe driven htype hgreeted hresync hcomplete hmoves hdone =>
    exact of_drive (hmoves.trans (noteWaiting_moves driven)) hresync

/-- Nor does a request that fails. -/
theorem commandFailed {request : Message} {client failed : Client cat}
    (hfailure : CommandFailure config canonical env request client failed) (h : LossGuarded client) :
    LossGuarded failed := by
  cases hfailure with
  | refused hrefused => exact h.of_lossFlags hrefused.lossFlags
  | snapshot hgreeted hinactive hrefused =>
    have hbegun : LossGuarded (beginSnapshot canonical env client) := of_resync rfl
    exact hbegun.of_lossFlags hrefused.lossFlags
  | subscribe htype hgreeted hresync hcomplete hmoves hfailure =>
    exact driveFailed ((ResyncPending.drive_needsResync hmoves).trans hresync) hfailure

/-- A write completion keeps the guard unless it drives a session that lost data. -/
theorem resumed {client client' : Client cat}
    (hnot : ¬ (client.active = true ∧ client.catchupActive = true ∧ client.needsResync = true))
    (hresumes : Resumes config canonical env client client') (h : LossGuarded client) :
    LossGuarded client' := by
  cases hresumes with
  | idle hcatchup hstep => exact h.of_lossFlags hstep.lossFlags
  | @driven driven client' hcatchup hmoves hdone hstep =>
    have hwaited := hmoves.trans (noteWaiting_moves driven)
    refine of_lossFlags ?_ hstep.lossFlags
    cases hresync : client.needsResync with
    | false => exact of_drive hwaited hresync
    | true =>
      have hinactive : client.active = false := by simpa [hcatchup, hresync] using hnot
      exact h.of_lossFlags (drive_inactive hinactive hwaited).2
  | @failed last failed hcatchup hmoves hfailure =>
    refine of_lossFlags ?_ (clientClose_lossFlags failed)
    have hactive : client.active = true := by
      by_contra hinactive
      rw [Bool.not_eq_true] at hinactive
      have hlast := (drive_inactive hinactive hmoves).1
      have hguard : driveGuard config env last = true := by
        cases hfailure with
        | batch hguard _ => exact hguard
        | finish hguard _ _ _ => exact hguard
      simp [driveGuard, hlast] at hguard
    have hresync : client.needsResync = false := by simpa [hcatchup, hactive] using hnot
    exact driveFailed ((ResyncPending.drive_needsResync hmoves).trans hresync) hfailure

/-- A batch that does not fit unsubscribes the session and gives it a deadline. -/
theorem fannedOut {type : MessageType} {chunks : List (Option (List UInt8))}
    {client client' : Client cat}
    (hfan : FansOut config canonical env type chunks client client') (h : LossGuarded client) :
    LossGuarded client' := by
  induction hfan with
  | done client => exact h
  | sent payload rest client queued client' hresync hpush _ ih =>
    exact ih (h.of_lossFlags hpush.lossFlags)
  | overflowed chunks client client' hresync hoverflow =>
    rw [hoverflow.eq]
    exact fun _ => ⟨rfl, Nat.succ_ne_zero _⟩
  | failed chunks client failed hrefused =>
    refine h.of_lossFlags ?_
    rw [clientClose_lossFlags, hrefused.lossFlags]

end LossGuarded

/-- The event is the completion of a write whose session overflowed while its catch-up was waiting:
`on_client_write` goes on with the catch-up. -/
def DrivesAfterOverflow (daemon : Daemon cat) : Event cat → Prop
  | .writeDone s _ slot false =>
    ((daemon.clients s).output slot).inUse = true ∧ (daemon.clients s).active = true ∧
      (daemon.clients s).catchupActive = true ∧ (daemon.clients s).needsResync = true
  | _ => False

instance (daemon : Daemon cat) (event : Event cat) : Decidable (DrivesAfterOverflow daemon event) :=
  match event with
  | .writeDone _ _ _ false => inferInstanceAs (Decidable (_ ∧ _ ∧ _ ∧ _))
  | .writeDone _ _ _ true => isFalse id
  | .tick _ | .sampleNotification _ | .heartbeat _ _ | .connection _ | .request _ _ _
  | .disconnect _ | .closed _ | .shutdown => isFalse id

/-- Every other event keeps a session that lost data guarded. -/
theorem LossGuarded.evolved {daemon : Daemon cat} {event : Event cat} {s : Fin maxClients}
    {before : Canonical cat} {client' : Client cat} (hgood : ¬ DrivesAfterOverflow daemon event)
    (hevolves : Evolves config canonical before event s (daemon.clients s) client')
    (h : LossGuarded (daemon.clients s)) : LossGuarded client' := by
  cases hevolves with
  | idle hevent hquiet => exact h
  | closed => exact h.of_lossFlags (clientClose_lossFlags _)
  | replied request hevent hcanonical hactive hreply => exact replied hreply h
  | aborted request hevent hcanonical hactive hfailure =>
    exact (commandFailed hfailure h).of_lossFlags (clientClose_lossFlags _)
  | writeFailed slot hused => exact h.of_lossFlags (clientClose_lossFlags _)
  | written slot hevent hcanonical hused hresumes =>
    refine resumed (fun hlost => hgood ?_) hresumes h
    rw [hevent]
    exact ⟨hused, hlost⟩
  | distributed env sample hevent hcanonical hlive hdistributes =>
    cases hdistributes with
    | stopped hframes hstopped => exact fannedOut hframes h
    | both hframes hactive hresync hsignals => exact fannedOut hsignals (fannedOut hframes h)
  | heartbeat nowNs env sourceState hevent hsame hgreeted hlive hpush =>
    exact h.of_lossFlags hpush.lossFlags
  | heartbeatOverflow nowNs env hevent hsame hgreeted hlive hoverflow =>
    rw [hoverflow.eq]
    exact fun _ => ⟨rfl, Nat.succ_ne_zero _⟩
  | heartbeatFailed hrefused =>
    refine h.of_lossFlags ?_
    rw [clientClose_lossFlags, hrefused.lossFlags]
  | fresh hbefore hfresh =>
    refine of_resync ?_
    cases hfresh <;> simp [Client.zero, Client.accepted, clientClose]

/-- In every run in which no write completes for a session that overflowed during its catch-up, a
session that lost data is neither subscribed nor free of its setup deadline. -/
theorem run_resync_unsubscribed (config : Config cat) (fake : Option Bool) (tick : Tick cat)
    (events : List (Event cat))
    (hmeets : Meets (step config) (fun daemon event => ¬ DrivesAfterOverflow daemon event)
      (daemonInit config fake tick) events) (s : Fin maxClients) :
    let client := (run config fake tick events).clients s
    client.active = true → client.needsResync = true →
      client.subscribed = false ∧ client.setupDeadlineNs ≠ 0 := by
  intro client _
  refine hmeets.invariant (I := fun daemon => ∀ s, LossGuarded (daemon.clients s)) ?_ ?_ s
  · intro event _ daemon hgood hguarded s
    exact (hguarded s).evolved hgood (step_evolves config daemon event s)
  · exact fun _ => LossGuarded.of_resync rfl

/-- A session whose only slot is taken misses a sample. -/
theorem run_resync_unsubscribed_overflow :
    (singleSession overflowRun).active = true ∧ (singleSession overflowRun).needsResync = true ∧
      (singleSession overflowRun).subscribed = false := by
  have hactive : (singleSession overflowRun).active = true := by decide +kernel
  have hresync : (singleSession overflowRun).needsResync = true := by decide +kernel
  have hguarded := run_resync_unsubscribed singleConfig none (singleTick 0 10) overflowRun
    (by decide +kernel) firstSession hactive hresync
  exact ⟨hactive, hresync, hguarded.1⟩

/-- A session subscribes twice with its only slot taken, and misses a heartbeat: a catch-up waits, and
data is lost. -/
def waitingRun : List (Event singleCatalog) :=
  singleSetup ++ [singleRequest .subscribeAll [], singleRequest .subscribeAll [],
    .heartbeat 0 fun _ => Env.idle]

/-- Then its write completes. -/
def lostHeartbeatRun : List (Event singleCatalog) := waitingRun ++ [singleWriteDone]

/-- The second catch-up subscribes a session that has lost data, and clears its deadline. -/
theorem lostHeartbeatRun_subscribed :
    (singleSession lostHeartbeatRun).active = true ∧
      (singleSession lostHeartbeatRun).needsResync = true ∧
      (singleSession lostHeartbeatRun).subscribed = true ∧
      (singleSession lostHeartbeatRun).setupDeadlineNs = 0 := by
  decide +kernel

end Roadcast
