import Roadcast.Daemon.Accounting

/-!
# Catch-ups that wait for queue capacity

No function of the source checks these facts, and paging and catch-up rest on them. Between events a
catch-up is in progress only because every usable slot is taken, so nothing can be queued to that
session until a write completes; in particular no snapshot can begin under it. A catch-up also never
runs during a snapshot, and it leaves no listed entry behind when it ends.
-/

namespace Roadcast

open SlotPool Relation

variable {cat : Catalog} {config : Config cat} {canonical : Canonical cat} {env : Env cat}

/-- Every slot that the configuration allows is taken. -/
def QueueFilled (config : Config cat) (client : Client cat) : Prop :=
  ∀ slot : Fin (clientQueueSlots cat), slot.val < config.slots → (client.output slot).inUse = true

/-- A full queue takes no message. -/
theorem QueueFilled.not_pushes {message : Message} {client client' : Client cat}
    (h : QueueFilled config client) : ¬ Pushes config canonical message client client' := by
  intro hpush
  obtain ⟨slot, hfree, -, -⟩ := hpush.takes
  have hused := h slot hfree.1
  rw [hfree.2] at hused
  contradiction

/-- A drive that stops during a catch-up has filled the queue. -/
theorem queueFilled_of_driveGuard {client : Client cat} (haccounted : Accounted config client)
    (hbounded : env.WriteQueueBounded) (hdone : driveGuard config env client = false)
    (hactive : client.active = true) (hcatchup : client.catchupActive = true) :
    QueueFilled config client := by
  intro slot hslot
  by_contra hfree
  rw [Bool.not_eq_true] at hfree
  have hroom := haccounted.room_of_free slot ⟨hslot, hfree⟩
  have hqueue := hbounded client
  rw [← haccounted.pending] at hqueue
  have hfound : findOutputSlot config client ≠ none := by
    rw [Ne, findOutputSlot_eq_none]
    intro hall
    rw [hall slot hslot] at hfree
    contradiction
  rw [← Option.isSome_iff_ne_none] at hfound
  have hcapacity : clientHasOutputCapacity config env client = true := by
    simp only [clientHasOutputCapacity, hfound, Bool.true_and, Bool.and_eq_true, decide_eq_true_eq]
    omega
  simp [driveGuard, hactive, hcatchup, hcapacity] at hdone

/-- What relates the catch-up of a session to its queue, its snapshot and its lists. -/
structure Waiting (config : Config cat) (client : Client cat) : Prop where
  filled : client.active = true → client.catchupActive = true → QueueFilled config client
  exclusive : client.active = true → client.catchupActive = true → client.snapshotActive = false
  exhausted : client.active = true → client.catchupActive = false →
    client.unsentFrames = [] ∧ client.unsentSignals = []

/-- What a catch-up keeps while it is driven: it is `Waiting` without the full queue. -/
structure Driven (client : Client cat) : Prop where
  exclusive : client.catchupActive = true → client.snapshotActive = false
  exhausted : client.catchupActive = false → client.unsentFrames = [] ∧ client.unsentSignals = []

namespace Driven

/-- A move of a catch-up keeps what a driven one keeps. -/
theorem moved {client client' : Client cat} (hmove : DriveMove config canonical env client client')
    (h : Driven client) : Driven client' := by
  cases hmove with
  | noted waiting reported => exact ⟨h.exclusive, h.exhausted⟩
  | frames payload queued hguard hunsent hpayload hpush =>
    have hcatchup := driveGuard_catchupActive hguard
    obtain ⟨slot, -, -, rfl⟩ := hpush.takes
    exact ⟨h.exclusive, fun hnot => absurd (hcatchup.symm.trans hnot) (by simp)⟩
  | signals payload queued hguard hframes hunsent hpayload hpush =>
    have hcatchup := driveGuard_catchupActive hguard
    obtain ⟨slot, -, -, rfl⟩ := hpush.takes
    exact ⟨h.exclusive, fun hnot => absurd (hcatchup.symm.trans hnot) (by simp)⟩
  | round hguard hframes hsignals hdiffers =>
    have hcatchup := driveGuard_catchupActive hguard
    exact ⟨h.exclusive, fun hnot => absurd (hcatchup.symm.trans hnot) (by simp)⟩
  | finish queued hguard hframes hsignals hsameFrames hsameSignals hpush =>
    obtain ⟨slot, -, -, rfl⟩ := hpush.takes
    refine ⟨nofun, fun _ => ?_⟩
    change (differingFrames canonical.frames client.snapshotFrames).drop 0 = [] ∧
      (differingSignals canonical.signals client.snapshotSignals).drop 0 = []
    rw [hsameFrames, hsameSignals]
    exact ⟨rfl, rfl⟩

/-- A whole drive keeps what a driven catch-up keeps. -/
theorem drive {client client' : Client cat}
    (hmoves : ReflTransGen (DriveMove config canonical env) client client') (h : Driven client) :
    Driven client' :=
  drive_induction moved hmoves h

end Driven

namespace Waiting

/-- A session that is not active waits for nothing. -/
theorem of_inactive {client : Client cat} (hinactive : client.active = false) :
    Waiting config client := by
  have hnot : ¬ client.active = true := by simp [hinactive]
  exact ⟨fun h => absurd h hnot, fun h => absurd h hnot, fun h => absurd h hnot⟩

/-- A session that is not catching up is waiting for nothing. -/
theorem of_settled {client : Client cat} (hcatchup : client.catchupActive = false)
    (hunsent : client.unsentFrames = [] ∧ client.unsentSignals = []) : Waiting config client := by
  refine ⟨fun _ hnot => ?_, fun _ hnot => ?_, fun _ _ => hunsent⟩
  · rw [hcatchup] at hnot
    contradiction
  · rw [hcatchup] at hnot
    contradiction

/-- Where a message can be queued no catch-up is waiting. -/
theorem catchup_of_push {message : Message} {client client' : Client cat}
    (h : Waiting config client) (hpush : Pushes config canonical message client client') :
    client.catchupActive = false := by
  by_contra hcatchup
  rw [Bool.not_eq_false] at hcatchup
  exact (h.filled hpush.active hcatchup).not_pushes hpush

/-- A queued message changes neither the catch-up nor a full queue. -/
theorem pushed {message : Message} {client client' : Client cat} (h : Waiting config client)
    (hpush : Pushes config canonical message client client') : Waiting config client' := by
  have hcatchup := h.catchup_of_push hpush
  have hunsent := h.exhausted hpush.active hcatchup
  obtain ⟨slot, -, -, rfl⟩ := hpush.takes
  exact of_settled hcatchup hunsent

/-- A refused message changes neither the catch-up nor a full queue. -/
theorem refused {client failed : Client cat} (h : Waiting config client)
    (hrefused : Refused config client failed) : Waiting config failed := by
  cases hrefused with
  | unchanged => exact h
  | scrubbed slot hfree =>
    refine ⟨fun hactive hcatchup => ?_, h.exclusive, h.exhausted⟩
    have hused := h.filled hactive hcatchup slot hfree.1
    rw [hfree.2] at hused
    contradiction

/-- A closed session waits for nothing. -/
theorem closed {client : Client cat} (h : Waiting config client) :
    Waiting config (clientClose client) := by
  unfold clientClose
  split
  · exact h
  · exact of_inactive rfl

/-- An overflow changes neither the catch-up nor a full queue. -/
theorem overflowed {type : MessageType} {client client' : Client cat} (h : Waiting config client)
    (hoverflow : Overflows config env type client client') : Waiting config client' := by
  rw [hoverflow.eq]
  exact ⟨h.filled, h.exclusive, h.exhausted⟩

/-- No snapshot begins while a catch-up is waiting. -/
theorem begun {message : Message} {client client' : Client cat} (h : Waiting config client)
    (hpush : Pushes config canonical message (beginSnapshot canonical env client) client') :
    client.catchupActive = false := by
  by_contra hcatchup
  rw [Bool.not_eq_false] at hcatchup
  have hfilled : QueueFilled config (beginSnapshot canonical env client) :=
    h.filled hpush.active hcatchup
  exact hfilled.not_pushes hpush

/-- A drive ends waiting or finished. -/
theorem of_drive {client : Client cat} (haccounted : Accounted config client)
    (hbounded : env.WriteQueueBounded) (hdriven : Driven client)
    (hdone : driveGuard config env client = false) :
    Waiting config (noteWaiting config env client) := by
  have hwaiting : Waiting config client :=
    ⟨queueFilled_of_driveGuard haccounted hbounded hdone, fun _ => hdriven.exclusive,
      fun _ => hdriven.exhausted⟩
  unfold noteWaiting
  split
  · exact ⟨hwaiting.filled, hwaiting.exclusive, hwaiting.exhausted⟩
  · exact hwaiting

/-- `RESYNC_REQUIRED` changes neither the catch-up nor a full queue. -/
theorem resynced {client client' : Client cat} (h : Waiting config client)
    (hstep : ResyncStep config canonical client client') : Waiting config client' := by
  cases hstep with
  | none _ => exact h
  | queued queued hgreeted hresync hnot hpending hpush =>
    have hqueued := h.pushed hpush
    exact ⟨hqueued.filled, hqueued.exclusive, hqueued.exhausted⟩
  | failed hrefused => exact (h.refused hrefused).closed

/-- The batches of a sample leave a waiting catch-up as it is. -/
theorem fannedOut {type : MessageType} {chunks : List (Option (List UInt8))}
    {client client' : Client cat} (hfan : FansOut config canonical env type chunks client client')
    (h : Waiting config client) : Waiting config client' := by
  induction hfan with
  | done client => exact h
  | sent payload rest client queued client' hresync hpush _ ih => exact ih (h.pushed hpush)
  | overflowed chunks client client' hresync hoverflow => exact h.overflowed hoverflow
  | failed chunks client failed hrefused => exact (h.refused hrefused).closed

/-- The session that `SUBSCRIBE_ALL` starts to drive. -/
theorem subscribing {client : Client cat} (hflags : SessionFlags client)
    (hcomplete : client.snapshotComplete = true) :
    Driven (beginCatchupRound canonical { client with catchupActive := true }) :=
  ⟨fun _ => hflags.complete hcomplete, nofun⟩

/-- A request leaves a catch-up that is finished or waits for a full queue. -/
theorem replied {request : Message} {client client' : Client cat} (hflags : SessionFlags client)
    (haccounted : Accounted config client) (hbounded : env.WriteQueueBounded)
    (hreply : Reply config canonical env request client client') (h : Waiting config client) :
    Waiting config client' := by
  have hstable : Stable config canonical env (Accounted config) := Accounted.stable
  cases hreply with
  | welcome queued htype hgreeted hpush =>
    have hqueued := h.pushed hpush
    exact ⟨hqueued.filled, hqueued.exclusive, hqueued.exhausted⟩
  | schema startIndex payload queued htype hgreeted hstart hpayload hpush => exact h.pushed hpush
  | pong queued htype hgreeted hpush => exact h.pushed hpush
  | firstFramePage payload queued htype hgreeted hstart hinactive hpayload hpush =>
    have hcatchup := h.begun hpush
    have hunsent := h.exhausted hpush.active hcatchup
    obtain ⟨slot, -, -, rfl⟩ := hpush.takes
    exact of_settled hcatchup hunsent
  | framePage startIndex payload queued htype hgreeted hstart hactive hframes hnext hlt hpayload
      hpush =>
    have hqueued := h.pushed hpush
    exact ⟨hqueued.filled, hqueued.exclusive, hqueued.exhausted⟩
  | signalPage startIndex payload queued htype hgreeted hstart hactive hframes hnext hlt hpayload
      hpush =>
    have hcatchup := h.catchup_of_push hpush
    have hunsent := h.exhausted hpush.active hcatchup
    obtain ⟨slot, -, -, rfl⟩ := hpush.takes
    exact of_settled hcatchup hunsent
  | subscribe driven htype hgreeted hresync hcomplete hmoves hdone =>
    refine of_drive ?_ hbounded (Driven.drive hmoves (subscribing hflags hcomplete)) hdone
    exact drive_induction hstable.kept.moved hmoves (haccounted.of_same rfl rfl)

/-- A completed write leaves a catch-up that is finished or waits for a full queue. -/
theorem resumed {client client' : Client cat} (hflags : SessionFlags client)
    (haccounted : Accounted config client) (hbounded : env.WriteQueueBounded)
    (hresumes : Resumes config canonical env client client')
    (hdriven : client.active = true → Driven client) : Waiting config client' := by
  have haccount : Stable config canonical env (Accounted config) := Accounted.stable
  have hflag : Stable config canonical env (@SessionFlags cat) := SessionFlags.stable
  cases hactive : client'.active with
  | false => exact of_inactive hactive
  | true =>
    have hdriven := hdriven (hresumes.active hactive)
    cases hresumes with
    | idle hcatchup hstep => exact (of_settled hcatchup (hdriven.exhausted hcatchup)).resynced hstep
    | driven hcatchup hmoves hdone hstep =>
      refine resynced ?_ hstep
      exact of_drive (drive_induction haccount.kept.moved hmoves haccounted) hbounded
        (hdriven.drive hmoves) hdone
    | failed hcatchup hmoves hfailure =>
      have hlast := drive_induction hflag.kept.moved hmoves hflags
      exact of_inactive (hflag.kept.driveFailed hfailure hlast).closed_active

/-- Every event leaves a session waiting for nothing but queue capacity. -/
theorem evolved {before : Canonical cat} {event : Event cat} {s : Fin maxClients}
    {client client' : Client cat} (haccounted : Accounted config client)
    (hflags : SessionFlags client) (hbounded : (event.answers s).WriteQueueBounded)
    (hevolves : Evolves config canonical before event s client client')
    (h : Waiting config client) : Waiting config client' := by
  have hflag : Stable config canonical (event.answers s) (@SessionFlags cat) := SessionFlags.stable
  cases hevolves with
  | idle hevent hquiet => exact h
  | closed => exact h.closed
  | replied request hevent hcanonical hactive hreply =>
    exact replied hflags haccounted hbounded hreply h
  | aborted request hevent hcanonical hactive hfailure =>
    exact of_inactive (hflag.kept.commandFailed hfailure hflags).closed_active
  | writeFailed slot hused => exact of_inactive (hflag.released hused hflags).closed_active
  | written slot hevent hcanonical hused hresumes =>
    refine resumed (hflag.released hused hflags) (haccounted.released slot hused) hbounded hresumes
      fun hactive => ?_
    exact ⟨h.exclusive hactive, h.exhausted hactive⟩
  | distributed env sample hevent hcanonical hlive hdistributes =>
    cases hdistributes with
    | stopped hframes hstopped => exact fannedOut hframes h
    | both hframes hactive hresync hsignals => exact fannedOut hsignals (fannedOut hframes h)
  | heartbeat nowNs env sourceState hevent hsame hgreeted hlive hpush => exact h.pushed hpush
  | heartbeatOverflow nowNs env hevent hsame hgreeted hlive hoverflow => exact h.overflowed hoverflow
  | heartbeatFailed hrefused => exact (h.refused hrefused).closed
  | fresh hbefore hfresh =>
    cases hfresh with
    | zero => exact of_inactive rfl
    | unaccepted => exact of_inactive rfl
    | rejected => exact of_inactive rfl
    | accepted uid nowNs => exact of_settled rfl ⟨rfl, rfl⟩
    | unreadable uid nowNs => exact of_inactive rfl

end Waiting

end Roadcast
