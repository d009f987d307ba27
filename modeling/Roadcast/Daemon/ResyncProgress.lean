import Roadcast.Daemon.Progress
import Roadcast.Daemon.ResyncState

/-!
# From an overflow to the request to resynchronise

`RESYNC_REQUIRED` is queued by the write completion that leaves nothing pending, and only if a waiting
catch-up, which `on_client_write` drives first, has queued nothing. While the canonical state stays,
every completion brings such a session closer to the end of its catch-up or of its queue, so that in
whatever order its writes complete the request is queued in the end, or the session closed.
-/

namespace Roadcast

open SlotPool Relation Runs

variable {cat : Catalog} {config : Config cat} {canonical : Canonical cat} {env : Env cat}

/-- An open session that lost data and has not been told so. -/
structure Client.OwedResync (client : Client cat) : Prop where
  active : client.active = true
  lost : client.needsResync = true
  untold : client.resyncQueued = false

/-- What a catch-up can still send while the canonical state stays: the rest of its round, at most one
round more, and `SUBSCRIBED`. -/
def catchupLeft (canonical : Canonical cat) (client : Client cat) : ℕ :=
  if client.catchupActive = true then
    client.unsentFrames.length + client.unsentSignals.length + 1 +
      if differingFrames canonical.frames client.snapshotFrames = [] ∧
        differingSignals canonical.signals client.snapshotSignals = [] then 0
      else cat.frameCount + cat.signalCount + 1
  else 0

/-- A bound on the completions before the session is told: those of the writes outstanding, and two
for every message that its catch-up has left. -/
def resyncDistance (config : Config cat) (canonical : Canonical cat) (client : Client cat) : ℕ :=
  2 * catchupLeft canonical client +
    (config.slots - (freeSlots client.output (usableSlots config)).card)

/-- Nothing listed is left once the rest of a list is taken piece by piece. -/
theorem length_drop_take_lt {A : Type*} {listed : List A} {offset size : ℕ} (hsize : 0 < size)
    (hrest : listed.drop offset ≠ []) :
    (listed.drop (offset + ((listed.drop offset).take size).length)).length <
      (listed.drop offset).length := by
  have hpos := List.length_pos_iff.mpr hrest
  rw [List.length_take, List.length_drop, List.length_drop] at *
  omega

/-- A message that was on the list is one less to send, and one more outstanding. -/
theorem resyncDistance_of_push {message : Message} {client before queued after : Client cat}
    (hpush : Pushes config canonical message before queued) (hbefore : before.output = client.output)
    (hafter : after.output = queued.output)
    (hleft : catchupLeft canonical after < catchupLeft canonical client) :
    resyncDistance config canonical after ≤ resyncDistance config canonical client := by
  have hcard := hpush.card_freeSlots
  rw [hbefore, ← hafter] at hcard
  unfold resyncDistance
  omega

/-- An active catch-up has the rest of its round, a further one and `SUBSCRIBED` left. -/
theorem catchupLeft_active {client : Client cat} (h : client.catchupActive = true) :
    catchupLeft canonical client =
      client.unsentFrames.length + client.unsentSignals.length + 1 +
        if differingFrames canonical.frames client.snapshotFrames = [] ∧
          differingSignals canonical.signals client.snapshotSignals = [] then 0
        else cat.frameCount + cat.signalCount + 1 :=
  if_pos h

/-- A drive does not lead away from the request. -/
theorem resyncDistance_moved {client client' : Client cat}
    (hmove : DriveMove config canonical env client client') :
    resyncDistance config canonical client' ≤ resyncDistance config canonical client := by
  cases hmove with
  | noted waiting reported => exact Nat.le_refl _
  | frames payload queued hguard hunsent hpayload hpush =>
    have hcatchup := driveGuard_catchupActive hguard
    have hless := length_drop_take_lt (by decide : 0 < framesPerMessage) hunsent
    refine resyncDistance_of_push hpush rfl rfl ?_
    obtain ⟨slot, -, -, rfl⟩ := hpush.takes
    refine (catchupLeft_active ?_).trans_lt ?_
    · exact hcatchup
    · rw [catchupLeft_active hcatchup]
      exact Nat.add_lt_add_right (Nat.add_lt_add_right (Nat.add_lt_add_right hless _) _) _
  | signals payload queued hguard hframes hunsent hpayload hpush =>
    have hcatchup := driveGuard_catchupActive hguard
    have hless := length_drop_take_lt (by decide : 0 < signalsPerMessage) hunsent
    refine resyncDistance_of_push hpush rfl rfl ?_
    obtain ⟨slot, -, -, rfl⟩ := hpush.takes
    refine (catchupLeft_active ?_).trans_lt ?_
    · exact hcatchup
    · rw [catchupLeft_active hcatchup]
      exact Nat.add_lt_add_right (Nat.add_lt_add_right (Nat.add_lt_add_left hless _) _) _
  | round hguard hframes hsignals hdiffers =>
    have hcatchup := driveGuard_catchupActive hguard
    have hround : (beginCatchupRound canonical client).catchupActive = true := hcatchup
    have hcopy := sameCopy_beginCatchupRound canonical client
    have hleft : catchupLeft canonical (beginCatchupRound canonical client) ≤
        catchupLeft canonical client := by
      rw [catchupLeft_active hround, catchupLeft_active hcatchup, if_pos ⟨hcopy.frames, hcopy.signals⟩,
        if_neg (not_and_or.mpr hdiffers), hframes, hsignals]
      have hframesLe : (beginCatchupRound canonical client).unsentFrames.length ≤ cat.frameCount :=
        (List.length_filter_le _ _).trans_eq List.length_finRange
      have hsignalsLe : (beginCatchupRound canonical client).unsentSignals.length ≤ cat.signalCount :=
        (List.length_filter_le _ _).trans_eq List.length_finRange
      simp only [List.length_nil]
      omega
    exact Nat.add_le_add_right (Nat.mul_le_mul_left 2 hleft) _
  | finish queued hguard hframes hsignals hsameFrames hsameSignals hpush =>
    have hcatchup := driveGuard_catchupActive hguard
    have hdone : catchupLeft canonical queued.finishCatchup = 0 := if_neg nofun
    refine resyncDistance_of_push hpush rfl rfl ?_
    rw [hdone, catchupLeft_active hcatchup]
    omega

/-- The completion of a write leads closer to the request. -/
theorem resyncDistance_released {client : Client cat} (haccounted : Accounted config client)
    {slot : Fin (clientQueueSlots cat)} (hused : (client.output slot).inUse = true) :
    resyncDistance config canonical (client.release slot) < resyncDistance config canonical client := by
  have husable : slot ∈ usableSlots config := by
    simpa [usableSlots] using haccounted.usable slot hused
  have hcard := card_freeSlots_release client.output (usableSlots config) slot husable hused
  have hle : (freeSlots (client.release slot).output (usableSlots config)).card ≤ config.slots := by
    rw [← card_usableSlots config]
    exact Finset.card_filter_le _ _
  have hleft : catchupLeft canonical (client.release slot) = catchupLeft canonical client := rfl
  have houtput : (client.release slot).output = Function.update client.output slot Slot.free := rfl
  unfold resyncDistance
  rw [hleft]
  rw [houtput] at hle ⊢
  omega

/-- A drive neither tells a session that it lost data nor forgets that it did. -/
theorem drive_owed {client client' : Client cat}
    (hmoves : ReflTransGen (DriveMove config canonical env) client client') (h : client.OwedResync) :
    client'.OwedResync := by
  refine drive_induction ?_ hmoves h
  intro c c' hmove howed
  obtain ⟨hactive, hlost⟩ := hmove.flags
  refine ⟨hactive.trans howed.active, hlost.trans howed.lost, ?_⟩
  cases hmove with
  | noted waiting reported => exact howed.untold
  | frames payload queued hguard hunsent hpayload hpush =>
    obtain ⟨slot, -, -, rfl⟩ := hpush.takes
    exact howed.untold
  | signals payload queued hguard hframes hunsent hpayload hpush =>
    obtain ⟨slot, -, -, rfl⟩ := hpush.takes
    exact howed.untold
  | round hguard hframes hsignals hdiffers => exact howed.untold
  | finish queued hguard hframes hsignals hsameFrames hsameSignals hpush =>
    obtain ⟨slot, -, -, rfl⟩ := hpush.takes
    exact howed.untold

/-- The session has been told that it lost data, or it is closed. -/
def Client.ToldOrClosed (client : Client cat) : Prop :=
  client.active = false ∨ client.resyncQueued = true

/-- What `maybe_queue_resync` makes of a session that lost data. -/
theorem resynced_told_or_same {client client' : Client cat} (hflags : SessionFlags client)
    (hstep : ResyncStep config canonical client client') :
    client'.ToldOrClosed ∨ client' = client := by
  cases hstep with
  | none hskip => exact Or.inr rfl
  | queued queued hgreeted hresync hnot hpending hpush => exact Or.inl (Or.inr rfl)
  | failed hrefused => exact Or.inl (Or.inl (hflags.refused hrefused).closed_active)

/-- The completion of a write tells a session that lost data or closes it, or it leads closer to
that. -/
theorem written_told_or_closer {client : Client cat} (haccounted : Accounted config client)
    (hflags : SessionFlags client) (howed : client.OwedResync) {slot : Fin (clientQueueSlots cat)}
    (hused : (client.output slot).inUse = true) :
    (onClientWrite config canonical env client slot false).ToldOrClosed ∨
      ((onClientWrite config canonical env client slot false).OwedResync ∧
        resyncDistance config canonical (onClientWrite config canonical env client slot false) <
          resyncDistance config canonical client) := by
  have hstable : Stable config canonical env (@SessionFlags cat) := SessionFlags.stable
  have hreleasedFlags := hstable.released hused hflags
  have hreleased : (client.release slot).OwedResync := ⟨howed.active, howed.lost, howed.untold⟩
  have hcloser : resyncDistance config canonical (client.release slot) <
      resyncDistance config canonical client := resyncDistance_released haccounted hused
  have hresumes : Resumes config canonical env (client.release slot)
      (onClientWrite config canonical env client slot false) := resumeAfterWrite_cases _
  generalize onClientWrite config canonical env client slot false = client' at hresumes ⊢
  cases hresumes with
  | idle hcatchup hstep =>
    rcases resynced_told_or_same hreleasedFlags hstep with htold | rfl
    · exact Or.inl htold
    · exact Or.inr ⟨hreleased, hcloser⟩
  | driven hcatchup hmoves hdone hstep =>
    rename_i driven
    have hdrivenFlags := drive_induction hstable.kept.moved hmoves hreleasedFlags
    rcases resynced_told_or_same (hstable.kept.waited hdrivenFlags) hstep with htold | rfl
    · exact Or.inl htold
    · have hall := hmoves.trans (noteWaiting_moves driven)
      refine Or.inr ⟨drive_owed hall hreleased, Nat.lt_of_le_of_lt ?_ hcloser⟩
      refine drive_induction (P := fun c => resyncDistance config canonical c ≤
        resyncDistance config canonical (client.release slot)) ?_ hall (Nat.le_refl _)
      exact fun hmove hle => (resyncDistance_moved hmove).trans hle
  | failed hcatchup hmoves hfailure =>
    have hlast := drive_induction hstable.kept.moved hmoves hreleasedFlags
    exact Or.inl (Or.inl (hstable.kept.driveFailed hfailure hlast).closed_active)

/-- The event is the completion of an outstanding write of a session. -/
def CompletesWrite (s : Fin maxClients) (daemon : Daemon cat) (event : Event cat) : Prop :=
  ∃ env slot failed, event = .writeDone s env slot failed ∧ env.WriteQueueBounded ∧
    ((daemon.clients s).output slot).inUse = true

/-- What completions keep of a session that lost data until it is told. -/
structure Owing (config : Config cat) (s : Fin maxClients) (daemon : Daemon cat) : Prop where
  accounted : Accounted config (daemon.clients s)
  flags : SessionFlags (daemon.clients s)
  pending : ResyncPending (daemon.clients s)
  owed : (daemon.clients s).OwedResync

namespace Owing

variable {s : Fin maxClients} {daemon : Daemon cat}

/-- A write is outstanding. -/
theorem outstanding (h : Owing config s daemon) :
    ∃ slot, ((daemon.clients s).output slot).inUse = true := by
  have hpos := h.pending h.owed.active h.owed.lost h.owed.untold
  by_contra hnone
  rw [not_exists] at hnone
  have hzero := usedBytes_eq_zero _ fun slot => Bool.eq_false_iff.mpr (hnone slot)
  rw [h.accounted.pending, hzero] at hpos
  exact Nat.lt_irrefl 0 hpos

/-- A completion tells the session or closes it, or leads closer to that. -/
theorem completed {event : Event cat} (h : Owing config s daemon)
    (hcompletes : CompletesWrite s daemon event) :
    ((step config daemon event).clients s).ToldOrClosed ∨
      (Owing config s (step config daemon event) ∧
        resyncDistance config (step config daemon event).canonical
            ((step config daemon event).clients s) <
          resyncDistance config daemon.canonical (daemon.clients s)) := by
  obtain ⟨env, slot, failed, rfl, hbounded, hused⟩ := hcompletes
  have hevolves := step_evolves config daemon (.writeDone s env slot failed) s
  have hanswers : ((Event.writeDone s env slot failed).answers s).WriteQueueBounded := hbounded
  have hnext : Accounted config ((step config daemon (.writeDone s env slot failed)).clients s) ∧
      SessionFlags ((step config daemon (.writeDone s env slot failed)).clients s) ∧
      ResyncPending ((step config daemon (.writeDone s env slot failed)).clients s) :=
    ⟨Accounted.stable.evolved hevolves h.accounted, SessionFlags.stable.evolved hevolves h.flags,
      h.pending.evolved h.accounted h.flags hanswers hevolves⟩
  have hclient : (step config daemon (.writeDone s env slot failed)).clients s =
      onClientWrite config daemon.canonical env (daemon.clients s) slot failed := by
    simp [step, hused]
  have hcanonical : (step config daemon (.writeDone s env slot failed)).canonical =
      daemon.canonical := by
    simp [step, hused, Daemon.setClient]
  cases failed with
  | true =>
    have hstable : Stable config daemon.canonical env (@SessionFlags cat) := SessionFlags.stable
    rw [hclient]
    exact Or.inl (Or.inl (hstable.released hused h.flags).closed_active)
  | false =>
    have hwritten : (onClientWrite config daemon.canonical env (daemon.clients s) slot
        false).ToldOrClosed ∨ _ := written_told_or_closer h.accounted h.flags h.owed hused
    rw [← hclient] at hwritten
    rw [hcanonical]
    refine hwritten.imp_right ?_
    rintro ⟨howed, hcloser⟩
    exact ⟨⟨hnext.1, hnext.2.1, hnext.2.2, howed⟩, hcloser⟩

/-- In whatever order the writes complete, they tell the session or close it. -/
theorem inevitable (h : Owing config s daemon) :
    Inevitable (step config) (CompletesWrite s) (fun daemon => (daemon.clients s).ToldOrClosed)
      daemon := by
  refine .of_measure (Owing config s)
    (fun daemon => resyncDistance config daemon.canonical (daemon.clients s)) ?_ ?_ h
  · intro daemon howing
    obtain ⟨slot, hused⟩ := howing.outstanding
    exact ⟨_, Env.idle, slot, false, rfl, fun _ => Nat.zero_le _, hused⟩
  · exact fun _ _ hcompletes howing => howing.completed hcompletes

end Owing

/-- In every reachable state the pending bytes are those of the slots in use, which are among the
configured ones; they never exceed the limit and never underflow. A session that lost data and has
not been told so has an outstanding write. If it is not catching up, the completion of the last one
tells it; in any case, while the canonical state stays, the completions tell it in the end or close
it. -/
theorem run_queueAccounting (config : Config cat) (fake : Option Bool) (tick : Tick cat)
    (events : List (Event cat))
    (hlibuv : ∀ event ∈ events, ∀ s, (event.answers s).WriteQueueBounded) (s : Fin maxClients) :
    let client := (run config fake tick events).clients s
    client.pendingBytes = usedBytes client.output ∧
    (∀ slot, (client.output slot).inUse = true → slot.val < config.slots) ∧
    (Finset.univ.filter fun slot => (client.output slot).inUse = true).card ≤ config.slots ∧
    client.pendingBytes ≤ config.slots * clientMessageCap ∧
    (∀ slot, (client.output slot).inUse = true →
      (client.output slot).length ≤ client.pendingBytes) ∧
    (client.active = true → client.needsResync = true → client.resyncQueued = false →
      0 < client.pendingBytes ∧ (∃ slot, (client.output slot).inUse = true) ∧
      ∀ canonical env slot, (client.output slot).inUse = true →
        (client.output slot).length = client.pendingBytes → client.catchupActive = false →
        (onClientWrite config canonical env client slot false).active = false ∨
          (onClientWrite config canonical env client slot false).resyncQueued = true) ∧
    (client.active = true → client.needsResync = true → client.resyncQueued = false →
      Inevitable (step config) (CompletesWrite s) (fun daemon =>
        (daemon.clients s).active = false ∨ (daemon.clients s).resyncQueued = true)
        (run config fake tick events)) := by
  obtain ⟨haccounted, hflags, hpending⟩ := run_accounted config fake tick events hlibuv s
  refine ⟨haccounted.pending, haccounted.usable, haccounted.card_used_le, haccounted.pending_le,
    haccounted.length_le_pending, fun hactive hresync hnot => ?_, fun hactive hresync hnot => ?_⟩
  · have howing : Owing config s (run config fake tick events) :=
      ⟨haccounted, hflags, hpending, hactive, hresync, hnot⟩
    exact ⟨hpending hactive hresync hnot, howing.outstanding,
      fun canonical env slot hused hlast hcatchup =>
        ResyncPending.last_write_requests hflags hactive hresync hnot hcatchup slot hused hlast⟩
  · exact Owing.inevitable ⟨haccounted, hflags, hpending, hactive, hresync, hnot⟩

/-- The only outstanding write of the session completes, and `SUBSCRIBED` is queued instead of
`RESYNC_REQUIRED`. -/
theorem waitingRun_defers_resync :
    (singleSession waitingRun).active = true ∧ (singleSession waitingRun).needsResync = true ∧
      (singleSession waitingRun).resyncQueued = false ∧
      (∀ slot, ((singleSession waitingRun).output slot).inUse = true → slot = ⟨0, by decide⟩) ∧
      (singleSession lostHeartbeatRun).active = true ∧
      (singleSession lostHeartbeatRun).resyncQueued = false ∧
      (singleSession lostHeartbeatRun).subscribed = true := by
  decide +kernel

/-- The session is told in the end all the same. -/
theorem run_queueAccounting_waiting :
    (singleSession waitingRun).catchupActive = true ∧ 0 < (singleSession waitingRun).pendingBytes ∧
      Inevitable (step singleConfig) (CompletesWrite firstSession) (fun daemon =>
        (daemon.clients firstSession).active = false ∨
          (daemon.clients firstSession).resyncQueued = true)
        (run singleConfig none (singleTick 0 10) waitingRun) := by
  have hidle : ∀ event ∈ waitingRun, ∀ s, event.answers s = Env.idle := by
    simp [waitingRun, singleSetup, singleRequest, singleWriteDone, Event.answers]
  have haccounting := run_queueAccounting singleConfig none (singleTick 0 10) waitingRun
    (writeQueueBounded_of_idle hidle) firstSession
  obtain ⟨-, -, -, -, -, hpending, htold⟩ := haccounting
  have hactive : (singleSession waitingRun).active = true := by decide +kernel
  have hlost : (singleSession waitingRun).needsResync = true := by decide +kernel
  have huntold : (singleSession waitingRun).resyncQueued = false := by decide +kernel
  exact ⟨by decide +kernel, (hpending hactive hlost huntold).1, htold hactive hlost huntold⟩

end Roadcast
