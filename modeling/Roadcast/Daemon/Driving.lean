import Roadcast.Daemon.Queueing
import Roadcast.Lib.Loop

/-!
# What catch-up can do

The moves of `drive_subscription_catchup` between two evaluations of its loop condition, and the
proof that the loop always runs until that condition fails. Each batch takes a free slot and a round
with entries is followed by a batch, so twice the number of free slots bounds the iterations.
-/

namespace Roadcast

open SlotPool Relation

variable {cat : Catalog} (config : Config cat) (canonical : Canonical cat) (env : Env cat)

/-- One move of `drive_subscription_catchup`. -/
inductive DriveMove (client : Client cat) : Client cat → Prop
  | noted (waiting reported : Bool) :
      DriveMove client { client with
        catchupWaitingForCapacity := waiting, catchupResumptionReported := reported }
  | frames (payload : List UInt8) (queued : Client cat)
      (hguard : driveGuard config env client = true)
      (hunsent : client.unsentFrames ≠ [])
      (hpayload : catchupFramePayload client = some payload)
      (hpush : Pushes config canonical (outgoing .updateBatch client.catchupChangeSequence
        client.catchupTimestampNs payload) client queued) :
      DriveMove client { queued with
        catchupFrameOffset :=
          queued.catchupFrameOffset + (client.unsentFrames.take framesPerMessage).length }
  | signals (payload : List UInt8) (queued : Client cat)
      (hguard : driveGuard config env client = true)
      (hframes : client.unsentFrames = []) (hunsent : client.unsentSignals ≠ [])
      (hpayload : catchupSignalPayload client = some payload)
      (hpush : Pushes config canonical (outgoing .signalUpdateBatch client.catchupChangeSequence
        client.catchupTimestampNs payload) client queued) :
      DriveMove client { queued with
        catchupSignalOffset :=
          queued.catchupSignalOffset + (client.unsentSignals.take signalsPerMessage).length }
  | round (hguard : driveGuard config env client = true)
      (hframes : client.unsentFrames = []) (hsignals : client.unsentSignals = [])
      (hdiffers : differingFrames canonical.frames client.snapshotFrames ≠ [] ∨
        differingSignals canonical.signals client.snapshotSignals ≠ []) :
      DriveMove client (beginCatchupRound canonical client)
  | finish (queued : Client cat) (hguard : driveGuard config env client = true)
      (hframes : client.unsentFrames = []) (hsignals : client.unsentSignals = [])
      (hsameFrames : differingFrames canonical.frames client.snapshotFrames = [])
      (hsameSignals : differingSignals canonical.signals client.snapshotSignals = [])
      (hpush : Pushes config canonical (outgoing .subscribed canonical.changeSequence
        canonical.sampleTimestampNs []) (beginCatchupRound canonical client) queued) :
      DriveMove client queued.finishCatchup

/-- How a move can fail: its message is refused. -/
inductive DriveFailure (client : Client cat) : Client cat → Prop
  | batch {failed : Client cat} (hguard : driveGuard config env client = true)
      (h : Refused config client failed) : DriveFailure client failed
  | finish {failed : Client cat} (hguard : driveGuard config env client = true)
      (hframes : client.unsentFrames = []) (hsignals : client.unsentSignals = [])
      (h : Refused config (beginCatchupRound canonical client) failed) : DriveFailure client failed

variable {config canonical env}

/-- A step of a catch-up that succeeds is one of the moves. -/
theorem catchupStep_ok {client client' : Client cat} (hguard : driveGuard config env client = true)
    (h : catchupStep config canonical env client = .ok client') :
    DriveMove config canonical env client client' := by
  unfold catchupStep at h
  split at h
  · rename_i hoffset
    have hunsent : client.unsentFrames ≠ [] := by
      simpa [Client.unsentFrames] using hoffset
    split at h
    · contradiction
    rename_i payload hpayload
    obtain ⟨queued, hqueued, rfl⟩ := bind_ok h
    exact .frames payload queued hguard hunsent hpayload (clientQueueMessage_reply hqueued)
  rename_i hframes
  replace hframes : client.unsentFrames = [] := by
    simpa [Client.unsentFrames] using hframes
  split at h
  · rename_i hoffset
    have hunsent : client.unsentSignals ≠ [] := by
      simpa [Client.unsentSignals] using hoffset
    split at h
    · contradiction
    rename_i payload hpayload
    obtain ⟨queued, hqueued, rfl⟩ := bind_ok h
    exact .signals payload queued hguard hframes hunsent hpayload (clientQueueMessage_reply hqueued)
  rename_i hsignals
  replace hsignals : client.unsentSignals = [] := by
    simpa [Client.unsentSignals] using hsignals
  dsimp only at h
  split at h
  · rename_i hdiffers
    obtain rfl := Except.ok.inj h
    exact .round hguard hframes hsignals hdiffers
  · rename_i hsame
    rw [not_or, not_not, not_not] at hsame
    obtain ⟨queued, hqueued, rfl⟩ := bind_ok h
    exact .finish queued hguard hframes hsignals hsame.1 hsame.2 (clientQueueMessage_reply hqueued)

/-- A step of a catch-up that fails is one of the failures. -/
theorem catchupStep_error {client failed : Client cat}
    (hguard : driveGuard config env client = true)
    (h : catchupStep config canonical env client = .error failed) :
    DriveFailure config canonical env client failed := by
  unfold catchupStep at h
  split at h
  · split at h
    · exact .batch hguard (Except.error.inj h ▸ .unchanged)
    · exact .batch hguard (clientQueueMessage_error (bind_error h))
  rename_i hframes
  replace hframes : client.unsentFrames = [] := by
    simpa [Client.unsentFrames] using hframes
  split at h
  · split at h
    · exact .batch hguard (Except.error.inj h ▸ .unchanged)
    · exact .batch hguard (clientQueueMessage_error (bind_error h))
  rename_i hsignals
  replace hsignals : client.unsentSignals = [] := by
    simpa [Client.unsentSignals] using hsignals
  dsimp only at h
  split at h
  · contradiction
  · exact .finish hguard hframes hsignals (clientQueueMessage_error (bind_error h))

section Fuel

/-- The slots that the configuration lets sessions use. -/
def usableSlots (config : Config cat) : Finset (Fin (clientQueueSlots cat)) :=
  Finset.univ.filter fun slot => slot.val < config.slots

/-- Twice the free slots, and one more while there is nothing left to send. -/
def driveMeasure (config : Config cat) (client : Client cat) : ℕ :=
  2 * (freeSlots client.output (usableSlots config)).card +
    if client.unsentFrames = [] ∧ client.unsentSignals = [] then 1 else 0

/-- The loop has enough fuel for every catch-up. -/
theorem driveMeasure_lt_fuel (config : Config cat) (client : Client cat) :
    driveMeasure config client < driveFuel cat := by
  have hcard : (freeSlots client.output (usableSlots config)).card ≤ clientQueueSlots cat := by
    refine (Finset.card_le_univ _).trans ?_
    rw [Fintype.card_fin]
  unfold driveMeasure driveFuel
  split <;> omega

/-- A pushed message leaves one free slot less. -/
theorem Pushes.card_freeSlots {message : Message} {client client' : Client cat}
    (h : Pushes config canonical message client client') :
    (freeSlots client'.output (usableSlots config)).card + 1 =
      (freeSlots client.output (usableSlots config)).card := by
  obtain ⟨slot, hfree, -, rfl⟩ := h.takes
  refine card_freeSlots_take client.output _ slot _ ?_ hfree.2
  simpa [usableSlots] using hfree.1

/-- Every iteration of the loop decreases the measure, unless it leaves the catch-up. -/
theorem catchupStep_measure {client client' : Client cat}
    (h : catchupStep config canonical env client = .ok client') :
    driveMeasure config client' < driveMeasure config client := by
  have hpushed : ∀ (message : Message) (before queued after : Client cat),
      Pushes config canonical message before queued → before.output = client.output →
      after.output = queued.output → driveMeasure config after < driveMeasure config client := by
    intro message before queued after hpush hbefore hafter
    have hcard := hpush.card_freeSlots
    rw [hbefore, ← hafter] at hcard
    unfold driveMeasure
    split <;> split <;> omega
  unfold catchupStep at h
  split at h
  · split at h
    · contradiction
    obtain ⟨queued, hqueued, rfl⟩ := bind_ok h
    exact hpushed _ _ _ _ (clientQueueMessage_reply hqueued) rfl rfl
  rename_i hframes
  split at h
  · split at h
    · contradiction
    obtain ⟨queued, hqueued, rfl⟩ := bind_ok h
    exact hpushed _ _ _ _ (clientQueueMessage_reply hqueued) rfl rfl
  rename_i hsignals
  dsimp only at h
  split at h
  · rename_i hdiffers
    obtain rfl := Except.ok.inj h
    have hbefore : client.unsentFrames = [] ∧ client.unsentSignals = [] := by
      simpa [Client.unsentFrames, Client.unsentSignals] using And.intro hframes hsignals
    have hafter : ¬ ((beginCatchupRound canonical client).unsentFrames = [] ∧
        (beginCatchupRound canonical client).unsentSignals = []) := by
      rintro ⟨hnoFrames, hnoSignals⟩
      exact hdiffers.elim (fun hne => hne hnoFrames) (fun hne => hne hnoSignals)
    unfold driveMeasure
    rw [if_pos hbefore, if_neg hafter]
    exact Nat.lt_succ_self _
  · obtain ⟨queued, hqueued, rfl⟩ := bind_ok h
    exact hpushed _ _ _ _ (clientQueueMessage_reply hqueued) rfl rfl

/-- The loop of a drive is a loop whose body can fail. -/
theorem driveLoop_eq (fuel : ℕ) (client : Client cat) :
    driveLoop config canonical env fuel client =
      Loop.eval (driveGuard config env) (catchupStep config canonical env) fuel client := by
  induction fuel generalizing client with
  | zero => rfl
  | succ fuel ih => simp only [driveLoop, Loop.eval, ih]

/-- With more fuel than the measure, the loop of the source ends with the result of `driveLoop`. -/
theorem driveLoop_ends {fuel : ℕ} {client : Client cat}
    (hfuel : driveMeasure config client < fuel) :
    Loop.Ends (driveGuard config env) (catchupStep config canonical env) client
      (driveLoop config canonical env fuel client) := by
  rw [driveLoop_eq]
  exact Loop.ends_eval (driveMeasure config) catchupStep_measure hfuel

end Fuel

/-- Rounds of the loop are moves. -/
theorem rounds_moves {client client' : Client cat}
    (h : ReflTransGen (Loop.Round (driveGuard config env) (catchupStep config canonical env)) client
      client') : ReflTransGen (DriveMove config canonical env) client client' :=
  ReflTransGen.mono (fun _ _ hround => catchupStep_ok hround.1 hround.2) _ _ h

/-- A successful loop is a sequence of moves to a state in which its condition fails. -/
theorem driveLoop_ok {fuel : ℕ} {client client' : Client cat}
    (hfuel : driveMeasure config client < fuel)
    (h : driveLoop config canonical env fuel client = .ok client') :
    ReflTransGen (DriveMove config canonical env) client client' ∧
      driveGuard config env client' = false := by
  obtain ⟨hrounds, hdone⟩ := (h ▸ driveLoop_ends hfuel).of_ok
  exact ⟨rounds_moves hrounds, hdone⟩

/-- A failed loop is a sequence of moves and a failure. -/
theorem driveLoop_error {fuel : ℕ} {client failed : Client cat}
    (hfuel : driveMeasure config client < fuel)
    (h : driveLoop config canonical env fuel client = .error failed) :
    ∃ last, ReflTransGen (DriveMove config canonical env) client last ∧
      DriveFailure config canonical env last failed := by
  obtain ⟨last, hrounds, hguard, hbody⟩ := (h ▸ driveLoop_ends hfuel).of_error
  exact ⟨last, rounds_moves hrounds, catchupStep_error hguard hbody⟩

/-- The note that a catch-up goes on is a move, if it is made. -/
theorem noteResumption_moves (client : Client cat) :
    ReflTransGen (DriveMove config canonical env) client (noteResumption config env client) := by
  unfold noteResumption
  split
  · exact .single (.noted _ _)
  · exact .refl

/-- The note that a catch-up waits is a move, if it is made. -/
theorem noteWaiting_moves (client : Client cat) :
    ReflTransGen (DriveMove config canonical env) client (noteWaiting config env client) := by
  unfold noteWaiting
  split
  · exact .single (.noted _ client.catchupResumptionReported)
  · exact .refl

/-- A successful drive ends in a session for which its loop condition failed. -/
theorem driveSubscriptionCatchup_ok {client client' : Client cat}
    (h : driveSubscriptionCatchup config canonical env client = .ok client') :
    ∃ driven, ReflTransGen (DriveMove config canonical env) client driven ∧
      driveGuard config env driven = false ∧ client' = noteWaiting config env driven := by
  obtain ⟨driven, hdriven, rfl⟩ := bind_ok h
  obtain ⟨hmoves, hdone⟩ := driveLoop_ok (driveMeasure_lt_fuel config _) hdriven
  exact ⟨driven, (noteResumption_moves client).trans hmoves, hdone, rfl⟩

/-- A drive that fails has moved before, and then met a failure. -/
theorem driveSubscriptionCatchup_error {client failed : Client cat}
    (h : driveSubscriptionCatchup config canonical env client = .error failed) :
    ∃ last, ReflTransGen (DriveMove config canonical env) client last ∧
      DriveFailure config canonical env last failed := by
  obtain ⟨last, hmoves, hfailure⟩ :=
    driveLoop_error (driveMeasure_lt_fuel config _) (bind_error h)
  exact ⟨last, (noteResumption_moves client).trans hmoves, hfailure⟩

section Rounds

/-- The entry is a round of catch-up. -/
def LogEntry.isRound : LogEntry cat → Bool
  | .roundBegun _ _ => true
  | _ => false

/-- The rounds of catch-up in a history. -/
def roundCount (log : List (LogEntry cat)) : ℕ := log.countP LogEntry.isRound

/-- The rounds in a history, one entry at a time. -/
theorem roundCount_append (log : List (LogEntry cat)) (entry : LogEntry cat) :
    roundCount (log ++ [entry]) = roundCount log + if entry.isRound then 1 else 0 := by
  simp [roundCount, List.countP_append, List.countP_cons]

/-- A queued message begins no round. -/
theorem Pushes.roundCount {message : Message} {client client' : Client cat}
    (h : Pushes config canonical message client client') :
    Roadcast.roundCount client'.log = Roadcast.roundCount client.log := by
  obtain ⟨slot, -, -, rfl⟩ := h.takes
  exact roundCount_append _ _

/-- A refused message begins no round. -/
theorem Refused.roundCount {client failed : Client cat} (h : Refused config client failed) :
    Roadcast.roundCount failed.log = Roadcast.roundCount client.log := by
  cases h with
  | unchanged => rfl
  | scrubbed slot hfree => rfl

/-- A round is counted when it begins. -/
theorem roundCount_beginCatchupRound (canonical : Canonical cat) (client : Client cat) :
    roundCount (beginCatchupRound canonical client).log = roundCount client.log + 1 := by
  rw [beginCatchupRound, roundCount_append]
  rfl

end Rounds

end Roadcast
