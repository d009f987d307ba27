import Roadcast.Daemon.Sound
import Roadcast.Daemon.Waiting

/-!
# Progress of a catch-up

Every call of `drive_subscription_catchup` ends. If it succeeds and the session is still open, the
catch-up is complete or it waits with every slot in use. The canonical state does not change during a
call, so the second round that it begins finds nothing to send and is the last one.
-/

namespace Roadcast

open SlotPool Relation

variable {cat : Catalog} {config : Config cat} {canonical : Canonical cat} {env : Env cat}

/-- A session during a catch-up: between events, and as the callers of `drive_subscription_catchup`
pass it. `on_client_write` has released the slot of the write and tests `catchup_active`;
`queue_subscription_catchup` has set it and begun a round. -/
inductive DriveEntry (canonical : Canonical cat) (client : Client cat) : Client cat → Prop
  | reached (hcatchup : client.catchupActive = true) : DriveEntry canonical client client
  | written (slot : Fin (clientQueueSlots cat)) (hused : (client.output slot).inUse = true)
      (hcatchup : client.catchupActive = true) : DriveEntry canonical client (client.release slot)
  | subscribing : DriveEntry canonical client
      (beginCatchupRound canonical { client with catchupActive := true })

namespace DriveEntry

/-- A drive is entered during a catch-up only. -/
theorem catchupActive {client entry : Client cat} (h : DriveEntry canonical client entry) :
    entry.catchupActive = true := by
  cases h with
  | reached hcatchup => exact hcatchup
  | written slot hused hcatchup => exact hcatchup
  | subscribing => rfl

/-- The accounts of a session hold where a drive is entered. -/
theorem accounted {client entry : Client cat} (h : DriveEntry canonical client entry)
    (haccounted : Accounted config client) : Accounted config entry := by
  cases h with
  | reached hcatchup => exact haccounted
  | written slot hused hcatchup => exact haccounted.released slot hused
  | subscribing => exact haccounted.of_same rfl rfl

end DriveEntry

/-- The catch-up is complete: `SUBSCRIBED` is the last message, and the session is subscribed. -/
structure CatchupDone (canonical : Canonical cat) (client : Client cat) : Prop where
  queued : client.log.getLast? = some (.queued (outgoing .subscribed canonical.changeSequence
    canonical.sampleTimestampNs []) canonical)
  subscribed : client.subscribed = true
  inactive : client.catchupActive = false

/-- The catch-up waits for a write to complete, with every slot in use. -/
structure CatchupHeld (config : Config cat) (client : Client cat) : Prop where
  active : client.catchupActive = true
  waiting : client.catchupWaitingForCapacity = true
  filled : QueueFilled config client

/-- A catch-up stays active until it is complete. -/
theorem moved_active_or_done {client client' : Client cat}
    (hmove : DriveMove config canonical env client client')
    (h : client.catchupActive = true ∨ CatchupDone canonical client) :
    client'.catchupActive = true ∨ CatchupDone canonical client' := by
  cases hmove with
  | noted waiting reported =>
    rcases h with hcatchup | hdone
    · exact Or.inl hcatchup
    · exact Or.inr ⟨hdone.queued, hdone.subscribed, hdone.inactive⟩
  | frames payload queued hguard hunsent hpayload hpush =>
    have hcatchup := driveGuard_catchupActive hguard
    obtain ⟨slot, -, -, rfl⟩ := hpush.takes
    exact Or.inl hcatchup
  | signals payload queued hguard hframes hunsent hpayload hpush =>
    have hcatchup := driveGuard_catchupActive hguard
    obtain ⟨slot, -, -, rfl⟩ := hpush.takes
    exact Or.inl hcatchup
  | round hguard hframes hsignals hdiffers =>
    have hcatchup := driveGuard_catchupActive hguard
    exact Or.inl hcatchup
  | finish queued hguard hframes hsignals hsameFrames hsameSignals hpush =>
    obtain ⟨slot, -, -, rfl⟩ := hpush.takes
    exact Or.inr ⟨List.getLast?_concat, rfl, rfl⟩

/-- A drive that ends with the session open has completed the catch-up, or waits. -/
theorem done_or_held {client : Client cat} (haccounted : Accounted config client)
    (hbounded : env.WriteQueueBounded) (hguard : driveGuard config env client = false)
    (hactive : client.active = true)
    (h : client.catchupActive = true ∨ CatchupDone canonical client) :
    CatchupDone canonical (noteWaiting config env client) ∨
      CatchupHeld config (noteWaiting config env client) := by
  rcases h with hcatchup | hdone
  · have hfilled := queueFilled_of_driveGuard haccounted hbounded hguard hactive hcatchup
    have hcapacity : clientHasOutputCapacity config env client = false := by
      simpa [driveGuard, hactive, hcatchup] using hguard
    rw [noteWaiting, if_pos ⟨hactive, hcatchup, hcapacity⟩]
    exact Or.inr ⟨hcatchup, rfl, hfilled⟩
  · have hnot : ¬ (client.active = true ∧ client.catchupActive = true ∧
        clientHasOutputCapacity config env client = false) := by
      simp [hdone.inactive]
    rw [noteWaiting, if_neg hnot]
    exact Or.inl hdone

/-! ## The rounds of a call -/

/-- Nothing differs between the canonical state and the session's copy. -/
structure SameCopy (canonical : Canonical cat) (client : Client cat) : Prop where
  frames : differingFrames canonical.frames client.snapshotFrames = []
  signals : differingSignals canonical.signals client.snapshotSignals = []

/-- A round takes over the canonical state, so the next one finds no difference. -/
theorem sameCopy_beginCatchupRound (canonical : Canonical cat) (client : Client cat) :
    SameCopy canonical (beginCatchupRound canonical client) :=
  ⟨differingFrames_self _, differingSignals_self _⟩

/-- How far a call that started at `start` rounds has come: no round yet, one after which nothing
differs, or the end of the catch-up. -/
inductive RoundsUsed (canonical : Canonical cat) (start : ℕ) (client : Client cat) : Prop
  | none (hcount : roundCount client.log = start)
  | one (hcount : roundCount client.log = start + 1) (hsame : SameCopy canonical client)
  | ended (hcount : roundCount client.log ≤ start + 2) (hcatchup : client.catchupActive = false)

namespace RoundsUsed

variable {start : ℕ}

/-- No more than two rounds have begun since the drive was entered. -/
theorem le {client : Client cat} (h : RoundsUsed canonical start client) :
    roundCount client.log ≤ start + 2 := by
  cases h with
  | none hcount => omega
  | one hcount hsame => omega
  | ended hcount hcatchup => exact hcount

/-- While the catch-up is active, a further round is within the bound. -/
theorem lt {client : Client cat} (h : RoundsUsed canonical start client)
    (hcatchup : client.catchupActive = true) : roundCount client.log < start + 2 := by
  cases h with
  | none hcount => omega
  | one hcount hsame => omega
  | ended hcount hinactive =>
    rw [hcatchup] at hinactive
    contradiction

/-- What neither begins a round nor changes the copy leaves the rounds as they are. -/
theorem of_same {client client' : Client cat} (h : RoundsUsed canonical start client)
    (hcount : roundCount client'.log = roundCount client.log)
    (hcopy : SameCopy canonical client → SameCopy canonical client')
    (hactive : client'.catchupActive = client.catchupActive) :
    RoundsUsed canonical start client' := by
  cases h with
  | none hstart => exact .none (hcount.trans hstart)
  | one hstart hsame => exact .one (hcount.trans hstart) (hcopy hsame)
  | ended hle hinactive => exact .ended (hcount.trans_le hle) (hactive.trans hinactive)

/-- A move begins a round only if the copy was not the canonical state, and takes the copy from it.
-/
theorem moved {client client' : Client cat} (hmove : DriveMove config canonical env client client')
    (h : RoundsUsed canonical start client) : RoundsUsed canonical start client' := by
  cases hmove with
  | noted waiting reported => exact h.of_same rfl (fun hsame => ⟨hsame.frames, hsame.signals⟩) rfl
  | frames payload queued hguard hunsent hpayload hpush =>
    have hcount := hpush.roundCount
    obtain ⟨slot, -, -, rfl⟩ := hpush.takes
    exact h.of_same hcount (fun hsame => ⟨hsame.frames, hsame.signals⟩) rfl
  | signals payload queued hguard hframes hunsent hpayload hpush =>
    have hcount := hpush.roundCount
    obtain ⟨slot, -, -, rfl⟩ := hpush.takes
    exact h.of_same hcount (fun hsame => ⟨hsame.frames, hsame.signals⟩) rfl
  | round hguard hframes hsignals hdiffers =>
    have hround := roundCount_beginCatchupRound canonical client
    cases h with
    | none hcount =>
      exact .one (hround.trans (by rw [hcount])) (sameCopy_beginCatchupRound canonical client)
    | one hcount hsame =>
      -- the copy is the canonical state already, so a round with entries cannot follow
      rcases hdiffers with hframe | hsignal
      · exact absurd hsame.frames hframe
      · exact absurd hsame.signals hsignal
    | ended hcount hinactive =>
      rw [driveGuard_catchupActive hguard] at hinactive
      contradiction
  | finish queued hguard hframes hsignals hsameFrames hsameSignals hpush =>
    have hlt := h.lt (driveGuard_catchupActive hguard)
    have hcount := hpush.roundCount
    rw [roundCount_beginCatchupRound] at hcount
    have hle : roundCount queued.log ≤ start + 2 := by omega
    exact .ended hle rfl

/-- A whole drive begins two rounds at most. -/
theorem drive {client client' : Client cat}
    (hmoves : ReflTransGen (DriveMove config canonical env) client client')
    (h : RoundsUsed canonical start client) : RoundsUsed canonical start client' :=
  drive_induction moved hmoves h

/-- A drive that fails has begun two rounds at most. -/
theorem driveFailed {client failed : Client cat} (h : RoundsUsed canonical start client)
    (hfailure : DriveFailure config canonical env client failed) :
    roundCount failed.log ≤ start + 2 := by
  cases hfailure with
  | batch hguard hrefused =>
    rw [hrefused.roundCount]
    exact h.le
  | finish hguard hframes hsignals hrefused =>
    have hlt := h.lt (driveGuard_catchupActive hguard)
    rw [hrefused.roundCount, roundCount_beginCatchupRound]
    omega

end RoundsUsed

/-- A drive is its loop between the two notes about the queue. -/
theorem driveSubscriptionCatchup_eq_map (client : Client cat) :
    driveSubscriptionCatchup config canonical env client =
      (driveLoop config canonical env (driveFuel cat) (noteResumption config env client)).map
        (noteWaiting config env) := by
  unfold driveSubscriptionCatchup
  cases driveLoop config canonical env (driveFuel cat) (noteResumption config env client) with
  | error failed => rfl
  | ok driven => rfl

/-- Every call of `drive_subscription_catchup`, in any state that a run can reach, ends; if it
succeeds and the session is open, the catch-up is complete or waits with every slot in use; and it
begins at most two rounds, since a round leaves nothing that differs. -/
theorem run_catchup_progress (config : Config cat) (fake : Option Bool) (tick : Tick cat)
    (events : List (Event cat)) (s : Fin maxClients) (env : Env cat)
    (hbounded : env.WriteQueueBounded) (entry : Client cat)
    (hentry : DriveEntry (run config fake tick events).canonical
      ((run config fake tick events).clients s) entry) :
    let canonical := (run config fake tick events).canonical
    let driven := driveSubscriptionCatchup config canonical env entry
    (∃ result, Loop.Ends (driveGuard config env) (catchupStep config canonical env)
      (noteResumption config env entry) result ∧ driven = result.map (noteWaiting config env)) ∧
    (∀ client, driven = .ok client → client.active = true →
      CatchupDone canonical client ∨ CatchupHeld config client) ∧
    (∀ client, driven = .ok client ∨ driven = .error client →
      roundCount client.log ≤ roundCount entry.log + 2) ∧
    ∀ client, SameCopy canonical (beginCatchupRound canonical client) := by
  intro canonical driven
  have haccounted : Accounted config entry :=
    hentry.accounted (run_stable config (fun _ _ => Accounted.stable) fake tick events s)
  have hused : RoundsUsed canonical (roundCount entry.log) entry := .none rfl
  refine ⟨?_, ?_, ?_, sameCopy_beginCatchupRound canonical⟩
  · exact ⟨_, driveLoop_ends (driveMeasure_lt_fuel config _), driveSubscriptionCatchup_eq_map entry⟩
  · intro client hclient hactive
    have hstable : Stable config canonical env (Accounted config) := Accounted.stable
    obtain ⟨last, hmoves, hdone, rfl⟩ := driveSubscriptionCatchup_ok hclient
    have hwait : ReflTransGen (DriveMove config canonical env) last (noteWaiting config env last) :=
      noteWaiting_moves last
    rw [drive_active hwait] at hactive
    have hlast := drive_induction hstable.kept.moved hmoves haccounted
    have hend := drive_induction moved_active_or_done hmoves (Or.inl hentry.catchupActive)
    exact done_or_held hlast hbounded hdone hactive hend
  · rintro client (hclient | hclient)
    · obtain ⟨last, hmoves, hdone, rfl⟩ := driveSubscriptionCatchup_ok hclient
      exact (hused.drive (hmoves.trans (noteWaiting_moves last))).le
    · obtain ⟨last, hmoves, hfailure⟩ := driveSubscriptionCatchup_error hclient
      exact (hused.drive hmoves).driveFailed hfailure

section SingleRuns

/-- A sample arrives between the snapshot and the subscription, so the catch-up has a batch to
send. -/
def changedRun : List (Event singleCatalog) := singleSetup ++ singleSample 1 20

/-- The first session after that run, as `SUBSCRIBE_ALL` passes it to the driver. -/
def changedEntry : Client singleCatalog :=
  beginCatchupRound (run singleConfig none (singleTick 0 10) changedRun).canonical
    { singleSession changedRun with catchupActive := true }

/-- A catch-up that a sample has overtaken needs another round. -/
theorem run_catchup_progress_changed :
    ∃ client, driveSubscriptionCatchup singleConfig
        (run singleConfig none (singleTick 0 10) changedRun).canonical Env.idle changedEntry =
          .ok client ∧
      (CatchupDone (run singleConfig none (singleTick 0 10) changedRun).canonical client ∨
        CatchupHeld singleConfig client) ∧
      roundCount client.log ≤ roundCount changedEntry.log + 2 := by
  have hprogress := run_catchup_progress singleConfig none (singleTick 0 10) changedRun firstSession
    Env.idle (fun _ => Nat.zero_le _) changedEntry .subscribing
  have hsuccess : (driveSubscriptionCatchup singleConfig
      (run singleConfig none (singleTick 0 10) changedRun).canonical Env.idle
      changedEntry).toOption.map Client.active = some true := by
    decide +kernel
  cases hdriven : driveSubscriptionCatchup singleConfig
      (run singleConfig none (singleTick 0 10) changedRun).canonical Env.idle changedEntry with
  | error failed =>
    rw [hdriven] at hsuccess
    contradiction
  | ok client =>
    rw [hdriven] at hsuccess
    exact ⟨client, rfl, hprogress.2.1 client hdriven (Option.some.inj hsuccess),
      hprogress.2.2.1 client (Or.inl hdriven)⟩

end SingleRuns

end Roadcast
