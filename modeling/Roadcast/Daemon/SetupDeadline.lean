import Roadcast.Daemon.Accounting

/-!
# The deadline of session setup

A session has `SETUP_TIMEOUT_NS` from `WELCOME`, or from an overflow, to the next `SUBSCRIBED`. The
history of a session says when that time began to run: `Setup` is read off the entries that each
event adds to it, with the clock of the event. `setup_deadline_ns` follows it, except that every
snapshot that is begun moves the deadline, so that a heartbeat closes an overdue session if and only
if no snapshot was begun within the last `SETUP_TIMEOUT_NS`.
-/

namespace Roadcast

variable {cat : Catalog}

/-- A setup that has not reached `SUBSCRIBED`: when `WELCOME` was queued or the overflow happened,
and when the last snapshot since then was begun. -/
structure Setup where
  since : ℕ
  begun : Option ℕ
  deriving DecidableEq

/-- The value of `setup_deadline_ns` in a setup. -/
def Setup.deadlineNs (setup : Setup) : ℕ := setup.begun.getD setup.since + setupTimeoutNs

/-- What an entry of the history says about the setup. -/
def noteSetup (nowNs : ℕ) (setup : Option Setup) : LogEntry cat → Option Setup
  | .queued message _ =>
    if message.header.type = MessageType.welcome.code then some ⟨nowNs, none⟩
    else if message.header.type = MessageType.subscribed.code then none
    else setup
  | .dropped _ => some ⟨nowNs, none⟩
  | .snapshotBegun _ => setup.map fun waiting => { waiting with begun := some nowNs }
  | .roundBegun _ _ => setup

/-- The setup after some entries of the history. -/
def noteSetups (nowNs : ℕ) (setup : Option Setup) (entries : List (LogEntry cat)) : Option Setup :=
  entries.foldl (noteSetup nowNs) setup

/-- The schedule of a history, one entry at a time. -/
theorem noteSetups_drop_append (nowNs : ℕ) (setup : Option Setup) {log : List (LogEntry cat)}
    {n : ℕ} (hn : n ≤ log.length) (entry : LogEntry cat) :
    noteSetups nowNs setup ((log ++ [entry]).drop n) =
      noteSetup nowNs (noteSetups nowNs setup (log.drop n)) entry := by
  rw [List.drop_append_of_le_length hn, noteSetups, List.foldl_append]
  rfl

/-- Messages other than `WELCOME` and `SUBSCRIBED` do not move the schedule. -/
theorem noteSetup_queued {nowNs : ℕ} {setup : Option Setup} {type : MessageType}
    {sequence timestampNs : UInt64} {payload : List UInt8} {canonical : Canonical cat}
    (hwelcome : type ≠ .welcome) (hsubscribed : type ≠ .subscribed) :
    noteSetup nowNs setup (.queued (outgoing type sequence timestampNs payload) canonical) =
      setup := by
  have hcode : ∀ other, type ≠ other →
      (outgoing type sequence timestampNs payload).header.type ≠ other.code :=
    fun other hne hsame => hne ((MessageType.code_inj type other).mp hsame)
  rw [noteSetup, if_neg (hcode .welcome hwelcome), if_neg (hcode .subscribed hsubscribed)]

/-- The flags and the deadline of a session agree with its setup. -/
structure Client.OnSchedule (setup : Option Setup) (client : Client cat) : Prop where
  ungreeted : client.greeted = false → client.subscribed = false ∧ setup = none
  catchup : client.catchupActive = true → client.greeted = true
  ended : client.subscribed = true → setup = none
  waiting : client.greeted = true → client.subscribed = false →
    ∃ started, setup = some started ∧ client.setupDeadlineNs = started.deadlineNs

/-- A session that was just accepted has no setup behind it. -/
theorem onSchedule_accepted (uid : UInt32) (nowNs : ℕ) :
    (Client.accepted uid nowNs : Client cat).OnSchedule none where
  ungreeted _ := ⟨rfl, rfl⟩
  catchup := nofun
  ended _ := rfl
  waiting := nofun

/-- The session is on the schedule that its history since an earlier moment says. -/
def Client.FollowsFrom (n nowNs : ℕ) (setup : Option Setup) (client : Client cat) : Prop :=
  n ≤ client.log.length ∧ client.OnSchedule (noteSetups nowNs setup (client.log.drop n))

section Updates

variable {config : Config cat} {canonical : Canonical cat} {env : Env cat} {n : ℕ}
  {setup : Option Setup} {client : Client cat}

/-- An update that appends one entry moves the schedule by that entry. -/
theorem Client.FollowsFrom.append {nowNs : ℕ} {entry : LogEntry cat} {client' : Client cat}
    (h : client.FollowsFrom n nowNs setup) (hlog : client'.log = client.log ++ [entry])
    (hnext : client'.OnSchedule
      (noteSetup nowNs (noteSetups nowNs setup (client.log.drop n)) entry)) :
    client'.FollowsFrom n nowNs setup := by
  refine ⟨?_, ?_⟩
  · rw [hlog, List.length_append]
    exact Nat.le_add_right_of_le h.1
  · rw [hlog, noteSetups_drop_append nowNs setup h.1]
    exact hnext

/-- An overflow of a subscribed session starts a setup. -/
theorem followsFrom_overflowed {type : MessageType} {client' : Client cat}
    (hsubscribed : client.subscribed = true) (hoverflow : Overflows config env type client client')
    (h : client.FollowsFrom n env.monotonicNs setup) :
    client'.FollowsFrom n env.monotonicNs setup := by
  rw [hoverflow.eq]
  refine h.append rfl ?_
  have hgreeted : client.greeted = true := by
    by_contra hnot
    rw [(h.2.ungreeted (Bool.not_eq_true _ ▸ hnot)).1] at hsubscribed
    contradiction
  exact
    { ungreeted := fun hnot => absurd (hgreeted.symm.trans hnot) (by simp)
      catchup := fun _ => hgreeted
      ended := nofun
      waiting := fun _ _ => ⟨⟨env.monotonicNs, none⟩, rfl, rfl⟩ }

/-- A snapshot that is begun during a setup moves its deadline. -/
theorem followsFrom_begun (hgreeted : client.greeted = true)
    (h : client.FollowsFrom n env.monotonicNs setup) :
    (beginSnapshot canonical env client).FollowsFrom n env.monotonicNs setup := by
  refine h.append rfl ?_
  exact
    { ungreeted := fun hnot => absurd (hgreeted.symm.trans hnot) (by simp)
      catchup := fun _ => hgreeted
      ended := fun hsubscribed => by rw [noteSetup, h.2.ended hsubscribed, Option.map_none]
      waiting := fun _ hwaiting => by
        obtain ⟨started, hstarted, -⟩ := h.2.waiting hgreeted hwaiting
        exact ⟨{ started with begun := some env.monotonicNs },
          by rw [noteSetup, hstarted, Option.map_some], rfl⟩ }

/-- `WELCOME` starts a setup. -/
theorem followsFrom_welcomed {sequence timestampNs : UInt64} {payload : List UInt8}
    {client' : Client cat}
    (hpush : Pushes config canonical (outgoing .welcome sequence timestampNs payload) client client')
    (hgreeted : client.greeted = false) (h : client.FollowsFrom n env.monotonicNs setup) :
    (client'.greet env.monotonicNs).FollowsFrom n env.monotonicNs setup := by
  obtain ⟨slot, -, -, rfl⟩ := hpush.takes
  refine h.append rfl ?_
  exact
    { ungreeted := nofun
      catchup := fun _ => rfl
      ended := fun hsubscribed =>
        absurd ((h.2.ungreeted hgreeted).1.symm.trans hsubscribed) (by simp)
      waiting := fun _ _ => ⟨⟨env.monotonicNs, none⟩, rfl, rfl⟩ }

/-- `SUBSCRIBED` ends a setup. -/
theorem followsFrom_finished {nowNs : ℕ} {sequence timestampNs : UInt64} {payload : List UInt8}
    {client' : Client cat}
    (hpush : Pushes config canonical (outgoing .subscribed sequence timestampNs payload) client
      client')
    (hcatchup : client.catchupActive = true) (h : client.FollowsFrom n nowNs setup) :
    client'.finishCatchup.FollowsFrom n nowNs setup := by
  obtain ⟨slot, -, -, rfl⟩ := hpush.takes
  refine h.append rfl ?_
  have hgreeted := h.2.catchup hcatchup
  exact
    { ungreeted := fun hnot => absurd (hgreeted.symm.trans hnot) (by simp)
      catchup := nofun
      ended := fun _ => rfl
      waiting := nofun }

end Updates

/-- Every update of a session keeps it on the schedule of its history. -/
theorem followsFrom_kept (config : Config cat) (canonical : Canonical cat) (env : Env cat) (n : ℕ)
    (setup : Option Setup) :
    Kept config canonical env (Client.FollowsFrom n env.monotonicNs setup) where
  pushed hpush hwelcome hsubscribed h := by
    obtain ⟨slot, -, -, rfl⟩ := hpush.takes
    refine h.append rfl ?_
    rw [noteSetup_queued hwelcome hsubscribed]
    exact { h.2 with }
  welcomed hpush hgreeted h := followsFrom_welcomed hpush hgreeted h
  finished hpush hcatchup h := followsFrom_finished hpush hcatchup h
  scrubbed _ h := ⟨h.1, { h.2 with }⟩
  closed h := by
    unfold clientClose
    split
    · exact h
    · exact ⟨h.1, { h.2 with }⟩
  released _ h := ⟨h.1, { h.2 with }⟩
  overflowed hsubscribed _ hoverflow h := followsFrom_overflowed hsubscribed hoverflow h
  begun hgreeted _ h := followsFrom_begun hgreeted h
  advancedFrames _ h := ⟨h.1, { h.2 with }⟩
  advancedSignals _ h := ⟨h.1, { h.2 with }⟩
  started hgreeted _ _ h := ⟨h.1, { h.2 with catchup := fun _ => hgreeted }⟩
  rounded h := h.append rfl { h.2 with }
  sentFrames _ h := ⟨h.1, { h.2 with }⟩
  sentSignals _ h := ⟨h.1, { h.2 with }⟩
  noted _ _ h := ⟨h.1, { h.2 with }⟩
  requested h := ⟨h.1, { h.2 with }⟩

/-- No update activates a session. -/
theorem inactive_kept (config : Config cat) (canonical : Canonical cat) (env : Env cat) :
    Kept config canonical env (fun client => client.active = false) where
  pushed hpush _ _ h := absurd (h.symm.trans hpush.active) (by simp)
  welcomed hpush _ h := absurd (h.symm.trans hpush.active) (by simp)
  finished hpush _ h := absurd (h.symm.trans hpush.active) (by simp)
  scrubbed _ h := h
  closed h := by
    rw [clientClose, if_pos (Or.inl h)]
    exact h
  released _ h := h
  overflowed _ _ hoverflow h := absurd (h.symm.trans hoverflow.active) (by simp)
  begun _ _ h := h
  advancedFrames _ h := h
  advancedSignals _ h := h
  started _ _ _ h := h
  rounded h := h
  sentFrames _ h := h
  sentSignals _ h := h
  noted _ _ h := h
  requested h := h

/-- The daemon and the setup of one session. -/
structure Scheduled (cat : Catalog) where
  daemon : Daemon cat
  setup : Option Setup

/-- One event, with what it adds to the history of a session noted at its clock. -/
def scheduleStep (config : Config cat) (s : Fin maxClients) (scheduled : Scheduled cat)
    (event : Event cat) : Scheduled cat :=
  let next := step config scheduled.daemon event
  { daemon := next
    setup :=
      if (next.clients s).active = false then none
      else
        noteSetups (event.answers s).monotonicNs scheduled.setup
          ((next.clients s).log.drop (scheduled.daemon.clients s).log.length) }

/-- The setup of a session after a run. -/
def setupAfter (config : Config cat) (fake : Option Bool) (tick : Tick cat) (s : Fin maxClients)
    (events : List (Event cat)) : Option Setup :=
  (events.foldl (scheduleStep config s) ⟨daemonInit config fake tick, none⟩).setup

/-- The schedule is watched without changing the daemon. -/
theorem foldl_scheduleStep (config : Config cat) (s : Fin maxClients) (events : List (Event cat))
    (scheduled : Scheduled cat) :
    (events.foldl (scheduleStep config s) scheduled).daemon =
      events.foldl (step config) scheduled.daemon := by
  induction events generalizing scheduled with
  | nil => rfl
  | cons event rest ih => exact ih (scheduleStep config s scheduled event)

/-- Only an active session has a setup, and it is on schedule. -/
structure Scheduled.Holds (s : Fin maxClients) (scheduled : Scheduled cat) : Prop where
  inactive : (scheduled.daemon.clients s).active = false → scheduled.setup = none
  active : (scheduled.daemon.clients s).active = true →
    (scheduled.daemon.clients s).OnSchedule scheduled.setup

/-- A new record that is active is that of an accepted session. -/
theorem Fresh.onSchedule {client : Client cat} (h : Fresh client) (hactive : client.active = true) :
    client.log = [] ∧ client.OnSchedule none := by
  cases h with
  | zero => contradiction
  | unaccepted => contradiction
  | rejected => contradiction
  | accepted uid nowNs => exact ⟨rfl, onSchedule_accepted uid nowNs⟩
  | unreadable uid nowNs => contradiction

/-- An event moves the session along its schedule. -/
theorem Scheduled.Holds.next (config : Config cat) {s : Fin maxClients} {scheduled : Scheduled cat}
    (h : scheduled.Holds s) (event : Event cat) :
    (scheduleStep config s scheduled event).Holds s := by
  have hevolves := step_evolves config scheduled.daemon event s
  refine ⟨fun hinactive => if_pos hinactive, fun hactive' => ?_⟩
  have hsetup : (scheduleStep config s scheduled event).setup =
      noteSetups (event.answers s).monotonicNs scheduled.setup
        (((step config scheduled.daemon event).clients s).log.drop
          (scheduled.daemon.clients s).log.length) :=
    if_neg (by rw [Bool.not_eq_false]; exact hactive')
  rw [hsetup]
  by_cases hactive : (scheduled.daemon.clients s).active = true
  · have hstart : (scheduled.daemon.clients s).FollowsFrom (scheduled.daemon.clients s).log.length
        (event.answers s).monotonicNs scheduled.setup := by
      refine ⟨Nat.le_refl _, ?_⟩
      rw [List.drop_length]
      exact h.active hactive
    rcases (followsFrom_kept config _ _ _ _).evolved hevolves hstart with
      hfollows | ⟨-, ⟨hclosed, -⟩ | ⟨-, hclosed⟩⟩
    · exact hfollows.2
    · exact absurd (hclosed.symm.trans hactive) (by simp)
    · exact absurd (hclosed.symm.trans hactive') (by simp)
  · -- only the record of a new session is active when the one before it was not
    rw [Bool.not_eq_true] at hactive
    rcases (inactive_kept config _ _).evolved hevolves hactive with hstays | ⟨hfresh, -⟩
    · exact absurd (hstays.symm.trans hactive') (by simp)
    · obtain ⟨hlog, hschedule⟩ := hfresh.onSchedule hactive'
      rw [hlog, List.drop_nil, h.inactive hactive]
      exact hschedule

/-- In every reachable state the session is on the schedule of its run. -/
theorem run_scheduled (config : Config cat) (fake : Option Bool) (tick : Tick cat)
    (s : Fin maxClients) (events : List (Event cat)) :
    Scheduled.Holds s ⟨run config fake tick events, setupAfter config fake tick s events⟩ := by
  have hholds : (events.foldl (scheduleStep config s) ⟨daemonInit config fake tick, none⟩).Holds s :=
    (Runs.Meets.always _ events).invariant (fun event _ scheduled _ h => h.next config event)
      ⟨fun _ => rfl, nofun⟩
  have hdaemon := foldl_scheduleStep config s events ⟨daemonInit config fake tick, none⟩
  rw [run, ← hdaemon]
  exact hholds

/-- What a heartbeat does to a session in a setup. -/
theorem heartbeatToClient_waiting (config : Config cat) (canonical : Canonical cat) (env : Env cat)
    (sourceState : SourceState) (nowNs : ℕ) {client : Client cat} {setup : Setup}
    (hflags : SessionFlags client) (hactive : client.active = true)
    (h : client.OnSchedule (some setup)) :
    (heartbeatToClient config canonical env sourceState nowNs client).active = false ↔
      setup.deadlineNs ≤ nowNs := by
  have hgreeted : client.greeted = true := by
    by_contra hnot
    exact absurd (h.ungreeted (Bool.not_eq_true _ ▸ hnot)).2 (by simp)
  have hsubscribed : client.subscribed = false := by
    by_contra hnot
    exact absurd (h.ended (Bool.not_eq_false _ ▸ hnot)) (by simp)
  obtain ⟨started, hstarted, hdeadline⟩ := h.waiting hgreeted hsubscribed
  rw [Option.some.injEq] at hstarted
  subst hstarted
  have hpos : setup.deadlineNs ≠ 0 := by
    simp [Setup.deadlineNs, setupTimeoutNs]
  unfold heartbeatToClient
  rw [if_neg (by simp [hgreeted])]
  by_cases hdue : setup.deadlineNs ≤ nowNs
  · rw [if_pos ⟨hactive, hgreeted, hsubscribed, hdeadline ▸ hpos, hdeadline ▸ hdue⟩]
    simp only [hdue, iff_true]
    exact hflags.closed_active
  · rw [if_neg (by simp [hdeadline, hdue]), if_pos (Or.inr (Or.inr (Or.inl hsubscribed)))]
    simp [hactive, hdue]

/-- A heartbeat at or after the end of the setup time closes a session that has not reached
`SUBSCRIBED` if and only if no snapshot was begun within the last `SETUP_TIMEOUT_NS`. -/
theorem run_setup_bounded (config : Config cat) (fake : Option Bool) (tick : Tick cat)
    (events : List (Event cat)) (s : Fin maxClients) {setup : Setup}
    (hsetup : setupAfter config fake tick s events = some setup) {nowNs : ℕ}
    (hdue : setup.since + setupTimeoutNs ≤ nowNs) (env : Fin maxClients → Env cat) :
    ((run config fake tick (events ++ [.heartbeat nowNs env])).clients s).active = false ↔
      ∀ begunNs, setup.begun = some begunNs → begunNs + setupTimeoutNs ≤ nowNs := by
  have hholds := run_scheduled config fake tick s events
  have hflags : SessionFlags ((run config fake tick events).clients s) :=
    run_stable config (fun _ _ => SessionFlags.stable) fake tick events s
  have hactive : ((run config fake tick events).clients s).active = true := by
    by_contra hnot
    have hnone := hholds.inactive (Bool.not_eq_true _ ▸ hnot)
    exact absurd (hsetup.symm.trans hnone) (by simp)
  have hschedule := hholds.active hactive
  rw [hsetup] at hschedule
  rw [run, List.foldl_append, ← run]
  refine (heartbeatToClient_waiting config _ (env s) _ nowNs hflags hactive hschedule).trans ?_
  cases hbegun : setup.begun with
  | none => simpa [Setup.deadlineNs, hbegun] using hdue
  | some begunNs => simp [Setup.deadlineNs, hbegun]

/-- A request of the first session at a given time, and the completion of its answer. -/
def requestAt (nowNs : ℕ) (type : MessageType) (payload : List UInt8) :
    List (Event singleCatalog) :=
  [.request firstSession { Env.idle with monotonicNs := nowNs } (outgoing type 0 0 payload),
    singleWriteDone]

/-- A whole snapshot is fetched at a given time. -/
def snapshotAt (nowNs : ℕ) : List (Event singleCatalog) :=
  requestAt nowNs .getSnapshot (encodeIndexRequest 0) ++
    requestAt nowNs .getSignalSnapshot (encodeIndexRequest 0)

/-- A session is greeted at 0 and fetches a snapshot at each of some times. -/
def snapshotsAt (times : List ℕ) : List (Event singleCatalog) :=
  .connection ⟨true, true, some 0, true, 0⟩ :: requestAt 0 .hello encodeHello ++
    times.flatMap snapshotAt

/-- Whole snapshots every nine seconds: twenty seconds after `WELCOME` the first heartbeat leaves a
session open that never subscribed. -/
theorem run_setup_postponed :
    setupAfter singleConfig none (singleTick 0 10) firstSession
        (snapshotsAt [9000000000, 18000000000]) = some ⟨0, some 18000000000⟩ ∧
      ((run singleConfig none (singleTick 0 10) (snapshotsAt [9000000000, 18000000000] ++
        [.heartbeat 20000000000 fun _ => Env.idle])).clients firstSession).active = true :=
  ⟨by decide +kernel, by decide +kernel⟩

/-- A session that fetched a snapshot after one second is closed twelve seconds after `WELCOME`. -/
theorem run_setup_bounded_closes :
    ((run singleConfig none (singleTick 0 10) (snapshotsAt [1000000000] ++
      [.heartbeat 12000000000 fun _ => Env.idle])).clients firstSession).active = false := by
  have hsetup : setupAfter singleConfig none (singleTick 0 10) firstSession
      (snapshotsAt [1000000000]) = some ⟨0, some 1000000000⟩ := by decide +kernel
  refine (run_setup_bounded singleConfig none (singleTick 0 10) _ firstSession hsetup
    (by decide) fun _ => Env.idle).mpr ?_
  rintro begunNs hbegun
  cases hbegun
  decide

end Roadcast
