import Roadcast.Daemon.Isolation
import Roadcast.Lib.Mailbox

/-!
# The sampler thread and the loop

The sampler is a thread of its own. `sampler_publish` and `sampler_read_latest` copy the published
frames one after the other under `published_lock`, and `uv_async_send` wakes the loop. Here both
threads move in single steps, in any order; the copies are those of a mailbox with a cell for every
frame and one for each number. `source_state` is an atomic of its own, set before the frames are
published.

`daemon.sampler` is the sampler as of its last publication. No function of the loop reads it here:
what the loop gets, it gets out of the cells. `Threads.atomic` is the daemon as the loop leaves it
once it is done with the sample that it has copied; every interleaving of the two threads moves it as
the events of the loop do, with one exception: a heartbeat may already report the source state of the
sample that is being published.
-/

namespace Roadcast

open Mailbox (loadedBy storedBy)

/-- What `published_lock` protects, one cell for each assignment or copied frame. -/
inductive SampleCell (frameCount : ℕ)
  | frame (i : Fin frameCount)
  | sequence
  | timestampNs
  deriving DecidableEq

/-- What a cell holds. -/
def SampleCell.Value {frameCount : ℕ} : SampleCell frameCount → Type
  | frame _ => Frame
  | sequence | timestampNs => UInt64

/-- The order of the copies in `sampler_publish` and `sampler_read_latest`. -/
def SampleCell.order (frameCount : ℕ) : List (SampleCell frameCount) :=
  (List.finRange frameCount).map .frame ++ [.sequence, .timestampNs]

/-- Every cell of a sample is copied. -/
theorem SampleCell.mem_order {frameCount : ℕ} (cell : SampleCell frameCount) :
    cell ∈ SampleCell.order frameCount := by
  cases cell with
  | frame i => simp [order]
  | sequence => simp [order]
  | timestampNs => simp [order]

variable {cat : Catalog}

/-- A sample in cells. -/
def Sample.record (sample : Sample cat) : ∀ cell : SampleCell cat.frameCount, cell.Value
  | .frame i => sample.frames i
  | .sequence => sample.sequence
  | .timestampNs => sample.timestampNs

/-- The sample that cells hold. -/
def sampleOf (record : ∀ cell : SampleCell cat.frameCount, cell.Value) : Sample cat :=
  ⟨fun i => record (.frame i), record .sequence, record .timestampNs⟩

/-- A sample is read back from its record. -/
@[simp] theorem sampleOf_record (sample : Sample cat) : sampleOf sample.record = sample := rfl

variable (cat) in
/-- Cells that are all zero. -/
def zeroRecord : ∀ cell : SampleCell cat.frameCount, cell.Value
  | .frame _ => zeroFrame
  | .sequence | .timestampNs => (0 : UInt64)

variable (cat) in
/-- The published frames and numbers with their lock and their notification. -/
abbrev SampleMailbox := Mailbox.State fun cell : SampleCell cat.frameCount => cell.Value

variable (cat) in
/-- A step in `sampler_publish` or `sampler_read_latest`. -/
abbrev SampleAction := Mailbox.Action fun cell : SampleCell cat.frameCount => cell.Value

/-- `distribute_latest_sample` behind `sampler_read_latest`. -/
def distributeSample (config : Config cat) (env : Fin maxClients → Env cat) (sample : Sample cat)
    (daemon : Daemon cat) : Daemon cat :=
  let canonical := daemon.canonical.consume sample
  let delta := daemon.canonical.delta sample
  { daemon with
    canonical := canonical
    clients := fun s =>
      distributeToClient config canonical (env s) delta.1 delta.2 (daemon.clients s) }

/-- `on_heartbeat` with what it reads from `source_state`. -/
def onHeartbeatReporting (config : Config cat) (nowNs : ℕ) (env : Fin maxClients → Env cat)
    (sourceState : SourceState) (daemon : Daemon cat) : Daemon cat :=
  let canonical := daemon.canonical.heartbeat nowNs
  { daemon with
    canonical := canonical
    clients := fun s =>
      heartbeatToClient config canonical (env s) sourceState nowNs (daemon.clients s) }

variable (cat) in
/-- Both threads. `thread` is what the sampler thread works on, `tick` its current or last tick, and
`env` what libuv answers in the current or last notification. -/
structure Threads where
  daemon : Daemon cat
  thread : Sampler cat
  tick : Tick cat
  env : Fin maxClients → Env cat
  mailbox : SampleMailbox cat

variable (cat) in
/-- The steps of the threads: the sampler takes a sample or goes on publishing it; the loop begins with
a notification, goes on with it, or handles another event. -/
inductive ThreadAction
  | sample (tick : Tick cat)
  | publish
  | notification (env : Fin maxClients → Env cat)
      (stack : ∀ cell : SampleCell cat.frameCount, cell.Value)
  | distribute
  | event (event : Event cat)

namespace Threads

/-- `sampler_init` and `sampler_start`. -/
def init (config : Config cat) (fake : Option Bool) (tick : Tick cat)
    (env : Fin maxClients → Env cat) : Threads cat :=
  let daemon := daemonInit config fake tick
  { daemon := daemon
    thread := daemon.sampler
    tick := tick
    env := env
    mailbox := Mailbox.init (samplerReadLatest daemon.sampler).record }

/-- The mailbox after a step of one of the threads. -/
def move (threads : Threads cat) (action : SampleAction cat) : SampleMailbox cat :=
  Mailbox.act (SampleCell.order cat.frameCount) threads.mailbox action

/-- The loop handles an event that is not of the sampler. -/
def handle (config : Config cat) (sourceState : SourceState) (daemon : Daemon cat) :
    Event cat → Daemon cat
  | .tick _ | .sampleNotification _ => daemon
  | .heartbeat nowNs env => onHeartbeatReporting config nowNs env sourceState daemon
  | event => step config daemon event

/-- One step of one of the threads. A step that is not possible changes nothing. -/
def act (config : Config cat) (threads : Threads cat) : ThreadAction cat → Threads cat
  | .sample tick =>
    match threads.mailbox.writer with
    | .idle =>
      let thread := samplerTick threads.thread tick
      { threads with
        thread := thread
        tick := tick
        mailbox := threads.move (.store (samplerReadLatest thread).record) }
    | _ => threads
  | .publish =>
    { threads with
      daemon := if (storedBy threads.mailbox .writer).isSome then
        { threads.daemon with sampler := threads.thread } else threads.daemon
      mailbox := threads.move .writer }
  | .notification env stack =>
    match threads.mailbox.reader with
    | .idle => { threads with env := env, mailbox := threads.move (.wake stack) }
    | _ => threads
  | .distribute =>
    match threads.mailbox.reader with
    | .loaded record =>
      { threads with
        daemon := distributeSample config threads.env (sampleOf record) threads.daemon
        mailbox := threads.move .done }
    | _ => { threads with mailbox := threads.move .reader }
  | .event event =>
    match threads.mailbox.reader with
    | .idle =>
      { threads with daemon := handle config threads.thread.sourceState threads.daemon event }
    | _ => threads

/-- The daemon once the loop is done with the sample that it has copied. -/
def atomic (config : Config cat) (threads : Threads cat) : Daemon cat :=
  match threads.mailbox.reader with
  | .loaded record => distributeSample config threads.env (sampleOf record) threads.daemon
  | _ => threads.daemon

/-- The tick whose sample is being published. -/
def publishing (threads : Threads cat) : Option (Tick cat) :=
  threads.mailbox.writer.record.map fun _ => threads.tick

end Threads

variable (cat) in
/-- An event of the loop, or a heartbeat ahead of a sample. -/
inductive LoopEvent
  | event (event : Event cat)
  | heartbeatAhead (nowNs : ℕ) (env : Fin maxClients → Env cat) (tick : Tick cat)

/-- One event of the loop. A heartbeat ahead of a sample reports the source state after it. -/
def loopStep (config : Config cat) (daemon : Daemon cat) : LoopEvent cat → Daemon cat
  | .event event => step config daemon event
  | .heartbeatAhead nowNs env tick =>
    onHeartbeatReporting config nowNs env (samplerTick daemon.sampler tick).sourceState daemon

/-- What a step of a thread comes to: a tick when the lock is released behind a sample, a notification
when it is released behind a copy. -/
def Threads.emit (threads : Threads cat) : ThreadAction cat → Option (LoopEvent cat)
  | .publish => (storedBy threads.mailbox .writer).map fun _ => .event (.tick threads.tick)
  | .distribute =>
    (loadedBy threads.mailbox .reader).map fun _ => .event (.sampleNotification threads.env)
  | .event event =>
    match threads.mailbox.reader with
    | .idle =>
      match event with
      | .tick _ | .sampleNotification _ => none
      | .heartbeat nowNs env => some (threads.publishing.elim (.event (.heartbeat nowNs env))
          (.heartbeatAhead nowNs env))
      | event => some (.event event)
    | _ => none
  | .sample _ | .notification _ _ => none

namespace Threads

/-- The cells hold the sample of the last publication, and the sampler thread is at most one tick
ahead of it. -/
structure Linked (threads : Threads cat) : Prop where
  consistent : Mailbox.Consistent (samplerReadLatest threads.daemon.sampler).record threads.mailbox
  thread : threads.thread =
    threads.publishing.elim threads.daemon.sampler (samplerTick threads.daemon.sampler)
  record : ∀ record, threads.mailbox.writer.record = some record →
    record = (samplerReadLatest threads.thread).record

/-- The threads start with one sample, which both of them have. -/
theorem init_linked (config : Config cat) (fake : Option Bool) (tick : Tick cat)
    (env : Fin maxClients → Env cat) : (init config fake tick env).Linked where
  consistent := Mailbox.consistent_init _
  thread := rfl
  record := by simp [init, Mailbox.init, Mailbox.Writer.record]

section Moves

variable {config : Config cat} {threads : Threads cat}

/-- A new tick: nothing is visible yet but the source state. -/
theorem act_sample (h : threads.Linked) (tick : Tick cat) :
    (act config threads (.sample tick)).Linked ∧
      atomic config (act config threads (.sample tick)) = atomic config threads := by
  simp only [act]
  split
  · rename_i hidle
    have hthread : threads.thread = threads.daemon.sampler := by
      rw [h.thread, publishing, hidle]
      rfl
    have hmoved : threads.move (.store (samplerReadLatest (samplerTick threads.thread tick)).record) =
        { threads.mailbox with
          writer := .waiting (samplerReadLatest (samplerTick threads.thread tick)).record } := by
      rw [move, Mailbox.act, hidle]
    refine ⟨⟨?_, ?_, ?_⟩, ?_⟩
    · exact (h.consistent.acted SampleCell.mem_order
        (.store (samplerReadLatest (samplerTick threads.thread tick)).record)).1
    · simp only [publishing, hmoved, Mailbox.Writer.record, Option.map_some, Option.elim_some]
      rw [hthread]
    · intro record hrecord
      rw [hmoved] at hrecord
      exact (Option.some.inj hrecord).symm
    · simp only [atomic, hmoved]
  · exact ⟨h, rfl⟩

/-- Distributing a sample and a tick of the sampler do not touch each other. -/
theorem atomic_sampler (threads : Threads cat) (sampler : Sampler cat) (mailbox : SampleMailbox cat)
    (hreader : mailbox.reader = threads.mailbox.reader) :
    atomic config { threads with
      daemon := { threads.daemon with sampler := sampler }, mailbox := mailbox } =
      { atomic config threads with sampler := sampler } := by
  simp only [atomic, hreader]
  split
  · rfl
  · rfl

/-- What the loop has still to do does not concern the sampler. -/
theorem atomic_daemon_sampler (threads : Threads cat) :
    (atomic config threads).sampler = threads.daemon.sampler := by
  unfold atomic
  split
  · rfl
  · rfl

/-- What the loop has still to do depends on its side of the mailbox only. -/
theorem atomic_mailbox (threads : Threads cat) (mailbox : SampleMailbox cat)
    (hreader : mailbox.reader = threads.mailbox.reader) :
    atomic config { threads with mailbox := mailbox } = atomic config threads := by
  simp only [atomic, hreader]

/-- A loop without a copy has nothing left to do. -/
theorem atomic_of_not_loaded (h : ∀ record, threads.mailbox.reader ≠ .loaded record) :
    atomic config threads = threads.daemon := by
  unfold atomic
  split
  · rename_i record hloaded
    exact absurd hloaded (h record)
  · rfl

/-- A step of `sampler_publish`: the tick happens when the lock is released. -/
theorem act_publish (h : threads.Linked) :
    (act config threads .publish).Linked ∧
      atomic config (act config threads .publish) =
        (threads.emit .publish).elim (atomic config threads)
          (loopStep config (atomic config threads)) := by
  have hconsistent := (h.consistent.acted SampleCell.mem_order .writer).1
  have hreader : (threads.move .writer).reader = threads.mailbox.reader :=
    Mailbox.writerStep_reader _ _
  simp only [act, emit]
  cases hstored : storedBy threads.mailbox .writer with
  | some record =>
    have hwriter := Mailbox.storedBy_eq_some hstored
    have hthread : threads.thread = samplerTick threads.daemon.sampler threads.tick := by
      rw [h.thread, publishing, hwriter]
      rfl
    have hmoved : (threads.move .writer).writer = .stored := by
      rw [move, Mailbox.act, Mailbox.writerStep, hwriter]
    rw [hstored, h.record record (congrArg Mailbox.Writer.record hwriter)] at hconsistent
    refine ⟨⟨hconsistent, ?_, ?_⟩, ?_⟩
    · simp only [publishing, hmoved, Mailbox.Writer.record, Option.isSome_some, if_true,
        Option.map_none, Option.elim_none]
    · intro other hother
      rw [hmoved] at hother
      cases hother
    · simp only [Option.isSome_some, if_true, Option.map_some, Option.elim_some, loopStep, step]
      rw [atomic_sampler threads _ _ hreader, hthread, atomic_daemon_sampler]
  | none =>
    have hrecord : (threads.move .writer).writer.record = threads.mailbox.writer.record :=
      Mailbox.writerStep_record _ hstored
    rw [hstored] at hconsistent
    simp only [Option.isSome_none, Bool.false_eq_true, if_false, Option.map_none, Option.elim_none]
    refine ⟨⟨hconsistent, ?_, ?_⟩, atomic_mailbox threads _ hreader⟩
    · rw [publishing, hrecord]
      exact h.thread
    · rw [hrecord]
      exact h.record

/-- The steps of the loop do not move the writer. -/
theorem Linked.moved (h : threads.Linked) {mailbox : SampleMailbox cat} {daemon : Daemon cat}
    {env : Fin maxClients → Env cat}
    (hconsistent : Mailbox.Consistent (samplerReadLatest threads.daemon.sampler).record mailbox)
    (hwriter : mailbox.writer = threads.mailbox.writer)
    (hsampler : daemon.sampler = threads.daemon.sampler) :
    { threads with daemon := daemon, env := env, mailbox := mailbox }.Linked where
  consistent := hsampler ▸ hconsistent
  thread := by
    rw [publishing, hsampler, hwriter]
    exact h.thread
  record := by
    rw [hwriter]
    exact h.record

/-- The loop begins with a notification. -/
theorem act_notification (h : threads.Linked) (env : Fin maxClients → Env cat)
    (stack : ∀ cell : SampleCell cat.frameCount, cell.Value) :
    (act config threads (.notification env stack)).Linked ∧
      atomic config (act config threads (.notification env stack)) = atomic config threads := by
  simp only [act]
  split
  · rename_i hidle
    have hconsistent := (h.consistent.acted SampleCell.mem_order (.wake stack)).1
    refine ⟨h.moved hconsistent (Mailbox.act_wake_writer _ _ _) rfl, ?_⟩
    have hbefore : atomic config threads = threads.daemon :=
      atomic_of_not_loaded (by simp [hidle])
    rw [hbefore]
    refine atomic_of_not_loaded fun record => ?_
    simp only [move, Mailbox.act, hidle]
    split
    · simp
    · simp [hidle]
  · exact ⟨h, rfl⟩

/-- A step of `distribute_latest_sample`: the notification happens when the lock is released. -/
theorem act_distribute (h : threads.Linked) :
    (act config threads .distribute).Linked ∧
      atomic config (act config threads .distribute) =
        (threads.emit .distribute).elim (atomic config threads)
          (loopStep config (atomic config threads)) := by
  obtain ⟨hconsistent, hlast⟩ := h.consistent.acted SampleCell.mem_order .reader
  have hwriter : (threads.move .reader).writer = threads.mailbox.writer :=
    Mailbox.readerStep_writer _ _
  simp only [act, emit]
  cases hreader : threads.mailbox.reader with
  | loaded record =>
    have hdone : (threads.move .done).reader = .idle := by
      simp only [move, Mailbox.act, hreader]
    have hnone : loadedBy threads.mailbox .reader = none := by simp [loadedBy, hreader]
    refine ⟨h.moved (h.consistent.acted SampleCell.mem_order .done).1
      (Mailbox.act_done_writer _ _) rfl, ?_⟩
    rw [hnone, atomic_of_not_loaded (by simp [hdone])]
    simp [atomic, hreader]
  | idle =>
    have hnone : loadedBy threads.mailbox .reader = none := by simp [loadedBy, hreader]
    refine ⟨h.moved hconsistent hwriter rfl, ?_⟩
    rw [hnone]
    refine atomic_mailbox threads _ ?_
    simp only [move, Mailbox.act, Mailbox.readerStep, hreader]
  | waiting buffer =>
    have hnone : loadedBy threads.mailbox .reader = none := by simp [loadedBy, hreader]
    refine ⟨h.moved hconsistent hwriter rfl, ?_⟩
    rw [hnone]
    have hbefore : atomic config threads = threads.daemon :=
      atomic_of_not_loaded (by simp [hreader])
    rw [Option.map_none, Option.elim_none, hbefore]
    refine atomic_of_not_loaded fun record => ?_
    simp only [move, Mailbox.act, Mailbox.readerStep, hreader]
    split
    · simp
    · simp [hreader]
  | loading buffer left =>
    refine ⟨h.moved hconsistent hwriter rfl, ?_⟩
    have hbefore : atomic config threads = threads.daemon :=
      atomic_of_not_loaded (by simp [hreader])
    rw [hbefore]
    cases left with
    | nil =>
      have hsome : loadedBy threads.mailbox .reader = some buffer := by simp [loadedBy, hreader]
      have hloaded : (threads.move .reader).reader = .loaded buffer := by
        simp only [move, Mailbox.act, Mailbox.readerStep, hreader]
      simp only [hsome, Option.map_some, Option.elim_some, loopStep, step]
      simp only [atomic, hloaded]
      rw [hlast buffer hsome]
      rfl
    | cons i left =>
      have hnone : loadedBy threads.mailbox .reader = none := by simp [loadedBy, hreader]
      rw [hnone, Option.map_none, Option.elim_none]
      refine atomic_of_not_loaded fun record => ?_
      simp [move, Mailbox.act, Mailbox.readerStep, hreader]

/-- The events of the loop leave the sampler alone. -/
theorem handle_sampler (sourceState : SourceState) (daemon : Daemon cat) (event : Event cat) :
    (handle config sourceState daemon event).sampler = daemon.sampler := by
  have hkept (h : event.timing = none) : (step config daemon event).sampler = daemon.sampler := by
    have hsource := step_source config daemon event
    rw [h] at hsource
    exact congrArg Prod.snd hsource
  cases event with
  | tick tick => rfl
  | sampleNotification env => rfl
  | heartbeat nowNs env => rfl
  | connection connection => exact hkept rfl
  | request session env request => exact hkept rfl
  | disconnect session => exact hkept rfl
  | writeDone session env slot failed => exact hkept rfl
  | closed session => exact hkept rfl
  | shutdown => exact hkept rfl

/-- Another event of the loop. -/
theorem act_event (h : threads.Linked) (event : Event cat) :
    (act config threads (.event event)).Linked ∧
      atomic config (act config threads (.event event)) =
        (threads.emit (.event event)).elim (atomic config threads)
          (loopStep config (atomic config threads)) := by
  simp only [act, emit]
  cases hreader : threads.mailbox.reader with
  | idle =>
    refine ⟨h.moved h.consistent rfl (handle_sampler _ _ _), ?_⟩
    rw [atomic_of_not_loaded (by simp [hreader]), atomic_of_not_loaded (by simp [hreader])]
    cases event with
    | heartbeat nowNs env =>
      have hthread := h.thread
      simp only [handle, Option.elim_some]
      cases hpublishing : threads.publishing with
      | none =>
        rw [hpublishing, Option.elim_none] at hthread
        rw [Option.elim_none, hthread]
        rfl
      | some tick =>
        rw [hpublishing, Option.elim_some] at hthread
        rw [Option.elim_some, hthread]
        rfl
    | tick tick => rfl
    | sampleNotification env => rfl
    | connection connection => rfl
    | request session env request => rfl
    | disconnect session => rfl
    | writeDone session env slot failed => rfl
    | closed session => rfl
    | shutdown => rfl
  | waiting buffer => exact ⟨h, rfl⟩
  | loading buffer left => exact ⟨h, rfl⟩
  | loaded record => exact ⟨h, rfl⟩

/-- One step of one of the threads is at most one event of the loop. -/
theorem act_atomic (h : threads.Linked) (action : ThreadAction cat) :
    (act config threads action).Linked ∧
      atomic config (act config threads action) =
        (threads.emit action).elim (atomic config threads)
          (loopStep config (atomic config threads)) := by
  cases action with
  | sample tick => exact act_sample h tick
  | publish => exact act_publish h
  | notification env stack => exact act_notification h env stack
  | distribute => exact act_distribute h
  | event event => exact act_event h event

end Moves

/-- However the steps of the sampler thread and of the loop are interleaved, the daemon moves as by
whole events: a tick for every sample that is published, and a notification for every copy of it that
the loop takes, which is the whole sample of the last tick. Only a heartbeat may be ahead of the
sample that is being published, with its source state. -/
theorem run_interleaved (config : Config cat) (fake : Option Bool) (tick : Tick cat)
    (env : Fin maxClients → Env cat) (actions : List (ThreadAction cat)) :
    atomic config (actions.foldl (act config) (init config fake tick env)) =
      (Runs.emitted (act config) emit (init config fake tick env) actions).foldl (loopStep config)
        (daemonInit config fake tick) :=
  (Runs.foldl_emitted Linked (atomic config) (fun _ action h => act_atomic h action)
    (init_linked config fake tick env) actions).2

end Threads

/-! ## Nothing is missed -/

/-- The frames and numbers that the loop works with are those of a sample. -/
structure Canonical.Holds (canonical : Canonical cat) (sample : Sample cat) : Prop where
  frames : canonical.frames = sample.frames
  sampleSequence : canonical.sampleSequence = sample.sequence
  sampleTimestampNs : canonical.sampleTimestampNs = sample.timestampNs

/-- A sample that is not newer is skipped, which is right if it is the one that the loop has. -/
theorem Canonical.Holds.consume {canonical : Canonical cat} {seen : Sample cat}
    (h : canonical.Holds seen) {sample : Sample cat}
    (holder : seen = sample ∨ seen.sequence < sample.sequence) :
    (canonical.consume sample).Holds sample := by
  obtain ⟨hle, hconsume⟩ | ⟨-, -, hconsume⟩ | ⟨-, -, hconsume⟩ := canonical.consume_cases sample
  · rw [hconsume]
    rw [h.sampleSequence] at hle
    rcases holder with heq | hlt
    · exact heq ▸ h
    · exact absurd hlt (UInt64.not_lt.mpr hle)
  · exact hconsume ▸ ⟨rfl, rfl, rfl⟩
  · exact hconsume ▸ ⟨rfl, rfl, rfl⟩

namespace Threads

/-- The loop works with a sample that was published, and it is the last one unless the loop will look
again. `count` bounds the samples so far. -/
structure Followed (config : Config cat) (count : ℕ) (threads : Threads cat) (seen : Sample cat) :
    Prop where
  holds : (atomic config threads).canonical.Holds seen
  rested : ¬ Mailbox.Due threads.mailbox → seen = samplerReadLatest threads.daemon.sampler
  published : seen = samplerReadLatest threads.daemon.sampler ∨
    seen.sequence < (samplerReadLatest threads.daemon.sampler).sequence
  count_le : (samplerReadLatest threads.daemon.sampler).sequence.toNat ≤ count

section Following

variable {config : Config cat} {threads threads' : Threads cat} {count : ℕ} {seen : Sample cat}

/-- The loop starts with the sample that `main` has taken. -/
theorem init_followed (config : Config cat) (fake : Option Bool) (tick : Tick cat)
    (env : Fin maxClients → Env cat) :
    (init config fake tick env).Followed config 0 (samplerReadLatest (samplerInit fake tick)) where
  holds := ⟨rfl, rfl, rfl⟩
  rested := fun _ => rfl
  published := Or.inl rfl
  count_le := Nat.le_refl 0

/-- A step that publishes nothing and does not look at the cells. -/
theorem Followed.kept (h : threads.Followed config count seen)
    (hcanonical : (atomic config threads').canonical.Holds seen)
    (hsampler : threads'.daemon.sampler = threads.daemon.sampler)
    (hrested : ¬ Mailbox.Due threads'.mailbox → seen = samplerReadLatest threads.daemon.sampler) :
    threads'.Followed config (count + 1) seen where
  holds := hcanonical
  rested := hsampler ▸ hrested
  published := hsampler ▸ h.published
  count_le := hsampler ▸ h.count_le.trans (Nat.le_succ count)

/-- Between the steps of the mailbox no notification is lost. -/
theorem Followed.moved (h : threads.Followed config count seen) (hlinked : threads.Linked)
    {action : SampleAction cat} (hloaded : loadedBy threads.mailbox action = none)
    (hstored : storedBy threads.mailbox action = none)
    (hrest : ¬ Mailbox.Due (threads.move action)) :
    seen = samplerReadLatest threads.daemon.sampler := by
  have hsame := hlinked.consistent.noneLost SampleCell.mem_order
    (fun hdue => congrArg Sample.record (h.rested hdue)) action hrest
  rw [hloaded, hstored, Option.getD_none, Option.getD_none] at hsame
  exact congrArg sampleOf hsame

/-- A step of `sampler_publish`: a new sample has the next number. -/
theorem Followed.publish (h : threads.Followed config count seen) (hlinked : threads.Linked)
    (hcount : count + 1 < 2 ^ 64) : (act config threads .publish).Followed config (count + 1) seen := by
  have hatomic : atomic config (act config threads .publish) = _ := (act_publish hlinked).2
  have hholds : (atomic config (act config threads .publish)).canonical.Holds seen := by
    rw [hatomic, emit]
    cases storedBy threads.mailbox .writer with
    | none => exact h.holds
    | some record => exact h.holds
  cases hstored : storedBy threads.mailbox .writer with
  | none =>
    refine h.kept hholds (by simp [act, hstored]) fun hrest => ?_
    exact h.moved hlinked (by simp [loadedBy]) hstored hrest
  | some record =>
    have hwriter := Mailbox.storedBy_eq_some hstored
    have hsampler : (act config threads .publish).daemon.sampler =
        samplerTick threads.daemon.sampler threads.tick := by
      simp [act, hstored, hlinked.thread, publishing, hwriter, Mailbox.Writer.record]
    have hnext : (samplerReadLatest (act config threads .publish).daemon.sampler).sequence.toNat =
        (samplerReadLatest threads.daemon.sampler).sequence.toNat + 1 := by
      have hle := h.count_le
      rw [hsampler]
      simp only [samplerReadLatest, samplerTick_publishedSequence] at hle ⊢
      rw [UInt64.toNat_add, UInt64.toNat_one]
      omega
    refine ⟨hholds, fun hrest => absurd ?_ hrest, Or.inr ?_, ?_⟩
    · refine Or.inr (Or.inr (Or.inr ?_))
      simp only [act, move, Mailbox.act, Mailbox.writerStep, hwriter]
    · rw [UInt64.lt_iff_toNat_lt, hnext]
      rcases h.published with heq | hlt
      · rw [heq]
        exact Nat.lt_succ_self _
      · exact (UInt64.lt_iff_toNat_lt.mp hlt).trans (Nat.lt_succ_self _)
    · rw [hnext]
      exact Nat.succ_le_succ h.count_le

/-- A step of `distribute_latest_sample`: what is copied is the last sample. -/
theorem Followed.distribute (h : threads.Followed config count seen) (hlinked : threads.Linked) :
    ∃ seen', (act config threads .distribute).Followed config (count + 1) seen' := by
  have hatomic : atomic config (act config threads .distribute) = _ := (act_distribute hlinked).2
  have hsampler : (act config threads .distribute).daemon.sampler = threads.daemon.sampler := by
    simp only [act]
    split
    · rfl
    · rfl
  cases hloaded : loadedBy threads.mailbox .reader with
  | some record =>
    refine ⟨samplerReadLatest threads.daemon.sampler, ?_, ?_, ?_, ?_⟩
    · rw [hatomic, emit, hloaded]
      simp only [Option.map_some, Option.elim_some, loopStep, step, distributeLatestSample]
      rw [atomic_daemon_sampler]
      exact h.holds.consume h.published
    · exact fun _ => by rw [hsampler]
    · exact Or.inl (by rw [hsampler])
    · rw [hsampler]
      exact h.count_le.trans (Nat.le_succ count)
  | none =>
    refine ⟨seen, h.kept ?_ hsampler fun hrest => ?_⟩
    · rw [hatomic, emit, hloaded]
      exact h.holds
    · simp only [act] at hrest
      split at hrest
      · exact h.moved hlinked (by simp [loadedBy]) (by simp [storedBy]) hrest
      · exact h.moved hlinked hloaded (by simp [storedBy]) hrest

/-- Another event of the loop leaves the sample as it is. -/
theorem Followed.event (h : threads.Followed config count seen) (hlinked : threads.Linked)
    (event : Event cat) : (act config threads (.event event)).Followed config (count + 1) seen := by
  have hatomic : atomic config (act config threads (.event event)) = _ := (act_event hlinked event).2
  have hkept (hnone : event.timing = none) :
      (step config (atomic config threads) event).canonical.Holds seen := by
    have hsource := step_source config (atomic config threads) event
    rw [hnone] at hsource
    rw [show (step config (atomic config threads) event).canonical = _ from
      congrArg Prod.fst hsource]
    exact h.holds
  refine h.kept ?_ ?_ fun hrest => ?_
  · rw [hatomic]
    unfold emit
    dsimp only
    split
    · cases event with
      | tick tick => exact h.holds
      | sampleNotification env => exact h.holds
      | heartbeat nowNs env =>
        cases threads.publishing with
        | none => exact ⟨h.holds.1, h.holds.2, h.holds.3⟩
        | some tick => exact ⟨h.holds.1, h.holds.2, h.holds.3⟩
      | connection connection => exact hkept rfl
      | request session env request => exact hkept rfl
      | disconnect session => exact hkept rfl
      | writeDone session env slot failed => exact hkept rfl
      | closed session => exact hkept rfl
      | shutdown => exact hkept rfl
    · exact h.holds
  · simp only [act]
    split
    · exact handle_sampler _ _ _
    · rfl
  · refine h.rested fun hdue => hrest ?_
    simp only [act]
    split
    · exact hdue
    · exact hdue

/-- One step of one of the threads. -/
theorem Followed.acted (h : threads.Followed config count seen) (hlinked : threads.Linked)
    (hcount : count + 1 < 2 ^ 64) (action : ThreadAction cat) :
    ∃ seen', (act config threads action).Followed config (count + 1) seen' := by
  cases action with
  | sample tick =>
    refine ⟨seen, h.kept ?_ ?_ fun hrest => ?_⟩
    · rw [(act_sample hlinked tick).2]
      exact h.holds
    · simp only [act]
      split
      · rfl
      · rfl
    · simp only [act] at hrest
      split at hrest
      · exact h.moved hlinked (by simp [loadedBy]) (by simp [storedBy]) hrest
      · exact h.rested hrest
  | publish => exact ⟨seen, h.publish hlinked hcount⟩
  | notification env stack =>
    refine ⟨seen, h.kept ?_ ?_ fun hrest => ?_⟩
    · rw [(act_notification hlinked env stack).2]
      exact h.holds
    · simp only [act]
      split
      · rfl
      · rfl
    · simp only [act] at hrest
      split at hrest
      · exact h.moved hlinked (by simp [loadedBy]) (by simp [storedBy]) hrest
      · exact h.rested hrest
  | distribute => exact h.distribute hlinked
  | event event => exact ⟨seen, h.event hlinked event⟩

/-- Along a run of the threads. -/
theorem run_followed (config : Config cat) (fake : Option Bool) (tick : Tick cat)
    (env : Fin maxClients → Env cat) (actions : List (ThreadAction cat))
    (hlength : actions.length < 2 ^ 64) :
    (actions.foldl (act config) (init config fake tick env)).Linked ∧
      ∃ seen, (actions.foldl (act config) (init config fake tick env)).Followed config
        actions.length seen := by
  induction actions using List.reverseRecOn with
  | nil => exact ⟨init_linked config fake tick env, _, init_followed config fake tick env⟩
  | append_singleton actions action ih =>
    rw [List.length_append, List.length_singleton] at hlength ⊢
    obtain ⟨hlinked, seen, hfollowed⟩ := ih (Nat.lt_of_succ_lt hlength)
    rw [List.foldl_append, List.foldl_cons, List.foldl_nil]
    exact ⟨(act_atomic hlinked action).1, hfollowed.acted hlinked hlength action⟩

end Following

/-- No sample is missed: whenever both threads rest and no notification is pending, the loop works with
the last sample that the sampler has taken, however the steps before were interleaved and however many
samples a notification stood for. -/
theorem run_rested (config : Config cat) (fake : Option Bool) (tick : Tick cat)
    (env : Fin maxClients → Env cat) (actions : List (ThreadAction cat))
    (hlength : actions.length < 2 ^ 64)
    (hwriter : (actions.foldl (act config) (init config fake tick env)).mailbox.writer = .idle)
    (hreader : (actions.foldl (act config) (init config fake tick env)).mailbox.reader = .idle)
    (hnotified : (actions.foldl (act config) (init config fake tick env)).mailbox.notified = false) :
    (actions.foldl (act config) (init config fake tick env)).daemon.canonical.Holds
      (samplerReadLatest (actions.foldl (act config) (init config fake tick env)).thread) := by
  obtain ⟨hlinked, seen, hfollowed⟩ := run_followed config fake tick env actions hlength
  have hthread := hlinked.thread
  rw [publishing, hwriter] at hthread
  have hseen := hfollowed.rested (by simp [Mailbox.Due, hwriter, hreader, hnotified])
  have hholds := hfollowed.holds
  rw [atomic_of_not_loaded (by simp [hreader]), hseen] at hholds
  exact hthread ▸ hholds

/-- Two samples are published before the loop looks once. -/
def coalescingActions : List (ThreadAction singleCatalog) :=
  .sample (singleTick 1 20) :: List.replicate 6 .publish ++
    .sample (singleTick 2 30) :: List.replicate 6 .publish ++
    .notification (fun _ => Env.idle) (zeroRecord singleCatalog) :: List.replicate 6 .distribute

/-- The loop looks once after two samples, and works with the second. -/
theorem run_rested_coalescing :
    (coalescingActions.foldl (act singleConfig)
      (init singleConfig none (singleTick 0 10) fun _ => Env.idle)).daemon.canonical.Holds
      (samplerReadLatest (coalescingActions.foldl (act singleConfig)
        (init singleConfig none (singleTick 0 10) fun _ => Env.idle)).thread) ∧
    (coalescingActions.foldl (act singleConfig)
      (init singleConfig none (singleTick 0 10) fun _ => Env.idle)).thread.publishedSequence = 2 :=
  ⟨run_rested singleConfig none (singleTick 0 10) (fun _ => Env.idle) coalescingActions
    (by decide) rfl rfl rfl, by decide⟩

end Threads

end Roadcast
