import Roadcast.Daemon.Stable

/-!
# Isolation of sessions

`distribute_latest_sample` and `on_heartbeat` go through all sessions in one loop over the server
state, and the first skips the loop when nobody is subscribed. Both loops treat each session on its
own (`distributeLatestSample_eq_loop`, `onHeartbeat_eq_loop`), so a session and the canonical state
make a machine that sees only the samples, the timers and the session's own events: `Solo`. The
daemon, looked at from one session, is that machine (`step_solo`), whatever the others do.
-/

namespace Roadcast

open Runs

variable {cat : Catalog}

section Loops

/-- A loop over all sessions that rewrites each of them. -/
def sweepClients (body : Canonical cat → Sampler cat → Fin maxClients → Client cat → Client cat)
    (slots : List (Fin maxClients)) (daemon : Daemon cat) : Daemon cat :=
  slots.foldl (fun daemon s =>
    daemon.setClient s (body daemon.canonical daemon.sampler s (daemon.clients s))) daemon

/-- A loop over distinct slots does to each of them what its body does to that one alone. -/
theorem sweepClients_eq
    (body : Canonical cat → Sampler cat → Fin maxClients → Client cat → Client cat)
    {slots : List (Fin maxClients)} (hnodup : slots.Nodup) (daemon : Daemon cat) :
    sweepClients body slots daemon =
      { daemon with
        clients := fun s =>
          if s ∈ slots then body daemon.canonical daemon.sampler s (daemon.clients s)
          else daemon.clients s } := by
  induction slots generalizing daemon with
  | nil => simp [sweepClients]
  | cons slot rest ih =>
    obtain ⟨hslot, hrest⟩ := List.nodup_cons.mp hnodup
    rw [sweepClients, List.foldl_cons, ← sweepClients, ih hrest, Daemon.setClient]
    congr 1
    funext s
    by_cases hs : s = slot
    · subst hs
      simp [hslot]
    · simp [hs]

/-- The loop `for (i = 0; i < MAX_CLIENTS; i++)`. -/
theorem sweepClients_finRange
    (body : Canonical cat → Sampler cat → Fin maxClients → Client cat → Client cat)
    (daemon : Daemon cat) :
    sweepClients body (List.finRange maxClients) daemon =
      { daemon with
        clients := fun s => body daemon.canonical daemon.sampler s (daemon.clients s) } := by
  rw [sweepClients_eq body (List.nodup_finRange maxClients)]
  simp

/-- The `has_subscriber` loop. -/
def hasSubscriber (daemon : Daemon cat) : Bool :=
  (List.finRange maxClients).any fun s =>
    (daemon.clients s).active && (daemon.clients s).subscribed && !(daemon.clients s).needsResync

/-- `distribute_latest_sample` with its early exits and its loop over the sessions. -/
def distributeLatestSampleLoop (config : Config cat) (env : Fin maxClients → Env cat)
    (daemon : Daemon cat) : Daemon cat :=
  let sample := samplerReadLatest daemon.sampler
  if sample.sequence ≤ daemon.canonical.sampleSequence then daemon
  else
    let consumed := { daemon with canonical := daemon.canonical.consume sample }
    let changed := differingFrames sample.frames daemon.canonical.frames
    let changedSignals :=
      differingSignals (latestSignals daemon.canonical sample) daemon.canonical.signals
    if changed = [] then consumed
    else if hasSubscriber consumed then
      sweepClients (fun canonical _ s client =>
        distributeToClient config canonical (env s) changed changedSignals client)
        (List.finRange maxClients) consumed
    else consumed

/-- `on_heartbeat` with its loop over the sessions. -/
def onHeartbeatLoop (config : Config cat) (nowNs : ℕ) (env : Fin maxClients → Env cat)
    (daemon : Daemon cat) : Daemon cat :=
  sweepClients (fun canonical sampler s client =>
    heartbeatToClient config canonical (env s) sampler.sourceState nowNs client)
    (List.finRange maxClients) { daemon with canonical := daemon.canonical.heartbeat nowNs }

/-- A distribution without changes queues nothing. -/
theorem distributeToClient_nil (config : Config cat) (canonical : Canonical cat) (env : Env cat)
    (client : Client cat) : distributeToClient config canonical env [] [] client = client := by
  have hframes : frameChunks canonical [] = [] := rfl
  have hsignals : signalChunks canonical [] = [] := rfl
  simp [distributeToClient, hframes, hsignals, fanOut]

/-- A session that is no subscriber gets nothing. -/
theorem distributeToClient_of_not_live (config : Config cat) (canonical : Canonical cat)
    (env : Env cat) (changed : List (Fin cat.frameCount))
    (changedSignals : List (Fin cat.signalCount)) {client : Client cat} (h : ¬ client.Live) :
    distributeToClient config canonical env changed changedSignals client = client := by
  refine if_pos ?_
  by_contra hskip
  simp only [not_or, Bool.not_eq_false, Bool.not_eq_true] at hskip
  exact h hskip

/-- There is no subscriber if no session is live. -/
theorem hasSubscriber_eq_false {daemon : Daemon cat} :
    hasSubscriber daemon = false ↔ ∀ s, ¬ (daemon.clients s).Live := by
  simp [hasSubscriber, Client.Live]

/-- The early exits and the shared loop make no difference to any session. -/
theorem distributeLatestSample_eq_loop (config : Config cat) (env : Fin maxClients → Env cat)
    (daemon : Daemon cat) :
    distributeLatestSample config env daemon = distributeLatestSampleLoop config env daemon := by
  unfold distributeLatestSample distributeLatestSampleLoop Canonical.delta
  dsimp only
  split
  · rename_i hold
    simp only [distributeToClient_nil, Canonical.consume, if_pos hold]
  split
  · simp only [distributeToClient_nil]
  split
  · rw [sweepClients_finRange]
  · rename_i hnone
    rw [Bool.not_eq_true, hasSubscriber_eq_false] at hnone
    congr 1
    funext s
    exact distributeToClient_of_not_live config _ (env s) _ _ (hnone s)

/-- The heartbeat of all sessions at once is the loop of the source. -/
theorem onHeartbeat_eq_loop (config : Config cat) (nowNs : ℕ) (env : Fin maxClients → Env cat)
    (daemon : Daemon cat) :
    onHeartbeat config nowNs env daemon = onHeartbeatLoop config nowNs env daemon := by
  rw [onHeartbeatLoop, sweepClients_finRange]
  rfl

end Loops

section Timing

/-- What happens to the daemon without any session: ticks of the sampler, notifications and the
heartbeat timer. -/
inductive Timing (cat : Catalog)
  | tick (tick : Tick cat)
  | sampleNotification
  | heartbeat (nowNs : ℕ)

/-- The part of an event that no session has a share in. -/
def Event.timing : Event cat → Option (Timing cat)
  | .tick taken => some (.tick taken)
  | .sampleNotification _ => some .sampleNotification
  | .heartbeat nowNs _ => some (.heartbeat nowNs)
  | _ => none

/-- The canonical state and the sampler. -/
def Daemon.source (daemon : Daemon cat) : Canonical cat × Sampler cat :=
  (daemon.canonical, daemon.sampler)

/-- How the canonical state and the sampler move. -/
def timingStep (source : Canonical cat × Sampler cat) : Timing cat → Canonical cat × Sampler cat
  | .tick tick => (source.1, samplerTick source.2 tick)
  | .sampleNotification => (source.1.consume (samplerReadLatest source.2), source.2)
  | .heartbeat nowNs => (source.1.heartbeat nowNs, source.2)

/-- No event of a session moves the canonical state or the sampler. -/
theorem step_source (config : Config cat) (daemon : Daemon cat) (event : Event cat) :
    (step config daemon event).source =
      event.timing.elim daemon.source (timingStep daemon.source) := by
  cases event with
  | tick tick => rfl
  | sampleNotification env => rfl
  | heartbeat nowNs env => rfl
  | connection connection =>
    simp only [step, onConnection]
    split
    · rfl
    split <;> rfl
  | request session env request =>
    simp only [step]
    split <;> rfl
  | disconnect session => rfl
  | writeDone session env slot failed =>
    simp only [step]
    split <;> rfl
  | closed session =>
    simp only [step]
    split <;> rfl
  | shutdown => rfl

/-- The canonical state and the sampler after a run depend on the timing alone. -/
theorem foldl_source (config : Config cat) (daemon : Daemon cat) (events : List (Event cat)) :
    (events.foldl (step config) daemon).source =
      (events.filterMap Event.timing).foldl timingStep daemon.source :=
  foldl_observe (fun _ => True) Daemon.source
    (fun event _ daemon _ => ⟨trivial, step_source config daemon event⟩) trivial

end Timing

section OneSession

/-- What one session sees of the events. -/
inductive View (cat : Catalog)
  | tick (tick : Tick cat)
  | sampleNotification (env : Env cat)
  | heartbeat (nowNs : ℕ) (env : Env cat)
  | request (env : Env cat) (request : Message)
  | disconnect
  | writeDone (env : Env cat) (slot : Fin (clientQueueSlots cat)) (failed : Bool)
  | shutdown

/-- The view that a session has of an event. Connections, the events of other sessions and what libuv
answers for them are not seen. -/
def Event.view (session : Fin maxClients) : Event cat → Option (View cat)
  | .tick taken => some (.tick taken)
  | .sampleNotification env => some (.sampleNotification (env session))
  | .heartbeat nowNs env => some (.heartbeat nowNs (env session))
  | .connection _ => none
  | .request s env message => if s = session then some (.request env message) else none
  | .disconnect s => if s = session then some .disconnect else none
  | .writeDone s env slot failed => if s = session then some (.writeDone env slot failed) else none
  | .closed _ => none
  | .shutdown => some .shutdown

/-- A daemon with one session only. -/
structure Solo (cat : Catalog) where
  canonical : Canonical cat
  sampler : Sampler cat
  client : Client cat

/-- The daemon as one of its sessions sees it. -/
def Daemon.solo (daemon : Daemon cat) (session : Fin maxClients) : Solo cat :=
  ⟨daemon.canonical, daemon.sampler, daemon.clients session⟩

/-- One event of a daemon with one session. -/
def Solo.step (config : Config cat) (solo : Solo cat) : View cat → Solo cat
  | .tick tick => { solo with sampler := samplerTick solo.sampler tick }
  | .sampleNotification env =>
    let sample := samplerReadLatest solo.sampler
    let canonical := solo.canonical.consume sample
    let delta := solo.canonical.delta sample
    { solo with
      canonical := canonical
      client := distributeToClient config canonical env delta.1 delta.2 solo.client }
  | .heartbeat nowNs env =>
    let canonical := solo.canonical.heartbeat nowNs
    { solo with
      canonical := canonical
      client :=
        heartbeatToClient config canonical env solo.sampler.sourceState nowNs solo.client }
  | .request env request =>
    if solo.client.active = false then solo
    else
      { solo with
        client := closeOnError (processCommand config solo.canonical env solo.client request) }
  | .disconnect => { solo with client := clientClose solo.client }
  | .writeDone env slot failed =>
    if (solo.client.output slot).inUse = false then solo
    else { solo with client := onClientWrite config solo.canonical env solo.client slot failed }
  | .shutdown => { solo with client := clientClose solo.client }

/-- The slot of the session is not free for a new connection. -/
def Client.Occupied (client : Client cat) : Prop := client.active = true ∨ client.closing = true

/-- A session that is closed still occupies its slot. -/
theorem Client.Occupied.clientClose {client : Client cat} (h : client.Occupied) :
    (clientClose client).Occupied := by
  unfold Roadcast.clientClose
  split
  · exact h
  · exact Or.inr rfl

/-- No update of a session frees its slot. -/
theorem occupied_kept (config : Config cat) (canonical : Canonical cat) (env : Env cat) :
    Kept config canonical env (@Client.Occupied cat) where
  pushed hpush _ _ _ := by
    obtain ⟨slot, -, -, rfl⟩ := hpush.takes
    exact Or.inl hpush.active
  welcomed hpush _ _ := by
    obtain ⟨slot, -, -, rfl⟩ := hpush.takes
    exact Or.inl hpush.active
  finished hpush _ _ := by
    obtain ⟨slot, -, -, rfl⟩ := hpush.takes
    exact Or.inl hpush.active
  scrubbed _ h := h
  closed h := h.clientClose
  released _ h := h
  overflowed _ _ hoverflow _ := by
    rw [hoverflow.eq]
    exact Or.inl hoverflow.active
  begun _ _ h := h
  advancedFrames _ h := h
  advancedSignals _ h := h
  started _ _ _ h := h
  rounded h := h
  sentFrames _ h := h
  sentSignals _ h := h
  noted _ _ h := h
  requested h := h

/-- A session keeps its slot until its close callback. -/
theorem step_occupied (config : Config cat) (daemon : Daemon cat) {event : Event cat}
    {s : Fin maxClients} (hevent : event ≠ .closed s) (h : (daemon.clients s).Occupied) :
    ((step config daemon event).clients s).Occupied := by
  rcases (occupied_kept config _ _).evolved (step_evolves config daemon event s) h with
    hoccupied | ⟨-, ⟨hactive, hclosing⟩ | ⟨hclosed, -⟩⟩
  · exact hoccupied
  · simp [Client.Occupied, hactive, hclosing] at h
  · exact absurd hclosed hevent

/-- Replacing another session changes nothing for this one. -/
theorem solo_setClient_of_ne (daemon : Daemon cat) {session s : Fin maxClients}
    (client : Client cat) (h : session ≠ s) :
    (daemon.setClient session client).solo s = daemon.solo s := by
  simp [Daemon.solo, Daemon.setClient, h.symm]

/-- The view that a session has of the daemon, with another session in its slot. -/
theorem solo_setClient_self (daemon : Daemon cat) (s : Fin maxClients) (client : Client cat) :
    (daemon.setClient s client).solo s = { daemon.solo s with client := client } := by
  simp [Daemon.solo, Daemon.setClient]

/-- A replacement behind a guard of the session. -/
theorem solo_guarded_self (daemon : Daemon cat) (s : Fin maxClients) (client : Client cat)
    (guard : Prop) [Decidable guard] :
    (if guard then daemon else daemon.setClient s client).solo s =
      if guard then daemon.solo s else { daemon.solo s with client := client } := by
  split
  · rfl
  · exact solo_setClient_self daemon s client

/-- A session does not see what a guarded event does to another one. -/
theorem solo_guarded_of_ne (daemon : Daemon cat) {session s : Fin maxClients} (client : Client cat)
    (guard : Prop) [Decidable guard] (h : session ≠ s) :
    (if guard then daemon else daemon.setClient session client).solo s = daemon.solo s := by
  split
  · rfl
  · exact solo_setClient_of_ne daemon client h

/-- A connection never takes the slot of a session. -/
theorem onConnection_solo (connection : Connection) {daemon : Daemon cat} {s : Fin maxClients}
    (h : (daemon.clients s).Occupied) : (onConnection connection daemon).solo s = daemon.solo s := by
  unfold onConnection
  split
  · rfl
  split
  · rfl
  rename_i session hsession
  obtain ⟨hactive, hclosing⟩ := findAvailableClient_inactive hsession
  refine solo_setClient_of_ne daemon _ fun hs => ?_
  subst hs
  simp [Client.Occupied, hactive, hclosing] at h

/-- Until its close callback, a session sees a daemon of its own. -/
theorem step_solo (config : Config cat) {daemon : Daemon cat} {event : Event cat}
    {s : Fin maxClients} (hevent : event ≠ .closed s) (h : (daemon.clients s).Occupied) :
    (step config daemon event).solo s =
      (event.view s).elim (daemon.solo s) ((daemon.solo s).step config) := by
  cases event with
  | tick tick => rfl
  | sampleNotification env => rfl
  | heartbeat nowNs env => rfl
  | connection connection => exact onConnection_solo connection h
  | request session env request =>
    simp only [step, Event.view]
    by_cases hs : session = s
    · subst hs
      rw [if_pos rfl, solo_guarded_self]
      rfl
    · rw [if_neg hs]
      exact solo_guarded_of_ne daemon _ _ hs
  | disconnect session =>
    simp only [step, Event.view]
    by_cases hs : session = s
    · subst hs
      rw [if_pos rfl, solo_setClient_self]
      rfl
    · rw [if_neg hs]
      exact solo_setClient_of_ne daemon _ hs
  | writeDone session env slot failed =>
    simp only [step, Event.view]
    by_cases hs : session = s
    · subst hs
      rw [if_pos rfl, solo_guarded_self]
      rfl
    · rw [if_neg hs]
      exact solo_guarded_of_ne daemon _ _ hs
  | closed session =>
    have hs : session ≠ s := fun heq => hevent (heq ▸ rfl)
    exact solo_guarded_of_ne daemon _ _ hs
  | shutdown => rfl

/-- The daemon after the life of a session, as the session sees it, depends on its view alone. -/
theorem foldl_solo (config : Config cat) {daemon : Daemon cat} {life : List (Event cat)}
    {s : Fin maxClients} (hopen : .closed s ∉ life) (h : (daemon.clients s).Occupied) :
    (life.foldl (step config) daemon).solo s =
      (life.filterMap (Event.view s)).foldl (Solo.step config) (daemon.solo s) := by
  refine foldl_observe (fun daemon : Daemon cat => (daemon.clients s).Occupied)
    (fun daemon => daemon.solo s) (fun event hevent daemon hoccupied => ?_) h
  have hnot : event ≠ .closed s := fun heq => hopen (heq ▸ hevent)
  exact ⟨step_occupied config daemon hnot hoccupied, step_solo config hnot hoccupied⟩

end OneSession

/-- `on_connection` accepts a session. -/
structure Accepts (daemon : Daemon cat) (connection : Connection) (session : Fin maxClients)
    (uid : UInt32) (nowNs : ℕ) : Prop where
  running : daemon.shuttingDown = false
  slot : findAvailableClient daemon = some session
  pipeInit : connection.pipeInit = true
  accepted : connection.accepted = true
  peerUid : connection.peerUid = some uid
  quota : activeClientsForUid daemon uid < maxClientsPerUid
  readStart : connection.readStart = true
  clock : connection.nowNs = nowNs

/-- A connection that is accepted puts a new session into a free slot. -/
theorem Accepts.step_eq (config : Config cat) {daemon : Daemon cat} {connection : Connection}
    {session : Fin maxClients} {uid : UInt32} {nowNs : ℕ}
    (h : Accepts daemon connection session uid nowNs) :
    step config daemon (.connection connection) =
      daemon.setClient session (Client.accepted uid nowNs) := by
  have hquota : ¬ activeClientsForUid daemon uid ≥ maxClientsPerUid := Nat.not_le.mpr h.quota
  simp [step, onConnection, connectedClient, h.running, h.slot, h.pipeInit, h.accepted, h.peerUid,
    hquota, h.readStart, h.clock]

/-- What an accepted session sees of its life starts from its new record. -/
theorem Accepts.life_solo {config : Config cat} {fake : Option Bool} {tick : Tick cat}
    {before life : List (Event cat)} {connection : Connection} {session : Fin maxClients}
    {uid : UInt32} {nowNs : ℕ}
    (h : Accepts (run config fake tick before) connection session uid nowNs)
    (hopen : .closed session ∉ life) :
    (run config fake tick (before ++ .connection connection :: life)).solo session =
      (life.filterMap (Event.view session)).foldl (Solo.step config)
        (((run config fake tick before).setClient session (Client.accepted uid nowNs)).solo
          session) := by
  have hoccupied : (((run config fake tick before).setClient session
      (Client.accepted uid nowNs)).clients session).Occupied := by
    rw [Daemon.setClient_self]
    exact Or.inl rfl
  rw [run, List.foldl_append, List.foldl_cons, ← run, h.step_eq, foldl_solo config hopen hoccupied]

/-- Two runs with the same samples, timers and clock, in both of which a session is accepted that
then sees the same events of its own: whatever the other sessions do in either run, and in whichever
slots they all are, the record of the session is the same until its close callback, with every
message that was queued to it, and the canonical state is the same throughout. -/
theorem run_isolated (config : Config cat) (fake : Option Bool) (tick : Tick cat)
    {before₁ before₂ life₁ life₂ rest₁ rest₂ : List (Event cat)}
    {connection₁ connection₂ : Connection} {a₁ a₂ : Fin maxClients} {uid : UInt32} {nowNs : ℕ}
    (hbefore : before₁.filterMap Event.timing = before₂.filterMap Event.timing)
    (haccepts₁ : Accepts (run config fake tick before₁) connection₁ a₁ uid nowNs)
    (haccepts₂ : Accepts (run config fake tick before₂) connection₂ a₂ uid nowNs)
    (hlife : life₁.filterMap (Event.view a₁) = life₂.filterMap (Event.view a₂))
    (hopen₁ : .closed a₁ ∉ life₁) (hopen₂ : .closed a₂ ∉ life₂)
    (hrest : rest₁.filterMap Event.timing = rest₂.filterMap Event.timing) :
    (run config fake tick (before₁ ++ .connection connection₁ :: life₁)).clients a₁ =
        (run config fake tick (before₂ ++ .connection connection₂ :: life₂)).clients a₂ ∧
      (run config fake tick (before₁ ++ .connection connection₁ :: life₁ ++ rest₁)).canonical =
        (run config fake tick (before₂ ++ .connection connection₂ :: life₂ ++ rest₂)).canonical := by
  have hsource : (run config fake tick before₁).source = (run config fake tick before₂).source := by
    rw [run, run, foldl_source, foldl_source, hbefore]
  obtain ⟨hcanonical, hsampler⟩ := Prod.mk.inj hsource
  have hstart : ((run config fake tick before₁).setClient a₁ (Client.accepted uid nowNs)).solo a₁ =
      ((run config fake tick before₂).setClient a₂ (Client.accepted uid nowNs)).solo a₂ := by
    rw [solo_setClient_self, solo_setClient_self, Daemon.solo, Daemon.solo, hcanonical, hsampler]
  have hsolo : (run config fake tick (before₁ ++ .connection connection₁ :: life₁)).solo a₁ =
      (run config fake tick (before₂ ++ .connection connection₂ :: life₂)).solo a₂ := by
    rw [haccepts₁.life_solo hopen₁, haccepts₂.life_solo hopen₂, hlife, hstart]
  refine ⟨congrArg Solo.client hsolo, ?_⟩
  have hlater : (run config fake tick (before₁ ++ .connection connection₁ :: life₁)).source =
      (run config fake tick (before₂ ++ .connection connection₂ :: life₂)).source :=
    Prod.ext (congrArg Solo.canonical hsolo) (congrArg Solo.sampler hsolo)
  have hend := foldl_source config
    (run config fake tick (before₁ ++ .connection connection₁ :: life₁)) rest₁
  rw [hlater, hrest, ← foldl_source config, run, ← List.foldl_append, run, ← List.foldl_append]
    at hend
  exact congrArg Prod.fst hend

/-- A session that connects and says hello. -/
def helloOf (session : Fin maxClients) : Event singleCatalog :=
  .request session Env.idle (outgoing .hello 0 0 encodeHello)

/-- The second session slot. -/
def secondSession : Fin maxClients := ⟨1, by decide⟩

/-- A session is greeted and sees a sample, once alone and once next to a session that connects
first, sends a request it may not send and goes away. -/
theorem run_isolated_crowded :
    let alone := run singleConfig none (singleTick 0 10)
      ([] ++ .connection ⟨true, true, some 0, true, 5⟩ :: (helloOf firstSession :: singleSample 1 20)
        ++ [])
    let crowded := run singleConfig none (singleTick 0 10)
      ([.connection ⟨true, true, some 7, true, 3⟩] ++ .connection ⟨true, true, some 0, true, 5⟩ ::
        ([singleRequest .ping [], helloOf secondSession, .closed firstSession] ++ singleSample 1 20)
        ++ [])
    (crowded.clients secondSession).log.length = 1 ∧
      (alone.clients firstSession = crowded.clients secondSession ∧
        alone.canonical = crowded.canonical) := by
  refine ⟨by decide +kernel, ?_⟩
  have halone : Accepts (run singleConfig none (singleTick 0 10) []) ⟨true, true, some 0, true, 5⟩
      firstSession 0 5 :=
    ⟨rfl, by decide +kernel, rfl, rfl, rfl, by decide +kernel, rfl, rfl⟩
  have hcrowded : Accepts (run singleConfig none (singleTick 0 10)
      [.connection ⟨true, true, some 7, true, 3⟩]) ⟨true, true, some 0, true, 5⟩
      secondSession 0 5 :=
    ⟨rfl, by decide +kernel, rfl, rfl, rfl, by decide +kernel, rfl, rfl⟩
  refine run_isolated singleConfig none (singleTick 0 10) ?_ halone hcrowded ?_ ?_ ?_ rfl
  · rfl
  · rfl
  · simp [helloOf, singleSample]
  · simp [helloOf, singleSample, singleRequest, firstSession, secondSession]

end Roadcast
