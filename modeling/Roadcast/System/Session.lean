import Roadcast.Sdk.Steps

/-!
# The daemon and one SDK session

A run of the daemon together with the requests that it has handled for one session. `WireOrder` says
that a request of the session is the next one that the SDK has sent, given that the SDK has received
some part of what was queued to it; messages and requests may be in flight for any time. The header of
a request carries the time at which it was sent. The daemon does not look at it, so a request is the
next one whatever its time is, and `SdkOrder` is the order of requests without times.

`Watched` is the daemon with the number of requests that it has handled for the session. The order
is checked against the SDK that has received everything queued so far, which has sent every request
that an SDK with less of the stream has sent.
-/

namespace Roadcast

open DeltaSync Runs

variable {cat : Catalog} {config : Config cat} {canonical : Canonical cat}

/-- The message of a history entry. -/
def LogEntry.message : LogEntry cat → Option Message
  | .queued message _ => some message
  | _ => none

/-- The messages that were queued to a session, in order. -/
def queuedMessages (log : List (LogEntry cat)) : List Message := log.filterMap LogEntry.message

/-- The SDK once it has received everything that was queued to it. -/
def Client.sdk (client : Client cat) : Sdk := Sdk.after (queuedMessages client.log)

/-- The daemon and the number of requests that it has handled for one session. -/
structure Watched (cat : Catalog) where
  daemon : Daemon cat
  handled : ℕ

/-- The event is a request of the session. -/
def Event.isRequestOf (s : Fin maxClients) : Event cat → Bool
  | .request session _ _ => decide (session = s)
  | _ => false

/-- One event, with the requests of a session counted. A session starts with none. -/
def watchStep (config : Config cat) (s : Fin maxClients) (watched : Watched cat)
    (event : Event cat) : Watched cat :=
  let next := step config watched.daemon event
  { daemon := next
    handled :=
      if (next.clients s).active = false then 0
      else if (watched.daemon.clients s).active = true ∧ event.isRequestOf s = true then
        watched.handled + 1
      else watched.handled }

/-- The start of a run. -/
def watchInit (config : Config cat) (fake : Option Bool) (tick : Tick cat) : Watched cat :=
  ⟨daemonInit config fake tick, 0⟩

/-- Watching a session does not change the run. -/
theorem foldl_watchStep (config : Config cat) (s : Fin maxClients) (events : List (Event cat))
    (watched : Watched cat) :
    (events.foldl (watchStep config s) watched).daemon =
      events.foldl (step config) watched.daemon := by
  induction events generalizing watched with
  | nil => rfl
  | cons event rest ih => exact ih (watchStep config s watched event)

/-- A run is what a watched run does to the daemon. -/
theorem run_eq_watched (config : Config cat) (fake : Option Bool) (tick : Tick cat)
    (events : List (Event cat)) (s : Fin maxClients) :
    run config fake tick events =
      (events.foldl (watchStep config s) (watchInit config fake tick)).daemon :=
  (foldl_watchStep config s events (watchInit config fake tick)).symm

/-- A request of the session is the next one of the SDK, which has received some part of what was
queued to it. -/
def SdkOrder (s : Fin maxClients) (watched : Watched cat) (event : Event cat) : Prop :=
  ∀ env request, event = .request s env request → (watched.daemon.clients s).active = true →
    ∃ received, received <+: queuedMessages (watched.daemon.clients s).log ∧
      (Sdk.after received).sent[watched.handled]? = some request

/-- What the SDK has sent it has also sent once it has received more. -/
theorem sdkOrder_sent {s : Fin maxClients} {watched : Watched cat} {event : Event cat}
    (h : SdkOrder s watched event) :
    ∀ env request, event = .request s env request → (watched.daemon.clients s).active = true →
      (watched.daemon.clients s).sdk.sent[watched.handled]? = some request := by
  rintro env request rfl hactive
  obtain ⟨received, hreceived, hsent⟩ := h env request rfl hactive
  obtain ⟨rest, hrest⟩ := Sdk.after_sent hreceived
  obtain ⟨hlt, -⟩ := List.getElem?_eq_some_iff.mp hsent
  rw [Client.sdk, ← hrest, List.getElem?_append_left hlt]
  exact hsent

/-- The order can be checked against the SDK that has received everything. -/
instance (s : Fin maxClients) (watched : Watched cat) (event : Event cat) :
    Decidable (SdkOrder s watched event) :=
  match event with
  | .request session env request =>
    decidable_of_iff (session = s → (watched.daemon.clients s).active = true →
      (watched.daemon.clients s).sdk.sent[watched.handled]? = some request) <| by
      constructor
      · rintro h _ _ heq hactive
        injection heq with hsession _ hrequest
        exact ⟨_, List.prefix_rfl, hrequest ▸ h hsession hactive⟩
      · rintro h rfl hactive
        exact sdkOrder_sent h env request rfl hactive
  | .tick _ | .sampleNotification _ | .heartbeat _ _ | .connection _ | .writeDone _ _ _ _
  | .disconnect _ | .closed _ | .shutdown => isTrue nofun

/-! ## Requests on the wire -/

/-- The event with no time in the header of its request. -/
def Event.unstamped : Event cat → Event cat
  | .request session env message => .request session env (message.stamped 0)
  | event => event

/-- The daemon does not look at the time of a request. -/
theorem step_unstamped (config : Config cat) (daemon : Daemon cat) (event : Event cat) :
    step config daemon event.unstamped = step config daemon event := by
  cases event with
  | request session env request => rfl
  | _ => rfl

/-- Nor do the requests counted depend on it. -/
theorem watchStep_unstamped (config : Config cat) (s : Fin maxClients) (watched : Watched cat)
    (event : Event cat) :
    watchStep config s watched event.unstamped = watchStep config s watched event := by
  have hrequest : event.unstamped.isRequestOf s = event.isRequestOf s := by
    cases event with
    | _ => rfl
  rw [watchStep, watchStep, step_unstamped, hrequest]

/-- A request of the session is the next one of the SDK, with any time in its header. -/
def WireOrder (s : Fin maxClients) (watched : Watched cat) (event : Event cat) : Prop :=
  SdkOrder s watched event.unstamped

instance (s : Fin maxClients) (watched : Watched cat) (event : Event cat) :
    Decidable (WireOrder s watched event) :=
  inferInstanceAs (Decidable (SdkOrder s watched event.unstamped))

/-- Without the times of the requests, a run is in SDK order and ends in the same state. -/
theorem wireOrder_unstamped {fake : Option Bool} {tick : Tick cat} {events : List (Event cat)}
    {s : Fin maxClients}
    (horder : Meets (watchStep config s) (WireOrder s) (watchInit config fake tick) events) :
    Meets (watchStep config s) (SdkOrder s) (watchInit config fake tick)
      (events.map Event.unstamped) ∧
    run config fake tick (events.map Event.unstamped) = run config fake tick events :=
  ⟨horder.map (watchStep_unstamped config s),
    foldl_map_same (step_unstamped config) (daemonInit config fake tick) events⟩

section History

/-- A new entry of the history adds its message. -/
theorem queuedMessages_append (log : List (LogEntry cat)) (entry : LogEntry cat) :
    queuedMessages (log ++ [entry]) = queuedMessages log ++ entry.message.toList := by
  rw [queuedMessages, List.filterMap_append]
  cases entry <;> rfl

/-- Queueing a message hands it to the SDK. -/
theorem Pushes.sdk {message : Message} {client client' : Client cat}
    (h : Pushes config canonical message client client') :
    client'.sdk = client.sdk.receive message := by
  obtain ⟨slot, -, -, rfl⟩ := h.takes
  rw [Client.sdk, Client.record, queuedMessages_append]
  exact Sdk.after_append _ message

variable (canonical) (env : Env cat) (client : Client cat)

/-- A snapshot that begins queues nothing. -/
@[simp] theorem beginSnapshot_sdk : (beginSnapshot canonical env client).sdk = client.sdk := by
  simp [Client.sdk, beginSnapshot, queuedMessages_append, LogEntry.message]

/-- A round that begins queues nothing. -/
@[simp] theorem beginCatchupRound_sdk : (beginCatchupRound canonical client).sdk = client.sdk := by
  simp [Client.sdk, beginCatchupRound, queuedMessages_append, LogEntry.message]

/-- A message that is dropped does not reach the SDK. -/
@[simp] theorem Client.overflow_sdk (type : MessageType) (nowNs : ℕ) :
    (client.overflow type nowNs).sdk = client.sdk := by
  simp [Client.sdk, Client.overflow, queuedMessages_append, LogEntry.message]

end History

/-- The requests that the SDK has sent and the daemon has not handled. -/
def Outstanding (sdk : Sdk) (handled : ℕ) (requests : List Message) : Prop :=
  ∃ answered : List Message, sdk.sent = answered ++ requests ∧ answered.length = handled

namespace Outstanding

variable {sdk sdk' : Sdk} {handled : ℕ} {request : Message}

/-- The next request is the first outstanding one. -/
theorem head {requests : List Message} (h : Outstanding sdk handled requests)
    (hsent : sdk.sent[handled]? = some request) : requests.head? = some request := by
  obtain ⟨answered, hall, hlength⟩ := h
  rw [hall, List.getElem?_append_right hlength.le, hlength, Nat.sub_self] at hsent
  rwa [List.head?_eq_getElem?]

/-- The answer to the outstanding request brings the next one. -/
theorem next {request' : Message} (h : Outstanding sdk handled [request])
    (hsent : sdk'.sent = sdk.sent ++ [request']) : Outstanding sdk' (handled + 1) [request'] := by
  obtain ⟨answered, hall, hlength⟩ := h
  exact ⟨sdk.sent, hsent, by rw [hall, List.length_append, hlength]; rfl⟩

/-- The answer to the outstanding request brings no other. -/
theorem last (h : Outstanding sdk handled [request]) (hsent : sdk'.sent = sdk.sent) :
    Outstanding sdk' (handled + 1) [] := by
  obtain ⟨answered, hall, hlength⟩ := h
  exact ⟨sdk.sent, by rw [hsent, List.append_nil], by rw [hall, List.length_append, hlength]; rfl⟩

/-- A message that answers nothing makes the SDK send a request. -/
theorem asked (h : Outstanding sdk handled []) (hsent : sdk'.sent = sdk.sent ++ [request]) :
    Outstanding sdk' handled [request] := by
  obtain ⟨answered, hall, hlength⟩ := h
  exact ⟨answered, by rw [hsent, hall, List.append_nil], hlength⟩

/-- A message that makes the SDK send nothing leaves the requests outstanding. -/
theorem of_sent {requests : List Message} (h : Outstanding sdk handled requests)
    (hsent : sdk'.sent = sdk.sent) : Outstanding sdk' handled requests := by
  obtain ⟨answered, hall, hlength⟩ := h
  exact ⟨answered, hsent.trans hall, hlength⟩

end Outstanding

end Roadcast
