import Roadcast.Daemon.Stable
import Roadcast.Lib.Framing

/-!
# The input of a session

`allocate_client_input`, `on_client_read` and `process_client_input`. A session keeps the bytes of an
unfinished request in a buffer of `CLIENT_INPUT_CAP` bytes; a read appends to it and then processes
every request that is complete.

The code never looks at what `process_command` does, only at whether it fails, so it is modelled for
any state and any command. Requests are then the messages that a splitter finds in the whole stream,
and the reads that brought it do not matter. For the sessions of the daemon a read is a sequence of
`request` events.
-/

namespace Roadcast

open Framing

/-- What the input code calls: `process_command`, which may change the session also when it fails,
and `client_close`. -/
structure InputHandlers (S : Type*) where
  command : S → Message → Except S S
  close : S → S

/-- The fields of a session that the input code uses. `input` is the part of the buffer below
`input_length`; `state` is everything else. -/
structure InputSession (S : Type*) where
  active : Bool
  input : List UInt8
  state : S

/-- The outcome of a read: an error or the end of the stream, or some bytes. -/
inductive InputRead
  | failed
  | bytes (data : List UInt8)

section Model

variable {S : Type*} (handlers : InputHandlers S)

/-- The loop of `process_client_input` from the offset `consumed`, for at most `fuel` requests. -/
def processRequests (input : List UInt8) : ℕ → ℕ → S → Except S (ℕ × S)
  | 0, consumed, state => .ok (consumed, state)
  | fuel + 1, consumed, state =>
    if input.length - consumed < headerSize then .ok (consumed, state)
    else
      match decodeHeader (input.drop consumed) with
      | none => .error state
      | some header =>
        if header.payloadBytes.toNat > clientInputCap - headerSize then .error state
        else if input.length - consumed < headerSize + header.payloadBytes.toNat then
          .ok (consumed, state)
        else
          match handlers.command state
            ⟨header, (input.drop (consumed + headerSize)).take header.payloadBytes.toNat⟩ with
          | .error failed => .error failed
          | .ok state' =>
            processRequests input fuel (consumed + (headerSize + header.payloadBytes.toNat)) state'

/-- `process_client_input`. Every round of the loop consumes a header, so there are fewer rounds than
bytes. -/
def processClientInput (session : InputSession S) : Except (InputSession S) (InputSession S) :=
  match processRequests handlers session.input session.input.length 0 session.state with
  | .error failed => .error { session with state := failed }
  | .ok (consumed, state) =>
    let processed := { session with input := session.input.drop consumed, state := state }
    if processed.input.length = clientInputCap then .error processed else .ok processed

/-- `client_close`, as the input code sees it. -/
def InputSession.close (session : InputSession S) : InputSession S :=
  { session with active := false, state := handlers.close session.state }

/-- The size of the buffer that `allocate_client_input` offers. -/
def allocateClientInput (session : InputSession S) : ℕ :=
  if session.active = false ∨ session.input.length ≥ clientInputCap then 0
  else clientInputCap - session.input.length

/-- `on_client_read`. -/
def onClientRead (session : InputSession S) (read : InputRead) : InputSession S :=
  match read with
  | .failed => session.close handlers
  | .bytes data =>
    if data = [] then session
    else
      match processClientInput handlers { session with input := session.input ++ data } with
      | .error failed => failed.close handlers
      | .ok processed => processed

/-- One more read from the stream. `client_close` stops the reads of a session. -/
def readStream (session : InputSession S) (data : List UInt8) : InputSession S :=
  if session.active then onClientRead handlers session (.bytes data) else session

/-- A session that has read nothing. -/
def InputSession.opened (state : S) : InputSession S := ⟨true, [], state⟩

/-- The handlers with the requests recorded that `process_command` was called for. -/
def InputHandlers.recording : InputHandlers (S × List Message) where
  command state request :=
    match handlers.command state.1 request with
    | .error failed => .error (failed, state.2 ++ [request])
    | .ok state' => .ok (state', state.2 ++ [request])
  close state := (handlers.close state.1, state.2)

end Model

/-- The request at the front of a stream. -/
def nextRequest (stream : List UInt8) : Next UInt8 Message :=
  if stream.length < headerSize then .incomplete
  else
    match decodeHeader stream with
    | none => .malformed
    | some header =>
      if header.payloadBytes.toNat > clientInputCap - headerSize then .malformed
      else if stream.length < headerSize + header.payloadBytes.toNat then .incomplete
      else
        .message ⟨header, (stream.drop headerSize).take header.payloadBytes.toNat⟩
          (stream.drop (headerSize + header.payloadBytes.toNat))

section Splitting

variable {stream : List UInt8}

/-- A message is a whole header and the payload it announces. -/
theorem nextRequest_message {request : Message} {rest : List UInt8}
    (h : nextRequest stream = .message request rest) :
    decodeHeader stream = some request.header ∧
      request.header.payloadBytes.toNat ≤ clientInputCap - headerSize ∧
      headerSize + request.header.payloadBytes.toNat ≤ stream.length ∧
      request.payload = (stream.drop headerSize).take request.header.payloadBytes.toNat ∧
      rest = stream.drop (headerSize + request.header.payloadBytes.toNat) := by
  unfold nextRequest at h
  split at h
  · contradiction
  split at h
  · contradiction
  rename_i header hheader
  split at h
  · contradiction
  rename_i hsmall
  split at h
  · contradiction
  rename_i hcomplete
  obtain ⟨rfl, rfl⟩ := Next.message.inj h
  exact ⟨hheader, Nat.not_lt.mp hsmall, Nat.not_lt.mp hcomplete, rfl, rfl⟩

/-- A malformed front has a whole header that is refused. -/
theorem nextRequest_malformed (h : nextRequest stream = .malformed) :
    headerSize ≤ stream.length ∧
      (decodeHeader stream = none ∨ ∃ header, decodeHeader stream = some header ∧
        header.payloadBytes.toNat > clientInputCap - headerSize) := by
  unfold nextRequest at h
  split at h
  · contradiction
  rename_i hlength
  refine ⟨Nat.not_lt.mp hlength, ?_⟩
  split at h
  · rename_i hheader
    exact Or.inl hheader
  · rename_i header hheader
    split at h
    · rename_i hlarge
      exact Or.inr ⟨header, hheader, hlarge⟩
    · split at h
      · contradiction
      · contradiction

/-- An unfinished request does not fill the buffer. -/
theorem length_of_nextRequest_incomplete (h : nextRequest stream = .incomplete) :
    stream.length < clientInputCap := by
  unfold nextRequest at h
  have hcap : headerSize + (clientInputCap - headerSize) = clientInputCap := by decide
  split at h
  · omega
  split at h
  · contradiction
  split at h
  · contradiction
  split at h
  · omega
  · contradiction

/-- Requests are found in a stream whatever follows them. -/
def requestSplitter : Splitter UInt8 Message where
  next := nextRequest
  shorter h := by
    obtain ⟨-, -, hcomplete, -, rfl⟩ := nextRequest_message h
    have hpos : 0 < headerSize := by decide
    rw [List.length_drop]
    omega
  message_append more h := by
    obtain ⟨hheader, hsmall, hcomplete, hpayload, hrest⟩ := nextRequest_message h
    rename_i stream request rest
    have hlength : headerSize + request.header.payloadBytes.toNat ≤ (stream ++ more).length := by
      rw [List.length_append]
      omega
    have hdrop : (stream ++ more).drop headerSize = stream.drop headerSize ++ more :=
      List.drop_append_of_le_length (by omega)
    have htake : (stream.drop headerSize ++ more).take request.header.payloadBytes.toNat =
        (stream.drop headerSize).take request.header.payloadBytes.toNat :=
      List.take_append_of_le_length (by rw [List.length_drop]; omega)
    rw [nextRequest, if_neg (by omega), decodeHeader_append more (by omega), hheader]
    dsimp only
    rw [if_neg (by omega), if_neg (by omega), hdrop, htake,
      List.drop_append_of_le_length hcomplete, ← hpayload, ← hrest]
  malformed_append more h := by
    obtain ⟨hlength, hrefused⟩ := nextRequest_malformed h
    have hlength' := hlength.trans (Nat.le_add_right _ more.length)
    rw [← List.length_append] at hlength'
    rw [nextRequest, if_neg (Nat.not_lt.mpr hlength'), decodeHeader_append more hlength]
    rcases hrefused with hheader | ⟨header, hheader, hlarge⟩
    · rw [hheader]
    · rw [hheader]
      exact if_pos hlarge

/-- A framed message that fits the buffer is found in front of whatever follows it. -/
theorem nextRequest_encode {request : Message} (hframed : request.Framed)
    (hfits : request.payload.length ≤ clientInputCap - headerSize) (rest : List UInt8) :
    nextRequest (request.encode ++ rest) = .message request rest := by
  obtain ⟨hannounced, hmax⟩ := hframed
  have hstream : request.encode ++ rest =
      encodeHeader request.header ++ (request.payload ++ rest) := List.append_assoc _ _ _
  have hheader := decodeHeader_encodeHeader request.header (request.payload ++ rest) (by omega)
  have hdrop : (encodeHeader request.header ++ (request.payload ++ rest)).drop headerSize =
      request.payload ++ rest := List.drop_left' (encodeHeader_length _)
  have hlength : (encodeHeader request.header ++ (request.payload ++ rest)).length =
      headerSize + (request.payload.length + rest.length) := by
    rw [List.length_append, List.length_append, encodeHeader_length]
  rw [hstream, nextRequest, if_neg (by omega), hheader]
  dsimp only
  rw [if_neg (by omega), if_neg (by omega), ← List.drop_drop, hdrop, hannounced, List.take_left,
    List.drop_left]

/-- A stream of framed messages is served message by message, and nothing of it is kept. -/
theorem serve_encode {S : Type*} (command : S → Message → Except S S) (state : S)
    (requests : List Message) (h : ∀ request ∈ requests, request.Framed ∧
      request.payload.length ≤ clientInputCap - headerSize) :
    requestSplitter.serve command state (requests.flatMap Message.encode) =
      match requests.foldlM command state with
      | .error failed => .closed failed
      | .ok state' => .kept state' [] := by
  induction requests generalizing state with
  | nil => exact serve_incomplete rfl
  | cons request requests ih =>
    obtain ⟨hframed, hfits⟩ := h request List.mem_cons_self
    have hnext : requestSplitter.next (request.encode ++ requests.flatMap Message.encode) =
        .message request (requests.flatMap Message.encode) := nextRequest_encode hframed hfits _
    rw [List.flatMap_cons, serve_message hnext, List.foldlM_cons]
    cases hcommand : command state request with
    | error failed => rfl
    | ok state' => exact ih state' fun request hmem => h request (List.mem_cons_of_mem _ hmem)

end Splitting

section Refinement

variable {S : Type*} {handlers : InputHandlers S}

/-- What the receiver of a framed stream leaves, as a session. -/
def Agrees (handlers : InputHandlers S) (session : InputSession S) : Served S UInt8 → Prop
  | .kept state leftover => session = ⟨true, leftover, state⟩
  | .closed state => session.active = false ∧ session.state = handlers.close state

/-- One round of the loop of `process_client_input` looks for a request. -/
theorem processRequests_succ (input : List UInt8) (fuel consumed : ℕ) (state : S) :
    processRequests handlers input (fuel + 1) consumed state =
      match nextRequest (input.drop consumed) with
      | .incomplete => .ok (consumed, state)
      | .malformed => .error state
      | .message request _ =>
        match handlers.command state request with
        | .error failed => .error failed
        | .ok state' => processRequests handlers input fuel
            (consumed + (headerSize + request.header.payloadBytes.toNat)) state' := by
  rw [processRequests, nextRequest, List.length_drop]
  by_cases hshort : input.length - consumed < headerSize
  · rw [if_pos hshort, if_pos hshort]
  rw [if_neg hshort, if_neg hshort]
  cases decodeHeader (input.drop consumed) with
  | none => rfl
  | some header =>
    dsimp only
    by_cases hlarge : header.payloadBytes.toNat > clientInputCap - headerSize
    · rw [if_pos hlarge, if_pos hlarge]
    rw [if_neg hlarge, if_neg hlarge]
    by_cases hshort : input.length - consumed < headerSize + header.payloadBytes.toNat
    · rw [if_pos hshort, if_pos hshort]
    rw [if_neg hshort, if_neg hshort, List.drop_drop]

/-- The loop serves the rest of the buffer, if its fuel is enough. -/
theorem processRequests_eq (handlers : InputHandlers S) (input : List UInt8)
    (fuel consumed : ℕ) (state : S) (hfuel : input.length - consumed ≤ fuel) :
    match requestSplitter.serve handlers.command state (input.drop consumed) with
    | .kept state' leftover => ∃ consumed',
        processRequests handlers input fuel consumed state = .ok (consumed', state') ∧
          input.drop consumed' = leftover
    | .closed failed => processRequests handlers input fuel consumed state = .error failed := by
  induction fuel generalizing consumed state with
  | zero =>
    have hnext : requestSplitter.next (input.drop consumed) = .incomplete := by
      show nextRequest _ = _
      rw [nextRequest, if_pos]
      rw [List.length_drop]
      exact Nat.lt_of_le_of_lt hfuel (by decide)
    rw [serve_incomplete hnext]
    exact ⟨consumed, rfl, rfl⟩
  | succ fuel ih =>
    rw [processRequests_succ]
    cases hnext : nextRequest (input.drop consumed) with
    | incomplete =>
      rw [serve_incomplete (show requestSplitter.next _ = _ from hnext)]
      exact ⟨consumed, rfl, rfl⟩
    | malformed => rw [serve_malformed (show requestSplitter.next _ = _ from hnext)]
    | message request rest =>
      rw [serve_message (show requestSplitter.next _ = _ from hnext)]
      dsimp only
      cases handlers.command state request with
      | error failed => rfl
      | ok state' =>
        obtain ⟨-, -, hcomplete, -, rfl⟩ := nextRequest_message hnext
        rw [List.length_drop] at hcomplete
        rw [List.drop_drop]
        refine ih _ state' ?_
        have hpos : 0 < headerSize := by decide
        omega

/-- A read leaves the session as the receiver of the stream is left. An unfinished request is shorter
than the buffer, so the check for a full buffer never fails. -/
theorem onClientRead_agrees (state : S) (leftover data : List UInt8)
    (hwaiting : requestSplitter.next leftover = .incomplete) :
    Agrees handlers (onClientRead handlers ⟨true, leftover, state⟩ (.bytes data))
      (requestSplitter.serve handlers.command state (leftover ++ data)) := by
  by_cases hempty : data = []
  · rw [hempty, List.append_nil, serve_incomplete hwaiting]
    rfl
  have hloop := processRequests_eq handlers (leftover ++ data) (leftover ++ data).length 0 state
    (Nat.sub_le _ _)
  rw [List.drop_zero] at hloop
  simp only [onClientRead, if_neg hempty, processClientInput]
  cases hserved : requestSplitter.serve handlers.command state (leftover ++ data) with
  | kept state' leftover' =>
    rw [hserved] at hloop
    obtain ⟨consumed, hloop, hrest⟩ := hloop
    have hshort := length_of_nextRequest_incomplete (next_of_serve_kept hserved)
    rw [hloop]
    dsimp only
    rw [hrest, if_neg (Nat.ne_of_lt hshort)]
    rfl
  | closed failed =>
    rw [hserved] at hloop
    rw [hloop]
    exact ⟨rfl, rfl⟩

/-- The reads of a session leave it as their concatenation would. -/
theorem foldl_readStream_agrees (state : S) (reads : List (List UInt8)) :
    Agrees handlers (reads.foldl (readStream handlers) (.opened state))
      (requestSplitter.serve handlers.command state reads.flatten) := by
  -- induction from the last read: the session before it agrees with what the others brought
  induction reads using List.reverseRecOn with
  | nil =>
    have hnext : requestSplitter.next [] = .incomplete := rfl
    rw [List.flatten_nil, serve_incomplete hnext]
    rfl
  | append_singleton reads data ih =>
    rw [List.foldl_append, List.foldl_cons, List.foldl_nil, List.flatten_append, List.flatten_singleton,
      serve_append]
    cases hserved : requestSplitter.serve handlers.command state reads.flatten with
    | kept state' leftover =>
      rw [hserved] at ih
      have hsession : reads.foldl (readStream handlers) (.opened state) = ⟨true, leftover, state'⟩ := ih
      rw [hsession]
      exact onClientRead_agrees state' leftover data (next_of_serve_kept hserved)
    | closed failed =>
      rw [hserved] at ih
      obtain ⟨hactive, hstate⟩ := ih
      rw [readStream, hactive]
      exact ⟨hactive, hstate⟩

/-- What is left of the buffer after the loop is an unfinished request. -/
theorem length_of_processRequests {input : List UInt8} {state state' : S} {consumed : ℕ}
    (h : processRequests handlers input input.length 0 state = .ok (consumed, state')) :
    (input.drop consumed).length < clientInputCap := by
  have hloop := processRequests_eq handlers input input.length 0 state (Nat.sub_le _ _)
  rw [List.drop_zero] at hloop
  cases hserved : requestSplitter.serve handlers.command state input with
  | kept state'' leftover =>
    rw [hserved] at hloop
    obtain ⟨consumed', hloop, hrest⟩ := hloop
    obtain ⟨rfl, -⟩ := Prod.mk.inj (Except.ok.inj (h.symm.trans hloop))
    rw [hrest]
    exact length_of_nextRequest_incomplete (next_of_serve_kept hserved)
  | closed failed =>
    rw [hserved] at hloop
    exact absurd (h.symm.trans hloop) (by simp)

/-- However a stream is split into reads, a session processes the requests of the whole stream in
order, keeps or closes itself as they say and is left with their end. As long as it is open there is
room for another read, and the buffer is not full after it. -/
theorem readStream_unfragmented (handlers : InputHandlers S) (state : S)
    (reads : List (List UInt8)) :
    let session := reads.foldl (readStream handlers.recording) (.opened (state, []))
    Agrees handlers.recording session
        (requestSplitter.serve handlers.recording.command (state, []) reads.flatten) ∧
      (session.active = true → 0 < allocateClientInput session ∧
        ∀ data consumed state', data.length ≤ allocateClientInput session →
          processRequests handlers.recording (session.input ++ data) (session.input ++ data).length 0
            session.state = .ok (consumed, state') →
          ((session.input ++ data).drop consumed).length ≠ clientInputCap) := by
  intro session
  have hagrees : Agrees handlers.recording session
      (requestSplitter.serve handlers.recording.command (state, []) reads.flatten) :=
    foldl_readStream_agrees (state, []) reads
  refine ⟨hagrees, fun hactive => ⟨?_, ?_⟩⟩
  · cases hserved : requestSplitter.serve handlers.recording.command (state, []) reads.flatten with
    | kept state' leftover =>
      rw [hserved] at hagrees
      have hshort := length_of_nextRequest_incomplete (next_of_serve_kept hserved)
      have hinput : session.input = leftover := congrArg InputSession.input hagrees
      rw [allocateClientInput, hactive, hinput, if_neg (by simpa using hshort)]
      omega
    | closed failed =>
      rw [hserved] at hagrees
      exact absurd (hactive.symm.trans hagrees.1) (by simp)
  · intro data consumed state' _ hloop
    exact Nat.ne_of_lt (length_of_processRequests hloop)

/-- `HELLO` in two reads, the first of which ends within the header. -/
theorem readStream_unfragmented_hello :
    let handlers : InputHandlers (Unit × List Message) :=
      InputHandlers.recording ⟨fun _ _ => .ok (), id⟩
    let hello := outgoing .hello 0 0 encodeHello
    let session := [hello.encode.take 10, hello.encode.drop 10].foldl (readStream handlers)
      (.opened ((), []))
    session.active = true ∧ session.state = ((), [hello]) ∧
      Agrees handlers session (requestSplitter.serve handlers.command ((), []) hello.encode) :=
  ⟨by decide +kernel, by decide +kernel,
    (readStream_unfragmented ⟨fun _ _ => .ok (), id⟩ () _).1⟩

end Refinement

section Events

variable {cat : Catalog} {config : Config cat}

/-- The handlers of the daemon. The second component counts the requests, each of which meets an
environment of its own. -/
def daemonInput (config : Config cat) (canonical : Canonical cat) (env : ℕ → Env cat) :
    InputHandlers (Client cat × ℕ) where
  command state request :=
    match processCommand config canonical (env state.2) state.1 request with
    | .error failed => .error (failed, state.2 + 1)
    | .ok client => .ok (client, state.2 + 1)
  close state := (clientClose state.1, state.2)

/-- An answered request leaves the session open. -/
theorem Reply.active {canonical : Canonical cat} {env : Env cat} {request : Message}
    {client client' : Client cat} (h : Reply config canonical env request client client') :
    client'.active = client.active := by
  cases h with
  | welcome queued _ _ hpush =>
    obtain ⟨slot, -, -, rfl⟩ := hpush.takes
    rfl
  | schema startIndex payload queued _ _ _ _ hpush =>
    obtain ⟨slot, -, -, rfl⟩ := hpush.takes
    rfl
  | pong queued _ _ hpush =>
    obtain ⟨slot, -, -, rfl⟩ := hpush.takes
    rfl
  | firstFramePage payload queued _ _ _ _ _ hpush =>
    obtain ⟨slot, -, -, rfl⟩ := hpush.takes
    rfl
  | framePage startIndex payload queued _ _ _ _ _ _ _ _ hpush =>
    obtain ⟨slot, -, -, rfl⟩ := hpush.takes
    rfl
  | signalPage startIndex payload queued _ _ _ _ _ _ _ _ hpush =>
    obtain ⟨slot, -, -, rfl⟩ := hpush.takes
    rfl
  | subscribe driven _ _ _ _ hmoves _ =>
    have hdrive := drive_active (hmoves.trans (noteWaiting_moves driven))
    exact hdrive

/-- The session that the receiver of a stream leaves. -/
def servedClient : Served (Client cat × ℕ) UInt8 → Client cat
  | .kept state _ => state.1
  | .closed state => clientClose state.1

/-- What a stream brings to an open session is a sequence of requests, and the end of the session
after a malformed one. -/
theorem serve_events (env : ℕ → Env cat) (s : Fin maxClients) (stream : List UInt8) (n : ℕ)
    (daemon : Daemon cat) (hactive : (daemon.clients s).active = true) :
    ∃ events : List (Event cat),
      (∀ event ∈ events, (∃ i request, event = .request s (env i) request) ∨
        event = .disconnect s) ∧
      events.foldl (step config) daemon = daemon.setClient s (servedClient
        (requestSplitter.serve (daemonInput config daemon.canonical env).command
          (daemon.clients s, n) stream)) := by
  -- induction on the length: one event for the request at the front
  induction hlength : stream.length using Nat.strongRecOn generalizing stream n daemon with
  | ind length ih =>
    cases hnext : requestSplitter.next stream with
    | incomplete =>
      refine ⟨[], nofun, ?_⟩
      rw [serve_incomplete hnext]
      exact (daemon.setClient_clients s).symm
    | malformed =>
      refine ⟨[.disconnect s], fun event hmem => Or.inr (List.mem_singleton.mp hmem), ?_⟩
      rw [serve_malformed hnext]
      rfl
    | message request rest =>
      rw [serve_message hnext]
      have hstep : step config daemon (.request s (env n) request) = daemon.setClient s
          (closeOnError (processCommand config daemon.canonical (env n) (daemon.clients s) request)) := by
        simp only [step]
        rw [if_neg (by rw [hactive]; simp)]
      cases hcommand : processCommand config daemon.canonical (env n) (daemon.clients s) request with
      | error failed =>
        refine ⟨[.request s (env n) request],
          fun event hmem => Or.inl ⟨n, request, List.mem_singleton.mp hmem⟩, ?_⟩
        have hfailed : (daemonInput config daemon.canonical env).command (daemon.clients s, n) request =
            .error (failed, n + 1) := by
          simp only [daemonInput, hcommand]
        rw [List.foldl_cons, List.foldl_nil, hstep, hcommand, hfailed]
        rfl
      | ok client =>
        have hopen : ((daemon.setClient s client).clients s).active = true := by
          rw [Daemon.setClient_self, (processCommand_ok hcommand).active]
          exact hactive
        obtain ⟨events, hevents, hfold⟩ := ih rest.length
          (hlength ▸ requestSplitter.shorter hnext) rest (n + 1) (daemon.setClient s client) hopen rfl
        refine ⟨.request s (env n) request :: events, ?_, ?_⟩
        · rw [List.forall_mem_cons]
          exact ⟨Or.inl ⟨n, request, rfl⟩, hevents⟩
        · rw [List.foldl_cons, hstep, hcommand]
          refine hfold.trans ?_
          have hanswered : (daemonInput config daemon.canonical env).command (daemon.clients s, n)
              request = .ok (client, n + 1) := by
            simp only [daemonInput, hcommand]
          rw [Daemon.setClient_self, Daemon.setClient_setClient, hanswered]
          rfl

end Events

end Roadcast
