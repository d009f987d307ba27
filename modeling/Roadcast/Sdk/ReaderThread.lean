import Roadcast.Sdk.Connect
import Roadcast.Sdk.Rejected

/-!
# The reader thread

`reader_thread_main`, looked at for any number of rounds of its loop, and a whole session of the SDK.
Each round takes one message in the live phase, and for a resynchronization all messages until the
machine is live again. So where the session is after a number of rounds is a matter of the bytes that
the daemon has sent, not of the pieces in which they arrive or the times at which they do.
-/

namespace Roadcast

open Transfer

namespace ClientRecord

variable (record : ClientRecord)

/-- `resynchronize`; `allocated` is whether `initialize_synchronization` gets its memory. -/
def resynchronize (allocated : Bool) (link : Link) : Outcome (ClientRecord × Link) Unit :=
  let deadlineNs := link.clock 0 + clientSetupTimeoutNs
  let link := { link with clock := fun n => link.clock (n + 1) }
  if allocated then
    (record.synchronize deadlineNs link).bind fun synchronization (record, link) =>
      .ok () ({ record.commitSynchronization synchronization with
        resynchronizations := record.resynchronizations + 1 }, link)
  else .failed .outside (record, link)

/-- `apply_live_frame_batch`. -/
def applyLiveFrameBatch (message : Message) : Bool × ClientRecord :=
  let (applied, cache) := (record.machine .live .zero true []).applyLiveFrameBatch message
  (applied, { record with cache := cache })

/-- `apply_live_signal_batch`. -/
def applyLiveSignalBatch (message : Message) : Bool × ClientRecord :=
  let (applied, cache) := (record.machine .live .zero true []).applyLiveSignalBatch message
  (applied, { record with cache := cache })

/-- `apply_heartbeat`. -/
def applyHeartbeat (message : Message) : Bool × ClientRecord :=
  match decodeHeartbeat message.payload with
  | none => (false, record)
  | some heartbeat =>
    if heartbeat.changeSequence ≠ message.header.sequence then (false, record)
    else
      (true, { record with
        cache := { record.cache with
          sampleSequence := heartbeat.sampleSequence
          changeSequence := heartbeat.changeSequence
          sampleTimestampNs := message.header.timestampNs }
        droppedBatches := heartbeat.droppedBatches
        coalescedSamples := heartbeat.coalescedSamples
        effectiveHzMillihz := heartbeat.effectiveHzMillihz
        sourceState := heartbeat.sourceState })

/-- The switch of `reader_thread_main`: whether the thread goes on, and with what. -/
def readerSwitch (allocated : Bool) (message : Message) (link : Link) :
    Outcome (ClientRecord × Link) Unit :=
  let applied (result : Bool × ClientRecord) : Outcome (ClientRecord × Link) Unit :=
    if result.1 then .ok () (result.2, link) else .failed .refused (result.2, link)
  match MessageType.ofCode message.header.type with
  | some .updateBatch => applied (record.applyLiveFrameBatch message)
  | some .signalUpdateBatch => applied (record.applyLiveSignalBatch message)
  | some .heartbeat => applied (record.applyHeartbeat message)
  | some .resyncRequired =>
    if message.header.payloadBytes = 0 then record.resynchronize allocated link
    else .failed .refused (record, link)
  | _ => .failed .refused (record, link)

end ClientRecord

/-- What `reader_thread_main` meets besides the socket: `stop_requested` before each message, and
whether a resynchronization gets its memory. -/
structure ReaderAnswers where
  stopRequested : ℕ → Bool
  allocated : ℕ → Bool

/-- The answers after those to one message. -/
def ReaderAnswers.rest (answers : ReaderAnswers) : ReaderAnswers :=
  ⟨fun n => answers.stopRequested (n + 1), fun n => answers.allocated (n + 1)⟩

/-- Where `reader_thread_main` is. -/
inductive ReaderState
  | running (record : ClientRecord) (link : Link)
  | blocked (record : ClientRecord) (link : Link)
  | ended (reason : Reason) (record : ClientRecord) (link : Link)

/-- `reader_thread_main`, for a number of rounds of its loop. -/
def readerThread : ℕ → ReaderAnswers → ClientRecord → Link → ReaderState
  | 0, _, record, link => .running record link
  | rounds + 1, answers, record, link =>
    if answers.stopRequested 0 then .ended .outside record.markDisconnected link
    else
      match readMessage record.payloadCapacity 0 link with
      | .failed reason link => .ended reason record.markDisconnected link
      | .blocked link => .blocked record link
      | .ok message link =>
        match record.readerSwitch (answers.allocated 0) message link with
        | .failed reason (record, link) => .ended reason record.markDisconnected link
        | .blocked (record, link) => .blocked record link
        | .ok _ (record, link) => readerThread rounds answers.rest record link

/-! ## The machine beside the thread -/

/-- A live session, whose requests can hold an index. -/
def Running (record : ClientRecord) (link : Link) (sdk : Sdk) : Prop :=
  8 ≤ record.welcome.maxRequestPayload.toNat ∧ ∃ synchronization sent,
    Carries sent link.written ∧ sdk = record.machine .live synchronization true sent

/-- A session that is being synchronized, for the first time or again. -/
def Resuming (state : ClientRecord × Link) (sdk : Sdk) : Prop :=
  sdk.record = state.1 ∧ sdk.phase.Synchronizing

/-- What the switch of `reader_thread_main` comes to. The code refuses the message, as the machine does;
or it has no memory for a resynchronization; or it goes on where the machine is. -/
def Switches (link : Link) (sdk : Sdk) (message : Message)
    (outcome : Outcome (ClientRecord × Link) Unit) : Prop :=
  (∃ record, outcome = .failed .refused (record, link) ∧ (sdk.receive message).phase = .failed ∧
    record.markDisconnected = (sdk.receive message).record) ∨
  (∃ record after, outcome = .failed .outside (record, after) ∧ after.written = link.written ∧
    record.markDisconnected = sdk.fail.record) ∨
  outcome.Meets Prod.snd Resuming (fun _ state => Running state.1 state.2) link (sdk.receive message)

section Reading

variable {record : ClientRecord} {synchronization : Synchronization} {sent : List Message}
  {message : Message} {link : Link} {sdk : Sdk}

/-- A live batch is applied to the record, or refused with what it has written. -/
theorem switches_batch {result : Bool × Synchronization}
    (hrequest : 8 ≤ record.welcome.maxRequestPayload.toNat) (hcarries : Carries sent link.written)
    (hreceive : (record.machine .live synchronization true sent).receive message =
      ((if result.1 then some result.2 else none).map fun cache =>
        { record with cache := cache }.machine .live synchronization true sent).getD
          ({ record with cache := result.2 }.machine .live synchronization true sent).fail) :
    Switches link (record.machine .live synchronization true sent) message
      (if result.1 then .ok () ({ record with cache := result.2 }, link)
        else .failed .refused ({ record with cache := result.2 }, link)) := by
  cases happlied : result.1 with
  | true =>
    rw [happlied] at hreceive
    refine Or.inr (Or.inr ?_)
    rw [hreceive]
    exact ⟨[], rfl, rfl, hrequest, synchronization, sent, hcarries, rfl⟩
  | false =>
    rw [happlied] at hreceive
    refine Or.inl ⟨{ record with cache := result.2 }, rfl, ?_⟩
    rw [hreceive]
    exact ⟨rfl, rfl⟩

/-- A resynchronization goes through the phases of the machine from `synchronize` on. -/
theorem resynchronize_meets (hrequest : 8 ≤ record.welcome.maxRequestPayload.toNat)
    (hcarries : Carries sent link.written) :
    (record.resynchronize true link).Meets Prod.snd Resuming
      (fun _ state => Running state.1 state.2) link
      (record.machine .live synchronization true sent).synchronize := by
  rw [ClientRecord.resynchronize, if_pos rfl]
  have hlater : Carries sent { link with clock := fun n => link.clock (n + 1) }.written := hcarries
  have hsynchronize := synchronize_meets (link.clock 0 + clientSetupTimeoutNs) record true hrequest
    .live synchronization sent hlater
  refine (Outcome.Meets.bind hsynchronize (fun _ _ h => h) ?_ :
    Outcome.Meets Prod.snd Resuming (fun _ state => Running state.1 state.2) _ _ _)
  rintro synchronization ⟨record', after⟩ sdk ⟨hsame, applied, sent, hafter, rfl⟩
  refine ⟨[], rfl, rfl, ?_, synchronization, sent, hafter, rfl⟩
  change 8 ≤ record'.welcome.maxRequestPayload.toNat
  rw [hsame]
  exact hrequest

/-- The switch of the reader thread does with a message what the state machine does. -/
theorem readerSwitch_switches (hrunning : Running record link sdk) (allocated : Bool)
    (hreceive : sdk.receive message = (sdk.handle message).getD (sdk.refuse message)) :
    Switches link sdk message (record.readerSwitch allocated message link) := by
  obtain ⟨hrequest, synchronization, sent, hcarries, rfl⟩ := hrunning
  have hrefused (h : (record.machine .live synchronization true sent).receive message =
      (record.machine .live synchronization true sent).fail) :
      Switches link (record.machine .live synchronization true sent) message
        (.failed .refused (record, link)) := by
    refine Or.inl ⟨record, rfl, ?_⟩
    rw [h]
    exact ⟨rfl, rfl⟩
  simp only [Sdk.handle, Sdk.readLive, Sdk.refuse] at hreceive
  unfold ClientRecord.readerSwitch
  cases htype : MessageType.ofCode message.header.type with
  | none =>
    rw [htype] at hreceive
    exact hrefused hreceive
  | some type =>
    rw [htype] at hreceive
    cases type with
    | updateBatch =>
      dsimp only at hreceive
      rw [Sdk.applyFrameBatch_live] at hreceive
      exact switches_batch hrequest hcarries hreceive
    | signalUpdateBatch =>
      dsimp only at hreceive
      rw [Sdk.applySignalBatch_live] at hreceive
      exact switches_batch hrequest hcarries hreceive
    | heartbeat =>
      simp only [Sdk.applyHeartbeat] at hreceive
      simp only [ClientRecord.applyHeartbeat]
      cases hdecode : decodeHeartbeat message.payload with
      | none =>
        rw [hdecode] at hreceive
        exact hrefused hreceive
      | some heartbeat =>
        rw [hdecode] at hreceive
        dsimp only at hreceive ⊢
        by_cases hsequence : heartbeat.changeSequence ≠ message.header.sequence
        · simp only [if_pos hsequence] at hreceive ⊢
          exact hrefused hreceive
        · simp only [if_neg hsequence] at hreceive ⊢
          refine Or.inr (Or.inr ?_)
          rw [hreceive]
          exact ⟨[], rfl, rfl, hrequest, synchronization, sent, hcarries, rfl⟩
    | resyncRequired =>
      dsimp only at hreceive ⊢
      by_cases hempty : message.header.payloadBytes = 0
      · rw [if_pos hempty] at hreceive ⊢
        cases allocated with
        | false => exact Or.inr (Or.inl ⟨record, _, rfl, rfl, rfl⟩)
        | true =>
          refine Or.inr (Or.inr ?_)
          rw [hreceive]
          exact resynchronize_meets hrequest hcarries
      · rw [if_neg hempty] at hreceive ⊢
        exact hrefused hreceive
    | _ => exact hrefused hreceive

end Reading

/-- What the reader thread has to do with the machine, from a stream and the machine there. A thread
that runs has received one live message in each round. One that has ended leaves the record of the
machine with the connection closed, or of the machine that has failed with the next message. -/
def ReaderState.Follows (rounds : ℕ) (unread : List UInt8) (sdk : Sdk) : ReaderState → Prop
  | .running record link => ∃ messages, Takes unread messages link.unread ∧
    sdk.liveReads messages = rounds ∧ Running record link (messages.foldl Sdk.receive sdk)
  | .blocked record link => ∃ messages rest, Takes unread messages rest ∧
    CarriesFront (messages.foldl Sdk.receive sdk).sent link.written ∧
    (messages.foldl Sdk.receive sdk).phase ≠ .failed ∧
    record = (messages.foldl Sdk.receive sdk).record
  | .ended reason record link => ∃ messages rest, Takes unread messages rest ∧
    CarriesFront (messages.foldl Sdk.receive sdk).sent link.written ∧
    (messages.foldl Sdk.receive sdk).phase ≠ .failed ∧
    (reason = .refused → (messages.foldl Sdk.receive sdk).Refuses rest) ∧
    (record = (messages.foldl Sdk.receive sdk).fail.record ∨
      reason = .refused ∧ ∃ message next, SdkMemory.takeMessage rest = some (message, next) ∧
        record = ((messages.foldl Sdk.receive sdk).receive message).record)

/-- The reader thread after some messages. -/
theorem ReaderState.Follows.onward {rounds : ℕ} {unread middle : List UInt8} {sdk : Sdk}
    {messages : List Message} {state : ReaderState} (htakes : Takes unread messages middle)
    (h : state.Follows rounds middle (messages.foldl Sdk.receive sdk)) :
    state.Follows (sdk.liveReads messages + rounds) unread sdk := by
  cases state with
  | running record link =>
    obtain ⟨more, hmore, hrounds, hrunning⟩ := h
    refine ⟨messages ++ more, htakes.append hmore, ?_, ?_⟩
    · rw [Sdk.liveReads_append, hrounds]
    · rw [List.foldl_append]
      exact hrunning
  | blocked record link =>
    obtain ⟨more, rest, hmore, hstays⟩ := h
    exact ⟨messages ++ more, rest, htakes.append hmore, by rw [List.foldl_append]; exact hstays⟩
  | ended reason record link =>
    obtain ⟨more, rest, hmore, hstays⟩ := h
    exact ⟨messages ++ more, rest, htakes.append hmore, by rw [List.foldl_append]; exact hstays⟩

section Running

variable {record : ClientRecord} {link : Link} {sdk : Sdk}

/-- A running reader thread belongs to a live session. -/
theorem Running.live (h : Running record link sdk) : sdk.phase = .live := by
  obtain ⟨-, synchronization, sent, -, rfl⟩ := h
  rfl

/-- The client record of a running reader thread is that of the session. -/
theorem Running.record_eq (h : Running record link sdk) : record = sdk.record := by
  obtain ⟨-, synchronization, sent, -, rfl⟩ := h
  rfl

/-- What a running reader thread has written is the front of its requests. -/
theorem Running.front (h : Running record link sdk) : CarriesFront sdk.sent link.written := by
  obtain ⟨-, synchronization, sent, hcarries, rfl⟩ := h
  exact hcarries.front

/-- A reader thread that has only read goes on running. -/
theorem Running.of_written {after : Link} (h : Running record link sdk)
    (hwritten : after.written = link.written) : Running record after sdk := by
  obtain ⟨hrequest, synchronization, sent, hcarries, hsdk⟩ := h
  exact ⟨hrequest, synchronization, sent, hwritten ▸ hcarries, hsdk⟩

end Running

/-- A session that synchronizes has not failed. -/
theorem Phase.Synchronizing.ne_failed {phase : Phase} (h : phase.Synchronizing) :
    phase ≠ .failed := by
  rintro rfl
  exact h

/-- The blocking code of the reader thread follows the state machine of the session. -/
theorem readerThread_follows (rounds : ℕ) (answers : ReaderAnswers) {record : ClientRecord}
    {link : Link} {sdk : Sdk} (hrunning : Running record link sdk) :
    (readerThread rounds answers record link).Follows rounds link.unread sdk := by
  induction rounds generalizing answers record link sdk with
  | zero => exact ⟨[], rfl, rfl, hrunning⟩
  | succ rounds ih =>
    have hrecord := hrunning.record_eq
    have hphase : sdk.phase ≠ .failed := by
      rw [hrunning.live]
      exact Phase.noConfusion
    have hcapacity : record.payloadCapacity = sdk.payloadCapacity := hrecord ▸ rfl
    have hended {reason : Reason} {after : Link} (hwritten : after.written = link.written)
        (hrefused : reason = .refused → sdk.Refuses link.unread) :
        (ReaderState.ended reason record.markDisconnected after).Follows (rounds + 1) link.unread
          sdk :=
      ⟨[], _, rfl, hwritten ▸ hrunning.front, hphase, hrefused, Or.inl (hrecord ▸ rfl)⟩
    unfold readerThread
    cases answers.stopRequested 0 with
    | true => exact hended rfl Reason.noConfusion
    | false =>
      have hwritten := readMessage_written sdk.payloadCapacity 0 link
      rw [if_neg Bool.false_ne_true, hcapacity]
      cases hread : readMessage sdk.payloadCapacity 0 link with
      | failed reason after =>
        rw [hread] at hwritten
        exact hended hwritten (by rintro rfl; exact Sdk.refuses_of_readMessage hread)
      | blocked after =>
        rw [hread] at hwritten
        exact ⟨[], _, rfl, hwritten ▸ hrunning.front, hphase, hrecord⟩
      | ok message after =>
        have hwritten : after.written = link.written := by
          rw [hread] at hwritten
          exact hwritten
        obtain ⟨htake, hframed, hheader, -⟩ := readMessage_ok hread
        have htakes : Takes link.unread [message] after.unread := ⟨_, htake, hframed, rfl⟩
        have hreceive : sdk.receive message = (sdk.handle message).getD (sdk.refuse message) := by
          rw [Sdk.receive, if_neg hheader]
        have hround : rounds + 1 = sdk.liveReads [message] + rounds := by
          rw [Sdk.liveReads, if_pos hrunning.live, Sdk.liveReads, Nat.add_comm]
        have hswitch := readerSwitch_switches (hrunning.of_written hwritten) (answers.allocated 0)
          hreceive
        dsimp only
        rcases hswitch with ⟨record', hswitch, hfailed, hleft⟩ |
          ⟨record', last, hswitch, hsame, hleft⟩ | hmeets
        · rw [hswitch]
          exact ⟨[], link.unread, rfl, hwritten ▸ hrunning.front, hphase,
            fun _ => Sdk.refuses_of_takeMessage htake hfailed,
            Or.inr ⟨rfl, message, after.unread, htake, hleft⟩⟩
        · rw [hswitch]
          refine ⟨[], link.unread, rfl, ?_, hphase, Reason.noConfusion, Or.inl hleft⟩
          rw [hsame, hwritten]
          exact hrunning.front
        · rw [hround]
          refine ReaderState.Follows.onward htakes ?_
          cases hgone : record.readerSwitch (answers.allocated 0) message after with
          | ok value state =>
            rw [hgone] at hmeets
            obtain ⟨messages, hmore, hbefore, hnext⟩ := hmeets
            have hlater := (ih answers.rest hnext).onward hmore
            rw [hbefore, Nat.zero_add] at hlater
            exact hlater
          | failed reason state =>
            rw [hgone] at hmeets
            obtain ⟨messages, rest, hmore, hfront, hrefused, hstate, hphase⟩ := hmeets
            exact ⟨messages, rest, hmore, hfront, hphase.ne_failed, hrefused,
              Or.inl (hstate ▸ rfl)⟩
          | blocked state =>
            rw [hgone] at hmeets
            obtain ⟨messages, rest, hmore, hfront, hstate, hphase⟩ := hmeets
            exact ⟨messages, rest, hmore, hfront, hphase.ne_failed, hstate.symm⟩

/-! ## Sessions -/

/-- A session of the SDK. -/
inductive ClientSession
  | connecting (state : Connecting)
  | reading (state : ReaderState)

/-- `roadcast_client_connect`, and then the reader thread for some rounds. -/
def clientSession (rounds : ℕ) (socketName : Option (List UInt8)) (answers : ConnectAnswers)
    (readerAnswers : ReaderAnswers) (link : Link) : ClientSession :=
  match roadcastClientConnect socketName answers link with
  | .connected record link => .reading (readerThread rounds readerAnswers record link)
  | .failed error reason link => .connecting (.failed error reason link)
  | .blocked link => .connecting (.blocked link)

/-- What a session has to do with the machine. -/
def ClientSession.Follows (rounds : ℕ) (unread : List UInt8) : ClientSession → Prop
  | .connecting state => state.Follows unread
  | .reading state => state.Follows rounds unread Sdk.connect

/-- Whatever the operating system answers, a session of the SDK is where the machine is after the
messages at the front of the stream. -/
theorem clientSession_follows (rounds : ℕ) (socketName : Option (List UInt8))
    (answers : ConnectAnswers) (readerAnswers : ReaderAnswers) (unread : List UInt8)
    (recvs : List (Answer (List PollRound))) (sends : List (Answer (List PollRound)))
    (clock : ℕ → UInt64) :
    (clientSession rounds socketName answers readerAnswers
      ⟨unread, [], recvs, sends, clock⟩).Follows rounds unread := by
  have hconnect := roadcastClientConnect_follows socketName answers
    (show Link.written ⟨unread, [], recvs, sends, clock⟩ = [] from rfl)
  unfold clientSession
  cases hstate : roadcastClientConnect socketName answers ⟨unread, [], recvs, sends, clock⟩ with
  | failed error reason link =>
    rw [hstate] at hconnect
    exact hconnect
  | blocked link =>
    rw [hstate] at hconnect
    exact hconnect
  | connected record link =>
    rw [hstate] at hconnect
    obtain ⟨messages, synchronization, sent, htakes, hbefore, hsdk, hcarries, hrequest⟩ := hconnect
    have hrunning : Running record link (messages.foldl Sdk.receive Sdk.connect) :=
      ⟨hrequest, synchronization, sent, hcarries, hsdk⟩
    have hreader := (readerThread_follows rounds readerAnswers hrunning).onward htakes
    rw [hbefore, Nat.zero_add] at hreader
    exact hreader

/-- Of two readings of one stream, one goes on where the other ends. -/
theorem Takes.linear {stream rest rest' : List UInt8} {messages messages' : List Message}
    (h : Takes stream messages rest) (h' : Takes stream messages' rest') :
    (∃ more, messages' = messages ++ more ∧ Takes rest more rest') ∨
      (∃ more, messages = messages' ++ more ∧ Takes rest' more rest) := by
  induction messages generalizing stream messages' with
  | nil => exact Or.inl ⟨messages', rfl, (show rest = stream from h) ▸ h'⟩
  | cons message messages ih =>
    cases messages' with
    | nil => exact Or.inr ⟨message :: messages, rfl, (show rest' = stream from h') ▸ h⟩
    | cons message' messages' =>
      obtain ⟨next, htake, -, hrest⟩ := h
      obtain ⟨next', htake', -, hrest'⟩ := h'
      rw [htake, Option.some.injEq, Prod.mk.injEq] at htake'
      obtain ⟨rfl, rfl⟩ := htake'
      rcases ih hrest hrest' with ⟨more, rfl, hmore⟩ | ⟨more, rfl, hmore⟩
      · exact Or.inl ⟨more, rfl, hmore⟩
      · exact Or.inr ⟨more, rfl, hmore⟩

/-- A live machine that has received a number of messages live has read one piece of the stream. -/
theorem Takes.eq_of_liveReads {stream rest rest' : List UInt8} {messages messages' : List Message}
    {sdk : Sdk} (h : Takes stream messages rest) (h' : Takes stream messages' rest')
    (hlive : (messages.foldl Sdk.receive sdk).phase = .live)
    (hlive' : (messages'.foldl Sdk.receive sdk).phase = .live)
    (hreads : sdk.liveReads messages = sdk.liveReads messages') :
    messages = messages' ∧ rest = rest' := by
  have hlonger {first : List Message} {more : List Message}
      (hfirst : (first.foldl Sdk.receive sdk).phase = .live)
      (hsame : sdk.liveReads first = sdk.liveReads (first ++ more)) : more = [] := by
    cases more with
    | nil => rfl
    | cons message more =>
      rw [Sdk.liveReads_append, Sdk.liveReads, if_pos hfirst] at hsame
      omega
  rcases h.linear h' with ⟨more, rfl, hmore⟩ | ⟨more, rfl, hmore⟩
  · obtain rfl := hlonger hlive hreads
    exact ⟨(List.append_nil _).symm, (show rest' = rest from hmore).symm⟩
  · obtain rfl := hlonger hlive' hreads.symm
    exact ⟨List.append_nil _, hmore⟩

end Roadcast
