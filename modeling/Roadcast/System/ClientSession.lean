import Roadcast.Sdk.ReaderThread
import Roadcast.System.Agreement
import Roadcast.System.Compatibility
import Roadcast.System.Output

/-!
# A client on the stream of the daemon

The blocking code of the SDK, reading the bytes that the daemon has queued to its session. What the
two machines have in common carries over to the code: the operating system may hand out the bytes in
any pieces and at any times, interrupt calls and refuse memory.
-/

namespace Roadcast

open Runs Transfer

variable {cat : Catalog}

/-! ## The bytes of a session -/

/-- The bytes that were queued to a session, in order. -/
def queuedStream (log : List (LogEntry cat)) : List UInt8 :=
  (queuedMessages log).flatMap Message.encode

/-- A framed message is taken from the front of a stream. -/
theorem takeMessage_encode {message : Message} (hframed : message.Framed) (rest : List UInt8) :
    SdkMemory.takeMessage (message.encode ++ rest) = some (message, rest) := by
  obtain ⟨hannounced, hmax⟩ := hframed
  have hstream : message.encode ++ rest =
      encodeHeader message.header ++ (message.payload ++ rest) := List.append_assoc _ _ _
  have hheader := decodeHeader_encodeHeader message.header (message.payload ++ rest) (by omega)
  have hdrop : (encodeHeader message.header ++ (message.payload ++ rest)).drop headerSize =
      message.payload ++ rest := List.drop_left' (encodeHeader_length _)
  have hlength : headerSize ≤ (encodeHeader message.header ++ (message.payload ++ rest)).length := by
    rw [List.length_append, encodeHeader_length]
    omega
  rw [hstream, SdkMemory.takeMessage, if_neg (Nat.not_lt.mpr hlength), hheader, Option.map_some,
    ← List.drop_drop, hdrop, hannounced, List.take_left, List.drop_left]

/-- The messages of a stream are those that were framed into it. -/
theorem takes_encode {messages : List Message} (hframed : ∀ message ∈ messages, message.Framed)
    (rest : List UInt8) : Takes (messages.flatMap Message.encode ++ rest) messages rest := by
  induction messages with
  | nil => rfl
  | cons message messages ih =>
    refine ⟨messages.flatMap Message.encode ++ rest, ?_, ?_, ih ?_⟩
    · rw [List.flatMap_cons, List.append_assoc]
      exact takeMessage_encode (hframed message List.mem_cons_self) _
    · exact (hframed message List.mem_cons_self).1.symm
    · exact fun message hmem => hframed message (List.mem_cons_of_mem _ hmem)

/-! ## The pieces of a stream -/

/-- Two sessions on one stream that run after the same number of rounds hold the same record, and have
the same bytes before them, however the operating system has handed them the stream. -/
theorem clientSession_unfragmented {rounds : ℕ} {socketName socketName' : Option (List UInt8)}
    {answers answers' : ConnectAnswers} {readerAnswers readerAnswers' : ReaderAnswers}
    {unread : List UInt8} {recvs recvs' sends sends' : List (Answer (List PollRound))}
    {clock clock' : ℕ → UInt64} {record record' : ClientRecord} {link link' : Link}
    (h : clientSession rounds socketName answers readerAnswers ⟨unread, [], recvs, sends, clock⟩ =
      .reading (.running record link))
    (h' : clientSession rounds socketName' answers' readerAnswers'
      ⟨unread, [], recvs', sends', clock'⟩ = .reading (.running record' link')) :
    record = record' ∧ link.unread = link'.unread := by
  have hfollows := clientSession_follows rounds socketName answers readerAnswers unread recvs sends
    clock
  have hfollows' := clientSession_follows rounds socketName' answers' readerAnswers' unread recvs'
    sends' clock'
  rw [h] at hfollows
  rw [h'] at hfollows'
  obtain ⟨messages, htakes, hrounds, hrunning⟩ := hfollows
  obtain ⟨messages', htakes', hrounds', hrunning'⟩ := hfollows'
  obtain ⟨rfl, hrest⟩ := htakes.eq_of_liveReads htakes' hrunning.live hrunning'.live
    (hrounds.trans hrounds'.symm)
  exact ⟨hrunning.record_eq.trans hrunning'.record_eq.symm, hrest⟩

section Pieces

/-- An operating system that grants everything that a connection needs. -/
def ConnectAnswers.granted : ConnectAnswers :=
  ⟨true, true, ⟨true, true, fun _ => .established⟩, true, true, true, true⟩

/-- A reader thread that is never stopped. -/
def ReaderAnswers.granted : ReaderAnswers := ⟨fun _ => false, fun _ => true⟩

/-- A client of `@a` on a stream that arrives in pieces of a size, every other call interrupted. -/
def pieceSession (rounds : ℕ) (stream : List UInt8) (size : ℕ) : ClientSession :=
  clientSession rounds (some [64, 97]) .granted .granted
    ⟨stream, [], (List.replicate stream.length [.interrupted, .moved size]).flatten,
      List.replicate 20 (.moved 1000), fun _ => 0⟩

/-- The session runs, with this many resynchronizations behind it and nothing left to read. -/
def ClientSession.caughtUp (resynchronizations : UInt64) : ClientSession → Bool
  | .reading (.running record link) =>
    decide (record.resynchronizations = resynchronizations) && link.unread.isEmpty
  | _ => false

/-- A session that has caught up runs, and has read everything. -/
theorem ClientSession.caughtUp_running {resynchronizations : UInt64} {session : ClientSession}
    (h : session.caughtUp resynchronizations = true) :
    ∃ record link, session = .reading (.running record link) ∧
      record.resynchronizations = resynchronizations ∧ link.unread = [] := by
  unfold ClientSession.caughtUp at h
  split at h
  · rename_i record link
    rw [Bool.and_eq_true, decide_eq_true_eq, List.isEmpty_iff] at h
    exact ⟨record, link, rfl, h⟩
  · contradiction

/-- A stream that arrives byte by byte gives the session of one that arrives at once. -/
theorem clientSession_unfragmented_pieces :
    ∃ record record' link link',
      pieceSession 1 (queuedStream (singleSession resyncRun).log) 1 =
        .reading (.running record link) ∧
      pieceSession 1 (queuedStream (singleSession resyncRun).log) 1000 =
        .reading (.running record' link') ∧
      record = record' ∧ link.unread = link'.unread := by
  have hbytes : (pieceSession 1 (queuedStream (singleSession resyncRun).log) 1).caughtUp 1 = true := by
    decide +kernel
  have hwhole : (pieceSession 1 (queuedStream (singleSession resyncRun).log) 1000).caughtUp 1 =
      true := by
    decide +kernel
  obtain ⟨record, link, hrunning, -⟩ := ClientSession.caughtUp_running hbytes
  obtain ⟨record', link', hrunning', -⟩ := ClientSession.caughtUp_running hwhole
  exact ⟨record, record', link, link', hrunning, hrunning',
    clientSession_unfragmented hrunning hrunning'⟩

end Pieces

/-! ## The client -/

/-- A check of the SDK has ended the session. -/
def ClientSession.Refused : ClientSession → Prop
  | .connecting (.failed _ reason _) | .reading (.ended reason _ _) => reason = .refused
  | _ => False

/-- Every message takes at least one byte of the stream. -/
theorem Takes.length_le {stream rest : List UInt8} {messages : List Message}
    (h : Takes stream messages rest) : rest.length + messages.length ≤ stream.length := by
  induction messages generalizing stream with
  | nil => exact (congrArg List.length (show rest = stream from h)).le
  | cons message messages ih =>
    obtain ⟨next, htake, -, hrest⟩ := h
    have hnext : next.length < stream.length := by
      unfold SdkMemory.takeMessage at htake
      split at htake
      · contradiction
      rename_i hheader
      obtain ⟨header, -, hpair⟩ := Option.map_eq_some_iff.mp htake
      obtain ⟨-, rfl⟩ := Prod.mk.inj hpair
      rw [List.length_drop]
      rw [headerSize] at hheader ⊢
      omega
    have hlater := ih hrest
    rw [List.length_cons]
    omega

/-- What is left of a stream tells what was read. -/
theorem Takes.eq_of_same_rest {stream rest : List UInt8} {messages messages' : List Message}
    (h : Takes stream messages rest) (h' : Takes stream messages' rest) : messages = messages' := by
  have hnothing {more : List Message} (hmore : Takes rest more rest) : more = [] := by
    have hlength := hmore.length_le
    exact List.eq_nil_of_length_eq_zero (by omega)
  rcases h.linear h' with ⟨more, rfl, hmore⟩ | ⟨more, rfl, hmore⟩
  · rw [hnothing hmore, List.append_nil]
  · rw [hnothing hmore, List.append_nil]

/-- An empty stream has no message. -/
theorem Takes.nil_stream {messages : List Message} {rest : List UInt8} (h : Takes [] messages rest) :
    messages = [] := by
  cases messages with
  | nil => rfl
  | cons message messages =>
    obtain ⟨next, htake, -⟩ := h
    contradiction

/-- A machine that accepts every part of a stream refuses none of it. -/
theorem not_refuses {queue messages : List Message} {rest : List UInt8}
    (hframed : ∀ message ∈ queue, message.Framed)
    (haccepted : ∀ received, received <+: queue → (Sdk.after received).phase ≠ .failed)
    (htakes : Takes (queue.flatMap Message.encode) messages rest) :
    ¬ (Sdk.after messages).Refuses rest := by
  rintro ⟨hheader, hrefuses⟩
  have hqueue := takes_encode hframed []
  rw [List.append_nil] at hqueue
  have hrest : rest ≠ [] := by
    rintro rfl
    exact absurd hheader (by decide)
  rcases htakes.linear hqueue with ⟨more, rfl, hmore⟩ | ⟨more, -, hmore⟩
  · cases more with
    | nil => exact hrest (show [] = rest from hmore).symm
    | cons message more =>
      obtain ⟨next, htake, -⟩ := hmore
      have hfailed := hrefuses message next htake
      refine haccepted (messages ++ [message]) ⟨more, by simp⟩ ?_
      rw [Sdk.after_append]
      exact hfailed
  · obtain rfl := hmore.nil_stream
    exact hrest hmore

section Client

variable {config : Config cat} {fake : Option Bool} {tick : Tick cat} {events : List (Event cat)}
  {s : Fin maxClients}

/-- Whatever the operating system answers, no check of the SDK ends a session with the daemon. -/
theorem run_clientSession_accepted (hsignals : cat.signalCount ≤ clientMaxSignals)
    (horder : Meets (watchStep config s) (WireOrder s) (watchInit config fake tick) events)
    (hactive : ((run config fake tick events).clients s).active = true) (rounds : ℕ)
    (socketName : Option (List UInt8)) (answers : ConnectAnswers) (readerAnswers : ReaderAnswers)
    (recvs sends : List (Answer (List PollRound))) (clock : ℕ → UInt64) :
    ¬ (clientSession rounds socketName answers readerAnswers
      ⟨queuedStream ((run config fake tick events).clients s).log, [], recvs, sends, clock⟩).Refused
    := by
  obtain ⟨handled, hlockstep⟩ := run_lockstep_of_keeps (comparison_top cat)
    (fun _ _ _ _ _ _ => trivial) horder
  have haccepted (received : List Message)
      (hreceived : received <+: queuedMessages ((run config fake tick events).clients s).log) :
      (Sdk.after received).phase ≠ .failed := fun hfailed =>
    (hlockstep.coherent hactive).accepted hsignals (Sdk.after_failed hreceived hfailed)
  have hframed := run_queuesFramed config fake tick events s
  have hfollows := clientSession_follows rounds socketName answers readerAnswers
    (queuedStream ((run config fake tick events).clients s).log) recvs sends clock
  intro hrefused
  generalize clientSession rounds socketName answers readerAnswers
    ⟨queuedStream ((run config fake tick events).clients s).log, [], recvs, sends, clock⟩ = session
    at hfollows hrefused
  cases session with
  | connecting state =>
    cases state with
    | failed error reason link =>
      obtain ⟨messages, rest, htakes, -, hrefuses, -⟩ := hfollows
      exact not_refuses hframed haccepted htakes (hrefuses hrefused)
    | blocked link => exact hrefused
    | connected record link => exact hrefused
  | reading state =>
    cases state with
    | ended reason record link =>
      obtain ⟨messages, rest, htakes, -, -, hrefuses, -⟩ := hfollows
      exact not_refuses hframed haccepted htakes (hrefuses hrefused)
    | running record link => exact hrefused
    | blocked record link => exact hrefused

/-- A client on a stream with a resynchronization is not refused. -/
theorem run_clientSession_accepted_resync :
    (singleSession resyncRun).active = true ∧
      ¬ (pieceSession 1 (queuedStream (singleSession resyncRun).log) 7).Refused := by
  refine ⟨by decide +kernel, ?_⟩
  rw [singleSession]
  exact run_clientSession_accepted (by decide) (by decide +kernel) (by decide +kernel) _ _ _ _ _ _ _

/-- A session that has read everything queued to it holds the CAN IDs, states and bytes of all
canonical frames and all canonical signal records, if the daemon has it subscribed and does not want it
to resynchronize. -/
theorem run_clientSession_agrees (hinjective : Function.Injective cat.canIds)
    (horder : Meets (watchStep config s) (WireOrder s) (watchInit config fake tick) events)
    (hlive : ((run config fake tick events).clients s).Live) {rounds : ℕ}
    {socketName : Option (List UInt8)} {answers : ConnectAnswers} {readerAnswers : ReaderAnswers}
    {recvs sends : List (Answer (List PollRound))} {clock : ℕ → UInt64} {later : List UInt8}
    {record : ClientRecord} {link : Link}
    (h : clientSession rounds socketName answers readerAnswers
      ⟨queuedStream ((run config fake tick events).clients s).log ++ later, [], recvs, sends, clock⟩ =
        .reading (.running record link))
    (hread : link.unread = later) :
    let canonical := (run config fake tick events).canonical
    (∀ i : Fin cat.frameCount, (record.cache.frames i.val).canId = (canonical.frames i).canId ∧
      (record.cache.frames i.val).state = (canonical.frames i).state ∧
      (record.cache.frames i.val).data = (canonical.frames i).data) ∧
    ∀ i : Fin cat.signalCount, record.cache.signals i.val = canonical.signals i := by
  obtain ⟨handled, hlockstep⟩ := run_lockstep_of_keeps (comparison_frameMatches hinjective)
    keeps_frameMatches horder
  have hfollows := clientSession_follows rounds socketName answers readerAnswers
    (queuedStream ((run config fake tick events).clients s).log ++ later) recvs sends clock
  rw [h] at hfollows
  obtain ⟨messages, htakes, -, hrunning⟩ := hfollows
  have hqueue := takes_encode (run_queuesFramed config fake tick events s) later
  rw [hread] at htakes
  obtain rfl := htakes.eq_of_same_rest hqueue
  have hcache : record.cache = ((run config fake tick events).clients s).sdk.cache := by
    rw [hrunning.record_eq]
    rfl
  obtain ⟨hcarries, hframes, hsignals⟩ := hlockstep.agrees hlive
  rw [hcache]
  refine ⟨fun i => ⟨?_, hframes i⟩, hsignals⟩
  exact (hcarries i).trans (hlockstep.sound.canonical.frames i).1.symm

/-- A client on a stream with a resynchronization holds the canonical signals. -/
theorem run_clientSession_agrees_resync :
    ∃ record link, pieceSession 1 (queuedStream (singleSession resyncRun).log ++ []) 7 =
        .reading (.running record link) ∧
      record.resynchronizations = 1 ∧ record.cache.signals singleSignal.val =
        (run singleConfig none (singleTick 0 10) resyncRun).canonical.signals singleSignal := by
  have hcaughtUp : (pieceSession 1 (queuedStream (singleSession resyncRun).log ++ []) 7).caughtUp 1 =
      true := by
    decide +kernel
  obtain ⟨record, link, hrunning, hresynchronized, hread⟩ := ClientSession.caughtUp_running hcaughtUp
  refine ⟨record, link, hrunning, hresynchronized, ?_⟩
  rw [pieceSession, singleSession] at hrunning
  exact (run_clientSession_agrees singleCatalog_canIds_injective (by decide +kernel)
    (by decide +kernel) hrunning hread).2 singleSignal

end Client

end Roadcast
