import Roadcast.Sdk.Blocking
import Roadcast.Sdk.Steps

/-!
# Connecting

`roadcast_client_connect` with its error codes. The socket and the memory are answers of the operating
system like those of the transport. `connect_socket` waits until the socket can be written to, and then
asks for the error of the connection. A connection that fails within the session ends with the error of
the phase that the machine is in after the messages that were read.
-/

namespace Roadcast

open Transfer

/-- `CLIENT_SETUP_TIMEOUT_MS` in nanoseconds. -/
def clientSetupTimeoutNs : UInt64 := 10000 * 1000000

/-- `roadcast_client_error`, as far as `roadcast_client_connect` sets it. -/
inductive ClientError
  | argument | socket | handshake | schema | snapshot | memory | thread
  deriving DecidableEq, Repr

/-- The size of `sun_path`. -/
def sunPathSize : ℕ := 108

/-- `fill_unix_address`: the bytes of `sun_path` that count. A name that begins with `@` is abstract. -/
def fillUnixAddress (name : List UInt8) : Option (List UInt8) :=
  if name.length = 0 ∨ name.length ≥ sunPathSize then none
  else if name.head? = some 64 then some (0 :: name.tail)
  else some (name ++ [0])

/-- What `connect` answers. -/
inductive ConnectAnswer
  | established
  | inProgress (rounds : List PollRound) (soError : Bool)
  | failed

/-- What the system calls of `connect_socket` answer; `connect` may depend on the address. -/
structure SocketAnswers where
  socket : Bool
  nonblocking : Bool
  connect : List UInt8 → ConnectAnswer

/-- `connect_socket`. -/
def connectSocket (name : List UInt8) (answers : SocketAnswers) (deadlineNs : UInt64) :
    Ending TransportError :=
  if answers.socket = false ∨ answers.nonblocking = false then .stopped .other
  else
    match fillUnixAddress name with
    | none => .stopped .other
    | some address =>
      match answers.connect address with
      | .established => .complete
      | .failed => .stopped .other
      | .inProgress rounds soError =>
        match waitDescriptor deadlineNs rounds with
        | .complete => if soError then .stopped .other else .complete
        | ending => ending

/-- What `roadcast_client_connect` meets besides the transport: whether each of its allocations and
`pthread_create` succeed. -/
structure ConnectAnswers where
  client : Bool
  payload : Bool
  socket : SocketAnswers
  payloadGrown : Bool
  arrays : Bool
  synchronization : Bool
  thread : Bool

/-- What `roadcast_client_connect` comes to. -/
inductive Connecting
  | failed (error : ClientError) (reason : Reason) (link : Link)
  | blocked (link : Link)
  | connected (record : ClientRecord) (link : Link)

/-- `roadcast_client_connect` from `perform_handshake` on. -/
def setUp (answers : ConnectAnswers) (deadlineNs : UInt64) (link : Link) : Connecting :=
  match performHandshake deadlineNs link with
  | .failed reason link => .failed .handshake reason link
  | .blocked link => .blocked link
  | .ok welcome link =>
    if answers.payloadGrown = false ∨ answers.arrays = false then .failed .memory .outside link
    else
      match ClientRecord.requestSchema deadlineNs (.welcomed welcome) 0 link with
      | .failed reason link => .failed .schema reason link
      | .blocked link => .blocked link
      | .ok record link =>
        if answers.synchronization = false then .failed .memory .outside link
        else
          match record.synchronize deadlineNs link with
          | .failed reason (_, link) => .failed .snapshot reason link
          | .blocked (_, link) => .blocked link
          | .ok synchronization (record, link) =>
            if answers.thread = false then .failed .thread .outside link
            else .connected (record.commitSynchronization synchronization) link

/-- `roadcast_client_connect`. -/
def roadcastClientConnect (socketName : Option (List UInt8)) (answers : ConnectAnswers)
    (link : Link) : Connecting :=
  match socketName with
  | none | some [] => .failed .argument .outside link
  | some name =>
    if answers.client = false ∨ answers.payload = false then .failed .memory .outside link
    else
      let setupDeadlineNs := link.clock 0 + clientSetupTimeoutNs
      let link := { link with clock := fun n => link.clock (n + 1) }
      match connectSocket name answers.socket setupDeadlineNs with
      | .stopped _ => .failed .socket .outside link
      | .pending => .blocked link
      | .complete => setUp answers setupDeadlineNs link

/-! ## The phases of a connection -/

/-- The error that a phase of the setup ends with. -/
def Phase.connectError : Phase → Option ClientError
  | .handshake => some .handshake
  | .schema _ => some .schema
  | .frames _ | .signals _ | .subscription => some .snapshot
  | .live | .failed => none

/-- A connection that fails while it synchronizes reports the snapshot. -/
theorem Phase.Synchronizing.connectError {phase : Phase} (h : phase.Synchronizing) :
    phase.connectError = some .snapshot := by
  cases phase with
  | frames next => rfl
  | signals next => rfl
  | subscription => rfl
  | handshake => exact absurd h id
  | schema next => exact absurd h id
  | live => exact absurd h id
  | failed => exact absurd h id

/-- The errors that do not come from the session with the daemon. -/
def ClientError.IsLocal : ClientError → Prop
  | .argument | .memory | .socket | .thread => True
  | .handshake | .schema | .snapshot => False

/-- A setup under way, which has read some messages and written the front of its requests. -/
def SettingUp (unread : List UInt8) (link : Link) (holds : List UInt8 → Sdk → Prop) : Prop :=
  ∃ messages rest, Takes unread messages rest ∧
    CarriesFront (Sdk.after messages).sent link.written ∧ holds rest (Sdk.after messages)

/-- A live session: the machine has become live with the last message that was read. -/
def Established (unread : List UInt8) (record : ClientRecord) (link : Link) : Prop :=
  ∃ messages synchronization sent, Takes unread messages link.unread ∧
    Sdk.connect.liveReads messages = 0 ∧
    Sdk.after messages = record.machine .live synchronization true sent ∧ Carries sent link.written ∧
    8 ≤ record.welcome.maxRequestPayload.toNat

/-- What `roadcast_client_connect` has to do with the machine. The error is that of the phase, and a
check only fails if the machine does. -/
def Connecting.Follows (unread : List UInt8) : Connecting → Prop
  | .failed error reason link => SettingUp unread link fun rest sdk =>
    (reason = .refused → sdk.Refuses rest) ∧
      (error.IsLocal ∧ reason = .outside ∨ sdk.phase.connectError = some error)
  | .blocked link => SettingUp unread link fun _ sdk => sdk.phase.connectError.isSome
  | .connected record link => Established unread record link

/-- The setup goes through the phases of the machine, and fails with the error of the phase. -/
theorem setUp_follows (answers : ConnectAnswers) (deadlineNs : UInt64) {link : Link}
    (hwritten : link.written = []) : (setUp answers deadlineNs link).Follows link.unread := by
  have hnone : Carries [] link.written := ⟨[], rfl, hwritten⟩
  have hhandshake := performHandshake_meets deadlineNs hnone
  have hhandshakeError (sdk : Sdk) (h : sdk.phase = .handshake) :
      sdk.phase.connectError = some .handshake := by
    rw [h]
    rfl
  have hschemaError (sdk : Sdk) (h : ∃ next, sdk.phase = .schema next) :
      sdk.phase.connectError = some .schema := by
    obtain ⟨next, hphase⟩ := h
    rw [hphase]
    rfl
  unfold setUp
  cases hwelcome : performHandshake deadlineNs link with
  | failed reason after =>
    rw [hwelcome] at hhandshake
    obtain ⟨messages, rest, htakes, hfront, hrefused, hphase⟩ := hhandshake
    exact ⟨messages, rest, htakes, hfront, hrefused, Or.inr (hhandshakeError _ hphase)⟩
  | blocked after =>
    rw [hwelcome] at hhandshake
    obtain ⟨messages, rest, htakes, hfront, hphase⟩ := hhandshake
    exact ⟨messages, rest, htakes, hfront, Option.isSome_of_mem (hhandshakeError _ hphase)⟩
  | ok welcome after =>
    rw [hwelcome] at hhandshake
    obtain ⟨messages, htakes, hbefore, hsupported, sent, hcarries, hsdk⟩ := hhandshake
    by_cases hmemory : answers.payloadGrown = false ∨ answers.arrays = false
    · simp only [if_pos hmemory]
      refine ⟨messages, after.unread, htakes, hcarries.front_of_prefix ?_, Reason.noConfusion,
        Or.inl ⟨trivial, rfl⟩⟩
      rw [Sdk.after, hsdk]
      apply Sdk.requestSchema_sent
      exact List.prefix_rfl
    simp only [if_neg hmemory]
    have hrequest : 8 ≤ welcome.maxRequestPayload.toNat := hsupported.2.2.2.2.2.2.1
    have hschema := requestSchema_meets deadlineNs (.welcomed welcome) hrequest 0 .handshake sent
      hcarries
    rw [← hsdk] at hschema
    have hschema := hschema.onward htakes hbefore
    cases hentries : ClientRecord.requestSchema deadlineNs (.welcomed welcome) 0 after with
    | failed reason after =>
      rw [hentries] at hschema
      obtain ⟨messages, rest, htakes, hfront, hrefused, hphase⟩ := hschema
      exact ⟨messages, rest, htakes, hfront, hrefused, Or.inr (hschemaError _ hphase)⟩
    | blocked after =>
      rw [hentries] at hschema
      obtain ⟨messages, rest, htakes, hfront, hphase⟩ := hschema
      exact ⟨messages, rest, htakes, hfront, Option.isSome_of_mem (hschemaError _ hphase)⟩
    | ok record after =>
      rw [hentries] at hschema
      obtain ⟨messages, htakes, hbefore, hsame, phase, sent, hcarries, hsdk⟩ := hschema
      by_cases hmemory : answers.synchronization = false
      · simp only [if_pos hmemory]
        refine ⟨messages, after.unread, htakes, hcarries.front_of_prefix ?_, Reason.noConfusion,
          Or.inl ⟨trivial, rfl⟩⟩
        rw [Sdk.after, hsdk]
        apply Sdk.requestFrames_sent
        exact List.prefix_rfl
      simp only [if_neg hmemory]
      have hfits : 8 ≤ record.welcome.maxRequestPayload.toNat := by
        rw [hsame]
        exact hrequest
      have hsnapshot := synchronize_meets deadlineNs record false hfits phase .zero sent hcarries
      rw [← hsdk] at hsnapshot
      have hsnapshot := hsnapshot.onward htakes hbefore
      cases hcommit : record.synchronize deadlineNs after with
      | failed reason state =>
        rw [hcommit] at hsnapshot
        obtain ⟨messages, rest, htakes, hfront, hrefused, -, hphase⟩ := hsnapshot
        exact ⟨messages, rest, htakes, hfront, hrefused, Or.inr hphase.connectError⟩
      | blocked state =>
        rw [hcommit] at hsnapshot
        obtain ⟨messages, rest, htakes, hfront, -, hphase⟩ := hsnapshot
        exact ⟨messages, rest, htakes, hfront, Option.isSome_of_mem hphase.connectError⟩
      | ok synchronization state =>
        rw [hcommit] at hsnapshot
        obtain ⟨messages, htakes, hbefore, hsame', applied, sent, hcarries, hsdk⟩ := hsnapshot
        by_cases hthread : answers.thread = false
        · simp only [if_pos hthread]
          refine ⟨messages, _, htakes, ?_, Reason.noConfusion, Or.inl ⟨trivial, rfl⟩⟩
          rw [Sdk.after, hsdk]
          exact hcarries.front
        · simp only [if_neg hthread]
          refine ⟨messages, synchronization, sent, htakes, hbefore, hsdk, hcarries, ?_⟩
          change 8 ≤ state.1.welcome.maxRequestPayload.toNat
          rw [hsame']
          exact hfits

/-- The blocking code of a connection follows the state machine of the session. -/
theorem roadcastClientConnect_follows (socketName : Option (List UInt8)) (answers : ConnectAnswers)
    {link : Link} (hwritten : link.written = []) :
    (roadcastClientConnect socketName answers link).Follows link.unread := by
  -- nothing has been read or written before the handshake
  have hfront : CarriesFront (Sdk.after []).sent link.written := by
    rw [hwritten]
    exact Carries.front_of_prefix ⟨[], rfl, rfl⟩ List.nil_prefix
  unfold roadcastClientConnect
  split
  · exact ⟨[], link.unread, rfl, hfront, Reason.noConfusion, Or.inl ⟨trivial, rfl⟩⟩
  · exact ⟨[], link.unread, rfl, hfront, Reason.noConfusion, Or.inl ⟨trivial, rfl⟩⟩
  · split
    · exact ⟨[], link.unread, rfl, hfront, Reason.noConfusion, Or.inl ⟨trivial, rfl⟩⟩
    · have hlater : { link with clock := fun n => link.clock (n + 1) }.written = [] := hwritten
      have hsetUp := setUp_follows answers (link.clock 0 + clientSetupTimeoutNs) hlater
      dsimp only at hsetUp ⊢
      split
      · exact ⟨[], link.unread, rfl, hfront, Reason.noConfusion, Or.inl ⟨trivial, rfl⟩⟩
      · have hstart : (Sdk.after []).phase.connectError = some .handshake := by decide
        exact ⟨[], link.unread, rfl, hfront, Option.isSome_of_mem hstart⟩
      · exact hsetUp

end Roadcast
