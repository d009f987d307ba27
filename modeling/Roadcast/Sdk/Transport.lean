import Roadcast.Lib.Transfer
import Roadcast.Sdk.Memory

/-!
# The transport of the SDK

`wait_descriptor`, `write_all`, `read_exact`, `send_message` and `read_message` on a socket that does
not block. `Link` is the socket with what the kernel will answer: the bytes of the daemon that were not
read yet, the bytes that were written, and the answers to the calls of `recv`, `send`, `poll` and the
clock. A `recv` moves as much as its answer says, but no more than what is asked for and what there is.

A call that still waits when there are no more answers is blocked. One that fails leaves the reason,
which is `errno` for the transport; no caller looks at it.
-/

namespace Roadcast

open Transfer

/-- What `errno` tells after a failed transfer. -/
inductive TransportError
  | timedOut | inputOutput | brokenPipe | other
  deriving DecidableEq, Repr

/-- What `poll` answers; `revents` may hold the requested event, and one of `POLLERR`, `POLLHUP` and
`POLLNVAL`. -/
inductive PollAnswer
  | revents (requested broken : Bool)
  | interrupted
  | failed
  | expired
  deriving DecidableEq, Repr

/-- One round of `wait_descriptor`. -/
structure PollRound where
  nowNs : UInt64
  answer : PollAnswer
  deriving DecidableEq, Repr

/-- The timeout that `wait_descriptor` computes. -/
def pollTimeoutMs (deadlineNs nowNs : UInt64) : Int32 :=
  ((deadlineNs - nowNs + 999999) / 1000000).toUInt32.toInt32

/-- `wait_descriptor`. -/
def waitDescriptor (deadlineNs : UInt64) : List PollRound → Ending TransportError
  | [] => .pending
  | round :: rest =>
    if round.nowNs ≥ deadlineNs then .stopped .timedOut
    else if pollTimeoutMs deadlineNs round.nowNs ≤ 0 then .stopped .timedOut
    else
      match round.answer with
      | .revents requested broken =>
        if requested then .complete
        else if broken then .stopped .inputOutput
        else .complete
      | .interrupted => waitDescriptor deadlineNs rest
      | .failed => .stopped .other
      | .expired => .stopped .timedOut

/-- A socket, with the answers of the kernel. -/
structure Link where
  unread : List UInt8
  written : List UInt8
  recvs : List (Answer (List PollRound))
  sends : List (Answer (List PollRound))
  clock : ℕ → UInt64

/-- Why a call fails: a check of the protocol, the transport, or something outside the session. -/
inductive Reason
  | refused
  | transport (error : TransportError)
  | outside
  deriving DecidableEq, Repr

/-- What a blocking call comes to, and what it leaves. -/
inductive Outcome (S α : Type)
  | ok (value : α) (state : S)
  | failed (reason : Reason) (state : S)
  | blocked (state : S)

/-- The next call, if there is one. -/
def Outcome.bind {S α β : Type} (outcome : Outcome S α) (next : α → S → Outcome S β) : Outcome S β :=
  match outcome with
  | ok value state => next value state
  | failed reason state => .failed reason state
  | blocked state => .blocked state

/-- What a call leaves. -/
def Outcome.state {S α : Type} : Outcome S α → S
  | ok _ state | failed _ state | blocked state => state

/-- How steps one after the other are grouped does not matter. -/
theorem Outcome.bind_assoc {S α β γ : Type} (outcome : Outcome S α) (next : α → S → Outcome S β)
    (last : β → S → Outcome S γ) :
    (outcome.bind next).bind last = outcome.bind fun value state => (next value state).bind last := by
  cases outcome with
  | ok value state => rfl
  | failed reason state => rfl
  | blocked state => rfl

/-- `read_exact`. -/
def readExact (deadlineNs : UInt64) (length : ℕ) (link : Link) : Outcome Link (List UInt8) :=
  let result := transfer .brokenPipe .other (waitDescriptor deadlineNs) length link.unread.length
    link.recvs
  let after := { link with unread := link.unread.drop result.moved, recvs := result.answers }
  match result.ending with
  | .complete => .ok (link.unread.take result.moved) after
  | .stopped error => .failed (.transport error) after
  | .pending => .blocked after

/-- `write_all`. -/
def writeAll (deadlineNs : UInt64) (data : List UInt8) (link : Link) : Outcome Link Unit :=
  let result := transfer .other .other (waitDescriptor deadlineNs) data.length data.length link.sends
  let after := { link with written := link.written ++ data.take result.moved, sends := result.answers }
  match result.ending with
  | .complete => .ok () after
  | .stopped error => .failed (.transport error) after
  | .pending => .blocked after

/-- `CLIENT_READ_TIMEOUT_MS` in nanoseconds. -/
def readTimeoutNs : UInt64 := 3000 * 1000000

/-- The deadline of a message; zero is no limit. -/
def messageDeadline (maxDeadlineNs nowNs : UInt64) : UInt64 :=
  let opDeadlineNs := nowNs + readTimeoutNs
  if maxDeadlineNs ≠ 0 then if maxDeadlineNs < opDeadlineNs then maxDeadlineNs else opDeadlineNs
  else opDeadlineNs

/-- `send_message`. -/
def sendMessage (maxRequestPayload : UInt32) (type : MessageType) (payload : List UInt8)
    (maxDeadlineNs : UInt64) (link : Link) : Outcome Link Unit :=
  if payload.length > maxRequestPayload.toNat then .failed .refused link
  else
    let deadlineNs := messageDeadline maxDeadlineNs (link.clock 0)
    let header := (outgoing type 0 (link.clock 1) payload).header
    let link := { link with clock := fun n => link.clock (n + 2) }
    (writeAll deadlineNs (encodeHeader header) link).bind fun _ link =>
      if payload.length = 0 then .ok () link else writeAll deadlineNs payload link

/-- `read_message`. -/
def readMessage (payloadCapacity : ℕ) (maxDeadlineNs : UInt64) (link : Link) : Outcome Link Message :=
  let deadlineNs := messageDeadline maxDeadlineNs (link.clock 0)
  let link := { link with clock := fun n => link.clock (n + 1) }
  (readExact deadlineNs headerSize link).bind fun bytes link =>
    match decodeHeader bytes with
    | none => .failed .refused link
    | some header =>
      if header.version ≠ protocolVersion ∨ header.flags ≠ 0 ∨
          header.payloadBytes.toNat > payloadCapacity then .failed .refused link
      else if header.payloadBytes = 0 then .ok ⟨header, []⟩ link
      else
        (readExact deadlineNs header.payloadBytes.toNat link).bind fun payload link =>
          .ok ⟨header, payload⟩ link

section Reading

variable {deadlineNs maxDeadlineNs : UInt64} {link after : Link}

/-- What `read_exact` reads is the front of what the daemon sends, in whatever pieces it arrives. -/
theorem readExact_ok {length : ℕ} {bytes : List UInt8}
    (h : readExact deadlineNs length link = .ok bytes after) :
    length ≤ link.unread.length ∧ bytes = link.unread.take length ∧
      after.unread = link.unread.drop length := by
  have haccounts : (transfer .brokenPipe .other (waitDescriptor deadlineNs) length
      link.unread.length link.recvs).Accounts length link.unread.length := transfer_accounts _ _ _
  unfold readExact at h
  dsimp only at h
  split at h
  · rename_i hcomplete
    obtain ⟨rfl, rfl⟩ := Outcome.ok.inj h
    have hmoved := haccounts.complete_iff.mp hcomplete
    rw [hmoved]
    exact ⟨hmoved ▸ haccounts.moved_le_available, rfl, rfl⟩
  · contradiction
  · contradiction

/-- A message of `read_message` is the complete message at the front of the stream, which passes the
checks, and nothing behind it is touched. -/
theorem readMessage_ok {payloadCapacity : ℕ} {message : Message}
    (h : readMessage payloadCapacity maxDeadlineNs link = .ok message after) :
    SdkMemory.takeMessage link.unread = some (message, after.unread) ∧
      message.payload.length = message.header.payloadBytes.toNat ∧
      ¬ (message.header.version ≠ protocolVersion ∨ message.header.flags ≠ 0 ∨
        message.header.payloadBytes.toNat > payloadCapacity) ∧
      after.unread.length < link.unread.length := by
  unfold readMessage at h
  dsimp only at h
  cases hfront : readExact (messageDeadline maxDeadlineNs (link.clock 0)) headerSize
    { link with clock := fun n => link.clock (n + 1) } with
  | failed reason link' =>
    rw [hfront] at h
    contradiction
  | blocked link' =>
    rw [hfront] at h
    contradiction
  | ok bytes link' =>
    obtain ⟨hlength, rfl, hunread⟩ := readExact_ok hfront
    dsimp only at hlength hunread
    rw [hfront, Outcome.bind] at h
    dsimp only at h
    rw [decodeHeader_take (Nat.le_refl headerSize)] at h
    have hsize : 0 < headerSize := by decide
    cases hheader : decodeHeader link.unread with
    | none =>
      rw [hheader] at h
      contradiction
    | some header =>
      rw [hheader] at h
      dsimp only at h
      rw [SdkMemory.takeMessage, if_neg (Nat.not_lt.mpr hlength), hheader, Option.map_some]
      split at h
      · contradiction
      rename_i hchecks
      split at h
      · rename_i hempty
        obtain ⟨rfl, rfl⟩ := Outcome.ok.inj h
        refine ⟨by simp [hempty, hunread], by simp [hempty], hchecks, ?_⟩
        rw [hunread, List.length_drop]
        omega
      · cases hpayload : readExact (messageDeadline maxDeadlineNs (link.clock 0))
          header.payloadBytes.toNat link' with
        | failed reason link'' =>
          rw [hpayload] at h
          contradiction
        | blocked link'' =>
          rw [hpayload] at h
          contradiction
        | ok payload link'' =>
          obtain ⟨hrest, rfl, hunread'⟩ := readExact_ok hpayload
          rw [hpayload, Outcome.bind] at h
          obtain ⟨rfl, rfl⟩ := Outcome.ok.inj h
          rw [hunread] at hunread' hrest
          refine ⟨by simp [hunread, hunread', List.drop_drop], ?_, hchecks, ?_⟩
          · rw [hunread, List.length_take]
            exact Nat.min_eq_left hrest
          · rw [hunread', List.length_drop, List.length_drop]
            omega

/-- `read_exact` checks nothing. -/
theorem readExact_ne_refused {length : ℕ} :
    readExact deadlineNs length link ≠ .failed .refused after := by
  intro h
  unfold readExact at h
  dsimp only at h
  split at h
  · contradiction
  · injection h with hreason
    contradiction
  · contradiction

/-- The next header is not one of the protocol, or has fields that are refused. -/
theorem readMessage_refused {payloadCapacity : ℕ}
    (h : readMessage payloadCapacity maxDeadlineNs link = .failed .refused after) :
    headerSize ≤ link.unread.length ∧
      ∀ message rest, SdkMemory.takeMessage link.unread = some (message, rest) →
        message.header.version ≠ protocolVersion ∨ message.header.flags ≠ 0 ∨
          message.header.payloadBytes.toNat > payloadCapacity := by
  unfold readMessage at h
  dsimp only at h
  cases hfront : readExact (messageDeadline maxDeadlineNs (link.clock 0)) headerSize
    { link with clock := fun n => link.clock (n + 1) } with
  | failed reason link' =>
    rw [hfront] at h
    obtain ⟨rfl, rfl⟩ := Outcome.failed.inj h
    exact absurd hfront readExact_ne_refused
  | blocked link' =>
    rw [hfront] at h
    contradiction
  | ok bytes link' =>
    obtain ⟨hlength, rfl, -⟩ := readExact_ok hfront
    refine ⟨hlength, fun message rest htake => ?_⟩
    rw [hfront, Outcome.bind] at h
    dsimp only at h
    rw [decodeHeader_take (Nat.le_refl headerSize)] at h
    rw [SdkMemory.takeMessage, if_neg (Nat.not_lt.mpr hlength)] at htake
    cases hheader : decodeHeader link.unread with
    | none =>
      rw [hheader] at htake
      contradiction
    | some header =>
      rw [hheader] at h htake
      obtain ⟨rfl, rfl⟩ := Prod.mk.inj (Option.some.inj htake)
      dsimp only at h ⊢
      by_contra hchecks
      rw [if_neg hchecks] at h
      split at h
      · contradiction
      · cases hpayload : readExact (messageDeadline maxDeadlineNs (link.clock 0))
          header.payloadBytes.toNat link' with
        | failed reason link'' =>
          rw [hpayload] at h
          obtain ⟨rfl, rfl⟩ := Outcome.failed.inj h
          exact readExact_ne_refused hpayload
        | blocked link'' =>
          rw [hpayload] at h
          contradiction
        | ok payload link'' =>
          rw [hpayload] at h
          contradiction

/-- Reading writes nothing. -/
theorem readExact_written (deadlineNs : UInt64) (length : ℕ) (link : Link) :
    (readExact deadlineNs length link).state.written = link.written := by
  unfold readExact
  dsimp only
  split
  · rfl
  · rfl
  · rfl

/-- Steps that write nothing, one after the other. -/
theorem Outcome.bind_written {α β : Type} {first : Outcome Link α} {next : α → Link → Outcome Link β}
    {written : List UInt8} (hfirst : first.state.written = written)
    (hnext : ∀ value link, link.written = written → (next value link).state.written = written) :
    (first.bind next).state.written = written := by
  cases first with
  | ok value link => exact hnext value link hfirst
  | failed reason link => exact hfirst
  | blocked link => exact hfirst

/-- Reading writes nothing. -/
theorem readMessage_written (payloadCapacity : ℕ) (maxDeadlineNs : UInt64) (link : Link) :
    (readMessage payloadCapacity maxDeadlineNs link).state.written = link.written := by
  refine Outcome.bind_written (readExact_written _ _ _) fun bytes link' hwritten => ?_
  cases decodeHeader bytes with
  | none => exact hwritten
  | some header =>
    dsimp only
    split
    · exact hwritten
    split
    · exact hwritten
    · refine Outcome.bind_written ((readExact_written _ _ _).trans hwritten) fun _ _ h => h

end Reading

section Writing

variable {deadlineNs maxDeadlineNs : UInt64} {link : Link}

/-- A call has written these bytes, all of them if it succeeds and otherwise a front of them, and has
read nothing. Only the transport fails it. -/
def Outcome.Writes (link : Link) (bytes : List UInt8) : Outcome Link Unit → Prop
  | .ok _ after => after.written = link.written ++ bytes ∧ after.unread = link.unread
  | .failed reason after => reason ≠ .refused ∧
    ∃ front, front <+: bytes ∧ after.written = link.written ++ front
  | .blocked after => ∃ front, front <+: bytes ∧ after.written = link.written ++ front

/-- `write_all` writes its data, or a front of them. -/
theorem writeAll_writes (data : List UInt8) : (writeAll deadlineNs data link).Writes link data := by
  have haccounts : (transfer .other .other (waitDescriptor deadlineNs) data.length data.length
      link.sends).Accounts data.length data.length := transfer_accounts _ _ _
  unfold writeAll
  dsimp only
  split
  · rename_i hcomplete
    have hmoved := haccounts.complete_iff.mp hcomplete
    exact ⟨by rw [hmoved, List.take_length], rfl⟩
  · exact ⟨Reason.noConfusion, _, List.take_prefix _ _, rfl⟩
  · exact ⟨_, List.take_prefix _ _, rfl⟩

/-- What steps write, one after the other. -/
theorem Outcome.Writes.bind {first : Outcome Link Unit} {next : Unit → Link → Outcome Link Unit}
    {bytes more : List UInt8} (hfirst : first.Writes link bytes)
    (hnext : ∀ value after, (next value after).Writes after more) :
    (first.bind next).Writes link (bytes ++ more) := by
  have hpart {after : Link} (h : ∃ front, front <+: bytes ∧ after.written = link.written ++ front) :
      ∃ front, front <+: bytes ++ more ∧ after.written = link.written ++ front := by
    obtain ⟨front, hfront, hwritten⟩ := h
    exact ⟨front, hfront.trans (List.prefix_append _ _), hwritten⟩
  cases first with
  | failed reason after => exact ⟨hfirst.1, hpart hfirst.2⟩
  | blocked after => exact hpart hfirst
  | ok value after =>
    obtain ⟨hwritten, hunread⟩ := hfirst
    have hrest {last : Link} (h : ∃ front, front <+: more ∧ last.written = after.written ++ front) :
        ∃ front, front <+: bytes ++ more ∧ last.written = link.written ++ front := by
      obtain ⟨front, hfront, hlast⟩ := h
      exact ⟨bytes ++ front, (List.prefix_append_right_inj bytes).mpr hfront, by
        rw [hlast, hwritten, List.append_assoc]⟩
    have hsecond := hnext value after
    rw [Outcome.bind]
    cases houtcome : next value after with
    | ok value' last =>
      rw [houtcome] at hsecond
      exact ⟨by rw [hsecond.1, hwritten, List.append_assoc], hsecond.2.trans hunread⟩
    | failed reason last =>
      rw [houtcome] at hsecond
      exact ⟨hsecond.1, hrest hsecond.2⟩
    | blocked last =>
      rw [houtcome] at hsecond
      exact hrest hsecond

/-- What `send_message` writes is one message, or the front of it. -/
theorem sendMessage_writes {maxRequestPayload : UInt32} {type : MessageType} {payload : List UInt8}
    (hsize : payload.length ≤ maxRequestPayload.toNat) :
    (sendMessage maxRequestPayload type payload maxDeadlineNs link).Writes link
      (outgoing type 0 (link.clock 1) payload).encode := by
  unfold sendMessage
  rw [if_neg (Nat.not_lt.mpr hsize)]
  refine Outcome.Writes.bind (writeAll_writes _) fun _ after => ?_
  split
  · rename_i hempty
    have hpayload : (outgoing type 0 (link.clock 1) payload).payload = [] :=
      List.length_eq_zero_iff.mp hempty
    rw [hpayload]
    exact ⟨(List.append_nil _).symm, rfl⟩
  · exact writeAll_writes _

end Writing

end Roadcast
