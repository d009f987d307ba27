import Roadcast.Catalog.Tables

/-!
# The source session

`roadcast_source_session_read` of `source_session.c`. What the operating system does is an input of
each read: whether `roadcast_vhal_open` finds the process and which frames it resolves there, and
whether `roadcast_vhal_read` fails, reads all frames at once or falls back to one read per frame.
A source that has been opened keeps its resolved addresses until it is closed.

Deadlines count nanoseconds since boot and are natural numbers.
-/

namespace Roadcast

variable (cat : Catalog)

/-- `RETRY_INITIAL_NS`. -/
def retryInitialNs : ℕ := 250000000

/-- `RETRY_MAX_NS`. -/
def retryMaxNs : ℕ := 30000000000

/-- `roadcast_source_session_t`; `resolved` tells which addresses of the open source are set. -/
structure SourceSession where
  resolved : Fin cat.frameCount → Bool
  retryAtNs : ℕ
  retryDelayNs : ℕ
  generation : ℕ
  connected : Bool

/-- The outcomes of the system calls behind one read. -/
structure SourceAttempt where
  opened : Option (Fin cat.frameCount → Bool)
  bytes : Option (Bool × (Fin cat.frameCount → FrameData))

/-- The result codes of a read: `ROADCAST_SOURCE_WAITING`, `-1`, `0` and `1`. -/
inductive ReadResult
  | waiting | failed | vectored | fallback
  deriving DecidableEq, Repr

/-- The test `read_result >= 0`. -/
def ReadResult.succeeded : ReadResult → Bool
  | vectored | fallback => true
  | waiting | failed => false

variable {cat}

/-- `mark_unavailable`. -/
def markUnavailable (i : Fin cat.frameCount) : Frame :=
  { zeroFrame with canId := cat.canIds i, state := .unavailable }

/-- The frames a successful `roadcast_vhal_read` fills in; unresolved ones are zeroed. -/
def vhalFrames (resolved : Fin cat.frameCount → Bool) (bytes : Fin cat.frameCount → FrameData)
    (i : Fin cat.frameCount) : Frame :=
  { canId := cat.canIds i
    state := if resolved i then .neverObserved else .unavailable
    data := if resolved i then bytes i else zeroData
    firstObservedNs := 0
    lastChangeNs := 0 }

/-- `schedule_retry`. -/
def scheduleRetry (session : SourceSession cat) (nowNs : ℕ) : SourceSession cat :=
  { session with
    resolved := fun _ => false
    connected := false
    retryAtNs := nowNs + session.retryDelayNs
    retryDelayNs := if session.retryDelayNs < retryMaxNs / 2 then session.retryDelayNs * 2
      else retryMaxNs }

/-- `roadcast_source_session_init`. -/
def sourceSessionInit : SourceSession cat :=
  { resolved := fun _ => false
    retryAtNs := 0
    retryDelayNs := retryInitialNs
    generation := 0
    connected := false }

/-- The read of a connected session, `roadcast_vhal_read` and what follows it. -/
def sourceSessionReadConnected (session : SourceSession cat) (attempt : SourceAttempt cat)
    (nowNs : ℕ) : SourceSession cat × ReadResult × (Fin cat.frameCount → Frame) :=
  match attempt.bytes with
  | none => (scheduleRetry session nowNs, .failed, markUnavailable)
  | some (fallback, bytes) =>
    ({ session with retryDelayNs := retryInitialNs },
      if fallback then .fallback else .vectored, vhalFrames session.resolved bytes)

/-- The session right after `roadcast_vhal_open` succeeded. -/
def sourceSessionOpened (session : SourceSession cat) (resolved : Fin cat.frameCount → Bool) :
    SourceSession cat :=
  { session with
    resolved := resolved
    connected := true
    generation := session.generation + 1 }

/-- `roadcast_source_session_read`. -/
def sourceSessionRead (session : SourceSession cat) (attempt : SourceAttempt cat) (nowNs : ℕ) :
    SourceSession cat × ReadResult × (Fin cat.frameCount → Frame) :=
  if session.connected then sourceSessionReadConnected session attempt nowNs
  else if nowNs < session.retryAtNs then (session, .waiting, markUnavailable)
  else
    match attempt.opened with
    | none => (scheduleRetry session nowNs, .failed, markUnavailable)
    | some resolved =>
      sourceSessionReadConnected (sourceSessionOpened session resolved) attempt nowNs

/-- The session, the result and the frames of a read that did not deliver. -/
def ReadFailed (session : SourceSession cat)
    (outcome : SourceSession cat × ReadResult × (Fin cat.frameCount → Frame)) : Prop :=
  outcome.2.1.succeeded = false ∧ outcome.2.2 = markUnavailable ∧ outcome.1.connected = false ∧
    session.generation ≤ outcome.1.generation

/-- A successful read delivers the open source's frames and leaves the session connected. -/
def ReadDelivered (outcome : SourceSession cat × ReadResult × (Fin cat.frameCount → Frame)) : Prop :=
  outcome.2.1.succeeded = true ∧ outcome.1.connected = true ∧
    ∃ bytes, outcome.2.2 = vhalFrames outcome.1.resolved bytes

/-- Reading an open source fails and disconnects, or delivers and keeps the source. -/
theorem sourceSessionReadConnected_cases (session : SourceSession cat)
    (attempt : SourceAttempt cat) (nowNs : ℕ) (hconnected : session.connected = true) :
    ReadFailed session (sourceSessionReadConnected session attempt nowNs) ∨
    (ReadDelivered (sourceSessionReadConnected session attempt nowNs) ∧
      (sourceSessionReadConnected session attempt nowNs).1.generation = session.generation ∧
      (sourceSessionReadConnected session attempt nowNs).1.resolved = session.resolved) := by
  unfold sourceSessionReadConnected
  cases attempt.bytes with
  | none => exact Or.inl ⟨rfl, rfl, rfl, le_rfl⟩
  | some read =>
    obtain ⟨fallback, bytes⟩ := read
    exact Or.inr ⟨⟨by cases fallback <;> rfl, hconnected, bytes, rfl⟩, rfl, rfl⟩

/-- What one read can do.

A connected session reads its open source; a disconnected one waits, fails to open, or opens a new
generation and reads it at once. Only a successful read leaves the session connected. -/
theorem sourceSessionRead_cases (session : SourceSession cat) (attempt : SourceAttempt cat)
    (nowNs : ℕ) :
    ReadFailed session (sourceSessionRead session attempt nowNs) ∨
    (ReadDelivered (sourceSessionRead session attempt nowNs) ∧
      ((session.connected = true ∧
          (sourceSessionRead session attempt nowNs).1.generation = session.generation ∧
          (sourceSessionRead session attempt nowNs).1.resolved = session.resolved) ∨
        (session.connected = false ∧
          (sourceSessionRead session attempt nowNs).1.generation = session.generation + 1))) := by
  unfold sourceSessionRead
  cases hconnected : session.connected with
  | true =>
    rw [if_pos rfl]
    rcases sourceSessionReadConnected_cases session attempt nowNs hconnected with hfail | hread
    · exact Or.inl hfail
    · exact Or.inr ⟨hread.1, Or.inl ⟨rfl, hread.2⟩⟩
  | false =>
    rw [if_neg (by simp)]
    split
    · exact Or.inl ⟨rfl, rfl, hconnected, le_rfl⟩
    · cases attempt.opened with
      | none => exact Or.inl ⟨rfl, rfl, rfl, le_rfl⟩
      | some resolved =>
        dsimp only
        rcases sourceSessionReadConnected_cases (sourceSessionOpened session resolved) attempt nowNs
          rfl with hfail | hread
        · obtain ⟨hresult, hframes, hclosed, hgeneration⟩ := hfail
          exact Or.inl ⟨hresult, hframes, hclosed, (Nat.le_succ _).trans hgeneration⟩
        · exact Or.inr ⟨hread.1, Or.inr ⟨rfl, hread.2.1⟩⟩

end Roadcast
