import Mathlib.Data.List.Induction
import Roadcast.Catalog.Decode
import Roadcast.Source.Session

/-!
# The back-off of the source session

`source_session.c` once more, with the 64-bit fields of `roadcast_source_session_t` and the calls
that a read makes into `vhal_source.c`. As long as the clock stays 30 s below the end of its range
nothing wraps, and the session does what `sourceSessionRead` does.

Along a run the delay depends only on the number of attempts that failed since the last successful
read: it doubles from 250 ms up to 16 s and is 30 s from the eighth attempt on. A source is opened at
most once in 250 ms, so the generation counts all successful opens without wrapping.
-/

namespace Roadcast

variable {cat : Catalog}

/-- `roadcast_source_session_t`. -/
structure SessionWords (cat : Catalog) where
  resolved : Fin cat.frameCount → Bool
  retryAtNs : UInt64
  retryDelayNs : UInt64
  generation : UInt64
  connected : Bool

/-- A call into `vhal_source.c`, and whether an open succeeds. -/
inductive VhalCall
  | opened (succeeded : Bool)
  | read
  | closed
  deriving DecidableEq, Repr

/-- A call of `roadcast_source_session_read`: the clock, and what the calls it makes will do. -/
structure SessionRead (cat : Catalog) where
  nowNs : UInt64
  attempt : SourceAttempt cat

/-- What a call of `roadcast_source_session_read` leaves, returns and does. -/
structure ReadOutcome (cat : Catalog) where
  session : SessionWords cat
  result : ReadResult
  frames : Fin cat.frameCount → Frame
  calls : List VhalCall

namespace SessionWords

/-- `RETRY_INITIAL_NS`. -/
def retryInitial : UInt64 := 250000000

/-- `RETRY_MAX_NS`. -/
def retryMax : UInt64 := 30000000000

/-- `roadcast_source_session_init`. -/
def init : SessionWords cat := ⟨fun _ => false, 0, retryInitial, 0, false⟩

/-- `schedule_retry`. -/
def scheduleRetry (session : SessionWords cat) (nowNs : UInt64) : SessionWords cat :=
  { session with
    resolved := fun _ => false
    connected := false
    retryAtNs := nowNs + session.retryDelayNs
    retryDelayNs := if session.retryDelayNs < retryMax / 2 then session.retryDelayNs * 2
      else retryMax }

/-- The part of `roadcast_source_session_read` that reads an open source. -/
def readConnected (session : SessionWords cat) (read : SessionRead cat) : ReadOutcome cat :=
  match read.attempt.bytes with
  | none => ⟨session.scheduleRetry read.nowNs, .failed, markUnavailable, [.read, .closed]⟩
  | some (fallback, bytes) =>
    ⟨{ session with retryDelayNs := retryInitial }, if fallback then .fallback else .vectored,
      vhalFrames session.resolved bytes, [.read]⟩

/-- The session right after `roadcast_vhal_open` succeeded. -/
def opened (session : SessionWords cat) (resolved : Fin cat.frameCount → Bool) : SessionWords cat :=
  { session with
    resolved := resolved
    connected := true
    generation := session.generation + 1 }

/-- `roadcast_source_session_read`. -/
def read (session : SessionWords cat) (read : SessionRead cat) : ReadOutcome cat :=
  if session.connected then session.readConnected read
  else if read.nowNs < session.retryAtNs then ⟨session, .waiting, markUnavailable, []⟩
  else
    match read.attempt.opened with
    | none =>
      ⟨session.scheduleRetry read.nowNs, .failed, markUnavailable, [.opened false, .closed]⟩
    | some resolved =>
      let outcome := (session.opened resolved).readConnected read
      { outcome with calls := .opened true :: outcome.calls }

/-- The session in natural numbers. -/
def view (session : SessionWords cat) : SourceSession cat :=
  ⟨session.resolved, session.retryAtNs.toNat, session.retryDelayNs.toNat,
    session.generation.toNat, session.connected⟩

section Steps

/-- The source that a read reads: the one that is open, or one that it opens first. -/
def Reads (session : SessionWords cat) (nowNs : UInt64) (source : SessionWords cat)
    (calls : List VhalCall) : Prop :=
  (session.connected = true ∧ source = session ∧ calls = []) ∨
    (session.connected = false ∧ session.retryAtNs ≤ nowNs ∧
      (∃ resolved, source = session.opened resolved) ∧ calls = [.opened true])

/-- What a call of `roadcast_source_session_read` can do. -/
inductive ReadCase (session : SessionWords cat) (nowNs : UInt64) : ReadOutcome cat → Prop
  | waiting (hclosed : session.connected = false) (hearly : nowNs < session.retryAtNs) :
    ReadCase session nowNs ⟨session, .waiting, markUnavailable, []⟩
  | openFailed (hclosed : session.connected = false) (hdue : session.retryAtNs ≤ nowNs) :
    ReadCase session nowNs
      ⟨session.scheduleRetry nowNs, .failed, markUnavailable, [.opened false, .closed]⟩
  | readFailed (source : SessionWords cat) (calls : List VhalCall)
      (hsource : session.Reads nowNs source calls) :
    ReadCase session nowNs
      ⟨source.scheduleRetry nowNs, .failed, markUnavailable, calls ++ [.read, .closed]⟩
  | delivered (source : SessionWords cat) (calls : List VhalCall)
      (hsource : session.Reads nowNs source calls) (result : ReadResult)
      (hresult : result.succeeded = true) (frames : Fin cat.frameCount → Frame) :
    ReadCase session nowNs
      ⟨{ source with retryDelayNs := retryInitial }, result, frames, calls ++ [.read]⟩

/-- A read with a source delivers, or fails and closes it. -/
theorem readConnected_cases {session source : SessionWords cat} {read : SessionRead cat}
    {calls : List VhalCall} (hsource : session.Reads read.nowNs source calls) :
    ReadCase session read.nowNs { source.readConnected read with
      calls := calls ++ (source.readConnected read).calls } := by
  unfold readConnected
  cases read.attempt.bytes with
  | none => exact .readFailed source calls hsource
  | some delivered =>
    obtain ⟨fallback, bytes⟩ := delivered
    cases fallback with
    | true => exact .delivered source calls hsource .fallback rfl _
    | false => exact .delivered source calls hsource .vectored rfl _

/-- A read waits, fails to open, or reads with a source. -/
theorem read_cases (session : SessionWords cat) (read : SessionRead cat) :
    ReadCase session read.nowNs (session.read read) := by
  unfold SessionWords.read
  split
  · rename_i hconnected
    exact readConnected_cases (Or.inl ⟨hconnected, rfl, rfl⟩)
  rename_i hconnected
  rw [Bool.not_eq_true] at hconnected
  split
  · rename_i hearly
    exact .waiting hconnected hearly
  rename_i hdue
  rw [UInt64.not_lt] at hdue
  cases read.attempt.opened with
  | none => exact .openFailed hconnected hdue
  | some resolved =>
    have hsource : session.Reads read.nowNs (session.opened resolved) [.opened true] :=
      Or.inr ⟨hconnected, hdue, ⟨resolved, rfl⟩, rfl⟩
    exact readConnected_cases hsource

variable {session : SessionWords cat} {nowNs : UInt64} {outcome : ReadOutcome cat}

/-- A source is not read before its retry time. -/
theorem Reads.not_early {source : SessionWords cat} {calls : List VhalCall}
    (h : session.Reads nowNs source calls) :
    ¬(session.connected = false ∧ nowNs < session.retryAtNs) := by
  rintro ⟨hclosed, hearly⟩
  rcases h with ⟨hconnected, -, -⟩ | ⟨-, hdue, -, -⟩
  · exact absurd (hconnected.symm.trans hclosed) (by simp)
  · exact absurd hearly (UInt64.not_lt.mpr hdue)

/-- A read waits if and only if it comes before the retry time without a source. -/
theorem ReadCase.waiting_iff (h : ReadCase session nowNs outcome) :
    outcome.result = .waiting ↔ session.connected = false ∧ nowNs < session.retryAtNs := by
  cases h with
  | waiting hclosed hearly => exact iff_of_true rfl ⟨hclosed, hearly⟩
  | openFailed hclosed hdue =>
    exact iff_of_false nofun fun hearly => absurd hearly.2 (UInt64.not_lt.mpr hdue)
  | readFailed source calls hsource => exact iff_of_false nofun hsource.not_early
  | delivered source calls hsource result hresult frames =>
    refine iff_of_false (fun hwaiting => ?_) hsource.not_early
    rw [show result = .waiting from hwaiting] at hresult
    contradiction

/-- A read that waits calls nothing and changes nothing. -/
theorem ReadCase.waiting_unchanged (h : ReadCase session nowNs outcome)
    (hwaiting : outcome.result = .waiting) : outcome.calls = [] ∧ outcome.session = session := by
  cases h with
  | waiting hclosed hearly => exact ⟨rfl, rfl⟩
  | openFailed hclosed hdue => contradiction
  | readFailed source calls hsource => contradiction
  | delivered source calls hsource result hresult frames =>
    rw [show result = .waiting from hwaiting] at hresult
    contradiction

/-- A read that succeeds resets the delay. -/
theorem ReadCase.succeeded_delay (h : ReadCase session nowNs outcome)
    (hsucceeded : outcome.result.succeeded = true) :
    outcome.session.retryDelayNs = retryInitial := by
  cases h with
  | waiting hclosed hearly => contradiction
  | openFailed hclosed hdue => contradiction
  | readFailed source calls hsource => contradiction
  | delivered source calls hsource result hresult frames => rfl

/-- Callers of a read that does not deliver see no frame of the source. -/
theorem ReadCase.frames_unavailable (h : ReadCase session nowNs outcome)
    (hresult : outcome.result.succeeded = false) : outcome.frames = markUnavailable := by
  cases h with
  | waiting hclosed hearly => rfl
  | openFailed hclosed hdue => rfl
  | readFailed source calls hsource => rfl
  | delivered source calls hsource result hdelivered frames =>
    exact absurd (hdelivered.symm.trans hresult) (by simp)

end Steps

section Refinement

variable {session : SessionWords cat} {nowNs : UInt64}

/-- The delay of `schedule_retry` does not wrap. -/
theorem scheduleRetry_view (hdelay : session.retryDelayNs.toNat ≤ retryMaxNs)
    (hnow : nowNs.toNat + retryMaxNs < 2 ^ 64) :
    (session.scheduleRetry nowNs).view = Roadcast.scheduleRetry session.view nowNs.toNat := by
  have hretry : (nowNs + session.retryDelayNs).toNat =
      nowNs.toNat + session.retryDelayNs.toNat := by
    rw [UInt64.toNat_add]
    exact Nat.mod_eq_of_lt (by omega)
  have hhalf : session.retryDelayNs < retryMax / 2 ↔
      session.retryDelayNs.toNat < retryMaxNs / 2 := UInt64.lt_iff_toNat_lt
  unfold scheduleRetry Roadcast.scheduleRetry view
  simp only [hretry, hhalf, SourceSession.mk.injEq, true_and, and_true]
  split
  · rename_i hsmall
    rw [UInt64.toNat_mul]
    have hmax : retryMaxNs / 2 < 2 ^ 62 := by decide
    exact Nat.mod_eq_of_lt (by simp only [UInt64.reduceToNat]; omega)
  · rfl

/-- An open does the same to words as to numbers, as long as the generation does not wrap. -/
theorem opened_view (hgeneration : session.generation.toNat + 1 < 2 ^ 64)
    (resolved : Fin cat.frameCount → Bool) :
    (session.opened resolved).view = sourceSessionOpened session.view resolved := by
  have hnext : (session.generation + 1).toNat = session.generation.toNat + 1 := by
    rw [UInt64.toNat_add]
    exact Nat.mod_eq_of_lt hgeneration
  unfold opened sourceSessionOpened view
  simp only [hnext]

/-- A read does the same to words as to numbers, as long as the retry time does not wrap. -/
theorem readConnected_view {read : SessionRead cat}
    (hdelay : session.retryDelayNs.toNat ≤ retryMaxNs)
    (hnow : read.nowNs.toNat + retryMaxNs < 2 ^ 64) :
    let outcome := session.readConnected read
    (outcome.session.view, outcome.result, outcome.frames) =
      sourceSessionReadConnected session.view read.attempt read.nowNs.toNat := by
  unfold readConnected sourceSessionReadConnected
  cases read.attempt.bytes with
  | none => exact Prod.ext (scheduleRetry_view hdelay hnow) rfl
  | some delivered => rfl

/-- As long as nothing wraps a session of machine words reads what `sourceSessionRead` reads. -/
theorem read_view {read : SessionRead cat} (hdelay : session.retryDelayNs.toNat ≤ retryMaxNs)
    (hnow : read.nowNs.toNat + retryMaxNs < 2 ^ 64)
    (hgeneration : session.connected = false → session.retryAtNs ≤ read.nowNs →
      session.generation.toNat + 1 < 2 ^ 64) :
    let outcome := session.read read
    (outcome.session.view, outcome.result, outcome.frames) =
      sourceSessionRead session.view read.attempt read.nowNs.toNat := by
  unfold SessionWords.read sourceSessionRead
  show _ = if session.connected = true then _ else _
  split
  · exact readConnected_view hdelay hnow
  rename_i hconnected
  rw [Bool.not_eq_true] at hconnected
  by_cases hearly : read.nowNs < session.retryAtNs
  · rw [if_pos hearly]
    exact (if_pos (UInt64.lt_iff_toNat_lt.mp hearly)).symm
  rw [if_neg hearly]
  refine Eq.trans ?_ (if_neg (mt UInt64.lt_iff_toNat_lt.mpr hearly)).symm
  cases read.attempt.opened with
  | none => exact Prod.ext (scheduleRetry_view hdelay hnow) rfl
  | some resolved =>
    have hopened := opened_view (hgeneration hconnected (UInt64.not_lt.mp hearly)) resolved
    dsimp only
    rw [← hopened]
    exact readConnected_view hdelay hnow

end Refinement

end SessionWords

section Runs

open SessionWords

/-- The delay after the `k`-th failed attempt in a row. -/
def backoffNs (k : ℕ) : ℕ := if k ≤ 7 then retryInitialNs * 2 ^ (k - 1) else retryMaxNs

/-- The first delay is that of one failure. -/
theorem retryInitial_toNat : retryInitial.toNat = backoffNs 1 := by decide

/-- The doubling of `schedule_retry` runs through the delays. -/
theorem backoffNs_succ (k : ℕ) :
    backoffNs (k + 2) = if backoffNs (k + 1) < retryMaxNs / 2 then backoffNs (k + 1) * 2
      else retryMaxNs := by
  by_cases hk : k ≤ 6
  · revert k
    decide
  · have hlast : backoffNs (k + 1) = retryMaxNs := if_neg (by omega)
    have hnext : backoffNs (k + 2) = retryMaxNs := if_neg (by omega)
    rw [hlast, hnext, if_neg (by decide)]

/-- Every delay lies between the first one and the longest. -/
theorem backoffNs_bounds (k : ℕ) :
    retryInitialNs ≤ backoffNs (k + 1) ∧ backoffNs (k + 1) ≤ retryMaxNs := by
  by_cases hk : k ≤ 6
  · revert k
    decide
  · have hlast : backoffNs (k + 1) = retryMaxNs := if_neg (by omega)
    rw [hlast]
    decide

/-- The session after a sequence of reads, and what each of them did. -/
def runReads (reads : List (SessionRead cat)) : SessionWords cat × List (ReadOutcome cat) :=
  reads.foldl (fun run read =>
    let outcome := run.1.read read
    (outcome.session, run.2 ++ [outcome])) (.init, [])

/-- A run, one read at a time. -/
theorem runReads_append (reads : List (SessionRead cat)) (read : SessionRead cat) :
    runReads (reads ++ [read]) =
      (((runReads reads).1.read read).session,
        (runReads reads).2 ++ [(runReads reads).1.read read]) := by
  rw [runReads, List.foldl_append]
  rfl

/-- The failed attempts since the last successful read; a read that waits is none. -/
def failures (outcomes : List (ReadOutcome cat)) : ℕ :=
  outcomes.foldl (fun count outcome =>
    match outcome.result with
    | .waiting => count
    | .failed => count + 1
    | .vectored | .fallback => 0) 0

/-- The failures in a row, one read at a time. -/
theorem failures_append (outcomes : List (ReadOutcome cat)) (outcome : ReadOutcome cat) :
    failures (outcomes ++ [outcome]) =
      match outcome.result with
      | .waiting => failures outcomes
      | .failed => failures outcomes + 1
      | .vectored | .fallback => 0 := by
  rw [failures, List.foldl_append]
  rfl

/-- The successful opens of a run. -/
def successfulOpens (outcomes : List (ReadOutcome cat)) : ℕ :=
  (outcomes.flatMap ReadOutcome.calls).count (.opened true)

/-- The successful opens, one read at a time. -/
theorem successfulOpens_append (outcomes : List (ReadOutcome cat)) (outcome : ReadOutcome cat) :
    successfulOpens (outcomes ++ [outcome]) =
      successfulOpens outcomes + outcome.calls.count (.opened true) := by
  simp [successfulOpens]

/-- What holds between two reads: the delay, the generation, and how far apart the opens were. -/
structure Paced (nowNs : ℕ) (session : SessionWords cat) (failed opens : ℕ) : Prop where
  delay : session.retryDelayNs.toNat = backoffNs (failed + 1)
  generation : session.generation.toNat = opens
  connected : session.connected = true → (opens - 1) * retryInitialNs ≤ nowNs
  disconnected : session.connected = false → opens * retryInitialNs ≤ session.retryAtNs.toNat

section Pacing

variable {session source : SessionWords cat} {calls : List VhalCall} {nowNs : UInt64}
  {lastNs failed opens : ℕ}

/-- The opens of a run stay far below the end of the range. -/
theorem Paced.opens_lt (h : Paced lastNs session failed opens)
    (hclosed : session.connected = false) : opens + 1 < 2 ^ 64 := by
  have hopens := h.disconnected hclosed
  have hretry := session.retryAtNs.toNat_lt
  unfold retryInitialNs at hopens
  omega

/-- The source that a read reads has the delay of the session and the opens up to it. -/
theorem Paced.reads (h : Paced lastNs session failed opens) (hnow : lastNs ≤ nowNs.toNat)
    (hsource : session.Reads nowNs source calls) :
    source.connected = true ∧
      Paced nowNs.toNat source failed (opens + calls.count (.opened true)) := by
  rcases hsource with ⟨hconnected, rfl, rfl⟩ | ⟨hclosed, hdue, ⟨resolved, rfl⟩, rfl⟩
  · refine ⟨hconnected, h.delay, h.generation, fun _ => (h.connected hconnected).trans hnow, ?_⟩
    intro hclosed
    exact absurd (hconnected.symm.trans hclosed) (by simp)
  · have hgeneration : (session.opened resolved).generation.toNat = opens + 1 := by
      have hview := opened_view (h.generation ▸ h.opens_lt hclosed) resolved
      exact (congrArg SourceSession.generation hview).trans (congrArg (· + 1) h.generation)
    refine ⟨rfl, h.delay, hgeneration, fun _ => ?_, nofun⟩
    have hopens := h.disconnected hclosed
    have hreached := UInt64.le_iff_toNat_le.mp hdue
    exact hopens.trans hreached

/-- A failed attempt schedules the next one with the current delay. -/
theorem Paced.scheduleRetry (h : Paced nowNs.toNat source failed opens)
    (hconnected : source.connected = true ∨ source.retryAtNs ≤ nowNs)
    (hnow : nowNs.toNat + retryMaxNs < 2 ^ 64) :
    (source.scheduleRetry nowNs).retryAtNs.toNat = nowNs.toNat + backoffNs (failed + 1) ∧
      Paced nowNs.toNat (source.scheduleRetry nowNs) (failed + 1) opens := by
  have hbounds := backoffNs_bounds failed
  have hview := scheduleRetry_view (h.delay ▸ hbounds.2) hnow
  have hretry : (source.scheduleRetry nowNs).retryAtNs.toNat =
      nowNs.toNat + backoffNs (failed + 1) :=
    (congrArg SourceSession.retryAtNs hview).trans (congrArg (nowNs.toNat + ·) h.delay)
  have hdelay : (source.scheduleRetry nowNs).retryDelayNs.toNat = backoffNs (failed + 2) := by
    refine (congrArg SourceSession.retryDelayNs hview).trans ?_
    rw [backoffNs_succ, ← h.delay]
    rfl
  refine ⟨hretry, hdelay, h.generation, nofun, fun _ => ?_⟩
  rw [hretry]
  have hopens : (opens - 1) * retryInitialNs ≤ nowNs.toNat := by
    cases hsource : source.connected with
    | true => exact h.connected hsource
    | false =>
      rcases hconnected with hconnected | hdue
      · exact absurd (hconnected.symm.trans hsource) (by simp)
      · refine le_trans ?_ ((h.disconnected hsource).trans (UInt64.le_iff_toNat_le.mp hdue))
        exact Nat.mul_le_mul_right _ (Nat.sub_le opens 1)
  calc opens * retryInitialNs ≤ (opens - 1 + 1) * retryInitialNs :=
        Nat.mul_le_mul_right _ (by omega)
    _ = (opens - 1) * retryInitialNs + retryInitialNs := by rw [Nat.add_mul, Nat.one_mul]
    _ ≤ nowNs.toNat + backoffNs (failed + 1) := Nat.add_le_add hopens hbounds.1

/-- One read keeps the pace, and a failed attempt sets the deadline of the next one. -/
theorem Paced.read {read : SessionRead cat} {outcomes : List (ReadOutcome cat)}
    (h : Paced lastNs session (failures outcomes) (successfulOpens outcomes))
    (hlast : lastNs ≤ read.nowNs.toNat) (hnow : read.nowNs.toNat + retryMaxNs < 2 ^ 64) :
    Paced read.nowNs.toNat (session.read read).session
        (failures (outcomes ++ [session.read read]))
        (successfulOpens (outcomes ++ [session.read read])) ∧
      ((session.read read).result = .failed → (session.read read).session.retryAtNs.toNat =
        read.nowNs.toNat + backoffNs (failures outcomes + 1)) := by
  rw [failures_append, successfulOpens_append]
  have hcases := session.read_cases read
  generalize session.read read = outcome at hcases ⊢
  cases hcases with
  | waiting hclosed hearly =>
    refine ⟨⟨h.delay, h.generation, fun hconnected => ?_, h.disconnected⟩, nofun⟩
    exact absurd (hclosed.symm.trans hconnected) (by simp)
  | openFailed hclosed hdue =>
    have hcurrent : Paced read.nowNs.toNat session (failures outcomes)
        (successfulOpens outcomes) :=
      ⟨h.delay, h.generation, fun hconnected => (h.connected hconnected).trans hlast,
        h.disconnected⟩
    obtain ⟨hretry, hpaced⟩ := hcurrent.scheduleRetry (Or.inr hdue) hnow
    exact ⟨hpaced, fun _ => hretry⟩
  | readFailed source calls hsource =>
    obtain ⟨hconnected, hreads⟩ := h.reads hlast hsource
    obtain ⟨hretry, hpaced⟩ := hreads.scheduleRetry (Or.inl hconnected) hnow
    refine ⟨?_, fun _ => hretry⟩
    rw [List.count_append]
    exact hpaced
  | delivered source calls hsource result hresult frames =>
    obtain ⟨hconnected, hreads⟩ := h.reads hlast hsource
    rw [List.count_append]
    have hreset : Paced read.nowNs.toNat { source with retryDelayNs := retryInitial } 0
        (successfulOpens outcomes + calls.count (.opened true)) :=
      ⟨retryInitial_toNat, hreads.generation, hreads.connected, hreads.disconnected⟩
    cases result with
    | vectored => exact ⟨hreset, nofun⟩
    | fallback => exact ⟨hreset, nofun⟩
    | waiting => contradiction
    | failed => contradiction

/-- Reads on a clock that does not go back and does not come near the end of its range. -/
structure Timed (reads : List (SessionRead cat)) : Prop where
  monotone : reads.Pairwise fun read later => read.nowNs ≤ later.nowNs
  bounded : ∀ read ∈ reads, read.nowNs.toNat + retryMaxNs < 2 ^ 64

/-- The front of reads in order is in order. -/
theorem Timed.init {reads : List (SessionRead cat)} {read : SessionRead cat}
    (h : Timed (reads ++ [read])) : Timed reads :=
  ⟨(List.pairwise_append.mp h.monotone).1,
    fun earlier hmem => h.bounded earlier (List.mem_append_left _ hmem)⟩

/-- The time of the last read. -/
def lastReadNs (reads : List (SessionRead cat)) : ℕ :=
  (reads.getLast?.map (·.nowNs.toNat)).getD 0

/-- The last read was not later than the next one. -/
theorem Timed.lastReadNs_le {reads : List (SessionRead cat)} {read : SessionRead cat}
    (h : Timed (reads ++ [read])) : lastReadNs reads ≤ read.nowNs.toNat := by
  unfold lastReadNs
  cases hlast : reads.getLast? with
  | none => exact Nat.zero_le _
  | some last =>
    have hle := (List.pairwise_append.mp h.monotone).2.2 last (List.mem_of_getLast? hlast) read
      (List.mem_singleton_self read)
    exact UInt64.le_iff_toNat_le.mp hle

/-- Every run is paced. -/
theorem runReads_paced {reads : List (SessionRead cat)} (h : Timed reads) :
    Paced (lastReadNs reads) (runReads reads).1 (failures (runReads reads).2)
      (successfulOpens (runReads reads).2) := by
  induction reads using List.reverseRecOn with
  | nil =>
    refine ⟨retryInitial_toNat, rfl, nofun, fun _ => ?_⟩
    rw [show successfulOpens (runReads []).2 = 0 from rfl, Nat.zero_mul]
    exact Nat.zero_le _
  | append_singleton reads read ih =>
    have hread := ((ih h.init).read h.lastReadNs_le
      (h.bounded read (List.mem_append_right _ (List.mem_singleton_self read)))).1
    rw [runReads_append]
    have hlast : lastReadNs (reads ++ [read]) = read.nowNs.toNat := by simp [lastReadNs]
    rw [hlast]
    exact hread

/-- Along every such run the machine words are those of the model in natural numbers. -/
theorem runReads_view {reads : List (SessionRead cat)} (h : Timed reads) :
    (runReads reads).1.view = reads.foldl (fun session read =>
      (sourceSessionRead session read.attempt read.nowNs.toNat).1) sourceSessionInit := by
  induction reads using List.reverseRecOn with
  | nil => rfl
  | append_singleton reads read ih =>
    have hpaced := runReads_paced h.init
    have hdelay : (runReads reads).1.retryDelayNs.toNat ≤ retryMaxNs :=
      hpaced.delay ▸ (backoffNs_bounds _).2
    have hread := read_view hdelay
      (h.bounded read (List.mem_append_right _ (List.mem_singleton_self read)))
      fun hclosed _ => hpaced.generation ▸ hpaced.opens_lt hclosed
    rw [List.foldl_append, ← ih h.init, runReads_append]
    exact congrArg Prod.fst hread

end Pacing

end Runs

/-- Every sequence of reads on such a clock: when a read waits, what it then leaves alone, the
deadline that a failed attempt sets, what the delay and the generation count, and what callers see of
a read that does not deliver. -/
theorem sourceSession_backoff (past : List (SessionRead cat)) (next : SessionRead cat)
    (htimed : Timed (past ++ [next])) :
    let session := (runReads past).1
    let outcomes := (runReads past).2
    let outcome := session.read next
    (outcome.result = .waiting ↔ session.connected = false ∧ next.nowNs < session.retryAtNs) ∧
    (outcome.result = .waiting → outcome.calls = [] ∧ outcome.session = session) ∧
    (outcome.result = .failed → outcome.session.retryAtNs.toNat =
      next.nowNs.toNat + backoffNs (failures outcomes + 1)) ∧
    outcome.session.retryDelayNs.toNat = backoffNs (failures (outcomes ++ [outcome]) + 1) ∧
    (outcome.result.succeeded = true → outcome.session.retryDelayNs.toNat = retryInitialNs) ∧
    outcome.session.generation.toNat = successfulOpens (outcomes ++ [outcome]) ∧
    (outcome.result.succeeded = false →
      ∀ i, outcome.frames i = ⟨cat.canIds i, .unavailable, zeroData, 0, 0⟩) := by
  intro session outcomes outcome
  have hmem : next ∈ past ++ [next] := List.mem_append_right _ (List.mem_singleton_self next)
  obtain ⟨hpaced, hfailed⟩ := (runReads_paced htimed.init).read htimed.lastReadNs_le
    (htimed.bounded next hmem)
  have hcases := session.read_cases next
  refine ⟨hcases.waiting_iff, hcases.waiting_unchanged, hfailed, hpaced.delay, fun hsucceeded => ?_,
    hpaced.generation, fun hresult i => ?_⟩
  · exact congrArg UInt64.toNat (hcases.succeeded_delay hsucceeded)
  · rw [hcases.frames_unavailable hresult]
    rfl

/-- The first open fails. The next read comes too early, and the one after it opens a source that
cannot be read. -/
def twoFailures : List (SessionRead singleCatalog) :=
  [⟨0, none, none⟩, ⟨100000000, some fun _ => true, none⟩, ⟨250000000, some fun _ => true, none⟩]

/-- A second failure doubles the delay; a read before the retry time does not count. -/
theorem sourceSession_backoff_doubled :
    Timed twoFailures ∧ (runReads twoFailures).2.map ReadOutcome.result =
      [.failed, .waiting, .failed] ∧
    (runReads twoFailures).1.retryAtNs.toNat = 250000000 + backoffNs 2 ∧
    (runReads twoFailures).1.generation.toNat = 1 := by
  have htimed : Timed twoFailures := by
    refine ⟨?_, ?_⟩
    · simp [twoFailures]
    · simp [twoFailures, retryMaxNs]
  have hbackoff := sourceSession_backoff (twoFailures.take 2) ⟨250000000, some fun _ => true, none⟩
    htimed
  exact ⟨htimed, by decide +kernel, hbackoff.2.2.1 (by decide +kernel), hbackoff.2.2.2.2.2.1⟩

end Roadcast
