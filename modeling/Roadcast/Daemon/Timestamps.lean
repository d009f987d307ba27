import Roadcast.Daemon.Incremental

/-!
# Observation times of signals

`reconcile_signal_timestamps` visits every signal of a changed sample, those of unchanged frames too.
With non-zero timestamps that do not decrease, the times of a signal tell its history: the first one
is set once, the last one moves with raw value and state, and a valid signal has both.

A signal gets its first time only when it becomes valid. One whose invalid flag is set when its frame
is first observed goes to the invalid state without a time, although the protocol calls that state
observed and the one-shot decoder gives it the time of its frame.
-/

namespace Roadcast

variable {cat : Catalog}

/-- The times of a signal at a moment: none, or the first observation and the last change in order. -/
structure SignalValue.Timed (value : SignalValue) (nowNs : UInt64) : Prop where
  stamps : (value.firstObservedNs = 0 ∧ value.lastChangeNs = 0) ∨
    (0 < value.firstObservedNs ∧ value.firstObservedNs ≤ value.lastChangeNs ∧
      value.lastChangeNs ≤ nowNs)
  valid : value.state = .valid → value.firstObservedNs ≠ 0

/-- What a sample may do to the times of a signal. -/
structure SignalValue.Restamped (old new : SignalValue) (timestampNs : UInt64) : Prop where
  kept : old.firstObservedNs ≠ 0 → new.firstObservedNs = old.firstObservedNs
  later : old.lastChangeNs ≤ new.lastChangeNs
  changed : new.lastChangeNs ≠ old.lastChangeNs → new.raw ≠ old.raw ∨ new.state ≠ old.state
  stamped : old.firstObservedNs ≠ 0 → new.raw ≠ old.raw ∨ new.state ≠ old.state →
    new.state ≠ .unavailable → new.lastChangeNs = timestampNs

/-- A signal that a sample leaves alone. -/
theorem SignalValue.Restamped.refl (value : SignalValue) (timestampNs : UInt64) :
    value.Restamped value timestampNs :=
  ⟨fun _ => rfl, UInt64.le_refl _, fun h => absurd rfl h, fun _ h => absurd h (by simp)⟩

/-- Times that are in order stay so. -/
theorem SignalValue.Timed.mono {value : SignalValue} {nowNs laterNs : UInt64}
    (h : value.Timed nowNs) (hlater : nowNs ≤ laterNs) : value.Timed laterNs := by
  refine ⟨h.stamps.imp_right fun ⟨hpos, hle, hnow⟩ => ⟨hpos, hle, ?_⟩, h.valid⟩
  exact UInt64.le_trans hnow hlater

section Reconcile

variable (latest canonical : SignalValue) (timestampNs : UInt64)

/-- What `reconcile_signal_timestamps` can do with a signal. -/
theorem reconcile_cases :
    let reconciled := reconcileSignalTimestamps latest canonical timestampNs
    (latest.state = .unavailable ∧ canonical.firstObservedNs ≠ 0 ∧
      reconciled = { latest with
        firstObservedNs := canonical.firstObservedNs, lastChangeNs := canonical.lastChangeNs
        raw := canonical.raw, physical := canonical.physical }) ∨
    (latest.state ≠ .valid ∧ canonical.firstObservedNs = 0 ∧
      reconciled = { latest with firstObservedNs := 0, lastChangeNs := 0 }) ∨
    (latest.state ≠ .unavailable ∧ canonical.firstObservedNs ≠ 0 ∧
      reconciled = { latest with
        firstObservedNs := canonical.firstObservedNs
        lastChangeNs :=
          if latest.raw = canonical.raw ∧ latest.state = canonical.state then canonical.lastChangeNs
          else timestampNs }) ∨
    (latest.state = .valid ∧ canonical.firstObservedNs = 0 ∧
      reconciled = { latest with firstObservedNs := timestampNs, lastChangeNs := timestampNs }) := by
  unfold reconcileSignalTimestamps
  by_cases hunavailable : latest.state = .unavailable
  · by_cases hobserved : canonical.firstObservedNs = 0
    · simp [hunavailable, hobserved]
    · simp [hunavailable, hobserved]
  · by_cases hobserved : canonical.firstObservedNs = 0
    · by_cases hvalid : latest.state = .valid
      · simp [hobserved, hvalid]
      · simp [hunavailable, hobserved, hvalid]
    · simp [hunavailable, hobserved]

variable {latest canonical timestampNs}

/-- Reconciliation keeps the times of a signal in order. -/
theorem reconcile_timed {nowNs : UInt64} (h : canonical.Timed nowNs) (hnow : nowNs ≤ timestampNs)
    (hpos : 0 < timestampNs) :
    (reconcileSignalTimestamps latest canonical timestampNs).Timed timestampNs := by
  rcases reconcile_cases latest canonical timestampNs with
    ⟨hstate, hobserved, heq⟩ | ⟨hstate, hobserved, heq⟩ | ⟨hstate, hobserved, heq⟩ |
    ⟨hstate, hobserved, heq⟩
  · rw [heq]
    exact ⟨(h.mono hnow).stamps, fun _ => hobserved⟩
  · rw [heq]
    exact ⟨Or.inl ⟨rfl, rfl⟩, fun hvalid => absurd hvalid hstate⟩
  · rw [heq]
    refine ⟨Or.inr ?_, fun _ => hobserved⟩
    obtain ⟨hzero, -⟩ | ⟨hfirst, hle, hlast⟩ := h.stamps
    · exact absurd hzero hobserved
    · refine ⟨hfirst, ?_, ?_⟩
      · dsimp only
        split
        · exact hle
        · exact UInt64.le_trans hle (UInt64.le_trans hlast hnow)
      · dsimp only
        split
        · exact UInt64.le_trans hlast hnow
        · exact UInt64.le_refl _
  · rw [heq]
    exact ⟨Or.inr ⟨hpos, UInt64.le_refl _, UInt64.le_refl _⟩, fun _ => UInt64.pos_iff_ne_zero.mp hpos⟩

/-- Reconciliation moves the times of a signal only as its raw value and state move. -/
theorem reconcile_restamped {nowNs : UInt64} (h : canonical.Timed nowNs)
    (hnow : nowNs ≤ timestampNs) :
    canonical.Restamped (reconcileSignalTimestamps latest canonical timestampNs) timestampNs := by
  have hunobserved : canonical.firstObservedNs = 0 → canonical.lastChangeNs = 0 := by
    intro hzero
    obtain ⟨-, hlast⟩ | ⟨hfirst, -, -⟩ := h.stamps
    · exact hlast
    · exact absurd hzero (UInt64.pos_iff_ne_zero.mp hfirst)
  rcases reconcile_cases latest canonical timestampNs with
    ⟨hstate, hobserved, heq⟩ | ⟨hstate, hobserved, heq⟩ | ⟨hstate, hobserved, heq⟩ |
    ⟨hstate, hobserved, heq⟩
  · rw [heq]
    exact ⟨fun _ => rfl, UInt64.le_refl _, fun hne => absurd rfl hne,
      fun _ _ havailable => absurd hstate havailable⟩
  · rw [heq, ← hunobserved hobserved]
    exact ⟨fun hne => absurd hobserved hne, UInt64.le_refl _, fun hne => absurd rfl hne,
      fun hne => absurd hobserved hne⟩
  · rw [heq]
    have hlast : canonical.lastChangeNs ≤ timestampNs := by
      obtain ⟨hzero, -⟩ | ⟨-, -, hlast⟩ := h.stamps
      · exact absurd hzero hobserved
      · exact UInt64.le_trans hlast hnow
    by_cases hsame : latest.raw = canonical.raw ∧ latest.state = canonical.state
    · rw [if_pos hsame]
      refine ⟨fun _ => rfl, UInt64.le_refl _, fun hne => absurd rfl hne, fun _ hchanged => ?_⟩
      exact absurd hsame (not_and_or.mpr hchanged)
    · rw [if_neg hsame]
      exact ⟨fun _ => rfl, hlast, fun _ => not_and_or.mp hsame, fun _ _ _ => rfl⟩
  · rw [heq]
    have hwas : canonical.state ≠ .valid := fun hvalid => h.valid hvalid hobserved
    refine ⟨fun hne => absurd hobserved hne, ?_, fun _ => Or.inr ?_, fun hne => absurd hobserved hne⟩
    · rw [hunobserved hobserved]
      exact UInt64.zero_le
    · exact fun hsame => hwas (hsame.symm.trans hstate)

end Reconcile

/-- Every signal has its times in order. -/
def Canonical.Timed (canonical : Canonical cat) : Prop :=
  ∀ i, (canonical.signals i).Timed canonical.sampleTimestampNs

/-- The state that `main` starts with has its times in order. -/
theorem canonicalInit_timed (hz : UInt32) {first : Sample cat} (hpos : 0 < first.timestampNs) :
    (canonicalInit hz first).Timed := by
  intro i
  show (initialSignals first.frames first.timestampNs i).Timed first.timestampNs
  unfold initialSignals
  dsimp only
  split
  · exact ⟨Or.inr ⟨hpos, UInt64.le_refl _, UInt64.le_refl _⟩, fun _ => UInt64.pos_iff_ne_zero.mp hpos⟩
  · rename_i hinvalid
    exact ⟨Or.inl ⟨rfl, rfl⟩, fun hvalid => absurd hvalid hinvalid⟩

/-- A later sample keeps the times in order and moves them as it should. -/
theorem Canonical.Timed.consume {canonical : Canonical cat} {sample : Sample cat}
    (h : canonical.Timed) (hnow : canonical.sampleTimestampNs ≤ sample.timestampNs)
    (hpos : 0 < sample.timestampNs) :
    (canonical.consume sample).Timed ∧ ∀ i, (canonical.signals i).Restamped
      ((canonical.consume sample).signals i) sample.timestampNs := by
  rcases canonical.consume_cases sample with ⟨-, hsame⟩ | ⟨-, -, hrefresh⟩ | ⟨-, -, hadvance⟩
  · rw [hsame]
    exact ⟨h, fun i => .refl _ _⟩
  · rw [hrefresh]
    exact ⟨fun i => (h i).mono hnow, fun i => .refl _ _⟩
  · rw [hadvance]
    exact ⟨fun i => reconcile_timed (h i) hnow hpos, fun i => reconcile_restamped (h i) hnow⟩

/-- The timestamps of the samples, from the one that `main` starts with on. -/
def sampleTime (first : Sample cat) (samples : ℕ → Sample cat) : ℕ → UInt64
  | 0 => first.timestampNs
  | n + 1 => (samples n).timestampNs

section History

variable (hz : UInt32) {first : Sample cat} {samples : ℕ → Sample cat}

/-- Timestamps that do not decrease stay non-zero. -/
theorem sampleTime_pos (hpos : 0 < first.timestampNs)
    (hmono : ∀ n, sampleTime first samples n ≤ sampleTime first samples (n + 1)) (n : ℕ) :
    0 < sampleTime first samples n := by
  induction n with
  | zero => exact hpos
  | succ n ih => exact UInt64.lt_of_lt_of_le ih (hmono n)

/-- A sample that is not consumed leaves the canonical timestamp behind. -/
theorem canonicalAt_sampleTimestampNs_le
    (hmono : ∀ n, sampleTime first samples n ≤ sampleTime first samples (n + 1)) (n : ℕ) :
    (canonicalAt hz first samples n).sampleTimestampNs ≤ sampleTime first samples n := by
  induction n with
  | zero => exact UInt64.le_refl _
  | succ n ih =>
    have hlater := UInt64.le_trans ih (hmono n)
    rw [canonicalAt]
    rcases (canonicalAt hz first samples n).consume_cases (samples n) with
      ⟨-, hsame⟩ | ⟨-, -, hrefresh⟩ | ⟨-, -, hadvance⟩
    · rw [hsame]
      exact hlater
    · rw [hrefresh]
      exact UInt64.le_refl _
    · rw [hadvance]
      exact UInt64.le_refl _

/-- In every state the times are in order, and the next sample moves them as it should. -/
theorem canonicalAt_timed (hpos : 0 < first.timestampNs)
    (hmono : ∀ n, sampleTime first samples n ≤ sampleTime first samples (n + 1)) (n : ℕ) :
    (canonicalAt hz first samples n).Timed ∧
      ∀ i, ((canonicalAt hz first samples n).signals i).Restamped
        ((canonicalAt hz first samples (n + 1)).signals i) (samples n).timestampNs := by
  have hstep : ∀ n, (canonicalAt hz first samples n).Timed →
      (canonicalAt hz first samples (n + 1)).Timed ∧
        ∀ i, ((canonicalAt hz first samples n).signals i).Restamped
          ((canonicalAt hz first samples (n + 1)).signals i) (samples n).timestampNs := by
    intro n htimed
    have hnow := UInt64.le_trans (canonicalAt_sampleTimestampNs_le hz hmono n) (hmono n)
    exact htimed.consume hnow (sampleTime_pos hpos hmono (n + 1))
  induction n with
  | zero =>
    have hinit : (canonicalAt hz first samples 0).Timed := canonicalInit_timed hz hpos
    exact ⟨hinit, (hstep 0 hinit).2⟩
  | succ n ih =>
    have hnext := (hstep n ih.1).1
    exact ⟨hnext, (hstep (n + 1) hnext).2⟩

/-- In every sequence of samples with non-zero timestamps that do not decrease, the times of every
signal are absent or in order, the first one stays, the last one only grows, and in each step it moves
exactly as the raw value and the state of the signal say. -/
theorem canonicalAt_timestamp_history (hpos : 0 < first.timestampNs)
    (hmono : ∀ n, sampleTime first samples n ≤ sampleTime first samples (n + 1)) (n : ℕ)
    (i : Fin cat.signalCount) :
    let canonical := canonicalAt hz first samples n
    let signal := canonical.signals i
    let next := (canonicalAt hz first samples (n + 1)).signals i
    ((signal.firstObservedNs = 0 ∧ signal.lastChangeNs = 0) ∨
      (0 < signal.firstObservedNs ∧ signal.firstObservedNs ≤ signal.lastChangeNs ∧
        signal.lastChangeNs ≤ canonical.sampleTimestampNs)) ∧
    (signal.firstObservedNs ≠ 0 → ∀ m ≥ n,
      ((canonicalAt hz first samples m).signals i).firstObservedNs = signal.firstObservedNs) ∧
    (∀ m ≥ n, signal.lastChangeNs ≤ ((canonicalAt hz first samples m).signals i).lastChangeNs) ∧
    (next.lastChangeNs ≠ signal.lastChangeNs → next.raw ≠ signal.raw ∨ next.state ≠ signal.state) ∧
    (signal.firstObservedNs ≠ 0 → next.raw ≠ signal.raw ∨ next.state ≠ signal.state →
      next.state ≠ .unavailable → next.lastChangeNs = (samples n).timestampNs) ∧
    (signal.state = .valid → signal.firstObservedNs ≠ 0) := by
  obtain ⟨htimed, hrestamped⟩ := canonicalAt_timed hz hpos hmono n
  refine ⟨(htimed i).stamps, fun hobserved m hm => ?_, fun m hm => ?_, (hrestamped i).changed,
    (hrestamped i).stamped, (htimed i).valid⟩
  · induction m, hm using Nat.le_induction with
    | base => rfl
    | succ m hm ih =>
      have hkept := ((canonicalAt_timed hz hpos hmono m).2 i).kept
      rw [ih] at hkept
      exact hkept hobserved
  · induction m, hm using Nat.le_induction with
    | base => exact UInt64.le_refl _
    | succ m hm ih => exact UInt64.le_trans ih ((canonicalAt_timed hz hpos hmono m).2 i).later

end History

/-- A sample of `singleCatalog` with one byte. -/
def singleReading (state : ObservationState) (byte : UInt8) (sequence timestampNs : UInt64) :
    Sample singleCatalog :=
  ⟨fun _ => ⟨0x0A6, state, leadingByte byte, 0, 0⟩, sequence, timestampNs⟩

/-- A change is observed, and the source is then lost. -/
theorem canonicalAt_timestamp_history_lost :
    let samples := fun n : ℕ => if n = 0 then singleReading .valid 1 1 20
      else singleReading .unavailable 1 2 30
    let signal := (canonicalAt 60 (singleReading .neverObserved 0 0 10) samples 1).signals singleSignal
    signal.firstObservedNs = 20 ∧ ∀ m ≥ 1,
      ((canonicalAt 60 (singleReading .neverObserved 0 0 10) samples m).signals
        singleSignal).firstObservedNs = signal.firstObservedNs := by
  refine ⟨by decide +kernel, ?_⟩
  refine (canonicalAt_timestamp_history 60 (by decide) (fun n => ?_) 1 singleSignal).2.1
    (by decide +kernel)
  match n with
  | 0 => decide
  | 1 => decide
  | n + 2 => exact UInt64.le_refl _

section InvalidSignals

/-- A signal that has a first time has a last one. -/
def SignalValue.Paired (value : SignalValue) : Prop :=
  value.firstObservedNs ≠ 0 → value.lastChangeNs ≠ 0

/-- Reconciliation leaves no signal with a first time only. -/
theorem reconcile_paired {latest canonical : SignalValue} {timestampNs : UInt64}
    (h : canonical.Paired) (hne : timestampNs ≠ 0) :
    (reconcileSignalTimestamps latest canonical timestampNs).Paired := by
  rcases reconcile_cases latest canonical timestampNs with
    ⟨-, hobserved, heq⟩ | ⟨-, -, heq⟩ | ⟨-, hobserved, heq⟩ | ⟨-, -, heq⟩
  · rw [heq]
    exact h
  · rw [heq]
    exact fun hzero => hzero
  · rw [heq]
    intro _
    dsimp only
    split
    · exact h hobserved
    · exact hne
  · rw [heq]
    exact fun _ => hne

/-- A signal has a first time if it had one or is valid now. -/
theorem reconcile_observed_iff (latest canonical : SignalValue) {timestampNs : UInt64}
    (hne : timestampNs ≠ 0) :
    (reconcileSignalTimestamps latest canonical timestampNs).firstObservedNs ≠ 0 ↔
      canonical.firstObservedNs ≠ 0 ∨ latest.state = .valid := by
  rcases reconcile_cases latest canonical timestampNs with
    ⟨-, hobserved, heq⟩ | ⟨hstate, hunobserved, heq⟩ | ⟨-, hobserved, heq⟩ | ⟨hstate, -, heq⟩
  · rw [heq]
    exact iff_of_true hobserved (Or.inl hobserved)
  · rw [heq]
    exact iff_of_false (fun hzero => hzero rfl) (not_or.mpr ⟨not_not.mpr hunobserved, hstate⟩)
  · rw [heq]
    exact iff_of_true hobserved (Or.inl hobserved)
  · rw [heq]
    exact iff_of_true hne (Or.inr hstate)

/-- A sample leaves no signal with a first time only. -/
theorem Canonical.consume_paired {canonical : Canonical cat} {sample : Sample cat}
    (h : ∀ i, (canonical.signals i).Paired) (hne : sample.timestampNs ≠ 0) (i : Fin cat.signalCount) :
    ((canonical.consume sample).signals i).Paired := by
  rcases canonical.consume_cases sample with ⟨-, hsame⟩ | ⟨-, -, hrefresh⟩ | ⟨-, -, hadvance⟩
  · rw [hsame]
    exact h i
  · rw [hrefresh]
    exact h i
  · rw [hadvance]
    exact reconcile_paired (h i) hne

/-- Every valid signal has a first time. -/
def Canonical.ValidObserved (canonical : Canonical cat) : Prop :=
  ∀ i, (canonical.signals i).state = .valid → (canonical.signals i).firstObservedNs ≠ 0

/-- A sample gives a first time to the signals that are valid in it, and to no others. -/
theorem Canonical.consume_observed_iff {canonical : Canonical cat} {sample : Sample cat}
    (hdecoded : canonical.Decoded) (hvalid : canonical.ValidObserved)
    (hne : sample.timestampNs ≠ 0) (i : Fin cat.signalCount) :
    ((canonical.consume sample).signals i).firstObservedNs ≠ 0 ↔
      (canonical.signals i).firstObservedNs ≠ 0 ∨
        (canonical.sampleSequence < sample.sequence ∧
          (decodeSignals cat sample.frames i).state = .valid) := by
  rcases canonical.consume_cases sample with
    ⟨hold, hsame⟩ | ⟨-, hnone, hrefresh⟩ | ⟨hnewer, -, hadvance⟩
  · rw [hsame, or_iff_left fun h => UInt64.not_le.mpr h.1 hold]
  · -- nothing differs, so a signal that is valid in the sample was valid before
    rw [hrefresh, or_iff_left_of_imp]
    · rfl
    · rintro ⟨-, hdecode⟩
      have hsame := decodeSignals_congr
        (frameDiffers_of_differingFrames_nil hnone (cat.signals i).frameIndex)
      exact hvalid i ((hdecoded.state i).trans (hsame.2.2.1.symm.trans hdecode))
  · rw [hadvance, and_iff_right (UInt64.not_le.mp hnewer),
      ← (latestSignals_state_calibrated hdecoded sample i).1, latestSignals,
      (reconcile_state_calibrated _ _ _).1]
    exact reconcile_observed_iff _ _ hne

/-- A sample leaves every valid signal with a first time. -/
theorem Canonical.ValidObserved.consume {canonical : Canonical cat} {sample : Sample cat}
    (hdecoded : canonical.Decoded) (h : canonical.ValidObserved) (hne : sample.timestampNs ≠ 0) :
    (canonical.consume sample).ValidObserved := by
  intro i hvalid
  rcases canonical.consume_cases sample with ⟨-, hsame⟩ | ⟨-, -, hrefresh⟩ | ⟨hnewer, -, hadvance⟩
  · rw [hsame] at hvalid ⊢
    exact h i hvalid
  · rw [hrefresh] at hvalid ⊢
    exact h i hvalid
  · refine (canonical.consume_observed_iff hdecoded h hne i).mpr (Or.inr ⟨UInt64.not_le.mp hnewer, ?_⟩)
    rw [hadvance] at hvalid
    exact (latestSignals_state_calibrated hdecoded sample i).1.symm.trans hvalid

/-- The state that `main` starts with gives a time to the valid signals. -/
theorem initialSignals_observed_iff (frames : Fin cat.frameCount → Frame) {timestampNs : UInt64}
    (hne : timestampNs ≠ 0) (i : Fin cat.signalCount) :
    (initialSignals frames timestampNs i).firstObservedNs ≠ 0 ↔
      (decodeSignals cat frames i).state = .valid := by
  unfold initialSignals
  dsimp only
  split
  · rename_i hvalid
    exact iff_of_true hne hvalid
  · rename_i hinvalid
    exact iff_of_false (fun hzero => hzero rfl) hinvalid

section Samples

variable (first : Sample cat) (samples : ℕ → Sample cat)

/-- The sample is newer than all before it, so that `distribute_latest_sample` consumes it. -/
def Consumed (n : ℕ) : Prop :=
  first.sequence < (samples n).sequence ∧ ∀ m < n, (samples m).sequence < (samples n).sequence

/-- The signal is valid in the sample that `main` starts with or in one consumed before the `n`-th. -/
def ValidBefore (n : ℕ) (i : Fin cat.signalCount) : Prop :=
  (decodeSignals cat first.frames i).state = .valid ∨
    ∃ m < n, Consumed first samples m ∧ (decodeSignals cat (samples m).frames i).state = .valid

/-- No sample flags a signal as invalid that was valid in no sample consumed before. -/
structure FlagsObserved : Prop where
  initial : ∀ i, (decodeSignals cat first.frames i).state ≠ .invalid
  later : ∀ n, Consumed first samples n → ∀ i,
    (decodeSignals cat (samples n).frames i).state = .invalid → ValidBefore first samples n i

variable {first samples} (hz : UInt32)

/-- A signal is valid before the next sample if it was before or is in this one. -/
theorem validBefore_succ (n : ℕ) (i : Fin cat.signalCount) :
    ValidBefore first samples (n + 1) i ↔ ValidBefore first samples n i ∨
      (Consumed first samples n ∧ (decodeSignals cat (samples n).frames i).state = .valid) := by
  rw [ValidBefore, ValidBefore, or_assoc, Nat.exists_lt_succ_right]

/-- The canonical sequence number is the largest one so far. -/
theorem canonicalAt_sampleSequence_lt_iff (n : ℕ) (sequence : UInt64) :
    (canonicalAt hz first samples n).sampleSequence < sequence ↔
      first.sequence < sequence ∧ ∀ m < n, (samples m).sequence < sequence := by
  induction n with
  | zero => exact ⟨fun h => ⟨h, nofun⟩, And.left⟩
  | succ n ih =>
    rw [Nat.forall_lt_succ_right, ← and_assoc, ← ih, canonicalAt]
    rcases (canonicalAt hz first samples n).consume_cases (samples n) with
      ⟨hold, hsame⟩ | ⟨hnewer, -, hrefresh⟩ | ⟨hnewer, -, hadvance⟩
    · rw [hsame, and_iff_left_of_imp fun h => UInt64.lt_of_le_of_lt hold h]
    · rw [hrefresh, and_iff_right_of_imp fun h => UInt64.lt_trans (UInt64.not_le.mp hnewer) h]
      rfl
    · rw [hadvance, and_iff_right_of_imp fun h => UInt64.lt_trans (UInt64.not_le.mp hnewer) h]
      rfl

/-- The samples that are consumed are those newer than the canonical state. -/
theorem consumed_iff (n : ℕ) :
    Consumed first samples n ↔
      (canonicalAt hz first samples n).sampleSequence < (samples n).sequence :=
  (canonicalAt_sampleSequence_lt_iff hz n _).symm

/-- Valid signals always have a first time. -/
theorem canonicalAt_validObserved (hne : ∀ n, sampleTime first samples n ≠ 0) (n : ℕ) :
    (canonicalAt hz first samples n).ValidObserved := by
  induction n with
  | zero =>
    intro i hvalid
    refine (initialSignals_observed_iff first.frames (hne 0) i).mpr ?_
    exact ((canonicalInit_decoded hz first).state i).symm.trans hvalid
  | succ n ih => exact ih.consume (canonicalAt_decoded hz first samples n) (hne (n + 1))

/-- A signal has a first time exactly if it was valid in a sample consumed before. -/
theorem canonicalAt_observed_iff (hne : ∀ n, sampleTime first samples n ≠ 0) (n : ℕ)
    (i : Fin cat.signalCount) :
    ((canonicalAt hz first samples n).signals i).firstObservedNs ≠ 0 ↔
      ValidBefore first samples n i := by
  induction n with
  | zero =>
    rw [ValidBefore, or_iff_left fun ⟨m, hm, _⟩ => absurd hm (Nat.not_lt_zero m)]
    exact initialSignals_observed_iff first.frames (hne 0) i
  | succ n ih =>
    have hstep := (canonicalAt hz first samples n).consume_observed_iff
      (canonicalAt_decoded hz first samples n) (canonicalAt_validObserved hz hne n) (hne (n + 1)) i
    rw [← consumed_iff hz n, ih] at hstep
    rw [canonicalAt, hstep, validBefore_succ]

/-- No signal ever has a first time only. -/
theorem canonicalAt_paired (hne : ∀ n, sampleTime first samples n ≠ 0) (n : ℕ)
    (i : Fin cat.signalCount) : ((canonicalAt hz first samples n).signals i).Paired := by
  induction n generalizing i with
  | zero =>
    show (initialSignals first.frames first.timestampNs i).Paired
    unfold initialSignals
    dsimp only
    split
    · exact fun _ => hne 0
    · exact fun hzero => hzero
  | succ n ih => exact Canonical.consume_paired ih (hne (n + 1)) i

/-- A consumed sample decides the state of every signal. -/
theorem canonicalAt_state_of_consumed {n : ℕ} (h : Consumed first samples n)
    (i : Fin cat.signalCount) :
    ((canonicalAt hz first samples (n + 1)).signals i).state =
      (decodeSignals cat (samples n).frames i).state := by
  have hdecoded := canonicalAt_decoded hz first samples n
  rw [canonicalAt]
  rcases (canonicalAt hz first samples n).consume_cases (samples n) with
    ⟨hold, -⟩ | ⟨-, hnone, hrefresh⟩ | ⟨-, -, hadvance⟩
  · exact absurd hold (UInt64.not_le.mpr ((consumed_iff hz n).mp h))
  · have hsame := decodeSignals_congr
      (frameDiffers_of_differingFrames_nil hnone (cat.signals i).frameIndex)
    rw [hrefresh]
    exact (hdecoded.state i).trans hsame.2.2.1.symm
  · rw [hadvance]
    exact (latestSignals_state_calibrated hdecoded (samples n) i).1

/-- A sample that is not consumed changes nothing. -/
theorem canonicalAt_of_not_consumed {n : ℕ} (h : ¬Consumed first samples n) :
    canonicalAt hz first samples (n + 1) = canonicalAt hz first samples n := by
  rw [consumed_iff hz n, UInt64.not_lt] at h
  rw [canonicalAt, Canonical.consume, if_pos h]

variable (first samples)

/-- In a sequence of samples with non-zero timestamps every invalid signal always has its times if
and only if no sample flags a signal that was valid in no sample consumed before. -/
theorem canonicalAt_invalid_observed (hne : ∀ n, sampleTime first samples n ≠ 0) :
    (∀ n i, ((canonicalAt hz first samples n).signals i).state = .invalid →
      ((canonicalAt hz first samples n).signals i).firstObservedNs ≠ 0 ∧
        ((canonicalAt hz first samples n).signals i).lastChangeNs ≠ 0) ↔
    FlagsObserved first samples := by
  have hinit := (canonicalInit_decoded hz first).state
  constructor
  · intro h
    refine ⟨fun i hinvalid => ?_, fun n hconsumed i hinvalid => ?_⟩
    · have hobserved := (h 0 i ((hinit i).trans hinvalid)).1
      rcases (canonicalAt_observed_iff hz hne 0 i).mp hobserved with hvalid | ⟨m, hm, -⟩
      · cases hinvalid.symm.trans hvalid
      · exact absurd hm (Nat.not_lt_zero m)
    · have hstate := (canonicalAt_state_of_consumed hz hconsumed i).trans hinvalid
      have hobserved := (canonicalAt_observed_iff hz hne (n + 1) i).mp (h (n + 1) i hstate).1
      rcases (validBefore_succ n i).mp hobserved with hbefore | ⟨-, hvalid⟩
      · exact hbefore
      · cases hinvalid.symm.trans hvalid
  · rintro ⟨hinitial, hlater⟩ n i hinvalid
    have hpaired := canonicalAt_paired hz hne n i
    suffices hobserved : ((canonicalAt hz first samples n).signals i).firstObservedNs ≠ 0 from
      ⟨hobserved, hpaired hobserved⟩
    -- back to the last sample that was consumed
    induction n with
    | zero => exact absurd ((hinit i).symm.trans hinvalid) (hinitial i)
    | succ n ih =>
      by_cases hconsumed : Consumed first samples n
      · rw [canonicalAt_state_of_consumed hz hconsumed] at hinvalid
        have hbefore := hlater n hconsumed i hinvalid
        exact (canonicalAt_observed_iff hz hne (n + 1) i).mpr
          ((validBefore_succ n i).mpr (Or.inl hbefore))
      · rw [canonicalAt_of_not_consumed hz hconsumed] at hinvalid ⊢
        exact ih hinvalid (canonicalAt_paired hz hne n i)

end Samples

/-- The signals of `flagCatalog`: the second bit of the first byte says that the first is invalid. -/
def flagSignals (i : Fin 2) : SignalDefinition 1 2 :=
  let bit : SignalDefinition 1 2 := bitSignal 0x0A6 ⟨0, Nat.one_pos⟩ i.val
  if i = 0 then { bit with invalidSignalIndex := some 1 } else { bit with parts := [⟨0, 30, 1⟩] }

/-- One frame with a signal and its invalid flag. -/
def flagCatalog : Catalog where
  frameCount := 1
  signalCount := 2
  canIds _ := 0x0A6
  signals := flagSignals
  schemaHash := 0
  float := bitFloat
  frameCount_pos := singleCatalog.frameCount_pos
  frameCount_le := singleCatalog.frameCount_le
  signalCount_pos := by decide
  signalCount_lt := by decide
  canIds_le := singleCatalog.canIds_le
  canId_eq := by decide
  invalid_frameIndex _ _ _ := Subsingleton.elim _ _
  name_length := by decide
  unit_length := by decide
  parts_accepted i part hpart := by
    have hparts : ∀ i, (flagSignals i).parts = [⟨0, 31, 1⟩] ∨ (flagSignals i).parts = [⟨0, 30, 1⟩] := by
      decide
    rcases hparts i with heq | heq
    · rw [heq, List.mem_singleton] at hpart
      rw [hpart]
      exact ⟨Or.inl rfl, by decide, by decide, by decide⟩
    · rw [heq, List.mem_singleton] at hpart
      rw [hpart]
      exact ⟨Or.inl rfl, by decide, by decide, by decide⟩
  parts_width := by decide
  width_range := by decide
  calibrated_le := by decide

/-- A sample of `flagCatalog` with one byte. -/
def flagReading (state : ObservationState) (byte : UInt8) (sequence timestampNs : UInt64) :
    Sample flagCatalog :=
  ⟨fun _ => ⟨0x0A6, state, leadingByte byte, 0, 0⟩, sequence, timestampNs⟩

/-- The signal that can be invalid. -/
def flaggedSignal : Fin flagCatalog.signalCount := ⟨0, by decide⟩

/-- The flag is set when the frame is first observed: the signal is invalid and has no times. -/
theorem canonicalAt_invalid_unobserved :
    let signal := (canonicalAt 60 (flagReading .neverObserved 0 0 10)
      (fun _ => flagReading .valid 3 1 20) 1).signals flaggedSignal
    signal.state = .invalid ∧ signal.firstObservedNs = 0 ∧ signal.lastChangeNs = 0 :=
  ⟨by decide +kernel, by decide +kernel, by decide +kernel⟩

/-- The signal is valid first and invalid from the second sample on. -/
def laterFlag (n : ℕ) : Sample flagCatalog :=
  if n = 0 then flagReading .valid 1 1 20 else flagReading .valid 3 2 30

/-- The samples flag the signal only after it was valid. -/
theorem laterFlag_observed : FlagsObserved (flagReading .neverObserved 0 0 10) laterFlag where
  initial := by decide +kernel
  later n hconsumed i hinvalid := by
    rcases n with _ | _ | n
    · have hfirst : ∀ i, (decodeSignals flagCatalog (laterFlag 0).frames i).state ≠ .invalid := by
        decide +kernel
      exact absurd hinvalid (hfirst i)
    · have hvalid : ∀ i, (decodeSignals flagCatalog (laterFlag 0).frames i).state = .valid := by
        decide +kernel
      exact Or.inr ⟨0, Nat.one_pos, ⟨by decide, nofun⟩, hvalid i⟩
    · -- every later sample has the sequence number of the second
      exact absurd (hconsumed.2 1 (by omega)) (UInt64.lt_irrefl _)

/-- The signal is invalid and has its times. -/
theorem canonicalAt_invalid_observed_later :
    let canonical := canonicalAt 60 (flagReading .neverObserved 0 0 10) laterFlag 2
    FlagsObserved (flagReading .neverObserved 0 0 10) laterFlag ∧
      (canonical.signals flaggedSignal).state = .invalid ∧
      ((canonical.signals flaggedSignal).firstObservedNs ≠ 0 ∧
        (canonical.signals flaggedSignal).lastChangeNs ≠ 0) := by
  refine ⟨laterFlag_observed, by decide +kernel, (canonicalAt_invalid_observed
    (flagReading .neverObserved 0 0 10) laterFlag 60 fun n => ?_).mpr laterFlag_observed 2
      flaggedSignal (by decide +kernel)⟩
  rcases n with _ | _ | n
  · decide
  · decide
  · exact (by decide : (30 : UInt64) ≠ 0)

end InvalidSignals

end Roadcast
