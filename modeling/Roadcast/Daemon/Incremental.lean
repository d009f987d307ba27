import Roadcast.Daemon.Canonical

/-!
# Incremental decoding

The daemon decodes only the signals of changed frames and keeps the values of signals whose frame
became unavailable. After every consumed sample the result still agrees with the one-shot decoder
on the canonical frames, except for those kept values, which are the last ones the signal had while
its frame was available.

The flag signal of an invalid flag lies in the frame of the signal it invalidates, so a frame that
did not change decides both.
-/

namespace Roadcast

variable {cat : Catalog}

/-- The canonical state after `n` calls of `distribute_latest_sample`, from `main`'s initial one. -/
def canonicalAt (hz : UInt32) (first : Sample cat) (samples : ℕ → Sample cat) : ℕ → Canonical cat
  | 0 => canonicalInit hz first
  | n + 1 => (canonicalAt hz first samples n).consume (samples n)

/-- Two signal records with the same decoded content; the timestamps may differ. -/
def SameContent (a b : SignalValue) : Prop :=
  a.raw = b.raw ∧ a.physical = b.physical ∧ a.state = b.state ∧ a.calibrated = b.calibrated

/-- A signal with an invalid flag is never stated available when its frame is not. -/
theorem decodeSignals_state_unavailable (frames : Fin cat.frameCount → Frame)
    (i : Fin cat.signalCount) :
    (decodeSignals cat frames i).state = .unavailable ↔
      (frames (cat.signals i).frameIndex).state = .unavailable := by
  unfold decodeSignals
  split
  · rfl
  · dsimp only
    split
    · rename_i hinvalid
      have hvalid : (frames (cat.signals i).frameIndex).state = .valid := hinvalid.1
      simp [hvalid]
    · rfl

/-- The one-shot decoder sees states and bytes of one frame only. -/
theorem decodeSignals_congr {frames frames' : Fin cat.frameCount → Frame} {i : Fin cat.signalCount}
    (h : frameDiffers (frames' (cat.signals i).frameIndex)
      (frames (cat.signals i).frameIndex) = false) :
    SameContent (decodeSignals cat frames' i) (decodeSignals cat frames i) := by
  obtain ⟨hstate, hdata⟩ := (frameDiffers_eq_false _ _).mp h
  have hraw : (decodeSignals cat frames' i).raw = (decodeSignals cat frames i).raw := by
    simp only [decodeSignals_raw, hdata]
  refine ⟨hraw, by simp only [decodeSignals_physical, hraw], ?_, by simp⟩
  unfold decodeSignals
  cases hflag : (cat.signals i).invalidSignalIndex with
  | none => exact hstate
  | some j =>
    have hframe := cat.invalid_frameIndex i j hflag
    simp only [decodeSignalsPass, hframe, hstate, hdata]
    split <;> simp_all

section Passes

variable (frames : Fin cat.frameCount → Frame) (changed : Fin cat.frameCount → Bool)
  (signals : Fin cat.signalCount → SignalValue)

/-- The two passes leave the signals of an unchanged frame alone. -/
theorem passes_of_unchanged (i : Fin cat.signalCount)
    (h : changed (cat.signals i).frameIndex = false) :
    markInvalidSignals changed (decodeChangedSignals frames changed signals) i = signals i := by
  have hdecoded : decodeChangedSignals frames changed signals i = signals i := by
    simp [decodeChangedSignals, h]
  unfold markInvalidSignals
  split
  · exact hdecoded
  · rename_i j hflag
    simp [cat.invalid_frameIndex i j hflag, h, hdecoded]

/-- The two passes give a signal of a changed frame what the one-shot decoder gives it. -/
theorem passes_of_changed (i : Fin cat.signalCount)
    (h : changed (cat.signals i).frameIndex = true) :
    SameContent (markInvalidSignals changed (decodeChangedSignals frames changed signals) i)
      (decodeSignals cat frames i) := by
  unfold markInvalidSignals decodeSignals
  cases hflag : (cat.signals i).invalidSignalIndex with
  | none => simp [SameContent, decodeChangedSignals, decodeSignalsPass, h]
  | some j =>
    have hframe := cat.invalid_frameIndex i j hflag
    simp only [decodeChangedSignals, decodeSignalsPass, hframe, h, Bool.or_self, if_true, true_and]
    split <;> exact ⟨rfl, rfl, rfl, rfl⟩

end Passes

section Reconcile

variable (latest canonical : SignalValue) (timestampNs : UInt64)

/-- Reconciliation never touches the state and the calibration flag. -/
theorem reconcile_state_calibrated :
    (reconcileSignalTimestamps latest canonical timestampNs).state = latest.state ∧
      (reconcileSignalTimestamps latest canonical timestampNs).calibrated = latest.calibrated := by
  unfold reconcileSignalTimestamps
  split <;> split <;> try split
  all_goals exact ⟨rfl, rfl⟩

/-- Values are kept only for an observed signal that is now unavailable. -/
theorem reconcile_values
    (h : latest.state ≠ .unavailable ∨ canonical.firstObservedNs = 0) :
    (reconcileSignalTimestamps latest canonical timestampNs).raw = latest.raw ∧
      (reconcileSignalTimestamps latest canonical timestampNs).physical = latest.physical := by
  unfold reconcileSignalTimestamps
  split
  · rename_i hstate
    rw [if_neg (by simpa [hstate] using h)]
    exact ⟨rfl, rfl⟩
  · split
    · exact ⟨rfl, rfl⟩
    · split <;> exact ⟨rfl, rfl⟩

/-- An observed signal that is now unavailable keeps its canonical values. -/
theorem reconcile_values_of_unavailable (hstate : latest.state = .unavailable)
    (hobserved : canonical.firstObservedNs ≠ 0) :
    (reconcileSignalTimestamps latest canonical timestampNs).raw = canonical.raw ∧
      (reconcileSignalTimestamps latest canonical timestampNs).physical = canonical.physical := by
  simp [reconcileSignalTimestamps, hstate, hobserved]

/-- While its frame is unavailable a signal keeps its first timestamp. -/
theorem reconcile_first_of_unavailable (hstate : latest.state = .unavailable) :
    (reconcileSignalTimestamps latest canonical timestampNs).firstObservedNs =
      canonical.firstObservedNs := by
  by_cases hobserved : canonical.firstObservedNs = 0
  · simp [reconcileSignalTimestamps, hstate, hobserved]
  · simp [reconcileSignalTimestamps, hstate, hobserved]

end Reconcile

/-- The canonical signals agree with the one-shot decoder, kept values apart. -/
structure Canonical.Decoded (canonical : Canonical cat) : Prop where
  state : ∀ i, (canonical.signals i).state = (decodeSignals cat canonical.frames i).state
  calibrated : ∀ i, (canonical.signals i).calibrated = (cat.signals i).calibrated
  values : ∀ i, (canonical.frames (cat.signals i).frameIndex).state ≠ .unavailable ∨
      (canonical.signals i).firstObservedNs = 0 →
    (canonical.signals i).raw = (decodeSignals cat canonical.frames i).raw ∧
      (canonical.signals i).physical = (decodeSignals cat canonical.frames i).physical

/-- The first sample is decoded as a whole. -/
theorem canonicalInit_decoded (hz : UInt32) (first : Sample cat) :
    (canonicalInit hz first).Decoded := by
  have hcontent : ∀ i, SameContent (initialSignals first.frames first.timestampNs i)
      (decodeSignals cat first.frames i) := by
    intro i
    unfold initialSignals
    dsimp only
    split <;> exact ⟨rfl, rfl, rfl, rfl⟩
  refine ⟨fun i => (hcontent i).2.2.1, fun i => ?_, fun i _ => ⟨(hcontent i).1, (hcontent i).2.1⟩⟩
  exact (hcontent i).2.2.2.trans (decodeSignals_calibrated cat first.frames i)

/-- What the decoder computes for a changed sample, signal by signal. -/
theorem latestSignals_state_calibrated {canonical : Canonical cat} (h : canonical.Decoded)
    (sample : Sample cat) (i : Fin cat.signalCount) :
    (latestSignals canonical sample i).state = (decodeSignals cat sample.frames i).state ∧
      (latestSignals canonical sample i).calibrated = (cat.signals i).calibrated := by
  unfold latestSignals
  simp only [reconcile_state_calibrated]
  cases hchanged : frameDiffers (sample.frames (cat.signals i).frameIndex)
      (canonical.frames (cat.signals i).frameIndex) with
  | false =>
    rw [passes_of_unchanged _ _ _ i hchanged, h.state i, h.calibrated i]
    exact ⟨(decodeSignals_congr hchanged).2.2.1.symm, rfl⟩
  | true =>
    have hcontent := passes_of_changed sample.frames
      (fun f => frameDiffers (sample.frames f) (canonical.frames f)) canonical.signals i hchanged
    exact ⟨hcontent.2.2.1, hcontent.2.2.2.trans (decodeSignals_calibrated cat sample.frames i)⟩

/-- A signal that is available, or that was never observed, gets the decoded values. -/
theorem latestSignals_values {canonical : Canonical cat} (h : canonical.Decoded)
    (sample : Sample cat) (i : Fin cat.signalCount)
    (hvalues : (sample.frames (cat.signals i).frameIndex).state ≠ .unavailable ∨
      (canonical.signals i).firstObservedNs = 0) :
    (latestSignals canonical sample i).raw = (decodeSignals cat sample.frames i).raw ∧
      (latestSignals canonical sample i).physical = (decodeSignals cat sample.frames i).physical := by
  unfold latestSignals
  dsimp only
  cases hchanged : frameDiffers (sample.frames (cat.signals i).frameIndex)
      (canonical.frames (cat.signals i).frameIndex) with
  | false =>
    have hsame := decodeSignals_congr hchanged
    have hstate := (frameDiffers_eq_false _ _).mp hchanged
    rw [passes_of_unchanged _ _ _ i hchanged, hsame.1, hsame.2.1]
    rw [hstate.1] at hvalues
    have hlatest : (canonical.signals i).state ≠ .unavailable ∨
        (canonical.signals i).firstObservedNs = 0 := by
      rw [h.state i]
      exact hvalues.imp_left (mt (decodeSignals_state_unavailable canonical.frames i).mp)
    have hkept := reconcile_values _ _ sample.timestampNs hlatest
    have hdecoded := h.values i hvalues
    exact ⟨hkept.1.trans hdecoded.1, hkept.2.trans hdecoded.2⟩
  | true =>
    have hcontent := passes_of_changed sample.frames
      (fun f => frameDiffers (sample.frames f) (canonical.frames f)) canonical.signals i hchanged
    have hlatest := hvalues.imp_left (mt (decodeSignals_state_unavailable sample.frames i).mp)
    rw [← hcontent.2.2.1] at hlatest
    have hkept := reconcile_values _ _ sample.timestampNs hlatest
    exact ⟨hkept.1.trans hcontent.1, hkept.2.trans hcontent.2.1⟩

/-- A signal whose frame is unavailable keeps its first timestamp and, once observed, its values. -/
theorem latestSignals_of_unavailable {canonical : Canonical cat} (h : canonical.Decoded)
    (sample : Sample cat) (i : Fin cat.signalCount)
    (hframe : (sample.frames (cat.signals i).frameIndex).state = .unavailable) :
    (latestSignals canonical sample i).firstObservedNs = (canonical.signals i).firstObservedNs ∧
      ((canonical.signals i).firstObservedNs ≠ 0 →
        (latestSignals canonical sample i).raw = (canonical.signals i).raw ∧
          (latestSignals canonical sample i).physical = (canonical.signals i).physical) := by
  have hstate := (latestSignals_state_calibrated h sample i).1
  rw [(decodeSignals_state_unavailable sample.frames i).mpr hframe, latestSignals] at hstate
  rw [(reconcile_state_calibrated _ _ _).1] at hstate
  exact ⟨reconcile_first_of_unavailable _ _ _ hstate,
    fun hobserved => reconcile_values_of_unavailable _ _ _ hstate hobserved⟩

/-- Consuming a sample keeps the canonical signals decoded. -/
theorem Canonical.Decoded.consume {canonical : Canonical cat} (h : canonical.Decoded)
    (sample : Sample cat) : (canonical.consume sample).Decoded := by
  rcases canonical.consume_cases sample with ⟨-, hsame⟩ | ⟨-, hnone, hrefresh⟩ | ⟨-, -, hadvance⟩
  · rw [hsame]
    exact h
  · rw [hrefresh]
    have hcontent : ∀ i, SameContent (decodeSignals cat sample.frames i)
        (decodeSignals cat canonical.frames i) :=
      fun i => decodeSignals_congr (frameDiffers_of_differingFrames_nil hnone _)
    refine ⟨fun i => (h.state i).trans (hcontent i).2.2.1.symm, h.calibrated, fun i hvalues => ?_⟩
    have hframe := (frameDiffers_eq_false _ _).mp
      (frameDiffers_of_differingFrames_nil hnone (cat.signals i).frameIndex)
    have hdecoded := h.values i (by rw [← hframe.1]; exact hvalues)
    exact ⟨hdecoded.1.trans (hcontent i).1.symm, hdecoded.2.trans (hcontent i).2.1.symm⟩
  · rw [hadvance]
    refine ⟨fun i => (latestSignals_state_calibrated h sample i).1,
      fun i => (latestSignals_state_calibrated h sample i).2, fun i hvalues => ?_⟩
    refine latestSignals_values h sample i ?_
    by_cases hframe : (sample.frames (cat.signals i).frameIndex).state = .unavailable
    · have hfirst := (latestSignals_of_unavailable h sample i hframe).1
      rcases hvalues with havailable | hunobserved
      · exact absurd hframe havailable
      · exact Or.inr (hfirst.symm.trans hunobserved)
    · exact Or.inl hframe

/-- Consuming a sample that leaves a frame unavailable keeps an observed signal of it as it was. -/
theorem Canonical.Decoded.consume_kept {canonical : Canonical cat} (h : canonical.Decoded)
    (sample : Sample cat) (i : Fin cat.signalCount)
    (hframe : ((canonical.consume sample).frames (cat.signals i).frameIndex).state = .unavailable)
    (hobserved : ((canonical.consume sample).signals i).firstObservedNs ≠ 0) :
    (canonical.signals i).firstObservedNs ≠ 0 ∧
      ((canonical.consume sample).signals i).raw = (canonical.signals i).raw ∧
      ((canonical.consume sample).signals i).physical = (canonical.signals i).physical := by
  rcases canonical.consume_cases sample with ⟨-, hsame⟩ | ⟨-, -, hrefresh⟩ | ⟨-, -, hadvance⟩
  · rw [hsame] at hobserved ⊢
    exact ⟨hobserved, rfl, rfl⟩
  · rw [hrefresh] at hobserved ⊢
    exact ⟨hobserved, rfl, rfl⟩
  · rw [hadvance] at hframe hobserved ⊢
    obtain ⟨hfirst, hvalues⟩ := latestSignals_of_unavailable h sample i hframe
    have hbefore : (canonical.signals i).firstObservedNs ≠ 0 := by
      rw [← hfirst]
      exact hobserved
    exact ⟨hbefore, hvalues hbefore⟩

/-- After any number of samples the signals are those of the frames. -/
theorem canonicalAt_decoded (hz : UInt32) (first : Sample cat) (samples : ℕ → Sample cat) (n : ℕ) :
    (canonicalAt hz first samples n).Decoded := by
  induction n with
  | zero => exact canonicalInit_decoded hz first
  | succ n ih => exact ih.consume (samples n)

/-- An observed signal of an unavailable frame has the values it had in the last state in which
the frame was available. -/
theorem canonicalAt_kept (hz : UInt32) (first : Sample cat) (samples : ℕ → Sample cat) (n : ℕ)
    (i : Fin cat.signalCount)
    (hframe : ((canonicalAt hz first samples n).frames (cat.signals i).frameIndex).state =
      .unavailable)
    (hobserved : ((canonicalAt hz first samples n).signals i).firstObservedNs ≠ 0) :
    ∃ m < n,
      ((canonicalAt hz first samples m).frames (cat.signals i).frameIndex).state ≠ .unavailable ∧
      (∀ k, m < k → k ≤ n →
        ((canonicalAt hz first samples k).frames (cat.signals i).frameIndex).state = .unavailable) ∧
      ((canonicalAt hz first samples n).signals i).raw =
        ((canonicalAt hz first samples m).signals i).raw ∧
      ((canonicalAt hz first samples n).signals i).physical =
        ((canonicalAt hz first samples m).signals i).physical := by
  induction n with
  | zero =>
    -- The first sample cannot have an observed signal of an unavailable frame.
    have hstate := (decodeSignals_state_unavailable first.frames i).mpr hframe
    exact absurd (by simp [canonicalAt, canonicalInit, initialSignals, hstate]) hobserved
  | succ n ih =>
    obtain ⟨hbefore, hraw, hphysical⟩ :=
      (canonicalAt_decoded hz first samples n).consume_kept (samples n) i hframe hobserved
    by_cases hprevious :
        ((canonicalAt hz first samples n).frames (cat.signals i).frameIndex).state = .unavailable
    · obtain ⟨m, hm, havailable, hsince, hrawm, hphysicalm⟩ := ih hprevious hbefore
      refine ⟨m, Nat.lt_succ_of_lt hm, havailable, fun k hk hkn => ?_, hraw.trans hrawm,
        hphysical.trans hphysicalm⟩
      rcases Nat.le_succ_iff.mp hkn with hkn | rfl
      · exact hsince k hk hkn
      · exact hframe
    · refine ⟨n, Nat.lt_succ_self n, hprevious, fun k hk hkn => ?_, hraw, hphysical⟩
      have heq : k = n + 1 := by omega
      rw [heq]
      exact hframe

/-- Incremental decoding equals full decoding, kept values apart. -/
theorem canonicalAt_eq_decodeSignals (hz : UInt32) (first : Sample cat) (samples : ℕ → Sample cat)
    (n : ℕ) (i : Fin cat.signalCount) :
    let canonical := canonicalAt hz first samples n
    let full := decodeSignals cat canonical.frames i
    let frame := canonical.frames (cat.signals i).frameIndex
    ((canonical.signals i).state = full.state ∧
      (canonical.signals i).calibrated = full.calibrated) ∧
    (frame.state ≠ .unavailable ∨ (canonical.signals i).firstObservedNs = 0 →
      (canonical.signals i).raw = full.raw ∧ (canonical.signals i).physical = full.physical) ∧
    (frame.state = .unavailable → (canonical.signals i).firstObservedNs ≠ 0 →
      ∃ m < n,
        ((canonicalAt hz first samples m).frames (cat.signals i).frameIndex).state ≠
          .unavailable ∧
        (∀ k, m < k → k ≤ n →
          ((canonicalAt hz first samples k).frames (cat.signals i).frameIndex).state =
            .unavailable) ∧
        (canonical.signals i).raw = ((canonicalAt hz first samples m).signals i).raw ∧
        (canonical.signals i).physical =
          ((canonicalAt hz first samples m).signals i).physical) := by
  have hdecoded := canonicalAt_decoded hz first samples n
  refine ⟨⟨hdecoded.state i, ?_⟩, hdecoded.values i, canonicalAt_kept hz first samples n i⟩
  exact (hdecoded.calibrated i).trans (decodeSignals_calibrated cat _ i).symm

end Roadcast
