import Mathlib.Data.Nat.Find
import Mathlib.Order.Monotone.Basic
import Roadcast.Source.Sampler

/-!
# The observation history of a frame

Tick 0 is `sampler_init` and tick `n + 1` the `n`-th iteration of the sampler thread. The frame
published after a tick is described by the reads since the baseline of the current generation, the
first read of that generation that succeeded: which consecutive reads differed, and when.

The argument follows an episode, the ticks from a baseline on while every read succeeds. Within an
episode the generation and the resolved addresses stay the same, and one merge moves the
description of the published frame forward by one tick.
-/

namespace Roadcast

variable {cat : Catalog}

/-- The VHAL sampler after tick `n`. -/
def samplerRun (ticks : ℕ → Tick cat) : ℕ → Sampler cat
  | 0 => samplerInit none (ticks 0)
  | n + 1 => samplerTick (samplerRun ticks n) (ticks (n + 1))

/-- The source read of tick `n`. -/
def tickRead (ticks : ℕ → Tick cat) :
    ℕ → SourceSession cat × ReadResult × (Fin cat.frameCount → Frame)
  | 0 => sourceSessionRead sourceSessionInit (ticks 0).attempt (ticks 0).nowNs
  | n + 1 => sourceSessionRead (samplerRun ticks n).source (ticks (n + 1)).attempt
      (ticks (n + 1)).nowNs

/-- The read of tick `n` succeeded. -/
def Delivered (ticks : ℕ → Tick cat) (n : ℕ) : Prop :=
  (tickRead ticks n).2.1.succeeded = true

/-- What the read of tick `n` returned for frame `i`. -/
def sampleAt (ticks : ℕ → Tick cat) (n : ℕ) (i : Fin cat.frameCount) : Frame :=
  (tickRead ticks n).2.2 i

/-- The generation of the source session after tick `n`. -/
def generationAt (ticks : ℕ → Tick cat) (n : ℕ) : ℕ :=
  (tickRead ticks n).1.generation

/-- The frame published before tick `n`; nothing is published before tick 0. -/
def publishedBefore (ticks : ℕ → Tick cat) : ℕ → Fin cat.frameCount → Frame
  | 0 => markUnavailable
  | n + 1 => (samplerRun ticks n).published

/-- Tick `n` is the first successful read of its generation. -/
def Baseline (ticks : ℕ → Tick cat) (n : ℕ) : Prop :=
  Delivered ticks n ∧ ∀ m < n, Delivered ticks m → generationAt ticks m ≠ generationAt ticks n

/-- Tick `n` and the tick before it are successful reads of one generation that differ in the bytes
of frame `i`. -/
def ChangedAt (ticks : ℕ → Tick cat) (i : Fin cat.frameCount) : ℕ → Prop
  | 0 => False
  | n + 1 => Delivered ticks n ∧ Delivered ticks (n + 1) ∧
      generationAt ticks n = generationAt ticks (n + 1) ∧
      (sampleAt ticks n i).data ≠ (sampleAt ticks (n + 1) i).data

/-- Tick `k` is the first change of frame `i` after tick `b`, up to tick `n`. -/
def FirstChange (ticks : ℕ → Tick cat) (i : Fin cat.frameCount) (b n k : ℕ) : Prop :=
  b < k ∧ k ≤ n ∧ ChangedAt ticks i k ∧ ∀ j, b < j → j < k → ¬ ChangedAt ticks i j

/-- Tick `k` is the latest change of frame `i` after tick `b`, up to tick `n`. -/
def LatestChange (ticks : ℕ → Tick cat) (i : Fin cat.frameCount) (b n k : ℕ) : Prop :=
  b < k ∧ k ≤ n ∧ ChangedAt ticks i k ∧ ∀ j, k < j → j ≤ n → ¬ ChangedAt ticks i j

section Reads

variable (ticks : ℕ → Tick cat)

/-- A sampler of a process is not a fake one. -/
theorem samplerRun_fake (n : ℕ) : (samplerRun ticks n).fake = none := by
  induction n with
  | zero => rfl
  | succ n ih => exact ih

/-- The source of the sampler is the one that its last tick has read. -/
theorem samplerRun_source (n : ℕ) : (samplerRun ticks n).source = (tickRead ticks n).1 := by
  cases n with
  | zero => rfl
  | succ n => simp only [samplerRun, samplerTick, samplerRun_fake, tickRead]

/-- The sampler is sound after every tick. -/
theorem samplerRun_sound (n : ℕ) : (samplerRun ticks n).Sound := by
  induction n with
  | zero => exact samplerInit_sound none (ticks 0)
  | succ n ih => exact samplerTick_sound _ _ ih

/-- The first sample is published without any time. -/
theorem samplerRun_published_zero (i : Fin cat.frameCount) :
    (samplerRun ticks 0).published i =
      { sampleAt ticks 0 i with firstObservedNs := 0, lastChangeNs := 0 } := rfl

/-- What one tick publishes, in terms of its read. -/
theorem samplerRun_published_succ (n : ℕ) (i : Fin cat.frameCount) :
    (samplerRun ticks (n + 1)).published i =
      mergeSampledFrame ((samplerRun ticks n).published i) (sampleAt ticks (n + 1) i)
        (ticks (n + 1)).timestampNs
        ((tickRead ticks (n + 1)).2.1.succeeded &&
          decide (generationAt ticks n ≠ generationAt ticks (n + 1))) := by
  rw [(samplerRun_sound ticks n).published_eq, generationAt, ← samplerRun_source]
  simp only [samplerRun, samplerTick, samplerRun_fake, mergeSampledFrames, sampleAt, generationAt,
    tickRead]
  rfl

/-- Every tick's read failed or delivered. -/
theorem tickRead_cases (n : ℕ) :
    (∃ session, ReadFailed session (tickRead ticks n)) ∨ ReadDelivered (tickRead ticks n) := by
  have hread : ∃ session attempt nowNs,
      tickRead ticks n = sourceSessionRead session attempt nowNs := by
    cases n with
    | zero => exact ⟨_, _, _, rfl⟩
    | succ n => exact ⟨_, _, _, rfl⟩
  obtain ⟨session, attempt, nowNs, hread⟩ := hread
  rw [hread]
  rcases sourceSessionRead_cases session attempt nowNs with hfail | ⟨hread, -⟩
  · exact Or.inl ⟨session, hfail⟩
  · exact Or.inr hread

/-- The session is connected between ticks exactly after a successful read. -/
theorem tickRead_connected (n : ℕ) : (tickRead ticks n).1.connected = true ↔ Delivered ticks n := by
  unfold Delivered
  rcases tickRead_cases ticks n with ⟨session, hfail⟩ | hread
  · simp [hfail.1, hfail.2.2.1]
  · simp [hread.1, hread.2.1]

/-- The generation never goes back. -/
theorem generationAt_le_succ (n : ℕ) : generationAt ticks n ≤ generationAt ticks (n + 1) := by
  rw [generationAt, ← samplerRun_source]
  rcases sourceSessionRead_cases (samplerRun ticks n).source (ticks (n + 1)).attempt
    (ticks (n + 1)).nowNs with hfail | ⟨-, hsame | hnew⟩
  · exact hfail.2.2.2
  · exact hsame.2.1.ge
  · exact (Nat.le_succ _).trans hnew.2.ge

/-- The generation of the source only grows. -/
theorem generationAt_mono {m n : ℕ} (h : m ≤ n) : generationAt ticks m ≤ generationAt ticks n :=
  monotone_nat_of_le_succ (generationAt_le_succ ticks) h

/-- A read that failed returns every frame as unavailable. -/
theorem sampleAt_of_not_delivered {n : ℕ} (h : ¬ Delivered ticks n) :
    sampleAt ticks n = markUnavailable := by
  rcases tickRead_cases ticks n with ⟨session, hfail⟩ | hread
  · exact hfail.2.1
  · exact absurd hread.1 h

/-- A successful read marks a frame unavailable exactly when its address is not resolved. -/
theorem sampleAt_of_delivered {n : ℕ} (h : Delivered ticks n) :
    ∃ bytes, sampleAt ticks n = vhalFrames (tickRead ticks n).1.resolved bytes := by
  rcases tickRead_cases ticks n with ⟨session, hfail⟩ | hread
  · exact absurd (hfail.1.symm.trans h) (by simp)
  · exact hread.2.2

/-- A successful read continues the generation of a successful read before it, or opens the next. -/
theorem delivered_succ_cases {n : ℕ} (h : Delivered ticks (n + 1)) :
    (Delivered ticks n ∧ generationAt ticks (n + 1) = generationAt ticks n ∧
        (tickRead ticks (n + 1)).1.resolved = (tickRead ticks n).1.resolved) ∨
      (¬ Delivered ticks n ∧ generationAt ticks (n + 1) = generationAt ticks n + 1) := by
  have hsource := samplerRun_source ticks n
  rcases sourceSessionRead_cases (samplerRun ticks n).source (ticks (n + 1)).attempt
    (ticks (n + 1)).nowNs with hfail | ⟨-, hsame | hnew⟩
  · exact absurd (hfail.1.symm.trans h) (by simp)
  · left
    rw [hsource] at hsame
    rw [← tickRead_connected, generationAt, generationAt, tickRead, hsource]
    exact hsame
  · right
    rw [hsource] at hnew
    rw [← tickRead_connected, generationAt, generationAt, tickRead, hsource]
    exact ⟨by simp [hnew.1], hnew.2⟩

end Reads

/-- An episode: from the baseline `b` to tick `n` every read delivers from the source opened at
`b`. -/
structure Episode (ticks : ℕ → Tick cat) (b n : ℕ) : Prop where
  le : b ≤ n
  baseline : Baseline ticks b
  delivered : ∀ k, b ≤ k → k ≤ n → Delivered ticks k
  generation : ∀ k, b ≤ k → k ≤ n → generationAt ticks k = generationAt ticks b
  resolved : ∀ k, b ≤ k → k ≤ n → (tickRead ticks k).1.resolved = (tickRead ticks b).1.resolved

/-- A baseline starts an episode of one tick. -/
theorem Episode.start {ticks : ℕ → Tick cat} {b : ℕ} (h : Baseline ticks b) : Episode ticks b b := by
  have heq : ∀ k, b ≤ k → k ≤ b → k = b := fun k hge hle => le_antisymm hle hge
  exact ⟨le_rfl, h, fun k hge hle => heq k hge hle ▸ h.1, fun k hge hle => heq k hge hle ▸ rfl,
    fun k hge hle => heq k hge hle ▸ rfl⟩

/-- A successful read of the same source prolongs an episode. -/
theorem Episode.extend {ticks : ℕ → Tick cat} {b n : ℕ} (h : Episode ticks b n)
    (hdelivered : Delivered ticks (n + 1))
    (hgeneration : generationAt ticks (n + 1) = generationAt ticks n)
    (hresolved : (tickRead ticks (n + 1)).1.resolved = (tickRead ticks n).1.resolved) :
    Episode ticks b (n + 1) := by
  refine ⟨Nat.le_succ_of_le h.le, h.baseline, ?_, ?_, ?_⟩
  · intro k hge hle
    rcases Nat.le_succ_iff.mp hle with hle | rfl
    · exact h.delivered k hge hle
    · exact hdelivered
  · intro k hge hle
    rcases Nat.le_succ_iff.mp hle with hle | rfl
    · exact h.generation k hge hle
    · exact hgeneration.trans (h.generation n h.le le_rfl)
  · intro k hge hle
    rcases Nat.le_succ_iff.mp hle with hle | rfl
    · exact h.resolved k hge hle
    · exact hresolved.trans (h.resolved n h.le le_rfl)

/-- A successful read after a tick that delivered nothing is a baseline. -/
theorem baseline_of_reopened {ticks : ℕ → Tick cat} {n : ℕ} (hdelivered : Delivered ticks (n + 1))
    (hnew : generationAt ticks (n + 1) = generationAt ticks n + 1) : Baseline ticks (n + 1) := by
  refine ⟨hdelivered, fun m hm _ => ?_⟩
  have hle := generationAt_mono ticks (Nat.lt_succ_iff.mp hm)
  omega

/-- Every successful read belongs to an episode. -/
theorem exists_episode (ticks : ℕ → Tick cat) (n : ℕ) (h : Delivered ticks n) :
    ∃ b, Episode ticks b n := by
  induction n with
  | zero => exact ⟨0, Episode.start ⟨h, fun m hm => absurd hm (Nat.not_lt_zero m)⟩⟩
  | succ n ih =>
    rcases delivered_succ_cases ticks h with ⟨hprevious, hgeneration, hresolved⟩ | ⟨-, hnew⟩
    · obtain ⟨b, hepisode⟩ := ih hprevious
      exact ⟨b, hepisode.extend h hgeneration hresolved⟩
    · exact ⟨n + 1, Episode.start (baseline_of_reopened h hnew)⟩

/-- At a baseline the sample is published as it is, with zero timestamps. -/
theorem published_of_baseline {ticks : ℕ → Tick cat} {n : ℕ} (h : Baseline ticks n)
    (i : Fin cat.frameCount) :
    (samplerRun ticks n).published i =
      { sampleAt ticks n i with firstObservedNs := 0, lastChangeNs := 0 } := by
  cases n with
  | zero => exact samplerRun_published_zero ticks i
  | succ n =>
    have hnew : generationAt ticks n ≠ generationAt ticks (n + 1) := by
      rcases delivered_succ_cases ticks h.1 with ⟨hprevious, -, -⟩ | ⟨-, hnew⟩
      · exact h.2 n (Nat.lt_succ_self n) hprevious
      · omega
    have hdelivered : (tickRead ticks (n + 1)).2.1.succeeded = true := h.1
    rw [samplerRun_published_succ, hdelivered, decide_eq_true hnew, mergeSampledFrame]
    simp

/-- Away from a baseline the tick merges its sample into the published frame. -/
theorem published_of_not_baseline {ticks : ℕ → Tick cat} {n : ℕ} (h : ¬ Baseline ticks (n + 1))
    (i : Fin cat.frameCount) :
    (samplerRun ticks (n + 1)).published i =
      mergeSampledFrame ((samplerRun ticks n).published i) (sampleAt ticks (n + 1) i)
        (ticks (n + 1)).timestampNs false := by
  rw [samplerRun_published_succ]
  congr 1
  cases hresult : (tickRead ticks (n + 1)).2.1.succeeded with
  | false => rfl
  | true =>
    have hsame : generationAt ticks n = generationAt ticks (n + 1) := by
      rcases delivered_succ_cases ticks hresult with ⟨-, hsame, -⟩ | ⟨-, hnew⟩
      · exact hsame.symm
      · exact absurd (baseline_of_reopened hresult hnew) h
    simp [hsame]

/-- The published frame tells exactly what the reads after the baseline `b` up to tick `n` showed:
the bytes of the last read, whether two consecutive reads differed, and when they first and last
did. -/
structure TellsHistory (ticks : ℕ → Tick cat) (i : Fin cat.frameCount) (b n : ℕ) (frame : Frame) :
    Prop where
  data : frame.data = (sampleAt ticks n i).data
  valid : frame.state = .valid ↔ ∃ k, b < k ∧ k ≤ n ∧ ChangedAt ticks i k
  unchanged : (∀ k, b < k → k ≤ n → ¬ ChangedAt ticks i k) →
    frame.state = .neverObserved ∧ frame.firstObservedNs = 0 ∧ frame.lastChangeNs = 0
  first : ∀ k, FirstChange ticks i b n k → frame.firstObservedNs = (ticks k).timestampNs
  latest : ∀ k, LatestChange ticks i b n k → frame.lastChangeNs = (ticks k).timestampNs

/-- A frame that changed has a first change. -/
theorem exists_firstChange {ticks : ℕ → Tick cat} {i : Fin cat.frameCount} {b n : ℕ}
    (h : ∃ k, b < k ∧ k ≤ n ∧ ChangedAt ticks i k) : ∃ k, FirstChange ticks i b n k := by
  classical
  obtain ⟨hafter, hle, hchanged⟩ := Nat.find_spec h
  refine ⟨Nat.find h, hafter, hle, hchanged, fun j hj hlt hchange => ?_⟩
  exact Nat.find_min h hlt ⟨hj, hlt.le.trans hle, hchange⟩

/-- With nonzero clock readings a frame that tells its history has a zero first timestamp exactly
when it never changed. -/
theorem TellsHistory.observed {ticks : ℕ → Tick cat} {i : Fin cat.frameCount} {b n : ℕ}
    {frame : Frame} (h : TellsHistory ticks i b n frame)
    (htime : ∀ n, (ticks n).timestampNs ≠ 0) :
    frame.firstObservedNs ≠ 0 ↔ ∃ k, b < k ∧ k ≤ n ∧ ChangedAt ticks i k := by
  constructor
  · intro hfirst
    by_contra hnone
    exact hfirst (h.unchanged fun k hk hle hchanged => hnone ⟨k, hk, hle, hchanged⟩).2.1
  · intro hchanged
    obtain ⟨k, hk⟩ := exists_firstChange hchanged
    rw [h.first k hk]
    exact htime k

/-- A merge of a sample with the same bytes keeps the history. -/
theorem TellsHistory.merge_unchanged {ticks : ℕ → Tick cat} {i : Fin cat.frameCount} {b n : ℕ}
    {frame : Frame} (h : TellsHistory ticks i b n frame)
    (htime : ∀ n, (ticks n).timestampNs ≠ 0)
    (hstate : (sampleAt ticks (n + 1) i).state ≠ .unavailable)
    (hdata : frame.data = (sampleAt ticks (n + 1) i).data)
    (hsame : ¬ ChangedAt ticks i (n + 1)) :
    TellsHistory ticks i b (n + 1)
      (mergeSampledFrame frame (sampleAt ticks (n + 1) i) (ticks (n + 1)).timestampNs false) := by
  have hmerge : mergeSampledFrame frame (sampleAt ticks (n + 1) i) (ticks (n + 1)).timestampNs false
      = { frame with
          canId := (sampleAt ticks (n + 1) i).canId
          state := if frame.firstObservedNs ≠ 0 then .valid else .neverObserved } := by
    simp [mergeSampledFrame, hstate, hdata]
  have hle : ∀ k, k ≤ n + 1 → ChangedAt ticks i k → k ≤ n := by
    intro k hk hchanged
    rcases Nat.le_succ_iff.mp hk with hk | rfl
    · exact hk
    · exact absurd hchanged hsame
  rw [hmerge]
  refine ⟨hdata, ?_, ?_, ?_, ?_⟩
  · have hiff := h.observed htime
    constructor
    · intro hvalid
      obtain ⟨k, hk, hkn, hchanged⟩ := hiff.mp (by simpa using hvalid)
      exact ⟨k, hk, Nat.le_succ_of_le hkn, hchanged⟩
    · rintro ⟨k, hk, hkn, hchanged⟩
      exact if_pos (hiff.mpr ⟨k, hk, hle k hkn hchanged, hchanged⟩)
  · intro hnone
    have hold := h.unchanged fun k hk hkn => hnone k hk (Nat.le_succ_of_le hkn)
    simp [hold.2.1, hold.2.2]
  · rintro k ⟨hk, hkn, hchanged, hfirst⟩
    exact h.first k ⟨hk, hle k hkn hchanged, hchanged, hfirst⟩
  · rintro k ⟨hk, hkn, hchanged, hlatest⟩
    exact h.latest k ⟨hk, hle k hkn hchanged, hchanged,
      fun j hj hjn => hlatest j hj (Nat.le_succ_of_le hjn)⟩

/-- A merge of a sample with other bytes enters the change into the history. -/
theorem TellsHistory.merge_changed {ticks : ℕ → Tick cat} {i : Fin cat.frameCount} {b n : ℕ}
    {frame : Frame} (h : TellsHistory ticks i b n frame) (hbn : b ≤ n)
    (htime : ∀ n, (ticks n).timestampNs ≠ 0)
    (hstate : (sampleAt ticks (n + 1) i).state ≠ .unavailable)
    (hdata : frame.data ≠ (sampleAt ticks (n + 1) i).data)
    (hchange : ChangedAt ticks i (n + 1)) :
    TellsHistory ticks i b (n + 1)
      (mergeSampledFrame frame (sampleAt ticks (n + 1) i) (ticks (n + 1)).timestampNs false) := by
  have hmerge : mergeSampledFrame frame (sampleAt ticks (n + 1) i) (ticks (n + 1)).timestampNs false
      = { canId := (sampleAt ticks (n + 1) i).canId
          state := .valid
          data := (sampleAt ticks (n + 1) i).data
          firstObservedNs := if frame.firstObservedNs = 0 then (ticks (n + 1)).timestampNs
            else frame.firstObservedNs
          lastChangeNs := (ticks (n + 1)).timestampNs } := by
    have hfirst : (if frame.firstObservedNs = 0 then (ticks (n + 1)).timestampNs
        else frame.firstObservedNs) ≠ 0 := by
      split
      · exact htime (n + 1)
      · assumption
    simp only [mergeSampledFrame, Bool.false_eq_true, if_false, if_neg hstate, if_pos hdata,
      if_pos hfirst]
  have hlast : b < n + 1 := Nat.lt_succ_of_le hbn
  rw [hmerge]
  refine ⟨rfl, ⟨fun _ => ⟨n + 1, hlast, le_rfl, hchange⟩, fun _ => rfl⟩, ?_, ?_, ?_⟩
  · intro hnone
    exact absurd hchange (hnone (n + 1) hlast le_rfl)
  · rintro k ⟨hk, hkn, hchanged, hfirst⟩
    rcases Nat.le_succ_iff.mp hkn with hkn | rfl
    · have hold := h.first k ⟨hk, hkn, hchanged, hfirst⟩
      have hne := htime k
      rw [← hold] at hne ⊢
      exact if_neg hne
    · refine if_pos ?_
      by_contra hne
      obtain ⟨j, hj, hjn, hchangedj⟩ := (h.observed htime).mp hne
      exact hfirst j hj (Nat.lt_succ_of_le hjn) hchangedj
  · rintro k ⟨-, hkn, -, hlatest⟩
    rcases Nat.le_succ_iff.mp hkn with hkn | rfl
    · exact absurd hchange (hlatest (n + 1) (Nat.lt_succ_of_le hkn) le_rfl)
    · rfl

/-- In an episode in which frame `i` is resolved the published frame tells its history. -/
theorem Episode.tellsHistory {ticks : ℕ → Tick cat} {b n : ℕ} (h : Episode ticks b n)
    (htime : ∀ n, (ticks n).timestampNs ≠ 0) (i : Fin cat.frameCount)
    (hresolved : (tickRead ticks b).1.resolved i = true) :
    TellsHistory ticks i b n ((samplerRun ticks n).published i) := by
  have hstate : ∀ k, b ≤ k → k ≤ n → (sampleAt ticks k i).state = .neverObserved := by
    intro k hk hkn
    obtain ⟨bytes, hbytes⟩ := sampleAt_of_delivered ticks (h.delivered k hk hkn)
    simp [hbytes, vhalFrames, h.resolved k hk hkn, hresolved]
  -- Induction along the episode, from the baseline on; the hypotheses about all of its ticks stay.
  have hprogress : ∀ m, b ≤ m → m ≤ n →
      TellsHistory ticks i b m ((samplerRun ticks m).published i) := by
    intro m hm
    induction m, hm using Nat.le_induction with
    | base =>
      intro hbn
      rw [published_of_baseline h.baseline]
      refine ⟨rfl, ⟨fun hvalid => ?_, ?_⟩, fun _ => ⟨hstate b le_rfl hbn, rfl, rfl⟩, ?_, ?_⟩
      · rw [hstate b le_rfl hbn] at hvalid
        contradiction
      · rintro ⟨k, hk, hkb, -⟩
        omega
      · rintro k ⟨hk, hkb, -⟩
        omega
      · rintro k ⟨hk, hkb, -⟩
        omega
    | succ m hm ih =>
      intro hmn
      have hprevious := ih (by omega)
      have hgeneration : generationAt ticks m = generationAt ticks (m + 1) :=
        (h.generation m hm (by omega)).trans (h.generation (m + 1) (by omega) hmn).symm
      have hbaseline : ¬ Baseline ticks (m + 1) := fun hnew =>
        hnew.2 m (Nat.lt_succ_self m) (h.delivered m hm (by omega)) hgeneration
      have havailable : (sampleAt ticks (m + 1) i).state ≠ .unavailable := by
        rw [hstate (m + 1) (by omega) hmn]
        simp
      rw [published_of_not_baseline hbaseline]
      by_cases hdata : ((samplerRun ticks m).published i).data = (sampleAt ticks (m + 1) i).data
      · refine hprevious.merge_unchanged htime havailable hdata fun hchanged => ?_
        exact hchanged.2.2.2 (hprevious.data ▸ hdata)
      · refine hprevious.merge_changed hm htime havailable hdata ?_
        exact ⟨h.delivered m hm (by omega), h.delivered (m + 1) (by omega) hmn, hgeneration,
          hprevious.data ▸ hdata⟩
  exact hprogress n h.le le_rfl

/-- The frame published after a tick is determined by the reads since the last baseline.

After a read that failed or did not resolve the frame it keeps the bytes and timestamps of the tick
before and is unavailable; at a baseline it has that sample's bytes and zero timestamps. Otherwise
it tells the history since the baseline of its generation. -/
theorem samplerRun_history (ticks : ℕ → Tick cat) (htime : ∀ n, (ticks n).timestampNs ≠ 0) (n : ℕ)
    (i : Fin cat.frameCount) :
    (¬ Delivered ticks n ∨
        (Delivered ticks n ∧ ¬ Baseline ticks n ∧ (sampleAt ticks n i).state = .unavailable) →
      (samplerRun ticks n).published i = { publishedBefore ticks n i with state := .unavailable }) ∧
    (Baseline ticks n → (sampleAt ticks n i).state = .unavailable →
      (samplerRun ticks n).published i =
        { canId := cat.canIds i, state := .unavailable, data := (sampleAt ticks n i).data,
          firstObservedNs := 0, lastChangeNs := 0 }) ∧
    (Delivered ticks n → (sampleAt ticks n i).state ≠ .unavailable →
      ∃ b ≤ n, Baseline ticks b ∧ generationAt ticks b = generationAt ticks n ∧
        TellsHistory ticks i b n ((samplerRun ticks n).published i)) := by
  refine ⟨fun hkept => ?_, fun hbaseline hstate => ?_, fun hdelivered hstate => ?_⟩
  · have hbaseline : ¬ Baseline ticks n := by
      rcases hkept with hfail | ⟨-, hbaseline, -⟩
      · exact fun hbaseline => hfail hbaseline.1
      · exact hbaseline
    have hunavailable : (sampleAt ticks n i).state = .unavailable := by
      rcases hkept with hfail | ⟨-, -, hstate⟩
      · rw [sampleAt_of_not_delivered ticks hfail]
        rfl
      · exact hstate
    cases n with
    | zero =>
      rcases hkept with hfail | ⟨hdelivered, hnot, -⟩
      · rw [samplerRun_published_zero, sampleAt_of_not_delivered ticks hfail]
        rfl
      · exact absurd ⟨hdelivered, fun m hm => absurd hm (Nat.not_lt_zero m)⟩ hnot
    | succ n =>
      rw [published_of_not_baseline hbaseline]
      simp [mergeSampledFrame, hunavailable, publishedBefore]
  · obtain ⟨bytes, hbytes⟩ := sampleAt_of_delivered ticks hbaseline.1
    rw [published_of_baseline hbaseline, ← hstate]
    simp [hbytes, vhalFrames]
  · obtain ⟨b, hepisode⟩ := exists_episode ticks n hdelivered
    refine ⟨b, hepisode.le, hepisode.baseline, (hepisode.generation n hepisode.le le_rfl).symm, ?_⟩
    refine hepisode.tellsHistory htime i ?_
    obtain ⟨bytes, hbytes⟩ := sampleAt_of_delivered ticks hdelivered
    have hresolved := hepisode.resolved n hepisode.le le_rfl
    by_contra hfalse
    refine hstate ?_
    simp [hbytes, vhalFrames, hresolved, hfalse]

/-- One frame whose first byte changes once, at the first tick after the baseline. -/
def changingTicks : ℕ → Tick singleCatalog
  | 0 => singleTick 0 10
  | _ + 1 => singleTick 1 20

/-- A frame that changes once is first observed at the change. -/
theorem samplerRun_history_changing :
    ((samplerRun changingTicks 1).published singleFrame).firstObservedNs = 20 ∧
      ∃ b ≤ 1, Baseline changingTicks b ∧
        generationAt changingTicks b = generationAt changingTicks 1 ∧
        TellsHistory changingTicks singleFrame b 1
          ((samplerRun changingTicks 1).published singleFrame) := by
  have htime : ∀ n, (changingTicks n).timestampNs ≠ 0 := by
    intro n
    cases n with
    | zero => decide
    | succ n => exact (by decide : (20 : UInt64) ≠ 0)
  have hdelivered : (tickRead changingTicks 1).2.1.succeeded = true := by decide +kernel
  refine ⟨by decide +kernel, ?_⟩
  exact (samplerRun_history changingTicks htime 1 singleFrame).2.2 hdelivered (by decide +kernel)

end Roadcast
