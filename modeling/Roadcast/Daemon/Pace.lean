import Roadcast.Daemon.EventLoop
import Roadcast.Lib.Pacing

/-!
# The pace of the sampler

`sampler_thread_main` with its clock: `sleep_until` in front of every sample, and the catching up
behind it. The kernel answers each `nanosleep`; `wokenNs` is the time at which it returns, which the
thread does not see. A `nanosleep` that fails for another reason than a signal ends `sleep_until`
early, but no delay that is asked for is out of range, so that this does not happen.
-/

namespace Roadcast

open Pacing (Pass catchUp)

/-- What a `nanosleep` comes to. -/
inductive Nanosleep
  | completed | interrupted | failed
  deriving DecidableEq, Repr

/-- `struct timespec`. -/
structure Timespec where
  tvSec : ℕ
  tvNsec : ℕ
  deriving DecidableEq, Repr

/-- The delay that `sleep_until` asks for. -/
def delayOf (remainingNs : ℕ) : Timespec := ⟨remainingNs / 1000000000, remainingNs % 1000000000⟩

/-- One round of `sleep_until`. -/
structure SleepRound where
  nowNs : ℕ
  outcome : Nanosleep
  wokenNs : ℕ
  deriving DecidableEq, Repr

/-- `sleep_until`: when it returns, if it does. -/
def sleepUntil (deadlineNs : ℕ) : List SleepRound → Option ℕ
  | [] => none
  | round :: rest =>
    if round.nowNs ≥ deadlineNs then some round.nowNs
    else
      match round.outcome with
      | .interrupted => sleepUntil deadlineNs rest
      | .completed | .failed => some round.wokenNs

/-- `nanosleep` returns early only for a signal or a delay that is out of range. -/
def SleepRound.Lawful (deadlineNs : ℕ) (round : SleepRound) : Prop :=
  match round.outcome, delayOf (deadlineNs - round.nowNs) with
  | .completed, delay => round.nowNs + (delay.tvSec * 1000000000 + delay.tvNsec) ≤ round.wokenNs
  | .failed, delay => 1000000000 ≤ delay.tvNsec
  | .interrupted, _ => True

/-- `sleep_until` waits for its deadline. -/
theorem sleepUntil_reaches {deadlineNs : ℕ} {rounds : List SleepRound}
    (hlawful : ∀ round ∈ rounds, round.Lawful deadlineNs) {returnedNs : ℕ}
    (h : sleepUntil deadlineNs rounds = some returnedNs) : deadlineNs ≤ returnedNs := by
  induction rounds with
  | nil => cases h
  | cons round rest ih =>
    have hround := hlawful round List.mem_cons_self
    unfold sleepUntil at h
    split at h
    · rename_i hpast
      exact Option.some.inj h ▸ hpast
    · unfold SleepRound.Lawful delayOf at hround
      cases houtcome : round.outcome with
      | interrupted =>
        rw [houtcome] at h
        exact ih (fun later hlater => hlawful later (List.mem_cons_of_mem round hlater)) h
      | completed =>
        rw [houtcome] at h hround
        obtain rfl := Option.some.inj h
        dsimp only at hround
        omega
      | failed =>
        rw [houtcome] at hround
        dsimp only at hround
        omega

variable {cat : Catalog}

/-- `period_ns`. -/
def periodNs (config : Config cat) : ℕ := 1000000000 / config.hz.toNat

/-- The period of the sampler is not zero. -/
theorem periodNs_pos (config : Config cat) : 0 < periodNs config := by
  obtain ⟨hpos, hle⟩ := config.hz_range
  exact Nat.div_pos (by omega) hpos

variable (cat) in
/-- What an iteration of `sampler_thread_main` meets: `stop_requested` before and after it sleeps, the
sleep, the read, and the clock at its end. -/
structure SamplerPass where
  stopBefore : Bool
  rounds : List SleepRound
  stopAfter : Bool
  tick : Tick cat
  endedNs : ℕ

/-- `sampler_thread_main`: the sampler after the iterations, and when each sample was begun and
published. An iteration that still sleeps is not over. -/
def samplerThread (periodNs : ℕ) : Sampler cat → ℕ → List (SamplerPass cat) → Sampler cat × List Pass
  | sampler, _, [] => (sampler, [])
  | sampler, nextTickNs, pass :: rest =>
    if pass.stopBefore then (sampler, [])
    else
      let nextTickNs := nextTickNs + periodNs
      match sleepUntil nextTickNs pass.rounds with
      | none => (sampler, [])
      | some beganNs =>
        if pass.stopAfter then (sampler, [])
        else
          let later := samplerThread periodNs (samplerTick sampler pass.tick)
            (if pass.endedNs > nextTickNs + periodNs then pass.endedNs else nextTickNs) rest
          (later.1, ⟨beganNs, pass.endedNs⟩ :: later.2)

/-- The kernel keeps its promises along the iterations: about `nanosleep`, and that the clock does not
go back. -/
def Timely (periodNs : ℕ) : ℕ → List (SamplerPass cat) → Prop
  | _, [] => True
  | nextTickNs, pass :: rest =>
    (∀ round ∈ pass.rounds, round.Lawful (nextTickNs + periodNs)) ∧
      (∀ beganNs, sleepUntil (nextTickNs + periodNs) pass.rounds = some beganNs →
        beganNs ≤ pass.endedNs) ∧
      Timely periodNs (catchUp periodNs (nextTickNs + periodNs) pass.endedNs) rest

/-- An iteration ends the thread, or it takes a sample once it has slept. -/
theorem samplerThread_cons (period nextTickNs : ℕ) (sampler : Sampler cat) (pass : SamplerPass cat)
    (rest : List (SamplerPass cat)) :
    samplerThread period sampler nextTickNs (pass :: rest) = (sampler, []) ∨
      ∃ beganNs later, sleepUntil (nextTickNs + period) pass.rounds = some beganNs ∧
        later = samplerThread period (samplerTick sampler pass.tick)
          (catchUp period (nextTickNs + period) pass.endedNs) rest ∧
        samplerThread period sampler nextTickNs (pass :: rest) =
          (later.1, ⟨beganNs, pass.endedNs⟩ :: later.2) := by
  rw [samplerThread]
  split
  · exact Or.inl rfl
  dsimp only
  split
  · exact Or.inl rfl
  split
  · exact Or.inl rfl
  · exact Or.inr ⟨_, _, ‹_›, rfl, rfl⟩

/-- The iterations of the thread are paced. -/
theorem samplerThread_paced {period nextTickNs : ℕ} {passes : List (SamplerPass cat)}
    (h : Timely period nextTickNs passes) (sampler : Sampler cat) :
    Pacing.Paced period nextTickNs (samplerThread period sampler nextTickNs passes).2 := by
  induction passes generalizing nextTickNs sampler with
  | nil => trivial
  | cons pass rest ih =>
    obtain ⟨hlawful, hforward, hrest⟩ := h
    obtain hends | ⟨beganNs, later, hsleep, rfl, hnext⟩ :=
      samplerThread_cons period nextTickNs sampler pass rest
    · rw [hends]
      trivial
    · rw [hnext]
      exact ⟨sleepUntil_reaches hlawful hsleep, hforward beganNs hsleep, ih hrest _⟩

/-- Every pass publishes under the next number. -/
theorem samplerThread_sequence (period nextTickNs : ℕ) (passes : List (SamplerPass cat))
    (sampler : Sampler cat) :
    (samplerThread period sampler nextTickNs passes).1.publishedSequence =
      sampler.publishedSequence +
        UInt64.ofNat (samplerThread period sampler nextTickNs passes).2.length := by
  induction passes generalizing nextTickNs sampler with
  | nil => simp [samplerThread]
  | cons pass rest ih =>
    obtain hends | ⟨beganNs, later, hsleep, rfl, hnext⟩ :=
      samplerThread_cons period nextTickNs sampler pass rest
    · rw [hends]
      simp
    · rw [hnext, ih, List.length_cons, UInt64.ofNat_add, samplerTick_publishedSequence,
        UInt64.add_assoc, UInt64.add_comm 1]
      rfl

/-- The sampler keeps to `--hz`: until any moment it has begun no more samples than there were periods
since the start, and after a stall it does not make up for the samples that it missed, so that any
window has at most two samples more than periods. -/
theorem samplerThread_rate (config : Config cat) (sampler : Sampler cat) (startNs : ℕ)
    (passes : List (SamplerPass cat)) (h : Timely (periodNs config) startNs passes) :
    (samplerThread (periodNs config) sampler startNs passes).1.publishedSequence =
        sampler.publishedSequence +
          UInt64.ofNat (samplerThread (periodNs config) sampler startNs passes).2.length ∧
      (∀ momentNs, ((samplerThread (periodNs config) sampler startNs passes).2.countP fun pass =>
        decide (pass.began ≤ momentNs)) * periodNs config ≤ momentNs - startNs) ∧
      ∀ momentNs lengthNs, ((samplerThread (periodNs config) sampler startNs passes).2.countP
        fun pass => decide (momentNs ≤ pass.began ∧ pass.began ≤ momentNs + lengthNs)) ≤
          lengthNs / periodNs config + 2 := by
  have hpaced := samplerThread_paced h sampler
  exact ⟨samplerThread_sequence _ _ _ _, hpaced.elapsed, hpaced.window (periodNs_pos config)⟩

/-- A sample whose publication stalls for a second, and two more. -/
def stalledPasses : List (SamplerPass singleCatalog) :=
  [⟨false, [⟨0, .interrupted, 5⟩, ⟨5, .completed, 16666700⟩], false, singleTick 1 20, 1016666700⟩,
    ⟨false, [⟨1016666700, .completed, 1033333400⟩], false, singleTick 2 30, 1033333500⟩,
    ⟨false, [⟨1033333500, .completed, 1050000100⟩], false, singleTick 3 40, 1050000200⟩]

/-- A stalled sampler does not catch up on the samples it has missed. -/
theorem samplerThread_rate_stalled :
    ((samplerThread (periodNs singleConfig) (samplerInit none (singleTick 0 10)) 0
        stalledPasses).2.map fun pass => pass.began) = [16666700, 1033333400, 1050000100] ∧
      ((samplerThread (periodNs singleConfig) (samplerInit none (singleTick 0 10)) 0
        stalledPasses).2.countP fun pass =>
          decide (1000000000 ≤ pass.began ∧ pass.began ≤ 1000000000 + 100000000)) ≤
        100000000 / periodNs singleConfig + 2 := by
  refine ⟨by decide, (samplerThread_rate singleConfig (samplerInit none (singleTick 0 10)) 0
    stalledPasses ?_).2.2 1000000000 100000000⟩
  simp [Timely, stalledPasses, SleepRound.Lawful, delayOf, sleepUntil, catchUp, periodNs,
    singleConfig, sixtyHz]

end Roadcast
