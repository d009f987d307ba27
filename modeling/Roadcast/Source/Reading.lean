import Roadcast.Lib.Vectored
import Roadcast.Source.Mapping
import Roadcast.Source.Session
import Roadcast.Source.StartTime

/-!
# Reading the frames of a process

`roadcast_vhal_read` of `vhal_source.c`. All resolved frames are first read by one call of
`process_vm_readv`. Where the kernel refuses that call or moves only a part of the bytes, the frames
are read one by one from `/proc/PID/mem`; what the first call has moved is overwritten. Both ways end
with a check that the process is still the one whose symbols were resolved.

The answers of the system calls are inputs. `ReadAnswers.Shows` says which bytes they may hold, for
any reading of "a byte at an address": in a memory that does not change, or at some time during the
call.
-/

namespace Roadcast

open Checked Vectored

/-! ## System calls -/

/-- The answer to one call that moves bytes; `interrupted` is `EINTR`. -/
inductive CallAnswer (E : Type)
  | interrupted
  | failed (error : E)
  | returned (bytes : List UInt8)

/-- The loop `do ... while (count < 0 && errno == EINTR)`; `none` as long as every call is
interrupted. -/
def uninterrupted {E : Type} : List (CallAnswer E) → Option (Except E (List UInt8))
  | [] => none
  | .interrupted :: later => uninterrupted later
  | .failed error :: _ => some (.error error)
  | .returned bytes :: _ => some (.ok bytes)

/-- `errno` of a failed `process_vm_readv`, as far as the code tells it apart. -/
inductive ReadvError
  | esrch | enosys | eperm | eacces | other
  deriving DecidableEq, Repr

/-- `errno` of a failed read; `system` is what a failed call left there. -/
inductive ReadError
  | system | esrch | eio
  deriving DecidableEq, Repr

/-- The result of `roadcast_vhal_read`: `-1`, `0` and `1`. -/
inductive VhalResult
  | failed (error : ReadError)
  | vectored
  | fallback
  deriving DecidableEq, Repr

/-- The test `result >= 0`. -/
def VhalResult.succeeded : VhalResult → Bool
  | failed _ => false
  | vectored | fallback => true

/-! ## The open source -/

variable {frameCount : ℕ}

/-- The frames whose address is set, in the order of `local_iov`. -/
def VhalSource.localFrames (source : VhalSource frameCount) : List (Fin frameCount) :=
  (List.finRange frameCount).filter fun i => decide (source.addresses i ≠ 0)

/-- `remote_iov` holds the addresses of the frames in order, and null addresses, which no frame has. -/
def VhalSource.Paired (source : VhalSource frameCount) : Prop :=
  source.remote.filter (fun address => decide (address ≠ 0)) =
    source.localFrames.map source.addresses

instance (source : VhalSource frameCount) : Decidable source.Paired :=
  inferInstanceAs (Decidable (_ = _))

variable (frameCount) in
/-- `roadcast_vhal_source_t` of an open source, with the fields that only a read uses. -/
structure OpenSource extends VhalSource frameCount where
  identityFd : ℕ
  vmReadvRetryNs : UInt64
  paired : toVhalSource.Paired

section Paired

variable (located : Located frameCount)

/-- The segments of the vectored read are the addresses of the resolved frames, in order. -/
theorem remote_foldl_fill (frames : List (Fin frameCount)) (source : VhalSource frameCount) :
    (frames.foldl located.fill source).remote =
      source.remote ++ (frames.filter fun i => decide (located.symbols.values i ≠ 0)).map
        located.address := by
  induction frames generalizing source with
  | nil => simp
  | cons frame rest ih =>
    rw [List.foldl_cons, ih]
    by_cases hvalue : located.symbols.values frame = 0
    · rw [fill_of_zero located source hvalue, List.filter_cons_of_neg (by simpa using hvalue)]
    · rw [List.filter_cons_of_pos (by simpa using hvalue), List.map_cons, Located.fill,
        if_neg hvalue]
      simp [Located.address]

/-- The loop leaves a frame without a symbol alone. -/
theorem addresses_foldl_fill_of_zero {frame : Fin frameCount}
    (hvalue : located.symbols.values frame = 0) (frames : List (Fin frameCount))
    (source : VhalSource frameCount) :
    (frames.foldl located.fill source).addresses frame = source.addresses frame := by
  induction frames generalizing source with
  | nil => rfl
  | cons first rest ih =>
    rw [List.foldl_cons, ih]
    by_cases hfirst : located.symbols.values first = 0
    · rw [fill_of_zero located source hfirst]
    · have hne : frame ≠ first := fun heq => hfirst (heq ▸ hvalue)
      rw [fill_addresses located source hfirst, Function.update_of_ne hne]

/-- A frame without a symbol has no address. -/
theorem source_addresses_of_zero {frame : Fin frameCount}
    (hvalue : located.symbols.values frame = 0) : located.source.addresses frame = 0 := by
  rw [Located.source, addresses_foldl_fill_of_zero located hvalue]

/-- The loop of `roadcast_vhal_open` fills both tables in the same order. -/
theorem source_paired : located.source.Paired := by
  have hlocal : located.source.localFrames =
      ((List.finRange frameCount).filter fun i => decide (located.symbols.values i ≠ 0)).filter
        fun i => decide (located.address i ≠ 0) := by
    rw [VhalSource.localFrames, List.filter_filter]
    apply List.filter_congr
    intro i _
    by_cases hvalue : located.symbols.values i = 0
    · simp [source_addresses_of_zero located hvalue, hvalue]
    · simp [source_addresses located hvalue, hvalue]
  rw [VhalSource.Paired, hlocal, Located.source, remote_foldl_fill, List.nil_append,
    List.filter_map]
  apply List.map_congr_left
  intro i hi
  have hvalue : located.symbols.values i ≠ 0 := by
    simpa using (List.mem_filter.mp (List.mem_filter.mp hi).1).2
  exact (source_addresses located hvalue).symm

end Paired

/-! ## The identity check -/

/-- The start time that the answers to the reads of `/proc/PID/stat` show, if there is one; `none` as
long as every read is interrupted. -/
def shownStartTime : List Pread → Option (Option UInt64)
  | [] => none
  | .interrupted :: later => shownStartTime later
  | .failed :: _ => some none
  | .returned read :: _ => some (startTimeOf (cText read.bytes))

/-- How `read_start_time` ends is what its answers show, whatever the stack holds. -/
theorem readStartTime_shown (statText : StatText) (answers : List Pread) :
    ∃ outcome, readStartTime statText answers = .ok outcome ∧
      (outcome = .interrupted ↔ shownStartTime answers = none) ∧
      ∀ ticks, outcome = .success ticks ↔ shownStartTime answers = some (some ticks) := by
  induction answers with
  | nil => exact ⟨.interrupted, rfl, by simp [shownStartTime], by simp [shownStartTime]⟩
  | cons answer later ih =>
    cases answer with
    | interrupted => exact ih
    | failed => exact ⟨.failure .system, rfl, by simp [shownStartTime], by simp [shownStartTime]⟩
    | returned read =>
      by_cases hbytes : read.bytes = []
      · have hempty : startTimeOf (cText read.bytes) = none := by
          rw [hbytes]
          rfl
        refine ⟨.failure .esrch, ?_, by simp [shownStartTime], by simp [shownStartTime, hempty]⟩
        rw [readStartTime, if_pos (by simp [hbytes])]
        rfl
      · refine ⟨_, readStartTime_returned statText later hbytes, ?_, fun ticks => ?_⟩
        · cases hshown : startTimeOf (cText read.bytes) <;>
            simp [startTimeOutcome, shownStartTime]
        · cases hshown : startTimeOf (cText read.bytes) <;>
            simp [startTimeOutcome, shownStartTime, hshown]

/-! ## The read -/

variable (frameCount) in
/-- What the operating system answers during `roadcast_vhal_read`, and what the stack holds before the
identity is checked. Only one of the two ways reaches the check, so it is answered once. -/
structure ReadAnswers where
  nowNs : UInt64
  readv : List (CallAnswer ReadvError)
  memory : Option ℕ
  preads : Fin frameCount → List (CallAnswer Unit)
  stack : StatText
  identity : List Pread

variable (frameCount) in
/-- What `roadcast_vhal_read` leaves and returns. -/
structure VhalRead where
  source : OpenSource frameCount
  frames : Fin frameCount → Frame
  result : VhalResult

/-- The time without vectored reads after a refused one. -/
def vmReadvRetryDelayNs : UInt64 := 30000000000

/-- `UINT64_MAX`, the time of the next vectored read where there is none. -/
def vmReadvNever : UInt64 := 0xFFFFFFFFFFFFFFFF

/-- `unavailable`. The timestamps of the frames stay. -/
def unavailable (canIds : Fin frameCount → UInt16) (frames : Fin frameCount → Frame)
    (i : Fin frameCount) : Frame :=
  { frames i with canId := canIds i, state := .unavailable, data := zeroData }

namespace OpenSource

variable (source : OpenSource frameCount) (answers : ReadAnswers frameCount)
  (canIds : Fin frameCount → UInt16) (frames : Fin frameCount → Frame)

/-- The first loop of `roadcast_vhal_read`. -/
def prepare (i : Fin frameCount) : Frame :=
  if source.addresses i = 0 then
    { frames i with canId := canIds i, state := .unavailable, data := zeroData }
  else { frames i with canId := canIds i, state := .neverObserved }

/-- How the block around `process_vm_readv` goes on: to the identity check, to the end of the call, or
to the reads of single frames. -/
inductive Attempt
  | complete
  | gone
  | incomplete
  deriving DecidableEq, Repr

/-- The block around `process_vm_readv`. -/
def readVectored : Option (OpenSource frameCount × (Fin frameCount → Frame) × Attempt) :=
  if answers.nowNs < source.vmReadvRetryNs then some (source, frames, .incomplete) else
  (uninterrupted answers.readv).map fun answer =>
    match answer with
    | .ok bytes =>
      let data := scatter source.localFrames bytes fun i => (frames i).data
      (source, fun i => { frames i with data := data i },
        if bytes.length = source.localFrames.length * 8 then .complete else .incomplete)
    | .error .esrch => (source, frames, .gone)
    | .error .enosys => ({ source with vmReadvRetryNs := vmReadvNever }, frames, .incomplete)
    | .error .eperm | .error .eacces =>
      ({ source with vmReadvRetryNs := answers.nowNs + vmReadvRetryDelayNs }, frames, .incomplete)
    | .error .other => (source, frames, .incomplete)

/-- `read_one` with an open `/proc/PID/mem`: the data and the error that it leaves. -/
def readOne (answers : List (CallAnswer Unit)) (data : FrameData) :
    Option (FrameData × Option ReadError) :=
  (uninterrupted answers).map fun answer =>
    match answer with
    | .error _ => (data, some .system)
    | .ok bytes => (overlay bytes data, if bytes.length = 8 then none else some .eio)

/-- One round of the loop over the frames, with the frames and `failure_errno`. -/
def readFrame (state : (Fin frameCount → Frame) × Option ReadError) (i : Fin frameCount) :
    Option ((Fin frameCount → Frame) × Option ReadError) :=
  if source.addresses i = 0 then some state else
  (readOne (answers.preads i) (state.1 i).data).map fun read =>
    match read.2 with
    | none => (Function.update state.1 i { state.1 i with data := read.1 }, state.2)
    | some error =>
      (Function.update state.1 i { state.1 i with data := zeroData, state := .unavailable },
        state.2.or (some error))

/-- `verify_identity`. -/
def verify : Except Fault (CallOutcome Unit) :=
  verifyIdentity answers.stack source.identityFd answers.identity source.startTimeTicks

/-- How both ways end: the result stands if the identity holds, and no frame is kept otherwise. -/
def conclude (result : VhalResult) : Except Fault (Option (VhalRead frameCount)) := do
  match ← source.verify answers with
  | .interrupted => pure none
  | .failure _ => pure (some ⟨source, unavailable canIds frames, .failed .esrch⟩)
  | .success () => pure (some ⟨source, frames, result⟩)

/-- The reads of single frames. -/
def readFallback : Except Fault (Option (VhalRead frameCount)) :=
  let source := { source with memory := source.memory.or answers.memory }
  if source.memory = none then
    pure (some ⟨source, unavailable canIds frames, .failed .system⟩)
  else
    match (List.finRange frameCount).foldlM (source.readFrame answers) (frames, none) with
    | none => pure none
    | some (frames, failure) =>
      source.conclude answers canIds frames (failure.elim .fallback .failed)

/-- `roadcast_vhal_read`; `none` as long as a call is interrupted. -/
def read : Except Fault (Option (VhalRead frameCount)) :=
  match source.readVectored answers (source.prepare canIds frames) with
  | none => pure none
  | some (source, frames, .complete) => source.conclude answers canIds frames .vectored
  | some (source, frames, .gone) =>
    pure (some ⟨source, unavailable canIds frames, .failed .esrch⟩)
  | some (source, frames, .incomplete) => source.readFallback answers canIds frames

/-! ## How a read ends -/

/-- The check of an open source passes exactly if its start time is shown again. -/
theorem verify_eq : source.verify answers =
    .ok ((shownStartTime answers.identity).elim .interrupted fun shown =>
      if shown = some source.startTimeTicks then .success () else .failure .esrch) := by
  obtain ⟨outcome, hread, hinterrupted, hsuccess⟩ := readStartTime_shown answers.stack answers.identity
  have hfd : ¬ (source.identityFd : ℤ) < 0 := Int.not_lt.mpr (Int.natCast_nonneg _)
  rw [verify, verifyIdentity, if_neg hfd, hread]
  cases outcome with
  | interrupted =>
    rw [hinterrupted.mp rfl]
    rfl
  | failure error =>
    cases hshown : shownStartTime answers.identity with
    | none => exact absurd (hinterrupted.mpr hshown) (by simp)
    | some shown =>
      have hne : shown ≠ some source.startTimeTicks := by
        rintro rfl
        exact absurd ((hsuccess _).mpr hshown) (by simp)
      rw [Option.elim_some, if_neg hne]
      rfl
  | success ticks =>
    rw [(hsuccess ticks).mp rfl, Option.elim_some]
    change (if ticks ≠ source.startTimeTicks then _ else _) = _
    by_cases hticks : ticks = source.startTimeTicks
    · rw [if_neg (not_not.mpr hticks), if_pos (congrArg some hticks)]
      rfl
    · rw [if_pos hticks, if_neg fun heq => hticks (Option.some.inj heq)]
      rfl

variable {source answers canIds frames} {out : VhalRead frameCount}

/-- A result stands only after the identity has been verified. -/
theorem conclude_cases {result : VhalResult}
    (h : source.conclude answers canIds frames result = .ok (some out)) :
    (shownStartTime answers.identity = some (some source.startTimeTicks) ∧
        out = ⟨source, frames, result⟩) ∨
      out = ⟨source, unavailable canIds frames, .failed .esrch⟩ := by
  rw [conclude, verify_eq] at h
  cases hshown : shownStartTime answers.identity with
  | none =>
    rw [hshown] at h
    cases h
  | some shown =>
    rw [hshown, Option.elim_some] at h
    by_cases hsame : shown = some source.startTimeTicks
    · rw [if_pos hsame] at h
      obtain rfl := Option.some.inj (Except.ok.inj h)
      exact Or.inl ⟨congrArg some hsame, rfl⟩
    · rw [if_neg hsame] at h
      obtain rfl := Option.some.inj (Except.ok.inj h)
      exact Or.inr rfl

/-! ## The reads of single frames -/

/-- A frame before and after it was read by itself without an error. -/
def ReadAlone (source : OpenSource frameCount) (answers : ReadAnswers frameCount)
    (i : Fin frameCount) (before after : Frame) : Prop :=
  if source.addresses i = 0 then after = before
  else ∃ bytes, uninterrupted (answers.preads i) = some (.ok bytes) ∧ bytes.length = 8 ∧
    after = { before with data := overlay bytes before.data }

/-- A frame that is read without an error is read alone. -/
theorem readFrame_none {failure : Option ReadError} {i : Fin frameCount}
    {frames' : Fin frameCount → Frame}
    (h : source.readFrame answers (frames, failure) i = some (frames', none)) :
    failure = none ∧ source.ReadAlone answers i (frames i) (frames' i) ∧
      ∀ k, k ≠ i → frames' k = frames k := by
  unfold readFrame at h
  unfold ReadAlone
  by_cases haddress : source.addresses i = 0
  · rw [if_pos haddress] at h ⊢
    obtain ⟨rfl, rfl⟩ := Prod.mk.inj (Option.some.inj h)
    exact ⟨rfl, rfl, fun _ _ => rfl⟩
  · rw [if_neg haddress] at h ⊢
    obtain ⟨read, hread, hstate⟩ := Option.map_eq_some_iff.mp h
    obtain ⟨answer, hanswer, rfl⟩ := Option.map_eq_some_iff.mp hread
    cases answer with
    | error error => simp at hstate
    | ok bytes =>
      by_cases hlength : bytes.length = 8
      · simp only [hlength, if_true, Prod.mk.injEq] at hstate
        obtain ⟨rfl, rfl⟩ := hstate
        refine ⟨rfl, ⟨bytes, hanswer, hlength, ?_⟩, fun k hk => ?_⟩
        · simp
        · exact Function.update_of_ne hk _ _
      · simp [hlength] at hstate

/-- A pass over the frames without an error has read each of them. -/
theorem foldlM_readFrame_none {list : List (Fin frameCount)} (hnodup : list.Nodup)
    {failure : Option ReadError} {frames' : Fin frameCount → Frame}
    (h : list.foldlM (source.readFrame answers) (frames, failure) = some (frames', none)) :
    failure = none ∧ (∀ i ∈ list, source.ReadAlone answers i (frames i) (frames' i)) ∧
      ∀ i, i ∉ list → frames' i = frames i := by
  induction list generalizing frames failure with
  | nil =>
    obtain ⟨rfl, rfl⟩ := Prod.mk.inj (Option.some.inj h)
    exact ⟨rfl, by simp, fun _ _ => rfl⟩
  | cons first rest ih =>
    obtain ⟨hfirst, hrest⟩ := List.nodup_cons.mp hnodup
    rw [List.foldlM_cons] at h
    obtain ⟨⟨middle, failure'⟩, hone, hlater⟩ := Option.bind_eq_some_iff.mp h
    obtain ⟨rfl, hread, hkept⟩ := ih hrest hlater
    obtain ⟨rfl, halone, hothers⟩ := readFrame_none hone
    refine ⟨rfl, fun i hi => ?_, fun i hi => ?_⟩
    · rcases List.mem_cons.mp hi with rfl | hi
      · rw [hkept i hfirst]
        exact halone
      · have hne : i ≠ first := fun heq => hfirst (heq ▸ hi)
        rw [← hothers i hne]
        exact hread i hi
    · rw [List.mem_cons, not_or] at hi
      rw [hkept i hi.2, hothers i hi.1]

/-! ## What a read delivers -/

/-- The bytes in the answers were found at the addresses that were asked for: those of a vectored read
behind the first addresses of `remote_iov`, those of a single read behind the address of its frame.
Any count of bytes may be missing at the end. -/
structure Shows (source : OpenSource frameCount) (answers : ReadAnswers frameCount)
    (holds : UInt64 → UInt8 → Prop) : Prop where
  vectored : ∀ bytes, uninterrupted answers.readv = some (.ok bytes) →
    ∀ (k : ℕ) (b : UInt8), bytes[k]? = some b → ∃ address,
      (source.remote.take source.localFrames.length)[k / 8]? = some address ∧
        holds (address + UInt64.ofNat (k % 8)) b
  single : ∀ i bytes, uninterrupted (answers.preads i) = some (.ok bytes) →
    ∀ (j : ℕ) (b : UInt8), bytes[j]? = some b → holds (source.addresses i + UInt64.ofNat j) b

/-- The bytes of a frame were found behind its address. -/
def FoundAt (source : OpenSource frameCount) (holds : UInt64 → UInt8 → Prop)
    (frames : Fin frameCount → Frame) : Prop :=
  ∀ i, source.addresses i ≠ 0 → ∀ j : Fin 8,
    holds (source.addresses i + UInt64.ofNat j.val) ((frames i).data.get j)

/-- The frames of a call that has returned bytes for every frame with an address, and otherwise only
set what every call sets. -/
def Filled (source : OpenSource frameCount) (canIds : Fin frameCount → UInt16)
    (before after : Fin frameCount → Frame) : Prop :=
  ∃ data : Fin frameCount → FrameData, ∀ i, after i =
    { before i with
      canId := canIds i
      state := if source.addresses i = 0 then .unavailable else .neverObserved
      data := if source.addresses i = 0 then zeroData else data i }

/-- No frame is read twice. -/
theorem localFrames_nodup (source : VhalSource frameCount) : source.localFrames.Nodup :=
  (List.nodup_finRange _).filter _

/-- The frames that are read are those with an address. -/
theorem mem_localFrames {source : VhalSource frameCount} {i : Fin frameCount} :
    i ∈ source.localFrames ↔ source.addresses i ≠ 0 := by
  simp [VhalSource.localFrames]

variable {holds : UInt64 → UInt8 → Prop}

/-- If as many bytes are returned as were asked for, and none is found at the null address, then the
segments of both lists correspond. -/
theorem Shows.remote_eq (hshows : source.Shows answers holds) (hnull : ∀ b, ¬ holds 0 b)
    {bytes : List UInt8} (hreadv : uninterrupted answers.readv = some (.ok bytes))
    (hlength : bytes.length = source.localFrames.length * 8) :
    source.remote.take source.localFrames.length = source.localFrames.map source.addresses := by
  have hpaired := source.paired
  have hcount : source.localFrames.length =
      (source.remote.filter fun address => decide (address ≠ 0)).length := by
    rw [hpaired, List.length_map]
  rw [hcount, ← hpaired]
  apply take_length_filter
  intro address haddress
  rw [← hcount] at haddress
  obtain ⟨m, hm⟩ := List.getElem?_of_mem haddress
  -- a byte was found at the address of every segment
  have hlt : m < source.localFrames.length := by
    obtain ⟨hlt, -⟩ := List.getElem?_eq_some_iff.mp hm
    rw [List.length_take] at hlt
    omega
  obtain ⟨b, hbyte⟩ : ∃ b, bytes[8 * m]? = some b := ⟨_, List.getElem?_eq_getElem (by omega)⟩
  obtain ⟨found, hfound, hholds⟩ := hshows.vectored bytes hreadv (8 * m) b hbyte
  rw [Nat.mul_div_cancel_left m (by decide), hm] at hfound
  obtain rfl := Option.some.inj hfound
  have hne : address ≠ 0 := by
    rintro rfl
    exact hnull _ (by simpa using hholds)
  simpa using hne

/-- Frames after a vectored read: only bytes of frames with an address have changed. -/
theorem readVectored_some {source' : OpenSource frameCount} {frames' : Fin frameCount → Frame}
    {attempt : Attempt}
    (h : source.readVectored answers frames = some (source', frames', attempt)) :
    (∃ retryNs, source' = { source with vmReadvRetryNs := retryNs }) ∧
      (∃ data : Fin frameCount → FrameData, (∀ i, source.addresses i = 0 → data i = (frames i).data) ∧
        frames' = fun i => { frames i with data := data i }) ∧
      (attempt = .complete → ∃ bytes, uninterrupted answers.readv = some (.ok bytes) ∧
        bytes.length = source.localFrames.length * 8 ∧
        ∀ i, (frames' i).data = scatter source.localFrames bytes (fun i => (frames i).data) i) := by
  unfold readVectored at h
  split at h
  · obtain ⟨rfl, rfl, rfl⟩ : source = source' ∧ frames = frames' ∧ Attempt.incomplete = attempt := by
      simpa using h
    exact ⟨⟨_, rfl⟩, ⟨_, fun _ _ => rfl, rfl⟩, by simp⟩
  · obtain ⟨answer, hanswer, hstate⟩ := Option.map_eq_some_iff.mp h
    split at hstate
    · rename_i bytes
      obtain ⟨rfl, rfl, rfl⟩ := by simpa only [Prod.mk.injEq] using hstate
      refine ⟨⟨_, rfl⟩, ⟨_, fun i hi => ?_, rfl⟩, fun hcomplete => ⟨bytes, hanswer, ?_, fun _ => rfl⟩⟩
      · exact scatter_of_notMem (fun hmem => mem_localFrames.mp hmem hi) _ _
      · split at hcomplete
        · assumption
        · contradiction
    all_goals
      obtain ⟨rfl, rfl, rfl⟩ := by simpa only [Prod.mk.injEq] using hstate
      exact ⟨⟨_, rfl⟩, ⟨_, fun _ _ => rfl, rfl⟩, by simp⟩

/-- How a read succeeds, with the frames as the first loop prepares them. -/
inductive Delivers (source : OpenSource frameCount) (answers : ReadAnswers frameCount)
    (prepared : Fin frameCount → Frame) : VhalRead frameCount → Prop
  | vectored (retryNs : UInt64) (frames : Fin frameCount → Frame) (bytes : List UInt8)
      (hreadv : uninterrupted answers.readv = some (.ok bytes))
      (hlength : bytes.length = source.localFrames.length * 8)
      (data : Fin frameCount → FrameData)
      (hkept : ∀ i, source.addresses i = 0 → data i = (prepared i).data)
      (hframes : frames = fun i => { prepared i with data := data i })
      (hdata : ∀ i, (frames i).data =
        scatter source.localFrames bytes (fun i => (prepared i).data) i) :
    Delivers source answers prepared ⟨{ source with vmReadvRetryNs := retryNs }, frames, .vectored⟩
  | fallback (retryNs : UInt64) (memory : ℕ) (frames : Fin frameCount → Frame)
      (hmemory : source.memory.or answers.memory = some memory)
      (data : Fin frameCount → FrameData)
      (hkept : ∀ i, source.addresses i = 0 → data i = (prepared i).data)
      (hframes : ∀ i, source.ReadAlone answers i { prepared i with data := data i } (frames i)) :
    Delivers source answers prepared
      ⟨{ source with vmReadvRetryNs := retryNs, memory := some memory }, frames, .fallback⟩

/-- A read that succeeds has verified the identity after it has moved the bytes. -/
theorem delivers_of_succeeded (hread : source.read answers canIds frames = .ok (some out))
    (hsucceeded : out.result.succeeded = true) :
    shownStartTime answers.identity = some (some source.startTimeTicks) ∧
      source.Delivers answers (source.prepare canIds frames) out := by
  unfold read at hread
  cases hvectored : source.readVectored answers (source.prepare canIds frames) with
  | none =>
    rw [hvectored] at hread
    cases hread
  | some state =>
    obtain ⟨source', frames', attempt⟩ := state
    obtain ⟨⟨retryNs, rfl⟩, ⟨data, hkept, hdata⟩, hbytes⟩ := readVectored_some hvectored
    rw [hvectored] at hread
    cases attempt with
    | complete =>
      rcases conclude_cases hread with ⟨hshown, rfl⟩ | rfl
      · obtain ⟨bytes, hreadv, hlength, hscatter⟩ := hbytes rfl
        exact ⟨hshown, .vectored retryNs frames' bytes hreadv hlength data hkept hdata hscatter⟩
      · contradiction
    | gone =>
      obtain rfl := Option.some.inj (Except.ok.inj hread)
      contradiction
    | incomplete =>
      change readFallback _ _ _ _ = _ at hread
      unfold readFallback at hread
      dsimp only at hread
      split at hread
      · obtain rfl := Option.some.inj (Except.ok.inj hread)
        contradiction
      · rename_i hmemory
        obtain ⟨memory, hmemory⟩ := Option.ne_none_iff_exists'.mp hmemory
        split at hread
        · cases hread
        · rename_i frames'' failure hpass
          rcases conclude_cases hread with ⟨hshown, rfl⟩ | rfl
          · cases failure with
            | some error => contradiction
            | none =>
              obtain ⟨-, halone, -⟩ := foldlM_readFrame_none (List.nodup_finRange _) hpass
              refine ⟨hshown, ?_⟩
              simp only [hmemory]
              refine .fallback retryNs memory frames'' hmemory data hkept fun i => ?_
              have hone := halone i (List.mem_finRange i)
              rw [hdata] at hone
              exact hone
          · contradiction

section Prepare

variable {i : Fin frameCount}

/-- A frame without an address is unavailable and zero before the read. -/
theorem prepare_of_zero (h : source.addresses i = 0) : source.prepare canIds frames i =
    { frames i with canId := canIds i, state := .unavailable, data := zeroData } :=
  if_pos h

/-- A frame with an address is not observed before the read. -/
theorem prepare_of_ne (h : source.addresses i ≠ 0) : source.prepare canIds frames i =
    { frames i with canId := canIds i, state := .neverObserved } :=
  if_neg h

/-- A frame that was prepared, and then given bytes if it has an address. -/
theorem prepare_filled {data : FrameData}
    (hkept : source.addresses i = 0 → data = (source.prepare canIds frames i).data) :
    { source.prepare canIds frames i with data := data } =
      { frames i with
        canId := canIds i
        state := if source.addresses i = 0 then .unavailable else .neverObserved
        data := if source.addresses i = 0 then zeroData else data } := by
  by_cases haddress : source.addresses i = 0
  · rw [hkept haddress, prepare_of_zero haddress, if_pos haddress, if_pos haddress]
  · rw [prepare_of_ne haddress, if_neg haddress, if_neg haddress]

end Prepare

/-- A frame that was read alone has its bytes overwritten, if it has an address. -/
theorem ReadAlone.eq {i : Fin frameCount} {before after : Frame}
    (h : source.ReadAlone answers i before after) : after = { before with data := after.data } ∧
      (source.addresses i = 0 → after.data = before.data) := by
  unfold ReadAlone at h
  split at h
  · subst h
    exact ⟨rfl, fun _ => rfl⟩
  · rename_i haddress
    obtain ⟨bytes, -, -, rfl⟩ := h
    exact ⟨rfl, fun hzero => absurd hzero haddress⟩

/-- A read that succeeds sets the CAN ID and state of every frame, and the bytes of those without an
address. -/
theorem Delivers.filled (h : source.Delivers answers (source.prepare canIds frames) out) :
    source.Filled canIds frames out.frames := by
  refine ⟨fun i => (out.frames i).data, fun i => ?_⟩
  cases h with
  | vectored retryNs after bytes hreadv hlength data hkept hframes hdata =>
    rw [hframes]
    exact prepare_filled (hkept i)
  | fallback retryNs memory after hmemory data hkept hframes =>
    obtain ⟨heq, hzero⟩ := (hframes i).eq
    have hfill := prepare_filled fun haddress =>
      (hzero haddress).trans (hkept i haddress)
    exact heq.trans hfill

/-- Whichever way a read succeeds, it delivers bytes that were found behind the addresses of the
frames. -/
theorem Delivers.found {prepared : Fin frameCount → Frame}
    (h : source.Delivers answers prepared out) (hshows : source.Shows answers holds)
    (hnull : ∀ b, ¬ holds 0 b) : source.FoundAt holds out.frames := by
  intro i haddress j
  cases h with
  | vectored retryNs after bytes hreadv hlength data hkept hframes hdata =>
    have hremote := hshows.remote_eq hnull hreadv hlength
    obtain ⟨k, hk⟩ := List.getElem?_of_mem (mem_localFrames.mpr haddress)
    obtain ⟨hlt, -⟩ := List.getElem?_eq_some_iff.mp hk
    have hj := j.isLt
    obtain ⟨b, hb⟩ : ∃ b, bytes[8 * k + j.val]? = some b :=
      ⟨_, List.getElem?_eq_getElem (by omega)⟩
    obtain ⟨address, hfound, hholds⟩ := hshows.vectored bytes hreadv _ b hb
    -- the segment of this byte is that of the frame
    have hsegment : (8 * k + j.val) / 8 = k := by omega
    have hoffset : (8 * k + j.val) % 8 = j.val := by omega
    rw [hremote, hsegment, List.getElem?_map, hk] at hfound
    obtain rfl := Option.some.inj hfound
    rw [hoffset] at hholds
    have hbyte : (after i).data.get j = b := by
      change ((after i).data)[j.val] = b
      simp only [hdata i]
      exact scatter_getElem (localFrames_nodup _) hk hj hb _
    exact hbyte ▸ hholds
  | fallback retryNs memory after hmemory data hkept hframes =>
    have halone := hframes i
    rw [ReadAlone, if_neg haddress] at halone
    obtain ⟨bytes, hpread, hlength, hafter⟩ := halone
    obtain ⟨b, hb⟩ : ∃ b, bytes[j.val]? = some b :=
      ⟨_, List.getElem?_eq_getElem (by omega)⟩
    have hbyte : (after i).data.get j = b := by
      change ((after i).data)[j.val] = b
      simp only [hafter]
      exact overlay_getElem _ j.isLt hb
    exact hbyte ▸ hshows.single i bytes hpread j.val b hb

/-- The eight bytes behind an address; cells that cannot be read count as zero. -/
def memoryWord (memory : UInt64 → Option UInt8) (address : UInt64) : FrameData :=
  Vector.ofFn fun j => (memory (address + UInt64.ofNat j.val)).getD 0

/-- From a memory that does not change during the call, and has nothing at the null address, a read
that succeeds delivers the eight bytes behind the address of every frame, all of which can be read.
So it does not matter whether it was a vectored read, or one read per frame after any number of bytes
had been moved; the frames without an address are zero. -/
theorem read_memory (source : OpenSource frameCount) (answers : ReadAnswers frameCount)
    (canIds : Fin frameCount → UInt16) (frames : Fin frameCount → Frame)
    (memory : UInt64 → Option UInt8) (hnull : memory 0 = none)
    (hshows : source.Shows answers fun address b => memory address = some b)
    (out : VhalRead frameCount) (hread : source.read answers canIds frames = .ok (some out))
    (hsucceeded : out.result.succeeded = true) :
    (∀ i, source.addresses i ≠ 0 → ∀ j : Fin 8,
      memory (source.addresses i + UInt64.ofNat j.val) ≠ none) ∧
    ∀ i, out.frames i =
      { frames i with
        canId := canIds i
        state := if source.addresses i = 0 then .unavailable else .neverObserved
        data := if source.addresses i = 0 then zeroData
          else memoryWord memory (source.addresses i) } := by
  obtain ⟨-, hdelivers⟩ := delivers_of_succeeded hread hsucceeded
  have hfound := hdelivers.found hshows (by simp [hnull])
  obtain ⟨data, hfilled⟩ := hdelivers.filled
  refine ⟨fun i haddress j => ?_, fun i => ?_⟩
  · rw [hfound i haddress j]
    simp
  · rw [hfilled i]
    by_cases haddress : source.addresses i = 0
    · rw [if_pos haddress, if_pos haddress, if_pos haddress]
    · rw [if_neg haddress, if_neg haddress, if_neg haddress]
      have hdata : data i = memoryWord memory (source.addresses i) := by
        apply Vector.ext
        intro j hj
        have hbyte := hfound i haddress ⟨j, hj⟩
        rw [hfilled i, if_neg haddress, if_neg haddress] at hbyte
        change _ = some (data i)[j] at hbyte
        simpa [memoryWord] using (congrArg (Option.getD · 0) hbyte).symm
      rw [hdata]

section Sample

/-- A source with one frame, at an address. -/
def sampleSource : OpenSource singleCatalog.frameCount :=
  { pid := 1
    memory := none
    startTimeTicks := 42
    addresses := fun _ => 0x1000
    remote := [0x1000]
    resolvedCount := 1
    identityFd := 3
    vmReadvRetryNs := 0
    paired := by decide }

/-- A memory that holds the low byte of the address at 16 addresses. -/
def sampleMemory (address : UInt64) : Option UInt8 :=
  if 0x1000 ≤ address ∧ address < 0x1010 then some address.toUInt8 else none

/-- The vectored read moves three bytes only; the frame is then read alone, after an interruption. -/
def sampleReading : ReadAnswers singleCatalog.frameCount :=
  { nowNs := 5
    readv := [.interrupted, .returned [0, 1, 2]]
    memory := some 4
    preads := fun _ => [.interrupted, .returned [0, 1, 2, 3, 4, 5, 6, 7]]
    stack := sampleStack
    identity := [.returned ⟨statLine 1 sampleComm (sampleFields [0x53]), by decide⟩] }

/-- The sample answers are those of the sample memory. -/
theorem sampleReading_shows : sampleSource.Shows sampleReading
    fun address b => sampleMemory address = some b := by
  constructor
  · intro bytes hbytes k b hb
    obtain rfl := Except.ok.inj (Option.some.inj hbytes)
    obtain ⟨hk, rfl⟩ := List.getElem?_eq_some_iff.mp hb
    refine ⟨0x1000, ?_, ?_⟩
    · revert k
      decide
    · revert k
      decide
  · intro i bytes hbytes j b hb
    obtain rfl := Except.ok.inj (Option.some.inj hbytes)
    obtain ⟨hj, rfl⟩ := List.getElem?_eq_some_iff.mp hb
    change sampleMemory (0x1000 + UInt64.ofNat j) = _
    clear hb hbytes
    revert j
    decide

/-- The partial vectored read leaves no trace. -/
theorem read_memory_fallback :
    ∃ out, sampleSource.read sampleReading singleCatalog.canIds (fun _ => zeroFrame) =
        .ok (some out) ∧ out.result = .fallback ∧
      (out.frames singleFrame).data = memoryWord sampleMemory 0x1000 := by
  have hresult : (sampleSource.read sampleReading singleCatalog.canIds fun _ => zeroFrame).map
      (Option.map VhalRead.result) = .ok (some .fallback) := by
    decide +kernel
  cases hread : sampleSource.read sampleReading singleCatalog.canIds fun _ => zeroFrame with
  | error fault =>
    rw [hread] at hresult
    cases hresult
  | ok returned =>
    rw [hread] at hresult
    obtain ⟨out, rfl, hfallback⟩ := Option.map_eq_some_iff.mp (Except.ok.inj hresult)
    refine ⟨out, rfl, hfallback, ?_⟩
    rw [(read_memory sampleSource sampleReading singleCatalog.canIds (fun _ => zeroFrame) sampleMemory
      (by decide) sampleReading_shows out hread (by rw [hfallback]; rfl)).2 singleFrame]
    rfl

end Sample

end OpenSource

end Roadcast
