import Roadcast.Source.Live

/-!
# Where the bytes of a frame come from

A process may end at any time, and its number may be given to another one, also between two system
calls of one read. `Kernel` is what happens outside over time: which process holds a number, when it
was started, and what its memory holds. The reads of `vhal_source.c` go by the number, those through
`/proc/PID/mem` by a descriptor that was opened by it. The identity of the process is checked through
a descriptor of `/proc/PID/stat` that is retained from the open on: it never shows another process
than the one it was opened for, however often the number is given away again.

The session publishes bytes only if the process that the source was opened for has held its number
from then on, and every byte was in its memory during the call.
-/

namespace Roadcast

variable {cat : Catalog} {P : Type}

/-- The processes of a system over time.

A process holds its number without interruption, and nothing is mapped at the null address. -/
structure Kernel (P : Type) where
  holder : ℕ → ℕ → Option P
  startTime : P → UInt64
  memory : P → ℕ → UInt64 → Option UInt8
  holder_between : ∀ {pid : ℕ} {p : P} {first t last : ℕ}, first ≤ t → t ≤ last →
    holder pid first = some p → holder pid last = some p → holder pid t = some p
  unmapped : ∀ (p : P) (t : ℕ), memory p t 0 = none

variable (cat) in
/-- A call of `roadcast_source_session_read` in time. `opens` is when an open reads the start time;
`begins` and `ends` are before the bytes are read and when the identity is verified after that. -/
structure TimedCall extends LiveCall cat where
  opens : ℕ
  begins : ℕ
  ends : ℕ
  opens_le : opens ≤ begins
  begins_le : begins ≤ ends

namespace Kernel

variable (kernel : Kernel P)

/-- A byte that a read may return: it was, during the call, in the memory of a process that has held
the number at some time since the source was opened. -/
def Held (pid openedAt begins ends : ℕ) (address : UInt64) (b : UInt8) : Prop :=
  ∃ p s t, openedAt ≤ s ∧ s ≤ ends ∧ kernel.holder pid s = some p ∧
    begins ≤ t ∧ t ≤ ends ∧ kernel.memory p t address = some b

/-- When the source of a session was opened, after a call. -/
def openedAfter (session : LiveSession cat) (openedAt : ℕ) (call : TimedCall cat) : ℕ :=
  if session.vhal.isSome then openedAt else call.opens

/-- The answers of a call are those of the kernel. The start time that an open reads is that of the
process with the number then. The descriptor that the open retains shows a start time only as long as
this process holds its number. -/
structure Answers (session : LiveSession cat) (openedAt : ℕ) (call : TimedCall cat) : Prop where
  after : ∀ source, session.vhal = some source → openedAt ≤ call.begins
  opening : ∀ pid ticks, call.opening.pid = some pid → call.opening.startTime = some ticks →
    ∃ p, kernel.holder pid call.opens = some p ∧ kernel.startTime p = ticks
  identity : ∀ current source before, session.Reads call.toLiveCall current source before →
    ∀ ticks, shownStartTime call.reading.identity = some (some ticks) →
      ∃ p, kernel.holder source.pid (openedAfter session openedAt call) = some p ∧
        kernel.holder source.pid call.ends = some p
  bytes : ∀ current source before, session.Reads call.toLiveCall current source before →
    source.Shows call.reading (kernel.Held source.pid (openedAfter session openedAt call)
      call.begins call.ends)

/-- The session after a run under a kernel, and when its source was opened. -/
inductive Run : LiveSession cat → ℕ → Prop
  | init : Run .init 0
  | read {session : LiveSession cat} {openedAt : ℕ} (hrun : Run session openedAt)
      {call : TimedCall cat} (hanswers : kernel.Answers session openedAt call)
      {outcome : LiveOutcome cat}
      (hread : session.read call.toLiveCall LiveSession.zeroFrames = .ok (some outcome)) :
    Run outcome.session (openedAfter session openedAt call)

/-- The source was opened for the process with its number and its start time. -/
def Identified (session : LiveSession cat) (openedAt : ℕ) : Prop :=
  ∀ source, session.vhal = some source → ∃ p,
    kernel.holder source.pid openedAt = some p ∧ kernel.startTime p = source.startTimeTicks

variable {kernel} {session current : LiveSession cat} {openedAt : ℕ} {call : TimedCall cat}
  {source : OpenSource cat.frameCount} {before : Fin cat.frameCount → Frame}

/-- The source that a call reads was opened for a process. -/
theorem Identified.reads (h : kernel.Identified session openedAt)
    (hanswers : kernel.Answers session openedAt call)
    (hreads : session.Reads call.toLiveCall current source before) :
    openedAfter session openedAt call ≤ call.begins ∧ ∃ p,
      kernel.holder source.pid (openedAfter session openedAt call) = some p ∧
        kernel.startTime p = source.startTimeTicks := by
  rcases hreads with ⟨hvhal, -, -⟩ | ⟨hvhal, -, hopen, -, -⟩
  · rw [openedAfter, hvhal]
    exact ⟨hanswers.after source hvhal, h source hvhal⟩
  · rw [openedAfter, hvhal]
    obtain ⟨hpid, hticks⟩ := openSource_identity hopen
    exact ⟨call.opens_le, hanswers.opening _ _ hpid hticks⟩

/-- A call that delivers has verified the identity of the source that it reads. -/
theorem delivered_of_succeeded {outcome : LiveOutcome cat}
    (hread : session.read call.toLiveCall LiveSession.zeroFrames = .ok (some outcome))
    (hsucceeded : outcome.result.succeeded = true) :
    ∃ current source before out, session.Reads call.toLiveCall current source before ∧
      shownStartTime call.reading.identity = some (some source.startTimeTicks) ∧
      source.Delivers call.reading (source.prepare cat.canIds before) out ∧
      outcome.session.vhal = some out.source ∧ outcome.frames = out.frames := by
  cases LiveSession.read_cases hread with
  | waiting hclosed hearly => contradiction
  | openFailed hclosed hdue hopen => contradiction
  | readFailed current source before hreads out hread error hresult => contradiction
  | delivered current source before hreads out hfrom result hresult =>
    obtain ⟨hout, -, -⟩ := LiveSession.ReadCase.succeeded hresult
    obtain ⟨hshown, hdelivers⟩ := OpenSource.delivers_of_succeeded hfrom hout
    exact ⟨current, source, before, out, hreads, hshown, hdelivers, rfl, rfl⟩

/-- The process that a source was opened for has its number until the identity is verified. -/
theorem Identified.holds (h : kernel.Identified session openedAt)
    (hanswers : kernel.Answers session openedAt call)
    (hreads : session.Reads call.toLiveCall current source before)
    (hshown : shownStartTime call.reading.identity = some (some source.startTimeTicks)) :
    ∃ p, kernel.startTime p = source.startTimeTicks ∧
      ∀ t, openedAfter session openedAt call ≤ t → t ≤ call.ends →
        kernel.holder source.pid t = some p := by
  obtain ⟨-, p, hholder, hstart⟩ := h.reads hanswers hreads
  obtain ⟨q, hfirst, hlast⟩ := hanswers.identity current source before hreads _ hshown
  obtain rfl := Option.some.inj (hholder.symm.trans hfirst)
  exact ⟨p, hstart, fun t hfirst hend => kernel.holder_between hfirst hend hholder hlast⟩

/-- A read does not change what a source was opened for. -/
theorem delivers_source {prepared : Fin cat.frameCount → Frame} {out : VhalRead cat.frameCount}
    (h : source.Delivers call.reading prepared out) :
    out.source.pid = source.pid ∧ out.source.startTimeTicks = source.startTimeTicks ∧
      out.source.addresses = source.addresses := by
  cases h with
  | vectored => exact ⟨rfl, rfl, rfl⟩
  | fallback => exact ⟨rfl, rfl, rfl⟩

/-- Along a run the open source is identified. -/
theorem Run.identified (hrun : kernel.Run session openedAt) : kernel.Identified session openedAt := by
  induction hrun with
  | init =>
    intro source hvhal
    cases hvhal
  | @read session openedAt hrun call hanswers outcome hread ih =>
    intro source hvhal
    cases hresult : outcome.result.succeeded with
    | true =>
      obtain ⟨current, opened, before, out, hreads, -, hdelivers, hout, -⟩ :=
        delivered_of_succeeded hread hresult
      obtain rfl := Option.some.inj (hout.symm.trans hvhal)
      obtain ⟨hpid, hticks, -⟩ := delivers_source hdelivers
      rw [hpid, hticks]
      exact (ih.reads hanswers hreads).2
    | false =>
      -- a call that does not deliver leaves no source open
      cases LiveSession.read_cases hread with
      | waiting hclosed hearly => exact absurd (hclosed.symm.trans hvhal) (by simp)
      | openFailed hclosed hdue hopen => cases hvhal
      | readFailed current source before hreads out hread error hfailed => cases hvhal
      | delivered current source before hreads out hread result hdelivered =>
        rcases hdelivered with ⟨-, rfl⟩ | ⟨-, rfl⟩
        · contradiction
        · contradiction

/-- However processes end and numbers are reused during a run: a call that does not deliver leaves
every frame unavailable, and one that delivers reads from the process that the source was opened for,
which has held its number from then until the end of the call. Every byte of a frame with an address
was in the memory of this process, at its place, at some time during the call; the other frames are
unavailable and zero. -/
theorem run_provenance (hrun : kernel.Run session openedAt)
    (hanswers : kernel.Answers session openedAt call) {outcome : LiveOutcome cat}
    (hread : session.read call.toLiveCall LiveSession.zeroFrames = .ok (some outcome)) :
    (outcome.result.succeeded = false → outcome.frames = markUnavailable) ∧
    (outcome.result.succeeded = true → ∃ source p, outcome.session.vhal = some source ∧
      kernel.startTime p = source.startTimeTicks ∧
      (∀ t, openedAfter session openedAt call ≤ t → t ≤ call.ends →
        kernel.holder source.pid t = some p) ∧
      ∀ i, (source.addresses i = 0 → outcome.frames i = markUnavailable i) ∧
        (source.addresses i ≠ 0 → ∀ j : Fin 8, ∃ t, call.begins ≤ t ∧ t ≤ call.ends ∧
          kernel.memory p t (source.addresses i + UInt64.ofNat j.val) =
            some ((outcome.frames i).data.get j))) := by
  constructor
  · intro hfailed
    cases LiveSession.read_cases hread with
    | waiting hclosed hearly => rfl
    | openFailed hclosed hdue hopen => rfl
    | readFailed current source before hreads out hread error hresult => rfl
    | delivered current source before hreads out hread result hresult =>
      rcases hresult with ⟨-, rfl⟩ | ⟨-, rfl⟩
      · contradiction
      · contradiction
  · intro hsucceeded
    obtain ⟨current, source, before, out, hreads, hshown, hdelivers, hout, hframes⟩ :=
      delivered_of_succeeded hread hsucceeded
    obtain ⟨p, hstart, hholder⟩ := hrun.identified.holds hanswers hreads hshown
    obtain ⟨hpid, hticks, haddresses⟩ := delivers_source hdelivers
    refine ⟨out.source, p, hout, hstart.trans hticks.symm, ?_, fun i => ⟨fun hzero => ?_, ?_⟩⟩
    · rw [hpid]
      exact hholder
    · have hfilled := LiveSession.filled_vhalFrames hdelivers.filled hreads.vhal_eq.2
      rw [haddresses] at hzero
      rw [hframes, hfilled]
      simp [vhalFrames, LiveSession.resolved, hzero, markUnavailable, zeroFrame]
    · intro haddress j
      rw [haddresses] at haddress ⊢
      have hnull (b : UInt8) : ¬ kernel.Held source.pid (openedAfter session openedAt call)
          call.begins call.ends 0 b := by
        rintro ⟨q, s, t, -, -, -, -, -, hmemory⟩
        exact absurd (hmemory.symm.trans (kernel.unmapped q t)) (by simp)
      obtain ⟨q, s, t, hfirst, hlast, hq, hbegins, hends, hmemory⟩ :=
        hdelivers.found (hanswers.bytes current source before hreads) hnull i haddress j
      -- whoever held the number since the open is the process of the source
      obtain rfl := Option.some.inj ((hholder s hfirst hlast).symm.trans hq)
      rw [hframes]
      exact ⟨t, hbegins, hends, hmemory⟩

section Sample

/-- A process that never ends, with the low byte of the address in every cell but the first. -/
def sampleKernel : Kernel Unit where
  holder := fun _ _ => some ()
  startTime := fun _ => 42
  memory := fun _ _ address => if address = 0 then none else some address.toUInt8
  holder_between := fun _ _ _ _ => rfl
  unmapped := fun _ _ => rfl

/-- The call that opens the source, at times 1 to 3. -/
def sampleTimed : TimedCall singleCatalog := ⟨sampleCall, 1, 2, 3, by decide, by decide⟩

/-- The call reads the source that it opens. -/
theorem sampleReads {current : LiveSession singleCatalog}
    {source : OpenSource singleCatalog.frameCount} {before : Fin singleCatalog.frameCount → Frame}
    (h : LiveSession.init.Reads sampleTimed.toLiveCall current source before) :
    source = sampleOpened := by
  rcases h with ⟨hvhal, -, -⟩ | ⟨-, -, hopen, -, -⟩
  · cases hvhal
  · exact Option.some.inj (Except.ok.inj (hopen.symm.trans openSource_sampleOpening))

/-- The answers of the call are those of the process. -/
theorem sampleKernel_answers : sampleKernel.Answers LiveSession.init 0 sampleTimed where
  after := fun _ hvhal => by cases hvhal
  opening := fun pid ticks _ hticks => ⟨(), rfl, Option.some.inj hticks⟩
  identity := fun _ _ _ _ _ _ => ⟨(), rfl, rfl⟩
  bytes := fun current source before hreads => by
    obtain rfl := sampleReads hreads
    constructor
    · intro bytes hbytes k b hb
      obtain rfl := Except.ok.inj (Option.some.inj hbytes)
      obtain ⟨hk, rfl⟩ := List.getElem?_eq_some_iff.mp hb
      have hcell : ([0x5554000] : List UInt64)[k / 8]? = some 0x5554000 ∧
          sampleKernel.memory () 2 (0x5554000 + UInt64.ofNat (k % 8)) =
            some ([0, 1, 2, 3, 4, 5, 6, 7] : List UInt8)[k] := by
        clear hb hbytes hreads
        revert k
        decide
      exact ⟨0x5554000, hcell.1, (), 2, 2, by decide, by decide, rfl, by decide, by decide, hcell.2⟩
    · intro i bytes hbytes
      cases hbytes

/-- The bytes of the first sample are those of the process. -/
theorem run_provenance_opened :
    ∃ outcome, LiveSession.init.read sampleCall LiveSession.zeroFrames = .ok (some outcome) ∧
      outcome.result = .vectored ∧ ∃ source p, outcome.session.vhal = some source ∧
        ∀ t, 1 ≤ t → t ≤ 3 → sampleKernel.holder source.pid t = some p := by
  obtain ⟨outcome, hread, hresult, -⟩ := read_sampleCall
  have hsucceeded : outcome.result.succeeded = true := by
    rw [hresult]
    rfl
  obtain ⟨source, p, hvhal, -, hholder, -⟩ :=
    (run_provenance .init sampleKernel_answers hread).2 hsucceeded
  exact ⟨outcome, hread, hresult, source, p, hvhal, hholder⟩

end Sample

end Kernel

end Roadcast
