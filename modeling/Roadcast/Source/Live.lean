import Roadcast.Source.Backoff
import Roadcast.Source.Reading

/-!
# The source session over a process

`roadcast_source_session_read` with the whole of `vhal_source.c` below it: the search for symbols and
mappings, both ways to read the frames, and the identity checks. Whatever the operating system
answers, no access leaves its buffer, and the session does what `SessionWords` does, whose reads are
told only whether an open or a read succeeds and which bytes it delivers.
-/

namespace Roadcast

open Checked

section Opening

variable {frameCount : ℕ} {canIds : Fin frameCount → UInt16} {answers : OpenAnswers frameCount}

/-- An open pairs each address with one segment of the vectored read. -/
theorem vhalOpen_paired {source : VhalSource frameCount}
    (h : vhalOpen canIds answers = .ok (some source)) : source.Paired := by
  obtain ⟨located, -, rfl⟩ := vhalOpen_located h
  exact source_paired located

/-- `roadcast_vhal_open` with the descriptor of `/proc/PID/stat`. -/
def openSource (canIds : Fin frameCount → UInt16) (answers : OpenAnswers frameCount)
    (identityFd : ℕ) : Except Fault (Option (OpenSource frameCount)) :=
  match h : vhalOpen canIds answers with
  | .error fault => .error fault
  | .ok none => .ok none
  | .ok (some source) => .ok (some ⟨source, identityFd, 0, vhalOpen_paired h⟩)

/-- A source that is opened is that of `roadcast_vhal_open`, without a vectored read so far. -/
theorem openSource_ok {identityFd : ℕ} {source : OpenSource frameCount}
    (h : openSource canIds answers identityFd = .ok (some source)) :
    vhalOpen canIds answers = .ok (some source.toVhalSource) ∧ source.vmReadvRetryNs = 0 := by
  unfold openSource at h
  split at h
  · cases h
  · cases h
  · rename_i opened hopen
    obtain rfl := Option.some.inj (Except.ok.inj h)
    exact ⟨hopen, rfl⟩

/-- The loop over the frames leaves the rest of the source alone. -/
theorem source_identity (located : Located frameCount) :
    located.source.pid = located.pid ∧ located.source.startTimeTicks = located.startTime := by
  have hfields (frames : List (Fin frameCount)) (source : VhalSource frameCount) :
      (frames.foldl located.fill source).pid = source.pid ∧
        (frames.foldl located.fill source).startTimeTicks = source.startTimeTicks := by
    induction frames generalizing source with
    | nil => exact ⟨rfl, rfl⟩
    | cons frame rest ih =>
      rw [List.foldl_cons, (ih _).1, (ih _).2, Located.fill]
      split
      · exact ⟨rfl, rfl⟩
      · exact ⟨rfl, rfl⟩
  exact hfields _ _

/-- An open keeps the number and the start time that it has read. -/
theorem vhalLocate_identity {located : Located frameCount}
    (h : vhalLocate canIds answers = .ok (some located)) :
    answers.pid = some located.pid ∧ answers.startTime = some located.startTime := by
  rw [vhalLocate] at h
  split at h
  · rename_i pid startTime executable hpid hstart hexecutable
    have hreturns : Returns (resolveSymbols canIds answers.file answers.stack) fun _ => True :=
      (returns_resolveSymbols answers.file answers.stack).imp fun _ _ => trivial
    obtain ⟨⟨failure, symbols⟩, hcall, -⟩ := hreturns
    rw [hcall] at h
    change (if failure ≠ none then pure none else _) = _ at h
    split at h
    · cases h
    · split at h
      · cases h
      · obtain rfl := Option.some.inj (Except.ok.inj h)
        exact ⟨hpid, hstart⟩
  · cases h

/-- A source is opened for the number and the start time that were read. -/
theorem openSource_identity {identityFd : ℕ} {source : OpenSource frameCount}
    (h : openSource canIds answers identityFd = .ok (some source)) :
    answers.pid = some source.pid ∧ answers.startTime = some source.startTimeTicks := by
  obtain ⟨hopen, -⟩ := openSource_ok h
  obtain ⟨located, hlocate, hsource⟩ := vhalOpen_located hopen
  obtain ⟨hpid, hticks⟩ := source_identity located
  rw [hsource]
  exact hpid ▸ hticks ▸ vhalLocate_identity hlocate

/-- Locating the symbols and mappings stays inside the file. -/
theorem returns_vhalLocate (canIds : Fin frameCount → UInt16) (answers : OpenAnswers frameCount) :
    Returns (vhalLocate canIds answers) fun _ => True := by
  rw [vhalLocate]
  split
  · refine (returns_resolveSymbols answers.file answers.stack).bind fun resolved _ => ?_
    obtain ⟨failure, symbols⟩ := resolved
    dsimp only
    split
    · exact .ok trivial
    · split
      · exact .ok trivial
      · exact .ok trivial
  · exact .ok trivial

/-- Opening never faults. -/
theorem returns_openSource (canIds : Fin frameCount → UInt16) (answers : OpenAnswers frameCount)
    (identityFd : ℕ) : Returns (openSource canIds answers identityFd) fun _ => True := by
  have hopen : Returns (vhalOpen canIds answers) fun _ => True := by
    rw [vhalOpen]
    refine (returns_vhalLocate canIds answers).bind fun found _ => ?_
    cases found with
    | none => exact .ok trivial
    | some located =>
      dsimp only
      split
      · exact .ok trivial
      · split
        · exact .ok trivial
        · split
          · exact .ok trivial
          · exact .ok trivial
  unfold openSource
  split
  · rename_i fault hfault
    obtain ⟨opened, hok, -⟩ := hopen
    exact absurd (hfault.symm.trans hok) (by simp)
  · exact .ok trivial
  · exact .ok trivial

end Opening

namespace OpenSource

variable {frameCount : ℕ} (source : OpenSource frameCount) (answers : ReadAnswers frameCount)
  (canIds : Fin frameCount → UInt16) (frames : Fin frameCount → Frame)

/-- The end of a read has no fault. -/
theorem returns_conclude (result : VhalResult) :
    Returns (source.conclude answers canIds frames result) fun _ => True := by
  rw [conclude, verify_eq]
  cases shownStartTime answers.identity with
  | none => exact .ok trivial
  | some shown =>
    by_cases hshown : shown = some source.startTimeTicks
    · rw [Option.elim_some, if_pos hshown]
      exact .ok trivial
    · rw [Option.elim_some, if_neg hshown]
      exact .ok trivial

/-- Reading never faults. -/
theorem returns_read : Returns (source.read answers canIds frames) fun _ => True := by
  rw [read]
  split
  · exact .ok trivial
  · exact returns_conclude _ _ _ _ _
  · exact .ok trivial
  · rw [readFallback]
    dsimp only
    split
    · exact .ok trivial
    · split
      · exact .ok trivial
      · exact returns_conclude _ _ _ _ _

end OpenSource

variable (cat : Catalog)

/-- `roadcast_source_session_t` with its source. A session is connected while the source is open. -/
structure LiveSession where
  vhal : Option (OpenSource cat.frameCount)
  retryAtNs : UInt64
  retryDelayNs : UInt64
  generation : UInt64

/-- A call of `roadcast_source_session_read`: the clock, and what the operating system answers. -/
structure LiveCall where
  nowNs : UInt64
  opening : OpenAnswers cat.frameCount
  identityFd : ℕ
  reading : ReadAnswers cat.frameCount

/-- What a call of `roadcast_source_session_read` leaves and returns. -/
structure LiveOutcome where
  session : LiveSession cat
  result : ReadResult
  frames : Fin cat.frameCount → Frame

variable {cat}

namespace LiveSession

open SessionWords (retryInitial retryMax)

/-- `roadcast_source_session_init`. -/
def init : LiveSession cat := ⟨none, 0, retryInitial, 0⟩

/-- `schedule_retry`. -/
def scheduleRetry (session : LiveSession cat) (nowNs : UInt64) : LiveSession cat :=
  { session with
    vhal := none
    retryAtNs := nowNs + session.retryDelayNs
    retryDelayNs := if session.retryDelayNs < retryMax / 2 then session.retryDelayNs * 2
      else retryMax }

/-- The part of `roadcast_source_session_read` that reads an open source. -/
def readOpen (session : LiveSession cat) (source : OpenSource cat.frameCount) (call : LiveCall cat)
    (frames : Fin cat.frameCount → Frame) : Except Fault (Option (LiveOutcome cat)) := do
  match ← source.read call.reading cat.canIds frames with
  | none => pure none
  | some out =>
    let kept := { session with vhal := some out.source, retryDelayNs := retryInitial }
    match out.result with
    | .failed _ => pure (some ⟨session.scheduleRetry call.nowNs, .failed, markUnavailable⟩)
    | .vectored => pure (some ⟨kept, .vectored, out.frames⟩)
    | .fallback => pure (some ⟨kept, .fallback, out.frames⟩)

/-- The session right after `roadcast_vhal_open` succeeded. -/
def opened (session : LiveSession cat) (source : OpenSource cat.frameCount) : LiveSession cat :=
  { session with vhal := some source, generation := session.generation + 1 }

/-- `roadcast_source_session_read`; `none` as long as a call is interrupted. -/
def read (session : LiveSession cat) (call : LiveCall cat) (frames : Fin cat.frameCount → Frame) :
    Except Fault (Option (LiveOutcome cat)) :=
  match session.vhal with
  | some source => session.readOpen source call frames
  | none =>
    if call.nowNs < session.retryAtNs then pure (some ⟨session, .waiting, markUnavailable⟩)
    else do
      match ← openSource cat.canIds call.opening call.identityFd with
      | none => pure (some ⟨session.scheduleRetry call.nowNs, .failed, markUnavailable⟩)
      | some source => (session.opened source).readOpen source call markUnavailable

/-- The array that the sampler hands to a read. -/
def zeroFrames (_ : Fin cat.frameCount) : Frame := zeroFrame

/-! ## What one call can do -/

/-- The source that a call reads, and the frames that it hands on: the source that is open, or one
that it opens first. -/
def Reads (session : LiveSession cat) (call : LiveCall cat) (current : LiveSession cat)
    (source : OpenSource cat.frameCount) (before : Fin cat.frameCount → Frame) : Prop :=
  (session.vhal = some source ∧ current = session ∧ before = zeroFrames) ∨
    (session.vhal = none ∧ session.retryAtNs ≤ call.nowNs ∧
      openSource cat.canIds call.opening call.identityFd = .ok (some source) ∧
      current = session.opened source ∧ before = markUnavailable)

/-- What a call of `roadcast_source_session_read` can do. -/
inductive ReadCase (session : LiveSession cat) (call : LiveCall cat) : LiveOutcome cat → Prop
  | waiting (hclosed : session.vhal = none) (hearly : call.nowNs < session.retryAtNs) :
    ReadCase session call ⟨session, .waiting, markUnavailable⟩
  | openFailed (hclosed : session.vhal = none) (hdue : session.retryAtNs ≤ call.nowNs)
      (hopen : openSource cat.canIds call.opening call.identityFd = .ok none) :
    ReadCase session call ⟨session.scheduleRetry call.nowNs, .failed, markUnavailable⟩
  | readFailed (current : LiveSession cat) (source : OpenSource cat.frameCount)
      (before : Fin cat.frameCount → Frame) (hreads : session.Reads call current source before)
      (out : VhalRead cat.frameCount)
      (hread : source.read call.reading cat.canIds before = .ok (some out)) (error : ReadError)
      (hresult : out.result = .failed error) :
    ReadCase session call ⟨current.scheduleRetry call.nowNs, .failed, markUnavailable⟩
  | delivered (current : LiveSession cat) (source : OpenSource cat.frameCount)
      (before : Fin cat.frameCount → Frame) (hreads : session.Reads call current source before)
      (out : VhalRead cat.frameCount)
      (hread : source.read call.reading cat.canIds before = .ok (some out)) (result : ReadResult)
      (hresult : (out.result = .vectored ∧ result = .vectored) ∨
        (out.result = .fallback ∧ result = .fallback)) :
    ReadCase session call
      ⟨{ current with vhal := some out.source, retryDelayNs := retryInitial }, result, out.frames⟩

variable {session current : LiveSession cat} {call : LiveCall cat} {outcome : LiveOutcome cat}

/-- A read that is one of the cases returns it. -/
theorem ReadCase.returns (h : session.ReadCase call outcome) :
    Returns (pure (some outcome)) fun returned =>
      ∀ outcome, returned = some outcome → session.ReadCase call outcome :=
  .ok fun _ hsame => Option.some.inj hsame ▸ h

/-- Reading an open source returns, and fails or delivers what it read. -/
theorem returns_readOpen {source : OpenSource cat.frameCount} {before : Fin cat.frameCount → Frame}
    (hreads : session.Reads call current source before) :
    Returns (current.readOpen source call before) fun returned =>
      ∀ outcome, returned = some outcome → session.ReadCase call outcome := by
  obtain ⟨returned, hread, -⟩ := source.returns_read call.reading cat.canIds before
  rw [readOpen, hread]
  dsimp only [bind, Except.bind]
  cases returned with
  | none => exact .ok (by simp)
  | some out =>
    dsimp only
    cases hresult : out.result with
    | failed error =>
      exact (ReadCase.readFailed current source before hreads out hread error hresult).returns
    | vectored =>
      exact (ReadCase.delivered current source before hreads out hread _
        (Or.inl ⟨hresult, rfl⟩)).returns
    | fallback =>
      exact (ReadCase.delivered current source before hreads out hread _
        (Or.inr ⟨hresult, rfl⟩)).returns

/-- A session without a source that opens one reads it at once. -/
theorem read_of_opened {source : OpenSource cat.frameCount} (hvhal : session.vhal = none)
    (hdue : ¬ call.nowNs < session.retryAtNs)
    (hopen : openSource cat.canIds call.opening call.identityFd = .ok (some source))
    (frames : Fin cat.frameCount → Frame) : session.read call frames =
      (session.opened source).readOpen source call markUnavailable := by
  rw [LiveSession.read, hvhal]
  dsimp only
  rw [if_neg hdue, hopen]
  rfl

/-- Whatever the operating system answers, a call stays inside its buffers and does one of these. -/
theorem returns_read (session : LiveSession cat) (call : LiveCall cat) :
    Returns (session.read call zeroFrames) fun returned =>
      ∀ outcome, returned = some outcome → session.ReadCase call outcome := by
  cases hvhal : session.vhal with
  | some source =>
    rw [LiveSession.read, hvhal]
    exact returns_readOpen (Or.inl ⟨hvhal, rfl, rfl⟩)
  | none =>
    by_cases hearly : call.nowNs < session.retryAtNs
    · rw [LiveSession.read, hvhal]
      dsimp only
      rw [if_pos hearly]
      exact (ReadCase.waiting hvhal hearly).returns
    · have hdue := UInt64.not_lt.mp hearly
      obtain ⟨found, hopen, -⟩ := returns_openSource cat.canIds call.opening call.identityFd
      cases found with
      | none =>
        rw [LiveSession.read, hvhal]
        dsimp only
        rw [if_neg hearly, hopen]
        exact (ReadCase.openFailed hvhal hdue hopen).returns
      | some source =>
        rw [read_of_opened hvhal hearly hopen]
        exact returns_readOpen (Or.inr ⟨hvhal, hdue, hopen, rfl, rfl⟩)

/-- What a call of `roadcast_source_session_read` can do. -/
theorem read_cases (h : session.read call zeroFrames = .ok (some outcome)) :
    session.ReadCase call outcome := by
  obtain ⟨returned, hreturned, hcase⟩ := session.returns_read call
  exact hcase outcome (Except.ok.inj (hreturned.symm.trans h))

/-! ## The session in terms of outcomes -/

/-- Which frames of a source have an address. -/
def resolved (vhal : Option (OpenSource cat.frameCount)) (i : Fin cat.frameCount) : Bool :=
  vhal.any fun source => decide (source.addresses i ≠ 0)

/-- The session without the contents of its source. -/
def words (session : LiveSession cat) : SessionWords cat :=
  ⟨resolved session.vhal, session.retryAtNs, session.retryDelayNs, session.generation,
    session.vhal.isSome⟩

/-- What a read of the source comes to: nothing, or bytes and the way they were read. -/
def bytesOf (out : VhalRead cat.frameCount) : Option (Bool × (Fin cat.frameCount → FrameData)) :=
  match out.result with
  | .failed _ => none
  | .vectored => some (false, fun i => (out.frames i).data)
  | .fallback => some (true, fun i => (out.frames i).data)

/-- What the calls into `vhal_source.c` come to. -/
def attempt (session : LiveSession cat) (call : LiveCall cat) : SourceAttempt cat :=
  let opened := (openSource cat.canIds call.opening call.identityFd).toOption.join
  let before := if session.vhal.isSome then zeroFrames else markUnavailable
  { opened := opened.map fun source => resolved (some source)
    bytes := (session.vhal.or opened).bind fun source =>
      (source.read call.reading cat.canIds before).toOption.join.bind bytesOf }

/-- The call without the contents of the source. -/
def sessionRead (session : LiveSession cat) (call : LiveCall cat) : SessionRead cat :=
  ⟨call.nowNs, session.attempt call⟩

section Delivered

variable {source : OpenSource cat.frameCount} {before : Fin cat.frameCount → Frame}
  {out : VhalRead cat.frameCount}

/-- The source that a call reads is the one of the session, and its frames have no times yet. -/
theorem Reads.vhal_eq (h : session.Reads call current source before) :
    current.vhal = some source ∧
      ∀ i, (before i).firstObservedNs = 0 ∧ (before i).lastChangeNs = 0 := by
  rcases h with ⟨hvhal, rfl, rfl⟩ | ⟨-, -, -, rfl, rfl⟩
  · exact ⟨hvhal, fun _ => ⟨rfl, rfl⟩⟩
  · exact ⟨rfl, fun _ => ⟨rfl, rfl⟩⟩

/-- The bytes of the attempt are those of the source that is read. -/
theorem Reads.bytes (h : session.Reads call current source before)
    (hread : source.read call.reading cat.canIds before = .ok (some out)) :
    (session.attempt call).bytes = bytesOf out := by
  rcases h with ⟨hvhal, rfl, rfl⟩ | ⟨hvhal, hdue, hopen, rfl, rfl⟩
  · simp [attempt, hvhal, hread, Except.toOption]
  · simp [attempt, hvhal, hopen, hread, Except.toOption]

/-- A session that has a source, or opens one, goes on to read it. -/
theorem Reads.words (h : session.Reads call current source before) :
    ∃ calls, session.words.read (session.sessionRead call) =
      { current.words.readConnected (session.sessionRead call) with calls := calls } := by
  unfold SessionWords.read
  rcases h with ⟨hvhal, rfl, -⟩ | ⟨hvhal, hdue, hopen, rfl, -⟩
  · have hconnected : current.words.connected = true := by simp [LiveSession.words, hvhal]
    rw [if_pos hconnected]
    exact ⟨_, rfl⟩
  · have hclosed : ¬ session.words.connected = true := by simp [LiveSession.words, hvhal]
    have hlate : ¬ (session.sessionRead call).nowNs < session.words.retryAtNs :=
      UInt64.not_lt.mpr hdue
    have hopened : (session.sessionRead call).attempt.opened = some (resolved (some source)) := by
      simp [sessionRead, attempt, hopen, Except.toOption]
    rw [if_neg hclosed, if_neg hlate, hopened]
    exact ⟨_, rfl⟩

/-- A read that succeeds keeps the addresses of the source. -/
theorem delivers_resolved {prepared : Fin cat.frameCount → Frame}
    (h : source.Delivers call.reading prepared out) :
    resolved (some out.source) = resolved (some source) := by
  cases h with
  | vectored => rfl
  | fallback => rfl

/-- The frames of a read that succeeds, if it starts from frames without timestamps. -/
theorem filled_vhalFrames (h : source.Filled cat.canIds before out.frames)
    (hbefore : ∀ i, (before i).firstObservedNs = 0 ∧ (before i).lastChangeNs = 0) :
    out.frames = vhalFrames (resolved (some source)) fun i => (out.frames i).data := by
  obtain ⟨data, hfilled⟩ := h
  funext i
  obtain ⟨hfirst, hlast⟩ := hbefore i
  rw [vhalFrames, hfilled i]
  by_cases haddress : source.addresses i = 0
  · simp [resolved, haddress, hfirst, hlast]
  · simp [resolved, haddress, hfirst, hlast]

end Delivered

/-- A read that succeeds delivers the bytes of its frames. -/
theorem ReadCase.succeeded {out : VhalRead cat.frameCount} {result : ReadResult}
    (h : (out.result = .vectored ∧ result = .vectored) ∨
      (out.result = .fallback ∧ result = .fallback)) :
    out.result.succeeded = true ∧
      bytesOf out = some (decide (result = .fallback), fun i => (out.frames i).data) ∧
      result = if decide (result = .fallback) then .fallback else .vectored := by
  rcases h with ⟨hout, rfl⟩ | ⟨hout, rfl⟩
  · exact ⟨by rw [hout]; rfl, by rw [bytesOf, hout]; rfl, rfl⟩
  · exact ⟨by rw [hout]; rfl, by rw [bytesOf, hout]; rfl, rfl⟩

/-- A call does what `SessionWords.read` does with the outcomes of the calls that it makes. -/
theorem ReadCase.words (h : session.ReadCase call outcome) :
    let abstract := session.words.read (session.sessionRead call)
    (abstract.session, abstract.result, abstract.frames) =
      (outcome.session.words, outcome.result, outcome.frames) := by
  cases h with
  | waiting hclosed hearly =>
    have hconnected : ¬ session.words.connected = true := by simp [LiveSession.words, hclosed]
    have hlate : (session.sessionRead call).nowNs < session.words.retryAtNs := hearly
    rw [SessionWords.read, if_neg hconnected, if_pos hlate]
  | openFailed hclosed hdue hopen =>
    have hconnected : ¬ session.words.connected = true := by simp [LiveSession.words, hclosed]
    have hlate : ¬ (session.sessionRead call).nowNs < session.words.retryAtNs :=
      UInt64.not_lt.mpr hdue
    have hnone : (session.sessionRead call).attempt.opened = none := by
      simp [sessionRead, attempt, hopen, Except.toOption]
    rw [SessionWords.read, if_neg hconnected, if_neg hlate, hnone]
    rfl
  | readFailed current source before hreads out hread error hresult =>
    obtain ⟨calls, hwords⟩ := hreads.words
    have hnone : (session.sessionRead call).attempt.bytes = none := by
      rw [sessionRead, hreads.bytes hread, bytesOf, hresult]
    rw [hwords, SessionWords.readConnected, hnone]
    rfl
  | delivered current source before hreads out hread result hresult =>
    obtain ⟨hsucceeded, hbytes, hway⟩ := ReadCase.succeeded hresult
    obtain ⟨hvhal, hbefore⟩ := hreads.vhal_eq
    obtain ⟨calls, hwords⟩ := hreads.words
    obtain ⟨-, hdelivers⟩ := OpenSource.delivers_of_succeeded hread hsucceeded
    have hframes := filled_vhalFrames hdelivers.filled hbefore
    have hsome : (session.sessionRead call).attempt.bytes =
        some (decide (result = .fallback), fun i => (out.frames i).data) := by
      rw [sessionRead, hreads.bytes hread, hbytes]
    rw [hwords, SessionWords.readConnected, hsome]
    -- what the session keeps of the source is the same before and after the read
    simp only [LiveSession.words, hvhal, delivers_resolved hdelivers, ← hway, ← hframes,
      Option.isSome_some]

end LiveSession

/-! ## Runs -/

/-- The calls of a run, each with the session before it, the session after the run and what each call
returned. Every call has an array of zeroed frames, as in the sampler. -/
inductive LiveRun : List (LiveSession cat × LiveCall cat) → LiveSession cat →
    List (LiveOutcome cat) → Prop
  | init : LiveRun [] .init []
  | read {history : List (LiveSession cat × LiveCall cat)} {session : LiveSession cat}
      {outcomes : List (LiveOutcome cat)} (hrun : LiveRun history session outcomes)
      {call : LiveCall cat} {outcome : LiveOutcome cat}
      (hread : session.read call LiveSession.zeroFrames = .ok (some outcome)) :
    LiveRun (history ++ [(session, call)]) outcome.session (outcomes ++ [outcome])

/-- Whatever the operating system answers during a run, no call faults, and the run is one of
`SessionWords` with the same results and frames. In it a source opens if the symbols and mappings are
found, and a read delivers if one of the two ways succeeds and the identity holds after it. -/
theorem liveRun_refines {history : List (LiveSession cat × LiveCall cat)} {session : LiveSession cat}
    {outcomes : List (LiveOutcome cat)} (hrun : LiveRun history session outcomes) :
    let run := runReads (history.map fun earlier => earlier.1.sessionRead earlier.2)
    (∀ call, Returns (session.read call LiveSession.zeroFrames) fun _ => True) ∧
      run.1 = session.words ∧
      run.2.map (fun outcome => (outcome.session, outcome.result, outcome.frames)) =
        outcomes.map fun outcome => (outcome.session.words, outcome.result, outcome.frames) := by
  refine ⟨fun call => (session.returns_read call).imp fun _ _ => trivial, ?_⟩
  induction hrun with
  | init => exact ⟨rfl, rfl⟩
  | @read history session outcomes hrun call outcome hread ih =>
    obtain ⟨hsession, houtcomes⟩ := ih
    have hwords := (LiveSession.read_cases hread).words
    rw [List.map_append, List.map_cons, List.map_nil, runReads_append, hsession]
    refine ⟨congrArg Prod.fst hwords, ?_⟩
    rw [List.map_append, List.map_append, houtcomes]
    exact congrArg (fun last => _ ++ [last]) hwords

/-! ## Vectored reads of one source -/

namespace OpenSource

variable {frameCount : ℕ}

/-- What `process_vm_readv` answers in a read; `none` if it is not called. -/
def readvAnswer (source : OpenSource frameCount) (answers : ReadAnswers frameCount) :
    Option (Except ReadvError (List UInt8)) :=
  if answers.nowNs < source.vmReadvRetryNs then none else uninterrupted answers.readv

/-- The reads of a source that stays open: the clock and the answer of `process_vm_readv` in each. -/
inductive Run (canIds : Fin frameCount → UInt16) (source : OpenSource frameCount) :
    List (UInt64 × Option (Except ReadvError (List UInt8))) → OpenSource frameCount → Prop
  | init : Run canIds source [] source
  | read {events : List (UInt64 × Option (Except ReadvError (List UInt8)))}
      {current : OpenSource frameCount} (hrun : Run canIds source events current)
      {answers : ReadAnswers frameCount} {frames : Fin frameCount → Frame}
      {out : VhalRead frameCount}
      (hread : current.read answers canIds frames = .ok (some out)) :
    Run canIds source (events ++ [(answers.nowNs, current.readvAnswer answers)]) out.source

/-- The kernel has no vectored reads. -/
def Unsupported (answer : Option (Except ReadvError (List UInt8))) : Prop :=
  answer = some (.error .enosys)

/-- The kernel refuses the vectored read. -/
def Refused (answer : Option (Except ReadvError (List UInt8))) : Prop :=
  answer = some (.error .eperm) ∨ answer = some (.error .eacces)

variable {source current : OpenSource frameCount} {canIds : Fin frameCount → UInt16}
  {answers : ReadAnswers frameCount} {frames : Fin frameCount → Frame}
  {out : VhalRead frameCount}

/-- What a read does with the time of the next vectored read. -/
inductive RetryCase (source : OpenSource frameCount) (answers : ReadAnswers frameCount)
    (retryNs : UInt64) : Prop
  | unsupported (h : Unsupported (source.readvAnswer answers)) (hretry : retryNs = vmReadvNever)
  | refused (h : Refused (source.readvAnswer answers))
      (hretry : retryNs = answers.nowNs + vmReadvRetryDelayNs)
  | kept (hsupported : ¬ Unsupported (source.readvAnswer answers))
      (hallowed : ¬ Refused (source.readvAnswer answers)) (hretry : retryNs = source.vmReadvRetryNs)

/-- The vectored read sets the retry time by the error that it meets. -/
theorem readVectored_retry {source' : OpenSource frameCount} {frames' : Fin frameCount → Frame}
    {attempt : Attempt}
    (h : source.readVectored answers frames = some (source', frames', attempt)) :
    source.RetryCase answers source'.vmReadvRetryNs := by
  unfold readVectored at h
  split at h
  · rename_i hearly
    obtain ⟨rfl, -, -⟩ : source = source' ∧ frames = frames' ∧ Attempt.incomplete = attempt := by
      simpa using h
    have hanswer : source.readvAnswer answers = none := if_pos hearly
    exact .kept (by simp [Unsupported, hanswer]) (by simp [Refused, hanswer]) rfl
  · rename_i hdue
    obtain ⟨answer, huninterrupted, hstate⟩ := Option.map_eq_some_iff.mp h
    have hanswer : source.readvAnswer answers = some answer := (if_neg hdue).trans huninterrupted
    split at hstate
    all_goals obtain ⟨rfl, -, -⟩ := by simpa only [Prod.mk.injEq] using hstate
    · exact .kept (by simp [Unsupported, hanswer]) (by simp [Refused, hanswer]) rfl
    · exact .kept (by simp [Unsupported, hanswer]) (by simp [Refused, hanswer]) rfl
    · exact .unsupported hanswer rfl
    · exact .refused (Or.inl hanswer) rfl
    · exact .refused (Or.inr hanswer) rfl
    · exact .kept (by simp [Unsupported, hanswer]) (by simp [Refused, hanswer]) rfl

/-- The end of a read leaves the source as it is. -/
theorem conclude_source {result : VhalResult}
    (h : source.conclude answers canIds frames result = .ok (some out)) : out.source = source := by
  rcases conclude_cases h with ⟨-, rfl⟩ | rfl
  · rfl
  · rfl

/-- The time of the next vectored read is set by the vectored read only. -/
theorem read_retry (h : source.read answers canIds frames = .ok (some out)) :
    source.RetryCase answers out.source.vmReadvRetryNs := by
  unfold read at h
  cases hvectored : source.readVectored answers (source.prepare canIds frames) with
  | none =>
    rw [hvectored] at h
    cases h
  | some state =>
    obtain ⟨source', frames', attempt⟩ := state
    have hretry := readVectored_retry hvectored
    rw [hvectored] at h
    cases attempt with
    | complete =>
      rw [conclude_source h]
      exact hretry
    | gone =>
      obtain rfl := Option.some.inj (Except.ok.inj h)
      exact hretry
    | incomplete =>
      change readFallback _ _ _ _ = _ at h
      unfold readFallback at h
      dsimp only at h
      split at h
      · obtain rfl := Option.some.inj (Except.ok.inj h)
        exact hretry
      · split at h
        · cases h
        · rw [conclude_source h]
          exact hretry

/-- As long as the clock does not go back and stays 30 s below the end of its range: a read of an
open source skips `process_vm_readv` exactly if an earlier call found that the kernel does not have
it, or was refused less than 30 s ago. -/
theorem run_readv_skipped_iff {opening : OpenAnswers frameCount} {identityFd : ℕ}
    (hopen : openSource canIds opening identityFd = .ok (some source))
    {events : List (UInt64 × Option (Except ReadvError (List UInt8)))}
    (hrun : source.Run canIds events current) {nowNs : UInt64}
    (hnow : ∀ event ∈ events, event.1.toNat ≤ nowNs.toNat)
    (hrange : nowNs.toNat + vmReadvRetryDelayNs.toNat < 2 ^ 64) :
    nowNs < current.vmReadvRetryNs ↔ ∃ event ∈ events, Unsupported event.2 ∨
      (Refused event.2 ∧ nowNs.toNat < event.1.toNat + vmReadvRetryDelayNs.toNat) := by
  induction hrun generalizing nowNs with
  | init =>
    rw [(openSource_ok hopen).2]
    simp
  | @read events current hrun answers frames out hread ih =>
    have hlater : answers.nowNs.toNat ≤ nowNs.toNat :=
      hnow (answers.nowNs, current.readvAnswer answers) (by simp)
    have hpast : ∀ event ∈ events, event.1.toNat ≤ nowNs.toNat := fun event hevent =>
      hnow event (List.mem_append_left _ hevent)
    simp only [List.mem_append, List.mem_singleton, or_and_right, exists_or, exists_eq_left]
    rw [← ih hpast hrange]
    cases read_retry hread with
    | unsupported hanswer hretry =>
      have hnever : nowNs < vmReadvNever := by
        rw [UInt64.lt_iff_toNat_lt, show vmReadvNever.toNat = 2 ^ 64 - 1 from rfl]
        have hdelay : 0 < vmReadvRetryDelayNs.toNat := by decide
        omega
      rw [hretry]
      exact iff_of_true hnever (Or.inr (Or.inl hanswer))
    | refused hanswer hretry =>
      -- the call was due, so it is due now as far as the earlier reads go
      have hdue : ¬ answers.nowNs < current.vmReadvRetryNs := by
        intro hearly
        rw [readvAnswer, if_pos hearly] at hanswer
        simp [Refused] at hanswer
      have hstill : ¬ nowNs < current.vmReadvRetryNs := by
        rw [UInt64.lt_iff_toNat_lt] at hdue ⊢
        omega
      have hsupported : ¬ Unsupported (current.readvAnswer answers) := by
        rcases hanswer with hanswer | hanswer
        · simp [Unsupported, hanswer]
        · simp [Unsupported, hanswer]
      have hsum : (answers.nowNs + vmReadvRetryDelayNs).toNat =
          answers.nowNs.toNat + vmReadvRetryDelayNs.toNat := by
        rw [UInt64.toNat_add]
        exact Nat.mod_eq_of_lt (by omega)
      rw [hretry, UInt64.lt_iff_toNat_lt, hsum]
      simp [hstill, hsupported, hanswer]
    | kept hsupported hallowed hretry =>
      rw [hretry]
      simp [hsupported, hallowed]

end OpenSource

section Sample

/-- An executable at page 0x1000 that is loaded at 0x5551000, with the frame at 0x5554000. -/
def sampleOpening : OpenAnswers singleCatalog.frameCount :=
  { sampleAnswers 0 0x1000 0x4000 ⟨0x5551000, 0, [0x2F, 0x78]⟩ [] with
    startTime := some 42
    identity := some 42 }

/-- The source that is opened there. -/
def sampleOpened : OpenSource singleCatalog.frameCount :=
  { pid := 1
    memory := none
    startTimeTicks := 42
    addresses := fun _ => 0x5554000
    remote := [0x5554000]
    resolvedCount := 1
    identityFd := 3
    vmReadvRetryNs := 0
    paired := by decide }

/-- Open with the catalog of one frame: the address of the frame, and the remote addresses. -/
def openSingle (answers : OpenAnswers singleCatalog.frameCount) :
    Except Fault (Option (UInt64 × List UInt64 × ℕ)) :=
  (vhalOpen singleCatalog.canIds answers).map fun found => found.map fun source =>
    (source.addresses singleFrame, source.remote, source.resolvedCount)

/-- The sample executable is opened. -/
theorem openSource_sampleOpening :
    openSource singleCatalog.canIds sampleOpening 3 = .ok (some sampleOpened) := by
  have hfields : openSingle sampleOpening = .ok (some (0x5554000, [0x5554000], 1)) := by
    simp only [openSingle, vhalOpen, vhalLocate, resolveSymbols, findLoad, findTables, findSymbols,
      findSection, Counted.forLoop_eq_rounds]
    decide +kernel
  obtain ⟨found, hopen, hfound⟩ := exists_of_map hfields
  obtain ⟨source, rfl, hsource⟩ := Option.map_eq_some_iff.mp hfound
  have hsame : source = sampleOpened.toVhalSource := by
    obtain ⟨located, hlocate, rfl⟩ := vhalOpen_located hopen
    obtain ⟨hpid, hticks⟩ := vhalLocate_identity hlocate
    obtain ⟨haddress, hremote, hcount⟩ : located.source.addresses singleFrame = 0x5554000 ∧
        located.source.remote = [0x5554000] ∧ located.source.resolvedCount = 1 := by
      simpa using hsource
    have haddresses : located.source.addresses = fun _ => 0x5554000 := by
      funext i
      rw [← haddress, show i = singleFrame from Fin.ext (Nat.lt_one_iff.mp i.isLt)]
    dsimp only
    rw [(source_identity located).1, (source_identity located).2, hremote, hcount, haddresses,
      ← Option.some.inj hpid, ← Option.some.inj hticks]
    rfl
  subst hsame
  unfold openSource
  split
  · rename_i fault hfault
    exact absurd (hfault.symm.trans hopen) (by simp)
  · rename_i hnone
    exact absurd (hnone.symm.trans hopen) (by simp)
  · rename_i other hother
    obtain rfl := Option.some.inj (Except.ok.inj (hother.symm.trans hopen))
    rfl

/-- The first call opens the source and reads its frame at once. -/
def sampleCall : LiveCall singleCatalog :=
  { nowNs := 5
    opening := sampleOpening
    identityFd := 3
    reading :=
      { nowNs := 5
        readv := [.returned [0, 1, 2, 3, 4, 5, 6, 7]]
        memory := none
        preads := fun _ => []
        stack := OpenSource.sampleReading.stack
        identity := OpenSource.sampleReading.identity } }

/-- The first call opens the source and reads it. -/
theorem read_sampleCall : ∃ outcome, LiveSession.init.read sampleCall LiveSession.zeroFrames =
    .ok (some outcome) ∧ outcome.result = .vectored ∧ outcome.session.generation = 1 := by
  have hresult : ((LiveSession.init.opened sampleOpened).readOpen sampleOpened sampleCall
      markUnavailable).map (Option.map fun outcome => (outcome.result, outcome.session.generation)) =
        .ok (some (.vectored, 1)) := by
    decide +kernel
  obtain ⟨found, hread, hfound⟩ := exists_of_map hresult
  obtain ⟨outcome, rfl, hfields⟩ := Option.map_eq_some_iff.mp hfound
  refine ⟨outcome, ?_, (Prod.mk.inj hfields).1, (Prod.mk.inj hfields).2⟩
  have hopen : openSource singleCatalog.canIds sampleCall.opening sampleCall.identityFd =
      .ok (some sampleOpened) := by
    simp only [sampleCall]
    exact openSource_sampleOpening
  rw [← hread]
  exact LiveSession.read_of_opened rfl (by decide) hopen _

/-- The run of this call is one of the abstract session. -/
theorem liveRun_refines_opened :
    ∃ outcome, LiveRun [(.init, sampleCall)] outcome.session [outcome] ∧
      outcome.result = .vectored ∧
      (runReads [LiveSession.init.sessionRead sampleCall]).1 = outcome.session.words := by
  obtain ⟨outcome, hread, hresult, -⟩ := read_sampleCall
  have hrun : LiveRun [(.init, sampleCall)] outcome.session [outcome] := .read .init hread
  exact ⟨outcome, hrun, hresult, (liveRun_refines hrun).2.1⟩

/-- The kernel refuses the vectored read of an open source. -/
def refusedReading : ReadAnswers singleCatalog.frameCount :=
  { sampleCall.reading with
    readv := [.failed .eperm]
    memory := some 4
    preads := fun _ => [.returned [0, 1, 2, 3, 4, 5, 6, 7]] }

/-- A second later it is not tried again. -/
theorem run_readv_skipped_refused : ∃ current : OpenSource singleCatalog.frameCount,
    sampleOpened.Run singleCatalog.canIds [(5, some (.error .eperm))] current ∧
      1000000005 < current.vmReadvRetryNs := by
  have hresult : (sampleOpened.read refusedReading singleCatalog.canIds LiveSession.zeroFrames).map
      (Option.map VhalRead.result) = .ok (some .fallback) := by
    decide +kernel
  obtain ⟨found, hread, hfound⟩ := exists_of_map hresult
  obtain ⟨out, rfl, -⟩ := Option.map_eq_some_iff.mp hfound
  have hrun : sampleOpened.Run singleCatalog.canIds [(5, some (.error .eperm))] out.source :=
    .read .init hread
  refine ⟨out.source, hrun, ?_⟩
  exact (OpenSource.run_readv_skipped_iff openSource_sampleOpening hrun (by decide) (by decide)).mpr
    ⟨_, List.mem_singleton_self _, Or.inr ⟨Or.inl rfl, by decide⟩⟩

end Sample

end Roadcast
