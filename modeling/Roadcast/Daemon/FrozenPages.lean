import Roadcast.Daemon.Sound
import Roadcast.Daemon.Waiting

/-!
# Snapshot pages are frozen

The pages that a session is sent from one `begin_snapshot` on are cut from the copy that it froze,
although `begin_catchup_round` overwrites that copy. The history of a session tells what was frozen
and what was queued since; `Paged` says how the pages in it and the session's fields go together.
-/

namespace Roadcast

open SlotPool Relation Runs

variable {cat : Catalog} {config : Config cat} {canonical : Canonical cat} {env : Env cat}

/-- What was frozen last, and the messages queued since. -/
def noteEntry (history : Option (Canonical cat × List Message)) :
    LogEntry cat → Option (Canonical cat × List Message)
  | .snapshotBegun frozen => some (frozen, [])
  | .queued message _ => history.map fun past => (past.1, past.2 ++ [message])
  | .dropped _ => history
  | .roundBegun _ _ => history

/-- The last frozen snapshot of a session and the messages queued since. -/
def snapshotHistory (log : List (LogEntry cat)) : Option (Canonical cat × List Message) :=
  log.foldl noteEntry none

/-- The history of snapshots, one entry at a time. -/
@[simp] theorem snapshotHistory_append_singleton (log : List (LogEntry cat)) (entry : LogEntry cat) :
    snapshotHistory (log ++ [entry]) = noteEntry (snapshotHistory log) entry := by
  simp [snapshotHistory]

/-- The messages of one type. -/
def ofType (type : MessageType) (messages : List Message) : List Message :=
  messages.filter fun message => message.header.type = type.code

/-- Pages of one sample that carry a list of records, in order. -/
def PagesDeliver {A : Type*} (decode : List UInt8 → Option (Batch A)) (sampleSequence : UInt64)
    (messages : List Message) (records : List A) : Prop :=
  ∃ pages : List (Batch A), messages.map (fun message => decode message.payload) = pages.map some ∧
    (∀ page ∈ pages, page.sampleSequence = sampleSequence) ∧ pages.flatMap Batch.records = records

/-- Pages carry one list of records only. -/
theorem PagesDeliver.unique {A : Type*} {decode : List UInt8 → Option (Batch A)}
    {sampleSequence : UInt64} {messages : List Message} {records records' : List A}
    (h : PagesDeliver decode sampleSequence messages records)
    (h' : PagesDeliver decode sampleSequence messages records') : records = records' := by
  obtain ⟨pages, hpages, -, rfl⟩ := h
  obtain ⟨pages', hpages', -, rfl⟩ := h'
  rw [List.map_injective_iff.mpr (Option.some_injective _) (hpages.symm.trans hpages')]

/-- A further page adds its records to those of the pages before it. -/
theorem PagesDeliver.append {A : Type*} {decode : List UInt8 → Option (Batch A)}
    {sampleSequence : UInt64} {messages : List Message} {records : List A}
    (h : PagesDeliver decode sampleSequence messages records) (message : Message) (page : Batch A)
    (hdecode : decode message.payload = some page) (hsequence : page.sampleSequence = sampleSequence) :
    PagesDeliver decode sampleSequence (messages ++ [message]) (records ++ page.records) := by
  obtain ⟨pages, hpages, hsequences, hrecords⟩ := h
  refine ⟨pages ++ [page], ?_, ?_, ?_⟩
  · simp [hpages, hdecode]
  · intro other hother
    rcases List.mem_append.mp hother with hold | hnew
    · exact hsequences other hold
    · rw [List.mem_singleton.mp hnew]
      exact hsequence
  · simp [hrecords]

/-- The frames of the pages sent up to an index. -/
def framesBelow (frozen : Canonical cat) (n : ℕ) : List Frame :=
  ((List.finRange cat.frameCount).take n).map frozen.frames

/-- The signals of the pages sent up to an index. -/
def signalsBelow (frozen : Canonical cat) (n : ℕ) : List SignalUpdate :=
  ((List.finRange cat.signalCount).take n).map (signalUpdate frozen.signals)

/-- The session's copy is what was frozen. -/
structure CopyOf (frozen : Canonical cat) (client : Client cat) : Prop where
  frames : client.snapshotFrames = frozen.frames
  signals : client.snapshotSignals = frozen.signals
  sampleSequence : client.snapshotSampleSequence = frozen.sampleSequence
  changeSequence : client.snapshotChangeSequence = frozen.changeSequence
  timestampNs : client.snapshotTimestampNs = frozen.sampleTimestampNs

/-- The message is a page of frames or of signals. -/
def IsPage (message : Message) : Prop :=
  message.header.type = MessageType.snapshot.code ∨
    message.header.type = MessageType.signalSnapshotChunk.code

/-- A page carries the sequence and the timestamp of the frozen state. -/
def StampedBy (frozen : Canonical cat) (message : Message) : Prop :=
  message.header.sequence = frozen.changeSequence ∧
    message.header.timestampNs = frozen.sampleTimestampNs

/-- The pages among the queued messages are those of the frozen state, as far as the session has
advanced. -/
structure PagesSent (frozen : Canonical cat) (sent : List Message) (client : Client cat) : Prop where
  frames : PagesDeliver (fun payload => decodeFrameBatch payload framesPerMessage)
    frozen.sampleSequence (ofType .snapshot sent) (framesBelow frozen client.snapshotNextFrameIndex)
  signals : PagesDeliver (fun payload => decodeSignalBatch payload signalsPerMessage)
    frozen.sampleSequence (ofType .signalSnapshotChunk sent)
    (signalsBelow frozen client.snapshotNextIndex)
  stamps : ∀ message ∈ sent, IsPage message → StampedBy frozen message
  framesComplete : client.snapshotFramesComplete = true →
    client.snapshotNextFrameIndex = cat.frameCount
  complete : client.snapshotComplete = true →
    client.snapshotNextFrameIndex = cat.frameCount ∧ client.snapshotNextIndex = cat.signalCount
  bounded : client.snapshotNextIndex ≤ cat.signalCount
  ended : client.snapshotActive = false ↔ client.snapshotNextIndex = cat.signalCount

/-- The fields of a session that its pages depend on. -/
def Client.pageView (client : Client cat) :=
  (client.snapshotActive, client.snapshotNextFrameIndex, client.snapshotNextIndex,
    client.snapshotFramesComplete, client.snapshotComplete, client.snapshotFrames,
    client.snapshotSignals, client.snapshotSampleSequence, client.snapshotChangeSequence,
    client.snapshotTimestampNs)

/-- The pages depend on how far the session has advanced only. -/
theorem PagesSent.congr {frozen : Canonical cat} {sent : List Message} {client client' : Client cat}
    (h : PagesSent frozen sent client)
    (hframe : client'.snapshotNextFrameIndex = client.snapshotNextFrameIndex)
    (hsignal : client'.snapshotNextIndex = client.snapshotNextIndex)
    (hframes : client'.snapshotFramesComplete = client.snapshotFramesComplete)
    (hcomplete : client'.snapshotComplete = client.snapshotComplete)
    (hsnapshot : client'.snapshotActive = client.snapshotActive) :
    PagesSent frozen sent client' := by
  refine ⟨?_, ?_, h.stamps, ?_, ?_, hsignal.trans_le h.bounded, ?_⟩
  · rw [hframe]
    exact h.frames
  · rw [hsignal]
    exact h.signals
  · rw [hframe, hframes]
    exact h.framesComplete
  · rw [hframe, hsignal, hcomplete]
    exact h.complete
  · rw [hsignal, hsnapshot]
    exact h.ended

/-- How the last snapshot in a history and the fields of the session go together. -/
def PagedBy (client : Client cat) : Option (Canonical cat × List Message) → Prop
  | none => client.snapshotActive = false ∧ client.snapshotComplete = false
  | some (frozen, sent) => frozen.Sound ∧ PagesSent frozen sent client ∧
      (client.active = true → client.snapshotActive = true → CopyOf frozen client)

/-- What the history of a session says about its pages. -/
def Paged (client : Client cat) : Prop :=
  PagedBy client (snapshotHistory client.log)

/-- A page continues what was taken before it. -/
theorem take_append_page {A : Type*} (l : List A) (n size : ℕ) :
    l.take n ++ (l.drop n).take size = l.take (n + ((l.drop n).take size).length) := by
  rw [List.take_add]
  congr 1
  rw [List.length_take]
  rcases Nat.le_total size (l.drop n).length with hle | hle
  · rw [Nat.min_eq_left hle]
  · rw [Nat.min_eq_right hle, List.take_of_length_le hle, List.take_length]

/-- A frame page continues the frames that were sent. -/
theorem framesBelow_append_page (frozen : Canonical cat) (n : ℕ) :
    framesBelow frozen n ++ (framePageIndices cat n).map frozen.frames =
      framesBelow frozen (n + (framePageIndices cat n).length) := by
  rw [framesBelow, ← List.map_append, framePageIndices, take_append_page]
  rfl

/-- A signal page continues the signals that were sent. -/
theorem signalsBelow_append_page (frozen : Canonical cat) (n : ℕ) :
    signalsBelow frozen n ++ (signalPageIndices cat n).map (signalUpdate frozen.signals) =
      signalsBelow frozen (n + (signalPageIndices cat n).length) := by
  rw [signalsBelow, ← List.map_append, signalPageIndices, take_append_page]
  rfl

section History

variable {frozen : Canonical cat} {sent : List Message}

/-- The messages of one type, one message at a time. -/
theorem ofType_append_outgoing (wanted type : MessageType) (messages : List Message)
    (sequence timestampNs : UInt64) (payload : List UInt8) :
    ofType wanted (messages ++ [outgoing type sequence timestampNs payload]) =
      ofType wanted messages ++
        if type = wanted then [outgoing type sequence timestampNs payload] else [] := by
  rw [ofType, List.filter_append]
  congr 1
  by_cases htype : type = wanted
  · simp [htype, outgoing]
  · simp [htype, outgoing]

/-- A message that is no page leaves the pages alone. -/
theorem PagesSent.other {client : Client cat} {type : MessageType} (h : PagesSent frozen sent client)
    (htype : type ≠ .snapshot ∧ type ≠ .signalSnapshotChunk) (sequence timestampNs : UInt64)
    (payload : List UInt8) :
    PagesSent frozen (sent ++ [outgoing type sequence timestampNs payload]) client := by
  have hframes := ofType_append_outgoing .snapshot type sent sequence timestampNs payload
  have hsignals := ofType_append_outgoing .signalSnapshotChunk type sent sequence timestampNs payload
  rw [if_neg htype.1, List.append_nil] at hframes
  rw [if_neg htype.2, List.append_nil] at hsignals
  refine ⟨?_, ?_, fun message hmessage hpage => ?_, h.framesComplete, h.complete, h.bounded, h.ended⟩
  · rw [hframes]
    exact h.frames
  · rw [hsignals]
    exact h.signals
  · rcases List.mem_append.mp hmessage with hold | hnew
    · exact h.stamps message hold hpage
    · rw [List.mem_singleton.mp hnew] at hpage
      simp only [IsPage, outgoing, MessageType.code_inj] at hpage
      exact absurd hpage (not_or.mpr htype)

/-- A page that carries the stamps of the copy keeps the pages stamped. -/
theorem PagesSent.stamps_append {client : Client cat} {type : MessageType} {payload : List UInt8}
    (h : PagesSent frozen sent client) (hcopy : CopyOf frozen client) :
    ∀ message ∈ sent ++ [outgoing type client.snapshotChangeSequence client.snapshotTimestampNs
      payload], IsPage message → StampedBy frozen message := by
  intro message hmessage hpage
  rcases List.mem_append.mp hmessage with hold | hnew
  · exact h.stamps message hold hpage
  · rw [List.mem_singleton.mp hnew]
    exact ⟨hcopy.changeSequence, hcopy.timestampNs⟩

/-- A frame page extends the pages. -/
theorem PagesSent.framePage {client : Client cat} {startIndex : UInt32} {payload : List UInt8}
    (h : PagesSent frozen sent client) (hsound : frozen.Sound) (hcopy : CopyOf frozen client)
    (hnext : startIndex.toNat = client.snapshotNextFrameIndex)
    (hlt : startIndex.toNat < cat.frameCount) (hframes : client.snapshotFramesComplete = false)
    (hcomplete : client.snapshotComplete = false)
    (hpayload : framePagePayload client startIndex = some payload) :
    PagesSent frozen (sent ++ [outgoing .snapshot client.snapshotChangeSequence
      client.snapshotTimestampNs payload])
      (client.advanceFrames (framePageIndices cat startIndex.toNat).length) := by
  have hdecode : decodeFrameBatch payload framesPerMessage = some ⟨frozen.sampleSequence,
      cat.frameCountWord, startIndex,
      (framePageIndices cat startIndex.toNat).map frozen.frames⟩ := by
    unfold framePagePayload at hpayload
    rw [hcopy.frames, hcopy.sampleSequence] at hpayload
    refine decodeFrameBatch_of_indices framesPerMessage hsound.frames hpayload ?_ ?_
    · exact List.length_take_le _ _
    · exact startIndexAllowed_page cat.frameCount _ _ _ cat.frameCountWord_toNat hlt.le
  refine ⟨?_, ?_, h.stamps_append hcopy, fun hnow => ?_, fun hnot => ?_, h.bounded, h.ended⟩
  · have hpages := h.frames.append (outgoing .snapshot client.snapshotChangeSequence
      client.snapshotTimestampNs payload) _ hdecode rfl
    rw [← hnext, framesBelow_append_page, hnext] at hpages
    rw [ofType_append_outgoing, if_pos rfl]
    rw [hnext]
    exact hpages
  · rw [ofType_append_outgoing, if_neg (by simp), List.append_nil]
    exact h.signals
  · simp only [Client.advanceFrames, hframes, Bool.false_or, decide_eq_true_eq] at hnow
    exact hnow
  · exact absurd (hcomplete.symm.trans hnot) (by simp)

/-- A signal page extends the pages. -/
theorem PagesSent.signalPage {client : Client cat} {startIndex : UInt32} {payload : List UInt8}
    (h : PagesSent frozen sent client) (hsound : frozen.Sound) (hcopy : CopyOf frozen client)
    (hnext : startIndex.toNat = client.snapshotNextIndex)
    (hlt : startIndex.toNat < cat.signalCount) (hsnapshot : client.snapshotActive = true)
    (hframes : client.snapshotFramesComplete = true) (hcomplete : client.snapshotComplete = false)
    (hpayload : signalPagePayload client startIndex = some payload) :
    PagesSent frozen (sent ++ [outgoing .signalSnapshotChunk client.snapshotChangeSequence
      client.snapshotTimestampNs payload])
      (client.advanceSignals (signalPageIndices cat startIndex.toNat).length) := by
  have hdecode : decodeSignalBatch payload signalsPerMessage = some ⟨frozen.sampleSequence,
      cat.signalCountWord, startIndex,
      (signalPageIndices cat startIndex.toNat).map (signalUpdate frozen.signals)⟩ := by
    unfold signalPagePayload at hpayload
    rw [hcopy.signals, hcopy.sampleSequence] at hpayload
    refine decodeSignalBatch_of_indices signalsPerMessage hsound.signals hpayload ?_ ?_
    · exact List.length_take_le _ _
    · exact startIndexAllowed_page cat.signalCount _ _ _ cat.signalCountWord_toNat hlt.le
  refine ⟨?_, ?_, h.stamps_append hcopy, h.framesComplete, fun hnow => ?_, ?_, ?_⟩
  · rw [ofType_append_outgoing, if_neg (by simp), List.append_nil]
    exact h.frames
  · have hpages := h.signals.append (outgoing .signalSnapshotChunk client.snapshotChangeSequence
      client.snapshotTimestampNs payload) _ hdecode rfl
    rw [← hnext, signalsBelow_append_page, hnext] at hpages
    rw [ofType_append_outgoing, if_pos rfl]
    rw [hnext]
    exact hpages
  · simp only [Client.advanceSignals, hcomplete, Bool.false_or, decide_eq_true_eq] at hnow
    exact ⟨h.framesComplete hframes, hnow⟩
  · rw [Client.advanceSignals, ← hnext]
    exact signalPage_within hlt.le
  · simp [Client.advanceSignals, hsnapshot]

/-- A snapshot that has just begun has sent nothing. -/
theorem PagesSent.begun (canonical : Canonical cat) (env : Env cat) (client : Client cat) :
    PagesSent canonical [] (beginSnapshot canonical env client) :=
  ⟨⟨[], rfl, nofun, rfl⟩, ⟨[], rfl, nofun, rfl⟩, nofun, nofun, nofun, Nat.zero_le _,
    iff_of_false nofun cat.signalCount_pos.ne⟩

end History

namespace Paged

/-- A snapshot in progress has a frozen state. -/
theorem frozen {client : Client cat} (h : Paged client) (hactive : client.active = true)
    (hsnapshot : client.snapshotActive = true) :
    ∃ frozen sent, snapshotHistory client.log = some (frozen, sent) ∧ frozen.Sound ∧
      PagesSent frozen sent client ∧ CopyOf frozen client := by
  unfold Paged at h
  cases hhistory : snapshotHistory client.log with
  | none =>
    rw [hhistory] at h
    exact absurd (h.1.symm.trans hsnapshot) (by simp)
  | some past =>
    rw [hhistory] at h
    exact ⟨past.1, past.2, rfl, h.1, h.2.1, h.2.2 hactive hsnapshot⟩

/-- A complete snapshot was frozen and sent as a whole. -/
theorem complete {client : Client cat} (h : Paged client) (hcomplete : client.snapshotComplete = true) :
    (snapshotHistory client.log).isSome = true ∧
      client.snapshotNextFrameIndex = cat.frameCount ∧ client.snapshotNextIndex = cat.signalCount := by
  unfold Paged at h
  cases hhistory : snapshotHistory client.log with
  | none =>
    rw [hhistory] at h
    exact absurd (h.2.symm.trans hcomplete) (by simp)
  | some past =>
    rw [hhistory] at h
    exact ⟨rfl, h.2.1.complete hcomplete⟩

/-- A message that is no page leaves the pages alone. -/
theorem pushed {type : MessageType} {sequence timestampNs : UInt64} {payload : List UInt8}
    {client client' : Client cat} (h : Paged client)
    (hpush : Pushes config canonical (outgoing type sequence timestampNs payload) client client')
    (htype : type ≠ .snapshot ∧ type ≠ .signalSnapshotChunk) : Paged client' := by
  obtain ⟨slot, -, -, rfl⟩ := hpush.takes
  unfold Paged at h ⊢
  simp only [Client.record, Client.fill, snapshotHistory_append_singleton]
  cases hhistory : snapshotHistory client.log with
  | none =>
    rw [hhistory] at h
    exact h
  | some past =>
    rw [hhistory] at h
    refine ⟨h.1, ?_, fun hactive hsnapshot => ?_⟩
    · exact (h.2.1.other htype sequence timestampNs payload).congr rfl rfl rfl rfl rfl
    · have hcopy := h.2.2 hactive hsnapshot
      exact ⟨hcopy.frames, hcopy.signals, hcopy.sampleSequence, hcopy.changeSequence,
        hcopy.timestampNs⟩

/-- A new snapshot freezes the canonical state and has sent no page of it. -/
theorem begun (hsound : canonical.Sound) (client : Client cat) :
    Paged (beginSnapshot canonical env client) := by
  unfold Paged
  simp only [beginSnapshot, snapshotHistory_append_singleton]
  exact ⟨hsound, PagesSent.begun canonical env client, fun _ _ => ⟨rfl, rfl, rfl, rfl, rfl⟩⟩

/-- A queued frame page is cut from the frozen state. -/
theorem framePage {startIndex : UInt32} {payload : List UInt8} {client queued : Client cat}
    (h : Paged client) (hflags : SessionFlags client)
    (hpayload : framePagePayload client startIndex = some payload)
    (hpush : Pushes config canonical (outgoing .snapshot client.snapshotChangeSequence
      client.snapshotTimestampNs payload) client queued)
    (hsnapshot : client.snapshotActive = true) (hframes : client.snapshotFramesComplete = false)
    (hnext : startIndex.toNat = client.snapshotNextFrameIndex)
    (hlt : startIndex.toNat < cat.frameCount) :
    Paged (queued.advanceFrames (framePageIndices cat startIndex.toNat).length) := by
  obtain ⟨frozen, sent, hhistory, hsound, hsent, hcopy⟩ := h.frozen hpush.active hsnapshot
  have hcomplete := hflags.incomplete hsnapshot
  have hpages := hsent.framePage hsound hcopy hnext hlt hframes hcomplete hpayload
  obtain ⟨slot, -, -, rfl⟩ := hpush.takes
  unfold Paged
  simp only [Client.record, Client.fill, Client.advanceFrames, snapshotHistory_append_singleton,
    hhistory]
  refine ⟨hsound, hpages.congr rfl rfl rfl rfl rfl, fun _ _ => ?_⟩
  exact ⟨hcopy.frames, hcopy.signals, hcopy.sampleSequence, hcopy.changeSequence, hcopy.timestampNs⟩

/-- A queued signal page is cut from the frozen state. -/
theorem signalPage {startIndex : UInt32} {payload : List UInt8} {client queued : Client cat}
    (h : Paged client) (hflags : SessionFlags client)
    (hpayload : signalPagePayload client startIndex = some payload)
    (hpush : Pushes config canonical (outgoing .signalSnapshotChunk client.snapshotChangeSequence
      client.snapshotTimestampNs payload) client queued)
    (hsnapshot : client.snapshotActive = true) (hframes : client.snapshotFramesComplete = true)
    (hnext : startIndex.toNat = client.snapshotNextIndex)
    (hlt : startIndex.toNat < cat.signalCount) :
    Paged (queued.advanceSignals (signalPageIndices cat startIndex.toNat).length) := by
  obtain ⟨frozen, sent, hhistory, hsound, hsent, hcopy⟩ := h.frozen hpush.active hsnapshot
  have hcomplete := hflags.incomplete hsnapshot
  have hpages := hsent.signalPage hsound hcopy hnext hlt hsnapshot hframes hcomplete hpayload
  obtain ⟨slot, -, -, rfl⟩ := hpush.takes
  unfold Paged
  simp only [Client.record, Client.fill, Client.advanceSignals, snapshotHistory_append_singleton,
    hhistory]
  refine ⟨hsound, hpages.congr rfl rfl rfl rfl rfl, fun _ _ => ?_⟩
  exact ⟨hcopy.frames, hcopy.signals, hcopy.sampleSequence, hcopy.changeSequence, hcopy.timestampNs⟩

/-- Outside a snapshot the copy may be overwritten. -/
theorem rounded {client : Client cat} (h : Paged client)
    (hsnapshot : client.active = true → client.snapshotActive = false) :
    Paged (beginCatchupRound canonical client) := by
  unfold Paged at h ⊢
  simp only [beginCatchupRound, snapshotHistory_append_singleton]
  cases hhistory : snapshotHistory client.log with
  | none =>
    rw [hhistory] at h
    exact h
  | some past =>
    rw [hhistory] at h
    refine ⟨h.1, h.2.1.congr rfl rfl rfl rfl rfl, fun hactive hnot => ?_⟩
    exact absurd ((hsnapshot hactive).symm.trans hnot) (by simp)

/-- Only the history and the fields of the snapshot matter. -/
theorem of_same {client client' : Client cat} (h : Paged client)
    (hhistory : snapshotHistory client'.log = snapshotHistory client.log)
    (hview : client'.pageView = client.pageView)
    (hactive : client'.active = true → client.active = true) : Paged client' := by
  simp only [Client.pageView, Prod.mk.injEq] at hview
  obtain ⟨hsnapshot, hframe, hsignal, hframes, hcomplete, hcopies⟩ := hview
  unfold Paged at h ⊢
  rw [hhistory]
  cases hpast : snapshotHistory client.log with
  | none =>
    rw [hpast] at h
    exact ⟨hsnapshot.trans h.1, hcomplete.trans h.2⟩
  | some past =>
    rw [hpast] at h
    refine ⟨h.1, h.2.1.congr hframe hsignal hframes hcomplete hsnapshot, fun hactive' hsnapshot' => ?_⟩
    have hcopy := h.2.2 (hactive hactive') (hsnapshot.symm.trans hsnapshot')
    exact ⟨hcopies.1.trans hcopy.frames, hcopies.2.1.trans hcopy.signals,
      hcopies.2.2.1.trans hcopy.sampleSequence, hcopies.2.2.2.1.trans hcopy.changeSequence,
      hcopies.2.2.2.2.trans hcopy.timestampNs⟩

/-- Closing a session leaves its pages alone. -/
theorem closed {client : Client cat} (h : Paged client) : Paged (clientClose client) := by
  unfold clientClose
  split
  · exact h
  · exact h.of_same rfl rfl nofun

/-- A refused message leaves the pages alone. -/
theorem refused {client failed : Client cat} (h : Paged client)
    (hrefused : Refused config client failed) : Paged failed := by
  cases hrefused with
  | unchanged => exact h
  | scrubbed slot hfree => exact h.of_same rfl rfl id

/-- An overflow leaves the pages alone. -/
theorem overflowed {type : MessageType} {client client' : Client cat} (h : Paged client)
    (hoverflow : Overflows config env type client client') : Paged client' := by
  rw [hoverflow.eq]
  refine h.of_same ?_ rfl id
  rw [Client.overflow, snapshotHistory_append_singleton]
  rfl

/-- A move of a catch-up overwrites the copy only while no snapshot is in progress. -/
theorem moved {client client' : Client cat} (hmove : DriveMove config canonical env client client')
    (hdriven : client.active = true → Driven client) (h : Paged client) : Paged client' := by
  have hexclusive : driveGuard config env client = true →
      client.active = true → client.snapshotActive = false := by
    intro hguard hactive
    exact (hdriven hactive).exclusive (driveGuard_catchupActive hguard)
  cases hmove with
  | noted waiting reported => exact h.of_same rfl rfl id
  | frames payload queued hguard hunsent hpayload hpush =>
    have hqueued := h.pushed hpush ⟨nofun, nofun⟩
    exact hqueued.of_same rfl rfl id
  | signals payload queued hguard hframes hunsent hpayload hpush =>
    have hqueued := h.pushed hpush ⟨nofun, nofun⟩
    exact hqueued.of_same rfl rfl id
  | round hguard hframes hsignals hdiffers =>
    exact h.rounded (hexclusive hguard)
  | finish queued hguard hframes hsignals hsameFrames hsameSignals hpush =>
    have hround : Paged (beginCatchupRound canonical client) := h.rounded (hexclusive hguard)
    have hqueued := hround.pushed hpush ⟨nofun, nofun⟩
    exact hqueued.of_same rfl rfl id

/-- A whole drive leaves the pages alone. -/
theorem drive {client client' : Client cat}
    (hmoves : ReflTransGen (DriveMove config canonical env) client client')
    (hdriven : client.active = true → Driven client) (h : Paged client) : Paged client' := by
  refine (drive_induction (P := fun c => (c.active = true → Driven c) ∧ Paged c) ?_ hmoves
    ⟨hdriven, h⟩).2
  rintro c c' hmove ⟨hc, hpaged⟩
  refine ⟨fun hactive => (hc ?_).moved hmove, moved hmove hc hpaged⟩
  rw [← drive_active (.single hmove)]
  exact hactive

/-- A drive that fails leaves the pages alone. -/
theorem driveFailed {client failed : Client cat} (hdriven : client.active = true → Driven client)
    (hfailure : DriveFailure config canonical env client failed) (h : Paged client) :
    Paged failed := by
  cases hfailure with
  | batch hguard hrefused => exact h.refused hrefused
  | finish hguard hframes hsignals hrefused =>
    refine refused (h.rounded fun hactive => ?_) hrefused
    exact (hdriven hactive).exclusive (driveGuard_catchupActive hguard)

/-- The note that a catch-up waits leaves the pages alone. -/
theorem waited {client : Client cat} (h : Paged client) : Paged (noteWaiting config env client) := by
  unfold noteWaiting
  split
  · exact h.of_same rfl rfl id
  · exact h

/-- `RESYNC_REQUIRED` is no page. -/
theorem resynced {client client' : Client cat} (h : Paged client)
    (hstep : ResyncStep config canonical client client') : Paged client' := by
  cases hstep with
  | none _ => exact h
  | queued queued hgreeted hresync hnot hpending hpush =>
    have hqueued := h.pushed hpush ⟨nofun, nofun⟩
    exact hqueued.of_same rfl rfl id
  | failed hrefused => exact (h.refused hrefused).closed

/-- The batches of a sample are no pages. -/
theorem fannedOut {type : MessageType} {chunks : List (Option (List UInt8))}
    {client client' : Client cat} (hfan : FansOut config canonical env type chunks client client')
    (htype : type ≠ .snapshot ∧ type ≠ .signalSnapshotChunk) (h : Paged client) :
    Paged client' := by
  induction hfan with
  | done client => exact h
  | sent payload rest client queued client' hresync hpush _ ih => exact ih (h.pushed hpush htype)
  | overflowed chunks client client' hresync hoverflow => exact h.overflowed hoverflow
  | failed chunks client failed hrefused => exact (h.refused hrefused).closed

/-- The session that `SUBSCRIBE_ALL` starts to drive. -/
theorem subscribing {client : Client cat} (h : Paged client) (hflags : SessionFlags client)
    (hcomplete : client.snapshotComplete = true) :
    Paged (beginCatchupRound canonical { client with catchupActive := true }) :=
  rounded (h.of_same rfl rfl id) fun _ => hflags.complete hcomplete

/-- The answer to a request freezes a state, or sends the next page of the frozen one, or no page.
-/
theorem replied {request : Message} {client client' : Client cat} (hsound : canonical.Sound)
    (hflags : SessionFlags client) (hreply : Reply config canonical env request client client')
    (h : Paged client) : Paged client' := by
  have hflag : Stable config canonical env (@SessionFlags cat) := SessionFlags.stable
  cases hreply with
  | welcome queued htype hgreeted hpush =>
    have hqueued := h.pushed hpush ⟨nofun, nofun⟩
    exact hqueued.of_same rfl rfl id
  | schema startIndex payload queued htype hgreeted hstart hpayload hpush =>
    exact h.pushed hpush ⟨nofun, nofun⟩
  | pong queued htype hgreeted hpush => exact h.pushed hpush ⟨nofun, nofun⟩
  | firstFramePage payload queued htype hgreeted hstart hinactive hpayload hpush =>
    have hbegun : Paged (beginSnapshot canonical env client) := begun hsound client
    exact hbegun.framePage (hflag.begun hgreeted hflags) hpayload hpush rfl rfl rfl
      cat.frameCount_pos
  | framePage startIndex payload queued htype hgreeted hstart hactive hframes hnext hlt hpayload
      hpush => exact h.framePage hflags hpayload hpush hactive hframes hnext hlt
  | signalPage startIndex payload queued htype hgreeted hstart hactive hframes hnext hlt hpayload
      hpush => exact h.signalPage hflags hpayload hpush hactive hframes hnext hlt
  | subscribe driven htype hgreeted hresync hcomplete hmoves hdone =>
    refine waited (drive hmoves (fun _ => ?_) (h.subscribing hflags hcomplete))
    exact Waiting.subscribing hflags hcomplete

/-- A request that fails leaves the pages alone, or freezes a state without a page. -/
theorem commandFailed {request : Message} {client failed : Client cat} (hsound : canonical.Sound)
    (hflags : SessionFlags client)
    (hfailure : CommandFailure config canonical env request client failed) (h : Paged client) :
    Paged failed := by
  cases hfailure with
  | refused hrefused => exact h.refused hrefused
  | snapshot hgreeted hinactive hrefused => exact (begun hsound client).refused hrefused
  | subscribe htype hgreeted hresync hcomplete hmoves hfailure =>
    have hstart : Driven (beginCatchupRound canonical { client with catchupActive := true }) :=
      Waiting.subscribing hflags hcomplete
    exact driveFailed (fun _ => hstart.drive hmoves) hfailure
      (drive hmoves (fun _ => hstart) (h.subscribing hflags hcomplete))

/-- A completed write leaves the pages alone. -/
theorem resumed {client client' : Client cat} (hdriven : client.active = true → Driven client)
    (hresumes : Resumes config canonical env client client') (h : Paged client) : Paged client' := by
  cases hresumes with
  | idle hcatchup hstep => exact h.resynced hstep
  | driven hcatchup hmoves hdone hstep => exact (waited (drive hmoves hdriven h)).resynced hstep
  | failed hcatchup hmoves hfailure =>
    refine (driveFailed (fun hactive => ?_) hfailure (drive hmoves hdriven h)).closed
    rw [drive_active hmoves] at hactive
    exact (hdriven hactive).drive hmoves

/-- No event changes a snapshot that is in progress. -/
theorem evolved {before : Canonical cat} {event : Event cat} {s : Fin maxClients}
    {client client' : Client cat} (hsound : canonical.Sound) (hflags : SessionFlags client)
    (hwaiting : Waiting config client)
    (hevolves : Evolves config canonical before event s client client') (h : Paged client) :
    Paged client' := by
  cases hevolves with
  | idle hevent hquiet => exact h
  | closed => exact h.closed
  | replied request hevent hcanonical hactive hreply => exact replied hsound hflags hreply h
  | aborted request hevent hcanonical hactive hfailure =>
    exact (commandFailed hsound hflags hfailure h).closed
  | writeFailed slot hused =>
    refine closed ?_
    exact h.of_same rfl rfl id
  | written slot hevent hcanonical hused hresumes =>
    refine resumed (fun hactive => ?_) hresumes (h.of_same rfl rfl id)
    exact ⟨hwaiting.exclusive hactive, hwaiting.exhausted hactive⟩
  | distributed env sample hevent hcanonical hlive hdistributes =>
    cases hdistributes with
    | stopped hframes hstopped => exact fannedOut hframes ⟨nofun, nofun⟩ h
    | both hframes hactive hresync hsignals =>
      exact fannedOut hsignals ⟨nofun, nofun⟩ (fannedOut hframes ⟨nofun, nofun⟩ h)
  | heartbeat nowNs env sourceState hevent hsame hgreeted hlive hpush =>
    exact h.pushed hpush ⟨nofun, nofun⟩
  | heartbeatOverflow nowNs env hevent hsame hgreeted hlive hoverflow => exact h.overflowed hoverflow
  | heartbeatFailed hrefused => exact (h.refused hrefused).closed
  | fresh hbefore hfresh => cases hfresh <;> exact ⟨rfl, rfl⟩

end Paged

/-- What holds of every session between events. -/
structure SessionSound (config : Config cat) (client : Client cat) : Prop where
  accounted : Accounted config client
  flags : SessionFlags client
  waiting : Waiting config client
  paged : Paged client

/-- Every event keeps the invariants of a session, as long as libuv keeps its bound. -/
theorem SessionSound.evolved {before : Canonical cat} {event : Event cat} {s : Fin maxClients}
    {client client' : Client cat} (hsound : canonical.Sound)
    (hbounded : (event.answers s).WriteQueueBounded)
    (hevolves : Evolves config canonical before event s client client')
    (h : SessionSound config client) : SessionSound config client' :=
  ⟨Accounted.stable.evolved hevolves h.accounted, SessionFlags.stable.evolved hevolves h.flags,
    h.waiting.evolved h.accounted h.flags hbounded hevolves,
    h.paged.evolved hsound h.flags h.waiting hevolves⟩

/-- The invariants hold of a session of zeros. -/
theorem SessionSound.zero : SessionSound config (Client.zero cat) :=
  ⟨Accounted.zero, SessionFlags.fresh .zero, Waiting.of_inactive rfl, rfl, rfl⟩

/-- The invariants of the sessions and of the canonical state, along a run whose events respect
libuv's bound. -/
theorem run_sound (config : Config cat) (fake : Option Bool) (tick : Tick cat)
    (events : List (Event cat))
    (hlibuv : ∀ event ∈ events, ∀ s, (event.answers s).WriteQueueBounded) :
    (run config fake tick events).Sound ∧
      ∀ s, SessionSound config ((run config fake tick events).clients s) := by
  refine (Meets.always _ events).invariant
    (I := fun daemon : Daemon cat => daemon.Sound ∧ ∀ s, SessionSound config (daemon.clients s)) ?_
    ⟨daemonInit_sound config fake tick, fun _ => SessionSound.zero⟩
  rintro event hevent daemon - ⟨hsound, hsessions⟩
  have hnext := step_sound config event hsound
  exact ⟨hnext, fun s => (hsessions s).evolved hnext.canonical (hlibuv event hevent s)
    (step_evolves config daemon event s)⟩

/-- From each frozen snapshot on, the pages queued to a session carry the frozen frames and signals
in order, without a gap or a repetition, under the stamps of the frozen state. Once the snapshot is
complete they carry all of them. -/
theorem run_pages_frozen (config : Config cat) (fake : Option Bool) (tick : Tick cat)
    (events : List (Event cat))
    (hlibuv : ∀ event ∈ events, ∀ s, (event.answers s).WriteQueueBounded) (s : Fin maxClients)
    (frozen : Canonical cat) (sent : List Message) :
    let client := (run config fake tick events).clients s
    snapshotHistory client.log = some (frozen, sent) →
    (∀ message ∈ sent, IsPage message →
      message.header.sequence = frozen.changeSequence ∧
        message.header.timestampNs = frozen.sampleTimestampNs) ∧
    PagesDeliver (fun payload => decodeFrameBatch payload framesPerMessage) frozen.sampleSequence
      (ofType .snapshot sent)
      (((List.finRange cat.frameCount).take client.snapshotNextFrameIndex).map frozen.frames) ∧
    PagesDeliver (fun payload => decodeSignalBatch payload signalsPerMessage) frozen.sampleSequence
      (ofType .signalSnapshotChunk sent)
      (((List.finRange cat.signalCount).take client.snapshotNextIndex).map
        (signalUpdate frozen.signals)) ∧
    (client.snapshotComplete = true →
      PagesDeliver (fun payload => decodeFrameBatch payload framesPerMessage) frozen.sampleSequence
        (ofType .snapshot sent) ((List.finRange cat.frameCount).map frozen.frames) ∧
      PagesDeliver (fun payload => decodeSignalBatch payload signalsPerMessage)
        frozen.sampleSequence (ofType .signalSnapshotChunk sent)
        ((List.finRange cat.signalCount).map (signalUpdate frozen.signals))) := by
  intro client hhistory
  have hpaged := ((run_sound config fake tick events hlibuv).2 s).paged
  unfold Paged at hpaged
  rw [hhistory] at hpaged
  obtain ⟨-, hsent, -⟩ := hpaged
  refine ⟨hsent.stamps, hsent.frames, hsent.signals, fun hcomplete => ?_⟩
  obtain ⟨hframes, hsignals⟩ := hsent.complete hcomplete
  have hallFrames := hsent.frames
  have hallSignals := hsent.signals
  rw [hframes, framesBelow, List.take_of_length_le (by simp)] at hallFrames
  rw [hsignals, signalsBelow, List.take_of_length_le (by simp)] at hallSignals
  exact ⟨hallFrames, hallSignals⟩

/-- The last snapshot of a session, if it has begun one, was fetched up to its last signal page. -/
def SnapshotFetched (log : List (LogEntry cat)) : Prop :=
  ∀ frozen sent, snapshotHistory log = some (frozen, sent) →
    PagesDeliver (fun payload => decodeSignalBatch payload signalsPerMessage) frozen.sampleSequence
      (ofType .signalSnapshotChunk sent)
      ((List.finRange cat.signalCount).map (signalUpdate frozen.signals))

/-- The pages carry every signal exactly when the session has advanced over all of them. -/
theorem PagesSent.delivers_all_iff {frozen : Canonical cat} {sent : List Message}
    {client : Client cat} (h : PagesSent frozen sent client) :
    PagesDeliver (fun payload => decodeSignalBatch payload signalsPerMessage) frozen.sampleSequence
        (ofType .signalSnapshotChunk sent)
        ((List.finRange cat.signalCount).map (signalUpdate frozen.signals)) ↔
      client.snapshotNextIndex = cat.signalCount := by
  have hsignals := h.signals
  constructor
  · intro hall
    have hlength := congrArg List.length (hsignals.unique hall)
    simp only [signalsBelow, List.length_map, List.length_take, List.length_finRange] at hlength
    have hbounded := h.bounded
    omega
  · intro hnext
    rw [hnext, signalsBelow, List.take_of_length_le (by simp)] at hsignals
    exact hsignals

/-- No snapshot is in progress exactly when none was begun or the last one was fetched to its end. -/
theorem Paged.inactive_iff {client : Client cat} (h : Paged client) :
    client.snapshotActive = false ↔ SnapshotFetched client.log := by
  unfold Paged at h
  unfold SnapshotFetched
  cases hhistory : snapshotHistory client.log with
  | none =>
    rw [hhistory] at h
    exact iff_of_true h.1 nofun
  | some past =>
    rw [hhistory] at h
    rw [h.2.1.ended, ← h.2.1.delivers_all_iff]
    constructor
    · rintro hall frozen sent ⟨⟩
      exact hall
    · exact fun hall => hall past.1 past.2 rfl

/-- A sample arrives between the frame page and the signal page. -/
def pagingRun : List (Event singleCatalog) :=
  singleSetup.take 7 ++ singleSample 1 20 ++ singleSetup.drop 7

/-- The signal page of a session is that of the state frozen before the sample arrived. -/
theorem run_pages_frozen_paging :
    ∃ frozen sent, snapshotHistory (singleSession pagingRun).log = some (frozen, sent) ∧
      PagesDeliver (fun payload => decodeFrameBatch payload framesPerMessage) frozen.sampleSequence
        (ofType .snapshot sent) ((List.finRange singleCatalog.frameCount).map frozen.frames) ∧
      PagesDeliver (fun payload => decodeSignalBatch payload signalsPerMessage)
        frozen.sampleSequence (ofType .signalSnapshotChunk sent)
        ((List.finRange singleCatalog.signalCount).map (signalUpdate frozen.signals)) := by
  have hidle : ∀ event ∈ pagingRun, ∀ s, event.answers s = Env.idle := by
    simp [pagingRun, singleSetup, singleSample, singleRequest, singleWriteDone, Event.answers]
  have hsome : (snapshotHistory (singleSession pagingRun).log).isSome = true := by decide +kernel
  obtain ⟨⟨frozen, sent⟩, hhistory⟩ := Option.isSome_iff_exists.mp hsome
  have hpages := run_pages_frozen singleConfig none (singleTick 0 10) pagingRun
    (writeQueueBounded_of_idle hidle) firstSession frozen sent hhistory
  exact ⟨frozen, sent, hhistory, hpages.2.2.2 (by decide +kernel)⟩

end Roadcast
