import Roadcast.Sdk.Phases

/-!
# The frame pages of a stream

What `request_frame_snapshot` gathers, read off the stream alone: the pages that it accepts follow one
another without a gap and carry the stamps of the first one, and the snapshot is their records, once
there are as many as the daemon has frames. The array of the synchronization holds these records as
far as the session has come.
-/

namespace Roadcast

/-- The answer to `GET_SNAPSHOT` with a start index, if it passes the checks of `read_message` and of
`request_frame_snapshot` on a page by itself. -/
def framePage (welcome : Welcome) (payloadCapacity next : ℕ) (message : Message) :
    Option (Batch Frame) :=
  if message.header.version ≠ protocolVersion ∨ message.header.flags ≠ 0 ∨
      message.header.payloadBytes.toNat > payloadCapacity ∨
      message.header.type ≠ MessageType.snapshot.code then none
  else
    match decodeFrameBatch message.payload (welcome.frameCount.toNat - next) with
    | none => none
    | some page =>
      if page.totalCount ≠ welcome.frameCount ∨ page.startIndex.toNat ≠ next ∨
          page.records = [] then none
      else some page

/-- What the pages of one snapshot have in common: the sample sequence, and the sequence and the
timestamp of the header. -/
def pageStamps (message : Message) (page : Batch Frame) : UInt64 × UInt64 × UInt64 :=
  (page.sampleSequence, message.header.sequence, message.header.timestampNs)

/-- The records of the pages at the front of a stream, behind the records of the pages before them, if
together they are a whole snapshot. The stamps are those of the pages before. -/
def frameRecords (welcome : Welcome) (payloadCapacity : ℕ) :
    Option (UInt64 × UInt64 × UInt64) → List Frame → List Message → Option (List Frame)
  | _, _, [] => none
  | stamps, records, message :: rest =>
    match framePage welcome payloadCapacity records.length message with
    | none => none
    | some page =>
      if stamps.all fun first => pageStamps message page = first then
        if records.length + page.records.length < welcome.frameCount.toNat then
          frameRecords welcome payloadCapacity (some (pageStamps message page))
            (records ++ page.records) rest
        else some (records ++ page.records)
      else none

/-- The frame snapshot that a stream starts with, if it has all the pages of one. -/
def frameSnapshot (welcome : Welcome) (payloadCapacity : ℕ) (responses : List Message) :
    Option (List Frame) :=
  frameRecords welcome payloadCapacity none [] responses

/-- An accepted page ends within the frames of the daemon. -/
theorem framePage_some {welcome : Welcome} {payloadCapacity next : ℕ} {message : Message}
    {page : Batch Frame} (h : framePage welcome payloadCapacity next message = some page) :
    page.records.length ≤ welcome.frameCount.toNat - next ∧ page.records ≠ [] := by
  unfold framePage at h
  split at h
  · contradiction
  split at h
  · contradiction
  rename_i hdecode
  split at h
  · contradiction
  rename_i hpage
  obtain rfl := Option.some.inj h
  simp only [not_or] at hpage
  exact ⟨length_le_of_decodeBatch hdecode, hpage.2.2⟩

/-- The stamps of the pages that are in a synchronization. -/
def Synchronization.stamps (synchronization : Synchronization) : UInt64 × UInt64 × UInt64 :=
  (synchronization.sampleSequence, synchronization.changeSequence,
    synchronization.sampleTimestampNs)

namespace Sdk

variable {sdk : Sdk} {message : Message}

/-- A session that waits for a frame page places the page it accepts, and fails otherwise. -/
theorem receive_frames_eq {next : ℕ} (hphase : sdk.phase = .frames next) :
    sdk.receive message =
      match framePage sdk.welcome sdk.payloadCapacity next message with
      | none => sdk.fail
      | some page =>
        if next ≠ 0 ∧ pageStamps message page ≠ sdk.synchronization.stamps then sdk.fail
        else requestFrames { sdk with
          synchronization := placePage sdk.synchronization next message.header page }
          (next + page.records.length) := by
  have hrefuse : sdk.refuse message = sdk.fail := by simp only [refuse, hphase]
  have hhandle : sdk.handle message = sdk.readFramePage next message := by simp only [handle, hphase]
  unfold receive framePage
  rw [hrefuse, hhandle, readFramePage]
  by_cases hheader : message.header.version ≠ protocolVersion ∨ message.header.flags ≠ 0 ∨
      message.header.payloadBytes.toNat > sdk.payloadCapacity
  · have hrefused : message.header.version ≠ protocolVersion ∨ message.header.flags ≠ 0 ∨
        message.header.payloadBytes.toNat > sdk.payloadCapacity ∨
        message.header.type ≠ MessageType.snapshot.code := by tauto
    rw [if_pos hheader, if_pos hrefused]
  rw [if_neg hheader]
  by_cases htype : message.header.type ≠ MessageType.snapshot.code
  · rw [if_pos htype, if_pos (by tauto)]
    rfl
  rw [if_neg htype, if_neg (by tauto)]
  cases decodeFrameBatch message.payload (sdk.welcome.frameCount.toNat - next) with
  | none => rfl
  | some page =>
    dsimp only
    split
    · rfl
    simp only [pageStamps, Synchronization.stamps, ne_eq, Prod.mk.injEq, not_and_or]
    split <;> rfl

/-- The session waits for the page behind some records, and its synchronization holds them. -/
structure Gathers (sdk : Sdk) (stamps : Option (UInt64 × UInt64 × UInt64)) (records : List Frame) :
    Prop where
  phase : sdk.phase = .frames records.length
  frames : (List.range records.length).map sdk.synchronization.frames = records
  stamps : stamps = if records = [] then none else some sdk.synchronization.stamps

section Gathering

variable {stamps : Option (UInt64 × UInt64 × UInt64)} {records : List Frame}

/-- The checks on the stamps of a page, by the stream and by the synchronization. -/
theorem Gathers.stamps_iff (h : Gathers sdk stamps records) (page : Batch Frame) :
    (stamps.all fun first => pageStamps message page = first) = true ↔
      ¬(records.length ≠ 0 ∧ pageStamps message page ≠ sdk.synchronization.stamps) := by
  rw [h.stamps]
  by_cases hrecords : records = []
  · simp [hrecords]
  · simp [hrecords, eq_comm]

/-- The synchronization with one more page. -/
theorem Gathers.placePage_frames (h : Gathers sdk stamps records) (header : Header)
    (page : Batch Frame) :
    (List.range (records ++ page.records).length).map
        (placePage sdk.synchronization records.length header page).frames =
      records ++ page.records := by
  have hframes : (placePage sdk.synchronization records.length header page).frames =
      placeFrames records.length page.records sdk.synchronization.frames := by
    unfold placePage
    dsimp only
    split <;> rfl
  rw [List.length_append, hframes, map_range_placeFrames, h.frames]

/-- The page that was placed has the stamps of the synchronization. -/
theorem Gathers.placePage_stamps (h : Gathers sdk stamps records) {page : Batch Frame}
    (hstamps : (stamps.all fun first => pageStamps message page = first) = true) :
    (placePage sdk.synchronization records.length message.header page).stamps =
      pageStamps message page := by
  rw [h.stamps_iff, not_and, not_not] at hstamps
  unfold placePage
  dsimp only
  split
  · rfl
  · rename_i hnext
    exact (hstamps hnext).symm

end Gathering

end Sdk

end Roadcast
