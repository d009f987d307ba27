import Roadcast.Sdk.Decoding

/-!
# How the memory of the SDK follows its session

`Follows` relates the buffers of `Memory` to the arrays of `Receive`: as long as the session goes on
each buffer has the size that `WELCOME` announced and holds what the array holds below it. The loops
that run between two messages keep the relation and meet no fault: the loop that enters CAN IDs into
`can_id_to_index`, the requests, and the loops over the records of a page or of a batch.

Once the session has failed only the sizes matter, because the readers may still be called.
-/

namespace Roadcast

open Checked

namespace SdkMemory

/-- The buffers have the sizes that were announced, and `can_id_to_index` points into the frames. -/
structure Sized (memory : SdkMemory) : Prop where
  payload : memory.payload.length = memory.payloadCapacity
  frameScratch : memory.frameScratch.length = memory.frameScratchCapacity
  signalScratch : memory.signalScratch.length = memory.signalScratchCapacity
  schema : memory.schema.length = memory.welcome.signalCount.toNat
  frames : memory.frames.length = memory.welcome.frameCount.toNat
  signals : memory.signals.length = memory.welcome.signalCount.toNat
  table : memory.canIdToIndex.length = canIdLookupCap
  indices : ∀ index ∈ memory.canIdToIndex,
    index.toNat < memory.welcome.frameCount.toNat ∨ index = noFrameIndex
  frameCount_le : memory.welcome.frameCount.toNat ≤ clientMaxFrames

/-- The buffers that last for the session hold what the arrays of the session hold. -/
structure Content (memory : SdkMemory) (sdk : Sdk) : Prop where
  sized : memory.Sized
  welcome : memory.welcome = sdk.welcome
  capacity : memory.payloadCapacity = sdk.payloadCapacity
  frameScratch : memory.frameScratchCapacity = sdk.frameScratchCapacity
  signalScratch : memory.signalScratchCapacity = sdk.signalScratchCapacity
  schema : memory.schema.take sdk.schema.length = sdk.schema
  frames : memory.frames = (List.range sdk.welcome.frameCount.toNat).map sdk.cache.frames
  signals : memory.signals = (List.range sdk.welcome.signalCount.toNat).map sdk.cache.signals
  table : memory.canIdToIndex = (List.range canIdLookupCap).map sdk.canIdToIndex

/-- The same for the synchronization that is under way. -/
structure Synchronizes (memory : SdkMemory) (sdk : Sdk) : Prop where
  frames : memory.syncFrames =
    (List.range sdk.welcome.frameCount.toNat).map sdk.synchronization.frames
  signals : memory.syncSignals =
    (List.range sdk.welcome.signalCount.toNat).map sdk.synchronization.signals
  sampleSequence : memory.sampleSequence = sdk.synchronization.sampleSequence
  changeSequence : memory.changeSequence = sdk.synchronization.changeSequence
  sampleTimestampNs : memory.sampleTimestampNs = sdk.synchronization.sampleTimestampNs

/-- What holds while the SDK waits in a phase. -/
def Waits (memory : SdkMemory) (sdk : Sdk) : Phase → Prop
  | .schema next => next < sdk.welcome.signalCount.toNat ∧ sdk.schema.length = next
  | .frames next => next < sdk.welcome.frameCount.toNat ∧ memory.Synchronizes sdk
  | .signals next => next < sdk.welcome.signalCount.toNat ∧ memory.Synchronizes sdk
  | .subscription => memory.Synchronizes sdk
  | .handshake => sdk.schema = [] ∧ sdk.cache = .zero ∧ sdk.canIdToIndex = emptyCanIdTable
  | .live | .failed => True

/-- The memory of a session. Once the session has failed only the sizes matter. -/
structure Follows (memory : SdkMemory) (sdk : Sdk) : Prop where
  sized : memory.Sized
  phase : memory.phase = sdk.phase
  content : sdk.phase ≠ .failed → memory.Content sdk
  waits : memory.Waits sdk sdk.phase

/-- The outcome of a handler: both refuse the message, or both go on. -/
def Outcome (result : Bool × SdkMemory) : Option Sdk → Prop
  | none => result.1 = false ∧ result.2.Sized
  | some sdk => result.1 = true ∧ result.2.Follows sdk

variable {memory : SdkMemory} {sdk : Sdk}

/-- Sending a request and waiting for the answer. -/
theorem Content.request (h : memory.Content sdk) {phase : Phase} (hwaits : memory.Waits sdk phase)
    (type : MessageType) (payload : List UInt8) :
    (memory.request phase payload.length).Follows (sdk.request phase type payload) := by
  by_cases hlarge : payload.length > sdk.welcome.maxRequestPayload.toNat
  · rw [Sdk.request, if_pos hlarge, SdkMemory.request, if_pos (by rwa [h.welcome])]
    exact ⟨{ h.sized with }, rfl, fun hne => absurd rfl hne, trivial⟩
  · rw [Sdk.request, if_neg hlarge, SdkMemory.request, if_neg (by rwa [h.welcome])]
    refine ⟨{ h.sized with }, rfl, fun _ => { h with sized := { h.sized with } }, ?_⟩
    cases phase with
    | schema next => exact hwaits
    | frames next => exact ⟨hwaits.1, { hwaits.2 with }⟩
    | signals next => exact ⟨hwaits.1, { hwaits.2 with }⟩
    | subscription => exact { hwaits with }
    | handshake => exact hwaits
    | live => trivial
    | failed => trivial

section Tables

variable {n : ℕ}

/-- The indices of a table point below a count or nowhere. -/
def PointsBelow (table : List UInt16) (n : ℕ) : Prop :=
  ∀ index ∈ table, index.toNat < n ∨ index = noFrameIndex

/-- An entry that points below the count may be written into the table. -/
theorem PointsBelow.set {table : List UInt16} (h : PointsBelow table n) {i : ℕ} {index : UInt16}
    (hindex : index.toNat < n ∨ index = noFrameIndex) : PointsBelow (table.set i index) n := by
  intro other hother
  rcases List.mem_or_eq_of_mem_set hother with hmem | rfl
  · exact h other hmem
  · exact hindex

/-- Entering the CAN IDs of frames leaves the table, and every index fits its sixteen bits. -/
theorem returns_fillTable (hn : n ≤ clientMaxFrames) (frames : ℕ → Frame) (count i : ℕ)
    (hcount : i + count ≤ n) (table : ℕ → UInt16)
    (hpoints : PointsBelow ((List.range canIdLookupCap).map table) n) :
    Returns (fillTable ((List.range n).map frames) count i ((List.range canIdLookupCap).map table))
      fun result =>
        result = (List.range canIdLookupCap).map
          (fillCanIdTable i ((List.range' i count).map fun k => (frames k).canId) table) ∧
        PointsBelow result n := by
  induction count generalizing i table with
  | zero => exact .ok ⟨rfl, hpoints⟩
  | succ count ih =>
    have hi : i < n := by omega
    unfold fillTable
    refine (returns_load (by simpa using hi)).bind fun frame hframe => ?_
    rw [List.getElem_map, List.getElem_range] at hframe
    rw [hframe, List.range'_succ, List.map_cons, fillCanIdTable]
    by_cases hknown : (frames i).canId.toNat < canIdLookupCap
    · rw [if_pos hknown, if_pos hknown]
      refine (returns_narrow (by rw [clientMaxFrames] at hn; omega)).bind fun index hindex => ?_
      refine (returns_store index (by simpa using hknown)).bind fun stored hstored => ?_
      have hexact : index.toNat = i := by
        rw [hindex, UInt16.toNat_ofNat']
        exact Nat.mod_eq_of_lt (by rw [clientMaxFrames] at hn; omega)
      have hpoints' := hpoints.set (i := (frames i).canId.toNat) (Or.inl (hexact.trans_lt hi))
      rw [set_map_range] at hstored hpoints'
      rw [hstored, hindex]
      rw [hindex] at hpoints'
      exact ih (i + 1) (by omega) _ hpoints'
    · rw [if_neg hknown, if_neg hknown]
      exact ih (i + 1) (by omega) table hpoints

/-- Clearing the table leaves `UINT16_MAX` everywhere. -/
theorem returns_clearTable (count i : ℕ) (table : List UInt16) (hcount : i + count ≤ table.length)
    (hcleared : ∀ j < i, table[j]? = some noFrameIndex) :
    Returns (clearTable count i table) fun result => result.length = table.length ∧
      ∀ j < i + count, result[j]? = some noFrameIndex := by
  induction count generalizing i table with
  | zero => exact .ok ⟨rfl, hcleared⟩
  | succ count ih =>
    unfold clearTable
    refine (returns_store noFrameIndex (by omega)).bind fun stored hstored => ?_
    have hnext := ih (i + 1) stored (by rw [hstored, List.length_set]; omega) ?_
    · rw [hstored, List.length_set] at hnext
      rw [hstored]
      refine hnext.imp fun result hresult => ⟨hresult.1, fun j hj => hresult.2 j (by omega)⟩
    · intro j hj
      rw [hstored]
      rcases Nat.lt_succ_iff_lt_or_eq.mp hj with hlt | rfl
      · rw [List.getElem?_set_ne (by omega)]
        exact hcleared j hlt
      · exact List.getElem?_set_self (by omega)

end Tables

section Loops

variable {memory : SdkMemory} {sdk : Sdk}

/-- The buffers follow the session to the next signal page. -/
theorem Content.requestSignals (h : memory.Content sdk) (hsync : memory.Synchronizes sdk)
    (next : ℕ) : (memory.requestSignals next).Follows (sdk.requestSignals next) := by
  by_cases hnext : next < sdk.welcome.signalCount.toNat
  · rw [SdkMemory.requestSignals, h.welcome, if_pos hnext, Sdk.requestSignals, if_pos hnext]
    have hwaits : memory.Waits sdk (.signals next) := ⟨hnext, hsync⟩
    exact h.request hwaits .getSignalSnapshot (encodeIndexRequest (UInt32.ofNat next))
  · rw [SdkMemory.requestSignals, h.welcome, if_neg hnext, Sdk.requestSignals, if_neg hnext]
    have hwaits : memory.Waits sdk .subscription := hsync
    exact h.request hwaits .subscribeAll []

/-- The buffers follow the session to the next frame page, or to the first signal page. -/
theorem Content.returns_requestFrames (h : memory.Content sdk) (hsync : memory.Synchronizes sdk)
    (next : ℕ) : Returns (memory.requestFrames next) (·.Follows (sdk.requestFrames next)) := by
  by_cases hnext : next < sdk.welcome.frameCount.toNat
  · rw [SdkMemory.requestFrames, h.welcome, if_pos hnext, Sdk.requestFrames, if_pos hnext]
    have hwaits : memory.Waits sdk (.frames next) := ⟨hnext, hsync⟩
    exact .ok (h.request hwaits .getSnapshot (encodeIndexRequest (UInt32.ofNat next)))
  · rw [SdkMemory.requestFrames, if_neg (by rwa [h.welcome]), Sdk.requestFrames, if_neg hnext]
    have hpoints := h.sized.indices
    rw [h.welcome, h.table] at hpoints
    have hfill : Returns (fillTable memory.syncFrames memory.welcome.frameCount.toNat 0
        memory.canIdToIndex) fun filled => filled = (List.range canIdLookupCap).map
          (sdk.indexCanIds sdk.synchronization.frames sdk.canIdToIndex) ∧
        PointsBelow filled sdk.welcome.frameCount.toNat := by
      have hcount := h.sized.frameCount_le
      rw [h.welcome] at hcount
      have hfill := returns_fillTable hcount sdk.synchronization.frames
        sdk.welcome.frameCount.toNat 0 (by omega) sdk.canIdToIndex hpoints
      rw [hsync.frames, h.table, h.welcome]
      rwa [← List.range_eq_range'] at hfill
    refine hfill.bind fun filled hfilled => .ok ?_
    have hcontent : ({ memory with canIdToIndex := filled } : SdkMemory).Content { sdk with
        canIdToIndex := sdk.indexCanIds sdk.synchronization.frames sdk.canIdToIndex } :=
      { h with
        sized := { h.sized with
          table := by rw [hfilled.1, List.length_map, List.length_range]
          indices := by rw [h.welcome]; exact hfilled.2 }
        table := hfilled.1 }
    exact hcontent.requestSignals { hsync with } 0

/-- The buffers follow the session to the beginning of a synchronization. -/
theorem Content.returns_synchronize (h : memory.Content sdk) :
    Returns memory.synchronize (·.Follows sdk.synchronize) := by
  have hcontent : ({ memory with
      syncFrames := List.replicate memory.welcome.frameCount.toNat zeroFrame
      syncSignals := List.replicate memory.welcome.signalCount.toNat zeroSignal
      sampleSequence := 0
      changeSequence := 0
      sampleTimestampNs := 0 } : SdkMemory).Content { sdk with synchronization := .zero } :=
    { h with sized := { h.sized with } }
  refine hcontent.returns_requestFrames ⟨?_, ?_, rfl, rfl, rfl⟩ 0
  · rw [h.welcome]
    exact List.ext_getElem (by simp) fun i _ _ => by simp [Synchronization.zero, Replica.zero]
  · rw [h.welcome]
    exact List.ext_getElem (by simp) fun i _ _ => by simp [Synchronization.zero, Replica.zero]

/-- The buffers follow the session to the next schema page, or to a synchronization. -/
theorem Content.returns_requestSchema (h : memory.Content sdk) {next : ℕ}
    (hlength : sdk.schema.length = next) :
    Returns (memory.requestSchema next) (·.Follows (sdk.requestSchema next)) := by
  by_cases hnext : next < sdk.welcome.signalCount.toNat
  · rw [SdkMemory.requestSchema, h.welcome, if_pos hnext, Sdk.requestSchema, if_pos hnext]
    have hwaits : memory.Waits sdk (.schema next) := ⟨hnext, hlength⟩
    exact .ok (h.request hwaits .getSchema (encodeIndexRequest (UInt32.ofNat next)))
  · rw [SdkMemory.requestSchema, h.welcome, if_neg hnext, Sdk.requestSchema, if_neg hnext]
    exact h.returns_synchronize

end Loops

section Records

variable {n : ℕ}

/-- The outcome of a loop that writes to an array of `n` cells: a record was refused, or all of them
were written. -/
def Written {V : Type} (n : ℕ) (result : Bool × List V) : Option (ℕ → V) → Prop
  | none => result.1 = false ∧ result.2.length = n
  | some array => result = (true, (List.range n).map array)

/-- Decoding a page into an array places its frames. -/
theorem writeFrom_placeFrames (start : ℕ) (values : List Frame) (frames : ℕ → Frame) :
    writeFrom start values ((List.range n).map frames) =
      (List.range n).map (placeFrames start values frames) := by
  induction values generalizing start frames with
  | nil => rfl
  | cons value values ih => rw [writeFrom, set_map_range, ih, placeFrames]

/-- The loop over a page of signals stays within the scratch buffer and the array. -/
theorem returns_placeSignalsInto (scratch updates : List SignalUpdate) (next i : ℕ)
    (hscratch : StoredFrom i updates scratch) (signals : ℕ → SignalValue) :
    Returns (placeSignalsInto scratch n next updates.length i ((List.range n).map signals))
      (Written n · (placeSignals n (next + i) updates signals)) := by
  induction updates generalizing i signals with
  | nil => exact .ok rfl
  | cons update updates ih =>
    rw [List.length_cons]
    unfold placeSignalsInto placeSignals
    refine (returns_load_of_eq hscratch.head).bind fun loaded hloaded => ?_
    rw [hloaded]
    split
    · exact .ok ⟨rfl, by simp⟩
    rename_i hindex
    simp only [not_or, Nat.not_le] at hindex
    refine (returns_store _ (by simpa using hindex.2)).bind fun stored hstored => ?_
    rw [set_map_range] at hstored
    rw [hstored]
    exact ih (i + 1) hscratch.tail _

/-- The lookup of a CAN ID stays inside the table. -/
theorem returns_lookup (table : ℕ → UInt16) (canId : UInt16) :
    Returns (lookup ((List.range canIdLookupCap).map table) canId)
      (· = if canId.toNat < canIdLookupCap then table canId.toNat else noFrameIndex) := by
  unfold lookup
  split
  · rename_i hknown
    exact returns_load_of_eq (by simp [hknown])
  · exact .ok rfl

/-- A loop with the array that it leaves, also when it refuses a record. -/
theorem written_of_eq {V : Type} {result : Bool × List V} {loop : Bool × (ℕ → V)}
    (h : result = (loop.1, (List.range n).map loop.2)) :
    Written n result (if loop.1 then some loop.2 else none) := by
  obtain ⟨applied, array⟩ := loop
  subst h
  cases applied with
  | true => exact rfl
  | false => exact ⟨rfl, by simp⟩

/-- The loop over frame updates stays within its four buffers, and leaves the array of
`applyDecodedFrames`. -/
theorem returns_applyDecodedFrames (scratch updates : List Frame) (table : ℕ → UInt16) (i : ℕ)
    (hscratch : StoredFrom i updates scratch) (frames : ℕ → Frame) :
    Returns (applyFramesInto scratch ((List.range canIdLookupCap).map table) n updates.length i
      ((List.range n).map frames)) (· = ((applyDecodedFrames table n updates frames).1,
        (List.range n).map (applyDecodedFrames table n updates frames).2)) := by
  unfold applyDecodedFrames
  induction updates generalizing i frames with
  | nil => exact .ok rfl
  | cons update updates ih =>
    rw [List.length_cons]
    unfold applyFramesInto
    refine (returns_load_of_eq hscratch.head).bind fun loaded hloaded => ?_
    rw [hloaded]
    refine (returns_lookup table update.canId).bind fun target htarget => ?_
    have hplace : framePlace table n update =
        if target.toNat ≥ n then none else some (target.toNat, update) := by
      rw [framePlace, htarget]
    split
    · rename_i hbound
      rw [Writes.writeAll_none (hplace.trans (if_pos hbound))]
      exact .ok rfl
    rename_i hbound
    rw [Writes.writeAll_some (hplace.trans (if_neg hbound))]
    refine (returns_store _ (by simpa using hbound)).bind fun stored hstored => ?_
    rw [set_map_range] at hstored
    rw [hstored]
    exact ih (i + 1) hscratch.tail _

/-- The loop over decoded frames stays inside the arrays, and leaves what the session has. -/
theorem returns_applyFramesInto (scratch updates : List Frame) (table : ℕ → UInt16) (i : ℕ)
    (hscratch : StoredFrom i updates scratch) (frames : ℕ → Frame) :
    Returns (applyFramesInto scratch ((List.range canIdLookupCap).map table) n updates.length i
      ((List.range n).map frames)) (Written n · (applyFrames table n updates frames)) := by
  rw [applyFrames_eq]
  exact (returns_applyDecodedFrames scratch updates table i hscratch frames).imp fun _ =>
    written_of_eq

/-- The loop over signal updates stays within the scratch buffer and the array, and leaves the array
of `applyDecodedSignals`. -/
theorem returns_applyDecodedSignals (scratch updates : List SignalUpdate) (i : ℕ)
    (hscratch : StoredFrom i updates scratch) (signals : ℕ → SignalValue) :
    Returns (applySignalsInto scratch n updates.length i ((List.range n).map signals))
      (· = ((applyDecodedSignals n updates signals).1,
        (List.range n).map (applyDecodedSignals n updates signals).2)) := by
  unfold applyDecodedSignals
  induction updates generalizing i signals with
  | nil => exact .ok rfl
  | cons update updates ih =>
    rw [List.length_cons]
    unfold applySignalsInto
    refine (returns_load_of_eq hscratch.head).bind fun loaded hloaded => ?_
    rw [hloaded]
    have hplace : signalPlace n update =
        if update.index.toNat ≥ n then none else some (update.index.toNat, update.value) := rfl
    split
    · rename_i hbound
      rw [Writes.writeAll_none (hplace.trans (if_pos hbound))]
      exact .ok rfl
    rename_i hbound
    rw [Writes.writeAll_some (hplace.trans (if_neg hbound))]
    refine (returns_store _ (by simpa using hbound)).bind fun stored hstored => ?_
    rw [set_map_range] at hstored
    rw [hstored]
    exact ih (i + 1) hscratch.tail _

/-- The loop over decoded signals stays inside the arrays, and leaves what the session has. -/
theorem returns_applySignalsInto (scratch updates : List SignalUpdate) (i : ℕ)
    (hscratch : StoredFrom i updates scratch) (signals : ℕ → SignalValue) :
    Returns (applySignalsInto scratch n updates.length i ((List.range n).map signals))
      (Written n · (applySignals n updates signals)) := by
  rw [applySignals_eq]
  exact (returns_applyDecodedSignals scratch updates i hscratch signals).imp fun _ => written_of_eq

end Records

end SdkMemory

end Roadcast
