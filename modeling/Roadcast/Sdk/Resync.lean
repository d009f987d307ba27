import Roadcast.Sdk.FramePages
import Roadcast.Sdk.Steps

/-!
# What readers see of a resynchronization

`resynchronize` gathers a snapshot beside the cache, and `commit_synchronization` replaces the cache
under the lock. The table `can_id_to_index` has no such copy: once the last frame page is there,
`request_frame_snapshot` enters the CAN IDs of the new snapshot into the table of the readers, one
after the other and without the lock, while the cache still holds the old frames.

So signals and sequences stay as they were until the commit. A frame is still found if and only if the
snapshot has, at every index, a CAN ID that was already answered with the cached frame at that index.
The snapshot is the records of the frame pages of the stream.
-/

namespace Roadcast

namespace CacheView

/-- The readers find every frame under its own CAN ID. -/
def Indexed (view : CacheView) : Prop :=
  ∀ canId frame, view.readFrame canId = some frame → frame.canId = canId

/-- The loop at the end of `request_frame_snapshot`, which does not hold the lock: the table after
each number of entries. -/
def filling (view : CacheView) (snapshot : List Frame) : List CacheView :=
  (List.range (snapshot.length + 1)).map fun entered =>
    { view with
      canIdToIndex := fillCanIdTable 0 ((snapshot.take entered).map Frame.canId)
        view.canIdToIndex }

/-- A view that readers cannot tell from an earlier one. -/
structure Unchanged (view earlier : CacheView) : Prop where
  readFrame : ∀ canId, view.readFrame canId = earlier.readFrame canId
  readSignals : ∀ indices, view.readSignals indices = earlier.readSignals indices
  readAll : ∀ capacity, view.readAll capacity = earlier.readAll capacity
  sampleSequence : view.cache.sampleSequence = earlier.cache.sampleSequence
  changeSequence : view.cache.changeSequence = earlier.cache.changeSequence
  sampleTimestampNs : view.cache.sampleTimestampNs = earlier.cache.sampleTimestampNs
  indexed : view.Indexed

/-- At every index the snapshot has a CAN ID that is answered with the cached frame at that index. CAN
IDs beyond the table are never answered. -/
def Aligned (view : CacheView) (snapshot : List Frame) : Prop :=
  ∀ entry ∈ snapshot.zipIdx, entry.1.canId.toNat < canIdLookupCap →
    view.readFrame entry.1.canId = some (view.cache.frames entry.2)

instance (view : CacheView) (snapshot : List Frame) : Decidable (view.Aligned snapshot) :=
  inferInstanceAs (Decidable (∀ entry ∈ _, _ → _))

end CacheView

namespace Sdk

/-- The frames of the synchronization, when a message is the last page of them. -/
def completes (sdk : Sdk) (message : Message) : Option (List Frame) :=
  match sdk.phase, (sdk.receive message).phase with
  | .frames _, .signals _ =>
    some ((List.range sdk.welcome.frameCount.toNat).map
      (sdk.receive message).synchronization.frames)
  | _, _ => none

/-- What readers can see while a message of a synchronization is handled. -/
def views (sdk : Sdk) (message : Message) : List CacheView :=
  match sdk.completes message with
  | some snapshot => sdk.view.filling snapshot
  | none => [(sdk.receive message).view]

/-- What readers can see before the commit of a synchronization. -/
def viewsBeforeCommit : Sdk → List Message → List CacheView
  | sdk, [] => [sdk.view]
  | sdk, message :: rest =>
    if (sdk.receive message).phase = .live then [sdk.view]
    else sdk.view :: (sdk.views message ++ (sdk.receive message).viewsBeforeCommit rest)

end Sdk

section Tables

variable {view : CacheView} {snapshot : List Frame}

/-- A CAN ID within the table is read through its entry. -/
theorem CacheView.readFrame_of_lt {canId : UInt16} (h : canId.toNat < canIdLookupCap) :
    view.readFrame canId =
      if (view.canIdToIndex canId.toNat).toNat < view.welcome.frameCount.toNat then
        some (view.cache.frames (view.canIdToIndex canId.toNat).toNat)
      else none := by
  simp only [CacheView.readFrame, if_pos h]

/-- A CAN ID beyond the table is read as if it had the index `UINT16_MAX`. -/
theorem CacheView.readFrame_of_ge (hcount : view.welcome.frameCount.toNat ≤ clientMaxFrames)
    {canId : UInt16} (h : ¬canId.toNat < canIdLookupCap) : view.readFrame canId = none := by
  have hnone : noFrameIndex.toNat = clientMaxFrames := rfl
  simp only [CacheView.readFrame, if_neg h]
  exact if_neg (by omega)

/-- Readers of signals do not use the table. -/
theorem CacheView.readSignals_table (view : CacheView) (table : ℕ → UInt16)
    (indices : List UInt32) :
    ({ view with canIdToIndex := table } : CacheView).readSignals indices =
      view.readSignals indices := by
  induction indices with
  | nil => rfl
  | cons index indices ih => rw [CacheView.readSignals, ih, CacheView.readSignals]

/-- A change of the table that does not change what is read of frames. -/
theorem CacheView.Unchanged.of_table {table : ℕ → UInt16} (hindexed : view.Indexed)
    (h : ∀ canId, ({ view with canIdToIndex := table } : CacheView).readFrame canId =
      view.readFrame canId) :
    ({ view with canIdToIndex := table } : CacheView).Unchanged view :=
  ⟨h, view.readSignals_table table, fun _ => rfl, rfl, rfl, rfl,
    fun canId frame hframe => hindexed canId frame ((h canId).symm.trans hframe)⟩

/-- A table with `entered` CAN IDs of a snapshot. -/
theorem mem_filling {filled : CacheView} :
    filled ∈ view.filling snapshot ↔ ∃ entered ≤ snapshot.length,
      filled = { view with
        canIdToIndex := fillCanIdTable 0 ((snapshot.take entered).map Frame.canId)
          view.canIdToIndex } := by
  simp only [CacheView.filling, List.mem_map, List.mem_range, Nat.lt_succ_iff]
  constructor
  · rintro ⟨entered, hentered, rfl⟩
    exact ⟨entered, hentered, rfl⟩
  · rintro ⟨entered, hentered, rfl⟩
    exact ⟨entered, hentered, rfl⟩

/-- Index `i` of a table that was filled from a snapshot. -/
theorem toNat_index {n i : ℕ} (hcount : n ≤ clientMaxFrames) (hi : i < n) :
    (UInt16.ofNat (0 + i)).toNat = i := by
  rw [clientMaxFrames] at hcount
  rw [Nat.zero_add, UInt16.toNat_ofNat']
  exact Nat.mod_eq_of_lt (by omega)

/-- The table can be filled unnoticed from an aligned snapshot, and only from such a one. -/
theorem filling_unchanged_iff (hcount : view.welcome.frameCount.toNat ≤ clientMaxFrames)
    (hlength : snapshot.length = view.welcome.frameCount.toNat) (hindexed : view.Indexed) :
    (∀ filled ∈ view.filling snapshot, filled.Unchanged view) ↔ view.Aligned snapshot := by
  constructor
  · rintro h ⟨frame, i⟩ hentry hcanId
    have hget : snapshot[i]? = some frame := List.mem_zipIdx_iff_getElem?.mp hentry
    obtain ⟨hi, rfl⟩ := List.getElem?_eq_some_iff.mp hget
    -- the table right after index `i` was entered
    have hunchanged := (h _ (mem_filling.mpr ⟨i + 1, hi, rfl⟩)).readFrame (snapshot[i]).canId
    have hindex := toNat_index hcount (hlength ▸ hi)
    have htake : snapshot.take (i + 1) = snapshot.take i ++ [snapshot[i]] :=
      (List.take_append_getElem hi).symm
    rw [← hunchanged, CacheView.readFrame_of_lt hcanId]
    simp only [htake, List.map_append, List.map_cons, List.map_nil,
      fillCanIdTable_concat _ _ _ hcanId, List.length_map, List.length_take, Nat.min_eq_left hi.le,
      hindex, if_pos (hlength ▸ hi)]
  · intro h filled hfilled
    obtain ⟨entered, hentered, rfl⟩ := mem_filling.mp hfilled
    refine .of_table hindexed fun canId => ?_
    by_cases hcanId : canId.toNat < canIdLookupCap
    · rcases fillCanIdTable_apply ((snapshot.take entered).map Frame.canId) 0
        view.canIdToIndex hcanId with ⟨k, hk, hget, hvalue⟩ | ⟨-, hvalue⟩
      · have hlt : k < snapshot.length := by
          rw [List.length_map, List.length_take] at hk
          omega
        simp only [List.get_eq_getElem, List.getElem_map, List.getElem_take] at hget
        obtain rfl := UInt16.toNat_inj.mp hget
        have hkn : k < view.welcome.frameCount.toNat := hlength ▸ hlt
        have hentry : (snapshot[k], k) ∈ snapshot.zipIdx :=
          List.mem_zipIdx_iff_getElem?.mpr (List.getElem?_eq_getElem hlt)
        rw [CacheView.readFrame_of_lt hcanId, h _ hentry hcanId]
        simp only [hvalue, toNat_index hcount hkn, if_pos hkn]
      · rw [CacheView.readFrame_of_lt hcanId, CacheView.readFrame_of_lt hcanId]
        simp only [hvalue]
    · simp only [CacheView.readFrame, if_neg hcanId]

end Tables

section Sessions

variable {sdk : Sdk} {message : Message}

/-- What the daemon announced has passed the checks of `perform_handshake`. -/
theorem Sdk.after_supported (messages : List Message)
    (hphase : (Sdk.after messages).phase ≠ .handshake)
    (hfailed : (Sdk.after messages).phase ≠ .failed) :
    (Sdk.after messages).welcome.Supported := by
  induction messages using List.reverseRecOn with
  | nil => exact absurd rfl hphase
  | append_singleton messages message ih =>
    rw [Sdk.after_append] at hphase hfailed ⊢
    have hhandled := Sdk.receive_handled hfailed
    by_cases hbefore : (Sdk.after messages).phase = .handshake
    · unfold Sdk.handle at hhandled
      rw [hbefore] at hhandled
      obtain ⟨welcome, hsupported, hwelcome⟩ := Sdk.readWelcome_some hhandled
      rw [hwelcome, Sdk.requestSchema_welcome]
      exact hsupported
    · rw [Sdk.handle_welcome hbefore hhandled]
      refine ih hbefore fun hends => ?_
      exact hfailed (Sdk.receive_failed hends message)

/-- Every index of the table below a count is that of a frame with the CAN ID. -/
def IndexesFrames (table : ℕ → UInt16) (n : ℕ) (frames : ℕ → Frame) : Prop :=
  ∀ canId : UInt16, canId.toNat < canIdLookupCap → (table canId.toNat).toNat < n →
    (frames (table canId.toNat).toNat).canId = canId

/-- Readers find every frame under its own CAN ID if the table indexes the frames. -/
theorem IndexesFrames.indexed {view : CacheView}
    (hcount : view.welcome.frameCount.toNat ≤ clientMaxFrames)
    (h : IndexesFrames view.canIdToIndex view.welcome.frameCount.toNat view.cache.frames) :
    view.Indexed := by
  intro canId frame hframe
  by_cases hcanId : canId.toNat < canIdLookupCap
  · rw [CacheView.readFrame_of_lt hcanId] at hframe
    split at hframe
    · rename_i hindex
      obtain rfl := Option.some.inj hframe
      exact h canId hcanId hindex
    · contradiction
  · rw [CacheView.readFrame_of_ge hcount hcanId] at hframe
    contradiction

/-- The table that `commit_synchronization` builds. -/
theorem indexesFrames_fill {n : ℕ} (hcount : n ≤ clientMaxFrames) (frames : ℕ → Frame) :
    IndexesFrames (fillCanIdTable 0 ((List.range n).map fun i => (frames i).canId) emptyCanIdTable)
      n frames := by
  intro canId hcanId hindex
  rcases fillCanIdTable_apply ((List.range n).map fun i => (frames i).canId) 0 emptyCanIdTable
    hcanId with ⟨k, hk, hget, hvalue⟩ | ⟨-, hvalue⟩
  · rw [List.length_map, List.length_range] at hk
    simp only [List.get_eq_getElem, List.getElem_map, List.getElem_range] at hget
    rw [hvalue, toNat_index hcount hk]
    exact UInt16.toNat_inj.mp hget
  · have hnone : (emptyCanIdTable canId.toNat).toNat = clientMaxFrames := rfl
    rw [hvalue, hnone] at hindex
    omega

/-- An update is written to the index of its CAN ID, which no other CAN ID has. -/
theorem IndexesFrames.applyFrames {table : ℕ → UInt16} {n : ℕ} (hcount : n ≤ clientMaxFrames)
    {records : List Frame} {frames frames' : ℕ → Frame} (h : IndexesFrames table n frames)
    (happly : applyFrames table n records frames = some frames') :
    IndexesFrames table n frames' := by
  induction records generalizing frames with
  | nil =>
    obtain rfl := Option.some.inj happly
    exact h
  | cons record records ih =>
    unfold Roadcast.applyFrames at happly
    by_cases hrecord : record.canId.toNat < canIdLookupCap
    · simp only [if_pos hrecord] at happly
      split at happly
      · contradiction
      rename_i htarget
      refine ih ?_ happly
      intro canId hcanId hindex
      by_cases hsame : (table canId.toNat).toNat = (table record.canId.toNat).toNat
      · rw [hsame, Function.update_self]
        have hold := h canId hcanId hindex
        rw [hsame, h record.canId hrecord (by omega)] at hold
        exact hold
      · rw [Function.update_of_ne hsame]
        exact h canId hcanId hindex
    · have hnone : noFrameIndex.toNat = clientMaxFrames := rfl
      simp only [if_neg hrecord, hnone, if_pos (show clientMaxFrames ≥ n from hcount)] at happly
      contradiction

/-- Readers of a live session find every frame under its own CAN ID. -/
theorem Sdk.after_indexes (messages : List Message) (hlive : (Sdk.after messages).phase = .live) :
    IndexesFrames (Sdk.after messages).canIdToIndex (Sdk.after messages).welcome.frameCount.toNat
      (Sdk.after messages).cache.frames := by
  induction messages using List.reverseRecOn with
  | nil => exact absurd hlive (by decide)
  | append_singleton messages message ih =>
    obtain ⟨-, -, -, hcount, -⟩ := Sdk.after_supported _ (by rw [hlive]; nofun) (by rw [hlive]; nofun)
    rw [Sdk.after_append] at hlive hcount ⊢
    have hhandled : (Sdk.after messages).handle message =
        some ((Sdk.after messages).receive message) :=
      Sdk.receive_handled (by rw [hlive]; nofun)
    rcases Sdk.handle_live hhandled hlive with ⟨-, synchronization, hcommit⟩ |
      ⟨hbefore, hwelcome, htable, records, happly⟩
    · rw [hcommit] at hcount ⊢
      exact indexesFrames_fill hcount synchronization.frames
    · rw [hwelcome] at hcount
      rw [hwelcome, htable]
      exact (ih hbefore).applyFrames hcount happly

end Sessions

/-- The frames are complete, or the synchronization has failed. -/
def Phase.Settled : Phase → Prop
  | .signals _ | .subscription | .failed => True
  | _ => False

namespace Sdk

section Synchronizing

variable {sdk : Sdk} {message : Message}

/-- Once the frames are complete nothing that readers see changes before the commit. -/
theorem receive_settled (hsettled : sdk.phase.Settled)
    (hlive : (sdk.receive message).phase ≠ .live) :
    (sdk.receive message).view = sdk.view ∧ (sdk.receive message).phase.Settled := by
  rcases sdk.receive_cases message with ⟨cache, hfail, hcache⟩ | hhandled
  · have hsame : cache = sdk.cache := by
      apply hcache
      intro hphase
      rw [hphase] at hsettled
      exact hsettled
    rw [hfail, hsame]
    exact ⟨rfl, trivial⟩
  generalize sdk.receive message = sdk' at hhandled hlive ⊢
  unfold handle at hhandled
  split at hhandled
  all_goals rename_i hphase
  all_goals rw [hphase] at hsettled
  · exact hsettled.elim
  · exact hsettled.elim
  · exact hsettled.elim
  · obtain ⟨signals, count, -, rfl⟩ := readSignalPage_some hhandled
    refine ⟨requestSignals_view _ _, ?_⟩
    rcases requestSignals_phase { sdk with
        synchronization := { sdk.synchronization with signals := signals } } _ with h | h | h
    all_goals rw [h]; trivial
  · rcases readSubscription_some hhandled with ⟨synchronization, rfl⟩ | ⟨synchronization, rfl⟩
    · exact ⟨rfl, by rw [show Sdk.phase _ = .subscription from hphase]; trivial⟩
    · exact absurd rfl hlive
  · exact hsettled.elim
  · contradiction

/-- The frames are complete when a session turns from frames to signals. -/
theorem completes_of_frames {next next' : ℕ} (hphase : sdk.phase = .frames next)
    (hnext : (sdk.receive message).phase = .signals next') :
    sdk.completes message = some ((List.range sdk.welcome.frameCount.toNat).map
      (sdk.receive message).synchronization.frames) := by
  simp only [completes, hphase, hnext]

/-- While frame pages arrive readers see nothing of them, until the last one fills the table with the
CAN IDs of their records. -/
theorem Gathers.receive {stamps : Option (UInt64 × UInt64 × UInt64)} {records : List Frame}
    (h : Gathers sdk stamps records) (hsupported : sdk.welcome.Supported) (rest : List Message) :
    (sdk.receive message = sdk.fail ∧
      frameRecords sdk.welcome sdk.payloadCapacity stamps records (message :: rest) = none) ∨
    (∃ stamps' records', Gathers (sdk.receive message) (some stamps') records' ∧
      (sdk.receive message).view = sdk.view ∧
      (sdk.receive message).payloadCapacity = sdk.payloadCapacity ∧
      frameRecords sdk.welcome sdk.payloadCapacity stamps records (message :: rest) =
        frameRecords sdk.welcome sdk.payloadCapacity (some stamps') records' rest) ∨
    ∃ snapshot,
      frameRecords sdk.welcome sdk.payloadCapacity stamps records (message :: rest) =
        some snapshot ∧
      snapshot.length = sdk.welcome.frameCount.toNat ∧ sdk.completes message = some snapshot ∧
      (sdk.receive message).view = { sdk.view with
        canIdToIndex := fillCanIdTable 0 (snapshot.map Frame.canId) sdk.canIdToIndex } ∧
      (sdk.receive message).phase.Settled := by
  have hreceive : sdk.receive message = _ := receive_frames_eq h.phase
  rw [frameRecords]
  cases hpage : framePage sdk.welcome sdk.payloadCapacity records.length message with
  | none =>
    rw [hpage] at hreceive
    exact Or.inl ⟨hreceive, rfl⟩
  | some page =>
    obtain ⟨hlength, hrecords⟩ := framePage_some hpage
    rw [hpage] at hreceive
    dsimp only at hreceive ⊢
    by_cases hstamps : (stamps.all fun first => pageStamps message page = first) = true
    swap
    · rw [if_pos (not_not.mp (mt (h.stamps_iff page).mpr hstamps))] at hreceive
      rw [if_neg hstamps]
      exact Or.inl ⟨hreceive, rfl⟩
    rw [if_neg ((h.stamps_iff page).mp hstamps)] at hreceive
    rw [if_pos hstamps]
    have hframes := h.placePage_frames message.header page
    have hplaced := h.placePage_stamps hstamps
    set placed := { sdk with
      synchronization := placePage sdk.synchronization records.length message.header page }
    by_cases hmore : records.length + page.records.length < sdk.welcome.frameCount.toNat
    · rw [placed.requestFrames_more hsupported hmore] at hreceive
      rw [if_pos hmore, hreceive]
      refine Or.inr (Or.inl ⟨_, _, ⟨?_, hframes, ?_⟩, rfl, rfl, rfl⟩)
      · rw [List.length_append]
      · rw [if_neg (by simp [hrecords])]
        exact congrArg some hplaced.symm
    · rw [if_neg hmore]
      obtain ⟨hsignals, hsynchronization⟩ :=
        placed.requestFrames_last hsupported (Nat.not_lt.mp hmore)
      have hview := placed.requestFrames_view (records.length + page.records.length)
      rw [if_neg hmore] at hview
      have hcount : (records ++ page.records).length = sdk.welcome.frameCount.toNat := by
        have hpos := List.length_pos_iff.mpr hrecords
        rw [List.length_append]
        omega
      rw [hcount] at hframes
      rw [← hreceive] at hsignals hsynchronization hview
      refine Or.inr (Or.inr ⟨_, rfl, hcount, ?_, hview.trans ?_, ?_⟩)
      · rw [completes_of_frames h.phase hsignals, hsynchronization]
        exact congrArg some hframes
      · rw [← hframes, List.map_map]
        rfl
      · rw [hsignals]
        trivial

/-- Nothing is completed once the frames are complete. -/
theorem completes_settled (h : sdk.phase.Settled) : sdk.completes message = none := by
  unfold completes
  split
  · rename_i hphase _
    rw [hphase] at h
    exact h.elim
  · rfl

/-- The rest of a synchronization whose frames are complete. -/
theorem viewsBeforeCommit_settled (h : sdk.phase.Settled) (responses : List Message) :
    ∀ view ∈ sdk.viewsBeforeCommit responses, view = sdk.view := by
  induction responses generalizing sdk with
  | nil => exact fun view hview => List.mem_singleton.mp hview
  | cons message rest ih =>
    unfold viewsBeforeCommit
    by_cases hlive : (sdk.receive message).phase = .live
    · rw [if_pos hlive]
      exact fun view hview => List.mem_singleton.mp hview
    rw [if_neg hlive, views, completes_settled h]
    obtain ⟨hview, hsettled⟩ := receive_settled h hlive
    intro view hmem
    rcases List.mem_cons.mp hmem with rfl | hmem
    · rfl
    rcases List.mem_cons.mp hmem with rfl | hmem
    · exact hview
    · exact (ih hsettled view hmem).trans hview

/-- A view is not changed if nothing happens. -/
theorem unchanged_self (h : sdk.view.Indexed) : sdk.view.Unchanged sdk.view :=
  ⟨fun _ => rfl, fun _ => rfl, fun _ => rfl, rfl, rfl, rfl, h⟩

/-- The whole synchronization, from any of its frame pages on. -/
theorem Gathers.viewsBeforeCommit {stamps : Option (UInt64 × UInt64 × UInt64)}
    {records : List Frame} (h : Gathers sdk stamps records) (hsupported : sdk.welcome.Supported)
    (hindexed : sdk.view.Indexed) (responses : List Message) :
    (∀ view ∈ sdk.viewsBeforeCommit responses, view.Unchanged sdk.view) ↔
      ∀ snapshot ∈ frameRecords sdk.welcome sdk.payloadCapacity stamps records responses,
        sdk.view.Aligned snapshot := by
  induction responses generalizing sdk stamps records with
  | nil =>
    refine ⟨fun _ => nofun, fun _ view hview => ?_⟩
    rw [List.mem_singleton.mp hview]
    exact unchanged_self hindexed
  | cons message rest ih =>
    have hself := unchanged_self hindexed
    rw [Sdk.viewsBeforeCommit]
    rcases h.receive hsupported rest with ⟨hfail, hnone⟩ |
      ⟨stamps', records', hgathers, hview, hcapacity, hrest⟩ |
      ⟨snapshot, hsome, hlength, hcompletes, hview, hsettled⟩
    · rw [hnone]
      refine ⟨fun _ => nofun, fun _ view hmem => ?_⟩
      have hsettled : sdk.fail.phase.Settled := trivial
      have hviews := viewsBeforeCommit_settled hsettled rest
      have hcompletes : sdk.completes message = none := by
        unfold completes
        rw [hfail, h.phase]
        rfl
      rw [views, hcompletes, hfail, if_neg (by nofun), List.mem_cons, List.mem_append,
        List.mem_singleton] at hmem
      rcases hmem with rfl | rfl | hmem
      · exact hself
      · exact hself
      · rw [hviews view hmem]
        exact hself
    · have hwelcome : (sdk.receive message).welcome = sdk.welcome := congrArg CacheView.welcome hview
      have hnext := ih hgathers (by rw [hwelcome]; exact hsupported) (by rw [hview]; exact hindexed)
      have hcompletes : sdk.completes message = none := by
        unfold completes
        rw [h.phase, hgathers.phase]
      rw [hview, hwelcome, hcapacity] at hnext
      rw [hrest, ← hnext, views, hcompletes, hgathers.phase, if_neg (by nofun),
        List.forall_mem_cons, List.forall_mem_append, List.forall_mem_singleton, hview,
        and_iff_right hself, and_iff_right hself]
    · have hfilling : (∀ filled ∈ sdk.view.filling snapshot, filled.Unchanged sdk.view) ↔
          sdk.view.Aligned snapshot :=
        filling_unchanged_iff hsupported.2.2.2.1 hlength hindexed
      -- the view that stays until the commit is the last one of the loop
      have hlast : (sdk.receive message).view ∈ sdk.view.filling snapshot := by
        refine mem_filling.mpr ⟨_, Nat.le_refl _, ?_⟩
        rw [List.take_length]
        exact hview
      have hviews := viewsBeforeCommit_settled hsettled rest
      have hnotLive : ¬(sdk.receive message).phase = .live := by
        intro hlive
        rw [hlive] at hsettled
        exact hsettled
      rw [hsome, if_neg hnotLive, views, hcompletes, List.forall_mem_cons, List.forall_mem_append,
        and_iff_right hself]
      simp only [Option.mem_some_iff, forall_eq']
      rw [← hfilling]
      refine ⟨fun hall => hall.1, fun hall => ⟨hall, fun view hmem => ?_⟩⟩
      rw [hviews view hmem]
      exact hall _ hlast

/-- `RESYNC_REQUIRED` itself changes nothing that readers see, and requests the first frame page. -/
theorem synchronize_gathers (hsupported : sdk.welcome.Supported) :
    Gathers sdk.synchronize none [] ∧ sdk.synchronize.view = sdk.view ∧
      sdk.synchronize.payloadCapacity = sdk.payloadCapacity := by
  have hpos : 0 < sdk.welcome.frameCount.toNat :=
    Nat.pos_of_ne_zero fun h => hsupported.2.2.1 (UInt32.toNat_inj.mp h)
  rw [synchronize, requestFrames_more _ (by exact hsupported) (by exact hpos)]
  exact ⟨⟨rfl, rfl, rfl⟩, rfl, rfl⟩

end Synchronizing

end Sdk

/-- Every live session and every stream: before the commit of a resynchronization readers see what
they saw before `RESYNC_REQUIRED` if and only if the frame snapshot that the stream starts with, if it
has all the pages of one, is aligned with the cache. -/
theorem resync_unchanged_iff (messages responses : List Message)
    (hlive : (Sdk.after messages).phase = .live) :
    (∀ view ∈ (Sdk.after messages).synchronize.viewsBeforeCommit responses,
      view.Unchanged (Sdk.after messages).view) ↔
    ∀ snapshot ∈ frameSnapshot (Sdk.after messages).welcome (Sdk.after messages).payloadCapacity
        responses,
      (Sdk.after messages).view.Aligned snapshot := by
  have hsupported := Sdk.after_supported messages (by rw [hlive]; nofun) (by rw [hlive]; nofun)
  have hindexed : (Sdk.after messages).view.Indexed :=
    (Sdk.after_indexes messages hlive).indexed hsupported.2.2.2.1
  obtain ⟨hgathers, hview, hcapacity⟩ := Sdk.synchronize_gathers hsupported
  have hwelcome : (Sdk.after messages).synchronize.welcome = (Sdk.after messages).welcome :=
    congrArg CacheView.welcome hview
  have hiff := hgathers.viewsBeforeCommit (by rw [hwelcome]; exact hsupported)
    (by rw [hview]; exact hindexed) responses
  rw [hview, hwelcome, hcapacity] at hiff
  exact hiff

section Swapped

/-- A snapshot of two frames with the given CAN IDs, in one page. -/
def twoFrames (first second : UInt16) : Message :=
  outgoing .snapshot 0 0 (encodeBatchPrefix 0 2 0 2 ++
    [first, second].flatMap fun canId => encodeFrame { zeroFrame with canId := canId })

/-- A session with the frames 1 and 2 and one signal, up to `SUBSCRIBED`. -/
def twoFrameSession : List Message :=
  [outgoing .welcome 0 0 (encodeWelcome ⟨10, 2, 1, 8, 1000, 3, 1, 0⟩),
    outgoing .schemaChunk 0 0 (encodeSchemaPrefix 1 1 0 1 0 ++
      encodeSchemaEntry ⟨0, 0, uint32Max, 1, itemCanSignal, sourceRawCan, 8, 0, [], [], 0, 0⟩),
    twoFrames 1 2,
    outgoing .signalSnapshotChunk 0 0 (encodeBatchPrefix 0 1 0 1 ++ encodeSignal ⟨0, zeroSignal⟩),
    outgoing .subscribed 0 0 []]

/-- A resynchronization with the frames in the same order is not noticed before its commit. -/
theorem resync_unchanged_same_order :
    (Sdk.after twoFrameSession).phase = .live ∧
      ∀ view ∈ (Sdk.after twoFrameSession).synchronize.viewsBeforeCommit [twoFrames 1 2],
        view.Unchanged (Sdk.after twoFrameSession).view :=
  ⟨by decide +kernel,
    (resync_unchanged_iff twoFrameSession [twoFrames 1 2] (by decide +kernel)).mpr
      (by decide +kernel)⟩

/-- The snapshot lists the two frames the other way round, and the next response is not one of
signals. The resynchronization fails, and CAN ID 1 is answered with the cached frame 2. -/
theorem resync_swapped_frames :
    let sdk := Sdk.after twoFrameSession
    let responses := [twoFrames 2 1, twoFrames 2 1]
    let failed := responses.foldl Sdk.receive sdk.synchronize
    sdk.phase = .live ∧ failed.phase = .failed ∧
      (sdk.view.readFrame 1).map Frame.canId = some 1 ∧
      (failed.view.readFrame 1).map Frame.canId = some 2 ∧
      ¬∀ view ∈ sdk.synchronize.viewsBeforeCommit responses, view.Unchanged sdk.view := by
  intro sdk responses failed
  have hbefore : (sdk.view.readFrame 1).map Frame.canId = some 1 := by decide +kernel
  refine ⟨by decide +kernel, by decide +kernel, hbefore, by decide +kernel, fun h => ?_⟩
  have hmem : some 2 ∈ (sdk.synchronize.viewsBeforeCommit responses).map fun view =>
      (view.readFrame 1).map Frame.canId := by decide +kernel
  obtain ⟨view, hview, hread⟩ := List.mem_map.mp hmem
  rw [(h view hview).readFrame 1, hbefore] at hread
  exact absurd (Option.some.inj hread) (by decide)

end Swapped

end Roadcast
