import Roadcast.Daemon.Sound
import Roadcast.Lib.DeltaSync
import Roadcast.Lib.Writes

/-!
# The arrays of the SDK

How `client.c` writes decoded records into its arrays: a frame page goes to consecutive indices, a
frame update to the index that `can_id_to_index` gives for its CAN ID, a signal update to the index
that it names. The arrays are functions of the index; only indices below the announced counts are
ever written.

For records that the daemon cut from the catalog each of these is an `overlay` of the entries they
list. For frame updates this needs CAN IDs to be distinct as numbers: the table keeps the last index
of a CAN ID.
-/

namespace Roadcast

open DeltaSync

/-- `CAN_ID_LOOKUP_CAP`. -/
def canIdLookupCap : ℕ := 2048

/-- `UINT16_MAX`, the index of a CAN ID that is not in the table. -/
def noFrameIndex : UInt16 := 0xFFFF

/-- Arrays of frames and signals. -/
structure Replica where
  frames : ℕ → Frame
  signals : ℕ → SignalValue

/-- The arrays after `calloc`. -/
def Replica.zero : Replica := ⟨fun _ => zeroFrame, fun _ => zeroSignal⟩

/-- `can_id_to_index` before anything is known. -/
def emptyCanIdTable : ℕ → UInt16 := fun _ => noFrameIndex

/-- The loop that enters CAN IDs into `can_id_to_index`, from an index on. -/
def fillCanIdTable : ℕ → List UInt16 → (ℕ → UInt16) → ℕ → UInt16
  | _, [], table => table
  | i, canId :: rest, table =>
    fillCanIdTable (i + 1) rest
      (if canId.toNat < canIdLookupCap then Function.update table canId.toNat (UInt16.ofNat i)
      else table)

/-- Decoding a page into the array, from an index on. -/
def placeFrames : ℕ → List Frame → (ℕ → Frame) → ℕ → Frame
  | _, [], frames => frames
  | i, frame :: rest, frames => placeFrames (i + 1) rest (Function.update frames i frame)

/-- The loop of `apply_decoded_frames`. -/
def applyFrames (table : ℕ → UInt16) (frameCount : ℕ) :
    List Frame → (ℕ → Frame) → Option (ℕ → Frame)
  | [], frames => some frames
  | frame :: rest, frames =>
    let target := if frame.canId.toNat < canIdLookupCap then table frame.canId.toNat
      else noFrameIndex
    if target.toNat ≥ frameCount then none
    else applyFrames table frameCount rest (Function.update frames target.toNat frame)

/-- The loop of `apply_decoded_signals`. -/
def applySignals (signalCount : ℕ) :
    List SignalUpdate → (ℕ → SignalValue) → Option (ℕ → SignalValue)
  | [], signals => some signals
  | update :: rest, signals =>
    if update.index.toNat ≥ signalCount then none
    else applySignals signalCount rest (Function.update signals update.index.toNat update.value)

/-- Where `apply_decoded_frames` writes a frame; `none` if it refuses it. -/
def framePlace (table : ℕ → UInt16) (frameCount : ℕ) (frame : Frame) : Option (ℕ × Frame) :=
  let target := if frame.canId.toNat < canIdLookupCap then table frame.canId.toNat
    else noFrameIndex
  if target.toNat ≥ frameCount then none else some (target.toNat, frame)

/-- Where `apply_decoded_signals` writes a signal; `none` if it refuses it. -/
def signalPlace (signalCount : ℕ) (update : SignalUpdate) : Option (ℕ × SignalValue) :=
  if update.index.toNat ≥ signalCount then none else some (update.index.toNat, update.value)

/-- The loop of `apply_decoded_frames` with the array that it leaves when it refuses a frame. -/
def applyDecodedFrames (table : ℕ → UInt16) (frameCount : ℕ) :
    List Frame → (ℕ → Frame) → Bool × (ℕ → Frame) :=
  Writes.writeAll (framePlace table frameCount)

/-- The loop of `apply_decoded_signals` with the array that it leaves when it refuses a signal. -/
def applyDecodedSignals (signalCount : ℕ) :
    List SignalUpdate → (ℕ → SignalValue) → Bool × (ℕ → SignalValue) :=
  Writes.writeAll (signalPlace signalCount)

/-- The loop of `request_signal_snapshot` over one page. -/
def placeSignals (signalCount : ℕ) :
    ℕ → List SignalUpdate → (ℕ → SignalValue) → Option (ℕ → SignalValue)
  | _, [], signals => some signals
  | i, update :: rest, signals =>
    if update.index.toNat ≠ i ∨ update.index.toNat ≥ signalCount then none
    else placeSignals signalCount (i + 1) rest
      (Function.update signals update.index.toNat update.value)

section Refused

/-- Whether the loop succeeds, and what it leaves then. -/
theorem applyFrames_eq (table : ℕ → UInt16) (frameCount : ℕ) (records : List Frame)
    (frames : ℕ → Frame) :
    applyFrames table frameCount records frames =
      if (applyDecodedFrames table frameCount records frames).1 then
        some (applyDecodedFrames table frameCount records frames).2 else none := by
  refine Writes.eq_writeAll (fun _ => rfl) (fun frame rest frames => ?_) records frames
  rw [applyFrames, framePlace]
  generalize (if frame.canId.toNat < canIdLookupCap then table frame.canId.toNat
    else noFrameIndex) = target
  split
  · rfl
  · rfl

/-- Whether the loop over signals succeeds, and what it leaves then. -/
theorem applySignals_eq (signalCount : ℕ) (records : List SignalUpdate)
    (signals : ℕ → SignalValue) :
    applySignals signalCount records signals =
      if (applyDecodedSignals signalCount records signals).1 then
        some (applyDecodedSignals signalCount records signals).2 else none := by
  refine Writes.eq_writeAll (fun _ => rfl) (fun update rest signals => ?_) records signals
  rw [applySignals, signalPlace]
  split
  · rfl
  · rfl

end Refused

variable {cat : Catalog}

/-- The entries of an array below a count. -/
def entries {A : Type*} (n : ℕ) (array : ℕ → A) : Fin n → A := fun i => array i.val

/-- An update of an array is one of its entries. -/
theorem entries_update {A : Type*} {n : ℕ} (array : ℕ → A) (i : Fin n) (a : A) :
    entries n (Function.update array i.val a) = Function.update (entries n array) i a := by
  funext j
  by_cases hj : j = i
  · subst hj
    simp [entries]
  · have hval : j.val ≠ i.val := fun h => hj (Fin.ext h)
    simp [entries, hj, hval]

section Pages

/-- A page that is placed behind the frames of the pages before it extends them. -/
theorem map_range_placeFrames (start : ℕ) (records : List Frame) (array : ℕ → Frame) :
    (List.range (start + records.length)).map (placeFrames start records array) =
      (List.range start).map array ++ records := by
  induction records generalizing start array with
  | nil => simp [placeFrames]
  | cons record rest ih =>
    have hbefore : (List.range start).map (Function.update array start record) =
        (List.range start).map array := by
      refine List.map_congr_left fun i hi => ?_
      exact Function.update_of_ne (List.mem_range.mp hi).ne _ _
    have hnext := ih (start + 1) (Function.update array start record)
    rw [List.length_cons, Nat.add_comm rest.length 1, ← Nat.add_assoc, placeFrames, hnext,
      List.range_succ, List.map_append, hbefore]
    simp

/-- A page of consecutive frames overwrites the entries it lists. -/
theorem entries_placeFrames {n : ℕ} (start : ℕ) (indices : List (Fin n)) (frames : Fin n → Frame)
    (array : ℕ → Frame)
    (hindices : indices.map Fin.val = List.range' start indices.length) :
    entries n (placeFrames start (indices.map frames) array) =
      overlay indices frames (entries n array) := by
  induction indices generalizing start array with
  | nil => simp [placeFrames]
  | cons i rest ih =>
    rw [List.map_cons, List.length_cons, List.range'_succ, List.cons.injEq] at hindices
    obtain ⟨rfl, hrest⟩ := hindices
    rw [List.map_cons, placeFrames, ih _ _ hrest, overlay_cons, entries_update]

/-- The index of a signal survives the cast to its wire type. -/
theorem signalUpdate_index (signals : Fin cat.signalCount → SignalValue) (i : Fin cat.signalCount) :
    (signalUpdate signals i).index.toNat = i.val := by
  have hcount := cat.signalCount_lt
  have hlt := i.isLt
  rw [signalUpdate, UInt32.toNat_ofNat']
  omega

/-- A page of consecutive signals overwrites the entries it lists. -/
theorem entries_placeSignals (start : ℕ) (indices : List (Fin cat.signalCount))
    (signals : Fin cat.signalCount → SignalValue) (array : ℕ → SignalValue)
    (hindices : indices.map Fin.val = List.range' start indices.length) :
    ∃ array', placeSignals cat.signalCount start (indices.map (signalUpdate signals)) array =
      some array' ∧
      entries cat.signalCount array' = overlay indices signals (entries cat.signalCount array) := by
  induction indices generalizing start array with
  | nil => exact ⟨array, rfl, by simp⟩
  | cons i rest ih =>
    rw [List.map_cons, List.length_cons, List.range'_succ, List.cons.injEq] at hindices
    obtain ⟨rfl, hrest⟩ := hindices
    obtain ⟨array', happly, hentries⟩ := ih (i.val + 1) (Function.update array i.val (signals i)) hrest
    refine ⟨array', ?_, ?_⟩
    · have hbound : ¬ ((signalUpdate signals i).index.toNat ≠ i.val ∨
          (signalUpdate signals i).index.toNat ≥ cat.signalCount) := by
        rw [signalUpdate_index]
        simp
      rw [List.map_cons, placeSignals, if_neg hbound, signalUpdate_index]
      exact happly
    · rw [hentries, overlay_cons, entries_update]

end Pages

section Updates

/-- Signal updates overwrite the entries they list. -/
theorem entries_applySignals (indices : List (Fin cat.signalCount))
    (signals : Fin cat.signalCount → SignalValue) (array : ℕ → SignalValue) :
    ∃ array', applySignals cat.signalCount (indices.map (signalUpdate signals)) array =
      some array' ∧
      entries cat.signalCount array' = overlay indices signals (entries cat.signalCount array) := by
  induction indices generalizing array with
  | nil => exact ⟨array, rfl, by simp⟩
  | cons i rest ih =>
    obtain ⟨array', happly, hentries⟩ := ih (Function.update array i.val (signals i))
    refine ⟨array', ?_, ?_⟩
    · rw [List.map_cons, applySignals, signalUpdate_index, if_neg (Nat.not_le.mpr i.isLt)]
      exact happly
    · rw [hentries, overlay_cons, entries_update]

/-- The table gives every CAN ID of the catalog an index with that CAN ID. -/
def KnowsCanIds (cat : Catalog) (table : ℕ → UInt16) : Prop :=
  ∀ i, ∃ j : Fin cat.frameCount,
    (table (cat.canIds i).toNat).toNat = j.val ∧ cat.canIds j = cat.canIds i

/-- Every entry of an array carries the CAN ID of its index. -/
def CarriesCanIds (cat : Catalog) (array : ℕ → Frame) : Prop :=
  ∀ i : Fin cat.frameCount, (array i.val).canId = cat.canIds i

/-- A frame with the CAN ID of its index may be written there. -/
theorem CarriesCanIds.update {array : ℕ → Frame} (h : CarriesCanIds cat array)
    (j : Fin cat.frameCount) (frame : Frame) (hframe : frame.canId = cat.canIds j) :
    CarriesCanIds cat (Function.update array j.val frame) := by
  intro i
  by_cases hi : i = j
  · subst hi
    rw [Function.update_self]
    exact hframe
  · rw [Function.update_of_ne fun hval => hi (Fin.ext hval)]
    exact h i

/-- The CAN IDs of a catalog are entries of the lookup table. -/
theorem canId_lt_cap (cat : Catalog) (i : Fin cat.frameCount) :
    (cat.canIds i).toNat < canIdLookupCap := by
  have hle := cat.canIds_le i
  unfold canIdLookupCap
  omega

/-- Frame updates of the catalog are never refused and keep the CAN IDs in place. If CAN IDs are
distinct they overwrite the entries they list. -/
theorem entries_applyFrames {table : ℕ → UInt16} (htable : KnowsCanIds cat table)
    (indices : List (Fin cat.frameCount)) {frames : Fin cat.frameCount → Frame}
    (hframes : CatalogFrames frames) (array : ℕ → Frame) :
    ∃ array', applyFrames table cat.frameCount (indices.map frames) array = some array' ∧
      (CarriesCanIds cat array → CarriesCanIds cat array') ∧
      (Function.Injective cat.canIds →
        entries cat.frameCount array' = overlay indices frames (entries cat.frameCount array)) := by
  induction indices generalizing array with
  | nil => exact ⟨array, rfl, id, fun _ => by simp⟩
  | cons i rest ih =>
    obtain ⟨j, hj, hcanId⟩ := htable i
    obtain ⟨array', happly, hcarries, hentries⟩ := ih (Function.update array j.val (frames i))
    have hframe := (hframes i).1
    refine ⟨array', ?_, fun hbefore => hcarries ?_, fun hinjective => ?_⟩
    · rw [List.map_cons, applyFrames, hframe, if_pos (canId_lt_cap cat i), hj,
        if_neg (Nat.not_le.mpr j.isLt)]
      exact happly
    · exact hbefore.update j (frames i) (hframe.trans hcanId.symm)
    · rw [hentries hinjective, overlay_cons, hinjective hcanId, entries_update]

/-- After the table is filled a CAN ID has the index of an entry with it, or was not entered. -/
theorem fillCanIdTable_apply (canIds : List UInt16) (start : ℕ) (table : ℕ → UInt16) {x : ℕ}
    (hx : x < canIdLookupCap) :
    (∃ (k : ℕ) (hk : k < canIds.length), (canIds.get ⟨k, hk⟩).toNat = x ∧
      fillCanIdTable start canIds table x = UInt16.ofNat (start + k)) ∨
    ((∀ canId ∈ canIds, canId.toNat ≠ x) ∧ fillCanIdTable start canIds table x = table x) := by
  induction canIds generalizing start table with
  | nil => exact Or.inr ⟨nofun, rfl⟩
  | cons canId rest ih =>
    rw [fillCanIdTable]
    rcases ih (start + 1) (if canId.toNat < canIdLookupCap then
        Function.update table canId.toNat (UInt16.ofNat start) else table) with
      ⟨k, hk, hget, hvalue⟩ | ⟨hnone, hvalue⟩
    · refine Or.inl ⟨k + 1, Nat.succ_lt_succ hk, hget, ?_⟩
      rw [hvalue]
      congr 1
      omega
    · by_cases hfirst : canId.toNat = x
      · refine Or.inl ⟨0, Nat.zero_lt_succ _, hfirst, ?_⟩
        rw [hvalue, if_pos (hfirst ▸ hx), hfirst, Function.update_self, Nat.add_zero]
      · refine Or.inr ⟨?_, ?_⟩
        · intro other hother
          rcases List.mem_cons.mp hother with rfl | hrest
          · exact hfirst
          · exact hnone other hrest
        · rw [hvalue]
          split
          · exact Function.update_of_ne (Ne.symm hfirst) _ _
          · rfl

/-- The last CAN ID that is entered. -/
theorem fillCanIdTable_concat (canIds : List UInt16) (start : ℕ) (table : ℕ → UInt16)
    {canId : UInt16} (hcanId : canId.toNat < canIdLookupCap) :
    fillCanIdTable start (canIds ++ [canId]) table canId.toNat =
      UInt16.ofNat (start + canIds.length) := by
  induction canIds generalizing start table with
  | nil => rw [List.nil_append, fillCanIdTable, fillCanIdTable, if_pos hcanId, Function.update_self,
      List.length_nil, Nat.add_zero]
  | cons first rest ih =>
    rw [List.cons_append, fillCanIdTable, ih, List.length_cons]
    congr 1
    omega

/-- Filling the table from entries that carry their CAN IDs makes them known. -/
theorem fillCanIdTable_knows (table : ℕ → UInt16) :
    KnowsCanIds cat (fillCanIdTable 0 (List.ofFn cat.canIds) table) := by
  intro i
  rcases fillCanIdTable_apply (List.ofFn cat.canIds) 0 table (canId_lt_cap cat i) with
    ⟨k, hk, hget, hvalue⟩ | ⟨hnone, -⟩
  · rw [List.length_ofFn] at hk
    have hcount := cat.frameCount_le
    refine ⟨⟨k, hk⟩, ?_, ?_⟩
    · rw [hvalue, Nat.zero_add, UInt16.toNat_ofNat']
      exact Nat.mod_eq_of_lt (by omega)
    · simp only [List.get_eq_getElem, List.getElem_ofFn] at hget
      exact UInt16.toNat_inj.mp hget
  · exact absurd rfl (hnone (cat.canIds i) (List.mem_ofFn.mpr ⟨i, rfl⟩))

end Updates

end Roadcast
