import Roadcast.Catalog.Tables

/-!
# Schema pages

`roadcast_encode_schema_chunk` of `catalog.c` and `roadcast_decode_schema_chunk` of `protocol.c`.
Entries have variable length; the encoder takes as many as fit and the decoder must consume exactly
the payload. Names and units carry explicit lengths on the wire and terminators only in memory.
-/

namespace Roadcast

open BigEndian

/-- `ROADCAST_ITEM_CAN_SIGNAL`. -/
def itemCanSignal : UInt8 := 2

/-- `ROADCAST_SOURCE_RAW_CAN`. -/
def sourceRawCan : UInt8 := 1

/-- `ROADCAST_SCHEMA_FLAG_SIGNED`. -/
def schemaFlagSigned : UInt8 := 1

/-- `ROADCAST_SCHEMA_FLAG_CALIBRATED`. -/
def schemaFlagCalibrated : UInt8 := 2

/-- `roadcast_schema_entry_t`. -/
structure SchemaEntry where
  stableId : UInt64
  index : UInt32
  invalidSignalIndex : UInt32
  canId : UInt16
  kind : UInt8
  source : UInt8
  width : UInt8
  flags : UInt8
  name : List UInt8
  unit : List UInt8
  scale : UInt64
  offset : UInt64
  deriving DecidableEq, Repr

/-- The bytes an entry takes. -/
def SchemaEntry.size (entry : SchemaEntry) : ℕ :=
  schemaEntryFixedSize + entry.name.length + entry.unit.length

/-- The entry that announces a signal of the catalog. -/
def Catalog.schemaEntry (cat : Catalog) (i : Fin cat.signalCount) : SchemaEntry :=
  let definition := cat.signals i
  { stableId := definition.stableId
    index := UInt32.ofNat i.val
    invalidSignalIndex := definition.invalidSignalIndex.elim uint32Max fun j => UInt32.ofNat j.val
    canId := definition.canId
    kind := itemCanSignal
    source := sourceRawCan
    width := definition.width
    flags := (if definition.isSigned ≠ 0 then schemaFlagSigned else 0) |||
      (if definition.calibrated ≠ 0 then schemaFlagCalibrated else 0)
    name := definition.name
    unit := definition.unit
    scale := definition.scale
    offset := definition.offset }

/-- The bytes of an entry. -/
def encodeSchemaEntry (entry : SchemaEntry) : List UInt8 :=
  putU64 entry.stableId ++ (putU32 entry.index ++ (putU32 entry.invalidSignalIndex ++
    (putU16 entry.canId ++ ([entry.kind, entry.source, entry.width, entry.flags] ++
      (putU16 (UInt16.ofNat entry.name.length) ++ (putU16 (UInt16.ofNat entry.unit.length) ++
        (putU16 0 ++ (putU64 entry.scale ++ (putU64 entry.offset ++
          (entry.name ++ entry.unit))))))))))

/-- The entries that fit into `room` bytes, the loop of the encoder. -/
def fittingEntries : ℕ → List SchemaEntry → List SchemaEntry
  | _, [] => []
  | room, entry :: rest =>
    if entry.size > room then [] else entry :: fittingEntries (room - entry.size) rest

/-- The prefix of a chunk. -/
def encodeSchemaPrefix (schemaVersion totalCount startIndex : UInt32) (count : ℕ)
    (schemaHash : UInt64) : List UInt8 :=
  putU32 schemaVersion ++ (putU32 totalCount ++ (putU32 startIndex ++
    (putU32 (UInt32.ofNat count) ++ putU64 schemaHash)))

/-- The entries of the chunk that starts at `startIndex`. -/
def schemaChunkEntries (cat : Catalog) (capacity : ℕ) (startIndex : UInt32) : List SchemaEntry :=
  fittingEntries (capacity - schemaChunkPrefixSize)
    (((List.finRange cat.signalCount).drop startIndex.toNat).map cat.schemaEntry)

/-- `roadcast_encode_schema_chunk`; `none` stands for the length zero. -/
def encodeSchemaChunk (cat : Catalog) (capacity : ℕ) (startIndex : UInt32) :
    Option (List UInt8) :=
  if capacity < schemaChunkPrefixSize ∨ startIndex.toNat ≥ cat.signalCount then none
  else
    let entries := schemaChunkEntries cat capacity startIndex
    if entries = [] then none
    else some (encodeSchemaPrefix schemaVersion cat.signalCountWord startIndex entries.length
      cat.schemaHash ++ entries.flatMap encodeSchemaEntry)

/-- What a decoded chunk delivers. -/
structure SchemaChunk where
  schemaVersion : UInt32
  totalCount : UInt32
  startIndex : UInt32
  schemaHash : UInt64
  entries : List SchemaEntry
  deriving DecidableEq, Repr

/-- The entry at the front of the remaining payload, with its two lengths. -/
def readSchemaEntry (encoded : List UInt8) : SchemaEntry :=
  let nameLength := (getU16 (encoded.drop 22)).toNat
  let unitLength := (getU16 (encoded.drop 24)).toNat
  { stableId := getU64 encoded
    index := getU32 (encoded.drop 8)
    invalidSignalIndex := getU32 (encoded.drop 12)
    canId := getU16 (encoded.drop 16)
    kind := byteAt encoded 18
    source := byteAt encoded 19
    width := byteAt encoded 20
    flags := byteAt encoded 21
    scale := getU64 (encoded.drop 28)
    offset := getU64 (encoded.drop 36)
    name := (encoded.drop schemaEntryFixedSize).take nameLength
    unit := (encoded.drop (schemaEntryFixedSize + nameLength)).take unitLength }

/-- The checks the decoder makes on the fields of an entry. -/
def SchemaEntry.accepted (entry : SchemaEntry) (totalCount expectedIndex : UInt32) : Bool :=
  decide (entry.index = expectedIndex) && decide (entry.kind = itemCanSignal) &&
    decide (entry.source = sourceRawCan) && decide (entry.width ≠ 0) &&
    decide (entry.width.toNat ≤ 64) &&
    (decide (entry.invalidSignalIndex.toNat < totalCount.toNat) ||
      decide (entry.invalidSignalIndex = uint32Max))

/-- The loop of the decoder over the remaining payload. -/
def readSchemaEntries (totalCount : UInt32) : ℕ → UInt32 → List UInt8 → Option (List SchemaEntry)
  | 0, _, remaining => if remaining = [] then some [] else none
  | count + 1, expectedIndex, remaining =>
    let nameLength := (getU16 (remaining.drop 22)).toNat
    let unitLength := (getU16 (remaining.drop 24)).toNat
    if remaining.length < schemaEntryFixedSize then none
    else if getU16 (remaining.drop 26) ≠ 0 ∨ nameLength > schemaNameMax ∨
        unitLength > schemaUnitMax ∨
        nameLength + unitLength > remaining.length - schemaEntryFixedSize then none
    else
      let entry := readSchemaEntry remaining
      if entry.accepted totalCount expectedIndex then
        (readSchemaEntries totalCount count (expectedIndex + 1)
          (remaining.drop (schemaEntryFixedSize + nameLength + unitLength))).map (entry :: ·)
      else none

/-- `roadcast_decode_schema_chunk`. -/
def decodeSchemaChunk (payload : List UInt8) (entryCapacity : ℕ) : Option SchemaChunk :=
  if payload.length < schemaChunkPrefixSize then none
  else
    let totalCount := getU32 (payload.drop 4)
    let startIndex := getU32 (payload.drop 8)
    let count := (getU32 (payload.drop 12)).toNat
    if count > entryCapacity ∨ startIndex.toNat > totalCount.toNat ∨
        count > totalCount.toNat - startIndex.toNat then none
    else
      (readSchemaEntries totalCount count startIndex (payload.drop schemaChunkPrefixSize)).map
        fun entries => ⟨getU32 payload, totalCount, startIndex, getU64 (payload.drop 16), entries⟩

/-- An entry takes as many bytes as its size says. -/
theorem encodeSchemaEntry_length (entry : SchemaEntry) :
    (encodeSchemaEntry entry).length = entry.size := by
  simp only [encodeSchemaEntry, SchemaEntry.size, schemaEntryFixedSize, List.length_append,
    putU16_length, putU32_length, putU64_length, List.length_cons, List.length_nil]
  omega

/-- An entry with lengths within the limits. -/
def SchemaEntry.Bounded (entry : SchemaEntry) : Prop :=
  entry.name.length ≤ schemaNameMax ∧ entry.unit.length ≤ schemaUnitMax

section Entry

variable (entry : SchemaEntry) (rest : List UInt8)

/-- The length of the name is read back from its place in an entry. -/
theorem encodeSchemaEntry_nameLength (h : entry.Bounded) :
    (getU16 ((encodeSchemaEntry entry ++ rest).drop 22)).toNat = entry.name.length := by
  have hread : getU16 ((encodeSchemaEntry entry ++ rest).drop 22) =
      UInt16.ofNat entry.name.length := getU16_putU16 _ _
  have hle : entry.name.length ≤ 63 := h.1
  rw [hread, UInt16.toNat_ofNat']
  omega

/-- The length of the unit is read back from its place in an entry. -/
theorem encodeSchemaEntry_unitLength (h : entry.Bounded) :
    (getU16 ((encodeSchemaEntry entry ++ rest).drop 24)).toNat = entry.unit.length := by
  have hread : getU16 ((encodeSchemaEntry entry ++ rest).drop 24) =
      UInt16.ofNat entry.unit.length := getU16_putU16 _ _
  have hle : entry.unit.length ≤ 15 := h.2
  rw [hread, UInt16.toNat_ofNat']
  omega

/-- A bounded entry is read back from the front of the remaining payload. -/
theorem readSchemaEntry_encode (h : entry.Bounded) :
    readSchemaEntry (encodeSchemaEntry entry ++ rest) = entry := by
  have h0 : getU64 (encodeSchemaEntry entry ++ rest) = entry.stableId := getU64_putU64 _ _
  have h8 : getU32 ((encodeSchemaEntry entry ++ rest).drop 8) = entry.index := getU32_putU32 _ _
  have h12 : getU32 ((encodeSchemaEntry entry ++ rest).drop 12) = entry.invalidSignalIndex :=
    getU32_putU32 _ _
  have h16 : getU16 ((encodeSchemaEntry entry ++ rest).drop 16) = entry.canId := getU16_putU16 _ _
  have h28 : getU64 ((encodeSchemaEntry entry ++ rest).drop 28) = entry.scale := getU64_putU64 _ _
  have h36 : getU64 ((encodeSchemaEntry entry ++ rest).drop 36) = entry.offset :=
    getU64_putU64 _ _
  have hdrop : (encodeSchemaEntry entry ++ rest).drop schemaEntryFixedSize =
      entry.name ++ (entry.unit ++ rest) := by
    change entry.name ++ entry.unit ++ rest = _
    rw [List.append_assoc]
  have hname : ((encodeSchemaEntry entry ++ rest).drop schemaEntryFixedSize).take
      entry.name.length = entry.name := by
    rw [hdrop, List.take_left]
  have hunit : ((encodeSchemaEntry entry ++ rest).drop
      (schemaEntryFixedSize + entry.name.length)).take entry.unit.length = entry.unit := by
    rw [← List.drop_drop, hdrop, List.drop_left, List.take_left]
  simp only [readSchemaEntry, encodeSchemaEntry_nameLength entry rest h,
    encodeSchemaEntry_unitLength entry rest h, h0, h8, h12, h16, h28, h36, hname, hunit]
  rfl

end Entry

/-- The decoder's loop reads back any sequence of bounded entries that carry consecutive accepted
indices. -/
theorem readSchemaEntries_encode (totalCount : UInt32) (entries : List SchemaEntry)
    (startIndex : UInt32) (hbounded : ∀ entry ∈ entries, entry.Bounded)
    (haccepted : ∀ k (hk : k < entries.length),
      entries[k].accepted totalCount (startIndex + UInt32.ofNat k) = true) :
    readSchemaEntries totalCount entries.length startIndex (entries.flatMap encodeSchemaEntry) =
      some entries := by
  induction entries generalizing startIndex with
  | nil => rfl
  | cons entry entries ih =>
    have hentry : entry.Bounded := hbounded entry (by simp)
    have hlength := encodeSchemaEntry_length entry
    have hzero : getU16 ((encodeSchemaEntry entry ++ entries.flatMap encodeSchemaEntry).drop 26) =
        0 := getU16_putU16 _ _
    have hfirst : entry.accepted totalCount startIndex = true := by
      have hzeroth := haccepted 0 (by simp)
      change entry.accepted totalCount (startIndex + 0) = true at hzeroth
      rwa [UInt32.add_zero] at hzeroth
    have hrest := ih (startIndex + 1) (fun e he => hbounded e (by simp [he])) fun k hk => by
      have hnext := haccepted (k + 1) (by simpa using hk)
      rw [List.getElem_cons_succ, UInt32.ofNat_add] at hnext
      rwa [UInt32.add_assoc, UInt32.add_comm 1]
    have hdrop : (encodeSchemaEntry entry ++ entries.flatMap encodeSchemaEntry).drop
        (schemaEntryFixedSize + entry.name.length + entry.unit.length) =
          entries.flatMap encodeSchemaEntry := by
      change List.drop entry.size _ = _
      rw [← hlength, List.drop_left]
    have hsize : (encodeSchemaEntry entry ++ entries.flatMap encodeSchemaEntry).length ≥
        schemaEntryFixedSize + entry.name.length + entry.unit.length := by
      rw [List.length_append, hlength]
      exact Nat.le_add_right _ _
    have hname : entry.name.length ≤ schemaNameMax := hentry.1
    have hunit : entry.unit.length ≤ schemaUnitMax := hentry.2
    simp only [List.flatMap_cons, List.length_cons, readSchemaEntries,
      encodeSchemaEntry_nameLength entry _ hentry, encodeSchemaEntry_unitLength entry _ hentry,
      readSchemaEntry_encode entry _ hentry, hzero, hfirst, hdrop, hrest, if_true, Option.map_some]
    rw [if_neg (by omega), if_neg (by simp only [ne_eq, not_true_eq_false, false_or]; omega)]

/-- The fitting entries are the first ones. -/
theorem fittingEntries_prefix (room : ℕ) (entries : List SchemaEntry) :
    fittingEntries room entries <+: entries := by
  induction entries generalizing room with
  | nil => exact List.nil_prefix
  | cons entry entries ih =>
    unfold fittingEntries
    split
    · exact List.nil_prefix
    · exact List.prefix_cons_inj entry |>.mpr (ih _)

/-- The fitting entries fit. -/
theorem fittingEntries_length_le (room : ℕ) (entries : List SchemaEntry) :
    ((fittingEntries room entries).flatMap encodeSchemaEntry).length ≤ room := by
  induction entries generalizing room with
  | nil => exact Nat.zero_le room
  | cons entry entries ih =>
    unfold fittingEntries
    split
    · exact Nat.zero_le room
    · have hrest := ih (room - entry.size)
      rw [List.flatMap_cons, List.length_append, encodeSchemaEntry_length]
      omega

/-- The first entry that is left out does not fit after the others. -/
theorem fittingEntries_greedy (room : ℕ) (entries : List SchemaEntry) {entry : SchemaEntry}
    (h : entries[(fittingEntries room entries).length]? = some entry) :
    room < ((fittingEntries room entries).flatMap encodeSchemaEntry).length + entry.size := by
  induction entries generalizing room with
  | nil => simp at h
  | cons first entries ih =>
    unfold fittingEntries at h ⊢
    by_cases hfits : first.size > room
    · rw [if_pos hfits, List.length_nil, List.getElem?_cons_zero, Option.some.injEq] at h
      rw [if_pos hfits, List.flatMap_nil, List.length_nil, ← h]
      omega
    · rw [if_neg hfits, List.length_cons, List.getElem?_cons_succ] at h
      have hrest := ih (room - first.size) h
      rw [if_neg hfits, List.flatMap_cons, List.length_append, encodeSchemaEntry_length]
      omega

/-- The entry of a signal passes the decoder's checks at its own index. -/
theorem Catalog.schemaEntry_accepted (cat : Catalog) (i : Fin cat.signalCount) :
    (cat.schemaEntry i).accepted cat.signalCountWord (UInt32.ofNat i.val) = true := by
  have hwidth := cat.width_range i
  have hne : (cat.signals i).width ≠ 0 := by
    intro hzero
    rw [hzero] at hwidth
    simp at hwidth
  have hflag : (cat.schemaEntry i).invalidSignalIndex.toNat < cat.signalCount ∨
      (cat.schemaEntry i).invalidSignalIndex = uint32Max := by
    cases hindex : (cat.signals i).invalidSignalIndex with
    | none => exact Or.inr (by simp [Catalog.schemaEntry, hindex])
    | some j =>
      have hlt := cat.signalCount_lt
      have hj := j.isLt
      refine Or.inl ?_
      simp only [Catalog.schemaEntry, hindex, Option.elim_some, UInt32.toNat_ofNat']
      omega
  have hrange : (cat.schemaEntry i).width.toNat ≤ 64 := hwidth.2
  have hnonzero : (cat.schemaEntry i).width ≠ 0 := hne
  have hindex : (cat.schemaEntry i).index = UInt32.ofNat i.val := rfl
  have hkind : (cat.schemaEntry i).kind = itemCanSignal := rfl
  have hsource : (cat.schemaEntry i).source = sourceRawCan := rfl
  simp only [SchemaEntry.accepted, Catalog.signalCountWord_toNat, hindex, hkind, hsource,
    decide_true, Bool.true_and, Bool.and_eq_true, Bool.or_eq_true, decide_eq_true_eq]
  exact ⟨⟨hnonzero, hrange⟩, hflag⟩

/-- The names and units of a catalog fit the fields of their lengths. -/
theorem Catalog.schemaEntry_bounded (cat : Catalog) (i : Fin cat.signalCount) :
    (cat.schemaEntry i).Bounded :=
  ⟨(cat.name_length i).2, cat.unit_length i⟩

/-- The `k`-th entry of a chunk announces the signal `k` places after the start. -/
theorem schemaChunkEntries_getElem (cat : Catalog) (capacity : ℕ) (startIndex : UInt32) (k : ℕ)
    (hk : k < (schemaChunkEntries cat capacity startIndex).length) :
    ∃ hlt : startIndex.toNat + k < cat.signalCount,
      (schemaChunkEntries cat capacity startIndex)[k] =
        cat.schemaEntry ⟨startIndex.toNat + k, hlt⟩ := by
  have hpre := fittingEntries_prefix (capacity - schemaChunkPrefixSize)
    (((List.finRange cat.signalCount).drop startIndex.toNat).map cat.schemaEntry)
  have hlength := hpre.length_le
  rw [List.length_map, List.length_drop, List.length_finRange] at hlength
  have hlt : startIndex.toNat + k < cat.signalCount := by
    unfold schemaChunkEntries at hk
    omega
  refine ⟨hlt, (hpre.getElem hk).trans ?_⟩
  rw [List.getElem_map, List.getElem_drop, List.getElem_finRange]
  rfl

/-- The entries of a chunk stay within the catalog. -/
theorem schemaChunkEntries_length_le (cat : Catalog) (capacity : ℕ) (startIndex : UInt32) :
    (schemaChunkEntries cat capacity startIndex).length ≤ cat.signalCount - startIndex.toNat := by
  have hpre := fittingEntries_prefix (capacity - schemaChunkPrefixSize)
    (((List.finRange cat.signalCount).drop startIndex.toNat).map cat.schemaEntry)
  have hlength := hpre.length_le
  rwa [List.length_map, List.length_drop, List.length_finRange] at hlength

/-- The entries of a chunk announce the signals from its start on. -/
theorem schemaChunkEntries_eq (cat : Catalog) (capacity : ℕ) (startIndex : UInt32) :
    schemaChunkEntries cat capacity startIndex =
      (((List.finRange cat.signalCount).drop startIndex.toNat).take
        (schemaChunkEntries cat capacity startIndex).length).map cat.schemaEntry := by
  have hpre := fittingEntries_prefix (capacity - schemaChunkPrefixSize)
    (((List.finRange cat.signalCount).drop startIndex.toNat).map cat.schemaEntry)
  rw [List.map_take]
  exact List.prefix_iff_eq_take.mp hpre

/-- Every entry fits a chunk of its own. -/
theorem Catalog.schemaEntry_size_le (cat : Catalog) (i : Fin cat.signalCount) :
    (cat.schemaEntry i).size ≤ schemaEntryFixedSize + schemaNameMax + schemaUnitMax := by
  obtain ⟨hname, hunit⟩ := cat.schemaEntry_bounded i
  unfold SchemaEntry.size
  omega

/-- The encoder stops only at the end of the catalog or before an entry that does not fit. -/
theorem schemaChunkEntries_greedy (cat : Catalog) (capacity : ℕ) (startIndex : UInt32)
    (i : Fin cat.signalCount)
    (hi : i.val = startIndex.toNat + (schemaChunkEntries cat capacity startIndex).length) :
    capacity - schemaChunkPrefixSize <
      ((schemaChunkEntries cat capacity startIndex).flatMap encodeSchemaEntry).length +
        (cat.schemaEntry i).size := by
  have hget : (((List.finRange cat.signalCount).drop startIndex.toNat).map cat.schemaEntry)[
      (schemaChunkEntries cat capacity startIndex).length]? = some (cat.schemaEntry i) := by
    rw [List.getElem?_map, List.getElem?_drop, ← hi,
      List.getElem?_eq_getElem (by rw [List.length_finRange]; exact i.isLt), List.getElem_finRange]
    rfl
  exact fittingEntries_greedy _ _ hget

/-- A chunk with room for the longest entry has one. -/
theorem encodeSchemaChunk_exists (cat : Catalog) {capacity : ℕ} {startIndex : UInt32}
    (hstart : startIndex.toNat < cat.signalCount)
    (hcapacity : schemaChunkPrefixSize + schemaEntryFixedSize + schemaNameMax + schemaUnitMax ≤
      capacity) :
    ∃ payload, encodeSchemaChunk cat capacity startIndex = some payload ∧
      payload.length = schemaChunkPrefixSize +
        ((schemaChunkEntries cat capacity startIndex).flatMap encodeSchemaEntry).length := by
  have hnonempty : schemaChunkEntries cat capacity startIndex ≠ [] := by
    intro hnil
    have hgreedy := schemaChunkEntries_greedy cat capacity startIndex
      ⟨startIndex.toNat, hstart⟩ (by rw [hnil]; rfl)
    have hsize := cat.schemaEntry_size_le ⟨startIndex.toNat, hstart⟩
    rw [hnil, List.flatMap_nil, List.length_nil] at hgreedy
    omega
  rw [encodeSchemaChunk, if_neg (by omega)]
  dsimp only
  rw [if_neg hnonempty]
  refine ⟨_, rfl, ?_⟩
  rw [List.length_append]
  rfl

/-- The SDK reads back every chunk the daemon encodes: the announced catalog, the requested start
and the entries that fitted, at least one and none beyond the catalog. -/
theorem decodeSchemaChunk_encode (cat : Catalog) (capacity : ℕ) (startIndex : UInt32)
    (payload : List UInt8) (entryCapacity : ℕ)
    (hpayload : encodeSchemaChunk cat capacity startIndex = some payload)
    (hcapacity : (schemaChunkEntries cat capacity startIndex).length ≤ entryCapacity) :
    decodeSchemaChunk payload entryCapacity =
        some ⟨schemaVersion, cat.signalCountWord, startIndex, cat.schemaHash,
          schemaChunkEntries cat capacity startIndex⟩ ∧
      payload.length ≤ capacity ∧ schemaChunkEntries cat capacity startIndex ≠ [] ∧
      startIndex.toNat + (schemaChunkEntries cat capacity startIndex).length ≤ cat.signalCount := by
  unfold encodeSchemaChunk at hpayload
  split at hpayload
  · contradiction
  rename_i hstart
  rw [not_or] at hstart
  dsimp only at hpayload
  split at hpayload
  · contradiction
  rename_i hnonempty
  set entries := schemaChunkEntries cat capacity startIndex with hentries
  have hbytes : payload = encodeSchemaPrefix schemaVersion cat.signalCountWord startIndex
      entries.length cat.schemaHash ++ entries.flatMap encodeSchemaEntry :=
    (Option.some.inj hpayload).symm
  have hwithin : startIndex.toNat + entries.length ≤ cat.signalCount := by
    have hpos : 0 < entries.length := List.length_pos_iff.mpr hnonempty
    obtain ⟨hlt, -⟩ := schemaChunkEntries_getElem cat capacity startIndex (entries.length - 1)
      (Nat.sub_lt hpos Nat.one_pos)
    omega
  have hfit : (entries.flatMap encodeSchemaEntry).length ≤ capacity - schemaChunkPrefixSize :=
    fittingEntries_length_le _ _
  have hhead : (encodeSchemaPrefix schemaVersion cat.signalCountWord startIndex entries.length
      cat.schemaHash).length = schemaChunkPrefixSize := rfl
  refine ⟨?_, ?_, hnonempty, hwithin⟩
  · have h0 : getU32 payload = schemaVersion := by
      rw [hbytes]
      exact getU32_putU32 _ _
    have h4 : getU32 (payload.drop 4) = cat.signalCountWord := by
      rw [hbytes]
      exact getU32_putU32 _ _
    have h8 : getU32 (payload.drop 8) = startIndex := by
      rw [hbytes]
      exact getU32_putU32 _ _
    have h12 : (getU32 (payload.drop 12)).toNat = entries.length := by
      have hread : getU32 (payload.drop 12) = UInt32.ofNat entries.length := by
        rw [hbytes]
        exact getU32_putU32 _ _
      have hlt := cat.signalCount_lt
      rw [hread, UInt32.toNat_ofNat']
      omega
    have h16 : getU64 (payload.drop 16) = cat.schemaHash := by
      rw [hbytes]
      exact getU64_putU64 _ _
    have hdrop : payload.drop schemaChunkPrefixSize = entries.flatMap encodeSchemaEntry := by
      rw [hbytes, ← hhead, List.drop_left]
    have hread := readSchemaEntries_encode cat.signalCountWord entries startIndex
      (fun entry hentry => by
        obtain ⟨k, hk, rfl⟩ := List.getElem_of_mem hentry
        obtain ⟨hlt, heq⟩ := schemaChunkEntries_getElem cat capacity startIndex k hk
        rw [heq]
        exact cat.schemaEntry_bounded _)
      (fun k hk => by
        obtain ⟨hlt, heq⟩ := schemaChunkEntries_getElem cat capacity startIndex k hk
        have haccepted := cat.schemaEntry_accepted ⟨startIndex.toNat + k, hlt⟩
        rw [UInt32.ofNat_add, UInt32.ofNat_toNat] at haccepted
        rw [heq]
        exact haccepted)
    have hlong : ¬ payload.length < schemaChunkPrefixSize := by
      rw [hbytes, List.length_append, hhead]
      omega
    simp only [decodeSchemaChunk, h0, h4, h8, h12, h16, hdrop, hread, Option.map_some,
      Catalog.signalCountWord_toNat]
    rw [if_neg hlong, if_neg (by omega)]
  · rw [hbytes, List.length_append, hhead]
    omega

end Roadcast
