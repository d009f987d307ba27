import Roadcast.Sdk.Memory

/-!
# The decoders stay within their buffers

The decoders of `Memory` have no fault if the message is in the payload buffer and the array has
room for the capacity they are given. They then accept what the decoders of `protocol.c` accept on
the bytes of the message alone, and leave its records in the array, one after the other.
-/

namespace Roadcast

open BigEndian Records Checked

section Local

/-- The decoder looks at the bytes of a record only. -/
theorem decodeFrame_take (record : List UInt8) :
    decodeFrame (record.take frameWireSize) = decodeFrame record := by
  have hdata : ∀ k : Fin 8, byteAt (record.take frameWireSize) (4 + k.val) =
      byteAt record (4 + k.val) := by
    intro k
    have hk := k.isLt
    apply byteAt_take
    rw [frameWireSize]
    omega
  have h2 : byteAt (record.take frameWireSize) 2 = byteAt record 2 := byteAt_take (by decide)
  have h3 : byteAt (record.take frameWireSize) 3 = byteAt record 3 := byteAt_take (by decide)
  simp (disch := decide) only [decodeFrame, h2, h3, hdata, List.drop_take, getU16_take, getU64_take]

/-- A signal is decoded from its own bytes only. -/
theorem decodeSignal_take (record : List UInt8) :
    decodeSignal (record.take signalWireSize) = decodeSignal record := by
  have h4 : byteAt (record.take signalWireSize) 4 = byteAt record 4 := byteAt_take (by decide)
  have h5 : byteAt (record.take signalWireSize) 5 = byteAt record 5 := byteAt_take (by decide)
  simp (disch := decide) only [decodeSignal, h4, h5, List.drop_take, getU16_take, getU32_take,
    getU64_take]

end Local

section Batches

variable {B : Type} {size : ℕ} {read : List UInt8 → Option B} {payload : List UInt8} {length : ℕ}

/-- The check of the start index has no fault. -/
theorem returns_pageWithin (totalCount startIndex : UInt32) (count : ℕ) :
    Returns (pageWithin totalCount startIndex count)
      (· = startIndexAllowed totalCount startIndex count) := by
  unfold pageWithin
  split
  · rename_i hdelta
    exact .ok (by simp [startIndexAllowed, hdelta])
  rename_i hpage
  split
  · rename_i hbeyond
    exact .ok (by simp [startIndexAllowed, hpage, Nat.not_le.mpr hbeyond])
  rename_i hwithin
  refine (returns_subtract (Nat.not_lt.mp hwithin)).bind fun room hroom => .ok ?_
  simp [startIndexAllowed, hpage, Nat.not_lt.mp hwithin, hroom]

/-- The loop of a batch decoder reads the records of the message and writes them to the array. -/
theorem returns_readRecordsInto (hread : ∀ record, read (record.take size) = read record)
    (hlength : length ≤ payload.length) (base count i : ℕ) (records : List B)
    (hbytes : batchPrefixSize + (i + count) * size ≤ length)
    (hroom : base + (i + count) ≤ records.length) :
    Returns (readRecordsInto size read payload base count i records) fun result =>
      match readRecords size read count ((payload.take length).drop (batchPrefixSize + i * size)) with
      | none => result.1 = false ∧ result.2.length = records.length
      | some values => result = (true, writeFrom (base + i) values records) := by
  induction count generalizing i records with
  | zero => exact .ok rfl
  | succ count ih =>
    have hend : batchPrefixSize + i * size + size ≤ length := by
      have hle : (i + 1) * size ≤ (i + (count + 1)) * size := Nat.mul_le_mul_right size (by omega)
      rw [Nat.succ_mul] at hle
      omega
    have hslice : (payload.drop (batchPrefixSize + i * size)).take size =
        ((payload.take length).drop (batchPrefixSize + i * size)).take size := by
      rw [List.drop_take, List.take_take, Nat.min_eq_left (by omega)]
    unfold readRecordsInto
    refine (returns_slice (hend.trans hlength)).bind fun encoded hencoded => ?_
    rw [hencoded, hslice, hread, readRecords]
    cases hrecord : read ((payload.take length).drop (batchPrefixSize + i * size)) with
    | none => exact .ok ⟨rfl, rfl⟩
    | some record =>
      refine (returns_store record (by omega)).bind fun stored hstored => ?_
      have hnext := ih (i + 1) stored (by rwa [Nat.add_right_comm, Nat.add_assoc])
        (by rw [hstored, List.length_set]; omega)
      have hoffset : batchPrefixSize + (i + 1) * size = batchPrefixSize + i * size + size := by
        rw [Nat.succ_mul, Nat.add_assoc]
      rw [hoffset, ← List.drop_drop] at hnext
      refine hnext.imp fun result hresult => ?_
      cases hrest : readRecords size read count
          (((payload.take length).drop (batchPrefixSize + i * size)).drop size) with
      | none =>
        rw [hrest] at hresult
        rw [hstored, List.length_set] at hresult
        exact hresult
      | some values =>
        rw [hrest] at hresult
        rw [hresult, hstored]
        rfl

/-- A batch decoder has no fault, and writes what the message has. -/
theorem returns_decodeBatchInto (hread : ∀ record, read (record.take size) = read record)
    (hlength : length ≤ payload.length) {records : List B} {base capacity : ℕ}
    (hroom : base + capacity ≤ records.length) :
    Returns (decodeBatchInto size read payload length records base capacity) fun result =>
      match decodeBatch size read (payload.take length) capacity with
      | none => result.1 = none ∧ result.2.length = records.length
      | some batch => result = (some ⟨batch.sampleSequence, batch.totalCount, batch.startIndex,
          batch.records.length⟩, writeFrom base batch.records records) ∧
          batch.records.length ≤ capacity := by
  have hbytes : (payload.take length).length = length := by
    rw [List.length_take, Nat.min_eq_left hlength]
  unfold decodeBatchInto decodeBatch
  rw [hbytes]
  by_cases hshort : length < batchPrefixSize
  · rw [if_pos hshort, if_pos hshort]
    exact .ok ⟨rfl, rfl⟩
  rw [if_neg hshort, if_neg hshort]
  refine (returns_slice (by omega)).bind fun head hhead => ?_
  have hfront : head = (payload.take length).take batchPrefixSize := by
    rw [hhead, List.drop_zero, List.take_take, Nat.min_eq_left (by omega)]
  have h18 : byteAt head 18 = byteAt (payload.take length) 18 := by
    rw [hfront]
    exact byteAt_take (by decide)
  have h19 : byteAt head 19 = byteAt (payload.take length) 19 := by
    rw [hfront]
    exact byteAt_take (by decide)
  have h16 : getU16 (head.drop 16) = getU16 ((payload.take length).drop 16) := by
    rw [hfront, List.drop_take]
    exact getU16_take (by decide)
  have h8 : getU32 (head.drop 8) = getU32 ((payload.take length).drop 8) := by
    rw [hfront, List.drop_take]
    exact getU32_take (by decide)
  have h12 : getU32 (head.drop 12) = getU32 ((payload.take length).drop 12) := by
    rw [hfront, List.drop_take]
    exact getU32_take (by decide)
  have h0 : getU64 head = getU64 (payload.take length) := by
    rw [hfront]
    exact getU64_take (by decide)
  dsimp only
  rw [h18, h19, h16, h8, h12, h0]
  set count := (getU16 ((payload.take length).drop 16)).toNat
  split
  · exact .ok ⟨rfl, rfl⟩
  split
  · exact .ok ⟨rfl, rfl⟩
  rename_i hcount
  rw [not_or, not_not, Nat.not_lt] at hcount
  refine (returns_pageWithin _ _ _).bind fun within hwithin => ?_
  rw [hwithin]
  cases startIndexAllowed (getU32 ((payload.take length).drop 8))
    (getU32 ((payload.take length).drop 12)) count with
  | false => exact .ok ⟨rfl, rfl⟩
  | true =>
    have hloop := returns_readRecordsInto hread hlength base count 0 records
      (by rw [Nat.zero_add]; exact hcount.1.le)
      (by rw [Nat.zero_add]; exact (Nat.add_le_add_left hcount.2 base).trans hroom)
    rw [Nat.zero_mul, Nat.add_zero, Nat.add_zero] at hloop
    refine hloop.bind fun result hresult => .ok ?_
    dsimp only
    rw [if_pos rfl]
    cases hrecords : readRecords size read count ((payload.take length).drop batchPrefixSize) with
    | none =>
      rw [hrecords] at hresult
      rw [hresult.1]
      exact ⟨rfl, hresult.2⟩
    | some values =>
      rw [hrecords] at hresult
      have hvalues := readRecords_length hrecords
      rw [hresult, ← hvalues]
      exact ⟨rfl, hvalues.trans_le hcount.2⟩

end Batches

section Schema

variable {payload : List UInt8} {length : ℕ}

/-- The fixed part of an entry and its two texts are the entry. -/
theorem readSchemaEntry_slices (remaining : List UInt8) :
    { readSchemaEntry (remaining.take schemaEntryFixedSize) with
      name := (remaining.drop schemaEntryFixedSize).take (getU16 (remaining.drop 22)).toNat
      unit := (remaining.drop (schemaEntryFixedSize + (getU16 (remaining.drop 22)).toNat)).take
        (getU16 (remaining.drop 24)).toNat } = readSchemaEntry remaining := by
  have hbyte : ∀ i < schemaEntryFixedSize, byteAt (remaining.take schemaEntryFixedSize) i =
      byteAt remaining i := fun i hi => byteAt_take hi
  simp (disch := decide) only [readSchemaEntry, hbyte, List.drop_take, getU16_take, getU32_take,
    getU64_take]

/-- The loop of the schema decoder reads the entries of the message and writes them to the array. -/
theorem returns_readEntriesInto (hlength : length ≤ payload.length)
    (totalCount startIndex : UInt32) (base count i offset : ℕ) (schema : List SchemaEntry)
    (hoffset : offset ≤ length) (hroom : base + (i + count) ≤ schema.length) :
    Returns (readEntriesInto payload length totalCount startIndex base count i offset schema)
      fun result =>
        match readSchemaEntries totalCount count (startIndex + UInt32.ofNat i)
          ((payload.take length).drop offset) with
        | none => result.1 = false ∧ result.2.length = schema.length
        | some entries => result = (true, writeFrom (base + i) entries schema) ∧
            entries.length = count := by
  induction count generalizing i offset schema with
  | zero =>
    have hend : (payload.take length).drop offset = [] ↔ offset = length := by
      rw [List.drop_eq_nil_iff, List.length_take]
      omega
    unfold readEntriesInto readSchemaEntries
    by_cases hdone : offset = length
    · rw [if_pos (hend.mpr hdone)]
      exact .ok ⟨by simp [hdone, writeFrom], rfl⟩
    · rw [if_neg (mt hend.mp hdone)]
      exact .ok ⟨by simp [hdone], rfl⟩
  | succ count ih =>
    set remaining := (payload.take length).drop offset with hremaining
    have hleft : remaining.length = length - offset := by
      rw [hremaining, List.length_drop, List.length_take, Nat.min_eq_left hlength]
    have hslice : ∀ k n, offset + k + n ≤ length →
        (payload.drop (offset + k)).take n = (remaining.drop k).take n := by
      intro k n hn
      rw [hremaining, List.drop_drop, List.drop_take, List.take_take, Nat.min_eq_left (by omega)]
    unfold readEntriesInto readSchemaEntries
    rw [hleft]
    refine (returns_subtract hoffset).bind fun room hroom' => ?_
    rw [hroom']
    by_cases hshort : length - offset < schemaEntryFixedSize
    · rw [if_pos hshort, if_pos hshort]
      exact .ok ⟨rfl, rfl⟩
    rw [if_neg hshort, if_neg hshort]
    refine (returns_slice (by omega)).bind fun encoded hencoded => ?_
    have hfixed : encoded = remaining.take schemaEntryFixedSize := by
      rw [hencoded]
      exact hslice 0 _ (by omega)
    have h22 : getU16 (encoded.drop 22) = getU16 (remaining.drop 22) := by
      rw [hfixed, List.drop_take]
      exact getU16_take (by decide)
    have h24 : getU16 (encoded.drop 24) = getU16 (remaining.drop 24) := by
      rw [hfixed, List.drop_take]
      exact getU16_take (by decide)
    have h26 : getU16 (encoded.drop 26) = getU16 (remaining.drop 26) := by
      rw [hfixed, List.drop_take]
      exact getU16_take (by decide)
    dsimp only
    rw [h22, h24, h26]
    refine (returns_subtract (Nat.not_lt.mp hshort)).bind fun texts htexts => ?_
    rw [htexts]
    split
    · exact .ok ⟨rfl, rfl⟩
    rename_i hgood
    simp only [not_or, Nat.not_lt] at hgood
    obtain ⟨-, hname, hunit, htotal⟩ := hgood
    refine (returns_slice (by omega)).bind fun name hname' => ?_
    refine (returns_slice (by omega)).bind fun unit hunit' => ?_
    refine (returns_store 0 (by rw [List.length_replicate]; omega)).bind fun _ _ => ?_
    refine (returns_store 0 (by rw [List.length_replicate]; omega)).bind fun _ _ => ?_
    have hentry : { readSchemaEntry encoded with name := name, unit := unit } =
        readSchemaEntry remaining := by
      rw [hfixed, hname', hunit', hslice _ _ (by omega), Nat.add_assoc, hslice _ _ (by omega)]
      exact readSchemaEntry_slices remaining
    rw [hentry]
    refine (returns_store _ (by omega)).bind fun stored hstored => ?_
    split
    · have hnext := ih (i + 1) (offset + (schemaEntryFixedSize + (getU16 (remaining.drop 22)).toNat +
          (getU16 (remaining.drop 24)).toNat)) stored (by omega)
        (by rw [hstored, List.length_set]; omega)
      have hindex : startIndex + UInt32.ofNat (i + 1) = startIndex + UInt32.ofNat i + 1 := by
        rw [UInt32.ofNat_add, UInt32.add_assoc]
        rfl
      rw [← List.drop_drop, ← hremaining, hindex] at hnext
      refine hnext.imp fun result hresult => ?_
      cases hrest : readSchemaEntries totalCount count (startIndex + UInt32.ofNat i + 1)
          (remaining.drop (schemaEntryFixedSize + (getU16 (remaining.drop 22)).toNat +
            (getU16 (remaining.drop 24)).toNat)) with
      | none =>
        rw [hrest] at hresult
        rw [hstored, List.length_set] at hresult
        exact hresult
      | some entries =>
        rw [hrest] at hresult
        obtain ⟨hresult, hcount⟩ := hresult
        rw [hresult, hstored]
        exact ⟨rfl, by rw [List.length_cons, hcount]⟩
    · exact .ok ⟨rfl, by rw [hstored, List.length_set]⟩

/-- The schema decoder has no fault, and writes what the message has. -/
theorem returns_decodeSchemaChunkInto (hlength : length ≤ payload.length)
    {schema : List SchemaEntry} {base capacity : ℕ} (hroom : base + capacity ≤ schema.length) :
    Returns (decodeSchemaChunkInto payload length schema base capacity) fun result =>
      match decodeSchemaChunk (payload.take length) capacity with
      | none => result.1 = none ∧ result.2.length = schema.length
      | some chunk => result = (some ⟨chunk.schemaVersion, chunk.totalCount, chunk.startIndex,
          chunk.schemaHash, chunk.entries.length⟩, writeFrom base chunk.entries schema) ∧
          chunk.entries.length ≤ capacity := by
  have hbytes : (payload.take length).length = length := by
    rw [List.length_take, Nat.min_eq_left hlength]
  unfold decodeSchemaChunkInto decodeSchemaChunk
  rw [hbytes]
  by_cases hshort : length < schemaChunkPrefixSize
  · rw [if_pos hshort, if_pos hshort]
    exact .ok ⟨rfl, rfl⟩
  rw [if_neg hshort, if_neg hshort]
  refine (returns_slice (by omega)).bind fun head hhead => ?_
  have hfront : head = (payload.take length).take schemaChunkPrefixSize := by
    rw [hhead, List.drop_zero, List.take_take, Nat.min_eq_left (by omega)]
  have hword : ∀ k, k + 4 ≤ schemaChunkPrefixSize →
      getU32 (head.drop k) = getU32 ((payload.take length).drop k) := by
    intro k hk
    rw [hfront, List.drop_take]
    exact getU32_take (by omega)
  have h0 : getU32 head = getU32 (payload.take length) := hword 0 (by decide)
  have h16 : getU64 (head.drop 16) = getU64 ((payload.take length).drop 16) := by
    rw [hfront, List.drop_take]
    exact getU64_take (by decide)
  dsimp only
  rw [h0, hword 4 (by decide), hword 8 (by decide), hword 12 (by decide), h16]
  set totalCount := getU32 ((payload.take length).drop 4)
  set startIndex := getU32 ((payload.take length).drop 8)
  set count := (getU32 ((payload.take length).drop 12)).toNat
  by_cases hlarge : count > capacity ∨ startIndex.toNat > totalCount.toNat
  · rw [if_pos hlarge, if_pos (or_assoc.mp (Or.inl hlarge))]
    exact .ok ⟨rfl, rfl⟩
  rw [if_neg hlarge]
  obtain ⟨hcount, hstart⟩ := not_or.mp hlarge
  refine (returns_subtract (Nat.not_lt.mp hstart)).bind fun room hroom' => ?_
  rw [hroom']
  by_cases hbeyond : count > totalCount.toNat - startIndex.toNat
  · rw [if_pos hbeyond, if_pos (Or.inr (Or.inr hbeyond))]
    exact .ok ⟨rfl, rfl⟩
  rw [if_neg hbeyond, if_neg (by rw [← or_assoc]; exact not_or.mpr ⟨hlarge, hbeyond⟩)]
  have hloop := returns_readEntriesInto hlength totalCount startIndex base count 0
    schemaChunkPrefixSize schema (Nat.not_lt.mp hshort)
    (by rw [Nat.zero_add]; exact (Nat.add_le_add_left (Nat.not_lt.mp hcount) base).trans hroom)
  have hfirst : startIndex + UInt32.ofNat 0 = startIndex := UInt32.add_zero startIndex
  rw [hfirst, Nat.add_zero] at hloop
  refine hloop.bind fun result hresult => .ok ?_
  dsimp only
  cases hentries : readSchemaEntries totalCount count startIndex
      ((payload.take length).drop schemaChunkPrefixSize) with
  | none =>
    rw [hentries] at hresult
    rw [hresult.1]
    exact ⟨rfl, hresult.2⟩
  | some entries =>
    rw [hentries] at hresult
    obtain ⟨hresult, hentries⟩ := hresult
    rw [hresult, ← hentries]
    exact ⟨rfl, hentries.trans_le (Nat.not_lt.mp hcount)⟩

end Schema

section Control

variable {payload : List UInt8} {length : ℕ}

/-- Decoding `WELCOME` stays inside the payload. -/
theorem returns_decodeWelcomeAt (hlength : length ≤ payload.length) :
    Returns (decodeWelcomeAt payload length) (· = decodeWelcome (payload.take length)) := by
  unfold decodeWelcomeAt
  by_cases hsize : length = welcomeSize
  · rw [if_neg (not_not.mpr hsize)]
    refine (returns_slice (by omega)).bind fun encoded hencoded => .ok ?_
    rw [hencoded, List.drop_zero, hsize]
  · rw [if_pos hsize]
    refine .ok ?_
    rw [decodeWelcome, if_pos (by rwa [List.length_take, Nat.min_eq_left hlength])]

/-- Decoding a heartbeat stays inside the payload. -/
theorem returns_decodeHeartbeatAt (hlength : length ≤ payload.length) :
    Returns (decodeHeartbeatAt payload length) (· = decodeHeartbeat (payload.take length)) := by
  unfold decodeHeartbeatAt
  by_cases hsize : length = heartbeatSize
  · rw [if_neg (not_not.mpr hsize)]
    refine (returns_slice (by omega)).bind fun encoded hencoded => .ok ?_
    rw [hencoded, List.drop_zero, hsize]
  · rw [if_pos hsize]
    refine .ok ?_
    rw [decodeHeartbeat, if_pos (by rwa [List.length_take, Nat.min_eq_left hlength])]
    rfl

end Control

end Roadcast
