import Roadcast.Lib.Records
import Roadcast.Protocol.Types

/-!
# Frame and signal batches

The two batch codecs of `protocol.c` share one layout: a 20-byte prefix and then records of one
fixed size. `encodeBatch` and `decodeBatch` are that layout with the record codec as a parameter;
the four functions of the source are its instances in `FrameBatch` and `SignalBatch`.

An encoder reports a refused batch by the length zero, here `none`, and takes the records its
caller selected, in order. The tests against `SIZE_MAX` cannot fire on counts of at most 65535 and
are not modelled.
-/

namespace Roadcast

open BigEndian Records

/-- The prefix of a batch. -/
def encodeBatchPrefix (sampleSequence : UInt64) (totalCount startIndex : UInt32) (count : ℕ) :
    List UInt8 :=
  putU64 sampleSequence ++ (putU32 totalCount ++ (putU32 startIndex ++
    (putU16 (UInt16.ofNat count) ++ putU16 0)))

/-- The prefix of a batch has a fixed size. -/
@[simp] theorem encodeBatchPrefix_length (sampleSequence : UInt64) (totalCount startIndex : UInt32)
    (count : ℕ) :
    (encodeBatchPrefix sampleSequence totalCount startIndex count).length = batchPrefixSize := rfl

/-- What a decoded batch delivers: its prefix and its records in order. -/
structure Batch (A : Type*) where
  sampleSequence : UInt64
  totalCount : UInt32
  startIndex : UInt32
  records : List A
  deriving DecidableEq, Repr

/-- A page must lie inside the catalog; a delta batch carries `UINT32_MAX` instead of a start. -/
def startIndexAllowed (totalCount startIndex : UInt32) (count : ℕ) : Bool :=
  startIndex = uint32Max ||
    (decide (startIndex.toNat ≤ totalCount.toNat) &&
      decide (count ≤ totalCount.toNat - startIndex.toNat))

variable {A B : Type*}

/-- The common encoder: refuse more than `UINT16_MAX` records or more than `cap` bytes. -/
def encodeBatch (size : ℕ) (write : A → List UInt8) (cap : ℕ) (sampleSequence : UInt64)
    (totalCount startIndex : UInt32) (records : List A) : Option (List UInt8) :=
  if records.length > 65535 then none
  else if batchPrefixSize + records.length * size > cap then none
  else some (encodeBatchPrefix sampleSequence totalCount startIndex records.length ++
    records.flatMap write)

/-- The common decoder: the announced count must account for every byte of the payload. -/
def decodeBatch (size : ℕ) (read : List UInt8 → Option B) (payload : List UInt8) (capacity : ℕ) :
    Option (Batch B) :=
  if payload.length < batchPrefixSize then none
  else if byteAt payload 18 ≠ 0 ∨ byteAt payload 19 ≠ 0 then none
  else
    let count := (getU16 (payload.drop 16)).toNat
    if batchPrefixSize + count * size ≠ payload.length ∨ count > capacity then none
    else
      let totalCount := getU32 (payload.drop 8)
      let startIndex := getU32 (payload.drop 12)
      if startIndexAllowed totalCount startIndex count then
        (readRecords size read count (payload.drop batchPrefixSize)).map fun records =>
          ⟨getU64 payload, totalCount, startIndex, records⟩
      else none

/-- A batch whose count and size are in range is encoded. -/
theorem encodeBatch_exists {size : ℕ} (write : A → List UInt8) {cap : ℕ} (sampleSequence : UInt64)
    (totalCount startIndex : UInt32) {records : List A} (hcount : records.length ≤ 65535)
    (hcap : batchPrefixSize + records.length * size ≤ cap) :
    ∃ payload, encodeBatch size write cap sampleSequence totalCount startIndex records =
      some payload := by
  rw [encodeBatch, if_neg (Nat.not_lt.mpr hcount), if_neg (Nat.not_lt.mpr hcap)]
  exact ⟨_, rfl⟩

/-- An encoded batch has the announced length, within the capacity. -/
theorem encodeBatch_length (size : ℕ) (write : A → List UInt8) (cap : ℕ) (sampleSequence : UInt64)
    (totalCount startIndex : UInt32) (records : List A) (payload : List UInt8)
    (hsize : ∀ a ∈ records, (write a).length = size)
    (h : encodeBatch size write cap sampleSequence totalCount startIndex records = some payload) :
    payload.length = batchPrefixSize + records.length * size ∧ payload.length ≤ cap ∧
      records.length ≤ 65535 := by
  unfold encodeBatch at h
  split at h
  · contradiction
  · split at h
    · contradiction
    · simp only [Option.some.injEq] at h
      have hlen : payload.length = batchPrefixSize + records.length * size := by
        rw [← h, List.length_append, encodeBatchPrefix_length,
          length_flatMap_of_size size write records hsize]
      omega

/-- Records that fit a message are encoded, within the capacity and with their prefix. -/
theorem encodeBatch_fits {size perMessage cap : ℕ} {write : A → List UInt8}
    (sampleSequence : UInt64) (totalCount startIndex : UInt32) {records : List A}
    (hcount : records.length ≤ perMessage) (hsmall : perMessage ≤ 65535)
    (hfits : batchPrefixSize + perMessage * size ≤ cap)
    (hsize : ∀ a ∈ records, (write a).length = size) :
    ∃ payload, encodeBatch size write cap sampleSequence totalCount startIndex records =
      some payload ∧ batchPrefixSize ≤ payload.length ∧ payload.length ≤ cap := by
  have hbytes := Nat.mul_le_mul_right size hcount
  obtain ⟨payload, hpayload⟩ := encodeBatch_exists write sampleSequence totalCount startIndex
    (hcount.trans hsmall) ((Nat.add_le_add_left hbytes _).trans hfits)
  obtain ⟨hlength, hcap, -⟩ := encodeBatch_length size write cap sampleSequence totalCount startIndex
    records payload hsize hpayload
  exact ⟨payload, hpayload, by omega, hcap⟩

/-- Decoding undoes encoding, up to what the reader makes of a record. -/
theorem decodeBatch_encodeBatch (size : ℕ) (write : A → List UInt8)
    (read : List UInt8 → Option B) (seen : A → B) (cap capacity : ℕ) (sampleSequence : UInt64)
    (totalCount startIndex : UInt32) (records : List A) (payload : List UInt8)
    (hpayload : encodeBatch size write cap sampleSequence totalCount startIndex records =
      some payload)
    (hsize : ∀ a ∈ records, (write a).length = size)
    (hread : ∀ a ∈ records, ∀ tail, read (write a ++ tail) = some (seen a))
    (hcapacity : records.length ≤ capacity)
    (hstart : startIndexAllowed totalCount startIndex records.length = true) :
    decodeBatch size read payload capacity =
      some ⟨sampleSequence, totalCount, startIndex, records.map seen⟩ := by
  obtain ⟨hlen, -, hcount⟩ := encodeBatch_length size write cap sampleSequence totalCount startIndex
    records payload hsize hpayload
  have hbytes : payload = encodeBatchPrefix sampleSequence totalCount startIndex records.length ++
      records.flatMap write := by
    unfold encodeBatch at hpayload
    split at hpayload
    · contradiction
    · split at hpayload
      · contradiction
      · exact (Option.some.inj hpayload).symm
  have hof : (UInt16.ofNat records.length).toNat = records.length := by
    rw [UInt16.toNat_ofNat']
    omega
  have h0 : getU64 payload = sampleSequence := by
    rw [hbytes, encodeBatchPrefix, List.append_assoc, getU64_putU64]
  have h8 : getU32 (payload.drop 8) = totalCount := by
    rw [hbytes]
    exact getU32_putU32 totalCount _
  have h12 : getU32 (payload.drop 12) = startIndex := by
    rw [hbytes]
    exact getU32_putU32 startIndex _
  have h16 : getU16 (payload.drop 16) = UInt16.ofNat records.length := by
    rw [hbytes]
    exact getU16_putU16 _ _
  have h18 : byteAt payload 18 = 0 := by rw [hbytes]; rfl
  have h19 : byteAt payload 19 = 0 := by rw [hbytes]; rfl
  have h20 : payload.drop batchPrefixSize = records.flatMap write := by
    rw [hbytes, ← encodeBatchPrefix_length sampleSequence totalCount startIndex records.length,
      List.drop_left]
  have hrecords := readRecords_flatMap size write read seen records [] hsize hread
  rw [List.append_nil] at hrecords
  rw [decodeBatch, if_neg (by omega), if_neg (by simp [h18, h19])]
  simp only [h0, h8, h12, h16, h20, hof, hstart, if_true, hrecords, Option.map_some]
  rw [if_neg (by omega)]

/-- The prefix of an accepted payload is written back from what was read of it. -/
theorem encodeBatchPrefix_of_bytes {payload : List UInt8} (hlength : batchPrefixSize ≤ payload.length)
    (h18 : byteAt payload 18 = 0) (h19 : byteAt payload 19 = 0) :
    encodeBatchPrefix (getU64 payload) (getU32 (payload.drop 8)) (getU32 (payload.drop 12))
      (getU16 (payload.drop 16)).toNat = payload.take batchPrefixSize := by
  simp only [batchPrefixSize] at hlength ⊢
  have hdrop : ∀ n, (payload.drop n).length = payload.length - n := fun n => List.length_drop
  have hzero : putU16 0 = (payload.drop 18).take 2 := by
    have hread : getU16 (payload.drop 18) = 0 := by
      apply UInt16.toNat_inj.mp
      rw [getU16_toNat]
      simp only [byteAt, List.getD_eq_getElem?_getD, List.getElem?_drop] at h18 h19 ⊢
      rw [h18, h19]
      rfl
    rw [← hread, putU16_getU16 (by rw [hdrop]; omega)]
  rw [encodeBatchPrefix, UInt16.ofNat_toNat, hzero, putU64_getU64 (by omega),
    putU32_getU32 (by rw [hdrop]; omega), putU32_getU32 (by rw [hdrop]; omega),
    putU16_getU16 (by rw [hdrop]; omega)]
  rw [append_field rfl, append_field rfl, append_field rfl, ← List.take_add]

/-- Encoding undoes decoding, if the reader refuses every record that is not written back. -/
theorem encodeBatch_of_decodeBatch {size : ℕ} {write : B → List UInt8} {read : List UInt8 → Option B}
    (hwrite : ∀ input record, size ≤ input.length → read input = some record →
      write record = input.take size)
    {payload : List UInt8} {capacity : ℕ} {batch : Batch B}
    (h : decodeBatch size read payload capacity = some batch) :
    encodeBatch size write payload.length batch.sampleSequence batch.totalCount batch.startIndex
        batch.records = some payload ∧
      batch.records.length ≤ capacity ∧
      startIndexAllowed batch.totalCount batch.startIndex batch.records.length = true := by
  unfold decodeBatch at h
  split at h
  · contradiction
  rename_i hshort
  split at h
  · contradiction
  rename_i hreserved
  simp only [not_or, not_not] at hreserved
  dsimp only at h
  split at h
  · contradiction
  rename_i hsize
  simp only [not_or, not_not, Nat.not_lt] at hsize hshort
  split at h
  · rename_i hstart
    obtain ⟨records, hrecords, rfl⟩ := Option.map_eq_some_iff.mp h
    have hbytes : (getU16 (payload.drop 16)).toNat * size ≤
        (payload.drop batchPrefixSize).length := by
      rw [List.length_drop]
      omega
    obtain ⟨hcount, hrecords⟩ := flatMap_of_readRecords hwrite hbytes hrecords
    have htail : (payload.drop batchPrefixSize).take ((getU16 (payload.drop 16)).toNat * size) =
        payload.drop batchPrefixSize :=
      List.take_of_length_le (by rw [List.length_drop]; omega)
    have hsmall := (getU16 (payload.drop 16)).toNat_lt
    dsimp only
    rw [hcount]
    refine ⟨?_, hsize.2, hstart⟩
    rw [encodeBatch, hcount, if_neg (by omega), if_neg (by omega),
      encodeBatchPrefix_of_bytes hshort hreserved.1 hreserved.2, hrecords, htail,
      List.take_append_drop]
  · contradiction

/-- What the reader checks holds of every record of an accepted batch. -/
theorem forall_of_decodeBatch {size : ℕ} {read : List UInt8 → Option B} {good : B → Prop}
    (hgood : ∀ input record, read input = some record → good record)
    {payload : List UInt8} {capacity : ℕ} {batch : Batch B}
    (h : decodeBatch size read payload capacity = some batch) :
    ∀ record ∈ batch.records, good record := by
  unfold decodeBatch at h
  dsimp only at h
  repeat' split at h
  all_goals first | contradiction | skip
  obtain ⟨records, hrecords, rfl⟩ := Option.map_eq_some_iff.mp h
  exact forall_of_readRecords hgood hrecords

/-- An accepted batch has no more records than there is room for. -/
theorem length_le_of_decodeBatch {size : ℕ} {read : List UInt8 → Option B} {payload : List UInt8}
    {capacity : ℕ} {batch : Batch B} (h : decodeBatch size read payload capacity = some batch) :
    batch.records.length ≤ capacity := by
  unfold decodeBatch at h
  dsimp only at h
  split at h
  · contradiction
  split at h
  · contradiction
  split at h
  · contradiction
  rename_i hcount
  split at h
  · obtain ⟨records, hrecords, rfl⟩ := Option.map_eq_some_iff.mp h
    rw [readRecords_length hrecords]
    exact Nat.not_lt.mp (not_or.mp hcount).2
  · contradiction

/-- A reader that makes more of each record makes more of the batch. -/
theorem decodeBatch_bind {C : Type*} (size : ℕ) (read : List UInt8 → Option B) (f : B → Option C)
    (payload : List UInt8) (capacity : ℕ) :
    decodeBatch size (fun record => (read record).bind f) payload capacity =
      (decodeBatch size read payload capacity).bind fun batch =>
        (batch.records.mapM f).map fun records =>
          ⟨batch.sampleSequence, batch.totalCount, batch.startIndex, records⟩ := by
  unfold decodeBatch
  dsimp only
  repeat' split
  all_goals first | rfl | skip
  rw [readRecords_bind]
  cases readRecords size read (getU16 (payload.drop 16)).toNat (payload.drop batchPrefixSize) <;> rfl

end Roadcast
