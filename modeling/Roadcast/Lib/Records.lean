import Roadcast.Lib.BigEndian

/-!
# Sequences of fixed-size records

A writer that gives every record the same number of bytes, and a reader that consumes a counted
sequence of such records from the front of a buffer. The reader may normalise what it reads, so
the round trip is stated through the value `seen` that the reader makes of a record.
-/

namespace Roadcast.Records

variable {A B : Type*}

/-- Read `count` records of `size` bytes each; one refused record refuses the sequence. -/
def readRecords (size : ℕ) (read : List UInt8 → Option B) : ℕ → List UInt8 → Option (List B)
  | 0, _ => some []
  | count + 1, input => do
    let record ← read input
    let rest ← readRecords size read count (input.drop size)
    some (record :: rest)

/-- A sequence has as many records as were asked for. -/
theorem readRecords_length {size : ℕ} {read : List UInt8 → Option B} {count : ℕ}
    {input : List UInt8} {records : List B} (h : readRecords size read count input = some records) :
    records.length = count := by
  induction count generalizing input records with
  | zero =>
    rw [readRecords, Option.some.injEq] at h
    rw [← h, List.length_nil]
  | succ count ih =>
    rw [readRecords] at h
    obtain ⟨record, -, hrest⟩ := Option.bind_eq_some_iff.mp h
    obtain ⟨rest, hread, hrecords⟩ := Option.bind_eq_some_iff.mp hrest
    rw [← Option.some.inj hrecords, List.length_cons, ih hread]

/-- Equal record sizes add up. -/
theorem length_flatMap_of_size (size : ℕ) (write : A → List UInt8) (records : List A)
    (hsize : ∀ a ∈ records, (write a).length = size) :
    (records.flatMap write).length = records.length * size := by
  induction records with
  | nil => simp
  | cons a records ih =>
    rw [List.flatMap_cons, List.length_append, hsize a (by simp),
      ih fun b hb => hsize b (by simp [hb]), List.length_cons, Nat.succ_mul, Nat.add_comm]

/-- Reading a written sequence sees every record, in order, and leaves what follows untouched. -/
theorem readRecords_flatMap (size : ℕ) (write : A → List UInt8) (read : List UInt8 → Option B)
    (seen : A → B) (records : List A) (rest : List UInt8)
    (hsize : ∀ a ∈ records, (write a).length = size)
    (hread : ∀ a ∈ records, ∀ tail, read (write a ++ tail) = some (seen a)) :
    readRecords size read records.length (records.flatMap write ++ rest) =
      some (records.map seen) := by
  induction records with
  | nil => rfl
  | cons a records ih =>
    have hdrop : (write a ++ (records.flatMap write ++ rest)).drop size =
        records.flatMap write ++ rest := by
      rw [← hsize a (by simp), List.drop_left]
    rw [List.flatMap_cons, List.append_assoc, List.length_cons, readRecords,
      hread a (by simp), hdrop, ih (fun b hb => hsize b (by simp [hb]))
        (fun b hb => hread b (by simp [hb]))]
    rfl

/-- Writing back the records that were read returns their bytes, if the reader refuses every record
that it would not write back. -/
theorem flatMap_of_readRecords {size : ℕ} {write : B → List UInt8} {read : List UInt8 → Option B}
    (hwrite : ∀ input record, size ≤ input.length → read input = some record →
      write record = input.take size)
    {count : ℕ} {input : List UInt8} {records : List B} (hlength : count * size ≤ input.length)
    (h : readRecords size read count input = some records) :
    records.length = count ∧ records.flatMap write = input.take (count * size) := by
  induction count generalizing input records with
  | zero =>
    cases h
    simp
  | succ count ih =>
    rw [Nat.succ_mul] at hlength ⊢
    simp only [readRecords, Option.bind_eq_bind, Option.bind_eq_some_iff, Option.some.injEq] at h
    obtain ⟨record, hrecord, rest, hrest, rfl⟩ := h
    obtain ⟨hcount, hbytes⟩ := ih (by rw [List.length_drop]; omega) hrest
    refine ⟨by rw [List.length_cons, hcount], ?_⟩
    rw [List.flatMap_cons, hwrite input record (by omega) hrecord, hbytes, ← List.take_add,
      Nat.add_comm]

/-- What the reader checks holds of every record that it has read. -/
theorem forall_of_readRecords {size : ℕ} {read : List UInt8 → Option B} {good : B → Prop}
    (hgood : ∀ input record, read input = some record → good record)
    {count : ℕ} {input : List UInt8} {records : List B}
    (h : readRecords size read count input = some records) : ∀ record ∈ records, good record := by
  induction count generalizing input records with
  | zero =>
    cases h
    simp
  | succ count ih =>
    simp only [readRecords, Option.bind_eq_bind, Option.bind_eq_some_iff, Option.some.injEq] at h
    obtain ⟨record, hrecord, rest, hrest, rfl⟩ := h
    intro r hr
    rcases List.mem_cons.mp hr with rfl | hr
    · exact hgood input r hrecord
    · exact ih hrest r hr

/-- A reader that makes more of each record makes more of the sequence. -/
theorem readRecords_bind {C : Type*} (size : ℕ) (read : List UInt8 → Option B) (f : B → Option C)
    (count : ℕ) (input : List UInt8) :
    readRecords size (fun record => (read record).bind f) count input =
      (readRecords size read count input).bind fun records => records.mapM f := by
  induction count generalizing input with
  | zero => rfl
  | succ count ih =>
    simp only [readRecords, ih, Option.bind_eq_bind]
    cases read input with
    | none => rfl
    | some record =>
      simp only [Option.bind_some]
      cases readRecords size read count (input.drop size) with
      | none => cases f record <;> rfl
      | some records => simp [List.mapM_cons]

end Roadcast.Records
