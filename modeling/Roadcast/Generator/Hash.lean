import Roadcast.Generator.Document
import Roadcast.Lib.Delimited

/-!
# Stable IDs and the schema hash

`fnv1a`, `stable_id` and `schema_hash` of `generate-catalog.py`. The schema hash is chained over the
canonical bytes of the signals. These are self-delimiting, so the bytes that go into the hash
identify the signals, in order and with all their fields.
-/

namespace Roadcast

open Guards BigEndian Delimited

/-- `FNV_OFFSET`. -/
def fnvOffset : UInt64 := 0xCBF29CE484222325

/-- `FNV_PRIME`. -/
def fnvPrime : UInt64 := 0x100000001B3

/-- `fnv1a`. -/
def fnv1a (data : List UInt8) (initial : UInt64) : UInt64 :=
  data.foldl (fun value byte => (value ^^^ byte.toUInt64) * fnvPrime) initial

/-- `NAMESPACE`. -/
def stableNamespace : List UInt8 := utf8 "roadcast.can.signal.v1"

/-- `SCHEMA_PREFIX`. -/
def schemaInputPrefix : List UInt8 := utf8 "roadcast.schema.can.v1" ++ [0]

/-- `number.to_bytes(size, "big")`. -/
def toBytes (size : ℕ) (number : ℤ) : Except Rejection (List UInt8) := do
  require (0 ≤ number) .negative
  require (number < 256 ^ size) .overflow
  pure (putBytes size number.toNat)

/-- One element of `bytes(numbers)`. -/
def byteOf (number : ℤ) : Except Rejection (List UInt8) := do
  require (0 ≤ number ∧ number < 256) .byteRange
  pure [UInt8.ofNat number.toNat]

/-- `bytes(numbers)`. -/
def bytesOf (numbers : List ℤ) : Except Rejection (List UInt8) := do
  let bytes ← numbers.mapM byteOf
  pure bytes.flatten

/-- `stable_id`. -/
def stableId (reader : HexReader) (signal : DbcSignal) : Except Rejection UInt64 := do
  let number ← reader.number signal.canid
  let canId ← toBytes 2 number
  pure (fnv1a (stableNamespace ++ [0] ++ canId ++ utf8 signal.name) fnvOffset)

/-- `len(text).to_bytes(2, "big") + text`. -/
def textBytes (text : List UInt8) : Except Rejection (List UInt8) := do
  let length ← toBytes 2 text.length
  pure (length ++ text)

/-- `bytes([part["word"], part["off"], part["bits"]])`. -/
def partBytes (part : DbcPart) : Except Rejection (List UInt8) :=
  bytesOf [part.word, part.off, part.bits]

/-- What `schema_hash` finds under one index of its three arguments. -/
structure SchemaItem where
  index : ℕ
  signal : DbcSignal
  stableId : UInt64
  invalidIndex : ℕ
  deriving DecidableEq, Repr

/-- The loop body of `schema_hash`: `canonical`. -/
def canonical (reader : HexReader) (item : SchemaItem) : Except Rejection (List UInt8) := do
  let signal := item.signal
  let stableId ← toBytes 8 item.stableId.toNat
  let index ← toBytes 4 item.index
  let invalidIndex ← toBytes 4 item.invalidIndex
  let number ← reader.number signal.canid
  let canId ← toBytes 2 number
  let shape ← bytesOf [signal.width, signal.signed.toInt, signal.calibrated.toInt,
    signal.parts.length]
  let name ← textBytes (utf8 signal.name)
  let unit ← textBytes (utf8 signal.unit)
  let parts ← signal.parts.mapM partBytes
  pure (stableId ++ (index ++ (invalidIndex ++ (canId ++ (shape ++ (putBytes 8 signal.scale.toNat ++
    (putBytes 8 signal.offset.toNat ++ (name ++ (unit ++ parts.flatten)))))))))

/-- `schema_hash`: the hash of the canonical bytes, chained from signal to signal. -/
def schemaHash (reader : HexReader) (items : List SchemaItem) : Except Rejection UInt64 :=
  items.foldlM (fun value item => do
    let canonical ← canonical reader item
    pure (fnv1a canonical value)) (fnv1a schemaInputPrefix fnvOffset)

/-- The bytes that `schema_hash` feeds to `fnv1a`, one after another. -/
def schemaInput (reader : HexReader) (items : List SchemaItem) : Except Rejection (List UInt8) := do
  let records ← items.mapM (canonical reader)
  pure (schemaInputPrefix ++ records.flatten)

/-! ## The encodings delimit themselves -/

/-- `to_bytes` returns the bytes of every number that fits, and of no other. -/
theorem toBytes_ok {size : ℕ} {number : ℤ} {bytes : List UInt8} :
    toBytes size number = .ok bytes ↔
      0 ≤ number ∧ number < 256 ^ size ∧ putBytes size number.toNat = bytes := by
  rw [toBytes, check_bind_ok, require_ok, check_bind_ok, require_ok, pure_ok]

/-- `bytes([number])` is one byte, for every number that is one. -/
theorem byteOf_ok {number : ℤ} {bytes : List UInt8} :
    byteOf number = .ok bytes ↔
      (0 ≤ number ∧ number < 256) ∧ [UInt8.ofNat number.toNat] = bytes := by
  rw [byteOf, check_bind_ok, require_ok, pure_ok]

/-- Numbers in a fixed number of bytes. -/
theorem toBytes_delimited (size : ℕ) : SelfDelimiting id (toBytes size) := by
  apply selfDelimiting_of_length size
  · intro number bytes h
    rw [← (toBytes_ok.mp h).2.2, putBytes_length]
  · intro number number' bytes h h'
    obtain ⟨hnonneg, hlt, hbytes⟩ := toBytes_ok.mp h
    obtain ⟨hnonneg', hlt', hbytes'⟩ := toBytes_ok.mp h'
    have hfits : number.toNat < 256 ^ size := (Int.toNat_lt hnonneg).mpr (by exact_mod_cast hlt)
    have hfits' : number'.toNat < 256 ^ size := (Int.toNat_lt hnonneg').mpr (by exact_mod_cast hlt')
    have heq := putBytes_inj hfits hfits' (hbytes.trans hbytes'.symm)
    rw [id, id]
    omega

/-- A byte ends where it ends, whatever follows. -/
theorem byteOf_delimited : SelfDelimiting id byteOf := by
  apply selfDelimiting_of_length 1
  · intro number bytes h
    rw [← (byteOf_ok.mp h).2, List.length_singleton]
  · intro number number' bytes h h'
    obtain ⟨hrange, hbyte⟩ := byteOf_ok.mp h
    obtain ⟨hrange', hbyte'⟩ := byteOf_ok.mp h'
    have heq := congrArg UInt8.toNat (List.singleton_inj.mp (hbyte.trans hbyte'.symm))
    rw [UInt8.toNat_ofNat', UInt8.toNat_ofNat'] at heq
    rw [id, id]
    omega

/-- Equally many numbers, a byte each. -/
theorem bytesOf_delimited {numbers numbers' : List ℤ} {bytes bytes' rest rest' : List UInt8}
    (h : bytesOf numbers = .ok bytes) (h' : bytesOf numbers' = .ok bytes')
    (hcount : numbers.length = numbers'.length) (heq : bytes ++ rest = bytes' ++ rest') :
    numbers = numbers' ∧ rest = rest' := by
  obtain ⟨records, hrecords, hbytes⟩ := bind_ok.mp h
  obtain ⟨records', hrecords', hbytes'⟩ := bind_ok.mp h'
  rw [← pure_ok.mp hbytes, ← pure_ok.mp hbytes'] at heq
  obtain ⟨hnumbers, hrest⟩ := byteOf_delimited.counted hrecords hrecords' hcount heq
  rw [List.map_id, List.map_id] at hnumbers
  exact ⟨hnumbers, hrest⟩

/-- The bytes of a part end where they end, whatever follows. -/
theorem partBytes_delimited : SelfDelimiting id partBytes := by
  intro part part' bytes bytes' rest rest' h h' heq
  obtain ⟨hnumbers, hrest⟩ := bytesOf_delimited h h' rfl heq
  rw [List.cons.injEq, List.cons.injEq, List.cons.injEq] at hnumbers
  obtain ⟨hword, hoff, hbits, -⟩ := hnumbers
  exact ⟨DbcPart.ext hword hoff hbits, hrest⟩

/-- Texts behind their length. -/
theorem textBytes_delimited : SelfDelimiting id textBytes := by
  intro text text' bytes bytes' rest rest' h h' heq
  obtain ⟨length, hlength, hbytes⟩ := bind_ok.mp h
  obtain ⟨length', hlength', hbytes'⟩ := bind_ok.mp h'
  rw [← pure_ok.mp hbytes, ← pure_ok.mp hbytes', List.append_assoc, List.append_assoc] at heq
  obtain ⟨hcount, heq⟩ := toBytes_delimited 2 hlength hlength' heq
  exact List.append_inj heq (Int.ofNat_inj.mp hcount)

/-- What the canonical bytes say about a signal: everything but the spelling of its CAN ID and the
name of its invalid flag, which its invalid index stands for. -/
@[ext] structure SchemaContent where
  stableId : UInt64
  index : ℕ
  invalidIndex : ℕ
  canId : Option ℤ
  width : ℤ
  signed : Bool
  calibrated : Bool
  scale : UInt64
  offset : UInt64
  name : String
  unit : String
  parts : List DbcPart
  deriving DecidableEq, Repr

/-- The content of an item. -/
def SchemaItem.content (reader : HexReader) (item : SchemaItem) : SchemaContent where
  stableId := item.stableId
  index := item.index
  invalidIndex := item.invalidIndex
  canId := reader.read item.signal.canid
  width := item.signal.width
  signed := item.signal.signed
  calibrated := item.signal.calibrated
  scale := item.signal.scale
  offset := item.signal.offset
  name := item.signal.name
  unit := item.signal.unit
  parts := item.signal.parts

/-- The two truth values are different numbers. -/
theorem toInt_injective : Function.Injective Bool.toInt := by
  intro b b'
  revert b b'
  decide

/-- Different texts have different bytes. -/
theorem utf8_injective : Function.Injective utf8 := by
  intro text text' h
  apply String.toByteArray_inj.mp
  exact ByteArray.ext (Array.toList_inj.mp h)

/-- The eight bytes of a `double`, which are never too many. -/
theorem putBytes_double_delimited {bits bits' : UInt64} {rest rest' : List UInt8}
    (h : putBytes 8 bits.toNat ++ rest = putBytes 8 bits'.toNat ++ rest') :
    bits = bits' ∧ rest = rest' := by
  have hlength : (putBytes 8 bits.toNat).length = (putBytes 8 bits'.toNat).length := by
    rw [putBytes_length, putBytes_length]
  obtain ⟨hbits, hrest⟩ := List.append_inj h hlength
  exact ⟨UInt64.toNat_inj.mp (putBytes_inj bits.toNat_lt bits'.toNat_lt hbits), hrest⟩

/-- The canonical bytes of a signal delimit themselves: every field has a fixed length or comes
behind its own length, and the number of parts comes before them. -/
theorem canonical_delimited (reader : HexReader) :
    SelfDelimiting (SchemaItem.content reader) (canonical reader) := by
  intro item item' bytes bytes' rest rest' h h' heq
  simp only [canonical, bind_ok, pure_ok] at h h'
  obtain ⟨stableId, hstableId, index, hindex, invalidIndex, hinvalidIndex, number, hnumber, canId,
    hcanId, shape, hshape, name, hname, unit, hunit, parts, hparts, rfl⟩ := h
  obtain ⟨stableId', hstableId', index', hindex', invalidIndex', hinvalidIndex', number', hnumber',
    canId', hcanId', shape', hshape', name', hname', unit', hunit', parts', hparts', rfl⟩ := h'
  simp only [List.append_assoc] at heq
  obtain ⟨estableId, heq⟩ := toBytes_delimited 8 hstableId hstableId' heq
  obtain ⟨eindex, heq⟩ := toBytes_delimited 4 hindex hindex' heq
  obtain ⟨einvalidIndex, heq⟩ := toBytes_delimited 4 hinvalidIndex hinvalidIndex' heq
  obtain ⟨ecanId, heq⟩ := toBytes_delimited 2 hcanId hcanId' heq
  obtain ⟨eshape, heq⟩ := bytesOf_delimited hshape hshape' rfl heq
  obtain ⟨escale, heq⟩ := putBytes_double_delimited heq
  obtain ⟨eoffset, heq⟩ := putBytes_double_delimited heq
  obtain ⟨ename, heq⟩ := textBytes_delimited hname hname' heq
  obtain ⟨eunit, heq⟩ := textBytes_delimited hunit hunit' heq
  simp only [List.cons.injEq, and_true, Int.ofNat_inj] at eshape
  obtain ⟨ewidth, esigned, ecalibrated, ecount⟩ := eshape
  obtain ⟨eparts, hrest⟩ := partBytes_delimited.counted hparts hparts' ecount heq
  rw [List.map_id, List.map_id] at eparts
  have hcanIds : reader.read item.signal.canid = reader.read item'.signal.canid := by
    rw [HexReader.number_ok.mp hnumber, HexReader.number_ok.mp hnumber']
    exact congrArg some ecanId
  refine ⟨SchemaContent.ext ?_ ?_ ?_ hcanIds ewidth ?_ ?_ escale eoffset ?_ ?_ eparts, hrest⟩
  · exact UInt64.toNat_inj.mp (Int.ofNat_inj.mp estableId)
  · exact Int.ofNat_inj.mp eindex
  · exact Int.ofNat_inj.mp einvalidIndex
  · exact toInt_injective esigned
  · exact toInt_injective ecalibrated
  · exact utf8_injective ename
  · exact utf8_injective eunit

/-- No item is hashed as nothing. -/
theorem canonical_ne_nil (reader : HexReader) (item : SchemaItem) :
    canonical reader item ≠ .ok [] := by
  intro h
  obtain ⟨stableId, hstableId, h⟩ := bind_ok.mp h
  simp only [bind_ok, pure_ok, List.append_eq_nil_iff] at h
  have hnil : stableId = [] := by
    obtain ⟨-, -, -, -, -, -, -, -, -, -, -, -, -, -, -, -, hnil, -⟩ := h
    exact hnil
  have hlength := putBytes_length 8 (item.stableId.toNat : ℤ).toNat
  rw [(toBytes_ok.mp hstableId).2.2, hnil] at hlength
  cases hlength

/-- Equal inputs of the hash come from items of equal content. -/
theorem schemaInput_content {reader : HexReader} {items items' : List SchemaItem}
    {input : List UInt8} (h : schemaInput reader items = .ok input)
    (h' : schemaInput reader items' = .ok input) :
    items.map (SchemaItem.content reader) = items'.map (SchemaItem.content reader) := by
  obtain ⟨records, hrecords, hinput⟩ := bind_ok.mp h
  obtain ⟨records', hrecords', hinput'⟩ := bind_ok.mp h'
  have heq : schemaInputPrefix ++ records.flatten = schemaInputPrefix ++ records'.flatten :=
    (pure_ok.mp hinput).trans (pure_ok.mp hinput').symm
  exact (canonical_delimited reader).flatten (canonical_ne_nil reader) hrecords hrecords'
    (List.append_cancel_left heq)

/-! ## The chained hash -/

/-- The hash of bytes one after the other. -/
theorem fnv1a_append (data rest : List UInt8) (initial : UInt64) :
    fnv1a (data ++ rest) initial = fnv1a rest (fnv1a data initial) := List.foldl_append

/-- One round after another hashes one record after another. -/
theorem foldlM_fnv1a (reader : HexReader) (items : List SchemaItem) (initial digest : UInt64) :
    items.foldlM (fun value item => do
      let canonical ← canonical reader item
      pure (fnv1a canonical value)) initial = .ok digest ↔
    ∃ records, items.mapM (canonical reader) = .ok records ∧
      fnv1a records.flatten initial = digest := by
  induction items generalizing initial with
  | nil =>
    simp only [List.foldlM_nil, List.mapM_nil, pure_ok]
    constructor
    · intro h
      exact ⟨[], rfl, h⟩
    · rintro ⟨_, rfl, h⟩
      exact h
  | cons item items ih =>
    simp only [List.foldlM_cons, List.mapM_cons, bind_ok, pure_ok, ih]
    constructor
    · rintro ⟨value, ⟨bytes, hbytes, rfl⟩, records, hrecords, hdigest⟩
      refine ⟨bytes :: records, ⟨bytes, hbytes, records, hrecords, rfl⟩, ?_⟩
      rw [List.flatten_cons, fnv1a_append, hdigest]
    · rintro ⟨_, ⟨bytes, hbytes, records, hrecords, rfl⟩, hdigest⟩
      rw [List.flatten_cons, fnv1a_append] at hdigest
      exact ⟨_, ⟨bytes, hbytes, rfl⟩, records, hrecords, hdigest⟩

/-- The chained hash is the hash of the whole input. -/
theorem schemaHash_ok {reader : HexReader} {items : List SchemaItem} {digest : UInt64} :
    schemaHash reader items = .ok digest ↔
      ∃ input, schemaInput reader items = .ok input ∧ fnv1a input fnvOffset = digest := by
  rw [schemaHash, foldlM_fnv1a]
  simp only [schemaInput, bind_ok, pure_ok]
  constructor
  · rintro ⟨records, hrecords, hdigest⟩
    exact ⟨_, ⟨records, hrecords, rfl⟩, by rw [fnv1a_append, hdigest]⟩
  · rintro ⟨_, ⟨records, hrecords, rfl⟩, hdigest⟩
    rw [fnv1a_append] at hdigest
    exact ⟨records, hrecords, hdigest⟩

end Roadcast
