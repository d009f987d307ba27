import Roadcast.Generator.Emit

/-!
# The emitted catalog as the C compiler reads it

`ROADCAST_CAN_IDS` and `ROADCAST_SIGNALS` hold the values of the emitted literals, each converted to
the type of its field. A CAN ID that is not hexadecimal digits and blanks behind them gives no C
constant, some names and units no C string, and an empty list no C table.

The generator compares CAN IDs as texts. What it guarantees about the tables it guarantees for every
accepted document, except that their CAN IDs increase: for that the texts have to increase in upper
case, with their digits moved to the end.
-/

namespace Roadcast

open Guards

/-- An element of `SIGNAL_PARTS`. -/
def DbcPart.compiled (part : DbcPart) : SignalPart :=
  ⟨UInt8.ofInt part.word, UInt8.ofInt part.off, UInt8.ofInt part.bits⟩

/-- An element of `ROADCAST_SIGNALS`. -/
structure CompiledSignal where
  stableId : UInt64
  name : List UInt8
  unit : List UInt8
  parts : List SignalPart
  invalidSignalIndex : UInt32
  canId : UInt16
  frameIndex : UInt16
  partCount : UInt8
  width : UInt8
  isSigned : UInt8
  calibrated : UInt8
  scale : UInt64
  offset : UInt64
  deriving DecidableEq, Repr

/-- The compiled tables. -/
structure CompiledTables where
  canIds : List UInt16
  signals : List CompiledSignal
  schemaHash : UInt64
  deriving DecidableEq, Repr

/-- Compile an element of `ROADCAST_CAN_IDS`. -/
def compileCanId (literal : String) : Except String UInt16 := do
  let number ← hexConstant literal
  pure (UInt16.ofNat number)

/-- Compile an element of `ROADCAST_SIGNALS`. -/
def EmittedSignal.compile (signal : EmittedSignal) : Except String CompiledSignal := do
  let name ← stringConstant signal.name
  let unit ← stringConstant signal.unit
  let canId ← compileCanId signal.canId
  pure {
    stableId := signal.stableId
    name := name
    unit := unit
    parts := signal.parts.map DbcPart.compiled
    invalidSignalIndex := UInt32.ofNat signal.invalidSignalIndex
    canId := canId
    frameIndex := UInt16.ofNat signal.frameIndex
    partCount := UInt8.ofNat signal.partCount
    width := UInt8.ofInt signal.width
    isSigned := UInt8.ofInt signal.isSigned
    calibrated := UInt8.ofInt signal.calibrated
    scale := doubleConstant signal.scale
    offset := doubleConstant signal.offset }

/-- Compile `roadcast_frames.h`. Without a frame there is a lone comma between the braces. -/
def EmittedCatalog.compileFrames (catalog : EmittedCatalog) : Except String (List UInt16) := do
  require (catalog.canIds ≠ []) ","
  catalog.canIds.mapM compileCanId

/-- Compile the emitted files. ISO C forbids a table without elements. -/
def EmittedCatalog.compile (catalog : EmittedCatalog) : Except String CompiledTables := do
  let canIds ← catalog.compileFrames
  require (catalog.signals ≠ []) "0u"
  let signals ← catalog.signals.mapM EmittedSignal.compile
  pure ⟨canIds, signals, catalog.schemaHash⟩

/-- What the C code relies on in its tables, apart from the order of the CAN IDs. -/
structure CompiledTables.Trusted (tables : CompiledTables) : Prop where
  canIds_le : ∀ canId ∈ tables.canIds, canId.toNat ≤ 0x7FF
  frameIndex : ∀ signal ∈ tables.signals,
    tables.canIds[signal.frameIndex.toNat]? = some signal.canId
  invalidIndex : ∀ signal ∈ tables.signals, signal.invalidSignalIndex = 0xFFFFFFFF ∨
    ∃ flag, tables.signals[signal.invalidSignalIndex.toNat]? = some flag ∧
      flag.frameIndex = signal.frameIndex
  parts : ∀ signal ∈ tables.signals, ∀ part ∈ signal.parts, part.Accepted
  width_eq : ∀ signal ∈ tables.signals,
    (signal.parts.map fun part => part.bits.toNat).sum = signal.width.toNat
  width : ∀ signal ∈ tables.signals, 1 ≤ signal.width.toNat ∧ signal.width.toNat ≤ 64
  partCount : ∀ signal ∈ tables.signals, signal.partCount.toNat = signal.parts.length
  stableIds : (tables.signals.map CompiledSignal.stableId).Nodup

/-! ## Index tables -/

/-- The index of a key leads to the key. -/
theorem getElem?_of_indexTable {K : Type} [DecidableEq K] {keys : List K} {key : K} {i : ℕ}
    (h : indexTable keys key = some i) : keys[i]? = some key := by
  obtain ⟨entry, hentry, rfl⟩ := Option.map_eq_some_iff.mp h
  have hmem := List.mem_reverse.mp (List.mem_of_find?_eq_some hentry)
  have hkey := List.find?_some hentry
  rw [decide_eq_true_eq] at hkey
  rw [← hkey]
  exact List.mem_zipIdx_iff_getElem?.mp hmem

/-- Every key has an index. -/
theorem indexTable_of_mem {K : Type} [DecidableEq K] {keys : List K} {key : K} (h : key ∈ keys) :
    ∃ i, indexTable keys key = some i := by
  obtain ⟨i, hi⟩ := List.getElem?_of_mem h
  have hmem : (key, i) ∈ keys.zipIdx.reverse :=
    List.mem_reverse.mpr (List.mk_mem_zipIdx_iff_getElem?.mpr hi)
  rw [← Option.isSome_iff_exists, indexTable, Option.isSome_map, List.find?_isSome]
  exact ⟨(key, i), hmem, decide_eq_true rfl⟩

/-! ## Numbers in their fields -/

/-- A CAN ID compiles to its number. -/
theorem compileCanId_ok {canId : String} {word : UInt16} :
    compileCanId (canIdLiteral canId) = .ok word ↔
      ∃ number, hexNumber canId = some number ∧ UInt16.ofNat number = word := by
  simp only [compileCanId, canIdLiteral, bind_ok, hexConstant_ok, pure_ok]

/-- The table entry of an item, with the number of its CAN ID. -/
def SchemaItem.compiled (frames : List String) (item : SchemaItem) (number : ℕ) :
    CompiledSignal where
  stableId := item.stableId
  name := utf8 item.signal.name
  unit := utf8 item.signal.unit
  parts := item.signal.parts.map DbcPart.compiled
  invalidSignalIndex := UInt32.ofNat item.invalidIndex
  canId := UInt16.ofNat number
  frameIndex := UInt16.ofNat ((indexTable frames item.signal.canid).getD 0)
  partCount := UInt8.ofNat item.signal.parts.length
  width := UInt8.ofInt item.signal.width
  isSigned := UInt8.ofInt item.signal.signed.toInt
  calibrated := UInt8.ofInt item.signal.calibrated.toInt
  scale := doubleConstant item.signal.scale
  offset := doubleConstant item.signal.offset

/-- An item compiles if its texts are portable and its CAN ID has a number. -/
theorem compile_ok {frames : List String} {item : SchemaItem} {signal : CompiledSignal} :
    (emitSignal frames item).compile = .ok signal ↔
      (Portable item.signal.name ∧ Portable item.signal.unit) ∧
        ∃ number, hexNumber item.signal.canid = some number ∧
          item.compiled frames number = signal := by
  rw [EmittedSignal.compile, emitSignal]
  simp only [bind_ok, stringConstant_cString, compileCanId_ok, pure_ok]
  constructor
  · rintro ⟨name, ⟨hname, rfl⟩, unit, ⟨hunit, rfl⟩, canId, ⟨number, hnumber, rfl⟩, rfl⟩
    exact ⟨⟨hname, hunit⟩, number, hnumber, rfl⟩
  · rintro ⟨⟨hname, hunit⟩, number, hnumber, rfl⟩
    exact ⟨_, ⟨hname, rfl⟩, _, ⟨hunit, rfl⟩, _, ⟨number, hnumber, rfl⟩, rfl⟩

/-- A byte keeps a number that fits. -/
theorem toNat_ofInt {number : ℤ} (hnonneg : 0 ≤ number) (hlt : number < 256) :
    ((UInt8.ofInt number).toNat : ℤ) = number := by
  rw [UInt8.ofInt, UInt8.toNat_ofNat']
  omega

/-- The compiled width of a checked part is its width. -/
theorem DbcPart.Valid.bits_toNat {part : DbcPart} (h : part.Valid) :
    (part.compiled.bits.toNat : ℤ) = part.bits := by
  obtain ⟨hpos, hle⟩ := h.bits
  exact toNat_ofInt (by omega) (by omega)

/-- The checks on a part are those that the decoder needs. -/
theorem DbcPart.Valid.compiled_accepted {part : DbcPart} (h : part.Valid) :
    part.compiled.Accepted := by
  have hoff : (part.compiled.offset.toNat : ℤ) = part.off :=
    toNat_ofInt h.off.1 (by have := h.off.2; omega)
  have hbits := h.bits_toNat
  obtain ⟨hpos, hle⟩ := h.bits
  have hinside := h.inside
  refine ⟨?_, by omega, by omega, by omega⟩
  rcases h.word with hword | hword
  · exact Or.inl (congrArg UInt8.ofInt hword)
  · exact Or.inr (congrArg UInt8.ofInt hword)

/-- The widths of the compiled parts add up to the same number. -/
theorem compiled_bits_sum {parts : List DbcPart} (h : ∀ part ∈ parts, part.Valid) :
    ((((parts.map DbcPart.compiled).map fun part => part.bits.toNat).sum : ℕ) : ℤ) =
      (parts.map DbcPart.bits).sum := by
  induction parts with
  | nil => rfl
  | cons part parts ih =>
    rw [List.forall_mem_cons] at h
    rw [List.map_cons, List.map_cons, List.sum_cons, List.map_cons, List.sum_cons, Nat.cast_add,
      ih h.2, h.1.bits_toNat]

/-- Every part has a bit, so there are no more parts than bits. -/
theorem length_le_bits_sum {parts : List DbcPart} (h : ∀ part ∈ parts, part.Valid) :
    (parts.length : ℤ) ≤ (parts.map DbcPart.bits).sum := by
  induction parts with
  | nil => exact le_rfl
  | cons part parts ih =>
    rw [List.forall_mem_cons] at h
    rw [List.length_cons, List.map_cons, List.sum_cons]
    have hbits := h.1.bits.1
    have hrest := ih h.2
    omega

/-! ## Compiled documents -/

/-- Tables that were compiled from what `main` emitted for a document. -/
structure CompiledFrom (reader : HexReader) (document : DbcDocument) (items : List SchemaItem)
    (tables : CompiledTables) : Prop where
  valid : document.Valid reader
  items_ok : schemaItems reader document.signals = .ok items
  stableIds : (items.map SchemaItem.stableId).Nodup
  canonical_ok : ∀ item ∈ items, ∃ bytes, canonical reader item = .ok bytes
  frames_ne_nil : document.frames ≠ []
  canIds_ok : document.frames.mapM (fun canId => compileCanId (canIdLiteral canId)) =
    .ok tables.canIds
  items_ne_nil : items ≠ []
  signals_ok : items.mapM (fun item => (emitSignal document.frames item).compile) =
    .ok tables.signals

/-- What compiles was compiled from the items of the document. -/
theorem compiledFrom_of_generate {reader : HexReader} {document : DbcDocument}
    {catalog : EmittedCatalog} {tables : CompiledTables}
    (h : generate reader document = .ok catalog) (htables : catalog.compile = .ok tables) :
    ∃ items, CompiledFrom reader document items tables := by
  obtain ⟨hvalid, items, hitems, hstableIds, digest, hdigest, rfl⟩ := generate_ok.mp h
  obtain ⟨input, hinput, -⟩ := schemaHash_ok.mp hdigest
  obtain ⟨records, hrecords, -⟩ := bind_ok.mp hinput
  obtain ⟨canIds, hframes, hlater⟩ := bind_ok.mp htables
  obtain ⟨hframesNe, hcanIds⟩ := check_bind_ok.mp hframes
  obtain ⟨hsignalsNe, hlater⟩ := check_bind_ok.mp hlater
  obtain ⟨signals, hsignals, hresult⟩ := bind_ok.mp hlater
  obtain rfl := pure_ok.mp hresult
  rw [List.mapM_map] at hcanIds hsignals
  rw [require_ok, ne_eq, List.map_eq_nil_iff] at hframesNe hsignalsNe
  refine ⟨items, hvalid, hitems, hstableIds, ?_, hframesNe, hcanIds, hsignalsNe, hsignals⟩
  intro item hitem
  obtain ⟨i, hi⟩ := List.getElem?_of_mem hitem
  obtain ⟨bytes, -, hbytes⟩ := result_of_mapM hrecords hi
  exact ⟨bytes, hbytes⟩

variable {reader : HexReader} {document : DbcDocument} {items : List SchemaItem}
  {tables : CompiledTables}

/-- A frame that compiles has three characters and a number of eleven bits. -/
theorem DbcDocument.Valid.frame_number (h : document.Valid reader) {canId : String}
    (hcanId : canId ∈ document.frames) {number : ℕ} (hnumber : hexNumber canId = some number) :
    canId.length = 3 ∧ number ≤ 0x7FF := by
  obtain ⟨hlength, found, hfound, hle⟩ := h.frames canId hcanId
  have heq : some found = some (number : ℤ) :=
    hfound.symm.trans (reader.read_hex canId number hnumber)
  rw [Option.some.inj heq] at hle
  exact ⟨hlength, by omega⟩

/-- The frames are different spellings, of which there are not many. -/
theorem CompiledFrom.frames_length (h : CompiledFrom reader document items tables) :
    document.frames.length ≤ 7568 := by
  refine length_le_of_spellings h.valid.frames_nodup fun canId hcanId => ?_
  obtain ⟨i, hi⟩ := List.getElem?_of_mem hcanId
  obtain ⟨word, -, hword⟩ := result_of_mapM h.canIds_ok hi
  obtain ⟨number, hnumber, -⟩ := compileCanId_ok.mp hword
  obtain ⟨hlength, hle⟩ := h.valid.frame_number hcanId hnumber
  exact ⟨hlength, number, hnumber, hle⟩

/-- Every item is a checked signal, at its own index. -/
theorem CompiledFrom.item (h : CompiledFrom reader document items tables) {i : ℕ}
    {item : SchemaItem} (hi : items[i]? = some item) :
    item.signal.Valid document.frames (document.signals.map DbcSignal.identity) ∧
      item.invalidIndex = invalidIndex document.signals item.signal := by
  obtain ⟨hsignal, hindex⟩ := schemaItems_getElem? h.items_ok hi
  exact ⟨h.valid.signals _ (List.mem_of_getElem? hsignal), hindex⟩

/-- Every signal has an item at its index. -/
theorem CompiledFrom.item_of_signal (h : CompiledFrom reader document items tables) {i : ℕ}
    {signal : DbcSignal} (hi : document.signals[i]? = some signal) :
    ∃ item, items[i]? = some item ∧ item.signal = signal := by
  have hentry : document.signals.zipIdx[i]? = some (signal, 0 + i) := by
    rw [List.getElem?_zipIdx, hi, Option.map_some]
  obtain ⟨item, hitem, hok⟩ := result_of_mapM h.items_ok hentry
  obtain ⟨stableId, -, hok⟩ := bind_ok.mp hok
  exact ⟨item, hitem, pure_ok.mp hok ▸ rfl⟩

/-- A compiled signal comes from the item at its index. -/
theorem CompiledFrom.signal (h : CompiledFrom reader document items tables)
    {signal : CompiledSignal} (hsignal : signal ∈ tables.signals) :
    ∃ (i : ℕ) (item : SchemaItem), items[i]? = some item ∧
      (emitSignal document.frames item).compile = .ok signal := by
  obtain ⟨i, hi⟩ := List.getElem?_of_mem hsignal
  obtain ⟨item, hitem, hcompile⟩ := element_of_mapM h.signals_ok hi
  exact ⟨i, item, hitem, hcompile⟩

/-- The frame index that a signal compiles with. -/
theorem frameIndex_of_compile {frames : List String} {item : SchemaItem} {signal : CompiledSignal}
    (h : (emitSignal frames item).compile = .ok signal) :
    signal.frameIndex = UInt16.ofNat ((indexTable frames item.signal.canid).getD 0) := by
  obtain ⟨-, number, -, rfl⟩ := compile_ok.mp h
  rfl

/-- The frame index of a signal leads to the literal of its CAN ID, and fits its field. -/
theorem CompiledFrom.frameIndex (h : CompiledFrom reader document items tables)
    {canId : String} (hcanId : canId ∈ document.frames) :
    document.frames[(UInt16.ofNat ((indexTable document.frames canId).getD 0)).toNat]? =
      some canId := by
  obtain ⟨k, hk⟩ := indexTable_of_mem hcanId
  have hframe := getElem?_of_indexTable hk
  have hlt := (List.getElem?_eq_some_iff.mp hframe).1
  have hlength := h.frames_length
  rw [hk, Option.getD_some, UInt16.toNat_ofNat', Nat.mod_eq_of_lt (by omega), hframe]

/-- CAN IDs have eleven bits. -/
theorem CompiledFrom.canIds_le (h : CompiledFrom reader document items tables) {canId : UInt16}
    (hcanId : canId ∈ tables.canIds) : canId.toNat ≤ 0x7FF := by
  obtain ⟨i, hi⟩ := List.getElem?_of_mem hcanId
  obtain ⟨text, htext, hword⟩ := element_of_mapM h.canIds_ok hi
  obtain ⟨number, hnumber, rfl⟩ := compileCanId_ok.mp hword
  obtain ⟨-, hle⟩ := h.valid.frame_number (List.mem_of_getElem? htext) hnumber
  rw [UInt16.toNat_ofNat']
  omega

/-- The frame index of a signal leads to its CAN ID. -/
theorem CompiledFrom.frameIndex_canId (h : CompiledFrom reader document items tables)
    {signal : CompiledSignal} (hsignal : signal ∈ tables.signals) :
    tables.canIds[signal.frameIndex.toNat]? = some signal.canId := by
  obtain ⟨i, item, hitem, hcompile⟩ := h.signal hsignal
  obtain ⟨hvalid, -⟩ := h.item hitem
  obtain ⟨-, number, hnumber, rfl⟩ := compile_ok.mp hcompile
  obtain ⟨word, hword, hcompiled⟩ := result_of_mapM h.canIds_ok (h.frameIndex hvalid.frame)
  have hcanId := compileCanId_ok.mpr ⟨number, hnumber, rfl⟩
  rw [Except.ok.inj (hcompiled.symm.trans hcanId)] at hword
  exact hword

/-- The invalid index of a signal is none, or leads to a signal of the same frame. -/
theorem CompiledFrom.invalidIndex (h : CompiledFrom reader document items tables)
    {signal : CompiledSignal} (hsignal : signal ∈ tables.signals) :
    signal.invalidSignalIndex = 0xFFFFFFFF ∨
      ∃ flag, tables.signals[signal.invalidSignalIndex.toNat]? = some flag ∧
        flag.frameIndex = signal.frameIndex := by
  obtain ⟨i, item, hitem, hcompile⟩ := h.signal hsignal
  obtain ⟨-, hindex⟩ := h.item hitem
  have hinvalidWord : signal.invalidSignalIndex = UInt32.ofNat item.invalidIndex := by
    obtain ⟨-, number, -, rfl⟩ := compile_ok.mp hcompile
    rfl
  -- Both the hash and the emission write the index in 32 bits; the hash refuses a larger one.
  have hfits : item.invalidIndex < 2 ^ 32 := by
    obtain ⟨bytes, hbytes⟩ := h.canonical_ok item (List.mem_of_getElem? hitem)
    simp only [canonical, bind_ok] at hbytes
    obtain ⟨_, -, _, -, _, hinvalid, -⟩ := hbytes
    have hlt := (toBytes_ok.mp hinvalid).2.1
    omega
  rw [Roadcast.invalidIndex] at hindex
  cases htable : indexTable (document.signals.map DbcSignal.identity)
      (item.signal.canid, item.signal.invalidFlag.getD "") with
  | none =>
    left
    rw [htable, Option.getD_none] at hindex
    rw [hinvalidWord, hindex]
    decide
  | some j =>
    right
    rw [htable, Option.getD_some] at hindex
    have hflag := getElem?_of_indexTable htable
    rw [List.getElem?_map] at hflag
    obtain ⟨flag, hflagAt, hidentity⟩ := Option.map_eq_some_iff.mp hflag
    obtain ⟨flagItem, hflagItem, rfl⟩ := h.item_of_signal hflagAt
    obtain ⟨flagSignal, hflagSignal, hflagCompile⟩ := result_of_mapM h.signals_ok hflagItem
    have hsame : flagItem.signal.canid = item.signal.canid := congrArg Prod.fst hidentity
    refine ⟨flagSignal, ?_, ?_⟩
    · rw [hinvalidWord, UInt32.toNat_ofNat', Nat.mod_eq_of_lt hfits, hindex]
      exact hflagSignal
    · rw [frameIndex_of_compile hflagCompile, frameIndex_of_compile hcompile, hsame]

/-- The layout of a compiled signal is that of a checked one. -/
theorem CompiledFrom.layout (h : CompiledFrom reader document items tables)
    {signal : CompiledSignal} (hsignal : signal ∈ tables.signals) :
    (∀ part ∈ signal.parts, part.Accepted) ∧
      (signal.parts.map fun part => part.bits.toNat).sum = signal.width.toNat ∧
      (1 ≤ signal.width.toNat ∧ signal.width.toNat ≤ 64) ∧
      signal.partCount.toNat = signal.parts.length := by
  obtain ⟨i, item, hitem, hcompile⟩ := h.signal hsignal
  obtain ⟨hvalid, -⟩ := h.item hitem
  obtain ⟨-, number, -, rfl⟩ := compile_ok.mp hcompile
  obtain ⟨hpos, hle⟩ := hvalid.width
  have hwidth : ((UInt8.ofInt item.signal.width).toNat : ℤ) = item.signal.width :=
    toNat_ofInt (by omega) (by omega)
  have hsum := compiled_bits_sum hvalid.parts
  have hcount := length_le_bits_sum hvalid.parts
  rw [hvalid.parts_sum] at hsum hcount
  refine ⟨?_, ?_, ⟨?_, ?_⟩, ?_⟩
  · intro part hpart
    obtain ⟨source, hsource, rfl⟩ := List.mem_map.mp hpart
    exact (hvalid.parts source hsource).compiled_accepted
  · exact Int.ofNat_inj.mp (hsum.trans hwidth.symm)
  · change 1 ≤ (UInt8.ofInt item.signal.width).toNat
    omega
  · change (UInt8.ofInt item.signal.width).toNat ≤ 64
    omega
  · change (UInt8.ofNat item.signal.parts.length).toNat = (item.signal.parts.map _).length
    rw [UInt8.toNat_ofNat', List.length_map]
    omega

/-- The stable IDs are those of the items. -/
theorem CompiledFrom.stableIds_eq (h : CompiledFrom reader document items tables) :
    tables.signals.map CompiledSignal.stableId = items.map SchemaItem.stableId := by
  refine map_of_mapM h.signals_ok fun item _ signal hcompile => ?_
  obtain ⟨-, number, -, rfl⟩ := compile_ok.mp hcompile
  rfl

/-- Compiled tables can be trusted. -/
theorem CompiledFrom.trusted (h : CompiledFrom reader document items tables) : tables.Trusted where
  canIds_le _ := h.canIds_le
  frameIndex _ := h.frameIndex_canId
  invalidIndex _ := h.invalidIndex
  parts _ hsignal := (h.layout hsignal).1
  width_eq _ hsignal := (h.layout hsignal).2.1
  width _ hsignal := (h.layout hsignal).2.2.1
  partCount _ hsignal := (h.layout hsignal).2.2.2
  stableIds := h.stableIds_eq ▸ h.stableIds

/-! ## The order of the CAN IDs -/

/-- Frames that C reads, and that increase in upper case with their digits moved to the end. -/
structure IncreasingFrames (frames : List String) : Prop where
  ne_nil : frames ≠ []
  spelled : ∀ canId ∈ frames, Spells canId
  increasing : (frames.map paddedSpelling).Pairwise (· < ·)

/-- A document whose files the compiler reads. -/
structure DbcDocument.Compiles (document : DbcDocument) : Prop where
  frames_ne_nil : document.frames ≠ []
  spelled : ∀ canId ∈ document.frames, Spells canId
  signals_ne_nil : document.signals ≠ []
  portable : ∀ signal ∈ document.signals, Portable signal.name ∧ Portable signal.unit

/-- The compiled number of a frame that spells one. -/
def frameWord (canId : String) : UInt16 := UInt16.ofNat (hexValue (leadingDigits canId))

/-- A frame is a C constant exactly if it spells a number. -/
theorem compileCanId_iff {canId : String} {word : UInt16} :
    compileCanId (canIdLiteral canId) = .ok word ↔ Spells canId ∧ frameWord canId = word := by
  simp only [compileCanId_ok, hexNumber_eq_some]
  constructor
  · rintro ⟨number, ⟨hspells, rfl⟩, rfl⟩
    exact ⟨hspells, rfl⟩
  · rintro ⟨hspells, rfl⟩
    exact ⟨_, ⟨hspells, rfl⟩, rfl⟩

/-- The table of CAN IDs, if there is one, holds the numbers of the frames. -/
theorem compileFrames_ok {catalog : EmittedCatalog} (h : generate reader document = .ok catalog)
    {canIds : List UInt16} :
    catalog.compileFrames = .ok canIds ↔
      document.frames ≠ [] ∧ (∀ canId ∈ document.frames, Spells canId) ∧
        document.frames.map frameWord = canIds := by
  obtain ⟨-, items, -, -, digest, -, rfl⟩ := generate_ok.mp h
  rw [EmittedCatalog.compileFrames, check_bind_ok, require_ok, ne_eq, List.map_eq_nil_iff,
    List.mapM_map]
  have hwords (hspelled : ∀ canId ∈ document.frames, Spells canId) :
      document.frames.mapM (fun canId => compileCanId (canIdLiteral canId)) =
        .ok (document.frames.map frameWord) :=
    mapM_eq_map fun canId hcanId => compileCanId_iff.mpr ⟨hspelled canId hcanId, rfl⟩
  refine and_congr_right fun _ => ⟨fun hcanIds => ?_, ?_⟩
  · have hspelled : ∀ canId ∈ document.frames, Spells canId := by
      intro canId hcanId
      obtain ⟨i, hi⟩ := List.getElem?_of_mem hcanId
      obtain ⟨word, -, hword⟩ := result_of_mapM hcanIds hi
      exact (compileCanId_iff.mp hword).1
    exact ⟨hspelled, Except.ok.inj ((hwords hspelled).symm.trans hcanIds)⟩
  · rintro ⟨hspelled, rfl⟩
    exact hwords hspelled

/-- A frame keeps its number in its field. -/
theorem DbcDocument.Valid.frameWord_toNat (h : document.Valid reader) {canId : String}
    (hcanId : canId ∈ document.frames) (hspells : Spells canId) :
    (frameWord canId).toNat = hexValue (leadingDigits canId) := by
  have hle := (h.frame_number hcanId (hexNumber_eq_some.mpr ⟨hspells, rfl⟩)).2
  rw [frameWord, UInt16.toNat_ofNat', Nat.mod_eq_of_lt (by omega)]

/-- The numbers of the frames increase as their padded spellings do. -/
theorem DbcDocument.Valid.increasing_iff (h : document.Valid reader)
    (hspelled : ∀ canId ∈ document.frames, Spells canId) :
    (document.frames.map frameWord).Pairwise (· < ·) ↔
      (document.frames.map paddedSpelling).Pairwise (· < ·) := by
  rw [List.pairwise_map, List.pairwise_map]
  refine List.Pairwise.iff_of_mem fun {canId canId'} hcanId hcanId' => ?_
  have hlength : canId.length = canId'.length :=
    (h.frames canId hcanId).1.trans (h.frames canId' hcanId').1.symm
  rw [UInt16.lt_iff_toNat_lt, h.frameWord_toNat hcanId (hspelled _ hcanId),
    h.frameWord_toNat hcanId' (hspelled _ hcanId')]
  exact (paddedSpelling_lt_iff hlength).symm

/-- The files compile exactly if the compiler reads every list and every literal in them. -/
theorem compile_iff {catalog : EmittedCatalog} (h : generate reader document = .ok catalog) :
    (∃ tables, catalog.compile = .ok tables) ↔ document.Compiles := by
  constructor
  · rintro ⟨tables, htables⟩
    obtain ⟨items, hcompiled⟩ := compiledFrom_of_generate h htables
    obtain ⟨canIds, hcanIds, -⟩ := bind_ok.mp htables
    obtain ⟨hframes, hspelled, -⟩ := (compileFrames_ok h).mp hcanIds
    refine ⟨hframes, hspelled, ?_, ?_⟩
    · obtain ⟨item, hitem⟩ := List.exists_mem_of_ne_nil _ hcompiled.items_ne_nil
      obtain ⟨i, hi⟩ := List.getElem?_of_mem hitem
      exact List.ne_nil_of_mem
        (List.mem_of_getElem? (schemaItems_getElem? hcompiled.items_ok hi).1)
    · intro signal hsignal
      obtain ⟨i, hi⟩ := List.getElem?_of_mem hsignal
      obtain ⟨item, hitem, rfl⟩ := hcompiled.item_of_signal hi
      obtain ⟨compiled, -, hcompile⟩ := result_of_mapM hcompiled.signals_ok hitem
      exact (compile_ok.mp hcompile).1
  · intro hcompiles
    have hcanIds := (compileFrames_ok h).mpr ⟨hcompiles.frames_ne_nil, hcompiles.spelled, rfl⟩
    obtain ⟨hvalid, items, hitems, -, digest, -, rfl⟩ := generate_ok.mp h
    have hne : items ≠ [] := by
      rintro rfl
      have hlength := (mapM_ok.mp hitems).length_eq
      rw [List.length_zipIdx] at hlength
      exact hcompiles.signals_ne_nil (List.length_eq_zero_iff.mp hlength)
    have hemitted : ∀ item ∈ items,
        ∃ signal, (emitSignal document.frames item).compile = .ok signal := by
      intro item hitem
      obtain ⟨i, hi⟩ := List.getElem?_of_mem hitem
      have hsignal := List.mem_of_getElem? (schemaItems_getElem? hitems hi).1
      have hspells := hcompiles.spelled _ (hvalid.signals _ hsignal).frame
      exact ⟨_, compile_ok.mpr ⟨hcompiles.portable _ hsignal, _,
        hexNumber_eq_some.mpr ⟨hspells, rfl⟩, rfl⟩⟩
    obtain ⟨signals, hsignals⟩ := exists_mapM hemitted
    refine ⟨⟨document.frames.map frameWord, signals, digest⟩, ?_⟩
    rw [EmittedCatalog.compile, hcanIds, List.mapM_map]
    refine check_bind_ok.mpr ⟨require_ok.mpr ?_, bind_ok.mpr ⟨_, hsignals, rfl⟩⟩
    rw [ne_eq, List.map_eq_nil_iff]
    exact hne

/-- What the generator guarantees. The tables of an accepted document can be trusted in everything
but the order of their CAN IDs. There is a table of CAN IDs and it increases exactly if the frames
spell their numbers and increase in upper case, with their digits moved to the end. All files compile
exactly if, besides, there are signals and C can read their names and units. -/
theorem generate_trusted_iff {catalog : EmittedCatalog}
    (h : generate reader document = .ok catalog) :
    (∀ tables, catalog.compile = .ok tables → tables.Trusted) ∧
      ((∃ canIds, catalog.compileFrames = .ok canIds ∧ canIds.Pairwise (· < ·)) ↔
        IncreasingFrames document.frames) ∧
      ((∃ tables, catalog.compile = .ok tables) ↔ document.Compiles) := by
  have hvalid := (generate_ok.mp h).1
  refine ⟨fun tables htables => ?_, ⟨?_, ?_⟩, compile_iff h⟩
  · obtain ⟨items, hcompiled⟩ := compiledFrom_of_generate h htables
    exact hcompiled.trusted
  · rintro ⟨canIds, hcanIds, hincreasing⟩
    obtain ⟨hne, hspelled, rfl⟩ := (compileFrames_ok h).mp hcanIds
    exact ⟨hne, hspelled, (hvalid.increasing_iff hspelled).mp hincreasing⟩
  · rintro ⟨hne, hspelled, hincreasing⟩
    exact ⟨_, (compileFrames_ok h).mpr ⟨hne, hspelled, rfl⟩,
      (hvalid.increasing_iff hspelled).mpr hincreasing⟩

/-- Every name and unit of the small document is portable. -/
theorem speedDocument_compiles {frames : List String} (h : SpeedFrames frames) :
    (speedDocument frames).Compiles where
  frames_ne_nil := List.ne_nil_of_mem h.mem
  spelled canId hcanId := by
    obtain ⟨-, number, hnumber, -⟩ := h.hex canId hcanId
    exact (hexNumber_eq_some.mp hnumber).1
  signals_ne_nil := List.cons_ne_nil _ _
  portable := by
    have hportable : ∀ signal ∈ speedSignals, Portable signal.name ∧ Portable signal.unit := by
      decide +kernel
    exact hportable

/-- Two frames, one of them with a blank behind its digits, that increase as numbers. -/
theorem generate_trusted_blank :
    IncreasingFrames ["0A6", "B0 "] ∧ (speedDocument ["0A6", "B0 "]).Compiles ∧
      (∀ tables, (speedCatalog ["0A6", "B0 "]).compile = .ok tables → tables.Trusted) ∧
      (∃ canIds, (speedCatalog ["0A6", "B0 "]).compileFrames = .ok canIds ∧
        canIds.Pairwise (· < ·)) ∧
      ∃ tables, (speedCatalog ["0A6", "B0 "]).compile = .ok tables := by
  have hspeed : SpeedFrames ["0A6", "B0 "] := ⟨by decide, by decide, by decide, by decide⟩
  have hframes : IncreasingFrames ["0A6", "B0 "] := by
    have hlt : paddedSpelling "0A6" < paddedSpelling "B0 " :=
      (paddedSpelling_lt_iff (by decide)).mpr (by decide)
    exact ⟨by decide, by decide, List.pairwise_pair.mpr hlt⟩
  have hcompiles := speedDocument_compiles hspeed
  obtain ⟨htrusted, hincreasing, hfiles⟩ :=
    generate_trusted_iff (speedCatalog_generated plainReader hspeed)
  exact ⟨hframes, hcompiles, htrusted, hincreasing.mpr hframes, hfiles.mpr hcompiles⟩

/-- The small document with given frames is accepted, and compiles with given CAN IDs. -/
theorem speedDocument_canIds {frames : List String} (h : SpeedFrames frames) :
    generate plainReader (speedDocument frames) = .ok (speedCatalog frames) ∧
      ∃ tables, (speedCatalog frames).compile = .ok tables ∧
        tables.canIds = frames.map frameWord := by
  have hgenerated := speedCatalog_generated plainReader h
  obtain ⟨tables, htables⟩ := (compile_iff hgenerated).mpr (speedDocument_compiles h)
  obtain ⟨canIds, hcanIds, hlater⟩ := bind_ok.mp htables
  obtain ⟨-, hlater⟩ := check_bind_ok.mp hlater
  obtain ⟨signals, -, hresult⟩ := bind_ok.mp hlater
  obtain ⟨-, -, rfl⟩ := (compileFrames_ok hgenerated).mp hcanIds
  obtain rfl := pure_ok.mp hresult
  exact ⟨hgenerated, _, htables, rfl⟩

/-- Two documents with frames in the order of their texts. In the first, the first and the last frame
are the same number, and the last is smaller than the one before it. In the second, all letters are in
upper case, and both frames are the same number. -/
theorem generate_repeats_canId :
    (generate plainReader (speedDocument ["0A6", "0B0", "0a6"]) =
        .ok (speedCatalog ["0A6", "0B0", "0a6"]) ∧
      ∃ tables, (speedCatalog ["0A6", "0B0", "0a6"]).compile = .ok tables ∧
        tables.canIds = [0x0A6, 0x0B0, 0x0A6] ∧
        ¬tables.canIds.Nodup ∧ ¬tables.canIds.Pairwise (· ≤ ·)) ∧
    (generate plainReader (speedDocument ["0A6", "A6 "]) = .ok (speedCatalog ["0A6", "A6 "]) ∧
      ∃ tables, (speedCatalog ["0A6", "A6 "]).compile = .ok tables ∧
        tables.canIds = [0xA6, 0xA6] ∧ ¬tables.canIds.Nodup) := by
  constructor
  · have hspeed : SpeedFrames ["0A6", "0B0", "0a6"] := ⟨by decide, by decide, by decide, by decide⟩
    obtain ⟨hgenerated, tables, htables, hcanIds⟩ := speedDocument_canIds hspeed
    have heq : tables.canIds = [0x0A6, 0x0B0, 0x0A6] := hcanIds
    exact ⟨hgenerated, tables, htables, heq, by rw [heq]; decide, by rw [heq]; decide⟩
  · have hspeed : SpeedFrames ["0A6", "A6 "] := ⟨by decide, by decide, by decide, by decide⟩
    obtain ⟨hgenerated, tables, htables, hcanIds⟩ := speedDocument_canIds hspeed
    have heq : tables.canIds = [0xA6, 0xA6] := hcanIds
    exact ⟨hgenerated, tables, htables, heq, by rw [heq]; decide⟩

/-! ## The catalog of the C code -/

/-- What the checks and the conversions leave of the other fields. -/
theorem CompiledFrom.texts (h : CompiledFrom reader document items tables)
    {signal : CompiledSignal} (hsignal : signal ∈ tables.signals) :
    (1 ≤ signal.name.length ∧ signal.name.length ≤ schemaNameMax) ∧
      signal.unit.length ≤ schemaUnitMax ∧ signal.calibrated.toNat ≤ 1 := by
  obtain ⟨i, item, hitem, hcompile⟩ := h.signal hsignal
  obtain ⟨hvalid, -⟩ := h.item hitem
  obtain ⟨-, number, -, rfl⟩ := compile_ok.mp hcompile
  have hname : utf8 item.signal.name ≠ [] :=
    fun hnil => hvalid.name.1 (utf8_injective (hnil.trans (by decide : [] = utf8 "")))
  refine ⟨⟨List.length_pos_iff.mpr hname, hvalid.name.2⟩, hvalid.unit, ?_⟩
  change (UInt8.ofInt item.signal.calibrated.toInt).toNat ≤ 1
  cases item.signal.calibrated <;> decide

/-- The definition under an index. An invalid index beyond the table stands for none. -/
def CompiledFrom.definition (h : CompiledFrom reader document items tables)
    (i : Fin tables.signals.length) :
    SignalDefinition tables.canIds.length tables.signals.length :=
  let signal := tables.signals[i]
  { stableId := signal.stableId
    name := signal.name
    unit := signal.unit
    parts := signal.parts
    invalidSignalIndex :=
      if hlt : signal.invalidSignalIndex.toNat < tables.signals.length then some ⟨_, hlt⟩ else none
    canId := signal.canId
    frameIndex := ⟨signal.frameIndex.toNat, (List.getElem?_eq_some_iff.mp
      (h.frameIndex_canId (List.getElem_mem i.isLt))).1⟩
    width := signal.width
    isSigned := signal.isSigned
    calibrated := signal.calibrated
    scale := signal.scale
    offset := signal.offset }

/-- An invalid flag is in the frame of its signal. -/
theorem CompiledFrom.definition_frameIndex (h : CompiledFrom reader document items tables)
    (hcount : tables.signals.length < 2 ^ 32) {i j : Fin tables.signals.length}
    (hinvalid : (h.definition i).invalidSignalIndex = some j) :
    (h.definition j).frameIndex = (h.definition i).frameIndex := by
  obtain ⟨hlt, hj⟩ := Option.dite_none_right_eq_some.mp hinvalid
  have hj : tables.signals[i].invalidSignalIndex.toNat = j :=
    congrArg Fin.val (Option.some.inj hj)
  rcases h.invalidIndex (List.getElem_mem i.isLt) with hnone | ⟨flag, hflag, hframe⟩
  · -- a table of fewer than 2^32 signals has no signal under `UINT32_MAX`
    have hmax : tables.signals[i].invalidSignalIndex.toNat = 0xFFFFFFFF := congrArg UInt32.toNat hnone
    omega
  · change tables.signals[tables.signals[i].invalidSignalIndex.toNat]? = some flag at hflag
    rw [hj, List.getElem?_eq_getElem j.isLt] at hflag
    apply Fin.ext
    change tables.signals[j].frameIndex.toNat = tables.signals[i].frameIndex.toNat
    exact congrArg UInt16.toNat ((congrArg CompiledSignal.frameIndex
      (Option.some.inj hflag)).trans hframe)

/-- Compiled tables with not more signals than an index can count are a catalog. -/
def CompiledFrom.catalog (h : CompiledFrom reader document items tables) (float : Binary64)
    (hcount : tables.signals.length < 2 ^ 32) : Catalog where
  frameCount := tables.canIds.length
  signalCount := tables.signals.length
  canIds := tables.canIds.get
  signals := h.definition
  schemaHash := tables.schemaHash
  float := float
  frameCount_pos :=
    (mapM_ok.mp h.canIds_ok).length_eq ▸ List.length_pos_iff.mpr h.frames_ne_nil
  frameCount_le := (mapM_ok.mp h.canIds_ok).length_eq ▸ h.frames_length
  signalCount_pos :=
    (mapM_ok.mp h.signals_ok).length_eq ▸ List.length_pos_iff.mpr h.items_ne_nil
  signalCount_lt := hcount
  canIds_le i := h.canIds_le (List.getElem_mem i.isLt)
  canId_eq i := (List.getElem?_eq_some_iff.mp
    (h.frameIndex_canId (List.getElem_mem i.isLt))).2.symm
  invalid_frameIndex _ _ hinvalid := h.definition_frameIndex hcount hinvalid
  name_length i := (h.texts (List.getElem_mem i.isLt)).1
  unit_length i := (h.texts (List.getElem_mem i.isLt)).2.1
  parts_accepted i := (h.layout (List.getElem_mem i.isLt)).1
  parts_width i := (h.layout (List.getElem_mem i.isLt)).2.1
  width_range i := (h.layout (List.getElem_mem i.isLt)).2.2.1
  calibrated_le i := (h.texts (List.getElem_mem i.isLt)).2.2

end Roadcast
