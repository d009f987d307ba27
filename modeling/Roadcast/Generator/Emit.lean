import Roadcast.Generator.Hash
import Roadcast.Generator.Literals

/-!
# The catalog generator

`main` of `generate-catalog.py`: the checks, the index tables, the stable IDs, the schema hash and
the initialisers of `ROADCAST_CAN_IDS` and `ROADCAST_SIGNALS`. CAN IDs are emitted as their text
behind `0x`, names and units as JSON strings; what the C compiler makes of them is another matter.
-/

namespace Roadcast

open Guards

/-- The entry of `{key: index for index, key in enumerate(keys)}`: the last index of the key. -/
def indexTable {K : Type} [DecidableEq K] (keys : List K) (key : K) : Option ℕ :=
  (keys.zipIdx.reverse.find? fun entry => entry.1 = key).map Prod.snd

/-- `0xFFFFFFFF` in `invalid_indices`. -/
def noInvalidIndex : ℕ := 0xFFFFFFFF

/-- An element of `invalid_indices`. A missing flag is looked up as an empty name, which no signal
has. -/
def invalidIndex (signals : List DbcSignal) (signal : DbcSignal) : ℕ :=
  (indexTable (signals.map DbcSignal.identity)
    (signal.canid, signal.invalidFlag.getD "")).getD noInvalidIndex

/-- What `signals`, `stable_ids` and `invalid_indices` have under one index. -/
def schemaItem (reader : HexReader) (signals : List DbcSignal) (entry : DbcSignal × ℕ) :
    Except Rejection SchemaItem := do
  let stableId ← stableId reader entry.1
  pure ⟨entry.2, entry.1, stableId, invalidIndex signals entry.1⟩

/-- The three lists, index by index. -/
def schemaItems (reader : HexReader) (signals : List DbcSignal) :
    Except Rejection (List SchemaItem) :=
  signals.zipIdx.mapM (schemaItem reader signals)

/-- The initialiser of one element of `ROADCAST_SIGNALS`, with its `SIGNAL_PARTS`. -/
structure EmittedSignal where
  stableId : UInt64
  name : String
  unit : String
  parts : List DbcPart
  invalidSignalIndex : ℕ
  canId : String
  frameIndex : ℕ
  partCount : ℕ
  width : ℤ
  isSigned : ℤ
  calibrated : ℤ
  scale : UInt64
  offset : UInt64
  deriving DecidableEq, Repr

/-- The emitted files. -/
structure EmittedCatalog where
  canIds : List String
  signals : List EmittedSignal
  schemaHash : UInt64
  deriving DecidableEq, Repr

/-- The literal that a CAN ID is emitted as. -/
def canIdLiteral (canId : String) : String := "0x" ++ canId

/-- The loop body of the emission. `frame_indices` has the CAN ID: it was checked to be a frame. -/
def emitSignal (frames : List String) (item : SchemaItem) : EmittedSignal where
  stableId := item.stableId
  name := cString item.signal.name
  unit := cString item.signal.unit
  parts := item.signal.parts
  invalidSignalIndex := item.invalidIndex
  canId := canIdLiteral item.signal.canid
  frameIndex := (indexTable frames item.signal.canid).getD 0
  partCount := item.signal.parts.length
  width := item.signal.width
  isSigned := item.signal.signed.toInt
  calibrated := item.signal.calibrated.toInt
  scale := item.signal.scale
  offset := item.signal.offset

/-- `main`, from the parsed document to the contents of the files. -/
def generate (reader : HexReader) (document : DbcDocument) : Except Rejection EmittedCatalog := do
  checkDocument reader document
  let items ← schemaItems reader document.signals
  require (items.map SchemaItem.stableId).Nodup .stableIdCollision
  let digest ← schemaHash reader items
  pure ⟨document.frames.map canIdLiteral, items.map (emitSignal document.frames), digest⟩

/-! ## Accepted documents -/

/-- A document is accepted if every check passes, and what is emitted is made of its items. -/
theorem generate_ok {reader : HexReader} {document : DbcDocument} {catalog : EmittedCatalog} :
    generate reader document = .ok catalog ↔
      document.Valid reader ∧ ∃ items, schemaItems reader document.signals = .ok items ∧
        (items.map SchemaItem.stableId).Nodup ∧ ∃ digest, schemaHash reader items = .ok digest ∧
          ⟨document.frames.map canIdLiteral, items.map (emitSignal document.frames), digest⟩ =
            catalog := by
  rw [generate, check_bind_ok, checkDocument_ok, bind_ok]
  refine and_congr_right fun _ => exists_congr fun items => and_congr_right fun _ => ?_
  rw [check_bind_ok, require_ok, bind_ok]
  simp only [pure_ok]

/-- Every item is made of the signal at its index. -/
theorem schemaItems_getElem? {reader : HexReader} {signals : List DbcSignal}
    {items : List SchemaItem} (h : schemaItems reader signals = .ok items) {i : ℕ}
    {item : SchemaItem} (hi : items[i]? = some item) :
    signals[i]? = some item.signal ∧ item.invalidIndex = invalidIndex signals item.signal := by
  obtain ⟨entry, hentry, hitem⟩ := element_of_mapM h hi
  obtain ⟨stableId, -, hitem⟩ := bind_ok.mp hitem
  obtain rfl := pure_ok.mp hitem
  rw [List.getElem?_zipIdx] at hentry
  obtain ⟨signal, hsignal, rfl⟩ := Option.map_eq_some_iff.mp hentry
  exact ⟨hsignal, rfl⟩

/-- On texts that spell their number every reader computes the same stable IDs. -/
theorem schemaItems_of_hex (reader : HexReader) {signals : List DbcSignal} {number : ℕ}
    (h : ∀ signal ∈ signals, hexNumber signal.canid = some number) :
    schemaItems reader signals = schemaItems plainReader signals := by
  apply mapM_congr
  intro entry hentry
  have hnumber := h entry.1 (List.fst_mem_of_mem_zipIdx hentry)
  rw [schemaItem, schemaItem, stableId, stableId, reader.number_of_hex hnumber,
    plainReader.number_of_hex hnumber]

/-- On texts that spell their number every reader hashes the same bytes. -/
theorem schemaInput_of_hex (reader : HexReader) {items : List SchemaItem} {number : ℕ}
    (h : ∀ item ∈ items, hexNumber item.signal.canid = some number) :
    schemaInput reader items = schemaInput plainReader items := by
  have hrecords : items.mapM (canonical reader) = items.mapM (canonical plainReader) := by
    apply mapM_congr
    intro item hitem
    rw [canonical, canonical, reader.number_of_hex (h item hitem),
      plainReader.number_of_hex (h item hitem)]
  rw [schemaInput, schemaInput, hrecords]

/-! ## A small document -/

/-- A signal in frame `0A6` whose invalid flag is the next one. -/
def speedSignal : DbcSignal where
  canid := "0A6"
  name := "Speed"
  unit := "km/h"
  parts := [⟨0, 8, 16⟩]
  width := 16
  signed := false
  calibrated := true
  scale := 0x3FF0000000000000
  offset := 0
  invalidFlag := some "SpeedInvalid"

/-- The invalid flag of the signal before. -/
def speedInvalidSignal : DbcSignal where
  canid := "0A6"
  name := "SpeedInvalid"
  unit := ""
  parts := [⟨4, 0, 1⟩]
  width := 1
  signed := false
  calibrated := false
  scale := 0x3FF0000000000000
  offset := 0
  invalidFlag := none

/-- The two signals. -/
def speedSignals : List DbcSignal := [speedSignal, speedInvalidSignal]

/-- A document with the two signals. -/
def speedDocument (frames : List String) : DbcDocument := ⟨frames, speedSignals⟩

/-- The items of the document. -/
def speedItems : List SchemaItem :=
  [⟨0, speedSignal, 0xE4750261893C16D8, 1⟩,
    ⟨1, speedInvalidSignal, 0xBBAFB2EF9524F3F3, noInvalidIndex⟩]

/-- What is emitted for the document. -/
def speedCatalog (frames : List String) : EmittedCatalog where
  canIds := frames.map canIdLiteral
  signals := speedItems.map (emitSignal frames)
  schemaHash := 0xE4770BBD36DE61ED

/-- Frames that spell their numbers, in the order of their texts, that the document can have. -/
structure SpeedFrames (frames : List String) : Prop where
  nodup : frames.Nodup
  sorted : frames.Pairwise (· ≤ ·)
  hex : ∀ canId ∈ frames, canId.length = 3 ∧ ∃ number ∈ hexNumber canId, number ≤ 0x7FF
  mem : "0A6" ∈ frames

/-- The two signals are different. -/
theorem speedSignals_nodup : (speedSignals.map DbcSignal.identity).Nodup := by decide

/-- Both signals are in frame `0A6` and pass every check. -/
theorem speedSignals_checked : ∀ signal ∈ speedSignals, signal.canid = "0A6" ∧
    checkSignal ["0A6"] (speedSignals.map DbcSignal.identity) signal = .ok () := by
  decide +kernel

/-- The document passes every check, with any reader. -/
theorem speedDocument_valid (reader : HexReader) {frames : List String} (h : SpeedFrames frames) :
    (speedDocument frames).Valid reader where
  frames_nodup := h.nodup
  frames_sorted :=
    (List.mergeSort_of_pairwise (h.sorted.imp fun hle => decide_eq_true hle)).symm
  frames := by
    intro canId hcanId
    obtain ⟨hlength, number, hnumber, hle⟩ := h.hex canId hcanId
    exact ⟨hlength, number, reader.read_hex canId number hnumber, by exact_mod_cast hle⟩
  identities_nodup := speedSignals_nodup
  signals := by
    intro signal hsignal
    obtain ⟨hcanId, hchecked⟩ := speedSignals_checked signal hsignal
    exact { checkSignal_ok.mp hchecked with frame := hcanId ▸ h.mem }

/-- The items are those that `main` computes. -/
theorem speedItems_eq (reader : HexReader) :
    schemaItems reader speedSignals = .ok speedItems := by
  have hnumber : ∀ signal ∈ speedSignals, hexNumber signal.canid = some 0xA6 := by decide
  rw [schemaItems_of_hex reader hnumber]
  decide +kernel

/-- The schema hash of the items. -/
theorem speedItems_hash (reader : HexReader) :
    schemaHash reader speedItems = .ok 0xE4770BBD36DE61ED := by
  have hnumber : ∀ item ∈ speedItems, hexNumber item.signal.canid = some 0xA6 := by decide
  rw [schemaHash_ok, schemaInput_of_hex reader hnumber, ← schemaHash_ok]
  decide +kernel

/-- The document is accepted, and its catalog emitted. -/
theorem speedCatalog_generated (reader : HexReader) {frames : List String}
    (h : SpeedFrames frames) :
    generate reader (speedDocument frames) = .ok (speedCatalog frames) :=
  generate_ok.mpr ⟨speedDocument_valid reader h, speedItems, speedItems_eq reader, by decide, _,
    speedItems_hash reader, rfl⟩

/-- Frames in upper case. -/
theorem speedFrames_upper : SpeedFrames ["0A6", "0B0"] :=
  ⟨by decide, by decide, by decide, by decide⟩

/-! ## The schema hash -/

/-- The bytes under the schema hash identify the catalog: the hash of an accepted document is that
of its whole input, and equal inputs come from signals that agree one by one. -/
theorem schemaInput_identifies {reader : HexReader} {document document' : DbcDocument}
    {catalog catalog' : EmittedCatalog} (h : generate reader document = .ok catalog)
    (h' : generate reader document' = .ok catalog') :
    ∃ items items' input input',
      schemaItems reader document.signals = .ok items ∧ schemaInput reader items = .ok input ∧
      schemaItems reader document'.signals = .ok items' ∧ schemaInput reader items' = .ok input' ∧
      catalog.schemaHash = fnv1a input fnvOffset ∧ catalog'.schemaHash = fnv1a input' fnvOffset ∧
      (input = input' →
        items.map (SchemaItem.content reader) = items'.map (SchemaItem.content reader)) := by
  obtain ⟨-, items, hitems, -, digest, hdigest, rfl⟩ := generate_ok.mp h
  obtain ⟨-, items', hitems', -, digest', hdigest', rfl⟩ := generate_ok.mp h'
  obtain ⟨input, hinput, hhash⟩ := schemaHash_ok.mp hdigest
  obtain ⟨input', hinput', hhash'⟩ := schemaHash_ok.mp hdigest'
  refine ⟨items, items', input, input', hitems, hinput, hitems', hinput', hhash.symm, hhash'.symm,
    ?_⟩
  rintro rfl
  exact schemaInput_content hinput hinput'

/-- The hash of the small document. -/
theorem schemaInput_identifies_speed :
    generate plainReader (speedDocument ["0A6", "0B0"]) = .ok (speedCatalog ["0A6", "0B0"]) ∧
    ∃ items items' input input',
      schemaItems plainReader (speedDocument ["0A6", "0B0"]).signals = .ok items ∧
      schemaInput plainReader items = .ok input ∧
      schemaItems plainReader (speedDocument ["0A6", "0B0"]).signals = .ok items' ∧
      schemaInput plainReader items' = .ok input' ∧
      (speedCatalog ["0A6", "0B0"]).schemaHash = fnv1a input fnvOffset ∧
      (speedCatalog ["0A6", "0B0"]).schemaHash = fnv1a input' fnvOffset ∧
      (input = input' → items.map (SchemaItem.content plainReader) =
        items'.map (SchemaItem.content plainReader)) :=
  have h := speedCatalog_generated plainReader speedFrames_upper
  ⟨h, schemaInput_identifies h h⟩

end Roadcast
