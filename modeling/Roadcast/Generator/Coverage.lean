import Mathlib.Algebra.Order.BigOperators.Group.Finset
import Mathlib.Data.Set.Card
import Mathlib.Data.List.GetD
import Roadcast.Catalog.Bits
import Roadcast.Generator.Compiled
import Roadcast.Lib.Packing

/-!
# The overlap report

`catalog_bit_coverage` of `analyze-vhal-surface.py` marks the slots of the signals of every frame and
counts those that were marked before. `upper` stands for Python's `str.upper`.

The slots that it marks are the ones that the decoder reads. So there is no overlap if and only if the
signals of each frame can take all their raw values independently, and the claimed bits are the bits
on which the raw value of some signal depends.
-/

namespace Roadcast

open Binary Packing

/-- `FRAME_BITS`. -/
def frameBits : ℕ := 64

/-- `occupied`, with the overlaps counted so far. -/
structure Occupation where
  occupied : List (Option String)
  overlaps : ℕ
  deriving DecidableEq, Repr

/-- The innermost loop body; a negative index counts from the end of the list. -/
def Occupation.mark (name : String) (state : Occupation) (index : ℤ) : Occupation :=
  if index < frameBits then
    let cell := (if index < 0 then index + frameBits else index).toNat
    { occupied := state.occupied.set cell (some name)
      overlaps := if (state.occupied.getD cell none).isSome then state.overlaps + 1
        else state.overlaps }
  else state

/-- The loop over the bits of a part. -/
def markPart (name : String) (state : Occupation) (part : DbcPart) : Occupation :=
  (List.range part.bits.toNat).foldl
    (fun state (bit : ℕ) => state.mark name (part.word * 8 + part.off + bit)) state

/-- The loop over the parts of a signal. -/
def markSignal (state : Occupation) (signal : DbcSignal) : Occupation :=
  signal.parts.foldl (markPart signal.name) state

/-- The report of `catalog_bit_coverage`. -/
structure Coverage where
  claimed : ℕ
  total : ℕ
  overlaps : ℕ
  unclaimed : String → Option ℕ

/-- The number of slots that are not `None`. -/
def Occupation.used (state : Occupation) : ℕ := state.occupied.countP Option.isSome

/-- The loop body over `document["frames"]`; `by_frame` has the signals whose CAN ID is the frame in
upper case, in the order of the document. -/
def coverFrame (upper : String → String) (signals : List DbcSignal) (coverage : Coverage)
    (frame : String) : Coverage :=
  let frame := upper frame
  let byFrame := signals.filter fun signal => upper signal.canid = frame
  let state := byFrame.foldl markSignal ⟨List.replicate frameBits none, coverage.overlaps⟩
  { coverage with
    claimed := coverage.claimed + state.used
    overlaps := state.overlaps
    unclaimed := Function.update coverage.unclaimed frame (some (frameBits - state.used)) }

/-- `catalog_bit_coverage`. -/
def catalogBitCoverage (upper : String → String) (document : DbcDocument) : Coverage :=
  document.frames.foldl (coverFrame upper document.signals)
    ⟨0, document.frames.length * frameBits, 0, fun _ => none⟩

/-! ## The marked slots -/

/-- The slots of a signal, most significant first. -/
def DbcSignal.slots (signal : DbcSignal) : List ℕ := partSlots (signal.parts.map DbcPart.compiled)

/-- The slots of the signals of a frame. -/
def frameSlots (signals : List DbcSignal) (canId : String) : List ℕ :=
  (signals.filter fun signal => signal.canid = canId).flatMap DbcSignal.slots

/-- The state after some slots have been marked: these are occupied, each counted once, and every
other mark was an overlap. -/
structure Occupation.Marked (state : Occupation) (before : ℕ) (slots : List ℕ) : Prop where
  length : state.occupied.length = frameBits
  occupied : ∀ slot < frameBits, (state.occupied.getD slot none).isSome ↔ slot ∈ slots
  used : state.used = slots.toFinset.card
  overlaps : state.used + state.overlaps = before + slots.length

/-- An empty frame has no slot in use. -/
theorem used_replicate (before : ℕ) :
    Occupation.used ⟨List.replicate frameBits none, before⟩ = 0 := rfl

/-- A frame without signals is empty. -/
theorem marked_nil (before : ℕ) :
    Occupation.Marked ⟨List.replicate frameBits none, before⟩ before [] where
  length := List.length_replicate
  occupied slot hslot := by simp [hslot]
  used := used_replicate before
  overlaps := by
    rw [used_replicate, List.length_nil]
    exact Nat.zero_add before

/-- A slot of a frame is marked with a name, and counted if it had one already. -/
theorem mark_slot (name : String) (state : Occupation) {slot : ℕ} (hslot : slot < frameBits) :
    state.mark name slot =
      { occupied := state.occupied.set slot (some name)
        overlaps := if (state.occupied.getD slot none).isSome then state.overlaps + 1
          else state.overlaps } := by
  have hlt : (slot : ℤ) < frameBits := by exact_mod_cast hslot
  have hnonneg : ¬(slot : ℤ) < 0 := by omega
  simp only [Occupation.mark, if_pos hlt, if_neg hnonneg, Int.toNat_natCast]

section Mark

variable {state : Occupation} {before : ℕ} {slots : List ℕ}

/-- Marking a slot that is occupied is an overlap. -/
theorem Occupation.Marked.mark_mem (h : state.Marked before slots) (name : String) {slot : ℕ}
    (hslot : slot < frameBits) (hmem : slot ∈ slots) :
    (state.mark name slot).used = state.used ∧
      (state.mark name slot).overlaps = state.overlaps + 1 := by
  have hcell := (h.occupied slot hslot).mpr hmem
  have hpos : 0 < state.used := by
    rw [h.used]
    exact Finset.card_pos.mpr ⟨slot, List.mem_toFinset.mpr hmem⟩
  have hlength : slot < state.occupied.length := h.length ▸ hslot
  rw [mark_slot name state hslot, if_pos hcell]
  refine ⟨?_, rfl⟩
  rw [List.getD_eq_getElem _ _ hlength] at hcell
  unfold Occupation.used at hpos ⊢
  rw [List.countP_set hlength, if_pos hcell]
  simp only [Option.isSome_some, if_true]
  omega

/-- Marking a free slot occupies it. -/
theorem Occupation.Marked.mark_notMem (h : state.Marked before slots) (name : String) {slot : ℕ}
    (hslot : slot < frameBits) (hmem : slot ∉ slots) :
    (state.mark name slot).used = state.used + 1 ∧
      (state.mark name slot).overlaps = state.overlaps := by
  have hcell := mt (h.occupied slot hslot).mp hmem
  have hlength : slot < state.occupied.length := h.length ▸ hslot
  rw [mark_slot name state hslot, if_neg hcell]
  refine ⟨?_, rfl⟩
  rw [List.getD_eq_getElem _ _ hlength] at hcell
  unfold Occupation.used
  rw [List.countP_set hlength, if_neg hcell]
  simp only [Option.isSome_some, if_true]
  omega

/-- Marking a slot adds it to the marked ones. -/
theorem Occupation.Marked.mark (h : state.Marked before slots) (name : String) {slot : ℕ}
    (hslot : slot < frameBits) : (state.mark name slot).Marked before (slots ++ [slot]) := by
  have hset : (slots ++ [slot]).toFinset = insert slot slots.toFinset := by
    rw [List.toFinset_append, Finset.union_comm]
    rfl
  have hoverlaps := h.overlaps
  refine ⟨?_, ?_, ?_, ?_⟩
  · rw [mark_slot name state hslot, List.length_set, h.length]
  · intro other hother
    rw [mark_slot name state hslot, List.mem_append, List.mem_singleton, ← h.occupied other hother]
    simp only [List.getD_eq_getElem?_getD, List.getElem?_set]
    by_cases heq : slot = other
    · rw [if_pos heq, if_pos (h.length ▸ hslot)]
      exact iff_of_true rfl (Or.inr heq.symm)
    · rw [if_neg heq, or_iff_left (Ne.symm heq)]
  · rw [hset]
    by_cases hmem : slot ∈ slots
    · rw [(h.mark_mem name hslot hmem).1, h.used,
        Finset.insert_eq_of_mem (List.mem_toFinset.mpr hmem)]
    · rw [(h.mark_notMem name hslot hmem).1, h.used,
        Finset.card_insert_of_notMem (mt List.mem_toFinset.mp hmem)]
  · rw [List.length_append, List.length_singleton]
    by_cases hmem : slot ∈ slots
    · obtain ⟨hused, hcount⟩ := h.mark_mem name hslot hmem
      omega
    · obtain ⟨hused, hcount⟩ := h.mark_notMem name hslot hmem
      omega

/-- A run of marks. -/
theorem Occupation.Marked.foldl_mark (h : state.Marked before slots) (name : String)
    {more : List ℕ} (hmore : ∀ slot ∈ more, slot < frameBits) :
    (more.foldl (fun state (slot : ℕ) => state.mark name slot) state).Marked before
      (slots ++ more) := by
  induction more generalizing state slots with
  | nil => rwa [List.append_nil]
  | cons slot more ih =>
    rw [List.forall_mem_cons] at hmore
    rw [List.foldl_cons, List.append_cons]
    exact ih (h.mark name hmore.1) hmore.2

end Mark

/-- The slots of a part as the report numbers them. -/
theorem DbcPart.Valid.slots_eq {part : DbcPart} (h : part.Valid) :
    part.compiled.slots.map (fun slot : ℕ => (slot : ℤ)) =
      (List.range part.bits.toNat).map fun bit : ℕ => part.word * 8 + part.off + bit := by
  have hbits : part.compiled.bits.toNat = part.bits.toNat := by
    have := h.bits_toNat
    omega
  have hword : (part.compiled.word.toNat : ℤ) = part.word :=
    toNat_ofInt (by rcases h.word with hw | hw <;> omega) (by rcases h.word with hw | hw <;> omega)
  have hoff : (part.compiled.offset.toNat : ℤ) = part.off :=
    toNat_ofInt h.off.1 (by have := h.off.2; omega)
  rw [SignalPart.slots, hbits, List.map_map]
  refine List.map_congr_left fun bit _ => ?_
  rw [Function.comp_apply]
  omega

/-- The slots of an accepted part lie in a frame. -/
theorem SignalPart.Accepted.slots_lt {part : SignalPart} (h : part.Accepted) {slot : ℕ}
    (hslot : slot ∈ part.slots) : slot < frameBits := by
  obtain ⟨k, hk, rfl⟩ := List.mem_map.mp hslot
  rw [List.mem_range] at hk
  obtain ⟨hword, -, -, hinside⟩ := h
  rcases hword with hword | hword <;> rw [hword, frameBits]
  · rw [show (0 : UInt8).toNat = 0 from rfl]
    omega
  · rw [show (4 : UInt8).toNat = 4 from rfl]
    omega

/-- The report marks the slots of a part, one after the other. -/
theorem DbcPart.Valid.markPart_eq {part : DbcPart} (h : part.Valid) (name : String)
    (state : Occupation) :
    markPart name state part =
      part.compiled.slots.foldl (fun state (slot : ℕ) => state.mark name slot) state := by
  have hfold : (part.compiled.slots.map fun slot : ℕ => (slot : ℤ)).foldl (Occupation.mark name)
      state = part.compiled.slots.foldl (fun state (slot : ℕ) => state.mark name slot) state :=
    List.foldl_map
  rw [← hfold, h.slots_eq, List.foldl_map, markPart]

/-- Marking a checked signal marks its slots. -/
theorem markSignal_marked {signal : DbcSignal} (hparts : ∀ part ∈ signal.parts, part.Valid)
    {state : Occupation} {before : ℕ} {slots : List ℕ} (h : state.Marked before slots) :
    (markSignal state signal).Marked before (slots ++ signal.slots) := by
  rw [markSignal, DbcSignal.slots, partSlots]
  generalize signal.parts = parts at hparts
  induction parts generalizing state slots with
  | nil => rwa [List.map_nil, List.flatMap_nil, List.append_nil]
  | cons part parts ih =>
    rw [List.forall_mem_cons] at hparts
    rw [List.foldl_cons, List.map_cons, List.flatMap_cons, ← List.append_assoc,
      hparts.1.markPart_eq]
    refine ih (h.foldl_mark signal.name fun slot hslot => ?_) hparts.2
    exact hparts.1.compiled_accepted.slots_lt hslot

/-- Marking the signals of a frame marks their slots. -/
theorem foldl_markSignal_marked {signals : List DbcSignal}
    (hparts : ∀ signal ∈ signals, ∀ part ∈ signal.parts, part.Valid) {state : Occupation}
    {before : ℕ} {slots : List ℕ} (h : state.Marked before slots) :
    (signals.foldl markSignal state).Marked before (slots ++ signals.flatMap DbcSignal.slots) := by
  induction signals generalizing state slots with
  | nil => rwa [List.flatMap_nil, List.append_nil]
  | cons signal signals ih =>
    rw [List.forall_mem_cons] at hparts
    rw [List.foldl_cons, List.flatMap_cons, ← List.append_assoc]
    exact ih hparts.2 (markSignal_marked hparts.1 h)

/-! ## The report -/

section Report

variable {upper : String → String} {reader : HexReader} {document : DbcDocument}

/-- With different frames in upper case, `by_frame` has the signals of the frame itself. -/
theorem byFrame_eq (hvalid : document.Valid reader) (hupper : (document.frames.map upper).Nodup)
    {canId : String} (hcanId : canId ∈ document.frames) :
    document.signals.filter (fun signal => upper signal.canid = upper canId) =
      document.signals.filter fun signal => signal.canid = canId := by
  refine List.filter_congr fun signal hsignal => ?_
  have hinj := List.inj_on_of_nodup_map hupper (hvalid.signals signal hsignal).frame hcanId
  exact decide_eq_decide.mpr ⟨hinj, congrArg upper⟩

/-- What one frame adds to the report. -/
theorem coverFrame_eq (hvalid : document.Valid reader) (hupper : (document.frames.map upper).Nodup)
    {canId : String} (hcanId : canId ∈ document.frames) (coverage : Coverage) :
    (coverFrame upper document.signals coverage canId).claimed =
        coverage.claimed + (frameSlots document.signals canId).toFinset.card ∧
      (frameSlots document.signals canId).toFinset.card +
          (coverFrame upper document.signals coverage canId).overlaps =
        coverage.overlaps + (frameSlots document.signals canId).length := by
  have hparts : ∀ signal ∈ document.signals.filter fun signal => signal.canid = canId,
      ∀ part ∈ signal.parts, part.Valid :=
    fun signal hsignal => (hvalid.signals signal (List.mem_filter.mp hsignal).1).parts
  have hmarked := foldl_markSignal_marked hparts (marked_nil coverage.overlaps)
  rw [List.nil_append] at hmarked
  simp only [coverFrame, byFrame_eq hvalid hupper hcanId]
  have hused := hmarked.used
  have hoverlaps := hmarked.overlaps
  exact ⟨congrArg (coverage.claimed + ·) hused, hused ▸ hoverlaps⟩

/-- What a list of frames adds to the report: every slot is claimed once, and what it is marked
beyond that is an overlap. -/
theorem foldl_coverFrame_eq (hvalid : document.Valid reader)
    (hupper : (document.frames.map upper).Nodup) {frames : List String}
    (hframes : frames ⊆ document.frames) (coverage : Coverage) :
    (frames.foldl (coverFrame upper document.signals) coverage).claimed = coverage.claimed +
        (frames.map fun canId => (frameSlots document.signals canId).toFinset.card).sum ∧
      (frames.map fun canId => (frameSlots document.signals canId).toFinset.card).sum +
          (frames.foldl (coverFrame upper document.signals) coverage).overlaps =
        coverage.overlaps +
          (frames.map fun canId => (frameSlots document.signals canId).length).sum := by
  induction frames generalizing coverage with
  | nil => simp
  | cons canId frames ih =>
    obtain ⟨hfirst, hrest⟩ := List.cons_subset.mp hframes
    obtain ⟨hclaimed, hoverlaps⟩ := coverFrame_eq hvalid hupper hfirst coverage
    obtain ⟨hclaimed', hoverlaps'⟩ :=
      ih hrest (coverFrame upper document.signals coverage canId)
    rw [List.foldl_cons, List.map_cons, List.sum_cons, List.map_cons, List.sum_cons]
    omega

/-- There is no overlap if and only if no frame has a slot twice. -/
theorem overlaps_eq_zero_iff (hvalid : document.Valid reader)
    (hupper : (document.frames.map upper).Nodup) :
    (catalogBitCoverage upper document).overlaps = 0 ↔
      ∀ canId ∈ document.frames, (frameSlots document.signals canId).Nodup := by
  obtain ⟨-, hoverlaps⟩ := foldl_coverFrame_eq hvalid hupper (List.Subset.refl document.frames)
    ⟨0, document.frames.length * frameBits, 0, fun _ => none⟩
  rw [← List.sum_toFinset _ hvalid.frames_nodup, ← List.sum_toFinset _ hvalid.frames_nodup,
    Nat.zero_add] at hoverlaps
  have hle : ∀ canId ∈ document.frames.toFinset,
      (frameSlots document.signals canId).toFinset.card ≤
        (frameSlots document.signals canId).length := fun canId _ => List.toFinset_card_le _
  rw [← Nat.add_right_inj (n := document.frames.toFinset.sum fun canId =>
    (frameSlots document.signals canId).toFinset.card), Nat.add_zero, catalogBitCoverage, hoverlaps,
    eq_comm, Finset.sum_eq_sum_iff_of_le hle]
  simp only [List.mem_toFinset]
  refine forall₂_congr fun canId _ => ⟨fun hcard => ?_, List.toFinset_card_of_nodup⟩
  exact Multiset.toFinset_card_eq_card_iff_nodup.mp hcard

/-- The claimed bits are the slots of the frames, each counted once. -/
theorem claimed_eq (hvalid : document.Valid reader) (hupper : (document.frames.map upper).Nodup) :
    (catalogBitCoverage upper document).claimed = document.frames.toFinset.sum fun canId =>
      (frameSlots document.signals canId).toFinset.card := by
  obtain ⟨hclaimed, -⟩ := foldl_coverFrame_eq hvalid hupper (List.Subset.refl document.frames)
    ⟨0, document.frames.length * frameBits, 0, fun _ => none⟩
  rw [catalogBitCoverage, hclaimed, List.sum_toFinset _ hvalid.frames_nodup, Nat.zero_add]

end Report

/-! ## The decoder -/

section Decoder

variable {frames : List String} {identities : List (String × String)} {signal : DbcSignal}

/-- A signal of the document has as many slots as it is wide. -/
theorem DbcSignal.Valid.slots_length (h : signal.Valid frames identities) :
    signal.slots.length = signal.width.toNat := by
  have hsum := compiled_bits_sum h.parts
  rw [h.parts_sum] at hsum
  rw [DbcSignal.slots, partSlots_length, partsWidth]
  omega

/-- The slots of a signal of the document lie in a frame. -/
theorem DbcSignal.Valid.slots_lt (h : signal.Valid frames identities) {slot : ℕ}
    (hslot : slot ∈ signal.slots) : slot < frameBits := by
  obtain ⟨part, hpart, hmem⟩ := List.mem_flatMap.mp hslot
  obtain ⟨source, hsource, rfl⟩ := List.mem_map.mp hpart
  exact (h.parts source hsource).compiled_accepted.slots_lt hmem

/-- The decoder reads the slots of the signal. -/
theorem DbcSignal.Valid.raw_toNat (h : signal.Valid frames identities)
    {frameCount signalCount : ℕ} {definition : SignalDefinition frameCount signalCount}
    (hdefinition : definition.parts = signal.parts.map DbcPart.compiled) (frame : FrameData) :
    (decodeSignalRaw definition frame).toNat = value (signal.slots.map (slotBit frame)) := by
  have haccepted : ∀ part ∈ definition.parts, part.Accepted := by
    rw [hdefinition]
    intro part hpart
    obtain ⟨source, hsource, rfl⟩ := List.mem_map.mp hpart
    exact (h.parts source hsource).compiled_accepted
  have hwidth : partsWidth definition.parts ≤ 64 := by
    have hlength := h.slots_length
    rw [DbcSignal.slots, partSlots_length, ← hdefinition] at hlength
    have hle := h.width.2
    omega
  rw [DbcSignal.slots, ← hdefinition]
  exact accumulator_toNat haccepted hwidth frame

/-- Two frames that agree on all bits but one can be told apart by their raw values. -/
def DependsOn (raw : FrameData → UInt64) (bit : Fin 8 × Fin 8) : Prop :=
  ∃ frame frame', (∀ other, other ≠ bit → frameBit frame other = frameBit frame' other) ∧
    raw frame ≠ raw frame'

/-- The raw value of a signal depends on the bits in its slots. -/
theorem DbcSignal.Valid.dependsOn_iff (h : signal.Valid frames identities)
    {frameCount signalCount : ℕ} {definition : SignalDefinition frameCount signalCount}
    (hdefinition : definition.parts = signal.parts.map DbcPart.compiled) (bit : Fin 8 × Fin 8) :
    DependsOn (decodeSignalRaw definition) bit ↔ bitSlot bit ∈ signal.slots := by
  constructor
  · rintro ⟨frame, frame', hsame, hraw⟩
    by_contra hslot
    refine hraw (UInt64.toNat_inj.mp ?_)
    rw [h.raw_toNat hdefinition, h.raw_toNat hdefinition]
    refine congrArg value (List.map_congr_left fun slot hmem => ?_)
    have hplace := bitSlot_slotPlace (h.slots_lt hmem)
    rw [← hplace, slotBit_bitSlot, slotBit_bitSlot]
    refine hsame _ fun heq => hslot ?_
    rw [← heq, hplace]
    exact hmem
  · intro hslot
    refine ⟨frameOfSlots fun slot => decide (slot = bitSlot bit), frameOfSlots fun _ => false, ?_, ?_⟩
    · intro other hother
      rw [frameBit_frameOfSlots, frameBit_frameOfSlots, decide_eq_false]
      intro heq
      rw [← slotPlace_bitSlot other, heq, slotPlace_bitSlot] at hother
      exact hother rfl
    · intro hraw
      have heq := congrArg UInt64.toNat hraw
      rw [h.raw_toNat hdefinition, h.raw_toNat hdefinition] at heq
      have hbits := value_inj (by rw [List.length_map, List.length_map]) heq
      have hbit := List.map_inj_left.mp hbits _ hslot
      rw [slotBit_bitSlot, slotBit_bitSlot, frameBit_frameOfSlots, frameBit_frameOfSlots] at hbit
      rw [decide_eq_true rfl] at hbit
      cases hbit

end Decoder

/-! ## The report and the decoder -/

section Exact

variable {frameCount signalCount : ℕ} {definition : DbcSignal → SignalDefinition frameCount signalCount}
  {frames : List String} {identities : List (String × String)} {fields : List DbcSignal}

/-- Independent slots are independent raw values. -/
theorem independent_iff_values (hvalid : ∀ signal ∈ fields, signal.Valid frames identities)
    (hdefinition : ∀ signal ∈ fields,
      (definition signal).parts = signal.parts.map DbcPart.compiled) :
    Independent Bool DbcSignal.slots fields ↔
      ∀ values : DbcSignal → ℕ, (∀ signal ∈ fields, values signal < 2 ^ signal.width.toNat) →
        ∃ frame : FrameData, ∀ signal ∈ fields,
          (decodeSignalRaw (definition signal) frame).toNat = values signal := by
  constructor
  · intro hindependent values hvalues
    have hdigits : ∀ signal ∈ fields, ∃ digits : List Bool,
        digits.length = signal.slots.length ∧ value digits = values signal := by
      intro signal hsignal
      rw [(hvalid signal hsignal).slots_length]
      exact exists_value (hvalues signal hsignal)
    choose! digits hlength hvalue using hdigits
    obtain ⟨contents, hcontents⟩ := hindependent digits hlength
    refine ⟨frameOfSlots contents, fun signal hsignal => ?_⟩
    rw [(hvalid signal hsignal).raw_toNat (hdefinition signal hsignal), ← hvalue signal hsignal,
      ← hcontents signal hsignal]
    refine congrArg value (List.map_congr_left fun slot hslot => ?_)
    exact slotBit_frameOfSlots contents ((hvalid signal hsignal).slots_lt hslot)
  · intro hvalues digits hlength
    have hbound : ∀ signal ∈ fields, value (digits signal) < 2 ^ signal.width.toNat := by
      intro signal hsignal
      rw [← (hvalid signal hsignal).slots_length, ← hlength signal hsignal]
      exact value_lt _
    obtain ⟨frame, hframe⟩ := hvalues (fun signal => value (digits signal)) hbound
    refine ⟨slotBit frame, fun signal hsignal => ?_⟩
    have hraw := hframe signal hsignal
    rw [(hvalid signal hsignal).raw_toNat (hdefinition signal hsignal)] at hraw
    exact value_inj (by rw [List.length_map, hlength signal hsignal]) hraw

variable {upper : String → String} {reader : HexReader} {document : DbcDocument}

/-- The bits of the frames on which the raw value of a signal depends. -/
def dependentBits (definition : DbcSignal → SignalDefinition frameCount signalCount)
    (document : DbcDocument) : Set (String × Fin 8 × Fin 8) :=
  {place | place.1 ∈ document.frames ∧ ∃ signal ∈ document.signals, signal.canid = place.1 ∧
    DependsOn (decodeSignalRaw (definition signal)) place.2}

/-- The slots of a frame are those of its signals. -/
theorem mem_frameSlots {signals : List DbcSignal} {canId : String} {slot : ℕ} :
    slot ∈ frameSlots signals canId ↔
      ∃ signal ∈ signals, signal.canid = canId ∧ slot ∈ signal.slots := by
  simp only [frameSlots, List.mem_flatMap, List.mem_filter, decide_eq_true_eq, and_assoc]

/-- The slots of the signals of a frame lie in it. -/
theorem DbcDocument.Valid.frameSlots_lt (hvalid : document.Valid reader) {canId : String}
    {slot : ℕ} (hslot : slot ∈ frameSlots document.signals canId) : slot < frameBits := by
  obtain ⟨signal, hsignal, -, hmem⟩ := mem_frameSlots.mp hslot
  exact (hvalid.signals signal hsignal).slots_lt hmem

/-- The dependent bits are those in the slots of the frames. -/
theorem dependentBits_eq (hvalid : document.Valid reader)
    (hdefinition : ∀ signal ∈ document.signals,
      (definition signal).parts = signal.parts.map DbcPart.compiled) :
    dependentBits definition document = ↑(document.frames.toFinset.biUnion fun canId =>
      (frameSlots document.signals canId).toFinset.image fun slot => (canId, slotPlace slot)) := by
  ext ⟨canId, bit⟩
  simp only [dependentBits, Set.mem_ofPred_eq, Finset.coe_biUnion, Set.mem_iUnion, Finset.coe_image,
    List.coe_toFinset, Set.mem_image, Prod.mk.injEq, exists_prop]
  constructor
  · rintro ⟨hcanId, signal, hsignal, rfl, hdepends⟩
    rw [(hvalid.signals signal hsignal).dependsOn_iff (hdefinition signal hsignal)] at hdepends
    exact ⟨signal.canid, hcanId, bitSlot bit, mem_frameSlots.mpr ⟨signal, hsignal, rfl, hdepends⟩,
      rfl, slotPlace_bitSlot bit⟩
  · rintro ⟨canId, hcanId, slot, hslot, rfl, rfl⟩
    have hlt := hvalid.frameSlots_lt hslot
    obtain ⟨signal, hsignal, hframe, hmem⟩ := mem_frameSlots.mp hslot
    refine ⟨hcanId, signal, hsignal, hframe, ?_⟩
    rw [(hvalid.signals signal hsignal).dependsOn_iff (hdefinition signal hsignal),
      bitSlot_slotPlace hlt]
    exact hmem

/-- There are as many dependent bits as slots of the frames. -/
theorem ncard_dependentBits (hvalid : document.Valid reader)
    (hdefinition : ∀ signal ∈ document.signals,
      (definition signal).parts = signal.parts.map DbcPart.compiled) :
    (dependentBits definition document).ncard = document.frames.toFinset.sum fun canId =>
      (frameSlots document.signals canId).toFinset.card := by
  rw [dependentBits_eq hvalid hdefinition, Set.ncard_coe_finset, Finset.card_biUnion]
  · refine Finset.sum_congr rfl fun canId _ => Finset.card_image_of_injOn ?_
    intro slot hslot slot' hslot' heq
    rw [List.coe_toFinset] at hslot hslot'
    have hplace : slotPlace slot = slotPlace slot' := congrArg Prod.snd heq
    rw [← bitSlot_slotPlace (hvalid.frameSlots_lt hslot), hplace,
      bitSlot_slotPlace (hvalid.frameSlots_lt hslot')]
  · intro canId _ canId' _ hne
    refine Finset.disjoint_left.mpr fun place hplace hplace' => hne ?_
    obtain ⟨_, -, rfl⟩ := Finset.mem_image.mp hplace
    obtain ⟨_, -, heq⟩ := Finset.mem_image.mp hplace'
    exact (congrArg Prod.fst heq).symm

/-- The report is exact: no overlaps if and only if the signals of every frame take all their values
independently, and as many claimed bits as there are bits on which a signal depends. -/
theorem catalogBitCoverage_exact (hvalid : document.Valid reader)
    (hupper : (document.frames.map upper).Nodup)
    (hdefinition : ∀ signal ∈ document.signals,
      (definition signal).parts = signal.parts.map DbcPart.compiled) :
    ((catalogBitCoverage upper document).overlaps = 0 ↔
      ∀ canId ∈ document.frames, ∀ values : DbcSignal → ℕ,
        (∀ signal ∈ document.signals, signal.canid = canId →
          values signal < 2 ^ signal.width.toNat) →
        ∃ frame : FrameData, ∀ signal ∈ document.signals, signal.canid = canId →
          (decodeSignalRaw (definition signal) frame).toNat = values signal) ∧
    (catalogBitCoverage upper document).claimed = (dependentBits definition document).ncard := by
  refine ⟨?_, by rw [claimed_eq hvalid hupper, ncard_dependentBits hvalid hdefinition]⟩
  rw [overlaps_eq_zero_iff hvalid hupper]
  refine forall₂_congr fun canId _ => ?_
  have hnodup : (document.signals.filter fun signal => signal.canid = canId).Nodup :=
    hvalid.identities_nodup.of_map.filter _
  have hmem (signal : DbcSignal) (hsignal : signal ∈ document.signals.filter fun signal =>
    signal.canid = canId) : signal ∈ document.signals := (List.mem_filter.mp hsignal).1
  rw [frameSlots, ← independent_iff_nodup (V := Bool) hnodup, independent_iff_values
    (fun signal hsignal => hvalid.signals signal (hmem signal hsignal))
    (fun signal hsignal => hdefinition signal (hmem signal hsignal))]
  simp only [List.mem_filter, decide_eq_true_eq, and_imp]

end Exact

/-- A definition with the compiled parts of a signal. -/
def layoutOf (signal : DbcSignal) : SignalDefinition 1 1 :=
  { bitSignal 0x0A6 ⟨0, Nat.one_pos⟩ 0 with parts := signal.parts.map DbcPart.compiled }

/-- The signals `Speed` and `SpeedInvalid` do not overlap: there is a frame for every pair of their
values, and 17 bits are claimed. -/
theorem catalogBitCoverage_exact_speed :
    (∀ values : DbcSignal → ℕ,
      (∀ signal ∈ speedSignals, signal.canid = "0A6" → values signal < 2 ^ signal.width.toNat) →
      ∃ frame : FrameData, ∀ signal ∈ speedSignals, signal.canid = "0A6" →
        (decodeSignalRaw (layoutOf signal) frame).toNat = values signal) ∧
    (dependentBits layoutOf (speedDocument ["0A6", "0B0"])).ncard = 17 := by
  have hupper : (["0A6", "0B0"].map String.toUpper).Nodup := by decide +kernel
  have hreport := catalogBitCoverage_exact (speedDocument_valid plainReader speedFrames_upper)
    hupper fun signal _ => (rfl : (layoutOf signal).parts = signal.parts.map DbcPart.compiled)
  exact ⟨hreport.1.mp (by decide +kernel) "0A6" List.mem_cons_self,
    hreport.2.symm.trans (by decide +kernel)⟩

end Roadcast
