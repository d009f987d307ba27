import Roadcast.Source.Symbols
import Mathlib.Data.Int.ModEq

/-!
# Where the symbols are in the process

`find_mapping_base` and `roadcast_vhal_open` of `vhal_source.c`. What the operating system answers is
an input. A line of `/proc/PID/maps` is given as `sscanf` reads it; `none` is a line on which it reads
fewer than four fields.

The bias that is added to a symbol is the start of a mapping minus the address of the lowest segment,
which the kernel rounds down to a page for the mapping. It is the load bias of the process exactly if
that address is the start of a page.
-/

namespace Roadcast

open Checked

/-- A line of `/proc/PID/maps`. -/
structure MapLine where
  start : UInt64
  offset : UInt64
  path : List UInt8
  deriving DecidableEq, Repr

/-- The loop of `find_mapping_base`. -/
def findMappingLine (executable : List UInt8) (wantedOffset : UInt64) :
    List (Option MapLine) → Option UInt64
  | [] => none
  | none :: rest => findMappingLine executable wantedOffset rest
  | some line :: rest =>
    if line.offset = wantedOffset ∧ line.path = executable then some line.start
    else findMappingLine executable wantedOffset rest

/-- `find_mapping_base`; `maps` is `none` if the file cannot be opened. -/
def findMappingBase (maps : Option (List (Option MapLine))) (executable : List UInt8)
    (wantedOffset : UInt64) : Option UInt64 :=
  maps.bind (findMappingLine executable wantedOffset)

/-- What the operating system answers during `roadcast_vhal_open`, and what the stack holds before
the symbols are resolved. The maps are read a second time for the second lookup. -/
structure OpenAnswers (frameCount : ℕ) where
  pid : Option ℕ
  startTime : Option UInt64
  executable : Option (List UInt8)
  stack : Resolution frameCount
  file : Option MappedFile
  maps : Option (List (Option MapLine))
  mapsAgain : Option (List (Option MapLine))
  allocated : Bool
  memory : Option ℕ
  identity : Option UInt64

/-- `roadcast_vhal_source_t`; `remote` holds the addresses of `remote_iov`. -/
structure VhalSource (frameCount : ℕ) where
  pid : ℕ
  memory : Option ℕ
  startTimeTicks : UInt64
  addresses : Fin frameCount → UInt64
  remote : List UInt64
  resolvedCount : ℕ

/-- What is known when both tables have been found. -/
structure Located (frameCount : ℕ) where
  pid : ℕ
  startTime : UInt64
  symbols : Resolution frameCount
  mapBase : UInt64

variable {frameCount : ℕ}

/-- `roadcast_vhal_open` up to the lookups of `find_mapping_base`; `none` is a failure. -/
def vhalLocate (canIds : Fin frameCount → UInt16) (answers : OpenAnswers frameCount) :
    Except Fault (Option (Located frameCount)) := do
  match answers.pid, answers.startTime, answers.executable with
  | some pid, some startTime, some executable =>
    let (failure, symbols) ← resolveSymbols canIds answers.file answers.stack
    if failure ≠ none then pure none else
    match (findMappingBase answers.maps executable symbols.load.offset).or
        (findMappingBase answers.mapsAgain executable 0) with
    | none => pure none
    | some mapBase => pure (some ⟨pid, startTime, symbols, mapBase⟩)
  | _, _, _ => pure none

/-- One round of the loop over the frames. -/
def Located.fill (located : Located frameCount) (source : VhalSource frameCount)
    (frame : Fin frameCount) : VhalSource frameCount :=
  let bias := located.mapBase - located.symbols.load.vaddr
  if located.symbols.values frame = 0 then source else
  let address := bias + located.symbols.values frame
  { source with
    addresses := Function.update source.addresses frame address
    remote := source.remote ++ [address]
    resolvedCount := source.resolvedCount + 1 }

/-- The loop over the frames. -/
def Located.source (located : Located frameCount) : VhalSource frameCount :=
  (List.finRange frameCount).foldl located.fill
    ⟨located.pid, none, located.startTime, fun _ => 0, [], 0⟩

/-- `roadcast_vhal_open`; `none` is a failure. -/
def vhalOpen (canIds : Fin frameCount → UInt16) (answers : OpenAnswers frameCount) :
    Except Fault (Option (VhalSource frameCount)) := do
  match ← vhalLocate canIds answers with
  | none => pure none
  | some located =>
    if answers.allocated = false then pure none else
    let source := located.source
    if source.resolvedCount = 0 then pure none else
    let source := { source with memory := answers.memory }
    -- `verify_identity`
    if answers.identity ≠ some source.startTimeTicks then pure none else
    pure (some source)

/-! ## Addresses -/

/-- The address of a resolved frame. -/
def Located.address (located : Located frameCount) (frame : Fin frameCount) : UInt64 :=
  located.mapBase - located.symbols.load.vaddr + located.symbols.values frame

/-- A frame without a symbol gets no address. -/
theorem fill_of_zero (located : Located frameCount) (source : VhalSource frameCount)
    {frame : Fin frameCount} (h : located.symbols.values frame = 0) :
    located.fill source frame = source :=
  if_pos h

/-- A frame with a symbol gets its address. -/
theorem fill_addresses (located : Located frameCount) (source : VhalSource frameCount)
    {frame : Fin frameCount} (h : located.symbols.values frame ≠ 0) :
    (located.fill source frame).addresses =
      Function.update source.addresses frame (located.address frame) := by
  rw [Located.fill, if_neg h]
  rfl

/-- The loop gives each frame that it visits its address. -/
theorem addresses_foldl_fill (located : Located frameCount) {frame : Fin frameCount}
    (hvalue : located.symbols.values frame ≠ 0) (frames : List (Fin frameCount))
    (source : VhalSource frameCount) :
    (frames.foldl located.fill source).addresses frame =
      if frame ∈ frames then located.address frame else source.addresses frame := by
  induction frames using List.reverseRecOn with
  | nil => rfl
  | append_singleton frames last ih =>
    rw [List.foldl_append, List.foldl_cons, List.foldl_nil]
    by_cases hlast : frame = last
    · rw [← hlast, fill_addresses located _ hvalue, Function.update_self, if_pos (by simp)]
    · have hmem : frame ∈ frames ++ [last] ↔ frame ∈ frames := by simp [hlast]
      rw [if_congr hmem rfl rfl, ← ih]
      by_cases hzero : located.symbols.values last = 0
      · rw [fill_of_zero located _ hzero]
      · rw [fill_addresses located _ hzero, Function.update_of_ne hlast]

/-- Every resolved frame has its address. -/
theorem source_addresses (located : Located frameCount) {frame : Fin frameCount}
    (hvalue : located.symbols.values frame ≠ 0) :
    located.source.addresses frame = located.address frame := by
  rw [Located.source, addresses_foldl_fill located hvalue, if_pos (List.mem_finRange frame)]

/-- The 64-bit arithmetic of an address, modulo 2 ^ 64. -/
theorem address_modEq (located : Located frameCount) (frame : Fin frameCount) :
    ((located.address frame).toNat : ℤ) ≡
      located.mapBase.toNat - located.symbols.load.vaddr.toNat +
        (located.symbols.values frame).toNat [ZMOD 2 ^ 64] := by
  have hvaddr := located.symbols.load.vaddr.toNat_lt
  rw [Located.address, UInt64.toNat_add, UInt64.toNat_sub, Int.ModEq]
  omega

/-! ## What the kernel shows -/

/-- A line shows where a segment is mapped, for a page size and a load bias. -/
def MapLine.Shows (line : MapLine) (page : ℕ) (bias : ℤ) (segment : ElfProgram) : Prop :=
  (line.start.toNat : ℤ) = bias + (page * (segment.vaddr.toNat / page) : ℕ) ∧
    line.offset.toNat = page * (segment.offset.toNat / page)

instance (line : MapLine) (page : ℕ) (bias : ℤ) (segment : ElfProgram) :
    Decidable (line.Shows page bias segment) := inferInstanceAs (Decidable (_ ∧ _))

/-- A line shows a segment from one of its pages on: the part behind a split, as `mprotect` leaves it
for the read-only part of a data segment. -/
def MapLine.ShowsFrom (line : MapLine) (page pages : ℕ) (bias : ℤ) (segment : ElfProgram) : Prop :=
  (line.start.toNat : ℤ) = bias + (page * (segment.vaddr.toNat / page + pages) : ℕ) ∧
    line.offset.toNat = page * (segment.offset.toNat / page + pages)

instance (line : MapLine) (page pages : ℕ) (bias : ℤ) (segment : ElfProgram) :
    Decidable (line.ShowsFrom page pages bias segment) := inferInstanceAs (Decidable (_ ∧ _))

/-- The maps of a process whose executable has the given loaded segments. Every segment has a line for
its start, and every line of the executable shows a segment from one of its pages on. -/
structure KernelMaps (page : ℕ) (bias : ℤ) (executable : List UInt8) (segments : List ElfProgram)
    (lines : List (Option MapLine)) : Prop where
  congruent : ∀ segment ∈ segments, segment.vaddr.toNat % page = segment.offset.toNat % page
  shown : ∀ segment ∈ segments, ∃ line, some line ∈ lines ∧ line.path = executable ∧
    line.Shows page bias segment
  segment_of_line : ∀ line, some line ∈ lines → line.path = executable →
    ∃ segment ∈ segments, ∃ pages, page * (segment.vaddr.toNat / page + pages) < 2 ^ 64 ∧
      line.ShowsFrom page pages bias segment
  increasing : lines.Pairwise fun earlier later =>
    ∀ a ∈ earlier, ∀ b ∈ later, a.start ≤ b.start

section Lookup

variable {executable : List UInt8} {wanted base : UInt64} {lines : List (Option MapLine)}

/-- A lookup fails only without a line. -/
theorem findMappingLine_eq_none (h : findMappingLine executable wanted lines = none)
    {line : MapLine} (hline : some line ∈ lines) (hpath : line.path = executable) :
    line.offset ≠ wanted := by
  fun_induction findMappingLine executable wanted lines with
  | case1 => cases hline
  | case2 rest ih => exact ih h ((List.mem_cons.mp hline).resolve_left nofun)
  | case3 first rest hfirst => cases h
  | case4 first rest hfirst ih =>
    rcases List.mem_cons.mp hline with heq | hrest
    · obtain rfl := Option.some.inj heq
      exact fun hoffset => hfirst ⟨hoffset, hpath⟩
    · exact ih h hrest

/-- A lookup finds the lowest line of the executable with the offset. -/
theorem findMappingLine_eq_some (hincreasing : lines.Pairwise fun earlier later =>
      ∀ a ∈ earlier, ∀ b ∈ later, a.start ≤ b.start)
    (h : findMappingLine executable wanted lines = some base) :
    ∃ line, some line ∈ lines ∧ line.path = executable ∧ line.offset = wanted ∧
      line.start = base ∧ ∀ other, some other ∈ lines → other.path = executable →
        other.offset = wanted → line.start ≤ other.start := by
  fun_induction findMappingLine executable wanted lines with
  | case1 => cases h
  | case2 rest ih =>
    obtain ⟨line, hline, hpath, hoffset, hstart, hlowest⟩ := ih hincreasing.of_cons h
    refine ⟨line, List.mem_cons_of_mem _ hline, hpath, hoffset, hstart, fun other hother => ?_⟩
    exact hlowest other ((List.mem_cons.mp hother).resolve_left nofun)
  | case3 first rest hfirst =>
    refine ⟨first, List.mem_cons_self, hfirst.2, hfirst.1, Option.some.inj h, ?_⟩
    intro other hother _ _
    rcases List.mem_cons.mp hother with heq | hrest
    · rw [Option.some.inj heq]
      exact UInt64.le_refl _
    · exact List.rel_of_pairwise_cons hincreasing hrest first rfl other rfl
  | case4 first rest hfirst ih =>
    obtain ⟨line, hline, hpath, hoffset, hstart, hlowest⟩ := ih hincreasing.of_cons h
    refine ⟨line, List.mem_cons_of_mem _ hline, hpath, hoffset, hstart, fun other hother => ?_⟩
    intro hpath hoffset
    rcases List.mem_cons.mp hother with heq | hrest
    · obtain rfl := Option.some.inj heq
      exact absurd ⟨hoffset, hpath⟩ hfirst
    · exact hlowest other hrest hpath hoffset

end Lookup

/-! ## The base that is found -/

section Base

variable {page : ℕ} {bias : ℤ} {executable : List UInt8} {segments : List ElfProgram}
  {lines again : List (Option MapLine)} {lowest : ElfProgram} {base : UInt64}

/-- A base that is found is the address of a page of a segment. -/
theorem KernelMaps.base_eq (h : KernelMaps page bias executable segments lines) {wanted : UInt64}
    (hbase : findMappingLine executable wanted lines = some base) :
    page ∣ wanted.toNat ∧ ∃ start, page ∣ start ∧ start < 2 ^ 64 ∧
      (base.toNat : ℤ) = bias + start := by
  obtain ⟨line, hline, hpath, hoffset, hstart, -⟩ := findMappingLine_eq_some h.increasing hbase
  obtain ⟨segment, -, pages, hlt, hshows⟩ := h.segment_of_line line hline hpath
  rw [← hstart, ← hoffset, hshows.2]
  exact ⟨Nat.dvd_mul_right page _, _, Nat.dvd_mul_right page _, hlt, hshows.1⟩

/-- For the lowest segment at the start of a page, the first lookup finds where it is mapped. -/
theorem KernelMaps.base_of_dvd (h : KernelMaps page bias executable segments lines)
    (hmem : lowest ∈ segments)
    (hlowest : ∀ segment ∈ segments, lowest.vaddr.toNat ≤ segment.vaddr.toNat)
    (hdvd : page ∣ lowest.vaddr.toNat) :
    ∃ base, findMappingLine executable lowest.offset lines = some base ∧
      (base.toNat : ℤ) = bias + lowest.vaddr.toNat := by
  have hoffset : page ∣ lowest.offset.toNat := by
    rw [Nat.dvd_iff_mod_eq_zero] at hdvd ⊢
    rw [← h.congruent lowest hmem, hdvd]
  obtain ⟨line, hline, hpath, hshows⟩ := h.shown lowest hmem
  have hlineOffset : line.offset = lowest.offset :=
    UInt64.toNat_inj.mp (hshows.2.trans (Nat.mul_div_cancel' hoffset))
  cases hbase : findMappingLine executable lowest.offset lines with
  | none => exact absurd hlineOffset (findMappingLine_eq_none hbase hline hpath)
  | some base =>
    refine ⟨base, rfl, ?_⟩
    obtain ⟨found, hfound, hfoundPath, -, hstart, hfirst⟩ :=
      findMappingLine_eq_some h.increasing hbase
    obtain ⟨segment, hsegment, pages, -, hfoundShows⟩ :=
      h.segment_of_line found hfound hfoundPath
    -- the line that is found is not above that of the lowest segment, nor below it
    have habove := UInt64.le_iff_toNat_le.mp (hfirst line hline hpath hlineOffset)
    have hbelow : page * (lowest.vaddr.toNat / page) ≤
        page * (segment.vaddr.toNat / page + pages) :=
      Nat.mul_le_mul_left page
        ((Nat.div_le_div_right (hlowest segment hsegment)).trans (Nat.le_add_right _ _))
    have hlow : page * (lowest.vaddr.toNat / page) = lowest.vaddr.toNat := Nat.mul_div_cancel' hdvd
    have hstartFound := hfoundShows.1
    have hstartLine := hshows.1
    rw [hlow] at hbelow hstartLine
    rw [← hstart]
    omega

/-- For another lowest segment, no lookup finds where its address is mapped. -/
theorem KernelMaps.base_of_not_dvd (h : KernelMaps page bias executable segments lines)
    (hagain : KernelMaps page bias executable segments again) (hmem : lowest ∈ segments)
    (hdvd : ¬page ∣ lowest.vaddr.toNat)
    (hbase : (findMappingLine executable lowest.offset lines).or
      (findMappingLine executable 0 again) = some base) :
    ∃ start, page ∣ start ∧ start < 2 ^ 64 ∧ (base.toNat : ℤ) = bias + start := by
  rcases Option.or_eq_some_iff.mp hbase with hfirst | ⟨-, hsecond⟩
  · have haligned := (h.base_eq hfirst).1
    refine absurd ?_ hdvd
    rw [Nat.dvd_iff_mod_eq_zero] at haligned ⊢
    rw [h.congruent lowest hmem, haligned]
  · exact (hagain.base_eq hsecond).2

end Base

/-! ## Opening the source -/

variable {canIds : Fin frameCount → UInt16} {answers : OpenAnswers frameCount}
  {located : Located frameCount}

/-- What is known about an open that has passed both lookups. -/
theorem vhalLocate_ok (h : vhalLocate canIds answers = .ok (some located)) :
    ∃ executable, answers.executable = some executable ∧
      resolveSymbols canIds answers.file answers.stack = .ok (none, located.symbols) ∧
      (findMappingBase answers.maps executable located.symbols.load.offset).or
        (findMappingBase answers.mapsAgain executable 0) = some located.mapBase := by
  rw [vhalLocate] at h
  split at h
  · rename_i pid startTime executable hpid hstart hexecutable
    refine ⟨executable, hexecutable, ?_⟩
    cases hcall : resolveSymbols canIds answers.file answers.stack with
    | error fault =>
      rw [hcall] at h
      cases h
    | ok returned =>
      obtain ⟨failure, symbols⟩ := returned
      rw [hcall] at h
      change (if failure ≠ none then pure none else _) = _ at h
      split at h
      · cases h
      · rename_i hfailure
        rw [not_not] at hfailure
        split at h
        · cases h
        · rename_i mapBase hbase
          obtain rfl := Option.some.inj (Except.ok.inj h)
          exact ⟨congrArg (fun failure => Except.ok (failure, symbols)) hfailure, hbase⟩
  · cases h

/-- The maps that an open reads, in both lookups, show the executable with one load bias. -/
structure OpenMaps (answers : OpenAnswers frameCount) (page : ℕ) (bias : ℤ) : Prop where
  maps : ∀ executable ∈ answers.executable, ∀ file ∈ answers.file, ∃ lines ∈ answers.maps,
    KernelMaps page bias executable
      (loadSegments (elfPrograms file.bytes (fileHeader file.bytes))) lines
  mapsAgain : ∀ executable ∈ answers.executable, ∀ file ∈ answers.file,
    ∃ lines ∈ answers.mapsAgain, KernelMaps page bias executable
      (loadSegments (elfPrograms file.bytes (fileHeader file.bytes))) lines

/-- The lowest loaded segment of the executable, and the lookups in the lines of its maps. -/
theorem OpenMaps.lookup {page : ℕ} {bias : ℤ} (hmaps : OpenMaps answers page bias)
    (hlocated : vhalLocate canIds answers = .ok (some located)) {file : MappedFile}
    (hfile : answers.file = some file) {lowest : ElfProgram}
    (hlowest : lowestLoad (elfPrograms file.bytes (fileHeader file.bytes)) = some lowest) :
    located.symbols.load = ⟨lowest.vaddr, lowest.offset⟩ ∧
      ∃ executable lines again,
        KernelMaps page bias executable
          (loadSegments (elfPrograms file.bytes (fileHeader file.bytes))) lines ∧
        KernelMaps page bias executable
          (loadSegments (elfPrograms file.bytes (fileHeader file.bytes))) again ∧
        (findMappingLine executable lowest.offset lines).or (findMappingLine executable 0 again) =
          some located.mapBase := by
  obtain ⟨executable, hexecutable, hcall, hbase⟩ := vhalLocate_ok hlocated
  rw [hfile] at hcall
  obtain ⟨symbols, strings, hresolved⟩ := resolved_of_resolveSymbols hcall
  obtain ⟨program, hprogram, hload⟩ := hresolved.lowest
  obtain rfl := Option.some.inj (hprogram.symm.trans hlowest)
  obtain ⟨lines, hlines, hkernel⟩ := hmaps.maps executable hexecutable file hfile
  obtain ⟨again, hagain, hkernelAgain⟩ := hmaps.mapsAgain executable hexecutable file hfile
  rw [Option.mem_def] at hlines hagain
  rw [findMappingBase, findMappingBase, hlines, hagain, hload] at hbase
  exact ⟨hload, executable, lines, again, hkernel, hkernelAgain, hbase⟩

/-- A source that is opened is the one that was located, with the descriptor of the memory. -/
theorem vhalOpen_located {source : VhalSource frameCount}
    (h : vhalOpen canIds answers = .ok (some source)) :
    ∃ located, vhalLocate canIds answers = .ok (some located) ∧
      source = { located.source with memory := answers.memory } := by
  rw [vhalOpen] at h
  cases hlocate : vhalLocate canIds answers with
  | error fault =>
    rw [hlocate] at h
    cases h
  | ok found =>
    rw [hlocate] at h
    cases found with
    | none => cases h
    | some located =>
      refine ⟨located, rfl, ?_⟩
      change (if _ then _ else _) = _ at h
      split at h
      · cases h
      · change (if _ then _ else _) = _ at h
        split at h
        · cases h
        · change (if _ then _ else _) = _ at h
          split at h
          · cases h
          · exact (Option.some.inj (Except.ok.inj h)).symm

section Samples

/-- An executable with one segment, the line that shows its start, and those behind it. -/
def sampleAnswers (offset vaddr value : ℕ) (line : MapLine) (rest : List MapLine) :
    OpenAnswers singleCatalog.frameCount where
  pid := some 1
  startTime := some 7
  executable := some line.path
  stack := ⟨fun _ => 0, ⟨0, 0⟩⟩
  file := some (mappedSymbols offset vaddr value value)
  maps := some ((line :: rest).map some)
  mapsAgain := some ((line :: rest).map some)
  allocated := true
  memory := none
  identity := some 7

/-- The maps of a sample are those of a kernel. -/
theorem sampleAnswers_maps {offset vaddr value page : ℕ} {line : MapLine} {rest : List MapLine}
    {bias : ℤ} (segment : ElfProgram)
    (hsegments : loadSegments (elfPrograms (mappedSymbols offset vaddr value value).bytes
      (fileHeader (mappedSymbols offset vaddr value value).bytes)) = [segment])
    (hcongruent : segment.vaddr.toNat % page = segment.offset.toNat % page)
    (hshows : line.Shows page bias segment)
    (hrest : ∀ other ∈ rest, line.start ≤ other.start ∧
      ∃ pages, page * (segment.vaddr.toNat / page + pages) < 2 ^ 64 ∧
        other.ShowsFrom page pages bias segment)
    (hincreasing : rest.Pairwise fun earlier later => earlier.start ≤ later.start) :
    OpenMaps (sampleAnswers offset vaddr value line rest) page bias := by
  have hstart : page * (segment.vaddr.toNat / page + 0) < 2 ^ 64 :=
    Nat.lt_of_le_of_lt (Nat.mul_div_le _ page) segment.vaddr.toNat_lt
  have hkernel : KernelMaps page bias line.path [segment] ((line :: rest).map some) := {
    congruent := fun _ hmem => List.mem_singleton.mp hmem ▸ hcongruent
    shown := fun _ hmem => ⟨line, List.mem_cons_self, rfl, List.mem_singleton.mp hmem ▸ hshows⟩
    segment_of_line := by
      intro shown hmem _
      obtain ⟨other, hother, hshown⟩ := List.mem_map.mp hmem
      obtain rfl := Option.some.inj hshown
      refine ⟨segment, List.mem_singleton_self _, ?_⟩
      rcases List.mem_cons.mp hother with rfl | hother
      · exact ⟨0, hstart, hshows⟩
      · exact (hrest other hother).2
    increasing := by
      refine List.pairwise_map.mpr (List.pairwise_cons.mpr ⟨fun other hother => ?_, ?_⟩)
      · rintro _ ⟨⟩ _ ⟨⟩
        exact (hrest other hother).1
      · refine hincreasing.imp fun hle => ?_
        rintro _ ⟨⟩ _ ⟨⟩
        exact hle }
  have hopen : ∀ executable ∈ some line.path,
      ∀ file ∈ some (mappedSymbols offset vaddr value value),
      ∃ lines ∈ some ((line :: rest).map some), KernelMaps page bias executable
        (loadSegments (elfPrograms file.bytes (fileHeader file.bytes))) lines := by
    intro executable hexecutable file hfile
    obtain rfl := Option.some.inj hexecutable
    obtain rfl := Option.some.inj hfile
    exact ⟨_, rfl, hsegments ▸ hkernel⟩
  exact ⟨hopen, hopen⟩

/-- Open with the catalog of one frame: the value of its symbol and its address. -/
def locateSingle (answers : OpenAnswers singleCatalog.frameCount) :
    Except Fault (Option (UInt64 × UInt64)) :=
  (vhalLocate singleCatalog.canIds answers).map fun found => found.map fun located =>
    (located.symbols.values singleFrame, located.source.addresses singleFrame)

end Samples

/-- Once the base has been found, the address of every resolved frame is that of its symbol in the
process exactly if the lowest loaded segment starts at a page. -/
theorem vhalLocate_addresses_iff {page : ℕ} {bias : ℤ} (hmaps : OpenMaps answers page bias)
    (hlocated : vhalLocate canIds answers = .ok (some located)) {file : MappedFile}
    (hfile : answers.file = some file) {lowest : ElfProgram}
    (hlowest : lowestLoad (elfPrograms file.bytes (fileHeader file.bytes)) = some lowest)
    {frame : Fin frameCount} (hresolved : located.symbols.values frame ≠ 0) :
    ((located.source.addresses frame).toNat : ℤ) ≡
        bias + (located.symbols.values frame).toNat [ZMOD 2 ^ 64] ↔
      page ∣ lowest.vaddr.toNat := by
  obtain ⟨hload, executable, lines, again, hkernel, hagain, hbase⟩ :=
    hmaps.lookup hlocated hfile hlowest
  have hmem := lowestLoad_mem hlowest
  have hlt := lowest.vaddr.toNat_lt
  have hvaddr : located.symbols.load.vaddr = lowest.vaddr := congrArg LoadSegment.vaddr hload
  have haddress := address_modEq located frame
  rw [hvaddr] at haddress
  rw [source_addresses located hresolved]
  by_cases hdvd : page ∣ lowest.vaddr.toNat
  · refine iff_of_true (haddress.trans ?_) hdvd
    obtain ⟨base, hfound, hbias⟩ := hkernel.base_of_dvd hmem (lowestLoad_le hlowest) hdvd
    rw [hfound] at hbase
    have hcancel : (located.mapBase.toNat : ℤ) - lowest.vaddr.toNat +
        (located.symbols.values frame).toNat = bias + (located.symbols.values frame).toNat := by
      rw [← Option.some.inj hbase, hbias]
      omega
    exact congrArg (· % 2 ^ 64) hcancel
  · refine iff_of_false (fun hcorrect => ?_) hdvd
    obtain ⟨start, hstart, hstartLt, hbias⟩ := hkernel.base_of_not_dvd hagain hmem hdvd hbase
    have hsame : start = lowest.vaddr.toNat := by
      have hmod := haddress.symm.trans hcorrect
      rw [hbias, Int.ModEq] at hmod
      omega
    exact hdvd (hsame ▸ hstart)

/-- An executable at page 0x1000 that is loaded at 0x5551000. Its mapping is split after two pages. -/
theorem vhalLocate_addresses_page :
    ∃ located, vhalLocate singleCatalog.canIds
        (sampleAnswers 0 0x1000 0x4000 ⟨0x5551000, 0, [0x2F, 0x78]⟩
          [⟨0x5553000, 0x2000, [0x2F, 0x78]⟩]) = .ok (some located) ∧
      located.source.addresses singleFrame = 0x5554000 ∧
      ((located.source.addresses singleFrame).toNat : ℤ) ≡
        0x5550000 + (located.symbols.values singleFrame).toNat [ZMOD 2 ^ 64] := by
  have hmaps : OpenMaps (sampleAnswers 0 0x1000 0x4000 ⟨0x5551000, 0, [0x2F, 0x78]⟩
          [⟨0x5553000, 0x2000, [0x2F, 0x78]⟩]) 0x1000
      0x5550000 :=
    sampleAnswers_maps ⟨1, 0, 0x1000⟩ (by decide +kernel) (by decide) (by decide)
      (List.forall_mem_singleton.mpr ⟨by decide, 2, by decide, by decide⟩)
      (List.pairwise_singleton _ _)
  have hsingle : locateSingle (sampleAnswers 0 0x1000 0x4000 ⟨0x5551000, 0, [0x2F, 0x78]⟩
          [⟨0x5553000, 0x2000, [0x2F, 0x78]⟩]) =
      .ok (some (0x4000, 0x5554000)) := by
    simp only [locateSingle, vhalLocate, resolveSymbols, findLoad, findTables, findSymbols,
      findSection, Counted.forLoop_eq_rounds]
    decide +kernel
  obtain ⟨found, hlocated, hfound⟩ := exists_of_map hsingle
  obtain ⟨located, rfl, hvalues⟩ := Option.map_eq_some_iff.mp hfound
  obtain ⟨hvalue, haddress⟩ : located.symbols.values singleFrame = 0x4000 ∧
      located.source.addresses singleFrame = 0x5554000 := by
    simpa using hvalues
  have hresolved : located.symbols.values singleFrame ≠ 0 := by
    rw [hvalue]
    decide
  have hlowest : lowestLoad (elfPrograms (mappedSymbols 0 0x1000 0x4000 0x4000).bytes
      (fileHeader (mappedSymbols 0 0x1000 0x4000 0x4000).bytes)) = some ⟨1, 0, 0x1000⟩ := by
    decide +kernel
  exact ⟨located, hlocated, haddress,
    (vhalLocate_addresses_iff hmaps hlocated rfl hlowest hresolved).mpr (by decide)⟩

/-- The segment starts inside its page: the fallback finds its mapping, but the address of the symbol
at 0x400200 is too low by the distance from the start of the page. -/
theorem vhalLocate_wrong_address :
    OpenMaps (sampleAnswers 0x123 0x400123 0x400200 ⟨0x400000, 0, [0x2F, 0x78]⟩ []) 0x1000 0 ∧
      locateSingle (sampleAnswers 0x123 0x400123 0x400200 ⟨0x400000, 0, [0x2F, 0x78]⟩ []) =
        .ok (some (0x400200, 0x4000DD)) ∧
      ¬(0x4000DD : ℤ) ≡ 0 + 0x400200 [ZMOD 2 ^ 64] := by
  refine ⟨?_, ?_, by decide⟩
  · exact sampleAnswers_maps ⟨1, 0x123, 0x400123⟩ (by decide +kernel) (by decide) (by decide)
      nofun List.Pairwise.nil
  · simp only [locateSingle, vhalLocate, resolveSymbols, findLoad, findTables, findSymbols,
      findSection, Counted.forLoop_eq_rounds]
    decide +kernel

end Roadcast
