import Roadcast.Source.Elf

/-!
# The parser stays inside the file

Every table is checked before it is read: its elements lie inside the file, so that no access leaves
it and no sum of offsets reaches 64 bits. The name comparison ends at the terminator that was found
before, at the latest.
-/

namespace Roadcast

open Checked Counted

variable {file : List UInt8}

/-- The bytes of an element of a table. -/
def elementAt (file : List UInt8) (table : UInt64) (size i : ℕ) : List UInt8 :=
  (file.drop (table.toNat + i * size)).take size

/-- A table of `count` elements that lies inside the file. -/
def TableInside (file : List UInt8) (table : UInt64) (count size : ℕ) : Prop :=
  table.toNat + count * size ≤ file.length

instance (file : List UInt8) (table : UInt64) (count size : ℕ) :
    Decidable (TableInside file table count size) := inferInstanceAs (Decidable (_ ≤ _))

/-- An addition that does not overflow has no fault. -/
theorem addOffset_ok {a b : ℕ} (h : a + b < 2 ^ 64) : addOffset a b = .ok (a + b) := if_pos h

/-- A slice inside the file has no fault. -/
theorem slice_ok {offset count : ℕ} (h : offset + count ≤ file.length) :
    slice file offset count = .ok ((file.drop offset).take count) := if_pos h

/-- A subtraction that does not go below zero has no fault. -/
theorem subtract_ok {a b : ℕ} (h : b ≤ a) : subtract a b = .ok (a - b) := if_pos h

/-- An element of a table inside the file is read as a whole. -/
theorem readElement_ok (hfile : file.length < 2 ^ 63) {table : UInt64} {count size i : ℕ}
    (h : TableInside file table count size) (hi : i < count) :
    readElement file table size i = .ok (elementAt file table size i) := by
  have hnext : (i + 1) * size ≤ count * size := Nat.mul_le_mul_right size hi
  rw [Nat.succ_mul] at hnext
  unfold TableInside at h
  rw [readElement, addOffset_ok (by omega)]
  exact slice_ok (by omega)

/-- `checked_table` decides whether the table lies inside the file, without a negative difference. -/
theorem checkedTable_ok {offset count : UInt64} {size : ℕ} (hsize : 0 < size) :
    checkedTable file.length offset count size =
      .ok (decide (TableInside file offset count.toNat size)) := by
  rw [checkedTable]
  split
  · rename_i h
    have houtside : ¬TableInside file offset count.toNat size := by
      unfold TableInside
      omega
    rw [decide_eq_false houtside]
    rfl
  · rename_i h
    rw [subtract_ok (by omega)]
    refine congrArg Except.ok (decide_eq_decide.mpr ?_)
    rw [Nat.le_div_iff_mul_le hsize, TableInside]
    omega

/-! ## The header -/

/-- What the header of an accepted file says. -/
structure HeaderAccepted (file : List UInt8) (header : ElfHeader) : Prop where
  header_eq : header = ElfHeader.decode (file.take ehdrSize)
  programs : TableInside file header.phoff header.phnum.toNat phdrSize
  sections : TableInside file header.shoff header.shnum.toNat shdrSize

/-- A check that refuses the file, or what follows it. -/
theorem returns_check {A : Type} {condition : Prop} [Decidable condition]
    {rest : Except Fault (Option A)} {Q : A → Prop}
    (h : ¬condition → Returns rest fun result => ∀ a, result = some a → Q a) :
    Returns (if condition then pure none else rest) fun result => ∀ a, result = some a → Q a := by
  split
  · exact .ok nofun
  · rename_i hcondition
    exact h hcondition

/-- The header is read inside the file, and accepted only if its tables are in it. -/
theorem returns_readHeader (file : List UInt8) :
    Returns (readHeader file) fun result => ∀ header, result = some header →
      HeaderAccepted file header := by
  unfold readHeader
  refine returns_check fun hlength => ?_
  unfold ehdrSize at hlength
  refine (returns_slice (by omega)).bind fun magic _ => returns_check fun _ => ?_
  refine (returns_load (by omega)).bind fun fileClass _ => returns_check fun _ => ?_
  refine (returns_load (by omega)).bind fun fileData _ => returns_check fun _ => ?_
  refine (returns_load (by omega)).bind fun fileVersion _ => returns_check fun _ => ?_
  refine (returns_slice (by unfold ehdrSize; omega)).bind fun bytes hbytes => ?_
  refine returns_check fun _ => ?_
  rw [checkedTable_ok (by decide)]
  refine returns_check fun hprograms => ?_
  rw [checkedTable_ok (by decide)]
  refine returns_check fun hsections => .ok ?_
  intro header hheader
  obtain rfl := Option.some.inj hheader
  rw [Bool.not_eq_false, decide_eq_true_eq, UInt16.toNat_toUInt64] at hprograms hsections
  exact ⟨congrArg ElfHeader.decode hbytes, hprograms, hsections⟩

/-! ## The loops over the headers -/

/-- The program header of an index. -/
def programAt (file : List UInt8) (header : ElfHeader) (i : ℕ) : ElfProgram :=
  ElfProgram.decode (elementAt file header.phoff phdrSize i)

/-- The section header of an index. -/
def sectionAt (file : List UInt8) (header : ElfHeader) (i : ℕ) : ElfSection :=
  ElfSection.decode (elementAt file header.shoff shdrSize i)

/-- The program headers of a file. -/
def elfPrograms (file : List UInt8) (header : ElfHeader) : List ElfProgram :=
  (List.range header.phnum.toNat).map (programAt file header)

/-- The section headers of a file. -/
def elfSections (file : List UInt8) (header : ElfHeader) : List ElfSection :=
  (List.range header.shnum.toNat).map (sectionAt file header)

section Headers

variable {header : ElfHeader}

/-- A program header of an accepted file is read inside it. -/
theorem readProgram_ok (hfile : file.length < 2 ^ 63) (h : HeaderAccepted file header) {i : ℕ}
    (hi : i < header.phnum.toNat) : readProgram file header i = .ok (programAt file header i) := by
  rw [readProgram, readElement_ok hfile h.programs hi]
  rfl

/-- A section header of an accepted file is read inside it. -/
theorem readSection_ok (hfile : file.length < 2 ^ 63) (h : HeaderAccepted file header) {i : ℕ}
    (hi : i < header.shnum.toNat) : readSection file header i = .ok (sectionAt file header i) := by
  rw [readSection, readElement_ok hfile h.sections hi]
  rfl

/-- The loop over the program headers stays inside the file, and finds the lowest segment. -/
theorem findLoad_ok (hfile : file.length < 2 ^ 63) (h : HeaderAccepted file header) :
    findLoad file header =
      .ok ((elfPrograms file header).foldl LoadSegment.lower ⟨noVaddr, 0⟩) :=
  forLoop_fold (fun _ => readProgram_ok hfile h) LoadSegment.lower _

/-- The loop over the section headers stays inside the file, and finds the first of its type. -/
theorem findSection_ok (hfile : file.length < 2 ^ 63) (h : HeaderAccepted file header)
    (type : UInt32) :
    findSection file header type =
      .ok ((elfSections file header).find? fun candidate => decide (candidate.type = type)) :=
  forLoop_find (fun _ => readSection_ok hfile h) fun candidate => decide (candidate.type = type)

/-- The table that is chosen: the first symbol table, or else the first dynamic one. -/
def chosenTable (sections : List ElfSection) : Option ElfSection :=
  (sections.find? fun candidate => decide (candidate.type = shtSymtab)).or
    (sections.find? fun candidate => decide (candidate.type = shtDynsym))

/-- The symbol table that is chosen is found inside the file. -/
theorem findSymbols_ok (hfile : file.length < 2 ^ 63) (h : HeaderAccepted file header) :
    findSymbols file header = .ok (chosenTable (elfSections file header)) := by
  rw [findSymbols, findSection_ok hfile h, findSection_ok hfile h, chosenTable]
  cases (elfSections file header).find? fun candidate => decide (candidate.type = shtSymtab) with
  | none => rfl
  | some found => rfl

/-- What the tables of an accepted file satisfy. -/
structure TablesAccepted (file : List UInt8) (header : ElfHeader) (symbols strings : ElfSection) :
    Prop where
  chosen : chosenTable (elfSections file header) = some symbols
  strings_eq : strings = sectionAt file header symbols.link.toNat
  symbols : TableInside file symbols.offset (symbols.size.toNat / symSize) symSize
  strings : TableInside file strings.offset strings.size.toNat 1

/-- The tables that are found lie inside the file. -/
theorem returns_findTables (hfile : file.length < 2 ^ 63) (h : HeaderAccepted file header) :
    Returns (findTables file header) fun result => ∀ tables, result = some tables →
      TablesAccepted file header tables.1 tables.2 := by
  rw [findTables, findSymbols_ok hfile h]
  cases hchosen : chosenTable (elfSections file header) with
  | none => exact .ok nofun
  | some symbols =>
    refine returns_check fun hlayout => ?_
    rw [checkedTable_ok (by decide)]
    refine returns_check fun hsymbols => ?_
    rw [readSection_ok hfile h (by omega)]
    refine returns_check fun _ => ?_
    rw [checkedTable_ok (by decide)]
    refine returns_check fun hstrings => .ok ?_
    rw [Bool.not_eq_false, decide_eq_true_eq] at hsymbols hstrings
    have hinside : TableInside file symbols.offset (symbols.size.toNat / symSize) symSize := by
      have hmod : symbols.size.toNat % symSize = 0 := by omega
      rw [TableInside, Nat.mul_one] at hsymbols
      rwa [TableInside, Nat.div_mul_cancel (Nat.dvd_of_mod_eq_zero hmod)]
    intro tables htables
    obtain rfl := Option.some.inj htables
    exact ⟨hchosen, rfl, hinside, hstrings⟩

end Headers

/-! ## Names -/

section Names

variable {position count : ℕ}

/-- The first byte of a window. -/
theorem window_succ (h : position + (count + 1) ≤ file.length) :
    (file.drop position).take (count + 1) =
      file[position] :: (file.drop (position + 1)).take count := by
  rw [List.drop_eq_getElem_cons (by omega), List.take_succ_cons]

/-- A load inside the file has no fault. -/
theorem load_ok {i : ℕ} (h : i < file.length) : load file i = .ok file[i] := by
  rw [load, List.getElem?_eq_getElem h]

/-- The search for a terminator stays inside its window. -/
theorem findNul_ok (h : position + count ≤ file.length) :
    findNul file position count = .ok (decide (0 ∈ (file.drop position).take count)) := by
  induction count generalizing position with
  | zero => rfl
  | succ count ih =>
    rw [findNul, load_ok (by omega), window_succ h]
    by_cases hbyte : file[position] = 0
    · rw [hbyte, decide_eq_true List.mem_cons_self]
      rfl
    · have hrest : 0 ∈ file[position] :: (file.drop (position + 1)).take count ↔
          0 ∈ (file.drop (position + 1)).take count := by
        rw [List.mem_cons, or_iff_right (Ne.symm hbyte)]
      rw [decide_eq_decide.mpr hrest, ← ih (by omega)]
      exact if_neg hbyte

/-- The comparison of a terminated name stays inside the window of its terminator. -/
theorem compareName_ok {expected : List UInt8} (hexpected : 0 ∉ expected)
    (h : position + count ≤ file.length) (hnul : 0 ∈ (file.drop position).take count) :
    compareName file position expected =
      .ok (decide (((file.drop position).take count).takeWhile (· ≠ 0) = expected)) := by
  induction expected generalizing position count with
  | nil =>
    cases count with
    | zero => cases hnul
    | succ count =>
      rw [compareName, load_ok (by omega), window_succ h, List.takeWhile_cons]
      refine congrArg Except.ok (decide_eq_decide.mpr ?_)
      by_cases hbyte : file[position] = 0
      · simp [hbyte]
      · simp [hbyte]
  | cons wanted expected ih =>
    cases count with
    | zero => cases hnul
    | succ count =>
      rw [List.mem_cons, not_or] at hexpected
      rw [window_succ h] at hnul ⊢
      rw [compareName, load_ok (by omega), List.takeWhile_cons]
      by_cases hbyte : file[position] = wanted
      · have hnonzero : file[position] ≠ 0 := hbyte ▸ Ne.symm hexpected.1
        have hrest := (List.mem_cons.mp hnul).resolve_left (Ne.symm hnonzero)
        rw [if_pos (decide_eq_true hnonzero), hbyte]
        simp only [List.cons.injEq, true_and]
        rw [← ih hexpected.2 (by omega) hrest]
        exact if_pos rfl
      · have hne : (if decide (file[position] ≠ 0) then file[position] ::
            ((file.drop (position + 1)).take count).takeWhile (· ≠ 0) else []) ≠
            wanted :: expected := by
          split
          · exact fun heq => hbyte (List.cons.inj heq).1
          · nofun
        rw [decide_eq_false hne]
        exact if_neg hbyte

end Names

/-- No digit is the terminator. -/
theorem upperDigit_ne_zero {digit : ℕ} (h : digit < 16) : upperDigit digit ≠ 0 := by
  revert digit
  decide

/-- The expected names have no terminator before their end. -/
theorem zero_notMem_expectedName (canId : UInt16) : 0 ∉ expectedName canId := by
  have hlt := canId.toNat_lt
  have hdigit (digit : ℕ) (h : digit < 16) : (0 : UInt8) ≠ upperDigit digit :=
    (upperDigit_ne_zero h).symm
  rw [expectedName, hexText, List.mem_append, List.mem_append]
  rintro (hletter | hfirst | hrest)
  · revert hletter
    decide
  · split at hfirst
    · exact hdigit _ (by omega) (List.mem_singleton.mp hfirst)
    · cases hfirst
  · simp only [List.mem_cons, List.not_mem_nil, or_false] at hrest
    rcases hrest with h | h | h
    · exact hdigit _ (by omega) h
    · exact hdigit _ (by omega) h
    · exact hdigit _ (by omega) h

/-! ## The scan -/

section Scan

variable {frameCount : ℕ} {canIds : Fin frameCount → UInt16}

/-- The symbol of an index. -/
def symbolAt (file : List UInt8) (symbols : ElfSection) (i : ℕ) : ElfSymbol :=
  ElfSymbol.decode (elementAt file symbols.offset symSize i)

/-- The name of a symbol: that of a defined one, in the string table, with a terminator. -/
def symbolText (file : List UInt8) (strings : ElfSection) (symbol : ElfSymbol) :
    Option (List UInt8) :=
  if symbol.shndx = 0 ∨ strings.size.toNat ≤ symbol.name.toNat then none else
  let window := (file.drop (strings.offset.toNat + symbol.name.toNat)).take
    (strings.size.toNat - symbol.name.toNat)
  if 0 ∈ window then some (window.takeWhile (· ≠ 0)) else none

/-- The frame that takes a symbol: the first one without a value whose name it is. -/
def SymbolScan.taker (canIds : Fin frameCount → UInt16) (scan : SymbolScan frameCount)
    (text : List UInt8) (frames : List (Fin frameCount)) : Option (Fin frameCount) :=
  frames.find? fun frame => decide (scan.values frame = 0 ∧ text = expectedName (canIds frame))

/-- Give a frame the value of a symbol. -/
def SymbolScan.give (scan : SymbolScan frameCount) (value : UInt64) (frame : Fin frameCount) :
    SymbolScan frameCount :=
  ⟨Function.update scan.values frame value, scan.found + 1⟩

/-- What a symbol does to the scan. -/
def SymbolScan.add (canIds : Fin frameCount → UInt16) (scan : SymbolScan frameCount)
    (entry : Option (List UInt8) × UInt64) : SymbolScan frameCount :=
  (entry.1.bind fun text => scan.taker canIds text (List.finRange frameCount)).elim scan
    (scan.give entry.2)

/-- A name inside the string table is compared inside it. -/
theorem matchFrame_ok {name count : ℕ} (h : name + count ≤ file.length)
    (hnul : 0 ∈ (file.drop name).take count) (value : UInt64) (scan : SymbolScan frameCount)
    (frames : List (Fin frameCount)) :
    matchFrame canIds file name value scan frames =
      .ok ((scan.taker canIds (((file.drop name).take count).takeWhile (· ≠ 0)) frames).elim scan
        (scan.give value)) := by
  induction frames with
  | nil => rfl
  | cons frame frames ih =>
    rw [matchFrame, compareName_ok (zero_notMem_expectedName _) h hnul, SymbolScan.taker,
      List.find?_cons]
    by_cases hfree : scan.values frame = 0
    · by_cases hname : ((file.drop name).take count).takeWhile (· ≠ 0) =
          expectedName (canIds frame)
      · rw [if_pos hfree, decide_eq_true hname, decide_eq_true ⟨hfree, hname⟩]
        rfl
      · rw [if_pos hfree, decide_eq_false hname, decide_eq_false fun hboth => hname hboth.2]
        exact ih
    · rw [if_neg hfree, decide_eq_false fun hboth => hfree hboth.1]
      exact ih

/-- A symbol is added without leaving the string table. -/
theorem addSymbol_ok (hfile : file.length < 2 ^ 63) {strings : ElfSection}
    (hstrings : TableInside file strings.offset strings.size.toNat 1) (symbol : ElfSymbol)
    (scan : SymbolScan frameCount) :
    addSymbol canIds file strings symbol scan =
      .ok (scan.add canIds (symbolText file strings symbol, symbol.value)) := by
  rw [TableInside, Nat.mul_one] at hstrings
  rw [addSymbol, symbolText]
  by_cases hskip : symbol.shndx = 0 ∨ strings.size.toNat ≤ symbol.name.toNat
  · rw [if_pos hskip, if_pos hskip]
    rfl
  · have hwindow : strings.offset.toNat + symbol.name.toNat +
        (strings.size.toNat - symbol.name.toNat) ≤ file.length := by omega
    rw [if_neg hskip, if_neg hskip, addOffset_ok (by omega), subtract_ok (by omega)]
    change (do
      let terminated ← findNul file (strings.offset.toNat + symbol.name.toNat)
        (strings.size.toNat - symbol.name.toNat)
      if terminated = false then pure scan else
      matchFrame canIds file (strings.offset.toNat + symbol.name.toNat) symbol.value scan
        (List.finRange frameCount)) = _
    rw [findNul_ok hwindow]
    by_cases hnul : 0 ∈ (file.drop (strings.offset.toNat + symbol.name.toNat)).take
        (strings.size.toNat - symbol.name.toNat)
    · rw [decide_eq_true hnul, if_pos hnul]
      exact matchFrame_ok hwindow hnul symbol.value scan _
    · rw [decide_eq_false hnul, if_neg hnul]
      rfl

/-- The names and values of the symbols of a table. -/
def symbolEntries (file : List UInt8) (symbols strings : ElfSection) :
    List (Option (List UInt8) × UInt64) :=
  (List.range (symbols.size.toNat / symSize)).map fun i =>
    (symbolText file strings (symbolAt file symbols i), (symbolAt file symbols i).value)

/-- The scan over names and values. -/
def scanEntries (canIds : Fin frameCount → UInt16) :
    List (Option (List UInt8) × UInt64) → SymbolScan frameCount → SymbolScan frameCount
  | [], scan => scan
  | entry :: rest, scan =>
    if frameCount ≤ scan.found then scan else scanEntries canIds rest (scan.add canIds entry)

/-- The loop over the symbols stays inside their table. -/
theorem scanSymbols_ok (hfile : file.length < 2 ^ 63) {symbols strings : ElfSection}
    (hsymbols : TableInside file symbols.offset (symbols.size.toNat / symSize) symSize)
    (hstrings : TableInside file strings.offset strings.size.toNat 1)
    (scan : SymbolScan frameCount) :
    forLoop (symbols.size / UInt64.ofNat symSize).toBitVec
        (scanSymbol canIds file symbols strings) 0 scan =
      .ok (scanEntries canIds (symbolEntries file symbols strings) scan) := by
  have hcount : (symbols.size / UInt64.ofNat symSize).toBitVec.toNat =
      symbols.size.toNat / symSize := by
    rw [UInt64.toNat_toBitVec, UInt64.toNat_div]
    rfl
  have hbody : ∀ i < (symbols.size / UInt64.ofNat symSize).toBitVec.toNat, ∀ scan,
      scanSymbol canIds file symbols strings i scan =
        .ok (if frameCount ≤ scan.found then .stop scan else .next (scan.add canIds
          (symbolText file strings (symbolAt file symbols i),
            (symbolAt file symbols i).value))) := by
    intro i hi scan
    rw [hcount] at hi
    rw [scanSymbol]
    split
    · rfl
    · rw [readElement_ok hfile hsymbols hi]
      exact congrArg (· >>= fun scan => pure (Round.next scan))
        (addSymbol_ok hfile hstrings (symbolAt file symbols i) scan)
  rw [forLoop_eq_ok hbody, hcount, symbolEntries]
  generalize List.range (symbols.size.toNat / symSize) = indices
  refine congrArg Except.ok ?_
  induction indices generalizing scan with
  | nil => rfl
  | cons i rest ih =>
    rw [run, List.map_cons, scanEntries]
    by_cases hfound : frameCount ≤ scan.found
    · rw [if_pos hfound, if_pos hfound]
    · rw [if_neg hfound, if_neg hfound]
      exact ih _

/-- A file on which the call succeeds, with what is returned for it. -/
structure Resolved (canIds : Fin frameCount → UInt16) (file : List UInt8) (header : ElfHeader)
    (symbols strings : ElfSection) (out : Resolution frameCount) : Prop where
  accepted : HeaderAccepted file header
  tables : TablesAccepted file header symbols strings
  load : out.load = (elfPrograms file header).foldl LoadSegment.lower ⟨noVaddr, 0⟩
  load_ne : out.load.vaddr ≠ noVaddr
  values : out.values =
    (scanEntries canIds (symbolEntries file symbols strings) ⟨fun _ => 0, 0⟩).values

/-- A call has no fault. It fails and leaves the arguments alone, or it succeeds with what the file
says. -/
theorem returns_resolveSymbols (mapped : Option MappedFile) (out : Resolution frameCount) :
    Returns (resolveSymbols canIds mapped out) fun result =>
      (result.1 ≠ none ∧ result.2 = out) ∨
        (result.1 = none ∧ ∃ file ∈ mapped, ∃ header symbols strings,
          Resolved canIds file.bytes header symbols strings result.2) := by
  cases mapped with
  | none => exact .ok (Or.inl ⟨nofun, rfl⟩)
  | some mapped =>
    obtain ⟨file, hfile⟩ := mapped
    rw [resolveSymbols]
    split
    · exact .ok (Or.inl ⟨nofun, rfl⟩)
    refine (returns_readHeader file).bind fun found hheader => ?_
    cases found with
    | none => exact .ok (Or.inl ⟨nofun, rfl⟩)
    | some header =>
      have hheader := hheader header rfl
      change Returns (findLoad file header >>= _) _
      rw [findLoad_ok hfile hheader]
      change Returns (if _ then _ else _) _
      split
      · exact .ok (Or.inl ⟨nofun, rfl⟩)
      rename_i hload
      refine (returns_findTables hfile hheader).bind fun found htables => ?_
      cases found with
      | none => exact .ok (Or.inl ⟨nofun, rfl⟩)
      | some tables =>
        obtain ⟨symbols, strings⟩ := tables
        have htables := htables (symbols, strings) rfl
        change Returns (forLoop _ _ 0 _ >>= _) _
        rw [scanSymbols_ok hfile htables.symbols htables.strings]
        exact .ok (Or.inr ⟨rfl, ⟨file, hfile⟩, rfl, header, symbols, strings, hheader, htables, rfl, hload,
          rfl⟩)

/-- For every mapped file, and also if there is none, the call reads inside the file only, none of
its sums and differences of offsets leaves 64 bits and all its loops end; a call that fails leaves
the arguments as they were. -/
theorem resolveSymbols_safe (canIds : Fin frameCount → UInt16) (mapped : Option MappedFile)
    (out : Resolution frameCount) :
    Returns (resolveSymbols canIds mapped out) fun result => result.1 ≠ none → result.2 = out := by
  refine (returns_resolveSymbols mapped out).imp fun result h hfailed => ?_
  rcases h with ⟨-, hout⟩ | ⟨hnone, -⟩
  · exact hout
  · exact absurd hnone hfailed

end Scan

end Roadcast
