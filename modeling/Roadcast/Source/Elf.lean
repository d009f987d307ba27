import Roadcast.Catalog.Tables
import Roadcast.Lib.Counted
import Mathlib.Data.List.FinRange

/-!
# Symbol resolution

`checked_table` and `roadcast_vhal_resolve_symbols` of `vhal_source.c`. Every access to the mapped
file checks that it stays inside the file, every sum of offsets that it fits 64 bits and every
difference that it is not negative; a violation is a fault. The loops over program headers, section
headers and symbols have counters of 16 and 64 bits.

The machine is little-endian, as the file is, so copying a header to a structure reads its fields in
that order.
-/

namespace Roadcast

open Checked Counted

/-- A little-endian number. -/
def leNat (bytes : List UInt8) : ℕ := bytes.foldr (fun byte number => byte.toNat + 256 * number) 0

/-- The field of `size` bytes at an offset of a structure. -/
def elfField (bytes : List UInt8) (offset size : ℕ) : ℕ := leNat ((bytes.drop offset).take size)

/-- The fields of `Elf64_Ehdr` that are used. -/
structure ElfHeader where
  version : UInt32
  phoff : UInt64
  shoff : UInt64
  ehsize : UInt16
  phentsize : UInt16
  phnum : UInt16
  shentsize : UInt16
  shnum : UInt16
  deriving DecidableEq, Repr

/-- `sizeof(Elf64_Ehdr)`. -/
def ehdrSize : ℕ := 64

/-- Copy an `Elf64_Ehdr`. -/
def ElfHeader.decode (bytes : List UInt8) : ElfHeader where
  version := UInt32.ofNat (elfField bytes 20 4)
  phoff := UInt64.ofNat (elfField bytes 32 8)
  shoff := UInt64.ofNat (elfField bytes 40 8)
  ehsize := UInt16.ofNat (elfField bytes 52 2)
  phentsize := UInt16.ofNat (elfField bytes 54 2)
  phnum := UInt16.ofNat (elfField bytes 56 2)
  shentsize := UInt16.ofNat (elfField bytes 58 2)
  shnum := UInt16.ofNat (elfField bytes 60 2)

/-- The fields of `Elf64_Phdr` that are used. -/
structure ElfProgram where
  type : UInt32
  offset : UInt64
  vaddr : UInt64
  deriving DecidableEq, Repr

/-- `sizeof(Elf64_Phdr)`. -/
def phdrSize : ℕ := 56

/-- Copy an `Elf64_Phdr`. -/
def ElfProgram.decode (bytes : List UInt8) : ElfProgram where
  type := UInt32.ofNat (elfField bytes 0 4)
  offset := UInt64.ofNat (elfField bytes 8 8)
  vaddr := UInt64.ofNat (elfField bytes 16 8)

/-- The fields of `Elf64_Shdr` that are used. -/
structure ElfSection where
  type : UInt32
  offset : UInt64
  size : UInt64
  link : UInt32
  entsize : UInt64
  deriving DecidableEq, Repr

/-- `sizeof(Elf64_Shdr)`. -/
def shdrSize : ℕ := 64

/-- Copy an `Elf64_Shdr`. -/
def ElfSection.decode (bytes : List UInt8) : ElfSection where
  type := UInt32.ofNat (elfField bytes 4 4)
  offset := UInt64.ofNat (elfField bytes 24 8)
  size := UInt64.ofNat (elfField bytes 32 8)
  link := UInt32.ofNat (elfField bytes 40 4)
  entsize := UInt64.ofNat (elfField bytes 56 8)

/-- The fields of `Elf64_Sym` that are used. -/
structure ElfSymbol where
  name : UInt32
  shndx : UInt16
  value : UInt64
  deriving DecidableEq, Repr

/-- `sizeof(Elf64_Sym)`. -/
def symSize : ℕ := 24

/-- Copy an `Elf64_Sym`. -/
def ElfSymbol.decode (bytes : List UInt8) : ElfSymbol where
  name := UInt32.ofNat (elfField bytes 0 4)
  shndx := UInt16.ofNat (elfField bytes 6 2)
  value := UInt64.ofNat (elfField bytes 8 8)

/-- `PT_LOAD`. -/
def ptLoad : UInt32 := 1

/-- `SHT_SYMTAB`. -/
def shtSymtab : UInt32 := 2

/-- `SHT_STRTAB`. -/
def shtStrtab : UInt32 := 3

/-- `SHT_DYNSYM`. -/
def shtDynsym : UInt32 := 11

/-- `UINT64_MAX`. -/
def noVaddr : UInt64 := 0xFFFFFFFFFFFFFFFF

/-! ## Reading the file -/

/-- A sum of offsets in 64 bits. -/
def addOffset (a b : ℕ) : Except Fault ℕ := if a + b < 2 ^ 64 then .ok (a + b) else .error .truncation

/-- `memcpy(&element, map + table + i * size, size)`. -/
def readElement (file : List UInt8) (table : UInt64) (size i : ℕ) : Except Fault (List UInt8) := do
  let position ← addOffset table.toNat (i * size)
  slice file position size

/-- `checked_table`. -/
def checkedTable (fileSize : ℕ) (offset count : UInt64) (elementSize : ℕ) : Except Fault Bool :=
  if elementSize = 0 ∨ fileSize < offset.toNat then pure false
  else do
    let room ← subtract fileSize offset.toNat
    pure (decide (count.toNat ≤ room / elementSize))

/-- The checks up to the program headers; `none` is `ENOEXEC`. -/
def readHeader (file : List UInt8) : Except Fault (Option ElfHeader) := do
  if file.length < ehdrSize then pure none else
  let magic ← slice file 0 4
  if magic ≠ [0x7F, 0x45, 0x4C, 0x46] then pure none else
  let fileClass ← load file 4
  if fileClass ≠ 2 then pure none else
  let fileData ← load file 5
  if fileData ≠ 1 then pure none else
  let fileVersion ← load file 6
  if fileVersion ≠ 1 then pure none else
  let bytes ← slice file 0 ehdrSize
  let header := ElfHeader.decode bytes
  if header.version ≠ 1 ∨ header.ehsize.toNat ≠ ehdrSize ∨
      (0 < header.phnum ∧ header.phentsize.toNat ≠ phdrSize) ∨
      (0 < header.shnum ∧ header.shentsize.toNat ≠ shdrSize) then pure none else
  let programsInside ← checkedTable file.length header.phoff header.phnum.toUInt64 phdrSize
  if programsInside = false then pure none else
  let sectionsInside ← checkedTable file.length header.shoff header.shnum.toUInt64 shdrSize
  if sectionsInside = false then pure none else
  pure (some header)

/-- The address and the file offset of a segment. -/
structure LoadSegment where
  vaddr : UInt64
  offset : UInt64
  deriving DecidableEq, Repr

/-- One round over the program headers: keep a loaded segment that starts lower. -/
def LoadSegment.lower (best : LoadSegment) (program : ElfProgram) : LoadSegment :=
  if program.type = ptLoad ∧ program.vaddr < best.vaddr then ⟨program.vaddr, program.offset⟩
  else best

/-- Copy the program header of an index. -/
def readProgram (file : List UInt8) (header : ElfHeader) (i : ℕ) : Except Fault ElfProgram := do
  let bytes ← readElement file header.phoff phdrSize i
  pure (ElfProgram.decode bytes)

/-- Copy the section header of an index. -/
def readSection (file : List UInt8) (header : ElfHeader) (i : ℕ) : Except Fault ElfSection := do
  let bytes ← readElement file header.shoff shdrSize i
  pure (ElfSection.decode bytes)

/-- The loop over the program headers: `best_vaddr` and `best_offset`. -/
def findLoad (file : List UInt8) (header : ElfHeader) : Except Fault LoadSegment :=
  forLoop header.phnum.toBitVec (fun i best => do
    let program ← readProgram file header i
    pure (.next (best.lower program))) 0 ⟨noVaddr, 0⟩

/-- A loop over the section headers: the first section of a type. -/
def findSection (file : List UInt8) (header : ElfHeader) (type : UInt32) :
    Except Fault (Option ElfSection) :=
  forLoop header.shnum.toBitVec (fun i _ => do
    let candidate ← readSection file header i
    pure (if decide (candidate.type = type) then .stop (some candidate) else .next none)) 0 none

/-- `symbols_shdr`, from the first loop or else from the second. -/
def findSymbols (file : List UInt8) (header : ElfHeader) : Except Fault (Option ElfSection) := do
  let symtab ← findSection file header shtSymtab
  if symtab.isSome then pure symtab else
  findSection file header shtDynsym

/-- The symbol table and its string table; `none` is `ENOEXEC`. -/
def findTables (file : List UInt8) (header : ElfHeader) :
    Except Fault (Option (ElfSection × ElfSection)) := do
  let found ← findSymbols file header
  match found with
  | none => pure none
  | some symbols =>
    if header.shnum.toNat ≤ symbols.link.toNat ∨ symbols.entsize.toNat ≠ symSize ∨
        symbols.size.toNat % symSize ≠ 0 then pure none else
    let symbolsInside ← checkedTable file.length symbols.offset symbols.size 1
    if symbolsInside = false then pure none else
    let strings ← readSection file header symbols.link.toNat
    if strings.type ≠ shtStrtab then pure none else
    let stringsInside ← checkedTable file.length strings.offset strings.size 1
    if stringsInside = false then pure none else
    pure (some (symbols, strings))

/-! ## Scanning the symbols -/

/-- `memchr(name, '\0', count)`: whether there is a terminator. -/
def findNul (file : List UInt8) : ℕ → ℕ → Except Fault Bool
  | _, 0 => pure false
  | position, count + 1 => do
    let byte ← load file position
    if byte = 0 then pure true else
    findNul file (position + 1) count

/-- `strcmp(name, expected) == 0`, with the bytes of `expected` before its terminator. -/
def compareName (file : List UInt8) : ℕ → List UInt8 → Except Fault Bool
  | position, [] => do
    let byte ← load file position
    pure (decide (byte = 0))
  | position, wanted :: rest => do
    let byte ← load file position
    if byte = wanted then compareName file (position + 1) rest else
    pure false

/-- An upper-case hexadecimal digit. -/
def upperDigit (digit : ℕ) : UInt8 := UInt8.ofNat (if digit < 10 then 48 + digit else 55 + digit)

/-- The text of `"%03X"`. -/
def hexText (number : UInt16) : List UInt8 :=
  let n := number.toNat
  (if 0x1000 ≤ n then [upperDigit (n / 0x1000)] else []) ++
    [upperDigit (n / 0x100 % 16), upperDigit (n / 0x10 % 16), upperDigit (n % 16)]

/-- The text of `"MMI_Rx_%03X"`. -/
def expectedName (canId : UInt16) : List UInt8 :=
  [0x4D, 0x4D, 0x49, 0x5F, 0x52, 0x78, 0x5F] ++ hexText canId

/-- `values` and `found`. -/
structure SymbolScan (frameCount : ℕ) where
  values : Fin frameCount → UInt64
  found : ℕ

/-- The loop over the frames for one symbol. -/
def matchFrame {frameCount : ℕ} (canIds : Fin frameCount → UInt16) (file : List UInt8)
    (name : ℕ) (value : UInt64) (scan : SymbolScan frameCount) :
    List (Fin frameCount) → Except Fault (SymbolScan frameCount)
  | [] => pure scan
  | frame :: rest =>
    if scan.values frame = 0 then do
      let same ← compareName file name (expectedName (canIds frame))
      if same then pure ⟨Function.update scan.values frame value, scan.found + 1⟩ else
      matchFrame canIds file name value scan rest
    else matchFrame canIds file name value scan rest

/-- The loop body for a symbol that has been copied. -/
def addSymbol {frameCount : ℕ} (canIds : Fin frameCount → UInt16) (file : List UInt8)
    (strings : ElfSection) (symbol : ElfSymbol) (scan : SymbolScan frameCount) :
    Except Fault (SymbolScan frameCount) := do
  if symbol.shndx = 0 ∨ strings.size.toNat ≤ symbol.name.toNat then pure scan else
  let name ← addOffset strings.offset.toNat symbol.name.toNat
  let count ← subtract strings.size.toNat symbol.name.toNat
  let terminated ← findNul file name count
  if terminated = false then pure scan else
  matchFrame canIds file name symbol.value scan (List.finRange frameCount)

/-- One round over the symbols; `found` is part of the condition of the loop. -/
def scanSymbol {frameCount : ℕ} (canIds : Fin frameCount → UInt16) (file : List UInt8)
    (symbols strings : ElfSection) (i : ℕ) (scan : SymbolScan frameCount) :
    Except Fault (Round (SymbolScan frameCount)) := do
  if frameCount ≤ scan.found then pure (.stop scan) else
  let bytes ← readElement file symbols.offset symSize i
  let scan ← addSymbol canIds file strings (ElfSymbol.decode bytes) scan
  pure (.next scan)

/-- A file that is mapped. Its size is an `off_t`. -/
structure MappedFile where
  bytes : List UInt8
  size_lt : bytes.length < 2 ^ 63

/-- What the caller passes to be filled. -/
structure Resolution (frameCount : ℕ) where
  values : Fin frameCount → UInt64
  load : LoadSegment

/-- Why a call returns -1: opening, sizing or mapping the file failed, or `errno` is `ENOEXEC`. -/
inductive ResolveFailure
  | system
  | noexec
  deriving DecidableEq, Repr

/-- `roadcast_vhal_resolve_symbols` on a mapped file, or on none; no failure is the return value 0.
`values` are cleared and filled in place, after the last check. -/
def resolveSymbols {frameCount : ℕ} (canIds : Fin frameCount → UInt16)
    (mapped : Option MappedFile) (out : Resolution frameCount) :
    Except Fault (Option ResolveFailure × Resolution frameCount) := do
  match mapped with
  | none => pure (some .system, out)
  | some ⟨file, _⟩ =>
    if file.length = 0 then pure (some .system, out) else
    let header ← readHeader file
    match header with
    | none => pure (some .noexec, out)
    | some header =>
      let best ← findLoad file header
      if best.vaddr = noVaddr then pure (some .noexec, out) else
      let tables ← findTables file header
      match tables with
      | none => pure (some .noexec, out)
      | some (symbols, strings) =>
        let count := symbols.size / UInt64.ofNat symSize
        let scan ← forLoop count.toBitVec (scanSymbol canIds file symbols strings) 0
          ⟨fun _ => 0, 0⟩
        pure (none, ⟨scan.values, best⟩)

end Roadcast
