import Roadcast.Catalog.Tables
import Roadcast.Lib.Guards
import Mathlib.Algebra.Ring.Int.Defs
import Mathlib.Data.String.Basic

/-!
# The document of the catalog generator

`data/dbc.json` as `generate-catalog.py` reads it, and the checks that `main` makes before it emits
anything. Part fields and widths are integers, CAN IDs, names and units are texts, and the two
conversion factors are the bit patterns of their `float`. A failed check raises an exception with the
text of its `Rejection`.

How Python reads `int(text, 16)` is a parameter: on hexadecimal digits with any blanks behind them it
is the number of the digits, and everything else that it accepts (a sign, blanks in front, underscores,
a second `0x`, digits and blanks of other scripts) is left open.
-/

namespace Roadcast

open Guards

/-- The bytes of `text.encode("utf-8")`. -/
def utf8 (text : String) : List UInt8 := text.toUTF8.data.toList

/-- A hexadecimal digit, in either letter case. -/
def IsHexDigit (c : Char) : Prop := ('0' ≤ c ∧ c ≤ '9') ∨ ('A' ≤ c ∧ c ≤ 'F') ∨ ('a' ≤ c ∧ c ≤ 'f')

instance (c : Char) : Decidable (IsHexDigit c) := inferInstanceAs (Decidable (_ ∨ _))

/-- Hexadecimal digits only. -/
def HexDigits (digits : List Char) : Prop := ∀ c ∈ digits, IsHexDigit c

instance (digits : List Char) : Decidable (HexDigits digits) := List.decidableBAll IsHexDigit digits

/-- The value of a hexadecimal digit. -/
def hexDigit (c : Char) : ℕ :=
  if c ≤ '9' then c.toNat - 48 else if c ≤ 'F' then c.toNat - 55 else c.toNat - 87

/-- The number with the given hexadecimal digits, most significant first. -/
def hexValue (digits : List Char) : ℕ :=
  digits.foldl (fun number c => 16 * number + hexDigit c) 0

/-- A character that `int` skips behind a number and that separates the tokens of C. -/
def IsBlank (c : Char) : Prop := c ∈ [' ', '\t', '\n', '\r', '\x0b', '\x0c']

instance (c : Char) : Decidable (IsBlank c) := inferInstanceAs (Decidable (c ∈ _))

/-- The hexadecimal digits in front of a text. -/
def leadingDigits (text : String) : List Char := text.toList.takeWhile fun c => IsHexDigit c

/-- The text is hexadecimal digits, and then blanks only. -/
def Spells (text : String) : Prop :=
  leadingDigits text ≠ [] ∧ ∀ c ∈ text.toList.dropWhile fun c => IsHexDigit c, IsBlank c

instance (text : String) : Decidable (Spells text) :=
  @instDecidableAnd _ _ inferInstance (List.decidableBAll IsBlank _)

/-- The number that hexadecimal digits stand for, whatever blanks follow them. -/
def hexNumber (text : String) : Option ℕ :=
  if Spells text then some (hexValue (leadingDigits text)) else none

/-- `int(text, 16)`; `none` where Python raises `ValueError`. -/
structure HexReader where
  read : String → Option ℤ
  read_hex : ∀ text number, hexNumber text = some number → read text = some (number : ℤ)

/-- One element of `signal["parts"]`. -/
@[ext] structure DbcPart where
  word : ℤ
  off : ℤ
  bits : ℤ
  deriving DecidableEq, Repr

/-- One element of `document["signals"]`. -/
structure DbcSignal where
  canid : String
  name : String
  unit : String
  parts : List DbcPart
  width : ℤ
  signed : Bool
  calibrated : Bool
  scale : UInt64
  offset : UInt64
  invalidFlag : Option String
  deriving DecidableEq, Repr

/-- The parsed document. -/
structure DbcDocument where
  frames : List String
  signals : List DbcSignal
  deriving DecidableEq, Repr

/-- The key `(signal["canid"], signal["name"])`. -/
def DbcSignal.identity (signal : DbcSignal) : String × String := (signal.canid, signal.name)

/-- `math.isfinite` of a `float`. -/
def isFinite (bits : UInt64) : Prop := (bits >>> 52) &&& 0x7FF ≠ 0x7FF

instance (bits : UInt64) : Decidable (isFinite bits) := inferInstanceAs (Decidable (_ ≠ _))

/-- What `main` can find wrong with a signal. -/
inductive SignalProblem
  | unknownFrame | nameLength | unitLength | width | noParts | partsWidth | partWord | partWidth
  | partOffset | partEnd | nonFinite | unknownFlag
  deriving DecidableEq, Repr

/-- The text in front of the identity of the signal. -/
def SignalProblem.text : SignalProblem → String
  | unknownFrame => "unknown frame for signal"
  | nameLength => "invalid signal name length"
  | unitLength => "invalid signal unit length"
  | width => "invalid signal width"
  | noParts => "signal has no parts"
  | partsWidth => "parts do not match signal width"
  | partWord => "invalid part word"
  | partWidth => "invalid part width"
  | partOffset => "invalid part offset"
  | partEnd => "part exceeds 32-bit word"
  | nonFinite => "non-finite conversion"
  | unknownFlag => "unknown invalid flag"

/-- Why `main` raises an exception: its own checks, `int` on a text that is no number, or `to_bytes`
and `bytes` on a number that does not fit. -/
inductive Rejection
  | duplicateFrame
  | unsortedFrames
  | invalidFrame (canId : String)
  | duplicateIdentity
  | signal (problem : SignalProblem) (identity : String × String)
  | stableIdCollision
  | noNumber (text : String)
  | negative
  | overflow
  | byteRange
  deriving DecidableEq, Repr

/-- The text of the exception, up to the quoting of texts and identities. -/
def Rejection.text : Rejection → String
  | duplicateFrame => "duplicate CAN frame ID"
  | unsortedFrames => "CAN frame IDs must be sorted"
  | invalidFrame canId => "invalid standard CAN frame ID: " ++ canId
  | duplicateIdentity => "duplicate signal identity"
  | signal problem identity => problem.text ++ ": (" ++ identity.1 ++ ", " ++ identity.2 ++ ")"
  | stableIdCollision => "stable ID collision in generated catalog"
  | noNumber text => "invalid literal for int() with base 16: " ++ text
  | negative => "can't convert negative int to unsigned"
  | overflow => "int too big to convert"
  | byteRange => "bytes must be in range(0, 256)"

/-- `int(text, 16)` in a program that does not catch its exception. -/
def HexReader.number (reader : HexReader) (text : String) : Except Rejection ℤ :=
  match reader.read text with
  | none => .error (.noNumber text)
  | some number => .ok number

/-- The loop body over `frames`. -/
def checkFrame (reader : HexReader) (canId : String) : Except Rejection Unit := do
  require (canId.length = 3) (.invalidFrame canId)
  let number ← reader.number canId
  require (number ≤ 0x7FF) (.invalidFrame canId)

/-- The loop body over the parts of a signal. -/
def checkPart (identity : String × String) (part : DbcPart) : Except Rejection Unit := do
  require (part.word = 0 ∨ part.word = 4) (.signal .partWord identity)
  require (1 ≤ part.bits ∧ part.bits ≤ 32) (.signal .partWidth identity)
  require (0 ≤ part.off ∧ part.off < 32) (.signal .partOffset identity)
  require (part.off + part.bits ≤ 32) (.signal .partEnd identity)

/-- `signal.get("invalid_flag")` names a signal, unless it is missing or empty. -/
def DbcSignal.flagKnown (signal : DbcSignal) (identities : List (String × String)) : Prop :=
  ∀ flag ∈ signal.invalidFlag, flag ≠ "" → (signal.canid, flag) ∈ identities

instance (signal : DbcSignal) (identities : List (String × String)) :
    Decidable (signal.flagKnown identities) :=
  match hflag : signal.invalidFlag with
  | none => isTrue (by simp [DbcSignal.flagKnown, hflag])
  | some flag => decidable_of_iff (flag ≠ "" → (signal.canid, flag) ∈ identities)
      (by simp [DbcSignal.flagKnown, hflag])

/-- The loop body over `signals`. -/
def checkSignal (frames : List String) (identities : List (String × String)) (signal : DbcSignal) :
    Except Rejection Unit := do
  let identity := signal.identity
  require (signal.canid ∈ frames) (.signal .unknownFrame identity)
  require (signal.name ≠ "" ∧ (utf8 signal.name).length ≤ 63) (.signal .nameLength identity)
  require ((utf8 signal.unit).length ≤ 15) (.signal .unitLength identity)
  require (1 ≤ signal.width ∧ signal.width ≤ 64) (.signal .width identity)
  require (signal.parts ≠ []) (.signal .noParts identity)
  require ((signal.parts.map DbcPart.bits).sum = signal.width) (.signal .partsWidth identity)
  signal.parts.forM (checkPart identity)
  require (isFinite signal.scale ∧ isFinite signal.offset) (.signal .nonFinite identity)
  require (signal.flagKnown identities) (.signal .unknownFlag identity)

/-- The checks of `main`. -/
def checkDocument (reader : HexReader) (document : DbcDocument) : Except Rejection Unit := do
  require document.frames.Nodup .duplicateFrame
  require (document.frames = document.frames.mergeSort) .unsortedFrames
  document.frames.forM (checkFrame reader)
  let identities := document.signals.map DbcSignal.identity
  require identities.Nodup .duplicateIdentity
  document.signals.forM (checkSignal document.frames identities)

/-! ## What an accepted document satisfies -/

/-- A part inside one of the two words. -/
structure DbcPart.Valid (part : DbcPart) : Prop where
  word : part.word = 0 ∨ part.word = 4
  bits : 1 ≤ part.bits ∧ part.bits ≤ 32
  off : 0 ≤ part.off ∧ part.off < 32
  inside : part.off + part.bits ≤ 32

/-- A signal that passes its checks. -/
structure DbcSignal.Valid (frames : List String) (identities : List (String × String))
    (signal : DbcSignal) : Prop where
  frame : signal.canid ∈ frames
  name : signal.name ≠ "" ∧ (utf8 signal.name).length ≤ 63
  unit : (utf8 signal.unit).length ≤ 15
  width : 1 ≤ signal.width ∧ signal.width ≤ 64
  parts_ne : signal.parts ≠ []
  parts_sum : (signal.parts.map DbcPart.bits).sum = signal.width
  parts : ∀ part ∈ signal.parts, part.Valid
  finite : isFinite signal.scale ∧ isFinite signal.offset
  flag : signal.flagKnown identities

/-- A frame ID that passes its check: three characters, and a number of eleven bits. -/
def ValidFrame (reader : HexReader) (canId : String) : Prop :=
  canId.length = 3 ∧ ∃ number ∈ reader.read canId, number ≤ 0x7FF

/-- A document that passes the checks of `main`. -/
structure DbcDocument.Valid (reader : HexReader) (document : DbcDocument) : Prop where
  frames_nodup : document.frames.Nodup
  frames_sorted : document.frames = document.frames.mergeSort
  frames : ∀ canId ∈ document.frames, ValidFrame reader canId
  identities_nodup : (document.signals.map DbcSignal.identity).Nodup
  signals : ∀ signal ∈ document.signals,
    signal.Valid document.frames (document.signals.map DbcSignal.identity)

/-- `int` returns what it reads. -/
theorem HexReader.number_ok {reader : HexReader} {text : String} {number : ℤ} :
    reader.number text = .ok number ↔ reader.read text = some number := by
  unfold HexReader.number
  cases reader.read text with
  | none => exact iff_of_false nofun nofun
  | some found => rw [Except.ok.injEq, Option.some.injEq]

/-- `int` returns the number of hexadecimal digits. -/
theorem HexReader.number_of_hex (reader : HexReader) {text : String} {number : ℕ}
    (h : hexNumber text = some number) : reader.number text = .ok (number : ℤ) :=
  number_ok.mpr (reader.read_hex text number h)

/-- A reader that accepts nothing else. -/
def plainReader : HexReader where
  read text := (hexNumber text).map Int.ofNat
  read_hex text number h := by rw [h, Option.map_some, Int.ofNat_eq_natCast]

/-- The checks of a frame pass for valid frames, and for no others. -/
theorem checkFrame_ok {reader : HexReader} {canId : String} :
    checkFrame reader canId = .ok () ↔ ValidFrame reader canId := by
  rw [checkFrame, check_bind_ok, require_ok, bind_ok]
  simp only [require_ok, HexReader.number_ok]
  rfl

/-- The checks of a part pass for valid parts, and for no others. -/
theorem checkPart_ok {identity : String × String} {part : DbcPart} :
    checkPart identity part = .ok () ↔ part.Valid := by
  simp only [checkPart, check_bind_ok, require_ok]
  exact ⟨fun ⟨hword, hbits, hoff, hinside⟩ => ⟨hword, hbits, hoff, hinside⟩,
    fun h => ⟨h.word, h.bits, h.off, h.inside⟩⟩

/-- The checks of a signal pass for valid signals, and for no others. -/
theorem checkSignal_ok {frames : List String} {identities : List (String × String)}
    {signal : DbcSignal} :
    checkSignal frames identities signal = .ok () ↔ signal.Valid frames identities := by
  simp only [checkSignal, check_bind_ok, require_ok, forM_ok, checkPart_ok]
  exact ⟨fun ⟨hframe, hname, hunit, hwidth, hne, hsum, hparts, hfinite, hflag⟩ =>
      ⟨hframe, hname, hunit, hwidth, hne, hsum, hparts, hfinite, hflag⟩,
    fun h => ⟨h.frame, h.name, h.unit, h.width, h.parts_ne, h.parts_sum, h.parts, h.finite, h.flag⟩⟩

/-- The checks accept exactly the valid documents. -/
theorem checkDocument_ok {reader : HexReader} {document : DbcDocument} :
    checkDocument reader document = .ok () ↔ document.Valid reader := by
  simp only [checkDocument, check_bind_ok, require_ok, forM_ok, checkFrame_ok, checkSignal_ok]
  exact ⟨fun ⟨hnodup, hsorted, hframes, hidentities, hsignals⟩ =>
      ⟨hnodup, hsorted, hframes, hidentities, hsignals⟩,
    fun h => ⟨h.frames_nodup, h.frames_sorted, h.frames, h.identities_nodup, h.signals⟩⟩

end Roadcast
