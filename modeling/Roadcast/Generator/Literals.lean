import Roadcast.Generator.Spelling

/-!
# Literals of the generated C files

`c_string` of `generate-catalog.py` writes a text as JSON does, in ASCII, and the C compiler reads it
as a string literal. The two languages share only some of their escapes: C has no universal character
name below `U+00A0` or for a surrogate, and the build refuses trigraphs (`-Wall -Werror` under
`-std=c11`). A literal that compiles stands for the UTF-8 bytes of the text.

Other escapes of C (`\x`, octal digits, `\U`) are never written and not read here.
-/

namespace Roadcast

/-! ## What the generator writes -/

/-- The four lower-case digits of a UTF-16 code unit. -/
def unitDigits (unit : ℕ) : List Char :=
  [Nat.digitChar (unit / 4096 % 16), Nat.digitChar (unit / 256 % 16),
    Nat.digitChar (unit / 16 % 16), Nat.digitChar (unit % 16)]

/-- The escape of a UTF-16 code unit. -/
def unitEscape (unit : ℕ) : List Char := '\\' :: 'u' :: unitDigits unit

/-- One character of `json.dumps(value, ensure_ascii=True)`. -/
def jsonCharacter (c : Char) : List Char :=
  if c = '"' then ['\\', '"']
  else if c = '\\' then ['\\', '\\']
  else if c = '\x08' then ['\\', 'b']
  else if c = '\x0c' then ['\\', 'f']
  else if c = '\n' then ['\\', 'n']
  else if c = '\r' then ['\\', 'r']
  else if c = '\t' then ['\\', 't']
  else if ' ' ≤ c ∧ c ≤ '~' then [c]
  else if c.toNat < 0x10000 then unitEscape c.toNat
  else unitEscape (0xD800 + (c.toNat - 0x10000) / 0x400) ++
    unitEscape (0xDC00 + (c.toNat - 0x10000) % 0x400)

/-- `c_string`. -/
def cString (text : String) : String :=
  String.ofList ('"' :: (text.toList.flatMap jsonCharacter ++ ['"']))

/-! ## What the compiler reads -/

/-- The value of a hexadecimal constant, or the text that the compiler refuses. -/
def hexConstant (literal : String) : Except String ℕ :=
  match literal.toList with
  | '0' :: 'x' :: digits => (hexNumber (String.ofList digits)).elim (.error literal) .ok
  | _ => .error literal

/-- A sequence of characters that is replaced before anything else is read. -/
def HasTrigraph (literal : List Char) : Prop :=
  ∃ c ∈ ['=', '/', '\'', '(', ')', '!', '<', '>', '-'], ['?', '?', c] <:+: literal

instance (literal : List Char) : Decidable (HasTrigraph literal) :=
  @List.decidableBEx _ _ (fun _ => List.instDecidableIsInfixOfDecidableEq _ _) _

/-- The bytes of a character that stands for itself. -/
def basicCharacter (c : Char) : Option (List UInt8) :=
  if ' ' ≤ c ∧ c ≤ '~' ∧ c ≠ '"' ∧ c ≠ '\\' then some [UInt8.ofNat c.toNat] else none

/-- The byte of a simple escape. -/
def simpleEscape : Char → Option (List UInt8)
  | '\'' => some [39]
  | '"' => some [34]
  | '?' => some [63]
  | '\\' => some [92]
  | 'a' => some [7]
  | 'b' => some [8]
  | 'f' => some [12]
  | 'n' => some [10]
  | 'r' => some [13]
  | 't' => some [9]
  | 'v' => some [11]
  | _ => none

/-- The code points that a universal character name may have. -/
def IsUniversal (code : ℕ) : Prop :=
  (0xA0 ≤ code ∨ code = 0x24 ∨ code = 0x40 ∨ code = 0x60) ∧ ¬(0xD800 ≤ code ∧ code ≤ 0xDFFF)

instance (code : ℕ) : Decidable (IsUniversal code) := inferInstanceAs (Decidable (_ ∧ _))

/-- The bytes of a universal character name. -/
def universalCharacter (digits : List Char) : Option (List UInt8) :=
  if HexDigits digits ∧ IsUniversal (hexValue digits) then
    some (String.utf8EncodeChar (Char.ofNat (hexValue digits)))
  else none

/-- The bytes of a string literal behind its opening quote. -/
def literalBytes : List Char → Option (List UInt8)
  | [] => none
  | ['"'] => some []
  | '\\' :: 'u' :: a :: b :: c :: d :: rest =>
    (universalCharacter [a, b, c, d]).bind fun character =>
      (literalBytes rest).map (character ++ ·)
  | '\\' :: c :: rest => (simpleEscape c).bind fun character =>
      (literalBytes rest).map (character ++ ·)
  | c :: rest => (basicCharacter c).bind fun character =>
      (literalBytes rest).map (character ++ ·)

/-- The bytes of a string literal without its terminator, or the text that the compiler refuses. -/
def stringConstant (literal : String) : Except String (List UInt8) :=
  if HasTrigraph literal.toList then .error literal
  else
    match literal.toList with
    | '"' :: rest => (literalBytes rest).elim (.error literal) .ok
    | _ => .error literal

/-- The value of a conversion factor in the table. It is written with 17 significant digits, which
identify it, but negative zero is written as the integer `-0`. -/
def doubleConstant (bits : UInt64) : UInt64 := if bits = 0x8000000000000000 then 0 else bits

/-! ## Hexadecimal constants -/

/-- The constant of a CAN ID is its number, if it has one. -/
theorem hexConstant_ok (canId : String) {number : ℕ} :
    hexConstant ("0x" ++ canId) = .ok number ↔ hexNumber canId = some number := by
  have hdigits : ("0x" ++ canId).toList = '0' :: 'x' :: canId.toList := by
    rw [String.toList_append]
    rfl
  rw [hexConstant, hdigits]
  simp only [String.ofList_toList]
  cases hexNumber canId with
  | none => exact iff_of_false nofun nofun
  | some found => rw [Option.elim_some, Except.ok.injEq, Option.some.injEq]

/-! ## String literals -/

/-- A character whose JSON escape is read by C. -/
def IsPortable (c : Char) : Prop :=
  (' ' ≤ c ∧ c ≤ '~') ∨ c ∈ ['\x08', '\x0c', '\n', '\r', '\t'] ∨ (0xA0 ≤ c.toNat ∧ c.toNat < 0x10000)

instance (c : Char) : Decidable (IsPortable c) := inferInstanceAs (Decidable (_ ∨ _))

/-- A text whose literal is read by C. -/
def Portable (text : String) : Prop :=
  ¬HasTrigraph (cString text).toList ∧ ∀ c ∈ text.toList, IsPortable c

instance (text : String) : Decidable (Portable text) :=
  @instDecidableAnd _ _ inferInstance (List.decidableBAll IsPortable _)

/-- The digits of a code unit spell it. -/
theorem unitDigits_value {unit : ℕ} (h : unit < 0x10000) :
    HexDigits (unitDigits unit) ∧ hexValue (unitDigits unit) = unit := by
  have hdigit : ∀ digit < 16, IsHexDigit (Nat.digitChar digit) ∧
      hexDigit (Nat.digitChar digit) = digit := by decide
  have hlt (n : ℕ) : n % 16 < 16 := Nat.mod_lt n (by decide)
  constructor
  · intro c hc
    simp only [unitDigits, List.mem_cons, List.not_mem_nil, or_false] at hc
    rcases hc with rfl | rfl | rfl | rfl <;> exact (hdigit _ (hlt _)).1
  · simp only [hexValue, unitDigits, List.foldl_cons, List.foldl_nil, (hdigit _ (hlt _)).2]
    omega

/-- A universal character name in front of the rest of a literal. -/
theorem literalBytes_unitEscape {unit : ℕ} (h : unit < 0x10000) (rest : List Char) :
    literalBytes (unitEscape unit ++ rest) =
      if IsUniversal unit then
        (literalBytes rest).map (String.utf8EncodeChar (Char.ofNat unit) ++ ·)
      else none := by
  obtain ⟨hdigits, hvalue⟩ := unitDigits_value h
  have hread : literalBytes (unitEscape unit ++ rest) =
      (universalCharacter (unitDigits unit)).bind fun character =>
        (literalBytes rest).map (character ++ ·) := rfl
  rw [hread, universalCharacter, hvalue]
  by_cases huniversal : IsUniversal unit
  · rw [if_pos ⟨hdigits, huniversal⟩, if_pos huniversal, Option.bind_some]
  · rw [if_neg fun hboth => huniversal hboth.2, if_neg huniversal, Option.bind_none]

/-- An ASCII character is one byte. -/
theorem utf8EncodeChar_ascii {c : Char} (h : c ≤ '~') :
    String.utf8EncodeChar c = [UInt8.ofNat c.toNat] := by
  have hle : c.val.toNat ≤ 127 := (char_le_iff.mp h).trans (by decide)
  rw [String.utf8EncodeChar]
  exact if_pos hle

/-- A plain character in front of the rest of a literal. -/
theorem literalBytes_basic {c : Char} (hc : ' ' ≤ c ∧ c ≤ '~' ∧ c ≠ '"' ∧ c ≠ '\\')
    (rest : List Char) :
    literalBytes (c :: rest) = (literalBytes rest).map (String.utf8EncodeChar c ++ ·) := by
  have hread : literalBytes (c :: rest) =
      (basicCharacter c).bind fun character => (literalBytes rest).map (character ++ ·) := by
    apply literalBytes.eq_5
    · rintro rfl
      exact absurd rfl hc.2.2.1
    · rintro _ _ _ _ _ rfl
      exact absurd rfl hc.2.2.2
    · rintro _ _ rfl
      exact absurd rfl hc.2.2.2
  rw [hread, basicCharacter, if_pos hc, Option.bind_some, utf8EncodeChar_ascii hc.2.1]

/-- The characters that have an escape of their own in both languages. -/
def shortEscaped : List Char := ['"', '\\', '\x08', '\x0c', '\n', '\r', '\t']

/-- What is written for every other character. -/
theorem jsonCharacter_of_not_short {c : Char} (h : c ∉ shortEscaped) :
    jsonCharacter c =
      if ' ' ≤ c ∧ c ≤ '~' then [c]
      else if c.toNat < 0x10000 then unitEscape c.toNat
      else unitEscape (0xD800 + (c.toNat - 0x10000) / 0x400) ++
        unitEscape (0xDC00 + (c.toNat - 0x10000) % 0x400) := by
  simp only [shortEscaped, List.mem_cons, List.not_mem_nil, or_false, not_or] at h
  obtain ⟨hquote, hbackslash, hbackspace, hfeed, hnewline, hreturn, htab⟩ := h
  rw [jsonCharacter, if_neg hquote, if_neg hbackslash, if_neg hbackspace, if_neg hfeed,
    if_neg hnewline, if_neg hreturn, if_neg htab]

/-- What is written for one character, in front of the rest of a literal. -/
theorem literalBytes_jsonCharacter (c : Char) (rest : List Char) :
    literalBytes (jsonCharacter c ++ rest) =
      if IsPortable c then (literalBytes rest).map (String.utf8EncodeChar c ++ ·) else none := by
  by_cases hshort : c ∈ shortEscaped
  · simp only [shortEscaped, List.mem_cons, List.not_mem_nil, or_false] at hshort
    rcases hshort with rfl | rfl | rfl | rfl | rfl | rfl | rfl <;>
      exact (if_pos (by decide)).symm
  · rw [jsonCharacter_of_not_short hshort]
    by_cases hplain : ' ' ≤ c ∧ c ≤ '~'
    · have hbasic : c ≠ '"' ∧ c ≠ '\\' :=
        ⟨fun heq => hshort (heq ▸ by decide), fun heq => hshort (heq ▸ by decide)⟩
      have hportable : IsPortable c := Or.inl hplain
      rw [if_pos hplain, if_pos hportable]
      exact literalBytes_basic ⟨hplain.1, hplain.2, hbasic⟩ rest
    · have hcontrol : c ∉ ['\x08', '\x0c', '\n', '\r', '\t'] :=
        fun hmem => hshort (List.mem_cons_of_mem _ (List.mem_cons_of_mem _ hmem))
      have hportable : IsPortable c ↔ 0xA0 ≤ c.toNat ∧ c.toNat < 0x10000 := by
        rw [IsPortable, or_iff_right hplain, or_iff_right hcontrol]
      have hvalid : c.toNat < 0xD800 ∨ (0xDFFF < c.toNat ∧ c.toNat < 0x110000) := c.valid
      simp only [hportable]
      rw [if_neg hplain]
      by_cases hpair : c.toNat < 0x10000
      · have huniversal : IsUniversal c.toNat ↔ 0xA0 ≤ c.toNat ∧ c.toNat < 0x10000 := by
          have hascii : ¬(32 ≤ c.toNat ∧ c.toNat ≤ 126) := hplain
          rw [IsUniversal]
          omega
        rw [if_pos hpair, literalBytes_unitEscape hpair, Char.ofNat_toNat]
        simp only [huniversal]
      · -- C refuses the first half of a surrogate pair
        have hhigh : ¬IsUniversal (0xD800 + (c.toNat - 0x10000) / 0x400) := by
          rw [IsUniversal]
          omega
        rw [if_neg hpair, List.append_assoc, literalBytes_unitEscape (by omega), if_neg hhigh,
          if_neg fun hboth => hpair hboth.2]

/-- A text behind the opening quote. -/
theorem literalBytes_ok {text : List Char} {bytes : List UInt8} :
    literalBytes (text.flatMap jsonCharacter ++ ['"']) = some bytes ↔
      (∀ c ∈ text, IsPortable c) ∧ text.flatMap String.utf8EncodeChar = bytes := by
  induction text generalizing bytes with
  | nil =>
    rw [List.flatMap_nil, List.flatMap_nil]
    exact ⟨fun h => ⟨nofun, Option.some.inj h⟩, fun h => congrArg some h.2⟩
  | cons c text ih =>
    rw [List.flatMap_cons, List.flatMap_cons, List.append_assoc, literalBytes_jsonCharacter,
      List.forall_mem_cons]
    split_ifs with hportable
    · simp only [Option.map_eq_some_iff, ih, hportable, true_and]
      constructor
      · rintro ⟨later, ⟨hlater, rfl⟩, rfl⟩
        exact ⟨hlater, rfl⟩
      · rintro ⟨hlater, rfl⟩
        exact ⟨_, ⟨hlater, rfl⟩, rfl⟩
    · exact iff_of_false nofun fun h => hportable h.1.1

/-- The bytes of a text, character by character. -/
theorem utf8_eq_flatMap (text : String) : utf8 text = text.toList.flatMap String.utf8EncodeChar := by
  have hbytes : text.toUTF8 = text.toList.utf8Encode := by
    rw [← String.toByteArray_ofList, String.ofList_toList]
    rfl
  rw [utf8, hbytes, List.utf8Encode, List.data_toByteArray]

/-- A literal compiles exactly if its text is portable, and then to the bytes of the text. -/
theorem stringConstant_cString {text : String} {bytes : List UInt8} :
    stringConstant (cString text) = .ok bytes ↔ Portable text ∧ utf8 text = bytes := by
  have hliteral : (cString text).toList = '"' :: (text.toList.flatMap jsonCharacter ++ ['"']) :=
    String.toList_ofList
  rw [stringConstant, Portable, utf8_eq_flatMap, and_assoc, ← literalBytes_ok]
  split_ifs with htrigraph
  · exact iff_of_false nofun fun h => h.1 htrigraph
  · rw [and_iff_right htrigraph, hliteral]
    simp only
    cases literalBytes (text.toList.flatMap jsonCharacter ++ ['"']) with
    | none => exact iff_of_false nofun nofun
    | some found => exact ⟨fun h => congrArg some (Except.ok.inj h),
        fun h => congrArg Except.ok (Option.some.inj h)⟩

end Roadcast
