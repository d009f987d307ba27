import Roadcast.Generator.Document
import Mathlib.Data.List.Perm.Subperm
import Mathlib.Data.List.ProdSigma
import Mathlib.Data.List.TakeWhile
import Mathlib.Tactic.Ring

/-!
# Spellings of CAN IDs

The order of texts and the order of the numbers that they spell. Written in upper case, digits of the
same length are ordered as their numbers are; a text with blanks behind its digits has to be padded
with zeros in front first. There are `8 * 22 * 22 + 22 * 22 * 6 + 22 * 6 * 6` texts of three characters
that spell a number of eleven bits.
-/

namespace Roadcast

/-- An upper-case hexadecimal digit. -/
def IsUpperDigit (c : Char) : Prop := ('0' ≤ c ∧ c ≤ '9') ∨ ('A' ≤ c ∧ c ≤ 'F')

instance (c : Char) : Decidable (IsUpperDigit c) := inferInstanceAs (Decidable (_ ∨ _))

/-- Characters are ordered by their code points. -/
theorem char_le_iff {c d : Char} : c ≤ d ↔ c.toNat ≤ d.toNat := Iff.rfl

/-- The strict form of `char_le_iff`. -/
theorem char_lt_iff {c d : Char} : c < d ↔ c.toNat < d.toNat := Iff.rfl

/-- An upper-case digit is a digit. -/
theorem IsUpperDigit.isHexDigit {c : Char} (h : IsUpperDigit c) : IsHexDigit c := h.imp_right Or.inl

/-- Digits are ASCII characters. -/
theorem IsHexDigit.toNat_lt {c : Char} (h : IsHexDigit c) : c.toNat < 128 := by
  simp only [IsHexDigit, char_le_iff, Char.reduceToNat] at h
  omega

/-- The upper-case form of a digit has the same value. -/
theorem IsHexDigit.toUpper {c : Char} (h : IsHexDigit c) :
    IsUpperDigit c.toUpper ∧ hexDigit c.toUpper = hexDigit c := by
  have hascii : ∀ n < 128, IsHexDigit (Char.ofNat n) → IsUpperDigit (Char.ofNat n).toUpper ∧
      hexDigit (Char.ofNat n).toUpper = hexDigit (Char.ofNat n) := by decide
  have hupper := hascii c.toNat h.toNat_lt
  rw [Char.ofNat_toNat] at hupper
  exact hupper h

/-- A digit counts for less than sixteen. -/
theorem IsHexDigit.hexDigit_lt {c : Char} (h : IsHexDigit c) : hexDigit c < 16 := by
  simp only [IsHexDigit, char_le_iff, Char.reduceToNat] at h
  simp only [hexDigit, char_le_iff, Char.reduceToNat]
  split_ifs <;> omega

/-- Upper-case digits are ordered as their characters are. -/
theorem IsUpperDigit.hexDigit_lt_hexDigit {c d : Char} (hc : IsUpperDigit c) (hd : IsUpperDigit d)
    (h : c < d) : hexDigit c < hexDigit d := by
  rw [char_lt_iff] at h
  simp only [IsUpperDigit, char_le_iff, Char.reduceToNat] at hc hd
  simp only [hexDigit, char_le_iff, Char.reduceToNat]
  split_ifs <;> omega

/-- A digit in front counts for as many places as follow it. -/
theorem hexValue_cons (c : Char) (digits : List Char) :
    hexValue (c :: digits) = hexDigit c * 16 ^ digits.length + hexValue digits := by
  have hfold : ∀ start, digits.foldl (fun number c => 16 * number + hexDigit c) start =
      start * 16 ^ digits.length + hexValue digits := by
    induction digits with
    | nil => intro start; simp [hexValue]
    | cons d digits ih =>
      intro start
      rw [hexValue, List.foldl_cons, List.foldl_cons, ih, ih, List.length_cons, Nat.pow_succ]
      ring
  rw [hexValue, List.foldl_cons, hfold, Nat.mul_zero, Nat.zero_add]

/-- The places after a digit do not reach the next larger digit. -/
theorem mul_add_lt_mul {a b size rest : ℕ} (hlt : a < b) (hrest : rest < size) :
    a * size + rest < b * size :=
  calc a * size + rest < a * size + size := Nat.add_lt_add_left hrest _
    _ = (a + 1) * size := (Nat.succ_mul a size).symm
    _ ≤ b * size := Nat.mul_le_mul_right size hlt

/-- Digits of a list, one by one. -/
theorem hexDigits_cons {c : Char} {digits : List Char} :
    HexDigits (c :: digits) ↔ IsHexDigit c ∧ HexDigits digits :=
  List.forall_mem_cons

/-- A number is below the power of its places. -/
theorem hexValue_lt {digits : List Char} (h : HexDigits digits) :
    hexValue digits < 16 ^ digits.length := by
  induction digits with
  | nil => decide
  | cons c digits ih =>
    rw [hexDigits_cons] at h
    rw [hexValue_cons, List.length_cons, Nat.pow_succ, Nat.mul_comm _ 16]
    exact mul_add_lt_mul h.1.hexDigit_lt (ih h.2)

/-- Upper-case texts of one length are ordered as their numbers are. -/
theorem hexValue_lt_hexValue {digits digits' : List Char}
    (hlength : digits.length = digits'.length) (h : ∀ c ∈ digits, IsUpperDigit c)
    (h' : ∀ c ∈ digits', IsUpperDigit c) (hlt : digits < digits') :
    hexValue digits < hexValue digits' := by
  induction digits generalizing digits' with
  | nil =>
    obtain rfl := List.length_eq_zero_iff.mp hlength.symm
    exact absurd hlt (List.not_lt_nil _)
  | cons c digits ih =>
    cases digits' with
    | nil => cases hlength
    | cons d digits' =>
      rw [List.length_cons, List.length_cons, Nat.succ_inj] at hlength
      rw [List.forall_mem_cons] at h h'
      rw [hexValue_cons, hexValue_cons, hlength]
      rcases List.cons_lt_cons_iff.mp hlt with hhead | ⟨rfl, htail⟩
      · have hdigit := h.1.hexDigit_lt_hexDigit h'.1 hhead
        have hrest := hexValue_lt fun c hc => (h.2 c hc).isHexDigit
        rw [hlength] at hrest
        exact (mul_add_lt_mul hdigit hrest).trans_le (Nat.le_add_right _ _)
      · exact Nat.add_lt_add_left (ih hlength h.2 h'.2 htail) _

/-- Upper case does not change a number. -/
theorem hexValue_map_toUpper {digits : List Char} (h : HexDigits digits) :
    hexValue (digits.map Char.toUpper) = hexValue digits := by
  induction digits with
  | nil => rfl
  | cons c digits ih =>
    rw [hexDigits_cons] at h
    rw [List.map_cons, hexValue_cons, hexValue_cons, h.1.toUpper.2, ih h.2, List.length_map]

/-- In upper case, digits of one length are ordered as their numbers are. -/
theorem map_toUpper_lt_iff {digits digits' : List Char} (hlength : digits.length = digits'.length)
    (h : HexDigits digits) (h' : HexDigits digits') :
    digits.map Char.toUpper < digits'.map Char.toUpper ↔ hexValue digits < hexValue digits' := by
  have hupper (digits : List Char) (hhex : HexDigits digits) :
      ∀ c ∈ digits.map Char.toUpper, IsUpperDigit c := by
    intro c hc
    obtain ⟨digit, hdigit, rfl⟩ := List.mem_map.mp hc
    exact (hhex digit hdigit).toUpper.1
  have hlengths : (digits.map Char.toUpper).length = (digits'.map Char.toUpper).length := by
    rw [List.length_map, List.length_map, hlength]
  rw [← hexValue_map_toUpper h, ← hexValue_map_toUpper h']
  constructor
  · exact hexValue_lt_hexValue hlengths (hupper _ h) (hupper _ h')
  · intro hlt
    rcases lt_trichotomy (digits.map Char.toUpper) (digits'.map Char.toUpper) with
      hless | hsame | hmore
    · exact hless
    · exact absurd hlt (hsame ▸ Nat.lt_irrefl _)
    · have hback := hexValue_lt_hexValue hlengths.symm (hupper _ h') (hupper _ h) hmore
      exact absurd hlt (Nat.lt_asymm hback)

/-! ## Texts with blanks behind their digits -/

/-- The digits of a text, with a zero in front for every character behind them. -/
def paddedDigits (text : String) : List Char :=
  List.replicate (text.length - (leadingDigits text).length) '0' ++ leadingDigits text

/-- The text in upper case, with zeros in front in the place of the blanks behind. -/
def paddedSpelling (text : String) : String := (String.ofList (paddedDigits text)).toUpper

/-- The leading digits are digits. -/
theorem leadingDigits_hex (text : String) : HexDigits (leadingDigits text) := by
  intro c hc
  have hdigit := List.mem_takeWhile_imp hc
  exact of_decide_eq_true hdigit

/-- There are no more digits than characters. -/
theorem leadingDigits_length_le (text : String) : (leadingDigits text).length ≤ text.length :=
  (List.takeWhile_sublist _).length_le

/-- The padded digits are as long as the text. -/
theorem paddedDigits_length (text : String) : (paddedDigits text).length = text.length := by
  have hle := leadingDigits_length_le text
  rw [paddedDigits, List.length_append, List.length_replicate]
  omega

/-- The padded digits are digits. -/
theorem paddedDigits_hex (text : String) : HexDigits (paddedDigits text) := by
  intro c hc
  rcases List.mem_append.mp hc with hzero | hdigit
  · rw [List.eq_of_mem_replicate hzero]
    decide
  · exact leadingDigits_hex text c hdigit

/-- Zeros in front do not change a number. -/
theorem hexValue_replicate_append (count : ℕ) (digits : List Char) :
    hexValue (List.replicate count '0' ++ digits) = hexValue digits := by
  induction count with
  | zero => rfl
  | succ count ih =>
    have hzero : hexDigit '0' = 0 := by decide
    rw [List.replicate_succ, List.cons_append, hexValue_cons, hzero, Nat.zero_mul, Nat.zero_add, ih]

/-- Texts of one length are padded to texts that are ordered as their numbers are. -/
theorem paddedSpelling_lt_iff {text text' : String} (hlength : text.length = text'.length) :
    paddedSpelling text < paddedSpelling text' ↔
      hexValue (leadingDigits text) < hexValue (leadingDigits text') := by
  have hlengths : (paddedDigits text).length = (paddedDigits text').length := by
    rw [paddedDigits_length, paddedDigits_length, hlength]
  have hiff := map_toUpper_lt_iff hlengths (paddedDigits_hex text) (paddedDigits_hex text')
  rw [paddedDigits, paddedDigits, hexValue_replicate_append, hexValue_replicate_append] at hiff
  rw [String.lt_iff, paddedSpelling, paddedSpelling, String.toUpper, String.toUpper,
    String.toList_map, String.toList_map, String.toList_ofList, String.toList_ofList]
  exact hiff

/-- A text has a number exactly if it spells one. -/
theorem hexNumber_eq_some {text : String} {number : ℕ} :
    hexNumber text = some number ↔ Spells text ∧ hexValue (leadingDigits text) = number := by
  rw [hexNumber]
  split_ifs with h
  · rw [Option.some.injEq]
    exact (and_iff_right h).symm
  · exact iff_of_false nofun fun hnumber => h hnumber.1

/-! ## The number of spellings -/

/-- All hexadecimal digits. -/
def hexCharacters : List Char := "0123456789ABCDEFabcdef".toList

/-- All blanks. -/
def blankCharacters : List Char := [' ', '\t', '\n', '\r', '\x0b', '\x0c']

/-- The list of digits is complete. -/
theorem IsHexDigit.mem_hexCharacters {c : Char} (h : IsHexDigit c) : c ∈ hexCharacters := by
  have hascii : ∀ n < 128, IsHexDigit (Char.ofNat n) → Char.ofNat n ∈ hexCharacters := by decide
  have hmem := hascii c.toNat h.toNat_lt
  rw [Char.ofNat_toNat] at hmem
  exact hmem h

/-- Every text of three characters from three lists. -/
def triples (first second third : List Char) : List (List Char) :=
  (first ×ˢ (second ×ˢ third)).map fun digits => [digits.1, digits.2.1, digits.2.2]

/-- The number of such texts. -/
theorem triples_length (first second third : List Char) :
    (triples first second third).length = first.length * (second.length * third.length) := by
  rw [triples, List.length_map, List.length_product, List.length_product]

/-- A text of three characters, each from its list. -/
theorem mem_triples {first second third : List Char} {a b c : Char} (ha : a ∈ first)
    (hb : b ∈ second) (hc : c ∈ third) : [a, b, c] ∈ triples first second third :=
  List.mem_map.mpr ⟨(a, b, c), List.mem_product.mpr ⟨ha, List.mem_product.mpr ⟨hb, hc⟩⟩, rfl⟩

/-- The spellings of eleven-bit numbers in three characters: three digits, the first one below
eight, or fewer digits and blanks. -/
def spellings : List (List Char) :=
  triples (hexCharacters.filter fun c => hexDigit c < 8) hexCharacters hexCharacters ++
    (triples hexCharacters hexCharacters blankCharacters ++
      triples hexCharacters blankCharacters blankCharacters)

/-- The number of spellings. -/
theorem spellings_length : spellings.length = 7568 := by
  have hfirst : (hexCharacters.filter fun c => hexDigit c < 8).length = 8 := by decide
  have hall : hexCharacters.length = 22 := by decide
  have hblanks : blankCharacters.length = 6 := rfl
  rw [spellings, List.length_append, List.length_append, triples_length, triples_length,
    triples_length, hfirst, hall, hblanks]

/-- A text of three characters that spells an eleven-bit number is among the spellings. -/
theorem mem_spellings {text : String} (hlength : text.length = 3) (hspells : Spells text)
    (hle : hexValue (leadingDigits text) ≤ 0x7FF) : text.toList ∈ spellings := by
  obtain ⟨hne, hblank⟩ := hspells
  have hthree : text.toList.length = 3 := hlength
  obtain ⟨a, b, c, habc⟩ := List.length_eq_three.mp hthree
  rw [leadingDigits, habc] at hne hle
  rw [habc] at hblank ⊢
  -- by the number of digits in front
  by_cases ha : IsHexDigit a
  · have haMem := ha.mem_hexCharacters
    by_cases hb : IsHexDigit b
    · by_cases hc : IsHexDigit c
      · have hfirst : hexDigit a < 8 := by
          simp only [List.takeWhile, ha, hb, hc, decide_true] at hle
          rw [hexValue_cons, List.length_cons, List.length_singleton] at hle
          omega
        refine List.mem_append_left _ (mem_triples ?_ hb.mem_hexCharacters hc.mem_hexCharacters)
        exact List.mem_filter.mpr ⟨haMem, decide_eq_true hfirst⟩
      · have hblankC : IsBlank c := hblank c (by simp [List.dropWhile, ha, hb, hc])
        exact List.mem_append_right _ (List.mem_append_left _
          (mem_triples haMem hb.mem_hexCharacters hblankC))
    · have hblankB : IsBlank b := hblank b (by simp [List.dropWhile, ha, hb])
      have hblankC : IsBlank c := hblank c (by simp [List.dropWhile, ha, hb])
      exact List.mem_append_right _ (List.mem_append_right _ (mem_triples haMem hblankB hblankC))
  · exact absurd (by simp [List.takeWhile, ha]) hne

/-- Different texts of three characters that spell eleven-bit numbers. -/
theorem length_le_of_spellings {texts : List String} (hnodup : texts.Nodup)
    (h : ∀ text ∈ texts, text.length = 3 ∧ ∃ number ∈ hexNumber text, number ≤ 0x7FF) :
    texts.length ≤ 7568 := by
  have hsubset : texts.map String.toList ⊆ spellings := by
    intro digits hdigits
    obtain ⟨text, htext, rfl⟩ := List.mem_map.mp hdigits
    obtain ⟨hlength, number, hnumber, hle⟩ := h text htext
    obtain ⟨hspells, rfl⟩ := hexNumber_eq_some.mp hnumber
    exact mem_spellings hlength hspells hle
  have hmap : (texts.map String.toList).Nodup :=
    List.Pairwise.map String.toList (fun _ _ hne heq => hne (String.toList_inj.mp heq)) hnodup
  rw [← List.length_map String.toList, ← spellings_length]
  exact (hmap.subperm hsubset).length_le

end Roadcast
