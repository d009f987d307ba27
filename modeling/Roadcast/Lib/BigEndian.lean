import Mathlib.Data.Nat.Bitwise

/-!
# Fixed-width words in network byte order

Words of two, four and eight bytes, most significant byte first. A reader takes the
bytes from the front of a list and reads missing positions as zero, so a caller that has
checked the length of its input may drop to any offset and read there.

Writing and then reading returns the word, whatever follows it in the buffer; reading and then
writing returns the bytes that were read.
-/

namespace Roadcast.BigEndian

/-- The two bytes of a 16-bit word. -/
def putU16 (value : UInt16) : List UInt8 :=
  [(value >>> 8).toUInt8, value.toUInt8]

/-- The four bytes of a 32-bit word. -/
def putU32 (value : UInt32) : List UInt8 :=
  [(value >>> 24).toUInt8, (value >>> 16).toUInt8, (value >>> 8).toUInt8, value.toUInt8]

/-- The eight bytes of a 64-bit word, as its two halves. -/
def putU64 (value : UInt64) : List UInt8 :=
  putU32 (value >>> 32).toUInt32 ++ putU32 value.toUInt32

/-- The byte at a position, zero beyond the end. -/
def byteAt (input : List UInt8) (i : ℕ) : UInt8 := input.getD i 0

/-- Read a 16-bit word from the front. -/
def getU16 (input : List UInt8) : UInt16 :=
  ((byteAt input 0).toUInt16 <<< 8) ||| (byteAt input 1).toUInt16

/-- Read a 32-bit word from the front. -/
def getU32 (input : List UInt8) : UInt32 :=
  ((byteAt input 0).toUInt32 <<< 24) ||| ((byteAt input 1).toUInt32 <<< 16) |||
    ((byteAt input 2).toUInt32 <<< 8) ||| (byteAt input 3).toUInt32

/-- Read a 64-bit word from the front. -/
def getU64 (input : List UInt8) : UInt64 :=
  ((getU32 input).toUInt64 <<< 32) ||| (getU32 (input.drop 4)).toUInt64

/-- A 16-bit word takes two bytes. -/
@[simp] theorem putU16_length (value : UInt16) : (putU16 value).length = 2 := rfl

/-- A 32-bit word takes four bytes. -/
@[simp] theorem putU32_length (value : UInt32) : (putU32 value).length = 4 := rfl

/-- A 64-bit word takes eight bytes. -/
@[simp] theorem putU64_length (value : UInt64) : (putU64 value).length = 8 := rfl

/-- Two bit fields that do not overlap add up. -/
theorem shiftLeft_or_of_lt (high low k : ℕ) (h : low < 2 ^ k) :
    high <<< k ||| low = high * 2 ^ k + low := by
  rw [← Nat.shiftLeft_add_eq_or_of_lt h, Nat.shiftLeft_eq]

/-- A 16-bit read is the positional value of its two bytes. -/
theorem getU16_toNat (input : List UInt8) :
    (getU16 input).toNat = (byteAt input 0).toNat * 2 ^ 8 + (byteAt input 1).toNat := by
  have h0 := (byteAt input 0).toNat_lt
  have h1 := (byteAt input 1).toNat_lt
  simp only [getU16, UInt16.toNat_or, UInt16.toNat_shiftLeft, UInt8.toNat_toUInt16]
  rw [show (8 : UInt16).toNat % 16 = 8 by decide, Nat.mod_eq_of_lt (by rw [Nat.shiftLeft_eq]; omega),
    shiftLeft_or_of_lt _ _ _ (by omega)]

/-- A 32-bit read is the positional value of its four bytes. -/
theorem getU32_toNat (input : List UInt8) :
    (getU32 input).toNat = (byteAt input 0).toNat * 2 ^ 24 + (byteAt input 1).toNat * 2 ^ 16 +
      (byteAt input 2).toNat * 2 ^ 8 + (byteAt input 3).toNat := by
  have h0 := (byteAt input 0).toNat_lt
  have h1 := (byteAt input 1).toNat_lt
  have h2 := (byteAt input 2).toNat_lt
  have h3 := (byteAt input 3).toNat_lt
  simp only [getU32, UInt32.toNat_or, UInt32.toNat_shiftLeft, UInt8.toNat_toUInt32]
  rw [show (24 : UInt32).toNat % 32 = 24 by decide, show (16 : UInt32).toNat % 32 = 16 by decide,
    show (8 : UInt32).toNat % 32 = 8 by decide,
    Nat.mod_eq_of_lt (by rw [Nat.shiftLeft_eq]; omega),
    Nat.mod_eq_of_lt (by rw [Nat.shiftLeft_eq]; omega),
    Nat.mod_eq_of_lt (by rw [Nat.shiftLeft_eq]; omega)]
  rw [Nat.or_assoc, Nat.or_assoc, shiftLeft_or_of_lt _ (byteAt input 3).toNat 8 (by omega),
    shiftLeft_or_of_lt _ _ 16 (by omega), shiftLeft_or_of_lt _ _ 24 (by omega)]
  omega

/-- A 64-bit read is the positional value of its two halves. -/
theorem getU64_toNat (input : List UInt8) :
    (getU64 input).toNat = (getU32 input).toNat * 2 ^ 32 + (getU32 (input.drop 4)).toNat := by
  have h0 := (getU32 input).toNat_lt
  have h1 := (getU32 (input.drop 4)).toNat_lt
  simp only [getU64, UInt64.toNat_or, UInt64.toNat_shiftLeft, UInt32.toNat_toUInt64]
  rw [show (32 : UInt64).toNat % 64 = 32 by decide, Nat.mod_eq_of_lt (by rw [Nat.shiftLeft_eq]; omega),
    shiftLeft_or_of_lt _ _ _ (by omega)]

/-- Reading back a 16-bit word, whatever follows it. -/
@[simp] theorem getU16_putU16 (value : UInt16) (rest : List UInt8) :
    getU16 (putU16 value ++ rest) = value := by
  have h := value.toNat_lt
  apply UInt16.toNat_inj.mp
  rw [getU16_toNat]
  simp only [putU16, byteAt, List.cons_append, List.nil_append, List.getD_cons_zero,
    List.getD_cons_succ, UInt16.toNat_toUInt8, UInt16.toNat_shiftRight, Nat.shiftRight_eq_div_pow]
  rw [show (8 : UInt16).toNat % 16 = 8 by decide]
  omega

/-- Reading back a 32-bit word, whatever follows it. -/
@[simp] theorem getU32_putU32 (value : UInt32) (rest : List UInt8) :
    getU32 (putU32 value ++ rest) = value := by
  have h := value.toNat_lt
  apply UInt32.toNat_inj.mp
  rw [getU32_toNat]
  simp only [putU32, byteAt, List.cons_append, List.nil_append, List.getD_cons_zero,
    List.getD_cons_succ, UInt32.toNat_toUInt8, UInt32.toNat_shiftRight, Nat.shiftRight_eq_div_pow]
  rw [show (24 : UInt32).toNat % 32 = 24 by decide, show (16 : UInt32).toNat % 32 = 16 by decide,
    show (8 : UInt32).toNat % 32 = 8 by decide]
  omega

/-- Reading back a 64-bit word, whatever follows it. -/
@[simp] theorem getU64_putU64 (value : UInt64) (rest : List UInt8) :
    getU64 (putU64 value ++ rest) = value := by
  have h := value.toNat_lt
  have hdrop : (putU64 value ++ rest).drop 4 = putU32 value.toUInt32 ++ rest := rfl
  apply UInt64.toNat_inj.mp
  rw [getU64_toNat, hdrop, getU32_putU32, putU64, List.append_assoc, getU32_putU32]
  simp only [UInt64.toNat_toUInt32, UInt64.toNat_shiftRight, Nat.shiftRight_eq_div_pow]
  rw [show (32 : UInt64).toNat % 64 = 32 by decide]
  omega

/-- A byte of a field is a byte of what it was cut from. -/
theorem byteAt_take {input : List UInt8} {n i : ℕ} (h : i < n) :
    byteAt (input.take n) i = byteAt input i := by
  rw [byteAt, byteAt, List.getD_eq_getElem?_getD, List.getD_eq_getElem?_getD,
    List.getElem?_take_of_lt h]

/-- A 16-bit word is read from the first two bytes. -/
theorem getU16_take {input : List UInt8} {n : ℕ} (h : 2 ≤ n) :
    getU16 (input.take n) = getU16 input := by
  rw [getU16, byteAt_take (by omega), byteAt_take (by omega), ← getU16]

/-- A 32-bit word is read from the first four bytes. -/
theorem getU32_take {input : List UInt8} {n : ℕ} (h : 4 ≤ n) :
    getU32 (input.take n) = getU32 input := by
  rw [getU32, byteAt_take (by omega), byteAt_take (by omega), byteAt_take (by omega),
    byteAt_take (by omega), ← getU32]

/-- A 64-bit word is read from the first eight bytes. -/
theorem getU64_take {input : List UInt8} {n : ℕ} (h : 8 ≤ n) :
    getU64 (input.take n) = getU64 input := by
  rw [getU64, getU32_take (by omega), List.drop_take, getU32_take (by omega), ← getU64]

/-- The bytes of a field, position by position. -/
theorem ofFn_byteAt {input : List UInt8} {n k : ℕ} (h : n + k ≤ input.length) :
    List.ofFn (fun i : Fin k => byteAt input (n + i.val)) = (input.drop n).take k := by
  apply List.ext_getElem
  · rw [List.length_ofFn, List.length_take, List.length_drop]
    omega
  · intro i hi hi'
    rw [List.length_ofFn] at hi
    rw [List.getElem_ofFn, List.getElem_take, List.getElem_drop, byteAt,
      List.getD_eq_getElem _ _ (by omega)]

/-- Two adjacent fields are one. -/
theorem append_field {input : List UInt8} {n k m p : ℕ} (h : p = n + k) :
    (input.drop n).take k ++ (input.drop p).take m = (input.drop n).take (k + m) := by
  rw [h, ← List.drop_drop, ← List.take_add]

/-- Writing back the 16-bit word at the front. -/
theorem putU16_getU16 {input : List UInt8} (h : 2 ≤ input.length) :
    putU16 (getU16 input) = input.take 2 := by
  match input, h with
  | b0 :: b1 :: rest, _ =>
    have hread := getU16_toNat (b0 :: b1 :: rest)
    simp only [byteAt, List.getD_cons_zero, List.getD_cons_succ] at hread
    have h0 := b0.toNat_lt
    have h1 := b1.toNat_lt
    have hhigh : (getU16 (b0 :: b1 :: rest) >>> 8).toUInt8 = b0 := by
      apply UInt8.toNat_inj.mp
      rw [UInt16.toNat_toUInt8, UInt16.toNat_shiftRight, hread, Nat.shiftRight_eq_div_pow,
        show (8 : UInt16).toNat % 16 = 8 by decide]
      omega
    have hlow : (getU16 (b0 :: b1 :: rest)).toUInt8 = b1 := by
      apply UInt8.toNat_inj.mp
      rw [UInt16.toNat_toUInt8, hread]
      omega
    rw [putU16, hhigh, hlow]
    rfl

/-- Writing back the 32-bit word at the front. -/
theorem putU32_getU32 {input : List UInt8} (h : 4 ≤ input.length) :
    putU32 (getU32 input) = input.take 4 := by
  match input, h with
  | b0 :: b1 :: b2 :: b3 :: rest, _ =>
    have hread := getU32_toNat (b0 :: b1 :: b2 :: b3 :: rest)
    simp only [byteAt, List.getD_cons_zero, List.getD_cons_succ] at hread
    have h0 := b0.toNat_lt
    have h1 := b1.toNat_lt
    have h2 := b2.toNat_lt
    have h3 := b3.toNat_lt
    have hbyte : ∀ (k : UInt32) (n : ℕ) (b : UInt8), k.toNat % 32 = n →
        (b0.toNat * 2 ^ 24 + b1.toNat * 2 ^ 16 + b2.toNat * 2 ^ 8 + b3.toNat) / 2 ^ n % 2 ^ 8 =
          b.toNat → (getU32 (b0 :: b1 :: b2 :: b3 :: rest) >>> k).toUInt8 = b := by
      intro k n b hk hb
      apply UInt8.toNat_inj.mp
      rw [UInt32.toNat_toUInt8, UInt32.toNat_shiftRight, hread, Nat.shiftRight_eq_div_pow, hk]
      exact hb
    have hlow : (getU32 (b0 :: b1 :: b2 :: b3 :: rest)).toUInt8 = b3 := by
      apply UInt8.toNat_inj.mp
      rw [UInt32.toNat_toUInt8, hread]
      omega
    rw [putU32, hbyte 24 24 b0 (by decide) (by omega), hbyte 16 16 b1 (by decide) (by omega),
      hbyte 8 8 b2 (by decide) (by omega), hlow]
    rfl

/-- Writing back the 64-bit word at the front. -/
theorem putU64_getU64 {input : List UInt8} (h : 8 ≤ input.length) :
    putU64 (getU64 input) = input.take 8 := by
  have hhigh : (getU64 input >>> 32).toUInt32 = getU32 input := by
    apply UInt32.toNat_inj.mp
    have h0 := (getU32 input).toNat_lt
    have h1 := (getU32 (input.drop 4)).toNat_lt
    rw [UInt64.toNat_toUInt32, UInt64.toNat_shiftRight, getU64_toNat, Nat.shiftRight_eq_div_pow,
      show (32 : UInt64).toNat % 64 = 32 by decide]
    omega
  have hlow : (getU64 input).toUInt32 = getU32 (input.drop 4) := by
    apply UInt32.toNat_inj.mp
    have h1 := (getU32 (input.drop 4)).toNat_lt
    rw [UInt64.toNat_toUInt32, getU64_toNat]
    omega
  rw [putU64, hhigh, hlow, putU32_getU32 (by omega),
    putU32_getU32 (by rw [List.length_drop]; omega), ← List.take_add]

/-! ## Words of any width -/

/-- The last `size` bytes of a number, most significant first. -/
def putBytes : ℕ → ℕ → List UInt8
  | 0, _ => []
  | size + 1, number => putBytes size (number / 256) ++ [UInt8.ofNat number]

/-- A number takes as many bytes as it is given. -/
@[simp] theorem putBytes_length (size number : ℕ) : (putBytes size number).length = size := by
  induction size generalizing number with
  | zero => rfl
  | succ size ih => rw [putBytes, List.length_append, ih, List.length_singleton]

/-- A number that fits is determined by its bytes. -/
theorem putBytes_inj {size number number' : ℕ} (h : number < 256 ^ size) (h' : number' < 256 ^ size)
    (heq : putBytes size number = putBytes size number') : number = number' := by
  induction size generalizing number number' with
  | zero => omega
  | succ size ih =>
    rw [Nat.pow_succ] at h h'
    obtain ⟨hhigh, hlow⟩ := List.append_inj' heq rfl
    have hdiv : number / 256 = number' / 256 :=
      ih (Nat.div_lt_of_lt_mul (by omega)) (Nat.div_lt_of_lt_mul (by omega)) hhigh
    have hmod := congrArg UInt8.toNat (List.singleton_inj.mp hlow)
    rw [UInt8.toNat_ofNat', UInt8.toNat_ofNat'] at hmod
    omega

end Roadcast.BigEndian
