import Mathlib.Tactic.Ring

/-!
# Binary digits

Numbers as lists of binary digits, the most significant one first. Joining two lists shifts the
number of the first one, a list of `n` digits is a number below `2 ^ n` and no two lists of one length
are the same number. The digits of a window of a number are its bits from the top of the window down.
-/

namespace Roadcast.Binary

/-- The number with the given binary digits, most significant first. -/
def value (digits : List Bool) : ℕ := digits.foldl (fun number digit => 2 * number + digit.toNat) 0

/-- Reading digits behind a number that was read before. -/
theorem foldl_value (digits : List Bool) (number : ℕ) :
    digits.foldl (fun number digit => 2 * number + digit.toNat) number =
      number * 2 ^ digits.length + value digits := by
  induction digits generalizing number with
  | nil => simp [value]
  | cons digit rest ih =>
    have hfirst : value (digit :: rest) = digit.toNat * 2 ^ rest.length + value rest := by
      rw [value, List.foldl_cons, ih, Nat.mul_zero, Nat.zero_add]
    rw [List.foldl_cons, ih, hfirst, List.length_cons, Nat.pow_succ]
    ring

/-- The value of digits one after the other. -/
theorem value_append (front back : List Bool) :
    value (front ++ back) = value front * 2 ^ back.length + value back := by
  rw [value, List.foldl_append, foldl_value]
  rfl

/-- The first digit has the highest place. -/
theorem value_cons (digit : Bool) (rest : List Bool) :
    value (digit :: rest) = digit.toNat * 2 ^ rest.length + value rest := by
  have happend := value_append [digit] rest
  rwa [show value [digit] = digit.toNat by cases digit <;> rfl] at happend

/-- The value of digits is below the power of their number. -/
theorem value_lt (digits : List Bool) : value digits < 2 ^ digits.length := by
  induction digits with
  | nil => decide
  | cons digit rest ih =>
    rw [value_cons, List.length_cons, Nat.pow_succ]
    cases digit with
    | false => simp only [Bool.toNat_false]; omega
    | true => simp only [Bool.toNat_true]; omega

/-- Lists of one length with the same number are the same. -/
theorem value_inj {digits digits' : List Bool} (hlength : digits.length = digits'.length)
    (h : value digits = value digits') : digits = digits' := by
  induction digits generalizing digits' with
  | nil => exact (List.eq_nil_of_length_eq_zero hlength.symm).symm
  | cons digit rest ih =>
    cases digits' with
    | nil => contradiction
    | cons digit' rest' =>
      have hrest : rest.length = rest'.length := Nat.succ.inj hlength
      have hlt := value_lt rest
      have hlt' := value_lt rest'
      rw [value_cons, value_cons, ← hrest] at h
      rw [← hrest] at hlt'
      -- the first digit decides on which side of half the range the number is
      have hdigit : digit = digit' := by
        cases digit with
        | false =>
          cases digit' with
          | false => rfl
          | true =>
            rw [Bool.toNat_false, Bool.toNat_true] at h
            omega
        | true =>
          cases digit' with
          | false =>
            rw [Bool.toNat_false, Bool.toNat_true] at h
            omega
          | true => rfl
      subst hdigit
      rw [ih hrest (by omega)]

/-- A window of `count` bits above the lowest `shift` ones. -/
theorem value_window (number shift count : ℕ) :
    value ((List.range count).map fun k => number.testBit (shift + (count - 1 - k))) =
      (number >>> shift) % 2 ^ count := by
  induction count with
  | zero => simp [value, Nat.mod_one]
  | succ count ih =>
    have hrest : ((List.range (count + 1)).map fun k =>
        number.testBit (shift + (count + 1 - 1 - k))) = number.testBit (shift + count) ::
          (List.range count).map fun k => number.testBit (shift + (count - 1 - k)) := by
      rw [List.range_succ_eq_map, List.map_cons, List.map_map]
      congr 1
      refine List.map_congr_left fun k _ => ?_
      simp only [Function.comp_apply]
      congr 1
      omega
    have hbit : (number.testBit (shift + count)).toNat = (number >>> shift) / 2 ^ count % 2 := by
      rw [← Nat.shiftRight_eq_div_pow, ← Nat.shiftRight_add, Nat.toNat_testBit,
        Nat.shiftRight_eq_div_pow]
    rw [hrest, value_cons, List.length_map, List.length_range, ih, hbit, Nat.mod_pow_succ]
    ring

/-- The digits of a number. -/
theorem exists_value {number count : ℕ} (h : number < 2 ^ count) :
    ∃ digits, digits.length = count ∧ value digits = number := by
  refine ⟨(List.range count).map fun k => number.testBit (0 + (count - 1 - k)), by simp, ?_⟩
  rw [value_window, Nat.shiftRight_zero, Nat.mod_eq_of_lt h]

end Roadcast.Binary
