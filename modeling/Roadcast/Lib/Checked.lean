import Mathlib.Algebra.Group.Nat.Defs
import Mathlib.Data.List.Basic

/-!
# Computations that check their memory accesses

Buffers with a size, and the operations on them that a program in C performs without a check: loads,
stores and copies, unsigned subtraction and narrowing casts. Here each of them checks what the program
has to guarantee and stops with a fault otherwise. `Returns` says that a computation has no fault and
what its result is; its rules follow the structure of a computation.
-/

namespace Roadcast.Checked

universe u

variable {A B : Type u}

/-- What a program must not do: leave a buffer, subtract more than there is, or cast a value that
does not fit. -/
inductive Fault
  | outOfBounds
  | underflow
  | truncation
  deriving DecidableEq, Repr

/-- The cell at an index. -/
def load (cells : List A) (i : ℕ) : Except Fault A :=
  match cells[i]? with
  | some a => .ok a
  | none => .error .outOfBounds

/-- Write one cell. -/
def store (cells : List A) (i : ℕ) (a : A) : Except Fault (List A) :=
  if i < cells.length then .ok (cells.set i a) else .error .outOfBounds

/-- The `count` cells from an offset on. -/
def slice (cells : List A) (offset count : ℕ) : Except Fault (List A) :=
  if offset + count ≤ cells.length then .ok ((cells.drop offset).take count)
  else .error .outOfBounds

/-- Copy values to the front of a buffer. -/
def copy (cells values : List A) : Except Fault (List A) :=
  if values.length ≤ cells.length then .ok (values ++ cells.drop values.length)
  else .error .outOfBounds

/-- Subtract sizes. -/
def subtract (a b : ℕ) : Except Fault ℕ := if b ≤ a then .ok (a - b) else .error .underflow

/-- Cast to sixteen bits. -/
def narrow (n : ℕ) : Except Fault UInt16 :=
  if n < 2 ^ 16 then .ok (UInt16.ofNat n) else .error .truncation

/-- The computation has no fault, and its result satisfies `Q`. -/
def Returns (m : Except Fault A) (Q : A → Prop) : Prop := ∃ a, m = .ok a ∧ Q a

section Rules

variable {m : Except Fault A} {f : A → Except Fault B} {P Q : A → Prop} {R : B → Prop}

/-- A value is returned. -/
theorem Returns.ok {a : A} (h : Q a) : Returns (.ok a) Q := ⟨a, rfl, h⟩

/-- What is returned meets every weaker condition. -/
theorem Returns.imp (h : Returns m P) (himp : ∀ a, P a → Q a) : Returns m Q := by
  obtain ⟨a, hm, ha⟩ := h
  exact ⟨a, hm, himp a ha⟩

/-- A computation that goes on with what the first one returns. -/
theorem Returns.bind (h : Returns m P) (hf : ∀ a, P a → Returns (f a) R) : Returns (m >>= f) R := by
  obtain ⟨a, rfl, ha⟩ := h
  exact hf a ha

/-- What a mapped computation returns comes from what it returned before. -/
theorem exists_of_map {g : A → B} {b : B} (h : m.map g = .ok b) : ∃ a, m = .ok a ∧ g a = b := by
  cases m with
  | error fault => cases h
  | ok a => exact ⟨a, rfl, Except.ok.inj h⟩

end Rules

section Operations

variable {cells : List A} {i : ℕ}

/-- A load within the cells returns the cell. -/
theorem returns_load (h : i < cells.length) : Returns (load cells i) (· = cells[i]) := by
  rw [load, List.getElem?_eq_getElem h]
  exact .ok rfl

/-- A load of a cell that is known returns it. -/
theorem returns_load_of_eq {a : A} (h : cells[i]? = some a) : Returns (load cells i) (· = a) := by
  rw [load, h]
  exact .ok rfl

/-- A store within the cells replaces the cell. -/
theorem returns_store (a : A) (h : i < cells.length) :
    Returns (store cells i a) (· = cells.set i a) := by
  rw [store, if_pos h]
  exact .ok rfl

/-- A slice within the cells returns them. -/
theorem returns_slice {offset count : ℕ} (h : offset + count ≤ cells.length) :
    Returns (slice cells offset count) (· = (cells.drop offset).take count) := by
  rw [slice, if_pos h]
  exact .ok rfl

/-- A copy of no more values than there are cells replaces the first ones. -/
theorem returns_copy {values : List A} (h : values.length ≤ cells.length) :
    Returns (copy cells values) (· = values ++ cells.drop values.length) := by
  rw [copy, if_pos h]
  exact .ok rfl

/-- Copying a whole buffer over another one of the same size replaces it. -/
theorem returns_replace {source target : List A} {n : ℕ} (hsource : source.length = n)
    (htarget : target.length = n) {f : List A → Except Fault B} {Q : B → Prop}
    (h : Returns (f source) Q) :
    Returns (slice source 0 n >>= fun values => copy target values >>= f) Q := by
  refine (returns_slice (by omega)).bind fun values hvalues => ?_
  rw [List.drop_zero, List.take_of_length_le (by omega)] at hvalues
  rw [hvalues]
  refine (returns_copy (by omega)).bind fun copied hcopied => ?_
  rw [List.drop_of_length_le (by omega), List.append_nil] at hcopied
  rwa [hcopied]

/-- A subtraction that does not go below zero returns the difference. -/
theorem returns_subtract {a b : ℕ} (h : b ≤ a) : Returns (subtract a b) (· = a - b) := by
  rw [subtract, if_pos h]
  exact .ok rfl

/-- A number that fits is narrowed to itself. -/
theorem returns_narrow {n : ℕ} (h : n < 2 ^ 16) :
    Returns (narrow n) (· = UInt16.ofNat n) := by
  rw [narrow, if_pos h]
  exact .ok rfl

end Operations

section Tables

variable {n : ℕ} {f : ℕ → A}

/-- Storing into a table updates the function that it tabulates. -/
theorem set_map_range (i : ℕ) (a : A) :
    ((List.range n).map f).set i a = (List.range n).map (Function.update f i a) := by
  apply List.ext_getElem
  · simp
  · intro j hj _
    rw [List.getElem_set]
    by_cases hij : i = j
    · subst hij
      simp
    · simp [hij, Function.update_of_ne (Ne.symm hij)]

end Tables

section Writing

/-- Store values one after the other, from an index on. -/
def writeFrom : ℕ → List A → List A → List A
  | _, [], cells => cells
  | i, a :: values, cells => writeFrom (i + 1) values (cells.set i a)

/-- Writing values does not change the number of cells. -/
@[simp] theorem writeFrom_length (i : ℕ) (values cells : List A) :
    (writeFrom i values cells).length = cells.length := by
  induction values generalizing i cells with
  | nil => rfl
  | cons a values ih => rw [writeFrom, ih, List.length_set]

/-- What was written follows what was there before. -/
theorem take_writeFrom {i : ℕ} {values cells : List A} (h : i + values.length ≤ cells.length) :
    (writeFrom i values cells).take (i + values.length) = cells.take i ++ values := by
  induction values generalizing i cells with
  | nil => simp [writeFrom]
  | cons a values ih =>
    rw [List.length_cons] at h
    have hset : (cells.set i a).take (i + 1) = cells.take i ++ [a] := by
      rw [List.take_add_one, List.take_set_of_le (Nat.le_refl i),
        List.getElem?_set_self (by omega), Option.toList_some]
    rw [writeFrom, List.length_cons, show i + (values.length + 1) = i + 1 + values.length by omega,
      ih (by rw [List.length_set]; omega), hset, List.append_assoc, List.singleton_append]

/-- Values stand one after the other in a buffer, from an index on. -/
def StoredFrom (i : ℕ) (values cells : List A) : Prop :=
  ∀ k (hk : k < values.length), cells[i + k]? = some values[k]

/-- The first of the stored values is in the first cell. -/
theorem StoredFrom.head {i : ℕ} {a : A} {values cells : List A}
    (h : StoredFrom i (a :: values) cells) : cells[i]? = some a :=
  h 0 (Nat.succ_pos _)

/-- The other stored values are in the cells behind it. -/
theorem StoredFrom.tail {i : ℕ} {a : A} {values cells : List A}
    (h : StoredFrom i (a :: values) cells) : StoredFrom (i + 1) values cells := by
  intro k hk
  rw [Nat.add_assoc, Nat.add_comm 1 k]
  exact h (k + 1) (Nat.succ_lt_succ hk)

/-- Values that were written to the front are found there. -/
theorem storedFrom_writeFrom {values cells : List A} (h : values.length ≤ cells.length) :
    StoredFrom 0 values (writeFrom 0 values cells) := by
  intro k hk
  have hroom : 0 + values.length ≤ cells.length := by omega
  have htake := take_writeFrom hroom
  rw [Nat.zero_add, List.take_zero, List.nil_append] at htake
  rw [Nat.zero_add, ← List.getElem?_take_of_lt hk, htake, List.getElem?_eq_getElem hk]

end Writing

end Roadcast.Checked
