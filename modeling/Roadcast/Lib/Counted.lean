import Roadcast.Lib.Checked

/-!
# Loops with a counter of fixed width

`for (i = 0; i < count; i++)` with a body that can fault and that can leave the loop. Counter and
bound have the same width, so the counter reaches the bound before it can wrap around: the loop ends,
and its rounds are those of a list of indices.
-/

namespace Roadcast.Counted

open Checked

variable {S : Type}

/-- How a round ends: with the next one, or with the loop. -/
inductive Round (S : Type)
  | next (state : S)
  | stop (state : S)

/-- A counter below a bound of its own width can be incremented. -/
theorem toNat_succ {w : ℕ} {i count : BitVec w} (h : i < count) : (i + 1).toNat = i.toNat + 1 := by
  have hcount := count.isLt
  rw [BitVec.lt_def] at h
  have hw : 1 < 2 ^ w := by omega
  rw [BitVec.toNat_add, BitVec.ofNat_eq_ofNat, BitVec.toNat_ofNat, Nat.mod_eq_of_lt hw,
    Nat.mod_eq_of_lt (by omega)]

/-- The loop from the round of counter `i` on. -/
def forLoop {w : ℕ} (count : BitVec w) (body : ℕ → S → Except Fault (Round S)) (i : BitVec w)
    (state : S) : Except Fault S :=
  if _h : i < count then do
    match ← body i.toNat state with
    | .next state => forLoop count body (i + 1) state
    | .stop state => pure state
  else pure state
termination_by count.toNat - i.toNat
decreasing_by
  rw [toNat_succ _h]
  rw [BitVec.lt_def] at _h
  omega

/-- The rounds of a list of indices. -/
def rounds (body : ℕ → S → Except Fault (Round S)) : List ℕ → S → Except Fault S
  | [], state => pure state
  | i :: rest, state => do
    match ← body i state with
    | .next state => rounds body rest state
    | .stop state => pure state

/-- The rounds of a list of indices, without faults. -/
def run (round : ℕ → S → Round S) : List ℕ → S → S
  | [], state => state
  | i :: rest, state =>
    match round i state with
    | .next state => run round rest state
    | .stop state => state

/-- The loop goes through the indices from its counter to its bound. -/
theorem forLoop_eq_rounds {w : ℕ} (count : BitVec w) (body : ℕ → S → Except Fault (Round S))
    (i : BitVec w) (state : S) :
    forLoop count body i state =
      rounds body (List.range' i.toNat (count.toNat - i.toNat)) state := by
  fun_induction forLoop count body i state with
  | case1 i state h ih =>
    have hlt := BitVec.lt_def.mp h
    have hsucc : count.toNat - i.toNat = (count.toNat - (i + 1).toNat) + 1 := by
      rw [toNat_succ h]
      omega
    rw [hsucc, List.range'_succ, rounds, ← toNat_succ h]
    refine congrArg (body i.toNat state >>= ·) (funext fun round => ?_)
    cases round with
    | next state => exact ih state
    | stop state => rfl
  | case2 i state h =>
    have hle : count.toNat - i.toNat = 0 := by
      rw [BitVec.lt_def] at h
      omega
    rw [hle]
    rfl

/-- A body without faults makes a loop without faults. -/
theorem rounds_eq_ok {body : ℕ → S → Except Fault (Round S)} {round : ℕ → S → Round S}
    {indices : List ℕ} (h : ∀ i ∈ indices, ∀ state, body i state = .ok (round i state)) (state : S) :
    rounds body indices state = .ok (run round indices state) := by
  induction indices generalizing state with
  | nil => rfl
  | cons i rest ih =>
    rw [List.forall_mem_cons] at h
    rw [rounds, h.1 state, run]
    cases round i state with
    | next state => exact ih h.2 state
    | stop state => rfl

/-- The whole loop, from zero. -/
theorem forLoop_eq_ok {w : ℕ} {count : BitVec w} {body : ℕ → S → Except Fault (Round S)}
    {round : ℕ → S → Round S} (h : ∀ i < count.toNat, ∀ state, body i state = .ok (round i state))
    (state : S) :
    forLoop count body 0 state = .ok (run round (List.range count.toNat) state) := by
  have hzero : (0 : BitVec w).toNat = 0 := BitVec.toNat_zero
  rw [forLoop_eq_rounds, hzero, Nat.sub_zero, ← List.range_eq_range']
  exact rounds_eq_ok (fun i hi => h i (List.mem_range.mp hi)) state

section Reading

variable {A : Type} {w : ℕ} {count : BitVec w} {read : ℕ → Except Fault A} {element : ℕ → A}

/-- A loop that reads one element in each round and never leaves is a fold. -/
theorem forLoop_fold (hread : ∀ i < count.toNat, read i = .ok (element i)) (f : S → A → S)
    (state : S) :
    forLoop count (fun i state => do
      let a ← read i
      pure (.next (f state a))) 0 state =
    .ok (((List.range count.toNat).map element).foldl f state) := by
  have hbody : ∀ i < count.toNat, ∀ state : S, (do
      let a ← read i
      pure (.next (f state a)) : Except Fault (Round S)) = .ok (.next (f state (element i))) := by
    intro i hi state
    rw [hread i hi]
    rfl
  rw [forLoop_eq_ok hbody]
  generalize List.range count.toNat = indices
  refine congrArg Except.ok ?_
  induction indices generalizing state with
  | nil => rfl
  | cons i rest ih => exact ih (f state (element i))

/-- A loop that reads one element in each round and leaves at the first hit is a search. -/
theorem forLoop_find (hread : ∀ i < count.toNat, read i = .ok (element i)) (hit : A → Bool) :
    forLoop count (fun i (_ : Option A) => do
      let a ← read i
      pure (if hit a then .stop (some a) else .next none)) 0 none =
    .ok (((List.range count.toNat).map element).find? hit) := by
  have hbody : ∀ i < count.toNat, ∀ _state : Option A, (do
      let a ← read i
      pure (if hit a then .stop (some a) else .next none) : Except Fault (Round (Option A))) =
      .ok (if hit (element i) then .stop (some (element i)) else .next none) := by
    intro i hi _
    rw [hread i hi]
    rfl
  rw [forLoop_eq_ok hbody]
  generalize List.range count.toNat = indices
  refine congrArg Except.ok ?_
  induction indices with
  | nil => rfl
  | cons i rest ih =>
    rw [run, List.map_cons, List.find?_cons]
    cases hit (element i) with
    | true => rfl
    | false => exact ih

end Reading

end Roadcast.Counted
