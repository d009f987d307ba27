import Mathlib.Logic.Function.Basic

/-!
# Loops that write while they check

A loop that goes through a list of records, finds the cell and the value of each one and writes it
at once. A record without a cell ends the loop, and what was written before it stays. The cells that
the loop leaves are those of its log, the writes before the first refused record.
-/

namespace Roadcast.Writes

variable {I B V : Type*} [DecidableEq I]

/-- The loop: whether it came to the end of the list, and the cells it leaves. -/
def writeAll (place : B → Option (I × V)) : List B → (I → V) → Bool × (I → V)
  | [], cells => (true, cells)
  | record :: rest, cells =>
    match place record with
    | none => (false, cells)
    | some (cell, value) => writeAll place rest (Function.update cells cell value)

/-- The writes of the loop, the latest one first. -/
def log (place : B → Option (I × V)) : List B → List (I × V)
  | [] => []
  | record :: rest =>
    match place record with
    | none => []
    | some write => log place rest ++ [write]

variable {place : B → Option (I × V)}

/-- The loop stops at the first refused record. -/
theorem writeAll_none {record : B} (h : place record = none) (rest : List B) (cells : I → V) :
    writeAll place (record :: rest) cells = (false, cells) := by
  rw [writeAll, h]

/-- The loop writes an accepted record and goes on. -/
theorem writeAll_some {record : B} {write : I × V} (h : place record = some write) (rest : List B)
    (cells : I → V) : writeAll place (record :: rest) cells =
      writeAll place rest (Function.update cells write.1 write.2) := by
  rw [writeAll, h]

/-- A loop that forgets its cells when it refuses a record. -/
theorem eq_writeAll {loop : List B → (I → V) → Option (I → V)}
    (hnil : ∀ cells, loop [] cells = some cells)
    (hcons : ∀ record rest cells, loop (record :: rest) cells =
      (place record).bind fun write => loop rest (Function.update cells write.1 write.2))
    (records : List B) (cells : I → V) :
    loop records cells = if (writeAll place records cells).1 then
      some (writeAll place records cells).2 else none := by
  induction records generalizing cells with
  | nil => exact hnil cells
  | cons record rest ih =>
    rw [hcons]
    cases hplace : place record with
    | none =>
      rw [writeAll_none hplace]
      rfl
    | some write =>
      rw [writeAll_some hplace]
      exact ih _

/-- The cells hold what was written to them last. -/
theorem writeAll_apply (records : List B) (cells : I → V) (cell : I) :
    (writeAll place records cells).2 cell =
      ((log place records).lookup cell).getD (cells cell) := by
  induction records generalizing cells with
  | nil => rfl
  | cons record rest ih =>
    cases hplace : place record with
    | none =>
      rw [writeAll_none hplace, log, hplace]
      rfl
    | some write =>
      obtain ⟨target, value⟩ := write
      rw [writeAll_some hplace, ih, log, hplace, List.lookup_append]
      cases (log place rest).lookup cell with
      | some later => rfl
      | none =>
        by_cases hcell : cell = target
        · subst hcell
          simp
        · have hne : (cell == target) = false := beq_eq_false_iff_ne.mpr hcell
          simp [List.lookup_cons, hne, Function.update_of_ne hcell]

/-- A loop leaves its cells as they were if and only if the last write to each of them wrote what was
there. -/
theorem writeAll_eq_iff (records : List B) (cells : I → V) :
    (writeAll place records cells).2 = cells ↔
      ∀ cell value, (log place records).lookup cell = some value → cells cell = value := by
  rw [funext_iff]
  refine forall_congr' fun cell => ?_
  rw [writeAll_apply]
  cases (log place records).lookup cell with
  | none => simp
  | some value => simp [eq_comm]

end Roadcast.Writes
