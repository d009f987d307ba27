import Roadcast.Lib.Checked
import Mathlib.Data.List.TakeWhile

/-!
# Cursors into a terminated buffer

A pointer that moves forward through a buffer is what is left of the buffer from it on, and reading
where nothing is left is a fault. A text in the buffer ends before its terminator. An operation that
stops at the terminator has no fault, and what it finds depends on the text alone: it is a function of
lists, whatever the buffer holds behind the terminator.
-/

namespace Roadcast.Cursor

open Checked

variable {A : Type}

/-- `*cursor`. -/
def peek : List A → Except Fault A
  | [] => .error .outOfBounds
  | a :: _ => .ok a

/-- `while (p(*cursor)) cursor++`: what was passed, and the cursor after the loop. -/
def span (p : A → Bool) : List A → Except Fault (List A × List A)
  | [] => .error .outOfBounds
  | a :: rest =>
    if p a then do
      let (passed, cursor) ← span p rest
      pure (a :: passed, cursor)
    else .ok ([], a :: rest)

/-- The cursor after `while (p(*cursor)) cursor++`. -/
def skipWhile (p : A → Bool) (cursor : List A) : Except Fault (List A) := do
  let (_, cursor) ← span p cursor
  pure cursor

section Terminated

variable {terminator : A} {text rest : List A}

/-- A peek in front of the terminator is inside the buffer. -/
theorem peek_terminated : peek (text ++ terminator :: rest) = .ok (text.headD terminator) := by
  cases text with
  | nil => rfl
  | cons a text => rfl

/-- A span that stops at the terminator is that of the text in front of it. -/
theorem span_terminated {p : A → Bool} (hstop : p terminator = false) :
    span p (text ++ terminator :: rest) =
      .ok (text.takeWhile p, text.dropWhile p ++ terminator :: rest) := by
  induction text with
  | nil => simp [span, hstop]
  | cons a text ih =>
    rw [List.cons_append, span, List.takeWhile_cons, List.dropWhile_cons]
    cases p a with
    | false => rfl
    | true =>
      rw [ih]
      rfl

/-- A skip that stops at the terminator is that of the text in front of it. -/
theorem skipWhile_terminated {p : A → Bool} (hstop : p terminator = false) :
    skipWhile p (text ++ terminator :: rest) = .ok (text.dropWhile p ++ terminator :: rest) := by
  rw [skipWhile, span_terminated hstop]
  rfl

end Terminated

section Last

variable [DecidableEq A]

/-- The last place up to the terminator that holds a value; `found` is the last one so far. -/
def findLast (terminator wanted : A) (found : Option (List A)) :
    List A → Except Fault (Option (List A))
  | [] => .error .outOfBounds
  | a :: rest =>
    let found := if a = wanted then some (a :: rest) else found
    if a = terminator then .ok found else findLast terminator wanted found rest

/-- A list from the last occurrence of a value on. -/
def fromLast (wanted : A) : List A → Option (List A)
  | [] => none
  | a :: rest => (fromLast wanted rest).or (if a = wanted then some (a :: rest) else none)

variable {terminator wanted : A}

/-- The search for the last occurrence ends at the terminator. -/
theorem findLast_terminated {text : List A} (rest : List A) (hwanted : terminator ≠ wanted)
    (htext : terminator ∉ text) (found : Option (List A)) :
    findLast terminator wanted found (text ++ terminator :: rest) =
      .ok (((fromLast wanted text).map (· ++ terminator :: rest)).or found) := by
  induction text generalizing found with
  | nil => simp [findLast, fromLast, hwanted]
  | cons a text ih =>
    rw [List.mem_cons, not_or] at htext
    rw [List.cons_append, findLast, if_neg (Ne.symm htext.1), ih htext.2, fromLast]
    -- what is found behind `a` comes first, and `a` itself before what was found so far
    cases fromLast wanted text with
    | some place => rfl
    | none =>
      by_cases ha : a = wanted
      · simp [ha]
      · simp [ha]

/-- What does not occur is not found. -/
theorem fromLast_of_notMem {list : List A} (h : wanted ∉ list) : fromLast wanted list = none := by
  induction list with
  | nil => rfl
  | cons a rest ih =>
    rw [List.mem_cons, not_or] at h
    rw [fromLast, ih h.2, if_neg (Ne.symm h.1)]
    rfl

/-- Whatever stands before it, the last occurrence is the one with none behind it. -/
theorem fromLast_append (front : List A) {back : List A} (h : wanted ∉ back) :
    fromLast wanted (front ++ wanted :: back) = some (wanted :: back) := by
  induction front with
  | nil =>
    rw [List.nil_append, fromLast, fromLast_of_notMem h, if_pos rfl]
    rfl
  | cons a front ih =>
    rw [List.cons_append, fromLast, ih]
    rfl

/-- What is found is a place in the list. -/
theorem exists_of_fromLast {list place : List A} (h : fromLast wanted list = some place) :
    ∃ front back, place = wanted :: back ∧ list = front ++ place := by
  induction list with
  | nil => cases h
  | cons a rest ih =>
    rw [fromLast] at h
    cases hrest : fromLast wanted rest with
    | some later =>
      rw [hrest] at h
      obtain rfl := Option.some.inj h
      obtain ⟨front, back, hplace, hlist⟩ := ih hrest
      exact ⟨a :: front, back, hplace, congrArg (a :: ·) hlist⟩
    | none =>
      rw [hrest, Option.none_or] at h
      split at h
      · rename_i ha
        obtain rfl := Option.some.inj h
        exact ⟨[], rest, by rw [ha], rfl⟩
      · contradiction

/-- The text of a buffer that holds a terminator, and what follows it. -/
theorem exists_terminated {cells : List A} (h : terminator ∈ cells) :
    ∃ rest, cells = cells.takeWhile (· ≠ terminator) ++ terminator :: rest := by
  induction cells with
  | nil => cases h
  | cons a cells ih =>
    by_cases ha : a = terminator
    · exact ⟨cells, by simp [ha]⟩
    · obtain ⟨rest, hrest⟩ := ih ((List.mem_cons.mp h).resolve_left (Ne.symm ha))
      refine ⟨rest, ?_⟩
      rw [List.takeWhile_cons_of_pos (by simpa using ha), List.cons_append, ← hrest]

/-- The text of a buffer is the text of what precedes any terminator in it. -/
theorem takeWhile_append_terminator (front back : List A) :
    (front ++ terminator :: back).takeWhile (· ≠ terminator) =
      front.takeWhile (· ≠ terminator) := by
  induction front with
  | nil => simp
  | cons a front ih => rw [List.cons_append, List.takeWhile_cons, List.takeWhile_cons, ih]

/-- The text in front of the first terminator has none. -/
theorem notMem_takeWhile (cells : List A) : terminator ∉ cells.takeWhile (· ≠ terminator) := by
  intro hmem
  simpa using List.mem_takeWhile_imp hmem

end Last

end Roadcast.Cursor
