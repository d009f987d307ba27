import Roadcast.Lib.Cursor

/-!
# The start time of a process

`read_start_time` and `verify_identity` of `vhal_source.c`. The line of `/proc/PID/stat` is read into a
buffer on the stack, whose bytes behind the terminator are whatever was there before. The command name
may hold blanks, line ends and parentheses, so the fields are counted from the last closing one; the
start time is field 22.

The scanning loops move a cursor through the buffer. `scanStartTime_terminated` replaces them by
functions of the text before the terminator, and everything else is proved about those.
-/

namespace Roadcast

open Checked Cursor

/-- `' '`. -/
def blank : UInt8 := 0x20

/-- `'\n'`. -/
def newline : UInt8 := 0x0A

/-- `'('`. -/
def openParen : UInt8 := 0x28

/-- `')'`. -/
def closeParen : UInt8 := 0x29

/-- `*cursor == ' '`. -/
def isBlank (c : UInt8) : Bool := decide (c = blank)

/-- `isspace`. -/
def isSpace (c : UInt8) : Bool := decide (c = blank ∨ 9 ≤ c ∧ c ≤ 13)

/-- `isdigit`. -/
def isDigit (c : UInt8) : Bool := decide (48 ≤ c ∧ c ≤ 57)

/-- The number that decimal digits stand for, most significant first. -/
def decimalValue (digits : List UInt8) : ℕ :=
  digits.foldl (fun number c => 10 * number + (c.toNat - 48)) 0

/-- What `strtoull` returns, whether it sets `errno`, and where it stops. -/
structure Conversion where
  value : UInt64
  outOfRange : Bool
  stop : List UInt8

/-- The value of digits behind a sign, or `ULLONG_MAX` if it is out of range. -/
def convert (sign : UInt8) (digits stop : List UInt8) : Conversion :=
  let number := decimalValue digits
  if 2 ^ 64 ≤ number then ⟨UInt64.ofNat (2 ^ 64 - 1), true, stop⟩
  else ⟨if sign = 0x2D then 0 - UInt64.ofNat number else UInt64.ofNat number, false, stop⟩

/-- Where digits can begin: behind a sign, if there is one. -/
def skipSign (sign : UInt8) (cursor : List UInt8) : List UInt8 :=
  if sign = 0x2D ∨ sign = 0x2B then cursor.tail else cursor

/-- `strtoull(cursor, &end, 10)`. Without digits `end` is `cursor`. -/
def strtoull (cursor : List UInt8) : Except Fault Conversion := do
  let start ← skipWhile isSpace cursor
  let sign ← peek start
  let (digits, stop) ← span isDigit (skipSign sign start)
  if digits = [] then pure ⟨0, false, cursor⟩ else
  pure (convert sign digits stop)

/-- A byte that belongs to a field. -/
def isFieldByte (c : UInt8) : Bool := decide (c ≠ 0 ∧ c ≠ blank)

/-- The body of the loop over the fields; `none` is `EINVAL`. -/
def skipField (cursor : List UInt8) : Except Fault (Option (List UInt8)) := do
  let cursor ← skipWhile isBlank cursor
  let c ← peek cursor
  if c = 0 then pure none else
  let cursor ← skipWhile isFieldByte cursor
  pure (some cursor)

/-- The loop over the fields. -/
def skipFields : ℕ → List UInt8 → Except Fault (Option (List UInt8))
  | 0, cursor => pure (some cursor)
  | fields + 1, cursor => do
    match ← skipField cursor with
    | none => pure none
    | some cursor => skipFields fields cursor

/-- `read_start_time` behind the read; `none` is `EINVAL`. Two cursors into one buffer are equal if
the same number of cells is left. -/
def scanStartTime (cells : List UInt8) : Except Fault (Option UInt64) := do
  match ← findLast 0 closeParen none cells with
  | none => pure none
  | some cursor =>
    match ← skipFields (22 - 3) cursor.tail with
    | none => pure none
    | some cursor =>
      let cursor ← skipWhile isBlank cursor
      let conversion ← strtoull cursor
      if conversion.outOfRange = true ∨ conversion.stop.length = cursor.length then pure none else
      let c ← peek conversion.stop
      if c ≠ blank ∧ c ≠ newline then pure none else
      pure (some conversion.value)

/-- `sizeof(stat_text)`. -/
def statTextSize : ℕ := 2048

/-- `stat_text`, with what the stack holds before the read. -/
structure StatText where
  cells : List UInt8
  length_eq : cells.length = statTextSize

/-- What one `pread` of `sizeof(stat_text) - 1` bytes can return. -/
structure StatBytes where
  bytes : List UInt8
  length_le : bytes.length ≤ statTextSize - 1

/-- The answer to one call of `pread`; `interrupted` is `EINTR`. -/
inductive Pread
  | interrupted
  | failed
  | returned (read : StatBytes)

/-- `errno` of a failure; `system` is what a failed call left there. -/
inductive IdentityError
  | system
  | esrch
  | einval
  deriving DecidableEq, Repr

/-- How a call ends. It is `interrupted` as long as every `pread` is. -/
inductive CallOutcome (A : Type)
  | interrupted
  | failure (error : IdentityError)
  | success (a : A)
  deriving DecidableEq, Repr

/-- `read_start_time`, with the answers to its calls of `pread`. -/
def readStartTime (statText : StatText) : List Pread → Except Fault (CallOutcome UInt64)
  | [] => pure .interrupted
  | .interrupted :: later => readStartTime statText later
  | .failed :: _ => pure (.failure .system)
  | .returned ⟨bytes, _⟩ :: _ =>
    if bytes.length = 0 then pure (.failure .esrch) else do
    let cells ← copy statText.cells bytes
    let cells ← store cells bytes.length 0
    match ← scanStartTime cells with
    | none => pure (.failure .einval)
    | some ticks => pure (.success ticks)

/-- `verify_identity`. -/
def verifyIdentity (statText : StatText) (identityFd : ℤ) (answers : List Pread)
    (startTimeTicks : UInt64) : Except Fault (CallOutcome Unit) :=
  if identityFd < 0 then pure (.failure .esrch) else do
  match ← readStartTime statText answers with
  | .interrupted => pure .interrupted
  | .failure _ => pure (.failure .esrch)
  | .success ticks =>
    if ticks ≠ startTimeTicks then pure (.failure .esrch) else pure (.success ())

/-! ## The text before the terminator -/

/-- The text before the first NUL. -/
def cText (bytes : List UInt8) : List UInt8 := bytes.takeWhile (· ≠ 0)

/-- What `strtoull` makes of a text. -/
def conversionOf (text : List UInt8) : Conversion :=
  let start := text.dropWhile isSpace
  let unsigned := skipSign (start.headD 0) start
  let digits := unsigned.takeWhile isDigit
  if digits = [] then ⟨0, false, text⟩
  else convert (start.headD 0) digits (unsigned.dropWhile isDigit)

/-- What follows the next field of a text, if there is one. -/
def afterField (text : List UInt8) : Option (List UInt8) :=
  let field := text.dropWhile isBlank
  if field = [] then none else some (field.dropWhile isFieldByte)

/-- What follows the next fields of a text. -/
def afterFields : ℕ → List UInt8 → Option (List UInt8)
  | 0, text => some text
  | fields + 1, text => (afterField text).bind (afterFields fields)

/-- The number at the front of a text, if a blank or a line end follows it. -/
def numberAt (text : List UInt8) : Option UInt64 :=
  let conversion := conversionOf text
  if conversion.outOfRange = true ∨ conversion.stop.length = text.length then none
  else if conversion.stop.headD 0 ≠ blank ∧ conversion.stop.headD 0 ≠ newline then none
  else some conversion.value

/-- The start time that a text shows. -/
def startTimeOf (text : List UInt8) : Option UInt64 := do
  let name ← fromLast closeParen text
  let cursor ← afterFields (22 - 3) name.tail
  numberAt (cursor.dropWhile isBlank)

section Terminated

variable {text rest : List UInt8}

/-- The sign is looked for in the text only. -/
theorem skipSign_terminated :
    skipSign (text.headD 0) (text ++ 0 :: rest) = skipSign (text.headD 0) text ++ 0 :: rest := by
  cases text with
  | nil => rfl
  | cons c text =>
    rw [skipSign, skipSign]
    split
    · rfl
    · rfl

/-- The number does not depend on what follows the digits. -/
theorem convert_stop (sign : UInt8) (digits stop : List UInt8) :
    convert sign digits stop = { convert sign digits [] with stop := stop } := by
  rw [convert, convert]
  split
  · rfl
  · rfl

/-- `strtoull` stops at the terminator. -/
theorem strtoull_terminated : strtoull (text ++ 0 :: rest) =
    .ok { conversionOf text with stop := (conversionOf text).stop ++ 0 :: rest } := by
  have hspace : isSpace 0 = false := by decide
  have hdigit : isDigit 0 = false := by decide
  simp only [strtoull, skipWhile_terminated hspace, peek_terminated, skipSign_terminated,
    span_terminated hdigit, bind, Except.bind, conversionOf]
  split
  · rfl
  · rw [convert_stop]
    conv_rhs => rw [convert_stop]
    rfl

/-- A field is skipped in the text only. -/
theorem skipField_terminated (htext : 0 ∉ text) :
    skipField (text ++ 0 :: rest) = .ok ((afterField text).map (· ++ 0 :: rest)) := by
  have hblank : isBlank 0 = false := by decide
  have hfield : isFieldByte 0 = false := by decide
  simp only [skipField, skipWhile_terminated hblank, skipWhile_terminated hfield, peek_terminated,
    bind, Except.bind, afterField]
  -- the cursor is at the terminator exactly if nothing of the text is left
  have hend : (text.dropWhile isBlank).headD 0 = 0 ↔ text.dropWhile isBlank = [] := by
    cases hleft : text.dropWhile isBlank with
    | nil => simp
    | cons c left =>
      have hc : c ∈ text := (List.dropWhile_sublist _).subset (hleft ▸ List.mem_cons_self)
      simpa using fun hzero : c = 0 => htext (hzero ▸ hc)
  by_cases hleft : text.dropWhile isBlank = []
  · rw [if_pos (hend.mpr hleft), if_pos hleft]
    rfl
  · rw [if_neg (mt hend.mp hleft), if_neg hleft]
    rfl

/-- The text behind a field has no terminator. -/
theorem notMem_of_afterField {left : List UInt8} (htext : 0 ∉ text)
    (h : afterField text = some left) : 0 ∉ left := by
  intro hmem
  unfold afterField at h
  dsimp only at h
  split at h
  · contradiction
  · obtain rfl := Option.some.inj h
    have hfield := (List.dropWhile_sublist _).subset hmem
    exact htext ((List.dropWhile_sublist _).subset hfield)

/-- Fields are skipped in the text only. -/
theorem skipFields_terminated (fields : ℕ) (htext : 0 ∉ text) :
    skipFields fields (text ++ 0 :: rest) = .ok ((afterFields fields text).map (· ++ 0 :: rest)) := by
  induction fields generalizing text with
  | zero => rfl
  | succ fields ih =>
    rw [skipFields, skipField_terminated htext, afterFields]
    cases hleft : afterField text with
    | none => rfl
    | some left => exact ih (notMem_of_afterField htext hleft)

/-- The scan reads nothing behind the terminator, and its result is that of the text. -/
theorem scanStartTime_terminated (htext : 0 ∉ text) :
    scanStartTime (text ++ 0 :: rest) = .ok (startTimeOf text) := by
  have hblank : isBlank 0 = false := by decide
  rw [scanStartTime, findLast_terminated rest (by decide) htext, Option.or_none, startTimeOf]
  cases hname : fromLast closeParen text with
  | none => rfl
  | some name =>
    obtain ⟨front, back, rfl, hlist⟩ := exists_of_fromLast hname
    have hback : 0 ∉ back := by
      intro hmem
      exact htext (hlist ▸ List.mem_append_right front (List.mem_cons_of_mem _ hmem))
    change (skipFields (22 - 3) (back ++ 0 :: rest) >>= _) =
      .ok ((afterFields (22 - 3) back).bind fun cursor => numberAt (cursor.dropWhile isBlank))
    rw [skipFields_terminated _ hback]
    cases afterFields (22 - 3) back with
    | none => rfl
    | some cursor =>
      change (skipWhile isBlank (cursor ++ 0 :: rest) >>= _) = _
      rw [skipWhile_terminated hblank]
      change (strtoull (cursor.dropWhile isBlank ++ 0 :: rest) >>= _) = _
      rw [strtoull_terminated]
      simp only [numberAt, bind, Except.bind, Option.bind, peek_terminated, List.length_append,
        Nat.add_right_cancel_iff]
      split
      · rfl
      · split
        · rfl
        · rfl

end Terminated

/-- How `read_start_time` ends after its scan. -/
def startTimeOutcome : Option UInt64 → CallOutcome UInt64
  | none => .failure .einval
  | some ticks => .success ticks

/-- The buffer holds what was read, a terminator, and what was there before. -/
theorem statText_terminated (statText : StatText) (read : StatBytes) :
    ∃ stale, (copy statText.cells read.bytes >>= fun cells => store cells read.bytes.length 0) =
      .ok (read.bytes ++ 0 :: stale) := by
  have hsize := statText.length_eq
  have hread := read.length_le
  rw [statTextSize] at hsize hread
  have hlast : read.bytes.length < statText.cells.length := by omega
  have hlength : read.bytes.length <
      (read.bytes ++ statText.cells.drop read.bytes.length).length := by
    rw [List.length_append, List.length_drop]
    omega
  refine ⟨statText.cells.drop (read.bytes.length + 1), ?_⟩
  rw [copy, if_pos hlast.le]
  change store _ _ _ = _
  rw [store, if_pos hlength, List.set_append_right _ _ le_rfl, Nat.sub_self,
    List.drop_eq_getElem_cons hlast]
  rfl

/-- `read_start_time` finds what the text before the first NUL shows. -/
theorem readStartTime_returned (statText : StatText) {read : StatBytes} (later : List Pread)
    (h : read.bytes ≠ []) : readStartTime statText (.returned read :: later) =
      .ok (startTimeOutcome (startTimeOf (cText read.bytes))) := by
  obtain ⟨stale, hcells⟩ := statText_terminated statText read
  have hterminated : (0 : UInt8) ∈ read.bytes ++ 0 :: stale :=
    List.mem_append_right _ List.mem_cons_self
  obtain ⟨rest, hrest⟩ := exists_terminated hterminated
  rw [takeWhile_append_terminator] at hrest
  rw [readStartTime, if_neg (by simpa using h), ← bind_assoc, hcells, hrest]
  change (scanStartTime (_ ++ 0 :: rest) >>= _) = _
  rw [scanStartTime_terminated (notMem_takeWhile _), cText]
  cases startTimeOf (read.bytes.takeWhile (· ≠ 0)) with
  | none => rfl
  | some ticks => rfl

/-- Interrupted reads are repeated. -/
theorem readStartTime_interrupted (statText : StatText) (count : ℕ) (answers : List Pread) :
    readStartTime statText (List.replicate count .interrupted ++ answers) =
      readStartTime statText answers := by
  induction count with
  | zero => rfl
  | succ count ih => rw [List.replicate_succ, List.cons_append, readStartTime, ih]

/-! ## The line of a process -/

/-- The decimal digits of a number. -/
def decimalText (number : ℕ) : List UInt8 :=
  (Nat.toDigits 10 number).map fun c => UInt8.ofNat c.toNat

/-- Fields, each behind a blank. -/
def fieldsText (fields : List (List UInt8)) : List UInt8 := fields.flatMap (blank :: ·)

/-- The line of `/proc/PID/stat`; `fields` begin with field 3. -/
def statLine (pid : ℕ) (comm : List UInt8) (fields : List (List UInt8)) : List UInt8 :=
  decimalText pid ++ [blank, openParen] ++ comm ++ closeParen :: (fieldsText fields ++ [newline])

/-- A field without white space and parentheses. -/
structure StatField (field : List UInt8) : Prop where
  nonempty : field ≠ []
  unspaced : ∀ c ∈ field, isSpace c = false
  unopened : openParen ∉ field
  unclosed : closeParen ∉ field

instance (field : List UInt8) : Decidable (StatField field) :=
  decidable_of_iff (field ≠ [] ∧ (field.all fun c => !isSpace c) = true ∧ openParen ∉ field ∧
      closeParen ∉ field)
    ⟨fun ⟨hnonempty, hspace, hopen, hclose⟩ => ⟨hnonempty, by simpa using hspace, hopen, hclose⟩,
      fun h => ⟨h.nonempty, by simpa using h.unspaced, h.unopened, h.unclosed⟩⟩

section Line

variable {field rest digits : List UInt8} {early : List (List UInt8)}

/-- A part without a terminator is the front of the text. -/
theorem cText_append (h : 0 ∉ field) : cText (field ++ rest) = field ++ cText rest :=
  List.takeWhile_append_of_pos fun c hc => by
    simpa using fun hzero : c = 0 => h (hzero ▸ hc)

/-- A byte other than the terminator is the first of the text. -/
theorem cText_cons {c : UInt8} (h : c ≠ 0) : cText (c :: rest) = c :: cText rest :=
  List.takeWhile_cons_of_pos (by simpa using h)

/-- A part with a terminator ends the text. -/
theorem cText_of_mem (h : 0 ∈ field) : cText (field ++ rest) = cText field := by
  obtain ⟨front, back, rfl⟩ := List.append_of_mem h
  rw [List.append_assoc, List.cons_append, cText, takeWhile_append_terminator, cText,
    takeWhile_append_terminator]

/-- A field has no blank. -/
theorem StatField.notBlank (h : StatField field) : ∀ c ∈ field, c ≠ blank := by
  intro c hc hblank
  have hspace := h.unspaced c hc
  rw [hblank] at hspace
  exact absurd hspace (by decide)

/-- The blank before a field is skipped, and no more. -/
theorem dropWhile_isBlank (hfield : ∀ c ∈ field, isFieldByte c = true) (hnonempty : field ≠ []) :
    (blank :: (field ++ rest)).dropWhile isBlank = field ++ rest := by
  obtain ⟨c, field, rfl⟩ := List.exists_cons_of_ne_nil hnonempty
  have hbyte := hfield c List.mem_cons_self
  simp only [isFieldByte, decide_eq_true_eq] at hbyte
  have hc : ¬ isBlank c = true := by simpa [isBlank] using hbyte.2
  rw [List.dropWhile_cons_of_pos (by decide), List.cons_append, List.dropWhile_cons_of_neg hc]

/-- The cursor stops where the field ends. -/
theorem afterField_cons (hfield : ∀ c ∈ field, isFieldByte c = true) (hnonempty : field ≠ [])
    (hrest : rest.dropWhile isFieldByte = rest) :
    afterField (blank :: (field ++ rest)) = some rest := by
  have hleft : field ++ rest ≠ [] := fun hnil => hnonempty (List.append_eq_nil_iff.mp hnil).1
  rw [afterField, dropWhile_isBlank hfield hnonempty]
  rw [if_neg hleft, List.dropWhile_append_of_pos hfield, hrest]

/-- A field up to a terminator has bytes of fields only. -/
theorem StatField.cText_fieldBytes (h : StatField field) :
    ∀ c ∈ cText field, isFieldByte c = true := by
  intro c hc
  have hzero : c ≠ 0 := by simpa using List.mem_takeWhile_imp hc
  have hblank := h.notBlank c ((List.takeWhile_sublist _).subset hc)
  simpa [isFieldByte] using And.intro hzero hblank

/-- A field without a terminator has bytes of fields only. -/
theorem StatField.fieldBytes (h : StatField field) (hnul : 0 ∉ field) :
    ∀ c ∈ field, isFieldByte c = true := by
  have htext : cText field = field := by
    have happend : cText (field ++ []) = field ++ [] := cText_append hnul
    rwa [List.append_nil] at happend
  have hall := h.cText_fieldBytes
  rwa [htext] at hall

/-- Every field is written behind a blank. -/
theorem fieldsText_cons (fields : List (List UInt8)) :
    fieldsText (field :: fields) = blank :: (field ++ fieldsText fields) :=
  List.flatMap_cons

/-- Behind fields without NUL the cursor stops where they end. -/
theorem afterFields_fieldsText (hfields : ∀ field ∈ early, StatField field)
    (hnul : ∀ field ∈ early, 0 ∉ field) (hrest : rest.dropWhile isFieldByte = rest) :
    afterFields early.length (fieldsText early ++ rest) = some rest := by
  induction early with
  | nil => rfl
  | cons field early ih =>
    rw [List.forall_mem_cons] at hfields hnul
    -- the next field begins with a blank, so this one ends before it
    have hstop : (fieldsText early ++ rest).dropWhile isFieldByte = fieldsText early ++ rest := by
      cases early with
      | nil => exact hrest
      | cons field' early => rfl
    rw [fieldsText_cons, List.cons_append, List.append_assoc, List.length_cons, afterFields,
      afterField_cons (hfields.1.fieldBytes hnul.1) hfields.1.nonempty hstop]
    exact ih hfields.2 hnul.2

/-- At the end of the text fields are missing, or nothing is left behind them. -/
theorem afterFields_nil (fields : ℕ) :
    afterFields fields [] = none ∨ afterFields fields [] = some [] := by
  cases fields with
  | zero => exact Or.inr rfl
  | succ fields => exact Or.inl rfl

/-- A NUL in one of the fields ends the text there. -/
theorem afterFields_of_nul (hfields : ∀ field ∈ early, StatField field)
    (hnul : ∃ field ∈ early, 0 ∈ field) :
    afterFields early.length (cText (fieldsText early ++ rest)) = none ∨
      afterFields early.length (cText (fieldsText early ++ rest)) = some [] := by
  induction early with
  | nil =>
    obtain ⟨field, hmem, -⟩ := hnul
    cases hmem
  | cons field early ih =>
    rw [List.forall_mem_cons] at hfields
    rw [fieldsText_cons, List.cons_append, List.append_assoc, cText_cons (by decide),
      List.length_cons, afterFields]
    by_cases hzero : 0 ∈ field
    · rw [cText_of_mem hzero]
      by_cases hempty : cText field = []
      · rw [hempty]
        exact Or.inl rfl
      · have hfield : afterField (blank :: (cText field ++ [])) = some [] :=
          afterField_cons hfields.1.cText_fieldBytes hempty rfl
        rw [List.append_nil] at hfield
        rw [hfield]
        exact afterFields_nil early.length
    · have hlater : ∃ field ∈ early, 0 ∈ field := by
        obtain ⟨field', hmem, hmemZero⟩ := hnul
        rcases List.mem_cons.mp hmem with rfl | hmem
        · exact absurd hmemZero hzero
        · exact ⟨field', hmem, hmemZero⟩
      have hstop : (cText (fieldsText early ++ rest)).dropWhile isFieldByte =
          cText (fieldsText early ++ rest) := by
        cases early with
        | nil =>
          obtain ⟨field', hmem, -⟩ := hlater
          cases hmem
        | cons field' early =>
          rw [fieldsText_cons, List.cons_append, cText_cons (by decide)]
          rfl
      rw [cText_append hzero,
        afterField_cons (hfields.1.fieldBytes hzero) hfields.1.nonempty hstop]
      exact ih hfields.2 hlater

/-- A digit is one of ten bytes. -/
theorem isDigit_bounds {c : UInt8} (h : isDigit c = true) : 48 ≤ c.toNat ∧ c.toNat ≤ 57 := by
  simpa [isDigit, UInt8.le_iff_toNat_le] using h

/-- A digit is neither white space nor a sign nor the terminator. -/
theorem isDigit_plain {c : UInt8} (h : isDigit c = true) :
    isSpace c = false ∧ c ≠ 0x2D ∧ c ≠ 0x2B ∧ c ≠ 0 := by
  have hbounds := isDigit_bounds h
  refine ⟨?_, ?_, ?_, ?_⟩
  · simp only [isSpace, blank, decide_eq_false_iff_not, UInt8.le_iff_toNat_le, ← UInt8.toNat_inj,
      UInt8.reduceToNat]
    omega
  all_goals
    rintro rfl
    exact absurd hbounds (by decide)

/-- Digits in front of a blank or a line end are their number. -/
theorem numberAt_digits {c : UInt8} (hnonempty : digits ≠ [])
    (hdigits : ∀ d ∈ digits, isDigit d = true) (hlt : decimalValue digits < 2 ^ 64)
    (hc : c = blank ∨ c = newline) :
    numberAt (digits ++ c :: rest) = some (UInt64.ofNat (decimalValue digits)) := by
  have hstop : ¬ isDigit c = true := by
    rcases hc with rfl | rfl
    · decide
    · decide
  have hconversion : conversionOf (digits ++ c :: rest) =
      ⟨UInt64.ofNat (decimalValue digits), false, c :: rest⟩ := by
    obtain ⟨d, others, hcons⟩ := List.exists_cons_of_ne_nil hnonempty
    have hd := isDigit_plain (hdigits d (hcons ▸ List.mem_cons_self))
    have hstart : (digits ++ c :: rest).dropWhile isSpace = digits ++ c :: rest := by
      rw [hcons, List.cons_append, List.dropWhile_cons_of_neg (by simp [hd.1])]
    have hhead : (digits ++ c :: rest).headD 0 = d := by
      rw [hcons]
      rfl
    have hunsigned : skipSign d (digits ++ c :: rest) = digits ++ c :: rest :=
      if_neg (not_or.mpr ⟨hd.2.1, hd.2.2.1⟩)
    have htake : (digits ++ c :: rest).takeWhile isDigit = digits := by
      rw [List.takeWhile_append_of_pos hdigits, List.takeWhile_cons_of_neg hstop, List.append_nil]
    have hdrop : (digits ++ c :: rest).dropWhile isDigit = c :: rest := by
      rw [List.dropWhile_append_of_pos hdigits, List.dropWhile_cons_of_neg hstop]
    simp only [conversionOf, hstart, hhead, hunsigned, htake, hdrop]
    rw [if_neg hnonempty, convert, if_neg (Nat.not_le.mpr hlt), if_neg hd.2.1]
  have hmoved : ¬ (c :: rest).length = (digits ++ c :: rest).length := by
    have hpos := List.length_pos_of_ne_nil hnonempty
    rw [List.length_append]
    omega
  have haccepted : ¬ (c ≠ blank ∧ c ≠ newline) := by
    rcases hc with rfl | rfl
    · exact fun h => h.1 rfl
    · exact fun h => h.2 rfl
  simp only [numberAt, hconversion, List.headD_cons]
  rw [if_neg (by simpa using hmoved), if_neg haccepted]

/-- The bytes of written fields are blanks and their own. -/
theorem mem_fieldsText {c : UInt8} {fields : List (List UInt8)} (h : c ∈ fieldsText fields) :
    c = blank ∨ ∃ field ∈ fields, c ∈ field := by
  obtain ⟨field, hin, hbyte⟩ := List.mem_flatMap.mp h
  rcases List.mem_cons.mp hbyte with hblank | hbyte
  · exact Or.inl hblank
  · exact Or.inr ⟨field, hin, hbyte⟩

/-- Fields without a terminator are written without one. -/
theorem fieldsText_nulFree (hnul : ∀ field ∈ early, 0 ∉ field) : 0 ∉ fieldsText early := by
  intro hmem
  rcases mem_fieldsText hmem with hblank | ⟨field, hin, hbyte⟩
  · exact absurd hblank (by decide)
  · exact hnul field hin hbyte

/-- No field has the parenthesis that ends the name. -/
theorem closeParen_notMem_fieldsText {fields : List (List UInt8)}
    (hfields : ∀ field ∈ fields, StatField field) :
    closeParen ∉ fieldsText fields ++ [newline] := by
  intro hmem
  rcases List.mem_append.mp hmem with hfield | hend
  · rcases mem_fieldsText hfield with hblank | ⟨field, hin, hbyte⟩
    · exact absurd hblank (by decide)
    · exact (hfields field hin).unclosed hbyte
  · exact absurd (List.mem_singleton.mp hend) (by decide)

/-- A number is written without a terminator. -/
theorem decimalText_nulFree (number : ℕ) : 0 ∉ decimalText number := by
  intro hmem
  obtain ⟨c, hc, hzero⟩ := List.mem_map.mp hmem
  have hdigit := Nat.isDigit_of_mem_toDigits (by decide) (by decide) hc
  simp only [Char.isDigit, Bool.and_eq_true, decide_eq_true_eq, UInt32.le_iff_toNat_le] at hdigit
  have hbounds : 48 ≤ c.toNat ∧ c.toNat ≤ 57 := hdigit
  have hvalue : c.toNat % 2 ^ 8 = 0 := by
    rw [← UInt8.toNat_ofNat', hzero]
    rfl
  omega

/-- Whatever the command name holds, the fields are found behind its closing parenthesis. -/
theorem startTimeOf_statLine (pid : ℕ) {comm : List UInt8} (hcomm : 0 ∉ comm)
    {fields : List (List UInt8)} (hfields : ∀ field ∈ fields, StatField field) :
    startTimeOf (cText (statLine pid comm fields)) =
      (afterFields (22 - 3) (cText (fieldsText fields ++ [newline]))).bind fun cursor =>
        numberAt (cursor.dropWhile isBlank) := by
  have hfront : 0 ∉ decimalText pid ++ [blank, openParen] ++ comm := by
    simp only [List.mem_append, not_or]
    exact ⟨⟨decimalText_nulFree pid, by decide⟩, hcomm⟩
  have hback : closeParen ∉ cText (fieldsText fields ++ [newline]) := fun hmem =>
    closeParen_notMem_fieldsText hfields ((List.takeWhile_sublist _).subset hmem)
  rw [statLine, cText_append hfront, cText_cons (by decide), startTimeOf, fromLast_append _ hback]
  rfl

/-- The start time of a line is field 22, and it is found exactly if no field before it holds a
NUL. -/
theorem startTimeOf_statLine_iff (pid : ℕ) {comm : List UInt8} (hcomm : 0 ∉ comm)
    {fields : List (List UInt8)} (hfields : ∀ field ∈ fields, StatField field)
    (hfield : fields[19]? = some digits) (hdigits : ∀ c ∈ digits, isDigit c = true)
    (hlt : decimalValue digits < 2 ^ 64) :
    startTimeOf (cText (statLine pid comm fields)) =
      some (UInt64.ofNat (decimalValue digits)) ↔ ∀ field ∈ fields.take 19, 0 ∉ field := by
  obtain ⟨hindex, hat⟩ := List.getElem?_eq_some_iff.mp hfield
  have hlast := hfields digits (hat ▸ List.getElem_mem hindex)
  have hfree : 0 ∉ digits := fun hzero => (isDigit_plain (hdigits 0 hzero)).2.2.2 rfl
  have hearly : ∀ field ∈ fields.take 19, StatField field := fun field hmem =>
    hfields field (List.mem_of_mem_take hmem)
  have hcount : (fields.take 19).length = 22 - 3 := by
    rw [List.length_take]
    omega
  -- behind field 22 there is a blank or the line end
  obtain ⟨c, after, hc, hafter⟩ : ∃ c after, (c = blank ∨ c = newline) ∧
      fieldsText (fields.drop 20) ++ [newline] = c :: after := by
    cases fields.drop 20 with
    | nil => exact ⟨newline, [], Or.inr rfl, rfl⟩
    | cons field late => exact ⟨blank, _, Or.inl rfl, rfl⟩
  have hline : fieldsText fields ++ [newline] =
      fieldsText (fields.take 19) ++ blank :: (digits ++ c :: after) := by
    conv_lhs => rw [← List.take_append_drop 19 fields, List.drop_eq_getElem_cons hindex, hat]
    rw [fieldsText, List.flatMap_append, List.flatMap_cons, List.append_assoc, List.append_assoc,
      ← hafter]
    rfl
  rw [startTimeOf_statLine pid hcomm hfields, hline, ← hcount]
  constructor
  · intro hfound field hmem hnul
    rcases afterFields_of_nul hearly ⟨field, hmem, hnul⟩ with hnone | hempty
    · rw [hnone] at hfound
      contradiction
    · have hnothing : numberAt (([] : List UInt8).dropWhile isBlank) = none := by decide
      rw [hempty, Option.bind_some, hnothing] at hfound
      contradiction
  · intro hnul
    have htext : cText (blank :: (digits ++ c :: after)) = blank :: (digits ++ c :: cText after) := by
      have hcNul : c ≠ 0 := by
        rcases hc with rfl | rfl
        · decide
        · decide
      rw [cText_cons (by decide), cText_append hfree, cText_cons hcNul]
    rw [cText_append (fieldsText_nulFree hnul), htext, afterFields_fieldsText hearly hnul rfl,
      Option.bind_some, dropWhile_isBlank (hlast.fieldBytes hfree) hlast.nonempty]
    exact numberAt_digits hlast.nonempty hdigits hlt hc

/-- What `read_start_time` makes of the line of a process, after any number of interruptions. -/
theorem readStartTime_statLine (statText : StatText) (count : ℕ) (later : List Pread) (pid : ℕ)
    {comm : List UInt8} {fields : List (List UInt8)}
    (hlength : (statLine pid comm fields).length ≤ statTextSize - 1) :
    readStartTime statText (List.replicate count .interrupted ++
        .returned ⟨statLine pid comm fields, hlength⟩ :: later) =
      .ok (startTimeOutcome (startTimeOf (cText (statLine pid comm fields)))) := by
  rw [readStartTime_interrupted]
  refine readStartTime_returned statText later fun hnil => ?_
  have hclose : closeParen ∈ statLine pid comm fields :=
    List.mem_append_right _ List.mem_cons_self
  exact List.ne_nil_of_mem hclose hnil

/-- An identity is verified exactly if the recorded start time is read again. -/
theorem verifyIdentity_success_iff (statText : StatText) (identityFd : ℤ) (answers : List Pread)
    (startTimeTicks : UInt64) :
    verifyIdentity statText identityFd answers startTimeTicks = .ok (.success ()) ↔
      0 ≤ identityFd ∧ readStartTime statText answers = .ok (.success startTimeTicks) := by
  by_cases hfd : identityFd < 0
  · have hclosed : ¬ 0 ≤ identityFd := Int.not_le.mpr hfd
    simp [verifyIdentity, hfd, hclosed, pure, Except.pure]
  · have hopen : 0 ≤ identityFd := Int.not_lt.mp hfd
    rw [verifyIdentity, if_neg hfd]
    cases readStartTime statText answers with
    | error fault => simp [bind, Except.bind]
    | ok outcome =>
      cases outcome with
      | interrupted => simp [bind, Except.bind, pure, Except.pure]
      | failure error => simp [bind, Except.bind, pure, Except.pure]
      | success ticks =>
        by_cases hticks : ticks = startTimeTicks
        · simp [bind, Except.bind, pure, Except.pure, hticks, hopen]
        · simp [bind, Except.bind, pure, Except.pure, hticks]

/-- A process that reuses the number of another one is told from it by its start time, whatever the
two are called. -/
theorem verifyIdentity_statLine (statText : StatText) {identityFd : ℤ} (hfd : 0 ≤ identityFd)
    (pid : ℕ) {comm : List UInt8} (hcomm : 0 ∉ comm) {fields : List (List UInt8)}
    (hfields : ∀ field ∈ fields, StatField field) (hnul : ∀ field ∈ fields.take 19, 0 ∉ field)
    (hfield : fields[19]? = some digits) (hdigits : ∀ c ∈ digits, isDigit c = true)
    (hlt : decimalValue digits < 2 ^ 64)
    (hlength : (statLine pid comm fields).length ≤ statTextSize - 1) (count : ℕ)
    (later : List Pread) (startTimeTicks : UInt64) :
    verifyIdentity statText identityFd (List.replicate count .interrupted ++
        .returned ⟨statLine pid comm fields, hlength⟩ :: later) startTimeTicks =
      .ok (.success ()) ↔ startTimeTicks.toNat = decimalValue digits := by
  have hfound := (startTimeOf_statLine_iff pid hcomm hfields hfield hdigits hlt).mpr hnul
  rw [verifyIdentity_success_iff, readStartTime_statLine, hfound]
  simp only [startTimeOutcome, Except.ok.injEq, CallOutcome.success.injEq, hfd, true_and,
    ← UInt64.toNat_inj, UInt64.toNat_ofNat', Nat.mod_eq_of_lt hlt]
  exact eq_comm

end Line

/-- The start time of a process is read from its line whatever its command name is: field 22 is
returned exactly if no field before it holds a NUL. On any bytes the scan ends, and neither reads
behind the terminator nor depends on what is there. -/
theorem readStartTime_exact :
    (∀ (pid : ℕ) (comm : List UInt8) (fields : List (List UInt8)) (digits : List UInt8),
      0 ∉ comm → (∀ field ∈ fields, StatField field) → fields[19]? = some digits →
      (∀ c ∈ digits, isDigit c = true) → decimalValue digits < 2 ^ 64 →
      ∀ (hlength : (statLine pid comm fields).length ≤ statTextSize - 1) (statText : StatText)
        (count : ℕ) (later : List Pread),
        readStartTime statText (List.replicate count .interrupted ++
            .returned ⟨statLine pid comm fields, hlength⟩ :: later) =
          .ok (.success (UInt64.ofNat (decimalValue digits))) ↔
        ∀ field ∈ fields.take 19, 0 ∉ field) ∧
    (∀ bytes : List UInt8, ∃ result,
      (∀ stale, scanStartTime (cText bytes ++ 0 :: stale) = .ok result) ∧
      ∀ (hlength : bytes.length ≤ statTextSize - 1) (statText : StatText) (later : List Pread),
        bytes ≠ [] → readStartTime statText (.returned ⟨bytes, hlength⟩ :: later) =
          .ok (startTimeOutcome result)) := by
  constructor
  · intro pid comm fields digits hcomm hfields hfield hdigits hlt hlength statText count later
    rw [readStartTime_statLine, ← startTimeOf_statLine_iff pid hcomm hfields hfield hdigits hlt]
    cases startTimeOf (cText (statLine pid comm fields)) with
    | none => simp [startTimeOutcome]
    | some ticks => simp [startTimeOutcome]
  · intro bytes
    refine ⟨startTimeOf (cText bytes), fun stale => ?_, fun hlength statText later hbytes => ?_⟩
    · exact scanStartTime_terminated (notMem_takeWhile bytes)
    · exact readStartTime_returned statText later hbytes

section Sample

/-- A stack with anything on it. -/
def sampleStack : StatText := ⟨List.replicate statTextSize 0xFF, List.length_replicate⟩

/-- The fields from field 3 on, with start time 42. -/
def sampleFields (state : List UInt8) : List (List UInt8) :=
  state :: List.replicate 18 [0x30] ++ [[0x34, 0x32]]

/-- A command name that imitates the rest of a line, `x) R 1 (`. -/
def sampleComm : List UInt8 := [0x78, 0x29, 0x20, 0x52, 0x20, 0x31, 0x20, 0x28]

/-- A process name that imitates the end of a name does not mislead the reader. -/
theorem readStartTime_exact_imitation :
    readStartTime sampleStack
      [.interrupted, .returned ⟨statLine 7 sampleComm (sampleFields [0x53]), by decide⟩] =
        .ok (.success 42) := by
  have hdigits : ∀ c ∈ [0x34, 0x32], isDigit c = true := List.all_eq_true.mp (by decide)
  exact (readStartTime_exact.1 7 sampleComm (sampleFields [0x53]) [0x34, 0x32] (by decide)
    (by decide) rfl hdigits (by decide) (by decide) sampleStack 1 []).mpr (by decide)

/-- A NUL in field 3 ends the text there, and field 22 is not found. -/
theorem readStartTime_nul :
    0 ∉ sampleComm ∧ (∀ field ∈ sampleFields [0x53, 0], StatField field) ∧
      (sampleFields [0x53, 0])[19]? = some [0x34, 0x32] ∧
      readStartTime sampleStack
        [.returned ⟨statLine 7 sampleComm (sampleFields [0x53, 0]), by decide⟩] =
          .ok (.failure .einval) := by
  decide +kernel

end Sample

end Roadcast
