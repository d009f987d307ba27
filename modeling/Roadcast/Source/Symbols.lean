import Roadcast.Catalog.Decode
import Roadcast.Source.ElfBounds
import Mathlib.Data.List.MinMax

/-!
# What symbol resolution finds

The segment is the first of the lowest loaded ones. A frame's value is that of the first symbol of
its name that is not zero, unless the scan ends before it: `found` counts every match, also one whose
value is zero and which leaves its frame without a value.
-/

namespace Roadcast

open Checked

/-! ## The lowest segment -/

/-- The loaded segments. -/
def loadSegments (programs : List ElfProgram) : List ElfProgram :=
  programs.filter fun program => decide (program.type = ptLoad)

/-- The first of the loaded segments with the least address. -/
def lowestLoad (programs : List ElfProgram) : Option ElfProgram :=
  (loadSegments programs).argmin fun program => program.vaddr.toNat

/-- The loaded segments of headers one after the other. -/
theorem loadSegments_append (programs rest : List ElfProgram) :
    loadSegments (programs ++ rest) = loadSegments programs ++ loadSegments rest :=
  List.filter_append ..

/-- The lowest segment is one of the loaded ones. -/
theorem lowestLoad_mem {programs : List ElfProgram} {program : ElfProgram}
    (h : lowestLoad programs = some program) : program ∈ loadSegments programs :=
  List.argmin_mem (Option.mem_def.mpr h)

/-- No loaded segment is below the lowest one. -/
theorem lowestLoad_le {programs : List ElfProgram} {program : ElfProgram}
    (h : lowestLoad programs = some program) :
    ∀ segment ∈ loadSegments programs, program.vaddr.toNat ≤ segment.vaddr.toNat := by
  intro segment hsegment
  exact List.le_of_mem_argmin (f := fun program : ElfProgram => program.vaddr.toNat) hsegment
    (Option.mem_def.mpr h)

/-- The lowest segment is loaded. -/
theorem lowestLoad_type {programs : List ElfProgram} {program : ElfProgram}
    (h : lowestLoad programs = some program) : program.type = ptLoad :=
  of_decide_eq_true (List.mem_filter.mp (lowestLoad_mem h)).2

/-- One more loaded segment is the lowest if it is strictly lower. -/
theorem lowestLoad_concat (programs : List ElfProgram) {program : ElfProgram}
    (htype : program.type = ptLoad) :
    lowestLoad (programs ++ [program]) = (lowestLoad programs).elim (some program) fun best =>
      if program.vaddr < best.vaddr then some program else some best := by
  have hkept : loadSegments [program] = [program] := by
    rw [loadSegments, List.filter_singleton, decide_eq_true htype]
    rfl
  rw [lowestLoad, loadSegments_append, hkept, List.argmin_concat, ← lowestLoad]
  cases lowestLoad programs with
  | none => rfl
  | some best => rfl

/-- A segment that is not loaded does not count. -/
theorem lowestLoad_concat_of_type (programs : List ElfProgram) {program : ElfProgram}
    (htype : program.type ≠ ptLoad) : lowestLoad (programs ++ [program]) = lowestLoad programs := by
  have hskipped : loadSegments [program] = [] := by
    rw [loadSegments, List.filter_singleton, decide_eq_false htype]
    rfl
  rw [lowestLoad, loadSegments_append, hskipped, List.append_nil, lowestLoad]

/-- A strictly lower segment is taken. -/
theorem lower_of_lt {best : LoadSegment} {program : ElfProgram} (htype : program.type = ptLoad)
    (h : program.vaddr < best.vaddr) : best.lower program = ⟨program.vaddr, program.offset⟩ :=
  if_pos ⟨htype, h⟩

/-- A segment that is not lower is not taken. -/
theorem lower_of_le {best : LoadSegment} {program : ElfProgram}
    (h : best.vaddr ≤ program.vaddr) : best.lower program = best :=
  if_neg fun hboth => UInt64.not_lt.mpr h hboth.2

/-- A segment that is not loaded is not taken. -/
theorem lower_of_type {best : LoadSegment} {program : ElfProgram} (h : program.type ≠ ptLoad) :
    best.lower program = best :=
  if_neg fun hboth => h hboth.1

/-- The search starts above every address. -/
theorem le_noVaddr (vaddr : UInt64) : vaddr ≤ noVaddr := by
  have hlt := vaddr.toNat_lt
  have hmax : noVaddr.toNat = 2 ^ 64 - 1 := rfl
  rw [UInt64.le_iff_toNat_le]
  omega

/-- The loop over the program headers keeps the first of the lowest segments. -/
theorem foldl_lower (programs : List ElfProgram) :
    programs.foldl LoadSegment.lower ⟨noVaddr, 0⟩ =
      (lowestLoad programs).elim ⟨noVaddr, 0⟩ (LoadSegment.lower ⟨noVaddr, 0⟩) := by
  induction programs using List.reverseRecOn with
  | nil => rfl
  | append_singleton programs program ih =>
    rw [List.foldl_append, List.foldl_cons, List.foldl_nil, ih]
    by_cases htype : program.type = ptLoad
    · rw [lowestLoad_concat programs htype]
      cases hbest : lowestLoad programs with
      | none => rfl
      | some best =>
        have hbestType := lowestLoad_type hbest
        change ((LoadSegment.lower ⟨noVaddr, 0⟩ best).lower program) =
          (if program.vaddr < best.vaddr then some program else some best).elim _ _
        -- the segment kept so far has the address of `best`, also if that is `noVaddr`
        have hvaddr : (LoadSegment.lower ⟨noVaddr, 0⟩ best).vaddr = best.vaddr := by
          rcases UInt64.lt_or_eq_of_le (le_noVaddr best.vaddr) with hlt | heq
          · rw [lower_of_lt hbestType hlt]
          · rw [lower_of_le (UInt64.le_of_eq heq.symm)]
            exact heq.symm
        split
        · rename_i hlt
          rw [lower_of_lt htype (hvaddr.symm ▸ hlt)]
          exact (lower_of_lt htype (UInt64.lt_of_lt_of_le hlt (le_noVaddr _))).symm
        · rename_i hle
          exact lower_of_le (hvaddr.symm ▸ UInt64.not_lt.mp hle)
    · rw [lowestLoad_concat_of_type programs htype, lower_of_type htype]

/-- A segment that is accepted is the first of the lowest ones. -/
theorem exists_lowestLoad {programs : List ElfProgram}
    (h : (programs.foldl LoadSegment.lower ⟨noVaddr, 0⟩).vaddr ≠ noVaddr) :
    ∃ program, lowestLoad programs = some program ∧
      programs.foldl LoadSegment.lower ⟨noVaddr, 0⟩ = ⟨program.vaddr, program.offset⟩ := by
  rw [foldl_lower] at h ⊢
  cases hbest : lowestLoad programs with
  | none =>
    rw [hbest] at h
    exact absurd rfl h
  | some program =>
    rw [hbest] at h
    refine ⟨program, rfl, ?_⟩
    rcases UInt64.lt_or_eq_of_le (le_noVaddr program.vaddr) with hlt | heq
    · exact lower_of_lt (lowestLoad_type hbest) hlt
    · have hkept : LoadSegment.lower ⟨noVaddr, 0⟩ program = ⟨noVaddr, 0⟩ :=
        lower_of_le (UInt64.le_of_eq heq.symm)
      exact absurd (congrArg LoadSegment.vaddr hkept) h

/-! ## Names of frames -/

/-- Different digits are written differently. -/
theorem upperDigit_inj {a b : ℕ} (ha : a < 16) (hb : b < 16) (h : upperDigit a = upperDigit b) :
    a = b := by
  have hall : ∀ a < 16, ∀ b < 16, upperDigit a = upperDigit b → a = b := by decide
  exact hall a ha b hb h

/-- Different numbers are written differently. -/
theorem hexText_injective : Function.Injective hexText := by
  intro a b h
  have ha := a.toNat_lt
  have hb := b.toNat_lt
  obtain ⟨hfirst, hrest⟩ := List.append_inj' h rfl
  simp only [List.cons.injEq, and_true] at hrest
  obtain ⟨hthird, hsecond, hlast⟩ := hrest
  have hthird := upperDigit_inj (by omega) (by omega) hthird
  have hsecond := upperDigit_inj (by omega) (by omega) hsecond
  have hlast := upperDigit_inj (by omega) (by omega) hlast
  have htop : a.toNat / 0x1000 = b.toNat / 0x1000 := by
    split at hfirst
    · split at hfirst
      · exact upperDigit_inj (by omega) (by omega) (List.cons.inj hfirst).1
      · cases hfirst
    · split at hfirst
      · cases hfirst
      · omega
  exact UInt16.toNat_inj.mp (by omega)

/-- Different CAN IDs have different symbol names. -/
theorem expectedName_injective : Function.Injective expectedName :=
  fun _ _ h => hexText_injective (List.append_cancel_left h)

/-! ## The scan without its early end -/

section Scan

variable {frameCount : ℕ} {canIds : Fin frameCount → UInt16}

/-- The name and the value of a symbol. -/
abbrev SymbolEntry : Type := Option (List UInt8) × UInt64

/-- The symbol has the name of a frame. -/
def Names (canIds : Fin frameCount → UInt16) (entry : SymbolEntry) (frame : Fin frameCount) : Prop :=
  entry.1 = some (expectedName (canIds frame))

instance (entry : SymbolEntry) (frame : Fin frameCount) : Decidable (Names canIds entry frame) :=
  inferInstanceAs (Decidable (_ = _))

/-- The value of the first symbol with the name of a frame that is not zero, or 0. -/
def frameValue (canIds : Fin frameCount → UInt16) (entries : List SymbolEntry)
    (frame : Fin frameCount) : UInt64 :=
  ((entries.find? fun entry => decide (Names canIds entry frame ∧ entry.2 ≠ 0)).map
    Prod.snd).getD 0

/-- The first symbol of a frame with a value decides. -/
theorem frameValue_cons (entry : SymbolEntry) (entries : List SymbolEntry)
    (frame : Fin frameCount) :
    frameValue canIds (entry :: entries) frame =
      if Names canIds entry frame ∧ entry.2 ≠ 0 then entry.2 else frameValue canIds entries frame := by
  rw [frameValue, List.find?_cons]
  by_cases h : Names canIds entry frame ∧ entry.2 ≠ 0
  · rw [decide_eq_true h, if_pos h]
    rfl
  · rw [decide_eq_false h, if_neg h]
    rfl

variable {scan : SymbolScan frameCount} {entry : SymbolEntry}

/-- A frame that is given a value has it. -/
theorem values_give_self (scan : SymbolScan frameCount) (value : UInt64)
    (frame : Fin frameCount) : (scan.give value frame).values frame = value :=
  Function.update_self ..

/-- The other frames keep their values. -/
theorem values_give_of_ne (scan : SymbolScan frameCount) (value : UInt64)
    {frame other : Fin frameCount} (h : other ≠ frame) :
    (scan.give value frame).values other = scan.values other :=
  Function.update_of_ne h ..

/-- Without a frame that lacks a value and has its name, a symbol changes nothing. -/
theorem add_of_not_names (h : ∀ frame, Names canIds entry frame → scan.values frame ≠ 0) :
    scan.add canIds entry = scan := by
  have hnone : (entry.1.bind fun text => scan.taker canIds text (List.finRange frameCount)) =
      none := by
    rw [Option.bind_eq_none_iff]
    intro text htext
    rw [SymbolScan.taker, List.find?_eq_none]
    intro frame _ htaken
    obtain ⟨hfree, hname⟩ := of_decide_eq_true htaken
    exact h frame (htext.trans (congrArg some hname)) hfree
  rw [SymbolScan.add, hnone]
  rfl

/-- A symbol goes to the frame of its name. -/
theorem add_of_names (hids : Function.Injective canIds) {frame : Fin frameCount}
    (hname : Names canIds entry frame) (hfree : scan.values frame = 0) :
    scan.add canIds entry = scan.give entry.2 frame := by
  have htaker : scan.taker canIds (expectedName (canIds frame)) (List.finRange frameCount) =
      some frame := by
    cases htaken : scan.taker canIds (expectedName (canIds frame)) (List.finRange frameCount) with
    | none =>
      exact absurd (decide_eq_true ⟨hfree, rfl⟩)
        (List.find?_eq_none.mp htaken frame (List.mem_finRange frame))
    | some taker =>
      have htakes := List.find?_some htaken
      have hsame := (of_decide_eq_true htakes).2
      exact congrArg some (hids (expectedName_injective hsame)).symm
  rw [SymbolScan.add, hname]
  change ((scan.taker canIds _ _).elim scan _) = _
  rw [htaker]
  rfl

/-- A symbol gives its value to the frame that it names, if this one has none. -/
theorem values_add (hids : Function.Injective canIds) (frame : Fin frameCount) :
    (scan.add canIds entry).values frame =
      if Names canIds entry frame ∧ scan.values frame = 0 then entry.2 else scan.values frame := by
  by_cases htaken : ∃ taker, Names canIds entry taker ∧ scan.values taker = 0
  · obtain ⟨taker, hname, hfree⟩ := htaken
    rw [add_of_names hids hname hfree]
    by_cases hframe : frame = taker
    · rw [hframe, if_pos ⟨hname, hfree⟩, values_give_self]
    · have hother : ¬(Names canIds entry frame ∧ scan.values frame = 0) := by
        rintro ⟨hnamed, -⟩
        exact hframe (hids (expectedName_injective (Option.some.inj (hnamed.symm.trans hname))))
      rw [if_neg hother, values_give_of_ne scan _ hframe]
  · rw [add_of_not_names fun taker hname hfree => htaken ⟨taker, hname, hfree⟩,
      if_neg fun hboth => htaken ⟨frame, hboth⟩]

/-- A scan over all symbols keeps the values it has and finds the others. -/
theorem values_foldl_add (hids : Function.Injective canIds) (entries : List SymbolEntry)
    (scan : SymbolScan frameCount) (frame : Fin frameCount) :
    (entries.foldl (SymbolScan.add canIds) scan).values frame =
      if scan.values frame = 0 then frameValue canIds entries frame else scan.values frame := by
  induction entries generalizing scan with
  | nil =>
    split
    · rename_i hfree
      exact hfree
    · rfl
  | cons entry entries ih =>
    rw [List.foldl_cons, ih, values_add hids, frameValue_cons]
    by_cases hfree : scan.values frame = 0
    · by_cases hname : Names canIds entry frame
      · by_cases hvalue : entry.2 = 0
        · simp [hfree, hname, hvalue]
        · simp [hfree, hname, hvalue]
      · simp [hfree, hname]
    · simp [hfree]

/-! ## The early end -/

/-- What a list of symbols makes of an empty scan, without its early end. -/
def scanned (canIds : Fin frameCount → UInt16) (entries : List SymbolEntry) :
    SymbolScan frameCount :=
  entries.foldl (SymbolScan.add canIds) ⟨fun _ => 0, 0⟩

/-- The scan leaves each frame with the value of its first symbol. -/
theorem values_scanned (hids : Function.Injective canIds) (entries : List SymbolEntry)
    (frame : Fin frameCount) :
    (scanned canIds entries).values frame = frameValue canIds entries frame := by
  rw [scanned, values_foldl_add hids, if_pos rfl]

/-- The scan, one symbol at a time. -/
theorem scanned_concat (front : List SymbolEntry) (entry : SymbolEntry) :
    scanned canIds (front ++ [entry]) = (scanned canIds front).add canIds entry := by
  rw [scanned, List.foldl_append]
  rfl

/-- The symbol has the name of a frame for which no symbol in front of it has a value. -/
def Matches (canIds : Fin frameCount → UInt16) (front : List SymbolEntry) (entry : SymbolEntry) :
    Prop :=
  ∃ frame, Names canIds entry frame ∧ frameValue canIds front frame = 0

instance (front : List SymbolEntry) (entry : SymbolEntry) : Decidable (Matches canIds front entry) :=
  inferInstanceAs (Decidable (∃ _, _))

/-- The matches in a list of symbols that stands behind another one. -/
def matchCountFrom (canIds : Fin frameCount → UInt16) :
    List SymbolEntry → List SymbolEntry → ℕ
  | _, [] => 0
  | front, entry :: rest =>
    (if Matches canIds front entry then 1 else 0) + matchCountFrom canIds (front ++ [entry]) rest

/-- The matches in a list of symbols. -/
def matchCount (canIds : Fin frameCount → UInt16) (entries : List SymbolEntry) : ℕ :=
  matchCountFrom canIds [] entries

/-- A symbol is counted if it gives a frame its value. -/
theorem found_add (hids : Function.Injective canIds) (front : List SymbolEntry)
    (entry : SymbolEntry) :
    ((scanned canIds front).add canIds entry).found =
      (scanned canIds front).found + if Matches canIds front entry then 1 else 0 := by
  by_cases hmatches : Matches canIds front entry
  · obtain ⟨frame, hname, hfree⟩ := hmatches
    rw [← values_scanned hids] at hfree
    rw [add_of_names hids hname hfree, if_pos ⟨frame, hname, values_scanned hids front frame ▸ hfree⟩]
    rfl
  · have hkept : ∀ frame, Names canIds entry frame → (scanned canIds front).values frame ≠ 0 := by
      intro frame hname hfree
      rw [values_scanned hids] at hfree
      exact hmatches ⟨frame, hname, hfree⟩
    rw [add_of_not_names hkept, if_neg hmatches, Nat.add_zero]

/-- `found` counts the matches. -/
theorem found_scanned (hids : Function.Injective canIds) (front rest : List SymbolEntry) :
    (scanned canIds (front ++ rest)).found =
      (scanned canIds front).found + matchCountFrom canIds front rest := by
  induction rest generalizing front with
  | nil => rw [List.append_nil, matchCountFrom, Nat.add_zero]
  | cons entry rest ih =>
    rw [List.append_cons, ih, scanned_concat, found_add hids, matchCountFrom, Nat.add_assoc]

/-- The scan counts the symbols that match. -/
theorem found_eq_matchCount (hids : Function.Injective canIds) (entries : List SymbolEntry) :
    (scanned canIds entries).found = matchCount canIds entries := by
  have h := found_scanned hids [] entries
  rw [List.nil_append] at h
  rw [h, matchCount]
  exact Nat.zero_add _

/-- Symbols in front decide before those behind them. -/
theorem frameValue_append (front rest : List SymbolEntry) (frame : Fin frameCount) :
    frameValue canIds (front ++ rest) frame =
      if frameValue canIds front frame = 0 then frameValue canIds rest frame
      else frameValue canIds front frame := by
  induction front with
  | nil => rfl
  | cons entry front ih =>
    rw [List.cons_append, frameValue_cons, frameValue_cons, ih]
    by_cases hentry : Names canIds entry frame ∧ entry.2 ≠ 0
    · rw [if_pos hentry, if_pos hentry, if_neg hentry.2]
    · rw [if_neg hentry, if_neg hentry]

/-- The first symbol of a frame that is not zero is the first one after which it has a value. -/
theorem frameValue_append_eq_iff {front rest : List SymbolEntry} :
    (∀ frame, frameValue canIds (front ++ rest) frame = frameValue canIds front frame) ↔
      ∀ middle entry back, rest = middle ++ entry :: back →
        Matches canIds (front ++ middle) entry → entry.2 = 0 := by
  constructor
  · rintro hsame middle entry back rfl ⟨frame, hname, hfree⟩
    by_contra hvalue
    have hwhole := hsame frame
    rw [← List.append_assoc, frameValue_append, if_pos hfree, frameValue_cons,
      if_pos ⟨hname, hvalue⟩] at hwhole
    rw [frameValue_append] at hfree
    split at hfree
    · rename_i hfront
      exact hvalue (hwhole.trans hfront)
    · rename_i hfront
      exact hfront hfree
  · intro hnone frame
    rw [frameValue_append]
    split
    · rename_i hfree
      rw [hfree]
      by_contra hvalue
      -- the symbol that gives the frame its value
      cases hfind : rest.find? fun entry => decide (Names canIds entry frame ∧ entry.2 ≠ 0) with
      | none =>
        rw [frameValue, hfind] at hvalue
        exact hvalue rfl
      | some entry =>
        obtain ⟨hentry, middle, back, rfl, hbefore⟩ := List.find?_eq_some_iff_append.mp hfind
        have hentry := of_decide_eq_true hentry
        have hmiddle : frameValue canIds middle frame = 0 := by
          have hnever : middle.find? (fun entry => decide (Names canIds entry frame ∧ entry.2 ≠ 0)) =
              none := by
            refine List.find?_eq_none.mpr fun a ha => ?_
            rw [Bool.not_eq_true, ← Bool.not_eq_true']
            exact hbefore a ha
          rw [frameValue, hnever]
          rfl
        refine hentry.2 (hnone middle entry back rfl ⟨frame, hentry.1, ?_⟩)
        rw [frameValue_append, if_pos hfree, hmiddle]
    · rfl

/-- Before the first symbol of a frame that is not zero, there are fewer matches than frames. -/
def ScanReaches (canIds : Fin frameCount → UInt16) (front rest : List SymbolEntry) : Prop :=
  ∀ middle entry back, rest = middle ++ entry :: back → Matches canIds (front ++ middle) entry →
    entry.2 ≠ 0 → matchCount canIds (front ++ middle) < frameCount

/-- The scan goes on as long as not every frame was found. -/
theorem scanReaches_cons {front rest : List SymbolEntry} {entry : SymbolEntry}
    (h : matchCount canIds front < frameCount) :
    ScanReaches canIds front (entry :: rest) ↔ ScanReaches canIds (front ++ [entry]) rest := by
  constructor
  · rintro hreaches middle other back rfl hmatches hvalue
    rw [← List.append_cons] at hmatches ⊢
    exact hreaches (entry :: middle) other back rfl hmatches hvalue
  · rintro hreaches middle other back hsplit hmatches hvalue
    cases middle with
    | nil => rwa [List.append_nil]
    | cons first middle =>
      obtain ⟨rfl, rfl⟩ := List.cons.inj hsplit
      rw [List.append_cons] at hmatches ⊢
      exact hreaches middle other back rfl hmatches hvalue

/-- The scan finds the first symbol that is not zero of every frame exactly if its early end comes
after all of them. -/
theorem scanEntries_iff (hids : Function.Injective canIds) (front rest : List SymbolEntry) :
    (∀ frame, (scanEntries canIds rest (scanned canIds front)).values frame =
        frameValue canIds (front ++ rest) frame) ↔
      ScanReaches canIds front rest := by
  induction rest generalizing front with
  | nil =>
    refine iff_of_true (fun frame => ?_) fun middle entry back h => ?_
    · rw [List.append_nil]
      exact values_scanned hids front frame
    · exact absurd h.symm (List.append_ne_nil_of_right_ne_nil _ (List.cons_ne_nil _ _))
  | cons entry rest ih =>
    rw [scanEntries]
    by_cases hfull : frameCount ≤ (scanned canIds front).found
    · -- the scan ends here: nothing may be left to find
      rw [if_pos hfull]
      have hcount (middle : List SymbolEntry) :
          ¬matchCount canIds (front ++ middle) < frameCount := by
        rw [← found_eq_matchCount hids, found_scanned hids]
        omega
      have hvalues : (∀ frame, (scanned canIds front).values frame =
          frameValue canIds (front ++ entry :: rest) frame) ↔
          ∀ frame, frameValue canIds (front ++ entry :: rest) frame =
            frameValue canIds front frame :=
        forall_congr' fun frame => by rw [values_scanned hids, eq_comm]
      rw [hvalues, frameValue_append_eq_iff]
      constructor
      · intro hnone middle other back hsplit hmatches hvalue
        exact absurd (hnone middle other back hsplit hmatches) hvalue
      · intro hreaches middle other back hsplit hmatches
        by_contra hvalue
        exact hcount middle (hreaches middle other back hsplit hmatches hvalue)
    · rw [if_neg hfull, ← scanned_concat, List.append_cons front entry rest, ih (front ++ [entry])]
      rw [found_eq_matchCount hids, Nat.not_le] at hfull
      exact (scanReaches_cons hfull).symm

/-- A zero value for a frame without one is counted and leaves the values as they are. -/
theorem add_zero_value (frame : Fin frameCount) (found : ℕ) :
    SymbolScan.add canIds ⟨fun _ => 0, found⟩ (some (expectedName (canIds frame)), 0) =
      ⟨fun _ => 0, found + 1⟩ := by
  rw [SymbolScan.add]
  change (SymbolScan.taker canIds _ _ _).elim _ _ = _
  cases htaken : SymbolScan.taker canIds ⟨fun _ => 0, found⟩ (expectedName (canIds frame))
      (List.finRange frameCount) with
  | none =>
    exact absurd (decide_eq_true ⟨rfl, rfl⟩)
      (List.find?_eq_none.mp htaken frame (List.mem_finRange frame))
  | some taker =>
    exact congrArg (SymbolScan.mk · (found + 1)) (Function.update_eq_self taker fun _ => 0)

/-- As many zero values as there are frames end the scan, whatever follows them. -/
theorem scanEntries_zeros (frame : Fin frameCount) (rest : List SymbolEntry) {found zeros : ℕ}
    (hzeros : found + zeros = frameCount) :
    (scanEntries canIds (List.replicate zeros (some (expectedName (canIds frame)), 0) ++ rest)
      ⟨fun _ => 0, found⟩).values = fun _ => 0 := by
  induction zeros generalizing found with
  | zero =>
    cases rest with
    | nil => rfl
    | cons entry rest =>
      have hfull : frameCount ≤ found := by omega
      rw [List.replicate_zero, List.nil_append, scanEntries, if_pos hfull]
  | succ zeros ih =>
    have hroom : ¬frameCount ≤ found := by omega
    rw [List.replicate_succ, List.cons_append, scanEntries, if_neg hroom, add_zero_value]
    exact ih (by omega)

end Scan

/-! ## A whole call -/

/-- The header of a file. -/
def fileHeader (file : List UInt8) : ElfHeader := ElfHeader.decode (file.take ehdrSize)

/-- The symbols of the table that is chosen in a file. -/
def tableEntries (file : List UInt8) : List SymbolEntry :=
  (chosenTable (elfSections file (fileHeader file))).elim [] fun symbols =>
    symbolEntries file symbols (sectionAt file (fileHeader file) symbols.link.toNat)

/-- A call that succeeds has read the file that is mapped. -/
theorem resolved_of_resolveSymbols {frameCount : ℕ} {canIds : Fin frameCount → UInt16}
    {file : MappedFile} {out result : Resolution frameCount}
    (hcall : resolveSymbols canIds (some file) out = .ok (none, result)) :
    ∃ symbols strings,
      Resolved canIds file.bytes (fileHeader file.bytes) symbols strings result := by
  obtain ⟨returned, hreturned, hcases⟩ := returns_resolveSymbols (some file) out
  obtain rfl := Except.ok.inj (hcall.symm.trans hreturned)
  rcases hcases with ⟨hfailed, -⟩ | ⟨-, mapped, hmapped, header, symbols, strings, h⟩
  · exact absurd rfl hfailed
  · obtain rfl := Option.some.inj hmapped
    obtain rfl : header = fileHeader file.bytes := h.accepted.header_eq
    exact ⟨symbols, strings, h⟩

/-- A resolution has the address and the offset of the lowest segment. -/
theorem Resolved.lowest {frameCount : ℕ} {canIds : Fin frameCount → UInt16} {file : List UInt8}
    {header : ElfHeader} {symbols strings : ElfSection} {out : Resolution frameCount}
    (h : Resolved canIds file header symbols strings out) :
    ∃ program, lowestLoad (elfPrograms file header) = some program ∧
      out.load = ⟨program.vaddr, program.offset⟩ := by
  have hload := h.load_ne
  rw [h.load] at hload
  obtain ⟨program, hprogram, hlowest⟩ := exists_lowestLoad hload
  exact ⟨program, hprogram, h.load.trans hlowest⟩

/-- A call that succeeds returns the first of the lowest loaded segments. It returns for every frame
the first value of its name that is not zero exactly if, in the table, fewer symbols than there are
frames match before each of these values. -/
theorem resolveSymbols_first_iff {frameCount : ℕ} {canIds : Fin frameCount → UInt16}
    (hids : Function.Injective canIds) {file : MappedFile} {out result : Resolution frameCount}
    (hcall : resolveSymbols canIds (some file) out = .ok (none, result)) :
    (∃ program, lowestLoad (elfPrograms file.bytes (fileHeader file.bytes)) = some program ∧
      result.load = ⟨program.vaddr, program.offset⟩) ∧
    ((∀ frame, result.values frame = frameValue canIds (tableEntries file.bytes) frame) ↔
      ScanReaches canIds [] (tableEntries file.bytes)) := by
  obtain ⟨symbols, strings, h⟩ := resolved_of_resolveSymbols hcall
  refine ⟨h.lowest, ?_⟩
  have hentries : tableEntries file.bytes = symbolEntries file.bytes symbols strings := by
    rw [tableEntries, h.tables.chosen, h.tables.strings_eq]
    rfl
  rw [hentries, h.values]
  exact scanEntries_iff hids [] _

section Files

/-- A little-endian number of `size` bytes. -/
def leBytes (size number : ℕ) : List UInt8 :=
  (List.range size).map fun i => UInt8.ofNat (number / 256 ^ i % 256)

/-- A number takes as many bytes as it is given. -/
theorem leBytes_length (size number : ℕ) : (leBytes size number).length = size := by
  rw [leBytes, List.length_map, List.length_range]

/-- A header with one program header at 64 and three section headers at 120. -/
def headerBytes : List UInt8 :=
  [0x7F, 0x45, 0x4C, 0x46, 2, 1, 1] ++ leBytes 9 0 ++ leBytes 2 2 ++ leBytes 2 183 ++ leBytes 4 1 ++
    leBytes 8 0 ++ leBytes 8 64 ++ leBytes 8 120 ++ leBytes 4 0 ++ leBytes 2 64 ++ leBytes 2 56 ++
    leBytes 2 1 ++ leBytes 2 64 ++ leBytes 2 3 ++ leBytes 2 0

/-- A loaded segment in a file. -/
def segmentBytes (offset vaddr size : ℕ) : List UInt8 :=
  leBytes 4 1 ++ leBytes 4 5 ++ leBytes 8 offset ++ leBytes 8 vaddr ++ leBytes 8 vaddr ++
    leBytes 8 size ++ leBytes 8 size ++ leBytes 8 0x1000

/-- A section header in a file. -/
def sectionBytes (type offset size link entsize : ℕ) : List UInt8 :=
  leBytes 4 0 ++ leBytes 4 type ++ leBytes 8 0 ++ leBytes 8 0 ++ leBytes 8 offset ++
    leBytes 8 size ++ leBytes 4 link ++ leBytes 4 0 ++ leBytes 8 1 ++ leBytes 8 entsize

/-- A symbol in a file, with the name at 1. -/
def symbolBytes (value : ℕ) : List UInt8 :=
  leBytes 4 1 ++ leBytes 2 0 ++ leBytes 2 1 ++ leBytes 8 value ++ leBytes 8 8

/-- A file with one segment and two symbols of one name, in sections at 312 and 324. -/
def symbolFile (offset vaddr first second : ℕ) : List UInt8 :=
  headerBytes ++ segmentBytes offset vaddr 0x1000 ++
    (sectionBytes 0 0 0 0 0 ++ sectionBytes 2 324 48 2 24 ++ sectionBytes 3 312 12 0 0) ++
    0 :: (expectedName 0x0A6 ++ 0 :: (symbolBytes first ++ symbolBytes second))

/-- The sample file as it is mapped. -/
def mappedSymbols (offset vaddr first second : ℕ) : MappedFile where
  bytes := symbolFile offset vaddr first second
  size_lt := by
    have hsegment : (segmentBytes offset vaddr 0x1000).length = 56 := by
      simp only [segmentBytes, List.length_append, leBytes_length]
    have hsymbol (value : ℕ) : (symbolBytes value).length = 24 := by
      simp only [symbolBytes, List.length_append, leBytes_length]
    have hsection (type offset size link entsize : ℕ) :
        (sectionBytes type offset size link entsize).length = 64 := by
      simp only [sectionBytes, List.length_append, leBytes_length]
    have hheader : headerBytes.length = 64 := by decide
    have hname : (expectedName 0x0A6).length = 10 := by decide
    simp only [symbolFile, List.length_append, List.length_cons, hheader, hsegment, hsection, hname,
      hsymbol]
    decide

/-- Call with the catalog of one frame, and what it returns for the frame. -/
def resolveSingle (file : MappedFile) : Except Fault (Option ResolveFailure × UInt64 × LoadSegment) :=
  (resolveSymbols singleCatalog.canIds (some file) ⟨fun _ => 0, ⟨0, 0⟩⟩).map fun returned =>
    (returned.1, returned.2.values singleFrame, returned.2.load)

/-- The first of two symbols counts. -/
theorem resolveSymbols_first_two :
    ∃ result, resolveSymbols singleCatalog.canIds (some (mappedSymbols 0 0x1000 0x4000 0x5000))
        ⟨fun _ => 0, ⟨0, 0⟩⟩ = .ok (none, result) ∧
      result.load = ⟨0x1000, 0⟩ ∧ result.values singleFrame = 0x4000 ∧
      result.values singleFrame = frameValue singleCatalog.canIds
        (tableEntries (mappedSymbols 0 0x1000 0x4000 0x5000).bytes) singleFrame := by
  have hsingle : resolveSingle (mappedSymbols 0 0x1000 0x4000 0x5000) =
      .ok (none, 0x4000, ⟨0x1000, 0⟩) := by
    simp only [resolveSingle, resolveSymbols, findLoad, findTables, findSymbols, findSection,
      Counted.forLoop_eq_rounds]
    decide +kernel
  have hentries : tableEntries (mappedSymbols 0 0x1000 0x4000 0x5000).bytes =
      [(some (expectedName 0x0A6), 0x4000), (some (expectedName 0x0A6), 0x5000)] := by
    decide +kernel
  have hreaches : ScanReaches singleCatalog.canIds []
      (tableEntries (mappedSymbols 0 0x1000 0x4000 0x5000).bytes) := by
    rw [hentries]
    intro middle entry back hsplit hmatches _
    cases middle with
    | nil => exact Nat.one_pos
    | cons first middle =>
      obtain ⟨rfl, hrest⟩ := List.cons.inj hsplit
      obtain ⟨rfl, hlast⟩ | ⟨_, hnil⟩ := List.append_eq_singleton_iff.mp hrest.symm
      · obtain ⟨rfl, -⟩ := List.cons.inj hlast
        exact absurd hmatches (by decide +kernel)
      · exact absurd hnil (List.cons_ne_nil _ _)
  obtain ⟨⟨failure, result⟩, hcall, hreturned⟩ := exists_of_map hsingle
  obtain ⟨hfailure, hvalue, hload⟩ : failure = none ∧ result.values singleFrame = 0x4000 ∧
      result.load = ⟨0x1000, 0⟩ := by
    simpa using hreturned
  rw [hfailure] at hcall
  exact ⟨result, hcall, hload, hvalue,
    (resolveSymbols_first_iff singleCatalog_canIds_injective hcall).2.mpr hreaches singleFrame⟩

/-- A zero value of the only frame's name ends the scan before the value that it should find. -/
theorem resolveSymbols_hides_value :
    resolveSingle (mappedSymbols 0 0x1000 0 0x4000) = .ok (none, 0, ⟨0x1000, 0⟩) ∧
      frameValue singleCatalog.canIds (tableEntries (mappedSymbols 0 0x1000 0 0x4000).bytes)
        singleFrame = 0x4000 := by
  constructor
  · simp only [resolveSingle, resolveSymbols, findLoad, findTables, findSymbols, findSection,
      Counted.forLoop_eq_rounds]
    decide +kernel
  · decide +kernel

end Files

end Roadcast
