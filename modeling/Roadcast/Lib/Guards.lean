import Mathlib.Data.List.Forall2

/-!
# Programs that raise exceptions

A program in `Except` that checks its input and stops at the first check that fails. It succeeds if
and only if all of its steps do; these rules take a successful run apart into its steps.
-/

namespace Roadcast.Guards

variable {E A B : Type}

/-- A check: `if not condition: raise error`. -/
def require (condition : Prop) [Decidable condition] (error : E) : Except E Unit :=
  if condition then .ok () else .error error

/-- A check passes if and only if its condition holds. -/
theorem require_ok {condition : Prop} [Decidable condition] {error : E} :
    require condition error = .ok () ↔ condition := by
  unfold require
  split
  · rename_i hcondition
    exact iff_of_true rfl hcondition
  · rename_i hcondition
    exact iff_of_false nofun hcondition

/-- A program that returns a value raises nothing. -/
theorem pure_ok {a b : A} : (pure a : Except E A) = .ok b ↔ a = b :=
  ⟨Except.ok.inj, congrArg Except.ok⟩

/-- Two steps succeed if and only if each of them does. -/
theorem bind_ok {first : Except E A} {next : A → Except E B} {b : B} :
    (first >>= next) = .ok b ↔ ∃ a, first = .ok a ∧ next a = .ok b := by
  cases first with
  | error error => exact iff_of_false nofun fun ⟨_, hfirst, _⟩ => nomatch hfirst
  | ok a => exact ⟨fun h => ⟨a, rfl, h⟩, fun ⟨_, hfirst, h⟩ => Except.ok.inj hfirst ▸ h⟩

/-- A check and what follows it. -/
theorem check_bind_ok {check : Except E Unit} {next : Unit → Except E B} {b : B} :
    (check >>= next) = .ok b ↔ check = .ok () ∧ next () = .ok b :=
  bind_ok.trans ⟨fun ⟨(), h⟩ => h, fun h => ⟨(), h⟩⟩

/-- A loop of checks. -/
theorem forM_ok {list : List A} {check : A → Except E Unit} :
    list.forM check = .ok () ↔ ∀ a ∈ list, check a = .ok () := by
  induction list with
  | nil => exact iff_of_true rfl nofun
  | cons a rest ih =>
    rw [List.forall_mem_cons, ← ih]
    exact check_bind_ok

/-- Loops with the same rounds have the same outcome. -/
theorem mapM_congr {list : List A} {round round' : A → Except E B}
    (h : ∀ a ∈ list, round a = round' a) : list.mapM round = list.mapM round' := by
  induction list with
  | nil => rfl
  | cons a rest ih =>
    rw [List.forall_mem_cons] at h
    rw [List.mapM_cons, List.mapM_cons, h.1, ih h.2]

/-- A loop that collects what its rounds return. -/
theorem mapM_ok {list : List A} {round : A → Except E B} {results : List B} :
    list.mapM round = .ok results ↔ List.Forall₂ (fun a b => round a = .ok b) list results := by
  induction list generalizing results with
  | nil =>
    rw [List.mapM_nil, List.forall₂_nil_left_iff]
    exact ⟨fun h => (Except.ok.inj h).symm, fun h => h ▸ rfl⟩
  | cons a rest ih =>
    rw [List.mapM_cons, bind_ok, List.forall₂_cons_left_iff]
    constructor
    · rintro ⟨b, hfirst, h⟩
      obtain ⟨later, hlater, hresults⟩ := bind_ok.mp h
      exact ⟨b, later, hfirst, ih.mp hlater, (Except.ok.inj hresults).symm⟩
    · rintro ⟨b, later, hfirst, hlater, rfl⟩
      exact ⟨b, hfirst, bind_ok.mpr ⟨later, ih.mpr hlater, rfl⟩⟩

section Rounds

variable {list : List A} {round : A → Except E B} {results : List B}

/-- Every result comes from the element at its place. -/
theorem element_of_mapM (h : list.mapM round = .ok results) {i : ℕ} {b : B}
    (hi : results[i]? = some b) : ∃ a, list[i]? = some a ∧ round a = .ok b := by
  rw [mapM_ok] at h
  induction h generalizing i with
  | nil => cases hi
  | cons hfirst _ ih =>
    cases i with
    | zero => exact ⟨_, rfl, Option.some.inj hi ▸ hfirst⟩
    | succ i => exact ih hi

/-- Every element has its result at its place. -/
theorem result_of_mapM (h : list.mapM round = .ok results) {i : ℕ} {a : A}
    (hi : list[i]? = some a) : ∃ b, results[i]? = some b ∧ round a = .ok b := by
  rw [mapM_ok] at h
  induction h generalizing i with
  | nil => cases hi
  | cons hfirst _ ih =>
    cases i with
    | zero => exact ⟨_, rfl, Option.some.inj hi ▸ hfirst⟩
    | succ i => exact ih hi

/-- A field that the rounds keep is the same list before and after. -/
theorem map_of_mapM {C : Type} {field : B → C} {field' : A → C}
    (h : list.mapM round = .ok results)
    (hfield : ∀ a ∈ list, ∀ b, round a = .ok b → field b = field' a) :
    results.map field = list.map field' := by
  rw [mapM_ok] at h
  induction h with
  | nil => rfl
  | cons hfirst _ ih =>
    rw [List.forall_mem_cons] at hfield
    rw [List.map_cons, List.map_cons, hfield.1 _ hfirst, ih hfield.2]

/-- A loop all of whose rounds return something. -/
theorem exists_mapM (h : ∀ a ∈ list, ∃ b, round a = .ok b) :
    ∃ results, list.mapM round = .ok results := by
  induction list with
  | nil => exact ⟨[], rfl⟩
  | cons a rest ih =>
    rw [List.forall_mem_cons] at h
    obtain ⟨b, hb⟩ := h.1
    obtain ⟨results, hresults⟩ := ih h.2
    exact ⟨b :: results, mapM_ok.mpr (.cons hb (mapM_ok.mp hresults))⟩

/-- A loop all of whose rounds succeed. -/
theorem mapM_eq_map {result : A → B} (h : ∀ a ∈ list, round a = .ok (result a)) :
    list.mapM round = .ok (list.map result) := by
  rw [mapM_ok, List.forall₂_map_right_iff, List.forall₂_same]
  exact h

end Rounds

end Roadcast.Guards
