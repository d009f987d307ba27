import Roadcast.Lib.Guards

/-!
# Self-delimiting encodings

An encoder that can fail, and whose results can be told apart whatever follows them. Sequences of
such encodings need no separator: equal concatenations come from equal sequences. An encoder need
not write all of a value; `seen` is what it writes.
-/

namespace Roadcast.Delimited

open Guards

variable {E A B C : Type}

/-- What an encoder writes determines what was seen of the value, and where its bytes end. -/
def SelfDelimiting (seen : A → C) (encode : A → Except E (List B)) : Prop :=
  ∀ ⦃a a' : A⦄ ⦃bytes bytes' rest rest' : List B⦄, encode a = .ok bytes → encode a' = .ok bytes' →
    bytes ++ rest = bytes' ++ rest' → seen a = seen a' ∧ rest = rest'

variable {seen : A → C} {encode : A → Except E (List B)}

/-- An encoding of a fixed length. -/
theorem selfDelimiting_of_length (size : ℕ)
    (hsize : ∀ a bytes, encode a = .ok bytes → bytes.length = size)
    (hinj : ∀ a a' bytes, encode a = .ok bytes → encode a' = .ok bytes → seen a = seen a') :
    SelfDelimiting seen encode := by
  intro a a' bytes bytes' rest rest' h h' heq
  have hlength : bytes.length = bytes'.length := by rw [hsize a _ h, hsize a' _ h']
  obtain ⟨rfl, hrest⟩ := List.append_inj heq hlength
  exact ⟨hinj a a' bytes h h', hrest⟩

variable {list list' : List A} {records records' : List (List B)} {rest rest' : List B}

/-- Sequences with equally many elements. -/
theorem SelfDelimiting.counted (h : SelfDelimiting seen encode)
    (hlist : list.mapM encode = .ok records) (hlist' : list'.mapM encode = .ok records')
    (hcount : list.length = list'.length)
    (heq : records.flatten ++ rest = records'.flatten ++ rest') :
    list.map seen = list'.map seen ∧ rest = rest' := by
  rw [mapM_ok] at hlist hlist'
  induction hlist generalizing list' records' with
  | nil =>
    obtain rfl := List.length_eq_zero_iff.mp hcount.symm
    cases hlist'
    exact ⟨rfl, heq⟩
  | cons hfirst hlater ih =>
    cases hlist' with
    | nil => cases hcount
    | cons hfirst' hlater' =>
      rw [List.flatten_cons, List.flatten_cons, List.append_assoc, List.append_assoc] at heq
      obtain ⟨hseen, heq⟩ := h hfirst hfirst' heq
      obtain ⟨hseenLater, hrest⟩ := ih hlater' (Nat.succ.inj hcount) heq
      rw [List.map_cons, List.map_cons, hseen, hseenLater]
      exact ⟨rfl, hrest⟩

/-- Whole sequences, of elements that are never encoded as nothing. -/
theorem SelfDelimiting.flatten (h : SelfDelimiting seen encode) (hne : ∀ a, encode a ≠ .ok [])
    (hlist : list.mapM encode = .ok records) (hlist' : list'.mapM encode = .ok records')
    (heq : records.flatten = records'.flatten) : list.map seen = list'.map seen := by
  rw [mapM_ok] at hlist hlist'
  induction hlist generalizing list' records' with
  | nil =>
    cases hlist' with
    | nil => rfl
    | cons hfirst' _ =>
      obtain ⟨hnil, -⟩ := List.append_eq_nil_iff.mp heq.symm
      exact absurd (hnil ▸ hfirst') (hne _)
  | cons hfirst hlater ih =>
    cases hlist' with
    | nil =>
      obtain ⟨hnil, -⟩ := List.append_eq_nil_iff.mp heq
      exact absurd (hnil ▸ hfirst) (hne _)
    | cons hfirst' hlater' =>
      obtain ⟨hseen, heq⟩ := h hfirst hfirst' heq
      rw [List.map_cons, List.map_cons, hseen, ih hlater' heq]

end Roadcast.Delimited
