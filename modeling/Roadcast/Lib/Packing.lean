import Mathlib.Data.List.GetD
import Mathlib.Data.List.Nodup
import Mathlib.Logic.Nontrivial.Defs

/-!
# Fields packed into cells

Each field is kept in a list of cells. Fields are independent, so that every choice of their contents
is held by some contents of the cells, if and only if no cell is used twice, be it by two fields or
by one.
-/

namespace Roadcast.Packing

variable {I S V : Type*}

/-- Every choice of contents for the fields is what some contents of the cells hold. -/
def Independent (V : Type*) (cells : I → List S) (fields : List I) : Prop :=
  ∀ contents : I → List V, (∀ i ∈ fields, (contents i).length = (cells i).length) →
    ∃ assign : S → V, ∀ i ∈ fields, (cells i).map assign = contents i

variable {cells : I → List S} {fields : List I}

/-- Different cells can be given any contents. -/
theorem exists_assign [DecidableEq S] {used : List S} (hused : used.Nodup) {contents : List V}
    (hlength : contents.length = used.length) (otherwise : S → V) :
    ∃ assign : S → V, used.map assign = contents ∧ ∀ s, s ∉ used → assign s = otherwise s := by
  refine ⟨fun s => contents.getD (used.idxOf s) (otherwise s), ?_, ?_⟩
  · refine List.ext_getElem (by rw [List.length_map, hlength]) fun k hk hk' => ?_
    rw [List.length_map] at hk
    rw [List.getElem_map, hused.idxOf_getElem k hk, List.getD_eq_getElem _ _ hk']
  · intro s hs
    have hend := List.idxOf_eq_length hs
    exact List.getD_eq_default _ _ (by omega)

/-- Fields with cells of their own are independent. -/
theorem independent_of_nodup [DecidableEq S] [Nonempty V] (h : (fields.flatMap cells).Nodup) :
    Independent V cells fields := by
  intro contents hlength
  induction fields with
  | nil => exact ⟨fun _ => Classical.arbitrary V, nofun⟩
  | cons i rest ih =>
    rw [List.flatMap_cons, List.nodup_append] at h
    rw [List.forall_mem_cons] at hlength
    obtain ⟨hcells, hrest, hdisjoint⟩ := h
    obtain ⟨later, hlater⟩ := ih hrest hlength.2
    obtain ⟨assign, hfirst, hother⟩ := exists_assign hcells hlength.1 later
    refine ⟨assign, List.forall_mem_cons.mpr ⟨hfirst, fun j hj => ?_⟩⟩
    rw [← hlater j hj]
    refine List.map_congr_left fun s hs => hother s fun hmem => ?_
    exact hdisjoint s hmem s (List.mem_flatMap.mpr ⟨j, hj, hs⟩) rfl

/-- A field that is independent of itself uses no cell twice. -/
theorem Independent.cells_nodup [DecidableEq I] [Nontrivial V] (h : Independent V cells fields)
    {i : I} (hi : i ∈ fields) : (cells i).Nodup := by
  obtain ⟨x, y, hne⟩ := exists_pair_ne V
  rw [List.nodup_iff_pairwise_ne, List.pairwise_iff_getElem]
  intro p q hp hq hlt heq
  -- the field holds `x` in its cell `p` and `y` in all the others
  obtain ⟨assign, hassign⟩ := h
    (fun j => (List.range (cells j).length).map fun k => if k = p then x else y)
    fun j _ => by rw [List.length_map, List.length_range]
  have hcontents := hassign i hi
  have hfirst : assign (cells i)[p] = x := by
    have := congrArg (fun contents => contents[p]?) hcontents
    simpa [hp] using this
  have hsecond : assign (cells i)[q] = y := by
    have := congrArg (fun contents => contents[q]?) hcontents
    simpa [hq, Nat.ne_of_gt hlt] using this
  exact hne (hfirst.symm.trans ((congrArg assign heq).trans hsecond))

/-- Different fields that are independent share no cell. -/
theorem Independent.disjoint [DecidableEq I] [Nontrivial V] (h : Independent V cells fields)
    {i j : I} (hi : i ∈ fields) (hj : j ∈ fields) (hij : i ≠ j) :
    (cells i).Disjoint (cells j) := by
  obtain ⟨x, y, hne⟩ := exists_pair_ne V
  intro s hs hs'
  -- field `i` holds nothing but `x`, all the others nothing but `y`
  obtain ⟨assign, hassign⟩ := h
    (fun k => List.replicate (cells k).length (if k = i then x else y))
    fun k _ => List.length_replicate
  have hfirst : assign s = x := by
    have := hassign i hi ▸ List.mem_map_of_mem hs
    rw [if_pos rfl] at this
    exact List.eq_of_mem_replicate this
  have hsecond : assign s = y := by
    have := hassign j hj ▸ List.mem_map_of_mem hs'
    rw [if_neg hij.symm] at this
    exact List.eq_of_mem_replicate this
  exact hne (hfirst.symm.trans hsecond)

/-- Fields are independent if and only if no cell is used twice. -/
theorem independent_iff_nodup [DecidableEq S] [DecidableEq I] [Nontrivial V]
    (hfields : fields.Nodup) :
    Independent V cells fields ↔ (fields.flatMap cells).Nodup := by
  refine ⟨fun h => List.nodup_flatMap.mpr ⟨fun i hi => h.cells_nodup hi, ?_⟩, independent_of_nodup⟩
  exact hfields.imp_of_mem fun hi hj hij => h.disjoint hi hj hij

end Roadcast.Packing
