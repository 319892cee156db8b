import Mathlib.Data.List.Perm.Basic
import Mathlib.Order.Lattice

/-!
# Sorting by a key

A sort by a key that several items may share keeps items of one key in their order.
Stated by the positions the items had before. Nothing here names a particular program.
-/

namespace PyConduit

set_option autoImplicit false

variable {Item Key : Type*} [LinearOrder Key]

/-- The sorted items are those at the positions 0, 1, …, each once, by key and within a
key by position. -/
def StablySorted (key : Item → Key) (items sorted : List Item) : Prop :=
  ∃ placed : List (Item × Nat), sorted = placed.map Prod.fst ∧
    (placed.map Prod.snd).Perm (List.range items.length) ∧
    (∀ item position, (item, position) ∈ placed → items[position]? = some item) ∧
    placed.Pairwise fun first second =>
      key first.1 < key second.1 ∨ key first.1 = key second.1 ∧ first.2 < second.2

theorem stably_sorted_merge_sort (key : Item → Key) (items : List Item) :
    StablySorted key items (items.mergeSort fun first second => key first ≤ key second) := by
  let le : Item → Item → Bool := fun first second => key first ≤ key second
  have trans : ∀ first second third, le first second → le second third → le first third := by
    intro first second third
    simpa [le] using le_trans
  have total : ∀ first second, le first second || le second first := by
    intro first second
    simpa [le] using le_total (key first) (key second)
  have sorts := List.mergeSort_perm items.zipIdx (List.zipIdxLE le)
  refine ⟨items.zipIdx.mergeSort (List.zipIdxLE le), List.mergeSort_zipIdx.symm, ?_, ?_, ?_⟩
  · have positions := sorts.map Prod.snd
    rwa [List.zipIdx_map_snd, ← List.range_eq_range'] at positions
  · intro item position member
    rw [List.mem_mergeSort, List.mem_zipIdx_iff_getElem?] at member
    exact member
  · have ordered := List.pairwise_mergeSort (List.zipIdxLE_trans trans)
      (List.zipIdxLE_total total) items.zipIdx
    have apart : (items.zipIdx.mergeSort (List.zipIdxLE le)).Pairwise
        fun first second => first.2 ≠ second.2 := by
      have positions := sorts.map Prod.snd
      rw [List.zipIdx_map_snd] at positions
      exact List.pairwise_map.mp (positions.nodup_iff.mpr List.nodup_range')
    apply (ordered.and apart).imp
    intro first second ⟨before, differs⟩
    simp only [List.zipIdxLE, le, decide_eq_true_eq] at before
    split at before
    · rename_i below
      split at before
      · rename_i above
        have nearer : first.2 ≤ second.2 := by simpa using before
        exact Or.inr ⟨le_antisymm below above, by omega⟩
      · rename_i strictly
        exact Or.inl (lt_of_not_ge strictly)
    · simp at before

end PyConduit
