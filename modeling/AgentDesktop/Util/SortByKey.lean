import Mathlib.Data.List.Sort

/-!
# Sorting by a key

A list is sorted by a key of its items. Where no two items have one key, the
sorted list is told by the items alone: the order they came in does not show.
-/

variable {α κ : Type*} [LinearOrder κ]

/-- **A list sorted by a key**: items with one key keep their order. -/
def sortByKey (key : α → κ) (l : List α) : List α :=
  l.mergeSort (fun left right => decide (key left ≤ key right))

theorem sortByKey_perm (key : α → κ) (l : List α) : (sortByKey key l).Perm l :=
  List.mergeSort_perm l _

theorem pairwise_sortByKey (key : α → κ) (l : List α) :
    (sortByKey key l).Pairwise (fun left right => key left ≤ key right) := by
  have hsorted : (sortByKey key l).Pairwise
      (fun left right => decide (key left ≤ key right) = true) := by
    refine List.pairwise_mergeSort ?_ ?_ l
    · intro left middle right hlm hmr
      simp only [decide_eq_true_eq] at hlm hmr ⊢
      exact le_trans hlm hmr
    · intro left right
      simp only [Bool.or_eq_true, decide_eq_true_eq]
      exact le_total _ _
  exact hsorted.imp of_decide_eq_true

/-- **The order that the items came in does not show** in what is sorted, when their keys
differ. -/
theorem sortByKey_eq_of_perm (key : α → κ) {l l' : List α} (hperm : l.Perm l')
    (hnodup : (l.map key).Nodup) : sortByKey key l = sortByKey key l' := by
  have hperm' : (sortByKey key l).Perm (sortByKey key l') :=
    (sortByKey_perm key l).trans (hperm.trans (sortByKey_perm key l').symm)
  have hkeys : ∀ left right, left ∈ sortByKey key l → right ∈ sortByKey key l' →
      key left ≤ key right → key right ≤ key left → left = right := by
    intro left right hleft hright hlr hrl
    have hleft' := (sortByKey_perm key l).mem_iff.mp hleft
    have hright' := hperm.mem_iff.mpr ((sortByKey_perm key l').mem_iff.mp hright)
    exact List.inj_on_of_nodup_map hnodup hleft' hright' (le_antisymm hlr hrl)
  exact hperm'.eq_of_pairwise hkeys (pairwise_sortByKey key l) (pairwise_sortByKey key l')
