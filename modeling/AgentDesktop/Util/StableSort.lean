import Mathlib.Data.List.Sort

/-!
# Sorting by a comparison

A list is sorted by a comparison under which different items may be tied. Tied items
keep the order they came in. So that order shows in what is sorted just where two
different items are tied.
-/

variable {α : Type*} (cmp : α → α → Ordering)

/-- **A list sorted by a comparison**: tied items keep their order. -/
def sortByCmp (l : List α) : List α := l.mergeSort (fun left right => (cmp left right).isLE)

theorem sortByCmp_perm (l : List α) : (sortByCmp cmp l).Perm l := List.mergeSort_perm l _

variable [Std.TransCmp cmp]

theorem isLE_total (left right : α) : ((cmp left right).isLE || (cmp right left).isLE) = true := by
  have hswap : cmp right left = (cmp left right).swap := Std.OrientedCmp.eq_swap
  rw [hswap]
  cases cmp left right <;> rfl

theorem pairwise_sortByCmp (l : List α) :
    (sortByCmp cmp l).Pairwise (fun left right => (cmp left right).isLE = true) :=
  List.pairwise_mergeSort (fun _ _ _ => Std.TransCmp.isLE_trans) (isLE_total cmp) l

/-- **The order that the items came in does not show** where no two different ones are tied. -/
theorem sortByCmp_eq_of_perm {l l' : List α} (hperm : l.Perm l')
    (htied : ∀ left ∈ l, ∀ right ∈ l, cmp left right = .eq → left = right) :
    sortByCmp cmp l = sortByCmp cmp l' := by
  have hsorted : (sortByCmp cmp l).Perm (sortByCmp cmp l') :=
    (sortByCmp_perm cmp l).trans (hperm.trans (sortByCmp_perm cmp l').symm)
  refine hsorted.eq_of_pairwise ?_ (pairwise_sortByCmp cmp l) (pairwise_sortByCmp cmp l')
  intro left right hleft hright hle hge
  have hmem := (sortByCmp_perm cmp l).mem_iff.mp hleft
  have hmem' := hperm.mem_iff.mpr ((sortByCmp_perm cmp l').mem_iff.mp hright)
  refine htied left hmem right hmem' ?_
  have hswap : cmp right left = (cmp left right).swap := Std.OrientedCmp.eq_swap
  rw [hswap] at hge
  revert hle hge
  cases cmp left right <;> decide

/-- **Tied items keep the order they came in.** -/
theorem filter_sortByCmp (l : List α) (test : α → Bool)
    (htied : ∀ left right, test left = true → test right = true → cmp left right = .eq) :
    (sortByCmp cmp l).filter test = l.filter test := by
  have htests : ∀ item ∈ l.filter test, test item = true := fun item hitem =>
    (List.mem_filter.mp hitem).2
  have hpairwise : (l.filter test).Pairwise (fun left right => (cmp left right).isLE = true) := by
    refine List.pairwise_of_forall_mem_list ?_
    intro left hleft right hright
    rw [htied left right (htests left hleft) (htests right hright)]
    rfl
  have hsublist : (l.filter test).Sublist (sortByCmp cmp l) :=
    List.sublist_mergeSort (fun _ _ _ => Std.TransCmp.isLE_trans) (isLE_total cmp) hpairwise
      List.filter_sublist
  have hfiltered := hsublist.filter test
  rw [List.filter_filter] at hfiltered
  simp only [Bool.and_self] at hfiltered
  exact (hfiltered.eq_of_length ((sortByCmp_perm cmp l).filter test).length_eq.symm).symm
