import Mathlib.Data.List.Basic
import Mathlib.Data.List.Flatten

/-!
# Interleavings of many lists

A list is an interleaving of others when it can be taken apart by giving, again and
again, its first item back to one of them. Nothing is said of which one comes next,
so whoever merges lists by whatever order makes an interleaving, as long as no item
is lost, made up or taken before its time.
-/

variable {α : Type*}

/-- **An interleaving of lists**: the items of each keep their order. -/
inductive Interleave : List (List α) → List α → Prop
  /-- Nothing is left. -/
  | done {lists : List (List α)} (hempty : ∀ list ∈ lists, list = []) : Interleave lists []
  /-- The first item of one of the lists comes next. -/
  | take {before after : List (List α)} {item : α} {rest merged : List α}
      (hrest : Interleave (before ++ rest :: after) merged) :
      Interleave (before ++ (item :: rest) :: after) (item :: merged)

namespace Interleave

/-- **Nothing is lost, and nothing is made up.** -/
theorem perm {lists : List (List α)} {merged : List α} (h : Interleave lists merged) :
    merged.Perm lists.flatten := by
  induction h with
  | done hempty =>
    rw [List.flatten_eq_nil_iff.mpr hempty]
  | @take before after item rest merged _ ih =>
    refine (ih.cons item).trans ?_
    rw [List.flatten_append, List.flatten_append, List.flatten_cons, List.flatten_cons]
    exact List.perm_middle.symm

end Interleave
