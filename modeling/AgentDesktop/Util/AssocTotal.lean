import AgentDesktop.Util.AssocMap
import Mathlib.Algebra.Order.BigOperators.Group.List
import Mathlib.Algebra.Order.Group.Nat
import Mathlib.Algebra.Ring.Nat

/-!
# What a finite map weighs

Each binding of a finite map has a weight, and the map weighs what its bindings do. An insertion
adds the weight of the new value to what is left without the key, and what is left without a key
is lighter by the value that was bound to it. So a change of one binding is accounted for by that
binding alone.
-/

namespace AssocMap

variable {κ ν : Type*}

/-- **What a map weighs.** -/
def total (m : AssocMap κ ν) (weigh : ν → ℕ) : ℕ := (m.values.map weigh).sum

/-- What is bound to a key weighs. -/
def weightOf (weigh : ν → ℕ) (value : Option ν) : ℕ := (value.map weigh).getD 0

@[simp] theorem weightOf_some (weigh : ν → ℕ) (v : ν) : weightOf weigh (some v) = weigh v := rfl

theorem total_retain_le (m : AssocMap κ ν) (keep : κ → ν → Bool) (weigh : ν → ℕ) :
    (m.retain keep).total weigh ≤ m.total weigh := by
  unfold total values
  rw [List.map_map, List.map_map]
  exact (List.filter_sublist.map _).sum_le_sum (fun _ _ => Nat.zero_le _)

variable [DecidableEq κ]

/-- **A map without a key.** -/
def erase (m : AssocMap κ ν) (k : κ) : AssocMap κ ν := m.retain (fun k' _ => k' != k)

theorem total_erase_le (m : AssocMap κ ν) (k : κ) (weigh : ν → ℕ) :
    (m.erase k).total weigh ≤ m.total weigh := total_retain_le m _ weigh

theorem erase_comm (m : AssocMap κ ν) (k k' : κ) : (m.erase k).erase k' = (m.erase k').erase k :=
  AssocMap.ext (List.filter_comm _ _ _)

theorem get_erase_self (m : AssocMap κ ν) (k : κ) : (m.erase k).get k = none := by
  unfold erase
  rw [get_retain]
  cases m.get k with
  | none => rfl
  | some v => exact Option.filter_some_neg (by simp)

theorem get_erase_of_ne (m : AssocMap κ ν) {k k' : κ} (h : k' ≠ k) :
    (m.erase k).get k' = m.get k' := by
  unfold erase
  rw [get_retain]
  cases m.get k' with
  | none => rfl
  | some v => exact Option.filter_some_pos (by simpa using h)

theorem erase_of_get_eq_none {m : AssocMap κ ν} {k : κ} (h : m.get k = none) : m.erase k = m := by
  refine AssocMap.ext (List.filter_eq_self.mpr (fun binding hmem => ?_))
  have hkey : k ∉ m.keys := get_eq_none_iff.mp h
  simp only [bne_iff_ne, ne_eq]
  rintro rfl
  exact hkey (mem_keys hmem)

/-- The bindings of a list without a key, and the one of the key, weigh what they all do. -/
theorem sum_filter_ne (entries : List (κ × ν)) (hnodup : (entries.map Prod.fst).Nodup) (k : κ)
    (weigh : ν → ℕ) :
    ((entries.filter (fun binding => binding.1 != k)).map (fun binding => weigh binding.2)).sum
        + weightOf weigh ((entries.find? (fun binding => binding.1 == k)).map Prod.snd)
      = (entries.map (fun binding => weigh binding.2)).sum := by
  induction entries with
  | nil => rfl
  | cons binding rest ih =>
    rw [List.map_cons, List.nodup_cons] at hnodup
    by_cases hk : binding.1 = k
    · subst hk
      have hrest : rest.filter (fun other => other.1 != binding.1) = rest := by
        refine List.filter_eq_self.mpr (fun other hmem => ?_)
        simp only [bne_iff_ne, ne_eq]
        exact fun heq => hnodup.1 (heq ▸ List.mem_map_of_mem hmem)
      simp [hrest, add_comm]
    · have hkeep : (binding.1 != k) = true := bne_iff_ne.mpr hk
      have hfind : (binding.1 == k) = false := beq_eq_false_iff_ne.mpr hk
      simp only [List.filter_cons, List.find?_cons, hkeep, hfind, if_true, List.map_cons,
        List.sum_cons]
      rw [add_assoc, ih hnodup.2]

/-- **A map without a key is lighter by what was bound to it.** -/
theorem total_erase (m : AssocMap κ ν) (k : κ) (weigh : ν → ℕ) :
    (m.erase k).total weigh + weightOf weigh (m.get k) = m.total weigh := by
  have hsum := sum_filter_ne m.entries m.nodup k weigh
  unfold total values erase retain get
  rw [List.map_map, List.map_map]
  exact hsum

/-- **An insertion adds the weight of the new value** to what the other keys weigh. -/
theorem total_insert (m : AssocMap κ ν) (k : κ) (v : ν) (weigh : ν → ℕ) :
    (m.insert k v).total weigh = (m.erase k).total weigh + weigh v := by
  have hothers : ((m.insert k v).erase k).entries.Perm (m.erase k).entries := by
    refine (List.perm_ext_iff_of_nodup ?_ ?_).mpr (fun binding => ?_)
    · exact List.Nodup.of_map _ ((m.insert k v).erase k).nodup
    · exact List.Nodup.of_map _ (m.erase k).nodup
    · obtain ⟨k', v'⟩ := binding
      rw [← get_eq_some_iff, ← get_eq_some_iff]
      by_cases hk : k' = k
      · rw [hk, get_erase_self, get_erase_self]
      · rw [get_erase_of_ne _ hk, get_erase_of_ne _ hk, get_insert, if_neg hk]
  have hsplit := total_erase (m.insert k v) k weigh
  rw [get_insert_self, weightOf_some] at hsplit
  rw [← hsplit]
  unfold total values
  rw [((hothers.map _).map _).sum_eq]

theorem total_erase_insert (m : AssocMap κ ν) (k : κ) (v : ν) (weigh : ν → ℕ) :
    ((m.insert k v).erase k).total weigh = (m.erase k).total weigh := by
  have hsplit := total_erase (m.insert k v) k weigh
  rw [get_insert_self, weightOf_some, total_insert] at hsplit
  exact Nat.add_right_cancel hsplit

/-- **A map without a key, if one is given.** -/
def without (m : AssocMap κ ν) : Option κ → AssocMap κ ν
  | none => m
  | some k => m.erase k

theorem total_erase_without_le (m : AssocMap κ ν) (k : κ) (key : Option κ) (weigh : ν → ℕ) :
    ((m.erase k).without key).total weigh ≤ (m.without key).total weigh := by
  cases key with
  | none => exact total_erase_le m k weigh
  | some k' =>
    show ((m.erase k).erase k').total weigh ≤ (m.erase k').total weigh
    rw [erase_comm]
    exact total_erase_le _ k weigh

theorem total_le_without (m : AssocMap κ ν) (key : Option κ) {weigh : ν → ℕ} {bound : ℕ}
    (h : ∀ k ∈ key, ∀ v ∈ m.get k, weigh v ≤ bound) :
    m.total weigh ≤ (m.without key).total weigh + bound := by
  cases key with
  | none => exact Nat.le_add_right _ _
  | some k =>
    show m.total weigh ≤ (m.erase k).total weigh + bound
    rw [← total_erase m k weigh]
    refine Nat.add_le_add_left ?_ _
    cases hget : m.get k with
    | none => exact Nat.zero_le _
    | some v => exact h k rfl v hget

end AssocMap
