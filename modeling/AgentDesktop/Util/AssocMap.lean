import Mathlib.Data.List.Nodup

/-!
# Finite maps as association lists

A hash map is used through four operations: look a key up, insert, keep the
bindings that pass a test, and go through all of them. An association list
whose keys are distinct supports them all, and keeping the distinctness in the
type makes a lookup say exactly which binding is in the list.
-/

/-- **A finite map**: a list of bindings with distinct keys. -/
structure AssocMap (κ ν : Type*) where
  /-- The bindings, oldest first. -/
  entries : List (κ × ν)
  /-- No key is bound twice. -/
  nodup : (entries.map Prod.fst).Nodup

namespace AssocMap

variable {κ ν : Type*}

@[ext] theorem ext {m m' : AssocMap κ ν} (h : m.entries = m'.entries) : m = m' := by
  cases m
  cases m'
  cases h
  rfl

instance [DecidableEq κ] [DecidableEq ν] : DecidableEq (AssocMap κ ν) :=
  fun m m' => decidable_of_iff (m.entries = m'.entries) ⟨ext, fun h => h ▸ rfl⟩

/-- The map without bindings. -/
def empty : AssocMap κ ν := ⟨[], List.nodup_nil⟩

/-- The keys, oldest binding first. -/
def keys (m : AssocMap κ ν) : List κ := m.entries.map Prod.fst

/-- The values, oldest binding first. -/
def values (m : AssocMap κ ν) : List ν := m.entries.map Prod.snd

/-- The bindings that pass a test. -/
def retain (m : AssocMap κ ν) (keep : κ → ν → Bool) : AssocMap κ ν where
  entries := m.entries.filter (fun binding => keep binding.1 binding.2)
  nodup := m.nodup.sublist (List.filter_sublist.map Prod.fst)

theorem mem_keys {m : AssocMap κ ν} {k : κ} {v : ν} (h : (k, v) ∈ m.entries) :
    k ∈ m.keys := List.mem_map_of_mem h

theorem mem_retain {m : AssocMap κ ν} {keep : κ → ν → Bool} {k : κ} {v : ν} :
    (k, v) ∈ (m.retain keep).entries ↔ (k, v) ∈ m.entries ∧ keep k v = true :=
  List.mem_filter

variable [DecidableEq κ]

/-- The value a key is bound to. -/
def get (m : AssocMap κ ν) (k : κ) : Option ν :=
  (m.entries.find? (fun binding => binding.1 == k)).map Prod.snd

/-- A binding for a key: the old one is replaced, a new key is added last. -/
def insert (m : AssocMap κ ν) (k : κ) (v : ν) : AssocMap κ ν where
  entries :=
    if k ∈ m.keys then
      m.entries.map (fun binding => if binding.1 = k then (k, v) else binding)
    else m.entries ++ [(k, v)]
  nodup := by
    split_ifs with hk
    · have hkeys : (m.entries.map (fun binding => if binding.1 = k then (k, v) else binding)).map
          Prod.fst = m.entries.map Prod.fst := by
        rw [List.map_map]
        refine List.map_congr_left (fun binding _ => ?_)
        simp only [Function.comp_apply]
        split_ifs with h
        · exact h.symm
        · rfl
      rw [hkeys]
      exact m.nodup
    · rw [List.map_append, List.nodup_append]
      refine ⟨m.nodup, List.nodup_singleton _, ?_⟩
      rintro a ha b hb rfl
      rw [List.map_singleton, List.mem_singleton] at hb
      subst hb
      exact hk ha

/-- **A lookup names the binding in the list.** -/
theorem get_eq_some_iff {m : AssocMap κ ν} {k : κ} {v : ν} :
    m.get k = some v ↔ (k, v) ∈ m.entries := by
  obtain ⟨entries, hnd⟩ := m
  show (entries.find? _).map Prod.snd = some v ↔ (k, v) ∈ entries
  induction entries with
  | nil => simp
  | cons binding rest ih =>
    rw [List.map_cons, List.nodup_cons] at hnd
    rw [List.find?_cons]
    by_cases hk : binding.1 = k
    · have hbeq : (binding.1 == k) = true := beq_iff_eq.mpr hk
      rw [hbeq]
      -- the key is bound here, hence nowhere further on
      have hrest : (k, v) ∉ rest := fun hmem =>
        hnd.1 (hk ▸ List.mem_map_of_mem (f := Prod.fst) hmem)
      simp only [Option.map_some, Option.some.injEq, List.mem_cons, hrest, or_false]
      constructor
      · rintro rfl
        exact Prod.ext hk.symm rfl
      · intro h
        exact congrArg Prod.snd h.symm
    · have hbeq : (binding.1 == k) = false := beq_eq_false_iff_ne.mpr hk
      rw [hbeq]
      have hne : (k, v) ≠ binding := fun h => hk (congrArg Prod.fst h.symm)
      simp only [List.mem_cons, hne, false_or]
      exact ih hnd.2

theorem get_eq_none_iff {m : AssocMap κ ν} {k : κ} : m.get k = none ↔ k ∉ m.keys := by
  constructor
  · intro h hk
    obtain ⟨binding, hmem, rfl⟩ := List.mem_map.mp hk
    have := get_eq_some_iff.mpr (show (binding.1, binding.2) ∈ m.entries from hmem)
    rw [h] at this
    exact absurd this (by simp)
  · intro h
    cases hget : m.get k with
    | none => rfl
    | some v => exact absurd (mem_keys (get_eq_some_iff.mp hget)) h

@[simp] theorem get_empty (k : κ) : (empty : AssocMap κ ν).get k = none := rfl

theorem entries_insert_of_notMem {m : AssocMap κ ν} {k : κ} (v : ν) (h : k ∉ m.keys) :
    (m.insert k v).entries = m.entries ++ [(k, v)] := if_neg h

theorem entries_insert_of_mem {m : AssocMap κ ν} {k : κ} (v : ν) (h : k ∈ m.keys) :
    (m.insert k v).entries
      = m.entries.map (fun binding => if binding.1 = k then (k, v) else binding) := if_pos h

theorem get_insert (m : AssocMap κ ν) (k k' : κ) (v : ν) :
    (m.insert k v).get k' = if k' = k then some v else m.get k' := by
  have hmem : ∀ v', (k', v') ∈ (m.insert k v).entries
      ↔ (k' = k ∧ v' = v) ∨ (k' ≠ k ∧ (k', v') ∈ m.entries) := by
    intro v'
    by_cases hk : k ∈ m.keys
    · rw [entries_insert_of_mem v hk, List.mem_map]
      constructor
      · rintro ⟨binding, hbinding, heq⟩
        split_ifs at heq with hb
        · cases heq
          exact Or.inl ⟨rfl, rfl⟩
        · subst heq
          exact Or.inr ⟨hb, hbinding⟩
      · rintro (⟨rfl, rfl⟩ | ⟨hne, hbinding⟩)
        · obtain ⟨binding, hbinding, hfst⟩ := List.mem_map.mp hk
          exact ⟨binding, hbinding, by rw [if_pos hfst]⟩
        · exact ⟨(k', v'), hbinding, by rw [if_neg hne]⟩
    · rw [entries_insert_of_notMem v hk, List.mem_append, List.mem_singleton, Prod.mk.injEq]
      constructor
      · rintro (hbinding | h)
        · exact Or.inr ⟨fun h => hk (h ▸ mem_keys hbinding), hbinding⟩
        · exact Or.inl h
      · rintro (h | ⟨-, hbinding⟩)
        · exact Or.inr h
        · exact Or.inl hbinding
  ext v'
  rw [get_eq_some_iff, hmem v']
  split_ifs with h
  · simp [h, eq_comm]
  · simp [h, get_eq_some_iff]

@[simp] theorem get_insert_self (m : AssocMap κ ν) (k : κ) (v : ν) :
    (m.insert k v).get k = some v := by
  rw [get_insert, if_pos rfl]

theorem get_retain (m : AssocMap κ ν) (keep : κ → ν → Bool) (k : κ) :
    (m.retain keep).get k = (m.get k).filter (keep k) := by
  ext v
  rw [get_eq_some_iff, mem_retain, Option.filter_eq_some_iff, get_eq_some_iff]

end AssocMap
