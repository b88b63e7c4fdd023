import AgentDesktop.RefMap
import AgentDesktop.Util.Except

/-!
# Ref ids and the counter

The ids of a map are the numbers the counter has passed. This one invariant makes
a new id fresh; a map that passes its check satisfies it; and it is kept by an
allocation, which binds one new id, and by the removal of a drill-down, which
binds none. What a sequence of allocations does to a map is the relation
`Extends`: everything bound stays bound, and what is new has a number past the
old counter.
-/

namespace AgentDesktop

theorem refIdOf_injective : Function.Injective refIdOf := append_toString_injective "@e"

namespace RefMap

/-- **A numbered map**: every id is a number the counter has passed. -/
def Numbered (map : RefMap) : Prop :=
  ∀ refId entry, map.get refId = some entry →
    ∃ number, refId = refIdOf number ∧ 0 < number ∧ number ≤ map.counter

theorem numbered_new : new.Numbered := fun _ _ h => nomatch h

theorem Numbered.get_fresh {map : RefMap} (h : map.Numbered) {number : ℕ}
    (hnumber : map.counter < number) : map.get (refIdOf number) = none := by
  cases hget : map.get (refIdOf number) with
  | none => rfl
  | some entry =>
    obtain ⟨m, hm, _, hle⟩ := h _ _ hget
    rw [refIdOf_injective hm] at hnumber
    exact absurd hnumber (Nat.not_lt.mpr hle)

/-! ## Growing -/

/-- **A map extends another** by entries of a kind: the counter moved up, what was bound is
bound to the same, and what is new is of the kind and has a number the counter passed
meanwhile. -/
structure Extends (Kind : RefEntry → Prop) (map map' : RefMap) : Prop where
  /-- The counter moved up. -/
  counter_le : map.counter ≤ map'.counter
  /-- What was bound stays. -/
  kept : ∀ refId entry, map.get refId = some entry → map'.get refId = some entry
  /-- What is new. -/
  fresh : ∀ refId entry, map'.get refId = some entry → map.get refId = some entry ∨
    (Kind entry ∧ ∃ number, refId = refIdOf number ∧ map.counter < number
      ∧ number ≤ map'.counter)

namespace Extends

variable {Kind : RefEntry → Prop} {map map₁ map₂ : RefMap}

theorem refl (map : RefMap) : Extends Kind map map :=
  ⟨le_rfl, fun _ _ h => h, fun _ _ h => Or.inl h⟩

theorem trans (h₁ : Extends Kind map map₁) (h₂ : Extends Kind map₁ map₂) :
    Extends Kind map map₂ where
  counter_le := h₁.counter_le.trans h₂.counter_le
  kept := fun refId entry h => h₂.kept refId entry (h₁.kept refId entry h)
  fresh := by
    intro refId entry h
    rcases h₂.fresh refId entry h with hold | ⟨hkind, number, rfl, hlt, hle⟩
    · rcases h₁.fresh refId entry hold with hold | ⟨hkind, number, rfl, hlt, hle⟩
      · exact Or.inl hold
      · exact Or.inr ⟨hkind, number, rfl, hlt, hle.trans h₂.counter_le⟩
    · exact Or.inr ⟨hkind, number, rfl, h₁.counter_le.trans_lt hlt, hle⟩

theorem numbered (h : Extends Kind map map₁) (hmap : map.Numbered) : map₁.Numbered := by
  intro refId entry hget
  rcases h.fresh refId entry hget with hold | ⟨-, number, rfl, hlt, hle⟩
  · obtain ⟨number, rfl, hpos, hle⟩ := hmap refId entry hold
    exact ⟨number, rfl, hpos, hle.trans h.counter_le⟩
  · exact ⟨number, rfl, Nat.zero_lt_of_lt hlt, hle⟩

end Extends

theorem allocateValidated_eq_ok {map map' : RefMap} {entry : RefEntry} {refId : String}
    (h : map.allocateValidated entry = .ok (refId, map')) :
    map.counter < u32Max ∧ refId = refIdOf (map.counter + 1)
      ∧ map' = ⟨map.inner.insert refId entry, map.counter + 1⟩ := by
  unfold allocateValidated at h
  split_ifs at h with hcounter
  · cases h
    exact ⟨hcounter, rfl, rfl⟩

/-- **An allocation extends the map by the entry it binds.** -/
theorem allocateValidated_extends {Kind : RefEntry → Prop} {map map' : RefMap}
    {entry : RefEntry} {refId : String} (hmap : map.Numbered) (hkind : Kind entry)
    (h : map.allocateValidated entry = .ok (refId, map')) : Extends Kind map map' := by
  obtain ⟨-, rfl, rfl⟩ := allocateValidated_eq_ok h
  have hfresh := hmap.get_fresh (Nat.lt_succ_self map.counter)
  have hget : ∀ refId, RefMap.get ⟨map.inner.insert (refIdOf (map.counter + 1)) entry,
      map.counter + 1⟩ refId
        = if refId = refIdOf (map.counter + 1) then some entry else map.get refId :=
    fun refId => AssocMap.get_insert _ _ _ _
  refine ⟨Nat.le_succ _, fun refId old hold => ?_, fun refId old hold => ?_⟩
  · rw [hget, if_neg (fun heq => ?_)]
    · exact hold
    · rw [heq, hfresh] at hold
      exact absurd hold (by simp)
  · rw [hget] at hold
    split_ifs at hold with heq
    · cases hold
      exact Or.inr ⟨hkind, _, heq, Nat.lt_succ_self _, le_rfl⟩
    · exact Or.inl hold

variable [BoundsHasher]

theorem tryAllocate_extends {Kind : RefEntry → Prop} {map map' : RefMap} {entry : RefEntry}
    {refId : String} (hmap : map.Numbered) (hkind : Kind entry)
    (h : map.tryAllocate entry = .ok (refId, map')) : Extends Kind map map' := by
  obtain ⟨_, -, hallocate⟩ := Except.bind_eq_ok_iff.mp h
  exact allocateValidated_extends hmap hkind hallocate

theorem tryAllocateObserved_extends {Kind : RefEntry → Prop} {map map' : RefMap}
    {entry : RefEntry} {allocation : RefAllocation} (hmap : map.Numbered) (hkind : Kind entry)
    (h : map.tryAllocateObserved entry = .ok (allocation, map')) : Extends Kind map map' := by
  unfold tryAllocateObserved at h
  split_ifs at h
  · cases h
    exact .refl map
  · cases h
    exact .refl map
  · cases hallocate : map.allocateValidated entry with
    | error error =>
      rw [hallocate] at h
      cases h
    | ok result =>
      rw [hallocate] at h
      cases h
      exact allocateValidated_extends hmap hkind hallocate

/-! ## Removing -/

omit [BoundsHasher] in
theorem get_removeByRootRef (map : RefMap) (root refId : String) :
    (map.removeByRootRef root).get refId = (map.get refId).filter (fun entry =>
      if refId == root then true
      else !owned root entry && !((map.get root).any (fun parent => descendant parent entry))) :=
  AssocMap.get_retain _ _ _

omit [BoundsHasher] in
theorem get_of_get_removeByRootRef {map : RefMap} {root refId : String} {entry : RefEntry}
    (h : (map.removeByRootRef root).get refId = some entry) : map.get refId = some entry := by
  rw [get_removeByRootRef] at h
  exact (Option.filter_eq_some_iff.mp h).1

omit [BoundsHasher] in
theorem get_removeByRootRef_self (map : RefMap) (root : String) :
    (map.removeByRootRef root).get root = map.get root := by
  rw [get_removeByRootRef]
  cases map.get root <;> simp

omit [BoundsHasher] in
theorem Numbered.removeByRootRef {map : RefMap} (h : map.Numbered) (root : String) :
    (map.removeByRootRef root).Numbered :=
  fun refId entry hget => h refId entry (get_of_get_removeByRootRef hget)

/-! ## Checking -/

omit [BoundsHasher] in
theorem refKeyNumber_pos {refId : String} {number : ℕ} (h : refKeyNumber refId = some number) :
    0 < number := by
  unfold refKeyNumber at h
  split at h
  · exact decide_eq_true_iff.mp (Option.filter_eq_some_iff.mp h).2
  · cases h

theorem validateBinding_eq_ok {maxId maxId' : ℕ} {binding : String × RefEntry}
    (h : validateBinding maxId binding = .ok maxId') :
    ∃ number, binding.1 = refIdOf number ∧ 0 < number ∧ maxId' = max maxId number := by
  unfold validateBinding at h
  cases hkey : refKeyNumber binding.1 with
  | none =>
    rw [hkey] at h
    cases h
  | some number =>
    rw [hkey] at h
    dsimp only at h
    split_ifs at h with hcanonical
    · obtain ⟨_, hthrow, -⟩ := Except.bind_eq_ok_iff.mp h
      cases hthrow
    · obtain ⟨_, -, h⟩ := Except.bind_eq_ok_iff.mp h
      have hkey' : refIdOf number = binding.1 := by simpa using hcanonical
      exact ⟨number, hkey'.symm, refKeyNumber_pos hkey, (Except.pure_eq_ok_iff.mp h).symm⟩

theorem foldlM_validateBinding {bindings : List (String × RefEntry)} {maxId maxId' : ℕ}
    (h : bindings.foldlM validateBinding maxId = .ok maxId') :
    maxId ≤ maxId' ∧ ∀ binding ∈ bindings,
      ∃ number, binding.1 = refIdOf number ∧ 0 < number ∧ number ≤ maxId' := by
  induction bindings generalizing maxId with
  | nil =>
    obtain rfl := Except.pure_eq_ok_iff.mp h
    exact ⟨le_rfl, by simp⟩
  | cons binding rest ih =>
    rw [List.foldlM_cons] at h
    obtain ⟨mid, hbinding, h⟩ := Except.bind_eq_ok_iff.mp h
    obtain ⟨hle, hrest⟩ := ih h
    obtain ⟨number, hkey, hpos, rfl⟩ := validateBinding_eq_ok hbinding
    refine ⟨(le_max_left _ _).trans hle, List.forall_mem_cons.mpr ⟨?_, hrest⟩⟩
    exact ⟨number, hkey, hpos, (le_max_right _ _).trans hle⟩

/-- **A map that passes its check is numbered**, and its counter is not used up. -/
theorem numbered_of_validate {map : RefMap} (h : map.validate = .ok ()) :
    map.Numbered ∧ map.counter ≠ u32Max := by
  obtain ⟨maxId, hmaxId, h⟩ := Except.bind_eq_ok_iff.mp h
  have hbindings := (foldlM_validateBinding hmaxId).2
  split_ifs at h with hcounter
  simp only [Bool.or_eq_true, decide_eq_true_eq, beq_iff_eq, not_or, Nat.not_lt] at hcounter
  refine ⟨fun refId entry hget => ?_, hcounter.2⟩
  obtain ⟨number, hkey, hpos, hle⟩ :=
    hbindings (refId, entry) (AssocMap.get_eq_some_iff.mp hget)
  exact ⟨number, hkey, hpos, hle.trans hcounter.1⟩

end RefMap

end AgentDesktop
