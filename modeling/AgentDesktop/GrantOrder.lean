import AgentDesktop.RefWalk

/-!
# The order in which refs are given

What a walk does to a map is to allocate the entries it grants, one after
another, in the document order of the raw tree. So the id of each is known before
the walk: the first is the next after the counter, and so on.
-/

namespace AgentDesktop

namespace RefMap

/-- Entries that pass are allocated one after another. -/
def allocateAll (map : RefMap) (entries : List RefEntry) : Except AppError RefMap :=
  entries.foldlM (fun map entry => (map.allocateValidated entry).map Prod.snd) map

theorem allocateAll_append (map : RefMap) (entries entries' : List RefEntry) :
    map.allocateAll (entries ++ entries')
      = map.allocateAll entries >>= fun map => map.allocateAll entries' := List.foldlM_append

theorem allocateAll_singleton (map : RefMap) (entry : RefEntry) :
    map.allocateAll [entry] = (map.allocateValidated entry).map Prod.snd := by
  unfold allocateAll
  rw [List.foldlM_cons]
  cases map.allocateValidated entry <;> rfl

theorem allocateAll_cons_eq_ok {map map' : RefMap} {entry : RefEntry} {rest : List RefEntry}
    (h : map.allocateAll (entry :: rest) = .ok map') :
    RefMap.allocateAll ⟨map.inner.insert (refIdOf (map.counter + 1)) entry, map.counter + 1⟩ rest
      = .ok map' ∧ map.allocateValidated entry
        = .ok (refIdOf (map.counter + 1),
          ⟨map.inner.insert (refIdOf (map.counter + 1)) entry, map.counter + 1⟩) := by
  obtain ⟨map₁, hfirst, hrest⟩ := Except.bind_eq_ok_iff.mp h
  obtain ⟨⟨refId, map₂⟩, hallocate, heq⟩ := Except.map_eq_ok_iff.mp hfirst
  obtain ⟨-, rfl, rfl⟩ := allocateValidated_eq_ok hallocate
  cases heq
  exact ⟨hrest, hallocate⟩

theorem counter_allocateAll {map map' : RefMap} {entries : List RefEntry}
    (h : map.allocateAll entries = .ok map') : map'.counter = map.counter + entries.length := by
  induction entries generalizing map with
  | nil =>
    cases h
    rfl
  | cons entry rest ih =>
    rw [ih (allocateAll_cons_eq_ok h).1, List.length_cons, Nat.add_assoc, Nat.add_comm 1]

/-- **What is bound after several allocations**: what was bound before, and the entries, under the
numbers from the counter on. -/
theorem get_allocateAll_eq_some_iff {map map' : RefMap} {entries : List RefEntry}
    (hmap : map.Numbered) (h : map.allocateAll entries = .ok map') {refId : String}
    {entry : RefEntry} :
    map'.get refId = some entry ↔ map.get refId = some entry
      ∨ ∃ index, refId = refIdOf (map.counter + 1 + index) ∧ entries[index]? = some entry := by
  induction entries generalizing map with
  | nil =>
    cases h
    simp
  | cons first rest ih =>
    obtain ⟨hrest, hfirst⟩ := allocateAll_cons_eq_ok h
    have hgrown : map.Extends (fun _ => True) _ :=
      allocateValidated_extends hmap trivial hfirst
    have hget : ∀ refId, RefMap.get
        ⟨map.inner.insert (refIdOf (map.counter + 1)) first, map.counter + 1⟩ refId
          = if refId = refIdOf (map.counter + 1) then some first else map.get refId :=
      fun refId => AssocMap.get_insert _ _ _ _
    rw [ih (hgrown.numbered hmap) hrest, hget]
    constructor
    · rintro (hold | ⟨index, rfl, hindex⟩)
      · split_ifs at hold with heq
        · exact Or.inr ⟨0, heq, hold⟩
        · exact Or.inl hold
      · exact Or.inr ⟨index + 1, by rw [Nat.add_right_comm, Nat.add_assoc _ index 1], hindex⟩
    · rintro (hold | ⟨index, rfl, hindex⟩)
      · refine Or.inl ?_
        rw [if_neg (fun heq => ?_)]
        · exact hold
        · rw [heq, hmap.get_fresh (Nat.lt_succ_self _)] at hold
          cases hold
      · cases index with
        | zero => exact Or.inl ((if_pos rfl).trans hindex)
        | succ index =>
          refine Or.inr ⟨index, ?_, hindex⟩
          rw [Nat.add_right_comm _ 1 index, Nat.add_assoc _ index 1]

end RefMap

section

variable [BoundsHasher]

/-- **The entries a walk grants refs with**, in the order of the raw nodes. -/
def grantedEntries (config : RefAllocConfig) (raw : List (RefPath × AccessibilityNode)) :
    List RefEntry :=
  raw.filterMap (fun origin => grantedEntry config origin.1 origin.2)

theorem grantedEntries_append (config : RefAllocConfig)
    (raw raw' : List (RefPath × AccessibilityNode)) :
    grantedEntries config (raw ++ raw') = grantedEntries config raw ++ grantedEntries config raw' :=
  List.filterMap_append

theorem grantedEntries_singleton (config : RefAllocConfig) (path : RefPath)
    (node : AccessibilityNode) :
    grantedEntries config [(path, node)] = (grantedEntry config path node).toList := by
  unfold grantedEntries
  rw [List.filterMap_cons]
  cases grantedEntry config path node <;> rfl

theorem allocateOwnRef_allocateAll {config : RefAllocConfig} {anchors : List RefPath}
    {path : RefPath} {node : AccessibilityNode} {map map' : RefMap} {refId : Option String}
    (hanchors : anchors.contains path = offeredAsAnchor config path node)
    (h : allocateOwnRef config anchors path node map = .ok (refId, map')) :
    map.allocateAll (grantedEntries config [(path, node)]) = .ok map' := by
  rw [grantedEntries_singleton]
  have hoffer : ∀ entry, offeredEntry config path node = some entry →
      allocateObservedRef map entry = .ok (refId, map') →
        map.allocateAll (grantedEntry config path node).toList = .ok map' := by
    intro entry hentry hallocate
    unfold grantedEntry
    rw [hentry, Option.filter_some]
    rw [allocateObservedRef_eq] at hallocate
    split_ifs at hallocate ⊢
    · obtain ⟨result, hresult, heq⟩ := Except.map_eq_ok_iff.mp hallocate
      cases heq
      exact (RefMap.allocateAll_singleton map entry).trans (Except.map_eq_ok_iff.mpr ⟨_, hresult, rfl⟩)
    · cases hallocate
      rfl
  unfold allocateOwnRef at h
  rw [hanchors] at h
  split_ifs at h with hable hanchor
  · exact hoffer _ (if_pos hable) h
  · exact hoffer _ ((if_neg hable).trans (if_pos hanchor)) h
  · cases h
    have hnone : grantedEntry config path node = none := by
      unfold grantedEntry offeredEntry
      rw [if_neg hable, if_neg hanchor]
      rfl
    rw [hnone]
    rfl

mutual

theorem allocateRefsAtPath_allocateAll {config : RefAllocConfig} {anchors : List RefPath}
    (path : RefPath) :
    ∀ (node : AccessibilityNode) {map map' : RefMap} {node' : AccessibilityNode},
      (∀ origin ∈ preorderAt path node,
        anchors.contains origin.1 = offeredAsAnchor config origin.1 origin.2) →
      allocateRefsAtPath config anchors path node map = .ok (node', map') →
        map.allocateAll (grantedEntries config (preorderAt path node)) = .ok map'
  | ⟨refId, role, identity, presentation, childrenCount, subtreeTruncated, children⟩,
      map, map', node', hanchors, h => by
    rw [allocateRefsAtPath] at h
    obtain ⟨⟨own, map₁⟩, hown, h⟩ := Except.bind_eq_ok_iff.mp h
    obtain ⟨⟨below, map₂⟩, hbelow, h⟩ := Except.bind_eq_ok_iff.mp h
    cases h
    rw [preorderAt_eq] at hanchors ⊢
    have hfirst := allocateOwnRef_allocateAll (hanchors _ List.mem_cons_self) hown
    have hrest := allocateRefsBelow_allocateAll path 0 children
      (fun origin hmem => hanchors origin (List.mem_cons_of_mem _ hmem)) hbelow
    rw [← List.singleton_append, grantedEntries_append, RefMap.allocateAll_append]
    exact Except.bind_eq_ok_iff.mpr ⟨map₁, hfirst, hrest⟩

theorem allocateRefsBelow_allocateAll {config : RefAllocConfig} {anchors : List RefPath}
    (path : RefPath) (index : ℕ) :
    ∀ (children : List AccessibilityNode) {map map' : RefMap}
      {children' : List AccessibilityNode},
      (∀ origin ∈ preorderAtBelow path index children,
        anchors.contains origin.1 = offeredAsAnchor config origin.1 origin.2) →
      allocateRefsBelow config anchors path index children map = .ok (children', map') →
        map.allocateAll (grantedEntries config (preorderAtBelow path index children)) = .ok map'
  | [], map, map', children', _, h => by
    rw [allocateRefsBelow] at h
    cases h
    rw [preorderAtBelow]
    rfl
  | child :: rest, map, map', children', hanchors, h => by
    rw [allocateRefsBelow] at h
    obtain ⟨⟨first, map₁⟩, hchild, h⟩ := Except.bind_eq_ok_iff.mp h
    obtain ⟨⟨others, map₂⟩, hrest, h⟩ := Except.bind_eq_ok_iff.mp h
    cases h
    rw [preorderAtBelow] at hanchors ⊢
    have hfirst := allocateRefsAtPath_allocateAll (path ++ [index]) child
      (fun origin hmem => hanchors origin (List.mem_append_left _ hmem)) hchild
    have hothers := allocateRefsBelow_allocateAll path (index + 1) rest
      (fun origin hmem => hanchors origin (List.mem_append_right _ hmem)) hrest
    rw [grantedEntries_append, RefMap.allocateAll_append]
    exact Except.bind_eq_ok_iff.mpr ⟨map₁, hfirst, hothers⟩

end

/-- **An allocation allocates the entries it grants**, in document order. -/
theorem allocateRefs_allocateAll {tree node' : AccessibilityNode} {config : RefAllocConfig}
    {map map' : RefMap} (hrooted : config.Rooted)
    (h : allocateRefs tree map config = .ok (node', map')) :
    map.allocateAll (grantedEntries config (preorderAt config.scope.pathPrefix tree)) = .ok map' :=
  allocateRefsAtPath_allocateAll config.scope.pathPrefix tree
    (fun _ hmem => contains_plannedAnchors hrooted hmem) h

end

end AgentDesktop
