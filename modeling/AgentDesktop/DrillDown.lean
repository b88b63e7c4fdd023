import AgentDesktop.Allocation

/-!
# Drilling into a ref

A snapshot of a ref observes the region below the element once more and gives
its nodes new refs in the map the ref comes from. Before that it removes the
refs an earlier observation of the region has left. Which entries these are is
decided twice: by the owner an entry names, and by its process, window and path.

The two agree. In every map that a snapshot and the drill-downs after it
produce, an entry that names an owner lies under it – that is the invariant
`Anchored` – so what a drill-down removes lies under its root, and what lies
under its root afterwards is new, or was there before any drill-down.
-/

namespace AgentDesktop

/-! ## Regions -/

/-- **An entry lies under another**: it was found in the same window of the same process, and
its path continues the other's. -/
def RefEntry.LiesUnder (entry parent : RefEntry) : Prop :=
  entry.process = parent.process ∧ entry.source = parent.source
    ∧ parent.scope.path <+: entry.scope.path

namespace RefEntry.LiesUnder

theorem refl (entry : RefEntry) : entry.LiesUnder entry := ⟨rfl, rfl, List.prefix_rfl⟩

theorem trans {entry parent root : RefEntry} (h₁ : entry.LiesUnder parent)
    (h₂ : parent.LiesUnder root) : entry.LiesUnder root :=
  ⟨h₁.1.trans h₂.1, h₁.2.1.trans h₂.2.1, h₂.2.2.trans h₁.2.2⟩

end RefEntry.LiesUnder

namespace RefMap

theorem liesUnder_of_descendant {parent entry : RefEntry} (h : descendant parent entry = true) :
    entry.LiesUnder parent := by
  simp only [descendant, Bool.and_eq_true, beq_iff_eq, List.isPrefixOf_iff_prefix] at h
  exact ⟨h.1.1.1.1.1, h.1.1.1.1.2, h.1.2⟩

/-- **What a drill-down does not remove by its path**: an entry under the root that can be
compared with it stays only at the very path of the root, and when it was not drilled. -/
theorem of_descendant_eq_false {parent entry : RefEntry} (hunder : entry.LiesUnder parent)
    (hparent : pathFromSurface parent = true) (hentry : pathFromSurface entry = true)
    (h : descendant parent entry = false) :
    entry.scope.rootRef = none ∧ entry.scope.path = parent.scope.path := by
  obtain ⟨hprocess, hsource, hpath⟩ := hunder
  unfold descendant at h
  rw [hprocess, hsource, hparent, hentry, List.isPrefixOf_iff_prefix.mpr hpath] at h
  simp only [BEq.rfl, Bool.and_self, Bool.true_and, Bool.or_eq_false_iff,
    decide_eq_false_iff_not, Nat.not_lt, Option.isSome_eq_false_iff, Option.isNone_iff_eq_none]
    at h
  exact ⟨h.2, (hpath.eq_of_length (le_antisymm hpath.length_le h.1)).symm⟩

/-! ## The invariant -/

/-- **An anchored entry**: it was not drilled, or its path starts at the surface, the owner it
names is a number the counter has passed, and where the owner is bound the entry lies under
it. -/
def AnchoredEntry (map : RefMap) (entry : RefEntry) : Prop :=
  entry.scope.rootRef = none ∨ (entry.scope.pathIsAbsolute = true
    ∧ ∃ number, entry.scope.rootRef = some (refIdOf number) ∧ number ≤ map.counter
      ∧ ∀ owner, map.get (refIdOf number) = some owner → entry.LiesUnder owner)

/-- **An anchored map**: its ids are numbers the counter has passed, and its entries are
anchored in it. -/
structure Anchored (map : RefMap) : Prop where
  numbered : map.Numbered
  /-- The entries are anchored. -/
  entries : ∀ refId entry, map.get refId = some entry → map.AnchoredEntry entry

theorem AnchoredEntry.pathFromSurface {map : RefMap} {entry : RefEntry}
    (h : map.AnchoredEntry entry) : pathFromSurface entry = true := by
  unfold RefMap.pathFromSurface
  rcases h with hnone | ⟨habsolute, -⟩
  · rw [hnone, Option.isNone_none, Bool.true_or]
  · rw [habsolute, Bool.or_true]

/-- An anchored entry stays anchored where the counter moves up and the owner it names is not
bound anew. -/
theorem AnchoredEntry.of_bound {map map' : RefMap} {entry : RefEntry}
    (h : map.AnchoredEntry entry) (hcounter : map.counter ≤ map'.counter)
    (hbound : ∀ number owner, number ≤ map.counter → map'.get (refIdOf number) = some owner →
      map.get (refIdOf number) = some owner) : map'.AnchoredEntry entry := by
  rcases h with hnone | ⟨habsolute, number, hroot, hle, hunder⟩
  · exact Or.inl hnone
  · refine Or.inr ⟨habsolute, number, hroot, hle.trans hcounter, fun owner howner => ?_⟩
    exact hunder owner (hbound number owner hle howner)

theorem Anchored.liesUnder {map : RefMap} (h : map.Anchored) {refId root : String}
    {entry owner : RefEntry} (hget : map.get refId = some entry)
    (hroot : entry.scope.rootRef = some root) (howner : map.get root = some owner) :
    entry.LiesUnder owner := by
  rcases h.entries refId entry hget with hnone | ⟨-, number, hnumber, -, hunder⟩
  · rw [hnone] at hroot
    cases hroot
  · rw [hnumber, Option.some.injEq] at hroot
    exact hunder owner (hroot ▸ howner)

theorem anchored_new : new.Anchored := ⟨numbered_new, fun _ _ h => by cases h⟩

theorem Anchored.removeByRootRef {map : RefMap} (h : map.Anchored) (root : String) :
    (map.removeByRootRef root).Anchored where
  numbered := h.numbered.removeByRootRef root
  entries := fun refId entry hget =>
    (h.entries refId entry (get_of_get_removeByRootRef hget)).of_bound le_rfl
      (fun _ _ _ => get_of_get_removeByRootRef)

theorem Anchored.extends {Kind : RefEntry → Prop} {map map' : RefMap} (h : map.Anchored)
    (hextends : map.Extends Kind map') (hkind : ∀ entry, Kind entry → map'.AnchoredEntry entry) :
    map'.Anchored where
  numbered := hextends.numbered h.numbered
  entries := by
    intro refId entry hget
    rcases hextends.fresh refId entry hget with hold | ⟨hentry, -⟩
    · refine (h.entries refId entry hold).of_bound hextends.counter_le ?_
      intro number owner hle howner
      rcases hextends.fresh _ _ howner with hbound | ⟨-, number', hnumber, hlt, -⟩
      · exact hbound
      · rw [refIdOf_injective hnumber] at hle
        exact absurd hlt (Nat.not_lt.mpr hle)
    · exact hkind entry hentry

/-! ## What a removal does to a region -/

theorem get_removeByRootRef_eq_some_iff {map : RefMap} {root refId : String}
    {parent entry : RefEntry} (hparent : map.get root = some parent) :
    (map.removeByRootRef root).get refId = some entry ↔ map.get refId = some entry
      ∧ (refId = root ∨ (owned root entry = false ∧ descendant parent entry = false)) := by
  rw [get_removeByRootRef, hparent, Option.filter_eq_some_iff]
  refine and_congr_right (fun _ => ?_)
  show (if refId == root then true else !owned root entry && !descendant parent entry) = true ↔ _
  by_cases hroot : refId = root
  · rw [if_pos (beq_iff_eq.mpr hroot)]
    exact ⟨fun _ => Or.inl hroot, fun _ => rfl⟩
  · rw [if_neg (by rwa [beq_iff_eq]), Bool.and_eq_true, Bool.not_eq_true', Bool.not_eq_true',
      or_iff_right hroot]

/-- **Only what lies under the root is removed.** -/
theorem Anchored.get_removeByRootRef_of_not_liesUnder {map : RefMap} (h : map.Anchored)
    {root refId : String} {parent entry : RefEntry} (hparent : map.get root = some parent)
    (hunder : ¬ entry.LiesUnder parent) (hget : map.get refId = some entry) :
    (map.removeByRootRef root).get refId = some entry := by
  have howned : owned root entry = false := by
    by_contra howned
    rw [Bool.not_eq_false, owned, beq_iff_eq] at howned
    exact hunder (h.liesUnder hget howned hparent)
  have hdescendant : descendant parent entry = false := by
    by_contra hdescendant
    rw [Bool.not_eq_false] at hdescendant
    exact hunder (liesUnder_of_descendant hdescendant)
  exact (get_removeByRootRef_eq_some_iff hparent).mpr ⟨hget, Or.inr ⟨howned, hdescendant⟩⟩

/-- **What is left under the root** is the root, or was not drilled and shares its path. -/
theorem Anchored.of_get_removeByRootRef {map : RefMap} (h : map.Anchored)
    {root refId : String} {parent entry : RefEntry} (hparent : map.get root = some parent)
    (hget : (map.removeByRootRef root).get refId = some entry)
    (hunder : entry.LiesUnder parent) :
    refId = root ∨ (entry.scope.rootRef = none ∧ entry.scope.path = parent.scope.path) := by
  obtain ⟨hold, hkept⟩ := (get_removeByRootRef_eq_some_iff hparent).mp hget
  refine hkept.imp_right (fun hkept => ?_)
  exact of_descendant_eq_false hunder (h.entries root parent hparent).pathFromSurface
    (h.entries refId entry hold).pathFromSurface hkept.2

end RefMap

/-! ## The drill-down -/

/-- The `RefAllocConfig` of `run_from_ref`: what was walked is read off the entry. -/
def drillConfig (root : String) (entry : RefEntry) (options : RefAllocOptions) :
    RefAllocConfig where
  options := options
  source :=
    { pid := entry.process.pid
      app := entry.source.sourceApp
      windowId := entry.source.sourceWindowId
      windowTitle := entry.source.sourceWindowTitle
      windowBoundsHash := entry.source.sourceWindowBoundsHash
      processInstance := entry.process.processInstance
      surface := entry.source.sourceSurface }
  scope := ⟨some root, entry.scope.path⟩

section

variable [BoundsHasher]

/-- The update `run_from_ref` makes to the map under the lock. -/
def drillUpdate (root : String) (entry : RefEntry) (options : RefAllocOptions)
    (rawTree : AccessibilityNode) (current : RefMap) :
    Except AppError (AccessibilityNode × RefMap) :=
  allocateRefs rawTree (current.removeByRootRef root) (drillConfig root entry options)

/-- `run_from_ref` on a map: the entry of the ref is looked up, the region is observed as the
tree given, and the map is updated. The ref is given as a token, and local to the snapshot. -/
def runFromRef (rootRefId root : String) (options : RefAllocOptions) (rawTree : AccessibilityNode)
    (map : RefMap) : Except AppError (AccessibilityNode × RefMap) :=
  match map.get root with
  | none => .error (.staleRef rootRefId)
  | some entry => drillUpdate root entry options rawTree map

/-- **What a new entry of a drill-down is.** -/
theorem AllocatedFrom.liesUnder_drilled {root : String} {parent entry : RefEntry}
    {options : RefAllocOptions} {rawTree : AccessibilityNode}
    (h : AllocatedFrom rawTree (drillConfig root parent options) entry) :
    entry.LiesUnder parent := ⟨h.process, h.source, h.path⟩

variable {rootRefId root : String} {parent : RefEntry} {options : RefAllocOptions}
  {rawTree tree : AccessibilityNode} {map map' : RefMap}

theorem RefMap.Anchored.drillUpdate (h : map.Anchored) (hparent : map.get root = some parent)
    (hdrill : drillUpdate root parent options rawTree map = .ok (tree, map')) :
    map'.Anchored := by
  obtain ⟨number, rfl, -, hle⟩ := h.numbered root parent hparent
  have hremoved := h.removeByRootRef (refIdOf number)
  have hextends := allocateRefs_extends hremoved.numbered hdrill
  refine hremoved.extends hextends (fun entry hentry => Or.inr ?_)
  refine ⟨hentry.pathIsAbsolute, number, hentry.rootRef, hle.trans hextends.counter_le, ?_⟩
  intro owner howner
  -- the root is still bound to the entry it was bound to
  have hkept := hextends.kept _ _ ((map.get_removeByRootRef_self _).trans hparent)
  rw [hkept, Option.some.injEq] at howner
  exact howner ▸ hentry.liesUnder_drilled

/-! ## Snapshots and the drill-downs after them -/

/-- **The maps of a snapshot**: what it allocates in a new map, and what drill-downs, one after
another, make of that. -/
inductive Drilled : RefMap → Prop
  /-- A snapshot walks the surface and allocates in a new map. -/
  | snapshot {rawTree tree : AccessibilityNode} {config : RefAllocConfig} {map : RefMap}
      (hscope : config.scope = ⟨none, []⟩)
      (hallocate : allocateRefs rawTree .new config = .ok (tree, map)) : Drilled map
  /-- A drill-down updates the map. -/
  | drill {rootRefId root : String} {options : RefAllocOptions} {rawTree tree : AccessibilityNode}
      {map map' : RefMap} (hmap : Drilled map)
      (hdrill : runFromRef rootRefId root options rawTree map = .ok (tree, map')) : Drilled map'

theorem runFromRef_eq_ok
    (h : runFromRef rootRefId root options rawTree map = .ok (tree, map')) :
    ∃ parent, map.get root = some parent
      ∧ drillUpdate root parent options rawTree map = .ok (tree, map') := by
  unfold runFromRef at h
  split at h
  · cases h
  · next parent hparent => exact ⟨parent, hparent, h⟩

theorem RefMap.anchored_snapshot {config : RefAllocConfig} (hroot : config.scope.rootRefId = none)
    (h : allocateRefs rawTree .new config = .ok (tree, map)) : map.Anchored :=
  RefMap.anchored_new.extends (allocateRefs_extends RefMap.numbered_new h)
    (fun _ hentry => Or.inl (hentry.rootRef.trans hroot))

theorem Drilled.anchored (h : Drilled map) : map.Anchored := by
  induction h with
  | snapshot hscope hallocate =>
    exact RefMap.anchored_snapshot (by rw [hscope]) hallocate
  | drill _ hdrill ih =>
    obtain ⟨parent, hparent, hupdate⟩ := runFromRef_eq_ok hdrill
    exact ih.drillUpdate hparent hupdate

/-! ## What a drill-down leaves -/

/-- **A refreshed region**: the root is as it was, so is everything outside its region, and
inside are the root, anchors that were never drilled at its very path, and what this drill-down
has read off its own tree. -/
structure Refreshed (root : String) (parent : RefEntry) (options : RefAllocOptions)
    (rawTree : AccessibilityNode) (map map' : RefMap) : Prop where
  /-- The root is as it was. -/
  self : map'.get root = some parent
  /-- Outside the region nothing changed. -/
  frame : ∀ refId entry, ¬ entry.LiesUnder parent →
    (map'.get refId = some entry ↔ map.get refId = some entry)
  /-- What is inside. -/
  region : ∀ refId entry, map'.get refId = some entry → entry.LiesUnder parent →
    refId = root
    ∨ (map.get refId = some entry ∧ entry.scope.rootRef = none
      ∧ entry.scope.path = parent.scope.path)
    ∨ (map.get refId = none
      ∧ AllocatedFrom rawTree (drillConfig root parent options) entry)

theorem RefMap.Anchored.refreshed (h : map.Anchored) (hparent : map.get root = some parent)
    (hdrill : AgentDesktop.drillUpdate root parent options rawTree map = .ok (tree, map')) :
    Refreshed root parent options rawTree map map' := by
  have hextends := allocateRefs_extends (h.removeByRootRef root).numbered hdrill
  refine ⟨?_, fun refId entry hunder => ⟨fun hget => ?_, fun hget => ?_⟩,
    fun refId entry hget hunder => ?_⟩
  · exact hextends.kept _ _ ((map.get_removeByRootRef_self root).trans hparent)
  · rcases hextends.fresh refId entry hget with hold | ⟨hentry, -⟩
    · exact RefMap.get_of_get_removeByRootRef hold
    · exact absurd hentry.liesUnder_drilled hunder
  · exact hextends.kept _ _ (h.get_removeByRootRef_of_not_liesUnder hparent hunder hget)
  · rcases hextends.fresh refId entry hget with hold | ⟨hentry, number, rfl, hlt, -⟩
    · refine (h.of_get_removeByRootRef hparent hold hunder).imp_right (fun hanchor => ?_)
      exact Or.inl ⟨RefMap.get_of_get_removeByRootRef hold, hanchor⟩
    · exact Or.inr (Or.inr ⟨h.numbered.get_fresh hlt, hentry⟩)

/-- **A drill-down refreshes the region of its root**, however many came before it. -/
theorem runFromRef_refreshed (hmap : Drilled map)
    (h : runFromRef rootRefId root options rawTree map = .ok (tree, map')) :
    ∃ parent, map.get root = some parent
      ∧ Refreshed root parent options rawTree map map' := by
  obtain ⟨parent, hparent, hdrill⟩ := runFromRef_eq_ok h
  exact ⟨parent, hparent, hmap.anchored.refreshed hparent hdrill⟩

end

namespace Sample

/-- The list of the window, walked from itself. -/
def rawList : AccessibilityNode :=
  rawNode "list" (some "Entries") none
    [rawNode "button" (some "Open") none [], rawNode "button" (some "Delete") none []]

/-- The list is drilled into. -/
def drilledList : AccessibilityNode × RefMap :=
  (@runFromRef noBoundsHash "@e2" "@e2" ⟨false, true, true⟩ rawList
    allocatedWindow.2).toOption.get (by decide +kernel)

/-- The list is drilled into again. -/
def drilledListAgain : AccessibilityNode × RefMap :=
  (@runFromRef noBoundsHash "@e2" "@e2" ⟨false, true, true⟩ rawList
    drilledList.2).toOption.get (by decide)

theorem runFromRef_drilledList : @runFromRef noBoundsHash "@e2" "@e2" ⟨false, true, true⟩ rawList
    allocatedWindow.2 = .ok drilledList := rfl

theorem runFromRef_drilledListAgain : @runFromRef noBoundsHash "@e2" "@e2" ⟨false, true, true⟩
    rawList drilledList.2 = .ok drilledListAgain := rfl

theorem drilled_drilledList : @Drilled noBoundsHash drilledList.2 :=
  @Drilled.drill noBoundsHash _ _ _ _ _ _ _
    (@Drilled.snapshot noBoundsHash _ _ _ _ rfl allocateRefs_rawWindow) runFromRef_drilledList

end Sample

/-- The second drill-down replaces the refs of the first. -/
theorem runFromRef_refreshed_sample :
    (Sample.drilledList.2.get "@e3").isSome = true
      ∧ (Sample.drilledListAgain.2.get "@e3").isSome = false
      ∧ (Sample.drilledListAgain.2.get "@e5").isSome = true
      ∧ ∃ parent, Sample.drilledList.2.get "@e2" = some parent
        ∧ @Refreshed Sample.noBoundsHash "@e2" parent ⟨false, true, true⟩ Sample.rawList
          Sample.drilledList.2 Sample.drilledListAgain.2 :=
  ⟨by decide, by decide, by decide,
    @runFromRef_refreshed Sample.noBoundsHash _ _ _ _ _ _ _ Sample.drilled_drilledList
      Sample.runFromRef_drilledListAgain⟩

end AgentDesktop
