import AgentDesktop.Drillers
import AgentDesktop.Hydrate

/-!
# Who owns a ref

An entry may name an owner: the ref its observation was rooted at. A drill-down
trusts the name, and removes what the root owns. Three commands write it. A
snapshot writes none. A drill-down names a ref of the map it writes to. A search
below a ref names that ref as well – but writes a new map, in which the same name
may be given to another element, by the search itself or by a later drill-down.

Where this does not happen, an entry lies under the owner it names, and a removal
at a ref takes only what lies under it. `RefCommand.Safe` says when a command
keeps to this: whether the names that the search or the drill-down gives out
collide with an owner from another map is read off the numbers and the paths of
what was observed.
-/

namespace AgentDesktop

/-! ## Ownership -/

namespace RefMap

/-- **A well owned map**: where the owner an entry names is in the map, the entry lies under
it. -/
def WellOwned (map : RefMap) : Prop :=
  ∀ refId entry root owner, map.get refId = some entry → entry.scope.rootRef = some root →
    map.get root = some owner → entry.LiesUnder owner

/-- **A removal at a root takes only what lies under it**, in a well owned map. -/
theorem WellOwned.liesUnder_of_removed {map : RefMap} (h : map.WellOwned) {root refId : String}
    {parent entry : RefEntry} (hparent : map.get root = some parent)
    (hget : map.get refId = some entry) (hremoved : (map.removeByRootRef root).get refId = none) :
    entry.LiesUnder parent := by
  by_cases howned : owned root entry = true
  · exact h refId entry root parent hget (beq_iff_eq.mp howned) hparent
  by_cases hdescendant : descendant parent entry = true
  · exact liesUnder_of_descendant hdescendant
  · rw [Bool.not_eq_true] at howned hdescendant
    have hkept := (get_removeByRootRef_eq_some_iff hparent).mpr
      ⟨hget, Or.inr ⟨howned, hdescendant⟩⟩
    rw [hremoved] at hkept
    cases hkept

theorem wellOwned_of_rootRef_eq_none {map : RefMap}
    (h : ∀ refId entry, map.get refId = some entry → entry.scope.rootRef = none) :
    map.WellOwned := by
  intro refId entry root owner hget hroot
  rw [h refId entry hget] at hroot
  cases hroot

end RefMap

section

variable [BoundsHasher]

/-! ## Drill-downs -/

/-- The paths at which a drill-down gives refs, in order. -/
def drillPaths (root : String) (parent : RefEntry) (options : RefAllocOptions)
    (rawTree : AccessibilityNode) : List RefPath :=
  ((preorderAt parent.scope.path rawTree).filter (fun origin =>
    (grantedEntry (drillConfig root parent options) origin.1 origin.2).isSome)).map Prod.fst

/-- **A drill-down that gives no name away**: where an entry that it keeps names an owner that is
not in the map, and the drill-down gives that name to a node, the entry lies under the node. -/
def DrillSafe (map : RefMap) (root : String) (parent : RefEntry) (options : RefAllocOptions)
    (rawTree : AccessibilityNode) : Prop :=
  ∀ refId entry, map.get refId = some entry →
    refId = root ∨ (RefMap.owned root entry = false ∧ RefMap.descendant parent entry = false) →
    ∀ index path, entry.scope.rootRef = some (refIdOf (map.counter + 1 + index)) →
      (drillPaths root parent options rawTree)[index]? = some path →
        entry.process = parent.process ∧ entry.source = parent.source
          ∧ path <+: entry.scope.path

theorem map_path_grantedEntries (config : RefAllocConfig)
    (raw : List (RefPath × AccessibilityNode)) :
    (grantedEntries config raw).map (fun entry => entry.scope.path)
      = (raw.filter (fun origin => (grantedEntry config origin.1 origin.2).isSome)).map
        Prod.fst := by
  induction raw with
  | nil => rfl
  | cons origin rest ih =>
    rw [← List.singleton_append, grantedEntries_append, List.map_append, ih,
      grantedEntries_singleton, List.filter_append, List.map_append]
    congr 1
    cases hgranted : grantedEntry config origin.1 origin.2 with
    | none => rw [List.filter_cons_of_neg (by rw [hgranted]; exact Bool.false_ne_true)]; rfl
    | some entry =>
      rw [List.filter_cons_of_pos (by rw [hgranted]; rfl)]
      exact congrArg (· :: []) (of_grantedEntry hgranted).1

variable {root : String} {parent : RefEntry} {options : RefAllocOptions}
  {rawTree tree : AccessibilityNode} {map map' : RefMap}

theorem RefMap.WellOwned.drillUpdate (hnumbered : map.Numbered) (h : map.WellOwned)
    (hparent : map.get root = some parent)
    (hdrill : drillUpdate root parent options rawTree map = .ok (tree, map'))
    (hsafe : DrillSafe map root parent options rawTree) : map'.Numbered ∧ map'.WellOwned := by
  have hremoved := hnumbered.removeByRootRef root
  have hextends := allocateRefs_extends hremoved hdrill
  have hall := allocateRefs_allocateAll (fun hnone => by cases hnone) hdrill
  refine ⟨hextends.numbered hremoved, fun refId entry name owner hget hname howner => ?_⟩
  rcases hextends.fresh refId entry hget with hold | ⟨hentry, -⟩
  · obtain ⟨hbefore, hkept⟩ := (get_removeByRootRef_eq_some_iff hparent).mp hold
    rcases (RefMap.get_allocateAll_eq_some_iff hremoved hall).mp howner with
      hownerOld | ⟨index, rfl, hindex⟩
    · exact h refId entry name owner hbefore hname (get_of_get_removeByRootRef hownerOld)
    · -- the name was given to a node by this drill-down
      have hpath : (drillPaths root parent options rawTree)[index]? = some owner.scope.path := by
        unfold drillPaths
        rw [← map_path_grantedEntries, List.getElem?_map]
        exact congrArg _ hindex
      obtain ⟨hprocess, hsource, hfront⟩ :=
        hsafe refId entry hbefore hkept index owner.scope.path hname hpath
      rcases hextends.fresh _ owner howner with hownerOld | ⟨hownerNew, -⟩
      · rw [hremoved.get_fresh (Nat.lt_add_right index (Nat.lt_succ_self _))] at hownerOld
        cases hownerOld
      · exact ⟨hprocess.trans hownerNew.liesUnder_drilled.1.symm,
          hsource.trans hownerNew.liesUnder_drilled.2.1.symm, hfront⟩
  · -- the entry is new, and names the root
    rw [hentry.rootRef] at hname
    cases hname
    have hself := hextends.kept _ _ ((map.get_removeByRootRef_self root).trans hparent)
    rw [hself] at howner
    cases howner
    exact hentry.liesUnder_drilled

/-- **No other drill-down does**: one that keeps the owners is safe. -/
theorem drillSafe_of_wellOwned (hnumbered : map.Numbered) (hparent : map.get root = some parent)
    (hdrill : drillUpdate root parent options rawTree map = .ok (tree, map'))
    (h : map'.WellOwned) : DrillSafe map root parent options rawTree := by
  have hremoved := hnumbered.removeByRootRef root
  have hextends := allocateRefs_extends hremoved hdrill
  have hall := allocateRefs_allocateAll (fun hnone => by cases hnone) hdrill
  intro refId entry hget hkept index path hname hpath
  unfold drillPaths at hpath
  rw [← map_path_grantedEntries, List.getElem?_map, Option.map_eq_some_iff] at hpath
  obtain ⟨owner, howner, rfl⟩ := hpath
  have hbound : map'.get (refIdOf (map.counter + 1 + index)) = some owner :=
    (RefMap.get_allocateAll_eq_some_iff hremoved hall).mpr (Or.inr ⟨index, rfl, howner⟩)
  have hstays := hextends.kept refId entry
    ((RefMap.get_removeByRootRef_eq_some_iff hparent).mpr ⟨hget, hkept⟩)
  have hunder := h refId entry _ owner hstays hname hbound
  have hfresh : (map.removeByRootRef root).get (refIdOf (map.counter + 1 + index)) = none :=
    hremoved.get_fresh (Nat.lt_add_right index (Nat.lt_succ_self _))
  rcases hextends.fresh _ owner hbound with hold | ⟨hnew, -⟩
  · rw [hfresh] at hold
    cases hold
  · exact ⟨hunder.1.trans hnew.liesUnder_drilled.1, hunder.2.1.trans hnew.liesUnder_drilled.2.1,
      hunder.2.2⟩

/-- **In the maps of a snapshot every drill-down is safe**: an owner that an entry names is a
number the counter has passed. -/
theorem RefMap.Anchored.drillSafe (h : map.Anchored) :
    DrillSafe map root parent options rawTree := by
  intro refId entry hget _ index path hname _
  rcases h.entries refId entry hget with hnone | ⟨-, number, hnumber, hle, -⟩
  · rw [hnone] at hname
    cases hname
  · rw [hnumber, Option.some.injEq] at hname
    have heq : number = map.counter + 1 + index := refIdOf_injective hname
    omega

/-! ## Searches -/

omit [BoundsHasher] in
/-- **A search below a ref that gives the name of the ref away** only to a node that all its
refs lie under. -/
def FindSafe (root : String) (paths : List RefPath) : Prop :=
  ∀ index path, root = refIdOf (index + 1) → paths[index]? = some path →
    ∀ other ∈ paths, path <+: other

omit [BoundsHasher] in
/-- **A search that does not reach the number of its root is safe.** -/
theorem findSafe_of_length_lt {number : ℕ} {paths : List RefPath}
    (h : paths.length < number) : FindSafe (refIdOf number) paths := by
  intro index path hname hpath
  have hindex := (List.getElem?_eq_some_iff.mp hpath).1
  have heq := refIdOf_injective hname
  omega

omit [BoundsHasher] in
theorem RefMap.get_allocateAll_new {refmap : RefMap} {entries : List RefEntry}
    (h : RefMap.new.allocateAll entries = .ok refmap) {refId : String} {entry : RefEntry} :
    refmap.get refId = some entry
      ↔ ∃ index, refId = refIdOf (index + 1) ∧ entries[index]? = some entry := by
  rw [RefMap.get_allocateAll_eq_some_iff RefMap.numbered_new h]
  refine (or_iff_right (fun hnone => ?_)).trans (exists_congr (fun index => ?_))
  · cases hnone
  · show refId = refIdOf (0 + 1 + index) ∧ _ ↔ _
    rw [Nat.zero_add, Nat.add_comm]

omit [BoundsHasher] in
theorem RefMap.numbered_allocateAll_new {refmap : RefMap} {entries : List RefEntry}
    (h : RefMap.new.allocateAll entries = .ok refmap) : refmap.Numbered := by
  intro refId entry hget
  obtain ⟨index, rfl, hindex⟩ := (RefMap.get_allocateAll_new h).mp hget
  refine ⟨index + 1, rfl, Nat.succ_pos index, ?_⟩
  rw [RefMap.counter_allocateAll h]
  show index + 1 ≤ 0 + entries.length
  rw [Nat.zero_add]
  exact (List.getElem?_eq_some_iff.mp hindex).1

omit [BoundsHasher] in
/-- **A safe search keeps the owners**: all its entries name the root, and come from one
window. -/
theorem RefMap.wellOwned_of_findSafe {refmap : RefMap} {entries : List RefEntry} {root : String}
    {preliminary : RefEntry} (h : RefMap.new.allocateAll entries = .ok refmap)
    (hentries : ∀ entry ∈ entries, entry.process = preliminary.process
      ∧ entry.source = preliminary.source ∧ entry.scope.rootRef = some root)
    (hsafe : FindSafe root (entries.map (fun entry => entry.scope.path))) :
    refmap.WellOwned := by
  intro refId entry name owner hget hname howner
  obtain ⟨index, -, hindex⟩ := (RefMap.get_allocateAll_new h).mp hget
  obtain ⟨ownerIndex, hownerName, hownerIndex⟩ := (RefMap.get_allocateAll_new h).mp howner
  have hentry := hentries entry (List.mem_of_getElem? hindex)
  have hownerEntry := hentries owner (List.mem_of_getElem? hownerIndex)
  rw [hentry.2.2, Option.some.injEq] at hname
  refine ⟨hentry.1.trans hownerEntry.1.symm, hentry.2.1.trans hownerEntry.2.1.symm, ?_⟩
  refine hsafe ownerIndex owner.scope.path (hname.trans hownerName) ?_ entry.scope.path ?_
  · rw [List.getElem?_map, hownerIndex]
    rfl
  · exact List.mem_map_of_mem (List.mem_of_getElem? hindex)

omit [BoundsHasher] in
/-- **No other search does**: one that keeps the owners is safe. -/
theorem findSafe_of_wellOwned {refmap : RefMap} {entries : List RefEntry} {root : String}
    (h : RefMap.new.allocateAll entries = .ok refmap)
    (hentries : ∀ entry ∈ entries, entry.scope.rootRef = some root) (howned : refmap.WellOwned) :
    FindSafe root (entries.map (fun entry => entry.scope.path)) := by
  intro index path hname hpath other hother
  rw [List.getElem?_map, Option.map_eq_some_iff] at hpath
  obtain ⟨owner, howner, rfl⟩ := hpath
  obtain ⟨entry, hentry, rfl⟩ := List.mem_map.mp hother
  obtain ⟨otherIndex, hindex⟩ := List.getElem?_of_mem hentry
  exact (howned _ entry root owner ((RefMap.get_allocateAll_new h).mpr ⟨otherIndex, rfl, hindex⟩)
    (hentries entry hentry) ((RefMap.get_allocateAll_new h).mpr ⟨index, hname, howner⟩)).2.2

end

end AgentDesktop
