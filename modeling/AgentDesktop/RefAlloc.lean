import AgentDesktop.AccessibilityNode
import AgentDesktop.Capability
import AgentDesktop.RefIds

/-!
# Giving refs to a tree

A snapshot walks the observed tree and offers a ref to every node that can be
acted on. Where the traversal stopped without such a node above it, the nearest
named node is given a ref as well, so that the region can be drilled into. The
walk also drops what the options ask to drop: bounds, wrappers without content,
leaves without a ref.
-/

namespace AgentDesktop

/-! ## What the allocation is told -/

/-- `RefAllocOptions`. -/
structure RefAllocOptions where
  /-- Whether bounds are kept. -/
  includeBounds : Bool
  /-- Whether leaves without a ref are dropped. -/
  interactiveOnly : Bool
  /-- Whether wrappers without content are dropped. -/
  compact : Bool

/-- `RefAllocSource`. -/
structure RefAllocSource where
  pid : ProcessId
  app : Option String
  windowId : Option String
  windowTitle : Option String
  /-- The hash of the window's bounds. -/
  windowBoundsHash : Option UInt64
  processInstance : Option String
  surface : SnapshotSurface

/-- `RefAllocScope`. -/
structure RefAllocScope where
  /-- The ref that is drilled into. -/
  rootRefId : Option String
  /-- The path of the root of the tree. -/
  pathPrefix : RefPath

/-- `RefAllocConfig`. -/
structure RefAllocConfig where
  options : RefAllocOptions
  source : RefAllocSource
  /-- Where it was walked from. -/
  scope : RefAllocScope

namespace RefAllocConfig

/-- The process the entries record. -/
def process (config : RefAllocConfig) : RefProcess :=
  ⟨config.source.pid, config.source.processInstance⟩

/-- The window the entries record. -/
def refSource (config : RefAllocConfig) : RefSource where
  sourceApp := config.source.app
  sourceWindowId := config.source.windowId
  sourceWindowTitle := config.source.windowTitle
  sourceWindowBoundsHash := config.source.windowBoundsHash
  sourceSurface := config.source.surface

end RefAllocConfig

/-! ## Tests on a node -/

/-- `meaningful_string` of the allocation: only the empty text is nothing. -/
def nonEmptyString (value : Option String) : Option String :=
  value.filter (fun text => !text.isEmpty)

/-- `has_meaningful_text`. -/
def hasMeaningfulText (value : Option String) : Bool := value.any (fun text => !isBlank text)

/-- `is_ref_able`. -/
def isRefAble (node : AccessibilityNode) : Bool :=
  isRefAbleRoleActions node.role node.presentation.availableActions

/-- `can_receive_observed_ref`. -/
def canReceiveObservedRef (node : AccessibilityNode) : Bool :=
  Role.isCanonical node.role && node.role != "unknown"

/-- `is_collapsible`: a wrapper without content around one child. -/
def isCollapsible (node : AccessibilityNode) : Bool :=
  (Role.fromToken node.role).isTransparentWrapper
    && node.refId.isNone
    && !hasMeaningfulText node.identity.name
    && !hasMeaningfulText node.identity.value
    && !hasMeaningfulText node.identity.description
    && node.identity.nativeId.isNone
    && !hasMeaningfulText node.presentation.hint
    && node.presentation.states.isEmpty
    && node.presentation.availableActions.isEmpty
    && node.presentation.bounds.isNone
    && node.childrenCount.isNone
    && node.children.length == 1

section

variable [BoundsHasher]

/-- `is_resolvable_skeleton_anchor`. -/
def isResolvableSkeletonAnchor (node : AccessibilityNode) : Bool :=
  canReceiveObservedRef node
    && (hasMeaningfulText node.identity.name
      || hasMeaningfulText node.identity.description
      || node.identity.nativeId.any (fun identifier =>
        identifier.kind != .unknown && !isBlank identifier.value)
      || (node.presentation.bounds.bind Rect.boundsHash).isSome)

/-- `ref_entry_from_node`. -/
def refEntryFromNode (node : AccessibilityNode) (config : RefAllocConfig)
    (rootRef : Option String) (path : RefPath) : RefEntry :=
  let bounds := node.presentation.bounds.filter Rect.isValid
  { process := config.process
    identity :=
      { retainedObject := node.identity.retainedObject
        role := node.role
        name := nonEmptyString node.identity.name
        value := nonEmptyString node.identity.value
        description := nonEmptyString node.identity.description
        nativeId := node.identity.nativeId.filter (fun identifier => !isBlank identifier.value) }
    geometry := ⟨bounds, bounds.bind Rect.boundsHash⟩
    capabilities := ⟨node.presentation.states, node.presentation.availableActions⟩
    source := config.refSource
    scope := ⟨rootRef, false, path⟩ }

/-! ## Planning the anchors -/

mutual

/-- `plan_skeleton_anchors`: whether an open end below the node is covered by no ref, and
the paths of the anchors planned. -/
def planSkeletonAnchors (path : RefPath) : AccessibilityNode → Bool × List RefPath
  | ⟨refId, role, identity, presentation, childrenCount, subtreeTruncated, children⟩ =>
    let node : AccessibilityNode :=
      ⟨refId, role, identity, presentation, childrenCount, subtreeTruncated, children⟩
    let below := planSkeletonAnchorsBelow path 0 children
    if !(childrenCount.isSome || below.1) then (false, below.2)
    else if canReceiveObservedRef node && isRefAble node then (false, below.2)
    else if !path.isEmpty && isResolvableSkeletonAnchor node then (false, below.2 ++ [path])
    else (true, below.2)

/-- The loop of `plan_skeleton_anchors` over the children. -/
def planSkeletonAnchorsBelow (path : RefPath) (index : ℕ) :
    List AccessibilityNode → Bool × List RefPath
  | [] => (false, [])
  | child :: rest =>
    let first := planSkeletonAnchors (path ++ [index]) child
    let others := planSkeletonAnchorsBelow path (index + 1) rest
    (first.1 || others.1, first.2 ++ others.2)

end

/-! ## The walk -/

/-- `allocate_observed_ref`. -/
def allocateObservedRef (map : RefMap) (entry : RefEntry) :
    Except AppError (Option String × RefMap) :=
  (map.tryAllocateObserved entry).map (fun result =>
    match result.1 with
    | .allocated refId => (some refId, result.2)
    | .skippedInvalidRole | .skippedInvalidEntry => (none, result.2))

/-- An entry without its bounds, where they are not kept. -/
def RefAllocOptions.boundsOf (options : RefAllocOptions) (entry : RefEntry) : RefEntry :=
  if options.includeBounds then entry
  else { entry with geometry := { entry.geometry with bounds := none } }

/-- The entry of a node that can be acted on. -/
def refAbleEntry (config : RefAllocConfig) (path : RefPath) (node : AccessibilityNode) :
    RefEntry :=
  let entry := refEntryFromNode node config config.scope.rootRefId path
  config.options.boundsOf
    { entry with scope := { entry.scope with pathIsAbsolute := config.scope.rootRefId.isSome } }

/-- The entry of an anchor, which offers no action. -/
def anchorEntry (config : RefAllocConfig) (path : RefPath) (node : AccessibilityNode) :
    RefEntry :=
  let entry := refEntryFromNode node config none path
  config.options.boundsOf
    { entry with capabilities := { entry.capabilities with availableActions := [] } }

/-- The ref of one node in `allocate_refs_at_path`. -/
def allocateOwnRef (config : RefAllocConfig) (anchors : List RefPath) (path : RefPath)
    (node : AccessibilityNode) (map : RefMap) : Except AppError (Option String × RefMap) :=
  if isRefAble node then allocateObservedRef map (refAbleEntry config path node)
  else if anchors.contains path then allocateObservedRef map (anchorEntry config path node)
  else .ok (node.refId, map)

omit [BoundsHasher] in
/-- What the walk leaves of a child: nothing of a leaf without a ref where only interactive
nodes are kept, and the child of a wrapper in its place. -/
def keepChild (config : RefAllocConfig) (collapsible : Bool) (child : AccessibilityNode) :
    Option AccessibilityNode :=
  if collapsible then child.children.head?
  else if config.options.interactiveOnly && child.refId.isNone && !isRefAble child
      && child.children.isEmpty && child.childrenCount.isNone then none
  else some child

mutual

/-- `allocate_refs_at_path`. -/
def allocateRefsAtPath (config : RefAllocConfig) (anchors : List RefPath) (path : RefPath) :
    AccessibilityNode → RefMap → Except AppError (AccessibilityNode × RefMap)
  | ⟨refId, role, identity, presentation, childrenCount, subtreeTruncated, children⟩, map => do
    let (refId, map) ← allocateOwnRef config anchors path
      ⟨refId, role, identity, presentation, childrenCount, subtreeTruncated, children⟩ map
    let presentation :=
      if config.options.includeBounds then presentation
      else { presentation with bounds := none }
    let (children, map) ← allocateRefsBelow config anchors path 0 children map
    return (⟨refId, role, identity, presentation, childrenCount, subtreeTruncated, children⟩, map)

/-- The loop of `allocate_refs_at_path` over the children. -/
def allocateRefsBelow (config : RefAllocConfig) (anchors : List RefPath) (path : RefPath)
    (index : ℕ) : List AccessibilityNode → RefMap →
      Except AppError (List AccessibilityNode × RefMap)
  | [], map => .ok ([], map)
  | child :: rest, map => do
    let collapsible := config.options.compact && isCollapsible child
    let (child, map) ← allocateRefsAtPath config anchors (path ++ [index]) child map
    let (others, map) ← allocateRefsBelow config anchors path (index + 1) rest map
    return ((keepChild config collapsible child).toList ++ others, map)

end

/-- `allocate_refs`. -/
def allocateRefs (node : AccessibilityNode) (map : RefMap) (config : RefAllocConfig) :
    Except AppError (AccessibilityNode × RefMap) :=
  let anchors :=
    if config.scope.rootRefId.isNone then (planSkeletonAnchors [] node).2 else []
  allocateRefsAtPath config anchors config.scope.pathPrefix node map

/-! ## What the walk does to the map -/

/-- **The entries of one allocation**: each is read off a node of the tree, at a path that
continues the one of the root; anchors are given in a walk from the surface only. -/
def AllocatedFrom (tree : AccessibilityNode) (config : RefAllocConfig) (entry : RefEntry) :
    Prop :=
  ∃ node ∈ preorder tree, ∃ path, config.scope.pathPrefix <+: path
    ∧ (entry = refAbleEntry config path node
      ∨ (config.scope.rootRefId = none ∧ entry = anchorEntry config path node))

theorem allocateObservedRef_extends {Kind : RefEntry → Prop} {map map' : RefMap}
    {entry : RefEntry} {refId : Option String} (hmap : map.Numbered) (hkind : Kind entry)
    (h : allocateObservedRef map entry = .ok (refId, map')) : map.Extends Kind map' := by
  obtain ⟨⟨allocation, map₁⟩, hallocate, hresult⟩ := Except.map_eq_ok_iff.mp h
  have hextends := RefMap.tryAllocateObserved_extends hmap hkind hallocate
  cases allocation <;> cases hresult <;> exact hextends

omit [BoundsHasher] in
@[simp] theorem RefAllocOptions.boundsOf_process (options : RefAllocOptions) (entry : RefEntry) :
    (options.boundsOf entry).process = entry.process := by
  unfold boundsOf
  split_ifs <;> rfl

omit [BoundsHasher] in
@[simp] theorem RefAllocOptions.boundsOf_source (options : RefAllocOptions) (entry : RefEntry) :
    (options.boundsOf entry).source = entry.source := by
  unfold boundsOf
  split_ifs <;> rfl

omit [BoundsHasher] in
@[simp] theorem RefAllocOptions.boundsOf_scope (options : RefAllocOptions) (entry : RefEntry) :
    (options.boundsOf entry).scope = entry.scope := by
  unfold boundsOf
  split_ifs <;> rfl

namespace AllocatedFrom

variable {tree : AccessibilityNode} {config : RefAllocConfig} {entry : RefEntry}

theorem process (h : AllocatedFrom tree config entry) : entry.process = config.process := by
  obtain ⟨node, -, path, -, rfl | ⟨-, rfl⟩⟩ := h
  · simp [refAbleEntry, refEntryFromNode]
  · simp [anchorEntry, refEntryFromNode]

theorem source (h : AllocatedFrom tree config entry) : entry.source = config.refSource := by
  obtain ⟨node, -, path, -, rfl | ⟨-, rfl⟩⟩ := h
  · simp [refAbleEntry, refEntryFromNode]
  · simp [anchorEntry, refEntryFromNode]

theorem rootRef (h : AllocatedFrom tree config entry) :
    entry.scope.rootRef = config.scope.rootRefId := by
  obtain ⟨node, -, path, -, rfl | ⟨hroot, rfl⟩⟩ := h
  · simp [refAbleEntry, refEntryFromNode]
  · simp [anchorEntry, refEntryFromNode, hroot]

theorem pathIsAbsolute (h : AllocatedFrom tree config entry) :
    entry.scope.pathIsAbsolute = config.scope.rootRefId.isSome := by
  obtain ⟨node, -, path, -, rfl | ⟨hroot, rfl⟩⟩ := h
  · simp [refAbleEntry]
  · simp [anchorEntry, refEntryFromNode, hroot]

theorem path (h : AllocatedFrom tree config entry) :
    config.scope.pathPrefix <+: entry.scope.path := by
  obtain ⟨node, -, path, hpath, rfl | ⟨-, rfl⟩⟩ := h
  · simpa [refAbleEntry, refEntryFromNode] using hpath
  · simpa [anchorEntry, refEntryFromNode] using hpath

end AllocatedFrom

variable {config : RefAllocConfig} {anchors : List RefPath} {tree : AccessibilityNode}

theorem allocateOwnRef_extends (hanchors : anchors = [] ∨ config.scope.rootRefId = none)
    {path : RefPath} (hpath : config.scope.pathPrefix <+: path) {node : AccessibilityNode}
    (hnode : node ∈ preorder tree) {map map' : RefMap} {refId : Option String}
    (hmap : map.Numbered) (h : allocateOwnRef config anchors path node map = .ok (refId, map')) :
    map.Extends (AllocatedFrom tree config) map' := by
  unfold allocateOwnRef at h
  split_ifs at h with hrefAble hanchor
  · exact allocateObservedRef_extends hmap ⟨node, hnode, path, hpath, Or.inl rfl⟩ h
  · rcases hanchors with rfl | hroot
    · simp at hanchor
    · exact allocateObservedRef_extends hmap ⟨node, hnode, path, hpath, Or.inr ⟨hroot, rfl⟩⟩ h
  · cases h
    exact .refl map

mutual

theorem allocateRefsAtPath_extends (hanchors : anchors = [] ∨ config.scope.rootRefId = none)
    {path : RefPath} (hpath : config.scope.pathPrefix <+: path) :
    ∀ (node : AccessibilityNode) {map map' : RefMap} {node' : AccessibilityNode},
      preorder node ⊆ preorder tree → map.Numbered →
      allocateRefsAtPath config anchors path node map = .ok (node', map') →
        map.Extends (AllocatedFrom tree config) map'
  | ⟨refId, role, identity, presentation, childrenCount, subtreeTruncated, children⟩,
      map, map', node', hnodes, hmap, h => by
    rw [allocateRefsAtPath] at h
    obtain ⟨⟨own, map₁⟩, hown, h⟩ := Except.bind_eq_ok_iff.mp h
    obtain ⟨⟨below, map₂⟩, hbelow, h⟩ := Except.bind_eq_ok_iff.mp h
    cases h
    rw [preorder_eq] at hnodes
    have hfirst := allocateOwnRef_extends hanchors hpath (hnodes List.mem_cons_self) hmap hown
    exact hfirst.trans (allocateRefsBelow_extends hanchors hpath 0 children
      (List.subset_of_cons_subset hnodes) (hfirst.numbered hmap) hbelow)

theorem allocateRefsBelow_extends (hanchors : anchors = [] ∨ config.scope.rootRefId = none)
    {path : RefPath} (hpath : config.scope.pathPrefix <+: path) (index : ℕ) :
    ∀ (children : List AccessibilityNode) {map map' : RefMap}
      {children' : List AccessibilityNode},
      preorderForest children ⊆ preorder tree → map.Numbered →
      allocateRefsBelow config anchors path index children map = .ok (children', map') →
        map.Extends (AllocatedFrom tree config) map'
  | [], map, map', children', _, _, h => by
    rw [allocateRefsBelow] at h
    cases h
    exact .refl map
  | child :: rest, map, map', children', hnodes, hmap, h => by
    rw [allocateRefsBelow] at h
    obtain ⟨⟨first, map₁⟩, hchild, h⟩ := Except.bind_eq_ok_iff.mp h
    obtain ⟨⟨others, map₂⟩, hrest, h⟩ := Except.bind_eq_ok_iff.mp h
    cases h
    rw [preorderForest] at hnodes
    have hfirst := allocateRefsAtPath_extends hanchors
      (hpath.trans (List.prefix_append path [index])) child
      (List.Subset.trans (List.subset_append_left _ _) hnodes) hmap hchild
    exact hfirst.trans (allocateRefsBelow_extends hanchors hpath (index + 1) rest
      (List.Subset.trans (List.subset_append_right _ _) hnodes) (hfirst.numbered hmap) hrest)

end

/-- **An allocation extends the map by entries of its own tree.** -/
theorem allocateRefs_extends {node' : AccessibilityNode} {map map' : RefMap}
    (hmap : map.Numbered) (h : allocateRefs tree map config = .ok (node', map')) :
    map.Extends (AllocatedFrom tree config) map' := by
  unfold allocateRefs at h
  refine allocateRefsAtPath_extends ?_ List.prefix_rfl tree (List.Subset.refl _) hmap h
  cases hroot : config.scope.rootRefId with
  | none => exact Or.inr rfl
  | some root => exact Or.inl rfl

end

end AgentDesktop
