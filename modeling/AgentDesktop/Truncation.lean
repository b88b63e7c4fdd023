import AgentDesktop.Allocation
import AgentDesktop.Projection

/-!
# What is missing stays visible

A traversal that stops early marks the nodes it did not finish: it counts the
children it did not walk, and it says of a node that something below is
missing. The second mark passes to the parents when the tree is laid out. So
however the tree is presented, a marked node is shown with its marks, or a
marked node above it is: a node that counts children is never dropped, and
neither is the root.
-/

namespace AgentDesktop

/-- Whether a node is marked as unfinished. -/
def isMarked (node : AccessibilityNode) : Bool :=
  node.subtreeTruncated || node.childrenCount.isSome

/-- **The truncation of a tree is shown** in what is handed out of it: the nodes handed out
show, marks included, some of the nodes of the tree in its order, and at or above every marked
node there is a marked one among these. -/
def TruncationShown (includeBounds : Bool) (raw out : AccessibilityNode) : Prop :=
  ∃ origins, origins.Sublist (preorderAt [] raw)
    ∧ List.Forall₂ (fun node origin => ShowsNode includeBounds node origin.2)
      (preorder out) origins
    ∧ ∀ path node, nodeAt raw path = some node → isMarked node = true →
      ∃ origin ∈ origins, origin.1 <+: path ∧ isMarked origin.2 = true

/-! ## The projection of an observed tree -/

theorem subtreeCompleteAt_observedAt {nodes : List ObservedNode} (hgrown : Grown 0 nodes)
    {index found : ℕ} {path : RefPath} (hfound : observedAt nodes index path = some found)
    (hcomplete : subtreeCompleteAt nodes index = true) :
    subtreeCompleteAt nodes found = true := by
  induction path generalizing index with
  | nil =>
    obtain rfl := Option.some.inj hfound
    exact hcomplete
  | cons order path ih =>
    obtain ⟨child, hchild, hbelow⟩ := Option.bind_eq_some_iff.mp hfound
    exact ih hbelow
      (hgrown.aggregated index (Nat.zero_le _) hcomplete child (List.mem_of_getElem? hchild))

/-- **A mark of truncation reaches the root of the projection.** -/
theorem subtreeTruncated_project {tree : ObservedTree} {index : ℕ}
    {raw node : AccessibilityNode} {path : RefPath} (hproject : tree.project index = .ok raw)
    (hnode : nodeAt raw path = some node) (hmark : node.subtreeTruncated = true) :
    raw.subtreeTruncated = true := by
  obtain ⟨i, found, hi, hfound, hraw⟩ := nodeAt_project hproject (nodeAt_nil raw)
  obtain rfl := Option.some.inj hi
  obtain ⟨j, below, hj, hbelow, hsame⟩ := nodeAt_project hproject hnode
  rw [hraw]
  by_contra hcomplete
  have hroot : subtreeCompleteAt tree.nodes index = true := by
    rw [subtreeCompleteAt_of_getElem? hfound]
    simpa [projectNode] using hcomplete
  have hlower := subtreeCompleteAt_observedAt tree.grown hj hroot
  rw [subtreeCompleteAt_of_getElem? hbelow] at hlower
  rw [hsame, projectNode, hlower] at hmark
  cases hmark

/-! ## Presentations show the marks -/

mutual

theorem preorder_eraseRefs : ∀ node, preorder (eraseRefs node) = (preorder node).map eraseRefs
  | ⟨refId, role, identity, presentation, childrenCount, subtreeTruncated, children⟩ => by
    rw [eraseRefs, preorder_eq, preorder_eq, List.map_cons, ← preorderForest_eraseRefs children]
    rfl

theorem preorderForest_eraseRefs :
    ∀ children, preorderForest (eraseRefsForest children)
      = (preorderForest children).map eraseRefs
  | [] => rfl
  | child :: rest => by
    rw [eraseRefsForest, preorderForest, preorderForest, List.map_append,
      preorder_eraseRefs child, preorderForest_eraseRefs rest]

end

theorem ShowsNode.of_eraseRefs {includeBounds : Bool} {node raw : AccessibilityNode}
    (h : ShowsNode includeBounds (eraseRefs node) raw) : ShowsNode includeBounds node raw := by
  cases node
  unfold ShowsNode at h ⊢
  simp only [eraseRefs, AccessibilityNode.mk.injEq] at h ⊢
  exact ⟨trivial, h.2.1, h.2.2.1, h.2.2.2.1, h.2.2.2.2.1, h.2.2.2.2.2.1, trivial⟩

/-- **A presentation of a projection shows the truncation**, when its nodes show what those of
the transformed tree show. -/
theorem truncationShown_of_transformTree {tree : ObservedTree} {index : ℕ}
    {raw out : AccessibilityNode} (hproject : tree.project index = .ok raw)
    (includeBounds interactiveOnly compact : Bool)
    (hout : ∀ origins, List.Forall₂ (ShowsOrigin includeBounds)
        (preorder (transformTree includeBounds interactiveOnly compact raw)) origins →
      List.Forall₂ (ShowsOrigin includeBounds) (preorder out) origins) :
    TruncationShown includeBounds raw out := by
  obtain ⟨origins, hpresents⟩ :=
    transformTree_presents includeBounds interactiveOnly compact [] raw
  refine ⟨_, hpresents.sublist, hout _ hpresents.shown, fun path node hnode hmark => ?_⟩
  rw [isMarked, Bool.or_eq_true] at hmark
  rcases hmark with htruncated | hcount
  · -- the mark has reached the root, which is shown
    refine ⟨([], raw), List.mem_cons_self, List.nil_prefix, ?_⟩
    rw [isMarked, subtreeTruncated_project hproject hnode htruncated, Bool.true_or]
  · refine ⟨(path, node), hpresents.counted _ ?_ hcount, List.prefix_rfl, ?_⟩
    · exact (mem_preorderAt raw).mpr ⟨path, rfl, hnode⟩
    · rw [isMarked, hcount, Bool.or_true]

/-- **Truncation is never hidden by presentation**: neither by the transformation of the
projection of an observed tree, nor by giving refs to it. -/
theorem truncation_shown [BoundsHasher] {roots : List ObservedSubtree}
    {source : ObservationSource} {stats : LocatorStats} {complete : Bool} {tree : ObservedTree}
    {index : ℕ} {raw : AccessibilityNode}
    (htree : ObservedTree.fromRoots roots source stats complete = .ok tree)
    (hindex : index ∈ tree.roots) (hproject : tree.project index = .ok raw) :
    (∀ includeBounds interactiveOnly compact, TruncationShown includeBounds raw
        (transformTree includeBounds interactiveOnly compact raw))
      ∧ ∀ (config : RefAllocConfig) (map map' : RefMap) (out : AccessibilityNode),
        config.Rooted → allocateRefs raw map config = .ok (out, map') →
          TruncationShown config.options.includeBounds raw out := by
  refine ⟨fun includeBounds interactiveOnly compact => ?_, fun config map map' out hrooted h => ?_⟩
  · exact truncationShown_of_transformTree hproject _ interactiveOnly compact (fun _ h => h)
  refine truncationShown_of_transformTree hproject _ config.options.interactiveOnly
    config.options.compact (fun origins hshown => ?_)
  have hwalk := walkable_plannedAnchors (refId_project htree hindex hproject) hrooted
  rw [← eraseRefs_allocateRefsAtPath config.scope.pathPrefix raw hwalk h,
    preorder_eraseRefs, List.forall₂_map_left_iff] at hshown
  exact hshown.imp (fun _ _ hshows => ShowsNode.of_eraseRefs hshows)

namespace Sample

/-- A window with a wrapper whose walk stopped after one button, and a list that was only
counted. -/
def unfinishedWindow : ObservedSubtree :=
  .new (element "window" "Notes")
    [.new (element "group" "") [.new (element "button" "Save") [] true none] false none,
      .new (element "list" "Entries") [] false (some 9)] true none

/-- What was observed of it. -/
def unfinishedTree : ObservedTree :=
  (ObservedTree.fromRoots [unfinishedWindow] source stats false).toOption.get (by decide)

/-- The projection. -/
def unfinishedRaw : AccessibilityNode :=
  (unfinishedTree.project 0).toOption.get (by decide)

theorem fromRoots_unfinishedWindow :
    ObservedTree.fromRoots [unfinishedWindow] source stats false = .ok unfinishedTree := rfl

end Sample

/-- The wrapper goes, and the window says that something is missing. -/
theorem truncation_shown_sample :
    (transformTree false true true Sample.unfinishedRaw).children.map AccessibilityNode.role
        = ["button", "list"]
      ∧ TruncationShown false Sample.unfinishedRaw
        (transformTree false true true Sample.unfinishedRaw) :=
  ⟨by decide, (@truncation_shown Sample.noBoundsHash _ _ _ _ _ 0 Sample.unfinishedRaw
    Sample.fromRoots_unfinishedWindow (by decide) rfl).1 false true true⟩

end AgentDesktop
