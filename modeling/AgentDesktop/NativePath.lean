import AgentDesktop.Allocation
import AgentDesktop.Materialize
import AgentDesktop.Projection

/-!
# Positions and native indices

A snapshot records the path of a node by the positions in the tree it shows.
The observed node holds the path by the platform's own indices, which is the
one a search records and the platform follows. The two paths agree as far as
every node on the way stands at its native index, which is so until a sibling
before one of them was left out of the observation.
-/

namespace AgentDesktop

/-- **Every node on the way stands at its native index**: no child before it was left out. -/
def NativeAlong (root : ObservedSubtree) : RefPath → Prop
  | [] => True
  | index :: rest => ∃ child, root.children[index]? = some child
      ∧ child.sourceChildIndex.getD index = index ∧ NativeAlong child rest

/-- **The native path is the path of positions** when every node on the way stands at its native
index. -/
theorem nativePath_eq_self_iff {root inner : ObservedSubtree} {path : RefPath}
    (h : subtreeAt root path = some inner) : nativePath root path = path ↔ NativeAlong root path := by
  induction path generalizing root with
  | nil => exact ⟨fun _ => trivial, fun _ => rfl⟩
  | cons index path ih =>
    obtain ⟨child, hchild, hinner⟩ := Option.bind_eq_some_iff.mp h
    rw [nativePath, NativeAlong, hchild]
    simp only [List.cons.injEq, Option.some.injEq, exists_eq_left', ih hinner]

/-- **Where an entry of a snapshot comes from**: a node of the projection, at a path of positions,
and the observed node it shows. -/
structure EntryOrigin (tree : ObservedTree) (index : ℕ) (raw : AccessibilityNode)
    (config : RefAllocConfig) (entry : RefEntry) (path : RefPath) (node : ObservedNode) :
    Prop where
  /-- The node is found at the path. -/
  observed : ∃ i, observedAt tree.nodes index path = some i ∧ tree.nodes[i]? = some node
  /-- The tree shows it there. -/
  shown : ∃ found, nodeAt raw path = some found ∧ found = projectNode node found.children
    ∧ entry.identity = recordedIdentity found
  /-- The entry records the path of positions. -/
  recorded : entry.scope.path = config.scope.pathPrefix ++ path

/-- **When a recorded path is the native one**: for every new entry of a snapshot, the path is
that of the native indices exactly when every node on the way stands at its native index. -/
theorem recordedPath_eq_native_iff [BoundsHasher] {root : ObservedSubtree}
    {source : ObservationSource} {stats : LocatorStats} {complete : Bool} {tree : ObservedTree}
    {index : ℕ} {raw out : AccessibilityNode} {config : RefAllocConfig} {map map' : RefMap}
    (htree : ObservedTree.fromRoots [root] source stats complete = .ok tree)
    (hindex : index ∈ tree.roots) (hproject : tree.project index = .ok raw)
    (hrooted : config.Rooted) (hmap : map.Numbered)
    (h : allocateRefs raw map config = .ok (out, map')) {refId : String} {entry : RefEntry}
    (hnone : map.get refId = none) (hget : map'.get refId = some entry) :
    ∃ path node, EntryOrigin tree index raw config entry path node
      ∧ (entry.scope.path = config.scope.pathPrefix ++ node.path ↔ NativeAlong root path) := by
  have hraw := refId_project htree hindex hproject
  obtain ⟨origins, hrecorded⟩ := allocateRefs_recorded hraw hrooted hmap h
  obtain ⟨origin, horigin, hgranted⟩ := hrecorded.grantedEntry_of_new hmap hnone hget
  obtain ⟨path, hpath, hfound⟩ := (mem_preorderAt raw).mp horigin
  obtain ⟨hscope, hidentity⟩ := of_grantedEntry hgranted
  obtain ⟨i, node, hi, hnode, hshows⟩ := nodeAt_project hproject hfound
  -- the observed node stands for the subtree of the root at the same positions
  obtain ⟨same, hsame, hroot⟩ := (fromRoots_standsAt htree).exists_left hindex
  obtain rfl := List.mem_singleton.mp hsame
  obtain ⟨inner, hinner, hstands⟩ := hroot.at hi
  have hnative : node.path = nativePath same path := (hstands.node hnode).1
  refine ⟨path, node, ⟨⟨i, hi, hnode⟩, ⟨origin.2, hfound, hshows, hidentity⟩, ?_⟩, ?_⟩
  · rw [hscope, hpath]
  · rw [hscope, hpath, hnative, List.append_cancel_left_eq, eq_comm,
      nativePath_eq_self_iff hinner]

/-! ## A child that was left out -/

namespace Sample

/-- A query that asks nothing. -/
def anyElement : LocatorQuery := ⟨⟨none, none, none, none, none⟩, none, false, [], none, none⟩

/-- A window of two buttons of which the first could not be read. -/
def gappedWindow : ObservedSubtree :=
  .new (element "window" "Notes")
    [{ ObservedSubtree.new (element "button" "Save") [] true none with
        sourceChildIndex := some 1 }] false none

/-- What was observed of it. -/
def gappedTree : ObservedTree :=
  (ObservedTree.fromRoots [gappedWindow] source stats false).toOption.get (by decide)

/-- The projection. -/
def gappedRaw : AccessibilityNode := (gappedTree.project 0).toOption.get (by decide)

/-- A snapshot of it. -/
def allocatedGapped : AccessibilityNode × RefMap :=
  (@allocateRefs noBoundsHash gappedRaw .new snapshotConfig).toOption.get (by decide)

theorem fromRoots_gappedWindow :
    ObservedTree.fromRoots [gappedWindow] source stats false = .ok gappedTree := rfl

theorem allocateRefs_gappedRaw :
    @allocateRefs noBoundsHash gappedRaw .new snapshotConfig = .ok allocatedGapped := rfl

/-- The entry the snapshot records of the second button. -/
def gappedEntry : RefEntry := (allocatedGapped.2.get "@e1").get (by decide)

end Sample

/-- **The second button is recorded as the first child**, while a search records it as the
second. -/
theorem recordedPath_of_gapped_window :
    ObservedTree.fromRoots [Sample.gappedWindow] Sample.source Sample.stats false
        = .ok Sample.gappedTree
      ∧ Sample.gappedTree.project 0 = .ok Sample.gappedRaw
      ∧ @allocateRefs Sample.noBoundsHash Sample.gappedRaw .new Sample.snapshotConfig
        = .ok Sample.allocatedGapped
      ∧ Sample.allocatedGapped.2.get "@e1" = some Sample.gappedEntry
      ∧ Sample.gappedEntry.scope.path = [0]
      ∧ Sample.gappedTree.nodes.map ObservedNode.path = [[], [1]]
      ∧ Sample.gappedTree.nodes.map (fun node =>
        (@refEntryOf Sample.noBoundsHash node Sample.source Sample.anyElement).scope.path)
          = [[], [1]] :=
  ⟨rfl, rfl, rfl, by decide, by decide, by decide, by decide⟩

/-- The button does not stand at its native index. -/
theorem recordedPath_eq_native_iff_sample :
    ∃ path node, EntryOrigin Sample.gappedTree 0 Sample.gappedRaw Sample.snapshotConfig
        Sample.gappedEntry path node
      ∧ (Sample.gappedEntry.scope.path = Sample.snapshotConfig.scope.pathPrefix ++ node.path
        ↔ NativeAlong Sample.gappedWindow path) :=
  @recordedPath_eq_native_iff Sample.noBoundsHash _ _ _ _ _ 0 Sample.gappedRaw _ _ .new _
    Sample.fromRoots_gappedWindow (by decide) rfl (fun _ => rfl) RefMap.numbered_new
    Sample.allocateRefs_gappedRaw "@e1" _ rfl (by decide)

end AgentDesktop
