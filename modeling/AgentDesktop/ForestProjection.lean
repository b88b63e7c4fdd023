import AgentDesktop.ForestLayout

/-!
# A forest and its projection

The array is read back by taking: the projection of a node empties it, and goes
on with the children. In a layout the blocks of the children are apart, so what
is emptied is never read again, and the projection returns the forest: its shape,
and what is known of each node – except that an empty text counts as none, and
that of the identifiers only the preferred one is carried.
-/

namespace AgentDesktop

/-! ## The tree of a subtree -/

mutual

/-- **The tree that stands for a subtree**: its shape, and what is known of each node. -/
def ObservedSubtree.projected : ObservedSubtree → AccessibilityNode
  | ⟨evidence, children, completeness, childrenCount, sourceChildIndex⟩ =>
    { refId := none
      role := evidence.role.known?.getD "unknown"
      identity :=
        { retainedObject := evidence.identifiers.retainedObject
          name := evidence.name.meaningfulString
          value := evidence.value.meaningfulString
          description := evidence.description.meaningfulString
          nativeId := evidence.identifiers.preferredIdentifier }
      presentation :=
        { hint := none
          states := evidence.states.known?.getD []
          availableActions := evidence.refEvidence.availableActions.known?.getD []
          bounds := evidence.refEvidence.bounds.known? }
      childrenCount
      subtreeTruncated := !ObservedSubtree.wholeComplete
        ⟨evidence, children, completeness, childrenCount, sourceChildIndex⟩
      children := projectedBelow children }

/-- The trees that stand for some subtrees. -/
def projectedBelow : List ObservedSubtree → List AccessibilityNode
  | [] => []
  | child :: rest => child.projected :: projectedBelow rest

end

theorem projectNode_nodeOf (index : ℕ) (path : RefPath) (subtree : ObservedSubtree) :
    projectNode (nodeOf index (path, subtree)) (projectedBelow subtree.children)
      = subtree.projected := by
  cases subtree
  rfl

/-! ## Projecting by taking -/

/-- What a projection leaves of a node. -/
def ObservedNode.emptied (node : ObservedNode) : ObservedNode :=
  { node with
    evidence :=
      { node.evidence with
        role := .unknown
        name := .unknown
        value := .unknown
        description := .unknown
        states := .unknown
        refEvidence := { node.evidence.refEvidence with availableActions := .unknown } }
    children := []
    refId := none }

/-- The loop of `project` over the children. -/
def takeChildren
    (step : List ObservedNode → ℕ → Except AdapterError (AccessibilityNode × List ObservedNode)) :
    List ObservedNode → List ℕ → Except AdapterError (List AccessibilityNode × List ObservedNode)
  | nodes, [] => .ok ([], nodes)
  | nodes, child :: rest =>
    match step nodes child with
    | .error error => .error error
    | .ok (projected, nodes) =>
      match takeChildren step nodes rest with
      | .error error => .error error
      | .ok (others, nodes) => .ok (projected :: others, nodes)

/-- `project`, with the nodes it leaves: what is projected is taken out of them. -/
def projectTaking : ℕ → List ObservedNode → ℕ →
    Except AdapterError (AccessibilityNode × List ObservedNode)
  | 0, _, _ => .error (.internal "observed child index is out of bounds")
  | fuel + 1, nodes, index =>
    match nodes[index]? with
    | none => .error (.internal "observed child index is out of bounds")
    | some node =>
      match takeChildren (projectTaking fuel) (nodes.modify index ObservedNode.emptied)
        node.children with
      | .error error => .error error
      | .ok (children, nodes) => .ok (projectNode node children, nodes)

/-- Two arrays with the same nodes in a range. -/
def SameWithin (nodes nodes' : List ObservedNode) (first last : ℕ) : Prop :=
  ∀ n, first ≤ n → n < last → nodes[n]? = nodes'[n]?

/-- Two arrays with the same nodes outside a range. -/
def SameBeyond (nodes nodes' : List ObservedNode) (first last : ℕ) : Prop :=
  ∀ n, n < first ∨ last ≤ n → nodes[n]? = nodes'[n]?

section

variable {entries : List (RefPath × ObservedSubtree)}

mutual

/-- **A subtree's block is projected to its tree**, and only the block is emptied. -/
theorem projectTaking_of_block {path : RefPath} :
    ∀ (subtree : ObservedSubtree) (i fuel : ℕ) (nodes : List ObservedNode),
      subtree.entries path <+: entries.drop i → subtree.size ≤ fuel →
        SameWithin nodes (nodesFrom 0 entries) i (i + subtree.size) →
          ∃ nodes', projectTaking fuel nodes i = .ok (subtree.projected, nodes')
            ∧ SameBeyond nodes' nodes i (i + subtree.size)
  | ⟨evidence, children, completeness, childrenCount, sourceChildIndex⟩, i, fuel, nodes, hblock,
    hfuel, hsame => by
    have hsize : ObservedSubtree.size ⟨evidence, children, completeness, childrenCount,
        sourceChildIndex⟩ = (subtreesBelow children).length + 1 := size_eq _
    rw [hsize] at hfuel hsame ⊢
    obtain ⟨fuel, rfl⟩ : ∃ k, fuel = k + 1 := ⟨fuel - 1, by omega⟩
    have hnode := hsame i le_rfl (by omega)
    rw [getElem?_nodesFrom_of_block hblock] at hnode
    -- the node is emptied when it is taken, and its children stand behind it
    have hbelow : SameWithin (nodes.modify i ObservedNode.emptied) (nodesFrom 0 entries) (i + 1)
        (i + 1 + (subtreesBelow children).length) := by
      intro n hn hlt
      have hne : i ≠ n := by omega
      rw [List.getElem?_modify_ne _ _ hne]
      exact hsame n (by omega) (by omega)
    obtain ⟨nodes', hrun, houtside⟩ := takeChildren_of_block children (i + 1) fuel _
      (entriesBelow_of_block hblock) (Nat.le_of_succ_le_succ hfuel) hbelow
    refine ⟨nodes', ?_, fun n hn => ?_⟩
    · have hchildren : (nodeOf i (path, (⟨evidence, children, completeness, childrenCount,
          sourceChildIndex⟩ : ObservedSubtree))).children = childStarts (i + 1) children := rfl
      rw [projectTaking, hnode]
      simp only [hchildren, hrun]
      exact congrArg (fun tree => Except.ok (tree, nodes')) (projectNode_nodeOf i path _)
    · have hne : i ≠ n := by omega
      rw [houtside n (by omega), List.getElem?_modify_ne _ _ hne]

theorem takeChildren_of_block {path : RefPath} {order : ℕ} :
    ∀ (children : List ObservedSubtree) (i fuel : ℕ) (nodes : List ObservedNode),
      entriesBelow path order children <+: entries.drop i →
        (subtreesBelow children).length ≤ fuel →
          SameWithin nodes (nodesFrom 0 entries) i (i + (subtreesBelow children).length) →
            ∃ nodes', takeChildren (projectTaking fuel) nodes (childStarts i children)
                = .ok (projectedBelow children, nodes')
              ∧ SameBeyond nodes' nodes i (i + (subtreesBelow children).length)
  | [], i, fuel, nodes, _, _, _ => ⟨nodes, rfl, fun _ _ => rfl⟩
  | child :: rest, i, fuel, nodes, hblock, hfuel, hsame => by
    rw [length_subtreesBelow_cons] at hfuel hsame ⊢
    rw [entriesBelow] at hblock
    have hright := block_right _ hblock
    rw [length_entries] at hright
    obtain ⟨nodes₁, hchild, hfirst⟩ := projectTaking_of_block child i fuel nodes
      ((List.prefix_append _ _).trans hblock) (by omega)
      (fun n hn hlt => hsame n hn (by omega))
    -- the child leaves what stands behind it as it was
    have hlater : SameWithin nodes₁ (nodesFrom 0 entries) (i + child.size)
        (i + child.size + (subtreesBelow rest).length) := by
      intro n hn hlt
      rw [hfirst n (by omega)]
      exact hsame n (by omega) (by omega)
    obtain ⟨nodes₂, hrest, hothers⟩ := takeChildren_of_block rest (i + child.size) fuel nodes₁
      hright (by omega) hlater
    refine ⟨nodes₂, ?_, fun n hn => ?_⟩
    · rw [childStarts, takeChildren, hchild]
      simp only [hrest]
      rfl
    · rw [hothers n (by omega), hfirst n (by omega)]

end

mutual

theorem project_of_block {path : RefPath} :
    ∀ (subtree : ObservedSubtree) (i fuel : ℕ), subtree.entries path <+: entries.drop i →
      subtree.size ≤ fuel → project (nodesFrom 0 entries) fuel i = .ok subtree.projected
  | ⟨evidence, children, completeness, childrenCount, sourceChildIndex⟩, i, fuel, hblock,
    hfuel => by
    rw [size_eq] at hfuel
    obtain ⟨fuel, rfl⟩ : ∃ k, fuel = k + 1 := ⟨fuel - 1, by omega⟩
    exact project_succ_eq_ok_iff.mpr ⟨_, projectedBelow children,
      getElem?_nodesFrom_of_block hblock,
      projectBelow_of_block children (i + 1) fuel (entriesBelow_of_block hblock)
        (Nat.le_of_succ_le_succ hfuel),
      (projectNode_nodeOf i path _).symm⟩

theorem projectBelow_of_block {path : RefPath} {order : ℕ} :
    ∀ (children : List ObservedSubtree) (i fuel : ℕ),
      entriesBelow path order children <+: entries.drop i →
        (subtreesBelow children).length ≤ fuel →
          List.Forall₂ (fun child p => project (nodesFrom 0 entries) fuel child = .ok p)
            (childStarts i children) (projectedBelow children)
  | [], _, _, _, _ => .nil
  | child :: rest, i, fuel, hblock, hfuel => by
    rw [length_subtreesBelow_cons] at hfuel
    rw [entriesBelow] at hblock
    have hright := block_right _ hblock
    rw [length_entries] at hright
    exact .cons
      (project_of_block child i fuel ((List.prefix_append _ _).trans hblock) (by omega))
      (projectBelow_of_block rest (i + child.size) fuel hright (by omega))

end

theorem paths_of_block {path : RefPath} (order : ℕ) (children : List ObservedSubtree) (i : ℕ)
    (hblock : entriesBelow path order children <+: entries.drop i) :
    List.Forall₂ (fun c native => ∃ child, (nodesFrom 0 entries)[c]? = some child
        ∧ child.path = path ++ [native])
      (childStarts i children) (nativeIndexes order children) := by
  induction children generalizing order i with
  | nil => exact .nil
  | cons child rest ih =>
    rw [entriesBelow] at hblock
    have hright := block_right _ hblock
    rw [length_entries] at hright
    exact .cons
      ⟨_, getElem?_nodesFrom_of_block ((List.prefix_append _ _).trans hblock), rfl⟩
      (ih (order + 1) (i + child.size) hright)

theorem forestEntries_blocks (roots : List ObservedSubtree) (i : ℕ)
    (hblock : forestEntries roots <+: entries.drop i) :
    List.Forall₂ (fun (root : ObservedSubtree) start => root.entries [] <+: entries.drop start)
      roots (childStarts i roots) := by
  induction roots generalizing i with
  | nil => exact .nil
  | cons root rest ih =>
    rw [forestEntries_cons] at hblock
    have hright := block_right _ hblock
    rw [length_entries] at hright
    exact .cons ((List.prefix_append _ _).trans hblock) (ih (i + root.size) hright)

end

/-! ## From the roots -/

theorem rootBlocks (roots : List ObservedSubtree) :
    List.Forall₂ (fun (root : ObservedSubtree) start =>
        root.entries [] <+: (forestEntries roots).drop start)
      roots (childStarts 0 roots) :=
  forestEntries_blocks roots 0 (by rw [List.drop_zero])

theorem length_forestEntries (roots : List ObservedSubtree) :
    (forestEntries roots).length = (subtreesBelow roots).length := by
  induction roots with
  | nil => rfl
  | cons root rest ih =>
    rw [forestEntries_cons, List.length_append, length_entries, ih, length_subtreesBelow_cons]

/-- **A forest that is accepted**: it has roots, it is in native order, and its indices fit. -/
def Accepted (roots : List ObservedSubtree) : Prop :=
  roots ≠ [] ∧ (∀ root ∈ roots, root.InNativeOrder) ∧ (subtreesBelow roots).length ≤ u32Max + 1

theorem all_subtreeCompleteAt (roots : List ObservedSubtree) :
    (childStarts 0 roots).all (subtreeCompleteAt (nodesFrom 0 (forestEntries roots)))
      = roots.all ObservedSubtree.wholeComplete := by
  have hblocks := rootBlocks roots
  generalize childStarts 0 roots = starts at hblocks
  generalize forestEntries roots = entries at hblocks
  induction hblocks with
  | nil => rfl
  | cons hroot _ ih =>
    rw [List.all_cons, List.all_cons, ih,
      subtreeCompleteAt_of_getElem? (getElem?_nodesFrom_of_block hroot)]
    rfl

theorem fromRoots_nodes {roots : List ObservedSubtree} {source : ObservationSource}
    {stats : LocatorStats} {complete : Bool} {tree : ObservedTree}
    (h : ObservedTree.fromRoots roots source stats complete = .ok tree) :
    Accepted roots ∧ tree.nodes = nodesFrom 0 (forestEntries roots)
      ∧ tree.roots = childStarts 0 roots
      ∧ tree.structurallyComplete = (complete && roots.all ObservedSubtree.wholeComplete) := by
  have hbounded := tree.bounded
  unfold ObservedTree.fromRoots at h
  split_ifs at h with hempty
  have hlayout := appendRoots_layout [] roots
  split at h
  · cases h
  · rename_i indices nodes hroots
    rw [hroots] at hlayout
    obtain ⟨hresult, horder⟩ := hlayout
    obtain ⟨rfl, rfl⟩ := Prod.mk.inj hresult
    obtain rfl := Except.ok.inj h
    refine ⟨⟨fun hnil => hempty (List.isEmpty_iff.mpr hnil), horder, ?_⟩, rfl, rfl, ?_⟩
    · simpa [length_forestEntries] using hbounded
    · exact congrArg (complete && ·) (all_subtreeCompleteAt roots)

theorem not_accepted_of_fromRoots {roots : List ObservedSubtree} {source : ObservationSource}
    {stats : LocatorStats} {complete : Bool} {error : AdapterError}
    (h : ObservedTree.fromRoots roots source stats complete = .error error) : ¬Accepted roots := by
  rintro ⟨hroots, horder, hsize⟩
  unfold ObservedTree.fromRoots at h
  split_ifs at h with hempty
  · exact hroots (List.isEmpty_iff.mp hempty)
  · have hlayout := appendRoots_layout [] roots
    split at h
    · rename_i heq
      rw [heq] at hlayout
      have hlarge := hlayout horder
      rw [List.length_nil] at hlarge
      omega
    · cases h

/-! ## The layout of a forest -/

theorem forall₂_nodesFrom (start : ℕ) (entries : List (RefPath × ObservedSubtree)) :
    List.Forall₂ (fun node entry => ∃ i, node = nodeOf i entry) (nodesFrom start entries)
      entries := by
  induction entries generalizing start with
  | nil => exact .nil
  | cons entry entries ih =>
    rw [nodesFrom_cons]
    exact .cons ⟨start, rfl⟩ (ih (start + 1))

/-- **The array of a forest**: its nodes are the subtrees in document order, each subtree a range
of indices, and the array is projected to the forest. -/
structure LaidOut (roots : List ObservedSubtree) (complete : Bool) (tree : ObservedTree) :
    Prop where
  /-- The nodes are the subtrees of the forest in document order, with what was observed. -/
  inPreorder : List.Forall₂ (fun (node : ObservedNode) (entry : RefPath × ObservedSubtree) =>
      node.path = entry.1 ∧ node.evidence = entry.2.evidence
        ∧ node.childrenCount = entry.2.childrenCount ∧ node.refId = none
        ∧ node.completeness.predecessorsComplete = entry.2.completeness.predecessorsComplete)
    tree.nodes (forestEntries roots)
  /-- The document order is the index. -/
  documentOrder : ∀ (i : ℕ) (node : ObservedNode), tree.nodes[i]? = some node →
    node.documentOrder = i
  /-- What is below a node is a range of indices, as long as the subtree. -/
  contiguous : ∀ i entry, (forestEntries roots)[i]? = some entry → ∀ n,
    Relation.ReflTransGen (fun p c => c ∈ tree.children p) i n ↔ i ≤ n ∧ n < i + entry.2.size
  /-- The range holds the subtree. -/
  blocks : ∀ i entry, (forestEntries roots)[i]? = some entry →
    entry.2.entries entry.1 <+: (forestEntries roots).drop i
  /-- The native indices of the children increase strictly. -/
  nativeOrder : ∀ (i : ℕ) (node : ObservedNode), tree.nodes[i]? = some node →
    ∃ natives : List ℕ, natives.Pairwise (· < ·) ∧ List.Forall₂ (fun (c native : ℕ) =>
      ∃ child : ObservedNode, tree.nodes[c]? = some child ∧ child.path = node.path ++ [native])
      node.children natives
  /-- A node is complete when everything in its subtree is. -/
  aggregated : ∀ i entry, (forestEntries roots)[i]? = some entry →
    tree.subtreeComplete i
      = entry.2.subtrees.all (fun inner => inner.completeness.subtreeComplete)
  /-- The whole is complete when every root is, and nothing else was missing. -/
  structurallyComplete : tree.structurallyComplete
    = (complete && (subtreesBelow roots).all (fun inner => inner.completeness.subtreeComplete))
  /-- The projection of the roots is the forest, by taking and by reading. -/
  projected : List.Forall₂ (fun (root : ObservedSubtree) index =>
      (∃ left, projectTaking tree.nodes.length tree.nodes index = .ok (root.projected, left))
        ∧ tree.project index = .ok root.projected)
    roots tree.roots

theorem pairwise_nativeIndexes {roots : List ObservedSubtree}
    (horder : ∀ root ∈ roots, root.InNativeOrder) {entry : RefPath × ObservedSubtree}
    (hentry : entry ∈ forestEntries roots) :
    (nativeIndexes 0 entry.2.children).Pairwise (· < ·) := by
  obtain ⟨root, hroot, hmem⟩ := List.mem_flatMap.mp hentry
  refine horder root hroot entry.2 ?_
  rw [← map_snd_entries []]
  exact List.mem_map_of_mem hmem

theorem laidOut_of_fromRoots {roots : List ObservedSubtree} {source : ObservationSource}
    {stats : LocatorStats} {complete : Bool} {tree : ObservedTree}
    (h : ObservedTree.fromRoots roots source stats complete = .ok tree) :
    LaidOut roots complete tree := by
  obtain ⟨⟨-, horder, -⟩, hnodes, hroots, hcomplete⟩ := fromRoots_nodes h
  have hblock := blocks_forestEntries roots
  have hentry : ∀ (i : ℕ) (node : ObservedNode), tree.nodes[i]? = some node → ∃ entry,
      (forestEntries roots)[i]? = some entry ∧ node = nodeOf i entry := by
    intro i node hnode
    rw [hnodes, getElem?_nodesFrom] at hnode
    obtain ⟨entry, hentry, rfl⟩ := Option.map_eq_some_iff.mp hnode
    exact ⟨entry, hentry, rfl⟩
  have hat : ∀ (i : ℕ) (entry : RefPath × ObservedSubtree), (forestEntries roots)[i]? = some entry →
      tree.nodes[i]? = some (nodeOf i entry) := by
    intro i entry hi
    rw [hnodes, getElem?_nodesFrom, hi]
    rfl
  -- the nodes are those of the entries, each at its place
  refine ⟨?_, ?_, ?_, hblock, ?_, ?_, ?_, ?_⟩
  · rw [hnodes]
    exact (forall₂_nodesFrom 0 (forestEntries roots)).imp (fun node entry ⟨i, hnode⟩ => by
      rw [hnode]
      exact ⟨rfl, rfl, rfl, rfl, rfl⟩)
  · intro i node hnode
    obtain ⟨entry, -, rfl⟩ := hentry i node hnode
    rfl
  · intro i entry hi n
    unfold ObservedTree.children
    rw [hnodes]
    exact reaches_iff_of_block (hblock i entry hi)
  · intro i node hnode
    obtain ⟨entry, hi, rfl⟩ := hentry i node hnode
    refine ⟨_, pairwise_nativeIndexes horder (List.mem_of_getElem? hi), ?_⟩
    rw [hnodes]
    exact paths_of_block 0 entry.2.children (i + 1) (entriesBelow_of_block (hblock i entry hi))
  · intro i entry hi
    exact subtreeCompleteAt_of_getElem? (hat i entry hi)
  · rw [hcomplete, subtreesBelow_eq_flatMap, List.all_flatMap]
    rfl
  · rw [hroots]
    -- a root has a block of its own, which is all that its projection takes
    refine (rootBlocks roots).imp (fun root start hroot => ?_)
    have hsize : root.size ≤ tree.nodes.length := by
      have hle := hroot.length_le
      rw [length_entries, List.length_drop] at hle
      rw [hnodes, length_nodesFrom]
      omega
    obtain ⟨left, hleft, -⟩ := projectTaking_of_block root start tree.nodes.length tree.nodes hroot
      hsize (fun n _ _ => by rw [hnodes])
    refine ⟨⟨left, hleft⟩, ?_⟩
    unfold ObservedTree.project
    rw [hnodes] at hsize ⊢
    exact project_of_block root start _ hroot hsize

/-- **From the roots to the array, and back.** A forest is laid out when it has roots, is in
native order and fits; then its nodes are its subtrees in document order, and the projection
returns it. Every other forest is refused. -/
theorem fromRoots_laidOut (roots : List ObservedSubtree) (source : ObservationSource)
    (stats : LocatorStats) (complete : Bool) :
    match ObservedTree.fromRoots roots source stats complete with
    | .ok tree => Accepted roots ∧ LaidOut roots complete tree
    | .error _ => ¬Accepted roots := by
  cases h : ObservedTree.fromRoots roots source stats complete with
  | ok tree => exact ⟨(fromRoots_nodes h).1, laidOut_of_fromRoots h⟩
  | error error => exact not_accepted_of_fromRoots h

namespace Sample

/-- A button whose name is known to be empty. -/
def blankButton : ObservedSubtree := .new (element "button" "") [] true none

/-- A button without a name. -/
def namelessButton : ObservedSubtree :=
  .new { element "button" "" with name := .absent } [] true none

/-- The tree of a button. -/
def buttonTree (button : ObservedSubtree) : Except AdapterError ObservedTree :=
  ObservedTree.fromRoots [button] source stats true

/-- A group whose second child comes first on the platform. -/
def swappedGroup : ObservedSubtree :=
  .new (element "group" "") [{ blankButton with sourceChildIndex := some 3 }, blankButton] true none

/-- **Not every forest is laid out, and not all that is known returns**: no roots and children
out of order are refused; and two buttons are laid out and projected to one tree, though only of
the one the name is known. -/
theorem blankName_lost :
    (ObservedTree.fromRoots [] source stats true).isOk = false
      ∧ (ObservedTree.fromRoots [swappedGroup] source stats true).isOk = false
      ∧ ∃ blank nameless raw, buttonTree blankButton = .ok blank
        ∧ buttonTree namelessButton = .ok nameless ∧ blank.project 0 = .ok raw
        ∧ nameless.project 0 = .ok raw ∧ blankButton.evidence.name.known? = some ""
        ∧ namelessButton.evidence.name.known? = none :=
  ⟨by decide, by decide, (buttonTree blankButton).toOption.get (by decide),
    (buttonTree namelessButton).toOption.get (by decide), blankButton.projected, rfl, rfl, rfl, rfl,
    rfl, rfl⟩

end Sample

end AgentDesktop
