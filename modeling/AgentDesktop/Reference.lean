import AgentDesktop.Agreement

/-!
# All matches of a settled tree

The document order of an observed tree is the document order of its projection:
both are the preorder walk of the same forest. So on a settled tree, the nodes
the evaluation selects are those the reference matcher accepts, in the order in
which a walk over the projected trees meets them.
-/

namespace AgentDesktop

/-! ## The whole forest is projected -/

namespace ObservedTree

variable {tree : ObservedTree}

theorem subtreeComplete_of_structurallyComplete (h : tree.structurallyComplete = true)
    {n : ℕ} (hn : n < tree.nodes.length) : subtreeCompleteAt tree.nodes n = true := by
  -- completeness passes from the roots down, and a parent stands before its children
  induction n using Nat.strongRecOn with
  | _ n ih =>
    rcases tree.laid.root_or_child (Nat.zero_le n) hn with hroot | ⟨p, -, hpn, hc⟩
    · exact tree.rootsComplete h n hroot
    · exact tree.grown.aggregated p (Nat.zero_le p) (ih p hpn (hpn.trans hn)) n hc

theorem project_succeeds {fuel n : ℕ} (hn : n < tree.nodes.length)
    (hfuel : tree.nodes.length ≤ fuel + n) :
    ∃ projected, AgentDesktop.project tree.nodes fuel n = .ok projected := by
  induction fuel generalizing n with
  | zero => omega
  | succ fuel ih =>
    have hnode : tree.nodes[n]? = some tree.nodes[n] := List.getElem?_eq_getElem hn
    obtain ⟨children, hchildren⟩ := Except.mapM_succeeds
      (f := AgentDesktop.project tree.nodes fuel) (l := tree.nodes[n].children)
      (fun c hc => by
        have hrange := tree.child_range hnode hc
        exact ih hrange.2 (by omega))
    exact ⟨_, project_succ_eq_ok_iff.mpr
      ⟨_, children, hnode, Except.mapM_eq_ok_iff.mp hchildren, rfl⟩⟩

/-- `project` on the roots: the trees a snapshot hands out. -/
def projectRoots (tree : ObservedTree) : Except AdapterError (List AccessibilityNode) :=
  tree.roots.mapM tree.project

theorem projectRoots_succeeds (tree : ObservedTree) :
    ∃ forest, tree.projectRoots = .ok forest :=
  Except.mapM_succeeds (fun _ hr =>
    project_succeeds (tree.laid.mem_range hr).2 (Nat.le_add_right _ _))

end ObservedTree

/-! ## Two walks over one forest

The evaluation goes over an array of nodes and the reference matcher over projected trees, and
neither knows of the other's order. What they have in common is the forest: the array is its
preorder, and the projection is made along the same recursion. -/

/-- A node and a projection of it. -/
def ProjectsTo (nodes : List ObservedNode) (n : ℕ) (projected : AccessibilityNode) : Prop :=
  ∃ fuel, project nodes fuel n = .ok projected

/-- **The walk over the projected trees meets the nodes in the order of their
indices.** -/
theorem preorderForest_projects {nodes : List ObservedNode} {i k : ℕ} {rs : List ℕ}
    (h : Laid (childrenAt nodes) i rs k) {fuel : ℕ} {forest : List AccessibilityNode}
    (hforest : List.Forall₂ (fun r p => project nodes fuel r = .ok p) rs forest) :
    List.Forall₂ (ProjectsTo nodes) (List.range' i (k - i)) (preorderForest forest) := by
  induction h generalizing fuel forest with
  | nil i =>
    cases hforest
    rw [Nat.sub_self]
    exact .nil
  | @cons i j k rs below rest ihBelow ihRest =>
    cases hforest with
    | @cons _ p _ forest hroot hforest =>
      cases fuel with
      | zero => exact absurd hroot (by simp [project])
      | succ fuel =>
        obtain ⟨node, children, hnode, hchildren, rfl⟩ := project_succ_eq_ok_iff.mp hroot
        rw [childrenAt_of_getElem? hnode] at ihBelow
        have hbelow := below.le
        have hrest := rest.le
        -- the block is the root, the block below it, and the blocks of the other trees
        have hblock : List.range' i (k - i)
            = i :: (List.range' (i + 1) (j - (i + 1)) ++ List.range' j (k - j)) := by
          rw [show k - i = 1 + ((j - (i + 1)) + (k - j)) by omega, ← List.range'_append_1,
            ← List.range'_append_1, show i + 1 + (j - (i + 1)) = j by omega]
          rfl
        rw [hblock, preorderForest, preorder_eq]
        exact .cons ⟨_, hroot⟩ (List.rel_append (ihBelow hchildren) (ihRest hforest))

/-- Two lists that pass the same tests at the same places pass them at the same
indices. -/
theorem filter_range'_eq_findIdxs {α : Type*} {i : ℕ} {l : List α} {f : ℕ → Bool}
    {g : α → Bool}
    (h : List.Forall₂ (fun n a => f n = g a) (List.range' i l.length) l) :
    (List.range' i l.length).filter f = l.findIdxs g i := by
  induction l generalizing i with
  | nil => rfl
  | cons a l ih =>
    rw [List.length_cons, List.range'_succ] at h ⊢
    cases h with
    | cons hhead htail =>
      rw [List.filter_cons, List.findIdxs_cons, hhead, ih htail]

section

variable [UnicodeLowercase]

/-- Where the reference matcher accepts a node, in document order. -/
def referenceMatches (query : LocatorQuery) (forest : List AccessibilityNode) : List ℕ :=
  (preorderForest forest).findIdxs (nodeMatches query)

/-- A tree that is complete and settled at every node. -/
structure ObservedTree.Settled (tree : ObservedTree) : Prop where
  /-- Nothing is missing in the tree. -/
  complete : tree.structurallyComplete = true
  /-- Nothing is open at a node. -/
  evidence : ∀ node ∈ tree.nodes, node.evidence.Settled

theorem locatorVerdict_settled {tree : ObservedTree} (htree : tree.Settled)
    {query : LocatorQuery} (hquery : query.validateQuery = .ok ()) {n : ℕ}
    {projected : AccessibilityNode} (h : ProjectsTo tree.nodes n projected) :
    locatorVerdict tree query n
      = .ofBool (nodeMatches query.normalizeQuery projected) := by
  obtain ⟨fuel, h⟩ := h
  obtain ⟨clause, hclause, htarget⟩ := rootClause_target query.normalizeQuery
  have hagrees := project_agrees (linked_clausesOf query.normalizeQuery)
    (fun clause hmem => roleNormalized_clausesOf hquery hmem)
    (fun m node hnode => ?_) htree.evidence fuel n projected h _ clause hclause
  · rw [← htarget]
    exact hagrees.matched
  · have hm := (List.getElem?_eq_some_iff.mp hnode).1
    rw [← subtreeCompleteAt_of_getElem? hnode]
    exact tree.subtreeComplete_of_structurallyComplete htree.complete hm

/-- **On a settled tree the matches are those of the reference matcher.** -/
theorem matchedIndices_eq_referenceMatches {tree : ObservedTree} (htree : tree.Settled)
    {query : LocatorQuery} (hquery : query.validateQuery = .ok ())
    {forest : List AccessibilityNode} (hforest : tree.projectRoots = .ok forest) :
    matchedIndices tree query = referenceMatches query.normalizeQuery forest := by
  have hwalk := preorderForest_projects tree.laid (Except.mapM_eq_ok_iff.mp hforest)
  have hlen : tree.nodes.length = (preorderForest forest).length := by
    rw [← hwalk.length_eq, List.length_range', Nat.sub_zero]
  rw [Nat.sub_zero, hlen] at hwalk
  rw [matchedIndices, hlen, List.range_eq_range']
  refine filter_range'_eq_findIdxs (hwalk.imp (fun n projected hprojected => ?_))
  rw [locatorVerdict_settled htree hquery hprojected]
  cases nodeMatches query.normalizeQuery projected <;> rfl

variable [BoundsHasher]

/-- **The two matchers select the same nodes.** On a settled tree, a resolution that
keeps all matches reports exactly the nodes at which the reference matcher accepts
the projection, in document order; and a valid query does resolve. -/
theorem evaluateLocatorTree_all_eq_reference {tree : ObservedTree} (htree : tree.Settled)
    (query : LocatorQuery) {request : LocatorResolveRequest}
    (hall : request.selection = .all none ∨ request.selection = .all (some 0)) :
    (∀ res, evaluateLocatorTree tree query request = .ok res →
        ∃ forest, tree.projectRoots = .ok forest
          ∧ res.selected.map LocatorMatch.documentOrder
            = referenceMatches query.normalizeQuery forest)
      ∧ (query.validateQuery = .ok () → validateRequest request = .ok () →
        request.materialization = .none → tree.nodes.length ≤ u32Max →
        ∃ res, evaluateLocatorTree tree query request = .ok res) := by
  refine ⟨fun res hres => ?_, evaluateLocatorTree_succeeds⟩
  have hresolved := evaluateLocatorTree_resolved hres
  obtain ⟨forest, hforest⟩ := tree.projectRoots_succeeds
  refine ⟨forest, hforest, ?_⟩
  rw [hresolved.selected, ← matchedIndices_eq_referenceMatches htree hresolved.valid hforest]
  rcases hall with h | h <;> rw [h] <;> rfl

end

namespace Sample

theorem fullTree_settled : fullTree.Settled where
  complete := by decide
  evidence node hnode := by
    have hsettled : ∀ evidence : LocatorEvidence,
        evidence ∈ [element "window" "Notes", saveRead, element "image" "Disk"] →
        evidence.Settled := by
      simp only [List.forall_mem_cons, List.not_mem_nil, false_implies, implies_true, and_true]
      refine ⟨?_, ?_, ?_⟩ <;>
        exact ⟨by decide, ⟨by decide, by decide⟩, ⟨by decide, by decide⟩,
          ⟨by decide, by decide⟩, by decide, by decide, by decide⟩
    exact hsettled _ (List.mem_map_of_mem (f := ObservedNode.evidence) hnode)

/-- All matches, without refs. -/
def allRequest : LocatorResolveRequest := ⟨.all none, 10, .none⟩

end Sample

/-- Both matchers find the button of the window. -/
theorem evaluateLocatorTree_all_eq_reference_sample :
    ∃ res forest,
      @evaluateLocatorTree Sample.asciiLowercase Sample.noBoundsHash Sample.fullTree
          Sample.saveQuery Sample.allRequest = .ok res
        ∧ Sample.fullTree.projectRoots = .ok forest
        ∧ res.selected.map LocatorMatch.documentOrder
          = @referenceMatches Sample.asciiLowercase
            (@LocatorQuery.normalizeQuery Sample.asciiLowercase Sample.saveQuery) forest := by
  obtain ⟨hsame, hresolves⟩ := @evaluateLocatorTree_all_eq_reference Sample.asciiLowercase
    Sample.noBoundsHash Sample.fullTree Sample.fullTree_settled Sample.saveQuery
    Sample.allRequest (Or.inl rfl)
  obtain ⟨res, hres⟩ := hresolves rfl rfl rfl (by decide)
  obtain ⟨forest, hforest, hmatches⟩ := hsame res hres
  exact ⟨res, forest, hres, hforest, hmatches⟩

end AgentDesktop
