import AgentDesktop.NodePath
import AgentDesktop.Util.Forall2

/-!
# From the observation to the tree

A traversal hands over subtrees, `fromRoots` lays them out in an array, and
`project` reads a tree off the array again. Along the positions of the children
the three go in step: the node of the tree at a path is the projection of the
observed node at that path, and this stands for the subtree at that path. Only
the native path of the observed node is another one: it lists the indices the
platform gives to the children.
-/

namespace AgentDesktop

/-- The subtree at a path of positions. -/
def subtreeAt (root : ObservedSubtree) : RefPath → Option ObservedSubtree
  | [] => some root
  | index :: rest => (root.children[index]?).bind (fun child => subtreeAt child rest)

/-- The native path to the subtree at a path of positions. -/
def nativePath (root : ObservedSubtree) : RefPath → RefPath
  | [] => []
  | index :: rest =>
    match root.children[index]? with
    | none => []
    | some child => child.sourceChildIndex.getD index :: nativePath child rest

/-- The index of the observed node at a path of positions. -/
def observedAt (nodes : List ObservedNode) (index : ℕ) : RefPath → Option ℕ
  | [] => some index
  | order :: rest =>
    ((childrenAt nodes index)[order]?).bind (fun child => observedAt nodes child rest)

/-! ## The layout of a subtree -/

mutual

/-- **A node of the array stands for a subtree** observed at a native path, with the nodes of
the children from a lowest index on. -/
def StandsAt (nodes : List ObservedNode) (low : ℕ) (path : RefPath) :
    ObservedSubtree → ℕ → Prop
  | ⟨evidence, children, _, childrenCount, _⟩, index =>
    ∃ node, nodes[index]? = some node ∧ low ≤ index ∧ node.evidence = evidence
      ∧ node.path = path ∧ node.childrenCount = childrenCount ∧ node.refId = none
      ∧ StandBelow nodes low path 0 children node.children

/-- Some nodes stand for the subtrees of the children from a position on. -/
def StandBelow (nodes : List ObservedNode) (low : ℕ) (path : RefPath) (order : ℕ) :
    List ObservedSubtree → List ℕ → Prop
  | [], indices => indices = []
  | child :: rest, indices =>
    ∃ index others, indices = index :: others
      ∧ StandsAt nodes low (path ++ [child.sourceChildIndex.getD order]) child index
      ∧ StandBelow nodes low path (order + 1) rest others

end

mutual

theorem StandsAt.mono {nodes nodes' : List ObservedNode} {low low' : ℕ} (hlow : low' ≤ low)
    (hsame : ∀ i node, low ≤ i → nodes[i]? = some node → nodes'[i]? = some node)
    (path : RefPath) : ∀ (subtree : ObservedSubtree) {index : ℕ},
      StandsAt nodes low path subtree index → StandsAt nodes' low' path subtree index
  | ⟨evidence, children, completeness, childrenCount, source⟩, index, h => by
    rw [StandsAt] at h ⊢
    obtain ⟨node, hnode, hle, hevidence, hpath, hcount, hrefId, hbelow⟩ := h
    exact ⟨node, hsame index node hle hnode, hlow.trans hle, hevidence, hpath, hcount, hrefId,
      StandBelow.mono hlow hsame path 0 children hbelow⟩

theorem StandBelow.mono {nodes nodes' : List ObservedNode} {low low' : ℕ} (hlow : low' ≤ low)
    (hsame : ∀ i node, low ≤ i → nodes[i]? = some node → nodes'[i]? = some node)
    (path : RefPath) (order : ℕ) : ∀ (children : List ObservedSubtree) {indices : List ℕ},
      StandBelow nodes low path order children indices →
        StandBelow nodes' low' path order children indices
  | [], indices, h => by
    rw [StandBelow] at h ⊢
    exact h
  | child :: rest, indices, h => by
    rw [StandBelow] at h ⊢
    obtain ⟨index, others, hindices, hchild, hrest⟩ := h
    exact ⟨index, others, hindices, StandsAt.mono hlow hsame _ child hchild,
      StandBelow.mono hlow hsame path (order + 1) rest hrest⟩

end

theorem StandsAt.of_isPrefix {nodes nodes' : List ObservedNode} {low low' : ℕ} {path : RefPath}
    {subtree : ObservedSubtree} {index : ℕ} (hpre : nodes <+: nodes') (hlow : low' ≤ low)
    (h : StandsAt nodes low path subtree index) : StandsAt nodes' low' path subtree index := by
  refine StandsAt.mono hlow (fun i node _ hnode => ?_) path subtree h
  rw [getElem?_of_isPrefix hpre (List.getElem?_eq_some_iff.mp hnode).1]
  exact hnode

mutual

/-- **`append` leaves a node that stands for the subtree.** -/
theorem append_standsAt (subtree : ObservedSubtree) {nodes nodes' : List ObservedNode}
    {path : RefPath} {index : ℕ} (h : append nodes path subtree = .ok (index, nodes')) :
    StandsAt nodes' nodes.length path subtree index := by
  obtain ⟨evidence, children, completeness, childrenCount, sourceChildIndex⟩ := subtree
  rw [append] at h
  simp only at h
  split_ifs at h with hlen
  split at h
  · exact absurd h (by simp)
  · rename_i childIndices complete filled hchildren
    obtain ⟨rfl, rfl⟩ := Prod.mk.inj (Except.ok.inj h)
    have hbelow := appendChildren_standBelow children hchildren
    have hnode := getElem?_of_isPrefix (appendChildren_spec children hchildren).1.isPrefix
      (show nodes.length < _ by simp)
    rw [List.getElem?_concat_length] at hnode
    rw [List.length_append, List.length_singleton] at hbelow
    rw [StandsAt]
    refine ⟨_, by rw [getElem?_close hnode, if_pos rfl], le_rfl, rfl, rfl, rfl, rfl, ?_⟩
    refine StandBelow.mono (Nat.le_succ _) (fun i other hi hother => ?_) path 0 children hbelow
    rw [getElem?_close hnode, if_neg (by omega)]
    exact hother

theorem appendChildren_standBelow (children : List ObservedSubtree)
    {nodes nodes' : List ObservedNode} {path : RefPath} {childOrder : ℕ}
    {previous : Option ℕ} {complete complete' : Bool} {indices : List ℕ}
    (h : appendChildren nodes path childOrder previous complete children
      = .ok (indices, complete', nodes')) :
    StandBelow nodes' nodes.length path childOrder children indices := by
  cases children with
  | nil =>
    rw [appendChildren] at h
    cases h
    rfl
  | cons child rest =>
    rw [appendChildren] at h
    split_ifs at h with horder
    split at h
    · exact absurd h (by simp)
    · rename_i childIndex grown hchild
      split at h
      · exact absurd h (by simp)
      · rename_i childIndices complete'' filled hrest
        cases h
        have hpre := (append_spec child hchild).2.isPrefix
        rw [StandBelow]
        refine ⟨childIndex, childIndices, rfl, ?_, ?_⟩
        · exact (append_standsAt child hchild).of_isPrefix
            (appendChildren_spec rest hrest).1.isPrefix le_rfl
        · exact StandBelow.mono hpre.length_le (fun _ _ _ h => h) path _ rest
            (appendChildren_standBelow rest hrest)

end

theorem appendRoots_standsAt (roots : List ObservedSubtree) {nodes nodes' : List ObservedNode}
    {indices : List ℕ} (h : appendRoots nodes roots = .ok (indices, nodes')) :
    List.Forall₂ (StandsAt nodes' 0 []) roots indices := by
  induction roots generalizing nodes indices with
  | nil =>
    rw [appendRoots] at h
    cases h
    exact List.Forall₂.nil
  | cons root rest ih =>
    rw [appendRoots] at h
    split at h
    · exact absurd h (by simp)
    · rename_i index grown hroot
      split at h
      · exact absurd h (by simp)
      · rename_i indices' filled hrest
        cases h
        exact List.Forall₂.cons ((append_standsAt root hroot).of_isPrefix
          (appendRoots_spec rest hrest).isPrefix (Nat.zero_le _)) (ih hrest)

theorem fromRoots_standsAt {roots : List ObservedSubtree} {source : ObservationSource}
    {stats : LocatorStats} {complete : Bool} {tree : ObservedTree}
    (h : ObservedTree.fromRoots roots source stats complete = .ok tree) :
    List.Forall₂ (StandsAt tree.nodes 0 []) roots tree.roots := by
  unfold ObservedTree.fromRoots at h
  split_ifs at h
  split at h
  · cases h
  · rename_i indices nodes hroots
    cases h
    exact appendRoots_standsAt roots hroots

theorem StandsAt.node {nodes : List ObservedNode} {low index : ℕ} {path : RefPath}
    {subtree : ObservedSubtree} (h : StandsAt nodes low path subtree index) {node : ObservedNode}
    (hnode : nodes[index]? = some node) : node.path = path ∧ node.refId = none := by
  cases subtree
  rw [StandsAt] at h
  obtain ⟨same, hsame, -, -, hpath, -, hrefId, -⟩ := h
  rw [hnode] at hsame
  obtain rfl := Option.some.inj hsame
  exact ⟨hpath, hrefId⟩

/-! ## In step along the positions -/

theorem StandBelow.getElem? {nodes : List ObservedNode} {low order k index : ℕ} {path : RefPath}
    {children : List ObservedSubtree} {indices : List ℕ}
    (h : StandBelow nodes low path order children indices) (hindex : indices[k]? = some index) :
    ∃ child, children[k]? = some child
      ∧ StandsAt nodes low (path ++ [child.sourceChildIndex.getD (order + k)]) child index := by
  induction children generalizing order k indices with
  | nil =>
    rw [StandBelow] at h
    rw [h] at hindex
    cases hindex
  | cons child rest ih =>
    rw [StandBelow] at h
    obtain ⟨first, others, rfl, hfirst, hothers⟩ := h
    cases k with
    | zero =>
      obtain rfl := Option.some.inj hindex
      exact ⟨child, rfl, hfirst⟩
    | succ k =>
      obtain ⟨other, hother, hstands⟩ := ih hothers hindex
      exact ⟨other, hother, by rwa [Nat.add_right_comm, Nat.add_assoc] at hstands⟩

/-- **The observed node at a path stands for the subtree at that path**, at its native path. -/
theorem StandsAt.at {nodes : List ObservedNode} {low index found : ℕ} {path rest : RefPath}
    {subtree : ObservedSubtree} (h : StandsAt nodes low path subtree index)
    (hfound : observedAt nodes index rest = some found) :
    ∃ inner, subtreeAt subtree rest = some inner
      ∧ StandsAt nodes low (path ++ nativePath subtree rest) inner found := by
  induction rest generalizing path subtree index with
  | nil =>
    obtain rfl := Option.some.inj hfound
    exact ⟨subtree, rfl, by rwa [nativePath, List.append_nil]⟩
  | cons order rest ih =>
    obtain ⟨child, hchild, hfound⟩ := Option.bind_eq_some_iff.mp hfound
    obtain ⟨evidence, children, completeness, childrenCount, source⟩ := subtree
    rw [StandsAt] at h
    obtain ⟨node, hnode, -, -, -, -, -, hbelow⟩ := h
    rw [childrenAt_of_getElem? hnode] at hchild
    obtain ⟨inner, hinner, hstands⟩ := hbelow.getElem? hchild
    rw [Nat.zero_add] at hstands
    obtain ⟨deep, hdeep, hdeepStands⟩ := ih hstands hfound
    refine ⟨deep, ?_, ?_⟩
    · rw [subtreeAt, hinner]
      exact hdeep
    · rw [nativePath]
      simp only [hinner]
      rwa [List.append_assoc, List.singleton_append] at hdeepStands

/-- **The node of the projection at a path is the projection of the observed node at that
path.** -/
theorem nodeAt_project {nodes : List ObservedNode} {fuel index : ℕ} {path : RefPath}
    {projected found : AccessibilityNode} (h : project nodes fuel index = .ok projected)
    (hfound : nodeAt projected path = some found) :
    ∃ i node, observedAt nodes index path = some i ∧ nodes[i]? = some node
      ∧ found = projectNode node found.children := by
  induction path generalizing fuel index projected with
  | nil =>
    obtain rfl := Option.some.inj hfound
    cases fuel with
    | zero => cases h
    | succ fuel =>
      obtain ⟨node, children, hnode, -, rfl⟩ := project_succ_eq_ok_iff.mp h
      exact ⟨index, node, rfl, hnode, rfl⟩
  | cons order path ih =>
    obtain ⟨child, hchild, hbelow⟩ := Option.bind_eq_some_iff.mp hfound
    cases fuel with
    | zero => cases h
    | succ fuel =>
      obtain ⟨node, children, hnode, hchildren, rfl⟩ := project_succ_eq_ok_iff.mp h
      obtain ⟨childIndex, hchildIndex, hproject⟩ := hchildren.getElem?_left hchild
      obtain ⟨i, inner, hi, hinner, heq⟩ := ih hproject hbelow
      refine ⟨i, inner, ?_, hinner, heq⟩
      rw [observedAt, childrenAt_of_getElem? hnode, hchildIndex]
      exact hi

theorem refId_project {roots : List ObservedSubtree} {source : ObservationSource}
    {stats : LocatorStats} {complete : Bool} {tree : ObservedTree} {index : ℕ}
    {raw : AccessibilityNode} (htree : ObservedTree.fromRoots roots source stats complete = .ok tree)
    (hindex : index ∈ tree.roots) (hproject : tree.project index = .ok raw) :
    ∀ node ∈ preorder raw, node.refId = none := by
  intro node hmem
  rw [← map_snd_preorderAt []] at hmem
  obtain ⟨⟨path, found⟩, hfound, rfl⟩ := List.mem_map.mp hmem
  obtain ⟨rest, -, hfound⟩ := (mem_preorderAt raw).mp hfound
  obtain ⟨i, observed, hi, hobserved, heq⟩ := nodeAt_project hproject hfound
  obtain ⟨root, -, hroot⟩ := (fromRoots_standsAt htree).exists_left hindex
  obtain ⟨inner, -, hstands⟩ := hroot.at hi
  show found.refId = none
  rw [heq]
  exact (hstands.node hobserved).2

end AgentDesktop
