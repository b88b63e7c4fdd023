import AgentDesktop.Evidence
import AgentDesktop.Predicate
import AgentDesktop.Util.Preorder

/-!
# Observed trees

A traversal hands over a forest of observed subtrees; `fromRoots` lays it out
in an array, in document order, and folds the completeness of the children into
that of the parent. The array carries what the evaluation rests on: the layout,
the agreement of the document order with the indices, and the folded
completeness.
-/

namespace AgentDesktop

/-- `ObservationCompleteness`. -/
structure ObservationCompleteness where
  /-- Whether nothing below the node is missing. -/
  subtreeComplete : Bool
  /-- Whether no earlier sibling of the node is missing. -/
  predecessorsComplete : Bool
  deriving DecidableEq

/-- `ObservedSubtree`. -/
structure ObservedSubtree where
  /-- What is known of the node. -/
  evidence : LocatorEvidence
  /-- The subtrees of the children. -/
  children : List ObservedSubtree
  /-- What the traversal says is missing around the node itself. -/
  completeness : ObservationCompleteness
  /-- The number of children, where the traversal only counted them. -/
  childrenCount : Option ℕ
  /-- The node's index in the platform's own list of children. -/
  sourceChildIndex : Option ℕ

/-- `ObservedSubtree::new`. -/
def ObservedSubtree.new (evidence : LocatorEvidence) (children : List ObservedSubtree)
    (subtreeComplete : Bool) (childrenCount : Option ℕ) : ObservedSubtree :=
  ⟨evidence, children, ⟨subtreeComplete, true⟩, childrenCount, none⟩

/-- `with_predecessors_complete`. -/
def ObservedSubtree.withPredecessorsComplete (subtree : ObservedSubtree)
    (predecessorsComplete : Bool) : ObservedSubtree :=
  { subtree with completeness := { subtree.completeness with predecessorsComplete } }

/-- `ObservedNode`. -/
structure ObservedNode where
  /-- What is known of the node. -/
  evidence : LocatorEvidence
  /-- The native path from the root of the observation. -/
  path : RefPath
  /-- The indices of the children. -/
  children : List ℕ
  /-- The place in document order. -/
  documentOrder : ℕ
  /-- What is missing around the node. -/
  completeness : ObservationCompleteness
  /-- The number of children, where the traversal only counted them. -/
  childrenCount : Option ℕ
  /-- The ref given to the node. -/
  refId : Option String

/-- The children at an index; none outside the array. -/
def childrenAt (nodes : List ObservedNode) (index : ℕ) : List ℕ :=
  (nodes[index]?.map ObservedNode.children).getD []

/-- Whether nothing is missing below an index; outside the array nothing is known. -/
def subtreeCompleteAt (nodes : List ObservedNode) (index : ℕ) : Bool :=
  (nodes[index]?.map (fun node => node.completeness.subtreeComplete)).getD false

theorem childrenAt_of_getElem? {nodes : List ObservedNode} {index : ℕ} {node : ObservedNode}
    (h : nodes[index]? = some node) : childrenAt nodes index = node.children := by
  simp [childrenAt, h]

theorem subtreeCompleteAt_of_getElem? {nodes : List ObservedNode} {index : ℕ}
    {node : ObservedNode} (h : nodes[index]? = some node) :
    subtreeCompleteAt nodes index = node.completeness.subtreeComplete := by
  simp [subtreeCompleteAt, h]

/-- `WindowState`. -/
structure WindowState where
  /-- Whether the window has the focus. -/
  isFocused : Bool
  /-- Whether accessibility reaches it. -/
  accessible : Bool
  minimized : Option Bool
  visible : Option Bool
  deriving DecidableEq

/-- `WindowInfo`. -/
structure WindowInfo where
  id : String
  title : String
  app : String
  pid : ProcessId
  processInstance : Option String
  bounds : Option Rect
  /-- The state of the window. -/
  state : WindowState
  deriving DecidableEq

/-- `ObservationSource`. -/
inductive ObservationSource
  /-- A surface of a window was walked. -/
  | window (window : WindowInfo) (surface : SnapshotSurface)
  /-- An element was walked, the one an entry names. -/
  | element (entry : RefEntry) (rootRef : Option String)
  deriving DecidableEq

/-- `LocatorEvaluationStats`. -/
structure LocatorEvaluationStats where
  queryClauseCount : ℕ
  textClauseCount : ℕ
  memoCellsEvaluated : ℕ
  /-- The cells whose own predicates did not fail. -/
  selfFilterCandidates : ℕ
  matchedNodes : ℕ
  deriving DecidableEq

/-- `LocatorStats`, the counts the evaluation moves. -/
structure LocatorStats where
  /-- The matches on identifiers. -/
  identifiers : LocatorIdentifierStats
  /-- The work of the evaluation. -/
  evaluation : LocatorEvaluationStats
  deriving DecidableEq

/-! ## Laying a forest out -/

/-- What `append` does to a node once its children are in the array. -/
def ObservedNode.close (childIndices : List ℕ) (complete : Bool) (node : ObservedNode) :
    ObservedNode :=
  { node with
    children := childIndices
    completeness := { node.completeness with subtreeComplete := complete } }

mutual

/-- `append`: the node is pushed, then its children, then the node learns their
indices and whether all of them are complete. -/
def append (nodes : List ObservedNode) (path : RefPath) :
    ObservedSubtree → Except AdapterError (ℕ × List ObservedNode)
  | ⟨evidence, children, completeness, childrenCount, _⟩ =>
    let index := nodes.length
    if u32Max < index then .error (.internal "observed tree exceeds u32")
    else
      let node : ObservedNode :=
        { evidence, path, children := [], documentOrder := index, completeness,
          childrenCount, refId := none }
      match appendChildren (nodes ++ [node]) path 0 none completeness.subtreeComplete
        children with
      | .error error => .error error
      | .ok (childIndices, complete, filled) =>
        .ok (index, filled.modify index (ObservedNode.close childIndices complete))

/-- The loop of `append` over the children: their indices, and whether the node
and all of them are complete. -/
def appendChildren (nodes : List ObservedNode) (path : RefPath) (childOrder : ℕ)
    (previousNativeIndex : Option ℕ) (complete : Bool) :
    List ObservedSubtree → Except AdapterError (List ℕ × Bool × List ObservedNode)
  | [] => .ok ([], complete, nodes)
  | child :: rest =>
    let nativeIndex := child.sourceChildIndex.getD childOrder
    if previousNativeIndex.any (fun previous => nativeIndex ≤ previous) then
      .error (.internal "locator tree children are not in native document order")
    else
      match append nodes (path ++ [nativeIndex]) child with
      | .error error => .error error
      | .ok (childIndex, grown) =>
        match appendChildren grown path (childOrder + 1) (some nativeIndex)
          (complete && subtreeCompleteAt grown childIndex) rest with
        | .error error => .error error
        | .ok (childIndices, complete, filled) =>
          .ok (childIndex :: childIndices, complete, filled)

end

/-- The loop of `from_roots` over the roots. -/
def appendRoots (nodes : List ObservedNode) :
    List ObservedSubtree → Except AdapterError (List ℕ × List ObservedNode)
  | [] => .ok ([], nodes)
  | root :: rest =>
    match append nodes [] root with
    | .error error => .error error
    | .ok (index, grown) =>
      match appendRoots grown rest with
      | .error error => .error error
      | .ok (indices, filled) => .ok (index :: indices, filled)

/-! ## What the layout guarantees -/

/-- What a walk leaves behind from a starting index on: every node knows its
place, and a node is complete only when its children are. -/
structure Grown (start : ℕ) (nodes : List ObservedNode) : Prop where
  /-- The document order is the index. -/
  ordered : ∀ i node, start ≤ i → nodes[i]? = some node → node.documentOrder = i
  /-- Completeness passes to the children. -/
  aggregated : ∀ i, start ≤ i → subtreeCompleteAt nodes i = true →
    ∀ c ∈ childrenAt nodes i, subtreeCompleteAt nodes c = true

theorem getElem?_of_isPrefix {nodes nodes' : List ObservedNode} (h : nodes <+: nodes') {i : ℕ}
    (hi : i < nodes.length) : nodes'[i]? = nodes[i]? := by
  obtain ⟨rest, rfl⟩ := h
  exact List.getElem?_append_left hi

theorem childrenAt_of_isPrefix {nodes nodes' : List ObservedNode} (h : nodes <+: nodes') {i : ℕ}
    (hi : i < nodes.length) : childrenAt nodes' i = childrenAt nodes i := by
  rw [childrenAt, childrenAt, getElem?_of_isPrefix h hi]

theorem subtreeCompleteAt_of_isPrefix {nodes nodes' : List ObservedNode} (h : nodes <+: nodes')
    {i : ℕ} (hi : i < nodes.length) :
    subtreeCompleteAt nodes' i = subtreeCompleteAt nodes i := by
  rw [subtreeCompleteAt, subtreeCompleteAt, getElem?_of_isPrefix h hi]

/-- Two walks one after the other are one walk, when the first one's trees are
laid out in its own block. -/
theorem Grown.extend {nodes nodes' : List ObservedNode} {start : ℕ} {roots : List ℕ}
    (h₁ : Grown start nodes) (h₂ : Grown nodes.length nodes') (hpre : nodes <+: nodes')
    (hlaid : Laid (childrenAt nodes) start roots nodes.length) : Grown start nodes' where
  ordered i node hi hget := by
    rcases Nat.lt_or_ge i nodes.length with hlt | hge
    · rw [getElem?_of_isPrefix hpre hlt] at hget
      exact h₁.ordered i node hi hget
    · exact h₂.ordered i node hge hget
  aggregated i hi hcomplete c hc := by
    rcases Nat.lt_or_ge i nodes.length with hlt | hge
    · rw [childrenAt_of_isPrefix hpre hlt] at hc
      rw [subtreeCompleteAt_of_isPrefix hpre hlt] at hcomplete
      have hrange := hlaid.child_range hi hlt hc
      rw [subtreeCompleteAt_of_isPrefix hpre hrange.2]
      exact h₁.aggregated i hi hcomplete c hc
    · exact h₂.aggregated i hge hcomplete c hc

/-- What `append` and its loop guarantee of the array they leave. -/
structure Appended (nodes : List ObservedNode) (indices : List ℕ)
    (nodes' : List ObservedNode) : Prop where
  /-- Nothing already there is touched. -/
  isPrefix : nodes <+: nodes'
  /-- The new trees occupy the new block. -/
  laid : Laid (childrenAt nodes') nodes.length indices nodes'.length
  /-- The new block is well grown. -/
  grown : Grown nodes.length nodes'
  /-- The indices stay in the range of `u32`. -/
  bounded : nodes.length ≤ u32Max + 1 → nodes'.length ≤ u32Max + 1

theorem Appended.nil (nodes : List ObservedNode) : Appended nodes [] nodes where
  isPrefix := List.prefix_rfl
  laid := .nil _
  grown := by
    refine ⟨fun i node hi hget => ?_, fun i hi hcomplete => ?_⟩
    · rw [List.getElem?_eq_none hi] at hget
      exact absurd hget (by simp)
    · rw [subtreeCompleteAt, List.getElem?_eq_none hi] at hcomplete
      exact absurd hcomplete (by simp)
  bounded := id

theorem Appended.cons {nodes grown filled : List ObservedNode} {index : ℕ} {indices : List ℕ}
    (h₁ : Appended nodes [index] grown) (h₂ : Appended grown indices filled) :
    Appended nodes (index :: indices) filled where
  isPrefix := h₁.isPrefix.trans h₂.isPrefix
  laid := by
    have hlaid : Laid (childrenAt filled) nodes.length [index] grown.length :=
      h₁.laid.congr (fun n _ hn => (childrenAt_of_isPrefix h₂.isPrefix hn).symm)
    exact hlaid.append h₂.laid
  grown := h₁.grown.extend h₂.grown h₂.isPrefix h₁.laid
  bounded h := h₂.bounded (h₁.bounded h)

section Close

variable {filled : List ObservedNode} {n : ℕ} {node : ObservedNode} {indices : List ℕ}
  {complete : Bool}

theorem getElem?_close (h : filled[n]? = some node) (i : ℕ) :
    (filled.modify n (ObservedNode.close indices complete))[i]?
      = if i = n then some (node.close indices complete) else filled[i]? := by
  rw [List.getElem?_modify]
  split_ifs with hi hi' hi'
  · subst hi
    rw [h]
    rfl
  · exact absurd hi.symm hi'
  · exact absurd hi'.symm hi
  · cases filled[i]? <;> rfl

theorem childrenAt_close (h : filled[n]? = some node) (i : ℕ) :
    childrenAt (filled.modify n (ObservedNode.close indices complete)) i
      = if i = n then indices else childrenAt filled i := by
  unfold childrenAt
  rw [getElem?_close h]
  split_ifs <;> rfl

theorem subtreeCompleteAt_close (h : filled[n]? = some node) (i : ℕ) :
    subtreeCompleteAt (filled.modify n (ObservedNode.close indices complete)) i
      = if i = n then complete else subtreeCompleteAt filled i := by
  unfold subtreeCompleteAt
  rw [getElem?_close h]
  split_ifs <;> rfl

end Close

/-- The finishing step of `append`: the node at the start of the block learns
its children and whether everything below it is complete. -/
theorem Appended.close {nodes filled : List ObservedNode} {node : ObservedNode}
    {indices : List ℕ} {complete : Bool} (horder : node.documentOrder = nodes.length)
    (hlen : nodes.length ≤ u32Max) (h : Appended (nodes ++ [node]) indices filled)
    (hcomplete : complete = true → ∀ c ∈ indices, subtreeCompleteAt filled c = true) :
    Appended nodes [nodes.length]
      (filled.modify nodes.length (ObservedNode.close indices complete)) := by
  have hn : filled[nodes.length]? = some node := by
    rw [getElem?_of_isPrefix h.isPrefix (by simp), List.getElem?_concat_length]
  have hlength : (nodes ++ [node]).length = nodes.length + 1 := by simp
  have hlaid := h.laid
  have hgrown := h.grown
  have hbounded := h.bounded
  rw [hlength] at hlaid hgrown hbounded
  refine ⟨?_, ?_, ⟨?_, ?_⟩, ?_⟩
  · -- the part before the node is the old array
    obtain ⟨tail, htail⟩ := h.isPrefix
    rw [List.modify_eq_take_drop, ← htail, List.append_assoc, List.take_left]
    exact List.prefix_append _ _
  · rw [List.length_modify]
    refine .cons (j := filled.length) ?_ (.nil _)
    rw [childrenAt_close hn, if_pos rfl]
    refine hlaid.congr (fun i hi _ => ?_)
    rw [childrenAt_close hn, if_neg (by omega)]
  · intro i node' hi hget
    rw [getElem?_close hn] at hget
    split_ifs at hget with hin
    · obtain rfl := Option.some.inj hget
      exact horder.trans hin.symm
    · exact hgrown.ordered i node' (by omega) hget
  · intro i hi hcompleteAt c hc
    rw [childrenAt_close hn] at hc
    rw [subtreeCompleteAt_close hn] at hcompleteAt ⊢
    split_ifs at hc hcompleteAt with hin
    · have hrange := hlaid.mem_range hc
      rw [if_neg (by omega)]
      exact hcomplete hcompleteAt c hc
    · have hi' : i < filled.length := by
        by_contra hge
        rw [subtreeCompleteAt, List.getElem?_eq_none (Nat.le_of_not_lt hge)] at hcompleteAt
        exact absurd hcompleteAt (by simp)
      have hrange := hlaid.child_range (by omega) hi' hc
      rw [if_neg (by omega)]
      exact hgrown.aggregated i (by omega) hcompleteAt c hc
  · intro _
    rw [List.length_modify]
    exact hbounded (by omega)

mutual

/-- **`append` lays one tree out.** -/
theorem append_spec (subtree : ObservedSubtree) {nodes nodes' : List ObservedNode}
    {path : RefPath} {index : ℕ} (h : append nodes path subtree = .ok (index, nodes')) :
    index = nodes.length ∧ Appended nodes [index] nodes' := by
  obtain ⟨evidence, children, completeness, childrenCount, sourceChildIndex⟩ := subtree
  rw [append] at h
  simp only at h
  split_ifs at h with hlen
  split at h
  · exact absurd h (by simp)
  · rename_i childIndices complete filled hchildren
    obtain ⟨rfl, rfl⟩ := Prod.mk.inj (Except.ok.inj h)
    obtain ⟨happended, hcomplete⟩ := appendChildren_spec children hchildren
    exact ⟨rfl, happended.close rfl (Nat.le_of_not_lt hlen) (fun h => (hcomplete h).2)⟩

/-- The loop of `append` lays the children's trees out, and says complete only
when all of them are. -/
theorem appendChildren_spec (children : List ObservedSubtree)
    {nodes nodes' : List ObservedNode} {path : RefPath} {childOrder : ℕ}
    {previous : Option ℕ} {complete complete' : Bool} {indices : List ℕ}
    (h : appendChildren nodes path childOrder previous complete children
      = .ok (indices, complete', nodes')) :
    Appended nodes indices nodes'
      ∧ (complete' = true →
        complete = true ∧ ∀ c ∈ indices, subtreeCompleteAt nodes' c = true) := by
  cases children with
  | nil =>
    rw [appendChildren] at h
    simp only [Except.ok.injEq, Prod.mk.injEq] at h
    obtain ⟨rfl, rfl, rfl⟩ := h
    exact ⟨Appended.nil _, fun h => ⟨h, fun c hc => absurd hc List.not_mem_nil⟩⟩
  | cons child rest =>
    rw [appendChildren] at h
    split_ifs at h with horder
    split at h
    · exact absurd h (by simp)
    · rename_i childIndex grown hchild
      split at h
      · exact absurd h (by simp)
      · rename_i childIndices complete'' filled hrest
        simp only [Except.ok.injEq, Prod.mk.injEq] at h
        obtain ⟨rfl, rfl, rfl⟩ := h
        obtain ⟨rfl, hone⟩ := append_spec child hchild
        obtain ⟨hothers, hcomplete⟩ := appendChildren_spec rest hrest
        refine ⟨hone.cons hothers, fun hall => ?_⟩
        obtain ⟨hfirst, hlater⟩ := hcomplete hall
        rw [Bool.and_eq_true] at hfirst
        refine ⟨hfirst.1, fun c hc => ?_⟩
        rcases List.mem_cons.mp hc with rfl | hc
        · have hrange := hone.laid.mem_range List.mem_cons_self
          rw [subtreeCompleteAt_of_isPrefix hothers.isPrefix hrange.2]
          exact hfirst.2
        · exact hlater c hc

end

theorem appendRoots_spec (roots : List ObservedSubtree) {nodes nodes' : List ObservedNode}
    {indices : List ℕ} (h : appendRoots nodes roots = .ok (indices, nodes')) :
    Appended nodes indices nodes' := by
  induction roots generalizing nodes indices with
  | nil =>
    obtain ⟨rfl, rfl⟩ := Prod.mk.inj (Except.ok.inj h)
    exact Appended.nil _
  | cons root rest ih =>
    rw [appendRoots] at h
    split at h
    · exact absurd h (by simp)
    · rename_i index grown hroot
      split at h
      · exact absurd h (by simp)
      · rename_i indices' filled hrest
        obtain ⟨rfl, rfl⟩ := Prod.mk.inj (Except.ok.inj h)
        exact (append_spec root hroot).2.cons (ih hrest)

/-! ## Observed trees -/

/-- **`ObservedTree`**, with what every tree built by `fromRoots` satisfies. -/
structure ObservedTree where
  /-- The nodes, in document order. -/
  nodes : List ObservedNode
  /-- The indices of the roots. -/
  roots : List ℕ
  source : ObservationSource
  stats : LocatorStats
  /-- Whether nothing is missing anywhere. -/
  structurallyComplete : Bool
  /-- The forest is laid out in preorder. -/
  laid : Laid (childrenAt nodes) 0 roots nodes.length
  /-- Every node knows its place, and completeness passes to the children. -/
  grown : Grown 0 nodes
  /-- The indices are `u32`. -/
  bounded : nodes.length ≤ u32Max + 1
  /-- A tree is complete only when its roots are. -/
  rootsComplete : structurallyComplete = true →
    ∀ r ∈ roots, subtreeCompleteAt nodes r = true

namespace ObservedTree

/-- `from_roots`. -/
def fromRoots (roots : List ObservedSubtree) (source : ObservationSource)
    (stats : LocatorStats) (structurallyComplete : Bool) :
    Except AdapterError ObservedTree :=
  if roots.isEmpty then .error (.internal "observation contains no roots")
  else
    match h : appendRoots [] roots with
    | .error error => .error error
    | .ok (indices, nodes) =>
      have spec := appendRoots_spec roots h
      .ok
        { nodes
          roots := indices
          source
          stats
          structurallyComplete :=
            structurallyComplete && indices.all (fun r => subtreeCompleteAt nodes r)
          laid := spec.laid
          grown := spec.grown
          bounded := spec.bounded (Nat.zero_le _)
          rootsComplete := fun hcomplete r hr => by
            rw [Bool.and_eq_true] at hcomplete
            exact List.all_eq_true.mp hcomplete.2 r hr }

/-- The children of a node. -/
def children (tree : ObservedTree) (index : ℕ) : List ℕ := childrenAt tree.nodes index

/-- Whether nothing is missing below a node. -/
def subtreeComplete (tree : ObservedTree) (index : ℕ) : Bool :=
  subtreeCompleteAt tree.nodes index

/-- Whether no earlier sibling of a node is missing. -/
def predecessorsComplete (tree : ObservedTree) (index : ℕ) : Bool :=
  (tree.nodes[index]?.map (fun node => node.completeness.predecessorsComplete)).getD false

end ObservedTree

namespace Sample

/-- An element with a role and a name, and nothing else. -/
def element (role name : String) : LocatorEvidence where
  role := .known role
  name := .known name
  description := .absent
  value := .absent
  identifiers := .absent
  states := .absent
  refEvidence := ⟨.absent, .absent⟩

/-- The window observed. -/
def source : ObservationSource :=
  .window ⟨"w1", "Notes", "Notes", 7, some "p7", none, ⟨true, true, none, none⟩⟩ .window

/-- Nothing counted yet. -/
def stats : LocatorStats := ⟨⟨0, 0⟩, ⟨0, 0, 0, 0, 0⟩⟩

end Sample

end AgentDesktop
