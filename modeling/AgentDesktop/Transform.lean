import AgentDesktop.NodePath
import AgentDesktop.RefAlloc

/-!
# Presenting a tree

A tree is handed out without what the options ask to drop: bounds, wrappers
without content, leaves that cannot be acted on. What is handed out *presents*
the tree: each node stands for one node of the raw tree, in document order, and
shows all of it but what was dropped; and a node that counts children it does
not have is never dropped.
-/

namespace AgentDesktop

/-! ## `transform_tree` -/

/-- What is shown of the presentation of a node. -/
def shownPresentation (includeBounds : Bool) (presentation : NodePresentation) :
    NodePresentation :=
  if includeBounds then presentation else { presentation with bounds := none }

/-- What `transform_tree` leaves of a transformed child: nothing of a leaf that cannot be
acted on where only interactive nodes are kept, and the child of a wrapper in its place. -/
def keepTransformed (interactiveOnly collapsible : Bool) (child : AccessibilityNode) :
    Option AccessibilityNode :=
  if collapsible then child.children.head?
  else if interactiveOnly && !isRefAble child && child.children.isEmpty
      && child.childrenCount.isNone then none
  else some child

mutual

/-- `transform_tree`. -/
def transformTree (includeBounds interactiveOnly compact : Bool) :
    AccessibilityNode → AccessibilityNode
  | ⟨refId, role, identity, presentation, childrenCount, subtreeTruncated, children⟩ =>
    ⟨refId, role, identity, shownPresentation includeBounds presentation, childrenCount,
      subtreeTruncated, transformChildren includeBounds interactiveOnly compact children⟩

/-- The loop of `transform_tree` over the children. -/
def transformChildren (includeBounds interactiveOnly compact : Bool) :
    List AccessibilityNode → List AccessibilityNode
  | [] => []
  | child :: rest =>
    (keepTransformed interactiveOnly (compact && isCollapsible child)
      (transformTree includeBounds interactiveOnly compact child)).toList
      ++ transformChildren includeBounds interactiveOnly compact rest

end

mutual

/-- A tree without its refs. -/
def eraseRefs : AccessibilityNode → AccessibilityNode
  | ⟨_, role, identity, presentation, childrenCount, subtreeTruncated, children⟩ =>
    ⟨none, role, identity, presentation, childrenCount, subtreeTruncated,
      eraseRefsForest children⟩

/-- Some trees without their refs. -/
def eraseRefsForest : List AccessibilityNode → List AccessibilityNode
  | [] => []
  | child :: rest => eraseRefs child :: eraseRefsForest rest

end

theorem transformTree_eq (includeBounds interactiveOnly compact : Bool)
    (node : AccessibilityNode) :
    transformTree includeBounds interactiveOnly compact node
      = { node with
          presentation := shownPresentation includeBounds node.presentation
          children := transformChildren includeBounds interactiveOnly compact node.children } := by
  cases node
  rfl

theorem eraseRefs_eq (node : AccessibilityNode) :
    eraseRefs node
      = { node with refId := none, children := eraseRefsForest node.children } := by
  cases node
  rfl

theorem eraseRefsForest_append (nodes others : List AccessibilityNode) :
    eraseRefsForest (nodes ++ others) = eraseRefsForest nodes ++ eraseRefsForest others := by
  induction nodes with
  | nil => rfl
  | cons node rest ih => rw [List.cons_append, eraseRefsForest, eraseRefsForest, ih]; rfl

theorem eraseRefsForest_toList (node : Option AccessibilityNode) :
    eraseRefsForest node.toList = (node.map eraseRefs).toList := by
  cases node <;> rfl

theorem head?_eraseRefsForest (nodes : List AccessibilityNode) :
    (eraseRefsForest nodes).head? = nodes.head?.map eraseRefs := by
  cases nodes <;> rfl

theorem isEmpty_eraseRefsForest (nodes : List AccessibilityNode) :
    (eraseRefsForest nodes).isEmpty = nodes.isEmpty := by
  cases nodes <;> rfl

/-! ## Presentations -/

/-- **A node shows another**: all of it but the ref, the children and, unless they are
included, the bounds. -/
def ShowsNode (includeBounds : Bool) (node raw : AccessibilityNode) : Prop :=
  node = { raw with
    refId := node.refId
    presentation := shownPresentation includeBounds raw.presentation
    children := node.children }

theorem ShowsNode.childrenCount {includeBounds : Bool} {node raw : AccessibilityNode}
    (h : ShowsNode includeBounds node raw) : node.childrenCount = raw.childrenCount := by
  rw [h]

/-- **A presentation** of the nodes of a tree, listed with their paths: the nodes handed out
stand, in this order, for the origins, which are some of the nodes of the tree in the order of
the tree, and among them all that count children. -/
structure Presentation (Shows : AccessibilityNode → RefPath × AccessibilityNode → Prop)
    (raw : List (RefPath × AccessibilityNode)) (nodes : List AccessibilityNode)
    (origins : List (RefPath × AccessibilityNode)) : Prop where
  /-- The origins are nodes of the tree, in its order. -/
  sublist : origins.Sublist raw
  /-- Each node handed out shows its origin. -/
  shown : List.Forall₂ Shows nodes origins
  /-- No node that counts children is dropped. -/
  counted : ∀ origin ∈ raw, origin.2.childrenCount.isSome = true → origin ∈ origins

namespace Presentation

variable {Shows : AccessibilityNode → RefPath × AccessibilityNode → Prop}
  {raw raw' origins origins' : List (RefPath × AccessibilityNode)}
  {nodes nodes' : List AccessibilityNode} {node : AccessibilityNode}

theorem nil : Presentation Shows [] [] [] :=
  ⟨List.Sublist.slnil, List.Forall₂.nil, fun _ h => absurd h List.not_mem_nil⟩

theorem cons {origin : RefPath × AccessibilityNode} (hshows : Shows node origin)
    (h : Presentation Shows raw nodes origins) :
    Presentation Shows (origin :: raw) (node :: nodes) (origin :: origins) where
  sublist := h.sublist.cons_cons origin
  shown := List.Forall₂.cons hshows h.shown
  counted := by
    intro other hmem hcount
    rcases List.mem_cons.mp hmem with rfl | hmem
    · exact List.mem_cons_self
    · exact List.mem_cons_of_mem _ (h.counted other hmem hcount)

theorem append (h : Presentation Shows raw nodes origins)
    (h' : Presentation Shows raw' nodes' origins') :
    Presentation Shows (raw ++ raw') (nodes ++ nodes') (origins ++ origins') where
  sublist := h.sublist.append h'.sublist
  shown := List.rel_append h.shown h'.shown
  counted := by
    intro origin hmem hcount
    rcases List.mem_append.mp hmem with hmem | hmem
    · exact List.mem_append_left _ (h.counted origin hmem hcount)
    · exact List.mem_append_right _ (h'.counted origin hmem hcount)

theorem drop (hshows : ∀ node origin, Shows node origin →
      node.childrenCount = origin.2.childrenCount)
    (h : Presentation Shows raw (node :: nodes) origins) (hcount : node.childrenCount = none) :
    Presentation Shows raw nodes origins.tail := by
  obtain ⟨hsublist, hshown, hcounted⟩ := h
  cases hshown with
  | @cons _ origin _ rest hfirst hrest =>
    refine ⟨(List.sublist_cons_self origin rest).trans hsublist, hrest, fun other hmem hother => ?_⟩
    rcases List.mem_cons.mp (hcounted other hmem hother) with rfl | hmem
    · rw [← hshows node _ hfirst, hcount] at hother
      cases hother
    · exact hmem

end Presentation

theorem toList_head?_of_length_le {nodes : List AccessibilityNode} (h : nodes.length ≤ 1) :
    nodes.head?.toList = nodes := by
  match nodes, h with
  | [], _ => rfl
  | [_], _ => rfl

theorem length_toList_le {α : Type} (option : Option α) : option.toList.length ≤ 1 := by
  cases option
  · exact Nat.zero_le 1
  · exact le_rfl

theorem of_isCollapsible {node : AccessibilityNode} (h : isCollapsible node = true) :
    node.childrenCount = none ∧ node.children.length = 1 := by
  unfold isCollapsible at h
  simp only [Bool.and_eq_true, Option.isNone_iff_eq_none, beq_iff_eq] at h
  exact ⟨h.1.2, h.2⟩

theorem length_transformChildren_le (includeBounds interactiveOnly compact : Bool)
    (children : List AccessibilityNode) :
    (transformChildren includeBounds interactiveOnly compact children).length
      ≤ children.length := by
  induction children with
  | nil => exact le_rfl
  | cons child rest ih =>
    rw [transformChildren, List.length_append, List.length_cons, Nat.add_comm]
    exact Nat.add_le_add ih (length_toList_le _)

section

variable (includeBounds interactiveOnly compact : Bool)

/-- The relation between a transformed node and its origin. -/
def ShowsOrigin (node : AccessibilityNode) (origin : RefPath × AccessibilityNode) : Prop :=
  ShowsNode includeBounds node origin.2

mutual

/-- **A transformed tree presents the tree.** -/
theorem transformTree_presents (path : RefPath) :
    ∀ node, ∃ origins,
      Presentation (ShowsOrigin includeBounds) (preorderAt path node)
        (preorder (transformTree includeBounds interactiveOnly compact node))
        ((path, node) :: origins)
  | ⟨refId, role, identity, presentation, childrenCount, subtreeTruncated, children⟩ => by
    obtain ⟨origins, horigins⟩ := transformChildren_presents path 0 children
    refine ⟨origins, ?_⟩
    rw [preorderAt_eq, preorder_eq, transformTree_eq]
    exact horigins.cons rfl

theorem transformChildren_presents (path : RefPath) (index : ℕ) :
    ∀ children, ∃ origins,
      Presentation (ShowsOrigin includeBounds) (preorderAtBelow path index children)
        (preorderForest (transformChildren includeBounds interactiveOnly compact children))
        origins
  | [] => ⟨[], Presentation.nil⟩
  | child :: rest => by
    obtain ⟨origins, horigins⟩ := transformTree_presents (path ++ [index]) child
    obtain ⟨others, hothers⟩ := transformChildren_presents path (index + 1) rest
    rw [preorderAtBelow, transformChildren, preorderForest_append]
    have hkept : ∃ kept, Presentation (ShowsOrigin includeBounds)
        (preorderAt (path ++ [index]) child)
        (preorderForest (keepTransformed interactiveOnly (compact && isCollapsible child)
          (transformTree includeBounds interactiveOnly compact child)).toList) kept := by
      have hshows : ∀ node origin, ShowsOrigin includeBounds node origin →
          node.childrenCount = origin.2.childrenCount := fun _ _ h => ShowsNode.childrenCount h
      rw [transformTree_eq] at horigins ⊢
      unfold keepTransformed
      split_ifs with hcollapsible hdropped
      · -- the wrapper goes, and its child takes its place
        obtain ⟨hcount, hlength⟩ := of_isCollapsible (Bool.and_eq_true_iff.mp hcollapsible).2
        rw [toList_head?_of_length_le (hlength ▸ length_transformChildren_le _ _ _ _)]
        rw [preorder_eq] at horigins
        exact ⟨_, horigins.drop hshows hcount⟩
      · -- a leaf goes
        simp only [Bool.and_eq_true, Option.isNone_iff_eq_none, List.isEmpty_iff] at hdropped
        rw [preorder_eq, hdropped.1.2] at horigins
        exact ⟨_, horigins.drop hshows hdropped.2⟩
      · exact ⟨_, by rw [Option.toList_some, preorderForest_singleton]; exact horigins⟩
    obtain ⟨kept, hkept⟩ := hkept
    exact ⟨kept ++ others, hkept.append hothers⟩

end

end

end AgentDesktop
