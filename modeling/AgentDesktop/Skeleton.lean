import AgentDesktop.NodePath
import AgentDesktop.RefAlloc

/-!
# The anchors of a skeleton

Where a traversal stopped, the node only counts its children. The plan looks
for the nearest node above such an open end that can be given a ref: one that
can be acted on, or else one that can be found again. `isAnchor` says which
nodes the plan chooses, by what lies below them and without their path.
-/

namespace AgentDesktop

section

variable [BoundsHasher]

/-- Whether a node is given a ref for its own actions, in a role that can carry one. -/
def coversItself (node : AccessibilityNode) : Bool := canReceiveObservedRef node && isRefAble node

mutual

/-- Whether an open end in the tree below a node, itself included, is covered by no ref of
the tree, were the node not the root. -/
def leftOpen : AccessibilityNode → Bool
  | ⟨refId, role, identity, presentation, childrenCount, subtreeTruncated, children⟩ =>
    let node : AccessibilityNode :=
      ⟨refId, role, identity, presentation, childrenCount, subtreeTruncated, children⟩
    (childrenCount.isSome || someLeftOpen children)
      && !coversItself node && !isResolvableSkeletonAnchor node

/-- Whether some of the children leave an open end. -/
def someLeftOpen : List AccessibilityNode → Bool
  | [] => false
  | child :: rest => leftOpen child || someLeftOpen rest

end

/-- Whether an open end reaches a node from below, or is the node itself. -/
def boundaryBelow (node : AccessibilityNode) : Bool :=
  node.childrenCount.isSome || someLeftOpen node.children

/-- Whether the plan makes a node an anchor, were it not the root. -/
def isAnchor (node : AccessibilityNode) : Bool :=
  boundaryBelow node && !coversItself node && isResolvableSkeletonAnchor node

theorem leftOpen_eq (node : AccessibilityNode) :
    leftOpen node
      = (boundaryBelow node && !coversItself node && !isResolvableSkeletonAnchor node) := by
  cases node
  rfl

theorem planSkeletonAnchors_eq (path : RefPath) (node : AccessibilityNode) :
    planSkeletonAnchors path node
      = (let below := planSkeletonAnchorsBelow path 0 node.children
        if !(node.childrenCount.isSome || below.1) then (false, below.2)
        else if coversItself node then (false, below.2)
        else if !path.isEmpty && isResolvableSkeletonAnchor node then
          (false, below.2 ++ [path])
        else (true, below.2)) := by
  cases node
  rfl

mutual

theorem fst_planSkeletonAnchors {path : RefPath} (hpath : path ≠ []) :
    ∀ node, (planSkeletonAnchors path node).1 = leftOpen node
  | ⟨refId, role, identity, presentation, childrenCount, subtreeTruncated, children⟩ => by
    rw [planSkeletonAnchors_eq, leftOpen_eq, boundaryBelow]
    dsimp only
    rw [fst_planSkeletonAnchorsBelow path 0 children]
    have hnonempty : path.isEmpty = false := by simpa using hpath
    rw [hnonempty]
    generalize (childrenCount.isSome || someLeftOpen children) = opened
    split_ifs with hclosed hcovers hanchor
    · simp_all
    · simp_all
    · simp_all
    · simp_all

theorem fst_planSkeletonAnchorsBelow (path : RefPath) (index : ℕ) :
    ∀ children, (planSkeletonAnchorsBelow path index children).1 = someLeftOpen children
  | [] => rfl
  | child :: rest => by
    rw [planSkeletonAnchorsBelow, someLeftOpen]
    dsimp only
    rw [fst_planSkeletonAnchors (by simp) child, fst_planSkeletonAnchorsBelow path (index + 1) rest]

end

theorem mem_snd_planSkeletonAnchors_eq {q path : RefPath} (node : AccessibilityNode) :
    q ∈ (planSkeletonAnchors path node).2
      ↔ (q = path ∧ path ≠ [] ∧ isAnchor node = true)
        ∨ q ∈ (planSkeletonAnchorsBelow path 0 node.children).2 := by
  rw [planSkeletonAnchors_eq, isAnchor, boundaryBelow]
  dsimp only
  rw [fst_planSkeletonAnchorsBelow]
  generalize (node.childrenCount.isSome || someLeftOpen node.children) = opened
  split_ifs with hclosed hcovers hanchor
  · simp_all
  · simp_all
  · rw [List.mem_append, List.mem_singleton]
    simp_all [or_comm]
  · simp_all

mutual

/-- **What the plan chooses**: the paths of the anchors, the root left out. -/
theorem mem_snd_planSkeletonAnchors {q path : RefPath} :
    ∀ node, q ∈ (planSkeletonAnchors path node).2
      ↔ ∃ found, (q, found) ∈ preorderAt path node ∧ q ≠ [] ∧ isAnchor found = true
  | ⟨refId, role, identity, presentation, childrenCount, subtreeTruncated, children⟩ => by
    rw [mem_snd_planSkeletonAnchors_eq, mem_snd_planSkeletonAnchorsBelow children]
    constructor
    · rintro (⟨rfl, hpath, hanchor⟩ | ⟨found, hmem, hpath, hanchor⟩)
      · exact ⟨_, by rw [preorderAt_eq]; exact List.mem_cons_self, hpath, hanchor⟩
      · exact ⟨found, by rw [preorderAt_eq]; exact List.mem_cons_of_mem _ hmem, hpath, hanchor⟩
    · rintro ⟨found, hmem, hpath, hanchor⟩
      rw [preorderAt_eq] at hmem
      rcases List.mem_cons.mp hmem with heq | hmem
      · obtain ⟨rfl, rfl⟩ := Prod.mk.inj heq
        exact Or.inl ⟨rfl, hpath, hanchor⟩
      · exact Or.inr ⟨found, hmem, hpath, hanchor⟩

theorem mem_snd_planSkeletonAnchorsBelow {q path : RefPath} {index : ℕ} :
    ∀ children, q ∈ (planSkeletonAnchorsBelow path index children).2
      ↔ ∃ found, (q, found) ∈ preorderAtBelow path index children ∧ q ≠ []
        ∧ isAnchor found = true
  | [] => by simp [planSkeletonAnchorsBelow, preorderAtBelow]
  | child :: rest => by
    rw [planSkeletonAnchorsBelow, preorderAtBelow]
    dsimp only
    rw [List.mem_append, mem_snd_planSkeletonAnchors child, mem_snd_planSkeletonAnchorsBelow rest]
    simp only [List.mem_append, or_and_right, exists_or]

end

/-- **Whether a walk offers a node a ref as an anchor**, by the node and its path. -/
def offeredAsAnchor (config : RefAllocConfig) (path : RefPath) (node : AccessibilityNode) :
    Bool :=
  config.scope.rootRefId.isNone && !path.isEmpty && isAnchor node

/-- **A walk that is not rooted at a ref starts at the surface.** -/
def RefAllocConfig.Rooted (config : RefAllocConfig) : Prop :=
  config.scope.rootRefId = none → config.scope.pathPrefix = []

/-- The anchors a walk is given. -/
def plannedAnchors (config : RefAllocConfig) (tree : AccessibilityNode) : List RefPath :=
  if config.scope.rootRefId.isNone then (planSkeletonAnchors [] tree).2 else []

/-- **The plan is read off the nodes**: on the way through its own tree, a walk finds a path
among the anchors exactly when the node there is one. -/
theorem contains_plannedAnchors {config : RefAllocConfig} (hrooted : config.Rooted)
    {tree found : AccessibilityNode} {path : RefPath}
    (hmem : (path, found) ∈ preorderAt config.scope.pathPrefix tree) :
    (plannedAnchors config tree).contains path = offeredAsAnchor config path found := by
  unfold plannedAnchors offeredAsAnchor
  cases hroot : config.scope.rootRefId with
  | some root => rfl
  | none =>
    rw [hrooted hroot] at hmem
    rw [Bool.eq_iff_iff, if_pos Option.isNone_none, List.contains_iff_mem,
      mem_snd_planSkeletonAnchors]
    simp only [Option.isNone_none, Bool.true_and, Bool.and_eq_true, Bool.not_eq_true']
    constructor
    · rintro ⟨found', hmem', hpath, hanchor⟩
      rw [preorderAt_path_injective hmem hmem']
      exact ⟨by simpa using hpath, hanchor⟩
    · rintro ⟨hpath, hanchor⟩
      exact ⟨found, hmem, by simpa using hpath, hanchor⟩

omit [BoundsHasher] in
theorem isRefAble_of_isCollapsible {node : AccessibilityNode} (h : isCollapsible node = true) :
    isRefAble node = false := by
  unfold isCollapsible at h
  simp only [Bool.and_eq_true] at h
  have hrole : (Role.fromToken node.role).isTransparentWrapper = true := by
    simp only [h]
  have hactions : node.presentation.availableActions = [] := by
    simpa using h.1.1.1.2
  have hinteractive : node.role ∉ Roles.interactiveRoles := by
    intro hmem
    have hall : ∀ role ∈ Roles.interactiveRoles,
        (Role.fromToken role).isTransparentWrapper = false := by decide +kernel
    rw [hall _ hmem] at hrole
    cases hrole
  simp [isRefAble, isRefAbleRoleActions, hinteractive, hactions, advertisesPrimaryAction]

theorem isResolvable_of_isCollapsible {node : AccessibilityNode} (h : isCollapsible node = true) :
    isResolvableSkeletonAnchor node = false := by
  unfold isCollapsible at h
  simp only [Bool.and_eq_true, Bool.not_eq_true', Option.isNone_iff_eq_none] at h
  obtain ⟨⟨⟨⟨⟨⟨⟨⟨⟨⟨-, hname⟩, -⟩, hdescription⟩, hnative⟩, -⟩, -⟩, -⟩, hbounds⟩, -⟩, -⟩ := h
  unfold isResolvableSkeletonAnchor
  rw [hname, hdescription, hnative, hbounds]
  simp

mutual

theorem exists_count_of_leftOpen :
    ∀ node, leftOpen node = true → ∃ found ∈ preorder node, found.childrenCount.isSome = true
  | ⟨refId, role, identity, presentation, childrenCount, subtreeTruncated, children⟩, h => by
    rw [leftOpen_eq, Bool.and_eq_true, Bool.and_eq_true, boundaryBelow, Bool.or_eq_true] at h
    rw [preorder_eq]
    rcases h.1.1 with hcount | hbelow
    · exact ⟨_, List.mem_cons_self, hcount⟩
    · obtain ⟨found, hmem, hcount⟩ := exists_count_of_someLeftOpen children hbelow
      exact ⟨found, List.mem_cons_of_mem _ hmem, hcount⟩

theorem exists_count_of_someLeftOpen :
    ∀ children, someLeftOpen children = true →
      ∃ found ∈ preorderForest children, found.childrenCount.isSome = true
  | child :: rest, h => by
    rw [someLeftOpen, Bool.or_eq_true] at h
    rw [preorderForest]
    rcases h with hchild | hrest
    · obtain ⟨found, hmem, hcount⟩ := exists_count_of_leftOpen child hchild
      exact ⟨found, List.mem_append_left _ hmem, hcount⟩
    · obtain ⟨found, hmem, hcount⟩ := exists_count_of_someLeftOpen rest hrest
      exact ⟨found, List.mem_append_right _ hmem, hcount⟩

end

end

end AgentDesktop
