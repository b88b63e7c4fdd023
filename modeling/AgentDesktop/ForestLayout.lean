import AgentDesktop.Projection

/-!
# The layout of a forest

The traversal hands over a forest by recursion, and the array is filled by
recursion too, but what is in it can be said at once: the subtrees of the forest
in document order, each at its own index. A node names its children by where
their subtrees begin, and is complete when everything below it is. A forest is
refused only when a traversal could not have made it – no roots, or children out
of the order of the platform – or when its indices would not fit.
-/

namespace AgentDesktop

/-! ## The subtrees of a forest -/

mutual

/-- The subtrees of a subtree, in document order. -/
def ObservedSubtree.subtrees : ObservedSubtree → List ObservedSubtree
  | ⟨evidence, children, completeness, childrenCount, sourceChildIndex⟩ =>
    ⟨evidence, children, completeness, childrenCount, sourceChildIndex⟩ :: subtreesBelow children

/-- The subtrees of some subtrees, in document order. -/
def subtreesBelow : List ObservedSubtree → List ObservedSubtree
  | [] => []
  | child :: rest => child.subtrees ++ subtreesBelow rest

end

mutual

/-- The subtrees of a subtree, each with its native path. -/
def ObservedSubtree.entries (path : RefPath) :
    ObservedSubtree → List (RefPath × ObservedSubtree)
  | ⟨evidence, children, completeness, childrenCount, sourceChildIndex⟩ =>
    (path, ⟨evidence, children, completeness, childrenCount, sourceChildIndex⟩)
      :: entriesBelow path 0 children

/-- The subtrees of the children from a position on, each with its native path. -/
def entriesBelow (path : RefPath) (order : ℕ) :
    List ObservedSubtree → List (RefPath × ObservedSubtree)
  | [] => []
  | child :: rest =>
    child.entries (path ++ [child.sourceChildIndex.getD order])
      ++ entriesBelow path (order + 1) rest

end

/-- The subtrees of a forest, each with its native path from its root. -/
def forestEntries (roots : List ObservedSubtree) : List (RefPath × ObservedSubtree) :=
  roots.flatMap (ObservedSubtree.entries [])

/-- How many nodes a subtree has. -/
def ObservedSubtree.size (subtree : ObservedSubtree) : ℕ := subtree.subtrees.length

/-- **Whether nothing is missing in a whole subtree.** -/
def ObservedSubtree.wholeComplete (subtree : ObservedSubtree) : Bool :=
  subtree.subtrees.all (fun inner => inner.completeness.subtreeComplete)

/-- The indices the platform gives to the children from a position on. -/
def nativeIndexes (order : ℕ) : List ObservedSubtree → List ℕ
  | [] => []
  | child :: rest => child.sourceChildIndex.getD order :: nativeIndexes (order + 1) rest

/-- **A subtree in native order**: the indices of the children increase everywhere in it. -/
def ObservedSubtree.InNativeOrder (subtree : ObservedSubtree) : Prop :=
  ∀ inner ∈ subtree.subtrees, (nativeIndexes 0 inner.children).Pairwise (· < ·)

theorem subtrees_eq (subtree : ObservedSubtree) :
    subtree.subtrees = subtree :: subtreesBelow subtree.children := by
  cases subtree
  rfl

theorem entries_eq (path : RefPath) (subtree : ObservedSubtree) :
    subtree.entries path = (path, subtree) :: entriesBelow path 0 subtree.children := by
  cases subtree
  rfl

theorem subtreesBelow_eq_flatMap (children : List ObservedSubtree) :
    subtreesBelow children = children.flatMap ObservedSubtree.subtrees := by
  induction children with
  | nil => rfl
  | cons child rest ih => rw [subtreesBelow, List.flatMap_cons, ih]

mutual

theorem map_snd_entries (path : RefPath) : ∀ subtree : ObservedSubtree,
    (subtree.entries path).map Prod.snd = subtree.subtrees
  | ⟨evidence, children, completeness, childrenCount, sourceChildIndex⟩ => by
    rw [ObservedSubtree.entries, ObservedSubtree.subtrees, List.map_cons,
      map_snd_entriesBelow path 0 children]

theorem map_snd_entriesBelow (path : RefPath) (order : ℕ) :
    ∀ children : List ObservedSubtree,
      (entriesBelow path order children).map Prod.snd = subtreesBelow children
  | [] => rfl
  | child :: rest => by
    rw [entriesBelow, subtreesBelow, List.map_append, map_snd_entries _ child,
      map_snd_entriesBelow path (order + 1) rest]

end

@[simp] theorem length_entries (path : RefPath) (subtree : ObservedSubtree) :
    (subtree.entries path).length = subtree.size := by
  rw [← List.length_map (f := Prod.snd), map_snd_entries]
  rfl

@[simp] theorem length_entriesBelow (path : RefPath) (order : ℕ)
    (children : List ObservedSubtree) :
    (entriesBelow path order children).length = (subtreesBelow children).length := by
  rw [← List.length_map (f := Prod.snd), map_snd_entriesBelow]

theorem size_eq (subtree : ObservedSubtree) :
    subtree.size = (subtreesBelow subtree.children).length + 1 := by
  unfold ObservedSubtree.size
  rw [subtrees_eq]
  rfl

theorem length_subtreesBelow_cons (child : ObservedSubtree) (rest : List ObservedSubtree) :
    (subtreesBelow (child :: rest)).length = child.size + (subtreesBelow rest).length := by
  rw [subtreesBelow, List.length_append]
  rfl

theorem wholeComplete_eq (subtree : ObservedSubtree) :
    subtree.wholeComplete = (subtree.completeness.subtreeComplete
      && subtree.children.all ObservedSubtree.wholeComplete) := by
  unfold ObservedSubtree.wholeComplete
  rw [subtrees_eq, List.all_cons, subtreesBelow_eq_flatMap, List.all_flatMap]

/-- **The children are in native order**, after an index and each within itself. -/
def ChildrenInOrder (order : ℕ) (previous : Option ℕ) (children : List ObservedSubtree) : Prop :=
  (∀ p ∈ previous, ∀ n ∈ nativeIndexes order children, p < n)
    ∧ (nativeIndexes order children).Pairwise (· < ·)
    ∧ ∀ child ∈ children, child.InNativeOrder

theorem inNativeOrder_iff (subtree : ObservedSubtree) :
    subtree.InNativeOrder ↔ ChildrenInOrder 0 none subtree.children := by
  unfold ObservedSubtree.InNativeOrder ChildrenInOrder
  rw [subtrees_eq, List.forall_mem_cons, subtreesBelow_eq_flatMap]
  simp only [Option.mem_def, reduceCtorEq, IsEmpty.forall_iff, implies_true, true_and,
    List.mem_flatMap, forall_exists_index, and_imp]
  exact and_congr_right (fun _ => ⟨fun h child hchild inner hinner => h inner child hchild hinner,
    fun h inner child hchild hinner => h child hchild inner hinner⟩)

theorem childrenInOrder_cons (order : ℕ) (previous : Option ℕ) (child : ObservedSubtree)
    (rest : List ObservedSubtree) :
    ChildrenInOrder order previous (child :: rest)
      ↔ (∀ p ∈ previous, p < child.sourceChildIndex.getD order) ∧ child.InNativeOrder
        ∧ ChildrenInOrder (order + 1) (some (child.sourceChildIndex.getD order)) rest := by
  unfold ChildrenInOrder
  rw [nativeIndexes, List.pairwise_cons]
  simp only [List.forall_mem_cons, Option.mem_some_iff, forall_eq']
  constructor
  · rintro ⟨hprevious, ⟨hfirst, hpairs⟩, hchild, hrest⟩
    exact ⟨fun p hp => (hprevious p hp).1, hchild, hfirst, hpairs, hrest⟩
  · rintro ⟨hprevious, hchild, hfirst, hpairs, hrest⟩
    exact ⟨fun p hp => ⟨hprevious p hp, fun n hn => (hprevious p hp).trans (hfirst n hn)⟩,
      ⟨hfirst, hpairs⟩, hchild, hrest⟩

/-! ## The nodes of a forest -/

/-- Where the subtrees of the children begin. -/
def childStarts (start : ℕ) : List ObservedSubtree → List ℕ
  | [] => []
  | child :: rest => start :: childStarts (start + child.size) rest

/-- **The node of a subtree** at an index: what was observed, the place of the node, where the
children's subtrees begin, and whether anything below is missing. -/
def nodeOf (index : ℕ) (entry : RefPath × ObservedSubtree) : ObservedNode where
  evidence := entry.2.evidence
  path := entry.1
  children := childStarts (index + 1) entry.2.children
  documentOrder := index
  completeness := ⟨entry.2.wholeComplete, entry.2.completeness.predecessorsComplete⟩
  childrenCount := entry.2.childrenCount
  refId := none

/-- The nodes of some subtrees, from an index on. -/
def nodesFrom (start : ℕ) (entries : List (RefPath × ObservedSubtree)) : List ObservedNode :=
  entries.mapIdx (fun i => nodeOf (start + i))

@[simp] theorem length_nodesFrom (start : ℕ) (entries : List (RefPath × ObservedSubtree)) :
    (nodesFrom start entries).length = entries.length :=
  List.length_mapIdx

@[simp] theorem nodesFrom_nil (start : ℕ) : nodesFrom start [] = [] := rfl

theorem nodesFrom_cons (start : ℕ) (entry : RefPath × ObservedSubtree)
    (entries : List (RefPath × ObservedSubtree)) :
    nodesFrom start (entry :: entries) = nodeOf start entry :: nodesFrom (start + 1) entries := by
  unfold nodesFrom
  rw [List.mapIdx_cons]
  refine congrArg₂ List.cons rfl ?_
  congr 1
  funext i
  rw [Nat.add_assoc, Nat.add_comm 1]

theorem nodesFrom_append (start : ℕ) (entries entries' : List (RefPath × ObservedSubtree)) :
    nodesFrom start (entries ++ entries')
      = nodesFrom start entries ++ nodesFrom (start + entries.length) entries' := by
  induction entries generalizing start with
  | nil => rfl
  | cons entry entries ih =>
    rw [List.cons_append, nodesFrom_cons, nodesFrom_cons, ih, List.length_cons, List.cons_append,
      Nat.add_right_comm, Nat.add_assoc start]

theorem subtreeCompleteAt_nodesFrom (nodes : List ObservedNode) (path : RefPath)
    (subtree : ObservedSubtree) :
    subtreeCompleteAt (nodes ++ nodesFrom nodes.length (subtree.entries path)) nodes.length
      = subtree.wholeComplete := by
  rw [entries_eq, nodesFrom_cons]
  have hnode : (nodes ++ nodeOf nodes.length (path, subtree)
      :: nodesFrom (nodes.length + 1) (entriesBelow path 0 subtree.children))[nodes.length]?
      = some (nodeOf nodes.length (path, subtree)) := by
    rw [List.getElem?_append_right le_rfl, Nat.sub_self]
    rfl
  exact subtreeCompleteAt_of_getElem? hnode

/-- The node at the end of some nodes learns what `append` tells it. -/
theorem modify_close (nodes tail : List ObservedNode) (node : ObservedNode) (indices : List ℕ)
    (complete : Bool) :
    (nodes ++ [node] ++ tail).modify nodes.length (ObservedNode.close indices complete)
      = nodes ++ node.close indices complete :: tail := by
  rw [List.append_assoc, List.modify_eq_take_drop, List.take_left, List.drop_left]
  rfl

/-! ## What is laid out -/

mutual

/-- **`append` adds the nodes of the subtree**, or refuses what is out of order or does not
fit. -/
theorem append_layout (nodes : List ObservedNode) (path : RefPath) (subtree : ObservedSubtree) :
    match append nodes path subtree with
    | .ok result =>
      result = (nodes.length, nodes ++ nodesFrom nodes.length (subtree.entries path))
        ∧ subtree.InNativeOrder
    | .error _ => subtree.InNativeOrder → u32Max + 1 < nodes.length + subtree.size := by
  rw [inNativeOrder_iff, entries_eq, nodesFrom_cons, size_eq]
  obtain ⟨evidence, children, completeness, childrenCount, sourceChildIndex⟩ := subtree
  rw [append]
  by_cases hlen : u32Max < nodes.length
  · simp only [if_pos hlen]
    intro _
    omega
  · simp only [if_neg hlen]
    have hchildren := appendChildren_layout (nodes ++ [
      { evidence, path, children := [], documentOrder := nodes.length, completeness,
        childrenCount, refId := none }]) path 0 none completeness.subtreeComplete children
    split at hchildren
    next result heq =>
      obtain ⟨rfl, horder⟩ := hchildren
      rw [heq]
      simp only [modify_close, List.length_append, List.length_singleton]
      refine ⟨?_, horder⟩
      refine congrArg (fun node => (nodes.length, nodes ++ node :: _)) ?_
      unfold ObservedNode.close nodeOf
      rw [wholeComplete_eq]
    next error heq =>
      rw [heq]
      intro horder
      have hsize := hchildren horder
      rw [List.length_append, List.length_singleton] at hsize
      omega

theorem appendChildren_layout (nodes : List ObservedNode) (path : RefPath) (order : ℕ)
    (previous : Option ℕ) (complete : Bool) (children : List ObservedSubtree) :
    match appendChildren nodes path order previous complete children with
    | .ok result =>
      result = (childStarts nodes.length children,
          complete && children.all ObservedSubtree.wholeComplete,
          nodes ++ nodesFrom nodes.length (entriesBelow path order children))
        ∧ ChildrenInOrder order previous children
    | .error _ => ChildrenInOrder order previous children →
        u32Max + 1 < nodes.length + (subtreesBelow children).length := by
  cases children with
  | nil =>
    rw [appendChildren]
    refine ⟨?_, nofun, List.Pairwise.nil, nofun⟩
    rw [List.all_nil, Bool.and_true, entriesBelow, nodesFrom_nil, List.append_nil]
    rfl
  | cons child rest =>
    rw [appendChildren, childrenInOrder_cons, length_subtreesBelow_cons]
    by_cases horder : previous.any (fun p => child.sourceChildIndex.getD order ≤ p)
    · -- the child stands no later than the one before it
      simp only [if_pos horder]
      rintro ⟨hprevious, -⟩
      obtain ⟨p, hp, hle⟩ := (Option.any_eq_true _ _).mp horder
      exact absurd (hprevious p hp) (Nat.not_lt.mpr (of_decide_eq_true hle))
    · simp only [if_neg horder]
      have hprevious : ∀ p ∈ previous, p < child.sourceChildIndex.getD order :=
        fun p hp => Nat.lt_of_not_le (fun hle =>
          horder ((Option.any_eq_true _ _).mpr ⟨p, hp, decide_eq_true hle⟩))
      have hchild := append_layout nodes (path ++ [child.sourceChildIndex.getD order]) child
      split at hchild
      next result heq =>
        obtain ⟨rfl, hchildOrder⟩ := hchild
        rw [heq]
        simp only [subtreeCompleteAt_nodesFrom]
        -- the rest is appended behind the block of the child
        have hrest := appendChildren_layout
          (nodes ++ nodesFrom nodes.length
            (child.entries (path ++ [child.sourceChildIndex.getD order])))
          path (order + 1) (some (child.sourceChildIndex.getD order))
          (complete && child.wholeComplete) rest
        rw [List.length_append, length_nodesFrom, length_entries] at hrest
        split at hrest
        next result heqRest =>
          obtain ⟨rfl, hrestOrder⟩ := hrest
          rw [heqRest]
          refine ⟨?_, hprevious, hchildOrder, hrestOrder⟩
          rw [List.all_cons, entriesBelow, nodesFrom_append, length_entries, Bool.and_assoc,
            List.append_assoc]
          rfl
        next error heqRest =>
          rw [heqRest]
          rintro ⟨-, -, hrestOrder⟩
          have hsize := hrest hrestOrder
          omega
      next error heq =>
        rw [heq]
        rintro ⟨-, hchildOrder, -⟩
        have hsize := hchild hchildOrder
        omega

end

theorem forestEntries_cons (root : ObservedSubtree) (rest : List ObservedSubtree) :
    forestEntries (root :: rest) = root.entries [] ++ forestEntries rest := rfl

/-- The loop of `from_roots` adds the nodes of the forest, or refuses it. -/
theorem appendRoots_layout (nodes : List ObservedNode) (roots : List ObservedSubtree) :
    match appendRoots nodes roots with
    | .ok result =>
      result = (childStarts nodes.length roots,
          nodes ++ nodesFrom nodes.length (forestEntries roots))
        ∧ ∀ root ∈ roots, root.InNativeOrder
    | .error _ => (∀ root ∈ roots, root.InNativeOrder) →
        u32Max + 1 < nodes.length + (subtreesBelow roots).length := by
  induction roots generalizing nodes with
  | nil =>
    refine ⟨?_, nofun⟩
    rw [forestEntries, List.flatMap_nil, nodesFrom_nil, List.append_nil]
    rfl
  | cons root rest ih =>
    rw [appendRoots, List.forall_mem_cons, length_subtreesBelow_cons]
    have hroot := append_layout nodes [] root
    split at hroot
    next result heq =>
      obtain ⟨rfl, hrootOrder⟩ := hroot
      rw [heq]
      have hrest := ih (nodes ++ nodesFrom nodes.length (root.entries []))
      rw [List.length_append, length_nodesFrom, length_entries] at hrest
      split at hrest
      next result heqRest =>
        obtain ⟨rfl, hrestOrder⟩ := hrest
        simp only [heqRest]
        refine ⟨?_, hrootOrder, hrestOrder⟩
        rw [forestEntries_cons, nodesFrom_append, length_entries, List.append_assoc]
        rfl
      next error heqRest =>
        simp only [heqRest]
        rintro ⟨-, hrestOrder⟩
        have hsize := hrest hrestOrder
        omega
    next error heq =>
      rw [heq]
      rintro ⟨hrootOrder, -⟩
      have hsize := hroot hrootOrder
      omega

/-! ## Blocks -/

/-- **Each subtree is a block**: behind its entry come those of everything below it. -/
def Blocks (entries : List (RefPath × ObservedSubtree)) : Prop :=
  ∀ i entry, entries[i]? = some entry → entry.2.entries entry.1 <+: entries.drop i

theorem Blocks.nil : Blocks [] := fun _ _ h => by simp at h

theorem Blocks.append {entries entries' : List (RefPath × ObservedSubtree)} (h : Blocks entries)
    (h' : Blocks entries') : Blocks (entries ++ entries') := by
  intro i entry hentry
  rcases Nat.lt_or_ge i entries.length with hlt | hge
  · rw [List.getElem?_append_left hlt] at hentry
    rw [List.drop_append_of_le_length hlt.le]
    exact (h i entry hentry).trans (List.prefix_append _ _)
  · rw [List.getElem?_append_right hge] at hentry
    obtain ⟨k, rfl⟩ := Nat.exists_eq_add_of_le hge
    rw [Nat.add_sub_cancel_left] at hentry
    rw [List.drop_length_add_append]
    exact h' k entry hentry

mutual

theorem blocks_entries (path : RefPath) : ∀ subtree : ObservedSubtree,
    Blocks (subtree.entries path)
  | ⟨evidence, children, completeness, childrenCount, sourceChildIndex⟩ => by
    intro i entry hentry
    rw [ObservedSubtree.entries] at hentry ⊢
    cases i with
    | zero =>
      obtain rfl := Option.some.inj hentry
      exact List.prefix_rfl
    | succ i => exact blocks_entriesBelow path 0 children i entry hentry

theorem blocks_entriesBelow (path : RefPath) (order : ℕ) : ∀ children : List ObservedSubtree,
    Blocks (entriesBelow path order children)
  | [] => Blocks.nil
  | child :: rest => by
    rw [entriesBelow]
    exact (blocks_entries _ child).append (blocks_entriesBelow path (order + 1) rest)

end

theorem blocks_forestEntries (roots : List ObservedSubtree) : Blocks (forestEntries roots) := by
  induction roots with
  | nil => exact Blocks.nil
  | cons root rest ih => exact (blocks_entries [] root).append ih

section

variable {entries : List (RefPath × ObservedSubtree)} {i : ℕ}

theorem getElem?_nodesFrom (i : ℕ) :
    (nodesFrom 0 entries)[i]? = entries[i]?.map (nodeOf i) := by
  unfold nodesFrom
  rw [List.getElem?_mapIdx, Nat.zero_add]

theorem getElem?_of_block {entry : RefPath × ObservedSubtree}
    {block : List (RefPath × ObservedSubtree)} (h : entry :: block <+: entries.drop i) :
    entries[i]? = some entry := by
  obtain ⟨rest, hrest⟩ := h
  rw [← List.head?_drop, ← hrest]
  rfl

theorem block_right (front : List (RefPath × ObservedSubtree))
    {back : List (RefPath × ObservedSubtree)}
    (h : front ++ back <+: entries.drop i) : back <+: entries.drop (i + front.length) := by
  obtain ⟨rest, hrest⟩ := h
  rw [← List.drop_drop, ← hrest, List.append_assoc, List.drop_left]
  exact List.prefix_append _ _

theorem getElem?_nodesFrom_of_block {path : RefPath} {subtree : ObservedSubtree}
    (h : subtree.entries path <+: entries.drop i) :
    (nodesFrom 0 entries)[i]? = some (nodeOf i (path, subtree)) := by
  rw [entries_eq] at h
  rw [getElem?_nodesFrom, getElem?_of_block h]
  rfl

theorem entriesBelow_of_block {path : RefPath} {subtree : ObservedSubtree}
    (h : subtree.entries path <+: entries.drop i) :
    entriesBelow path 0 subtree.children <+: entries.drop (i + 1) := by
  rw [entries_eq] at h
  exact block_right [(path, subtree)] h

mutual

theorem laid_of_block {path : RefPath} : ∀ (subtree : ObservedSubtree) {i : ℕ},
    subtree.entries path <+: entries.drop i →
      Laid (childrenAt (nodesFrom 0 entries)) i [i] (i + subtree.size)
  | ⟨evidence, children, completeness, childrenCount, sourceChildIndex⟩, i, h => by
    refine .cons (j := i + ObservedSubtree.size _) ?_ (.nil _)
    rw [childrenAt_of_getElem? (getElem?_nodesFrom_of_block h), size_eq, ← Nat.add_assoc,
      Nat.add_right_comm i]
    exact laidBelow_of_block children (entriesBelow_of_block h)

theorem laidBelow_of_block {path : RefPath} {order : ℕ} :
    ∀ (children : List ObservedSubtree) {i : ℕ},
      entriesBelow path order children <+: entries.drop i →
        Laid (childrenAt (nodesFrom 0 entries)) i (childStarts i children)
          (i + (subtreesBelow children).length)
  | [], i, _ => .nil i
  | child :: rest, i, h => by
    rw [entriesBelow] at h
    rw [childStarts, length_subtreesBelow_cons, ← Nat.add_assoc]
    have hrest := block_right _ h
    rw [length_entries] at hrest
    exact (laid_of_block child ((List.prefix_append _ _).trans h)).append
      (laidBelow_of_block rest hrest)

end

/-- **What is below a node in the array is its subtree's block.** -/
theorem reaches_iff_of_block {path : RefPath} {subtree : ObservedSubtree}
    (h : subtree.entries path <+: entries.drop i) {n : ℕ} :
    Relation.ReflTransGen (fun p c => c ∈ childrenAt (nodesFrom 0 entries) p) i n
      ↔ i ≤ n ∧ n < i + subtree.size := by
  refine Laid.reaches_iff ?_
  rw [childrenAt_of_getElem? (getElem?_nodesFrom_of_block h), size_eq, ← Nat.add_assoc,
    Nat.add_right_comm i]
  exact laidBelow_of_block subtree.children (entriesBelow_of_block h)

end

end AgentDesktop
