import AgentDesktop.AccessibilityNode

/-!
# Paths of nodes

A node of a tree is found by the indices of the children on the way to it. The
walk that visits the nodes in document order visits them in the lexicographic
order of their paths, so a path tells a node from every other.
-/

namespace AgentDesktop

/-- The node at a path. -/
def nodeAt (node : AccessibilityNode) : RefPath → Option AccessibilityNode
  | [] => some node
  | index :: rest => (node.children[index]?).bind (fun child => nodeAt child rest)

@[simp] theorem nodeAt_nil (node : AccessibilityNode) : nodeAt node [] = some node := rfl

theorem nodeAt_cons (node : AccessibilityNode) (index : ℕ) (rest : RefPath) :
    nodeAt node (index :: rest)
      = (node.children[index]?).bind (fun child => nodeAt child rest) := rfl

theorem nodeAt_append (node : AccessibilityNode) (path rest : RefPath) :
    nodeAt node (path ++ rest) = (nodeAt node path).bind (fun inner => nodeAt inner rest) := by
  induction path generalizing node with
  | nil => rfl
  | cons index path ih =>
    rw [List.cons_append, nodeAt_cons, nodeAt_cons, Option.bind_assoc]
    exact congrArg _ (funext ih)

mutual

/-- The nodes of a tree in document order, each with its path. -/
def preorderAt (path : RefPath) : AccessibilityNode → List (RefPath × AccessibilityNode)
  | ⟨refId, role, identity, presentation, childrenCount, subtreeTruncated, children⟩ =>
    (path, ⟨refId, role, identity, presentation, childrenCount, subtreeTruncated, children⟩)
      :: preorderAtBelow path 0 children

/-- The nodes of the children from an index on, each with its path. -/
def preorderAtBelow (path : RefPath) (index : ℕ) :
    List AccessibilityNode → List (RefPath × AccessibilityNode)
  | [] => []
  | child :: rest => preorderAt (path ++ [index]) child ++ preorderAtBelow path (index + 1) rest

end

theorem preorderAt_eq (path : RefPath) (node : AccessibilityNode) :
    preorderAt path node = (path, node) :: preorderAtBelow path 0 node.children := by
  cases node
  rfl

mutual

theorem map_snd_preorderAt (path : RefPath) :
    ∀ node, (preorderAt path node).map Prod.snd = preorder node
  | ⟨refId, role, identity, presentation, childrenCount, subtreeTruncated, children⟩ => by
    rw [preorderAt_eq, preorder_eq, List.map_cons, map_snd_preorderAtBelow]

theorem map_snd_preorderAtBelow (path : RefPath) (index : ℕ) :
    ∀ children, (preorderAtBelow path index children).map Prod.snd = preorderForest children
  | [] => rfl
  | child :: rest => by
    rw [preorderAtBelow, preorderForest, List.map_append, map_snd_preorderAt,
      map_snd_preorderAtBelow]

end

mutual

/-- **What the walk visits**: every node, at its path. -/
theorem mem_preorderAt {p path : RefPath} {found : AccessibilityNode} :
    ∀ node, (p, found) ∈ preorderAt path node
      ↔ ∃ rest, p = path ++ rest ∧ nodeAt node rest = some found
  | ⟨refId, role, identity, presentation, childrenCount, subtreeTruncated, children⟩ => by
    rw [preorderAt_eq, List.mem_cons, mem_preorderAtBelow]
    constructor
    · rintro (heq | ⟨k, child, rest, hchild, rfl, hfound⟩)
      · obtain ⟨rfl, rfl⟩ := Prod.mk.inj heq
        exact ⟨[], (List.append_nil _).symm, rfl⟩
      · refine ⟨k :: rest, by simp, ?_⟩
        rw [nodeAt_cons, hchild]
        exact hfound
    · rintro ⟨rest, rfl, hfound⟩
      cases rest with
      | nil =>
        rw [nodeAt_nil] at hfound
        rw [List.append_nil, Option.some.inj hfound]
        exact Or.inl rfl
      | cons k rest =>
        obtain ⟨child, hchild, hfound⟩ := Option.bind_eq_some_iff.mp hfound
        exact Or.inr ⟨k, child, rest, hchild, by simp, hfound⟩

theorem mem_preorderAtBelow {p path : RefPath} {found : AccessibilityNode} {index : ℕ} :
    ∀ children, (p, found) ∈ preorderAtBelow path index children
      ↔ ∃ k child rest, children[k]? = some child ∧ p = path ++ (index + k) :: rest
        ∧ nodeAt child rest = some found
  | [] => by simp [preorderAtBelow]
  | child :: others => by
    rw [preorderAtBelow, List.mem_append, mem_preorderAt child, mem_preorderAtBelow others]
    constructor
    · rintro (⟨rest, rfl, hfound⟩ | ⟨k, other, rest, hother, rfl, hfound⟩)
      · exact ⟨0, child, rest, rfl, by simp, hfound⟩
      · exact ⟨k + 1, other, rest, hother, by rw [Nat.add_right_comm, Nat.add_assoc], hfound⟩
    · rintro ⟨k, other, rest, hother, rfl, hfound⟩
      cases k with
      | zero =>
        obtain rfl := Option.some.inj hother
        exact Or.inl ⟨rest, by simp, hfound⟩
      | succ k =>
        exact Or.inr ⟨k, other, rest, hother, by rw [Nat.add_right_comm, Nat.add_assoc], hfound⟩

end

theorem path_lt_of_index_lt {path rest rest' : RefPath} {i j : ℕ} (h : i < j) :
    path ++ i :: rest < path ++ j :: rest' :=
  List.append_left_lt (List.cons_lt_cons_iff.mpr (Or.inl h))

mutual

/-- **The nodes are visited in the order of their paths.** -/
theorem pairwise_preorderAt (path : RefPath) :
    ∀ node, (preorderAt path node).Pairwise (fun a b => a.1 < b.1)
  | ⟨refId, role, identity, presentation, childrenCount, subtreeTruncated, children⟩ => by
    rw [preorderAt_eq, List.pairwise_cons]
    refine ⟨fun ⟨p, found⟩ hmem => ?_, pairwise_preorderAtBelow path 0 children⟩
    obtain ⟨k, child, rest, -, rfl, -⟩ := (mem_preorderAtBelow children).mp hmem
    show path < path ++ (0 + k) :: rest
    conv_lhs => rw [← List.append_nil path]
    exact List.append_left_lt (List.nil_lt_cons _ _)

theorem pairwise_preorderAtBelow (path : RefPath) (index : ℕ) :
    ∀ children, (preorderAtBelow path index children).Pairwise (fun a b => a.1 < b.1)
  | [] => List.Pairwise.nil
  | child :: others => by
    rw [preorderAtBelow, List.pairwise_append]
    refine ⟨pairwise_preorderAt _ child, pairwise_preorderAtBelow path (index + 1) others, ?_⟩
    rintro ⟨p, first⟩ hfirst ⟨q, later⟩ hlater
    obtain ⟨rest, rfl, -⟩ := (mem_preorderAt child).mp hfirst
    obtain ⟨k, other, rest', -, rfl, -⟩ := (mem_preorderAtBelow others).mp hlater
    rw [List.append_assoc]
    exact path_lt_of_index_lt (by omega)

end

mutual

/-- **The walk from a longer path** visits the same nodes, further down. -/
theorem preorderAt_append (front path : RefPath) :
    ∀ node, preorderAt (front ++ path) node
      = (preorderAt path node).map (fun origin => (front ++ origin.1, origin.2))
  | ⟨refId, role, identity, presentation, childrenCount, subtreeTruncated, children⟩ => by
    rw [preorderAt_eq, preorderAt_eq, List.map_cons, preorderAtBelow_append]

theorem preorderAtBelow_append (front path : RefPath) (index : ℕ) :
    ∀ children, preorderAtBelow (front ++ path) index children
      = (preorderAtBelow path index children).map (fun origin => (front ++ origin.1, origin.2))
  | [] => rfl
  | child :: rest => by
    rw [preorderAtBelow, preorderAtBelow, List.map_append, List.append_assoc,
      preorderAt_append, preorderAtBelow_append]

end

theorem preorderAt_path_injective {path p : RefPath} {node found found' : AccessibilityNode}
    (h : (p, found) ∈ preorderAt path node) (h' : (p, found') ∈ preorderAt path node) :
    found = found' := by
  obtain ⟨rest, rfl, hfound⟩ := (mem_preorderAt node).mp h
  obtain ⟨rest', heq, hfound'⟩ := (mem_preorderAt node).mp h'
  rw [← List.append_cancel_left heq, hfound] at hfound'
  exact Option.some.inj hfound'

end AgentDesktop
