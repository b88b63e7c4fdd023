import AgentDesktop.ObservedTree
import AgentDesktop.Util.Except

/-!
# Accessibility nodes and the reference matcher

The tree a snapshot hands out is the projection of an observed tree: what is
known of each node, without the marks of what is not. On such a tree a query is
answered in two values by a plain recursion over the node and the query.
-/

namespace AgentDesktop

/-- `NodeIdentity`. -/
structure NodeIdentity where
  /-- The token of a retained native object. -/
  retainedObject : Option String
  name : Option String
  value : Option String
  description : Option String
  /-- The native identifier. -/
  nativeId : Option ElementIdentifier

/-- `NodePresentation`. -/
structure NodePresentation where
  /-- A hint on the use of the element. -/
  hint : Option String
  states : List String
  /-- The actions the element offers. -/
  availableActions : List String
  bounds : Option Rect

/-- `AccessibilityNode`. -/
structure AccessibilityNode where
  /-- The ref, if the node was given one. -/
  refId : Option String
  role : String
  identity : NodeIdentity
  presentation : NodePresentation
  /-- The number of children, where the traversal only counted them. -/
  childrenCount : Option ℕ
  /-- Whether something below the node is missing. -/
  subtreeTruncated : Bool
  children : List AccessibilityNode

/-! ## Projection -/

/-- The node `project` builds from an observed node and its projected children. -/
def projectNode (node : ObservedNode) (children : List AccessibilityNode) :
    AccessibilityNode where
  refId := node.refId
  role := node.evidence.role.known?.getD "unknown"
  identity :=
    { retainedObject := node.evidence.identifiers.retainedObject
      name := node.evidence.name.meaningfulString
      value := node.evidence.value.meaningfulString
      description := node.evidence.description.meaningfulString
      nativeId := node.evidence.identifiers.preferredIdentifier }
  presentation :=
    { hint := none
      states := node.evidence.states.known?.getD []
      availableActions := node.evidence.refEvidence.availableActions.known?.getD []
      bounds := node.evidence.refEvidence.bounds.known? }
  childrenCount := node.childrenCount
  subtreeTruncated := !node.completeness.subtreeComplete
  children

/-- `project`. The source takes the evidence out of the nodes; every node has one
parent, so each is projected once and reading it is enough. Children stand
after their parent, so the number of nodes bounds the recursion. -/
def project (nodes : List ObservedNode) : ℕ → ℕ → Except AdapterError AccessibilityNode
  | 0, _ => .error (.internal "observed child index is out of bounds")
  | fuel + 1, index =>
    match nodes[index]? with
    | none => .error (.internal "observed child index is out of bounds")
    | some node => (node.children.mapM (project nodes fuel)).map (projectNode node)

/-- The projection of the tree below a node. -/
def ObservedTree.project (tree : ObservedTree) (index : ℕ) :
    Except AdapterError AccessibilityNode :=
  AgentDesktop.project tree.nodes tree.nodes.length index

theorem project_succ_eq_ok_iff {nodes : List ObservedNode} {fuel n : ℕ}
    {projected : AccessibilityNode} :
    project nodes (fuel + 1) n = .ok projected
      ↔ ∃ node children, nodes[n]? = some node
        ∧ List.Forall₂ (fun child p => project nodes fuel child = .ok p) node.children children
        ∧ projected = projectNode node children := by
  rw [project]
  cases hnode : nodes[n]? with
  | none => simp
  | some node =>
    simp only [Except.map_eq_ok_iff, Except.mapM_eq_ok_iff, Option.some.injEq]
    constructor
    · rintro ⟨children, hchildren, rfl⟩
      exact ⟨node, children, rfl, hchildren, rfl⟩
    · rintro ⟨_, children, rfl, hchildren, rfl⟩
      exact ⟨children, hchildren, rfl⟩

/-! ## Walking a tree of nodes -/

mutual

/-- Whether a node or one below it passes a test. -/
def nodeOrBelow (test : AccessibilityNode → Bool) : AccessibilityNode → Bool
  | ⟨refId, role, identity, presentation, childrenCount, subtreeTruncated, children⟩ =>
    test ⟨refId, role, identity, presentation, childrenCount, subtreeTruncated, children⟩
      || someBelow test children

/-- Whether a node of some trees passes a test. -/
def someBelow (test : AccessibilityNode → Bool) : List AccessibilityNode → Bool
  | [] => false
  | child :: rest => nodeOrBelow test child || someBelow test rest

end

mutual

/-- The nodes of a tree in document order. -/
def preorder : AccessibilityNode → List AccessibilityNode
  | ⟨refId, role, identity, presentation, childrenCount, subtreeTruncated, children⟩ =>
    ⟨refId, role, identity, presentation, childrenCount, subtreeTruncated, children⟩
      :: preorderForest children

/-- The nodes of some trees in document order. -/
def preorderForest : List AccessibilityNode → List AccessibilityNode
  | [] => []
  | child :: rest => preorder child ++ preorderForest rest

end

theorem nodeOrBelow_eq (test : AccessibilityNode → Bool) (node : AccessibilityNode) :
    nodeOrBelow test node = (test node || someBelow test node.children) := by
  cases node
  rfl

theorem preorder_eq (node : AccessibilityNode) :
    preorder node = node :: preorderForest node.children := by
  cases node
  rfl

theorem preorderForest_append (nodes others : List AccessibilityNode) :
    preorderForest (nodes ++ others) = preorderForest nodes ++ preorderForest others := by
  induction nodes with
  | nil => rfl
  | cons node rest ih => rw [List.cons_append, preorderForest, preorderForest, ih,
      List.append_assoc]

theorem preorderForest_singleton (node : AccessibilityNode) :
    preorderForest [node] = preorder node := by
  rw [preorderForest, preorderForest, List.append_nil]

/-! ## The reference matcher -/

variable [UnicodeLowercase]

/-- `role_matches`. -/
def roleMatches (expected : Option String) (role : String) : Bool :=
  match expected with
  | none => true
  | some expected => Roles.normalizeRoleQuery expected == role

/-- `text_field_matches`. -/
def textFieldMatches (expected actual : Option String) (exact : Bool) : Bool :=
  match expected, actual with
  | none, _ => true
  | some _, none => false
  | some expected, some actual => textMatches actual expected exact

/-- `native_id_matches`. -/
def nativeIdMatches (expected actual : Option String) : Bool :=
  match expected with
  | none => true
  | some expected => actual == some expected

/-- The texts of one node that `has_text_matches` looks at. -/
def ownTextMatches (expected : String) (exact : Bool) (node : AccessibilityNode) : Bool :=
  ([node.identity.name, node.identity.description, node.identity.value].filterMap id).any
    (fun text => textMatches text expected exact)

/-- `has_text_matches`. -/
def hasTextMatches (expected : Option String) (node : AccessibilityNode) (exact : Bool) :
    Bool :=
  match expected with
  | none => true
  | some expected => nodeOrBelow (ownTextMatches expected exact) node

/-- `state_predicates_match`. -/
def statePredicatesMatch (predicates : List StatePredicate) (states : List String) : Bool :=
  predicates.all (fun predicate =>
    predicate.expected.getD true == State.hasState states predicate.token)

mutual

/-- `node_matches`. -/
def nodeMatches : LocatorQuery → AccessibilityNode → Bool
  | ⟨identity, hasText, exact, states, has, hasNot⟩, node =>
    if !roleMatches identity.role node.role then false
    else if !textFieldMatches identity.name node.identity.name exact then false
    else if !textFieldMatches identity.description node.identity.description exact then false
    else if !nativeIdMatches identity.nativeId
        (node.identity.nativeId.map ElementIdentifier.value) then false
    else if !textFieldMatches identity.value node.identity.value exact then false
    else if !hasTextMatches hasText node exact then false
    else if !statePredicatesMatch states node.presentation.states then false
    else if nestedContained has node.children == some false then false
    else if nestedContained hasNot node.children == some true then false
    else true

/-- `subtree_contains` for a nested query, if there is one. -/
def nestedContained : Option LocatorQuery → List AccessibilityNode → Option Bool
  | none, _ => none
  | some nested, children => some (someBelow (nodeMatches nested) children)

end

/-- The predicates of a query on the node itself. -/
def ownMatches (query : LocatorQuery) (node : AccessibilityNode) : Bool :=
  roleMatches query.identity.role node.role
    && nativeIdMatches query.identity.nativeId
      (node.identity.nativeId.map ElementIdentifier.value)
    && statePredicatesMatch query.states node.presentation.states
    && textFieldMatches query.identity.name node.identity.name query.exact
    && textFieldMatches query.identity.description node.identity.description query.exact
    && textFieldMatches query.identity.value node.identity.value query.exact

/-- What `has` asks of the nodes below. -/
def hasMatches (nested : Option LocatorQuery) (children : List AccessibilityNode) : Bool :=
  match nested with
  | none => true
  | some nested => someBelow (nodeMatches nested) children

/-- What `has_not` asks of the nodes below. -/
def hasNotMatches (nested : Option LocatorQuery) (children : List AccessibilityNode) : Bool :=
  match nested with
  | none => true
  | some nested => !someBelow (nodeMatches nested) children

/-- **A node matches when its own predicates hold, its text does, `has` is found
below it and `has_not` is not.** -/
theorem nodeMatches_eq (query : LocatorQuery) (node : AccessibilityNode) :
    nodeMatches query node
      = (ownMatches query node && hasTextMatches query.hasText node query.exact
        && hasMatches query.has node.children && hasNotMatches query.hasNot node.children) := by
  obtain ⟨identity, hasText, exact, states, has, hasNot⟩ := query
  have hhas : (nestedContained has node.children == some false)
      = !hasMatches has node.children := by
    cases has with
    | none => rfl
    | some nested =>
      simp only [nestedContained, hasMatches]
      cases someBelow (nodeMatches nested) node.children <;> rfl
  have hhasNot : (nestedContained hasNot node.children == some true)
      = !hasNotMatches hasNot node.children := by
    cases hasNot with
    | none => rfl
    | some nested =>
      simp only [nestedContained, hasNotMatches]
      cases someBelow (nodeMatches nested) node.children <;> rfl
  -- an early exit is a conjunction, and only the order of the conjuncts differs
  have hexit : ∀ a b : Bool, (if !a then false else b) = (a && b) := by decide
  rw [nodeMatches]
  simp only [hhas, hhasNot, hexit, Bool.and_true, ownMatches]
  ac_rfl

end AgentDesktop
