import AgentDesktop.Evaluate
import AgentDesktop.Materialize

/-!
# Selecting matches

What a request keeps of the matches, what is reported of a match, and when the
first match is certain to be first: when nothing that is missing, and no node
whose verdict is unknown, could stand before it.
-/

namespace AgentDesktop

/-- `LocatorSelection`. -/
inductive LocatorSelection
  /-- At most ten, to report an ambiguity. -/
  | strict
  /-- All, up to a limit; no limit and a limit of zero are the same. -/
  | all (limit : Option ℕ)
  /-- None, only their number matters. -/
  | count
  | first
  | last
  /-- The one with this number. -/
  | nth (index : ℕ)
  deriving DecidableEq

/-- `take`: a prefix, and whether it leaves anything out. -/
def takeMatches (indices : List ℕ) (limit : ℕ) : List ℕ × Bool :=
  (indices.take limit, decide (limit < indices.length))

/-- `selected_indices`. -/
def selectedIndices (indices : List ℕ) : LocatorSelection → List ℕ × Bool
  | .strict => takeMatches indices 10
  | .all none => (indices, false)
  | .all (some 0) => (indices, false)
  | .all (some limit) => takeMatches indices limit
  | .count => ([], false)
  | .first => takeMatches indices 1
  | .last => (indices.getLast?.toList, decide (1 < indices.length))
  | .nth index => (indices[index]?.toList, decide (1 < indices.length))

/-- The parents of the children of one node. -/
def setParents (parents : List (Option ℕ)) (item : ObservedNode × ℕ) : List (Option ℕ) :=
  item.1.children.foldl (fun parents child => parents.set child (some item.2)) parents

/-- The parents of all nodes; a root has none. -/
def parentsOf (nodes : List ObservedNode) : List (Option ℕ) :=
  nodes.zipIdx.foldl setParents (List.replicate nodes.length none)

/-- A node and its ancestors, the root last. A parent stands before its child, so
the number of nodes bounds the walk. -/
def ancestorsFrom (parents : List (Option ℕ)) : ℕ → Option ℕ → List ℕ
  | 0, _ => []
  | _, none => []
  | fuel + 1, some index => index :: ancestorsFrom parents fuel (parents[index]?.join)

/-! ## Reporting a match -/

/-- `LocatorMatchData`. -/
structure LocatorMatchData where
  /-- The ref, if the node was given one. -/
  refId : Option String
  role : String
  name : String
  value : Option String
  states : List String
  /-- Whether the node can be acted on. -/
  interactive : Bool
  /-- The labels of the ancestors, the root first. -/
  path : List String
  deriving DecidableEq

/-- `node_label`. -/
def nodeLabel (node : ObservedNode) : String :=
  let role := node.evidence.role.known?.getD "unknown"
  match node.evidence.name.meaningfulString.or node.evidence.value.meaningfulString with
  | some label => role ++ ":" ++ label
  | none => role

/-- `match_data`. -/
def matchData (nodes : List ObservedNode) (index : ℕ) (parents : List (Option ℕ)) :
    Option LocatorMatchData :=
  nodes[index]?.map (fun node =>
    { refId := node.refId
      role := node.evidence.role.known?.getD "unknown"
      name := node.evidence.name.meaningfulString.getD ""
      value := node.evidence.value.meaningfulString
      states := node.evidence.states.known?.getD []
      interactive := (addressability node.evidence).1
      path := ((ancestorsFrom parents nodes.length (parents[index]?.join)).reverse.filterMap
        (fun ancestor => nodes[ancestor]?)).map nodeLabel })

/-! ## When the first match is certain to be first -/

/-- `subtree_is_authoritative`: nothing is missing in the subtree or before a node
of it, and no verdict in it is unknown. Children stand after their parent, so
the number of nodes bounds the recursion. -/
def subtreeIsAuthoritative (nodes : List ObservedNode) (verdicts : List MatchVerdict) :
    ℕ → ℕ → Bool
  | 0, _ => false
  | fuel + 1, root =>
    match nodes[root]? with
    | none => false
    | some node =>
      if !node.completeness.subtreeComplete || !node.completeness.predecessorsComplete
          || verdicts[root]? == some .unknown then false
      else node.children.all (subtreeIsAuthoritative nodes verdicts fuel)

/-- One step of the walk down the chain: the ancestor's own verdict is settled, no
earlier sibling of the child is missing, and the earlier siblings' subtrees
are authoritative. -/
def pairIsAuthoritative (nodes : List ObservedNode) (verdicts : List MatchVerdict)
    (pair : ℕ × ℕ) : Bool :=
  if verdicts[pair.1]? == some .unknown then false
  else
    match nodes[pair.1]? with
    | none => false
    | some node =>
      if !(nodes[pair.2]?.any (fun child => child.completeness.predecessorsComplete)) then
        false
      else
        match node.children.idxOf? pair.2 with
        | none => false
        | some order => (node.children.take order).all
            (subtreeIsAuthoritative nodes verdicts nodes.length)

/-- `first_is_authoritative`. -/
def firstIsAuthoritative (tree : ObservedTree) (target : ℕ) (parents : List (Option ℕ))
    (verdicts : List MatchVerdict) : Bool :=
  let chain := (ancestorsFrom parents tree.nodes.length (some target)).reverse
  match chain.head? with
  | none => false
  | some root =>
    if !(tree.nodes[root]?.any (fun node => node.completeness.predecessorsComplete)) then false
    else
      match tree.roots.idxOf? root with
      | none => false
      | some rootOrder =>
        if !(tree.roots.take rootOrder).all
            (subtreeIsAuthoritative tree.nodes verdicts tree.nodes.length) then false
        else if !(chain.zip chain.tail).all (pairIsAuthoritative tree.nodes verdicts) then false
        else verdicts[target]? == some .matched

end AgentDesktop
