import AgentDesktop.Select

/-!
# Resolving a query on an observed tree

`evaluateLocatorTree` validates and normalizes the query, evaluates it, keeps
what the request selects, gives refs where asked, and says whether the answer,
and whether the selection, is certain.
-/

namespace AgentDesktop

/-- `LocatorMaterialization`. -/
inductive LocatorMaterialization
  | none | selectedMatches | fullRefMap
  deriving DecidableEq

/-- `LocatorResolveRequest`, as far as the evaluation reads it. -/
structure LocatorResolveRequest where
  /-- What to keep of the matches. -/
  selection : LocatorSelection
  /-- How deep the traversal may go. -/
  maxRawDepth : ℕ
  /-- Which nodes are given refs. -/
  materialization : LocatorMaterialization
  deriving DecidableEq

/-- `MAX_RAW_DEPTH`. -/
def maxRawDepthLimit : ℕ := 50

/-- `validate_request`. -/
def validateRequest (request : LocatorResolveRequest) : Except AdapterError Unit :=
  if 1 ≤ request.maxRawDepth ∧ request.maxRawDepth ≤ maxRawDepthLimit then .ok ()
  else .error (.new .invalidArgs
    ("max_raw_depth must be between 1 and " ++ toString maxRawDepthLimit ++ ", got "
      ++ toString request.maxRawDepth))

/-- `LocatorMatch`. -/
structure LocatorMatch where
  /-- What is reported of the node. -/
  data : LocatorMatchData
  /-- Its place in document order. -/
  documentOrder : ℕ
  /-- The entry a ref to it records. -/
  entry : RefEntry
  deriving DecidableEq

/-- `LocatorResolutionMeta`. -/
structure LocatorResolutionMeta where
  /-- The number of matches. -/
  totalMatches : ℕ
  /-- Whether the whole answer is certain. -/
  complete : Bool
  selectionComplete : Bool
  /-- Whether the selection leaves matches out. -/
  truncated : Bool
  /-- The roles of the nodes, when nothing matched. -/
  rolesPresent : List String
  deriving DecidableEq

/-- `LocatorResolution`. -/
structure LocatorResolution where
  /-- The selected matches. -/
  selected : List LocatorMatch
  refmap : Option RefMap
  stats : LocatorStats
  /-- What is said of the answer. -/
  info : LocatorResolutionMeta

section

variable [UnicodeLowercase] [BoundsHasher]

/-- The refs the request asks for: the tree with them, the map, and whether the
evidence was there. -/
def materializeFor (request : LocatorResolveRequest) (tree : ObservedTree)
    (normalized : LocatorQuery) (selected : List ℕ) :
    Except AdapterError (ObservedTree × Option RefMap × Bool) :=
  match request.materialization with
  | .none => .ok (tree, none, true)
  | .selectedMatches =>
    (materializeRefmap tree normalized (some selected)).map
      (fun state => (state.tree, some state.refmap, state.complete))
  | .fullRefMap =>
    (materializeRefmap tree normalized none).map
      (fun state => (state.tree, some state.refmap, state.complete))

/-- The report of one selected node. -/
def locatorMatch (tree : ObservedTree) (normalized : LocatorQuery)
    (parents : List (Option ℕ)) (index : ℕ) : Except AdapterError LocatorMatch :=
  match matchData tree.nodes index parents, tree.nodes[index]? with
  | some data, some node =>
    .ok ⟨data, node.documentOrder, refEntryOf node tree.source normalized⟩
  | none, _ => .error (.internal "selected locator node is missing")
  | _, none => .error (.internal "selected locator node is out of bounds")

/-- The roles of the nodes, each once and in order. -/
def rolesPresentIn (nodes : List ObservedNode) : List String :=
  ((nodes.filterMap (fun node => node.evidence.role.known?)).dedup).mergeSort

/-- The nodes that match a query, in document order. -/
def matchedIndices (tree : ObservedTree) (query : LocatorQuery) : List ℕ :=
  (List.range tree.nodes.length).filter
    (fun index => locatorVerdict tree query index = .matched)

/-- The verdicts of a query at all nodes. -/
def verdictsOf (tree : ObservedTree) (query : LocatorQuery) : List MatchVerdict :=
  (List.range tree.nodes.length).map (locatorVerdict tree query)

/-- The counts of an evaluation. -/
def evaluationStats (tree : ObservedTree) (query : LocatorQuery) : LocatorStats :=
  let stats := (evaluateNodes tree (compileClauses [] query.normalizeQuery).2).stats
  { stats with
    evaluation :=
      { stats.evaluation with matchedNodes := (matchedIndices tree query).length } }

/-- `evaluate_locator_tree`. -/
def evaluateLocatorTree (tree : ObservedTree) (query : LocatorQuery)
    (request : LocatorResolveRequest) : Except AdapterError LocatorResolution := do
  query.validateQuery
  validateRequest request
  let normalized := query.normalizeQuery
  let parents := parentsOf tree.nodes
  Except.ensure
    (tree.nodes.length * (compileClauses [] normalized).2.length ≤ usizeMax)
    (.internal "locator evaluation matrix is too large")
  let matched := matchedIndices tree query
  let verdicts := verdictsOf tree query
  let selection := selectedIndices matched request.selection
  let (tree', refmap, materialized) ← materializeFor request tree normalized selection.1
  let complete := tree.structurallyComplete && !verdicts.contains .unknown && materialized
  let selected ← selection.1.mapM (locatorMatch tree' normalized parents)
  Except.ensure (matched.length ≤ u32Max) (.internal "locator match count exceeds u32")
  let selectionComplete := complete ||
    (decide (request.selection = .first) && selected.head?.any (fun first =>
      firstIsAuthoritative tree' first.documentOrder parents verdicts))
  return {
    selected
    refmap
    stats := evaluationStats tree query
    info :=
      { totalMatches := matched.length
        complete
        selectionComplete
        truncated := selection.2
        rolesPresent := if matched.isEmpty then rolesPresentIn tree'.nodes else [] } }

end

end AgentDesktop
