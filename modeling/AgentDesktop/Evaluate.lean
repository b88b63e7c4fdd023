import AgentDesktop.Capability
import AgentDesktop.ObservedTree
import AgentDesktop.RefMap

/-!
# The live locator's evaluation

A query is compiled into a list of clauses, nested queries before the query
they are nested in. Three matrices hold a verdict per node and clause: whether
the node matches, whether some node of its subtree does, and whether some text
of its subtree does. The nodes are visited in reverse document order, so that
the rows of the children are final when a parent reads them. What matches is
then selected, given refs where asked, and reported together with what is
known of its completeness.
-/

namespace AgentDesktop

/-! ## Clauses -/

/-- `CompiledClause`. -/
structure CompiledClause where
  query : LocatorQuery
  /-- The index of the clause of `has`. -/
  has : Option ℕ
  /-- The index of the clause of `has_not`. -/
  hasNot : Option ℕ

mutual

/-- `compile_clauses`: the nested queries first, then the query itself. -/
def compileClauses (clauses : List CompiledClause) :
    LocatorQuery → ℕ × List CompiledClause
  | ⟨identity, hasText, exact, states, has, hasNot⟩ =>
    let (hasIndex, clauses) := compileNested clauses has
    let (hasNotIndex, clauses) := compileNested clauses hasNot
    (clauses.length, clauses ++
      [⟨⟨identity, hasText, exact, states, has, hasNot⟩, hasIndex, hasNotIndex⟩])

/-- `compile_clauses` of a nested query, if there is one. -/
def compileNested (clauses : List CompiledClause) :
    Option LocatorQuery → Option ℕ × List CompiledClause
  | none => (none, clauses)
  | some nested =>
    let (index, clauses) := compileClauses clauses nested
    (some index, clauses)

end

/-! ## The matrices -/

/-- `cell`. -/
def cell (node clause clauseCount : ℕ) : ℕ := node * clauseCount + clause

/-- The verdict in a cell. -/
def verdictAt (matrix : List MatchVerdict) (node clause clauseCount : ℕ) : MatchVerdict :=
  matrix.getD (cell node clause clauseCount) .noMatch

/-- `EvaluationBuffers`. -/
structure EvaluationBuffers where
  /-- Whether a node matches a clause. -/
  nodeMatches : List MatchVerdict
  /-- Whether a node or one below it matches a clause. -/
  subtreeMatches : List MatchVerdict
  /-- Whether a node or one below it carries the text of a clause. -/
  subtreeText : List MatchVerdict
  stats : LocatorStats

/-- What an aggregation answers: no match is not certain below an incomplete
node. -/
def settleSubtree (complete : Bool) (verdict : MatchVerdict) : MatchVerdict :=
  if verdict = .noMatch ∧ complete = false then .unknown else verdict

/-- `aggregate_descendants`. -/
def aggregateDescendants (node : ObservedNode) (clauseIndex clauseCount : ℕ)
    (matrix : List MatchVerdict) : MatchVerdict :=
  settleSubtree node.completeness.subtreeComplete
    (node.children.foldl
      (fun verdict child => verdict.or (verdictAt matrix child clauseIndex clauseCount))
      .noMatch)

/-- `aggregate_subtree`. -/
def aggregateSubtree (node : ObservedNode) (clauseIndex clauseCount : ℕ)
    (own : MatchVerdict) (matrix : List MatchVerdict) : MatchVerdict :=
  settleSubtree node.completeness.subtreeComplete
    (node.children.foldl
      (fun verdict child => verdict.or (verdictAt matrix child clauseIndex clauseCount))
      own)

/-- The evaluation's counts after one clause at one node. -/
def LocatorStats.countCell (stats : LocatorStats) (own : MatchVerdict) (hasText : Bool) :
    LocatorStats :=
  { stats with
    evaluation :=
      { stats.evaluation with
        selfFilterCandidates :=
          stats.evaluation.selfFilterCandidates + (if own = .noMatch then 0 else 1)
        memoCellsEvaluated :=
          stats.evaluation.memoCellsEvaluated + (if hasText then 1 else 0) + 2 } }

/-- What `has` asks of the nodes below. -/
def hasVerdict (node : ObservedNode) (clauseCount : ℕ) (matrix : List MatchVerdict)
    (nested : Option ℕ) : MatchVerdict :=
  (nested.map (fun clause => aggregateDescendants node clause clauseCount matrix)).getD .matched

/-- What `has_not` asks of the nodes below. -/
def hasNotVerdict (node : ObservedNode) (clauseCount : ℕ) (matrix : List MatchVerdict)
    (nested : Option ℕ) : MatchVerdict :=
  (nested.map (fun clause =>
    (aggregateDescendants node clause clauseCount matrix).negate)).getD .matched

section

variable [UnicodeLowercase]

/-- What `has_text` asks of the subtree. -/
def textVerdictOf (node : ObservedNode) (query : LocatorQuery) (clauseIndex clauseCount : ℕ)
    (matrix : List MatchVerdict) : MatchVerdict :=
  if query.hasText.isSome then
    aggregateSubtree node clauseIndex clauseCount
      (selfTextVerdict query.hasText node.evidence query.exact) matrix
  else .matched

/-- One clause at one node: the body of the loop of `evaluate_node`. -/
def evaluateClause (node : ObservedNode) (nodeIndex clauseCount : ℕ)
    (buffers : EvaluationBuffers) (item : CompiledClause × ℕ) : EvaluationBuffers :=
  let clause := item.1
  let clauseIndex := item.2
  let offset := cell nodeIndex clauseIndex clauseCount
  let own := selfVerdict clause.query node.evidence buffers.stats.identifiers
  let text := textVerdictOf node clause.query clauseIndex clauseCount buffers.subtreeText
  let has := hasVerdict node clauseCount buffers.subtreeMatches clause.has
  let hasNot := hasNotVerdict node clauseCount buffers.subtreeMatches clause.hasNot
  let verdict := ((own.1.and text).and has).and hasNot
  { nodeMatches := buffers.nodeMatches.set offset verdict
    subtreeMatches := buffers.subtreeMatches.set offset
      (aggregateSubtree node clauseIndex clauseCount verdict buffers.subtreeMatches)
    subtreeText := buffers.subtreeText.set offset text
    stats := { buffers.stats with identifiers := own.2 }.countCell own.1
      clause.query.hasText.isSome }

/-- `evaluate_node`. -/
def evaluateNode (tree : ObservedTree) (clauses : List CompiledClause)
    (buffers : EvaluationBuffers) (nodeIndex : ℕ) : EvaluationBuffers :=
  match tree.nodes[nodeIndex]? with
  | none => buffers
  | some node =>
    clauses.zipIdx.foldl (evaluateClause node nodeIndex clauses.length) buffers

/-- The matrices before the first node is visited. -/
def emptyBuffers (cells : ℕ) (stats : LocatorStats) : EvaluationBuffers :=
  ⟨List.replicate cells .noMatch, List.replicate cells .noMatch,
    List.replicate cells .noMatch, stats⟩

/-- The counts the evaluation starts with. -/
def LocatorStats.begin (stats : LocatorStats) (clauses : List CompiledClause) : LocatorStats :=
  { stats with
    evaluation :=
      { stats.evaluation with
        queryClauseCount := clauses.length
        textClauseCount :=
          (clauses.filter (fun clause => clause.query.hasText.isSome)).length } }

/-- The evaluation of all nodes, last node first. -/
def evaluateNodes (tree : ObservedTree) (clauses : List CompiledClause) : EvaluationBuffers :=
  (List.range tree.nodes.length).reverse.foldl (evaluateNode tree clauses)
    (emptyBuffers (tree.nodes.length * clauses.length) (tree.stats.begin clauses))

/-- The verdict of a query at a node: the cell of the root clause, once all nodes
are evaluated. -/
def locatorVerdict (tree : ObservedTree) (query : LocatorQuery) (node : ℕ) : MatchVerdict :=
  let compiled := compileClauses [] (query.normalizeQuery)
  verdictAt (evaluateNodes tree compiled.2).nodeMatches node compiled.1 compiled.2.length

end

end AgentDesktop
