import Mathlib.Data.Finset.Basic
import AgentDesktop.ObservedTree
import AgentDesktop.ReadNode
import AgentDesktop.Util.Except

/-!
# Walking a native tree

An observation walks the tree of an application from a root, depth first. The native tree
may have cycles, and it may be larger than what was asked for; so the walk remembers the
elements it is below, claims every node it visits, and does not go below a depth. The
handles of the children that a read has loaded are owned by the walk, which counts them: a
child is given up when it was visited, or when it is not visited at all.

The functions are those of the source. What is visited is noted besides, with the depth, so
that the accounts can be compared with it.
-/

namespace AgentDesktop

namespace LocatorTraversal

/-! ## The request -/

/-- `EvidencePlan`. -/
structure EvidencePlan where
  /-- What is read of the root. -/
  root : EvidenceRequirements
  /-- What is read of the nodes below it. -/
  descendants : EvidenceRequirements

namespace EvidencePlan

/-- `for_raw_depth`. -/
def forRawDepth (plan : EvidencePlan) (rawDepth : UInt8) : EvidenceRequirements :=
  if rawDepth = 0 then plan.root else plan.descendants

/-- `hydrates_root_name_from_children`. -/
def hydratesRootNameFromChildren (plan : EvidencePlan) : Bool :=
  plan.root != plan.descendants && (plan.root.name || plan.root.description)

/-- `validate`. -/
def validate (plan : EvidencePlan) : Except AdapterError Unit := do
  Except.ensure (plan.descendants.role && plan.root.role)
    (.new .invalidArgs "role evidence is required for every observation")
  Except.ensure (plan.root.covers plan.descendants)
    (.new .invalidArgs "root evidence must cover descendant evidence")

end EvidencePlan

/-- `validate_limit`. -/
def validateLimit (name : String) (value maximum : ℕ) : Except AdapterError Unit :=
  Except.ensure (decide (1 ≤ value) && decide (value ≤ maximum)) (.new .invalidArgs
    (name ++ " must be between 1 and " ++ toString maximum ++ ", got " ++ toString value))

/-- `ObservationBudget::validate`. -/
def validateBudget (budget : ObservationBudget) : Except AdapterError Unit := do
  validateLimit "max_nodes" budget.maxNodes 50000
  validateLimit "max_edges" budget.maxEdges 100000
  validateLimit "max_children_per_node" budget.maxChildrenPerNode 4096
  validateLimit "max_field_bytes" budget.maxFieldBytes (64 * 1024)
  validateLimit "max_text_bytes" budget.maxTextBytes (8 * 1024 * 1024)
  Except.ensure (budget.maxFieldBytes ≤ budget.maxTextBytes)
    (.new .invalidArgs "max_field_bytes cannot exceed max_text_bytes")

/-- `ObservationRequest`, without the deadline and the surface, which the walk does not look at. -/
structure ObservationRequest where
  /-- The last level of the native tree. -/
  maxRawDepth : UInt8
  /-- The last level without wrappers. -/
  maxLogicalDepth : UInt8
  /-- Whether only an outline is asked for. -/
  skeleton : Bool
  evidencePlan : EvidencePlan
  budget : ObservationBudget

/-- `ObservationRequest::validate`. -/
def ObservationRequest.validate (request : ObservationRequest) : Except AdapterError Unit := do
  validateBudget request.budget
  Except.ensure (decide (1 ≤ request.maxRawDepth) && decide (request.maxRawDepth ≤ 50))
    (.new .invalidArgs "max_raw_depth must be between 1 and 50")
  Except.ensure (request.maxLogicalDepth ≤ request.maxRawDepth)
    (.new .invalidArgs "max_logical_depth cannot exceed max_raw_depth")
  Except.ensure (!(request.skeleton && decide (3 < request.maxLogicalDepth)))
    (.new .invalidArgs "skeleton observations support a maximum logical depth of 3")
  request.evidencePlan.validate

/-- `MAX_LABEL_ELEMENTS`. -/
def maxLabelElements : ℕ := 5

/-- `boundary_label_elements`. -/
def boundaryLabelElements (request : ObservationRequest) (rawDepth : UInt8) : ℕ :=
  let hydratesSelectedRoot :=
    rawDepth == 0 && request.evidencePlan.hydratesRootNameFromChildren
  if hydratesSelectedRoot || request.skeleton then maxLabelElements else 0

/-! ## The accounts -/

/-- `TraversalArena`. -/
structure TraversalArena where
  stats : TraversalStats
  /-- The elements the walk is below. -/
  ancestors : Finset ℕ
  /-- Whether nothing is missing anywhere. -/
  structurallyComplete : Bool
  ownedHandles : ℕ

/-- `u64::MAX`. -/
def u64Max : ℕ := 18446744073709551615

namespace TraversalArena

/-- `TraversalArena::new`. -/
def new : TraversalArena := ⟨.zero, ∅, true, 0⟩

/-- `add_handles`. -/
def addHandles (arena : TraversalArena) (count : ℕ) : TraversalArena :=
  let ownedHandles := min (arena.ownedHandles + min count u64Max) u64Max
  { arena with
    ownedHandles
    stats :=
      { arena.stats with
        traversal :=
          { arena.stats.traversal with
            peakHandlesOwned := max arena.stats.traversal.peakHandlesOwned ownedHandles } } }

/-- `drop_handles`. -/
def dropHandles (arena : TraversalArena) (count : ℕ) : TraversalArena :=
  { arena with ownedHandles := arena.ownedHandles - min count u64Max }

/-- `mark_incomplete`. -/
def markIncomplete (arena : TraversalArena) : TraversalArena :=
  { arena with structurallyComplete := false }

/-- The counts of the traversal are moved. -/
def count (arena : TraversalArena) (f : LocatorTraversalStats → LocatorTraversalStats) :
    TraversalArena :=
  { arena with stats := { arena.stats with traversal := f arena.stats.traversal } }

/-- The limits that were met are counted. -/
def hit (arena : TraversalArena) (f : LocatorLimitStats → LocatorLimitStats) : TraversalArena :=
  arena.count (fun traversal => { traversal with limits := f traversal.limits })

/-- **`finish`**: no handle may be left. -/
def finish (arena : TraversalArena) : Except AdapterError TraversalStats :=
  if arena.ownedHandles ≠ 0 then
    .error (.internal ("observation retained " ++ toString arena.ownedHandles
      ++ " native handles"))
  else .ok arena.stats

end TraversalArena

/-- A visit: the element, and its levels. -/
structure Visit where
  element : AXElement
  /-- The level without wrappers. -/
  logicalDepth : UInt8
  /-- The level in the native tree. -/
  rawDepth : UInt8

/-- **What a walk changes.** -/
structure Walk (σ : Type) where
  context : TreeBuildContext
  arena : TraversalArena
  usage : ObservationUsage
  world : σ
  /-- The visits, the last one first. -/
  visits : List Visit

/-- **A walk's surroundings**: the application, the request, and the deadline. -/
structure Locator (σ : Type) where
  source : NodeSource σ
  request : ObservationRequest
  deadline : ℕ

namespace Walk

variable {σ : Type}

/-- The accounts are changed. -/
def withArena (walk : Walk σ) (f : TraversalArena → TraversalArena) : Walk σ :=
  { walk with arena := f walk.arena }

/-- `note_deadline_exhausted`. -/
def noteDeadlineExhausted (walk : Walk σ) : Walk σ :=
  walk.withArena (fun arena =>
    { arena with
      stats :=
        { arena.stats with
          health :=
            { arena.stats.health with
              deadlineExhausted := arena.stats.health.deadlineExhausted + 1 } }
      structurallyComplete := false })

/-- `note_visit`. -/
def noteVisit (walk : Walk σ) (visit : Visit) : Walk σ :=
  { walk.withArena (fun arena => arena.count (fun traversal =>
      { traversal with
        nodesVisited := traversal.nodesVisited + 1
        maxLogicalDepth := max traversal.maxLogicalDepth visit.logicalDepth
        maxRawDepth := max traversal.maxRawDepth visit.rawDepth })) with
    visits := visit :: walk.visits }

/-- `note_child_demand`. -/
def noteChildDemand (walk : Walk σ) (totalCount : ℕ) : Walk σ :=
  let limits := walk.usage.limits
  walk.withArena (fun arena => arena.hit (fun hits =>
    { hits with
      childHits := hits.childHits + ofBool (decide (limits.maxChildrenPerNode < totalCount))
      edgeHits := hits.edgeHits
        + ofBool (decide (limits.maxEdges - walk.usage.edges < totalCount))
      nodeHits := hits.nodeHits
        + ofBool (decide (limits.maxNodes - walk.usage.nodes < totalCount)) }))

end Walk

/-! ## The walk -/

variable {σ : Type}

/-- The result of a part of the walk. -/
abbrev Walked (σ α : Type) : Type := Except AdapterError α × Walk σ

/-- `MAX_IPC_SLICE`, in nanoseconds. -/
def maxIpcSlice : ℕ := 250000000

section Parts

variable (locator : Locator σ)

/-- `remaining_budget`. -/
def remainingBudget (walk : Walk σ) : Option ℕ × Walk σ :=
  let now := locator.source.now walk.world
  ((if locator.deadline < now.1 then none
      else some (min (locator.deadline - now.1) maxIpcSlice)).filter (fun time => 0 < time),
    { walk with world := now.2 })

/-- The beginning of `visit`: whether the element is read. -/
def enter (visit : Visit) (walk : Walk σ) : Bool × Walk σ :=
  match remainingBudget locator walk with
  | (none, walk) => (false, walk.noteDeadlineExhausted.withArena (·.dropHandles 1))
  | (some _, walk) =>
    if visit.element.pointer ∈ walk.arena.ancestors then
      (false, walk.withArena (fun arena => (arena.count (fun traversal =>
        { traversal with cyclesSkipped := traversal.cyclesSkipped + 1 })).dropHandles 1))
    else
      match walk.usage.claimNode with
      | none => (false, walk.withArena (fun arena => ((arena.hit (fun hits =>
          { hits with nodeHits := hits.nodeHits + 1 })).markIncomplete).dropHandles 1))
      | some usage =>
        (true, ({ walk with usage }.withArena (fun arena =>
          { arena with ancestors := insert visit.element.pointer arena.ancestors })).noteVisit
            visit)

/-- The read of `visit`, and whether a renderer showed its content. -/
def readVisited (visit : Visit) (walk : Walk σ) : Walked σ NodeRead :=
  let requirements := locator.request.evidencePlan.forRawDepth visit.rawDepth
  let plan := ChildReadPlan.boundaryAware (childCapacity walk.usage)
    (boundaryLabelElements locator.request visit.rawDepth) visit.logicalDepth
    locator.request.maxLogicalDepth
  let result := (readNode locator.source walk.context visit.element requirements locator.deadline
    plan).run ⟨walk.arena.stats, walk.usage, walk.world⟩
  let walk :=
    { walk with
      arena := { walk.arena with stats := result.2.stats }
      usage := result.2.usage
      world := result.2.world }
  match result.1 with
  | .error error => (.error error, walk)
  | .ok read =>
    (.ok read,
      if read.evidence.role.known? = some "webarea" then
        walk.withArena (fun arena =>
          { arena with stats := { arena.stats with activationReady := true } })
      else walk)

/-- The error of a root that is gone. -/
def rootInvalid : AdapterError :=
  ((AdapterError.new .staleRef
    "Live locator root is no longer a valid accessibility element").withSuggestion
      "Refresh the source snapshot and retry the locator").withDetails
    (.obj [("kind", .str "locator_root_invalid")])

/-- An element is given up: the walk is no longer below it. -/
def Walk.giveUp (walk : Walk σ) (element : AXElement) : Walk σ :=
  walk.withArena (fun arena =>
    { arena with ancestors := arena.ancestors.erase element.pointer }.dropHandles 1)

/-- `visit`, of an element that is gone. -/
def leaveInvalid (visit : Visit) (walk : Walk σ) : Walked σ (Option ObservedSubtree) :=
  if visit.rawDepth = 0 then (.error rootInvalid, walk.giveUp visit.element)
  else (.ok none, (walk.giveUp visit.element).withArena TraversalArena.markIncomplete)

/-- The children that were loaded are counted and owned. -/
def ownChildren (read : NodeRead) (walk : Walk σ) : Walk σ :=
  let walk :=
    if read.webWrapper then
      walk.withArena (fun arena => arena.count (fun traversal =>
        { traversal with webWrapperNodes := traversal.webWrapperNodes + 1 }))
    else walk
  (walk.noteChildDemand read.childRead.totalCount).withArena
    (·.addHandles read.childRead.elements.length)

/-- `clips_descendants`. -/
def clipsDescendants (role : String) : Bool :=
  ["AXWindow", "AXScrollArea", "AXWebArea", "AXSheet", "AXPopover"].contains role

/-- `clipped_viewport`. -/
def clippedViewport (parent : Option Rect) (role : String) (bounds : Option Rect) :
    Option Rect :=
  if !clipsDescendants role then parent
  else
    match parent, bounds with
    | some parent, some bounds =>
      some ((locator.source.intersectRects parent bounds).getD
        ⟨.finite 0, .finite 0, .finite 0, .finite 0⟩)
    | _, _ => none

/-- The edges to the children are claimed, and they are seen through the part of the window that
their parent leaves of it. -/
def descend (read : NodeRead) (walk : Walk σ) : Walk σ :=
  { walk with
    usage := walk.usage.claimEdges read.childRead.elements.length
    context :=
      { walk.context with
        windowBounds := clippedViewport locator walk.context.windowBounds
          (read.attrs.role.getD "") read.attrs.bounds } }

/-- The end of `visit`: the element is given up, and retained if something retains it. -/
def leave (visit : Visit) (read : NodeRead) (children : List ObservedSubtree)
    (childrenCount : Option ℕ) (subtreeComplete : Bool) (walk : Walk σ) :
    Walked σ (Option ObservedSubtree) :=
  let walk := walk.giveUp visit.element
  let walk := if subtreeComplete then walk else walk.withArena TraversalArena.markIncomplete
  let captured := locator.source.capture visit.element walk.world
  let walk := { walk with world := captured.2 }
  match captured.1 with
  | .error error => (.error error, walk)
  | .ok token =>
    let evidence :=
      { read.evidence with
        identifiers :=
          { read.evidence.identifiers with
            retainedObject := token <|> read.evidence.identifiers.retainedObject } }
    (.ok (some (.new evidence children subtreeComplete childrenCount)), walk)

/-- The count that is told of children that are not walked: a positive `u32`. -/
def countToTell (totalCount : ℕ) : Option ℕ :=
  if totalCount ≤ u32Max ∧ 0 < totalCount then some totalCount else none

/-- What `visit_children` has gathered. -/
structure Gathering where
  children : List ObservedSubtree
  /-- Whether nothing is missing. -/
  complete : Bool
  /-- Whether nothing is missing before the next one. -/
  predecessorsComplete : Bool

/-- A child that was observed. -/
def Gathering.keep (gathering : Gathering) (childIndex : ℕ) (subtree : ObservedSubtree) :
    Gathering where
  children := gathering.children
    ++ [{ subtree with sourceChildIndex := some childIndex }.withPredecessorsComplete
      gathering.predecessorsComplete]
  complete := gathering.complete && subtree.completeness.subtreeComplete
  predecessorsComplete := gathering.predecessorsComplete

/-- A child that was not. -/
def Gathering.omit (gathering : Gathering) : Gathering :=
  { gathering with complete := false, predecessorsComplete := false }

end Parts

theorem toNat_saturatingAddU8_one {depth limit : UInt8} (hlt : depth < limit) :
    (saturatingAddU8 depth 1).toNat = depth.toNat + 1 := by
  have hdepth := UInt8.lt_iff_toNat_lt.mp hlt
  have hlimit := limit.toNat_lt
  have hone : (1 : UInt8).toNat = 1 := rfl
  unfold saturatingAddU8
  rw [hone, if_neg (by omega), UInt8.toNat_add, hone]
  exact Nat.mod_eq_of_lt (by omega)

mutual

/-- **`visit`.** -/
def visit (locator : Locator σ) (element : AXElement) (logicalDepth rawDepth : UInt8)
    (walk : Walk σ) : Walked σ (Option ObservedSubtree) :=
  match enter locator ⟨element, logicalDepth, rawDepth⟩ walk with
  | (false, walk) => (.ok none, walk)
  | (true, walk) =>
    match readVisited locator ⟨element, logicalDepth, rawDepth⟩ walk with
    | (.error error, walk) => (.error error, walk)
    | (.ok read, walk) =>
      if read.invalidElement then leaveInvalid ⟨element, logicalDepth, rawDepth⟩ walk
      else
        let childLogicalDepth := logicalDepth + (if read.webWrapper then 0 else 1)
        let walk := ownChildren read walk
        if locator.request.maxLogicalDepth < childLogicalDepth then
          leave locator ⟨element, logicalDepth, rawDepth⟩ read []
            (countToTell read.childRead.totalCount) read.childRead.complete
            (walk.withArena (·.dropHandles read.childRead.elements.length))
        else
          match visitChildren locator read.childRead childLogicalDepth rawDepth
              (descend locator read walk) with
          | (.error error, below) => (.error error, { below with context := walk.context })
          | (.ok (children, complete), below) =>
            leave locator ⟨element, logicalDepth, rawDepth⟩ read children none complete
              { below with context := walk.context }
termination_by (2 * (locator.request.maxRawDepth.toNat + 1 - rawDepth.toNat) + 1, 0)

/-- **`visit_children`.** -/
def visitChildren (locator : Locator σ) (read : ChildRead) (logicalDepth rawDepth : UInt8)
    (walk : Walk σ) : Walked σ (List ObservedSubtree × Bool) :=
  let complete := read.complete && !read.truncated
  let walk := if complete then walk else walk.withArena TraversalArena.markIncomplete
  if hdepth : locator.request.maxRawDepth ≤ rawDepth ∧ read.elements ≠ [] then
    (.ok ([], false), walk.withArena (fun arena => ((arena.hit (fun hits =>
      { hits with depthHits := hits.depthHits + 1 })).dropHandles
        read.elements.length).markIncomplete))
  else
    match visitEach locator logicalDepth rawDepth read.elements.length 0
        ⟨[], complete, read.prefixCertain⟩ read.elements
        (fun hsome => UInt8.not_le.mp (fun hle => hdepth ⟨hle, hsome⟩)) walk with
    | (.error error, walk) => (.error error, walk)
    | (.ok gathering, walk) =>
      (.ok (gathering.children, gathering.complete),
        if gathering.complete then walk else walk.withArena TraversalArena.markIncomplete)
termination_by (2 * (locator.request.maxRawDepth.toNat + 1 - rawDepth.toNat),
  read.elements.length + 1)

/-- The loop of `visit_children`. -/
def visitEach (locator : Locator σ) (logicalDepth rawDepth : UInt8) (total childIndex : ℕ)
    (gathering : Gathering) (elements : List AXElement)
    (hdepth : elements ≠ [] → rawDepth < locator.request.maxRawDepth) (walk : Walk σ) :
    Walked σ Gathering :=
  match elements, hdepth with
  | [], _ => (.ok gathering, walk)
  | child :: rest, hdepth =>
    match remainingBudget locator walk with
    | (none, walk) =>
      (.ok { gathering with complete := false },
        walk.noteDeadlineExhausted.withArena (·.dropHandles (total - childIndex)))
    | (some _, walk) =>
      match visit locator child logicalDepth (saturatingAddU8 rawDepth 1) walk with
      | (.error error, walk) => (.error error, walk)
      | (.ok (some subtree), walk) =>
        visitEach locator logicalDepth rawDepth total (childIndex + 1)
          (gathering.keep childIndex subtree) rest
          (fun _ => hdepth (List.cons_ne_nil _ _)) walk
      | (.ok none, walk) =>
        visitEach locator logicalDepth rawDepth total (childIndex + 1) gathering.omit rest
          (fun _ => hdepth (List.cons_ne_nil _ _)) walk
termination_by (2 * (locator.request.maxRawDepth.toNat + 1 - rawDepth.toNat), elements.length)
decreasing_by
  · have hlt := hdepth (List.cons_ne_nil _ _)
    rw [toNat_saturatingAddU8_one hlt]
    have := UInt8.lt_iff_toNat_lt.mp hlt
    exact Prod.Lex.left _ _ (by omega)
  · exact Prod.Lex.right _ (Nat.lt_succ_self _)
  · exact Prod.Lex.right _ (Nat.lt_succ_self _)

end

/-! ## The observation -/

/-- The counts, as an error tells them; those that no walk moves are zero. -/
def TraversalStats.toJson (stats : TraversalStats) : Json :=
  let traversal := stats.traversal
  let limits := traversal.limits
  .obj [
    ("activation", .obj [("attempted", .bool false), ("succeeded", .bool false),
      ("ready", .bool stats.activationReady)]),
    ("traversal", .obj [("nodes_visited", .num traversal.nodesVisited),
      ("peak_handles_owned", .num traversal.peakHandlesOwned),
      ("max_raw_depth", .num traversal.maxRawDepth.toNat),
      ("max_logical_depth", .num traversal.maxLogicalDepth.toNat),
      ("web_wrapper_nodes", .num traversal.webWrapperNodes),
      ("cycles_skipped", .num traversal.cyclesSkipped),
      ("limits", .obj [("node_hits", .num limits.nodeHits), ("edge_hits", .num limits.edgeHits),
        ("child_hits", .num limits.childHits), ("child_label_hits", .num limits.childLabelHits),
        ("text_hits", .num limits.textHits), ("depth_hits", .num limits.depthHits),
        ("child_count_changes", .num limits.childCountChanges)])]),
    ("reads", .obj [("observation_attempts", .num 0),
      ("attribute_batches", .num stats.counts.attributeBatches),
      ("attributes_requested", .num stats.counts.attributesRequested),
      ("child_reads", .num stats.counts.childReads),
      ("action_reads", .num stats.counts.actionReads),
      ("fallback_reads", .num stats.counts.fallbackReads),
      ("cannot_complete", .num stats.health.cannotComplete),
      ("native_read_failures", .num stats.health.nativeReadFailures),
      ("deadline_exhausted", .num stats.health.deadlineExhausted)]),
    ("identifiers", .obj [("values_observed", .num stats.identifiers.valuesObserved),
      ("nodes_with_identifiers", .num stats.identifiers.nodesWithIdentifiers),
      ("nodes_with_multiple_identifiers", .num stats.identifiers.nodesWithMultipleIdentifiers),
      ("preferred_matches", .num 0), ("fallback_matches", .num 0)]),
    ("semantic_reads", .obj [("child_label_reads", .num stats.childLabelReads),
      ("promotion_reads", .num 0), ("settable_reads", .num stats.settableReads)]),
    ("evaluation", .obj [("query_clause_count", .num 0), ("text_clause_count", .num 0),
      ("memo_cells_evaluated", .num 0), ("self_filter_candidates", .num 0),
      ("matched_nodes", .num 0)]),
    ("elapsed_us", .num 0)]

/-- The error of an observation that did not read its root. -/
def rootIncomplete (stats : TraversalStats) : AdapterError :=
  (AdapterError.new (if 0 < stats.health.deadlineExhausted then .timeout else .appUnresponsive)
    "Accessibility observation ended before reading its root").withDetails
      (.obj [("kind", .str "observation_root_incomplete"), ("complete", .bool false),
        ("query_stats", stats.toJson)])

/-- The end of `build`: the tree, whether a renderer showed its content, and the counts. -/
def conclude (root : Option ObservedSubtree) (source : ObservationSource)
    (arena : TraversalArena) : Except AdapterError (ObservedTree × Bool × TraversalStats) := do
  let stats ← arena.finish
  match root with
  | none => .error (rootIncomplete stats)
  | some root =>
    -- the counts that the evaluation will move are still zero
    let tree ← ObservedTree.fromRoots [root] source ⟨⟨0, 0⟩, ⟨0, 0, 0, 0, 0⟩⟩
      arena.structurallyComplete
    return (tree, arena.stats.activationReady, stats)

/-- `LocatorTraversal::new`. -/
def Locator.new (locator : Locator σ) (context : TreeBuildContext) (world : σ) : Walk σ :=
  ⟨context, .new, newUsage locator.request.budget, world, []⟩

/-- **`build`.** -/
def build (locator : Locator σ) (root : AXElement) (source : ObservationSource)
    (walk : Walk σ) : Walked σ (ObservedTree × Bool × TraversalStats) :=
  match visit locator root 0 0 (walk.withArena (·.addHandles 1)) with
  | (.error error, walk) => (.error error, walk)
  | (.ok root, walk) => (conclude root source walk.arena, walk)

end LocatorTraversal

end AgentDesktop
