import AgentDesktop.AXTree
import AgentDesktop.Util.Except

/-!
# Strict resolution

A ref is resolved against the live tree. First the element at the recorded path
is looked at, and where there is none that matches, the whole tree is searched:
depth first, up to a depth, through every root, collecting the elements that
match the entry. What was collected is then classified: none, one, or several
among which the recorded bounds decide.
-/

namespace AgentDesktop

/-! ## Errors -/

/-- `AdapterError::element_not_found`. -/
def AdapterError.elementNotFound (refId : String) : AdapterError :=
  ((AdapterError.new .elementNotFound ("Element " ++ refId ++ " could not be resolved")).withSuggestion
    "Re-run a snapshot to obtain fresh refs, then retry with the new ref").withDisposition
    .notDelivered

/-- `native_identifier_role_reuse`. -/
def nativeIdentifierRoleReuse (entry : RefEntry) : AdapterError :=
  let error := AdapterError.staleRef
    "Saved native identifier was found only on a different accessibility role"
  error.withDetails (.obj [("kind", .str "native_identifier_role_reuse"),
    ("expected_role", .str entry.identity.role), ("complete", .bool true),
    ("retryable", .bool false)])

/-- `identity_unknown`. -/
def identityUnknown (entry : RefEntry) : AdapterError :=
  ((AdapterError.new .appUnresponsive
    "Strict resolution could not determine candidate identity from the live accessibility evidence").withSuggestion
    "Retry after the target application finishes updating its accessibility tree").withDetails
    (.obj [("kind", .str "resolution_identity_unknown"), ("role", .str entry.identity.role),
      ("complete", .bool false), ("retryable", .bool true)])

/-- `incomplete_traversal`. -/
def incompleteTraversal (phase : String) (depth : ℕ) : AdapterError :=
  ((AdapterError.new .appUnresponsive
    ("Strict element resolution observed an incomplete accessibility tree during " ++ phase)).withSuggestion
    "Retry after the target application finishes updating its accessibility tree").withDetails
    (.obj [("kind", .str "resolution_traversal_incomplete"), ("phase", .str phase),
      ("depth", .num depth), ("complete", .bool false), ("retryable", .bool true)])

/-! ## What is asked of an element -/

/-- `identity_requirements`. -/
def identityRequirements (entry : RefEntry) : EvidenceRequirements :=
  let semanticText := hasStableTextIdentity entry || entry.identity.role == "cell"
  { role := true
    name := semanticText
    description := semanticText
    value := semanticText
    identifiers := entry.identity.nativeId.isSome
    states := false
    refEvidence := ⟨false, false⟩ }

/-- `provisional_geometry_candidate`. -/
def provisionalGeometryCandidate (entry : RefEntry) : Bool :=
  entry.geometry.boundsHash.isSome && !hasMeaningfulIdentity entry

/-- `should_stop_collecting`. -/
def shouldStopCollecting (matchCount : ℕ) (entry : RefEntry) : Bool :=
  1 < matchCount && entry.geometry.boundsHash.isNone

/-- `native_identifier_reused_by_different_role`. -/
def nativeIdentifierReusedByDifferentRole (entry : RefEntry) (evidence : LocatorEvidence) : Bool :=
  match entry.identity.nativeId with
  | none => false
  | some expected =>
    evidence.role.known?.any (fun role => role != entry.identity.role)
      && evidence.identifiers.complete
      && evidence.identifiers.identifiers.any (fun identifier => identifier == expected)

section

variable {Object : Type} [DecidableEq Object] (tree : AXTree Object)

/-- `push_unique`. -/
def pushUnique (elements : List AXElement) (element : AXElement) : List AXElement :=
  if elements.any (fun existing => tree.object existing == tree.object element) then elements
  else elements ++ [element]

/-- `read_node` of the search: a node is claimed, then read. -/
def readNode (requirements : EvidenceRequirements) (context : ResolveReadContext)
    (element : AXElement) : Except AdapterError (NodeRead × ResolveReadContext) :=
  match context.usage.claimNode with
  | none => .error (incompleteTraversal "node_budget" 0)
  | some usage => do
    let (read, context) ← tree.readNode { context with usage } element requirements
    return (read,
      { context with usage := context.usage.claimEdges read.childRead.elements.length })

/-! ## The broad search -/

/-- What a search has collected. -/
structure SearchState where
  /-- The elements that match. -/
  found : List AXElement
  /-- The first thing that made the search incomplete. -/
  incomplete : Option AdapterError
  /-- Whether the native identifier was seen on another role. -/
  identifierRoleReuse : Bool
  /-- The budget and the time. -/
  context : ResolveReadContext

/-- `mark_incomplete`. -/
def SearchState.markIncomplete (state : SearchState) (error : AdapterError) : SearchState :=
  { state with incomplete := state.incomplete.or (some error) }

/-- Whether collecting stops. -/
def SearchState.stop (entry : RefEntry) (state : SearchState) : Bool :=
  shouldStopCollecting state.found.length entry

/-- What `collect_elements_recursive` makes of the evidence of an element. -/
def examine (entry : RefEntry) (depth : ℕ) (element : AXElement) (evidence : LocatorEvidence)
    (state : SearchState) : Except AdapterError SearchState :=
  let state :=
    if nativeIdentifierReusedByDifferentRole entry evidence then
      { state with identifierRoleReuse := true }
    else state
  match evidence.role with
  | .known role =>
    if role = entry.identity.role then
      match tree.candidateMatch element entry evidence with
      | .error error => .error error
      | .ok .matched => .ok { state with found := pushUnique tree state.found element }
      | .ok .unknown =>
        if provisionalGeometryCandidate entry then
          .ok { state with found := pushUnique tree state.found element }
        else .ok (state.markIncomplete (identityUnknown entry))
      | .ok .noMatch => .ok state
    else .ok state
  | .unknown => .ok (state.markIncomplete (incompleteTraversal "role" depth))
  | .absent => .ok state

/-- `collect_elements_recursive`, by the levels that remain. The ancestors are taken out of the
set on the way back, so each call is handed those it has. The source leaves the loop over the
children after a child, here it is left before the next. -/
def collectElementsRecursive (entry : RefEntry) (maxDepth : ℕ) :
    ℕ → List AXElement → AXElement → SearchState → Except AdapterError SearchState
  | levels, ancestors, element, state =>
    if state.stop entry then .ok state
    else do
      let context ← tree.remaining state.context
      let state := { state with context }
      if ancestors.contains element then return state
      let (read, context) ← readNode tree (identityRequirements entry) state.context element
      let state := { state with context }
      let depth := maxDepth - levels
      if read.invalidElement then
        return state.markIncomplete (incompleteTraversal "invalid_element" depth)
      let state ← examine tree entry depth element read.evidence state
      match levels with
      | 0 =>
        if !read.childRead.elements.isEmpty || !read.childRead.complete
            || read.childRead.truncated then
          return state.markIncomplete (incompleteTraversal "depth_limit" depth)
        else return state
      | levels + 1 =>
        let state :=
          if !read.childRead.complete || read.childRead.truncated then
            state.markIncomplete (incompleteTraversal "children" depth)
          else state
        Except.untilStop (SearchState.stop entry)
          (collectElementsRecursive entry maxDepth levels (element :: ancestors))
          read.childRead.elements state

/-! ## Classifying what was found -/

/-- `candidate_requires_bounds`. -/
def candidateRequiresBounds (entry : RefEntry) : Bool := !hasMeaningfulIdentity entry

/-- `identity_summary_for_message`. -/
def identitySummaryForMessage (entry : RefEntry) : String :=
  "role=" ++ entry.identity.role
    ++ ", name_chars=" ++ toString (entry.identity.name.getD "").length
    ++ ", description_chars=" ++ toString (entry.identity.description.getD "").length

/-- `stale_ref_from_bounds_mismatch`. -/
def staleRefFromBoundsMismatch (entry : RefEntry) (candidateCount : ℕ) : AdapterError :=
  { AdapterError.staleRef "element" with
    message := "No live candidate matched the saved element's bounds: "
      ++ toString candidateCount ++ " shared its identity, none its geometry" }.withDetails
    (.obj [("kind", .str "bounds_mismatch"), ("candidate_count", .num candidateCount),
      ("identity", .str (identitySummaryForMessage entry))])

/-- `candidate_summaries`: at most ten. -/
def candidateSummaries (count : ℕ) (entry : RefEntry) : Json :=
  .arr ((List.range (min count 10)).map (fun index =>
    .obj [("index", .num index), ("role", .str entry.identity.role),
      ("identity", .str "matched")]))

/-- `ambiguous_target_error`. -/
def ambiguousTargetError (count : ℕ) (entry : RefEntry) : AdapterError :=
  (AdapterError.ambiguousTarget ("Ambiguous target: " ++ toString count ++ " candidates matched "
    ++ identitySummaryForMessage entry)).withDetails
    (.obj [("candidate_count", .num count), ("candidate_summaries_truncated", .bool (10 < count)),
      ("role", .str entry.identity.role), ("name", Json.ofOption entry.identity.name),
      ("description", Json.ofOption entry.identity.description),
      ("source_app", Json.ofOption entry.source.sourceApp),
      ("source_window_id", Json.ofOption entry.source.sourceWindowId),
      ("source_window_title", Json.ofOption entry.source.sourceWindowTitle),
      ("candidates", candidateSummaries count entry)])

section

variable [BoundsHasher]

omit [DecidableEq Object] in
/-- `verified_bounds_match`. -/
def verifiedBoundsMatch (candidate : AXElement) (entry : RefEntry)
    (context : ResolveReadContext) : Except AdapterError (Bool × ResolveReadContext) :=
  match entry.geometry.boundsHash with
  | none => .ok (false, context)
  | some expected =>
    (tree.readBounds context candidate).map (fun read =>
      ((read.1.bind Rect.boundsHash) == some expected, read.2))

omit [DecidableEq Object] in
/-- `candidate_is_sufficiently_verified`. -/
def candidateIsSufficientlyVerified (candidate : AXElement) (entry : RefEntry)
    (sourceWindowVerified : Bool) (context : ResolveReadContext) :
    Except AdapterError (Bool × ResolveReadContext) :=
  if sourceWindowVerified && !candidateRequiresBounds entry then .ok (true, context)
  else verifiedBoundsMatch tree candidate entry context

omit [DecidableEq Object] in
/-- The candidates whose bounds match. -/
def boundsMatches (entry : RefEntry) :
    List AXElement → ResolveReadContext → Except AdapterError (List AXElement)
  | [], _ => .ok []
  | candidate :: rest, context =>
    match verifiedBoundsMatch tree candidate entry context with
    | .error error => .error error
    | .ok (found, context) =>
      (boundsMatches entry rest context).map (fun others =>
        if found then candidate :: others else others)

omit [DecidableEq Object] in
/-- `classify_ambiguous_candidates`, with `classify_bounds_matches`. -/
def classifyAmbiguousCandidates (candidates : List AXElement) (entry : RefEntry)
    (context : ResolveReadContext) : Except AdapterError AXElement :=
  if entry.geometry.boundsHash.isNone then .error (ambiguousTargetError candidates.length entry)
  else
    match boundsMatches tree entry candidates context with
    | .error error => .error error
    | .ok [] => .error (staleRefFromBoundsMismatch entry candidates.length)
    | .ok [candidate] => .ok candidate
    | .ok (_ :: _ :: _) => .error (ambiguousTargetError candidates.length entry)

omit [DecidableEq Object] in
/-- `classify_candidates`. -/
def classifyCandidates (candidates : List AXElement) (entry : RefEntry)
    (sourceWindowVerified : Bool) (context : ResolveReadContext) :
    Except AdapterError AXElement :=
  match candidates with
  | [] => .error (.elementNotFound "element")
  | [candidate] =>
    match candidateIsSufficientlyVerified tree candidate entry sourceWindowVerified context with
    | .error error => .error error
    | .ok (true, _) => .ok candidate
    | .ok (false, _) => .error (.elementNotFound "element")
  | _ => classifyAmbiguousCandidates tree candidates entry context

/-- `find_entry_in_roots`. -/
def findEntryInRoots (roots : List AXElement) (entry : RefEntry) (resolveDepth : ℕ)
    (sourceWindowVerified : Bool) (context : ResolveReadContext) :
    Except AdapterError AXElement := do
  let state ← Except.untilStop (SearchState.stop entry)
    (collectElementsRecursive tree entry resolveDepth resolveDepth []) roots
    ⟨[], none, false, context⟩
  if state.stop entry then
    classifyCandidates tree state.found entry sourceWindowVerified state.context
  else
    match state.incomplete with
    | some error => .error error
    | none =>
      if state.identifierRoleReuse && state.found.isEmpty then
        .error (nativeIdentifierRoleReuse entry)
      else classifyCandidates tree state.found entry sourceWindowVerified state.context

/-! ## The element at the recorded path -/

/-- `source_window_scope_required`. -/
def sourceWindowScopeRequired (entry : RefEntry) : Bool :=
  entry.source.sourceSurface == .window
    && (entry.source.sourceWindowId.isSome
      || entry.source.sourceWindowTitle.any (fun title => !title.isEmpty))

/-- `can_use_path_fast_path`. -/
def canUsePathFastPath (entry : RefEntry) : Bool :=
  (if entry.source.sourceSurface == .window then sourceWindowScopeRequired entry else true)
    && (entry.scope.rootRef.isNone || entry.scope.pathIsAbsolute)
    && !entry.scope.path.isEmpty
    && (entry.geometry.boundsHash.isSome || hasMeaningfulIdentity entry)

omit [DecidableEq Object] [BoundsHasher] in
/-- `element_at_path`. -/
def elementAtPath : AXElement → RefPath → ResolveReadContext →
    Except AdapterError (Option AXElement × ResolveReadContext)
  | current, [], context => .ok (some current, context)
  | current, index :: rest, context => do
    let context ← tree.remaining context
    match context.usage.claimNode with
    | none => .error (incompleteTraversal "path_node_budget" 0)
    | some usage =>
      let (role, context) ← tree.readRole { context with usage } current
      match tree.readChildAt context current role index with
      | (read, disabled, context) =>
        let context ← tree.remaining context
        if disabled then .error .permissionDenied
        else if !read.complete then .error (incompleteTraversal "path_children" 0)
        else
          let context : ResolveReadContext := { context with
            usage := context.usage.claimEdges (if read.elements.isEmpty then 0 else 1) }
          match read.elements.getLast? with
          | none => .ok (none, context)
          | some child => elementAtPath child rest context

omit [DecidableEq Object] [BoundsHasher] in
/-- `candidate_identity`. -/
def candidateIdentity (element : AXElement) (entry : RefEntry) (context : ResolveReadContext) :
    Except AdapterError (IdentityMatch × ResolveReadContext) := do
  let (read, context) ← readNode tree (identityRequirements entry) context element
  if read.invalidElement then return (.unknown, context)
  match read.evidence.role with
  | .known role =>
    if role = entry.identity.role then
      let identity ← tree.candidateMatch element entry read.evidence
      if identity = .unknown ∧ provisionalGeometryCandidate entry = true then
        return (.matched, context)
      else return (identity, context)
    else return (.noMatch, context)
  | .unknown => return (.unknown, context)
  | .absent => return (.noMatch, context)

/-- One root of `find_entry_by_path`. -/
def lookAtPath (entry : RefEntry) (root : AXElement) (state : SearchState) :
    Except AdapterError SearchState := do
  let context ← tree.remaining state.context
  let (candidate, context) ← elementAtPath tree root entry.scope.path context
  match candidate with
  | none => return { state with context }
  | some candidate =>
    let (identity, context) ← candidateIdentity tree candidate entry context
    let state := { state with context }
    match identity with
    | .matched => return { state with found := pushUnique tree state.found candidate }
    | .unknown => return state.markIncomplete (identityUnknown entry)
    | .noMatch => return state

/-- `find_entry_by_path`. -/
def findEntryByPath (roots : List AXElement) (entry : RefEntry) (sourceWindowVerified : Bool)
    (context : ResolveReadContext) : Except AdapterError AXElement := do
  let context ← tree.remaining context
  let state ← Except.untilStop (SearchState.stop entry) (lookAtPath tree entry) roots
    ⟨[], none, false, context⟩
  if state.stop entry then
    classifyCandidates tree state.found entry sourceWindowVerified state.context
  else
    match state.incomplete with
    | some error => .error error
    | none => classifyCandidates tree state.found entry sourceWindowVerified state.context

end

end

end AgentDesktop
