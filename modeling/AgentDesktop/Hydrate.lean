import AgentDesktop.GrantOrder
import AgentDesktop.Identity
import AgentDesktop.ResolveSpec
import AgentDesktop.Util.Forall2

/-!
# Refs for found elements

A search that hands out refs looks at each element it has found once more: the
element is located again through its preliminary entry, observed by itself, and
must still be what the query asks for. The entry of the ref is read off this
second look, and a new map of its own takes the refs.

What surrounds the second look – the deadline, the search for the element, the
observation – is given: for each match, whether time is left, and the tree that
was observed at its element.
-/

namespace AgentDesktop

/-- `ObservationRoot`. -/
inductive ObservationRoot
  | window (window : WindowInfo)
  /-- The element an entry names. -/
  | element (entry : RefEntry) (rootRef : Option String)

/-- `ObservationSource::from_root`. -/
def ObservationSource.fromRoot (root : ObservationRoot) (surface : SnapshotSurface) :
    ObservationSource :=
  match root with
  | .window info => .window info surface
  | .element entry rootRef => .element entry rootRef

/-- A tree, as it is observed at a root. -/
def ObservedTree.observedAt (tree : ObservedTree) (root : ObservationRoot)
    (surface : SnapshotSurface) : ObservedTree :=
  { tree with source := .fromRoot root surface }

/-- **What surrounds the second look at a match.** -/
structure Hydration where
  /-- Whether time is left. -/
  remaining : Except AppError Unit
  /-- The tree observed at the element, where the element was found and time was left. -/
  observed : Except AppError ObservedTree
  /-- Whether the observation ran into one of its limits. -/
  deterministicLimit : Bool

section

variable [BoundsHasher]

/-! ## Checks -/

/-- `anchor_missing`. -/
def anchorMissing (entry : RefEntry) : AdapterError :=
  (((AdapterError.new .staleRef
    "Selected locator lacks a verifiable identity or geometry anchor").withSuggestion
    "Use a locator that resolves to an element with stable identity or bounds").withDetails
    (.obj [("kind", .str "locator_selected_anchor_missing"),
      ("retryable", .bool false),
      ("role", .str entry.identity.role),
      ("path_len", .num entry.scope.path.length),
      ("has_identity", .bool (hasMeaningfulIdentity entry)),
      ("has_bounds", .bool entry.geometry.boundsHash.isSome)])).withDisposition .notDelivered

omit [BoundsHasher] in
/-- `changed_during_hydration`. -/
def changedDuringHydration : AdapterError :=
  ((AdapterError.new .staleRef "Selected locator changed during hydration").withSuggestion
    "Retry the locator against the current accessibility tree").withDisposition .notDelivered

omit [BoundsHasher] in
/-- `query_incomplete`. -/
def queryIncomplete (deterministic : Bool) (validation : LocatorResolution) : AdapterError :=
  (((AdapterError.timeout "Selected locator query could not be revalidated").withSuggestion
    "Retry against a stable subtree or use a narrower locator").withDetails
    (.obj [("kind", .str (if deterministic then "locator_selected_query_budget_limit"
        else "locator_selected_query_incomplete")),
      ("retryable", .bool !deterministic),
      ("selection_complete", .bool validation.info.selectionComplete),
      ("observed_matches", .num validation.info.totalMatches)])).withDisposition .notDelivered

omit [BoundsHasher] in
/-- What `evidence_incomplete` reports of a node. -/
def unknownEvidence (evidence : LocatorEvidence) : Json :=
  .obj [("role", .bool evidence.role.isUnknown),
    ("name", .bool evidence.name.isUnknown),
    ("description", .bool evidence.description.isUnknown),
    ("value", .bool evidence.value.isUnknown),
    ("identifiers", .bool !evidence.identifiers.complete),
    ("states", .bool evidence.states.isUnknown),
    ("bounds", .bool evidence.refEvidence.bounds.isUnknown),
    ("actions", .bool evidence.refEvidence.availableActions.isUnknown)]

omit [BoundsHasher] in
/-- `evidence_incomplete`. -/
def evidenceIncomplete (tree : ObservedTree) (node : Option ObservedNode) (query : LocatorQuery) :
    AdapterError :=
  ((AdapterError.timeout "Selected locator evidence was incomplete").withDetails
    (.obj [("kind", .str "locator_selected_evidence_incomplete"),
      ("retryable", .bool true),
      ("structurally_complete", .bool tree.structurallyComplete),
      ("root_count", .num tree.roots.length),
      ("required", .obj [("name", .bool query.identity.name.isSome),
        ("description", .bool query.identity.description.isSome),
        ("value", .bool query.identity.value.isSome),
        ("identifiers", .bool query.identity.nativeId.isSome),
        ("states", .bool true),
        ("bounds", .bool true),
        ("actions", .bool true)]),
      ("unknown", (node.map (fun node => unknownEvidence node.evidence)).getD .null)])).withDisposition
    .notDelivered

omit [BoundsHasher] in
/-- `evidence_complete`. -/
def evidenceComplete (query : LocatorQuery) (node : ObservedNode) : Bool :=
  !node.evidence.role.isUnknown
    && (query.identity.name.isNone || !node.evidence.name.isUnknown)
    && (query.identity.description.isNone || !node.evidence.description.isUnknown)
    && (query.identity.value.isNone || !node.evidence.value.isUnknown)
    && (query.identity.nativeId.isNone || node.evidence.identifiers.complete)
    && !node.evidence.states.isUnknown
    && !node.evidence.refEvidence.bounds.isUnknown
    && (addressability node.evidence).2

/-- `anchor_matches`. -/
def anchorMatches (preliminary : RefEntry) (node : ObservedNode) : Bool :=
  let actualBoundsHash := node.evidence.refEvidence.bounds.known?.bind Rect.boundsHash
  if hasMeaningfulIdentity preliminary then
    match identityMatch preliminary node.evidence.name node.evidence.value
      node.evidence.description node.evidence.identifiers with
    | .matched => true
    | .noMatch => false
    | .unknown =>
      if preliminary.identity.retainedObject.isSome then false
      else preliminary.geometry.boundsHash.all (fun expected =>
        actualBoundsHash == some expected)
  else preliminary.geometry.boundsHash.isSome
    && preliminary.geometry.boundsHash == actualBoundsHash

omit [BoundsHasher] in
/-- `preserve_verified_identity`: what the second look did not read is kept. -/
def preserveVerifiedIdentity (preliminary : RefEntry) (node : ObservedNode) (entry : RefEntry) :
    RefEntry :=
  let name := if node.evidence.name.isUnknown then preliminary.identity.name
    else entry.identity.name
  let description := if node.evidence.description.isUnknown then preliminary.identity.description
    else entry.identity.description
  let value :=
    if node.evidence.value.isUnknown && !Roles.isMutableValueRole entry.identity.role then
      preliminary.identity.value
    else entry.identity.value
  let nativeId := if !node.evidence.identifiers.complete then preliminary.identity.nativeId
    else entry.identity.nativeId
  { entry with identity := { entry.identity with name, description, value, nativeId } }

/-! ## The second look -/

omit [BoundsHasher] in
/-- The root of the second look: there is one, and its evidence is complete. -/
def hydratedRoot (query : LocatorQuery) (hydrated : ObservedTree) :
    Except AppError ObservedNode :=
  match hydrated.roots with
  | [rootIndex] =>
    match hydrated.nodes[rootIndex]? with
    | none => .error (.adapter (.internal "hydrated locator root is missing"))
    | some node =>
      if evidenceComplete query node then .ok node
      else .error (.adapter (evidenceIncomplete hydrated (some node) query))
  | _ => .error (.adapter (evidenceIncomplete hydrated none query))

/-- The entry of the second look: it is still the same element, and it can be found again. -/
def hydratedEntry (query : LocatorQuery) (preliminary : RefEntry) (hydrated : ObservedTree)
    (node : ObservedNode) : Except AppError RefEntry :=
  if node.evidence.role.known? != some preliminary.identity.role
      || !anchorMatches preliminary node then
    .error (.adapter changedDuringHydration)
  else
    let entry := preserveVerifiedIdentity preliminary node
      (refEntryOf node hydrated.source query)
    if !hasMeaningfulIdentity entry && entry.geometry.boundsHash.isNone then
      .error (.adapter (anchorMissing entry))
    else .ok entry

/-- What is reported of a match after the second look. -/
def LocatorMatchData.hydrated (data : LocatorMatchData) (entry : RefEntry) (node : ObservedNode) :
    LocatorMatchData :=
  { data with
    role := entry.identity.role
    name := node.evidence.name.meaningfulString.getD ""
    value := node.evidence.value.meaningfulString
    states := entry.capabilities.states
    interactive := isRefAbleRoleActions entry.identity.role entry.capabilities.availableActions }

/-- The ref of a match that can be acted on. -/
def allocateHydrated (data : LocatorMatchData) (entry : RefEntry) (refmap : RefMap) :
    Except AppError (LocatorMatchData × RefMap) :=
  if data.interactive then
    (refmap.tryAllocate entry).map (fun result => ({ data with refId := some result.1 }, result.2))
  else .ok (data, refmap)

variable [UnicodeLowercase]

/-- The query still finds the root of the second look first. -/
def revalidateHydrated (query : LocatorQuery) (request : LocatorResolveRequest)
    (deterministic : Bool) (hydrated : ObservedTree) (node : ObservedNode) :
    Except AppError Unit := do
  let validation ← (evaluateLocatorTree hydrated query
    { request with selection := .first, materialization := .none }).mapError AppError.adapter
  let authoritative := validation.info.selectionComplete
    && validation.selected.head?.any (fun candidate =>
      candidate.documentOrder == node.documentOrder)
  if !authoritative then
    if validation.info.complete then throw (.adapter changedDuringHydration)
    else throw (.adapter (queryIncomplete deterministic validation))

/-- One match of `selected_matches`. -/
def hydrateMatch (query : LocatorQuery) (request : LocatorResolveRequest)
    (surroundings : Hydration) (found : LocatorMatch) (refmap : RefMap) :
    Except AppError (LocatorMatch × RefMap) := do
  surroundings.remaining
  if !hasMeaningfulIdentity found.entry && found.entry.geometry.boundsHash.isNone then
    throw (.adapter (anchorMissing found.entry))
  let tree ← surroundings.observed
  let hydrated := tree.observedAt (.element found.entry none) .window
  let node ← hydratedRoot query hydrated
  let entry ← hydratedEntry query found.entry hydrated node
  revalidateHydrated query request surroundings.deterministicLimit hydrated node
  let (data, refmap) ← allocateHydrated (found.data.hydrated entry node) entry refmap
  return ({ found with data, entry }, refmap)

/-- The loop of `selected_matches`, from the match with an index on. -/
def hydrateMatches (query : LocatorQuery) (request : LocatorResolveRequest)
    (surroundings : ℕ → Hydration) :
    ℕ → List LocatorMatch → RefMap → Except AppError (List LocatorMatch × RefMap)
  | _, [], refmap => .ok ([], refmap)
  | index, found :: rest, refmap => do
    let (found, refmap) ← hydrateMatch query request (surroundings index) found refmap
    let (rest, refmap) ← hydrateMatches query request surroundings (index + 1) rest refmap
    return (found :: rest, refmap)

/-- `selected_matches`. -/
def selectedMatches (query : LocatorQuery) (request : LocatorResolveRequest)
    (surroundings : ℕ → Hydration) (resolution : LocatorResolution) :
    Except AppError LocatorResolution := do
  let (selected, refmap) ←
    hydrateMatches query request surroundings 0 resolution.selected .new
  return { resolution with selected, refmap := some refmap }

/-- `resolve_query_attempt`, on the tree that was observed. -/
def resolveQueryAttempt (query : LocatorQuery) (request : LocatorResolveRequest)
    (tree : ObservedTree) (surroundings : ℕ → Hydration) : Except AppError LocatorResolution := do
  let materialization := match request.materialization with
    | .selectedMatches => .none
    | other => other
  let resolution ← (evaluateLocatorTree tree query { request with materialization }).mapError
    AppError.adapter
  if request.materialization = .selectedMatches then
    selectedMatches query request surroundings resolution
  else return resolution

/-! ## What the second look records -/

/-- Whether the root of the second look is given a ref. -/
def ObservedNode.interactive (node : ObservedNode) : Bool :=
  isRefAbleRoleActions (node.evidence.role.known?.getD "unknown")
    (node.evidence.refEvidence.availableActions.known?.getD [])

/-- **Where a match is given a ref**: the path of its second look, if that can be acted on. -/
def hydratedPath (query : LocatorQuery) (surroundings : Hydration) (found : LocatorMatch) :
    Option RefPath := do
  let tree ← surroundings.observed.toOption
  let node ← (hydratedRoot query (tree.observedAt (.element found.entry none) .window)).toOption
  if node.interactive then some (found.entry.scope.path ++ node.path) else none

/-- Where the matches from an index on are given refs, in order. -/
def hydratedPaths (query : LocatorQuery) (surroundings : ℕ → Hydration) :
    ℕ → List LocatorMatch → List RefPath
  | _, [] => []
  | index, found :: rest =>
    (hydratedPath query (surroundings index) found).toList
      ++ hydratedPaths query surroundings (index + 1) rest

/-- **A recorded entry continues a preliminary one**: it was found in the same window of the same
process, in the same scope. -/
structure RefEntry.Continues (entry preliminary : RefEntry) : Prop where
  process : entry.process = preliminary.process
  /-- The window. -/
  source : entry.source = preliminary.source
  /-- The ref the observation was rooted at. -/
  rootRef : entry.scope.rootRef = preliminary.scope.rootRef

omit [UnicodeLowercase] in
theorem hydratedEntry_continues {query : LocatorQuery} {preliminary entry : RefEntry}
    {tree : ObservedTree} {node : ObservedNode}
    (h : hydratedEntry query preliminary (tree.observedAt (.element preliminary none) .window) node
      = .ok entry) :
    entry.Continues preliminary ∧ entry.scope.path = preliminary.scope.path ++ node.path
      ∧ isRefAbleRoleActions entry.identity.role entry.capabilities.availableActions
        = node.interactive := by
  unfold hydratedEntry at h
  split_ifs at h
  dsimp only at h
  split_ifs at h
  cases h
  exact ⟨⟨rfl, rfl, rfl⟩, rfl, rfl⟩

/-- **One match**: the map takes the entry of the second look, where that can be acted on. -/
theorem hydrateMatch_allocateAll {query : LocatorQuery} {request : LocatorResolveRequest}
    {surroundings : Hydration} {found found' : LocatorMatch} {refmap refmap' : RefMap}
    (h : hydrateMatch query request surroundings found refmap = .ok (found', refmap')) :
    ∃ entries, refmap.allocateAll entries = .ok refmap'
      ∧ entries.map (fun entry => entry.scope.path)
        = (hydratedPath query surroundings found).toList
      ∧ ∀ entry ∈ entries, entry.Continues found.entry := by
  unfold hydrateMatch at h
  obtain ⟨⟨⟩, -, h⟩ := Except.bind_eq_ok_iff.mp h
  split_ifs at h with hanchor
  · obtain ⟨_, hthrow, -⟩ := Except.bind_eq_ok_iff.mp h
    cases hthrow
  obtain ⟨tree, htree, h⟩ := Except.bind_eq_ok_iff.mp h
  obtain ⟨node, hnode, h⟩ := Except.bind_eq_ok_iff.mp h
  obtain ⟨entry, hentry, h⟩ := Except.bind_eq_ok_iff.mp h
  obtain ⟨⟨⟩, -, h⟩ := Except.bind_eq_ok_iff.mp h
  obtain ⟨⟨data, refmap₁⟩, hallocate, h⟩ := Except.bind_eq_ok_iff.mp h
  cases h
  obtain ⟨hcontinues, hpath, hinteractive⟩ := hydratedEntry_continues hentry
  have hwhere : hydratedPath query surroundings found
      = if node.interactive then some (found.entry.scope.path ++ node.path) else none := by
    unfold hydratedPath
    rw [htree]
    show (hydratedRoot query (tree.observedAt (.element found.entry none) .window)).toOption >>= _
      = _
    rw [hnode]
    rfl
  unfold allocateHydrated LocatorMatchData.hydrated at hallocate
  rw [hwhere]
  dsimp only at hallocate
  rw [hinteractive] at hallocate
  split_ifs at hallocate ⊢
  · obtain ⟨⟨refId, refmap₂⟩, htry, heq⟩ := Except.map_eq_ok_iff.mp hallocate
    cases heq
    obtain ⟨_, -, hvalidated⟩ := Except.bind_eq_ok_iff.mp htry
    refine ⟨[entry], ?_, by rw [List.map_singleton, hpath]; rfl, by simpa using hcontinues⟩
    exact (RefMap.allocateAll_singleton refmap entry).trans
      (Except.map_eq_ok_iff.mpr ⟨_, hvalidated, rfl⟩)
  · cases hallocate
    exact ⟨[], rfl, rfl, fun _ h => absurd h List.not_mem_nil⟩

/-- **All matches**: the map takes the entries in the order of the matches. -/
theorem hydrateMatches_allocateAll {query : LocatorQuery} {request : LocatorResolveRequest}
    {surroundings : ℕ → Hydration} {index : ℕ} {selected selected' : List LocatorMatch}
    {refmap refmap' : RefMap}
    (h : hydrateMatches query request surroundings index selected refmap
      = .ok (selected', refmap')) :
    ∃ entries, refmap.allocateAll entries = .ok refmap'
      ∧ entries.map (fun entry => entry.scope.path)
        = hydratedPaths query surroundings index selected
      ∧ ∀ entry ∈ entries, ∃ found ∈ selected, entry.Continues found.entry := by
  induction selected generalizing index refmap selected' with
  | nil =>
    cases h
    exact ⟨[], rfl, rfl, fun _ h => absurd h List.not_mem_nil⟩
  | cons found rest ih =>
    obtain ⟨⟨found', refmap₁⟩, hfound, h⟩ := Except.bind_eq_ok_iff.mp h
    obtain ⟨⟨rest', refmap₂⟩, hrest, h⟩ := Except.bind_eq_ok_iff.mp h
    cases h
    obtain ⟨entries, hentries, hpaths, hcontinues⟩ := hydrateMatch_allocateAll hfound
    obtain ⟨others, hothers, hotherPaths, hotherContinues⟩ := ih hrest
    refine ⟨entries ++ others, ?_, ?_, fun entry hmem => ?_⟩
    · rw [RefMap.allocateAll_append]
      exact Except.bind_eq_ok_iff.mpr ⟨refmap₁, hentries, hothers⟩
    · rw [List.map_append, hpaths, hotherPaths]
      rfl
    · rcases List.mem_append.mp hmem with hmem | hmem
      · exact ⟨found, List.mem_cons_self, hcontinues entry hmem⟩
      · obtain ⟨other, hother, hentry⟩ := hotherContinues entry hmem
        exact ⟨other, List.mem_cons_of_mem _ hother, hentry⟩

/-! ## What a search reports -/

/-- **An evaluation that gives no refs** has no map, and reports the entries of nodes of the
tree. -/
theorem evaluateLocatorTree_unmaterialized {tree : ObservedTree} {query : LocatorQuery}
    {request : LocatorResolveRequest} {resolution : LocatorResolution}
    (h : evaluateLocatorTree tree query { request with materialization := .none }
      = .ok resolution) :
    resolution.refmap = none ∧ ∀ found ∈ resolution.selected, ∃ node normalized,
      found.entry = refEntryOf node tree.source normalized := by
  unfold evaluateLocatorTree at h
  obtain ⟨⟨⟩, -, h⟩ := Except.bind_eq_ok_iff.mp h
  obtain ⟨⟨⟩, -, h⟩ := Except.bind_eq_ok_iff.mp h
  obtain ⟨⟨⟩, -, h⟩ := Except.bind_eq_ok_iff.mp h
  obtain ⟨⟨tree', refmap, materialized⟩, hout, h⟩ := Except.bind_eq_ok_iff.mp h
  obtain ⟨selected, hselected, h⟩ := Except.bind_eq_ok_iff.mp h
  obtain ⟨⟨⟩, -, h⟩ := Except.bind_eq_ok_iff.mp h
  obtain rfl := Except.pure_eq_ok_iff.mp h
  cases hout
  refine ⟨rfl, fun found hfound => ?_⟩
  obtain ⟨index, -, hindex⟩ := (Except.mapM_eq_ok_iff.mp hselected).exists_left hfound
  unfold locatorMatch at hindex
  split at hindex
  · cases hindex
    exact ⟨_, _, rfl⟩
  · cases hindex
  · cases hindex

/-- **An attempt that hands out refs**: the tree was evaluated, and each match was looked at
again. -/
theorem resolveQueryAttempt_refmap {tree : ObservedTree} {query : LocatorQuery}
    {request : LocatorResolveRequest} {surroundings : ℕ → Hydration}
    {resolution : LocatorResolution} {refmap : RefMap}
    (hrequest : request.materialization ≠ .fullRefMap)
    (h : resolveQueryAttempt query request tree surroundings = .ok resolution)
    (hrefmap : resolution.refmap = some refmap) :
    ∃ evaluated selected, evaluateLocatorTree tree query { request with materialization := .none }
        = .ok evaluated
      ∧ hydrateMatches query request surroundings 0 evaluated.selected .new
        = .ok (selected, refmap) := by
  unfold resolveQueryAttempt at h
  obtain ⟨evaluated, hevaluated, h⟩ := Except.bind_eq_ok_iff.mp h
  have hevaluate : evaluateLocatorTree tree query { request with materialization := .none }
      = .ok evaluated := by
    cases hmaterialization : request.materialization with
    | fullRefMap => exact absurd hmaterialization hrequest
    | none | selectedMatches =>
      rw [hmaterialization] at hevaluated
      exact Except.mapError_eq_ok_iff.mp hevaluated
  split_ifs at h
  · obtain ⟨⟨selected, refmap'⟩, hmatches, h⟩ := Except.bind_eq_ok_iff.mp h
    cases h
    cases hrefmap
    exact ⟨evaluated, selected, hevaluate, hmatches⟩
  · -- without the second look there is no map
    cases h
    rw [(evaluateLocatorTree_unmaterialized hevaluate).1] at hrefmap
    cases hrefmap

end

end AgentDesktop
