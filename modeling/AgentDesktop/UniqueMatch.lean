import AgentDesktop.HydrateSound
import AgentDesktop.Reference

/-!
# A match that is the only one

A search that must find one element succeeds only when one node matches, nothing is
missing from the tree, and no verdict is open. Then the tree is copied place by
place into every completion, with the verdicts it has, so the node stays the only
one that matches.

The search itself is tried again while what it saw was changing. It returns a
selection that is not complete only where the request said that this will do.
-/

namespace AgentDesktop

/-! ## Completions with their roots -/

/-- **A completion of a tree with its roots**: roots are added only to a tree that is not
complete. -/
structure RootedCompletion (tree tree' : ObservedTree) extends Completion tree tree' where
  /-- The roots stay, in their order. -/
  roots : (tree.roots.map image).Sublist tree'.roots
  /-- A complete tree keeps exactly its roots. -/
  closedRoots : tree.structurallyComplete = true → tree'.roots = tree.roots.map image

/-- Every tree completes itself. -/
def RootedCompletion.refl (tree : ObservedTree) : RootedCompletion tree tree where
  toCompletion := Completion.refl tree
  roots := by
    show (tree.roots.map id).Sublist tree.roots
    rw [List.map_id]
  closedRoots _ := (List.map_id tree.roots).symm

/-- **A complete tree is copied place by place** into each of its completions. -/
theorem RootedCompletion.copied_of_complete {tree tree' : ObservedTree}
    (h : RootedCompletion tree tree') (hcomplete : tree.structurallyComplete = true) :
    tree'.nodes.length = tree.nodes.length ∧ ∀ n < tree.nodes.length, h.image n = n := by
  have hlaid := tree'.laid
  rw [h.closedRoots hcomplete] at hlaid
  have hcopied := tree.laid.copied hlaid (fun n _ hn => by
    have hget : tree.nodes[n]? = some tree.nodes[n] := List.getElem?_eq_getElem hn
    obtain ⟨node', hget', hnode⟩ := h.completes n _ hget
    have hfull := ObservedTree.subtreeComplete_of_structurallyComplete hcomplete hn
    rw [subtreeCompleteAt_of_getElem? hget] at hfull
    rw [childrenAt_of_getElem? hget, childrenAt_of_getElem? hget']
    exact hnode.closed hfull)
  exact ⟨hcopied.1, fun n hn => hcopied.2 n (Nat.zero_le n) hn⟩

/-! ## Cardinality -/

/-- `LocatorCardinality`. -/
inductive LocatorCardinality
  /-- Nothing matches. -/
  | zero
  /-- One node matches. -/
  | one
  /-- More than one match. -/
  | many (observed : ℕ) (exact' : Bool)
  /-- At most one was seen to match, and there may be more. -/
  | incomplete (observed : ℕ)
  deriving DecidableEq

/-- `classify_query_result`. -/
def classifyQueryResult (resolution : LocatorResolution) : LocatorCardinality :=
  let observed := resolution.info.totalMatches
  if 2 ≤ observed then .many observed resolution.info.complete
  else if !resolution.info.complete then .incomplete observed
  else if observed = 0 then .zero
  else .one

/-- A candidate in the report of an ambiguous query. -/
def candidateReport (candidate : LocatorMatch) : Json :=
  .obj [("document_order", .num candidate.documentOrder), ("name", .str candidate.data.name),
    ("ref_id", Json.ofOption candidate.data.refId), ("role", .str candidate.data.role)]

/-- `require_unique`. -/
def requireUnique (resolution : LocatorResolution) : Except AppError LocatorMatch :=
  match classifyQueryResult resolution with
  | .zero =>
    .error (.adapter ((AdapterError.new .elementNotFound
      "Locator query matched no elements").withSuggestion
      "Use a broader locator or inspect roles_present"))
  | .one =>
    match resolution.selected.head? with
    | some found => .ok found
    | none => .error (.adapter (.internal "unique locator resolution did not retain its match"))
  | .many observed exact' =>
    .error (.adapter ((AdapterError.ambiguousTarget
      ("Locator query matched at least " ++ toString observed ++ " elements")).withDetails
      (.obj [("candidate_count", .num observed), ("candidate_count_exact", .bool exact'),
        ("candidates", .arr ((resolution.selected.take 10).map candidateReport))])))
  | .incomplete observed =>
    .error (.adapter ((AdapterError.timeout
      "Locator traversal could not prove a unique result").withDetails
      (.obj [("kind", .str "locator_incomplete"), ("observed_matches", .num observed)])))

/-- **What is required of a unique match**: the answer is complete, one node matches, and the match
is the first that was selected. -/
theorem requireUnique_eq_ok {resolution : LocatorResolution} {found : LocatorMatch}
    (h : requireUnique resolution = .ok found) :
    resolution.info.complete = true ∧ resolution.info.totalMatches = 1
      ∧ found ∈ resolution.selected := by
  unfold requireUnique at h
  split at h
  · nomatch h
  · next hone =>
    split at h
    · next first hfirst =>
      obtain rfl := Except.ok.inj h
      unfold classifyQueryResult at hone
      dsimp only at hone
      split_ifs at hone with hmany hincomplete hzero
      refine ⟨by simpa using hincomplete, ?_, List.mem_of_head? hfirst⟩
      omega
    · nomatch h
  · nomatch h
  · nomatch h

/-! ## Trying again

The attempts of a search are a parameter, in the order in which they are made. What is returned
comes from one of them, and from one that was complete where the answer has to be. -/

/-- What a traversal counted that tells whether it was cut off. -/
structure TraversalStats where
  /-- How often the limit on nodes was hit. -/
  nodeHits : ℕ
  edgeHits : ℕ
  childHits : ℕ
  /-- The one on the labels of children. -/
  childLabelHits : ℕ
  textHits : ℕ
  depthHits : ℕ
  /-- How often a list of children changed while it was read. -/
  childCountChanges : ℕ
  /-- How often a read could not be completed. -/
  cannotComplete : ℕ
  /-- How often it ran out of time. -/
  deadlineExhausted : ℕ
  deriving DecidableEq

namespace TraversalStats

/-- `has_deterministic_limit`. -/
def hasDeterministicLimit (stats : TraversalStats) : Bool :=
  0 < stats.nodeHits || 0 < stats.edgeHits || 0 < stats.childHits || 0 < stats.textHits
    || 0 < stats.depthHits

/-- `has_transient_incompleteness`. -/
def hasTransientIncompleteness (stats : TraversalStats) : Bool :=
  0 < stats.childCountChanges || 0 < stats.cannotComplete || 0 < stats.deadlineExhausted

/-- The limits of a traversal, as they are reported. -/
def limitsReport (stats : TraversalStats) : Json :=
  .obj [("node_hits", .num stats.nodeHits), ("edge_hits", .num stats.edgeHits),
    ("child_hits", .num stats.childHits), ("child_label_hits", .num stats.childLabelHits),
    ("text_hits", .num stats.textHits), ("depth_hits", .num stats.depthHits),
    ("child_count_changes", .num stats.childCountChanges)]

end TraversalStats

/-- **What surrounds an attempt of a search.** -/
structure QueryAttempt where
  /-- Whether time is left before it. -/
  timeLeft : Bool
  /-- The tree that is observed. -/
  observed : Except AppError ObservedTree
  /-- The second look at each match. -/
  surroundings : ℕ → Hydration
  /-- What the traversal counted. -/
  stats : TraversalStats
  /-- Whether time has run out after it. -/
  expired : Bool

/-- `retryable_error`. -/
def retryableError (error : AdapterError) : Bool :=
  error.permitsRetryByDefault
    && (match error.code with
      | .staleRef | .ambiguousTarget | .elementNotFound | .timeout | .appUnresponsive => true
      | _ => false)

/-- `requires_authoritative_result`. -/
def requiresAuthoritativeResult (request : LocatorResolveRequest) : Bool :=
  request.materialization = .selectedMatches
    || (match request.selection with
      | .all _ | .count => false
      | _ => true)

/-- `unknown_incomplete_error`. -/
def unknownIncompleteError (resolution : LocatorResolution) : AdapterError :=
  (((AdapterError.timeout "Locator traversal returned incomplete evidence").withSuggestion
    "Retry with a narrower locator or a larger observation budget").withDetails
    (.obj [("kind", .str "locator_incomplete"), ("retryable", .bool false),
      ("observed_matches", .num resolution.info.totalMatches)])).withDisposition .notDelivered

/-- `deterministic_limit_error`. -/
def deterministicLimitError (resolution : LocatorResolution) (stats : TraversalStats) :
    AdapterError :=
  (((AdapterError.new .timeout
    "Locator traversal reached a deterministic observation budget").withSuggestion
    "Use a narrower locator, a shallower scope, or increase the matching observation budget").withDetails
    (.obj [("kind", .str "locator_budget_limit"), ("retryable", .bool false),
      ("observed_matches", .num resolution.info.totalMatches),
      ("limits", stats.limitsReport)])).withDisposition .notDelivered

/-- `incomplete_evidence`. -/
def incompleteEvidence (resolution : LocatorResolution) (stats : TraversalStats) : Json :=
  .obj [("observed_matches", .num resolution.info.totalMatches),
    ("child_count_changes", .num stats.childCountChanges),
    ("cannot_complete", .num stats.cannotComplete),
    ("deadline_exhausted", .num stats.deadlineExhausted)]

/-- `transient_incomplete_timeout`. -/
def transientIncompleteTimeout (timeoutMs : ℕ) (lastIncomplete : Option Json) : AdapterError :=
  (((AdapterError.timeout
    "Locator observation did not stabilize before its deadline").withSuggestion
    "Retry with a larger timeout or narrow the locator to a more stable subtree").withDetails
    (.obj [("kind", .str "locator_transient_incomplete"), ("retryable", .bool true),
      ("timeout_ms", .num timeoutMs),
      ("last_incomplete", lastIncomplete.getD .null)])).withDisposition .notDelivered

section

variable [UnicodeLowercase] [BoundsHasher]

/-- The loop of `resolve_query`, over the attempts that are made; nothing where it goes on after
them. -/
def resolveAttempts (query : LocatorQuery) (request : LocatorResolveRequest) (timeoutMs : ℕ) :
    Option Json → Bool → List QueryAttempt → Option (Except AppError LocatorResolution)
  | _, _, [] => none
  | lastIncomplete, selectionRetryUsed, attempt :: rest =>
    if !attempt.timeLeft then
      some (.error (.adapter (transientIncompleteTimeout timeoutMs lastIncomplete)))
    else
      match attempt.observed.bind
        (fun tree => resolveQueryAttempt query request tree attempt.surroundings) with
      | .ok resolution =>
        if !resolution.info.selectionComplete && attempt.stats.hasDeterministicLimit then
          some (.error (.adapter (deterministicLimitError resolution attempt.stats)))
        else if !resolution.info.selectionComplete
            && attempt.stats.hasTransientIncompleteness then
          let lastIncomplete := some (incompleteEvidence resolution attempt.stats)
          if attempt.expired then
            some (.error (.adapter (transientIncompleteTimeout timeoutMs lastIncomplete)))
          else resolveAttempts query request timeoutMs lastIncomplete selectionRetryUsed rest
        else if !resolution.info.selectionComplete && requiresAuthoritativeResult request then
          some (.error (.adapter (unknownIncompleteError resolution)))
        else some (.ok resolution)
      | .error (.adapter error) =>
        -- the second look is tried again once
        if request.materialization = .selectedMatches && retryableError error
            && !selectionRetryUsed && !attempt.expired then
          let lastIncomplete := Json.obj [("phase", .str "hydration"),
            ("code", .str error.code.asStr), ("details", error.details.getD .null)]
          resolveAttempts query request timeoutMs (some lastIncomplete) true rest
        else some (.error (.adapter error))
      | .error error => some (.error error)

/-- `resolve_query`. -/
def resolveQuery (query : LocatorQuery) (request : LocatorResolveRequest) (timeoutMs : ℕ)
    (attempts : List QueryAttempt) : Option (Except AppError LocatorResolution) :=
  match query.validateQuery, validateRequest request with
  | .error error, _ | .ok (), .error error => some (.error (.adapter error))
  | .ok (), .ok () => resolveAttempts query request timeoutMs none false attempts

/-! ## What an attempt returns -/

/-- **An answer is that of one of the attempts**, and it is complete where it has to be. -/
theorem resolveAttempts_eq_ok {query : LocatorQuery} {request : LocatorResolveRequest}
    {timeoutMs : ℕ} {lastIncomplete : Option Json} {selectionRetryUsed : Bool}
    {attempts : List QueryAttempt} {resolution : LocatorResolution}
    (h : resolveAttempts query request timeoutMs lastIncomplete selectionRetryUsed attempts
      = some (.ok resolution)) :
    (∃ attempt ∈ attempts, ∃ tree, attempt.observed = .ok tree
        ∧ resolveQueryAttempt query request tree attempt.surroundings = .ok resolution)
      ∧ (resolution.info.selectionComplete = false →
        requiresAuthoritativeResult request = false) := by
  induction attempts generalizing lastIncomplete selectionRetryUsed with
  | nil => nomatch h
  | cons attempt rest ih =>
    have hlater : ∀ {lastIncomplete : Option Json} {selectionRetryUsed : Bool},
        resolveAttempts query request timeoutMs lastIncomplete selectionRetryUsed rest
          = some (.ok resolution) →
        (∃ attempt' ∈ attempt :: rest, ∃ tree, attempt'.observed = .ok tree
            ∧ resolveQueryAttempt query request tree attempt'.surroundings = .ok resolution)
          ∧ (resolution.info.selectionComplete = false →
            requiresAuthoritativeResult request = false) := by
      intro lastIncomplete selectionRetryUsed hrest
      obtain ⟨⟨attempt', hmem, hattempt⟩, hcomplete⟩ := ih hrest
      exact ⟨⟨attempt', List.mem_cons_of_mem _ hmem, hattempt⟩, hcomplete⟩
    unfold resolveAttempts at h
    split at h
    · nomatch h
    split at h
    · next found hfound =>
      -- the attempt has an answer, which counts unless it is incomplete and must not be
      dsimp only at h
      split at h
      · nomatch h
      split at h
      · split at h
        · nomatch h
        · exact hlater h
      split at h
      · nomatch h
      next hauthoritative =>
      obtain rfl := Except.ok.inj (Option.some.inj h)
      obtain ⟨tree, htree, hattempt⟩ := Except.bind_eq_ok_iff.mp hfound
      refine ⟨⟨attempt, List.mem_cons_self, tree, htree, hattempt⟩, fun hincomplete => ?_⟩
      rw [hincomplete] at hauthoritative
      simpa using hauthoritative
    · -- the attempt failed, and may be retried
      split at h
      · exact hlater h
      · nomatch h
    · nomatch h

omit [UnicodeLowercase] [BoundsHasher] in
theorem requiresAuthoritativeResult_eq_false {request : LocatorResolveRequest}
    (h : requiresAuthoritativeResult request = false) :
    request.materialization ≠ .selectedMatches
      ∧ (request.selection = .count ∨ ∃ limit, request.selection = .all limit) := by
  unfold requiresAuthoritativeResult at h
  rw [Bool.or_eq_false_iff] at h
  refine ⟨of_decide_eq_false h.1, ?_⟩
  cases hselection : request.selection with
  | count => exact Or.inl rfl
  | all limit => exact Or.inr ⟨limit, rfl⟩
  | strict | first | last | nth =>
    rw [hselection] at h
    nomatch h.2

theorem documentOrder_hydrateMatch {query : LocatorQuery} {request : LocatorResolveRequest}
    {surroundings : Hydration} {found found' : LocatorMatch} {refmap refmap' : RefMap}
    (h : hydrateMatch query request surroundings found refmap = .ok (found', refmap')) :
    found'.documentOrder = found.documentOrder := by
  unfold hydrateMatch at h
  obtain ⟨⟨⟩, -, h⟩ := Except.bind_eq_ok_iff.mp h
  split_ifs at h
  · obtain ⟨_, hthrow, -⟩ := Except.bind_eq_ok_iff.mp h
    nomatch hthrow
  obtain ⟨tree, -, h⟩ := Except.bind_eq_ok_iff.mp h
  obtain ⟨node, -, h⟩ := Except.bind_eq_ok_iff.mp h
  obtain ⟨entry, -, h⟩ := Except.bind_eq_ok_iff.mp h
  obtain ⟨⟨⟩, -, h⟩ := Except.bind_eq_ok_iff.mp h
  obtain ⟨⟨data, refmap₁⟩, -, h⟩ := Except.bind_eq_ok_iff.mp h
  obtain ⟨rfl, -⟩ := Prod.mk.inj (Except.ok.inj h)
  rfl

theorem documentOrder_hydrateMatches {query : LocatorQuery} {request : LocatorResolveRequest}
    {surroundings : ℕ → Hydration} {index : ℕ} {selected selected' : List LocatorMatch}
    {refmap refmap' : RefMap}
    (h : hydrateMatches query request surroundings index selected refmap
      = .ok (selected', refmap')) :
    selected'.map LocatorMatch.documentOrder = selected.map LocatorMatch.documentOrder := by
  induction selected generalizing index refmap selected' with
  | nil =>
    obtain ⟨rfl, -⟩ := Prod.mk.inj (Except.ok.inj h)
    rfl
  | cons found rest ih =>
    obtain ⟨⟨found', refmap₁⟩, hfound, h⟩ := Except.bind_eq_ok_iff.mp h
    obtain ⟨⟨rest', refmap₂⟩, hrest, h⟩ := Except.bind_eq_ok_iff.mp h
    obtain ⟨rfl, rfl⟩ := Prod.mk.inj (Except.ok.inj h)
    rw [List.map_cons, List.map_cons, documentOrder_hydrateMatch hfound, ih hrest]

theorem selectedMatches_keeps {query : LocatorQuery} {request : LocatorResolveRequest}
    {surroundings : ℕ → Hydration} {resolution resolution' : LocatorResolution}
    (h : selectedMatches query request surroundings resolution = .ok resolution') :
    resolution'.info = resolution.info
      ∧ resolution'.selected.map LocatorMatch.documentOrder
        = resolution.selected.map LocatorMatch.documentOrder := by
  unfold selectedMatches at h
  obtain ⟨⟨selected, refmap⟩, hmatches, h⟩ := Except.bind_eq_ok_iff.mp h
  obtain rfl := Except.ok.inj h
  exact ⟨rfl, documentOrder_hydrateMatches hmatches⟩

/-- **What an attempt reports of the tree**: the places of the selected matches, how many there
are, and whether the answer is complete. -/
theorem resolveQueryAttempt_resolved {query : LocatorQuery} {request : LocatorResolveRequest}
    {tree : ObservedTree} {surroundings : ℕ → Hydration} {resolution : LocatorResolution}
    (h : resolveQueryAttempt query request tree surroundings = .ok resolution) :
    resolution.selected.map LocatorMatch.documentOrder
        = (selectedIndices (matchedIndices tree query) request.selection).1
      ∧ resolution.info.totalMatches = (matchedIndices tree query).length
      ∧ (resolution.info.complete = true →
        tree.structurallyComplete = true ∧ MatchVerdict.unknown ∉ verdictsOf tree query) := by
  unfold resolveQueryAttempt at h
  obtain ⟨evaluated, hevaluated, h⟩ := Except.bind_eq_ok_iff.mp h
  have hresolved := evaluateLocatorTree_resolved (Except.mapError_eq_ok_iff.mp hevaluated)
  split_ifs at h
  · obtain ⟨hinfo, hplaces⟩ := selectedMatches_keeps h
    rw [hinfo, hplaces]
    exact ⟨hresolved.selected, hresolved.total, hresolved.complete⟩
  · obtain rfl := Except.ok.inj h
    exact ⟨hresolved.selected, hresolved.total, hresolved.complete⟩

omit [BoundsHasher] in
/-- **The only match stays the only one.** Where one node of a tree matches, nothing is missing and
no verdict is open, it alone matches in every completion. -/
theorem only_match_of_complete {query : LocatorQuery} {tree tree' : ObservedTree} {only : ℕ}
    (h : RootedCompletion tree tree') (hcomplete : tree.structurallyComplete = true)
    (hsettled : MatchVerdict.unknown ∉ verdictsOf tree query)
    (honly : matchedIndices tree query = [only]) {n : ℕ} (hn : n < tree'.nodes.length) :
    locatorVerdict tree' query n = .matched ↔ n = h.image only := by
  obtain ⟨hlength, himage⟩ := h.copied_of_complete hcomplete
  have hmem : only ∈ matchedIndices tree query := by rw [honly]; exact List.mem_singleton_self _
  obtain ⟨hlt, hmatched⟩ := mem_matchedIndices.mp hmem
  rw [himage only hlt]
  rw [hlength] at hn
  have hsound := locatorVerdict_sound h.toCompletion query hn
  rw [himage n hn] at hsound
  constructor
  · intro hmatch
    cases hverdict : locatorVerdict tree query n with
    | matched =>
      have hone := mem_matchedIndices.mpr ⟨hn, hverdict⟩
      rw [honly] at hone
      exact List.mem_singleton.mp hone
    | noMatch =>
      rw [hsound.2 hverdict] at hmatch
      nomatch hmatch
    | unknown =>
      refine absurd (List.mem_of_getElem? (i := n) ?_) hsettled
      rw [getElem?_verdictsOf hn, hverdict]
  · rintro rfl
    exact hsound.1 hmatched

/-- **A unique match is unique in every completion.** What a search returns was evaluated on a tree
that was observed; when its match is required to be unique and is, then in every completion of that
tree exactly the node of the match matches the query. And a search returns a selection that is not
complete only for all matches or their number, and not when it gives refs to the selected ones. -/
theorem resolveQuery_unique {query : LocatorQuery} {request : LocatorResolveRequest}
    {timeoutMs : ℕ} {attempts : List QueryAttempt} {resolution : LocatorResolution}
    (h : resolveQuery query request timeoutMs attempts = some (.ok resolution)) :
    (∃ attempt ∈ attempts, ∃ tree, attempt.observed = .ok tree
        ∧ resolveQueryAttempt query request tree attempt.surroundings = .ok resolution
        ∧ ∀ found, requireUnique resolution = .ok found →
          ∀ (tree' : ObservedTree) (completion : RootedCompletion tree tree'),
            completion.image found.documentOrder < tree'.nodes.length
              ∧ ∀ n < tree'.nodes.length,
                (locatorVerdict tree' query n = .matched
                  ↔ n = completion.image found.documentOrder))
      ∧ (resolution.info.selectionComplete = false →
        request.materialization ≠ .selectedMatches
          ∧ (request.selection = .count ∨ ∃ limit, request.selection = .all limit)) := by
  unfold resolveQuery at h
  split at h
  · nomatch h
  · nomatch h
  · obtain ⟨⟨attempt, hmem, tree, htree, hattempt⟩, hcomplete⟩ := resolveAttempts_eq_ok h
    refine ⟨⟨attempt, hmem, tree, htree, hattempt, ?_⟩,
      fun hincomplete => requiresAuthoritativeResult_eq_false (hcomplete hincomplete)⟩
    intro found hfound tree' completion
    obtain ⟨hanswer, hone, hselected⟩ := requireUnique_eq_ok hfound
    obtain ⟨hplaces, htotal, hall⟩ := resolveQueryAttempt_resolved hattempt
    obtain ⟨hstructure, hsettled⟩ := hall hanswer
    -- one place matches, and it is that of the answer
    obtain ⟨only, honly⟩ := List.length_eq_one_iff.mp (htotal.symm.trans hone)
    have hplace : found.documentOrder = only := by
      have hin := List.mem_map_of_mem (f := LocatorMatch.documentOrder) hselected
      rw [hplaces] at hin
      have hin := mem_selectedIndices hin
      rw [honly] at hin
      exact List.mem_singleton.mp hin
    rw [hplace]
    refine ⟨?_, fun n hn => only_match_of_complete completion hstructure hsettled honly hn⟩
    obtain ⟨hlength, himage⟩ := completion.copied_of_complete hstructure
    have hlt : only < tree.nodes.length :=
      (mem_matchedIndices.mp (by rw [honly]; exact List.mem_singleton_self _)).1
    rw [himage only hlt, hlength]
    exact hlt

end

namespace Sample

/-- A traversal that nothing cut off. -/
def quietStats : TraversalStats := ⟨0, 0, 0, 0, 0, 0, 0, 0, 0⟩

/-- An attempt that sees this tree. -/
def attemptAt (tree : ObservedTree) : QueryAttempt :=
  ⟨true, .ok tree, secondLook tree, quietStats, false⟩

/-- A window with a text and a toolbar that holds one button. -/
def toolbarTree : ObservedTree :=
  (ObservedTree.fromRoots [.new (element "window" "Notes")
    [.new (element "statictext" "Untitled") [] true none,
      .new (element "toolbar" "") [.new (element "button" "Save") [] true none] true none]
    true none] source stats true).toOption.get (by decide)

/-- A match that must be the only one. -/
def strictRequest : LocatorResolveRequest := ⟨.strict, 50, .none⟩

/-- All matches, with a ref for every node. -/
def fullRequest : LocatorResolveRequest := ⟨.all none, 50, .fullRefMap⟩

end Sample

/-- The only button of a window with a text and a toolbar is found as such, and it stays the only one
in every completion of the window. -/
theorem namedButton_unique :
    ∃ resolution found, @resolveQuery Sample.asciiLowercase Sample.noBoundsHash Sample.anyButton
        Sample.strictRequest 5000 [Sample.attemptAt Sample.toolbarTree] = some (.ok resolution)
      ∧ requireUnique resolution = .ok found ∧ found.documentOrder = 3
      ∧ (∀ (tree' : ObservedTree) (completion : RootedCompletion Sample.toolbarTree tree'),
        completion.image 3 < tree'.nodes.length
          ∧ ∀ n < tree'.nodes.length,
            (@locatorVerdict Sample.asciiLowercase tree' Sample.anyButton n = .matched
              ↔ n = completion.image 3))
      ∧ (resolution.info.selectionComplete = false →
        Sample.strictRequest.materialization ≠ .selectedMatches
          ∧ (Sample.strictRequest.selection = .count
            ∨ ∃ limit, Sample.strictRequest.selection = .all limit)) := by
  have hok : ((@resolveQuery Sample.asciiLowercase Sample.noBoundsHash Sample.anyButton
      Sample.strictRequest 5000 [Sample.attemptAt Sample.toolbarTree]).bind
        Except.toOption).any (fun resolution =>
          (requireUnique resolution).toOption.any fun found => found.documentOrder == 3) = true := by
    decide
  obtain ⟨resolution, hresolution, hfound⟩ := (Option.any_eq_true _ _).mp hok
  obtain ⟨result, hresult, hsome⟩ := Option.bind_eq_some_iff.mp hresolution
  obtain rfl := Except.eq_ok_of_toOption hsome
  obtain ⟨found, hunique, horder⟩ := (Option.any_eq_true _ _).mp hfound
  have hunique := Except.eq_ok_of_toOption hunique
  have horder : found.documentOrder = 3 := eq_of_beq horder
  obtain ⟨⟨attempt, hmem, tree, htree, -, hcompletions⟩, hincomplete⟩ :=
    @resolveQuery_unique Sample.asciiLowercase Sample.noBoundsHash _ _ _ _ _ hresult
  -- the one attempt saw the window
  obtain rfl := List.mem_singleton.mp hmem
  obtain rfl : Sample.toolbarTree = tree := Except.ok.inj htree
  refine ⟨resolution, found, hresult, hunique, horder, fun tree' completion => ?_, hincomplete⟩
  rw [← horder]
  exact hcompletions found hunique tree' completion

/-- **A selection that is not complete is returned with refs**: all buttons of a window that was
not walked to the end, with a ref for every node. -/
theorem fullRefMap_incomplete :
    ∃ resolution, @resolveQuery Sample.asciiLowercase Sample.noBoundsHash Sample.anyButton
        Sample.fullRequest 5000 [Sample.attemptAt Sample.partialTree] = some (.ok resolution)
      ∧ resolution.info.selectionComplete = false ∧ resolution.refmap.isSome = true := by
  have hok : ((@resolveQuery Sample.asciiLowercase Sample.noBoundsHash Sample.anyButton
      Sample.fullRequest 5000 [Sample.attemptAt Sample.partialTree]).bind
        Except.toOption).any (fun resolution =>
          !resolution.info.selectionComplete && resolution.refmap.isSome) = true := by
    decide
  obtain ⟨resolution, hresolution, hincomplete⟩ := (Option.any_eq_true _ _).mp hok
  obtain ⟨result, hresult, hsome⟩ := Option.bind_eq_some_iff.mp hresolution
  obtain rfl := Except.eq_ok_of_toOption hsome
  rw [Bool.and_eq_true, Bool.not_eq_true'] at hincomplete
  exact ⟨resolution, hresult, hincomplete⟩

end AgentDesktop
