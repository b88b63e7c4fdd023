import AgentDesktop.EvaluateSpec
import AgentDesktop.Resolve

/-!
# What a successful resolution says

A resolution that succeeds selects from the nodes whose verdict is match, in
document order, and reports exactly them; what is missing or unknown shows in
its completeness.
-/

namespace AgentDesktop

section

variable [UnicodeLowercase]

theorem mem_matchedIndices {tree : ObservedTree} {query : LocatorQuery} {n : ℕ} :
    n ∈ matchedIndices tree query
      ↔ n < tree.nodes.length ∧ locatorVerdict tree query n = .matched := by
  rw [matchedIndices, List.mem_filter, List.mem_range, decide_eq_true_iff]

theorem getElem?_verdictsOf {tree : ObservedTree} {query : LocatorQuery} {n : ℕ}
    (hn : n < tree.nodes.length) :
    (verdictsOf tree query)[n]? = some (locatorVerdict tree query n) := by
  rw [verdictsOf, List.getElem?_map, List.getElem?_range hn]
  rfl

end

section

variable [BoundsHasher]

theorem materializeFor_same {tree : ObservedTree} {request : LocatorResolveRequest}
    {normalized : LocatorQuery} {selected : List ℕ}
    {out : ObservedTree × Option RefMap × Bool}
    (h : materializeFor request tree normalized selected = .ok out) :
    SameButRefs tree out.1 := by
  unfold materializeFor at h
  split at h
  · obtain rfl := Except.ok.inj h
    exact SameButRefs.refl tree
  all_goals
    obtain ⟨state, hstate, rfl⟩ := Except.map_eq_ok_iff.mp h
    exact materializeRefmap_same hstate

theorem documentOrder_locatorMatch {tree : ObservedTree} {normalized : LocatorQuery}
    {parents : List (Option ℕ)} {index : ℕ} {found : LocatorMatch}
    (h : locatorMatch tree normalized parents index = .ok found) :
    found.documentOrder = index := by
  unfold locatorMatch at h
  split at h
  · rename_i data node _ hnode
    obtain rfl := Except.ok.inj h
    exact tree.grown.ordered index node (Nat.zero_le _) hnode
  · exact absurd h (by simp)
  · exact absurd h (by simp)

theorem documentOrder_mapM {tree : ObservedTree} {normalized : LocatorQuery}
    {parents : List (Option ℕ)} {indices : List ℕ} {found : List LocatorMatch}
    (h : indices.mapM (locatorMatch tree normalized parents) = .ok found) :
    found.map LocatorMatch.documentOrder = indices := by
  have hall := Except.mapM_eq_ok_iff.mp h
  induction hall with
  | nil => rfl
  | cons hone hrest ih =>
    rw [List.map_cons, documentOrder_locatorMatch hone,
      ih (Except.mapM_eq_ok_iff.mpr hrest)]

end

section

variable [UnicodeLowercase] [BoundsHasher] {tree tree' : ObservedTree} {query : LocatorQuery}
  {request : LocatorResolveRequest} {res : LocatorResolution}

/-- **What a successful resolution reports.** -/
structure Resolved (tree : ObservedTree) (query : LocatorQuery)
    (request : LocatorResolveRequest) (res : LocatorResolution) : Prop where
  /-- The query passed its checks. -/
  valid : query.validateQuery = .ok ()
  /-- The matches are the selected nodes, in order. -/
  selected : res.selected.map LocatorMatch.documentOrder
    = (selectedIndices (matchedIndices tree query) request.selection).1
  /-- The number of matches is reported. -/
  total : res.info.totalMatches = (matchedIndices tree query).length
  /-- A complete answer leaves no verdict open on a complete tree. -/
  complete : res.info.complete = true →
    tree.structurallyComplete = true ∧ MatchVerdict.unknown ∉ verdictsOf tree query
  /-- A complete selection is a complete answer or an authoritative first. -/
  selectionComplete : res.info.selectionComplete = true →
    res.info.complete = true ∨ request.selection = .first ∧ ∃ found ∈ res.selected,
      firstIsAuthoritative tree found.documentOrder (parentsOf tree.nodes)
        (verdictsOf tree query) = true

omit [UnicodeLowercase] [BoundsHasher] in
theorem SameButRefs.getElem?_eq_none (h : SameButRefs tree tree') {i : ℕ}
    (hi : tree.nodes[i]? = none) : tree'.nodes[i]? = none := by
  rw [List.getElem?_eq_none_iff] at hi ⊢
  rw [h.length]
  exact hi

omit [UnicodeLowercase] [BoundsHasher] in
theorem SameButRefs.subtreeIsAuthoritative (h : SameButRefs tree tree')
    (verdicts : List MatchVerdict) (fuel root : ℕ) :
    subtreeIsAuthoritative tree'.nodes verdicts fuel root
      = AgentDesktop.subtreeIsAuthoritative tree.nodes verdicts fuel root := by
  induction fuel generalizing root with
  | zero => rfl
  | succ fuel ih =>
    simp only [AgentDesktop.subtreeIsAuthoritative]
    cases hnode : tree.nodes[root]? with
    | none => rw [h.getElem?_eq_none hnode]
    | some node =>
      obtain ⟨refId, hnode'⟩ := h.nodes root node hnode
      rw [hnode']
      simp only [funext ih]

omit [UnicodeLowercase] [BoundsHasher] in
theorem SameButRefs.firstIsAuthoritative (h : SameButRefs tree tree') (target : ℕ)
    (parents : List (Option ℕ)) (verdicts : List MatchVerdict) :
    firstIsAuthoritative tree' target parents verdicts
      = AgentDesktop.firstIsAuthoritative tree target parents verdicts := by
  have hany : ∀ i : ℕ,
      tree'.nodes[i]?.any (fun node : ObservedNode => node.completeness.predecessorsComplete)
        = tree.nodes[i]?.any
          (fun node : ObservedNode => node.completeness.predecessorsComplete) := by
    intro i
    cases hnode : tree.nodes[i]? with
    | none => rw [h.getElem?_eq_none hnode]
    | some node =>
      obtain ⟨refId, hnode'⟩ := h.nodes i node hnode
      rw [hnode']
      rfl
  have hpair : ∀ pair, pairIsAuthoritative tree'.nodes verdicts pair
      = pairIsAuthoritative tree.nodes verdicts pair := by
    intro pair
    unfold pairIsAuthoritative
    rw [h.length, hany]
    cases hnode : tree.nodes[pair.1]? with
    | none => rw [h.getElem?_eq_none hnode]
    | some node =>
      obtain ⟨refId, hnode'⟩ := h.nodes pair.1 node hnode
      rw [hnode']
      simp only [funext (h.subtreeIsAuthoritative verdicts tree.nodes.length)]
  unfold AgentDesktop.firstIsAuthoritative
  simp only [h.length, h.roots, hany, funext hpair,
    funext (h.subtreeIsAuthoritative verdicts tree.nodes.length)]

/-- **A resolution that succeeds reports the selected matches** and is complete
only when it can be. -/
theorem evaluateLocatorTree_resolved (h : evaluateLocatorTree tree query request = .ok res) :
    Resolved tree query request res := by
  unfold evaluateLocatorTree at h
  obtain ⟨⟨⟩, hvalid, h⟩ := Except.bind_eq_ok_iff.mp h
  obtain ⟨⟨⟩, -, h⟩ := Except.bind_eq_ok_iff.mp h
  obtain ⟨⟨⟩, -, h⟩ := Except.bind_eq_ok_iff.mp h
  obtain ⟨⟨tree', refmap, materialized⟩, hout, h⟩ := Except.bind_eq_ok_iff.mp h
  obtain ⟨selected, hselected, h⟩ := Except.bind_eq_ok_iff.mp h
  obtain ⟨⟨⟩, -, h⟩ := Except.bind_eq_ok_iff.mp h
  obtain rfl := Except.pure_eq_ok_iff.mp h
  have hsame := materializeFor_same hout
  refine ⟨hvalid, documentOrder_mapM hselected, rfl, ?_, ?_⟩
  · intro hcomplete
    simp only [Bool.and_eq_true, Bool.not_eq_true', List.contains_eq_mem,
      decide_eq_false_iff_not] at hcomplete
    exact ⟨hcomplete.1.1, hcomplete.1.2⟩
  · intro hcomplete
    rcases Bool.or_eq_true _ _ |>.mp hcomplete with hcomplete | hfirst
    · exact Or.inl hcomplete
    · rw [Bool.and_eq_true, decide_eq_true_iff] at hfirst
      refine Or.inr ⟨hfirst.1, ?_⟩
      obtain ⟨found, hfound, hauth⟩ := Option.any_eq_true _ _ |>.mp hfirst.2
      refine ⟨found, List.mem_of_head? hfound, ?_⟩
      rwa [hsame.firstIsAuthoritative] at hauth

end

/-! ## When a resolution succeeds -/

namespace LocatorQuery

mutual

/-- The number of clauses of a query. -/
def clauseCount : LocatorQuery → ℕ
  | ⟨_, _, _, _, has, hasNot⟩ => nestedCount has + nestedCount hasNot + 1

/-- The number of clauses of a nested query, if there is one. -/
def nestedCount : Option LocatorQuery → ℕ
  | none => 0
  | some nested => clauseCount nested

end

mutual

theorem clauseCount_normalizeQuery [UnicodeLowercase] (query : LocatorQuery) :
    query.normalizeQuery.clauseCount = query.clauseCount := by
  obtain ⟨identity, hasText, exact', states, has, hasNot⟩ := query
  simp only [normalizeQuery, clauseCount, nestedCount_normalizeNested has,
    nestedCount_normalizeNested hasNot]

theorem nestedCount_normalizeNested [UnicodeLowercase] (nested : Option LocatorQuery) :
    nestedCount (normalizeNested nested) = nestedCount nested := by
  cases nested with
  | none => rfl
  | some query => exact clauseCount_normalizeQuery query

end

mutual

theorem length_compileClauses (query : LocatorQuery) (clauses : List CompiledClause) :
    (compileClauses clauses query).2.length = clauses.length + query.clauseCount := by
  obtain ⟨identity, hasText, exact', states, has, hasNot⟩ := query
  rw [compileClauses, clauseCount]
  simp only [List.length_append, List.length_singleton, length_compileNested hasNot,
    length_compileNested has]
  omega

theorem length_compileNested (nested : Option LocatorQuery) (clauses : List CompiledClause) :
    (compileNested clauses nested).2.length = clauses.length + nestedCount nested := by
  cases nested with
  | none => rfl
  | some query => exact length_compileClauses query clauses

end

theorem validateOwnClause_clauses {identity : IdentityPredicate} {hasText : Option String}
    {counts counts' : ClauseCounts}
    (h : validateOwnClause identity hasText counts = .ok counts') :
    counts'.clauses = counts.clauses + 1 ∧ counts'.clauses ≤ maxQueryClauses := by
  unfold validateOwnClause at h
  split_ifs at h with hmax
  obtain ⟨totalBytes, -, h⟩ := Except.bind_eq_ok_iff.mp h
  obtain rfl := Except.pure_eq_ok_iff.mp h
  exact ⟨rfl, Nat.le_of_not_lt hmax⟩

mutual

/-- **A query that passes its checks has at most as many clauses as allowed.** -/
theorem validateClause_clauses (query : LocatorQuery) {counts counts' : ClauseCounts}
    (h : validateClause counts query = .ok counts') :
    counts'.clauses = counts.clauses + query.clauseCount ∧ counts'.clauses ≤ maxQueryClauses := by
  obtain ⟨identity, hasText, exact', states, has, hasNot⟩ := query
  rw [validateClause] at h
  obtain ⟨own, hown, h⟩ := Except.bind_eq_ok_iff.mp h
  obtain ⟨mid, hhas, hhasNot⟩ := Except.bind_eq_ok_iff.mp h
  obtain ⟨h₁, h₁'⟩ := validateOwnClause_clauses hown
  obtain ⟨h₂, h₂'⟩ := validateNestedClause_clauses has hhas h₁'
  obtain ⟨h₃, h₃'⟩ := validateNestedClause_clauses hasNot hhasNot h₂'
  rw [clauseCount]
  exact ⟨by omega, h₃'⟩

theorem validateNestedClause_clauses (nested : Option LocatorQuery)
    {counts counts' : ClauseCounts} (h : validateNestedClause counts nested = .ok counts')
    (hcounts : counts.clauses ≤ maxQueryClauses) :
    counts'.clauses = counts.clauses + nestedCount nested
      ∧ counts'.clauses ≤ maxQueryClauses := by
  cases nested with
  | none =>
    obtain rfl := Except.ok.inj h
    exact ⟨rfl, hcounts⟩
  | some query => exact validateClause_clauses query h

end

end LocatorQuery

section

variable [UnicodeLowercase] [BoundsHasher] {tree : ObservedTree} {query : LocatorQuery}
  {request : LocatorResolveRequest}

omit [BoundsHasher] in
theorem matrix_fits (tree : ObservedTree) (h : query.validateQuery = .ok ()) :
    tree.nodes.length * (compileClauses [] query.normalizeQuery).2.length ≤ usizeMax := by
  obtain ⟨⟨⟩, -, h⟩ := Except.bind_eq_ok_iff.mp h
  obtain ⟨counts, hcounts, -⟩ := Except.bind_eq_ok_iff.mp h
  obtain ⟨hclauses, hmax⟩ := LocatorQuery.validateClause_clauses query hcounts
  have hlen : (compileClauses [] query.normalizeQuery).2.length ≤ LocatorQuery.maxQueryClauses := by
    rw [LocatorQuery.length_compileClauses, LocatorQuery.clauseCount_normalizeQuery,
      List.length_nil]
    omega
  calc tree.nodes.length * (compileClauses [] query.normalizeQuery).2.length
      ≤ (u32Max + 1) * LocatorQuery.maxQueryClauses := Nat.mul_le_mul tree.bounded hlen
    _ ≤ usizeMax := by decide

omit [UnicodeLowercase] [BoundsHasher] in
theorem mem_selectedIndices {indices : List ℕ} {selection : LocatorSelection} {n : ℕ}
    (h : n ∈ (selectedIndices indices selection).1) : n ∈ indices := by
  unfold selectedIndices takeMatches at h
  split at h
  · exact List.mem_of_mem_take h
  · exact h
  · exact h
  · exact List.mem_of_mem_take h
  · exact absurd h List.not_mem_nil
  · exact List.mem_of_mem_take h
  · exact List.mem_of_getLast? (Option.mem_toList.mp h)
  · exact List.mem_of_getElem? (Option.mem_toList.mp h)

omit [UnicodeLowercase] in
theorem locatorMatch_succeeds (tree : ObservedTree) (normalized : LocatorQuery)
    (parents : List (Option ℕ)) {i : ℕ} (h : i < tree.nodes.length) :
    ∃ found, locatorMatch tree normalized parents i = .ok found := by
  unfold locatorMatch matchData
  rw [List.getElem?_eq_getElem h]
  exact ⟨_, rfl⟩

/-- **A valid query on a tree whose nodes a `u32` counts resolves**, when no refs
are asked for. -/
theorem evaluateLocatorTree_succeeds (hquery : query.validateQuery = .ok ())
    (hrequest : validateRequest request = .ok ())
    (hnone : request.materialization = .none) (hlen : tree.nodes.length ≤ u32Max) :
    ∃ res, evaluateLocatorTree tree query request = .ok res := by
  obtain ⟨found, hfound⟩ := Except.mapM_succeeds
    (f := locatorMatch tree query.normalizeQuery (parentsOf tree.nodes))
    (l := (selectedIndices (matchedIndices tree query) request.selection).1)
    (fun i hi => locatorMatch_succeeds tree _ _
      (mem_matchedIndices.mp (mem_selectedIndices hi)).1)
  have hcount : (matchedIndices tree query).length ≤ u32Max :=
    calc (matchedIndices tree query).length
        ≤ (List.range tree.nodes.length).length := List.length_filter_le _ _
      _ ≤ u32Max := by rw [List.length_range]; exact hlen
  refine ⟨_, Except.bind_eq_ok_iff.mpr ⟨⟨⟩, hquery, Except.bind_eq_ok_iff.mpr
    ⟨⟨⟩, hrequest, Except.bind_eq_ok_iff.mpr ⟨⟨⟩, ?_, Except.bind_eq_ok_iff.mpr
    ⟨(tree, none, true), ?_, Except.bind_eq_ok_iff.mpr ⟨found, hfound,
    Except.bind_eq_ok_iff.mpr ⟨⟨⟩, ?_, rfl⟩⟩⟩⟩⟩⟩⟩
  · rw [Except.ensure_eq_ok_iff, decide_eq_true_iff]
    exact matrix_fits tree hquery
  · unfold materializeFor
    rw [hnone]
  · rw [Except.ensure_eq_ok_iff, decide_eq_true_iff]
    exact hcount

end

end AgentDesktop
