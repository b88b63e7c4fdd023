import AgentDesktop.AccessibilityNode
import AgentDesktop.Completion
import AgentDesktop.ResolveSpec

/-!
# The evaluation agrees with the reference matcher

On a tree about which nothing is missing, the three-valued evaluation answers in
two values, and the answer at a node is the one the reference matcher gives at
the node's projection. The agreement is shown field by field on the node
itself, and then cell by cell along the projection, where the disjunction over
the children's rows meets the recursion over the projected children.
-/

namespace AgentDesktop

/-! ## Evidence that leaves nothing open -/

/-- A text that was read and is not empty, or is known to be absent. -/
def LocatorField.TextSettled (field : LocatorField String) : Prop :=
  field ≠ .unknown ∧ field ≠ .known ""

/-- **Evidence that leaves nothing open**: every field is known or absent, the
texts that are known are not empty, and the identifiers – a complete set – are
the preferred one, if any. -/
structure LocatorEvidence.Settled (evidence : LocatorEvidence) : Prop where
  role : evidence.role ≠ .unknown
  name : evidence.name.TextSettled
  description : evidence.description.TextSettled
  value : evidence.value.TextSettled
  states : evidence.states ≠ .unknown
  /-- No identifier is missing. -/
  identifiersComplete : evidence.identifiers.complete = true
  /-- There is no identifier but the preferred one. -/
  preferredOnly :
    evidence.identifiers.identifiers = evidence.identifiers.preferredIdentifier.toList

namespace MatchVerdict

@[simp] theorem ofBool_and (a b : Bool) : (ofBool a).and (ofBool b) = ofBool (a && b) := by
  cases a <;> cases b <;> rfl

@[simp] theorem ofBool_or (a b : Bool) : (ofBool a).or (ofBool b) = ofBool (a || b) := by
  cases a <;> cases b <;> rfl

@[simp] theorem ofBool_negate (a : Bool) : (ofBool a).negate = ofBool (!a) := by
  cases a <;> rfl

end MatchVerdict

/-! ## The predicates on the node itself -/

section

variable [UnicodeLowercase] {evidence : LocatorEvidence}

theorem textVerdict_settled {field : LocatorField String} (h : field.TextSettled)
    (expected : Option String) (exact : Bool) :
    textVerdict expected field exact
      = .ofBool (textFieldMatches expected field.meaningfulString exact) := by
  cases expected with
  | none => rfl
  | some expected =>
    cases field with
    | known value =>
      have hvalue : value.isEmpty = false := by
        cases hempty : value.isEmpty with
        | false => rfl
        | true => exact absurd (congrArg LocatorField.known (String.isEmpty_iff.mp hempty)) h.2
      have hmeaningful : (LocatorField.known value).meaningfulString = some value := by
        simp [LocatorField.meaningfulString, LocatorField.known?, Option.filter, hvalue]
      rw [hmeaningful]
      rfl
    | absent => rfl
    | unknown => exact absurd rfl h.1

theorem textVerdict_settled_any {field : LocatorField String} (h : field.TextSettled)
    (expected : String) (exact : Bool) :
    textVerdict (some expected) field exact
      = .ofBool (field.meaningfulString.any (fun text => textMatches text expected exact)) := by
  rw [textVerdict_settled h]
  cases field.meaningfulString <;> rfl

/-- The role of a clause as `normalizeQuery` leaves it. -/
def RoleNormalized (query : LocatorQuery) : Prop :=
  ∀ role, query.identity.role = some role →
    Roles.normalizeRoleQuery role = role ∧ role ≠ "unknown"

omit [UnicodeLowercase] in
theorem roleVerdict_settled (h : evidence.role ≠ .unknown) {query : LocatorQuery}
    (hquery : RoleNormalized query) :
    roleVerdict query.identity.role evidence.role
      = .ofBool (roleMatches query.identity.role (evidence.role.known?.getD "unknown")) := by
  cases hrole : query.identity.role with
  | none => rfl
  | some expected =>
    obtain ⟨hnorm, hne⟩ := hquery expected hrole
    cases hactual : evidence.role with
    | known actual =>
      show MatchVerdict.ofBool (actual == expected)
        = .ofBool (Roles.normalizeRoleQuery expected == actual)
      rw [hnorm, BEq.comm]
    | absent =>
      show MatchVerdict.noMatch = .ofBool (Roles.normalizeRoleQuery expected == "unknown")
      rw [hnorm, beq_eq_false_iff_ne.mpr hne]
      rfl
    | unknown => exact absurd hactual h

omit [UnicodeLowercase] in
theorem identifierVerdict_settled (h : evidence.Settled) (expected : Option String) :
    (identifierVerdict expected evidence).1
      = .ofBool (nativeIdMatches expected
          (evidence.identifiers.preferredIdentifier.map ElementIdentifier.value)) := by
  cases expected with
  | none => rfl
  | some expected =>
    have hiff : (∃ id ∈ evidence.identifiers.identifiers, id.value = expected)
        ↔ nativeIdMatches (some expected)
          (evidence.identifiers.preferredIdentifier.map ElementIdentifier.value) = true := by
      rw [h.preferredOnly]
      cases evidence.identifiers.preferredIdentifier <;> simp [nativeIdMatches]
    cases hmatch : nativeIdMatches (some expected)
        (evidence.identifiers.preferredIdentifier.map ElementIdentifier.value) with
    | true => exact identifierVerdict_eq_matched_iff.mpr (hiff.mpr hmatch)
    | false =>
      refine identifierVerdict_eq_noMatch_iff.mpr ⟨h.identifiersComplete, fun hex => ?_⟩
      rw [hiff.mp hex] at hmatch
      exact absurd hmatch (by simp)

omit [UnicodeLowercase] in
theorem statesVerdict_settled (h : evidence.states ≠ .unknown) (query : LocatorQuery) :
    statesVerdict query evidence
      = .ofBool (statePredicatesMatch query.states (evidence.states.known?.getD [])) := by
  unfold statesVerdict statePredicatesMatch
  split_ifs with hempty
  · rw [List.isEmpty_iff.mp hempty]
    rfl
  · cases hstates : evidence.states with
    | known states =>
      simp only [LocatorField.known?, Option.getD_some]
      congr 1
      exact List.all_congr rfl (fun predicate => BEq.comm)
    | absent =>
      simp only [LocatorField.known?, Option.getD_none, State.hasState_nil]
      congr 1
      refine List.all_congr rfl (fun predicate => ?_)
      rcases predicate with ⟨token, _ | _ | _⟩ <;> rfl
    | unknown => exact absurd hstates h

/-- **On the node itself the verdict is the answer of the reference matcher.** -/
theorem ownVerdict_settled (node : ObservedNode) (children : List AccessibilityNode)
    (h : node.evidence.Settled) {query : LocatorQuery} (hquery : RoleNormalized query) :
    textsVerdict query node.evidence (screenVerdict query node.evidence)
      = .ofBool (ownMatches query (projectNode node children)) := by
  unfold textsVerdict screenVerdict
  rw [roleVerdict_settled h.role hquery, identifierVerdict_settled h,
    statesVerdict_settled h.states, textVerdict_settled h.name,
    textVerdict_settled h.description, textVerdict_settled h.value]
  simp only [MatchVerdict.ofBool_and]
  rfl

theorem selfTextVerdict_settled (node : ObservedNode) (children : List AccessibilityNode)
    (h : node.evidence.Settled) (expected : String) (exact : Bool) :
    selfTextVerdict (some expected) node.evidence exact
      = .ofBool (ownTextMatches expected exact (projectNode node children)) := by
  show selfTextLoop expected exact .noMatch _ = _
  rw [selfTextLoop_eq_foldl]
  simp only [List.map_cons, List.map_nil, List.foldl_cons, List.foldl_nil,
    textVerdict_settled_any h.name, textVerdict_settled_any h.description,
    textVerdict_settled_any h.value]
  rw [show (MatchVerdict.noMatch) = .ofBool false from rfl]
  simp only [MatchVerdict.ofBool_or, Bool.false_or, ownTextMatches, projectNode]
  cases node.evidence.name.meaningfulString <;>
    cases node.evidence.description.meaningfulString <;>
    cases node.evidence.value.meaningfulString <;> simp [Bool.or_assoc]

end

/-! ## Queries whose roles are normalized -/

/-- A query occurs in another: it is the query, or occurs in a nested one. -/
inductive LocatorQuery.Occurs : LocatorQuery → LocatorQuery → Prop
  | refl (query : LocatorQuery) : Occurs query query
  | has {query sub nested : LocatorQuery} (h : query.has = some nested)
      (below : Occurs sub nested) : Occurs sub query
  | hasNot {query sub nested : LocatorQuery} (h : query.hasNot = some nested)
      (below : Occurs sub nested) : Occurs sub query

mutual

theorem mem_compileClauses (query : LocatorQuery) {clauses : List CompiledClause}
    {clause : CompiledClause} (h : clause ∈ (compileClauses clauses query).2) :
    clause ∈ clauses ∨ clause.query.Occurs query := by
  obtain ⟨identity, hasText, exact', states, has, hasNot⟩ := query
  rw [compileClauses] at h
  rcases List.mem_append.mp h with h | h
  · rcases mem_compileNested hasNot h with h | ⟨nested, hnested, hoccurs⟩
    · rcases mem_compileNested has h with h | ⟨nested, hnested, hoccurs⟩
      · exact Or.inl h
      · exact Or.inr (.has hnested hoccurs)
    · exact Or.inr (.hasNot hnested hoccurs)
  · rw [List.mem_singleton] at h
    exact Or.inr (h ▸ .refl _)

theorem mem_compileNested (nested : Option LocatorQuery) {clauses : List CompiledClause}
    {clause : CompiledClause} (h : clause ∈ (compileNested clauses nested).2) :
    clause ∈ clauses ∨ ∃ query, nested = some query ∧ clause.query.Occurs query := by
  cases nested with
  | none => exact Or.inl h
  | some query => exact (mem_compileClauses query h).imp_right (fun h => ⟨query, rfl, h⟩)

end

theorem LocatorQuery.Occurs.of_normalizeQuery [UnicodeLowercase] {query sub : LocatorQuery}
    (h : sub.Occurs query.normalizeQuery) :
    ∃ sub' : LocatorQuery, sub'.Occurs query ∧ sub = sub'.normalizeQuery := by
  generalize hnorm : query.normalizeQuery = normal at h
  induction h generalizing query with
  | refl normal => exact ⟨query, .refl _, hnorm.symm⟩
  | has h below ih =>
    rw [← hnorm, normalizeQuery_has] at h
    obtain ⟨nested, hnested, hnormal⟩ := Option.map_eq_some_iff.mp h
    obtain ⟨sub', hoccurs, hsub⟩ := ih hnormal
    exact ⟨sub', .has hnested hoccurs, hsub⟩
  | hasNot h below ih =>
    rw [← hnorm, normalizeQuery_hasNot] at h
    obtain ⟨nested, hnested, hnormal⟩ := Option.map_eq_some_iff.mp h
    obtain ⟨sub', hoccurs, hsub⟩ := ih hnormal
    exact ⟨sub', .hasNot hnested hoccurs, hsub⟩

theorem validateClause_role {query sub : LocatorQuery} (hoccurs : sub.Occurs query)
    {counts counts' : LocatorQuery.ClauseCounts}
    (h : LocatorQuery.validateClause counts query = .ok counts') {role : String}
    (hrole : sub.identity.role = some role) : Roles.isValidRoleQuery role = true := by
  induction hoccurs generalizing counts counts' with
  | refl query =>
    obtain ⟨identity, hasText, exact', states, has, hasNot⟩ := query
    rw [LocatorQuery.validateClause] at h
    obtain ⟨own, hown, -⟩ := Except.bind_eq_ok_iff.mp h
    unfold LocatorQuery.validateOwnClause at hown
    split_ifs at hown with _ hinvalid
    rw [show identity.role = some role from hrole] at hinvalid
    simpa using hinvalid
  | @has query _ nested hhas _ ih =>
    obtain ⟨identity, hasText, exact', states, has, hasNot⟩ := query
    rw [LocatorQuery.validateClause] at h
    obtain ⟨own, -, h⟩ := Except.bind_eq_ok_iff.mp h
    obtain ⟨mid, hmid, -⟩ := Except.bind_eq_ok_iff.mp h
    rw [show has = some nested from hhas] at hmid
    exact ih hmid hrole
  | @hasNot query _ nested hhasNot _ ih =>
    obtain ⟨identity, hasText, exact', states, has, hasNot⟩ := query
    rw [LocatorQuery.validateClause] at h
    obtain ⟨own, -, h⟩ := Except.bind_eq_ok_iff.mp h
    obtain ⟨mid, -, hmid⟩ := Except.bind_eq_ok_iff.mp h
    rw [show hasNot = some nested from hhasNot] at hmid
    exact ih hmid hrole

/-- **The clauses of a valid query ask for normalized roles**, none of them
`unknown`. -/
theorem roleNormalized_clausesOf [UnicodeLowercase] {query : LocatorQuery}
    (h : query.validateQuery = .ok ()) {clause : CompiledClause}
    (hclause : clause ∈ clausesOf query.normalizeQuery) : RoleNormalized clause.query := by
  obtain ⟨⟨⟩, -, h⟩ := Except.bind_eq_ok_iff.mp h
  obtain ⟨counts, hcounts, -⟩ := Except.bind_eq_ok_iff.mp h
  rcases mem_compileClauses _ hclause with hnil | hoccurs
  · exact absurd hnil List.not_mem_nil
  · obtain ⟨sub, hsub, heq⟩ := hoccurs.of_normalizeQuery
    intro role hrole
    rw [heq, LocatorQuery.normalizeQuery_identity] at hrole
    obtain ⟨given, hgiven, rfl⟩ := Option.map_eq_some_iff.mp hrole
    exact ⟨Roles.normalizeRoleQuery_idem given,
      Roles.normalizeRoleQuery_ne_unknown (validateClause_role hsub hcounts hgiven)⟩

/-! ## The cells along the projection

A cell of the evaluation is a fold over the rows of the children, and the reference matcher walks
the projected tree. They are compared at one node at a time, along the projection, and a complete
node has the same children in both. -/

/-- The disjunction over a list of rows is the walk over the projections they
agree with. -/
theorem foldl_or_settled {c count : ℕ} {matrix : List MatchVerdict} {rows : List ℕ}
    {children : List AccessibilityNode} {test : AccessibilityNode → Bool}
    (h : List.Forall₂ (fun child p =>
      verdictAt matrix child c count = .ofBool (nodeOrBelow test p)) rows children)
    (own : Bool) :
    rows.foldl (fun (verdict : MatchVerdict) child =>
        verdict.or (verdictAt matrix child c count)) (MatchVerdict.ofBool own)
      = .ofBool (own || someBelow test children) := by
  induction h generalizing own with
  | nil => simp [someBelow]
  | cons hchild _ ih =>
    rw [List.foldl_cons, hchild, MatchVerdict.ofBool_or, ih, someBelow, Bool.or_assoc]

/-- Below a complete node the disjunction over the children is the walk over
their projections. -/
theorem aggregateSubtree_settled {node : ObservedNode} {c count : ℕ}
    {matrix : List MatchVerdict} {children : List AccessibilityNode}
    {test : AccessibilityNode → Bool} (hcomplete : node.completeness.subtreeComplete = true)
    (h : List.Forall₂ (fun child p =>
      verdictAt matrix child c count = .ofBool (nodeOrBelow test p)) node.children children)
    (own : Bool) :
    aggregateSubtree node c count (.ofBool own) matrix
      = .ofBool (own || someBelow test children) := by
  unfold aggregateSubtree settleSubtree
  rw [if_neg (fun hopen => absurd (hcomplete.symm.trans hopen.2) (by simp))]
  exact foldl_or_settled h own

section

variable [UnicodeLowercase] {tree : ObservedTree} {clauses : List CompiledClause}

/-- What the cells of a node say about its projection. -/
structure AgreesAt (clauses : List CompiledClause) (b : EvaluationBuffers) (n : ℕ)
    (projected : AccessibilityNode) (c : ℕ) (clause : CompiledClause) : Prop where
  /-- The text of the subtree is found where the reference matcher finds it. -/
  text : ∀ expected, clause.query.hasText = some expected →
    verdictAt b.subtreeText n c clauses.length
      = .ofBool (nodeOrBelow (ownTextMatches expected clause.query.exact) projected)
  /-- The node matches where the reference matcher says so. -/
  matched : verdictAt b.nodeMatches n c clauses.length
    = .ofBool (nodeMatches clause.query projected)
  /-- The subtree matches where some node of the projection does. -/
  subtree : verdictAt b.subtreeMatches n c clauses.length
    = .ofBool (nodeOrBelow (nodeMatches clause.query) projected)

/-- What `has` asks is what the reference matcher asks. -/
theorem hasVerdict_settled {node : ObservedNode} {children : List AccessibilityNode}
    {b : EvaluationBuffers} (hcomplete : node.completeness.subtreeComplete = true)
    (h : List.Forall₂ (fun child p => ∀ c clause, clauses[c]? = some clause →
      AgreesAt clauses b child p c clause) node.children children)
    {nested : Option LocatorQuery} {index : Option ℕ} (hlink : LinksTo clauses nested index) :
    hasVerdict node clauses.length b.subtreeMatches index = .ofBool (hasMatches nested children)
      ∧ hasNotVerdict node clauses.length b.subtreeMatches index
        = .ofBool (hasNotMatches nested children) := by
  cases nested with
  | none =>
    cases index with
    | none => exact ⟨rfl, rfl⟩
    | some c => exact absurd hlink id
  | some nested =>
    cases index with
    | none => exact absurd hlink id
    | some c =>
      obtain ⟨target, hget, rfl⟩ := hlink
      have hbelow : aggregateDescendants node c clauses.length b.subtreeMatches
          = .ofBool (someBelow (nodeMatches target.query) children) :=
        aggregateSubtree_settled hcomplete
          (h.imp (fun child p hagrees => (hagrees c target hget).subtree)) false
      exact ⟨hbelow, (congrArg MatchVerdict.negate hbelow).trans
        (MatchVerdict.ofBool_negate _)⟩

/-- **Every cell agrees with the reference matcher at the projection**, by
induction along the projection. -/
theorem project_agrees (hlinked : Linked clauses)
    (hroles : ∀ clause ∈ clauses, RoleNormalized clause.query)
    (hcomplete : ∀ (n : ℕ) (node : ObservedNode), tree.nodes[n]? = some node →
      node.completeness.subtreeComplete = true)
    (hsettled : ∀ node ∈ tree.nodes, node.evidence.Settled) (fuel n : ℕ)
    (projected : AccessibilityNode) (h : project tree.nodes fuel n = .ok projected) :
    ∀ c clause, clauses[c]? = some clause →
      AgreesAt clauses (evaluateNodes tree clauses) n projected c clause := by
  induction fuel generalizing n projected with
  | zero => exact absurd h (by simp [project])
  | succ fuel ih =>
    obtain ⟨node, children, hnode, hchildren, rfl⟩ := project_succ_eq_ok_iff.mp h
    have hbelow := hchildren.imp (fun child p hp => ih child p hp)
    have hfull := hcomplete n node hnode
    have hevidence := hsettled node (List.mem_of_getElem? hnode)
    intro c clause hclause
    have hcell := evaluateNodes_settled hlinked n node (Nat.zero_le _) hnode c clause hclause
    have hmem := List.mem_of_getElem? hclause
    obtain ⟨hhas, -⟩ := hasVerdict_settled hfull hbelow (hlinked clause hmem).1
    obtain ⟨-, hhasNot⟩ := hasVerdict_settled hfull hbelow (hlinked clause hmem).2
    have htext : ∀ expected, clause.query.hasText = some expected →
        verdictAt (evaluateNodes tree clauses).subtreeText n c clauses.length
          = .ofBool (nodeOrBelow (ownTextMatches expected clause.query.exact)
              (projectNode node children)) := by
      intro expected hexpected
      rw [hcell.text, textVerdictOf, hexpected, Option.isSome_some, if_pos rfl,
        selfTextVerdict_settled node children hevidence, nodeOrBelow_eq]
      exact aggregateSubtree_settled hfull
        (hbelow.imp (fun child p hagrees => (hagrees c clause hclause).text expected hexpected)) _
    have hhasText : verdictAt (evaluateNodes tree clauses).subtreeText n c clauses.length
        = .ofBool (hasTextMatches clause.query.hasText (projectNode node children)
            clause.query.exact) := by
      cases hexpected : clause.query.hasText with
      | none =>
        rw [hcell.text, textVerdictOf, hexpected]
        rfl
      | some expected => exact htext expected hexpected
    have hmatched : verdictAt (evaluateNodes tree clauses).nodeMatches n c clauses.length
        = .ofBool (nodeMatches clause.query (projectNode node children)) := by
      rw [hcell.matched, ownVerdict_settled node children hevidence (hroles clause hmem),
        hhasText, hhas, hhasNot, nodeMatches_eq]
      simp only [MatchVerdict.ofBool_and]
      rfl
    refine ⟨htext, hmatched, ?_⟩
    rw [hcell.subtree, hmatched, nodeOrBelow_eq]
    exact aggregateSubtree_settled hfull
      (hbelow.imp (fun child p hagrees => (hagrees c clause hclause).subtree)) _

end

end AgentDesktop
