import AgentDesktop.Reference
import AgentDesktop.Requirements

/-!
# The required evidence suffices

What a query asks to be read, and what its predicates look at, are computed in
two different places. They agree: two observed trees of one shape that agree on
the required fields give the same verdicts, and a tree in which the required
fields are settled, and nothing is missing, gives no unknown ones.

Both facts are read off the equations of the cells, from the leaves up. What a
clause looks at is required on account of the clause itself, and what is
required on account of a clause is required by the query.
-/

namespace AgentDesktop

open EvidenceRequirements

/-! ## Requirements of clauses -/

/-- What is required on account of a clause. -/
def CompiledClause.requirements (clause : CompiledClause) : EvidenceRequirements :=
  ofClause clause.query.identity clause.query.hasText clause.query.states

section

variable {P : EvidenceRequirements → Prop}

mutual

/-- **What holds of the requirements of a query holds of those of its clauses**, if it passes
to the parts of a union. -/
theorem requirements_compileClauses (hunion : ∀ r r', P (r.union r') → P r ∧ P r')
    (q : LocatorQuery) (hquery : P (query q)) {clauses : List CompiledClause}
    (hclauses : ∀ clause ∈ clauses, P clause.requirements) :
    ∀ clause ∈ (compileClauses clauses q).2, P clause.requirements := by
  obtain ⟨identity, hasText, exact', states, has, hasNot⟩ := q
  rw [query] at hquery
  obtain ⟨hinner, hhasNot⟩ := requirements_compileNested hunion hasNot hquery
  obtain ⟨hown, hhas⟩ := requirements_compileNested hunion has hinner
  rw [compileClauses]
  intro clause hclause
  rcases List.mem_append.mp hclause with hold | hnew
  · exact hhasNot (hhas hclauses) clause hold
  · obtain rfl := List.mem_singleton.mp hnew
    exact hown

theorem requirements_compileNested (hunion : ∀ r r', P (r.union r') → P r ∧ P r')
    (nested : Option LocatorQuery) {requirements : EvidenceRequirements}
    (hnested : P (withNested requirements nested)) :
    P requirements ∧ ∀ {clauses : List CompiledClause},
      (∀ clause ∈ clauses, P clause.requirements) →
        ∀ clause ∈ (compileNested clauses nested).2, P clause.requirements := by
  cases nested with
  | none => exact ⟨hnested, fun hclauses => hclauses⟩
  | some q =>
    rw [withNested] at hnested
    obtain ⟨hself, hquery⟩ := hunion _ _ hnested
    exact ⟨hself, requirements_compileClauses hunion q hquery⟩

end

/-- What holds of the requirements of a query holds of those of the clauses it is evaluated
by. -/
theorem requirements_clausesOf [UnicodeLowercase] (hunion : ∀ r r', P (r.union r') → P r ∧ P r')
    {q : LocatorQuery} (hquery : P (query q)) :
    ∀ clause ∈ clausesOf q.normalizeQuery, P clause.requirements :=
  requirements_compileClauses hunion q.normalizeQuery (query_normalizeQuery q ▸ hquery)
    (fun _ h => absurd h List.not_mem_nil)

end

/-! ## Agreement -/

/-- **Evidence agrees on what is required.** -/
structure LocatorEvidence.AgreesOn (requirements : EvidenceRequirements)
    (evidence evidence' : LocatorEvidence) : Prop where
  role : requirements.role = true → evidence.role = evidence'.role
  name : requirements.name = true → evidence.name = evidence'.name
  description : requirements.description = true → evidence.description = evidence'.description
  value : requirements.value = true → evidence.value = evidence'.value
  identifiers : requirements.identifiers = true → evidence.identifiers = evidence'.identifiers
  states : requirements.states = true → evidence.states = evidence'.states
  bounds : requirements.refEvidence.bounds = true →
    evidence.refEvidence.bounds = evidence'.refEvidence.bounds
  availableActions : requirements.refEvidence.actions = true →
    evidence.refEvidence.availableActions = evidence'.refEvidence.availableActions

theorem LocatorEvidence.AgreesOn.refl (requirements : EvidenceRequirements)
    (evidence : LocatorEvidence) : AgreesOn requirements evidence evidence :=
  ⟨fun _ => rfl, fun _ => rfl, fun _ => rfl, fun _ => rfl, fun _ => rfl, fun _ => rfl,
    fun _ => rfl, fun _ => rfl⟩

theorem LocatorEvidence.AgreesOn.of_union {evidence evidence' : LocatorEvidence}
    {r r' : EvidenceRequirements} (h : AgreesOn (r.union r') evidence evidence') :
    AgreesOn r evidence evidence' ∧ AgreesOn r' evidence evidence' := by
  have hleft : ∀ {b b' : Bool}, b = true → (b || b') = true :=
    fun hb => Bool.or_eq_true_iff.mpr (.inl hb)
  have hright : ∀ {b b' : Bool}, b' = true → (b || b') = true :=
    fun hb => Bool.or_eq_true_iff.mpr (.inr hb)
  exact ⟨⟨fun hr => h.role (hleft hr), fun hr => h.name (hleft hr),
      fun hr => h.description (hleft hr), fun hr => h.value (hleft hr),
      fun hr => h.identifiers (hleft hr), fun hr => h.states (hleft hr),
      fun hr => h.bounds (hleft hr), fun hr => h.availableActions (hleft hr)⟩,
    ⟨fun hr => h.role (hright hr), fun hr => h.name (hright hr),
      fun hr => h.description (hright hr), fun hr => h.value (hright hr),
      fun hr => h.identifiers (hright hr), fun hr => h.states (hright hr),
      fun hr => h.bounds (hright hr), fun hr => h.availableActions (hright hr)⟩⟩

/-- **Trees of one shape**: the nodes have the same children, and the same is missing below
them. -/
structure SameShape (tree tree' : ObservedTree) : Prop where
  /-- There are as many nodes. -/
  length : tree.nodes.length = tree'.nodes.length
  children : ∀ n, childrenAt tree.nodes n = childrenAt tree'.nodes n
  /-- What is missing below. -/
  subtreeComplete : ∀ n, subtreeCompleteAt tree.nodes n = subtreeCompleteAt tree'.nodes n

/-- **Trees that agree on what is required**, node by node. -/
def AgreeOn (requirements : EvidenceRequirements) (tree tree' : ObservedTree) : Prop :=
  ∀ (n : ℕ) (node node' : ObservedNode), tree.nodes[n]? = some node → tree'.nodes[n]? = some node' →
    node.evidence.AgreesOn requirements node'.evidence

section

variable [UnicodeLowercase] {evidence evidence' : LocatorEvidence} {query : LocatorQuery}

theorem textVerdict_congr {expected : Option String} {field field' : LocatorField String}
    {exact : Bool} (h : expected.isSome = true → field = field') :
    textVerdict expected field exact = textVerdict expected field' exact := by
  cases expected with
  | none => rfl
  | some expected => rw [h rfl]

/-- **What a clause looks at of a node itself is required.** -/
theorem textsVerdict_congr
    (h : evidence.AgreesOn (ofClause query.identity query.hasText query.states) evidence') :
    textsVerdict query evidence (screenVerdict query evidence)
      = textsVerdict query evidence' (screenVerdict query evidence') := by
  have hidentifier : (identifierVerdict query.identity.nativeId evidence).1
      = (identifierVerdict query.identity.nativeId evidence').1 := by
    cases hid : query.identity.nativeId with
    | none => rfl
    | some expected =>
      have hsame : evidence.identifiers = evidence'.identifiers := h.identifiers (by
        show query.identity.nativeId.isSome = true
        rw [hid]
        rfl)
      unfold identifierVerdict
      rw [hsame]
  have hstates : statesVerdict query evidence = statesVerdict query evidence' := by
    unfold statesVerdict
    by_cases hempty : query.states.isEmpty = true
    · rw [if_pos hempty, if_pos hempty]
    · have hsame : evidence.states = evidence'.states := h.states (by
        show (!query.states.isEmpty) = true
        rw [Bool.eq_false_iff.mpr hempty]
        rfl)
      rw [hsame]
  unfold textsVerdict screenVerdict
  rw [h.role rfl, hidentifier, hstates,
    textVerdict_congr (fun hsome => h.name (Bool.or_eq_true_iff.mpr (.inl hsome))),
    textVerdict_congr (fun hsome => h.description (Bool.or_eq_true_iff.mpr (.inl hsome))),
    textVerdict_congr (fun hsome => h.value (Bool.or_eq_true_iff.mpr (.inl hsome)))]

theorem selfTextVerdict_congr {identity : IdentityPredicate} {hasText : Option String}
    {states : List StatePredicate} {exact : Bool} {expected : Option String}
    (hexpected : expected.isSome = true → hasText.isSome = true)
    (h : evidence.AgreesOn (ofClause identity hasText states) evidence') :
    selfTextVerdict expected evidence exact = selfTextVerdict expected evidence' exact := by
  cases expected with
  | none => rfl
  | some expected =>
    have hsome : hasText.isSome = true := hexpected rfl
    unfold selfTextVerdict
    rw [h.name (Bool.or_eq_true_iff.mpr (.inr hsome)),
      h.description (Bool.or_eq_true_iff.mpr (.inr hsome)),
      h.value (Bool.or_eq_true_iff.mpr (.inr hsome))]

/-! ## The same verdicts

Both evaluations satisfy the equations of their cells. So it is enough to compare the equations: a
cell depends on the required evidence of its node and on the cells below it. -/

omit [UnicodeLowercase] in
theorem aggregateSubtree_congr_node {node node' : ObservedNode} {c count : ℕ}
    {own : MatchVerdict} {matrix matrix' : List MatchVerdict}
    (hchildren : node.children = node'.children)
    (hcomplete : node.completeness.subtreeComplete = node'.completeness.subtreeComplete)
    (h : ∀ child ∈ node.children,
      verdictAt matrix child c count = verdictAt matrix' child c count) :
    aggregateSubtree node c count own matrix = aggregateSubtree node' c count own matrix' := by
  rw [aggregateSubtree_congr h]
  unfold aggregateSubtree
  rw [hchildren, hcomplete]

/-- **One cell**: where the nodes agree on what the clause requires, and the rows of the
children are the same, so are the cells. -/
theorem SettledAt.agreeAt {node node' : ObservedNode} {n count c : ℕ} {clause : CompiledClause}
    {b b' : EvaluationBuffers} (hs : SettledAt node n count clause c b)
    (hs' : SettledAt node' n count clause c b') (hchildren : node.children = node'.children)
    (hcomplete : node.completeness.subtreeComplete = node'.completeness.subtreeComplete)
    (hevidence : node.evidence.AgreesOn clause.requirements node'.evidence)
    (hrows : ∀ child ∈ node.children, ∀ d < count, AgreeAt count b b' child d)
    (hc : c < count) (hhas : ∀ d, clause.has = some d → d < count)
    (hhasNot : ∀ d, clause.hasNot = some d → d < count) : AgreeAt count b b' n c := by
  have htext : verdictAt b.subtreeText n c count = verdictAt b'.subtreeText n c count := by
    rw [hs.text, hs'.text]
    unfold textVerdictOf
    rw [selfTextVerdict_congr id hevidence]
    split_ifs
    · exact aggregateSubtree_congr_node hchildren hcomplete
        (fun child hchild => (hrows child hchild c hc).subtreeText)
    · rfl
  have hnested : ∀ nested : Option ℕ, (∀ d, nested = some d → d < count) →
      hasVerdict node count b.subtreeMatches nested
          = hasVerdict node' count b'.subtreeMatches nested
        ∧ hasNotVerdict node count b.subtreeMatches nested
          = hasNotVerdict node' count b'.subtreeMatches nested := by
    intro nested hlt
    cases nested with
    | none => exact ⟨rfl, rfl⟩
    | some d =>
      have hbelow : aggregateDescendants node d count b.subtreeMatches
          = aggregateDescendants node' d count b'.subtreeMatches :=
        aggregateSubtree_congr_node hchildren hcomplete
          (fun child hchild => (hrows child hchild d (hlt d rfl)).subtreeMatches)
      exact ⟨hbelow, congrArg MatchVerdict.negate hbelow⟩
  have hmatched : verdictAt b.nodeMatches n c count = verdictAt b'.nodeMatches n c count := by
    rw [hs.matched, hs'.matched, textsVerdict_congr hevidence, htext, (hnested _ hhas).1,
      (hnested _ hhasNot).2]
  refine ⟨hmatched, ?_, htext⟩
  rw [hs.subtree, hs'.subtree, hmatched]
  exact aggregateSubtree_congr_node hchildren hcomplete
    (fun child hchild => (hrows child hchild c hc).subtreeMatches)

/-- **All cells**, by bottom-up induction over the forest. -/
theorem SameShape.agreeAt {tree tree' : ObservedTree} (h : SameShape tree tree')
    (hagree : AgreeOn (EvidenceRequirements.query query) tree tree') {n c : ℕ}
    (hn : n < tree.nodes.length) (hc : c < (clausesOf query.normalizeQuery).length) :
    AgreeAt (clausesOf query.normalizeQuery).length
      (evaluateNodes tree (clausesOf query.normalizeQuery))
      (evaluateNodes tree' (clausesOf query.normalizeQuery)) n c := by
  have hlinked := linked_clausesOf query.normalizeQuery
  refine tree.laid.bottomUp (P := fun n => ∀ c < (clausesOf query.normalizeQuery).length,
    AgreeAt (clausesOf query.normalizeQuery).length
      (evaluateNodes tree (clausesOf query.normalizeQuery))
      (evaluateNodes tree' (clausesOf query.normalizeQuery)) n c) ?_ n (Nat.zero_le _) hn c hc
  intro m _ hm ih d hd
  have hget : tree.nodes[m]? = some tree.nodes[m] := List.getElem?_eq_getElem hm
  obtain ⟨node', hget'⟩ : ∃ node', tree'.nodes[m]? = some node' :=
    ⟨_, List.getElem?_eq_getElem (h.length ▸ hm)⟩
  have hclause : (clausesOf query.normalizeQuery)[d]? = some (clausesOf query.normalizeQuery)[d] :=
    List.getElem?_eq_getElem hd
  obtain ⟨-, hhas, hhasNot⟩ := inRange_zipIdx hlinked (_, d)
    (List.mem_zipIdx_iff_getElem?.mpr hclause)
  have hchildren : tree.nodes[m].children = node'.children := by
    rw [← childrenAt_of_getElem? hget, ← childrenAt_of_getElem? hget', h.children]
  have hcomplete : tree.nodes[m].completeness.subtreeComplete
      = node'.completeness.subtreeComplete := by
    rw [← subtreeCompleteAt_of_getElem? hget, ← subtreeCompleteAt_of_getElem? hget',
      h.subtreeComplete]
  have hevidence : tree.nodes[m].evidence.AgreesOn
      (clausesOf query.normalizeQuery)[d].requirements node'.evidence :=
    requirements_clausesOf
      (P := fun r => tree.nodes[m].evidence.AgreesOn r node'.evidence)
      (fun _ _ h => h.of_union) (hagree m _ _ hget hget') _ (List.getElem_mem hd)
  refine (evaluateNodes_settled hlinked m _ (Nat.zero_le _) hget d _ hclause).agreeAt
    (evaluateNodes_settled hlinked m _ (Nat.zero_le _) hget' d _ hclause) hchildren hcomplete
    hevidence (fun child hchild e he => ih child ?_ e he) hd hhas hhasNot
  exact (childrenAt_of_getElem? hget).symm ▸ hchild

/-- **Trees that agree on what a query requires give it the same verdicts.** -/
theorem SameShape.verdictsOf_eq {tree tree' : ObservedTree} (h : SameShape tree tree')
    (hagree : AgreeOn (EvidenceRequirements.query query) tree tree') :
    verdictsOf tree query = verdictsOf tree' query := by
  obtain ⟨_, hget, _⟩ := rootClause_target query.normalizeQuery
  unfold verdictsOf
  rw [← h.length]
  refine List.map_congr_left (fun n hn => ?_)
  exact (h.agreeAt hagree (List.mem_range.mp hn)
    (List.getElem?_eq_some_iff.mp hget).1).nodeMatches

/-! ## Settled verdicts -/

omit [UnicodeLowercase] in
theorem satisfies_of_union {r r' : EvidenceRequirements}
    (h : evidence.satisfies (r.union r') = true) :
    evidence.satisfies r = true ∧ evidence.satisfies r' = true := by
  have hsplit : ∀ a b c : Bool, (!(a || b) || c) = ((!a || c) && (!b || c)) := by decide
  simp only [LocatorEvidence.satisfies, union, unionRef, hsplit, Bool.and_eq_true] at h ⊢
  obtain ⟨⟨⟨⟨⟨⟨⟨hrole, hname⟩, hdescription⟩, hvalue⟩, hidentifiers⟩, hstates⟩, hbounds⟩,
    hactions⟩ := h
  exact ⟨⟨⟨⟨⟨⟨⟨⟨hrole.1, hname.1⟩, hdescription.1⟩, hvalue.1⟩, hidentifiers.1⟩, hstates.1⟩,
      hbounds.1⟩, hactions.1⟩,
    ⟨⟨⟨⟨⟨⟨⟨hrole.2, hname.2⟩, hdescription.2⟩, hvalue.2⟩, hidentifiers.2⟩, hstates.2⟩,
      hbounds.2⟩, hactions.2⟩⟩

/-! ## Verdicts that are not unknown -/

omit [UnicodeLowercase] in
theorem and_ne_unknown {v w : MatchVerdict} (hv : v ≠ .unknown) (hw : w ≠ .unknown) :
    v.and w ≠ .unknown := by
  cases v <;> cases w <;> simp [MatchVerdict.and] at hv hw ⊢

omit [UnicodeLowercase] in
theorem or_ne_unknown {v w : MatchVerdict} (hv : v ≠ .unknown) (hw : w ≠ .unknown) :
    v.or w ≠ .unknown := by
  cases v <;> cases w <;> simp [MatchVerdict.or] at hv hw ⊢

omit [UnicodeLowercase] in
theorem negate_ne_unknown {v : MatchVerdict} (hv : v ≠ .unknown) : v.negate ≠ .unknown := by
  cases v <;> simp [MatchVerdict.negate] at hv ⊢

theorem textVerdict_ne_unknown {expected : Option String}
    {field : LocatorField String} {exact : Bool}
    (h : expected.isSome = true → field.isUnknown = false) :
    textVerdict expected field exact ≠ .unknown := by
  cases expected with
  | none => exact MatchVerdict.noConfusion
  | some expected =>
    cases field with
    | known value => exact MatchVerdict.ofBool_ne_unknown _
    | absent => exact MatchVerdict.noConfusion
    | unknown => exact absurd (h rfl) (by decide)

theorem selfTextVerdict_ne_unknown {identity : IdentityPredicate} {hasText : Option String}
    {states : List StatePredicate} {exact : Bool} {expected : Option String}
    (hexpected : expected.isSome = true → hasText.isSome = true)
    (h : evidence.satisfies (ofClause identity hasText states) = true) :
    selfTextVerdict expected evidence exact ≠ .unknown := by
  cases expected with
  | none => exact MatchVerdict.noConfusion
  | some expected =>
    have hsome : hasText.isSome = true := hexpected rfl
    simp only [LocatorEvidence.satisfies, ofClause, hsome, Bool.or_true, Bool.not_true,
      Bool.false_or, Bool.and_eq_true, Bool.not_eq_true'] at h
    obtain ⟨⟨⟨⟨⟨⟨⟨-, hname⟩, hdescription⟩, hvalue⟩, -⟩, -⟩, -⟩, -⟩ := h
    show selfTextLoop expected exact .noMatch _ ≠ .unknown
    rw [selfTextLoop_eq_foldl]
    exact or_ne_unknown (or_ne_unknown (or_ne_unknown MatchVerdict.noConfusion
      (textVerdict_ne_unknown (fun _ => hname)))
      (textVerdict_ne_unknown (fun _ => hdescription)))
      (textVerdict_ne_unknown (fun _ => hvalue))

/-- **What a clause asks of a node itself is settled** where its requirements are. -/
theorem textsVerdict_ne_unknown
    (h : evidence.satisfies (ofClause query.identity query.hasText query.states) = true) :
    textsVerdict query evidence (screenVerdict query evidence) ≠ .unknown := by
  have hread : ∀ asked other unread : Bool, (!(asked || other) || !unread) = true →
      asked = true → unread = false := by decide
  simp only [LocatorEvidence.satisfies, ofClause, Bool.and_eq_true] at h
  obtain ⟨⟨⟨⟨⟨⟨⟨hrole, hname⟩, hdescription⟩, hvalue⟩, hidentifiers⟩, hstates⟩, -⟩, -⟩ := h
  have hroleVerdict : roleVerdict query.identity.role evidence.role ≠ .unknown := by
    cases hexpected : query.identity.role with
    | none => exact MatchVerdict.noConfusion
    | some expected =>
      cases hfield : evidence.role with
      | known value => exact MatchVerdict.ofBool_ne_unknown _
      | absent => exact MatchVerdict.noConfusion
      | unknown =>
        rw [hfield] at hrole
        cases hrole
  have hidentifierVerdict : (identifierVerdict query.identity.nativeId evidence).1 ≠ .unknown := by
    cases hexpected : query.identity.nativeId with
    | none => exact MatchVerdict.noConfusion
    | some expected =>
      rw [hexpected] at hidentifiers
      have hcomplete : evidence.identifiers.complete = true := hidentifiers
      unfold identifierVerdict
      dsimp only
      rw [hcomplete]
      split_ifs with hpreferred hany hopen
      · exact MatchVerdict.noConfusion
      · exact MatchVerdict.noConfusion
      · exact absurd hopen (by decide)
      · exact MatchVerdict.noConfusion
  have hstatesVerdict : statesVerdict query evidence ≠ .unknown := by
    unfold statesVerdict
    split_ifs with hempty
    · exact MatchVerdict.noConfusion
    · rw [Bool.eq_false_iff.mpr hempty] at hstates
      cases hfield : evidence.states with
      | known value => exact MatchVerdict.ofBool_ne_unknown _
      | absent => exact MatchVerdict.ofBool_ne_unknown _
      | unknown =>
        rw [hfield] at hstates
        cases hstates
  unfold textsVerdict screenVerdict
  exact and_ne_unknown (and_ne_unknown (and_ne_unknown
    (and_ne_unknown (and_ne_unknown hroleVerdict hidentifierVerdict) hstatesVerdict)
    (textVerdict_ne_unknown (hread _ _ _ hname)))
    (textVerdict_ne_unknown (hread _ _ _ hdescription)))
    (textVerdict_ne_unknown (hread _ _ _ hvalue))

omit [UnicodeLowercase] in
theorem aggregateSubtree_ne_unknown {node : ObservedNode} {c count : ℕ} {own : MatchVerdict}
    {matrix : List MatchVerdict} (hcomplete : node.completeness.subtreeComplete = true)
    (hown : own ≠ .unknown)
    (h : ∀ child ∈ node.children, verdictAt matrix child c count ≠ .unknown) :
    aggregateSubtree node c count own matrix ≠ .unknown := by
  have hfold : ∀ (children : List ℕ) (verdict : MatchVerdict), verdict ≠ .unknown →
      (∀ child ∈ children, verdictAt matrix child c count ≠ .unknown) →
      children.foldl (fun verdict child => verdict.or (verdictAt matrix child c count)) verdict
        ≠ .unknown := by
    intro children
    induction children with
    | nil => exact fun verdict hverdict _ => hverdict
    | cons child rest ih =>
      intro verdict hverdict hall
      exact ih _ (or_ne_unknown hverdict (hall child List.mem_cons_self))
        (fun child hchild => hall child (List.mem_cons_of_mem _ hchild))
  unfold aggregateSubtree settleSubtree
  rw [hcomplete, if_neg (fun hopen => absurd hopen.2 Bool.noConfusion)]
  exact hfold _ _ hown h

/-- Cells that are not unknown. -/
structure SettledCells (count : ℕ) (b : EvaluationBuffers) (n c : ℕ) : Prop where
  nodeMatches : verdictAt b.nodeMatches n c count ≠ .unknown
  subtreeMatches : verdictAt b.subtreeMatches n c count ≠ .unknown
  subtreeText : verdictAt b.subtreeText n c count ≠ .unknown

/-- **One cell** is not unknown where the clause's requirements are satisfied, nothing is
missing, and the rows of the children are not. -/
theorem SettledAt.settledCells {node : ObservedNode} {n count c : ℕ} {clause : CompiledClause}
    {b : EvaluationBuffers} (hs : SettledAt node n count clause c b)
    (hcomplete : node.completeness.subtreeComplete = true)
    (hevidence : node.evidence.satisfies clause.requirements = true)
    (hrows : ∀ child ∈ node.children, ∀ d < count, SettledCells count b child d)
    (hc : c < count) (hhas : ∀ d, clause.has = some d → d < count)
    (hhasNot : ∀ d, clause.hasNot = some d → d < count) : SettledCells count b n c := by
  have htext : verdictAt b.subtreeText n c count ≠ .unknown := by
    rw [hs.text]
    unfold textVerdictOf
    split_ifs with hsome
    · exact aggregateSubtree_ne_unknown hcomplete (selfTextVerdict_ne_unknown id hevidence)
        (fun child hchild => (hrows child hchild c hc).subtreeText)
    · exact MatchVerdict.noConfusion
  have hnested : ∀ nested : Option ℕ, (∀ d, nested = some d → d < count) →
      hasVerdict node count b.subtreeMatches nested ≠ .unknown
        ∧ hasNotVerdict node count b.subtreeMatches nested ≠ .unknown := by
    intro nested hlt
    cases nested with
    | none => exact ⟨MatchVerdict.noConfusion, MatchVerdict.noConfusion⟩
    | some d =>
      have hbelow : aggregateDescendants node d count b.subtreeMatches ≠ .unknown :=
        aggregateSubtree_ne_unknown hcomplete MatchVerdict.noConfusion
          (fun child hchild => (hrows child hchild d (hlt d rfl)).subtreeMatches)
      exact ⟨hbelow, negate_ne_unknown hbelow⟩
  have hmatched : verdictAt b.nodeMatches n c count ≠ .unknown := by
    rw [hs.matched]
    exact and_ne_unknown (and_ne_unknown (and_ne_unknown (textsVerdict_ne_unknown hevidence)
      htext) (hnested _ hhas).1) (hnested _ hhasNot).2
  refine ⟨hmatched, ?_, htext⟩
  rw [hs.subtree]
  exact aggregateSubtree_ne_unknown hcomplete hmatched
    (fun child hchild => (hrows child hchild c hc).subtreeMatches)

/-- **No verdict is unknown** where the required fields are settled and nothing is missing. -/
theorem unknown_notMem_verdictsOf {tree : ObservedTree}
    (hcomplete : tree.structurallyComplete = true)
    (hevidence : ∀ node ∈ tree.nodes,
      node.evidence.satisfies (EvidenceRequirements.query query) = true) :
    MatchVerdict.unknown ∉ verdictsOf tree query := by
  have hlinked := linked_clausesOf query.normalizeQuery
  have hcells : ∀ n < tree.nodes.length, ∀ c < (clausesOf query.normalizeQuery).length,
      SettledCells (clausesOf query.normalizeQuery).length
        (evaluateNodes tree (clausesOf query.normalizeQuery)) n c := by
    intro n hn
    refine tree.laid.bottomUp (P := fun n => ∀ c < (clausesOf query.normalizeQuery).length,
      SettledCells (clausesOf query.normalizeQuery).length
        (evaluateNodes tree (clausesOf query.normalizeQuery)) n c) ?_ n (Nat.zero_le _) hn
    intro m _ hm ih d hd
    have hget : tree.nodes[m]? = some tree.nodes[m] := List.getElem?_eq_getElem hm
    have hclause : (clausesOf query.normalizeQuery)[d]?
        = some (clausesOf query.normalizeQuery)[d] := List.getElem?_eq_getElem hd
    obtain ⟨-, hhas, hhasNot⟩ := inRange_zipIdx hlinked (_, d)
      (List.mem_zipIdx_iff_getElem?.mpr hclause)
    have hbelow : tree.nodes[m].completeness.subtreeComplete = true := by
      rw [← subtreeCompleteAt_of_getElem? hget]
      exact tree.subtreeComplete_of_structurallyComplete hcomplete hm
    have hsatisfies : tree.nodes[m].evidence.satisfies
        (clausesOf query.normalizeQuery)[d].requirements = true :=
      requirements_clausesOf (P := fun r => tree.nodes[m].evidence.satisfies r = true)
        (fun _ _ h => satisfies_of_union h) (hevidence _ (List.getElem_mem hm)) _
        (List.getElem_mem hd)
    refine (evaluateNodes_settled hlinked m _ (Nat.zero_le _) hget d _ hclause).settledCells
      hbelow hsatisfies (fun child hchild e he => ih child ?_ e he) hd hhas hhasNot
    exact (childrenAt_of_getElem? hget).symm ▸ hchild
  obtain ⟨_, hget, _⟩ := rootClause_target query.normalizeQuery
  intro hmem
  obtain ⟨n, hn, hunknown⟩ := List.mem_map.mp hmem
  exact (hcells n (List.mem_range.mp hn) _ (List.getElem?_eq_some_iff.mp hget).1).nodeMatches
    hunknown

variable [BoundsHasher] {tree tree' : ObservedTree} {request : LocatorResolveRequest}

/-- An evaluation that gives no refs is complete where the tree is and no verdict is
unknown. -/
theorem evaluateLocatorTree_complete {res : LocatorResolution}
    (hnone : request.materialization = .none) (hcomplete : tree.structurallyComplete = true)
    (hverdicts : MatchVerdict.unknown ∉ verdictsOf tree query)
    (h : evaluateLocatorTree tree query request = .ok res) : res.info.complete = true := by
  unfold evaluateLocatorTree at h
  obtain ⟨⟨⟩, -, h⟩ := Except.bind_eq_ok_iff.mp h
  obtain ⟨⟨⟩, -, h⟩ := Except.bind_eq_ok_iff.mp h
  obtain ⟨⟨⟩, -, h⟩ := Except.bind_eq_ok_iff.mp h
  obtain ⟨⟨tree', refmap, materialized⟩, hout, h⟩ := Except.bind_eq_ok_iff.mp h
  obtain ⟨selected, -, h⟩ := Except.bind_eq_ok_iff.mp h
  obtain ⟨⟨⟩, -, h⟩ := Except.bind_eq_ok_iff.mp h
  obtain rfl := Except.pure_eq_ok_iff.mp h
  unfold materializeFor at hout
  rw [hnone] at hout
  cases hout
  show (tree.structurallyComplete && !(verdictsOf tree query).contains .unknown && true) = true
  rw [hcomplete, List.contains_eq_mem, decide_eq_false hverdicts]
  rfl

/-- **The required evidence suffices.** Trees of one shape that agree on what a query requires
give it the same verdicts; and where what it requires is settled at every node of a complete
tree, the evaluation that gives no refs is complete – a valid query does resolve. -/
theorem evidenceRequirements_suffice (query : LocatorQuery) :
    (∀ tree tree' : ObservedTree, SameShape tree tree' →
        AgreeOn (EvidenceRequirements.query query) tree tree' →
        verdictsOf tree query = verdictsOf tree' query)
      ∧ ∀ (tree : ObservedTree) (request : LocatorResolveRequest),
        tree.structurallyComplete = true →
        (∀ node ∈ tree.nodes,
          node.evidence.satisfies (EvidenceRequirements.query query) = true) →
        request.materialization = .none →
        (∀ res, evaluateLocatorTree tree query request = .ok res → res.info.complete = true)
          ∧ (query.validateQuery = .ok () → validateRequest request = .ok () →
            tree.nodes.length ≤ u32Max →
            ∃ res, evaluateLocatorTree tree query request = .ok res) := by
  refine ⟨fun tree tree' hshape hagree => hshape.verdictsOf_eq hagree,
    fun tree request hcomplete hevidence hnone => ⟨fun res hres => ?_,
      fun hquery hrequest hlen => evaluateLocatorTree_succeeds hquery hrequest hnone hlen⟩⟩
  exact evaluateLocatorTree_complete hnone hcomplete
    (unknown_notMem_verdictsOf hcomplete hevidence) hres

end

namespace Sample

/-- The whole window once more, with a value in the button that was not asked for. -/
def valueTree : ObservedTree :=
  (ObservedTree.fromRoots [.new (element "window" "Notes")
    [.new { saveRead with value := .known "on" } [.new (element "image" "Disk") [] true none]
      true none] true none] source stats true).toOption.get (by decide)

theorem sameShape_valueTree : SameShape fullTree valueTree where
  length := rfl
  children
    | 0 | 1 | 2 => rfl
    | _ + 3 => rfl
  subtreeComplete
    | 0 | 1 | 2 => rfl
    | _ + 3 => rfl

theorem agreeOn_valueTree :
    AgreeOn (EvidenceRequirements.query saveQuery) fullTree valueTree := by
  intro n node node' hget hget'
  match n with
  | 0 =>
    obtain rfl := Option.some.inj hget
    obtain rfl := Option.some.inj hget'
    exact .refl _ _
  | 1 =>
    obtain rfl := Option.some.inj hget
    obtain rfl := Option.some.inj hget'
    exact ⟨fun _ => rfl, fun _ => rfl, fun _ => rfl, fun h => absurd h (by decide), fun _ => rfl,
      fun _ => rfl, fun _ => rfl, fun _ => rfl⟩
  | 2 =>
    obtain rfl := Option.some.inj hget
    obtain rfl := Option.some.inj hget'
    exact .refl _ _
  | n + 3 =>
    rw [List.getElem?_eq_none (show fullTree.nodes.length ≤ n + 3 from Nat.le_add_left 3 n)]
      at hget
    cases hget

end Sample

/-- A value that was not asked for changes nothing, and the answer is complete. -/
theorem evidenceRequirements_suffice_sample :
    @verdictsOf Sample.asciiLowercase Sample.fullTree Sample.saveQuery
        = @verdictsOf Sample.asciiLowercase Sample.valueTree Sample.saveQuery
      ∧ ∃ res, @evaluateLocatorTree Sample.asciiLowercase Sample.noBoundsHash Sample.fullTree
          Sample.saveQuery Sample.allRequest = .ok res ∧ res.info.complete = true := by
  obtain ⟨hsame, hcomplete⟩ := @evidenceRequirements_suffice Sample.asciiLowercase
    Sample.noBoundsHash Sample.saveQuery
  obtain ⟨hall, hresolves⟩ := hcomplete Sample.fullTree Sample.allRequest (by decide)
    (by decide) rfl
  obtain ⟨res, hres⟩ := hresolves rfl rfl (by decide)
  exact ⟨hsame _ _ Sample.sameShape_valueTree Sample.agreeOn_valueTree, res, hres, hall res hres⟩

end AgentDesktop
