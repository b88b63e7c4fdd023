import AgentDesktop.EvaluateSpec

/-!
# Completions of an observed tree

An observation may be partial: fields unknown, identifiers incomplete, children
missing below a node that is marked incomplete. A *completion* is an observed
tree in which the same nodes occur, with fuller evidence, and in which further
nodes occur only where something was marked as missing.

The evaluation is sound for completions: a verdict other than unknown is the
verdict of every completion. The proof goes through the three matrices from the
leaves up, each cell being a steady function of the node's evidence and of the
cells of its children.
-/

namespace AgentDesktop

/-- What a completion does to one node: its evidence is refined, its children
stay in their order, and if nothing was missing below it, nothing is added. -/
structure CompletesNode (image : ℕ → ℕ) (node node' : ObservedNode) : Prop where
  /-- The evidence is refined. -/
  evidence : node.evidence.Refines node'.evidence
  /-- The children stay, in their order. -/
  children : (node.children.map image).Sublist node'.children
  /-- A complete node keeps exactly its children … -/
  closed : node.completeness.subtreeComplete = true → node'.children = node.children.map image
  /-- … and stays complete. -/
  complete : node.completeness.subtreeComplete = true →
    node'.completeness.subtreeComplete = true

/-- **A completion of an observed tree**: where its nodes stand in the completed
tree, and that each is completed there. -/
structure Completion (tree tree' : ObservedTree) where
  /-- Where a node stands in the completed tree. -/
  image : ℕ → ℕ
  /-- Every node is there, completed. -/
  completes : ∀ n node, tree.nodes[n]? = some node →
    ∃ node', tree'.nodes[image n]? = some node' ∧ CompletesNode image node node'

/-- Every tree completes itself. -/
def Completion.refl (tree : ObservedTree) : Completion tree tree where
  image := id
  completes _ node hget :=
    ⟨node, hget, .refl _, by rw [List.map_id], fun _ => (List.map_id _).symm, id⟩

/-! ## Aggregations -/

theorem settleSubtree_eq_matched_iff {complete : Bool} {v : MatchVerdict} :
    settleSubtree complete v = .matched ↔ v = .matched := by
  unfold settleSubtree
  split_ifs with h
  · simp [h.1]
  · rfl

theorem settleSubtree_eq_noMatch_iff {complete : Bool} {v : MatchVerdict} :
    settleSubtree complete v = .noMatch ↔ v = .noMatch ∧ complete = true := by
  unfold settleSubtree
  cases complete <;> cases v <;> simp

section

variable {node node' : ObservedNode} {c count : ℕ} {own own' : MatchVerdict}
  {matrix matrix' : List MatchVerdict}

theorem aggregateSubtree_eq_matched_iff :
    aggregateSubtree node c count own matrix = .matched
      ↔ own = .matched ∨ ∃ child ∈ node.children, verdictAt matrix child c count = .matched := by
  rw [aggregateSubtree, settleSubtree_eq_matched_iff,
    ← List.foldl_map (f := fun child => verdictAt matrix child c count) (g := MatchVerdict.or),
    MatchVerdict.foldl_or_eq_matched_iff, List.mem_map]

theorem aggregateSubtree_eq_noMatch_iff :
    aggregateSubtree node c count own matrix = .noMatch
      ↔ (own = .noMatch
          ∧ ∀ child ∈ node.children, verdictAt matrix child c count = .noMatch)
        ∧ node.completeness.subtreeComplete = true := by
  rw [aggregateSubtree, settleSubtree_eq_noMatch_iff,
    ← List.foldl_map (f := fun child => verdictAt matrix child c count) (g := MatchVerdict.or),
    MatchVerdict.foldl_or_eq_noMatch_iff, List.forall_mem_map]

/-- **Aggregation is steady under completion**: children may be added only where
the aggregation would not have said no match. -/
theorem aggregateSubtree_steady {image : ℕ → ℕ} (h : CompletesNode image node node')
    (hown : Informs own own')
    (hchildren : ∀ child ∈ node.children,
      Informs (verdictAt matrix child c count) (verdictAt matrix' (image child) c count)) :
    Informs (aggregateSubtree node c count own matrix)
      (aggregateSubtree node' c count own' matrix') := by
  rw [MatchVerdict.informs_iff] at hown ⊢
  simp only [aggregateSubtree_eq_matched_iff, aggregateSubtree_eq_noMatch_iff]
  constructor
  · rintro (hm | ⟨child, hchild, hm⟩)
    · exact Or.inl (hown.1 hm)
    · exact Or.inr ⟨image child, h.children.subset (List.mem_map_of_mem hchild),
        (MatchVerdict.informs_iff.mp (hchildren child hchild)).1 hm⟩
  · rintro ⟨⟨hn, hall⟩, hcomplete⟩
    refine ⟨⟨hown.2 hn, ?_⟩, h.complete hcomplete⟩
    rw [h.closed hcomplete, List.forall_mem_map]
    exact fun child hchild =>
      (MatchVerdict.informs_iff.mp (hchildren child hchild)).2 (hall child hchild)

theorem hasVerdict_steady {image : ℕ → ℕ} (h : CompletesNode image node node')
    {nested : Option ℕ} (hchildren : ∀ d, nested = some d → ∀ child ∈ node.children,
      Informs (verdictAt matrix child d count) (verdictAt matrix' (image child) d count)) :
    Informs (hasVerdict node count matrix nested) (hasVerdict node' count matrix' nested) := by
  cases nested with
  | none => exact Informs.refl _
  | some d => exact aggregateSubtree_steady h (Informs.refl _) (hchildren d rfl)

theorem hasNotVerdict_steady {image : ℕ → ℕ} (h : CompletesNode image node node')
    {nested : Option ℕ} (hchildren : ∀ d, nested = some d → ∀ child ∈ node.children,
      Informs (verdictAt matrix child d count) (verdictAt matrix' (image child) d count)) :
    Informs (hasNotVerdict node count matrix nested)
      (hasNotVerdict node' count matrix' nested) := by
  cases nested with
  | none => exact Informs.refl _
  | some d =>
    exact MatchVerdict.negate_steady _ _
      (aggregateSubtree_steady h (Informs.refl _) (hchildren d rfl))

end

section

variable [UnicodeLowercase]

theorem textVerdictOf_steady {node node' : ObservedNode} {c count : ℕ}
    {matrix matrix' : List MatchVerdict} {image : ℕ → ℕ} (query : LocatorQuery)
    (h : CompletesNode image node node')
    (hchildren : ∀ child ∈ node.children,
      Informs (verdictAt matrix child c count) (verdictAt matrix' (image child) c count)) :
    Informs (textVerdictOf node query c count matrix)
      (textVerdictOf node' query c count matrix') := by
  unfold textVerdictOf
  split_ifs
  · exact aggregateSubtree_steady h (selfTextVerdict_steady _ _ h.evidence) hchildren
  · exact Informs.refl _

/-! ## Soundness -/

/-- What a completion preserves at a cell. -/
structure InformsAt (count : ℕ) (b b' : EvaluationBuffers) (n n' c : ℕ) : Prop where
  nodeMatches :
    Informs (verdictAt b.nodeMatches n c count) (verdictAt b'.nodeMatches n' c count)
  subtreeMatches :
    Informs (verdictAt b.subtreeMatches n c count) (verdictAt b'.subtreeMatches n' c count)
  subtreeText :
    Informs (verdictAt b.subtreeText n c count) (verdictAt b'.subtreeText n' c count)

/-- **One cell**: where the rows of the children inform those of their images, the
cell informs its image. -/
theorem SettledAt.informsAt {image : ℕ → ℕ} {node node' : ObservedNode} {n n' count c : ℕ}
    {clause : CompiledClause} {b b' : EvaluationBuffers}
    (hs : SettledAt node n count clause c b) (hs' : SettledAt node' n' count clause c b')
    (h : CompletesNode image node node')
    (hchildren : ∀ child ∈ node.children, ∀ d < count,
      InformsAt count b b' child (image child) d)
    (hc : c < count) (hhas : ∀ d, clause.has = some d → d < count)
    (hhasNot : ∀ d, clause.hasNot = some d → d < count) : InformsAt count b b' n n' c := by
  have htext : Informs (verdictAt b.subtreeText n c count)
      (verdictAt b'.subtreeText n' c count) := by
    rw [hs.text, hs'.text]
    exact textVerdictOf_steady _ h (fun child hchild => (hchildren child hchild c hc).subtreeText)
  have hmatched : Informs (verdictAt b.nodeMatches n c count)
      (verdictAt b'.nodeMatches n' c count) := by
    have hown := selfVerdict_steady clause.query h.evidence ⟨0, 0⟩ ⟨0, 0⟩
    rw [selfVerdict_fst, selfVerdict_fst] at hown
    rw [hs.matched, hs'.matched]
    refine MatchVerdict.and_steady _ _ _ _ (MatchVerdict.and_steady _ _ _ _
      (MatchVerdict.and_steady _ _ _ _ hown htext) ?_) ?_
    · exact hasVerdict_steady h
        (fun d hd child hchild => (hchildren child hchild d (hhas d hd)).subtreeMatches)
    · exact hasNotVerdict_steady h
        (fun d hd child hchild => (hchildren child hchild d (hhasNot d hd)).subtreeMatches)
  refine ⟨hmatched, ?_, htext⟩
  rw [hs.subtree, hs'.subtree]
  exact aggregateSubtree_steady h hmatched
    (fun child hchild => (hchildren child hchild c hc).subtreeMatches)

/-- **All cells**, by bottom-up induction over the forest. -/
theorem Completion.informsAt {tree tree' : ObservedTree} (h : Completion tree tree')
    {clauses : List CompiledClause} (hlinked : Linked clauses) {n c : ℕ}
    (hn : n < tree.nodes.length) (hc : c < clauses.length) :
    InformsAt clauses.length (evaluateNodes tree clauses) (evaluateNodes tree' clauses)
      n (h.image n) c := by
  refine tree.laid.bottomUp (P := fun n => ∀ c < clauses.length,
    InformsAt clauses.length (evaluateNodes tree clauses) (evaluateNodes tree' clauses)
      n (h.image n) c) ?_ n (Nat.zero_le _) hn c hc
  intro m _ hm ih d hd
  have hget : tree.nodes[m]? = some tree.nodes[m] := List.getElem?_eq_getElem hm
  have hclause : clauses[d]? = some clauses[d] := List.getElem?_eq_getElem hd
  obtain ⟨node', hget', hcompletes⟩ := h.completes m _ hget
  obtain ⟨-, hhas, hhasNot⟩ := inRange_zipIdx hlinked (clauses[d], d)
    (List.mem_zipIdx_iff_getElem?.mpr hclause)
  refine (evaluateNodes_settled hlinked m _ (Nat.zero_le _) hget d _ hclause).informsAt
    (evaluateNodes_settled hlinked _ _ (Nat.zero_le _) hget' d _ hclause) hcompletes
    (fun child hchild e he => ih child ?_ e he) hd hhas hhasNot
  exact (childrenAt_of_getElem? hget).symm ▸ hchild

theorem Completion.informs_locatorVerdict {tree tree' : ObservedTree}
    (h : Completion tree tree') (query : LocatorQuery) {n : ℕ}
    (hn : n < tree.nodes.length) :
    Informs (locatorVerdict tree query n) (locatorVerdict tree' query (h.image n)) := by
  obtain ⟨_, hget, _⟩ := rootClause_target query.normalizeQuery
  exact (h.informsAt (linked_clausesOf query.normalizeQuery) hn
    (List.getElem?_eq_some_iff.mp hget).1).nodeMatches

/-- **Three-valued soundness of the evaluation.** What it says of a query at a
node – match or no match – it says in every completion of the tree: only an
unknown verdict can be changed by the missing evidence. -/
theorem locatorVerdict_sound {tree tree' : ObservedTree} (h : Completion tree tree')
    (query : LocatorQuery) {n : ℕ} (hn : n < tree.nodes.length) :
    (locatorVerdict tree query n = .matched →
        locatorVerdict tree' query (h.image n) = .matched)
      ∧ (locatorVerdict tree query n = .noMatch →
        locatorVerdict tree' query (h.image n) = .noMatch) :=
  MatchVerdict.informs_iff.mp (h.informs_locatorVerdict query hn)

end

/-! ## A partial observation of a window

A window with a button `Save` whose description was not read, and whose
subtrees were not walked to the end. -/

namespace Sample

/-- Texts of the ASCII range, where the case table for the others is not asked. -/
@[reducible] def asciiLowercase : UnicodeLowercase := ⟨fun character => [character]⟩

/-- The button, its description not read. -/
def saveUnread : LocatorEvidence := { element "button" "Save" with description := .unknown }

/-- The button, its description read. -/
def saveRead : LocatorEvidence := { saveUnread with description := .known "Saves the note" }

/-- The partial observation. -/
def partialTree : ObservedTree :=
  (ObservedTree.fromRoots [.new (element "window" "Notes")
    [.new saveUnread [] false none] false none] source stats false).toOption.get (by decide)

/-- What a longer walk sees: the description, and an image in the button. -/
def fullTree : ObservedTree :=
  (ObservedTree.fromRoots [.new (element "window" "Notes")
    [.new saveRead [.new (element "image" "Disk") [] true none] true none] true none]
    source stats true).toOption.get (by decide)

/-- The longer walk completes the shorter one. -/
def fullCompletion : Completion partialTree fullTree where
  image := id
  completes n node hget := by
    match n with
    | 0 =>
      obtain rfl := Option.some.inj hget
      exact ⟨_, rfl, .refl _, by decide, by decide, by decide⟩
    | 1 =>
      obtain rfl := Option.some.inj hget
      exact ⟨_, rfl, ⟨.refl _, .refl _, .unknown _, .refl _, .refl _, .refl _, .refl _, .refl _⟩,
        by decide, by decide, by decide⟩
    | n + 2 =>
      have hlen : partialTree.nodes.length ≤ n + 2 := Nat.le_add_left 2 n
      rw [List.getElem?_eq_none hlen] at hget
      exact absurd hget (by simp)

/-- A button with this name. -/
def saveQuery : LocatorQuery :=
  ⟨⟨some "button", some "save", none, none, none⟩, none, true, [], none, none⟩

end Sample

/-- The button found in the partial observation is found in the longer one. -/
theorem locatorVerdict_sound_sample :
    @locatorVerdict Sample.asciiLowercase Sample.fullTree Sample.saveQuery 1 = .matched :=
  (@locatorVerdict_sound Sample.asciiLowercase _ _ Sample.fullCompletion Sample.saveQuery 1
    (by decide)).1 (by decide)

end AgentDesktop
