import AgentDesktop.Evaluate

/-!
# The matrices, cell by cell

Every cell of the three matrices satisfies an equation in which only the rows
of the children occur. One clause at one node establishes the equations of its
cell and leaves the other cells alone; a node's clauses establish its row; and
the walk from the last node to the first establishes them all, because the
rows a node reads are those of later nodes.
-/

namespace AgentDesktop

/-! ## Cells -/

theorem cell_inj {n m c d count : ℕ} (hc : c < count) (hd : d < count) :
    cell m d count = cell n c count ↔ m = n ∧ d = c := by
  unfold cell
  constructor
  · intro h
    have hmod := congrArg (· % count) h
    simp only [Nat.mul_add_mod_of_lt hd, Nat.mul_add_mod_of_lt hc] at hmod
    subst hmod
    exact ⟨Nat.eq_of_mul_eq_mul_right (Nat.zero_lt_of_lt hc) (Nat.add_right_cancel h), rfl⟩
  · rintro ⟨rfl, rfl⟩
    rfl

theorem cell_lt {n c nodes count : ℕ} (hn : n < nodes) (hc : c < count) :
    cell n c count < nodes * count := by
  unfold cell
  calc n * count + c < (n + 1) * count := by rw [Nat.add_mul]; omega
    _ ≤ nodes * count := Nat.mul_le_mul_right _ hn

theorem verdictAt_set {matrix : List MatchVerdict} {n m c d count : ℕ} (v : MatchVerdict)
    (hc : c < count) (hd : d < count) (hlen : cell n c count < matrix.length) :
    verdictAt (matrix.set (cell n c count) v) m d count
      = if m = n ∧ d = c then v else verdictAt matrix m d count := by
  unfold verdictAt
  rw [List.getD_eq_getElem?_getD, List.getD_eq_getElem?_getD, List.getElem?_set]
  split_ifs with h h' h'
  · rfl
  · exact absurd ((cell_inj hc hd).mp h.symm) h'
  · exact absurd ((cell_inj hc hd).mpr h').symm h
  · rfl

/-! ## Buffers that agree -/

/-- Two states of the buffers hold the same verdicts at a cell. -/
structure AgreeAt (count : ℕ) (b b' : EvaluationBuffers) (n c : ℕ) : Prop where
  /-- The matches agree. -/
  nodeMatches : verdictAt b.nodeMatches n c count = verdictAt b'.nodeMatches n c count
  /-- The matches in the subtree agree. -/
  subtreeMatches :
    verdictAt b.subtreeMatches n c count = verdictAt b'.subtreeMatches n c count
  /-- The texts in the subtree agree. -/
  subtreeText : verdictAt b.subtreeText n c count = verdictAt b'.subtreeText n c count

theorem AgreeAt.refl {count : ℕ} (b : EvaluationBuffers) (n c : ℕ) :
    AgreeAt count b b n c := ⟨rfl, rfl, rfl⟩

theorem AgreeAt.trans {count n c : ℕ} {b b' b'' : EvaluationBuffers}
    (h : AgreeAt count b b' n c) (h' : AgreeAt count b' b'' n c) : AgreeAt count b b'' n c :=
  ⟨h.nodeMatches.trans h'.nodeMatches, h.subtreeMatches.trans h'.subtreeMatches,
    h.subtreeText.trans h'.subtreeText⟩

/-- The matrices have room for every cell. -/
structure Sized (cells : ℕ) (b : EvaluationBuffers) : Prop where
  /-- The matches have room. -/
  nodeMatches : b.nodeMatches.length = cells
  /-- The matches in the subtrees have room. -/
  subtreeMatches : b.subtreeMatches.length = cells
  /-- The texts in the subtrees have room. -/
  subtreeText : b.subtreeText.length = cells

theorem aggregateSubtree_congr {node : ObservedNode} {c count : ℕ} {own : MatchVerdict}
    {matrix matrix' : List MatchVerdict}
    (h : ∀ child ∈ node.children,
      verdictAt matrix child c count = verdictAt matrix' child c count) :
    aggregateSubtree node c count own matrix = aggregateSubtree node c count own matrix' := by
  unfold aggregateSubtree
  rw [List.foldl_ext _ _ _ (fun v child hchild => by rw [h child hchild])]

theorem hasVerdict_congr {node : ObservedNode} {count : ℕ} {matrix matrix' : List MatchVerdict}
    {nested : Option ℕ}
    (h : ∀ c, nested = some c → ∀ child ∈ node.children,
      verdictAt matrix child c count = verdictAt matrix' child c count) :
    hasVerdict node count matrix nested = hasVerdict node count matrix' nested := by
  cases nested with
  | none => rfl
  | some c => exact aggregateSubtree_congr (h c rfl)

theorem hasNotVerdict_congr {node : ObservedNode} {count : ℕ}
    {matrix matrix' : List MatchVerdict} {nested : Option ℕ}
    (h : ∀ c, nested = some c → ∀ child ∈ node.children,
      verdictAt matrix child c count = verdictAt matrix' child c count) :
    hasNotVerdict node count matrix nested = hasNotVerdict node count matrix' nested := by
  cases nested with
  | none => rfl
  | some c => exact congrArg MatchVerdict.negate (aggregateSubtree_congr (h c rfl))

/-! ## Linked clauses -/

/-- A nested query and the index of its clause belong together. -/
def LinksTo (clauses : List CompiledClause) : Option LocatorQuery → Option ℕ → Prop
  | none, none => True
  | some nested, some c => ∃ target, clauses[c]? = some target ∧ target.query = nested
  | _, _ => False

/-- **The nested clauses of a list stand for the nested queries.** -/
def Linked (clauses : List CompiledClause) : Prop :=
  ∀ clause ∈ clauses, LinksTo clauses clause.query.has clause.has
    ∧ LinksTo clauses clause.query.hasNot clause.hasNot

theorem LinksTo.mono {clauses clauses' : List CompiledClause} {nested : Option LocatorQuery}
    {c : Option ℕ} (h : LinksTo clauses nested c) (hpre : clauses <+: clauses') :
    LinksTo clauses' nested c := by
  cases nested with
  | none => cases c <;> exact h
  | some nested =>
    cases c with
    | none => exact h
    | some c =>
      obtain ⟨target, hget, hquery⟩ := h
      obtain ⟨rest, rfl⟩ := hpre
      have hlt := (List.getElem?_eq_some_iff.mp hget).1
      exact ⟨target, by rw [List.getElem?_append_left hlt, hget], hquery⟩

theorem LinksTo.lt {clauses : List CompiledClause} {nested : Option LocatorQuery} {c : ℕ}
    (h : LinksTo clauses nested (some c)) : c < clauses.length := by
  cases nested with
  | none => exact absurd h id
  | some nested =>
    obtain ⟨target, hget, -⟩ := h
    exact (List.getElem?_eq_some_iff.mp hget).1

mutual

/-- **Compilation links every clause**, the new ones and those already there. -/
theorem compileClauses_spec (query : LocatorQuery) {clauses : List CompiledClause}
    (h : Linked clauses) :
    clauses <+: (compileClauses clauses query).2 ∧ Linked (compileClauses clauses query).2
      ∧ LinksTo (compileClauses clauses query).2 (some query)
        (some (compileClauses clauses query).1) := by
  obtain ⟨identity, hasText, exact', states, has, hasNot⟩ := query
  obtain ⟨hpre, hlinked, hhas⟩ := compileNested_spec has h
  obtain ⟨hpre', hlinked', hhasNot⟩ := compileNested_spec hasNot hlinked
  rw [compileClauses]
  refine ⟨(hpre.trans hpre').trans (List.prefix_append _ _), ?_, ?_⟩
  · intro clause hclause
    rcases List.mem_append.mp hclause with hold | hnew
    · exact ⟨(hlinked' clause hold).1.mono (List.prefix_append _ _),
        (hlinked' clause hold).2.mono (List.prefix_append _ _)⟩
    · obtain rfl := List.mem_singleton.mp hnew
      exact ⟨hhas.mono (hpre'.trans (List.prefix_append _ _)),
        hhasNot.mono (List.prefix_append _ _)⟩
  · exact ⟨_, List.getElem?_concat_length, rfl⟩

theorem compileNested_spec (nested : Option LocatorQuery) {clauses : List CompiledClause}
    (h : Linked clauses) :
    clauses <+: (compileNested clauses nested).2 ∧ Linked (compileNested clauses nested).2
      ∧ LinksTo (compileNested clauses nested).2 nested (compileNested clauses nested).1 := by
  cases nested with
  | none => exact ⟨List.prefix_rfl, h, trivial⟩
  | some query => exact compileClauses_spec query h

end

section

variable [UnicodeLowercase] {node : ObservedNode} {n count : ℕ}

/-! ## The equations of a cell

The evaluation fills its matrices from the leaves up. What is known when it is done does not mention
this order: every cell satisfies an equation in the evidence of its node and the cells of its
children, and the verdict of a query is one of the cells. -/

/-- **The equations of a cell**: the text of the subtree, the match of the
node, and the match of the subtree. -/
structure SettledAt (node : ObservedNode) (n count : ℕ) (clause : CompiledClause) (c : ℕ)
    (b : EvaluationBuffers) : Prop where
  /-- The text of the subtree. -/
  text : verdictAt b.subtreeText n c count
    = textVerdictOf node clause.query c count b.subtreeText
  /-- The match of the node. -/
  matched : verdictAt b.nodeMatches n c count
    = (((textsVerdict clause.query node.evidence
          (screenVerdict clause.query node.evidence)).and
        (verdictAt b.subtreeText n c count)).and
        (hasVerdict node count b.subtreeMatches clause.has)).and
      (hasNotVerdict node count b.subtreeMatches clause.hasNot)
  /-- The match of the subtree. -/
  subtree : verdictAt b.subtreeMatches n c count
    = aggregateSubtree node c count (verdictAt b.nodeMatches n c count) b.subtreeMatches

theorem SettledAt.congr {clause : CompiledClause} {c : ℕ} {b b' : EvaluationBuffers}
    (h : SettledAt node n count clause c b) (hown : AgreeAt count b b' n c)
    (hchildren : ∀ child ∈ node.children, ∀ d < count, AgreeAt count b b' child d)
    (hc : c < count) (hhas : ∀ d, clause.has = some d → d < count)
    (hhasNot : ∀ d, clause.hasNot = some d → d < count) :
    SettledAt node n count clause c b' where
  text := by
    rw [← hown.subtreeText, h.text]
    unfold textVerdictOf
    split_ifs
    · exact aggregateSubtree_congr (fun child hchild => (hchildren child hchild c hc).subtreeText)
    · rfl
  matched := by
    rw [← hown.nodeMatches, h.matched, hown.subtreeText,
      hasVerdict_congr (fun d hd child hchild =>
        (hchildren child hchild d (hhas d hd)).subtreeMatches),
      hasNotVerdict_congr (fun d hd child hchild =>
        (hchildren child hchild d (hhasNot d hd)).subtreeMatches)]
  subtree := by
    rw [← hown.subtreeMatches, h.subtree, hown.nodeMatches]
    exact aggregateSubtree_congr (fun child hchild => (hchildren child hchild c hc).subtreeMatches)

/-! ## One clause at one node -/

variable {clause : CompiledClause} {c cells : ℕ} {b : EvaluationBuffers}

theorem evaluateClause_sized (h : Sized cells b) :
    Sized cells (evaluateClause node n count b (clause, c)) := by
  refine ⟨?_, ?_, ?_⟩ <;> simp only [evaluateClause, List.length_set]
  · exact h.nodeMatches
  · exact h.subtreeMatches
  · exact h.subtreeText

theorem evaluateClause_frame (hsize : Sized cells b) (hcell : cell n c count < cells)
    (hc : c < count) {m d : ℕ} (hd : d < count) (hne : ¬(m = n ∧ d = c)) :
    AgreeAt count b (evaluateClause node n count b (clause, c)) m d := by
  refine ⟨?_, ?_, ?_⟩ <;> simp only [evaluateClause]
  · rw [verdictAt_set _ hc hd (hsize.nodeMatches ▸ hcell), if_neg hne]
  · rw [verdictAt_set _ hc hd (hsize.subtreeMatches ▸ hcell), if_neg hne]
  · rw [verdictAt_set _ hc hd (hsize.subtreeText ▸ hcell), if_neg hne]

/-- **One clause at one node establishes the equations of its cell**, as the
children are other nodes. -/
theorem evaluateClause_settled (hsize : Sized cells b) (hcell : cell n c count < cells)
    (hc : c < count) (hother : ∀ child ∈ node.children, child ≠ n)
    (hhas : ∀ d, clause.has = some d → d < count)
    (hhasNot : ∀ d, clause.hasNot = some d → d < count) :
    SettledAt node n count clause c (evaluateClause node n count b (clause, c)) := by
  have hframe : ∀ child ∈ node.children, ∀ d < count,
      AgreeAt count b (evaluateClause node n count b (clause, c)) child d :=
    fun child hchild d hd => evaluateClause_frame hsize hcell hc hd
      (fun h => hother child hchild h.1)
  have htext : verdictAt (evaluateClause node n count b (clause, c)).subtreeText n c count
      = textVerdictOf node clause.query c count b.subtreeText := by
    simp only [evaluateClause]
    rw [verdictAt_set _ hc hc (hsize.subtreeText ▸ hcell), if_pos ⟨rfl, rfl⟩]
  have hmatched : verdictAt (evaluateClause node n count b (clause, c)).nodeMatches n c count
      = (((textsVerdict clause.query node.evidence
            (screenVerdict clause.query node.evidence)).and
          (textVerdictOf node clause.query c count b.subtreeText)).and
          (hasVerdict node count b.subtreeMatches clause.has)).and
        (hasNotVerdict node count b.subtreeMatches clause.hasNot) := by
    simp only [evaluateClause]
    rw [verdictAt_set _ hc hc (hsize.nodeMatches ▸ hcell), if_pos ⟨rfl, rfl⟩, selfVerdict_fst]
  refine ⟨?_, ?_, ?_⟩
  · rw [htext]
    unfold textVerdictOf
    split_ifs
    · exact aggregateSubtree_congr (fun child hchild => (hframe child hchild c hc).subtreeText)
    · rfl
  · rw [hmatched, htext,
      hasVerdict_congr (fun d hd child hchild =>
        (hframe child hchild d (hhas d hd)).subtreeMatches),
      hasNotVerdict_congr (fun d hd child hchild =>
        (hframe child hchild d (hhasNot d hd)).subtreeMatches)]
  · rw [hmatched, ← aggregateSubtree_congr
      (fun child hchild => (hframe child hchild c hc).subtreeMatches)]
    simp only [evaluateClause]
    rw [verdictAt_set _ hc hc (hsize.subtreeMatches ▸ hcell), if_pos ⟨rfl, rfl⟩,
      selfVerdict_fst]

/-! ## A row, and the walk over all rows -/

/-- The indices of a list of clauses, and of the clauses nested in them, are in
range. -/
def InRange (count : ℕ) (items : List (CompiledClause × ℕ)) : Prop :=
  ∀ item ∈ items, item.2 < count ∧ (∀ d, item.1.has = some d → d < count)
    ∧ (∀ d, item.1.hasNot = some d → d < count)

/-- What a run of the loop of `evaluate_node` over some clauses has done. -/
structure RowDone (node : ObservedNode) (n count cells : ℕ)
    (items : List (CompiledClause × ℕ)) (b b' : EvaluationBuffers) : Prop where
  /-- The matrices keep their size. -/
  sized : Sized cells b'
  /-- The cells of other nodes and other clauses are left alone. -/
  frame : ∀ m, ∀ d < count, (m ≠ n ∨ d ∉ items.map Prod.snd) → AgreeAt count b b' m d
  /-- The cells of the clauses satisfy their equations. -/
  settled : ∀ item ∈ items, SettledAt node n count item.1 item.2 b'

theorem evaluateRow_done (hother : ∀ child ∈ node.children, child ≠ n)
    (hcells : ∀ c < count, cell n c count < cells) (items : List (CompiledClause × ℕ))
    (hnodup : (items.map Prod.snd).Nodup) (hrange : InRange count items)
    (hsize : Sized cells b) :
    RowDone node n count cells items b (items.foldl (evaluateClause node n count) b) := by
  induction items generalizing b with
  | nil =>
    exact ⟨hsize, fun m d _ _ => AgreeAt.refl b m d, fun _ h => absurd h List.not_mem_nil⟩
  | cons item rest ih =>
    obtain ⟨clause, c⟩ := item
    rw [List.map_cons, List.nodup_cons] at hnodup
    obtain ⟨hc, hhas, hhasNot⟩ := hrange (clause, c) List.mem_cons_self
    have hsize' : Sized cells (evaluateClause node n count b (clause, c)) :=
      evaluateClause_sized hsize
    have hrest := ih hnodup.2 (fun item hitem => hrange item (List.mem_cons_of_mem _ hitem))
      hsize'
    refine ⟨hrest.sized, ?_, ?_⟩
    · intro m d hd hne
      have hstep : ¬(m = n ∧ d = c) := by
        rintro ⟨rfl, rfl⟩
        rcases hne with h | h
        · exact h rfl
        · exact h List.mem_cons_self
      refine (evaluateClause_frame hsize (hcells c hc) hc hd hstep).trans
        (hrest.frame m d hd (hne.imp_right (fun h hmem => h (List.mem_cons_of_mem _ hmem))))
    · intro item hitem
      rcases List.mem_cons.mp hitem with rfl | hitem
      · -- the later clauses keep the cell and the rows it was read from
        refine (evaluateClause_settled hsize (hcells c hc) hc hother hhas hhasNot).congr
          (hrest.frame n c hc (Or.inr hnodup.1))
          (fun child hchild d hd => hrest.frame child d hd (Or.inl (hother child hchild)))
          hc hhas hhasNot
      · exact hrest.settled item hitem

variable {tree : ObservedTree} {clauses : List CompiledClause}

omit [UnicodeLowercase] in
theorem inRange_zipIdx (h : Linked clauses) : InRange clauses.length clauses.zipIdx := by
  rintro ⟨clause, c⟩ hitem
  have hget := List.mem_zipIdx_iff_getElem?.mp hitem
  have hmem := List.mem_of_getElem? hget
  refine ⟨(List.getElem?_eq_some_iff.mp hget).1, fun d hd => ?_, fun d hd => ?_⟩
  · exact LinksTo.lt (hd ▸ (h clause hmem).1)
  · exact LinksTo.lt (hd ▸ (h clause hmem).2)

/-- The rows from a node on satisfy their equations. -/
def RowsSettled (tree : ObservedTree) (clauses : List CompiledClause) (from_ : ℕ)
    (b : EvaluationBuffers) : Prop :=
  ∀ m node, from_ ≤ m → tree.nodes[m]? = some node → ∀ c clause, clauses[c]? = some clause →
    SettledAt node m clauses.length clause c b

omit [UnicodeLowercase] in
theorem ObservedTree.child_range (tree : ObservedTree) {n c : ℕ} {node : ObservedNode}
    (hget : tree.nodes[n]? = some node) (hc : c ∈ node.children) :
    n < c ∧ c < tree.nodes.length :=
  tree.laid.child_range (Nat.zero_le _) (List.getElem?_eq_some_iff.mp hget).1
    (childrenAt_of_getElem? hget ▸ hc)

/-- **One node settles its row** and keeps the rows settled before it. -/
theorem evaluateNode_settled (hlinked : Linked clauses)
    (hsize : Sized (tree.nodes.length * clauses.length) b) {n : ℕ}
    (h : RowsSettled tree clauses (n + 1) b) :
    Sized (tree.nodes.length * clauses.length) (evaluateNode tree clauses b n)
      ∧ RowsSettled tree clauses n (evaluateNode tree clauses b n) := by
  unfold evaluateNode
  cases hnode : tree.nodes[n]? with
  | none =>
    refine ⟨hsize, fun m node hm hget => h m node ?_ hget⟩
    rcases Nat.eq_or_lt_of_le hm with rfl | hlt
    · rw [hnode] at hget
      exact absurd hget (by simp)
    · exact hlt
  | some node =>
    have hn := (List.getElem?_eq_some_iff.mp hnode).1
    have hother : ∀ child ∈ node.children, child ≠ n := fun child hchild => by
      have := tree.child_range hnode hchild
      omega
    have hdone := evaluateRow_done hother (fun c hc => cell_lt hn hc) clauses.zipIdx
      (by rw [List.zipIdx_map_snd]; exact List.nodup_range') (inRange_zipIdx hlinked) hsize
    refine ⟨hdone.sized, fun m node' hm hget c clause hclause => ?_⟩
    rcases Nat.eq_or_lt_of_le hm with rfl | hlt
    · obtain rfl := Option.some.inj (hnode.symm.trans hget)
      exact hdone.settled (clause, c) (List.mem_zipIdx_iff_getElem?.mpr hclause)
    · -- a later row reads rows later still
      obtain ⟨hc, hhas, hhasNot⟩ := inRange_zipIdx hlinked (clause, c)
        (List.mem_zipIdx_iff_getElem?.mpr hclause)
      refine (h m node' hlt hget c clause hclause).congr
        (hdone.frame m c hc (Or.inl (by omega))) (fun child hchild d hd => ?_) hc hhas hhasNot
      have := tree.child_range hget hchild
      exact hdone.frame child d hd (Or.inl (by omega))

/-- **Every cell of the evaluation satisfies its equations.** -/
theorem evaluateNodes_settled (hlinked : Linked clauses) :
    RowsSettled tree clauses 0 (evaluateNodes tree clauses) := by
  unfold evaluateNodes
  have hwalk : ∀ n b, Sized (tree.nodes.length * clauses.length) b →
      RowsSettled tree clauses n b →
      RowsSettled tree clauses 0 ((List.range n).reverse.foldl (evaluateNode tree clauses) b) := by
    intro n
    induction n with
    | zero => exact fun b _ h => h
    | succ n ih =>
      intro b hsize h
      rw [List.range_succ, List.reverse_append, List.reverse_singleton, List.singleton_append,
        List.foldl_cons]
      obtain ⟨hsize', h'⟩ := evaluateNode_settled hlinked hsize h
      exact ih _ hsize' h'
  refine hwalk _ _ ⟨?_, ?_, ?_⟩ ?_
  · exact List.length_replicate
  · exact List.length_replicate
  · exact List.length_replicate
  · intro m node hm hget
    rw [List.getElem?_eq_none hm] at hget
    exact absurd hget (by simp)

/-! ## The verdict of a query -/

/-- The clauses a query is compiled into. -/
def clausesOf (query : LocatorQuery) : List CompiledClause :=
  (compileClauses [] query).2

/-- The clause of the query itself. -/
def rootClauseOf (query : LocatorQuery) : ℕ := (compileClauses [] query).1

omit [UnicodeLowercase] in
theorem linked_clausesOf (query : LocatorQuery) : Linked (clausesOf query) :=
  (compileClauses_spec query (fun _ h => absurd h List.not_mem_nil)).2.1

omit [UnicodeLowercase] in
theorem rootClause_target (query : LocatorQuery) :
    ∃ target, (clausesOf query)[rootClauseOf query]? = some target ∧ target.query = query :=
  (compileClauses_spec query (fun _ h => absurd h List.not_mem_nil)).2.2

end

end AgentDesktop
