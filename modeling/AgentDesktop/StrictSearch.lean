import AgentDesktop.SearchSpec

/-!
# Strict search is sound

An element that strict search returns is the only candidate of the whole tree,
or the only candidate with the recorded bounds; and the tree was read to the
end. What it returns otherwise says which of the other cases it is: nothing, or
nothing verified; several; candidates of which none has the bounds; the
identifier on another role; or that the search was cut short.
-/

namespace AgentDesktop

section

variable [BoundsHasher] {Object : Type} {tree : AXTree Object} {roots : List AXElement}
  {entry : RefEntry} {maxDepth : ℕ} {usage : ObservationUsage}

/-! ## Classifying what was found

The code filters the candidates by their bounds and decides by how many are left. The two relations
here list its answers in the words of what was found, without the order of the tests. -/

theorem AXTree.BoundsMatch.of_object {element other : AXElement}
    (h : tree.BoundsMatch entry element) (hobject : tree.object other = tree.object element) :
    tree.BoundsMatch entry other := by
  obtain ⟨expected, hexpected, hbounds⟩ := h
  exact ⟨expected, hexpected, by rw [hobject, hbounds]⟩

theorem AXTree.BoundsMatch.isSome {element : AXElement} (h : tree.BoundsMatch entry element) :
    entry.geometry.boundsHash ≠ none := by
  obtain ⟨expected, hexpected, -⟩ := h
  rw [hexpected]
  exact Option.some_ne_none expected

theorem verifiedBoundsMatch_ensures {candidate : AXElement}
    (hreach : tree.Reaches roots candidate) (context : ResolveReadContext) :
    (verifiedBoundsMatch tree candidate entry context).Ensures
      (fun found => found.1 = true ↔ tree.BoundsMatch entry candidate)
      (Interrupted tree roots entry maxDepth usage) := by
  unfold verifiedBoundsMatch AXTree.BoundsMatch
  cases hhash : entry.geometry.boundsHash with
  | none => simp
  | some expected =>
    dsimp only
    cases hread : tree.readBounds context candidate with
    | error error => exact ⟨tree.readBounds_error hread, .boundsFailed hreach hread⟩
    | ok read =>
      have hbounds := tree.readBounds_eq hread
      show (read.1.bind Rect.boundsHash == some expected) = true ↔ _
      rw [hbounds, beq_iff_eq]
      simp only [Option.some.injEq, exists_eq_left']

/-- **The candidates whose bounds match**, in their order. -/
theorem boundsMatches_ensures {candidates : List AXElement}
    (hreach : ∀ candidate ∈ candidates, tree.Reaches roots candidate)
    (context : ResolveReadContext) :
    (boundsMatches tree entry candidates context).Ensures
      (fun matching => matching.Sublist candidates ∧
        (∀ candidate ∈ matching, tree.BoundsMatch entry candidate) ∧
          ∀ candidate ∈ candidates, tree.BoundsMatch entry candidate → candidate ∈ matching)
      (Interrupted tree roots entry maxDepth usage) := by
  induction candidates generalizing context with
  | nil => exact ⟨.slnil, fun _ h => absurd h List.not_mem_nil, fun _ h => absurd h List.not_mem_nil⟩
  | cons candidate rest ih =>
    unfold boundsMatches
    have hfirst : (verifiedBoundsMatch tree candidate entry context).Ensures
        (fun found => found.1 = true ↔ tree.BoundsMatch entry candidate)
        (Interrupted tree roots entry maxDepth usage) :=
      verifiedBoundsMatch_ensures (hreach candidate List.mem_cons_self) context
    cases hcase : verifiedBoundsMatch tree candidate entry context with
    | error error => exact hfirst.of_error hcase
    | ok found =>
      have hfound := hfirst.of_ok hcase
      have hrest := ih (fun c hc => hreach c (List.mem_cons_of_mem _ hc)) found.2
      cases hothers : boundsMatches tree entry rest found.2 with
      | error error =>
        simp only [hothers]
        exact hrest.of_error hothers
      | ok others =>
        obtain ⟨hsublist, hmatch, hall⟩ := hrest.of_ok hothers
        simp only [hothers]
        show List.Sublist (if found.1 = true then candidate :: others else others) _ ∧ _
        split_ifs with hyes
        · refine ⟨hsublist.cons_cons candidate, fun c hc => ?_, fun c hc hbounds => ?_⟩
          · rcases List.mem_cons.mp hc with rfl | hc
            · exact hfound.mp hyes
            · exact hmatch c hc
          · rcases List.mem_cons.mp hc with rfl | hc
            · exact List.mem_cons_self
            · exact List.mem_cons_of_mem _ (hall c hc hbounds)
        · refine ⟨hsublist.cons candidate, hmatch, fun c hc hbounds => ?_⟩
          rcases List.mem_cons.mp hc with rfl | hc
          · exact absurd (hfound.mpr hbounds) hyes
          · exact hall c hc hbounds

variable (tree roots entry maxDepth usage)

/-- **The element a classification chooses.** -/
inductive Chosen (sourceWindowVerified : Bool) (found : List AXElement) (element : AXElement) :
    Prop
  /-- The only one, in a verified window or with the recorded bounds. -/
  | alone (hfound : found = [element])
      (hverified : sourceWindowVerified = true ∧ hasMeaningfulIdentity entry = true ∨
        tree.BoundsMatch entry element)
  /-- The only one with the recorded bounds. -/
  | byBounds (hmem : element ∈ found) (hbounds : tree.BoundsMatch entry element)
      (hunique : ∀ other ∈ found, tree.BoundsMatch entry other → other = element)

/-- **Why a classification chooses none.** -/
inductive Unchosen (sourceWindowVerified : Bool) (found : List AXElement) : AdapterError → Prop
  /-- Nothing was found. -/
  | nothing (hfound : found = []) :
      Unchosen sourceWindowVerified found (.elementNotFound "element")
  /-- The only one is not verified. -/
  | unverified {element : AXElement} (hfound : found = [element])
      (hwindow : ¬ (sourceWindowVerified = true ∧ hasMeaningfulIdentity entry = true))
      (hbounds : ¬ tree.BoundsMatch entry element) :
      Unchosen sourceWindowVerified found (.elementNotFound "element")
  /-- There are several, and none has the recorded bounds. -/
  | mismatch (hrecorded : entry.geometry.boundsHash ≠ none)
      (hseveral : ∃ first ∈ found, ∃ second ∈ found, tree.object first ≠ tree.object second)
      (hbounds : ∀ element ∈ found, ¬ tree.BoundsMatch entry element) :
      Unchosen sourceWindowVerified found (staleRefFromBoundsMismatch entry found.length)
  /-- There are several, and the bounds do not decide. -/
  | ambiguous (hseveral : ∃ first ∈ found, ∃ second ∈ found,
        tree.object first ≠ tree.object second ∧ (entry.geometry.boundsHash = none ∨
          tree.BoundsMatch entry first ∧ tree.BoundsMatch entry second)) :
      Unchosen sourceWindowVerified found (ambiguousTargetError found.length entry)
  /-- Bounds could not be read. -/
  | interrupted {error : AdapterError}
      (h : Interrupted tree roots entry maxDepth usage error) :
      Unchosen sourceWindowVerified found error

variable {tree roots entry maxDepth usage}

/-- **What a classification comes to.** -/
theorem classifyCandidates_ensures {found : List AXElement} (sourceWindowVerified : Bool)
    (hreach : ∀ element ∈ found, tree.Reaches roots element)
    (hdistinct : found.Pairwise (fun a b => tree.object a ≠ tree.object b))
    (context : ResolveReadContext) :
    (classifyCandidates tree found entry sourceWindowVerified context).Ensures
      (Chosen tree entry sourceWindowVerified found)
      (Unchosen tree roots entry maxDepth usage sourceWindowVerified found) := by
  unfold classifyCandidates
  rcases found with _ | ⟨first, _ | ⟨second, rest⟩⟩
  · exact .nothing rfl
  · dsimp only
    unfold candidateIsSufficientlyVerified candidateRequiresBounds
    rw [Bool.not_not]
    by_cases hwindow : (sourceWindowVerified && hasMeaningfulIdentity entry) = true
    · rw [if_pos hwindow]
      exact .alone rfl (.inl (Bool.and_eq_true_iff.mp hwindow))
    · rw [if_neg hwindow]
      have hbounds : (verifiedBoundsMatch tree first entry context).Ensures
          (fun found => found.1 = true ↔ tree.BoundsMatch entry first)
          (Interrupted tree roots entry maxDepth usage) :=
        verifiedBoundsMatch_ensures (hreach first List.mem_cons_self) context
      cases hcase : verifiedBoundsMatch tree first entry context with
      | error error => exact .interrupted (hbounds.of_error hcase)
      | ok result =>
        obtain ⟨matched, context'⟩ := result
        have hmatch := hbounds.of_ok hcase
        cases matched with
        | true => exact .alone rfl (.inr (hmatch.mp rfl))
        | false =>
          refine .unverified rfl (fun h => hwindow (Bool.and_eq_true_iff.mpr h)) (fun h => ?_)
          cases hmatch.mpr h
  · dsimp only
    have hdiffer : tree.object first ≠ tree.object second :=
      List.rel_of_pairwise_cons hdistinct List.mem_cons_self
    have hfirst : first ∈ first :: second :: rest := List.mem_cons_self
    have hsecond : second ∈ first :: second :: rest := List.mem_cons_of_mem _ List.mem_cons_self
    unfold classifyAmbiguousCandidates
    by_cases hhash : entry.geometry.boundsHash.isNone = true
    · rw [if_pos hhash]
      exact .ambiguous ⟨first, hfirst, second, hsecond, hdiffer,
        .inl (Option.isNone_iff_eq_none.mp hhash)⟩
    · rw [if_neg hhash]
      have hbounds : (boundsMatches tree entry (first :: second :: rest) context).Ensures _
          (Interrupted tree roots entry maxDepth usage) := boundsMatches_ensures hreach context
      cases hcase : boundsMatches tree entry (first :: second :: rest) context with
      | error error => exact .interrupted (hbounds.of_error hcase)
      | ok matching =>
        obtain ⟨hsublist, hmatch, hall⟩ := hbounds.of_ok hcase
        rcases matching with _ | ⟨one, _ | ⟨two, others⟩⟩
        · exact .mismatch (fun hnone => hhash (Option.isNone_iff_eq_none.mpr hnone)) ⟨first, hfirst, second, hsecond, hdiffer⟩
            (fun element hmem h => List.not_mem_nil (hall element hmem h))
        · exact .byBounds (hsublist.subset List.mem_cons_self) (hmatch one List.mem_cons_self)
            (fun other hmem h => List.mem_singleton.mp (hall other hmem h))
        · have htwo : two ∈ one :: two :: others := List.mem_cons_of_mem _ List.mem_cons_self
          exact .ambiguous ⟨one, hsublist.subset List.mem_cons_self, two, hsublist.subset htwo,
            List.rel_of_pairwise_cons (hdistinct.sublist hsublist) List.mem_cons_self,
            .inr ⟨hmatch one List.mem_cons_self, hmatch two htwo⟩⟩

/-! ## Soundness

What a classification says of the candidates is a statement about the tree only if the tree was read
to its end and every element in full. The search keeps track of that, and the answers below depend
on it. -/

variable (tree roots entry maxDepth usage)

/-- Every element of the tree is read in full. -/
def Searched : Prop := ∀ element, tree.Reaches roots element → tree.ReadInFull entry element

/-- **What a resolved element is.** -/
structure ResolvedElement (sourceWindowVerified : Bool) (element : AXElement) : Prop where
  /-- The whole tree was read. -/
  searched : Searched tree roots entry
  /-- The element is in the tree. -/
  reached : tree.Reaches roots element
  /-- It was read as a candidate. -/
  candidate : tree.ReadsAsCandidate entry element
  /-- Its identity matches, where the entry has a meaningful one. -/
  identity : hasMeaningfulIdentity entry = true → tree.IdentityMatches entry element
  /-- It is the only candidate, or the only one with the recorded bounds. -/
  unique :
    (∀ other, tree.Reaches roots other → tree.Candidate entry other →
        tree.object other = tree.object element) ∧
      (sourceWindowVerified = true ∧ hasMeaningfulIdentity entry = true ∨
        tree.BoundsMatch entry element) ∨
    tree.BoundsMatch entry element ∧
      ∀ other, tree.Reaches roots other → tree.Candidate entry other →
        tree.BoundsMatch entry other → tree.object other = tree.object element

/-- **Why an element is not resolved**, with the error that says so. -/
inductive SearchError (sourceWindowVerified : Bool) : AdapterError → Prop
  /-- There is no candidate. -/
  | notFound (hsearched : Searched tree roots entry)
      (hnone : ∀ element, tree.Reaches roots element → ¬ tree.Candidate entry element) :
      SearchError sourceWindowVerified (.elementNotFound "element")
  /-- There is one, which is not verified. -/
  | unverified {element : AXElement} (hsearched : Searched tree roots entry)
      (hreach : tree.Reaches roots element) (hcandidate : tree.ReadsAsCandidate entry element)
      (hunique : ∀ other, tree.Reaches roots other → tree.Candidate entry other →
        tree.object other = tree.object element)
      (hwindow : ¬ (sourceWindowVerified = true ∧ hasMeaningfulIdentity entry = true))
      (hbounds : ¬ tree.BoundsMatch entry element) :
      SearchError sourceWindowVerified (.elementNotFound "element")
  /-- There is none, and the native identifier is on another role. -/
  | identifierReused (hsearched : Searched tree roots entry)
      (hnone : ∀ element, tree.Reaches roots element → ¬ tree.Candidate entry element)
      (hreuse : ∃ element, tree.Reaches roots element ∧ tree.IdentifierReused entry element) :
      SearchError sourceWindowVerified (nativeIdentifierRoleReuse entry)
  /-- There are several, and none has the recorded bounds. -/
  | boundsMismatch {count : ℕ} (hsearched : Searched tree roots entry)
      (hrecorded : entry.geometry.boundsHash ≠ none)
      (hseveral : ∃ first second, tree.ReadsAsCandidate entry first ∧
        tree.ReadsAsCandidate entry second ∧ tree.object first ≠ tree.object second)
      (hbounds : ∀ element, tree.Reaches roots element → tree.Candidate entry element →
        ¬ tree.BoundsMatch entry element) :
      SearchError sourceWindowVerified (staleRefFromBoundsMismatch entry count)
  /-- There are several, and the bounds do not decide. -/
  | ambiguous {count : ℕ} {first second : AXElement}
      (hfirst : tree.Reaches roots first ∧ tree.ReadsAsCandidate entry first)
      (hsecond : tree.Reaches roots second ∧ tree.ReadsAsCandidate entry second)
      (hdiffer : tree.object first ≠ tree.object second)
      (hbounds : entry.geometry.boundsHash = none ∨
        tree.BoundsMatch entry first ∧ tree.BoundsMatch entry second) :
      SearchError sourceWindowVerified (ambiguousTargetError count entry)
  /-- The search was cut short. -/
  | cutShort {error : AdapterError} (h : Interrupted tree roots entry maxDepth usage error) :
      SearchError sourceWindowVerified error
  /-- The owner of the retained object is gone. -/
  | ownerGone (h : tree.OwnerGone entry) :
      SearchError sourceWindowVerified AXTree.ownerUnavailable

variable {tree roots entry maxDepth usage}

/-- **What a choice says about the tree**, once all of it is covered. -/
theorem Chosen.resolvedElement {sourceWindowVerified : Bool} {state : SearchState} {element : AXElement}
    (h : Chosen tree entry sourceWindowVerified state.found element)
    (hcollected : Collected tree roots entry maxDepth usage state)
    (hcovered : ∀ element, tree.Reaches roots element →
      Covered tree entry state.found element) :
    ResolvedElement tree roots entry sourceWindowVerified element := by
  have hmem : element ∈ state.found := by
    cases h with
    | alone hfound _ =>
      rw [hfound]
      exact List.mem_singleton_self element
    | byBounds hmem _ _ => exact hmem
  obtain ⟨hreach, hreads⟩ := hcollected.found element hmem
  refine ⟨fun other hother => (hcovered other hother).1, hreach, hreads,
    fun hidentity => hreads.identityMatches hidentity, ?_⟩
  cases h with
  | alone hfound hverified =>
    refine .inl ⟨fun other hother hcandidate => ?_, hverified⟩
    obtain ⟨represented, hin, hobject⟩ := (hcovered other hother).2 hcandidate
    rw [hfound] at hin
    rw [← hobject, List.mem_singleton.mp hin]
  | byBounds _ hbounds hunique =>
    refine .inr ⟨hbounds, fun other hother hcandidate hmatch => ?_⟩
    obtain ⟨represented, hin, hobject⟩ := (hcovered other hother).2 hcandidate
    rw [← hobject, hunique represented hin (hmatch.of_object hobject)]

/-- **What no choice says about the tree**, once all of it is covered. -/
theorem Unchosen.searchError {sourceWindowVerified : Bool} {state : SearchState}
    {error : AdapterError}
    (h : Unchosen tree roots entry maxDepth usage sourceWindowVerified state.found error)
    (hcollected : Collected tree roots entry maxDepth usage state)
    (hcovered : ∀ element, tree.Reaches roots element →
      Covered tree entry state.found element) :
    SearchError tree roots entry maxDepth usage sourceWindowVerified error := by
  have hsearched : Searched tree roots entry := fun other hother => (hcovered other hother).1
  generalize hfoundEq : state.found = found at h
  cases h with
  | nothing hfound =>
    refine .notFound hsearched (fun other hother hcandidate => ?_)
    obtain ⟨represented, hin, -⟩ := (hcovered other hother).2 hcandidate
    rw [hfoundEq, hfound] at hin
    exact List.not_mem_nil hin
  | @unverified element hfound hwindow hbounds =>
    have hmem : element ∈ state.found := by
      rw [hfoundEq, hfound]
      exact List.mem_singleton_self element
    refine .unverified hsearched (hcollected.found element hmem).1 (hcollected.found element hmem).2
      (fun other hother hcandidate => ?_) hwindow hbounds
    obtain ⟨represented, hin, hobject⟩ := (hcovered other hother).2 hcandidate
    rw [hfoundEq, hfound] at hin
    rw [← hobject, List.mem_singleton.mp hin]
  | mismatch hrecorded hseveral hbounds =>
    subst hfoundEq
    obtain ⟨first, hfirst, second, hsecond, hdiffer⟩ := hseveral
    refine .boundsMismatch hsearched hrecorded ⟨first, second, (hcollected.found first hfirst).2,
      (hcollected.found second hsecond).2, hdiffer⟩ (fun other hother hcandidate hmatch => ?_)
    obtain ⟨represented, hin, hobject⟩ := (hcovered other hother).2 hcandidate
    exact hbounds represented hin (hmatch.of_object hobject)
  | ambiguous hseveral =>
    subst hfoundEq
    obtain ⟨first, hfirst, second, hsecond, hdiffer, hbounds⟩ := hseveral
    exact .ambiguous (hcollected.found first hfirst) (hcollected.found second hsecond) hdiffer hbounds
  | interrupted h => exact .cutShort h

theorem classifyCandidates_of_stop {state : SearchState} (sourceWindowVerified : Bool)
    (h : Collected tree roots entry maxDepth usage state) (hstop : state.stop entry = true) :
    (classifyCandidates tree state.found entry sourceWindowVerified state.context).Ensures
      (ResolvedElement tree roots entry sourceWindowVerified)
      (SearchError tree roots entry maxDepth usage sourceWindowVerified) := by
  unfold SearchState.stop shouldStopCollecting at hstop
  rw [Bool.and_eq_true, decide_eq_true_eq] at hstop
  obtain ⟨hlength, hhash⟩ := hstop
  generalize hfound : state.found = found at hlength
  rcases found with _ | ⟨first, _ | ⟨second, rest⟩⟩
  · cases hlength
  · exact absurd hlength (Nat.lt_irrefl 1)
  · have hfirst : first ∈ state.found := by
      rw [hfound]
      exact List.mem_cons_self
    have hsecond : second ∈ state.found := by
      rw [hfound]
      exact List.mem_cons_of_mem _ List.mem_cons_self
    have hdistinct := h.distinct
    rw [hfound] at hdistinct
    show (classifyAmbiguousCandidates tree _ entry _).Ensures _ _
    unfold classifyAmbiguousCandidates
    rw [if_pos hhash]
    exact .ambiguous (h.found first hfirst) (h.found second hsecond)
      (List.rel_of_pairwise_cons hdistinct List.mem_cons_self)
      (.inl (Option.isNone_iff_eq_none.mp hhash))

/-- **What the search comes to**: an element that is resolved, or the reason why none is. -/
theorem findEntryInRoots_ensures [DecidableEq Object] (tree : AXTree Object)
    (roots : List AXElement) (entry : RefEntry) (resolveDepth : ℕ) (sourceWindowVerified : Bool)
    (context : ResolveReadContext) :
    (findEntryInRoots tree roots entry resolveDepth sourceWindowVerified context).Ensures
      (ResolvedElement tree roots entry sourceWindowVerified)
      (SearchError tree roots entry resolveDepth context.usage sourceWindowVerified) := by
  unfold findEntryInRoots
  have hstart : Collected tree roots entry resolveDepth context.usage ⟨[], none, false, context⟩ :=
    ⟨fun _ h => absurd h List.not_mem_nil, .nil, fun _ h => absurd h.symm (Option.some_ne_none _),
      fun h => absurd h Bool.false_ne_true, rfl⟩
  refine Except.Ensures.bind ((children_ensures (collectElementsRecursive_ensures le_rfl)
    (fun root hroot => ?_) hstart le_rfl).imp (fun _ h => h) ?_) ?_
  · rw [Nat.sub_self]
    exact .root hroot
  · rintro error (h | ⟨rfl, h⟩)
    · exact .cutShort h
    · exact .ownerGone h
  rintro state - ⟨hcollected, -, -, hexplored⟩
  by_cases hstop : state.stop entry = true
  · rw [if_pos hstop]
    exact classifyCandidates_of_stop sourceWindowVerified hcollected hstop
  rw [if_neg hstop]
  cases hincomplete : state.incomplete with
  | some error => exact .cutShort (hcollected.incomplete error hincomplete)
  | none =>
    -- nothing is marked, so the whole tree is covered
    have hcovered : ∀ element, tree.Reaches roots element →
        Covered tree entry state.found element :=
      fun element hreach => Explored.covered
        (hexplored (Bool.eq_false_iff.mpr hstop) hincomplete) hreach
    dsimp only
    by_cases hreuse : (state.identifierRoleReuse && state.found.isEmpty) = true
    · rw [if_pos hreuse]
      obtain ⟨hreuse, hempty⟩ := Bool.and_eq_true_iff.mp hreuse
      refine .identifierReused (fun other hother => (hcovered other hother).1)
        (fun other hother hcandidate => ?_) (hcollected.reuse hreuse)
      obtain ⟨represented, hin, -⟩ := (hcovered other hother).2 hcandidate
      rw [List.isEmpty_iff.mp hempty] at hin
      exact List.not_mem_nil hin
    · rw [if_neg hreuse]
      exact (classifyCandidates_ensures sourceWindowVerified
        (fun element hmem => (hcollected.found element hmem).1) hcollected.distinct
        state.context).imp (fun _ h => h.resolvedElement hcollected hcovered)
          (fun _ h => h.searchError hcollected hcovered)

omit [BoundsHasher] in
theorem Interrupted.code_ne {error : AdapterError} {code : ErrorCode}
    (h : Interrupted tree roots entry maxDepth usage error)
    (hcode : code ≠ .timeout ∧ code ≠ .permDenied ∧ code ≠ .appUnresponsive) :
    error.code ≠ code := by
  rintro rfl
  rcases h.1 with h | h | h
  · exact hcode.1 h
  · exact hcode.2.1 h
  · exact hcode.2.2 h

theorem SearchError.of_elementNotFound {sourceWindowVerified : Bool} {error : AdapterError}
    (h : SearchError tree roots entry maxDepth usage sourceWindowVerified error)
    (hcode : error.code = .elementNotFound) :
    Searched tree roots entry ∧
      ∀ first second, tree.Reaches roots first → tree.Reaches roots second →
        tree.Candidate entry first → tree.Candidate entry second →
          tree.object first = tree.object second := by
  cases h with
  | notFound hsearched hnone =>
    exact ⟨hsearched, fun first _ hfirst _ hcandidate _ => absurd hcandidate (hnone first hfirst)⟩
  | unverified hsearched _ _ hunique _ _ =>
    exact ⟨hsearched, fun first second hfirst hsecond hcandidate hcandidate' =>
      (hunique first hfirst hcandidate).trans (hunique second hsecond hcandidate').symm⟩
  | identifierReused => cases hcode
  | boundsMismatch => cases hcode
  | ambiguous => cases hcode
  | ownerGone => cases hcode
  | cutShort h => exact absurd hcode (h.code_ne (by decide))

/-- The code for several found: there are two elements, each read as a candidate, and no bounds
that decide. -/
theorem SearchError.of_ambiguousTarget {sourceWindowVerified : Bool} {error : AdapterError}
    (h : SearchError tree roots entry maxDepth usage sourceWindowVerified error)
    (hcode : error.code = .ambiguousTarget) :
    ∃ first second, (tree.Reaches roots first ∧ tree.ReadsAsCandidate entry first) ∧
      (tree.Reaches roots second ∧ tree.ReadsAsCandidate entry second) ∧
        tree.object first ≠ tree.object second ∧ (entry.geometry.boundsHash = none ∨
          tree.BoundsMatch entry first ∧ tree.BoundsMatch entry second) := by
  cases h with
  | ambiguous hfirst hsecond hdiffer hbounds => exact ⟨_, _, hfirst, hsecond, hdiffer, hbounds⟩
  | notFound => cases hcode
  | unverified => cases hcode
  | identifierReused => cases hcode
  | boundsMismatch => cases hcode
  | ownerGone => cases hcode
  | cutShort h => exact absurd hcode (h.code_ne (by decide))

theorem SearchError.of_cutShort {sourceWindowVerified : Bool} {error : AdapterError}
    (h : SearchError tree roots entry maxDepth usage sourceWindowVerified error)
    (hcode : error.code = .timeout ∨ error.code = .permDenied ∨ error.code = .appUnresponsive) :
    CutShort tree roots entry maxDepth usage := by
  cases h with
  | cutShort h => exact h.2
  | notFound => rcases hcode with h | h | h <;> cases h
  | unverified => rcases hcode with h | h | h <;> cases h
  | identifierReused => rcases hcode with h | h | h <;> cases h
  | boundsMismatch => rcases hcode with h | h | h <;> cases h
  | ambiguous => rcases hcode with h | h | h <;> cases h
  | ownerGone => rcases hcode with h | h | h <;> cases h

/-- **Strict search is sound**: an element it returns is the only candidate of a tree that was
read to the end, or the only one with the recorded bounds; an error says which other case it
is, and its code tells nothing found, several found and cut short apart. -/
theorem findEntryInRoots_sound [DecidableEq Object] (tree : AXTree Object)
    (roots : List AXElement) (entry : RefEntry) (resolveDepth : ℕ) (sourceWindowVerified : Bool)
    (context : ResolveReadContext) :
    match findEntryInRoots tree roots entry resolveDepth sourceWindowVerified context with
    | .ok element => ResolvedElement tree roots entry sourceWindowVerified element
    | .error error =>
      SearchError tree roots entry resolveDepth context.usage sourceWindowVerified error ∧
        (error.code = .elementNotFound → Searched tree roots entry ∧
          ∀ first second, tree.Reaches roots first → tree.Reaches roots second →
            tree.Candidate entry first → tree.Candidate entry second →
              tree.object first = tree.object second) ∧
        (error.code = .ambiguousTarget → ∃ first second,
          (tree.Reaches roots first ∧ tree.ReadsAsCandidate entry first) ∧
            (tree.Reaches roots second ∧ tree.ReadsAsCandidate entry second) ∧
              tree.object first ≠ tree.object second ∧ (entry.geometry.boundsHash = none ∨
                tree.BoundsMatch entry first ∧ tree.BoundsMatch entry second)) ∧
        (error.code = .timeout ∨ error.code = .permDenied ∨ error.code = .appUnresponsive →
          CutShort tree roots entry resolveDepth context.usage) := by
  have h := findEntryInRoots_ensures tree roots entry resolveDepth sourceWindowVerified context
  cases hcase : findEntryInRoots tree roots entry resolveDepth sourceWindowVerified context with
  | ok element => exact h.of_ok hcase
  | error error =>
    have herror := h.of_error hcase
    exact ⟨herror, herror.of_elementNotFound, herror.of_ambiguousTarget, herror.of_cutShort⟩

end

/-! An unnamed group, and the ref to it: there is nothing to tell it by but its bounds. -/

namespace Sample

/-- What can be read of an element with a role and maybe a name. -/
def plainEvidence (role : String) (name : LocatorField String) : LocatorEvidence where
  role := .known role
  name := name
  description := .absent
  value := .absent
  identifiers := .absent
  states := .absent
  refEvidence := ⟨.absent, .absent⟩

/-- Where the group is. -/
def groupBounds : Rect := ⟨.finite 10, .finite 20, .finite 300, .finite 40⟩

/-- A window with an unnamed group. -/
def unnamedGroup : AXTree ℕ :=
  steadyTree (fun object => if object = 0 then [⟨1⟩] else [])
    (fun object => if object = 0 then plainEvidence "window" (.known "Notes")
      else plainEvidence "group" .absent)
    (fun object => if object = 0 then none else some groupBounds)

/-- The entry of the ref to the group. -/
def unnamedGroupEntry : RefEntry where
  process := ⟨7, some "7-1"⟩
  identity := ⟨none, "group", none, none, none, none⟩
  geometry := ⟨some groupBounds, @Rect.boundsHash noBoundsHash groupBounds⟩
  capabilities := ⟨[], []⟩
  source := ⟨none, none, none, none, .window⟩
  scope := ⟨none, false, [0]⟩

/-- A search with room for a hundred nodes. -/
def freshRead : ResolveReadContext := ⟨⟨⟨100, 100, 100, 100, 100⟩, 0, 0, 0⟩, 0⟩

end Sample

/-- The group is resolved by its bounds, and its identity does not match: nothing that is known
of it identifies it. -/
theorem findEntryInRoots_sound_unnamed_group :
    @findEntryInRoots ℕ _ Sample.unnamedGroup Sample.noBoundsHash [⟨0⟩] Sample.unnamedGroupEntry
        50 true Sample.freshRead = .ok ⟨1⟩ ∧
      ¬ Sample.unnamedGroup.IdentityMatches Sample.unnamedGroupEntry ⟨1⟩ := by
  refine ⟨rfl, fun h => ?_⟩
  have := h.2
  revert this
  decide

end AgentDesktop
