import AgentDesktop.StrictSearch

/-!
# The element at the recorded path, and strict search

Before the whole tree is searched, the element at the recorded path is looked
at, and taken when it is a candidate that is verified. In a verified window a
candidate with a meaningful identity is verified as it is: neither are its
bounds compared nor other candidates looked for. So the search would agree as
long as the element has no rival, and where it can read the tree, no longer.
-/

namespace AgentDesktop

section

variable [BoundsHasher] {Object : Type} [DecidableEq Object] {tree : AXTree Object}
  {roots : List AXElement} {entry : RefEntry}

/-! ## What is found at a path -/

omit [BoundsHasher] [DecidableEq Object] in
/-- **What is at a path is in the tree.** -/
theorem elementAtPath_ensures {current : AXElement} (hreach : tree.Reaches roots current)
    (path : RefPath) (context : ResolveReadContext) :
    (elementAtPath tree current path context).Ensures
      (fun read => ∀ element, read.1 = some element → tree.Reaches roots element)
      (fun _ => True) := by
  induction path generalizing current context with
  | nil =>
    intro element h
    obtain rfl := Option.some.inj h
    exact hreach
  | cons index rest ih =>
    unfold elementAtPath
    refine Except.Ensures.bind (Except.ensures_true _) (fun context₁ _ _ => ?_)
    cases context₁.usage.claimNode with
    | none => trivial
    | some usage =>
      refine Except.Ensures.bind (Except.ensures_true _) ?_
      rintro ⟨role, context₂⟩ hrole -
      rcases hread : tree.readChildAt context₂ current role index with ⟨read, disabled, context₃⟩
      simp only [hread]
      refine Except.Ensures.bind (Except.ensures_true _) (fun context₄ _ _ => ?_)
      by_cases hdisabled : disabled = true
      · rw [if_pos hdisabled]
        trivial
      rw [if_neg hdisabled]
      cases hcomplete : read.complete with
      | false => trivial
      | true =>
        rw [Bool.not_true, if_neg Bool.false_ne_true]
        cases hlast : read.elements.getLast? with
        | none => exact fun element h => absurd h.symm (Option.some_ne_none element)
        | some child =>
          have hchild := List.mem_of_getLast? hlast
          rw [tree.readChildAt_complete hrole hread hcomplete, Option.mem_toList] at hchild
          obtain ⟨depth, hreach⟩ := hreach
          exact ih ⟨depth + 1, hreach.child (List.mem_of_getElem? hchild)⟩ _

omit [BoundsHasher] [DecidableEq Object] in
theorem candidateIdentity_ensures (element : AXElement) (context : ResolveReadContext) :
    (candidateIdentity tree element entry context).Ensures
      (fun verdict => verdict.1 = .matched → tree.ReadsAsCandidate entry element)
      (fun _ => True) := by
  unfold candidateIdentity
  have hclaimed : (readNode tree (identityRequirements entry) context element).Ensures
      (fun read => ∃ context₀ context₁,
        tree.readNode context₀ element (identityRequirements entry) = .ok (read.1, context₁))
      (fun _ => True) := by
    unfold readNode
    cases context.usage.claimNode with
    | none => trivial
    | some usage => exact (Except.ensures_true _).bind (fun read hread _ => ⟨_, _, hread⟩)
  refine hclaimed.bind ?_
  rintro ⟨read, context'⟩ - ⟨context₀, context₁, hread⟩
  dsimp only at hread ⊢
  cases hvalid : read.invalidElement with
  | true => exact fun h => by cases h
  | false =>
    rw [if_neg Bool.false_ne_true]
    cases hrole : read.evidence.role with
    | unknown => exact fun h => by cases h
    | absent => exact fun h => by cases h
    | known role =>
      dsimp only
      by_cases heq : role = entry.identity.role
      · subst heq
        rw [if_pos rfl]
        refine Except.Ensures.bind ((tree.candidateMatch_ensures element entry read.evidence).imp
          (fun _ h => h) (fun _ _ => trivial)) ?_
        intro verdict hmatch _
        have hreads : tree.ReadsAs entry element verdict :=
          ⟨context₀, read, context₁, hread, hvalid, hrole, hmatch⟩
        split_ifs with hprovisional
        · exact fun _ => .inr ⟨hprovisional.1 ▸ hreads, hprovisional.2⟩
        · exact fun hmatched => .inl (hmatched ▸ hreads)
      · rw [if_neg heq]
        exact fun h => by cases h

omit [BoundsHasher] in
/-- **One root**: what is found are elements of the tree that were read as candidates. -/
theorem lookAtPath_ensures {root : AXElement} {state : SearchState} (hroot : root ∈ roots)
    (h : ∀ element ∈ state.found, tree.Reaches roots element ∧ tree.ReadsAsCandidate entry element)
    (hdistinct : state.found.Pairwise (fun a b => tree.object a ≠ tree.object b)) :
    (lookAtPath tree entry root state).Ensures
      (fun state' => (∀ element ∈ state'.found,
          tree.Reaches roots element ∧ tree.ReadsAsCandidate entry element) ∧
        state'.found.Pairwise (fun a b => tree.object a ≠ tree.object b))
      (fun _ => True) := by
  unfold lookAtPath
  refine Except.Ensures.bind (Except.ensures_true _) (fun context _ _ => ?_)
  refine Except.Ensures.bind (elementAtPath_ensures ⟨0, .root hroot⟩ _ _) ?_
  rintro ⟨candidate, context'⟩ - hcandidate
  cases candidate with
  | none => exact ⟨h, hdistinct⟩
  | some candidate =>
    refine Except.Ensures.bind (candidateIdentity_ensures candidate context') ?_
    rintro ⟨verdict, context''⟩ - hverdict
    cases verdict with
    | unknown => exact ⟨h, hdistinct⟩
    | noMatch => exact ⟨h, hdistinct⟩
    | matched =>
      refine ⟨fun element hmem => ?_, pushUnique_distinct hdistinct⟩
      rcases mem_of_mem_pushUnique hmem with hmem | rfl
      · exact h element hmem
      · exact ⟨hcandidate element rfl, hverdict rfl⟩

/-- **What the element found at the path is**: a candidate that is verified. -/
theorem findEntryByPath_ensures (tree : AXTree Object) (roots : List AXElement)
    (entry : RefEntry) (sourceWindowVerified : Bool) (context : ResolveReadContext) :
    (findEntryByPath tree roots entry sourceWindowVerified context).Ensures
      (fun element => tree.Reaches roots element ∧ tree.ReadsAsCandidate entry element ∧
        (sourceWindowVerified = true ∧ hasMeaningfulIdentity entry = true ∨
          tree.BoundsMatch entry element))
      (fun _ => True) := by
  unfold findEntryByPath
  refine Except.Ensures.bind (Except.ensures_true _) (fun context _ _ => ?_)
  -- what is found at the roots that were looked at
  let I : List AXElement → SearchState → Prop := fun rest state =>
    (∀ root ∈ rest, root ∈ roots) ∧
      (∀ element ∈ state.found,
        tree.Reaches roots element ∧ tree.ReadsAsCandidate entry element) ∧
      state.found.Pairwise (fun a b => tree.object a ≠ tree.object b)
  refine Except.Ensures.bind (Except.untilStop_ensures (I := I) ?_
    ⟨fun _ h => h, fun _ h => absurd h List.not_mem_nil, .nil⟩) ?_
  · rintro root rest state ⟨hroots, hfound, hdistinct⟩ -
    refine (lookAtPath_ensures (hroots root List.mem_cons_self) hfound hdistinct).imp ?_
      (fun _ h => h)
    exact fun state' h => ⟨fun root hroot => hroots root (List.mem_cons_of_mem _ hroot), h⟩
  rintro state - ⟨-, ⟨-, hfound, hdistinct⟩, -⟩
  have hclassified : (classifyCandidates tree state.found entry sourceWindowVerified
      state.context).Ensures (fun element => tree.Reaches roots element ∧
        tree.ReadsAsCandidate entry element ∧
          (sourceWindowVerified = true ∧ hasMeaningfulIdentity entry = true ∨
            tree.BoundsMatch entry element)) (fun _ => True) := by
    have hensures : (classifyCandidates tree state.found entry sourceWindowVerified
        state.context).Ensures _ (Unchosen tree roots entry 0 state.context.usage _ _) :=
      classifyCandidates_ensures sourceWindowVerified
        (fun element hmem => (hfound element hmem).1) hdistinct state.context
    refine hensures.imp ?_ (fun _ _ => trivial)
    rintro element (⟨hone, hverified⟩ | ⟨hmem, hbounds, -⟩)
    · have hmem : element ∈ state.found := by
        rw [hone]
        exact List.mem_singleton_self element
      exact ⟨(hfound element hmem).1, (hfound element hmem).2, hverified⟩
    · exact ⟨(hfound element hmem).1, (hfound element hmem).2, .inr hbounds⟩
  split_ifs
  · exact hclassified
  · cases state.incomplete with
    | some error => trivial
    | none => exact hclassified

/-! ## Rivals -/

/-- **No rival**: no other element can be read as a candidate and, where bounds are recorded,
has them. -/
def NoRival (tree : AXTree Object) (roots : List AXElement) (entry : RefEntry)
    (element : AXElement) : Prop :=
  ∀ other, tree.Reaches roots other → tree.ReadsAsCandidate entry other →
    (entry.geometry.boundsHash ≠ none → tree.BoundsMatch entry other) →
      tree.object other = tree.object element

/-- **The search agrees with an element**: it returns no other, and it does not find several. -/
def Upheld (tree : AXTree Object) (roots : List AXElement) (entry : RefEntry)
    (resolveDepth : ℕ) (sourceWindowVerified : Bool) (context : ResolveReadContext)
    (element : AXElement) : Prop :=
  match findEntryInRoots tree roots entry resolveDepth sourceWindowVerified context with
  | .ok other => tree.object other = tree.object element
  | .error error => error.code ≠ .ambiguousTarget

omit [BoundsHasher] [DecidableEq Object] in
/-- **A tree the search can read**: nothing can cut it short, and no reading of a candidate
leaves out what contradicts it. -/
structure Legible (tree : AXTree Object) (roots : List AXElement) (entry : RefEntry)
    (resolveDepth : ℕ) (usage : ObservationUsage) : Prop where
  /-- Nothing cuts the search short. -/
  uncut : ¬ CutShort tree roots entry resolveDepth usage
  /-- What is read as a candidate is one. -/
  exact : ∀ element, tree.Reaches roots element → tree.ReadsAsCandidate entry element →
    tree.Candidate entry element

theorem NoRival.upheld {element : AXElement} (hrival : NoRival tree roots entry element)
    (hreads : tree.ReadsAsCandidate entry element) (hreach : tree.Reaches roots element)
    (resolveDepth : ℕ) (sourceWindowVerified : Bool) (context : ResolveReadContext) :
    Upheld tree roots entry resolveDepth sourceWindowVerified context element := by
  have h := findEntryInRoots_ensures tree roots entry resolveDepth sourceWindowVerified context
  unfold Upheld
  cases hcase : findEntryInRoots tree roots entry resolveDepth sourceWindowVerified context with
  | ok other =>
    have hother := h.of_ok hcase
    -- by its bounds the other is no rival, by its identity the element is the other
    have hbounds : tree.BoundsMatch entry other → tree.object other = tree.object element :=
      fun hmatch => hrival other hother.reached hother.candidate (fun _ => hmatch)
    rcases hother.unique with ⟨hunique, ⟨-, hidentity⟩ | hmatch⟩ | ⟨hmatch, -⟩
    · refine (hunique element hreach ?_).symm
      unfold AXTree.Candidate
      rw [if_pos hidentity]
      exact hreads.identityMatches hidentity
    · exact hbounds hmatch
    · exact hbounds hmatch
  | error error =>
    intro hcode
    obtain ⟨first, second, hfirst, hsecond, hdiffer, hbounds⟩ :=
      (h.of_error hcase).of_ambiguousTarget hcode
    have hboth : entry.geometry.boundsHash ≠ none →
        tree.BoundsMatch entry first ∧ tree.BoundsMatch entry second :=
      fun hrecorded => hbounds.resolve_left hrecorded
    refine hdiffer ?_
    rw [hrival first hfirst.1 hfirst.2 (fun hrecorded => (hboth hrecorded).1),
      hrival second hsecond.1 hsecond.2 (fun hrecorded => (hboth hrecorded).2)]

theorem Upheld.noRival {element : AXElement} {resolveDepth : ℕ} {sourceWindowVerified : Bool}
    {context : ResolveReadContext}
    (h : Upheld tree roots entry resolveDepth sourceWindowVerified context element)
    (hlegible : Legible tree roots entry resolveDepth context.usage)
    (hreads : tree.ReadsAsCandidate entry element) (hreach : tree.Reaches roots element) :
    NoRival tree roots entry element := by
  intro rival hrivalReach hrivalReads hrivalBounds
  have hcandidate := hlegible.exact element hreach hreads
  have hrival := hlegible.exact rival hrivalReach hrivalReads
  have hsearch :=
    findEntryInRoots_ensures tree roots entry resolveDepth sourceWindowVerified context
  unfold Upheld at h
  cases hcase : findEntryInRoots tree roots entry resolveDepth sourceWindowVerified context with
  | ok found =>
    rw [hcase] at h
    have hfound := hsearch.of_ok hcase
    rw [← h]
    rcases hfound.unique with ⟨hunique, -⟩ | ⟨hmatch, hunique⟩
    · exact hunique rival hrivalReach hrival
    · exact hunique rival hrivalReach hrival (hrivalBounds hmatch.isSome)
  | error error =>
    rw [hcase] at h
    cases hsearch.of_error hcase with
    | notFound _ hnone => exact absurd hcandidate (hnone element hreach)
    | unverified _ _ _ hunique _ _ =>
      rw [hunique rival hrivalReach hrival, hunique element hreach hcandidate]
    | identifierReused _ hnone _ => exact absurd hcandidate (hnone element hreach)
    | boundsMismatch _ hrecorded _ hbounds =>
      exact absurd (hrivalBounds hrecorded) (hbounds rival hrivalReach hrival)
    | ambiguous => exact absurd rfl h
    | cutShort hcut => exact absurd hcut.2 hlegible.uncut
    | ownerGone howner => exact absurd howner hreads.not_ownerGone

/-- **The element at the path and the search**: when the element at the recorded path is taken,
the search agrees if it has no rival, and in a tree the search can read only then. -/
theorem findEntryByPath_upheld_iff (tree : AXTree Object) (roots : List AXElement)
    (entry : RefEntry) (resolveDepth : ℕ) (sourceWindowVerified : Bool)
    (context context' : ResolveReadContext) (element : AXElement)
    (h : findEntryByPath tree roots entry sourceWindowVerified context = .ok element) :
    (NoRival tree roots entry element →
        Upheld tree roots entry resolveDepth sourceWindowVerified context' element) ∧
      (Legible tree roots entry resolveDepth context'.usage →
        (Upheld tree roots entry resolveDepth sourceWindowVerified context' element ↔
          NoRival tree roots entry element)) := by
  obtain ⟨hreach, hreads, -⟩ :=
    (findEntryByPath_ensures tree roots entry sourceWindowVerified context).of_ok h
  have hupheld := fun hrival : NoRival tree roots entry element =>
    hrival.upheld hreads hreach resolveDepth sourceWindowVerified context'
  exact ⟨hupheld, fun hlegible => ⟨fun h => h.noRival hlegible hreads hreach, hupheld⟩⟩

end

/-! A window with a button `Delete`, and with another of that name inserted before it. -/

namespace Sample

/-- The left edge tells the bounds of the sample apart. -/
@[reducible] def edgeHash : BoundsHasher := ⟨fun rect => if rect.x = .finite 10 then 1 else 2⟩

/-- A button at a left edge. -/
def buttonBounds (edge : ℚ) : Rect := ⟨.finite edge, .finite 20, .finite 80, .finite 24⟩

/-- A window with this many buttons `Delete`; only the second is where the button was. -/
def deleteButtons (count : ℕ) : AXTree ℕ :=
  steadyTree
    (fun object => if object = 0 then (List.range count).map (fun index => ⟨index + 1⟩) else [])
    (fun object => if object = 0 then plainEvidence "window" (.known "Notes")
      else plainEvidence "button" (.known "Delete"))
    (fun object => if object = 2 then some (buttonBounds 10) else some (buttonBounds 500))

/-- The entry of the ref to the button. -/
def deleteEntry : RefEntry where
  process := ⟨7, some "7-1"⟩
  identity := ⟨none, "button", some "Delete", none, none, none⟩
  geometry := ⟨some (buttonBounds 10), @Rect.boundsHash edgeHash (buttonBounds 10)⟩
  capabilities := ⟨[], []⟩
  source := ⟨some "Notes", some "w-42", some "Notes", none, .window⟩
  scope := ⟨none, false, [0]⟩

end Sample

/-- **The button inserted at the recorded path is taken**, where the search finds the one that
was recorded. -/
theorem findEntryByPath_of_inserted_sibling :
    canUsePathFastPath Sample.deleteEntry = true ∧
      @findEntryByPath ℕ _ (Sample.deleteButtons 2) Sample.edgeHash [⟨0⟩] Sample.deleteEntry true
        Sample.freshRead = .ok ⟨1⟩ ∧
      @findEntryInRoots ℕ _ (Sample.deleteButtons 2) Sample.edgeHash [⟨0⟩] Sample.deleteEntry 50
        true Sample.freshRead = .ok ⟨2⟩ := by
  refine ⟨by decide, ?_, ?_⟩
  · exact Except.eq_ok_of_toOption (by decide)
  · exact Except.eq_ok_of_toOption (by decide +kernel)

theorem deleteButtons_one_reachesAt {depth : ℕ} {element : AXElement}
    (h : (Sample.deleteButtons 1).ReachesAt [⟨0⟩] depth element) :
    depth = 0 ∧ element = ⟨0⟩ ∨ depth = 1 ∧ element = ⟨1⟩ := by
  induction h with
  | root h => exact .inl ⟨rfl, List.mem_singleton.mp h⟩
  | child _ hchild ih =>
    rcases ih with ⟨rfl, rfl⟩ | ⟨rfl, rfl⟩
    · exact .inr ⟨rfl, List.mem_singleton.mp hchild⟩
    · exact absurd hchild List.not_mem_nil

theorem deleteButtons_one_readsAs {element : AXElement} {verdict : IdentityMatch}
    (hreach : (Sample.deleteButtons 1).Reaches [⟨0⟩] element)
    (h : (Sample.deleteButtons 1).ReadsAs Sample.deleteEntry element verdict) :
    element = ⟨1⟩ ∧ verdict = .matched := by
  obtain ⟨depth, hreach⟩ := hreach
  obtain ⟨_, read, _, hread, _, hrole, hmatch⟩ := h
  cases hread
  rcases deleteButtons_one_reachesAt hreach with ⟨-, rfl⟩ | ⟨-, rfl⟩
  · exact absurd hrole (by decide)
  · exact ⟨rfl, (Except.ok.inj hmatch).symm.trans (by decide)⟩

theorem deleteButtons_one_legible :
    Legible (Sample.deleteButtons 1) [⟨0⟩] Sample.deleteEntry 50 Sample.freshRead.usage := by
  refine ⟨fun hcut => ?_, fun element hreach hcandidate => ?_⟩
  · cases hcut with
    | expired h => cases h
    | budget h => exact absurd h (by decide)
    | readFailed _ h => cases h
    | boundsFailed _ h => cases h
    | partialRead hreach h hmissing =>
      obtain ⟨depth, hreach⟩ := hreach
      cases h
      rcases deleteButtons_one_reachesAt hreach with ⟨-, rfl⟩ | ⟨-, rfl⟩ <;>
        exact absurd hmissing (by decide)
    | identity hreach h => cases (deleteButtons_one_readsAs hreach h).2
    | depth hreach =>
      rcases deleteButtons_one_reachesAt hreach with ⟨h, -⟩ | ⟨h, -⟩ <;> cases h
  · unfold AXTree.Candidate
    rw [if_pos (by decide)]
    exact hcandidate.identityMatches (by decide)

theorem deleteButtons_one_noRival :
    @NoRival Sample.edgeHash ℕ (Sample.deleteButtons 1) [⟨0⟩] Sample.deleteEntry ⟨1⟩ := by
  rintro other hreach (hreads | ⟨hreads, -⟩) -
  · rw [(deleteButtons_one_readsAs hreach hreads).1]
  · rw [(deleteButtons_one_readsAs hreach hreads).1]

/-- In the window with one button the search agrees. -/
theorem findEntryByPath_upheld_iff_sample :
    @Upheld Sample.edgeHash ℕ _ (Sample.deleteButtons 1) [⟨0⟩] Sample.deleteEntry 50 true
        Sample.freshRead ⟨1⟩ ∧
      @NoRival Sample.edgeHash ℕ (Sample.deleteButtons 1) [⟨0⟩] Sample.deleteEntry ⟨1⟩ := by
  have h := @findEntryByPath_upheld_iff Sample.edgeHash ℕ _ (Sample.deleteButtons 1) [⟨0⟩]
    Sample.deleteEntry 50 true Sample.freshRead Sample.freshRead ⟨1⟩
    (Except.eq_ok_of_toOption (by decide))
  have hupheld := h.1 deleteButtons_one_noRival
  exact ⟨hupheld, (h.2 deleteButtons_one_legible).mp hupheld⟩

end AgentDesktop
