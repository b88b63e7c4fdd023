import AgentDesktop.ResolveSearch
import Mathlib.Data.Set.Basic
import Mathlib.Algebra.Order.BigOperators.Group.List

/-!
# What the strict search collects

An element is a *candidate* of an entry when it has the role and, as far as can
be known, the identity the entry recorded. What the search has collected at any
time are elements of the tree that were read as candidates, no two of one
object; and whatever marks the search as incomplete is a reason why it could not
go on. Where nothing marks it, the elements visited form a set that is closed
under children, up to the ancestors that are still being visited, and of which
every candidate was collected.
-/

namespace AgentDesktop

section

variable {Object : Type} (tree : AXTree Object) (entry : RefEntry)

/-! ## Candidates -/

/-- **The identity of an element matches the entry**, from all that could be read of it. -/
def AXTree.IdentityMatches (element : AXElement) : Prop :=
  (tree.evidence (tree.object element)).role = .known entry.identity.role ∧
    tree.verdictFrom entry (tree.object element) (tree.evidence (tree.object element)) = .matched

/-- An element of the role, whose identity is not contradicted by what the search asks for. -/
def AXTree.Uncontradicted (element : AXElement) : Prop :=
  (tree.evidence (tree.object element)).role = .known entry.identity.role ∧
    tree.verdictFrom entry (tree.object element)
      ((tree.evidence (tree.object element)).requested (identityRequirements entry)) ≠ .noMatch

/-- **A candidate**: the identity matches, or, for an entry that has no meaningful identity,
is not contradicted. -/
def AXTree.Candidate (element : AXElement) : Prop :=
  if hasMeaningfulIdentity entry = true then tree.IdentityMatches entry element
  else tree.Uncontradicted entry element

/-- A reading of an element of the role, with its verdict. -/
def AXTree.ReadsAs (element : AXElement) (verdict : IdentityMatch) : Prop :=
  ∃ context read context',
    tree.readNode context element (identityRequirements entry) = .ok (read, context') ∧
      read.invalidElement = false ∧ read.evidence.role = .known entry.identity.role ∧
        tree.candidateMatch element entry read.evidence = .ok verdict

/-- **An element that can be read as a candidate.** -/
def AXTree.ReadsAsCandidate (element : AXElement) : Prop :=
  tree.ReadsAs entry element .matched ∨
    tree.ReadsAs entry element .unknown ∧ provisionalGeometryCandidate entry = true

/-- What is read of the evidence of an element settles whether it is a candidate. -/
def AXTree.Settles (element : AXElement) (evidence : LocatorEvidence) : Prop :=
  evidence.role ≠ .unknown ∧ (evidence.role = .known entry.identity.role →
    tree.verdictFrom entry (tree.object element) evidence = .unknown →
      provisionalGeometryCandidate entry = true)

/-- **An element is read in full**: its evidence settles whether it is a candidate, and all
its children are read. -/
def AXTree.ReadInFull (element : AXElement) : Prop :=
  ∃ context read context',
    tree.readNode context element (identityRequirements entry) = .ok (read, context') ∧
      read.invalidElement = false ∧ read.childRead.complete = true ∧
        read.childRead.truncated = false ∧ tree.Settles entry element read.evidence

/-- The native identifier of the entry is on an element of another role. -/
def AXTree.IdentifierReused (element : AXElement) : Prop :=
  ∃ role id, (tree.evidence (tree.object element)).role = .known role ∧
    role ≠ entry.identity.role ∧ entry.identity.nativeId = some id ∧
      id ∈ (tree.evidence (tree.object element)).identifiers.identifiers

/-- The bounds of an element are the recorded ones. -/
def AXTree.BoundsMatch [BoundsHasher] (element : AXElement) : Prop :=
  ∃ expected, entry.geometry.boundsHash = some expected ∧
    (tree.bounds (tree.object element)).bind Rect.boundsHash = some expected

variable {tree entry}

theorem AXTree.verdictFrom_requested (hidentity : hasMeaningfulIdentity entry = true)
    (object : Object) (evidence : LocatorEvidence) :
    tree.verdictFrom entry object (evidence.requested (identityRequirements entry)) =
      tree.verdictFrom entry object evidence := by
  unfold verdictFrom
  cases htoken : entry.identity.retainedObject with
  | some token => rfl
  | none =>
    dsimp only
    unfold matchNativeOrTextIdentity identityMatch
    rw [htoken]
    cases hid : entry.identity.nativeId with
    | some id =>
      have hrequested : (identityRequirements entry).identifiers = true := by
        show entry.identity.nativeId.isSome = true
        rw [hid]
        rfl
      simp only [LocatorEvidence.requested, hrequested, if_true]
    | none =>
      -- what is left is a stable text, and then all the texts are asked for
      have htext : hasStableTextIdentity entry = true := by
        simpa [hasMeaningfulIdentity, htoken, hid] using hidentity
      have hrequested : (hasStableTextIdentity entry || entry.identity.role == "cell") = true := by
        rw [htext]
        rfl
      simp only [LocatorEvidence.requested, identityRequirements, hrequested, if_true]

theorem AXTree.role_of_read {context context' : ResolveReadContext} {element : AXElement}
    {read : NodeRead} {role : String}
    (hread : tree.readNode context element (identityRequirements entry) = .ok (read, context'))
    (hvalid : read.invalidElement = false) (hrole : read.evidence.role = .known role) :
    (tree.evidence (tree.object element)).role = .known role := by
  have h := (tree.readNode_evidence hread hvalid).role.settled
    (by simp [hrole])
  rw [hrole] at h
  exact h

theorem AXTree.ReadsAs.identityMatches {element : AXElement}
    (h : tree.ReadsAs entry element .matched) (hidentity : hasMeaningfulIdentity entry = true) :
    tree.IdentityMatches entry element := by
  obtain ⟨context, read, context', hread, hvalid, hrole, hmatch⟩ := h
  have hverdict := ((tree.candidateMatch_ensures element entry read.evidence).of_ok hmatch).symm
  refine ⟨tree.role_of_read hread hvalid hrole, ?_⟩
  have hsettled := (tree.verdictFrom_steady entry (tree.object element)
    (tree.readNode_evidence hread hvalid)).settled
      (by rw [hverdict]; exact IdentityMatch.noConfusion)
  rw [verdictFrom_requested hidentity] at hsettled
  rw [hsettled, hverdict]

theorem AXTree.ReadsAs.not_ownerGone {element : AXElement} {verdict : IdentityMatch}
    (h : tree.ReadsAs entry element verdict) : ¬ tree.OwnerGone entry := by
  rintro ⟨token, htoken, howner⟩
  obtain ⟨_, read, _, _, _, _, hmatch⟩ := h
  simp [candidateMatch, htoken, retainedMatches, howner, Except.map] at hmatch

theorem AXTree.ReadsAsCandidate.not_ownerGone {element : AXElement}
    (h : tree.ReadsAsCandidate entry element) : ¬ tree.OwnerGone entry := by
  rcases h with h | ⟨h, -⟩
  · exact h.not_ownerGone
  · exact h.not_ownerGone

theorem provisionalGeometryCandidate_eq_false (hidentity : hasMeaningfulIdentity entry = true) :
    provisionalGeometryCandidate entry = false := by
  unfold provisionalGeometryCandidate
  rw [hidentity, Bool.not_true, Bool.and_false]

theorem AXTree.ReadsAsCandidate.identityMatches {element : AXElement}
    (h : tree.ReadsAsCandidate entry element) (hidentity : hasMeaningfulIdentity entry = true) :
    tree.IdentityMatches entry element := by
  rcases h with h | ⟨-, hprovisional⟩
  · exact h.identityMatches hidentity
  · rw [provisionalGeometryCandidate_eq_false hidentity] at hprovisional
    cases hprovisional

/-- **A reading that settles it finds each candidate.** -/
theorem AXTree.Candidate.readsAsCandidate {context context' : ResolveReadContext}
    {element : AXElement} {read : NodeRead} (h : tree.Candidate entry element)
    (hread : tree.readNode context element (identityRequirements entry) = .ok (read, context'))
    (hvalid : read.invalidElement = false) (hsettles : tree.Settles entry element read.evidence) :
    read.evidence.role = .known entry.identity.role ∧
      (tree.verdictFrom entry (tree.object element) read.evidence = .matched ∨
        tree.verdictFrom entry (tree.object element) read.evidence = .unknown ∧
          provisionalGeometryCandidate entry = true) := by
  have hevidence := tree.readNode_evidence hread hvalid
  have hsteady := tree.verdictFrom_steady entry (tree.object element) hevidence
  have hnot : (tree.evidence (tree.object element)).role = .known entry.identity.role ∧
      tree.verdictFrom entry (tree.object element)
        ((tree.evidence (tree.object element)).requested (identityRequirements entry)) ≠
          .noMatch := by
    unfold Candidate at h
    split_ifs at h with hidentity
    · refine ⟨h.1, ?_⟩
      rw [verdictFrom_requested hidentity, h.2]
      exact IdentityMatch.noConfusion
    · exact h
  have hrole : read.evidence.role = .known entry.identity.role := by
    rw [← hevidence.role.settled hsettles.1]
    exact hnot.1
  refine ⟨hrole, ?_⟩
  cases hverdict : tree.verdictFrom entry (tree.object element) read.evidence with
  | matched => exact .inl rfl
  | unknown => exact .inr ⟨rfl, hsettles.2 hrole hverdict⟩
  | noMatch =>
    have := hsteady.settled (by rw [hverdict]; exact IdentityMatch.noConfusion)
    exact absurd (this.trans hverdict) hnot.2

theorem identifierReused_of_read {context context' : ResolveReadContext} {element : AXElement}
    {read : NodeRead}
    (hread : tree.readNode context element (identityRequirements entry) = .ok (read, context'))
    (hvalid : read.invalidElement = false)
    (h : nativeIdentifierReusedByDifferentRole entry read.evidence = true) :
    tree.IdentifierReused entry element := by
  unfold nativeIdentifierReusedByDifferentRole at h
  cases hid : entry.identity.nativeId with
  | none => simp [hid] at h
  | some id =>
    rw [hid] at h
    simp only [Bool.and_eq_true, Option.any_eq_true, bne_iff_ne, List.any_eq_true, beq_iff_eq]
      at h
    obtain ⟨⟨⟨role, hrole, hne⟩, hcomplete⟩, other, hmem, rfl⟩ := h
    have hevidence := tree.readNode_evidence hread hvalid
    have hrequested : (identityRequirements entry).identifiers = true := by
      show entry.identity.nativeId.isSome = true
      rw [hid]
      rfl
    refine ⟨role, other, tree.role_of_read hread hvalid (LocatorField.eq_known_of_known? hrole),
      hne, hid, ?_⟩
    have hkeeps := hevidence.identifiers.keeps other hmem
    simpa [LocatorEvidence.requested, hrequested] using hkeeps

end

/-! ## Reasons to stop -/

section

variable {Object : Type} (tree : AXTree Object)

/-- The visits of a search that goes down this many levels. -/
def AXTree.visits : ℕ → AXElement → ℕ
  | 0, _ => 1
  | levels + 1, element => 1 + ((tree.children (tree.object element)).map (visits levels)).sum

variable (roots : List AXElement) (entry : RefEntry) (maxDepth : ℕ) (usage : ObservationUsage)

/-- **Why a search can be cut short.** -/
inductive CutShort : Prop
  /-- The time is up. -/
  | expired {clock : ℕ} (h : tree.expired clock = true)
  /-- The budget is smaller than the tree. -/
  | budget
      (h : usage.limits.maxNodes < usage.nodes + (roots.map (tree.visits maxDepth)).sum)
  /-- An element cannot be read. -/
  | readFailed {element : AXElement} {context : ResolveReadContext} {error : AdapterError}
      (hreach : tree.Reaches roots element)
      (h : tree.readNode context element (identityRequirements entry) = .error error)
  /-- The bounds of an element cannot be read. -/
  | boundsFailed {element : AXElement} {context : ResolveReadContext} {error : AdapterError}
      (hreach : tree.Reaches roots element) (h : tree.readBounds context element = .error error)
  /-- A reading leaves something out. -/
  | partialRead {element : AXElement} {context context' : ResolveReadContext} {read : NodeRead}
      (hreach : tree.Reaches roots element)
      (h : tree.readNode context element (identityRequirements entry) = .ok (read, context'))
      (hmissing : read.invalidElement = true ∨ read.childRead.complete = false ∨
        read.childRead.truncated = true ∨ read.evidence.role = .unknown)
  /-- The identity of an element is unknown. -/
  | identity {element : AXElement} (hreach : tree.Reaches roots element)
      (h : tree.ReadsAs entry element .unknown)
      (hprovisional : provisionalGeometryCandidate entry = false)
  /-- The tree is deeper than the search goes. -/
  | depth {element child : AXElement} (hreach : tree.ReachesAt roots maxDepth element)
      (hchild : child ∈ tree.children (tree.object element))

/-- **An error that says the search was cut short**, by its code. -/
def Interrupted (error : AdapterError) : Prop :=
  (error.code = .timeout ∨ error.code = .permDenied ∨ error.code = .appUnresponsive) ∧
    CutShort tree roots entry maxDepth usage

/-- An error that ends a search before everything is collected. -/
def Stops (error : AdapterError) : Prop :=
  Interrupted tree roots entry maxDepth usage error ∨
    error = AXTree.ownerUnavailable ∧ tree.OwnerGone entry

/-! ## What has been collected -/

/-- **What a search has collected so far.** -/
structure Collected (state : SearchState) : Prop where
  /-- Elements of the tree that were read as candidates. -/
  found : ∀ element ∈ state.found,
    tree.Reaches roots element ∧ tree.ReadsAsCandidate entry element
  /-- No two of one object. -/
  distinct : state.found.Pairwise (fun a b => tree.object a ≠ tree.object b)
  /-- What makes it incomplete is a reason to stop. -/
  incomplete : ∀ error, state.incomplete = some error →
    Interrupted tree roots entry maxDepth usage error
  /-- The identifier was seen on another role. -/
  reuse : state.identifierRoleReuse = true →
    ∃ element, tree.Reaches roots element ∧ tree.IdentifierReused entry element
  /-- The limits are what they were. -/
  limits : state.context.usage.limits = usage.limits

/-- **Nothing collected is lost**, and what is incomplete stays so. -/
structure SearchState.Later (before after : SearchState) : Prop where
  /-- The elements found. -/
  found : ∀ element ∈ before.found, element ∈ after.found
  /-- The mark. -/
  incomplete : after.incomplete = none → before.incomplete = none

theorem SearchState.Later.refl (state : SearchState) : state.Later state :=
  ⟨fun _ h => h, id⟩

theorem SearchState.Later.trans {first second third : SearchState} (h : first.Later second)
    (h' : second.Later third) : first.Later third :=
  ⟨fun element hmem => h'.found element (h.found element hmem),
    fun hnone => h.incomplete (h'.incomplete hnone)⟩

/-- An element is read in full, and collected when it is a candidate. -/
def Covered (found : List AXElement) (element : AXElement) : Prop :=
  tree.ReadInFull entry element ∧ (tree.Candidate entry element →
    ∃ other ∈ found, tree.object other = tree.object element)

/-- **Everything below an element is covered**, up to the ancestors that are being visited: it
lies in a set of covered elements whose children lie in the set or are ancestors. -/
def Explored (ancestors found : List AXElement) (element : AXElement) : Prop :=
  ∃ V : Set AXElement, (element ∈ V ∨ element ∈ ancestors) ∧
    ∀ visited ∈ V, Covered tree entry found visited ∧
      ∀ child ∈ tree.children (tree.object visited), child ∈ V ∨ child ∈ ancestors

variable {tree roots entry maxDepth usage}

theorem Covered.mono {found found' : List AXElement} {element : AXElement}
    (h : Covered tree entry found element) (hfound : ∀ e ∈ found, e ∈ found') :
    Covered tree entry found' element := by
  refine ⟨h.1, fun hcandidate => ?_⟩
  obtain ⟨other, hmem, hobject⟩ := h.2 hcandidate
  exact ⟨other, hfound other hmem, hobject⟩

theorem Explored.mono {ancestors found found' : List AXElement} {element : AXElement}
    (h : Explored tree entry ancestors found element) (hfound : ∀ e ∈ found, e ∈ found') :
    Explored tree entry ancestors found' element := by
  obtain ⟨V, hmem, hV⟩ := h
  exact ⟨V, hmem, fun visited hvisited =>
    ⟨(hV visited hvisited).1.mono hfound, (hV visited hvisited).2⟩⟩

theorem Explored.of_mem_ancestors {ancestors found : List AXElement} {element : AXElement}
    (h : element ∈ ancestors) : Explored tree entry ancestors found element :=
  ⟨∅, .inr h, fun _ hvisited => absurd hvisited (Set.notMem_empty _)⟩

theorem Explored.of_children {ancestors found : List AXElement} {element : AXElement}
    (hcovered : Covered tree entry found element)
    (hchildren : ∀ child ∈ tree.children (tree.object element),
      Explored tree entry (element :: ancestors) found child) :
    Explored tree entry ancestors found element := by
  -- the element, with the sets of its children
  refine ⟨{visited | visited = element ∨ ∃ child ∈ tree.children (tree.object element),
    ∃ V : Set AXElement, visited ∈ V ∧ (child ∈ V ∨ child ∈ element :: ancestors) ∧
      ∀ v ∈ V, Covered tree entry found v ∧
        ∀ c ∈ tree.children (tree.object v), c ∈ V ∨ c ∈ element :: ancestors},
    .inl (.inl rfl), ?_⟩
  rintro visited (rfl | ⟨child, hchild, V, hvisited, hmem, hV⟩)
  · refine ⟨hcovered, fun child hchild => ?_⟩
    obtain ⟨V, hmem, hV⟩ := hchildren child hchild
    rcases hmem with hin | hin
    · exact .inl (.inr ⟨child, hchild, V, hin, .inl hin, hV⟩)
    · rcases List.mem_cons.mp hin with heq | hin
      · exact .inl (.inl heq)
      · exact .inr hin
  · refine ⟨(hV visited hvisited).1, fun c hc => ?_⟩
    rcases (hV visited hvisited).2 c hc with hin | hin
    · exact .inl (.inr ⟨child, hchild, V, hin, hmem, hV⟩)
    · rcases List.mem_cons.mp hin with heq | hin
      · exact .inl (.inl heq)
      · exact .inr hin

theorem Explored.covered {found : List AXElement}
    (hroots : ∀ root ∈ roots, Explored tree entry [] found root) {element : AXElement}
    (h : tree.Reaches roots element) : Covered tree entry found element := by
  obtain ⟨V, hmem, hV⟩ : Explored tree entry [] found element := by
    refine h.closed hroots ?_
    rintro visited ⟨V, hmem, hV⟩ child hchild
    have hvisited := hmem.resolve_right List.not_mem_nil
    exact ⟨V, (hV visited hvisited).2 child hchild, hV⟩
  exact (hV element (hmem.resolve_right List.not_mem_nil)).1

/-! ## The steps of the search -/

theorem mem_of_mem_pushUnique [DecidableEq Object] {found : List AXElement}
    {element other : AXElement} (h : other ∈ pushUnique tree found element) :
    other ∈ found ∨ other = element := by
  unfold pushUnique at h
  split_ifs at h
  · exact .inl h
  · simpa using h

theorem mem_pushUnique_of_mem [DecidableEq Object] {found : List AXElement}
    {element other : AXElement} (h : other ∈ found) : other ∈ pushUnique tree found element := by
  unfold pushUnique
  split_ifs
  · exact h
  · exact List.mem_append_left _ h

theorem exists_mem_pushUnique [DecidableEq Object] (found : List AXElement)
    (element : AXElement) :
    ∃ other ∈ pushUnique tree found element, tree.object other = tree.object element := by
  unfold pushUnique
  split_ifs with hany
  · obtain ⟨other, hmem, heq⟩ := List.any_eq_true.mp hany
    exact ⟨other, hmem, eq_of_beq heq⟩
  · exact ⟨element, by simp, rfl⟩

theorem pushUnique_distinct [DecidableEq Object] {found : List AXElement} {element : AXElement}
    (h : found.Pairwise (fun a b => tree.object a ≠ tree.object b)) :
    (pushUnique tree found element).Pairwise (fun a b => tree.object a ≠ tree.object b) := by
  unfold pushUnique
  split_ifs with hany
  · exact h
  · refine List.pairwise_append.mpr ⟨h, List.pairwise_singleton _ _, fun a ha b hb heq => hany ?_⟩
    rw [List.mem_singleton.mp hb] at heq
    exact List.any_eq_true.mpr ⟨a, ha, beq_iff_eq.mpr heq⟩

theorem Collected.push [DecidableEq Object] {state : SearchState} {element : AXElement}
    (h : Collected tree roots entry maxDepth usage state)
    (hreach : tree.Reaches roots element) (hread : tree.ReadsAsCandidate entry element) :
    Collected tree roots entry maxDepth usage
      { state with found := pushUnique tree state.found element } where
  found := by
    intro other hmem
    rcases mem_of_mem_pushUnique hmem with hmem | rfl
    · exact h.found other hmem
    · exact ⟨hreach, hread⟩
  distinct := pushUnique_distinct h.distinct
  incomplete := h.incomplete
  reuse := h.reuse
  limits := h.limits

theorem Collected.markIncomplete {state : SearchState} {error : AdapterError}
    (h : Collected tree roots entry maxDepth usage state)
    (herror : Interrupted tree roots entry maxDepth usage error) :
    Collected tree roots entry maxDepth usage (state.markIncomplete error) where
  found := h.found
  distinct := h.distinct
  incomplete := by
    intro error' heq
    rcases Option.or_eq_some_iff.mp heq with heq | ⟨-, heq⟩
    · exact h.incomplete error' heq
    · obtain rfl := Option.some.inj heq
      exact herror
  reuse := h.reuse
  limits := h.limits

theorem Collected.withContext {state : SearchState} {context : ResolveReadContext}
    (h : Collected tree roots entry maxDepth usage state)
    (hlimits : context.usage.limits = state.context.usage.limits) :
    Collected tree roots entry maxDepth usage { state with context } :=
  ⟨h.found, h.distinct, h.incomplete, h.reuse, hlimits.trans h.limits⟩

theorem SearchState.later_markIncomplete (state : SearchState) (error : AdapterError) :
    state.Later (state.markIncomplete error) :=
  ⟨fun _ h => h, fun h => (Option.or_eq_none_iff.mp h).1⟩

theorem SearchState.markIncomplete_ne_none (state : SearchState) (error : AdapterError) :
    (state.markIncomplete error).incomplete ≠ none :=
  fun h => Option.some_ne_none error (Option.or_eq_none_iff.mp h).2

theorem remaining_ensures (context : ResolveReadContext) :
    (tree.remaining context).Ensures (fun context' => context'.usage = context.usage)
      (Interrupted tree roots entry maxDepth usage) := by
  unfold AXTree.remaining
  by_cases hexpired : tree.expired context.clock = true
  · rw [if_pos hexpired]
    exact ⟨.inl rfl, .expired hexpired⟩
  · rw [if_neg hexpired]
    exact rfl

/-- **A node is claimed and read, or the search is cut short.** -/
theorem readNode_ensures {context : ResolveReadContext} {element : AXElement}
    (hreach : tree.Reaches roots element)
    (hlimits : context.usage.limits = usage.limits)
    (hbudget : context.usage.nodes < usage.nodes + (roots.map (tree.visits maxDepth)).sum) :
    (readNode tree (identityRequirements entry) context element).Ensures
      (fun read => (∃ context₀ context₁,
          tree.readNode context₀ element (identityRequirements entry) = .ok (read.1, context₁)) ∧
        read.2.usage.nodes = context.usage.nodes + 1 ∧
          read.2.usage.limits = context.usage.limits)
      (Interrupted tree roots entry maxDepth usage) := by
  unfold readNode
  by_cases hclaim : context.usage.limits.maxNodes ≤ context.usage.nodes
  · rw [ObservationUsage.claimNode, if_pos hclaim]
    refine ⟨.inr (.inr rfl), .budget ?_⟩
    rw [← hlimits]
    exact hclaim.trans_lt hbudget
  · rw [ObservationUsage.claimNode, if_neg hclaim]
    refine Except.Ensures.bind (Except.Ensures.intro (fun read hread => hread)
      (fun error herror => ?_)) (fun read hread _ => ?_)
    · exact ⟨tree.readNode_error herror, .readFailed hreach herror⟩
    · exact ⟨⟨_, _, hread⟩, tree.readNode_usage hread⟩

/-- **What becomes of the evidence of an element**: what settles it collects it where it is a
candidate, anything else marks the search as incomplete. -/
theorem examine_ensures [DecidableEq Object] {state : SearchState} {element : AXElement}
    {context context' : ResolveReadContext} {read : NodeRead} {depth : ℕ}
    (h : Collected tree roots entry maxDepth usage state) (hreach : tree.Reaches roots element)
    (hread : tree.readNode context element (identityRequirements entry) = .ok (read, context'))
    (hvalid : read.invalidElement = false) :
    (examine tree entry depth element read.evidence state).Ensures
      (fun state' => Collected tree roots entry maxDepth usage state' ∧ state.Later state' ∧
        state'.context = state.context ∧ (state'.incomplete = none →
          tree.Settles entry element read.evidence ∧ (tree.Candidate entry element →
            ∃ other ∈ state'.found, tree.object other = tree.object element)))
      (Stops tree roots entry maxDepth usage) := by
  unfold examine
  -- whether the identifier was seen on another role changes nothing else
  generalize hstate₁ : (if nativeIdentifierReusedByDifferentRole entry read.evidence = true then
    { state with identifierRoleReuse := true } else state) = state₁
  have h₁ : Collected tree roots entry maxDepth usage state₁ ∧ state.Later state₁ ∧
      state₁.context = state.context := by
    subst hstate₁
    split_ifs with hreuse
    · exact ⟨⟨h.found, h.distinct, h.incomplete,
        fun _ => ⟨element, hreach, identifierReused_of_read hread hvalid hreuse⟩, h.limits⟩,
        ⟨fun _ h => h, id⟩, rfl⟩
    · exact ⟨h, .refl _, rfl⟩
  obtain ⟨hcollected, hlater, hcontext⟩ := h₁
  dsimp only
  cases hrole : read.evidence.role with
  | unknown =>
    refine ⟨hcollected.markIncomplete ⟨.inr (.inr rfl), .partialRead hreach hread
      (.inr (.inr (.inr hrole)))⟩, hlater.trans (SearchState.later_markIncomplete _ _), hcontext,
      fun hnone => absurd hnone (SearchState.markIncomplete_ne_none _ _)⟩
  | absent =>
    have hsettles : tree.Settles entry element read.evidence :=
      ⟨by simp [hrole], fun heq => by simp [hrole] at heq⟩
    refine ⟨hcollected, hlater, hcontext, fun _ => ⟨hsettles, fun hcandidate => ?_⟩⟩
    have := (hcandidate.readsAsCandidate hread hvalid hsettles).1
    simp [hrole] at this
  | known role =>
    dsimp only
    by_cases heq : role = entry.identity.role
    · subst heq
      rw [if_pos rfl]
      have hmatch := tree.candidateMatch_ensures element entry read.evidence
      cases hcase : tree.candidateMatch element entry read.evidence with
      | error error => exact .inr (hmatch.of_error hcase)
      | ok verdict =>
        have hverdict := (hmatch.of_ok hcase).symm
        have hreads : tree.ReadsAs entry element verdict :=
          ⟨context, read, context', hread, hvalid, hrole, hcase⟩
        cases verdict with
        | matched =>
          refine ⟨hcollected.push hreach (.inl hreads),
            hlater.trans ⟨fun _ => mem_pushUnique_of_mem, id⟩, hcontext,
            fun _ => ⟨⟨by simp [hrole], fun _ hunknown => ?_⟩,
              fun _ => exists_mem_pushUnique _ _⟩⟩
          rw [hverdict] at hunknown
          cases hunknown
        | unknown =>
          dsimp only
          by_cases hprovisional : provisionalGeometryCandidate entry = true
          · rw [if_pos hprovisional]
            exact ⟨hcollected.push hreach (.inr ⟨hreads, hprovisional⟩),
              hlater.trans ⟨fun _ => mem_pushUnique_of_mem, id⟩, hcontext,
              fun _ => ⟨⟨by simp [hrole], fun _ _ => hprovisional⟩,
                fun _ => exists_mem_pushUnique _ _⟩⟩
          · rw [if_neg hprovisional]
            exact ⟨hcollected.markIncomplete
                ⟨.inr (.inr rfl), .identity hreach hreads
                  (Bool.eq_false_iff.mpr hprovisional)⟩,
              hlater.trans (SearchState.later_markIncomplete _ _), hcontext,
              fun hnone => absurd hnone (SearchState.markIncomplete_ne_none _ _)⟩
        | noMatch =>
          have hsettles : tree.Settles entry element read.evidence := by
            refine ⟨by simp [hrole], fun _ hunknown => ?_⟩
            rw [hverdict] at hunknown
            cases hunknown
          refine ⟨hcollected, hlater, hcontext, fun _ => ⟨hsettles, fun hcandidate => ?_⟩⟩
          rcases (hcandidate.readsAsCandidate hread hvalid hsettles).2 with hmatched | ⟨hunknown, -⟩
          · rw [hverdict] at hmatched
            cases hmatched
          · rw [hverdict] at hunknown
            cases hunknown
    · rw [if_neg heq]
      have hsettles : tree.Settles entry element read.evidence := by
        refine ⟨by simp [hrole], fun hrole' => absurd ?_ heq⟩
        rw [hrole] at hrole'
        exact LocatorField.known.inj hrole'
      refine ⟨hcollected, hlater, hcontext, fun _ => ⟨hsettles, fun hcandidate => ?_⟩⟩
      have := (hcandidate.readsAsCandidate hread hvalid hsettles).1
      rw [hrole] at this
      exact absurd (LocatorField.known.inj this) heq

theorem cutShort_of_depth_limit {context context' : ResolveReadContext} {element : AXElement}
    {read : NodeRead} (hreach : tree.ReachesAt roots (maxDepth - 0) element)
    (hread : tree.readNode context element (identityRequirements entry) = .ok (read, context'))
    (h : (!read.childRead.elements.isEmpty || !read.childRead.complete
      || read.childRead.truncated) = true) :
    CutShort tree roots entry maxDepth usage := by
  simp only [Bool.or_eq_true, Bool.not_eq_true'] at h
  rcases h with (hchild | hcomplete) | htruncated
  · obtain ⟨child, hchild⟩ := List.exists_mem_of_ne_nil _ (List.isEmpty_eq_false_iff.mp hchild)
    exact .depth hreach ((tree.readNode_children hread).subset hchild)
  · exact .partialRead hreach.reaches hread (.inr (.inl hcomplete))
  · exact .partialRead hreach.reaches hread (.inr (.inr (.inl htruncated)))

/-- **What a visit of an element achieves.** -/
structure Visited [DecidableEq Object] (tree : AXTree Object) (roots : List AXElement)
    (entry : RefEntry) (maxDepth : ℕ) (usage : ObservationUsage) (levels : ℕ)
    (ancestors : List AXElement) (element : AXElement) (before after : SearchState) : Prop where
  /-- What is collected is as it should be. -/
  collected : Collected tree roots entry maxDepth usage after
  later : before.Later after
  /-- No more is read than there is. -/
  nodes : after.context.usage.nodes ≤ before.context.usage.nodes + tree.visits levels element
  /-- Unless something is marked, everything below the element is covered. -/
  explored : after.stop entry = false → after.incomplete = none →
    Explored tree entry ancestors after.found element

/-- What a visit at a number of levels is to achieve. -/
def VisitsAt [DecidableEq Object] (tree : AXTree Object) (roots : List AXElement)
    (entry : RefEntry) (maxDepth : ℕ) (usage : ObservationUsage) (levels : ℕ) : Prop :=
  ∀ ancestors element state, tree.ReachesAt roots (maxDepth - levels) element →
    Collected tree roots entry maxDepth usage state →
      state.context.usage.nodes + tree.visits levels element ≤
        usage.nodes + (roots.map (tree.visits maxDepth)).sum →
        (collectElementsRecursive tree entry maxDepth levels ancestors element state).Ensures
          (Visited tree roots entry maxDepth usage levels ancestors element state)
          (Stops tree roots entry maxDepth usage)

theorem AXTree.visits_pos (tree : AXTree Object) (levels : ℕ) (element : AXElement) :
    0 < tree.visits levels element := by
  cases levels <;> simp only [visits] <;> omega

/-- **The loop over the children**, from what a visit of each achieves. -/
theorem children_ensures [DecidableEq Object] {levels : ℕ} {ancestors : List AXElement}
    {state : SearchState} {elements : List AXElement}
    (hvisit : VisitsAt tree roots entry maxDepth usage levels)
    (hreach : ∀ child ∈ elements, tree.ReachesAt roots (maxDepth - levels) child)
    (h : Collected tree roots entry maxDepth usage state)
    (hbudget : state.context.usage.nodes + (elements.map (tree.visits levels)).sum ≤
      usage.nodes + (roots.map (tree.visits maxDepth)).sum) :
    (Except.untilStop (SearchState.stop entry)
      (collectElementsRecursive tree entry maxDepth levels ancestors) elements state).Ensures
      (fun state' => Collected tree roots entry maxDepth usage state' ∧ state.Later state' ∧
        state'.context.usage.nodes ≤
          state.context.usage.nodes + (elements.map (tree.visits levels)).sum ∧
        (state'.stop entry = false → state'.incomplete = none → ∀ child ∈ elements,
          Explored tree entry ancestors state'.found child))
      (Stops tree roots entry maxDepth usage) := by
  -- the children that are left, and the others explored
  let I : List AXElement → SearchState → Prop := fun rest state' =>
    (∀ child ∈ rest, child ∈ elements) ∧ Collected tree roots entry maxDepth usage state' ∧
      state.Later state' ∧
      state'.context.usage.nodes + (rest.map (tree.visits levels)).sum ≤
        state.context.usage.nodes + (elements.map (tree.visits levels)).sum ∧
      (state'.stop entry = false → state'.incomplete = none → ∀ child ∈ elements,
        child ∈ rest ∨ Explored tree entry ancestors state'.found child)
  have hstart : I elements state :=
    ⟨fun _ h => h, h, .refl _, le_rfl, fun _ _ child hchild => .inl hchild⟩
  have hrun : (Except.untilStop (SearchState.stop entry)
      (collectElementsRecursive tree entry maxDepth levels ancestors) elements state).Ensures _
      (Stops tree roots entry maxDepth usage) := Except.untilStop_ensures ?_ hstart
  · refine hrun.imp ?_ (fun _ h => h)
    rintro state' ⟨rest, ⟨-, hcollected, hlater, hnodes, hexplored⟩, hrest⟩
    refine ⟨hcollected, hlater, (Nat.le_add_right _ _).trans hnodes, fun hstop hnone child hchild => ?_⟩
    obtain rfl := hrest hstop
    exact (hexplored hstop hnone child hchild).resolve_left List.not_mem_nil
  · rintro item rest state' ⟨hmem, hcollected, hlater, hnodes, hexplored⟩ hgo
    rw [List.map_cons, List.sum_cons] at hnodes
    refine (hvisit ancestors item state' (hreach item (hmem item List.mem_cons_self)) hcollected
      (by omega)).imp ?_ (fun _ h => h)
    intro after hafter
    refine ⟨fun child hchild => hmem child (List.mem_cons_of_mem _ hchild), hafter.collected,
      hlater.trans hafter.later, ?_, fun hstop hnone child hchild => ?_⟩
    · have := hafter.nodes
      omega
    · rcases hexplored hgo (hafter.later.incomplete hnone) child hchild with hin | hexplored
      · rcases List.mem_cons.mp hin with rfl | hin
        · exact .inr (hafter.explored hstop hnone)
        · exact .inl hin
      · exact .inr (hexplored.mono hafter.later.found)

theorem Visited.marked [DecidableEq Object] {levels : ℕ} {ancestors : List AXElement}
    {element : AXElement} {before state : SearchState} {error : AdapterError}
    (h : Collected tree roots entry maxDepth usage state) (hlater : before.Later state)
    (hnodes : state.context.usage.nodes ≤
      before.context.usage.nodes + tree.visits levels element)
    (herror : Interrupted tree roots entry maxDepth usage error) :
    Visited tree roots entry maxDepth usage levels ancestors element before
      (state.markIncomplete error) where
  collected := h.markIncomplete herror
  later := hlater.trans (SearchState.later_markIncomplete _ _)
  nodes := hnodes
  explored := fun _ hnone => absurd hnone (SearchState.markIncomplete_ne_none _ _)

/-- What is missing of the children of an element is marked, and otherwise nothing changes. -/
theorem markMissing_spec [DecidableEq Object] {levels : ℕ} {element : AXElement}
    {context context' : ResolveReadContext} {read : NodeRead} {state state' : SearchState}
    (h : Collected tree roots entry maxDepth usage state)
    (hreach : tree.ReachesAt roots (maxDepth - levels) element)
    (hread : tree.readNode context element (identityRequirements entry) = .ok (read, context'))
    (hstate : (if (!read.childRead.complete || read.childRead.truncated) = true then
      state.markIncomplete (incompleteTraversal "children" (maxDepth - levels))
      else state) = state') :
    Collected tree roots entry maxDepth usage state' ∧ state.Later state' ∧
      state'.context = state.context ∧ (state'.incomplete = none →
        read.childRead.complete = true ∧ read.childRead.truncated = false) := by
  subst hstate
  split_ifs with hcut
  · have hmissing : read.childRead.complete = false ∨ read.childRead.truncated = true := by
      simpa using hcut
    refine ⟨h.markIncomplete ⟨.inr (.inr rfl), .partialRead hreach.reaches hread ?_⟩,
      SearchState.later_markIncomplete _ _, rfl,
      fun hnone => absurd hnone (SearchState.markIncomplete_ne_none _ _)⟩
    rcases hmissing with hcomplete | htruncated
    · exact .inr (.inl hcomplete)
    · exact .inr (.inr (.inl htruncated))
  · exact ⟨h, .refl _, rfl, fun _ => by simpa using hcut⟩

/-- **One visit**, from what the visits one level further down achieve. -/
theorem visit_ensures [DecidableEq Object] {levels : ℕ} (hdepth : levels ≤ maxDepth)
    (hbelow : ∀ below, levels = below + 1 → VisitsAt tree roots entry maxDepth usage below) :
    VisitsAt tree roots entry maxDepth usage levels := by
  intro ancestors element before hreach h hbudget
  have hpos := tree.visits_pos levels element
  unfold collectElementsRecursive
  by_cases hstop : before.stop entry = true
  · rw [if_pos hstop]
    exact ⟨h, .refl _, Nat.le_add_right _ _, fun hgo => by rw [hstop] at hgo; cases hgo⟩
  rw [if_neg hstop]
  refine Except.Ensures.bind ((remaining_ensures before.context).imp (fun _ h => h)
    (fun _ herror => .inl herror)) ?_
  intro context _ hcontext
  have hcollected : Collected tree roots entry maxDepth usage { before with context } :=
    h.withContext (by rw [hcontext])
  have hlater : before.Later { before with context } := ⟨fun _ h => h, id⟩
  dsimp only
  by_cases hancestor : ancestors.contains element = true
  · rw [if_pos hancestor]
    exact ⟨hcollected, hlater, by rw [hcontext]; exact Nat.le_add_right _ _,
      fun _ _ => .of_mem_ancestors (List.contains_iff_mem.mp hancestor)⟩
  rw [if_neg hancestor]
  refine Except.Ensures.bind ((readNode_ensures hreach.reaches
    (by rw [hcontext]; exact h.limits) (by rw [hcontext]; omega)).imp (fun _ h => h)
      (fun _ herror => .inl herror)) ?_
  rintro ⟨read, context'⟩ - ⟨⟨context₀, context₁, hread⟩, hnodes, hlimits⟩
  dsimp only at hread hnodes hlimits ⊢
  have hcollected' : Collected tree roots entry maxDepth usage { before with context := context' } :=
    h.withContext (by rw [hlimits, hcontext])
  have hnodes' : context'.usage.nodes ≤ before.context.usage.nodes + 1 := by
    rw [hnodes, hcontext]
  by_cases hvalid : read.invalidElement = true
  · rw [if_pos hvalid]
    exact Visited.marked hcollected' ⟨fun _ h => h, id⟩ (by dsimp only; omega)
      ⟨.inr (.inr rfl), .partialRead hreach.reaches hread (.inl hvalid)⟩
  rw [if_neg hvalid]
  refine Except.Ensures.bind (examine_ensures hcollected' hreach.reaches hread
    (Bool.eq_false_iff.mpr hvalid)) ?_
  rintro state - ⟨hexamined, hlater', hsame, hcovered⟩
  have hnodesState : state.context.usage.nodes ≤ before.context.usage.nodes + 1 := by
    rw [hsame]
    exact hnodes'
  have hlaterState : before.Later state := ⟨hlater'.found, hlater'.incomplete⟩
  cases levels with
  | zero =>
    dsimp only
    by_cases hcut : (!read.childRead.elements.isEmpty || !read.childRead.complete
        || read.childRead.truncated) = true
    · rw [if_pos hcut]
      exact Visited.marked hexamined hlaterState hnodesState
        ⟨.inr (.inr rfl), cutShort_of_depth_limit hreach hread hcut⟩
    · rw [if_neg hcut]
      simp only [Bool.or_eq_true, Bool.not_eq_true', not_or, Bool.not_eq_false,
        List.isEmpty_iff, Bool.not_eq_true] at hcut
      obtain ⟨⟨hempty, hcomplete⟩, htruncated⟩ := hcut
      refine ⟨hexamined, hlaterState, hnodesState, fun _ hnone => ?_⟩
      obtain ⟨hsettles, hfound⟩ := hcovered hnone
      refine Explored.of_children ⟨⟨_, _, _, hread, Bool.eq_false_iff.mpr hvalid, hcomplete,
        htruncated, hsettles⟩, hfound⟩ ?_
      rw [← tree.readNode_complete hread (Bool.eq_false_iff.mpr hvalid) hcomplete htruncated, hempty]
      exact fun _ hchild => absurd hchild List.not_mem_nil
  | succ levels =>
    dsimp only
    have hsublist := tree.readNode_children hread
    have hsum : (read.childRead.elements.map (tree.visits levels)).sum ≤
        ((tree.children (tree.object element)).map (tree.visits levels)).sum :=
      (hsublist.map _).sum_le_sum (fun _ _ => Nat.zero_le _)
    have hvisits : tree.visits (levels + 1) element =
        1 + ((tree.children (tree.object element)).map (tree.visits levels)).sum := rfl
    have hchildren : ∀ child ∈ read.childRead.elements,
        tree.ReachesAt roots (maxDepth - levels) child := by
      intro child hchild
      have := hreach.child (hsublist.subset hchild)
      rwa [show maxDepth - (levels + 1) + 1 = maxDepth - levels by omega] at this
    -- what is missing of the children is marked before the loop
    generalize hstate' : (if (!read.childRead.complete || read.childRead.truncated) = true then
      state.markIncomplete (incompleteTraversal "children" (maxDepth - (levels + 1)))
      else state) = state'
    obtain ⟨hcollected₁, hlater₁, hcontext₁, hread₁⟩ :=
      markMissing_spec hexamined hreach hread hstate'
    refine (children_ensures (hbelow levels rfl) hchildren hcollected₁
      (by rw [hcontext₁]; omega)).imp ?_ (fun _ h => h)
    rintro after ⟨hafter, hlaterAfter, hnodesAfter, hexplored⟩
    refine ⟨hafter, hlaterState.trans (hlater₁.trans hlaterAfter),
      by rw [hcontext₁] at hnodesAfter; omega, fun hgo hnone => ?_⟩
    have hnone₁ := hlaterAfter.incomplete hnone
    obtain ⟨hsettles, hfound⟩ := hcovered (hlater₁.incomplete hnone₁)
    obtain ⟨hcomplete, htruncated⟩ := hread₁ hnone₁
    have hall := tree.readNode_complete hread (Bool.eq_false_iff.mpr hvalid) hcomplete htruncated
    refine Explored.of_children ?_ (fun child hchild => hexplored hgo hnone child (hall ▸ hchild))
    exact Covered.mono ⟨⟨_, _, _, hread, Bool.eq_false_iff.mpr hvalid, hcomplete, htruncated,
      hsettles⟩, hfound⟩ (fun other hmem => hlaterAfter.found other (hlater₁.found other hmem))

/-- **Every visit**, by induction on the levels. -/
theorem collectElementsRecursive_ensures [DecidableEq Object] {levels : ℕ}
    (hdepth : levels ≤ maxDepth) : VisitsAt tree roots entry maxDepth usage levels := by
  induction levels with
  | zero => exact visit_ensures hdepth (fun below h => by omega)
  | succ levels ih =>
    refine visit_ensures hdepth (fun below h => ?_)
    obtain rfl : levels = below := by omega
    exact ih (by omega)

end

end AgentDesktop
