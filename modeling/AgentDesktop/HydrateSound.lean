import AgentDesktop.Hydrate
import AgentDesktop.RefIds
import AgentDesktop.Completion

/-!
# What a second look vouches for

A match that comes back from the second look has been checked where it was found
again: the role is the same, the identity is, or the bounds are, and the query still
matches there. One element passes without a comparison: where nothing of the
identity could be read this time and there are no bounds, there is nothing to
compare.

The map of refs and the matches are filled in one loop, and stay in step: the
bindings of the map are those of the matches that can be acted on, in their order.
-/

namespace AgentDesktop

section

variable [BoundsHasher]

/-- What the second look read of the bounds. -/
def ObservedNode.boundsHash (node : ObservedNode) : Option UInt64 :=
  node.evidence.refEvidence.bounds.known?.bind Rect.boundsHash

/-- What the second look says of the identity. -/
def ObservedNode.identityOf (node : ObservedNode) (preliminary : RefEntry) : IdentityMatch :=
  identityMatch preliminary node.evidence.name node.evidence.value node.evidence.description
    node.evidence.identifiers

/-- **The anchor holds**: the identity is the same, or there is none that could be compared and the
bounds are the same. -/
inductive AnchorHolds (preliminary : RefEntry) (node : ObservedNode) : Prop
  /-- The identity is the same. -/
  | identity (hidentity : node.identityOf preliminary = .matched)
  /-- The bounds are the same. -/
  | geometry (hcompared : hasMeaningfulIdentity preliminary = false
      ∨ node.identityOf preliminary = .unknown ∧ preliminary.identity.retainedObject = none)
    {hash : UInt64} (hpreliminary : preliminary.geometry.boundsHash = some hash)
    (hactual : node.boundsHash = some hash)

/-- **There is nothing to compare**: the identity was not read, no object was retained, and the
entry has no bounds. -/
structure Incomparable (preliminary : RefEntry) (node : ObservedNode) : Prop where
  /-- There is an identity. -/
  identity : hasMeaningfulIdentity preliminary = true
  /-- It was not read. -/
  unknown : node.identityOf preliminary = .unknown
  /-- No object was retained. -/
  retained : preliminary.identity.retainedObject = none
  /-- There are no bounds. -/
  bounds : preliminary.geometry.boundsHash = none

theorem anchorMatches_eq_true {preliminary : RefEntry} {node : ObservedNode}
    (hmatches : anchorMatches preliminary node = true) :
    AnchorHolds preliminary node ∨ Incomparable preliminary node := by
  unfold anchorMatches at hmatches
  dsimp only at hmatches
  split at hmatches
  · next hmeaningful =>
    split at hmatches
    · next hidentity => exact Or.inl (.identity hidentity)
    · nomatch hmatches
    · next hunknown =>
      -- an identity that says nothing leaves the geometry, if there is any
      split at hmatches
      · nomatch hmatches
      · next hretained =>
        have hnone : preliminary.identity.retainedObject = none := by simpa using hretained
        cases hbounds : preliminary.geometry.boundsHash with
        | none => exact Or.inr ⟨hmeaningful, hunknown, hnone, hbounds⟩
        | some hash =>
          rw [hbounds, Option.all_some, beq_iff_eq] at hmatches
          exact Or.inl (.geometry (Or.inr ⟨hunknown, hnone⟩) hbounds hmatches)
  · next hmeaningless =>
    rw [Bool.and_eq_true, beq_iff_eq] at hmatches
    obtain ⟨hash, hbounds⟩ := Option.isSome_iff_exists.mp hmatches.1
    exact Or.inl (.geometry (Or.inl (by simpa using hmeaningless)) hbounds
      (hmatches.2.symm.trans hbounds))

variable [UnicodeLowercase]

/-- **A match that was validated again**: the tree that was observed at its element has one root,
the role is the same there, the anchor holds or there is nothing to compare, and the query still
matches; the entry that is returned is the one of that root. -/
structure Revalidated (query : LocatorQuery) (tree : ObservedTree) (preliminary : RefEntry)
    (found : LocatorMatch) (index : ℕ) (node : ObservedNode) : Prop where
  root : tree.roots = [index] ∧ tree.nodes[index]? = some node
  /-- Its evidence is complete. -/
  evidence : evidenceComplete query node = true
  /-- The role is the same. -/
  role : node.evidence.role = .known preliminary.identity.role
    ∧ found.entry.identity.role = preliminary.identity.role
  anchor : AnchorHolds preliminary node ∨ Incomparable preliminary node
  /-- The query still matches. -/
  verdict : locatorVerdict tree query index = .matched
  /-- The entry is that of the root. -/
  entry : found.entry = preserveVerifiedIdentity preliminary node
    (refEntryOf node (.element preliminary none) query)
  /-- What is reported is read off it. -/
  data : found.data.role = found.entry.identity.role
    ∧ found.data.states = found.entry.capabilities.states
    ∧ found.data.interactive
      = isRefAbleRoleActions found.entry.identity.role found.entry.capabilities.availableActions

theorem verdict_of_revalidateHydrated {query : LocatorQuery} {request : LocatorResolveRequest}
    {deterministic : Bool} {hydrated : ObservedTree} {index : ℕ} {node : ObservedNode}
    (hnode : hydrated.nodes[index]? = some node)
    (hvalid : revalidateHydrated query request deterministic hydrated node = .ok ()) :
    locatorVerdict hydrated query index = .matched := by
  unfold revalidateHydrated at hvalid
  obtain ⟨validation, hvalidation, hvalid⟩ := Except.bind_eq_ok_iff.mp hvalid
  have hevaluated := Except.mapError_eq_ok_iff.mp hvalidation
  have hresolved := evaluateLocatorTree_resolved hevaluated
  dsimp only at hvalid
  split at hvalid
  · split at hvalid <;> nomatch hvalid
  · next hauthoritative =>
    simp only [Bool.not_eq_true, Bool.not_eq_false', Bool.and_eq_true] at hauthoritative
    obtain ⟨candidate, hcandidate, horder⟩ := (Option.any_eq_true _ _).mp hauthoritative.2
    rw [beq_iff_eq, hydrated.grown.ordered index node (Nat.zero_le _) hnode] at horder
    have hmem : candidate.documentOrder ∈ validation.selected.map LocatorMatch.documentOrder :=
      List.mem_map_of_mem (List.mem_of_head? hcandidate)
    rw [hresolved.selected, horder] at hmem
    exact (mem_matchedIndices.mp (mem_selectedIndices hmem)).2

omit [BoundsHasher] [UnicodeLowercase] in
theorem hydratedRoot_eq_ok {query : LocatorQuery} {hydrated : ObservedTree} {node : ObservedNode}
    (hroot : hydratedRoot query hydrated = .ok node) :
    ∃ index, (hydrated.roots = [index] ∧ hydrated.nodes[index]? = some node)
      ∧ evidenceComplete query node = true := by
  unfold hydratedRoot at hroot
  split at hroot
  · next index hroots =>
    split at hroot
    · cases hroot
    · next found hfound =>
      split at hroot
      · next hcomplete =>
        obtain rfl := Except.ok.inj hroot
        exact ⟨index, ⟨hroots, hfound⟩, hcomplete⟩
      · cases hroot
  · cases hroot

/-- What a match and the map are after a ref was given out, or not. -/
structure Granted (found : LocatorMatch) (refmap refmap' : RefMap) : Prop where
  /-- A match that can be acted on is given the next id, and the map its entry. -/
  given : found.data.interactive = true → found.data.refId = some (refIdOf (refmap.counter + 1))
    ∧ refmap' = ⟨refmap.inner.insert (refIdOf (refmap.counter + 1)) found.entry,
      refmap.counter + 1⟩
  /-- For any other the map stays. -/
  withheld : found.data.interactive = false → refmap' = refmap

/-- **One match** that comes back was validated again, and the map took its entry where it can be
acted on. -/
theorem hydrateMatch_sound {query : LocatorQuery} {request : LocatorResolveRequest}
    {surroundings : Hydration} {found found' : LocatorMatch} {refmap refmap' : RefMap}
    (h : hydrateMatch query request surroundings found refmap = .ok (found', refmap')) :
    (∃ tree index node, surroundings.observed = .ok tree
        ∧ Revalidated query (tree.observedAt (.element found.entry none) .window) found.entry found'
          index node)
      ∧ Granted found' refmap refmap' := by
  unfold hydrateMatch at h
  obtain ⟨⟨⟩, -, h⟩ := Except.bind_eq_ok_iff.mp h
  split_ifs at h with hanchor
  · obtain ⟨_, hthrow, -⟩ := Except.bind_eq_ok_iff.mp h
    nomatch hthrow
  obtain ⟨tree, htree, h⟩ := Except.bind_eq_ok_iff.mp h
  obtain ⟨node, hnode, h⟩ := Except.bind_eq_ok_iff.mp h
  obtain ⟨entry, hentry, h⟩ := Except.bind_eq_ok_iff.mp h
  obtain ⟨⟨⟩, hvalid, h⟩ := Except.bind_eq_ok_iff.mp h
  obtain ⟨⟨data, refmap₁⟩, hallocate, h⟩ := Except.bind_eq_ok_iff.mp h
  obtain ⟨rfl, rfl⟩ := Prod.mk.inj (Except.ok.inj h)
  obtain ⟨index, hroot, hevidence⟩ := hydratedRoot_eq_ok hnode
  -- the entry of the second look
  unfold hydratedEntry at hentry
  split_ifs at hentry with hchanged
  dsimp only at hentry
  split_ifs at hentry with hmissing
  obtain rfl := Except.ok.inj hentry
  simp only [Bool.or_eq_true, bne_iff_ne, ne_eq, Bool.not_eq_true', not_or, not_not,
    Bool.not_eq_false] at hchanged
  have hrole : node.evidence.role = .known found.entry.identity.role := by
    cases hread : node.evidence.role with
    | known role =>
      rw [hread] at hchanged
      exact congrArg LocatorField.known (Option.some.inj hchanged.1)
    | absent => rw [hread] at hchanged; nomatch hchanged.1
    | unknown => rw [hread] at hchanged; nomatch hchanged.1
  have hentryRole : (preserveVerifiedIdentity found.entry node
      (refEntryOf node (.element found.entry none) query)).identity.role
        = found.entry.identity.role := by
    show node.evidence.role.known?.getD "unknown" = _
    rw [hrole]
    rfl
  have hrevalidated : ∀ data : LocatorMatchData,
      data.role = (found.data.hydrated (preserveVerifiedIdentity found.entry node
        (refEntryOf node (.element found.entry none) query)) node).role →
      data.states = (found.data.hydrated (preserveVerifiedIdentity found.entry node
        (refEntryOf node (.element found.entry none) query)) node).states →
      data.interactive = (found.data.hydrated (preserveVerifiedIdentity found.entry node
        (refEntryOf node (.element found.entry none) query)) node).interactive →
      Revalidated query (tree.observedAt (.element found.entry none) .window) found.entry
        { found with
          data
          entry := preserveVerifiedIdentity found.entry node
            (refEntryOf node (.element found.entry none) query) } index node :=
    fun data hdataRole hstates hinteractive =>
      ⟨hroot, hevidence, ⟨hrole, hentryRole⟩, anchorMatches_eq_true hchanged.2,
        verdict_of_revalidateHydrated hroot.2 hvalid, rfl, hdataRole, hstates, hinteractive⟩
  unfold allocateHydrated at hallocate
  split_ifs at hallocate with hinteractive
  · obtain ⟨⟨refId, refmap₂⟩, htry, heq⟩ := Except.map_eq_ok_iff.mp hallocate
    obtain ⟨rfl, rfl⟩ := Prod.mk.inj heq
    obtain ⟨_, -, hvalidated⟩ := Except.bind_eq_ok_iff.mp htry
    obtain ⟨-, rfl, rfl⟩ := RefMap.allocateValidated_eq_ok hvalidated
    exact ⟨⟨tree, index, node, htree, hrevalidated _ rfl rfl rfl⟩, fun _ => ⟨rfl, rfl⟩,
      fun hnot => absurd hinteractive (by rw [hnot]; exact Bool.false_ne_true)⟩
  · obtain ⟨rfl, rfl⟩ := Prod.mk.inj (Except.ok.inj hallocate)
    exact ⟨⟨tree, index, node, htree, hrevalidated _ rfl rfl rfl⟩,
      fun hyes => absurd hyes hinteractive, fun _ => rfl⟩

end

/-! ## The map and the matches stay in step -/

/-- **What the map of refs should hold**: the entries of the matches that can be acted on, each
under the ref of its match. -/
def recordedRefs (selected : List LocatorMatch) : List (String × RefEntry) :=
  selected.filterMap (fun found =>
    if found.data.interactive then found.data.refId.map (fun refId => (refId, found.entry))
    else none)

/-- **One match more**: the map holds its entry last, where it can be acted on. -/
theorem Granted.entries {found : LocatorMatch} {refmap refmap' : RefMap}
    (hgranted : Granted found refmap refmap') (hnumbered : refmap.Numbered) :
    refmap'.inner.entries = refmap.inner.entries ++ recordedRefs [found]
      ∧ refmap'.Numbered ∧ (found.data.interactive = true → found.data.refId.isSome = true) := by
  cases hinteractive : found.data.interactive with
  | false =>
    rw [hgranted.withheld hinteractive]
    refine ⟨?_, hnumbered, fun h => nomatch h⟩
    simp [recordedRefs, hinteractive]
  | true =>
    obtain ⟨hrefId, rfl⟩ := hgranted.given hinteractive
    have hfresh := AssocMap.get_eq_none_iff.mp
      (hnumbered.get_fresh (Nat.lt_succ_self refmap.counter))
    refine ⟨?_, ?_, fun _ => by rw [hrefId]; rfl⟩
    · show (refmap.inner.insert _ _).entries = _
      rw [AssocMap.entries_insert_of_notMem _ hfresh]
      simp [recordedRefs, hinteractive, hrefId]
    · intro refId entry hget
      rw [show RefMap.get ⟨refmap.inner.insert (refIdOf (refmap.counter + 1)) found.entry,
        refmap.counter + 1⟩ refId = (refmap.inner.insert _ _).get refId from rfl,
        AssocMap.get_insert] at hget
      split_ifs at hget with heq
      · exact ⟨_, heq, Nat.succ_pos _, Nat.le_refl _⟩
      · obtain ⟨number, hid, hpos, hle⟩ := hnumbered refId entry hget
        exact ⟨number, hid, hpos, Nat.le_succ_of_le hle⟩

variable [BoundsHasher] [UnicodeLowercase]

/-- **All matches**: each was validated again, and the map holds what the matches say. -/
theorem hydrateMatches_sound {query : LocatorQuery} {request : LocatorResolveRequest}
    {surroundings : ℕ → Hydration} {index : ℕ} {selected selected' : List LocatorMatch}
    {refmap refmap' : RefMap} (hnumbered : refmap.Numbered)
    (h : hydrateMatches query request surroundings index selected refmap
      = .ok (selected', refmap')) :
    selected'.length = selected.length
      ∧ (∀ place found found', selected[place]? = some found → selected'[place]? = some found' →
        ∃ tree root node, (surroundings (index + place)).observed = .ok tree
          ∧ Revalidated query (tree.observedAt (.element found.entry none) .window) found.entry
            found' root node)
      ∧ refmap'.inner.entries = refmap.inner.entries ++ recordedRefs selected'
      ∧ ∀ found ∈ selected', found.data.interactive = true → found.data.refId.isSome = true := by
  induction selected generalizing index refmap selected' with
  | nil =>
    obtain ⟨rfl, rfl⟩ := Prod.mk.inj (Except.ok.inj h)
    refine ⟨rfl, ?_, (List.append_nil _).symm, fun found hfound => absurd hfound List.not_mem_nil⟩
    intro place found found' hfound
    exact absurd hfound (by simp)
  | cons found rest ih =>
    obtain ⟨⟨found', refmap₁⟩, hfound, h⟩ := Except.bind_eq_ok_iff.mp h
    obtain ⟨⟨rest', refmap₂⟩, hrest, h⟩ := Except.bind_eq_ok_iff.mp h
    obtain ⟨rfl, rfl⟩ := Prod.mk.inj (Except.ok.inj h)
    obtain ⟨hrevalidated, hgranted⟩ := hydrateMatch_sound hfound
    obtain ⟨hentries, hnumbered', hrefId⟩ := hgranted.entries hnumbered
    -- the rest starts with the map the first one leaves
    obtain ⟨hlength, hothers, hotherEntries, hotherRefs⟩ := ih hnumbered' hrest
    refine ⟨congrArg Nat.succ hlength, ?_, ?_, ?_⟩
    · rintro (_ | place) old new hold hnew
      · obtain rfl := Option.some.inj hold
        obtain rfl := Option.some.inj hnew
        exact hrevalidated
      · rw [← Nat.add_assoc, Nat.add_right_comm]
        exact hothers place old new hold hnew
    · rw [hotherEntries, hentries, List.append_assoc]
      unfold recordedRefs
      rw [← List.filterMap_append, List.singleton_append]
    · intro other hother
      rcases List.mem_cons.mp hother with rfl | hother
      · exact hrefId
      · exact hotherRefs other hother

/-- **The second look is sound.** Whatever the adapter does, every match that comes back was
validated again at the element it was found at: the role is the same, the identity is or the
bounds are, unless there was nothing to compare, and the query still matches. The map of refs holds
the entry of each match that can be acted on, under the ref the match carries, and nothing else. -/
theorem selectedMatches_sound {query : LocatorQuery} {request : LocatorResolveRequest}
    {surroundings : ℕ → Hydration} {resolution resolution' : LocatorResolution}
    (h : selectedMatches query request surroundings resolution = .ok resolution') :
    resolution'.selected.length = resolution.selected.length
      ∧ (∀ place found found', resolution.selected[place]? = some found →
        resolution'.selected[place]? = some found' →
          ∃ tree root node, (surroundings place).observed = .ok tree
            ∧ Revalidated query (tree.observedAt (.element found.entry none) .window) found.entry
              found' root node)
      ∧ (∃ refmap, resolution'.refmap = some refmap
        ∧ refmap.inner.entries = recordedRefs resolution'.selected)
      ∧ ∀ found ∈ resolution'.selected,
        found.data.interactive = true → found.data.refId.isSome = true := by
  unfold selectedMatches at h
  obtain ⟨⟨selected, refmap⟩, hmatches, h⟩ := Except.bind_eq_ok_iff.mp h
  obtain rfl := Except.ok.inj h
  obtain ⟨hlength, hrevalidated, hentries, hrefIds⟩ :=
    hydrateMatches_sound RefMap.numbered_new hmatches
  refine ⟨hlength, fun place found found' hfound hfound' => ?_, ⟨refmap, rfl, hentries⟩, hrefIds⟩
  have hone := hrevalidated place found found' hfound hfound'
  rwa [Nat.zero_add] at hone

namespace Sample

/-- The request for the first match, with a ref for it. -/
def buttonRequest : LocatorResolveRequest := ⟨.first, 50, .selectedMatches⟩

/-- Any button. -/
def anyButton : LocatorQuery :=
  ⟨⟨some "button", none, none, none, none⟩, none, false, [], none, none⟩


/-- The button, as it is found. -/
def namedTree : ObservedTree :=
  (ObservedTree.fromRoots [.new (element "button" "Save") [] true none] source stats
    true).toOption.get (by decide)

/-- The button, looked at again: its name is not read. -/
def unnamedTree : ObservedTree :=
  (ObservedTree.fromRoots [.new { element "button" "Save" with name := .unknown } [] true none]
    source stats true).toOption.get (by decide)

/-- What the search finds. -/
def foundButton : LocatorResolution :=
  (@evaluateLocatorTree asciiLowercase noBoundsHash namedTree anyButton
    { buttonRequest with materialization := .none }).toOption.get (by decide)

/-- Its one match. -/
def foundMatch : LocatorMatch := foundButton.selected[0]?.get (by decide)

/-- The node of the button that was looked at again. -/
def unnamedNode : ObservedNode := unnamedTree.nodes[0]?.get (by decide)

/-- The second look, which sees this tree. -/
def secondLook (tree : ObservedTree) : ℕ → Hydration := fun _ => ⟨.ok (), .ok tree, false⟩

end Sample

omit [BoundsHasher] [UnicodeLowercase] in
/-- A button that is seen as it was found comes back with a ref. -/
theorem namedButton_selected :
    ∃ resolution', @selectedMatches Sample.noBoundsHash Sample.asciiLowercase Sample.anyButton
        Sample.buttonRequest (Sample.secondLook Sample.namedTree) Sample.foundButton
          = .ok resolution'
      ∧ ∃ refmap, resolution'.refmap = some refmap
        ∧ refmap.inner.entries = recordedRefs resolution'.selected := by
  have hok : (@selectedMatches Sample.noBoundsHash Sample.asciiLowercase Sample.anyButton
      Sample.buttonRequest (Sample.secondLook Sample.namedTree) Sample.foundButton).toOption.isSome
        = true := by decide
  obtain ⟨resolution', hresolution⟩ := Option.isSome_iff_exists.mp hok
  have hselected := Except.eq_ok_of_toOption hresolution
  exact ⟨resolution', hselected, (@selectedMatches_sound Sample.noBoundsHash
    Sample.asciiLowercase _ _ _ _ _ hselected).2.2.1⟩

omit [BoundsHasher] [UnicodeLowercase] in
/-- **A match comes back with nothing compared**: a button with a name and without bounds is looked
at again, its name cannot be read, and it is returned. -/
theorem unnamedButton_selected :
    ∃ resolution', @selectedMatches Sample.noBoundsHash Sample.asciiLowercase Sample.anyButton
        Sample.buttonRequest (Sample.secondLook Sample.unnamedTree) Sample.foundButton
          = .ok resolution'
      ∧ Sample.foundButton.selected[0]? = some Sample.foundMatch
      ∧ Sample.unnamedTree.nodes[0]? = some Sample.unnamedNode
      ∧ ¬ @AnchorHolds Sample.noBoundsHash Sample.foundMatch.entry Sample.unnamedNode := by
  have hok : (@selectedMatches Sample.noBoundsHash Sample.asciiLowercase Sample.anyButton
      Sample.buttonRequest (Sample.secondLook Sample.unnamedTree) Sample.foundButton).toOption.isSome
        = true := by decide
  obtain ⟨resolution', hresolution⟩ := Option.isSome_iff_exists.mp hok
  refine ⟨resolution', Except.eq_ok_of_toOption hresolution, (Option.some_get _).symm,
    (Option.some_get _).symm, fun hholds => ?_⟩
  cases hholds with
  | identity hidentity => exact absurd hidentity (by decide)
  | geometry hcompared hpreliminary hactual =>
    have hnone : Sample.foundMatch.entry.geometry.boundsHash = none := by decide
    rw [hnone] at hpreliminary
    nomatch hpreliminary

end AgentDesktop
