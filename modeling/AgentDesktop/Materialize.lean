import AgentDesktop.Capability
import AgentDesktop.ObservedTree
import AgentDesktop.RefMap
import AgentDesktop.Util.Except

/-!
# Refs for matched nodes

A matched node that can be acted on is given a ref. The entry is read off the
evidence; where the node stands comes from the source of the observation – a
window, or an element that an earlier entry names, whose scope the new entry
then continues.
-/

namespace AgentDesktop

namespace ObservedTree

theorem childrenAt_modify_refId (nodes : List ObservedNode) (index : ℕ) (refId : Option String)
    (i : ℕ) :
    childrenAt (nodes.modify index (fun node => { node with refId })) i
      = childrenAt nodes i := by
  unfold childrenAt
  rw [List.getElem?_modify]
  split_ifs <;> cases nodes[i]? <;> rfl

theorem subtreeCompleteAt_modify_refId (nodes : List ObservedNode) (index : ℕ)
    (refId : Option String) (i : ℕ) :
    subtreeCompleteAt (nodes.modify index (fun node => { node with refId })) i
      = subtreeCompleteAt nodes i := by
  unfold subtreeCompleteAt
  rw [List.getElem?_modify]
  split_ifs <;> cases nodes[i]? <;> rfl

/-- The tree with a ref given to a node. -/
def setRefId (tree : ObservedTree) (index : ℕ) (refId : String) : ObservedTree :=
  { tree with
    nodes := tree.nodes.modify index (fun node => { node with refId := some refId })
    laid := by
      rw [List.length_modify]
      exact tree.laid.congr (fun n _ _ => (childrenAt_modify_refId _ _ _ n).symm)
    grown := by
      refine ⟨fun i node hi hget => ?_, fun i hi hcomplete c hc => ?_⟩
      · rw [List.getElem?_modify] at hget
        cases hold : tree.nodes[i]? with
        | none =>
          rw [hold] at hget
          exact absurd hget (by simp)
        | some old =>
          have horder := tree.grown.ordered i old hi hold
          rw [hold] at hget
          simp only [Option.map_eq_map, Option.map_some, Option.some.injEq] at hget
          subst hget
          split_ifs <;> exact horder
      · rw [childrenAt_modify_refId] at hc
        rw [subtreeCompleteAt_modify_refId] at hcomplete ⊢
        exact tree.grown.aggregated i hi hcomplete c hc
    bounded := by
      rw [List.length_modify]
      exact tree.bounded
    rootsComplete := fun hcomplete r hr => by
      rw [subtreeCompleteAt_modify_refId]
      exact tree.rootsComplete hcomplete r hr }

end ObservedTree

/-- `addressability`: whether the node can be acted on, and whether the evidence
for that answer was there. -/
def addressability (evidence : LocatorEvidence) : Bool × Bool :=
  match evidence.role with
  | .known role =>
    match evidence.refEvidence.availableActions with
    | .known actions => (isRefAbleRoleActions role actions, true)
    | .absent => (isRefAbleRoleActions role [], true)
    | .unknown => (isRefAbleRoleActions role [], false)
  | .absent | .unknown => (false, false)

/-- `selected_identifier`: the identifier the query names, preferred first, else
the preferred one. -/
def selectedIdentifier (evidence : LocatorEvidence) (expected : Option String) :
    Option ElementIdentifier :=
  match expected with
  | some expected =>
    match evidence.identifiers.preferredIdentifier.filter
      (fun preferred => preferred.value == expected) with
    | some preferred => some preferred
    | none => evidence.identifiers.identifiers.find?
        (fun identifier => identifier.value == expected)
  | none => evidence.identifiers.preferredIdentifier

variable [BoundsHasher]

/-- `apply_source`: the parts of an entry that come from what was walked. -/
def applySource (entry : RefEntry) (source : ObservationSource) (nodePath : RefPath) :
    RefEntry :=
  match source with
  | .window window surface =>
    { entry with
      process := ⟨window.pid, window.processInstance⟩
      source :=
        { sourceApp := some window.app
          sourceWindowId := some window.id
          sourceWindowTitle := some window.title
          sourceWindowBoundsHash := window.bounds.bind Rect.boundsHash
          sourceSurface := surface } }
  | .element sourceEntry rootRef =>
    let rootRef := rootRef.or sourceEntry.scope.rootRef
    { entry with
      process := sourceEntry.process
      source := sourceEntry.source
      scope :=
        { rootRef
          pathIsAbsolute := rootRef.isSome || sourceEntry.scope.pathIsAbsolute
          path := sourceEntry.scope.path ++ nodePath } }

/-- `ref_entry`. -/
def refEntryOf (node : ObservedNode) (source : ObservationSource) (query : LocatorQuery) :
    RefEntry :=
  let bounds := node.evidence.refEvidence.bounds.known?
  applySource
    { process := ⟨0, none⟩
      identity :=
        { retainedObject := node.evidence.identifiers.retainedObject
          role := node.evidence.role.known?.getD "unknown"
          name := node.evidence.name.meaningfulString
          value := node.evidence.value.meaningfulString
          description := node.evidence.description.meaningfulString
          nativeId := selectedIdentifier node.evidence query.identity.nativeId }
      geometry := ⟨bounds, bounds.bind Rect.boundsHash⟩
      capabilities :=
        { states := node.evidence.states.known?.getD []
          availableActions := node.evidence.refEvidence.availableActions.known?.getD [] }
      source := ⟨none, none, none, none, .window⟩
      scope := ⟨none, false, node.path⟩ }
    source node.path

/-- What `materialize_refmap` has done so far. -/
structure Materialized where
  /-- The tree, with the refs given. -/
  tree : ObservedTree
  /-- The map of the refs given. -/
  refmap : RefMap
  /-- Whether the evidence was there for every node asked about. -/
  complete : Bool

/-- One node of `materialize_refmap`. -/
def materializeNode (query : LocatorQuery) (state : Materialized) (index : ℕ) :
    Except AdapterError Materialized :=
  match state.tree.nodes[index]? with
  | none => .ok state
  | some node =>
    let addressable := addressability node.evidence
    let complete := state.complete && addressable.2
    if !addressable.1 then .ok { state with complete }
    else
      match state.refmap.tryAllocate (refEntryOf node state.tree.source query) with
      | .error error => .error (.new .invalidArgs error.toText)
      | .ok (refId, refmap) => .ok ⟨state.tree.setRefId index refId, refmap, complete⟩

/-- `materialize_refmap`: over the selected nodes, or over all. -/
def materializeRefmap (tree : ObservedTree) (query : LocatorQuery)
    (selected : Option (List ℕ)) : Except AdapterError Materialized :=
  (selected.getD (List.range tree.nodes.length)).foldlM (materializeNode query)
    ⟨tree, .new, true⟩

/-! ## What the materialization leaves of the tree -/

/-- Giving refs changes nothing but the refs. -/
structure SameButRefs (tree tree' : ObservedTree) : Prop where
  /-- No node is added or dropped. -/
  length : tree'.nodes.length = tree.nodes.length
  /-- Every node keeps everything but its ref. -/
  nodes : ∀ (i : ℕ) (node : ObservedNode), tree.nodes[i]? = some node →
    ∃ refId : Option String, tree'.nodes[i]? = some { node with refId }
  /-- The roots are the same. -/
  roots : tree'.roots = tree.roots
  /-- The source is the same. -/
  source : tree'.source = tree.source
  /-- What is missing is the same. -/
  structurallyComplete : tree'.structurallyComplete = tree.structurallyComplete

omit [BoundsHasher] in
theorem SameButRefs.refl (tree : ObservedTree) : SameButRefs tree tree :=
  ⟨rfl, fun _ node h => ⟨node.refId, h⟩, rfl, rfl, rfl⟩

omit [BoundsHasher] in
theorem SameButRefs.setRefId {tree tree' : ObservedTree} (h : SameButRefs tree tree')
    (index : ℕ) (refId : String) : SameButRefs tree (tree'.setRefId index refId) where
  length := (List.length_modify ..).trans h.length
  nodes i node hget := by
    obtain ⟨refId', hget'⟩ := h.nodes i node hget
    show ∃ refId'', (tree'.nodes.modify index _)[i]? = some { node with refId := refId'' }
    rw [List.getElem?_modify, hget']
    split_ifs
    · exact ⟨some refId, rfl⟩
    · exact ⟨refId', rfl⟩
  roots := h.roots
  source := h.source
  structurallyComplete := h.structurallyComplete

theorem materializeNode_same {tree : ObservedTree} {query : LocatorQuery}
    {state state' : Materialized} {index : ℕ} (h : SameButRefs tree state.tree)
    (hstep : materializeNode query state index = .ok state') : SameButRefs tree state'.tree := by
  unfold materializeNode at hstep
  split at hstep
  · obtain rfl := Except.ok.inj hstep
    exact h
  · simp only at hstep
    split_ifs at hstep
    · obtain rfl := Except.ok.inj hstep
      exact h
    · split at hstep
      · exact absurd hstep (by simp)
      · obtain rfl := Except.ok.inj hstep
        exact h.setRefId _ _

/-- **The materialization changes nothing of the tree but the refs.** -/
theorem materializeRefmap_same {tree : ObservedTree} {query : LocatorQuery}
    {selected : Option (List ℕ)} {state : Materialized}
    (h : materializeRefmap tree query selected = .ok state) : SameButRefs tree state.tree := by
  exact Except.foldlM_invariant (I := fun state : Materialized => SameButRefs tree state.tree)
    (fun _ _ _ _ hs hstep => materializeNode_same hs hstep) (SameButRefs.refl tree) h

end AgentDesktop
