import AgentDesktop.Capability
import AgentDesktop.ReadChildren

/-!
# Reading a node

A node is read in four steps: its attributes, its actions, its children, and, where its
name is that of its children, their labels. Each of them may find the element gone, the
interface switched off or the time used up. What comes of it are the evidence of the node,
whether it is a wrapper that does not count as a level, and the children that were loaded.

Besides, a read moves counts and claims bytes of text. It claims no nodes and no edges, and
it leaves the counts of the traversal alone (`readNode_moves`); and it loads no more children
than its plan allows (`readNode_length_le`).
-/

namespace AgentDesktop

namespace LocatorTraversal

/-! ## Counts -/

/-- `LocatorLimitStats`. -/
structure LocatorLimitStats where
  /-- The times the limit on nodes was met. -/
  nodeHits : ℕ
  /-- The times the limit on edges was met. -/
  edgeHits : ℕ
  /-- The times the limit on children was met. -/
  childHits : ℕ
  /-- The times the limit on labels was met. -/
  childLabelHits : ℕ
  /-- The texts that were cut off. -/
  textHits : ℕ
  /-- The times the limit on the depth was met. -/
  depthHits : ℕ
  /-- The times two counts differed. -/
  childCountChanges : ℕ

/-- `LocatorTraversalStats`. -/
structure LocatorTraversalStats where
  nodesVisited : ℕ
  /-- The most handles owned at one time. -/
  peakHandlesOwned : ℕ
  /-- The deepest level of the native tree. -/
  maxRawDepth : UInt8
  /-- The deepest level without wrappers. -/
  maxLogicalDepth : UInt8
  webWrapperNodes : ℕ
  /-- The cycles that were cut. -/
  cyclesSkipped : ℕ
  /-- The limits that were met. -/
  limits : LocatorLimitStats

/-- `LocatorReadCounts`; the attempts are counted elsewhere. -/
structure LocatorReadCounts where
  attributeBatches : ℕ
  /-- The attributes asked for. -/
  attributesRequested : ℕ
  /-- The calls for children. -/
  childReads : ℕ
  actionReads : ℕ
  /-- The attributes read one by one. -/
  fallbackReads : ℕ

/-- The identifiers seen, of `LocatorIdentifierStats`. -/
structure ObservedIdentifiers where
  valuesObserved : ℕ
  nodesWithIdentifiers : ℕ
  /-- The nodes with several. -/
  nodesWithMultipleIdentifiers : ℕ

/-- `LocatorStats`, the counts a traversal moves. -/
structure TraversalStats where
  /-- Whether a renderer showed its content, `activation.ready`. -/
  activationReady : Bool
  traversal : LocatorTraversalStats
  counts : LocatorReadCounts
  health : LocatorReadHealth
  identifiers : ObservedIdentifiers
  /-- The reads of labels, `semantic_reads.child_label_reads`. -/
  childLabelReads : ℕ
  /-- The tests whether an attribute can be set, `semantic_reads.settable_reads`. -/
  settableReads : ℕ

/-- `LocatorStats::default`. -/
def TraversalStats.zero : TraversalStats where
  activationReady := false
  traversal := ⟨0, 0, 0, 0, 0, 0, ⟨0, 0, 0, 0, 0, 0, 0⟩⟩
  counts := ⟨0, 0, 0, 0, 0⟩
  health := ⟨0, 0, 0⟩
  identifiers := ⟨0, 0, 0⟩
  childLabelReads := 0
  settableReads := 0

/-- `ObservationUsage::new`. -/
def newUsage (limits : ObservationBudget) : ObservationUsage := ⟨limits, 0, 0, 0⟩

/-- `child_capacity`. -/
def childCapacity (usage : ObservationUsage) : ℕ :=
  min (min usage.limits.maxChildrenPerNode (usage.limits.maxEdges - usage.edges))
    (usage.limits.maxNodes - usage.nodes)

/-- `claim_text`. -/
def claimText (usage : ObservationUsage) (bytes : ℕ) : ObservationUsage :=
  { usage with
    textBytes := min (min (usage.textBytes + bytes) usizeMax) usage.limits.maxTextBytes }

/-! ## What the parts of a read give -/

/-- `NameEvidence`. -/
structure NameEvidence where
  explicitLabel : Option String
  /-- The text of the element that labels it. -/
  labelledByText : Option String
  nativeTitle : Option String
  /-- The text of a static text. -/
  staticValue : Option String
  /-- The labels of the children. -/
  childLabel : Option String
  placeholder : Option String
  description : Option String

/-- `NodeAttrs`; the states are left to the one that reads them. -/
structure NodeAttrs where
  role : Option String
  subrole : Option String
  value : Option String
  /-- Where a name may come from. -/
  nameEvidence : NameEvidence
  bounds : Option Rect
  /-- Whether there are scroll bars. -/
  hasScrollbars : Bool

/-- `NodeAttrs::default`. -/
def NodeAttrs.empty : NodeAttrs :=
  ⟨none, none, none, ⟨none, none, none, none, none, none, none⟩, none, false⟩

/-- `NodeAttributeStatus`. -/
structure NodeAttributeStatus where
  /-- The attributes that are not known, one bit for each. -/
  unknownMask : ℕ
  /-- Whether a call got no answer. -/
  cannotComplete : Bool
  /-- The calls that failed otherwise. -/
  nativeReadFailures : ℕ
  /-- Whether the element is gone. -/
  invalidElement : Bool
  /-- Whether the interface is switched off. -/
  apiDisabled : Bool
  /-- The texts that were cut off. -/
  textTruncations : ℕ

namespace NodeAttributeStatus

/-- `field_unknown`. -/
def fieldUnknown (status : NodeAttributeStatus) (index : ℕ) : Bool :=
  status.unknownMask.testBit index

/-- `role_unknown`: `ROLE` or `SUBROLE`. -/
def roleUnknown (status : NodeAttributeStatus) : Bool :=
  status.fieldUnknown 0 || status.fieldUnknown 22

/-- `value_unknown`: `VALUE`. -/
def valueUnknown (status : NodeAttributeStatus) : Bool := status.fieldUnknown 3

/-- `states_unknown`: any of `STATE_MASK`. -/
def statesUnknown (status : NodeAttributeStatus) : Bool :=
  [0, 22, 3, 4, 5, 6, 7, 8, 9, 10, 11, 12, 18, 19, 23].any status.fieldUnknown

/-- `bounds_unknown`: `POSITION` or `SIZE`. -/
def boundsUnknown (status : NodeAttributeStatus) : Bool :=
  status.fieldUnknown 18 || status.fieldUnknown 19

/-- `scrollbars_unknown`. -/
def scrollbarsUnknown (status : NodeAttributeStatus) : Bool :=
  status.fieldUnknown 20 || status.fieldUnknown 21

end NodeAttributeStatus

/-- `NodeAttributeMetrics`. -/
structure NodeAttributeMetrics where
  batchReads : ℕ
  /-- The attributes asked for. -/
  requestedCount : ℕ
  /-- The attributes read one by one. -/
  fallbackReads : ℕ
  /-- The tests whether an attribute can be set. -/
  settableReads : ℕ
  /-- Whether the deadline was found passed. -/
  deadlineExhausted : Bool

/-- `NodeAttributeRead`. -/
structure NodeAttributeRead where
  attrs : NodeAttrs
  /-- The identifier, `ax_identifier`. -/
  axIdentifier : LocatorField String
  /-- The identifier in a document, `ax_dom_identifier`. -/
  axDomIdentifier : LocatorField String
  metrics : NodeAttributeMetrics
  status : NodeAttributeStatus
  /-- The bytes of text that were claimed. -/
  textBytes : ℕ

/-- `AvailableActionsRead`. -/
structure AvailableActionsRead where
  actions : List String
  /-- Whether none is missing. -/
  complete : Bool
  /-- Whether a call got no answer. -/
  cannotComplete : Bool
  /-- Whether the element is gone. -/
  invalidElement : Bool
  /-- Whether the interface is switched off. -/
  apiDisabled : Bool
  /-- Whether the deadline was found passed. -/
  deadlineExhausted : Bool
  /-- The tests whether an attribute can be set. -/
  settableReads : ℕ
  /-- The bytes of text that were claimed. -/
  textBytes : ℕ

/-- What `label_from_children` gives, with the counts it moves. -/
structure LabelRead where
  label : Option String
  /-- Whether nothing is missing. -/
  complete : Bool
  childLabelReads : ℕ
  /-- The calls for children of the children. -/
  childReads : ℕ
  health : LocatorReadHealth
  /-- The limits met, of those on labels, texts and children. -/
  limits : LocatorLimitStats
  /-- The bytes of text that were claimed. -/
  textBytes : ℕ

/-- `TreeBuildContext`. -/
structure TreeBuildContext where
  /-- The element with the focus. -/
  focused : Option AXElement
  /-- The part of the window that is seen. -/
  windowBounds : Option Rect
  /-- Whether bounds are told. -/
  includeBounds : Bool

/-- `bounds_for`. -/
def TreeBuildContext.boundsFor (tree : TreeBuildContext) (bounds : Option Rect) : Option Rect :=
  if tree.includeBounds then bounds else none

/-- **The application's side of a read of a node**, and what is computed from its answers by
tables and by floating-point numbers. -/
structure NodeSource (σ : Type) extends ChildSource σ where
  /-- `ax_role_and_subrole_to_str`. -/
  roleName : String → Option String → String
  intersectRects : Rect → Rect → Option Rect
  /-- `fetch_node_attrs_with_status_for`. -/
  fetchNodeAttrs : AXElement → EvidenceRequirements → ℕ → ObservationUsage →
    StateM σ NodeAttributeRead
  /-- `read_platform_available_actions`. -/
  readAvailableActions : AXElement → String → NodeAttrs → ℕ → ObservationUsage →
    StateM σ AvailableActionsRead
  labelFromChildren : List AXElement → ℕ → ObservationUsage →
    StateM σ (Except AdapterError LabelRead)
  /-- `states_from_element`: the attributes, the role, the context, and whether the text is
  secret. -/
  statesFromElement : AXElement → NodeAttrs → String → TreeBuildContext → Bool →
    StateM σ (List String)
  /-- The token an element is retained under, in `retained::evidence`. -/
  retainedLookup : AXElement → StateM σ (Option String)
  capture : AXElement → StateM σ (Except AdapterError (Option String))

/-! ## Evidence -/

/-- `node_evidence::identifiers`. -/
def identifierEvidence (read : NodeAttributeRead) (requested : Bool) : IdentifierEvidence :=
  if !requested then .unknown
  else
    let complete := !read.axIdentifier.isUnknown && !read.axDomIdentifier.isUnknown
    let native := (read.axIdentifier.known?.map (fun value =>
      ElementIdentifier.mk .axIdentifier value)).toList
    match read.axDomIdentifier.known? with
    | some value => .typed (native ++ [⟨.axDomIdentifier, value⟩]) (some native.length) complete
    | none => .typed native (if native.isEmpty then none else some 0) complete

/-- `node_evidence::unknown`. -/
def unknownEvidence : LocatorEvidence :=
  ⟨.unknown, .unknown, .unknown, .unknown, .unknown, .unknown, ⟨.unknown, .unknown⟩⟩

/-- Whether a text is there and not blank. -/
def meaningful (value : Option String) : Option String :=
  value.filter (fun value => !(trim value).isEmpty)

/-- `is_structural_action`. -/
def isStructuralAction (action : String) : Bool :=
  [Capability.rightClick, Capability.scrollTo, Capability.setFocus].contains action

/-- `option_field`. -/
def optionField {α : Type} (value : Option α) (uncertain : Bool) : LocatorField α :=
  match value with
  | some value => .known value
  | none => if uncertain then .unknown else .absent

/-- `stronger_name_sources`: each with whether it is not known; the indices are those of `LABEL`,
`TITLE_ELEMENT`, `TITLE` and `VALUE`. -/
def strongerNameSources (evidence : NameEvidence) (status : NodeAttributeStatus)
    (role : Option String) : List (Option String × Bool) :=
  [(evidence.explicitLabel, status.fieldUnknown 15),
    (evidence.labelledByText, status.fieldUnknown 17),
    (evidence.nativeTitle, status.fieldUnknown 1),
    (if role = some "AXStaticText" then evidence.staticValue else none,
      role == some "AXStaticText" && status.fieldUnknown 3)]

/-- `name_sources`; the indices are those of `DESCRIPTION` and `PLACEHOLDER`. -/
def nameSources (evidence : NameEvidence) (status : NodeAttributeStatus) (role : Option String)
    (childrenComplete : Bool) : List (Option String × Bool) :=
  strongerNameSources evidence status role ++
    [(evidence.description, status.fieldUnknown 2), (evidence.childLabel, !childrenComplete),
      (evidence.placeholder, status.fieldUnknown 16)]

/-- The loop of `name_field`. -/
def firstName (uncertain : Bool) : List (Option String × Bool) → LocatorField String
  | [] => if uncertain then .unknown else .absent
  | (candidate, unknown) :: rest =>
    match meaningful candidate with
    | some value => if uncertain || unknown then .unknown else .known value
    | none => firstName (uncertain || unknown) rest

/-- `name_field`. -/
def nameField (evidence : NameEvidence) (status : NodeAttributeStatus) (role : Option String)
    (childrenComplete : Bool) : LocatorField String :=
  firstName false (nameSources evidence status role childrenComplete)

/-- `description_field`. -/
def descriptionField (evidence : NameEvidence) (status : NodeAttributeStatus)
    (role : Option String) : LocatorField String :=
  let sources := strongerNameSources evidence status role
  let preNameKnown := sources.any (fun source => (meaningful source.1).isSome)
  let preNameUnknown := sources.any Prod.snd
  let descriptionUnknown := status.fieldUnknown 2
  match meaningful evidence.description, preNameKnown, preNameUnknown with
  | some value, true, _ => if descriptionUnknown then .unknown else .known value
  | some _, false, true => .unknown
  | none, true, _ => if descriptionUnknown then .unknown else .absent
  | none, false, true => if descriptionUnknown then .unknown else .absent
  | _, false, false => .absent

section Source

variable {σ : Type} (source : NodeSource σ)

/-- `role_field`. -/
def roleField (attrs : NodeAttrs) (status : NodeAttributeStatus) : LocatorField String :=
  if status.roleUnknown then .unknown
  else optionField (attrs.role.map (fun role => source.roleName role attrs.subrole)) false

/-- `is_transparent_wrapper`. -/
def isTransparentWrapper (attrs : NodeAttrs) (name : NameEvidence) (value : Option String)
    (identifiers : IdentifierEvidence) (actions : LocatorField (List String)) : Bool :=
  attrs.role.any (fun role => source.roleName role attrs.subrole == "group")
    && [name.explicitLabel, name.labelledByText, name.nativeTitle, name.staticValue,
        name.childLabel, name.placeholder, name.description, value].all
      (fun text => (meaningful text).isNone)
    && identifiers.complete && identifiers.identifiers.isEmpty
    && actions.known?.any (fun actions => actions.all isStructuralAction)

/-- `should_read_child_label`. -/
def shouldReadChildLabel (role : String) (evidence : NameEvidence) : Bool :=
  (Roles.interactiveRoles.contains role || role == "row")
    && [evidence.explicitLabel, evidence.labelledByText, evidence.nativeTitle,
        evidence.staticValue, evidence.description].all (fun value => (meaningful value).isNone)

/-! ## The read -/

/-- `NodeRead`. -/
structure NodeRead where
  attrs : NodeAttrs
  evidence : LocatorEvidence
  /-- Whether the node does not count as a level. -/
  webWrapper : Bool
  /-- Whether the element is gone. -/
  invalidElement : Bool
  childRead : ChildRead

/-- The read of an element that is gone. -/
def NodeRead.invalid : NodeRead := ⟨.empty, unknownEvidence, false, true, .empty false⟩

/-- What a read changes: the counts, the usage, and the world. -/
structure ReadState (σ : Type) where
  stats : TraversalStats
  usage : ObservationUsage
  world : σ

/-- A part of a read of a node. -/
abbrev NodeReading (σ α : Type) : Type := ExceptT AdapterError (StateM (ReadState σ)) α

namespace NodeReading

variable {α : Type}

/-- A question to the application, asked with what is used up. -/
def ask (question : ObservationUsage → StateM σ α) : NodeReading σ α := fun state =>
  let answer := question state.usage state.world
  (.ok answer.1, { state with world := answer.2 })

/-- Counts are moved, but not those of the traversal itself. -/
def count (f : TraversalStats → TraversalStats) : NodeReading σ Unit := fun state =>
  (.ok (), { state with stats := f state.stats })

/-- Bytes of text are claimed. -/
def claim (bytes : ℕ) : NodeReading σ Unit := fun state =>
  (.ok (), { state with usage := claimText state.usage bytes })

end NodeReading

/-- The counts of the limits, each with what another read adds. -/
def LocatorLimitStats.plus (limits other : LocatorLimitStats) : LocatorLimitStats where
  nodeHits := limits.nodeHits + other.nodeHits
  edgeHits := limits.edgeHits + other.edgeHits
  childHits := limits.childHits + other.childHits
  childLabelHits := limits.childLabelHits + other.childLabelHits
  textHits := limits.textHits + other.textHits
  depthHits := limits.depthHits + other.depthHits
  childCountChanges := limits.childCountChanges + other.childCountChanges

/-- No limits met. -/
def LocatorLimitStats.zero : LocatorLimitStats := ⟨0, 0, 0, 0, 0, 0, 0⟩

/-- The counts of the reads, each with what another read adds. -/
def LocatorReadHealth.plus (health other : LocatorReadHealth) : LocatorReadHealth where
  cannotComplete := health.cannotComplete + other.cannotComplete
  nativeReadFailures := health.nativeReadFailures + other.nativeReadFailures
  deadlineExhausted := health.deadlineExhausted + other.deadlineExhausted

/-- `u64::from`. -/
def ofBool (flag : Bool) : ℕ := if flag then 1 else 0

/-- `permission_error`. -/
def permissionError (phase : String) : AdapterError :=
  ((AdapterError.new .permDenied
    "Accessibility API is disabled while reading live locator evidence").withSuggestion
      "Grant Accessibility permission, then retry").withDetails
    (.obj [("kind", .str "locator_api_disabled"), ("phase", .str phase)])

/-- The error of `locator_deadline::remaining`. -/
def deadlineError : AdapterError :=
  (AdapterError.timeout "Live locator deadline exhausted").withDetails
    (.obj [("kind", .str "locator_deadline_exhausted"), ("retryable", .bool true)])

/-- `record_attribute_read`, and what `read_node` counts after it. -/
def countAttributes (read : NodeAttributeRead) (stats : TraversalStats) : TraversalStats :=
  { stats with
    counts :=
      { stats.counts with
        attributeBatches := stats.counts.attributeBatches + read.metrics.batchReads
        attributesRequested := stats.counts.attributesRequested + read.metrics.requestedCount
        fallbackReads := stats.counts.fallbackReads + read.metrics.fallbackReads }
    health := stats.health.plus ⟨ofBool read.status.cannotComplete,
      read.status.nativeReadFailures, ofBool read.metrics.deadlineExhausted⟩
    settableReads := stats.settableReads + read.metrics.settableReads
    traversal :=
      { stats.traversal with
        limits := stats.traversal.limits.plus
          { LocatorLimitStats.zero with textHits := read.status.textTruncations } } }

/-- `update_identifier_stats`. -/
def countIdentifiers (identifiers : IdentifierEvidence) (stats : TraversalStats) :
    TraversalStats :=
  let number := identifiers.identifiers.length
  { stats with
    identifiers :=
      { valuesObserved := stats.identifiers.valuesObserved + number
        nodesWithIdentifiers :=
          stats.identifiers.nodesWithIdentifiers + ofBool (decide (0 < number))
        nodesWithMultipleIdentifiers :=
          stats.identifiers.nodesWithMultipleIdentifiers + ofBool (decide (1 < number)) } }

/-- What `read_node` counts of the actions. -/
def countActions (read : AvailableActionsRead) (stats : TraversalStats) : TraversalStats :=
  { stats with
    counts := { stats.counts with actionReads := stats.counts.actionReads + 1 }
    health := stats.health.plus ⟨ofBool read.cannotComplete, 0, ofBool read.deadlineExhausted⟩
    settableReads := stats.settableReads + read.settableReads }

/-- What `read_node` counts of the children. -/
def countChildren (status : ChildReadStatus) (stats : TraversalStats) : TraversalStats :=
  { stats with
    counts := { stats.counts with childReads := stats.counts.childReads + status.attempts }
    health := stats.health.plus status.health
    traversal :=
      { stats.traversal with
        limits := stats.traversal.limits.plus
          { LocatorLimitStats.zero with
            childCountChanges := ofBool status.countChanged
            childHits := ofBool status.cursorStalled } } }

/-- What `label_from_children` counts. -/
def countLabels (read : LabelRead) (stats : TraversalStats) : TraversalStats :=
  { stats with
    counts := { stats.counts with childReads := stats.counts.childReads + read.childReads }
    health := stats.health.plus read.health
    childLabelReads := stats.childLabelReads + read.childLabelReads
    traversal :=
      { stats.traversal with limits := stats.traversal.limits.plus read.limits } }

/-- The attributes of `read_node`, with the identifiers; none of an element that is gone. -/
def readAttributes (element : AXElement) (requirements : EvidenceRequirements) (deadline : ℕ) :
    NodeReading σ (Option (NodeAttributeRead × IdentifierEvidence)) := do
  match ← NodeReading.ask (fun _ => remainingTime source.toChildSource deadline) with
  | none => throw deadlineError
  | some _ =>
    let read ← NodeReading.ask (source.fetchNodeAttrs element requirements deadline)
    NodeReading.claim read.textBytes
    NodeReading.count (countAttributes read)
    if read.status.apiDisabled then throw (permissionError "attributes")
    else
      let identifiers := identifierEvidence read requirements.identifiers
      NodeReading.count (countIdentifiers identifiers)
      return if read.status.invalidElement then none else some (read, identifiers)

/-- The actions of `read_node`; none of an element that is gone. -/
def readActions (element : AXElement) (role : String) (read : NodeAttributeRead)
    (requirements : EvidenceRequirements) (deadline : ℕ) :
    NodeReading σ (Option (LocatorField (List String))) := do
  if requirements.refEvidence.actions then
    let actions ← NodeReading.ask (source.readAvailableActions element role read.attrs deadline)
    NodeReading.claim actions.textBytes
    NodeReading.count (countActions actions)
    if actions.apiDisabled then throw (permissionError "actions")
    else
      return if actions.invalidElement then none
        else if actions.complete && !actions.deadlineExhausted && !read.status.scrollbarsUnknown
          then some (.known actions.actions)
        else some .unknown
  else return some .unknown

/-- The children of `read_node`; none of an element that is gone. -/
def readNodeChildren (element : AXElement) (role : Option String) (budget : ChildReadBudget)
    (deadline : ℕ) : NodeReading σ (Option ChildRead) := do
  let read ← NodeReading.ask (fun _ =>
    readChildren source.toChildSource element role budget deadline)
  NodeReading.count (countChildren read.status)
  if read.status.apiDisabled then throw (permissionError "children")
  else return if read.status.invalidElement then none else some read

/-- `complete_name_evidence_with_deadline`: the labels of the children are read if the name is
theirs. -/
def completeNameEvidence (evidence : NameEvidence) (role : String) (children : List AXElement)
    (deadline : ℕ) : NodeReading σ (NameEvidence × Bool) := do
  if shouldReadChildLabel role evidence then
    match ← NodeReading.ask (source.labelFromChildren children deadline) with
    | .error error => throw error
    | .ok read =>
      NodeReading.claim read.textBytes
      NodeReading.count (countLabels read)
      return ({ evidence with childLabel := read.label }, read.complete)
  else return (evidence, true)

/-- What the reads of a node have brought. -/
structure NodeParts where
  read : NodeAttributeRead
  identifiers : IdentifierEvidence
  role : String
  /-- Whether the text is secret. -/
  secure : Bool
  /-- The value, unless it is secret. -/
  value : Option String
  actions : LocatorField (List String)

/-- The name of `read_node`, with whether the labels of the children are complete. -/
def readName (requirements : EvidenceRequirements) (evidence : NameEvidence) (role : String)
    (children : List AXElement) (deadline : ℕ) : NodeReading σ (NameEvidence × Bool) :=
  if requirements.name || requirements.description then
    completeNameEvidence source evidence role children deadline
  else pure (evidence, true)

/-- The states of `read_node`. -/
def readStates (tree : TreeBuildContext) (element : AXElement)
    (requirements : EvidenceRequirements) (parts : NodeParts) : NodeReading σ (List String) :=
  if requirements.states then
    NodeReading.ask (fun _ =>
      source.statesFromElement element parts.read.attrs parts.role tree parts.secure)
  else pure []

/-- The end of `read_node`: the names, the states and the evidence. -/
def finishNode (tree : TreeBuildContext) (element : AXElement)
    (requirements : EvidenceRequirements) (deadline : ℕ) (budget : ChildReadBudget)
    (parts : NodeParts) (childRead : ChildRead) : NodeReading σ NodeRead := do
  let named ← readName source requirements parts.read.attrs.nameEvidence parts.role
    childRead.elements deadline
  let name := named.1
  let childrenComplete := childRead.complete && named.2
    && !(!budget.boundary && childRead.truncated)
  let states ← readStates source tree element requirements parts
  let token ← NodeReading.ask (fun _ => source.retainedLookup element)
  let status := parts.read.status
  let evidence : LocatorEvidence :=
    { role := roleField source parts.read.attrs status
      name :=
        if requirements.name then nameField name status parts.read.attrs.role childrenComplete
        else .unknown
      description :=
        if requirements.description then descriptionField name status parts.read.attrs.role
        else .unknown
      value :=
        if requirements.value then optionField parts.value status.valueUnknown else .unknown
      identifiers :=
        { parts.identifiers with
          retainedObject := token <|> parts.identifiers.retainedObject }
      states :=
        if !requirements.states || status.statesUnknown then .unknown else .known states
      refEvidence :=
        { bounds :=
            if requirements.refEvidence.bounds then
              optionField (tree.boundsFor parts.read.attrs.bounds) status.boundsUnknown
            else .unknown
          availableActions := parts.actions } }
  return ⟨parts.read.attrs, evidence,
    isTransparentWrapper source parts.read.attrs name parts.value parts.identifiers parts.actions,
    false, childRead⟩

/-- **`read_node`.** -/
def readNode (tree : TreeBuildContext) (element : AXElement)
    (requirements : EvidenceRequirements) (deadline : ℕ) (plan : ChildReadPlan) :
    NodeReading σ NodeRead := do
  match ← readAttributes source element requirements deadline with
  | none => return .invalid
  | some (read, identifiers) =>
    let attrs := read.attrs
    let role := (attrs.role.map (fun role => source.roleName role attrs.subrole)).getD "unknown"
    let secure := attrs.role == some "AXSecureTextField"
      || attrs.subrole == some "AXSecureTextField"
    let value := if secure then none else attrs.value
    match ← readActions source element role read requirements deadline with
    | none => return .invalid
    | some actions =>
      let wrapperCandidate :=
        isTransparentWrapper source attrs attrs.nameEvidence value identifiers actions
      let wantsChildLabel := (requirements.name || requirements.description)
        && shouldReadChildLabel role attrs.nameEvidence
      let budget := plan.budget wrapperCandidate wantsChildLabel
      match ← readNodeChildren source element attrs.role budget deadline with
      | none => return .invalid
      | some childRead =>
        finishNode source tree element requirements deadline budget
          ⟨read, identifiers, role, secure, value, actions⟩ childRead

/-! ## What a read leaves alone -/

/-- The counts that only the traversal moves, and what is used up of nodes and edges. -/
def traversed (state : ReadState σ) : ℕ × ℕ × ObservationBudget × ℕ × ℕ × UInt8 × UInt8 :=
  (state.usage.nodes, state.usage.edges, state.usage.limits, state.stats.traversal.nodesVisited,
    state.stats.traversal.peakHandlesOwned, state.stats.traversal.maxRawDepth,
    state.stats.traversal.maxLogicalDepth)

/-- **The accounts of the traversal stay as they are.** -/
def Untouched (state state' : ReadState σ) : Prop := traversed state' = traversed state

variable {source}

section Rules

variable {α β : Type}

theorem untouched_pure (value : α) : Moves Untouched (pure value : NodeReading σ α).run :=
  Moves.pure (R := Untouched) (fun _ => rfl) (Except.ok value)

theorem untouched_throw (error : AdapterError) :
    Moves Untouched (throw error : NodeReading σ α).run := fun _ => rfl

theorem untouched_bind {p : NodeReading σ α} {f : α → NodeReading σ β}
    (h : Moves Untouched p.run) (hf : ∀ value, Moves Untouched (f value).run) :
    Moves Untouched (p >>= f).run :=
  Moves.bindExcept (R := Untouched) (fun _ => rfl) (fun _ _ _ h₁ h₂ => Eq.trans h₂ h₁) h hf

theorem untouched_ask (question : ObservationUsage → StateM σ α) :
    Moves Untouched (NodeReading.ask question).run := fun _ => rfl

theorem untouched_claim (bytes : ℕ) :
    Moves Untouched (NodeReading.claim bytes : NodeReading σ Unit).run := fun _ => rfl

theorem untouched_ite {c : Prop} [Decidable c] {p q : NodeReading σ α}
    (hp : Moves Untouched p.run) (hq : Moves Untouched q.run) :
    Moves Untouched (if c then p else q).run := Moves.ite hp hq

end Rules

theorem readAttributes_moves (element : AXElement) (requirements : EvidenceRequirements)
    (deadline : ℕ) :
    Moves Untouched (readAttributes source element requirements deadline).run := by
  unfold readAttributes
  refine untouched_bind (untouched_ask _) (fun time => ?_)
  cases time with
  | none => exact untouched_throw _
  | some _ =>
    refine untouched_bind (untouched_ask _) (fun read => ?_)
    refine untouched_bind (untouched_claim _) (fun _ => ?_)
    refine untouched_bind (fun _ => rfl) (fun _ => ?_)
    refine untouched_ite (untouched_throw _) ?_
    exact untouched_bind (fun _ => rfl) (fun _ => untouched_pure _)

theorem readActions_moves (element : AXElement) (role : String) (read : NodeAttributeRead)
    (requirements : EvidenceRequirements) (deadline : ℕ) :
    Moves Untouched (readActions source element role read requirements deadline).run := by
  unfold readActions
  refine untouched_ite (untouched_bind (untouched_ask _) (fun actions => ?_)) (untouched_pure _)
  refine untouched_bind (untouched_claim _) (fun _ => ?_)
  refine untouched_bind (fun _ => rfl) (fun _ => ?_)
  exact untouched_ite (untouched_throw _) (untouched_pure _)

theorem readNodeChildren_moves (element : AXElement) (role : Option String)
    (budget : ChildReadBudget) (deadline : ℕ) :
    Moves Untouched (readNodeChildren source element role budget deadline).run := by
  unfold readNodeChildren
  refine untouched_bind (untouched_ask _) (fun read => ?_)
  refine untouched_bind (fun _ => rfl) (fun _ => ?_)
  exact untouched_ite (untouched_throw _) (untouched_pure _)

theorem completeNameEvidence_moves (evidence : NameEvidence) (role : String)
    (children : List AXElement) (deadline : ℕ) :
    Moves Untouched (completeNameEvidence source evidence role children deadline).run := by
  unfold completeNameEvidence
  refine untouched_ite (untouched_bind (untouched_ask _) (fun read => ?_)) (untouched_pure _)
  cases read with
  | error error => exact untouched_throw _
  | ok read =>
    refine untouched_bind (untouched_claim _) (fun _ => ?_)
    exact untouched_bind (fun _ => rfl) (fun _ => untouched_pure _)

theorem finishNode_moves (tree : TreeBuildContext) (element : AXElement)
    (requirements : EvidenceRequirements) (deadline : ℕ) (budget : ChildReadBudget)
    (parts : NodeParts) (childRead : ChildRead) :
    Moves Untouched
      (finishNode source tree element requirements deadline budget parts childRead).run := by
  have hname : Moves Untouched (readName source requirements parts.read.attrs.nameEvidence
      parts.role childRead.elements deadline).run := by
    unfold readName
    exact untouched_ite (completeNameEvidence_moves _ _ _ _) (untouched_pure _)
  have hstates : Moves Untouched (readStates source tree element requirements parts).run := by
    unfold readStates
    exact untouched_ite (untouched_ask _) (untouched_pure _)
  unfold finishNode
  refine untouched_bind hname (fun name => untouched_bind hstates (fun states => ?_))
  exact untouched_bind (untouched_ask _) (fun token => untouched_pure _)

/-- **A read of a node leaves the accounts of the traversal alone**, also when it fails. -/
theorem readNode_moves (tree : TreeBuildContext) (element : AXElement)
    (requirements : EvidenceRequirements) (deadline : ℕ) (plan : ChildReadPlan) :
    Moves Untouched (readNode source tree element requirements deadline plan).run := by
  unfold readNode
  refine untouched_bind (readAttributes_moves element requirements deadline) (fun found => ?_)
  cases found with
  | none => exact untouched_pure _
  | some found =>
    refine untouched_bind (readActions_moves element _ _ requirements deadline) (fun actions => ?_)
    cases actions with
    | none => exact untouched_pure _
    | some actions =>
      refine untouched_bind (readNodeChildren_moves element _ _ deadline) (fun childRead => ?_)
      cases childRead with
      | none => exact untouched_pure _
      | some childRead => exact finishNode_moves tree element requirements deadline _ _ childRead

/-! ## What a read loads -/

theorem readNodeChildren_length_le (element : AXElement) (role : Option String)
    (budget : ChildReadBudget) (deadline : ℕ) :
    Yields (readNodeChildren source element role budget deadline)
      (fun read => ∀ childRead ∈ read, childRead.elements.length ≤ budget.maxElements) := by
  unfold readNodeChildren
  have hask : Yields (NodeReading.ask (fun _ =>
      readChildren source.toChildSource element role budget deadline))
      (fun read => read.elements.length ≤ budget.maxElements) := by
    intro state read hread
    obtain rfl := Except.ok.inj hread
    exact readChildren_length_le element role budget deadline _
  refine Yields.bind hask (fun read hle => Yields.bind' (fun _ => ?_))
  refine Yields.ite (fun _ => Yields.throw _) (fun _ => Yields.pure (fun childRead hread => ?_))
  split_ifs at hread
  · exact absurd hread (Option.not_mem_none childRead)
  · obtain rfl := Option.mem_some_iff.mp hread
    exact hle

theorem finishNode_childRead (tree : TreeBuildContext) (element : AXElement)
    (requirements : EvidenceRequirements) (deadline : ℕ) (budget : ChildReadBudget)
    (parts : NodeParts) (childRead : ChildRead) :
    Yields (finishNode source tree element requirements deadline budget parts childRead)
      (fun read => read.childRead = childRead) := by
  unfold finishNode
  refine Yields.bind' (fun name => Yields.bind' (fun states => Yields.bind' (fun token => ?_)))
  exact Yields.pure rfl

/-- **A read of a node loads no more children than its plan allows.** -/
theorem readNode_length_le (tree : TreeBuildContext) (element : AXElement)
    (requirements : EvidenceRequirements) (deadline : ℕ) (plan : ChildReadPlan) :
    Yields (readNode source tree element requirements deadline plan)
      (fun read => read.childRead.elements.length
        ≤ max plan.maxElements plan.boundaryElements) := by
  unfold readNode
  refine Yields.bind' (fun found => ?_)
  cases found with
  | none => exact Yields.pure (Nat.zero_le _)
  | some found =>
    refine Yields.bind' (fun actions => ?_)
    cases actions with
    | none => exact Yields.pure (Nat.zero_le _)
    | some actions =>
      refine Yields.bind (readNodeChildren_length_le element _ _ deadline)
        (fun childRead hread => ?_)
      cases childRead with
      | none => exact Yields.pure (Nat.zero_le _)
      | some childRead =>
        intro state read hfinished
        rw [finishNode_childRead tree element requirements deadline _ _ childRead state read
          hfinished]
        exact (hread childRead rfl).trans (plan.budget_le _ _)

end Source

end LocatorTraversal

end AgentDesktop
