import AgentDesktop.Requirements
import AgentDesktop.SameElement
import AgentDesktop.Util.Except

/-!
# Reading a live accessibility tree

An element is a reference to an object of an application. What the object is –
its evidence, its children, its bounds – is read through the platform, and a
read may fail, come back incomplete, or not be made because a budget or the
time is used up. The tree does not change while it is searched; the laws of
`AXTree` say how what is read relates to what is there.
-/

namespace AgentDesktop

/-! ## Elements and reads -/

/-- `AXElement`, by its pointer. -/
structure AXElement where
  pointer : ℕ
  deriving DecidableEq

/-- `ChildRead`, as far as the search looks at it. -/
structure ChildRead where
  elements : List AXElement
  /-- The number of children the platform reports. -/
  totalCount : ℕ
  /-- Whether the read went through. -/
  complete : Bool

/-- `ChildRead::truncated`. -/
def ChildRead.truncated (read : ChildRead) : Bool := read.elements.length < read.totalCount

/-- `NodeRead`, as far as the search looks at it. -/
structure NodeRead where
  /-- What was read of the element. -/
  evidence : LocatorEvidence
  /-- Whether the reference is no longer valid. -/
  invalidElement : Bool
  childRead : ChildRead

/-! ## Budgets and time -/

/-- `ObservationBudget`. -/
structure ObservationBudget where
  maxNodes : ℕ
  maxEdges : ℕ
  /-- The limit on the children of one node. -/
  maxChildrenPerNode : ℕ
  /-- The limit on one text. -/
  maxFieldBytes : ℕ
  /-- The limit on all texts. -/
  maxTextBytes : ℕ

/-- `ObservationUsage`. -/
structure ObservationUsage where
  limits : ObservationBudget
  nodes : ℕ
  edges : ℕ
  /-- The bytes of text claimed. -/
  textBytes : ℕ

/-- `claim_node`. -/
def ObservationUsage.claimNode (usage : ObservationUsage) : Option ObservationUsage :=
  if usage.limits.maxNodes ≤ usage.nodes then none
  else some { usage with nodes := usage.nodes + 1 }

/-- `claim_edges`. -/
def ObservationUsage.claimEdges (usage : ObservationUsage) (count : ℕ) : ObservationUsage :=
  { usage with edges := min (usage.edges + count) usage.limits.maxEdges }

/-- `ResolveReadContext`, with the time instead of the deadline; the counts that are only
reported are left out. -/
structure ResolveReadContext where
  usage : ObservationUsage
  clock : ℕ

/-! ## The tree -/

/-- **A live accessibility tree**, with what the platform answers about it. -/
structure AXTree (Object : Type) where
  /-- The object an element refers to; elements of one object are equal to `CFEqual`. -/
  object : AXElement → Object
  /-- The children of an object. -/
  children : Object → List AXElement
  /-- All that could be read of an object. -/
  evidence : Object → LocatorEvidence
  /-- The bounds of an object. -/
  bounds : Object → Option Rect
  /-- The token an object is retained under, `RetainedStore::lookup`. -/
  lookup : Object → Option String
  /-- Whether an object is retained under a token, `RetainedStore::contains_token`. -/
  containsToken : String → Bool
  /-- Whether the deadline has passed at a time. -/
  expired : ℕ → Bool
  readNode : ResolveReadContext → AXElement → EvidenceRequirements →
    Except AdapterError (NodeRead × ResolveReadContext)
  /-- `read_bounds_with_deadline`. -/
  readBounds : ResolveReadContext → AXElement →
    Except AdapterError (Option Rect × ResolveReadContext)
  /-- `read_string` of the native role. -/
  readRole : ResolveReadContext → AXElement →
    Except AdapterError (Option String × ResolveReadContext)
  /-- `read_child_at`, with whether the platform is switched off. -/
  readChildAt : ResolveReadContext → AXElement → Option String → ℕ →
    ChildRead × Bool × ResolveReadContext
  /-- What is read of an element is there. -/
  readNode_evidence : ∀ {context element requirements read context'},
    readNode context element requirements = .ok (read, context') → read.invalidElement = false →
      read.evidence.Refines ((evidence (object element)).requested requirements)
  readNode_children : ∀ {context element requirements read context'},
    readNode context element requirements = .ok (read, context') →
      read.childRead.elements.Sublist (children (object element))
  /-- A complete read that is not truncated returns all children. -/
  readNode_complete : ∀ {context element requirements read context'},
    readNode context element requirements = .ok (read, context') → read.invalidElement = false →
      read.childRead.complete = true → read.childRead.truncated = false →
        read.childRead.elements = children (object element)
  /-- A read claims no nodes. -/
  readNode_usage : ∀ {context element requirements read context'},
    readNode context element requirements = .ok (read, context') →
      context'.usage.nodes = context.usage.nodes ∧ context'.usage.limits = context.usage.limits
  /-- A read that fails ran out of time, was not permitted, or got no answer. -/
  readNode_error : ∀ {context element requirements error},
    readNode context element requirements = .error error →
      error.code = .timeout ∨ error.code = .permDenied ∨ error.code = .appUnresponsive
  readBounds_eq : ∀ {context element read context'},
    readBounds context element = .ok (read, context') → read = bounds (object element)
  /-- So do the reads of bounds fail. -/
  readBounds_error : ∀ {context element error}, readBounds context element = .error error →
    error.code = .timeout ∨ error.code = .permDenied ∨ error.code = .appUnresponsive
  /-- A complete read of one child returns the child at the index. -/
  readChildAt_complete : ∀ {context element role context₁ context₂ index read disabled context'},
    readRole context element = .ok (role, context₁) →
      readChildAt context₂ element role index = (read, disabled, context') →
        read.complete = true → read.elements = (children (object element))[index]?.toList

namespace AXTree

variable {Object : Type}

/-- **The elements of a tree**, by their depth: the roots and, with an element, the children of
its object. -/
inductive ReachesAt (tree : AXTree Object) (roots : List AXElement) : ℕ → AXElement → Prop
  | root {element : AXElement} (h : element ∈ roots) : ReachesAt tree roots 0 element
  | child {depth : ℕ} {element child : AXElement} (h : ReachesAt tree roots depth element)
      (hchild : child ∈ tree.children (tree.object element)) :
      ReachesAt tree roots (depth + 1) child

/-- The elements of a tree. -/
def Reaches (tree : AXTree Object) (roots : List AXElement) (element : AXElement) : Prop :=
  ∃ depth, tree.ReachesAt roots depth element

theorem ReachesAt.reaches {tree : AXTree Object} {roots : List AXElement} {depth : ℕ}
    {element : AXElement} (h : tree.ReachesAt roots depth element) : tree.Reaches roots element :=
  ⟨depth, h⟩

theorem Reaches.closed {tree : AXTree Object} {roots : List AXElement} {S : AXElement → Prop}
    (hroots : ∀ root ∈ roots, S root)
    (hclosed : ∀ element, S element → ∀ child ∈ tree.children (tree.object element), S child)
    {element : AXElement} (h : tree.Reaches roots element) : S element := by
  obtain ⟨depth, h⟩ := h
  induction h with
  | root h => exact hroots _ h
  | child _ hchild ih => exact hclosed _ ih _ hchild

/-- `locator_deadline::remaining`: an error once the deadline has passed. -/
def remaining (tree : AXTree Object) (context : ResolveReadContext) :
    Except AdapterError ResolveReadContext :=
  if tree.expired context.clock then
    .error ((AdapterError.timeout "Live locator deadline exhausted").withDetails
      (.obj [("kind", .str "locator_deadline_exhausted"), ("retryable", .bool true)]))
  else .ok { context with clock := context.clock + 1 }

/-- The error of `retained::validate`. -/
def ownerUnavailable : AdapterError :=
  ((AdapterError.new .staleRef "The native object owner is no longer available").withSuggestion
    "Take a fresh snapshot in the active session").withDisposition .notDelivered

/-- `retained::matches`, with `retained::validate` before it. -/
def retainedMatches (tree : AXTree Object) (token : String) (element : AXElement) :
    Except AdapterError Bool :=
  if tree.containsToken token then .ok (tree.lookup (tree.object element) == some token)
  else .error ownerUnavailable

/-- `candidate_match`: by the retained object, or else by the evidence. -/
def candidateMatch (tree : AXTree Object) (element : AXElement) (entry : RefEntry)
    (evidence : LocatorEvidence) : Except AdapterError IdentityMatch :=
  match entry.identity.retainedObject with
  | some token => (tree.retainedMatches token element).map
      (fun found => if found then .matched else .noMatch)
  | none => .ok (matchNativeOrTextIdentity entry evidence)

/-- The verdict on an object, from what is known of it. -/
def verdictFrom (tree : AXTree Object) (entry : RefEntry) (object : Object)
    (evidence : LocatorEvidence) : IdentityMatch :=
  match entry.identity.retainedObject with
  | some token => if tree.lookup object == some token then .matched else .noMatch
  | none => matchNativeOrTextIdentity entry evidence

/-- The owner of the retained object an entry names is gone. -/
def OwnerGone (tree : AXTree Object) (entry : RefEntry) : Prop :=
  ∃ token, entry.identity.retainedObject = some token ∧ tree.containsToken token = false

theorem candidateMatch_ensures (tree : AXTree Object) (element : AXElement) (entry : RefEntry)
    (evidence : LocatorEvidence) :
    (tree.candidateMatch element entry evidence).Ensures
      (fun verdict => verdict = tree.verdictFrom entry (tree.object element) evidence)
      (fun error => error = ownerUnavailable ∧ tree.OwnerGone entry) := by
  unfold candidateMatch verdictFrom
  cases htoken : entry.identity.retainedObject with
  | none => exact rfl
  | some token =>
    dsimp only
    unfold retainedMatches
    by_cases howned : tree.containsToken token = true
    · rw [if_pos howned]
      exact rfl
    · rw [if_neg howned]
      exact ⟨rfl, token, htoken, Bool.eq_false_iff.mpr howned⟩

theorem verdictFrom_steady (tree : AXTree Object) (entry : RefEntry) (object : Object)
    {evidence fuller : LocatorEvidence} (h : evidence.Refines fuller) :
    Informs (tree.verdictFrom entry object evidence) (tree.verdictFrom entry object fuller) := by
  unfold verdictFrom
  cases htoken : entry.identity.retainedObject with
  | none => exact matchNativeOrTextIdentity_steady entry h (fun hne => absurd htoken hne)
  | some token => exact Informs.refl _

end AXTree

/-! ## A tree that is read without trouble -/

namespace Sample

/-- A tree, by its objects, of which every read succeeds. -/
def steadyTree (children : ℕ → List AXElement) (evidence : ℕ → LocatorEvidence)
    (bounds : ℕ → Option Rect) : AXTree ℕ where
  object := AXElement.pointer
  children := children
  evidence := evidence
  bounds := bounds
  lookup := fun _ => none
  containsToken := fun _ => false
  expired := fun _ => false
  readNode := fun context element requirements =>
    .ok (⟨(evidence element.pointer).requested requirements, false,
      ⟨children element.pointer, (children element.pointer).length, true⟩⟩, context)
  readBounds := fun context element => .ok (bounds element.pointer, context)
  readRole := fun context element => .ok ((evidence element.pointer).role.known?, context)
  readChildAt := fun context element _ index =>
    (⟨((children element.pointer)[index]?).toList, (children element.pointer).length, true⟩,
      false, context)
  readNode_evidence := by
    rintro context element requirements read context' h -
    cases h
    exact .refl _
  readNode_children := by
    intro context element requirements read context' h
    cases h
    exact .refl _
  readNode_complete := by
    intro context element requirements read context' h _ _ _
    cases h
    rfl
  readNode_usage := by
    intro context element requirements read context' h
    cases h
    exact ⟨rfl, rfl⟩
  readNode_error := fun h => by cases h
  readBounds_eq := by
    intro context element read context' h
    cases h
    rfl
  readBounds_error := fun h => by cases h
  readChildAt_complete := by
    intro context element role context₁ context₂ index read disabled context' _ h _
    cases h
    rfl

end Sample

end AgentDesktop
