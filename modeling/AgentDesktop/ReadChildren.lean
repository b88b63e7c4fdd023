import AgentDesktop.AXTree
import AgentDesktop.AxMutation
import AgentDesktop.Util.Returns

/-!
# Reading the children of an element

The children of an element are the values of one of a few attributes. They are counted,
read in pages, and counted again, for the list may change meanwhile; a read that is not
complete is tried again a few times. What a page returns, and whether anything is returned
at all, is up to the application.

Whatever it answers, no more children are loaded than the budget of the read allows
(`readChildren_length_le`).
-/

namespace AgentDesktop

namespace LocatorTraversal

/-! ## Reads -/

/-- `LocatorReadHealth`. -/
structure LocatorReadHealth where
  /-- The calls that got no answer. -/
  cannotComplete : ℕ
  /-- The calls that failed otherwise. -/
  nativeReadFailures : ℕ
  /-- The times the deadline was found passed. -/
  deadlineExhausted : ℕ
  deriving DecidableEq

/-- `ChildReadStatus`. -/
structure ChildReadStatus where
  attempts : ℕ
  health : LocatorReadHealth
  /-- Whether the element is gone. -/
  invalidElement : Bool
  /-- Whether the interface is switched off. -/
  apiDisabled : Bool
  /-- Whether two counts differed. -/
  countChanged : Bool
  /-- Whether a page was empty. -/
  cursorStalled : Bool
  deriving DecidableEq

namespace ChildReadStatus

/-- `ChildReadStatus::default`. -/
def empty : ChildReadStatus := ⟨0, ⟨0, 0, 0⟩, false, false, false, false⟩

/-- `merge`. -/
def merge (status other : ChildReadStatus) : ChildReadStatus where
  attempts := status.attempts + other.attempts
  health :=
    { cannotComplete := status.health.cannotComplete + other.health.cannotComplete
      nativeReadFailures := status.health.nativeReadFailures + other.health.nativeReadFailures
      deadlineExhausted := max status.health.deadlineExhausted other.health.deadlineExhausted }
  invalidElement := status.invalidElement || other.invalidElement
  apiDisabled := status.apiDisabled || other.apiDisabled
  countChanged := status.countChanged || other.countChanged
  cursorStalled := status.cursorStalled || other.cursorStalled

/-- `record_status`, and with it `telemetry::record`, which besides writes a line to the log. -/
def recordStatus (status : ChildReadStatus) (error : AXError) : ChildReadStatus :=
  { status with
    health :=
      { status.health with
        cannotComplete := status.health.cannotComplete
          + (if error = .cannotComplete then 1 else 0)
        nativeReadFailures := status.health.nativeReadFailures
          + (if error ≠ .success ∧ error ≠ .attributeUnsupported ∧ error ≠ .noValue
              ∧ error ≠ .cannotComplete ∧ error ≠ .invalidUIElement ∧ error ≠ .apiDisabled
            then 1 else 0) }
    invalidElement := status.invalidElement || error == .invalidUIElement
    apiDisabled := status.apiDisabled || error == .apiDisabled }

end ChildReadStatus

/-- `ChildSourceAvailability`. -/
inductive ChildSourceAvailability
  | available | unavailable | unknown
  deriving DecidableEq

/-- `ChildRead`. -/
structure ChildRead where
  elements : List AXElement
  /-- The number of children. -/
  totalCount : ℕ
  /-- Whether nothing is missing. -/
  complete : Bool
  /-- Whether there is such an attribute. -/
  sourceAvailability : ChildSourceAvailability
  /-- Whether nothing is missing before the last of them. -/
  prefixCertain : Bool
  status : ChildReadStatus

namespace ChildRead

/-- `ChildRead::empty`. -/
def empty (complete : Bool) : ChildRead :=
  ⟨[], 0, complete, if complete then .available else .unknown, complete, .empty⟩

/-- `ChildRead::failed`. -/
def failed (status : ChildReadStatus) : ChildRead := ⟨[], 0, false, .unknown, false, status⟩

/-- `ChildRead::unavailable`. -/
def unavailable (status : ChildReadStatus) : ChildRead := ⟨[], 0, true, .unavailable, true, status⟩

/-- `ChildRead::truncated`. -/
def truncated (read : ChildRead) : Bool := read.elements.length < read.totalCount

end ChildRead

/-! ## Budgets -/

/-- `ChildReadBudget`. -/
structure ChildReadBudget where
  /-- The number of children that may be loaded. -/
  maxElements : ℕ
  /-- Whether the element is at the last level that is read. -/
  boundary : Bool

/-- `u8::saturating_add`. -/
def saturatingAddU8 (a b : UInt8) : UInt8 := if 255 < a.toNat + b.toNat then 255 else a + b

/-- `ChildReadPlan`. -/
structure ChildReadPlan where
  /-- The number of children that may be loaded. -/
  maxElements : ℕ
  /-- The number of children that may be loaded for a name at the last level. -/
  boundaryElements : ℕ
  /-- The level of the element, if the levels are limited. -/
  logicalDepth : Option UInt8
  maxLogicalDepth : UInt8

namespace ChildReadPlan

/-- `boundary_aware`. -/
def boundaryAware (maxElements boundaryElements : ℕ) (logicalDepth maxLogicalDepth : UInt8) :
    ChildReadPlan :=
  ⟨maxElements, boundaryElements, some logicalDepth, maxLogicalDepth⟩

/-- `beyond_boundary`. -/
def beyondBoundary (plan : ChildReadPlan) (transparentWrapper : Bool) : Bool :=
  plan.logicalDepth.any (fun depth =>
    plan.maxLogicalDepth < saturatingAddU8 depth (if transparentWrapper then 0 else 1))

/-- `max_elements`. -/
def budget (plan : ChildReadPlan) (transparentWrapper namesFromChildren : Bool) :
    ChildReadBudget :=
  let boundary := plan.beyondBoundary transparentWrapper
  { maxElements :=
      if !boundary then plan.maxElements
      else if namesFromChildren then plan.boundaryElements
      else 0
    boundary }

theorem budget_le (plan : ChildReadPlan) (transparentWrapper namesFromChildren : Bool) :
    (plan.budget transparentWrapper namesFromChildren).maxElements
      ≤ max plan.maxElements plan.boundaryElements := by
  unfold budget
  dsimp only
  split_ifs
  · exact le_max_left _ _
  · exact le_max_right _ _
  · exact Nat.zero_le _

end ChildReadPlan

/-! ## The application -/

/-- **The application's side of a child read**: the clock, in nanoseconds, and the calls. -/
structure ChildSource (σ : Type) where
  /-- `Instant::now`. -/
  now : StateM σ ℕ
  sleep : ℕ → StateM σ Unit
  /-- `child_count`: an element, an attribute and a deadline. -/
  childCount : AXElement → String → ℕ → StateM σ (Except AXError ℕ)
  /-- `copy_page`: an element, an attribute, an index, a number of values and a deadline. -/
  copyPage : AXElement → String → ℕ → ℕ → ℕ → StateM σ (Except AXError (List AXElement))

variable {σ : Type}

/-- A computation that besides keeps a status. -/
abbrev Reading (σ α : Type) : Type := StateM (ChildReadStatus × σ) α

/-- A call that leaves the status as it is. -/
def Reading.lift {α : Type} (p : StateM σ α) : Reading σ α := fun state =>
  ((p state.2).1, state.1, (p state.2).2)

/-- A change of the status. -/
def Reading.note (f : ChildReadStatus → ChildReadStatus) : Reading σ Unit := fun state =>
  ((), f state.1, state.2)

/-- The status. -/
def Reading.status : Reading σ ChildReadStatus := fun state => (state.1, state)

/-- `PagedPrefix`. -/
structure PagedPrefix where
  elements : List AXElement
  /-- Whether a page was empty. -/
  stalled : Bool

/-- The loop of `read_paged_prefix`. -/
def readPages (requested pageSize : ℕ)
    (readPage : ℕ → ℕ → Reading σ (Except AXError (List AXElement))) (elements : List AXElement) :
    Reading σ (Except AXError PagedPrefix) :=
  if elements.length < requested then do
    let pageLen := min (requested - elements.length) pageSize
    match ← readPage elements.length pageLen with
    | .error error => pure (.error error)
    | .ok page =>
      if pageLen < page.length then pure (.error ⟨-2147483648⟩)
      else if page.length = 0 then pure (.ok ⟨elements ++ page, true⟩)
      else readPages requested pageSize readPage (elements ++ page)
  else pure (.ok ⟨elements, false⟩)
termination_by requested - elements.length
decreasing_by
  rw [List.length_append]
  omega

/-- `read_paged_prefix`. -/
def readPagedPrefix (requested pageSize : ℕ)
    (readPage : ℕ → ℕ → Reading σ (Except AXError (List AXElement))) :
    Reading σ (Except AXError PagedPrefix) :=
  readPages requested pageSize readPage []

/-- **No page brings more than was asked for.** -/
theorem readPages_length_le {requested pageSize : ℕ}
    {readPage : ℕ → ℕ → Reading σ (Except AXError (List AXElement))} (elements : List AXElement)
    (hle : elements.length ≤ requested) :
    Returns (readPages requested pageSize readPage elements)
      (fun result => ∀ pages, result = .ok pages → pages.elements.length ≤ requested) := by
  induction hleft : requested - elements.length using Nat.strongRecOn generalizing elements with
  | _ left ih =>
    subst hleft
    unfold readPages
    by_cases hmore : elements.length < requested
    · rw [if_pos hmore]
      refine Returns.bind' (fun result => ?_)
      cases result with
      | error error => exact .pure (fun pages hpages => nomatch hpages)
      | ok page =>
        refine Returns.ite (fun _ => .pure (fun pages hpages => nomatch hpages)) (fun hfits => ?_)
        have hlength : (elements ++ page).length ≤ requested := by
          rw [List.length_append]
          omega
        by_cases hpage : page.length = 0
        · rw [if_pos hpage]
          refine .pure (fun pages hpages => ?_)
          obtain rfl := Except.ok.inj hpages
          exact hlength
        · rw [if_neg hpage]
          refine ih _ ?_ (elements ++ page) hlength rfl
          rw [List.length_append]
          omega
    · rw [if_neg hmore]
      refine .pure (fun pages hpages => ?_)
      obtain rfl := Except.ok.inj hpages
      exact hle

/-! ## One attribute -/

section Source

variable (source : ChildSource σ)

/-- `locator_deadline::remaining`: none once the deadline has passed. -/
def remainingTime (deadline : ℕ) : StateM σ (Option ℕ) := do
  let now ← source.now
  return if deadline - now = 0 then none else some (deadline - now)

/-- `check_deadline`. -/
def checkDeadline (deadline : ℕ) : Reading σ Bool := do
  match ← Reading.lift (remainingTime source deadline) with
  | some _ => return true
  | none =>
    Reading.note (fun status =>
      { status with health := { status.health with deadlineExhausted := 1 } })
    return false

/-- A call is counted. -/
def countAttempt : Reading σ Unit :=
  Reading.note (fun status => { status with attempts := status.attempts + 1 })

/-- `count_deadline`. -/
def countDeadline (boundary : Bool) (deadline : ℕ) : StateM σ ℕ := do
  let now ← source.now
  return min deadline (now + (if boundary then 25000000 else (deadline - now) / 2))

/-- `CHILD_PAGE_SIZE`. -/
def childPageSize : ℕ := 128

/-- `read_prefix`. -/
def readPrefix (element : AXElement) (attributeName : String) (requested deadline : ℕ) :
    Reading σ (Except AXError (List AXElement)) := do
  let result ← readPagedPrefix requested childPageSize (fun index pageLen => do
    if ← checkDeadline source deadline then
      countAttempt
      Reading.lift (source.copyPage element attributeName index pageLen deadline)
    else pure (.error .cannotComplete))
  match result with
  | .error error => return .error error
  | .ok pages =>
    Reading.note (fun status =>
      { status with cursorStalled := status.cursorStalled || pages.stalled })
    return .ok pages.elements

/-- `stable_count`. -/
def stableCount (element : AXElement) (attributeName : String) (deadline : ℕ) :
    Reading σ (Except AXError ℕ) := do
  if ← checkDeadline source deadline then
    countAttempt
    Reading.lift (source.childCount element attributeName deadline)
  else return .error .cannotComplete

/-- `is_absent_error`. -/
def isAbsentError (error : AXError) : Bool :=
  error == .attributeUnsupported || error == .noValue

/-- `read_without_count`. -/
def readWithoutCount (element : AXElement) (attributeName : String) (maxElements deadline : ℕ) :
    Reading σ ChildRead := do
  if maxElements = 0 then return .failed (← Reading.status)
  else
    match ← readPrefix source element attributeName maxElements deadline with
    | .error error =>
      Reading.note (fun status => status.recordStatus error)
      return .failed (← Reading.status)
    | .ok elements =>
      let saturated := elements.length == maxElements
      return ⟨elements, elements.length + (if saturated then 1 else 0), !saturated, .available,
        !saturated, ← Reading.status⟩

/-- The pages of `read_attribute_children`, once the children are counted, and whether they are all
that was asked for. -/
def readCounted (element : AXElement) (attributeName : String) (requested deadline : ℕ) :
    Reading σ (List AXElement × Bool) := do
  match ← readPrefix source element attributeName requested deadline with
  | .error error =>
    Reading.note (fun status => status.recordStatus error)
    return ([], false)
  | .ok elements => return (elements, elements.length == requested)

/-- The second count of `read_attribute_children`, and whether it was made. -/
def recount (element : AXElement) (attributeName : String) (count deadline : ℕ) :
    Reading σ (ℕ × Bool) := do
  match ← stableCount source element attributeName deadline with
  | .error error =>
    Reading.note (fun status => status.recordStatus error)
    return (count, false)
  | .ok finalCount => return (finalCount, true)

/-- **`read_attribute_children`**, with a status of its own. -/
def readAttributeChildren (element : AXElement) (attributeName : String)
    (budget : ChildReadBudget) (deadline : ℕ) : Reading σ ChildRead := do
  let countBy ← Reading.lift (countDeadline source budget.boundary deadline)
  if ← checkDeadline source deadline then
    countAttempt
    match ← Reading.lift (source.childCount element attributeName countBy) with
    | .error error =>
      if isAbsentError error then return .unavailable (← Reading.status)
      else
        Reading.note (fun status => status.recordStatus error)
        readWithoutCount source element attributeName budget.maxElements deadline
    | .ok count =>
      let (elements, loaded) ←
        readCounted source element attributeName (min count budget.maxElements) deadline
      let (finalCount, recounted) ← recount source element attributeName count deadline
      if count ≠ finalCount then
        Reading.note (fun status => { status with countChanged := true })
        return ⟨elements.take finalCount, finalCount, false, .available, false, ← Reading.status⟩
      else
        return ⟨elements, finalCount, loaded && recounted, .available, loaded && recounted,
          ← Reading.status⟩
  else return .failed (← Reading.status)

theorem readPrefix_length_le (element : AXElement) (attributeName : String)
    (requested deadline : ℕ) :
    Returns (readPrefix source element attributeName requested deadline)
      (fun result => ∀ elements, result = .ok elements → elements.length ≤ requested) := by
  unfold readPrefix readPagedPrefix
  refine Returns.bind (readPages_length_le [] (Nat.zero_le _)) (fun result hresult => ?_)
  cases result with
  | error error => exact .pure (fun elements helements => nomatch helements)
  | ok pages =>
    refine Returns.bind' (fun _ => .pure (fun elements helements => ?_))
    obtain rfl := Except.ok.inj helements
    exact hresult pages rfl

theorem readWithoutCount_length_le (element : AXElement) (attributeName : String)
    (maxElements deadline : ℕ) :
    Returns (readWithoutCount source element attributeName maxElements deadline)
      (fun read => read.elements.length ≤ maxElements) := by
  unfold readWithoutCount
  refine Returns.ite (fun _ => Returns.bind' (fun _ => .pure (Nat.zero_le _))) (fun _ => ?_)
  refine Returns.bind (readPrefix_length_le source element attributeName maxElements deadline)
    (fun result hresult => ?_)
  cases result with
  | error error => exact Returns.bind' (fun _ => Returns.bind' (fun _ => .pure (Nat.zero_le _)))
  | ok elements => exact Returns.bind' (fun _ => .pure (hresult elements rfl))

theorem readCounted_length_le (element : AXElement) (attributeName : String)
    (requested deadline : ℕ) :
    Returns (readCounted source element attributeName requested deadline)
      (fun result => result.1.length ≤ requested) := by
  unfold readCounted
  refine Returns.bind (readPrefix_length_le source element attributeName requested deadline)
    (fun result hresult => ?_)
  cases result with
  | error error => exact Returns.bind' (fun _ => .pure (Nat.zero_le _))
  | ok elements => exact .pure (hresult elements rfl)

/-- **A read loads no more children than its budget allows.** -/
theorem readAttributeChildren_length_le (element : AXElement) (attributeName : String)
    (budget : ChildReadBudget) (deadline : ℕ) :
    Returns (readAttributeChildren source element attributeName budget deadline)
      (fun read => read.elements.length ≤ budget.maxElements) := by
  unfold readAttributeChildren
  refine Returns.bind' (fun countBy => Returns.bind' (fun intime => ?_))
  refine Returns.ite (fun _ => ?_) (fun _ => Returns.bind' (fun _ => .pure (Nat.zero_le _)))
  refine Returns.bind' (fun _ => Returns.bind' (fun counted => ?_))
  cases counted with
  | error error =>
    refine Returns.ite (fun _ => Returns.bind' (fun _ => .pure (Nat.zero_le _))) (fun _ => ?_)
    refine Returns.bind' (fun _ => ?_)
    exact readWithoutCount_length_le source element attributeName budget.maxElements deadline
  | ok count =>
    refine Returns.bind (readCounted_length_le source element attributeName _ deadline)
      (fun result hresult => Returns.bind' (fun again => ?_))
    have hle : result.1.length ≤ budget.maxElements := hresult.trans (min_le_right _ _)
    refine Returns.ite (fun _ => ?_) (fun _ => Returns.bind' (fun _ => .pure hle))
    refine Returns.bind' (fun _ => Returns.bind' (fun _ => .pure ?_))
    -- cut down to the second count
    rw [List.length_take]
    exact (min_le_right _ _).trans hle

/-! ## All attributes -/

/-- `child_attributes`. -/
def childAttributes (axRole : Option String) : List String :=
  if axRole = some "AXBrowser" then ["AXColumns", "AXContents"]
  else if axRole = some "AXApplication" then ["AXWindows", "AXChildren"]
  else ["AXChildren", "AXChildrenInNavigationOrder", "AXContents"]

/-- `CANONICAL_CHILDREN`. -/
def canonicalChildren : String := "AXChildren"

/-- What `read_first_nonempty` has seen of the attributes it passed over. -/
structure PassedOver where
  status : ChildReadStatus
  /-- Whether nothing may be missing in them. -/
  prefixCertain : Bool
  /-- Whether one of them was there. -/
  anyAvailable : Bool

/-- The end of `read_first_nonempty`, when no attribute was selected. -/
def noneSelected (passed : PassedOver) : ChildRead :=
  ⟨[], 0, passed.prefixCertain,
    if passed.anyAvailable then .available
    else if passed.prefixCertain then .unavailable
    else .unknown,
    passed.prefixCertain, passed.status⟩

/-- The loop of `read_first_nonempty`. -/
def readFirst (readAttribute : String → StateM σ ChildRead) :
    List String → PassedOver → StateM σ ChildRead
  | [], passed => return noneSelected passed
  | attributeName :: attributeNames, passed => do
    let read ← readAttribute attributeName
    let terminal := read.status.invalidElement || read.status.apiDisabled
    let anyAvailable := passed.anyAvailable || read.sourceAvailability == .available
    let status := passed.status.merge read.status
    if read.sourceAvailability = .available
        ∧ (0 < read.totalCount ∨ attributeName = canonicalChildren) then
      let prefixCertain := read.prefixCertain && passed.prefixCertain
      return { read with prefixCertain, complete := read.complete && prefixCertain, status }
    else
      let passed := ⟨status, passed.prefixCertain && read.prefixCertain, anyAvailable⟩
      if terminal then return noneSelected passed
      else readFirst readAttribute attributeNames passed

/-- `read_first_nonempty`. -/
def readFirstNonempty (attributeNames : List String)
    (readAttribute : String → StateM σ ChildRead) : StateM σ ChildRead :=
  readFirst readAttribute attributeNames ⟨.empty, true, false⟩

/-- `READ_ATTEMPTS`. -/
def readAttempts : ℕ := 3

/-- The loop of `read_resilient`. -/
def readAgain (attributeNames : List String) (deadline : ℕ)
    (readAttribute : String → StateM σ ChildRead) (status : ChildReadStatus) (attempt : ℕ) :
    StateM σ ChildRead := do
  let read ← readFirstNonempty attributeNames readAttribute
  let merged := status.merge read.status
  if (!read.complete && !read.status.invalidElement && !read.status.apiDisabled) = true
      ∧ attempt + 1 < readAttempts then
    if (← source.now) < deadline then
      source.sleep (min (deadline - (← source.now)) 1000000)
      readAgain attributeNames deadline readAttribute merged (attempt + 1)
    else return { read with status := merged }
  else return { read with status := merged }
termination_by readAttempts - attempt
decreasing_by omega

/-- `read_resilient`. -/
def readResilient (attributeNames : List String) (deadline : ℕ)
    (readAttribute : String → StateM σ ChildRead) : StateM σ ChildRead :=
  readAgain source attributeNames deadline readAttribute .empty 0

/-- **`read_children`.** -/
def readChildren (element : AXElement) (role : Option String) (budget : ChildReadBudget)
    (deadline : ℕ) : StateM σ ChildRead :=
  readResilient source (childAttributes role) deadline (fun attributeName world =>
    let result := readAttributeChildren source element attributeName budget deadline
      (ChildReadStatus.empty, world)
    (result.1, result.2.2))

variable {source}

theorem readFirst_length_le {readAttribute : String → StateM σ ChildRead} {bound : ℕ}
    (hread : ∀ attributeName, Returns (readAttribute attributeName)
      (fun read => read.elements.length ≤ bound)) (attributeNames : List String)
    (passed : PassedOver) :
    Returns (readFirst readAttribute attributeNames passed)
      (fun read => read.elements.length ≤ bound) := by
  induction attributeNames generalizing passed with
  | nil => exact .pure (Nat.zero_le _)
  | cons attributeName attributeNames ih =>
    unfold readFirst
    refine Returns.bind (hread attributeName) (fun read hle => ?_)
    refine Returns.ite (fun _ => .pure hle) (fun _ => ?_)
    exact Returns.ite (fun _ => .pure (Nat.zero_le _)) (fun _ => ih _)

theorem readAgain_length_le {attributeNames : List String} {deadline bound : ℕ}
    {readAttribute : String → StateM σ ChildRead}
    (hread : ∀ attributeName, Returns (readAttribute attributeName)
      (fun read => read.elements.length ≤ bound)) (status : ChildReadStatus) (attempt : ℕ) :
    Returns (readAgain source attributeNames deadline readAttribute status attempt)
      (fun read => read.elements.length ≤ bound) := by
  induction hleft : readAttempts - attempt using Nat.strongRecOn generalizing status attempt with
  | _ left ih =>
    subst hleft
    unfold readAgain
    refine Returns.bind (readFirst_length_le hread attributeNames _) (fun read hle => ?_)
    refine Returns.ite (fun hagain => ?_) (fun _ => .pure hle)
    refine Returns.bind' (fun now => Returns.ite (fun _ => ?_) (fun _ => .pure hle))
    refine Returns.bind' (fun later => Returns.bind' (fun _ => ?_))
    exact ih _ (by omega) _ _ rfl

/-- **No more children are loaded than the budget allows**, whatever the application answers. -/
theorem readChildren_length_le (element : AXElement) (role : Option String)
    (budget : ChildReadBudget) (deadline : ℕ) :
    Returns (readChildren source element role budget deadline)
      (fun read => read.elements.length ≤ budget.maxElements) := by
  refine readAgain_length_le (fun attributeName world => ?_) _ _
  exact readAttributeChildren_length_le source element attributeName budget deadline _

end Source

end LocatorTraversal

end AgentDesktop
