import AgentDesktop.AxMutation

/-!
# Scrolling without the pointer

A scroll area is scrolled by its bar: by the bar's own action, repeated; by
writing the bar's value; by pressing the parts of the bar, repeated; and without
a bar by the page action of the area, repeated. Each of these is tried only when
the ones before it answered that they cannot be used here. A step that fails
after others were taken is reported with the number of steps that were.
-/

namespace AgentDesktop

/-- What the source computes with floating-point numbers. -/
structure ScrollArithmetic where
  shiftedValue : F64 → Direction → ℕ → F64
  /-- Whether two values are closer than `f64::EPSILON`. -/
  withinEpsilon : F64 → F64 → Bool
  valueShiftVerified : F64 → F64 → Direction → Bool
  /-- The value with the precision it is written with. -/
  asF32 : F64 → F64

/-- What scrolling asks for beside accessibility calls. -/
structure ScrollWorld (σ E : Type) extends AXWorld σ E where
  physicalWheel : E → Direction → ℕ → Deadline → σ → Except AdapterError Unit × σ

/-- What is recorded of a scroll. -/
abbrev ScrollEvent (σ E : Type) : Type := AXEvent σ E Empty

/-! ## Reading -/

/-- `MAX_SCROLL_CHILDREN`. -/
def maxScrollChildren : ℕ := 128

/-- `scroll_read::read_error`. -/
def scrollReadError (attr : String) (error : AXError) : AdapterError :=
  (AdapterError.new
    (if error = .cannotComplete then .timeout
      else if error = .apiDisabled then .permDenied
      else if error = .invalidUIElement then .staleRef
      else .actionFailed)
    ("Accessibility read failed for " ++ attr ++ " during scroll")).withDetails
    (.obj [("attribute", .str attr), ("ax_error", .num error.code)])

/-- `DeliverySemantics` of a failure before or after something was delivered. -/
def budgetTracker (deliveryStarted : Bool) : DeliveryTracker :=
  if deliveryStarted then DeliveryTracker.empty.markDelivered else DeliveryTracker.empty

namespace ScrollWorld

variable {σ E : Type} (world : ScrollWorld σ E)

/-- `scroll_read::prepare`, and `prepare`. -/
def prepareRead (element : E) (deadline : Deadline) : Prog σ (ScrollEvent σ E) AdapterError Unit :=
  Prog.call (world.setMessagingTimeout element deadline)

/-- `scroll_read::ensure_budget`. -/
def ensureReadBudget (deadline : Deadline) : Prog σ (ScrollEvent σ E) AdapterError Unit := do
  let now ← world.readClock
  if deadline.isExpired now then Prog.fail (deadline.timeoutError now) else return ()

/-- `scroll_read::element`. -/
def readElement (source : E) (attr : String) (deadline : Deadline) :
    Prog σ (ScrollEvent σ E) AdapterError (Option E) := do
  world.prepareRead source deadline
  let result ← Prog.ask (world.copyElementAttr source attr deadline)
  world.ensureReadBudget deadline
  Prog.ofExcept (result.mapError (scrollReadError attr))

/-- `scroll_read::children`. -/
def readChildren (element : E) (deadline : Deadline) :
    Prog σ (ScrollEvent σ E) AdapterError (List E) := do
  world.prepareRead element deadline
  let result ← Prog.ask (world.copyAxArrayPrefix element "AXChildren" maxScrollChildren deadline)
  world.ensureReadBudget deadline
  let children ← Prog.ofExcept
    ((result.map (fun children => children.getD [])).mapError (scrollReadError "AXChildren"))
  if children.length = maxScrollChildren then
    Prog.fail ((AdapterError.new .appUnresponsive
      "Scroll sub-element lookup reached its bounded child limit").withDetails
      (.obj [("complete", .bool false)]))
  else return children

/-- `scroll_read::string`. -/
def readString (element : E) (attr : String) (deadline : Deadline) :
    Prog σ (ScrollEvent σ E) AdapterError (Option String) := do
  world.prepareRead element deadline
  let result ← Prog.ask (world.copyStringAttr element attr deadline)
  world.ensureReadBudget deadline
  Prog.ofExcept (result.mapError (scrollReadError attr))

/-- `scroll_read::number`. -/
def readNumber (element : E) (attr : String) (deadline : Deadline) :
    Prog σ (ScrollEvent σ E) AdapterError (Option F64) := do
  world.prepareRead element deadline
  let (error, value) ← Prog.ask (world.copyAttributeValue element attr deadline)
  world.ensureReadBudget deadline
  if error = .success then
    return value.bind (fun value => match value with
      | .number number => number
      | _ => none)
  else if error = .noValue ∨ error = .attributeUnsupported then return none
  else Prog.fail (scrollReadError "AXValue" error)

end ScrollWorld

/-! ## Directions -/

/-- `MAX_SCROLL_AMOUNT`. -/
def maxScrollAmount : ℕ := 1000

/-- `validate_amount`. -/
def validateAmount (amount : ℕ) : Except AdapterError Unit :=
  if amount = 0 ∨ maxScrollAmount < amount then
    .error (.new .invalidArgs "Scroll amount must be between 1 and 1000")
  else .ok ()

/-- `scroll_bar_action`: the attribute of the bar, and its action. -/
def scrollBarAction : Direction → String × String
  | .down => ("AXVerticalScrollBar", "AXIncrement")
  | .up => ("AXVerticalScrollBar", "AXDecrement")
  | .right => ("AXHorizontalScrollBar", "AXIncrement")
  | .left => ("AXHorizontalScrollBar", "AXDecrement")

/-- `page_action`. -/
def pageAction : Direction → String
  | .down => "AXScrollDownByPage"
  | .up => "AXScrollUpByPage"
  | .right => "AXScrollRightByPage"
  | .left => "AXScrollLeftByPage"

/-- The parts of a bar that are pressed. -/
def scrollSubroles : Direction → List String
  | .down | .right => ["AXIncrementPage", "AXIncrementArrow"]
  | .up | .left => ["AXDecrementPage", "AXDecrementArrow"]

/-! ## Errors -/

/-- `partial_scroll_error`. -/
def partialScrollError (action : String) (completed requested : ℕ) (source : Option AdapterError) :
    AdapterError :=
  ((((AdapterError.new (source.elim .actionFailed AdapterError.code)
    (action ++ " stopped after " ++ toString completed ++ " of " ++ toString requested
      ++ " requested scroll steps")).withDetails
    (.obj ([("action_may_have_completed", .bool true), ("completed_steps", .num completed),
        ("requested_steps", .num requested)]
      ++ source.elim [] (fun error =>
        [("source_code", .str error.code.asStr), ("source_message", .str error.message)])))).withDisposition
    .deliveredUnverified).withSuggestion
    "Inspect the current scroll position before deciding whether to retry.")

/-- `missing_value_after_write`. -/
def missingValueAfterWrite : AdapterError :=
  .new .actionFailed "Scrollbar AXValue disappeared after a successful write"

/-- `value_write_unverified`. -/
def valueWriteUnverified (error : AdapterError) : AdapterError :=
  (error.withDisposition .deliveredUnverified).withSuggestion
    "Inspect the current scroll position before deciding whether to retry."

/-- Nothing could be used to scroll. -/
def scrollInert : AdapterError :=
  ((AdapterError.new .actionNotSupported
    "Element advertises Scroll but no scroll mechanism moved its content").withDetails
    (.obj [("kind", .str "scroll_advertised_but_inert")])).withSuggestion
    "The application publishes the scroll actions without implementing them. Try the parent container, or use '--headed' for a physical wheel scroll."

/-! ## The mechanisms -/

/-- `repeat_action`, with the number of steps that were taken and of those that are left. -/
def repeatAction {σ Ev : Type} (action : String) (amount : ℕ)
    (attempt : Prog σ Ev AdapterError Bool) : ℕ → ℕ → Prog σ Ev AdapterError Bool
  | _, 0 => return true
  | completed, remaining + 1 => do
    let result ← attempt.attempt
    match result with
    | .ok true => repeatAction action amount attempt (completed + 1) remaining
    | .ok false =>
      if completed = 0 then return false
      else Prog.fail (partialScrollError action completed amount none)
    | .error error =>
      if completed = 0 then Prog.fail error
      else Prog.fail (partialScrollError action completed amount (some error))

namespace ScrollWorld

variable {σ E : Type} (world : ScrollWorld σ E) (arithmetic : ScrollArithmetic)

/-- `ensure_budget`. -/
def ensureBudget (deadline : Deadline) (deliveryStarted : Bool) :
    Prog σ (ScrollEvent σ E) AdapterError Unit := do
  let now ← world.readClock
  if deadline.isExpired now then
    Prog.fail ((budgetTracker deliveryStarted).annotate (deadline.timeoutError now))
  else return ()

/-- `try_action`. -/
def tryAction (element : E) (action : String) (deadline : Deadline) :
    Prog σ (ScrollEvent σ E) AdapterError Bool := do
  world.prepareRead element deadline
  let result ← (world.tryAxActionOrErr element action deadline).attempt
  world.ensureBudget deadline (result.toOption.getD false)
  Prog.ofExcept result

/-- `perform_repeated_action`. -/
def performRepeatedAction (element : E) (action : String) (amount : ℕ) (deadline : Deadline) :
    Prog σ (ScrollEvent σ E) AdapterError Bool :=
  repeatAction action amount (world.tryAction element action deadline) 0 amount

/-- `try_value_shift`. -/
def tryValueShift (bar : E) (direction : Direction) (amount : ℕ) (deadline : Deadline) :
    Prog σ (ScrollEvent σ E) AdapterError Bool := do
  let current ← world.readNumber bar "AXValue" deadline
  match current with
  | none => return false
  | some current =>
    let next := arithmetic.shiftedValue current direction amount
    if arithmetic.withinEpsilon next current then return false
    else
      world.prepareRead bar deadline
      let error ← world.setValue bar "AXValue" (.number (some (arithmetic.asF32 next))) deadline
      let result := classify "AXValue" .setAttributeValue error
      world.ensureBudget deadline (result.toOption.getD false)
      let delivered ← Prog.ofExcept result
      if !delivered then return false
      else
        let observed ← (world.readNumber bar "AXValue" deadline).mapError valueWriteUnverified
        match observed with
        | none => Prog.fail (valueWriteUnverified missingValueAfterWrite)
        | some observed =>
          if arithmetic.valueShiftVerified current observed direction then return true
          else Prog.fail (valueWriteUnverified (.new .actionFailed
            "Scrollbar AXValue write completed without the requested movement"))

/-- The loop of `try_sub_elements`. -/
def pressSubElements (direction : Direction) (amount : ℕ) (deadline : Deadline) :
    List E → Prog σ (ScrollEvent σ E) AdapterError Bool
  | [] => return false
  | child :: rest => do
    let subrole ← world.readString child "AXSubrole" deadline
    if subrole.any (scrollSubroles direction).contains then
      let pressed ← world.performRepeatedAction child "AXPress" amount deadline
      if pressed then return true else pressSubElements direction amount deadline rest
    else pressSubElements direction amount deadline rest

/-- `try_sub_elements`. -/
def trySubElements (bar : E) (direction : Direction) (amount : ℕ) (deadline : Deadline) :
    Prog σ (ScrollEvent σ E) AdapterError Bool := do
  let children ← world.readChildren bar deadline
  world.pressSubElements direction amount deadline children

/-- The loop of `find_scroll_area`. -/
def searchScrollArea (deadline : Deadline) :
    ℕ → Option E → Prog σ (ScrollEvent σ E) AdapterError (Option E)
  | 0, _ => return none
  | _ + 1, none => return none
  | fuel + 1, some candidate => do
    let role ← world.readString candidate "AXRole" deadline
    if role = some "AXScrollArea" then return some candidate
    else
      let parent ← world.readElement candidate "AXParent" deadline
      searchScrollArea deadline fuel parent

/-- `find_scroll_area`: the element itself, and five above it. -/
def findScrollArea (element : E) (deadline : Deadline) :
    Prog σ (ScrollEvent σ E) AdapterError (Option E) :=
  world.searchScrollArea deadline 6 (some element)

/-- The mechanisms of a scroll bar: whether one of them scrolled, and whether that was verified. -/
def scrollByBar (bar : E) (action : String) (direction : Direction) (amount : ℕ)
    (deadline : Deadline) : Prog σ (ScrollEvent σ E) AdapterError (Option Bool) := do
  if ← world.performRepeatedAction bar action amount deadline then return some false
  else if ← world.tryValueShift arithmetic bar direction amount deadline then return some true
  else if ← world.trySubElements bar direction amount deadline then return some false
  else return none

/-- `ax_scroll`. -/
def axScroll (element : E) (direction : Direction) (amount : ℕ) (policy : InteractionPolicy)
    (deadline : Deadline) : Prog σ (ScrollEvent σ E) AdapterError (StepMechanism × Bool) := do
  Prog.ofExcept (validateAmount amount)
  let scrollArea ← world.findScrollArea element deadline
  let target := scrollArea.getD element
  if policy.isHeaded then
    Prog.call (world.physicalWheel target direction amount deadline)
    return (.physicalSynthetic, false)
  else
    let (barAttribute, incrementAction) := scrollBarAction direction
    let bar ← world.readElement target barAttribute deadline
    let scrolled ← bar.elim (pure none) (fun bar =>
      world.scrollByBar arithmetic bar incrementAction direction amount deadline)
    match scrolled with
    | some verified => return (.semanticApi, verified)
    | none =>
      if ← world.performRepeatedAction target (pageAction direction) amount deadline then
        return (.semanticApi, false)
      else Prog.fail scrollInert

end ScrollWorld

end AgentDesktop
