import AgentDesktop.Action
import AgentDesktop.ChainDelivery
import AgentDesktop.Util.Effect

/-!
# Chains of steps

An action on a native element is a chain: a list of steps that are tried in
order, each by itself a way to do what was asked. A step that was not delivered,
or was delivered and seen to change nothing, leaves the next one to be tried;
any other ends the chain. The steps that were executed are recorded, and from
the record the result of the action is made.

How a step is executed is a parameter here: whatever the steps of a chain
answer, nothing is executed after the first effect, and the result says of the
delivery what the answers said.
-/

namespace AgentDesktop

/-- `MouseButton`. -/
inductive MouseButton
  | left | right | middle
  deriving DecidableEq

/-- `ChainStep`; `F` is what a step of its own is given by. -/
inductive ChainStep (F : Type)
  | action (name : String)
  | setBool (attr : String) (value : Bool)
  | setDynamic (attr : String)
  | incrementToDynamic
  | focusThenClearByKeyboard
  | customWithDeadline (label : String) (func : F)
  | cgClick (button : MouseButton) (count : ℕ)

/-- `ChainDef`. -/
structure ChainDef (F : Type) where
  steps : List (ChainStep F)
  /-- What the caller may do when none of them helps. -/
  suggestion : String
  /-- Whether a delivery that was not verified leaves the next step to be tried. -/
  continueAfterUnverifiedDelivery : Bool

/-- `ChainContext`. -/
structure ChainContext where
  /-- The value to be written. -/
  dynamicValue : Option String
  /-- The point that was found to reach the target. -/
  verifiedPoint : Option Point
  /-- When the action is over. -/
  deadline : Deadline

/-- **What a chain asks of its surroundings** before it executes a step. -/
structure ChainWorld (σ E : Type) where
  clock : σ → ℕ × σ
  pidFromElement : E → Deadline → σ → Option ℤ × σ
  elementForPid : ℤ → E
  setMessagingTimeout : E → Deadline → σ → Except AdapterError Unit × σ

/-- `ensure_budget`, at a time. -/
def ChainContext.ensureBudget (ctx : ChainContext) (now : ℕ) : Except AdapterError Unit :=
  if ctx.deadline.remaining now = 0 then .error (ctx.deadline.timeoutError now) else .ok ()

/-! ## The record of the steps -/

namespace ActionStep

/-- `ActionStep::skipped`. -/
def skipped (label : String) : ActionStep := ⟨label, .skipped, none, none⟩

/-- `ActionStep::succeeded`. -/
def succeeded (label : String) : ActionStep := ⟨label, .succeeded, none, none⟩

/-- `with_mechanism`. -/
def withMechanism (step : ActionStep) (mechanism : StepMechanism) : ActionStep :=
  { step with mechanism := some mechanism }

/-- `with_verified`. -/
def withVerified (step : ActionStep) (verified : Bool) : ActionStep :=
  { step with verified := some verified }

end ActionStep

section Steps

variable {F : Type}

/-- `step_label`. -/
def stepLabel : ChainStep F → String
  | .action name => name
  | .setBool attr _ => attr
  | .setDynamic attr => attr
  | .incrementToDynamic => "IncrementToDynamic"
  | .focusThenClearByKeyboard => "FocusThenClearByKeyboard"
  | .customWithDeadline label _ => label
  | .cgClick _ _ => "CGClick"

/-- `step_mechanism`. -/
def stepMechanism : ChainStep F → StepMechanism
  | .cgClick _ _ | .focusThenClearByKeyboard => .physicalSynthetic
  | _ => .semanticApi

/-- `step_allowed`. -/
def stepAllowed (step : ChainStep F) (policy : InteractionPolicy) : Bool :=
  (match step with
    | .cgClick _ _ | .focusThenClearByKeyboard => false
    | _ => true) || policy.isHeaded

/-- `build_step`. -/
def buildStep (step : ChainStep F) (outcome : DeliveryOutcome) : ActionStep :=
  let label := stepLabel step
  let built := match outcome with
    | .notDelivered => ActionStep.skipped label
    | .satisfiedNoDelivery => (ActionStep.skipped label).withVerified true
    | .deliveredUnverified | .deliveredWithoutEffect | .deliveredVerified =>
      ActionStep.succeeded label
  let built := built.withMechanism (stepMechanism step)
  if outcome.wasDelivered then built.withVerified outcome.wasVerified else built

/-- `record_step_outcome`: the record with the step added, and whether the chain ends with it. -/
def recordStepOutcome (steps : List ActionStep) (step : ChainStep F) (outcome : DeliveryOutcome)
    (continueAfterUnverifiedDelivery : Bool) : List ActionStep × Bool :=
  (steps ++ [buildStep step outcome],
    outcome.terminatesChain
      && !(continueAfterUnverifiedDelivery && outcome == .deliveredUnverified))

/-- `exhaustion_disposition`. -/
def exhaustionDisposition (steps : List ActionStep) : DeliverySemantics :=
  if steps.any (fun step => step.outcome == .succeeded) then .deliveredUnverified
  else .notDelivered

/-- `exhaustion_error`. -/
def exhaustionError (steps : List ActionStep) (suggestion : String) : AdapterError :=
  ((AdapterError.new .actionFailed "All chain steps exhausted").withDisposition
    (exhaustionDisposition steps)).withSuggestion suggestion

/-- `after_steps`. -/
def afterSteps (steps : List ActionStep) (error : AdapterError) : AdapterError :=
  (DeliveryTracker.fromDeliveredUnits
    (if exhaustionDisposition steps = .deliveredUnverified then 1 else 0)).annotate error

theorem isHeaded_of_stepAllowed {step : ChainStep F} {policy : InteractionPolicy}
    (hphysical : stepMechanism step = .physicalSynthetic) (h : stepAllowed step policy = true) :
    policy.isHeaded = true := by
  cases step with
  | focusThenClearByKeyboard | cgClick => simpa [stepAllowed] using h
  | _ => exact absurd hphysical (by simp [stepMechanism])

/-- **The record of a step says whether it was delivered.** -/
@[simp] theorem outcome_buildStep_eq_succeeded_iff (step : ChainStep F)
    (outcome : DeliveryOutcome) :
    (buildStep step outcome).outcome = .succeeded ↔ outcome.wasDelivered = true := by
  cases outcome <;> simp [buildStep, DeliveryOutcome.wasDelivered, ActionStep.skipped,
    ActionStep.succeeded, ActionStep.withMechanism, ActionStep.withVerified]

theorem verified_buildStep (step : ChainStep F) {outcome : DeliveryOutcome}
    (h : outcome.wasDelivered = true) :
    (buildStep step outcome).verified = some outcome.wasVerified := by
  unfold buildStep
  rw [if_pos h]
  rfl

end Steps

/-! ## Executing a chain -/

section Execute

variable {σ E F Ev : Type} (world : ChainWorld σ E)
  (execute : ChainStep F → Prog σ Ev AdapterError DeliveryOutcome)

/-- The loop of `execute_chain`, with the record of the steps so far. -/
def runSteps (chain : ChainDef F) (ctx : ChainContext) (policy : InteractionPolicy) :
    List ActionStep → List (ChainStep F) → Prog σ Ev AdapterError (List ActionStep)
  | steps, [] => Prog.fail (exhaustionError steps chain.suggestion)
  | steps, step :: rest => do
    let now ← Prog.ask world.clock
    Prog.ofExcept ((ctx.ensureBudget now).mapError (afterSteps steps))
    if !stepAllowed step policy then runSteps chain ctx policy steps rest
    else
      let outcome ← Prog.mapError (afterSteps steps) (execute step)
      let (steps, ends) :=
        recordStepOutcome steps step outcome chain.continueAfterUnverifiedDelivery
      if ends then return steps else runSteps chain ctx policy steps rest

/-- `execute_chain`. -/
def executeChain (el : E) (chain : ChainDef F) (ctx : ChainContext)
    (policy : InteractionPolicy) : Prog σ Ev AdapterError (List ActionStep) := do
  let pid ← Prog.ask (world.pidFromElement el ctx.deadline)
  pid.elim (pure ()) (fun pid =>
    Prog.call (world.setMessagingTimeout (world.elementForPid pid) ctx.deadline))
  Prog.call (world.setMessagingTimeout el ctx.deadline)
  runSteps world execute chain ctx policy [] chain.steps

end Execute

/-! ## The chains -/

/-- The steps of their own that the chains are made of. -/
structure StepFunctions (F : Type) where
  pressOrReportNoEffect : F
  activateDescendant : F
  selectWithinContainer : F
  showMenu : F
  selectThenShowMenu : F
  selectThenSelectedItemsMenu : F
  showMenuOnChildren : F
  showMenuOnAncestors : F
  pressToExpand : F
  pressToCollapse : F

namespace StepFunctions

variable {F : Type} (functions : StepFunctions F)

/-- `CLICK_CHAIN`. -/
def clickChain : ChainDef F where
  steps := [.cgClick .left 1, .customWithDeadline "AXPress" functions.pressOrReportNoEffect,
    .action "AXOpen", .customWithDeadline "activate_descendant" functions.activateDescendant,
    .customWithDeadline "select_within_container" functions.selectWithinContainer,
    .action "AXConfirm"]
  suggestion := "Target an element that advertises Click or use an explicit point click."
  continueAfterUnverifiedDelivery := false

/-- `SEMANTIC_CLICK_CHAIN`. -/
def semanticClickChain : ChainDef F where
  steps := [.action "AXPress", .action "AXOpen",
    .customWithDeadline "activate_descendant" functions.activateDescendant,
    .customWithDeadline "select_within_container" functions.selectWithinContainer,
    .action "AXConfirm"]
  suggestion := "Target an element that advertises Click."
  continueAfterUnverifiedDelivery := false

/-- `RIGHT_CLICK_CHAIN`. -/
def rightClickChain : ChainDef F where
  steps := [.cgClick .right 1, .customWithDeadline "show_menu" functions.showMenu,
    .customWithDeadline "select_then_show_menu" functions.selectThenShowMenu,
    .customWithDeadline "selected_items_menu" functions.selectThenSelectedItemsMenu,
    .customWithDeadline "child_show_menu" functions.showMenuOnChildren,
    .customWithDeadline "ancestor_show_menu" functions.showMenuOnAncestors]
  suggestion := "Try 'mouse-click --button right --xy X,Y'."
  continueAfterUnverifiedDelivery := true

/-- `EXPAND_CHAIN`. -/
def expandChain : ChainDef F where
  steps := [.customWithDeadline "expand_verified" functions.pressToExpand]
  suggestion := "Target a control with a readable expandable state."
  continueAfterUnverifiedDelivery := false

/-- `COLLAPSE_CHAIN`. -/
def collapseChain : ChainDef F where
  steps := [.customWithDeadline "collapse_verified" functions.pressToCollapse]
  suggestion := "Target a control with a readable expandable state."
  continueAfterUnverifiedDelivery := false

end StepFunctions

/-- `MENUBAR_CLICK_CHAIN`. -/
def menubarClickChain {F : Type} : ChainDef F where
  steps := [.action "AXPress"]
  suggestion := "Refresh the menu-bar snapshot and target an item that supports AXPress."
  continueAfterUnverifiedDelivery := false

/-- `SET_VALUE_CHAIN`. -/
def setValueChain {F : Type} : ChainDef F where
  steps := [.setDynamic "AXValue", .incrementToDynamic]
  suggestion := "Target an element with a settable value or native increment/decrement actions."
  continueAfterUnverifiedDelivery := false

/-- `CLEAR_CHAIN`. -/
def clearChain {F : Type} : ChainDef F where
  steps := [.focusThenClearByKeyboard, .setDynamic "AXValue"]
  suggestion := "Target an editable control or allow the verified keyboard fallback."
  continueAfterUnverifiedDelivery := false

/-- `FOCUS_CHAIN`. -/
def focusChain {F : Type} : ChainDef F where
  steps := [.setBool "AXFocused" true]
  suggestion := "Target an element whose AXFocused attribute is settable."
  continueAfterUnverifiedDelivery := false

/-! ## The result of an action -/

namespace ActionResult

/-- The loop of `delivery_summary`: whether something was delivered, and what is known of the
verification so far. -/
def summaryStep (summary : Bool × Option Bool) (step : ActionStep) : Bool × Option Bool :=
  if step.outcome = .succeeded then
    (true, match step.verified with
      | some verified => some (summary.2.getD true && verified)
      | none => summary.2)
  else summary

/-- `delivery_summary`: whether anything was delivered, and whether all of it was verified. -/
def deliverySummary (steps : List ActionStep) : Bool × Bool :=
  let summary := steps.foldl summaryStep (false, none)
  (summary.1, summary.2.getD false)

/-- `with_steps`. -/
def withSteps (result : ActionResult) (steps : List ActionStep) : ActionResult :=
  { result with steps }

/-- `with_details`. -/
def withDetails (result : ActionResult) (details : Json) : ActionResult :=
  { result with details := some details }

/-- `from_execution`. -/
def fromExecution (action : Action) (steps : List ActionStep) : ActionResult :=
  let (delivered, verified) := deliverySummary steps
  if !delivered then (satisfiedWithoutDelivery action.name).withSteps steps
  else
    let result := (deliveredUnverified action.name).withSteps steps
    if verified then
      let result := result.withVerifiedDelivery
      if action.writesElementValue then
        result.withDetails (.obj [("verification_scope", .str "element_value"),
          ("application_commit", .str "not_verified")])
      else result
    else result

end ActionResult

end AgentDesktop
