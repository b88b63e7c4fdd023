import AgentDesktop.AxMutation
import AgentDesktop.Text

/-!
# Expanding and collapsing

An element is expanded by its own action, by writing its attribute, or by a press, which
toggles it. They are tried in this order, and after each that was delivered the state is read
until it is the requested one or the time is over. Whatever was delivered ends the run, since
the next mechanism would act a second time; and the press is made only if the state is known
to be the opposite one, at the beginning and again just before it.

What the element answers and what is read of it are parameters, and so is how long it takes.
-/

namespace AgentDesktop

/-- What is read of a disclosure: whether it is open, if that is known. -/
abbrev StateRead : Type := Except AdapterError (Option Bool)

/-- What is recorded of a disclosure: calls, and the states that were read. -/
abbrev DisclosureEvent (σ E : Type) : Type := AXEvent σ E StateRead

/-- What a disclosure asks for beside accessibility calls. -/
structure DisclosureWorld (σ E : Type) extends AXWorld σ E where
  sleep : ℕ → σ → Unit × σ
  /-- `surface_read::boolean`. -/
  surfaceBoolean : E → String → ℕ → σ → Except AdapterError (Option Bool) × σ
  /-- `surface_read::string`. -/
  surfaceString : E → String → ℕ → σ → Except AdapterError (Option String) × σ
  /-- `copy_value_typed_result`. -/
  copyValueTyped : E → Deadline → σ → Except AXError (Option String) × σ
  isAttrSettable : E → String → Deadline → σ → Except AdapterError Bool × σ

namespace Disclosure

/-! ## States -/

/-- `parse_checked_value`. -/
def parseCheckedValue (value : String) : Option Bool :=
  let value := asciiLowercase (trim value)
  if ["1", "true", "yes", "on", "checked"].contains value then some true
  else if ["0", "false", "no", "off", "unchecked"].contains value then some false
  else none

/-- `expanded_state`. -/
def expandedState (nativeRole : Option String) (explicit : Option Bool) (value : Option String) :
    Option Bool :=
  explicit <|>
    if nativeRole = some "AXDisclosureTriangle" then value.bind parseCheckedValue else none

/-- `semantic_read`. -/
def semanticRead (error : AXError) (phase : String) : AdapterError :=
  if error = .apiDisabled then
    ((AdapterError.new .permDenied
      "Accessibility API was disabled during observation").withSuggestion
        "Grant Accessibility permission, then retry").withDetails
        (.obj [("ax_error", .num error.code), ("kind", .str "observation_semantic_read"),
          ("phase", .str phase)])
  else
    ((AdapterError.new .appUnresponsive
      "Accessibility evidence read did not complete").withSuggestion
        "Retry within the existing operation deadline").withDetails
        (.obj [("ax_error", .num error.code), ("complete", .bool false),
          ("kind", .str "observation_semantic_read"), ("phase", .str phase),
          ("retryable", .bool true)])

/-- `disclosure_plan`: whether nothing is to be done, and whether a press may be made. -/
def disclosurePlan (current : Option Bool) (desired : Bool) : Bool × Bool :=
  (current == some desired, current == some (!desired))

/-- `stop_if_delivered`. -/
def stopIfDelivered (outcome : DeliveryOutcome) : Option DeliveryOutcome :=
  if outcome.wasDelivered then some outcome else none

/-- `unobserved_delivery`. -/
def unobservedDelivery (lastState : Option Bool) (expanded : Bool) :
    Except AdapterError DeliveryOutcome :=
  if lastState = some (!expanded) then
    .error (((AdapterError.new .actionFailed
      "Disclosure action completed but the requested expanded state was not observed").withDisposition
        .deliveredUnverified).withSuggestion
        "Inspect the expanded state before deciding whether to retry.")
  else .ok .deliveredUnverified

/-- `after_delivery`. -/
def afterDelivery (error : AdapterError) : AdapterError :=
  DeliveryTracker.empty.markDelivered.annotate error

end Disclosure

/-! ## The run -/

namespace DisclosureWorld

open Disclosure

variable {σ E : Type} (world : DisclosureWorld σ E)

/-- A program on a disclosure. -/
abbrev Disclosing (σ E α : Type) : Type := Prog σ (DisclosureEvent σ E) AdapterError α

/-- `locator_deadline::from_operation`. -/
def fromOperation (deadline : Deadline) : Disclosing σ E ℕ := do
  let now ← Prog.ask world.clock
  if deadline.remaining now = 0 then Prog.fail (deadline.timeoutError now)
  else return (← Prog.ask world.clock) + deadline.remaining now

/-- `disclosed_state`, as it is read. -/
def readDisclosed (element : E) (deadline : Deadline) : Disclosing σ E (Option Bool) := do
  let instant ← world.fromOperation deadline
  match ← Prog.call (world.surfaceBoolean element "AXExpanded" instant) with
  | some value => return some value
  | none =>
    match ← Prog.call (world.surfaceBoolean element "AXDisclosing" instant) with
    | some value => return some value
    | none =>
      let role ← Prog.call (world.surfaceString element "AXRole" instant)
      if role ≠ some "AXDisclosureTriangle" then return none
      else
        let value ← Prog.ask (world.copyValueTyped element deadline)
        let value ← Prog.ofExcept
          (value.mapError (fun error => semanticRead error "disclosure.value"))
        return expandedState role none value

/-- **`disclosed_state`**; what was read is recorded. -/
def disclosedState (element : E) (deadline : Deadline) : Disclosing σ E (Option Bool) := do
  let state ← (world.readDisclosed element deadline).attempt
  Prog.emit (.noted state)
  Prog.ofExcept state

/-- `prepare`. -/
def prepareDisclosure (element : E) (deadline : Deadline) : Disclosing σ E Unit :=
  Prog.call (world.setMessagingTimeout element deadline)

/-- The details of a verification that ran out of time. -/
def expandedNotObserved : Json :=
  .obj [("verification", .str "expanded_state_not_observed")]

/-- The loop of `verify_disclosure`. -/
def verifyLoop (element : E) (expanded : Bool) (deadline : Deadline) (localEnd : ℕ) :
    ℕ → Disclosing σ E DeliveryOutcome
  | 0 => Prog.cutOff
  | fuel + 1 => do
    let state ← world.disclosedState element deadline
    if state = some expanded then return .deliveredVerified
    else
      let now ← Prog.ask world.clock
      if deadline.isExpired now then
        Prog.fail ((deadline.timeoutError now).withDetails expandedNotObserved)
      else
        let now ← Prog.ask world.clock
        if localEnd ≤ now then Prog.ofExcept (unobservedDelivery state expanded)
        else
          let now ← Prog.ask world.clock
          let pause ← Prog.ofExcept (deadline.remainingSlice now (20 * nanosPerMs))
          Prog.ask (world.sleep (min pause (20 * nanosPerMs)))
          verifyLoop element expanded deadline localEnd fuel

/-- **`verify_disclosure`.** -/
def verifyDisclosure (element : E) (expanded : Bool) (deadline : Deadline) (fuel : ℕ) :
    Disclosing σ E DeliveryOutcome := do
  let now ← Prog.ask world.clock
  world.verifyLoop element expanded deadline (now + 200 * nanosPerMs) fuel

/-- A mechanism, and what is seen of it: nothing, if it cannot be used here. -/
def tryMechanism (element : E) (expanded : Bool) (deadline : Deadline) (fuel : ℕ)
    (mutate : Disclosing σ E Bool) : Disclosing σ E (Option DeliveryOutcome) := do
  if ← mutate then
    let outcome ← (world.verifyDisclosure element expanded deadline fuel).mapError afterDelivery
    return stopIfDelivered outcome
  else return none

/-- The end of `set_disclosure`: the press. -/
def pressDisclosure (element : E) (expanded : Bool) (deadline : Deadline) (fuel : ℕ)
    (allowToggle : Bool) : Disclosing σ E DeliveryOutcome := do
  if !allowToggle then return .notDelivered
  else
    let state ← world.disclosedState element deadline
    if state ≠ some (!expanded) then return .notDelivered
    else
      world.prepareDisclosure element deadline
      let pressed ← world.tryMechanism element expanded deadline fuel
        (world.tryAxActionOrErr element "AXPress" deadline)
      return pressed.getD .notDelivered

/-- The second mechanism of `set_disclosure`: the attribute, if it can be written. -/
def writeDisclosure (element : E) (expanded : Bool) (deadline : Deadline) (fuel : ℕ) :
    Disclosing σ E (Option DeliveryOutcome) := do
  world.prepareDisclosure element deadline
  if ← Prog.call (world.isAttrSettable element "AXExpanded" deadline) then
    world.prepareDisclosure element deadline
    world.tryMechanism element expanded deadline fuel
      (world.setAxBoolOrErr element "AXExpanded" expanded deadline)
  else return none

/-- **`set_disclosure`.** -/
def setDisclosure (element : E) (expanded : Bool) (deadline : Deadline) (fuel : ℕ) :
    Disclosing σ E DeliveryOutcome := do
  let (satisfied, allowToggle) :=
    disclosurePlan (← world.disclosedState element deadline) expanded
  if satisfied then return .satisfiedNoDelivery
  else
    world.prepareDisclosure element deadline
    match ← world.tryMechanism element expanded deadline fuel
      (world.tryAxActionOrErr element (if expanded then "AXExpand" else "AXCollapse") deadline) with
    | some delivered => return delivered
    | none =>
      match ← world.writeDisclosure element expanded deadline fuel with
      | some delivered => return delivered
      | none => world.pressDisclosure element expanded deadline fuel allowToggle

end DisclosureWorld

end AgentDesktop
