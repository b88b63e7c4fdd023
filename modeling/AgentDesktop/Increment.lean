import AgentDesktop.AxMutation
import AgentDesktop.Number

/-!
# Stepping a control to a value

A control that can only be incremented and decremented is stepped towards a value: it is read,
stepped once in the direction of the target, and read again, as long as each step brings it
nearer. The value is a text. Two texts are compared as integers if both are integers, and as
floating-point numbers otherwise, which are exact for the integers below `2 ^ 53` only – beyond,
they are not compared.

So every comparison is one of exact values: those of the texts that are integers, and the numbers
the others are rounded to (`incrementAction_nearer`).
-/

namespace AgentDesktop

/-- What a read of a control is: its number and its text, if it has one. -/
abbrev NumberRead : Type := Except AdapterError (Option (ℚ × String))

/-- What is recorded of a control that is stepped: calls, and what was read. -/
abbrev SteppingEvent (σ E : Type) : Type := AXEvent σ E NumberRead

/-- What stepping asks for beside accessibility calls. -/
structure SteppingWorld (σ E : Type) extends AXWorld σ E where
  copyValueTyped : E → Deadline → σ → Option String × σ

namespace Increment

/-! ## Directions -/

/-- The action that leads from a value to another. -/
def actionToward {α : Type} [LT α] [DecidableLT α] (current target : α) : Option String :=
  if current < target then some "AXIncrement"
  else if target < current then some "AXDecrement"
  else none

/-- The comparison of `increment_action` for texts that are not both integers; `finite_target` is
`numericText`. -/
def floatAction (current target : String) : Option String := do
  let current ← numericText current
  let target ← numericText target
  if 9007199254740992 ≤ max |current| |target| then none else actionToward current target

/-- `increment_action`. -/
def incrementAction (current target : String) : Option String :=
  match parseI128 current, parseI128 target with
  | some current, some target => actionToward current target
  | _, _ => floatAction current target

/-- `increment_target_reached`. -/
def incrementTargetReached (current target : String) : Bool :=
  valueMatches "incrementor" target (some current)

/-- `increment_progressed`. -/
def incrementProgressed (before after target : String) : Bool :=
  let direction := incrementAction before target
  incrementTargetReached after target
    || (direction.isSome && incrementAction before after == direction
      && incrementAction after target == direction)

/-! ## Errors -/

/-- Whether a value has moved, by `f64::EPSILON` at least. -/
def hasMoved (start current : ℚ) : Bool :=
  match roundToF64 |current - start| with
  | .finite distance => decide (1 / 2 ^ 52 ≤ distance)
  | .notFinite => true

/-- `partial_mutation_disposition`. -/
def partialMutationDisposition (error : AdapterError) (start current : ℚ) : AdapterError :=
  error.withDisposition (if hasMoved start current then .deliveredUnverified else .notDelivered)

/-- The details of an error, with the field of the value that was read last. -/
def steppingDetails (kind field : String) (start current target : ℚ) : Json :=
  .obj [("kind", .str kind), ("mutated", .bool (hasMoved start current)),
    ("target", .real target), (field, .real current), ("value_before", .real start)]

/-- `increment_deadline_error`. -/
def incrementDeadlineError (start current target : ℚ) : AdapterError :=
  partialMutationDisposition
    (((AdapterError.timeout
      "Chain deadline expired while stepping the value toward the target").withSuggestion
        ("Re-read the element value before retrying; increase the timeout or " ++
          "AGENT_DESKTOP_CHAIN_TIMEOUT_MS for slow controls.")).withDetails
        (steppingDetails "chain_deadline" "value_at_timeout" start current target))
    start current

/-- `increment_step_limit_error`. -/
def incrementStepLimitError (start current target : ℚ) : AdapterError :=
  partialMutationDisposition
    (((AdapterError.new .actionFailed
      "Chain step limit was reached while stepping the value toward the target").withSuggestion
        ("Re-read the element value before retrying; the control may expose a step size too " ++
          "small for the requested target.")).withDetails
        (steppingDetails "chain_step_limit" "value_at_limit" start current target))
    start current

/-- The error of a control that does not come nearer. -/
def stoppedProgressing : AdapterError :=
  (AdapterError.new .actionFailed
    "Native increments stopped progressing toward the requested value").withSuggestion
      ("Read the current value; choose a target supported by the control's native step size.")

/-- `MAX_INCREMENT_STEPS`. -/
def maxIncrementSteps : ℕ := 1024

end Increment

namespace SteppingWorld

open Increment

variable {σ E : Type} (world : SteppingWorld σ E)

/-- A program on a control that is stepped. -/
abbrev Stepping (σ E α : Type) : Type := Prog σ (SteppingEvent σ E) AdapterError α

/-- `read_number`, as it is read. -/
def copyNumber (element : E) (deadline : Deadline) : Stepping σ E (Option (ℚ × String)) := do
  Prog.call (world.setMessagingTimeout element deadline)
  let value ← Prog.ask (world.copyValueTyped element deadline)
  return value.bind (fun value => (numericText value).map (fun number => (number, value)))

/-- **`read_number`**; what was read is recorded. -/
def readNumber (element : E) (deadline : Deadline) : Stepping σ E (Option (ℚ × String)) := do
  let read ← (world.copyNumber element deadline).attempt
  Prog.emit (.noted read)
  Prog.ofExcept read

/-- `increment_to_value`, after the steps. -/
def finishIncrement (requested : String) (start target current : ℚ) (currentText : String)
    (delivered : Bool) : Stepping σ E DeliveryOutcome :=
  if incrementTargetReached currentText requested then return .deliveredVerified
  else if hasMoved start current then Prog.fail (incrementStepLimitError start current target)
  else return .fromDelivery delivered false

/-- The loop of `increment_to_value`, with the steps that are left. -/
def incrementLoop (element : E) (requested : String) (deadline : Deadline) (start target : ℚ) :
    ℕ → ℚ → String → Bool → DeliveryTracker → Stepping σ E DeliveryOutcome
  | 0, current, currentText, delivered, _ =>
    finishIncrement requested start target current currentText delivered
  | steps + 1, current, currentText, delivered, delivery =>
    if incrementTargetReached currentText requested then
      return if delivered then .deliveredVerified else .satisfiedNoDelivery
    else do
      let now ← Prog.ask world.clock
      if deadline.isExpired now then
        Prog.fail (delivery.annotate (incrementDeadlineError start current target))
      else
        match incrementAction currentText requested with
        | none => return .fromDelivery delivered false
        | some action =>
          (Prog.call (world.setMessagingTimeout element deadline)).mapError delivery.annotate
          let deliveredStep ←
            (world.tryAxActionOrErr element action deadline).mapError delivery.annotate
          if !deliveredStep then
            finishIncrement requested start target current currentText delivered
          else
            let delivery := delivery.markDelivered
            match ← (world.readNumber element deadline).mapError delivery.annotate with
            | some (next, text) =>
              if !incrementProgressed currentText text requested then
                Prog.fail (delivery.annotate stoppedProgressing)
              else
                incrementLoop element requested deadline start target steps next text true delivery
            | none => finishIncrement requested start target current currentText true

/-- **`increment_to_value`.** -/
def incrementToValue (element : E) (requested : String) (deadline : Deadline) :
    Stepping σ E DeliveryOutcome :=
  match numericText requested with
  | none => return .notDelivered
  | some target => do
    match ← world.readNumber element deadline with
    | none => return .notDelivered
    | some (current, currentText) =>
      world.incrementLoop element requested deadline current target maxIncrementSteps current
        currentText false .empty

end SteppingWorld

end AgentDesktop
