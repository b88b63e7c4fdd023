import AgentDesktop.Desktop
import AgentDesktop.Number

/-!
# Executing an action and reading it back

An action is executed once. When it changes the state of its target, the target
is read back until it shows the change or a short time is over, and the result
says what was seen. An error of the read-back is an error of the action, and
says that the action was delivered – unless the adapter had answered that
nothing needed to be done.
-/

namespace AgentDesktop

variable {σ H : Type} (desktop : Desktop σ H)

/-! ## What the text should be -/

/-- The UTF-16 code units of a character. -/
def utf16Units (character : Char) : List ℕ :=
  if character.toNat < 0x10000 then [character.toNat]
  else
    let code := character.toNat - 0x10000
    [0xd800 + code / 0x400, 0xdc00 + code % 0x400]

/-- `str::encode_utf16`. -/
def encodeUtf16 (text : String) : List ℕ := text.toList.flatMap utf16Units

/-- Whether a code unit is the first of a pair. -/
def isHighSurrogate (unit : ℕ) : Bool := 0xd800 ≤ unit && unit < 0xdc00

/-- Whether a code unit is the second of a pair. -/
def isLowSurrogate (unit : ℕ) : Bool := 0xdc00 ≤ unit && unit < 0xe000

/-- The characters of some code units: pairs are joined, and a half of a pair is
nothing. -/
def decodeUtf16Units : List ℕ → Option (List Char)
  | [] => some []
  | [unit] =>
    if isHighSurrogate unit || isLowSurrogate unit then none else some [Char.ofNat unit]
  | unit :: next :: rest =>
    if isHighSurrogate unit then
      if isLowSurrogate next then
        (decodeUtf16Units rest).map
          (Char.ofNat (0x10000 + (unit - 0xd800) * 0x400 + (next - 0xdc00)) :: ·)
      else none
    else if isLowSurrogate unit then none
    else (decodeUtf16Units (next :: rest)).map (Char.ofNat unit :: ·)

/-- `String::from_utf16`. -/
def decodeUtf16 (units : List ℕ) : Option String := (decodeUtf16Units units).map String.ofList

/-- `expected_insertion`: the text with the selection replaced, where the selection
does not cut a pair. -/
def expectedInsertion (before text : String) (selection : Option (ℕ × ℕ)) : Option String := do
  let (first, last) ← selection.or (if before.isEmpty then some (0, 0) else none)
  let value := encodeUtf16 before
  if last < first ∨ value.length < last then none
  else
    let _ ← decodeUtf16 (value.take first)
    let _ ← decodeUtf16 (value.drop last)
    decodeUtf16 (value.take first ++ encodeUtf16 text ++ value.drop last)

/-! ## Postconditions -/

/-- `checked`. -/
def checkedState (element : LiveElement) : Option Bool :=
  if !element.statesComplete || State.hasState element.state.states State.indeterminate then none
  else some (State.hasState element.state.states State.checked)

/-- `matches_postcondition`. -/
def matchesPostcondition (action : Action) (before : Option LiveElement)
    (expectedText : Option String) (observed : LiveElement) : Option Bool :=
  let state := observed.state
  match action with
  | .setValue expected =>
    state.value.map (fun value => valueMatches state.role expected (some value))
  | .clear => state.value.map String.isEmpty
  | .typeText _ =>
    match expectedText, state.value with
    | some expected, some value => some (expected == value)
    | _, _ => none
  | .check => (checkedState observed).map (· == true)
  | .uncheck => (checkedState observed).map (· == false)
  | .toggle =>
    match before.bind checkedState, checkedState observed with
    | some before, some after => some (before != after)
    | _, _ => none
  | .expand =>
    if observed.statesComplete then some (State.hasState state.states State.expanded) else none
  | .collapse =>
    if observed.statesComplete then some (!State.hasState state.states State.expanded) else none
  | _ => none

/-- `secure_value_is_redacted`. -/
def secureValueIsRedacted (action : Action) (observed : LiveElement) : Bool :=
  action.writesElementValue && observed.state.value.isNone
    && State.hasState observed.state.states State.secure

/-! ## Errors of the read-back -/

/-- `mismatch_error`. -/
def mismatchError (action : Action) : AdapterError :=
  let error := AdapterError.new .actionFailed
    "Post-action state does not match the requested change"
  match action with
  | .typeText _ =>
    error.withSuggestion
      "Some fields, often in Chromium and Electron apps, accept typed text without applying it. Read the field with 'get', then write the full intended value with 'set-value'."
  | _ => error

/-- `verification_error`: the error says that the action was delivered, unless the
result says that nothing was. -/
def verificationError (result : ActionResult) (observed : Option LiveElement)
    (error : AdapterError) : AdapterError :=
  let disposition :=
    if result.disposition = .notDelivered then DeliverySemantics.notDelivered
    else .deliveredUnverified
  let details := match error.details with
    | none => Json.obj []
    | some details => if details.isObject then details else .obj [("cause", details)]
  let details := (details.insert "kind" (.str "post_action_verification")).insert "after_action"
    result.toJson
  let details := match observed with
    | some observed => details.insert "post_state" observed.state.toJson
    | none => details
  let suggestion := error.suggestion.getD
    "Inspect the returned state before deciding whether another action is needed."
  ((error.withSuggestion suggestion).withDisposition disposition).withDetails details

@[simp] theorem disposition_verificationError (result : ActionResult)
    (observed : Option LiveElement) (error : AdapterError) :
    (verificationError result observed error).disposition
      = if result.disposition = .notDelivered then .notDelivered else .deliveredUnverified :=
  rfl

/-- An error of the action, with what was observed afterwards. -/
def withPostState (error : AdapterError) (observed : Except AdapterError LiveElement)
    (verdict : LiveElement → Option Bool) : AdapterError :=
  match observed with
  | .error _ => error
  | .ok observed =>
    let details := (error.details.getD (.obj [])).insert "post_state" observed.state.toJson
    let details := match verdict observed with
      | some satisfied => details.insert "postcondition_satisfied" (.bool satisfied)
      | none => details
    { error with details := some details }

@[simp] theorem disposition_withPostState (error : AdapterError)
    (observed : Except AdapterError LiveElement) (verdict : LiveElement → Option Bool) :
    (withPostState error observed verdict).disposition = error.disposition := by
  cases observed <;> rfl

/-! ## Results of the read-back -/

/-- The result when the postcondition could not be judged. -/
def unverifiedResult (action : Action) (result : ActionResult) (observed : LiveElement) :
    ActionResult :=
  let reason :=
    if secureValueIsRedacted action observed then "secure_field" else "insufficient_evidence"
  ({ result with postState := some observed.state }).withUnverifiedDelivery.addDetails
    [("verification_scope", .str "unavailable"), ("verification_reason", .str reason),
      ("application_commit", .str "not_verified")]

/-- The result when the postcondition holds. -/
def verifiedResult (action : Action) (result : ActionResult) (observed : LiveElement) :
    ActionResult :=
  ({ result with postState := some observed.state }).withVerifiedDelivery.addDetails
    (("verification_scope", .str "element_state") ::
      (if action.writesElementValue then
        [("verification_scope", .str "element_value"),
          ("application_commit", .str "not_verified")]
      else []))

/-! ## Executing -/

/-- How long the read-back pauses, in nanoseconds. -/
def settlePause : ℕ := 50 * nanosPerMs

/-- How long the read-back waits, in nanoseconds. -/
def settleBudget : ℕ := 400 * nanosPerMs

/-- The target as it was before the action, where the postcondition compares with
it. -/
def observeBefore (action : Action) (handle : H) (deadline : Deadline) :
    RefProg σ H AdapterError (Option LiveElement) :=
  match action with
  | .typeText _ | .toggle => do
    match ← Prog.ask (desktop.getLiveElement handle deadline) with
    | .ok before => return some before
    | .error _ => return none
  | _ => return none

/-- The text the target should show after the action. -/
def expectText (request : ActionRequest) (before : Option LiveElement) (handle : H)
    (deadline : Deadline) : RefProg σ H AdapterError (Option String) :=
  match request.action, before with
  | .typeText text, some before =>
    match before.state.value with
    | none => return none
    | some value =>
      if !request.policy.isHeaded || State.hasState before.state.states State.focused then do
        match ← Prog.ask (desktop.getTextSelection handle deadline) with
        | .ok selection => return expectedInsertion value text selection
        | .error _ => return expectedInsertion value text none
      else return expectedInsertion value text none
  | _, _ => return none

/-- The loop of `execute_verified_action`: reading again while the postcondition is
known not to hold, until the time is over. -/
def settle (handle : H) (deadline settleDeadline : Deadline)
    (verdict : LiveElement → Option Bool) :
    ℕ → Except AdapterError LiveElement →
      RefProg σ H AdapterError (Except AdapterError LiveElement)
  | 0, _ => Prog.cutOff
  | fuel + 1, observed => do
    match observed with
    | .error error => return .error error
    | .ok element =>
      if verdict element = some false then
        if settlePause < settleDeadline.remaining (← desktop.clock) then
          Prog.ask (desktop.sleep settlePause)
          settle handle deadline settleDeadline verdict fuel
            (← Prog.ask (desktop.getLiveElement handle deadline))
        else return observed
      else return observed

/-- What a read-back makes of a result. -/
def concludeResult (action : Action) (result : ActionResult)
    (observed : Except AdapterError LiveElement) (verdict : LiveElement → Option Bool) :
    Except AdapterError ActionResult :=
  match observed with
  | .error error => .error (verificationError result none error)
  | .ok observed =>
    match verdict observed with
    | none => .ok (unverifiedResult action result observed)
    | some false => .error (verificationError result (some observed) (mismatchError action))
    | some true => .ok (verifiedResult action result observed)

/-- What follows the execution of an action that is read back. -/
def readBack (fuel : ℕ) (handle : H) (action : Action) (deadline : Deadline)
    (verdict : LiveElement → Option Bool) (execution : Except AdapterError ActionResult) :
    RefProg σ H AdapterError ActionResult := do
  match execution with
  | .error error =>
    if error.disposition = .notDelivered then Prog.fail error
    else
      let observed ← Prog.ask (desktop.getLiveElement handle deadline)
      Prog.fail (withPostState error observed verdict)
  | .ok result =>
    let observed ← Prog.ask (desktop.getLiveElement handle deadline)
    let settleDeadline := deadline.cappedBy (← desktop.clock) settleBudget
    let observed ← settle desktop handle deadline settleDeadline verdict fuel observed
    Prog.emit (.verified (observed.map verdict))
    Prog.ofExcept (concludeResult action result observed verdict)

/-- `execute_action`, recorded. -/
def executeAction (handle : H) (request : ActionRequest) (lease : InteractionLease) :
    RefProg σ H AdapterError ActionResult :=
  Prog.recordedCall (.executed handle) (desktop.executeAction handle request lease)

/-- `execute_verified_action`. -/
def executeVerifiedAction (fuel : ℕ) (handle : H) (request : ActionRequest)
    (lease : InteractionLease) : RefProg σ H AdapterError ActionResult :=
  if !request.action.requiresStateReadback then executeAction desktop handle request lease
  else do
    let before ← observeBefore desktop request.action handle lease.deadline
    let expected ← expectText desktop request before handle lease.deadline
    let execution ← Prog.attempt (executeAction desktop handle request lease)
    readBack desktop fuel handle request.action lease.deadline
      (matchesPostcondition request.action before expected) execution

end AgentDesktop
