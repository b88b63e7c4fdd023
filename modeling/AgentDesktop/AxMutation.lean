import AgentDesktop.Chain

/-!
# Mutating accessibility calls

An application answers a mutating call with a code, and the code is what is
known of the call: that it was delivered, that it was not, or nothing that
either can be told from. A call of the last kind may have been carried out, so
it is reported as uncertain. The calls that were made and the readings of the
clock are recorded here, in the order in which they happened: a call is recorded
with the code that answered it and with the state it was made in.
-/

namespace AgentDesktop

/-! ## The codes -/

/-- `AXError`. -/
structure AXError where
  code : ℤ
  deriving DecidableEq

namespace AXError

/-- `kAXErrorSuccess`. -/
def success : AXError := ⟨0⟩
/-- `kAXErrorFailure`. -/
def failure : AXError := ⟨-25200⟩
/-- `kAXErrorIllegalArgument`. -/
def illegalArgument : AXError := ⟨-25201⟩
/-- `kAXErrorInvalidUIElement`. -/
def invalidUIElement : AXError := ⟨-25202⟩
/-- `kAXErrorCannotComplete`. -/
def cannotComplete : AXError := ⟨-25204⟩
/-- `kAXErrorAttributeUnsupported`. -/
def attributeUnsupported : AXError := ⟨-25205⟩
/-- `kAXErrorActionUnsupported`. -/
def actionUnsupported : AXError := ⟨-25206⟩
/-- `kAXErrorNotImplemented`. -/
def notImplemented : AXError := ⟨-25208⟩
/-- `kAXErrorAPIDisabled`. -/
def apiDisabled : AXError := ⟨-25211⟩
/-- `kAXErrorNoValue`. -/
def noValue : AXError := ⟨-25212⟩

end AXError

/-- The calls that change something. -/
inductive AXApi
  | performAction | setAttributeValue
  deriving DecidableEq

/-- The name of a call; `PERFORM_API` is the first. -/
def AXApi.name : AXApi → String
  | performAction => "AXUIElementPerformAction"
  | setAttributeValue => "AXUIElementSetAttributeValue"

/-! ## What a code says -/

/-- `PerformSignal`. -/
inductive PerformSignal
  | reportedDelivered | reportedUnsupported | uninformative
  deriving DecidableEq

/-- What is suggested when nothing can be told from a code. -/
def inspectSuggestion : String :=
  "Inspect the target state with a fresh snapshot before deciding whether to retry."

/-- The details of a code. -/
def codeDetails (operation : String) (error : AXError) : Json :=
  .obj [("ax_error", .num error.code), ("operation", .str operation)]

/-- An error whose code does not tell whether the call was carried out. -/
def uncertainCode (code : ErrorCode) (operation api label : String) (error : AXError) :
    AdapterError :=
  DeliveryTracker.uncertain ((((AdapterError.new code
    (operation ++ " returned " ++ label ++ "; mutation outcome is uncertain")).withDetails
      (codeDetails operation error)).withPlatformDetail
      (api ++ "(" ++ operation ++ ") returned " ++ toString error.code)).withSuggestion
      inspectSuggestion)

/-- `signal_or_error`. -/
def signalOrError (operation : String) (api : AXApi) (error : AXError) :
    Except AdapterError PerformSignal :=
  if error = .success then .ok .reportedDelivered
  else if error = .actionUnsupported ∨ error = .notImplemented then .ok .reportedUnsupported
  else if error = .failure then
    .error (uncertainCode .actionFailed operation api.name "kAXErrorFailure" error)
  else if error = .attributeUnsupported ∨ error = .noValue then .ok .uninformative
  else if error = .apiDisabled then
    .error ((AdapterError.permissionDenied.withPlatformDetail
      (api.name ++ "(" ++ operation ++ ") failed with kAXErrorAPIDisabled")).withDisposition
        .notDelivered)
  else if error = .invalidUIElement then
    .error ((((AdapterError.new .staleRef
      (operation ++ " targeted an invalid accessibility element")).withDetails
        (.obj [("ax_error", .str "kAXErrorInvalidUIElement"),
          ("operation", .str operation)])).withDisposition .notDelivered).withSuggestion
        "Refresh the snapshot and retry with the new element reference.")
  else if error = .illegalArgument then
    .error ((((AdapterError.new .invalidArgs
      (operation ++ " rejected an invalid accessibility argument")).withPlatformDetail
        (api.name ++ "(" ++ operation ++ ") returned " ++ toString error.code)).withDetails
        (codeDetails operation error)).withDisposition .notDelivered)
  else if error = .cannotComplete then
    .error (uncertainCode .appUnresponsive operation api.name "kAXErrorCannotComplete" error)
  else .error (uncertainCode .actionFailed operation api.name "unclassified AXError" error)

/-- `classify_perform`. -/
def classifyPerform (operation : String) (error : AXError) : Except AdapterError PerformSignal :=
  signalOrError operation .performAction error

/-- `settle_uninformative_perform`. -/
def settleUninformativePerform (operation : String) (error : AXError) (observedEffect : Bool) :
    Except AdapterError DeliveryOutcome :=
  if observedEffect then .ok .deliveredVerified
  else .error ((((AdapterError.new .actionFailed
    (operation ++ " did not establish a verifiable effect; mutation outcome is uncertain")).withDisposition
      .deliveryUncertain).withDetails (codeDetails operation error)).withSuggestion
      inspectSuggestion)

/-- `classify`. -/
def classify (operation : String) (api : AXApi) (error : AXError) : Except AdapterError Bool := do
  let signal ← signalOrError operation api error
  if signal = .uninformative ∧ api = .performAction then
    (settleUninformativePerform operation error false).map DeliveryOutcome.wasDelivered
  else .ok (signal == .reportedDelivered)

/-! ## What is known of a call -/

/-- What the answer to a call tells of it. -/
inductive CallStanding
  | notDelivered | delivered | uncertain
  deriving DecidableEq

/-- **What is known of a call from its answer.** A success says that it was delivered. An answer
that the call is not implemented, not permitted, or ill-formed says that it was not; that an
attribute cannot be set says so too, but the same answer to an action says nothing, nor does any
other. -/
def AXApi.standing (api : AXApi) (code : AXError) : CallStanding :=
  if code = .success then .delivered
  else if code = .actionUnsupported ∨ code = .notImplemented ∨ code = .apiDisabled
      ∨ code = .invalidUIElement ∨ code = .illegalArgument then .notDelivered
  else if (code = .attributeUnsupported ∨ code = .noValue) ∧ api = .setAttributeValue then
    .notDelivered
  else .uncertain

/-- A mutating call, and the code that answered it. -/
structure AXCall (E : Type) where
  element : E
  /-- The action that is performed, or the attribute that is set. -/
  operation : String
  api : AXApi
  code : AXError

namespace AXCall

variable {E : Type} (call : AXCall E)

/-- What is known of a call that was answered. -/
def standing : CallStanding := call.api.standing call.code

/-- The call may have been carried out. -/
def MayHaveHappened : Prop := call.standing ≠ .notDelivered

instance : Decidable call.MayHaveHappened := inferInstanceAs (Decidable (_ ≠ _))

end AXCall

/-! ## Calls and readings of the clock -/

/-- What is recorded of a program that makes calls; `X` is what else is. -/
inductive AXEvent (σ E X : Type)
  /-- A mutating call, and the state it was made in. -/
  | mutation (call : AXCall E) (state : σ)
  /-- A reading of the clock. -/
  | clock (now : ℕ)
  /-- Anything else. -/
  | noted (note : X)

/-- A value of an attribute. -/
inductive AXValue (E : Type)
  | number (value : Option F64)
  | bool (value : Bool)
  | string (value : String)
  | elements (members : List E)
  | other

/-- **What a program asks of an application**, and the calls that change something. -/
structure AXWorld (σ E : Type) extends ChainWorld σ E where
  prepareMutation : E → Deadline → σ → Except AdapterError Unit × σ
  /-- `AXUIElementPerformAction`. -/
  performAction : E → String → σ → AXError × σ
  /-- `AXUIElementSetAttributeValue`. -/
  setAttributeValue : E → String → AXValue E → σ → AXError × σ
  /-- `copy_action_names_with_status`, without its status. -/
  copyActionNames : E → Deadline → σ → Option (List String) × σ
  copyAttributeValue : E → String → Deadline → σ → (AXError × Option (AXValue E)) × σ
  /-- `copy_string_attr_result`. -/
  copyStringAttr : E → String → Deadline → σ → Except AXError (Option String) × σ
  /-- `copy_bool_attr_result`. -/
  copyBoolAttr : E → String → Deadline → σ → Except AXError (Option Bool) × σ
  /-- `copy_element_attr_result`. -/
  copyElementAttr : E → String → Deadline → σ → Except AXError (Option E) × σ
  /-- `copy_ax_array_prefix_result`. -/
  copyAxArrayPrefix : E → String → ℕ → Deadline → σ → Except AXError (Option (List E)) × σ

/-- `pre_mutation_error`. -/
def preMutationError (error : AdapterError) : AdapterError := error.withDisposition .notDelivered

namespace AXWorld

variable {σ E X : Type} (world : AXWorld σ E)

/-- A reading of the clock. -/
def readClock : Prog σ (AXEvent σ E X) AdapterError ℕ := do
  let now ← Prog.ask world.clock
  Prog.emit (.clock now)
  return now

/-- `ax_ipc::perform_action`. -/
def perform (el : E) (action : String) (deadline : Deadline) :
    Prog σ (AXEvent σ E X) AdapterError AXError := do
  (Prog.call (world.prepareMutation el deadline)).mapError preMutationError
  let state ← Prog.ask (fun state => (state, state))
  let error ← Prog.ask (world.performAction el action)
  Prog.emit (.mutation ⟨el, action, .performAction, error⟩ state)
  return error

/-- `ax_ipc::set_attribute_value`. -/
def setValue (el : E) (attr : String) (value : AXValue E) (deadline : Deadline) :
    Prog σ (AXEvent σ E X) AdapterError AXError := do
  (Prog.call (world.prepareMutation el deadline)).mapError preMutationError
  let state ← Prog.ask (fun state => (state, state))
  let error ← Prog.ask (world.setAttributeValue el attr value)
  Prog.emit (.mutation ⟨el, attr, .setAttributeValue, error⟩ state)
  return error

/-- `advertises_action`. -/
def advertisesAction (el : E) (name : String) (deadline : Deadline) :
    Prog σ (AXEvent σ E X) AdapterError (Option Bool) := do
  let actions ← Prog.ask (world.copyActionNames el deadline)
  return actions.map (fun actions => actions.contains name)

/-- `run_mutation`. -/
def runMutation (operation : String) (api : AXApi) (deadline : Deadline)
    (mutate : Deadline → Prog σ (AXEvent σ E X) AdapterError AXError) :
    Prog σ (AXEvent σ E X) AdapterError Bool := do
  let error ← mutate deadline
  let delivered ← Prog.ofExcept (classify operation api error)
  let now ← world.readClock
  if deadline.isExpired now then
    Prog.fail ((deadline.timeoutError now).withDisposition
      (if delivered then .deliveredUnverified else .notDelivered))
  else return delivered

/-- `try_ax_action_or_err`. -/
def tryAxActionOrErr (el : E) (name : String) (deadline : Deadline) :
    Prog σ (AXEvent σ E X) AdapterError Bool := do
  let advertised ← world.advertisesAction el name deadline
  if advertised = some false then return false
  else world.runMutation name .performAction deadline (world.perform el name)

/-- `set_ax_bool_or_err`. -/
def setAxBoolOrErr (el : E) (attr : String) (value : Bool) (deadline : Deadline) :
    Prog σ (AXEvent σ E X) AdapterError Bool :=
  world.runMutation attr .setAttributeValue deadline (world.setValue el attr (.bool value))

end AXWorld

/-! ## What a call is reported as -/

/-- **An error keeps what a code says.** A call that was delivered is classified as delivered; one
that was not is answered with a refusal or with an error that says so; and any other with an error
that says that it is uncertain. -/
theorem classify_standing (operation : String) (api : AXApi) (code : AXError) :
    match api.standing code with
    | .delivered => classify operation api code = .ok true
    | .notDelivered => classify operation api code = .ok false
        ∨ ∃ error, classify operation api code = .error error ∧ error.disposition = .notDelivered
    | .uncertain => ∃ error, classify operation api code = .error error
        ∧ error.disposition = .deliveryUncertain := by
  by_cases hsuccess : code = .success
  · subst hsuccess
    cases api <;> rfl
  by_cases hunsupported : code = .actionUnsupported ∨ code = .notImplemented
  · rcases hunsupported with rfl | rfl <;> cases api <;> exact Or.inl rfl
  by_cases huninformative : code = .attributeUnsupported ∨ code = .noValue
  · rcases huninformative with rfl | rfl <;> cases api
    · exact ⟨_, rfl, rfl⟩
    · exact Or.inl rfl
    · exact ⟨_, rfl, rfl⟩
    · exact Or.inl rfl
  by_cases hdisabled : code = .apiDisabled
  · subst hdisabled
    cases api <;> exact Or.inr ⟨_, rfl, rfl⟩
  by_cases hinvalid : code = .invalidUIElement
  · subst hinvalid
    cases api <;> exact Or.inr ⟨_, rfl, rfl⟩
  by_cases hargument : code = .illegalArgument
  · subst hargument
    cases api <;> exact Or.inr ⟨_, rfl, rfl⟩
  have hstanding : api.standing code = .uncertain := by
    unfold AXApi.standing
    rw [if_neg hsuccess, if_neg (by tauto), if_neg (fun h => huninformative h.1)]
  rw [hstanding]
  unfold classify signalOrError
  rw [if_neg hsuccess, if_neg hunsupported]
  by_cases hfailure : code = .failure
  · rw [if_pos hfailure]
    exact ⟨_, rfl, rfl⟩
  rw [if_neg hfailure, if_neg huninformative, if_neg hdisabled, if_neg hinvalid,
    if_neg hargument]
  by_cases hcomplete : code = .cannotComplete
  · rw [if_pos hcomplete]
    exact ⟨_, rfl, rfl⟩
  · rw [if_neg hcomplete]
    exact ⟨_, rfl, rfl⟩

theorem AXApi.eq_success_of_standing {api : AXApi} {code : AXError}
    (h : api.standing code = .delivered) : code = .success := by
  unfold standing at h
  split_ifs at h with hsuccess
  exact hsuccess

theorem standing_of_classify_ok {operation : String} {api : AXApi} {code : AXError}
    {delivered : Bool} (h : classify operation api code = .ok delivered) :
    api.standing code = if delivered then .delivered else .notDelivered := by
  have hclassify := classify_standing operation api code
  cases hstanding : api.standing code with
  | delivered =>
    rw [hstanding] at hclassify
    obtain rfl := Except.ok.inj (h.symm.trans hclassify)
    rfl
  | notDelivered =>
    rw [hstanding] at hclassify
    rcases hclassify with hclassify | ⟨error, hclassify, -⟩
    · obtain rfl := Except.ok.inj (h.symm.trans hclassify)
      rfl
    · exact absurd (h.symm.trans hclassify) (by simp)
  | uncertain =>
    rw [hstanding] at hclassify
    obtain ⟨error, hclassify, -⟩ := hclassify
    exact absurd (h.symm.trans hclassify) (by simp)

theorem standing_of_classify_error {operation : String} {api : AXApi} {code : AXError}
    {error : AdapterError} (h : classify operation api code = .error error) :
    (api.standing code = .notDelivered ∧ error.disposition = .notDelivered)
      ∨ (api.standing code = .uncertain ∧ error.disposition = .deliveryUncertain) := by
  have hclassify := classify_standing operation api code
  cases hstanding : api.standing code with
  | delivered =>
    rw [hstanding] at hclassify
    exact absurd (h.symm.trans hclassify) (by simp)
  | notDelivered =>
    rw [hstanding] at hclassify
    rcases hclassify with hclassify | ⟨error', hclassify, hdisposition⟩
    · exact absurd (h.symm.trans hclassify) (by simp)
    · obtain rfl := Except.error.inj (h.symm.trans hclassify)
      exact Or.inl ⟨rfl, hdisposition⟩
  | uncertain =>
    rw [hstanding] at hclassify
    obtain ⟨error', hclassify, hdisposition⟩ := hclassify
    obtain rfl := Except.error.inj (h.symm.trans hclassify)
    exact Or.inr ⟨rfl, hdisposition⟩

namespace AXEvent

variable {σ E X : Type}

/-- The call an event is of. -/
def call? : AXEvent σ E X → Option (AXCall E)
  | mutation call _ => some call
  | clock _ | noted _ => none

/-- The calls that were made. -/
def calls (events : List (AXEvent σ E X)) : List (AXCall E) := events.filterMap call?

/-- What else was recorded. -/
def note? : AXEvent σ E X → Option X
  | noted note => some note
  | mutation _ _ | clock _ => none

/-- What else was recorded, in order. -/
def notes (events : List (AXEvent σ E X)) : List X := events.filterMap note?

/-- **The effects**: the calls that were made and may have been carried out. -/
def effects (events : List (AXEvent σ E X)) : List (AXCall E) :=
  (calls events).filter (fun call => decide call.MayHaveHappened)

@[simp] theorem calls_nil : calls ([] : List (AXEvent σ E X)) = [] := rfl

@[simp] theorem calls_mutation_cons (call : AXCall E) (state : σ) (events : List (AXEvent σ E X)) :
    calls (.mutation call state :: events) = call :: calls events := rfl

@[simp] theorem calls_clock_cons (now : ℕ) (events : List (AXEvent σ E X)) :
    calls (.clock now :: events) = calls events := rfl

@[simp] theorem calls_append (events events' : List (AXEvent σ E X)) :
    calls (events ++ events') = calls events ++ calls events' := List.filterMap_append

@[simp] theorem notes_nil : notes ([] : List (AXEvent σ E X)) = [] := rfl

@[simp] theorem notes_noted_cons (note : X) (events : List (AXEvent σ E X)) :
    notes (.noted note :: events) = note :: notes events := rfl

@[simp] theorem notes_append (events events' : List (AXEvent σ E X)) :
    notes (events ++ events') = notes events ++ notes events' := List.filterMap_append

theorem mem_calls {events before after : List (AXEvent σ E X)} {call : AXCall E} {state : σ}
    (h : events = before ++ .mutation call state :: after) : call ∈ calls events := by
  rw [h, calls_append, calls_mutation_cons]
  exact List.mem_append_right _ List.mem_cons_self

@[simp] theorem effects_append (events events' : List (AXEvent σ E X)) :
    effects (events ++ events') = effects events ++ effects events' := by
  unfold effects
  rw [calls_append, List.filter_append]

theorem effects_eq_nil_iff {events : List (AXEvent σ E X)} :
    effects events = [] ↔ ∀ call ∈ calls events, call.standing = .notDelivered := by
  unfold effects
  rw [List.filter_eq_nil_iff]
  refine forall₂_congr (fun call _ => ?_)
  rw [decide_eq_true_iff]
  exact not_not

end AXEvent

/-- **How one call is reported.** It was not made at all; or it was made once, and the report says
what is known of it, but a refusal may be reported as a timeout that was not delivered, and a
delivery as one that was delivered. -/
inductive MutationReport {σ E X : Type} (el : E) (operation : String) (api : AXApi)
    (deadline : Deadline) : Outcome AdapterError Bool → List (AXEvent σ E X) → Prop
  | notAdvertised : MutationReport el operation api deadline (.ok false) []
  | notMade {error : AdapterError} (hdisposition : error.disposition = .notDelivered) :
    MutationReport el operation api deadline (.error error) []
  | refused {code : AXError} {state : σ} {error : AdapterError} (hstanding : api.standing code = .notDelivered)
      (hdisposition : error.disposition = .notDelivered) :
    MutationReport el operation api deadline (.error error)
      [.mutation ⟨el, operation, api, code⟩ state]
  | uncertain {code : AXError} {state : σ} {error : AdapterError} (hstanding : api.standing code = .uncertain)
      (hdisposition : error.disposition = .deliveryUncertain) :
    MutationReport el operation api deadline (.error error)
      [.mutation ⟨el, operation, api, code⟩ state]
  | declined {code : AXError} {state : σ} {now : ℕ} (hstanding : api.standing code = .notDelivered) :
    MutationReport el operation api deadline (.ok false)
      [.mutation ⟨el, operation, api, code⟩ state, .clock now]
  | declinedLate {code : AXError} {state : σ} {now : ℕ} {error : AdapterError}
      (hstanding : api.standing code = .notDelivered)
      (hdisposition : error.disposition = .notDelivered) :
    MutationReport el operation api deadline (.error error)
      [.mutation ⟨el, operation, api, code⟩ state, .clock now]
  | delivered {code : AXError} {state : σ} {now : ℕ} (hstanding : api.standing code = .delivered)
      (hlate : deadline.isExpired now = false) :
    MutationReport el operation api deadline (.ok true)
      [.mutation ⟨el, operation, api, code⟩ state, .clock now]
  | deliveredLate {code : AXError} {state : σ} {now : ℕ} {error : AdapterError}
      (hstanding : api.standing code = .delivered) (hlate : deadline.isExpired now = true)
      (hdisposition : error.disposition = .deliveredUnverified) :
    MutationReport el operation api deadline (.error error)
      [.mutation ⟨el, operation, api, code⟩ state, .clock now]

namespace MutationReport

variable {σ E X : Type} {el : E} {operation : String} {api : AXApi} {deadline : Deadline}
  {o : Outcome AdapterError Bool} {events : List (AXEvent σ E X)}

theorem eq_of_mem_calls (h : MutationReport el operation api deadline o events) :
    ∀ call ∈ AXEvent.calls events,
      call.element = el ∧ call.operation = operation ∧ call.api = api := by
  cases h with
  | notAdvertised | notMade => exact fun _ hmem => absurd hmem List.not_mem_nil
  | _ => exact List.forall_mem_singleton.mpr ⟨rfl, rfl, rfl⟩

theorem ne_running (h : MutationReport el operation api deadline o events) : o ≠ .running := by
  cases h <;> simp

/-- **What is not reported as a delivery, nor as one that is uncertain, had no effect.** -/
theorem effects_eq_nil (h : MutationReport el operation api deadline o events)
    (htrue : o ≠ .ok true)
    (hnot : ∀ error, o = .error error → error.disposition = .notDelivered) :
    AXEvent.effects events = [] := by
  rw [AXEvent.effects_eq_nil_iff]
  cases h with
  | notAdvertised | notMade => exact fun _ hmem => absurd hmem List.not_mem_nil
  | refused hstanding | declined hstanding | declinedLate hstanding =>
    exact List.forall_mem_singleton.mpr hstanding
  | uncertain _ hdisposition | deliveredLate _ _ hdisposition =>
    exact absurd (hdisposition.symm.trans (hnot _ rfl)) (by simp)
  | delivered => exact absurd rfl htrue

end MutationReport

namespace AXWorld

variable {σ E X : Type} (world : AXWorld σ E)

/-- A call that is made once, unless it cannot be prepared. -/
def MadeOnce (el : E) (operation : String) (api : AXApi) (o : Outcome AdapterError AXError)
    (events : List (AXEvent σ E X)) : Prop :=
  (∃ error, o = .error error ∧ error.disposition = .notDelivered ∧ events = [])
    ∨ ∃ code state, o = .ok code ∧ events = [.mutation ⟨el, operation, api, code⟩ state]

theorem perform_sat (el : E) (action : String) (deadline : Deadline) :
    (world.perform el action deadline).Sat (MadeOnce (X := X) el action .performAction) := by
  unfold perform
  refine Prog.sat_mapError_call_bind (fun _ => ?_) (fun error => Or.inl ⟨_, rfl, rfl, rfl⟩)
  refine Prog.sat_ask_bind (fun state => Prog.sat_ask_bind (fun code => Prog.sat_emit_bind ?_))
  exact Prog.sat_pure (Or.inr ⟨code, state, rfl, rfl⟩)

theorem setValue_sat (el : E) (attr : String) (value : AXValue E) (deadline : Deadline) :
    (world.setValue el attr value deadline).Sat
      (MadeOnce (X := X) el attr .setAttributeValue) := by
  unfold setValue
  refine Prog.sat_mapError_call_bind (fun _ => ?_) (fun error => Or.inl ⟨_, rfl, rfl, rfl⟩)
  refine Prog.sat_ask_bind (fun state => Prog.sat_ask_bind (fun code => Prog.sat_emit_bind ?_))
  exact Prog.sat_pure (Or.inr ⟨code, state, rfl, rfl⟩)

theorem readClock_bind_sat {α : Type} {f : ℕ → Prog σ (AXEvent σ E X) AdapterError α}
    {Ψ : Outcome AdapterError α → List (AXEvent σ E X) → Prop}
    (h : ∀ now, (f now).Sat (fun o events => Ψ o (.clock now :: events))) :
    (world.readClock >>= f).Sat Ψ := by
  refine (show world.readClock.Sat (fun o events => ∃ now, o = .ok now ∧ events = [.clock now])
    from ?_).bind ?_ ?_ ?_
  · exact Prog.sat_ask_bind (fun now => Prog.sat_emit_bind (Prog.sat_pure ⟨now, rfl, rfl⟩))
  · rintro now events ⟨now', hnow, rfl⟩
    obtain rfl := Outcome.ok.inj hnow
    exact h now
  · rintro error events ⟨_, h, -⟩
    exact absurd h (by simp)
  · rintro events ⟨_, h, -⟩
    exact absurd h (by simp)

/-- **A mutation is reported as what it was.** -/
theorem runMutation_sat {el : E} (operation : String) (api : AXApi) (deadline : Deadline)
    {mutate : Deadline → Prog σ (AXEvent σ E X) AdapterError AXError}
    (hmutate : (mutate deadline).Sat (MadeOnce el operation api)) :
    (world.runMutation operation api deadline mutate).Sat
      (MutationReport el operation api deadline) := by
  unfold runMutation
  refine hmutate.bind ?_ ?_ ?_
  · rintro code events (⟨_, h, -⟩ | ⟨code', state, h, rfl⟩)
    · exact absurd h (by simp)
    obtain rfl := Outcome.ok.inj h
    refine Prog.sat_ofExcept_bind
      (fun delivered hok => world.readClock_bind_sat (fun now => ?_)) (fun error herror => ?_)
    · have hstanding := standing_of_classify_ok hok
      cases delivered with
      | true =>
        cases hlate : deadline.isExpired now with
        | true => exact Prog.sat_fail (.deliveredLate hstanding hlate rfl)
        | false => exact Prog.sat_pure (.delivered hstanding hlate)
      | false =>
        cases deadline.isExpired now with
        | true => exact Prog.sat_fail (.declinedLate hstanding rfl)
        | false => exact Prog.sat_pure (.declined hstanding)
    · rcases standing_of_classify_error herror with ⟨hstanding, hdisposition⟩ | ⟨hstanding, hdisposition⟩
      · exact .refused hstanding hdisposition
      · exact .uncertain hstanding hdisposition
  · rintro error events (⟨error', h, hdisposition, rfl⟩ | ⟨_, _, h, -⟩)
    · obtain rfl := Outcome.error.inj h
      exact .notMade hdisposition
    · exact absurd h (by simp)
  · rintro events (⟨_, h, -⟩ | ⟨_, _, h, -⟩) <;> exact absurd h (by simp)

theorem tryAxActionOrErr_sat (el : E) (name : String) (deadline : Deadline) :
    (world.tryAxActionOrErr el name deadline).Sat
      (MutationReport (X := X) el name .performAction deadline) := by
  unfold tryAxActionOrErr advertisesAction
  refine ((Prog.Sure.ask _).bind (fun _ => Prog.Sure.pure _)).bind_sat (fun advertised => ?_)
  by_cases h : advertised = some false
  · rw [if_pos h]
    exact Prog.sat_pure .notAdvertised
  · rw [if_neg h]
    exact world.runMutation_sat name .performAction deadline (world.perform_sat el name deadline)

end AXWorld

end AgentDesktop
