import AgentDesktop.Chain
import AgentDesktop.Role

/-!
# Checking and unchecking

A control is checked by writing its value, if the value can be written, and by clicking it
otherwise. A click toggles: it must not be made when the control is as requested already,
and a write that was accepted may take its time. So the state is observed before anything
is done and after a write, and a click is the last thing that is tried. A radio button is
never clicked to uncheck it, since that would do nothing.

The control is a parameter: five operations on any state, which may answer anything, refuse,
fail and take as long as they like.
-/

namespace AgentDesktop

namespace ToggleState

/-! ## The control -/

/-- **`CheckTarget`**: what is asked of a control. -/
structure CheckTarget (σ : Type) where
  checked : σ → Except AdapterError (Option Bool) × σ
  valueSettable : σ → Except AdapterError Bool × σ
  /-- `write_value`: whether the write was accepted. -/
  writeValue : Bool → σ → Except AdapterError Bool × σ
  /-- `settle`: the state after some time, or as soon as it is the requested one. -/
  settle : Bool → σ → Except AdapterError (Option Bool) × σ
  click : σ → Except AdapterError (List ActionStep) × σ

/-- **What was asked, and what was answered.** -/
inductive CheckEvent
  | checked (answer : Except AdapterError (Option Bool))
  | settable (answer : Except AdapterError Bool)
  | wrote (answer : Except AdapterError Bool)
  | settled (answer : Except AdapterError (Option Bool))
  | clicked (answer : Except AdapterError (List ActionStep))

/-! ## Errors and steps -/

/-- `after_delivery`. -/
def afterDelivery (error : AdapterError) : AdapterError :=
  error.withDisposition .deliveredUnverified

/-- `state_not_reached`. -/
def stateNotReached : AdapterError :=
  ((AdapterError.new .actionFailed "check/uncheck did not reach the requested state").withDetails
    (.obj [("verification", .str "requested_checked_state_not_observed")])).withSuggestion
      "Refresh the snapshot and inspect the checked state before deciding whether to retry."

/-- `uncheck_unsupported`. -/
def uncheckUnsupported : AdapterError :=
  (((AdapterError.new .actionFailed "a radio button cannot be unchecked directly").withDetails
    (.obj [("verification", .str "requested_checked_state_not_observed")])).withSuggestion
      ("A radio button cannot be unchecked directly. Select a sibling radio button in the " ++
        "same group instead.")).withDisposition .notDelivered

/-- `ignored_write_step`. -/
def ignoredWriteStep : ActionStep := ⟨"AXValue", .attempted, some .semanticApi, none⟩

/-- `value_write_step`. -/
def valueWriteStep : ActionStep :=
  ((ActionStep.succeeded "AXValue").withMechanism .semanticApi).withVerified true

/-- `already_in_state_step`. -/
def alreadyInStateStep : ActionStep := (ActionStep.skipped "AlreadyInState").withVerified true

/-- `mark_last_verified`. -/
def markLastVerified (steps : List ActionStep) (verified : Bool) : List ActionStep :=
  steps.dropLast ++ (steps.getLast?.map (fun step => step.withVerified verified)).toList

/-! ## The run -/

section Run

variable {σ : Type} (target : CheckTarget σ) (wantChecked pressAfterIgnoredWrite : Bool)

/-- A program on a control. -/
abbrev Checking (σ α : Type) : Type := Prog σ CheckEvent AdapterError α

/-- The state. -/
def askChecked : Checking σ (Option Bool) := .recordedCall .checked target.checked

/-- The state after some time. -/
def askSettled : Checking σ (Option Bool) := .recordedCall .settled (target.settle wantChecked)

/-- `refuse_uncheck`. -/
def refuseUncheck (writeRefused : Bool) : Checking σ (List ActionStep) :=
  if !writeRefused then .fail uncheckUnsupported
  else do
    match ← (askChecked target).mapError afterDelivery with
    | some state =>
      if state = wantChecked then return [valueWriteStep] else .fail uncheckUnsupported
    | none => .fail (afterDelivery uncheckUnsupported)

/-- `run_check`, from the click on. -/
def clickThrough (wrote : Bool) (steps : List ActionStep) : Checking σ (List ActionStep) := do
  let clicked ← (Prog.recordedCall .clicked target.click).mapError
    (fun error => if wrote then afterDelivery error else error)
  let state ← (askSettled target wantChecked).mapError afterDelivery
  if state ≠ some wantChecked then .fail (afterDelivery stateNotReached)
  else return markLastVerified (steps ++ clicked) true

/-- `run_check`, after a write that was accepted. -/
def afterWrite : Checking σ (List ActionStep) := do
  let settled ← (askSettled target wantChecked).mapError afterDelivery
  if settled = some wantChecked then return [valueWriteStep]
  else
    match ← (askChecked target).mapError afterDelivery with
    | some state =>
      if state = wantChecked then return [valueWriteStep]
      else if pressAfterIgnoredWrite then clickThrough target wantChecked true [ignoredWriteStep]
      else .fail (afterDelivery uncheckUnsupported)
    | none => .fail (afterDelivery stateNotReached)

/-- `run_check`, when no write was accepted. -/
def withoutWrite (steps : List ActionStep) : Checking σ (List ActionStep) :=
  if !pressAfterIgnoredWrite then refuseUncheck target wantChecked (!steps.isEmpty)
  else clickThrough target wantChecked false steps

/-- **`run_check`.** -/
def runCheck : Checking σ (List ActionStep) := do
  let before ← askChecked target
  if before = some wantChecked then return [alreadyInStateStep]
  else if ← Prog.recordedCall .settable target.valueSettable then
    if ← Prog.recordedCall .wrote (target.writeValue wantChecked) then
      afterWrite target wantChecked pressAfterIgnoredWrite
    else withoutWrite target wantChecked pressAfterIgnoredWrite [ignoredWriteStep]
  else withoutWrite target wantChecked pressAfterIgnoredWrite []

/-- `is_toggleable_role`. -/
def isToggleableRole (role : String) : Bool :=
  match Role.fromToken role with
  | .checkbox | .switch | .radioButton => true
  | _ => false

/-- The error of a control that cannot be checked. -/
def notToggleable (role : Option String) : AdapterError :=
  (AdapterError.new .actionNotSupported
    ("check/uncheck not supported on role '" ++ role.getD "unknown" ++ "'")).withSuggestion
      "Only works on checkboxes, switches, and radio buttons."

/-- **`check_uncheck`**, with the read of the role. -/
def checkUncheck (readRole : σ → Except AdapterError (Option String) × σ) :
    Checking σ (List ActionStep) := do
  let role ← Prog.call readRole
  if !(role.map isToggleableRole).getD false then .fail (notToggleable role)
  else
    runCheck target wantChecked
      (wantChecked || Role.fromToken (role.getD "") != .radioButton)

end Run

/-! ## What a run reports -/

namespace CheckEvent

/-- The state that was observed, if it was. -/
def observed? : CheckEvent → Option (Option Bool)
  | checked (.ok state) | settled (.ok state) => some state
  | _ => none

/-- Whether a value was written. -/
def isWrite : CheckEvent → Bool
  | wrote _ => true
  | _ => false

/-- Whether the control was clicked. -/
def isClick : CheckEvent → Bool
  | clicked _ => true
  | _ => false

/-- Whether something was delivered: a write was accepted, or a click succeeded. -/
def delivers : CheckEvent → Bool
  | wrote (.ok accepted) => accepted
  | clicked (.ok _) => true
  | _ => false

end CheckEvent

/-- The state that was observed last. -/
def lastObserved (events : List CheckEvent) : Option (Option Bool) :=
  (events.filterMap CheckEvent.observed?).getLast?

/-- **What a run reports**, of what was asked and answered. -/
structure CheckReport (wantChecked pressAfterIgnoredWrite : Bool)
    (outcome : Outcome AdapterError (List ActionStep)) (events : List CheckEvent) : Prop where
  /-- A success rests on the last observation. -/
  reached : ∀ steps, outcome = .ok steps → lastObserved events = some (some wantChecked)
  /-- There is at most one write. -/
  oneWrite : events.countP CheckEvent.isWrite ≤ 1
  /-- There is at most one click. -/
  oneClick : events.countP CheckEvent.isClick ≤ 1
  /-- A click is made only if it is allowed. -/
  allowed : ∀ event ∈ events, event.isClick = true → pressAfterIgnoredWrite = true
  /-- No click is made after the requested state was observed. -/
  unreached : events.Pairwise (fun earlier later =>
    later.isClick = true → earlier.observed? ≠ some (some wantChecked))
  /-- An error after a delivery does not deny it. -/
  owned : ∀ error, outcome = .error error → (∃ event ∈ events, event.delivers = true) →
    error.disposition ≠ .notDelivered

/-- **What comes before a click**: no click, at most one write, and no observation of the
requested state. -/
structure Unclicked (wantChecked : Bool) (events : List CheckEvent) : Prop where
  /-- There is at most one write. -/
  oneWrite : events.countP CheckEvent.isWrite ≤ 1
  /-- There is no click. -/
  noClick : ∀ event ∈ events, event.isClick = false
  /-- The requested state was not observed. -/
  unreached : ∀ event ∈ events, event.observed? ≠ some (some wantChecked)

section Report

variable {σ : Type} {target : CheckTarget σ} {wantChecked pressAfterIgnoredWrite : Bool}
  {outcome : Outcome AdapterError (List ActionStep)} {events : List CheckEvent}

theorem CheckReport.of_noClick (hwrite : events.countP CheckEvent.isWrite ≤ 1)
    (hclick : ∀ event ∈ events, event.isClick = false)
    (hreached : ∀ steps, outcome = .ok steps → lastObserved events = some (some wantChecked))
    (howned : ∀ error, outcome = .error error → (∃ event ∈ events, event.delivers = true) →
      error.disposition ≠ .notDelivered) :
    CheckReport wantChecked pressAfterIgnoredWrite outcome events where
  reached := hreached
  oneWrite := hwrite
  oneClick := by
    rw [List.countP_eq_zero.mpr (fun event hevent => Bool.eq_false_iff.mp (hclick event hevent))]
    exact Nat.zero_le 1
  allowed := by
    intro event hevent hclicked
    rw [hclick event hevent] at hclicked
    cases hclicked
  unreached := by
    refine List.Pairwise.imp_of_mem ?_ (List.pairwise_of_forall (fun _ _ => trivial))
    intro earlier later _ hlater _ hclicked
    rw [hclick later hlater] at hclicked
    cases hclicked
  owned := howned

theorem CheckReport.of_looks (hbefore : Unclicked wantChecked events) {after : List CheckEvent}
    (hafter : ∀ event ∈ after, event.isClick = false ∧ event.isWrite = false)
    (hreached : ∀ steps, outcome = .ok steps →
      lastObserved (events ++ after) = some (some wantChecked))
    (howned : ∀ error, outcome = .error error →
      (∃ event ∈ events ++ after, event.delivers = true) → error.disposition ≠ .notDelivered) :
    CheckReport wantChecked pressAfterIgnoredWrite outcome (events ++ after) := by
  refine .of_noClick ?_ ?_ hreached howned
  · have hnone : after.countP CheckEvent.isWrite = 0 :=
      List.countP_eq_zero.mpr (fun event hevent => Bool.eq_false_iff.mp (hafter event hevent).2)
    rw [List.countP_append, hnone]
    exact hbefore.oneWrite
  · exact List.forall_mem_append.mpr ⟨hbefore.noClick, fun event hevent => (hafter event hevent).1⟩

theorem lastObserved_append {last : CheckEvent} {state : Option Bool}
    (h : last.observed? = some state) (events : List CheckEvent) :
    lastObserved (events ++ [last]) = some state := by
  unfold lastObserved
  rw [List.filterMap_append, List.filterMap_cons_some h]
  exact List.getLast?_concat

theorem CheckReport.of_click (hbefore : Unclicked wantChecked events)
    (hpress : pressAfterIgnoredWrite = true) {answer : Except AdapterError (List ActionStep)}
    {after : List CheckEvent}
    (hafter : ∀ event ∈ after, event.isClick = false ∧ event.isWrite = false)
    (hreached : ∀ steps, outcome = .ok steps →
      lastObserved (events ++ .clicked answer :: after) = some (some wantChecked))
    (howned : ∀ error, outcome = .error error →
      (∃ event ∈ events ++ .clicked answer :: after, event.delivers = true) →
        error.disposition ≠ .notDelivered) :
    CheckReport wantChecked pressAfterIgnoredWrite outcome (events ++ .clicked answer :: after)
    where
  reached := hreached
  oneWrite := by
    have hnone : after.countP CheckEvent.isWrite = 0 :=
      List.countP_eq_zero.mpr (fun event hevent => Bool.eq_false_iff.mp (hafter event hevent).2)
    rw [List.countP_append, List.countP_cons_of_neg Bool.false_ne_true, hnone]
    exact hbefore.oneWrite
  oneClick := by
    have hnone : after.countP CheckEvent.isClick = 0 :=
      List.countP_eq_zero.mpr (fun event hevent => Bool.eq_false_iff.mp (hafter event hevent).1)
    have hnone' : events.countP CheckEvent.isClick = 0 := List.countP_eq_zero.mpr
      (fun event hevent => Bool.eq_false_iff.mp (hbefore.noClick event hevent))
    rw [List.countP_append, List.countP_cons_of_pos rfl, hnone, hnone']
  allowed := fun _ _ _ => hpress
  unreached := by
    have hnot : ∀ later ∈ after, later.isClick ≠ true :=
      fun later hlater => Bool.eq_false_iff.mp (hafter later hlater).1
    refine List.pairwise_append.mpr ⟨?_, List.pairwise_cons.mpr ⟨?_, ?_⟩, ?_⟩
    · refine List.Pairwise.imp_of_mem ?_ (List.pairwise_of_forall (fun _ _ => trivial))
      exact fun _ hlater _ hclicked =>
        absurd hclicked (Bool.eq_false_iff.mp (hbefore.noClick _ hlater))
    · exact fun later hlater hclicked => absurd hclicked (hnot later hlater)
    · refine List.Pairwise.imp_of_mem ?_ (List.pairwise_of_forall (fun _ _ => trivial))
      exact fun _ hlater _ hclicked => absurd hclicked (hnot _ hlater)
    · exact fun earlier hearlier _ _ _ => hbefore.unreached earlier hearlier
  owned := howned

theorem owned_afterDelivery {error error' : AdapterError} {α : Type}
    (h : (Outcome.error (afterDelivery error) : Outcome AdapterError α) = .error error') :
    error'.disposition ≠ .notDelivered := by
  obtain rfl := Outcome.error.inj h
  exact nofun

/-- **A click, and the look at the state after it.** -/
theorem clickThrough_report (hbefore : Unclicked wantChecked events)
    (hpress : pressAfterIgnoredWrite = true) {wrote : Bool}
    (hwrote : wrote = false → ∀ event ∈ events, event.delivers = false)
    (steps : List ActionStep) :
    (clickThrough target wantChecked wrote steps).Sat (fun outcome after =>
      CheckReport wantChecked pressAfterIgnoredWrite outcome (events ++ after)) := by
  unfold clickThrough askSettled
  refine Prog.sat_mapError_recordedCall_bind (fun clicked => ?_) (fun error => ?_)
  · refine Prog.sat_mapError_recordedCall_bind (fun state => ?_) (fun error => ?_)
    · split_ifs with hstate
      · refine Prog.sat_fail (.of_click hbefore hpress (by simp [CheckEvent.isClick,
          CheckEvent.isWrite]) Outcome.of_error_eq_ok
          (fun _ herror _ => owned_afterDelivery herror))
      · refine Prog.sat_pure (.of_click hbefore hpress (by simp [CheckEvent.isClick,
          CheckEvent.isWrite]) (fun _ _ => ?_) Outcome.of_ok_eq_error)
        rw [← not_not.mp hstate, List.append_cons]
        exact lastObserved_append rfl _
    · exact .of_click hbefore hpress (by simp [CheckEvent.isClick, CheckEvent.isWrite])
        Outcome.of_error_eq_ok
        (fun _ herror _ => owned_afterDelivery herror)
  · refine .of_click hbefore hpress (by simp) Outcome.of_error_eq_ok
      (fun error' herror hdelivered => ?_)
    cases wrote with
    | true => exact owned_afterDelivery herror
    | false =>
      obtain ⟨event, hevent, hdelivers⟩ := hdelivered
      rcases List.mem_append.mp hevent with hearlier | hclick
      · rw [hwrote rfl event hearlier] at hdelivers
        cases hdelivers
      · obtain rfl := List.mem_singleton.mp hclick
        cases hdelivers

/-- **A radio button is not clicked to uncheck it.** -/
theorem refuseUncheck_report (hbefore : Unclicked wantChecked events)
    (hnone : ∀ event ∈ events, event.delivers = false) (writeRefused : Bool) :
    (refuseUncheck target wantChecked writeRefused).Sat (fun outcome after =>
      CheckReport wantChecked pressAfterIgnoredWrite outcome (events ++ after)) := by
  have hread : ∀ {outcome : Outcome AdapterError (List ActionStep)}
      {answer : Except AdapterError (Option Bool)},
      (∀ steps, outcome = .ok steps → answer = .ok (some wantChecked)) →
      CheckReport wantChecked pressAfterIgnoredWrite outcome (events ++ [.checked answer]) := by
    intro outcome answer hok
    refine .of_looks hbefore (List.forall_mem_singleton.mpr ⟨rfl, rfl⟩) (fun steps hsteps => ?_)
      (fun error _ hdelivered => ?_)
    · rw [hok steps hsteps]
      exact lastObserved_append rfl _
    · obtain ⟨event, hevent, hdelivers⟩ := hdelivered
      rcases List.mem_append.mp hevent with hearlier | hchecked
      · rw [hnone event hearlier] at hdelivers
        cases hdelivers
      · obtain rfl := List.mem_singleton.mp hchecked
        cases hdelivers
  unfold refuseUncheck askChecked
  split_ifs with hrefused
  · refine Prog.sat_fail ?_
    rw [List.append_nil]
    refine .of_noClick hbefore.oneWrite hbefore.noClick Outcome.of_error_eq_ok
      (fun error _ hdelivered => ?_)
    obtain ⟨event, hevent, hdelivers⟩ := hdelivered
    rw [hnone event hevent] at hdelivers
    cases hdelivers
  · refine Prog.sat_mapError_recordedCall_bind (fun state => ?_)
      (fun error => hread Outcome.of_error_eq_ok)
    cases state with
    | none => exact Prog.sat_fail (hread Outcome.of_error_eq_ok)
    | some state =>
      dsimp only
      split_ifs with hreached
      · exact Prog.sat_pure (hread (fun _ _ => by rw [hreached]))
      · exact Prog.sat_fail (hread Outcome.of_error_eq_ok)

theorem withoutWrite_report (hbefore : Unclicked wantChecked events)
    (hnone : ∀ event ∈ events, event.delivers = false) (steps : List ActionStep) :
    (withoutWrite target wantChecked pressAfterIgnoredWrite steps).Sat (fun outcome after =>
      CheckReport wantChecked pressAfterIgnoredWrite outcome (events ++ after)) := by
  unfold withoutWrite
  split_ifs with hpress
  · exact refuseUncheck_report hbefore hnone _
  · refine clickThrough_report hbefore ?_ (fun _ => hnone) steps
    rw [Bool.not_eq_true'] at hpress
    exact Bool.eq_true_of_not_eq_false hpress

theorem afterWrite_report (hbefore : Unclicked wantChecked events) :
    (afterWrite target wantChecked pressAfterIgnoredWrite).Sat (fun outcome after =>
      CheckReport wantChecked pressAfterIgnoredWrite outcome (events ++ after)) := by
  have hfailed : ∀ (error : AdapterError) {after : List CheckEvent},
      (∀ event ∈ after, event.isClick = false ∧ event.isWrite = false) →
        CheckReport wantChecked pressAfterIgnoredWrite (.error (afterDelivery error))
          (events ++ after) :=
    fun error after hafter =>
      .of_looks hbefore hafter Outcome.of_error_eq_ok (fun _ herror _ => owned_afterDelivery herror)
  unfold afterWrite askSettled askChecked
  refine Prog.sat_mapError_recordedCall_bind (fun settled => ?_)
    (fun error => hfailed error (List.forall_mem_singleton.mpr ⟨rfl, rfl⟩))
  by_cases hsettled : settled = some wantChecked
  · rw [if_pos hsettled]
    refine Prog.sat_pure (.of_looks hbefore (List.forall_mem_singleton.mpr ⟨rfl, rfl⟩)
      (fun _ _ => ?_) Outcome.of_ok_eq_error)
    rw [hsettled]
    exact lastObserved_append rfl events
  · -- the state did not settle, and is looked at once more
    rw [if_neg hsettled]
    have hlooks : ∀ answer : Except AdapterError (Option Bool),
        ∀ event ∈ [CheckEvent.settled (.ok settled), .checked answer],
          event.isClick = false ∧ event.isWrite = false :=
      fun answer => List.forall_mem_cons.mpr ⟨⟨rfl, rfl⟩, List.forall_mem_singleton.mpr ⟨rfl, rfl⟩⟩
    refine Prog.sat_mapError_recordedCall_bind (fun state => ?_)
      (fun error => hfailed error (hlooks _))
    cases state with
    | none => exact Prog.sat_fail (hfailed _ (hlooks _))
    | some state =>
      dsimp only
      split_ifs with hreached hpress
      · refine Prog.sat_pure (.of_looks hbefore (hlooks _) (fun _ _ => ?_) Outcome.of_ok_eq_error)
        rw [hreached, List.append_cons]
        exact lastObserved_append rfl _
      · have hunclicked : Unclicked wantChecked
            (events ++ [.settled (.ok settled), .checked (.ok (some state))]) := by
          refine ⟨?_, ?_, ?_⟩
          · rw [List.countP_append]
            exact hbefore.oneWrite
          · exact List.forall_mem_append.mpr ⟨hbefore.noClick,
              fun event hevent => (hlooks _ event hevent).1⟩
          · refine List.forall_mem_append.mpr ⟨hbefore.unreached, List.forall_mem_cons.mpr
              ⟨fun h => hsettled (Option.some.inj h), List.forall_mem_singleton.mpr (fun h => ?_)⟩⟩
            exact hreached (Option.some.inj (Option.some.inj h))
        refine (clickThrough_report hunclicked hpress (fun h => Bool.noConfusion h) _).mono
          (fun outcome after h => ?_)
        rw [List.append_assoc] at h
        exact h
      · exact Prog.sat_fail (hfailed _ (hlooks _))

theorem unclicked_of_state {state : Option Bool} (hstate : state ≠ some wantChecked)
    {asked : List CheckEvent}
    (hasked : ∀ event ∈ asked, event.isClick = false ∧ event.observed? = none)
    (hwrite : asked.countP CheckEvent.isWrite ≤ 1) :
    Unclicked wantChecked (.checked (.ok state) :: asked) where
  oneWrite := hwrite
  noClick := List.forall_mem_cons.mpr ⟨rfl, fun event hevent => (hasked event hevent).1⟩
  unreached := by
    refine List.forall_mem_cons.mpr ⟨fun h => hstate (Option.some.inj h), fun event hevent h => ?_⟩
    rw [(hasked event hevent).2] at h
    cases h

/-- **A run reports what it saw and did**, whatever the control answers. -/
theorem runCheck_reported : (runCheck target wantChecked pressAfterIgnoredWrite).Sat
    (CheckReport wantChecked pressAfterIgnoredWrite) := by
  have hfailed : ∀ (error : AdapterError) {events : List CheckEvent},
      events.countP CheckEvent.isWrite ≤ 1 →
      (∀ event ∈ events, event.isClick = false ∧ event.delivers = false) →
        CheckReport wantChecked pressAfterIgnoredWrite (.error error) events := by
    intro error events hwrite hevents
    refine .of_noClick hwrite (fun event hevent => (hevents event hevent).1)
      Outcome.of_error_eq_ok ?_
    rintro _ _ ⟨event, hevent, hdelivers⟩
    rw [(hevents event hevent).2] at hdelivers
    cases hdelivers
  unfold runCheck askChecked
  refine Prog.sat_recordedCall_bind (fun state => ?_)
    (fun error => hfailed error (Nat.zero_le 1) (List.forall_mem_singleton.mpr ⟨rfl, rfl⟩))
  by_cases hreached : state = some wantChecked
  · rw [if_pos hreached]
    refine Prog.sat_pure (.of_noClick (Nat.zero_le 1) (List.forall_mem_singleton.mpr rfl)
      (fun _ _ => ?_) Outcome.of_ok_eq_error)
    rw [hreached]
    rfl
  · rw [if_neg hreached]
    refine Prog.sat_recordedCall_bind (fun settable => ?_) (fun error => hfailed error
      (Nat.zero_le 1) (List.forall_mem_cons.mpr ⟨⟨rfl, rfl⟩, List.forall_mem_singleton.mpr
        ⟨rfl, rfl⟩⟩))
    cases settable with
    | false =>
      have hbefore : Unclicked wantChecked [.checked (.ok state), .settable (.ok false)] :=
        unclicked_of_state hreached (List.forall_mem_singleton.mpr ⟨rfl, rfl⟩) (Nat.zero_le 1)
      refine withoutWrite_report hbefore ?_ _
      exact List.forall_mem_cons.mpr ⟨rfl, List.forall_mem_singleton.mpr rfl⟩
    | true =>
      refine Prog.sat_recordedCall_bind (fun accepted => ?_) (fun error => hfailed error (le_refl 1)
        (List.forall_mem_cons.mpr ⟨⟨rfl, rfl⟩, List.forall_mem_cons.mpr ⟨⟨rfl, rfl⟩,
          List.forall_mem_singleton.mpr ⟨rfl, rfl⟩⟩⟩))
      have hbefore : Unclicked wantChecked
          [.checked (.ok state), .settable (.ok true), .wrote (.ok accepted)] :=
        unclicked_of_state hreached (List.forall_mem_cons.mpr ⟨⟨rfl, rfl⟩,
          List.forall_mem_singleton.mpr ⟨rfl, rfl⟩⟩) (le_refl 1)
      cases accepted with
      | true => exact afterWrite_report hbefore
      | false =>
        refine withoutWrite_report hbefore ?_ _
        exact List.forall_mem_cons.mpr ⟨rfl, List.forall_mem_cons.mpr ⟨rfl,
          List.forall_mem_singleton.mpr rfl⟩⟩

end Report

/-- **Checking reaches the requested state without flapping.** Whatever a control answers, a run
succeeds only if the requested state is the last it observed, writes and clicks at most once, does
not click after the requested state was observed or when clicking is not allowed, and owns up to
what it delivered; and clicking is not allowed where a radio button is unchecked. -/
theorem runCheck_reports {σ : Type} (target : CheckTarget σ) :
    (∀ wantChecked pressAfterIgnoredWrite, (runCheck target wantChecked pressAfterIgnoredWrite).Sat
        (CheckReport wantChecked pressAfterIgnoredWrite))
      ∧ ∀ (readRole : σ → Except AdapterError (Option String) × σ) (s : σ) (role : String),
        (readRole s).1 = .ok (some role) → Role.fromToken role = .radioButton →
          ∀ event ∈ (checkUncheck target false readRole).events s, event.isClick = false := by
  refine ⟨fun _ _ => runCheck_reported, fun readRole s role hrole hradio event hevent => ?_⟩
  have htoggleable : isToggleableRole role = true := by
    unfold isToggleableRole
    rw [hradio]
  have hrun : (checkUncheck target false readRole).events s
      = (runCheck target false false).events (readRole s).2 := by
    have hread : (Prog.call readRole : Checking σ (Option String)) s
        = (.ok (some role), (readRole s).2, []) := by
      unfold Prog.call
      rw [Prog.ask_bind_apply, hrole]
      rfl
    have hpress : (false || Role.radioButton != Role.radioButton) = false := by decide
    unfold checkUncheck Prog.events
    rw [Prog.bind_apply_of_ok _ hread, Option.map_some, Option.getD_some, Option.getD_some,
      htoggleable, hradio, hpress, if_neg (by decide)]
  rw [hrun] at hevent
  refine Bool.eq_false_iff.mpr (fun hclick => ?_)
  exact nomatch (runCheck_reported (readRole s).2).allowed event hevent hclick

/-- A radio button that stays checked. -/
def checkedRadio : CheckTarget Unit where
  checked _ := (.ok (some true), ())
  valueSettable _ := (.ok false, ())
  writeValue _ _ := (.ok false, ())
  settle _ _ := (.ok (some true), ())
  click _ := (.ok [], ())

/-- A radio button is not clicked to uncheck it. -/
theorem runCheck_reports_sample :
    ∀ event ∈ (checkUncheck checkedRadio false
        (fun s => (.ok (some "radiobutton"), s))).events (), event.isClick = false :=
  (runCheck_reports checkedRadio).2 (fun s => (.ok (some "radiobutton"), s)) () "radiobutton" rfl
    (by decide)

end ToggleState

end AgentDesktop
