import AgentDesktop.Chain

/-!
# A chain stops at its first effect

Every step of a chain is executed at most once, and its answer is recorded here
beside what the chain itself records. A chain that does not go on after an
unverified delivery executes a step only when nothing has come of those before
it; and the result that is made of its record says that nothing was delivered
exactly when nothing was, and that the delivery was verified only when all of it
was.
-/

namespace AgentDesktop

/-- **A step that was executed**, with what it answered. -/
structure StepExecution (F : Type) where
  step : ChainStep F
  answer : Except AdapterError DeliveryOutcome

namespace StepExecution

variable {F : Type}

/-- Nothing came of it: it was not delivered, or delivered without an effect. -/
def Inert (execution : StepExecution F) : Prop :=
  execution.answer = .ok .notDelivered ∨ execution.answer = .ok .deliveredWithoutEffect

/-- It was delivered. -/
def Delivered (execution : StepExecution F) : Prop :=
  ∃ outcome, execution.answer = .ok outcome ∧ outcome.wasDelivered = true

/-- It was verified. -/
def Verified (execution : StepExecution F) : Prop :=
  ∃ outcome, execution.answer = .ok outcome ∧ outcome.wasVerified = true

/-- What the chain records of it. -/
def record? (execution : StepExecution F) : Option ActionStep :=
  match execution.answer with
  | .ok outcome => some (buildStep execution.step outcome)
  | .error _ => none

/-- The record of the steps that were executed. -/
def record (executions : List (StepExecution F)) : List ActionStep :=
  executions.filterMap record?

theorem exists_succeeded_iff (executions : List (StepExecution F)) :
    (∃ step ∈ record executions, step.outcome = .succeeded)
      ↔ ∃ execution ∈ executions, execution.Delivered := by
  constructor
  · rintro ⟨step, hstep, hsucceeded⟩
    obtain ⟨⟨chainStep, answer⟩, hmem, hrecord⟩ := List.mem_filterMap.mp hstep
    refine ⟨_, hmem, ?_⟩
    cases answer with
    | ok outcome =>
      obtain rfl := Option.some.inj hrecord
      exact ⟨outcome, rfl, (outcome_buildStep_eq_succeeded_iff _ _).mp hsucceeded⟩
    | error error => exact absurd hrecord (by simp [record?])
  · rintro ⟨⟨chainStep, answer⟩, hmem, outcome, rfl, hdelivered⟩
    exact ⟨buildStep chainStep outcome, List.mem_filterMap.mpr ⟨_, hmem, rfl⟩,
      (outcome_buildStep_eq_succeeded_iff _ _).mpr hdelivered⟩

theorem forall_verified_iff (executions : List (StepExecution F)) :
    (∀ step ∈ record executions, step.outcome = .succeeded → step.verified = some true)
      ↔ ∀ execution ∈ executions, execution.Delivered → execution.Verified := by
  constructor
  · rintro h ⟨chainStep, answer⟩ hmem ⟨outcome, rfl, hdelivered⟩
    have hverified := h (buildStep chainStep outcome) (List.mem_filterMap.mpr ⟨_, hmem, rfl⟩)
      ((outcome_buildStep_eq_succeeded_iff _ _).mpr hdelivered)
    rw [verified_buildStep _ hdelivered] at hverified
    exact ⟨outcome, rfl, Option.some.inj hverified⟩
  · intro h step hstep hsucceeded
    obtain ⟨⟨chainStep, answer⟩, hmem, hrecord⟩ := List.mem_filterMap.mp hstep
    cases answer with
    | ok outcome =>
      obtain rfl := Option.some.inj hrecord
      have hdelivered := (outcome_buildStep_eq_succeeded_iff _ _).mp hsucceeded
      obtain ⟨_, heq, hverified⟩ := h _ hmem ⟨outcome, rfl, hdelivered⟩
      obtain rfl := Except.ok.inj heq
      rw [verified_buildStep _ hdelivered, hverified]
    | error error => exact absurd hrecord (by simp [record?])

end StepExecution

/-! ## The summary of a record -/

namespace ActionResult

/-- Every success on record says whether it was verified. -/
def Judged (steps : List ActionStep) : Prop :=
  ∀ step ∈ steps, step.outcome = .succeeded → step.verified.isSome = true

/-- **The summary, from any start**: something was delivered before or is on record, and all that
was is verified. The induction is on the record; the start is the summary of what was before. -/
theorem foldl_summaryStep {steps : List ActionStep} (hjudged : Judged steps)
    (delivered : Bool) (verification : Option Bool) (hstart : delivered = verification.isSome) :
    ((steps.foldl summaryStep (delivered, verification)).1 = true
        ↔ delivered = true ∨ ∃ step ∈ steps, step.outcome = .succeeded)
      ∧ (steps.foldl summaryStep (delivered, verification)).1
        = (steps.foldl summaryStep (delivered, verification)).2.isSome
      ∧ ((steps.foldl summaryStep (delivered, verification)).2.getD true = true
        ↔ verification.getD true = true
          ∧ ∀ step ∈ steps, step.outcome = .succeeded → step.verified = some true) := by
  induction steps generalizing delivered verification with
  | nil => simp [hstart]
  | cons step rest ih =>
    have hrest : Judged rest := fun s hs => hjudged s (List.mem_cons_of_mem _ hs)
    rw [List.foldl_cons]
    by_cases hsucceeded : step.outcome = .succeeded
    · obtain ⟨verified, hverified⟩ :=
        Option.isSome_iff_exists.mp (hjudged step List.mem_cons_self hsucceeded)
      have hstep : summaryStep (delivered, verification) step
          = (true, some (verification.getD true && verified)) := by
        unfold summaryStep
        rw [if_pos hsucceeded, hverified]
      obtain ⟨hdelivered, hsome, hall⟩ :=
        ih hrest true (some (verification.getD true && verified)) rfl
      rw [hstep]
      refine ⟨hdelivered.trans (by simp [hsucceeded]), hsome, hall.trans ?_⟩
      simp [hsucceeded, hverified, and_assoc]
    · have hstep : summaryStep (delivered, verification) step = (delivered, verification) := by
        unfold summaryStep
        rw [if_neg hsucceeded]
      obtain ⟨hdelivered, hsome, hall⟩ := ih hrest delivered verification hstart
      rw [hstep]
      exact ⟨hdelivered.trans (by simp [hsucceeded]), hsome, hall.trans (by simp [hsucceeded])⟩

/-- **What the summary of a record says**: whether something was delivered, and whether, then, all
of it was verified. -/
theorem deliverySummary_spec {steps : List ActionStep} (hjudged : Judged steps) :
    ((deliverySummary steps).1 = true ↔ ∃ step ∈ steps, step.outcome = .succeeded)
      ∧ ((deliverySummary steps).2 = true ↔ (∃ step ∈ steps, step.outcome = .succeeded)
        ∧ ∀ step ∈ steps, step.outcome = .succeeded → step.verified = some true) := by
  obtain ⟨hdelivered, hsome, hall⟩ := foldl_summaryStep hjudged false none rfl
  have hfirst : (deliverySummary steps).1 = true ↔ ∃ step ∈ steps, step.outcome = .succeeded :=
    hdelivered.trans (by simp)
  have hall' : (steps.foldl summaryStep (false, none)).2.getD true = true
      ↔ ∀ step ∈ steps, step.outcome = .succeeded → step.verified = some true :=
    hall.trans (by simp)
  refine ⟨hfirst, ?_⟩
  rw [← hfirst, ← hall']
  show (steps.foldl summaryStep (false, none)).2.getD false = true
    ↔ (steps.foldl summaryStep (false, none)).1 = true ∧ _
  rw [hsome]
  cases (steps.foldl summaryStep (false, none)).2 <;> simp

theorem steps_fromExecution (action : Action) (steps : List ActionStep) :
    (fromExecution action steps).steps = steps := by
  unfold fromExecution
  obtain ⟨delivered, verified⟩ := deliverySummary steps
  cases delivered <;> cases verified <;> cases action.writesElementValue <;> rfl

theorem disposition_fromExecution (action : Action) (steps : List ActionStep) :
    (fromExecution action steps).disposition
      = if (deliverySummary steps).1 then
          if (deliverySummary steps).2 then .deliveredVerified else .deliveredUnverified
        else .notDelivered := by
  unfold fromExecution
  obtain ⟨delivered, verified⟩ := deliverySummary steps
  cases delivered <;> cases verified <;> cases action.writesElementValue <;> rfl

end ActionResult

theorem StepExecution.judged_record {F : Type} (executions : List (StepExecution F)) :
    ActionResult.Judged (StepExecution.record executions) := by
  intro step hstep hsucceeded
  obtain ⟨⟨chainStep, answer⟩, -, hrecord⟩ := List.mem_filterMap.mp hstep
  cases answer with
  | ok outcome =>
    obtain rfl := Option.some.inj hrecord
    rw [verified_buildStep _ ((outcome_buildStep_eq_succeeded_iff _ _).mp hsucceeded)]
    rfl
  | error error => exact absurd hrecord (by simp [StepExecution.record?])

theorem disposition_fromExecution_record_eq_notDelivered {F : Type} (action : Action)
    (executions : List (StepExecution F)) :
    (ActionResult.fromExecution action (StepExecution.record executions)).disposition = .notDelivered
      ↔ ∀ execution ∈ executions, ¬execution.Delivered := by
  obtain ⟨hdelivered, -⟩ :=
    ActionResult.deliverySummary_spec (StepExecution.judged_record executions)
  rw [StepExecution.exists_succeeded_iff] at hdelivered
  rw [ActionResult.disposition_fromExecution]
  have hnone : (∀ execution ∈ executions, ¬execution.Delivered)
      ↔ (ActionResult.deliverySummary (StepExecution.record executions)).1 ≠ true := by
    rw [Ne, hdelivered]
    simp
  rw [hnone]
  split_ifs with h hverified <;> simp [h]

/-- **The result of a chain says that the delivery was verified exactly when something was
delivered, and all of it was verified.** -/
theorem disposition_fromExecution_record_eq_deliveredVerified {F : Type} (action : Action)
    (executions : List (StepExecution F)) :
    (ActionResult.fromExecution action (StepExecution.record executions)).disposition
        = .deliveredVerified
      ↔ (∃ execution ∈ executions, execution.Delivered)
        ∧ ∀ execution ∈ executions, execution.Delivered → execution.Verified := by
  obtain ⟨hdelivered, hverified⟩ :=
    ActionResult.deliverySummary_spec (StepExecution.judged_record executions)
  rw [StepExecution.exists_succeeded_iff] at hdelivered hverified
  rw [StepExecution.forall_verified_iff] at hverified
  rw [ActionResult.disposition_fromExecution, ← hverified]
  split_ifs with h hv
  · simp [hv]
  · simp [hv]
  · have hnot : (ActionResult.deliverySummary (StepExecution.record executions)).2 ≠ true :=
      fun hv => h (hdelivered.mpr (hverified.mp hv).1)
    simp [hnot]

/-! ## The run -/

section Run

variable {σ E F : Type} (world : ChainWorld σ E)
  (execute : ChainStep F → σ → Except AdapterError DeliveryOutcome × σ)

/-- **Every execution before another one was inert.** -/
def StopsAtFirstEffect (executions : List (StepExecution F)) : Prop :=
  ∀ before execution after, executions = before ++ execution :: after →
    ∀ earlier ∈ before, earlier.Inert

theorem StopsAtFirstEffect.cons {execution : StepExecution F} {executions : List (StepExecution F)}
    (hinert : execution.Inert) (h : StopsAtFirstEffect executions) :
    StopsAtFirstEffect (execution :: executions) := by
  intro before next after hsplit earlier hearlier
  cases before with
  | nil => exact absurd hearlier List.not_mem_nil
  | cons head tail =>
    obtain ⟨rfl, hrest⟩ := List.cons.inj hsplit
    rcases List.mem_cons.mp hearlier with rfl | hearlier
    · exact hinert
    · exact h tail next after hrest earlier hearlier

theorem stopsAtFirstEffect_singleton (execution : StepExecution F) :
    StopsAtFirstEffect [execution] := by
  intro before next after hsplit earlier hearlier
  cases before with
  | nil => exact absurd hearlier List.not_mem_nil
  | cons head tail => exact absurd (List.cons.inj hsplit).2 (by simp)

theorem stopsAtFirstEffect_nil : StopsAtFirstEffect ([] : List (StepExecution F)) :=
  fun _ _ _ hsplit => absurd hsplit (by simp)

/-- What the run of a chain keeps: nothing comes after an effect, physical steps need the policy,
and what it returns is the record of what was executed, after the record it began with. -/
structure RunsTruthfully (policy : InteractionPolicy) (steps : List ActionStep)
    (o : Outcome AdapterError (List ActionStep)) (executions : List (StepExecution F)) : Prop where
  /-- Nothing is executed after an effect. -/
  stops : StopsAtFirstEffect executions
  /-- Physical steps are executed under a headed policy only. -/
  allowed : ∀ execution ∈ executions, stepMechanism execution.step = .physicalSynthetic →
    policy.isHeaded = true
  /-- The record is complete. -/
  recorded : ∀ recorded, o = .ok recorded → recorded = steps ++ StepExecution.record executions

/-- The steps of a chain are executed by the environment. -/
def executeRecorded (step : ChainStep F) :
    Prog σ (StepExecution F) AdapterError DeliveryOutcome :=
  Prog.recordedCall (StepExecution.mk step) (execute step)

theorem mapError_executeRecorded_sat (g : AdapterError → AdapterError) (step : ChainStep F) :
    ((executeRecorded execute step).mapError g).Sat (fun o executions =>
      match o with
      | .ok outcome => executions = [⟨step, .ok outcome⟩]
      | .error _ => ∃ error, executions = [⟨step, .error error⟩]
      | .running => False) := by
  refine Prog.Sat.mapError ((Prog.recordedCall_sat (StepExecution.mk step) (execute step)).mono ?_)
  intro o executions h
  cases o with
  | ok outcome => exact h
  | error error => exact ⟨error, h⟩
  | running => exact h

theorem RunsTruthfully.fail (policy : InteractionPolicy) (steps : List ActionStep)
    (error : AdapterError) :
    RunsTruthfully policy steps (.error error) ([] : List (StepExecution F)) where
  stops := stopsAtFirstEffect_nil
  allowed := fun _ hmem => absurd hmem List.not_mem_nil
  recorded := fun _ h => by cases h

/-- **The loop runs truthfully**, by induction on the steps that are left. -/
theorem runSteps_runsTruthfully {chain : ChainDef F}
    (hchain : chain.continueAfterUnverifiedDelivery = false) (ctx : ChainContext)
    (policy : InteractionPolicy) (steps : List ActionStep) (rest : List (ChainStep F)) :
    (runSteps world (executeRecorded execute) chain ctx policy steps rest).Sat
      (RunsTruthfully policy steps) := by
  induction rest generalizing steps with
  | nil => exact Prog.sat_fail (RunsTruthfully.fail policy steps _)
  | cons step rest ih =>
    unfold runSteps
    refine Prog.sat_ask_bind (fun now => ?_)
    refine Prog.sat_ofExcept_bind (fun _ _ => ?_)
      (fun error _ => RunsTruthfully.fail policy steps error)
    cases hallowed : stepAllowed step policy with
    | false => exact ih steps
    | true =>
      have hphysical (execution : StepExecution F) (hstep : execution.step = step)
          (h : stepMechanism execution.step = .physicalSynthetic) : policy.isHeaded = true :=
        isHeaded_of_stepAllowed (hstep ▸ h) hallowed
      refine (mapError_executeRecorded_sat execute (afterSteps steps) step).bind ?_ ?_
        (fun _ h => h.elim)
      · rintro outcome _ rfl
        show (if (recordStepOutcome steps step outcome _).2 then _ else _ : Prog _ _ _ _).Sat _
        unfold recordStepOutcome
        rw [hchain, Bool.false_and, Bool.not_false, Bool.and_true]
        cases hends : outcome.terminatesChain with
        | true =>
          refine Prog.sat_pure ⟨stopsAtFirstEffect_singleton _, ?_, ?_⟩
          · intro execution hmem
            obtain rfl := List.mem_singleton.mp hmem
            exact hphysical _ rfl
          · intro recorded hrecorded
            exact (Outcome.ok.inj hrecorded).symm
        | false =>
          refine (ih (steps ++ [buildStep step outcome])).mono (fun o executions h => ?_)
          have hinert : StepExecution.Inert ⟨step, .ok outcome⟩ :=
            (DeliveryOutcome.terminatesChain_eq_false_iff.mp hends).imp
              (congrArg Except.ok) (congrArg Except.ok)
          refine ⟨h.stops.cons hinert, ?_, ?_⟩
          · intro execution hmem
            rcases List.mem_cons.mp hmem with rfl | hmem
            · exact hphysical _ rfl
            · exact h.allowed execution hmem
          · intro recorded hrecorded
            rw [h.recorded recorded hrecorded, List.append_assoc]
            rfl
      · rintro error _ ⟨cause, rfl⟩
        refine ⟨stopsAtFirstEffect_singleton _, ?_, fun _ h => by cases h⟩
        intro execution hmem
        obtain rfl := List.mem_singleton.mp hmem
        exact hphysical _ rfl

theorem executeChain_runsTruthfully {chain : ChainDef F}
    (hchain : chain.continueAfterUnverifiedDelivery = false) (el : E) (ctx : ChainContext)
    (policy : InteractionPolicy) :
    (executeChain world (executeRecorded execute) el chain ctx policy).Sat
      (RunsTruthfully policy []) := by
  have hrunning : RunsTruthfully policy [] .running ([] : List (StepExecution F)) :=
    { RunsTruthfully.fail policy [] (AdapterError.internal "") with
      recorded := fun _ h => by cases h }
  unfold executeChain
  refine Prog.sat_ask_bind (fun pid => ?_)
  have hpid : (pid.elim (pure ()) (fun pid =>
      Prog.call (world.setMessagingTimeout (world.elementForPid pid) ctx.deadline)) :
      Prog σ (StepExecution F) AdapterError Unit).Quiet := by
    cases pid with
    | none => exact Prog.Quiet.pure ()
    | some pid => exact Prog.Quiet.call _
  refine hpid.bind_sat (fun _ => ?_) (RunsTruthfully.fail policy []) hrunning
  refine (Prog.Quiet.call _).bind_sat (fun _ => ?_) (RunsTruthfully.fail policy []) hrunning
  exact runSteps_runsTruthfully world execute hchain ctx policy [] chain.steps

/-- **A chain stops at its first effect and reports it truthfully.** Whatever the steps answer, and
under every policy: a step is executed only when all those before it answered that they were not
delivered, or delivered without an effect; physical steps are executed under a headed policy only;
and the result made of the record carries what was executed, says that nothing was delivered
exactly when nothing was, and that the delivery was verified exactly when something was delivered
and all of it was verified. -/
theorem executeChain_reports_first_effect {chain : ChainDef F}
    (hchain : chain.continueAfterUnverifiedDelivery = false) (el : E) (ctx : ChainContext)
    (policy : InteractionPolicy) (action : Action) :
    (executeChain world (executeRecorded execute) el chain ctx policy).Sat
      (fun o executions =>
        StopsAtFirstEffect executions
        ∧ (∀ execution ∈ executions, stepMechanism execution.step = .physicalSynthetic →
            policy.isHeaded = true)
        ∧ ∀ recorded, o = .ok recorded →
          recorded = StepExecution.record executions
          ∧ (ActionResult.fromExecution action recorded).steps = recorded
          ∧ ((ActionResult.fromExecution action recorded).disposition = .notDelivered
              ↔ ∀ execution ∈ executions, ¬execution.Delivered)
          ∧ ((ActionResult.fromExecution action recorded).disposition = .deliveredVerified
              ↔ (∃ execution ∈ executions, execution.Delivered)
                ∧ ∀ execution ∈ executions, execution.Delivered → execution.Verified)) := by
  refine (executeChain_runsTruthfully world execute hchain el ctx policy).mono
    (fun o executions h => ⟨h.stops, h.allowed, fun recorded hrecorded => ?_⟩)
  obtain rfl : recorded = StepExecution.record executions := h.recorded recorded hrecorded
  exact ⟨rfl, ActionResult.steps_fromExecution action _,
    disposition_fromExecution_record_eq_notDelivered action executions,
    disposition_fromExecution_record_eq_deliveredVerified action executions⟩

end Run

namespace Sample

/-- Steps known by their names. -/
def stepNames : StepFunctions String :=
  ⟨"press", "descendant", "container", "menu", "select-menu", "items-menu", "child-menu",
    "ancestor-menu", "expand", "collapse"⟩

/-- The clock stands still, and nothing has to be prepared. -/
def scriptedWorld : ChainWorld (List DeliveryOutcome) Unit where
  clock answers := (0, answers)
  pidFromElement _ _ answers := (none, answers)
  elementForPid _ := ()
  setMessagingTimeout _ _ answers := (.ok (), answers)

/-- The steps answer what was written down for them. -/
def scriptedStep (_ : ChainStep String) (answers : List DeliveryOutcome) :
    Except AdapterError DeliveryOutcome × List DeliveryOutcome :=
  (.ok (answers.headD .notDelivered), answers.tail)

/-- A second is left. -/
def scriptedContext : ChainContext := ⟨none, none, ⟨0, 1000000000, 1000, false⟩⟩

/-- A click by the semantic actions, on its own. -/
def scriptedClick : Prog (List DeliveryOutcome) (StepExecution String) AdapterError (List ActionStep) :=
  executeChain scriptedWorld (executeRecorded scriptedStep) () stepNames.clickChain
    scriptedContext .headless

end Sample

/-- A press that selected nothing is followed by the next step of the click, which is the last one
executed; and the result is not verified, because the press was not. -/
theorem executeChain_reports_first_effect_scripted :
    (Sample.scriptedClick.events [.deliveredWithoutEffect, .deliveredVerified]).length = 2
      ∧ StopsAtFirstEffect
        (Sample.scriptedClick.events [.deliveredWithoutEffect, .deliveredVerified])
      ∧ ∀ recorded,
        Sample.scriptedClick.outcome [.deliveredWithoutEffect, .deliveredVerified] = .ok recorded →
          (ActionResult.fromExecution .click recorded).steps = recorded := by
  have hstops : Sample.stepNames.clickChain.continueAfterUnverifiedDelivery = false := rfl
  have h := executeChain_reports_first_effect Sample.scriptedWorld Sample.scriptedStep
    hstops () Sample.scriptedContext .headless .click
    [.deliveredWithoutEffect, .deliveredVerified]
  exact ⟨rfl, h.1, fun recorded hrecorded => (h.2.2 recorded hrecorded).2.1⟩

end AgentDesktop
