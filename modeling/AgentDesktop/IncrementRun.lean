import AgentDesktop.IncrementValue
import AgentDesktop.Util.Bracket

/-!
# What stepping reports

Whatever a control answers, it is stepped at most 1024 times, always in one direction, and the
values that were read so far lead strictly towards the target and not beyond it: the next step is
made only then. A run that says that the target was reached read a value that matches it, last of
all; and a run that fails after a step that was delivered does not deny it.
-/

namespace AgentDesktop

namespace Increment

variable {σ E : Type}

/-- The text that was read. -/
def text? : NumberRead → Option String
  | .ok (some number) => some number.2
  | .ok none | .error _ => none

/-- The texts that were read. -/
def texts (events : List (SteppingEvent σ E)) : List String :=
  (AXEvent.notes events).filterMap text?

/-- **What was read leads to the target.** Every read gave a number, there was one before the first
step and one after each, the action is that from the last one to the target, and it leads nearer
from each to the next, and from the last to the target. -/
structure Approaching (requested action : String) (events : List (SteppingEvent σ E)) : Prop where
  /-- Every read gave a number. -/
  numbers : ∀ read ∈ AXEvent.notes events, (text? read).isSome = true
  /-- There is one read more than there are calls. -/
  count : (AXEvent.notes events).length = (AXEvent.calls events).length + 1
  /-- The action is judged by the last read. -/
  judged : ∃ text, (texts events).getLast? = some text
    ∧ incrementAction text requested = some action
  /-- The values are in a strict order, with the target at the end. -/
  toward : (texts events ++ [requested]).Pairwise (Nearer action)

/-- **What a run reports**, of the calls it made and the values it read. -/
structure IncrementReport (element : E) (requested : String)
    (outcome : Outcome AdapterError DeliveryOutcome) (events : List (SteppingEvent σ E)) :
    Prop where
  /-- Only actions are performed, on the one element. -/
  actions : ∀ call ∈ AXEvent.calls events, call.element = element ∧ call.api = .performAction
  /-- There is a limit of steps. -/
  limit : (AXEvent.calls events).length ≤ maxIncrementSteps
  /-- Each step leads to the target, as the ones before did. -/
  approaches : ∀ before call state after, events = before ++ .mutation call state :: after →
    Approaching requested call.operation before
  /-- A value that is verified was read last. -/
  verified : outcome = .ok .deliveredVerified ∨ outcome = .ok .satisfiedNoDelivery →
    ∃ number, (AXEvent.notes events).getLast? = some (.ok (some number))
      ∧ valueMatches "incrementor" requested (some number.2) = true
  /-- An error after a step that was delivered does not deny it. -/
  owned : ∀ error, outcome = .error error →
    (∃ call ∈ AXEvent.calls events, call.standing = .delivered) →
      error.disposition ≠ .notDelivered

/-! ## What was done so far -/

/-- **What is known when a value was read**: the steps so far led to it, and they are counted. -/
structure Stepped (element : E) (requested : String) (current : ℚ) (text : String)
    (delivery : DeliveryTracker) (steps : ℕ) (events : List (SteppingEvent σ E)) : Prop where
  /-- Only actions were performed, on the one element. -/
  actions : ∀ call ∈ AXEvent.calls events, call.element = element ∧ call.api = .performAction
  /-- Each step led to the target. -/
  approaches : ∀ before call state after, events = before ++ .mutation call state :: after →
    Approaching requested call.operation before
  /-- Every read gave a number. -/
  numbers : ∀ read ∈ AXEvent.notes events, (text? read).isSome = true
  /-- There is one read more than there are steps. -/
  count : (AXEvent.notes events).length = (AXEvent.calls events).length + 1
  /-- The value is the last that was read. -/
  last : (AXEvent.notes events).getLast? = some (.ok (some (current, text)))
  /-- The values are in a strict order, unless the target was reached. -/
  toward : incrementTargetReached text requested = false →
    ∀ action, incrementAction text requested = some action →
      (texts events ++ [requested]).Pairwise (Nearer action)
  /-- The steps are counted. -/
  units : delivery.deliveredUnits = (AXEvent.calls events).length
  /-- The steps that are left and those that were made are the limit. -/
  left : (AXEvent.calls events).length + steps = maxIncrementSteps

variable {element : E} {requested : String} {current : ℚ} {text : String}
  {delivery : DeliveryTracker} {steps : ℕ} {front : List (SteppingEvent σ E)}

theorem texts_append (events later : List (SteppingEvent σ E)) :
    texts (events ++ later) = texts events ++ texts later := by
  unfold texts
  rw [AXEvent.notes_append, List.filterMap_append]

theorem IncrementReport.of_no_call {outcome : Outcome AdapterError DeliveryOutcome}
    {events : List (SteppingEvent σ E)} (hcalls : AXEvent.calls events = [])
    (hverified : outcome ≠ .ok .deliveredVerified ∧ outcome ≠ .ok .satisfiedNoDelivery) :
    IncrementReport element requested outcome events where
  actions := by
    rw [hcalls]
    exact fun _ hmem => absurd hmem List.not_mem_nil
  limit := by
    rw [hcalls]
    exact Nat.zero_le _
  approaches := by
    intro before call state after h
    have hmem := AXEvent.mem_calls h
    rw [hcalls] at hmem
    exact absurd hmem List.not_mem_nil
  verified := fun hok => by
    rcases hok with hok | hok
    · exact absurd hok hverified.1
    · exact absurd hok hverified.2
  owned := by
    rintro _ _ ⟨call, hmem, -⟩
    rw [hcalls] at hmem
    exact absurd hmem List.not_mem_nil

theorem error_not_verified {error : AdapterError} :
    (.error error : Outcome AdapterError DeliveryOutcome) ≠ .ok .deliveredVerified
      ∧ (.error error : Outcome AdapterError DeliveryOutcome) ≠ .ok .satisfiedNoDelivery :=
  ⟨fun h => (by cases h), fun h => (by cases h)⟩

theorem running_not_verified :
    (.running : Outcome AdapterError DeliveryOutcome) ≠ .ok .deliveredVerified
      ∧ (.running : Outcome AdapterError DeliveryOutcome) ≠ .ok .satisfiedNoDelivery :=
  ⟨fun h => (by cases h), fun h => (by cases h)⟩

namespace Stepped

theorem first (element : E) : Stepped element requested current text .empty maxIncrementSteps
    ([.noted (.ok (some (current, text)))] : List (SteppingEvent σ E)) where
  actions := fun _ hmem => absurd hmem List.not_mem_nil
  approaches := by
    intro before call state after h
    exact absurd (AXEvent.mem_calls h) List.not_mem_nil
  numbers := List.forall_mem_singleton.mpr rfl
  count := rfl
  last := rfl
  toward := fun _ action haction => List.pairwise_pair.mpr (incrementAction_nearer haction)
  units := rfl
  left := Nat.zero_add _

theorem exists_texts_eq (h : Stepped element requested current text delivery steps front) :
    ∃ earlier, texts front = earlier ++ [text] := by
  obtain ⟨earlier, hnotes⟩ := List.getLast?_eq_some_iff.mp h.last
  refine ⟨earlier.filterMap text?, ?_⟩
  unfold texts
  rw [hnotes, List.filterMap_append]
  rfl

/-- **A run that ends here**, or after something that calls nothing and reads nothing more. -/
theorem report (h : Stepped element requested current text delivery steps front)
    {outcome : Outcome AdapterError DeliveryOutcome}
    (hverified : outcome = .ok .deliveredVerified ∨ outcome = .ok .satisfiedNoDelivery →
      incrementTargetReached text requested = true)
    (howned : 0 < delivery.deliveredUnits → ∀ error, outcome = .error error →
      error.disposition ≠ .notDelivered) :
    IncrementReport element requested outcome front where
  actions := h.actions
  limit := by
    rw [← h.left]
    exact Nat.le_add_right _ _
  approaches := h.approaches
  verified := fun hok => ⟨(current, text), h.last, hverified hok⟩
  owned := by
    rintro error herror ⟨call, hcall, -⟩
    refine howned ?_ error herror
    rw [h.units]
    exact List.length_pos_of_mem hcall

theorem approaching (h : Stepped element requested current text delivery steps front)
    (hreached : incrementTargetReached text requested = false) {action : String}
    (haction : incrementAction text requested = some action) :
    Approaching requested action front where
  numbers := h.numbers
  count := h.count
  judged := by
    obtain ⟨earlier, hearlier⟩ := h.exists_texts_eq
    exact ⟨text, by rw [hearlier, List.getLast?_concat], haction⟩
  toward := h.toward hreached action haction

section Call

variable {call : AXCall E} {state : σ} {later : List (SteppingEvent σ E)}

theorem calls_call (hlater : AXEvent.calls later = []) :
    AXEvent.calls (front ++ .mutation call state :: later) = AXEvent.calls front ++ [call] := by
  rw [AXEvent.calls_append, AXEvent.calls_mutation_cons, hlater]

theorem actions_call (h : Stepped element requested current text delivery steps front)
    (hcall : call.element = element ∧ call.api = .performAction)
    (hlater : AXEvent.calls later = []) :
    ∀ call' ∈ AXEvent.calls (front ++ .mutation call state :: later),
      call'.element = element ∧ call'.api = .performAction := by
  rw [calls_call hlater]
  exact List.forall_mem_append.mpr ⟨h.actions, List.forall_mem_singleton.mpr hcall⟩

theorem approaches_call (h : Stepped element requested current text delivery steps front)
    (happroaching : Approaching requested call.operation front)
    (hlater : AXEvent.calls later = []) :
    ∀ before call' state' after,
      front ++ .mutation call state :: later = before ++ .mutation call' state' :: after →
        Approaching requested call'.operation before := by
  intro before call' state' after hsplit
  rcases Paired.split_append hsplit with ⟨rest, hfront, -⟩ | ⟨rest, rfl, hrest⟩
  · exact h.approaches before call' state' rest hfront
  · cases rest with
    | nil =>
      injection hrest with hevent
      injection hevent with hcall
      rw [List.append_nil, ← hcall]
      exact happroaching
    | cons event rest =>
      injection hrest with _ hrest
      exact absurd (AXEvent.mem_calls hrest) (by rw [hlater]; exact List.not_mem_nil)

theorem report_call (h : Stepped element requested current text delivery (steps + 1) front)
    (hcall : call.element = element ∧ call.api = .performAction)
    (happroaching : Approaching requested call.operation front)
    (hlater : AXEvent.calls later = []) {outcome : Outcome AdapterError DeliveryOutcome}
    (hverified : outcome ≠ .ok .deliveredVerified ∧ outcome ≠ .ok .satisfiedNoDelivery)
    (howned : 0 < delivery.deliveredUnits ∨ call.standing = .delivered →
      ∀ error, outcome = .error error → error.disposition ≠ .notDelivered) :
    IncrementReport element requested outcome (front ++ .mutation call state :: later) where
  actions := h.actions_call hcall hlater
  limit := by
    rw [calls_call hlater, List.length_append, List.length_singleton, ← h.left]
    omega
  approaches := h.approaches_call happroaching hlater
  verified := fun hok => by
    rcases hok with hok | hok
    · exact absurd hok hverified.1
    · exact absurd hok hverified.2
  owned := by
    rintro error herror ⟨call', hcall', hdelivered⟩
    refine howned ?_ error herror
    rw [calls_call hlater] at hcall'
    rcases List.mem_append.mp hcall' with hmem | hmem
    · rw [h.units]
      exact Or.inl (List.length_pos_of_mem hmem)
    · rw [← List.mem_singleton.mp hmem]
      exact Or.inr hdelivered

theorem report_error_call (h : Stepped element requested current text delivery (steps + 1) front)
    (hcall : call.element = element ∧ call.api = .performAction)
    (happroaching : Approaching requested call.operation front)
    (hlater : AXEvent.calls later = []) (error : AdapterError) :
    IncrementReport element requested (.error (delivery.markDelivered.annotate error))
      (front ++ .mutation call state :: later) := by
  refine h.report_call hcall happroaching hlater error_not_verified (fun _ error' herror => ?_)
  obtain rfl := Outcome.error.inj herror
  exact DeliveryTracker.disposition_annotate_of_delivered (Nat.succ_pos _) error

theorem report_failed_call (h : Stepped element requested current text delivery (steps + 1) front)
    (hcall : call.element = element ∧ call.api = .performAction)
    (happroaching : Approaching requested call.operation front)
    (hlater : AXEvent.calls later = []) {error : AdapterError}
    (howned : call.standing = .delivered → error.disposition = .deliveredUnverified) :
    IncrementReport element requested (.error (delivery.annotate error))
      (front ++ .mutation call state :: later) := by
  refine h.report_call hcall happroaching hlater error_not_verified ?_
  rintro (hunits | hdelivered) error' herror
  · obtain rfl := Outcome.error.inj herror
    exact DeliveryTracker.disposition_annotate_of_delivered hunits error
  · obtain rfl := Outcome.error.inj herror
    have hdisposition := howned hdelivered
    rw [delivery.disposition_annotate_of_said (by rw [hdisposition]; simp)
      (by rw [hdisposition]; simp), hdisposition]
    simp

end Call

theorem report_error (h : Stepped element requested current text delivery steps front)
    (error : AdapterError) :
    IncrementReport element requested (.error (delivery.annotate error)) front := by
  refine h.report (fun hok => ?_) (fun hunits error' herror => ?_)
  · exact (hok.elim error_not_verified.1 error_not_verified.2).elim
  · obtain rfl := Outcome.error.inj herror
    exact DeliveryTracker.disposition_annotate_of_delivered hunits error

/-- **A step that fails**, whether its call was made or not. -/
theorem report_failed_step
    (h : Stepped element requested current text delivery (steps + 1) front) {action : String}
    (happroaching : Approaching requested action front) {deadline : Deadline}
    {error : AdapterError} {events : List (SteppingEvent σ E)}
    (hstep : MutationReport element action .performAction deadline (.error error) events) :
    IncrementReport element requested (.error (delivery.annotate error)) (front ++ events) := by
  cases hstep with
  | notMade =>
    rw [List.append_nil]
    exact h.report_error error
  | refused hstanding | uncertain hstanding | declinedLate hstanding =>
    refine h.report_failed_call ⟨rfl, rfl⟩ happroaching rfl (fun hdelivered => ?_)
    exact absurd (hstanding.symm.trans hdelivered) (by simp)
  | deliveredLate _ _ hdisposition =>
    exact h.report_failed_call ⟨rfl, rfl⟩ happroaching rfl (fun _ => hdisposition)

theorem toward_next (h : Stepped element requested current text delivery steps front)
    (hreached : incrementTargetReached text requested = false) {action text' : String}
    (haction : incrementAction text requested = some action)
    (hnearer : incrementAction text text' = some action)
    (hnext : incrementAction text' requested = some action) :
    (texts front ++ [text'] ++ [requested]).Pairwise (Nearer action) := by
  obtain ⟨earlier, hearlier⟩ := h.exists_texts_eq
  have hpath := List.pairwise_append.mp (h.toward hreached action haction)
  have hstep : Nearer action text text' := incrementAction_nearer hnearer
  have hrest : Nearer action text' requested := incrementAction_nearer hnext
  have hall : ∀ before ∈ texts front, Nearer action before text' := by
    intro before hbefore
    rw [hearlier] at hbefore hpath
    rcases List.mem_append.mp hbefore with hmem | hmem
    · have hlast : Nearer action before text :=
        (List.pairwise_append.mp hpath.1).2.2 before hmem text (List.mem_singleton.mpr rfl)
      exact hlast.trans hstep
    · rw [List.mem_singleton.mp hmem]
      exact hstep
  rw [List.append_assoc]
  refine List.pairwise_append.mpr ⟨hpath.1, List.pairwise_pair.mpr hrest, fun before hbefore => ?_⟩
  refine List.forall_mem_cons.mpr ⟨hall before hbefore, List.forall_mem_singleton.mpr ?_⟩
  exact (hall before hbefore).trans hrest

theorem directions_of_progressed {action text' : String}
    (haction : incrementAction text requested = some action)
    (hprogressed : incrementProgressed text text' requested = true)
    (hreached : incrementTargetReached text' requested = false) :
    incrementAction text text' = some action ∧ incrementAction text' requested = some action := by
  unfold incrementProgressed at hprogressed
  dsimp only at hprogressed
  rw [hreached, haction, Bool.false_or, Option.isSome_some, Bool.true_and, Bool.and_eq_true,
    beq_iff_eq, beq_iff_eq] at hprogressed
  exact hprogressed

/-- **A step that was delivered and made progress**: what is known then. -/
theorem next (h : Stepped element requested current text delivery (steps + 1) front)
    (hreached : incrementTargetReached text requested = false) {call : AXCall E} {state : σ}
    {now : ℕ} (hcall : call.element = element ∧ call.api = .performAction)
    (haction : incrementAction text requested = some call.operation) {value : ℚ} {text' : String}
    (hprogressed : incrementProgressed text text' requested = true) :
    Stepped element requested value text' delivery.markDelivered steps
      (front ++ .mutation call state :: [.clock now, .noted (.ok (some (value, text')))]) where
  actions := h.actions_call hcall rfl
  approaches := h.approaches_call (h.approaching hreached haction) rfl
  numbers := by
    rw [AXEvent.notes_append]
    exact List.forall_mem_append.mpr ⟨h.numbers, List.forall_mem_singleton.mpr rfl⟩
  count := by
    rw [calls_call rfl, AXEvent.notes_append, List.length_append, List.length_append, h.count]
    rfl
  last := by
    rw [AXEvent.notes_append]
    exact List.getLast?_concat
  toward := by
    intro hreached' action haction'
    obtain ⟨hnearer, hnext⟩ := directions_of_progressed haction hprogressed hreached'
    obtain rfl := Option.some.inj (hnext.symm.trans haction')
    rw [texts_append]
    exact h.toward_next hreached haction hnearer hnext
  units := by
    rw [calls_call rfl, List.length_append, DeliveryTracker.deliveredUnits_markDelivered, h.units]
    rfl
  left := by
    rw [calls_call rfl, List.length_append, List.length_singleton, ← h.left]
    omega

end Stepped

end Increment

namespace SteppingWorld

open Increment

variable {σ E : Type} (world : SteppingWorld σ E)

/-! ## Reading -/

theorem readNumber_sat (element : E) (deadline : Deadline) :
    (world.readNumber element deadline).Sat (Prog.Recorded .noted) := by
  have hquiet : (world.copyNumber element deadline).Quiet :=
    (Prog.Quiet.call _).bind (fun _ => (Prog.Quiet.ask _).bind (fun _ => Prog.Quiet.pure _))
  exact Prog.Quiet.recorded_sat hquiet .noted

theorem readNumber_bind_sat {α : Type} {element : E} {deadline : Deadline}
    {g : AdapterError → AdapterError} {f : Option (ℚ × String) → Stepping σ E α}
    {Ψ : Outcome AdapterError α → List (SteppingEvent σ E) → Prop}
    (hok : ∀ read, (f read).Sat (fun o events => Ψ o (.noted (.ok read) :: events)))
    (herror : ∀ error, Ψ (.error (g error)) [.noted (.error error)]) (hrunning : Ψ .running []) :
    ((world.readNumber element deadline).mapError g >>= f).Sat Ψ :=
  Prog.Sat.mapError_bind (world.readNumber_sat element deadline)
    (fun read _ h => by rw [show _ = _ from h]; exact hok read)
    (fun error _ h => by rw [show _ = _ from h]; exact herror error)
    (fun _ h => by rw [show _ = _ from h]; exact hrunning)

/-! ## Stepping -/

theorem finishIncrement_sat (requested : String) (start target current : ℚ) (text : String)
    (delivered : Bool) :
    (finishIncrement requested start target current text delivered : Stepping σ E _).Sat
      (fun outcome events => events = []
        ∧ (outcome = .ok .deliveredVerified ∨ outcome = .ok .satisfiedNoDelivery →
          incrementTargetReached text requested = true)
        ∧ ∀ error, outcome = .error error → error.disposition ≠ .notDelivered) := by
  unfold finishIncrement
  split_ifs with hreached hmoved
  · exact Prog.sat_pure ⟨rfl, fun _ => hreached, Outcome.of_ok_eq_error⟩
  · refine Prog.sat_fail ⟨rfl, fun h => ?_, fun error herror => ?_⟩
    · rcases h with h | h <;> cases h
    · obtain rfl := Outcome.error.inj herror
      have hdisposition : (incrementStepLimitError start current target).disposition
          = .deliveredUnverified := if_pos hmoved
      rw [hdisposition]
      simp
  · refine Prog.sat_pure ⟨rfl, fun h => ?_, Outcome.of_ok_eq_error⟩
    cases delivered <;> rcases h with h | h <;> cases h

theorem not_verified {outcome : Outcome AdapterError DeliveryOutcome} {text requested : String}
    (hverified : outcome = .ok .deliveredVerified ∨ outcome = .ok .satisfiedNoDelivery →
      incrementTargetReached text requested = true)
    (hreached : incrementTargetReached text requested = false) :
    outcome ≠ .ok .deliveredVerified ∧ outcome ≠ .ok .satisfiedNoDelivery := by
  have hnot : ¬(outcome = .ok .deliveredVerified ∨ outcome = .ok .satisfiedNoDelivery) := by
    intro hok
    rw [hverified hok] at hreached
    cases hreached
  exact not_or.mp hnot

variable {element : E} {requested : String} {deadline : Deadline}

section

variable {steps : ℕ} {current : ℚ} {text : String} {delivery : DeliveryTracker}
  {front : List (SteppingEvent σ E)}

theorem finishIncrement_report
    (h : Stepped element requested current text delivery steps front) (start target : ℚ)
    (delivered : Bool) :
    (finishIncrement requested start target current text delivered : Stepping σ E _).Sat
      (fun outcome events => IncrementReport element requested outcome (front ++ events)) := by
  refine (finishIncrement_sat requested start target current text delivered).mono ?_
  rintro outcome _ ⟨rfl, hverified, howned⟩
  rw [List.append_nil]
  exact h.report hverified (fun _ => howned)

theorem finishIncrement_report_call (call : AXCall E) {state : σ}
    (later : List (SteppingEvent σ E))
    (h : Stepped element requested current text delivery (steps + 1) front)
    (hreached : incrementTargetReached text requested = false)
    (hcall : call.element = element ∧ call.api = .performAction)
    (happroaching : Approaching requested call.operation front)
    (hlater : AXEvent.calls later = []) (start target : ℚ) (delivered : Bool) :
    (finishIncrement requested start target current text delivered : Stepping σ E _).Sat
      (fun outcome events => IncrementReport element requested outcome
        (front ++ .mutation call state :: (later ++ events))) := by
  refine (finishIncrement_sat requested start target current text delivered).mono ?_
  rintro outcome _ ⟨rfl, hverified, howned⟩
  rw [List.append_nil]
  exact h.report_call hcall happroaching hlater (not_verified hverified hreached)
    (fun _ => howned)

/-- **A step that was delivered**: the value is read again, and the loop goes on only where it has
come nearer. -/
theorem readNumber_step_sat (call : AXCall E) {state : σ} {now : ℕ}
    (h : Stepped element requested current text delivery (steps + 1) front)
    (hreached : incrementTargetReached text requested = false)
    (hcall : call.element = element ∧ call.api = .performAction)
    (haction : incrementAction text requested = some call.operation) (start target : ℚ)
    (ih : ∀ {value : ℚ} {text' : String},
      Stepped element requested value text' delivery.markDelivered steps
        (front ++ .mutation call state :: [.clock now, .noted (.ok (some (value, text')))]) →
      (world.incrementLoop element requested deadline start target steps value text' true
        delivery.markDelivered).Sat (fun outcome events => IncrementReport element requested outcome
          ((front ++ .mutation call state :: [.clock now, .noted (.ok (some (value, text')))])
            ++ events)))
    {f : Option (ℚ × String) → Stepping σ E DeliveryOutcome}
    (hnone : f none = finishIncrement requested start target current text true)
    (hsome : ∀ value text', f (some (value, text')) =
      if !incrementProgressed text text' requested then
        Prog.fail (delivery.markDelivered.annotate stoppedProgressing)
      else
        world.incrementLoop element requested deadline start target steps value text' true
          delivery.markDelivered) :
    ((world.readNumber element deadline).mapError delivery.markDelivered.annotate >>= f).Sat
      (fun outcome events => IncrementReport element requested outcome
        (front ++ .mutation call state :: (.clock now :: events))) := by
  have happroaching := h.approaching hreached haction
  refine world.readNumber_bind_sat (fun read => ?_)
    (fun error => h.report_error_call hcall happroaching rfl error)
    (h.report_call hcall happroaching rfl running_not_verified
      (fun _ error herror => by cases herror))
  cases read with
  | none =>
    rw [hnone]
    exact finishIncrement_report_call call [.clock now, .noted (.ok none)] h hreached hcall
      happroaching rfl start target true
  | some number =>
    obtain ⟨value, text'⟩ := number
    rw [hsome]
    cases hprogressed : incrementProgressed text text' requested with
    | false =>
      rw [Bool.not_false, if_pos rfl]
      exact Prog.sat_fail (h.report_error_call hcall happroaching rfl _)
    | true =>
      rw [Bool.not_true, if_neg Bool.false_ne_true]
      refine (ih (h.next hreached hcall haction hprogressed)).mono (fun outcome events hreport => ?_)
      rw [List.append_assoc] at hreport
      exact hreport

end

theorem incrementLoop_sat (start target : ℚ) (steps : ℕ) {current : ℚ} {text : String}
    {delivered : Bool} {delivery : DeliveryTracker} {front : List (SteppingEvent σ E)}
    (h : Stepped element requested current text delivery steps front) :
    (world.incrementLoop element requested deadline start target steps current text delivered
      delivery).Sat (fun outcome events =>
        IncrementReport element requested outcome (front ++ events)) := by
  induction steps generalizing current text delivered delivery front with
  | zero =>
    unfold incrementLoop
    exact finishIncrement_report h start target delivered
  | succ steps ih =>
    have hfailed : ∀ error : AdapterError, IncrementReport element requested
        (.error (delivery.annotate error)) (front ++ []) := by
      intro error
      rw [List.append_nil]
      exact h.report_error error
    unfold incrementLoop
    cases hreached : incrementTargetReached text requested with
    | true =>
      rw [if_pos rfl]
      refine Prog.sat_pure ?_
      rw [List.append_nil]
      exact h.report (fun _ => hreached) (fun _ => Outcome.of_ok_eq_error)
    | false =>
      rw [if_neg Bool.false_ne_true]
      refine Prog.sat_ask_bind (fun now => ?_)
      by_cases hexpired : deadline.isExpired now = true
      · rw [if_pos hexpired]
        exact Prog.sat_fail (hfailed _)
      rw [if_neg hexpired]
      cases haction : incrementAction text requested with
      | none =>
        refine Prog.sat_pure ?_
        rw [List.append_nil]
        refine h.report (fun hok => ?_) (fun _ => Outcome.of_ok_eq_error)
        cases delivered <;> rcases hok with hok | hok <;> cases hok
      | some action =>
        have happroaching : Approaching requested action front := h.approaching hreached haction
        refine Prog.sat_mapError_call_bind (fun _ => ?_) hfailed
        refine Prog.Sat.mapError_bind (world.tryAxActionOrErr_sat element action deadline)
          (fun deliveredStep events hstep => ?_)
          (fun error events hstep => h.report_failed_step happroaching hstep)
          (fun _ hstep => absurd rfl hstep.ne_running)
        cases hstep with
        | notAdvertised => exact finishIncrement_report h start target delivered
        | @declined code state now =>
          exact finishIncrement_report_call ⟨element, action, .performAction, code⟩ [.clock now]
            h hreached ⟨rfl, rfl⟩ happroaching rfl start target delivered
        | @delivered code state now =>
          exact world.readNumber_step_sat ⟨element, action, .performAction, code⟩ h hreached
            ⟨rfl, rfl⟩ haction start target ih rfl (fun _ _ => rfl)

/-- **Stepping a control to a value is monotone and honest.** However a control answers, it is
stepped a limited number of times, each time towards the target as it was read last and only while
the values come strictly nearer; a value that is verified was read last; and no error denies a step
that was delivered. -/
theorem incrementToValue_approaches (element : E) (requested : String) (deadline : Deadline) :
    (world.incrementToValue element requested deadline).Sat
      (IncrementReport element requested) := by
  unfold incrementToValue
  cases numericText requested with
  | none => exact Prog.sat_pure (.of_no_call rfl ⟨nofun, nofun⟩)
  | some target =>
    refine Prog.Sat.bind (world.readNumber_sat element deadline) (fun read _ h => ?_)
      (fun error _ h => ?_) (fun _ h => ?_)
    · rw [show _ = _ from h]
      cases read with
      | none => exact Prog.sat_pure (.of_no_call rfl ⟨nofun, nofun⟩)
      | some number =>
        obtain ⟨current, text⟩ := number
        exact world.incrementLoop_sat current target maxIncrementSteps (.first element)
    · rw [show _ = _ from h]
      exact .of_no_call rfl ⟨nofun, nofun⟩
    · rw [show _ = _ from h]
      exact .of_no_call rfl ⟨nofun, nofun⟩

end SteppingWorld

end AgentDesktop
