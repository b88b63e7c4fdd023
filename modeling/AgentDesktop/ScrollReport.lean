import AgentDesktop.Scroll

/-!
# What scrolling reports of what it did

A step of a mechanism is reported by the code that answered it, and then the
clock is read: when the time is up, the timeout takes the place of the report,
as not delivered unless the report was that of a delivery. So an effect can be
hidden – the first one of a run, by an answer that was uncertain or late and a
clock that is late right after it (`hidesEffect`) – and it is hidden in no other
way (`axScroll_reports_iff`). A hidden effect is shown as well when a step was
taken before it, since what fails then says so.
-/

namespace AgentDesktop

namespace AXEvent

variable {σ E X : Type}

/-- A reading of the clock after a deadline. -/
def isLate (deadline : Deadline) : AXEvent σ E X → Bool
  | clock now => deadline.isExpired now
  | mutation _ _ | noted _ => false

/-- **The first effect is hidden**: after a call whose outcome is uncertain, the next reading of
the clock is late; after an action that was delivered, the next two are. A value that was written
is never hidden. -/
def hidesEffect (deadline : Deadline) : List (AXEvent σ E X) → Bool
  | [] => false
  | clock _ :: rest | noted _ :: rest => hidesEffect deadline rest
  | mutation call _ :: rest =>
    match call.standing, call.api with
    | .notDelivered, _ => hidesEffect deadline rest
    | .uncertain, _ => (rest.take 1).any (isLate deadline)
    | .delivered, .performAction => rest.length ≥ 2 && (rest.take 2).all (isLate deadline)
    | .delivered, .setAttributeValue => false

theorem hidesEffect_append {deadline : Deadline} {events : List (AXEvent σ E X)}
    (h : effects events = []) (later : List (AXEvent σ E X)) :
    hidesEffect deadline (events ++ later) = hidesEffect deadline later := by
  rw [effects_eq_nil_iff] at h
  induction events with
  | nil => rfl
  | cons event events ih =>
    cases event with
    | clock now => exact ih h
    | noted note => exact ih h
    | mutation call state =>
      have hcall : call.standing = .notDelivered := h call (List.mem_cons_self ..)
      show (match call.standing, call.api with
        | .notDelivered, _ => hidesEffect deadline (events ++ later)
        | .uncertain, _ => _
        | .delivered, .performAction => _
        | .delivered, .setAttributeValue => _) = _
      rw [hcall]
      exact ih (fun call' hmem => h call' (List.mem_cons_of_mem _ hmem))

theorem hidesEffect_of_uncertain {deadline : Deadline} {el : E} {operation : String} {api : AXApi}
    {code : AXError} {state : σ} (h : api.standing code = .uncertain) (rest : List (AXEvent σ E X)) :
    hidesEffect deadline (.mutation ⟨el, operation, api, code⟩ state :: rest)
      = (rest.take 1).any (isLate deadline) := by
  show (match api.standing code, api with
    | .notDelivered, _ => _
    | .uncertain, _ => (rest.take 1).any (isLate deadline)
    | .delivered, .performAction => _
    | .delivered, .setAttributeValue => _) = _
  rw [h]

theorem hidesEffect_of_delivered {deadline : Deadline} {el : E} {operation : String}
    {code : AXError} {state : σ} (h : AXApi.standing .performAction code = .delivered)
    (rest : List (AXEvent σ E X)) :
    hidesEffect deadline (.mutation ⟨el, operation, .performAction, code⟩ state :: rest)
      = (decide (2 ≤ rest.length) && (rest.take 2).all (isLate deadline)) := by
  show (match AXApi.standing .performAction code, AXApi.performAction with
    | .notDelivered, _ => _
    | .uncertain, _ => _
    | .delivered, .performAction => decide (2 ≤ rest.length) && (rest.take 2).all (isLate deadline)
    | .delivered, .setAttributeValue => _) = _
  rw [h]

theorem hidesEffect_of_written {deadline : Deadline} {el : E} {operation : String}
    {code : AXError} {state : σ} (h : AXApi.standing .setAttributeValue code = .delivered)
    (rest : List (AXEvent σ E X)) :
    hidesEffect deadline (.mutation ⟨el, operation, .setAttributeValue, code⟩ state :: rest)
      = false := by
  show (match AXApi.standing .setAttributeValue code, AXApi.setAttributeValue with
    | .notDelivered, _ => _
    | .uncertain, _ => _
    | .delivered, .performAction => _
    | .delivered, .setAttributeValue => false) = _
  rw [h]

theorem effects_ne_nil_of_hidesEffect {deadline : Deadline} {events : List (AXEvent σ E X)}
    (h : hidesEffect deadline events = true) : effects events ≠ [] := by
  intro hnone
  have hnothing : hidesEffect deadline (events ++ []) = false := hidesEffect_append hnone []
  rw [List.append_nil, h] at hnothing
  exact absurd hnothing (by simp)

/-- **No other mechanism is tried after an effect**: every later call is one of the same operation
on the same element. -/
def OneMechanism (events : List (AXEvent σ E X)) : Prop :=
  (calls events).Pairwise (fun earlier later => earlier.MayHaveHappened →
    later.element = earlier.element ∧ later.operation = earlier.operation
      ∧ later.api = earlier.api)

theorem OneMechanism.append {events later : List (AXEvent σ E X)} (h : effects events = [])
    (hlater : OneMechanism later) : OneMechanism (events ++ later) := by
  rw [effects_eq_nil_iff] at h
  unfold OneMechanism
  rw [calls_append, List.pairwise_append]
  refine ⟨?_, hlater, fun earlier hearlier _ _ happened => absurd (h earlier hearlier) happened⟩
  exact List.Pairwise.imp_of_mem (R := fun _ _ => True)
    (fun hearlier _ _ happened => absurd (h _ hearlier) happened)
    (List.pairwise_of_forall (fun _ _ => trivial))

theorem oneMechanism_of_forall {events : List (AXEvent σ E X)} {el : E} {operation : String}
    {api : AXApi}
    (h : ∀ call ∈ calls events, call.element = el ∧ call.operation = operation ∧ call.api = api) :
    OneMechanism events := by
  refine List.Pairwise.imp_of_mem (R := fun _ _ => True) ?_
    (List.pairwise_of_forall (fun _ _ => trivial))
  intro earlier later hearlier hlater _ _
  obtain ⟨helement, hoperation, hapi⟩ := h earlier hearlier
  obtain ⟨helement', hoperation', hapi'⟩ := h later hlater
  exact ⟨helement'.trans helement.symm, hoperation'.trans hoperation.symm, hapi'.trans hapi.symm⟩

/-- **Exactly one mechanism had an effect**: one call was delivered and had it, as often as was
asked for when it is an action, and once when a value is written. -/
def ScrolledBy (amount : ℕ) (effects : List (AXCall E)) : Prop :=
  ∃ call : AXCall E, call.standing = .delivered
    ∧ effects = List.replicate (if call.api = .performAction then amount else 1) call

end AXEvent

open AXEvent

/-! ## Reports

A report compares what a part of a scroll answers with the effects of its calls. It composes: a
mechanism that did not scroll had no effect, so what the next one reports is reported of both. -/

/-- **What a part of a scroll reports of its effects.** `scrolled` tells of its answer whether
something was scrolled. -/
structure ScrollReport {σ E α : Type} (deadline : Deadline) (amount : ℕ) (scrolled : α → Bool)
    (o : Outcome AdapterError α) (events : List (ScrollEvent σ E)) : Prop where
  /-- A hidden effect is reported as not delivered. -/
  hidden : hidesEffect deadline events = true →
    ∃ error, o = .error error ∧ error.disposition = .notDelivered
  /-- An effect that is not hidden is not reported so. -/
  shown : hidesEffect deadline events = false →
    ∀ error, o = .error error → error.Silent → effects events = []
  /-- What did not scroll had no effect. -/
  still : ∀ answer, o = .ok answer → scrolled answer = false → effects events = []
  /-- What scrolled did so by one mechanism. -/
  moved : ∀ answer, o = .ok answer → scrolled answer = true → ScrolledBy amount (effects events)
  /-- After an effect no other mechanism is tried. -/
  one : OneMechanism events

namespace ScrollReport

variable {σ E α β : Type} {deadline : Deadline} {amount : ℕ} {scrolled : α → Bool}
  {scrolled' : β → Bool}

theorem ofStill {o : Outcome AdapterError α} {events : List (ScrollEvent σ E)}
    (h : effects events = []) (hanswer : ∀ answer, o = .ok answer → scrolled answer = false) :
    ScrollReport deadline amount scrolled o events where
  hidden hhidden := absurd h (effects_ne_nil_of_hidesEffect hhidden)
  shown _ _ _ _ := h
  still _ _ _ := h
  moved answer ho hscrolled := absurd ((hanswer answer ho).symm.trans hscrolled) (by simp)
  one := by
    have hone : OneMechanism (events ++ []) := OneMechanism.append h List.Pairwise.nil
    rwa [List.append_nil] at hone

theorem after {o : Outcome AdapterError α} {events later : List (ScrollEvent σ E)}
    (hevents : effects events = []) (h : ScrollReport deadline amount scrolled o later) :
    ScrollReport deadline amount scrolled o (events ++ later) := by
  have heffects : effects (events ++ later) = effects later := by
    rw [effects_append, hevents, List.nil_append]
  have hhides : hidesEffect deadline (events ++ later) = hidesEffect deadline later :=
    hidesEffect_append hevents later
  refine ⟨?_, ?_, ?_, ?_, OneMechanism.append hevents h.one⟩
  · rw [hhides]
    exact h.hidden
  · rw [hhides, heffects]
    exact h.shown
  · rw [heffects]
    exact h.still
  · rw [heffects]
    exact h.moved

theorem ofError {amount' : ℕ} {error : AdapterError} {events : List (ScrollEvent σ E)}
    (h : ScrollReport deadline amount scrolled (.error error) events) :
    ScrollReport deadline amount' scrolled' (.error error) events where
  hidden hhidden := by
    obtain ⟨error', heq, hdisposition⟩ := h.hidden hhidden
    exact ⟨error', congrArg Outcome.error (Outcome.error.inj heq), hdisposition⟩
  shown hshown error' heq := h.shown hshown error' (congrArg Outcome.error (Outcome.error.inj heq))
  still _ heq := absurd heq (by simp)
  moved _ heq := absurd heq (by simp)
  one := h.one

end ScrollReport

namespace ScrollWorld

variable {σ E α β : Type} (world : ScrollWorld σ E) (arithmetic : ScrollArithmetic)

/-- **A mechanism after another one**: the next is tried when the first did not scroll. -/
theorem scrollReport_bind {deadline : Deadline} {amount : ℕ} {scrolled : α → Bool}
    {scrolled' : β → Bool} {p : Prog σ (ScrollEvent σ E) AdapterError α}
    {f : α → Prog σ (ScrollEvent σ E) AdapterError β}
    (hp : p.Sat (ScrollReport deadline amount scrolled))
    (hmoved : ∀ answer, scrolled answer = true →
      (f answer).Sat (fun o events => events = [] ∧ ∃ answer', o = .ok answer'
        ∧ scrolled' answer' = true))
    (hstill : ∀ answer, scrolled answer = false →
      (f answer).Sat (ScrollReport deadline amount scrolled')) :
    (p >>= f).Sat (ScrollReport deadline amount scrolled') := by
  refine hp.bind ?_ (fun error events h => h.ofError) ?_
  · intro answer events h
    cases hscrolled : scrolled answer with
    | true =>
      refine (hmoved answer hscrolled).mono ?_
      rintro _ _ ⟨rfl, answer', rfl, hscrolled'⟩
      rw [List.append_nil]
      refine ⟨?_, fun _ _ heq => absurd heq (by simp), ?_, fun _ _ _ => h.moved answer rfl hscrolled,
        h.one⟩
      · intro hhidden
        obtain ⟨error, heq, -⟩ := h.hidden hhidden
        exact absurd heq (by simp)
      · intro answer'' heq hstill'
        obtain rfl := Outcome.ok.inj heq
        exact absurd (hscrolled'.symm.trans hstill') (by simp)
    | false =>
      exact (hstill answer hscrolled).mono (fun o later hlater =>
        hlater.after (h.still answer rfl hscrolled))
  · intro events h
    refine ⟨?_, fun _ _ heq => absurd heq (by simp), fun _ heq => absurd heq (by simp),
      fun _ heq => absurd heq (by simp), h.one⟩
    intro hhidden
    obtain ⟨error, heq, -⟩ := h.hidden hhidden
    exact absurd heq (by simp)

/-! ## Reading -/

/-- A program that makes no calls. -/
def Reads (p : Prog σ (ScrollEvent σ E) AdapterError α) : Prop := p.Only (fun event => event.call? = none)

theorem effects_of_no_call {events : List (ScrollEvent σ E)} (h : ∀ event ∈ events, event.call? = none) :
    effects events = [] := by
  unfold effects calls
  rw [List.filterMap_eq_nil_iff.mpr h, List.filter_nil]

theorem Reads.bind_sat {deadline : Deadline} {amount : ℕ} {scrolled : β → Bool}
    {p : Prog σ (ScrollEvent σ E) AdapterError α} {f : α → Prog σ (ScrollEvent σ E) AdapterError β}
    (hp : Reads p) (hf : ∀ answer, (f answer).Sat (ScrollReport deadline amount scrolled)) :
    (p >>= f).Sat (ScrollReport deadline amount scrolled) :=
  Prog.Sat.bind (Φ := fun _ (events : List (ScrollEvent σ E)) => ∀ event ∈ events, event.call? = none) hp
    (fun answer events h => (hf answer).mono (fun _ _ hlater =>
      hlater.after (effects_of_no_call h)))
    (fun _ _ h => .ofStill (effects_of_no_call h) (fun _ heq => absurd heq (by simp)))
    (fun _ h => .ofStill (effects_of_no_call h) (fun _ heq => absurd heq (by simp)))

theorem reads_readClock : Reads (world.readClock : Prog σ (ScrollEvent σ E) AdapterError ℕ) :=
  Prog.Only.bind (Prog.Quiet.ask _).only
    (fun _ => Prog.Only.bind (Prog.Only.emit rfl) (fun _ => (Prog.Quiet.pure _).only))

theorem reads_ensureReadBudget (deadline : Deadline) :
    Reads (world.ensureReadBudget deadline) := by
  unfold ensureReadBudget
  refine Prog.Only.bind world.reads_readClock (fun now => ?_)
  by_cases h : deadline.isExpired now = true
  · rw [if_pos h]
    exact (Prog.Quiet.fail _).only
  · rw [if_neg h]
    exact (Prog.Quiet.pure _).only

theorem reads_readElement (source : E) (attr : String) (deadline : Deadline) :
    Reads (world.readElement source attr deadline) :=
  Prog.Only.bind (Prog.Quiet.call _).only (fun _ => Prog.Only.bind (Prog.Quiet.ask _).only
    (fun _ => Prog.Only.bind (world.reads_ensureReadBudget deadline)
      (fun _ => (Prog.Quiet.ofExcept _).only)))

theorem reads_readString (element : E) (attr : String) (deadline : Deadline) :
    Reads (world.readString element attr deadline) :=
  Prog.Only.bind (Prog.Quiet.call _).only (fun _ => Prog.Only.bind (Prog.Quiet.ask _).only
    (fun _ => Prog.Only.bind (world.reads_ensureReadBudget deadline)
      (fun _ => (Prog.Quiet.ofExcept _).only)))

theorem reads_readChildren (element : E) (deadline : Deadline) :
    Reads (world.readChildren element deadline) := by
  unfold readChildren
  refine Prog.Only.bind (Prog.Quiet.call _).only (fun _ => Prog.Only.bind (Prog.Quiet.ask _).only
    (fun _ => Prog.Only.bind (world.reads_ensureReadBudget deadline)
      (fun _ => Prog.Only.bind (Prog.Quiet.ofExcept _).only (fun children => ?_))))
  split_ifs
  · exact (Prog.Quiet.fail _).only
  · exact (Prog.Quiet.pure _).only

theorem reads_readNumber (element : E) (attr : String) (deadline : Deadline) :
    Reads (world.readNumber element attr deadline) := by
  unfold readNumber
  refine Prog.Only.bind (Prog.Quiet.call _).only (fun _ => Prog.Only.bind (Prog.Quiet.ask _).only
    (fun answer => Prog.Only.bind (world.reads_ensureReadBudget deadline) (fun _ => ?_)))
  split_ifs
  · exact (Prog.Quiet.pure _).only
  · exact (Prog.Quiet.pure _).only
  · exact (Prog.Quiet.fail _).only

/-! ## One step

A step is a call between two readings of the clock. Where the second one is late, a timeout takes
the place of the report, and the effect of the call is hidden by it; the lemmas on a step keep this
case apart from the others. -/

/-- **One step of a repeated action**: at most one call is made, of this action, and it is reported
as a part of a scroll; and when it was taken in time, no later reading of the clock hides it. -/
structure StepReport (el : E) (action : String) (deadline : Deadline)
    (o : Outcome AdapterError Bool) (events : List (ScrollEvent σ E)) : Prop where
  /-- Only this action is performed. -/
  mechanism : ∀ call ∈ calls events,
    call.element = el ∧ call.operation = action ∧ call.api = .performAction
  /-- It is reported as a part of a scroll. -/
  report : ScrollReport deadline 1 id o events
  ends : o ≠ .running
  /-- A step that was taken in time is not hidden. -/
  steady : o = .ok true → ∀ later, hidesEffect deadline (events ++ later) = false

/-- **The budget is checked** by one reading of the clock, and the timeout says whether a delivery
had been started. -/
theorem ensureBudget_sat (deadline : Deadline) (deliveryStarted : Bool) :
    (world.ensureBudget deadline deliveryStarted).Sat (fun o events =>
      ∃ now, events = [.clock now]
        ∧ ((deadline.isExpired now = false ∧ o = .ok ())
          ∨ (deadline.isExpired now = true ∧ ∃ error, o = .error error ∧ error.disposition
            = if deliveryStarted then .deliveredUnverified else .notDelivered))) := by
  unfold ensureBudget
  refine world.readClock_bind_sat (fun now => ?_)
  cases hlate : deadline.isExpired now with
  | false => exact Prog.sat_pure ⟨now, rfl, Or.inl ⟨hlate, rfl⟩⟩
  | true =>
    refine Prog.sat_fail ⟨now, rfl, Or.inr ⟨hlate, _, rfl, ?_⟩⟩
    cases deliveryStarted <;> rfl

theorem ensureBudget_bind_sat {deadline : Deadline} {deliveryStarted : Bool}
    {f : Unit → Prog σ (ScrollEvent σ E) AdapterError β}
    {Ψ : Outcome AdapterError β → List (ScrollEvent σ E) → Prop}
    (hintime : ∀ now, deadline.isExpired now = false →
      (f ()).Sat (fun o events => Ψ o (.clock now :: events)))
    (hlate : ∀ now error, deadline.isExpired now = true →
      error.disposition = (if deliveryStarted then .deliveredUnverified else .notDelivered) →
      Ψ (.error error) [.clock now]) :
    (world.ensureBudget deadline deliveryStarted >>= f).Sat Ψ := by
  refine (world.ensureBudget_sat deadline deliveryStarted).bind ?_ ?_ ?_
  · rintro _ events ⟨now, rfl, ⟨h, -⟩ | ⟨-, _, h, -⟩⟩
    · exact hintime now h
    · exact absurd h (by simp)
  · rintro error events ⟨now, rfl, ⟨-, h⟩ | ⟨h, error', heq, hdisposition⟩⟩
    · exact absurd h (by simp)
    · obtain rfl := Outcome.error.inj heq
      exact hlate now error h hdisposition
  · rintro events ⟨now, rfl, ⟨-, h⟩ | ⟨-, _, h, -⟩⟩ <;> exact absurd h (by simp)

theorem StepReport.ofStill {el : E} {action : String} {deadline : Deadline}
    {o : Outcome AdapterError Bool} {events : List (ScrollEvent σ E)}
    (hmechanism : ∀ call ∈ calls events,
      call.element = el ∧ call.operation = action ∧ call.api = .performAction)
    (hends : o ≠ .running) (h : effects events = []) (ho : o ≠ .ok true) :
    StepReport el action deadline o events where
  mechanism := hmechanism
  report := .ofStill h (fun answer heq => by
    cases answer with
    | false => rfl
    | true => exact absurd heq ho)
  ends := hends
  steady heq := absurd heq ho

theorem StepReport.ofCall {el : E} {action : String} {deadline : Deadline} {code : AXError}
    {state : σ} {o : Outcome AdapterError Bool} {clocks : List (ScrollEvent σ E)}
    (hclocks : ∀ event ∈ clocks, event.call? = none)
    (hhappened : AXApi.standing .performAction code ≠ .notDelivered) (hends : o ≠ .running)
    (ho : o ≠ .ok false)
    (hhidden : hidesEffect deadline (.mutation ⟨el, action, .performAction, code⟩ state :: clocks) = true
      ↔ ∃ error, o = .error error ∧ error.disposition = .notDelivered)
    (hsaid : ∀ error, o = .error error → error.disposition ≠ .unknown)
    (hsteady : o = .ok true → AXApi.standing .performAction code = .delivered ∧ ∀ later,
      hidesEffect deadline (.mutation ⟨el, action, .performAction, code⟩ state :: (clocks ++ later))
        = false) :
    StepReport el action deadline o (.mutation ⟨el, action, .performAction, code⟩ state :: clocks) := by
  have hcalls : calls (.mutation ⟨el, action, .performAction, code⟩ state :: clocks)
      = [⟨el, action, .performAction, code⟩] := by
    rw [calls_mutation_cons, show calls clocks = [] from List.filterMap_eq_nil_iff.mpr hclocks]
  have hmechanism : ∀ call ∈ calls (.mutation ⟨el, action, .performAction, code⟩ state :: clocks),
      call.element = el ∧ call.operation = action ∧ call.api = .performAction := by
    rw [hcalls]
    exact List.forall_mem_singleton.mpr ⟨rfl, rfl, rfl⟩
  refine ⟨hmechanism, ⟨hhidden.mp, ?_, ?_, ?_, oneMechanism_of_forall hmechanism⟩, hends,
    fun heq later => (hsteady heq).2 later⟩
  · intro hshown error heq hsilent
    have hdisposition := hsilent.resolve_left (hsaid error heq)
    exact absurd (hshown.symm.trans (hhidden.mpr ⟨error, heq, hdisposition⟩)) (by simp)
  · intro answer heq hstill
    exact absurd (show o = .ok false from heq.trans (congrArg Outcome.ok hstill)) ho
  · intro answer heq hmoved
    have hok : o = .ok true := heq.trans (congrArg Outcome.ok hmoved)
    refine ⟨⟨el, action, .performAction, code⟩, (hsteady hok).1, ?_⟩
    unfold effects
    rw [hcalls]
    exact List.filter_cons_of_pos (decide_eq_true hhappened)

/-- **The report of a call is kept by the step**, when the budget is checked in time. -/
theorem StepReport.inTime {el : E} {action : String} {deadline : Deadline}
    {o : Outcome AdapterError Bool} {events : List (ScrollEvent σ E)}
    (h : MutationReport el action .performAction deadline o events) {now : ℕ}
    (hnow : deadline.isExpired now = false) :
    StepReport el action deadline o (events ++ [.clock now]) := by
  have hcalls : calls (events ++ [.clock now]) = calls events := by
    rw [calls_append, calls_clock_cons, calls_nil, List.append_nil]
  by_cases hstill : o ≠ .ok true ∧ ∀ error, o = .error error → error.disposition = .notDelivered
  · have heffects : effects (events ++ [.clock now]) = [] := by
      rw [effects_append, h.effects_eq_nil hstill.1 hstill.2]
      rfl
    exact StepReport.ofStill (hcalls ▸ h.eq_of_mem_calls) h.ne_running heffects hstill.1
  cases h with
  | notAdvertised | declined => exact absurd ⟨by simp, by simp⟩ hstill
  | notMade hdisposition | refused _ hdisposition | declinedLate _ hdisposition =>
    refine absurd ⟨by simp, fun error heq => ?_⟩ hstill
    obtain rfl := Outcome.error.inj heq
    exact hdisposition
  | uncertain hstanding hdisposition =>
    refine StepReport.ofCall (by simp [call?]) (by rw [hstanding]; simp) (by simp) (by simp) ?_
      (by simp [hdisposition]) (fun heq => absurd heq (by simp))
    rw [hidesEffect_of_uncertain hstanding]
    simp [isLate, hnow, hdisposition]
  | delivered hstanding hlate =>
    refine StepReport.ofCall (by simp [call?]) (by rw [hstanding]; simp) (by simp) (by simp) ?_
      (by simp) (fun _ => ⟨hstanding, fun later => ?_⟩)
    · rw [hidesEffect_of_delivered hstanding]
      simp [isLate, hnow]
    · rw [hidesEffect_of_delivered hstanding]
      simp [isLate, hnow]
  | deliveredLate hstanding hlate hdisposition =>
    refine StepReport.ofCall (by simp [call?]) (by rw [hstanding]; simp) (by simp) (by simp) ?_
      (by simp [hdisposition]) (fun heq => absurd heq (by simp))
    rw [hidesEffect_of_delivered hstanding]
    simp [isLate, hnow, hdisposition]

/-- **A timeout takes the place of the report of a call**, when the budget is checked late. -/
theorem StepReport.late {el : E} {action : String} {deadline : Deadline}
    {o : Outcome AdapterError Bool} {events : List (ScrollEvent σ E)}
    (h : MutationReport el action .performAction deadline o events) {now : ℕ}
    (hnow : deadline.isExpired now = true) {error : AdapterError}
    (htrue : o = .ok true → error.disposition = .deliveredUnverified)
    (hother : o ≠ .ok true → error.disposition = .notDelivered) :
    StepReport el action deadline (.error error) (events ++ [.clock now]) := by
  have hcalls : calls (events ++ [.clock now]) = calls events := by
    rw [calls_append, calls_clock_cons, calls_nil, List.append_nil]
  by_cases hstill : o ≠ .ok true ∧ ∀ error, o = .error error → error.disposition = .notDelivered
  · have heffects : effects (events ++ [.clock now]) = [] := by
      rw [effects_append, h.effects_eq_nil hstill.1 hstill.2]
      rfl
    exact StepReport.ofStill (hcalls ▸ h.eq_of_mem_calls) (by simp) heffects (by simp)
  cases h with
  | notAdvertised | declined => exact absurd ⟨by simp, by simp⟩ hstill
  | notMade hdisposition | refused _ hdisposition | declinedLate _ hdisposition =>
    refine absurd ⟨by simp, fun error heq => ?_⟩ hstill
    obtain rfl := Outcome.error.inj heq
    exact hdisposition
  | uncertain hstanding =>
    refine StepReport.ofCall (by simp [call?]) (by rw [hstanding]; simp) (by simp) (by simp) ?_
      (by simp [hother (by simp)]) (fun heq => absurd heq (by simp))
    rw [hidesEffect_of_uncertain hstanding]
    simp [isLate, hnow, hother (by simp)]
  | delivered hstanding hlate =>
    refine StepReport.ofCall (by simp [call?]) (by rw [hstanding]; simp) (by simp) (by simp) ?_
      (by simp [htrue rfl]) (fun heq => absurd heq (by simp))
    rw [hidesEffect_of_delivered hstanding]
    simp [isLate, hlate, htrue rfl]
  | deliveredLate hstanding hlate =>
    refine StepReport.ofCall (by simp [call?]) (by rw [hstanding]; simp) (by simp) (by simp) ?_
      (by simp [hother (by simp)]) (fun heq => absurd heq (by simp))
    rw [hidesEffect_of_delivered hstanding]
    simp [isLate, hlate, hnow, hother (by simp)]

/-- **A step is reported as what it was**, unless the clock hides it. -/
theorem tryAction_sat (el : E) (action : String) (deadline : Deadline) :
    (world.tryAction el action deadline).Sat (StepReport el action deadline) := by
  have hnone {error : AdapterError} :
      StepReport el action deadline (.error error) ([] : List (ScrollEvent σ E)) :=
    StepReport.ofStill (fun _ hmem => absurd hmem List.not_mem_nil) (by simp) rfl (by simp)
  unfold tryAction prepareRead
  refine Prog.Sat.bind (Φ := fun o events => o ≠ .running ∧ events = []) ?_ ?_ ?_ ?_
  · refine Prog.sat_ask_bind (fun answer => ?_)
    cases answer <;> exact Prog.sat_done ⟨by simp, rfl⟩
  rotate_left
  · rintro error events ⟨-, rfl⟩
    exact hnone
  · exact fun events h => absurd rfl h.1
  rintro _ events ⟨-, rfl⟩
  refine (world.tryAxActionOrErr_sat el action deadline).attempt_bind ?_ ?_
    (fun events h => absurd rfl h.ne_running)
  · intro delivered events h
    refine world.ensureBudget_bind_sat (fun now hnow => ?_) (fun now error hnow hdisposition => ?_)
    · exact Prog.sat_done (StepReport.inTime h hnow)
    · refine StepReport.late h hnow (fun htrue => ?_) (fun hother => ?_)
      · obtain rfl := Outcome.ok.inj htrue
        exact hdisposition
      · cases delivered with
        | true => exact absurd rfl hother
        | false => exact hdisposition
  · intro error events h
    refine world.ensureBudget_bind_sat (fun now hnow => ?_) (fun now error' hnow hdisposition => ?_)
    · exact Prog.sat_done (StepReport.inTime h hnow)
    · exact StepReport.late h hnow (fun htrue => absurd htrue (by simp)) (fun _ => hdisposition)

theorem StepReport.effects_eq {el : E} {action : String} {deadline : Deadline}
    {events : List (ScrollEvent σ E)} (h : StepReport el action deadline (.ok true) events) :
    effects events = [⟨el, action, .performAction, .success⟩] := by
  obtain ⟨call, hstanding, heffects⟩ := h.report.moved true rfl rfl
  rw [show (if call.api = .performAction then 1 else 1) = 1 from ite_self 1,
    List.replicate_one] at heffects
  rw [heffects]
  have hmem : call ∈ calls events :=
    List.mem_of_mem_filter (show call ∈ effects events from heffects ▸ List.mem_singleton_self call)
  obtain ⟨element, operation, api, code⟩ := call
  obtain ⟨rfl, rfl, rfl⟩ := h.mechanism _ hmem
  obtain rfl : code = .success := AXApi.eq_success_of_standing hstanding
  rfl

/-! ## Repeated steps -/

/-- What the steps after the first report: what fails among them is reported as delivered. -/
structure LaterReport (el : E) (action : String) (remaining : ℕ) (o : Outcome AdapterError Bool)
    (events : List (ScrollEvent σ E)) : Prop where
  /-- Only this action is performed. -/
  mechanism : ∀ call ∈ calls events,
    call.element = el ∧ call.operation = action ∧ call.api = .performAction
  /-- All of them are taken, or the failure says that some were. -/
  ends : (o = .ok true
      ∧ effects events = List.replicate remaining ⟨el, action, .performAction, .success⟩)
    ∨ ∃ error, o = .error error ∧ error.disposition = .deliveredUnverified

/-- **The steps after the first**, by induction on those that are left. -/
theorem repeatAction_later {el : E} {action : String} {deadline : Deadline}
    {attempt : Prog σ (ScrollEvent σ E) AdapterError Bool}
    (hattempt : attempt.Sat (StepReport el action deadline)) (amount : ℕ) {completed : ℕ}
    (hcompleted : completed ≠ 0) (remaining : ℕ) :
    (repeatAction action amount attempt completed remaining).Sat
      (LaterReport el action remaining) := by
  induction remaining generalizing completed with
  | zero => exact Prog.sat_pure ⟨fun _ hmem => absurd hmem List.not_mem_nil, Or.inl ⟨rfl, rfl⟩⟩
  | succ remaining ih =>
    unfold repeatAction
    refine hattempt.attempt_bind ?_ ?_ (fun events h => absurd rfl h.ends)
    · intro taken events h
      cases taken with
      | true =>
        refine (ih (Nat.succ_ne_zero completed)).mono (fun o later hlater => ⟨?_, ?_⟩)
        · rw [calls_append]
          exact fun call hmem => (List.mem_append.mp hmem).elim (h.mechanism call)
            (hlater.mechanism call)
        · refine hlater.ends.imp (fun hend => ⟨hend.1, ?_⟩) id
          rw [effects_append, h.effects_eq, hend.2, List.replicate_succ]
          rfl
      | false =>
        show (if completed = 0 then pure false else _ : Prog _ _ _ _).Sat _
        rw [if_neg hcompleted]
        refine Prog.sat_fail ⟨?_, Or.inr ⟨_, rfl, rfl⟩⟩
        rw [List.append_nil]
        exact h.mechanism
    · intro error events h
      show (if completed = 0 then Prog.fail error else _ : Prog _ _ _ _).Sat _
      rw [if_neg hcompleted]
      refine Prog.sat_fail ⟨?_, Or.inr ⟨_, rfl, rfl⟩⟩
      rw [List.append_nil]
      exact h.mechanism

theorem scrollReport_ofSteps {el : E} {action : String} {deadline : Deadline}
    {first later : List (ScrollEvent σ E)} {remaining : ℕ} {o : Outcome AdapterError Bool}
    (hfirst : StepReport el action deadline (.ok true) first)
    (hlater : LaterReport el action remaining o later) :
    ScrollReport deadline (remaining + 1) id o (first ++ later) := by
  have hhides : hidesEffect deadline (first ++ later) = false := hfirst.steady rfl later
  have hmechanism : ∀ call ∈ calls (first ++ later),
      call.element = el ∧ call.operation = action ∧ call.api = .performAction := by
    rw [calls_append]
    exact fun call hmem => (List.mem_append.mp hmem).elim (hfirst.mechanism call)
      (hlater.mechanism call)
  refine ⟨fun hhidden => absurd (hhides.symm.trans hhidden) (by simp), ?_, ?_, ?_,
    oneMechanism_of_forall hmechanism⟩
  · rintro - error rfl hsilent
    obtain ⟨heq, -⟩ | ⟨error', heq, hdisposition⟩ := hlater.ends
    · exact absurd heq (by simp)
    · obtain rfl := Outcome.error.inj heq
      exact absurd hsilent (by simp [AdapterError.Silent, hdisposition])
  · rintro answer rfl hstill
    obtain ⟨heq, -⟩ | ⟨_, heq, -⟩ := hlater.ends
    · obtain rfl := Outcome.ok.inj heq
      exact absurd hstill (by simp)
    · exact absurd heq (by simp)
  · rintro answer rfl -
    obtain ⟨-, heffects⟩ | ⟨_, heq, -⟩ := hlater.ends
    · refine ⟨⟨el, action, .performAction, .success⟩, rfl, ?_⟩
      rw [if_pos rfl, effects_append, hfirst.effects_eq, heffects, List.replicate_succ]
      rfl
    · exact absurd heq (by simp)

/-- **A repeated action** is taken as often as was asked for, or reports what was taken of it. -/
theorem performRepeatedAction_sat (el : E) (action : String) {amount : ℕ} (hamount : amount ≠ 0)
    (deadline : Deadline) :
    (world.performRepeatedAction el action amount deadline).Sat
      (ScrollReport deadline amount id) := by
  obtain ⟨remaining, rfl⟩ := Nat.exists_eq_succ_of_ne_zero hamount
  have hstep := world.tryAction_sat el action deadline
  unfold performRepeatedAction repeatAction
  refine hstep.attempt_bind ?_ ?_ (fun events h => absurd rfl h.ends)
  · intro taken events h
    cases taken with
    | true =>
      exact (repeatAction_later hstep (remaining + 1) Nat.one_ne_zero remaining).mono
        (fun o later hlater => scrollReport_ofSteps h hlater)
    | false =>
      refine Prog.sat_pure ?_
      rw [List.append_nil]
      exact ScrollReport.ofStill (h.report.still false rfl rfl)
        (fun answer heq => by rw [← Outcome.ok.inj heq]; rfl)
  · intro error events h
    refine Prog.sat_fail ?_
    rw [List.append_nil]
    exact h.report.ofError

/-! ## Writing the value -/

/-- A value that was written, and what is read after it: nothing that fails then is reported as not
delivered. -/
theorem scrollReport_ofWritten {el : E} {deadline : Deadline} {amount : ℕ} {code : AXError}
    {state : σ}
    (hstanding : AXApi.standing .setAttributeValue code = .delivered)
    {o : Outcome AdapterError Bool} {reading : List (ScrollEvent σ E)}
    (hreading : ∀ event ∈ reading, event.call? = none) (ho : o ≠ .ok false)
    (herror : ∀ error, o = .error error → error.disposition = .deliveredUnverified) :
    ScrollReport deadline amount id o
      (.mutation ⟨el, "AXValue", .setAttributeValue, code⟩ state :: reading) := by
  have hhides : hidesEffect deadline
      (.mutation ⟨el, "AXValue", .setAttributeValue, code⟩ state :: reading) = false :=
    hidesEffect_of_written hstanding reading
  have hcalls : calls (.mutation ⟨el, "AXValue", .setAttributeValue, code⟩ state :: reading)
      = [⟨el, "AXValue", .setAttributeValue, code⟩] := by
    rw [calls_mutation_cons, show calls reading = [] from List.filterMap_eq_nil_iff.mpr hreading]
  refine ⟨fun hhidden => absurd (hhides.symm.trans hhidden) (by simp), ?_, ?_, ?_, ?_⟩
  · intro _ error heq hsilent
    exact absurd hsilent (by simp [AdapterError.Silent, herror error heq])
  · rintro answer heq hstill
    exact absurd (heq.trans (congrArg Outcome.ok hstill)) ho
  · intro _ _ _
    refine ⟨⟨el, "AXValue", .setAttributeValue, code⟩, hstanding, ?_⟩
    unfold effects
    rw [hcalls]
    exact List.filter_cons_of_pos (decide_eq_true (by
      show AXApi.standing .setAttributeValue code ≠ .notDelivered
      rw [hstanding]
      simp))
  · have hmechanism : ∀ call ∈ calls (.mutation ⟨el, "AXValue", .setAttributeValue, code⟩ state :: reading),
        call.element = el ∧ call.operation = "AXValue" ∧ call.api = .setAttributeValue := by
      rw [hcalls]
      exact List.forall_mem_singleton.mpr ⟨rfl, rfl, rfl⟩
    exact oneMechanism_of_forall hmechanism

theorem scrollReport_ofUncertain {el : E} {deadline : Deadline} {amount : ℕ} {code : AXError}
    {state : σ}
    (hstanding : AXApi.standing .setAttributeValue code = .uncertain) {now : ℕ}
    {error : AdapterError}
    (herror : deadline.isExpired now = true ↔ error.disposition = .notDelivered)
    (hsaid : error.disposition ≠ .unknown) :
    ScrollReport deadline amount id (.error error)
      [.mutation ⟨el, "AXValue", .setAttributeValue, code⟩ state, .clock now] := by
  have hhides : hidesEffect deadline
      ([.mutation ⟨el, "AXValue", .setAttributeValue, code⟩ state, .clock now]
        : List (ScrollEvent σ E)) = deadline.isExpired now := by
    rw [hidesEffect_of_uncertain hstanding]
    simp [isLate]
  refine ⟨?_, ?_, fun _ heq => absurd heq (by simp), fun _ heq => absurd heq (by simp), ?_⟩
  · rw [hhides]
    exact fun h => ⟨error, rfl, herror.mp h⟩
  · rw [hhides]
    rintro h error' heq hsilent
    obtain rfl := Outcome.error.inj heq
    exact absurd (h.symm.trans (herror.mpr (hsilent.resolve_left hsaid))) (by simp)
  · exact oneMechanism_of_forall (List.forall_mem_singleton.mpr ⟨rfl, rfl, rfl⟩)

/-- **A shift is read back**: nothing else is called, and the answer is that the value has moved, or
that its write is not verified. -/
theorem readShiftBack_sat (bar : E) (direction : Direction) (current : F64)
    (deadline : Deadline) :
    (do
      let observed ← (world.readNumber bar "AXValue" deadline).mapError valueWriteUnverified
      match observed with
      | none => Prog.fail (valueWriteUnverified missingValueAfterWrite)
      | some observed =>
        if arithmetic.valueShiftVerified current observed direction then return true
        else Prog.fail (valueWriteUnverified (.new .actionFailed
          "Scrollbar AXValue write completed without the requested movement")) :
      Prog σ (ScrollEvent σ E) AdapterError Bool).Sat
      (fun o events => (∀ event ∈ events, event.call? = none) ∧ o ≠ .ok false
        ∧ ∀ error, o = .error error → error.disposition = .deliveredUnverified) := by
  refine Prog.Sat.bind (Φ := fun o (events : List (ScrollEvent σ E)) =>
      (∀ event ∈ events, event.call? = none)
        ∧ ∀ error, o = .error error → error.disposition = .deliveredUnverified) ?_ ?_ ?_ ?_
  · have hreads : (world.readNumber bar "AXValue" deadline).Sat
        (fun _ events => ∀ event ∈ events, event.call? = none) :=
      world.reads_readNumber bar "AXValue" deadline
    refine Prog.Sat.mapError (hreads.mono (fun o events hevents => ?_))
    refine ⟨hevents, fun error heq => ?_⟩
    cases o with
    | ok | running => exact absurd heq (by simp [Outcome.mapError])
    | error cause =>
      obtain rfl := Outcome.error.inj heq
      rfl
  · rintro observed events ⟨hevents, -⟩
    have hreading : ∀ event ∈ events ++ [], event.call? = none := by
      rw [List.append_nil]
      exact hevents
    -- no value to compare with, or one that has not moved as it should
    have hunverified (error : AdapterError) (h : error.disposition = .deliveredUnverified) :
        (∀ event ∈ events ++ [], event.call? = none)
          ∧ (Outcome.error error : Outcome AdapterError Bool) ≠ .ok false
          ∧ ∀ error', (Outcome.error error : Outcome AdapterError Bool) = .error error' →
            error'.disposition = .deliveredUnverified :=
      ⟨hreading, by simp, fun error' heq => Outcome.error.inj heq ▸ h⟩
    cases observed with
    | none => exact Prog.sat_fail (hunverified _ rfl)
    | some observed =>
      show (if _ then pure true else _ : Prog _ _ _ _).Sat _
      split_ifs
      · exact Prog.sat_pure ⟨hreading, by simp, by simp⟩
      · exact Prog.sat_fail (hunverified _ rfl)
  · rintro error events ⟨hevents, herror⟩
    exact ⟨hevents, by simp, fun error' heq =>
      herror error' (congrArg Outcome.error (Outcome.error.inj heq))⟩
  · rintro events ⟨hevents, -⟩
    exact ⟨hevents, by simp, by simp⟩

/-- **The value of a bar is written** and read again; only the clock hides that it may have been
written. -/
theorem tryValueShift_sat (bar : E) (direction : Direction) (amount : ℕ) (deadline : Deadline) :
    (world.tryValueShift arithmetic bar direction amount deadline).Sat
      (ScrollReport deadline amount id) := by
  have hfalse {amount : ℕ} : (pure false : Prog σ (ScrollEvent σ E) AdapterError Bool).Sat
      (ScrollReport deadline amount id) :=
    Prog.sat_pure (.ofStill rfl (fun answer heq => by rw [← Outcome.ok.inj heq]; rfl))
  unfold tryValueShift
  refine (world.reads_readNumber bar "AXValue" deadline).bind_sat (fun current => ?_)
  cases current with
  | none => exact hfalse
  | some current =>
    show (if _ then pure false else _ : Prog _ _ _ _).Sat _
    split_ifs
    · exact hfalse
    refine Reads.bind_sat (Prog.Quiet.call _).only (fun _ => ?_)
    refine (world.setValue_sat bar "AXValue" _ deadline).bind ?_ ?_ ?_
    rotate_left
    · rintro error events (⟨_, -, -, rfl⟩ | ⟨_, _, heq, -⟩)
      · exact .ofStill rfl (fun _ heq => absurd heq (by simp))
      · exact absurd heq (by simp)
    · rintro events (⟨_, heq, -⟩ | ⟨_, _, heq, -⟩) <;> exact absurd heq (by simp)
    rintro code events (⟨_, heq, -⟩ | ⟨code', state, heq, rfl⟩)
    · exact absurd heq (by simp)
    obtain rfl := Outcome.ok.inj heq
    have hrefused (hstanding : AXApi.standing .setAttributeValue code = .notDelivered)
        {o : Outcome AdapterError Bool} {now : ℕ} (ho : ∀ answer, o = .ok answer → answer = false) :
        ScrollReport deadline amount id o
          [.mutation ⟨bar, "AXValue", .setAttributeValue, code⟩ state, .clock now] :=
      .ofStill (effects_eq_nil_iff.mpr (List.forall_mem_singleton.mpr hstanding)) ho
    have hclock (now : ℕ) : ∀ event ∈ [(.clock now : ScrollEvent σ E)], event.call? = none :=
      List.forall_mem_singleton.mpr rfl
    cases hclassify : classify "AXValue" .setAttributeValue code with
    | error error =>
      rcases standing_of_classify_error hclassify with ⟨hstanding, hdisposition⟩ | ⟨hstanding, hdisposition⟩
      · refine world.ensureBudget_bind_sat (fun now _ => ?_) (fun now error' _ _ => ?_)
        · exact Prog.sat_done (hrefused hstanding (fun _ heq => absurd heq (by simp)))
        · exact hrefused hstanding (fun _ heq => absurd heq (by simp))
      · refine world.ensureBudget_bind_sat (fun now hnow => ?_) (fun now error' hnow hnot => ?_)
        · exact Prog.sat_done (scrollReport_ofUncertain hstanding (by simp [hnow, hdisposition])
            (by simp [hdisposition]))
        · have hnot : error'.disposition = .notDelivered := hnot
          exact scrollReport_ofUncertain hstanding (by simp [hnow, hnot]) (by simp [hnot])
    | ok delivered =>
      have hstanding := standing_of_classify_ok hclassify
      cases delivered with
      | false =>
        refine world.ensureBudget_bind_sat (fun now _ => ?_) (fun now error' _ _ => ?_)
        · exact Prog.sat_pure (hrefused hstanding (fun _ heq => (Outcome.ok.inj heq).symm))
        · exact hrefused hstanding (fun _ heq => absurd heq (by simp))
      | true =>
        refine world.ensureBudget_bind_sat (fun now _ => ?_) (fun now error' _ hdelivered => ?_)
        · refine Prog.sat_ofExcept_bind (fun delivered hdelivered => ?_)
            (fun _ heq => absurd heq (by simp))
          obtain rfl := Except.ok.inj hdelivered
          refine (world.readShiftBack_sat arithmetic bar direction current deadline).mono
            (fun o events h => ?_)
          exact scrollReport_ofWritten hstanding (List.forall_mem_cons.mpr ⟨rfl, h.1⟩) h.2.1 h.2.2
        · exact scrollReport_ofWritten hstanding (hclock now) (by simp) (fun error heq => by
            obtain rfl := Outcome.error.inj heq
            exact hdelivered)

/-! ## The parts of a bar -/

/-- **The parts of a bar are pressed**, one after the other until one of them scrolls. -/
theorem pressSubElements_sat (direction : Direction) {amount : ℕ} (hamount : amount ≠ 0)
    (deadline : Deadline) (children : List E) :
    (world.pressSubElements direction amount deadline children).Sat
      (ScrollReport deadline amount id) := by
  have hfalse : (pure false : Prog σ (ScrollEvent σ E) AdapterError Bool).Sat
      (ScrollReport deadline amount id) :=
    Prog.sat_pure (.ofStill rfl (fun answer heq => by rw [← Outcome.ok.inj heq]; rfl))
  induction children with
  | nil => exact hfalse
  | cons child rest ih =>
    unfold pressSubElements
    refine (world.reads_readString child "AXSubrole" deadline).bind_sat (fun subrole => ?_)
    split_ifs
    · refine scrollReport_bind (world.performRepeatedAction_sat child "AXPress" hamount deadline)
        ?_ ?_
      · rintro pressed rfl
        exact Prog.sat_pure ⟨rfl, true, rfl, rfl⟩
      · rintro pressed rfl
        exact ih
    · exact ih

theorem trySubElements_sat (bar : E) (direction : Direction) {amount : ℕ} (hamount : amount ≠ 0)
    (deadline : Deadline) :
    (world.trySubElements bar direction amount deadline).Sat (ScrollReport deadline amount id) :=
  (world.reads_readChildren bar deadline).bind_sat
    (fun children => world.pressSubElements_sat direction hamount deadline children)

theorem scrollByBar_sat (bar : E) (action : String) (direction : Direction) {amount : ℕ}
    (hamount : amount ≠ 0) (deadline : Deadline) :
    (world.scrollByBar arithmetic bar action direction amount deadline).Sat
      (ScrollReport deadline amount Option.isSome) := by
  unfold scrollByBar
  refine scrollReport_bind (world.performRepeatedAction_sat bar action hamount deadline) ?_ ?_
  · rintro answer rfl
    exact Prog.sat_pure ⟨rfl, some false, rfl, rfl⟩
  rintro answer rfl
  refine scrollReport_bind (world.tryValueShift_sat arithmetic bar direction amount deadline) ?_ ?_
  · rintro answer rfl
    exact Prog.sat_pure ⟨rfl, some true, rfl, rfl⟩
  rintro answer rfl
  refine scrollReport_bind (world.trySubElements_sat bar direction hamount deadline) ?_ ?_
  · rintro answer rfl
    exact Prog.sat_pure ⟨rfl, some false, rfl, rfl⟩
  rintro answer rfl
  exact Prog.sat_pure (.ofStill rfl (fun answer heq => by rw [← Outcome.ok.inj heq]; rfl))

/-! ## The whole scroll -/

theorem reads_searchScrollArea (deadline : Deadline) (levels : ℕ) (candidate : Option E) :
    Reads (world.searchScrollArea deadline levels candidate) := by
  induction levels generalizing candidate with
  | zero => exact (Prog.Quiet.pure _).only
  | succ levels ih =>
    cases candidate with
    | none => exact (Prog.Quiet.pure _).only
    | some candidate =>
      refine Prog.Only.bind (world.reads_readString candidate "AXRole" deadline) (fun role => ?_)
      split_ifs
      · exact (Prog.Quiet.pure _).only
      · exact Prog.Only.bind (world.reads_readElement candidate "AXParent" deadline) ih

/-- **A scroll is reported as what it was**, unless the clock hides it. -/
theorem axScroll_scrollReport (element : E) (direction : Direction) (amount : ℕ)
    {policy : InteractionPolicy} (hpolicy : policy.isHeaded = false) (deadline : Deadline) :
    (world.axScroll arithmetic element direction amount policy deadline).Sat
      (ScrollReport deadline amount (fun _ => true)) := by
  unfold axScroll
  refine Prog.sat_ofExcept_bind (fun _ hvalid => ?_)
    (fun error _ => .ofStill rfl (fun _ heq => absurd heq (by simp)))
  have hamount : amount ≠ 0 := by
    rintro rfl
    exact absurd hvalid (by simp [validateAmount])
  refine (world.reads_searchScrollArea deadline 6 (some element)).bind_sat (fun scrollArea => ?_)
  show (if policy.isHeaded then _ else _ : Prog _ _ _ _).Sat _
  rw [hpolicy]
  refine (world.reads_readElement _ (scrollBarAction direction).1 deadline).bind_sat (fun bar => ?_)
  have hbar : (bar.elim (pure none) (fun bar => world.scrollByBar arithmetic bar
      (scrollBarAction direction).2 direction amount deadline)).Sat
      (ScrollReport deadline amount Option.isSome) := by
    cases bar with
    | none =>
      exact Prog.sat_pure (.ofStill rfl (fun answer heq => by rw [← Outcome.ok.inj heq]; rfl))
    | some bar => exact world.scrollByBar_sat arithmetic bar _ direction hamount deadline
  refine scrollReport_bind hbar ?_ ?_
  · intro scrolled hscrolled
    obtain ⟨verified, rfl⟩ := Option.isSome_iff_exists.mp hscrolled
    exact Prog.sat_pure ⟨rfl, _, rfl, rfl⟩
  · intro scrolled hscrolled
    obtain rfl := Option.isSome_eq_false_iff.mp hscrolled |> Option.isNone_iff_eq_none.mp
    refine scrollReport_bind (world.performRepeatedAction_sat _ (pageAction direction) hamount
      deadline) ?_ ?_
    · rintro answer rfl
      exact Prog.sat_pure ⟨rfl, _, rfl, rfl⟩
    · rintro answer rfl
      exact Prog.sat_fail (.ofStill rfl (fun _ heq => absurd heq (by simp)))

/-- **Scrolling without the pointer hides an effect only behind a late clock.** Whatever the
application answers and the clock shows: nothing that is reported as not delivered had an effect,
exactly when the first effect is not hidden – when the clock is not late right after a call whose
outcome is uncertain, nor twice late right after an action that was delivered. A success means that
exactly one mechanism had an effect, an action exactly as often as was asked for. And after an
effect no other mechanism is tried. -/
theorem axScroll_reports_iff (element : E) (direction : Direction) (amount : ℕ)
    {policy : InteractionPolicy} (hpolicy : policy.isHeaded = false) (deadline : Deadline) :
    (world.axScroll arithmetic element direction amount policy deadline).Sat
      (fun o events =>
        ((∀ error, o = .error error → error.disposition = .notDelivered → effects events = [])
            ↔ hidesEffect deadline events = false)
        ∧ (∀ answer, o = .ok answer → ScrolledBy amount (effects events))
        ∧ OneMechanism events) := by
  refine (world.axScroll_scrollReport arithmetic element direction amount hpolicy deadline).mono
    (fun o events h => ⟨⟨fun hnothing => ?_, fun hshown error heq hnot =>
      h.shown hshown error heq (Or.inr hnot)⟩, fun answer heq => h.moved answer heq rfl, h.one⟩)
  rw [Bool.eq_false_iff]
  intro hhidden
  obtain ⟨error, heq, hdisposition⟩ := h.hidden hhidden
  exact effects_ne_nil_of_hidesEffect hhidden (hnothing error heq hdisposition)

end ScrollWorld

namespace Sample

/-- Values without a rounding. -/
def exactArithmetic : ScrollArithmetic where
  shiftedValue current direction amount :=
    match current, direction with
    | .finite value, .down | .finite value, .right => .finite (min (value + amount / 10) 1)
    | .finite value, .up | .finite value, .left => .finite (max (value - amount / 10) 0)
    | .notFinite, _ => .notFinite
  withinEpsilon next current := next = current
  valueShiftVerified current observed direction :=
    match current, observed, direction with
    | .finite value, .finite value', .down | .finite value, .finite value', .right => value < value'
    | .finite value, .finite value', .up | .finite value, .finite value', .left => value' < value
    | _, _, _ => false
  asF32 value := value

/-- A scroll area with one bar, whose action is answered in this way after this time. The state is
the time. -/
def barWorld (answer : AXError) (delay : ℕ) : ScrollWorld ℕ Unit where
  clock now := (now, now)
  pidFromElement _ _ now := (none, now)
  elementForPid _ := ()
  setMessagingTimeout _ _ now := (.ok (), now)
  prepareMutation _ _ now := (.ok (), now)
  performAction _ _ now := (answer, now + delay)
  setAttributeValue _ _ _ now := (answer, now + delay)
  copyActionNames _ _ now := (some ["AXIncrement", "AXDecrement"], now)
  copyAttributeValue _ _ _ now := ((.noValue, none), now)
  copyStringAttr _ _ _ now := (.ok (some "AXScrollArea"), now)
  copyBoolAttr _ _ _ now := (.ok none, now)
  copyElementAttr _ _ _ now := (.ok (some ()), now)
  copyAxArrayPrefix _ _ _ _ now := (.ok none, now)
  physicalWheel _ _ _ _ now := (.ok (), now)

/-- Two hundred milliseconds are left. -/
def scrollDeadline : Deadline := ⟨0, 200000000, 200, false⟩

/-- Three steps down. -/
def barScroll (answer : AXError) (delay : ℕ) :
    Prog ℕ (ScrollEvent ℕ Unit) AdapterError (StepMechanism × Bool) :=
  (barWorld answer delay).axScroll exactArithmetic () .down 3 .headless scrollDeadline

end Sample

/-- Three steps that take a millisecond each. -/
theorem axScroll_reports_iff_bar :
    effects ((Sample.barScroll .success 1000000).events 0)
        = List.replicate 3 ⟨(), "AXIncrement", .performAction, .success⟩
      ∧ OneMechanism ((Sample.barScroll .success 1000000).events 0) := by
  have hheadless : InteractionPolicy.headless.isHeaded = false := rfl
  have h := ScrollWorld.axScroll_reports_iff (Sample.barWorld .success 1000000)
    Sample.exactArithmetic () .down 3 hheadless Sample.scrollDeadline 0
  exact ⟨by rfl, h.2.2⟩

/-- The bar's action is sent with two hundred milliseconds left, and the application does not answer
in them: it may have scrolled, but the timeout that is reported says that nothing was delivered. -/
theorem stalled_scroll_reported_notDelivered :
    ∃ error, (Sample.barScroll .cannotComplete 200000000).outcome 0 = .error error
      ∧ error.disposition = .notDelivered
      ∧ effects ((Sample.barScroll .cannotComplete 200000000).events 0)
        = [⟨(), "AXIncrement", .performAction, .cannotComplete⟩]
      ∧ (⟨(), "AXIncrement", .performAction, .cannotComplete⟩ : AXCall Unit).standing
        = .uncertain :=
  ⟨_, by rfl, rfl, by rfl, rfl⟩

end AgentDesktop
