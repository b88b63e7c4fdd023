import AgentDesktop.RefActionWait

/-!
# What a run of a ref action records

The events of a run say what was done to the target. Before the lease there are
resolutions only. Under the lease a handle is found actionable, perhaps after one
scroll, and on that handle the action is executed at most once. And the error a
run ends with is tied to its events: it advises a safe retry after a scroll
exactly when a step after the scroll refused the delivery.
-/

namespace AgentDesktop

variable {σ H : Type}

/-! ## Reading a log

The properties of a run are stated by its events. Most of them depend on the events of one kind
only, so two logs with the same events of that kind may stand for each other; this is how what is
recorded around the delivery is left out of the argument. -/

namespace RefActionEvent

/-- An execution. -/
def isExecuted : RefActionEvent H → Bool
  | executed _ _ => true
  | _ => false

/-- What is done before the delivery: resolving, the preflight and the scroll. -/
def isApproach : RefActionEvent H → Bool
  | resolved _ | preflighted _ | scrolled _ _ => true
  | _ => false

/-- A resolution. -/
def isResolved : RefActionEvent H → Bool
  | resolved _ => true
  | _ => false

/-- A scroll. -/
def isScrolled : RefActionEvent H → Bool
  | scrolled _ _ => true
  | _ => false

/-- What belongs to the delivery. -/
def isDelivery : RefActionEvent H → Bool
  | announced _ | executed _ _ | verified _ => true
  | _ => false

theorem not_isDelivery_of_isApproach {event : RefActionEvent H} (h : event.isApproach) :
    ¬event.isDelivery := by
  cases event <;> simp [isApproach, isDelivery] at h ⊢

/-- A scroll that may have changed the view: it did not fail with nothing done. -/
def changesView : RefActionEvent H → Bool
  | scrolled _ (.ok _) => true
  | scrolled _ (.error error) => error.disposition != .notDelivered
  | _ => false

/-- An announcement or an execution that failed with nothing delivered. -/
def refuses : RefActionEvent H → Bool
  | announced (.error error) => error.intoAdapterError.disposition == .notDelivered
  | executed _ (.error error) => error.disposition == .notDelivered
  | _ => false

/-- An execution answered with nothing that needed to be done. -/
def needsNoDelivery : RefActionEvent H → Bool
  | executed _ (.ok result) => result.disposition == .notDelivered
  | _ => false

/-- A read-back that failed, or did not show what it should. -/
def isUnmet : RefActionEvent H → Bool
  | verified (.error _) | verified (.ok (some false)) => true
  | _ => false

theorem isApproach_of_isResolved {event : RefActionEvent H} (h : event.isResolved) :
    event.isApproach := by
  cases event <;> simp [isResolved, isApproach] at h ⊢

end RefActionEvent

open RefActionEvent

/-- **A run advises a safe retry**: it ends with an error that says that nothing was
delivered. -/
def AdvisesSafeRetry {α : Type} : Outcome AdapterError α → Prop
  | .error error => error.disposition = .notDelivered
  | .ok _ | .running => False

/-- **The view may have been changed** by a scroll. -/
def ViewScrolled (log : List (RefActionEvent H)) : Prop := ∃ event ∈ log, event.changesView

instance (log : List (RefActionEvent H)) : Decidable (ViewScrolled log) :=
  inferInstanceAs (Decidable (∃ event ∈ log, event.changesView))

/-- An answer that says that nothing was delivered. -/
def AnswerRefuses : Except AdapterError ActionResult → Prop
  | .error error => error.disposition = .notDelivered
  | .ok result => result.disposition = .notDelivered

/-- What a read-back says when the postcondition is not met. -/
def Unmet : Except AdapterError (Option Bool) → Prop
  | .error _ => True
  | .ok verdict => verdict = some false

/-- **The delivery was refused**: its announcement failed with nothing delivered, or the
adapter said so, or the adapter answered that nothing needed to be done and the target does
not show what it should. -/
def DeliveryRefused (log : List (RefActionEvent H)) : Prop :=
  (∃ event ∈ log, event.refuses)
    ∨ ((∃ event ∈ log, event.needsNoDelivery) ∧ ∃ event ∈ log, event.isUnmet)

instance (log : List (RefActionEvent H)) : Decidable (DeliveryRefused log) :=
  inferInstanceAs (Decidable ((∃ event ∈ log, event.refuses)
    ∨ ((∃ event ∈ log, event.needsNoDelivery) ∧ ∃ event ∈ log, event.isUnmet)))

/-- Two logs with the same events of a kind. -/
def SameOf (kind : RefActionEvent H → Bool) (log log' : List (RefActionEvent H)) : Prop :=
  ∀ event, kind event → (event ∈ log ↔ event ∈ log')

theorem SameOf.append {kind : RefActionEvent H → Bool}
    (before log after : List (RefActionEvent H)) (hbefore : ∀ event ∈ before, ¬kind event)
    (hafter : ∀ event ∈ after, ¬kind event) : SameOf kind log (before ++ log ++ after) := by
  intro event hkind
  rw [List.mem_append, List.mem_append]
  refine ⟨fun h => .inl (.inr h), ?_⟩
  rintro ((h | h) | h)
  · exact absurd hkind (hbefore event h)
  · exact h
  · exact absurd hkind (hafter event h)

/-- What only events of a kind satisfy, two logs with the same events of it have both or
neither. -/
theorem SameOf.exists_iff {kind test : RefActionEvent H → Bool}
    {log log' : List (RefActionEvent H)} (h : SameOf kind log log')
    (htest : ∀ event, test event → kind event) :
    (∃ event ∈ log, test event) ↔ ∃ event ∈ log', test event :=
  exists_congr (fun event => and_congr_left (fun hevent => h event (htest event hevent)))

theorem ViewScrolled.congr {log log' : List (RefActionEvent H)}
    (h : SameOf isScrolled log log') : ViewScrolled log ↔ ViewScrolled log' :=
  h.exists_iff (fun event => by cases event <;> simp [changesView, isScrolled])

theorem DeliveryRefused.congr {log log' : List (RefActionEvent H)}
    (h : SameOf isDelivery log log') : DeliveryRefused log ↔ DeliveryRefused log' := by
  unfold DeliveryRefused
  have hrefuses : ∀ event : RefActionEvent H, refuses event → isDelivery event := by
    intro event
    cases event <;> simp [refuses, isDelivery]
  have hneeds : ∀ event : RefActionEvent H, needsNoDelivery event → isDelivery event := by
    intro event
    cases event <;> simp [needsNoDelivery, isDelivery]
  have hunmet : ∀ event : RefActionEvent H, isUnmet event → isDelivery event := by
    intro event
    cases event <;> simp [isUnmet, isDelivery]
  rw [h.exists_iff hrefuses, h.exists_iff hneeds, h.exists_iff hunmet]

/-! ## Delivering -/

/-- **The events of a delivery** on a handle: its announcement, one execution and at
most one read-back. -/
inductive DeliveryLog (handle : H) : List (RefActionEvent H) → Prop
  /-- The announcement failed. -/
  | unannounced (error : AppError) : DeliveryLog handle [announced (.error error)]
  /-- The action was executed. -/
  | delivered (answer : Except AdapterError ActionResult)
      (verdicts : List (Except AdapterError (Option Bool))) :
      DeliveryLog handle
        (announced (.ok ()) :: executed handle answer :: verdicts.map verified)

/-- Whether an execution was refused, from its answer and what was read back. -/
def RefusedBy (answer : Except AdapterError ActionResult)
    (verdicts : List (Except AdapterError (Option Bool))) : Prop :=
  match answer with
  | .error error => error.disposition = .notDelivered
  | .ok result => result.disposition = .notDelivered ∧ ∃ verdict ∈ verdicts, Unmet verdict

/-- **What an execution records**: itself and its read-backs; and it ends with the advice
of a safe retry exactly when it was refused. -/
def ExecutionSpec (handle : H) (o : Outcome AdapterError ActionResult)
    (log : List (RefActionEvent H)) : Prop :=
  ∃ answer, ∃ verdicts : List (Except AdapterError (Option Bool)),
    log = executed handle answer :: verdicts.map verified
      ∧ (AdvisesSafeRetry o ↔ RefusedBy answer verdicts)

variable (desktop : Desktop σ H)

theorem settle_sat (handle : H) (deadline settleDeadline : Deadline)
    (verdict : LiveElement → Option Bool) (fuel : ℕ)
    (observed : Except AdapterError LiveElement) :
    (settle desktop handle deadline settleDeadline verdict fuel observed).Sat
      (fun o log => log = [] ∧ ∀ error, o ≠ .error error) := by
  induction fuel generalizing observed with
  | zero => exact Prog.sat_cutOff ⟨rfl, fun _ h => nomatch h⟩
  | succ fuel ih =>
    have hpure : (pure observed : RefProg σ H AdapterError _).Sat
        (fun o log => log = [] ∧ ∀ error, o ≠ .error error) :=
      Prog.sat_pure ⟨rfl, fun _ h => nomatch h⟩
    unfold settle
    cases observed with
    | error error => exact hpure
    | ok element =>
      show Prog.Sat (if verdict element = some false then _ else _) _
      split
      · refine desktop.clock_sure.bind_sat (fun now => ?_)
        split
        · exact Prog.sat_ask_bind (fun _ => Prog.sat_ask_bind (fun _ => ih _))
        · exact hpure
      · exact hpure

theorem observeBefore_sure (action : Action) (handle : H) (deadline : Deadline) :
    (observeBefore desktop action handle deadline).Sure := by
  unfold observeBefore
  split
  all_goals first
    | exact .pure _
    | exact (Prog.Sure.ask _).bind (fun answer => by cases answer <;> exact .pure _)

theorem expectText_sure (request : ActionRequest) (before : Option LiveElement) (handle : H)
    (deadline : Deadline) : (expectText desktop request before handle deadline).Sure := by
  unfold expectText
  split
  · split
    · exact .pure _
    · split
      · exact (Prog.Sure.ask _).bind (fun answer => by cases answer <;> exact .pure _)
      · exact .pure _
  · exact .pure _

theorem executeAction_sat (handle : H) (request : ActionRequest) (lease : InteractionLease) :
    (executeAction desktop handle request lease).Sat (ExecutionSpec handle) :=
  Prog.sat_recordedCall
    (fun result => ⟨.ok result, [], rfl, by simp [AdvisesSafeRetry, RefusedBy]⟩)
    (fun error => ⟨.error error, [], rfl, Iff.rfl⟩)

/-- The read-back of a result fails exactly when the postcondition is not met, and its
error keeps what the result says of the delivery. -/
theorem concludeResult_spec (action : Action) (result : ActionResult)
    (observed : Except AdapterError LiveElement) (verdict : LiveElement → Option Bool) :
    match concludeResult action result observed verdict with
    | .ok _ => ¬Unmet (observed.map verdict)
    | .error error => Unmet (observed.map verdict)
        ∧ (error.disposition = .notDelivered ↔ result.disposition = .notDelivered) := by
  unfold concludeResult
  cases observed with
  | error error => simp [Except.map, Unmet]
  | ok element =>
    simp only [Except.map, Unmet]
    match verdict element with
    | none => simp
    | some true => simp
    | some false => simp

/-- A read-back records verdicts only, and advises a safe retry exactly when the
execution was refused. -/
theorem readBack_sat (fuel : ℕ) (handle : H) (action : Action) (deadline : Deadline)
    (verdict : LiveElement → Option Bool) (answer : Except AdapterError ActionResult) :
    (readBack desktop fuel handle action deadline verdict answer).Sat (fun o log =>
      ∃ verdicts : List (Except AdapterError (Option Bool)), log = verdicts.map verified
        ∧ (AdvisesSafeRetry o ↔ RefusedBy answer verdicts)) := by
  unfold readBack
  cases answer with
  | error error =>
    show Prog.Sat (if error.disposition = .notDelivered then _ else _) _
    split
    next hrefused => exact Prog.sat_fail ⟨[], rfl, Iff.rfl⟩
    next hrefused =>
      refine Prog.sat_ask_bind (fun observed => Prog.sat_fail ⟨[], rfl, ?_⟩)
      show (withPostState error observed verdict).disposition = _ ↔ error.disposition = _
      rw [disposition_withPostState]
  | ok result =>
    refine Prog.sat_ask_bind (fun observed => desktop.clock_sure.bind_sat (fun now => ?_))
    refine (settle_sat desktop _ _ _ _ _ _).bind (fun observed log hlog => ?_)
      (fun error _ h => absurd rfl (h.2 error))
      (fun log hlog => ⟨[], hlog.1, by simp [AdvisesSafeRetry, RefusedBy]⟩)
    rw [hlog.1]
    have hspec := concludeResult_spec action result observed verdict
    refine Prog.sat_emit_bind (Prog.sat_ofExcept (fun result' h => ?_) (fun error h => ?_))
    · rw [h] at hspec
      exact ⟨[observed.map verdict], rfl, by simp [AdvisesSafeRetry, RefusedBy, hspec]⟩
    · rw [h] at hspec
      exact ⟨[observed.map verdict], rfl, by simp [AdvisesSafeRetry, RefusedBy, hspec]⟩

/-- **An action is executed exactly once** when it is executed and read back, and its
error is tied to what was answered. -/
theorem executeVerifiedAction_sat (fuel : ℕ) (handle : H) (request : ActionRequest)
    (lease : InteractionLease) :
    (executeVerifiedAction desktop fuel handle request lease).Sat (ExecutionSpec handle) := by
  unfold executeVerifiedAction
  split
  · exact executeAction_sat desktop handle request lease
  · refine (observeBefore_sure desktop _ _ _).bind_sat (fun before => ?_)
    refine (expectText_sure desktop _ _ _ _).bind_sat (fun expected => ?_)
    refine Prog.sat_attempt_recordedCall_bind (fun answer => ?_)
    refine (readBack_sat desktop _ _ _ _ _ answer).mono ?_
    rintro o log ⟨verdicts, rfl, h⟩
    exact ⟨answer, verdicts, rfl, h⟩

/-- **What a delivery records**, and that a safe retry is advised exactly when the delivery
was refused. -/
structure DeliverySpec (handle : H) (o : Outcome AdapterError ActionResult)
    (log : List (RefActionEvent H)) : Prop where
  shape : DeliveryLog handle log
  advice : AdvisesSafeRetry o ↔ DeliveryRefused log

theorem deliveryRefused_iff (handle : H) (answer : Except AdapterError ActionResult)
    (verdicts : List (Except AdapterError (Option Bool))) :
    DeliveryRefused (announced (.ok ()) :: executed handle answer :: verdicts.map verified)
      ↔ RefusedBy answer verdicts := by
  have hunmet : ∀ verdict : Except AdapterError (Option Bool),
      (verified verdict : RefActionEvent H).isUnmet ↔ Unmet verdict := by
    rintro (error | verdict | _ | _) <;> simp [isUnmet, Unmet]
  have hverdicts : (∃ event ∈ verdicts.map (verified (H := H)), event.isUnmet)
      ↔ ∃ verdict ∈ verdicts, Unmet verdict := by
    simp [List.mem_map, hunmet]
  have hquiet : ∀ test : RefActionEvent H → Bool, (∀ verdict, test (verified verdict) = false) →
      ¬∃ event ∈ verdicts.map verified, test event := fun test htest => by
    simp [List.mem_map, htest]
  unfold DeliveryRefused RefusedBy
  simp only [List.exists_mem_cons_iff, hverdicts, hquiet refuses (fun _ => rfl),
    hquiet needsNoDelivery (fun _ => rfl)]
  cases answer <;> simp [refuses, needsNoDelivery, isUnmet]

theorem ExecutionSpec.delivery {handle : H} {o o' : Outcome AdapterError ActionResult}
    {log : List (RefActionEvent H)} (h : ExecutionSpec handle o log)
    (ho : AdvisesSafeRetry o' ↔ AdvisesSafeRetry o) :
    DeliverySpec handle o' (announced (.ok ()) :: log) := by
  obtain ⟨answer, verdicts, rfl, hadvice⟩ := h
  refine ⟨.delivered answer verdicts, ?_⟩
  rw [deliveryRefused_iff, ho, hadvice]

theorem settledSurfaces_sure {ε : Type} (process : ProcessIdentity) (deadline : Deadline) :
    (settledSurfaces desktop process deadline : RefProg σ H ε _).Sure :=
  (Prog.Sure.ask _).bind (fun answer => by cases answer <;> exact .pure _)

theorem surfacesAfter_sure {ε : Type} (action : Action) (result : ActionResult)
    (process : ProcessIdentity) (deadline : Deadline) :
    (surfacesAfter desktop action result process deadline : RefProg σ H ε _).Sure := by
  unfold surfacesAfter
  split
  · exact settledSurfaces_sure desktop _ _
  · exact .pure _

theorem deliver_sat (fuel : ℕ) (context : RefActionContext) (handle : H)
    (request : ActionRequest) (expectedProcess : ProcessIdentity) (lease : InteractionLease) :
    (deliver desktop fuel context handle request expectedProcess lease).Sat
      (fun o log => DeliverySpec handle (o.mapError AppError.intoAdapterError) log) := by
  refine Prog.sat_recordedCall_bind (fun _ => ?_) (fun error => ⟨.unannounced error, ?_⟩)
  · refine Prog.sat_ask_bind (fun _ => ?_)
    refine (executeVerifiedAction_sat desktop fuel handle request lease).attempt_bind ?_ ?_ ?_
    · intro result log h
      have hend : ∀ o : Outcome AdapterError ActionResult, ¬AdvisesSafeRetry o →
          DeliverySpec handle o (announced (.ok ()) :: (log ++ [])) := by
        intro o ho
        rw [List.append_nil]
        exact h.delivery (iff_of_false ho (fun h => h))
      refine Prog.sat_ask_bind (fun _ => ?_)
      refine (Prog.Sure.mapError (.pure result) AppError.adapter).bind_sat (fun result => ?_)
      refine (surfacesAfter_sure desktop _ _ _ _).bind_sat (fun surfaces => ?_)
      refine (desktop.trace_quiet _ _).mapError_bind_sat
        (fun _ => Prog.sat_pure (hend _ (fun h => h))) (fun error => hend _ ?_)
        (hend _ (fun h => h))
      show ¬(DeliverySemantics.deliveredUnverified = .notDelivered)
      decide
    · intro error log h
      refine Prog.sat_ask_bind (fun _ => fun s => ?_)
      show DeliverySpec handle (.error error) (announced (.ok ()) :: (log ++ []))
      rw [List.append_nil]
      exact h.delivery Iff.rfl
    · intro log h
      exact h.delivery Iff.rfl
  · show error.intoAdapterError.disposition = .notDelivered ↔ _
    simp [DeliveryRefused, refuses, needsNoDelivery]

/-! ## Approaching the target

Looking for a handle that is actionable may take several rounds, and at most one scroll. What
matters later is its end: the handle that is returned was resolved last, and checked after that. -/

/-- **What is recorded until a handle is found actionable.** The handle was resolved last,
and its preflight was made after that; and an error after a scroll advises no safe retry. -/
structure ApproachSpec {α : Type} (o : Outcome AdapterError (H × α))
    (log : List (RefActionEvent H)) : Prop where
  /-- Nothing is delivered. -/
  approach : ∀ event ∈ log, event.isApproach
  /-- The handle found. -/
  found : ∀ handle more, o = .ok (handle, more) →
    ∃ before, log = before ++ [resolved handle, preflighted handle]
  /-- The advice after a scroll. -/
  advice : ViewScrolled log → ¬AdvisesSafeRetry o

theorem ApproachSpec.nil {α : Type} {o : Outcome AdapterError (H × α)}
    (ho : ∀ found, o ≠ .ok found) : ApproachSpec o [] where
  approach := by simp
  found := fun _ _ h => absurd h (ho _)
  advice := fun h => by simp [ViewScrolled] at h

theorem ApproachSpec.resolved {α : Type} {o : Outcome AdapterError (H × α)}
    {log : List (RefActionEvent H)} (h : ApproachSpec o log) (handle : H) :
    ApproachSpec o (resolved handle :: log) where
  approach := List.forall_mem_cons.mpr ⟨rfl, h.approach⟩
  found := fun handle' more ho => by
    obtain ⟨before, rfl⟩ := h.found handle' more ho
    exact ⟨_ :: before, rfl⟩
  advice := fun hscrolled => h.advice ((ViewScrolled.congr (fun event hevent => by
    cases event <;> simp [isScrolled] at hevent ⊢)).mp hscrolled)

theorem resolveTarget_sat (entry : RefEntry) (deadline : Deadline) :
    (resolveTarget desktop entry deadline).Sat (Prog.OnOk resolved) :=
  Prog.sat_record (.call _) resolved

variable [BoundsHasher]

theorem preflightTarget_sat (fuel : ℕ) (context : RefActionContext) (handle : H)
    (request : ActionRequest) :
    (preflightTarget desktop fuel context handle request).Sat
      (Prog.OnOk (fun _ => preflighted handle)) :=
  Prog.sat_record (stablePreflight_quiet _ _ _ _) (fun _ => preflighted handle)

omit [BoundsHasher] in
theorem inspectError_sat {α : Type} {p : RefProg σ H AdapterError α}
    {inspect : AdapterError → RefProg σ H AdapterError Unit}
    {Φ : Outcome AdapterError α → List (RefActionEvent H) → Prop} (hp : p.Sat Φ)
    (hinspect : ∀ error, (inspect error).Sure) : (inspectError p inspect).Sat Φ := by
  refine hp.attempt_bind (fun a log h => Prog.sat_pure ?_) (fun error log h => ?_)
    (fun _ h => h)
  · rw [List.append_nil]
    exact h
  · refine (hinspect error).bind_sat (fun _ => Prog.sat_fail ?_)
    rw [List.append_nil]
    exact h

omit [BoundsHasher] in
theorem resolveForDispatch_sat (context : RefActionContext) :
    (resolveForDispatch desktop context).Sat (Prog.OnOk resolved) := by
  have hresolve : (inspectError (Prog.mapError markPreDispatchResolutionFailure
      (resolveTarget desktop context.entry context.deadline))
      (traceResolveError desktop context)).Sat (Prog.OnOk resolved) :=
    inspectError_sat (Prog.Sat.mapError
      ((resolveTarget_sat desktop _ _).mono (fun _ _ h => h.mapError _)))
      (fun error => desktop.traceBestEffort_sure _ _)
  refine hresolve.bind (fun handle log h => ?_) (fun _ _ h => h) (fun _ h => h)
  refine (desktop.traceBestEffort_sure _ _).bind_sat (fun _ => Prog.sat_pure ?_)
  rw [List.append_nil]
  exact h

theorem recheck_sat (fuel : ℕ) (context : RefActionContext) (request : ActionRequest) :
    (do
      let handle ← resolveTarget desktop context.entry context.deadline
      let report ← Prog.mapError AppError.intoAdapterError
        (preflightTarget desktop fuel context handle request)
      return (handle, report) : RefProg σ H AdapterError (H × ActionabilityReport)).Sat
      (fun o log => (∀ event ∈ log, event.isApproach)
        ∧ ∀ handle report, o = .ok (handle, report) →
          log = [resolved handle, preflighted handle]) := by
  have hpreflight : ∀ handle, (Prog.mapError AppError.intoAdapterError
      (preflightTarget desktop fuel context handle request)).Sat
        (Prog.OnOk (fun _ => preflighted handle)) := fun handle =>
    Prog.Sat.mapError
      ((preflightTarget_sat desktop fuel context handle request).mono (fun _ _ h => h.mapError _))
  refine (resolveTarget_sat desktop _ _).bind (fun handle log h => ?_) ?_ ?_
  · obtain rfl : log = [resolved handle] := h
    refine (hpreflight handle).bind (fun report log h => ?_) ?_ ?_
    · obtain rfl : log = [preflighted handle] := h
      refine Prog.sat_pure ⟨by simp [isApproach], ?_⟩
      rintro _ _ ⟨⟩
      rfl
    · rintro _ _ ⟨⟩
      exact ⟨by simp [isApproach], fun _ _ h => nomatch h⟩
    · rintro _ ⟨⟩
      exact ⟨by simp [isApproach], fun _ _ h => nomatch h⟩
  · rintro _ _ ⟨⟩
    exact ⟨by simp, fun _ _ h => nomatch h⟩
  · rintro _ ⟨⟩
    exact ⟨by simp, fun _ _ h => nomatch h⟩

/-- **After a scroll**, what fails advises no safe retry – unless it is the scroll itself
that fails, and says that it did nothing. -/
theorem scrollAndRecheck_sat (fuel : ℕ) (context : RefActionContext) (handle : H)
    (request : ActionRequest) (lease : InteractionLease) :
    (scrollAndRecheck desktop fuel context handle request lease).Sat ApproachSpec := by
  refine Prog.Sat.bind (inspectError_sat (Prog.recordedCall_sat _ _)
    (fun error => desktop.traceBestEffort_sure _ _)) (fun _ log h => ?_)
    (fun error log h => ?_) (fun _ h => h.elim)
  · obtain rfl : log = [scrolled handle (.ok ())] := h
    refine Prog.Sat.mapError ((recheck_sat desktop fuel context request).mono ?_)
    rintro o log ⟨happroach, hfound⟩
    refine ⟨List.forall_mem_cons.mpr ⟨rfl, happroach⟩, fun handle' report ho => ?_, fun _ => ?_⟩
    · cases o with
      | ok found =>
        obtain rfl : found = (handle', report) := by cases ho; rfl
        exact ⟨[scrolled handle (.ok ())], by rw [hfound _ _ rfl]⟩
      | error error => cases ho
      | running => cases ho
    · cases o with
      | ok found => exact fun h => h
      | error error => exact disposition_afterScroll_ne error
      | running => exact fun h => h
  · obtain rfl : log = [scrolled handle (.error error)] := h
    refine ⟨by simp [isApproach], (fun _ _ h => nomatch h), ?_⟩
    show (∃ event ∈ [scrolled handle (.error error)], event.changesView) →
      ¬(error.disposition = .notDelivered)
    simp [changesView]

/-- **The handle of a dispatch** was resolved for it, and found actionable after that. -/
theorem actionableTarget_sat (fuel : ℕ) (context : RefActionContext) (request : ActionRequest)
    (lease : InteractionLease) :
    (actionableTarget desktop fuel context request lease).Sat ApproachSpec := by
  refine (resolveForDispatch_sat desktop context).bind (fun handle log h => ?_)
    (fun error log h => ?_) (fun log h => ?_)
  · obtain rfl : log = [resolved handle] := h
    refine (preflightTarget_sat desktop fuel context handle request).attempt_bind
      (fun report log h => ?_) (fun error log h => ?_) (fun log h => ?_)
    · obtain rfl : log = [preflighted handle] := h
      refine Prog.sat_pure ⟨by simp [isApproach], ?_, fun _ h => h⟩
      rintro _ _ ⟨⟩
      exact ⟨[], rfl⟩
    · obtain rfl : log = [] := h
      show Prog.Sat (if shouldScrollAfterPreflight request error.intoAdapterError = true
        then _ else _) _
      split
      · exact (scrollAndRecheck_sat desktop fuel context handle request lease).mono
          (fun _ _ h => h.resolved handle)
      · exact Prog.sat_fail ((ApproachSpec.nil (by simp)).resolved handle)
    · obtain rfl : log = [] := h
      exact (ApproachSpec.nil (by simp)).resolved handle
  · rw [h]
    exact .nil (by simp)
  · rw [h]
    exact .nil (by simp)

/-! ## Dispatching -/

/-- **The events of a dispatch**: an approach, and at most one delivery on the handle it
found. -/
inductive DispatchLog : List (RefActionEvent H) → Prop
  /-- Nothing was delivered. -/
  | undelivered {log : List (RefActionEvent H)} (happroach : ∀ event ∈ log, event.isApproach) :
      DispatchLog log
  /-- The delivery. -/
  | delivered {before delivery : List (RefActionEvent H)} {handle : H}
      (happroach : ∀ event ∈ before, event.isApproach)
      (hdelivery : DeliveryLog handle delivery) :
      DispatchLog (before ++ resolved handle :: preflighted handle :: delivery)

/-- What the error of a dispatch says of its events. -/
structure AdviceSpec (o : Outcome AdapterError ActionResult)
    (log : List (RefActionEvent H)) : Prop where
  /-- After a scroll, a safe retry is advised exactly when the delivery was refused. -/
  scrolled : ViewScrolled log → (AdvisesSafeRetry o ↔ DeliveryRefused log)
  /-- After an execution, a safe retry is advised only when its answer refuses. -/
  executed : AdvisesSafeRetry o → ∀ handle answer, executed handle answer ∈ log →
    AnswerRefuses answer

omit [BoundsHasher] in
theorem AdviceSpec.congr {o o' : Outcome AdapterError ActionResult}
    {log log' : List (RefActionEvent H)} (h : AdviceSpec o log)
    (ho : AdvisesSafeRetry o' ↔ AdvisesSafeRetry o) (hscrolled : SameOf isScrolled log log')
    (hdelivery : SameOf isDelivery log log') : AdviceSpec o' log' where
  scrolled := fun hview => by
    rw [ho, ← DeliveryRefused.congr hdelivery]
    exact h.scrolled ((ViewScrolled.congr hscrolled).mpr hview)
  executed := fun hadvice handle answer hmem =>
    h.executed (ho.mp hadvice) handle answer ((hdelivery _ rfl).mpr hmem)

omit [BoundsHasher] in
theorem DeliveryLog.answerRefuses {handle : H} {log : List (RefActionEvent H)}
    (h : DeliveryLog handle log) (hrefused : DeliveryRefused log) {handle' : H}
    {answer : Except AdapterError ActionResult} (hmem : executed handle' answer ∈ log) :
    AnswerRefuses answer := by
  cases h with
  | unannounced error => simp at hmem
  | delivered answer' verdicts =>
    obtain ⟨rfl, rfl⟩ : handle' = handle ∧ answer = answer' := by simpa using hmem
    rw [deliveryRefused_iff] at hrefused
    cases answer with
    | ok result => exact hrefused.1
    | error error => exact hrefused

omit [BoundsHasher] in
theorem AdviceSpec.of_approach {o : Outcome AdapterError ActionResult}
    {log : List (RefActionEvent H)} (happroach : ∀ event ∈ log, event.isApproach)
    (hadvice : ViewScrolled log → ¬AdvisesSafeRetry o) : AdviceSpec o log where
  scrolled := fun hview => by
    have hnone : SameOf isDelivery [] (log ++ [] ++ []) :=
      SameOf.append _ _ _ (fun event h => not_isDelivery_of_isApproach (happroach event h)) (by simp)
    rw [List.append_nil, List.append_nil] at hnone
    refine iff_of_false (hadvice hview) ?_
    rw [← DeliveryRefused.congr hnone]
    simp [DeliveryRefused]
  executed := fun _ _ _ hmem => absurd (happroach _ hmem) (by simp [isApproach])

omit [BoundsHasher] in
theorem DeliverySpec.adviceSpec {handle : H} {o : Outcome AdapterError ActionResult}
    {before delivery : List (RefActionEvent H)} (h : DeliverySpec handle o delivery)
    (happroach : ∀ event ∈ before, event.isApproach) : AdviceSpec o (before ++ delivery) := by
  have hsame : SameOf isDelivery delivery (before ++ delivery ++ []) :=
    SameOf.append _ _ _ (fun event h => not_isDelivery_of_isApproach (happroach event h)) (by simp)
  rw [List.append_nil] at hsame
  constructor
  · intro _
    rw [h.advice, DeliveryRefused.congr hsame]
  · intro hadvice handle' answer hmem
    exact h.shape.answerRefuses (h.advice.mp hadvice) ((hsame _ rfl).mpr hmem)

theorem dispatchResolved_sat (fuel : ℕ) (context : RefActionContext) (request : ActionRequest)
    (lease : InteractionLease) :
    (dispatchResolved desktop fuel context request lease).Sat (fun o log =>
      DispatchLog log ∧ AdviceSpec (o.mapError AppError.intoAdapterError) log) := by
  have happroach : (Prog.ofExcept (expectedProcessOf context.entry) >>= fun expectedProcess =>
      actionableTarget desktop fuel context request lease >>= fun found =>
        pure (found.1, found.2, expectedProcess) :
        RefProg σ H AdapterError (H × ActionabilityReport × ProcessIdentity)).Sat
      ApproachSpec := by
    refine (Prog.Quiet.ofExcept _).bind_sat (fun expectedProcess => ?_)
      (fun _ => .nil (by simp)) (.nil (by simp))
    refine (actionableTarget_sat desktop fuel context request lease).bind ?_ ?_ ?_
    · rintro ⟨handle, report⟩ log h
      refine Prog.sat_pure ?_
      rw [List.append_nil]
      refine ⟨h.approach, ?_, fun _ h => h⟩
      rintro _ _ ⟨⟩
      exact h.found handle report rfl
    · intro error log h
      exact ⟨h.approach, (fun _ _ h => by cases h), h.advice⟩
    · intro log h
      exact ⟨h.approach, (fun _ _ h => by cases h), h.advice⟩
  refine Prog.Sat.bind (Φ := fun o log => ApproachSpec (o.mapError AppError.intoAdapterError) log)
    (Prog.Sat.mapError (happroach.mono ?_)) ?_ ?_ ?_
  · rintro (found | error | _) log h <;> exact h
  · rintro ⟨handle, report, expectedProcess⟩ log h
    obtain ⟨before, rfl⟩ := h.found _ _ rfl
    refine (deliver_sat desktop fuel context handle _ expectedProcess lease).mono ?_
    intro o delivery hdelivery
    have happroach := hdelivery.adviceSpec h.approach
    rw [List.append_assoc]
    refine ⟨.delivered (fun event hevent => h.approach event ?_) hdelivery.shape, ?_⟩
    · exact List.mem_append_left _ hevent
    · rwa [List.append_assoc] at happroach
  · intro error log h
    exact ⟨.undelivered h.approach, .of_approach h.approach h.advice⟩
  · intro log h
    exact ⟨.undelivered h.approach, .of_approach h.approach h.advice⟩

/-! ## Under the lease -/

omit [BoundsHasher] in
theorem focusWhenRequired_quiet (context : RefActionContext) (request : ActionRequest)
    (lease : InteractionLease) : (focusWhenRequired desktop context request lease).Quiet := by
  unfold focusWhenRequired
  split
  · refine Prog.Quiet.bind ?_ (fun _ => .pure _)
    refine (Prog.Quiet.ofExcept _).bind (fun processInstance => ?_)
    refine (Prog.Quiet.ofExcept _).bind (fun windowId => ?_)
    refine Prog.Quiet.bind (.mapError (.call _) _) (fun live => ?_)
    split
    · exact .fail _
    · exact Prog.Quiet.bind (.mapError (.call _) _)
        (fun _ => (desktop.trace_quiet _ _).bind (fun _ => .pure _))
  · exact .pure _

theorem executeSingleShot_sat (fuel : ℕ) (context : RefActionContext) (request : ActionRequest)
    (lease : InteractionLease) :
    (executeSingleShot desktop fuel context request lease).Sat (fun o log =>
      DispatchLog log ∧ AdviceSpec o log) := by
  have hnone : ∀ o : Outcome AdapterError ActionResult,
      DispatchLog ([] : List (RefActionEvent H)) ∧ AdviceSpec o ([] : List (RefActionEvent H)) :=
    fun o => ⟨.undelivered (by simp), .of_approach (by simp) (by simp [ViewScrolled])⟩
  refine Prog.Sat.mapError ?_
  exact (focusWhenRequired_quiet desktop context request lease).bind_sat
    (fun _ => dispatchResolved_sat desktop fuel context request lease) (fun _ => hnone _) (hnone _)

/-- **What is recorded under the lease**: a dispatch, and giving the lease back. -/
structure LeaseSpec (o : Outcome AdapterError ActionResult) (log : List (RefActionEvent H)) :
    Prop where
  /-- The events. -/
  shape : ∃ dispatch tail, log = dispatch ++ tail ∧ DispatchLog dispatch
    ∧ (tail = [] ∨ tail = [leaseReleased])
  advice : AdviceSpec o log

omit [BoundsHasher] in
theorem LeaseSpec.of_dispatch {o o' : Outcome AdapterError ActionResult}
    {dispatch tail : List (RefActionEvent H)} (hdispatch : DispatchLog dispatch)
    (hadvice : AdviceSpec o dispatch) (ho : AdvisesSafeRetry o' ↔ AdvisesSafeRetry o)
    (htail : tail = [] ∨ tail = [leaseReleased]) : LeaseSpec o' (dispatch ++ tail) where
  shape := ⟨dispatch, tail, rfl, hdispatch, htail⟩
  advice := by
    have hsame : ∀ kind : RefActionEvent H → Bool, ¬kind leaseReleased →
        SameOf kind dispatch (dispatch ++ tail) := fun kind hkind => by
      refine SameOf.append [] dispatch tail (by simp) ?_
      rcases htail with rfl | rfl
      · simp
      · exact List.forall_mem_singleton.mpr hkind
    exact hadvice.congr ho (hsame _ (by simp [isScrolled])) (hsame _ (by simp [isDelivery]))

omit [BoundsHasher] in
theorem sat_releaseLease_bind {ε α : Type} {lease : InteractionLease}
    {p : Unit → RefProg σ H ε α} {Ψ : Outcome ε α → List (RefActionEvent H) → Prop}
    (h : (p ()).Sat (fun o log => Ψ o (leaseReleased :: log))) :
    (releaseLease desktop lease >>= p).Sat Ψ :=
  fun s => h (desktop.releaseInteractionLease lease s).2

theorem executeUnderLease_sat (fuel : ℕ) (context : RefActionContext) (request : ActionRequest)
    (state : RefActionPollState) (lease : InteractionLease) :
    (executeUnderLease desktop fuel context request state lease).Sat LeaseSpec := by
  have hnone : ∀ o : Outcome AdapterError ActionResult,
      LeaseSpec o ([] ++ [leaseReleased (H := H)]) := fun o =>
    .of_dispatch (.undelivered (by simp))
      (.of_approach (by simp) (by simp [ViewScrolled])) Iff.rfl (.inr rfl)
  refine (desktop.isExpired_sure _).bind_sat (fun expired => ?_)
  cases expired with
  | true =>
    refine (desktop.timeoutError_sure _).bind_sat (fun error => ?_)
    exact sat_releaseLease_bind desktop (Prog.sat_fail (hnone _))
  | false =>
    refine desktop.clock_sure.bind_sat (fun now => desktop.clock_sure.bind_sat (fun started => ?_))
    refine (executeSingleShot_sat desktop fuel context _ lease).attempt_bind ?_ ?_ ?_
    · intro result log h
      refine desktop.clock_sure.bind_sat (fun now => ?_)
      refine sat_releaseLease_bind desktop (Prog.sat_ask_bind (fun _ => Prog.sat_pure ?_))
      exact .of_dispatch h.1 h.2 Iff.rfl (.inr rfl)
    · intro error log h
      refine sat_releaseLease_bind desktop (Prog.sat_ask_bind (fun _ => Prog.sat_fail ?_))
      exact .of_dispatch h.1 h.2 Iff.rfl (.inr rfl)
    · intro log h
      have hrunning := LeaseSpec.of_dispatch h.1 h.2 Iff.rfl (.inl rfl)
      rwa [List.append_nil] at hrunning

/-! ## Waiting -/

omit [BoundsHasher] in
theorem classifyError_quiet {ε : Type} (error : AdapterError) (deadline : Deadline) :
    (classifyError desktop error deadline : RefProg σ H ε _).Quiet := by
  unfold classifyError
  split
  · exact .pure _
  · split
    · exact .pure _
    · refine (desktop.isExpired_sure _).quiet.bind (fun expired => ?_)
      cases expired <;> exact .pure _

omit [BoundsHasher] in
theorem resolveWithinDeadline_only {ε : Type} (entry : RefEntry) (deadline : Deadline) :
    (resolveWithinDeadline desktop entry deadline : RefProg σ H ε _).Only
      (fun event => event.isResolved) := by
  refine (desktop.isExpired_sure _).quiet.only.bind (fun expired => ?_)
  cases expired with
  | true => exact (Prog.Quiet.pure _).only
  | false =>
    refine desktop.clock_sure.quiet.only.bind (fun now => ?_)
    refine (Prog.OnOk.only (resolveTarget_sat desktop _ _) (fun _ => rfl)).attempt.bind
      (fun answer => ?_)
    cases answer with
    | ok handle =>
      refine (desktop.isExpired_sure _).quiet.only.bind (fun expired => ?_)
      cases expired <;> exact (Prog.Quiet.pure _).only
    | error error => exact (classifyError_quiet desktop error deadline).only

omit [BoundsHasher] in
theorem ensureBeforeDeadline_quiet (deadline : Deadline) (state : RefActionPollState) :
    (ensureBeforeDeadline desktop deadline state).Quiet := by
  refine (desktop.isExpired_sure _).quiet.bind (fun expired => ?_)
  cases expired with
  | true => exact desktop.clock_sure.quiet.bind (fun _ => .fail _)
  | false => exact .pure _

omit [BoundsHasher] in
theorem sleepUntilNextPoll_quiet {ε : Type} (deadline : Deadline) (interval : ℕ) :
    (sleepUntilNextPoll desktop deadline interval : RefProg σ H ε Unit).Quiet := by
  refine desktop.clock_sure.quiet.bind (fun now => ?_)
  show Prog.Quiet (if _ then _ else _)
  split
  · exact .pure _
  · exact .ask _

omit [BoundsHasher] in
theorem handleResolveFailure_quiet (context : RefActionContext) (state : RefActionPollState)
    (error : AdapterError) : (handleResolveFailure desktop context state error).Quiet := by
  unfold handleResolveFailure
  split
  · exact (desktop.traceBestEffort_sure _ _).quiet.bind (fun _ => .fail _)
  · exact (sleepUntilNextPoll_quiet desktop _ _).bind (fun _ => .pure _)

omit [BoundsHasher] in
theorem handleActionabilityFailure_quiet (state : RefActionPollState) (error : AdapterError)
    (deadline : Deadline) : (handleActionabilityFailure desktop state error deadline).Quiet := by
  unfold handleActionabilityFailure
  split
  · exact .fail _
  · exact (ensureBeforeDeadline_quiet desktop _ _).bind
      (fun _ => (sleepUntilNextPoll_quiet desktop _ _).bind (fun _ => .pure _))

theorem pollOnce_only (context : RefActionContext) (request : ActionRequest)
    (state : RefActionPollState) :
    (pollOnce desktop context request state).Only (fun event => event.isResolved) := by
  refine (resolveWithinDeadline_only desktop _ _).bind (fun outcome => Prog.Quiet.only ?_)
  cases outcome with
  | deadlinePassed => exact desktop.clock_sure.quiet.bind (fun _ => .fail _)
  | failed error => exact (handleResolveFailure_quiet desktop _ _ _).bind (fun _ => .pure _)
  | resolved handle =>
    refine (desktop.traceBestEffort_sure _ _).quiet.bind (fun _ => ?_)
    refine (ensureBeforeDeadline_quiet desktop _ _).bind (fun _ => ?_)
    refine (checkActionabilityWithTrace_quiet _ _ _ _).attempt.bind (fun answer => ?_)
    cases answer with
    | ok report => exact (ensureBeforeDeadline_quiet desktop _ _).bind (fun _ => .pure _)
    | error error =>
      show Prog.Quiet (if _ then _ else _)
      split
      · exact (ensureBeforeDeadline_quiet desktop _ _).bind (fun _ => .pure _)
      · exact (handleActionabilityFailure_quiet desktop _ _ _).bind (fun _ => .pure _)

/-- **The poll** resolves, and does nothing else to the target, however long it lasts. -/
theorem executePollLoop_only (context : RefActionContext) (request : ActionRequest) (fuel : ℕ)
    (state : RefActionPollState) :
    (executePollLoop desktop context request fuel state).Only (fun event => event.isResolved) := by
  induction fuel generalizing state with
  | zero => exact Prog.Quiet.cutOff.only
  | succ fuel ih =>
    refine (pollOnce_only desktop context request state).bind (fun (state, ended) => ?_)
    cases ended with
    | true => exact (Prog.Quiet.pure _).only
    | false => exact ih state

/-! ## The whole run

A run is a poll, which only resolves, and a dispatch under the lease. What is around the dispatch
adds resolutions and the lease to the log, neither of which belongs to the delivery; so what the
dispatch advises is what the run advises. -/

/-- **What a run records**: the poll, and a dispatch under the lease. -/
inductive RunLog : List (RefActionEvent H) → Prop
  /-- The lease was not taken. -/
  | waited {log : List (RefActionEvent H)} (hwaited : ∀ event ∈ log, event.isResolved) : RunLog log
  /-- The lease was taken. -/
  | leased {waiting dispatch tail : List (RefActionEvent H)}
      (hwaited : ∀ event ∈ waiting, event.isResolved) (hdispatch : DispatchLog dispatch)
      (htail : tail = [] ∨ tail = [leaseReleased]) :
      RunLog (waiting ++ leaseAcquired :: (dispatch ++ tail))

/-- What a run records, and what its error says of that. -/
structure RunSpec (o : Outcome AdapterError ActionResult) (log : List (RefActionEvent H)) :
    Prop where
  shape : RunLog log
  advice : AdviceSpec o log

omit [BoundsHasher] in
theorem RunSpec.waited {log : List (RefActionEvent H)}
    (hwaited : ∀ event ∈ log, event.isResolved) (o : Outcome AdapterError ActionResult) :
    RunSpec o log where
  shape := .waited hwaited
  advice := .of_approach (fun event hevent => isApproach_of_isResolved (hwaited event hevent))
    (fun ⟨event, hmem, hview⟩ => absurd hview (by
      have hresolved := hwaited event hmem
      cases event <;> simp [isResolved, changesView] at hresolved ⊢))

omit [BoundsHasher] in
theorem LeaseSpec.run {o : Outcome AdapterError ActionResult}
    {waiting log : List (RefActionEvent H)} (h : LeaseSpec o log)
    (hwaited : ∀ event ∈ waiting, event.isResolved) :
    RunSpec o (waiting ++ leaseAcquired :: log) where
  shape := by
    obtain ⟨dispatch, tail, rfl, hdispatch, htail⟩ := h.shape
    exact .leased hwaited hdispatch htail
  advice := by
    have hsame : ∀ kind : RefActionEvent H → Bool, ¬kind leaseAcquired →
        (∀ handle, ¬kind (resolved handle)) →
          SameOf kind log (waiting ++ leaseAcquired :: log) := fun kind hlease hresolved => by
      have h : SameOf kind log (waiting ++ [leaseAcquired] ++ log ++ []) :=
        SameOf.append (waiting ++ [leaseAcquired]) log [] ?_ (by simp)
      · simpa using h
      · intro event hevent
        rcases List.mem_append.mp hevent with h | h
        · have hkind := hwaited event h
          cases event <;> simp [isResolved] at hkind
          exact hresolved _
        · rw [List.mem_singleton.mp h]
          exact hlease
    exact h.advice.congr Iff.rfl (hsame _ (by simp [isScrolled]) (by simp [isScrolled]))
      (hsame _ (by simp [isDelivery]) (by simp [isDelivery]))

omit [BoundsHasher] in
theorem RunSpec.congr {o o' : Outcome AdapterError ActionResult}
    {log : List (RefActionEvent H)} (h : RunSpec o log)
    (ho : AdvisesSafeRetry o' ↔ AdvisesSafeRetry o) : RunSpec o' log where
  shape := h.shape
  advice := h.advice.congr ho (fun _ _ => Iff.rfl) (fun _ _ => Iff.rfl)

theorem executeWithDeadline_sat (fuel : ℕ) (context : RefActionContext)
    (request : ActionRequest) :
    (executeWithDeadline desktop fuel context request).Sat RunSpec := by
  have hpoll : (pollUntilActionable desktop fuel context request).Only
      (fun event => event.isResolved) := by
    unfold pollUntilActionable
    split
    · exact executePollLoop_only desktop context request fuel _
    · exact (Prog.Quiet.pure _).only
  have hlease : ∀ state : RefActionPollState, (Prog.mapError state.attachErrorMetrics
      (acquireLease desktop context.deadline)).Sat (Prog.OnOk (fun _ => leaseAcquired)) :=
    fun state => Prog.Sat.mapError
      ((Prog.sat_record (.call _) (fun _ => leaseAcquired)).mono (fun _ _ h => h.mapError _))
  refine Prog.Sat.bind hpoll (fun state waiting hwaiting => ?_) (fun _ _ h => .waited h _)
    (fun _ h => .waited h _)
  refine Prog.sat_ask_bind (fun _ => ?_)
  refine (hlease state).bind (fun lease log h => ?_) (fun _ log h => ?_) (fun log h => ?_)
  · obtain rfl : log = [leaseAcquired] := h
    exact (executeUnderLease_sat desktop fuel context request state lease).mono
      (fun _ _ h => h.run hwaiting)
  · obtain rfl : log = [] := h
    rw [List.append_nil]
    exact .waited hwaiting _
  · obtain rfl : log = [] := h
    rw [List.append_nil]
    exact .waited hwaiting _

omit [BoundsHasher] in
theorem processIdentityMatches_sure {ε : Type} (entry : RefEntry) (deadline : Deadline) :
    (processIdentityMatches desktop entry deadline : RefProg σ H ε _).Sure := by
  unfold processIdentityMatches
  split
  · refine (Prog.Sure.ask _).bind (fun answer => ?_)
    cases answer with
    | error _ => exact .pure _
    | ok apps =>
      dsimp only
      split <;> exact .pure _
  · exact .pure _

omit [BoundsHasher] in
theorem enrichWithProcessState_sat {ε : Type} (entry : RefEntry) (error : AdapterError)
    (deadline : Deadline) :
    (enrichWithProcessState desktop entry error deadline : RefProg σ H ε _).Sat (fun o log =>
      log = [] ∧ ∃ enriched, o = .ok enriched ∧ enriched.disposition = error.disposition) := by
  have hkeep : (pure error : RefProg σ H ε _).Sat (fun o log =>
      log = [] ∧ ∃ enriched, o = .ok enriched ∧ enriched.disposition = error.disposition) :=
    Prog.sat_pure ⟨rfl, error, rfl, rfl⟩
  unfold enrichWithProcessState
  split
  · exact hkeep
  · split
    · exact hkeep
    · refine Prog.sat_ask_bind (fun answer => ?_)
      cases answer with
      | error _ => exact hkeep
      | ok state =>
        show Prog.Sat (if state = .unresponsive then _ else _) _
        split
        · refine (processIdentityMatches_sure desktop _ _).bind_sat (fun same => ?_)
          cases same with
          | true => exact Prog.sat_pure ⟨rfl, _, rfl, rfl⟩
          | false => exact hkeep
        · exact Prog.sat_pure ⟨rfl, _, rfl, rfl⟩

/-- **A run of a ref action**, whatever the desktop answers. -/
theorem executeWithAutoWait_sat (fuel : ℕ) (entry : RefEntry) (refId : String)
    (request : ActionRequest) :
    (executeWithAutoWait desktop fuel entry refId request).Sat RunSpec := by
  have hdeadline : (operationDeadline desktop request).Quiet :=
    desktop.clock_sure.quiet.bind (fun _ => .ofExcept _)
  refine hdeadline.bind_sat (fun deadline => ?_) (fun _ => .waited (by simp) _)
    (.waited (by simp) _)
  refine (executeWithDeadline_sat desktop fuel ⟨entry, refId, deadline⟩ request).attempt_bind
    (fun result log h => Prog.sat_pure ?_) (fun error log h => ?_) (fun _ h => h)
  · rw [List.append_nil]
    exact h
  · have h' : RunSpec (.error error) (log ++ []) := by rwa [List.append_nil]
    refine (desktop.isExpired_sure _).bind_sat (fun expired => ?_)
    cases expired with
    | true => exact Prog.sat_fail h'
    | false =>
      refine (enrichWithProcessState_sat desktop entry error deadline).bind ?_ ?_ ?_
      · rintro enriched _ ⟨rfl, _, ⟨⟩, hkeep⟩
        refine Prog.sat_fail (h'.congr ?_)
        show enriched.disposition = _ ↔ error.disposition = _
        rw [hkeep]
      · rintro _ _ ⟨_, _, ⟨⟩, _⟩
      · rintro _ ⟨_, _, ⟨⟩, _⟩

end AgentDesktop
