import AgentDesktop.RefActionRun
import AgentDesktop.Reference

/-!
# The delivery of a ref action

A run executes the action at most once, under the interaction lease, on a handle
that was resolved and found actionable under it. When a run ends with an error
that says that nothing was delivered, then nothing was executed, or the adapter
said so itself. A scroll before the delivery, though, changes the view: what
fails between the scroll and the delivery says so, and what refuses the delivery
itself does not.
-/

namespace AgentDesktop

open RefActionEvent

/-! ## At most once -/

section

variable {σ H : Type}

/-- **A handle is cleared for delivery** at the end of a log: the lease is held, and under
it the handle was resolved and then found actionable; since then the dispatch has been
announced at most. -/
def ClearedFor (handle : H) (log : List (RefActionEvent H)) : Prop :=
  ∃ waiting approach since : List (RefActionEvent H),
    log = waiting ++ leaseAcquired :: (approach ++ resolved handle :: preflighted handle :: since)
      ∧ (∀ event ∈ approach, event.isApproach) ∧ ∀ event ∈ since, ∃ answer, event = announced answer

theorem RunLog.execution {log : List (RefActionEvent H)} (h : RunLog log) :
    (∀ event ∈ log, ¬event.isExecuted) ∨
      ∃ before handle answer after, log = before ++ executed handle answer :: after
        ∧ ClearedFor handle before ∧ (∀ event ∈ before, ¬event.isExecuted)
        ∧ ∀ event ∈ after, ¬event.isExecuted := by
  have hresolved : ∀ event : RefActionEvent H, event.isResolved → ¬event.isExecuted := by
    intro event h
    cases event <;> simp [isResolved, isExecuted] at h ⊢
  have happroach : ∀ event : RefActionEvent H, event.isApproach → ¬event.isExecuted := by
    intro event h
    cases event <;> simp [isApproach, isExecuted] at h ⊢
  cases h with
  | waited hwaited => exact .inl (fun event hevent => hresolved event (hwaited event hevent))
  | @leased waiting dispatch tail hwaited hdispatch htail =>
    have hwaiting : ∀ event ∈ waiting, ¬event.isExecuted := fun event hevent =>
      hresolved event (hwaited event hevent)
    have htail : ∀ event ∈ tail, ¬event.isExecuted := by
      rcases htail with rfl | rfl <;> simp [isExecuted]
    cases hdispatch with
    | undelivered hundelivered =>
      refine .inl (List.forall_mem_append.mpr ⟨hwaiting, List.forall_mem_cons.mpr
        ⟨by simp [isExecuted], List.forall_mem_append.mpr ⟨fun event hevent =>
          happroach event (hundelivered event hevent), htail⟩⟩⟩)
    | @delivered before delivery handle hbefore hdelivery =>
      have hbefore' : ∀ event ∈ before, ¬event.isExecuted := fun event hevent =>
        happroach event (hbefore event hevent)
      cases hdelivery with
      | unannounced error =>
        refine .inl ?_
        simp only [List.forall_mem_append, List.forall_mem_cons]
        exact ⟨hwaiting, by simp [isExecuted], ⟨hbefore', by simp [isExecuted]⟩, htail⟩
      | delivered answer verdicts =>
        refine .inr ⟨waiting ++ leaseAcquired :: (before ++ resolved handle ::
          preflighted handle :: [announced (.ok ())]), handle, answer,
          verdicts.map verified ++ tail, by simp,
          ⟨waiting, before, _, rfl, hbefore, by simp⟩, ?_, ?_⟩
        · simp only [List.forall_mem_append, List.forall_mem_cons]
          exact ⟨hwaiting, by simp [isExecuted], hbefore', by simp [isExecuted]⟩
        · simp only [List.forall_mem_append]
          exact ⟨by simp [isExecuted], htail⟩

variable [BoundsHasher] (desktop : Desktop σ H)

/-- **At most once, under the lease, on a fresh handle**: in every run the action is
executed at most once, and whenever it is executed, it is executed on a handle that is
cleared for delivery. -/
theorem executeWithAutoWait_executes_once (fuel : ℕ) (entry : RefEntry) (refId : String)
    (request : ActionRequest) (s : σ) :
    ((executeWithAutoWait desktop fuel entry refId request).events s).countP isExecuted ≤ 1
      ∧ ∀ before handle answer after,
        (executeWithAutoWait desktop fuel entry refId request).events s
            = before ++ executed handle answer :: after →
          ClearedFor handle before := by
  rcases (executeWithAutoWait_sat desktop fuel entry refId request s).shape.execution with
    hnone | ⟨before, handle, answer, after, hlog, hcleared, hbefore, hafter⟩
  · refine ⟨?_, fun before handle answer after hlog => ?_⟩
    · rw [List.countP_eq_zero.mpr hnone]
      exact Nat.zero_le 1
    · exact absurd rfl (hnone (executed handle answer) (by rw [hlog]; simp))
  · refine ⟨?_, fun before' handle' answer' after' hlog' => ?_⟩
    · rw [hlog, List.countP_append, List.countP_cons,
        List.countP_eq_zero.mpr hbefore, List.countP_eq_zero.mpr hafter]
      simp [isExecuted]
    · have hsame := (List.append_cons_inj_of_notMem
        (fun h => hbefore (executed handle' answer') h rfl)
        (fun h => hafter (executed handle' answer') h rfl)).mp (hlog.symm.trans hlog')
      obtain ⟨rfl, ⟨⟩, rfl⟩ := hsame
      exact hcleared

end

/-! ## A sample: a combo box out of view -/

namespace Sample

/-- A combo box, in view or not. -/
def comboBox (inView : Bool) : LiveElement where
  identity := ⟨.absent, .absent, ⟨[], none, true, none⟩⟩
  state := ⟨"combobox", [], none, some true, some false, some (!inView)⟩
  statesComplete := true
  bounds := some ⟨.finite 0, .finite 0, .finite 10, .finite 10⟩
  availableActions := [Capability.select]

/-- The ref of the combo box. -/
def comboBoxEntry : RefEntry where
  process := ⟨7, some "7-1"⟩
  identity := ⟨none, "combobox", none, none, none, none⟩
  geometry := ⟨none, none⟩
  capabilities := ⟨[], [Capability.select]⟩
  source := ⟨some "Settings", none, none, none, .window⟩
  scope := ⟨none, false, [0]⟩

/-- Selecting an option, without waiting. -/
def selectRequest : ActionRequest := ⟨.select "Blue", .headless, none, none, none⟩

/-- A desktop with the combo box, which comes into view when it is scrolled to. The
selection is answered as given. -/
def comboBoxDesktop (answer : Except AdapterError ActionResult) : Desktop Bool Unit where
  now := fun inView => (0, inView)
  inheritedDeadline := none
  sleep := fun _ inView => ((), inView)
  resolveElementStrict := fun _ _ inView => (.ok (), inView)
  getLiveElement := fun _ _ inView => (.ok (comboBox inView), inView)
  getElementBounds := fun _ _ inView => (.ok (comboBox inView).bounds, inView)
  getTextSelection := fun _ _ inView => (.ok none, inView)
  hitTest := fun _ _ _ inView => (.ok .reachesTarget, inView)
  acquireInteractionLease := fun deadline inView => (.ok ⟨deadline, 0⟩, inView)
  releaseInteractionLease := fun _ inView => ((), inView)
  scrollIntoView := fun _ _ _ => (.ok (), true)
  executeAction := fun _ _ _ inView => (answer, inView)
  resolveWindowStrict := fun window _ inView => (.ok window, inView)
  focusWindow := fun _ _ inView => (.ok (), inView)
  listSurfaces := fun _ _ inView => (.ok [], inView)
  processState := fun _ _ inView => (.ok .running, inView)
  listApps := fun _ inView => (.ok [], inView)
  traceLazy := fun _ _ inView => (.ok (), inView)
  present := fun inView => ((), inView)

/-- The adapter finds no such option. -/
def optionMissing : AdapterError :=
  (AdapterError.new .elementNotFound "No option matches").withDisposition .notDelivered

/-- The run that selects the option. -/
def selectRun (answer : Except AdapterError ActionResult) :
    RefProg Bool Unit AdapterError ActionResult :=
  @executeWithAutoWait _ _ noBoundsHash (comboBoxDesktop answer) 1 comboBoxEntry "@e1" selectRequest

/-- How a run ends, as far as the advice is concerned. -/
def safeRetryAdvised (o : Outcome AdapterError ActionResult) : Bool :=
  match o with
  | .error error => error.disposition == .notDelivered
  | .ok _ | .running => false

theorem exists_of_safeRetryAdvised {o : Outcome AdapterError ActionResult}
    (h : safeRetryAdvised o) : ∃ error, o = .error error ∧ error.disposition = .notDelivered := by
  cases o with
  | error error => exact ⟨error, rfl, by simpa [safeRetryAdvised] using h⟩
  | ok result => simp [safeRetryAdvised] at h
  | running => simp [safeRetryAdvised] at h

theorem selectRun_refused :
    ∃ error, (selectRun (.error optionMissing)).outcome false = .error error
      ∧ error.disposition = .notDelivered :=
  exists_of_safeRetryAdvised (by decide)

end Sample

/-! ## What a safe retry means -/

section

variable {σ H : Type} [BoundsHasher] (desktop : Desktop σ H)

/-- **A safe retry is advised only where nothing was delivered**: when a run ends with an
error that says that nothing was delivered, every execution in it was refused by the
adapter's own answer. -/
theorem executeWithAutoWait_notDelivered (fuel : ℕ) (entry : RefEntry) (refId : String)
    (request : ActionRequest) (s : σ) {error : AdapterError}
    (hend : (executeWithAutoWait desktop fuel entry refId request).outcome s = .error error)
    (hadvice : error.disposition = .notDelivered) :
    ∀ handle answer,
      executed handle answer ∈ ((executeWithAutoWait desktop fuel entry refId request).events s) →
        AnswerRefuses answer := by
  have hspec := executeWithAutoWait_sat desktop fuel entry refId request s
  refine hspec.advice.executed ?_
  rw [hend]
  exact hadvice

end

/-- The adapter refuses the selection: nothing was delivered, and that is reported. -/
theorem executeWithAutoWait_notDelivered_sample :
    ∃ error, (Sample.selectRun (.error Sample.optionMissing)).outcome false = .error error
      ∧ error.disposition = .notDelivered
      ∧ ∀ handle answer,
        executed handle answer ∈ (Sample.selectRun (.error Sample.optionMissing)).events false →
          AnswerRefuses answer := by
  obtain ⟨error, hend, hadvice⟩ := Sample.selectRun_refused
  exact ⟨error, hend, hadvice, @executeWithAutoWait_notDelivered _ _ Sample.noBoundsHash _ _ _ _ _ _
    error hend hadvice⟩

/-! ## What a scroll means -/

section

variable {σ H : Type} [BoundsHasher] (desktop : Desktop σ H)

/-- **After a scroll a safe retry is not advised, exactly when the delivery was not
refused**: not by the announcement of the dispatch, not by the adapter's answer, and not by
the read-back of an answer that nothing was delivered. -/
theorem executeWithAutoWait_scrolled_iff (fuel : ℕ) (entry : RefEntry) (refId : String)
    (request : ActionRequest) (s : σ)
    (hscrolled : ViewScrolled ((executeWithAutoWait desktop fuel entry refId request).events s)) :
    (∀ error, (executeWithAutoWait desktop fuel entry refId request).outcome s = .error error →
        error.disposition ≠ .notDelivered)
      ↔ ¬DeliveryRefused ((executeWithAutoWait desktop fuel entry refId request).events s) := by
  have hadvice := (executeWithAutoWait_sat desktop fuel entry refId request s).advice.scrolled
    hscrolled
  rw [← hadvice]
  cases (executeWithAutoWait desktop fuel entry refId request).outcome s <;> simp [AdvisesSafeRetry]

end

/-- **A run that scrolled its target into view and then advises a safe retry**: the adapter
refuses the selection, and its answer is passed on as it is. -/
theorem executeWithAutoWait_scrolled_safe_retry :
    ViewScrolled ((Sample.selectRun (.error Sample.optionMissing)).events false)
      ∧ ∃ error, (Sample.selectRun (.error Sample.optionMissing)).outcome false = .error error
        ∧ error.disposition = .notDelivered :=
  ⟨by decide, Sample.selectRun_refused⟩

/-- The adapter makes the selection: the run scrolled, and does not end with the advice. -/
theorem executeWithAutoWait_scrolled_iff_sample :
    ViewScrolled ((Sample.selectRun (.ok (.deliveredUnverified "select"))).events false)
      ∧ ∀ error,
        (Sample.selectRun (.ok (.deliveredUnverified "select"))).outcome false = .error error →
          error.disposition ≠ .notDelivered :=
  ⟨by decide, (@executeWithAutoWait_scrolled_iff _ _ Sample.noBoundsHash
    (Sample.comboBoxDesktop (.ok (.deliveredUnverified "select"))) 1 Sample.comboBoxEntry "@e1"
    Sample.selectRequest false (by decide)).mpr (by decide)⟩

end AgentDesktop
