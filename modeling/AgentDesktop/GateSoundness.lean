import AgentDesktop.Delivery

/-!
# What a report vouches for

An evaluation of the checks ends with a report only where nothing stands in the
way of the action. Every check it made has passed, with one exception: whether
the target receives events may stay open, as long as no hit test found another
element there. A point is reported as verified only where the adapter answered
for it, and a physical delivery only where the cursor may be moved.

The hit tests of an evaluation are read off the environment: each is asked of
the state the one before it left.
-/

namespace AgentDesktop

variable {σ H : Type} (desktop : Desktop σ H)

/-- `check_with_stability`, with a handle to hit-test or without one. -/
def checkWithStabilityIn [BoundsHasher] (stability : StabilityExpectation) (evidence : ActionabilityEvidence)
    (request : ActionRequest) (hitTest : Option H) (deadline : Deadline) :
    RefProg σ H AdapterError ActionabilityReport :=
  match hitTest with
  | some handle => checkWithStability desktop stability evidence request handle deadline
  | none =>
    let requirements := ActionabilityRequirements.forAction request.action
    let delivery :=
      requirements.pointerDelivery request.action evidence.availableActions request.policy
    let point := evidence.bounds.bind centerPoint
    let checks := semanticChecks stability evidence request requirements delivery
    let checks :=
      if checks.any (fun check => check.status != .pass) || delivery != .physical then checks
      else checks ++ [.unknown "receives_events" "live hit-test context unavailable"]
    Prog.ofExcept (finishReport evidence (.fromChecks checks none point evidence.bounds delivery))

/-! ## The hit tests of an evaluation -/

/-- A hit test: the point, and what the adapter answered. -/
abbrev HitTest : Type := Point × Except AdapterError HitTestResult

/-- The adapter says that another element is in the way. -/
def HitTest.isOccluded (test : HitTest) : Bool :=
  match test.2 with
  | .ok (.interceptedBy _ _ _) => true
  | _ => false

/-- The adapter says that the point reaches the target. -/
def HitTest.Reaches (test : HitTest) : Prop := test.2 = .ok .reachesTarget

/-- **The hit tests made one after another** on a handle, from one state to another. -/
inductive HitTests (hitTest : Option H) (deadline : Deadline) : σ → List HitTest → σ → Prop
  /-- None. -/
  | done (s : σ) : HitTests hitTest deadline s [] s
  /-- One, and those that follow it. -/
  | test {handle : H} {point : Point} {s s' : σ} {rest : List HitTest}
    (hhandle : hitTest = some handle)
    (hrest : HitTests hitTest deadline (desktop.hitTest handle point deadline s).2 rest s') :
    HitTests hitTest deadline s
      ((point, (desktop.hitTest handle point deadline s).1) :: rest) s'

/-! ## The loop over the points -/

/-- What the loop answers when its hit tests are these, and so many points were found
covered before. -/
structure HitTestAnswer (covered : ℕ) (tests : List HitTest) (check : ActionabilityCheck)
    (verified : Option Point) : Prop where
  /-- It is the check of the events. -/
  name : check.check = "receives_events"
  /-- It counts the points that are covered. -/
  counted : ∃ evidence, check.hitTest = some evidence
    ∧ evidence.occluded = covered + tests.countP HitTest.isOccluded
  /-- A verified point was answered for. -/
  verified : ∀ point, verified = some point → ∃ test ∈ tests, test.1 = point ∧ test.Reaches

namespace HitTestAnswer

variable {covered : ℕ} {tests : List HitTest} {check : ActionabilityCheck}
  {verified : Option Point}

theorem cons {test : HitTest} {covered' : ℕ}
    (h : HitTestAnswer covered' tests check verified)
    (hcovered : covered' = covered + if test.isOccluded then 1 else 0) :
    HitTestAnswer covered (test :: tests) check verified where
  name := h.name
  counted := by
    obtain ⟨evidence, hevidence, hcount⟩ := h.counted
    refine ⟨evidence, hevidence, ?_⟩
    rw [hcount, hcovered, List.countP_cons]
    omega
  verified := fun point hpoint => by
    obtain ⟨found, hfound, heq⟩ := h.verified point hpoint
    exact ⟨found, List.mem_cons_of_mem _ hfound, heq⟩

end HitTestAnswer

theorem inconclusiveHitTest_answer (evidence : HitTestEvidence) (firstOcclusion : Option Occluder) :
    HitTestAnswer evidence.occluded [] (inconclusiveHitTest evidence firstOcclusion) none where
  name := by
    unfold inconclusiveHitTest
    cases firstOcclusion with
    | none => rfl
    | some occluder =>
      show (if 0 < evidence.unknown then _ else _ : ActionabilityCheck).check = _
      split <;> rfl
  counted := ⟨evidence, rfl, rfl⟩
  verified := fun _ h => nomatch h

/-- **The loop over the points**: the hit tests it makes are of the first of the points, and
its answer is the answer to them. The induction is on the points that are left. -/
theorem hitTestPoints_tests (handle : H) (deadline : Deadline) (points : List Point)
    (evidence : HitTestEvidence) (firstOcclusion : Option Occluder) (s : σ) :
    ∃ tests, HitTests desktop (some handle) deadline s tests
        ((hitTestPoints desktop handle deadline points evidence firstOcclusion).state s)
      ∧ tests.map Prod.fst <+: points
      ∧ ∀ check verified,
        (hitTestPoints desktop handle deadline points evidence firstOcclusion).outcome s
            = .ok (check, verified) →
          HitTestAnswer evidence.occluded tests check verified := by
  induction points generalizing evidence firstOcclusion s with
  | nil =>
    refine ⟨[], .done s, List.prefix_rfl, fun check verified h => ?_⟩
    obtain ⟨rfl, rfl⟩ : inconclusiveHitTest evidence firstOcclusion = check ∧ none = verified :=
      Prod.mk.inj (Outcome.ok.inj h)
    exact inconclusiveHitTest_answer evidence firstOcclusion
  | cons point points ih =>
    -- a point that settles the question ends the loop; the others pass it on to the next
    cases hanswer : (desktop.hitTest handle point deadline s).1 with
    | error error =>
      by_cases hsupported : error.code = .platformNotSupported
      · simp only [hitTestPoints, Prog.ask_bind_apply, Prog.outcome, Prog.state, hanswer, hsupported,
          if_true]
        refine ⟨_, .test rfl (.done _), ⟨points, rfl⟩, fun check verified h => ?_⟩
        obtain ⟨rfl, rfl⟩ := Prod.mk.inj (Outcome.ok.inj h)
        exact ⟨rfl, ⟨_, rfl, by simp [HitTest.isOccluded, hanswer]⟩, fun _ h => nomatch h⟩
      · simp only [hitTestPoints, Prog.ask_bind_apply, Prog.outcome, Prog.state, hanswer, hsupported,
          if_false]
        exact ⟨_, .test rfl (.done _), ⟨points, rfl⟩, fun check verified h => nomatch h⟩
    | ok answer =>
      cases answer with
      | reachesTarget =>
        simp only [hitTestPoints, Prog.ask_bind_apply, Prog.outcome, Prog.state, hanswer]
        refine ⟨_, .test rfl (.done _), ⟨points, rfl⟩, fun check verified h => ?_⟩
        obtain ⟨rfl, rfl⟩ := Prod.mk.inj (Outcome.ok.inj h)
        refine ⟨rfl, ⟨_, rfl, by simp [HitTest.isOccluded, hanswer]⟩, fun found hfound => ?_⟩
        exact ⟨_, List.mem_singleton_self _, Option.some.inj hfound, hanswer⟩
      | interceptedBy role name bounds =>
        simp only [hitTestPoints, Prog.ask_bind_apply, Prog.outcome, Prog.state, hanswer]
        obtain ⟨tests, htests, hpoints, hend⟩ := ih _ _ _
        refine ⟨_, .test rfl htests, List.prefix_cons_inj _ |>.mpr hpoints,
          fun check verified h => (hend check verified h).cons ?_⟩
        simp [HitTest.isOccluded, hanswer]
      | unknown =>
        simp only [hitTestPoints, Prog.ask_bind_apply, Prog.outcome, Prog.state, hanswer]
        obtain ⟨tests, htests, hpoints, hend⟩ := ih _ _ _
        refine ⟨_, .test rfl htests, List.prefix_cons_inj _ |>.mpr hpoints,
          fun check verified h => (hend check verified h).cons ?_⟩
        simp [HitTest.isOccluded, hanswer]

/-- What the check of the events answers when these hit tests were made. -/
structure EventsAnswer (tests : List HitTest) (check : ActionabilityCheck)
    (verified : Option Point) : Prop where
  /-- It is the check of the events. -/
  name : check.check = "receives_events"
  /-- A point that is covered is counted. -/
  covered : (∃ test ∈ tests, test.isOccluded) →
    check.hitTest.any (fun evidence => 0 < evidence.occluded)
  /-- A verified point was answered for. -/
  verified : ∀ point, verified = some point → ∃ test ∈ tests, test.1 = point ∧ test.Reaches

/-- **The check of the events**: it hit-tests points of the bounds, and answers for them. -/
theorem receivesEventsCheck_tests (bounds : Option Rect) (handle : H) (request : ActionRequest)
    (deadline : Deadline) (s : σ) :
    ∃ tests, HitTests desktop (some handle) deadline s tests
        ((receivesEventsCheck desktop bounds handle request deadline).state s)
      ∧ tests.map Prod.fst <+: bounds.elim [] candidatePoints
      ∧ ∀ check verified,
        (receivesEventsCheck desktop bounds handle request deadline).outcome s
            = .ok (check, verified) →
          EventsAnswer tests check verified := by
  unfold receivesEventsCheck
  split_ifs with hneeded
  · refine ⟨[], .done s, List.nil_prefix, fun check verified h => ?_⟩
    obtain ⟨rfl, rfl⟩ := Prod.mk.inj (Outcome.ok.inj h)
    exact ⟨rfl, by simp, fun _ h => nomatch h⟩
  · cases bounds with
    | none =>
      refine ⟨[], .done s, List.nil_prefix, fun check verified h => ?_⟩
      obtain ⟨rfl, rfl⟩ := Prod.mk.inj (Outcome.ok.inj h)
      exact ⟨rfl, by simp, fun _ h => nomatch h⟩
    | some bounds =>
      obtain ⟨tests, htests, hpoints, hend⟩ :=
        hitTestPoints_tests desktop handle deadline (candidatePoints bounds) ⟨0, 0, 0⟩ none s
      refine ⟨tests, htests, hpoints, fun check verified h => ?_⟩
      have hanswer := hend check verified h
      refine ⟨hanswer.name, fun hcovered => ?_, hanswer.verified⟩
      obtain ⟨evidence, hevidence, hcount⟩ := hanswer.counted
      have hpos : 0 < tests.countP HitTest.isOccluded := List.countP_pos_iff.mpr hcovered
      rw [hevidence, Option.any_some, decide_eq_true_eq, hcount]
      exact Nat.add_pos_right 0 hpos

/-! ## The checks that need no pointer -/

theorem Gates.hiddenBy_name {evidence : ActionabilityEvidence} {read : Option Bool}
    {name token : String} {check : ActionabilityCheck}
    (h : Gates.hiddenBy evidence read name token = some check) : check.check = "visible" := by
  unfold Gates.hiddenBy at h
  split at h
  · exact (Option.some.inj h) ▸ rfl
  · nomatch h
  · split_ifs at h <;> exact (Option.some.inj h) ▸ rfl

theorem Gates.visibility_name (evidence : ActionabilityEvidence) (requiresGeometry : Bool) :
    (Gates.visibility evidence requiresGeometry).check = "visible" := by
  unfold Gates.visibility
  split
  · rename_i check h
    rcases Option.or_eq_some_iff.mp h with hhidden | ⟨-, hoffscreen⟩
    · exact Gates.hiddenBy_name hhidden
    · exact Gates.hiddenBy_name hoffscreen
  · split_ifs <;> rfl

theorem Gates.stability_name [BoundsHasher] (expectation : StabilityExpectation) (bounds : Option Rect) :
    (Gates.stability expectation bounds).check = "stable" := by
  cases bounds with
  | none => rfl
  | some bounds =>
    show (Gates.stabilityOf expectation bounds).check = "stable"
    unfold Gates.stabilityOf
    split_ifs
    · split
      · split_ifs <;> rfl
      · split_ifs <;> rfl
      · rfl
    · split
      · rfl
      · rfl
      · split_ifs <;> rfl

theorem Gates.enabled_name (evidence : ActionabilityEvidence) :
    (Gates.enabled evidence).check = "enabled" := by
  unfold Gates.enabled
  split <;> rfl

theorem Gates.editable_name (evidence : ActionabilityEvidence) (action : Action) :
    (Gates.editable evidence action).check = "editable" := by
  unfold Gates.editable
  split_ifs <;> rfl

theorem Gates.actionSupported_name (evidence : ActionabilityEvidence) (request : ActionRequest) :
    (Gates.actionSupported evidence request).check = "supported_action" := by
  unfold Gates.actionSupported
  split
  · rfl
  · split
    · rfl
    · split_ifs <;> rfl
    · split_ifs <;> rfl
    · split_ifs <;> rfl
    · split_ifs <;> rfl
    · split_ifs <;> rfl

theorem Gates.policy_name (request : ActionRequest) : (Gates.policy request).check = "policy" := by
  unfold Gates.policy
  split_ifs <;> rfl

theorem semanticChecks_name [BoundsHasher] {stability : StabilityExpectation}
    {evidence : ActionabilityEvidence} {request : ActionRequest}
    {requirements : ActionabilityRequirements} {delivery : PointerDelivery}
    {check : ActionabilityCheck}
    (h : check ∈ semanticChecks stability evidence request requirements delivery) :
    check.check ≠ "receives_events" := by
  unfold semanticChecks at h
  simp only [List.mem_append, List.mem_ite_nil_right, List.mem_cons, List.not_mem_nil,
    or_false] at h
  rcases h with (((⟨-, rfl⟩ | ⟨-, rfl⟩) | ⟨-, rfl⟩) | ⟨-, rfl⟩) | rfl | rfl
  · rw [Gates.visibility_name]; decide
  · rw [Gates.stability_name]; decide
  · rw [Gates.enabled_name]; decide
  · rw [Gates.editable_name]; decide
  · rw [Gates.actionSupported_name]; decide
  · rw [Gates.policy_name]; decide

/-- **The cursor may be moved** where the checks of the support and of the policy have passed
and the delivery is physical. -/
theorem allowsCursorMove_of_physical {evidence : ActionabilityEvidence} {request : ActionRequest}
    (hsupported : (Gates.actionSupported evidence request).status = .pass)
    (hpolicy : (Gates.policy request).status = .pass)
    (hphysical : (ActionabilityRequirements.forAction request.action).pointerDelivery
      request.action evidence.availableActions request.policy = .physical) :
    request.policy.allowCursorMove = true := by
  by_contra hdenied
  have hdenied : request.policy.allowCursorMove = false := by simpa using hdenied
  cases haction : request.action <;>
    simp [Gates.actionSupported, Gates.policy, Gates.allowsPhysicalFallback, haction, hdenied,
      Action.requiresCursorPolicy, ActionabilityRequirements.pointerDelivery,
      ActionabilityRequirements.forAction, InteractionPolicy.isHeaded,
      ActionabilityCheck.passed, ActionabilityCheck.failedTerminal,
      Capability.supportsDirectSemanticPointerDelivery] at hsupported hpolicy hphysical
  -- a click and a right click are left: without direct delivery they need the cursor
  all_goals simp [hphysical] at hsupported

/-- **What does not block has passed**, or is the open question of the events with nothing
found in the way. -/
theorem ActionabilityCheck.passed_of_not_isBlocking {check : ActionabilityCheck}
    (h : ¬check.isBlocking) :
    check.status = .pass
      ∨ (check.check = "receives_events" ∧ check.status = .unknown
        ∧ ¬check.hitTest.any (fun evidence => 0 < evidence.occluded)) := by
  unfold ActionabilityCheck.isBlocking at h
  cases hstatus : check.status with
  | pass => exact .inl rfl
  | fail => exact absurd (by simp [hstatus]) h
  | unknown =>
    simp only [hstatus, Bool.or_eq_true, Bool.and_eq_true, bne_iff_ne, beq_iff_eq, reduceCtorEq,
      false_or, true_and, not_or, not_not] at h
    exact .inr ⟨h.1, rfl, h.2⟩

/-! ## Soundness -/

/-- **A sound report** on an evaluation that made these hit tests. -/
structure SoundReport (request : ActionRequest) (evidence : ActionabilityEvidence)
    (tests : List HitTest) (report : ActionabilityReport) : Prop where
  /-- Every check has passed, but for the open question of the events with no point
  covered. -/
  passed : ∀ check ∈ report.checks, check.status = .pass
    ∨ (check.check = "receives_events" ∧ check.status = .unknown
      ∧ ∀ test ∈ tests, ¬test.isOccluded)
  /-- A verified point is one of the bounds', and the adapter answered that it reaches the
  target. -/
  verified : ∀ point, report.verifiedPoint = some point →
    (∃ bounds, evidence.bounds = some bounds ∧ point ∈ candidatePoints bounds)
      ∧ ∃ test ∈ tests, test.1 = point ∧ test.Reaches
  /-- Where the cursor may not be moved the delivery is not physical. -/
  cursor : request.policy.allowCursorMove = false → report.pointerDelivery ≠ .physical

/-- **A report without a blocking check is sound**, when its checks are those that need no
pointer, followed by a check of the events at most. -/
theorem SoundReport.of_actionable [BoundsHasher] {stability : StabilityExpectation}
    {evidence : ActionabilityEvidence} {request : ActionRequest} {tests : List HitTest}
    {events : List ActionabilityCheck} {verified point : Option Point} {bounds : Option Rect}
    {report : ActionabilityReport}
    (h : finishReport evidence (.fromChecks
      (semanticChecks stability evidence request (.forAction request.action)
          ((ActionabilityRequirements.forAction request.action).pointerDelivery request.action
            evidence.availableActions request.policy) ++ events)
      verified point bounds ((ActionabilityRequirements.forAction request.action).pointerDelivery
        request.action evidence.availableActions request.policy)) = .ok report)
    (hevents : ∀ check ∈ events, (∃ test ∈ tests, test.isOccluded) →
      check.hitTest.any (fun evidence => 0 < evidence.occluded))
    (hverified : ∀ found, verified = some found →
      (∃ bounds, evidence.bounds = some bounds ∧ found ∈ candidatePoints bounds)
        ∧ ∃ test ∈ tests, test.1 = found ∧ test.Reaches) :
    SoundReport request evidence tests report := by
  obtain ⟨rfl, hactionable⟩ := finishReport_actionable h
  have hopen : ∀ check ∈ _, _ := fun check hcheck =>
    ActionabilityCheck.passed_of_not_isBlocking (by
      simpa using List.all_eq_true.mp hactionable check hcheck)
  have hsemantic : ∀ check ∈ semanticChecks stability evidence request
      (.forAction request.action) ((ActionabilityRequirements.forAction
        request.action).pointerDelivery request.action evidence.availableActions request.policy),
      check.status = .pass := by
    intro check hcheck
    rcases hopen check (List.mem_append_left _ hcheck) with hpass | ⟨hname, -⟩
    · exact hpass
    · exact absurd hname (semanticChecks_name hcheck)
  refine ⟨fun check hcheck => ?_, hverified, fun hdenied hphysical => ?_⟩
  · rcases List.mem_append.mp hcheck with hmem | hmem
    · exact .inl (hsemantic check hmem)
    · rcases hopen check hcheck with hpass | ⟨hname, hunknown, hnone⟩
      · exact .inl hpass
      · refine .inr ⟨hname, hunknown, fun test htest hcovered => ?_⟩
        exact hnone (hevents check hmem ⟨test, htest, hcovered⟩)
  · have hmoved := allowsCursorMove_of_physical (hsemantic _ (by simp [semanticChecks]))
      (hsemantic _ (by simp [semanticChecks])) hphysical
    rw [hdenied] at hmoved
    exact Bool.false_ne_true hmoved

theorem SoundReport.of_semanticChecks [BoundsHasher] {stability : StabilityExpectation}
    {evidence : ActionabilityEvidence} {request : ActionRequest} {point : Option Point}
    {bounds : Option Rect} {report : ActionabilityReport}
    (h : finishReport evidence (.fromChecks
      (semanticChecks stability evidence request (.forAction request.action)
        ((ActionabilityRequirements.forAction request.action).pointerDelivery request.action
          evidence.availableActions request.policy))
      none point bounds ((ActionabilityRequirements.forAction request.action).pointerDelivery
        request.action evidence.availableActions request.policy)) = .ok report) :
    SoundReport request evidence [] report := by
  rw [← List.append_nil (semanticChecks _ _ _ _ _)] at h
  exact .of_actionable h (fun check hcheck => nomatch hcheck) (fun found hfound => nomatch hfound)

/-- **Gate soundness**: when the checks of an action end with a report, the report is sound
for the hit tests the evaluation made – whatever was observed of the target, asked for,
expected of its bounds, and answered by the adapter. -/
theorem checkWithStabilityIn_sound [BoundsHasher] (stability : StabilityExpectation)
    (evidence : ActionabilityEvidence) (request : ActionRequest) (hitTest : Option H)
    (deadline : Deadline) (s : σ) {report : ActionabilityReport}
    (h : (checkWithStabilityIn desktop stability evidence request hitTest deadline).outcome s
      = .ok report) :
    ∃ tests, HitTests desktop hitTest deadline s tests
        ((checkWithStabilityIn desktop stability evidence request hitTest deadline).state s)
      ∧ SoundReport request evidence tests report := by
  cases hitTest with
  | none =>
    simp only [checkWithStabilityIn] at h ⊢
    rw [Prog.ofExcept_state]
    have h := Prog.eq_ok_of_outcome_ofExcept h
    refine ⟨[], .done s, ?_⟩
    split_ifs at h with hstop
    · exact .of_semanticChecks h
    · refine .of_actionable h (fun _ _ hcovered => ?_) (fun _ h => nomatch h)
      obtain ⟨test, htest, -⟩ := hcovered
      nomatch htest
  | some handle =>
    simp only [checkWithStabilityIn, checkWithStability] at h ⊢
    split_ifs at h ⊢ with hstop
    · rw [Prog.ofExcept_state]
      have h := Prog.eq_ok_of_outcome_ofExcept h
      exact ⟨[], .done s, .of_semanticChecks h⟩
    · obtain ⟨⟨check, verified⟩, hcheck, hfinish, hstate⟩ := Prog.ok_of_outcome_bind h
      obtain ⟨tests, htests, hpoints, hanswer⟩ :=
        receivesEventsCheck_tests desktop evidence.bounds handle request deadline s
      have hanswer := hanswer check verified hcheck
      rw [hstate, Prog.ofExcept_state]
      refine ⟨tests, htests, .of_actionable (Prog.eq_ok_of_outcome_ofExcept hfinish)
        (fun other hother => ?_) (fun point hpoint => ?_)⟩
      · rw [List.mem_singleton.mp hother]
        exact hanswer.covered
      · obtain ⟨test, htest, rfl, hreaches⟩ := hanswer.verified point hpoint
        refine ⟨?_, test, htest, rfl, hreaches⟩
        have hmem := hpoints.subset (List.mem_map_of_mem htest)
        cases hbounds : evidence.bounds with
        | none =>
          rw [hbounds] at hmem
          nomatch hmem
        | some bounds =>
          rw [hbounds] at hmem
          exact ⟨bounds, rfl, hmem⟩

namespace Sample

/-- What is observed of the combo box in view. -/
def comboBoxEvidence : ActionabilityEvidence :=
  ⟨(comboBox true).state, true, (comboBox true).bounds, (comboBox true).availableActions⟩

/-- Clicking with the cursor. -/
def cursorClick : ActionRequest := ⟨.click, .headed, none, none, none⟩

/-- The evaluation of the click on the combo box at rest. -/
def clickEvaluation : RefProg Bool Unit AdapterError ActionabilityReport :=
  @checkWithStabilityIn _ _ (comboBoxDesktop (.error optionMissing)) noBoundsHash
    (@StabilityExpectation.strictBounds noBoundsHash (comboBox true).bounds 3 34)
    comboBoxEvidence cursorClick (some ()) ⟨0, 1000, 1000, false⟩

/-- Whether an evaluation ends with the centre of the combo box verified. -/
def centreVerified (o : Outcome AdapterError ActionabilityReport) : Bool :=
  match o with
  | .ok report =>
    report.pointerDelivery == .physical && report.verifiedPoint == some ⟨.finite 5, .finite 5⟩
  | .error _ | .running => false

theorem exists_of_centreVerified {o : Outcome AdapterError ActionabilityReport}
    (h : centreVerified o) : ∃ report, o = .ok report ∧ report.pointerDelivery = .physical
      ∧ report.verifiedPoint = some ⟨.finite 5, .finite 5⟩ := by
  cases o with
  | ok report =>
    simp only [centreVerified, Bool.and_eq_true, beq_iff_eq] at h
    exact ⟨report, rfl, h.1, h.2⟩
  | error error => nomatch h
  | running => nomatch h

end Sample

/-- A click with the cursor on the combo box: its centre reaches it. -/
theorem checkWithStabilityIn_sound_sample :
    ∃ report, Sample.clickEvaluation.outcome true = .ok report
      ∧ report.verifiedPoint = some ⟨.finite 5, .finite 5⟩
      ∧ ∃ tests, HitTests (Sample.comboBoxDesktop (.error Sample.optionMissing)) (some ())
          ⟨0, 1000, 1000, false⟩ true tests (Sample.clickEvaluation.state true)
        ∧ SoundReport Sample.cursorClick Sample.comboBoxEvidence tests report := by
  obtain ⟨report, hend, -, hpoint⟩ :=
    Sample.exists_of_centreVerified (o := Sample.clickEvaluation.outcome true) (by decide +kernel)
  exact ⟨report, hend, hpoint, @checkWithStabilityIn_sound _ _ _ Sample.noBoundsHash _ _ _ _ _ _
    _ hend⟩

end AgentDesktop
