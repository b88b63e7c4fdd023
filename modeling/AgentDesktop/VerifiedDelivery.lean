import AgentDesktop.Delivery

/-!
# What a verified delivery says

An action with a postcondition is executed once and read back. A result that
says that the delivery is verified rests on the last of the reads: it shows the
postcondition, which is computed from what was read before the action. A
read-back that fails, or that never shows it, is an error, and neither a result
nor an error says that nothing was delivered unless the adapter has said so.

An error of the execution is passed on as it is. What it says of the delivery is
the adapter's word, also where the reads that follow contradict it.
-/

namespace AgentDesktop

open RefActionEvent

variable {σ H : Type}

/-! ## The reads of a read-back -/

section

variable (desktop : Desktop σ H) (handle : H) (deadline : Deadline)

/-- **The reads of a read-back**, from a state to a state: the target is read, and in between
the clock is looked at and time passes. Nothing else is asked of the desktop. -/
inductive ReadBackRun : σ → List (Except AdapterError LiveElement) → σ → Prop
  /-- Nothing was read yet. -/
  | start (s : σ) : ReadBackRun s [] s
  /-- The clock is looked at. -/
  | clock {s s' : σ} {reads : List (Except AdapterError LiveElement)} :
      ReadBackRun s reads s' → ReadBackRun s reads (desktop.now s').2
  /-- Time passes. -/
  | sleep {s s' : σ} {reads : List (Except AdapterError LiveElement)} :
      ReadBackRun s reads s' → ReadBackRun s reads (desktop.sleep settlePause s').2
  /-- The target is read. -/
  | read {s s' : σ} {reads : List (Except AdapterError LiveElement)} :
      ReadBackRun s reads s' →
        ReadBackRun s (reads ++ [(desktop.getLiveElement handle deadline s').1])
          (desktop.getLiveElement handle deadline s').2

theorem ReadBackRun.forall_reads {s s' : σ} {reads : List (Except AdapterError LiveElement)}
    (h : ReadBackRun desktop handle deadline s reads s')
    {P : Except AdapterError LiveElement → Prop}
    (hread : ∀ t, P (desktop.getLiveElement handle deadline t).1) : ∀ read ∈ reads, P read := by
  induction h with
  | start => exact fun _ hmem => absurd hmem List.not_mem_nil
  | clock _ ih => exact ih
  | sleep _ ih => exact ih
  | read _ ih =>
    exact List.forall_mem_append.mpr ⟨ih, List.forall_mem_singleton.mpr (hread _)⟩

end

/-- What the last of the reads says of the postcondition. -/
def lastVerdict (verdict : LiveElement → Option Bool)
    (reads : List (Except AdapterError LiveElement)) : Option (Except AdapterError (Option Bool)) :=
  reads.getLast?.map (fun read => read.map verdict)

/-! ## What is reported

What a run reports is compared with two things that its events show: what the execution was
answered, and what the last read says of the postcondition. Nothing else is allowed to matter. -/

/-- What the answer to an execution says of the delivery. -/
def answerDisposition : Except AdapterError ActionResult → DeliverySemantics
  | .ok result => result.disposition
  | .error error => error.disposition

/-- What a run says of the delivery, when it has ended. -/
def reportedDisposition : Outcome AdapterError ActionResult → Option DeliverySemantics
  | .ok result => some result.disposition
  | .error error => some error.disposition
  | .running => none

/-- **What a verified execution reports**, of the answer to the execution and of what the last
read says of the postcondition. -/
structure VerifiedReport (answer : Except AdapterError ActionResult)
    (last : Option (Except AdapterError (Option Bool)))
    (o : Outcome AdapterError ActionResult) : Prop where
  /-- A result that says that the delivery is verified was read back. -/
  verified : ∀ result, o = .ok result → result.disposition = .deliveredVerified →
    last = some (.ok (some true))
  /-- A read-back that fails or contradicts the postcondition is an error. -/
  unmet : ∀ verdict, last = some verdict → Unmet verdict → ∀ result, o ≠ .ok result
  /-- That nothing was delivered is the adapter's word. -/
  notDelivered : ∀ said, reportedDisposition o = some said →
    (said = .notDelivered ↔ answerDisposition answer = .notDelivered)
  /-- An error of the execution is passed on with what it says of the delivery. -/
  refused : ∀ error, answer = .error error →
    reportedDisposition o = some error.disposition ∧ ∀ result, o ≠ .ok result
  /-- An error of the read-back does not say that the delivery is verified. -/
  unconfirmed : ∀ result error, answer = .ok result → o = .error error →
    error.disposition ≠ .deliveredVerified

theorem VerifiedReport.last_of_ok {result : ActionResult}
    {last : Option (Except AdapterError (Option Bool))} {o : Outcome AdapterError ActionResult}
    (h : VerifiedReport (.ok result) last o)
    (hsaid : reportedDisposition o = some .deliveredVerified) : last = some (.ok (some true)) := by
  cases o with
  | ok reported => exact h.verified reported rfl (Option.some.inj hsaid)
  | error error => exact absurd (Option.some.inj hsaid) (h.unconfirmed result error rfl rfl)
  | running => nomatch hsaid

/-! ## Concluding -/

@[simp] theorem disposition_addDetails (result : ActionResult) (fields : List (String × Json)) :
    (result.addDetails fields).disposition = result.disposition := rfl

theorem disposition_withVerifiedDelivery_eq_notDelivered (result : ActionResult) :
    result.withVerifiedDelivery.disposition = .notDelivered
      ↔ result.disposition = .notDelivered := by
  unfold ActionResult.withVerifiedDelivery
  split
  next h => simp [h]
  next h => exact Iff.rfl

theorem disposition_withUnverifiedDelivery_eq_notDelivered (result : ActionResult) :
    result.withUnverifiedDelivery.disposition = .notDelivered
      ↔ result.disposition = .notDelivered := by
  unfold ActionResult.withUnverifiedDelivery
  split
  next h => simp [h]
  next h => exact Iff.rfl

theorem disposition_withUnverifiedDelivery_ne_verified (result : ActionResult) :
    result.withUnverifiedDelivery.disposition ≠ .deliveredVerified := by
  unfold ActionResult.withUnverifiedDelivery
  split
  next h => simp
  next h => exact h

theorem disposition_verifiedResult (action : Action) (result : ActionResult)
    (observed : LiveElement) :
    (verifiedResult action result observed).disposition
      = result.withVerifiedDelivery.disposition := by
  show ({ result with postState := some observed.state } :
    ActionResult).withVerifiedDelivery.disposition = _
  unfold ActionResult.withVerifiedDelivery
  split <;> rfl

/-- A result that could not be judged is the answer with its disposition lowered at most. -/
theorem disposition_unverifiedResult (action : Action) (result : ActionResult)
    (observed : LiveElement) :
    (unverifiedResult action result observed).disposition
      = result.withUnverifiedDelivery.disposition := by
  show ({ result with postState := some observed.state } :
    ActionResult).withUnverifiedDelivery.disposition = _
  unfold ActionResult.withUnverifiedDelivery
  split <;> rfl

theorem disposition_verificationError_ne_verified (result : ActionResult)
    (observed : Option LiveElement) (error : AdapterError) :
    (verificationError result observed error).disposition ≠ .deliveredVerified := by
  rw [disposition_verificationError]
  split <;> simp

theorem VerifiedReport.of_error (result : ActionResult) (observed : Option LiveElement)
    (error : AdapterError) (last : Option (Except AdapterError (Option Bool))) :
    VerifiedReport (.ok result) last (.error (verificationError result observed error)) where
  verified _ h := nomatch h
  unmet _ _ _ _ h := nomatch h
  notDelivered said hsaid := by
    obtain rfl := Option.some.inj hsaid
    rw [disposition_verificationError]
    show _ ↔ result.disposition = .notDelivered
    split
    next h => simp [h]
    next h => simp [h]
  refused _ h := nomatch h
  unconfirmed _ _ _ herror := by
    obtain rfl := Outcome.error.inj herror
    exact disposition_verificationError_ne_verified _ _ _

/-- A result is a verified report when it says that the delivery is verified only where the
last read shows the postcondition, and otherwise says what the answer says. -/
theorem VerifiedReport.of_ok {result result' : ActionResult} {verdict : Option Bool}
    (hverdict : verdict ≠ some false)
    (hverified : result'.disposition = .deliveredVerified → verdict = some true)
    (hdelivered : result'.disposition = .notDelivered ↔ result.disposition = .notDelivered) :
    VerifiedReport (.ok result) (some (.ok verdict)) (.ok result') where
  verified reported h hdisposition := by
    obtain rfl := Outcome.ok.inj h
    rw [hverified hdisposition]
  unmet read hread hunmet := by
    obtain rfl := Option.some.inj hread
    exact absurd hunmet hverdict
  notDelivered said hsaid := by
    obtain rfl := Option.some.inj hsaid
    exact hdelivered
  refused _ h := nomatch h
  unconfirmed _ _ _ h := nomatch h

/-- **What is made of the last read** is a verified report. -/
theorem concludeResult_report (action : Action) (result : ActionResult)
    (observed : Except AdapterError LiveElement) (verdict : LiveElement → Option Bool) (s : σ) :
    VerifiedReport (.ok result) (some (observed.map verdict))
      ((Prog.ofExcept (concludeResult action result observed verdict) :
        RefProg σ H AdapterError ActionResult).outcome s) := by
  unfold concludeResult
  cases observed with
  | error error => exact .of_error result none error _
  | ok element =>
    simp only [Except.map]
    match verdict element with
    | none =>
      refine .of_ok (nofun) (fun h => ?_) ?_
      · rw [disposition_unverifiedResult] at h
        exact absurd h (disposition_withUnverifiedDelivery_ne_verified result)
      · rw [disposition_unverifiedResult]
        exact disposition_withUnverifiedDelivery_eq_notDelivered result
    | some false => exact .of_error result (some element) (mismatchError action) _
    | some true =>
      refine .of_ok (by simp) (fun _ => rfl) ?_
      rw [disposition_verifiedResult]
      exact disposition_withVerifiedDelivery_eq_notDelivered result

/-- An error of the execution that is passed on is a verified report, whatever was read. -/
theorem VerifiedReport.of_refusal {error error' : AdapterError}
    (h : error'.disposition = error.disposition)
    (last : Option (Except AdapterError (Option Bool))) :
    VerifiedReport (.error error) last (.error error') where
  verified _ h := nomatch h
  unmet _ _ _ _ h := nomatch h
  notDelivered said hsaid := by
    obtain rfl := Option.some.inj hsaid
    rw [h]
    exact Iff.rfl
  refused error hanswer := by
    obtain rfl := Except.error.inj hanswer
    exact ⟨congrArg some h, fun _ h => nomatch h⟩
  unconfirmed _ _ h := nomatch h

theorem VerifiedReport.of_running (result : ActionResult)
    (last : Option (Except AdapterError (Option Bool))) :
    VerifiedReport (.ok result) last .running where
  verified _ h := nomatch h
  unmet _ _ _ _ h := nomatch h
  notDelivered _ h := nomatch h
  refused _ h := nomatch h
  unconfirmed _ _ _ h := nomatch h

/-! ## Reading until it settles -/

section

variable (desktop : Desktop σ H) (handle : H) (deadline : Deadline)

/-- **The loop reads**: it goes on with the reads it was given, and when it ends, its value is
the last of them. -/
theorem settle_reads (settleDeadline : Deadline) (verdict : LiveElement → Option Bool) (fuel : ℕ)
    {s₀ s : σ} {reads : List (Except AdapterError LiveElement)}
    {observed : Except AdapterError LiveElement}
    (hreads : ReadBackRun desktop handle deadline s₀ reads s)
    (hlast : reads.getLast? = some observed) :
    ∃ o s' reads', settle desktop handle deadline settleDeadline verdict fuel observed s
        = (o, s', []) ∧ ReadBackRun desktop handle deadline s₀ reads' s'
      ∧ (o = .running ∨ ∃ read, o = .ok read ∧ reads'.getLast? = some read) := by
  induction fuel generalizing observed reads s with
  | zero => exact ⟨.running, s, reads, rfl, hreads, .inl rfl⟩
  | succ fuel ih =>
    unfold settle
    cases observed with
    | error error => exact ⟨_, s, reads, rfl, hreads, .inr ⟨_, rfl, hlast⟩⟩
    | ok element =>
      by_cases hverdict : verdict element = some false
      · simp only [if_pos hverdict]
        by_cases htime : settlePause < settleDeadline.remaining (desktop.now s).1
        · obtain ⟨o, s', reads', hrun, hreads', hlast'⟩ :=
            ih (.read (.sleep (.clock hreads))) List.getLast?_concat
          refine ⟨o, s', reads', ?_, hreads', hlast'⟩
          rw [← hrun]
          show (if settlePause < settleDeadline.remaining (desktop.now s).1 then _ else _ :
            RefProg σ H AdapterError _) _ = _
          rw [if_pos htime]
          rfl
        · refine ⟨.ok (.ok element), (desktop.now s).2, reads, ?_, .clock hreads,
            .inr ⟨_, rfl, hlast⟩⟩
          show (if settlePause < settleDeadline.remaining (desktop.now s).1 then _ else _ :
            RefProg σ H AdapterError _) _ = _
          rw [if_neg htime]
          rfl
      · simp only [if_neg hverdict]
        exact ⟨_, s, reads, rfl, hreads, .inr ⟨_, rfl, hlast⟩⟩

/-- **What follows an execution reads and reports**: the report is made of the last of its
reads. -/
theorem readBack_reads (fuel : ℕ) (action : Action) (verdict : LiveElement → Option Bool)
    (answer : Except AdapterError ActionResult) (s : σ) :
    ∃ reads, ReadBackRun desktop handle deadline s reads
        ((readBack desktop fuel handle action deadline verdict answer).state s)
      ∧ VerifiedReport answer (lastVerdict verdict reads)
        ((readBack desktop fuel handle action deadline verdict answer).outcome s) := by
  have hread : ReadBackRun desktop handle deadline s
      [(desktop.getLiveElement handle deadline s).1]
      (desktop.getLiveElement handle deadline s).2 := .read (.start s)
  unfold readBack
  cases answer with
  | error error =>
    by_cases hrefused : error.disposition = .notDelivered
    · simp only [if_pos hrefused]
      exact ⟨[], .start s, .of_refusal rfl _⟩
    · simp only [if_neg hrefused]
      exact ⟨_, hread, .of_refusal (disposition_withPostState error _ verdict) _⟩
  | ok result =>
    obtain ⟨o, s', reads, hrun, hreads, ho⟩ := settle_reads desktop handle deadline
      (deadline.cappedBy (desktop.now (desktop.getLiveElement handle deadline s).2).1 settleBudget)
      verdict fuel (.clock hread) List.getLast?_singleton
    refine ⟨reads, ?_⟩
    simp only [Prog.state, Prog.outcome, Prog.ask_bind_apply, Desktop.clock]
    obtain rfl | ⟨read, rfl, hlast⟩ := ho
    · rw [Prog.bind_apply_of_running _ hrun]
      exact ⟨hreads, .of_running result _⟩
    · rw [Prog.bind_apply_of_ok _ hrun]
      have hend := concludeResult_report (H := H) action result read verdict s'
      refine ⟨?_, ?_⟩
      · show ReadBackRun _ _ _ _ _
          ((Prog.ofExcept (concludeResult action result read verdict) :
            RefProg σ H AdapterError ActionResult).state s')
        rw [Prog.ofExcept_state]
        exact hreads
      · unfold lastVerdict
        rw [hlast]
        exact hend

end

/-! ## The loop ends -/

/-- **A desktop that keeps time**: its clock does not go back, and sleeping takes the time it is
given. -/
structure Desktop.KeepsTime (desktop : Desktop σ H) (time : σ → ℕ) : Prop where
  /-- What the clock shows is the time. -/
  clock : ∀ s, time s ≤ (desktop.now s).1 ∧ (desktop.now s).1 ≤ time (desktop.now s).2
  /-- Sleeping takes time. -/
  sleep : ∀ duration s, time s + duration ≤ time (desktop.sleep duration s).2
  /-- Reading does not turn the clock back. -/
  read : ∀ handle deadline s, time s ≤ time (desktop.getLiveElement handle deadline s).2

section

variable {desktop : Desktop σ H} {time : σ → ℕ} (htime : desktop.KeepsTime time) (handle : H)
  (deadline : Deadline)

include htime

theorem settle_ends (settleDeadline : Deadline) (verdict : LiveElement → Option Bool) (n : ℕ)
    (observed : Except AdapterError LiveElement) (s : σ)
    (h : settleDeadline.expiresAt ≤ time s + n * settlePause) :
    (settle desktop handle deadline settleDeadline verdict (n + 1) observed).outcome s
      ≠ .running := by
  induction n generalizing observed s with
  | zero =>
    have hover : ¬settlePause < settleDeadline.remaining (desktop.now s).1 := by
      have hclock := (htime.clock s).1
      unfold Deadline.remaining
      omega
    unfold settle
    cases observed with
    | error error => rintro ⟨⟩
    | ok element =>
      by_cases hverdict : verdict element = some false
      · simp only [if_pos hverdict]
        show ((if settlePause < settleDeadline.remaining (desktop.now s).1 then _ else _ :
          RefProg σ H AdapterError _) _).1 ≠ _
        rw [if_neg hover]
        rintro ⟨⟩
      · simp only [if_neg hverdict]
        rintro ⟨⟩
  | succ n ih =>
    unfold settle
    cases observed with
    | error error => rintro ⟨⟩
    | ok element =>
      by_cases hverdict : verdict element = some false
      · simp only [if_pos hverdict]
        show ((if settlePause < settleDeadline.remaining (desktop.now s).1 then _ else _ :
          RefProg σ H AdapterError _) _).1 ≠ _
        by_cases hpause : settlePause < settleDeadline.remaining (desktop.now s).1
        · rw [if_pos hpause]
          -- one pause less remains, and the clock shows at least that much more
          refine ih _ _ ?_
          have hclock := htime.clock s
          have hsleep := htime.sleep settlePause (desktop.now s).2
          have hread := htime.read handle deadline (desktop.sleep settlePause (desktop.now s).2).2
          rw [Nat.succ_mul] at h
          omega
        · rw [if_neg hpause]
          rintro ⟨⟩
      · simp only [if_neg hverdict]
        rintro ⟨⟩

theorem readBack_ends {fuel : ℕ} (hfuel : settleBudget / settlePause < fuel) (action : Action)
    (verdict : LiveElement → Option Bool) (answer : Except AdapterError ActionResult) (s : σ) :
    (readBack desktop fuel handle action deadline verdict answer).outcome s ≠ .running := by
  obtain ⟨n, rfl⟩ := Nat.exists_eq_add_of_lt hfuel
  unfold readBack
  cases answer with
  | error error =>
    by_cases hrefused : error.disposition = .notDelivered
    · simp only [if_pos hrefused]
      exact nofun
    · simp only [if_neg hrefused]
      exact nofun
  | ok result =>
    -- the pauses last at most until the deadline of the loop
    have hclock := htime.clock (desktop.getLiveElement handle deadline s).2
    have hends := settle_ends htime handle deadline
      (deadline.cappedBy (desktop.now (desktop.getLiveElement handle deadline s).2).1 settleBudget)
      verdict (settleBudget / settlePause + n) (desktop.getLiveElement handle deadline s).1
      (desktop.now (desktop.getLiveElement handle deadline s).2).2 (by
        have hexpires : ((deadline.cappedBy
            (desktop.now (desktop.getLiveElement handle deadline s).2).1 settleBudget).expiresAt)
            ≤ (desktop.now (desktop.getLiveElement handle deadline s).2).1 + settleBudget :=
          min_le_right _ _
        have hpauses : settleBudget ≤ (settleBudget / settlePause + n) * settlePause := by
          rw [Nat.add_mul]
          exact Nat.le_add_right_of_le (by decide)
        omega)
    obtain ⟨o, s', reads, hrun, -, ho⟩ := settle_reads desktop handle deadline
      (deadline.cappedBy (desktop.now (desktop.getLiveElement handle deadline s).2).1 settleBudget)
      verdict (settleBudget / settlePause + n + 1) (.clock (.read (.start s)))
      List.getLast?_singleton
    simp only [Prog.outcome, Prog.ask_bind_apply, Desktop.clock]
    obtain rfl | ⟨read, rfl, -⟩ := ho
    · exact absurd (congrArg Prod.fst hrun) hends
    · rw [Prog.bind_apply_of_ok _ hrun]
      show (Prog.ofExcept (concludeResult action result read verdict) :
        RefProg σ H AdapterError ActionResult).outcome s' ≠ _
      cases concludeResult action result read verdict <;> exact nofun

end

/-! ## The whole execution -/

section

variable (desktop : Desktop σ H) (handle : H)

theorem readBack_executes_nothing (fuel : ℕ) (action : Action) (deadline : Deadline)
    (verdict : LiveElement → Option Bool) (answer : Except AdapterError ActionResult) (s : σ) :
    ((readBack desktop fuel handle action deadline verdict answer).events s).filter isExecuted
      = [] := by
  obtain ⟨verdicts, hverdicts, -⟩ := readBack_sat desktop fuel handle action deadline verdict
    answer s
  rw [hverdicts]
  exact List.filter_eq_nil_iff.mpr (by simp [isExecuted])

theorem executeVerifiedAction_run (fuel : ℕ) {request : ActionRequest} {lease : InteractionLease}
    {s s₁ s₂ : σ} {before : Option LiveElement} {expected : Option String}
    (haction : request.action.requiresStateReadback)
    (hbefore : observeBefore desktop request.action handle lease.deadline s = (.ok before, s₁, []))
    (hexpected : expectText desktop request before handle lease.deadline s₁
      = (.ok expected, s₂, [])) :
    executeVerifiedAction desktop fuel handle request lease s
      = ((Prog.attempt (executeAction desktop handle request lease) >>=
          readBack desktop fuel handle request.action lease.deadline
            (matchesPostcondition request.action before expected) :
          RefProg σ H AdapterError ActionResult)) s₂ := by
  unfold executeVerifiedAction
  rw [haction]
  show (observeBefore desktop request.action handle lease.deadline >>= _) s = _
  rw [Prog.bind_apply_of_ok _ hbefore, Prog.bind_apply_of_ok _ hexpected]

/-- **Verified delivery means verified.** An action that is read back is executed exactly once.
The postcondition is computed from what was read before that, and nothing but reading and
waiting follows it. The report rests on the last of these reads; and a run with a round for
each pause ends, on a desktop that keeps time. -/
theorem executeVerifiedAction_verifies (fuel : ℕ) (request : ActionRequest)
    (lease : InteractionLease) (s : σ) (haction : request.action.requiresStateReadback) :
    ∃ before expected s₁ s₂ reads,
      observeBefore desktop request.action handle lease.deadline s = (.ok before, s₁, [])
      ∧ expectText desktop request before handle lease.deadline s₁ = (.ok expected, s₂, [])
      ∧ ((executeVerifiedAction desktop fuel handle request lease).events s).filter isExecuted
        = [executed handle (desktop.executeAction handle request lease s₂).1]
      ∧ ReadBackRun desktop handle lease.deadline (desktop.executeAction handle request lease s₂).2
        reads ((executeVerifiedAction desktop fuel handle request lease).state s)
      ∧ VerifiedReport (desktop.executeAction handle request lease s₂).1
        (lastVerdict (matchesPostcondition request.action before expected) reads)
        ((executeVerifiedAction desktop fuel handle request lease).outcome s)
      ∧ (∀ time, desktop.KeepsTime time → settleBudget / settlePause < fuel →
        (executeVerifiedAction desktop fuel handle request lease).outcome s ≠ .running) := by
  obtain ⟨before, s₁, hbefore⟩ :=
    (observeBefore_sure desktop request.action handle lease.deadline).exists_run s
  obtain ⟨expected, s₂, hexpected⟩ :=
    (expectText_sure desktop request before handle lease.deadline).exists_run s₁
  have hrun := executeVerifiedAction_run desktop handle fuel haction hbefore hexpected
  unfold executeAction at hrun
  rw [Prog.attempt_recordedCall_bind_apply] at hrun
  -- the reads of what follows, and the report that rests on the last of them
  obtain ⟨reads, hreads, hreport⟩ := readBack_reads desktop handle lease.deadline fuel
    request.action (matchesPostcondition request.action before expected)
    (desktop.executeAction handle request lease s₂).1
    (desktop.executeAction handle request lease s₂).2
  refine ⟨before, expected, s₁, s₂, reads, hbefore, hexpected, ?_, ?_, ?_,
    fun time htime hfuel => ?_⟩
  · unfold Prog.events
    rw [hrun]
    exact congrArg (_ :: ·) (readBack_executes_nothing desktop handle fuel request.action
      lease.deadline _ _ _)
  · unfold Prog.state
    rw [hrun]
    exact hreads
  · unfold Prog.outcome
    rw [hrun]
    exact hreport
  · unfold Prog.outcome
    rw [hrun]
    exact readBack_ends htime handle lease.deadline hfuel _ _ _ _

end

/-! ## A sample: a check box -/

namespace Sample

/-- A check box. -/
def checkBox (checked : Bool) : LiveElement where
  identity := ⟨.absent, .absent, ⟨[], none, true, none⟩⟩
  state := ⟨"checkbox", if checked then [State.checked] else [], none, some true, some false,
    some false⟩
  statesComplete := true
  bounds := none
  availableActions := []

/-- A desktop with the check box, which stays as it is. Checking it is answered as given. -/
def checkBoxDesktop (answer : Except AdapterError ActionResult) (checked : Bool) :
    Desktop Bool Unit :=
  { comboBoxDesktop answer with
    getLiveElement := fun _ _ inView => (.ok (checkBox checked), inView) }

/-- Checking. -/
def checkRequest : ActionRequest := ⟨.check, .headless, none, none, none⟩

/-- A lease that runs for a second. -/
def secondLease : InteractionLease := ⟨⟨0, 1000 * nanosPerMs, 1000, false⟩, 0⟩

/-- Checking the box, read back a while. -/
def checkRun (answer : Except AdapterError ActionResult) (checked : Bool) :
    RefProg Bool Unit AdapterError ActionResult :=
  executeVerifiedAction (checkBoxDesktop answer checked) 9 () checkRequest secondLease

/-- A box that is seen checked is why its checking is verified. -/
theorem checkedBox_verifies :
    reportedDisposition ((checkRun (.ok (.deliveredUnverified "check")) true).outcome true)
        = some .deliveredVerified
      ∧ ∃ reads, ReadBackRun (checkBoxDesktop (.ok (.deliveredUnverified "check")) true) ()
          secondLease.deadline true reads
          ((checkRun (.ok (.deliveredUnverified "check")) true).state true)
        ∧ lastVerdict (matchesPostcondition .check none none) reads = some (.ok (some true)) := by
  have hsaid : reportedDisposition
      ((checkRun (.ok (.deliveredUnverified "check")) true).outcome true)
      = some .deliveredVerified := by decide
  obtain ⟨before, expected, s₁, s₂, reads, hbefore, hexpected, -, hreads, hreport, -⟩ :=
    executeVerifiedAction_verifies (checkBoxDesktop (.ok (.deliveredUnverified "check")) true) () 9
      checkRequest secondLease true rfl
  cases hbefore
  cases hexpected
  exact ⟨hsaid, reads, hreads, hreport.last_of_ok hsaid⟩

/-- The adapter saw its change, and failed afterwards. -/
def failedAfterCheck : AdapterError :=
  (AdapterError.new .actionFailed "Cleanup failed").withDisposition .deliveredVerified

/-- **An error may say that the delivery is verified** where no read shows it: the adapter's
error is passed on as it is. -/
theorem uncheckedBox_reported_verified :
    reportedDisposition ((checkRun (.error failedAfterCheck) false).outcome true)
        = some .deliveredVerified
      ∧ ∀ reads s', ReadBackRun (checkBoxDesktop (.error failedAfterCheck) false) ()
          secondLease.deadline true reads s' →
        lastVerdict (matchesPostcondition .check none none) reads ≠ some (.ok (some true)) := by
  refine ⟨by decide, fun reads s' hreads hlast => ?_⟩
  obtain ⟨read, hread, hverdict⟩ := Option.map_eq_some_iff.mp hlast
  have hsame := hreads.forall_reads _ _ _
    (P := fun read => read = .ok (checkBox false)) (fun _ => rfl) read
    (List.mem_of_getLast? hread)
  rw [hsame] at hverdict
  exact absurd (Except.ok.inj hverdict) (by decide)

end Sample

end AgentDesktop
