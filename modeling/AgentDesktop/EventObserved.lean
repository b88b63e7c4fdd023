import AgentDesktop.WaitEvent

/-!
# What a wait for an event observes

The observations of a wait are the seeded one, if there is one, and those that
were answered in time. Over their list a wait is simple: it compares every one
but the first with the first (`EventWait.Ends`). What the wait answers is read
off two observations that were both complete (`waitForEvent_ok`), and an event
that has shown is answered exactly when the first of all observations was
complete for the inventory it is read off (`waitForEvent_reports_iff`): an
incomplete first one stays the baseline, and nothing is ever read off it.
-/

namespace AgentDesktop

/-- The observation that was answered in time. -/
def SignalCapture.received (capture : SignalCapture) : Option SignalBaseline :=
  if capture.late then none else capture.answer.toOption

/-- The observations of a wait: the seeded one, and those answered in time. -/
def observations (seeded : Option (Except AdapterError SignalBaseline))
    (captures : List SignalCapture) : List SignalBaseline :=
  (seeded.bind Except.toOption).toList ++ captures.filterMap SignalCapture.received

/-- An observation of another process than the one it was taken of, which ends the
wait with an error. -/
def SignalCapture.Rejected (capture : SignalCapture) (error : AppError) : Prop :=
  ∃ current, capture.received = some current
    ∧ validateSignalScope capture.filter current = .error error

namespace EventWaitInput

/-- Whether an event is of the kind that is asked for, and of the window. -/
def Requests (input : EventWaitInput) (event : UiEvent) : Prop :=
  ∃ requested, EventKind.parse input.event = some requested
    ∧ isRequestedEvent requested input.windowId input.windowTitle event = true

/-- **An observation is complete for a wait**: it has read to its end the inventory that
the requested events are read off. -/
def Complete (input : EventWaitInput) (observation : SignalBaseline) : Prop :=
  ∃ requested, EventKind.parse input.event = some requested
    ∧ observation.completeness.covers requested = true

/-- Two observations differ by a requested event. -/
def Differ (input : EventWaitInput) (earlier later : SignalBaseline) : Prop :=
  ∃ event ∈ diffSignals earlier later, input.Requests event

/-- **The event has shown** in a list of observations: the first complete one and a
later complete one differ by it. -/
def Shown (input : EventWaitInput) (observed : List SignalBaseline) : Prop :=
  ∃ before first between later after,
    observed = before ++ first :: (between ++ later :: after)
      ∧ (∀ observation ∈ before, ¬ input.Complete observation)
      ∧ input.Complete first ∧ input.Complete later ∧ input.Differ first later

/-- **An answer is read off** an earlier and a later observation, both complete. -/
def ReadOff (input : EventWaitInput) (observed : List SignalBaseline) (answer : Json) : Prop :=
  ∃ before earlier between later after event elapsedMs,
    observed = before ++ earlier :: (between ++ later :: after)
      ∧ input.Complete earlier ∧ input.Complete later
      ∧ event ∈ diffSignals earlier later ∧ input.Requests event
      ∧ answer = eventFound event elapsedMs

/-- The first of all observations is complete. -/
def FirstComplete (input : EventWaitInput) (observed : List SignalBaseline) : Prop :=
  ∃ first rest, observed = first :: rest ∧ input.Complete first

theorem complete_of_requests {input : EventWaitInput} {earlier later : SignalBaseline}
    {event : UiEvent} (hevent : event ∈ diffSignals earlier later)
    (hrequested : input.Requests event) : input.Complete earlier ∧ input.Complete later := by
  obtain ⟨requested, hparse, hrequested⟩ := hrequested
  unfold isRequestedEvent at hrequested
  simp only [Bool.and_eq_true] at hrequested
  obtain ⟨hearlier, hlater⟩ := covers_of_mem_diffSignals hevent
  have hkind := hrequested.1.1
  refine ⟨⟨requested, hparse, ?_⟩, ⟨requested, hparse, ?_⟩⟩
  · rw [SignalCompleteness.covers_of_sameVariant _ hkind]
    exact hearlier
  · rw [SignalCompleteness.covers_of_sameVariant _ hkind]
    exact hlater

theorem not_shown_of_length_le_one {input : EventWaitInput} {observed : List SignalBaseline}
    (h : observed.length ≤ 1) : ¬ input.Shown observed := by
  rintro ⟨before, first, between, later, after, rfl, -⟩
  simp only [List.length_append, List.length_cons] at h
  omega

end EventWaitInput

/-! ## A wait over the list of its observations -/

namespace EventWait

variable (wait : EventWait)

/-- No observation but the first shows the event against the first. -/
def Unmatched : List SignalBaseline → Prop
  | [] => True
  | base :: rest => ∀ current ∈ rest, wait.matchedEvent base current = none

/-- **How a wait ends**, over what it observed: with the event the last observation
shows against the first; with the rejection of an observation; or in any other way,
and then nothing was rejected and no observation showed the event. -/
def Ends (outcome : Outcome AppError Json) (captures : List SignalCapture)
    (observed : List SignalBaseline) : Prop :=
  match outcome with
  | .ok answer => ∃ base between current event elapsedMs,
      observed = base :: (between ++ [current])
        ∧ wait.matchedEvent base current = some event ∧ answer = eventFound event elapsedMs
  | .error error => (∃ capture ∈ captures, capture.Rejected error)
      ∨ (wait.Unmatched observed ∧ ∀ capture ∈ captures, ∀ error', ¬ capture.Rejected error')
  | .running =>
      wait.Unmatched observed ∧ ∀ capture ∈ captures, ∀ error', ¬ capture.Rejected error'

variable {wait}

theorem Ends.of_unmatched {outcome : Outcome AppError Json} {captures : List SignalCapture}
    {observed : List SignalBaseline} (houtcome : ∀ answer, outcome ≠ .ok answer)
    (hunmatched : wait.Unmatched observed)
    (hrejected : ∀ capture ∈ captures, ∀ error', ¬ capture.Rejected error') :
    wait.Ends outcome captures observed := by
  cases outcome with
  | ok answer => exact absurd rfl (houtcome answer)
  | error error => exact Or.inr ⟨hunmatched, hrejected⟩
  | running => exact ⟨hunmatched, hrejected⟩

theorem unmatched_toList (baseline : Option SignalBaseline) :
    wait.Unmatched baseline.toList := by
  cases baseline with
  | none => exact trivial
  | some base => exact fun current hcurrent => absurd hcurrent (by simp)

theorem ends_quiet (baseline : Option SignalBaseline) {outcome : Outcome AppError Json}
    (houtcome : ∀ answer, outcome ≠ .ok answer) :
    wait.Ends outcome [] (baseline.toList ++ [].filterMap SignalCapture.received) := by
  rw [List.filterMap_nil, List.append_nil]
  exact .of_unmatched houtcome (unmatched_toList baseline)
    (fun capture hcapture => absurd hcapture List.not_mem_nil)

theorem Ends.cons_capture {outcome : Outcome AppError Json} {captures : List SignalCapture}
    {observed : List SignalBaseline} {capture : SignalCapture}
    (hcapture : ∀ error, ¬ capture.Rejected error) (h : wait.Ends outcome captures observed) :
    wait.Ends outcome (capture :: captures) observed := by
  have hall (hrejected : ∀ other ∈ captures, ∀ error', ¬ other.Rejected error') :
      ∀ other ∈ capture :: captures, ∀ error', ¬ other.Rejected error' :=
    List.forall_mem_cons.mpr ⟨hcapture, hrejected⟩
  cases outcome with
  | ok answer => exact h
  | error error =>
    rcases h with ⟨other, hother, hrejected⟩ | ⟨hunmatched, hrejected⟩
    · exact Or.inl ⟨other, List.mem_cons_of_mem _ hother, hrejected⟩
    · exact Or.inr ⟨hunmatched, hall hrejected⟩
  | running => exact ⟨h.1, hall h.2⟩

theorem Ends.insert {outcome : Outcome AppError Json} {captures : List SignalCapture}
    {base current : SignalBaseline} {rest : List SignalBaseline}
    (hcurrent : wait.matchedEvent base current = none)
    (h : wait.Ends outcome captures (base :: rest)) :
    wait.Ends outcome captures (base :: current :: rest) := by
  cases outcome with
  | ok answer =>
    obtain ⟨base', between, last, event, elapsedMs, hobserved, hevent, hanswer⟩ := h
    obtain ⟨rfl, rfl⟩ := List.cons.inj hobserved
    exact ⟨base, current :: between, last, event, elapsedMs, rfl, hevent, hanswer⟩
  | error error =>
    rcases h with hrejected | ⟨hunmatched, hrejected⟩
    · exact Or.inl hrejected
    · exact Or.inr ⟨List.forall_mem_cons.mpr ⟨hcurrent, hunmatched⟩, hrejected⟩
  | running => exact ⟨List.forall_mem_cons.mpr ⟨hcurrent, h.1⟩, h.2⟩

end EventWait

/-! ## The loop -/

theorem SignalCapture.not_rejected {capture : SignalCapture} (h : capture.received = none)
    (error : AppError) : ¬ capture.Rejected error := by
  rintro ⟨current, hcurrent, -⟩
  rw [h] at hcurrent
  cases hcurrent

theorem SignalCapture.not_rejected_of_scope {capture : SignalCapture} {current : SignalBaseline}
    (hreceived : capture.received = some current)
    (hscope : validateSignalScope capture.filter current = .ok ()) (error : AppError) :
    ¬ capture.Rejected error := by
  rintro ⟨current', hcurrent', hrejected⟩
  rw [hreceived] at hcurrent'
  obtain rfl := Option.some.inj hcurrent'
  rw [hscope] at hrejected
  cases hrejected

theorem EventWait.Ends.skip {wait : EventWait} {capture : SignalCapture}
    {baseline : Option SignalBaseline} {outcome : Outcome AppError Json}
    {captures : List SignalCapture} (hreceived : capture.received = none)
    (h : wait.Ends outcome captures
      (baseline.toList ++ captures.filterMap SignalCapture.received)) :
    wait.Ends outcome (capture :: captures)
      (baseline.toList ++ (capture :: captures).filterMap SignalCapture.received) := by
  rw [List.filterMap_cons_none hreceived]
  exact h.cons_capture (SignalCapture.not_rejected hreceived)

theorem EventWait.receive_rejected {wait : EventWait} {current : SignalBaseline} {error : AppError}
    (h : validateSignalScope wait.filter current = .error error)
    (baseline : Option SignalBaseline) (lastError : Option Json) :
    wait.receive baseline lastError (.ok current) = .error error := by
  simp only [EventWait.receive, h]
  rfl

theorem EventWait.receive_first {wait : EventWait} {current : SignalBaseline}
    (h : validateSignalScope wait.filter current = .ok ()) (lastError : Option Json) :
    wait.receive none lastError (.ok current) = .ok (.waiting (some current) lastError) := by
  simp only [EventWait.receive, h]
  rfl

theorem EventWait.receive_compared {wait : EventWait} {current : SignalBaseline}
    (h : validateSignalScope wait.filter current = .ok ()) (base : SignalBaseline)
    (lastError : Option Json) :
    wait.receive (some base) lastError (.ok current)
      = .ok ((wait.matchedEvent base current).elim (.waiting (some base) lastError)
        .found) := by
  simp only [EventWait.receive, h]
  cases wait.matchedEvent base current with
  | none => rfl
  | some event => rfl

namespace SignalWorld

variable {σ : Type} (world : SignalWorld σ)

theorem isExpired_sure (deadline : Deadline) : (world.isExpired deadline).Sure :=
  (Prog.Sure.ask _).bind (fun _ => .pure _)

section Loop

variable (wait : EventWait)

/-- What the loop observes from here on ends the wait as it should. -/
def LoopEnds (fuel : ℕ) (baseline : Option SignalBaseline) (lastError : Option Json) : Prop :=
  (world.observeEvents wait fuel baseline lastError).Sat (fun outcome captures =>
    wait.Ends outcome captures (baseline.toList ++ captures.filterMap SignalCapture.received))

theorem goOn_ends {fuel : ℕ} {baseline : Option SignalBaseline} {lastError : Option Json}
    (hloop : world.LoopEnds wait fuel baseline lastError) :
    (Prog.ask world.now >>= fun now =>
      if wait.deadline.remaining now = 0 then
        Prog.fail (eventTimeoutError wait.input baseline lastError)
      else Prog.ask (world.sleep (min (wait.deadline.remaining now) (200 * nanosPerMs)))
        >>= fun _ => world.observeEvents wait fuel baseline lastError).Sat
      (fun outcome captures => wait.Ends outcome captures
        (baseline.toList ++ captures.filterMap SignalCapture.received)) := by
  refine Prog.sat_ask_bind (fun now => ?_)
  split
  · exact Prog.sat_fail (EventWait.ends_quiet baseline (fun _ h => by cases h))
  · exact Prog.sat_ask_bind (fun _ => hloop)

/-- **The loop compares every observation but the first with the first.** -/
theorem observeEvents_ends (fuel : ℕ) (baseline : Option SignalBaseline)
    (lastError : Option Json) : world.LoopEnds wait fuel baseline lastError := by
  induction fuel generalizing baseline lastError with
  | zero => exact Prog.sat_cutOff (EventWait.ends_quiet baseline (fun _ h => by cases h))
  | succ fuel ih =>
    unfold LoopEnds observeEvents
    refine (world.isExpired_sure wait.deadline).bind_sat (fun expired => ?_)
    split
    · exact Prog.sat_fail (EventWait.ends_quiet baseline (fun _ h => by cases h))
    refine Prog.sat_ask_bind (fun observation => ?_)
    refine (world.isExpired_sure wait.deadline).bind_sat (fun late => ?_)
    refine Prog.sat_emit_bind ?_
    split
    · rename_i hlate
      exact Prog.sat_fail (EventWait.Ends.skip (if_pos hlate)
        (EventWait.ends_quiet baseline (fun _ h => by cases h)))
    rename_i hlate
    cases observation with
    | error error =>
      have hreceived : SignalCapture.received ⟨wait.filter, .error error, late⟩ = none :=
        if_neg hlate
      show ((Prog.ofExcept (if isRetryableObservation error.code then
          Except.ok (EventWait.Received.waiting baseline (some (errorEvidence error)))
        else Except.error (AppError.adapter error))) >>= _).Sat _
      split
      · exact (world.goOn_ends wait (ih baseline (some (errorEvidence error)))).mono
          (fun _ _ => EventWait.Ends.skip hreceived)
      · exact Prog.sat_ofExcept_bind (fun _ h => by cases h) (fun _ _ =>
          EventWait.Ends.skip hreceived (EventWait.ends_quiet baseline (fun _ h => by cases h)))
    | ok current =>
      have hreceived : SignalCapture.received ⟨wait.filter, .ok current, late⟩ = some current :=
        if_neg hlate
      simp only [List.filterMap_cons_some hreceived]
      cases hscope : validateSignalScope wait.filter current with
      | error error =>
        rw [EventWait.receive_rejected hscope]
        refine Prog.sat_ofExcept_bind (fun _ h => by cases h) (fun error' herror => ?_)
        obtain rfl := Except.error.inj herror
        exact Or.inl ⟨_, List.mem_singleton_self _, current, hreceived, hscope⟩
      | ok _ =>
        have hkept := SignalCapture.not_rejected_of_scope hreceived hscope
        cases baseline with
        | none =>
          rw [EventWait.receive_first hscope]
          exact (world.goOn_ends wait (ih (some current) lastError)).mono
            (fun _ _ h => h.cons_capture hkept)
        | some base =>
          rw [EventWait.receive_compared hscope]
          cases hevent : wait.matchedEvent base current with
          | none =>
            exact (world.goOn_ends wait (ih (some base) lastError)).mono
              (fun _ _ h => (h.insert hevent).cons_capture hkept)
          | some event =>
            show (Prog.ask world.now >>= fun now =>
              pure (eventFound event ((now - wait.start) / nanosPerMs))).Sat _
            refine Prog.sat_ask_bind (fun now => Prog.sat_pure ?_)
            exact ⟨base, [], current, event, _, rfl, hevent, rfl⟩

end Loop

theorem signalFilter_quiet (input : EventWaitInput) (requested : EventKind)
    (seed : Option SignalBaseline) (deadline : Deadline) :
    (world.signalFilter input requested seed deadline).Quiet := by
  unfold signalFilter
  split
  · exact .pure _
  rename_i app _
  split
  · exact .pure _
  refine (Prog.Quiet.ofExcept _).bind (fun seededProcess => ?_)
  cases seededProcess with
  | some process => exact .pure _
  | none =>
    dsimp only
    split
    · exact .pure _
    · refine Prog.Quiet.bind (((Prog.Quiet.call _).mapError _).bind (fun _ => .ofExcept _))
        (fun resolved => ?_)
      exact (Prog.Quiet.ofExcept _).bind (fun _ => .pure _)

theorem toList_of_seedBaseline {filter : SignalFilter}
    {seeded : Option (Except AdapterError SignalBaseline)} {baseline : Option SignalBaseline}
    {lastError : Option Json} (h : seedBaseline filter seeded = .ok (baseline, lastError)) :
    baseline = seeded.bind Except.toOption := by
  match seeded with
  | none => exact (Prod.mk.inj (Except.ok.inj h)).1.symm
  | some (.error error) =>
    unfold seedBaseline at h
    dsimp only at h
    split at h
    · exact (Prod.mk.inj (Except.ok.inj h)).1.symm
    · cases h
  | some (.ok observation) =>
    simp only [seedBaseline] at h
    cases hscope : validateSignalScope filter observation with
    | error error =>
      rw [hscope] at h
      cases h
    | ok _ =>
      rw [hscope] at h
      exact (Prod.mk.inj (Except.ok.inj h)).1.symm

/-- **How `wait --event` ends**: before it observed anything, or as a wait of the
requested kind ends over all its observations. -/
theorem waitForEvent_ends (input : EventWaitInput)
    (seeded : Option (Except AdapterError SignalBaseline)) (fuel : ℕ) :
    (world.waitForEvent input seeded fuel).Sat (fun outcome captures =>
      (captures = [] ∧ ∀ answer, outcome ≠ .ok answer)
        ∨ ∃ wait : EventWait, wait.input = input
          ∧ EventKind.parse input.event = some wait.requested
          ∧ wait.Ends outcome captures (observations seeded captures)) := by
  have hearly {outcome : Outcome AppError Json} (houtcome : ∀ answer, outcome ≠ .ok answer) :
      (([] : List SignalCapture) = [] ∧ ∀ answer, outcome ≠ .ok answer)
        ∨ ∃ wait : EventWait, wait.input = input
          ∧ EventKind.parse input.event = some wait.requested
          ∧ wait.Ends outcome [] (observations seeded []) := Or.inl ⟨rfl, houtcome⟩
  unfold waitForEvent
  refine Prog.sat_ofExcept_bind (fun requested hrequested => ?_)
    (fun _ _ => hearly (fun _ h => by cases h))
  have hparse : EventKind.parse input.event = some requested := by
    unfold parseEventKind at hrequested
    cases hkind : EventKind.parse input.event with
    | none =>
      rw [hkind] at hrequested
      cases hrequested
    | some kind =>
      rw [hkind] at hrequested
      exact congrArg some (Except.ok.inj hrequested)
  refine Prog.sat_ask_bind (fun start => ?_)
  refine Prog.sat_ofExcept_bind (fun deadline _ => ?_)
    (fun _ _ => hearly (fun _ h => by cases h))
  refine (world.signalFilter_quiet input requested _ deadline).bind_sat (fun filter => ?_)
    (fun _ => hearly (fun _ h => by cases h)) (hearly (fun _ h => by cases h))
  refine Prog.sat_ofExcept_bind (fun seed hseed => ?_)
    (fun _ _ => hearly (fun _ h => by cases h))
  obtain ⟨baseline, lastError⟩ := seed
  refine (world.observeEvents_ends ⟨input, requested, filter, start, deadline⟩ fuel baseline
    lastError).mono (fun outcome captures h => Or.inr
      ⟨⟨input, requested, filter, start, deadline⟩, rfl, hparse, ?_⟩)
  unfold observations
  rw [← toList_of_seedBaseline hseed]
  exact h

end SignalWorld

/-! ## What a wait answers -/

theorem EventWait.requests_of_matchedEvent {wait : EventWait} {earlier later : SignalBaseline}
    {event : UiEvent} (hparse : EventKind.parse wait.input.event = some wait.requested)
    (h : wait.matchedEvent earlier later = some event) :
    event ∈ diffSignals earlier later ∧ wait.input.Requests event :=
  ⟨List.mem_of_find?_eq_some h, wait.requested, hparse, List.find?_some h⟩

theorem EventWait.not_differ_of_unmatched {wait : EventWait} {earlier later : SignalBaseline}
    (hparse : EventKind.parse wait.input.event = some wait.requested)
    (h : wait.matchedEvent earlier later = none) : ¬ wait.input.Differ earlier later := by
  rintro ⟨event, hevent, requested, hrequested, hmatch⟩
  rw [hparse] at hrequested
  obtain rfl := Option.some.inj hrequested
  exact List.find?_eq_none.mp h event hevent hmatch

/-- An event that has shown, over a list whose first observation is complete, shows
against that first one. -/
theorem EventWaitInput.Shown.exists_differ {input : EventWaitInput} {base : SignalBaseline}
    {rest : List SignalBaseline} (h : input.Shown (base :: rest)) (hbase : input.Complete base) :
    ∃ later ∈ rest, input.Differ base later := by
  obtain ⟨before, first, between, later, after, hobserved, hbefore, -, -, hdiffer⟩ := h
  cases before with
  | nil =>
    obtain ⟨rfl, rfl⟩ := List.cons.inj hobserved
    exact ⟨later, by simp, hdiffer⟩
  | cons observation before =>
    obtain ⟨rfl, -⟩ := List.cons.inj hobserved
    exact absurd hbase (hbefore _ List.mem_cons_self)

/-- **An event is answered only if it was observed**, and what has shown is answered
exactly when the first of all observations was complete. For every behaviour of the
adapter and of the clock, every request and seed: an answer is read off two
observations, both complete for the request, the earlier first. And an event that has
shown among the observations so far was answered – or the wait was ended by an
observation of another process – if and only if the first observation of all was
complete, or such an observation was among them. In particular a wait that goes on has
seen no event that it could have answered. -/
theorem SignalWorld.waitForEvent_reports_iff {σ : Type} (world : SignalWorld σ)
    (input : EventWaitInput) (seeded : Option (Except AdapterError SignalBaseline)) (fuel : ℕ)
    (s : σ) :
    let run := world.waitForEvent input seeded fuel
    let observed := observations seeded (run.events s)
    let rejected := fun error => ∃ capture ∈ run.events s, capture.Rejected error
    (∀ answer, run.outcome s = .ok answer → input.ReadOff observed answer)
      ∧ ((input.Shown observed →
          (run.outcome s).isOk = true ∨ ∃ error, run.outcome s = .error error ∧ rejected error)
        ↔ (input.Shown observed →
          input.FirstComplete observed ∨ ∃ error, rejected error)) := by
  intro run observed rejected
  rcases world.waitForEvent_ends input seeded fuel s with
    ⟨hevents, houtcome⟩ | ⟨wait, rfl, hparse, hends⟩
  · have hnot : ¬ input.Shown observed := by
      refine EventWaitInput.not_shown_of_length_le_one ?_
      show (observations seeded (run.events s)).length ≤ 1
      rw [show run.events s = [] from hevents]
      unfold observations
      rw [List.filterMap_nil, List.append_nil]
      exact Option.length_toList_le
    exact ⟨fun answer h => absurd h (houtcome answer),
      fun _ h => absurd h hnot, fun _ h => absurd h hnot⟩
  · have hends : wait.Ends (run.outcome s) (run.events s) observed := hends
    have hunmatched (h : wait.Unmatched observed) (hshown : wait.input.Shown observed) :
        ¬ wait.input.FirstComplete observed := by
      rintro ⟨base, rest, hobserved, hbase⟩
      rw [hobserved] at h hshown
      obtain ⟨later, hlater, hdiffer⟩ := hshown.exists_differ hbase
      exact EventWait.not_differ_of_unmatched hparse (h later hlater) hdiffer
    -- nothing has shown the event and nothing was rejected: neither side holds of a shown event
    have hquiet (hnone : wait.Unmatched observed)
        (hkept : ∀ capture ∈ run.events s, ∀ error', ¬ capture.Rejected error')
        (hshown : wait.input.Shown observed) :
        ¬ (wait.input.FirstComplete observed ∨ ∃ error, rejected error) := by
      rintro (hfirst | ⟨error', capture, hcapture, hrejected⟩)
      · exact hunmatched hnone hshown hfirst
      · exact hkept capture hcapture error' hrejected
    cases houtcome : run.outcome s with
    | ok answer =>
      rw [houtcome] at hends
      obtain ⟨base, between, current, event, elapsedMs, hobserved, hevent, hanswer⟩ := hends
      obtain ⟨hmem, hrequested⟩ := EventWait.requests_of_matchedEvent hparse hevent
      obtain ⟨hbase, hcurrent⟩ := EventWaitInput.complete_of_requests hmem hrequested
      refine ⟨fun answer' h => ?_, fun _ _ => Or.inl ⟨base, _, hobserved, hbase⟩,
        fun _ _ => Or.inl rfl⟩
      obtain rfl := Outcome.ok.inj h
      exact ⟨[], base, between, current, [], event, elapsedMs, hobserved, hbase, hcurrent, hmem,
        hrequested, hanswer⟩
    | error error =>
      rw [houtcome] at hends
      refine ⟨fun answer h => (by cases h), ?_⟩
      rcases hends with hrejected | ⟨hnone, hkept⟩
      · exact ⟨fun _ _ => Or.inr ⟨error, hrejected⟩, fun _ _ => Or.inr ⟨error, rfl, hrejected⟩⟩
      · refine ⟨fun h hshown => ?_, fun h hshown => absurd (h hshown) (hquiet hnone hkept hshown)⟩
        rcases h hshown with hok | ⟨error', -, capture, hcapture, hrejected⟩
        · cases hok
        · exact absurd hrejected (hkept capture hcapture error')
    | running =>
      rw [houtcome] at hends
      obtain ⟨hnone, hkept⟩ := hends
      refine ⟨fun answer h => (by cases h), fun h hshown => ?_,
        fun h hshown => absurd (h hshown) (hquiet hnone hkept hshown)⟩
      rcases h hshown with hok | ⟨error', hover, -⟩
      · cases hok
      · cases hover

/-! ## A wait that misses its event -/

namespace Sample

/-- An adapter that answers with these observations, a millisecond each, and then with
none. -/
def scriptedSignals : SignalWorld (ℕ × List SignalBaseline) where
  now := fun s => (s.1, s)
  inheritedDeadline := none
  sleep := fun duration s => ((), (s.1 + duration, s.2))
  listAppsScoped := fun _ _ _ s => (.ok [], s)
  captureSignalBaseline := fun _ _ s =>
    match s.2 with
    | [] => (.error (.timeout "No observation"), (s.1 + nanosPerMs, []))
    | observation :: rest => (.ok observation, (s.1 + nanosPerMs, rest))

/-- An observation whose inventories all failed. -/
def blindSignals : SignalBaseline where
  windows := []
  apps := []
  surfaces := []
  completeness := ⟨false, false, false⟩

/-- A desktop without windows. -/
def emptyDesktop : SignalBaseline := { blindSignals with completeness := .complete }

/-- A window. -/
def untitledWindow : WindowInfo where
  id := "w-1"
  title := "Untitled"
  app := "TextEdit"
  pid := 42
  processInstance := some "instance-1"
  bounds := none
  state := ⟨false, true, none, none⟩

/-- A desktop with this window. -/
def oneWindowDesktop : SignalBaseline := { emptyDesktop with windows := [untitledWindow] }

/-- Waiting a second for a window to open. -/
def windowOpenedInput : EventWaitInput where
  event := "window-opened"
  app := none
  windowId := none
  windowTitle := none
  timeoutMs := 1000

/-- The wait whose first observation is blind. -/
def blindWait : WaitProg (ℕ × List SignalBaseline) AppError Json :=
  scriptedSignals.waitForEvent windowOpenedInput none 10

/-- Its observations. -/
def blindStart : ℕ × List SignalBaseline := (0, [blindSignals, emptyDesktop, oneWindowDesktop])

end Sample

/-- A wait that timed out. -/
def timedOut : Outcome AppError Json → Bool
  | .error (.adapter error) => error.code == .timeout
  | _ => false

/-- **A window that opened is not reported**: between two complete observations it has
come, but the first observation of all was blind, and the wait times out. -/
theorem blindWait_misses_window :
    Sample.windowOpenedInput.Shown
        (observations none (Sample.blindWait.events Sample.blindStart))
      ∧ timedOut (Sample.blindWait.outcome Sample.blindStart) = true := by
  have hobserved : observations none (Sample.blindWait.events Sample.blindStart)
      = [Sample.blindSignals, Sample.emptyDesktop, Sample.oneWindowDesktop] := by
    decide +kernel
  have hopened : windowEvent .windowOpened Sample.untitledWindow
      ∈ diffSignals Sample.emptyDesktop Sample.oneWindowDesktop := by decide +kernel
  refine ⟨?_, by decide +kernel⟩
  rw [hobserved]
  refine ⟨[Sample.blindSignals], Sample.emptyDesktop, [], Sample.oneWindowDesktop, [], rfl, ?_,
    ⟨.windowOpened, rfl, rfl⟩, ⟨.windowOpened, rfl, rfl⟩, ⟨_, hopened, .windowOpened, rfl, rfl⟩⟩
  intro observation hobservation
  obtain rfl := List.mem_singleton.mp hobservation
  rintro ⟨requested, hparse, hcovers⟩
  obtain rfl : EventKind.windowOpened = requested := Option.some.inj hparse
  cases hcovers

end AgentDesktop
