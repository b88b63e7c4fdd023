import AgentDesktop.IntoView
import AgentDesktop.ScrollReport

/-!
# Scrolling into view reports truthfully

A success has been seen: the last look at the element found an area. It is reported as one without
a delivery only if no ancestor was scrolled, and the request to the element was not carried out or
nothing of the element was seen to move. Ancestors are scrolled ten times at most. A failure that
is reported as not delivered comes before any ancestor has been scrolled.
-/

namespace AgentDesktop

open AXEvent IntoView

namespace ViewEvent

variable {σ E : Type}

/-! ## What a record tells -/

/-- What is recorded of the request to the element. -/
def request? : ViewEvent σ E → Option (ScrollEvent σ E)
  | .toVisible event => some event
  | .checked _ | .settled _ _ | .scrolled _ _ => none

/-- A look at the element. -/
def check? : ViewEvent σ E → Option (Option Rect)
  | .checked area => some area
  | .toVisible _ | .settled _ _ | .scrolled _ _ => none

/-- The scroll of an ancestor. -/
def scroll? : ViewEvent σ E →
    Option (Outcome AdapterError (StepMechanism × Bool) × List (ScrollEvent σ E))
  | .scrolled outcome events => some (outcome, events)
  | .toVisible _ | .checked _ | .settled _ _ => none

/-- **The requests that may have been carried out.** -/
def requests (log : List (ViewEvent σ E)) : List (AXCall E) := effects (log.filterMap request?)

/-- **The scrolls of ancestors.** -/
def scrolls (log : List (ViewEvent σ E)) :
    List (Outcome AdapterError (StepMechanism × Bool) × List (ScrollEvent σ E)) :=
  log.filterMap scroll?

/-- **The last look at the element found an area.** -/
def SawArea (log : List (ViewEvent σ E)) : Prop :=
  ∃ area, (log.filterMap check?).getLast? = some (some area) ∧ rectHasArea area = true

/-- **Nothing of the element was seen to move** after the request. -/
def Unmoved [BoundsHasher] (log : List (ViewEvent σ E)) : Prop :=
  ∃ before after, ViewEvent.settled before after ∈ log ∧ scrollEffectObserved before after = false

@[simp] theorem requests_append (log log' : List (ViewEvent σ E)) :
    requests (log ++ log') = requests log ++ requests log' := by
  unfold requests
  rw [List.filterMap_append, effects_append]

@[simp] theorem scrolls_append (log log' : List (ViewEvent σ E)) :
    scrolls (log ++ log') = scrolls log ++ scrolls log' := List.filterMap_append

theorem SawArea.append_left {log' : List (ViewEvent σ E)} (log : List (ViewEvent σ E))
    (h : SawArea log') : SawArea (log ++ log') := by
  obtain ⟨area, hlast, harea⟩ := h
  refine ⟨area, ?_, harea⟩
  rw [List.filterMap_append, List.getLast?_append, hlast]
  rfl

theorem scrolls_map_toVisible (events : List (ScrollEvent σ E)) :
    scrolls (events.map (ViewEvent.toVisible : ScrollEvent σ E → ViewEvent σ E)) = [] := by
  unfold scrolls
  rw [List.filterMap_map]
  exact List.filterMap_eq_nil_iff.mpr (fun _ _ => rfl)

theorem requests_map_toVisible (events : List (ScrollEvent σ E)) :
    requests (events.map (ViewEvent.toVisible : ScrollEvent σ E → ViewEvent σ E))
      = effects events := by
  unfold requests
  rw [List.filterMap_map]
  exact congrArg effects (List.filterMap_some ..)

end ViewEvent

open ViewEvent

/-- **What scrolling into view reports.** -/
structure IntoViewReport {σ E : Type} [BoundsHasher] (deadline : Deadline)
    (o : Outcome AdapterError DeliveryOutcome) (log : List (ViewEvent σ E)) : Prop where
  /-- A success has been seen. -/
  visible : ∀ outcome, o = .ok outcome → SawArea log
  /-- A success without a delivery: no ancestor was scrolled, and the request was not carried out
  or did not move anything. -/
  satisfied : o = .ok .satisfiedNoDelivery → scrolls log = [] ∧ (requests log = [] ∨ Unmoved log)
  /-- Ancestors are scrolled ten times at most. -/
  few : (scrolls log).length ≤ maxAncestorScrolls
  /-- A failure that is not delivered: the same of the request, no ancestor was scrolled with
  success, and what a failed scroll of an ancestor has done is hidden by the clock. -/
  notDelivered : ∀ error, o = .error error → error.disposition = .notDelivered →
    (requests log = [] ∨ Unmoved log) ∧ ∀ scroll ∈ scrolls log,
      scroll.1.isOk = false ∧ (hidesEffect deadline scroll.2 = false → effects scroll.2 = [])

namespace IntoViewWorld

variable {σ E : Type} (world : IntoViewWorld σ E) (arithmetic : ScrollArithmetic)

/-! ## Looking -/

theorem quiet_fromOperation (deadline : Deadline) : (world.fromOperation deadline).Quiet := by
  refine (Prog.Quiet.ask _).bind (fun now => ?_)
  split_ifs
  · exact Prog.Quiet.fail _
  · exact (Prog.Quiet.ask _).bind (fun _ => Prog.Quiet.pure _)

theorem quiet_elementBounds (element : E) (deadline : Deadline) :
    (world.elementBounds element deadline).Quiet :=
  (world.quiet_fromOperation deadline).bind (fun _ => Prog.Quiet.unrecorded _)

theorem quiet_visibleArea (element : E) (deadline : Deadline) :
    (world.visibleArea element deadline).Quiet := by
  refine (Prog.Quiet.unrecorded _).bind (fun window => ?_)
  split_ifs
  · exact Prog.Quiet.pure _
  · exact (world.quiet_fromOperation deadline).bind (fun _ => Prog.Quiet.unrecorded _)

theorem quiet_directionToViewport (element : E) (deadline : Deadline) :
    (world.directionToViewport element deadline).Quiet := by
  refine (world.quiet_fromOperation deadline).bind (fun instant => ?_)
  refine (Prog.Quiet.unrecorded _).bind (fun bounds => ?_)
  cases bounds with
  | none => exact Prog.Quiet.fail _
  | some bounds =>
    have hviewport : (world.viewportOf element deadline instant).Quiet := by
      refine (Prog.Quiet.unrecorded _).bind (fun viewport => ?_)
      cases viewport with
      | none => exact (Prog.Quiet.call _).bind (fun _ => Prog.Quiet.ofExcept _)
      | some viewport => exact Prog.Quiet.pure _
    refine hviewport.bind (fun viewport => (Prog.Quiet.unrecorded _).bind (fun bounds => ?_))
    cases bounds with
    | none => exact Prog.Quiet.fail _
    | some viewportBounds => exact Prog.Quiet.pure _

/-- What a look at the element records. -/
def Looked (o : Outcome AdapterError Bool) (log : List (ViewEvent σ E)) : Prop :=
  (∃ area : Option Rect, o = .ok (area.any rectHasArea) ∧ log = [.checked area])
    ∨ (∀ visible, o ≠ .ok visible) ∧ log = []

theorem visibleThroughAncestors_sat (element : E) (deadline : Deadline) :
    (world.visibleThroughAncestors element deadline).Sat Looked := by
  refine (world.quiet_visibleArea element deadline).bind_sat (fun area => ?_)
    (fun _ => .inr ⟨fun _ h => (by cases h), rfl⟩) (.inr ⟨fun _ h => (by cases h), rfl⟩)
  exact Prog.sat_emit_bind (Prog.sat_pure (.inl ⟨area, rfl, rfl⟩))

theorem sawArea_checked {area : Option Rect} (h : area.any rectHasArea = true) :
    SawArea ([.checked area] : List (ViewEvent σ E)) := by
  cases area with
  | none => cases h
  | some area => exact ⟨area, rfl, h⟩

/-! ## The request to the element -/

/-- What is known after a request that was accepted. -/
structure LookedFor [BoundsHasher] (o : Outcome AdapterError DeliveryOutcome)
    (log : List (ViewEvent σ E)) : Prop where
  /-- No ancestor is scrolled. -/
  still : scrolls log = []
  /-- Nothing is requested. -/
  quiet : requests log = []
  /-- The element was seen, or was not seen to move. -/
  answer : ∀ outcome, o = .ok outcome →
    (outcome = .deliveredVerified ∧ SawArea log) ∨ (outcome = .notDelivered ∧ Unmoved log)
  /-- A failure does not say that nothing was delivered. -/
  failure : ∀ error, o = .error error → error.disposition ≠ .notDelivered

namespace LookedFor

variable [BoundsHasher] {o : Outcome AdapterError DeliveryOutcome} {log : List (ViewEvent σ E)}

theorem ofError {error : AdapterError} (h : error.disposition = .deliveredUnverified) :
    LookedFor (.error error) ([] : List (ViewEvent σ E)) where
  still := rfl
  quiet := rfl
  answer _ ho := by cases ho
  failure error' ho := by
    rw [← Outcome.error.inj ho, h]
    decide

theorem ofRunning : LookedFor .running ([] : List (ViewEvent σ E)) :=
  ⟨rfl, rfl, fun _ ho => (by cases ho), fun _ ho => (by cases ho)⟩

theorem checked (area : Option Rect) (h : LookedFor o log) :
    LookedFor o (ViewEvent.checked area :: log) where
  still := h.still
  quiet := h.quiet
  answer outcome ho := by
    cases h.answer outcome ho with
    | inl hseen => exact .inl ⟨hseen.1, SawArea.append_left [.checked area] hseen.2⟩
    | inr hunmoved =>
      obtain ⟨houtcome, before, after, hmem, heffect⟩ := hunmoved
      exact .inr ⟨houtcome, before, after, List.mem_cons_of_mem _ hmem, heffect⟩
  failure := h.failure

end LookedFor

section

variable [BoundsHasher]

theorem settle_sat (element : E) (before : Option Rect) (deadline : Deadline) :
    (world.settle element before deadline).Sat LookedFor := by
  refine Prog.Sat.attempt_bind (world.quiet_elementBounds element deadline)
    (fun after events hevents => ?_) (fun error events hevents => ?_) (fun events hevents => ?_)
  · rw [hevents]
    refine Prog.sat_emit_bind ?_
    unfold settledScrollOutcome
    dsimp only
    cases heffect : scrollEffectObserved before after with
    | true =>
      exact Prog.sat_fail ⟨rfl, rfl, fun _ ho => (by cases ho), fun error ho => by
        rw [← Outcome.error.inj ho]
        decide⟩
    | false =>
      refine Prog.sat_pure ⟨rfl, rfl, fun outcome ho => .inr ⟨(Outcome.ok.inj ho).symm, ?_⟩,
        fun _ ho => (by cases ho)⟩
      exact ⟨before, after, List.mem_singleton_self _, heffect⟩
  · rw [hevents]
    exact Prog.sat_fail (.ofError rfl)
  · rw [hevents]
    exact LookedFor.ofRunning

theorem visibleLoop_sat (element : E) (before : Option Rect) (deadline : Deadline)
    (localEnd fuel : ℕ) :
    (world.visibleLoop element before deadline localEnd fuel).Sat LookedFor := by
  induction fuel with
  | zero => exact Prog.sat_cutOff LookedFor.ofRunning
  | succ fuel ih =>
    refine Prog.Sat.mapError_bind (world.visibleThroughAncestors_sat element deadline)
      (fun visible log hlooked => ?_) (fun error log hlooked => ?_) (fun log hlooked => ?_)
    · obtain ⟨area, hvisible, rfl⟩ | ⟨hnone, -⟩ := hlooked
      · obtain rfl := Outcome.ok.inj hvisible
        cases harea : area.any rectHasArea with
        | true =>
          refine Prog.sat_pure ⟨rfl, rfl, fun outcome ho => .inl ⟨(Outcome.ok.inj ho).symm, ?_⟩,
            fun _ ho => (by cases ho)⟩
          exact sawArea_checked harea
        | false =>
          refine Prog.Sat.mono ?_ (fun o log h => LookedFor.checked area h)
          refine Prog.sat_ask_bind (fun now => ?_)
          split_ifs
          · exact Prog.sat_fail (.ofError rfl)
          refine Prog.sat_ask_bind (fun now => ?_)
          split_ifs
          · exact world.settle_sat element before deadline
          refine Prog.sat_ask_bind (fun now => ?_)
          refine Prog.sat_ofExcept_bind (fun pause _ => ?_) (fun error herror => ?_)
          · exact Prog.sat_ask_bind (fun _ => ih)
          · cases hpause : deadline.remainingSlice now (20 * nanosPerMs) with
            | ok pause =>
              rw [hpause] at herror
              cases herror
            | error source =>
              rw [hpause] at herror
              rw [← Except.error.inj herror]
              exact .ofError rfl
      · exact absurd rfl (hnone visible)
    · obtain ⟨_, herror, -⟩ | ⟨-, rfl⟩ := hlooked
      · cases herror
      · exact .ofError rfl
    · obtain ⟨_, hrunning, -⟩ | ⟨-, rfl⟩ := hlooked
      · cases hrunning
      · exact .ofRunning

/-- What is known of the request, and of the time after it. -/
structure Requested (o : Outcome AdapterError DeliveryOutcome) (log : List (ViewEvent σ E)) :
    Prop where
  /-- No ancestor is scrolled. -/
  still : scrolls log = []
  /-- The element was seen, or it was not requested, or not seen to move. -/
  answer : ∀ outcome, o = .ok outcome → (outcome = .deliveredVerified ∧ SawArea log)
    ∨ (outcome = .notDelivered ∧ (requests log = [] ∨ Unmoved log))
  /-- A failure that is not delivered comes without a request. -/
  failure : ∀ error, o = .error error → error.disposition = .notDelivered → requests log = []

theorem Requested.ofNothing {o : Outcome AdapterError DeliveryOutcome}
    (h : ∀ outcome, o ≠ .ok outcome) : Requested o ([] : List (ViewEvent σ E)) :=
  ⟨rfl, fun outcome ho => absurd ho (h outcome), fun _ _ _ => rfl⟩

/-- **The request to the element** is reported with what was seen of it. -/
theorem scrollToVerified_sat (element : E) (deadline : Deadline) (fuel : ℕ) :
    (world.scrollToVerified element deadline fuel).Sat Requested := by
  refine (Prog.Quiet.call _).bind_sat (fun _ => ?_) (fun _ => .ofNothing (fun _ ho => by cases ho))
    (.ofNothing (fun _ ho => by cases ho))
  refine (world.quiet_elementBounds element deadline).bind_sat (fun before => ?_)
    (fun _ => .ofNothing (fun _ ho => by cases ho)) (.ofNothing (fun _ ho => by cases ho))
  have hrequest : ((world.tryAxActionOrErr element "AXScrollToVisible" deadline).mapEvents
      (ViewEvent.toVisible : ScrollEvent σ E → ViewEvent σ E)).Sat (fun o log =>
        scrolls log = [] ∧ (o ≠ .ok true →
          (∀ error, o = .error error → error.disposition = .notDelivered) → requests log = [])) := by
    refine Prog.Sat.mapEvents ((world.tryAxActionOrErr_sat element "AXScrollToVisible" deadline).mono
      (fun o events hreport => ⟨scrolls_map_toVisible events, fun htrue hnot => ?_⟩))
    rw [requests_map_toVisible]
    exact hreport.effects_eq_nil htrue hnot
  refine Prog.Sat.bind hrequest (fun accepted log hlog => ?_) (fun error log hlog => ?_)
    (fun log hlog => ?_)
  · cases accepted with
    | false =>
      refine Prog.sat_pure ?_
      rw [List.append_nil]
      refine ⟨hlog.1, fun outcome ho => .inr ⟨(Outcome.ok.inj ho).symm, .inl ?_⟩,
        fun _ ho => (by cases ho)⟩
      exact hlog.2 (fun ho => by cases ho) (fun _ ho => by cases ho)
    | true =>
      refine Prog.sat_ask_bind (fun now => ?_)
      refine (world.visibleLoop_sat element before deadline _ fuel).mono (fun o later hlater => ?_)
      refine ⟨?_, fun outcome ho => ?_, fun error ho hnot => absurd hnot (hlater.failure error ho)⟩
      · rw [scrolls_append, hlog.1, hlater.still, List.append_nil]
      · cases hlater.answer outcome ho with
        | inl hseen => exact .inl ⟨hseen.1, SawArea.append_left log hseen.2⟩
        | inr hunmoved =>
          obtain ⟨houtcome, before, after, hmem, heffect⟩ := hunmoved
          exact .inr ⟨houtcome, .inr ⟨before, after, List.mem_append_right _ hmem, heffect⟩⟩
  · refine ⟨hlog.1, fun outcome ho => (by cases ho), fun error' ho hnot => ?_⟩
    refine hlog.2 (fun ho' => by cases ho') (fun error'' ho' => ?_)
    rw [← Outcome.error.inj ho', Outcome.error.inj ho]
    exact hnot
  · exact ⟨hlog.1, fun outcome ho => (by cases ho), fun error ho => (by cases ho)⟩

end

/-! ## The ancestors -/

/-- A scroll of an ancestor that did nothing, or whose effect is hidden. -/
def Harmless (deadline : Deadline)
    (scroll : Outcome AdapterError (StepMechanism × Bool) × List (ScrollEvent σ E)) : Prop :=
  scroll.1.isOk = false ∧ (hidesEffect deadline scroll.2 = false → effects scroll.2 = [])

/-- **What is known of the scrolls of ancestors**, after a number of them, with a number left. -/
structure Brought (deadline : Deadline) (attempt left : ℕ)
    (o : Outcome AdapterError DeliveryOutcome) (log : List (ViewEvent σ E)) : Prop where
  /-- Nothing is requested of the element. -/
  quiet : requests log = []
  /-- No more than are left. -/
  few : (scrolls log).length ≤ left
  /-- A success has been seen. -/
  visible : ∀ outcome, o = .ok outcome → SawArea log
  /-- A success without a delivery comes before all scrolls. -/
  satisfied : o = .ok .satisfiedNoDelivery → attempt = 0 ∧ scrolls log = []
  /-- So does a failure that is not delivered, unless it is the scroll that fails. -/
  failure : ∀ error, o = .error error → error.disposition = .notDelivered →
    attempt = 0 ∧ ∀ scroll ∈ scrolls log, Harmless deadline scroll

namespace Brought

variable {deadline : Deadline} {attempt left : ℕ}

theorem ofAnnotated {delivery : DeliveryTracker} (hdelivery : delivery.deliveredUnits = attempt)
    (error : AdapterError) {log : List (ViewEvent σ E)} (hquiet : requests log = [])
    (hscrolls : scrolls log = []) :
    Brought deadline attempt left (.error (delivery.annotate error)) log where
  quiet := hquiet
  few := by
    rw [hscrolls]
    exact Nat.zero_le _
  visible _ ho := by cases ho
  satisfied ho := by cases ho
  failure error' ho hnot := by
    rw [← Outcome.error.inj ho, delivery.disposition_annotate_eq_notDelivered_iff] at hnot
    rw [hscrolls, ← hdelivery]
    exact ⟨hnot.1, fun scroll hscroll => absurd hscroll List.not_mem_nil⟩

theorem ofRunning {log : List (ViewEvent σ E)} (hquiet : requests log = [])
    (hfew : (scrolls log).length ≤ left) : Brought deadline attempt left .running log :=
  ⟨hquiet, hfew, fun _ ho => (by cases ho), fun ho => (by cases ho), fun _ ho => (by cases ho)⟩

theorem scrolled {o : Outcome AdapterError DeliveryOutcome} {log : List (ViewEvent σ E)}
    (outcome : Outcome AdapterError (StepMechanism × Bool)) (events : List (ScrollEvent σ E))
    (h : Brought deadline (attempt + 1) left o log) :
    Brought deadline attempt (left + 1) o (ViewEvent.scrolled outcome events :: log) where
  quiet := h.quiet
  few := Nat.succ_le_succ h.few
  visible outcome' ho := SawArea.append_left [.scrolled outcome events] (h.visible outcome' ho)
  satisfied ho := absurd (h.satisfied ho).1 (Nat.succ_ne_zero attempt)
  failure error ho hnot := absurd (h.failure error ho hnot).1 (Nat.succ_ne_zero attempt)

end Brought

theorem finishInViewport_sat (element : E) (deadline : Deadline) {attempt left : ℕ}
    {delivery : DeliveryTracker} (hdelivery : delivery.deliveredUnits = attempt) :
    (world.finishInViewport element deadline attempt delivery).Sat
      (Brought deadline attempt left) := by
  refine Prog.Sat.mapError_bind (world.visibleThroughAncestors_sat element deadline)
    (fun visible log hlooked => ?_) (fun error log hlooked => ?_) (fun log hlooked => ?_)
  · obtain ⟨area, hvisible, rfl⟩ | ⟨hnone, -⟩ := hlooked
    · obtain rfl := Outcome.ok.inj hvisible
      cases harea : area.any rectHasArea with
      | true =>
        refine Prog.sat_pure ⟨rfl, Nat.zero_le _, fun _ _ => sawArea_checked harea, fun ho => ?_,
          fun _ ho => (by cases ho)⟩
        refine ⟨?_, rfl⟩
        by_contra hattempt
        rw [if_neg hattempt] at ho
        cases ho
      | false => exact Prog.sat_fail (.ofAnnotated hdelivery remainsClipped rfl rfl)
    · exact absurd rfl (hnone visible)
  · obtain ⟨_, herror, -⟩ | ⟨-, rfl⟩ := hlooked
    · cases herror
    · exact .ofAnnotated hdelivery error rfl rfl
  · obtain ⟨_, hrunning, -⟩ | ⟨-, rfl⟩ := hlooked
    · cases hrunning
    · exact .ofRunning rfl (Nat.zero_le _)

theorem scrollParent_sat (parent : E) (direction : Direction) (deadline : Deadline) :
    (world.scrollParent arithmetic parent direction deadline).Sat (fun o log =>
      ∃ events, log = [.scrolled o events]
        ∧ ScrollReport deadline 1 (fun _ => true) o events) := by
  refine Prog.Sat.boxed ((world.axScroll_scrollReport arithmetic parent direction 1
    (show InteractionPolicy.headless.isHeaded = false from rfl) deadline).mono
      (fun o events hreport => ⟨events, rfl, hreport⟩))

/-- **The ancestors are scrolled one at a time**, until the element lies in its viewport. -/
theorem scrollAncestorFrom_sat (element : E) (deadline : Deadline) (left attempt : ℕ)
    (delivery : DeliveryTracker) (hdelivery : delivery.deliveredUnits = attempt) :
    (world.scrollAncestorFrom arithmetic element deadline left attempt delivery).Sat
      (Brought deadline attempt left) := by
  induction left generalizing attempt delivery with
  | zero =>
    refine Prog.sat_fail ⟨rfl, Nat.zero_le _, fun _ ho => (by cases ho), fun ho => (by cases ho),
      fun error ho hnot => ?_⟩
    rw [← Outcome.error.inj ho] at hnot
    cases hnot
  | succ left ih =>
    refine Prog.Quiet.mapError_bind_sat (world.quiet_directionToViewport element deadline)
      (fun direction => ?_) (fun error => .ofAnnotated hdelivery error rfl rfl)
      (.ofRunning rfl (Nat.zero_le _))
    cases direction with
    | none => exact world.finishInViewport_sat element deadline hdelivery
    | some direction =>
      refine Prog.Quiet.mapError_bind_sat (Prog.Quiet.unrecorded _) (fun parent => ?_)
        (fun error => .ofAnnotated hdelivery error rfl rfl) (.ofRunning rfl (Nat.zero_le _))
      cases parent with
      | none => exact Prog.sat_fail (.ofAnnotated hdelivery noAncestorToScroll rfl rfl)
      | some parent =>
        refine Prog.Sat.mapError_bind (world.scrollParent_sat arithmetic parent direction deadline)
          (fun answer log hscroll => ?_) (fun error log hscroll => ?_) (fun log hscroll => ?_)
        · obtain ⟨events, rfl, -⟩ := hscroll
          refine (ih (attempt + 1) delivery.markDelivered (congrArg (· + 1) hdelivery)).mono
            (fun o later hlater => ?_)
          exact hlater.scrolled _ events
        · obtain ⟨events, rfl, hreport⟩ := hscroll
          refine ⟨rfl, Nat.succ_le_succ (Nat.zero_le _), fun _ ho => (by cases ho),
            fun ho => (by cases ho), fun error' ho hnot => ?_⟩
          rw [← Outcome.error.inj ho, delivery.disposition_annotate_eq_notDelivered_iff,
            hdelivery] at hnot
          refine ⟨hnot.1, fun scroll hmem => ?_⟩
          obtain rfl := List.mem_singleton.mp hmem
          exact ⟨rfl, fun hshown => hreport.shown hshown error rfl hnot.2⟩
        · obtain ⟨events, rfl, -⟩ := hscroll
          exact .ofRunning rfl (Nat.succ_le_succ (Nat.zero_le _))

/-! ## The whole -/

/-- **Scrolling into view reports truthfully**, whatever the element, its ancestors and the clock
answer. -/
theorem scrollIntoViewOutcome_reports [BoundsHasher] (element : E) (deadline : Deadline)
    (fuel : ℕ) :
    (world.scrollIntoViewOutcome arithmetic element deadline fuel).Sat
      (IntoViewReport deadline) := by
  refine Prog.Sat.bind (world.scrollToVerified_sat element deadline fuel)
    (fun outcome log hrequested => ?_) (fun error log hrequested => ?_)
    (fun log hrequested => ?_)
  · cases hrequested.answer outcome rfl with
    | inl hseen =>
      obtain ⟨rfl, hseen⟩ := hseen
      refine Prog.sat_pure ?_
      rw [List.append_nil]
      refine ⟨fun _ _ => hseen, fun ho => (by cases ho), ?_, fun _ ho => (by cases ho)⟩
      rw [hrequested.still]
      exact Nat.zero_le _
    | inr hnot =>
      obtain ⟨rfl, hnot⟩ := hnot
      refine (world.scrollAncestorFrom_sat arithmetic element deadline maxAncestorScrolls 0 .empty
        rfl).mono (fun o later hbrought => ?_)
      have hscrolls : scrolls (log ++ later) = scrolls later := by
        rw [scrolls_append, hrequested.still, List.nil_append]
      have hrequests : requests (log ++ later) = [] ∨ Unmoved (log ++ later) := by
        cases hnot with
        | inl hnone =>
          refine .inl ?_
          rw [requests_append, hnone, hbrought.quiet, List.append_nil]
        | inr hunmoved =>
          obtain ⟨before, after, hmem, heffect⟩ := hunmoved
          exact .inr ⟨before, after, List.mem_append_left _ hmem, heffect⟩
      refine ⟨fun outcome ho => SawArea.append_left log (hbrought.visible outcome ho),
        fun ho => ⟨?_, hrequests⟩, ?_, fun error ho hdisposition => ⟨hrequests, ?_⟩⟩
      · rw [hscrolls]
        exact (hbrought.satisfied ho).2
      · rw [hscrolls]
        exact hbrought.few
      · rw [hscrolls]
        exact (hbrought.failure error ho hdisposition).2
  · refine ⟨fun _ ho => (by cases ho), fun ho => (by cases ho), ?_, fun error' ho hnot => ?_⟩
    · rw [hrequested.still]
      exact Nat.zero_le _
    · refine ⟨.inl (hrequested.failure error' ?_ hnot), fun scroll hscroll => ?_⟩
      · rw [Outcome.error.inj ho]
      · rw [hrequested.still] at hscroll
        exact absurd hscroll List.not_mem_nil
  · refine ⟨fun _ ho => (by cases ho), fun ho => (by cases ho), ?_, fun _ ho => (by cases ho)⟩
    rw [hrequested.still]
    exact Nat.zero_le _

end IntoViewWorld

namespace Sample

/-- A scroll area of which no bound changes, and which has a window from this time on. It accepts
every request, a read of an element takes a nanosecond, and a pause a second. The state is the
time. -/
def stillArea (shownFrom : ℕ) : IntoViewWorld ℕ Unit where
  clock now := (now, now)
  pidFromElement _ _ now := (none, now)
  elementForPid _ := ()
  setMessagingTimeout _ _ now := (.ok (), now)
  prepareMutation _ _ now := (.ok (), now)
  performAction _ _ now := (.success, now)
  setAttributeValue _ _ _ now := (.success, now)
  copyActionNames _ _ now := (some ["AXScrollToVisible"], now)
  copyAttributeValue _ _ _ now := ((.noValue, none), now)
  copyStringAttr _ _ _ now := (.ok (some "AXScrollArea"), now)
  copyBoolAttr _ _ _ now := (.ok none, now)
  copyElementAttr _ _ _ now := (.ok (if shownFrom ≤ now then some () else none), now + 1)
  copyAxArrayPrefix _ _ _ _ now := (.ok none, now)
  physicalWheel _ _ _ _ now := (.ok (), now)
  hit :=
    { sameElement := fun _ _ => true
      prepare := fun _ _ now => (.ok (), now)
      copyString := fun _ _ _ now => (.ok (some ("AXScrollArea", true)), now)
      readElement := fun _ _ _ now => (.ok none, now)
      readPoint := fun _ _ _ now => (.ok (some (.finite 0, .finite 0)), now)
      readSize := fun _ _ _ now => (.ok (some (.finite 10, .finite 10)), now)
      systemWide := fun now => (some (), now)
      elementAtPosition := fun _ _ _ now => ((.success, some ()), now)
      pid := fun _ _ now => (.ok 1, now)
      elementForPid := fun _ => ()
      resolveElementName := fun _ _ now => (.ok none, now)
      asF32 := id }
  surfaceElement _ _ _ now := (.ok (some ()), now)
  sleep _ now := ((), now + 1000000000)

/-- Five seconds are left, which is enough for five looks. -/
def stillScroll (shownFrom : ℕ) : Prog ℕ (ViewEvent ℕ Unit) AdapterError DeliveryOutcome :=
  @IntoViewWorld.scrollIntoViewOutcome _ _ (stillArea shownFrom) exactArithmetic noBoundsHash ()
    ⟨0, 5000000000, 5000, false⟩ 5

/-- How scrolling into view ended: with a success, or with what a failure says of the delivery. -/
def endOf : Outcome AdapterError DeliveryOutcome → Option (DeliveryOutcome ⊕ DeliverySemantics)
  | .ok outcome => some (.inl outcome)
  | .error error => some (.inr error.disposition)
  | .running => none

theorem eq_ok_of_endOf {o : Outcome AdapterError DeliveryOutcome} {outcome : DeliveryOutcome}
    (h : endOf o = some (.inl outcome)) : o = .ok outcome := by
  cases o with
  | ok outcome' => exact congrArg Outcome.ok (Sum.inl.inj (Option.some.inj h))
  | error error => cases h
  | running => cases h

theorem exists_error_of_endOf {o : Outcome AdapterError DeliveryOutcome}
    {disposition : DeliverySemantics} (h : endOf o = some (.inr disposition)) :
    ∃ error, o = .error error ∧ error.disposition = disposition := by
  cases o with
  | ok outcome => cases h
  | error error => exact ⟨error, rfl, Sum.inr.inj (Option.some.inj h)⟩
  | running => cases h

end Sample

/-- **An accepted request that moves nothing counts as one that was not delivered**: the area
accepts it, and scrolling is satisfied without a delivery if the area is seen after all, and fails
without one otherwise. -/
theorem still_area_reported_notDelivered :
    ((Sample.stillScroll 1000000002).outcome 0 = .ok .satisfiedNoDelivery
        ∧ (ViewEvent.requests ((Sample.stillScroll 1000000002).events 0)).map AXCall.standing
          = [.delivered])
      ∧ (∃ error, (Sample.stillScroll 10000000000).outcome 0 = .error error
          ∧ error.disposition = .notDelivered)
        ∧ (ViewEvent.requests ((Sample.stillScroll 10000000000).events 0)).map AXCall.standing
          = [.delivered] := by
  refine ⟨⟨Sample.eq_ok_of_endOf ?_, ?_⟩, Sample.exists_error_of_endOf ?_, ?_⟩
  · decide +kernel
  · decide +kernel
  · decide +kernel
  · decide +kernel

end AgentDesktop
