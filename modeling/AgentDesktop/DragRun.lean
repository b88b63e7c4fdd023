import AgentDesktop.Delivery
import AgentDesktop.Drag

/-!
# A drag is delivered at most once

Whatever the adapter answers, the drag is sent at most once. It is sent under the
lease of the last attempt, which has not been given back, and each end that is named
by a ref has been resolved, found visible and hit-tested under that lease after the
last scroll, at bounds that have the hash of those it was observed at before. After
the drag nothing is tried again.
-/

namespace AgentDesktop

variable {σ H : Type}

/-! ## What a run records

The log of a run is read backwards: what counts for an end of the drag is the last look at it, and
that no scroll came after that look. `FreshEnd` says so of any list of events, and the rest of the
module shows that the events before a drag have this form for both ends. -/

namespace DragEvent

/-- The drag was sent. -/
def isDragged : DragEvent H → Bool
  | dragged _ _ => true
  | _ => false

/-- An element was scrolled into view. -/
def isScrolled : DragEvent H → Bool
  | scrolled _ _ => true
  | _ => false

/-- The lease was taken or given back. -/
def isLease : DragEvent H → Bool
  | leaseAcquired _ | leaseReleased _ => true
  | _ => false

/-- The lease was taken. -/
def isLeaseAcquired : DragEvent H → Bool
  | leaseAcquired _ => true
  | _ => false

/-- An end was looked at, or brought into view. -/
def isLook (side : DragSide) : DragEvent H → Bool
  | resolved other _ | observed other _ _ _ | scrolled other _ | hitTested other _ _ _ =>
    other == side
  | _ => false

/-- An end was observed. -/
def isObserved (side : DragSide) : DragEvent H → Bool
  | observed other _ _ _ => other == side
  | _ => false

theorem not_isDragged_of_isLook {side : DragSide} {event : DragEvent H}
    (h : event.isLook side = true) : ¬event.isDragged ∧ ¬event.isLease := by
  cases event <;> simp [isLook, isDragged, isLease] at h ⊢

theorem not_isObserved_of_isLook {side other : DragSide} {event : DragEvent H} (hne : other ≠ side)
    (h : event.isLook other = true) : ¬event.isObserved side := by
  cases event with
  | observed third handle bounds states =>
    obtain rfl : third = other := by simpa [isLook] using h
    simpa [isObserved] using hne
  | _ => simp [isObserved]

end DragEvent

open DragEvent

/-- The adapter reports that something is in the way. -/
def IsOccluded (answer : Except AdapterError HitTestResult) : Prop :=
  ∃ role name bounds, answer = .ok (.interceptedBy role name bounds)

/-- **A look that found its end**: the element was resolved, observed to be visible, and not
reported to be covered at the point in its middle. -/
def FoundLook (side : DragSide) (point : Point) (bounds : Rect) (look : List (DragEvent H)) :
    Prop :=
  ∃ handle states answer,
    look = [resolved side handle, observed side handle (some bounds) states,
        hitTested side handle point answer]
      ∧ pointerIsVisible (some bounds) states = true ∧ ¬IsOccluded answer
      ∧ point = bounds.pointAt (1 / 2) (1 / 2)

/-- **A freshly verified end**: the last look at it, with no scroll since, found it, at bounds that
hash as those of the observation before. -/
def FreshEnd [BoundsHasher] (side : DragSide) (point : Point) (log : List (DragEvent H)) : Prop :=
  ∃ before handle earlier states between look bounds later,
    log = before ++ observed side handle (some earlier) states :: (between ++ look ++ later)
      ∧ FoundLook side point bounds look
      ∧ (∀ event ∈ between, ¬event.isObserved side)
      ∧ (∀ event ∈ later, ¬event.isScrolled)
      ∧ ∃ hash, earlier.boundsHash = some hash ∧ bounds.boundsHash = some hash

/-! ## One look -/

namespace DragDesktop

variable [BoundsHasher] (desktop : DragDesktop σ H)

omit [BoundsHasher] in
theorem resolveHandleWithinDeadline_sat (side : DragSide) (entry : RefEntry)
    (deadline : Deadline) :
    (desktop.resolveHandleWithinDeadline side entry deadline).Sat
      (Prog.OnOk (fun handle => resolved side handle)) := by
  unfold resolveHandleWithinDeadline
  refine Prog.sat_ask_bind (fun now => ?_)
  split
  · exact Prog.sat_ask_bind (fun now => Prog.sat_fail rfl)
  · exact Prog.sat_mapError_call_bind (fun handle => Prog.sat_emit_bind (Prog.sat_pure rfl))
      (fun error => rfl)

omit [BoundsHasher] in
theorem pointerLiveObservation_sat (side : DragSide) (handle : H) (deadline : Deadline) :
    (desktop.pointerLiveObservation side handle deadline).Sat
      (Prog.OnOk (fun seen => observed side handle seen.1 seen.2)) := by
  unfold pointerLiveObservation
  refine Prog.sat_mapError_call_bind (fun bounds => ?_) (fun error => rfl)
  refine Prog.sat_ask_bind (fun states => ?_)
  exact Prog.sat_ofExcept_bind (fun states _ => Prog.sat_emit_bind (Prog.sat_pure rfl))
    (fun error _ => rfl)

omit [BoundsHasher] in
theorem traceBestEffort_quiet {ε : Type} (event : String) (fields : Json) :
    (desktop.traceBestEffort event fields : DragProg σ H ε Unit).Quiet :=
  (Prog.Quiet.ask _).bind (fun _ => .pure _)

omit [BoundsHasher] in
theorem loadRefEntry_quiet (refId : String) (snapshotId : Option String) :
    (desktop.loadRefEntry refId snapshotId).Quiet := by
  unfold loadRefEntry
  refine (Prog.Quiet.ofExcept _).bind (fun target => (Prog.Quiet.call _).bind (fun _ => ?_))
  refine (Prog.Quiet.call _).bind (fun _ => (Prog.Quiet.ask _).bind (fun answer => ?_))
  cases answer with
  | error error => exact (desktop.traceBestEffort_quiet _ _).bind (fun _ => .fail _)
  | ok refmap =>
    dsimp only
    split
    · exact (Prog.Quiet.call _).bind (fun _ => .fail _)
    · exact (Prog.Quiet.call _).bind (fun _ => .pure _)

/-- What is recorded of a look without a scroll. -/
def IsGlance (side : DragSide) (log : List (DragEvent H)) : Prop :=
  ∀ event ∈ log, event.isLook side = true ∧ ¬event.isScrolled

omit [BoundsHasher] in
theorem resolveTraced_sat (request : EntryPointResolve) (deadline : Deadline) :
    (desktop.resolveTraced request deadline).Sat (fun o log =>
      IsGlance request.side log ∧ ∀ handle, o = .ok handle → log = [resolved request.side handle]) := by
  unfold resolveTraced
  refine (desktop.resolveHandleWithinDeadline_sat request.side request.entry deadline).attempt_bind
    (fun handle log hlog => ?_) (fun error log hlog => ?_) (fun log hlog => ?_)
  · obtain rfl : log = [resolved request.side handle] := hlog
    have hglance : IsGlance request.side ([resolved request.side handle] ++ []) := by
      simp [IsGlance, isLook, isScrolled]
    refine (Prog.Quiet.call _).bind_sat (fun _ => Prog.sat_pure ⟨hglance, fun handle' h => ?_⟩)
      (fun error => ⟨hglance, by simp⟩) ⟨hglance, by simp⟩
    rw [Outcome.ok.inj h, List.append_nil]
  · obtain rfl : log = [] := hlog
    have hglance : IsGlance request.side ([] ++ [] : List (DragEvent H)) := by simp [IsGlance]
    exact (desktop.traceBestEffort_quiet _ _).bind_sat
      (fun _ => Prog.sat_fail ⟨hglance, by simp⟩) (fun error => ⟨hglance, by simp⟩)
      ⟨hglance, by simp⟩
  · obtain rfl : log = [] := hlog
    exact ⟨by simp [IsGlance], by simp⟩

/-- **What is recorded on the way to an element in view**: looks at its end, without a scroll when
there is no lease to scroll under, and last that it was found visible. -/
structure ViewSpec (request : EntryPointResolve) (handle : H) (o : Outcome AppError (H × Option Rect))
    (log : List (DragEvent H)) : Prop where
  /-- There are looks only. -/
  look : ∀ event ∈ log, event.isLook request.side = true
  /-- Without a lease there is no scroll. -/
  still : request.lease = none → ∀ event ∈ log, ¬event.isScrolled
  /-- The last look. -/
  seen : ∀ handle' bounds, o = .ok (handle', bounds) → ∃ before states,
    resolved request.side handle :: log
        = before ++ [resolved request.side handle', observed request.side handle' bounds states]
      ∧ pointerIsVisible bounds states = true ∧ (request.lease = none → before = [])

omit [BoundsHasher] in
theorem bringIntoView_sat (request : EntryPointResolve) (deadline : Deadline) (handle : H) :
    (desktop.bringIntoView request deadline handle).Sat (ViewSpec request handle) := by
  unfold bringIntoView
  refine (desktop.pointerLiveObservation_sat request.side handle deadline).bind
    (fun seen log hlog => ?_) (fun error log hlog => ?_) (fun log hlog => ?_)
  · obtain rfl : log = [observed request.side handle seen.1 seen.2] := hlog
    obtain ⟨bounds, states⟩ := seen
    have hlook : ∀ event ∈ [observed request.side handle bounds states] ++ [],
        event.isLook request.side = true := by simp [isLook]
    have hstill : ∀ event ∈ [observed request.side handle bounds states] ++ [],
        ¬event.isScrolled := by simp [isScrolled]
    dsimp only
    split
    · rename_i hvisible
      refine Prog.sat_pure ⟨hlook, fun _ => hstill, fun handle' bounds' h => ?_⟩
      obtain ⟨rfl, rfl⟩ := Prod.mk.inj (Outcome.ok.inj h)
      exact ⟨[], states, rfl, hvisible, fun _ => rfl⟩
    · refine Prog.sat_ask_bind (fun now => ?_)
      split
      · exact Prog.sat_fail ⟨hlook, fun _ => hstill, by simp⟩
      · cases hlease : request.lease with
        | none => exact Prog.sat_fail ⟨hlook, fun _ => hstill, by simp⟩
        | some lease =>
          have hnone : request.lease ≠ none := by simp [hlease]
          have hfailed : ∀ o log', (∀ event ∈ log', event.isLook request.side = true) →
              (∀ found, o ≠ .ok found) → ViewSpec request handle o log' :=
            fun o log' hlog' ho => ⟨hlog', fun h => absurd h hnone, fun _ _ h => absurd h (ho _)⟩
          refine Prog.sat_emit_bind (Prog.sat_mapError_call_bind (fun _ => ?_)
            (fun error => hfailed _ _ (by simp [isLook]) (by simp)))
          refine (desktop.resolveHandleWithinDeadline_sat request.side request.entry deadline).bind
            (fun again log hlog => ?_) (fun error log hlog => ?_) (fun log hlog => ?_)
          · obtain rfl : log = [resolved request.side again] := hlog
            refine (desktop.pointerLiveObservation_sat request.side again deadline).bind
              (fun seen log hlog => ?_) (fun error log hlog => ?_) (fun log hlog => ?_)
            · obtain rfl : log = [observed request.side again seen.1 seen.2] := hlog
              obtain ⟨bounds', states'⟩ := seen
              dsimp only
              split
              · rename_i hvisible
                refine Prog.sat_pure ⟨by simp [isLook], fun h => absurd h hnone,
                  fun handle' bounds'' h => ?_⟩
                obtain ⟨rfl, rfl⟩ := Prod.mk.inj (Outcome.ok.inj h)
                exact ⟨[resolved request.side handle, observed request.side handle bounds states,
                  scrolled request.side handle], states', by simp, hvisible,
                  fun h => absurd h hnone⟩
              · exact Prog.sat_fail (hfailed _ _ (by simp [isLook]) (by simp))
            · obtain rfl : log = [] := hlog
              exact hfailed _ _ (by simp [isLook]) (by simp)
            · obtain rfl : log = [] := hlog
              exact hfailed _ _ (by simp [isLook]) (by simp)
          · obtain rfl : log = [] := hlog
            exact hfailed _ _ (by simp [isLook]) (by simp)
          · obtain rfl : log = [] := hlog
            exact hfailed _ _ (by simp [isLook]) (by simp)
  · obtain rfl : log = [] := hlog
    exact ⟨by simp, by simp, by simp⟩
  · obtain rfl : log = [] := hlog
    exact ⟨by simp, by simp, by simp⟩

/-- What is recorded of the checks of an element in view: it is hit-tested, if at all, and not
covered; its bounds hash, as is expected. -/
structure CheckSpec (request : EntryPointResolve) (handle : H) (bounds : Option Rect)
    (o : Outcome AppError ResolvedPoint) (log : List (DragEvent H)) : Prop where
  glance : IsGlance request.side log
  /-- The point. -/
  found : request.verifyReceivesEvents = true → ∀ point, o = .ok point → ∃ rect answer hash,
    bounds = some rect ∧ log = [hitTested request.side handle point.point answer]
      ∧ ¬IsOccluded answer ∧ point.point = rect.pointAt (1 / 2) (1 / 2)
      ∧ rect.boundsHash = some hash ∧ point.boundsHash = some hash
      ∧ ∀ expected, request.stability = some expected → expected = some hash

omit [BoundsHasher] in
theorem requireReceivesEvents_sat (side : DragSide) (handle : H) (point : Point)
    (deadline : Deadline) :
    (desktop.requireReceivesEvents side handle point deadline).Sat (fun o log =>
      ∃ answer, log = [hitTested side handle point answer] ∧ (o = .ok () → ¬IsOccluded answer)) := by
  unfold requireReceivesEvents
  refine Prog.sat_ask_bind (fun answer => Prog.sat_emit_bind ?_)
  cases answer with
  | error error =>
    dsimp only
    split
    · exact Prog.sat_pure ⟨_, rfl, by simp [IsOccluded]⟩
    · exact Prog.sat_fail ⟨_, rfl, by simp⟩
  | ok result =>
    cases result with
    | reachesTarget => exact Prog.sat_pure ⟨_, rfl, by simp [IsOccluded]⟩
    | unknown => exact Prog.sat_pure ⟨_, rfl, by simp [IsOccluded]⟩
    | interceptedBy role name bounds => exact Prog.sat_fail ⟨_, rfl, by simp⟩

theorem checkPoint_sat (request : EntryPointResolve) (deadline : Deadline) (handle : H)
    (bounds : Option Rect) :
    (desktop.checkPoint request deadline handle bounds).Sat (CheckSpec request handle bounds) := by
  have hfailed : ∀ o : Outcome AppError ResolvedPoint, (∀ point, o ≠ .ok point) →
      CheckSpec request handle bounds o ([] : List (DragEvent H)) := fun o ho =>
    ⟨by simp [IsGlance], fun _ point h => absurd h (ho point)⟩
  unfold checkPoint
  cases bounds with
  | none => exact Prog.sat_fail (hfailed _ (by simp))
  | some rect =>
    dsimp only
    cases hhash : rect.boundsHash with
    | none => exact Prog.sat_fail (hfailed _ (by simp))
    | some hash =>
      dsimp only
      split
      · exact Prog.sat_fail (hfailed _ (by simp))
      · rename_i hstable
        have hexpected : ∀ expected, request.stability = some expected → expected = some hash := by
          intro expected h
          simpa [h] using hstable
        cases hverify : request.verifyReceivesEvents with
        | false =>
          refine Prog.sat_ask_bind (fun now => ?_)
          split
          · exact Prog.sat_fail (hfailed _ (by simp))
          · exact Prog.sat_pure ⟨by simp [IsGlance], fun h => by simp [hverify] at h⟩
        | true =>
          refine (desktop.requireReceivesEvents_sat request.side handle _ deadline).bind
            (fun _ log hlog => ?_) (fun error log hlog => ?_) (fun log hlog => ?_)
          · obtain ⟨answer, rfl, hanswer⟩ := hlog
            have hglance : IsGlance request.side
                ([hitTested request.side handle (rect.pointAt (1 / 2) (1 / 2)) answer] ++ []) := by
              simp [IsGlance, isLook, isScrolled]
            refine Prog.sat_ask_bind (fun now => ?_)
            split
            · exact Prog.sat_fail ⟨hglance, fun _ => by simp⟩
            · refine Prog.sat_pure ⟨hglance, fun _ point h => ?_⟩
              obtain rfl := Outcome.ok.inj h
              exact ⟨rect, answer, hash, rfl, rfl, hanswer rfl, rfl, hhash, rfl, hexpected⟩
          · obtain ⟨answer, rfl, -⟩ := hlog
            exact ⟨by simp [IsGlance, isLook, isScrolled], fun _ => by simp⟩
          · obtain ⟨answer, rfl, -⟩ := hlog
            exact ⟨by simp [IsGlance, isLook, isScrolled], fun _ => by simp⟩

/-- **What is recorded of an end**: looks at it, without a scroll where none is allowed, and last
the look that found it, at bounds with the hash that is expected. -/
structure EndSpec (side : DragSide) (stability : Option (Option UInt64)) (allowScroll : Bool)
    (o : Outcome AppError ResolvedPoint) (log : List (DragEvent H)) : Prop where
  /-- There are looks only. -/
  look : ∀ event ∈ log, event.isLook side = true
  /-- There is no scroll where none is allowed. -/
  still : allowScroll = false → ∀ event ∈ log, ¬event.isScrolled
  /-- The last look. -/
  found : ∀ point, o = .ok point → ∃ before last bounds hash, log = before ++ last
    ∧ FoundLook side point.point bounds last ∧ (allowScroll = false → before = [])
    ∧ bounds.boundsHash = some hash ∧ point.boundsHash = some hash
    ∧ ∀ expected, stability = some expected → expected = some hash

theorem resolvePointFromEntry_sat (request : EntryPointResolve) (deadline : Deadline) :
    (desktop.resolvePointFromEntry request deadline).Sat (fun o log =>
      (∀ event ∈ log, event.isLook request.side = true)
        ∧ (request.verifyReceivesEvents = true →
          EndSpec request.side request.stability request.lease.isSome o log)) := by
  have hnone : request.lease.isSome = false → request.lease = none := by simp
  unfold resolvePointFromEntry
  refine (desktop.resolveTraced_sat request deadline).bind (fun handle log h => ?_)
    (fun error log h => ?_) (fun log h => ?_)
  · obtain rfl := h.2 handle rfl
    have hresolved : (resolved request.side handle).isLook request.side = true
        ∧ ¬(resolved request.side handle).isScrolled := by simp [isLook, isScrolled]
    have hlook : ∀ {o view}, ViewSpec request handle o view →
        ∀ event ∈ [resolved request.side handle] ++ view, event.isLook request.side = true :=
      fun hview => List.forall_mem_cons.mpr ⟨hresolved.1, hview.look⟩
    have hstill : ∀ {o view}, ViewSpec request handle o view → request.lease.isSome = false →
        ∀ event ∈ [resolved request.side handle] ++ view, ¬event.isScrolled :=
      fun hview h => List.forall_mem_cons.mpr ⟨hresolved.2, hview.still (hnone h)⟩
    refine (desktop.bringIntoView_sat request deadline handle).bind (fun seen view hview => ?_)
      (fun error view hview => ⟨hlook hview, fun _ => ⟨hlook hview, hstill hview, by simp⟩⟩)
      (fun view hview => ⟨hlook hview, fun _ => ⟨hlook hview, hstill hview, by simp⟩⟩)
    obtain ⟨handle', bounds⟩ := seen
    refine (desktop.checkPoint_sat request deadline handle' bounds).mono (fun o log hcheck => ?_)
    rw [← List.append_assoc]
    have hlooks := List.forall_mem_append.mpr ⟨hlook hview, fun event hevent =>
      (hcheck.glance event hevent).1⟩
    refine ⟨hlooks, fun hverify => ⟨hlooks, fun h => List.forall_mem_append.mpr ⟨hstill hview h,
      fun event hevent => (hcheck.glance event hevent).2⟩, fun point ho => ?_⟩⟩
    obtain ⟨rect, answer, hash, rfl, rfl, hanswer, hpoint, hrect, hhash, hexpected⟩ :=
      hcheck.found hverify point ho
    obtain ⟨before, states, hlog, hvisible, hbefore⟩ := hview.seen handle' (some rect) rfl
    refine ⟨before, _, rect, hash, ?_, ⟨handle', states, answer, rfl, hvisible, hanswer, hpoint⟩,
      fun h => hbefore (hnone h), hrect, hhash, hexpected⟩
    show resolved request.side handle :: view ++ _ = _
    rw [hlog, List.append_assoc]
    rfl
  · have hlook : ∀ event ∈ log, event.isLook request.side = true := fun event hevent =>
      (h.1 event hevent).1
    exact ⟨hlook, fun _ => ⟨hlook, fun _ event hevent => (h.1 event hevent).2, by simp⟩⟩
  · have hlook : ∀ event ∈ log, event.isLook request.side = true := fun event hevent =>
      (h.1 event hevent).1
    exact ⟨hlook, fun _ => ⟨hlook, fun _ event hevent => (h.1 event hevent).2, by simp⟩⟩

omit [BoundsHasher] in
theorem resolvePointFromXy_quiet (args : PointResolveArgs) :
    (resolvePointFromXy args : DragProg σ H AppError ResolvedPoint).Quiet := by
  unfold resolvePointFromXy
  cases args.xy with
  | none => exact .fail _
  | some xy => exact .pure _

theorem resolvePointUnderLease_sat (args : PointResolveArgs) (stability : Option (Option UInt64))
    (allowScroll : Bool) (deadline : Deadline) (lease : InteractionLease) :
    (desktop.resolvePointUnderLease args stability allowScroll deadline lease).Sat (fun o log =>
      (∀ event ∈ log, event.isLook args.side = true)
        ∧ (allowScroll = false → ∀ event ∈ log, ¬event.isScrolled)
        ∧ ((∃ refId, args.refId = some refId) → EndSpec args.side stability allowScroll o log)) := by
  unfold resolvePointUnderLease
  cases hrefId : args.refId with
  | none =>
    exact (resolvePointFromXy_quiet args).sat (fun o => ⟨by simp, by simp, by simp⟩)
  | some refId =>
    have hfailed : ∀ o : Outcome AppError ResolvedPoint, (∀ point, o ≠ .ok point) →
        EndSpec args.side stability allowScroll o ([] : List (DragEvent H)) := fun o ho =>
      ⟨by simp, by simp, fun point h => absurd h (ho point)⟩
    refine Prog.Sat.mono (Φ := EndSpec args.side stability allowScroll) ?_
      (fun o log h => ⟨h.look, h.still, fun _ => h⟩)
    refine (desktop.loadRefEntry_quiet refId args.snapshotId).bind_sat (fun entry => ?_)
      (fun error => hfailed _ (by simp)) (hfailed _ (by simp))
    refine (desktop.resolvePointFromEntry_sat ⟨args.side, refId, entry, stability,
      if allowScroll then some lease else none, true⟩ deadline).mono (fun o log h => ?_)
    cases allowScroll <;> exact h.2 rfl

/-! ## One attempt

The ends are looked at in turn, with scrolls where they are allowed, and a scroll for the second may
move the first. So each is looked at once more, without a scroll, and its bounds have to hash as
they did: then both ends are fresh at once. -/

omit [BoundsHasher] in
theorem focusPointUnderLease_quiet (args : PointResolveArgs) (context : PointerContext)
    (lease : InteractionLease) : (desktop.focusPointUnderLease args context lease).Quiet := by
  unfold focusPointUnderLease
  split
  · exact .pure _
  · split
    · exact .pure _
    · refine (desktop.loadRefEntry_quiet _ _).bind (fun entry => ?_)
      split
      · exact .pure _
      · exact (Prog.Quiet.unrecorded _).bind (fun _ => .pure _)

/-- **Two looks at an end make it fresh**, when the other end is looked at in between and nothing is
scrolled from the second look on. -/
theorem freshEnd_of_looks {side other : DragSide} (hne : other ≠ side) {allowScroll : Bool}
    {first second : ResolvedPoint} {opening look₁ between look₂ later : List (DragEvent H)}
    (h₁ : EndSpec side none allowScroll (.ok first) look₁)
    (hbetween : ∀ event ∈ between, event.isLook other = true)
    (h₂ : EndSpec side (some first.boundsHash) false (.ok second) look₂)
    (hlater : ∀ event ∈ later, ¬event.isScrolled) :
    FreshEnd side second.point (opening ++ (look₁ ++ (between ++ (look₂ ++ later)))) := by
  obtain ⟨before, last, earlier, hash, rfl, ⟨handle, states, answer, rfl, -⟩, -, hearlier, hfirst,
    -⟩ := h₁.found first rfl
  obtain ⟨before', last', bounds, hash', rfl, hfound, hnone, hbounds, -, hexpected⟩ :=
    h₂.found second rfl
  obtain rfl : before' = [] := hnone rfl
  have hsame : hash = hash' := Option.some.inj (hfirst ▸ hexpected _ rfl)
  refine ⟨opening ++ before ++ [resolved side handle], handle, earlier, states,
    hitTested side handle first.point answer :: between, last', bounds, later, by simp, hfound, ?_,
    hlater, hash, hearlier, hsame ▸ hbounds⟩
  refine List.forall_mem_cons.mpr ⟨by simp [isObserved], fun event hevent => ?_⟩
  exact not_isObserved_of_isLook hne (hbetween event hevent)

/-- **What is recorded of an attempt under the lease**: looks, and where it succeeds, both ends are
fresh. -/
structure EndsSpec (args : DragArgs) (o : Outcome AppError (ResolvedPoint × ResolvedPoint))
    (log : List (DragEvent H)) : Prop where
  /-- The lease is held, and nothing is sent. -/
  looks : ∀ event ∈ log, ¬event.isDragged ∧ ¬event.isLease
  /-- Where the drag would begin. -/
  origin : ∀ ends, o = .ok ends → (∃ refId, args.origin.refId = some refId) →
    FreshEnd .origin ends.1.point log
  /-- Where it would end. -/
  target : ∀ ends, o = .ok ends → (∃ refId, args.target.refId = some refId) →
    FreshEnd .target ends.2.point log

theorem resolveEnds_sat (args : DragArgs) (context : PointerContext) (deadline : Deadline)
    (lease : InteractionLease) :
    (desktop.resolveEnds args context deadline lease).Sat (EndsSpec args) := by
  have hlooks : ∀ {side : DragSide} {log : List (DragEvent H)},
      (∀ event ∈ log, event.isLook side = true) →
        ∀ event ∈ log, ¬event.isDragged ∧ ¬event.isLease := fun h event hevent =>
    not_isDragged_of_isLook (h event hevent)
  have hfailed : ∀ (o : Outcome AppError (ResolvedPoint × ResolvedPoint))
      (log : List (DragEvent H)), (∀ event ∈ log, ¬event.isDragged ∧ ¬event.isLease) →
        (∀ ends, o ≠ .ok ends) → EndsSpec args o log := fun o log hlog ho =>
    ⟨hlog, fun ends h => absurd h (ho ends), fun ends h => absurd h (ho ends)⟩
  unfold resolveEnds
  refine (desktop.focusPointUnderLease_quiet args.originArgs context lease).bind_sat
    (fun focused => ?_) (fun error => hfailed _ _ (by simp) (by simp))
    (hfailed _ _ (by simp) (by simp))
  refine (desktop.resolvePointUnderLease_sat args.originArgs none (!autoWait args.timeoutMs)
    deadline lease).bind (fun first log₁ h₁ => ?_)
    (fun error log₁ h₁ => hfailed _ _ (hlooks h₁.1) (by simp))
    (fun log₁ h₁ => hfailed _ _ (hlooks h₁.1) (by simp))
  refine (desktop.resolvePointUnderLease_sat args.targetArgs none (!autoWait args.timeoutMs)
    deadline lease).bind (fun second log₂ h₂ => ?_)
    (fun error log₂ h₂ => hfailed _ _ (List.forall_mem_append.mpr ⟨hlooks h₁.1, hlooks h₂.1⟩)
      (by simp))
    (fun log₂ h₂ => hfailed _ _ (List.forall_mem_append.mpr ⟨hlooks h₁.1, hlooks h₂.1⟩) (by simp))
  refine (desktop.resolvePointUnderLease_sat args.originArgs (some first.boundsHash) false deadline
    lease).bind (fun origin log₃ h₃ => ?_)
    (fun error log₃ h₃ => hfailed _ _ ?_ (by simp)) (fun log₃ h₃ => hfailed _ _ ?_ (by simp))
  · refine (desktop.resolvePointUnderLease_sat args.targetArgs (some second.boundsHash) false
      deadline lease).bind (fun target log₄ h₄ => ?_)
      (fun error log₄ h₄ => hfailed _ _ ?_ (by simp)) (fun log₄ h₄ => hfailed _ _ ?_ (by simp))
    · have hstill := h₄.2.1 rfl
      have hend : log₄ ++ [] = log₄ := List.append_nil log₄
      refine Prog.sat_pure ⟨?_, fun ends h hrefId => ?_, fun ends h hrefId => ?_⟩
      · simp only [List.forall_mem_append]
        exact ⟨hlooks h₁.1, hlooks h₂.1, hlooks h₃.1, hlooks h₄.1, by simp⟩
      · obtain rfl := Outcome.ok.inj h
        have hfresh : FreshEnd .origin origin.point ([] ++ (log₁ ++ (log₂ ++ (log₃ ++ log₄)))) :=
          freshEnd_of_looks (show DragSide.target ≠ .origin by decide) (h₁.2.2 hrefId) h₂.1
            (h₃.2.2 hrefId) hstill
        rw [hend]
        exact hfresh
      · obtain rfl := Outcome.ok.inj h
        exact freshEnd_of_looks (show DragSide.origin ≠ .target by decide) (h₂.2.2 hrefId) h₃.1
          (h₄.2.2 hrefId) (by simp)
    · simp only [List.forall_mem_append]
      exact ⟨hlooks h₁.1, hlooks h₂.1, hlooks h₃.1, hlooks h₄.1⟩
    · simp only [List.forall_mem_append]
      exact ⟨hlooks h₁.1, hlooks h₂.1, hlooks h₃.1, hlooks h₄.1⟩
  · simp only [List.forall_mem_append]
    exact ⟨hlooks h₁.1, hlooks h₂.1, hlooks h₃.1⟩
  · simp only [List.forall_mem_append]
    exact ⟨hlooks h₁.1, hlooks h₂.1, hlooks h₃.1⟩

omit [BoundsHasher] in
theorem acquireLease_sat (deadline : Deadline) :
    (desktop.acquireLease deadline).Sat (Prog.OnOk (fun lease => leaseAcquired lease)) := by
  unfold acquireLease
  exact Prog.sat_mapError_call_bind (fun lease => Prog.sat_emit_bind (Prog.sat_pure rfl))
    (fun error => rfl)

omit [BoundsHasher] in
theorem releaseLease_bind_sat {α : Type} (lease : InteractionLease)
    {p : Unit → DragProg σ H AppError α} {Ψ : Outcome AppError α → List (DragEvent H) → Prop}
    (h : (p ()).Sat (fun o log => Ψ o (leaseReleased lease :: log))) :
    (desktop.releaseLease lease >>= p).Sat Ψ :=
  fun s => h (desktop.releaseInteractionLease lease s).2

omit [BoundsHasher] in
theorem orRelease_sat {α : Type} (lease : InteractionLease) {p : DragProg σ H AppError α}
    {Φ Ψ : Outcome AppError α → List (DragEvent H) → Prop} (hp : p.Sat Φ)
    (hok : ∀ value log, Φ (.ok value) log → Ψ (.ok value) log)
    (herror : ∀ error log, Φ (.error error) log →
      Ψ (.error error) (log ++ [leaseReleased lease]))
    (hrunning : ∀ log, Φ .running log → Ψ .running log) :
    (desktop.orRelease lease p).Sat Ψ := by
  unfold orRelease
  refine hp.attempt_bind (fun value log h => Prog.sat_pure ?_) (fun error log h => ?_) hrunning
  · rw [List.append_nil]
    exact hok value log h
  · exact desktop.releaseLease_bind_sat lease (Prog.sat_fail (herror error log h))

theorem attemptEnds_sat (args : DragArgs) (context : PointerContext) (deadline : Deadline) :
    (desktop.attemptEnds args context deadline).Sat (fun o log =>
      (∀ event ∈ log, ¬event.isDragged)
        ∧ ∀ origin target lease, o = .ok (origin, target, lease) → ∃ looks,
          log = leaseAcquired lease :: looks ∧ EndsSpec args (.ok (origin, target)) looks) := by
  have hsent : ∀ {o} {looks : List (DragEvent H)}, EndsSpec args o looks →
      ∀ event ∈ looks, ¬event.isDragged := fun hends event hevent => (hends.looks event hevent).1
  unfold attemptEnds
  refine (desktop.acquireLease_sat deadline).bind (fun lease log hlog => ?_)
    (fun error log hlog => ?_) (fun log hlog => ?_)
  · obtain rfl : log = [leaseAcquired lease] := hlog
    have htaken : ∀ log : List (DragEvent H), (∀ event ∈ log, ¬event.isDragged) →
        ∀ event ∈ [leaseAcquired lease] ++ log, ¬event.isDragged := fun log hlog =>
      List.forall_mem_cons.mpr ⟨by simp [isDragged], hlog⟩
    have hends := desktop.orRelease_sat lease
      (Ψ := fun o log => (∀ event ∈ log, ¬event.isDragged)
        ∧ ∀ ends, o = .ok ends → EndsSpec args (.ok ends) log)
      (desktop.resolveEnds_sat args context deadline lease)
      (fun ends log h => ⟨hsent h, fun ends' ho => Outcome.ok.inj ho ▸ h⟩)
      (fun error log h => ⟨List.forall_mem_append.mpr ⟨hsent h, by simp [isDragged]⟩, by simp⟩)
      (fun log h => ⟨hsent h, by simp⟩)
    refine hends.bind (fun ends looks h => ?_) (fun error looks h => ⟨htaken looks h.1, by simp⟩)
      (fun looks h => ⟨htaken looks h.1, by simp⟩)
    refine Prog.sat_pure ⟨?_, fun origin target lease' ho => ⟨looks, ?_, ?_⟩⟩
    · rw [List.append_nil]
      exact htaken looks h.1
    · obtain ⟨rfl, rfl, rfl⟩ := by simpa using Outcome.ok.inj ho
      rw [List.append_nil]
      rfl
    · obtain ⟨rfl, rfl, rfl⟩ := by simpa using Outcome.ok.inj ho
      exact h.2 ends rfl
  · obtain rfl : log = [] := hlog
    exact ⟨by simp, by simp⟩
  · obtain rfl : log = [] := hlog
    exact ⟨by simp, by simp⟩

omit [BoundsHasher] in
/-- **Tries that fail send nothing.** The induction is on the fuel. -/
theorem retryLeasedPointPhase_sat {α : Type} (timeoutMs : Option ℕ) (deadline : Deadline)
    {attempt : DragProg σ H AppError α} {Φ : α → List (DragEvent H) → Prop}
    (hattempt : attempt.Sat (fun o log => (∀ event ∈ log, ¬event.isDragged)
      ∧ ∀ value, o = .ok value → Φ value log)) (fuel : ℕ) :
    (desktop.retryLeasedPointPhase timeoutMs deadline attempt fuel).Sat (fun o log =>
      (∀ event ∈ log, ¬event.isDragged)
        ∧ ∀ value, o = .ok value → ∃ failed last, log = failed ++ last ∧ Φ value last) := by
  induction fuel with
  | zero => exact Prog.sat_cutOff ⟨by simp, by simp⟩
  | succ fuel ih =>
    unfold retryLeasedPointPhase
    refine hattempt.attempt_bind (fun value log h => ?_) (fun error log h => ?_)
      (fun log h => ⟨h.1, by simp⟩)
    · refine Prog.sat_pure ⟨?_, fun value' ho => ⟨[], log, ?_, ?_⟩⟩
      · rw [List.append_nil]
        exact h.1
      · rw [List.append_nil]
        rfl
      · obtain rfl := Outcome.ok.inj ho
        exact h.2 value rfl
    · have hnone : (∀ event ∈ log ++ [], ¬event.isDragged) := by
        rw [List.append_nil]
        exact h.1
      dsimp only
      split
      · refine Prog.sat_ask_bind (fun now => ?_)
        split
        · exact Prog.sat_fail ⟨hnone, by simp⟩
        · refine Prog.sat_ask_bind (fun _ => ih.mono (fun o log' h' => ?_))
          refine ⟨List.forall_mem_append.mpr ⟨h.1, h'.1⟩, fun value ho => ?_⟩
          obtain ⟨failed, last, rfl, hlast⟩ := h'.2 value ho
          exact ⟨log ++ failed, last, (List.append_assoc _ _ _).symm, hlast⟩
      · exact Prog.sat_fail ⟨hnone, by simp⟩

/-! ## The run

An attempt that fails before the drag may be followed by another one, under a lease of its own. One
that has sent the drag is the last, whatever it is answered. -/

omit [BoundsHasher] in
theorem resolveHandleWithinDeadline_only (side : DragSide) (entry : RefEntry)
    (deadline : Deadline) :
    (desktop.resolveHandleWithinDeadline side entry deadline).Only (fun event => ¬event.isDragged) :=
  Prog.OnOk.only (desktop.resolveHandleWithinDeadline_sat side entry deadline)
    (fun handle => by simp [isDragged])

omit [BoundsHasher] in
theorem scrollPointTarget_only (side : DragSide) (entry : RefEntry) (deadline : Deadline) :
    (desktop.scrollPointTarget side entry deadline).Only (fun event => ¬event.isDragged) := by
  have hrelease : ∀ lease, (desktop.releaseLease lease : DragProg σ H AppError Unit).Only
      (fun event => ¬event.isDragged) := fun lease =>
    (Prog.Quiet.ask _).only.bind (fun _ => .emit (by simp [isDragged]))
  have hacquire : (desktop.acquireLease deadline).Only (fun event => ¬event.isDragged) :=
    Prog.OnOk.only (desktop.acquireLease_sat deadline) (fun lease => by simp [isDragged])
  unfold scrollPointTarget orRelease
  refine hacquire.bind (fun lease => Prog.Only.bind ?_ (fun _ => hrelease lease))
  refine Prog.Only.bind (Prog.Only.attempt ?_) (fun answer => ?_)
  · refine (desktop.resolveHandleWithinDeadline_only side entry deadline).bind (fun handle => ?_)
    refine (Prog.Only.emit (by simp [isDragged])).bind (fun _ => ?_)
    exact ((Prog.Quiet.call _).mapError _).only
  · cases answer with
    | ok value => exact (Prog.Quiet.pure _).only
    | error error => exact (hrelease lease).bind (fun _ => (Prog.Quiet.fail _).only)

theorem waitForPoint_only (side : DragSide) (refId : String) (entry : RefEntry)
    (deadline : Deadline) (fuel : ℕ) (stability : Option (Option UInt64))
    (lastReport : Option Json) :
    (desktop.waitForPoint side refId entry deadline fuel stability lastReport).Only
      (fun event => ¬event.isDragged) := by
  induction fuel generalizing stability lastReport with
  | zero => exact (Prog.Quiet.cutOff).only
  | succ fuel ih =>
    unfold waitForPoint
    refine (Prog.Quiet.ask _).only.bind (fun now => ?_)
    split
    · exact (Prog.Quiet.fail _).only
    · refine Prog.Only.bind (Prog.Only.attempt ((desktop.resolvePointFromEntry_sat _ _).mono
        (fun o log h event hevent => (not_isDragged_of_isLook (h.1 event hevent)).1)))
        (fun answer => ?_)
      cases answer with
      | ok point => exact (Prog.Quiet.pure _).only
      | error error =>
        refine (Prog.Quiet.ask _).only.bind (fun now => ?_)
        split
        · exact (Prog.Quiet.fail _).only
        · dsimp only
          split
          · exact (Prog.Quiet.fail _).only
          · split
            · refine (desktop.scrollPointTarget_only side entry deadline).bind (fun _ => ?_)
              refine (Prog.Quiet.ask _).only.bind (fun now => ?_)
              exact (Prog.Quiet.ask _).only.bind (fun _ => ih _ _)
            · exact (Prog.Quiet.ask _).only.bind (fun _ => ih _ _)

theorem waitForEnds_only (fuel : ℕ) (args : DragArgs) (deadline : Deadline) :
    (desktop.waitForEnds fuel args deadline).Only (fun event => ¬event.isDragged) := by
  have hwait : ∀ end' : PointResolveArgs,
      (desktop.waitForPointWithDeadline fuel end' deadline).Only (fun event => ¬event.isDragged) := by
    intro end'
    unfold waitForPointWithDeadline
    split
    · exact (resolvePointFromXy_quiet end').only
    · exact (desktop.loadRefEntry_quiet _ _).only.bind (fun entry =>
        desktop.waitForPoint_only _ _ entry deadline fuel _ _)
  unfold waitForEnds
  split
  · exact (hwait _).bind (fun _ => (hwait _).bind (fun _ => (Prog.Quiet.pure _).only))
  · exact (Prog.Quiet.pure _).only

omit [BoundsHasher] in
theorem sendDrag_sat (args : DragArgs) (deadline : Deadline) (origin target : ResolvedPoint)
    (lease : InteractionLease) :
    (desktop.sendDrag args deadline origin target lease).Sat (fun _ log => log = []
      ∨ log = [dragged ⟨origin.point, target.point, args.durationMs, args.dropDelayMs⟩ lease]) := by
  have hensure : ∀ lastReport, (desktop.ensurePointDeadline deadline lastReport).Quiet := by
    intro lastReport
    unfold ensurePointDeadline
    refine (Prog.Quiet.ask _).bind (fun now => ?_)
    split
    · exact .fail _
    · exact .pure _
  unfold sendDrag
  refine (hensure _).bind_sat (fun _ => ?_) (fun error => .inl rfl) (.inl rfl)
  refine Prog.sat_ask_bind (fun now => ?_)
  refine Prog.sat_ofExcept_bind (fun _ _ => ?_) (fun error _ => .inl rfl)
  refine Prog.sat_ask_bind (fun _ => Prog.sat_ask_bind (fun _ => Prog.sat_ask_bind (fun result =>
    Prog.sat_emit_bind (Prog.sat_ask_bind (fun _ => ?_)))))
  exact Prog.sat_ofExcept_bind (fun _ _ => Prog.sat_pure (.inr rfl)) (fun error _ => .inr rfl)

/-- **What a run records**: nothing is sent, or the drag is, under the lease of the last attempt,
with both ends fresh, and after it no lease is taken. -/
def DragLog (args : DragArgs) (log : List (DragEvent H)) : Prop :=
  (∀ event ∈ log, ¬event.isDragged)
    ∨ ∃ waiting looks lease origin target after,
      log = waiting ++ leaseAcquired lease :: (looks ++ dragged ⟨origin.point, target.point,
          args.durationMs, args.dropDelayMs⟩ lease :: after)
        ∧ (∀ event ∈ waiting, ¬event.isDragged) ∧ EndsSpec args (.ok (origin, target)) looks
        ∧ ∀ event ∈ after, ¬event.isDragged ∧ ¬event.isLeaseAcquired

/-- **Every run records that.** -/
theorem execute_sat (fuel : ℕ) (args : DragArgs) (context : PointerContext) :
    (desktop.execute fuel args context).Sat (fun _ log => DragLog args log) := by
  have hnone : DragLog args ([] : List (DragEvent H)) := .inl (by simp)
  have hdeadline : (desktop.pointDeadline args.timeoutMs).Quiet :=
    (Prog.Quiet.ask _).bind (fun _ => .ofExcept _)
  unfold execute
  refine (Prog.Quiet.ofExcept _).bind_sat (fun _ => ?_) (fun _ => hnone) hnone
  refine (Prog.Quiet.call _).bind_sat (fun _ => ?_) (fun _ => hnone) hnone
  refine hdeadline.bind_sat (fun deadline => ?_) (fun _ => hnone) hnone
  refine Prog.Sat.bind (desktop.waitForEnds_only fuel args deadline)
    (fun _ waited hwaited => ?_) (fun error waited hwaited => .inl hwaited)
    (fun waited hwaited => .inl hwaited)
  have hattempt : (desktop.attemptEnds args context deadline).Sat (fun o log =>
      (∀ event ∈ log, ¬event.isDragged) ∧ ∀ ends, o = .ok ends → ∃ looks,
        log = leaseAcquired ends.2.2 :: looks ∧ EndsSpec args (.ok (ends.1, ends.2.1)) looks) :=
    (desktop.attemptEnds_sat args context deadline).mono (fun o log h =>
      ⟨h.1, fun ends ho => h.2 ends.1 ends.2.1 ends.2.2 ho⟩)
  refine (desktop.retryLeasedPointPhase_sat args.timeoutMs deadline hattempt fuel).bind
    (fun ends tried htried => ?_)
    (fun error tried htried => .inl (List.forall_mem_append.mpr ⟨hwaited, htried.1⟩))
    (fun tried htried => .inl (List.forall_mem_append.mpr ⟨hwaited, htried.1⟩))
  obtain ⟨origin, target, lease⟩ := ends
  obtain ⟨failed, last, rfl, looks, rfl, hends⟩ := htried.2 _ rfl
  have hquiet : ∀ event ∈ waited ++ (failed ++ leaseAcquired lease :: looks), ¬event.isDragged :=
    List.forall_mem_append.mpr ⟨hwaited, htried.1⟩
  have hwaiting : ∀ event ∈ waited ++ failed, ¬event.isDragged := List.forall_mem_append.mpr
    ⟨hwaited, fun event hevent => htried.1 event (List.mem_append_left _ hevent)⟩
  -- the last attempt, with the drag or without it, and what is left to record of the lease
  have hlog : ∀ sent after, (sent = [] ∨ sent = [dragged ⟨origin.point, target.point,
      args.durationMs, args.dropDelayMs⟩ lease]) →
      (∀ event ∈ after, ¬event.isDragged ∧ ¬event.isLeaseAcquired) →
      DragLog args (waited ++ (failed ++ leaseAcquired lease :: looks ++ (sent ++ after))) := by
    rintro sent after (rfl | rfl) hafter
    · refine .inl ?_
      rw [← List.append_assoc]
      exact List.forall_mem_append.mpr ⟨hquiet, fun event hevent => (hafter event hevent).1⟩
    · exact .inr ⟨waited ++ failed, looks, lease, origin, target, after, by simp, hwaiting, hends,
        hafter⟩
  have hreleased : ∀ event ∈ [leaseReleased (H := H) lease],
      ¬event.isDragged ∧ ¬event.isLeaseAcquired := by simp [isDragged, isLeaseAcquired]
  have hsend := desktop.orRelease_sat lease
    (Ψ := fun o log => (∀ response, o = .ok response → ∀ after,
          (∀ event ∈ after, ¬event.isDragged ∧ ¬event.isLeaseAcquired) → DragLog args
            (waited ++ (failed ++ leaseAcquired lease :: looks ++ (log ++ after))))
      ∧ ((∀ response, o ≠ .ok response) →
        DragLog args (waited ++ (failed ++ leaseAcquired lease :: looks ++ log))))
    (desktop.sendDrag_sat args deadline origin target lease)
    (fun response sent h => ⟨fun _ _ after hafter => hlog sent after h hafter,
      fun ho => absurd rfl (ho response)⟩)
    (fun error sent h => ⟨by simp, fun _ => hlog sent _ h hreleased⟩)
    (fun sent h => ⟨by simp, fun _ => by simpa using hlog sent [] h (by simp)⟩)
  refine hsend.bind (fun response sent h => ?_) (fun error sent h => h.2 (by simp))
    (fun sent h => h.2 (by simp))
  refine desktop.releaseLease_bind_sat lease ((Prog.Quiet.call _).sat (fun o => ?_))
  exact h.1 response rfl _ hreleased

/-- **A drag is delivered at most once**, and only from freshly verified ends: in every run the drag
is sent at most once, and whenever it is sent, the lease of an attempt is held, under it each end
with a ref is fresh, and no lease is taken after it. -/
theorem execute_drags_once (fuel : ℕ) (args : DragArgs) (context : PointerContext) (s : σ) :
    ((desktop.execute fuel args context).events s).countP isDragged ≤ 1
      ∧ ∀ before params lease after,
        (desktop.execute fuel args context).events s = before ++ dragged params lease :: after →
          (∀ event ∈ after, ¬event.isLeaseAcquired)
            ∧ ∃ waiting attempt, before = waiting ++ leaseAcquired lease :: attempt
              ∧ (∀ event ∈ attempt, ¬event.isLease)
              ∧ ((∃ refId, args.origin.refId = some refId) →
                FreshEnd .origin params.fromPoint attempt)
              ∧ ((∃ refId, args.target.refId = some refId) →
                FreshEnd .target params.toPoint attempt) := by
  rcases desktop.execute_sat fuel args context s with hnone | ⟨waiting, looks, lease, origin, target,
    after, hlog, hwaiting, hends, hafter⟩
  · refine ⟨?_, fun before params lease after hlog => ?_⟩
    · rw [List.countP_eq_zero.mpr hnone]
      exact Nat.zero_le 1
    · exact absurd rfl (hnone (dragged params lease) (by rw [hlog]; simp))
  · have hlooks : ∀ event ∈ looks, ¬event.isDragged := fun event hevent =>
      (hends.looks event hevent).1
    have hlater : ∀ event ∈ after, ¬event.isDragged := fun event hevent => (hafter event hevent).1
    have hbefore : ∀ event ∈ waiting ++ leaseAcquired lease :: looks, ¬event.isDragged :=
      List.forall_mem_append.mpr ⟨hwaiting, List.forall_mem_cons.mpr ⟨by simp [isDragged], hlooks⟩⟩
    have hsplit : (desktop.execute fuel args context).events s
        = (waiting ++ leaseAcquired lease :: looks) ++ dragged ⟨origin.point, target.point,
          args.durationMs, args.dropDelayMs⟩ lease :: after := by
      rw [hlog]
      simp
    refine ⟨?_, fun before' params' lease' after' hlog' => ?_⟩
    · rw [hsplit, List.countP_append, List.countP_cons, List.countP_eq_zero.mpr hbefore,
        List.countP_eq_zero.mpr hlater]
      simp [isDragged]
    · have hsame := (List.append_cons_inj_of_notMem
        (fun h => hbefore (dragged params' lease') h rfl)
        (fun h => hlater (dragged params' lease') h rfl)).mp (hsplit.symm.trans hlog')
      obtain ⟨rfl, hevent, rfl⟩ := hsame
      obtain ⟨rfl, rfl⟩ := DragEvent.dragged.inj hevent
      exact ⟨fun event hevent => (hafter event hevent).2, waiting, looks, rfl,
        fun event hevent => (hends.looks event hevent).2, hends.origin _ rfl, hends.target _ rfl⟩

end DragDesktop

/-! ## A sample: a drag from an element that moves a little -/

namespace Sample

/-- A coordinate in hundredths. -/
def hundredths : F64 → ℤ
  | .finite value => ⌊value * 100 + 1 / 2⌋
  | .notFinite => 0

/-- Bounds are told apart by hundredths. -/
@[reducible] def hundredthsHash : BoundsHasher where
  finish := fun rect => UInt64.ofNat (hundredths rect.x + 31 * hundredths rect.y
    + 961 * hundredths rect.width + 29791 * hundredths rect.height).toNat

/-- The bounds of the element, which moves by a thousandth each time it is looked at. -/
def shiftedBounds (looks : ℕ) : Rect :=
  ⟨.finite (10 + looks / 1000), .finite 10, .finite 40, .finite 20⟩

/-- A desktop with the element. -/
def shiftDesktop : DragDesktop ℕ Unit where
  now := fun looks => (0, looks)
  inheritedDeadline := none
  sleep := fun _ looks => ((), looks)
  resolveElementStrict := fun _ _ looks => (.ok (), looks)
  getLiveElement := fun _ _ looks => (.ok (comboBox true), looks)
  getElementBounds := fun _ _ looks => (.ok (some (shiftedBounds looks)), looks + 1)
  getTextSelection := fun _ _ looks => (.ok none, looks)
  hitTest := fun _ _ _ looks => (.ok .reachesTarget, looks)
  acquireInteractionLease := fun deadline looks => (.ok ⟨deadline, 0⟩, looks)
  releaseInteractionLease := fun _ looks => ((), looks)
  scrollIntoView := fun _ _ looks => (.ok (), looks)
  executeAction := fun _ _ _ looks => (.error (.notSupported "execute_action"), looks)
  resolveWindowStrict := fun window _ looks => (.ok window, looks)
  focusWindow := fun _ _ looks => (.ok (), looks)
  listSurfaces := fun _ _ looks => (.ok [], looks)
  processState := fun _ _ looks => (.ok .running, looks)
  listApps := fun _ looks => (.ok [], looks)
  traceLazy := fun _ _ looks => (.ok (), looks)
  present := fun looks => ((), looks)
  getLiveState := fun _ _ looks => (.ok (some []), looks)
  drag := fun _ _ looks => (.ok (), looks)
  forSession := fun looks => (.ok (), looks)
  loadSnapshot := fun _ looks => (.ok ⟨AssocMap.empty.insert "@e1" comboBoxEntry, 1⟩, looks)
  submitDrag := fun _ looks => (false, looks)
  validatePostActionWait := fun looks => (.ok (), looks)
  applyPostActionWait := fun response _ looks => (.ok response, looks)

/-- From the element to a point. -/
def shiftArgs : DragArgs where
  origin := ⟨some "@e1", none⟩
  target := ⟨none, some (.finite 200, .finite 200)⟩
  snapshotId := some "s10"
  durationMs := none
  dropDelayMs := none
  timeoutMs := none
  waitForScope := .target

/-- The run of the drag. -/
def shiftRun : DragProg ℕ Unit AppError Json :=
  @DragDesktop.execute _ _ hundredthsHash shiftDesktop 1 shiftArgs ⟨⟨false, true⟩⟩

/-- The bounds an element was seen at. -/
def seenBounds : DragEvent Unit → Option Rect
  | .observed _ _ bounds _ => bounds
  | _ => none

end Sample

/-- **Bounds that differ by less than a hundredth count as the same**: the element is seen at two
places, and the drag is sent. -/
theorem execute_drags_shifted :
    (Sample.shiftRun.events 0).countP isDragged = 1
      ∧ (Sample.shiftRun.events 0).filterMap Sample.seenBounds
        = [Sample.shiftedBounds 0, Sample.shiftedBounds 1]
      ∧ Sample.shiftedBounds 0 ≠ Sample.shiftedBounds 1 := by
  decide +kernel

end AgentDesktop
