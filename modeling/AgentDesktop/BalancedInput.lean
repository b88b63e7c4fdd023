import AgentDesktop.KeyboardEvent
import AgentDesktop.Mouse

/-!
# Synthetic input is balanced

Whatever fails around the posts of a click, a drag, a key or a text, and whenever
the time is over: each press of a button or key that was posted is followed by
exactly one release of it before the function returns, no release is posted
without such a press, and once an event was posted no failure says that nothing
was delivered.
-/

namespace AgentDesktop

namespace InputWorld

variable {σ : Type} (world : InputWorld σ) {delivery : DeliveryTracker}

/-! ## The checks -/

theorem ensureBudgetWith_checks (details : Json) (deadline : Deadline) :
    Checks delivery (world.ensureBudgetWith details deadline delivery) := by
  refine (Checks.ask _).bind (fun now => ?_)
  split_ifs
  · exact Checks.pure ()
  · exact Checks.fail _

theorem ensureBudgetWith_ends (details : Json) (deadline : Deadline) :
    Ends (world.ensureBudgetWith details deadline delivery) := by
  refine (Ends.ask _).bind (fun now => ?_)
  split_ifs
  · exact Ends.ofExcept (.ok ())
  · exact Ends.ofExcept (.error _)

theorem sleepBounded_checks (deadline : Deadline) (duration : ℕ) :
    Checks delivery (world.sleepBounded deadline duration delivery) := by
  refine (Checks.ask _).bind (fun now => (Checks.ofExcept _).bind (fun pause => ?_))
  split_ifs <;>
    exact (Checks.ask _).bind (fun _ => world.ensureBudgetWith_checks _ deadline)

theorem sleepBounded_ends (deadline : Deadline) (duration : ℕ) :
    Ends (world.sleepBounded deadline duration delivery) := by
  refine (Ends.ask _).bind (fun now => (Ends.ofExcept _).bind (fun pause => ?_))
  split_ifs <;> exact (Ends.ask _).bind (fun _ => world.ensureBudgetWith_ends _ deadline)

theorem keySleepBounded_checks (deadline : Deadline) (duration total : ℕ) :
    Checks delivery (world.keySleepBounded deadline duration delivery total) := by
  refine (Checks.ask _).bind (fun now => (Checks.ofExcept _).bind (fun pause => ?_))
  refine (Checks.ask _).bind (fun _ => ?_)
  split_ifs
  · exact world.ensureBudgetWith_checks _ deadline
  · exact Checks.pure ()

theorem keySleepBounded_ends (deadline : Deadline) (duration total : ℕ) :
    Ends (world.keySleepBounded deadline duration delivery total) := by
  refine (Ends.ask _).bind (fun now => (Ends.ofExcept _).bind (fun pause => ?_))
  refine (Ends.ask _).bind (fun _ => ?_)
  split_ifs
  · exact world.ensureBudgetWith_ends _ deadline
  · exact Ends.ofExcept (.ok ())

/-! ## The events that are made

Whether an event can be made is up to the system, and its kind is not: whatever is posted by a
function has the kind that the function asked for, so presses and releases can be counted before the
world is looked at. -/

theorem eventSource_makes : Makes () world.eventSource := Makes.of_ask _ () _

theorem createEventWithSource_makes (event : PointerEvent) :
    Makes event (world.createEventWithSource event) := Makes.of_ask _ event _

theorem createEvent_makes (event : PointerEvent) : Makes event (world.createEvent event) :=
  world.eventSource_makes.bind (world.createEventWithSource_makes event)

theorem keyEventSource_makes : Makes () world.keyEventSource := Makes.of_ask _ () _

theorem createKeyEvent_makes (keyCode : UInt16) (down : Bool) (flags : UInt64) :
    Makes ⟨keyCode, down, flags, none⟩ (world.createKeyEvent keyCode down flags) :=
  Makes.of_ask _ _ _

/-! ## Moving and clicking

What a part posts is described as an outstanding press: none, or one that the guard of the part
still has to release. A click leaves none, however it ends, since its guard holds the event that was
made before the press was posted. -/

theorem verifyPosition_checks (fuel : ℕ) (requested : Point) (deadline : Deadline) :
    Checks delivery (world.verifyPosition fuel requested deadline delivery) := by
  refine (Checks.ask _).bind (fun now => ?_)
  induction fuel with
  | zero => exact Prog.sat_cutOff ⟨rfl, fun _ _ he => by cases he⟩
  | succ fuel ih =>
    refine (Checks.ask _).bind (fun observed => ?_)
    cases observed with
    | none => exact Checks.fail _
    | some observed =>
      dsimp only
      split_ifs with hmatches
      · exact Checks.pure ()
      · refine (Checks.ask _).bind (fun time => ?_)
        split_ifs with hover
        · exact Checks.fail _
        · exact (world.sleepBounded_checks deadline _).bind (fun _ => ih)

theorem postMove_posts (position : Point) (button : CGMouseButton) (flags : UInt64)
    (deadline : Deadline) : Posts delivery (world.postMove position button flags deadline delivery) :=
  (world.ensureBudgetWith_checks _ deadline).bind_posts (fun _ =>
    (world.createEventWithSource_makes _).bind_posts (Posts.post_bind rfl
      ((world.sleepBounded_checks deadline _).bind_posts (fun _ => Posts.pure))))

theorem postMoveEvents_posts (fuel : ℕ) (point : Point) (button : CGMouseButton) (flags : UInt64)
    (deadline : Deadline) :
    Posts delivery (world.postMoveEvents fuel point button flags deadline delivery) := by
  refine world.eventSource_makes.bind_posts ?_
  refine (world.postMove_posts (approachPoint point) button flags deadline).bind (fun _ => ?_)
  refine (world.postMove_posts point button flags deadline).bind (fun _ => ?_)
  exact (world.verifyPosition_checks fuel point deadline).bind_posts (fun _ => Posts.pure)

theorem hold_downType (button : MouseButton) (point : Point) (flags : UInt64) (i : ℕ) :
    (InputEvent.pointer ⟨downType button, point, toCgButton button, flags, some i⟩).hold
        = .press (.button (toCgButton button) flags (some i))
      ∧ (InputEvent.pointer ⟨upType button, point, toCgButton button, flags, some i⟩).hold
        = .release (.button (toCgButton button) flags (some i)) := by
  cases button <;> exact ⟨rfl, rfl⟩

/-- **One click is paired**: the release is pending while the button is down. -/
theorem clickOnce_posts (spec : ClickSpec) (deadline : Deadline)
    (verifyTarget : σ → Except AdapterError Unit × σ) (i : ℕ) :
    Posts delivery (world.clickOnce spec deadline verifyTarget i delivery) := by
  obtain ⟨hdown, hup⟩ := hold_downType spec.button spec.point spec.flags i
  rw [clickOnce_eq]
  refine (world.ensureBudgetWith_checks _ deadline).bind_posts (fun _ => ?_)
  refine (world.createEvent_makes _).bind_posts ?_
  refine (world.createEvent_makes _).bind_posts ?_
  refine (world.ensureBudgetWith_checks _ deadline).bind_posts (fun _ => ?_)
  refine (Checks.of_quiet (Prog.Quiet.call verifyTarget)).bind_posts (fun _ => ?_)
  refine Posts.press_bind hdown hup (world.sleepBounded_checks deadline _)
    (world.sleepBounded_ends deadline _) (fun _ => ?_)
  refine (world.ensureBudgetWith_checks _ deadline).bind_posts (fun _ => ?_)
  split_ifs
  · exact (world.sleepBounded_checks deadline _).bind_posts (fun _ => Posts.pure)
  · exact Posts.pure

theorem clickLoop_posts (spec : ClickSpec) (deadline : Deadline)
    (verifyTarget : σ → Except AdapterError Unit × σ) (left : ℕ) :
    Posts delivery (world.clickLoop spec deadline verifyTarget left delivery) := by
  induction left generalizing delivery with
  | zero => exact Posts.pure
  | succ left ih =>
    exact (world.clickOnce_posts spec deadline verifyTarget _).bind (fun delivery' => ih)

/-- **A click is sound**, however often and with whatever checks. -/
theorem synthesizeClick_sound (fuel : ℕ) (spec : ClickSpec) (deadline : Deadline)
    (verifyTarget : σ → Except AdapterError Unit × σ) :
    (world.synthesizeClick fuel spec deadline verifyTarget).Sat SoundInput :=
  Posts.sound ((world.postMoveEvents_posts fuel spec.point _ spec.flags deadline).bind
    (fun _ => world.clickLoop_posts spec deadline verifyTarget spec.count))

/-! ## Keys and texts -/

/-- **A pair is paired**, whether the key can be released in time or not. -/
theorem postPair_posts (down up : KeyEvent) (hdown : down.down = true) (hup : up.down = false)
    (hkey : up.keyCode = down.keyCode ∧ up.flags = down.flags) (targetPid : Option ℤ)
    (deadline : Deadline) (total : ℕ) :
    Posts delivery (world.postPair down up targetPid deadline delivery total) := by
  have hpress : (InputEvent.key down targetPid).hold
      = .press (.key down.keyCode down.flags targetPid) := by
    simp [InputEvent.hold, hdown]
  have hrelease : (InputEvent.key up targetPid).hold
      = .release (.key down.keyCode down.flags targetPid) := by
    simp [InputEvent.hold, hup, hkey.1, hkey.2]
  rw [postPair_eq]
  refine (world.ensureBudgetWith_checks _ deadline).bind_posts (fun _ => ?_)
  refine Posts.press_bind hpress hrelease (world.keySleepBounded_checks deadline _ total)
    (world.keySleepBounded_ends deadline _ total) (fun _ => ?_)
  exact (world.ensureBudgetWith_checks _ deadline).bind_posts (fun _ => Posts.pure)

theorem postKey_sound (keyCode : UInt16) (flags : UInt64) (targetPid : Option ℤ)
    (deadline : Deadline) (progress : ℕ × ℕ) :
    (world.postKey keyCode flags targetPid deadline progress).Sat SoundInput := by
  refine Posts.sound ((world.ensureBudgetWith_checks _ deadline).bind_posts (fun _ => ?_))
  refine world.keyEventSource_makes.bind_posts ?_
  refine (world.createKeyEvent_makes keyCode true flags).bind_posts ?_
  refine (world.createKeyEvent_makes keyCode false flags).bind_posts ?_
  exact world.postPair_posts ⟨keyCode, true, flags, none⟩ ⟨keyCode, false, flags, none⟩ rfl rfl
    ⟨rfl, rfl⟩ targetPid deadline progress.2

theorem postChunk_posts (targetPid : ℤ) (deadline : Deadline)
    (verifyTarget : Deadline → σ → Except AdapterError Unit × σ) (total : ℕ) (chunk : List Char) :
    Posts delivery
      (world.postChunk targetPid deadline verifyTarget total chunk delivery) := by
  refine (world.ensureBudgetWith_checks _ deadline).bind_posts (fun _ => ?_)
  have hverify : Checks delivery (Prog.mapError (fun error => delivery.annotate
      (error.withDetails (deliveredChunks total delivery))) (Prog.call (verifyTarget deadline)) :
        InputProg σ AdapterError Unit) :=
    Checks.of_quiet_mapError (Prog.Quiet.call (verifyTarget deadline)) (fun hdelivered error =>
      DeliveryTracker.disposition_annotate_of_delivered hdelivered _)
  refine hverify.bind_posts (fun _ => ?_)
  refine world.keyEventSource_makes.bind_posts ?_
  refine (world.createKeyEvent_makes 0 true 0).bind_posts ?_
  refine (world.createKeyEvent_makes 0 false 0).bind_posts ?_
  exact world.postPair_posts ⟨0, true, 0, some chunk⟩ ⟨0, false, 0, none⟩ rfl rfl ⟨rfl, rfl⟩
    (some targetPid) deadline total

theorem postChunks_posts (targetPid : ℤ) (deadline : Deadline)
    (verifyTarget : Deadline → σ → Except AdapterError Unit × σ) (total : ℕ)
    (chunks : List (List Char)) :
    Posts delivery
      (world.postChunks targetPid deadline verifyTarget total chunks delivery) := by
  induction chunks generalizing delivery with
  | nil => exact Posts.pure
  | cons chunk rest ih =>
    exact (world.postChunk_posts targetPid deadline verifyTarget total chunk).bind
      (fun delivery' => ih)

theorem sound_of_error {α : Type} (error : AdapterError) :
    SoundInput (.error error : Outcome AdapterError α) [] :=
  ⟨Paired.nil, fun _ _ hne => absurd rfl hne⟩

theorem postText_sound (text : String) (targetPid : ℤ) (deadline : Deadline)
    (verifyTarget : Deadline → σ → Except AdapterError Unit × σ) :
    (world.postText text targetPid deadline verifyTarget).Sat SoundInput := by
  refine Prog.sat_ask_bind (fun now => ?_)
  refine Prog.sat_ofExcept_bind (fun _ _ => ?_) (fun error _ => sound_of_error error)
  refine Prog.sat_ofExcept_bind (fun chunks _ => ?_) (fun error _ => sound_of_error error)
  exact Posts.sound (world.postChunks_posts targetPid deadline verifyTarget _ chunks)

/-! ## Dragging

A drag keeps the button down over many posts, any of which may fail or be too late. Its parts carry
the press along, and its body ends in one of two ways: it has released the button at the goal, or it
leaves an armed guard, which releases it where the pointer was last. -/

/-- What a part of a drag leaves, while the button is down: it posted nothing that presses or
releases, and the tracker it leaves, or fails with, has not forgotten the press. -/
def Carries (o : Outcome (AdapterError × DeliveryTracker) DeliveryTracker)
    (events : List InputEvent) : Prop :=
  (∀ event ∈ events, event.hold = .neutral)
    ∧ match o with
      | .ok delivery => 0 < delivery.deliveredUnits
      | .error failure => 0 < failure.2.deliveredUnits
      | .running => False

theorem carries_make {α : Type} {value : α} {p : InputProg σ AdapterError α}
    (hdelivered : 0 < delivery.deliveredUnits) (hp : Makes value p)
    (g : AdapterError → AdapterError)
    {f : α → InputProg σ (AdapterError × DeliveryTracker) DeliveryTracker}
    (hf : (f value).Sat Carries) :
    (p.mapError (fun error => (g error, delivery)) >>= f).Sat Carries :=
  hp.mapError_bind_sat hf
    (fun _ => ⟨fun _ he => absurd he List.not_mem_nil, hdelivered⟩)

theorem carries_pure (hdelivered : 0 < delivery.deliveredUnits) :
    (pure delivery : InputProg σ (AdapterError × DeliveryTracker) DeliveryTracker).Sat Carries :=
  Prog.sat_pure ⟨fun _ he => absurd he List.not_mem_nil, hdelivered⟩

theorem carries_bind {p : InputProg σ (AdapterError × DeliveryTracker) DeliveryTracker}
    {f : DeliveryTracker → InputProg σ (AdapterError × DeliveryTracker) DeliveryTracker}
    (hp : p.Sat Carries) (hf : ∀ d, 0 < d.deliveredUnits → (f d).Sat Carries) :
    (p >>= f).Sat Carries := by
  refine hp.bind (fun d events h => ?_) (fun error events h => h) (fun _ h => h)
  refine (hf d h.2).mono (fun o events' h' => ⟨fun event hevent => ?_, h'.2⟩)
  exact (List.mem_append.mp hevent).elim (h.1 event) (h'.1 event)

theorem ensureBudgetWith_makes (details : Json) (deadline : Deadline) :
    Makes () (world.ensureBudgetWith details deadline delivery) :=
  Makes.of_quiet ((world.ensureBudgetWith_checks details deadline).mono (fun _ _ h => h.1))
    (world.ensureBudgetWith_ends details deadline)

theorem sleepBounded_makes (deadline : Deadline) (duration : ℕ) :
    Makes () (world.sleepBounded deadline duration delivery) :=
  Makes.of_quiet ((world.sleepBounded_checks deadline duration).mono (fun _ _ h => h.1))
    (world.sleepBounded_ends deadline duration)

theorem dragTo_carries (point : Point) (pause : ℕ) (deadline : Deadline)
    (hdelivered : 0 < delivery.deliveredUnits) :
    (world.dragTo point pause deadline delivery).Sat Carries := by
  refine carries_bind ?_ (fun d hd =>
    carries_make hd (world.sleepBounded_makes deadline pause) id (carries_pure hd))
  refine carries_make hdelivered (world.ensureBudgetWith_makes _ deadline) id ?_
  refine carries_make hdelivered (world.createEventWithSource_makes _) delivery.annotate ?_
  have hrest : (Prog.mapError (·, delivery.markDelivered)
      (world.ensureBudget deadline delivery.markDelivered) >>= fun _ =>
        (pure delivery.markDelivered :
          InputProg σ (AdapterError × DeliveryTracker) DeliveryTracker)).Sat Carries :=
    carries_make (Nat.succ_pos _) (world.ensureBudgetWith_makes _ deadline) id
      (carries_pure (Nat.succ_pos _))
  refine Prog.sat_emit_bind (hrest.mono (fun o events h => ⟨fun event hevent => ?_, h.2⟩))
  rcases List.mem_cons.mp hevent with rfl | hevent
  · rfl
  · exact h.1 event hevent

theorem dragSteps_carries (arithmetic : DragArithmetic) (params : DragParams)
    (steps stepDelay : ℕ) (deadline : Deadline) (left : ℕ)
    (hdelivered : 0 < delivery.deliveredUnits) :
    (world.dragSteps arithmetic params steps stepDelay deadline left delivery).Sat Carries := by
  induction left generalizing delivery with
  | zero => exact carries_pure hdelivered
  | succ left ih =>
    exact carries_bind (world.dragTo_carries _ stepDelay deadline hdelivered)
      (fun d hd => ih hd)

theorem dwellOverDestination_carries (destination : Point) (deadline : Deadline)
    (remainingMs : ℕ) (hdelivered : 0 < delivery.deliveredUnits) :
    (world.dwellOverDestination destination deadline remainingMs delivery).Sat Carries := by
  induction remainingMs using Nat.strongRecOn generalizing delivery with
  | ind remainingMs ih =>
    unfold dwellOverDestination
    split_ifs with hzero
    · exact carries_pure hdelivered
    · refine carries_bind (world.dragTo_carries destination _ deadline hdelivered)
        (fun d hd => ih _ ?_ hd)
      unfold dwellTickMs
      omega

/-- **How the body of a drag ends**: the button is still down, and the guard is armed; or it was
released at the goal, and the guard is not. -/
def DragEnds (first : DragReleaseGuard)
    (o : Outcome (AdapterError × DragReleaseGuard) DragReleaseGuard)
    (events : List InputEvent) : Prop :=
  let ends (guard : DragReleaseGuard) : Prop :=
    0 < guard.delivery.delivery.deliveredUnits
      ∧ guard.abortDrag = first.abortDrag ∧ guard.abortUp = first.abortUp
      ∧ ((guard.delivery.armed = true ∧ ∀ event ∈ events, event.hold = .neutral)
        ∨ (guard.delivery.armed = false ∧ ∃ moves up, events = moves ++ [.pointer up]
          ∧ first.destinationUp = some up ∧ ∀ event ∈ moves, event.hold = .neutral))
  match o with
  | .ok guard => ends guard ∧ guard.delivery.armed = false
  | .error failure => ends failure.2
  | .running => False

theorem DragEnds.prepend {first : DragReleaseGuard} {moves events : List InputEvent}
    {o : Outcome (AdapterError × DragReleaseGuard) DragReleaseGuard}
    (hmoves : ∀ event ∈ moves, event.hold = .neutral) (h : DragEnds first o events) :
    DragEnds first o (moves ++ events) := by
  have hends (rest : List InputEvent) (hrest : ∀ event ∈ rest, event.hold = .neutral) :
      ∀ event ∈ moves ++ rest, event.hold = .neutral :=
    fun event hevent => (List.mem_append.mp hevent).elim (hmoves event) (hrest event)
  cases o with
  | ok guard =>
    obtain ⟨⟨hdelivered, hdrag, hup, hhow⟩, harmed⟩ := h
    refine ⟨⟨hdelivered, hdrag, hup, hhow.imp (fun h => ⟨h.1, hends events h.2⟩) ?_⟩, harmed⟩
    rintro ⟨harmed, rest, up, rfl, hdestination, hrest⟩
    exact ⟨harmed, moves ++ rest, up, by rw [List.append_assoc], hdestination, hends rest hrest⟩
  | error failure =>
    obtain ⟨hdelivered, hdrag, hup, hhow⟩ := h
    refine ⟨hdelivered, hdrag, hup, hhow.imp (fun h => ⟨h.1, hends events h.2⟩) ?_⟩
    rintro ⟨harmed, rest, up, rfl, hdestination, hrest⟩
    exact ⟨harmed, moves ++ rest, up, by rw [List.append_assoc], hdestination, hends rest hrest⟩
  | running => exact h

/-- A guard that still has to release the button. -/
def Holding (guard : DragReleaseGuard) : Prop :=
  0 < guard.delivery.delivery.deliveredUnits ∧ guard.delivery.armed = true

theorem dragEnds_error {first guard : DragReleaseGuard} (hguard : Holding guard)
    (hsame : guard.abortDrag = first.abortDrag ∧ guard.abortUp = first.abortUp)
    (error : AdapterError) : DragEnds first (.error (error, guard)) [] :=
  ⟨hguard.1, hsame.1, hsame.2, Or.inl ⟨hguard.2, fun _ he => absurd he List.not_mem_nil⟩⟩

theorem releaseAtDestination_ends (deadline : Deadline) {guard : DragReleaseGuard}
    (hguard : Holding guard) :
    (world.releaseAtDestination deadline guard).Sat (DragEnds guard) := by
  refine (world.ensureBudgetWith_makes _ deadline).mapError_bind_sat ?_
    (dragEnds_error hguard ⟨rfl, rfl⟩)
  cases hup : guard.destinationUp with
  | none => exact Prog.sat_fail (dragEnds_error hguard ⟨rfl, rfl⟩ _)
  | some up =>
    have hreleased : ∃ moves up', [InputEvent.pointer up] = moves ++ [.pointer up']
        ∧ guard.destinationUp = some up' ∧ ∀ event ∈ moves, event.hold = .neutral :=
      ⟨[], up, rfl, hup, fun _ he => absurd he List.not_mem_nil⟩
    refine Prog.sat_emit_bind ((world.ensureBudgetWith_makes _ deadline).mapError_bind_sat
      (Prog.sat_pure ?_) (fun error => ?_))
    · exact ⟨⟨hguard.1, rfl, rfl, Or.inr ⟨rfl, hreleased⟩⟩, rfl⟩
    · exact ⟨hguard.1, rfl, rfl, Or.inr ⟨rfl, hreleased⟩⟩

theorem dragMoves_carries (arithmetic : DragArithmetic) (params : DragParams)
    (deadline : Deadline) (hdelivered : 0 < delivery.deliveredUnits) :
    (world.dragMoves arithmetic params deadline delivery).Sat Carries :=
  carries_bind (world.dragSteps_carries arithmetic params _ _ deadline _ hdelivered)
    (fun _ hd => world.dwellOverDestination_carries params.toPoint deadline _ hd)

theorem dragMoves_ends (arithmetic : DragArithmetic) (params : DragParams) (deadline : Deadline)
    {guard : DragReleaseGuard} (hguard : Holding guard) :
    ((world.dragMoves arithmetic params deadline guard.delivery.delivery).mapError
      (fun failure => (failure.1, guard.withTracker failure.2))).Sat (fun o events => match o with
        | .ok d => 0 < d.deliveredUnits ∧ ∀ event ∈ events, event.hold = .neutral
        | .error failure => DragEnds guard (.error failure) events
        | .running => False) := by
  refine Prog.Sat.mapError
    ((world.dragMoves_carries arithmetic params deadline hguard.1).mono (fun o events h => ?_))
  cases o with
  | ok d => exact ⟨h.2, h.1⟩
  | error failure => exact ⟨h.2, rfl, rfl, Or.inl ⟨hguard.2, h.1⟩⟩
  | running => exact h.2

/-- **The body of a drag** ends with the button released, or with a guard that releases it. -/
theorem dragBody_ends (arithmetic : DragArithmetic) (params : DragParams) (deadline : Deadline)
    {guard : DragReleaseGuard} (hguard : Holding guard) :
    (world.dragBody arithmetic params deadline guard).Sat (DragEnds guard) := by
  refine (world.ensureBudgetWith_makes _ deadline).mapError_bind_sat ?_
    (dragEnds_error hguard ⟨rfl, rfl⟩)
  refine (world.sleepBounded_makes deadline _).mapError_bind_sat ?_
    (dragEnds_error hguard ⟨rfl, rfl⟩)
  refine (world.dragMoves_ends arithmetic params deadline hguard).bind (fun d events h => ?_)
    (fun failure events h => h) (fun _ h => h)
  have hholding : Holding (guard.withTracker d) := ⟨h.1, hguard.2⟩
  exact (world.releaseAtDestination_ends deadline hholding).mono
    (fun o events' h' => DragEnds.prepend h.2 (by cases o <;> exact h'))

theorem prepareDragGuard_makes (origin destination : Point) :
    Makes ⟨leftEvent .leftMouseDragged origin, leftEvent .leftMouseUp origin,
        some (leftEvent .leftMouseUp destination), ⟨false, .empty⟩⟩
      (world.prepareDragGuard origin destination) :=
  (world.createEventWithSource_makes _).bind ((world.createEventWithSource_makes _).bind
    ((world.createEventWithSource_makes _).bind Makes.pure))

/-- The guard of a drag when the button has gone down. -/
def armedGuard (params : DragParams) : DragReleaseGuard :=
  ⟨leftEvent .leftMouseDragged params.fromPoint, leftEvent .leftMouseUp params.fromPoint,
    some (leftEvent .leftMouseUp params.toPoint), ⟨true, DeliveryTracker.empty.markDelivered⟩⟩

/-- **What a drag posts is paired**: the press, what the body posted, and what the guard posts when
it is dropped. -/
theorem paired_drag (params : DragParams) {guard : DragReleaseGuard} {events : List InputEvent}
    (hguard : guard.abortDrag = (armedGuard params).abortDrag
      ∧ guard.abortUp = (armedGuard params).abortUp
      ∧ ((guard.delivery.armed = true ∧ ∀ event ∈ events, event.hold = .neutral)
        ∨ (guard.delivery.armed = false ∧ ∃ moves up, events = moves ++ [.pointer up]
          ∧ (armedGuard params).destinationUp = some up
          ∧ ∀ event ∈ moves, event.hold = .neutral))) :
    Paired InputEvent.hold (.pointer (leftEvent .leftMouseDown params.fromPoint) :: events
      ++ (if guard.delivery.shouldRelease then
        [.pointer guard.abortDrag, .pointer guard.abortUp] else [])) := by
  obtain ⟨hdrag, hup, ⟨harmed, hneutral⟩ | ⟨harmed, moves, up, rfl, hdestination, hneutral⟩⟩ :=
    hguard
  · have hbetween : ∀ event ∈ events ++ [InputEvent.pointer guard.abortDrag],
        event.hold = .neutral := by
      intro event hevent
      rcases List.mem_append.mp hevent with hevent | hevent
      · exact hneutral event hevent
      · rw [List.mem_singleton.mp hevent, hdrag]
        rfl
    have hdown : (InputEvent.pointer (leftEvent .leftMouseDown params.fromPoint)).hold
        = .press (.button .left 0 none) := rfl
    have hrelease : (InputEvent.pointer guard.abortUp).hold
        = .release (.button .left 0 none) := by
      rw [hup]
      rfl
    have hpaired := Paired.bracket hdown hrelease hbetween
    unfold DragDeliveryState.shouldRelease
    rw [if_pos harmed]
    simpa using hpaired
  · obtain rfl := Option.some.inj hdestination
    unfold DragDeliveryState.shouldRelease
    rw [harmed, if_neg Bool.false_ne_true, List.append_nil]
    exact Paired.bracket rfl rfl hneutral

theorem dropDragGuard_events {ε : Type} (guard : DragReleaseGuard) :
    (dropDragGuard guard : InputProg σ ε Unit).Sat (fun o events => o = .ok ()
      ∧ events = if guard.delivery.shouldRelease then
        [.pointer guard.abortDrag, .pointer guard.abortUp] else []) := by
  unfold dropDragGuard
  split_ifs
  · exact Prog.sat_emit_bind (fun _ => ⟨rfl, rfl⟩)
  · exact Prog.sat_pure ⟨rfl, rfl⟩

/-- **A drag is sound**, wherever it fails. -/
theorem dragSequence_sound (arithmetic : DragArithmetic) (params : DragParams)
    (deadline : Deadline) :
    (world.dragSequence arithmetic params deadline).Sat SoundInput := by
  refine world.eventSource_makes.mapError_bind_sat ?_ (fun _ => sound_of_error _)
  refine (world.createEventWithSource_makes _).mapError_bind_sat ?_ (fun _ => sound_of_error _)
  refine (world.prepareDragGuard_makes _ _).mapError_bind_sat ?_ (fun _ => sound_of_error _)
  have hbudget : (world.ensureBudget deadline .empty).Quiet :=
    (world.ensureBudgetWith_checks _ deadline).mono (fun _ _ h => h.1)
  refine hbudget.bind_sat (fun _ => ?_) (fun _ => sound_of_error _)
    ⟨Paired.nil, fun _ _ hne => absurd rfl hne⟩
  have hguard : Holding (armedGuard params) := ⟨Nat.succ_pos _, rfl⟩
  refine Prog.sat_emit_bind ?_
  refine (world.dragBody_ends arithmetic params deadline hguard).attempt_bind
    (fun guard events h => ?_) (fun failure events h => ?_) (fun _ h => h.elim)
  · refine (dropDragGuard_events guard).mono (fun o events' h' => ⟨?_, fun e he => ?_⟩)
    · rw [h'.2, ← List.cons_append]
      exact paired_drag params h.1.2
    · rw [h'.1] at he
      cases he
  · obtain ⟨error, guard⟩ := failure
    refine (dropDragGuard_events guard).bind (fun _ events' h' => Prog.sat_fail ⟨?_, ?_⟩)
      (fun _ _ h' => by cases h'.1) (fun _ h' => by cases h'.1)
    · rw [List.append_nil, h'.2, ← List.cons_append]
      exact paired_drag params h.2
    · intro e he hne
      obtain rfl := Outcome.error.inj he
      exact DragDeliveryState.disposition_enrichError h.1 error

/-! ## All of it -/

/-- **Synthetic input is balanced.** In every world – whatever events, checks and deadlines fail –
and for every click count, drag, key combination and text: each press that a click, a drag, a key
or a text posts is followed by exactly its release, and by no other press or release before that;
each release follows its press in the same way; and no failure after the first posted event says
that nothing was delivered. -/
theorem synthetic_input_balanced (arithmetic : DragArithmetic) (deadline : Deadline) :
    (∀ fuel spec verifyTarget,
        (world.synthesizeClick fuel spec deadline verifyTarget).Sat SoundInput)
      ∧ (∀ params, (world.dragSequence arithmetic params deadline).Sat SoundInput)
      ∧ (∀ keyCode modifiers targetPid progress,
        (world.postKey keyCode (eventFlags modifiers) targetPid deadline progress).Sat SoundInput)
      ∧ ∀ text targetPid verifyTarget,
        (world.postText text targetPid deadline verifyTarget).Sat SoundInput :=
  ⟨fun fuel spec verifyTarget => world.synthesizeClick_sound fuel spec deadline verifyTarget,
    fun params => world.dragSequence_sound arithmetic params deadline,
    fun keyCode modifiers targetPid progress =>
      world.postKey_sound keyCode (eventFlags modifiers) targetPid deadline progress,
    fun text targetPid verifyTarget => world.postText_sound text targetPid deadline verifyTarget⟩

end InputWorld

end AgentDesktop
