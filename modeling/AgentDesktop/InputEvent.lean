import AgentDesktop.Action
import AgentDesktop.Chain
import AgentDesktop.Util.Bracket

/-!
# Synthetic input events

What the pointer and the keyboard are made to do is posted as events. Everything
around a post may fail: the source of the events, an event, the check that the
target is still there, the time. How the world behaves is a parameter here, so
what holds of every world holds for every pattern of such failures. A tracker
counts what was posted, and a failure is reported with what it knows.
-/

namespace AgentDesktop

/-! ## Events -/

/-- `CGEventType`, as far as it is posted. -/
inductive CGEventType
  | mouseMoved | leftMouseDragged
  | leftMouseDown | leftMouseUp | rightMouseDown | rightMouseUp | otherMouseDown | otherMouseUp
  deriving DecidableEq

/-- `CGMouseButton`. -/
inductive CGMouseButton
  | left | right | center
  deriving DecidableEq

/-- A pointer event. -/
structure PointerEvent where
  eventType : CGEventType
  point : Point
  button : CGMouseButton
  /-- `CGEventFlags`. -/
  flags : UInt64
  /-- `MOUSE_EVENT_CLICK_STATE`, where it was set. -/
  clickCount : Option ℕ
  deriving DecidableEq

/-- A keyboard event. -/
structure KeyEvent where
  keyCode : UInt16
  /-- Whether the key goes down. -/
  down : Bool
  /-- `CGEventFlags`. -/
  flags : UInt64
  /-- The characters it stands for, where they were set. -/
  text : Option (List Char)
  deriving DecidableEq

/-- **An event that is posted**; a keyboard event may go to a process. -/
inductive InputEvent
  | pointer (event : PointerEvent)
  | key (event : KeyEvent) (targetPid : Option ℤ)
  deriving DecidableEq

/-- What an event can take hold of: a button, or a key as a process sees it. -/
inductive Held
  | button (button : CGMouseButton) (flags : UInt64) (clickCount : Option ℕ)
  | key (keyCode : UInt16) (flags : UInt64) (targetPid : Option ℤ)
  deriving DecidableEq

/-- **What an event takes hold of or lets go of.** -/
def InputEvent.hold : InputEvent → Hold Held
  | pointer event =>
    match event.eventType with
    | .mouseMoved | .leftMouseDragged => .neutral
    | .leftMouseDown | .rightMouseDown | .otherMouseDown =>
      .press (.button event.button event.flags event.clickCount)
    | .leftMouseUp | .rightMouseUp | .otherMouseUp =>
      .release (.button event.button event.flags event.clickCount)
  | key event targetPid =>
    if event.down then .press (.key event.keyCode event.flags targetPid)
    else .release (.key event.keyCode event.flags targetPid)

/-- `event_flags`. -/
def eventFlags (modifiers : List Modifier) : UInt64 :=
  modifiers.foldl (fun flags modifier => flags ||| (match modifier with
    | .metaKey => 0x100000
    | .shift => 0x20000
    | .alt => 0x80000
    | .ctrl => 0x40000)) 0

/-! ## The world -/

/-- **What the input code asks of the system.** -/
structure InputWorld (σ : Type) where
  clock : σ → ℕ × σ
  /-- `thread::sleep`, in nanoseconds. -/
  sleep : ℕ → σ → Unit × σ
  /-- `CGEventSource::new`: whether it succeeds. -/
  newEventSource : σ → Bool × σ
  /-- `CGEvent::new_mouse_event`: whether it succeeds. -/
  newMouseEvent : PointerEvent → σ → Bool × σ
  /-- `CGEvent::new_keyboard_event`: whether it succeeds. -/
  newKeyboardEvent : KeyEvent → σ → Bool × σ
  /-- `CGEvent::new` and its location. -/
  pointerLocation : σ → Option Point × σ

/-- A program that posts events. -/
abbrev InputProg (σ ε α : Type) : Type := Prog σ InputEvent ε α

namespace InputWorld

variable {σ : Type} (world : InputWorld σ)

/-- Posting an event. -/
def post {ε : Type} (event : InputEvent) : InputProg σ ε Unit := Prog.emit event

/-- `event_source`. -/
def eventSource : InputProg σ AdapterError Unit := do
  if ← Prog.ask world.newEventSource then return ()
  else Prog.fail (.internal "Failed to create CGEventSource")

/-- `create_event_with_source`. -/
def createEventWithSource (event : PointerEvent) : InputProg σ AdapterError PointerEvent := do
  if ← Prog.ask (world.newMouseEvent event) then return event
  else Prog.fail (.internal "CGEvent::new_mouse_event failed")

/-- `create_event`. -/
def createEvent (event : PointerEvent) : InputProg σ AdapterError PointerEvent := do
  world.eventSource
  world.createEventWithSource event

/-- The details of a failed budget, for the pointer. -/
def deliveredEvents (delivery : DeliveryTracker) : Json :=
  .obj [("delivered_events", .num delivery.deliveredUnits)]

/-- The details of a failed budget, for the keyboard. -/
def deliveredChunks (total : ℕ) (delivery : DeliveryTracker) : Json :=
  .obj [("delivered_chunks", .num delivery.deliveredUnits), ("total_chunks", .num total)]

/-- `ensure_budget`, with the details its error is given. -/
def ensureBudgetWith (details : Json) (deadline : Deadline) (delivery : DeliveryTracker) :
    InputProg σ AdapterError Unit := do
  let now ← Prog.ask world.clock
  if !deadline.isExpired now then return ()
  else Prog.fail (delivery.annotate ((deadline.timeoutError now).withDetails details))

/-- `ensure_budget` of the pointer. -/
def ensureBudget (deadline : Deadline) (delivery : DeliveryTracker) :
    InputProg σ AdapterError Unit :=
  world.ensureBudgetWith (deliveredEvents delivery) deadline delivery

/-- `sleep_bounded` of the pointer. -/
def sleepBounded (deadline : Deadline) (duration : ℕ) (delivery : DeliveryTracker) :
    InputProg σ AdapterError Unit := do
  let now ← Prog.ask world.clock
  let pause ← Prog.ofExcept ((deadline.remainingSlice now duration).mapError delivery.annotate)
  if pause < duration then
    Prog.ask (world.sleep pause)
    world.ensureBudget deadline delivery
  else
    Prog.ask (world.sleep duration)
    world.ensureBudget deadline delivery

/-! ### Guards

A button or key that is pressed has its release in a guard. When it has been down long enough, the
release is taken out of the guard and posted; where something fails before that, the guard still has
it, and posts it when it is dropped. -/

/-- What `ClickReleaseGuard` and `KeyReleaseGuard` keep. -/
structure ReleaseGuard where
  /-- The release, until it is taken. -/
  event : Option InputEvent

/-- `drop` of the two guards. -/
def dropReleaseGuard {ε : Type} (guard : ReleaseGuard) : InputProg σ ε Unit :=
  match guard.event with
  | none => return ()
  | some event => post event

/-- The release is taken out of its guard and posted; it is an error when it is not there. -/
def takeRelease (lost : AdapterError) (guard : ReleaseGuard) :
    InputProg σ (AdapterError × ReleaseGuard) ReleaseGuard :=
  match guard.event with
  | none => Prog.fail (lost, guard)
  | some event => do
    let guard : ReleaseGuard := { guard with event := none }
    post event
    return guard

/-- What runs while a guard is there, with the guard as it is left, also by a failure; in the end
the guard is dropped. -/
def guarded {α : Type} (guard : ReleaseGuard)
    (body : ReleaseGuard → InputProg σ (AdapterError × ReleaseGuard) (α × ReleaseGuard)) :
    InputProg σ AdapterError α := do
  match ← (Prog.attempt (body guard) : InputProg σ AdapterError _) with
  | .ok (value, guard) =>
    dropReleaseGuard guard
    return value
  | .error (error, guard) =>
    dropReleaseGuard guard
    Prog.fail error

/-- **A release that is pending while a part runs**: it is posted when the part is over, whether it
has failed or not. -/
def releasing {α : Type} (up : InputEvent) (body : InputProg σ AdapterError α) :
    InputProg σ AdapterError α := do
  match ← (Prog.attempt body : InputProg σ AdapterError _) with
  | .ok value =>
    post up
    return value
  | .error error =>
    post up
    Prog.fail error

theorem guarded_post {α : Type} (event : InputEvent) (guard : ReleaseGuard)
    (body : ReleaseGuard → InputProg σ (AdapterError × ReleaseGuard) (α × ReleaseGuard)) :
    guarded guard (fun release => do
      post event
      body release)
      = (do
        post event
        guarded guard body) := by
  funext s
  show Prog.andThen (Prog.attempt (Prog.andThen (Prog.emit event) (fun _ => body guard))) _ s
    = Prog.andThen (Prog.emit event) (fun _ => Prog.andThen (Prog.attempt (body guard)) _) s
  unfold Prog.andThen Prog.attempt Prog.emit
  rcases hbody : body guard s with ⟨o, s', events⟩
  cases o <;> simp only [hbody, List.append_assoc]

/-- **A guard whose release is taken after a part** has it pending while the part runs: the release
is posted exactly once, by the code that takes it or by the drop. -/
theorem guarded_eq_releasing {α : Type} (up : InputEvent) (lost : AdapterError)
    (settle : InputProg σ AdapterError Unit) (rest : InputProg σ AdapterError α) :
    guarded ⟨some up⟩ (fun release => do
      Prog.mapError (·, release) settle
      let release ← takeRelease lost release
      let value ← Prog.mapError (·, release) rest
      return (value, release))
      = (do
        releasing up settle
        rest) := by
  funext s
  show Prog.andThen (Prog.attempt (Prog.andThen (Prog.mapError _ settle) (fun _ =>
      Prog.andThen (takeRelease lost ⟨some up⟩) (fun release =>
        Prog.andThen (Prog.mapError (·, release) rest) _)))) _ s
    = Prog.andThen (Prog.andThen (Prog.attempt settle) _) (fun _ => rest) s
  unfold Prog.andThen Prog.attempt Prog.mapError
  rcases hsettle : settle s with ⟨o, s', events⟩
  cases o with
  | ok _ =>
    -- the release is taken, and the drop finds nothing
    rcases hrest : rest s' with ⟨o', s'', events'⟩
    cases o' <;> simp [takeRelease, dropReleaseGuard, post, Prog.emit, Prog.fail, Prog.done,
      Prog.andThen, Outcome.mapError, hsettle, hrest, bind, pure]
  | error error =>
    simp [dropReleaseGuard, post, Prog.emit, Prog.fail, Prog.done, Prog.andThen, Outcome.mapError,
      hsettle, bind]
  | running => simp [Outcome.mapError, hsettle]

end InputWorld

/-! ## What every part keeps -/

/-- **Sound input**: what was posted is paired, and a failure after a post does not say that
nothing was delivered. -/
def SoundInput {α : Type} (o : Outcome AdapterError α) (events : List InputEvent) : Prop :=
  Paired InputEvent.hold events
    ∧ ∀ error, o = .error error → events ≠ [] → error.disposition ≠ .notDelivered

section Rules

variable {σ α β : Type} {delivery : DeliveryTracker}

/-- **A check** that follows a delivery: it posts nothing, and when it fails after something was
delivered it does not say that nothing was. -/
def Checks (delivery : DeliveryTracker) (p : InputProg σ AdapterError α) : Prop :=
  p.Sat (fun o events => events = [] ∧ (0 < delivery.deliveredUnits →
    ∀ error, o = .error error → error.disposition ≠ .notDelivered))

/-- **A part that posts**, after a delivery: what it posts is paired, and once something was
delivered, before or by it, neither its failures nor the tracker it returns forget it. -/
def Posts (delivery : DeliveryTracker) (p : InputProg σ AdapterError DeliveryTracker) : Prop :=
  p.Sat (fun o events => Paired InputEvent.hold events
    ∧ (0 < delivery.deliveredUnits ∨ events ≠ [] →
      (∀ error, o = .error error → error.disposition ≠ .notDelivered)
        ∧ ∀ delivery', o = .ok delivery' → 0 < delivery'.deliveredUnits))

/-- **A part that makes a value**, or fails: it posts nothing. -/
def Makes {ε : Type} (value : α) (p : InputProg σ ε α) : Prop :=
  p.Sat (fun o events => events = [] ∧ o ≠ .running ∧ ∀ a, o = .ok a → a = value)

/-- A part that is not cut off. -/
def Ends {ε : Type} (p : InputProg σ ε α) : Prop := p.Sat (fun o _ => o ≠ .running)

namespace Checks

theorem of_quiet_mapError {p : InputProg σ AdapterError α} (hp : p.Quiet)
    {g : AdapterError → AdapterError}
    (hg : 0 < delivery.deliveredUnits → ∀ error, (g error).disposition ≠ .notDelivered) :
    Checks delivery (p.mapError g) := by
  refine Prog.Sat.mapError (Prog.Sat.mono hp (fun o events hevents => ⟨hevents, ?_⟩))
  intro hdelivered error herror
  cases o with
  | error cause =>
    obtain rfl := Outcome.error.inj herror
    exact hg hdelivered cause
  | ok a => cases herror
  | running => cases herror

theorem of_quiet {p : InputProg σ AdapterError α} (hp : p.Quiet) :
    Checks delivery (p.mapError delivery.annotate) :=
  of_quiet_mapError hp DeliveryTracker.disposition_annotate_of_delivered

theorem pure (a : α) : Checks delivery (pure a : InputProg σ AdapterError α) :=
  Prog.sat_pure ⟨rfl, fun _ _ h => (by cases h)⟩

theorem fail (error : AdapterError) :
    Checks delivery (Prog.fail (delivery.annotate error) : InputProg σ AdapterError α) := by
  refine Prog.sat_fail ⟨rfl, fun hdelivered e he => ?_⟩
  obtain rfl := Outcome.error.inj he
  exact DeliveryTracker.disposition_annotate_of_delivered hdelivered error

theorem ask (op : σ → α × σ) : Checks delivery (Prog.ask op : InputProg σ AdapterError α) :=
  Prog.sat_ask (fun _ => ⟨rfl, fun _ _ h => (by cases h)⟩)

theorem ofExcept (x : Except AdapterError α) :
    Checks delivery (Prog.ofExcept (x.mapError delivery.annotate) :
      InputProg σ AdapterError α) := by
  cases x with
  | ok a => exact Checks.pure a
  | error error => exact Checks.fail error

theorem bind {p : InputProg σ AdapterError α} {f : α → InputProg σ AdapterError β}
    (hp : Checks delivery p) (hf : ∀ a, Checks delivery (f a)) : Checks delivery (p >>= f) := by
  refine Prog.Sat.bind hp (fun a events h => ?_) (fun error events h => ?_) (fun events h => ?_)
  · rw [h.1]
    exact hf a
  · exact ⟨h.1, fun hdelivered e he => h.2 hdelivered e (by cases he; rfl)⟩
  · exact ⟨h.1, fun _ _ he => (by cases he)⟩

theorem bind_posts {p : InputProg σ AdapterError α}
    {f : α → InputProg σ AdapterError DeliveryTracker}
    (hp : Checks delivery p) (hf : ∀ a, Posts delivery (f a)) : Posts delivery (p >>= f) := by
  refine Prog.Sat.bind hp (fun a events h => ?_) (fun error events h => ?_) (fun events h => ?_)
  · rw [h.1]
    exact hf a
  · rw [h.1]
    refine ⟨Paired.nil, fun hbefore => ⟨fun e he => ?_, fun _ he => (by cases he)⟩⟩
    have hdelivered := hbefore.resolve_right (fun hne => hne rfl)
    exact h.2 hdelivered e (by cases he; rfl)
  · rw [h.1]
    exact ⟨Paired.nil, fun _ => ⟨fun _ he => (by cases he), fun _ he => (by cases he)⟩⟩

end Checks

namespace Ends

variable {ε : Type}

theorem ask (op : σ → α × σ) : Ends (Prog.ask op : InputProg σ ε α) :=
  Prog.sat_ask (fun _ => by simp)

theorem ofExcept (x : Except ε α) : Ends (Prog.ofExcept x : InputProg σ ε α) :=
  Prog.sat_ofExcept (fun _ _ => by simp) (fun _ _ => by simp)

theorem bind {p : InputProg σ ε α} {f : α → InputProg σ ε β} (hp : Ends p)
    (hf : ∀ a, Ends (f a)) : Ends (p >>= f) :=
  Prog.Sat.bind hp (fun a _ _ => hf a) (fun _ _ _ => by simp) (fun _ h => absurd rfl h)

end Ends

namespace Makes

variable {ε : Type} {value : α}

theorem of_ask (op : σ → Bool × σ) (value : α) (error : ε) :
    Makes value (Prog.ask op >>= fun made =>
      if made then pure value else Prog.fail error : InputProg σ ε α) := by
  refine Prog.sat_ask_bind (fun made => ?_)
  cases made with
  | true => exact Prog.sat_pure ⟨rfl, by simp, fun _ ha => (Outcome.ok.inj ha).symm⟩
  | false => exact Prog.sat_fail ⟨rfl, by simp, fun _ ha => by cases ha⟩

theorem bind {p : InputProg σ ε α} {f : α → InputProg σ ε β} {value' : β} (hp : Makes value p)
    (hf : Makes value' (f value)) : Makes value' (p >>= f) := by
  refine Prog.Sat.bind hp (fun a events h => ?_)
    (fun _ _ h => ⟨h.1, by simp, fun _ ha => by cases ha⟩) (fun _ h => absurd rfl h.2.1)
  rw [h.1, h.2.2 a rfl]
  exact hf

theorem pure : Makes value (pure value : InputProg σ ε α) :=
  Prog.sat_pure ⟨rfl, by simp, fun _ ha => (Outcome.ok.inj ha).symm⟩

theorem of_quiet {p : InputProg σ ε Unit} (hp : p.Quiet) (hends : Ends p) : Makes () p :=
  fun s => ⟨hp s, hends s, fun _ _ => rfl⟩

/-- **What follows a value that is made**; or it fails, and the failure is changed. -/
theorem mapError_bind_sat {ε' : Type} {p : InputProg σ ε α} (hp : Makes value p) {g : ε → ε'}
    {f : α → InputProg σ ε' β} {Ψ : Outcome ε' β → List InputEvent → Prop}
    (hok : (f value).Sat Ψ) (herror : ∀ e, Ψ (.error (g e)) []) :
    (p.mapError g >>= f).Sat Ψ := by
  have hpart : (p.mapError g).Sat (fun o events => events = [] ∧ match o with
      | .ok a => a = value
      | .error e' => ∃ e, e' = g e
      | .running => False) := by
    refine Prog.Sat.mapError (Prog.Sat.mono hp (fun o events h => ⟨h.1, ?_⟩))
    cases o with
    | ok a => exact h.2.2 a rfl
    | error e => exact ⟨e, rfl⟩
    | running => exact h.2.1 rfl
  refine hpart.bind (fun a events h => ?_) (fun e' events h => ?_) (fun _ h => h.2.elim)
  · rw [h.1, h.2]
    exact hok
  · obtain ⟨e, he⟩ := h.2
    rw [h.1, he]
    exact herror e

theorem bind_posts {p : InputProg σ AdapterError α}
    {f : α → InputProg σ AdapterError DeliveryTracker}
    (hp : Makes value p) (hf : Posts delivery (f value)) :
    Posts delivery (p.mapError delivery.annotate >>= f) := by
  refine hp.mapError_bind_sat hf (fun error => ⟨Paired.nil, fun hbefore => ⟨fun e he => ?_, ?_⟩⟩)
  · obtain rfl := Outcome.error.inj he
    have hdelivered := hbefore.resolve_right (fun hne => hne rfl)
    exact DeliveryTracker.disposition_annotate_of_delivered hdelivered error
  · exact fun _ he => by cases he

end Makes

namespace Posts

theorem pure : Posts delivery (pure delivery : InputProg σ AdapterError DeliveryTracker) := by
  refine Prog.sat_pure ⟨Paired.nil, fun hbefore => ⟨fun _ he => (by cases he), fun d hd => ?_⟩⟩
  rw [← Outcome.ok.inj hd]
  exact hbefore.resolve_right (fun hne => hne rfl)

theorem cutOff : Posts delivery (Prog.cutOff : InputProg σ AdapterError DeliveryTracker) :=
  Prog.sat_cutOff ⟨Paired.nil, fun _ => ⟨fun _ he => (by cases he), fun _ he => (by cases he)⟩⟩

theorem bind {p : InputProg σ AdapterError DeliveryTracker}
    {f : DeliveryTracker → InputProg σ AdapterError DeliveryTracker}
    (hp : Posts delivery p) (hf : ∀ delivery', Posts delivery' (f delivery')) :
    Posts delivery (p >>= f) := by
  refine Prog.Sat.bind hp (fun delivery' events h => ?_) (fun error events h => ?_)
    (fun events h => ?_)
  · refine (hf delivery').mono (fun o events' h' => ⟨h.1.append h'.1, fun hbefore => h'.2 ?_⟩)
    by_cases hfirst : 0 < delivery.deliveredUnits ∨ events ≠ []
    · exact Or.inl ((h.2 hfirst).2 delivery' rfl)
    · obtain ⟨hzero, hnil⟩ := not_or.mp hfirst
      rw [not_not.mp hnil] at hbefore
      exact Or.inr (hbefore.resolve_left hzero)
  · exact ⟨h.1, fun hbefore => ⟨fun e he => (h.2 hbefore).1 e (by cases he; rfl),
      fun _ he => (by cases he)⟩⟩
  · exact ⟨h.1, fun _ => ⟨fun _ he => (by cases he), fun _ he => (by cases he)⟩⟩

theorem post_bind {event : InputEvent} {f : Unit → InputProg σ AdapterError DeliveryTracker}
    (hevent : event.hold = .neutral) (hf : Posts delivery.markDelivered (f ())) :
    Posts delivery (InputWorld.post event >>= f) := by
  refine Prog.sat_emit_bind (hf.mono (fun o events h => ⟨?_, fun _ => ?_⟩))
  · exact (Paired.of_neutral (List.forall_mem_singleton.mpr hevent)).append h.1
  · exact h.2 (Or.inl (Nat.succ_pos _))

/-- **A press whose release is pending during a check** is released, whether the check fails or
not. -/
theorem press_bind {held : Held} {down up : InputEvent} {body : InputProg σ AdapterError α}
    {f : α → InputProg σ AdapterError DeliveryTracker}
    (hdown : down.hold = .press held) (hup : up.hold = .release held)
    (hbody : Checks delivery.markDelivered body) (hends : Ends body)
    (hf : ∀ a, Posts delivery.markDelivered (f a)) :
    Posts delivery
      (InputWorld.post down >>= fun _ => InputWorld.releasing up body >>= f) := by
  have hnothing : ∀ e ∈ ([] : List InputEvent), e.hold = .neutral :=
    fun _ he => absurd he List.not_mem_nil
  have hpair : Paired InputEvent.hold [down, up] := Paired.bracket hdown hup hnothing
  have hpos : 0 < delivery.markDelivered.deliveredUnits := Nat.succ_pos _
  refine Prog.sat_emit_bind ?_
  have hreleasing : (InputWorld.releasing up body).Sat (fun o events =>
      events = [up] ∧ o ≠ .running
        ∧ ∀ error, o = .error error → error.disposition ≠ .notDelivered) := by
    unfold InputWorld.releasing
    have hboth : body.Sat (fun o events =>
        (events = [] ∧ (0 < delivery.markDelivered.deliveredUnits →
          ∀ error, o = .error error → error.disposition ≠ .notDelivered)) ∧ o ≠ .running) :=
      fun s => ⟨hbody s, hends s⟩
    refine Prog.Sat.attempt_bind hboth (fun a events h => ?_) (fun error events h => ?_)
      (fun events h => absurd rfl h.2)
    · rw [h.1.1]
      exact Prog.sat_emit_bind (Prog.sat_pure ⟨rfl, by simp, fun _ he => by cases he⟩)
    · rw [h.1.1]
      refine Prog.sat_emit_bind (Prog.sat_fail ⟨rfl, by simp, fun e he => ?_⟩)
      exact h.1.2 hpos e (by cases he; rfl)
  refine hreleasing.bind (fun a events h => ?_) (fun error events h => ?_)
    (fun events h => absurd rfl h.2.1)
  · rw [h.1]
    refine (hf a).mono (fun o events' h' => ⟨hpair.append h'.1, fun _ => h'.2 (Or.inl hpos)⟩)
  · rw [h.1]
    exact ⟨hpair, fun _ => ⟨fun e he => h.2.2 e (by cases he; rfl), fun _ he => by cases he⟩⟩

theorem sound {p : InputProg σ AdapterError DeliveryTracker} (hp : Posts delivery p) :
    (p >>= fun _ => (Pure.pure () : InputProg σ AdapterError Unit)).Sat SoundInput := by
  refine Prog.Sat.bind hp (fun d events h => Prog.sat_pure ?_) (fun error events h => ?_)
    (fun events h => ?_)
  · rw [List.append_nil]
    exact ⟨h.1, fun _ he => by cases he⟩
  · exact ⟨h.1, fun e he hne => (h.2 (Or.inr hne)).1 e (by cases he; rfl)⟩
  · exact ⟨h.1, fun _ he => by cases he⟩

end Posts

end Rules

end AgentDesktop
