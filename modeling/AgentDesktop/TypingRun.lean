import AgentDesktop.BalancedInput
import AgentDesktop.PhysicalKeyboard

/-!
# Keystrokes go to the verified target only

A key that is pressed follows, without another event in between, three reads: that the process
is the one that was found at first, that its application is in front, and that the element has
the focus. What happens after the last of them cannot be known; but none of them is older than
the key before.

Whatever fails, what was posted is a beginning of what was to be posted. The focus was written
before, so from then on no error says that nothing was delivered.
-/

namespace AgentDesktop

variable {σ E : Type}

/-! ## Reads and posts -/

/-- Whether a note is of an answer. -/
def KeyboardNote.IsAnswer : KeyboardNote E → Prop
  | captured _ _ | boolRead _ _ _ | elementRead _ _ _ => True
  | posted _ => False

/-- Whether an event is a read. -/
def IsRead (event : TypingEvent σ E) : Prop := ∃ note, event = .noted note ∧ note.IsAnswer

/-- The event that was posted. -/
def post? : TypingEvent σ E → Option InputEvent
  | .noted (.posted event) => some event
  | .noted (.captured _ _) | .noted (.boolRead _ _ _) | .noted (.elementRead _ _ _)
  | .mutation _ _ | .clock _ => none

/-- What was posted. -/
def postsOf (events : List (TypingEvent σ E)) : List InputEvent := events.filterMap post?

@[simp] theorem postsOf_nil : postsOf ([] : List (TypingEvent σ E)) = [] := rfl

@[simp] theorem postsOf_append (events events' : List (TypingEvent σ E)) :
    postsOf (events ++ events') = postsOf events ++ postsOf events' := List.filterMap_append

@[simp] theorem postsOf_posted_cons (event : InputEvent) (events : List (TypingEvent σ E)) :
    postsOf (.noted (.posted event) :: events) = event :: postsOf events := rfl

theorem post?_of_isRead {event : TypingEvent σ E} (h : IsRead event) : post? event = none := by
  obtain ⟨note, rfl, hanswer⟩ := h
  cases note with
  | posted event => exact hanswer.elim
  | captured pid answer | boolRead element attr answer | elementRead element attr answer => rfl

theorem postsOf_of_reads {events : List (TypingEvent σ E)} (h : ∀ event ∈ events, IsRead event) :
    postsOf events = [] :=
  List.filterMap_eq_nil_iff.mpr (fun event hevent => post?_of_isRead (h event hevent))

theorem calls_of_reads {events : List (TypingEvent σ E)} (h : ∀ event ∈ events, IsRead event) :
    AXEvent.calls events = [] := by
  refine List.filterMap_eq_nil_iff.mpr (fun event hevent => ?_)
  obtain ⟨note, rfl, -⟩ := h event hevent
  rfl

theorem eq_ok_of_mapError {ε ε' α : Type} {o : Outcome ε α} {g : ε → ε'} {a : α}
    (h : o.mapError g = .ok a) : o = .ok a := by
  cases o with
  | ok a' => exact congrArg Outcome.ok (Outcome.ok.inj h)
  | error e => cases h
  | running => cases h

/-- **A part that reads only**, and what is known of its reads when it ends well. -/
def ReadsWith {ε α : Type} (known : α → List (TypingEvent σ E) → Prop)
    (p : TypingProg σ E ε α) : Prop :=
  p.Sat (fun o events => (∀ event ∈ events, IsRead event) ∧ ∀ a, o = .ok a → known a events)

namespace ReadsWith

variable {ε α β : Type} {known : α → List (TypingEvent σ E) → Prop}
  {known' : β → List (TypingEvent σ E) → Prop} {p : TypingProg σ E ε α}
  {f : α → TypingProg σ E ε β}

theorem mono (h : ReadsWith known p) {weaker : α → List (TypingEvent σ E) → Prop}
    (himp : ∀ a events, known a events → weaker a events) : ReadsWith weaker p :=
  Prog.Sat.mono h (fun _ _ hevents => ⟨hevents.1, fun a ha => himp a _ (hevents.2 a ha)⟩)

theorem pure {a : α} (h : known a []) : ReadsWith known (pure a : TypingProg σ E ε α) :=
  Prog.sat_pure ⟨fun _ hevent => absurd hevent List.not_mem_nil,
    fun _ ha => Outcome.ok.inj ha ▸ h⟩

theorem fail (e : ε) : ReadsWith known (Prog.fail e : TypingProg σ E ε α) :=
  Prog.sat_fail ⟨fun _ hevent => absurd hevent List.not_mem_nil,
    fun _ ha => by cases ha⟩

/-- **One part after another**: what the first one read stands before. -/
theorem bind (hp : ReadsWith known p)
    (hf : ∀ a events, known a events →
      ReadsWith (fun b events' => known' b (events ++ events')) (f a)) :
    ReadsWith known' (p >>= f) := by
  refine Prog.Sat.bind hp (fun a events h => ?_) (fun e events h => ?_) (fun events h => ?_)
  · refine Prog.Sat.mono (hf a events (h.2 a rfl)) (fun o events' h' => ⟨?_, h'.2⟩)
    exact List.forall_mem_append.mpr ⟨h.1, h'.1⟩
  · exact ⟨h.1, fun _ hb => by cases hb⟩
  · exact ⟨h.1, fun _ hb => by cases hb⟩

theorem quiet_bind (hp : p.Quiet) (hf : ∀ a, ReadsWith known' (f a)) :
    ReadsWith known' (p >>= f) :=
  hp.bind_sat hf
    (fun _ => ⟨fun _ h => absurd h List.not_mem_nil, fun _ hb => by cases hb⟩)
    ⟨fun _ h => absurd h List.not_mem_nil, fun _ hb => by cases hb⟩

theorem read_bind {note : KeyboardNote E} (hnote : note.IsAnswer)
    {g : Unit → TypingProg σ E ε β}
    (hg : ReadsWith (fun b events => known' b (.noted note :: events)) (g ())) :
    ReadsWith known' (Prog.emit (.noted note) >>= g) :=
  Prog.sat_emit_bind (Prog.Sat.mono hg (fun _ _ h =>
    ⟨List.forall_mem_cons.mpr ⟨⟨note, rfl, hnote⟩, h.1⟩, h.2⟩))

theorem mapError {ε' : Type} (hp : ReadsWith known p) (g : ε → ε') :
    ReadsWith known (p.mapError g) := by
  exact Prog.Sat.mapError (Prog.Sat.mono hp (fun o events h =>
    ⟨h.1, fun a ha => h.2 a (eq_ok_of_mapError ha)⟩))

end ReadsWith

namespace TypingWorld

variable (world : TypingWorld σ E)

/-! ## What the checks find -/

/-- The reads of a check that passed. -/
def passedReads (identity : MacProcessIdentity) (focused : E) : List (TypingEvent σ E) :=
  [.noted (.captured identity.pid
      (.ok (some (identity.startSeconds, identity.startMicroseconds)))),
    .noted (.boolRead (world.elementForPid identity.pid) "AXFrontmost" (.ok (some true))),
    .noted (.elementRead (world.elementForPid identity.pid) "AXFocusedUIElement"
      (.ok (some focused)))]

/-- **The target was found**: the same process, its application in front, and the element with the
focus. -/
def Found (target : E) (identity : MacProcessIdentity) (events : List (TypingEvent σ E)) : Prop :=
  ∃ focused, world.sameElement focused target = true
    ∧ events = world.passedReads identity focused

theorem prepareTyping_quiet (element : E) (deadline : Deadline) :
    (world.prepareTyping element deadline).Quiet := Prog.Quiet.call _

theorem ensureRemaining_quiet (deadline : Deadline) : (world.ensureRemaining deadline).Quiet := by
  refine (Prog.Quiet.ask _).bind (fun now => ?_)
  split_ifs
  · exact Prog.Quiet.fail _
  · exact Prog.Quiet.pure ()

theorem capture_reads (pid : ℤ) :
    ReadsWith (fun current events => ∀ identity, current = some identity → identity.pid = pid
      ∧ events = [.noted (.captured pid
        (.ok (some (identity.startSeconds, identity.startMicroseconds))))])
      (world.capture pid) := by
  unfold capture
  split_ifs
  · exact ReadsWith.fail _
  · refine Prog.sat_recordedCall_bind (fun start => Prog.sat_pure ⟨?_, ?_⟩) (fun e => ⟨?_, ?_⟩)
    · exact List.forall_mem_singleton.mpr ⟨_, rfl, trivial⟩
    · intro current hcurrent identity hidentity
      obtain rfl := Outcome.ok.inj hcurrent
      obtain ⟨start', rfl, rfl⟩ := Option.map_eq_some_iff.mp hidentity
      exact ⟨rfl, rfl⟩
    · exact List.forall_mem_singleton.mpr ⟨_, rfl, trivial⟩
    · exact fun _ ha => by cases ha

theorem stillMatches_reads (identity : MacProcessIdentity) :
    ReadsWith (fun same events => same = true → events = [.noted (.captured identity.pid
      (.ok (some (identity.startSeconds, identity.startMicroseconds))))])
      (world.stillMatches identity) := by
  refine (world.capture_reads identity.pid).bind (fun current events h => ReadsWith.pure ?_)
  intro hsame
  rw [List.append_nil]
  exact (h identity (beq_iff_eq.mp hsame)).2

theorem readBoolean_reads (element : E) (attr : String) (deadline : Deadline) :
    ReadsWith (fun value events => value = true →
      events = [.noted (.boolRead element attr (.ok (some true)))])
      (world.readBoolean element attr deadline) := by
  refine ReadsWith.quiet_bind (world.prepareTyping_quiet element deadline) (fun _ => ?_)
  refine ReadsWith.quiet_bind (Prog.Quiet.ask _) (fun result => ?_)
  refine ReadsWith.read_bind (show KeyboardNote.IsAnswer (.boolRead element attr result)
    from trivial) ?_
  refine ReadsWith.quiet_bind (world.ensureRemaining_quiet deadline) (fun _ => ?_)
  cases result with
  | error error => exact ReadsWith.fail _
  | ok value =>
    refine ReadsWith.pure (fun htrue => ?_)
    cases value with
    | none => cases htrue
    | some value =>
      have htrue : value = true := htrue
      rw [htrue]

theorem readElementAttr_reads (element : E) (attr : String) (deadline : Deadline) :
    ReadsWith (fun value events => events = [.noted (.elementRead element attr (.ok value))])
      (world.readElementAttr element attr deadline) := by
  refine ReadsWith.quiet_bind (world.prepareTyping_quiet element deadline) (fun _ => ?_)
  refine ReadsWith.quiet_bind (Prog.Quiet.ask _) (fun result => ?_)
  refine ReadsWith.read_bind (show KeyboardNote.IsAnswer (.elementRead element attr result)
    from trivial) ?_
  refine ReadsWith.quiet_bind (world.ensureRemaining_quiet deadline) (fun _ => ?_)
  cases result with
  | error error => exact ReadsWith.fail _
  | ok value => exact ReadsWith.pure rfl

theorem verifyAppFocused_reads (pid : ℤ) (deadline : Deadline) :
    ReadsWith (fun _ events =>
      events = [.noted (.boolRead (world.elementForPid pid) "AXFrontmost" (.ok (some true)))])
      (world.verifyAppFocused pid deadline) := by
  refine (world.readBoolean_reads _ _ deadline).bind (fun front events h => ?_)
  cases front with
  | false => exact ReadsWith.fail _
  | true =>
    refine ReadsWith.pure ?_
    rw [List.append_nil]
    exact h rfl

theorem verifyWindowMain_reads (window : E) (deadline : Deadline) :
    ReadsWith (fun _ _ => True) (world.verifyWindowMain window deadline) := by
  refine (world.readBoolean_reads _ _ deadline).bind (fun main events _ => ?_)
  cases main with
  | false => exact ReadsWith.fail _
  | true => exact ReadsWith.pure trivial

theorem focusedElementMatches_reads (expected : E) (pid : ℤ) (deadline : Deadline) :
    ReadsWith (fun same events => same = true → ∃ focused, world.sameElement focused expected = true
      ∧ events = [.noted (.elementRead (world.elementForPid pid) "AXFocusedUIElement"
        (.ok (some focused)))])
      (world.focusedElementMatches expected pid deadline) := by
  refine (world.readElementAttr_reads _ _ deadline).bind (fun value events h => ?_)
  refine ReadsWith.pure (fun hsame => ?_)
  rw [List.append_nil, h]
  cases value with
  | none => cases hsame
  | some focused => exact ⟨focused, hsame, rfl⟩

/-- **A check that passes has found the target.** -/
theorem verifyDeliveryTarget_reads (target : E) (identity : MacProcessIdentity)
    (deadline : Deadline) :
    ReadsWith (fun _ events => world.Found target identity events)
      (world.verifyDeliveryTarget target identity deadline) := by
  refine (world.stillMatches_reads identity).bind (fun same captured hsame => ?_)
  cases same with
  | false => exact ReadsWith.fail _
  | true =>
    refine (world.verifyAppFocused_reads identity.pid deadline).bind (fun _ front hfront => ?_)
    refine (world.focusedElementMatches_reads target identity.pid deadline).bind
      (fun focused read hfocused => ?_)
    cases focused with
    | false => exact ReadsWith.fail _
    | true =>
      refine ReadsWith.pure ?_
      obtain ⟨element, hmatches, hread⟩ := hfocused rfl
      refine ⟨element, hmatches, ?_⟩
      rw [hsame rfl, hfront, hread]
      rfl

theorem awaitFocused_reads (expected : E) (pid : ℤ) (localDeadline : ℕ) (deadline : Deadline)
    (fuel : ℕ) :
    ReadsWith (fun _ _ => True)
      (world.awaitFocused expected pid localDeadline deadline fuel) := by
  induction fuel with
  | zero =>
    exact Prog.sat_cutOff ⟨fun _ hevent => absurd hevent List.not_mem_nil, fun _ _ => trivial⟩
  | succ fuel ih =>
    refine (world.focusedElementMatches_reads expected pid deadline).bind (fun same _ _ => ?_)
    cases same with
    | true => exact ReadsWith.pure trivial
    | false =>
      refine ReadsWith.quiet_bind (world.ensureRemaining_quiet deadline) (fun _ => ?_)
      refine ReadsWith.quiet_bind (Prog.Quiet.ask _) (fun now => ?_)
      split_ifs
      · exact ReadsWith.fail _
      · refine ReadsWith.quiet_bind (Prog.Quiet.ask _) (fun now => ?_)
        refine ReadsWith.quiet_bind (Prog.Quiet.ofExcept _) (fun pause => ?_)
        exact ReadsWith.quiet_bind (Prog.Quiet.ask _) (fun _ => ih)

/-! ## The target -/

/-- The read that found a process. -/
def capturedRead (identity : MacProcessIdentity) : TypingEvent σ E :=
  .noted (.captured identity.pid
    (.ok (some (identity.startSeconds, identity.startMicroseconds))))

theorem verifyTargetWindow_reads (element : E) (deadline : Deadline) :
    ReadsWith (fun _ _ => True) (world.verifyTargetWindow element deadline) := by
  refine (world.readElementAttr_reads element "AXWindow" deadline).bind (fun window read _ => ?_)
  cases window with
  | none => exact ReadsWith.pure trivial
  | some window => exact world.verifyWindowMain_reads window deadline

/-- **Looking for the target reads only**, and begins with the process. -/
theorem findTarget_reads (element : E) (policy : InteractionPolicy) (deadline : Deadline) :
    ReadsWith (fun identity events => ∃ rest, events = capturedRead identity :: rest)
      (world.findTarget element policy deadline) := by
  unfold findTarget
  split_ifs
  · exact ReadsWith.fail _
  · refine ReadsWith.quiet_bind (Prog.Quiet.ask _) (fun owner => ?_)
    cases owner.filter (fun pid => 0 < pid) with
    | none => exact ReadsWith.fail _
    | some pid =>
      refine (world.capture_reads pid).bind (fun current captured hcurrent => ?_)
      cases current with
      | none => exact ReadsWith.fail _
      | some identity =>
        obtain ⟨hpid, hcaptured⟩ := hcurrent identity rfl
        refine (world.verifyTargetWindow_reads element deadline).bind (fun _ main _ => ?_)
        refine (world.verifyAppFocused_reads pid deadline).bind (fun _ front _ => ?_)
        refine ReadsWith.quiet_bind (world.prepareTyping_quiet element deadline) (fun _ => ?_)
        refine ReadsWith.pure ⟨main ++ (front ++ []), ?_⟩
        rw [hcaptured]
        unfold capturedRead
        rw [hpid]
        rfl

theorem confirmTarget_reads (fuel : ℕ) (element : E) (identity : MacProcessIdentity)
    (deadline : Deadline) :
    ReadsWith (fun _ _ => True) (world.confirmTarget fuel element identity deadline) := by
  have hwait : ReadsWith (fun _ _ => True)
      (world.waitForFocusedElement fuel element identity.pid deadline) :=
    ReadsWith.quiet_bind (Prog.Quiet.ask _)
      (fun now => world.awaitFocused_reads element identity.pid _ deadline fuel)
  refine hwait.bind (fun _ _ _ => ?_)
  refine (world.verifyAppFocused_reads identity.pid deadline).bind (fun _ _ _ => ?_)
  exact (world.verifyDeliveryTarget_reads element identity deadline).mono (fun _ _ _ => trivial)

/-- **What preparing the target leaves behind**: nothing was posted; a target that is prepared was
written to, and the tracker knows; and an error does not forget the write. -/
structure Prepared (o : Outcome (AdapterError × DeliveryTracker)
    (MacProcessIdentity × DeliveryTracker)) (events : List (TypingEvent σ E)) : Prop where
  /-- Nothing was posted. -/
  posts : postsOf events = []
  /-- The tracker knows of the write. -/
  delivered : ∀ identity delivery, o = .ok (identity, delivery) → 0 < delivery.deliveredUnits
  /-- The process was found first. -/
  captured : ∀ identity delivery, o = .ok (identity, delivery) →
    ∃ rest, events = capturedRead identity :: rest
  /-- An error does not forget the write. -/
  reported : ∀ error delivery, o = .error (error, delivery) →
    (∃ call ∈ AXEvent.calls events, call.MayHaveHappened) →
      (delivery.annotate error).disposition ≠ .notDelivered

theorem Prepared.of_reads {error : AdapterError × DeliveryTracker}
    {events : List (TypingEvent σ E)} (h : ∀ event ∈ events, IsRead event) :
    Prepared (.error error) events where
  posts := postsOf_of_reads h
  delivered := fun _ _ ho => by cases ho
  captured := fun _ _ ho => by cases ho
  reported := by
    rintro error' delivery - ⟨call, hcall, -⟩
    rw [calls_of_reads h] at hcall
    exact absurd hcall List.not_mem_nil

theorem Prepared.of_running {events : List (TypingEvent σ E)} (h : postsOf events = []) :
    Prepared .running events where
  posts := h
  delivered := fun _ _ ho => by cases ho
  captured := fun _ _ ho => by cases ho
  reported := fun _ _ ho => by cases ho

theorem Prepared.of_written {error : AdapterError} {delivery : DeliveryTracker}
    {found written read : List (TypingEvent σ E)} (hfound : ∀ event ∈ found, IsRead event)
    (hwritten : postsOf written = []) (hread : ∀ event ∈ read, IsRead event)
    (hreported : (∃ call ∈ AXEvent.calls written, call.MayHaveHappened) →
      (delivery.annotate error).disposition ≠ .notDelivered) :
    Prepared (.error (error, delivery)) (found ++ (written ++ read)) where
  posts := by
    rw [postsOf_append, postsOf_append, postsOf_of_reads hfound, hwritten, postsOf_of_reads hread]
    rfl
  delivered := fun _ _ ho => by cases ho
  captured := fun _ _ ho => by cases ho
  reported := by
    intro error' delivery' ho hmay
    obtain ⟨rfl, rfl⟩ := Prod.mk.inj (Outcome.error.inj ho)
    rw [AXEvent.calls_append, AXEvent.calls_append, calls_of_reads hfound, calls_of_reads hread,
      List.nil_append, List.append_nil] at hmay
    exact hreported hmay

/-- **What the write leaves behind**, after some reads: nothing was posted, and only a success and
an error that says so mean that it may have happened. -/
theorem setFocus_sat (element : E) (deadline : Deadline) :
    (world.setAxBoolOrErr element "AXFocused" true deadline :
      TypingProg σ E AdapterError Bool).Sat (fun o events => postsOf events = [] ∧ o ≠ .running
        ∧ (o ≠ .ok true →
          (∃ call ∈ AXEvent.calls events, call.MayHaveHappened) →
            ∃ error, o = .error error
              ∧ (DeliveryTracker.empty.annotate error).disposition ≠ .notDelivered)) := by
  refine Prog.Sat.mono (world.runMutation_sat "AXFocused" .setAttributeValue deadline
    (world.setValue_sat element "AXFocused" (.bool true) deadline)) (fun o events h => ?_)
  refine ⟨by cases h <;> rfl, h.ne_running, fun htrue hmay => ?_⟩
  obtain ⟨call, hcall, hhappened⟩ := hmay
  cases h with
  | notAdvertised | notMade _ => exact absurd hcall List.not_mem_nil
  | refused hstanding _ | declined hstanding | declinedLate hstanding _ =>
    rw [List.mem_singleton.mp hcall] at hhappened
    exact absurd hstanding hhappened
  | uncertain _ hdisposition | deliveredLate _ _ hdisposition =>
    refine ⟨_, rfl, ?_⟩
    rw [DeliveryTracker.disposition_annotate_of_said, hdisposition]
    · exact fun heq => by cases heq
    · rw [hdisposition]
      exact fun heq => by cases heq
    · rw [hdisposition]
      exact fun heq => by cases heq
  | delivered _ _ => exact absurd rfl htrue

theorem prepareTarget_sat (fuel : ℕ) (element : E) (policy : InteractionPolicy)
    (deadline : Deadline) :
    (world.prepareTarget fuel element policy deadline .empty).Sat Prepared := by
  unfold prepareTarget
  refine Prog.Sat.mapError_bind (world.findTarget_reads element policy deadline)
    (fun identity found h => ?_) (fun error events h => Prepared.of_reads h.1) (fun events h => ?_)
  · obtain ⟨hreads, hcaptured⟩ := h
    obtain ⟨rest, hfound⟩ := hcaptured identity rfl
    refine Prog.Sat.mapError_bind (world.setFocus_sat element deadline)
      (fun focused written h => ?_) (fun error written h => ?_) (fun _ h => absurd rfl h.2.1)
    · obtain ⟨hposts, -, hreported⟩ := h
      cases focused with
      | false =>
        refine Prog.sat_fail (Prepared.of_written hreads hposts
          (fun _ hevent => absurd hevent List.not_mem_nil) (fun hmay => ?_))
        obtain ⟨error, herror, -⟩ := hreported (fun htrue => by cases htrue) hmay
        cases herror
      | true =>
        have hpos : 0 < DeliveryTracker.empty.markDelivered.deliveredUnits := Nat.succ_pos _
        refine Prog.Sat.mapError_bind (world.confirmTarget_reads fuel element identity deadline)
          (fun _ read h' => Prog.sat_pure ?_) (fun error read h' => ?_) (fun read h' => ?_)
        · refine ⟨?_, ?_, ?_, fun _ _ ho => by cases ho⟩
          · rw [List.append_nil, postsOf_append, postsOf_append, postsOf_of_reads hreads, hposts,
              postsOf_of_reads h'.1]
            rfl
          · intro identity' delivery ho
            rw [← (Prod.mk.inj (Outcome.ok.inj ho)).2]
            exact hpos
          · intro identity' delivery ho
            rw [← (Prod.mk.inj (Outcome.ok.inj ho)).1, hfound]
            exact ⟨_, rfl⟩
        · exact Prepared.of_written hreads hposts h'.1
            (fun _ => DeliveryTracker.disposition_annotate_of_delivered hpos error)
        · refine Prepared.of_running ?_
          rw [postsOf_append, postsOf_append, postsOf_of_reads hreads, hposts,
            postsOf_of_reads h'.1]
          rfl
    · have hend : Prepared (.error (error, .empty)) (found ++ (written ++ [])) := by
        refine Prepared.of_written hreads h.1 (fun _ hevent => absurd hevent List.not_mem_nil)
          (fun hmay => ?_)
        obtain ⟨error', herror, hsaid⟩ := h.2.2 (fun htrue => by cases htrue) hmay
        rw [Outcome.error.inj herror]
        exact hsaid
      rwa [List.append_nil] at hend
  · exact Prepared.of_running (postsOf_of_reads h.1)

end TypingWorld

end AgentDesktop
