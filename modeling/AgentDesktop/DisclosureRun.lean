import AgentDesktop.Disclosure
import AgentDesktop.Util.Bracket

/-!
# What a disclosure reports

A disclosure acts at most once: at most one call of a run may have been carried out. What a
run says of the state rests on the last read, and what it says of the delivery on the code of
the call. A press, which toggles, is made only when the state was read to be the opposite one,
first of all and immediately before.
-/

namespace AgentDesktop

namespace Disclosure

variable {σ E : Type}

/-- **The opposite state was read**, first of all and last. -/
def ReadOpposite (expanded : Bool) (events : List (DisclosureEvent σ E)) : Prop :=
  (AXEvent.notes events).head? = some (.ok (some (!expanded)))
    ∧ events.getLast? = some (.noted (.ok (some (!expanded))))

/-- **What a run reports**, of the calls it made and the states it read. -/
structure DisclosureReport (expanded : Bool) (outcome : Outcome AdapterError DeliveryOutcome)
    (events : List (DisclosureEvent σ E)) : Prop where
  /-- At most one call may have been carried out. -/
  once : (AXEvent.effects events).length ≤ 1
  /-- A press is made only of the opposite state, as it was read first and just before. -/
  pressed : ∀ before call state after, events = before ++ .mutation call state :: after →
    call.operation = "AXPress" → ReadOpposite expanded before
  /-- A delivery is verified by the last read. -/
  verified : outcome = .ok .deliveredVerified →
    (AXEvent.notes events).getLast? = some (.ok (some expanded))
  /-- Where nothing was to be done, nothing was tried. -/
  satisfied : outcome = .ok .satisfiedNoDelivery → AXEvent.calls events = []
  /-- A call that was delivered is told as such: as verified, as not verified if the state is not
  known, or by an error that does not deny it. -/
  delivered : (∃ call ∈ AXEvent.calls events, call.standing = .delivered) →
    (∀ told, outcome = .ok told → told = .deliveredVerified
      ∨ told = .deliveredUnverified ∧ (AXEvent.notes events).getLast? = some (.ok none))
      ∧ ∀ error, outcome = .error error → error.disposition ≠ .notDelivered

/-! ## Events without an effect -/

/-- **Nothing was carried out so far**, and nothing was pressed. -/
structure Undelivered (events : List (DisclosureEvent σ E)) : Prop where
  /-- No call may have been carried out. -/
  idle : ∀ call ∈ AXEvent.calls events, call.standing = .notDelivered
  /-- Nothing was pressed. -/
  unpressed : ∀ call ∈ AXEvent.calls events, call.operation ≠ "AXPress"

theorem Undelivered.nil : Undelivered ([] : List (DisclosureEvent σ E)) :=
  ⟨fun _ hmem => absurd hmem List.not_mem_nil, fun _ hmem => absurd hmem List.not_mem_nil⟩

theorem Undelivered.noted (state : StateRead) :
    Undelivered ([.noted state] : List (DisclosureEvent σ E)) :=
  ⟨fun _ hmem => absurd hmem List.not_mem_nil, fun _ hmem => absurd hmem List.not_mem_nil⟩

theorem Undelivered.append {events later : List (DisclosureEvent σ E)} (h : Undelivered events)
    (hlater : Undelivered later) : Undelivered (events ++ later) where
  idle := by
    rw [AXEvent.calls_append]
    exact List.forall_mem_append.mpr ⟨h.idle, hlater.idle⟩
  unpressed := by
    rw [AXEvent.calls_append]
    exact List.forall_mem_append.mpr ⟨h.unpressed, hlater.unpressed⟩

theorem DisclosureReport.of_undelivered {expanded : Bool}
    {outcome : Outcome AdapterError DeliveryOutcome} {events : List (DisclosureEvent σ E)}
    (h : Undelivered events) (hverified : outcome ≠ .ok .deliveredVerified)
    (hsatisfied : outcome = .ok .satisfiedNoDelivery → AXEvent.calls events = []) :
    DisclosureReport expanded outcome events where
  once := by
    rw [AXEvent.effects_eq_nil_iff.mpr h.idle]
    exact Nat.zero_le 1
  pressed := fun _ call _ _ hevents hpress =>
    absurd hpress (h.unpressed call (AXEvent.mem_calls hevents))
  verified := fun hok => absurd hok hverified
  satisfied := hsatisfied
  delivered := by
    rintro ⟨call, hcall, hdelivered⟩
    exact absurd ((h.idle call hcall).symm.trans hdelivered) (by simp)

/-! ## What one mechanism does -/

/-- **What an outcome tells of a call**, by the states that were read after it. -/
structure Tells (expanded : Bool) (outcome : Outcome AdapterError DeliveryOutcome)
    (call : AXCall E) (later : List (DisclosureEvent σ E)) : Prop where
  /-- A delivery is verified by the last read. -/
  verified : outcome = .ok .deliveredVerified →
    (AXEvent.notes later).getLast? = some (.ok (some expanded))
  unsatisfied : outcome ≠ .ok .satisfiedNoDelivery
  /-- A delivery is told. -/
  told : call.standing = .delivered → ∀ told, outcome = .ok told → told = .deliveredVerified
    ∨ told = .deliveredUnverified ∧ (AXEvent.notes later).getLast? = some (.ok none)
  /-- A delivery is not denied. -/
  owned : call.standing = .delivered → ∀ error, outcome = .error error →
    error.disposition ≠ .notDelivered

namespace Tells

variable {expanded : Bool} {call : AXCall E} {later : List (DisclosureEvent σ E)}

theorem of_error {error : AdapterError}
    (howned : call.standing = .delivered → error.disposition ≠ .notDelivered) :
    Tells expanded (.error error) call later where
  verified h := by cases h
  unsatisfied h := by cases h
  told _ told h := by cases h
  owned hdelivered error' h := by
    obtain rfl := Outcome.error.inj h
    exact howned hdelivered

theorem of_running : Tells expanded .running call later where
  verified h := by cases h
  unsatisfied h := by cases h
  told _ told h := by cases h
  owned _ error h := by cases h

end Tells

theorem getLast?_notes_append (events : List (DisclosureEvent σ E))
    {later : List (DisclosureEvent σ E)} {state : StateRead}
    (h : (AXEvent.notes later).getLast? = some state) :
    (AXEvent.notes (events ++ later)).getLast? = some state := by
  rw [AXEvent.notes_append, List.getLast?_append, h, Option.some_or]

theorem before_eq {front before later after : List (DisclosureEvent σ E)} {call pressed : AXCall E}
    {state state' : σ} (hfront : Undelivered front) (hlater : AXEvent.calls later = [])
    (hpress : pressed.operation = "AXPress")
    (h : front ++ .mutation call state :: later = before ++ .mutation pressed state' :: after) :
    before = front ∧ pressed = call := by
  rcases Paired.split_append h with ⟨rest, hevents, -⟩ | ⟨rest, rfl, hevents⟩
  · exact absurd hpress (hfront.unpressed pressed (AXEvent.mem_calls hevents))
  · cases rest with
    | nil =>
      injection hevents with hevent
      injection hevent with hcall
      exact ⟨List.append_nil front, hcall.symm⟩
    | cons event rest =>
      injection hevents with _ hrest
      exact absurd (AXEvent.mem_calls hrest) (by rw [hlater]; exact List.not_mem_nil)

/-- **A run that ends with a call**, and with what is read after it. -/
theorem DisclosureReport.of_call {expanded : Bool}
    {outcome : Outcome AdapterError DeliveryOutcome} {front later : List (DisclosureEvent σ E)}
    {call : AXCall E} {state : σ} (hfront : Undelivered front)
    (hlater : AXEvent.calls later = [])
    (hpress : call.operation = "AXPress" → ReadOpposite expanded front)
    (h : Tells expanded outcome call later) :
    DisclosureReport expanded outcome (front ++ .mutation call state :: later) where
  once := by
    have hcalls : AXEvent.calls (.mutation call state :: later) = [call] := by
      rw [AXEvent.calls_mutation_cons, hlater]
    rw [AXEvent.effects_append, AXEvent.effects_eq_nil_iff.mpr hfront.idle, List.nil_append]
    unfold AXEvent.effects
    rw [hcalls]
    exact List.length_filter_le _ _
  pressed := by
    intro before pressed state' after hevents hpressed
    obtain ⟨rfl, rfl⟩ := before_eq hfront hlater hpressed hevents
    exact hpress hpressed
  verified := fun hok => getLast?_notes_append _ (h.verified hok)
  satisfied := fun hok => absurd hok h.unsatisfied
  delivered := by
    rintro ⟨call', hcall, hdelivered⟩
    have hcall' : call' = call := by
      rw [AXEvent.calls_append, AXEvent.calls_mutation_cons, hlater] at hcall
      rcases List.mem_append.mp hcall with hmem | hmem
      · exact absurd ((hfront.idle call' hmem).symm.trans hdelivered) (by simp)
      · exact List.mem_singleton.mp hmem
    rw [hcall'] at hdelivered
    refine ⟨fun told hok => (h.told hdelivered told hok).imp_right (fun hread => ?_),
      h.owned hdelivered⟩
    exact ⟨hread.1, getLast?_notes_append _ hread.2⟩

/-- **What is seen of a mechanism.** Either it made no call, and was not used; or it made one,
and what its outcome tells of the call is right. A mechanism that was not used had no effect. -/
inductive MechanismReport (expanded : Bool) (operation : String) :
    Outcome AdapterError (Option DeliveryOutcome) → List (DisclosureEvent σ E) → Prop
  | unused : MechanismReport expanded operation (.ok none) []
  | notMade {seen : Outcome AdapterError (Option DeliveryOutcome)}
      (hseen : ∀ told, seen ≠ .ok told) :
    MechanismReport expanded operation seen []
  | declined {call : AXCall E} {state : σ} {later : List (DisclosureEvent σ E)}
      (hoperation : call.operation = operation) (hlater : AXEvent.calls later = [])
      (hstanding : call.standing = .notDelivered) :
    MechanismReport expanded operation (.ok none) (.mutation call state :: later)
  | made {call : AXCall E} {state : σ} {later : List (DisclosureEvent σ E)}
      {seen : Outcome AdapterError (Option DeliveryOutcome)}
      {o : Outcome AdapterError DeliveryOutcome} (hseen : seen = o.map some)
      (hoperation : call.operation = operation) (hlater : AXEvent.calls later = [])
      (htells : Tells expanded o call later) :
    MechanismReport expanded operation seen (.mutation call state :: later)

namespace MechanismReport

variable {expanded : Bool} {operation : String}
  {seen : Outcome AdapterError (Option DeliveryOutcome)} {events : List (DisclosureEvent σ E)}

theorem undelivered (h : MechanismReport expanded operation seen events) (hnone : seen = .ok none)
    (hoperation : operation ≠ "AXPress") : Undelivered events := by
  cases h with
  | unused => exact .nil
  | notMade hseen => exact absurd hnone (hseen none)
  | @declined call state later hcall hlater hstanding =>
    have hcalls : AXEvent.calls (.mutation call state :: later) = [call] := by
      rw [AXEvent.calls_mutation_cons, hlater]
    constructor
    · rw [hcalls]
      exact List.forall_mem_singleton.mpr hstanding
    · rw [hcalls, List.forall_mem_singleton, hcall]
      exact hoperation
  | made hseen =>
    obtain ⟨told, -, htold⟩ := Outcome.map_eq_ok_iff.mp (hseen.symm.trans hnone)
    cases htold

/-- **A run that ends with a mechanism**, as what is seen of it or as nothing delivered. -/
theorem ends (h : MechanismReport expanded operation seen events)
    {front : List (DisclosureEvent σ E)} (hfront : Undelivered front)
    (hpress : operation = "AXPress" → ReadOpposite expanded front)
    {outcome : Outcome AdapterError DeliveryOutcome}
    (houtcome : seen = outcome.map some ∨ seen = .ok none ∧ outcome = .ok .notDelivered) :
    DisclosureReport expanded outcome (front ++ events) := by
  cases h with
  | unused =>
    rcases houtcome with hmap | ⟨-, rfl⟩
    · obtain ⟨told, -, htold⟩ := Outcome.map_eq_ok_iff.mp hmap.symm
      cases htold
    · rw [List.append_nil]
      exact .of_undelivered hfront (by simp) (fun h => by simp at h)
  | notMade hseen =>
    rcases houtcome with hmap | ⟨hnone, -⟩
    · have hno : ∀ told, outcome ≠ .ok told := by
        rintro told rfl
        exact hseen (some told) hmap
      rw [List.append_nil]
      exact .of_undelivered hfront (hno _) (fun h => absurd h (hno _))
    · exact absurd hnone (hseen none)
  | declined hcall hlater hstanding =>
    rcases houtcome with hmap | ⟨-, rfl⟩
    · obtain ⟨told, -, htold⟩ := Outcome.map_eq_ok_iff.mp hmap.symm
      cases htold
    · refine .of_call hfront hlater (fun h => hpress (hcall.symm.trans h)) ⟨?_, ?_, ?_, ?_⟩
      · exact fun h => by simp at h
      · exact fun h => by simp at h
      · exact fun h => absurd (hstanding.symm.trans h) (by simp)
      · exact fun h => absurd (hstanding.symm.trans h) (by simp)
  | @made call state later _ outcome' hseen hcall hlater htells =>
    rcases houtcome with hmap | ⟨hnone, -⟩
    · obtain rfl := Outcome.map_injective (Option.some_injective _) (hseen.symm.trans hmap)
      exact .of_call hfront hlater (fun h => hpress (hcall.symm.trans h)) htells
    · obtain ⟨told, -, htold⟩ := Outcome.map_eq_ok_iff.mp (hseen.symm.trans hnone)
      cases htold

end MechanismReport

/-- **What a verification tells**: it makes no call, and its value rests on the last read. -/
structure Verification (expanded : Bool) (outcome : Outcome AdapterError DeliveryOutcome)
    (events : List (DisclosureEvent σ E)) : Prop where
  /-- No call is made. -/
  calls : AXEvent.calls events = []
  /-- The requested state was read, or no state was. -/
  told : ∀ told, outcome = .ok told →
    told = .deliveredVerified ∧ (AXEvent.notes events).getLast? = some (.ok (some expanded))
      ∨ told = .deliveredUnverified ∧ (AXEvent.notes events).getLast? = some (.ok none)

/-- Only a read that is neither the requested state nor the opposite one is left as it is. -/
theorem unobservedDelivery_eq_ok {state : Option Bool} {expanded : Bool} {told : DeliveryOutcome}
    (hstate : state ≠ some expanded) (h : unobservedDelivery state expanded = .ok told) :
    told = .deliveredUnverified ∧ state = none := by
  unfold unobservedDelivery at h
  split_ifs at h with hopposite
  obtain rfl := Except.ok.inj h
  refine ⟨rfl, ?_⟩
  cases state with
  | none => rfl
  | some state => cases state <;> cases expanded <;> simp at hstate hopposite

end Disclosure

namespace DisclosureWorld

open Disclosure

variable {σ E : Type} (world : DisclosureWorld σ E)

/-! ## Reading -/

theorem readDisclosed_quiet (element : E) (deadline : Deadline) :
    (world.readDisclosed element deadline).Quiet := by
  unfold readDisclosed fromOperation
  refine Prog.Quiet.bind ?_ (fun instant => ?_)
  · refine (Prog.Quiet.ask _).bind (fun now => ?_)
    split_ifs
    · exact Prog.Quiet.fail _
    · exact (Prog.Quiet.ask _).bind (fun _ => Prog.Quiet.pure _)
  refine (Prog.Quiet.call _).bind (fun explicit => ?_)
  cases explicit with
  | some value => exact Prog.Quiet.pure _
  | none =>
    refine (Prog.Quiet.call _).bind (fun disclosing => ?_)
    cases disclosing with
    | some value => exact Prog.Quiet.pure _
    | none =>
      refine (Prog.Quiet.call _).bind (fun role => ?_)
      split_ifs
      · exact Prog.Quiet.pure _
      · exact (Prog.Quiet.ask _).bind
          (fun _ => (Prog.Quiet.ofExcept _).bind (fun _ => Prog.Quiet.pure _))

theorem disclosedState_bind_sat {α : Type} {element : E} {deadline : Deadline}
    {f : Option Bool → Disclosing σ E α}
    {Ψ : Outcome AdapterError α → List (DisclosureEvent σ E) → Prop}
    (hok : ∀ state, (f state).Sat (fun o events => Ψ o (.noted (.ok state) :: events)))
    (herror : ∀ error, Ψ (.error error) [.noted (.error error)]) (hrunning : Ψ .running []) :
    (world.disclosedState element deadline >>= f).Sat Ψ :=
  (Prog.Quiet.recorded_sat (world.readDisclosed_quiet element deadline) .noted).bind
    (fun state _ h => by rw [show _ = _ from h]; exact hok state)
    (fun error _ h => by rw [show _ = _ from h]; exact herror error)
    (fun _ h => by rw [show _ = _ from h]; exact hrunning)

/-! ## Verifying -/

theorem verification_cons {expanded : Bool} {state : Option Bool}
    {outcome : Outcome AdapterError DeliveryOutcome} {events : List (DisclosureEvent σ E)}
    (h : Verification expanded outcome events) :
    Verification expanded outcome (.noted (.ok state) :: events) where
  calls := h.calls
  told := fun told hok => (h.told told hok).imp
    (fun hread => ⟨hread.1, getLast?_notes_append [.noted (.ok state)] hread.2⟩)
    (fun hread => ⟨hread.1, getLast?_notes_append [.noted (.ok state)] hread.2⟩)

theorem verification_of_error {expanded : Bool} (error : AdapterError)
    {events : List (DisclosureEvent σ E)} (h : AXEvent.calls events = []) :
    Verification expanded (.error error) events :=
  ⟨h, Outcome.of_error_eq_ok⟩

theorem verifyLoop_sat (element : E) (expanded : Bool) (deadline : Deadline) (localEnd fuel : ℕ) :
    (world.verifyLoop element expanded deadline localEnd fuel).Sat (Verification expanded) := by
  induction fuel with
  | zero => exact Prog.sat_cutOff ⟨rfl, fun _ h => nomatch h⟩
  | succ fuel ih =>
    unfold verifyLoop
    refine world.disclosedState_bind_sat (fun state => ?_)
      (fun error => verification_of_error _ rfl) ⟨rfl, fun _ h => nomatch h⟩
    by_cases hstate : state = some expanded
    · rw [if_pos hstate, hstate]
      refine Prog.sat_pure ⟨rfl, fun told hok => Or.inl ?_⟩
      obtain rfl := Outcome.ok.inj hok
      exact ⟨rfl, rfl⟩
    rw [if_neg hstate]
    refine Prog.sat_ask_bind (fun now => ?_)
    by_cases hexpired : deadline.isExpired now = true
    · rw [if_pos hexpired]
      exact Prog.sat_fail (verification_of_error _ rfl)
    rw [if_neg hexpired]
    refine Prog.sat_ask_bind (fun now => ?_)
    by_cases hend : localEnd ≤ now
    · rw [if_pos hend]
      refine Prog.sat_ofExcept (fun told hok => ?_) (fun _ _ => verification_of_error _ rfl)
      obtain ⟨rfl, rfl⟩ := unobservedDelivery_eq_ok hstate hok
      refine ⟨rfl, fun told hok => Or.inr ?_⟩
      obtain rfl := Outcome.ok.inj hok
      exact ⟨rfl, rfl⟩
    rw [if_neg hend]
    refine Prog.sat_ask_bind (fun now => Prog.sat_ofExcept_bind (fun pause _ => ?_)
      (fun _ _ => verification_of_error _ rfl))
    exact Prog.sat_ask_bind (fun _ => ih.mono (fun _ _ h => verification_cons h))

/-- **A verification rests on the last read.** -/
theorem verifyDisclosure_sat (element : E) (expanded : Bool) (deadline : Deadline) (fuel : ℕ) :
    (world.verifyDisclosure element expanded deadline fuel).Sat (Verification expanded) := by
  unfold verifyDisclosure
  exact Prog.sat_ask_bind (fun now => world.verifyLoop_sat element expanded deadline _ fuel)

/-! ## Acting -/

theorem owned_afterDelivery (error : AdapterError) :
    (afterDelivery error).disposition ≠ .notDelivered :=
  DeliveryTracker.disposition_annotate_of_delivered (Nat.succ_pos 0) error

/-- **A mechanism makes at most one call**, and what was delivered ends it. -/
theorem tryMechanism_sat {element el : E} {expanded : Bool} {deadline : Deadline} {fuel : ℕ}
    {operation : String} {api : AXApi} {mutate : Disclosing σ E Bool}
    (hmutate : mutate.Sat (MutationReport el operation api deadline)) :
    (world.tryMechanism element expanded deadline fuel mutate).Sat
      (MechanismReport expanded operation) := by
  unfold tryMechanism
  refine hmutate.bind (fun delivered events h => ?_) (fun error events h => ?_)
    (fun events h => absurd rfl h.ne_running)
  · cases h with
    | notAdvertised => exact Prog.sat_pure .unused
    | declined hstanding => exact Prog.sat_pure (.declined rfl rfl hstanding)
    | delivered hstanding =>
      refine Prog.Sat.mapError_bind (world.verifyDisclosure_sat element expanded deadline fuel)
        (fun told events h => ?_) (fun error events h => ?_) (fun events h => ?_)
      · have htold := h.told told rfl
        have hstop : stopIfDelivered told = some told := by
          rcases htold with ⟨rfl, -⟩ | ⟨rfl, -⟩ <;> rfl
        rw [hstop]
        refine Prog.sat_pure ?_
        rw [List.append_nil]
        refine .made (o := .ok told) rfl rfl h.calls
          ⟨fun hok => ?_, fun hok => ?_, ?_, fun _ => Outcome.of_ok_eq_error⟩
        · rcases htold with ⟨-, hread⟩ | ⟨rfl, -⟩
          · exact hread
          · exact absurd hok (by simp)
        · rcases htold with ⟨rfl, -⟩ | ⟨rfl, -⟩ <;> exact absurd hok (by simp)
        · rintro - told' hok
          obtain rfl := Outcome.ok.inj hok
          exact htold.imp_left And.left
      · refine .made (o := .error (afterDelivery error)) rfl rfl h.calls
          (.of_error (fun _ => ?_))
        exact owned_afterDelivery error
      · exact .made (o := .running) rfl rfl h.calls .of_running
  · cases h with
    | notMade => exact .notMade Outcome.of_error_eq_ok
    | refused hstanding | uncertain hstanding | declinedLate hstanding =>
      refine .made (o := .error error) rfl rfl rfl (.of_error (fun h => ?_))
      exact absurd (hstanding.symm.trans h) (by simp)
    | deliveredLate _ _ hdisposition =>
      refine .made (o := .error error) rfl rfl rfl (.of_error (fun _ => ?_))
      rw [hdisposition]
      simp

theorem setAxBoolOrErr_sat (element : E) (attr : String) (value : Bool) (deadline : Deadline) :
    (world.setAxBoolOrErr element attr value deadline).Sat
      (MutationReport (X := StateRead) element attr .setAttributeValue deadline) :=
  world.runMutation_sat attr .setAttributeValue deadline
    (world.setValue_sat element attr (.bool value) deadline)

/-- **A mechanism that is no press**, as a part of a run: it ends the run, or nothing was carried
out yet. -/
theorem mechanism_bind_sat {expanded : Bool} {operation : String}
    {mechanism : Disclosing σ E (Option DeliveryOutcome)}
    {f : Option DeliveryOutcome → Disclosing σ E DeliveryOutcome}
    {front : List (DisclosureEvent σ E)}
    (hmechanism : mechanism.Sat (MechanismReport expanded operation)) (hfront : Undelivered front)
    (hoperation : operation ≠ "AXPress") (hf : ∀ told, f (some told) = pure told)
    (hnone : ∀ events, Undelivered events → (f none).Sat (fun outcome later =>
      DisclosureReport expanded outcome (front ++ (events ++ later)))) :
    (mechanism >>= f).Sat (fun outcome events =>
      DisclosureReport expanded outcome (front ++ events)) := by
  have hpress : operation = "AXPress" → ReadOpposite expanded front :=
    fun h => absurd h hoperation
  refine hmechanism.bind (fun told events h => ?_)
    (fun error events h => h.ends hfront hpress (Or.inl rfl))
    (fun events h => h.ends hfront hpress (Or.inl rfl))
  cases told with
  | none => exact hnone events (h.undelivered rfl hoperation)
  | some told =>
    rw [hf]
    refine Prog.sat_pure ?_
    rw [List.append_nil]
    exact h.ends hfront hpress (Or.inl rfl)

theorem prepare_bind_sat {expanded : Bool} {element : E} {deadline : Deadline}
    {f : Unit → Disclosing σ E DeliveryOutcome} {front : List (DisclosureEvent σ E)}
    (hfront : Undelivered front)
    (hf : (f ()).Sat (fun outcome events => DisclosureReport expanded outcome (front ++ events))) :
    (world.prepareDisclosure element deadline >>= f).Sat (fun outcome events =>
      DisclosureReport expanded outcome (front ++ events)) := by
  have hnothing : ∀ {outcome : Outcome AdapterError DeliveryOutcome},
      (∀ told, outcome ≠ .ok told) → DisclosureReport expanded outcome (front ++ []) := by
    intro outcome hok
    rw [List.append_nil]
    exact .of_undelivered hfront (hok _) (fun h => absurd h (hok _))
  exact (Prog.Quiet.call _).bind_sat (fun _ => hf) (fun _ => hnothing (fun _ => nofun))
    (hnothing (fun _ => nofun))

/-- **The write** as a part of a run: it ends the run, or nothing was carried out yet. -/
theorem writeDisclosure_bind_sat {element : E} {expanded : Bool} {deadline : Deadline} {fuel : ℕ}
    {f : Option DeliveryOutcome → Disclosing σ E DeliveryOutcome}
    {front : List (DisclosureEvent σ E)} (hfront : Undelivered front)
    (hf : ∀ told, f (some told) = pure told)
    (hnone : ∀ events, Undelivered events → (f none).Sat (fun outcome later =>
      DisclosureReport expanded outcome (front ++ (events ++ later)))) :
    (world.writeDisclosure element expanded deadline fuel >>= f).Sat (fun outcome events =>
      DisclosureReport expanded outcome (front ++ events)) := by
  have hmechanism : (world.writeDisclosure element expanded deadline fuel).Sat
      (MechanismReport expanded "AXExpanded") := ?_
  · exact mechanism_bind_sat hmechanism hfront (by decide) hf hnone
  unfold writeDisclosure
  refine (Prog.Quiet.call _).bind_sat (fun _ => ?_) (fun _ => .notMade nofun)
    (.notMade nofun)
  refine (Prog.Quiet.call _).bind_sat (fun settable => ?_) (fun _ => .notMade nofun)
    (.notMade nofun)
  cases settable with
  | false => exact Prog.sat_pure .unused
  | true =>
    refine (Prog.Quiet.call _).bind_sat (fun _ => ?_) (fun _ => .notMade nofun)
      (.notMade nofun)
    exact world.tryMechanism_sat (world.setAxBoolOrErr_sat element "AXExpanded" expanded deadline)

/-- **The press** is made of the opposite state, as it was read first and just before. -/
theorem pressDisclosure_sat {element : E} {expanded allowToggle : Bool} {deadline : Deadline}
    {fuel : ℕ} {front : List (DisclosureEvent σ E)} (hfront : Undelivered front)
    (hallow : allowToggle = true → (AXEvent.notes front).head? = some (.ok (some (!expanded)))) :
    (world.pressDisclosure element expanded deadline fuel allowToggle).Sat (fun outcome events =>
      DisclosureReport expanded outcome (front ++ events)) := by
  have hnothing : ∀ {outcome : Outcome AdapterError DeliveryOutcome}
      {events : List (DisclosureEvent σ E)}, Undelivered events →
      outcome ≠ .ok .deliveredVerified → outcome ≠ .ok .satisfiedNoDelivery →
        DisclosureReport expanded outcome (front ++ events) :=
    fun hevents hverified hsatisfied =>
      .of_undelivered (hfront.append hevents) hverified (fun h => absurd h hsatisfied)
  unfold pressDisclosure
  cases allowToggle with
  | false => exact Prog.sat_pure (hnothing .nil nofun nofun)
  | true =>
    refine world.disclosedState_bind_sat (fun state => ?_)
      (fun error => hnothing (.noted _) nofun nofun) (hnothing .nil nofun nofun)
    by_cases hstate : state = some (!expanded)
    · rw [if_neg (not_not.mpr hstate), hstate]
      refine Prog.Sat.mono ?_ (fun outcome events h => by rw [List.append_cons]; exact h)
      have hfront' : Undelivered (front ++ [.noted (.ok (some (!expanded)))]) :=
        hfront.append (Undelivered.noted _)
      have hpress : ReadOpposite expanded (front ++ [.noted (.ok (some (!expanded)))]) := by
        refine ⟨?_, List.getLast?_concat⟩
        rw [AXEvent.notes_append, List.head?_append, hallow rfl, Option.some_or]
      refine world.prepare_bind_sat hfront' ?_
      refine (world.tryMechanism_sat (world.tryAxActionOrErr_sat element "AXPress" deadline)).bind
        (fun pressed events h => Prog.sat_pure ?_)
        (fun error events h => h.ends hfront' (fun _ => hpress) (Or.inl rfl))
        (fun events h => h.ends hfront' (fun _ => hpress) (Or.inl rfl))
      rw [List.append_nil]
      cases pressed with
      | none => exact h.ends hfront' (fun _ => hpress) (Or.inr ⟨rfl, rfl⟩)
      | some told => exact h.ends hfront' (fun _ => hpress) (Or.inl rfl)
    · rw [if_pos hstate]
      exact Prog.sat_pure (hnothing (.noted _) nofun nofun)

/-- **Expanding and collapsing act at most once.** However an element answers and whatever is read
of it, at most one call may have been carried out, a press is made only of the opposite state, and
what is returned says what was read and delivered. -/
theorem setDisclosure_acts_once (element : E) (expanded : Bool) (deadline : Deadline) (fuel : ℕ) :
    (world.setDisclosure element expanded deadline fuel).Sat (DisclosureReport expanded) := by
  unfold setDisclosure disclosurePlan
  refine world.disclosedState_bind_sat (fun state => ?_)
    (fun error => .of_undelivered (.noted _) nofun nofun) (.of_undelivered .nil nofun nofun)
  dsimp only
  by_cases hsatisfied : state = some expanded
  · rw [if_pos (beq_iff_eq.mpr hsatisfied)]
    exact Prog.sat_pure (.of_undelivered (.noted _) nofun (fun _ => rfl))
  rw [if_neg (fun h => hsatisfied (beq_iff_eq.mp h))]
  have hfront : Undelivered ([.noted (.ok state)] : List (DisclosureEvent σ E)) := .noted _
  refine world.prepare_bind_sat hfront ?_
  refine mechanism_bind_sat
    (world.tryMechanism_sat (world.tryAxActionOrErr_sat element _ deadline)) hfront
    (by cases expanded <;> decide) (fun _ => rfl) (fun events hevents => ?_)
  -- the action was not carried out
  refine Prog.Sat.mono ?_ (fun outcome events h => by rw [← List.append_assoc]; exact h)
  refine world.writeDisclosure_bind_sat (hfront.append hevents) (fun _ => rfl)
    (fun later hlater => ?_)
  refine Prog.Sat.mono (world.pressDisclosure_sat ((hfront.append hevents).append hlater) ?_)
    (fun outcome events h => by rw [← List.append_assoc]; exact h)
  intro hallow
  rw [beq_iff_eq.mp hallow, AXEvent.notes_append, AXEvent.notes_append, List.append_assoc,
    AXEvent.notes_noted_cons]
  rfl

end DisclosureWorld

end AgentDesktop
