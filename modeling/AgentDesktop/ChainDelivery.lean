import AgentDesktop.Error

/-!
# What a mutation came to

A step of an action reports one of five outcomes, and a failure is reported with
what is known of its delivery. A tracker counts the units that were delivered
before something failed: a failure that does not say it was delivered is
reported as not delivered if nothing was before it, and as delivered otherwise.
What a failure itself says of a delivery is kept.
-/

namespace AgentDesktop

/-! ## The outcome of a step -/

/-- `DeliveryOutcome`. -/
inductive DeliveryOutcome
  | notDelivered | satisfiedNoDelivery | deliveredUnverified | deliveredWithoutEffect
  | deliveredVerified
  deriving DecidableEq

namespace DeliveryOutcome

/-- `from_delivery`. -/
def fromDelivery (delivered verified : Bool) : DeliveryOutcome :=
  match delivered, verified with
  | false, _ => notDelivered
  | true, false => deliveredUnverified
  | true, true => deliveredVerified

/-- `was_delivered`. -/
def wasDelivered : DeliveryOutcome → Bool
  | deliveredUnverified | deliveredWithoutEffect | deliveredVerified => true
  | notDelivered | satisfiedNoDelivery => false

/-- `was_verified`. -/
def wasVerified : DeliveryOutcome → Bool
  | satisfiedNoDelivery | deliveredVerified => true
  | notDelivered | deliveredUnverified | deliveredWithoutEffect => false

/-- `terminates_chain`. -/
def terminatesChain (outcome : DeliveryOutcome) : Bool :=
  match outcome with
  | notDelivered | deliveredWithoutEffect => false
  | satisfiedNoDelivery | deliveredUnverified | deliveredVerified => true

@[simp] theorem wasDelivered_fromDelivery (delivered verified : Bool) :
    (fromDelivery delivered verified).wasDelivered = delivered := by
  cases delivered <;> cases verified <;> rfl

/-- **The outcomes a chain goes on after.** -/
theorem terminatesChain_eq_false_iff {outcome : DeliveryOutcome} :
    outcome.terminatesChain = false
      ↔ outcome = notDelivered ∨ outcome = deliveredWithoutEffect := by
  cases outcome <;> simp [terminatesChain]

end DeliveryOutcome

/-! ## What a failure is reported as -/

/-- **A failure that does not say that anything may have been delivered.** -/
def AdapterError.Silent (error : AdapterError) : Prop :=
  error.disposition = .unknown ∨ error.disposition = .notDelivered

/-- `DeliveryTracker`. -/
structure DeliveryTracker where
  /-- The units delivered so far. -/
  deliveredUnits : ℕ

namespace DeliveryTracker

/-- `DeliveryTracker::default`. -/
def empty : DeliveryTracker := ⟨0⟩

/-- `from_delivered_units`. -/
def fromDeliveredUnits (deliveredUnits : ℕ) : DeliveryTracker := ⟨deliveredUnits⟩

/-- `mark_delivered`; the count does not run out here. -/
def markDelivered (tracker : DeliveryTracker) : DeliveryTracker := ⟨tracker.deliveredUnits + 1⟩

/-- `annotate`. -/
def annotate (tracker : DeliveryTracker) (error : AdapterError) : AdapterError :=
  error.withDisposition
    (match error.disposition with
    | .deliveryUncertain | .deliveredUnverified | .deliveredVerified => error.disposition
    | .unknown | .notDelivered =>
      if tracker.deliveredUnits = 0 then .notDelivered else .deliveredUnverified)

/-- `uncertain`. -/
def uncertain (error : AdapterError) : AdapterError := error.withDisposition .deliveryUncertain

@[simp] theorem disposition_uncertain (error : AdapterError) :
    (uncertain error).disposition = .deliveryUncertain := rfl

@[simp] theorem deliveredUnits_markDelivered (tracker : DeliveryTracker) :
    tracker.markDelivered.deliveredUnits = tracker.deliveredUnits + 1 := rfl

/-- **An annotated failure is reported as not delivered exactly when nothing was delivered before
it, and it does not say otherwise itself.** -/
theorem disposition_annotate_eq_notDelivered_iff (tracker : DeliveryTracker)
    (error : AdapterError) :
    (tracker.annotate error).disposition = .notDelivered
      ↔ tracker.deliveredUnits = 0 ∧ error.Silent := by
  unfold annotate AdapterError.Silent
  rw [AdapterError.disposition_withDisposition]
  cases error.disposition <;> by_cases hunits : tracker.deliveredUnits = 0 <;> simp [hunits]

theorem disposition_annotate_of_delivered {tracker : DeliveryTracker}
    (h : 0 < tracker.deliveredUnits) (error : AdapterError) :
    (tracker.annotate error).disposition ≠ .notDelivered :=
  fun hnot => h.ne' ((tracker.disposition_annotate_eq_notDelivered_iff error).mp hnot).1

theorem disposition_annotate_of_said {error : AdapterError} (tracker : DeliveryTracker)
    (hunknown : error.disposition ≠ .unknown) (hnot : error.disposition ≠ .notDelivered) :
    (tracker.annotate error).disposition = error.disposition := by
  unfold annotate
  rw [AdapterError.disposition_withDisposition]
  cases h : error.disposition with
  | unknown => exact absurd h hunknown
  | notDelivered => exact absurd h hnot
  | deliveryUncertain | deliveredUnverified | deliveredVerified => rfl

end DeliveryTracker

end AgentDesktop
