import Mathlib.Data.List.Basic

/-!
# Programs that act on an environment

A program asks an environment for answers, may fail, and records events on its
way. The environment is any state with operations on it, so what holds of every
environment holds for every behaviour of the world outside. A loop that has not
ended yet leaves the program *running*, with the events recorded so far.

A specification `Sat` speaks of the outcome and of the events. The rules below
prove it along the structure of a program: the events of a sequence are those
of its parts, one after the other, and a *quiet* program records none.
-/

/-- **How a program ends**, as far as it has been run. -/
inductive Outcome (ε α : Type)
  /-- With a value. -/
  | ok (value : α)
  | error (error : ε)
  /-- It has not ended yet. -/
  | running
  deriving DecidableEq

namespace Outcome

variable {ε ε' α β : Type}

/-- Whether a program has ended with a value. -/
def isOk : Outcome ε α → Bool
  | ok _ => true
  | error _ | running => false

/-- Changing the value. -/
def map (f : α → β) : Outcome ε α → Outcome ε β
  | ok a => ok (f a)
  | error e => error e
  | running => running

/-- Changing the error. -/
def mapError (f : ε → ε') : Outcome ε α → Outcome ε' α
  | ok a => ok a
  | error e => error (f e)
  | running => running

theorem map_eq_ok_iff {f : α → β} {o : Outcome ε α} {b : β} :
    o.map f = ok b ↔ ∃ a, o = ok a ∧ f a = b := by
  cases o with
  | ok a => exact ⟨fun h => ⟨a, rfl, ok.inj h⟩, fun ⟨_, ha, hb⟩ => by rw [ok.inj ha, ← hb]; rfl⟩
  | error e => exact ⟨fun h => (nomatch h), fun ⟨_, ha, _⟩ => (nomatch ha)⟩
  | running => exact ⟨fun h => (nomatch h), fun ⟨_, ha, _⟩ => (nomatch ha)⟩

/-- The value a program has ended with. -/
def value? : Outcome ε α → Option α
  | ok a => some a
  | error _ | running => none

theorem eq_ok_of_value? {o : Outcome ε α} {a : α} (h : o.value? = some a) : o = ok a := by
  cases o with
  | ok b => exact congrArg ok (Option.some.inj h)
  | error e => cases h
  | running => cases h

theorem map_injective {f : α → β} (hf : Function.Injective f) :
    Function.Injective (map f : Outcome ε α → Outcome ε β) := by
  intro o o' h
  cases o with
  | ok a =>
    obtain ⟨a', rfl, ha⟩ := map_eq_ok_iff.mp h.symm
    rw [hf ha]
  | error e => cases o' <;> cases h; rfl
  | running => cases o' <;> cases h; rfl

theorem of_error_eq_ok {e : ε} {P : α → Prop} (a : α) (h : (error e : Outcome ε α) = ok a) :
    P a :=
  nomatch h

theorem of_ok_eq_error {a : α} {P : ε → Prop} (e : ε) (h : (ok a : Outcome ε α) = error e) :
    P e :=
  nomatch h

end Outcome

/-- **A program**: from a state of the environment to the outcome, the state it leaves,
and the events it records. -/
def Prog (σ Ev ε α : Type) : Type := σ → Outcome ε α × σ × List Ev

namespace Prog

variable {σ Ev ε ε' α β : Type}

/-- The program that is over at once. -/
def done (o : Outcome ε α) : Prog σ Ev ε α := fun s => (o, s, [])

/-- One program after another: the second runs when the first ends with a value. -/
def andThen (p : Prog σ Ev ε α) (f : α → Prog σ Ev ε β) : Prog σ Ev ε β := fun s =>
  match p s with
  | (.ok a, s', events) => ((f a s').1, (f a s').2.1, events ++ (f a s').2.2)
  | (.error e, s', events) => (.error e, s', events)
  | (.running, s', events) => (.running, s', events)

instance : Monad (Prog σ Ev ε) where
  pure a := done (.ok a)
  bind := andThen

/-- Failing. -/
def fail (e : ε) : Prog σ Ev ε α := done (.error e)

/-- Not ending yet. -/
def cutOff : Prog σ Ev ε α := done .running

/-- What is known already. -/
def ofExcept : Except ε α → Prog σ Ev ε α
  | .ok a => done (.ok a)
  | .error e => done (.error e)

/-- An answer of the environment. -/
def ask (op : σ → α × σ) : Prog σ Ev ε α := fun s => (.ok (op s).1, (op s).2, [])

/-- Recording an event. -/
def emit (event : Ev) : Prog σ Ev ε Unit := fun s => (.ok (), s, [event])

/-- An operation of the environment that may fail. -/
def call (op : σ → Except ε α × σ) : Prog σ Ev ε α := do ofExcept (← ask op)

/-- An operation of the environment whose answer is recorded. -/
def recordedCall (event : Except ε α → Ev) (op : σ → Except ε α × σ) : Prog σ Ev ε α := do
  let answer ← ask op
  emit (event answer)
  ofExcept answer

/-- Turning an error into a value. -/
def attempt (p : Prog σ Ev ε α) : Prog σ Ev ε' (Except ε α) := fun s =>
  match p s with
  | (.ok a, s', events) => (.ok (.ok a), s', events)
  | (.error e, s', events) => (.ok (.error e), s', events)
  | (.running, s', events) => (.running, s', events)

/-- Changing the error. -/
def mapError (f : ε → ε') (p : Prog σ Ev ε α) : Prog σ Ev ε' α := fun s =>
  ((p s).1.mapError f, (p s).2.1, (p s).2.2)

/-- A program whose events are events of a larger record. -/
def mapEvents {Ev' : Type} (f : Ev → Ev') (p : Prog σ Ev ε α) : Prog σ Ev' ε α := fun s =>
  ((p s).1, (p s).2.1, (p s).2.2.map f)

/-- A program that is one event of a larger record, with how it ended and what it recorded. -/
def boxed {Ev' : Type} (f : Outcome ε α → List Ev → Ev') (p : Prog σ Ev ε α) : Prog σ Ev' ε α :=
  fun s => ((p s).1, (p s).2.1, [f (p s).1 (p s).2.2])

/-- A program whose events are left out of a larger record. -/
def unrecorded {Ev' : Type} (p : Prog σ Ev ε α) : Prog σ Ev' ε α := fun s =>
  ((p s).1, (p s).2.1, [])

/-- How a program ends from a state. -/
def outcome (p : Prog σ Ev ε α) (s : σ) : Outcome ε α := (p s).1

/-- The state a program leaves. -/
def state (p : Prog σ Ev ε α) (s : σ) : σ := (p s).2.1

/-- What a program records from a state. -/
def events (p : Prog σ Ev ε α) (s : σ) : List Ev := (p s).2.2

theorem bind_assoc {γ : Type} (p : Prog σ Ev ε α) (f : α → Prog σ Ev ε β)
    (g : β → Prog σ Ev ε γ) : p >>= f >>= g = p >>= fun a => f a >>= g := by
  funext s
  show andThen (andThen p f) g s = andThen p (fun a => andThen (f a) g) s
  unfold andThen
  rcases p s with ⟨o, s', events⟩
  cases o with
  | ok a =>
    rcases hf : f a s' with ⟨o', s'', events'⟩
    cases o' <;> simp only [hf, List.append_assoc]
  | error e => rfl
  | running => rfl

theorem mapEvents_bind {Ev' : Type} (g : Ev → Ev') (p : Prog σ Ev ε α) (f : α → Prog σ Ev ε β) :
    (p >>= f).mapEvents g = p.mapEvents g >>= fun a => (f a).mapEvents g := by
  funext s
  show Prog.mapEvents g (andThen p f) s = andThen (p.mapEvents g) (fun a => (f a).mapEvents g) s
  unfold mapEvents andThen
  rcases hp : p s with ⟨o, s', events⟩
  cases o <;> simp only [hp, List.map_append]

theorem mapEvents_ofExcept {Ev' : Type} (g : Ev → Ev') (x : Except ε α) :
    (ofExcept x : Prog σ Ev ε α).mapEvents g = ofExcept x := by
  cases x <;> rfl

theorem mapEvents_ask {Ev' : Type} (g : Ev → Ev') (op : σ → α × σ) :
    (ask op : Prog σ Ev ε α).mapEvents g = ask op := rfl

theorem mapEvents_call {Ev' : Type} (g : Ev → Ev') (op : σ → Except ε α × σ) :
    (call op : Prog σ Ev ε α).mapEvents g = call op := by
  unfold call
  rw [mapEvents_bind]
  exact congrArg (fun f => ask op >>= f) (funext fun x => mapEvents_ofExcept g x)

theorem ask_bind_apply (op : σ → α × σ) (f : α → Prog σ Ev ε β) (s : σ) :
    (ask op >>= f) s = f (op s).1 (op s).2 := rfl

theorem bind_apply_of_ok {p : Prog σ Ev ε α} (f : α → Prog σ Ev ε β) {a : α} {s s' : σ}
    (h : p s = (.ok a, s', [])) : (p >>= f) s = f a s' := by
  have hrun : (p >>= f) s = andThen p f s := rfl
  rw [hrun]
  unfold andThen
  rw [h]
  rfl

theorem bind_apply_of_running {p : Prog σ Ev ε α} (f : α → Prog σ Ev ε β) {s s' : σ}
    {events : List Ev} (h : p s = (.running, s', events)) :
    (p >>= f) s = (.running, s', events) := by
  have hrun : (p >>= f) s = andThen p f s := rfl
  rw [hrun]
  unfold andThen
  rw [h]

/-- What follows an attempt of a recorded call runs from the state the call leaves, and the
call is recorded. -/
theorem attempt_recordedCall_bind_apply (event : Except ε α → Ev) (op : σ → Except ε α × σ)
    (f : Except ε α → Prog σ Ev ε' β) (s : σ) :
    ((recordedCall event op).attempt >>= f) s
      = ((f (op s).1).outcome (op s).2, (f (op s).1).state (op s).2,
          event (op s).1 :: (f (op s).1).events (op s).2) := by
  have hcall : ((recordedCall event op).attempt : Prog σ Ev ε' _) s
      = (.ok (op s).1, (op s).2, [event (op s).1]) := by
    unfold attempt recordedCall
    rw [ask_bind_apply]
    cases (op s).1 <;> rfl
  show andThen (recordedCall event op).attempt f s = _
  unfold andThen
  rw [hcall]
  rfl

theorem ofExcept_state (x : Except ε α) (s : σ) :
    (ofExcept x : Prog σ Ev ε α).state s = s := by
  cases x <;> rfl

theorem eq_ok_of_outcome_ofExcept {x : Except ε α} {a : α} {s : σ}
    (h : (ofExcept x : Prog σ Ev ε α).outcome s = .ok a) : x = .ok a := by
  cases x with
  | ok b => exact congrArg Except.ok (Outcome.ok.inj h)
  | error e => nomatch h

theorem ok_of_outcome_bind {p : Prog σ Ev ε α} {f : α → Prog σ Ev ε β} {b : β} {s : σ}
    (h : (p >>= f).outcome s = .ok b) :
    ∃ a, p.outcome s = .ok a ∧ (f a).outcome (p.state s) = .ok b
      ∧ (p >>= f).state s = (f a).state (p.state s) := by
  have hrun : (p >>= f) s = andThen p f s := rfl
  unfold outcome at h
  unfold outcome state
  rw [hrun] at h ⊢
  unfold andThen at h ⊢
  match hp : p s with
  | (.ok a, s', events) =>
    rw [hp] at h
    exact ⟨a, rfl, h, rfl⟩
  | (.error e, s', events) =>
    rw [hp] at h
    nomatch h
  | (.running, s', events) =>
    rw [hp] at h
    nomatch h

theorem bind_of_outcome_ok {p : Prog σ Ev ε α} (f : α → Prog σ Ev ε β) {a : α} {s : σ}
    (h : p.outcome s = .ok a) :
    (p >>= f).outcome s = (f a).outcome (p.state s)
      ∧ (p >>= f).events s = p.events s ++ (f a).events (p.state s) := by
  have hrun : (p >>= f) s = andThen p f s := rfl
  unfold outcome at h
  unfold outcome events state
  rw [hrun]
  unfold andThen
  match hp : p s with
  | (.ok b, s', events) =>
    rw [hp] at h
    obtain rfl := Outcome.ok.inj h
    exact ⟨rfl, rfl⟩
  | (.error e, s', events) =>
    rw [hp] at h
    nomatch h
  | (.running, s', events) =>
    rw [hp] at h
    nomatch h

/-- **A specification** of the outcome and the events, in every environment. -/
def Sat (p : Prog σ Ev ε α) (Φ : Outcome ε α → List Ev → Prop) : Prop :=
  ∀ s, Φ (p.outcome s) (p.events s)

variable {p : Prog σ Ev ε α} {f : α → Prog σ Ev ε β} {Φ Φ' : Outcome ε α → List Ev → Prop}
  {Ψ : Outcome ε β → List Ev → Prop}

theorem Sat.mono (h : p.Sat Φ) (himp : ∀ o events, Φ o events → Φ' o events) : p.Sat Φ' :=
  fun s => himp _ _ (h s)

theorem sat_done {o : Outcome ε α} (h : Φ o []) : (done o : Prog σ Ev ε α).Sat Φ := fun _ => h

theorem sat_pure {a : α} (h : Φ (.ok a) []) : (pure a : Prog σ Ev ε α).Sat Φ := fun _ => h

theorem sat_fail {e : ε} (h : Φ (.error e) []) : (fail e : Prog σ Ev ε α).Sat Φ := fun _ => h

theorem sat_cutOff (h : Φ .running []) : (cutOff : Prog σ Ev ε α).Sat Φ := fun _ => h

theorem sat_ask {op : σ → α × σ} (h : ∀ a, Φ (.ok a) []) : (ask op : Prog σ Ev ε α).Sat Φ :=
  fun s => h (op s).1

theorem sat_ofExcept {x : Except ε α} (hok : ∀ a, x = .ok a → Φ (.ok a) [])
    (herror : ∀ e, x = .error e → Φ (.error e) []) :
    (ofExcept x : Prog σ Ev ε α).Sat Φ := by
  cases x with
  | ok a => exact sat_done (hok a rfl)
  | error e => exact sat_done (herror e rfl)

/-- **The rule of sequence**: the events of the second part follow those of the
first. -/
theorem Sat.bind (hp : p.Sat Φ)
    (hok : ∀ a events, Φ (.ok a) events → (f a).Sat (fun o events' => Ψ o (events ++ events')))
    (herror : ∀ e events, Φ (.error e) events → Ψ (.error e) events)
    (hrunning : ∀ events, Φ .running events → Ψ .running events) : (p >>= f).Sat Ψ := by
  intro s
  show Ψ (andThen p f s).1 (andThen p f s).2.2
  have hs : Φ (p s).1 (p s).2.2 := hp s
  unfold andThen
  match h : p s with
  | (.ok a, s', events) =>
    rw [h] at hs
    exact hok a events hs s'
  | (.error e, s', events) =>
    rw [h] at hs
    exact herror e events hs
  | (.running, s', events) =>
    rw [h] at hs
    exact hrunning events hs

theorem sat_ask_bind {op : σ → α × σ} (h : ∀ a, (f a).Sat Ψ) : (ask op >>= f).Sat Ψ :=
  (sat_ask (Φ := fun o events => (∃ a, o = .ok a) ∧ events = []) (fun a => ⟨⟨a, rfl⟩, rfl⟩)).bind
    (fun a events hevents => by rw [hevents.2]; exact h a)
    (fun _ _ hevents => absurd hevents.1 (by simp))
    (fun _ hevents => absurd hevents.1 (by simp))

theorem sat_emit_bind {event : Ev} {g : Unit → Prog σ Ev ε β}
    (h : (g ()).Sat (fun o events => Ψ o (event :: events))) : (emit event >>= g).Sat Ψ :=
  fun s => h s

theorem Sat.attempt {Φ' : Outcome ε' (Except ε α) → List Ev → Prop} (hp : p.Sat Φ)
    (hok : ∀ a events, Φ (.ok a) events → Φ' (.ok (.ok a)) events)
    (herror : ∀ e events, Φ (.error e) events → Φ' (.ok (.error e)) events)
    (hrunning : ∀ events, Φ .running events → Φ' .running events) :
    (p.attempt : Prog σ Ev ε' _).Sat Φ' := by
  intro s
  have hs : Φ (p s).1 (p s).2.2 := hp s
  unfold Prog.outcome Prog.events Prog.attempt
  match h : p s with
  | (.ok a, s', events) => rw [h] at hs; exact hok a events hs
  | (.error e, s', events) => rw [h] at hs; exact herror e events hs
  | (.running, s', events) => rw [h] at hs; exact hrunning events hs

theorem Sat.mapError {g : ε → ε'} {Φ' : Outcome ε' α → List Ev → Prop}
    (hp : p.Sat (fun o events => Φ' (o.mapError g) events)) : (p.mapError g).Sat Φ' :=
  fun s => hp s

theorem Sat.mapError_bind {g : ε → ε'} {f : α → Prog σ Ev ε' β}
    {Ψ : Outcome ε' β → List Ev → Prop} (hp : p.Sat Φ)
    (hok : ∀ a events, Φ (.ok a) events → (f a).Sat (fun o events' => Ψ o (events ++ events')))
    (herror : ∀ e events, Φ (.error e) events → Ψ (.error (g e)) events)
    (hrunning : ∀ events, Φ .running events → Ψ .running events) : (p.mapError g >>= f).Sat Ψ := by
  refine Sat.bind (Φ := fun o events => match o with
      | .ok a => Φ (.ok a) events
      | .error e' => ∃ e, e' = g e ∧ Φ (.error e) events
      | .running => Φ .running events)
    (Sat.mapError (hp.mono (fun o events h => ?_))) hok ?_ hrunning
  · cases o with
    | ok a => exact h
    | error e => exact ⟨e, rfl, h⟩
    | running => exact h
  · rintro e' events ⟨e, rfl, h⟩
    exact herror e events h

theorem Sat.mapEvents {Ev' : Type} {g : Ev → Ev'} {Φ' : Outcome ε α → List Ev' → Prop}
    (hp : p.Sat (fun o events => Φ' o (events.map g))) : (p.mapEvents g).Sat Φ' :=
  fun s => hp s

theorem Sat.boxed {Ev' : Type} {g : Outcome ε α → List Ev → Ev'}
    {Φ' : Outcome ε α → List Ev' → Prop} (hp : p.Sat (fun o events => Φ' o [g o events])) :
    (p.boxed g).Sat Φ' :=
  fun s => hp s

theorem sat_recordedCall {event : Except ε α → Ev} {op : σ → Except ε α × σ}
    (hok : ∀ a, Φ (.ok a) [event (.ok a)])
    (herror : ∀ e, Φ (.error e) [event (.error e)]) : (recordedCall event op).Sat Φ := by
  refine sat_ask_bind (fun answer => sat_emit_bind ?_)
  exact sat_ofExcept (fun a ha => ha ▸ hok a) (fun e he => he ▸ herror e)

theorem recordedCall_sat (event : Except ε α → Ev) (op : σ → Except ε α × σ) :
    (recordedCall event op).Sat (fun o events =>
      match o with
      | .ok a => events = [event (.ok a)]
      | .error e => events = [event (.error e)]
      | .running => False) :=
  sat_recordedCall (fun _ => rfl) (fun _ => rfl)

theorem sat_recordedCall_bind {event : Except ε α → Ev} {op : σ → Except ε α × σ}
    (hok : ∀ a, (f a).Sat (fun o events => Ψ o (event (.ok a) :: events)))
    (herror : ∀ e, Ψ (.error e) [event (.error e)]) : (recordedCall event op >>= f).Sat Ψ :=
  (recordedCall_sat event op).bind (fun a _ h => by rw [h]; exact hok a)
    (fun e _ h => by rw [h]; exact herror e) (fun _ h => h.elim)

theorem Sat.attempt_bind {g : Except ε α → Prog σ Ev ε' β} {Ψ : Outcome ε' β → List Ev → Prop}
    (hp : p.Sat Φ)
    (hok : ∀ a events, Φ (.ok a) events →
      (g (.ok a)).Sat (fun o events' => Ψ o (events ++ events')))
    (herror : ∀ e events, Φ (.error e) events →
      (g (.error e)).Sat (fun o events' => Ψ o (events ++ events')))
    (hrunning : ∀ events, Φ .running events → Ψ .running events) : (p.attempt >>= g).Sat Ψ := by
  refine Sat.bind (Φ := fun (o : Outcome ε' (Except ε α)) events => match o with
      | .ok (.ok a) => Φ (.ok a) events
      | .ok (.error e) => Φ (.error e) events
      | .error _ => False
      | .running => Φ .running events)
    (hp.attempt (fun _ _ h => h) (fun _ _ h => h) (fun _ h => h)) ?_ (fun _ _ h => h.elim)
    hrunning
  intro answer events h
  cases answer with
  | ok a => exact hok a events h
  | error e => exact herror e events h

theorem sat_attempt_recordedCall_bind {event : Except ε α → Ev} {op : σ → Except ε α × σ}
    {g : Except ε α → Prog σ Ev ε' β} {Ψ : Outcome ε' β → List Ev → Prop}
    (h : ∀ answer, (g answer).Sat (fun o events => Ψ o (event answer :: events))) :
    ((recordedCall event op).attempt >>= g).Sat Ψ :=
  (recordedCall_sat event op).attempt_bind (fun a _ hevents => by rw [hevents]; exact h (.ok a))
    (fun e _ hevents => by rw [hevents]; exact h (.error e)) (fun _ hevents => hevents.elim)

theorem sat_mapError_recordedCall_bind {event : Except ε α → Ev} {op : σ → Except ε α × σ}
    {g : ε → ε'} {f : α → Prog σ Ev ε' β} {Ψ : Outcome ε' β → List Ev → Prop}
    (hok : ∀ a, (f a).Sat (fun o events => Ψ o (event (.ok a) :: events)))
    (herror : ∀ e, Ψ (.error (g e)) [event (.error e)]) :
    ((recordedCall event op).mapError g >>= f).Sat Ψ :=
  (recordedCall_sat event op).mapError_bind (fun a _ h => by rw [h]; exact hok a)
    (fun e _ h => by rw [h]; exact herror e) (fun _ h => h.elim)

theorem sat_ofExcept_bind {x : Except ε α} (hok : ∀ a, x = .ok a → (f a).Sat Ψ)
    (herror : ∀ e, x = .error e → Ψ (.error e) []) : (ofExcept x >>= f).Sat Ψ := by
  cases x with
  | ok a => exact fun s => hok a rfl s
  | error e => exact fun _ => herror e rfl

theorem sat_mapError_call_bind {op : σ → Except ε α × σ} {g : ε → ε'} {f : α → Prog σ Ev ε' β}
    {Ψ : Outcome ε' β → List Ev → Prop} (hok : ∀ a, (f a).Sat Ψ)
    (herror : ∀ e, Ψ (.error (g e)) []) : ((call op).mapError g >>= f).Sat Ψ := by
  intro s
  have hrun : ((call op).mapError g >>= f) s
      = match (op s).1 with
        | .ok a => f a (op s).2
        | .error e => (.error (g e), (op s).2, []) := by
    show andThen ((call op).mapError g) f s = _
    unfold andThen mapError call
    rw [ask_bind_apply]
    cases (op s).1 <;> rfl
  unfold outcome events
  rw [hrun]
  cases (op s).1 with
  | ok a => exact hok a (op s).2
  | error e => exact herror e

/-! ## Quiet programs -/

/-- One event for an answer, and none without. -/
def Recorded (event : Except ε α → Ev) : Outcome ε α → List Ev → Prop
  | .ok a, events => events = [event (.ok a)]
  | .error e, events => events = [event (.error e)]
  | .running, events => events = []

/-- **A quiet program** records nothing. -/
def Quiet (p : Prog σ Ev ε α) : Prop := p.Sat (fun _ events => events = [])

namespace Quiet

theorem done (o : Outcome ε α) : (Prog.done o : Prog σ Ev ε α).Quiet := sat_done rfl

theorem pure (a : α) : (pure a : Prog σ Ev ε α).Quiet := sat_pure rfl

theorem fail (e : ε) : (Prog.fail e : Prog σ Ev ε α).Quiet := sat_fail rfl

theorem cutOff : (Prog.cutOff : Prog σ Ev ε α).Quiet := sat_cutOff rfl

theorem ask (op : σ → α × σ) : (Prog.ask op : Prog σ Ev ε α).Quiet := sat_ask (fun _ => rfl)

theorem ofExcept (x : Except ε α) : (Prog.ofExcept x : Prog σ Ev ε α).Quiet :=
  sat_ofExcept (fun _ _ => rfl) (fun _ _ => rfl)

theorem unrecorded {Ev' : Type} (p : Prog σ Ev' ε α) : (p.unrecorded : Prog σ Ev ε α).Quiet :=
  fun _ => rfl

theorem bind (hp : p.Quiet) (hf : ∀ a, (f a).Quiet) : (p >>= f).Quiet :=
  Sat.bind hp (fun a _ hevents => by rw [hevents]; exact hf a) (fun _ _ h => h) (fun _ h => h)

theorem call (op : σ → Except ε α × σ) : (Prog.call op : Prog σ Ev ε α).Quiet :=
  (Quiet.ask op).bind Quiet.ofExcept

theorem attempt (hp : p.Quiet) : (p.attempt : Prog σ Ev ε' _).Quiet :=
  Sat.attempt hp (fun _ _ h => h) (fun _ _ h => h) (fun _ h => h)

theorem mapError (hp : p.Quiet) (g : ε → ε') : (p.mapError g).Quiet := Sat.mapError hp

theorem bind_sat (hp : p.Quiet) (hok : ∀ a, (f a).Sat Ψ) (herror : ∀ e, Ψ (.error e) [])
    (hrunning : Ψ .running []) : (p >>= f).Sat Ψ :=
  Sat.bind hp (fun a _ hevents => by rw [hevents]; exact hok a)
    (fun e _ hevents => hevents ▸ herror e) (fun _ hevents => hevents ▸ hrunning)

theorem mapError_bind_sat {g : ε → ε'} {f : α → Prog σ Ev ε' β}
    {Ψ : Outcome ε' β → List Ev → Prop} (hp : p.Quiet) (hok : ∀ a, (f a).Sat Ψ)
    (herror : ∀ e, Ψ (.error (g e)) []) (hrunning : Ψ .running []) :
    (p.mapError g >>= f).Sat Ψ :=
  Sat.mapError_bind hp (fun a _ hevents => by rw [hevents]; exact hok a)
    (fun e _ hevents => hevents ▸ herror e) (fun _ hevents => hevents ▸ hrunning)

theorem recorded_sat (hp : p.Quiet) (event : Except ε α → Ev) :
    (p.attempt >>= fun answer => emit (event answer) >>= fun _ => Prog.ofExcept answer :
      Prog σ Ev ε α).Sat (Recorded event) := by
  refine Sat.attempt_bind hp (fun a events h => ?_) (fun e events h => ?_) (fun _ h => h)
  · rw [h]
    exact sat_emit_bind (sat_done rfl)
  · rw [h]
    exact sat_emit_bind (sat_done rfl)

theorem sat (hp : p.Quiet) (h : ∀ o, Φ o []) : p.Sat Φ :=
  Sat.mono hp (fun o _ hevents => hevents ▸ h o)

end Quiet

/-! ## Recording some events only -/

/-- A program whose events are all of a kind. -/
def Only (P : Ev → Prop) (p : Prog σ Ev ε α) : Prop :=
  p.Sat (fun _ events => ∀ event ∈ events, P event)

variable {P : Ev → Prop}

theorem Quiet.only (hp : p.Quiet) : p.Only P :=
  Sat.mono hp (fun _ _ h => by rw [h]; exact fun _ hevent => absurd hevent (by simp))

theorem Only.emit {event : Ev} (h : P event) : (emit event : Prog σ Ev ε Unit).Only P :=
  fun _ => List.forall_mem_singleton.mpr h

theorem Only.attempt (hp : p.Only P) : (p.attempt : Prog σ Ev ε' _).Only P :=
  Sat.attempt hp (fun _ _ h => h) (fun _ _ h => h) (fun _ h => h)

theorem Only.bind (hp : p.Only P) (hf : ∀ a, (f a).Only P) : (p >>= f).Only P :=
  Sat.bind hp (fun a _ hevents => (hf a).mono (fun _ _ h event hevent =>
    (List.mem_append.mp hevent).elim (hevents event) (h event))) (fun _ _ h => h) (fun _ h => h)

/-! ## Recording a success -/

/-- One event for a value, and none for a failure. -/
def OnOk (event : α → Ev) : Outcome ε α → List Ev → Prop
  | .ok a, events => events = [event a]
  | .error _, events | .running, events => events = []

theorem OnOk.mapError {event : α → Ev} {o : Outcome ε α} {events : List Ev}
    (h : OnOk event o events) (g : ε → ε') : OnOk event (o.mapError g) events := by
  cases o <;> exact h

theorem OnOk.only {event : α → Ev} (hp : p.Sat (OnOk event)) (h : ∀ a, P (event a)) :
    p.Only P := by
  refine Sat.mono hp (fun o events hevents => ?_)
  cases o with
  | ok a =>
    rw [show events = [event a] from hevents]
    exact List.forall_mem_singleton.mpr (h a)
  | error _ | running =>
    rw [show events = [] from hevents]
    exact fun _ hevent => absurd hevent (by simp)

theorem sat_record (hp : p.Quiet) (event : α → Ev) :
    (p >>= fun a => emit (event a) >>= fun _ => pure a).Sat (OnOk event) :=
  hp.bind_sat (fun _ => sat_emit_bind (sat_pure rfl)) (fun _ => rfl) rfl

/-! ## Sure programs -/

/-- **A sure program** records nothing and ends with a value. -/
def Sure (p : Prog σ Ev ε α) : Prop := p.Sat (fun o events => (∃ a, o = .ok a) ∧ events = [])

namespace Sure

theorem pure (a : α) : (pure a : Prog σ Ev ε α).Sure := sat_pure ⟨⟨a, rfl⟩, rfl⟩

theorem ask (op : σ → α × σ) : (Prog.ask op : Prog σ Ev ε α).Sure :=
  sat_ask (fun a => ⟨⟨a, rfl⟩, rfl⟩)

theorem quiet (hp : p.Sure) : p.Quiet := Sat.mono hp (fun _ _ h => h.2)

theorem mapError (hp : p.Sure) (g : ε → ε') : (p.mapError g).Sure :=
  Sat.mapError (Sat.mono hp (fun _ _ h => ⟨h.1.imp (fun _ ha => by rw [ha]; rfl), h.2⟩))

theorem exists_run (hp : p.Sure) (s : σ) : ∃ a s', p s = (.ok a, s', []) := by
  obtain ⟨⟨a, ha⟩, hevents⟩ := hp s
  exact ⟨a, p.state s, Prod.ext ha (Prod.ext rfl hevents)⟩

theorem bind_sat (hp : p.Sure) (hok : ∀ a, (f a).Sat Ψ) : (p >>= f).Sat Ψ :=
  Sat.bind hp (fun a _ h => by rw [h.2]; exact hok a)
    (fun _ _ h => absurd h.1 (by simp)) (fun _ h => absurd h.1 (by simp))

theorem bind (hp : p.Sure) (hf : ∀ a, (f a).Sure) : (p >>= f).Sure := hp.bind_sat hf

end Sure

end Prog
