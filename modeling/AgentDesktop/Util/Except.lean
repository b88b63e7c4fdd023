import Mathlib.Data.List.Forall2

/-!
# Programs that may fail

Inversion rules for `Except`: when a sequence of steps succeeds, each step did.
A loop that succeeds made a step at every element, so an invariant the steps
keep holds at its end.

A program meets a pair of postconditions, one for its result and one for its
error (`Except.Ensures`); the rules follow how programs are put together.
-/

namespace Except

universe u

variable {ε : Type*} {α β σ : Type u}

theorem bind_eq_ok_iff {x : Except ε α} {f : α → Except ε β} {b : β} :
    (x >>= f) = .ok b ↔ ∃ a, x = .ok a ∧ f a = .ok b := by
  cases x with
  | error e => simp [bind, Except.bind]
  | ok a => simp [bind, Except.bind]

theorem map_eq_ok_iff {x : Except ε α} {f : α → β} {b : β} :
    x.map f = .ok b ↔ ∃ a, x = .ok a ∧ f a = b := by
  cases x <;> simp [Except.map]

theorem mapError_eq_ok_iff {δ : Type*} {x : Except ε α} {f : ε → δ} {a : α} :
    x.mapError f = .ok a ↔ x = .ok a := by
  cases x <;> simp [Except.mapError]

theorem pure_eq_ok_iff {a b : α} : (pure a : Except ε α) = .ok b ↔ a = b := by
  simp [pure, Except.pure]

theorem eq_ok_of_toOption {x : Except ε α} {a : α} (h : x.toOption = some a) : x = .ok a := by
  cases x with
  | error e => exact absurd h.symm (Option.some_ne_none a)
  | ok b => exact congrArg Except.ok (Option.some.inj h)

/-- A check: nothing when the condition holds, else the error. -/
def ensure (condition : Bool) (error : ε) : Except ε PUnit.{u + 1} :=
  if condition then .ok ⟨⟩ else .error error

@[simp] theorem ensure_eq_ok_iff {condition : Bool} {error : ε} {u : PUnit} :
    ensure condition error = .ok u ↔ condition = true := by
  unfold ensure
  cases condition <;> simp

theorem mapM_eq_ok_iff {f : α → Except ε β} {l : List α} {l' : List β} :
    l.mapM f = .ok l' ↔ List.Forall₂ (fun a b => f a = .ok b) l l' := by
  induction l generalizing l' with
  | nil =>
    rw [List.mapM_nil, pure_eq_ok_iff, List.forall₂_nil_left_iff, eq_comm]
  | cons a l ih =>
    rw [List.mapM_cons, bind_eq_ok_iff]
    constructor
    · rintro ⟨b, hb, h⟩
      rw [bind_eq_ok_iff] at h
      obtain ⟨bs, hbs, h⟩ := h
      obtain rfl := pure_eq_ok_iff.mp h
      exact .cons hb (ih.mp hbs)
    · intro h
      cases h with
      | cons hb hbs => exact ⟨_, hb, bind_eq_ok_iff.mpr ⟨_, ih.mpr hbs, rfl⟩⟩

theorem mapM_succeeds {f : α → Except ε β} {l : List α} (h : ∀ a ∈ l, ∃ b, f a = .ok b) :
    ∃ l', l.mapM f = .ok l' := by
  induction l with
  | nil => exact ⟨[], rfl⟩
  | cons a l ih =>
    obtain ⟨b, hb⟩ := h a List.mem_cons_self
    obtain ⟨bs, hbs⟩ := ih (fun a ha => h a (List.mem_cons_of_mem _ ha))
    exact ⟨b :: bs, mapM_eq_ok_iff.mpr (.cons hb (mapM_eq_ok_iff.mp hbs))⟩

/-- **The loop rule**: what every step keeps, the loop keeps. -/
theorem foldlM_invariant {f : σ → α → Except ε σ} {I : σ → Prop} {l : List α}
    (step : ∀ s, ∀ a ∈ l, ∀ s', I s → f s a = .ok s' → I s') {s s' : σ} (hs : I s)
    (h : l.foldlM f s = .ok s') : I s' := by
  induction l generalizing s with
  | nil =>
    obtain rfl := pure_eq_ok_iff.mp h
    exact hs
  | cons a l ih =>
    rw [List.foldlM_cons, bind_eq_ok_iff] at h
    obtain ⟨mid, hmid, h⟩ := h
    exact ih (fun s b hb => step s b (List.mem_cons_of_mem _ hb))
      (step s a List.mem_cons_self mid hs hmid) h

/-! ## Postconditions for the result and for the error -/

/-- **The result satisfies the first, the error the second.** -/
def Ensures (x : Except ε α) (post : α → Prop) (onError : ε → Prop) : Prop :=
  match x with
  | .ok a => post a
  | .error e => onError e

@[simp] theorem ensures_ok {a : α} {post : α → Prop} {onError : ε → Prop} :
    Ensures (.ok a) post onError ↔ post a := Iff.rfl

@[simp] theorem ensures_error {e : ε} {post : α → Prop} {onError : ε → Prop} :
    Ensures (.error e) post onError ↔ onError e := Iff.rfl

theorem Ensures.of_ok {x : Except ε α} {post : α → Prop} {onError : ε → Prop}
    (h : x.Ensures post onError) {a : α} (hx : x = .ok a) : post a := by
  subst hx
  exact h

theorem Ensures.of_error {x : Except ε α} {post : α → Prop} {onError : ε → Prop}
    (h : x.Ensures post onError) {e : ε} (hx : x = .error e) : onError e := by
  subst hx
  exact h

theorem Ensures.intro {x : Except ε α} {post : α → Prop} {onError : ε → Prop}
    (hok : ∀ a, x = .ok a → post a) (herror : ∀ e, x = .error e → onError e) :
    x.Ensures post onError := by
  cases x with
  | ok a => exact hok a rfl
  | error e => exact herror e rfl

theorem ensures_true (x : Except ε α) : x.Ensures (fun _ => True) (fun _ => True) :=
  .intro (fun _ _ => trivial) (fun _ _ => trivial)

theorem Ensures.imp {x : Except ε α} {post post' : α → Prop} {onError onError' : ε → Prop}
    (h : x.Ensures post onError) (hpost : ∀ a, post a → post' a)
    (herror : ∀ e, onError e → onError' e) : x.Ensures post' onError' :=
  .intro (fun a hx => hpost a (h.of_ok hx)) (fun e hx => herror e (h.of_error hx))

theorem Ensures.bind {x : Except ε α} {f : α → Except ε β} {mid : α → Prop} {post : β → Prop}
    {onError : ε → Prop} (h : x.Ensures mid onError)
    (hf : ∀ a, x = .ok a → mid a → (f a).Ensures post onError) :
    (x >>= f).Ensures post onError := by
  cases x with
  | ok a => exact hf a rfl h
  | error e => exact h

/-- A loop that is left once there is no need to go on. -/
def untilStop (stop : σ → Bool) (step : α → σ → Except ε σ) : List α → σ → Except ε σ
  | [], state => .ok state
  | item :: rest, state =>
    if stop state then .ok state
    else step item state >>= untilStop stop step rest

/-- **The rule of a loop that may be left**: the invariant speaks of the items that are left,
and none is left unless the loop was stopped. -/
theorem untilStop_ensures {stop : σ → Bool} {step : α → σ → Except ε σ}
    {I : List α → σ → Prop} {onError : ε → Prop}
    (hstep : ∀ item rest state, I (item :: rest) state → stop state = false →
      (step item state).Ensures (I rest) onError)
    {items : List α} {state : σ} (h : I items state) :
    (untilStop stop step items state).Ensures
      (fun state' => ∃ rest, I rest state' ∧ (stop state' = false → rest = [])) onError := by
  induction items generalizing state with
  | nil => exact ⟨[], h, fun _ => rfl⟩
  | cons item rest ih =>
    unfold untilStop
    by_cases hstop : stop state = true
    · rw [if_pos hstop]
      exact ⟨item :: rest, h, fun hgo => absurd hstop (Bool.eq_false_iff.mp hgo)⟩
    · rw [if_neg hstop]
      exact (hstep item rest state h (Bool.eq_false_iff.mpr hstop)).bind (fun _ _ h => ih h)

end Except
