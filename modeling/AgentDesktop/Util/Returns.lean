import Mathlib.Data.List.Basic

/-!
# What a stateful computation returns, and what it does to the state

A computation over a state that the world may change returns whatever the world lets it
return. `Returns p Q` says that its value satisfies `Q` all the same, from every state, and
`Moves p R` that the state it leaves is related by `R` to the one it found. The rules below
prove both along the structure of the computation; a relation that is a preorder passes from
the parts to the whole.
-/

variable {σ ε α β : Type}

/-- **From every state the value satisfies a condition.** -/
def Returns (p : StateM σ α) (Q : α → Prop) : Prop := ∀ s, Q (p s).1

/-- **Every state is related to the one that is left.** -/
def Moves (R : σ → σ → Prop) (p : StateM σ α) : Prop := ∀ s, R s (p s).2

/-- **Whenever the computation does not fail, the value satisfies a condition.** -/
def Yields (p : ExceptT ε (StateM σ) α) (Q : α → Prop) : Prop :=
  ∀ s value, (p.run s).1 = .ok value → Q value

namespace Returns

variable {p : StateM σ α} {Q : α → Prop}

theorem pure {value : α} (h : Q value) : Returns (σ := σ) (Pure.pure value) Q := fun _ => h

theorem bind {f : α → StateM σ β} {R : β → Prop} (h : Returns p Q)
    (hf : ∀ value, Q value → Returns (f value) R) : Returns (p >>= f) R :=
  fun s => hf _ (h s) _

theorem bind' {f : α → StateM σ β} {R : β → Prop} (hf : ∀ value, Returns (f value) R) :
    Returns (p >>= f) R :=
  fun s => hf (p s).1 (p s).2

theorem ite {c : Prop} [Decidable c] {q : StateM σ α} (hp : c → Returns p Q)
    (hq : ¬ c → Returns q Q) : Returns (if c then p else q) Q := by
  by_cases h : c
  · rw [if_pos h]
    exact hp h
  · rw [if_neg h]
    exact hq h

end Returns

namespace Moves

variable {R : σ → σ → Prop} {p : StateM σ α}

theorem pure (hrefl : ∀ s, R s s) (value : α) : Moves R (Pure.pure value : StateM σ α) :=
  fun s => hrefl s

theorem bind (htrans : ∀ s t u, R s t → R t u → R s u) {f : α → StateM σ β} (h : Moves R p)
    (hf : ∀ value, Moves R (f value)) : Moves R (p >>= f) :=
  fun s => htrans _ _ _ (h s) (hf _ _)

theorem ite {c : Prop} [Decidable c] {q : StateM σ α} (hp : Moves R p) (hq : Moves R q) :
    Moves R (if c then p else q) := by
  by_cases h : c
  · rw [if_pos h]
    exact hp
  · rw [if_neg h]
    exact hq

theorem bindExcept (hrefl : ∀ s, R s s) (htrans : ∀ s t u, R s t → R t u → R s u)
    {p : ExceptT ε (StateM σ) α} {f : α → ExceptT ε (StateM σ) β} (h : Moves R p.run)
    (hf : ∀ value, Moves R (f value).run) : Moves R (p >>= f).run := by
  show Moves R (p.run >>= ExceptT.bindCont f)
  refine Moves.bind htrans h (fun result => ?_)
  cases result with
  | error error => exact fun s => hrefl s
  | ok value => exact hf value

end Moves

namespace Yields

variable {p : ExceptT ε (StateM σ) α} {Q : α → Prop}

theorem pure {value : α} (h : Q value) : Yields (Pure.pure value : ExceptT ε (StateM σ) α) Q := by
  intro s value' hvalue
  obtain rfl := Except.ok.inj hvalue
  exact h

theorem throw (error : ε) : Yields (throwThe ε error : ExceptT ε (StateM σ) α) Q :=
  fun _ _ hvalue => nomatch hvalue

theorem bind {f : α → ExceptT ε (StateM σ) β} {R : β → Prop} (h : Yields p Q)
    (hf : ∀ value, Q value → Yields (f value) R) : Yields (p >>= f) R := by
  intro s value hvalue
  have hrun : ((p >>= f).run s) = (ExceptT.bindCont f (p.run s).1) (p.run s).2 := rfl
  rw [hrun] at hvalue
  cases hfirst : (p.run s).1 with
  | error error =>
    rw [hfirst] at hvalue
    exact nomatch hvalue
  | ok first =>
    rw [hfirst] at hvalue
    exact hf first (h s first hfirst) _ value hvalue

theorem bind' {f : α → ExceptT ε (StateM σ) β} {R : β → Prop} (hf : ∀ value, Yields (f value) R) :
    Yields (p >>= f) R :=
  Yields.bind (fun _ _ _ => trivial) (fun value _ => hf value)

theorem ite {c : Prop} [Decidable c] {q : ExceptT ε (StateM σ) α} (hp : c → Yields p Q)
    (hq : ¬ c → Yields q Q) : Yields (if c then p else q) Q := by
  by_cases h : c
  · rw [if_pos h]
    exact hp h
  · rw [if_neg h]
    exact hq h

end Yields
