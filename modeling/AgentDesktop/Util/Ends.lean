import AgentDesktop.Util.Effect

/-!
# Programs that end in one way, or with values of a kind

A program whose environment always answers the same ends in one way, from whatever state it is
run. Of other programs it may be known what values they give. The rules below find out both,
along the structure of the program.
-/

/-- The outcome of what is known already. -/
def Outcome.ofExcept {ε α : Type} : Except ε α → Outcome ε α
  | .ok a => .ok a
  | .error e => .error e

theorem Outcome.ofExcept_eq_ok_iff {ε α : Type} {x : Except ε α} {a : α} :
    Outcome.ofExcept x = .ok a ↔ x = .ok a := by
  cases x with
  | error error => exact ⟨fun h => (by cases h), fun h => (by cases h)⟩
  | ok value => exact ⟨fun h => congrArg _ (Outcome.ok.inj h), fun h => congrArg _ (Except.ok.inj h)⟩

namespace Prog

variable {σ Ev ε ε' α β : Type} {p : Prog σ Ev ε α} {f : α → Prog σ Ev ε β} {o : Outcome ε β}

/-- **How a program ends from every state.** -/
def Ends (p : Prog σ Ev ε α) (o : Outcome ε α) : Prop := ∀ s, p.outcome s = o

namespace Ends

theorem pure (a : α) : (Pure.pure a : Prog σ Ev ε α).Ends (.ok a) := fun _ => rfl

theorem fail (e : ε) : (Prog.fail e : Prog σ Ev ε α).Ends (.error e) := fun _ => rfl

theorem call {op : σ → Except ε α × σ} {a : α} (h : ∀ s, (op s).1 = .ok a) :
    (Prog.call op : Prog σ Ev ε α).Ends (.ok a) := by
  intro s
  show ((ofExcept (op s).1 : Prog σ Ev ε α) (op s).2).1 = .ok a
  rw [h s]
  rfl

theorem call_error {op : σ → Except ε α × σ} {e : ε} (h : ∀ s, (op s).1 = .error e) :
    (Prog.call op : Prog σ Ev ε α).Ends (.error e) := by
  intro s
  show ((ofExcept (op s).1 : Prog σ Ev ε α) (op s).2).1 = .error e
  rw [h s]
  rfl

theorem ask_bind {op : σ → α × σ} (h : ∀ s, (f (op s).1).Ends o) : (Prog.ask op >>= f).Ends o :=
  fun s => h s (op s).2

/-- **The rule of sequence**: what follows a value. -/
theorem bind {a : α} (hp : p.Ends (.ok a)) (hf : (f a).Ends o) : (p >>= f).Ends o := by
  intro s
  have hs : (p s).1 = .ok a := hp s
  show (andThen p f s).1 = o
  unfold andThen
  rcases hrun : p s with ⟨o', s', events⟩
  rw [hrun] at hs
  obtain rfl : o' = .ok a := hs
  exact hf s'

theorem bind_error {e : ε} (hp : p.Ends (.error e)) : (p >>= f).Ends (.error e) := by
  intro s
  have hs : (p s).1 = .error e := hp s
  show (andThen p f s).1 = .error e
  unfold andThen
  rcases hrun : p s with ⟨o', s', events⟩
  rw [hrun] at hs
  obtain rfl : o' = .error e := hs
  rfl

theorem attempt {a : α} (hp : p.Ends (.ok a)) :
    (p.attempt : Prog σ Ev ε' (Except ε α)).Ends (.ok (.ok a)) := by
  intro s
  have hs : (p s).1 = .ok a := hp s
  unfold Prog.outcome Prog.attempt
  rcases hrun : p s with ⟨o', s', events⟩
  rw [hrun] at hs
  obtain rfl : o' = .ok a := hs
  rfl

theorem attempt_error {e : ε} (hp : p.Ends (.error e)) :
    (p.attempt : Prog σ Ev ε' (Except ε α)).Ends (.ok (.error e)) := by
  intro s
  have hs : (p s).1 = .error e := hp s
  unfold Prog.outcome Prog.attempt
  rcases hrun : p s with ⟨o', s', events⟩
  rw [hrun] at hs
  obtain rfl : o' = .error e := hs
  rfl

end Ends

/-- **A program that a pure computation mirrors**: it ends as the computation says, from every
state, and records nothing. -/
def Mirrors (p : Prog σ Ev ε α) (x : Except ε α) : Prop :=
  p.Sat (fun o events => o = Outcome.ofExcept x ∧ events = [])

namespace Mirrors

theorem pure (a : α) : (Pure.pure a : Prog σ Ev ε α).Mirrors (.ok a) := fun _ => ⟨rfl, rfl⟩

theorem fail (e : ε) : (Prog.fail e : Prog σ Ev ε α).Mirrors (.error e) := fun _ => ⟨rfl, rfl⟩

theorem ofExcept (x : Except ε α) : (Prog.ofExcept x : Prog σ Ev ε α).Mirrors x := by
  cases x with
  | ok a => exact pure a
  | error e => exact fail e

theorem call {op : σ → Except ε α × σ} {x : Except ε α} (h : ∀ s, (op s).1 = x) :
    (Prog.call op : Prog σ Ev ε α).Mirrors x := by
  intro s
  show ((Prog.ofExcept (op s).1 : Prog σ Ev ε α) (op s).2).1 = _ ∧ _
  rw [h s]
  exact ⟨(ofExcept x (op s).2).1, by rw [← (ofExcept x (op s).2).2, ← h s]; rfl⟩

theorem ask_bind {op : σ → α × σ} {x : Except ε β} (h : ∀ s, (f (op s).1).Mirrors x) :
    (Prog.ask op >>= f).Mirrors x :=
  fun s => h s (op s).2

/-- **The rule of sequence**: a sequence is mirrored by the sequence of the mirrors. -/
theorem bind {x : Except ε α} {g : α → Except ε β} (hp : p.Mirrors x)
    (hf : ∀ a, x = .ok a → (f a).Mirrors (g a)) : (p >>= f).Mirrors (x >>= g) := by
  cases x with
  | ok a =>
    refine Sat.bind hp (fun a' events h => ?_) (fun _ _ h => absurd h.1 (by simp [Outcome.ofExcept]))
      (fun _ h => absurd h.1 (by simp [Outcome.ofExcept]))
    obtain rfl : a' = a := Outcome.ok.inj h.1
    rw [h.2]
    exact hf a' rfl
  | error e =>
    refine Sat.bind hp (fun _ _ h => absurd h.1 (by simp [Outcome.ofExcept])) (fun e' events h => ?_)
      (fun _ h => absurd h.1 (by simp [Outcome.ofExcept]))
    exact ⟨congrArg Outcome.error (Outcome.error.inj h.1), h.2⟩

theorem ite {c : Prop} [Decidable c] {q : Prog σ Ev ε α} {x y : Except ε α}
    (hp : c → p.Mirrors x) (hq : ¬c → q.Mirrors y) :
    (if c then p else q).Mirrors (if c then x else y) := by
  by_cases h : c
  · rw [if_pos h, if_pos h]
    exact hp h
  · rw [if_neg h, if_neg h]
    exact hq h

end Mirrors

/-- **What values a program gives**, from whatever state. -/
def Gives (p : Prog σ Ev ε α) (Q : α → Prop) : Prop := ∀ s a, p.outcome s = .ok a → Q a

namespace Gives

variable {Q : α → Prop} {R : β → Prop}

theorem pure {a : α} (h : Q a) : (Pure.pure a : Prog σ Ev ε α).Gives Q :=
  fun _ _ ha => Outcome.ok.inj ha ▸ h

theorem fail (e : ε) : (Prog.fail e : Prog σ Ev ε α).Gives Q := fun _ _ ha => by cases ha

theorem ofExcept {x : Except ε α} (h : ∀ a, x = .ok a → Q a) :
    (Prog.ofExcept x : Prog σ Ev ε α).Gives Q := by
  cases x with
  | ok a => exact fun _ _ ha => Outcome.ok.inj ha ▸ h a rfl
  | error e => exact fun _ _ ha => by cases ha

/-- **The rule of sequence**: what is known of the first value holds before the rest. -/
theorem bind (hp : p.Gives Q) (hf : ∀ a, Q a → (f a).Gives R) : (p >>= f).Gives R := by
  intro s b hb
  have hrun : (andThen p f s).1 = .ok b := hb
  unfold andThen at hrun
  rcases hs : p s with ⟨o', s', events⟩
  rw [hs] at hrun
  cases o' with
  | ok a => exact hf a (hp s a (congrArg Prod.fst hs)) s' b hrun
  | error e => cases hrun
  | running => cases hrun

theorem bind' (hf : ∀ a, (f a).Gives R) : (p >>= f).Gives R :=
  bind (Q := fun _ => True) (fun _ _ _ => trivial) (fun a _ => hf a)

theorem ite {c : Prop} [Decidable c] {q : Prog σ Ev ε α} (hp : c → p.Gives Q)
    (hq : ¬c → q.Gives Q) : (if c then p else q).Gives Q := by
  by_cases h : c
  · rw [if_pos h]
    exact hp h
  · rw [if_neg h]
    exact hq h

end Gives

end Prog
