import AgentDesktop.Util.Effect

/-!
# What has been recorded by the time a value is given

A program that gives a value has recorded something on its way. A traced program comes with what
is known of the value and of what was recorded; nothing is said of a run without a value. The rules
follow the structure of the program.
-/

namespace Prog

variable {σ Ev ε ε' α β : Type}

/-- **What is known of a value and of the events before it.** -/
def Traced (p : Prog σ Ev ε α) (Q : α → List Ev → Prop) : Prop :=
  ∀ s a, p.outcome s = .ok a → Q a (p.events s)

namespace Traced

variable {p : Prog σ Ev ε α} {f : α → Prog σ Ev ε β} {Q Q' : α → List Ev → Prop}
  {R : β → List Ev → Prop}

theorem mono (h : p.Traced Q) (himp : ∀ a events, Q a events → Q' a events) : p.Traced Q' :=
  fun s a ha => himp a _ (h s a ha)

theorem pure {a : α} (h : Q a []) : (Pure.pure a : Prog σ Ev ε α).Traced Q :=
  fun _ _ ha => Outcome.ok.inj ha ▸ h

theorem fail (e : ε) : (Prog.fail e : Prog σ Ev ε α).Traced Q := fun _ _ ha => by cases ha

theorem ofExcept {x : Except ε α} (h : ∀ a, x = .ok a → Q a []) :
    (Prog.ofExcept x : Prog σ Ev ε α).Traced Q := by
  cases x with
  | ok a => exact fun _ _ ha => Outcome.ok.inj ha ▸ h a rfl
  | error e => exact fun _ _ ha => by cases ha

theorem call {op : σ → Except ε α × σ} (h : ∀ a, Q a []) :
    (Prog.call op : Prog σ Ev ε α).Traced Q :=
  fun s => ofExcept (x := (op s).1) (fun a _ => h a) (op s).2

theorem quiet (hp : p.Quiet) (h : ∀ a, Q a []) : p.Traced Q := by
  intro s a _
  have hevents : p.events s = [] := hp s
  rw [hevents]
  exact h a

theorem bind (hp : p.Traced Q)
    (hf : ∀ a before, Q a before → (f a).Traced (fun b events => R b (before ++ events))) :
    (p >>= f).Traced R := by
  intro s b hb
  have hrun : (andThen p f s).1 = .ok b := hb
  show R b (andThen p f s).2.2
  unfold andThen at hrun ⊢
  rcases hs : p s with ⟨o', s', before⟩
  rw [hs] at hrun
  cases o' with
  | ok a =>
    have hQ : Q a before := by
      have h := hp s a (congrArg Prod.fst hs)
      rwa [show p.events s = before from congrArg (fun run => run.2.2) hs] at h
    exact hf a before hQ s' b hrun
  | error e => cases hrun
  | running => cases hrun

theorem quiet_bind (hp : p.Quiet) (hf : ∀ a, (f a).Traced R) : (p >>= f).Traced R :=
  bind (quiet (Q := fun _ events => events = []) hp (fun _ => rfl))
    (fun a _ hbefore => by rw [hbefore]; exact hf a)

theorem emit_bind {event : Ev} {g : Unit → Prog σ Ev ε β}
    (hg : (g ()).Traced (fun b events => R b (event :: events))) :
    (Prog.emit event >>= g).Traced R :=
  fun s b hb => hg s b hb

theorem attempt (hp : p.Traced Q) :
    (p.attempt : Prog σ Ev ε' _).Traced (fun r events => ∀ a, r = .ok a → Q a events) := by
  intro s r hr a ha
  subst ha
  have hrun : (p.attempt s : Outcome ε' (Except ε α) × _).1 = .ok (.ok a) := hr
  show Q a (p.attempt s : Outcome ε' (Except ε α) × _).2.2
  unfold Prog.attempt at hrun ⊢
  rcases hs : p s with ⟨o', s', before⟩
  rw [hs] at hrun
  cases o' with
  | ok a' =>
    obtain rfl : a' = a := Except.ok.inj (Outcome.ok.inj hrun)
    have h := hp s a' (congrArg Prod.fst hs)
    rwa [show p.events s = before from congrArg (fun run => run.2.2) hs] at h
  | error e => cases Outcome.ok.inj hrun
  | running => cases hrun

theorem mapError {g : ε → ε'} (hp : p.Traced Q) : (p.mapError g).Traced Q := by
  intro s a ha
  refine hp s a ?_
  have hrun : (p s).1.mapError g = .ok a := ha
  show (p s).1 = .ok a
  cases ho : (p s).1 with
  | ok a' => exact congrArg Outcome.ok (Outcome.ok.inj (by rw [ho] at hrun; exact hrun))
  | error e => rw [ho] at hrun; cases hrun
  | running => rw [ho] at hrun; cases hrun

theorem ite {c : Prop} [Decidable c] {q : Prog σ Ev ε α} (hp : c → p.Traced Q)
    (hq : ¬c → q.Traced Q) : (if c then p else q).Traced Q := by
  by_cases h : c
  · rw [if_pos h]
    exact hp h
  · rw [if_neg h]
    exact hq h

end Traced

/-! ## Changing the value -/

theorem attempt_bind_pure (p : Prog σ Ev ε α) (f : α → β) :
    ((p >>= fun a => pure (f a)).attempt : Prog σ Ev ε' _)
      = p.attempt >>= fun r => pure (r.map f) := by
  funext s
  show Prog.attempt (andThen p (fun a => Pure.pure (f a))) s
    = andThen p.attempt (fun r => Pure.pure (r.map f)) s
  unfold Prog.attempt andThen
  rcases hp : p s with ⟨o, s', events⟩
  cases o with
  | ok a =>
    simp only [hp]
    rfl
  | error e =>
    simp only [hp]
    exact congrArg (fun l => (Outcome.ok (Except.error e), s', l)) (List.append_nil events).symm
  | running => simp only [hp]

theorem ofExcept_map (x : Except ε α) (f : α → β) :
    (ofExcept (x.map f) : Prog σ Ev ε β) = ofExcept x >>= fun a => pure (f a) := by
  cases x with
  | ok a => rfl
  | error e => rfl

end Prog
