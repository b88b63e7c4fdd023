import AgentDesktop.Util.Effect

/-!
# Accounts of programs

An account of a program says that it ends, what is known of its value and of what it has recorded
by then, what is known of an error, and how many events of a kind it records at most. Accounts are
given along the structure of the program.
-/

namespace Prog

variable {σ Ev ε ε' α β : Type}

/-- **An account of one run.** -/
structure Account (counted : Ev → Bool) (limit : ℕ) (Q : α → List Ev → Prop) (R : ε → Prop)
    (o : Outcome ε α) (events : List Ev) : Prop where
  ended : o ≠ .running
  /-- Not many events are counted. -/
  few : events.countP counted ≤ limit
  /-- What is known of the value. -/
  value : ∀ a, o = .ok a → Q a events
  /-- What is known of an error. -/
  failed : ∀ e, o = .error e → R e

/-- **An account of a program.** -/
def Accounts (p : Prog σ Ev ε α) (counted : Ev → Bool) (limit : ℕ) (Q : α → List Ev → Prop)
    (R : ε → Prop) : Prop :=
  p.Sat (Account counted limit Q R)

namespace Accounts

variable {p : Prog σ Ev ε α} {f : α → Prog σ Ev ε β} {counted : Ev → Bool} {n m : ℕ}
  {Q Q' : α → List Ev → Prop} {S : β → List Ev → Prop} {R R' : ε → Prop}

theorem mono (h : p.Accounts counted n Q R) (hn : n ≤ m) (hQ : ∀ a events, Q a events → Q' a events)
    (hR : ∀ e, R e → R' e) : p.Accounts counted m Q' R' :=
  Sat.mono h (fun _ events ha => ⟨ha.ended, Nat.le_trans ha.few hn, fun a ho => hQ a events (ha.value a ho),
    fun e ho => hR e (ha.failed e ho)⟩)

theorem pure {a : α} (h : Q a []) : (Pure.pure a : Prog σ Ev ε α).Accounts counted n Q R := by
  refine sat_pure ⟨fun ho => (by cases ho), Nat.zero_le _, fun b ho => ?_, fun e ho => (by cases ho)⟩
  rw [← Outcome.ok.inj ho]
  exact h

theorem ofExcept {x : Except ε α} (hok : ∀ a, x = .ok a → Q a []) (herror : ∀ e, x = .error e → R e) :
    (Prog.ofExcept x : Prog σ Ev ε α).Accounts counted n Q R :=
  sat_ofExcept
    (fun a hx => ⟨fun ho => (by cases ho), Nat.zero_le _,
      fun b ho => Outcome.ok.inj ho ▸ hok a hx, fun e ho => (by cases ho)⟩)
    (fun e hx => ⟨fun ho => (by cases ho), Nat.zero_le _, fun b ho => (by cases ho),
      fun e' ho => Outcome.error.inj ho ▸ herror e hx⟩)

theorem call {op : σ → Except ε α × σ} (hok : ∀ s a, (op s).1 = .ok a → Q a [])
    (herror : ∀ s e, (op s).1 = .error e → R e) :
    (Prog.call op : Prog σ Ev ε α).Accounts counted n Q R :=
  fun s => ofExcept (hok s) (herror s) (op s).2

/-- **The rule of sequence**: what is counted adds up. -/
theorem bind (hp : p.Accounts counted n Q R)
    (hf : ∀ a before, Q a before →
      (f a).Accounts counted m (fun b events => S b (before ++ events)) R) :
    (p >>= f).Accounts counted (n + m) S R := by
  refine Sat.bind hp (fun a before ha => ?_) (fun e before ha => ?_)
    (fun before ha => absurd rfl ha.ended)
  · refine Sat.mono (hf a before (ha.value a rfl))
      (fun o events hb => ⟨hb.ended, ?_, hb.value, hb.failed⟩)
    rw [List.countP_append]
    exact Nat.add_le_add ha.few hb.few
  · refine ⟨fun ho => (by cases ho), Nat.le_trans ha.few (Nat.le_add_right n m),
      fun b ho => (by cases ho), fun e' ho => ?_⟩
    rw [← Outcome.error.inj ho]
    exact ha.failed e rfl

theorem ask_bind {op : σ → α × σ} (hf : ∀ s, (f (op s).1).Accounts counted n S R) :
    (Prog.ask op >>= f).Accounts counted n S R :=
  fun s => hf s (op s).2

theorem emit_bind {event : Ev} {g : Unit → Prog σ Ev ε β}
    (hg : (g ()).Accounts counted m (fun b events => S b (event :: events)) R) :
    (Prog.emit event >>= g).Accounts counted (m + 1) S R := by
  refine sat_emit_bind (Sat.mono hg (fun o events hb => ⟨hb.ended, ?_, hb.value, hb.failed⟩))
  rw [List.countP_cons]
  exact Nat.add_le_add hb.few (by cases counted event <;> decide)

theorem emit_bind_of_not {event : Ev} {g : Unit → Prog σ Ev ε β} (hevent : counted event = false)
    (hg : (g ()).Accounts counted m (fun b events => S b (event :: events)) R) :
    (Prog.emit event >>= g).Accounts counted m S R := by
  refine sat_emit_bind (Sat.mono hg (fun o events hb => ⟨hb.ended, ?_, hb.value, hb.failed⟩))
  rw [List.countP_cons_of_neg (by rw [hevent]; exact Bool.false_ne_true)]
  exact hb.few

theorem attempt {R' : ε' → Prop} (hp : p.Accounts counted n Q R) :
    (p.attempt : Prog σ Ev ε' _).Accounts counted n
      (fun r events => ∀ a, r = .ok a → Q a events) R' := by
  refine Sat.attempt hp (fun a events ha => ?_) (fun e events ha => ?_)
    (fun events ha => absurd rfl ha.ended)
  · refine ⟨fun ho => (by cases ho), ha.few, fun r hr b hb => ?_, fun e ho => (by cases ho)⟩
    rw [← Outcome.ok.inj hr] at hb
    exact ha.value b (congrArg Outcome.ok (Except.ok.inj hb))
  · refine ⟨fun ho => (by cases ho), ha.few, fun r hr b hb => ?_, fun e ho => (by cases ho)⟩
    rw [← Outcome.ok.inj hr] at hb
    cases hb

theorem ite {c : Prop} [Decidable c] {q : Prog σ Ev ε α} (hp : c → p.Accounts counted n Q R)
    (hq : ¬c → q.Accounts counted n Q R) : (if c then p else q).Accounts counted n Q R := by
  by_cases h : c
  · rw [if_pos h]
    exact hp h
  · rw [if_neg h]
    exact hq h

end Accounts

end Prog
