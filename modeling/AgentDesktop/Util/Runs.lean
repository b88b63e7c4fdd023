import Mathlib.Data.List.Basic

/-!
# Runs of a system whose steps may record an event

A step leads from one state to another, and may record an event. A run is a
sequence of steps with the events they recorded. Four rules speak of all runs:
an invariant that each step keeps holds in every state reached; so does an
account of the events so far; what a marked event brings about and no other step
takes away holds ever after; and what only comes about with a marked event has
such an event before it.
-/

variable {σ ε : Type*}

/-- **A run** from a first state: the events recorded, and the state reached. -/
inductive Runs (step : σ → Option ε → σ → Prop) (first : σ) : List ε → σ → Prop
  /-- Nothing has happened. -/
  | refl : Runs step first [] first
  /-- One step more. -/
  | snoc {events : List ε} {s s' : σ} {event : Option ε}
    (hrun : Runs step first events s) (hstep : step s event s') :
    Runs step first (events ++ event.toList) s'

namespace Runs

variable {step step' : σ → Option ε → σ → Prop} {first s : σ} {events : List ε}

theorem mono (h : Runs step first events s)
    (himp : ∀ s event s', step s event s' → step' s event s') : Runs step' first events s := by
  induction h with
  | refl => exact .refl
  | snoc _ hstep ih => exact ih.snoc (himp _ _ _ hstep)

/-- **An invariant** holds in every state reached. -/
theorem invariant {I : σ → Prop} (h : Runs step first events s) (hfirst : I first)
    (hkept : ∀ s event s', I s → step s event s' → I s') : I s := by
  induction h with
  | refl => exact hfirst
  | snoc _ hstep ih => exact hkept _ _ _ ih hstep

/-- **An account** of what is recorded holds in every state reached, with the events so far. -/
theorem account {I : List ε → σ → Prop} (h : Runs step first events s) (hfirst : I [] first)
    (hkept : ∀ events s event s', I events s → step s event s' → I (events ++ event.toList) s') :
    I events s := by
  induction h with
  | refl => exact hfirst
  | snoc _ hstep ih => exact hkept _ _ _ _ ih hstep

/-- **Ever after**: what a marked event brings about and each step keeps that does not spoil it
holds at the end of a run with a marked event and no spoiling one after it. The induction is on
the run; the marked event is its last one, or was there before. -/
theorem ever_after {I Q : σ → Prop} {mark spoils : ε → Prop} (h : Runs step first events s)
    (hfirst : I first) (hinv : ∀ s event s', I s → step s event s' → I s')
    (hmark : ∀ s event s', I s → step s (some event) s' → mark event → Q s')
    (hkept : ∀ s event s', I s → step s event s' → (∀ e ∈ event, ¬spoils e) → Q s → Q s')
    {before after : List ε} {event : ε} (hsplit : events = before ++ event :: after)
    (hevent : mark event) (hafter : ∀ e ∈ after, ¬spoils e) : Q s := by
  induction h generalizing before after with
  | refl => exact absurd hsplit.symm (by simp)
  | @snoc events s s' last hrun hstep ih =>
    have hinvariant : I s := hrun.invariant hfirst hinv
    cases last with
    | none =>
      have hsplit : events = before ++ event :: after := by simpa using hsplit
      exact hkept s none s' hinvariant hstep (fun e he => nomatch he) (ih hsplit hafter)
    | some last =>
      rcases List.eq_nil_or_concat after with rfl | ⟨after', e, rfl⟩
      · obtain ⟨-, heq⟩ := List.append_inj' hsplit rfl
        obtain rfl : last = event := List.head_eq_of_cons_eq heq
        exact hmark s last s' hinvariant hstep hevent
      · have hsplit : events ++ [last] = (before ++ event :: after') ++ [e] := by
          simpa using hsplit
        obtain ⟨hevents, heq⟩ := List.append_inj' hsplit rfl
        obtain rfl : last = e := List.head_eq_of_cons_eq heq
        refine hkept s (some last) s' hinvariant hstep (fun e he => ?_) (ih hevents ?_)
        · obtain rfl : last = e := Option.some.inj he
          exact hafter last (by simp)
        · exact fun e he => hafter e (by simp [he])

/-- **Before**: what does not hold at first, and comes about only with a marked event, has a
marked event before it. -/
theorem exists_before {Q : σ → Prop} {mark : ε → Prop} (h : Runs step first events s)
    (hfirst : ¬Q first)
    (hmark : ∀ s event s', step s event s' → Q s' → Q s ∨ ∃ e ∈ event, mark e) (hQ : Q s) :
    ∃ event ∈ events, mark event := by
  induction h with
  | refl => exact absurd hQ hfirst
  | snoc _ hstep ih =>
    rcases hmark _ _ _ hstep hQ with hbefore | ⟨e, he, hmarked⟩
    · obtain ⟨event, hevent, hmarked⟩ := ih hbefore
      exact ⟨event, List.mem_append_left _ hevent, hmarked⟩
    · exact ⟨e, List.mem_append_right _ (by simpa using he), hmarked⟩

theorem exists_step {before after : List ε} {event : ε}
    (h : Runs step first (before ++ event :: after) s) :
    ∃ t t', Runs step first before t ∧ step t (some event) t' := by
  generalize hevents : before ++ event :: after = events at h
  induction h generalizing after with
  | refl => exact absurd hevents (by simp)
  | @snoc events s s' last hrun hstep ih =>
    cases last with
    | none => exact ih (by simpa using hevents)
    | some last =>
      rcases List.eq_nil_or_concat after with rfl | ⟨after', e, rfl⟩
      · obtain ⟨rfl, heq⟩ := List.append_inj' hevents rfl
        obtain rfl : event = last := List.head_eq_of_cons_eq heq
        exact ⟨s, s', hrun, hstep⟩
      · have hevents : (before ++ event :: after') ++ [e] = events ++ [last] := by
          simpa using hevents
        exact ih (List.append_inj' hevents rfl).1

end Runs
