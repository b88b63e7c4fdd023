import Mathlib.Data.List.Basic

/-!
# Presses and releases

Among the events of a record some take hold of a thing and some let go of it. A
record is *paired* when each press is followed by a release of the same thing,
with nothing pressed or released in between, and each release follows a press in
the same way. At the end of a paired record nothing is held, and nothing was let
go of that was not held.
-/

/-- **What an event does to a thing.** -/
inductive Hold (η : Type*)
  /-- Nothing. -/
  | neutral
  /-- It takes hold of it. -/
  | press (thing : η)
  /-- It lets go of it. -/
  | release (thing : η)
  deriving DecidableEq

variable {ε η : Type*} (hold : ε → Hold η)

/-- **A paired record**. -/
structure Paired (events : List ε) : Prop where
  /-- Each press is followed by its release, and by nothing else before it. -/
  released : ∀ before event after thing, events = before ++ event :: after →
    hold event = .press thing →
      ∃ between up rest, after = between ++ up :: rest ∧ hold up = .release thing
        ∧ ∀ e ∈ between, hold e = .neutral
  /-- Each release follows its press, with nothing else in between. -/
  pressed : ∀ before event after thing, events = before ++ event :: after →
    hold event = .release thing →
      ∃ rest down between, before = rest ++ down :: between ∧ hold down = .press thing
        ∧ ∀ e ∈ between, hold e = .neutral

namespace Paired

variable {hold} {events events' : List ε}

theorem of_neutral (h : ∀ e ∈ events, hold e = .neutral) : Paired hold events where
  released before event after thing hsplit hpress := by
    have hneutral := h event (by rw [hsplit]; simp)
    rw [hneutral] at hpress
    cases hpress
  pressed before event after thing hsplit hrelease := by
    have hneutral := h event (by rw [hsplit]; simp)
    rw [hneutral] at hrelease
    cases hrelease

theorem nil : Paired hold ([] : List ε) := of_neutral (fun _ h => absurd h List.not_mem_nil)

theorem split_append {before after : List ε} {event : ε}
    (h : events ++ events' = before ++ event :: after) :
    (∃ rest, events = before ++ event :: rest ∧ after = rest ++ events')
      ∨ ∃ rest, before = events ++ rest ∧ events' = rest ++ event :: after := by
  rcases List.append_eq_append_iff.mp h with ⟨rest, hbefore, hevents'⟩ | ⟨rest, hevents, hafter⟩
  · exact Or.inr ⟨rest, hbefore, hevents'⟩
  · cases rest with
    | nil => exact Or.inr ⟨[], by simpa using hevents.symm, by simpa using hafter.symm⟩
    | cons head rest =>
      obtain ⟨rfl, hrest⟩ := List.cons.inj hafter
      exact Or.inl ⟨rest, hevents, hrest⟩

/-- **One paired record after another is paired.** -/
theorem append (h : Paired hold events) (h' : Paired hold events') :
    Paired hold (events ++ events') where
  released before event after thing hsplit hpress := by
    rcases split_append hsplit with ⟨rest, hevents, rfl⟩ | ⟨rest, rfl, hevents'⟩
    · obtain ⟨between, up, tail, rfl, hup, hbetween⟩ :=
        h.released before event rest thing hevents hpress
      exact ⟨between, up, tail ++ events', by simp, hup, hbetween⟩
    · exact h'.released rest event after thing hevents' hpress
  pressed before event after thing hsplit hrelease := by
    rcases split_append hsplit with ⟨rest, hevents, rfl⟩ | ⟨rest, rfl, hevents'⟩
    · exact h.pressed before event rest thing hevents hrelease
    · obtain ⟨head, down, between, rfl, hdown, hbetween⟩ :=
        h'.pressed rest event after thing hevents' hrelease
      exact ⟨events ++ head, down, between, by simp, hdown, hbetween⟩

/-- **A press with its release is paired**, whatever neutral events are between them. -/
theorem bracket {thing : η} {down up : ε} {between : List ε} (hdown : hold down = .press thing)
    (hup : hold up = .release thing) (hbetween : ∀ e ∈ between, hold e = .neutral) :
    Paired hold (down :: between ++ [up]) where
  released before event after thing' hsplit hpress := by
    cases before with
    | nil =>
      obtain ⟨rfl, rfl⟩ := List.cons.inj hsplit
      obtain rfl := Hold.press.inj (hdown.symm.trans hpress)
      exact ⟨between, up, [], rfl, hup, hbetween⟩
    | cons head before =>
      have hrest : between ++ [up] = before ++ event :: after := (List.cons.inj hsplit).2
      have hmem : event ∈ between ++ [up] := by rw [hrest]; simp
      rcases List.mem_append.mp hmem with hmem | hmem
      · exact absurd ((hbetween event hmem).symm.trans hpress) (by simp)
      · obtain rfl := List.mem_singleton.mp hmem
        exact absurd (hup.symm.trans hpress) (by simp)
  pressed before event after thing' hsplit hrelease := by
    cases before with
    | nil =>
      obtain ⟨rfl, -⟩ := List.cons.inj hsplit
      exact absurd (hdown.symm.trans hrelease) (by simp)
    | cons head before =>
      obtain ⟨rfl, hrest⟩ := List.cons.inj hsplit
      rcases split_append hrest with ⟨rest, rfl, -⟩ | ⟨rest, rfl, hlast⟩
      · exact absurd ((hbetween event (by simp)).symm.trans hrelease) (by simp)
      · cases rest with
        | nil =>
          obtain ⟨rfl, -⟩ := List.cons.inj hlast
          obtain rfl := Hold.release.inj (hup.symm.trans hrelease)
          exact ⟨[], down, between, by simp, hdown, hbetween⟩
        | cons head rest => exact absurd (List.cons.inj hlast).2 (by simp)

end Paired
